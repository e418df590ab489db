import OpenairSpgwc.Foundation.Octets

/-!
Contract: the label coding of APNs and FQDNs.

`gtpv2c_ie` and `pfcp_ie` have each `string_to_dotted` and `dotted_to_string`, with
the same bodies. `char` has a sign. The loops are bounded by an argument, and a call
that returns does so under every larger bound.

Owns:
- both functions, with what they do at the ends of their strings and buffers.

Does not own: the information elements around the coded names.
-/

namespace OpenairSpgwc.Common.Labels

open Foundation

/-- What the string operations raise. -/
inductive StringError where
  /-- `std::length_error`. -/
  | lengthError
deriving DecidableEq, Repr

abbrev Attempt (α : Type) := Except (Fault StringError) α

theorem ok_bind {α β : Type} (value : α) (next : α → Attempt β) :
    (Except.ok value : Attempt α) >>= next = next value := rfl

theorem error_bind {α β : Type} (reason : Fault StringError) (next : α → Attempt β) :
    (Except.error reason : Attempt α) >>= next = .error reason := rfl

/-- `'.'`. -/
def dot : Octet := 0x2E

/-- The octet at an index. Behind the last one there is a NUL. -/
def charAt (str : Octets) (index : Nat) : Attempt Octet :=
  match (str ++ [0])[index]? with
  | some octet => .ok octet
  | none => .error .undefined

/-- An octet is written to a buffer. -/
def store (value : Octets) (index : Nat) (octet : Octet) : Attempt Octets :=
  if index < value.length then .ok (value.set index octet) else .error .undefined

/-! ### `string_to_dotted` -/

/-- The variables of `string_to_dotted`; `lastSize` is the place that it points to. -/
structure Dotting where
  offset : BitVec 8 := 0
  lastSize : Nat := 0
  wordLength : Octet := 0
  value : Octets

/-- What a pass of the loop of `string_to_dotted` does with an octet. -/
def stringToDottedPass (s : Dotting) (octet : Octet) : Attempt Dotting :=
  if octet = dot then do
    -- the length of the word goes where the dot before it was
    let value ← store s.value s.lastSize s.wordLength
    pure { offset := s.offset + 1, lastSize := s.offset.toNat + 1, wordLength := 0, value }
  else do
    let value ← store s.value (s.offset.toNat + 1) octet
    pure { s with offset := s.offset + 1, wordLength := s.wordLength + 1, value }

/-- The loop of `string_to_dotted`. -/
def stringToDottedLoop (str : Octets) : Nat → Dotting → Attempt Dotting
  | 0, _ => .error .exhausted
  | fuel + 1, s => do
      let octet ← charAt str s.offset.toNat
      if octet = 0 then
        pure s
      else do
        let next ← stringToDottedPass s octet
        stringToDottedLoop str fuel next

/-- `string_to_dotted`: what it returns, and the coded string. The buffer is not
initialised. -/
def stringToDotted (fuel : Nat) (junk : Junk) (str : Octets) : Attempt (Bool × Octets) := do
  let s ← stringToDottedLoop str fuel { value := uninitialised junk (str.length + 1) }
  let value ← store s.value s.lastSize s.wordLength
  pure (true, value)

/-! ### `dotted_to_string` -/

/-- The greatest size of a string. -/
def maxSize : Nat := 2 ^ 62 - 1

/-- `std::string::append` of `count` octets of a string from `start` on. -/
def copyFrom (dotted : Octets) (start count : Nat) : Attempt Octets :=
  if maxSize < count then .error (.thrown .lengthError)
  else if start + count ≤ dotted.length + 1 then
    .ok (((dotted ++ [0]).drop start).take count)
  else .error .undefined

/-- The variables of `dotted_to_string`. The code has no `readEnd`, the end of what was
read of the coded string. -/
structure Undotting where
  offset : BitVec 16 := 0
  result : Bool := true
  noDot : Octets := []
  readEnd : Nat := 0

/-- The word behind a length octet is appended. -/
def appendWord (dotted : Octets) (s : Undotting) (length : Octet) : Attempt Undotting := do
  let count := (length.toInt % 2 ^ 64).toNat
  let separated := if s.offset = 0 then s.noDot else s.noDot ++ [dot]
  let word ← copyFrom dotted (s.offset.toNat + 1) count
  pure { s with
    noDot := separated ++ word
    readEnd := max s.readEnd (s.offset.toNat + 1 + count) }

/-- One pass of the loop of `dotted_to_string`. -/
def dottedToStringPass (dotted : Octets) (s : Undotting) : Attempt Undotting := do
  let length ← charAt dotted s.offset.toNat
  let s := { s with readEnd := max s.readEnd (s.offset.toNat + 1) }
  if length.toInt < 64 then
    -- the sum is an `int`, and it is compared as a `size_t`
    let s ← if ((s.offset.toNat + length.toInt) % 2 ^ 64).toNat ≤ dotted.length then
        appendWord dotted s length
      else pure s
    pure { s with offset := s.offset + 1 + length.signExtend 16 }
  else
    pure { s with offset := s.offset + 1, noDot := s.noDot ++ [length], result := false }

/-- The loop of `dotted_to_string`. -/
def dottedToStringLoop (dotted : Octets) : Nat → Undotting → Attempt Undotting
  | 0, _ => .error .exhausted
  | fuel + 1, s =>
      if s.offset.toNat < dotted.length then do
        let next ← dottedToStringPass dotted s
        dottedToStringLoop dotted fuel next
      else
        pure s

/-- `dotted_to_string`: what it returns, and the name. -/
def dottedToString (fuel : Nat) (dotted : Octets) : Attempt (Bool × Octets) := do
  let s ← dottedToStringLoop dotted fuel {}
  pure (s.result, s.noDot)

end OpenairSpgwc.Common.Labels

namespace OpenairSpgwc.Gtpv2c

open Foundation
open OpenairSpgwc.Common

/-- `gtpv2c_ie::string_to_dotted`. -/
def stringToDotted (fuel : Nat) (junk : Junk) (str : Octets) :
    Labels.Attempt (Bool × Octets) := Labels.stringToDotted fuel junk str

/-- `gtpv2c_ie::dotted_to_string`. -/
def dottedToString (fuel : Nat) (dotted : Octets) : Labels.Attempt (Bool × Octets) :=
  Labels.dottedToString fuel dotted

end OpenairSpgwc.Gtpv2c

namespace OpenairSpgwc.Pfcp

open Foundation
open OpenairSpgwc.Common

/-- `pfcp_ie::string_to_dotted`. -/
def stringToDotted (fuel : Nat) (junk : Junk) (str : Octets) :
    Labels.Attempt (Bool × Octets) := Labels.stringToDotted fuel junk str

/-- `pfcp_ie::dotted_to_string`. -/
def dottedToString (fuel : Nat) (dotted : Octets) : Labels.Attempt (Bool × Octets) :=
  Labels.dottedToString fuel dotted

end OpenairSpgwc.Pfcp
