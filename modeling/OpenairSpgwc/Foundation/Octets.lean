import Mathlib.Tactic

/-!
Contract: octet strings, unsigned integers in network byte order, and reading
from a stream of octets.

A stream remembers whether a read has failed. A read that finds too few octets
stores those that are there and fails; after a failure nothing is read any more.
What is not stored keeps the contents the memory had before.

Owns:
- integers of a fixed number of octets and back;
- `Scan`, computations over a stream that may raise an exception, leave what the
  language defines, or not return;
- `Reads`: a computation takes exactly a given string from the stream, whatever
  follows it.
-/

namespace OpenairSpgwc.Foundation

abbrev Octet := BitVec 8

abbrev Octets := List Octet

/-! ## Integers -/

/-- The last `n` octets of an integer, the most significant first. -/
def toBe : Nat → Nat → Octets
  | 0, _ => []
  | n + 1, value => BitVec.ofNat 8 (value / 256 ^ n) :: toBe n value

def ofBe (octets : Octets) : Nat :=
  octets.foldl (fun value octet => 256 * value + octet.toNat) 0

@[simp] theorem length_toBe (n value : Nat) : (toBe n value).length = n := by
  induction n with
  | zero => rfl
  | succ n inductionHypothesis => rw [toBe, List.length_cons, inductionHypothesis]

theorem foldl_toBe (n value start : Nat) :
    (toBe n value).foldl (fun value octet => 256 * value + octet.toNat) start =
      start * 256 ^ n + value % 256 ^ n := by
  induction n generalizing start with
  | zero => simp [toBe, Nat.mod_one]
  | succ n inductionHypothesis =>
      rw [toBe, List.foldl_cons, inductionHypothesis, BitVec.toNat_ofNat]
      have split : value % 256 ^ (n + 1) = value / 256 ^ n % 2 ^ 8 * 256 ^ n + value % 256 ^ n := by
        rw [pow_succ, Nat.mod_mul, Nat.mul_comm, Nat.add_comm, show 2 ^ 8 = 256 from rfl]
      rw [split, pow_succ]
      ring

theorem ofBe_toBe (n value : Nat) : ofBe (toBe n value) = value % 256 ^ n := by
  rw [ofBe, foldl_toBe, Nat.zero_mul, Nat.zero_add]

/-- An integer of `w` bits in `n` octets. -/
def word {w : Nat} (n : Nat) (value : BitVec w) : Octets := toBe n value.toNat

@[simp] theorem length_word {w : Nat} (n : Nat) (value : BitVec w) : (word n value).length = n :=
  length_toBe n value.toNat

theorem ofNat_ofBe_word {w n : Nat} (fits : w ≤ 8 * n) (value : BitVec w) :
    BitVec.ofNat w (ofBe (word n value)) = value := by
  apply BitVec.eq_of_toNat_eq
  have bound : value.toNat < 256 ^ n := by
    calc
      value.toNat < 2 ^ w := value.isLt
      _ ≤ 2 ^ (8 * n) := Nat.pow_le_pow_right (by decide) fits
      _ = 256 ^ n := by rw [pow_mul, show 2 ^ 8 = 256 from rfl]
  rw [word, ofBe_toBe, Nat.mod_eq_of_lt bound, BitVec.toNat_ofNat, Nat.mod_eq_of_lt value.isLt]

/-! ## Streams -/

structure Stream where
  rest : Octets
  failed : Bool := false
deriving DecidableEq, Repr

/-- How a computation ends without a result. -/
inductive Fault (ε : Type) where
  | thrown (exception : ε)
  /-- An access outside of an object, or the use of a value that is none. -/
  | undefined
  /-- A loop that does not end. -/
  | diverges
  /-- More calls than the bound given for the evaluation. -/
  | exhausted
deriving DecidableEq, Repr

abbrev Scan (ε α : Type) := StateT Stream (Except (Fault ε)) α

/-- The contents of memory that has not been written yet. -/
abbrev Junk := Nat → Octet

def uninitialised (junk : Junk) (n : Nat) : Octets := (List.range n).map junk

@[simp] theorem length_uninitialised (junk : Junk) (n : Nat) :
    (uninitialised junk n).length = n := by
  rw [uninitialised, List.length_map, List.length_range]

namespace Scan

variable {ε α β : Type}

def fault (reason : Fault ε) : Scan ε α := fun _ => .error reason

def throw (exception : ε) : Scan ε α := fault (.thrown exception)

/-- `std::istream::read` into memory that holds `old`. -/
def read (old : Octets) : Scan ε Octets := fun stream =>
  if stream.failed then
    .ok (old, stream)
  else if old.length ≤ stream.rest.length then
    .ok (stream.rest.take old.length, { stream with rest := stream.rest.drop old.length })
  else
    .ok (stream.rest ++ old.drop stream.rest.length, ⟨[], true⟩)

/-- An integer of `w` bits read into memory that holds `old`. -/
def into (old : Octets) (w : Nat) : Scan ε (BitVec w) := do
  let octets ← read old
  pure (BitVec.ofNat w (ofBe octets))

/-- An integer of `w` bits from `n` octets. -/
def number (n w : Nat) : Scan ε (BitVec w) := into (List.replicate n 0) w

def octet : Scan ε Octet := number 1 8

end Scan

section Reads

variable {ε α β : Type} {scan : Scan ε α} {octets more : Octets} {value : α}

/-- The computation takes the string and no more. -/
def Reads (scan : Scan ε α) (octets : Octets) (value : α) : Prop :=
  ∀ tail, scan ⟨octets ++ tail, false⟩ = .ok (value, ⟨tail, false⟩)

/-- The computation raises an exception when it starts at the string, whatever
follows. -/
def Raises (scan : Scan ε α) (octets : Octets) : Prop :=
  ∀ tail, ∃ exception, scan ⟨octets ++ tail, false⟩ = .error (.thrown exception)

theorem scan_bind (scan : Scan ε α) (next : α → Scan ε β) (stream : Stream) :
    (scan >>= next) stream =
      match scan stream with
      | .ok (value, after) => next value after
      | .error reason => .error reason := by
  change (Except.bind (scan stream) fun result => next result.1 result.2) = _
  cases scan stream <;> rfl

theorem Reads.pure (value : α) : Reads (Pure.pure value : Scan ε α) [] value := fun _ => rfl

theorem Reads.bind {next : α → Scan ε β} {result : β} (first : Reads scan octets value)
    (second : Reads (next value) more result) : Reads (scan >>= next) (octets ++ more) result := by
  intro tail
  rw [scan_bind, List.append_assoc, first]
  exact second tail

/-- The result of a computation, put together by a function. -/
theorem Reads.finish {f : α → β} (first : Reads scan octets value) :
    Reads (scan >>= fun value => Pure.pure (f value)) octets (f value) := by
  intro tail
  rw [scan_bind, first]
  rfl

theorem Reads.bind_raises {next : α → Scan ε β} (first : Reads scan octets value)
    (second : Raises (next value) more) : Raises (scan >>= next) (octets ++ more) := by
  intro tail
  rw [scan_bind, List.append_assoc, first]
  exact second tail

theorem Raises.throw (exception : ε) : Raises (Scan.throw exception : Scan ε α) octets :=
  fun _ => ⟨exception, rfl⟩

theorem Raises.bind {next : α → Scan ε β} (first : Raises scan octets) :
    Raises (scan >>= next) octets := by
  intro tail
  obtain ⟨exception, raised⟩ := first tail
  exact ⟨exception, by rw [scan_bind, raised]⟩

theorem Reads.read {old : Octets} (size : octets.length = old.length) :
    Reads (Scan.read old : Scan ε Octets) octets octets := by
  intro tail
  have enough : old.length ≤ (octets ++ tail).length := by
    rw [List.length_append]
    omega
  rw [Scan.read, if_neg Bool.false_ne_true, if_pos enough, ← size, List.take_left,
    List.drop_left]

theorem Reads.into {old : Octets} {w n : Nat} (size : old.length = n) (fits : w ≤ 8 * n)
    (value : BitVec w) : Reads (Scan.into old w : Scan ε (BitVec w)) (word n value) value := by
  have taken : Reads (Scan.read old : Scan ε Octets) (word n value) (word n value) :=
    .read (by rw [length_word, size])
  have result : Reads (Scan.into old w : Scan ε (BitVec w)) (word n value)
      (BitVec.ofNat w (ofBe (word n value))) := taken.finish
  rw [ofNat_ofBe_word fits] at result
  exact result

theorem Reads.number {w n : Nat} (fits : w ≤ 8 * n) (value : BitVec w) :
    Reads (Scan.number n w : Scan ε (BitVec w)) (word n value) value :=
  .into List.length_replicate fits value

theorem Reads.octet (value : Octet) : Reads (Scan.octet : Scan ε Octet) [value] value := by
  have result : Reads (Scan.octet : Scan ε Octet) (word 1 value) value := .number (by decide) value
  rw [word, toBe, toBe, pow_zero, Nat.div_one, BitVec.ofNat_toNat, BitVec.setWidth_eq] at result
  exact result

/-- A computation takes one string. -/
theorem Reads.unique {tail : Octets} {result : α} (reads : Reads scan octets value)
    (ran : scan ⟨octets ++ tail, false⟩ = .ok (result, ⟨more, false⟩)) :
    result = value ∧ more = tail := by
  rw [reads tail] at ran
  cases ran
  exact ⟨rfl, rfl⟩

end Reads

end OpenairSpgwc.Foundation
