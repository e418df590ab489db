import OpenairSpgwc.Foundation.Octets

/-!
Contract: the fields that the value of an element is made of.

Owns:
- octets put together from bits, and fields that are there when a flag is set;
- reading of such fields, and of integers that are small for their bits.
-/

namespace OpenairSpgwc.Foundation

theorem word_octet (octet : Octet) : word 1 octet = [octet] := by
  rw [word, toBe, toBe, pow_zero, Nat.div_one, BitVec.ofNat_toNat, BitVec.setWidth_eq]

/-- An octet with these bits, the least significant first. -/
def bits (flags : List Bool) : Octet := (BitVec.ofBoolListLE flags).setWidth 8

@[simp] theorem getLsbD_bits {flags : List Bool} {i : Nat} (inside : i < 8) :
    (bits flags).getLsbD i = flags.getD i false := by
  rw [bits, BitVec.getLsbD_setWidth, decide_eq_true inside, Bool.true_and,
    BitVec.getLsbD_ofBoolListLE]

/-- A field that is there when its flag is set. -/
def present (flag : Bool) (octets : Octets) : Octets := if flag then octets else []

/-- The octets of a field that is there when its flag is set. -/
def declaredFor (flag : Bool) (n : Nat) : Nat := if flag then n else 0

@[simp] theorem length_present (flag : Bool) (octets : Octets) :
    (present flag octets).length = declaredFor flag octets.length := by
  cases flag <;> rfl

section Reads

variable {ε α : Type} {scan : Scan ε α} {octets : Octets} {value : α}

/-- A field that is read when its flag is set. -/
def Scan.optional (flag : Bool) (field : Scan ε α) (absent : α) : Scan ε α :=
  if flag then field else pure absent

/-- An integer that is small for its bits. -/
theorem Reads.small {w n : Nat} {value : BitVec w} (small : value.toNat < 256 ^ n) :
    Reads (Scan.number n w : Scan ε (BitVec w)) (word n value) value := by
  have read : Reads (Scan.number n w : Scan ε (BitVec w)) (word n value)
      (BitVec.ofNat w (ofBe (word n value))) :=
    (Reads.read (by rw [length_word, List.length_replicate])).finish
  rwa [word, ofBe_toBe, Nat.mod_eq_of_lt small, BitVec.ofNat_toNat, BitVec.setWidth_eq] at read

/-- An octet read into memory that holds one. -/
theorem Reads.intoOctet {old : Octets} (size : old.length = 1) (value : Octet) :
    Reads (Scan.into old 8 : Scan ε Octet) [value] value := by
  have result : Reads (Scan.into old 8 : Scan ε Octet) (word 1 value) value :=
    .into size (by decide) value
  rw [word_octet] at result
  exact result

theorem Reads.optional {flag : Bool} {absent : α} (field : Reads scan octets value)
    (empty : flag = false → value = absent) :
    Reads (Scan.optional flag scan absent) (present flag octets) value := by
  cases flag with
  | false =>
      rw [empty rfl]
      exact .pure absent
  | true => exact field

end Reads

end OpenairSpgwc.Foundation
