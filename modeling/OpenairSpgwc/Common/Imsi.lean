import Mathlib.Data.List.GetD
import Mathlib.Data.Nat.Digits.Defs
import OpenairSpgwc.Foundation.Octets

/-!
Contract: IMSIs, from the information element of a message to the number that is
the key of the context maps.

The octets of an `imsi_s` are zero where nothing was received, and `to_imsi64` reads
all of them up to the first half octet that is no digit. Only the filler of an odd
number of digits is none.

Owns:
- `imsi_s::to_imsi64` and `gtpv2c_imsi_ie`;
- the coding of decimal digits by the peer;
- `writtenOut`, the sixteen digits that the key of an IMSI stands for.

Does not own: the maps that have these keys.
-/

namespace OpenairSpgwc.Common

open Foundation

/-- `imsi_s`. -/
structure Imsi where
  b : Vector Octet 8 := Vector.replicate 8 0
  numDigits : Nat := 0
deriving DecidableEq, Repr

/-- The loop of `to_imsi64`, over the octets that are left. -/
def toImsi64Loop (imsi64 : Nat) : Octets → Nat
  | [] => imsi64
  | octet :: rest =>
      let d2 := (octet &&& 0xF0) >>> 4
      let d1 := octet &&& 0x0F
      if d1.toNat < 10 then
        if d2.toNat < 10 then
          toImsi64Loop ((imsi64 * 10 + d1.toNat) * 10 + d2.toNat) rest
        else imsi64 * 10 + d1.toNat
      else imsi64

/-- Eight octets give sixteen digits at most, which fit in 64 bits. -/
def Imsi.toImsi64 (imsi : Imsi) : Nat := toImsi64Loop 0 imsi.b.toList

/-! ### `gtpv2c_imsi_ie` -/

/-- `gtpv2c_imsi_ie(const gtpv2c_tlv&)` leaves the octets and the number of digits zero. -/
structure ImsiIe where
  tlvLength : Nat
  b : Vector Octet 8 := Vector.replicate 8 0
  numDigits : Nat := 0
deriving DecidableEq, Repr

/-- The first octets of the array are replaced. -/
def overwrite (b : Vector Octet 8) (octets : Octets) : Vector Octet 8 :=
  Vector.ofFn fun i => octets.getD i b[i]

namespace ImsiIe

/-- `load_from`. A longer element is read past the array, and for an empty one the
octet before the array is looked at. -/
def loadFrom (ie : ImsiIe) : Scan Empty ImsiIe :=
  if ie.tlvLength = 0 ∨ 8 < ie.tlvLength then
    Scan.fault .undefined
  else do
    let octets ← Scan.read (ie.b.toList.take ie.tlvLength)
    let b := overwrite ie.b octets
    let filled := b.toList.getD (ie.tlvLength - 1) 0 &&& 0xF0 = 0xF0
    let numDigits := if filled then ie.tlvLength * 2 - 1 else ie.tlvLength * 2
    pure { ie with b, numDigits := if numDigits > 15 then 15 else numDigits }

/-- The sixteen fields that are copied are the eight octets. -/
def toCoreType (ie : ImsiIe) : Imsi := { b := ie.b, numDigits := ie.numDigits }

end ImsiIe

/-- The IMSI of a message with these octets in the element. -/
def received (octets : Octets) : Except (Fault Empty) Imsi :=
  match ImsiIe.loadFrom { tlvLength := octets.length } ⟨octets, false⟩ with
  | .ok (ie, _) => .ok ie.toCoreType
  | .error reason => .error reason

/-! ### The peer -/

/-- Two digits an octet, the first in the lower half; the filler after an odd number. -/
def tbcd : List (Fin 10) → Octets
  | [] => []
  | [digit] => [BitVec.ofNat 8 (16 * 15 + digit)]
  | first :: second :: rest => BitVec.ofNat 8 (16 * second + first) :: tbcd rest

/-- The identity of a subscriber. -/
@[ext] structure ImsiDigits where
  digits : List (Fin 10)
  atLeast : 6 ≤ digits.length
  atMost : digits.length ≤ 15
deriving DecidableEq

/-- Digits from numbers below ten. -/
def decimal (numbers : List Nat) : List (Fin 10) := numbers.map (Fin.ofNat 10)

/-- The key of a subscriber. The element is loaded without a fault, by `received_tbcd`. -/
def ImsiDigits.imsi64 (subscriber : ImsiDigits) : Nat :=
  match received (tbcd subscriber.digits) with
  | .ok imsi => imsi.toImsi64
  | .error _ => 0

/-! ### Decoding -/

section Decoding

variable {digits : List (Fin 10)}

theorem length_tbcd : (tbcd digits).length = (digits.length + 1) / 2 := by
  induction digits using tbcd.induct with
  | case1 => rfl
  | case2 digit => simp [tbcd]
  | case3 first second rest inductionHypothesis =>
      rw [tbcd, List.length_cons, inductionHypothesis]
      simp only [List.length_cons]
      omega

theorem toNat_lowHalf (high : Fin 16) (low : Fin 10) :
    (BitVec.ofNat 8 (16 * high + low) &&& 0x0F).toNat = low := by
  decide +revert

theorem toNat_highHalf (high : Fin 16) (low : Fin 10) :
    ((BitVec.ofNat 8 (16 * high + low) &&& 0xF0) >>> 4).toNat = high := by
  decide +revert

/-- The filler is in the last octet after an odd number of digits, and only then. -/
theorem filled_tbcd (digits : List (Fin 10)) (some : digits ≠ []) :
    (tbcd digits).getD ((tbcd digits).length - 1) 0 &&& 0xF0 = 0xF0 ↔ digits.length % 2 = 1 := by
  induction digits using tbcd.induct with
  | case1 => exact absurd rfl some
  | case2 digit =>
      simp only [tbcd, List.length_singleton, Nat.sub_self, List.getD_cons_zero]
      decide +revert
  | case3 first second rest inductionHypothesis =>
      cases rest with
      | nil =>
          simp only [tbcd, List.length_cons, List.length_nil, Nat.sub_self, List.getD_cons_zero]
          decide +revert
      | cons third rest =>
          have later := inductionHypothesis (List.cons_ne_nil _ _)
          have more : (tbcd (third :: rest)).length ≠ 0 := by
            rw [length_tbcd, List.length_cons]
            omega
          rw [tbcd, List.length_cons, Nat.add_sub_cancel, ← Nat.succ_pred_eq_of_ne_zero more,
            List.getD_cons_succ, Nat.pred_eq_sub_one, later]
          simp only [List.length_cons]
          omega

theorem toList_overwrite {octets : Octets} (fits : octets.length ≤ 8) :
    (overwrite (Vector.replicate 8 0) octets).toList =
      octets ++ List.replicate (8 - octets.length) 0 := by
  refine List.ext_getElem ?_ fun i short bound => ?_
  · simp
    omega
  · simp only [overwrite, Vector.getElem_toList, Vector.getElem_ofFn, List.getElem_append,
      List.getElem_replicate]
    split
    · next within => rw [List.getD_eq_getElem _ _ within]
    · next beyond =>
        rw [List.getD_eq_default _ _ (by simpa using beyond)]
        exact Vector.getElem_replicate _

/-- The element of a subscriber, whatever follows it in the message. -/
theorem reads_loadFrom (subscriber : ImsiDigits) :
    Reads (ImsiIe.loadFrom { tlvLength := (tbcd subscriber.digits).length })
      (tbcd subscriber.digits)
      { tlvLength := (tbcd subscriber.digits).length
        b := overwrite (Vector.replicate 8 0) (tbcd subscriber.digits)
        numDigits := subscriber.digits.length } := by
  obtain ⟨digits, atLeast, atMost⟩ := subscriber
  have size : (tbcd digits).length = (digits.length + 1) / 2 := length_tbcd
  have fits : (tbcd digits).length ≤ 8 := by omega
  have last : (overwrite (Vector.replicate 8 0) (tbcd digits)).toList.getD
      ((tbcd digits).length - 1) 0 = (tbcd digits).getD ((tbcd digits).length - 1) 0 := by
    rw [toList_overwrite fits]
    exact List.getD_append _ _ _ _ (by omega)
  have filled := filled_tbcd digits (List.ne_nil_of_length_pos (by omega))
  intro tail
  have taken :
      Reads (Scan.read ((Vector.replicate 8 (0 : Octet)).toList.take (tbcd digits).length) :
      Scan Empty Octets) (tbcd digits) (tbcd digits) := .read (by simp [fits])
  simp only [ImsiIe.loadFrom]
  rw [if_neg (by omega), scan_bind, taken tail]
  have count : (if (if digits.length % 2 = 1 then (tbcd digits).length * 2 - 1
      else (tbcd digits).length * 2) > 15 then 15
      else if digits.length % 2 = 1 then (tbcd digits).length * 2 - 1
      else (tbcd digits).length * 2) = digits.length := by
    split <;> split <;> omega
  simp only [last, filled, count]
  rfl

theorem received_tbcd (subscriber : ImsiDigits) :
    received (tbcd subscriber.digits) =
      .ok { b := overwrite (Vector.replicate 8 0) (tbcd subscriber.digits)
            numDigits := subscriber.digits.length } := by
  have loaded := reads_loadFrom subscriber []
  rw [List.append_nil] at loaded
  rw [received, loaded]
  rfl

end Decoding

/-! ### The key -/

/-- Decimal digits read after a number. -/
def readOn (value : Nat) (digits : List (Fin 10)) : Nat :=
  digits.foldl (fun value digit => value * 10 + digit.val) value

@[simp] theorem readOn_nil (value : Nat) : readOn value [] = value := rfl

@[simp] theorem readOn_cons (value : Nat) (digit : Fin 10) (rest : List (Fin 10)) :
    readOn value (digit :: rest) = readOn (value * 10 + digit) rest := rfl

/-- The sixteen digits of a key: an even number of digits is followed by zeros, and
an odd one is led by zeros. -/
def writtenOut (digits : List (Fin 10)) : List (Fin 10) :=
  if digits.length % 2 = 0 then digits ++ List.replicate (16 - digits.length) 0
  else List.replicate (16 - digits.length) 0 ++ digits

section Key

variable {digits : List (Fin 10)}

theorem toImsi64Loop_octet (value : Nat) (high : Fin 16) (low : Fin 10) (rest : Octets) :
    toImsi64Loop value (BitVec.ofNat 8 (16 * high + low) :: rest) =
      if high.val < 10 then toImsi64Loop ((value * 10 + low) * 10 + high) rest
      else value * 10 + low := by
  simp only [toImsi64Loop, toNat_lowHalf, toNat_highHalf, low.isLt, if_true]

/-- The octets that were not received are read as two zeros each. -/
theorem toImsi64Loop_zeros (n value : Nat) :
    toImsi64Loop value (List.replicate n 0) = readOn value (List.replicate (2 * n) 0) := by
  induction n generalizing value with
  | zero => rfl
  | succ n inductionHypothesis =>
      rw [Nat.mul_succ, List.replicate_succ, List.replicate_succ, List.replicate_succ, readOn_cons,
        readOn_cons]
      exact inductionHypothesis _

/-- The filler ends the loop; without one it goes on through the zeros. -/
theorem toImsi64Loop_tbcd (n value : Nat) :
    toImsi64Loop value (tbcd digits ++ List.replicate n 0) =
      readOn value (if digits.length % 2 = 0 then digits ++ List.replicate (2 * n) 0
        else digits) := by
  induction digits using tbcd.induct generalizing value with
  | case1 => exact toImsi64Loop_zeros n value
  | case2 digit =>
      rw [tbcd, List.singleton_append]
      exact toImsi64Loop_octet value 15 digit _
  | case3 first second rest inductionHypothesis =>
      have octet := toImsi64Loop_octet value (second.castLE (by decide)) first
        (tbcd rest ++ List.replicate n 0)
      rw [tbcd, List.cons_append]
      refine octet.trans ?_
      have parity : (first :: second :: rest).length % 2 = rest.length % 2 :=
        Nat.add_mod_right rest.length 2
      rw [Fin.val_castLE, if_pos second.isLt, inductionHypothesis, parity]
      split <;> rfl

theorem readOn_leadingZeros (n : Nat) :
    readOn 0 (List.replicate n 0 ++ digits) = readOn 0 digits := by
  induction n with
  | zero => rfl
  | succ n inductionHypothesis => exact inductionHypothesis

theorem imsi64_eq (subscriber : ImsiDigits) :
    subscriber.imsi64 = readOn 0 (writtenOut subscriber.digits) := by
  have size : (tbcd subscriber.digits).length = (subscriber.digits.length + 1) / 2 := length_tbcd
  have short := subscriber.atMost
  have fits : (tbcd subscriber.digits).length ≤ 8 := by omega
  rw [ImsiDigits.imsi64, received_tbcd]
  simp only [Imsi.toImsi64]
  rw [toList_overwrite fits, toImsi64Loop_tbcd, writtenOut]
  split
  · next even =>
    rw [show 2 * (8 - (tbcd subscriber.digits).length) = 16 - subscriber.digits.length by omega]
  · exact (readOn_leadingZeros _).symm

theorem length_writtenOut (short : digits.length ≤ 16) : (writtenOut digits).length = 16 := by
  unfold writtenOut
  split <;> simp [short]

theorem readOn_eq_ofDigits : readOn 0 digits = Nat.ofDigits 10 (digits.reverse.map Fin.val) := by
  induction digits using List.reverseRecOn with
  | nil => rfl
  | append_singleton digits digit inductionHypothesis =>
      rw [List.reverse_append, List.reverse_singleton, List.singleton_append, List.map_cons,
        Nat.ofDigits_cons, ← inductionHypothesis, readOn, List.foldl_append]
      simp only [List.foldl_cons, List.foldl_nil, readOn]
      ring

/-- Two numbers of equally many digits are the same only digit by digit. -/
theorem readOn_injective {other : List (Fin 10)} (size : digits.length = other.length)
    (same : readOn 0 digits = readOn 0 other) : digits = other := by
  rw [readOn_eq_ofDigits, readOn_eq_ofDigits] at same
  have within : ∀ text : List (Fin 10), ∀ digit ∈ text.reverse.map Fin.val, digit < 10 := by
    intro text digit member
    obtain ⟨source, -, rfl⟩ := List.mem_map.mp member
    exact source.isLt
  have mapped := Nat.ofDigits_inj_of_len_eq (by decide) (by simp [size]) (within digits)
    (within other) same
  exact List.reverse_injective (List.map_injective_iff.mpr Fin.val_injective mapped)

/-- Of two even numbers of digits the longer is the shorter followed by zeros. -/
theorem writtenOut_eq_iff_of_even {other : List (Fin 10)} (even : digits.length % 2 = 0)
    (even' : other.length % 2 = 0) (longer : digits.length ≤ other.length)
    (short : other.length ≤ 16) :
    writtenOut digits = writtenOut other ↔
      other = digits ++ List.replicate (other.length - digits.length) 0 := by
  have zeros : List.replicate (16 - digits.length) (0 : Fin 10) =
      List.replicate (other.length - digits.length) 0 ++ List.replicate (16 - other.length) 0 := by
    rw [← List.replicate_add]
    congr 1
    omega
  rw [writtenOut, writtenOut, if_pos even, if_pos even', zeros, ← List.append_assoc,
    List.append_left_inj]
  exact eq_comm

/-- Of two odd numbers of digits the longer is the shorter led by zeros. -/
theorem writtenOut_eq_iff_of_odd {other : List (Fin 10)} (odd : digits.length % 2 = 1)
    (odd' : other.length % 2 = 1) (longer : digits.length ≤ other.length)
    (short : other.length ≤ 16) :
    writtenOut digits = writtenOut other ↔
      other = List.replicate (other.length - digits.length) 0 ++ digits := by
  have zeros : List.replicate (16 - digits.length) (0 : Fin 10) =
      List.replicate (16 - other.length) 0 ++ List.replicate (other.length - digits.length) 0 := by
    rw [← List.replicate_add]
    congr 1
    omega
  rw [writtenOut, writtenOut, if_neg (by omega), if_neg (by omega), zeros, List.append_assoc,
    List.append_right_inj]
  exact eq_comm

/-- Two subscribers share a key exactly when their sixteen digits are the same. -/
theorem imsi64_eq_iff (first second : ImsiDigits) :
    first.imsi64 = second.imsi64 ↔ writtenOut first.digits = writtenOut second.digits := by
  have short := first.atMost
  have short' := second.atMost
  rw [imsi64_eq, imsi64_eq]
  constructor
  · refine readOn_injective ?_
    rw [length_writtenOut (by omega), length_writtenOut (by omega)]
  · intro same
    rw [same]

end Key

end OpenairSpgwc.Common
