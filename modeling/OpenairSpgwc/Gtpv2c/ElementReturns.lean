import OpenairSpgwc.Gtpv2c.ElementOctets
import OpenairSpgwc.Gtpv2c.ElementExtents

/-!
Contract: the values of GTPv2-C elements that are read as they were written.

What is not on the wire comes back as zero. A value that comes back has zeros there, and it
is in the range of its encoding.

Owns:
- for each class the core values that come back, and that they do.
-/

namespace OpenairSpgwc.Gtpv2c.Ie

open Foundation
open OpenairSpgwc.Common
open ElementClass

variable {type info : Nat}

/-! ## Integers -/

theorem octetClass_returns {mask core : Octet} {check : Option Nat}
    (accepted : check = none ∨ check = some 1) (masked : core &&& mask = core) :
    (octetClass mask check).RoundTrips id type info core :=
  integer_roundTrips (fun _ => rfl) (by decide) (by decide) (by decide) accepted masked

theorem chargingId_returns (core : BitVec 32) : chargingId.RoundTrips id type info core :=
  integer_roundTrips (fun _ => rfl) (by decide) (by decide) (by decide) (.inr rfl)
    (by
      change core &&& BitVec.allOnes 32 = core
      exact BitVec.and_allOnes)

/-! ## Arrays -/

theorem reads_array {n count : Nat} (b : Vector Octet n) {octets : Octets}
    (size : octets.length = count) (fits : count ≤ n) :
    Reads (readArray b count) octets (replaced b octets) := by
  refine .finish (.read ?_)
  rw [List.length_take, Vector.length_toList, Nat.min_eq_left fits, size]

/-- The octets of an array that has zeros behind them. -/
theorem replaced_take {n count : Nat} (b : Vector Octet n)
    (rest : ∀ index (inside : index < n), count ≤ index → b[index] = 0) :
    replaced (Vector.replicate n 0) (b.toList.take count) = b := by
  refine Vector.ext fun index inside => ?_
  simp only [replaced, Vector.getElem_ofFn]
  by_cases before : index < count
  · rw [List.getD_eq_getElem _ _ (by
      rw [List.length_take, Vector.length_toList]
      omega), List.getElem_take, Vector.getElem_toList]
  · rw [List.getD_eq_default _ _ (by
      rw [List.length_take]
      omega), rest index inside (by omega)]
    exact Vector.getElem_replicate inside

/-! ## Digits -/

def Digits.bytes (i : Digits) : Nat := (i.numDigits.toNat + 1) / 2

/-- Up to fifteen digits, with the filler behind an odd number of them and zeros in the
other octets. -/
structure Digits.Packed (i : Digits) : Prop where
  some : 1 ≤ i.numDigits.toNat
  few : i.numDigits.toNat ≤ 15
  rest : ∀ index (inside : index < 8), i.bytes ≤ index → i.b[index] = 0
  filler : i.b.toList.getD (i.bytes - 1) 0 &&& 0xF0 = 0xF0 ↔ i.numDigits.toNat % 2 = 1

theorem Digits.Packed.bytes_le {i : Digits} (packed : i.Packed) : 1 ≤ i.bytes ∧ i.bytes ≤ 8 := by
  have some := packed.some
  have few := packed.few
  unfold Digits.bytes
  omega

theorem reads_digits {clamp : Nat → Nat} {i : Digits} (packed : i.Packed)
    (kept : clamp i.numDigits.toNat = i.numDigits.toNat) :
    Reads (loadDigits clamp ⟨type, i.bytes, info⟩) (i.b.toList.take i.bytes) i := by
  obtain ⟨some, fits⟩ := packed.bytes_le
  have digits : (if i.b.toList.getD (i.bytes - 1) 0 &&& 0xF0 = 0xF0 then i.bytes * 2 - 1
      else i.bytes * 2) = i.numDigits.toNat := by
    have one := packed.some
    unfold Digits.bytes
    split
    · have odd := packed.filler.mp ‹_›
      omega
    · have even := mt packed.filler.mpr ‹_›
      omega
  have read : Reads (readArray (Vector.replicate 8 0) i.bytes) (i.b.toList.take i.bytes)
      (replaced (Vector.replicate 8 0) (i.b.toList.take i.bytes)) :=
    reads_array _ (by rw [List.length_take, Vector.length_toList, Nat.min_eq_left fits]) fits
  rw [replaced_take i.b packed.rest] at read
  rw [loadDigits, if_neg (show ¬ 8 < i.bytes by omega)]
  have finished := read.finish (f := fun b => ({ b, numDigits := BitVec.ofNat 32 (clamp
    (if b.toList.getD (i.bytes - 1) 0 &&& 0xF0 = 0xF0 then i.bytes * 2 - 1 else i.bytes * 2)) } :
      Digits))
  rw [digits, kept, BitVec.ofNat_toNat, BitVec.setWidth_eq] at finished
  exact finished

theorem imsi_returns {i : Digits} (packed : i.Packed) : imsi.RoundTrips id type info i := by
  obtain ⟨some, fits⟩ := packed.bytes_le
  have few := packed.few
  have length : ((i.numDigits + 1).toNat / 2) % 2 ^ 16 = i.bytes := by
    rw [BitVec.toNat_add_of_lt (show i.numDigits.toNat + (1 : BitVec 32).toNat < 2 ^ 32 by
      change i.numDigits.toNat + 1 < _
      omega)]
    change (i.numDigits.toNat + 1) / 2 % 2 ^ 16 = (i.numDigits.toNat + 1) / 2
    omega
  refine roundTrips_of_reads (fun _ => ⟨i, ?_, fun _ => ⟨i, ?_⟩⟩) (by omega)
    (by omega) (fun _ => reads_digits packed (atMost15_of_le few)) fun _ => rfl
  · simp only [imsi, length]
  · simp only [imsi, dumpDigits, if_neg (show ¬ 8 < i.bytes by omega)]

theorem or_and_left {w : Nat} (first second : BitVec w) : first ||| (first &&& second) = first := by
  refine BitVec.eq_of_getLsbD_eq fun i _ => ?_
  simp only [BitVec.getLsbD_or, BitVec.getLsbD_and]
  cases first.getLsbD i <;> rfl

/-- An octet with the filler in its upper half. -/
theorem or_filler {octet : Octet} (filler : octet &&& 0xF0 = 0xF0) : octet ||| 0xF0 = octet := by
  rw [← filler]
  exact or_and_left _ _

/-- The filler takes the place of any upper half. -/
theorem refilled {octet : Octet} (upper : Octet) (filler : octet &&& 0xF0 = 0xF0) :
    ((octet &&& 0x0F) ||| (upper &&& 0xF0)) ||| 0xF0 = octet := by
  have absorbed : (upper &&& 0xF0) ||| (0xF0 : Octet) = 0xF0 := by
    rw [BitVec.or_comm, BitVec.and_comm]
    exact or_and_left _ _
  have halves : (octet &&& 0x0F) ||| (octet &&& 0xF0) = octet := by
    rw [← BitVec.and_or_distrib_left]
    exact BitVec.and_allOnes
  rw [BitVec.or_assoc, absorbed]
  rw [filler] at halves
  exact halves

theorem Digits.Packed.filler_at {i : Digits} (packed : i.Packed)
    (odd : i.numDigits.toNat % 2 = 1) (inside : i.numDigits.toNat / 2 < 8) :
    i.b[i.numDigits.toNat / 2] &&& 0xF0 = 0xF0 := by
  have filler := packed.filler.mpr odd
  have last : i.bytes - 1 = i.numDigits.toNat / 2 := by
    unfold Digits.bytes
    omega
  rw [last, List.getD_eq_getElem _ _ (by rw [Vector.length_toList]; exact inside),
    Vector.getElem_toList] at filler
  exact filler

/-- The filler of an odd number of digits is there. -/
theorem Digits.Packed.filled_eq {i : Digits} (packed : i.Packed) (odd : i.numDigits.toNat % 2 = 1) :
    filled i.b (i.numDigits.toNat / 2) = i.b := by
  have few := packed.few
  have inside : i.numDigits.toNat / 2 < 8 := by omega
  rw [filled, dif_pos inside, or_filler (packed.filler_at odd inside)]
  exact Vector.set_getElem_self inside

theorem mei_returns {i : Digits} (packed : i.Packed) : mei.RoundTrips id type info i := by
  obtain ⟨some, fits⟩ := packed.bytes_le
  have few := packed.few
  refine roundTrips_of_reads (fun _ => ⟨i, ?_, fun _ => ⟨i, ?_⟩⟩) (by omega)
    (by omega) (fun _ => reads_digits packed (atMost15_of_le few)) fun _ => rfl
  · by_cases odd : i.numDigits.toNat % 2 = 1
    · have half : (i.numDigits.toNat / 2 + 1) % 2 ^ 16 = i.bytes := by
        unfold Digits.bytes
        omega
      simp only [mei, if_pos odd, if_pos (show i.numDigits.toNat / 2 < 8 by omega), half,
        packed.filled_eq odd]
    · have half : i.numDigits.toNat / 2 % 2 ^ 16 = i.bytes := by
        unfold Digits.bytes
        omega
      simp only [mei, if_neg odd, half]
  · simp only [mei, dumpDigits, if_neg (show ¬ 8 < i.bytes by omega)]

/-- A number of at most fifteen digits. The filler of the last octet is no digit. -/
def Digits.PackedFifteen (m : Digits) : Prop :=
  ∃ i : Digits, i.Packed ∧ m = { i with b := fifteenDigits i.b 0 }

theorem fifteenDigits_before (b : Vector Octet 8) (upper : Octet) {index : Nat}
    (inside : index < 7) :
    (fifteenDigits b upper)[index] = b[index] := Vector.getElem_set_ne (by decide) _ (by omega)

theorem lower_kept (octet upper : Octet) :
    ((octet &&& 0x0F) ||| (upper &&& 0xF0)) &&& 0x0F = octet &&& 0x0F := by
  have none : (upper &&& 0xF0) &&& (0x0F : Octet) = 0#8 := by
    rw [BitVec.and_assoc]
    exact BitVec.and_zero
  rw [BitVec.and_comm, BitVec.and_or_distrib_left, BitVec.and_comm, BitVec.and_assoc,
    BitVec.and_comm (0x0F : Octet) (upper &&& 0xF0), none, BitVec.or_zero]
  rfl

theorem fifteenDigits_last (b : Vector Octet 8) (first second : Octet) (inside : 7 < 8) :
    (fifteenDigits (fifteenDigits b first) second)[7] = (b[7] &&& 0x0F) ||| (second &&& 0xF0) := by
  simp only [fifteenDigits, Vector.getElem_set_self, lower_kept]

theorem getElem_filled (b : Vector Octet 8) {place index : Nat} (inside : index < 8)
    (room : place < 8) :
    (filled b place)[index] = if place = index then b[index] ||| 0xF0 else b[index] := by
  rw [filled, dif_pos room, Vector.getElem_set]
  split
  · subst place
    rfl
  · rfl

/-- The octets of the digits are written whatever the upper half of the last one was. Only a
number of fifteen digits takes that octet. -/
theorem msisdn_octet {i : Digits} (packed : i.Packed) (upper : Octet) {index : Nat}
    (inside : index < 8) (before : index < i.bytes) :
    (msisdnLeft { i with b := fifteenDigits (fifteenDigits i.b 0) upper }).b[index] =
      i.b[index] := by
  have few := packed.few
  have kept : atMost15 i.numDigits.toNat = i.numDigits.toNat := atMost15_of_le few
  simp only [msisdnLeft, kept]
  unfold Digits.bytes at before
  by_cases odd : i.numDigits.toNat % 2 = 1
  · simp only [if_pos odd]
    rw [getElem_filled _ inside (by omega)]
    by_cases last : index = 7
    · subst last
      have half : i.numDigits.toNat / 2 = 7 := by omega
      have filler := packed.filler_at odd (by omega)
      simp only [half] at filler
      rw [if_pos half, fifteenDigits_last, refilled upper filler]
    · rw [fifteenDigits_before _ _ (by omega), fifteenDigits_before _ _ (by omega)]
      split
      · have filler := packed.filler_at odd (by omega)
        subst index
        exact or_filler filler
      · rfl
  · simp only [if_neg odd]
    rw [fifteenDigits_before _ _ (by omega), fifteenDigits_before _ _ (by omega)]

theorem msisdn_octets {i : Digits} (packed : i.Packed) (upper : Octet) :
    (msisdnLeft { i with b := fifteenDigits (fifteenDigits i.b 0) upper }).b.toList.take i.bytes =
      i.b.toList.take i.bytes := by
  refine List.ext_getElem ?_ fun index inside _ => ?_
  · rw [List.length_take, List.length_take, Vector.length_toList, Vector.length_toList]
  · rw [List.length_take, Vector.length_toList] at inside
    rw [List.getElem_take, List.getElem_take, Vector.getElem_toList, Vector.getElem_toList]
    exact msisdn_octet packed upper (by omega) (by omega)

theorem msisdn_returns {m : Digits} (packed : m.PackedFifteen) :
    msisdn.RoundTrips id type info m := by
  obtain ⟨i, packed, rfl⟩ := packed
  obtain ⟨some, fits⟩ := packed.bytes_le
  have few := packed.few
  have bytes : msisdnBytes i.numDigits = i.bytes := by
    rw [msisdnBytes, atMost15_of_le few, Digits.bytes]
  have constructs : ∀ junk, ∃ fields,
      msisdn.construct junk { i with b := fifteenDigits i.b 0 } = .ok (i.bytes, fields) ∧
        ∀ junk, ∃ left, msisdn.write junk i.bytes fields =
          .ok (i.b.toList.take i.bytes, i.bytes, left) := fun junk => by
    refine ⟨{ i with b := fifteenDigits (fifteenDigits i.b 0) (junk 0) }, ?_, fun _ => ?_⟩
    · simp only [msisdn, bytes]
    · rw [msisdn_write, bytes, msisdn_octets packed]
      exact ⟨_, rfl⟩
  exact roundTrips_of_reads constructs (by omega) (by omega) (fun _ => reads_digits packed rfl)
    fun _ => rfl

/-! ## Strings -/

theorem accessPointName_returns {apn : Octets} (name : Labels.IsName apn)
    (short : apn.length ≤ 254) :
    accessPointName.RoundTrips id type info apn := by
  obtain ⟨label, labels, rfl⟩ := name
  have size := Labels.length_coded label labels
  have coded : ∀ junk, Labels.stringToDotted passes junk (Labels.name (label :: labels)) =
      .ok (true, Labels.coded (label :: labels)) :=
    Labels.stringToDotted_of_name (by omega) passes_enough
  have named : Labels.dottedToString passes (Labels.coded (label :: labels)) =
      .ok (true, Labels.name (label :: labels)) :=
    Labels.dottedToString_of_coded (by omega) (by rw [passes]; omega)
  have length : (Labels.coded (label :: labels)).length % 2 ^ 16 =
      (Labels.coded (label :: labels)).length := Nat.mod_eq_of_lt (by omega)
  have undot :
      undotted (Labels.coded (label :: labels)) = pure (Labels.name (label :: labels)) := by
    simp only [undotted, dottedToString, named]
  have read : ∀ junk, Reads (accessPointName.load junk
      ⟨type, (Labels.coded (label :: labels)).length, info⟩) (Labels.coded (label :: labels))
      (Labels.name (label :: labels)) := fun junk => by
    have first : Reads (Scan.read (uninitialised junk (Labels.coded (label :: labels)).length) :
        Load Octets) (Labels.coded (label :: labels)) (Labels.coded (label :: labels)) :=
      .read (length_uninitialised ..).symm
    have both := first.bind (show Reads (undotted (Labels.coded (label :: labels))) [] _ from
      undot ▸ Reads.pure _)
    rw [List.append_nil] at both
    exact both
  have constructs : ∀ junk, ∃ fields,
      accessPointName.construct junk (Labels.name (label :: labels)) =
          .ok ((Labels.coded (label :: labels)).length, fields) ∧
        ∀ junk, ∃ left, accessPointName.write junk (Labels.coded (label :: labels)).length fields =
          .ok (Labels.coded (label :: labels), (Labels.coded (label :: labels)).length, left) :=
    fun _ => by
      refine ⟨Labels.name (label :: labels), ?_,
        fun junk => ⟨Labels.name (label :: labels), ?_⟩⟩
      · simp only [accessPointName]
        rw [← size, length]
      · rw [write_of_dotted (coded junk), length]
  exact roundTrips_of_reads constructs (by omega) (by omega) read fun _ => rfl

/-! ## Records -/

/-- A class whose object is its core value. -/
theorem returns_of_same {Core : Type} {cls : Class Core Core} {core : Core} {length : Nat}
    {octets : Octets} (constructs : ∀ junk, cls.construct junk core = .ok (length, core))
    (writes : ∀ junk, cls.write junk length core = .ok (octets, length, core))
    (some : length ≠ 0) (small : length < 2 ^ 16)
    (reads : ∀ junk, Reads (cls.load junk ⟨type, length, info⟩) octets core)
    (back : ∀ junk, cls.toCore junk core = .ok core) : cls.RoundTrips id type info core :=
  roundTrips_of_reads (fun junk => ⟨core, constructs junk, fun junk => ⟨core, writes junk⟩⟩) some
    small reads back

theorem ambr_returns (core : Ambr) : ambr.RoundTrips id type info core :=
  returns_of_same (fun _ => rfl) (fun _ => rfl) (by decide) (by decide)
    (fun _ => (Reads.number (by decide) core.brUl).bind
      ((Reads.number (by decide) core.brDl).finish)) fun _ => rfl

theorem reads_plmn (p : Plmn) : Reads loadPlmn p.octets p := by
  have read : Reads loadPlmn p.octets (.ofOctets (p.mccDigit2 ++ p.mccDigit1)
      (p.mncDigit3 ++ p.mccDigit3) (p.mncDigit2 ++ p.mncDigit1)) :=
    (Reads.octet _).bind ((Reads.octet _).bind (Reads.octet _).finish)
  simp only [Plmn.ofOctets, BitVec.extractLsb'_append_eq_left, BitVec.setWidth_append_eq_right]
    at read
  exact read

theorem servingNetwork_returns (core : Plmn) : servingNetwork.RoundTrips id type info core :=
  returns_of_same (fun _ => rfl) (fun _ => rfl) (by decide) (by decide)
    (fun _ => by
      simp only [servingNetwork, if_true]
      exact reads_plmn core) fun _ => rfl

theorem indication_returns {core : Indication} (spare : core.withoutSpare = core) :
    indication.RoundTrips id type info core := by
  have size : (core.flags.toList.take 7).length = 7 := by simp
  have read : Reads (readArray (Vector.replicate 7 0) 7) (core.flags.toList.take 7) core.flags := by
    have all := reads_array (Vector.replicate 7 0) size le_rfl
    rwa [replaced_take core.flags fun index inside outside => absurd inside (by omega)] at all
  have constructs : ∀ junk, indication.construct junk core = .ok (7, core) := fun _ => by
    simp only [indication, spare]
  have reads : ∀ junk,
      Reads (indication.load junk ⟨type, 7, info⟩) (core.flags.toList.take 7) core :=
    fun _ => read.finish
  exact returns_of_same constructs (fun _ => rfl) (by decide) (by decide) reads fun _ => by
    simp only [indication, spare]

theorem ueTimeZone_returns (core : UeTimeZone) : ueTimeZone.RoundTrips id type info core := by
  have read : ∀ junk, Reads (ueTimeZone.load junk ⟨type, 2, info⟩)
      [core.timeZone, core.daylightSavingTime.setWidth 8]
      ⟨core.timeZone, core.daylightSavingTime.setWidth 8⟩ := fun _ =>
    (Reads.octet _).bind (Reads.octet _).finish
  refine roundTrips_of_reads (fun _ => ⟨_, rfl, fun _ => ⟨_, rfl⟩⟩) (by decide) (by decide) read
    fun _ => ?_
  simp only [ueTimeZone, BitVec.setWidth_setWidth_of_le _ (show 2 ≤ 8 by decide),
    BitVec.setWidth_eq]

/-- A bit rate is written in 40 bits. -/
def BearerQos.InRange (b : BearerQos) : Prop :=
  b.maximumBitRateForUplink.toNat < 2 ^ 40 ∧ b.maximumBitRateForDownlink.toNat < 2 ^ 40 ∧
    b.guarantedBitRateForUplink.toNat < 2 ^ 40 ∧ b.guarantedBitRateForDownlink.toNat < 2 ^ 40

/-- The first octet, with the indicators and the priority level. -/
def BearerQos.arp (b : BearerQos) : Octet :=
  bits [b.pvi] ||| (b.pl.setWidth 8 <<< 2) ||| bits [false, false, false, false, false, false, b.pci]

theorem BearerQos.of_arp (b : BearerQos) :
    b.arp.getLsbD 6 = b.pci ∧ b.arp.extractLsb' 2 4 = b.pl ∧ b.arp.getLsbD 0 = b.pvi := by
  have all : ∀ (pci pvi : Bool) (pl : BitVec 4),
      (bits [pvi] ||| (pl.setWidth 8 <<< 2) |||
          bits [false, false, false, false, false, false, pci]).getLsbD 6 = pci ∧
        (bits [pvi] ||| (pl.setWidth 8 <<< 2) |||
          bits [false, false, false, false, false, false, pci]).extractLsb' 2 4 = pl ∧
        (bits [pvi] ||| (pl.setWidth 8 <<< 2) |||
          bits [false, false, false, false, false, false, pci]).getLsbD 0 = pvi := by decide
  exact all b.pci b.pvi b.pl

theorem bearerQos_returns {core : BearerQos} (range : core.InRange) :
    bearerQos.RoundTrips id type info core := by
  obtain ⟨one, two, three, four⟩ := range
  obtain ⟨pci, pl, pvi⟩ := core.of_arp
  have read : ∀ junk, Reads (bearerQos.load junk ⟨type, 22, info⟩)
      ([core.arp] ++ ([core.labelQci] ++ (word 5 core.maximumBitRateForUplink ++
        (word 5 core.maximumBitRateForDownlink ++ (word 5 core.guarantedBitRateForUplink ++
        word 5 core.guarantedBitRateForDownlink)))))
      { core with pci := core.arp.getLsbD 6, pl := core.arp.extractLsb' 2 4
                  pvi := core.arp.getLsbD 0 } := fun _ =>
    (Reads.octet _).bind ((Reads.octet _).bind ((Reads.small one).bind ((Reads.small two).bind
      ((Reads.small three).bind (Reads.small four).finish))))
  simp only [pci, pl, pvi] at read
  refine returns_of_same (fun _ => rfl) (fun _ => ?_) (by decide) (by decide) read fun _ => rfl
  simp only [bearerQos, BearerQos.arp, List.append_assoc, List.cons_append, List.nil_append]

/-! ## Values with flags or a type -/

/-- No offending element is given, and the cause does not need one. -/
def Cause.Plain (c : Cause) : Prop :=
  c.causeValue ≠ mandatoryIeIncorrect ∧ c.offendingIeType = 0 ∧ c.offendingIeLength = 0 ∧
    c.offendingIeInstance = 0

theorem cause_returns {core : Cause} (plain : core.Plain) : cause.RoundTrips id type info core := by
  obtain ⟨causeValue, pce, bce, cs, _, _, _⟩ := core
  obtain ⟨other, rfl, rfl, rfl⟩ := plain
  have two : causeLength causeValue = 2 := if_neg other
  have read : ∀ junk, Reads (cause.load junk ⟨type, 2, info⟩)
      ([causeValue] ++ [bits [cs, bce, pce]]) { causeValue, u1 := bits [cs, bce, pce] } := fun _ =>
    (Reads.octet _).bind (Reads.octet _).finish
  have constructs : ∀ junk, ∃ fields,
      cause.construct junk ⟨causeValue, pce, bce, cs, 0, 0, 0⟩ = .ok (2, fields) ∧
        ∀ junk, ∃ left, cause.write junk 2 fields =
          .ok ([causeValue] ++ [bits [cs, bce, pce]], 2, left) := fun _ => by
    refine ⟨{ causeValue, u1 := bits [cs, bce, pce] }, ?_, fun _ =>
      ⟨{ causeValue, u1 := bits [cs, bce, pce] }, ?_⟩⟩
    · simp only [cause, two]
      rfl
    · simp only [cause, two]
      rfl
  refine roundTrips_of_reads constructs (by decide) (by decide) read fun _ => ?_
  simp only [cause, getLsbD_bits (show 2 < 8 by decide), getLsbD_bits (show 1 < 8 by decide),
    getLsbD_bits (show 0 < 8 by decide)]
  rfl

/-- `isIpv4` is not read back. -/
def IpAddress.OnlyIpv4 (i : IpAddress) : Prop := i.isIpv4 = true ∧ onlyIpv4 i.address = i.address

theorem ipAddress_returns {core : IpAddress} (only : core.OnlyIpv4) :
    ipAddress.RoundTrips id type info core := by
  obtain ⟨_, address⟩ := core
  obtain ⟨rfl, padded⟩ := only
  have padded : onlyIpv4 address = address := padded
  have size : (address.toList.take 4).length = 4 := by simp
  have read : ∀ junk, Reads (ipAddress.load junk ⟨type, 4, info⟩) (address.toList.take 4)
      ⟨onlyIpv4 address, true⟩ := fun _ =>
    (reads_array (Vector.replicate 16 0) size (by decide)).finish
  have constructs : ∀ junk, ∃ fields, ipAddress.construct junk ⟨true, address⟩ = .ok (4, fields) ∧
      ∀ junk, ∃ left, ipAddress.write junk 4 fields = .ok (address.toList.take 4, 4, left) :=
    fun _ => by
      refine ⟨⟨onlyIpv4 address, true⟩, ?_, fun _ => ⟨⟨onlyIpv4 address, true⟩, ?_⟩⟩
      · simp only [ipAddress, if_true]
      · simp only [ipAddress, if_true, padded]
  refine roundTrips_of_reads constructs (by decide) (by decide) read fun _ => ?_
  simp only [ipAddress, if_true, padded]

/-- An address is zero when its flag is not set. -/
def Fteid.InRange (f : Fteid) : Prop :=
  (f.v4 = false → f.ipv4Address = 0) ∧ (f.v6 = false → f.ipv6Address = 0)

theorem Fteid.of_octet (f : Fteid) :
    f.octet.getLsbD 7 = f.v4 ∧ f.octet.getLsbD 6 = f.v6 ∧ f.octet.setWidth 6 = f.interfaceType := by
  have all : ∀ (v4 v6 : Bool) (interfaceType : BitVec 6),
      (BitVec.ofBool v4 ++ BitVec.ofBool v6 ++ interfaceType : Octet).getLsbD 7 = v4 ∧
        (BitVec.ofBool v4 ++ BitVec.ofBool v6 ++ interfaceType : Octet).getLsbD 6 = v6 ∧
        (BitVec.ofBool v4 ++ BitVec.ofBool v6 ++ interfaceType : Octet).setWidth 6 =
          interfaceType := by
    decide
  exact all f.v4 f.v6 f.interfaceType

theorem fullyQualifiedTeid_returns {core : Fteid} (range : core.InRange) :
    fullyQualifiedTeid.RoundTrips id type info core := by
  obtain ⟨no4, no6⟩ := range
  obtain ⟨v4, v6, interfaceType⟩ := core.of_octet
  have read : Reads (loadFteid core.octet) (word 4 core.teidGreKey ++
      (present core.v4 (word 4 core.ipv4Address) ++ present core.v6 (word 16 core.ipv6Address)))
      core := by
    have all : Reads (loadFteid core.octet) _ _ := (Reads.number (by decide) core.teidGreKey).bind
      ((Reads.optional (Reads.number (by decide) core.ipv4Address) (by rw [v4]; exact no4)).bind
        (Reads.optional (Reads.number (by decide) core.ipv6Address) (by rw [v6]; exact no6)).finish)
    rw [v4, v6, interfaceType] at all
    exact all
  have size : fteidLength core.v4 core.v6 < 2 ^ 16 ∧ fteidLength core.v4 core.v6 ≠ 0 := by
    cases core.v4 <;> cases core.v6 <;> decide
  have reads : ∀ junk, Reads (fullyQualifiedTeid.load junk
      ⟨type, fteidLength core.v4 core.v6, info⟩) core.octets core := fun _ => by
    refine (Reads.octet _).bind ?_
    rw [v4, v6, if_pos rfl]
    exact read
  exact returns_of_same (fun _ => rfl) (fun _ => rfl) size.2 size.1 reads fun _ => rfl

/-- The type is known and alone in its octet, and the fields that the type has not are zero. -/
def Paa.InRange (p : Paa) : Prop :=
  ∃ type, pdnTypeOf p.pdnType = some type ∧ p.pdnType &&& 0x07 = p.pdnType ∧
    PaaIe.ofType p.pdnType type p.ipv6PrefixLength p.ipv6Address p.ipv4Address =
      ⟨p.pdnType, p.ipv6PrefixLength, p.ipv6Address, p.ipv4Address⟩

theorem reads_address (p : PaaIe) (type : PdnType) :
    Reads (loadAddress p.u1 type) (p.address type)
      (.ofType p.u1 type p.ipv6PrefixLength p.ipv6Address p.ipv4Address) := by
  cases type with
  | ipv4 => exact (Reads.number (by decide) p.ipv4Address).finish
  | ipv6 => exact (Reads.octet _).bind (Reads.number (by decide) p.ipv6Address).finish
  | ipv4v6 =>
      exact (Reads.octet _).bind ((Reads.number (by decide) p.ipv6Address).bind
        (Reads.number (by decide) p.ipv4Address).finish)
  | nonIp => exact Reads.pure _

theorem paaLength_pos (type : PdnType) : type.paaLength ≠ 0 ∧ type.paaLength < 2 ^ 16 := by
  cases type <;> decide

theorem paa_returns {core : Paa} (range : core.InRange) : paa.RoundTrips id type info core := by
  obtain ⟨pdnType, networkBits, ipv6, ipv4⟩ := core
  obtain ⟨kind, known, alone, only⟩ := range
  simp only at known alone only
  have read : ∀ junk, Reads (paa.load junk ⟨type, kind.paaLength, info⟩)
      ([pdnType] ++ PaaIe.address ⟨pdnType, networkBits, ipv6, ipv4⟩ kind)
      ⟨pdnType, networkBits, ipv6, ipv4⟩ := fun junk => by
    rw [paa_load]
    refine (Reads.intoOctet rfl pdnType).bind ?_
    simp only [loadPaa, known, if_true]
    have all := reads_address ⟨pdnType, networkBits, ipv6, ipv4⟩ kind
    rwa [only] at all
  have constructs : ∀ junk, ∃ fields,
      paa.construct junk ⟨pdnType, networkBits, ipv6, ipv4⟩ = .ok (kind.paaLength, fields) ∧
        ∀ junk, ∃ left, paa.write junk kind.paaLength fields =
          .ok ([pdnType] ++ PaaIe.address ⟨pdnType, networkBits, ipv6, ipv4⟩ kind,
            kind.paaLength, left) :=
    fun _ => by
      refine ⟨⟨pdnType, networkBits, ipv6, ipv4⟩, ?_, fun junk => ⟨_, paa_write known junk _⟩⟩
      simp only [paa, known, alone, only]
  refine roundTrips_of_reads constructs (paaLength_pos kind).1 (paaLength_pos kind).2 read fun _ => ?_
  simp only [paa, known, only, alone]

/-! ## Locations -/

/-- The locations are declared as long as they are written, a location without its flag is zero,
and the others have the bits that are written. -/
structure UserLocationInformation.InRange (u : UserLocationInformation) : Prop where
  exact : u.hasRai = false ∧ u.hasLai = u.hasMacroEnodebId
  cgi : u.hasCgi = false → u.cgi = .zero
  sai : u.hasSai = false → u.sai = .zero
  rai : u.hasRai = false → u.rai = .zero
  tai : u.hasTai = false → u.tai = .zero
  ecgi : u.hasEcgi = false → u.ecgi = .zero
  lai : u.hasLai = false → u.lai = .zero
  macroEnodebId : u.hasMacroEnodebId = false → u.macroEnodebId = .zero
  extendedMacroEnodebId : u.hasExtendedMacroEnodebId = false → u.extendedMacroEnodebId = .zero
  ecgiSpare : u.ecgi.spare = 0
  macroSpare : u.macroEnodebId.spare = 0
  macroBits : (u.macroEnodebId.macroEnodebId.setWidth 16).setWidth 20 =
    u.macroEnodebId.macroEnodebId
  extendedBits :
    (ExtendedMacroEnodebIdFieldIe.ofCore u.extendedMacroEnodebId).toCore = u.extendedMacroEnodebId

theorem copied_eq {α : Type} {flag : Bool} {location absent : α}
    (empty : flag = false → location = absent) : copied flag location absent = location := by
  cases flag
  · exact (empty rfl).symm
  · rfl

theorem reads_area (a : AreaField) : Reads loadArea a.octets a :=
  (reads_plmn a.plmn).bind ((Reads.number (by decide) a.locationAreaCode).bind
    (Reads.number (by decide) a.code).finish)

theorem reads_code (t : CodeField) : Reads loadCode t.octets t :=
  (reads_plmn t.plmn).bind (Reads.number (by decide) t.code).finish

theorem reads_ecgi (e : EcgiField) : Reads loadEcgi e.octets e := by
  have read : Reads loadEcgi e.octets ⟨e.plmn, (e.spare ++ e.eci : Octet).extractLsb' 4 4,
      (e.spare ++ e.eci : Octet).setWidth 4, e.eUtranCellIdentifier⟩ :=
    (reads_plmn e.plmn).bind ((Reads.octet _).bind
      (Reads.number (by decide) e.eUtranCellIdentifier).finish)
  rwa [BitVec.extractLsb'_append_eq_left, BitVec.setWidth_append_eq_right] at read

theorem reads_macroEnodebId {m : MacroEnodebIdField} (spare : m.spare = 0)
    (kept : (m.macroEnodebId.setWidth 16).setWidth 20 = m.macroEnodebId) :
    Reads loadMacroEnodebId m.octets m := by
  have read : Reads loadMacroEnodebId m.octets
      ⟨m.plmn, 0, (m.macroEnodebId.setWidth 16).setWidth 20⟩ :=
    (reads_plmn m.plmn).bind (Reads.number (by decide) (m.macroEnodebId.setWidth 16)).finish
  rwa [kept, ← spare] at read

/-- The octet with the flag, the spare bits and the upper bits of the identity. -/
theorem of_extendedOctet (smenb : Bool) (spare : BitVec 3) (upper : BitVec 4) :
    (BitVec.ofBool smenb ++ spare ++ upper : Octet).getLsbD 7 = smenb ∧
      (BitVec.ofBool smenb ++ spare ++ upper : Octet).extractLsb' 4 3 = spare ∧
      (BitVec.ofBool smenb ++ spare ++ upper : Octet).setWidth 4 = upper := by
  revert smenb spare upper
  decide

theorem reads_extendedMacroEnodebId (e : ExtendedMacroEnodebIdFieldIe) :
    Reads loadExtendedMacroEnodebId e.octets e := by
  obtain ⟨smenb, spare, upper⟩ := of_extendedOctet e.smenb e.spare e.upper
  have read : Reads loadExtendedMacroEnodebId e.octets
      ⟨e.plmn, (BitVec.ofBool e.smenb ++ e.spare ++ e.upper : Octet).getLsbD 7,
        (BitVec.ofBool e.smenb ++ e.spare ++ e.upper : Octet).extractLsb' 4 3,
        (BitVec.ofBool e.smenb ++ e.spare ++ e.upper : Octet).setWidth 4,
        e.extendedMacroEnodebId⟩ :=
    (reads_plmn e.plmn).bind ((Reads.octet _).bind
      (Reads.number (by decide) e.extendedMacroEnodebId).finish)
  rwa [smenb, spare, upper] at read

/-- The flags of the locations. -/
theorem of_flags (u : UserLocationInformation) :
    u.flags.getLsbD 0 = u.hasCgi ∧ u.flags.getLsbD 1 = u.hasSai ∧ u.flags.getLsbD 2 = u.hasRai ∧
      u.flags.getLsbD 3 = u.hasTai ∧ u.flags.getLsbD 4 = u.hasEcgi ∧
      u.flags.getLsbD 5 = u.hasLai ∧ u.flags.getLsbD 6 = u.hasMacroEnodebId ∧
      u.flags.getLsbD 7 = u.hasExtendedMacroEnodebId := by
  refine ⟨?_, ?_, ?_, ?_, ?_, ?_, ?_, ?_⟩ <;> exact getLsbD_bits (by decide)

/-- The object for locations that are in range. -/
def UserLocationInformation.fields (u : UserLocationInformation) : UserLocationInformationIe where
  u1 := u.flags
  cgi := u.cgi
  sai := u.sai
  rai := u.rai
  tai := u.tai
  ecgi := u.ecgi
  lai := u.lai
  macroEnodebId := u.macroEnodebId
  extendedMacroEnodebId :=
    copied u.hasExtendedMacroEnodebId (.ofCore u.extendedMacroEnodebId) .zero

theorem UserLocationInformation.InRange.construct {u : UserLocationInformation} (range : u.InRange)
    (junk : Junk) :
    userLocationInformation.construct junk u = .ok (uliLength u.flags, u.fields) := by
  have ecgi : u.ecgi.withoutSpare = u.ecgi := by
    rw [EcgiField.withoutSpare, ← range.ecgiSpare]
  have macroId : u.macroEnodebId.withoutSpare = u.macroEnodebId := by
    rw [MacroEnodebIdField.withoutSpare, ← range.macroSpare]
  simp only [userLocationInformation, copied_eq range.cgi, copied_eq range.sai, copied_eq range.rai,
    copied_eq range.tai, copied_eq range.lai, ecgi, copied_eq range.ecgi, macroId,
    copied_eq range.macroEnodebId]
  rfl

theorem UserLocationInformation.InRange.reads {u : UserLocationInformation} (range : u.InRange) :
    Reads (loadLocations u.flags) (u.fields.octets.tail) u.fields := by
  obtain ⟨f0, f1, f2, f3, f4, f5, f6, f7⟩ := of_flags u
  have all : Reads (loadLocations u.flags) _ _ :=
    (Reads.optional (reads_area u.cgi) (by rw [f0]; exact range.cgi)).bind
    ((Reads.optional (reads_area u.sai) (by rw [f1]; exact range.sai)).bind
    ((Reads.optional (reads_area u.rai) (by rw [f2]; exact range.rai)).bind
    ((Reads.optional (reads_code u.tai) (by rw [f3]; exact range.tai)).bind
    ((Reads.optional (reads_ecgi u.ecgi) (by rw [f4]; exact range.ecgi)).bind
    ((Reads.optional (reads_code u.lai) (by rw [f5]; exact range.lai)).bind
    ((Reads.optional (reads_macroEnodebId range.macroSpare range.macroBits)
      (by rw [f6]; exact range.macroEnodebId)).bind
    (Reads.optional (reads_extendedMacroEnodebId u.fields.extendedMacroEnodebId)
      (by
        rw [f7]
        intro empty
        rw [UserLocationInformation.fields, empty]
        rfl)).finish))))))
  exact all

theorem userLocationInformation_returns {core : UserLocationInformation} (range : core.InRange) :
    userLocationInformation.RoundTrips id type info core := by
  obtain ⟨f0, f1, f2, f3, f4, f5, f6, f7⟩ := of_flags core
  have read : ∀ junk, Reads (userLocationInformation.load junk ⟨type, uliLength core.flags, info⟩)
      core.fields.octets core.fields := fun _ => (Reads.octet core.flags).bind range.reads
  have size : uliLength core.flags ≠ 0 ∧ uliLength core.flags < 2 ^ 16 := by
    unfold uliLength
    simp only [declaredFor]
    constructor
    · omega
    · repeat' split
      all_goals omega
  refine roundTrips_of_reads (fun junk => ⟨core.fields, range.construct junk, fun _ =>
    ⟨core.fields, rfl⟩⟩) size.1 size.2 read fun _ => ?_
  have extended : copied core.hasExtendedMacroEnodebId
      (copied core.hasExtendedMacroEnodebId (.ofCore core.extendedMacroEnodebId)
        ExtendedMacroEnodebIdFieldIe.zero).toCore ExtendedMacroEnodebIdField.zero =
      core.extendedMacroEnodebId := by
    cases flag : core.hasExtendedMacroEnodebId
    · exact (range.extendedMacroEnodebId flag).symm
    · exact range.extendedBits
  simp only [userLocationInformation, UserLocationInformation.fields, f0, f1, f2, f3, f4, f5, f6, f7,
    copied_eq range.cgi, copied_eq range.sai, copied_eq range.rai, copied_eq range.tai,
    copied_eq range.lai, copied_eq range.ecgi, copied_eq range.macroEnodebId, extended]

/-! ## Sets of PDN connections -/

/-- The fields of the node that its type has not are zero, and the others fit into 32 bits. -/
structure NodeId.InRange (node : NodeId) (type : NodeIdType) : Prop where
  only : node.ofType type = node
  mcc : node.mcc.toNat < 1000
  mnc : node.mnc.toNat < 1000
  operatorSpecificId : node.operatorSpecificId.toNat < 2 ^ 12

theorem NodeId.toNat_exotic {node : NodeId} (mcc : node.mcc.toNat < 1000)
    (mnc : node.mnc.toNat < 1000) (operator : node.operatorSpecificId.toNat < 2 ^ 12) :
    node.exotic.toNat =
      (1000 * node.mcc.toNat + node.mnc.toNat) * 2 ^ 12 + node.operatorSpecificId.toNat := by
  have one : (node.mcc.setWidth 32).toNat = node.mcc.toNat := by
    rw [BitVec.toNat_setWidth, Nat.mod_eq_of_lt (by omega)]
  have two : (node.mnc.setWidth 32).toNat = node.mnc.toNat := by
    rw [BitVec.toNat_setWidth, Nat.mod_eq_of_lt (by omega)]
  have three : (node.operatorSpecificId.setWidth 32).toNat = node.operatorSpecificId.toNat := by
    rw [BitVec.toNat_setWidth, Nat.mod_eq_of_lt (by omega)]
  have sum : (1000 * node.mcc.setWidth 32 + node.mnc.setWidth 32).toNat =
      1000 * node.mcc.toNat + node.mnc.toNat := by
    rw [BitVec.toNat_add, BitVec.toNat_mul, one, two]
    change (1000 * node.mcc.toNat % 2 ^ 32 + node.mnc.toNat) % 2 ^ 32 = _
    omega
  rw [NodeId.exotic, BitVec.toNat_or, BitVec.toNat_shiftLeft, three, sum]
  have fits : (1000 * node.mcc.toNat + node.mnc.toNat) <<< 12 % 2 ^ 32 =
      (1000 * node.mcc.toNat + node.mnc.toNat) <<< 12 := by
    rw [Nat.shiftLeft_eq]
    omega
  rw [fits, ← Nat.shiftLeft_add_eq_or_of_lt operator, Nat.shiftLeft_eq]

theorem NodeId.of_exotic {node : NodeId} (range : node.InRange .exotic) :
    (node.exotic.setWidth 16 &&& 0x0FFF : BitVec 16) = node.operatorSpecificId ∧
      BitVec.ofNat 16 ((node.exotic.toNat / 2 ^ 12) % 1000) = node.mnc ∧
      BitVec.ofNat 16 ((node.exotic.toNat / 2 ^ 12) / 1000) = node.mcc := by
  have mcc := range.mcc
  have mnc := range.mnc
  have operator := range.operatorSpecificId
  have value := NodeId.toNat_exotic mcc mnc operator
  have upper : node.exotic.toNat / 2 ^ 12 = 1000 * node.mcc.toNat + node.mnc.toNat := by omega
  refine ⟨?_, ?_, ?_⟩
  · apply BitVec.eq_of_toNat_eq
    rw [BitVec.toNat_and, BitVec.toNat_setWidth]
    change node.exotic.toNat % 2 ^ 16 &&& 2 ^ 12 - 1 = _
    rw [Nat.and_two_pow_sub_one_eq_mod, value]
    omega
  · rw [upper, show (1000 * node.mcc.toNat + node.mnc.toNat) % 1000 = node.mnc.toNat by omega,
      BitVec.ofNat_toNat, BitVec.setWidth_eq]
  · rw [upper, show (1000 * node.mcc.toNat + node.mnc.toNat) / 1000 = node.mcc.toNat by omega,
      BitVec.ofNat_toNat, BitVec.setWidth_eq]

theorem reads_nodeId {node : NodeId} {type : NodeIdType} (range : node.InRange type) :
    Reads (loadNodeId type) (node.octets type) node := by
  have read : Reads (loadNodeId type) (node.octets type) (node.ofType type) := by
    cases type with
    | ipv4 => exact (Reads.number (by decide) node.unicastIpv4).finish
    | ipv6 => exact (Reads.number (by decide) node.unicastIpv6).finish
    | exotic =>
        obtain ⟨operator, mnc, mcc⟩ := NodeId.of_exotic range
        have all : Reads (loadNodeId .exotic) (word 4 node.exotic) _ :=
          (Reads.number (by decide) node.exotic).finish
        rw [operator, mnc, mcc] at all
        exact all
  rwa [range.only] at read

theorem reads_csids (junk : Junk) (csids : List (BitVec 16)) :
    Reads (loadCsids junk csids.length) (csidOctets csids) csids := by
  induction csids with
  | nil => exact Reads.pure _
  | cons csid csids inductionHypothesis =>
      exact (Reads.into (length_uninitialised junk 2) (by decide) csid).bind
        inductionHypothesis.finish

/-- The type of the node is known, and the identifiers that are not used are zero. -/
def FqCsid.InRange (f : FqCsid) : Prop :=
  (∃ type, nodeIdTypeOf f.nodeIdType = some type ∧ f.nodeId.InRange type) ∧
    ∀ index (inside : index < 15), f.numberOfCsids.toNat ≤ index →
      f.pdnConnectionSetIdentifier[index] = 0

theorem ofFn_used {f : FqCsid} (rest : ∀ index (inside : index < 15),
    f.numberOfCsids.toNat ≤ index → f.pdnConnectionSetIdentifier[index] = 0) :
    Vector.ofFn (fun i : Fin 15 => f.used.getD i 0) = f.pdnConnectionSetIdentifier := by
  refine Vector.ext fun index inside => ?_
  rw [Vector.getElem_ofFn]
  change f.used.getD index 0 = _
  by_cases before : index < f.numberOfCsids.toNat
  · rw [List.getD_eq_getElem _ _ (by rw [FqCsid.length_used]; exact before)]
    simp only [FqCsid.used, List.getElem_take, Vector.getElem_toList]
  · rw [List.getD_eq_default _ _ (by rw [FqCsid.length_used]; omega), rest index inside (by omega)]

theorem fqCsid_returns {core : FqCsid} (range : core.InRange) :
    fqCsid.RoundTrips id type info core := by
  obtain ⟨⟨kind, known, node⟩, rest⟩ := range
  have read : ∀ junk, Reads (fqCsid.load junk ⟨type, fqCsidLength kind core.numberOfCsids, info⟩)
      ([core.nodeIdType ++ core.numberOfCsids] ++ (core.nodeId.octets kind ++
        csidOctets core.used)) (core.fields kind) := fun junk => by
    rw [fqCsid_load]
    refine (Reads.intoOctet rfl _).bind ?_
    simp only [loadFqCsid, BitVec.extractLsb'_append_eq_left, BitVec.setWidth_append_eq_right, known,
      le_refl, if_true]
    have csids := reads_csids junk core.used
    rw [FqCsid.length_used] at csids
    rw [FqCsid.fields, node.only]
    exact (reads_nodeId node).bind csids.finish
  have constructs : ∀ junk, ∃ fields,
      fqCsid.construct junk core = .ok (fqCsidLength kind core.numberOfCsids, fields) ∧
        ∀ junk, ∃ left, fqCsid.write junk (fqCsidLength kind core.numberOfCsids) fields =
          .ok ([core.nodeIdType ++ core.numberOfCsids] ++ (core.nodeId.octets kind ++
            csidOctets core.used), fqCsidLength kind core.numberOfCsids, left) := fun _ => by
    refine ⟨core.fields kind, ?_, fun _ => ⟨(core.fields kind).swapped, ?_⟩⟩
    · simp only [fqCsid, known]
      rfl
    · rw [fqCsid_write known]
      simp only [FqCsid.fields, node.only]
  have size : fqCsidLength kind core.numberOfCsids ≠ 0 ∧
      fqCsidLength kind core.numberOfCsids < 2 ^ 16 := by
    have few := core.numberOfCsids.isLt
    unfold fqCsidLength
    cases kind <;> simp only [NodeIdType.size] <;> omega
  refine roundTrips_of_reads constructs size.1 size.2 read fun _ => ?_
  simp only [fqCsid, FqCsid.fields, known, node.only, ofFn_used rest]

/-! ## Protocol configuration options -/

/-- The contents of each container are as long as its length field says, and the containers that
are not used are empty. -/
structure ProtocolConfigurationOptions.InRange (p : ProtocolConfigurationOptions) : Prop where
  few : p.numProtocolOrContainerId.toNat ≤ maximumProtocolIdOrContainerId
  exact : ∀ container ∈ p.used,
    container.protocolIdContents.length = container.lengthOfProtocolIdContents.toNat
  rest : ∀ index (inside : index < maximumProtocolIdOrContainerId),
    p.numProtocolOrContainerId.toNat ≤ index → p.protocolOrContainerIds[index] = {}

theorem reads_container_of {container : ProtocolOrContainerId}
    (exact' : container.protocolIdContents.length = container.lengthOfProtocolIdContents.toNat)
    (junk : Junk) : Reads (loadContainer junk) container.octets container :=
  (Reads.number (by decide) container.protocolId).bind
    ((Reads.octet container.lengthOfProtocolIdContents).bind
      (Reads.finish (.read (by rw [length_uninitialised, exact']))))

theorem reads_containers_of (junk : Junk) (tlv : Tlv) {passes : Nat}
    {ids : List ProtocolOrContainerId} (exact' : ∀ container ∈ ids,
      container.protocolIdContents.length = container.lengthOfProtocolIdContents.toNat)
    (enough : ids.length ≤ passes) :
    Reads (loadContainers junk tlv passes (ids.map ProtocolOrContainerId.declared).sum)
      (ids.flatMap ProtocolOrContainerId.octets) ids := by
  induction ids generalizing passes with
  | nil => cases passes <;> exact Reads.pure _
  | cons container ids inductionHypothesis =>
      obtain ⟨less, rfl⟩ : ∃ less, passes = less + 1 :=
        ⟨passes - 1, by rw [List.length_cons] at enough; omega⟩
      have total : ((container :: ids).map ProtocolOrContainerId.declared).sum =
          container.lengthOfProtocolIdContents.toNat + 2 +
            (ids.map ProtocolOrContainerId.declared).sum + 1 := by
        rw [List.map_cons, List.sum_cons, ProtocolOrContainerId.declared]
        omega
      have inside : container.declared ≤ container.lengthOfProtocolIdContents.toNat + 2 +
          (ids.map ProtocolOrContainerId.declared).sum + 1 := by
        unfold ProtocolOrContainerId.declared
        omega
      have left : container.lengthOfProtocolIdContents.toNat + 2 +
          (ids.map ProtocolOrContainerId.declared).sum + 1 - container.declared =
            (ids.map ProtocolOrContainerId.declared).sum := by
        unfold ProtocolOrContainerId.declared
        omega
      rw [total]
      refine (reads_container_of (exact' container (List.mem_cons_self ..)) junk).bind ?_
      simp only [if_pos inside, left]
      exact (inductionHypothesis (fun other member => exact' other (List.mem_cons_of_mem _ member))
        (Nat.le_of_succ_le_succ enough)).finish

/-- The octet with the extension and the protocol. -/
theorem of_pcoOctet (ext : Bool) (configurationProtocol : BitVec 3) :
    (BitVec.ofBool ext ++ (0 : BitVec 4) ++ configurationProtocol : Octet).getLsbD 7 = ext ∧
      (BitVec.ofBool ext ++ (0 : BitVec 4) ++ configurationProtocol : Octet).setWidth 3 =
        configurationProtocol := by
  revert ext configurationProtocol
  decide

theorem ProtocolConfigurationOptions.InRange.length_used {p : ProtocolConfigurationOptions}
    (range : p.InRange) : p.used.length = p.numProtocolOrContainerId.toNat := by
  rw [ProtocolConfigurationOptions.used, List.length_take, Vector.length_toList,
    Nat.min_eq_left range.few]

theorem ProtocolConfigurationOptions.InRange.ofFn_used {p : ProtocolConfigurationOptions}
    (range : p.InRange) :
    Vector.ofFn (fun i : Fin maximumProtocolIdOrContainerId => p.used.getD i {}) =
      p.protocolOrContainerIds := by
  refine Vector.ext fun index inside => ?_
  rw [Vector.getElem_ofFn]
  change p.used.getD index {} = _
  by_cases before : index < p.numProtocolOrContainerId.toNat
  · rw [List.getD_eq_getElem _ _ (by rw [range.length_used]; exact before)]
    simp only [ProtocolConfigurationOptions.used, List.getElem_take, Vector.getElem_toList]
  · rw [List.getD_eq_default _ _ (by rw [range.length_used]; omega),
      range.rest index inside (by omega)]

theorem pco_returns {core : ProtocolConfigurationOptions} (range : core.InRange) :
    pco.RoundTrips id type info core := by
  obtain ⟨ext, configurationProtocol⟩ := of_pcoOctet core.ext core.configurationProtocol
  have few := range.length_used
  have most : core.numProtocolOrContainerId.toNat ≤ 30 := range.few
  obtain ⟨same, small⟩ := sum_declared core.used
  have length : pcoLength core = 1 + (core.used.map ProtocolOrContainerId.declared).sum :=
    Nat.mod_eq_of_lt (by omega)
  have read : ∀ junk, Reads (pco.load junk ⟨type, pcoLength core, info⟩)
      ([BitVec.ofBool core.ext ++ (0 : BitVec 4) ++ core.configurationProtocol] ++
        core.used.flatMap ProtocolOrContainerId.octets)
      ⟨BitVec.ofBool core.ext ++ (0 : BitVec 4) ++ core.configurationProtocol, core.used⟩ :=
    fun junk => by
      rw [pco_load]
      have containers := reads_containers_of junk ⟨type, pcoLength core, info⟩ range.exact
        (show core.used.length ≤ pcoLength core by omega)
      have left : pcoLength core - 1 = (core.used.map ProtocolOrContainerId.declared).sum := by
        omega
      rw [← left] at containers
      exact (Reads.intoOctet rfl _).bind containers.finish
  have constructs : ∀ junk, pco.construct junk core = .ok (pcoLength core,
      ⟨BitVec.ofBool core.ext ++ (0 : BitVec 4) ++ core.configurationProtocol, core.used⟩) :=
    fun _ => if_pos range.few
  refine roundTrips_of_reads (fun junk => ⟨_, constructs junk, fun _ => ⟨_, rfl⟩⟩) (by omega)
    (by omega) read fun _ => ?_
  simp only [pco, few, if_pos range.few, ext, configurationProtocol, BitVec.ofNat_toNat,
    BitVec.setWidth_eq, range.ofFn_used]

end OpenairSpgwc.Gtpv2c.Ie
