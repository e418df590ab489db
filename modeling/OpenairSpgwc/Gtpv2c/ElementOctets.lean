import OpenairSpgwc.Common.LabelPasses
import OpenairSpgwc.Gtpv2c.CompoundElements

/-!
Contract: the octets that the element classes of GTPv2-C write, against the length that
their constructors declare.

Owns:
- for each class the declared length of a core value, when as many octets are written,
  when the value can be written, and when writing it again gives the same.
-/

namespace OpenairSpgwc.Gtpv2c.Ie

open Foundation
open OpenairSpgwc.Common
open ElementClass

/-- A property that every core value has. -/
abbrev Always {Core : Type} : Core → Prop := fun _ => True

/-! ## Fixed layouts -/

theorem octetClass_written (mask : Octet) (check : Option Nat) :
    (octetClass mask check).Written (fun _ => 1) Always Always Always := integer_written

/-- Bearer flags are written like any octet. -/
theorem bearerFlags_written : bearerFlags.Written (fun _ => 1) Always Always Always :=
  written_of_unchanged fun _ _ _ _ made => by
    cases made
    exact ⟨rfl, _, iff_of_true (length_word 1 _) trivial, fun _ => rfl⟩

theorem chargingId_written : chargingId.Written (fun _ => 4) Always Always Always :=
  integer_written

/-- A class that writes a number of octets whatever the value. -/
theorem written_of_fixed {Core Fields : Type} {cls : Class Core Fields} {n : Nat}
    (octets : Fields → Octets)
    (constructs : ∀ junk core, ∃ fields, cls.construct junk core = .ok (n, fields))
    (writes : ∀ junk length fields,
      cls.write junk length fields = .ok (octets fields, length, fields))
    (size : ∀ fields, (octets fields).length = n) : cls.Written (fun _ => n) Always Always Always :=
  written_of_unchanged fun junk core length fields made => by
    obtain ⟨fields', made'⟩ := constructs junk core
    rw [made'] at made
    cases made
    exact ⟨rfl, octets fields, iff_of_true (size fields) trivial, fun junk => writes junk n fields⟩

theorem ambr_written : ambr.Written (fun _ => 8) Always Always Always :=
  written_of_fixed (fun fields => word 4 fields.brUl ++ word 4 fields.brDl)
    (fun _ core => ⟨core, rfl⟩) (fun _ _ _ => rfl) fun _ => by simp

theorem bearerQos_written : bearerQos.Written (fun _ => 22) Always Always Always :=
  written_of_fixed _ (fun _ core => ⟨core, rfl⟩) (fun _ _ _ => rfl) fun _ => by simp

theorem flowQos_written : flowQos.Written (fun _ => 21) Always Always Always :=
  written_of_fixed _ (fun _ _ => ⟨_, rfl⟩) (fun _ _ _ => rfl) fun _ => by simp

theorem servingNetwork_written : servingNetwork.Written (fun _ => 3) Always Always Always :=
  written_of_fixed _ (fun _ core => ⟨core, rfl⟩) (fun _ _ _ => rfl) fun _ => rfl

theorem ueTimeZone_written : ueTimeZone.Written (fun _ => 2) Always Always Always :=
  written_of_fixed _ (fun _ _ => ⟨_, rfl⟩) (fun _ _ _ => rfl) fun _ => rfl

theorem indication_written : indication.Written (fun _ => 7) Always Always Always :=
  written_of_unchanged fun _ core _ _ made => by
    cases made
    exact ⟨rfl, _, iff_of_true (by simp) trivial, fun _ => rfl⟩

/-- Two octets are declared and one is written. -/
theorem bearerTft_written : bearerTft.Written (fun _ => 2) (fun _ => False) Always Always :=
  written_of_unchanged fun _ core _ fields made => by
    cases made
    exact ⟨rfl, _, iff_of_false (by simp) id, fun _ => rfl⟩

/-! ## Digits -/

/-- A class that writes at most the eight octets of its array. -/
theorem digits_written {cls : Class Digits Digits} {size : Digits → Nat}
    (constructs : ∀ junk core length fields, cls.construct junk core = .ok (length, fields) →
      length = size core)
    (writes : ∀ junk length fields, cls.write junk length fields = dumpDigits length fields) :
    cls.Written size (fun i => size i ≤ 8) (fun i => size i ≤ 8) Always := by
  have short : ∀ {length : Nat} {fields : Digits}, length ≤ 8 → ∀ junk,
      cls.write junk length fields = .ok (fields.b.toList.take length, length, fields) := by
    intro length fields fits junk
    rw [writes, dumpDigits, if_neg (by omega)]
  have long : ∀ {length : Nat} {fields : Digits}, ¬ length ≤ 8 → ∀ junk,
      cls.write junk length fields = .error .undefined := by
    intro length fields fits junk
    rw [writes, dumpDigits, if_pos (by omega)]
  refine ⟨constructs, ?_, ?_, ?_, ?_, fun _ _ _ _ _ changes => absurd trivial changes⟩
  · intro junk core length fields made
    change _ ↔ size core ≤ 8
    rw [← constructs junk core length fields made]
    by_cases fits : length ≤ 8
    · rw [writesDeclared_iff fun junk => ⟨fields, short fits junk⟩]
      refine iff_of_true ⟨rfl, ?_⟩ fits
      rw [List.length_take, Vector.length_toList, Nat.min_eq_left fits]
    · refine iff_of_false (fun declared => ?_) fits
      obtain ⟨value, left, written, -⟩ := declared fun _ => 0
      rw [long fits] at written
      cases written
  · intro junk core length fields made
    rw [← constructs junk core length fields made]
    by_cases fits : length ≤ 8
    · exact iff_of_true (fun junk => ⟨_, short fits junk⟩) fits
    · refine iff_of_false (fun can => ?_) fits
      obtain ⟨result, written⟩ := can fun _ => 0
      rw [long fits] at written
      cases written
  · intro junk core length fields made _
    by_cases fits : length ≤ 8
    · exact (repeats_of_unchanged (short fits)).1
    · intro junk' value length' left written
      rw [long fits] at written
      cases written
  · intro junk core length fields made
    by_cases fits : length ≤ 8
    · exact (repeats_of_unchanged (short fits)).2
    · intro junk' value length' left written
      rw [long fits] at written
      cases written

def imsiLength (i : Digits) : Nat := ((i.numDigits + 1).toNat / 2) % 2 ^ 16

theorem imsi_written : imsi.Written imsiLength (fun i => imsiLength i ≤ 8)
    (fun i => imsiLength i ≤ 8) Always :=
  digits_written (fun _ _ _ _ made => by cases made; rfl) fun _ _ _ => rfl

def meiLength (i : Digits) : Nat :=
  if i.numDigits.toNat % 2 = 1 then (i.numDigits.toNat / 2 + 1) % 2 ^ 16
  else i.numDigits.toNat / 2 % 2 ^ 16

theorem mei_written : mei.Written meiLength (fun i => meiLength i ≤ 8)
    (fun i => meiLength i ≤ 8) Always := by
  refine digits_written (fun junk core length fields made => ?_) fun _ _ _ => rfl
  rw [meiLength]
  change (if core.numDigits.toNat % 2 = 1 then
      if core.numDigits.toNat / 2 < 8 then
        Except.ok ((core.numDigits.toNat / 2 + 1) % 2 ^ 16,
          { core with b := filled core.b (core.numDigits.toNat / 2) })
      else Except.error Fault.undefined
    else Except.ok (core.numDigits.toNat / 2 % 2 ^ 16, core)) = _ at made
  split at made
  · split at made
    · cases made
      rw [if_pos ‹_›]
    · cases made
  · cases made
    rw [if_neg ‹_›]

theorem atMost15_le (n : Nat) : atMost15 n ≤ 15 := by
  unfold atMost15
  split <;> omega

theorem atMost15_of_le {n : Nat} (small : n ≤ 15) : atMost15 n = n := if_neg (by omega)

/-- The filler is put once. -/
theorem filled_filled (b : Vector Octet 8) (index : Nat) :
    filled (filled b index) index = filled b index := by
  unfold filled
  split
  · refine Vector.ext fun i inside => ?_
    rw [Vector.getElem_set, Vector.getElem_set, Vector.getElem_set, if_pos rfl]
    split
    · rw [BitVec.or_assoc, BitVec.or_self]
    · rfl
  · rfl

/-- What writing leaves of the digits. -/
def msisdnLeft (fields : Digits) : Digits where
  b := if atMost15 fields.numDigits.toNat % 2 = 1 then
      filled fields.b (atMost15 fields.numDigits.toNat / 2) else fields.b
  numDigits := BitVec.ofNat 32 (atMost15 fields.numDigits.toNat)

theorem msisdn_write (junk : Junk) (length : Nat) (fields : Digits) :
    msisdn.write junk length fields =
      .ok ((msisdnLeft fields).b.toList.take (msisdnBytes fields.numDigits),
        msisdnBytes fields.numDigits, msisdnLeft fields) := rfl

theorem msisdnBytes_le (numDigits : BitVec 32) : msisdnBytes numDigits ≤ 8 := by
  have bound := atMost15_le numDigits.toNat
  unfold msisdnBytes
  omega

theorem atMost15_left (fields : Digits) :
    atMost15 (msisdnLeft fields).numDigits.toNat = atMost15 fields.numDigits.toNat := by
  have bound := atMost15_le fields.numDigits.toNat
  rw [msisdnLeft, BitVec.toNat_ofNat, Nat.mod_eq_of_lt (by omega), atMost15_of_le bound]

theorem msisdnLeft_left (fields : Digits) : msisdnLeft (msisdnLeft fields) = msisdnLeft fields := by
  rw [msisdnLeft, atMost15_left]
  refine congrArg₂ Digits.mk ?_ rfl
  split
  · rw [msisdnLeft, if_pos ‹_›, filled_filled]
  · rw [msisdnLeft, if_neg ‹_›]

theorem msisdn_written :
    msisdn.Written (fun m => msisdnBytes m.numDigits) Always Always Always := by
  have bytes : ∀ fields, msisdnBytes (msisdnLeft fields).numDigits = msisdnBytes fields.numDigits :=
    fun fields => by rw [msisdnBytes, atMost15_left, ← msisdnBytes]
  have octets : ∀ fields : Digits,
      ((msisdnLeft fields).b.toList.take (msisdnBytes fields.numDigits)).length =
        msisdnBytes fields.numDigits := fun fields => by
    rw [List.length_take, Vector.length_toList, Nat.min_eq_left (msisdnBytes_le _)]
  refine ⟨?_, ?_, ?_, ?_, ?_, fun _ _ _ _ _ changes => absurd trivial changes⟩
  · intro junk core length fields made
    cases made
    rfl
  · intro junk core length fields made
    cases made
    exact iff_of_true (fun junk => ⟨_, _, msisdn_write junk _ _, octets _⟩) trivial
  · intro junk core length fields made
    exact iff_of_true (fun junk => ⟨_, msisdn_write junk _ _⟩) trivial
  · intro junk core length fields made _ junk value length' left written again
    rw [msisdn_write] at written
    cases written
    rw [msisdn_write, msisdnLeft_left, bytes]
  · intro junk core length fields made junk value length' left written again value' length'' left'
      rewritten
    rw [msisdn_write] at written rewritten
    cases written
    cases rewritten
    rw [octets, octets, bytes]

/-! ## Strings -/

theorem passes_enough : 2 ^ 8 ≤ passes := by decide

theorem write_of_dotted {junk : Junk} {apn dotted : Octets}
    (coded : Labels.stringToDotted passes junk apn = .ok (true, dotted)) (length : Nat) :
    accessPointName.write junk length apn = .ok (dotted, dotted.length % 2 ^ 16, apn) := by
  simp only [accessPointName, stringToDotted, coded]

theorem write_of_early {apn : Octets} (early : Labels.EndsEarly apn) (junk : Junk) (length : Nat) :
    ∃ dotted : Octets, dotted.length = apn.length + 1 ∧
      accessPointName.write junk length apn = .ok (dotted, (apn.length + 1) % 2 ^ 16, apn) := by
  obtain ⟨dotted, coded, size⟩ := Labels.stringToDotted_ok early passes_enough junk
  exact ⟨dotted, size, by rw [write_of_dotted coded, size]⟩

theorem write_of_late {apn : Octets} (late : ¬ Labels.EndsEarly apn) (junk : Junk) (length : Nat) :
    accessPointName.write junk length apn = .error .diverges := by
  simp only [accessPointName, stringToDotted, Labels.stringToDotted_exhausted late]

/-- A name with a NUL is coded with an octet of the memory at its end. -/
theorem accessPointName_differs {apn : Octets} (early : Labels.EndsEarly apn) (nul : 0 ∈ apn)
    (length : Nat) : accessPointName.Differs (fun _ => 0) (fun _ => 1) length apn := by
  intro value length' left written value' length'' left' rewritten
  obtain ⟨dotted, coded, last⟩ :=
    Labels.stringToDotted_last nul early passes_enough fun _ => 0
  obtain ⟨dotted', coded', last'⟩ :=
    Labels.stringToDotted_last nul early passes_enough fun _ => 1
  rw [write_of_dotted coded] at written
  cases written
  rw [write_of_dotted coded'] at rewritten
  cases rewritten
  refine .inl fun same => ?_
  rw [same, last] at last'
  cases last'

/-- A name is coded when it ends early; its length can overflow, and a NUL in it leaves octets
of the memory. -/
theorem accessPointName_written : accessPointName.Written (fun apn => (apn.length + 1) % 2 ^ 16)
    (fun apn => Labels.EndsEarly apn ∧ apn.length + 1 < 2 ^ 16) Labels.EndsEarly
    fun apn => Labels.EndsEarly apn → 0 ∉ apn := by
  refine ⟨?_, ?_, ?_, ?_, ?_, ?_⟩
  · intro junk apn length fields made
    cases made
    rfl
  · intro junk apn length fields made
    cases made
    constructor
    · intro declared
      obtain ⟨value, left, written, size⟩ := declared fun _ => 0
      by_cases early : Labels.EndsEarly apn
      · obtain ⟨dotted, all, written'⟩ :=
          write_of_early early (fun _ => 0) ((apn.length + 1) % 2 ^ 16)
        rw [written'] at written
        cases written
        have overflow := Nat.mod_lt (apn.length + 1) (show 0 < 2 ^ 16 by decide)
        exact ⟨early, by omega⟩
      · rw [write_of_late early] at written
        cases written
    · rintro ⟨early, small⟩ junk
      obtain ⟨dotted, all, written⟩ := write_of_early early junk ((apn.length + 1) % 2 ^ 16)
      exact ⟨dotted, apn, written, by rw [all, Nat.mod_eq_of_lt small]⟩
  · intro junk apn length fields made
    cases made
    constructor
    · intro can
      by_contra late
      obtain ⟨result, written⟩ := can fun _ => 0
      rw [write_of_late late] at written
      cases written
    · intro early junk
      obtain ⟨dotted, -, written⟩ := write_of_early early junk ((apn.length + 1) % 2 ^ 16)
      exact ⟨_, written⟩
  · intro junk apn length fields made noNul junk' value length' left written again
    cases made
    by_cases early : Labels.EndsEarly apn
    · obtain ⟨dotted, coded, -⟩ := Labels.stringToDotted_ok early passes_enough junk'
      rw [write_of_dotted coded] at written
      cases written
      rw [write_of_dotted
        ((Labels.stringToDotted_same (noNul early) early passes_enough again junk').trans coded)]
    · rw [write_of_late early] at written
      cases written
  · intro junk apn length fields made junk' value length' left written again value' length'' left'
      rewritten
    cases made
    by_cases early : Labels.EndsEarly apn
    · obtain ⟨dotted, size, written'⟩ := write_of_early early junk' ((apn.length + 1) % 2 ^ 16)
      rw [written'] at written
      cases written
      obtain ⟨dotted', size', rewritten'⟩ := write_of_early early again ((apn.length + 1) % 2 ^ 16)
      rw [rewritten'] at rewritten
      cases rewritten
      rw [size, size']
    · rw [write_of_late early] at written
      cases written
  · intro junk apn length fields made changes
    cases made
    push Not at changes
    exact ⟨changes.1, _, _, accessPointName_differs changes.1 changes.2 _⟩

theorem epco_written : epco.Written (fun e => e.length % 2 ^ 16) (fun e => e.length < 2 ^ 16)
    Always Always :=
  written_of_unchanged fun _ core _ _ made => by
    cases made
    refine ⟨rfl, core, ?_, fun _ => rfl⟩
    constructor
    · intro same
      rw [same]
      exact Nat.mod_lt _ (by decide)
    · intro small
      exact (Nat.mod_eq_of_lt small).symm

/-! ## Values with flags or a type -/

/-- The octet with the instance of the offending element is declared and not written. -/
theorem cause_written : cause.Written (fun i => causeLength i.causeValue)
    (fun i => i.causeValue ≠ mandatoryIeIncorrect) Always Always :=
  written_of_unchanged fun _ core _ _ made => by
    cases made
    refine ⟨rfl, _, ?_, fun _ => rfl⟩
    by_cases incorrect : core.causeValue = mandatoryIeIncorrect
    · refine iff_of_false ?_ (not_not.mpr incorrect)
      simp [causeLength, incorrect]
    · refine iff_of_true ?_ incorrect
      simp [causeLength, incorrect]

theorem ipAddress_written : ipAddress.Written (fun i => if i.isIpv4 then 4 else 16) Always Always
    Always :=
  written_of_unchanged fun _ core _ _ made => by
    cases flag : core.isIpv4
    · simp only [ipAddress, flag, Bool.false_eq_true, if_false] at made
      cases made
      exact ⟨rfl, _, iff_of_true (by simp) trivial, fun _ => rfl⟩
    · simp only [ipAddress, flag, if_true] at made
      cases made
      exact ⟨rfl, _, iff_of_true (by simp) trivial, fun _ => rfl⟩

theorem declaredFor_eq (flag : Bool) (n : Nat) : declaredFor flag n = flag.toNat * n := by
  cases flag <;> simp [declaredFor]

/-- Two octets too few are declared for a routing area and one too few for a location area, and
one too many for a macro eNodeB. -/
theorem uliLength_eq_iff (u1 : Octet) :
    uliExtent u1 = uliLength u1 ↔
      u1.getLsbD 2 = false ∧ u1.getLsbD 5 = u1.getLsbD 6 := by
  unfold uliExtent uliLength
  simp only [declaredFor_eq]
  generalize u1.getLsbD 0 = b0
  generalize u1.getLsbD 1 = b1
  generalize u1.getLsbD 2 = b2
  generalize u1.getLsbD 3 = b3
  generalize u1.getLsbD 4 = b4
  generalize u1.getLsbD 5 = b5
  generalize u1.getLsbD 6 = b6
  generalize u1.getLsbD 7 = b7
  revert b0 b1 b2 b3 b4 b5 b6 b7
  decide

theorem length_area (a : AreaField) : a.octets.length = 7 := by
  simp [AreaField.octets, Plmn.octets]

theorem length_code (t : CodeField) : t.octets.length = 5 := by
  simp [CodeField.octets, Plmn.octets]

theorem length_ecgi (e : EcgiField) : e.octets.length = 7 := by
  simp [EcgiField.octets, Plmn.octets]

theorem length_macroEnodebId (m : MacroEnodebIdField) : m.octets.length = 5 := by
  simp [MacroEnodebIdField.octets, Plmn.octets]

theorem length_extendedMacroEnodebId (e : ExtendedMacroEnodebIdFieldIe) : e.octets.length = 6 := by
  simp [ExtendedMacroEnodebIdFieldIe.octets, Plmn.octets]

theorem length_locations (u : UserLocationInformationIe) : u.octets.length = uliExtent u.u1 := by
  simp only [UserLocationInformationIe.octets, List.length_append, List.length_singleton,
    length_present, length_area, length_code, length_ecgi, length_macroEnodebId,
    length_extendedMacroEnodebId]
  rfl

theorem userLocationInformation_written :
    userLocationInformation.Written (fun u => uliLength u.flags)
      (fun u => u.hasRai = false ∧ u.hasLai = u.hasMacroEnodebId) Always Always :=
  written_of_unchanged fun _ core _ _ made => by
    cases made
    refine ⟨rfl, _, ?_, fun _ => rfl⟩
    rw [length_locations, uliLength_eq_iff]
    simp only [UserLocationInformation.flags, getLsbD_bits (show 2 < 8 by decide),
      getLsbD_bits (show 5 < 8 by decide), getLsbD_bits (show 6 < 8 by decide)]
    rfl

theorem length_address (p : PaaIe) (type : PdnType) :
    (p.address type).length + 1 = type.paaLength := by
  cases type <;> simp [PaaIe.address, PdnType.paaLength]

theorem ofType_u1 (u1 : Octet) (type : PdnType) (ipv6PrefixLength : Octet)
    (ipv6Address : BitVec 128) (ipv4Address : BitVec 32) :
    (PaaIe.ofType u1 type ipv6PrefixLength ipv6Address ipv4Address).u1 = u1 := by
  cases type <;> rfl

theorem pdnTypeOf_masked (u1 : Octet) : pdnTypeOf (u1 &&& 0x07) = pdnTypeOf u1 := by
  rw [pdnTypeOf, BitVec.and_assoc, BitVec.and_self, ← pdnTypeOf]

def paaLengthOf (pdnType : Octet) : Nat := ((pdnTypeOf pdnType).map PdnType.paaLength).getD 0

theorem paa_write {fields : PaaIe} {type : PdnType} (known : pdnTypeOf fields.u1 = some type)
    (junk : Junk) (length : Nat) :
    paa.write junk length fields = .ok ([fields.u1] ++ fields.address type, length, fields) := by
  simp only [paa, known]

theorem paa_written : paa.Written (fun p => paaLengthOf p.pdnType) Always Always Always :=
  written_of_unchanged fun _ core length fields made => by
    cases known : pdnTypeOf core.pdnType with
    | none =>
        simp only [paa, known] at made
        cases made
    | some type =>
        simp only [paa, known] at made
        cases made
        have shown : pdnTypeOf (PaaIe.ofType (core.pdnType &&& 0x07) type core.ipv6PrefixLength
            core.ipv6Address core.ipv4Address).u1 = some type := by
          rw [ofType_u1, pdnTypeOf_masked, known]
        exact ⟨by simp [paaLengthOf, known], _, iff_of_true (by
          rw [List.length_append, List.length_singleton, ← length_address _ type, Nat.add_comm])
          trivial, fun junk => paa_write shown junk _⟩

theorem length_fteid (f : Fteid) : f.octets.length = fteidLength f.v4 f.v6 := by
  simp only [Fteid.octets, List.length_append, List.length_singleton, length_word, length_present]
  unfold fteidLength
  omega

theorem fullyQualifiedTeid_written :
    fullyQualifiedTeid.Written (fun f => fteidLength f.v4 f.v6) Always Always Always :=
  written_of_unchanged fun _ core _ _ made => by
    cases made
    exact ⟨rfl, _, iff_of_true (length_fteid core) trivial, fun _ => rfl⟩

def ranNasCauseLength (protocolType : BitVec 4) : Nat :=
  ((causeSize protocolType).map (1 + ·)).getD 0

theorem ranNasCause_write {fields : RanNasCauseIe} {size : Nat}
    (known : causeSize (fields.u1.extractLsb' 4 4) = some size) (junk : Junk) (length : Nat) :
    ranNasCause.write junk length fields =
      .ok ([fields.u1] ++ word size fields.causeValue, length, fields) := by
  simp only [ranNasCause, known]

theorem ranNasCause_written :
    ranNasCause.Written (fun c => ranNasCauseLength c.protocolType) Always Always Always :=
  written_of_unchanged fun _ core length fields made => by
    cases known : causeSize core.protocolType with
    | none =>
        simp only [ranNasCause, known] at made
        cases made
    | some size =>
        simp only [ranNasCause, known] at made
        cases made
        exact ⟨by simp [ranNasCauseLength, known], _, iff_of_true (by
          rw [List.length_append, List.length_singleton, length_word]) trivial,
          fun junk => ranNasCause_write (by rw [BitVec.extractLsb'_append_eq_left, known])
            junk _⟩

/-! ## Sets of PDN connections -/

theorem length_nodeId (node : NodeId) (type : NodeIdType) :
    (node.octets type).length = type.size := by
  cases type <;> simp [NodeId.octets, NodeIdType.size]

theorem length_csidOctets (csids : List (BitVec 16)) :
    (csidOctets csids).length = 2 * csids.length := by
  induction csids with
  | nil => rfl
  | cons csid csids inductionHypothesis =>
      rw [csidOctets, List.flatMap_cons, List.length_append, length_word, ← csidOctets,
        inductionHypothesis, List.length_cons]
      omega

theorem csidOctets_injective {first second : List (BitVec 16)}
    (same : csidOctets first = csidOctets second) : first = second := by
  induction first generalizing second with
  | nil =>
      cases second with
      | nil => rfl
      | cons csid csids =>
          have size := congrArg List.length same
          rw [length_csidOctets, length_csidOctets] at size
          cases size
  | cons csid csids inductionHypothesis =>
      cases second with
      | nil =>
          have size := congrArg List.length same
          rw [length_csidOctets, length_csidOctets] at size
          cases size
      | cons csid' csids' =>
          have same : word 2 csid ++ csidOctets csids = word 2 csid' ++ csidOctets csids' := same
          obtain ⟨one, rest⟩ := List.append_inj same (by rw [length_word, length_word])
          have number := congrArg (fun octets => BitVec.ofNat 16 (ofBe octets)) one
          rw [ofNat_ofBe_word (by decide), ofNat_ofBe_word (by decide)] at number
          rw [number, inductionHypothesis rest]

/-- The identifiers of a set that are used. -/
def FqCsid.used (f : FqCsid) : List (BitVec 16) :=
  f.pdnConnectionSetIdentifier.toList.take f.numberOfCsids.toNat

theorem FqCsid.length_used (f : FqCsid) : f.used.length = f.numberOfCsids.toNat := by
  have bound := f.numberOfCsids.isLt
  rw [FqCsid.used, List.length_take, Vector.length_toList, Nat.min_eq_left (by omega)]

def fqCsidLengthOf (f : FqCsid) : Nat :=
  ((nodeIdTypeOf f.nodeIdType).map (fqCsidLength · f.numberOfCsids)).getD 0

/-- What writing leaves of a set. -/
def FqCsidIe.swapped (fields : FqCsidIe) : FqCsidIe :=
  { fields with pdnConnectionSetIdentifier := fields.pdnConnectionSetIdentifier.map htons }

theorem fqCsid_write {fields : FqCsidIe} {type : NodeIdType}
    (known : nodeIdTypeOf fields.nodeIdType = some type) (junk : Junk) (length : Nat) :
    fqCsid.write junk length fields =
      .ok ([fields.nodeIdType ++ fields.numberOfCsids] ++ (fields.nodeId.octets type ++
          csidOctets fields.pdnConnectionSetIdentifier), length, fields.swapped) := by
  simp only [fqCsid, known]
  rfl

/-- The object for a set. -/
def FqCsid.fields (f : FqCsid) (type : NodeIdType) : FqCsidIe where
  nodeIdType := f.nodeIdType
  numberOfCsids := f.numberOfCsids
  nodeId := f.nodeId.ofType type
  pdnConnectionSetIdentifier := f.used

theorem fqCsid_construct {junk : Junk} {core : FqCsid} {length : Nat} {fields : FqCsidIe}
    (made : fqCsid.construct junk core = .ok (length, fields)) :
    ∃ type, nodeIdTypeOf core.nodeIdType = some type ∧
      length = fqCsidLength type core.numberOfCsids ∧ fields = core.fields type := by
  cases known : nodeIdTypeOf core.nodeIdType with
  | none =>
      simp only [fqCsid, known] at made
      cases made
  | some type =>
      simp only [fqCsid, known] at made
      cases made
      exact ⟨type, rfl, rfl, rfl⟩

/-- The second writing gives identifiers with their octets the other way round. -/
theorem fqCsid_written : fqCsid.Written fqCsidLengthOf Always Always
    fun f => ∀ csid ∈ f.used, htons csid = csid := by
  have same : ∀ {f : FqCsid} {type : NodeIdType}, (f.fields type).swapped = f.fields type ↔
      ∀ csid ∈ f.used, htons csid = csid := by
    intro f type
    rw [FqCsidIe.swapped, FqCsid.fields, FqCsidIe.mk.injEq]
    simp only [true_and]
    exact ⟨fun same => List.map_inj_left.mp (same.trans (List.map_id _).symm),
      fun same => (List.map_congr_left same).trans (List.map_id _)⟩
  refine ⟨?_, ?_, ?_, ?_, ?_, ?_⟩
  · intro junk core length fields made
    obtain ⟨type, known, rfl, rfl⟩ := fqCsid_construct made
    simp [fqCsidLengthOf, known]
  · intro junk core length fields made
    obtain ⟨type, known, rfl, rfl⟩ := fqCsid_construct made
    refine iff_of_true (fun junk => ⟨_, _, fqCsid_write known junk _, ?_⟩) trivial
    simp only [FqCsid.fields, List.length_append, List.length_singleton, length_nodeId,
      length_csidOctets, FqCsid.length_used, fqCsidLength, Nat.add_assoc]
  · intro junk core length fields made
    obtain ⟨type, known, rfl, rfl⟩ := fqCsid_construct made
    exact iff_of_true (fun junk => ⟨_, fqCsid_write known junk _⟩) trivial
  · intro junk core length fields made steady
    obtain ⟨type, known, rfl, rfl⟩ := fqCsid_construct made
    have left : ∀ junk, fqCsid.write junk (fqCsidLength type core.numberOfCsids)
        (core.fields type) = .ok (_, _, core.fields type) := fun junk => by
      rw [fqCsid_write known, same.mpr steady]
    exact (repeats_of_unchanged left).1
  · intro junk core length fields made junk' value length' left written again value' length'' left'
      rewritten
    obtain ⟨type, known, rfl, rfl⟩ := fqCsid_construct made
    rw [fqCsid_write known] at written
    cases written
    rw [@fqCsid_write (core.fields type).swapped type known] at rewritten
    cases rewritten
    simp [FqCsidIe.swapped, length_csidOctets]
  · intro junk core length fields made changes
    obtain ⟨type, known, rfl, rfl⟩ := fqCsid_construct made
    refine ⟨trivial, fun _ => 0, fun _ => 0, ?_⟩
    intro value length' left written value' length'' left' rewritten
    rw [fqCsid_write known] at written
    cases written
    rw [@fqCsid_write (core.fields type).swapped type known] at rewritten
    cases rewritten
    refine .inl fun equal => changes ((@same core type).mp ?_)
    have csids := csidOctets_injective (List.append_cancel_left (List.append_cancel_left equal))
    rw [FqCsidIe.swapped]
    exact congrArg (FqCsidIe.mk _ _ _) csids

/-! ## Protocol configuration options -/

/-- The containers that are used. -/
def ProtocolConfigurationOptions.used (p : ProtocolConfigurationOptions) :
    List ProtocolOrContainerId :=
  p.protocolOrContainerIds.toList.take p.numProtocolOrContainerId.toNat

def pcoLength (p : ProtocolConfigurationOptions) : Nat :=
  (1 + (p.used.map ProtocolOrContainerId.declared).sum) % 2 ^ 16

/-- The contents of the containers are together as long as their length fields say. -/
def PcoExact (p : ProtocolConfigurationOptions) : Prop :=
  (p.used.map (·.protocolIdContents.length)).sum =
    (p.used.map (·.lengthOfProtocolIdContents.toNat)).sum

theorem sum_length_containers (ids : List ProtocolOrContainerId) :
    (ids.flatMap ProtocolOrContainerId.octets).length =
      3 * ids.length + (ids.map (·.protocolIdContents.length)).sum := by
  induction ids with
  | nil => rfl
  | cons id ids inductionHypothesis =>
      rw [List.flatMap_cons, List.length_append, inductionHypothesis]
      simp only [ProtocolOrContainerId.octets, List.length_append, length_word,
        List.length_cons, List.length_nil, List.map_cons, List.sum_cons]
      omega

theorem sum_declared (ids : List ProtocolOrContainerId) :
    (ids.map ProtocolOrContainerId.declared).sum =
        3 * ids.length + (ids.map (·.lengthOfProtocolIdContents.toNat)).sum ∧
      (ids.map ProtocolOrContainerId.declared).sum ≤ 258 * ids.length := by
  induction ids with
  | nil => exact ⟨rfl, le_rfl⟩
  | cons id ids inductionHypothesis =>
      have bound := id.lengthOfProtocolIdContents.isLt
      obtain ⟨same, small⟩ := inductionHypothesis
      simp only [List.map_cons, List.sum_cons, List.length_cons, same] at small ⊢
      have own : id.declared = id.lengthOfProtocolIdContents.toNat + 3 := rfl
      omega

theorem pco_written : pco.Written pcoLength PcoExact Always Always :=
  written_of_unchanged fun _ core length fields made => by
    by_cases few : core.numProtocolOrContainerId.toNat ≤ maximumProtocolIdOrContainerId
    · simp only [pco, if_pos few] at made
      cases made
      refine ⟨rfl, [_] ++ core.used.flatMap ProtocolOrContainerId.octets, ?_, fun _ => rfl⟩
      have number : core.used.length ≤ 30 := by
        rw [ProtocolConfigurationOptions.used, List.length_take]
        exact (Nat.min_le_left _ _).trans few
      obtain ⟨same, small⟩ := sum_declared core.used
      have fits : (1 + (core.used.map ProtocolOrContainerId.declared).sum) % 2 ^ 16 =
          1 + (core.used.map ProtocolOrContainerId.declared).sum := Nat.mod_eq_of_lt (by omega)
      rw [List.length_append, List.length_singleton, sum_length_containers, PcoExact]
      change 1 + (3 * core.used.length + _) = (1 + (core.used.map _).sum) % 2 ^ 16 ↔ _
      rw [fits, same]
      constructor <;> intro equal <;> omega
    · simp only [pco, if_neg few] at made
      cases made

end OpenairSpgwc.Gtpv2c.Ie
