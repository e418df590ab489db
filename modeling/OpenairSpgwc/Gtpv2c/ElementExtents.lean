import OpenairSpgwc.Common.LabelPasses
import OpenairSpgwc.Gtpv2c.CompoundElements

/-!
Contract: how many octets the element classes of GTPv2-C take of a value, and what they end
with when they take none.

Owns:
- the extent of each class that does not take a fixed number of octets;
- that each class does what its extent says, and only takes octets away.
-/

namespace OpenairSpgwc.Gtpv2c.Ie

open Foundation
open Foundation.Protocol (Extent)
open ElementClass
open OpenairSpgwc.Common

theorem tlvBadLength_ne (tlv : Tlv) :
    tlvBadLength tlv ≠ .exhausted ∧ tlvBadLength tlv ≠ .diverges := by
  simp [tlvBadLength, terminated]

theorem badLength_fails {Fields : Type} (tlv : Tlv) :
    Follows (fun _ => (Scan.fault (tlvBadLength tlv) : Load Fields)) .fails :=
  .fails fun _ _ => ⟨_, rfl⟩

/-- The class takes the octets when it accepts the length. -/
def checked (n : Nat) (accepts : Bool) : Extent := if accepts then .takes n else .fails

theorem checkedExtent_eq (n : Nat) (accepts : Tlv → Prop) [DecidablePred accepts] (tlv : Tlv) :
    checkedExtent n accepts tlvBadLength tlv = checked n (decide (accepts tlv)) := by
  unfold checkedExtent checked
  by_cases accepted : accepts tlv
  · rw [if_pos accepted, decide_eq_true accepted, if_pos rfl]
  · rw [if_neg accepted, decide_eq_false accepted, if_neg Bool.false_ne_true]
    rfl

section Checked

variable {Core Fields : Type} {cls : Class Core Fields} (accepts : Tlv → Prop)
  [DecidablePred accepts]

/-- A class that checks the length. -/
theorem measured_of_accepts {n : Tlv → Nat} (scan : Junk → Tlv → Load Fields)
    (loads : ∀ junk tlv, cls.load junk tlv =
      if accepts tlv then scan junk tlv else Scan.fault (tlvBadLength tlv))
    (takes : ∀ tlv, accepts tlv → Takes (fun junk => scan junk tlv) (n tlv)) :
    cls.Measured fun tlv _ => checked (n tlv) (decide (accepts tlv)) := by
  have measured := measured_of_checked scan loads takes
  simp only [checkedExtent_eq] at measured
  exact measured

theorem safe_of_accepts (scan : Junk → Tlv → Load Fields)
    (loads : ∀ junk tlv, cls.load junk tlv =
      if accepts tlv then scan junk tlv else Scan.fault (tlvBadLength tlv))
    (safe : ∀ junk tlv, (scan junk tlv).Safe) : cls.Safe :=
  safe_of_checked scan loads tlvBadLength_ne safe

end Checked

/-! ## Fixed layouts -/

/-- The length is not checked, or is the one that is expected. -/
def accepted (check : Option Nat) (tlv : Tlv) : Bool := check.all fun n => n = tlv.length

theorem integerClass_measured {w n : Nat} {mask : BitVec w} (check : Option Nat)
    {memory : Junk → Octets} (size : ∀ junk, (memory junk).length = n) :
    (integer n mask check memory tlvBadLength : Class (BitVec w) (BitVec w)).Measured fun tlv _ =>
      checked n (accepted check tlv) := by
  have measured := @integer_measured GtpcException w n mask check memory tlvBadLength size
  simp only [checkedExtent_eq] at measured
  have same : ∀ tlv, accepted check tlv = decide (check = none ∨ check = some tlv.length) := by
    intro tlv
    cases check <;> simp [accepted]
  simp only [same]
  exact measured

theorem octetClass_measured (mask : Octet) (check : Option Nat) :
    (octetClass mask check).Measured fun tlv _ => checked 1 (accepted check tlv) :=
  integerClass_measured check fun _ => rfl

theorem octetClass_safe (mask : Octet) (check : Option Nat) : (octetClass mask check).Safe :=
  integer_safe tlvBadLength_ne

/-- Bearer flags are read like any octet. -/
theorem bearerFlags_measured :
    bearerFlags.Measured fun tlv _ => checked 1 (accepted (some 1) tlv) :=
  have measured := octetClass_measured 0x0F (some 1)
  ⟨measured.takes, measured.raises, measured.fails⟩

theorem bearerFlags_safe : bearerFlags.Safe := octetClass_safe 0x0F (some 1)

theorem chargingId_measured :
    chargingId.Measured fun tlv _ => checked 4 (accepted (some 4) tlv) :=
  integerClass_measured (some 4) fun _ => rfl

theorem chargingId_safe : chargingId.Safe := integer_safe tlvBadLength_ne

theorem ambr_measured : ambr.Measured fun _ _ => .takes 8 :=
  measured_of_takes fun _ => .bind (.number 4 32) fun _ => .finish (.number 4 32)

theorem ambr_safe : ambr.Safe := fun _ _ =>
  (Scan.safe_number 4 32).bind fun _ => (Scan.safe_number 4 32).bind fun _ => Scan.safe_pure _

theorem bearerTft_measured : bearerTft.Measured fun _ _ => .takes 1 :=
  measured_of_takes fun _ => .octet

theorem bearerTft_safe : bearerTft.Safe := fun _ _ => Scan.safe_octet

theorem takes_fiveOctets {α : Type} {w : Nat} (f : BitVec w → BitVec w → BitVec w → BitVec w → α) :
    Takes (fun _ => (do
      let first ← Scan.number 5 w
      let second ← Scan.number 5 w
      let third ← Scan.number 5 w
      let fourth ← Scan.number 5 w
      pure (f first second third fourth) : Load α)) 20 :=
  .bind (.number 5 w) fun _ => .bind (.number 5 w) fun _ => .bind (.number 5 w) fun _ =>
    .finish (.number 5 w)

theorem safe_fiveOctets {α : Type} {w : Nat} (f : BitVec w → BitVec w → BitVec w → BitVec w → α) :
    (do
      let first ← Scan.number 5 w
      let second ← Scan.number 5 w
      let third ← Scan.number 5 w
      let fourth ← Scan.number 5 w
      pure (f first second third fourth) : Load α).Safe :=
  (Scan.safe_number 5 w).bind fun _ => (Scan.safe_number 5 w).bind fun _ =>
    (Scan.safe_number 5 w).bind fun _ => (Scan.safe_number 5 w).bind fun _ => Scan.safe_pure _

theorem bearerQos_measured :
    bearerQos.Measured fun tlv _ => checked 22 (decide (tlv.length = 22)) :=
  measured_of_accepts _ _ (fun _ _ => rfl) fun _ _ => .bind .octet fun _ => .bind .octet fun _ =>
    takes_fiveOctets _

theorem bearerQos_safe : bearerQos.Safe :=
  safe_of_accepts _ _ (fun _ _ => rfl) fun _ _ => Scan.safe_octet.bind fun _ =>
    Scan.safe_octet.bind fun _ => safe_fiveOctets _

theorem flowQos_measured :
    flowQos.Measured fun tlv _ => checked 21 (decide (tlv.length = 21)) :=
  measured_of_accepts _ _ (fun _ _ => rfl) fun _ _ => .bind .octet fun _ => takes_fiveOctets _

theorem flowQos_safe : flowQos.Safe :=
  safe_of_accepts _ _ (fun _ _ => rfl) fun _ _ => Scan.safe_octet.bind fun _ => safe_fiveOctets _

theorem ueTimeZone_measured :
    ueTimeZone.Measured fun tlv _ => checked 2 (decide (tlv.length = 2)) :=
  measured_of_accepts _ _ (fun _ _ => rfl) fun _ _ => .bind .octet fun _ => .finish .octet

theorem ueTimeZone_safe : ueTimeZone.Safe :=
  safe_of_accepts _ _ (fun _ _ => rfl) fun _ _ => Scan.safe_octet.bind fun _ =>
    Scan.safe_octet.bind fun _ => Scan.safe_pure _

theorem takes_plmn : Takes (fun _ => loadPlmn) 3 :=
  .bind .octet fun _ => .bind .octet fun _ => .finish .octet

theorem safe_plmn : loadPlmn.Safe :=
  Scan.safe_octet.bind fun _ => Scan.safe_octet.bind fun _ => Scan.safe_octet.bind fun _ =>
    Scan.safe_pure _

theorem servingNetwork_measured :
    servingNetwork.Measured fun tlv _ => checked 3 (decide (tlv.length = 3)) :=
  measured_of_accepts _ _ (fun _ _ => rfl) fun _ _ => takes_plmn

theorem servingNetwork_safe : servingNetwork.Safe :=
  safe_of_accepts _ _ (fun _ _ => rfl) fun _ _ => safe_plmn

/-! ## Arrays -/

theorem takes_array {n count : Nat} (b : Vector Octet n) (fits : count ≤ n) :
    Takes (fun _ => readArray b count) count := by
  refine .finish (.read fun _ => ?_)
  rw [List.length_take, Vector.length_toList, Nat.min_eq_left fits]

theorem safe_array {n : Nat} (b : Vector Octet n) (count : Nat) : (readArray b count).Safe :=
  (Scan.safe_read _).bind fun _ => Scan.safe_pure _

/-- Eight octets of digits are taken at most. -/
def digitsExtent (tlv : Tlv) : Extent := if 8 < tlv.length then .fails else .takes tlv.length

theorem digits_measured {cls : Class Digits Digits} (clamp : Nat → Nat)
    (loads : ∀ junk tlv, cls.load junk tlv = loadDigits clamp tlv) :
    cls.Measured fun tlv _ => digitsExtent tlv where
  takes tlv value n _ _ shown := by
    unfold digitsExtent at shown
    split at shown
    · cases shown
    · rename_i small
      cases shown
      simp only [loads, loadDigits, if_neg small]
      exact (Takes.finish (takes_array _ (by omega))).along value
  raises tlv _ _ _ shown := by
    unfold digitsExtent at shown
    split at shown <;> cases shown
  fails tlv value taken fields _ _ shown _ reads := by
    unfold digitsExtent at shown
    split at shown
    · rename_i large
      have ends := reads fun _ => 0
      rw [loads, loadDigits, if_pos large] at ends
      exact not_reads_fault ends
    · cases shown

theorem digits_safe {cls : Class Digits Digits} (clamp : Nat → Nat)
    (loads : ∀ junk tlv, cls.load junk tlv = loadDigits clamp tlv) : cls.Safe := by
  intro junk tlv
  rw [loads]
  exact Scan.safe_ite (Scan.safe_fault (by simp)) ((safe_array _ _).bind fun _ => Scan.safe_pure _)

theorem ipAddress_measured : ipAddress.Measured fun tlv _ =>
    checked tlv.length (decide (tlv.length = 4 ∨ tlv.length = 16)) := by
  refine measured_of_accepts (fun tlv => tlv.length = 4 ∨ tlv.length = 16) (fun _ tlv => do
    let u1 ← readArray (Vector.replicate 16 0) tlv.length
    pure { u1 }) (fun _ _ => rfl) fun tlv accepted => ?_
  exact .finish (takes_array _ (by omega))

theorem ipAddress_safe : ipAddress.Safe :=
  safe_of_accepts (fun tlv => tlv.length = 4 ∨ tlv.length = 16) _ (fun _ _ => rfl)
    fun _ _ => (safe_array _ _).bind fun _ => Scan.safe_pure _

/-- An element is not empty, so an indication is never refused. -/
theorem indication_measured : indication.Measured fun tlv _ =>
    checked (min tlv.length 7) (decide (¬ tlv.length < 1)) :=
  measured_of_accepts (fun tlv => ¬ tlv.length < 1) (fun _ tlv => do
    let flags ← readArray (Vector.replicate 7 0) (min tlv.length 7)
    pure { flags }) (fun _ tlv => by rw [indication]; split <;> simp_all)
    fun tlv _ => .finish (takes_array _ (Nat.min_le_right _ _))

theorem indication_safe : indication.Safe := fun _ tlv =>
  Scan.safe_ite (Scan.safe_fault (tlvBadLength_ne tlv))
    ((safe_array _ _).bind fun _ => Scan.safe_pure _)

/-! ## Values of any length -/

theorem epco_measured : epco.Measured fun tlv _ => .takes tlv.length :=
  measured_of_takes fun _ => .read fun junk => length_uninitialised junk _

theorem epco_safe : epco.Safe := fun _ _ => Scan.safe_read _

/-- The octets of a cause: six when so many are declared, else two. -/
def causeExtent (tlv : Tlv) : Nat := if tlv.length = 6 then 6 else 2

theorem cause_measured : cause.Measured fun tlv _ => .takes (causeExtent tlv) := by
  refine measured_of_takes fun tlv => ?_
  unfold causeExtent
  by_cases six : tlv.length = 6
  · rw [if_pos six]
    simp only [cause, if_pos six]
    exact .bind .octet fun _ => .bind .octet fun _ => .bind .octet fun _ =>
      .bind (.number 2 16) fun _ => .finish .octet
  · rw [if_neg six]
    simp only [cause, if_neg six]
    exact .bind .octet fun _ => .finish .octet

theorem cause_safe : cause.Safe := fun _ _ =>
  Scan.safe_octet.bind fun _ => Scan.safe_octet.bind fun _ =>
    Scan.safe_ite
      (Scan.safe_octet.bind fun _ => (Scan.safe_number 2 16).bind fun _ =>
        Scan.safe_octet.bind fun _ => Scan.safe_pure _)
      (Scan.safe_pure _)

/-- A name is taken when the label coding of the value returns. -/
def accessPointNameExtent (value : Octets) : Extent :=
  match dottedToString passes value with
  | .ok _ => .takes value.length
  | .error (.thrown _) => .raises
  | .error _ => .fails

/-- What is left to do for a name after it has been read. -/
def undotted (dot : Octets) : Load Octets :=
  match dottedToString passes dot with
  | .ok (_, name) => pure name
  | .error .exhausted => Scan.fault .diverges
  | .error (.thrown _) => Scan.throw .lengthError
  | .error _ => Scan.fault .undefined

theorem accessPointName_load (junk : Junk) (tlv : Tlv) :
    accessPointName.load junk tlv =
      Scan.read (uninitialised junk tlv.length) >>= fun dot => undotted dot := by
  rw [accessPointName]
  congr

theorem reads_dotted {junk : Junk} {tlv : Tlv} {value : Octets} (size : value.length = tlv.length) :
    Reads (Scan.read (uninitialised junk tlv.length) : Load Octets) value value :=
  .read (by rw [size, length_uninitialised])

theorem accessPointName_measured :
    accessPointName.Measured fun _ value => accessPointNameExtent value where
  takes tlv value n _ size shown := by
    simp only [accessPointName_load]
    unfold accessPointNameExtent at shown
    cases decoded : dottedToString passes value with
    | error reason =>
        rw [decoded] at shown
        cases reason <;> cases shown
    | ok result =>
        rw [decoded] at shown
        cases shown
        refine ⟨value ++ [], result.2, by rw [List.append_nil], .inl (by rw [List.append_nil]),
          fun junk => (reads_dotted size).bind ?_⟩
        rw [undotted, decoded]
        exact .pure _
  raises tlv value _ size shown junk := by
    rw [accessPointName_load]
    unfold accessPointNameExtent at shown
    have raises : Raises (undotted value) [] := by
      cases decoded : dottedToString passes value with
      | ok result =>
          rw [decoded] at shown
          cases shown
      | error reason =>
          rw [decoded] at shown
          cases reason with
          | thrown exception =>
              rw [undotted, decoded]
              exact .throw _
          | undefined | diverges | exhausted => cases shown
    have all := (@reads_dotted junk _ _ size).bind_raises raises
    rw [List.append_nil] at all
    exact all
  fails tlv value taken fields _ size shown inside reads := by
    obtain ⟨tail, rfl⟩ := inside
    have ran := reads (fun _ => 0) tail
    have read := @reads_dotted (fun _ => 0) _ _ size []
    rw [List.append_nil] at read
    rw [accessPointName_load, scan_bind, read] at ran
    unfold accessPointNameExtent at shown
    cases decoded : dottedToString passes (taken ++ tail) with
    | ok result =>
        rw [decoded] at shown
        cases shown
    | error reason =>
        rw [decoded] at shown
        cases reason with
        | thrown exception => cases shown
        | undefined | diverges | exhausted =>
            simp only [undotted, decoded] at ran
            cases ran

/-- What is read for a name that is declared there: behind the end of the datagram it is what was
in memory. -/
def nameBuffer (junk : Junk) (tlv : Tlv) (octets : Octets) : Octets :=
  octets.take tlv.length ++ (uninitialised junk tlv.length).drop octets.length

/-- The label coding goes on for ever, since the walk over the lengths comes round. -/
def NameStuck (junk : Junk) (tlv : Tlv) (octets : Octets) : Prop :=
  ¬NeverRound (Labels.nextOffset (nameBuffer junk tlv octets)) 0

theorem read_nameBuffer {junk : Junk} {tlv : Tlv} {stream : Stream} (sound : stream.Sound) :
    ∃ after, (Scan.read (uninitialised junk tlv.length) : Load Octets) stream =
        .ok (nameBuffer junk tlv stream.rest, after) ∧
      after.Sound ∧ after.rest <:+ stream.rest := by
  have safe := Scan.safe_read (ε := GtpcException) (uninitialised junk tlv.length) stream sound
  unfold Scan.SafeAt at safe
  have read : ∃ after, (Scan.read (uninitialised junk tlv.length) : Load Octets) stream =
      .ok (nameBuffer junk tlv stream.rest, after) := by
    unfold Scan.read nameBuffer
    rw [length_uninitialised]
    split
    · next failed =>
        rw [sound failed, List.take_nil, List.length_nil, List.drop_zero, List.nil_append]
        exact ⟨_, rfl⟩
    · split
      · next enough =>
          have full : (uninitialised junk tlv.length).drop stream.rest.length = [] :=
            List.drop_eq_nil_of_le (by rw [length_uninitialised]; exact enough)
          rw [full, List.append_nil]
          exact ⟨_, rfl⟩
      · next short =>
          rw [List.take_of_length_le (by omega)]
          exact ⟨_, rfl⟩
  obtain ⟨after, read⟩ := read
  rw [read] at safe
  exact ⟨after, read, safe⟩

/-- A name is read to its end unless the label coding does not come to one. -/
theorem accessPointName_safe : accessPointName.SafeUnless NameStuck := by
  intro junk tlv stream sound
  obtain ⟨after, read, fine, suffix⟩ := @read_nameBuffer junk tlv stream sound
  rw [accessPointName_load]
  unfold Scan.SafeAt
  rw [scan_bind, read]
  unfold undotted
  simp only
  cases decoded : dottedToString passes (nameBuffer junk tlv stream.rest) with
  | ok result => exact ⟨fine, suffix⟩
  | error reason =>
      cases reason with
      | thrown exception => exact ⟨nofun, nofun⟩
      | undefined | diverges => exact ⟨nofun, nofun⟩
      | exhausted =>
          exact ⟨nofun, fun _ => Labels.round_of_exhausted (Nat.lt_succ_self _) decoded⟩

/-! ## Values with a type or flags in their first octet -/

/-- An element of a type with the length of the type. -/
def paaExtent (u1 : Octet) (tlv : Tlv) : Extent :=
  match pdnTypeOf u1 with
  | some type => checked (type.paaLength - 1) (decide (tlv.length = type.paaLength))
  | none => .raises

theorem takes_address (u1 : Octet) (type : PdnType) :
    Takes (fun _ => loadAddress u1 type) (type.paaLength - 1) := by
  cases type with
  | ipv4 => exact .finish (.number 4 32)
  | ipv6 => exact .bind .octet fun _ => .finish (.number 16 128)
  | ipv4v6 =>
      exact .bind .octet fun _ => .bind (.number 16 128) fun _ => .finish (.number 4 32)
  | nonIp => exact .pure _

theorem safe_address (u1 : Octet) (type : PdnType) : (loadAddress u1 type).Safe := by
  cases type with
  | ipv4 => exact (Scan.safe_number 4 32).bind fun _ => Scan.safe_pure _
  | ipv6 =>
      exact Scan.safe_octet.bind fun _ => (Scan.safe_number 16 128).bind fun _ => Scan.safe_pure _
  | ipv4v6 =>
      exact Scan.safe_octet.bind fun _ => (Scan.safe_number 16 128).bind fun _ =>
        (Scan.safe_number 4 32).bind fun _ => Scan.safe_pure _
  | nonIp => exact Scan.safe_pure _

/-- What is left to do for an address after its first octet. -/
def loadPaa (u1 : Octet) (tlv : Tlv) : Load PaaIe :=
  match pdnTypeOf u1 with
  | some type =>
      if tlv.length = type.paaLength then loadAddress u1 type else Scan.fault (tlvBadLength tlv)
  | none => Scan.throw badPdnType

theorem paa_load (junk : Junk) (tlv : Tlv) :
    paa.load junk tlv = Scan.into (paaMemory junk) 8 >>= fun u1 => loadPaa u1 tlv := rfl

theorem paa_measured :
    paa.Measured fun tlv value => afterOctets 1 (paaExtent (value.headD 0) tlv) := by
  refine measured_of_first (fun u1 tlv _ => loadPaa u1 tlv) paa_load (fun _ => rfl) fun u1 tlv => ?_
  unfold loadPaa paaExtent
  cases pdnTypeOf u1 with
  | none => exact .raises fun _ _ => ⟨_, rfl⟩
  | some type =>
      unfold checked
      by_cases same : tlv.length = type.paaLength
      · simp only [if_pos same, decide_eq_true same, if_true]
        exact .takes (takes_address u1 type)
      · simp only [if_neg same, decide_eq_false same, Bool.false_eq_true, if_false]
        exact badLength_fails tlv

theorem paa_safe : paa.Safe := by
  refine safe_of_first (fun u1 tlv _ => loadPaa u1 tlv) paa_load fun u1 tlv _ => ?_
  unfold loadPaa
  split
  · exact Scan.safe_ite (safe_address _ _) (Scan.safe_fault (tlvBadLength_ne tlv))
  · exact Scan.safe_throw _

def fteidExtent (u1 : Octet) (tlv : Tlv) : Extent :=
  checked (fteidLength (u1.getLsbD 7) (u1.getLsbD 6) - 1)
    (decide (tlv.length = fteidLength (u1.getLsbD 7) (u1.getLsbD 6)))

theorem takes_fteid (u1 : Octet) :
    Takes (fun _ => loadFteid u1) (fteidLength (u1.getLsbD 7) (u1.getLsbD 6) - 1) := by
  have takes : Takes (fun _ => loadFteid u1)
      (4 + (declaredFor (u1.getLsbD 7) 4 + declaredFor (u1.getLsbD 6) 16)) :=
    .bind (.number 4 32) fun _ => .bind (.optional (.number 4 32)) fun _ =>
      .finish (.optional (.number 16 128))
  have same : fteidLength (u1.getLsbD 7) (u1.getLsbD 6) - 1 =
      4 + (declaredFor (u1.getLsbD 7) 4 + declaredFor (u1.getLsbD 6) 16) := by
    unfold fteidLength
    omega
  rw [same]
  exact takes

theorem fullyQualifiedTeid_measured :
    fullyQualifiedTeid.Measured fun tlv value =>
      afterOctets 1 (fteidExtent (value.headD 0) tlv) := by
  refine measured_of_first (fun u1 tlv _ =>
    if tlv.length = fteidLength (u1.getLsbD 7) (u1.getLsbD 6) then loadFteid u1
    else Scan.fault (tlvBadLength tlv)) (fun _ _ => rfl) (fun _ => rfl) fun u1 tlv => ?_
  unfold fteidExtent checked
  by_cases same : tlv.length = fteidLength (u1.getLsbD 7) (u1.getLsbD 6)
  · simp only [if_pos same, decide_eq_true same, if_true]
    exact .takes (takes_fteid u1)
  · simp only [if_neg same, decide_eq_false same, Bool.false_eq_true, if_false]
    exact badLength_fails tlv

theorem fullyQualifiedTeid_safe : fullyQualifiedTeid.Safe := fun _ tlv =>
  Scan.safe_octet.bind fun _ => Scan.safe_ite
    ((Scan.safe_number 4 32).bind fun _ =>
      (Scan.safe_optional (Scan.safe_number 4 32)).bind fun _ =>
        (Scan.safe_optional (Scan.safe_number 16 128)).bind fun _ => Scan.safe_pure _)
    (Scan.safe_fault (tlvBadLength_ne tlv))

/-- Octets behind the last identifier are not read. -/
def fqCsidExtent (u1 : Octet) (tlv : Tlv) : Extent :=
  match nodeIdTypeOf (u1.extractLsb' 4 4) with
  | some type => checked (type.size + 2 * (u1.setWidth 4 : BitVec 4).toNat)
      (decide (fqCsidLength type (u1.setWidth 4) ≤ tlv.length))
  | none => .raises

theorem takes_nodeId (type : NodeIdType) : Takes (fun _ => loadNodeId type) type.size := by
  cases type with
  | ipv4 => exact .finish (.number 4 32)
  | ipv6 => exact .finish (.number 16 128)
  | exotic => exact .finish (.number 4 32)

theorem safe_nodeId (type : NodeIdType) : (loadNodeId type).Safe := by
  cases type with
  | ipv4 => exact (Scan.safe_number 4 32).bind fun _ => Scan.safe_pure _
  | ipv6 => exact (Scan.safe_number 16 128).bind fun _ => Scan.safe_pure _
  | exotic => exact (Scan.safe_number 4 32).bind fun _ => Scan.safe_pure _

theorem takes_csids (n : Nat) : Takes (fun junk => loadCsids junk n) (2 * n) := by
  induction n with
  | zero => exact .pure []
  | succ n inductionHypothesis =>
      have takes : Takes (fun junk => loadCsids junk (n + 1)) (2 + 2 * n) :=
        .bind (.into fun junk => length_uninitialised junk 2) fun _ => .finish inductionHypothesis
      rw [Nat.mul_succ, Nat.add_comm (2 * n)]
      exact takes

theorem safe_csids (junk : Junk) (n : Nat) : (loadCsids junk n).Safe := by
  induction n with
  | zero => exact Scan.safe_pure []
  | succ n inductionHypothesis =>
      exact (Scan.safe_into _ 16).bind fun _ => inductionHypothesis.bind fun _ => Scan.safe_pure _

/-- What is left to do for a set after its first octet. -/
def loadFqCsid (u1 : Octet) (tlv : Tlv) (junk : Junk) : Load FqCsidIe :=
  match nodeIdTypeOf (u1.extractLsb' 4 4) with
  | some type =>
      if fqCsidLength type (u1.setWidth 4) ≤ tlv.length then do
        let nodeId ← loadNodeId type
        let pdnConnectionSetIdentifier ← loadCsids junk (u1.setWidth 4 : BitVec 4).toNat
        pure { nodeIdType := u1.extractLsb' 4 4, numberOfCsids := u1.setWidth 4, nodeId
               pdnConnectionSetIdentifier }
      else
        Scan.fault (tlvBadLength tlv)
  | none => Scan.throw badNodeIdType

theorem fqCsid_load (junk : Junk) (tlv : Tlv) :
    fqCsid.load junk tlv = Scan.into [0] 8 >>= fun u1 => loadFqCsid u1 tlv junk := rfl

theorem fqCsid_measured :
    fqCsid.Measured fun tlv value => afterOctets 1 (fqCsidExtent (value.headD 0) tlv) := by
  refine measured_of_first loadFqCsid fqCsid_load (fun _ => rfl) fun u1 tlv => ?_
  unfold loadFqCsid fqCsidExtent
  cases nodeIdTypeOf (u1.extractLsb' 4 4) with
  | none => exact .raises fun _ _ => ⟨_, rfl⟩
  | some type =>
      unfold checked
      by_cases enough : fqCsidLength type (u1.setWidth 4) ≤ tlv.length
      · simp only [if_pos enough, decide_eq_true enough, if_true]
        exact .takes (.bind (takes_nodeId type) fun _ => .finish (takes_csids _))
      · simp only [if_neg enough, decide_eq_false enough, Bool.false_eq_true, if_false]
        exact badLength_fails tlv

theorem fqCsid_safe : fqCsid.Safe := by
  refine safe_of_first loadFqCsid fqCsid_load fun u1 tlv junk => ?_
  unfold loadFqCsid
  split
  · exact Scan.safe_ite ((safe_nodeId _).bind fun _ => (safe_csids junk _).bind fun _ =>
      Scan.safe_pure _) (Scan.safe_fault (tlvBadLength_ne tlv))
  · exact Scan.safe_throw _

def ranNasCauseExtent (u1 : Octet) : Extent :=
  match causeSize (u1.extractLsb' 4 4) with
  | some size => .takes size
  | none => .raises

/-- What is left to do for a cause after its first octet. -/
def loadCauseValue (u1 : Octet) : Load RanNasCauseIe :=
  match causeSize (u1.extractLsb' 4 4) with
  | some size => do
      let causeValue ← Scan.number size 16
      pure { u1, causeValue }
  | none => Scan.throw badProtocolType

theorem ranNasCause_load (junk : Junk) (tlv : Tlv) :
    ranNasCause.load junk tlv = Scan.into [0] 8 >>= fun u1 => loadCauseValue u1 := rfl

theorem ranNasCause_measured :
    ranNasCause.Measured fun _ value => afterOctets 1 (ranNasCauseExtent (value.headD 0)) := by
  have follows : ∀ u1, Follows (fun _ => loadCauseValue u1) (ranNasCauseExtent u1) := by
    intro u1
    unfold loadCauseValue ranNasCauseExtent
    cases causeSize (u1.extractLsb' 4 4) with
    | none => exact .raises fun _ _ => ⟨_, rfl⟩
    | some size => exact .takes (.finish (.number size 16))
  exact measured_of_first (fun u1 _ _ => loadCauseValue u1) ranNasCause_load (fun _ => rfl)
    fun u1 _ => follows u1

theorem ranNasCause_safe : ranNasCause.Safe := by
  refine safe_of_first (fun u1 _ _ => loadCauseValue u1) ranNasCause_load fun u1 tlv junk => ?_
  unfold loadCauseValue
  split
  · exact (Scan.safe_number _ 16).bind fun _ => Scan.safe_pure _
  · exact Scan.safe_throw _

theorem takes_area : Takes (fun _ => loadArea) 7 :=
  .bind takes_plmn fun _ => .bind (.number 2 16) fun _ => .finish (.number 2 16)

theorem safe_area : loadArea.Safe :=
  safe_plmn.bind fun _ => (Scan.safe_number 2 16).bind fun _ => (Scan.safe_number 2 16).bind fun _ =>
    Scan.safe_pure _

theorem takes_code : Takes (fun _ => loadCode) 5 :=
  .bind takes_plmn fun _ => .finish (.number 2 16)

theorem safe_code : loadCode.Safe :=
  safe_plmn.bind fun _ => (Scan.safe_number 2 16).bind fun _ => Scan.safe_pure _

theorem takes_ecgi : Takes (fun _ => loadEcgi) 7 :=
  .bind takes_plmn fun _ => .bind .octet fun _ => .finish (.number 3 24)

theorem safe_ecgi : loadEcgi.Safe :=
  safe_plmn.bind fun _ => Scan.safe_octet.bind fun _ => (Scan.safe_number 3 24).bind fun _ =>
    Scan.safe_pure _

theorem takes_macroEnodebId : Takes (fun _ => loadMacroEnodebId) 5 :=
  .bind takes_plmn fun _ => .finish (.number 2 16)

theorem safe_macroEnodebId : loadMacroEnodebId.Safe :=
  safe_plmn.bind fun _ => (Scan.safe_number 2 16).bind fun _ => Scan.safe_pure _

theorem takes_extendedMacroEnodebId : Takes (fun _ => loadExtendedMacroEnodebId) 6 :=
  .bind takes_plmn fun _ => .bind .octet fun _ => .finish (.number 2 16)

theorem safe_extendedMacroEnodebId : loadExtendedMacroEnodebId.Safe :=
  safe_plmn.bind fun _ => Scan.safe_octet.bind fun _ => (Scan.safe_number 2 16).bind fun _ =>
    Scan.safe_pure _

/-- The octets of the locations are those of their flags, whatever is declared. -/
theorem takes_locations (u1 : Octet) : Takes (fun _ => loadLocations u1) (uliExtent u1 - 1) := by
  rw [uliExtent, Nat.add_sub_cancel_left]
  exact .bind (.optional takes_area) fun _ => .bind (.optional takes_area) fun _ =>
    .bind (.optional takes_area) fun _ => .bind (.optional takes_code) fun _ =>
    .bind (.optional takes_ecgi) fun _ => .bind (.optional takes_code) fun _ =>
    .bind (.optional takes_macroEnodebId) fun _ => .finish (.optional takes_extendedMacroEnodebId)

theorem safe_locations (u1 : Octet) : (loadLocations u1).Safe :=
  (Scan.safe_optional safe_area).bind fun _ => (Scan.safe_optional safe_area).bind fun _ =>
    (Scan.safe_optional safe_area).bind fun _ => (Scan.safe_optional safe_code).bind fun _ =>
    (Scan.safe_optional safe_ecgi).bind fun _ => (Scan.safe_optional safe_code).bind fun _ =>
    (Scan.safe_optional safe_macroEnodebId).bind fun _ =>
    (Scan.safe_optional safe_extendedMacroEnodebId).bind fun _ => Scan.safe_pure _

theorem userLocationInformation_measured :
    userLocationInformation.Measured fun _ value =>
      afterOctets 1 (.takes (uliExtent (value.headD 0) - 1)) :=
  measured_of_first (fun u1 _ _ => loadLocations u1) (fun _ _ => rfl) (fun _ => rfl)
    fun u1 _ => .takes (takes_locations u1)

theorem userLocationInformation_safe : userLocationInformation.Safe :=
  fun _ _ => Scan.safe_octet.bind safe_locations

/-! ## Containers of options -/

/-- The string is a sequence of containers by their length fields. -/
def tiled : Nat → Octets → Bool
  | _, [] => true
  | passes + 1, _ :: _ :: length :: rest =>
      decide (length.toNat ≤ rest.length) && tiled passes (rest.drop length.toNat)
  | _, _ => false

/-- A string that is not empty starts with a container, or is not tiled. -/
theorem tiled_cases {passes : Nat} {octets : Octets} (some' : octets ≠ []) :
    (∃ high low length contents rest, octets = high :: low :: length :: contents ++ rest ∧
        contents.length = length.toNat ∧ tiled (passes + 1) octets = tiled passes rest) ∨
      (tiled (passes + 1) octets = false ∧ ∀ high low length rest,
        octets = high :: low :: length :: rest → rest.length < length.toNat) := by
  cases octets with
  | nil => exact absurd rfl some'
  | cons high octets =>
      cases octets with
      | nil => exact .inr ⟨rfl, fun _ _ _ _ same => by cases same⟩
      | cons low octets =>
          cases octets with
          | nil => exact .inr ⟨rfl, fun _ _ _ _ same => by cases same⟩
          | cons length rest =>
              by_cases fits : length.toNat ≤ rest.length
              · refine .inl ⟨high, low, length, rest.take length.toNat, rest.drop length.toNat,
                  ?_, ?_, ?_⟩
                · rw [List.cons_append, List.cons_append, List.cons_append, List.take_append_drop]
                · rw [List.length_take, Nat.min_eq_left fits]
                · rw [tiled, decide_eq_true fits, Bool.true_and]
              · refine .inr ⟨?_, fun high' low' length' rest' same => ?_⟩
                · rw [tiled, decide_eq_false fits, Bool.false_and]
                · cases same
                  omega

def pcoExtent (value : Octets) : Extent :=
  if tiled value.length value.tail then .takes value.length else .fails

theorem safe_container (junk : Junk) : (loadContainer junk).Safe :=
  (Scan.safe_number 2 16).bind fun _ => Scan.safe_octet.bind fun _ =>
    (Scan.safe_read _).bind fun _ =>
    Scan.safe_pure _

theorem declared_ge (container : ProtocolOrContainerId) : 3 ≤ container.declared :=
  Nat.le_add_left 3 _

theorem safe_containers (junk : Junk) (tlv : Tlv) {passes remaining : Nat}
    (enough : remaining ≤ passes) : (loadContainers junk tlv passes remaining).Safe := by
  induction passes generalizing remaining with
  | zero =>
      rw [Nat.le_zero.mp enough]
      exact Scan.safe_pure []
  | succ passes inductionHypothesis =>
      cases remaining with
      | zero => exact Scan.safe_pure []
      | succ remaining =>
          refine (safe_container junk).bind fun container => Scan.safe_ite ?_
            (Scan.safe_fault (tlvBadLength_ne tlv))
          have longer := declared_ge container
          exact (inductionHypothesis (by omega)).bind fun _ => Scan.safe_pure _

/-- A container whose contents are as long as its length field. -/
theorem reads_container (junk : Junk) (high low length : Octet) {contents : Octets}
    (size : contents.length = length.toNat) :
    Reads (loadContainer junk) (high :: low :: length :: contents)
      ⟨BitVec.ofNat 16 (ofBe [high, low]), length, contents⟩ := by
  have read : Reads (Scan.read [0, 0] : Load Octets) [high, low] [high, low] := .read rfl
  have number : Reads (Scan.number 2 16 : Load (BitVec 16)) [high, low]
      (BitVec.ofNat 16 (ofBe [high, low])) := read.finish
  have contents' : Reads (Scan.read (uninitialised junk length.toNat) : Load Octets) contents
      contents := .read (by rw [size, length_uninitialised])
  exact number.bind ((Reads.octet length).bind contents'.finish)

theorem declared_container (high low length : Octet) (contents rest : Octets) :
    ProtocolOrContainerId.declared ⟨BitVec.ofNat 16 (ofBe [high, low]), length, contents⟩ ≤
        length.toNat + 2 + rest.length + 1 ∧
      length.toNat + 2 + rest.length + 1 -
          ProtocolOrContainerId.declared ⟨BitVec.ofNat 16 (ofBe [high, low]), length, contents⟩ =
        rest.length := by
  unfold ProtocolOrContainerId.declared
  simp only
  omega

/-- What is read of a container that goes on behind the string. -/
theorem container_of_stream (junk : Junk) (stream : Stream) :
    ∃ container after, loadContainer junk stream = .ok (container, after) ∧
      ∀ high low length more, stream = ⟨high :: low :: length :: more, false⟩ →
        container.lengthOfProtocolIdContents = length := by
  have reads : ∀ (old : Octets) (s : Stream), ∃ octets after,
      (Scan.read old : Load Octets) s = .ok (octets, after) := by
    intro old s
    unfold Scan.read
    split
    · exact ⟨_, _, rfl⟩
    · split <;> exact ⟨_, _, rfl⟩
  obtain ⟨first, after1, one⟩ := reads [0, 0] stream
  obtain ⟨second, after2, two⟩ := reads [0] after1
  obtain ⟨third, after3, three⟩ :=
    reads (uninitialised junk (BitVec.ofNat 8 (ofBe second)).toNat) after2
  have number : (Scan.number 2 16 : Load (BitVec 16)) stream =
      .ok (BitVec.ofNat 16 (ofBe first), after1) := by
    change (Scan.read [0, 0] >>= _) stream = _
    rw [scan_bind, one]
    rfl
  have octet : (Scan.octet : Load Octet) after1 = .ok (BitVec.ofNat 8 (ofBe second), after2) := by
    change (Scan.read [0] >>= _) after1 = _
    rw [scan_bind, two]
    rfl
  refine ⟨⟨BitVec.ofNat 16 (ofBe first), BitVec.ofNat 8 (ofBe second), third⟩, after3, ?_, ?_⟩
  · rw [loadContainer, scan_bind, number]
    simp only [scan_bind, octet, three]
    rfl
  · rintro high low length more rfl
    have split : (Scan.read [0, 0] : Load Octets) ⟨high :: low :: length :: more, false⟩ =
        .ok ([high, low], ⟨length :: more, false⟩) := rfl
    rw [split] at one
    cases one
    have next : (Scan.octet : Load Octet) ⟨length :: more, false⟩ =
        .ok (length, ⟨more, false⟩) := Reads.octet length more
    rw [next] at octet
    cases octet
    rfl

theorem reads_containers (tlv : Tlv) {passes : Nat} {octets : Octets}
    (tiles : tiled passes octets = true) :
    ∃ containers, ∀ junk,
      Reads (loadContainers junk tlv passes octets.length) octets containers := by
  by_cases empty : octets = []
  · rw [empty]
    cases passes <;> exact ⟨[], fun _ => .pure []⟩
  · induction passes generalizing octets with
    | zero =>
        cases octets with
        | nil => exact absurd rfl empty
        | cons high octets => simp [tiled] at tiles
    | succ passes inductionHypothesis =>
        rcases @tiled_cases passes _ empty with
          ⟨high, low, length, contents, rest, rfl, size, same⟩ | ⟨untiled, -⟩
        · rw [same] at tiles
          have more : ∃ containers, ∀ junk,
              Reads (loadContainers junk tlv passes rest.length) rest containers := by
            by_cases last : rest = []
            · rw [last]
              cases passes <;> exact ⟨[], fun _ => .pure []⟩
            · exact inductionHypothesis tiles last
          obtain ⟨containers, reads⟩ := more
          refine ⟨⟨BitVec.ofNat 16 (ofBe [high, low]), length, contents⟩ :: containers,
            fun junk => ?_⟩
          have total : (high :: low :: length :: contents ++ rest).length =
              length.toNat + 2 + rest.length + 1 := by
            rw [List.length_append]
            simp only [List.length_cons, size]
            omega
          rw [total]
          refine (reads_container junk high low length size).bind ?_
          obtain ⟨inside, left⟩ := declared_container high low length contents rest
          simp only [if_pos inside, left]
          exact (reads junk).finish
        · rw [untiled] at tiles
          cases tiles

theorem containers_fail (junk : Junk) (tlv : Tlv) {passes : Nat} {octets : Octets}
    (enough : octets.length ≤ passes) (tiles : tiled passes octets = false) (tail : Octets) :
    ∃ reason, loadContainers junk tlv passes octets.length ⟨octets ++ tail, false⟩ =
      .error reason := by
  induction passes generalizing octets with
  | zero =>
      rw [List.length_eq_zero_iff.mp (Nat.le_zero.mp enough)] at tiles
      cases tiles
  | succ passes inductionHypothesis =>
      have some' : octets ≠ [] := by
        rintro rfl
        cases tiles
      rcases @tiled_cases passes _ some' with
        ⟨high, low, length, contents, rest, rfl, size, same⟩ | ⟨-, short⟩
      · have total : (high :: low :: length :: contents ++ rest).length =
            length.toNat + 2 + rest.length + 1 := by
          rw [List.length_append]
          simp only [List.length_cons, size]
          omega
        rw [same] at tiles
        obtain ⟨reason, failed⟩ := inductionHypothesis (by omega) tiles
        refine ⟨reason, ?_⟩
        obtain ⟨inside, left⟩ := declared_container high low length contents rest
        rw [total, loadContainers, scan_bind, List.append_assoc,
          reads_container junk high low length size]
        simp only [if_pos inside, left]
        rw [scan_bind, failed]
      · obtain ⟨container, after, read, field⟩ := container_of_stream junk ⟨octets ++ tail, false⟩
        obtain ⟨remaining, size⟩ : ∃ remaining, octets.length = remaining + 1 :=
          ⟨octets.length - 1, by have := List.length_pos_of_ne_nil some'; omega⟩
        have large : ¬ container.declared ≤ remaining + 1 := by
          have longer := declared_ge container
          by_cases header : 3 ≤ octets.length
          · obtain ⟨high, low, length, rest, rfl⟩ : ∃ high low length rest,
                octets = high :: low :: length :: rest := by
              obtain ⟨high, more, rfl⟩ := List.exists_cons_of_ne_nil some'
              have second : more ≠ [] := by
                rintro rfl
                exact absurd header (by simp)
              obtain ⟨low, more, rfl⟩ := List.exists_cons_of_ne_nil second
              have third : more ≠ [] := by
                rintro rfl
                exact absurd header (by simp)
              obtain ⟨length, rest, rfl⟩ := List.exists_cons_of_ne_nil third
              exact ⟨high, low, length, rest, rfl⟩
            have overflow := short high low length rest rfl
            rw [ProtocolOrContainerId.declared, field high low length (rest ++ tail) rfl]
            simp only [List.length_cons] at size
            omega
          · omega
        refine ⟨tlvBadLength tlv, ?_⟩
        rw [size, loadContainers, scan_bind, read]
        simp only [if_neg large]
        rfl

theorem pco_load (junk : Junk) (tlv : Tlv) :
    pco.load junk tlv = Scan.into [0x80] 8 >>= fun u1 =>
      loadContainers junk tlv tlv.length (tlv.length - 1) >>= fun ids => pure ⟨u1, ids⟩ := rfl

theorem pco_measured : pco.Measured fun _ value => pcoExtent value := by
  have first : ∀ {tlv : Tlv} {value : Octets}, tlv.length ≠ 0 → value.length = tlv.length →
      ∃ u1 rest, value = u1 :: rest ∧ tlv.length - 1 = rest.length := by
    intro tlv value some' same
    cases value with
    | nil => exact absurd same.symm some'
    | cons u1 rest =>
        refine ⟨u1, rest, rfl, ?_⟩
        rw [← same, List.length_cons, Nat.add_sub_cancel]
  refine ⟨fun tlv value n some' same shown => ?_, fun tlv value _ _ shown => ?_,
    fun tlv value taken fields some' same shown inside reads => ?_⟩
  · obtain ⟨u1, rest, rfl, left⟩ := first some' same
    unfold pcoExtent at shown
    split at shown
    · rename_i tiles
      cases shown
      rw [List.tail_cons, same] at tiles
      obtain ⟨containers, reads⟩ := reads_containers tlv tiles
      refine ⟨[u1] ++ rest, ⟨u1, containers⟩, rfl, .inl (List.prefix_refl _), fun junk => ?_⟩
      simp only [pco_load, left]
      exact (Reads.intoOctet rfl u1).bind (reads junk).finish
    · cases shown
  · unfold pcoExtent at shown
    split at shown <;> cases shown
  · obtain ⟨u1, rest, rfl, left⟩ := first some' same
    unfold pcoExtent at shown
    split at shown
    · cases shown
    · rename_i untiled
      rw [List.tail_cons, same, Bool.not_eq_true] at untiled
      obtain ⟨tail, split⟩ := inside
      obtain ⟨reason, failed⟩ := containers_fail (fun _ => 0) tlv (by omega) untiled []
      rw [List.append_nil] at failed
      have ran := reads (fun _ => 0) tail
      have octet : (Scan.into [0x80] 8 : Load Octet) ⟨u1 :: rest, false⟩ =
          .ok (u1, ⟨rest, false⟩) := Reads.intoOctet rfl u1 rest
      rw [split, pco_load, left, scan_bind, octet] at ran
      simp only [scan_bind, failed] at ran
      cases ran

theorem pco_safe : pco.Safe := fun _ tlv =>
  (Scan.safe_into _ 8).bind fun _ =>
    (safe_containers _ tlv (Nat.sub_le tlv.length 1)).bind fun _ => Scan.safe_pure _

end OpenairSpgwc.Gtpv2c.Ie
