import OpenairSpgwc.Foundation.Constructors
import OpenairSpgwc.Gtpv2c.Catalogue
import OpenairSpgwc.Gtpv2c.ElementReturns

/-!
Contract: the laws of the classes of GTPv2-C elements, kind by kind.

Owns:
- the declared length of the values of each kind, and the values that write as many octets,
  can be written, are written the same again, and come back;
- that the classes of the catalogue keep to them.
-/

namespace OpenairSpgwc.Gtpv2c.Ie

open Foundation
open OpenairSpgwc.Common

namespace Kind

/-- The length that the constructor declares. -/
def size : (kind : Kind) → kind.Core → Nat
  | imsi, core => imsiLength core
  | mei, core => meiLength core
  | msisdn, core => msisdnBytes core.numDigits
  | cause, core => causeLength core.causeValue
  | accessPointName, core => (core.length + 1) % 2 ^ 16
  | epco, core => core.length % 2 ^ 16
  | ambr, _ => 8
  | ipAddress, core => if core.isIpv4 then 4 else 16
  | indication, _ => 7
  | pco, core => pcoLength core
  | paa, core => paaLengthOf core.pdnType
  | bearerQos, _ => 22
  | flowQos, _ => 21
  | servingNetwork, _ => 3
  | bearerTft, _ => 2
  | userLocationInformation, core => uliLength core.flags
  | fullyQualifiedTeid, core => fteidLength core.v4 core.v6
  | chargingId, _ => 4
  | ueTimeZone, _ => 2
  | fqCsid, core => fqCsidLengthOf core
  | ranNasCause, core => ranNasCauseLength core.protocolType
  | recovery, _ | epsBearerId, _ | ratType, _ | delayValue, _ | bearerFlags, _ | pdnType, _
  | apnRestriction, _ | selectionMode, _ | nodeType, _ | nodeFeatures, _
  | ciotOptimizationsSupportIndication, _ => 1

/-- As many octets are written as are declared. -/
def Exact : (kind : Kind) → kind.Core → Prop
  | imsi, core => imsiLength core ≤ 8
  | mei, core => meiLength core ≤ 8
  | cause, core => core.causeValue ≠ mandatoryIeIncorrect
  | accessPointName, core => Labels.EndsEarly core ∧ core.length + 1 < 2 ^ 16
  | epco, core => core.length < 2 ^ 16
  | pco, core => PcoExact core
  | bearerTft, _ => False
  | userLocationInformation, core =>
      core.hasRai = false ∧ core.hasLai = core.hasMacroEnodebId
  | _, _ => True

/-- Writing stays inside the arrays of the object and comes to an end. -/
def Writable : (kind : Kind) → kind.Core → Prop
  | imsi, core => imsiLength core ≤ 8
  | mei, core => meiLength core ≤ 8
  | accessPointName, core => Labels.EndsEarly core
  | _, _ => True

/-- Writing again gives the same octets. -/
def Steady : (kind : Kind) → kind.Core → Prop
  | accessPointName, core => Labels.EndsEarly core → 0 ∉ core
  | fqCsid, core => ∀ csid ∈ core.used, htons csid = csid
  | _, _ => True

/-- The value is read as it was written. No class is made for three of the types, the traffic
flow template and the flow QoS are not read as they are written, and the type of the bearer
flags is that of another class. -/
def Fair : (kind : Kind) → kind.Core → Prop
  | imsi, core | mei, core => core.Packed
  | msisdn, core => core.PackedFifteen
  | cause, core => core.Plain
  | accessPointName, core => Labels.IsName core ∧ core.length ≤ 254
  | ipAddress, core => core.OnlyIpv4
  | indication, core => core.withoutSpare = core
  | pco, core => core.InRange
  | paa, core => core.InRange
  | bearerQos, core => core.InRange
  | userLocationInformation, core => core.InRange
  | fullyQualifiedTeid, core => core.InRange
  | fqCsid, core => core.InRange
  | epsBearerId, core | ciotOptimizationsSupportIndication, core => core &&& 0x0F = core
  | pdnType, core => core &&& 0x07 = core
  | selectionMode, core => core &&& 0x03 = core
  | nodeFeatures, core => core &&& 0x1F = core
  | epco, _ | flowQos, _ | bearerTft, _ | ranNasCause, _ | bearerFlags, _ => False
  | ambr, _ | servingNetwork, _ | chargingId, _ | ueTimeZone, _ | recovery, _ | ratType, _
  | delayValue, _ | apnRestriction, _ | nodeType, _ => True

end Kind

/-! ## Writing -/

theorem kind_written (kind : Kind) :
    kind.cls.Written kind.size kind.Exact kind.Writable kind.Steady := by
  cases kind with
  | imsi => exact imsi_written
  | mei => exact mei_written
  | msisdn => exact msisdn_written
  | cause => exact cause_written
  | recovery => exact octetClass_written 0xFF none
  | epsBearerId => exact octetClass_written 0x0F none
  | ratType => exact octetClass_written 0xFF (some 1)
  | delayValue => exact octetClass_written 0xFF (some 1)
  | bearerFlags => exact bearerFlags_written
  | pdnType => exact octetClass_written 0x07 (some 1)
  | apnRestriction => exact octetClass_written 0xFF (some 1)
  | selectionMode => exact octetClass_written 0x03 (some 1)
  | nodeType => exact octetClass_written 0xFF (some 1)
  | nodeFeatures => exact octetClass_written 0x1F (some 1)
  | ciotOptimizationsSupportIndication => exact octetClass_written 0x0F (some 1)
  | chargingId => exact chargingId_written
  | accessPointName => exact accessPointName_written
  | epco => exact epco_written
  | ambr => exact ambr_written
  | bearerTft => exact bearerTft_written
  | ipAddress => exact ipAddress_written
  | indication => exact indication_written
  | pco => exact pco_written
  | paa => exact paa_written
  | bearerQos => exact bearerQos_written
  | flowQos => exact flowQos_written
  | servingNetwork => exact servingNetwork_written
  | userLocationInformation => exact userLocationInformation_written
  | fullyQualifiedTeid => exact fullyQualifiedTeid_written
  | ueTimeZone => exact ueTimeZone_written
  | fqCsid => exact fqCsid_written
  | ranNasCause => exact ranNasCause_written

theorem length_dumpTlv (tlv : Tlv) : (dumpTlv tlv).length = tlvSize := by
  simp [dumpTlv, tlvSize]

theorem dumpTlv_shows (tlv : Tlv) (first second : Nat)
    (same : dumpTlv { tlv with length := first } = dumpTlv { tlv with length := second }) :
    first % 2 ^ 16 = second % 2 ^ 16 := by
  simp only [dumpTlv] at same
  obtain ⟨-, rest⟩ := List.append_inj same (by simp)
  obtain ⟨lengths, -⟩ := List.append_inj rest (by simp)
  have numbers := congrArg ofBe lengths
  rwa [ofBe_toBe, ofBe_toBe] at numbers

theorem catalogue_writes :
    CatalogueWrites catalogue Kind.size Kind.Exact Kind.Writable Kind.Steady where
  headed _ _ := length_dumpTlv _
  shows := dumpTlv_shows
  written := kind_written

/-! ## Reading what was written -/

theorem kind_returns {kind : Kind} {core : kind.Core} (fair : kind.Fair core) (info : Nat) :
    kind.cls.RoundTrips id kind.code info core := by
  cases kind with
  | imsi => exact imsi_returns fair
  | mei => exact mei_returns fair
  | msisdn => exact msisdn_returns fair
  | cause => exact cause_returns fair
  | recovery => exact octetClass_returns (.inl rfl) (BitVec.and_allOnes (x := core))
  | ratType | delayValue | apnRestriction | nodeType =>
      exact octetClass_returns (.inr rfl) (BitVec.and_allOnes (x := core))
  | epsBearerId => exact octetClass_returns (.inl rfl) fair
  | pdnType | selectionMode | nodeFeatures | ciotOptimizationsSupportIndication =>
      exact octetClass_returns (.inr rfl) fair
  | chargingId => exact chargingId_returns core
  | accessPointName => exact accessPointName_returns fair.1 fair.2
  | ambr => exact ambr_returns core
  | ipAddress => exact ipAddress_returns fair
  | indication => exact indication_returns fair
  | pco => exact pco_returns fair
  | paa => exact paa_returns fair
  | bearerQos => exact bearerQos_returns fair
  | servingNetwork => exact servingNetwork_returns core
  | userLocationInformation => exact userLocationInformation_returns fair
  | fullyQualifiedTeid => exact fullyQualifiedTeid_returns fair
  | ueTimeZone => exact ueTimeZone_returns core
  | fqCsid => exact fqCsid_returns fair
  | epco | flowQos | bearerTft | ranNasCause | bearerFlags => exact False.elim fair

theorem fairReturns : @FairReturns _ catalogue (fun _ => id) Kind.Fair :=
  fun _ _ info fair => kind_returns fair info

end OpenairSpgwc.Gtpv2c.Ie
