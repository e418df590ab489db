import OpenairSpgwc.Foundation.Messages
import OpenairSpgwc.Gtpv2c.ElementExtents

/-!
Contract: the elements of GTPv2-C messages and the header of a message.

Owns:
- the kinds of elements, the type that each constructor gives, and the class that
  `new_gtpv2c_ie_from_stream` makes for a type;
- the header of an element and of a message;
- that reading a datagram always ends, and which datagrams it accepts.

Does not own: the containers of the messages.
-/

namespace OpenairSpgwc.Gtpv2c.Ie

open Foundation
open Foundation.Protocol (Extent)
open ElementClass

/-! ## Kinds -/

inductive Kind where
  | imsi
  | cause
  | recovery
  | accessPointName
  | ambr
  | epsBearerId
  | ipAddress
  | mei
  | msisdn
  | indication
  | pco
  | paa
  | bearerQos
  | flowQos
  | ratType
  | servingNetwork
  | bearerTft
  | userLocationInformation
  | fullyQualifiedTeid
  | delayValue
  | chargingId
  | bearerFlags
  | pdnType
  | ueTimeZone
  | apnRestriction
  | selectionMode
  | fqCsid
  | nodeType
  | nodeFeatures
  | ranNasCause
  | ciotOptimizationsSupportIndication
  | epco
deriving DecidableEq, Repr

namespace Kind

abbrev Core : Kind → Type
  | imsi | mei | msisdn => Digits
  | cause => Cause
  | accessPointName | epco => Octets
  | ambr => Ambr
  | ipAddress => IpAddress
  | indication => Indication
  | pco => ProtocolConfigurationOptions
  | paa => Paa
  | bearerQos => BearerQos
  | flowQos => FlowQos
  | servingNetwork => Plmn
  | bearerTft => TrafficFlowTemplate
  | userLocationInformation => UserLocationInformation
  | fullyQualifiedTeid => Fteid
  | chargingId => BitVec 32
  | ueTimeZone => UeTimeZone
  | fqCsid => FqCsid
  | ranNasCause => RanNasCause
  | recovery | epsBearerId | ratType | delayValue | bearerFlags | pdnType | apnRestriction
  | selectionMode | nodeType | nodeFeatures | ciotOptimizationsSupportIndication => Octet

abbrev Fields : Kind → Type
  | imsi | mei | msisdn => Digits
  | cause => CauseIe
  | accessPointName | epco => Octets
  | ambr => Ambr
  | ipAddress => IpAddressIe
  | indication => Indication
  | pco => PcoIe
  | paa => PaaIe
  | bearerQos => BearerQos
  | flowQos => FlowQosIe
  | servingNetwork => Plmn
  | bearerTft => Octet
  | userLocationInformation => UserLocationInformationIe
  | fullyQualifiedTeid => Fteid
  | chargingId => BitVec 32
  | ueTimeZone => UeTimeZoneIe
  | fqCsid => FqCsidIe
  | ranNasCause => RanNasCauseIe
  | recovery | epsBearerId | ratType | delayValue | bearerFlags | pdnType | apnRestriction
  | selectionMode | nodeType | nodeFeatures | ciotOptimizationsSupportIndication => Octet

def cls : (kind : Kind) → Class kind.Core kind.Fields
  | imsi => Ie.imsi
  | cause => Ie.cause
  | recovery => Ie.recovery
  | accessPointName => Ie.accessPointName
  | ambr => Ie.ambr
  | epsBearerId => Ie.epsBearerId
  | ipAddress => Ie.ipAddress
  | mei => Ie.mei
  | msisdn => Ie.msisdn
  | indication => Ie.indication
  | pco => Ie.pco
  | paa => Ie.paa
  | bearerQos => Ie.bearerQos
  | flowQos => Ie.flowQos
  | ratType => Ie.ratType
  | servingNetwork => Ie.servingNetwork
  | bearerTft => Ie.bearerTft
  | userLocationInformation => Ie.userLocationInformation
  | fullyQualifiedTeid => Ie.fullyQualifiedTeid
  | delayValue => Ie.delayValue
  | chargingId => Ie.chargingId
  | bearerFlags => Ie.bearerFlags
  | pdnType => Ie.pdnType
  | ueTimeZone => Ie.ueTimeZone
  | apnRestriction => Ie.apnRestriction
  | selectionMode => Ie.selectionMode
  | fqCsid => Ie.fqCsid
  | nodeType => Ie.nodeType
  | nodeFeatures => Ie.nodeFeatures
  | ranNasCause => Ie.ranNasCause
  | ciotOptimizationsSupportIndication => Ie.ciotOptimizationsSupportIndication
  | epco => Ie.epco

/-- The type that the constructor gives. The one of the bearer flags is that of a charging
identity. -/
def code : Kind → Nat
  | imsi => imsiType
  | cause => causeType
  | recovery => recoveryRestartCounterType
  | accessPointName => accessPointNameType
  | ambr => aggregateMaximumBitRateType
  | epsBearerId => epsBearerIdType
  | ipAddress => ipAddressType
  | mei => mobileEquipmentIdentityType
  | msisdn => msisdnType
  | indication => indicationType
  | pco => protocolConfigurationOptionsType
  | paa => pdnAddressAllocationType
  | bearerQos => bearerQualityOfServiceType
  | flowQos => flowQualityOfServiceType
  | ratType => ratTypeType
  | servingNetwork => servingNetworkType
  | bearerTft => epsBearerLevelTrafficFlowTemplateType
  | userLocationInformation => userLocationInformationType
  | fullyQualifiedTeid => fullyQualifiedTunnelEndpointIdentifierType
  | delayValue => delayValueType
  | chargingId | bearerFlags => chargingIdType
  | pdnType => pdnTypeType
  | ueTimeZone => ueTimeZoneType
  | apnRestriction => apnRestrictionType
  | selectionMode => selectionModeType
  | fqCsid => fqCsidType
  | nodeType => nodeTypeType
  | nodeFeatures => nodeFeaturesType
  | ranNasCause => ranNasCauseType
  | ciotOptimizationsSupportIndication => ciotOptimizationsSupportIndicationType
  | epco => extendedProtocolConfigurationOptionsType

end Kind

/-- The cases of `new_gtpv2c_ie_from_stream`. There is none for the causes of the access network
and for the extended options. -/
def dispatched : List (Nat × Kind) := [
  (imsiType, .imsi), (causeType, .cause), (recoveryRestartCounterType, .recovery),
  (accessPointNameType, .accessPointName), (aggregateMaximumBitRateType, .ambr),
  (epsBearerIdType, .epsBearerId), (ipAddressType, .ipAddress),
  (mobileEquipmentIdentityType, .mei), (msisdnType, .msisdn), (indicationType, .indication),
  (protocolConfigurationOptionsType, .pco), (pdnAddressAllocationType, .paa),
  (bearerQualityOfServiceType, .bearerQos), (flowQualityOfServiceType, .flowQos),
  (ratTypeType, .ratType), (servingNetworkType, .servingNetwork),
  (epsBearerLevelTrafficFlowTemplateType, .bearerTft),
  (userLocationInformationType, .userLocationInformation),
  (fullyQualifiedTunnelEndpointIdentifierType, .fullyQualifiedTeid),
  (delayValueType, .delayValue), (chargingIdType, .chargingId), (bearerFlagsType, .bearerFlags),
  (pdnTypeType, .pdnType), (ueTimeZoneType, .ueTimeZone), (apnRestrictionType, .apnRestriction),
  (selectionModeType, .selectionMode), (fqCsidType, .fqCsid), (nodeTypeType, .nodeType),
  (nodeFeaturesType, .nodeFeatures),
  (ciotOptimizationsSupportIndicationType, .ciotOptimizationsSupportIndication)]

theorem dispatched_mem {type : Nat} {kind : Kind} (found : dispatched.lookup type = some kind) :
    (type, kind) ∈ dispatched := by
  obtain ⟨before, after, eq, -⟩ := List.lookup_eq_some_iff.mp found
  rw [eq]
  exact List.mem_append_right _ List.mem_cons_self

/-! ## Headers of elements -/

/-- `gtpv2c_tlv::dump_to`; a constructor leaves the spare bits clear. -/
def dumpTlv (tlv : Tlv) : Octets :=
  toBe 1 tlv.type ++ (toBe 2 tlv.length ++ [BitVec.ofNat 8 (tlv.info % 16)])

/-- `gtpv2c_tlv::load_from`, for an object made of zeros. -/
def loadTlv : Load Tlv := do
  let type ← Scan.octet
  let length ← Scan.number 2 16
  let u1 ← Scan.octet
  pure ⟨type.toNat, length.toNat, u1.toNat % 16⟩

def catalogue : Catalogue GtpcException where
  Kind := Kind
  Core := Kind.Core
  Fields := Kind.Fields
  cls := Kind.cls
  code := Kind.code
  dispatch type := dispatched.lookup type
  grouped type := decide (type = bearerContextType)
  header := dumpTlv
  readHeader := loadTlv
  badLength := tlvBadLength

/-! ## The header of a message -/

/-- `gtpv2c_msg_header`. The sequence number has 24 bits wherever it is set. -/
structure MsgHeader where
  u1 : Octet
  messageType : Octet
  messageLength : BitVec 16
  teid : BitVec 32
  sequenceNumber : BitVec 24
  u2 : Octet
deriving DecidableEq, Repr

def MsgHeader.hasTeid (h : MsgHeader) : Bool := h.u1.getLsbD 3

/-- The message priority is in use. -/
def MsgHeader.mp (h : MsgHeader) : Bool := h.u1.getLsbD 2

def MsgHeader.size (h : MsgHeader) : Nat := 8 + declaredFor h.hasTeid 4

def MsgHeader.octets (h : MsgHeader) : Octets :=
  [h.u1 &&& 0xFC, h.messageType] ++ (word 2 h.messageLength ++ (present h.hasTeid (word 4 h.teid) ++
    (word 3 h.sequenceNumber ++ [if h.hasTeid && h.mp then h.u2 &&& 0xF0 else 0])))

/-- What follows the first octet of a header. -/
def loadAfterFlags (u1 : Octet) (junk : Junk) : Load MsgHeader := do
  let messageType ← Scan.octet
  let messageLength ← Scan.into [4, 0] 16
  let teid ← Scan.optional (u1.getLsbD 3) (Scan.number 4 32) 0
  let sequenceNumber ← Scan.into (uninitialised junk 3) 24
  let u2 ← Scan.octet
  pure { u1, messageType, messageLength, teid, sequenceNumber, u2 }

/-- `gtpv2c_msg_header::load_from`, for a new object. -/
def loadMsgHeader (junk : Junk) : Load MsgHeader := do
  let u1 ← Scan.into [0x40] 8
  loadAfterFlags u1 junk

def envelope : Envelope GtpcException MsgHeader where
  readHead := loadMsgHeader
  writeHead := MsgHeader.octets
  size := MsgHeader.size
  length h := h.messageLength.toNat
  badLength h := .msgBadLength h.messageType.toNat h.messageLength.toNat

/-! ## Reading headers -/

theorem headerReads : catalogue.HeaderReads (2 ^ 8) := by
  intro tlv type length info
  have one : toBe 1 tlv.type = [BitVec.ofNat 8 tlv.type] := by
    rw [toBe, toBe, pow_zero, Nat.div_one]
  have two : toBe 2 tlv.length = word 2 (BitVec.ofNat 16 tlv.length) := by
    rw [word, BitVec.toNat_ofNat, Nat.mod_eq_of_lt length]
  have small : tlv.info % 16 = tlv.info := Nat.mod_eq_of_lt info
  refine ⟨?_, rfl⟩
  have reads : Reads loadTlv ([BitVec.ofNat 8 tlv.type] ++ (word 2 (BitVec.ofNat 16 tlv.length) ++
      [BitVec.ofNat 8 tlv.info]))
      ⟨(BitVec.ofNat 8 tlv.type).toNat, (BitVec.ofNat 16 tlv.length).toNat,
        (BitVec.ofNat 8 tlv.info).toNat % 16⟩ :=
    (Reads.octet _).bind ((Reads.number (by decide) _).bind (Reads.octet _).finish)
  rw [BitVec.toNat_ofNat, Nat.mod_eq_of_lt type, BitVec.toNat_ofNat, Nat.mod_eq_of_lt length,
    BitVec.toNat_ofNat, Nat.mod_eq_of_lt (show tlv.info < 2 ^ 8 by omega), small] at reads
  change Reads loadTlv (dumpTlv tlv) tlv
  rw [dumpTlv, one, two, small]
  exact reads

theorem safe_tlv : loadTlv.Safe :=
  Scan.safe_octet.bind fun _ => (Scan.safe_number 2 16).bind fun _ => Scan.safe_octet.bind fun _ =>
    Scan.safe_pure _

theorem tlv_takes {stream after : Stream} {tlv : Tlv} (sound : stream.Sound)
    (ran : loadTlv stream = .ok (tlv, after)) (some' : tlv.length ≠ 0) :
    after.rest.length < stream.rest.length := by
  by_cases empty : stream.rest = []
  · obtain ⟨after1, one, still⟩ := Scan.number_of_nil (ε := GtpcException) (n := 1) (w := 8) empty
    obtain ⟨after2, two, still'⟩ := Scan.number_of_nil (ε := GtpcException) (n := 2) (w := 16) still
    obtain ⟨after3, three, -⟩ := Scan.number_of_nil (ε := GtpcException) (n := 1) (w := 8) still'
    have all : loadTlv stream = .ok (⟨0, 0, 0⟩, after3) := by
      rw [loadTlv, Scan.octet, scan_bind, one]
      simp only [scan_bind, two, three]
      rfl
    rw [all] at ran
    cases ran
    exact absurd rfl some'
  · exact Scan.number_shrinks (fun _ => (Scan.safe_number 2 16).bind fun _ =>
      Scan.safe_octet.bind fun _ => Scan.safe_pure _) sound empty (by decide) ran

theorem safe_afterFlags (u1 : Octet) (junk : Junk) : (loadAfterFlags u1 junk).Safe :=
  Scan.safe_octet.bind fun _ => (Scan.safe_into _ 16).bind fun _ =>
    (Scan.safe_optional (Scan.safe_number 4 32)).bind fun _ => (Scan.safe_into _ 24).bind fun _ =>
    Scan.safe_octet.bind fun _ => Scan.safe_pure _

theorem safe_msgHeader (junk : Junk) : (loadMsgHeader junk).Safe :=
  (Scan.safe_into _ 8).bind fun u1 => safe_afterFlags u1 junk

theorem takes_afterFlags (u1 : Octet) :
    Takes (loadAfterFlags u1) (1 + (2 + (declaredFor (u1.getLsbD 3) 4 + (3 + 1)))) :=
  .bind .octet fun _ => .bind (.into fun _ => rfl) fun _ => .bind (.optional (.number 4 32)) fun _ =>
    .bind (.into fun junk => length_uninitialised junk 3) fun _ => .finish .octet

theorem afterFlags_gives (u1 : Octet) (junk : Junk) :
    Scan.Gives (fun head => head.u1 = u1) (loadAfterFlags u1 junk) :=
  .bind fun _ => .bind fun _ => .bind fun _ => .bind fun _ => .bind fun _ => .pure rfl

/-- The header of a string that is long enough. -/
theorem msgHeader_starts (octets : Octets) (long : 12 ≤ octets.length) :
    ∃ first head, first <+: octets ∧ first.length = head.size ∧
      ∀ junk, Reads (loadMsgHeader junk) first head := by
  obtain ⟨u1, rest, rfl⟩ := List.exists_cons_of_ne_nil (show octets ≠ [] by
    rintro rfl
    exact absurd long (by simp))
  rw [List.length_cons] at long
  have inside : 1 + (2 + (declaredFor (u1.getLsbD 3) 4 + (3 + 1))) ≤ rest.length := by
    unfold declaredFor
    split <;> omega
  obtain ⟨head, reads⟩ := ((takes_afterFlags u1).along rest).reads inside
  have flags : head.u1 = u1 := afterFlags_gives u1 _ _ _ _ (reads (fun _ => 0) [])
  refine ⟨u1 :: rest.take _, head, (List.prefix_cons_inj u1).mpr (List.take_prefix _ _), ?_,
    fun junk => (Reads.intoOctet rfl u1).bind (reads junk)⟩
  rw [List.length_cons, List.length_take, Nat.min_eq_left inside, MsgHeader.size,
    MsgHeader.hasTeid, flags]
  omega

theorem envelope_lawful : envelope.Lawful where
  safe := safe_msgHeader
  sized first head reads := Envelope.sized_of_prefix msgHeader_starts reads
  length_lt _ head _ := head.messageLength.isLt
  long head := by
    change 4 ≤ 8 + declaredFor head.hasTeid 4
    omega
  size_lt head := by
    change 8 + declaredFor head.hasTeid 4 < 2 ^ 16
    unfold declaredFor
    split <;> omega

end OpenairSpgwc.Gtpv2c.Ie
