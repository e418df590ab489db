import OpenairSpgwc.Gtpv2c.Elements

/-!
Contract: the element classes of GTPv2-C whose octets depend on their flags or on a type
in the value.

Owns:
- networks and the locations of a UE;
- addresses and TEIDs;
- sets of PDN connections, causes of the access network and protocol options.

Does not own: the classes with a fixed layout.
-/

namespace OpenairSpgwc.Gtpv2c.Ie

open Foundation

/-! ## Networks -/

def Plmn.octets (p : Plmn) : Octets :=
  [p.mccDigit2 ++ p.mccDigit1, p.mncDigit3 ++ p.mccDigit3, p.mncDigit2 ++ p.mncDigit1]

def Plmn.ofOctets (u1 u2 u3 : Octet) : Plmn where
  mccDigit2 := u1.extractLsb' 4 4
  mccDigit1 := u1.setWidth 4
  mncDigit3 := u2.extractLsb' 4 4
  mccDigit3 := u2.setWidth 4
  mncDigit2 := u3.extractLsb' 4 4
  mncDigit1 := u3.setWidth 4

def Plmn.zero : Plmn := .ofOctets 0 0 0

def loadPlmn : Load Plmn := do
  let u1 ← Scan.octet
  let u2 ← Scan.octet
  let u3 ← Scan.octet
  pure (.ofOctets u1 u2 u3)

def servingNetwork : Class Plmn Plmn where
  construct _ s := .ok (3, s)
  write _ length fields := .ok (fields.octets, length, fields)
  load _ tlv := if tlv.length = 3 then loadPlmn else Scan.fault (tlvBadLength tlv)
  toCore _ fields := .ok fields

/-! ## Locations -/

def AreaField.zero : AreaField := ⟨.zero, 0, 0⟩

def AreaField.octets (a : AreaField) : Octets :=
  a.plmn.octets ++ (word 2 a.locationAreaCode ++ word 2 a.code)

def loadArea : Load AreaField := do
  let plmn ← loadPlmn
  let locationAreaCode ← Scan.number 2 16
  let code ← Scan.number 2 16
  pure { plmn, locationAreaCode, code }

def CodeField.zero : CodeField := ⟨.zero, 0⟩

def CodeField.octets (t : CodeField) : Octets := t.plmn.octets ++ word 2 t.code

def loadCode : Load CodeField := do
  let plmn ← loadPlmn
  let code ← Scan.number 2 16
  pure { plmn, code }

def EcgiField.zero : EcgiField := ⟨.zero, 0, 0, 0⟩

/-- The spare bits are not copied. -/
def EcgiField.withoutSpare (e : EcgiField) : EcgiField := { e with spare := 0 }

def EcgiField.octets (e : EcgiField) : Octets :=
  e.plmn.octets ++ ([e.spare ++ e.eci] ++ word 3 e.eUtranCellIdentifier)

def loadEcgi : Load EcgiField := do
  let plmn ← loadPlmn
  let u4 ← Scan.octet
  let eUtranCellIdentifier ← Scan.number 3 24
  pure { plmn, spare := u4.extractLsb' 4 4, eci := u4.setWidth 4, eUtranCellIdentifier }

def MacroEnodebIdField.zero : MacroEnodebIdField := ⟨.zero, 0, 0⟩

def MacroEnodebIdField.withoutSpare (m : MacroEnodebIdField) : MacroEnodebIdField :=
  { m with spare := 0 }

/-- The octet with the upper four bits of the identity is not written. -/
def MacroEnodebIdField.octets (m : MacroEnodebIdField) : Octets :=
  m.plmn.octets ++ word 2 (m.macroEnodebId.setWidth 16)

/-- Nor is it read. -/
def loadMacroEnodebId : Load MacroEnodebIdField := do
  let plmn ← loadPlmn
  let macroEnodebId ← Scan.number 2 16
  pure { plmn, spare := 0, macroEnodebId := macroEnodebId.setWidth 20 }

structure ExtendedMacroEnodebIdFieldIe where
  plmn : Plmn
  smenb : Bool
  spare : BitVec 3
  upper : BitVec 4
  extendedMacroEnodebId : BitVec 16
deriving DecidableEq, Repr

def ExtendedMacroEnodebIdFieldIe.zero : ExtendedMacroEnodebIdFieldIe := ⟨.zero, false, 0, 0, 0⟩

/-- The identity has 21 bits in the core type, and 20 here. -/
def ExtendedMacroEnodebIdFieldIe.ofCore (e : ExtendedMacroEnodebIdField) :
    ExtendedMacroEnodebIdFieldIe where
  plmn := e.plmn
  smenb := e.smenb
  spare := 0
  upper := e.extendedMacroEnodebId.extractLsb' 16 4
  extendedMacroEnodebId := e.extendedMacroEnodebId.setWidth 16

def ExtendedMacroEnodebIdFieldIe.toCore (e : ExtendedMacroEnodebIdFieldIe) :
    ExtendedMacroEnodebIdField where
  plmn := e.plmn
  smenb := e.smenb
  spare := e.spare.setWidth 2
  extendedMacroEnodebId := (e.upper ++ e.extendedMacroEnodebId).setWidth 21
  lostBits := 0

def ExtendedMacroEnodebIdFieldIe.octets (e : ExtendedMacroEnodebIdFieldIe) : Octets :=
  e.plmn.octets ++ ([BitVec.ofBool e.smenb ++ e.spare ++ e.upper] ++
    word 2 e.extendedMacroEnodebId)

def loadExtendedMacroEnodebId : Load ExtendedMacroEnodebIdFieldIe := do
  let plmn ← loadPlmn
  let u4 ← Scan.octet
  let extendedMacroEnodebId ← Scan.number 2 16
  pure { plmn, smenb := u4.getLsbD 7, spare := u4.extractLsb' 4 3, upper := u4.setWidth 4
         extendedMacroEnodebId }

/-- The flags of the locations are the bits of `u1`, from the lowest: `cgi`, `sai`, `rai`, `tai`,
`ecgi`, `lai`, `macro_enodeb_id` and `extended_macro_enodeb_id`. -/
structure UserLocationInformationIe where
  u1 : Octet
  cgi : AreaField
  sai : AreaField
  rai : AreaField
  tai : CodeField
  ecgi : EcgiField
  lai : CodeField
  macroEnodebId : MacroEnodebIdField
  extendedMacroEnodebId : ExtendedMacroEnodebIdFieldIe
deriving DecidableEq, Repr

def UserLocationInformation.flags (u : UserLocationInformation) : Octet :=
  bits [u.hasCgi, u.hasSai, u.hasRai, u.hasTai, u.hasEcgi, u.hasLai, u.hasMacroEnodebId,
    u.hasExtendedMacroEnodebId]

/-- Five octets are declared for a routing area and six for a macro eNodeB, which take seven each,
and four for a location area, which takes five. -/
def uliLength (u1 : Octet) : Nat :=
  1 + declaredFor (u1.getLsbD 7) 6 + declaredFor (u1.getLsbD 6) 6 + declaredFor (u1.getLsbD 5) 4 +
    declaredFor (u1.getLsbD 4) 7 + declaredFor (u1.getLsbD 3) 5 + declaredFor (u1.getLsbD 2) 5 +
    declaredFor (u1.getLsbD 1) 7 + declaredFor (u1.getLsbD 0) 7

/-- The octets of the locations, as they are written and read. -/
def uliExtent (u1 : Octet) : Nat :=
  1 + (declaredFor (u1.getLsbD 0) 7 + (declaredFor (u1.getLsbD 1) 7 +
    (declaredFor (u1.getLsbD 2) 7 + (declaredFor (u1.getLsbD 3) 5 + (declaredFor (u1.getLsbD 4) 7 +
    (declaredFor (u1.getLsbD 5) 5 + (declaredFor (u1.getLsbD 6) 5 +
    declaredFor (u1.getLsbD 7) 6)))))))

/-- A location is copied when its flag is set. -/
def copied {α : Type} (flag : Bool) (location absent : α) : α := if flag then location else absent

def UserLocationInformationIe.octets (u : UserLocationInformationIe) : Octets :=
  [u.u1] ++ (present (u.u1.getLsbD 0) u.cgi.octets ++ (present (u.u1.getLsbD 1) u.sai.octets ++
    (present (u.u1.getLsbD 2) u.rai.octets ++ (present (u.u1.getLsbD 3) u.tai.octets ++
    (present (u.u1.getLsbD 4) u.ecgi.octets ++ (present (u.u1.getLsbD 5) u.lai.octets ++
    (present (u.u1.getLsbD 6) u.macroEnodebId.octets ++
    present (u.u1.getLsbD 7) u.extendedMacroEnodebId.octets)))))))

def loadLocations (u1 : Octet) : Load UserLocationInformationIe := do
  let cgi ← Scan.optional (u1.getLsbD 0) loadArea .zero
  let sai ← Scan.optional (u1.getLsbD 1) loadArea .zero
  let rai ← Scan.optional (u1.getLsbD 2) loadArea .zero
  let tai ← Scan.optional (u1.getLsbD 3) loadCode .zero
  let ecgi ← Scan.optional (u1.getLsbD 4) loadEcgi .zero
  let lai ← Scan.optional (u1.getLsbD 5) loadCode .zero
  let macroEnodebId ← Scan.optional (u1.getLsbD 6) loadMacroEnodebId .zero
  let extendedMacroEnodebId ← Scan.optional (u1.getLsbD 7) loadExtendedMacroEnodebId .zero
  pure { u1, cgi, sai, rai, tai, ecgi, lai, macroEnodebId, extendedMacroEnodebId }

/-- A location of the core type that is all zeros. -/
def ExtendedMacroEnodebIdField.zero : ExtendedMacroEnodebIdField :=
  ExtendedMacroEnodebIdFieldIe.zero.toCore

def userLocationInformation : Class UserLocationInformation UserLocationInformationIe where
  construct _ u := .ok (uliLength u.flags, {
    u1 := u.flags
    cgi := copied u.hasCgi u.cgi .zero
    sai := copied u.hasSai u.sai .zero
    rai := copied u.hasRai u.rai .zero
    tai := copied u.hasTai u.tai .zero
    ecgi := copied u.hasEcgi u.ecgi.withoutSpare .zero
    lai := copied u.hasLai u.lai .zero
    macroEnodebId := copied u.hasMacroEnodebId u.macroEnodebId.withoutSpare .zero
    extendedMacroEnodebId :=
      copied u.hasExtendedMacroEnodebId (.ofCore u.extendedMacroEnodebId) .zero })
  write _ length fields := .ok (fields.octets, length, fields)
  load _ _ := do
    let u1 ← Scan.octet
    loadLocations u1
  toCore _ fields := .ok {
    hasCgi := fields.u1.getLsbD 0
    hasSai := fields.u1.getLsbD 1
    hasRai := fields.u1.getLsbD 2
    hasTai := fields.u1.getLsbD 3
    hasEcgi := fields.u1.getLsbD 4
    hasLai := fields.u1.getLsbD 5
    hasMacroEnodebId := fields.u1.getLsbD 6
    hasExtendedMacroEnodebId := fields.u1.getLsbD 7
    cgi := copied (fields.u1.getLsbD 0) fields.cgi .zero
    sai := copied (fields.u1.getLsbD 1) fields.sai .zero
    rai := copied (fields.u1.getLsbD 2) fields.rai .zero
    tai := copied (fields.u1.getLsbD 3) fields.tai .zero
    ecgi := copied (fields.u1.getLsbD 4) fields.ecgi .zero
    lai := copied (fields.u1.getLsbD 5) fields.lai .zero
    macroEnodebId := copied (fields.u1.getLsbD 6) fields.macroEnodebId .zero
    extendedMacroEnodebId :=
      copied (fields.u1.getLsbD 7) fields.extendedMacroEnodebId.toCore .zero }

/-! ## Addresses and TEIDs -/

structure PaaIe where
  u1 : Octet
  ipv6PrefixLength : Octet := 0
  ipv6Address : BitVec 128 := 0
  ipv4Address : BitVec 32 := 0
deriving DecidableEq, Repr

inductive PdnType where
  | ipv4
  | ipv6
  | ipv4v6
  | nonIp
deriving DecidableEq, Repr

/-- The lower three bits of the octet. -/
def pdnTypeOf (u1 : Octet) : Option PdnType :=
  match (u1 &&& 0x07).toNat with
  | 1 => some .ipv4
  | 2 => some .ipv6
  | 3 => some .ipv4v6
  | 4 => some .nonIp
  | _ => none

def PdnType.paaLength : PdnType → Nat
  | .ipv4 => 5
  | .ipv6 => 18
  | .ipv4v6 => 22
  | .nonIp => 1

/-- The fields that the type has; the others are zero. -/
def PaaIe.ofType (u1 : Octet) (type : PdnType) (ipv6PrefixLength : Octet)
    (ipv6Address : BitVec 128) (ipv4Address : BitVec 32) : PaaIe :=
  match type with
  | .ipv4 => { u1, ipv4Address }
  | .ipv6 => { u1, ipv6PrefixLength, ipv6Address }
  | .ipv4v6 => { u1, ipv6PrefixLength, ipv6Address, ipv4Address }
  | .nonIp => { u1 }

def PaaIe.address (p : PaaIe) : PdnType → Octets
  | .ipv4 => word 4 p.ipv4Address
  | .ipv6 => [p.ipv6PrefixLength] ++ word 16 p.ipv6Address
  | .ipv4v6 => [p.ipv6PrefixLength] ++ (word 16 p.ipv6Address ++ word 4 p.ipv4Address)
  | .nonIp => []

def loadAddress (u1 : Octet) : PdnType → Load PaaIe
  | .ipv4 => do
      let ipv4Address ← Scan.number 4 32
      pure { u1, ipv4Address }
  | .ipv6 => do
      let ipv6PrefixLength ← Scan.octet
      let ipv6Address ← Scan.number 16 128
      pure { u1, ipv6PrefixLength, ipv6Address }
  | .ipv4v6 => do
      let ipv6PrefixLength ← Scan.octet
      let ipv6Address ← Scan.number 16 128
      let ipv4Address ← Scan.number 4 32
      pure { u1, ipv6PrefixLength, ipv6Address, ipv4Address }
  | .nonIp => pure { u1 }

def badPdnType : GtpcException := .ieValue pdnAddressAllocationType "pdn_type"

/-- The octet in an object made for a stream: the type of a connection without IP, and five bits
that are not set. -/
def paaMemory (junk : Junk) : Octets := [(junk 0 &&& 0xF8) ||| 0x04]

def paa : Class Paa PaaIe where
  construct _ p :=
    match pdnTypeOf p.pdnType with
    | some type =>
        .ok (type.paaLength,
          .ofType (p.pdnType &&& 0x07) type p.ipv6PrefixLength p.ipv6Address p.ipv4Address)
    | none => .error (.thrown badPdnType)
  write _ length fields :=
    match pdnTypeOf fields.u1 with
    | some type => .ok ([fields.u1] ++ fields.address type, length, fields)
    | none => .error (.thrown badPdnType)
  load junk tlv := do
    let u1 ← Scan.into (paaMemory junk) 8
    match pdnTypeOf u1 with
    | some type =>
        if tlv.length = type.paaLength then
          loadAddress u1 type
        else
          Scan.fault (tlvBadLength tlv)
    | none => Scan.throw badPdnType
  toCore _ fields :=
    match pdnTypeOf fields.u1 with
    | some type =>
        let only := PaaIe.ofType fields.u1 type fields.ipv6PrefixLength fields.ipv6Address
          fields.ipv4Address
        .ok {
          pdnType := fields.u1 &&& 0x07
          ipv6PrefixLength := only.ipv6PrefixLength
          ipv6Address := only.ipv6Address
          ipv4Address := only.ipv4Address }
    | none => .error (.thrown badPdnType)

def Fteid.octet (f : Fteid) : Octet := BitVec.ofBool f.v4 ++ BitVec.ofBool f.v6 ++ f.interfaceType

def fteidLength (v4 v6 : Bool) : Nat := 5 + declaredFor v4 4 + declaredFor v6 16

def Fteid.octets (f : Fteid) : Octets :=
  [f.octet] ++ (word 4 f.teidGreKey ++ (present f.v4 (word 4 f.ipv4Address) ++
    present f.v6 (word 16 f.ipv6Address)))

def loadFteid (u1 : Octet) : Load Fteid := do
  let teidGreKey ← Scan.number 4 32
  let ipv4Address ← Scan.optional (u1.getLsbD 7) (Scan.number 4 32) 0
  let ipv6Address ← Scan.optional (u1.getLsbD 6) (Scan.number 16 128) 0
  pure { v4 := u1.getLsbD 7, v6 := u1.getLsbD 6, interfaceType := u1.setWidth 6, teidGreKey
         ipv4Address, ipv6Address }

/-- The addresses are copied whatever the flags. -/
def fullyQualifiedTeid : Class Fteid Fteid where
  construct _ f := .ok (fteidLength f.v4 f.v6, f)
  write _ length fields := .ok (fields.octets, length, fields)
  load _ tlv := do
    let u1 ← Scan.octet
    if tlv.length = fteidLength (u1.getLsbD 7) (u1.getLsbD 6) then loadFteid u1
    else Scan.fault (tlvBadLength tlv)
  toCore _ fields := .ok fields

/-! ## Times and rates -/

structure UeTimeZoneIe where
  timeZone : Octet
  u1 : Octet
deriving DecidableEq, Repr

def ueTimeZone : Class UeTimeZone UeTimeZoneIe where
  construct _ t := .ok (2, ⟨t.timeZone, t.daylightSavingTime.setWidth 8⟩)
  write _ length fields := .ok ([fields.timeZone, fields.u1], length, fields)
  load _ tlv :=
    if tlv.length = 2 then do
      let timeZone ← Scan.octet
      let u1 ← Scan.octet
      pure { timeZone, u1 }
    else
      Scan.fault (tlvBadLength tlv)
  toCore _ fields := .ok ⟨fields.timeZone, fields.u1.setWidth 2⟩

/-- A bit rate has five octets. -/
structure FlowQosIe where
  labelQci : Octet
  maximumBitRateForUplink : BitVec 40
  maximumBitRateForDownlink : BitVec 40
  guarantedBitRateForUplink : BitVec 40
  guarantedBitRateForDownlink : BitVec 40
deriving DecidableEq, Repr

/-- An array of five octets that has not been written, at an offset of the object. -/
def unsetRate (junk : Junk) (offset : Nat) : BitVec 40 :=
  BitVec.ofNat 40 (ofBe (uninitialised (fun i => junk (offset + i)) 5))

/-- The loop of the constructor that should write the rates runs while `i <= 0`, from 4, and so
never. The loop of `to_core_type` shifts after each octet, the last one too. -/
def flowQos : Class FlowQos FlowQosIe where
  construct junk b := .ok (21, {
    labelQci := b.labelQci
    maximumBitRateForUplink := unsetRate junk 0
    maximumBitRateForDownlink := unsetRate junk 5
    guarantedBitRateForUplink := unsetRate junk 10
    guarantedBitRateForDownlink := unsetRate junk 15 })
  write _ length b :=
    .ok ([b.labelQci] ++ (word 5 b.maximumBitRateForUplink ++
      (word 5 b.maximumBitRateForDownlink ++ (word 5 b.guarantedBitRateForUplink ++
      word 5 b.guarantedBitRateForDownlink))), length, b)
  load _ tlv :=
    if tlv.length = 21 then do
      let labelQci ← Scan.octet
      let maximumBitRateForUplink ← Scan.number 5 40
      let maximumBitRateForDownlink ← Scan.number 5 40
      let guarantedBitRateForUplink ← Scan.number 5 40
      let guarantedBitRateForDownlink ← Scan.number 5 40
      pure { labelQci, maximumBitRateForUplink, maximumBitRateForDownlink
             guarantedBitRateForUplink, guarantedBitRateForDownlink }
    else
      Scan.fault (tlvBadLength tlv)
  toCore _ b := .ok {
    labelQci := b.labelQci
    maximumBitRateForUplink := b.maximumBitRateForUplink.setWidth 64 <<< 8
    maximumBitRateForDownlink := b.maximumBitRateForDownlink.setWidth 64 <<< 8
    guarantedBitRateForUplink := b.guarantedBitRateForUplink.setWidth 64 <<< 8
    guarantedBitRateForDownlink := b.guarantedBitRateForDownlink.setWidth 64 <<< 8 }

/-! ## Sets of PDN connections -/

inductive NodeIdType where
  | ipv4
  | ipv6
  | exotic
deriving DecidableEq, Repr

def nodeIdTypeOf (nodeIdType : BitVec 4) : Option NodeIdType :=
  match nodeIdType.toNat with
  | 0 => some .ipv4
  | 1 => some .ipv6
  | 2 => some .exotic
  | _ => none

def NodeIdType.size : NodeIdType → Nat
  | .ipv4 => 4
  | .ipv6 => 16
  | .exotic => 4

/-- The part of the union that the type says. -/
def NodeId.ofType (node : NodeId) : NodeIdType → NodeId
  | .ipv4 => { unicastIpv4 := node.unicastIpv4 }
  | .ipv6 => { unicastIpv6 := node.unicastIpv6 }
  | .exotic => { mcc := node.mcc, mnc := node.mnc, operatorSpecificId := node.operatorSpecificId }

/-- `1000 * mcc + mnc` and the identity of the operator, which should have 12 bits. -/
def NodeId.exotic (node : NodeId) : BitVec 32 :=
  ((1000 * node.mcc.setWidth 32 + node.mnc.setWidth 32) <<< 12) |||
    node.operatorSpecificId.setWidth 32

def NodeId.octets (node : NodeId) : NodeIdType → Octets
  | .ipv4 => word 4 node.unicastIpv4
  | .ipv6 => word 16 node.unicastIpv6
  | .exotic => word 4 node.exotic

def loadNodeId : NodeIdType → Load NodeId
  | .ipv4 => do
      let unicastIpv4 ← Scan.number 4 32
      pure { unicastIpv4 }
  | .ipv6 => do
      let unicastIpv6 ← Scan.number 16 128
      pure { unicastIpv6 }
  | .exotic => do
      let exotic ← Scan.number 4 32
      pure {
        operatorSpecificId := exotic.setWidth 16 &&& 0x0FFF
        mnc := BitVec.ofNat 16 ((exotic.toNat / 2 ^ 12) % 1000)
        mcc := BitVec.ofNat 16 ((exotic.toNat / 2 ^ 12) / 1000) }

structure FqCsidIe where
  nodeIdType : BitVec 4
  numberOfCsids : BitVec 4
  nodeId : NodeId
  pdnConnectionSetIdentifier : List (BitVec 16)
deriving DecidableEq, Repr

def badNodeIdType : GtpcException := .ieValue fqCsidType "node_id_type"

def csidOctets (csids : List (BitVec 16)) : Octets := csids.flatMap (word 2)

/-- `htons` of a host that stores the lower octet first. -/
def htons (x : BitVec 16) : BitVec 16 := x.setWidth 8 ++ x.extractLsb' 8 8

def loadCsids (junk : Junk) : Nat → Load (List (BitVec 16))
  | 0 => pure []
  | n + 1 => do
      let x ← Scan.into (uninitialised junk 2) 16
      let csids ← loadCsids junk n
      pure (x :: csids)

def fqCsidLength (type : NodeIdType) (numberOfCsids : BitVec 4) : Nat :=
  1 + type.size + 2 * numberOfCsids.toNat

/-- `dump_to` leaves each identifier in the order of octets in which it is written; written again,
it is the other way round. -/
def fqCsid : Class FqCsid FqCsidIe where
  construct _ f :=
    match nodeIdTypeOf f.nodeIdType with
    | some type => .ok (fqCsidLength type f.numberOfCsids, {
        nodeIdType := f.nodeIdType
        numberOfCsids := f.numberOfCsids
        nodeId := f.nodeId.ofType type
        pdnConnectionSetIdentifier :=
          f.pdnConnectionSetIdentifier.toList.take f.numberOfCsids.toNat })
    | none => .error (.thrown badNodeIdType)
  write _ length fields :=
    match nodeIdTypeOf fields.nodeIdType with
    | some type =>
        .ok ([fields.nodeIdType ++ fields.numberOfCsids] ++ (fields.nodeId.octets type ++
            csidOctets fields.pdnConnectionSetIdentifier), length,
          { fields with
            pdnConnectionSetIdentifier := fields.pdnConnectionSetIdentifier.map htons })
    | none => .error (.thrown badNodeIdType)
  load junk tlv := do
    let u1 ← Scan.octet
    match nodeIdTypeOf (u1.extractLsb' 4 4) with
    | some type =>
        if fqCsidLength type (u1.setWidth 4) ≤ tlv.length then do
          let nodeId ← loadNodeId type
          let pdnConnectionSetIdentifier ← loadCsids junk (u1.setWidth 4 : BitVec 4).toNat
          pure { nodeIdType := u1.extractLsb' 4 4, numberOfCsids := u1.setWidth 4, nodeId
                 pdnConnectionSetIdentifier }
        else
          Scan.fault (tlvBadLength tlv)
    | none => Scan.throw badNodeIdType
  toCore _ fields :=
    match nodeIdTypeOf fields.nodeIdType with
    | some type => .ok {
        nodeIdType := fields.nodeIdType
        numberOfCsids := fields.numberOfCsids
        nodeId := fields.nodeId.ofType type
        pdnConnectionSetIdentifier :=
          Vector.ofFn fun i => fields.pdnConnectionSetIdentifier.getD i 0 }
    | none => .error (.thrown badNodeIdType)

/-! ## Causes of the access network -/

/-- The octets of a cause, by the type of its protocol. -/
def causeSize (protocolType : BitVec 4) : Option Nat :=
  match protocolType.toNat with
  | 0 | 3 | 4 => some 2
  | 1 | 2 => some 1
  | _ => none

structure RanNasCauseIe where
  u1 : Octet
  causeValue : BitVec 16 := 0
deriving DecidableEq, Repr

def badProtocolType : GtpcException := .ieValue ranNasCauseType "protocol_type"

/-- A value in one octet; the other one of the union is not used. -/
def narrowed (size : Nat) (value : BitVec 16) : BitVec 16 :=
  if size = 1 then (value.setWidth 8).setWidth 16 else value

def ranNasCause : Class RanNasCause RanNasCauseIe where
  construct _ c :=
    match causeSize c.protocolType with
    | some size => .ok (1 + size, ⟨c.protocolType ++ c.causeType, narrowed size c.causeValue⟩)
    | none => .error (.thrown badProtocolType)
  write _ length fields :=
    match causeSize (fields.u1.extractLsb' 4 4) with
    | some size => .ok ([fields.u1] ++ word size fields.causeValue, length, fields)
    | none => .error (.thrown badProtocolType)
  load _ _ := do
    let u1 ← Scan.octet
    match causeSize (u1.extractLsb' 4 4) with
    | some size => do
        let causeValue ← Scan.number size 16
        pure { u1, causeValue }
    | none => Scan.throw badProtocolType
  toCore _ fields :=
    match causeSize (fields.u1.extractLsb' 4 4) with
    | some size => .ok {
        protocolType := fields.u1.extractLsb' 4 4
        causeType := fields.u1.setWidth 4
        causeValue := narrowed size fields.causeValue }
    | none => .error (.thrown badProtocolType)

/-! ## Protocol configuration options -/

structure PcoIe where
  u1 : Octet
  protocolOrContainerIds : List ProtocolOrContainerId
deriving DecidableEq, Repr

def ProtocolOrContainerId.octets (p : ProtocolOrContainerId) : Octets :=
  word 2 p.protocolId ++ ([p.lengthOfProtocolIdContents] ++ p.protocolIdContents)

/-- The length by the length field of the container. -/
def ProtocolOrContainerId.declared (p : ProtocolOrContainerId) : Nat :=
  p.lengthOfProtocolIdContents.toNat + 3

def loadContainer (junk : Junk) : Load ProtocolOrContainerId := do
  let protocolId ← Scan.number 2 16
  let lengthOfProtocolIdContents ← Scan.octet
  let protocolIdContents ← Scan.read (uninitialised junk lengthOfProtocolIdContents.toNat)
  pure { protocolId, lengthOfProtocolIdContents, protocolIdContents }

/-- The loop of `load_from`; the first argument bounds the passes, of which each takes at least
three octets. -/
def loadContainers (junk : Junk) (tlv : Tlv) : Nat → Nat → Load (List ProtocolOrContainerId)
  | _, 0 => pure []
  | 0, _ + 1 => Scan.fault .exhausted
  | passes + 1, remaining + 1 => do
      let container ← loadContainer junk
      if container.declared ≤ remaining + 1 then do
        let containers ← loadContainers junk tlv passes (remaining + 1 - container.declared)
        pure (container :: containers)
      else
        Scan.fault (tlvBadLength tlv)

/-- The array of the core type has a fixed size, which is not compared with the number of
containers. -/
def pco : Class ProtocolConfigurationOptions PcoIe where
  construct _ p :=
    let ids := p.protocolOrContainerIds.toList.take p.numProtocolOrContainerId.toNat
    if p.numProtocolOrContainerId.toNat ≤ maximumProtocolIdOrContainerId then
      .ok ((1 + (ids.map ProtocolOrContainerId.declared).sum) % 2 ^ 16,
        ⟨BitVec.ofBool p.ext ++ (0 : BitVec 4) ++ p.configurationProtocol, ids⟩)
    else
      .error .undefined
  write _ length fields :=
    .ok ([fields.u1] ++ fields.protocolOrContainerIds.flatMap ProtocolOrContainerId.octets, length,
      fields)
  load junk tlv := do
    let u1 ← Scan.into [0x80] 8
    let protocolOrContainerIds ← loadContainers junk tlv tlv.length (tlv.length - 1)
    pure { u1, protocolOrContainerIds }
  toCore _ fields :=
    if fields.protocolOrContainerIds.length ≤ maximumProtocolIdOrContainerId then
      .ok {
        ext := fields.u1.getLsbD 7
        configurationProtocol := fields.u1.setWidth 3
        numProtocolOrContainerId := BitVec.ofNat 8 fields.protocolOrContainerIds.length
        protocolOrContainerIds :=
          Vector.ofFn fun i => fields.protocolOrContainerIds.getD i {} }
    else
      .error .undefined

end OpenairSpgwc.Gtpv2c.Ie
