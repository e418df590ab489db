import OpenairSpgwc.Common.Labels
import OpenairSpgwc.Gtpv2c.ElementTypes

/-!
Contract: the element classes of GTPv2-C.

A class is made from its core type or from a stream. Made for a stream, it holds zeros
where its constructor says so. Writing can change the object, and `tlv.length` with it.

Owns:
- the constructor from the core type, `dump_to`, `load_from` and `to_core_type` of
  each class.

Does not own: the header of elements, the messages.
-/

namespace OpenairSpgwc.Gtpv2c.Ie

open Foundation
open OpenairSpgwc.Common

abbrev Load (α : Type) := Scan GtpcException α

abbrev Class (Core Fields : Type) := ElementClass GtpcException Core Fields

/-- The first octets are replaced by what has been read. -/
def replaced {n : Nat} (b : Vector Octet n) (octets : Octets) : Vector Octet n :=
  Vector.ofFn fun i => octets.getD i b[i]

/-- `read` of the first `count` octets of an array. -/
def readArray {n : Nat} (b : Vector Octet n) (count : Nat) : Load (Vector Octet n) := do
  let octets ← Scan.read (b.toList.take count)
  pure (replaced b octets)

/-! ## Integers -/

/-- One octet, zero before it is read. -/
def octetClass (mask : Octet) (check : Option Nat) : Class Octet Octet :=
  .integer 1 mask check (fun _ => [0]) tlvBadLength

def recovery : Class Octet Octet := octetClass 0xFF none

def epsBearerId : Class Octet Octet := octetClass 0x0F none

def chargingId : Class (BitVec 32) (BitVec 32) :=
  .integer 4 0xFFFFFFFF (some 4) (fun _ => [0, 0, 0, 0]) tlvBadLength

/-- The flags are the lower half of the octet. The other half is spare: it is not written, and
is taken over when it is read. -/
def bearerFlags : Class Octet Octet :=
  { octetClass 0x0F (some 1) with toCore := fun _ value => .ok value }

def pdnType : Class Octet Octet := octetClass 0x07 (some 1)

def ratType : Class Octet Octet := octetClass 0xFF (some 1)

def delayValue : Class Octet Octet := octetClass 0xFF (some 1)

def apnRestriction : Class Octet Octet := octetClass 0xFF (some 1)

def selectionMode : Class Octet Octet := octetClass 0x03 (some 1)

def nodeType : Class Octet Octet := octetClass 0xFF (some 1)

/-- The five features are the lower bits of the octet. -/
def nodeFeatures : Class Octet Octet := octetClass 0x1F (some 1)

/-- The four indications are the lower half of the octet. -/
def ciotOptimizationsSupportIndication : Class Octet Octet := octetClass 0x0F (some 1)

/-! ## Digits -/

/-- The loop-free part of `load_from` of all digits: more than eight octets are read past the
array. -/
def loadDigits (clamp : Nat → Nat) (tlv : Tlv) : Load Digits :=
  if 8 < tlv.length then
    Scan.fault .undefined
  else do
    let b ← readArray (Vector.replicate 8 0) tlv.length
    let filled := b.toList.getD (tlv.length - 1) 0 &&& 0xF0 = 0xF0
    let numDigits := if filled then tlv.length * 2 - 1 else tlv.length * 2
    pure { b, numDigits := BitVec.ofNat 32 (clamp numDigits) }

def atMost15 (numDigits : Nat) : Nat := if numDigits > 15 then 15 else numDigits

/-- `write` of octets of the array, which has eight. -/
def dumpDigits (length : Nat) (fields : Digits) :
    Except (Fault GtpcException) (Octets × Nat × Digits) :=
  if 8 < length then .error .undefined
  else .ok (fields.b.toList.take length, length, fields)

def imsi : Class Digits Digits where
  construct _ i := .ok (((i.numDigits + 1).toNat / 2) % 2 ^ 16, i)
  write _ length fields := dumpDigits length fields
  load _ tlv := loadDigits atMost15 tlv
  toCore _ fields := .ok fields

/-- The octet of the last digit gets its filler when the number of digits is odd. -/
def filled (b : Vector Octet 8) (index : Nat) : Vector Octet 8 :=
  if inside : index < 8 then b.set index (b[index] ||| 0xF0) else b

def mei : Class Digits Digits where
  construct _ i :=
    let numBytes := i.numDigits.toNat / 2
    if i.numDigits.toNat % 2 = 1 then
      if numBytes < 8 then
        .ok ((numBytes + 1) % 2 ^ 16, { i with b := filled i.b numBytes })
      else
        .error .undefined
    else
      .ok (numBytes % 2 ^ 16, i)
  write _ length fields := dumpDigits length fields
  load _ tlv := loadDigits atMost15 tlv
  toCore _ fields := .ok fields

/-- The octets of at most fifteen digits. -/
def msisdnBytes (numDigits : BitVec 32) : Nat := (atMost15 numDigits.toNat + 1) / 2

/-- The upper half of the last octet is no digit and is not copied. -/
def fifteenDigits (b : Vector Octet 8) (upper : Octet) : Vector Octet 8 :=
  b.set 7 ((b[7] &&& 0x0F) ||| (upper &&& 0xF0))

def msisdn : Class Digits Digits where
  construct junk m := .ok (msisdnBytes m.numDigits, { m with b := fifteenDigits m.b (junk 0) })
  write _ _ fields :=
    let numDigits := atMost15 fields.numDigits.toNat
    let b := if numDigits % 2 = 1 then filled fields.b (numDigits / 2) else fields.b
    let numBytes := msisdnBytes fields.numDigits
    .ok (b.toList.take numBytes, numBytes, { b, numDigits := BitVec.ofNat 32 numDigits })
  load _ tlv := loadDigits id tlv
  toCore _ fields := .ok { fields with b := fifteenDigits fields.b 0 }

/-! ## Cause -/

structure CauseIe where
  causeValue : Octet := 0
  u1 : Octet := 0
  typeOfTheOffendingIe : Octet := 0
  lengthOfTheOffendingIe : BitVec 16 := 0
  u2 : Octet := 0
deriving DecidableEq, Repr

def causeLength (causeValue : Octet) : Nat := if causeValue = mandatoryIeIncorrect then 6 else 2

/-- The instance of the offending element is read, and not written. -/
def cause : Class Cause CauseIe where
  construct _ i := .ok (causeLength i.causeValue, {
    causeValue := i.causeValue
    u1 := bits [i.cs, i.bce, i.pce]
    typeOfTheOffendingIe := i.offendingIeType
    lengthOfTheOffendingIe := i.offendingIeLength
    u2 := i.offendingIeInstance.setWidth 8 })
  write _ _ fields :=
    let offending :=
      if causeLength fields.causeValue = 6 then
        [fields.typeOfTheOffendingIe] ++ word 2 fields.lengthOfTheOffendingIe
      else []
    .ok ([fields.causeValue, fields.u1] ++ offending, causeLength fields.causeValue, fields)
  load _ tlv := do
    let causeValue ← Scan.octet
    let u1 ← Scan.octet
    if tlv.length = 6 then do
      let typeOfTheOffendingIe ← Scan.octet
      let lengthOfTheOffendingIe ← Scan.number 2 16
      let u2 ← Scan.octet
      pure { causeValue, u1, typeOfTheOffendingIe, lengthOfTheOffendingIe, u2 }
    else
      pure { causeValue, u1 }
  toCore _ fields := .ok {
    causeValue := fields.causeValue
    pce := fields.u1.getLsbD 2
    bce := fields.u1.getLsbD 1
    cs := fields.u1.getLsbD 0
    offendingIeType := fields.typeOfTheOffendingIe
    offendingIeLength := fields.lengthOfTheOffendingIe
    offendingIeInstance := fields.u2.setWidth 4 }

/-! ## Strings -/

/-- The passes of the loops of the label coding: an offset that comes back does so again and
again. -/
def passes : Nat := 2 ^ 16 + 1

/-- The coding of the name ends for every offset of 8 bits or never; the coded string is as long
as the buffer. -/
def accessPointName : Class Octets Octets where
  construct _ apn := .ok ((apn.length + 1) % 2 ^ 16, apn)
  write junk _ name :=
    match stringToDotted passes junk name with
    | .ok (_, dotted) => .ok (dotted, dotted.length % 2 ^ 16, name)
    | .error .exhausted => .error .diverges
    | .error _ => .error .undefined
  load junk tlv := do
    let dot ← Scan.read (uninitialised junk tlv.length)
    match dottedToString passes dot with
    | .ok (_, name) => pure name
    | .error .exhausted => Scan.fault .diverges
    | .error (.thrown _) => Scan.throw .lengthError
    | .error _ => Scan.fault .undefined
  toCore _ name := .ok name

def epco : Class Octets Octets where
  construct _ e := .ok (e.length % 2 ^ 16, e)
  write _ _ options := .ok (options, options.length % 2 ^ 16, options)
  load junk tlv := Scan.read (uninitialised junk tlv.length)
  toCore _ options := .ok options

/-! ## Records -/

def ambr : Class Ambr Ambr where
  construct _ ambr := .ok (8, ambr)
  write _ length fields := .ok (word 4 fields.brUl ++ word 4 fields.brDl, length, fields)
  load _ _ := do
    let brUl ← Scan.number 4 32
    let brDl ← Scan.number 4 32
    pure { brUl, brDl }
  toCore _ fields := .ok fields

structure IpAddressIe where
  u1 : Vector Octet 16 := Vector.replicate 16 0
  isIpv4 : Bool := true
deriving DecidableEq, Repr

/-- The rest of the union is zero. -/
def onlyIpv4 (address : Vector Octet 16) : Vector Octet 16 :=
  replaced (Vector.replicate 16 0) (address.toList.take 4)

/-- `isIpv4` is not changed by `load_from`. -/
def ipAddress : Class IpAddress IpAddressIe where
  construct _ i :=
    .ok (if i.isIpv4 then (4, ⟨onlyIpv4 i.address, true⟩) else (16, ⟨i.address, false⟩))
  write _ length fields :=
    .ok (fields.u1.toList.take (if fields.isIpv4 then 4 else 16), length, fields)
  load _ tlv :=
    if tlv.length = 4 ∨ tlv.length = 16 then do
      let u1 ← readArray (Vector.replicate 16 0) tlv.length
      pure { u1 }
    else
      Scan.fault (tlvBadLength tlv)
  toCore _ fields :=
    .ok (if fields.isIpv4 then ⟨true, onlyIpv4 fields.u1⟩ else ⟨false, fields.u1⟩)

/-- The spare bits of the last octet are zero. -/
def Indication.withoutSpare (i : Indication) : Indication :=
  ⟨i.flags.set 6 (i.flags[6] &&& 0x1F)⟩

/-- The first octet is written whatever the length, and the others as long as it is greater. -/
def indication : Class Indication Indication where
  construct _ i := .ok (7, i.withoutSpare)
  write _ length fields := .ok (fields.flags.toList.take (max length 1), length, fields)
  load _ tlv :=
    if tlv.length < 1 then
      Scan.fault (tlvBadLength tlv)
    else do
      let flags ← readArray (Vector.replicate 7 0) (min tlv.length 7)
      pure { flags }
  toCore _ fields := .ok fields.withoutSpare

/-- The numbers of packet filters and the packet filters are not read back. -/
def bearerTft : Class TrafficFlowTemplate Octet where
  construct _ t := .ok (2, t.tftoperationcode ++ BitVec.ofBool t.ebit ++ t.numberofpacketfilters)
  write _ length u1 := .ok ([u1], length, u1)
  load _ _ := Scan.octet
  toCore _ u1 := .ok {
    tftoperationcode := u1.extractLsb' 5 3
    ebit := u1.getLsbD 4
    numberofpacketfilters := 0 }

/-- The bit rates have 40 bits on the wire. -/
def bearerQos : Class BearerQos BearerQos where
  construct _ b := .ok (22, b)
  write _ length b :=
    .ok ([bits [b.pvi] ||| (b.pl.setWidth 8 <<< 2) ||| bits [false, false, false, false, false,
        false, b.pci], b.labelQci] ++ word 5 b.maximumBitRateForUplink ++
      word 5 b.maximumBitRateForDownlink ++ word 5 b.guarantedBitRateForUplink ++
      word 5 b.guarantedBitRateForDownlink, length, b)
  load _ tlv :=
    if tlv.length = 22 then do
      let u1 ← Scan.octet
      let labelQci ← Scan.octet
      let maximumBitRateForUplink ← Scan.number 5 64
      let maximumBitRateForDownlink ← Scan.number 5 64
      let guarantedBitRateForUplink ← Scan.number 5 64
      let guarantedBitRateForDownlink ← Scan.number 5 64
      pure { pci := u1.getLsbD 6, pl := u1.extractLsb' 2 4, pvi := u1.getLsbD 0, labelQci
             maximumBitRateForUplink, maximumBitRateForDownlink, guarantedBitRateForUplink
             guarantedBitRateForDownlink }
    else
      Scan.fault (tlvBadLength tlv)
  toCore _ b := .ok b

end OpenairSpgwc.Gtpv2c.Ie
