import OpenairSpgwc.Common.Imsi
import OpenairSpgwc.Foundation.Classes

/-!
Contract: the values of GTPv2-C information elements, and what the code raises for
elements and messages.

A flag is a `Bool`, a bit field a `BitVec` of its width, and an address is an integer
in network byte order. A union holds its octets. `uint` has 32 bits.

Owns:
- the core types of the elements, with the fields the element classes copy;
- the exceptions.

Does not own: the element classes, the containers of the messages.
-/

namespace OpenairSpgwc.Gtpv2c.Ie

open Foundation

/-! ## Exceptions -/

/-- The exceptions of messages and elements, without their phrases. The type that
`gtpc_tlv_bad_instance_exception` carries besides is left out. -/
inductive GtpcException where
  | msgBadLength (type length : Nat)
  | msgIllegalIe (type : Nat)
  | tlvBadInstance (type instance' : Nat)
  | missingIe (message element : String)
  | ieValue (type : Nat) (field : String)
  /-- `std::length_error` of `dotted_to_string`. -/
  | lengthError
deriving DecidableEq, Repr

/-- `std::terminate`. It leaves no result and no exception that could be caught. -/
def terminated : Fault GtpcException := .undefined

/-- `throw gtpc_tlv_bad_length_exception`. Its constructor, declared `throw()`, formats a
phrase with two places and one argument, for which `fmt::format` raises an exception of its
own. -/
def tlvBadLength (_ : Tlv) : Fault GtpcException := terminated

/-! ## Types -/

def imsiType : Nat := 1
def causeType : Nat := 2
def recoveryRestartCounterType : Nat := 3
def accessPointNameType : Nat := 71
def aggregateMaximumBitRateType : Nat := 72
def epsBearerIdType : Nat := 73
def ipAddressType : Nat := 74
def mobileEquipmentIdentityType : Nat := 75
def msisdnType : Nat := 76
def indicationType : Nat := 77
def protocolConfigurationOptionsType : Nat := 78
def pdnAddressAllocationType : Nat := 79
def bearerQualityOfServiceType : Nat := 80
def flowQualityOfServiceType : Nat := 81
def ratTypeType : Nat := 82
def servingNetworkType : Nat := 83
def epsBearerLevelTrafficFlowTemplateType : Nat := 84
def userLocationInformationType : Nat := 86
def fullyQualifiedTunnelEndpointIdentifierType : Nat := 87
def delayValueType : Nat := 92
def bearerContextType : Nat := 93
def chargingIdType : Nat := 94
def bearerFlagsType : Nat := 97
def pdnTypeType : Nat := 99
def ueTimeZoneType : Nat := 114
def apnRestrictionType : Nat := 127
def selectionModeType : Nat := 128
def fqCsidType : Nat := 132
def nodeTypeType : Nat := 135
def nodeFeaturesType : Nat := 152
def ranNasCauseType : Nat := 172
def ciotOptimizationsSupportIndicationType : Nat := 194
def extendedProtocolConfigurationOptionsType : Nat := 197

/-! ## Core types -/

/-- `imsi_t`, `mei_t` and `msisdn_t`, with two digits in an octet. -/
structure Digits where
  b : Vector Octet 8
  numDigits : BitVec 32
deriving DecidableEq, Repr

structure Cause where
  causeValue : Octet
  pce : Bool
  bce : Bool
  cs : Bool
  offendingIeType : Octet
  offendingIeLength : BitVec 16
  offendingIeInstance : BitVec 4
deriving DecidableEq, Repr

def mandatoryIeIncorrect : Octet := 69

structure Ambr where
  brUl : BitVec 32
  brDl : BitVec 32
deriving DecidableEq, Repr

/-- The address is a union: an IPv4 address is in its first four octets. -/
structure IpAddress where
  isIpv4 : Bool
  address : Vector Octet 16
deriving DecidableEq, Repr

/-- `indication_t`: seven octets of flags, the last with three spare bits. -/
structure Indication where
  flags : Vector Octet 7
deriving DecidableEq, Repr

/-- `pco_protocol_or_container_id_t`. -/
structure ProtocolOrContainerId where
  protocolId : BitVec 16 := 0
  lengthOfProtocolIdContents : Octet := 0
  protocolIdContents : Octets := []
deriving DecidableEq, Repr

/-- `PCO_UNSPEC_MAXIMUM_PROTOCOL_ID_OR_CONTAINER_ID`. -/
def maximumProtocolIdOrContainerId : Nat := 30

structure ProtocolConfigurationOptions where
  ext : Bool
  configurationProtocol : BitVec 3
  numProtocolOrContainerId : Octet
  protocolOrContainerIds : Vector ProtocolOrContainerId maximumProtocolIdOrContainerId
deriving DecidableEq, Repr

/-- `paa_t`. -/
structure Paa where
  pdnType : Octet
  ipv6PrefixLength : Octet
  ipv6Address : BitVec 128
  ipv4Address : BitVec 32
deriving DecidableEq, Repr

structure BearerQos where
  pci : Bool
  pl : BitVec 4
  pvi : Bool
  labelQci : Octet
  maximumBitRateForUplink : BitVec 64
  maximumBitRateForDownlink : BitVec 64
  guarantedBitRateForUplink : BitVec 64
  guarantedBitRateForDownlink : BitVec 64
deriving DecidableEq, Repr

structure FlowQos where
  labelQci : Octet
  maximumBitRateForUplink : BitVec 64
  maximumBitRateForDownlink : BitVec 64
  guarantedBitRateForUplink : BitVec 64
  guarantedBitRateForDownlink : BitVec 64
deriving DecidableEq, Repr

/-- `serving_network_t`, and the first fields of the locations. -/
structure Plmn where
  mccDigit2 : BitVec 4
  mccDigit1 : BitVec 4
  mncDigit3 : BitVec 4
  mccDigit3 : BitVec 4
  mncDigit2 : BitVec 4
  mncDigit1 : BitVec 4
deriving DecidableEq, Repr

/-- `cgi_field_t`, `sai_field_t` and `rai_field_t`, with the cell identity, the service area
code or the routing area code last. -/
structure AreaField where
  plmn : Plmn
  locationAreaCode : BitVec 16
  code : BitVec 16
deriving DecidableEq, Repr

/-- `tai_field_t` with its tracking area code, and `lai_field_t` with its location area code. -/
structure CodeField where
  plmn : Plmn
  code : BitVec 16
deriving DecidableEq, Repr

structure EcgiField where
  plmn : Plmn
  spare : BitVec 4
  eci : BitVec 4
  eUtranCellIdentifier : BitVec 24
deriving DecidableEq, Repr

structure MacroEnodebIdField where
  plmn : Plmn
  spare : BitVec 4
  macroEnodebId : BitVec 20
deriving DecidableEq, Repr

structure ExtendedMacroEnodebIdField where
  plmn : Plmn
  smenb : Bool
  spare : BitVec 2
  extendedMacroEnodebId : BitVec 21
  lostBits : BitVec 8
deriving DecidableEq, Repr

/-- `uli_t`: a flag says that the location of its name is there. -/
structure UserLocationInformation where
  hasCgi : Bool
  hasSai : Bool
  hasRai : Bool
  hasTai : Bool
  hasEcgi : Bool
  hasLai : Bool
  hasMacroEnodebId : Bool
  hasExtendedMacroEnodebId : Bool
  cgi : AreaField
  sai : AreaField
  rai : AreaField
  tai : CodeField
  ecgi : EcgiField
  lai : CodeField
  macroEnodebId : MacroEnodebIdField
  extendedMacroEnodebId : ExtendedMacroEnodebIdField
deriving DecidableEq, Repr

structure Fteid where
  v4 : Bool
  v6 : Bool
  interfaceType : BitVec 6
  teidGreKey : BitVec 32
  ipv4Address : BitVec 32
  ipv6Address : BitVec 128
deriving DecidableEq, Repr

structure UeTimeZone where
  timeZone : Octet
  daylightSavingTime : BitVec 2
deriving DecidableEq, Repr

/-- `traffic_flow_template_t`, without its packet filters. -/
structure TrafficFlowTemplate where
  tftoperationcode : BitVec 3
  ebit : Bool
  numberofpacketfilters : BitVec 4
deriving DecidableEq, Repr

/-- The node of a set of PDN connections. In the code all three are in one union, and the type
of the node says which it is. -/
structure NodeId where
  unicastIpv4 : BitVec 32 := 0
  unicastIpv6 : BitVec 128 := 0
  mcc : BitVec 16 := 0
  mnc : BitVec 16 := 0
  operatorSpecificId : BitVec 16 := 0
deriving DecidableEq, Repr

structure FqCsid where
  nodeIdType : BitVec 4
  numberOfCsids : BitVec 4
  nodeId : NodeId
  pdnConnectionSetIdentifier : Vector (BitVec 16) 15
deriving DecidableEq, Repr

/-- `ran_nas_cause_t`. The cause is a union; values of one octet are in the first one, the
lower one of a value of two. -/
structure RanNasCause where
  protocolType : BitVec 4
  causeType : BitVec 4
  causeValue : BitVec 16
deriving DecidableEq, Repr

end OpenairSpgwc.Gtpv2c.Ie
