import OpenairSpgwc.Foundation.Containers
import OpenairSpgwc.Gtpv2c.Catalogue

/-!
Contract: the containers of GTPv2-C messages.

A container has a list of values for each member: a member with a presence bit or a presence
flag has at most one, and a vector has its elements when the bit is set. The constructor of
a message goes through the rows of its container. `to_core_type` looks up the entry for the
class and the instance of an element; a bearer context is first read into a container of its
own, and taken over under the names that the message has for its members.

Owns:
- the messages, their rows and their entries;
- the exceptions for elements that have no entry.

Does not own: the classes of the elements.
-/

namespace OpenairSpgwc.Gtpv2c.Ie

open Foundation

/-! ## Members -/

inductive Member where
  | imsi
  | msisdn
  | mei
  | uli
  | servingNetwork
  | ratType
  | indicationFlags
  | senderFteidForCp
  | pgwS5s8AddressForCp
  | s5S8PgwFteid
  | apn
  | selectionMode
  | pdnType
  | paa
  | apnRestriction
  | ambr
  | apnAmbr
  | linkedEpsBearerId
  | pco
  | epco
  | recovery
  | recoveryRestartCounter
  | sendingNodeFeatures
  | ueTimeZone
  | originatingNode
  | ranNasReleaseCause
  | delayDlPacketNotifReq
  | pdnConnectionChargingId
  | mmeFqCsid
  | sgwFqCsid
  | pgwFqCsid
  | epdgFqCsid
  | twanFqCsid
  | bearerContextsToBeCreated
  | bearerContextsToBeRemoved
  | bearerContextsToBeModified
  | bearerContextsCreated
  | bearerContextsModified
  | bearerContextsMarkedForRemoval
  | cause
  | epsBearerId
  | tft
  | fteid (instance' : Nat)
  | bearerLevelQos
  | chargingId
  | bearerFlags
  | ranNasCause
  | s1UEnbFteid
  | s1USgwFteid
  | s4USgsnFteid
  | s4USgwFteid
  | s5S8USgwFteid
  | s5S8UPgwFteid
  | s12RncFteid
  | s12SgwFteid
  | s2bUEpdgFteid
  | s2bUPgwFteid
  | s2aUTwanFteid
  | s2aUPgwFteid
  | s11UMmeFteid
  | s11USgwFteid
deriving DecidableEq, Repr

abbrev IesContainer := Foundation.Container Member catalogue.Datum

/-! ## Bearer contexts -/

/-- The entry that takes elements of a class with any instance. -/
def anyInstance (kind : Kind) (member : Member) : Entry Member Kind :=
  { key := .leaf kind, member }

def atInstance (kind : Kind) (instance' : Nat) (member : Member) : Entry Member Kind :=
  { key := .leaf kind, info := some instance', member }

/-- The vector of bearer contexts for an instance, with the names of their members. -/
def bearerContexts (instance' : Nat) (member : Member) (renamed : List (Member × Member)) :
    Entry Member Kind :=
  { key := .group bearerContextType, info := some instance', member, repeated := true,
    renamed := some renamed }

/-- The `set`s of a bearer context. An exception for an F-TEID names the type of bearer
contexts. -/
def bearerContextEntries : List (Entry Member Kind) := [
  anyInstance .epsBearerId .epsBearerId,
  anyInstance .bearerTft .tft,
  anyInstance .bearerQos .bearerLevelQos,
  anyInstance .cause .cause,
  anyInstance .chargingId .chargingId,
  anyInstance .bearerFlags .bearerFlags,
  anyInstance .pco .pco,
  anyInstance .epco .epco,
  anyInstance .ranNasCause .ranNasCause] ++
  (List.range 12).map fun instance' =>
    { atInstance .fullyQualifiedTeid instance' (.fteid instance') with
      named := some bearerContextType }

/-- The type that the `set`s of the base class name. -/
def Kind.ownType : Kind → Nat
  | .bearerFlags => bearerFlagsType
  | kind => kind.code

def refused : Key Kind → Nat → Option (Entry Member Kind) → GtpcException
  | .leaf kind, instance', some entry => .tlvBadInstance (entry.named.getD kind.ownType) instance'
  | .leaf kind, _, none => .msgIllegalIe kind.ownType
  | .group type, instance', some entry => .tlvBadInstance (entry.named.getD type) instance'
  | .group type, _, none => .msgIllegalIe type

def reading : Reading catalogue Member where
  inner _ := .own bearerContextEntries
  refused := refused

/-! ## Messages -/

/-- The messages that can be made from a container. -/
inductive Message where
  | echoRequest
  | echoResponse
  | createSessionRequest
  | createSessionResponse
  | deleteSessionRequest
  | deleteSessionResponse
  | modifyBearerRequest
  | modifyBearerResponse
  | releaseAccessBearersRequest
  | releaseAccessBearersResponse
  | downlinkDataNotification
  | downlinkDataNotificationAcknowledge
deriving DecidableEq, Repr

namespace Message

def type : Message → Nat
  | echoRequest => 1
  | echoResponse => 2
  | createSessionRequest => 32
  | createSessionResponse => 33
  | modifyBearerRequest => 34
  | modifyBearerResponse => 35
  | deleteSessionRequest => 36
  | deleteSessionResponse => 37
  | releaseAccessBearersRequest => 170
  | releaseAccessBearersResponse => 171
  | downlinkDataNotification => 176
  | downlinkDataNotificationAcknowledge => 177

/-! ### Constructors -/

def echoRows : List (Row Member Kind) := [
  .leaf .recoveryRestartCounter .recovery 0,
  .leaf .sendingNodeFeatures .nodeFeatures 0]

def createSessionRequestRows : List (Row Member Kind) := [
  .leaf .imsi .imsi 0,
  .leaf .msisdn .msisdn 0,
  .leaf .mei .mei 0,
  .leaf .uli .userLocationInformation 0,
  .leaf .servingNetwork .servingNetwork 0,
  .leaf .ratType .ratType 0,
  .leaf .indicationFlags .indication 0,
  .leaf .senderFteidForCp .fullyQualifiedTeid 0,
  .leaf .pgwS5s8AddressForCp .fullyQualifiedTeid 1,
  .leaf .apn .accessPointName 0,
  .leaf .selectionMode .selectionMode 0,
  .leaf .pdnType .pdnType 0,
  .leaf .paa .paa 0,
  .leaf .apnRestriction .apnRestriction 0,
  .leaf .ambr .ambr 0,
  .leaf .linkedEpsBearerId .epsBearerId 0,
  .leaf .pco .pco 0,
  .group .bearerContextsToBeCreated bearerContextType 0 [
    .leaf .epsBearerId .epsBearerId 0,
    .leaf .s1UEnbFteid .fullyQualifiedTeid 0,
    .leaf .s4USgsnFteid .fullyQualifiedTeid 1,
    .leaf .s5S8USgwFteid .fullyQualifiedTeid 2,
    .leaf .s5S8UPgwFteid .fullyQualifiedTeid 3,
    .leaf .s12RncFteid .fullyQualifiedTeid 4,
    .leaf .s2bUEpdgFteid .fullyQualifiedTeid 5,
    .leaf .s2aUTwanFteid .fullyQualifiedTeid 6,
    .leaf .bearerLevelQos .bearerQos 0,
    .leaf .s11UMmeFteid .fullyQualifiedTeid 7],
  .group .bearerContextsToBeRemoved bearerContextType 1 [
    .leaf .epsBearerId .epsBearerId 0,
    .leaf .s4USgsnFteid .fullyQualifiedTeid 0],
  .leaf .mmeFqCsid .fqCsid 0,
  .leaf .sgwFqCsid .fqCsid 1,
  .leaf .ueTimeZone .ueTimeZone 0]

def createSessionResponseRows : List (Row Member Kind) := [
  .leaf .cause .cause 0,
  .leaf .senderFteidForCp .fullyQualifiedTeid 0,
  .leaf .s5S8PgwFteid .fullyQualifiedTeid 1,
  .leaf .paa .paa 0,
  .leaf .apnRestriction .apnRestriction 0,
  .leaf .apnAmbr .ambr 0,
  .leaf .linkedEpsBearerId .epsBearerId 0,
  .leaf .pco .pco 0,
  .group .bearerContextsCreated bearerContextType 0 [
    .leaf .epsBearerId .epsBearerId 0,
    .leaf .cause .cause 0,
    .leaf .s1USgwFteid .fullyQualifiedTeid 0,
    .leaf .s4USgwFteid .fullyQualifiedTeid 1,
    .leaf .s5S8UPgwFteid .fullyQualifiedTeid 2,
    .leaf .s12SgwFteid .fullyQualifiedTeid 3,
    .leaf .bearerLevelQos .bearerQos 0,
    .leaf .chargingId .chargingId 0,
    .leaf .bearerFlags .bearerFlags 0,
    .leaf .s11USgwFteid .fullyQualifiedTeid 6],
  .group .bearerContextsMarkedForRemoval bearerContextType 1 [
    .leaf .epsBearerId .epsBearerId 0,
    .leaf .cause .cause 0],
  .leaf .pgwFqCsid .fqCsid 0,
  .leaf .sgwFqCsid .fqCsid 1,
  .leaf .indicationFlags .indication 0]

def deleteSessionRequestRows : List (Row Member Kind) := [
  .leaf .cause .cause 0,
  .leaf .linkedEpsBearerId .epsBearerId 0,
  .leaf .uli .userLocationInformation 0,
  .leaf .indicationFlags .indication 0,
  .leaf .pco .pco 0,
  .leaf .originatingNode .nodeType 0,
  .leaf .senderFteidForCp .fullyQualifiedTeid 0,
  .leaf .ueTimeZone .ueTimeZone 0,
  .leaf .ranNasReleaseCause .ranNasCause 0,
  .leaf .epco .epco 0]

def deleteSessionResponseRows : List (Row Member Kind) := [
  .leaf .cause .cause 0,
  .leaf .pco .pco 0,
  .leaf .indicationFlags .indication 0,
  .leaf .epco .epco 0]

def modifyBearerRequestRows : List (Row Member Kind) := [
  .leaf .mei .mei 0,
  .leaf .uli .userLocationInformation 0,
  .leaf .servingNetwork .servingNetwork 0,
  .leaf .ratType .ratType 0,
  .leaf .indicationFlags .indication 0,
  .leaf .senderFteidForCp .fullyQualifiedTeid 0,
  .leaf .apnAmbr .ambr 0,
  .leaf .delayDlPacketNotifReq .delayValue 0,
  .group .bearerContextsToBeModified bearerContextType 0 [
    .leaf .epsBearerId .epsBearerId 0,
    .leaf .s1UEnbFteid .fullyQualifiedTeid 0,
    .leaf .s5S8USgwFteid .fullyQualifiedTeid 1,
    .leaf .s12RncFteid .fullyQualifiedTeid 2,
    .leaf .s4USgsnFteid .fullyQualifiedTeid 3,
    .leaf .s11UMmeFteid .fullyQualifiedTeid 4],
  .group .bearerContextsToBeRemoved bearerContextType 1 [
    .leaf .epsBearerId .epsBearerId 0],
  .leaf .ueTimeZone .ueTimeZone 0,
  .leaf .mmeFqCsid .fqCsid 0,
  .leaf .sgwFqCsid .fqCsid 1,
  .leaf .imsi .imsi 0]

/-- The F-TEID of the SGW on S11-U is added with two instances. -/
def modifyBearerResponseRows : List (Row Member Kind) := [
  .leaf .cause .cause 0,
  .leaf .msisdn .msisdn 0,
  .leaf .linkedEpsBearerId .epsBearerId 0,
  .leaf .apnRestriction .apnRestriction 0,
  .leaf .pco .pco 0,
  .leaf .pgwFqCsid .fqCsid 0,
  .leaf .sgwFqCsid .fqCsid 1,
  .leaf .indicationFlags .indication 0,
  .leaf .pdnConnectionChargingId .chargingId 0,
  .group .bearerContextsModified bearerContextType 0 [
    .leaf .epsBearerId .epsBearerId 0,
    .leaf .cause .cause 0,
    .leaf .s1USgwFteid .fullyQualifiedTeid 0,
    .leaf .s12SgwFteid .fullyQualifiedTeid 1,
    .leaf .s4USgwFteid .fullyQualifiedTeid 2,
    .leaf .s11USgwFteid .fullyQualifiedTeid 3,
    .leaf .chargingId .chargingId 0,
    .leaf .bearerFlags .bearerFlags 0,
    .leaf .s11USgwFteid .fullyQualifiedTeid 6],
  .group .bearerContextsMarkedForRemoval bearerContextType 1 [
    .leaf .epsBearerId .epsBearerId 0,
    .leaf .cause .cause 0]]

def releaseAccessBearersRequestRows : List (Row Member Kind) := [
  .leaf .originatingNode .nodeType 0,
  .leaf .indicationFlags .indication 0]

def releaseAccessBearersResponseRows : List (Row Member Kind) := [
  .leaf .cause .cause 0,
  .leaf .indicationFlags .indication 0]

/-- The constructor tests the bit that Modify Bearer Requests have for an IMSI, which no `set` of
this container sets, so there is no row for the IMSI. -/
def downlinkDataNotificationRows : List (Row Member Kind) := [
  .leaf .cause .cause 0,
  .leaf .epsBearerId .epsBearerId 0,
  .leaf .senderFteidForCp .fullyQualifiedTeid 0,
  .leaf .indicationFlags .indication 0]

def downlinkDataNotificationAcknowledgeRows : List (Row Member Kind) := [
  .leaf .cause .cause 0,
  .leaf .imsi .imsi 0]

def rows : Message → List (Row Member Kind)
  | echoRequest | echoResponse => echoRows
  | createSessionRequest => createSessionRequestRows
  | createSessionResponse => createSessionResponseRows
  | deleteSessionRequest => deleteSessionRequestRows
  | deleteSessionResponse => deleteSessionResponseRows
  | modifyBearerRequest => modifyBearerRequestRows
  | modifyBearerResponse => modifyBearerResponseRows
  | releaseAccessBearersRequest => releaseAccessBearersRequestRows
  | releaseAccessBearersResponse => releaseAccessBearersResponseRows
  | downlinkDataNotification => downlinkDataNotificationRows
  | downlinkDataNotificationAcknowledge => downlinkDataNotificationAcknowledgeRows

/-! ### `set`s -/

/-- The `set`s of the echo messages have no parameter for the instance, so they are not those
that `to_core_type` calls. -/
def echoEntries : List (Entry Member Kind) := []

def createSessionRequestEntries : List (Entry Member Kind) := [
  anyInstance .imsi .imsi,
  anyInstance .msisdn .msisdn,
  anyInstance .mei .mei,
  anyInstance .userLocationInformation .uli,
  anyInstance .servingNetwork .servingNetwork,
  anyInstance .ratType .ratType,
  anyInstance .indication .indicationFlags,
  anyInstance .accessPointName .apn,
  anyInstance .selectionMode .selectionMode,
  anyInstance .pdnType .pdnType,
  anyInstance .paa .paa,
  anyInstance .apnRestriction .apnRestriction,
  anyInstance .ambr .ambr,
  anyInstance .epsBearerId .linkedEpsBearerId,
  anyInstance .pco .pco,
  anyInstance .recovery .recovery,
  anyInstance .ueTimeZone .ueTimeZone,
  atInstance .fullyQualifiedTeid 0 .senderFteidForCp,
  atInstance .fullyQualifiedTeid 1 .pgwS5s8AddressForCp,
  atInstance .fqCsid 0 .mmeFqCsid,
  atInstance .fqCsid 1 .sgwFqCsid,
  atInstance .fqCsid 2 .epdgFqCsid,
  atInstance .fqCsid 3 .twanFqCsid,
  bearerContexts 0 .bearerContextsToBeCreated [
    (.epsBearerId, .epsBearerId), (.tft, .tft), (.s1UEnbFteid, .fteid 0),
    (.s4USgsnFteid, .fteid 1), (.s5S8USgwFteid, .fteid 2), (.s5S8UPgwFteid, .fteid 3),
    (.s12RncFteid, .fteid 4), (.s2bUEpdgFteid, .fteid 5), (.s2aUTwanFteid, .fteid 6),
    (.bearerLevelQos, .bearerLevelQos), (.s11UMmeFteid, .fteid 7)],
  bearerContexts 1 .bearerContextsToBeRemoved [
    (.epsBearerId, .epsBearerId), (.s4USgsnFteid, .fteid 0)]]

def createSessionResponseEntries : List (Entry Member Kind) := [
  anyInstance .cause .cause,
  anyInstance .paa .paa,
  anyInstance .apnRestriction .apnRestriction,
  anyInstance .ambr .apnAmbr,
  anyInstance .epsBearerId .linkedEpsBearerId,
  anyInstance .pco .pco,
  anyInstance .indication .indicationFlags,
  atInstance .fullyQualifiedTeid 0 .senderFteidForCp,
  atInstance .fullyQualifiedTeid 1 .s5S8PgwFteid,
  atInstance .fqCsid 0 .pgwFqCsid,
  atInstance .fqCsid 1 .sgwFqCsid,
  bearerContexts 0 .bearerContextsCreated [
    (.epsBearerId, .epsBearerId), (.cause, .cause), (.s1USgwFteid, .fteid 0),
    (.s4USgwFteid, .fteid 1), (.s5S8UPgwFteid, .fteid 2), (.s12SgwFteid, .fteid 3),
    (.s2bUPgwFteid, .fteid 4), (.s2aUPgwFteid, .fteid 5), (.bearerLevelQos, .bearerLevelQos),
    (.chargingId, .chargingId), (.bearerFlags, .bearerFlags), (.s11USgwFteid, .fteid 6)],
  bearerContexts 1 .bearerContextsMarkedForRemoval [
    (.epsBearerId, .epsBearerId), (.cause, .cause)]]

def deleteSessionRequestEntries : List (Entry Member Kind) := [
  anyInstance .cause .cause,
  anyInstance .epsBearerId .linkedEpsBearerId,
  anyInstance .userLocationInformation .uli,
  anyInstance .indication .indicationFlags,
  anyInstance .pco .pco,
  anyInstance .nodeType .originatingNode,
  anyInstance .fullyQualifiedTeid .senderFteidForCp,
  anyInstance .ueTimeZone .ueTimeZone,
  anyInstance .ranNasCause .ranNasReleaseCause,
  anyInstance .epco .epco]

def deleteSessionResponseEntries : List (Entry Member Kind) := [
  anyInstance .cause .cause,
  anyInstance .pco .pco,
  anyInstance .indication .indicationFlags,
  anyInstance .epco .epco]

def modifyBearerRequestEntries : List (Entry Member Kind) := [
  anyInstance .mei .mei,
  anyInstance .userLocationInformation .uli,
  anyInstance .servingNetwork .servingNetwork,
  anyInstance .ratType .ratType,
  anyInstance .indication .indicationFlags,
  anyInstance .fullyQualifiedTeid .senderFteidForCp,
  anyInstance .ambr .apnAmbr,
  anyInstance .delayValue .delayDlPacketNotifReq,
  anyInstance .ueTimeZone .ueTimeZone,
  anyInstance .imsi .imsi,
  bearerContexts 0 .bearerContextsToBeModified [
    (.epsBearerId, .epsBearerId), (.s1UEnbFteid, .fteid 0), (.s5S8USgwFteid, .fteid 1),
    (.s12RncFteid, .fteid 2), (.s4USgsnFteid, .fteid 3), (.s11UMmeFteid, .fteid 4)],
  bearerContexts 1 .bearerContextsToBeRemoved [(.epsBearerId, .epsBearerId)]]

def modifyBearerResponseEntries : List (Entry Member Kind) := [
  anyInstance .cause .cause,
  anyInstance .msisdn .msisdn,
  anyInstance .epsBearerId .linkedEpsBearerId,
  anyInstance .apnRestriction .apnRestriction,
  anyInstance .pco .pco,
  anyInstance .indication .indicationFlags,
  anyInstance .chargingId .pdnConnectionChargingId,
  atInstance .fqCsid 0 .pgwFqCsid,
  atInstance .fqCsid 1 .sgwFqCsid,
  bearerContexts 0 .bearerContextsModified [
    (.epsBearerId, .epsBearerId), (.cause, .cause), (.chargingId, .chargingId),
    (.bearerFlags, .bearerFlags), (.s1USgwFteid, .fteid 0), (.s12SgwFteid, .fteid 1),
    (.s4USgwFteid, .fteid 2), (.s11USgwFteid, .fteid 3)],
  bearerContexts 1 .bearerContextsMarkedForRemoval [
    (.epsBearerId, .epsBearerId), (.cause, .cause)]]

def releaseAccessBearersRequestEntries : List (Entry Member Kind) := [
  anyInstance .nodeType .originatingNode,
  anyInstance .indication .indicationFlags]

def releaseAccessBearersResponseEntries : List (Entry Member Kind) := [
  anyInstance .cause .cause,
  anyInstance .indication .indicationFlags]

def downlinkDataNotificationEntries : List (Entry Member Kind) := [
  anyInstance .cause .cause,
  anyInstance .epsBearerId .epsBearerId,
  anyInstance .imsi .imsi,
  anyInstance .fullyQualifiedTeid .senderFteidForCp,
  anyInstance .indication .indicationFlags]

def downlinkDataNotificationAcknowledgeEntries : List (Entry Member Kind) := [
  anyInstance .cause .cause,
  anyInstance .imsi .imsi]

def entries : Message → List (Entry Member Kind)
  | echoRequest | echoResponse => echoEntries
  | createSessionRequest => createSessionRequestEntries
  | createSessionResponse => createSessionResponseEntries
  | deleteSessionRequest => deleteSessionRequestEntries
  | deleteSessionResponse => deleteSessionResponseEntries
  | modifyBearerRequest => modifyBearerRequestEntries
  | modifyBearerResponse => modifyBearerResponseEntries
  | releaseAccessBearersRequest => releaseAccessBearersRequestEntries
  | releaseAccessBearersResponse => releaseAccessBearersResponseEntries
  | downlinkDataNotification => downlinkDataNotificationEntries
  | downlinkDataNotificationAcknowledge => downlinkDataNotificationAcknowledgeEntries

end Message

instance : DecidableEq catalogue.Kind := inferInstanceAs (DecidableEq Kind)

/-- The tables of each message fit together. -/
theorem tables_fit (message : Message) :
    fittingAll reading (2 ^ 8) message.entries none message.rows = true := by
  cases message <;> decide

end OpenairSpgwc.Gtpv2c.Ie
