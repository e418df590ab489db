import OpenairSpgwc.Foundation.Transition
import OpenairSpgwc.Sgw.Procedure

/-!
Contract: the SGW application, `sgwc_app::handle_itti_msg` for the requests on
S11 and for the responses, the notifications and the silence of the peer on S5/S8.

Owns:
- how a message finds its context and its connection;
- the collision of a Create Session Request with a connection of the UE;
- `step`, the handling of one message by the task of the application.

The transactions of S11 requests and the values that `get_uid` returns are part
of an action: the generator is shared by all tasks of the process.
-/

namespace OpenairSpgwc.Sgw

open Foundation
open Std (ExtTreeMap)

namespace State

/-! ### S11 requests -/

/-- Where a Create Session Request is handed to a context. -/
inductive Route where
  | ignored
  | unknownTeid
  /-- A context that was made before, and the first bearer to be created. -/
  | context (ebc : Nat) (ebi : Option Nat)
  | newContext (imsi : Nat)
  /-- The first element of an empty vector is read. -/
  | undefined
deriving DecidableEq

def route (s : State) (request : CreateSessionRequest) : Route :=
  if request.senderFteidForCp.interfaceType ≠ s11MmeGtpC then .ignored
  else if request.senderFteidForCp.teidGreKey = 0 then .ignored
  else if request.teid ≠ 0 ∧ !s.s11lteid2sgwEpsBearerContext.contains request.teid then
    .unknownTeid
  else
    match request.imsi with
    | some imsi =>
        if request.uimsi then .ignored
        else
          match s.imsi2sgwEpsBearerContext[imsi]? with
          | some ebc =>
              match request.bearerContextsToBeCreated with
              | ebi :: _ => .context ebc (some ebi)
              | [] => if request.teid = 0 then .undefined else .context ebc none
          | none => .newContext imsi
    | none =>
        if request.teid = 0 then .ignored
        else
          match s.s11lteid2sgwEpsBearerContext[request.teid]? with
          | some ebc => .context ebc none
          | none => .ignored

/-- The Delete Session Request that is made up on a collision: it has no
transaction of its own. -/
def collisionRequest (s : State) (ebc ebi : Nat) : DeleteSessionRequest where
  gtpcTxId := 0
  teid := (s.contexts ebc).sgwFteidS11S4Cp.teidGreKey
  linkedEpsBearerId := some ebi
  oi := true

/-- The connection that the request collides with, if any, is deleted. -/
def clearCollision (s : State) (ebc : Nat) (ebi : Option Nat) : State × List Event :=
  match ebi with
  | none => (s, [])
  | some ebi =>
      match s.findPdnConnection ebc ebi with
      | none => (s, [])
      | some sp =>
          let (asked, events) := s.deleteSessionInContext ebc (s.collisionRequest ebc ebi)
          (asked.deletePdnConnection ebc sp, events)

/-- `new sgw_eps_bearer_context()` and `set_imsi64_2_sgw_eps_bearer_context`. -/
def addContext (s : State) (imsi : Nat) : State :=
  { s.setContext s.nextAddress {} with
    imsi2sgwEpsBearerContext := s.imsi2sgwEpsBearerContext.insert imsi s.nextAddress
    nextAddress := s.nextAddress + 1 }

def handleCreateSessionRequest (s : State) (request : CreateSessionRequest) :
    Option (State × List Event) :=
  match s.route request with
  | .ignored => some (s, [])
  | .unknownTeid =>
      some (s, [.s11CreateSessionResponse
        { gtpcTxId := request.gtpcTxId, teid := request.teid, cause := some contextNotFound }])
  | .undefined => none
  | .newContext imsi => (s.addContext imsi).createSessionInContext s.nextAddress request
  | .context ebc ebi =>
      let (cleared, events) := s.clearCollision ebc ebi
      match cleared.createSessionInContext ebc request with
      | none => none
      | some (after, more) => some (after, events ++ more)

/-- A request with a TEID that leads to no context is discarded. -/
def s11Context (s : State) (teid : Nat) : Option Nat :=
  if teid = 0 then none else s.s11lteid2sgwEpsBearerContext[teid]?

def handleDeleteSessionRequest (s : State) (request : DeleteSessionRequest) :
    State × List Event :=
  match s.s11Context request.teid with
  | none => (s, [])
  | some ebc => s.deleteSessionInContext ebc request

def handleModifyBearerRequest (s : State) (request : ModifyBearerRequest) (uids : Nat → Nat) :
    Option (State × List Event) :=
  match s.s11Context request.teid with
  | none => some (s, [])
  | some ebc => s.modifyBearerInContext ebc request uids

def handleReleaseAccessBearersRequest (s : State) (request : ReleaseAccessBearersRequest) :
    Option (State × List Event) :=
  match s.s11Context request.teid with
  | none => some (s, [])
  | some ebc => s.releaseAccessBearersInContext ebc request

def handleDownlinkDataNotificationAcknowledge (s : State)
    (ack : DownlinkDataNotificationAcknowledge) : State × List Event :=
  match s.s11Context ack.teid with
  | none => (s, [])
  | some ebc => s.downlinkDataNotificationAcknowledgeInContext ebc ack

/-! ### S5/S8 messages -/

/-- The end of the handlers that may have deleted a connection. -/
def cleanup (ebc : Nat) (result : State × List Event) : State × List Event :=
  if (result.1.contexts ebc).pdnConnections.size = 0 then
    (result.1.deleteSgwEpsBearerContext ebc, result.2 ++ [.contextDeleted ebc])
  else
    result

/-- An accepting response without a usable F-TEID of the PGW is ignored. -/
def ignoresResponse (csresp : CreateSessionResponse) : Bool :=
  decide (csresp.cause.getD 0 < contextNotFound) &&
    ((csresp.fteidForCp.getD {}).interfaceType != s5s8PgwGtpC ||
      (csresp.fteidForCp.getD {}).teidGreKey == 0)

def handleCreateSessionResponse (s : State) (csresp : CreateSessionResponse) :
    Option (State × List Event) :=
  if ignoresResponse csresp then some (s, [])
  else
    match s.s5s8lteid2sgwContexts[csresp.teid]? with
    | none => some (s, [])
    | some (ebc, sp) => (s.createSessionResponseInContext ebc sp csresp).map (cleanup ebc)

def handleDeleteSessionResponse (s : State) (dsresp : CauseResponse) :
    Option (State × List Event) :=
  match s.s5s8lteid2sgwContexts[dsresp.teid]? with
  | none => some (s, [])
  | some (ebc, sp) => (s.deleteSessionResponseInContext ebc sp dsresp).map (cleanup ebc)

def handleModifyBearerResponse (s : State) (s5resp : ModifyBearerResponse) :
    Option (State × List Event) :=
  match s.s5s8lteid2sgwContexts[s5resp.teid]? with
  | none => some (s, [])
  | some (ebc, _) => s.modifyBearerResponseInContext ebc s5resp

def handleReleaseAccessBearersResponse (s : State) (s5resp : CauseResponse) :
    Option (State × List Event) :=
  match s.s5s8lteid2sgwContexts[s5resp.teid]? with
  | none => some (s, [])
  | some (ebc, _) => s.releaseAccessBearersResponseInContext ebc s5resp

def handleRemotePeerNotResponding (s : State) (resp : RemotePeerNotResponding) :
    State × List Event :=
  if resp.lTeid = 0 then (s, [])
  else
    match s.s5s8lteid2sgwContexts[resp.lTeid]? with
    | none => (s, [])
    | some (ebc, sp) => cleanup ebc (s.remotePeerNotRespondingInContext ebc sp resp)

def handleDownlinkDataNotification (s : State) (ddn : DownlinkDataNotification) :
    State × List Event :=
  match s.s5s8lteid2sgwContexts[ddn.teid]? with
  | none => (s, [])
  | some (ebc, sp) => s.downlinkDataNotificationInContext ebc sp ddn

end State

/-! ### Steps -/

inductive Action where
  | createSession (request : CreateSessionRequest)
  | modifyBearer (request : ModifyBearerRequest) (uids : Nat → Nat)
  | releaseAccessBearers (request : ReleaseAccessBearersRequest)
  | deleteSession (request : DeleteSessionRequest)
  | downlinkDataNotificationAcknowledge (ack : DownlinkDataNotificationAcknowledge)
  | createSessionResponse (csresp : CreateSessionResponse)
  | deleteSessionResponse (dsresp : CauseResponse)
  | modifyBearerResponse (s5resp : ModifyBearerResponse)
  | releaseAccessBearersResponse (s5resp : CauseResponse)
  | remotePeerNotResponding (resp : RemotePeerNotResponding)
  | downlinkDataNotification (ddn : DownlinkDataNotification)

/-- The handling of one message by the task of the SGW application. -/
def step (s : State) : Action → Option (State × List Event)
  | .createSession request => s.handleCreateSessionRequest request
  | .modifyBearer request uids => s.handleModifyBearerRequest request uids
  | .releaseAccessBearers request => s.handleReleaseAccessBearersRequest request
  | .deleteSession request => some (s.handleDeleteSessionRequest request)
  | .downlinkDataNotificationAcknowledge ack =>
      some (s.handleDownlinkDataNotificationAcknowledge ack)
  | .createSessionResponse csresp => s.handleCreateSessionResponse csresp
  | .deleteSessionResponse dsresp => s.handleDeleteSessionResponse dsresp
  | .modifyBearerResponse s5resp => s.handleModifyBearerResponse s5resp
  | .releaseAccessBearersResponse s5resp => s.handleReleaseAccessBearersResponse s5resp
  | .remotePeerNotResponding resp => some (s.handleRemotePeerNotResponding resp)
  | .downlinkDataNotification ddn => some (s.handleDownlinkDataNotification ddn)

end OpenairSpgwc.Sgw
