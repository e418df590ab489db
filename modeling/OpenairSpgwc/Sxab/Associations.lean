import OpenairSpgwc.Foundation.Transition
import OpenairSpgwc.Sxab.Nodes

/-!
Contract: `PfcpUpNodes`, `pfcp_associations` and the handlers of `pgwc_sxab` that call
them.

A step is one received message, one timer or one report of the PFCP stack. Timers carry
no time: any of them may run out next, and its `TIME_OUT` is handled later. A heartbeat
request that was sent stays with the stack until it is answered, or until it was reported
as unanswered and its procedure was cleaned up; an answer in between is still delivered.

Owns:
- `State`: the list of pending nodes, the map of nodes in service, the associations,
  their heartbeat timers and the heartbeat requests that the stack still has;
- the handlers, and `step`, one call of any of them with the messages that it sends;
- `selectUpNode`.

Identifiers of timers and transactions are natural numbers, so that no one is handed out
twice. The order of a map is not the source's to say: where a loop over `associations`
stops at the first association that passes a test, the action says at which, and where a
set is ordered by addresses the call says which element comes first.
-/

namespace OpenairSpgwc.Sxab

open Foundation
open OpenairSpgwc.Common
open Std (ExtTreeMap)

/-- `pfcp::default_port`. -/
def defaultPort : Nat := 8805

def causeValueRequestAccepted : Nat := 1
def causeValueRequestRejected : Nat := 64

/-- A timer of `trigger_heartbeat_request_procedure`, until its `TIME_OUT` is handled. -/
structure HeartbeatTimer where
  id : Nat
  arg2User : Nat
  /-- It has run out, and `TIME_OUT` is in the queue of the task. -/
  expired : Bool := false
deriving DecidableEq

/-- A heartbeat request that the stack has, and the association it was sent for. -/
structure HeartbeatProcedure where
  trxnId : Nat
  hashNodeId : Nat
  /-- `notify_ul_error` was called for it. -/
  notified : Bool := false
deriving DecidableEq

structure State where
  pendingNodes : List PfcpUpNode
  upNodes : ExtTreeMap Nat PfcpUpNode := ∅
  associations : ExtTreeMap Nat PfcpAssociation := ∅
  /-- The last identifier that `timer_setup` returned. -/
  timerId : Nat := 0
  timers : List HeartbeatTimer := []
  /-- The last identifier that `generate_trxn_id` returned. -/
  trxnId : Nat := 0
  heartbeats : List HeartbeatProcedure := []

inductive Event where
  | associationSetupResponse (trxnId : Nat) (cause : Nat) (nodeId : NodeId)
      (remoteEndpoint : Endpoint)
  | heartbeatRequest (trxnId : Nat) (remoteEndpoint : Endpoint)
  | heartbeatResponse (trxnId : Nat) (remoteEndpoint : Endpoint)
  | restoreSxSessions (nodeId : NodeId)
deriving DecidableEq

inductive Action where
  | associationSetupRequest (trxnId : Nat) (remoteEndpoint : Endpoint) (nodeId : Option NodeId)
      (recoveryTimeStamp : Option Nat)
  | associationSetupResponse (remoteEndpoint : Endpoint) (nodeId : Option NodeId)
      (recoveryTimeStamp : Option Nat)
  /-- A timer runs out. -/
  | signalTimeOut (timerId : Nat)
  /-- `TIME_OUT` is handled; `trxnId` is what `generate_trxn_id` returns. -/
  | timeOut (timerId : Nat) (trxnId : Nat)
  /-- `notify_ul_error` with `REMOTE_PEER_NOT_RESPONDING`. -/
  | remotePeerNotResponding (trxnId : Nat) (found : Option Nat)
  /-- The stack's cleanup timer of a procedure that was reported. -/
  | procCleanup (trxnId : Nat)
  | heartbeatResponse (trxnId : Nat) (recoveryTimeStamp : Option Nat) (found : Option Nat)
  | heartbeatRequest (trxnId : Nat) (remoteEndpoint : Endpoint)
      (recoveryTimeStamp : Option Nat) (found : Option Nat)
deriving DecidableEq

/-- The first node with that hash is notified. -/
def notifyFirst (hashNodeId : Nat) (notify : PfcpUpNode → PfcpUpNode) :
    List PfcpUpNode → List PfcpUpNode
  | [] => []
  | node :: rest =>
      if node.hashNodeId = hashNodeId then notify node :: rest
      else node :: notifyFirst hashNodeId notify rest

/-- The constructor of `PfcpUpNodes`: one node for each identifier, in their order. -/
def init (cfg : Config) : State where
  pendingNodes := (cfg.ids.dedup.insertionSort (· ≤ ·)).map fun id => { id := id }

namespace State

/-! ### Timers and requests -/

/-- `timer_remove`; a timer that has run out is no longer there. -/
def timerRemove (s : State) (timerId : Nat) : State :=
  { s with timers := s.timers.filter fun timer => timer.expired || timer.id ≠ timerId }

/-- `trigger_heartbeat_request_procedure` for the association `a`, kept under `key`. -/
def triggerHeartbeatRequestProcedure (s : State) (key : Nat) (a : PfcpAssociation) : State :=
  { s with
    timerId := s.timerId + 1
    timers := ⟨s.timerId + 1, a.hashNodeId, false⟩ :: s.timers
    associations := s.associations.insert key { a with timerHeartbeat := s.timerId + 1 } }

def sendHeartbeatRequest (s : State) (key : Nat) (a : PfcpAssociation) (trxnId : Nat) :
    State × List Event :=
  ({ s with
      trxnId := trxnId
      heartbeats := ⟨trxnId, a.hashNodeId, false⟩ :: s.heartbeats
      associations := s.associations.insert key { a with trxnIdHeartbeat := trxnId } },
    [.heartbeatRequest trxnId { a.remoteEndpoint with port := defaultPort }])

def initiateHeartbeatRequest (s : State) (arg2User trxnId : Nat) : State × List Event :=
  match s.associations[mapKey arg2User]? with
  | none => (s, [])
  | some a =>
      if a.isTriggerHeartbeatRequestProcedure then
        s.sendHeartbeatRequest (mapKey arg2User) { a with numRetriesTimerHeartbeat := 0 } trxnId
      else
        (s, [])

/-! ### Notifications of nodes -/

/-- `sa->state_ == kAssocLost;` compares and stores nothing. -/
def notifyNodeUnreachable (s : State) (_hashNodeId : Nat) : State := s

def notifyNodeNotReachable (s : State) (hashNodeId : Nat) : State :=
  match s.upNodes[mapKey hashNodeId]? with
  | some su =>
      let su := su.notifyNodeNotReachable
      if su.associationState = .lost then
        { s with
          upNodes := s.upNodes.erase (mapKey su.hashNodeId)
          pendingNodes := s.pendingNodes ++ [su] }.notifyNodeUnreachable hashNodeId
      else
        { s with upNodes := s.upNodes.insert (mapKey hashNodeId) su }
  | none =>
      { s with
        pendingNodes := notifyFirst hashNodeId PfcpUpNode.notifyNodeNotReachable s.pendingNodes }

def notifyNodeReachable (s : State) (hashNodeId : Nat) : State :=
  match s.upNodes[mapKey hashNodeId]? with
  | some su => { s with upNodes := s.upNodes.insert (mapKey hashNodeId) su.notifyNodeReachable }
  | none =>
      { s with
        pendingNodes := notifyFirst hashNodeId PfcpUpNode.notifyNodeReachable s.pendingNodes }

def notifyNodeRestarted (s : State) (hashNodeId : Nat) : State :=
  match s.upNodes[mapKey hashNodeId]? with
  | some su => { s with upNodes := s.upNodes.insert (mapKey hashNodeId) su.notifyNodeRestarted }
  | none => s

/-! ### Setting up an association -/

/-- Both constructors, with the `id` that is written after the first. -/
def newAssociation (cfg : Config) (nodeId : NodeId) (id : String) (recoveryTimeStamp : Nat) :
    PfcpAssociation where
  nodeId := nodeId
  hashNodeId := cfg.hashNodeId nodeId
  id := id
  recoveryTimeStamp := recoveryTimeStamp

/-- The end of `add_association` for a request; `restore` is `is_restore_sx_sessions`. -/
def answerAssociation (cfg : Config) (s : State) (key : Nat) (sa : PfcpAssociation)
    (trxnId : Nat) (remoteEndpoint : Endpoint) (nodeId : NodeId) (restore : Bool) :
    Bool × State × List Event :=
  let sa := sa.establish remoteEndpoint
  let s := { s with associations := s.associations.insert key sa }
  match cfg.getPfcpNodeId with
  | none => (false, s, [])
  | some thisNodeId =>
      (true,
        if sa.isTriggerHeartbeatRequestProcedure then s.triggerHeartbeatRequestProcedure key sa
        else s,
        .associationSetupResponse trxnId causeValueRequestAccepted thisNodeId remoteEndpoint ::
          if restore then [.restoreSxSessions nodeId] else [])

/-- `add_association` for a request: what it returns, and the events. -/
def addAssociation (cfg : Config) (s : State) (trxnId : Nat) (remoteEndpoint : Endpoint)
    (nodeId : NodeId) (id : String) (recoveryTimeStamp : Nat) : Bool × State × List Event :=
  match s.associations[cfg.key nodeId]? with
  | some sa =>
      let s := s.timerRemove sa.timerHeartbeat
      if sa.recoveryTimeStamp = recoveryTimeStamp then
        (true, s, [])
      else
        answerAssociation cfg s (cfg.key nodeId) (sa.restamp recoveryTimeStamp) trxnId
          remoteEndpoint nodeId true
  | none =>
      answerAssociation cfg s (cfg.key nodeId) (newAssociation cfg nodeId id recoveryTimeStamp)
        trxnId remoteEndpoint nodeId false

/-- `add_association` for a response; it always returns true. -/
def addAnsweredAssociation (cfg : Config) (s : State) (remoteEndpoint : Endpoint)
    (nodeId : NodeId) (recoveryTimeStamp : Nat) : State × List Event :=
  match s.associations[cfg.key nodeId]? with
  | some sa =>
      let s := s.timerRemove sa.timerHeartbeat
      if sa.recoveryTimeStamp = recoveryTimeStamp then
        (s, [])
      else
        (s.triggerHeartbeatRequestProcedure (cfg.key nodeId)
          ((sa.restamp recoveryTimeStamp).establish remoteEndpoint),
          [.restoreSxSessions nodeId])
  | none =>
      (s.triggerHeartbeatRequestProcedure (cfg.key nodeId)
        (newAssociation cfg nodeId "" recoveryTimeStamp |>.establish remoteEndpoint),
        [])

/-- The node at which both loops over `pending_nodes_` stop. -/
def answering (s : State) (nodeId : NodeId) : Option PfcpUpNode :=
  s.pendingNodes.find? (PfcpUpNode.answersTo nodeId)

/-- That node is put into `up_nodes_`; nothing is stored under a key in use. -/
def admitNode (cfg : Config) (s : State) (node : PfcpUpNode) (remoteEndpoint : Endpoint)
    (nodeId : NodeId) (recoveryTimeStamp : Nat) : State :=
  { s with
    upNodes := s.upNodes.insertIfNew (cfg.key nodeId)
      (node.associate cfg nodeId remoteEndpoint recoveryTimeStamp)
    pendingNodes := s.pendingNodes.eraseP (PfcpUpNode.answersTo nodeId) }

/-- `AssociationSetupRequest`. -/
def associationSetupRequest (cfg : Config) (s : State) (trxnId : Nat) (remoteEndpoint : Endpoint)
    (nodeId : NodeId) (recoveryTimeStamp : Nat) : State × List Event :=
  if s.pendingNodes ≠ [] then
    match s.answering nodeId with
    | none => (s, [])
    | some node =>
        let added :=
          addAssociation cfg s trxnId remoteEndpoint nodeId node.id recoveryTimeStamp
        (if added.1 then admitNode cfg added.2.1 node remoteEndpoint nodeId recoveryTimeStamp
          else added.2.1,
          added.2.2)
  else
    match cfg.getPfcpNodeId with
    | none => (s, [])
    | some thisNodeId =>
        (s, [.associationSetupResponse trxnId causeValueRequestRejected thisNodeId
          remoteEndpoint])

/-- `AssociationSetupResp`. -/
def associationSetupResp (cfg : Config) (s : State) (remoteEndpoint : Endpoint) (nodeId : NodeId)
    (recoveryTimeStamp : Nat) : State × List Event :=
  match s.answering nodeId with
  | none => (s, [])
  | some node =>
      let added := addAnsweredAssociation cfg s remoteEndpoint nodeId recoveryTimeStamp
      (admitNode cfg added.1 node remoteEndpoint nodeId recoveryTimeStamp, added.2)

/-! ### Heartbeats -/

/-- Whether a loop over `associations` may stop at `found`: at any association that passes
the test, behind the last one when none does. -/
def finds (s : State) (test : PfcpAssociation → Bool) : Option Nat → Bool
  | some key => (s.associations[key]?).any test
  | none => s.associations.toList.all fun entry => !test entry.2

/-- The body of such a loop. -/
def withFound (s : State) (found : Option Nat) (handle : Nat → PfcpAssociation → State) : State :=
  match found with
  | none => s
  | some key =>
      match s.associations[key]? with
      | none => s
      | some a => handle key a

def timeoutHeartbeatRequest (s : State) (found : Option Nat) : State :=
  s.withFound found fun key a =>
    ((s.timerRemove a.timerHeartbeat).triggerHeartbeatRequestProcedure key
      { a with trxnIdHeartbeat := 0 }).notifyNodeNotReachable a.hashNodeId

def handleReceiveHeartbeatResponse (s : State) (recoveryTimeStamp : Nat) (found : Option Nat) :
    State :=
  s.withFound found fun key a =>
    let s := s.timerRemove a.timerHeartbeat
    if a.recoveryTimeStamp = recoveryTimeStamp then
      (s.triggerHeartbeatRequestProcedure key { a with trxnIdHeartbeat := 0 }).notifyNodeReachable
        a.hashNodeId
    else
      { s with associations := s.associations.insert key { a with trxnIdHeartbeat := 0 } }
        |>.notifyNodeRestarted a.hashNodeId

def handleReceiveHeartbeatRequest (s : State) (recoveryTimeStamp : Nat) (found : Option Nat) :
    State :=
  s.withFound found fun _ a =>
    if a.recoveryTimeStamp = recoveryTimeStamp then s.notifyNodeReachable a.hashNodeId
    else s.notifyNodeRestarted a.hashNodeId

/-! ### Steps -/

/-- The timer `timerId` signals. -/
def signal (s : State) (timerId : Nat) : State :=
  { s with timers := s.timers.map fun timer =>
      if timer.id = timerId then { timer with expired := true } else timer }

/-- `notify_ul_error` is called for the procedure `trxnId`. -/
def report (s : State) (trxnId : Nat) : State :=
  { s with heartbeats := s.heartbeats.map fun heartbeat =>
      if heartbeat.trxnId = trxnId then { heartbeat with notified := true } else heartbeat }

/-- The stack drops the procedure `trxnId`. -/
def drop (s : State) (trxnId : Nat) : State :=
  { s with heartbeats := s.heartbeats.filter fun heartbeat => heartbeat.trxnId ≠ trxnId }

/-- `none` when the action is not possible: the timer or the procedure is not there, the
identifier is not new, or the loop does not stop there. -/
def step (cfg : Config) (s : State) : Action → Option (State × List Event)
  | .associationSetupRequest trxnId remoteEndpoint nodeId recoveryTimeStamp =>
      match nodeId, recoveryTimeStamp with
      | some nodeId, some stamp =>
          some (associationSetupRequest cfg s trxnId remoteEndpoint nodeId stamp)
      | _, _ => some (s, [])
  | .associationSetupResponse remoteEndpoint nodeId recoveryTimeStamp =>
      match nodeId, recoveryTimeStamp with
      | some nodeId, some stamp => some (associationSetupResp cfg s remoteEndpoint nodeId stamp)
      | _, _ => some (s, [])
  | .signalTimeOut timerId =>
      if s.timers.any fun timer => timer.id = timerId && !timer.expired then
        some (s.signal timerId, [])
      else
        none
  | .timeOut timerId trxnId =>
      match s.timers.find? fun timer => timer.id = timerId && timer.expired with
      | none => none
      | some timer =>
          if s.trxnId < trxnId then
            some ({ s with timers := s.timers.erase timer }.initiateHeartbeatRequest
              timer.arg2User trxnId)
          else
            none
  | .remotePeerNotResponding trxnId found =>
      if (s.heartbeats.any fun heartbeat => heartbeat.trxnId = trxnId && !heartbeat.notified) &&
          s.finds (fun a => a.trxnIdHeartbeat = trxnId) found then
        some ((s.report trxnId).timeoutHeartbeatRequest found, [])
      else
        none
  | .procCleanup trxnId =>
      if s.heartbeats.any fun heartbeat => heartbeat.trxnId = trxnId && heartbeat.notified then
        some (s.drop trxnId, [])
      else
        none
  | .heartbeatResponse trxnId recoveryTimeStamp found =>
      if (s.heartbeats.any fun heartbeat => heartbeat.trxnId = trxnId) &&
          s.finds (fun a => a.trxnIdHeartbeat = trxnId) found then
        match recoveryTimeStamp with
        | none => some (s.drop trxnId, [])
        | some stamp => some ((s.drop trxnId).handleReceiveHeartbeatResponse stamp found, [])
      else
        none
  | .heartbeatRequest trxnId remoteEndpoint recoveryTimeStamp found =>
      if s.finds (fun a => a.remoteEndpoint = remoteEndpoint) found then
        match recoveryTimeStamp with
        | none => some (s, [])
        | some stamp =>
            some (s.handleReceiveHeartbeatRequest stamp found,
              [.heartbeatResponse trxnId remoteEndpoint])
      else
        none

/-! ### Selection -/

/-- `up_nodes_associated`. -/
def upNodesAssociated (s : State) (upNodes : List UpNodeCfg) : List PfcpAssociation :=
  (s.associations.toList.map Prod.snd).filter fun a =>
    a.state = .setup && upNodes.any fun node => a.id = node.id

/-- `none` when it returns false or throws. The set is ordered by the addresses of its
elements: `first` says which one it begins with. -/
def selectUpNode (cfg : Config) (s : State) (apn : String) (uli : Uli) (paa : Pgw.Paa)
    (first : Nat) : Option NodeId :=
  match cfg.getUpNodes apn uli paa with
  | none => none
  | some upNodes =>
      let associated := s.upNodesAssociated upNodes
      associated[first % associated.length]?.map PfcpAssociation.nodeId

end State

end OpenairSpgwc.Sxab
