import OpenairSpgwc.Common.Runtime
import OpenairSpgwc.Common.UintGenerator

/-!
Contract: the transaction layer of PFCP, `pfcp_l4_stack` of `pfcp.cpp`.

Owns:
- the four tables of the stack and the procedures they hold;
- `send_request` for its eight messages, `send_response` for its seven;
- `handle_receive_message_cb` and both branches of `time_out_event`;
- `step`, one call of any of these, and what it shows outside: datagrams
  handed to a socket, messages delivered to the upper layer, errors notified.

A `std::shared_ptr` made by `make_shared` is the address of a fresh object and
the message in it; a null pointer is `none`, and following one ends the
process (`step` is `none`). Reading through `end()` yields a value the source
does not determine: it is an argument of the step, and the step says so in an
`endDereference` event. The information elements stay a type parameter.

Does not own: encoding, sockets, the time after which a timer expires.
-/

namespace OpenairSpgwc.Pfcp

open OpenairSpgwc.Common
open Std (ExtTreeMap)

/-! ### Message types -/

namespace MessageType

def heartbeatRequest : Nat := 1
def heartbeatResponse : Nat := 2
def pfdManagementRequest : Nat := 3
def associationSetupRequest : Nat := 5
def associationSetupResponse : Nat := 6
def associationUpdateRequest : Nat := 7
def associationReleaseRequest : Nat := 9
def associationReleaseResponse : Nat := 10
def versionNotSupportedResponse : Nat := 11
def nodeReportRequest : Nat := 12
def nodeReportResponse : Nat := 13
def sessionEstablishmentRequest : Nat := 50
def sessionEstablishmentResponse : Nat := 51
def sessionModificationRequest : Nat := 52
def sessionModificationResponse : Nat := 53
def sessionDeletionRequest : Nat := 54
def sessionDeletionResponse : Nat := 55
def sessionReportRequest : Nat := 56
def sessionReportResponse : Nat := 57

end MessageType

open MessageType

def checkRequestType (initial : Nat) : Bool :=
  initial ∈ [heartbeatRequest, pfdManagementRequest, associationSetupRequest,
    associationUpdateRequest, associationReleaseRequest, nodeReportRequest, nodeReportResponse,
    sessionEstablishmentRequest, sessionModificationRequest, sessionDeletionRequest,
    sessionReportRequest, sessionReportResponse]

def checkResponseType (initial triggered : Nat) : Bool :=
  if initial ∈ [heartbeatRequest, pfdManagementRequest, associationSetupRequest,
      associationUpdateRequest, associationReleaseRequest, nodeReportRequest,
      sessionEstablishmentRequest, sessionModificationRequest, sessionDeletionRequest,
      sessionReportRequest] then
    triggered == initial + 1
  else
    triggered == versionNotSupportedResponse

/-! ### Data -/

structure Msg (Ies : Type) where
  messageType : Nat
  seid : Option Nat
  sequenceNumber : Nat
  ies : Ies
deriving DecidableEq

/-- `set_sequence_number` keeps 24 bits. -/
def Msg.setSequenceNumber {Ies : Type} (msg : Msg Ies) (seqNum : Nat) : Msg Ies :=
  { msg with sequenceNumber := seqNum % 2 ^ 24 }

structure SharedMsg (Ies : Type) where
  address : Nat
  msg : Msg Ies
deriving DecidableEq

structure Procedure (Ies : Type) where
  retryMsg : Option (SharedMsg Ies) := none
  remoteEndpoint : Endpoint := ⟨0, 0⟩
  retryTimerId : Nat := 0
  procCleanupTimerId : Nat := 0
  trxnId : Nat := 0
  initialMsgType : Nat := 0
  triggeredMsgType : Nat := 0
  retryCount : Nat := 0
deriving DecidableEq

/-- `check_initial_msg_type`: the type a pending procedure waits to be answered. -/
def Procedure.checkInitialMsgType {Ies : Type} (p : Procedure Ies) : Nat :=
  if p.triggeredMsgType = 0 then p.initialMsgType else p.triggeredMsgType

/-- The eight messages `send_request` is overloaded for. -/
inductive RequestKind where
  | heartbeat | associationSetup | associationRelease | nodeReport
  | sessionEstablishment | sessionModification | sessionDeletion | sessionReport
deriving DecidableEq, Repr

def RequestKind.messageType : RequestKind → Nat
  | .heartbeat => heartbeatRequest
  | .associationSetup => associationSetupRequest
  | .associationRelease => associationReleaseRequest
  | .nodeReport => nodeReportRequest
  | .sessionEstablishment => sessionEstablishmentRequest
  | .sessionModification => sessionModificationRequest
  | .sessionDeletion => sessionDeletionRequest
  | .sessionReport => sessionReportRequest

/-- The node report overload takes a SEID and does not set it. -/
def RequestKind.setSeid (seid : Nat) : RequestKind → Option Nat
  | .heartbeat | .associationSetup | .associationRelease | .nodeReport => none
  | .sessionEstablishment | .sessionModification | .sessionDeletion | .sessionReport => some seid

/-- The seven messages `send_response` is overloaded for. -/
inductive ResponseKind where
  | heartbeat | associationSetup | associationRelease
  | sessionEstablishment | sessionModification | sessionDeletion | sessionReport
deriving DecidableEq, Repr

def ResponseKind.messageType : ResponseKind → Nat
  | .heartbeat => heartbeatResponse
  | .associationSetup => associationSetupResponse
  | .associationRelease => associationReleaseResponse
  | .sessionEstablishment => sessionEstablishmentResponse
  | .sessionModification => sessionModificationResponse
  | .sessionDeletion => sessionDeletionResponse
  | .sessionReport => sessionReportResponse

def ResponseKind.setSeid (seid : Nat) : ResponseKind → Option Nat
  | .heartbeat | .associationSetup | .associationRelease => none
  | .sessionEstablishment | .sessionModification | .sessionDeletion | .sessionReport => some seid

/-- Of the seven overloads only the heartbeat one calls `free_trxn_id`. -/
def ResponseKind.freesTrxnId : ResponseKind → Bool
  | .heartbeat => true
  | _ => false

inductive TransactionAction where
  | deleteTx | continueTx
deriving DecidableEq, Repr

/-- The stack with what it reaches outside itself: the process-wide generator
of transaction identifiers and the timer service. -/
structure Stack (Ies : Type) where
  n1 : Nat
  itti : Itti
  uids : UintGenerator 64
  /-- The address the next `make_shared` returns. -/
  nextAddress : Nat
  seqNum : Nat
  trxnId2seqNum : ExtTreeMap Nat Nat
  procCleanupTimers : ExtTreeMap Nat Nat
  msgOutRetryTimers : ExtTreeMap Nat Nat
  pendingProcedures : ExtTreeMap Nat (Procedure Ies)

/-- What a step shows outside the stack. -/
inductive Event (Ies : Type) where
  /-- A datagram handed to a socket. A request names the object it was sent from. -/
  | sent (request : Option Nat) (msg : Msg Ies) (dest : Endpoint)
  /-- `handle_receive_message_cb` returned `error = false` and this identifier;
  `closed` is the procedure it closed, `none` when it opened one. -/
  | delivered (msg : Msg Ies) (source : Endpoint) (trxnId : Nat)
      (closed : Option (Procedure Ies))
  /-- `handle_receive_message_cb` returned `error = true`. -/
  | discarded (msg : Msg Ies) (source : Endpoint)
  /-- `notify_ul_error` with `REMOTE_PEER_NOT_RESPONDING`. -/
  | notifyUlError (procedure : Procedure Ies)
  /-- The cleanup branch followed `pending_procedures.end()`. -/
  | endDereference (timerId : Nat)
deriving DecidableEq

variable {Ies : Type}

/-- The constructor; `nanoseconds` is what the clock read. -/
def Stack.init (Ies : Type) (n1 nanoseconds : Nat) : Stack Ies where
  n1 := n1
  itti := .empty
  uids := .empty
  nextAddress := 0
  seqNum := nanoseconds % 2 ^ 31
  trxnId2seqNum := ∅
  procCleanupTimers := ∅
  msgOutRetryTimers := ∅
  pendingProcedures := ∅

namespace Stack

/-! ### Operations -/

/-- The value `get_next_seq_num` stores and returns. -/
def getNextSeqNum (stack : Stack Ies) : Nat :=
  let seqNum := (stack.seqNum + 1) % 2 ^ 32
  if seqNum.testBit 31 then 0 else seqNum

def freeTrxnId (stack : Stack Ies) (trxnId : Nat) : Stack Ies :=
  { stack with uids := stack.uids.freeUid trxnId }

def startMsgRetryTimer (stack : Stack Ies) (p : Procedure Ies) (seqNum : Nat) :
    Stack Ies × Procedure Ies :=
  let (timerId, itti) := stack.itti.timerSetup
  if timerId ≠ invalidTimerId then
    ({ stack with
        itti := itti
        msgOutRetryTimers := stack.msgOutRetryTimers.insertIfNew timerId seqNum },
      { p with retryTimerId := timerId })
  else
    ({ stack with itti := itti }, { p with retryTimerId := timerId })

def startProcCleanupTimer (stack : Stack Ies) (p : Procedure Ies) (seqNum : Nat) :
    Stack Ies × Procedure Ies :=
  let (timerId, itti) := stack.itti.timerSetup
  ({ stack with
      itti := itti
      procCleanupTimers := stack.procCleanupTimers.insertIfNew timerId seqNum },
    { p with procCleanupTimerId := timerId })

def stopMsgRetryTimer (stack : Stack Ies) (p : Procedure Ies) : Stack Ies :=
  if p.retryTimerId ≠ invalidTimerId then
    { stack with
      itti := stack.itti.timerRemove p.retryTimerId
      msgOutRetryTimers := stack.msgOutRetryTimers.erase p.retryTimerId }
  else stack

def stopProcCleanupTimer (stack : Stack Ies) (p : Procedure Ies) : Stack Ies :=
  { stack with
    itti := stack.itti.timerRemove p.procCleanupTimerId
    msgOutRetryTimers := stack.msgOutRetryTimers.erase p.procCleanupTimerId
    procCleanupTimers := stack.procCleanupTimers.erase p.procCleanupTimerId }

/-- `pending_procedures.insert` and `trxn_id2seq_num.insert`, which leave a key
already present as it is. -/
def insertProcedure (stack : Stack Ies) (p : Procedure Ies) (seqNum : Nat) : Stack Ies :=
  { stack with
    pendingProcedures := stack.pendingProcedures.insertIfNew seqNum p
    trxnId2seqNum := stack.trxnId2seqNum.insertIfNew p.trxnId seqNum }

/-- The message an overload of `send_request` builds. -/
def requestMsg (stack : Stack Ies) (kind : RequestKind) (seid : Nat) (ies : Ies) : Msg Ies :=
  (Msg.mk kind.messageType (kind.setSeid seid) 0 ies).setSequenceNumber stack.getNextSeqNum

/-- `send_request`, with the sequence number it returns. -/
def sendRequest (stack : Stack Ies) (kind : RequestKind) (dest : Endpoint) (seid : Nat)
    (ies : Ies) (trxnId : Nat) : Stack Ies × Nat × List (Event Ies) :=
  let msg := stack.requestMsg kind seid ies
  let proc : Procedure Ies :=
    { initialMsgType := msg.messageType
      trxnId := trxnId
      retryMsg := some ⟨stack.nextAddress, msg⟩
      remoteEndpoint := dest }
  let counted : Stack Ies :=
    { stack with seqNum := stack.getNextSeqNum, nextAddress := stack.nextAddress + 1 }
  let (retrying, proc) := counted.startMsgRetryTimer proc msg.sequenceNumber
  let (cleaning, proc) := retrying.startProcCleanupTimer proc msg.sequenceNumber
  (cleaning.insertProcedure proc msg.sequenceNumber, msg.sequenceNumber,
    [.sent (some stack.nextAddress) msg dest])

/-- What `send_response` does with the transaction once the message is sent. -/
def closeTransaction (stack : Stack Ies) (kind : ResponseKind) (trxnId seqNum : Nat) :
    Stack Ies :=
  let closed :=
    match stack.pendingProcedures[seqNum]? with
    | none => stack
    | some p =>
        let stopped := stack.stopProcCleanupTimer p
        let freed := if kind.freesTrxnId then stopped.freeTrxnId trxnId else stopped
        { freed with pendingProcedures := freed.pendingProcedures.erase seqNum }
  { closed with trxnId2seqNum := closed.trxnId2seqNum.erase trxnId }

def sendResponse (stack : Stack Ies) (kind : ResponseKind) (dest : Endpoint) (seid : Nat)
    (ies : Ies) (trxnId : Nat) (action : TransactionAction) : Stack Ies × List (Event Ies) :=
  match stack.trxnId2seqNum[trxnId]? with
  | none => (stack, [])
  | some seqNum =>
      let msg := (Msg.mk kind.messageType (kind.setSeid seid) 0 ies).setSequenceNumber seqNum
      let after :=
        match action with
        | .deleteTx => stack.closeTransaction kind trxnId seqNum
        | .continueTx => stack
      (after, [.sent none msg dest])

/-- `handle_receive_message_cb`: the stack, `error` and `trxn_id`. It is `none`
where `generate_trxn_id` finds no free identifier and does not return. -/
def handleReceiveMessageCb (stack : Stack Ies) (msg : Msg Ies) :
    Option (Stack Ies × Bool × Nat) :=
  match stack.pendingProcedures[msg.sequenceNumber]? with
  | none =>
      if checkRequestType msg.messageType then
        match stack.uids.getUid with
        | none => none
        | some (trxnId, uids) =>
            let proc : Procedure Ies := { trxnId := trxnId, initialMsgType := msg.messageType }
            let drawn : Stack Ies := { stack with uids := uids }
            let (cleaning, proc) := drawn.startProcCleanupTimer proc msg.sequenceNumber
            some (cleaning.insertProcedure proc msg.sequenceNumber, false, trxnId)
      else
        some (stack, true, 0)
  | some p =>
      if checkResponseType p.checkInitialMsgType msg.messageType then
        let silenced := if p.retryTimerId ≠ 0 then stack.stopMsgRetryTimer p else stack
        let stopped := silenced.stopProcCleanupTimer p
        let forgotten : Stack Ies :=
          { stopped with trxnId2seqNum := stopped.trxnId2seqNum.erase p.trxnId }
        let freed := forgotten.freeTrxnId p.trxnId
        some ({ freed with pendingProcedures := freed.pendingProcedures.erase msg.sequenceNumber },
          false, p.trxnId)
      else
        some (stack, true, 0)

/-- The branch of `time_out_event` for an expired retransmission timer, which
has already been taken out of `msg_out_retry_timers`. -/
def retryTimeOut (stack : Stack Ies) (seqNum : Nat) : Option (Stack Ies × List (Event Ies)) :=
  match stack.pendingProcedures[seqNum]? with
  | none => some (stack, [])
  | some p =>
      match p.retryMsg with
      | none => none
      | some shared =>
          if p.retryCount < stack.n1 then
            let counted : Procedure Ies := { p with retryCount := (p.retryCount + 1) % 2 ^ 8 }
            let (retrying, restarted) := stack.startMsgRetryTimer counted shared.msg.sequenceNumber
            some ({ retrying with
                pendingProcedures := retrying.pendingProcedures.insert seqNum restarted },
              [.sent (some shared.address) shared.msg p.remoteEndpoint])
          else
            some (stack, [.notifyUlError p])

/-- The branch of `time_out_event` for an expired cleanup timer. The iterator
is followed before it is compared with `end()`; `indeterminate` is the
`trxn_id` read when it is `end()`. -/
def cleanupTimeOut (stack : Stack Ies) (timerId seqNum indeterminate : Nat) :
    Stack Ies × List (Event Ies) :=
  match stack.pendingProcedures[seqNum]? with
  | some p =>
      let forgotten := { stack with trxnId2seqNum := stack.trxnId2seqNum.erase p.trxnId }
      let freed := forgotten.freeTrxnId p.trxnId
      ({ freed with
          procCleanupTimers := freed.procCleanupTimers.erase timerId
          pendingProcedures := freed.pendingProcedures.erase seqNum }, [])
  | none =>
      let forgotten := { stack with trxnId2seqNum := stack.trxnId2seqNum.erase indeterminate }
      let freed := forgotten.freeTrxnId indeterminate
      ({ freed with procCleanupTimers := freed.procCleanupTimers.erase timerId },
        [.endDereference timerId])

def timeOutEvent (stack : Stack Ies) (timerId indeterminate : Nat) :
    Option (Stack Ies × List (Event Ies)) :=
  match stack.msgOutRetryTimers[timerId]? with
  | some seqNum =>
      retryTimeOut { stack with msgOutRetryTimers := stack.msgOutRetryTimers.erase timerId } seqNum
  | none =>
      match stack.procCleanupTimers[timerId]? with
      | some seqNum => some (stack.cleanupTimeOut timerId seqNum indeterminate)
      | none => some (stack, [])

end Stack

/-! ### Runs -/

/-- One call into the stack, or one use of a service it shares. -/
inductive Action (Ies : Type) where
  | sendRequest (kind : RequestKind) (dest : Endpoint) (seid : Nat) (ies : Ies) (trxnId : Nat)
  | sendResponse (kind : ResponseKind) (dest : Endpoint) (seid : Nat) (ies : Ies) (trxnId : Nat)
      (action : TransactionAction)
  | receive (msg : Msg Ies) (source : Endpoint)
  | timeOut (timerId indeterminate : Nat)
  | otherTimerSetup
  | otherGetUid
  | otherFreeUid (uid : Nat)

namespace Stack

/-- A received message and what the upper layer is told about it. -/
def receive (stack : Stack Ies) (msg : Msg Ies) (source : Endpoint) :
    Option (Stack Ies × List (Event Ies)) :=
  match stack.handleReceiveMessageCb msg with
  | none => none
  | some (after, true, _) => some (after, [.discarded msg source])
  | some (after, false, trxnId) =>
      some (after, [.delivered msg source trxnId stack.pendingProcedures[msg.sequenceNumber]?])

/-- Only an armed timer expires, and it is not armed any more then. -/
def timeOut (stack : Stack Ies) (timerId indeterminate : Nat) :
    Option (Stack Ies × List (Event Ies)) :=
  if timerId ∈ stack.itti.timers then
    timeOutEvent { stack with itti := stack.itti.timerRemove timerId } timerId indeterminate
  else none

def step (stack : Stack Ies) : Action Ies → Option (Stack Ies × List (Event Ies))
  | .sendRequest kind dest seid ies trxnId =>
      let (after, _, events) := stack.sendRequest kind dest seid ies trxnId
      some (after, events)
  | .sendResponse kind dest seid ies trxnId action =>
      some (stack.sendResponse kind dest seid ies trxnId action)
  | .receive msg source => stack.receive msg source
  | .timeOut timerId indeterminate => stack.timeOut timerId indeterminate
  | .otherTimerSetup => some ({ stack with itti := stack.itti.timerSetup.2 }, [])
  | .otherGetUid =>
      match stack.uids.getUid with
      | none => none
      | some (_, uids) => some ({ stack with uids := uids }, [])
  | .otherFreeUid uid => some ({ stack with uids := stack.uids.freeUid uid }, [])

end Stack

end OpenairSpgwc.Pfcp
