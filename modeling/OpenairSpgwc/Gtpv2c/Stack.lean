import OpenairSpgwc.Common.Runtime
import OpenairSpgwc.Common.UintGenerator

/-!
Contract: the transaction layer of GTPv2-C, `gtpv2c_stack` of `gtpv2c.cpp`, as
the S11 and both S5/S8 ends use it.

Owns:
- the four tables of the stack and the procedures they hold;
- `send_initial_message` for its six messages, `send_triggered_message` for its six;
- `handle_receive_message_cb` and both branches of `time_out_event`;
- `step`, one call of any of these, and what it shows outside.

A `folly::AtomicHashMap` is a finite map whose `insert` leaves a key already
present as it is. Shared pointers, null pointers and reads through `end()` are
modelled as in the PFCP stack. The information elements stay a type parameter.

Does not own: encoding, sockets, the time after which a timer expires.
-/

namespace OpenairSpgwc.Gtpv2c

open OpenairSpgwc.Common
open Std (ExtTreeMap)

/-! ### Message types -/

namespace MessageType

def echoRequest : Nat := 1
def echoResponse : Nat := 2
def versionNotSupportedIndication : Nat := 3
def createSessionRequest : Nat := 32
def createSessionResponse : Nat := 33
def modifyBearerRequest : Nat := 34
def modifyBearerResponse : Nat := 35
def deleteSessionRequest : Nat := 36
def deleteSessionResponse : Nat := 37
def changeNotificationRequest : Nat := 38
def remoteUeReportNotification : Nat := 40
def modifyBearerCommand : Nat := 64
def deleteBearerCommand : Nat := 66
def bearerResourceCommand : Nat := 68
def createBearerRequest : Nat := 95
def updateBearerRequest : Nat := 97
def deleteBearerRequest : Nat := 99
def deletePdnConnectionSetRequest : Nat := 101
def pgwDownlinkTriggeringNotification : Nat := 103
def identificationRequest : Nat := 128
def contextRequest : Nat := 130
def forwardRelocationRequest : Nat := 133
def forwardRelocationCompleteNotification : Nat := 135
def forwardAccessContextNotification : Nat := 137
def relocationCancelRequest : Nat := 139
def detachNotification : Nat := 149
def alertMmeNotification : Nat := 153
def ueActivityNotification : Nat := 155
def ueRegistrationQueryRequest : Nat := 158
def createForwardingTunnelRequest : Nat := 160
def suspendNotification : Nat := 162
def resumeNotification : Nat := 164
def createIndirectDataForwardingTunnelRequest : Nat := 166
def deleteIndirectDataForwardingTunnelRequest : Nat := 168
def releaseAccessBearersRequest : Nat := 170
def releaseAccessBearersResponse : Nat := 171
def downlinkDataNotification : Nat := 176
def downlinkDataNotificationAcknowledge : Nat := 177
def pgwRestartNotification : Nat := 179
def updatePdnConnectionSetRequest : Nat := 200
def modifyAccessBearersRequest : Nat := 211
def mbmsSessionStartRequest : Nat := 231
def mbmsSessionUpdateRequest : Nat := 233
def mbmsSessionStopRequest : Nat := 235

/-- The cases both type checks list. -/
def initial : List Nat :=
  [echoRequest, createSessionRequest, modifyBearerRequest, deleteSessionRequest,
    changeNotificationRequest, remoteUeReportNotification, modifyBearerCommand,
    deleteBearerCommand, bearerResourceCommand, createBearerRequest, updateBearerRequest,
    deleteBearerRequest, deletePdnConnectionSetRequest, pgwDownlinkTriggeringNotification,
    identificationRequest, contextRequest, forwardRelocationRequest,
    forwardRelocationCompleteNotification, forwardAccessContextNotification,
    relocationCancelRequest, detachNotification, alertMmeNotification, ueActivityNotification,
    ueRegistrationQueryRequest, createForwardingTunnelRequest, suspendNotification,
    resumeNotification, createIndirectDataForwardingTunnelRequest,
    deleteIndirectDataForwardingTunnelRequest, releaseAccessBearersRequest,
    downlinkDataNotification, pgwRestartNotification, updatePdnConnectionSetRequest,
    modifyAccessBearersRequest, mbmsSessionStartRequest, mbmsSessionUpdateRequest,
    mbmsSessionStopRequest]

end MessageType

open MessageType

def checkInitialMessageType (initial : Nat) : Bool := initial ∈ MessageType.initial

def checkTriggeredMessageType (initial triggered : Nat) : Bool :=
  (if initial ∈ MessageType.initial then triggered == initial + 1
    else triggered == versionNotSupportedIndication) ||
  triggered ∈ [createBearerRequest, updateBearerRequest, deleteBearerRequest]

/-! ### Data -/

structure Msg (Ies : Type) where
  messageType : Nat
  teid : Option Nat
  sequenceNumber : Nat
  ies : Ies
deriving DecidableEq

/-- `set_sequence_number` keeps 24 bits. -/
def Msg.setSequenceNumber {Ies : Type} (msg : Msg Ies) (seqNum : Nat) : Msg Ies :=
  { msg with sequenceNumber := seqNum % 2 ^ 24 }

structure SharedMsg (Ies : Type) where
  address : Nat
  msg : Msg Ies
deriving DecidableEq

structure Procedure (Ies : Type) where
  retryMsg : Option (SharedMsg Ies) := none
  remoteEndpoint : Endpoint := ⟨0, 0⟩
  localTeid : Nat := 0
  retryTimerId : Nat := 0
  procCleanupTimerId : Nat := 0
  gtpcTxId : Nat := 0
  initialMsgType : Nat := 0
  triggeredMsgType : Nat := 0
  retryCount : Nat := 0
deriving DecidableEq

/-- `check_initial_msg_type`: the type a pending procedure waits to be answered. -/
def Procedure.checkInitialMsgType {Ies : Type} (p : Procedure Ies) : Nat :=
  if p.triggeredMsgType = 0 then p.initialMsgType else p.triggeredMsgType

/-- The six messages `send_initial_message` is overloaded for. -/
inductive InitialKind where
  | echo | createSession | deleteSession | modifyBearer | releaseAccessBearers
  | downlinkDataNotification
deriving DecidableEq, Repr

def InitialKind.messageType : InitialKind → Nat
  | .echo => echoRequest
  | .createSession => createSessionRequest
  | .deleteSession => deleteSessionRequest
  | .modifyBearer => modifyBearerRequest
  | .releaseAccessBearers => releaseAccessBearersRequest
  | .downlinkDataNotification => MessageType.downlinkDataNotification

/-- The echo overload has no TEID of either end. -/
def InitialKind.setTeid (rTeid : Nat) : InitialKind → Option Nat
  | .echo => none
  | _ => some rTeid

def InitialKind.localTeid (lTeid : Nat) : InitialKind → Nat
  | .echo => 0
  | _ => lTeid

/-- The six messages `send_triggered_message` is overloaded for. -/
inductive TriggeredKind where
  | echo | createSession | deleteSession | modifyBearer | releaseAccessBearers
  | downlinkDataNotificationAcknowledge
deriving DecidableEq, Repr

def TriggeredKind.messageType : TriggeredKind → Nat
  | .echo => echoResponse
  | .createSession => createSessionResponse
  | .deleteSession => deleteSessionResponse
  | .modifyBearer => modifyBearerResponse
  | .releaseAccessBearers => releaseAccessBearersResponse
  | .downlinkDataNotificationAcknowledge => MessageType.downlinkDataNotificationAcknowledge

def TriggeredKind.setTeid (rTeid : Nat) : TriggeredKind → Option Nat
  | .echo => none
  | _ => some rTeid

inductive TransactionAction where
  | deleteTx | continueTx
deriving DecidableEq, Repr

/-- The stack with what it reaches outside itself: the process-wide generator
of transaction identifiers and the timer service. -/
structure Stack (Ies : Type) where
  n3 : Nat
  itti : Itti
  uids : UintGenerator 64
  /-- The address the next `make_shared` returns. -/
  nextAddress : Nat
  seqNum : Nat
  gtpcTxId2seqNum : ExtTreeMap Nat Nat
  procCleanupTimers : ExtTreeMap Nat Nat
  msgOutRetryTimers : ExtTreeMap Nat Nat
  pendingProcedures : ExtTreeMap Nat (Procedure Ies)

/-- What a step shows outside the stack. -/
inductive Event (Ies : Type) where
  /-- A datagram handed to a socket. A request names the object it was sent from. -/
  | sent (request : Option Nat) (msg : Msg Ies) (dest : Endpoint)
  /-- `handle_receive_message_cb` returned `error = false` and this identifier;
  `closed` is the procedure it closed, `none` when it opened one. -/
  | delivered (msg : Msg Ies) (source : Endpoint) (gtpcTxId : Nat)
      (closed : Option (Procedure Ies))
  /-- `handle_receive_message_cb` returned `error = true`. -/
  | discarded (msg : Msg Ies) (source : Endpoint)
  /-- `notify_ul_error` with `REMOTE_PEER_NOT_RESPONDING`. -/
  | notifyUlError (procedure : Procedure Ies)
  /-- The cleanup branch followed `pending_procedures.end()`. -/
  | endDereference (timerId : Nat)
deriving DecidableEq

variable {Ies : Type}

/-- The constructor; `nanoseconds` is what the clock read. -/
def Stack.init (Ies : Type) (n3 nanoseconds : Nat) : Stack Ies where
  n3 := n3
  itti := .empty
  uids := .empty
  nextAddress := 0
  seqNum := nanoseconds % 2 ^ 31
  gtpcTxId2seqNum := ∅
  procCleanupTimers := ∅
  msgOutRetryTimers := ∅
  pendingProcedures := ∅

namespace Stack

/-! ### Operations -/

/-- The value `get_next_seq_num` stores and returns. -/
def getNextSeqNum (stack : Stack Ies) : Nat :=
  let seqNum := (stack.seqNum + 1) % 2 ^ 32
  if seqNum.testBit 31 then 0 else seqNum

def freeGtpcTxId (stack : Stack Ies) (gtpcTxId : Nat) : Stack Ies :=
  { stack with uids := stack.uids.freeUid gtpcTxId }

def startMsgRetryTimer (stack : Stack Ies) (p : Procedure Ies) (seqNum : Nat) :
    Stack Ies × Procedure Ies :=
  let (timerId, itti) := stack.itti.timerSetup
  if timerId ≠ invalidTimerId then
    ({ stack with
        itti := itti
        msgOutRetryTimers := stack.msgOutRetryTimers.insertIfNew timerId seqNum },
      { p with retryTimerId := timerId })
  else
    ({ stack with itti := itti }, { p with retryTimerId := timerId })

def startProcCleanupTimer (stack : Stack Ies) (p : Procedure Ies) (seqNum : Nat) :
    Stack Ies × Procedure Ies :=
  if p.procCleanupTimerId = invalidTimerId then
    let (timerId, itti) := stack.itti.timerSetup
    ({ stack with
        itti := itti
        procCleanupTimers := stack.procCleanupTimers.insertIfNew timerId seqNum },
      { p with procCleanupTimerId := timerId })
  else (stack, p)

def stopMsgRetryTimer (stack : Stack Ies) (p : Procedure Ies) : Stack Ies :=
  if p.retryTimerId ≠ invalidTimerId then
    { stack with
      itti := stack.itti.timerRemove p.retryTimerId
      msgOutRetryTimers := stack.msgOutRetryTimers.erase p.retryTimerId }
  else stack

/-- It erases from `msg_out_retry_timers` and not from `proc_cleanup_timers`. -/
def stopProcCleanupTimer (stack : Stack Ies) (p : Procedure Ies) : Stack Ies :=
  { stack with
    itti := stack.itti.timerRemove p.procCleanupTimerId
    msgOutRetryTimers := stack.msgOutRetryTimers.erase p.procCleanupTimerId }

/-- `pending_procedures.insert` and `gtpc_tx_id2seq_num.insert`. -/
def insertProcedure (stack : Stack Ies) (p : Procedure Ies) (seqNum : Nat) : Stack Ies :=
  { stack with
    pendingProcedures := stack.pendingProcedures.insertIfNew seqNum p
    gtpcTxId2seqNum := stack.gtpcTxId2seqNum.insertIfNew p.gtpcTxId seqNum }

/-- The message an overload of `send_initial_message` builds. -/
def initialMsg (stack : Stack Ies) (kind : InitialKind) (rTeid : Nat) (ies : Ies) : Msg Ies :=
  (Msg.mk kind.messageType (kind.setTeid rTeid) 0 ies).setSequenceNumber stack.getNextSeqNum

/-- `send_initial_message`, with the sequence number it returns. -/
def sendInitialMessage (stack : Stack Ies) (kind : InitialKind) (dest : Endpoint)
    (rTeid lTeid : Nat) (ies : Ies) (gtpTxId : Nat) : Stack Ies × Nat × List (Event Ies) :=
  let msg := stack.initialMsg kind rTeid ies
  let proc : Procedure Ies :=
    { initialMsgType := msg.messageType
      gtpcTxId := gtpTxId
      localTeid := kind.localTeid lTeid
      retryMsg := some ⟨stack.nextAddress, msg⟩
      remoteEndpoint := dest }
  let counted : Stack Ies :=
    { stack with seqNum := stack.getNextSeqNum, nextAddress := stack.nextAddress + 1 }
  let (retrying, proc) := counted.startMsgRetryTimer proc msg.sequenceNumber
  let (cleaning, proc) := retrying.startProcCleanupTimer proc msg.sequenceNumber
  (cleaning.insertProcedure proc msg.sequenceNumber, msg.sequenceNumber,
    [.sent (some stack.nextAddress) msg dest])

/-- What `send_triggered_message` does with the transaction once the message is sent. -/
def closeTransaction (stack : Stack Ies) (gtpTxId seqNum : Nat) : Stack Ies :=
  let closed :=
    match stack.pendingProcedures[seqNum]? with
    | none => stack
    | some p =>
        let freed := (stack.stopProcCleanupTimer p).freeGtpcTxId gtpTxId
        { freed with pendingProcedures := freed.pendingProcedures.erase seqNum }
  { closed with gtpcTxId2seqNum := closed.gtpcTxId2seqNum.erase gtpTxId }

def sendTriggeredMessage (stack : Stack Ies) (kind : TriggeredKind) (dest : Endpoint)
    (rTeid : Nat) (ies : Ies) (gtpTxId : Nat) (action : TransactionAction) :
    Stack Ies × List (Event Ies) :=
  match stack.gtpcTxId2seqNum[gtpTxId]? with
  | none => (stack, [])
  | some seqNum =>
      let msg := (Msg.mk kind.messageType (kind.setTeid rTeid) 0 ies).setSequenceNumber seqNum
      let after :=
        match action with
        | .deleteTx => stack.closeTransaction gtpTxId seqNum
        | .continueTx => stack
      (after, [.sent none msg dest])

/-- `handle_receive_message_cb`: the stack, `error` and `gtpc_tx_id`. It is `none`
where `generate_gtpc_tx_id` finds no free identifier and does not return. -/
def handleReceiveMessageCb (stack : Stack Ies) (msg : Msg Ies) :
    Option (Stack Ies × Bool × Nat) :=
  match stack.pendingProcedures[msg.sequenceNumber]? with
  | none =>
      if checkInitialMessageType msg.messageType then
        match stack.uids.getUid with
        | none => none
        | some (gtpcTxId, uids) =>
            let proc : Procedure Ies := { gtpcTxId := gtpcTxId, initialMsgType := msg.messageType }
            let drawn : Stack Ies := { stack with uids := uids }
            let (cleaning, proc) := drawn.startProcCleanupTimer proc msg.sequenceNumber
            some (cleaning.insertProcedure proc msg.sequenceNumber, false, gtpcTxId)
      else
        some (stack, true, 0)
  | some p =>
      if checkTriggeredMessageType p.checkInitialMsgType msg.messageType then
        let silenced := if p.retryTimerId ≠ 0 then stack.stopMsgRetryTimer p else stack
        let stopped := silenced.stopProcCleanupTimer p
        let forgotten : Stack Ies :=
          { stopped with gtpcTxId2seqNum := stopped.gtpcTxId2seqNum.erase p.gtpcTxId }
        let freed := forgotten.freeGtpcTxId p.gtpcTxId
        some ({ freed with pendingProcedures := freed.pendingProcedures.erase msg.sequenceNumber },
          false, p.gtpcTxId)
      else
        some (stack, true, 0)

/-- The branch of `time_out_event` for an expired retransmission timer, which
has already been taken out of `msg_out_retry_timers`. -/
def retryTimeOut (stack : Stack Ies) (seqNum : Nat) : Option (Stack Ies × List (Event Ies)) :=
  match stack.pendingProcedures[seqNum]? with
  | none => some (stack, [])
  | some p =>
      if p.retryCount < stack.n3 then
        match p.retryMsg with
        | none => none
        | some shared =>
            let counted : Procedure Ies :=
              { p with retryCount := (p.retryCount + 1) % 2 ^ 8, retryTimerId := 0 }
            let (retrying, restarted) := stack.startMsgRetryTimer counted shared.msg.sequenceNumber
            some ({ retrying with
                pendingProcedures := retrying.pendingProcedures.insert seqNum restarted },
              [.sent (some shared.address) shared.msg p.remoteEndpoint])
      else
        some ({ stack with pendingProcedures := stack.pendingProcedures.erase seqNum },
          [.notifyUlError p])

/-- The branch of `time_out_event` for an expired cleanup timer. The iterator
is followed before it is compared with `end()`; `indeterminate` is the
`gtpc_tx_id` read when it is `end()`. -/
def cleanupTimeOut (stack : Stack Ies) (timerId seqNum indeterminate : Nat) :
    Stack Ies × List (Event Ies) :=
  match stack.pendingProcedures[seqNum]? with
  | some p =>
      let forgotten := { stack with gtpcTxId2seqNum := stack.gtpcTxId2seqNum.erase p.gtpcTxId }
      let freed := forgotten.freeGtpcTxId p.gtpcTxId
      ({ freed with
          procCleanupTimers := freed.procCleanupTimers.erase timerId
          pendingProcedures := freed.pendingProcedures.erase seqNum }, [])
  | none =>
      let forgotten := { stack with gtpcTxId2seqNum := stack.gtpcTxId2seqNum.erase indeterminate }
      let freed := forgotten.freeGtpcTxId indeterminate
      ({ freed with procCleanupTimers := freed.procCleanupTimers.erase timerId },
        [.endDereference timerId])

def timeOutEvent (stack : Stack Ies) (timerId indeterminate : Nat) :
    Option (Stack Ies × List (Event Ies)) :=
  match stack.msgOutRetryTimers[timerId]? with
  | some seqNum =>
      retryTimeOut { stack with msgOutRetryTimers := stack.msgOutRetryTimers.erase timerId } seqNum
  | none =>
      match stack.procCleanupTimers[timerId]? with
      | some seqNum => some (stack.cleanupTimeOut timerId seqNum indeterminate)
      | none => some (stack, [])

end Stack

/-! ### Runs -/

/-- One call into the stack, or one use of a service it shares. -/
inductive Action (Ies : Type) where
  | sendInitialMessage (kind : InitialKind) (dest : Endpoint) (rTeid lTeid : Nat) (ies : Ies)
      (gtpTxId : Nat)
  | sendTriggeredMessage (kind : TriggeredKind) (dest : Endpoint) (rTeid : Nat) (ies : Ies)
      (gtpTxId : Nat) (action : TransactionAction)
  | receive (msg : Msg Ies) (source : Endpoint)
  | timeOut (timerId indeterminate : Nat)
  | otherTimerSetup
  | otherGetUid
  | otherFreeUid (uid : Nat)

namespace Stack

/-- A received message and what the upper layer is told about it. -/
def receive (stack : Stack Ies) (msg : Msg Ies) (source : Endpoint) :
    Option (Stack Ies × List (Event Ies)) :=
  match stack.handleReceiveMessageCb msg with
  | none => none
  | some (after, true, _) => some (after, [.discarded msg source])
  | some (after, false, gtpcTxId) =>
      some (after, [.delivered msg source gtpcTxId stack.pendingProcedures[msg.sequenceNumber]?])

/-- Only an armed timer expires, and it is not armed any more then. -/
def timeOut (stack : Stack Ies) (timerId indeterminate : Nat) :
    Option (Stack Ies × List (Event Ies)) :=
  if timerId ∈ stack.itti.timers then
    timeOutEvent { stack with itti := stack.itti.timerRemove timerId } timerId indeterminate
  else none

def step (stack : Stack Ies) : Action Ies → Option (Stack Ies × List (Event Ies))
  | .sendInitialMessage kind dest rTeid lTeid ies gtpTxId =>
      let (after, _, events) := stack.sendInitialMessage kind dest rTeid lTeid ies gtpTxId
      some (after, events)
  | .sendTriggeredMessage kind dest rTeid ies gtpTxId action =>
      some (stack.sendTriggeredMessage kind dest rTeid ies gtpTxId action)
  | .receive msg source => stack.receive msg source
  | .timeOut timerId indeterminate => stack.timeOut timerId indeterminate
  | .otherTimerSetup => some ({ stack with itti := stack.itti.timerSetup.2 }, [])
  | .otherGetUid =>
      match stack.uids.getUid with
      | none => none
      | some (_, uids) => some ({ stack with uids := uids }, [])
  | .otherFreeUid uid => some ({ stack with uids := stack.uids.freeUid uid }, [])

end Stack

end OpenairSpgwc.Gtpv2c
