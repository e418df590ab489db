import OpenairSpgwc.Gtpv2c.Stack

/-!
Contract: what one step of the GTPv2-C stack can do, said once.

`Effect` lists the possible steps with their guards, the state they lead to
and their events; `effect_of_step` shows that `Stack.step` does nothing else.
Every later statement about the stack is a case analysis on `Effect`.
-/

namespace OpenairSpgwc.Gtpv2c

open OpenairSpgwc.Common

variable {Ies : Type}

namespace Stack

/-- The 24-bit sequence number the next `send_initial_message` uses. -/
def nextSequenceNumber (stack : Stack Ies) : Nat := stack.getNextSeqNum % 2 ^ 24

/-- The procedure `send_initial_message` builds, with the timers it starts. -/
def initialProcedure (stack : Stack Ies) (kind : InitialKind) (dest : Endpoint) (rTeid lTeid : Nat)
    (ies : Ies) (gtpTxId : Nat) : Procedure Ies where
  retryMsg := some ⟨stack.nextAddress, stack.initialMsg kind rTeid ies⟩
  remoteEndpoint := dest
  localTeid := kind.localTeid lTeid
  retryTimerId := stack.itti.timerId + 1
  procCleanupTimerId := stack.itti.timerId + 2
  gtpcTxId := gtpTxId
  initialMsgType := kind.messageType

/-- The procedure a received request opens. -/
def peerProcedure (stack : Stack Ies) (messageType gtpTxId : Nat) : Procedure Ies where
  procCleanupTimerId := stack.itti.timerId + 1
  gtpcTxId := gtpTxId
  initialMsgType := messageType

/-- The stack after `send_initial_message`. -/
def afterInitial (stack : Stack Ies) (kind : InitialKind) (dest : Endpoint)
    (rTeid lTeid : Nat) (ies : Ies) (gtpTxId : Nat) : Stack Ies :=
  { stack with
    itti := stack.itti.timerSetup.2.timerSetup.2
    nextAddress := stack.nextAddress + 1
    seqNum := stack.getNextSeqNum
    msgOutRetryTimers :=
      stack.msgOutRetryTimers.insertIfNew (stack.itti.timerId + 1) stack.nextSequenceNumber
    procCleanupTimers :=
      stack.procCleanupTimers.insertIfNew (stack.itti.timerId + 2) stack.nextSequenceNumber
    pendingProcedures := stack.pendingProcedures.insertIfNew stack.nextSequenceNumber
      (stack.initialProcedure kind dest rTeid lTeid ies gtpTxId)
    gtpcTxId2seqNum := stack.gtpcTxId2seqNum.insertIfNew gtpTxId stack.nextSequenceNumber }

/-- The stack after a received request opened a transaction. -/
def afterOpening (stack : Stack Ies) (msg : Msg Ies) (gtpTxId : Nat) (uids : UintGenerator 64) :
    Stack Ies :=
  { stack with
    itti := stack.itti.timerSetup.2
    uids := uids
    procCleanupTimers :=
      stack.procCleanupTimers.insertIfNew (stack.itti.timerId + 1) msg.sequenceNumber
    pendingProcedures := stack.pendingProcedures.insertIfNew msg.sequenceNumber
      (stack.peerProcedure msg.messageType gtpTxId)
    gtpcTxId2seqNum := stack.gtpcTxId2seqNum.insertIfNew gtpTxId msg.sequenceNumber }

/-- The stack after a received message closed the transaction of `p`. -/
def afterClosing (stack : Stack Ies) (seqNum : Nat) (p : Procedure Ies) : Stack Ies :=
  { stack with
    itti := (stack.stopMsgRetryTimer p).itti.timerRemove p.procCleanupTimerId
    uids := stack.uids.freeUid p.gtpcTxId
    msgOutRetryTimers :=
      (stack.stopMsgRetryTimer p).msgOutRetryTimers.erase p.procCleanupTimerId
    pendingProcedures := stack.pendingProcedures.erase seqNum
    gtpcTxId2seqNum := stack.gtpcTxId2seqNum.erase p.gtpcTxId }

/-- The stack after `send_triggered_message` with `DELETE_TX` closed the transaction of `p`. -/
def afterDeleteTx (stack : Stack Ies) (gtpTxId seqNum : Nat) (p : Procedure Ies) : Stack Ies :=
  { stack with
    itti := stack.itti.timerRemove p.procCleanupTimerId
    uids := stack.uids.freeUid gtpTxId
    msgOutRetryTimers := stack.msgOutRetryTimers.erase p.procCleanupTimerId
    pendingProcedures := stack.pendingProcedures.erase seqNum
    gtpcTxId2seqNum := stack.gtpcTxId2seqNum.erase gtpTxId }

/-- The stack after a retransmission of `p`. -/
def afterRetry (stack : Stack Ies) (timerId seqNum : Nat) (p : Procedure Ies)
    (shared : SharedMsg Ies) : Stack Ies :=
  { stack with
    itti := (stack.itti.timerRemove timerId).timerSetup.2
    msgOutRetryTimers := (stack.msgOutRetryTimers.erase timerId).insertIfNew
      (stack.itti.timerId + 1) shared.msg.sequenceNumber
    pendingProcedures := stack.pendingProcedures.insert seqNum
      { p with
        retryCount := (p.retryCount + 1) % 2 ^ 8
        retryTimerId := stack.itti.timerId + 1 } }

/-- The stack after a retransmission timer expired and nothing was sent. -/
def afterRetryTimer (stack : Stack Ies) (timerId : Nat) : Stack Ies :=
  { stack with
    itti := stack.itti.timerRemove timerId
    msgOutRetryTimers := stack.msgOutRetryTimers.erase timerId }

/-- The stack after the retransmissions of a transaction were used up. -/
def afterAbort (stack : Stack Ies) (timerId seqNum : Nat) : Stack Ies :=
  { stack with
    itti := stack.itti.timerRemove timerId
    msgOutRetryTimers := stack.msgOutRetryTimers.erase timerId
    pendingProcedures := stack.pendingProcedures.erase seqNum }

/-- The stack after the cleanup timer of the transaction of `p` expired. -/
def afterCleanup (stack : Stack Ies) (timerId seqNum : Nat) (p : Procedure Ies) : Stack Ies :=
  { stack with
    itti := stack.itti.timerRemove timerId
    uids := stack.uids.freeUid p.gtpcTxId
    procCleanupTimers := stack.procCleanupTimers.erase timerId
    pendingProcedures := stack.pendingProcedures.erase seqNum
    gtpcTxId2seqNum := stack.gtpcTxId2seqNum.erase p.gtpcTxId }

/-- The stack after a cleanup timer expired whose transaction is gone. -/
def afterStrayCleanup (stack : Stack Ies) (timerId indeterminate : Nat) : Stack Ies :=
  { stack with
    itti := stack.itti.timerRemove timerId
    uids := stack.uids.freeUid indeterminate
    procCleanupTimers := stack.procCleanupTimers.erase timerId
    gtpcTxId2seqNum := stack.gtpcTxId2seqNum.erase indeterminate }

/-! ### The effects -/

/-- `Effect stack action next events`. -/
inductive Effect (stack : Stack Ies) : Action Ies → Stack Ies → List (Event Ies) → Prop where
  | requested (kind dest rTeid lTeid ies gtpTxId) :
      Effect stack (.sendInitialMessage kind dest rTeid lTeid ies gtpTxId)
        (stack.afterInitial kind dest rTeid lTeid ies gtpTxId)
        [.sent (some stack.nextAddress) (stack.initialMsg kind rTeid ies) dest]
  | unanswerable (kind dest rTeid ies gtpTxId action)
      (unknown : stack.gtpcTxId2seqNum[gtpTxId]? = none) :
      Effect stack (.sendTriggeredMessage kind dest rTeid ies gtpTxId action) stack []
  | answered (kind dest rTeid ies gtpTxId seqNum)
      (known : stack.gtpcTxId2seqNum[gtpTxId]? = some seqNum) (msg : Msg Ies) :
      Effect stack (.sendTriggeredMessage kind dest rTeid ies gtpTxId .continueTx) stack
        [.sent none msg dest]
  | deleted (kind dest rTeid ies gtpTxId seqNum p)
      (known : stack.gtpcTxId2seqNum[gtpTxId]? = some seqNum)
      (pending : stack.pendingProcedures[seqNum]? = some p) (msg : Msg Ies) :
      Effect stack (.sendTriggeredMessage kind dest rTeid ies gtpTxId .deleteTx)
        (stack.afterDeleteTx gtpTxId seqNum p) [.sent none msg dest]
  | deletedStale (kind dest rTeid ies gtpTxId seqNum)
      (known : stack.gtpcTxId2seqNum[gtpTxId]? = some seqNum)
      (absent : stack.pendingProcedures[seqNum]? = none) (msg : Msg Ies) :
      Effect stack (.sendTriggeredMessage kind dest rTeid ies gtpTxId .deleteTx)
        { stack with gtpcTxId2seqNum := stack.gtpcTxId2seqNum.erase gtpTxId } [.sent none msg dest]
  | opened (msg source gtpTxId uids)
      (absent : stack.pendingProcedures[msg.sequenceNumber]? = none)
      (request : checkInitialMessageType msg.messageType = true)
      (drawn : stack.uids.getUid = some (gtpTxId, uids)) :
      Effect stack (.receive msg source) (stack.afterOpening msg gtpTxId uids)
        [.delivered msg source gtpTxId none]
  | closed (msg source p)
      (pending : stack.pendingProcedures[msg.sequenceNumber]? = some p)
      (response : checkTriggeredMessageType p.checkInitialMsgType msg.messageType = true) :
      Effect stack (.receive msg source) (stack.afterClosing msg.sequenceNumber p)
        [.delivered msg source p.gtpcTxId (some p)]
  | discardedInitial (msg source)
      (absent : stack.pendingProcedures[msg.sequenceNumber]? = none)
      (mismatch : checkInitialMessageType msg.messageType = false) :
      Effect stack (.receive msg source) stack [.discarded msg source]
  | discardedTriggered (msg source p)
      (pending : stack.pendingProcedures[msg.sequenceNumber]? = some p)
      (mismatch : checkTriggeredMessageType p.checkInitialMsgType msg.messageType = false) :
      Effect stack (.receive msg source) stack [.discarded msg source]
  | retried (timerId indeterminate seqNum p shared) (armed : timerId ∈ stack.itti.timers)
      (entry : stack.msgOutRetryTimers[timerId]? = some seqNum)
      (pending : stack.pendingProcedures[seqNum]? = some p)
      (request : p.retryMsg = some shared) (below : p.retryCount < stack.n3) :
      Effect stack (.timeOut timerId indeterminate) (stack.afterRetry timerId seqNum p shared)
        [.sent (some shared.address) shared.msg p.remoteEndpoint]
  | aborted (timerId indeterminate seqNum p) (armed : timerId ∈ stack.itti.timers)
      (entry : stack.msgOutRetryTimers[timerId]? = some seqNum)
      (pending : stack.pendingProcedures[seqNum]? = some p)
      (exhausted : ¬p.retryCount < stack.n3) :
      Effect stack (.timeOut timerId indeterminate) (stack.afterAbort timerId seqNum)
        [.notifyUlError p]
  | retryIgnored (timerId indeterminate seqNum) (armed : timerId ∈ stack.itti.timers)
      (entry : stack.msgOutRetryTimers[timerId]? = some seqNum)
      (absent : stack.pendingProcedures[seqNum]? = none) :
      Effect stack (.timeOut timerId indeterminate) (stack.afterRetryTimer timerId) []
  | cleaned (timerId indeterminate seqNum p) (armed : timerId ∈ stack.itti.timers)
      (notRetry : stack.msgOutRetryTimers[timerId]? = none)
      (entry : stack.procCleanupTimers[timerId]? = some seqNum)
      (pending : stack.pendingProcedures[seqNum]? = some p) :
      Effect stack (.timeOut timerId indeterminate) (stack.afterCleanup timerId seqNum p) []
  | cleanedStray (timerId indeterminate seqNum) (armed : timerId ∈ stack.itti.timers)
      (notRetry : stack.msgOutRetryTimers[timerId]? = none)
      (entry : stack.procCleanupTimers[timerId]? = some seqNum)
      (absent : stack.pendingProcedures[seqNum]? = none) :
      Effect stack (.timeOut timerId indeterminate)
        (stack.afterStrayCleanup timerId indeterminate) [.endDereference timerId]
  | unhandled (timerId indeterminate) (armed : timerId ∈ stack.itti.timers)
      (notRetry : stack.msgOutRetryTimers[timerId]? = none)
      (notCleanup : stack.procCleanupTimers[timerId]? = none) :
      Effect stack (.timeOut timerId indeterminate)
        { stack with itti := stack.itti.timerRemove timerId } []
  | otherTimer : Effect stack .otherTimerSetup { stack with itti := stack.itti.timerSetup.2 } []
  | otherDrawn (gtpTxId uids) (drawn : stack.uids.getUid = some (gtpTxId, uids)) :
      Effect stack .otherGetUid { stack with uids := uids } []
  | otherFreed (uid) :
      Effect stack (.otherFreeUid uid) { stack with uids := stack.uids.freeUid uid } []

theorem startMsgRetryTimer_eq (stack : Stack Ies) (p : Procedure Ies) (seqNum : Nat) :
    stack.startMsgRetryTimer p seqNum =
      ({ stack with
          itti := stack.itti.timerSetup.2
          msgOutRetryTimers :=
            stack.msgOutRetryTimers.insertIfNew (stack.itti.timerId + 1) seqNum },
        { p with retryTimerId := stack.itti.timerId + 1 }) := by
  simp [startMsgRetryTimer, invalidTimerId]

theorem sendInitialMessage_eq (stack : Stack Ies) (kind : InitialKind) (dest : Endpoint)
    (rTeid lTeid : Nat) (ies : Ies) (gtpTxId : Nat) :
    stack.sendInitialMessage kind dest rTeid lTeid ies gtpTxId =
      (stack.afterInitial kind dest rTeid lTeid ies gtpTxId, stack.nextSequenceNumber,
        [.sent (some stack.nextAddress) (stack.initialMsg kind rTeid ies) dest]) := by
  simp [sendInitialMessage, startMsgRetryTimer_eq, startProcCleanupTimer, insertProcedure,
    afterInitial, initialProcedure, initialMsg, Msg.setSequenceNumber, nextSequenceNumber,
    invalidTimerId]

private theorem effect_of_sendTriggeredMessage (stack : Stack Ies) (kind : TriggeredKind)
    (dest : Endpoint) (rTeid : Nat) (ies : Ies) (gtpTxId : Nat) (action : TransactionAction) :
    Effect stack (.sendTriggeredMessage kind dest rTeid ies gtpTxId action)
      (stack.sendTriggeredMessage kind dest rTeid ies gtpTxId action).1
      (stack.sendTriggeredMessage kind dest rTeid ies gtpTxId action).2 := by
  unfold sendTriggeredMessage
  split
  · next unknown => exact .unanswerable _ _ _ _ _ _ unknown
  · next seqNum known =>
      cases action with
      | continueTx => exact .answered _ _ _ _ _ _ known _
      | deleteTx =>
          simp only [closeTransaction]
          split
          · next absent => exact .deletedStale _ _ _ _ _ _ known absent _
          · next p pending =>
              convert Effect.deleted kind dest rTeid ies gtpTxId seqNum p known pending _ using 1
              simp [afterDeleteTx, stopProcCleanupTimer, freeGtpcTxId]

private theorem effect_of_receive {stack next : Stack Ies} {events : List (Event Ies)}
    (msg : Msg Ies) (source : Endpoint) (taken : stack.receive msg source = some (next, events)) :
    Effect stack (.receive msg source) next events := by
  unfold receive handleReceiveMessageCb at taken
  cases pending : stack.pendingProcedures[msg.sequenceNumber]? with
  | none =>
      cases request : checkInitialMessageType msg.messageType with
      | false =>
          simp only [pending, request, Bool.false_eq_true, ↓reduceIte] at taken
          cases taken
          exact .discardedInitial _ _ pending request
      | true =>
          cases drawn : stack.uids.getUid with
          | none => simp [pending, request, drawn] at taken
          | some result =>
              obtain ⟨gtpTxId, uids⟩ := result
              simp only [pending, request, drawn, ↓reduceIte] at taken
              cases taken
              exact .opened _ _ _ _ pending request drawn
  | some p =>
      cases response : checkTriggeredMessageType p.checkInitialMsgType msg.messageType with
      | false =>
          simp only [pending, response, Bool.false_eq_true, ↓reduceIte] at taken
          cases taken
          exact .discardedTriggered _ _ _ pending response
      | true =>
          simp only [pending, response, ↓reduceIte] at taken
          cases taken
          convert Effect.closed msg source p pending response using 1
          by_cases zero : p.retryTimerId = 0 <;>
            simp [afterClosing, stopProcCleanupTimer, freeGtpcTxId, stopMsgRetryTimer,
              invalidTimerId, zero]

private theorem effect_of_timeOut {stack next : Stack Ies} {events : List (Event Ies)}
    (timerId indeterminate : Nat)
    (taken : stack.timeOut timerId indeterminate = some (next, events)) :
    Effect stack (.timeOut timerId indeterminate) next events := by
  unfold timeOut at taken
  split at taken
  case isFalse => cases taken
  case isTrue armed =>
    unfold timeOutEvent at taken
    cases retry : stack.msgOutRetryTimers[timerId]? with
    | some seqNum =>
        simp only [retry, retryTimeOut] at taken
        cases pending : stack.pendingProcedures[seqNum]? with
        | none =>
            simp only [pending] at taken
            cases taken
            exact .retryIgnored _ _ _ armed retry pending
        | some p =>
            simp only [pending] at taken
            split at taken
            · next below =>
                cases request : p.retryMsg with
                | none => simp [request] at taken
                | some shared =>
                    simp only [request, startMsgRetryTimer_eq] at taken
                    cases taken
                    have effect := Effect.retried timerId indeterminate seqNum p shared armed retry
                      pending request below
                    rwa [afterRetry, request] at effect
            · next exhausted =>
                cases taken
                exact .aborted _ _ _ _ armed retry pending exhausted
    | none =>
        cases cleanup : stack.procCleanupTimers[timerId]? with
        | none =>
            simp only [retry, cleanup] at taken
            cases taken
            exact .unhandled _ _ armed retry cleanup
        | some seqNum =>
            cases pending : stack.pendingProcedures[seqNum]? with
            | none =>
                simp only [retry, cleanup, cleanupTimeOut, pending] at taken
                cases taken
                exact .cleanedStray _ _ _ armed retry cleanup pending
            | some p =>
                simp only [retry, cleanup, cleanupTimeOut, pending] at taken
                cases taken
                exact .cleaned _ _ _ _ armed retry cleanup pending

/-- A step of the stack is one of the effects. -/
theorem effect_of_step {stack next : Stack Ies} {action : Action Ies} {events : List (Event Ies)}
    (taken : stack.step action = some (next, events)) : Effect stack action next events := by
  cases action with
  | sendInitialMessage kind dest rTeid lTeid ies gtpTxId =>
      simp only [step, sendInitialMessage_eq, Option.some.injEq, Prod.mk.injEq] at taken
      obtain ⟨rfl, rfl⟩ := taken
      exact .requested _ _ _ _ _ _
  | sendTriggeredMessage kind dest rTeid ies gtpTxId action =>
      simp only [step, Option.some.injEq] at taken
      have effect := effect_of_sendTriggeredMessage stack kind dest rTeid ies gtpTxId action
      rwa [taken] at effect
  | receive msg source => exact effect_of_receive msg source taken
  | timeOut timerId indeterminate => exact effect_of_timeOut timerId indeterminate taken
  | otherTimerSetup =>
      cases taken
      exact .otherTimer
  | otherGetUid =>
      simp only [step] at taken
      split at taken
      · cases taken
      · next gtpTxId uids drawn =>
          cases taken
          exact .otherDrawn gtpTxId uids drawn
  | otherFreeUid uid =>
      cases taken
      exact .otherFreed uid

end Stack

end OpenairSpgwc.Gtpv2c
