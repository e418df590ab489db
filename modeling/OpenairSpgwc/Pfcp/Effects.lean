import OpenairSpgwc.Pfcp.Stack

/-!
Contract: what one step of the PFCP stack can do, said once.

`Effect` lists the possible steps with their guards, the state they lead to
and their events; `effect_of_step` shows that `Stack.step` does nothing else.
Every later statement about the stack is a case analysis on `Effect`.
-/

namespace OpenairSpgwc.Pfcp

open OpenairSpgwc.Common

variable {Ies : Type}

namespace Stack

/-- The 24-bit sequence number the next `send_request` uses. -/
def nextSequenceNumber (stack : Stack Ies) : Nat := stack.getNextSeqNum % 2 ^ 24

/-- The procedure `send_request` builds, with the timers it starts. -/
def requestProcedure (stack : Stack Ies) (kind : RequestKind) (dest : Endpoint) (seid : Nat)
    (ies : Ies) (trxnId : Nat) : Procedure Ies where
  retryMsg := some ⟨stack.nextAddress, stack.requestMsg kind seid ies⟩
  remoteEndpoint := dest
  retryTimerId := stack.itti.timerId + 1
  procCleanupTimerId := stack.itti.timerId + 2
  trxnId := trxnId
  initialMsgType := kind.messageType

/-- The procedure a received request opens. -/
def peerProcedure (stack : Stack Ies) (messageType trxnId : Nat) : Procedure Ies where
  procCleanupTimerId := stack.itti.timerId + 1
  trxnId := trxnId
  initialMsgType := messageType

/-- The stack after `send_request`. -/
def afterRequest (stack : Stack Ies) (kind : RequestKind) (dest : Endpoint) (seid : Nat)
    (ies : Ies) (trxnId : Nat) : Stack Ies :=
  { stack with
    itti := stack.itti.timerSetup.2.timerSetup.2
    nextAddress := stack.nextAddress + 1
    seqNum := stack.getNextSeqNum
    msgOutRetryTimers :=
      stack.msgOutRetryTimers.insertIfNew (stack.itti.timerId + 1) stack.nextSequenceNumber
    procCleanupTimers :=
      stack.procCleanupTimers.insertIfNew (stack.itti.timerId + 2) stack.nextSequenceNumber
    pendingProcedures := stack.pendingProcedures.insertIfNew stack.nextSequenceNumber
      (stack.requestProcedure kind dest seid ies trxnId)
    trxnId2seqNum := stack.trxnId2seqNum.insertIfNew trxnId stack.nextSequenceNumber }

/-- The stack after a received request opened a transaction. -/
def afterOpening (stack : Stack Ies) (msg : Msg Ies) (trxnId : Nat) (uids : UintGenerator 64) :
    Stack Ies :=
  { stack with
    itti := stack.itti.timerSetup.2
    uids := uids
    procCleanupTimers :=
      stack.procCleanupTimers.insertIfNew (stack.itti.timerId + 1) msg.sequenceNumber
    pendingProcedures := stack.pendingProcedures.insertIfNew msg.sequenceNumber
      (stack.peerProcedure msg.messageType trxnId)
    trxnId2seqNum := stack.trxnId2seqNum.insertIfNew trxnId msg.sequenceNumber }

/-- The stack after a received message closed the transaction of `p`. -/
def afterClosing (stack : Stack Ies) (seqNum : Nat) (p : Procedure Ies) : Stack Ies :=
  { stack with
    itti := (stack.stopMsgRetryTimer p).itti.timerRemove p.procCleanupTimerId
    uids := stack.uids.freeUid p.trxnId
    msgOutRetryTimers :=
      (stack.stopMsgRetryTimer p).msgOutRetryTimers.erase p.procCleanupTimerId
    procCleanupTimers := stack.procCleanupTimers.erase p.procCleanupTimerId
    pendingProcedures := stack.pendingProcedures.erase seqNum
    trxnId2seqNum := stack.trxnId2seqNum.erase p.trxnId }

/-- The stack after `send_response` with `DELETE_TX` closed the transaction of `p`. -/
def afterDeleteTx (stack : Stack Ies) (kind : ResponseKind) (trxnId seqNum : Nat)
    (p : Procedure Ies) : Stack Ies :=
  { stack with
    itti := stack.itti.timerRemove p.procCleanupTimerId
    uids := if kind.freesTrxnId then stack.uids.freeUid trxnId else stack.uids
    msgOutRetryTimers := stack.msgOutRetryTimers.erase p.procCleanupTimerId
    procCleanupTimers := stack.procCleanupTimers.erase p.procCleanupTimerId
    pendingProcedures := stack.pendingProcedures.erase seqNum
    trxnId2seqNum := stack.trxnId2seqNum.erase trxnId }

/-- The stack after a retransmission of `p`. -/
def afterRetry (stack : Stack Ies) (timerId seqNum : Nat) (p : Procedure Ies)
    (shared : SharedMsg Ies) : Stack Ies :=
  { stack with
    itti := (stack.itti.timerRemove timerId).timerSetup.2
    msgOutRetryTimers := (stack.msgOutRetryTimers.erase timerId).insertIfNew
      (stack.itti.timerId + 1) shared.msg.sequenceNumber
    pendingProcedures := stack.pendingProcedures.insert seqNum
      { p with
        retryCount := (p.retryCount + 1) % 2 ^ 8
        retryTimerId := stack.itti.timerId + 1 } }

/-- The stack after a retransmission timer expired and nothing was sent. -/
def afterRetryTimer (stack : Stack Ies) (timerId : Nat) : Stack Ies :=
  { stack with
    itti := stack.itti.timerRemove timerId
    msgOutRetryTimers := stack.msgOutRetryTimers.erase timerId }

/-- The stack after the cleanup timer of the transaction of `p` expired. -/
def afterCleanup (stack : Stack Ies) (timerId seqNum : Nat) (p : Procedure Ies) : Stack Ies :=
  { stack with
    itti := stack.itti.timerRemove timerId
    uids := stack.uids.freeUid p.trxnId
    procCleanupTimers := stack.procCleanupTimers.erase timerId
    pendingProcedures := stack.pendingProcedures.erase seqNum
    trxnId2seqNum := stack.trxnId2seqNum.erase p.trxnId }

/-- The stack after a cleanup timer expired whose transaction is gone. -/
def afterStrayCleanup (stack : Stack Ies) (timerId indeterminate : Nat) : Stack Ies :=
  { stack with
    itti := stack.itti.timerRemove timerId
    uids := stack.uids.freeUid indeterminate
    procCleanupTimers := stack.procCleanupTimers.erase timerId
    trxnId2seqNum := stack.trxnId2seqNum.erase indeterminate }

/-! ### The effects -/

/-- `Effect stack action next events`. -/
inductive Effect (stack : Stack Ies) : Action Ies → Stack Ies → List (Event Ies) → Prop where
  | requested (kind dest seid ies trxnId) :
      Effect stack (.sendRequest kind dest seid ies trxnId)
        (stack.afterRequest kind dest seid ies trxnId)
        [.sent (some stack.nextAddress) (stack.requestMsg kind seid ies) dest]
  | unanswerable (kind dest seid ies trxnId action)
      (unknown : stack.trxnId2seqNum[trxnId]? = none) :
      Effect stack (.sendResponse kind dest seid ies trxnId action) stack []
  | answered (kind dest seid ies trxnId seqNum)
      (known : stack.trxnId2seqNum[trxnId]? = some seqNum) (msg : Msg Ies) :
      Effect stack (.sendResponse kind dest seid ies trxnId .continueTx) stack
        [.sent none msg dest]
  | deleted (kind dest seid ies trxnId seqNum p)
      (known : stack.trxnId2seqNum[trxnId]? = some seqNum)
      (pending : stack.pendingProcedures[seqNum]? = some p) (msg : Msg Ies) :
      Effect stack (.sendResponse kind dest seid ies trxnId .deleteTx)
        (stack.afterDeleteTx kind trxnId seqNum p) [.sent none msg dest]
  | deletedStale (kind dest seid ies trxnId seqNum)
      (known : stack.trxnId2seqNum[trxnId]? = some seqNum)
      (absent : stack.pendingProcedures[seqNum]? = none) (msg : Msg Ies) :
      Effect stack (.sendResponse kind dest seid ies trxnId .deleteTx)
        { stack with trxnId2seqNum := stack.trxnId2seqNum.erase trxnId } [.sent none msg dest]
  | opened (msg source trxnId uids)
      (absent : stack.pendingProcedures[msg.sequenceNumber]? = none)
      (request : checkRequestType msg.messageType = true)
      (drawn : stack.uids.getUid = some (trxnId, uids)) :
      Effect stack (.receive msg source) (stack.afterOpening msg trxnId uids)
        [.delivered msg source trxnId none]
  | closed (msg source p)
      (pending : stack.pendingProcedures[msg.sequenceNumber]? = some p)
      (response : checkResponseType p.checkInitialMsgType msg.messageType = true) :
      Effect stack (.receive msg source) (stack.afterClosing msg.sequenceNumber p)
        [.delivered msg source p.trxnId (some p)]
  | discardedInitial (msg source)
      (absent : stack.pendingProcedures[msg.sequenceNumber]? = none)
      (mismatch : checkRequestType msg.messageType = false) :
      Effect stack (.receive msg source) stack [.discarded msg source]
  | discardedTriggered (msg source p)
      (pending : stack.pendingProcedures[msg.sequenceNumber]? = some p)
      (mismatch : checkResponseType p.checkInitialMsgType msg.messageType = false) :
      Effect stack (.receive msg source) stack [.discarded msg source]
  | retried (timerId indeterminate seqNum p shared) (armed : timerId ∈ stack.itti.timers)
      (entry : stack.msgOutRetryTimers[timerId]? = some seqNum)
      (pending : stack.pendingProcedures[seqNum]? = some p)
      (request : p.retryMsg = some shared) (below : p.retryCount < stack.n1) :
      Effect stack (.timeOut timerId indeterminate) (stack.afterRetry timerId seqNum p shared)
        [.sent (some shared.address) shared.msg p.remoteEndpoint]
  | aborted (timerId indeterminate seqNum p shared) (armed : timerId ∈ stack.itti.timers)
      (entry : stack.msgOutRetryTimers[timerId]? = some seqNum)
      (pending : stack.pendingProcedures[seqNum]? = some p)
      (request : p.retryMsg = some shared) (exhausted : ¬p.retryCount < stack.n1) :
      Effect stack (.timeOut timerId indeterminate) (stack.afterRetryTimer timerId)
        [.notifyUlError p]
  | retryIgnored (timerId indeterminate seqNum) (armed : timerId ∈ stack.itti.timers)
      (entry : stack.msgOutRetryTimers[timerId]? = some seqNum)
      (absent : stack.pendingProcedures[seqNum]? = none) :
      Effect stack (.timeOut timerId indeterminate) (stack.afterRetryTimer timerId) []
  | cleaned (timerId indeterminate seqNum p) (armed : timerId ∈ stack.itti.timers)
      (notRetry : stack.msgOutRetryTimers[timerId]? = none)
      (entry : stack.procCleanupTimers[timerId]? = some seqNum)
      (pending : stack.pendingProcedures[seqNum]? = some p) :
      Effect stack (.timeOut timerId indeterminate) (stack.afterCleanup timerId seqNum p) []
  | cleanedStray (timerId indeterminate seqNum) (armed : timerId ∈ stack.itti.timers)
      (notRetry : stack.msgOutRetryTimers[timerId]? = none)
      (entry : stack.procCleanupTimers[timerId]? = some seqNum)
      (absent : stack.pendingProcedures[seqNum]? = none) :
      Effect stack (.timeOut timerId indeterminate)
        (stack.afterStrayCleanup timerId indeterminate) [.endDereference timerId]
  | unhandled (timerId indeterminate) (armed : timerId ∈ stack.itti.timers)
      (notRetry : stack.msgOutRetryTimers[timerId]? = none)
      (notCleanup : stack.procCleanupTimers[timerId]? = none) :
      Effect stack (.timeOut timerId indeterminate)
        { stack with itti := stack.itti.timerRemove timerId } []
  | otherTimer : Effect stack .otherTimerSetup { stack with itti := stack.itti.timerSetup.2 } []
  | otherDrawn (trxnId uids) (drawn : stack.uids.getUid = some (trxnId, uids)) :
      Effect stack .otherGetUid { stack with uids := uids } []
  | otherFreed (uid) :
      Effect stack (.otherFreeUid uid) { stack with uids := stack.uids.freeUid uid } []

theorem startMsgRetryTimer_eq (stack : Stack Ies) (p : Procedure Ies) (seqNum : Nat) :
    stack.startMsgRetryTimer p seqNum =
      ({ stack with
          itti := stack.itti.timerSetup.2
          msgOutRetryTimers :=
            stack.msgOutRetryTimers.insertIfNew (stack.itti.timerId + 1) seqNum },
        { p with retryTimerId := stack.itti.timerId + 1 }) := by
  simp [startMsgRetryTimer, invalidTimerId]

theorem sendRequest_eq (stack : Stack Ies) (kind : RequestKind) (dest : Endpoint) (seid : Nat)
    (ies : Ies) (trxnId : Nat) :
    stack.sendRequest kind dest seid ies trxnId =
      (stack.afterRequest kind dest seid ies trxnId, stack.nextSequenceNumber,
        [.sent (some stack.nextAddress) (stack.requestMsg kind seid ies) dest]) := by
  simp [sendRequest, startMsgRetryTimer_eq, startProcCleanupTimer, insertProcedure, afterRequest,
    requestProcedure, requestMsg, Msg.setSequenceNumber, nextSequenceNumber]

private theorem effect_of_sendResponse (stack : Stack Ies) (kind : ResponseKind) (dest : Endpoint)
    (seid : Nat) (ies : Ies) (trxnId : Nat) (action : TransactionAction) :
    Effect stack (.sendResponse kind dest seid ies trxnId action)
      (stack.sendResponse kind dest seid ies trxnId action).1
      (stack.sendResponse kind dest seid ies trxnId action).2 := by
  unfold sendResponse
  split
  · next unknown => exact .unanswerable _ _ _ _ _ _ unknown
  · next seqNum known =>
      cases action with
      | continueTx => exact .answered _ _ _ _ _ _ known _
      | deleteTx =>
          simp only [closeTransaction]
          split
          · next absent => exact .deletedStale _ _ _ _ _ _ known absent _
          · next p pending =>
              convert Effect.deleted kind dest seid ies trxnId seqNum p known pending _ using 1
              cases kind <;>
                simp [afterDeleteTx, stopProcCleanupTimer, freeTrxnId, ResponseKind.freesTrxnId]

private theorem effect_of_receive {stack next : Stack Ies} {events : List (Event Ies)}
    (msg : Msg Ies) (source : Endpoint) (taken : stack.receive msg source = some (next, events)) :
    Effect stack (.receive msg source) next events := by
  unfold receive handleReceiveMessageCb at taken
  cases pending : stack.pendingProcedures[msg.sequenceNumber]? with
  | none =>
      cases request : checkRequestType msg.messageType with
      | false =>
          simp only [pending, request, Bool.false_eq_true, ↓reduceIte] at taken
          cases taken
          exact .discardedInitial _ _ pending request
      | true =>
          cases drawn : stack.uids.getUid with
          | none => simp [pending, request, drawn] at taken
          | some result =>
              obtain ⟨trxnId, uids⟩ := result
              simp only [pending, request, drawn, ↓reduceIte] at taken
              cases taken
              exact .opened _ _ _ _ pending request drawn
  | some p =>
      cases response : checkResponseType p.checkInitialMsgType msg.messageType with
      | false =>
          simp only [pending, response, Bool.false_eq_true, ↓reduceIte] at taken
          cases taken
          exact .discardedTriggered _ _ _ pending response
      | true =>
          simp only [pending, response, ↓reduceIte] at taken
          cases taken
          convert Effect.closed msg source p pending response using 1
          by_cases zero : p.retryTimerId = 0 <;>
            simp [afterClosing, stopProcCleanupTimer, freeTrxnId, stopMsgRetryTimer,
              invalidTimerId, zero]

private theorem effect_of_timeOut {stack next : Stack Ies} {events : List (Event Ies)}
    (timerId indeterminate : Nat)
    (taken : stack.timeOut timerId indeterminate = some (next, events)) :
    Effect stack (.timeOut timerId indeterminate) next events := by
  unfold timeOut at taken
  split at taken
  case isFalse => cases taken
  case isTrue armed =>
    unfold timeOutEvent at taken
    cases retry : stack.msgOutRetryTimers[timerId]? with
    | some seqNum =>
        simp only [retry, retryTimeOut] at taken
        cases pending : stack.pendingProcedures[seqNum]? with
        | none =>
            simp only [pending] at taken
            cases taken
            exact .retryIgnored _ _ _ armed retry pending
        | some p =>
            cases request : p.retryMsg with
            | none => simp [pending, request] at taken
            | some shared =>
                simp only [pending, request] at taken
                split at taken
                · next below =>
                    simp only [startMsgRetryTimer_eq] at taken
                    cases taken
                    have effect := Effect.retried timerId indeterminate seqNum p shared armed retry
                      pending request below
                    rwa [afterRetry, request] at effect
                · next exhausted =>
                    cases taken
                    exact .aborted _ _ _ _ _ armed retry pending request exhausted
    | none =>
        cases cleanup : stack.procCleanupTimers[timerId]? with
        | none =>
            simp only [retry, cleanup] at taken
            cases taken
            exact .unhandled _ _ armed retry cleanup
        | some seqNum =>
            cases pending : stack.pendingProcedures[seqNum]? with
            | none =>
                simp only [retry, cleanup, cleanupTimeOut, pending] at taken
                cases taken
                exact .cleanedStray _ _ _ armed retry cleanup pending
            | some p =>
                simp only [retry, cleanup, cleanupTimeOut, pending] at taken
                cases taken
                exact .cleaned _ _ _ _ armed retry cleanup pending

/-- A step of the stack is one of the effects. -/
theorem effect_of_step {stack next : Stack Ies} {action : Action Ies} {events : List (Event Ies)}
    (taken : stack.step action = some (next, events)) : Effect stack action next events := by
  cases action with
  | sendRequest kind dest seid ies trxnId =>
      simp only [step, sendRequest_eq, Option.some.injEq, Prod.mk.injEq] at taken
      obtain ⟨rfl, rfl⟩ := taken
      exact .requested _ _ _ _ _
  | sendResponse kind dest seid ies trxnId action =>
      simp only [step, Option.some.injEq] at taken
      have effect := effect_of_sendResponse stack kind dest seid ies trxnId action
      rwa [taken] at effect
  | receive msg source => exact effect_of_receive msg source taken
  | timeOut timerId indeterminate => exact effect_of_timeOut timerId indeterminate taken
  | otherTimerSetup =>
      cases taken
      exact .otherTimer
  | otherGetUid =>
      simp only [step] at taken
      split at taken
      · cases taken
      · next trxnId uids drawn =>
          cases taken
          exact .otherDrawn trxnId uids drawn
  | otherFreeUid uid =>
      cases taken
      exact .otherFreed uid

/-! ### One sequence number -/

/-- `Slot stack seqNum action events before after`: what a step can do to the
entry of `pending_procedures` under one sequence number. -/
inductive Slot (stack : Stack Ies) (seqNum : Nat) :
    Action Ies → List (Event Ies) → Option (Procedure Ies) → Option (Procedure Ies) → Prop where
  | kept (action events slot) : Slot stack seqNum action events slot slot
  | requested (kind dest seid ies trxnId) (number : stack.nextSequenceNumber = seqNum) :
      Slot stack seqNum (.sendRequest kind dest seid ies trxnId)
        [.sent (some stack.nextAddress) (stack.requestMsg kind seid ies) dest]
        none (some (stack.requestProcedure kind dest seid ies trxnId))
  | opened (msg source trxnId) (number : msg.sequenceNumber = seqNum) :
      Slot stack seqNum (.receive msg source) [.delivered msg source trxnId none]
        none (some (stack.peerProcedure msg.messageType trxnId))
  | retried (timerId indeterminate p shared)
      (entry : stack.msgOutRetryTimers[timerId]? = some seqNum)
      (request : p.retryMsg = some shared) (below : p.retryCount < stack.n1) :
      Slot stack seqNum (.timeOut timerId indeterminate)
        [.sent (some shared.address) shared.msg p.remoteEndpoint]
        (some p) (some { p with
          retryCount := (p.retryCount + 1) % 2 ^ 8
          retryTimerId := stack.itti.timerId + 1 })
  | removed (action events p) : Slot stack seqNum action events (some p) none

/-- Removing one number keeps the entries under all others. -/
private theorem slot_erase {stack next : Stack Ies} {action : Action Ies}
    {events : List (Event Ies)} {removed : Nat} {p : Procedure Ies}
    (pending : stack.pendingProcedures[removed]? = some p)
    (erased : next.pendingProcedures = stack.pendingProcedures.erase removed) (seqNum : Nat) :
    Slot stack seqNum action events stack.pendingProcedures[seqNum]?
      next.pendingProcedures[seqNum]? := by
  rw [erased]
  by_cases same : removed = seqNum
  · subst same
    rw [pending, Std.ExtTreeMap.getElem?_erase_self]
    exact .removed _ _ _
  · rw [Std.ExtTreeMap.getElem?_erase, if_neg (by simpa using same)]
    exact .kept _ _ _

theorem slot_of_step {stack next : Stack Ies} {action : Action Ies} {events : List (Event Ies)}
    (taken : stack.step action = some (next, events)) (seqNum : Nat) :
    Slot stack seqNum action events stack.pendingProcedures[seqNum]?
      next.pendingProcedures[seqNum]? := by
  cases effect_of_step taken with
  | requested kind dest seid ies trxnId =>
      simp only [afterRequest, Std.ExtTreeMap.getElem?_insertIfNew]
      split
      · next fresh =>
          obtain ⟨same, absent⟩ := fresh
          obtain rfl := Nat.compare_eq_eq.mp same
          rw [getElem?_neg _ _ absent]
          exact .requested _ _ _ _ _ rfl
      · exact .kept _ _ _
  | opened msg source trxnId uids absent request drawn =>
      simp only [afterOpening, Std.ExtTreeMap.getElem?_insertIfNew]
      split
      · next fresh =>
          obtain rfl := Nat.compare_eq_eq.mp fresh.1
          rw [absent]
          exact .opened _ _ _ rfl
      · exact .kept _ _ _
  | closed msg source p pending response => exact slot_erase pending rfl seqNum
  | deleted kind dest seid ies trxnId number p known pending msg =>
      exact slot_erase pending rfl seqNum
  | cleaned timerId indeterminate number p armed notRetry entry pending =>
      exact slot_erase pending rfl seqNum
  | retried timerId indeterminate number p shared armed entry pending request below =>
      simp only [afterRetry, Std.ExtTreeMap.getElem?_insert]
      split
      · next same =>
          obtain rfl := Nat.compare_eq_eq.mp same
          rw [pending]
          exact .retried _ _ _ _ entry request below
      · exact .kept _ _ _
  | _ => exact .kept _ _ _

end Stack

end OpenairSpgwc.Pfcp
