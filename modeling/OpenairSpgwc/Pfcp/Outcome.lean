import OpenairSpgwc.Pfcp.Consistency
import OpenairSpgwc.Pfcp.Delivery

/-!
Contract: the outcome of a PFCP request.

When the retransmissions of a request are used up, `time_out_event` notifies
the upper layer and leaves the procedure pending until its cleanup timer
expires. A request is still awaited while its retransmission timer is known to
the stack; an answer that arrives later is a second outcome.

Owns:
- `RetryLinked`, how retransmission timers and procedures refer to each other;
- `awaiting`, the requests without an outcome so far, as slots of the abstract
  request table;
- `one_outcome_iff` along every run.
-/

namespace OpenairSpgwc.Pfcp

open OpenairSpgwc.Common
open OpenairSpgwc.Foundation

variable {Ies : Type}

namespace Stack

/-- The number the next request takes is used by no request of ours, and by no
retransmission timer left over from one. -/
def MeetsFreshNumber (stack : Stack Ies) : Action Ies → Prop
  | .sendRequest .. =>
      (∀ p, stack.pendingProcedures[stack.nextSequenceNumber]? = some p → p.retryMsg = none) ∧
        ∀ timerId : Nat, stack.msgOutRetryTimers[timerId]? ≠ some stack.nextSequenceNumber
  | _ => True

/-- A retransmission timer and the procedure it was started for know each other. -/
structure RetryLinked (stack : Stack Ies) : Prop where
  number : ∀ (seqNum : Nat) (p : Procedure Ies) (shared : SharedMsg Ies),
    stack.pendingProcedures[seqNum]? = some p → p.retryMsg = some shared →
    shared.msg.sequenceNumber = seqNum
  timer : ∀ (timerId seqNum : Nat) (p : Procedure Ies),
    stack.msgOutRetryTimers[timerId]? = some seqNum →
    stack.pendingProcedures[seqNum]? = some p → p.retryMsg ≠ none → p.retryTimerId = timerId
  owner : ∀ (timerId seqNum other : Nat) (p : Procedure Ies),
    stack.msgOutRetryTimers[timerId]? = some seqNum →
    stack.pendingProcedures[other]? = some p → p.retryMsg ≠ none → p.retryTimerId = timerId →
    other = seqNum
  foreign : ∀ (seqNum : Nat) (p : Procedure Ies), stack.pendingProcedures[seqNum]? = some p →
    p.retryMsg = none → p.retryTimerId = invalidTimerId
  cleanup : ∀ (seqNum : Nat) (p : Procedure Ies), stack.pendingProcedures[seqNum]? = some p →
    stack.msgOutRetryTimers[p.procCleanupTimerId]? = none ∧
      p.procCleanupTimerId ≤ stack.itti.timerId

theorem retryLinked_init (n1 nanoseconds : Nat) :
    RetryLinked (Stack.init Ies n1 nanoseconds) := by
  constructor <;> simp [Stack.init]

/-- Steps that only forget procedures and timers. -/
theorem RetryLinked.mono {stack next : Stack Ies} (linked : stack.RetryLinked)
    (pending : ∀ (seqNum : Nat) (p : Procedure Ies), next.pendingProcedures[seqNum]? = some p →
      stack.pendingProcedures[seqNum]? = some p)
    (retry : ∀ timerId seqNum : Nat, next.msgOutRetryTimers[timerId]? = some seqNum →
      stack.msgOutRetryTimers[timerId]? = some seqNum)
    (later : stack.itti.timerId ≤ next.itti.timerId) : next.RetryLinked where
  number := fun _ _ _ found => linked.number _ _ _ (pending _ _ found)
  timer := fun _ _ _ entry found => linked.timer _ _ _ (retry _ _ entry) (pending _ _ found)
  owner := fun _ _ _ _ entry found => linked.owner _ _ _ _ (retry _ _ entry) (pending _ _ found)
  foreign := fun _ _ found => linked.foreign _ _ (pending _ _ found)
  cleanup := by
    intro seqNum p found
    obtain ⟨absent, issued⟩ := linked.cleanup seqNum p (pending _ _ found)
    refine ⟨Option.eq_none_iff_forall_ne_some.mpr fun number entry => ?_, issued.trans later⟩
    exact absurd (retry _ _ entry) (by simp [absent])

theorem RetryLinked.afterRequest {stack : Stack Ies} (separate : stack.TimersSeparate)
    (linked : stack.RetryLinked) (kind : RequestKind) (dest : Endpoint) (seid : Nat) (ies : Ies)
    (trxnId : Nat)
    (fresh : stack.MeetsFreshNumber (.sendRequest kind dest seid ies trxnId)) :
    (stack.afterRequest kind dest seid ies trxnId).RetryLinked := by
  obtain ⟨noOwn, noTimer⟩ := fresh
  have numbered : (stack.requestMsg kind seid ies).sequenceNumber =
      stack.nextSequenceNumber := rfl
  have retryIssued := separate.retryIssued
  have pendingRetry := separate.pendingRetry
  constructor
  · have number := linked.number
    simp only [Stack.afterRequest, requestProcedure]
    grind
  · have timer := linked.timer
    simp only [Stack.afterRequest, requestProcedure]
    grind
  · have owner := linked.owner
    simp only [Stack.afterRequest, requestProcedure]
    grind
  · have foreign := linked.foreign
    simp only [Stack.afterRequest, requestProcedure]
    grind
  · have cleanup := linked.cleanup
    simp only [Stack.afterRequest, requestProcedure, Itti.timerSetup_timerId]
    grind

theorem RetryLinked.afterRetry {stack : Stack Ies} (separate : stack.TimersSeparate)
    (linked : stack.RetryLinked) {timerId seqNum : Nat} {p : Procedure Ies}
    {shared : SharedMsg Ies} (entry : stack.msgOutRetryTimers[timerId]? = some seqNum)
    (pending : stack.pendingProcedures[seqNum]? = some p) (request : p.retryMsg = some shared) :
    (stack.afterRetry timerId seqNum p shared).RetryLinked := by
  have numbered := linked.number seqNum p shared pending request
  have retryIssued := separate.retryIssued
  have pendingRetry := separate.pendingRetry
  constructor
  · have number := linked.number
    simp only [Stack.afterRetry]
    grind
  · have timer := linked.timer
    simp only [Stack.afterRetry]
    grind
  · have owner := linked.owner
    simp only [Stack.afterRetry]
    grind
  · have foreign := linked.foreign
    simp only [Stack.afterRetry]
    grind
  · have cleanup := linked.cleanup
    simp only [Stack.afterRetry, Itti.timerSetup_timerId, Itti.timerRemove_timerId]
    grind

theorem RetryLinked.afterOpening {stack : Stack Ies} (separate : stack.TimersSeparate)
    (linked : stack.RetryLinked) (msg : Msg Ies) (trxnId : Nat) (uids : UintGenerator 64) :
    (stack.afterOpening msg trxnId uids).RetryLinked := by
  have retryIssued := separate.retryIssued
  constructor
  · have number := linked.number
    simp only [Stack.afterOpening, peerProcedure]
    grind
  · have timer := linked.timer
    simp only [Stack.afterOpening, peerProcedure]
    grind
  · have owner := linked.owner
    simp only [Stack.afterOpening, peerProcedure]
    grind
  · have foreign := linked.foreign
    simp only [Stack.afterOpening, peerProcedure]
    grind [invalidTimerId]
  · have cleanup := linked.cleanup
    simp only [Stack.afterOpening, peerProcedure, Itti.timerSetup_timerId]
    grind

theorem RetryLinked.step {stack next : Stack Ies} {action : Action Ies}
    {events : List (Event Ies)} (separate : stack.TimersSeparate) (linked : stack.RetryLinked)
    (fresh : stack.MeetsFreshNumber action)
    (taken : stack.step action = some (next, events)) : next.RetryLinked := by
  cases effect_of_step taken with
  | requested kind dest seid ies trxnId =>
      exact linked.afterRequest separate kind dest seid ies trxnId fresh
  | opened msg source trxnId uids => exact linked.afterOpening separate msg trxnId uids
  | retried timerId indeterminate seqNum p shared armed entry pending request below =>
      exact linked.afterRetry separate entry pending request
  | closed msg source p pending response =>
      refine linked.mono (fun _ _ => getElem?_of_erase) (fun timerId seqNum found => ?_) ?_
      · have silenced := getElem?_of_erase found
        unfold stopMsgRetryTimer at silenced
        split at silenced
        · exact getElem?_of_erase silenced
        · exact silenced
      · simp only [afterClosing, stopMsgRetryTimer]
        split <;> exact le_rfl
  | deleted =>
      exact linked.mono (fun _ _ => getElem?_of_erase) (fun _ _ => getElem?_of_erase) le_rfl
  | aborted | retryIgnored =>
      exact linked.mono (fun _ _ => id) (fun _ _ => getElem?_of_erase) le_rfl
  | cleaned => exact linked.mono (fun _ _ => getElem?_of_erase) (fun _ _ => id) le_rfl
  | otherTimer => exact linked.mono (fun _ _ => id) (fun _ _ => id) (Nat.le_succ _)
  | _ => exact linked.mono (fun _ _ => id) (fun _ _ => id) le_rfl

/-! ### Requests without an outcome -/

end Stack

/-- The request a procedure was opened for. -/
def Procedure.request (p : Procedure Ies) : Option Nat := p.retryMsg.map SharedMsg.address

/-- The event tells the upper layer that nobody answered this request. -/
def Event.notifies (address : Nat) : Event Ies → Bool
  | .notifyUlError p => p.request == some address
  | _ => false

/-- The event delivers the answer to this request. -/
def Event.answers (address : Nat) : Event Ies → Bool
  | .delivered _ _ _ (some p) => p.request == some address
  | _ => false

namespace Stack

/-- The slots of requests that wait for an outcome. -/
def awaiting (stack : Stack Ies) (seqNum : Nat) : Option (Nat × Nat) :=
  stack.pendingProcedures[seqNum]?.bind fun p =>
    if p.retryTimerId ∈ stack.msgOutRetryTimers then p.request.map fun address => (address, 0)
    else none

/-- An answer closes a request of ours while its retransmission timer is known. -/
def MeetsAwaited (stack : Stack Ies) : Action Ies → Prop
  | .receive msg _ => ∀ p, stack.pendingProcedures[msg.sequenceNumber]? = some p →
      p.retryMsg ≠ none → checkResponseType p.checkInitialMsgType msg.messageType = true →
      p.retryTimerId ∈ stack.msgOutRetryTimers
  | _ => True

/-- Only one number is touched, and the timers of the other requests stay. -/
theorem awaiting_eq_update (stack next : Stack Ies) (seqNum : Nat)
    (others : ∀ key, key ≠ seqNum →
      next.pendingProcedures[key]? = stack.pendingProcedures[key]?)
    (timers : ∀ (key : Nat) (q : Procedure Ies), key ≠ seqNum →
      stack.pendingProcedures[key]? = some q → q.retryMsg ≠ none →
      (q.retryTimerId ∈ next.msgOutRetryTimers ↔ q.retryTimerId ∈ stack.msgOutRetryTimers)) :
    next.awaiting = Function.update stack.awaiting seqNum (next.awaiting seqNum) := by
  funext key
  by_cases same : key = seqNum
  · rw [same, Function.update_self]
  · rw [Function.update_of_ne same, awaiting, awaiting, others key same]
    cases pending : stack.pendingProcedures[key]? with
    | none => rfl
    | some q =>
        by_cases own : q.retryMsg = none
        · simp [Procedure.request, own]
        · simp only [Option.bind_some, timers key q same pending own]

/-- The timer of a request is no other's. -/
theorem RetryLinked.timer_ne {stack : Stack Ies} (linked : stack.RetryLinked) {seqNum other : Nat}
    {timerId : Nat} {q : Procedure Ies}
    (entry : stack.msgOutRetryTimers[timerId]? = some seqNum) (different : other ≠ seqNum)
    (pending : stack.pendingProcedures[other]? = some q) (own : q.retryMsg ≠ none) :
    q.retryTimerId ≠ timerId :=
  fun same => different (linked.owner timerId seqNum other q entry pending own same)

/-- The expiry of a retransmission timer concerns the request it was started for. -/
theorem RetryLinked.awaiting_afterRetryTimer {stack : Stack Ies} (linked : stack.RetryLinked)
    {timerId seqNum : Nat} (entry : stack.msgOutRetryTimers[timerId]? = some seqNum) :
    (stack.afterRetryTimer timerId).awaiting = Function.update stack.awaiting seqNum
      ((stack.afterRetryTimer timerId).awaiting seqNum) := by
  refine awaiting_eq_update _ _ seqNum (fun _ _ => rfl) fun key q different found own => ?_
  have other := linked.timer_ne entry different found own
  simp only [afterRetryTimer]
  grind

/-- Closing a transaction keeps the timers of the other requests. -/
theorem RetryLinked.timers_afterClosing {stack : Stack Ies} (linked : stack.RetryLinked)
    {seqNum : Nat} {p : Procedure Ies} (pending : stack.pendingProcedures[seqNum]? = some p)
    (key : Nat) (q : Procedure Ies) (different : key ≠ seqNum)
    (found : stack.pendingProcedures[key]? = some q) (own : q.retryMsg ≠ none) :
    q.retryTimerId ∈ (stack.afterClosing seqNum p).msgOutRetryTimers ↔
      q.retryTimerId ∈ stack.msgOutRetryTimers := by
  have spared := (linked.cleanup _ p pending).1
  have foreign := linked.foreign _ p pending
  -- The timer stopped is `p`'s own; were it also `q`'s, both would be under one number.
  have other : p.retryTimerId ≠ invalidTimerId → q.retryTimerId ∈ stack.msgOutRetryTimers →
      q.retryTimerId ≠ p.retryTimerId := by
    intro started member same
    have requested : p.retryMsg ≠ none := fun absent => started (foreign absent)
    obtain ⟨number, entry⟩ := exists_of_mem member
    have numberOfQ := linked.owner _ _ _ q entry found own rfl
    have numberOfP := linked.owner _ _ _ p entry pending requested same.symm
    exact different (numberOfQ.trans numberOfP.symm)
  simp only [afterClosing, stopMsgRetryTimer]
  grind

/-- The events that end the wait for an answer. -/
def isOutcome (address : Nat) (event : Event Ies) : Bool :=
  event.notifies address || event.answers address

/-- Every step is a move in the life of the request with this address. -/
theorem awaiting_step {stack next : Stack Ies} {action : Action Ies} {events : List (Event Ies)}
    (separate : stack.TimersSeparate) (linked : stack.RetryLinked)
    (fresh : stack.MeetsFreshNumber action) (inTime : stack.MeetsAwaited action)
    (taken : stack.step action = some (next, events)) {address : Nat} {stage : Stage}
    (located : AtStage stack.awaiting stack.nextAddress address stage) :
    ∃ stage', AtStage next.awaiting next.nextAddress address stage' ∧
      Move 0 stage 0 (events.countP (isOutcome address)) stage' := by
  have retryIssued := separate.retryIssued
  have pendingRetry := separate.pendingRetry
  cases effect_of_step taken with
  | requested kind dest seid ies trxnId =>
      have update := awaiting_eq_update stack
        (stack.afterRequest kind dest seid ies trxnId) stack.nextSequenceNumber
        (by simp only [afterRequest]; grind) (by simp only [afterRequest]; grind)
      rw [update]
      cases slot : stack.pendingProcedures[stack.nextSequenceNumber]? with
      | none =>
          have entry : (stack.afterRequest kind dest seid ies trxnId).awaiting
              stack.nextSequenceNumber = some (stack.nextAddress, 0) := by
            simp [awaiting, afterRequest, insertIfNew_of_absent slot, requestProcedure,
              Procedure.request]
          rw [entry]
          exact located.issue (by simp [awaiting, slot]) (Nat.zero_le _)
      | some p =>
          have entry : (stack.afterRequest kind dest seid ies trxnId).awaiting
              stack.nextSequenceNumber = stack.awaiting stack.nextSequenceNumber := by
            have foreign := fresh.1 p slot
            simp [awaiting, afterRequest, insertIfNew_of_present slot, slot, Procedure.request,
              foreign]
          rw [entry, Function.update_eq_self]
          exact located.issueUntracked (Nat.zero_le _)
  | opened msg source trxnId uids absent request drawn =>
      have update := awaiting_eq_update stack
        (stack.afterOpening msg trxnId uids) msg.sequenceNumber
        (by simp only [afterOpening]; grind) (by simp [afterOpening])
      rw [update]
      exact ⟨stage, located.update Iff.rfl (by simp [awaiting, absent])
        (by simp [awaiting, afterOpening, insertIfNew_of_absent absent, peerProcedure,
          Procedure.request]), .idle stage⟩
  | closed msg source p pending response =>
      have spared := (linked.cleanup _ p pending).1
      have update := awaiting_eq_update stack
        (stack.afterClosing msg.sequenceNumber p) msg.sequenceNumber
        (by simp only [afterClosing]; grind) (linked.timers_afterClosing pending)
      rw [update, show (stack.afterClosing msg.sequenceNumber p).awaiting msg.sequenceNumber = none
        by simp [awaiting, afterClosing]]
      refine located.drop ?_
      by_cases own : p.retryMsg = none
      · simp [isOutcome, Event.notifies, Event.answers, Procedure.request, own]
      · have known := inTime p pending own response
        simp [List.countP_singleton, isOutcome, Event.notifies, Event.answers, awaiting, pending,
          known]
  | deleted kind dest seid ies trxnId seqNum p known pending msg =>
      have spared := linked.cleanup seqNum p pending
      have update := awaiting_eq_update stack
        (stack.afterDeleteTx kind trxnId seqNum p) seqNum
        (by simp only [afterDeleteTx]; grind) (by simp only [afterDeleteTx]; grind)
      rw [update, show (stack.afterDeleteTx kind trxnId seqNum p).awaiting seqNum = none by
        simp [awaiting, afterDeleteTx]]
      exact located.drop (by simp [isOutcome, Event.notifies, Event.answers])
  | retried timerId indeterminate seqNum p shared armed entry pending request below =>
      have own : p.retryMsg ≠ none := by simp [request]
      have timer := linked.timer timerId seqNum p entry pending own
      have update := awaiting_eq_update stack
        (stack.afterRetry timerId seqNum p shared) seqNum
        (by simp only [afterRetry]; grind) (by
          intro key q different found own
          have other := linked.timer_ne entry different found own
          have old := (pendingRetry key q found).1
          simp only [afterRetry]
          grind)
      have entry' : (stack.afterRetry timerId seqNum p shared).awaiting seqNum =
          stack.awaiting seqNum := by
        have known : timerId ∈ stack.msgOutRetryTimers := by grind
        simp [awaiting, afterRetry, pending, timer, known, Procedure.request]
      rw [update, entry', Function.update_eq_self]
      exact ⟨stage, located, .idle stage⟩
  | aborted timerId indeterminate seqNum p shared armed entry pending request exhausted =>
      have own : p.retryMsg ≠ none := by simp [request]
      have timer := linked.timer timerId seqNum p entry pending own
      have known : timerId ∈ stack.msgOutRetryTimers := by grind
      rw [linked.awaiting_afterRetryTimer entry,
        show (stack.afterRetryTimer timerId).awaiting seqNum = none by
          simp [awaiting, afterRetryTimer, pending, timer]]
      refine located.drop ?_
      simp [List.countP_singleton, isOutcome, Event.notifies, Event.answers, awaiting, pending,
        timer, known]
  | retryIgnored timerId indeterminate seqNum armed entry absent =>
      have same : (stack.afterRetryTimer timerId).awaiting seqNum = stack.awaiting seqNum := by
        simp [awaiting, afterRetryTimer, absent]
      rw [linked.awaiting_afterRetryTimer entry, same, Function.update_eq_self]
      exact ⟨stage, located, .idle stage⟩
  | cleaned timerId indeterminate seqNum p armed notRetry entry pending =>
      have update := awaiting_eq_update stack
        (stack.afterCleanup timerId seqNum p) seqNum
        (by simp only [afterCleanup]; grind) (by simp [afterCleanup])
      rw [update, show (stack.afterCleanup timerId seqNum p).awaiting seqNum = none by
        simp [awaiting, afterCleanup]]
      exact located.drop (by simp)
  | _ => exact ⟨stage, located, .idle stage⟩

/-- Under a pending request without a timer the error has been notified. -/
def Explained (past : List (Event Ies)) (stack : Stack Ies) : Prop :=
  ∀ (seqNum : Nat) (p : Procedure Ies) (address : Nat),
    stack.pendingProcedures[seqNum]? = some p → p.request = some address →
    stack.msgOutRetryTimers[p.retryTimerId]? = none →
    ∃ event ∈ past, Event.notifies address event = true

/-- A step that adds no procedure and forgets no timer of one that stays. -/
theorem Explained.mono {stack next : Stack Ies} {past : List (Event Ies)}
    (explained : Explained past stack) (events : List (Event Ies))
    (pending : ∀ (seqNum : Nat) (p : Procedure Ies), next.pendingProcedures[seqNum]? = some p →
      stack.pendingProcedures[seqNum]? = some p)
    (timers : ∀ (seqNum : Nat) (p : Procedure Ies), next.pendingProcedures[seqNum]? = some p →
      p.retryMsg ≠ none → p.retryTimerId ∈ stack.msgOutRetryTimers →
      p.retryTimerId ∈ next.msgOutRetryTimers) :
    Explained (past ++ events) next := by
  intro seqNum p address found request absent
  have own : p.retryMsg ≠ none := by
    intro none
    simp [Procedure.request, none] at request
  have kept := timers seqNum p found own
  obtain ⟨event, member, notifies⟩ :=
    explained seqNum p address (pending _ _ found) request (by grind)
  exact ⟨event, List.mem_append_left _ member, notifies⟩

theorem Explained.step {stack next : Stack Ies} {action : Action Ies}
    {past events : List (Event Ies)} (separate : stack.TimersSeparate)
    (linked : stack.RetryLinked) (explained : Explained past stack)
    (taken : stack.step action = some (next, events)) : Explained (past ++ events) next := by
  cases effect_of_step taken with
  | requested kind dest seid ies trxnId =>
      intro seqNum p address found request absent
      have old := separate.pendingRetry seqNum p
      obtain ⟨event, member, notifies⟩ := explained seqNum p address (by
          simp only [afterRequest, requestProcedure] at found absent
          grind) request (by
          simp only [afterRequest] at absent
          grind)
      exact ⟨event, List.mem_append_left _ member, notifies⟩
  | opened msg source trxnId uids absent request drawn =>
      intro seqNum p address found request absent
      obtain ⟨event, member, notifies⟩ := explained seqNum p address (by
          simp only [afterOpening, peerProcedure] at found
          simp only [Procedure.request] at request
          grind) request absent
      exact ⟨event, List.mem_append_left _ member, notifies⟩
  | closed msg source p pending response =>
      refine explained.mono _ (fun _ _ => getElem?_of_erase) fun seqNum q found own known => ?_
      exact (linked.timers_afterClosing pending seqNum q
        (by simp only [afterClosing] at found; grind) (getElem?_of_erase found) own).mpr known
  | deleted kind dest seid ies trxnId seqNum p known pending msg =>
      have spared := (linked.cleanup seqNum p pending).1
      refine explained.mono _ (fun _ _ => getElem?_of_erase) fun _ q _ _ known => ?_
      simp only [afterDeleteTx]
      grind
  | retried timerId indeterminate seqNum p shared armed entry pending request below =>
      intro other q address found requested absent
      have different : other ≠ seqNum := by
        rintro rfl
        simp only [afterRetry] at found absent
        grind
      have found' : stack.pendingProcedures[other]? = some q := by
        simp only [afterRetry] at found
        grind
      have own : q.retryMsg ≠ none := fun none => by simp [Procedure.request, none] at requested
      have timer := linked.timer_ne entry different found' own
      obtain ⟨event, member, notifies⟩ := explained other q address found' requested (by
        simp only [afterRetry] at absent
        grind)
      exact ⟨event, List.mem_append_left _ member, notifies⟩
  | aborted timerId indeterminate seqNum p shared armed entry pending request exhausted =>
      intro other q address found requested absent
      by_cases same : other = seqNum
      · subst same
        obtain rfl : p = q := by simpa [afterRetryTimer, pending] using found
        exact ⟨.notifyUlError p, by simp, by simp [Event.notifies, requested]⟩
      · have own : q.retryMsg ≠ none := fun none => by simp [Procedure.request, none] at requested
        have timer := linked.timer_ne entry same found own
        obtain ⟨event, member, notifies⟩ := explained other q address found requested (by
          simp only [afterRetryTimer] at absent
          grind)
        exact ⟨event, List.mem_append_left _ member, notifies⟩
  | retryIgnored timerId indeterminate seqNum armed entry absent =>
      refine explained.mono _ (fun _ _ => id) fun other q found own known => ?_
      have timer := linked.timer_ne entry
        (by rintro rfl; simp [afterRetryTimer, absent] at found) found own
      simp only [afterRetryTimer]
      grind
  | cleaned => exact explained.mono _ (fun _ _ => getElem?_of_erase) fun _ _ _ _ => id
  | _ => exact explained.mono _ (fun _ _ => id) fun _ _ _ _ => id

/-- The upper layer is told of no request both that nobody answered it and its
answer. -/
def OneOutcome (events : List (Event Ies)) : Prop :=
  ∀ address, ¬((∃ event ∈ events, event.notifies address = true) ∧
    ∃ event ∈ events, event.answers address = true)

theorem OneOutcome.left {past events : List (Event Ies)}
    (oneOutcome : OneOutcome (past ++ events)) :
    OneOutcome past := by
  rintro address ⟨⟨notified, notifiedMember, notifies⟩, answered, answeredMember, answers⟩
  exact oneOutcome address ⟨⟨notified, List.mem_append_left _ notifiedMember, notifies⟩,
    answered, List.mem_append_left _ answeredMember, answers⟩

/-- An answer to a request without a timer is its second outcome. -/
theorem Explained.meetsAwaited {stack next : Stack Ies} {action : Action Ies}
    {past events : List (Event Ies)} (explained : Explained past stack)
    (taken : stack.step action = some (next, events))
    (oneOutcome : OneOutcome (past ++ events)) : stack.MeetsAwaited action := by
  cases effect_of_step taken with
  | closed msg source p pending response =>
      intro q found own _
      obtain rfl : p = q := by simpa [pending] using found
      by_contra absent
      obtain ⟨shared, request⟩ := Option.ne_none_iff_exists'.mp own
      have requested : p.request = some shared.address := by simp [Procedure.request, request]
      obtain ⟨event, member, notifies⟩ :=
        explained _ p shared.address pending requested (getElem?_neg _ _ absent)
      exact oneOutcome shared.address ⟨⟨event, List.mem_append_left _ member, notifies⟩,
        .delivered msg source p.trxnId (some p), by simp, by simp [Event.answers, requested]⟩
  | opened msg source trxnId uids absent => exact fun p found => by simp [absent] at found
  | discardedInitial msg source absent => exact fun p found => by simp [absent] at found
  | discardedTriggered msg source p pending mismatch =>
      intro q found _ response
      obtain rfl : p = q := by simpa [pending] using found
      simp [mismatch] at response
  | _ => trivial

theorem explained_of_run {n1 nanoseconds : Nat} {finish : Stack Ies}
    {records : List (StepRecord (Stack Ies) (Action Ies) (Event Ies))}
    (run : Run step (Stack.init Ies n1 nanoseconds) records finish)
    (fresh : ∀ record ∈ records, record.before.MeetsFreshNumber record.action) :
    Explained (trace records) finish := by
  have all := run.history_invariant
    (fun past stack => stack.TimersSeparate ∧ stack.RetryLinked ∧ Explained past stack)
    MeetsFreshNumber ⟨timersSeparate_init _ _, retryLinked_init _ _, fun _ _ _ found => by
      simp [Stack.init] at found⟩ (by
      rintro past stack action next events ⟨separate, linked, explained⟩ fresh taken
      exact ⟨separate.step taken, linked.step separate fresh taken,
        explained.step separate linked taken⟩)
    fresh
  exact all.2.2

/-- In a run whose requests take free numbers, no request has two outcomes
exactly when every answer that closes a request arrives while the
retransmission timer of the request is known. -/
theorem one_outcome_iff {n1 nanoseconds : Nat} {finish : Stack Ies}
    {records : List (StepRecord (Stack Ies) (Action Ies) (Event Ies))}
    (run : Run step (Stack.init Ies n1 nanoseconds) records finish)
    (fresh : ∀ record ∈ records, record.before.MeetsFreshNumber record.action) :
    OneOutcome (trace records) ↔
      ∀ record ∈ records, record.before.MeetsAwaited record.action := by
  constructor
  · intro oneOutcome
    induction run with
    | nil => simp
    | @snoc records stack next action events earlier taken inductionHypothesis =>
        have freshBefore : ∀ record ∈ records, record.before.MeetsFreshNumber record.action :=
          fun record member => fresh record (List.mem_append_left _ member)
        rw [trace_append, trace_singleton] at oneOutcome
        intro record member
        rcases List.mem_append.mp member with member | member
        · exact inductionHypothesis freshBefore (oneOutcome.left) record member
        · rw [List.mem_singleton.mp member]
          have explained := explained_of_run earlier freshBefore
          exact explained.meetsAwaited taken oneOutcome
  · rintro inTime address ⟨⟨notified, notifiedMember, notifies⟩, answered, answeredMember, answers⟩
    obtain ⟨last, -, -, outcomes⟩ := run.lifecycle 0
      (fun stack stage => stack.TimersSeparate ∧ stack.RetryLinked ∧
        AtStage stack.awaiting stack.nextAddress address stage)
      (fun stack action => stack.MeetsFreshNumber action ∧ stack.MeetsAwaited action)
      (fun _ => false) (isOutcome address) .unborn
      ⟨timersSeparate_init _ _, retryLinked_init _ _, by simp [AtStage, Stack.init, awaiting]⟩
      (by
        rintro stack action next events stage ⟨separate, linked, located⟩ ⟨fresh, inTime⟩ taken
        obtain ⟨stage', located', move⟩ :=
          awaiting_step separate linked fresh inTime taken located
        exact ⟨stage', ⟨separate.step taken, linked.step separate fresh taken, located'⟩,
          by simpa using move⟩)
      (fun record member => ⟨fresh record member, inTime record member⟩)
    have same := eq_of_countP_le_one (isOutcome address)
      (by simp only [Stage.outcomesLeft] at outcomes; omega)
      notifiedMember (by simp [isOutcome, notifies]) answeredMember (by simp [isOutcome, answers])
    subst same
    cases notified <;> simp [Event.notifies, Event.answers] at notifies answers

/-- A heartbeat is sent, sent again and given up; then its answer arrives. -/
theorem two_outcomes_of_late_answer :
    ¬∀ (n1 nanoseconds : Nat) (records : List (StepRecord (Stack Unit) (Action Unit) (Event Unit)))
      (finish : Stack Unit), Run step (Stack.init Unit n1 nanoseconds) records finish →
      (∀ record ∈ records, record.before.MeetsFreshNumber record.action) →
      OneOutcome (trace records) := by
  intro always
  have run := ((((Run.initial step (Stack.init Unit 1 0)).andThen
    (.sendRequest .heartbeat ⟨20, 8805⟩ 0 () 7) rfl).andThen
    (.timeOut 1 0) rfl).andThen
    (.timeOut 3 0) rfl).andThen
    (.receive ⟨MessageType.heartbeatResponse, none, 1, ()⟩ ⟨20, 8805⟩) rfl
  have oneOutcome := always 1 0 _ _ run (by
    simp only [List.nil_append, List.mem_append, List.mem_singleton]
    rintro record (((rfl | rfl) | rfl) | rfl)
    · exact ⟨by simp [Stack.init], by simp [Stack.init]⟩
    all_goals trivial)
  exact oneOutcome 0 ⟨by decide, by decide⟩

/-- An answer in time is the only outcome. -/
theorem one_outcome_of_answer :
    ∃ records finish, Run step (Stack.init Unit 1 0) records finish ∧
      records.map StepRecord.action = [.sendRequest .heartbeat ⟨20, 8805⟩ 0 () 7,
        .receive ⟨MessageType.heartbeatResponse, none, 1, ()⟩ ⟨20, 8805⟩] ∧
      OneOutcome (trace records) := by
  have run := ((Run.initial step (Stack.init Unit 1 0)).andThen
    (.sendRequest .heartbeat ⟨20, 8805⟩ 0 () 7) rfl).andThen
    (.receive ⟨MessageType.heartbeatResponse, none, 1, ()⟩ ⟨20, 8805⟩) rfl
  refine ⟨_, _, run, rfl, (one_outcome_iff run ?_).mpr ?_⟩
  · simp only [List.nil_append, List.mem_append, List.mem_singleton]
    rintro record (rfl | rfl)
    · exact ⟨by simp [Stack.init], by simp [Stack.init]⟩
    · trivial
  · simp only [List.nil_append, List.mem_append, List.mem_singleton]
    rintro record (rfl | rfl)
    · trivial
    · rintro p found - -
      obtain rfl := Option.some.inj found
      decide

end Stack

end OpenairSpgwc.Pfcp
