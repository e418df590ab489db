import OpenairSpgwc.Foundation.Index
import OpenairSpgwc.Foundation.Transition
import OpenairSpgwc.Pfcp.Effects

/-!
Contract: the four tables of the PFCP stack against each other.

Owns:
- `TimersSeparate`, which every step keeps: no timer is both a retransmission
  timer and a cleanup timer;
- `Linked`, the inductive form of the consistency of the tables, which a step
  keeps exactly when it meets no sequence number and no identifier in use;
- `tables_consistent_iff`, the same along whole runs.

`map::insert` keeps an old entry, and own and received transactions share one
key space: a number or identifier met twice is where the tables part.
-/

namespace OpenairSpgwc.Pfcp

open OpenairSpgwc.Common
open OpenairSpgwc.Foundation

variable {Ies : Type}

namespace Stack

/-- Retransmission timers and cleanup timers are different timers. -/
structure TimersSeparate (stack : Stack Ies) : Prop where
  cleanupIssued : ∀ timerId seqNum : Nat, stack.procCleanupTimers[timerId]? = some seqNum →
    0 < timerId ∧ timerId ≤ stack.itti.timerId
  retryIssued : ∀ timerId seqNum : Nat, stack.msgOutRetryTimers[timerId]? = some seqNum →
    timerId ≤ stack.itti.timerId ∧ stack.procCleanupTimers[timerId]? = none
  pendingRetry : ∀ (seqNum : Nat) (p : Procedure Ies), stack.pendingProcedures[seqNum]? = some p →
    p.retryTimerId ≤ stack.itti.timerId ∧ stack.procCleanupTimers[p.retryTimerId]? = none

theorem TimersSeparate.fresh {stack : Stack Ies} (separate : stack.TimersSeparate) (timerId : Nat)
    (unissued : stack.itti.timerId < timerId) : stack.procCleanupTimers[timerId]? = none := by
  refine Option.eq_none_iff_forall_ne_some.mpr fun seqNum found => ?_
  have issued := (separate.cleanupIssued timerId seqNum found).2
  omega

theorem timersSeparate_init (n1 nanoseconds : Nat) :
    TimersSeparate (Stack.init Ies n1 nanoseconds) := by
  constructor <;> simp [Stack.init]

theorem TimersSeparate.step {stack next : Stack Ies} {action : Action Ies}
    {events : List (Event Ies)} (separate : stack.TimersSeparate)
    (taken : stack.step action = some (next, events)) : next.TimersSeparate := by
  obtain ⟨cleanupIssued, retryIssued, pendingRetry⟩ := separate
  cases effect_of_step taken with
  | requested kind dest seid ies trxnId =>
      constructor <;> simp only [afterRequest, requestProcedure, Itti.timerSetup_timerId] <;> grind
  | opened msg source trxnId uids absent request drawn =>
      constructor <;> simp only [afterOpening, peerProcedure, Itti.timerSetup_timerId] <;> grind
  | closed msg source p pending response =>
      constructor <;> simp only [afterClosing, stopMsgRetryTimer] <;>
        grind [Itti.timerRemove_timerId]
  | deleted kind dest seid ies trxnId seqNum p known pending msg =>
      constructor <;> simp only [afterDeleteTx, Itti.timerRemove_timerId] <;> grind
  | retried timerId indeterminate seqNum p shared armed entry pending request below =>
      constructor <;>
        simp only [afterRetry, Itti.timerSetup_timerId, Itti.timerRemove_timerId] <;> grind
  | aborted | retryIgnored =>
      constructor <;> simp only [afterRetryTimer, Itti.timerRemove_timerId] <;> grind
  | cleaned =>
      constructor <;> simp only [afterCleanup, Itti.timerRemove_timerId] <;> grind
  | cleanedStray =>
      constructor <;> simp only [afterStrayCleanup, Itti.timerRemove_timerId] <;> grind
  | otherTimer =>
      constructor <;> simp only [Itti.timerSetup_timerId] <;> grind
  | unanswerable | answered | deletedStale | discardedInitial | discardedTriggered | unhandled
    | otherDrawn | otherFreed => exact ⟨cleanupIssued, retryIssued, pendingRetry⟩

/-! ### The tables -/

/-- Both indexes are in step with the pending procedures, whose cleanup timers
are armed. -/
structure Linked (stack : Stack Ies) : Prop where
  trxnIds : Inverts stack.trxnId2seqNum stack.pendingProcedures Procedure.trxnId
  cleanups : Inverts stack.procCleanupTimers stack.pendingProcedures Procedure.procCleanupTimerId
  armed : ∀ timerId seqNum : Nat, stack.procCleanupTimers[timerId]? = some seqNum →
    timerId ∈ stack.itti.timers

/-- The step does not meet a number or an identifier that is in use. -/
def MeetsFreshKeys (stack : Stack Ies) : Action Ies → Prop
  | .sendRequest _ _ _ _ trxnId =>
      stack.pendingProcedures[stack.nextSequenceNumber]? = none ∧
        stack.trxnId2seqNum[trxnId]? = none
  | .receive msg _ =>
      stack.pendingProcedures[msg.sequenceNumber]? = none → checkRequestType msg.messageType →
        ∀ trxnId uids, stack.uids.getUid = some (trxnId, uids) →
          stack.trxnId2seqNum[trxnId]? = none
  | _ => True

theorem linked_init (n1 nanoseconds : Nat) : Linked (Stack.init Ies n1 nanoseconds) :=
  ⟨.empty, .empty, by simp [Stack.init]⟩

/-- Removing a timer that is no cleanup timer of a pending procedure. -/
theorem Linked.armed_erase {stack : Stack Ies} (linked : stack.Linked) {timerId : Nat}
    (other : stack.procCleanupTimers[timerId]? = none) :
    ∀ key seqNum : Nat, stack.procCleanupTimers[key]? = some seqNum →
      key ∈ stack.itti.timers.erase timerId := by
  intro key seqNum found
  refine Finset.mem_erase.mpr ⟨?_, linked.armed key seqNum found⟩
  rintro rfl
  simp [other] at found

theorem Linked.step {stack next : Stack Ies} {action : Action Ies}
    {events : List (Event Ies)} (separate : stack.TimersSeparate) (linked : stack.Linked)
    (fresh : stack.MeetsFreshKeys action)
    (taken : stack.step action = some (next, events)) : next.Linked := by
  have armed := linked.armed
  cases effect_of_step taken with
  | requested kind dest seid ies trxnId =>
      obtain ⟨freshSeqNum, freshTrxnId⟩ := fresh
      let p := stack.requestProcedure kind dest seid ies trxnId
      refine ⟨linked.trxnIds.insert p freshSeqNum freshTrxnId,
        linked.cleanups.insert p freshSeqNum
          (separate.fresh _ (by simp [p, requestProcedure])), ?_⟩
      simp only [afterRequest, Itti.timerSetup_timers, Itti.timerSetup_timerId]
      grind
  | opened msg source trxnId uids absent request drawn =>
      have freshTrxnId := fresh absent request trxnId uids drawn
      let p := stack.peerProcedure msg.messageType trxnId
      refine ⟨linked.trxnIds.insert p absent freshTrxnId,
        linked.cleanups.insert p absent
          (separate.fresh _ (by simp [p, peerProcedure])), ?_⟩
      simp only [afterOpening, Itti.timerSetup_timers]
      grind
  | closed msg source p pending response =>
      refine ⟨linked.trxnIds.erase pending, linked.cleanups.erase pending, ?_⟩
      have other := (separate.pendingRetry _ _ pending).2
      have kept := linked.armed_erase other
      simp only [afterClosing, stopMsgRetryTimer]
      grind [Itti.timerRemove_timers]
  | deleted kind dest seid ies trxnId seqNum p known pending msg =>
      obtain ⟨owner, found, rfl⟩ := linked.trxnIds.owner known
      obtain rfl : owner = p := by simpa [pending] using found.symm
      refine ⟨linked.trxnIds.erase pending, linked.cleanups.erase pending, ?_⟩
      simp only [afterDeleteTx, Itti.timerRemove_timers]
      grind
  | deletedStale kind dest seid ies trxnId seqNum known absent msg =>
      obtain ⟨owner, found, -⟩ := linked.trxnIds.owner known
      simp [absent] at found
  | retried timerId indeterminate seqNum p shared armed entry pending request below =>
      refine ⟨linked.trxnIds.update pending rfl, linked.cleanups.update pending rfl, ?_⟩
      have kept := linked.armed_erase (separate.retryIssued _ _ entry).2
      simp only [afterRetry, Itti.timerSetup_timers, Itti.timerRemove_timers]
      grind
  | aborted timerId indeterminate seqNum p shared armed entry =>
      exact ⟨linked.trxnIds, linked.cleanups, linked.armed_erase (separate.retryIssued _ _ entry).2⟩
  | retryIgnored timerId indeterminate seqNum armed entry =>
      exact ⟨linked.trxnIds, linked.cleanups, linked.armed_erase (separate.retryIssued _ _ entry).2⟩
  | cleaned timerId indeterminate seqNum p armed notRetry entry pending =>
      obtain ⟨owner, found, rfl⟩ := linked.cleanups.owner entry
      obtain rfl : owner = p := by simpa [pending] using found.symm
      refine ⟨linked.trxnIds.erase pending, linked.cleanups.erase pending, ?_⟩
      simp only [afterCleanup, Itti.timerRemove_timers]
      grind
  | cleanedStray timerId indeterminate seqNum armed notRetry entry absent =>
      obtain ⟨owner, found, -⟩ := linked.cleanups.owner entry
      simp [absent] at found
  | unhandled timerId indeterminate armed notRetry notCleanup =>
      exact ⟨linked.trxnIds, linked.cleanups, linked.armed_erase notCleanup⟩
  | otherTimer =>
      refine ⟨linked.trxnIds, linked.cleanups, ?_⟩
      intro timerId seqNum found
      exact Finset.mem_insert_of_mem (linked.armed timerId seqNum found)
  | unanswerable | answered | discardedInitial | discardedTriggered
    | otherDrawn | otherFreed => exact ⟨linked.trxnIds, linked.cleanups, linked.armed⟩

/-! ### Consistency along runs -/

/-- What the users of the tables rely on. -/
structure Consistent (stack : Stack Ies) : Prop where
  trxnIds : ∀ trxnId seqNum : Nat, stack.trxnId2seqNum[trxnId]? = some seqNum →
    seqNum ∈ stack.pendingProcedures
  cleanups : ∀ timerId seqNum : Nat, stack.procCleanupTimers[timerId]? = some seqNum →
    seqNum ∈ stack.pendingProcedures
  reachedBack : ∀ (seqNum : Nat) (p : Procedure Ies), stack.pendingProcedures[seqNum]? = some p →
    stack.trxnId2seqNum[p.trxnId]? = some seqNum
  oneCleanupTimer : ∀ seqNum : Nat, seqNum ∈ stack.pendingProcedures →
    ∃! timerId, timerId ∈ stack.itti.timers ∧ stack.procCleanupTimers[timerId]? = some seqNum

theorem Linked.consistent {stack : Stack Ies} (linked : stack.Linked) : stack.Consistent where
  trxnIds := fun _ _ found => linked.trxnIds.key_mem found
  cleanups := fun _ _ found => linked.cleanups.key_mem found
  reachedBack := fun _ _ pending => linked.trxnIds.entry pending
  oneCleanupTimer := by
    intro seqNum member
    obtain ⟨p, pending⟩ := exists_of_mem member
    have entry := linked.cleanups.entry pending
    refine ⟨p.procCleanupTimerId, ⟨linked.armed _ _ entry, entry⟩, ?_⟩
    rintro timerId ⟨-, found⟩
    obtain ⟨owner, stored, same⟩ := linked.cleanups.owner found
    obtain rfl : p = owner := by simpa [pending] using stored
    exact same.symm

/-- A cleanup timer only expires while its procedure is pending. -/
theorem Linked.no_endDereference {stack next : Stack Ies} {action : Action Ies}
    {events : List (Event Ies)} (linked : stack.Linked)
    (taken : stack.step action = some (next, events)) (timerId : Nat) :
    Event.endDereference timerId ∉ events := by
  cases effect_of_step taken with
  | cleanedStray timerId indeterminate seqNum armed notRetry entry absent =>
      obtain ⟨owner, found, -⟩ := linked.cleanups.owner entry
      simp [absent] at found
  | _ => simp

/-- A step that meets a key in use leaves the tables inconsistent. -/
theorem Linked.meetsFreshKeys {stack next : Stack Ies} {action : Action Ies}
    {events : List (Event Ies)} (separate : stack.TimersSeparate) (linked : stack.Linked)
    (taken : stack.step action = some (next, events)) (consistent : next.Consistent) :
    stack.MeetsFreshKeys action := by
  cases effect_of_step taken with
  | requested kind dest seid ies trxnId =>
      have freshSeqNum : stack.pendingProcedures[stack.nextSequenceNumber]? = none := by
        refine Option.eq_none_iff_forall_ne_some.mpr fun p pending => ?_
        -- Both cleanup timers, the old and the new one, are armed for the same number.
        have entry := linked.cleanups.entry pending
        have armed := linked.armed _ _ entry
        have issued := (separate.cleanupIssued _ _ entry).2
        have unused := separate.fresh (stack.itti.timerId + 2) (by omega)
        have one : p.procCleanupTimerId = stack.itti.timerId + 2 :=
          (consistent.oneCleanupTimer stack.nextSequenceNumber (by simp [afterRequest])).unique
          ⟨by simp [afterRequest, armed], by simp only [afterRequest]; grind⟩
          ⟨by simp [afterRequest], by simp only [afterRequest]; grind⟩
        omega
      refine ⟨freshSeqNum, by_contra fun used => ?_⟩
      refine linked.trxnIds.not_entry_insert freshSeqNum used ?_
      exact consistent.reachedBack stack.nextSequenceNumber
        (stack.requestProcedure kind dest seid ies trxnId) (by simp only [afterRequest]; grind)
  | opened msg source trxnId uids absent request drawn =>
      intro _ _ trxnId' uids' drawn'
      obtain ⟨rfl, rfl⟩ : trxnId = trxnId' ∧ uids = uids' := by simpa [drawn] using drawn'
      refine by_contra fun used => linked.trxnIds.not_entry_insert absent used ?_
      exact consistent.reachedBack msg.sequenceNumber
        (stack.peerProcedure msg.messageType trxnId) (by simp only [afterOpening]; grind)
  | closed msg source p pending => exact fun absent => by simp [pending] at absent
  | discardedTriggered msg source p pending => exact fun absent => by simp [pending] at absent
  | discardedInitial msg source absent mismatch =>
      exact fun _ request => by simp [mismatch] at request
  | _ => trivial

/-- The tables are consistent throughout a run, and no step of it follows
`end()`, exactly when no step of it meets a key in use. -/
theorem tables_consistent_iff {n1 nanoseconds : Nat}
    {records : List (StepRecord (Stack Ies) (Action Ies) (Event Ies))} {finish : Stack Ies}
    (run : Run step (Stack.init Ies n1 nanoseconds) records finish) :
    ((Stack.init Ies n1 nanoseconds).Consistent ∧
        ∀ record ∈ records, record.after.Consistent ∧
          ∀ timerId, Event.endDereference timerId ∉ record.events) ↔
      ∀ record ∈ records, record.before.MeetsFreshKeys record.action := by
  rw [and_iff_right (linked_init n1 nanoseconds).consistent]
  refine run.forall_records_iff (fun stack => stack.TimersSeparate ∧ stack.Linked)
    MeetsFreshKeys (fun record => record.after.Consistent ∧
      ∀ timerId, Event.endDereference timerId ∉ record.events)
    ⟨timersSeparate_init n1 nanoseconds, linked_init n1 nanoseconds⟩ ?_ ?_
  · rintro stack action next events ⟨separate, linked⟩ fresh taken
    exact ⟨separate.step taken, linked.step separate fresh taken⟩
  · rintro stack action next events ⟨separate, linked⟩ taken
    constructor
    · rintro ⟨consistent, -⟩
      exact linked.meetsFreshKeys separate taken consistent
    · intro fresh
      exact ⟨(linked.step separate fresh taken).consistent, linked.no_endDereference taken⟩

/-- A peer's heartbeat request and our own carry the sequence number 1: the
procedure is shared, both cleanup timers expire. -/
def sharedNumber : List (Action Unit) :=
  [.receive ⟨MessageType.heartbeatRequest, none, 1, ()⟩ ⟨10, 8805⟩,
    .otherGetUid,
    .sendRequest .heartbeat ⟨20, 8805⟩ 0 () 2,
    .timeOut 1 0,
    .timeOut 2 0,
    .timeOut 3 0]

theorem sharedNumber_endDereference :
    ¬∀ (n1 nanoseconds : Nat) (records : List (StepRecord (Stack Unit) (Action Unit) (Event Unit)))
      (finish : Stack Unit), Run step (Stack.init Unit n1 nanoseconds) records finish →
      ((Stack.init Unit n1 nanoseconds).Consistent ∧
        ∀ record ∈ records, record.after.Consistent ∧
          ∀ timerId, Event.endDereference timerId ∉ record.events) := by
  intro always
  obtain ⟨records, finish, run, shown⟩ := Run.exists_of_execute step (Stack.init Unit 3 0)
    sharedNumber [.delivered ⟨1, none, 1, ()⟩ ⟨10, 8805⟩ 1 none,
      .sent (some 0) ⟨1, none, 1, ()⟩ ⟨20, 8805⟩, .endDereference 3] (by decide)
  obtain ⟨record, member, event⟩ := mem_trace.mp
    (show Event.endDereference 3 ∈ trace records by simp [shown])
  exact ((always 3 0 records finish run).2 record member).2 3 event

/-- An association set up at our request: no key in use is met. -/
theorem tables_consistent_association :
    ∃ records finish, Run step (Stack.init Unit 3 0) records finish ∧
      records.map StepRecord.action = [.sendRequest .associationSetup ⟨20, 8805⟩ 0 () 0,
        .receive ⟨MessageType.associationSetupResponse, none, 1, ()⟩ ⟨20, 8805⟩] ∧
      ∀ record ∈ records, record.after.Consistent ∧
        ∀ timerId, Event.endDereference timerId ∉ record.events := by
  have run := ((Run.initial step (Stack.init Unit 3 0)).andThen
    (.sendRequest .associationSetup ⟨20, 8805⟩ 0 () 0) rfl).andThen
    (.receive ⟨MessageType.associationSetupResponse, none, 1, ()⟩ ⟨20, 8805⟩) rfl
  refine ⟨_, _, run, rfl, ((tables_consistent_iff run).mpr ?_).2⟩
  simp only [List.nil_append, List.mem_append, List.mem_singleton, forall_eq_or_imp, forall_eq]
  refine ⟨⟨by decide, by decide⟩, fun absent => ?_⟩
  exact absurd absent (by decide)

end Stack

end OpenairSpgwc.Pfcp
