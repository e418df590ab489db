import OpenairSpgwc.Foundation.Index
import OpenairSpgwc.Foundation.Transition
import OpenairSpgwc.Gtpv2c.Effects

/-!
Contract: the four tables of the GTPv2-C stack against each other.

A transaction ends by an answer, by `DELETE_TX`, by the last retransmission
timer or by its cleanup timer, and each of these ends clears another part of
the tables: `stop_proc_cleanup_timer` leaves `proc_cleanup_timers` as it is,
the last retransmission timer clears `pending_procedures` only, and the cleanup
timer leaves the retransmission timer.

Owns:
- `Tidy`, the inductive form of "every entry belongs to a pending transaction";
- `tables_tidy_iff`: a run keeps the tables consistent exactly when every
  transaction that ends in it is one whose only timer is the cleanup timer that
  ends it, and no request takes a number in use.
-/

namespace OpenairSpgwc.Gtpv2c

open OpenairSpgwc.Common
open OpenairSpgwc.Foundation

variable {Ies : Type}

namespace Stack

/-- Every entry of the three indexes belongs to a pending procedure that knows
it, and every pending procedure has its cleanup timer. -/
structure Tidy (stack : Stack Ies) : Prop where
  txIds : Points stack.gtpcTxId2seqNum stack.pendingProcedures Procedure.gtpcTxId
  cleanups : Inverts stack.procCleanupTimers stack.pendingProcedures Procedure.procCleanupTimerId
  retries : Points stack.msgOutRetryTimers stack.pendingProcedures Procedure.retryTimerId
  numbers : ∀ (seqNum : Nat) (p : Procedure Ies) (shared : SharedMsg Ies),
    stack.pendingProcedures[seqNum]? = some p → p.retryMsg = some shared →
    shared.msg.sequenceNumber = seqNum
  issuedCleanup : ∀ timerId seqNum : Nat, stack.procCleanupTimers[timerId]? = some seqNum →
    timerId ≤ stack.itti.timerId

theorem tidy_init (n3 nanoseconds : Nat) : Tidy (Stack.init Ies n3 nanoseconds) where
  txIds := .empty
  cleanups := .empty
  retries := .empty
  numbers := by simp [Stack.init]
  issuedCleanup := by simp [Stack.init]

theorem Tidy.freshCleanup {stack : Stack Ies} (tidy : stack.Tidy) (timerId : Nat)
    (unissued : stack.itti.timerId < timerId) : stack.procCleanupTimers[timerId]? = none := by
  refine Option.eq_none_iff_forall_ne_some.mpr fun seqNum found => ?_
  have issued := tidy.issuedCleanup timerId seqNum found
  omega

/-- The step ends no transaction but one whose cleanup timer is its only timer,
and takes no number in use. -/
def MeetsTidyEnd (stack : Stack Ies) : Action Ies → Prop
  | .sendInitialMessage .. => stack.pendingProcedures[stack.nextSequenceNumber]? = none
  | .sendTriggeredMessage _ _ _ _ gtpTxId action =>
      action = .deleteTx → stack.gtpcTxId2seqNum[gtpTxId]? = none
  | .receive msg _ => ∀ p, stack.pendingProcedures[msg.sequenceNumber]? = some p →
      checkTriggeredMessageType p.checkInitialMsgType msg.messageType = false
  | .timeOut timerId _ =>
      match stack.msgOutRetryTimers[timerId]? with
      | some seqNum => ∀ p, stack.pendingProcedures[seqNum]? = some p → p.retryCount < stack.n3
      | none => ∀ seqNum, stack.procCleanupTimers[timerId]? = some seqNum →
          ∀ other : Nat, stack.msgOutRetryTimers[other]? ≠ some seqNum
  | _ => True

theorem Tidy.step {stack next : Stack Ies} {action : Action Ies} {events : List (Event Ies)}
    (tidy : stack.Tidy) (tidyEnd : stack.MeetsTidyEnd action)
    (taken : stack.step action = some (next, events)) : next.Tidy := by
  have numbers := tidy.numbers
  have issued := tidy.issuedCleanup
  cases effect_of_step taken with
  | requested kind dest rTeid lTeid ies gtpTxId =>
      let p := stack.initialProcedure kind dest rTeid lTeid ies gtpTxId
      have numbered : (stack.initialMsg kind rTeid ies).sequenceNumber =
          stack.nextSequenceNumber := rfl
      refine ⟨tidy.txIds.insert p tidyEnd,
        tidy.cleanups.insert p tidyEnd
          (tidy.freshCleanup _ (by simp [p, initialProcedure])),
        tidy.retries.insert p tidyEnd, ?_, ?_⟩
      · simp only [afterInitial, initialProcedure]
        grind
      · simp only [afterInitial, Itti.timerSetup_timerId]
        grind
  | opened msg source gtpTxId uids absent request drawn =>
      let p := stack.peerProcedure msg.messageType gtpTxId
      refine ⟨tidy.txIds.insert p absent,
        tidy.cleanups.insert p absent
          (tidy.freshCleanup _ (by simp [p, peerProcedure])),
        tidy.retries.insertUnlabelled absent, ?_, ?_⟩
      · simp only [afterOpening, peerProcedure]
        grind
      · simp only [afterOpening, Itti.timerSetup_timerId]
        grind
  | retried timerId indeterminate seqNum p shared armed entry pending request below =>
      have numbered := numbers seqNum p shared pending request
      refine ⟨tidy.txIds.update pending rfl, tidy.cleanups.update pending rfl, ?_, ?_, ?_⟩
      · simp only [afterRetry, numbered]
        exact tidy.retries.relabel { p with
          retryCount := (p.retryCount + 1) % 2 ^ 8
          retryTimerId := stack.itti.timerId + 1 } entry
      · simp only [afterRetry]
        grind
      · simp only [afterRetry, Itti.timerSetup_timerId, Itti.timerRemove_timerId]
        grind
  | cleaned timerId indeterminate seqNum p armed notRetry entry pending =>
      simp only [MeetsTidyEnd, notRetry] at tidyEnd
      obtain ⟨owner, found, rfl⟩ := tidy.cleanups.owner entry
      obtain rfl : owner = p := by simpa [pending] using found.symm
      refine ⟨tidy.txIds.erase pending, tidy.cleanups.erase pending,
        tidy.retries.eraseUnlabelled (tidyEnd seqNum entry), ?_, ?_⟩
      · exact fun number q shared found => numbers number q shared (getElem?_of_erase found)
      · exact fun number q found => issued number q (getElem?_of_erase found)
  | closed msg source p pending response =>
      have mismatch := tidyEnd p pending
      simp [response] at mismatch
  | deleted kind dest rTeid ies gtpTxId seqNum p known pending msg =>
      have unknown := tidyEnd rfl
      simp [known] at unknown
  | deletedStale kind dest rTeid ies gtpTxId seqNum known absent msg =>
      have unknown := tidyEnd rfl
      simp [known] at unknown
  | aborted timerId indeterminate seqNum p armed entry pending exhausted =>
      simp only [MeetsTidyEnd, entry] at tidyEnd
      exact absurd (tidyEnd p pending) exhausted
  | retryIgnored timerId indeterminate seqNum armed entry absent =>
      obtain ⟨p, pending, -⟩ := tidy.retries.owner entry
      simp [absent] at pending
  | cleanedStray timerId indeterminate seqNum armed notRetry entry absent =>
      obtain ⟨p, pending, -⟩ := tidy.cleanups.owner entry
      simp [absent] at pending
  | otherTimer =>
      refine ⟨tidy.txIds, tidy.cleanups, tidy.retries, numbers, fun timerId seqNum found => ?_⟩
      exact Nat.le_succ_of_le (issued timerId seqNum found)
  | _ => exact ⟨tidy.txIds, tidy.cleanups, tidy.retries, numbers, issued⟩

/-! ### Consistency along runs -/

/-- What the users of the tables rely on, and that no entry outlives its transaction. -/
structure Consistent (stack : Stack Ies) : Prop where
  armedCleanups : ∀ timerId seqNum : Nat, timerId ∈ stack.itti.timers →
    stack.procCleanupTimers[timerId]? = some seqNum → seqNum ∈ stack.pendingProcedures
  txIds : ∀ gtpcTxId seqNum : Nat, stack.gtpcTxId2seqNum[gtpcTxId]? = some seqNum →
    seqNum ∈ stack.pendingProcedures
  txIdsOwned : ∀ gtpcTxId seqNum : Nat, stack.gtpcTxId2seqNum[gtpcTxId]? = some seqNum →
    ∃ p, stack.pendingProcedures[seqNum]? = some p ∧ p.gtpcTxId = gtpcTxId
  cleanupsOwned : ∀ timerId seqNum : Nat, stack.procCleanupTimers[timerId]? = some seqNum →
    ∃ p, stack.pendingProcedures[seqNum]? = some p ∧ p.procCleanupTimerId = timerId
  retriesOwned : ∀ timerId seqNum : Nat, stack.msgOutRetryTimers[timerId]? = some seqNum →
    ∃ p, stack.pendingProcedures[seqNum]? = some p ∧ p.retryTimerId = timerId

theorem Tidy.consistent {stack : Stack Ies} (tidy : stack.Tidy) : stack.Consistent where
  armedCleanups := fun _ _ _ found => tidy.cleanups.key_mem found
  txIds := by
    intro gtpcTxId seqNum found
    obtain ⟨p, pending, -⟩ := tidy.txIds.owner found
    simp [Std.ExtTreeMap.mem_iff_isSome_getElem?, pending]
  txIdsOwned := fun _ _ found => tidy.txIds.owner found
  cleanupsOwned := fun _ _ found => tidy.cleanups.owner found
  retriesOwned := fun _ _ found => tidy.retries.owner found

/-- A cleanup timer only expires while its procedure is pending. -/
theorem Tidy.no_endDereference {stack next : Stack Ies} {action : Action Ies}
    {events : List (Event Ies)} (tidy : stack.Tidy)
    (taken : stack.step action = some (next, events)) (timerId : Nat) :
    Event.endDereference timerId ∉ events := by
  cases effect_of_step taken with
  | cleanedStray timerId indeterminate seqNum armed notRetry entry absent =>
      obtain ⟨owner, found, -⟩ := tidy.cleanups.owner entry
      simp [absent] at found
  | _ => simp

/-- A step that ends the transaction of `p` and keeps `proc_cleanup_timers`
leaves an entry behind. -/
private theorem Tidy.not_consistent_of_kept {stack next : Stack Ies} (tidy : stack.Tidy)
    {seqNum : Nat} {p : Procedure Ies} (pending : stack.pendingProcedures[seqNum]? = some p)
    (kept : next.procCleanupTimers = stack.procCleanupTimers)
    (erased : next.pendingProcedures = stack.pendingProcedures.erase seqNum) :
    ¬next.Consistent := by
  intro consistent
  obtain ⟨owner, found, -⟩ := consistent.cleanupsOwned p.procCleanupTimerId seqNum
    (kept ▸ tidy.cleanups.entry pending)
  simp [erased] at found

/-- A step that ends a transaction any other way leaves the tables inconsistent. -/
theorem Tidy.meetsTidyEnd {stack next : Stack Ies} {action : Action Ies}
    {events : List (Event Ies)} (tidy : stack.Tidy)
    (taken : stack.step action = some (next, events)) (consistent : next.Consistent) :
    stack.MeetsTidyEnd action := by
  cases effect_of_step taken with
  | requested kind dest rTeid lTeid ies gtpTxId =>
      refine Option.eq_none_iff_forall_ne_some.mpr fun p pending => ?_
      -- The new cleanup timer refers to a procedure that has another one.
      have unused := tidy.freshCleanup (stack.itti.timerId + 2) (by omega)
      obtain ⟨owner, found, same⟩ := consistent.cleanupsOwned (stack.itti.timerId + 2)
        stack.nextSequenceNumber (by simp only [afterInitial]; grind)
      rw [afterInitial, insertIfNew_of_present pending, pending] at found
      obtain rfl := Option.some.inj found
      have issued := tidy.issuedCleanup _ _ (tidy.cleanups.entry pending)
      omega
  | closed msg source p pending response =>
      exact absurd consistent (tidy.not_consistent_of_kept pending rfl rfl)
  | deleted kind dest rTeid ies gtpTxId seqNum p known pending msg =>
      exact absurd consistent (tidy.not_consistent_of_kept pending rfl rfl)
  | aborted timerId indeterminate seqNum p armed entry pending exhausted =>
      exact absurd consistent (tidy.not_consistent_of_kept pending rfl rfl)
  | deletedStale kind dest rTeid ies gtpTxId seqNum known absent msg =>
      obtain ⟨p, pending, -⟩ := tidy.txIds.owner known
      simp [absent] at pending
  | unanswerable kind dest rTeid ies gtpTxId action unknown => exact fun _ => unknown
  | answered => exact fun impossible => by cases impossible
  | opened msg source gtpTxId uids absent => exact fun p found => by simp [absent] at found
  | discardedInitial msg source absent => exact fun p found => by simp [absent] at found
  | discardedTriggered msg source p pending mismatch =>
      intro q found
      obtain rfl : p = q := by simpa [pending] using found
      exact mismatch
  | retried timerId indeterminate seqNum p shared armed entry pending request below =>
      simp only [MeetsTidyEnd, entry]
      intro q found
      obtain rfl : p = q := by simpa [pending] using found
      exact below
  | retryIgnored timerId indeterminate seqNum armed entry absent =>
      simp only [MeetsTidyEnd, entry]
      exact fun p found => by simp [absent] at found
  | cleaned timerId indeterminate seqNum p armed notRetry entry pending =>
      simp only [MeetsTidyEnd, notRetry]
      intro number found other retry
      obtain rfl : seqNum = number := by simpa [entry] using found
      obtain ⟨owner, stored, -⟩ := consistent.retriesOwned other seqNum retry
      simp [afterCleanup] at stored
  | cleanedStray timerId indeterminate seqNum armed notRetry entry absent =>
      obtain ⟨p, pending, -⟩ := tidy.cleanups.owner entry
      simp [absent] at pending
  | unhandled timerId indeterminate armed notRetry notCleanup =>
      simp only [MeetsTidyEnd, notRetry]
      exact fun seqNum found => by simp [notCleanup] at found
  | otherTimer | otherDrawn | otherFreed => trivial

/-- The tables are consistent throughout a run, no entry outlives its
transaction and no step follows `end()`, exactly when every step meets
`MeetsTidyEnd`. -/
theorem tables_tidy_iff {n3 nanoseconds : Nat} {finish : Stack Ies}
    {records : List (StepRecord (Stack Ies) (Action Ies) (Event Ies))}
    (run : Run step (Stack.init Ies n3 nanoseconds) records finish) :
    ((Stack.init Ies n3 nanoseconds).Consistent ∧
        ∀ record ∈ records, record.after.Consistent ∧
          ∀ timerId, Event.endDereference timerId ∉ record.events) ↔
      ∀ record ∈ records, record.before.MeetsTidyEnd record.action := by
  rw [and_iff_right (tidy_init n3 nanoseconds).consistent]
  refine run.forall_records_iff Tidy MeetsTidyEnd
    (fun record => record.after.Consistent ∧
      ∀ timerId, Event.endDereference timerId ∉ record.events)
    (tidy_init n3 nanoseconds) ?_ ?_
  · intro stack action next events tidy tidyEnd taken
    exact tidy.step tidyEnd taken
  · intro stack action next events tidy taken
    constructor
    · rintro ⟨consistent, -⟩
      exact tidy.meetsTidyEnd taken consistent
    · intro tidyEnd
      exact ⟨(tidy.step tidyEnd taken).consistent, tidy.no_endDereference taken⟩

/-- A request is given up after `n3 = 1` retransmission; its cleanup timer is
still armed and expires. -/
theorem endDereference_after_giving_up :
    ¬∀ (n3 nanoseconds : Nat) (records : List (StepRecord (Stack Unit) (Action Unit) (Event Unit)))
      (finish : Stack Unit), Run step (Stack.init Unit n3 nanoseconds) records finish →
      ((Stack.init Unit n3 nanoseconds).Consistent ∧
        ∀ record ∈ records, record.after.Consistent ∧
          ∀ timerId, Event.endDereference timerId ∉ record.events) := by
  intro always
  let msg : Msg Unit := ⟨MessageType.createSessionRequest, some 0, 1, ()⟩
  obtain ⟨records, finish, run, shown⟩ := Run.exists_of_execute step (Stack.init Unit 1 0)
    [.sendInitialMessage .createSession ⟨20, 2123⟩ 0 5 () 7, .timeOut 1 0, .timeOut 3 0,
      .timeOut 2 0]
    [.sent (some 0) msg ⟨20, 2123⟩, .sent (some 0) msg ⟨20, 2123⟩,
      .notifyUlError
        { retryMsg := some ⟨0, msg⟩, remoteEndpoint := ⟨20, 2123⟩, localTeid := 5,
          retryTimerId := 3, procCleanupTimerId := 2, gtpcTxId := 7,
          initialMsgType := MessageType.createSessionRequest, retryCount := 1 },
      .endDereference 2] (by decide)
  obtain ⟨record, member, event⟩ := mem_trace.mp
    (show Event.endDereference 2 ∈ trace records by simp [shown])
  exact ((always 1 0 records finish run).2 record member).2 2 event

/-- A received echo request that nobody answers is ended by its cleanup timer. -/
theorem tables_tidy_unanswered_echo :
    ∃ records finish, Run step (Stack.init Unit 3 0) records finish ∧
      records.map StepRecord.action =
        [.receive ⟨MessageType.echoRequest, none, 9, ()⟩ ⟨10, 2123⟩, .timeOut 1 0] ∧
      ∀ record ∈ records, record.after.Consistent ∧
        ∀ timerId, Event.endDereference timerId ∉ record.events := by
  have run := ((Run.initial step (Stack.init Unit 3 0)).andThen
    (.receive ⟨MessageType.echoRequest, none, 9, ()⟩ ⟨10, 2123⟩) rfl).andThen
    (.timeOut 1 0) rfl
  refine ⟨_, _, run, rfl, ((tables_tidy_iff run).mpr ?_).2⟩
  simp only [List.nil_append, List.mem_append, List.mem_singleton]
  rintro record (rfl | rfl)
  · intro p found
    simp [Stack.init] at found
  · intro seqNum _ other
    show (∅ : Std.ExtTreeMap Nat Nat)[other]? ≠ some seqNum
    simp

end Stack

end OpenairSpgwc.Gtpv2c
