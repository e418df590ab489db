import OpenairSpgwc.Foundation.Index
import OpenairSpgwc.Foundation.Lifecycle
import OpenairSpgwc.Gtpv2c.Effects

/-!
Contract: the outcome of a GTPv2-C request.

Retry exhaustion, a response, `DELETE_TX` and the cleanup timer all take the
procedure out of `pending_procedures`, so the pending procedures are the
requests that still wait for an outcome. A request is known by the address of
the object `send_initial_message` made for it.

Owns:
- `outstanding`, the slots of the abstract request table, and the simulation;
- the identifier an outcome carries is the one the request was sent with, so that an
  identifier has at most as many outcomes as requests;
- that nothing else carries it, unless the stack drew it for a request it received;
- `one_outcome_sent_boundedly` along every run.
-/

namespace OpenairSpgwc.Gtpv2c

open OpenairSpgwc.Common
open OpenairSpgwc.Foundation

variable {Ies : Type}

/-- The request a procedure was opened for. -/
def Procedure.request (p : Procedure Ies) : Option Nat := p.retryMsg.map SharedMsg.address

/-- The request a procedure may send again, with its retransmissions so far. -/
def Procedure.outstanding (p : Procedure Ies) : Option (Nat × Nat) :=
  p.request.map fun address => (address, p.retryCount)

/-- The identifier a step opens a request with. -/
def Action.opens : Action Ies → Option Nat
  | .sendInitialMessage _ _ _ _ _ gtpTxId => some gtpTxId
  | _ => none

/-- The identifier that the stack draws for a request it receives. -/
def Action.draws (stack : Stack Ies) : Action Ies → Option Nat
  | .receive msg _ =>
      if stack.pendingProcedures[msg.sequenceNumber]? = none ∧
          checkInitialMessageType msg.messageType = true then
        stack.uids.getUid.map Prod.fst
      else none
  | _ => none

namespace Event

/-- The event puts the request with this address on the wire. -/
def isSent (address : Nat) : Event Ies → Bool
  | .sent (some request) _ _ => request == address
  | _ => false

/-- The procedure and the identifier of an outcome. -/
def outcome : Event Ies → Option (Procedure Ies × Nat)
  | .delivered _ _ gtpcTxId (some p) => some (p, gtpcTxId)
  | .notifyUlError p => some (p, p.gtpcTxId)
  | _ => none

/-- The event delivers the answer to this request or tells that nobody answered it. -/
def isOutcome (address : Nat) (event : Event Ies) : Bool :=
  event.outcome.any fun result => result.1.request == some address

/-- The request that the event is the outcome of, if it was opened with this identifier. -/
def settled (gtpcTxId : Nat) (event : Event Ies) : Option Nat :=
  event.outcome.bind fun result => if result.2 = gtpcTxId then result.1.request else none

/-- The event is the outcome of a request, under this identifier. -/
def isOutcomeFor (gtpcTxId : Nat) (event : Event Ies) : Bool := (event.settled gtpcTxId).isSome

/-- A message is delivered, or nobody has answered, under this identifier. -/
def carries (gtpcTxId : Nat) : Event Ies → Bool
  | .delivered _ _ given _ => given == gtpcTxId
  | .notifyUlError p => p.gtpcTxId == gtpcTxId
  | _ => false

theorem settled_eq_some {gtpcTxId address : Nat} {event : Event Ies} :
    event.settled gtpcTxId = some address ↔
      ∃ p, event.outcome = some (p, gtpcTxId) ∧ p.request = some address := by
  unfold settled
  rw [Option.bind_eq_some_iff]
  constructor
  · rintro ⟨⟨p, given⟩, ended, request⟩
    split at request
    · next same =>
        rw [← same]
        exact ⟨p, ended, request⟩
    · cases request
  · rintro ⟨p, ended, request⟩
    exact ⟨_, ended, (if_pos rfl).trans request⟩

end Event

namespace Stack

/-- The slots of the request table. -/
def outstanding (stack : Stack Ies) (seqNum : Nat) : Option (Nat × Nat) :=
  stack.pendingProcedures[seqNum]?.bind Procedure.outstanding

theorem outstanding_erase (stack next : Stack Ies) (seqNum : Nat)
    (erased : next.pendingProcedures = stack.pendingProcedures.erase seqNum) :
    next.outstanding = Function.update stack.outstanding seqNum none := by
  unfold outstanding
  rw [erased]
  exact bind_getElem?_erase _

theorem outstanding_insert (stack next : Stack Ies) {seqNum : Nat} {p : Procedure Ies}
    (inserted : next.pendingProcedures = stack.pendingProcedures.insert seqNum p) :
    next.outstanding = Function.update stack.outstanding seqNum p.outstanding := by
  unfold outstanding
  rw [inserted]
  exact bind_getElem?_insert _

/-- Ending a pending transaction reports at most one outcome of its request. -/
private theorem outcome_le {stack : Stack Ies} {seqNum : Nat} {p : Procedure Ies} {address : Nat}
    {event : Event Ies} {gtpcTxId : Nat}
    (pending : stack.pendingProcedures[seqNum]? = some p)
    (ended : event.outcome = some (p, gtpcTxId)) :
    [event].countP (Event.isOutcome address) ≤
      if (stack.outstanding seqNum).map Prod.fst = some address then 1 else 0 := by
  simp [List.countP_singleton, Event.isOutcome, ended, outstanding, pending,
    Procedure.outstanding]

/-- Every step is a move in the life of the request with this address. -/
theorem outstanding_step {stack next : Stack Ies} {action : Action Ies}
    {events : List (Event Ies)} (bounded : stack.n3 ≤ 255)
    (taken : stack.step action = some (next, events)) {address : Nat} {stage : Stage}
    (located : AtStage stack.outstanding stack.nextAddress address stage) :
    ∃ stage', AtStage next.outstanding next.nextAddress address stage' ∧
      Move stack.n3 stage (events.countP (Event.isSent address))
        (events.countP (Event.isOutcome address)) stage' := by
  cases effect_of_step taken with
  | requested kind dest rTeid lTeid ies gtpTxId =>
      have shown : List.countP (Event.isSent address)
          [Event.sent (some stack.nextAddress) (stack.initialMsg kind rTeid ies) dest] ≤
          if stack.nextAddress = address then 1 else 0 := by
        simp [List.countP_singleton, Event.isSent]
      cases slot : stack.pendingProcedures[stack.nextSequenceNumber]? with
      | none =>
          rw [outstanding_insert stack _ (insertIfNew_of_absent slot)]
          exact located.issue (by simp [outstanding, slot]) shown
      | some p =>
          have same : (stack.afterInitial kind dest rTeid lTeid ies gtpTxId).outstanding =
              stack.outstanding := by
            funext key
            simp only [outstanding, afterInitial, insertIfNew_of_present slot]
          rw [same]
          exact located.issueUntracked shown
  | opened msg source gtpTxId uids absent request drawn =>
      rw [outstanding_insert stack _ (insertIfNew_of_absent absent)]
      exact ⟨stage, located.update Iff.rfl (by simp [outstanding, absent])
        (by simp [Procedure.outstanding, Procedure.request, peerProcedure]), .idle stage⟩
  | retried timerId indeterminate seqNum p shared armed entry pending request below =>
      simp only [List.countP_singleton, Event.isSent, beq_iff_eq]
      have held : stack.outstanding seqNum = some (shared.address, p.retryCount) := by
        simp [outstanding, pending, Procedure.outstanding, Procedure.request, request]
      have count : (p.retryCount + 1) % 2 ^ 8 = p.retryCount + 1 := by omega
      rw [outstanding_insert stack (stack.afterRetry timerId seqNum p shared) rfl]
      simp only [Procedure.outstanding, Procedure.request, request, count, Option.map_some]
      exact located.retransmit held below
  | closed msg source p pending response =>
      rw [outstanding_erase stack _ msg.sequenceNumber rfl]
      exact located.drop (outcome_le pending rfl)
  | aborted timerId indeterminate seqNum p armed entry pending exhausted =>
      rw [outstanding_erase stack _ seqNum rfl]
      exact located.drop (outcome_le pending rfl)
  | deleted kind dest rTeid ies gtpTxId seqNum p known pending msg =>
      rw [outstanding_erase stack _ seqNum rfl]
      exact located.drop (Nat.zero_le _)
  | cleaned timerId indeterminate seqNum p armed notRetry entry pending =>
      rw [outstanding_erase stack _ seqNum rfl]
      exact located.drop (Nat.zero_le _)
  | _ => exact ⟨stage, located, .idle stage⟩

theorem n3_step {stack next : Stack Ies} {action : Action Ies} {events : List (Event Ies)}
    (taken : stack.step action = some (next, events)) : next.n3 = stack.n3 := by
  cases effect_of_step taken <;> rfl

/-! ### The identifier of an outcome -/

theorem nextAddress_step {stack next : Stack Ies} {action : Action Ies} {events : List (Event Ies)}
    (taken : stack.step action = some (next, events)) :
    next.nextAddress = stack.nextAddress + if action.opens.isSome then 1 else 0 := by
  cases effect_of_step taken <;> rfl

/-- An outcome belongs to a procedure that was pending and carries its identifier. -/
theorem outcome_step {stack next : Stack Ies} {action : Action Ies} {events : List (Event Ies)}
    (taken : stack.step action = some (next, events)) {event : Event Ies} (member : event ∈ events)
    {p : Procedure Ies} {gtpcTxId : Nat} (ended : event.outcome = some (p, gtpcTxId)) :
    (∃ seqNum : Nat, stack.pendingProcedures[seqNum]? = some p) ∧ gtpcTxId = p.gtpcTxId := by
  cases effect_of_step taken with
  | closed msg source q pending response =>
      rw [List.mem_singleton.mp member] at ended
      obtain ⟨rfl, rfl⟩ := Prod.mk.inj (Option.some.inj ended)
      exact ⟨⟨_, pending⟩, rfl⟩
  | aborted timerId indeterminate seqNum q armed entry pending exhausted =>
      rw [List.mem_singleton.mp member] at ended
      obtain ⟨rfl, rfl⟩ := Prod.mk.inj (Option.some.inj ended)
      exact ⟨⟨_, pending⟩, rfl⟩
  | _ => simp_all [Event.outcome]

/-- A pending procedure was pending before, for the same request and with the same identifier;
or the step opened it for a request it sent, or for one it received. -/
theorem pending_step {stack next : Stack Ies} {action : Action Ies} {events : List (Event Ies)}
    (taken : stack.step action = some (next, events)) {seqNum : Nat} {p : Procedure Ies}
    (pending : next.pendingProcedures[seqNum]? = some p) :
    (∃ q, stack.pendingProcedures[seqNum]? = some q ∧ q.request = p.request ∧
        q.gtpcTxId = p.gtpcTxId) ∨
      (p.request = some stack.nextAddress ∧ action.opens = some p.gtpcTxId) ∨
        (p.request = none ∧ action.draws stack = some p.gtpcTxId) := by
  cases effect_of_step taken with
  | requested kind dest rTeid lTeid ies gtpTxId =>
      simp only [afterInitial, Std.ExtTreeMap.getElem?_insertIfNew] at pending
      split at pending
      · obtain rfl := Option.some.inj pending
        exact .inr (.inl ⟨rfl, rfl⟩)
      · exact .inl ⟨p, pending, rfl, rfl⟩
  | opened msg source gtpTxId uids absent initial drawn =>
      simp only [afterOpening, Std.ExtTreeMap.getElem?_insertIfNew] at pending
      split at pending
      · obtain rfl := Option.some.inj pending
        refine .inr (.inr ⟨rfl, ?_⟩)
        simp [Action.draws, absent, initial, drawn, peerProcedure]
      · exact .inl ⟨p, pending, rfl, rfl⟩
  | retried timerId indeterminate number q shared armed entry found message below =>
      simp only [afterRetry, Std.ExtTreeMap.getElem?_insert] at pending
      split at pending
      · next same =>
          obtain rfl := Nat.compare_eq_eq.mp same
          obtain rfl := Option.some.inj pending
          exact .inl ⟨q, found, rfl, rfl⟩
      · exact .inl ⟨p, pending, rfl, rfl⟩
  | closed | deleted | aborted | cleaned => exact .inl ⟨p, getElem?_of_erase pending, rfl, rfl⟩
  | _ => exact .inl ⟨p, pending, rfl, rfl⟩

/-- A pending request was pending before with the same identifier, or the step
opened it. -/
theorem request_step {stack next : Stack Ies} {action : Action Ies} {events : List (Event Ies)}
    (taken : stack.step action = some (next, events)) {seqNum address : Nat} {p : Procedure Ies}
    (pending : next.pendingProcedures[seqNum]? = some p) (request : p.request = some address) :
    (∃ q, stack.pendingProcedures[seqNum]? = some q ∧ q.request = some address ∧
        q.gtpcTxId = p.gtpcTxId) ∨
      address = stack.nextAddress ∧ action.opens = some p.gtpcTxId := by
  rcases pending_step taken pending with ⟨q, found, same, id⟩ | ⟨born, opens⟩ | ⟨received, -⟩
  · exact .inl ⟨q, found, same.trans request, id⟩
  · exact .inr ⟨Option.some.inj (request.symm.trans born), opens⟩
  · rw [request] at received
    cases received

/-- What a run leaves behind of the requests opened in it. -/
structure Identified (records : List (StepRecord (Stack Ies) (Action Ies) (Event Ies)))
    (stack : Stack Ies) : Prop where
  issued : ∀ (seqNum address : Nat) (p : Procedure Ies),
    stack.pendingProcedures[seqNum]? = some p → p.request = some address →
    address < stack.nextAddress
  reported : ∀ event ∈ trace records, ∀ p gtpcTxId address, event.outcome = some (p, gtpcTxId) →
    p.request = some address → address < stack.nextAddress
  opened : ∀ record ∈ records, ∀ gtpTxId, record.action.opens = some gtpTxId →
    record.before.nextAddress < stack.nextAddress ∧
      (∀ (seqNum : Nat) (p : Procedure Ies), stack.pendingProcedures[seqNum]? = some p →
        p.request = some record.before.nextAddress → p.gtpcTxId = gtpTxId) ∧
      ∀ event ∈ trace records, ∀ p gtpcTxId, event.outcome = some (p, gtpcTxId) →
        p.request = some record.before.nextAddress → gtpcTxId = gtpTxId

theorem Identified.step {records : List (StepRecord (Stack Ies) (Action Ies) (Event Ies))}
    {stack next : Stack Ies} {action : Action Ies} {events : List (Event Ies)}
    (identified : Identified records stack) (taken : stack.step action = some (next, events)) :
    Identified (records ++ [⟨stack, action, next, events⟩]) next := by
  obtain ⟨issued, reported, opened⟩ := identified
  have address := nextAddress_step taken
  have later : stack.nextAddress ≤ next.nextAddress := by omega
  -- What the step reports was pending before it.
  have fresh : ∀ event ∈ events, ∀ p gtpcTxId a, event.outcome = some (p, gtpcTxId) →
      p.request = some a → a < stack.nextAddress := by
    intro event member p gtpcTxId a ended request
    obtain ⟨⟨seqNum, pending⟩, -⟩ := outcome_step taken member ended
    exact issued seqNum a p pending request
  constructor
  · intro seqNum a p pending request
    rcases request_step taken pending request with ⟨q, found, same, -⟩ | ⟨rfl, opens⟩
    · exact (issued seqNum a q found same).trans_le later
    · simp only [opens, Option.isSome_some, if_true] at address
      omega
  · simp only [trace_append, trace_singleton, List.mem_append]
    rintro event (member | member) p gtpcTxId a ended request
    · exact (reported event member p gtpcTxId a ended request).trans_le later
    · exact (fresh event member p gtpcTxId a ended request).trans_le later
  · simp only [trace_append, trace_singleton, List.mem_append, List.mem_singleton]
    rintro record (member | rfl) gtpTxId opens
    · obtain ⟨born, pendingId, reportedId⟩ := opened record member gtpTxId opens
      refine ⟨born.trans_le later, ?_, ?_⟩
      · intro seqNum p pending request
        rcases request_step taken pending request with ⟨q, found, same, id⟩ | ⟨new, -⟩
        · exact id ▸ pendingId seqNum q found same
        · omega
      · rintro event (member | member) p gtpcTxId ended request
        · exact reportedId event member p gtpcTxId ended request
        · obtain ⟨⟨seqNum, pending⟩, rfl⟩ := outcome_step taken member ended
          exact pendingId seqNum p pending request
    · simp only at opens ⊢
      simp only [opens, Option.isSome_some, if_true] at address
      refine ⟨by omega, ?_, ?_⟩
      · intro seqNum p pending request
        rcases request_step taken pending request with ⟨q, found, same, -⟩ | ⟨-, id⟩
        · exact absurd (issued seqNum _ q found same) (lt_irrefl _)
        · exact Option.some.inj (id.symm.trans opens)
      · rintro event (member | member) p gtpcTxId ended request
        · exact absurd (reported event member p gtpcTxId _ ended request) (lt_irrefl _)
        · exact absurd (fresh event member p gtpcTxId _ ended request) (lt_irrefl _)

theorem identified_of_run {n3 nanoseconds : Nat} {finish : Stack Ies}
    {records : List (StepRecord (Stack Ies) (Action Ies) (Event Ies))}
    (run : Run step (Stack.init Ies n3 nanoseconds) records finish) :
    Identified records finish := by
  induction run with
  | nil => exact ⟨fun _ _ _ found => by simp [Stack.init] at found, by simp, by simp⟩
  | snoc _ taken inductionHypothesis => exact inductionHypothesis.step taken

/-- A message is delivered, or nobody has answered, for a procedure that was pending, or for
the one that a received request opens. -/
theorem carries_step {stack next : Stack Ies} {action : Action Ies} {events : List (Event Ies)}
    (taken : stack.step action = some (next, events)) {event : Event Ies} (member : event ∈ events)
    {gtpcTxId : Nat} (carries : event.carries gtpcTxId = true) :
    (∃ p, event.outcome = some (p, gtpcTxId)) ∨ action.draws stack = some gtpcTxId := by
  cases effect_of_step taken with
  | opened msg source given uids absent request drawn =>
      rw [List.mem_singleton.mp member] at carries
      rw [← beq_iff_eq.mp carries]
      right
      simp [Action.draws, absent, request, drawn]
  | closed msg source p pending response =>
      rw [List.mem_singleton.mp member] at carries ⊢
      exact .inl ⟨p, by rw [← beq_iff_eq.mp carries]; rfl⟩
  | aborted timerId indeterminate seqNum p armed entry pending exhausted =>
      rw [List.mem_singleton.mp member] at carries ⊢
      exact .inl ⟨p, by rw [← beq_iff_eq.mp carries]; rfl⟩
  | _ => simp_all [Event.carries]

/-- What a run leaves behind of the requests received in it: their identifiers were drawn. -/
structure Drawn (records : List (StepRecord (Stack Ies) (Action Ies) (Event Ies)))
    (stack : Stack Ies) : Prop where
  waiting : ∀ (seqNum : Nat) (p : Procedure Ies), stack.pendingProcedures[seqNum]? = some p →
    p.request = none → ∃ record ∈ records, record.action.draws record.before = some p.gtpcTxId
  carried : ∀ event ∈ trace records, ∀ gtpcTxId, event.carries gtpcTxId = true →
    event.isOutcomeFor gtpcTxId = true ∨
      ∃ record ∈ records, record.action.draws record.before = some gtpcTxId

theorem Drawn.step {records : List (StepRecord (Stack Ies) (Action Ies) (Event Ies))}
    {stack next : Stack Ies} {action : Action Ies} {events : List (Event Ies)}
    (drawn : Drawn records stack) (taken : stack.step action = some (next, events)) :
    Drawn (records ++ [⟨stack, action, next, events⟩]) next := by
  have before {gtpcTxId : Nat}
      (drew : ∃ record ∈ records, record.action.draws record.before = some gtpcTxId) :
      ∃ record ∈ records ++ [⟨stack, action, next, events⟩],
        record.action.draws record.before = some gtpcTxId := by
    obtain ⟨record, member, same⟩ := drew
    exact ⟨record, List.mem_append_left _ member, same⟩
  have now {gtpcTxId : Nat} (draws : action.draws stack = some gtpcTxId) :
      ∃ record ∈ records ++ [⟨stack, action, next, events⟩],
        record.action.draws record.before = some gtpcTxId :=
    ⟨_, List.mem_append_right _ (List.mem_singleton_self _), draws⟩
  constructor
  · intro seqNum p pending received
    rcases pending_step taken pending with ⟨q, found, same, id⟩ | ⟨born, -⟩ | ⟨-, draws⟩
    · rw [← id]
      exact before (drawn.waiting seqNum q found (same.trans received))
    · rw [born] at received
      cases received
    · exact now draws
  · intro event member gtpcTxId carries
    rw [trace_append, trace_singleton, List.mem_append] at member
    rcases member with member | member
    · exact (drawn.carried event member gtpcTxId carries).imp_right before
    · rcases carries_step taken member carries with ⟨p, ended⟩ | draws
      · obtain ⟨⟨seqNum, pending⟩, rfl⟩ := outcome_step taken member ended
        cases request : p.request with
        | none => exact .inr (before (drawn.waiting seqNum p pending request))
        | some address =>
            refine .inl (Option.isSome_iff_exists.mpr ⟨address, ?_⟩)
            exact Event.settled_eq_some.mpr ⟨p, ended, request⟩
      · exact .inr (now draws)

theorem drawn_of_run {n3 nanoseconds : Nat} {finish : Stack Ies}
    {records : List (StepRecord (Stack Ies) (Action Ies) (Event Ies))}
    (run : Run step (Stack.init Ies n3 nanoseconds) records finish) : Drawn records finish := by
  induction run with
  | nil => exact ⟨fun _ _ found => by simp [Stack.init] at found, by simp⟩
  | snoc _ taken inductionHypothesis => exact inductionHypothesis.step taken

section Runs

variable {n3 nanoseconds : Nat} {finish : Stack Ies}
  {records : List (StepRecord (Stack Ies) (Action Ies) (Event Ies))}

/-- A request has at most one outcome and is sent at most `1 + n3` times. -/
theorem lifecycle_of_run (bounded : n3 ≤ 255)
    (run : Run step (Stack.init Ies n3 nanoseconds) records finish) (address : Nat) :
    (trace records).countP (Event.isOutcome address) ≤ 1 ∧
      (trace records).countP (Event.isSent address) ≤ 1 + n3 := by
  obtain ⟨last, -, sends, outcomes⟩ := run.lifecycle n3
    (fun stack stage => stack.n3 = n3 ∧
      AtStage stack.outstanding stack.nextAddress address stage)
    (fun _ _ => True) (Event.isSent address) (Event.isOutcome address) .unborn
    ⟨rfl, by simp [AtStage, Stack.init, outstanding]⟩ (by
      rintro stack action next events stage ⟨same, located⟩ - taken
      obtain ⟨stage', located', move⟩ := outstanding_step (same ▸ bounded) taken located
      exact ⟨stage', ⟨(n3_step taken).trans same, located'⟩, by simpa [same] using move⟩)
    (fun _ _ => trivial)
  simp only [Stage.sendsLeft, Stage.outcomesLeft] at sends outcomes
  exact ⟨by omega, by omega⟩

/-- Every address that was handed out is the one of a request. -/
theorem exists_opening (run : Run step (Stack.init Ies n3 nanoseconds) records finish)
    {address : Nat} (below : address < finish.nextAddress) :
    ∃ record ∈ records, record.before.nextAddress = address ∧
      ∃ gtpTxId, record.action.opens = some gtpTxId := by
  induction run with
  | nil => cases below
  | @snoc records stack next action events earlier taken inductionHypothesis =>
      have handed := nextAddress_step taken
      by_cases before : address < stack.nextAddress
      · obtain ⟨record, member, rest⟩ := inductionHypothesis before
        exact ⟨record, List.mem_append_left _ member, rest⟩
      · refine ⟨_, List.mem_append_right _ (List.mem_singleton_self _), ?_⟩
        cases opens : action.opens with
        | none =>
            rw [opens, Option.isSome_none, if_neg Bool.false_ne_true] at handed
            omega
        | some gtpTxId =>
            rw [opens, Option.isSome_some, if_pos rfl] at handed
            exact ⟨show stack.nextAddress = address by omega, gtpTxId, rfl⟩

/-- An identifier has no more outcomes than requests were opened with it. -/
theorem outcomes_le_openings (bounded : n3 ≤ 255)
    (run : Run step (Stack.init Ies n3 nanoseconds) records finish) (gtpcTxId : Nat) :
    (trace records).countP (Event.isOutcomeFor gtpcTxId) ≤
      (records.filterMap fun record => record.action.opens).count gtpcTxId := by
  have identified := identified_of_run run
  have nodup : ((trace records).filterMap (Event.settled gtpcTxId)).Nodup := by
    rw [List.nodup_iff_count_le_one]
    intro address
    refine le_trans ?_ (lifecycle_of_run bounded run address).1
    rw [List.count_filterMap]
    apply List.countP_mono_left
    intro event _ same
    obtain ⟨p, ended, request⟩ := Event.settled_eq_some.mp (beq_iff_eq.mp same)
    simp [Event.isOutcome, ended, request]
  have opened : (trace records).filterMap (Event.settled gtpcTxId) ⊆
      (records.filter fun record => record.action.opens == some gtpcTxId).map
        fun record => record.before.nextAddress := by
    intro address member
    obtain ⟨event, shown, same⟩ := List.mem_filterMap.mp member
    obtain ⟨p, ended, request⟩ := Event.settled_eq_some.mp same
    obtain ⟨record, inside, born, gtpTxId, opens⟩ :=
      exists_opening run (identified.reported event shown p gtpcTxId address ended request)
    rw [← born] at request
    have carried := (identified.opened record inside gtpTxId opens).2.2 event shown p gtpcTxId
      ended request
    rw [List.mem_map]
    refine ⟨record, List.mem_filter.mpr ⟨inside, ?_⟩, born⟩
    rw [opens, carried, beq_self_eq_true]
  calc (trace records).countP (Event.isOutcomeFor gtpcTxId)
      = ((trace records).filterMap (Event.settled gtpcTxId)).length := by
        rw [List.length_filterMap_eq_countP]
        rfl
    _ ≤ (records.filter fun record => record.action.opens == some gtpcTxId).length :=
        (nodup.subperm opened).length_le.trans_eq (List.length_map _)
    _ = (records.filterMap fun record => record.action.opens).count gtpcTxId := by
        rw [List.count_filterMap, List.countP_eq_length_filter]

/-- Without a received request that was given it, an identifier is carried by outcomes only. -/
theorem carried_le_outcomes (run : Run step (Stack.init Ies n3 nanoseconds) records finish)
    {gtpcTxId : Nat}
    (own : ∀ record ∈ records, record.action.draws record.before ≠ some gtpcTxId) :
    (trace records).countP (Event.carries gtpcTxId) ≤
      (trace records).countP (Event.isOutcomeFor gtpcTxId) := by
  apply List.countP_mono_left
  intro event member carries
  rcases (drawn_of_run run).carried event member gtpcTxId carries with ended | drew
  · exact ended
  · obtain ⟨record, inside, draws⟩ := drew
    exact absurd draws (own record inside)

/-- In every run with `n3 ≤ 255` whose calls of `send_initial_message` have identifiers
of their own, each of them has at most one outcome, and its request is sent at most
`1 + n3` times. When its identifier is none that the stack drew for a received request,
nothing else is delivered under it. -/
theorem one_outcome_sent_boundedly (bounded : n3 ≤ 255)
    (run : Run step (Stack.init Ies n3 nanoseconds) records finish)
    (distinct : (records.filterMap fun record => record.action.opens).Nodup) :
    ∀ record ∈ records, ∀ gtpTxId, record.action.opens = some gtpTxId →
      (trace records).countP (Event.isOutcomeFor gtpTxId) ≤ 1 ∧
        ((∀ received ∈ records, received.action.draws received.before ≠ some gtpTxId) →
          (trace records).countP (Event.carries gtpTxId) ≤ 1) ∧
        (trace records).countP (Event.isSent record.before.nextAddress) ≤ 1 + n3 := by
  intro record _ gtpTxId _
  have once : (trace records).countP (Event.isOutcomeFor gtpTxId) ≤ 1 :=
    (outcomes_le_openings bounded run gtpTxId).trans
      (List.nodup_iff_count_le_one.mp distinct gtpTxId)
  exact ⟨once, fun own => (carried_le_outcomes run own).trans once,
    (lifecycle_of_run bounded run record.before.nextAddress).2⟩

end Runs

/-- Of two requests, one is answered, and one sent again and given up, with `n3 = 1`. A request
of the peer comes in between. -/
theorem one_outcome_of_two :
    ∃ records finish, Run step (Stack.init Unit 1 0) records finish ∧
      (trace records).countP (Event.isOutcomeFor 7) = 1 ∧
      (trace records).countP (Event.isOutcomeFor 8) = 1 ∧
      ∀ record ∈ records, ∀ gtpTxId, record.action.opens = some gtpTxId →
        (trace records).countP (Event.isOutcomeFor gtpTxId) ≤ 1 ∧
          ((∀ received ∈ records, received.action.draws received.before ≠ some gtpTxId) →
            (trace records).countP (Event.carries gtpTxId) ≤ 1) ∧
          (trace records).countP (Event.isSent record.before.nextAddress) ≤ 1 + 1 := by
  obtain ⟨records, finish, run, answered, givenUp, distinct⟩ := Run.exists_of_passes step
    (Stack.init Unit 1 0)
    [.sendInitialMessage .createSession ⟨20, 2123⟩ 0 5 () 7,
      .sendInitialMessage .modifyBearer ⟨20, 2123⟩ 1 5 () 8,
      .timeOut 3 0, .receive ⟨MessageType.downlinkDataNotification, some 5, 40, ()⟩ ⟨20, 2123⟩,
      .receive ⟨MessageType.createSessionResponse, some 5, 1, ()⟩ ⟨20, 2123⟩,
      .timeOut 5 0]
    (fun records _ => (trace records).countP (Event.isOutcomeFor 7) = 1 ∧
      (trace records).countP (Event.isOutcomeFor 8) = 1 ∧
      (records.filterMap fun record => record.action.opens).Nodup) (by decide)
  exact ⟨records, finish, run, answered, givenUp,
    one_outcome_sent_boundedly (by decide) run distinct⟩

/-- No request is sent under the sequence number of a procedure that is still pending. -/
def SequenceNumbersFree
    (records : List (StepRecord (Stack Unit) (Action Unit) (Event Unit))) : Prop :=
  ∀ record ∈ records, record.action.opens.isSome = true →
    record.before.pendingProcedures[record.before.nextSequenceNumber]? = none

instance (records : List (StepRecord (Stack Unit) (Action Unit) (Event Unit))) :
    Decidable (SequenceNumbersFree records) :=
  inferInstanceAs (Decidable (∀ record ∈ records, record.action.opens.isSome = true →
    record.before.pendingProcedures[record.before.nextSequenceNumber]? = none))

/-- A Release Access Bearers Request for each of two connections, with one identifier, and the
two responses. -/
theorem shared_identifier_answered_twice : ¬∀ records finish,
    Run step (Stack.init Unit 3 0) records finish → SequenceNumbersFree records →
      ∀ record ∈ records, ∀ gtpTxId, record.action.opens = some gtpTxId →
        (trace records).countP (Event.isOutcomeFor gtpTxId) ≤ 1 ∧
          (trace records).countP (Event.isSent record.before.nextAddress) ≤ 1 + 3 := by
  intro always
  obtain ⟨records, finish, run, ⟨record, member, opens⟩, free, twice⟩ := Run.exists_of_passes step
    (Stack.init Unit 3 0)
    [.sendInitialMessage .releaseAccessBearers ⟨20, 2123⟩ 1 5 () 9,
      .sendInitialMessage .releaseAccessBearers ⟨20, 2123⟩ 2 6 () 9,
      .receive ⟨MessageType.releaseAccessBearersResponse, some 5, 1, ()⟩ ⟨20, 2123⟩,
      .receive ⟨MessageType.releaseAccessBearersResponse, some 6, 2, ()⟩ ⟨20, 2123⟩]
    (fun records _ => (∃ record ∈ records, record.action.opens = some 9) ∧
      SequenceNumbersFree records ∧ (trace records).countP (Event.isOutcomeFor 9) = 2)
    (by decide)
  have once := (always records finish run free record member 9 opens).1
  omega

end Stack

end OpenairSpgwc.Gtpv2c
