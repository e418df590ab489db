import OpenairSpgwc.Foundation.Index
import OpenairSpgwc.Foundation.Lifecycle
import OpenairSpgwc.Pfcp.Peers

/-!
Contract: how often a request reaches the upper layer, and how often one of
ours reaches the wire.

Owns:
- `outstanding`, the requests of ours that a pending procedure still holds,
  as the slots of the abstract request table;
- the simulation: every step of the stack is a move in the life of each request;
- `delivered_once_sent_boundedly`, both bounds along every run.

A request is known by the address of the object `send_request` made for it.
-/

namespace OpenairSpgwc.Pfcp

open OpenairSpgwc.Common
open OpenairSpgwc.Foundation

variable {Ies : Type}

/-- The request a procedure may send again, with its retransmissions so far. -/
def Procedure.outstanding (p : Procedure Ies) : Option (Nat × Nat) :=
  p.retryMsg.map fun shared => (shared.address, p.retryCount)

/-- The event puts the request with this address on the wire. -/
def Event.isSent (address : Nat) : Event Ies → Bool
  | .sent (some request) _ _ => request == address
  | _ => false

namespace Stack

/-- The slots of the request table. -/
def outstanding (stack : Stack Ies) (seqNum : Nat) : Option (Nat × Nat) :=
  stack.pendingProcedures[seqNum]?.bind Procedure.outstanding

theorem outstanding_erase (stack next : Stack Ies) (seqNum : Nat)
    (erased : next.pendingProcedures = stack.pendingProcedures.erase seqNum) :
    next.outstanding = Function.update stack.outstanding seqNum none := by
  unfold outstanding
  rw [erased]
  exact bind_getElem?_erase _

theorem outstanding_insert (stack next : Stack Ies) {seqNum : Nat} {p : Procedure Ies}
    (inserted : next.pendingProcedures = stack.pendingProcedures.insert seqNum p) :
    next.outstanding = Function.update stack.outstanding seqNum p.outstanding := by
  unfold outstanding
  rw [inserted]
  exact bind_getElem?_insert _

/-- Every step is a move in the life of the request with this address. -/
theorem outstanding_step {stack next : Stack Ies} {action : Action Ies}
    {events : List (Event Ies)} (bounded : stack.n1 ≤ 255)
    (taken : stack.step action = some (next, events)) {address : Nat} {stage : Stage}
    (located : AtStage stack.outstanding stack.nextAddress address stage) :
    ∃ stage', AtStage next.outstanding next.nextAddress address stage' ∧
      Move stack.n1 stage (events.countP (Event.isSent address)) 0 stage' := by
  cases effect_of_step taken with
  | requested kind dest seid ies trxnId =>
      have shown : List.countP (Event.isSent address)
          [Event.sent (some stack.nextAddress) (stack.requestMsg kind seid ies) dest] ≤
          if stack.nextAddress = address then 1 else 0 := by
        simp [List.countP_singleton, Event.isSent]
      cases slot : stack.pendingProcedures[stack.nextSequenceNumber]? with
      | none =>
          rw [outstanding_insert stack _ (insertIfNew_of_absent slot)]
          exact located.issue (by simp [outstanding, slot]) shown
      | some p =>
          have same : (stack.afterRequest kind dest seid ies trxnId).outstanding =
              stack.outstanding := by
            funext key
            simp only [outstanding, afterRequest, insertIfNew_of_present slot]
          rw [same]
          exact located.issueUntracked shown
  | opened msg source trxnId uids absent request drawn =>
      rw [outstanding_insert stack _ (insertIfNew_of_absent absent)]
      exact ⟨stage, located.update Iff.rfl (by simp [outstanding, absent])
        (by simp [Procedure.outstanding, peerProcedure]), .idle stage⟩
  | retried timerId indeterminate seqNum p shared armed entry pending request below =>
      simp only [List.countP_singleton, Event.isSent, beq_iff_eq]
      have held : stack.outstanding seqNum = some (shared.address, p.retryCount) := by
        simp [outstanding, pending, Procedure.outstanding, request]
      have count : (p.retryCount + 1) % 2 ^ 8 = p.retryCount + 1 := by omega
      rw [outstanding_insert stack (stack.afterRetry timerId seqNum p shared) rfl]
      simp only [Procedure.outstanding, request, count, Option.map_some]
      exact located.retransmit held below
  | closed msg source p pending response =>
      rw [outstanding_erase stack _ msg.sequenceNumber rfl]
      exact located.drop (by simp)
  | deleted kind dest seid ies trxnId seqNum p known pending msg =>
      rw [outstanding_erase stack _ seqNum rfl]
      exact located.drop (by simp)
  | cleaned timerId indeterminate seqNum p armed notRetry entry pending =>
      rw [outstanding_erase stack _ seqNum rfl]
      exact located.drop (by simp)
  | _ => exact ⟨stage, located, .idle stage⟩

theorem n1_step {stack next : Stack Ies} {action : Action Ies} {events : List (Event Ies)}
    (taken : stack.step action = some (next, events)) : next.n1 = stack.n1 := by
  cases effect_of_step taken <;> rfl

/-- From any state on, a request is sent at most as often as its stage allows. -/
theorem sends_le {start finish : Stack Ies}
    {records : List (StepRecord (Stack Ies) (Action Ies) (Event Ies))} (bounded : start.n1 ≤ 255)
    (run : Run step start records finish) (address : Nat) (stage : Stage)
    (located : AtStage start.outstanding start.nextAddress address stage) :
    (trace records).countP (Event.isSent address) ≤ stage.sendsLeft start.n1 := by
  obtain ⟨last, -, sends, -⟩ := run.lifecycle start.n1
    (fun stack stage => stack.n1 = start.n1 ∧
      AtStage stack.outstanding stack.nextAddress address stage)
    (fun _ _ => True) (Event.isSent address) (fun _ => false) stage
    ⟨rfl, located⟩ (by
      rintro stack action next events stage ⟨same, located⟩ - taken
      obtain ⟨stage', located', move⟩ := outstanding_step (same ▸ bounded) taken located
      exact ⟨stage', ⟨(n1_step taken).trans same, located'⟩, by simpa [same] using move⟩)
    (fun _ _ => trivial)
  omega

/-- In every run with `n1 ≤ 255`: while a received request is pending no message
of its type and number is delivered; each request of ours is sent at most
`1 + n1` times, and not once more after no procedure holds it. -/
theorem delivered_once_sent_boundedly {n1 nanoseconds : Nat} (bounded : n1 ≤ 255)
    {records : List (StepRecord (Stack Ies) (Action Ies) (Event Ies))} {state : Stack Ies}
    (run : Run step (Stack.init Ies n1 nanoseconds) records state) :
    (∀ msg peer, RequestPending records msg peer →
      ∀ again source next events, again.messageType = msg.messageType →
        again.sequenceNumber = msg.sequenceNumber →
        state.step (.receive again source) = some (next, events) →
        ∀ trxnId closed, Event.delivered again source trxnId closed ∉ events) ∧
    ∀ address, (trace records).countP (Event.isSent address) ≤ 1 + n1 ∧
      (address < state.nextAddress →
        (∀ (seqNum : Nat) (p : Procedure Ies) (shared : SharedMsg Ies),
          state.pendingProcedures[seqNum]? = some p → p.retryMsg = some shared →
            shared.address ≠ address) →
        ∀ later finish, Run step state later finish →
          (trace later).countP (Event.isSent address) = 0) := by
  refine ⟨?_, fun address => ⟨?_, ?_⟩⟩
  · intro msg peer requestPending again source next events sameType sameNumber taken
    rw [requestPending.discarded run sameType sameNumber taken]
    simp
  · have sends := sends_le bounded run address .unborn (by simp [AtStage, Stack.init, outstanding])
    simp only [Stage.sendsLeft, Stack.init] at sends
    omega
  · intro sent removed later finish continued
    have kept : state.n1 = n1 :=
      (run.invariant (fun stack => stack.n1 = n1) rfl
        fun _ _ _ _ same taken => (n1_step taken).trans same).1
    have sends := sends_le (kept ▸ bounded) continued address .ended
      ⟨sent, fun seqNum count held => by
        obtain ⟨p, pending, outstanding⟩ := Option.bind_eq_some_iff.mp held
        obtain ⟨shared, request, same⟩ := Option.map_eq_some_iff.mp outstanding
        exact removed seqNum p shared pending request (Prod.mk.inj same).1⟩
    simpa [Stage.sendsLeft] using sends

/-- A heartbeat of ours that is sent once and once again, with `n1 = 1`. -/
theorem sent_boundedly_heartbeat :
    ∃ records state, Run step (Stack.init Unit 1 0) records state ∧
      (trace records).countP (Event.isSent 0) = 2 ∧
      ∀ address, (trace records).countP (Event.isSent address) ≤ 1 + 1 := by
  obtain ⟨records, state, run, shown⟩ := Run.exists_of_execute step (Stack.init Unit 1 0)
    [.sendRequest .heartbeat ⟨20, 8805⟩ 0 () 0, .timeOut 1 0]
    [.sent (some 0) ⟨1, none, 1, ()⟩ ⟨20, 8805⟩,
      .sent (some 0) ⟨1, none, 1, ()⟩ ⟨20, 8805⟩] (by decide)
  exact ⟨records, state, run, by simp [shown, Event.isSent],
    fun address => ((delivered_once_sent_boundedly (by decide) run).2 address).1⟩

end Stack

end OpenairSpgwc.Pfcp
