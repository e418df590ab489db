import OpenairSpgwc.Foundation.Index
import OpenairSpgwc.Foundation.Transition
import OpenairSpgwc.Gtpv2c.Effects
import OpenairSpgwc.Pfcp.Effects

/-!
Contract: the transaction identifiers both stacks draw for received requests.

A procedure without a message of our own was opened by
`handle_receive_message_cb`, with an identifier drawn from the process-wide
generator. `IdsReturned` says of one step that every such procedure it takes
out of `pending_procedures` has its identifier given back and its entry in the
identifier map removed.

Owns: `ids_returned_iff`, for both stacks and every run. Of the seven
`send_response` overloads of PFCP only the heartbeat one gives an identifier
back; the last retransmission timer of GTPv2-C gives none back.
-/

namespace OpenairSpgwc

open OpenairSpgwc.Common
open OpenairSpgwc.Foundation

namespace Pfcp.Stack

variable {Ies : Type}

/-- The identifier is neither in use nor mapped to a sequence number. -/
def Returned (stack : Stack Ies) (trxnId : Nat) : Prop :=
  trxnId ∉ stack.uids.uidGenerated ∧ stack.trxnId2seqNum[trxnId]? = none

/-- Every received transaction that left between the two states gave its
identifier back. -/
def IdsReturned (before after : Stack Ies) : Prop :=
  ∀ (seqNum : Nat) (p : Procedure Ies), before.pendingProcedures[seqNum]? = some p →
    p.retryMsg = none → after.pendingProcedures[seqNum]? = none → after.Returned p.trxnId

/-- A response with `DELETE_TX` that ends a received transaction is a heartbeat
response under the transaction's own identifier, or finds it given back. -/
def MeetsIdReturn (stack : Stack Ies) : Action Ies → Prop
  | .sendResponse kind _ _ _ trxnId .deleteTx =>
      ∀ (seqNum : Nat) (p : Procedure Ies), stack.trxnId2seqNum[trxnId]? = some seqNum →
        stack.pendingProcedures[seqNum]? = some p → p.retryMsg = none →
        (p.trxnId ∉ stack.uids.uidGenerated ∨ kind.freesTrxnId = true ∧ p.trxnId = trxnId) ∧
          (stack.trxnId2seqNum[p.trxnId]? = none ∨ p.trxnId = trxnId)
  | _ => True

/-- A step that takes out at most the procedure under one number. -/
theorem idsReturned_iff_of_erase {stack next : Stack Ies} {seqNum : Nat} {p : Procedure Ies}
    (pending : stack.pendingProcedures[seqNum]? = some p)
    (erased : next.pendingProcedures = stack.pendingProcedures.erase seqNum) :
    IdsReturned stack next ↔ (p.retryMsg = none → next.Returned p.trxnId) :=
  forall_gone_iff_of_erase pending erased

/-- A step that takes nothing out. -/
theorem idsReturned_of_kept {stack next : Stack Ies}
    (kept : ∀ (seqNum : Nat) (p : Procedure Ies), stack.pendingProcedures[seqNum]? = some p →
      next.pendingProcedures[seqNum]? ≠ none) : IdsReturned stack next :=
  forall_gone_of_kept kept

theorem idsReturned_of_same {stack next : Stack Ies}
    (same : next.pendingProcedures = stack.pendingProcedures) : IdsReturned stack next :=
  idsReturned_of_kept fun _ _ pending => by simp [same, pending]

theorem idsReturned_step_iff {stack next : Stack Ies} {action : Action Ies}
    {events : List (Event Ies)} (taken : stack.step action = some (next, events)) :
    IdsReturned stack next ↔ stack.MeetsIdReturn action := by
  cases effect_of_step taken with
  | closed msg source p pending response =>
      rw [idsReturned_iff_of_erase pending rfl]
      simp [Returned, afterClosing, MeetsIdReturn]
  | cleaned timerId indeterminate seqNum p armed notRetry entry pending =>
      rw [idsReturned_iff_of_erase pending rfl]
      simp [Returned, afterCleanup, MeetsIdReturn]
  | deleted kind dest seid ies trxnId seqNum p known pending msg =>
      rw [idsReturned_iff_of_erase pending rfl]
      refine Iff.trans ?_ (forall_lookup_iff seqNum p known pending).symm
      refine imp_congr_right fun _ => and_congr ?_ ?_
      · simp only [afterDeleteTx]
        cases kind.freesTrxnId
        · simp
        · simp [or_comm, imp_iff_not_or]
      · simp only [afterDeleteTx]
        grind
  | requested kind dest seid ies trxnId =>
      refine iff_of_true (idsReturned_of_kept fun seqNum p pending => ?_) trivial
      simp only [afterRequest]
      grind
  | opened msg source trxnId uids absent request drawn =>
      refine iff_of_true (idsReturned_of_kept fun seqNum p pending => ?_) trivial
      simp only [afterOpening]
      grind
  | retried timerId indeterminate seqNum p shared armed entry pending request below =>
      refine iff_of_true (idsReturned_of_kept fun number q found => ?_) trivial
      simp only [afterRetry]
      grind
  | unanswerable kind dest seid ies trxnId action unknown =>
      refine iff_of_true (idsReturned_of_same rfl) ?_
      cases action with
      | deleteTx => exact fun seqNum p known => by simp [unknown] at known
      | continueTx => trivial
  | deletedStale kind dest seid ies trxnId seqNum known absent msg =>
      refine iff_of_true (idsReturned_of_same rfl) fun number p found pending => ?_
      obtain rfl : seqNum = number := by simpa [known] using found
      simp [absent] at pending
  | _ => exact iff_of_true (idsReturned_of_same rfl) trivial

end Pfcp.Stack

namespace Gtpv2c.Stack

variable {Ies : Type}

/-- The identifier is neither in use nor mapped to a sequence number. -/
def Returned (stack : Stack Ies) (gtpcTxId : Nat) : Prop :=
  gtpcTxId ∉ stack.uids.uidGenerated ∧ stack.gtpcTxId2seqNum[gtpcTxId]? = none

/-- Every received transaction that left between the two states gave its
identifier back. -/
def IdsReturned (before after : Stack Ies) : Prop :=
  ∀ (seqNum : Nat) (p : Procedure Ies), before.pendingProcedures[seqNum]? = some p →
    p.retryMsg = none → after.pendingProcedures[seqNum]? = none → after.Returned p.gtpcTxId

/-- A message with `DELETE_TX` that ends a received transaction is sent under the
transaction's own identifier, or finds it given back; a retransmission timer
that gives up a received transaction finds it given back. -/
def MeetsIdReturn (stack : Stack Ies) : Action Ies → Prop
  | .sendTriggeredMessage _ _ _ _ gtpTxId .deleteTx =>
      ∀ (seqNum : Nat) (p : Procedure Ies), stack.gtpcTxId2seqNum[gtpTxId]? = some seqNum →
        stack.pendingProcedures[seqNum]? = some p → p.retryMsg = none →
        p.gtpcTxId = gtpTxId ∨ stack.Returned p.gtpcTxId
  | .timeOut timerId _ =>
      ∀ (seqNum : Nat) (p : Procedure Ies), stack.msgOutRetryTimers[timerId]? = some seqNum →
        stack.pendingProcedures[seqNum]? = some p → ¬p.retryCount < stack.n3 →
        p.retryMsg = none → stack.Returned p.gtpcTxId
  | _ => True

/-- A step that takes out at most the procedure under one number. -/
theorem idsReturned_iff_of_erase {stack next : Stack Ies} {seqNum : Nat} {p : Procedure Ies}
    (pending : stack.pendingProcedures[seqNum]? = some p)
    (erased : next.pendingProcedures = stack.pendingProcedures.erase seqNum) :
    IdsReturned stack next ↔ (p.retryMsg = none → next.Returned p.gtpcTxId) :=
  forall_gone_iff_of_erase pending erased

/-- A step that takes nothing out. -/
theorem idsReturned_of_kept {stack next : Stack Ies}
    (kept : ∀ (seqNum : Nat) (p : Procedure Ies), stack.pendingProcedures[seqNum]? = some p →
      next.pendingProcedures[seqNum]? ≠ none) : IdsReturned stack next :=
  forall_gone_of_kept kept

theorem idsReturned_of_same {stack next : Stack Ies}
    (same : next.pendingProcedures = stack.pendingProcedures) : IdsReturned stack next :=
  idsReturned_of_kept fun _ _ pending => by simp [same, pending]

theorem idsReturned_step_iff {stack next : Stack Ies} {action : Action Ies}
    {events : List (Event Ies)} (taken : stack.step action = some (next, events)) :
    IdsReturned stack next ↔ stack.MeetsIdReturn action := by
  cases effect_of_step taken with
  | closed msg source p pending response =>
      rw [idsReturned_iff_of_erase pending rfl]
      simp [Returned, afterClosing, MeetsIdReturn]
  | cleaned timerId indeterminate seqNum p armed notRetry entry pending =>
      rw [idsReturned_iff_of_erase pending rfl]
      simp [Returned, afterCleanup, MeetsIdReturn, notRetry]
  | deleted kind dest rTeid ies gtpTxId seqNum p known pending msg =>
      rw [idsReturned_iff_of_erase pending rfl]
      refine Iff.trans ?_ (forall_lookup_iff seqNum p known pending).symm
      refine imp_congr_right fun _ => ?_
      simp only [Returned, afterDeleteTx, UintGenerator.freeUid_uidGenerated, Finset.mem_erase]
      grind
  | aborted timerId indeterminate seqNum p armed entry pending exhausted =>
      rw [idsReturned_iff_of_erase pending rfl]
      refine Iff.trans ?_ (forall_lookup_iff seqNum p entry pending).symm
      exact ⟨fun returned _ => returned, fun returned => returned exhausted⟩
  | requested kind dest rTeid lTeid ies gtpTxId =>
      refine iff_of_true (idsReturned_of_kept fun seqNum p pending => ?_) trivial
      simp only [afterInitial]
      grind
  | opened msg source gtpTxId uids absent request drawn =>
      refine iff_of_true (idsReturned_of_kept fun seqNum p pending => ?_) trivial
      simp only [afterOpening]
      grind
  | retried timerId indeterminate seqNum p shared armed entry pending request below =>
      refine iff_of_true (idsReturned_of_kept fun number q found => ?_)
        ((forall_lookup_iff seqNum p entry pending).mpr fun exhausted => absurd below exhausted)
      simp only [afterRetry]
      grind
  | retryIgnored timerId indeterminate seqNum armed entry absent =>
      refine iff_of_true (idsReturned_of_same rfl) fun number p found pending => ?_
      obtain rfl : seqNum = number := by simpa [entry] using found
      simp [absent] at pending
  | cleanedStray timerId indeterminate seqNum armed notRetry entry absent =>
      exact iff_of_true (idsReturned_of_same rfl) fun number p found => by simp [notRetry] at found
  | unhandled timerId indeterminate armed notRetry notCleanup =>
      exact iff_of_true (idsReturned_of_same rfl) fun number p found => by simp [notRetry] at found
  | unanswerable kind dest rTeid ies gtpTxId action unknown =>
      refine iff_of_true (idsReturned_of_same rfl) ?_
      cases action with
      | deleteTx => exact fun seqNum p known => by simp [unknown] at known
      | continueTx => trivial
  | deletedStale kind dest rTeid ies gtpTxId seqNum known absent msg =>
      refine iff_of_true (idsReturned_of_same rfl) fun number p found pending => ?_
      obtain rfl : seqNum = number := by simpa [known] using found
      simp [absent] at pending
  | _ => exact iff_of_true (idsReturned_of_same rfl) trivial

end Gtpv2c.Stack

section Runs

variable (PfcpIes GtpIes : Type)

/-- In every run of either stack the received transactions that end give their
identifiers back exactly when every step meets `MeetsIdReturn`. -/
theorem ids_returned_iff :
    (∀ (n1 nanoseconds : Nat) (records : List (StepRecord (Pfcp.Stack PfcpIes)
        (Pfcp.Action PfcpIes) (Pfcp.Event PfcpIes))) (finish : Pfcp.Stack PfcpIes),
      Run Pfcp.Stack.step (Pfcp.Stack.init PfcpIes n1 nanoseconds) records finish →
      ((∀ record ∈ records, Pfcp.Stack.IdsReturned record.before record.after) ↔
        ∀ record ∈ records, record.before.MeetsIdReturn record.action)) ∧
    (∀ (n3 nanoseconds : Nat) (records : List (StepRecord (Gtpv2c.Stack GtpIes)
        (Gtpv2c.Action GtpIes) (Gtpv2c.Event GtpIes))) (finish : Gtpv2c.Stack GtpIes),
      Run Gtpv2c.Stack.step (Gtpv2c.Stack.init GtpIes n3 nanoseconds) records finish →
      ((∀ record ∈ records, Gtpv2c.Stack.IdsReturned record.before record.after) ↔
        ∀ record ∈ records, record.before.MeetsIdReturn record.action)) := by
  constructor
  · intro n1 nanoseconds records finish run
    exact forall₂_congr fun record member =>
      Pfcp.Stack.idsReturned_step_iff (run.taken record member)
  · intro n3 nanoseconds records finish run
    exact forall₂_congr fun record member =>
      Gtpv2c.Stack.idsReturned_step_iff (run.taken record member)

/-- An association setup request is received and answered with `DELETE_TX`: its
identifier stays in use. -/
theorem association_setup_keeps_id :
    ¬((∀ (n1 nanoseconds : Nat) (records : List (StepRecord (Pfcp.Stack Unit)
          (Pfcp.Action Unit) (Pfcp.Event Unit))) (finish : Pfcp.Stack Unit),
        Run Pfcp.Stack.step (Pfcp.Stack.init Unit n1 nanoseconds) records finish →
        ∀ record ∈ records, Pfcp.Stack.IdsReturned record.before record.after) ∧
      (∀ (n3 nanoseconds : Nat) (records : List (StepRecord (Gtpv2c.Stack Unit)
          (Gtpv2c.Action Unit) (Gtpv2c.Event Unit))) (finish : Gtpv2c.Stack Unit),
        Run Gtpv2c.Stack.step (Gtpv2c.Stack.init Unit n3 nanoseconds) records finish →
        ∀ record ∈ records, Gtpv2c.Stack.IdsReturned record.before record.after)) := by
  rintro ⟨always, -⟩
  have run := ((Run.initial Pfcp.Stack.step (Pfcp.Stack.init Unit 3 0)).andThen
    (.receive ⟨Pfcp.MessageType.associationSetupRequest, none, 9, ()⟩ ⟨10, 8805⟩)
    rfl).andThen (.sendResponse .associationSetup ⟨10, 8805⟩ 0 () 1 .deleteTx) rfl
  have returned := always 3 0 _ _ run _ (List.mem_append_right _ (List.mem_singleton_self _)) 9
    ((Pfcp.Stack.init Unit 3 0).peerProcedure Pfcp.MessageType.associationSetupRequest 1)
    (by decide) (by decide) (by decide)
  exact absurd returned.1 (by decide)

/-- A heartbeat request answered with `DELETE_TX`, and an echo request likewise,
give their identifiers back. -/
theorem heartbeat_and_echo_return_ids :
    (∃ records finish, Run Pfcp.Stack.step (Pfcp.Stack.init Unit 3 0) records finish ∧
      records.map StepRecord.action =
        [.receive ⟨Pfcp.MessageType.heartbeatRequest, none, 9, ()⟩ ⟨10, 8805⟩,
          .sendResponse .heartbeat ⟨10, 8805⟩ 0 () 1 .deleteTx] ∧
      ∀ record ∈ records, Pfcp.Stack.IdsReturned record.before record.after) ∧
    (∃ records finish, Run Gtpv2c.Stack.step (Gtpv2c.Stack.init Unit 3 0) records finish ∧
      records.map StepRecord.action =
        [.receive ⟨Gtpv2c.MessageType.echoRequest, none, 9, ()⟩ ⟨10, 2123⟩,
          .sendTriggeredMessage .echo ⟨10, 2123⟩ 0 () 1 .deleteTx] ∧
      ∀ record ∈ records, Gtpv2c.Stack.IdsReturned record.before record.after) := by
  have run := ((Run.initial Pfcp.Stack.step (Pfcp.Stack.init Unit 3 0)).andThen
    (.receive ⟨Pfcp.MessageType.heartbeatRequest, none, 9, ()⟩ ⟨10, 8805⟩)
    rfl).andThen (.sendResponse .heartbeat ⟨10, 8805⟩ 0 () 1 .deleteTx) rfl
  have run' := ((Run.initial Gtpv2c.Stack.step (Gtpv2c.Stack.init Unit 3 0)).andThen
    (.receive ⟨Gtpv2c.MessageType.echoRequest, none, 9, ()⟩ ⟨10, 2123⟩)
    rfl).andThen (.sendTriggeredMessage .echo ⟨10, 2123⟩ 0 () 1 .deleteTx) rfl
  refine ⟨⟨_, _, run, rfl, ((ids_returned_iff Unit Unit).1 3 0 _ _ run).mpr ?_⟩,
    ⟨_, _, run', rfl, ((ids_returned_iff Unit Unit).2 3 0 _ _ run').mpr ?_⟩⟩
  · simp only [List.nil_append, List.mem_append, List.mem_singleton]
    rintro record (rfl | rfl)
    · trivial
    · refine (forall_lookup_iff 9
        ((Pfcp.Stack.init Unit 3 0).peerProcedure Pfcp.MessageType.heartbeatRequest 1)
        (by decide) (by decide)).mpr ?_
      decide
  · simp only [List.nil_append, List.mem_append, List.mem_singleton]
    rintro record (rfl | rfl)
    · trivial
    · refine (forall_lookup_iff 9
        ((Gtpv2c.Stack.init Unit 3 0).peerProcedure Gtpv2c.MessageType.echoRequest 1)
        (by decide) (by decide)).mpr ?_
      exact fun _ => .inl rfl

end Runs

end OpenairSpgwc
