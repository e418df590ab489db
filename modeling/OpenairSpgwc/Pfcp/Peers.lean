import OpenairSpgwc.Foundation.Transition
import OpenairSpgwc.Pfcp.Effects

/-!
Contract: received requests that are pending, and the peers they came from.

The stack stores no peer with a received request, so who opened a transaction
is a matter of the run: `RequestPending` says that a message was delivered as
a request and that its number has been in `pending_procedures` since.

Owns:
- the pending procedures without a message of our own are exactly the ones a
  received request opened;
- a pending request is not delivered a second time;
- `isolated_iff`, when the transactions of one peer do not disturb another's.
-/

namespace OpenairSpgwc.Pfcp

open OpenairSpgwc.Common
open OpenairSpgwc.Foundation
open MessageType

variable {Ies : Type}

/-- The ten requests of the protocol, those `check_response_type` knows an answer to. -/
def isRequest (messageType : Nat) : Bool :=
  messageType ∈ [heartbeatRequest, pfdManagementRequest, associationSetupRequest,
    associationUpdateRequest, associationReleaseRequest, nodeReportRequest,
    sessionEstablishmentRequest, sessionModificationRequest, sessionDeletionRequest,
    sessionReportRequest]

theorem checkRequestType_of_isRequest {messageType : Nat} (request : isRequest messageType = true) :
    checkRequestType messageType = true := by
  simp only [isRequest, checkRequestType, decide_eq_true_eq, List.mem_cons] at request ⊢
  tauto

/-- No request type answers itself. -/
theorem checkResponseType_self {messageType : Nat} (request : checkRequestType messageType = true) :
    checkResponseType messageType messageType = false := by
  unfold checkResponseType
  split
  · simp
  · refine beq_eq_false_iff_ne.mpr ?_
    rintro rfl
    exact absurd request (by decide)

/-- A procedure opened by a received request of this type. -/
def Procedure.OpenedBy (p : Procedure Ies) (messageType : Nat) : Prop :=
  p.retryMsg = none ∧ p.checkInitialMsgType = messageType ∧ checkRequestType messageType = true

namespace Stack

/-! ### Requests pending since they were delivered -/

/-- The step delivered `msg` from `peer` and opened a transaction for it. -/
def Opens (msg : Msg Ies) (peer : Endpoint)
    (record : StepRecord (Stack Ies) (Action Ies) (Event Ies)) : Prop :=
  ∃ trxnId, Event.delivered msg peer trxnId none ∈ record.events

/-- `msg` was delivered from `peer` as a request, and its number has been
pending since. -/
def RequestPending (records : List (StepRecord (Stack Ies) (Action Ies) (Event Ies)))
    (msg : Msg Ies) (peer : Endpoint) : Prop :=
  Since records (Opens msg peer) (fun stack => msg.sequenceNumber ∈ stack.pendingProcedures)

private theorem opens_inv {stack next : Stack Ies} {action : Action Ies}
    {events : List (Event Ies)} (taken : stack.step action = some (next, events))
    {msg : Msg Ies} {peer : Endpoint} (opens : Opens msg peer ⟨stack, action, next, events⟩) :
    ∃ p, next.pendingProcedures[msg.sequenceNumber]? = some p ∧
      p.OpenedBy msg.messageType := by
  obtain ⟨trxnId, delivered⟩ := opens
  cases effect_of_step taken with
  | opened received source drawnId uids absent request drawn =>
      simp only [List.mem_singleton, Event.delivered.injEq] at delivered
      obtain ⟨rfl, rfl, rfl, -⟩ := delivered
      exact ⟨stack.peerProcedure msg.messageType trxnId, by simp only [afterOpening]; grind,
        rfl, rfl, request⟩
  | _ => simp at delivered

/-- A request that has been pending since its delivery is still the procedure
pending under its number. -/
theorem RequestPending.procedure {start finish : Stack Ies}
    {records : List (StepRecord (Stack Ies) (Action Ies) (Event Ies))}
    (run : Run step start records finish) {msg : Msg Ies} {peer : Endpoint}
    (requestPending : RequestPending records msg peer) :
    ∃ p, finish.pendingProcedures[msg.sequenceNumber]? = some p ∧
      p.OpenedBy msg.messageType := by
  induction run with
  | nil => exact absurd requestPending not_since_nil
  | @snoc records stack next action events earlier taken inductionHypothesis =>
      obtain ⟨held, opens | before⟩ := since_snoc.mp requestPending
      · exact opens_inv taken opens
      · obtain ⟨p, pending, openedBy⟩ := inductionHypothesis before
        have slot := slot_of_step taken msg.sequenceNumber
        rw [pending] at slot
        generalize after : next.pendingProcedures[msg.sequenceNumber]? = entry at slot
        cases slot with
        | kept => exact ⟨p, rfl, openedBy⟩
        | retried timerId indeterminate _ shared _ request => simp [openedBy.1] at request
        | removed => grind

/-- A pending procedure without a message of our own was opened by a received
request. -/
theorem exists_requestPending {n1 nanoseconds : Nat} {finish : Stack Ies}
    {records : List (StepRecord (Stack Ies) (Action Ies) (Event Ies))}
    (run : Run step (Stack.init Ies n1 nanoseconds) records finish) {seqNum : Nat}
    {p : Procedure Ies} (pending : finish.pendingProcedures[seqNum]? = some p)
    (foreign : p.retryMsg = none) :
    ∃ msg peer, msg.sequenceNumber = seqNum ∧ RequestPending records msg peer := by
  induction run generalizing p with
  | nil => simp [Stack.init] at pending
  | @snoc records stack next action events earlier taken inductionHypothesis =>
      have slot := slot_of_step taken seqNum
      have member : seqNum ∈ next.pendingProcedures := by grind
      rw [pending] at slot
      generalize before : stack.pendingProcedures[seqNum]? = entry at slot
      cases slot with
      | kept =>
          obtain ⟨msg, peer, rfl, requestPending⟩ := inductionHypothesis before foreign
          exact ⟨msg, peer, rfl, since_snoc.mpr ⟨member, .inr requestPending⟩⟩
      | requested => simp [requestProcedure] at foreign
      | opened msg source trxnId number =>
          subst number
          exact ⟨msg, source, rfl, since_snoc.mpr ⟨member, .inl ⟨trxnId, by simp⟩⟩⟩
      | retried _ _ _ _ _ request => simp [request] at foreign

/-- A message of the type and number of a pending request is not delivered. -/
theorem RequestPending.discarded {start finish next : Stack Ies}
    {records : List (StepRecord (Stack Ies) (Action Ies) (Event Ies))}
    (run : Run step start records finish) {msg : Msg Ies} {peer : Endpoint}
    (requestPending : RequestPending records msg peer) {again : Msg Ies} {source : Endpoint}
    {events : List (Event Ies)} (sameType : again.messageType = msg.messageType)
    (sameNumber : again.sequenceNumber = msg.sequenceNumber)
    (taken : finish.step (.receive again source) = some (next, events)) :
    events = [.discarded again source] := by
  obtain ⟨p, pending, foreign, initial, request⟩ := requestPending.procedure run
  rw [← sameNumber] at pending
  cases effect_of_step taken with
  | opened _ _ _ _ absent => simp [pending] at absent
  | discardedInitial _ _ absent => simp [pending] at absent
  | discardedTriggered => rfl
  | closed _ _ closing found response =>
      obtain rfl : p = closing := by simpa [pending] using found
      rw [initial, sameType, checkResponseType_self request] at response
      cases response

/-! ### Peers against each other -/

/-- A request from `peer` with this number is pending. -/
def PendingFrom (records : List (StepRecord (Stack Ies) (Action Ies) (Event Ies)))
    (seqNum : Nat) (peer : Endpoint) : Prop :=
  ∃ opening, opening.sequenceNumber = seqNum ∧ RequestPending records opening peer

/-- What the reception of `msg` from `source` owes the other peers, in the state
`stack` that `records` led to. -/
structure Isolated (records : List (StepRecord (Stack Ies) (Action Ies) (Event Ies)))
    (stack : Stack Ies) (msg : Msg Ies) (source : Endpoint) : Prop where
  /-- A request is delivered with a fresh identifier, unless the same peer's
  request with this number is pending. -/
  delivered : isRequest msg.messageType = true → ¬PendingFrom records msg.sequenceNumber source →
    ∃ next trxnId, trxnId ∉ stack.uids.uidGenerated ∧
      stack.step (.receive msg source) = some (next, [.delivered msg source trxnId none])
  /-- A transaction of ours is closed by the endpoint its request was sent to. -/
  ownClosed : ∀ next events trxnId p, stack.step (.receive msg source) = some (next, events) →
    Event.delivered msg source trxnId (some p) ∈ events → p.retryMsg ≠ none →
    source = p.remoteEndpoint
  /-- A transaction opened by a received request is not closed by the network. -/
  peerKept : ∀ peer next events trxnId p, PendingFrom records msg.sequenceNumber peer →
    stack.step (.receive msg source) = some (next, events) →
    Event.delivered msg source trxnId (some p) ∉ events

/-- The number of the message is free, or the message belongs to the transaction
that holds it. -/
def MeetsItsOwn (records : List (StepRecord (Stack Ies) (Action Ies) (Event Ies)))
    (stack : Stack Ies) (msg : Msg Ies) (source : Endpoint) : Prop :=
  match stack.pendingProcedures[msg.sequenceNumber]? with
  | none => isRequest msg.messageType = true → stack.uids.getUid ≠ none
  | some p =>
      if p.retryMsg = none then
        (isRequest msg.messageType = true → PendingFrom records msg.sequenceNumber source) ∧
          checkResponseType p.checkInitialMsgType msg.messageType = false
      else
        isRequest msg.messageType = false ∧
          (checkResponseType p.checkInitialMsgType msg.messageType = true →
            source = p.remoteEndpoint)

/-- Under a pending number nothing is opened. -/
private theorem not_opened {stack next : Stack Ies} {msg : Msg Ies} {source : Endpoint}
    {p : Procedure Ies} {trxnId : Nat}
    (pending : stack.pendingProcedures[msg.sequenceNumber]? = some p) :
    stack.step (.receive msg source) ≠ some (next, [.delivered msg source trxnId none]) := by
  intro taken
  generalize shown : [Event.delivered msg source trxnId none] = events at taken
  cases effect_of_step taken with
  | opened _ _ _ _ absent => simp [pending] at absent
  | _ => simp at shown

private theorem exists_opened {stack : Stack Ies} {msg : Msg Ies} {source : Endpoint}
    (absent : stack.pendingProcedures[msg.sequenceNumber]? = none)
    (request : checkRequestType msg.messageType = true) (left : stack.uids.getUid ≠ none) :
    ∃ next trxnId, trxnId ∉ stack.uids.uidGenerated ∧
      stack.step (.receive msg source) = some (next, [.delivered msg source trxnId none]) := by
  obtain ⟨⟨trxnId, uids⟩, drawn⟩ := Option.ne_none_iff_exists'.mp left
  refine ⟨stack.afterOpening msg trxnId uids, trxnId, (UintGenerator.getUid_spec drawn).1, ?_⟩
  simp only [step, receive, handleReceiveMessageCb, absent, request, drawn, ↓reduceIte]
  rfl

private theorem exists_closed {stack : Stack Ies} {msg : Msg Ies} (source : Endpoint)
    {p : Procedure Ies} (pending : stack.pendingProcedures[msg.sequenceNumber]? = some p)
    (response : checkResponseType p.checkInitialMsgType msg.messageType = true) :
    ∃ next, stack.step (.receive msg source) =
      some (next, [.delivered msg source p.trxnId (some p)]) := by
  simp [step, receive, handleReceiveMessageCb, pending, response]

/-- What a closing delivery says about the state before it. -/
private theorem closed_inv {stack next : Stack Ies} {msg : Msg Ies} {source : Endpoint}
    {p : Procedure Ies} {trxnId : Nat} {events : List (Event Ies)}
    (taken : stack.step (.receive msg source) = some (next, events))
    (delivered : Event.delivered msg source trxnId (some p) ∈ events) :
    stack.pendingProcedures[msg.sequenceNumber]? = some p ∧
      checkResponseType p.checkInitialMsgType msg.messageType = true := by
  cases effect_of_step taken with
  | closed _ _ closing pending response =>
      simp only [List.mem_singleton, Event.delivered.injEq, Option.some.injEq] at delivered
      obtain ⟨-, -, -, rfl⟩ := delivered
      exact ⟨pending, response⟩
  | _ => simp at delivered

private theorem PendingFrom.procedure {start finish : Stack Ies}
    {records : List (StepRecord (Stack Ies) (Action Ies) (Event Ies))}
    (run : Run step start records finish) {seqNum : Nat} {peer : Endpoint}
    (pendingFrom : PendingFrom records seqNum peer) :
    ∃ p, finish.pendingProcedures[seqNum]? = some p ∧ p.retryMsg = none := by
  obtain ⟨opening, rfl, requestPending⟩ := pendingFrom
  obtain ⟨p, pending, openedBy⟩ := requestPending.procedure run
  exact ⟨p, pending, openedBy.1⟩

section Holders

variable {start finish : Stack Ies}
  {records : List (StepRecord (Stack Ies) (Action Ies) (Event Ies))} {msg : Msg Ies}
  {source : Endpoint}

private theorem isolated_iff_of_absent (run : Run step start records finish)
    (absent : finish.pendingProcedures[msg.sequenceNumber]? = none) :
    Isolated records finish msg source ↔
      (isRequest msg.messageType = true → finish.uids.getUid ≠ none) := by
  have nobody : ∀ peer, ¬PendingFrom records msg.sequenceNumber peer := by
    intro peer pendingFrom
    obtain ⟨p, pending, -⟩ := pendingFrom.procedure run
    simp [absent] at pending
  constructor
  · rintro isolated request exhausted
    obtain ⟨next, trxnId, -, taken⟩ := isolated.delivered request (nobody source)
    simp [step, receive, handleReceiveMessageCb, absent,
      checkRequestType_of_isRequest request, exhausted] at taken
  · intro left
    refine ⟨fun request _ =>
      exists_opened absent (checkRequestType_of_isRequest request) (left request), ?_, ?_⟩
    · intro next events trxnId p taken delivered
      have pending := (closed_inv taken delivered).1
      simp [absent] at pending
    · exact fun peer _ _ _ _ pendingFrom => absurd pendingFrom (nobody peer)

private theorem isolated_iff_of_foreign {p : Procedure Ies} {peer : Endpoint}
    (pending : finish.pendingProcedures[msg.sequenceNumber]? = some p)
    (pendingFrom : PendingFrom records msg.sequenceNumber peer) :
    Isolated records finish msg source ↔
      (isRequest msg.messageType = true → PendingFrom records msg.sequenceNumber source) ∧
        checkResponseType p.checkInitialMsgType msg.messageType = false := by
  constructor
  · intro isolated
    refine ⟨fun request => ?_, ?_⟩
    · by_contra elsewhere
      obtain ⟨next, trxnId, -, taken⟩ := isolated.delivered request elsewhere
      exact not_opened pending taken
    · by_contra response
      obtain ⟨next, taken⟩ := exists_closed source pending (by simpa using response)
      exact isolated.peerKept peer _ _ _ _ pendingFrom taken (List.mem_singleton_self _)
  · rintro ⟨retransmission, noResponse⟩
    have kept : ∀ next events trxnId q,
        finish.step (.receive msg source) = some (next, events) →
        Event.delivered msg source trxnId (some q) ∉ events := by
      intro next events trxnId q taken delivered
      obtain ⟨found, response⟩ := closed_inv taken delivered
      obtain rfl : p = q := by simpa [pending] using found
      simp [noResponse] at response
    refine ⟨fun request elsewhere => absurd (retransmission request) elsewhere, ?_, ?_⟩
    · exact fun next events trxnId q taken delivered =>
        absurd delivered (kept next events trxnId q taken)
    · exact fun _ next events trxnId q _ taken => kept next events trxnId q taken

private theorem isolated_iff_of_own (run : Run step start records finish) {p : Procedure Ies}
    (pending : finish.pendingProcedures[msg.sequenceNumber]? = some p) (own : p.retryMsg ≠ none) :
    Isolated records finish msg source ↔
      isRequest msg.messageType = false ∧
        (checkResponseType p.checkInitialMsgType msg.messageType = true →
          source = p.remoteEndpoint) := by
  have nobody : ∀ peer, ¬PendingFrom records msg.sequenceNumber peer := by
    intro peer pendingFrom
    obtain ⟨q, found, foreign⟩ := pendingFrom.procedure run
    obtain rfl : p = q := by simpa [pending] using found
    exact own foreign
  constructor
  · intro isolated
    refine ⟨?_, fun response => ?_⟩
    · by_contra request
      obtain ⟨next, trxnId, -, taken⟩ :=
        isolated.delivered (by simpa using request) (nobody source)
      exact not_opened pending taken
    · obtain ⟨next, taken⟩ := exists_closed source pending response
      exact isolated.ownClosed _ _ _ p taken (List.mem_singleton_self _) own
  · rintro ⟨noRequest, addressee⟩
    refine ⟨fun request => by simp [noRequest] at request, ?_, ?_⟩
    · intro next events trxnId q taken delivered _
      obtain ⟨found, response⟩ := closed_inv taken delivered
      obtain rfl : p = q := by simpa [pending] using found
      exact addressee response
    · exact fun peer _ _ _ _ pendingFrom => absurd pendingFrom (nobody peer)

end Holders

/-- In every reachable state the reception of a message leaves the transactions
of other peers alone exactly when the number it carries is free or held by the
transaction it belongs to. -/
theorem isolated_iff {n1 nanoseconds : Nat} {finish : Stack Ies}
    {records : List (StepRecord (Stack Ies) (Action Ies) (Event Ies))}
    (run : Run step (Stack.init Ies n1 nanoseconds) records finish)
    (msg : Msg Ies) (source : Endpoint) :
    Isolated records finish msg source ↔ MeetsItsOwn records finish msg source := by
  unfold MeetsItsOwn
  split
  · next absent => exact isolated_iff_of_absent run absent
  · next p pending =>
      split
      · next foreign =>
          obtain ⟨opening, peer, number, requestPending⟩ :=
            exists_requestPending run pending foreign
          exact isolated_iff_of_foreign pending ⟨opening, number, requestPending⟩
      · next own => exact isolated_iff_of_own run pending own

/-- A heartbeat request of one peer hides the heartbeat request of another that
chose the same number. -/
theorem isolated_fails_for_second_peer :
    ¬∀ (n1 nanoseconds : Nat) (records : List (StepRecord (Stack Unit) (Action Unit) (Event Unit)))
      (finish : Stack Unit), Run step (Stack.init Unit n1 nanoseconds) records finish →
      ∀ msg source, Isolated records finish msg source := by
  intro always
  have run := (Run.initial step (Stack.init Unit 3 0)).andThen
    (.receive ⟨heartbeatRequest, none, 7, ()⟩ ⟨10, 8805⟩) rfl
  have isolated := always 3 0 _ _ run ⟨heartbeatRequest, none, 7, ()⟩ ⟨20, 8805⟩
  obtain ⟨next, trxnId, -, taken⟩ := isolated.delivered (by decide) (by
    rintro ⟨opening, -, requestPending⟩
    obtain ⟨-, ⟨trxnId, delivered⟩ | earlier⟩ := since_snoc.mp requestPending
    · simp at delivered
    · exact not_since_nil earlier)
  exact not_opened (p := (Stack.init Unit 3 0).peerProcedure heartbeatRequest 1) (by decide) taken

/-- The answer to our own heartbeat, from the peer it was sent to, disturbs nobody. -/
theorem isolated_own_answer :
    ∃ records finish, Run step (Stack.init Unit 3 0) records finish ∧
      records.map StepRecord.action = [.sendRequest .heartbeat ⟨20, 8805⟩ 0 () 0] ∧
      Isolated records finish ⟨heartbeatResponse, none, 1, ()⟩ ⟨20, 8805⟩ := by
  have run := (Run.initial step (Stack.init Unit 3 0)).andThen
    (.sendRequest .heartbeat ⟨20, 8805⟩ 0 () 0) rfl
  refine ⟨_, _, run, rfl, (isolated_iff run _ _).mpr ?_⟩
  exact ⟨by decide, fun _ => rfl⟩

end Stack

end OpenairSpgwc.Pfcp
