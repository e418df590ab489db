import OpenairSpgwc.Foundation.Ledger
import OpenairSpgwc.Foundation.Obligations
import OpenairSpgwc.Pgw.Progress

/-!
Contract: the answers of the PGW to the requests of the SGW.

Beside the gateway runs a ledger of the Sx exchanges that are open: an exchange
is opened by a request to the user plane, and closed by the response or by the
report of the PFCP stack that none came.

Owns:
- `Answerable`, the condition on a message and the state it finds;
- `answered_of_answerable`: after answerable steps, each request has been
  answered once and in kind, or waits for an exchange that is still open, and
  the handler of the next answerable message returns.
-/

namespace OpenairSpgwc.Pgw

open Foundation
open OpenairSpgwc.Common
open Std (ExtTreeMap)

namespace Service

/-- The request of a message; one that needs a valid sender F-TEID and has none
does not count. -/
def Action.request : Action → Option RequestId
  | .session (.createSession request _ _) =>
      if State.Valid request.senderFteidForCp then some ⟨.createSession, request.gtpcTxId⟩ else none
  | .session (.deleteSession request _) =>
      if request.senderFteidForCp.all State.Valid then some ⟨.deleteSession, request.gtpcTxId⟩
      else none
  | .modifyBearer request _ =>
      if request.senderFteidForCp.all State.Valid then some ⟨.modifyBearer, request.gtpcTxId⟩
      else none
  | .releaseAccessBearers request _ => some ⟨.releaseAccessBearers, request.gtpcTxId⟩
  | _ => none

/-- The Sx exchange that comes to its end. -/
def Action.outcome : Action → Option Nat
  | .session (.sessionEstablishmentResponse response) => some response.trxnId
  | .session (.sessionDeletionResponse response) => some response.trxnId
  | .sessionModificationResponse response => some response.trxnId
  | .notifyUlError trxnId => some trxnId
  | _ => none

/-- The open Sx exchanges. -/
def exchanges : Ledger Gateway Action Event Nat where
  opens _ events := events.filterMap Event.asks
  closes _ action trxnId := action.outcome == some trxnId

end Service

namespace Gateway

open Service (exchanges)

variable {config : Config} {g next : Gateway} {pc : Nat} {w : Wait} {events : List Service.Event}
  {action : Service.Action} {requests answers : List RequestId} {asked : List Nat}

/-- The wait that an Sx response is for, if a request is behind it, is found by
the SEID of the response and takes a response of its type. -/
def Fits (g : Gateway) (seid trxnId : Nat) (takes : RequestKind → Bool) : Prop :=
  ∀ pc request, ⟨trxnId, some request⟩ ∈ g.waits pc →
    g.app.seid2pgwContext[seid]? = some pc ∧ takes request.kind = true

/-- No request is behind the transaction. -/
def Unwaited (g : Gateway) (trxnId : Nat) : Prop :=
  ∀ pc request, ⟨trxnId, some request⟩ ∉ g.waits pc

/-- The messages after which the gateway owes no answer that it will not send. -/
def Attended (config : Config) (g : Gateway) : Service.Action → Prop
  | .session (.createSession request upNode _) =>
      State.Valid request.senderFteidForCp = true →
        g.app.Admitted config request ∧ upNode ≠ .sendFailed
  | .session (.deleteSession request sent) =>
      request.senderFteidForCp.all State.Valid = true → ¬g.DeleteDropped request sent
  | .session (.sessionEstablishmentResponse response) =>
      g.Fits response.seid response.trxnId fun kind => kind == .createSession
  | .session (.sessionDeletionResponse response) =>
      g.Fits response.seid response.trxnId fun kind => kind == .deleteSession
  | .modifyBearer request sent =>
      request.senderFteidForCp.all State.Valid = true → ¬g.ModifyDropped request sent
  | .releaseAccessBearers request sent => ¬g.ReleaseDropped request sent
  | .sessionModificationResponse response =>
      g.Fits response.seid response.trxnId takesModification
  | .sessionReport _ _ => True
  | .downlinkDataNotificationAcknowledge ack => g.Unwaited ack.gtpcTxId
  | .notifyUlError trxnId => g.Unwaited trxnId

/-- The messages whose handlers return, and leave no answer out. -/
structure Answerable (config : Config) (g : Gateway) (action : Service.Action) : Prop where
  ready : g.Ready config action
  attended : g.Attended config action

/-! ## Steps -/

/-- The waits with a request behind them. -/
def WaitsFor (g : Gateway) (trxnId : Nat) (request : RequestId) : Prop :=
  ∃ pc, ⟨trxnId, some request⟩ ∈ g.waits pc

/-- The invariant along answerable steps. -/
structure Accounts (requests answers : List RequestId) (g : Gateway) (asked : List Nat) :
    Prop where
  housed : g.Housed
  obligations : Obligations requests answers asked g.WaitsFor

theorem waitsFor_of_same (same : ∀ pc, next.waits pc = g.waits pc) (trxnId : Nat)
    (request : RequestId) : next.WaitsFor trxnId request ↔ g.WaitsFor trxnId request := by
  simp only [WaitsFor, same]

theorem waitsFor_of_adds (adds : Adds g pc w next) (trxnId : Nat) (request : RequestId) :
    next.WaitsFor trxnId request ↔
      g.WaitsFor trxnId request ∨ w = ⟨trxnId, some request⟩ := by
  simp only [WaitsFor, adds.toJoins.mem_waits]
  constructor
  · rintro ⟨other, ⟨-, same⟩ | earlier⟩
    · exact .inr same.symm
    · exact .inl ⟨other, earlier⟩
  · rintro (⟨other, earlier⟩ | same)
    · exact ⟨other, .inr earlier⟩
    · exact ⟨pc, .inl ⟨rfl, same.symm⟩⟩

theorem waitsFor_of_drops (lodged : Lodged g) (drops : Drops g pc w next) (trxnId : Nat)
    (request : RequestId) :
    next.WaitsFor trxnId request ↔ g.WaitsFor trxnId request ∧ trxnId ≠ w.trxnId := by
  simp only [WaitsFor, drops.mem_waits lodged]
  exact exists_and_right

/-- A transaction has one request behind it. -/
theorem WaitsFor.request_eq (lodged : Lodged g) {trxnId : Nat} {request other : RequestId}
    (first : g.WaitsFor trxnId request) (second : g.WaitsFor trxnId other) : other = request := by
  obtain ⟨pc, member⟩ := first
  obtain ⟨pc', member'⟩ := second
  have same := (lodged.wait_eq member' member rfl).2
  rw [Wait.mk.injEq, Option.some.injEq] at same
  exact same.2

theorem mem_after {trxnId : Nat} (distinct : action.outcome ≠ some trxnId) :
    trxnId ∈ asked → trxnId ∈ exchanges.after g action events asked := by
  intro member
  apply List.mem_append_left
  apply mem_eraseP_of_unanswered member
  simpa [exchanges] using distinct

theorem asked_subset_after (silent : action.outcome = none) :
    asked ⊆ exchanges.after g action events asked := by
  intro trxnId
  apply mem_after
  rw [silent]
  exact nofun

/-- A request that is not dropped. -/
theorem Accounts.served (accounts : Accounts requests answers g asked) {request : RequestId}
    {reasons : Prop} (steady : Steady g next) (served : Served g request reasons events next)
    (kept : ¬reasons) (new : request ∉ requests) (silent : action.outcome = none) :
    Accounts (requests ++ [request]) (answers ++ events.filterMap Service.Event.answers) next
      (exchanges.after g action events asked) := by
  refine ⟨accounts.housed.turn steady served.turn, ?_⟩
  cases served with
  | dropped reason => exact absurd reason kept
  | answered same shown =>
      rw [shown.1]
      exact accounts.obligations.answered new (waitsFor_of_same same) (asked_subset_after silent)
  | started pc w adds own shown =>
      rw [shown.1, List.append_nil]
      have added : ∀ trxnId other, next.WaitsFor trxnId other ↔
          g.WaitsFor trxnId other ∨ (trxnId = w.trxnId ∧ other = request) := by
        intro trxnId other
        rw [waitsFor_of_adds adds]
        apply or_congr_right
        constructor
        · intro same
          rw [same, Option.some.injEq] at own
          exact ⟨(congrArg Wait.trxnId same).symm, own⟩
        · rintro ⟨rfl, rfl⟩
          rw [← own]
      refine accounts.obligations.started new added (asked_subset_after silent) ?_
      apply List.mem_append_right
      change w.trxnId ∈ events.filterMap Service.Event.asks
      rw [shown.2]
      exact List.mem_singleton_self _

/-- A step that no request takes notice of. -/
theorem Accounts.unnoticed (accounts : Accounts requests answers g asked) (steady : Steady g next)
    (turn : Turn g next) (shown : Shows events [] [])
    (same : ∀ trxnId request, next.WaitsFor trxnId request ↔ g.WaitsFor trxnId request)
    (unwaited : ∀ trxnId, action.outcome = some trxnId → g.Unwaited trxnId) :
    Accounts requests (answers ++ events.filterMap Service.Event.answers) next
      (exchanges.after g action events asked) := by
  refine ⟨accounts.housed.turn steady turn, ?_⟩
  rw [shown.1, List.append_nil]
  refine accounts.obligations.quiet same fun trxnId request waiting => ?_
  apply mem_after
  · intro ends
    obtain ⟨pc, member⟩ := waiting
    exact unwaited trxnId ends pc request member
  · exact (accounts.obligations.waiting trxnId request waiting).2.2

/-- A response that fits. -/
theorem Accounts.replied (accounts : Accounts requests answers g asked) {seid trxnId : Nat}
    {takes : RequestKind → Bool} (steady : Steady g next)
    (replied : Replied g seid trxnId takes events next) (fits : g.Fits seid trxnId takes)
    (ends : action.outcome = some trxnId) :
    Accounts requests (answers ++ events.filterMap Service.Event.answers) next
      (exchanges.after g action events asked) := by
  cases replied with
  | ignored nobody same shown =>
      refine accounts.unnoticed steady (.idle same) shown (waitsFor_of_same same) ?_
      intro exchange outcome pc request member
      rw [ends, Option.some.injEq] at outcome
      rw [← outcome] at member
      exact nobody pc (fits pc request member).1 _ member rfl
  | ended pc w routed own drops shown =>
      cases behind : w.request with
      | none =>
          rw [behind] at shown
          refine accounts.unnoticed steady (.drops pc w drops) shown ?_ ?_
          · intro exchange request
            rw [waitsFor_of_drops accounts.housed.toLodged drops, and_iff_left_iff_imp]
            rintro ⟨other, member⟩ same
            have one := (accounts.housed.wait_eq member drops.mem same).2
            rw [← one] at behind
            cases behind
          · intro exchange outcome other request member
            rw [ends, Option.some.injEq] at outcome
            have one := (accounts.housed.wait_eq member drops.mem
              (outcome.symm.trans own.symm)).2
            rw [← one] at behind
            cases behind
      | some request =>
          have fields : w = ⟨trxnId, some request⟩ := by rw [← behind, ← own]
          have member := drops.mem
          rw [fields] at member
          have taken := (fits pc request member).2
          refine ⟨accounts.housed.turn steady (.drops pc w drops), ?_⟩
          rw [shown.1, behind, Option.filter_some, taken, if_pos rfl]
          refine accounts.obligations.ended ⟨pc, member⟩ (fun other waiting => ?_)
            (fun exchange other => ?_) fun exchange other waiting different => ?_
          · exact WaitsFor.request_eq accounts.housed.toLodged ⟨pc, member⟩ waiting
          · rw [waitsFor_of_drops accounts.housed.toLodged drops, own]
          · apply mem_after
            · rw [ends, Ne, Option.some.injEq]
              exact different.symm
            · exact (accounts.obligations.waiting exchange other waiting).2.2

/-! ## Requests that do not count -/

theorem handled_of_invalid_create {request : CreateSessionRequest} {upNode : UpNode}
    {endValue : Nat} (invalid : State.Valid request.senderFteidForCp = false)
    (handled : g.handleSession config (.createSession request upNode endValue) =
      some (next, events)) : next = g ∧ events = [] := by
  have ignored : g.app.route config request = .ignored := by
    unfold State.route
    simp only [State.Valid, Bool.and_eq_false_iff, beq_eq_false_iff_ne, bne_eq_false_iff_eq]
      at invalid
    rcases invalid with wrongType | zero
    · rw [if_pos wrongType]
    · rw [if_pos zero, ite_self]
  simp only [handleSession, step, State.handleCreateSessionRequest, ignored, Option.map_some,
    Option.some.injEq, Prod.mk.injEq] at handled
  exact ⟨handled.1.symm, handled.2.symm⟩

theorem any_of_invalid {sender : Option Fteid} (invalid : sender.all State.Valid = false) :
    (sender.any fun sender => sender.interfaceType != s5s8SgwGtpC || sender.teidGreKey == 0) =
      true := by
  cases sender with
  | none => cases invalid
  | some sender =>
      rw [Option.all_some, State.Valid, Bool.and_eq_false_iff, beq_eq_false_iff_ne,
        bne_eq_false_iff_eq] at invalid
      rw [Option.any_some, Bool.or_eq_true, bne_iff_ne, beq_iff_eq]
      exact invalid

theorem handled_of_invalid_delete {request : DeleteSessionRequest} {sent : Bool}
    (invalid : request.senderFteidForCp.all State.Valid = false)
    (handled : g.handleSession config (.deleteSession request sent) = some (next, events)) :
    next = g ∧ events = [] := by
  simp only [handleSession, step, State.handleDeleteSessionRequest, any_of_invalid invalid,
    if_true, Option.map_some, Option.some.injEq, Prod.mk.injEq] at handled
  exact ⟨handled.1.symm, handled.2.symm⟩

theorem handled_of_invalid_modify {request : ModifyBearerRequest} {sent : Bool}
    (invalid : request.senderFteidForCp.all State.Valid = false)
    (handled : g.handleModifyBearerRequest request sent = some (next, events)) :
    next = g ∧ events = [] := by
  simp only [handleModifyBearerRequest, any_of_invalid invalid, if_true, Option.some.injEq,
    Prod.mk.injEq] at handled
  exact ⟨handled.1.symm, handled.2.symm⟩

theorem Accounts.unchanged (accounts : Accounts requests answers g asked)
    (nothing : next = g ∧ events = []) (silent : action.outcome = none) :
    Accounts requests (answers ++ events.filterMap Service.Event.answers) next
      (exchanges.after g action events asked) := by
  obtain ⟨rfl, rfl⟩ := nothing
  refine accounts.unnoticed (steady_of_idle accounts.housed.toLodged accounts.housed.homes (.refl _))
    (.idle fun _ => rfl) ⟨rfl, rfl⟩ (fun _ _ => Iff.rfl) fun trxnId ends => ?_
  rw [silent] at ends
  cases ends

/-! ## Runs -/

/-- One step that leaves no answer out. -/
theorem Accounts.step (accounts : Accounts requests answers g asked)
    (attended : g.Attended config action)
    (new : ∀ request, action.request = some request → request ∉ requests)
    (taken : Service.step config g action = some (next, events)) :
    Accounts (requests ++ action.request.toList)
      (answers ++ events.filterMap Service.Event.answers) next
      (exchanges.after g action events asked) := by
  have lodged := accounts.housed.toLodged
  cases action with
  | session message =>
      cases message with
      | createSession request upNode endValue =>
          simp only [Service.Action.request] at new ⊢
          cases valid : State.Valid request.senderFteidForCp with
          | false =>
              simp only [Bool.false_eq_true, if_false, Option.toList_none, List.append_nil]
              exact accounts.unchanged (handled_of_invalid_create valid taken) rfl
          | true =>
              simp only [valid, if_true, Option.some.injEq, forall_eq'] at new
              obtain ⟨admitted, sent⟩ := attended valid
              obtain ⟨steady, served⟩ := served_create lodged taken
              refine accounts.served steady served ?_ new rfl
              rintro (ignored | failed)
              · exact State.route_ne_ignored valid admitted ignored
              · exact sent failed
      | deleteSession request sent =>
          simp only [Service.Action.request] at new ⊢
          cases valid : request.senderFteidForCp.all State.Valid with
          | false =>
              simp only [Bool.false_eq_true, if_false, Option.toList_none, List.append_nil]
              exact accounts.unchanged (handled_of_invalid_delete valid taken) rfl
          | true =>
              simp only [valid, if_true, Option.some.injEq, forall_eq'] at new
              obtain ⟨steady, served⟩ := served_delete lodged taken
              exact accounts.served steady served (attended valid) new rfl
      | sessionEstablishmentResponse response =>
          obtain ⟨steady, replied⟩ := replied_establishment lodged taken
          simp only [Service.Action.request, Option.toList_none, List.append_nil]
          exact accounts.replied steady replied attended rfl
      | sessionDeletionResponse response =>
          obtain ⟨steady, replied⟩ := replied_deletion lodged taken
          simp only [Service.Action.request, Option.toList_none, List.append_nil]
          exact accounts.replied steady replied attended rfl
  | modifyBearer request sent =>
      simp only [Service.Action.request] at new ⊢
      cases valid : request.senderFteidForCp.all State.Valid with
      | false =>
          simp only [Bool.false_eq_true, if_false, Option.toList_none, List.append_nil]
          exact accounts.unchanged (handled_of_invalid_modify valid taken) rfl
      | true =>
          simp only [valid, if_true, Option.some.injEq, forall_eq'] at new
          obtain ⟨steady, served⟩ := served_modify lodged taken
          exact accounts.served steady served (attended valid) new rfl
  | releaseAccessBearers request sent =>
      obtain ⟨steady, served⟩ := served_release lodged taken
      exact accounts.served steady served attended (new _ rfl) rfl
  | sessionModificationResponse response =>
      simp only [Service.step, Option.some.injEq] at taken
      obtain ⟨steady, replied⟩ := replied_modification lodged taken
      simp only [Service.Action.request, Option.toList_none, List.append_nil]
      exact accounts.replied steady replied attended rfl
  | sessionReport request sent =>
      obtain ⟨steady, shown, same | ⟨pc, w, behind, adds⟩⟩ := reported lodged taken
      · simp only [Service.Action.request, Option.toList_none, List.append_nil]
        exact accounts.unnoticed steady (.idle same) shown (waitsFor_of_same same) nofun
      · simp only [Service.Action.request, Option.toList_none, List.append_nil]
        refine accounts.unnoticed steady (.adds pc w adds) shown (fun trxnId other => ?_) nofun
        rw [waitsFor_of_adds adds, or_iff_left]
        intro same
        rw [same] at behind
        cases behind
  | downlinkDataNotificationAcknowledge ack =>
      simp only [Service.step, Option.some.injEq] at taken
      obtain ⟨steady, shown, same | ⟨pc, w, own, drops⟩⟩ := acknowledged lodged taken
      · simp only [Service.Action.request, Option.toList_none, List.append_nil]
        exact accounts.unnoticed steady (.idle same) shown (waitsFor_of_same same) nofun
      · simp only [Service.Action.request, Option.toList_none, List.append_nil]
        refine accounts.unnoticed steady (.drops pc w drops) shown (fun trxnId other => ?_) nofun
        rw [waitsFor_of_drops lodged drops, and_iff_left_iff_imp]
        rintro ⟨home, member⟩ same
        rw [same, own] at member
        exact attended home other member
  | notifyUlError trxnId =>
      simp only [Service.step, Option.some.injEq, Prod.mk.injEq] at taken
      obtain ⟨rfl, rfl⟩ := taken
      simp only [Service.Action.request, Option.toList_none, List.append_nil]
      refine accounts.unnoticed (steady_of_idle lodged lodged.homes (.refl _))
        (.idle fun _ => rfl) ⟨rfl, rfl⟩ (fun _ _ => Iff.rfl) fun other ends => ?_
      simp only [Service.Action.outcome, Option.some.injEq] at ends
      rw [← ends]
      exact attended

/-- The gateway with its ledger, when it has just started. -/
def start (pdns : List PdnCfg) : Gateway × List Nat := (init pdns, [])

section Runs

variable {pdns : List PdnCfg}
  {records : List (StepRecord (Gateway × List Nat) Service.Action Service.Event)}
  {finish : Gateway × List Nat}

def requestsOf (records : List (StepRecord (Gateway × List Nat) Service.Action Service.Event)) :
    List RequestId :=
  records.filterMap fun record => record.action.request

def answersOf (records : List (StepRecord (Gateway × List Nat) Service.Action Service.Event)) :
    List RequestId :=
  (trace records).filterMap Service.Event.answers

theorem accounts_of_run
    (run : Run (exchanges.watch (Service.step config)) (start pdns) records finish)
    (attended : ∀ record ∈ records, record.before.1.Attended config record.action)
    (distinct : ((requestsOf records).map RequestId.gtpcTxId).Nodup) :
    Accounts (requestsOf records) (answersOf records) finish.1 finish.2 := by
  induction run with
  | nil =>
      refine ⟨housed_init pdns, .initial fun trxnId request waiting => ?_⟩
      obtain ⟨pc, member⟩ := waiting
      cases member
  | @snoc records state next action events earlier taken inductionHypothesis =>
      obtain ⟨stepped, left⟩ := Ledger.watch_eq_some.mp taken
      have requested : requestsOf (records ++ [⟨state, action, next, events⟩]) =
          requestsOf records ++ action.request.toList := by
        rw [requestsOf, List.filterMap_append, ← requestsOf]
        cases own : action.request <;> simp [own]
      have answered : answersOf (records ++ [⟨state, action, next, events⟩]) =
          answersOf records ++ events.filterMap Service.Event.answers := by
        rw [answersOf, trace_append, trace_singleton, List.filterMap_append, ← answersOf]
      rw [requested, List.map_append, List.nodup_append] at distinct
      rw [requested, answered, left]
      have before := inductionHypothesis
        (fun record member => attended record (List.mem_append_left _ member)) distinct.1
      refine before.step (attended _ (List.mem_append_right _ (List.mem_singleton_self _)))
        (fun request own member => ?_) stepped
      refine distinct.2.2 request.gtpcTxId (List.mem_map_of_mem member) request.gtpcTxId ?_ rfl
      rw [own]
      exact List.mem_singleton_self _

/-- The messages with the transaction identifier of the request are one, of the
response type of the request, and no procedure is pending for it. -/
def AnsweredInKind (answers : List RequestId) (g : Gateway) (request : RequestId) : Prop :=
  answers.filter (fun answer => answer.gtpcTxId = request.gtpcTxId) = [request] ∧
    ∀ trxnId, ¬g.WaitsFor trxnId request

/-- No message has been sent, and the Sx exchange of the request is open. -/
def InExchange (answers : List RequestId) (g : Gateway) (asked : List Nat) (request : RequestId) :
    Prop :=
  answers.filter (fun answer => answer.gtpcTxId = request.gtpcTxId) = [] ∧
    ∃ trxnId ∈ asked, g.WaitsFor trxnId request

/-- In every run of answerable steps, in whatever order requests, Sx responses,
reports and errors come: once its Sx exchange is over, a request has been
answered exactly once and in kind, and has no procedure left. And the run goes
on with whatever answerable message comes next. -/
theorem answered_of_answerable
    (run : Run (exchanges.watch (Service.step config)) (start pdns) records finish)
    (answerable : ∀ record ∈ records, record.before.1.Answerable config record.action)
    (distinct : ((requestsOf records).map RequestId.gtpcTxId).Nodup) :
    (∀ request ∈ requestsOf records,
      AnsweredInKind (answersOf records) finish.1 request ∨
        InExchange (answersOf records) finish.1 finish.2 request) ∧
      ∀ action, finish.1.Answerable config action →
        ∃ next events, Service.step config finish.1 action = some (next, events) := by
  constructor
  · intro request member
    have accounts := accounts_of_run run
      (fun record member => (answerable record member).attended) distinct
    exact accounts.obligations.account RequestId.gtpcTxId distinct member
  · intro action answerable
    exact (directory_of_run run.unwatched).exists_step answerable.ready

end Runs

/-- A Configure-Request for the primary DNS server. -/
def dnsRequest : Pco.DecodedPco where
  protocolOrContainerIds :=
    [{ protocolId := Pco.protocolIdentifierIpcp
       lengthOfProtocolIdContents := 10
       protocolIdContents := [0x01, 0x00, 0x00, 0x0A, 0x81, 0x06, 0x00, 0x00, 0x00, 0x00] }]
  wellFormed :=
    { bounded := by decide
      sized := fun poc member => by
        cases List.mem_singleton.mp member
        rfl }

theorem dnsRequest_negotiable : ∀ poc ∈ dnsRequest.protocolOrContainerIds,
    poc.protocolId = Pco.protocolIdentifierIpcp → Pco.Negotiable poc.protocolIdContents := by
  intro poc member _
  rw [List.mem_singleton.mp member]
  exact ⟨by decide, _, .option rfl rfl (by decide) (by decide) (.leftOver (by decide)), by decide⟩

/-- A Create Session Request, the establishment of its session, and its end. -/
def createdSession : Service.Action :=
  .session (.createSession { oneBearer 1 0 none with gtpcTxId := 7, pco := dnsRequest } .sent 0)

def establishedSession : Service.Action :=
  .session (.sessionEstablishmentResponse
    { seid := 1, trxnId := 1, cause := some causeValueRequestAccepted })

def leavingSession : Service.Action :=
  .session (.deleteSession
    { gtpcTxId := 8, teid := 1, senderFteidForCp := some ⟨true, false, s5s8SgwGtpC, 1⟩ } true)

/-- What the response needs, in a state whose procedures are in its contexts. -/
theorem fits_of_bounded (lodged : Lodged g) {seid trxnId : Nat} {takes : RequestKind → Bool}
    (bounded : ∀ pc < g.app.nextAddress, ∀ w ∈ g.waits pc, w.trxnId = trxnId →
      g.app.seid2pgwContext[seid]? = some pc ∧
        (w.request.all fun request => takes request.kind) = true) :
    g.Fits seid trxnId takes := by
  intro pc request member
  by_cases home : pc < g.app.nextAddress
  · exact bounded pc home _ member rfl
  · rw [lodged.empty pc (not_lt.mp home)] at member
    cases member

theorem createdSession_answerable :
    (start twoAddresses.pdns).1.Answerable twoAddresses createdSession where
  ready pc before routed := by
    cases routed
    exact ⟨dnsRequest_negotiable, UintGenerator.supplies_empty Nat.one_le_two_pow,
      .new rfl (by decide) (by decide) ⟨1, by decide⟩⟩
  attended _ := ⟨.inr (.inr (.inl ⟨rfl, rfl⟩)), by decide⟩

/-- A session that is created and established can be deleted. -/
theorem answered_after_establishment :
    ∃ records finish, Run (exchanges.watch (Service.step twoAddresses)) (start twoAddresses.pdns)
        records finish ∧
      requestsOf records = [⟨.createSession, 7⟩] ∧ answersOf records = [⟨.createSession, 7⟩] ∧
      (∀ request ∈ requestsOf records,
        AnsweredInKind (answersOf records) finish.1 request ∨
          InExchange (answersOf records) finish.1 finish.2 request) ∧
      ∃ next events, Service.step twoAddresses finish.1 leavingSession = some (next, events) := by
  have ran : ((exchanges.watch (Service.step twoAddresses)) (start twoAddresses.pdns)
      createdSession).any (fun created =>
        (∀ pc < created.1.1.app.nextAddress, ∀ w ∈ created.1.1.waits pc, w.trxnId = 1 →
          created.1.1.app.seid2pgwContext[1]? = some pc ∧
            (w.request.all fun request => request.kind == .createSession) = true) ∧
        (created.2.filterMap Service.Event.answers = []) ∧
        ((exchanges.watch (Service.step twoAddresses)) created.1 establishedSession).any
          (fun established =>
            established.2.filterMap Service.Event.answers = [⟨.createSession, 7⟩] ∧
              established.1.1.app.uids.uidGenerated.card + 1 ≤ 2 ^ 64) = true) =
      true := by decide
  cases created : (exchanges.watch (Service.step twoAddresses)) (start twoAddresses.pdns)
      createdSession with
  | none =>
      rw [created] at ran
      cases ran
  | some middle =>
      rw [created, Option.any_some, decide_eq_true_iff] at ran
      obtain ⟨bounded, quiet, ran⟩ := ran
      cases established : (exchanges.watch (Service.step twoAddresses)) middle.1
          establishedSession with
      | none =>
          rw [established] at ran
          cases ran
      | some last =>
          rw [established, Option.any_some, decide_eq_true_iff] at ran
          obtain ⟨ran, supplies⟩ := ran
          have first := Run.nil.snoc created
          have run := first.snoc established
          have accounts := accounts_of_run first (by
            intro record member
            rw [List.mem_singleton.mp member]
            exact createdSession_answerable.attended) (List.nodup_singleton 7)
          have fits : middle.1.1.Fits 1 1 fun kind => kind == .createSession :=
            fits_of_bounded accounts.housed.toLodged bounded
          obtain ⟨answered, goesOn⟩ := answered_of_answerable run (by
            intro record member
            rw [List.nil_append, List.singleton_append, List.mem_cons, List.mem_singleton]
              at member
            rcases member with rfl | rfl
            · exact createdSession_answerable
            · exact ⟨trivial, fits⟩) (List.nodup_singleton 7)
          refine ⟨_, _, run, rfl, ?_, answered, goesOn leavingSession ⟨supplies, ?_⟩⟩
          · simp only [answersOf, trace_append, trace_singleton, List.filterMap_append, trace_nil]
            rw [quiet, ran]
            rfl
          · rintro - (invalid | failed | ⟨missing, -⟩)
            · exact absurd invalid (by decide)
            · exact absurd failed (by decide)
            · exact absurd missing (by decide)

/-- When no answer of the user plane comes, the request is not answered. -/
theorem unanswered_after_notifyUlError :
    ∃ records finish, Run (exchanges.watch (Service.step twoAddresses)) (start twoAddresses.pdns)
        records finish ∧
      ⟨.createSession, 7⟩ ∈ requestsOf records ∧
      ¬(AnsweredInKind (answersOf records) finish.1 ⟨.createSession, 7⟩ ∨
        InExchange (answersOf records) finish.1 finish.2 ⟨.createSession, 7⟩) := by
  obtain ⟨records, finish, run, requested, unanswered, closed⟩ := Run.exists_of_passes
    (exchanges.watch (Service.step twoAddresses)) (start twoAddresses.pdns)
    [createdSession, .notifyUlError 1]
    (fun records finish => requestsOf records = [⟨.createSession, 7⟩] ∧
      answersOf records = [] ∧ finish.2 = []) (by decide)
  refine ⟨records, finish, run, ?_, ?_⟩
  · rw [requested]
    exact List.mem_singleton_self _
  · rintro (⟨answered, -⟩ | ⟨-, trxnId, asked, -⟩)
    · rw [unanswered] at answered
      cases answered
    · rw [closed] at asked
      cases asked

end Gateway

end OpenairSpgwc.Pgw
