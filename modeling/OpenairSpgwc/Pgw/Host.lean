import OpenairSpgwc.Pgw.Registry
import OpenairSpgwc.Pgw.Turns

/-!
Contract: the PGW application in the process that it shares with the protocol stacks.

All of them draw transaction identifiers from one generator. The stacks free theirs when
they are done with a transaction, also while a procedure that has the identifier is still
pending; a downlink data report has the identifier that the PFCP stack has given to the
report that it received.

Owns:
- `Host`, the gateway with the reports that were received and not yet handled, and its
  steps, in which the stacks draw and free identifiers at any time;
- that the pending procedures of all contexts have different identifiers, and that the
  message with the identifier of a procedure ends it, once and no other.
-/

namespace OpenairSpgwc.Pgw

open Foundation
open OpenairSpgwc.Common
open Std (ExtTreeMap)

/-! ### Pending procedures -/

/-- An entry of `pending_procedures`. -/
inductive PendingProcedure where
  | session (proc : Procedure)
  | service (proc : Service.Procedure)
deriving DecidableEq

def PendingProcedure.wait : PendingProcedure → Wait
  | .session proc => proc.wait
  | .service proc => proc.wait

def PendingProcedure.trxnId (proc : PendingProcedure) : Nat := proc.wait.trxnId

namespace Gateway

variable {config : Config} {g next : Gateway} {pc : Nat} {events : List Service.Event}

/-- `pending_procedures` of a context. -/
def pendingProcedures (g : Gateway) (pc : Nat) : List PendingProcedure :=
  (g.app.pending pc).map .session ++ (g.procedures pc).map .service

theorem waits_eq (g : Gateway) (pc : Nat) :
    g.waits pc = (g.pendingProcedures pc).map PendingProcedure.wait := by
  rw [pendingProcedures, List.map_append, List.map_map, List.map_map]
  rfl

theorem trxnIds_eq (g : Gateway) (pc : Nat) :
    (g.pendingProcedures pc).map PendingProcedure.trxnId = (g.waits pc).map Wait.trxnId := by
  rw [waits_eq, List.map_map]
  rfl

/-- No two pending procedures of all contexts have the same identifier. -/
def Separate (g : Gateway) : Prop :=
  (∀ pc, ((g.pendingProcedures pc).map PendingProcedure.trxnId).Nodup) ∧
    ∀ pc pc', pc ≠ pc' → ∀ proc ∈ g.pendingProcedures pc, ∀ proc' ∈ g.pendingProcedures pc',
      proc.trxnId ≠ proc'.trxnId

theorem Lodged.separate (lodged : Lodged g) : g.Separate := by
  constructor
  · intro pc
    rw [trxnIds_eq]
    exact lodged.distinct pc
  · intro pc pc' different proc member proc' member'
    apply lodged.apart pc pc' different proc.wait _ proc'.wait
    · rw [waits_eq]
      exact List.mem_map_of_mem member'
    · rw [waits_eq]
      exact List.mem_map_of_mem member

/-! ### Replies -/

/-- The identifier of an Sx response or of an acknowledgement. -/
def replyId : Service.Action → Option Nat
  | .session (.sessionEstablishmentResponse response) => some response.trxnId
  | .session (.sessionDeletionResponse response) => some response.trxnId
  | .sessionModificationResponse response => some response.trxnId
  | .downlinkDataNotificationAcknowledge ack => some ack.gtpcTxId
  | _ => none

/-- The context that it is routed to. -/
def replyContext (g : Gateway) : Service.Action → Option Nat
  | .session (.sessionEstablishmentResponse response) => g.app.seid2pgwContext[response.seid]?
  | .session (.sessionDeletionResponse response) => g.app.seid2pgwContext[response.seid]?
  | .sessionModificationResponse response => g.app.seid2pgwContext[response.seid]?
  | .downlinkDataNotificationAcknowledge ack => g.app.s5s8lteid2pgwContext[ack.teid]?
  | _ => none

/-- The procedure `proc` of a context takes a message: it is the one that is found, and it
alone is no longer pending. -/
structure Takes (g : Gateway) (pc : Nat) (proc : PendingProcedure) (next : Gateway) : Prop where
  found : (g.pendingProcedures pc).find? (fun other => other.trxnId == proc.trxnId) = some proc
  removed : (g.pendingProcedures pc).Perm (proc :: next.pendingProcedures pc)
  others : ∀ other, other ≠ pc → next.pendingProcedures other = g.pendingProcedures other

/-- The message is discarded. -/
structure Discards (g : Gateway) (events : List Service.Event) (next : Gateway) : Prop where
  silent : events = []
  same : ∀ pc, next.pendingProcedures pc = g.pendingProcedures pc

/-- What becomes of a reply: the context that it is routed to, if there is one, has no
procedure for it, or the procedure that is found ends. -/
inductive Handles (g : Gateway) (context : Option Nat) (trxnId : Nat)
    (events : List Service.Event) (next : Gateway) : Prop where
  | nobody
      (missing : ∀ pc, context = some pc →
        ∀ proc ∈ g.pendingProcedures pc, proc.trxnId ≠ trxnId)
      (discards : Discards g events next)
  | service (pc : Nat) (proc : Service.Procedure) (routed : context = some pc)
      (found : g.findProcedure pc trxnId = some proc)
      (pending : ∀ other, next.app.pending other = g.app.pending other)
      (removed : next.procedures = (g.removeProcedure pc trxnId).procedures)
  | session (pc : Nat) (proc : Procedure) (routed : context = some pc)
      (own : proc.trxnId = trxnId) (ends : State.Ends g.app pc proc next.app)
      (same : next.procedures = g.procedures)

theorem missing_of_not_found {trxnId : Nat} (service : g.findProcedure pc trxnId = none)
    (session : g.app.findProcedure pc trxnId = none) :
    ∀ proc ∈ g.pendingProcedures pc, proc.trxnId ≠ trxnId := by
  intro proc member
  apply nobody_of_not_found service session proc.wait
  rw [waits_eq]
  exact List.mem_map_of_mem member

/-- The responses that session management handles. -/
theorem handles_session {seid trxnId : Nat} {kind : RequestKind} {app : State}
    {shown : List Event} (lodged : Lodged g)
    (response : State.Response g.app seid trxnId kind shown app) :
    Handles g g.app.seid2pgwContext[seid]? trxnId (shown.map .session)
      { g.dropMismatched seid trxnId with app := app } := by
  cases response with
  | ignored nobody idle silent =>
      cases routed : g.app.seid2pgwContext[seid]? with
      | none =>
          refine .nobody nofun ⟨by rw [silent]; rfl, fun other => ?_⟩
          rw [pendingProcedures, pendingProcedures, idle.pending, dropMismatched, routed]
      | some pc =>
          have absent := nobody pc routed
          cases found : g.findProcedure pc trxnId with
          | none =>
              refine .nobody ?_ ⟨by rw [silent]; rfl, fun other => ?_⟩
              · intro other same
                cases same
                exact missing_of_not_found found absent
              · rw [pendingProcedures, pendingProcedures, idle.pending, dropMismatched, routed]
                dsimp only
                rw [removeProcedure_of_not_found found]
          | some proc =>
              refine .service pc proc rfl found idle.pending ?_
              rw [dropMismatched, routed]
  | ended pc proc routed own ends answered =>
      have missing := not_found_of_pending lodged (Ends.mem ends) own
      refine .session pc proc routed own ends ?_
      rw [dropMismatched, routed]
      exact removeProcedure_of_not_found missing

theorem handles_modification {answer : SessionModificationResponse}
    (handled : g.handleSessionModificationResponse answer = (next, events)) :
    Handles g g.app.seid2pgwContext[answer.seid]? answer.trxnId events next := by
  unfold handleSessionModificationResponse at handled
  cases routed : g.app.seid2pgwContext[answer.seid]? with
  | none =>
      rw [routed] at handled
      cases handled
      exact .nobody nofun ⟨rfl, fun _ => rfl⟩
  | some pc =>
      rw [routed] at handled
      dsimp only at handled
      cases found : g.findProcedure pc answer.trxnId with
      | some proc =>
          rw [found] at handled
          refine .service pc proc rfl found ?_ ?_
          · dsimp only at handled
            split at handled
            · cases handled
              exact fun _ => rfl
            · cases handled
              exact fun _ => rfl
            · cases handled
              exact fun _ => rfl
          · dsimp only at handled
            split at handled
            · cases handled
              rfl
            · cases handled
              rfl
            · cases handled
              rfl
      | none =>
          rw [found] at handled
          cases session : g.app.findProcedure pc answer.trxnId with
          | some proc =>
              rw [session] at handled
              cases handled
              exact .session pc proc rfl (State.trxnId_of_findProcedure session).1
                (ends_of_found session) rfl
          | none =>
              rw [session] at handled
              cases handled
              refine .nobody ?_ ⟨rfl, fun _ => rfl⟩
              intro other same
              cases same
              exact missing_of_not_found found session

theorem handles_acknowledge {ack : DownlinkDataNotificationAcknowledge}
    (handled : g.handleDownlinkDataNotificationAcknowledge ack = (next, events)) :
    Handles g g.app.s5s8lteid2pgwContext[ack.teid]? ack.gtpcTxId events next := by
  unfold handleDownlinkDataNotificationAcknowledge at handled
  cases routed : g.app.s5s8lteid2pgwContext[ack.teid]? with
  | none =>
      rw [routed] at handled
      cases handled
      exact .nobody nofun ⟨rfl, fun _ => rfl⟩
  | some pc =>
      rw [routed] at handled
      dsimp only at handled
      cases found : g.findProcedure pc ack.gtpcTxId with
      | some proc =>
          rw [found] at handled
          refine .service pc proc rfl found ?_ ?_
          · dsimp only at handled
            split at handled
            · cases handled
              exact fun _ => rfl
            · cases handled
              exact fun _ => rfl
          · dsimp only at handled
            split at handled
            · cases handled
              rfl
            · cases handled
              rfl
      | none =>
          rw [found] at handled
          cases session : g.app.findProcedure pc ack.gtpcTxId with
          | some proc =>
              rw [session] at handled
              cases handled
              exact .session pc proc rfl (State.trxnId_of_findProcedure session).1
                (ends_of_found session) rfl
          | none =>
              rw [session] at handled
              cases handled
              refine .nobody ?_ ⟨rfl, fun _ => rfl⟩
              intro other same
              cases same
              exact missing_of_not_found found session

/-- A reply is handled in every state. -/
theorem handles_of_reply (config : Config) (lodged : Lodged g) {action : Service.Action}
    {trxnId : Nat}
    (reply : replyId action = some trxnId) :
    ∃ next events, Service.step config g action = some (next, events) ∧
      Handles g (g.replyContext action) trxnId events next := by
  cases action with
  | session action =>
      cases action with
      | createSession request upNode endValue => cases reply
      | deleteSession request sent => cases reply
      | sessionEstablishmentResponse response =>
          cases reply
          refine ⟨_, _, rfl, ?_⟩
          exact handles_session lodged (State.response_establishment lodged.homes rfl).2
      | sessionDeletionResponse response =>
          cases reply
          refine ⟨_, _, rfl, ?_⟩
          exact handles_session lodged (State.response_deletion lodged.homes rfl).2
  | modifyBearer request sent => cases reply
  | releaseAccessBearers request sent => cases reply
  | sessionModificationResponse response =>
      cases reply
      exact ⟨_, _, rfl, handles_modification rfl⟩
  | sessionReport request sent => cases reply
  | downlinkDataNotificationAcknowledge ack =>
      cases reply
      exact ⟨_, _, rfl, handles_acknowledge rfl⟩
  | notifyUlError trxnId => cases reply

/-- The one element with a key is found. -/
theorem find?_of_nodup {α : Type} (key : α → Nat) {items : List α} {item : α}
    (nodup : (items.map key).Nodup) (member : item ∈ items) :
    items.find? (fun other => key other == key item) = some item := by
  cases found : items.find? fun other => key other == key item with
  | none =>
      have absent := List.find?_eq_none.mp found item member
      exact absurd (beq_self_eq_true _) absent
  | some other =>
      have matching := List.find?_some found
      have same : key other = key item := beq_iff_eq.mp matching
      rw [List.inj_on_of_nodup_map nodup (List.mem_of_find?_eq_some found) member same]

/-- There is one pending procedure with an identifier. -/
theorem Lodged.eq_of_trxnId (lodged : Lodged g) {proc other : PendingProcedure}
    (member : proc ∈ g.pendingProcedures pc) (inside : other ∈ g.pendingProcedures pc)
    (same : proc.trxnId = other.trxnId) : proc = other :=
  List.inj_on_of_nodup_map (lodged.separate.1 pc) member inside same

/-- The reply with the identifier of a procedure is taken by it. -/
theorem Handles.takes (lodged : Lodged g) {context : Option Nat} {proc : PendingProcedure}
    (handles : Handles g context proc.trxnId events next) (routed : context = some pc)
    (member : proc ∈ g.pendingProcedures pc) : Takes g pc proc next := by
  have found := find?_of_nodup PendingProcedure.trxnId (lodged.separate.1 pc) member
  cases handles with
  | nobody missing discards => exact absurd rfl (missing pc routed proc member)
  | service home taken here hit pending removed =>
      cases Option.some.inj (here.symm.trans routed)
      obtain ⟨own, inside⟩ := of_findProcedure hit
      have same : proc = .service taken := lodged.eq_of_trxnId member
        (List.mem_append_right _ (List.mem_map_of_mem inside)) own.symm
      refine ⟨found, ?_, fun other different => ?_⟩
      · have distinct := lodged.separate.1 pc
        rw [pendingProcedures, List.map_append, List.nodup_append, List.map_map,
          List.map_map] at distinct
        have split := (perm_cons_eraseP Service.Procedure.trxnId distinct.2.1 inside).map
          PendingProcedure.service
        rw [pendingProcedures, pendingProcedures, pending, removed, same, removeProcedure]
        dsimp only
        rw [Function.update_self]
        exact (split.append_left _).trans List.perm_middle
      · rw [pendingProcedures, pendingProcedures, pending, removed, removeProcedure]
        dsimp only
        rw [Function.update_of_ne different]
  | session home taken here own ends same =>
      cases Option.some.inj (here.symm.trans routed)
      have inside := Ends.mem ends
      have equal : proc = .session taken := lodged.eq_of_trxnId member
        (List.mem_append_left _ (List.mem_map_of_mem inside)) own.symm
      refine ⟨found, ?_, fun other different => ?_⟩
      · have split := (perm_cons_eraseP Procedure.address (lodged.addresses pc) inside).map
          PendingProcedure.session
        rw [pendingProcedures, pendingProcedures, ends.pending, same, equal]
        exact split.append_right _
      · rw [pendingProcedures, pendingProcedures, ends.others other different, same]

/-- A reply with an identifier that no pending procedure has is discarded. -/
theorem Handles.discards {context : Option Nat} {trxnId : Nat}
    (handles : Handles g context trxnId events next)
    (spent : ∀ pc, ∀ proc ∈ g.pendingProcedures pc, proc.trxnId ≠ trxnId) :
    Discards g events next := by
  cases handles with
  | nobody missing discards => exact discards
  | service pc proc routed found pending removed =>
      obtain ⟨own, inside⟩ := of_findProcedure found
      exact absurd own (spent pc (.service proc)
        (List.mem_append_right _ (List.mem_map_of_mem inside)))
  | session pc proc routed own ends same =>
      exact absurd own (spent pc (.session proc)
        (List.mem_append_left _ (List.mem_map_of_mem (Ends.mem ends))))

/-! ### Received reports -/

/-- `pgw_context::handle_itti_msg(session report request)` for a report that has got its
identifier. -/
def receivedInContext (g : Gateway) (pc trxnId pdrId : Nat) (sent : Bool) :
    Gateway × List Service.Event :=
  match g.findByPdrId pc pdrId with
  | none => (g, [])
  | some (sp, ebi) =>
      if sent then
        (g.insertProcedure pc ⟨trxnId, sp, .downlinkDataReport ebi⟩,
          [.downlinkDataNotification trxnId
            (g.app.pdnConnections sp).sgwFteidS5S8Cp.teidGreKey ebi])
      else
        (g, [])

/-- The handling of a report is the drawing of its identifier, and the rest. -/
theorem reportInContext_splits (g : Gateway) (pc pdrId : Nat) (sent : Bool) :
    g.reportInContext pc pdrId sent =
      if (g.findByPdrId pc pdrId).isSome then
        g.generateTrxnId.map fun drawn => drawn.2.receivedInContext pc drawn.1 pdrId sent
      else
        some (g, []) := by
  unfold reportInContext
  cases found : g.findByPdrId pc pdrId with
  | none => rfl
  | some both =>
      obtain ⟨sp, ebi⟩ := both
      rw [Option.isSome_some, if_pos rfl]
      unfold generateTrxnId
      cases g.app.uids.getUid with
      | none => rfl
      | some drawn =>
          have later : ({ g with app := { g.app with
              uids := drawn.2, nextAddress := g.app.nextAddress + 1 } } :
                Gateway).findByPdrId pc pdrId = some (sp, ebi) := found
          rw [Option.map_some, Option.map_some, receivedInContext, later]
          cases sent with
          | true => rfl
          | false => rfl

end Gateway

/-- A session report request with the identifier that the PFCP stack has given to it. -/
structure ReceivedReport where
  trxnId : Nat
  request : SessionReportRequest
deriving DecidableEq

namespace Gateway

variable {config : Config} {g next : Gateway} {events : List Service.Event}

/-- `pgw_app::handle_itti_msg(session report request)`. -/
def handleReceivedReport (g : Gateway) (report : ReceivedReport) (sent : Bool) :
    Gateway × List Service.Event :=
  match g.app.seid2pgwContext[report.request.seid]?, report.request.dldr,
      report.request.pdrId with
  | some pc, true, some pdrId => g.receivedInContext pc report.trxnId pdrId sent
  | _, _, _ => (g, [])

/-- A report starts no procedure, or one that has its identifier. -/
theorem received (lodged : Lodged g) {report : ReceivedReport} {sent : Bool}
    (handled : g.handleReceivedReport report sent = (next, events)) :
    Steady g next ∧ next.app = g.app ∧ ((∀ pc, next.waits pc = g.waits pc) ∨
      ∃ pc w, w.trxnId = report.trxnId ∧ Joins g pc w next) := by
  have still : Steady g g := steady_of_idle lodged lodged.homes (.refl _)
  unfold handleReceivedReport at handled
  split at handled
  · next pc pdrId routed _ _ =>
      unfold receivedInContext at handled
      split at handled
      · cases handled
        exact ⟨still, rfl, .inl fun _ => rfl⟩
      · next sp ebi found =>
          split at handled
          · cases handled
            refine ⟨⟨still.homes, still.allocated, still.addresses, still.uids,
              still.nextAddress⟩, rfl, .inr ⟨pc, ⟨report.trxnId, none⟩, rfl, ?_, ?_, ?_⟩⟩
            · exact lodged.homes.seids report.request.seid pc routed
            · rw [waits, waits, insertProcedure]
              dsimp only
              rw [Function.update_self, List.map_append, ← List.append_assoc]
              exact List.perm_append_singleton ..
            · intro other different
              rw [waits, waits, insertProcedure]
              dsimp only
              rw [Function.update_of_ne different]
          · cases handled
            exact ⟨still, rfl, .inl fun _ => rfl⟩
  · cases handled
    exact ⟨still, rfl, .inl fun _ => rfl⟩

end Gateway

/-! ### The host -/

/-- The process: the gateway, whose `uids` is the generator of all, and the reports that
wait in its queue. -/
structure Host where
  gateway : Gateway
  reports : List ReceivedReport

namespace Host

inductive Action where
  | service (action : Service.Action)
  /-- The PFCP stack receives a report. -/
  | reportReceived (request : SessionReportRequest)
  /-- The gateway handles one of the reports. -/
  | reportHandled (place : Nat) (sent : Bool)
  /-- A stack, or a procedure of the SGW, draws an identifier. -/
  | getUid
  | freeUid (uid : Nat)
deriving DecidableEq

def init (pdns : List PdnCfg) : Host := ⟨Gateway.init pdns, []⟩

def uids (h : Host) : UintGenerator 64 := h.gateway.app.uids

def withUids (h : Host) (uids : UintGenerator 64) : Host :=
  { h with gateway := { h.gateway with app := { h.gateway.app with uids := uids } } }

def step (config : Config) (h : Host) : Action → Option (Host × List Service.Event)
  -- A report is received before it is handled.
  | .service (.sessionReport _ _) => none
  | .service action =>
      (Service.step config h.gateway action).map fun result =>
        ({ h with gateway := result.1 }, result.2)
  | .reportReceived request =>
      h.uids.getUid.map fun drawn =>
        ({ h.withUids drawn.2 with reports := h.reports ++ [⟨drawn.1, request⟩] }, [])
  | .reportHandled place sent =>
      h.reports[place]?.map fun report =>
        let result := h.gateway.handleReceivedReport report sent
        (⟨result.1, h.reports.eraseIdx place⟩, result.2)
  | .getUid => h.uids.getUid.map fun drawn => (h.withUids drawn.2, [])
  | .freeUid uid => some (h.withUids (h.uids.freeUid uid), [])

/-- How many identifiers the steps of a run have drawn. -/
def drawn (records : List (StepRecord Host Action Service.Event)) : Nat :=
  (records.map fun record => (record.before.uids.newUids record.after.uids).card).sum

variable {config : Config} {h next : Host} {n : Nat} {events : List Service.Event}

theorem step_service {action : Service.Action}
    (other : ∀ request sent, action ≠ .sessionReport request sent) :
    step config h (.service action) = (Service.step config h.gateway action).map fun result =>
      ({ h with gateway := result.1 }, result.2) := by
  cases action with
  | sessionReport request sent => exact absurd rfl (other request sent)
  | session action => rfl
  | modifyBearer request sent => rfl
  | releaseAccessBearers request sent => rfl
  | sessionModificationResponse response => rfl
  | downlinkDataNotificationAcknowledge ack => rfl
  | notifyUlError trxnId => rfl

/-- A pending procedure or a report that waits has this identifier. -/
def Uses (h : Host) (trxnId : Nat) : Prop :=
  (∃ pc, ∃ w ∈ h.gateway.waits pc, w.trxnId = trxnId) ∨
    ∃ report ∈ h.reports, report.trxnId = trxnId

/-- `n` identifiers were drawn; those in use are among them, and are used once. -/
structure Sorted (n : Nat) (h : Host) : Prop where
  lodged : h.gateway.Lodged
  tracked : h.uids.Tracked n
  bounded : ∀ trxnId, h.Uses trxnId → trxnId ≤ n
  distinct : (h.reports.map ReceivedReport.trxnId).Nodup
  apart : ∀ report ∈ h.reports, ∀ pc, ∀ w ∈ h.gateway.waits pc, w.trxnId ≠ report.trxnId

theorem sorted_init (pdns : List PdnCfg) : Sorted 0 (init pdns) where
  lodged := (Gateway.housed_init pdns).toLodged
  tracked := UintGenerator.tracked_empty
  bounded trxnId uses := by
    cases uses with
    | inl waiting =>
        obtain ⟨pc, w, member, _⟩ := waiting
        cases member
    | inr received =>
        obtain ⟨report, member, _⟩ := received
        cases member
  distinct := List.nodup_nil
  apart report member := by cases member

/-- After a step more identifiers were drawn, and no other one is in use for the first
time. -/
structure Advances (n : Nat) (h next : Host) : Prop where
  sorted : Sorted (n + (h.uids.newUids next.uids).card) next
  fresh : ∀ trxnId, next.Uses trxnId → h.Uses trxnId ∨ n < trxnId

/-- The gateway makes a step of its own. -/
theorem Sorted.turn {g : Gateway} (sorted : Sorted n h) (steady : Gateway.Steady h.gateway g)
    (turn : Gateway.Turn h.gateway g)
    (room : n + (h.uids.newUids g.app.uids).card < 2 ^ 64) :
    Advances n h { h with gateway := g } := by
  obtain ⟨tracked, above⟩ := sorted.tracked.draws steady.uids room
  have old (pc : Nat) (w : Wait) (member : w ∈ h.gateway.waits pc) : w.trxnId ≤ n :=
    sorted.bounded w.trxnId (.inl ⟨pc, w, member, rfl⟩)
  have listed (report : ReceivedReport) (member : report ∈ h.reports) : report.trxnId ≤ n :=
    sorted.bounded report.trxnId (.inr ⟨report, member, rfl⟩)
  -- a wait of the step is an earlier one, or has an identifier that was drawn in it
  have origin : ∀ pc, ∀ w ∈ g.waits pc, w ∈ h.gateway.waits pc ∨
      (n < w.trxnId ∧ w.trxnId ≤ n + (h.uids.newUids g.app.uids).card) := by
    intro pc w member
    cases turn with
    | idle same =>
        rw [same] at member
        exact .inl member
    | adds home wait adds =>
        cases adds.toJoins.mem_waits.mp member with
        | inl new =>
            rw [new.2]
            have live := (Finset.mem_sdiff.mp adds.fresh).1
            exact .inr ⟨above _ adds.fresh, (Finset.mem_Icc.mp (tracked.live live)).2⟩
        | inr earlier => exact .inl earlier
    | drops home wait drops => exact .inl ((drops.mem_waits sorted.lodged).mp member).1
  have fresh : ∀ trxnId, Uses { h with gateway := g } trxnId → h.Uses trxnId ∨
      (n < trxnId ∧ trxnId ≤ n + (h.uids.newUids g.app.uids).card) := by
    intro trxnId uses
    cases uses with
    | inl waiting =>
        obtain ⟨pc, w, member, rfl⟩ := waiting
        cases origin pc w member with
        | inl earlier => exact .inl (.inl ⟨pc, w, earlier, rfl⟩)
        | inr new => exact .inr new
    | inr received => exact .inl (.inr received)
  refine ⟨⟨?_, tracked, ?_, sorted.distinct, ?_⟩, fun trxnId uses => ?_⟩
  · cases turn with
    | idle same => exact sorted.lodged.idle steady same
    | adds home wait adds =>
        apply sorted.lodged.joins steady adds.toJoins
        intro pc other member same
        have bound := old pc other member
        have number := above _ adds.fresh
        omega
    | drops home wait drops => exact sorted.lodged.drops steady drops
  · intro trxnId uses
    cases fresh trxnId uses with
    | inl earlier => exact (sorted.bounded trxnId earlier).trans (Nat.le_add_right ..)
    | inr new => exact new.2
  · intro report member pc w inside
    cases origin pc w inside with
    | inl earlier => exact sorted.apart report member pc w earlier
    | inr new =>
        have bound := listed report member
        omega
  · exact (fresh trxnId uses).imp_right And.left

theorem lodged_withUids (lodged : h.gateway.Lodged) (uids : UintGenerator 64) :
    (h.withUids uids).gateway.Lodged where
  homes := ⟨lodged.homes.imsis, lodged.homes.teids, lodged.homes.seids⟩
  allocated := lodged.allocated
  addresses := lodged.addresses
  empty := lodged.empty
  distinct := lodged.distinct
  apart := lodged.apart

/-- The generator is used by the others. -/
theorem Sorted.withUids (sorted : Sorted n h) {uids : UintGenerator 64}
    (tracked : uids.Tracked (n + (h.uids.newUids uids).card)) :
    Advances n h (h.withUids uids) where
  sorted :=
    { lodged := lodged_withUids sorted.lodged uids
      tracked := tracked
      bounded := fun trxnId uses =>
        (sorted.bounded trxnId uses).trans (Nat.le_add_right ..)
      distinct := sorted.distinct
      apart := sorted.apart }
  fresh _ uses := .inl uses

/-- A report is received, with an identifier that is new. -/
theorem Sorted.reportReceived (sorted : Sorted n h) (request : SessionReportRequest)
    {trxnId : Nat} {uids : UintGenerator 64} (drawn : h.uids.getUid = some (trxnId, uids))
    (room : n + (h.uids.newUids uids).card < 2 ^ 64) :
    Advances n h { h.withUids uids with reports := h.reports ++ [⟨trxnId, request⟩] } := by
  obtain ⟨tracked, above⟩ := sorted.tracked.draws (.single drawn) room
  have number := above trxnId (UintGenerator.mem_newUids_of_getUid drawn)
  have small : trxnId ≤ n + (h.uids.newUids uids).card := by
    have live := (Finset.mem_sdiff.mp (UintGenerator.mem_newUids_of_getUid drawn)).1
    exact (Finset.mem_Icc.mp (tracked.live live)).2
  have fresh : ∀ other, Uses { h.withUids uids with
      reports := h.reports ++ [⟨trxnId, request⟩] } other → h.Uses other ∨ other = trxnId := by
    intro other uses
    cases uses with
    | inl waiting => exact .inl (.inl waiting)
    | inr received =>
        obtain ⟨report, member, own⟩ := received
        cases List.mem_append.mp member with
        | inl earlier => exact .inl (.inr ⟨report, earlier, own⟩)
        | inr last =>
            rw [List.mem_singleton.mp last] at own
            exact .inr own.symm
  refine ⟨⟨lodged_withUids sorted.lodged uids, tracked, ?_, ?_, ?_⟩, fun other uses => ?_⟩
  · intro other uses
    cases fresh other uses with
    | inl earlier => exact (sorted.bounded other earlier).trans (Nat.le_add_right ..)
    | inr new =>
        rw [new]
        exact small
  · rw [List.map_append, List.map_singleton]
    refine List.nodup_append.mpr ⟨sorted.distinct, List.nodup_singleton _, ?_⟩
    intro other earlier last only same
    obtain ⟨report, member, rfl⟩ := List.mem_map.mp earlier
    have bound := sorted.bounded report.trxnId (.inr ⟨report, member, rfl⟩)
    rw [same, List.mem_singleton.mp only] at bound
    exact absurd (number.trans_le bound) (lt_irrefl n)
  · intro report member pc w inside
    cases List.mem_append.mp member with
    | inl earlier => exact sorted.apart report earlier pc w inside
    | inr last =>
        rw [List.mem_singleton.mp last]
        have bound := sorted.bounded w.trxnId (.inl ⟨pc, w, inside, rfl⟩)
        show w.trxnId ≠ trxnId
        omega
  · cases fresh other uses with
    | inl earlier => exact .inl earlier
    | inr new =>
        rw [new]
        exact .inr number

/-- A report is handled: it leaves the queue, and a procedure may take its identifier. -/
theorem Sorted.reportHandled (sorted : Sorted n h) {place : Nat} {report : ReceivedReport}
    (waits : h.reports[place]? = some report) {g : Gateway} {sent : Bool}
    (handled : h.gateway.handleReceivedReport report sent = (g, events)) :
    Advances n h ⟨g, h.reports.eraseIdx place⟩ := by
  obtain ⟨steady, app, outcome⟩ := Gateway.received sorted.lodged handled
  have member : report ∈ h.reports := List.mem_of_getElem? waits
  have rest : ∀ other ∈ h.reports.eraseIdx place,
      other ∈ h.reports ∧ other.trxnId ≠ report.trxnId := by
    intro other inside
    obtain ⟨inRange, here⟩ := List.getElem?_eq_some_iff.mp waits
    have split := (List.getElem_cons_eraseIdx_perm inRange).map ReceivedReport.trxnId
    rw [here, List.map_cons] at split
    have distinct := split.nodup_iff.mpr sorted.distinct
    rw [List.nodup_cons] at distinct
    refine ⟨List.mem_of_mem_eraseIdx inside, fun same => distinct.1 ?_⟩
    rw [← same]
    exact List.mem_map_of_mem inside
  have origin : ∀ pc, ∀ w ∈ g.waits pc,
      w ∈ h.gateway.waits pc ∨ w.trxnId = report.trxnId := by
    intro pc w inside
    cases outcome with
    | inl same =>
        rw [same] at inside
        exact .inl inside
    | inr joined =>
        obtain ⟨home, wait, own, joins⟩ := joined
        cases joins.mem_waits.mp inside with
        | inl new =>
            rw [new.2]
            exact .inr own
        | inr earlier => exact .inl earlier
  have fresh : ∀ trxnId, Uses ⟨g, h.reports.eraseIdx place⟩ trxnId → h.Uses trxnId := by
    intro trxnId uses
    cases uses with
    | inl waiting =>
        obtain ⟨pc, w, inside, own⟩ := waiting
        cases origin pc w inside with
        | inl earlier => exact .inl ⟨pc, w, earlier, own⟩
        | inr same => exact .inr ⟨report, member, same.symm.trans own⟩
    | inr received =>
        obtain ⟨other, inside, own⟩ := received
        exact .inr ⟨other, (rest other inside).1, own⟩
  have same : h.uids.newUids (Host.mk g (h.reports.eraseIdx place)).uids = ∅ := by
    rw [Host.uids, Host.uids, app]
    exact UintGenerator.newUids_self _
  refine ⟨⟨?_, ?_, ?_, ?_, ?_⟩, fun trxnId uses => .inl (fresh trxnId uses)⟩
  · cases outcome with
    | inl same => exact sorted.lodged.idle steady same
    | inr joined =>
        obtain ⟨home, wait, own, joins⟩ := joined
        apply sorted.lodged.joins steady joins
        intro pc w inside
        rw [own]
        exact sorted.apart report member pc w inside
  · rw [same, Finset.card_empty, Nat.add_zero, Host.uids, app]
    exact sorted.tracked
  · intro trxnId uses
    exact (sorted.bounded trxnId (fresh trxnId uses)).trans (Nat.le_add_right ..)
  · exact sorted.distinct.sublist ((List.eraseIdx_sublist ..).map _)
  · intro other inside pc w waiting
    cases origin pc w waiting with
    | inl earlier => exact sorted.apart other (rest other inside).1 pc w earlier
    | inr own =>
        rw [own]
        exact (rest other inside).2.symm

/-- Any step of the host. -/
theorem Sorted.step (sorted : Sorted n h) {action : Action}
    (taken : step config h action = some (next, events))
    (room : n + (h.uids.newUids next.uids).card < 2 ^ 64) : Advances n h next := by
  cases action with
  | service action =>
      have other : ∀ request sent, action ≠ .sessionReport request sent := by
        rintro request sent rfl
        cases taken
      rw [step_service other] at taken
      obtain ⟨⟨g, sent⟩, stepped, same⟩ := Option.map_eq_some_iff.mp taken
      cases same
      obtain ⟨steady, turn⟩ := Gateway.turn_of_step sorted.lodged stepped
      exact sorted.turn steady turn room
  | reportReceived request =>
      obtain ⟨⟨trxnId, uids⟩, drawn, same⟩ := Option.map_eq_some_iff.mp taken
      cases same
      exact sorted.reportReceived request drawn room
  | reportHandled place sent =>
      obtain ⟨report, waits, same⟩ := Option.map_eq_some_iff.mp taken
      cases same
      exact sorted.reportHandled waits rfl
  | getUid =>
      obtain ⟨⟨trxnId, uids⟩, drawn, same⟩ := Option.map_eq_some_iff.mp taken
      cases same
      exact sorted.withUids (sorted.tracked.draws (.single drawn) room).1
  | freeUid uid =>
      cases taken
      apply sorted.withUids
      rw [UintGenerator.newUids_freeUid, Finset.card_empty]
      exact sorted.tracked.freeUid uid

theorem drawn_append (records more : List (StepRecord Host Action Service.Event)) :
    drawn (records ++ more) = drawn records + drawn more := by
  rw [drawn, List.map_append, List.sum_append]
  rfl

/-- Along a run identifiers are drawn in order, and an identifier that is not in use any
more is never used again. -/
theorem Sorted.run (sorted : Sorted n h) {records : List (StepRecord Host Action Service.Event)}
    (run : Run (Host.step config) h records next) (room : n + drawn records < 2 ^ 64) :
    Sorted (n + drawn records) next ∧
      ∀ trxnId, next.Uses trxnId → h.Uses trxnId ∨ n < trxnId := by
  induction run with
  | nil => exact ⟨sorted, fun _ => .inl⟩
  | @snoc records state last action events earlier taken inductionHypothesis =>
      rw [drawn_append, ← Nat.add_assoc] at room ⊢
      have one : drawn [⟨state, action, last, events⟩] =
          (state.uids.newUids last.uids).card := Nat.add_zero _
      rw [one] at room ⊢
      obtain ⟨middle, old⟩ := inductionHypothesis (by omega)
      obtain ⟨later, fresh⟩ := middle.step taken room
      refine ⟨later, fun trxnId uses => ?_⟩
      cases fresh trxnId uses with
      | inl known => exact old trxnId known
      | inr above => exact .inr (by omega)

theorem reply_ne_sessionReport {action : Service.Action} {trxnId : Nat}
    (reply : Gateway.replyId action = some trxnId) (request : SessionReportRequest) (sent : Bool) :
    action ≠ .sessionReport request sent := by
  rintro rfl
  cases reply

/-- A procedure that has taken its reply leaves its identifier unused. -/
theorem Sorted.unused (sorted : Sorted n h) {pc : Nat} {proc : PendingProcedure}
    (member : proc ∈ h.gateway.pendingProcedures pc) (reports : next.reports = h.reports)
    (takes : Gateway.Takes h.gateway pc proc next.gateway) : ¬next.Uses proc.trxnId := by
  intro uses
  cases uses with
  | inl waiting =>
      obtain ⟨home, w, listed, own⟩ := waiting
      rw [Gateway.waits_eq] at listed
      obtain ⟨other, inside, rfl⟩ := List.mem_map.mp listed
      by_cases here : home = pc
      · rw [here] at inside
        have distinct := (takes.removed.map PendingProcedure.trxnId).nodup_iff.mp
          (sorted.lodged.separate.1 pc)
        rw [List.map_cons, List.nodup_cons] at distinct
        apply distinct.1
        rw [← own]
        exact List.mem_map_of_mem inside
      · rw [takes.others home here] at inside
        exact sorted.lodged.separate.2 home pc here other inside proc member own
  | inr received =>
      obtain ⟨report, inside, own⟩ := received
      rw [reports] at inside
      apply sorted.apart report inside pc proc.wait _ own.symm
      rw [Gateway.waits_eq]
      exact List.mem_map_of_mem member

/-- A reply with an identifier that is not in use. -/
theorem Sorted.discards (sorted : Sorted n h) {action : Service.Action} {trxnId : Nat}
    (reply : Gateway.replyId action = some trxnId) (unused : ¬h.Uses trxnId) :
    ∃ next events, Host.step config h (.service action) = some (next, events) ∧
      Gateway.Discards h.gateway events next.gateway := by
  obtain ⟨g, events, stepped, handles⟩ :=
    Gateway.handles_of_reply config sorted.lodged reply
  refine ⟨{ h with gateway := g }, events, ?_, handles.discards fun pc proc member own => ?_⟩
  · rw [step_service (reply_ne_sessionReport reply), stepped]
    rfl
  · apply unused
    refine .inl ⟨pc, proc.wait, ?_, own⟩
    rw [Gateway.waits_eq]
    exact List.mem_map_of_mem member

/-- While fewer than `2 ^ 64` identifiers are drawn, no two pending procedures have the same
one. The reply with the identifier of a procedure, if it is routed to the context, is taken
by this procedure, and every later copy of it is discarded. -/
theorem procedures_correlated {records : List (StepRecord Host Action Service.Event)}
    (run : Run (step config) (init config.pdns) records h) (few : drawn records < 2 ^ 64) :
    h.gateway.Separate ∧
      ∀ (pc : Nat) (proc : PendingProcedure) (action : Service.Action),
        proc ∈ h.gateway.pendingProcedures pc → Gateway.replyId action = some proc.trxnId →
        h.gateway.replyContext action = some pc →
        ∃ next events, step config h (.service action) = some (next, events) ∧
          Gateway.Takes h.gateway pc proc next.gateway ∧
          ∀ more later, Run (step config) next more later →
            drawn (records ++ ⟨h, .service action, next, events⟩ :: more) < 2 ^ 64 →
            ∀ copy, Gateway.replyId copy = some proc.trxnId →
              ∃ last shown, step config later (.service copy) = some (last, shown) ∧
                Gateway.Discards later.gateway shown last.gateway := by
  have start : Sorted 0 (init config.pdns) := sorted_init config.pdns
  obtain ⟨sorted, _⟩ := start.run run (by omega)
  rw [Nat.zero_add] at sorted
  refine ⟨sorted.lodged.separate, fun pc proc action member reply routed => ?_⟩
  obtain ⟨g, events, stepped, handles⟩ :=
    Gateway.handles_of_reply config sorted.lodged reply
  have taken : step config h (.service action) = some ({ h with gateway := g }, events) := by
    rw [step_service (reply_ne_sessionReport reply), stepped]
    rfl
  have takes := handles.takes sorted.lodged routed member
  refine ⟨_, _, taken, takes, fun more later continued room copy again => ?_⟩
  rw [drawn_append] at room
  have one : drawn (⟨h, .service action, { h with gateway := g }, events⟩ :: more) =
      (h.uids.newUids g.app.uids).card + drawn more := List.sum_cons
  rw [one] at room
  obtain ⟨after, _⟩ := sorted.step taken (by
    show drawn records + (h.uids.newUids g.app.uids).card < 2 ^ 64
    omega)
  obtain ⟨last, fresh⟩ := after.run continued (by
    show drawn records + (h.uids.newUids g.app.uids).card + drawn more < 2 ^ 64
    omega)
  apply last.discards again
  intro uses
  cases fresh proc.trxnId uses with
  | inl known => exact absurd known (sorted.unused member rfl takes)
  | inr above =>
      have bound : proc.trxnId ≤ drawn records := by
        apply sorted.bounded
        refine .inl ⟨pc, proc.wait, ?_, rfl⟩
        rw [Gateway.waits_eq]
        exact List.mem_map_of_mem member
      omega

/-- A session, and a report whose identifier is freed while its procedure is pending. -/
def freedReport : List Action :=
  [.service (.session (.createSession (oneBearer 1 0 none) .sent 0)),
    .service (.session (.sessionEstablishmentResponse
      { seid := 1, trxnId := 1, cause := some causeValueRequestAccepted })),
    .reportReceived { seid := 1, pdrId := some 1 }, .reportHandled 0 true, .freeUid 2, .getUid]

def pendingReport : PendingProcedure := .service ⟨2, 2, .downlinkDataReport 5⟩

/-- The acknowledgement still ends it. -/
theorem freed_report_correlated :
    ∃ records h next events,
      Run (step twoAddresses) (init twoAddresses.pdns) records h ∧
      2 ∉ h.uids.uidGenerated ∧ h.gateway.pendingProcedures 0 = [pendingReport] ∧
      step twoAddresses h (.service (.downlinkDataNotificationAcknowledge ⟨2, 1, some true⟩)) =
        some (next, events) ∧
      next.gateway.pendingProcedures 0 = [] := by
  obtain ⟨records, h, run, few, freed, pending, routed⟩ := Run.exists_of_passes
    (step twoAddresses) (init twoAddresses.pdns) freedReport
    (fun records h => drawn records < 2 ^ 64 ∧ 2 ∉ h.uids.uidGenerated ∧
      h.gateway.pendingProcedures 0 = [pendingReport] ∧
      h.gateway.app.s5s8lteid2pgwContext[1]? = some 0) (by decide)
  obtain ⟨next, events, taken, takes, _⟩ := (procedures_correlated run few).2 0 pendingReport
    (.downlinkDataNotificationAcknowledge ⟨2, 1, some true⟩)
    (by rw [pending]; exact List.mem_singleton_self _) rfl routed
  refine ⟨records, h, next, events, run, freed, pending, taken, ?_⟩
  have removed := takes.removed
  rw [pending] at removed
  exact (List.perm_cons _).mp removed |>.nil_eq.symm

end Host

end OpenairSpgwc.Pgw
