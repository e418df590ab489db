import OpenairSpgwc.Pgw.Effects
import OpenairSpgwc.Pgw.Modifications

/-!
Contract: what a step of the PGW does to each of its PDN connections.

Owns:
- `Evolves`, the writes of all handlers to one connection, and that every step is made
  of them;
- that every connection of every reachable state is `Sound`;
- that the answers which wait for a session establishment are still as the request left
  them: accepted, and without bearer contexts.
-/

namespace OpenairSpgwc.Pgw

open Foundation
open OpenairSpgwc.Common
open Std (ExtTreeMap)

namespace PdnConnection

/-- What the handlers do to one connection, one after the other. -/
inductive Evolves : PdnConnection → PdnConnection → Prop where
  | refl (pdn : PdnConnection) : Evolves pdn pdn
  | trans {first second third : PdnConnection} (earlier : Evolves first second)
      (later : Evolves second third) : Evolves first third
  | inserted {pdn next : PdnConnection} (noBearers : next.epsBearers = ∅)
      (farIds : next.farIdGenerator = .empty) (pdrIds : next.pdrIdGenerator = .empty) :
      Evolves pdn next
  | set (pdn : PdnConnection) (paa : Paa) : Evolves pdn (pdn.set paa)
  | generateSeid (pdn : PdnConnection) (instanceId : Nat) :
      Evolves pdn (pdn.generateSeid instanceId)
  | addBearers {pdn next : PdnConnection} {bearers : List BearerContextToBeCreated}
      {rules : List UplinkRules} (added : addBearers pdn bearers = some (next, rules)) :
      Evolves pdn next
  | established (pdn : PdnConnection) (response : SessionEstablishmentResponse) :
      Evolves pdn (State.established pdn response)
  | cleared (pdn : PdnConnection) : Evolves pdn pdn.clear
  | modified {pdn : PdnConnection} {its : List BearerContextToBeModified} {m : Modification}
      (ran : Modification.bearers { pdn := pdn } its = some m) : Evolves pdn m.pdn
  | completed (pdn : PdnConnection) (toBeModified : List BearerContextToBeModified)
      (updateFars : List UpdateFar) (pending : ModifyBearerResponse)
      (response : SessionModificationResponse) :
      Evolves pdn (Gateway.completed pdn toBeModified updateFars pending response).1
  | releaseBearers (pdn : PdnConnection) : Evolves pdn (Gateway.releaseBearers pdn)

theorem Evolves.sound {pdn next : PdnConnection} (evolves : pdn.Evolves next) (sound : pdn.Sound) :
    next.Sound := by
  induction evolves with
  | refl pdn => exact sound
  | trans earlier later first second => exact second (first sound)
  | inserted noBearers farIds pdrIds =>
      apply sound_of_empty noBearers
      rw [farIds, pdrIds]
      exact numbered_empty
  | set pdn paa => exact sound.set paa
  | generateSeid pdn instanceId => exact sound.congr rfl rfl rfl
  | addBearers added => exact sound.addBearers added
  | established pdn response => exact sound.relabels (sound.established response)
  | cleared pdn => exact sound.clear
  | modified ran => exact Modification.sound_of_bearers sound ran
  | completed pdn toBeModified updateFars pending response =>
      exact sound.relabels (sound.completed toBeModified updateFars pending response)
  | releaseBearers pdn => exact sound.relabels sound.releaseBearers

end PdnConnection

/-- The answer of a request whose session is being established. -/
def ProcedureKind.Unanswered : ProcedureKind → Prop
  | .sessionEstablishment _ pending =>
      pending.cause = .requestAccepted ∧ pending.bearerContextsCreated = []
  | .deleteSession _ _ _ => True

namespace State

variable {config : Config} {s t u : State} {request : CreateSessionRequest}
  {response : CreateSessionResponse} {upNode : UpNode} {events : List Event}
  {pc sa sp endValue : Nat} {label : String}

/-- Each connection evolves, and new procedures have their answers still to come. -/
structure Evolved (s t : State) : Prop where
  connections : ∀ sp, (s.pdnConnections sp).Evolves (t.pdnConnections sp)
  procedures : ∀ pc, ∀ proc ∈ (t.contexts pc).pendingProcedures,
    proc ∈ (s.contexts pc).pendingProcedures ∨ proc.kind.Unanswered

theorem Evolved.refl (s : State) : Evolved s s :=
  ⟨fun _ => .refl _, fun _ _ member => .inl member⟩

theorem Evolved.trans (first : Evolved s t) (second : Evolved t u) : Evolved s u where
  connections sp := (first.connections sp).trans (second.connections sp)
  procedures pc proc member := by
    cases second.procedures pc proc member with
    | inl before => exact first.procedures pc proc before
    | inr new => exact .inr new

/-- Nothing of what evolves is written. -/
theorem Evolved.of_eq (connections : t.pdnConnections = s.pdnConnections)
    (contexts : t.contexts = s.contexts) : Evolved s t where
  connections sp := by
    rw [connections]
    exact .refl _
  procedures pc proc member := by
    rw [contexts] at member
    exact .inl member

theorem evolved_setPdnConnection {pdn : PdnConnection}
    (evolves : (s.pdnConnections sp).Evolves pdn) : Evolved s (s.setPdnConnection sp pdn) where
  connections other := by
    show (s.pdnConnections other).Evolves (Function.update s.pdnConnections sp pdn other)
    by_cases here : other = sp
    · rw [here, Function.update_self]
      exact evolves
    · rw [Function.update_of_ne here]
      exact .refl _
  procedures _ _ member := .inl member

theorem evolved_setContext {context : PgwContext}
    (procedures : context.pendingProcedures ⊆ (s.contexts pc).pendingProcedures) :
    Evolved s (s.setContext pc context) where
  connections _ := .refl _
  procedures other proc member := by
    change proc ∈ (Function.update s.contexts pc context other).pendingProcedures at member
    by_cases here : other = pc
    · rw [here, Function.update_self] at member
      rw [here]
      exact .inl (procedures member)
    · rw [Function.update_of_ne here] at member
      exact .inl member

theorem evolved_removeProcedure (address : Nat) : Evolved s (s.removeProcedure pc address) :=
  evolved_setContext List.eraseP_subset

theorem evolved_deleteIfEmpty : Evolved s (s.deleteIfEmpty pc) := by
  unfold deleteIfEmpty
  split
  · exact .of_eq rfl rfl
  · exact .refl s

theorem Started.evolved {ppc : Nat} {kind : ProcedureKind} {proc : Procedure}
    (started : Started s pc ppc kind proc t) (unanswered : kind.Unanswered) : Evolved s t where
  connections sp := by
    rw [started.pdnConnections]
    exact .refl _
  procedures other entry member := by
    rw [started.contexts] at member
    by_cases here : other = pc
    · rw [here, Function.update_self] at member
      cases List.mem_append.mp member with
      | inl old =>
          rw [here]
          exact .inl old
      | inr new =>
          rw [List.mem_singleton.mp new, started.shape.2.2]
          exact .inr unanswered
    · rw [Function.update_of_ne here] at member
      exact .inl member

/-! ### Creating -/

theorem evolved_attach (attached : s.attach pc request = some (t, sa, sp)) : Evolved s t := by
  unfold attach at attached
  split at attached
  · cases attached
    exact .refl s
  · simp only [generateS5s8CpTeid] at attached
    split at attached
    · cases attached
    · split at attached
      · cases attached
      · next teid drawn generated =>
          split at generated
          · cases generated
          · cases generated
            cases attached
            constructor
            · intro other
              by_cases here : other = s.nextAddress + 1
              · rw [here]
                apply PdnConnection.Evolves.inserted
                · simp [setApnContext, setContext, setPdnConnection]
                · simp [setApnContext, setContext, setPdnConnection]
                · simp [setApnContext, setContext, setPdnConnection]
              · simp only [setApnContext, setContext, setPdnConnection,
                  Function.update_of_ne here]
                exact .refl _
            · intro other proc member
              by_cases here : other = pc
              · simp only [setApnContext, setContext, setPdnConnection, here,
                  Function.update_self] at member
                rw [here]
                exact .inl member
              · simp only [setApnContext, setContext, setPdnConnection,
                  Function.update_of_ne here] at member
                exact .inl member

theorem evolved_establish (accepted : response.cause = .requestAccepted)
    (noContexts : response.bearerContextsCreated = [])
    (ran : s.establish config pc sa sp request response upNode = some (t, events)) :
    Evolved s t := by
  unfold establish at ran
  split at ran
  · cases ran
  · next proc inserted started =>
      have start : Evolved s inserted :=
        (started_of_startProcedure started).evolved ⟨accepted, noContexts⟩
      split at ran
      · cases ran
        exact start.trans ((evolved_removeProcedure proc.address).trans (.of_eq rfl rfl))
      · split at ran
        · cases ran
        · next after sentEvents result =>
            have established : Evolved inserted after := by
              unfold runEstablishment at result
              split at result
              · cases result
              · next pdn rules added =>
                  cases result
                  have evolves := (PdnConnection.Evolves.generateSeid
                    (inserted.pdnConnections sp) config.instanceId).trans (.addBearers added)
                  exact (evolved_setPdnConnection evolves).trans (.of_eq rfl rfl)
            split at ran
            · cases ran
              exact start.trans established
            · cases ran
              exact start.trans (established.trans (evolved_removeProcedure proc.address))

theorem evolved_assignPaa
    (ran : s.assignPaa config pc sa sp request upNode endValue = some (t, events)) :
    Evolved s t := by
  obtain ⟨pcoResp, pcoIds, nas, ran⟩ := assignPaaWith_of_assignPaa ran
  unfold assignPaaWith at ran
  simp only [selectPaa_of_nas nas] at ran
  split at ran
  · next accepted =>
      split at ran
      · cases ran
      · next after started result =>
          cases ran
          refine Evolved.trans ?_ (evolved_establish accepted rfl result)
          split
          · next paa _ =>
              have pools : Evolved s
                  { s with paaDynamic := (s.paaFor sa sp request endValue).pools } :=
                .of_eq rfl rfl
              exact pools.trans (evolved_setPdnConnection (.set _ paa))
          · exact .of_eq rfl rfl
  · cases ran
    exact .of_eq rfl rfl

theorem evolved_newContext (imsi : Nat) : Evolved s (s.newContext imsi) :=
  (evolved_setContext (List.nil_subset _)).trans (.of_eq rfl rfl)

theorem evolved_create
    (handled : s.handleCreateSessionRequest config request upNode endValue = some (t, events)) :
    Evolved s t := by
  rcases create_cases handled with ⟨_, rfl, _⟩ |
      ⟨pc, sa, sp, before, after, routed, attached, ran⟩
  · exact .refl t
  · have arrived : Evolved s before := by
      rcases route_context routed with ⟨rfl, _⟩ | ⟨imsi, _, _, _, rfl⟩
      · exact .refl before
      · exact evolved_newContext imsi
    have entered : Evolved before (before.entered pc request) :=
      evolved_setContext (List.Subset.refl _)
    exact (arrived.trans entered).trans ((evolved_attach attached).trans (evolved_assignPaa ran))

/-! ### Responses and deletion -/

theorem evolved_establishmentResponse (answer : SessionEstablishmentResponse) :
    Evolved s (s.handleSessionEstablishmentResponse answer).1 := by
  unfold handleSessionEstablishmentResponse
  split
  · exact .refl s
  · split
    · exact .refl s
    · next proc pending =>
        split
        · exact (evolved_setPdnConnection (.established _ answer)).trans
            (evolved_removeProcedure proc.address)
        · exact evolved_removeProcedure proc.address

theorem evolved_deleteInContext {order : DeleteSessionRequest} {sent : Bool}
    (result : s.deleteInContext pc order sent = some (t, events)) : Evolved s t := by
  unfold deleteInContext at result
  dsimp only at result
  split at result
  · split at result
    · cases result
    · next proc inserted started =>
        have start : Evolved s inserted := (started_of_startProcedure started).evolved trivial
        split at result
        · cases result
          exact start
        · cases result
          exact start.trans (evolved_removeProcedure proc.address)
  · split at result
    · cases result
      exact .refl s
    · cases result
      exact .refl s

theorem evolved_deleteSession {order : DeleteSessionRequest} {sent : Bool}
    (handled : s.handleDeleteSessionRequest order sent = some (t, events)) : Evolved s t := by
  unfold handleDeleteSessionRequest at handled
  split at handled
  · cases handled
    exact .refl s
  · split at handled
    · split at handled
      · cases handled
      · next after shown result =>
          cases handled
          exact (evolved_deleteInContext result).trans evolved_deleteIfEmpty
    · split at handled
      · cases handled
        exact .refl s
      · cases handled
        exact .refl s

theorem evolved_deallocateRessources : Evolved s (s.deallocateRessources label sp) := by
  have freed (pools : PaaDynamic) : Evolved s
      (({ s with paaDynamic := pools }).freeS5s8CpFteid (s.pdnConnections sp).pgwFteidS5S8Cp) :=
    .of_eq rfl rfl
  exact (freed _).trans (evolved_setPdnConnection (.cleared (s.pdnConnections sp)))

theorem evolved_setApnContext {apn : ApnContext} : Evolved s (s.setApnContext sa apn) :=
  .of_eq rfl rfl

theorem evolved_deleteFromApn : Evolved s (s.deleteFromApn sa sp) := by
  unfold deleteFromApn
  dsimp only
  split
  · exact evolved_deallocateRessources.trans
      (evolved_deallocateRessources.trans evolved_setApnContext)
  · exact evolved_deallocateRessources

theorem evolved_deallocateApn : Evolved s (s.deallocateApn sa) := by
  have all (connections : List Nat) (start : State) : Evolved start (connections.foldl
      (fun t sp => t.deallocateRessources (s.apnContexts sa).apnInUse sp) start) := by
    induction connections generalizing start with
    | nil => exact .refl start
    | cons sp connections inductionHypothesis =>
        exact evolved_deallocateRessources.trans (inductionHypothesis _)
  exact (all _ s).trans evolved_setApnContext

theorem evolved_deletePdnConnection : Evolved s (s.deletePdnConnection pc sa sp) := by
  unfold deletePdnConnection
  dsimp only
  split
  · unfold deleteApnContext
    split
    · exact evolved_deleteFromApn.trans
        (evolved_deallocateApn.trans (evolved_setContext (List.Subset.refl _)))
    · exact evolved_deleteFromApn
  · exact evolved_deleteFromApn

theorem evolved_deletionResponse (answer : SessionDeletionResponse) :
    Evolved s (s.handleSessionDeletionResponse answer).1 := by
  unfold handleSessionDeletionResponse
  split
  · exact .refl s
  · split
    · exact evolved_deleteIfEmpty
    · next proc pending =>
        split
        · refine Evolved.trans ?_
            ((evolved_removeProcedure proc.address).trans evolved_deleteIfEmpty)
          unfold deleted
          split
          · exact evolved_deletePdnConnection
          · exact .refl s
        · exact (evolved_removeProcedure proc.address).trans evolved_deleteIfEmpty

theorem evolved_step {action : Action} (taken : Pgw.step config s action = some (t, events)) :
    Evolved s t := by
  cases action with
  | createSession request upNode endValue => exact evolved_create taken
  | sessionEstablishmentResponse answer =>
      have answered : Evolved s (s.handleSessionEstablishmentResponse answer).1 :=
        evolved_establishmentResponse answer
      rw [Option.some.inj taken] at answered
      exact answered
  | deleteSession order sent => exact evolved_deleteSession taken
  | sessionDeletionResponse answer =>
      have answered : Evolved s (s.handleSessionDeletionResponse answer).1 :=
        evolved_deletionResponse answer
      rw [Option.some.inj taken] at answered
      exact answered

end State

namespace Gateway

open State (Evolved)

variable {config : Config} {g next : Gateway} {pc sp : Nat} {events : List Service.Event}

theorem evolved_generateTrxnId {trxnId : Nat}
    (generated : g.generateTrxnId = some (trxnId, next)) : Evolved g.app next.app := by
  obtain ⟨⟨uid, uids⟩, _, same⟩ := Option.map_eq_some_iff.mp generated
  cases same
  exact .of_eq rfl rfl

theorem evolved_runModifyBearer {request : ModifyBearerRequest} {sent : Bool}
    (ran : g.runModifyBearer pc sp request sent = some (next, events)) :
    Evolved g.app next.app := by
  simp only [runModifyBearer, Option.bind_eq_bind, Option.bind_eq_some_iff,
    Option.pure_def] at ran
  obtain ⟨⟨trxnId, middle⟩, generated, m, modified, rest⟩ := ran
  have written : Evolved g.app (middle.setPdnConnection sp m.pdn).app :=
    (evolved_generateTrxnId generated).trans (State.evolved_setPdnConnection (.modified modified))
  split at rest
  · split at rest
    · cases rest
      exact written
    · cases rest
      exact written
  · cases rest
    exact written

theorem evolved_modify {request : ModifyBearerRequest} {sent : Bool}
    (handled : g.handleModifyBearerRequest request sent = some (next, events)) :
    Evolved g.app next.app := by
  unfold handleModifyBearerRequest at handled
  split at handled
  · cases handled
    exact .refl _
  · split at handled
    · unfold modifyInContext at handled
      dsimp only at handled
      split at handled
      · exact evolved_runModifyBearer handled
      · split at handled
        · cases handled
          exact .refl _
        · cases handled
          exact .refl _
    · split at handled
      · cases handled
        exact .refl _
      · cases handled
        exact .refl _

theorem evolved_release {request : ReleaseAccessBearersRequest} {sent : Bool}
    (handled : g.handleReleaseAccessBearersRequest request sent = some (next, events)) :
    Evolved g.app next.app := by
  unfold handleReleaseAccessBearersRequest at handled
  split at handled
  · unfold releaseInContext at handled
    split at handled
    · cases handled
    · split at handled
      · cases handled
        exact .refl _
      · simp only [runReleaseAccessBearers, Option.bind_eq_bind, Option.bind_eq_some_iff,
          Option.pure_def] at handled
        obtain ⟨⟨trxnId, middle⟩, generated, rest⟩ := handled
        have written (sp : Nat) : Evolved g.app (middle.setPdnConnection sp
            (releaseBearers (middle.app.pdnConnections sp))).app :=
          (evolved_generateTrxnId generated).trans
            (State.evolved_setPdnConnection (.releaseBearers _))
        split at rest
        · cases rest
          exact written _
        · cases rest
          exact written _
  · cases handled
    exact .refl _

theorem evolved_modificationResponse (response : SessionModificationResponse) :
    Evolved g.app (g.handleSessionModificationResponse response).1.app := by
  unfold handleSessionModificationResponse
  split
  · exact .refl _
  · split
    · split
      · exact State.evolved_setPdnConnection (.completed _ _ _ _ response)
      · exact .refl _
      · exact .refl _
    · exact State.evolved_removeProcedure _
    · exact .refl _

theorem evolved_report {request : SessionReportRequest} {sent : Bool}
    (handled : g.handleSessionReportRequest request sent = some (next, events)) :
    Evolved g.app next.app := by
  unfold handleSessionReportRequest at handled
  split at handled
  · unfold reportInContext at handled
    split at handled
    · cases handled
      exact .refl _
    · simp only [Option.bind_eq_bind, Option.bind_eq_some_iff, Option.pure_def] at handled
      obtain ⟨⟨trxnId, middle⟩, generated, rest⟩ := handled
      have drawn : Evolved g.app middle.app := evolved_generateTrxnId generated
      split at rest
      · cases rest
        exact drawn
      · cases rest
        exact drawn
  · cases handled
    exact .refl _

theorem evolved_acknowledge (ack : DownlinkDataNotificationAcknowledge) :
    Evolved g.app (g.handleDownlinkDataNotificationAcknowledge ack).1.app := by
  unfold handleDownlinkDataNotificationAcknowledge
  split
  · exact .refl _
  · split
    · split
      · exact .refl _
      · exact .refl _
    · exact State.evolved_removeProcedure _
    · exact .refl _

theorem evolved_handleSession {action : Action}
    (handled : g.handleSession config action = some (next, events)) :
    Evolved g.app next.app := by
  obtain ⟨⟨app, shown⟩, taken, same⟩ := Option.map_eq_some_iff.mp handled
  cases same
  exact State.evolved_step taken

/-- Every step of the PGW writes to its connections in these ways. -/
theorem evolved_of_step {action : Service.Action}
    (taken : Service.step config g action = some (next, events)) :
    Evolved g.app next.app := by
  cases action with
  | session action => exact evolved_handleSession taken
  | modifyBearer request sent => exact evolved_modify taken
  | releaseAccessBearers request sent => exact evolved_release taken
  | sessionModificationResponse response =>
      have answered : Evolved g.app (g.handleSessionModificationResponse response).1.app :=
        evolved_modificationResponse response
      rw [Option.some.inj taken] at answered
      exact answered
  | sessionReport request sent => exact evolved_report taken
  | downlinkDataNotificationAcknowledge ack =>
      have answered : Evolved g.app (g.handleDownlinkDataNotificationAcknowledge ack).1.app :=
        evolved_acknowledge ack
      rw [Option.some.inj taken] at answered
      exact answered
  | notifyUlError trxnId =>
      cases taken
      exact .refl _

/-- Connections are sound, and pending answers as the requests left them. -/
structure Orderly (g : Gateway) : Prop where
  sound : ∀ sp, (g.app.pdnConnections sp).Sound
  unanswered : ∀ pc, ∀ proc ∈ (g.app.contexts pc).pendingProcedures, proc.kind.Unanswered

theorem orderly_init (pdns : List PdnCfg) : Orderly (init pdns) where
  sound _ := PdnConnection.sound_of_empty rfl numbered_empty
  unanswered _ _ member := by cases member

theorem Orderly.evolved (orderly : Orderly g) (evolved : Evolved g.app next.app) :
    Orderly next where
  sound sp := (evolved.connections sp).sound (orderly.sound sp)
  unanswered pc proc member := by
    cases evolved.procedures pc proc member with
    | inl before => exact orderly.unanswered pc proc before
    | inr new => exact new

theorem orderly_of_run {records : List (StepRecord Gateway Service.Action Service.Event)}
    (run : Run (Service.step config) (init config.pdns) records g) : Orderly g :=
  (run.invariant Orderly (orderly_init config.pdns)
    fun _ _ _ _ orderly taken => orderly.evolved (evolved_of_step taken)).1

end Gateway

end OpenairSpgwc.Pgw
