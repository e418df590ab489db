import OpenairSpgwc.Sgw.App

/-!
Contract: what the handling of a message does to the tables of the SGW.

Owns:
- `SameTables`: a step that starts, feeds or ends procedures and writes bearers
  or the MME, and changes no table, no connection of a context and no TEID;
- that all messages other than Create Session Requests, the responses that may
  delete a connection and the silence of a peer are such steps;
- what the remaining handlers are made of.
-/

namespace OpenairSpgwc.Sgw

open Foundation
open Std (ExtTreeMap)

/-! ### Bearers of a connection -/

namespace PdnConnection

/-- At most the bearers differ. -/
def OnlyBearers (pdn after : PdnConnection) : Prop :=
  after = { pdn with sgwEpsBearers := after.sgwEpsBearers }

namespace OnlyBearers

variable {pdn middle after : PdnConnection}

theorem refl (pdn : PdnConnection) : OnlyBearers pdn pdn := rfl

theorem trans (first : OnlyBearers pdn middle) (second : OnlyBearers middle after) :
    OnlyBearers pdn after := by
  unfold OnlyBearers at *
  rw [second, first]

theorem sgwFteidS5S8Cp (only : OnlyBearers pdn after) :
    after.sgwFteidS5S8Cp = pdn.sgwFteidS5S8Cp := by
  rw [only]

theorem key (only : OnlyBearers pdn after) : after.key = pdn.key := by
  rw [only]
  rfl

theorem foldl {α : Type} {f : PdnConnection → α → PdnConnection}
    (each : ∀ pdn item, OnlyBearers pdn (f pdn item)) (items : List α) (pdn : PdnConnection) :
    OnlyBearers pdn (items.foldl f pdn) := by
  induction items generalizing pdn with
  | nil => exact refl pdn
  | cons item items inductionHypothesis =>
      exact (each pdn item).trans (inductionHypothesis (f pdn item))

end OnlyBearers

variable {pdn : PdnConnection}

theorem onlyBearers_addEpsBearer {bearer : EpsBearer} :
    OnlyBearers pdn (pdn.addEpsBearer bearer) := by
  unfold addEpsBearer
  split <;> rfl

theorem onlyBearers_removeEpsBearer {ebi : Nat} : OnlyBearers pdn (pdn.removeEpsBearer ebi) := rfl

theorem onlyBearers_updateEpsBearer {answer : BearerContextModified} :
    OnlyBearers pdn (pdn.updateEpsBearer answer) := by
  unfold updateEpsBearer
  split
  · rfl
  · split
    · split <;> rfl
    · rfl

theorem onlyBearers_storeEnbFteid {it : BearerContextToBeModified} :
    OnlyBearers pdn (State.storeEnbFteid pdn it) := by
  unfold State.storeEnbFteid
  split <;> rfl

theorem onlyBearers_bearersUpdated {request : ModifyBearerRequest}
    {modified : List BearerContextModified} {marked : List BearerContextMarkedForRemoval} :
    OnlyBearers pdn (State.bearersUpdated pdn request modified marked) := by
  unfold State.bearersUpdated
  refine (OnlyBearers.foldl ?_ _ pdn).trans (OnlyBearers.foldl ?_ _ _)
  · intro pdn it
    split
    · exact onlyBearers_updateEpsBearer
    · rfl
  · intro pdn ebi
    split <;> rfl

theorem onlyBearers_bearersCreated {created : List BearerContextCreated} :
    OnlyBearers pdn (State.bearersCreated pdn created).1 := by
  have one : ∀ (pdn : PdnConnection) (i : BearerContextCreated),
      OnlyBearers pdn (State.bearerCreated pdn i).1 := by
    intro pdn i
    unfold State.bearerCreated
    split
    · split <;> rfl
    · rfl
  induction created generalizing pdn with
  | nil => exact .refl pdn
  | cons i rest inductionHypothesis => exact (one pdn i).trans inductionHypothesis

theorem onlyBearers_bearersCleared {marked : List BearerContextMarkedForRemoval} :
    OnlyBearers pdn (marked.foldl State.bearerCleared pdn) := by
  apply OnlyBearers.foldl
  intro pdn i
  unfold State.bearerCleared
  split <;> rfl

end PdnConnection

namespace State

variable {s t u : State} {ebc c sp address gtpcTxId given : Nat} {events : List Event}
  {kind : ProcedureKind}

/-- The local control TEID of a connection. -/
def teidOf (s : State) (sp : Nat) : Nat := (s.pdnConnections sp).sgwFteidS5S8Cp.teidGreKey

def keyOf (s : State) (sp : Nat) : Kpdn := (s.pdnConnections sp).key

structure SameTables (s t : State) : Prop where
  imsiMap : t.imsi2sgwEpsBearerContext = s.imsi2sgwEpsBearerContext
  s11Map : t.s11lteid2sgwEpsBearerContext = s.s11lteid2sgwEpsBearerContext
  s5s8Map : t.s5s8lteid2sgwContexts = s.s5s8lteid2sgwContexts
  s5s8Counter : t.teidS5s8Cp = s.teidS5s8Cp
  context : ∀ ebc, t.contexts ebc =
    { s.contexts ebc with
      mmeFteidS11 := (t.contexts ebc).mmeFteidS11
      pendingProcedures := (t.contexts ebc).pendingProcedures }
  teids : ∀ sp, t.teidOf sp = s.teidOf sp
  keys : ∀ sp, t.keyOf sp = s.keyOf sp
  nextAddress : s.nextAddress ≤ t.nextAddress

namespace SameTables

theorem refl (s : State) : SameTables s s where
  imsiMap := rfl
  s11Map := rfl
  s5s8Map := rfl
  s5s8Counter := rfl
  context _ := rfl
  teids _ := rfl
  keys _ := rfl
  nextAddress := le_rfl

theorem trans (first : SameTables s t) (second : SameTables t u) : SameTables s u where
  imsiMap := second.imsiMap.trans first.imsiMap
  s11Map := second.s11Map.trans first.s11Map
  s5s8Map := second.s5s8Map.trans first.s5s8Map
  s5s8Counter := second.s5s8Counter.trans first.s5s8Counter
  context ebc := by rw [second.context ebc, first.context ebc]
  teids sp := (second.teids sp).trans (first.teids sp)
  keys sp := (second.keys sp).trans (first.keys sp)
  nextAddress := first.nextAddress.trans second.nextAddress

theorem connections (same : SameTables s t) (ebc : Nat) :
    (t.contexts ebc).pdnConnections = (s.contexts ebc).pdnConnections := by
  rw [same.context ebc]

theorem imsi (same : SameTables s t) (ebc : Nat) :
    (t.contexts ebc).imsi = (s.contexts ebc).imsi := by
  rw [same.context ebc]

theorem s11Teid (same : SameTables s t) (ebc : Nat) :
    (t.contexts ebc).sgwFteidS11S4Cp = (s.contexts ebc).sgwFteidS11S4Cp := by
  rw [same.context ebc]

end SameTables

/-- Writing the pending procedures and the MME of a context. -/
theorem sameTables_setContext (mme : Fteid) (pending : List Procedure) {next : Nat}
    (later : s.nextAddress ≤ next) :
    SameTables s { s.setContext ebc { s.contexts ebc with
        mmeFteidS11 := mme, pendingProcedures := pending } with
      nextAddress := next } where
  imsiMap := rfl
  s11Map := rfl
  s5s8Map := rfl
  s5s8Counter := rfl
  context other := by
    simp only [setContext, Function.update_apply]
    split
    · next here => rw [here]
    · rfl
  teids _ := rfl
  keys _ := rfl
  nextAddress := later

theorem sameTables_insertProcedure :
    SameTables s (s.insertProcedure ebc gtpcTxId given kind) :=
  sameTables_setContext _ _ (Nat.le_succ _)

theorem sameTables_removeProcedure : SameTables s (s.removeProcedure ebc address) :=
  sameTables_setContext _ _ le_rfl

theorem sameTables_removeWithoutCause {cause : Option Nat} :
    SameTables s (s.removeWithoutCause ebc address cause) := by
  unfold removeWithoutCause
  split
  · exact sameTables_removeProcedure
  · exact .refl s

theorem sameTables_setProcedure : SameTables s (s.setProcedure ebc address kind) :=
  sameTables_setContext _ _ le_rfl

/-- Writing a connection that keeps its TEID and its key. -/
theorem sameTables_setPdnConnection {pdn : PdnConnection}
    (teid : pdn.sgwFteidS5S8Cp = (s.pdnConnections sp).sgwFteidS5S8Cp)
    (key : pdn.key = (s.pdnConnections sp).key) : SameTables s (s.setPdnConnection sp pdn) where
  imsiMap := rfl
  s11Map := rfl
  s5s8Map := rfl
  s5s8Counter := rfl
  context _ := rfl
  teids other := by
    simp only [teidOf, setPdnConnection, Function.update_apply]
    split
    · next here => rw [here, teid]
    · rfl
  keys other := by
    simp only [keyOf, setPdnConnection, Function.update_apply]
    split
    · next here => rw [here, key]
    · rfl
  nextAddress := le_rfl

/-! ### Steps that keep the tables -/

theorem sameTables_sendModifyBearers {sender : Nat} {uids : Nat → Nat} {n : Nat}
    {pdnBearers : List PdnBearersToBeXied} :
    SameTables s (s.sendModifyBearers sender uids n pdnBearers).1 := by
  induction pdnBearers generalizing s n with
  | nil => exact .refl s
  | cons px rest inductionHypothesis =>
      have only : PdnConnection.OnlyBearers (s.pdnConnections px.pdn)
          (px.bearerContextsToBeModified.foldl storeEnbFteid (s.pdnConnections px.pdn)) :=
        .foldl (fun _ _ => PdnConnection.onlyBearers_storeEnbFteid) _ _
      exact (sameTables_setPdnConnection only.sgwFteidS5S8Cp only.key).trans inductionHypothesis

theorem sameTables_startDeleteSessions {request : DeleteSessionRequest} {sps : List Nat} :
    SameTables s (s.startDeleteSessions ebc request sps).1 := by
  induction sps generalizing s with
  | nil => exact .refl s
  | cons sp rest inductionHypothesis =>
      exact sameTables_insertProcedure.trans inductionHypothesis

theorem sameTables_deleteSessionInContext {request : DeleteSessionRequest} :
    SameTables s (s.deleteSessionInContext ebc request).1 := by
  unfold deleteSessionInContext
  split
  · exact .refl s
  · split
    · exact sameTables_startDeleteSessions
    · exact .refl s

theorem sameTables_modifyBearerInContext {request : ModifyBearerRequest} {uids : Nat → Nat}
    (handled : s.modifyBearerInContext ebc request uids = some (t, events)) : SameTables s t := by
  unfold modifyBearerInContext at handled
  split at handled
  · cases handled
    exact .refl s
  · split at handled
    · cases handled
      exact .refl s
    · split at handled
      · cases handled
      · next c _ =>
          have after : SameTables s (s.runModifyBearer ebc c request uids).1 := by
            unfold runModifyBearer
            simp only
            split
            · exact .refl s
            · exact sameTables_sendModifyBearers.trans sameTables_insertProcedure
          rw [Option.some.inj handled] at after
          exact after

theorem sameTables_releaseAccessBearersInContext {request : ReleaseAccessBearersRequest}
    (handled : s.releaseAccessBearersInContext ebc request = some (t, events)) :
    SameTables s t := by
  unfold releaseAccessBearersInContext at handled
  split at handled
  · cases handled
    exact .refl s
  · split at handled
    · cases handled
    · next c _ =>
        have after : SameTables s (s.runReleaseAccessBearers ebc c request).1 := by
          unfold runReleaseAccessBearers
          split
          · exact .refl s
          · exact sameTables_insertProcedure
        rw [Option.some.inj handled] at after
        exact after

theorem sameTables_modifyBearerResponseInContext {s5resp : ModifyBearerResponse}
    (handled : s.modifyBearerResponseInContext ebc s5resp = some (t, events)) :
    SameTables s t := by
  unfold modifyBearerResponseInContext at handled
  split at handled
  · cases handled
    exact .refl s
  · next proc _ =>
      split at handled
      · next request pdnBearers modified marked _ =>
          have after : SameTables s
              (s.modifyBearerAnswered ebc proc request pdnBearers modified marked s5resp).1 := by
            unfold modifyBearerAnswered
            split
            · exact sameTables_removeWithoutCause
            · split
              · exact (sameTables_setPdnConnection
                  PdnConnection.onlyBearers_bearersUpdated.sgwFteidS5S8Cp
                  PdnConnection.onlyBearers_bearersUpdated.key).trans sameTables_removeProcedure
              · exact sameTables_setProcedure.trans sameTables_removeWithoutCause
          rw [Option.some.inj handled] at after
          exact after
      · cases handled

theorem sameTables_releaseAccessBearersResponseInContext {s5resp : CauseResponse}
    (handled : s.releaseAccessBearersResponseInContext ebc s5resp = some (t, events)) :
    SameTables s t := by
  unfold releaseAccessBearersResponseInContext at handled
  split at handled
  · cases handled
    exact .refl s
  · next proc _ =>
      split at handled
      · next request bearers cause _ =>
          have after : SameTables s
              (s.releaseAccessBearersAnswered ebc proc request bearers cause s5resp).1 := by
            unfold releaseAccessBearersAnswered
            split
            · exact sameTables_setProcedure
            · exact .refl s
          rw [Option.some.inj handled] at after
          exact after
      · cases handled

theorem sameTables_downlinkDataNotification {ddn : DownlinkDataNotification} :
    SameTables s (s.handleDownlinkDataNotification ddn).1 := by
  unfold handleDownlinkDataNotification
  split
  · exact .refl s
  · unfold downlinkDataNotificationInContext
    split
    · exact .refl s
    · split
      · exact .refl s
      · split
        · exact sameTables_insertProcedure
        · exact .refl s

theorem downlinkDataNotificationAcknowledge_fst {ack : DownlinkDataNotificationAcknowledge} :
    (s.handleDownlinkDataNotificationAcknowledge ack).1 = s := by
  unfold handleDownlinkDataNotificationAcknowledge
  split
  · rfl
  · unfold downlinkDataNotificationAcknowledgeInContext
    split
    · rfl
    · split <;> rfl

/-- The messages that can change a table. -/
def changesTables : Action → Bool
  | .createSession _ => true
  | .createSessionResponse _ => true
  | .deleteSessionResponse _ => true
  | .remotePeerNotResponding _ => true
  | .modifyBearer _ _ => false
  | .releaseAccessBearers _ => false
  | .deleteSession _ => false
  | .downlinkDataNotificationAcknowledge _ => false
  | .modifyBearerResponse _ => false
  | .releaseAccessBearersResponse _ => false
  | .downlinkDataNotification _ => false

theorem sameTables_step {action : Action} (keeps : changesTables action = false)
    (taken : step s action = some (t, events)) : SameTables s t := by
  cases action with
  | createSession request => cases keeps
  | createSessionResponse csresp => cases keeps
  | deleteSessionResponse dsresp => cases keeps
  | remotePeerNotResponding resp => cases keeps
  | modifyBearer request uids =>
      simp only [step, handleModifyBearerRequest] at taken
      split at taken
      · cases taken
        exact .refl s
      · exact sameTables_modifyBearerInContext taken
  | releaseAccessBearers request =>
      simp only [step, handleReleaseAccessBearersRequest] at taken
      split at taken
      · cases taken
        exact .refl s
      · exact sameTables_releaseAccessBearersInContext taken
  | deleteSession request =>
      have same : SameTables s (s.handleDeleteSessionRequest request).1 := by
        unfold handleDeleteSessionRequest
        split
        · exact .refl s
        · exact sameTables_deleteSessionInContext
      rw [Option.some.inj taken] at same
      exact same
  | downlinkDataNotificationAcknowledge ack =>
      have same : (s.handleDownlinkDataNotificationAcknowledge ack).1 = s :=
        downlinkDataNotificationAcknowledge_fst
      rw [Option.some.inj taken] at same
      rw [← same]
      exact .refl t
  | modifyBearerResponse s5resp =>
      simp only [step, handleModifyBearerResponse] at taken
      split at taken
      · cases taken
        exact .refl s
      · exact sameTables_modifyBearerResponseInContext taken
  | releaseAccessBearersResponse s5resp =>
      simp only [step, handleReleaseAccessBearersResponse] at taken
      split at taken
      · cases taken
        exact .refl s
      · exact sameTables_releaseAccessBearersResponseInContext taken
  | downlinkDataNotification ddn =>
      have same : SameTables s (s.handleDownlinkDataNotification ddn).1 :=
        sameTables_downlinkDataNotification
      rw [Option.some.inj taken] at same
      exact same

/-! ### Create Session Request -/

/-- The state in which a request is handed to a context, and the context. -/
def handed (s : State) (request : CreateSessionRequest) : Option (State × Nat) :=
  match s.route request with
  | .newContext imsi => some (s.addContext imsi, s.nextAddress)
  | .context ebc ebi => some ((s.clearCollision ebc ebi).1, ebc)
  | .ignored => none
  | .unknownTeid => none
  | .undefined => none

theorem create_cases {request : CreateSessionRequest}
    (handled : s.handleCreateSessionRequest request = some (t, events)) :
    t = s ∨ ∃ base ebc more, s.handed request = some (base, ebc) ∧
      base.createSessionInContext ebc request = some (t, more) := by
  unfold handleCreateSessionRequest at handled
  split at handled
  · cases handled
    exact .inl rfl
  · cases handled
    exact .inl rfl
  · cases handled
  · next imsi routed =>
      exact .inr ⟨_, _, events, by simp only [handed, routed], handled⟩
  · next ebc ebi routed =>
      right
      simp only at handled
      split at handled
      · cases handled
      · next after more created =>
          cases handled
          exact ⟨_, _, more, by simp only [handed, routed], created⟩

/-- What `create_session_request_procedure::run` adds to the state `s`. -/
structure Added (s : State) (c : Nat) (request : CreateSessionRequest) (t : State) : Prop where
  imsiMap : t.imsi2sgwEpsBearerContext = s.imsi2sgwEpsBearerContext
  s11Map : t.s11lteid2sgwEpsBearerContext = s.s11lteid2sgwEpsBearerContext
  s5s8Map : t.s5s8lteid2sgwContexts =
    s.s5s8lteid2sgwContexts.insert s.generateS5s8CpTeid.1 (c, s.nextAddress)
  s5s8Counter : t.teidS5s8Cp = s.generateS5s8CpTeid.2
  contexts : t.contexts = Function.update s.contexts c { s.contexts c with
    pdnConnections :=
      (s.contexts c).pdnConnections.insert (request.apn, request.pdnType) s.nextAddress }
  teid : t.teidOf s.nextAddress = s.generateS5s8CpTeid.1
  key : t.keyOf s.nextAddress = (request.apn, request.pdnType)
  others : ∀ sp, sp ≠ s.nextAddress → t.pdnConnections sp = s.pdnConnections sp
  nextAddress : t.nextAddress = s.nextAddress + 1

theorem onlyBearers_newPdnConnection (request : CreateSessionRequest) (defaultBearer teid : Nat) :
    PdnConnection.OnlyBearers
      { apnInUse := request.apn, pdnType := request.pdnType, defaultBearer := defaultBearer,
        sgwFteidS5S8Cp := s5s8CpFteid teid }
      (newPdnConnection request defaultBearer teid) :=
  (PdnConnection.OnlyBearers.foldl (fun _ _ => PdnConnection.onlyBearers_addEpsBearer) _ _).trans
    (PdnConnection.OnlyBearers.foldl (fun _ _ => PdnConnection.onlyBearers_removeEpsBearer) _ _)

theorem added_withNewPdnConnection (request : CreateSessionRequest) (defaultBearer : Nat) :
    Added s c request (s.withNewPdnConnection c request defaultBearer) := by
  have only := onlyBearers_newPdnConnection request defaultBearer s.generateS5s8CpTeid.1
  refine ⟨rfl, rfl, rfl, rfl, rfl, ?_, ?_, ?_, rfl⟩
  · simp only [teidOf, withNewPdnConnection, Function.update_self, only.sgwFteidS5S8Cp,
      s5s8CpFteid]
  · simp only [keyOf, withNewPdnConnection, Function.update_self]
    exact only.key
  · intro sp different
    exact Function.update_of_ne different _ _

theorem nextAddress_entered {request : CreateSessionRequest} :
    (s.entered ebc request).nextAddress = s.nextAddress := by
  unfold entered
  split <;> rfl

/-- The context with the procedure of the request, before it runs. -/
def starting (s : State) (ebc c : Nat) (request : CreateSessionRequest) : State :=
  (s.entered ebc request).insertProcedure ebc request.gtpcTxId c (.createSession request)

/-- What happens to a request in its context: the connection is there already and
the procedure ends, or it is made. -/
inductive CreateOutcome (s : State) (ebc c : Nat) (request : CreateSessionRequest) :
    State → List Event → Prop where
  | refused (present : ((s.entered ebc request).contexts c).pdnConnections.contains
      (request.apn, request.pdnType) = true) :
      CreateOutcome s ebc c request
        ((s.starting ebc c request).removeProcedure ebc (s.entered ebc request).nextAddress) []
  | made (defaultBearer : Nat)
      (absent : ((s.entered ebc request).contexts c).pdnConnections.contains
        (request.apn, request.pdnType) = false)
      (first : request.bearerContextsToBeCreated.head? = some defaultBearer) :
      CreateOutcome s ebc c request
        ((s.starting ebc c request).withNewPdnConnection c request defaultBearer)
        [.s5s8CreateSessionRequest ⟨request.gtpcTxId, 0, (s.starting ebc c request).generateS5s8CpTeid.1,
          (s.entered ebc request).nextAddress, (s.starting ebc c request).nextAddress⟩]

theorem createSessionInContext_eq {request : CreateSessionRequest} {c : Nat}
    (reached : (s.entered ebc request).runContext ebc = some c) :
    s.createSessionInContext ebc request =
      match (s.starting ebc c request).runCreateSession c (s.entered ebc request).nextAddress
          request with
      | none => none
      | some none =>
          some ((s.starting ebc c request).removeProcedure ebc (s.entered ebc request).nextAddress,
            [])
      | some (some result) => some result := by
  unfold createSessionInContext
  simp only
  rw [reached]
  rfl

theorem createSessionInContext_outcome {request : CreateSessionRequest}
    (handled : s.createSessionInContext ebc request = some (t, events)) :
    ∃ c, (s.entered ebc request).runContext ebc = some c ∧
      CreateOutcome s ebc c request t events := by
  cases reached : (s.entered ebc request).runContext ebc with
  | none =>
      unfold createSessionInContext at handled
      simp only [reached] at handled
      cases handled
  | some c =>
      refine ⟨c, rfl, ?_⟩
      have connections : ((s.starting ebc c request).contexts c).pdnConnections =
          ((s.entered ebc request).contexts c).pdnConnections :=
        sameTables_insertProcedure.connections c
      rw [createSessionInContext_eq reached] at handled
      unfold runCreateSession at handled
      rw [connections] at handled
      by_cases present : ((s.entered ebc request).contexts c).pdnConnections.contains
          (request.apn, request.pdnType) = true
      · rw [if_pos present] at handled
        cases handled
        exact .refused present
      · rw [if_neg present] at handled
        cases bearers : request.bearerContextsToBeCreated with
        | nil =>
            rw [bearers] at handled
            cases handled
        | cons defaultBearer rest =>
            rw [bearers] at handled
            simp only [Option.some.injEq, Prod.mk.injEq] at handled
            rw [← handled.1, ← handled.2]
            exact .made defaultBearer (Bool.eq_false_iff.mpr present) (by rw [bearers]; rfl)

theorem sameTables_starting {request : CreateSessionRequest} :
    SameTables (s.entered ebc request) (s.starting ebc c request) :=
  sameTables_insertProcedure

/-- The request starts a procedure; the connection is there already, or it is made. -/
theorem createSessionInContext_cases {request : CreateSessionRequest}
    (handled : s.createSessionInContext ebc request = some (t, events)) :
    ∃ c, (s.entered ebc request).runContext ebc = some c ∧
      (SameTables (s.entered ebc request) t ∧
          ((s.entered ebc request).contexts c).pdnConnections.contains
            (request.apn, request.pdnType) = true ∨
        ∃ middle, SameTables (s.entered ebc request) middle ∧
          (middle.contexts c).pdnConnections.contains (request.apn, request.pdnType) = false ∧
          Added middle c request t) := by
  obtain ⟨c, reached, outcome⟩ := createSessionInContext_outcome handled
  refine ⟨c, reached, ?_⟩
  cases outcome with
  | refused present => exact .inl ⟨sameTables_starting.trans sameTables_removeProcedure, present⟩
  | made defaultBearer absent _ =>
      refine .inr ⟨s.starting ebc c request, sameTables_starting, ?_,
        added_withNewPdnConnection request defaultBearer⟩
      rw [sameTables_starting.connections]
      exact absent

theorem mem_connections :
    sp ∈ (s.contexts ebc).connections ↔
      ∃ key : Kpdn, (s.contexts ebc).pdnConnections[key]? = some sp := by
  unfold EpsBearerContext.connections
  rw [List.mem_map]
  constructor
  · rintro ⟨⟨key, value⟩, member, rfl⟩
    exact ⟨key, ExtTreeMap.mem_toList_iff_getElem?_eq_some.mp member⟩
  · rintro ⟨key, present⟩
    exact ⟨(key, sp), ExtTreeMap.mem_toList_iff_getElem?_eq_some.mpr present, rfl⟩

theorem findPdnConnection_held {ebi : Nat} (found : s.findPdnConnection ebc ebi = some sp) :
    ∃ key : Kpdn, (s.contexts ebc).pdnConnections[key]? = some sp :=
  mem_connections.mp (List.mem_of_find?_eq_some found)

theorem clearCollision_cases {ebi : Option Nat} :
    (s.clearCollision ebc ebi).1 = s ∨
      ∃ (asked : State) (sp : Nat) (key : Kpdn), SameTables s asked ∧
        (s.contexts ebc).pdnConnections[key]? = some sp ∧
        (s.clearCollision ebc ebi).1 = asked.deletePdnConnection ebc sp := by
  unfold clearCollision
  split
  · exact .inl rfl
  · split
    · exact .inl rfl
    · next sp found =>
        obtain ⟨key, present⟩ := findPdnConnection_held found
        exact .inr ⟨_, sp, key, sameTables_deleteSessionInContext, present, rfl⟩

theorem route_newContext {request : CreateSessionRequest} {imsi : Nat}
    (routed : s.route request = .newContext imsi) :
    request.imsi = some imsi ∧ s.imsi2sgwEpsBearerContext[imsi]? = none := by
  unfold route at routed
  grind

theorem route_context {request : CreateSessionRequest} {ebi : Option Nat}
    (routed : s.route request = .context ebc ebi) :
    (∃ imsi : Nat, s.imsi2sgwEpsBearerContext[imsi]? = some ebc) ∨
      ∃ teid : Nat, s.s11lteid2sgwEpsBearerContext[teid]? = some ebc := by
  unfold route at routed
  grind

/-! ### Responses that may delete a connection -/

/-- At most the connection `sp` of the context is deleted. -/
def Trims (s : State) (ebc sp : Nat) (t : State) : Prop :=
  SameTables s t ∨
    ∃ middle, SameTables s middle ∧ SameTables (middle.deletePdnConnection ebc sp) t

/-- An accepted or rejected connection is written, and perhaps deleted then. -/
theorem createSessionAnswered_fst (s : State) (ebc sp : Nat) (msg : CreateSessionRequest)
    (gtpcTxId : Nat) (csresp : CreateSessionResponse) :
    ∃ stored, SameTables s stored ∧ stored.contexts = s.contexts ∧
      ((s.createSessionAnswered ebc sp msg gtpcTxId csresp).1 = stored ∨
        (csresp.bearerContextsMarkedForRemoval = [] ∧ contextNotFound ≤ csresp.cause.getD 0) ∧
          (s.createSessionAnswered ebc sp msg gtpcTxId csresp).1 =
            stored.deletePdnConnection ebc sp) := by
  have only : ∀ pdn : PdnConnection, PdnConnection.OnlyBearers pdn
      (csresp.bearerContextsMarkedForRemoval.foldl bearerCleared
        (bearersCreated pdn csresp.bearerContextsCreated).1) :=
    fun _ => PdnConnection.onlyBearers_bearersCreated.trans
      PdnConnection.onlyBearers_bearersCleared
  have written := only { s.pdnConnections sp with
    pgwFteidS5S8Cp := csresp.fteidForCp.getD (s.pdnConnections sp).pgwFteidS5S8Cp }
  have same : SameTables s (s.setPdnConnection sp _) :=
    sameTables_setPdnConnection written.sgwFteidS5S8Cp written.key
  refine ⟨_, same, rfl, ?_⟩
  unfold createSessionAnswered
  simp only
  split
  · next rejected => exact .inr ⟨⟨rejected.1, rejected.2.1⟩, rfl⟩
  · exact .inl rfl

theorem trims_createSessionResponse {csresp : CreateSessionResponse}
    (handled : s.createSessionResponseInContext ebc sp csresp = some (t, events)) :
    Trims s ebc sp t := by
  unfold createSessionResponseInContext at handled
  split at handled
  · cases handled
    exact .inl (.refl s)
  · next proc _ =>
      split at handled
      · next msg _ =>
          rw [Option.some.injEq, Prod.mk.injEq] at handled
          rw [← handled.1]
          obtain ⟨stored, same, -, kept | ⟨-, deleted⟩⟩ := createSessionAnswered_fst s ebc sp
            msg proc.gtpcTxId csresp
          · rw [kept]
            exact .inl (same.trans sameTables_removeProcedure)
          · rw [deleted]
            exact .inr ⟨stored, same, sameTables_removeProcedure⟩
      · cases handled

theorem trims_deleteSessionResponse {dsresp : CauseResponse}
    (handled : s.deleteSessionResponseInContext ebc sp dsresp = some (t, events)) :
    Trims s ebc sp t := by
  unfold deleteSessionResponseInContext at handled
  split at handled
  · cases handled
    exact .inl (.refl s)
  · split at handled
    · cases handled
      exact .inr ⟨s, .refl s, sameTables_removeProcedure⟩
    · cases handled

theorem trims_remotePeerNotResponding {resp : RemotePeerNotResponding} :
    Trims s ebc sp (s.remotePeerNotRespondingInContext ebc sp resp).1 := by
  unfold remotePeerNotRespondingInContext
  split
  · exact .inl (.refl s)
  · split
    · simp only [createSessionUnanswered]
      split
      · exact .inr ⟨s, .refl s, sameTables_removeProcedure⟩
      · exact .inl sameTables_removeProcedure
    · exact .inl sameTables_removeProcedure

theorem connections_eq_nil (none : (s.contexts ebc).pdnConnections.size = 0) :
    (s.contexts ebc).connections = [] := by
  unfold EpsBearerContext.connections
  rw [List.map_eq_nil_iff, ← List.length_eq_zero_iff, ExtTreeMap.length_toList, none]

theorem deleteSgwEpsBearerContext_eq (none : (s.contexts ebc).pdnConnections.size = 0) :
    s.deleteSgwEpsBearerContext ebc =
      { s with
        imsi2sgwEpsBearerContext := s.imsi2sgwEpsBearerContext.erase (s.contexts ebc).imsi
        s11lteid2sgwEpsBearerContext :=
          s.s11lteid2sgwEpsBearerContext.erase (s.contexts ebc).sgwFteidS11S4Cp.teidGreKey
        contexts := Function.update s.contexts ebc
          { s.contexts ebc with pendingProcedures := [] } } := by
  unfold deleteSgwEpsBearerContext release
  simp only [connections_eq_nil none, List.foldl_nil, setContext]

/-- The connection a response is for may be deleted, and with it its context. -/
structure Cleaned (s : State) (t : State) (events : List Event) (ebc sp : Nat) : Prop where
  routed : ∃ teid : Nat, s.s5s8lteid2sgwContexts[teid]? = some (ebc, sp)
  trimmed : ∃ (middle : State) (sent : List Event), Trims s ebc sp middle ∧
    (∀ deleted, .contextDeleted deleted ∉ sent) ∧ cleanup ebc (middle, sent) = (t, events)

theorem cleaned_createSessionResponse {csresp : CreateSessionResponse}
    (handled : s.handleCreateSessionResponse csresp = some (t, events)) :
    (t = s ∧ events = []) ∨ ∃ ebc sp, Cleaned s t events ebc sp := by
  unfold handleCreateSessionResponse at handled
  split at handled
  · cases handled
    exact .inl ⟨rfl, rfl⟩
  · split at handled
    · cases handled
      exact .inl ⟨rfl, rfl⟩
    · next ebc sp routed =>
        rw [Option.map_eq_some_iff] at handled
        obtain ⟨⟨middle, sent⟩, answered, after⟩ := handled
        refine .inr ⟨ebc, sp, ⟨_, routed⟩, middle, sent, trims_createSessionResponse answered,
          ?_, after⟩
        intro deleted member
        unfold createSessionResponseInContext at answered
        split at answered
        · cases answered
          cases member
        · split at answered
          · simp only [createSessionAnswered, Option.some.injEq, Prod.mk.injEq] at answered
            rw [← answered.2] at member
            simp at member
          · cases answered

theorem cleaned_deleteSessionResponse {dsresp : CauseResponse}
    (handled : s.handleDeleteSessionResponse dsresp = some (t, events)) :
    (t = s ∧ events = []) ∨ ∃ ebc sp, Cleaned s t events ebc sp := by
  unfold handleDeleteSessionResponse at handled
  split at handled
  · cases handled
    exact .inl ⟨rfl, rfl⟩
  · next ebc sp routed =>
      rw [Option.map_eq_some_iff] at handled
      obtain ⟨⟨middle, sent⟩, answered, after⟩ := handled
      refine .inr ⟨ebc, sp, ⟨_, routed⟩, middle, sent, trims_deleteSessionResponse answered,
        ?_, after⟩
      intro deleted member
      unfold deleteSessionResponseInContext at answered
      split at answered
      · cases answered
        cases member
      · split at answered
        · cases answered
          simp at member
        · cases answered

theorem cleaned_remotePeerNotResponding {resp : RemotePeerNotResponding}
    (handled : s.handleRemotePeerNotResponding resp = (t, events)) :
    (t = s ∧ events = []) ∨ ∃ ebc sp, Cleaned s t events ebc sp := by
  unfold handleRemotePeerNotResponding at handled
  split at handled
  · cases handled
    exact .inl ⟨rfl, rfl⟩
  · split at handled
    · cases handled
      exact .inl ⟨rfl, rfl⟩
    · next ebc sp routed =>
        refine .inr ⟨ebc, sp, ⟨_, routed⟩, _, _, trims_remotePeerNotResponding, ?_, handled⟩
        intro deleted member
        split at member
        · cases member
        · split at member
          · simp [createSessionUnanswered] at member
          · cases member

/-! ### What is sent -/

/-- The kinds of messages that the handling of a message can send. -/
def sends : Action → Event → Bool
  | .createSession _, .s11CreateSessionResponse _ => true
  | .createSession _, .s5s8CreateSessionRequest _ => true
  | .createSession _, .s5s8DeleteSessionRequest _ _ => true
  | .modifyBearer _ _, .s11ModifyBearerResponse _ => true
  | .modifyBearer _ _, .s5s8ModifyBearerRequest _ _ _ => true
  | .releaseAccessBearers _, .s11ReleaseAccessBearersResponse _ => true
  | .releaseAccessBearers _, .s5s8ReleaseAccessBearersRequest _ => true
  | .deleteSession _, .s5s8DeleteSessionRequest _ _ => true
  | .downlinkDataNotificationAcknowledge _, .s5s8DownlinkDataNotificationAcknowledge _ _ => true
  | .createSessionResponse _, .s11CreateSessionResponse _ => true
  | .createSessionResponse _, .contextDeleted _ => true
  | .deleteSessionResponse _, .s11DeleteSessionResponse _ => true
  | .deleteSessionResponse _, .contextDeleted _ => true
  | .modifyBearerResponse _, .s11ModifyBearerResponse _ => true
  | .releaseAccessBearersResponse _, .s11ReleaseAccessBearersResponse _ => true
  | .remotePeerNotResponding _, .s11CreateSessionResponse _ => true
  | .remotePeerNotResponding _, .contextDeleted _ => true
  | .downlinkDataNotification _, .s11DownlinkDataNotification _ _ => true
  | _, _ => false

variable {event : Event}

theorem mem_startDeleteSessions {request : DeleteSessionRequest} {sps : List Nat}
    (member : event ∈ (s.startDeleteSessions ebc request sps).2) :
    ∃ asked ebi, event = .s5s8DeleteSessionRequest asked ebi := by
  induction sps generalizing s with
  | nil => cases member
  | cons sp rest inductionHypothesis =>
      rcases List.mem_cons.mp member with here | later
      · exact ⟨_, _, here⟩
      · exact inductionHypothesis later

theorem mem_deleteSessionInContext {request : DeleteSessionRequest}
    (member : event ∈ (s.deleteSessionInContext ebc request).2) :
    ∃ asked ebi, event = .s5s8DeleteSessionRequest asked ebi := by
  unfold deleteSessionInContext at member
  split at member
  · cases member
  · split at member
    · exact mem_startDeleteSessions member
    · cases member

theorem mem_clearCollision {ebi : Option Nat} (member : event ∈ (s.clearCollision ebc ebi).2) :
    ∃ asked ebi, event = .s5s8DeleteSessionRequest asked ebi := by
  unfold clearCollision at member
  split at member
  · cases member
  · split at member
    · cases member
    · exact mem_deleteSessionInContext member

theorem mem_createSessionInContext {request : CreateSessionRequest}
    (handled : s.createSessionInContext ebc request = some (t, events)) (member : event ∈ events) :
    ∃ asked, event = .s5s8CreateSessionRequest asked := by
  obtain ⟨c, -, outcome⟩ := createSessionInContext_outcome handled
  cases outcome with
  | refused present => cases member
  | made defaultBearer absent first => exact ⟨_, List.mem_singleton.mp member⟩

theorem mem_sendModifyBearers {sender n : Nat} {uids : Nat → Nat}
    {pdnBearers : List PdnBearersToBeXied}
    (member : event ∈ (s.sendModifyBearers sender uids n pdnBearers).2.2) :
    ∃ asked modified removed, event = .s5s8ModifyBearerRequest asked modified removed := by
  induction pdnBearers generalizing s n with
  | nil => cases member
  | cons px rest inductionHypothesis =>
      rcases List.mem_cons.mp member with here | later
      · exact ⟨_, _, _, here⟩
      · exact inductionHypothesis later

theorem mem_cleanup {middle : State} {sent : List Event}
    (after : cleanup ebc (middle, sent) = (t, events)) (member : event ∈ events) :
    event ∈ sent ∨ event = .contextDeleted ebc := by
  unfold cleanup at after
  split at after
  · simp only [Prod.mk.injEq] at after
    rw [← after.2, List.mem_append, List.mem_singleton] at member
    exact member
  · cases after
    exact .inl member

theorem sends_of_step {action : Action} (taken : step s action = some (t, events))
    (member : event ∈ events) : sends action event = true := by
  cases action with
  | createSession request =>
      simp only [step, handleCreateSessionRequest] at taken
      split at taken
      · cases taken
        cases member
      · cases taken
        rw [List.mem_singleton.mp member]
        rfl
      · cases taken
      · obtain ⟨asked, rfl⟩ := mem_createSessionInContext taken member
        rfl
      · split at taken
        · cases taken
        · next after more created =>
            rw [Option.some.injEq, Prod.mk.injEq] at taken
            rw [← taken.2] at member
            rcases List.mem_append.mp member with first | second
            · obtain ⟨asked, ebi, rfl⟩ := mem_clearCollision first
              rfl
            · obtain ⟨asked, rfl⟩ := mem_createSessionInContext created second
              rfl
  | modifyBearer request uids =>
      simp only [step, handleModifyBearerRequest] at taken
      split at taken
      · cases taken
        cases member
      · unfold modifyBearerInContext at taken
        split at taken
        · cases taken
          cases member
        · split at taken
          · cases taken
            cases member
          · split at taken
            · cases taken
            · simp only [Option.some.injEq, Prod.ext_iff] at taken
              rw [← taken.2] at member
              unfold runModifyBearer at member
              simp only at member
              split at member
              · rw [List.mem_singleton.mp member]
                rfl
              · obtain ⟨asked, modified, removed, rfl⟩ := mem_sendModifyBearers member
                rfl
  | releaseAccessBearers request =>
      simp only [step, handleReleaseAccessBearersRequest] at taken
      split at taken
      · cases taken
        cases member
      · unfold releaseAccessBearersInContext at taken
        split at taken
        · cases taken
          cases member
        · split at taken
          · cases taken
          · simp only [Option.some.injEq, Prod.ext_iff] at taken
            rw [← taken.2] at member
            unfold runReleaseAccessBearers at member
            split at member
            · rw [List.mem_singleton.mp member]
              rfl
            · obtain ⟨pdn, -, rfl⟩ := List.mem_map.mp member
              rfl
  | deleteSession request =>
      simp only [step, Option.some.injEq, Prod.ext_iff] at taken
      rw [← taken.2] at member
      unfold handleDeleteSessionRequest at member
      split at member
      · cases member
      · obtain ⟨asked, ebi, rfl⟩ := mem_deleteSessionInContext member
        rfl
  | downlinkDataNotificationAcknowledge ack =>
      simp only [step, Option.some.injEq, Prod.ext_iff] at taken
      rw [← taken.2] at member
      unfold handleDownlinkDataNotificationAcknowledge at member
      split at member
      · cases member
      · unfold downlinkDataNotificationAcknowledgeInContext at member
        split at member
        · cases member
        · split at member
          · rw [List.mem_singleton.mp member]
            rfl
          · cases member
  | createSessionResponse csresp =>
      simp only [step, handleCreateSessionResponse] at taken
      split at taken
      · cases taken
        cases member
      · split at taken
        · cases taken
          cases member
        · obtain ⟨⟨middle, sent⟩, answered, after⟩ := Option.map_eq_some_iff.mp taken
          rcases mem_cleanup after member with inner | rfl
          · unfold createSessionResponseInContext at answered
            split at answered
            · cases answered
              cases inner
            · split at answered
              · simp only [createSessionAnswered, Option.some.injEq, Prod.mk.injEq] at answered
                rw [← answered.2, List.mem_singleton] at inner
                rw [inner]
                rfl
              · cases answered
          · rfl
  | deleteSessionResponse dsresp =>
      simp only [step, handleDeleteSessionResponse] at taken
      split at taken
      · cases taken
        cases member
      · obtain ⟨⟨middle, sent⟩, answered, after⟩ := Option.map_eq_some_iff.mp taken
        rcases mem_cleanup after member with inner | rfl
        · unfold deleteSessionResponseInContext at answered
          split at answered
          · cases answered
            cases inner
          · split at answered
            · cases answered
              rw [List.mem_singleton.mp inner]
              rfl
            · cases answered
        · rfl
  | modifyBearerResponse s5resp =>
      simp only [step, handleModifyBearerResponse] at taken
      split at taken
      · cases taken
        cases member
      · unfold modifyBearerResponseInContext at taken
        split at taken
        · cases taken
          cases member
        · split at taken
          · simp only [Option.some.injEq, Prod.ext_iff] at taken
            rw [← taken.2] at member
            unfold modifyBearerAnswered at member
            split at member
            · cases member
            · split at member
              · rw [List.mem_singleton.mp member]
                rfl
              · cases member
          · cases taken
  | releaseAccessBearersResponse s5resp =>
      simp only [step, handleReleaseAccessBearersResponse] at taken
      split at taken
      · cases taken
        cases member
      · unfold releaseAccessBearersResponseInContext at taken
        split at taken
        · cases taken
          cases member
        · split at taken
          · simp only [Option.some.injEq, Prod.ext_iff] at taken
            rw [← taken.2] at member
            unfold releaseAccessBearersAnswered at member
            split at member
            · simp only at member
              split at member
              · rw [List.mem_singleton.mp member]
                rfl
              · cases member
            · cases member
          · cases taken
  | remotePeerNotResponding resp =>
      simp only [step, Option.some.injEq, handleRemotePeerNotResponding] at taken
      split at taken
      · cases taken
        cases member
      · split at taken
        · cases taken
          cases member
        · rcases mem_cleanup taken member with inner | rfl
          · split at inner
            · cases inner
            · split at inner
              · simp only [createSessionUnanswered, List.mem_singleton] at inner
                rw [inner]
                rfl
              · cases inner
          · rfl
  | downlinkDataNotification ddn =>
      simp only [step, Option.some.injEq, Prod.ext_iff] at taken
      rw [← taken.2] at member
      unfold handleDownlinkDataNotification at member
      split at member
      · cases member
      · unfold downlinkDataNotificationInContext at member
        split at member
        · cases member
        · split at member
          · cases member
          · split at member
            · rw [List.mem_singleton.mp member]
              rfl
            · cases member

end State

end OpenairSpgwc.Sgw
