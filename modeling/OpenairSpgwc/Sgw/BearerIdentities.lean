import OpenairSpgwc.Sgw.BearerMap
import OpenairSpgwc.Sgw.Requests

/-!
Contract: the bearer identities of a UE at the SGW.

A context stores its connections by access point name and PDN type, and finds one by a bearer
identity: the default bearer of the connection, or a key of its bearers.

Owns:
- `Dwindles`: no connection gains an identity, as in every step that makes no connection;
- `Apart`: no two connections of a context have an identity in common, and that this holds
  along every run whose Create Session Requests have an IMSI and one bearer.
-/

namespace OpenairSpgwc.Sgw

open Foundation
open Std (ExtTreeMap)

/-! ## Identities of a connection -/

namespace PdnConnection

variable {pdn middle next : PdnConnection} {ebi : Nat}

/-- What `find_pdn_connection(ebi)` asks of a connection. -/
def Identifies (pdn : PdnConnection) (ebi : Nat) : Prop :=
  pdn.defaultBearer = ebi ∨ ebi ∈ pdn.sgwEpsBearers

/-- `next` has no identity that `pdn` does not have. -/
def Narrows (pdn next : PdnConnection) : Prop := ∀ ebi, next.Identifies ebi → pdn.Identifies ebi

theorem Narrows.refl (pdn : PdnConnection) : pdn.Narrows pdn := fun _ has => has

theorem Narrows.trans (first : pdn.Narrows middle) (second : middle.Narrows next) :
    pdn.Narrows next := fun ebi has => first ebi (second ebi has)

theorem Narrows.foldl {α : Type} {f : PdnConnection → α → PdnConnection}
    (each : ∀ (pdn : PdnConnection) item, pdn.Narrows (f pdn item)) (items : List α)
    (pdn : PdnConnection) :
    pdn.Narrows (items.foldl f pdn) := by
  induction items generalizing pdn with
  | nil => exact refl pdn
  | cons item items inductionHypothesis =>
      exact (each pdn item).trans (inductionHypothesis (f pdn item))

/-- A bearer may be written in its place. -/
theorem narrows_setEpsBearer {bearer : EpsBearer} (stored : ebi ∈ pdn.sgwEpsBearers) :
    pdn.Narrows (pdn.setEpsBearer ebi bearer) := by
  intro other has
  cases has with
  | inl default => exact .inl default
  | inr member =>
      right
      cases ExtTreeMap.mem_insert.mp member with
      | inl same =>
          rw [← compare_eq_iff_eq.mp same]
          exact stored
      | inr before => exact before

theorem narrows_removeEpsBearer (pdn : PdnConnection) (ebi : Nat) :
    pdn.Narrows (pdn.removeEpsBearer ebi) := by
  intro other has
  cases has with
  | inl default => exact .inl default
  | inr member => exact .inr (ExtTreeMap.mem_of_mem_erase member)

theorem narrows_deleteBearers : pdn.Narrows pdn.deleteBearers := by
  intro other has
  cases has with
  | inl default => exact .inl default
  | inr member => exact absurd member ExtTreeMap.not_mem_empty

theorem mem_of_stored {bearer : EpsBearer} (stored : pdn.sgwEpsBearers[ebi]? = some bearer) :
    ebi ∈ pdn.sgwEpsBearers :=
  ExtTreeMap.mem_iff_isSome_getElem?.mpr (by rw [stored]; rfl)

theorem narrows_updateEpsBearer (answer : BearerContextModified) :
    pdn.Narrows (pdn.updateEpsBearer answer) := by
  unfold updateEpsBearer
  split
  · exact .refl pdn
  · next bearer stored =>
      split
      · split
        · exact .refl pdn
        · exact narrows_setEpsBearer (mem_of_stored stored)
      · exact .refl pdn

theorem narrows_storeEnbFteid (it : BearerContextToBeModified) :
    pdn.Narrows (State.storeEnbFteid pdn it) := by
  unfold State.storeEnbFteid
  split
  · next stored => exact narrows_setEpsBearer (mem_of_stored stored)
  · exact .refl pdn

theorem narrows_bearersUpdated (request : ModifyBearerRequest)
    (modified : List BearerContextModified) (marked : List BearerContextMarkedForRemoval) :
    pdn.Narrows (State.bearersUpdated pdn request modified marked) := by
  unfold State.bearersUpdated
  refine (Narrows.foldl ?_ _ pdn).trans (Narrows.foldl ?_ _ _)
  · intro pdn it
    split
    · exact narrows_updateEpsBearer _
    · exact .refl pdn
  · intro pdn ebi
    split
    · exact narrows_removeEpsBearer pdn ebi
    · exact .refl pdn

theorem narrows_bearersCreated (created : List BearerContextCreated) :
    pdn.Narrows (State.bearersCreated pdn created).1 := by
  induction created generalizing pdn with
  | nil => exact .refl pdn
  | cons i rest inductionHypothesis =>
      have one : pdn.Narrows (State.bearerCreated pdn i).1 := by
        unfold State.bearerCreated
        split
        · split
          · exact .refl pdn
          · next stored => exact narrows_setEpsBearer (mem_of_stored stored)
        · exact .refl pdn
      exact one.trans inductionHypothesis

theorem narrows_bearersCleared (marked : List BearerContextMarkedForRemoval) :
    pdn.Narrows (marked.foldl State.bearerCleared pdn) := by
  refine .foldl (fun pdn i => ?_) marked pdn
  unfold State.bearerCleared
  split
  · next stored => exact narrows_setEpsBearer (ExtTreeMap.mem_iff_contains.mpr stored)
  · exact .refl pdn

/-- A connection that is made for one bearer has the identity of this bearer only. -/
theorem identifies_newPdnConnection {request : CreateSessionRequest} {defaultBearer teid : Nat}
    (one : request.bearerContextsToBeCreated = [defaultBearer])
    (has : (State.newPdnConnection request defaultBearer teid).Identifies ebi) :
    ebi = defaultBearer := by
  unfold State.newPdnConnection at has
  rw [one] at has
  have created := Narrows.foldl narrows_removeEpsBearer _ _ ebi has
  rw [List.foldl_cons, List.foldl_nil] at created
  unfold addEpsBearer at created
  split at created
  · cases created with
    | inl default => exact default.symm
    | inr member =>
        cases ExtTreeMap.mem_insertIfNew.mp member with
        | inl same => exact (compare_eq_iff_eq.mp same).symm
        | inr before => exact absurd before ExtTreeMap.not_mem_empty
  · cases created with
    | inl default => exact default.symm
    | inr member => exact absurd member ExtTreeMap.not_mem_empty

end PdnConnection

/-! ## Steps that make no connection -/

namespace State

variable {s t u : State} {ebc c sp imsi ebi : Nat} {events : List Event}
  {request : CreateSessionRequest}

def Dwindles (s t : State) : Prop := ∀ sp, (s.pdnConnections sp).Narrows (t.pdnConnections sp)

theorem Dwindles.of_eq (same : t.pdnConnections = s.pdnConnections) : Dwindles s t := by
  intro sp
  rw [same]
  exact .refl _

theorem Dwindles.refl (s : State) : Dwindles s s := .of_eq rfl

theorem Dwindles.trans (first : Dwindles s t) (second : Dwindles t u) : Dwindles s u :=
  fun sp => (first sp).trans (second sp)

theorem dwindles_setPdnConnection {pdn : PdnConnection}
    (narrows : (s.pdnConnections sp).Narrows pdn) : Dwindles s (s.setPdnConnection sp pdn) := by
  intro other
  show (s.pdnConnections other).Narrows (Function.update s.pdnConnections sp pdn other)
  by_cases here : other = sp
  · rw [here, Function.update_self]
    exact narrows
  · rw [Function.update_of_ne here]
    exact .refl _

theorem dwindles_removeWithoutCause {address : Nat} {cause : Option Nat} :
    Dwindles s (s.removeWithoutCause ebc address cause) := by
  unfold removeWithoutCause
  split
  · exact .of_eq rfl
  · exact .refl s

theorem dwindles_deletePdnConnection (s : State) (ebc sp : Nat) :
    Dwindles s (s.deletePdnConnection ebc sp) := by
  intro other
  show (s.pdnConnections other).Narrows
    (Function.update s.pdnConnections sp (s.pdnConnections sp).deleteBearers other)
  by_cases here : other = sp
  · rw [here, Function.update_self]
    exact PdnConnection.narrows_deleteBearers
  · rw [Function.update_of_ne here]
    exact .refl _

theorem pdnConnections_startDeleteSessions {order : DeleteSessionRequest} {sps : List Nat} :
    (s.startDeleteSessions ebc order sps).1.pdnConnections = s.pdnConnections := by
  induction sps generalizing s with
  | nil => rfl
  | cons sp rest inductionHypothesis => exact inductionHypothesis

theorem pdnConnections_deleteSessionInContext {order : DeleteSessionRequest} :
    (s.deleteSessionInContext ebc order).1.pdnConnections = s.pdnConnections := by
  unfold deleteSessionInContext
  split
  · rfl
  · split
    · exact pdnConnections_startDeleteSessions
    · rfl

theorem dwindles_sendModifyBearers {sender n : Nat} {uids : Nat → Nat}
    {pdnBearers : List PdnBearersToBeXied} :
    Dwindles s (s.sendModifyBearers sender uids n pdnBearers).1 := by
  induction pdnBearers generalizing s n with
  | nil => exact .refl s
  | cons px rest inductionHypothesis =>
      have here : Dwindles s (s.setPdnConnection px.pdn
          (px.bearerContextsToBeModified.foldl storeEnbFteid (s.pdnConnections px.pdn))) :=
        dwindles_setPdnConnection (.foldl (fun _ it => PdnConnection.narrows_storeEnbFteid it) _ _)
      exact here.trans inductionHypothesis

theorem dwindles_modifyBearerInContext {order : ModifyBearerRequest} {uids : Nat → Nat}
    (handled : s.modifyBearerInContext ebc order uids = some (t, events)) : Dwindles s t := by
  unfold modifyBearerInContext at handled
  split at handled
  · cases handled
    exact .refl s
  · split at handled
    · cases handled
      exact .refl s
    · split at handled
      · cases handled
      · next c reached =>
          have after : Dwindles s (s.runModifyBearer ebc c order uids).1 := by
            unfold runModifyBearer
            dsimp only
            split
            · exact .refl s
            · exact dwindles_sendModifyBearers.trans (.of_eq rfl)
          rw [Option.some.inj handled] at after
          exact after

theorem dwindles_releaseAccessBearersInContext {order : ReleaseAccessBearersRequest}
    (handled : s.releaseAccessBearersInContext ebc order = some (t, events)) : Dwindles s t := by
  unfold releaseAccessBearersInContext at handled
  split at handled
  · cases handled
    exact .refl s
  · split at handled
    · cases handled
    · next c reached =>
        have after : Dwindles s (s.runReleaseAccessBearers ebc c order).1 := by
          unfold runReleaseAccessBearers
          split
          · exact .refl s
          · exact .of_eq rfl
        rw [Option.some.inj handled] at after
        exact after

theorem dwindles_modifyBearerResponseInContext {s5resp : ModifyBearerResponse}
    (handled : s.modifyBearerResponseInContext ebc s5resp = some (t, events)) : Dwindles s t := by
  unfold modifyBearerResponseInContext at handled
  split at handled
  · cases handled
    exact .refl s
  · next proc found =>
      split at handled
      · next order pdnBearers modified marked kind =>
          have after : Dwindles s
              (s.modifyBearerAnswered ebc proc order pdnBearers modified marked s5resp).1 := by
            unfold modifyBearerAnswered
            split
            · exact dwindles_removeWithoutCause
            · split
              · exact (dwindles_setPdnConnection
                  (PdnConnection.narrows_bearersUpdated _ _ _)).trans (.of_eq rfl)
              · have written {address : Nat} {kind : ProcedureKind} :
                    Dwindles s (s.setProcedure ebc address kind) := .of_eq rfl
                exact written.trans dwindles_removeWithoutCause
          rw [Option.some.inj handled] at after
          exact after
      · cases handled

theorem dwindles_releaseAccessBearersResponseInContext {s5resp : CauseResponse}
    (handled : s.releaseAccessBearersResponseInContext ebc s5resp = some (t, events)) :
    Dwindles s t := by
  unfold releaseAccessBearersResponseInContext at handled
  split at handled
  · cases handled
    exact .refl s
  · next proc found =>
      split at handled
      · next order bearers cause kind =>
          have after : Dwindles s
              (s.releaseAccessBearersAnswered ebc proc order bearers cause s5resp).1 := by
            unfold releaseAccessBearersAnswered
            split
            · exact .of_eq rfl
            · exact .refl s
          rw [Option.some.inj handled] at after
          exact after
      · cases handled

theorem dwindles_downlinkDataNotification {ddn : DownlinkDataNotification} :
    Dwindles s (s.handleDownlinkDataNotification ddn).1 := by
  unfold handleDownlinkDataNotification
  split
  · exact .refl s
  · unfold downlinkDataNotificationInContext
    split
    · exact .refl s
    · split
      · exact .refl s
      · split
        · exact .of_eq rfl
        · exact .refl s

/-! ### Responses that may delete a connection -/

theorem dwindles_createSessionResponseInContext {csresp : CreateSessionResponse}
    (handled : s.createSessionResponseInContext ebc sp csresp = some (t, events)) :
    Dwindles s t := by
  unfold createSessionResponseInContext at handled
  split at handled
  · cases handled
    exact .refl s
  · next proc found =>
      split at handled
      · next msg kind =>
          have answered : Dwindles s
              (s.createSessionAnswered ebc sp msg proc.gtpcTxId csresp).1 := by
            have written (pdn : PdnConnection) : pdn.Narrows
                (csresp.bearerContextsMarkedForRemoval.foldl bearerCleared
                  (bearersCreated pdn csresp.bearerContextsCreated).1) :=
              (PdnConnection.narrows_bearersCreated _).trans
                (PdnConnection.narrows_bearersCleared _)
            have stored : Dwindles s (s.setPdnConnection sp _) :=
              dwindles_setPdnConnection (written { s.pdnConnections sp with
                pgwFteidS5S8Cp := csresp.fteidForCp.getD (s.pdnConnections sp).pgwFteidS5S8Cp })
            unfold createSessionAnswered
            dsimp only
            split
            · exact stored.trans (dwindles_deletePdnConnection _ _ _)
            · exact stored
          rw [Option.some.injEq, Prod.mk.injEq] at handled
          rw [← handled.1]
          exact answered.trans (.of_eq rfl)
      · cases handled

theorem dwindles_deleteSessionResponseInContext {dsresp : CauseResponse}
    (handled : s.deleteSessionResponseInContext ebc sp dsresp = some (t, events)) :
    Dwindles s t := by
  unfold deleteSessionResponseInContext at handled
  split at handled
  · cases handled
    exact .refl s
  · split at handled
    · cases handled
      exact (dwindles_deletePdnConnection s ebc sp).trans (.of_eq rfl)
    · cases handled

theorem dwindles_remotePeerNotRespondingInContext {resp : RemotePeerNotResponding} :
    Dwindles s (s.remotePeerNotRespondingInContext ebc sp resp).1 := by
  unfold remotePeerNotRespondingInContext
  split
  · exact .refl s
  · split
    · dsimp only [createSessionUnanswered]
      split
      · exact (dwindles_deletePdnConnection s ebc sp).trans (.of_eq rfl)
      · exact .of_eq rfl
    · exact .of_eq rfl

theorem dwindles_cleanup {middle : State} {sent : List Event} (dwindles : Dwindles s middle)
    (after : cleanup ebc (middle, sent) = (t, events)) : Dwindles s t := by
  unfold cleanup at after
  split at after
  · next none =>
      dsimp only at after none
      rw [deleteSgwEpsBearerContext_eq none] at after
      cases after
      exact dwindles.trans (.of_eq rfl)
  · cases after
    exact dwindles

/-- Only a Create Session Request can give a connection an identity. -/
theorem dwindles_of_step {action : Action} (other : ∀ request, action ≠ .createSession request)
    (taken : step s action = some (t, events)) : Dwindles s t := by
  cases action with
  | createSession request => exact absurd rfl (other request)
  | createSessionResponse csresp =>
      simp only [step, handleCreateSessionResponse] at taken
      split at taken
      · cases taken
        exact .refl s
      · split at taken
        · cases taken
          exact .refl s
        · obtain ⟨⟨middle, sent⟩, answered, after⟩ := Option.map_eq_some_iff.mp taken
          exact dwindles_cleanup (dwindles_createSessionResponseInContext answered) after
  | deleteSessionResponse dsresp =>
      simp only [step, handleDeleteSessionResponse] at taken
      split at taken
      · cases taken
        exact .refl s
      · obtain ⟨⟨middle, sent⟩, answered, after⟩ := Option.map_eq_some_iff.mp taken
        exact dwindles_cleanup (dwindles_deleteSessionResponseInContext answered) after
  | remotePeerNotResponding resp =>
      have after := Option.some.inj taken
      unfold handleRemotePeerNotResponding at after
      split at after
      · cases after
        exact .refl s
      · split at after
        · cases after
          exact .refl s
        · exact dwindles_cleanup dwindles_remotePeerNotRespondingInContext after
  | modifyBearer order uids =>
      simp only [step, handleModifyBearerRequest] at taken
      split at taken
      · cases taken
        exact .refl s
      · exact dwindles_modifyBearerInContext taken
  | releaseAccessBearers order =>
      simp only [step, handleReleaseAccessBearersRequest] at taken
      split at taken
      · cases taken
        exact .refl s
      · exact dwindles_releaseAccessBearersInContext taken
  | deleteSession order =>
      have after : Dwindles s (s.handleDeleteSessionRequest order).1 := by
        unfold handleDeleteSessionRequest
        split
        · exact .refl s
        · exact .of_eq pdnConnections_deleteSessionInContext
      rw [Option.some.inj taken] at after
      exact after
  | downlinkDataNotificationAcknowledge ack =>
      have same : (s.handleDownlinkDataNotificationAcknowledge ack).1 = s :=
        downlinkDataNotificationAcknowledge_fst
      rw [Option.some.inj taken] at same
      rw [← same]
      exact .refl t
  | modifyBearerResponse s5resp =>
      simp only [step, handleModifyBearerResponse] at taken
      split at taken
      · cases taken
        exact .refl s
      · exact dwindles_modifyBearerResponseInContext taken
  | releaseAccessBearersResponse s5resp =>
      simp only [step, handleReleaseAccessBearersResponse] at taken
      split at taken
      · cases taken
        exact .refl s
      · exact dwindles_releaseAccessBearersResponseInContext taken
  | downlinkDataNotification ddn =>
      have after : Dwindles s (s.handleDownlinkDataNotification ddn).1 :=
        dwindles_downlinkDataNotification
      rw [Option.some.inj taken] at after
      exact after

/-! ### Create Session Requests that have an IMSI -/

theorem route_attach {requested : Option Nat} (own : request.imsi = some imsi)
    (one : request.bearerContextsToBeCreated = [ebi])
    (routed : s.route request = .context ebc requested) :
    s.imsi2sgwEpsBearerContext[imsi]? = some ebc ∧ requested = some ebi := by
  have same : requested = some ebi := by
    unfold route at routed
    rw [own, one] at routed
    grind
  rw [same] at routed
  obtain ⟨-, -, -, imsi', own', -, mapped, -⟩ := route_imsi_iff.mp routed
  rw [own] at own'
  cases own'
  exact ⟨mapped, same⟩

/-! ## Identities of a UE -/

/-- No identity belongs to two connections of a context. -/
def Apart (s : State) : Prop :=
  ∀ ebc, ∀ sp ∈ (s.contexts ebc).connections, ∀ sp' ∈ (s.contexts ebc).connections, ∀ ebi,
    (s.pdnConnections sp).Identifies ebi → (s.pdnConnections sp').Identifies ebi → sp = sp'

theorem Apart.shrink (apart : Apart s)
    (fewer : ∀ ebc, ∀ sp ∈ (t.contexts ebc).connections, sp ∈ (s.contexts ebc).connections)
    (dwindles : Dwindles s t) : Apart t := by
  intro ebc sp member sp' member' ebi has has'
  exact apart ebc sp (fewer ebc sp member) sp' (fewer ebc sp' member') ebi
    (dwindles sp ebi has) (dwindles sp' ebi has')

theorem mem_connections_same (same : SameTables s t) :
    sp ∈ (t.contexts ebc).connections ↔ sp ∈ (s.contexts ebc).connections := by
  rw [mem_connections, mem_connections, same.connections]

theorem findPdnConnection_isSome_of_identifies (member : sp ∈ (s.contexts ebc).connections)
    (has : (s.pdnConnections sp).Identifies ebi) : (s.findPdnConnection ebc ebi).isSome := by
  unfold findPdnConnection
  rw [List.find?_isSome]
  refine ⟨sp, member, ?_⟩
  rw [Bool.or_eq_true, beq_iff_eq]
  exact has.imp_right ExtTreeMap.mem_iff_contains.mp

theorem of_findPdnConnection (found : s.findPdnConnection ebc ebi = some sp) :
    sp ∈ (s.contexts ebc).connections ∧ (s.pdnConnections sp).Identifies ebi := by
  refine ⟨List.mem_of_find?_eq_some found, ?_⟩
  have has := List.find?_some found
  rw [Bool.or_eq_true, beq_iff_eq] at has
  exact has.imp_right ExtTreeMap.mem_iff_contains.mpr

/-- The search by an identity finds the one connection that has it. -/
theorem Apart.findPdnConnection_eq_some_iff (apart : Apart s) :
    s.findPdnConnection ebc ebi = some sp ↔
      sp ∈ (s.contexts ebc).connections ∧ (s.pdnConnections sp).Identifies ebi := by
  constructor
  · exact of_findPdnConnection
  · rintro ⟨member, has⟩
    obtain ⟨sp', found⟩ :=
      Option.isSome_iff_exists.mp (findPdnConnection_isSome_of_identifies member has)
    obtain ⟨member', has'⟩ := of_findPdnConnection found
    rw [found, apart ebc sp' member' sp member ebi has' has]

/-! ### Create Session Requests -/

theorem pdnConnections_entered : (s.entered ebc request).pdnConnections = s.pdnConnections := by
  unfold entered
  split <;> rfl

theorem mem_connections_entered {other : Nat} :
    sp ∈ ((s.entered ebc request).contexts other).connections ↔
      sp ∈ (s.contexts other).connections := by
  rw [mem_connections, mem_connections, connections_entered]

/-- No connection of the context has the identity. -/
def Vacant (s : State) (ebc ebi : Nat) : Prop :=
  ∀ sp ∈ (s.contexts ebc).connections, ¬(s.pdnConnections sp).Identifies ebi

theorem Vacant.shrink (vacant : Vacant s ebc ebi)
    (fewer : ∀ sp ∈ (t.contexts ebc).connections, sp ∈ (s.contexts ebc).connections)
    (dwindles : Dwindles s t) : Vacant t ebc ebi :=
  fun sp member has => vacant sp (fewer sp member) (dwindles sp ebi has)

/-- The collision leaves no connection with the identity that is asked for. -/
theorem clearCollision_vacant (booked : Booked s) (apart : Apart s) :
    Booked (s.clearCollision ebc (some ebi)).1 ∧ Apart (s.clearCollision ebc (some ebi)).1 ∧
      Vacant (s.clearCollision ebc (some ebi)).1 ebc ebi ∧
      (s.clearCollision ebc (some ebi)).1.imsi2sgwEpsBearerContext =
        s.imsi2sgwEpsBearerContext := by
  unfold clearCollision
  dsimp only
  cases found : s.findPdnConnection ebc ebi with
  | none =>
      refine ⟨booked, apart, fun sp member has => ?_, rfl⟩
      have some := findPdnConnection_isSome_of_identifies member has
      rw [found] at some
      cases some
  | some sp =>
      obtain ⟨member', own⟩ := of_findPdnConnection found
      obtain ⟨key, present⟩ := mem_connections.mp member'
      have same : SameTables s (s.deleteSessionInContext ebc (s.collisionRequest ebc ebi)).1 :=
        sameTables_deleteSessionInContext
      have connections : (s.deleteSessionInContext ebc
          (s.collisionRequest ebc ebi)).1.pdnConnections = s.pdnConnections :=
        pdnConnections_deleteSessionInContext
      dsimp only
      generalize (s.deleteSessionInContext ebc (s.collisionRequest ebc ebi)).1 = asked
        at same connections ⊢
      have dwindles : Dwindles s (asked.deletePdnConnection ebc sp) :=
        (Dwindles.of_eq connections).trans (dwindles_deletePdnConnection asked ebc sp)
      have left {other sp' : Nat}
          (member : sp' ∈ ((asked.deletePdnConnection ebc sp).contexts other).connections) :
          sp' ∈ (s.contexts other).connections ∧ (other = ebc → sp' ≠ sp) := by
        obtain ⟨key', present'⟩ := mem_connections.mp member
        obtain ⟨before, away⟩ := connections_deletePdnConnection.mp present'
        rw [same.connections] at before
        refine ⟨mem_connections.mpr ⟨key', before⟩, fun here equal => away here ?_⟩
        rw [same.keys, ← equal]
        exact (booked.held other key' sp' before).1.symm
      have present : (asked.contexts ebc).pdnConnections[key]? = some sp := by
        rw [same.connections]
        exact present
      refine ⟨(booked.same same).deletePdnConnection present, apart.shrink
        (fun other sp' member => (left member).1) dwindles, fun sp' member has => ?_,
        same.imsiMap⟩
      obtain ⟨before, different⟩ := left member
      exact different rfl (apart ebc sp' before sp member' ebi (dwindles sp' ebi has) own)

/-- A request with an IMSI and one bearer reaches a context that has no connection with the
identity of this bearer, and runs in it. -/
structure Ready (base : State) (ebc ebi : Nat) : Prop where
  booked : Booked base
  apart : Apart base
  vacant : Vacant base ebc ebi
  anchored : Anchored base ebc
  runContext : base.runContext ebc = some ebc

theorem ready_entered (booked : Booked s) (apart : Apart s) (vacant : Vacant s ebc ebi)
    (known : s.imsi2sgwEpsBearerContext[imsi]? = some ebc) (own : request.imsi = some imsi) :
    Ready (s.entered ebc request) ebc ebi := by
  have kept : Dwindles s (s.entered ebc request) := .of_eq pdnConnections_entered
  have entered := booked.entered known own
  exact
    { booked := entered
      apart := apart.shrink (fun _ _ => mem_connections_entered.mp) kept
      vacant := vacant.shrink (fun _ => mem_connections_entered.mp) kept
      anchored := entered.anchored (tables_entered.1 ▸ known)
      runContext := runContext_entered (booked.imsis imsi ebc known).2.2 }

theorem ready_handed {base : State} (booked : Booked s) (apart : Apart s)
    (own : request.imsi = some imsi) (one : request.bearerContextsToBeCreated = [ebi])
    (reached : s.handed request = some (base, ebc)) :
    Ready (base.entered ebc request) ebc ebi := by
  unfold handed at reached
  split at reached
  · next imsi' routed =>
      cases reached
      obtain ⟨own', unknown⟩ := route_newContext routed
      rw [own] at own'
      cases own'
      rw [entered_addContext own]
      have none (sp : Nat) (member : sp ∈
          ((s.addNamedContext imsi).contexts s.nextAddress).connections) : False := by
        obtain ⟨key, present⟩ := mem_connections.mp member
        have present : (Function.update s.contexts s.nextAddress { imsi := imsi }
          s.nextAddress).pdnConnections[key]? = some sp := present
        rw [Function.update_self, ExtTreeMap.getElem?_empty] at present
        cases present
      refine ready_entered (booked.addNamedContext unknown) ?_
        (fun sp member => absurd member (none sp)) ExtTreeMap.getElem?_insert_self own
      refine apart.shrink (fun other sp member => ?_) (.of_eq rfl)
      by_cases here : other = s.nextAddress
      · rw [here] at member
        exact absurd member (none sp)
      · have same : (s.addNamedContext imsi).contexts other = s.contexts other :=
          Function.update_of_ne here _ _
        rw [same] at member
        exact member
  · next ebc' requested routed =>
      cases reached
      obtain ⟨mapped, rfl⟩ := route_attach own one routed
      obtain ⟨booked, apart, vacant, imsiMap⟩ := clearCollision_vacant booked apart
      exact ready_entered booked apart vacant (imsiMap ▸ mapped) own
  · cases reached
  · cases reached
  · cases reached

/-- The connection that is made has an identity that no other of its context has. -/
theorem Ready.made {middle : State} (ready : Ready s ebc ebi) (same : SameTables s middle)
    (kept : middle.pdnConnections = s.pdnConnections)
    (one : request.bearerContextsToBeCreated = [ebi])
    (absent : (middle.contexts ebc).pdnConnections.contains (request.apn, request.pdnType) = false) :
    Booked (middle.withNewPdnConnection ebc request ebi) ∧
      Apart (middle.withNewPdnConnection ebc request ebi) := by
  have added : Added middle ebc request (middle.withNewPdnConnection ebc request ebi) :=
    added_withNewPdnConnection request ebi
  have booked := ready.booked.same same
  have anchored := ready.anchored.same same
  have apart : Apart middle :=
    ready.apart.shrink (fun _ _ => (mem_connections_same same).mp) (.of_eq kept)
  have vacant : Vacant middle ebc ebi :=
    ready.vacant.shrink (fun _ => (mem_connections_same same).mp) (.of_eq kept)
  refine ⟨booked.added anchored absent added, ?_⟩
  -- A connection of a context is the new one, or an old one as it was.
  have cases' (other sp : Nat) (member : sp ∈
      ((middle.withNewPdnConnection ebc request ebi).contexts other).connections) :
      (other = ebc ∧ sp = middle.nextAddress) ∨ (sp ∈ (middle.contexts other).connections ∧
        (middle.withNewPdnConnection ebc request ebi).pdnConnections sp =
          middle.pdnConnections sp) := by
    obtain ⟨key, present⟩ := mem_connections.mp member
    rcases (added.connections_iff absent other key sp).mp present with ⟨here, -, new⟩ | before
    · exact .inl ⟨here, new⟩
    · have older := (booked.held other key sp before).2.2
      exact .inr ⟨mem_connections.mpr ⟨key, before⟩, added.others sp older.ne⟩
  have new (other : Nat) (has : ((middle.withNewPdnConnection ebc request ebi).pdnConnections
      middle.nextAddress).Identifies other) : other = ebi := by
    have has : (Function.update middle.pdnConnections middle.nextAddress
      (newPdnConnection request ebi _) middle.nextAddress).Identifies other := has
    rw [Function.update_self] at has
    exact PdnConnection.identifies_newPdnConnection one has
  intro other sp member sp' member' identity has has'
  rcases cases' other sp member with ⟨rfl, rfl⟩ | ⟨before, same⟩
  · rcases cases' other sp' member' with ⟨-, rfl⟩ | ⟨before', same'⟩
    · rfl
    · rw [same', new identity has] at has'
      exact absurd has' (vacant sp' before')
  · rcases cases' other sp' member' with ⟨rfl, rfl⟩ | ⟨before', same'⟩
    · rw [same, new identity has'] at has
      exact absurd has (vacant sp before)
    · rw [same] at has
      rw [same'] at has'
      exact apart other sp before sp' before' identity has has'

theorem create_apart (booked : Booked s) (apart : Apart s) (own : request.imsi = some imsi)
    (one : request.bearerContextsToBeCreated = [ebi])
    (handled : s.handleCreateSessionRequest request = some (t, events)) :
    Booked t ∧ Apart t := by
  rcases create_cases handled with same | ⟨base, ebc, more, reached, created⟩
  · rw [same]
    exact ⟨booked, apart⟩
  · have ready := ready_handed booked apart own one reached
    obtain ⟨c, runs, outcome⟩ := createSessionInContext_outcome created
    rw [ready.runContext] at runs
    cases runs
    cases outcome with
    | refused present =>
        have same : SameTables (base.entered ebc request)
            ((base.starting ebc ebc request).removeProcedure ebc
              (base.entered ebc request).nextAddress) :=
          sameTables_starting.trans sameTables_removeProcedure
        exact ⟨ready.booked.same same, ready.apart.shrink
          (fun _ _ => (mem_connections_same same).mp) (.of_eq rfl)⟩
    | made defaultBearer absent first =>
        rw [one] at first
        cases first
        refine ready.made sameTables_starting rfl one ?_
        rw [sameTables_starting.connections]
        exact absent

/-! ### Other messages -/

theorem apart_trims (booked : Booked s) (routed : ∃ teid : Nat,
      s.s5s8lteid2sgwContexts[teid]? = some (ebc, sp)) (trims : Trims s ebc sp t) :
    Booked t ∧ Anchored t ebc ∧
      ∀ other, ∀ sp ∈ (t.contexts other).connections, sp ∈ (s.contexts other).connections := by
  obtain ⟨teid, routed⟩ := routed
  have present := (booked.routed teid ebc sp routed).2
  have anchored := (booked.held ebc _ sp present).2.1
  rcases trims with same | ⟨middle, same, after⟩
  · exact ⟨booked.same same, anchored.same same, fun _ _ => (mem_connections_same same).mp⟩
  · rw [← same.connections] at present
    refine ⟨((booked.same same).deletePdnConnection present).same after,
      ((anchored.same same).deletePdnConnection).same after, fun other sp' member => ?_⟩
    obtain ⟨key, left⟩ := mem_connections.mp ((mem_connections_same after).mp member)
    exact (mem_connections_same same).mp
      (mem_connections.mpr ⟨key, (connections_deletePdnConnection.mp left).1⟩)

theorem booked_cleaned (booked : Booked s) (cleaned : Cleaned s t events ebc sp) :
    Booked t ∧
      ∀ other, ∀ sp ∈ (t.contexts other).connections, sp ∈ (s.contexts other).connections := by
  obtain ⟨routed, middle, sent, trims, -, after⟩ := cleaned
  obtain ⟨trimmed, anchored, fewer⟩ := apart_trims booked routed trims
  unfold cleanup at after
  split at after
  · next none =>
      cases after
      refine ⟨trimmed.deleteContext anchored none, fun other sp' member => fewer other sp' ?_⟩
      obtain ⟨key, left⟩ := mem_connections.mp member
      rw [deleteSgwEpsBearerContext_eq none] at left
      refine mem_connections.mpr ⟨key, ?_⟩
      rw [← left]
      show _ = (Function.update middle.contexts ebc _ other).pdnConnections[key]?
      rw [Function.update_apply]
      split
      · next here => rw [here]
      · rfl
  · cases after
    exact ⟨trimmed, fewer⟩

/-- A Create Session Request has an IMSI and one bearer context to be created. -/
def Attaches : Action → Prop
  | .createSession request =>
      request.imsi.isSome = true ∧ request.bearerContextsToBeCreated.length = 1
  | _ => True

instance : DecidablePred Attaches := fun action =>
  match action with
  | .createSession request => inferInstanceAs (Decidable
      (request.imsi.isSome = true ∧ request.bearerContextsToBeCreated.length = 1))
  | .modifyBearer _ _ => inferInstanceAs (Decidable True)
  | .releaseAccessBearers _ => inferInstanceAs (Decidable True)
  | .deleteSession _ => inferInstanceAs (Decidable True)
  | .downlinkDataNotificationAcknowledge _ => inferInstanceAs (Decidable True)
  | .createSessionResponse _ => inferInstanceAs (Decidable True)
  | .deleteSessionResponse _ => inferInstanceAs (Decidable True)
  | .modifyBearerResponse _ => inferInstanceAs (Decidable True)
  | .releaseAccessBearersResponse _ => inferInstanceAs (Decidable True)
  | .remotePeerNotResponding _ => inferInstanceAs (Decidable True)
  | .downlinkDataNotification _ => inferInstanceAs (Decidable True)

theorem apart_step {action : Action} (booked : Booked s) (apart : Apart s)
    (attaches : Attaches action) (taken : step s action = some (t, events)) :
    Booked t ∧ Apart t := by
  by_cases create : ∃ request, action = .createSession request
  · obtain ⟨request, rfl⟩ := create
    obtain ⟨imsi, own⟩ := Option.isSome_iff_exists.mp attaches.1
    obtain ⟨ebi, one⟩ := List.length_eq_one_iff.mp attaches.2
    exact create_apart booked apart own one taken
  · have dwindles : Dwindles s t :=
      dwindles_of_step (fun request same => create ⟨request, same⟩) taken
    have kept (same : SameTables s t) : Booked t ∧ Apart t :=
      ⟨booked.same same,
        apart.shrink (fun _ _ => (mem_connections_same same).mp) dwindles⟩
    have cleaned (cases' : (t = s ∧ events = []) ∨ ∃ ebc sp, Cleaned s t events ebc sp) :
        Booked t ∧ Apart t := by
      rcases cases' with ⟨rfl, -⟩ | ⟨ebc, sp, cleaned⟩
      · exact ⟨booked, apart⟩
      · obtain ⟨after, fewer⟩ := booked_cleaned booked cleaned
        exact ⟨after, apart.shrink fewer dwindles⟩
    cases action with
    | createSession request => exact absurd ⟨request, rfl⟩ create
    | createSessionResponse csresp => exact cleaned (cleaned_createSessionResponse taken)
    | deleteSessionResponse dsresp => exact cleaned (cleaned_deleteSessionResponse taken)
    | remotePeerNotResponding resp =>
        exact cleaned (cleaned_remotePeerNotResponding (Option.some.inj taken))
    | modifyBearer order uids => exact kept (sameTables_step rfl taken)
    | releaseAccessBearers order => exact kept (sameTables_step rfl taken)
    | deleteSession order => exact kept (sameTables_step rfl taken)
    | downlinkDataNotificationAcknowledge ack => exact kept (sameTables_step rfl taken)
    | modifyBearerResponse s5resp => exact kept (sameTables_step rfl taken)
    | releaseAccessBearersResponse s5resp => exact kept (sameTables_step rfl taken)
    | downlinkDataNotification ddn => exact kept (sameTables_step rfl taken)

/-- In every state that is reached by Create Session Requests with an IMSI and one bearer and
by any other messages, the key of a connection is its access point name and its type, and an
identity belongs to at most one connection of a UE: the one that is found by it. -/
theorem bearer_identities_unique {records : List (StepRecord State Action Event)} {s : State}
    (run : Run step init records s) (attaches : ∀ record ∈ records, Attaches record.action) :
    (∀ (ebc : Nat) (key : Kpdn) (sp : Nat), (s.contexts ebc).pdnConnections[key]? = some sp →
        key = ((s.pdnConnections sp).apnInUse, (s.pdnConnections sp).pdnType)) ∧
      (∀ (ebc : Nat) (key key' : Kpdn) (sp sp' ebi : Nat),
        (s.contexts ebc).pdnConnections[key]? = some sp →
        (s.contexts ebc).pdnConnections[key']? = some sp' →
        (s.pdnConnections sp).Identifies ebi → (s.pdnConnections sp').Identifies ebi → sp = sp') ∧
      ∀ ebc ebi sp, s.findPdnConnection ebc ebi = some sp ↔
        (∃ key : Kpdn, (s.contexts ebc).pdnConnections[key]? = some sp) ∧
          (s.pdnConnections sp).Identifies ebi := by
  obtain ⟨booked, apart⟩ : Booked s ∧ Apart s :=
    (run.invariant_of_condition (fun s => Booked s ∧ Apart s) (fun _ action => Attaches action)
      ⟨booked_init, fun ebc sp member => by cases mem_connections.mp member with
        | intro key present => simp [init] at present⟩
      (fun _ _ _ _ holds attaches taken => apart_step holds.1 holds.2 attaches taken)
      attaches).1
  refine ⟨fun ebc key sp present => (booked.held ebc key sp present).1.symm, ?_, ?_⟩
  · intro ebc key key' sp sp' ebi present present' has has'
    exact apart ebc sp (mem_connections.mpr ⟨key, present⟩) sp'
      (mem_connections.mpr ⟨key', present'⟩) ebi has has'
  · intro ebc ebi sp
    rw [apart.findPdnConnection_eq_some_iff, mem_connections]

/-- A UE has two connections, asks for a third with the bearer of the first, and the answer for
the first comes late. -/
def replacing : List Action :=
  attachActions 1 0 7 5 "oai" 1 ++ attachActions 2 0 7 6 "ims" 2 ++
    (attachActions 3 0 7 5 "mms" 3).take 1 ++
    [.createSessionResponse
      { gtpcTxId := 1, teid := 1, cause := some requestAccepted
        fteidForCp := some { v4 := true, interfaceType := s5s8PgwGtpC, teidGreKey := 101 }
        bearerContextsCreated := [{ epsBearerId := 5, cause := some requestAccepted }] }]

theorem bearer_identities_unique_replacing : ∃ records s, Run step init records s ∧
    (s.contexts 0).pdnConnections.size = 2 ∧
    (∀ (ebc : Nat) (key : Kpdn) (sp : Nat), (s.contexts ebc).pdnConnections[key]? = some sp →
        key = ((s.pdnConnections sp).apnInUse, (s.pdnConnections sp).pdnType)) ∧
      (∀ (ebc : Nat) (key key' : Kpdn) (sp sp' ebi : Nat),
        (s.contexts ebc).pdnConnections[key]? = some sp →
        (s.contexts ebc).pdnConnections[key']? = some sp' →
        (s.pdnConnections sp).Identifies ebi → (s.pdnConnections sp').Identifies ebi → sp = sp') ∧
      ∀ ebc ebi sp, s.findPdnConnection ebc ebi = some sp ↔
        (∃ key : Kpdn, (s.contexts ebc).pdnConnections[key]? = some sp) ∧
          (s.pdnConnections sp).Identifies ebi := by
  obtain ⟨records, s, run, two, attaches⟩ := Run.exists_of_passes step init replacing
    (fun records s => (s.contexts 0).pdnConnections.size = 2 ∧
      ∀ record ∈ records, Attaches record.action) (by decide)
  exact ⟨records, s, run, two, bearer_identities_unique run attaches⟩

end State

end OpenairSpgwc.Sgw
