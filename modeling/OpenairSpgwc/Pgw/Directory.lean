import OpenairSpgwc.Pgw.BearerMap
import OpenairSpgwc.Pgw.Registry
import OpenairSpgwc.Pgw.Turns

/-!
Contract: the control TEIDs of the PGW under messages of every kind.

Owns:
- `OnlyBearers`, what the procedures of Modify Bearer and Release Access Bearers Requests
  write to a connection;
- `Directory`, an invariant of every reachable state: `Registered` with contexts that exist;
- the search for a connection by a TEID, as a search among the APN contexts.
-/

namespace OpenairSpgwc.Pgw

open Foundation
open OpenairSpgwc.Common
open Std (ExtTreeMap)

/-! ## Connections -/

namespace PdnConnection

variable {pdn middle next : PdnConnection}

/-- `next` differs from `pdn` in bearers and generators of rule identifiers only. -/
def OnlyBearers (pdn next : PdnConnection) : Prop :=
  next = { pdn with
    epsBearers := next.epsBearers
    farIdGenerator := next.farIdGenerator, pdrIdGenerator := next.pdrIdGenerator }

theorem OnlyBearers.refl (pdn : PdnConnection) : pdn.OnlyBearers pdn := rfl

theorem OnlyBearers.trans (first : pdn.OnlyBearers middle) (second : middle.OnlyBearers next) :
    pdn.OnlyBearers next := by
  unfold OnlyBearers at first second
  rw [first] at second
  exact second

theorem OnlyBearers.pgwFteidS5S8Cp (only : pdn.OnlyBearers next) :
    next.pgwFteidS5S8Cp = pdn.pgwFteidS5S8Cp := by
  unfold OnlyBearers at only
  rw [only]

theorem Redrawn.onlyBearers (redrawn : pdn.Redrawn next) : pdn.OnlyBearers next := by
  unfold Redrawn at redrawn
  rw [redrawn]
  rfl

theorem onlyBearers_addEpsBearer (pdn : PdnConnection) (bearer : EpsBearer) :
    pdn.OnlyBearers (pdn.addEpsBearer bearer) := by
  unfold addEpsBearer
  split <;> rfl

theorem onlyBearers_releaseBearers (pdn : PdnConnection) :
    pdn.OnlyBearers (Gateway.releaseBearers pdn) :=
  releaseBearers_keeps (P := pdn.OnlyBearers)
    (fun _ bearer before => before.trans (onlyBearers_addEpsBearer _ bearer)) (.refl pdn)

theorem onlyBearers_completed (pdn : PdnConnection) (toBeModified : List BearerContextToBeModified)
    (updateFars : List UpdateFar) (pending : ModifyBearerResponse)
    (response : SessionModificationResponse) :
    pdn.OnlyBearers (Gateway.completed pdn toBeModified updateFars pending response).1 :=
  completed_keeps (P := pdn.OnlyBearers)
    (fun _ bearer before => before.trans (onlyBearers_addEpsBearer _ bearer)) (.refl pdn)
    toBeModified updateFars pending response

end PdnConnection

theorem Modification.onlyBearers {m next : Modification} {its : List BearerContextToBeModified}
    (ran : m.bearers its = some next) : m.pdn.OnlyBearers next.pdn := by
  induction its generalizing m with
  | nil =>
      cases ran
      rfl
  | cons it its inductionHypothesis =>
      obtain ⟨middle, first, rest⟩ := Option.bind_eq_some_iff.mp ran
      obtain ⟨bearer, drawn, -, redrawn, stored⟩ := bearer_frame first
      have here : m.pdn.OnlyBearers middle.pdn := by
        rw [stored]
        exact redrawn.onlyBearers.trans rfl
      exact here.trans (inductionHypothesis rest)

/-! ## The other messages -/

namespace State

variable {s t u : State} {pc sa sp teid : Nat}

/-- The registry is as before, and connections differ in bearers only. -/
structure Rebearered (s t : State) : Prop extends SameRegistry s t where
  connections : ∀ sp, (s.pdnConnections sp).OnlyBearers (t.pdnConnections sp)

theorem Rebearered.refl (s : State) : Rebearered s s := ⟨.refl s, fun _ => rfl⟩

theorem Rebearered.trans (first : Rebearered s t) (second : Rebearered t u) : Rebearered s u :=
  ⟨first.toSameRegistry.trans second.toSameRegistry,
    fun sp => (first.connections sp).trans (second.connections sp)⟩

theorem rebearered_setPdnConnection {pdn : PdnConnection}
    (only : (s.pdnConnections sp).OnlyBearers pdn) : Rebearered s (s.setPdnConnection sp pdn) where
  toSameRegistry := sameRegistry_setPdnConnection only.pgwFteidS5S8Cp
  connections other := by
    show (s.pdnConnections other).OnlyBearers (Function.update s.pdnConnections sp pdn other)
    by_cases here : other = sp
    · rw [here, Function.update_self]
      exact only
    · rw [Function.update_of_ne here]
      rfl

theorem rebearered_removeProcedure (address : Nat) : Rebearered s (s.removeProcedure pc address) :=
  ⟨keeps_removeProcedure.toSameRegistry, fun _ => rfl⟩

/-! ### Attached connections -/

/-- A connection that has a TEID hangs in a context. -/
def Owned (s : State) : Prop :=
  ∀ sp, (s.pdnConnections sp).pgwFteidS5S8Cp.teidGreKey ≠ 0 →
    ∃ pc, ∃ sa ∈ (s.contexts pc).apns, sp = sa + 1

theorem Owned.same (owned : Owned s) (same : SameRegistry s t) : Owned t := by
  intro sp nonzero
  rw [same.fteids] at nonzero
  obtain ⟨pc, sa, member, own⟩ := owned sp nonzero
  refine ⟨pc, sa, ?_, own⟩
  rw [same.apns]
  exact member

theorem Owned.attachedNew {request : CreateSessionRequest} (owned : Owned s)
    (new : AttachedNew s pc request teid t) : Owned t := by
  intro sp nonzero
  by_cases here : sp = s.nextAddress + 1
  · exact ⟨pc, s.nextAddress, new.mem_apns.mpr (.inr ⟨rfl, rfl⟩), here⟩
  · rw [new.others sp here] at nonzero
    obtain ⟨other, sa, member, own⟩ := owned sp nonzero
    exact ⟨other, sa, new.mem_apns.mpr (.inl member), own⟩

theorem Owned.removed (owned : Owned s) (removed : Removed s pc sa t) : Owned t := by
  intro sp nonzero
  rw [removed.pdnConnections] at nonzero
  by_cases here : sp = sa + 1
  · rw [here, Function.update_self] at nonzero
    exact absurd rfl nonzero
  · rw [Function.update_of_ne here] at nonzero
    obtain ⟨other, sa', member, own⟩ := owned sp nonzero
    refine ⟨other, sa', ?_, own⟩
    rw [removed.contexts, Function.update_apply]
    split
    · next same =>
        rw [same] at member
        exact (List.mem_erase_of_ne fun equal => here (by rw [own, equal])).mpr member
    · exact member

theorem Owned.of_step (owned : Owned s) (step : RegistryStep s t) : Owned t := by
  cases step with
  | same same => exact owned.same same
  | attached arrives new leaves => exact ((owned.same arrives).attachedNew new).same leaves
  | removed member removed leaves => exact (owned.removed removed).same leaves

/-! ### Lookups -/

/-- The TEID of the SGW that the connection of an APN context has stored. -/
def sgwTeidOf (s : State) (sa : Nat) : Nat := (s.pdnConnections (sa + 1)).sgwFteidS5S8Cp.teidGreKey

/-- The TEID by which connections are searched. -/
def searchedTeid (s : State) (isLocalTeid : Bool) (sa : Nat) : Nat :=
  if isLocalTeid then s.teidOf sa else s.sgwTeidOf sa

/-- The first APN context of the list whose connection has that TEID. -/
def FirstWith (s : State) (pc : Nat) (isLocalTeid : Bool) (teid sa : Nat) : Prop :=
  ∃ earlier later, (s.contexts pc).apns = earlier ++ sa :: later ∧
    s.searchedTeid isLocalTeid sa = teid ∧
    ∀ other ∈ earlier, s.searchedTeid isLocalTeid other ≠ teid

theorem Registered.findInApn_eq (registered : Registered s) (member : sa ∈ (s.contexts pc).apns)
    (isLocalTeid : Bool) : s.findInApn sa teid isLocalTeid =
      if s.searchedTeid isLocalTeid sa = teid then some (sa + 1) else none := by
  unfold findInApn searchedTeid
  rw [(registered.single pc sa member).1, List.find?_singleton]
  cases isLocalTeid with
  | true => simp [teidOf]
  | false => simp [sgwTeidOf]

theorem Registered.findPdnConnection_eq_some_iff (registered : Registered s) {isLocalTeid : Bool} :
    s.findPdnConnection pc teid isLocalTeid = some (sa, sp) ↔
      sp = sa + 1 ∧ s.FirstWith pc isLocalTeid teid sa := by
  have inner (other : Nat) (member : other ∈ (s.contexts pc).apns) :
      ((s.findInApn other teid isLocalTeid).map fun sp => (other, sp)) =
        if s.searchedTeid isLocalTeid other = teid then some (other, other + 1) else none := by
    rw [registered.findInApn_eq member]
    split <;> rfl
  unfold findPdnConnection FirstWith
  rw [List.findSome?_eq_some_iff]
  constructor
  · rintro ⟨earlier, other, later, shape, here, before⟩
    rw [inner other (by rw [shape]; simp)] at here
    split at here
    · next same =>
        cases here
        refine ⟨rfl, earlier, later, shape, same, fun entry member => ?_⟩
        have missed := before entry member
        rw [inner entry (by rw [shape]; simp [member])] at missed
        intro equal
        rw [if_pos equal] at missed
        cases missed
    · cases here
  · rintro ⟨rfl, earlier, later, shape, same, before⟩
    refine ⟨earlier, sa, later, shape, ?_, fun entry member => ?_⟩
    · rw [inner sa (by rw [shape]; simp), if_pos same]
    · rw [inner entry (by rw [shape]; simp [member]), if_neg (before entry member)]

/-- The search by the local TEID of a connection finds it. -/
theorem Registered.findPdnConnection_own (registered : Registered s)
    (member : sa ∈ (s.contexts pc).apns) :
    s.findPdnConnection pc (s.teidOf sa) true = some (sa, sa + 1) := by
  obtain ⟨earlier, later, shape⟩ := List.append_of_mem member
  refine registered.findPdnConnection_eq_some_iff.mpr ⟨rfl, earlier, later, shape, rfl, ?_⟩
  intro other before same
  have inside : other ∈ (s.contexts pc).apns := by
    rw [shape]
    exact List.mem_append_left _ before
  have nodup := registered.nodup pc
  rw [shape] at nodup
  have apart := (List.nodup_append.mp nodup).2.2 other before sa List.mem_cons_self
  exact apart (registered.apart pc pc other inside sa member same)

end State

namespace Gateway

open State (Rebearered)

variable {config : Config} {g next : Gateway} {pc sp : Nat} {events : List Service.Event}

theorem rebearered_generateTrxnId {trxnId : Nat}
    (generated : g.generateTrxnId = some (trxnId, next)) : Rebearered g.app next.app := by
  obtain ⟨⟨uid, uids⟩, _, same⟩ := Option.map_eq_some_iff.mp generated
  cases same
  exact ⟨⟨fun _ => rfl, rfl, fun _ => rfl, rfl, rfl, Nat.le_succ _⟩, fun _ => rfl⟩

/-- The procedure writes to its connection only. -/
theorem runModifyBearer_effect {request : ModifyBearerRequest} {sent : Bool}
    (ran : g.runModifyBearer pc sp request sent = some (next, events)) :
    Rebearered g.app next.app ∧
      ∀ other, other ≠ sp → next.app.pdnConnections other = g.app.pdnConnections other := by
  simp only [runModifyBearer, Option.bind_eq_bind, Option.bind_eq_some_iff,
    Option.pure_def] at ran
  obtain ⟨⟨trxnId, middle⟩, generated, m, modified, rest⟩ := ran
  have drawn := rebearered_generateTrxnId generated
  have same := (drawn_of_generateTrxnId generated).connections
  have written : Rebearered g.app (middle.setPdnConnection sp m.pdn).app ∧
      ∀ other, other ≠ sp →
        (middle.setPdnConnection sp m.pdn).app.pdnConnections other =
          g.app.pdnConnections other := by
    refine ⟨drawn.trans (State.rebearered_setPdnConnection ?_), fun other different => ?_⟩
    · exact Modification.onlyBearers modified
    · show Function.update middle.app.pdnConnections sp m.pdn other = _
      rw [Function.update_of_ne different, same]
  split at rest
  · split at rest
    · cases rest
      exact written
    · cases rest
      exact written
  · cases rest
    exact written

theorem rebearered_modify {request : ModifyBearerRequest} {sent : Bool}
    (handled : g.handleModifyBearerRequest request sent = some (next, events)) :
    Rebearered g.app next.app := by
  unfold handleModifyBearerRequest at handled
  split at handled
  · cases handled
    exact .refl _
  · split at handled
    · unfold modifyInContext at handled
      dsimp only at handled
      split at handled
      · exact (runModifyBearer_effect handled).1
      · split at handled
        · cases handled
          exact .refl _
        · cases handled
          exact .refl _
    · split at handled
      · cases handled
        exact .refl _
      · cases handled
        exact .refl _

theorem rebearered_release {request : ReleaseAccessBearersRequest} {sent : Bool}
    (handled : g.handleReleaseAccessBearersRequest request sent = some (next, events)) :
    Rebearered g.app next.app := by
  unfold handleReleaseAccessBearersRequest at handled
  split at handled
  · unfold releaseInContext at handled
    split at handled
    · cases handled
    · split at handled
      · cases handled
        exact .refl _
      · simp only [runReleaseAccessBearers, Option.bind_eq_bind, Option.bind_eq_some_iff,
          Option.pure_def] at handled
        obtain ⟨⟨trxnId, middle⟩, generated, rest⟩ := handled
        have written (sp : Nat) : Rebearered g.app (middle.setPdnConnection sp
            (releaseBearers (middle.app.pdnConnections sp))).app :=
          (rebearered_generateTrxnId generated).trans (State.rebearered_setPdnConnection
            (PdnConnection.onlyBearers_releaseBearers _))
        split at rest
        · cases rest
          exact written _
        · cases rest
          exact written _
  · cases handled
    exact .refl _

theorem rebearered_modificationResponse (response : SessionModificationResponse) :
    Rebearered g.app (g.handleSessionModificationResponse response).1.app := by
  unfold handleSessionModificationResponse
  split
  · exact .refl _
  · split
    · split
      · exact State.rebearered_setPdnConnection
          (PdnConnection.onlyBearers_completed _ _ _ _ response)
      · exact .refl _
      · exact .refl _
    · exact State.rebearered_removeProcedure _
    · exact .refl _

theorem rebearered_report {request : SessionReportRequest} {sent : Bool}
    (handled : g.handleSessionReportRequest request sent = some (next, events)) :
    Rebearered g.app next.app := by
  unfold handleSessionReportRequest at handled
  split at handled
  · unfold reportInContext at handled
    split at handled
    · cases handled
      exact .refl _
    · simp only [Option.bind_eq_bind, Option.bind_eq_some_iff, Option.pure_def] at handled
      obtain ⟨⟨trxnId, middle⟩, generated, rest⟩ := handled
      have drawn : Rebearered g.app middle.app := rebearered_generateTrxnId generated
      split at rest
      · cases rest
        exact drawn
      · cases rest
        exact drawn
  · cases handled
    exact .refl _

theorem rebearered_acknowledge (ack : DownlinkDataNotificationAcknowledge) :
    Rebearered g.app (g.handleDownlinkDataNotificationAcknowledge ack).1.app := by
  unfold handleDownlinkDataNotificationAcknowledge
  split
  · exact .refl _
  · split
    · split
      · exact .refl _
      · exact .refl _
    · exact State.rebearered_removeProcedure _
    · exact .refl _

/-- A step that is none of `App` writes bearers only. -/
theorem rebearered_of_step {action : Service.Action} (other : ∀ inner, action ≠ .session inner)
    (taken : Service.step config g action = some (next, events)) :
    Rebearered g.app next.app := by
  cases action with
  | session inner => exact absurd rfl (other inner)
  | modifyBearer request sent => exact rebearered_modify taken
  | releaseAccessBearers request sent => exact rebearered_release taken
  | sessionModificationResponse response =>
      have answered : Rebearered g.app (g.handleSessionModificationResponse response).1.app :=
        rebearered_modificationResponse response
      rw [Option.some.inj taken] at answered
      exact answered
  | sessionReport request sent => exact rebearered_report taken
  | downlinkDataNotificationAcknowledge ack =>
      have answered : Rebearered g.app (g.handleDownlinkDataNotificationAcknowledge ack).1.app :=
        rebearered_acknowledge ack
      rw [Option.some.inj taken] at answered
      exact answered
  | notifyUlError trxnId =>
      cases taken
      exact .refl _

/-- A transaction identifier belongs to one pending procedure. -/
theorem Lodged.procedure_eq (lodged : Lodged g) {other : Nat} {proc proc' : Procedure}
    (member : proc ∈ g.app.pending pc) (member' : proc' ∈ g.app.pending other)
    (same : proc.trxnId = proc'.trxnId) : proc = proc' := by
  have waits (home : Nat) (proc : Procedure) (member : proc ∈ g.app.pending home) :
      proc.wait ∈ g.waits home := mem_waits_iff.mpr (.inl ⟨proc, member, rfl⟩)
  have home := (lodged.wait_eq (waits _ _ member) (waits _ _ member') same).1
  rw [← home] at member'
  have distinct := lodged.distinct pc
  rw [Gateway.waits, List.map_append, List.map_map, List.map_map, List.nodup_append] at distinct
  exact List.inj_on_of_nodup_map distinct.1 member member' same

theorem step_cases {action : Service.Action}
    (taken : Service.step config g action = some (next, events)) :
    (∃ inner shown, action = .session inner ∧
        Pgw.step config g.app inner = some (next.app, shown)) ∨
      ((∀ inner, action ≠ .session inner) ∧ Rebearered g.app next.app) := by
  by_cases session : ∃ inner, action = .session inner
  · obtain ⟨inner, rfl⟩ := session
    obtain ⟨⟨app, shown⟩, ran, same⟩ := Option.map_eq_some_iff.mp taken
    cases same
    exact .inl ⟨inner, shown, rfl, ran⟩
  · have other : ∀ inner, action ≠ .session inner := fun inner same => session ⟨inner, same⟩
    exact .inr ⟨other, rebearered_of_step other taken⟩

/-! ## Reachable states -/

structure Directory (g : Gateway) : Prop where
  housed : Housed g
  registered : g.app.Registered
  owned : g.app.Owned

theorem directory_init (pdns : List PdnCfg) : Directory (init pdns) where
  housed := housed_init pdns
  registered := State.registered_init pdns
  owned _ nonzero := absurd rfl nonzero

/-- The context that would be built next has no APN context. -/
theorem Directory.blank (directory : Directory g) :
    (g.app.contexts g.app.nextAddress).apns = [] := by
  apply List.eq_nil_iff_forall_not_mem.mpr
  intro sa member
  have known := directory.registered.routed g.app.nextAddress sa member
  exact absurd (directory.housed.homes.teids _ _ known) (lt_irrefl _)

theorem Directory.step (directory : Directory g) {action : Service.Action}
    (taken : Service.step config g action = some (next, events)) : Directory next := by
  obtain ⟨steady, turn⟩ := turn_of_step directory.housed.toLodged taken
  have changed : State.RegistryStep g.app next.app := by
    cases step_cases taken with
    | inl session =>
        obtain ⟨inner, shown, -, ran⟩ := session
        exact State.registryStep_of_step directory.blank directory.registered ran
    | inr other => exact .same other.2.toSameRegistry
  exact ⟨directory.housed.turn steady turn, directory.registered.of_step changed,
    directory.owned.of_step changed⟩

theorem directory_of_run {pdns : List PdnCfg}
    {records : List (StepRecord Gateway Service.Action Service.Event)}
    (run : Run (Service.step config) (init pdns) records g) : Directory g :=
  (run.invariant Directory (directory_init pdns)
    fun _ _ _ _ directory taken => directory.step taken).1

end Gateway

end OpenairSpgwc.Pgw
