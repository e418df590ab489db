import OpenairSpgwc.Sgw.Effects

/-!
Contract: the pending procedures of the contexts, in every reachable state.

Owns:
- what one step does to the pending procedures of a context: it starts some,
  ends some, and feeds responses to some;
- `Sound`, what holds in every reachable state, whatever the TEID generators
  return: procedures are older than the next object, a context found by an S11
  TEID has that TEID, a pending Modify Bearer procedure was asked for something.
-/

namespace OpenairSpgwc.Sgw

open Foundation
open Std (ExtTreeMap)

/-- A Modify Bearer procedure was asked to modify or to remove a bearer. -/
def Procedure.Asked (proc : Procedure) : Prop :=
  ∀ request pdnBearers modified marked,
    proc.kind = .modifyBearer request pdnBearers modified marked →
      ¬(request.bearerContextsToBeModified = [] ∧ request.bearerContextsToBeRemoved = [])

namespace State

variable {s t : State} {ebc other c sp address gtpcTxId given : Nat} {events : List Event}
  {kind : ProcedureKind} {proc : Procedure}

/-- The pending procedures of a context. -/
def pending (s : State) (ebc : Nat) : List Procedure := (s.contexts ebc).pendingProcedures

/-! ### Writing procedures -/

theorem pending_setContext {context : EpsBearerContext} :
    (s.setContext ebc context).pending other =
      if other = ebc then context.pendingProcedures else s.pending other := by
  simp only [pending, setContext, Function.update_apply]
  split <;> rfl

theorem pending_insertProcedure :
    (s.insertProcedure ebc gtpcTxId given kind).pending other =
      if other = ebc then s.pending ebc ++ [⟨s.nextAddress, gtpcTxId, given, kind⟩]
      else s.pending other :=
  pending_setContext

theorem pending_removeProcedure :
    (s.removeProcedure ebc address).pending other =
      if other = ebc then (s.pending ebc).eraseP fun proc => proc.address == address
      else s.pending other :=
  pending_setContext

theorem pending_setProcedure :
    (s.setProcedure ebc address kind).pending other =
      if other = ebc then (s.pending ebc).map fun proc =>
        if proc.address = address then { proc with kind := kind } else proc
      else s.pending other :=
  pending_setContext

theorem pending_deletePdnConnection :
    (s.deletePdnConnection ebc sp).pending other = s.pending other := by
  simp only [pending, deletePdnConnection, Function.update_apply]
  split
  · next here => rw [here]
  · rfl

theorem pending_entered {request : CreateSessionRequest} :
    (s.entered ebc request).pending other = s.pending other := by
  unfold entered pending
  split
  · simp only [Function.update_apply]
    split
    · next here => rw [here]
    · rfl
  · simp only [setContext, Function.update_apply]
    split
    · next here => rw [here]
    · rfl

theorem pending_withNewPdnConnection {request : CreateSessionRequest} {defaultBearer : Nat} :
    (s.withNewPdnConnection c request defaultBearer).pending other = s.pending other := by
  simp only [pending, withNewPdnConnection, Function.update_apply]
  split
  · next here => rw [here]
  · rfl

theorem mem_pending_removeProcedure
    (member : proc ∈ (s.removeProcedure ebc address).pending other) : proc ∈ s.pending other := by
  rw [pending_removeProcedure] at member
  split at member
  · next here =>
      rw [here]
      exact List.mem_of_mem_eraseP member
  · exact member

theorem mem_pending_removeWithoutCause {cause : Option Nat}
    (member : proc ∈ (s.removeWithoutCause ebc address cause).pending other) :
    proc ∈ s.pending other := by
  unfold removeWithoutCause at member
  split at member
  · exact mem_pending_removeProcedure member
  · exact member

/-! ### What a step does to the procedures -/

/-- A procedure is there already, perhaps with other members, or it is new. -/
inductive Evolved (s : State) (next ebc : Nat) (proc : Procedure) : Prop where
  | kept (old : Procedure) (member : old ∈ s.pending ebc) (same : old.address = proc.address)
      (asked : (∀ proc ∈ s.pending ebc, proc.Asked) → proc.Asked)
  | started (new : s.nextAddress ≤ proc.address) (older : proc.address < next) (asked : proc.Asked)

theorem Evolved.refl {next : Nat} (member : proc ∈ s.pending ebc) : Evolved s next ebc proc :=
  .kept proc member rfl fun all => all proc member

theorem Evolved.mono {next later : Nat} (evolved : Evolved s next ebc proc) (le : next ≤ later) :
    Evolved s later ebc proc := by
  cases evolved with
  | kept old member same asked => exact .kept old member same asked
  | started new older asked => exact .started new (older.trans_le le) asked

theorem asked_of_ne (different : ∀ request pdnBearers modified marked,
    kind ≠ .modifyBearer request pdnBearers modified marked) :
    Procedure.Asked ⟨address, gtpcTxId, given, kind⟩ :=
  fun request pdnBearers modified marked same =>
    absurd same (different request pdnBearers modified marked)

/-- Inserting a procedure of the state `s`, or of a later one with the same procedures. -/
theorem evolved_insertProcedure {u : State} (later : s.nextAddress ≤ u.nextAddress)
    (before : ∀ proc ∈ u.pending other, Evolved s u.nextAddress other proc)
    (asked : Procedure.Asked ⟨u.nextAddress, gtpcTxId, given, kind⟩)
    (member : proc ∈ (u.insertProcedure ebc gtpcTxId given kind).pending other) :
    Evolved s (u.nextAddress + 1) other proc := by
  rw [pending_insertProcedure] at member
  split at member
  · next here =>
      rcases List.mem_append.mp member with old | new
      · rw [← here] at old
        exact (before proc old).mono (Nat.le_succ _)
      · rw [List.mem_singleton.mp new]
        exact .started later (Nat.lt_succ_self _) asked
  · exact (before proc member).mono (Nat.le_succ _)

theorem evolved_setProcedure
    (asked : (∀ proc ∈ s.pending ebc, proc.Asked) → ∀ old : Procedure,
      Procedure.Asked { old with kind := kind })
    (member : proc ∈ (s.setProcedure ebc address kind).pending other) :
    Evolved s s.nextAddress other proc := by
  rw [pending_setProcedure] at member
  split at member
  · next here =>
      obtain ⟨old, before, same⟩ := List.mem_map.mp member
      rw [here]
      split at same
      · rw [← same]
        exact .kept old before rfl fun all => asked all old
      · rw [← same]
        exact .refl before
  · exact .refl member

theorem evolved_startDeleteSessions {request : DeleteSessionRequest} {sps : List Nat} {u : State}
    (later : s.nextAddress ≤ u.nextAddress)
    (before : ∀ proc ∈ u.pending other, Evolved s u.nextAddress other proc)
    (member : proc ∈ (u.startDeleteSessions ebc request sps).1.pending other) :
    Evolved s (u.startDeleteSessions ebc request sps).1.nextAddress other proc := by
  induction sps generalizing u with
  | nil => exact before proc member
  | cons sp rest inductionHypothesis =>
      refine inductionHypothesis (u := u.insertProcedure ebc request.gtpcTxId ebc
        (.deleteSession request sp)) (later.trans (Nat.le_succ _)) ?_ member
      intro proc inserted
      exact evolved_insertProcedure later before
        (asked_of_ne fun _ _ _ _ => ProcedureKind.noConfusion) inserted

theorem evolved_deleteSessionInContext {request : DeleteSessionRequest}
    (member : proc ∈ (s.deleteSessionInContext ebc request).1.pending other) :
    Evolved s (s.deleteSessionInContext ebc request).1.nextAddress other proc := by
  unfold deleteSessionInContext at member ⊢
  split at member
  · next duplicate =>
      rw [if_pos duplicate]
      exact .refl member
  · next idle =>
      rw [if_neg idle]
      split at member
      · next deletes =>
          rw [if_pos deletes]
          exact evolved_startDeleteSessions le_rfl (fun _ old => .refl old) member
      · next keeps =>
          rw [if_neg keeps]
          exact .refl member

theorem evolved_createSessionInContext {request : CreateSessionRequest} {u : State}
    (later : s.nextAddress ≤ u.nextAddress)
    (before : ∀ proc ∈ u.pending other, Evolved s u.nextAddress other proc)
    (handled : u.createSessionInContext ebc request = some (t, events))
    (member : proc ∈ t.pending other) : Evolved s t.nextAddress other proc := by
  have entered : (u.entered ebc request).nextAddress = u.nextAddress := by
    unfold State.entered
    split <;> rfl
  have inserted : ∀ (c : Nat) (proc : Procedure),
      proc ∈ ((u.entered ebc request).insertProcedure ebc request.gtpcTxId c
        (.createSession request)).pending other → Evolved s (u.nextAddress + 1) other proc := by
    intro c proc member
    rw [← entered]
    apply evolved_insertProcedure (by rw [entered]; exact later) _
      (asked_of_ne fun _ _ _ _ => ProcedureKind.noConfusion) member
    intro proc old
    rw [pending_entered] at old
    rw [entered]
    exact before proc old
  obtain ⟨c, -, outcome⟩ := createSessionInContext_outcome handled
  cases outcome with
  | refused present =>
      refine (inserted c proc (mem_pending_removeProcedure member)).mono ?_
      rw [← entered]
      exact le_rfl
  | made defaultBearer absent first =>
      rw [pending_withNewPdnConnection] at member
      refine (inserted c proc member).mono ?_
      rw [← entered]
      exact Nat.le_succ _

theorem pending_sendModifyBearers {sender n : Nat} {uids : Nat → Nat}
    {pdnBearers : List PdnBearersToBeXied} :
    (s.sendModifyBearers sender uids n pdnBearers).1.pending other = s.pending other := by
  induction pdnBearers generalizing s n with
  | nil => rfl
  | cons px rest inductionHypothesis => exact inductionHypothesis

theorem nextAddress_sendModifyBearers {sender n : Nat} {uids : Nat → Nat}
    {pdnBearers : List PdnBearersToBeXied} :
    (s.sendModifyBearers sender uids n pdnBearers).1.nextAddress = s.nextAddress := by
  induction pdnBearers generalizing s n with
  | nil => rfl
  | cons px rest inductionHypothesis => exact inductionHypothesis

theorem evolved_modifyBearerInContext {request : ModifyBearerRequest} {uids : Nat → Nat}
    (handled : s.modifyBearerInContext ebc request uids = some (t, events))
    (member : proc ∈ t.pending other) : Evolved s t.nextAddress other proc := by
  unfold modifyBearerInContext at handled
  split at handled
  · cases handled
    exact .refl member
  · split at handled
    · cases handled
      exact .refl member
    · next asked =>
        split at handled
        · cases handled
        · next c _ =>
            simp only [Option.some.injEq, Prod.ext_iff] at handled
            rw [← handled.1] at member ⊢
            unfold runModifyBearer at member ⊢
            simp only at member ⊢
            split at member
            · exact .refl member
            · refine evolved_insertProcedure nextAddress_sendModifyBearers.ge ?_ ?_ member
              · intro proc old
                rw [pending_sendModifyBearers] at old
                exact .refl old
              · intro request' pdnBearers modified marked same
                cases same
                exact asked

theorem evolved_releaseAccessBearersInContext {request : ReleaseAccessBearersRequest}
    (handled : s.releaseAccessBearersInContext ebc request = some (t, events))
    (member : proc ∈ t.pending other) : Evolved s t.nextAddress other proc := by
  unfold releaseAccessBearersInContext at handled
  split at handled
  · cases handled
    exact .refl member
  · split at handled
    · cases handled
    · next c _ =>
        simp only [Option.some.injEq, Prod.ext_iff] at handled
        rw [← handled.1] at member ⊢
        unfold runReleaseAccessBearers at member ⊢
        split at member
        · exact .refl member
        · exact evolved_insertProcedure le_rfl (fun _ old => .refl old)
            (asked_of_ne fun _ _ _ _ => ProcedureKind.noConfusion) member

theorem mem_of_findProcedure (found : s.findProcedure ebc gtpcTxId = some proc) :
    proc ∈ s.pending ebc ∧ proc.hasTrxnId gtpcTxId = true := by
  unfold findProcedure at found
  have matched := List.find?_some found
  exact ⟨List.mem_of_find?_eq_some found, matched⟩

theorem evolved_modifyBearerResponse {s5resp : ModifyBearerResponse}
    (handled : s.modifyBearerResponseInContext ebc s5resp = some (t, events))
    (member : proc ∈ t.pending other) : Evolved s s.nextAddress other proc := by
  unfold modifyBearerResponseInContext at handled
  split at handled
  · cases handled
    exact .refl member
  · next reached found =>
      split at handled
      · next request pdnBearers modified marked isModify =>
          have asked : ∀ pdnBearers modified marked, (∀ proc ∈ s.pending ebc, proc.Asked) →
              ∀ old : Procedure, Procedure.Asked
                { old with kind := .modifyBearer request pdnBearers modified marked } := by
            intro _ _ _ all old request' _ _ _ same
            cases same
            exact all reached (mem_of_findProcedure found).1 request _ _ _ isModify
          simp only [Option.some.injEq, Prod.ext_iff] at handled
          rw [← handled.1] at member
          unfold modifyBearerAnswered at member
          split at member
          · exact .refl (mem_pending_removeWithoutCause member)
          · split at member
            · exact .refl (mem_pending_removeProcedure member)
            · exact evolved_setProcedure (asked _ _ _) (mem_pending_removeWithoutCause member)
      · cases handled

theorem evolved_releaseAccessBearersResponse {s5resp : CauseResponse}
    (handled : s.releaseAccessBearersResponseInContext ebc s5resp = some (t, events))
    (member : proc ∈ t.pending other) : Evolved s s.nextAddress other proc := by
  unfold releaseAccessBearersResponseInContext at handled
  split at handled
  · cases handled
    exact .refl member
  · split at handled
    · simp only [Option.some.injEq, Prod.ext_iff] at handled
      rw [← handled.1] at member
      unfold releaseAccessBearersAnswered at member
      split at member
      · refine evolved_setProcedure (fun _ old => ?_) member
        exact asked_of_ne fun _ _ _ _ => ProcedureKind.noConfusion
      · exact .refl member
    · cases handled

theorem evolved_downlinkDataNotification {ddn : DownlinkDataNotification}
    (member : proc ∈ (s.handleDownlinkDataNotification ddn).1.pending other) :
    Evolved s (s.handleDownlinkDataNotification ddn).1.nextAddress other proc := by
  unfold handleDownlinkDataNotification downlinkDataNotificationInContext at member ⊢
  split at member
  · exact .refl member
  · split at member
    · exact .refl member
    · next idle =>
        rw [if_neg idle]
        split at member
        · exact .refl member
        · split at member
          · next carried =>
              rw [if_pos carried]
              exact evolved_insertProcedure le_rfl (fun _ old => .refl old)
                (asked_of_ne fun _ _ _ _ => ProcedureKind.noConfusion) member
          · exact .refl member

/-- The context of a response may lose its procedures. -/
theorem mem_pending_cleanup {middle : State} {sent : List Event}
    (after : cleanup ebc (middle, sent) = (t, events)) (member : proc ∈ t.pending other) :
    proc ∈ middle.pending other ∧ t.nextAddress = middle.nextAddress := by
  unfold cleanup at after
  split at after
  · next none =>
      simp only [Prod.mk.injEq] at after
      rw [← after.1, deleteSgwEpsBearerContext_eq none] at member
      rw [← after.1, deleteSgwEpsBearerContext_eq none]
      refine ⟨?_, rfl⟩
      simp only [pending, Function.update_apply] at member
      split at member
      · cases member
      · exact member
  · cases after
    exact ⟨member, rfl⟩

/-- The responses that may delete a connection end a procedure at most. -/
theorem mem_pending_createSessionResponse {csresp : CreateSessionResponse}
    (handled : s.handleCreateSessionResponse csresp = some (t, events))
    (member : proc ∈ t.pending other) : proc ∈ s.pending other := by
  unfold handleCreateSessionResponse at handled
  split at handled
  · cases handled
    exact member
  · split at handled
    · cases handled
      exact member
    · next ebc sp _ =>
        obtain ⟨⟨middle, sent⟩, answered, after⟩ := Option.map_eq_some_iff.mp handled
        have member := (mem_pending_cleanup after member).1
        unfold createSessionResponseInContext at answered
        split at answered
        · cases answered
          exact member
        · split at answered
          · simp only [createSessionAnswered, Option.some.injEq, Prod.mk.injEq] at answered
            rw [← answered.1] at member
            have member := mem_pending_removeProcedure member
            split at member
            · rw [pending_deletePdnConnection] at member
              exact member
            · exact member
          · cases answered

theorem mem_pending_deleteSessionResponse {dsresp : CauseResponse}
    (handled : s.handleDeleteSessionResponse dsresp = some (t, events))
    (member : proc ∈ t.pending other) : proc ∈ s.pending other := by
  unfold handleDeleteSessionResponse at handled
  split at handled
  · cases handled
    exact member
  · next ebc sp _ =>
      obtain ⟨⟨middle, sent⟩, answered, after⟩ := Option.map_eq_some_iff.mp handled
      have member := (mem_pending_cleanup after member).1
      unfold deleteSessionResponseInContext at answered
      split at answered
      · cases answered
        exact member
      · split at answered
        · cases answered
          have member := mem_pending_removeProcedure member
          rw [pending_deletePdnConnection] at member
          exact member
        · cases answered

theorem mem_pending_remotePeerNotResponding {resp : RemotePeerNotResponding}
    (handled : s.handleRemotePeerNotResponding resp = (t, events))
    (member : proc ∈ t.pending other) : proc ∈ s.pending other := by
  unfold handleRemotePeerNotResponding at handled
  split at handled
  · cases handled
    exact member
  · split at handled
    · cases handled
      exact member
    · next ebc sp _ =>
        have member := (mem_pending_cleanup handled member).1
        split at member
        · exact member
        · split at member
          · have member := mem_pending_removeProcedure member
            simp only [createSessionUnanswered] at member
            split at member
            · rw [pending_deletePdnConnection] at member
              exact member
            · exact member
          · exact mem_pending_removeProcedure member

theorem evolved_step {action : Action} (taken : step s action = some (t, events))
    (member : proc ∈ t.pending other) : Evolved s t.nextAddress other proc := by
  cases action with
  | createSession request =>
      simp only [step, handleCreateSessionRequest] at taken
      split at taken
      · cases taken
        exact .refl member
      · cases taken
        exact .refl member
      · cases taken
      · next imsi _ =>
          refine evolved_createSessionInContext (u := s.addContext imsi) (Nat.le_succ _) ?_ taken
            member
          intro proc old
          have old : proc ∈ (s.setContext s.nextAddress {}).pending other := old
          rw [pending_setContext] at old
          split at old
          · cases old
          · exact .refl old
      · next ebc ebi _ =>
          split at taken
          · cases taken
          · next after more created =>
              cases taken
              have cleared : s.nextAddress ≤ (s.clearCollision ebc ebi).1.nextAddress ∧
                  ∀ proc ∈ (s.clearCollision ebc ebi).1.pending other,
                    Evolved s (s.clearCollision ebc ebi).1.nextAddress other proc := by
                unfold clearCollision
                split
                · exact ⟨le_rfl, fun _ old => .refl old⟩
                · split
                  · exact ⟨le_rfl, fun _ old => .refl old⟩
                  · refine ⟨sameTables_deleteSessionInContext.nextAddress, fun proc old => ?_⟩
                    rw [pending_deletePdnConnection] at old
                    exact evolved_deleteSessionInContext old
              exact evolved_createSessionInContext cleared.1 cleared.2 created member
  | modifyBearer request uids =>
      simp only [step, handleModifyBearerRequest] at taken
      split at taken
      · cases taken
        exact .refl member
      · exact evolved_modifyBearerInContext taken member
  | releaseAccessBearers request =>
      simp only [step, handleReleaseAccessBearersRequest] at taken
      split at taken
      · cases taken
        exact .refl member
      · exact evolved_releaseAccessBearersInContext taken member
  | deleteSession request =>
      simp only [step, Option.some.injEq, Prod.ext_iff] at taken
      rw [← taken.1] at member ⊢
      unfold handleDeleteSessionRequest at member ⊢
      split at member
      · exact .refl member
      · exact evolved_deleteSessionInContext member
  | downlinkDataNotificationAcknowledge ack =>
      simp only [step, Option.some.injEq, Prod.ext_iff] at taken
      rw [← taken.1, downlinkDataNotificationAcknowledge_fst] at member
      exact .refl member
  | createSessionResponse csresp =>
      exact .refl (mem_pending_createSessionResponse taken member)
  | deleteSessionResponse dsresp =>
      exact .refl (mem_pending_deleteSessionResponse taken member)
  | modifyBearerResponse s5resp =>
      have later := (sameTables_step rfl taken).nextAddress
      simp only [step, handleModifyBearerResponse] at taken
      split at taken
      · cases taken
        exact .refl member
      · exact (evolved_modifyBearerResponse taken member).mono later
  | releaseAccessBearersResponse s5resp =>
      have later := (sameTables_step rfl taken).nextAddress
      simp only [step, handleReleaseAccessBearersResponse] at taken
      split at taken
      · cases taken
        exact .refl member
      · exact (evolved_releaseAccessBearersResponse taken member).mono later
  | remotePeerNotResponding resp =>
      exact .refl (mem_pending_remotePeerNotResponding (Option.some.inj taken) member)
  | downlinkDataNotification ddn =>
      simp only [step, Option.some.injEq, Prod.ext_iff] at taken
      rw [← taken.1] at member ⊢
      exact evolved_downlinkDataNotification member

/-! ### Contexts of the tables -/

/-- The contexts that the tables lead to have been made, and have the S11 TEID
that leads to them. -/
structure Rooted (s : State) : Prop where
  imsis : ∀ imsi ebc : Nat, s.imsi2sgwEpsBearerContext[imsi]? = some ebc → ebc < s.nextAddress
  s11s : ∀ teid ebc : Nat, s.s11lteid2sgwEpsBearerContext[teid]? = some ebc →
    ebc < s.nextAddress ∧ (teid ≠ 0 → (s.contexts ebc).sgwFteidS11S4Cp.teidGreKey = teid)

theorem rooted_init : Rooted init where
  imsis imsi ebc known := by simp [init] at known
  s11s teid ebc known := by simp [init] at known

theorem Rooted.keep (rooted : Rooted s)
    (imsiMap : t.imsi2sgwEpsBearerContext = s.imsi2sgwEpsBearerContext)
    (s11Map : t.s11lteid2sgwEpsBearerContext = s.s11lteid2sgwEpsBearerContext)
    (s11Teid : ∀ ebc, (t.contexts ebc).sgwFteidS11S4Cp = (s.contexts ebc).sgwFteidS11S4Cp)
    (later : s.nextAddress ≤ t.nextAddress) : Rooted t where
  imsis imsi ebc known := by
    rw [imsiMap] at known
    exact (rooted.imsis imsi ebc known).trans_le later
  s11s teid ebc known := by
    rw [s11Map] at known
    obtain ⟨older, own⟩ := rooted.s11s teid ebc known
    rw [s11Teid]
    exact ⟨older.trans_le later, own⟩

theorem Rooted.same (rooted : Rooted s) (same : SameTables s t) : Rooted t :=
  rooted.keep same.imsiMap same.s11Map same.s11Teid same.nextAddress

theorem Rooted.deletePdnConnection (rooted : Rooted s) : Rooted (s.deletePdnConnection ebc sp) := by
  refine rooted.keep rfl rfl (fun other => ?_) le_rfl
  simp only [State.deletePdnConnection, Function.update_apply]
  split
  · next here => rw [here]
  · rfl

theorem Rooted.added {request : CreateSessionRequest} (rooted : Rooted s)
    (added : Added s c request t) : Rooted t := by
  refine rooted.keep added.imsiMap added.s11Map (fun other => ?_) ?_
  · rw [added.contexts, Function.update_apply]
    split
    · next here => rw [here]
    · rfl
  · rw [added.nextAddress]
    exact Nat.le_succ _

theorem Rooted.deleteContext (rooted : Rooted s)
    (none : (s.contexts ebc).pdnConnections.size = 0) :
    Rooted (s.deleteSgwEpsBearerContext ebc) := by
  have s11Teid : ∀ other, ((s.deleteSgwEpsBearerContext ebc).contexts other).sgwFteidS11S4Cp =
      (s.contexts other).sgwFteidS11S4Cp := by
    intro other
    rw [deleteSgwEpsBearerContext_eq none]
    simp only [Function.update_apply]
    split
    · next here => rw [here]
    · rfl
  constructor
  · intro imsi other known
    rw [deleteSgwEpsBearerContext_eq none] at known ⊢
    exact rooted.imsis imsi other (getElem?_of_erase known)
  · intro teid other known
    rw [s11Teid]
    rw [deleteSgwEpsBearerContext_eq none] at known ⊢
    exact rooted.s11s teid other (getElem?_of_erase known)

theorem Rooted.addContext (rooted : Rooted s) (imsi : Nat) : Rooted (s.addContext imsi) where
  imsis imsi' ebc known := by
    show ebc < s.nextAddress + 1
    rcases getElem?_insert_eq_some.mp known with ⟨-, here⟩ | ⟨-, before⟩
    · omega
    · exact (rooted.imsis imsi' ebc before).trans (Nat.lt_succ_self _)
  s11s teid ebc known := by
    obtain ⟨older, own⟩ := rooted.s11s teid ebc known
    refine ⟨older.trans (Nat.lt_succ_self _), fun positive => ?_⟩
    show (Function.update s.contexts s.nextAddress {} ebc).sgwFteidS11S4Cp.teidGreKey = teid
    rw [Function.update_of_ne older.ne]
    exact own positive

theorem Rooted.entered (rooted : Rooted s) (made : ebc < s.nextAddress)
    (request : CreateSessionRequest) : Rooted (s.entered ebc request) := by
  unfold State.entered
  split
  · next unassigned =>
      constructor
      · intro imsi other known
        exact rooted.imsis imsi other known
      · intro teid other known
        show other < s.nextAddress ∧ (teid ≠ 0 →
          (Function.update s.contexts ebc _ other).sgwFteidS11S4Cp.teidGreKey = teid)
        rcases getElem?_insert_eq_some.mp known with ⟨rfl, rfl⟩ | ⟨-, before⟩
        · rw [Function.update_self]
          exact ⟨made, fun _ => rfl⟩
        · obtain ⟨older, own⟩ := rooted.s11s teid other before
          refine ⟨older, fun positive => ?_⟩
          -- The context had no TEID, so it is not the one this entry leads to.
          have different : other ≠ ebc := by
            intro here
            rw [here, unassigned] at own
            exact positive (own positive).symm
          rw [Function.update_of_ne different]
          exact own positive
  · exact rooted.same (sameTables_setContext _ _ le_rfl)

theorem route_made {request : CreateSessionRequest} {ebi : Option Nat} (rooted : Rooted s)
    (routed : s.route request = .context ebc ebi) : ebc < s.nextAddress := by
  rcases route_context routed with ⟨imsi, known⟩ | ⟨teid, known⟩
  · exact rooted.imsis imsi ebc known
  · exact (rooted.s11s teid ebc known).1

theorem rooted_create {request : CreateSessionRequest} (rooted : Rooted s)
    (handled : s.handleCreateSessionRequest request = some (t, events)) : Rooted t := by
  rcases create_cases handled with same | ⟨base, ebc, more, reached, created⟩
  · rw [same]
    exact rooted
  · have handed : Rooted base ∧ ebc < base.nextAddress := by
      unfold handed at reached
      split at reached
      · cases reached
        exact ⟨rooted.addContext _, Nat.lt_succ_self _⟩
      · next ebc ebi routed =>
          cases reached
          have made := route_made rooted routed
          rcases clearCollision_cases with same | ⟨asked, sp, key, same, -, deleted⟩
          · rw [same]
            exact ⟨rooted, made⟩
          · rw [deleted]
            exact ⟨(rooted.same same).deletePdnConnection, made.trans_le same.nextAddress⟩
      · cases reached
      · cases reached
      · cases reached
    obtain ⟨c, -, outcome⟩ := createSessionInContext_cases created
    have entered := handed.1.entered handed.2 request
    rcases outcome with ⟨same, -⟩ | ⟨middle, same, -, added⟩
    · exact entered.same same
    · exact (entered.same same).added added

theorem rooted_cleaned (rooted : Rooted s) (cleaned : Cleaned s t events ebc sp) : Rooted t := by
  obtain ⟨-, middle, sent, trims, -, after⟩ := cleaned
  have trimmed : Rooted middle := by
    rcases trims with same | ⟨before, same, deleted⟩
    · exact rooted.same same
    · exact ((rooted.same same).deletePdnConnection).same deleted
  unfold cleanup at after
  split at after
  · next none =>
      simp only [Prod.mk.injEq] at after
      rw [← after.1]
      exact trimmed.deleteContext none
  · cases after
    exact trimmed

theorem rooted_step {action : Action} (rooted : Rooted s)
    (taken : step s action = some (t, events)) : Rooted t := by
  have cleaned : (t = s ∧ events = []) ∨ (∃ ebc sp, Cleaned s t events ebc sp) → Rooted t := by
    rintro (⟨rfl, -⟩ | ⟨ebc, sp, cleaned⟩)
    · exact rooted
    · exact rooted_cleaned rooted cleaned
  cases action with
  | createSession request => exact rooted_create rooted taken
  | createSessionResponse csresp => exact cleaned (cleaned_createSessionResponse taken)
  | deleteSessionResponse dsresp => exact cleaned (cleaned_deleteSessionResponse taken)
  | remotePeerNotResponding resp =>
      exact cleaned (cleaned_remotePeerNotResponding (Option.some.inj taken))
  | modifyBearer request uids => exact rooted.same (sameTables_step rfl taken)
  | releaseAccessBearers request => exact rooted.same (sameTables_step rfl taken)
  | deleteSession request => exact rooted.same (sameTables_step rfl taken)
  | downlinkDataNotificationAcknowledge ack => exact rooted.same (sameTables_step rfl taken)
  | modifyBearerResponse s5resp => exact rooted.same (sameTables_step rfl taken)
  | releaseAccessBearersResponse s5resp => exact rooted.same (sameTables_step rfl taken)
  | downlinkDataNotification ddn => exact rooted.same (sameTables_step rfl taken)

/-! ### Reachable states -/

/-- What holds in every reachable state. -/
structure Sound (s : State) : Prop where
  rooted : Rooted s
  older : ∀ ebc, ∀ proc ∈ s.pending ebc, proc.address < s.nextAddress
  asked : ∀ ebc, ∀ proc ∈ s.pending ebc, proc.Asked

theorem sound_init : Sound init where
  rooted := rooted_init
  older ebc proc member := by cases member
  asked ebc proc member := by cases member

theorem nextAddress_create {request : CreateSessionRequest}
    (handled : s.handleCreateSessionRequest request = some (t, events)) :
    s.nextAddress ≤ t.nextAddress := by
  rcases create_cases handled with same | ⟨base, ebc, more, reached, created⟩
  · rw [same]
  · have handed : s.nextAddress ≤ base.nextAddress := by
      unfold handed at reached
      split at reached
      · cases reached
        exact Nat.le_succ _
      · cases reached
        rcases clearCollision_cases with same | ⟨asked, sp, key, same, -, deleted⟩
        · rw [same]
        · rw [deleted]
          exact same.nextAddress
      · cases reached
      · cases reached
      · cases reached
    have handed : s.nextAddress ≤ (base.entered ebc request).nextAddress := by
      rw [nextAddress_entered]
      exact handed
    obtain ⟨c, -, ⟨same, -⟩ | ⟨middle, same, -, added⟩⟩ := createSessionInContext_cases created
    · exact handed.trans same.nextAddress
    · rw [added.nextAddress]
      exact handed.trans (same.nextAddress.trans (Nat.le_succ _))

theorem nextAddress_cleaned (cleaned : Cleaned s t events ebc sp) :
    s.nextAddress ≤ t.nextAddress := by
  obtain ⟨-, middle, sent, trims, -, after⟩ := cleaned
  have trimmed : s.nextAddress ≤ middle.nextAddress := by
    rcases trims with same | ⟨before, same, deleted⟩
    · exact same.nextAddress
    · exact same.nextAddress.trans deleted.nextAddress
  unfold cleanup at after
  split at after
  · next none =>
      simp only [Prod.mk.injEq] at after
      rw [← after.1, deleteSgwEpsBearerContext_eq none]
      exact trimmed
  · cases after
    exact trimmed

theorem nextAddress_step {action : Action} (taken : step s action = some (t, events)) :
    s.nextAddress ≤ t.nextAddress := by
  have cleaned : (t = s ∧ events = []) ∨ (∃ ebc sp, Cleaned s t events ebc sp) →
      s.nextAddress ≤ t.nextAddress := by
    rintro (⟨rfl, -⟩ | ⟨ebc, sp, cleaned⟩)
    · exact le_rfl
    · exact nextAddress_cleaned cleaned
  cases action with
  | createSession request => exact nextAddress_create taken
  | createSessionResponse csresp => exact cleaned (cleaned_createSessionResponse taken)
  | deleteSessionResponse dsresp => exact cleaned (cleaned_deleteSessionResponse taken)
  | remotePeerNotResponding resp =>
      exact cleaned (cleaned_remotePeerNotResponding (Option.some.inj taken))
  | modifyBearer request uids => exact (sameTables_step rfl taken).nextAddress
  | releaseAccessBearers request => exact (sameTables_step rfl taken).nextAddress
  | deleteSession request => exact (sameTables_step rfl taken).nextAddress
  | downlinkDataNotificationAcknowledge ack => exact (sameTables_step rfl taken).nextAddress
  | modifyBearerResponse s5resp => exact (sameTables_step rfl taken).nextAddress
  | releaseAccessBearersResponse s5resp => exact (sameTables_step rfl taken).nextAddress
  | downlinkDataNotification ddn => exact (sameTables_step rfl taken).nextAddress

theorem Sound.step {action : Action} (sound : Sound s)
    (taken : Sgw.step s action = some (t, events)) : Sound t where
  rooted := rooted_step sound.rooted taken
  older ebc proc member := by
    cases evolved_step taken member with
    | kept old before same _ =>
        rw [← same]
        exact (sound.older ebc old before).trans_le (nextAddress_step taken)
    | started _ older _ => exact older
  asked ebc proc member := by
    cases evolved_step taken member with
    | kept old before same asked => exact asked (sound.asked ebc)
    | started _ _ asked => exact asked

theorem sound_of_run {records : List (StepRecord State Action Event)} {finish : State}
    (run : Run step init records finish) : Sound finish :=
  (run.invariant Sound sound_init fun _ _ _ _ sound taken => sound.step taken).1

/-- The context that an S11 request is for runs its procedures in itself. -/
theorem Sound.runContext {teid : Nat} (sound : Sound s) (known : s.s11Context teid = some ebc) :
    s.runContext ebc = some ebc := by
  unfold s11Context at known
  split at known
  · cases known
  · next positive =>
      unfold State.runContext
      rw [(sound.rooted.s11s teid ebc known).2 positive]
      exact known

/-! ### A scenario -/

/-- A UE asks for a connection, and the PGW accepts. -/
def attachActions (gtpcTxId teid imsi ebi : Nat) (apn : String) (lTeid : Nat) : List Action :=
  [.createSession
    { gtpcTxId := gtpcTxId, teid := teid, imsi := some imsi, apn := apn, pdnType := 1
      senderFteidForCp := { v4 := true, interfaceType := s11MmeGtpC, teidGreKey := 1 }
      bearerContextsToBeCreated := [ebi] },
   .createSessionResponse
    { gtpcTxId := gtpcTxId, teid := lTeid, cause := some requestAccepted
      fteidForCp := some { v4 := true, interfaceType := s5s8PgwGtpC, teidGreKey := 100 + lTeid }
      bearerContextsCreated := [{ epsBearerId := ebi, cause := some requestAccepted }] }]

end State

end OpenairSpgwc.Sgw
