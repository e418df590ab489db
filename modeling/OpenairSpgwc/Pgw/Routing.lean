import OpenairSpgwc.Pgw.Sessions

/-!
Contract: the map from an IMSI to a context of the PGW, and both routing maps
along whole runs.

Owns:
- `ImsiRouted`: an IMSI leads to a context exactly while that context has an APN
  context or a pending procedure;
- `RetiresCleanly`, the condition on a step under which that is kept, and that
  it and `KeepsSession` are exact along every run.
-/

namespace OpenairSpgwc.Pgw

open Foundation
open OpenairSpgwc.Common
open Std (ExtTreeMap)

namespace State

/-- The context has an APN context or a pending procedure. -/
def Alive (s : State) (pc : Nat) : Prop :=
  (s.contexts pc).apns ≠ [] ∨ (s.contexts pc).pendingProcedures ≠ []

def ImsiRouted (s : State) : Prop :=
  ∀ imsi pc : Nat, s.imsi2pgwContext[imsi]? = some pc ↔
    (s.contexts pc).imsi = imsi ∧ s.Alive pc

/-- A deletion response for a context that is gone does not find its IMSI in use
again, and one that takes the last APN context leaves no procedure pending. -/
def RetiresCleanly (s : State) : Action → Prop
  | .sessionDeletionResponse answer =>
      ∀ pc, s.seid2pgwContext[answer.seid]? = some pc →
        ((s.contexts pc).apns = [] → s.imsi2pgwContext[(s.contexts pc).imsi]? = none) ∧
          ∀ sa sp, s.detaches answer = some (sa, sp) → (s.contexts pc).apns = [sa] →
            (s.contexts pc).pendingProcedures.length = 1
  | .createSession _ _ _ => True
  | .sessionEstablishmentResponse _ => True
  | .deleteSession _ _ => True

instance (s : State) (action : Action) : Decidable (s.RetiresCleanly action) :=
  match action with
  | .sessionDeletionResponse answer =>
      decidable_of_iff (∀ pc ∈ s.seid2pgwContext[answer.seid]?,
        ((s.contexts pc).apns = [] → s.imsi2pgwContext[(s.contexts pc).imsi]? = none) ∧
          ∀ pair ∈ s.detaches answer, (s.contexts pc).apns = [pair.1] →
            (s.contexts pc).pendingProcedures.length = 1)
        ⟨fun clean pc known => ⟨(clean pc known).1, fun sa sp => (clean pc known).2 (sa, sp)⟩,
          fun clean pc known => ⟨(clean pc known).1, fun pair => (clean pc known).2 pair.1 pair.2⟩⟩
  | .createSession _ _ _ | .sessionEstablishmentResponse _ | .deleteSession _ _ =>
      inferInstanceAs (Decidable True)

variable {config : Config} {s t before after : State} {request : CreateSessionRequest}
  {upNode : UpNode} {events : List Event} {pc sa sp endValue : Nat}

/-! ## The IMSI map -/

/-- As long as contexts are retired cleanly, a context that is alive has an APN
context, and the IMSI map leads to exactly these contexts. -/
structure Anchored (s : State) : Prop where
  imsis : ∀ imsi pc : Nat, s.imsi2pgwContext[imsi]? = some pc ↔
    (s.contexts pc).imsi = imsi ∧ (s.contexts pc).apns ≠ []
  busy : ∀ pc, (s.contexts pc).pendingProcedures ≠ [] → (s.contexts pc).apns ≠ []

theorem anchored_init (pdns : List PdnCfg) : Anchored (init pdns) where
  imsis imsi pc := by simp [init]
  busy pc pending := by simp [init] at pending

theorem Anchored.imsiRouted (anchored : Anchored s) : s.ImsiRouted := by
  intro imsi pc
  rw [anchored.imsis]
  apply and_congr_right
  intro _
  exact ⟨.inl, fun alive => alive.elim id (anchored.busy pc)⟩

theorem Anchored.quiet (anchored : Anchored s) (quiet : Quiet s t) : Anchored t where
  imsis imsi pc := by
    rw [quiet.imsiMap, quiet.imsis, quiet.apns]
    exact anchored.imsis imsi pc
  busy pc pending := by
    rw [quiet.apns]
    obtain ⟨proc, member⟩ := List.exists_mem_of_ne_nil _ pending
    rcases quiet.pending pc proc member with old | ⟨attached, -⟩
    · exact anchored.busy pc (List.ne_nil_of_mem old)
    · exact attached

/-- A request changes the contexts only at the one it is handed to. -/
theorem create_contexts (tracked : Tracked config s)
    (routed : s.route config request = .context pc before)
    (attached : (before.entered pc request).attach pc request = some (after, sa, sp))
    (ran : after.assignPaa config pc sa sp request upNode endValue = some (t, events)) :
    (∀ other, other ≠ pc → t.contexts other = s.contexts other) ∧
      (t.contexts pc).imsi = request.imsi.getD (before.contexts pc).imsi ∧
      (t.contexts pc).apns ≠ [] ∧ t.imsi2pgwContext = before.imsi2pgwContext := by
  obtain ⟨arrived, allocated⟩ := tracked.grounded.routed routed
  have enteredTracked := tracked.same (sameSessions_entered tracked.grounded routed)
    (arrived.entered allocated)
  obtain ⟨-, member, -⟩ := enteredTracked.attach allocated attached
  have beforeOthers : ∀ other, other ≠ pc → before.contexts other = s.contexts other := by
    intro other different
    rcases route_context routed with ⟨rfl, -⟩ | ⟨imsi, -, -, rfl, rfl⟩
    · rfl
    · exact Function.update_of_ne different _ _
  have hung : (∀ other, other ≠ pc → after.contexts other = before.contexts other) ∧
      (after.contexts pc).imsi = request.imsi.getD (before.contexts pc).imsi ∧
      after.imsi2pgwContext = before.imsi2pgwContext := by
    have enteredImsi : ((before.entered pc request).contexts pc).imsi =
        request.imsi.getD (before.contexts pc).imsi := by
      simp only [entered, setContext, Function.update_self]
    have enteredOthers : ∀ other, other ≠ pc →
        (before.entered pc request).contexts other = before.contexts other :=
      fun other different => Function.update_of_ne different _ _
    rcases attach_cases attached with ⟨-, rfl⟩ | ⟨-, -, -, teid, new⟩
    · exact ⟨enteredOthers, enteredImsi, rfl⟩
    · refine ⟨fun other different => ?_, ?_, new.imsiMap⟩
      · rw [new.contexts, Function.update_of_ne different]
        exact enteredOthers other different
      · rw [new.contexts, Function.update_self]
        exact enteredImsi
  have established := established_of_assignPaa ran
  obtain ⟨pending, contexts, -⟩ := established.contexts
  refine ⟨fun other different => ?_, ?_, ?_, established.imsiMap.trans hung.2.2⟩
  · rw [contexts, Function.update_of_ne different, hung.1 other different,
      beforeOthers other different]
  · rw [contexts, Function.update_self]
    exact hung.2.1
  · rw [contexts, Function.update_self]
    exact List.ne_nil_of_mem member

theorem Anchored.create (anchored : Anchored s) (tracked : Tracked config s)
    (handled : s.handleCreateSessionRequest config request upNode endValue = some (t, events)) :
    Anchored t ∧ ∀ imsi pc : Nat, s.imsi2pgwContext[imsi]? = some pc →
      t.imsi2pgwContext[imsi]? = some pc := by
  rcases create_cases handled with ⟨-, rfl, -⟩ |
      ⟨pc, sa, sp, before, after, routed, attached, ran⟩
  · exact ⟨anchored, fun _ _ known => known⟩
  · obtain ⟨others, imsi, hung, map⟩ := create_contexts tracked routed attached ran
    have busy : ∀ other, (t.contexts other).pendingProcedures ≠ [] →
        (t.contexts other).apns ≠ [] := by
      intro other pending
      by_cases here : other = pc
      · rw [here]
        exact hung
      · rw [others other here] at pending ⊢
        exact anchored.busy other pending
    rcases route_context routed with ⟨rfl, reached⟩ | ⟨new, given, unused, rfl, rfl⟩
    · -- The context was alive and had this IMSI before.
      have was : (before.contexts pc).apns ≠ [] ∧ (t.contexts pc).imsi =
          (before.contexts pc).imsi := by
        rcases reached with ⟨known, given, mapped⟩ | ⟨absent, mapped⟩
        · obtain ⟨own, nonempty⟩ := (anchored.imsis known pc).mp mapped
          rw [imsi, given, Option.getD_some, own]
          exact ⟨nonempty, rfl⟩
        · obtain ⟨sa', member, -⟩ := tracked.registered.owned _ pc mapped
          rw [imsi, absent, Option.getD_none]
          exact ⟨List.ne_nil_of_mem member, rfl⟩
      refine ⟨⟨fun key other => ?_, busy⟩, fun key other known => by rw [map]; exact known⟩
      rw [map, anchored.imsis]
      by_cases here : other = pc
      · rw [here, was.2]
        exact and_congr_right fun _ => ⟨fun _ => hung, fun _ => was.1⟩
      · rw [others other here]
    · rw [given, Option.getD_some] at imsi
      have inserted : t.imsi2pgwContext = s.imsi2pgwContext.insert new s.nextAddress := map
      have kept : ∀ key other : Nat, s.imsi2pgwContext[key]? = some other →
          t.imsi2pgwContext[key]? = some other := by
        intro key other known
        rw [inserted, ExtTreeMap.getElem?_insert, if_neg]
        · exact known
        · intro same
          rw [← compare_eq_iff_eq.mp same, unused] at known
          cases known
      refine ⟨⟨fun key other => ?_, busy⟩, kept⟩
      by_cases here : other = s.nextAddress
      · rw [here, imsi, inserted, ExtTreeMap.getElem?_insert]
        constructor
        · intro known
          split at known
          · next same => exact ⟨compare_eq_iff_eq.mp same, hung⟩
          · have beyond := tracked.grounded.imsis key s.nextAddress known
            omega
        · rintro ⟨same, -⟩
          rw [if_pos (compare_eq_iff_eq.mpr same)]
      · rw [others other here, ← anchored.imsis]
        constructor
        · intro known
          rw [inserted, ExtTreeMap.getElem?_insert] at known
          split at known
          · cases known
            exact absurd rfl here
          · exact known
        · exact kept key other

/-! ### Deletion response -/

theorem deleteIfEmpty_of_ne_nil (attached : (s.contexts pc).apns ≠ []) :
    s.deleteIfEmpty pc = s := by
  rw [deleteIfEmpty, if_neg]
  exact fun empty => attached (List.length_eq_zero_iff.mp empty)

theorem deleteIfEmpty_of_nil (empty : (s.contexts pc).apns = []) :
    s.deleteIfEmpty pc = s.deletePgwContext pc := by
  rw [deleteIfEmpty, if_pos]
  exact List.length_eq_zero_iff.mpr empty

theorem getElem?_deletePgwContext (imsi : Nat) :
    (s.deletePgwContext pc).imsi2pgwContext[imsi]? =
      if (s.contexts pc).imsi = imsi then none else s.imsi2pgwContext[imsi]? := by
  rw [deletePgwContext, ExtTreeMap.getElem?_erase]
  simp only [compare_eq_iff_eq]

/-- A response that answers no procedure. -/
theorem Anchored.unknown (anchored : Anchored s) :
    (((s.contexts pc).apns = [] → s.imsi2pgwContext[(s.contexts pc).imsi]? = none) →
        Anchored (s.deleteIfEmpty pc)) ∧
      ((s.deleteIfEmpty pc).ImsiRouted →
        (s.contexts pc).apns = [] → s.imsi2pgwContext[(s.contexts pc).imsi]? = none) := by
  by_cases empty : (s.contexts pc).apns = []
  · rw [deleteIfEmpty_of_nil empty]
    constructor
    · intro unused
      refine ⟨fun imsi other => ?_, anchored.busy⟩
      rw [getElem?_deletePgwContext]
      split
      · next same =>
          rw [same] at unused
          rw [← unused empty]
          exact anchored.imsis imsi other
      · exact anchored.imsis imsi other
    · intro routed _
      cases known : s.imsi2pgwContext[(s.contexts pc).imsi]? with
      | none => rfl
      | some other =>
          -- The context in use is alive, and its IMSI is forgotten.
          exfalso
          obtain ⟨own, attached⟩ := (anchored.imsis _ other).mp known
          have still := (routed (s.contexts pc).imsi other).mpr ⟨own, .inl attached⟩
          rw [getElem?_deletePgwContext, if_pos rfl] at still
          cases still
  · rw [deleteIfEmpty_of_ne_nil empty]
    exact ⟨fun _ => anchored, fun _ none => absurd none empty⟩

/-- A connection is removed and the context keeps another one. -/
theorem Anchored.removed_more (anchored : Anchored s)
    (member : sa ∈ (s.contexts pc).apns) (removed : Removed s pc sa t)
    (more : (t.contexts pc).apns ≠ []) : Anchored t := by
  have same : ∀ other, (t.contexts other).imsi = (s.contexts other).imsi ∧
      ((t.contexts other).apns ≠ [] ↔ (s.contexts other).apns ≠ []) := by
    intro other
    by_cases here : other = pc
    · rw [here]
      refine ⟨?_, ⟨fun _ => List.ne_nil_of_mem member, fun _ => more⟩⟩
      rw [removed.contexts, Function.update_self]
    · rw [removed.contexts, Function.update_of_ne here]
      exact ⟨rfl, Iff.rfl⟩
  constructor
  · intro imsi other
    rw [removed.imsiMap, (same other).1, (same other).2]
    exact anchored.imsis imsi other
  · intro other pending
    rw [removed.pending] at pending
    exact (same other).2.mpr (anchored.busy other pending)

/-- The last connection is removed, with the procedure that was answered. -/
theorem Anchored.removed_last (anchored : Anchored s) (removed : Removed s pc sa t)
    (last : (s.contexts pc).apns = [sa]) {proc : Procedure}
    (pending : proc ∈ (s.contexts pc).pendingProcedures) :
    ((s.contexts pc).pendingProcedures.length = 1 →
        Anchored ((t.removeProcedure pc proc.address).deletePgwContext pc)) ∧
      (((t.removeProcedure pc proc.address).deletePgwContext pc).ImsiRouted →
        (s.contexts pc).pendingProcedures.length = 1) := by
  have here : ((t.removeProcedure pc proc.address).deletePgwContext pc).contexts pc =
      { imsi := (s.contexts pc).imsi, apns := [],
        pendingProcedures := (s.contexts pc).pendingProcedures.eraseP fun entry =>
          entry.address == proc.address } := by
    simp only [deletePgwContext, removeProcedure, setContext, removed.contexts,
      Function.update_self, last, List.erase_cons_head]
  have others : ∀ other, other ≠ pc →
      ((t.removeProcedure pc proc.address).deletePgwContext pc).contexts other =
        s.contexts other := by
    intro other different
    simp only [deletePgwContext, removeProcedure, setContext, removed.contexts,
      Function.update_of_ne different]
  have map : ∀ imsi : Nat,
      ((t.removeProcedure pc proc.address).deletePgwContext pc).imsi2pgwContext[imsi]? =
        if (s.contexts pc).imsi = imsi then none else s.imsi2pgwContext[imsi]? := by
    intro imsi
    have own : ((t.removeProcedure pc proc.address).contexts pc).imsi = (s.contexts pc).imsi := by
      rw [quiet_removeProcedure.imsis, removed.contexts, Function.update_self]
    rw [getElem?_deletePgwContext, own, quiet_removeProcedure.imsiMap, removed.imsiMap]
  have shorter := List.length_eraseP_of_mem pending
    (p := fun entry => entry.address == proc.address) (beq_self_eq_true proc.address)
  have some := List.length_pos_of_mem pending
  constructor
  · intro one
    constructor
    · intro imsi other
      rw [map]
      by_cases same : other = pc
      · rw [same, here]
        split
        · simp
        · next different => simp [anchored.imsis, different]
      · rw [others other same, ← anchored.imsis]
        split
        · next own =>
            -- The IMSI was that of the context that goes.
            have was := (anchored.imsis imsi pc).mpr ⟨own, by rw [last]; simp⟩
            rw [was]
            constructor
            · intro none
              cases none
            · intro equal
              exact absurd (Option.some.inj equal).symm same
        · rfl
    · intro other busy
      by_cases same : other = pc
      · exfalso
        rw [same, here] at busy
        apply busy
        rw [← List.length_eq_zero_iff, shorter, one]
      · rw [others other same] at busy ⊢
        exact anchored.busy other busy
  · intro routed
    by_contra more
    have alive : ((t.removeProcedure pc proc.address).deletePgwContext pc).Alive pc := by
      right
      rw [here]
      intro none
      rw [← List.length_eq_zero_iff, shorter] at none
      omega
    have known := (routed (s.contexts pc).imsi pc).mpr ⟨by rw [here], alive⟩
    rw [map, if_pos rfl] at known
    cases known

theorem Anchored.answered (anchored : Anchored s) {answer : SessionDeletionResponse}
    (known : s.seid2pgwContext[answer.seid]? = some pc) (answered : Answered s answer pc t) :
    (s.RetiresCleanly (.sessionDeletionResponse answer) → Anchored (t.deleteIfEmpty pc)) ∧
      ((t.deleteIfEmpty pc).ImsiRouted → s.RetiresCleanly (.sessionDeletionResponse answer)) := by
  cases answered with
  | unknown missing nothing =>
      refine ⟨fun clean => anchored.unknown.1 (clean pc known).1, fun routed other known' => ?_⟩
      rw [known] at known'
      cases known'
      refine ⟨anchored.unknown.2 routed, fun sa sp hit => ?_⟩
      rw [nothing] at hit
      cases hit
  | kept proc found nothing =>
      have attached : (s.contexts pc).apns ≠ [] :=
        anchored.busy pc (List.ne_nil_of_mem (mem_of_findProcedure found))
      rw [deleteIfEmpty_of_ne_nil (by rw [quiet_removeProcedure.apns]; exact attached)]
      refine ⟨fun _ => anchored.quiet quiet_removeProcedure, fun _ other known' => ?_⟩
      rw [known] at known'
      cases known'
      refine ⟨fun none => absurd none attached, fun sa sp hit => ?_⟩
      rw [nothing] at hit
      cases hit
  | removed proc found sa hit member without =>
      have pending := mem_of_findProcedure found
      have apns : (((s.deletePdnConnection pc sa (sa + 1)).removeProcedure pc
          proc.address).contexts pc).apns = (s.contexts pc).apns.erase sa := by
        rw [quiet_removeProcedure.apns, without.contexts, Function.update_self]
      have only : (s.contexts pc).apns.erase sa = [] ↔ (s.contexts pc).apns = [sa] := by
        constructor
        · intro empty
          have one := List.length_erase_of_mem member
          have some := List.length_pos_of_mem member
          rw [empty, List.length_nil] at one
          obtain ⟨only, single⟩ := List.length_eq_one_iff.mp
            (show (s.contexts pc).apns.length = 1 by omega)
          rw [single, List.mem_singleton] at member
          rw [single, member]
        · intro single
          rw [single, List.erase_cons_head]
      have condition : s.RetiresCleanly (.sessionDeletionResponse answer) ↔
          ((s.contexts pc).apns = [sa] → (s.contexts pc).pendingProcedures.length = 1) := by
        constructor
        · intro clean single
          exact (clean pc known).2 sa (sa + 1) hit single
        · intro clean other known'
          rw [known] at known'
          cases known'
          refine ⟨fun none => absurd none (List.ne_nil_of_mem member), fun sa' sp hit' single => ?_⟩
          rw [hit] at hit'
          cases hit'
          exact clean single
      rw [condition]
      by_cases single : (s.contexts pc).apns = [sa]
      · rw [deleteIfEmpty_of_nil (apns.trans (only.mpr single))]
        obtain ⟨enough, needed⟩ := anchored.removed_last without single pending
        exact ⟨fun clean => enough (clean single), fun routed _ => needed routed⟩
      · have more : (s.contexts pc).apns.erase sa ≠ [] := fun empty => single (only.mp empty)
        rw [deleteIfEmpty_of_ne_nil (by rw [apns]; exact more)]
        refine ⟨fun _ => ?_, fun _ same => absurd same single⟩
        have gone := anchored.removed_more member without
          (by rw [without.contexts, Function.update_self]; exact more)
        exact gone.quiet quiet_removeProcedure

theorem deletionResponse_imsi (tracked : Tracked config s) (answer : SessionDeletionResponse)
    (other : Nat) :
    ((s.handleSessionDeletionResponse answer).1.contexts other).imsi = (s.contexts other).imsi := by
  have tidied : ∀ (state : State) (pc : Nat),
      ((state.deleteIfEmpty pc).contexts other).imsi = (state.contexts other).imsi := by
    intro state pc
    unfold deleteIfEmpty
    split <;> rfl
  rcases deletionResponse_answered tracked answer with
    ⟨-, -, unchanged⟩ | ⟨pc, middle, -, answered, same⟩
  · rw [unchanged]
  · rw [same, tidied]
    cases answered with
    | unknown => rfl
    | kept => exact quiet_removeProcedure.imsis other
    | removed proc found sa hit member without =>
        rw [quiet_removeProcedure.imsis, without.contexts, Function.update_apply]
        split
        · next here => rw [here]
        · rfl

/-- No entry goes while its context is alive. -/
def KeepsAlive (s t : State) : Prop :=
  ∀ imsi pc : Nat, s.imsi2pgwContext[imsi]? = some pc → t.imsi2pgwContext[imsi]? = none →
    ¬t.Alive pc

theorem keepsAlive_of_kept
    (kept : ∀ imsi pc : Nat, s.imsi2pgwContext[imsi]? = some pc →
      t.imsi2pgwContext[imsi]? = some pc) : KeepsAlive s t := by
  intro imsi pc known gone
  rw [kept imsi pc known] at gone
  cases gone

theorem Anchored.step {action : Action} (anchored : Anchored s) (tracked : Tracked config s)
    (taken : Pgw.step config s action = some (t, events)) :
    (s.RetiresCleanly action → Anchored t ∧ KeepsAlive s t) ∧
      (t.ImsiRouted → s.RetiresCleanly action) := by
  cases action with
  | createSession request upNode endValue =>
      obtain ⟨after, kept⟩ := anchored.create tracked taken
      exact ⟨fun _ => ⟨after, keepsAlive_of_kept kept⟩, fun _ => trivial⟩
  | sessionEstablishmentResponse answer =>
      have quiet : Quiet s (s.handleSessionEstablishmentResponse answer).1 :=
        quiet_of_establishmentResponse answer
      rw [Option.some.inj taken] at quiet
      refine ⟨fun _ => ⟨anchored.quiet quiet, keepsAlive_of_kept ?_⟩, fun _ => trivial⟩
      intro imsi pc known
      rw [quiet.imsiMap]
      exact known
  | deleteSession order sent =>
      have quiet := quiet_of_deleteSession tracked.registered taken
      refine ⟨fun _ => ⟨anchored.quiet quiet, keepsAlive_of_kept ?_⟩, fun _ => trivial⟩
      intro imsi pc known
      rw [quiet.imsiMap]
      exact known
  | sessionDeletionResponse answer =>
      have same : (s.handleSessionDeletionResponse answer).1 = t := by
        rw [Option.some.inj taken]
      have alive : Anchored t → KeepsAlive s t := by
        intro after imsi pc known gone still
        have own := ((anchored.imsis imsi pc).mp known).1
        rw [← deletionResponse_imsi tracked answer, same] at own
        rw [(after.imsiRouted imsi pc).mpr ⟨own, still⟩] at gone
        cases gone
      have both : (s.RetiresCleanly (.sessionDeletionResponse answer) → Anchored t) ∧
          (t.ImsiRouted → s.RetiresCleanly (.sessionDeletionResponse answer)) := by
        rcases deletionResponse_answered tracked answer with
          ⟨missing, -, unchanged⟩ | ⟨pc, middle, known, answered, tidied⟩
        · rw [← same, unchanged]
          refine ⟨fun _ => anchored, fun _ pc known => ?_⟩
          rw [missing] at known
          cases known
        · rw [← same, tidied]
          exact anchored.answered known answered
      exact ⟨fun clean => ⟨both.1 clean, alive (both.1 clean)⟩, both.2⟩

end State

/-- Along every run the two maps lead to what is in use exactly as long as every
deletion response retires its context cleanly and detaches no session. -/
theorem routing_follows_contexts (config : Config) (records : List (StepRecord State Action Event))
    (s : State) (run : Run (step config) (State.init config.pdns) records s) :
    ((∀ record ∈ records, record.after.ImsiRouted ∧
          State.KeepsAlive record.before record.after) ↔
        ∀ record ∈ records, record.before.RetiresCleanly record.action) ∧
      ((∀ record ∈ records, record.after.SeidRouted) ↔
        ∀ record ∈ records, record.before.KeepsSession record.action) := by
  constructor
  · refine run.forall_records_iff (fun state => State.Tracked config state ∧ state.Anchored)
      State.RetiresCleanly _ ⟨State.tracked_init config, State.anchored_init config.pdns⟩ ?_ ?_
    · intro state action next events ⟨tracked, anchored⟩ clean taken
      exact ⟨tracked.step taken, ((anchored.step tracked taken).1 clean).1⟩
    · intro state action next events ⟨tracked, anchored⟩ taken
      obtain ⟨enough, needed⟩ := anchored.step tracked taken
      refine ⟨fun property => needed property.1, fun clean => ?_⟩
      exact ⟨(enough clean).1.imsiRouted, (enough clean).2⟩
  · refine run.forall_records_iff (fun state => State.Tracked config state ∧ state.Live)
      State.KeepsSession _ ⟨State.tracked_init config, State.live_init config.pdns⟩ ?_ ?_
    · intro state action next events ⟨tracked, live⟩ keeps taken
      exact ⟨tracked.step taken, (State.live_step_iff live tracked taken).mpr keeps⟩
    · intro state action next events ⟨tracked, live⟩ taken
      rw [(tracked.step taken).seidRouted_iff]
      exact State.live_step_iff live tracked taken

/-- A UE attaches, leaves and attaches once more. -/
theorem routing_of_return : ∃ records s,
    Run (step twoAddresses) (State.init twoAddresses.pdns) records s ∧
      (∀ record ∈ records, record.after.ImsiRouted) ∧ s.imsi2pgwContext[1]? = some 5 := by
  obtain ⟨records, s, run, clean, known⟩ := Run.exists_of_passes (step twoAddresses)
    (State.init twoAddresses.pdns)
    [.createSession (oneBearer 1 0 none) .sent 0,
      .sessionEstablishmentResponse { seid := 1, trxnId := 1, cause := some 1 },
      .deleteSession { teid := 1 } true,
      .sessionDeletionResponse { seid := 1, trxnId := 2, cause := some 1 },
      .createSession (oneBearer 1 0 none) .sent 0]
    (fun records s => (∀ record ∈ records, record.before.RetiresCleanly record.action) ∧
      s.imsi2pgwContext[1]? = some 5) (by decide)
  refine ⟨records, s, run, fun record member => ?_, known⟩
  exact ((routing_follows_contexts twoAddresses records s run).1.mpr clean record member).1

/-- Two deletion requests are pending for one connection when the first is
answered. The UE attaches again, and the second answer makes its new context
unknown; the SEID of the connection that is gone still leads to the old one. -/
theorem late_deletion_response_unroutes : ∃ records s,
    Run (step twoAddresses) (State.init twoAddresses.pdns) records s ∧
      ¬(∀ record ∈ records, record.after.ImsiRouted ∧
        State.KeepsAlive record.before record.after) ∧
      ¬(∀ record ∈ records, record.after.SeidRouted) ∧
      (s.contexts 6).imsi = 1 ∧ (s.contexts 6).apns = [7] ∧ s.imsi2pgwContext[1]? = none ∧
      (s.contexts 0).apns = [] ∧ s.seid2pgwContext[1]? = some 0 := by
  obtain ⟨records, s, run, taken, imsi, apns, forgotten, empty, stale⟩ :=
    Run.exists_of_passes (step twoAddresses) (State.init twoAddresses.pdns)
    [.createSession (oneBearer 1 0 none) .sent 0,
      .sessionEstablishmentResponse { seid := 1, trxnId := 1, cause := some 1 },
      .deleteSession { teid := 1 } true, .deleteSession { teid := 1 } true,
      .sessionDeletionResponse { seid := 1, trxnId := 2, cause := some 1 },
      .createSession (oneBearer 1 0 none) .sent 0,
      .sessionDeletionResponse { seid := 1, trxnId := 3, cause := some 1 }]
    (fun records s => records ≠ [] ∧ (s.contexts 6).imsi = 1 ∧ (s.contexts 6).apns = [7] ∧
      s.imsi2pgwContext[1]? = none ∧ (s.contexts 0).apns = [] ∧ s.seid2pgwContext[1]? = some 0)
    (by decide)
  obtain ⟨last, member, after⟩ := run.exists_after taken
  refine ⟨records, s, run, ?_, ?_, imsi, apns, forgotten, empty, stale⟩
  · intro routed
    have known := ((routed last member).1 1 6).mpr ⟨by rw [after, imsi], .inl (by simp [after, apns])⟩
    rw [after, forgotten] at known
    cases known
  · intro routed
    obtain ⟨sa, attached, -⟩ := (routed last member).attached 1 0 (by rw [after, stale])
    rw [after, empty] at attached
    cases attached

end OpenairSpgwc.Pgw
