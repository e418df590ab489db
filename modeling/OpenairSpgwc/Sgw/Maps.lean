import OpenairSpgwc.Foundation.CyclicSearch
import OpenairSpgwc.Sgw.Effects

/-!
Contract: the three tables of the SGW application and the contexts and
connections they lead to.

Owns:
- `Booked`, what the tables have in common whether or not the TEID generators find a
  free value;
- `Agree`, what they have in common while the generators do, and `Occupied`: a context
  in the tables has a connection;
- that both are kept by every step that meets `FindsTeids`.
-/

namespace OpenairSpgwc.Sgw

open Foundation
open Std (ExtTreeMap)

/-! ### TEID generators -/

theorem generateTeidLoop_unused {used : Nat → Bool} {loopDetectTeid turns teid : Nat}
    (found : (generateTeidLoop used loopDetectTeid turns teid).1 ≠ 0) :
    used (generateTeidLoop used loopDetectTeid turns teid).1 = false := by
  induction turns generalizing teid with
  | zero => exact absurd rfl found
  | succ turns inductionHypothesis =>
      unfold generateTeidLoop at found ⊢
      split at found
      · next busy =>
          simp only at found ⊢
          split at found
          · exact absurd rfl found
          · next more =>
              rw [if_pos busy, if_neg more]
              exact inductionHypothesis found
      · next free =>
          rw [if_neg free]
          rw [Bool.or_eq_true, not_or] at free
          exact Bool.eq_false_iff.mpr free.1

/-- A TEID that the generator can return: it is not zero, not the one returned
last, which the loop never reaches, and nobody has it. -/
def FreeTeid (used : Nat → Bool) (counter : Nat) : Prop :=
  ∃ teid, 0 < teid ∧ teid < 2 ^ 32 ∧ teid ≠ counter ∧ used teid = false

/-- The loop stops at the first free TEID, unless it has come back before. -/
theorem generateTeidLoop_ne_zero {used : Nat → Bool} {counter first turns i j : Nat}
    (before : i ≤ j) (enough : j < i + turns) (positive : (first + j) % 2 ^ 32 ≠ 0)
    (free : used ((first + j) % 2 ^ 32) = false)
    (away : ∀ k, i < k → k ≤ j → (first + k) % 2 ^ 32 ≠ counter) :
    (generateTeidLoop used counter turns ((first + i) % 2 ^ 32)).1 ≠ 0 := by
  induction turns generalizing i with
  | zero => omega
  | succ turns inductionHypothesis =>
      unfold generateTeidLoop
      split
      · next busy =>
          have different : i ≠ j := by
            intro here
            rw [here, free, Bool.false_or, beq_iff_eq] at busy
            exact positive busy
          have next : ((first + i) % 2 ^ 32 + 1) % 2 ^ 32 = (first + (i + 1)) % 2 ^ 32 := by omega
          simp only
          rw [next, if_neg (away (i + 1) (by omega) (by omega)).symm]
          exact inductionHypothesis (by omega) (by omega) fun k later => away k (by omega)
      · next stop =>
          rw [Bool.or_eq_true, not_or, beq_iff_eq] at stop
          exact stop.2

theorem generateTeid_ne_zero {used : Nat → Bool} {counter : Nat} (free : FreeTeid used counter) :
    (generateTeid used counter).1 ≠ 0 := by
  obtain ⟨teid, positive, bounded, different, unused⟩ := free
  -- How many turns the free TEID is away from the first one that is tried.
  obtain ⟨j, near, reaches⟩ := exists_turns (counter + 1) bounded
  have result : (generateTeidLoop used counter (2 ^ 32) ((counter + 1 + 0) % 2 ^ 32)).1 ≠ 0 :=
    generateTeidLoop_ne_zero (Nat.zero_le j) (by omega) (by omega) (by rw [reaches, unused])
      (fun k _ _ => by omega)
  exact result

/-- When all TEIDs are in use the generator returns zero. -/
theorem generateTeidLoop_eq_zero {used : Nat → Bool} {loopDetectTeid turns teid : Nat}
    (all : ∀ teid, 0 < teid → teid < 2 ^ 32 → used teid = true) (bounded : teid < 2 ^ 32) :
    (generateTeidLoop used loopDetectTeid turns teid).1 = 0 := by
  induction turns generalizing teid with
  | zero => rfl
  | succ turns inductionHypothesis =>
      have busy : (used teid || teid == 0) = true := by
        rcases Nat.eq_zero_or_pos teid with zero | positive
        · rw [zero, beq_self_eq_true, Bool.or_true]
        · rw [all teid positive bounded, Bool.true_or]
      unfold generateTeidLoop
      rw [if_pos busy]
      simp only
      split
      · rfl
      · exact inductionHypothesis (Nat.mod_lt _ (by norm_num))

namespace State

variable {s t : State} {ebc c sp imsi teid : Nat} {events : List Event}
  {request : CreateSessionRequest}

structure Agree (s : State) : Prop where
  routed : ∀ teid ebc sp : Nat, s.s5s8lteid2sgwContexts[teid]? = some (ebc, sp) →
    s.teidOf sp = teid ∧ (s.contexts ebc).pdnConnections[s.keyOf sp]? = some sp
  held : ∀ (ebc : Nat) (key : Kpdn) (sp : Nat), (s.contexts ebc).pdnConnections[key]? = some sp →
    s.keyOf sp = key ∧ s.s5s8lteid2sgwContexts[s.teidOf sp]? = some (ebc, sp) ∧
      s.imsi2sgwEpsBearerContext[(s.contexts ebc).imsi]? = some ebc ∧ sp < s.nextAddress
  imsis : ∀ imsi ebc : Nat, s.imsi2sgwEpsBearerContext[imsi]? = some ebc →
    (s.contexts ebc).imsi = imsi ∧
      s.s11lteid2sgwEpsBearerContext[(s.contexts ebc).sgwFteidS11S4Cp.teidGreKey]? = some ebc ∧
      ebc < s.nextAddress
  s11s : ∀ teid ebc : Nat, s.s11lteid2sgwEpsBearerContext[teid]? = some ebc →
    (s.contexts ebc).sgwFteidS11S4Cp.teidGreKey = teid ∧ teid ≠ 0 ∧
      s.imsi2sgwEpsBearerContext[(s.contexts ebc).imsi]? = some ebc

/-- A context in the tables has a connection. -/
def Occupied (s : State) : Prop :=
  ∀ imsi ebc : Nat, s.imsi2sgwEpsBearerContext[imsi]? = some ebc →
    ∃ (key : Kpdn) (sp : Nat), (s.contexts ebc).pdnConnections[key]? = some sp

theorem agree_init : Agree init where
  routed teid ebc sp known := by simp [init] at known
  held ebc key sp known := by simp [init] at known
  imsis imsi ebc known := by simp [init] at known
  s11s teid ebc known := by simp [init] at known

theorem occupied_init : Occupied init := by
  intro imsi ebc known
  simp [init] at known

/-- The context is the one the tables have for its UE. -/
def Anchored (s : State) (ebc : Nat) : Prop :=
  s.imsi2sgwEpsBearerContext[(s.contexts ebc).imsi]? = some ebc

theorem Anchored.same (anchored : Anchored s ebc) (same : SameTables s t) : Anchored t ebc := by
  unfold Anchored
  rw [same.imsi, same.imsiMap]
  exact anchored

/-- The entries of the tables lead where they say, but two contexts may have no S11 TEID, and
two connections no S5/S8 TEID. -/
structure Booked (s : State) : Prop where
  routed : ∀ teid ebc sp : Nat, s.s5s8lteid2sgwContexts[teid]? = some (ebc, sp) →
    s.teidOf sp = teid ∧ (s.contexts ebc).pdnConnections[s.keyOf sp]? = some sp
  held : ∀ (ebc : Nat) (key : Kpdn) (sp : Nat), (s.contexts ebc).pdnConnections[key]? = some sp →
    s.keyOf sp = key ∧ Anchored s ebc ∧ sp < s.nextAddress
  imsis : ∀ imsi ebc : Nat, s.imsi2sgwEpsBearerContext[imsi]? = some ebc →
    (s.contexts ebc).imsi = imsi ∧ ebc < s.nextAddress ∧
      (s.runContext ebc = some ebc ∨ (s.contexts ebc).sgwFteidS11S4Cp.teidGreKey = 0)

theorem booked_init : Booked init where
  routed teid ebc sp known := by simp [init] at known
  held ebc key sp known := by simp [init] at known
  imsis imsi ebc known := by simp [init] at known

theorem Booked.anchored (booked : Booked s) (known : s.imsi2sgwEpsBearerContext[imsi]? = some ebc) :
    Anchored s ebc := by
  unfold Anchored
  rw [(booked.imsis imsi ebc known).1]
  exact known

/-- Tables that agree are booked. -/
theorem Agree.booked (agree : Agree s) : Booked s where
  routed := agree.routed
  held ebc key sp known := by
    obtain ⟨own, -, anchored, older⟩ := agree.held ebc key sp known
    exact ⟨own, anchored, older⟩
  imsis imsi ebc known := by
    obtain ⟨own, route, older⟩ := agree.imsis imsi ebc known
    exact ⟨own, older, .inl route⟩

/-- What tables that are booked lack: the connections and the contexts have TEIDs of their own. -/
theorem Booked.agree (booked : Booked s)
    (back : ∀ (ebc : Nat) (key : Kpdn) (sp : Nat),
      (s.contexts ebc).pdnConnections[key]? = some sp →
        s.s5s8lteid2sgwContexts[s.teidOf sp]? = some (ebc, sp))
    (assigned : ∀ ebc, Anchored s ebc → (s.contexts ebc).sgwFteidS11S4Cp.teidGreKey ≠ 0)
    (s11s : ∀ teid ebc : Nat, s.s11lteid2sgwEpsBearerContext[teid]? = some ebc →
      (s.contexts ebc).sgwFteidS11S4Cp.teidGreKey = teid ∧ teid ≠ 0 ∧ Anchored s ebc) :
    Agree s where
  routed := booked.routed
  held ebc key sp known := by
    obtain ⟨own, anchored, older⟩ := booked.held ebc key sp known
    exact ⟨own, back ebc key sp known, anchored, older⟩
  imsis imsi ebc known := by
    obtain ⟨own, older, route⟩ := booked.imsis imsi ebc known
    exact ⟨own, route.resolve_right (assigned ebc (booked.anchored known)), older⟩
  s11s := s11s

theorem Agree.back (agree : Agree s) {key : Kpdn}
    (known : (s.contexts ebc).pdnConnections[key]? = some sp) :
    s.s5s8lteid2sgwContexts[s.teidOf sp]? = some (ebc, sp) :=
  (agree.held ebc key sp known).2.1

theorem Agree.assigned (agree : Agree s) (anchored : Anchored s ebc) :
    (s.contexts ebc).sgwFteidS11S4Cp.teidGreKey ≠ 0 :=
  (agree.s11s _ ebc (agree.imsis _ ebc anchored).2.1).2.1

theorem runContext_same (same : SameTables s t) (ebc : Nat) :
    t.runContext ebc = s.runContext ebc := by
  unfold runContext
  rw [same.s11Teid, same.s11Map]

theorem Booked.same (booked : Booked s) (same : SameTables s t) : Booked t where
  routed teid ebc sp known := by
    rw [same.s5s8Map] at known
    rw [same.teids, same.keys, same.connections]
    exact booked.routed teid ebc sp known
  held ebc key sp known := by
    rw [same.connections] at known
    obtain ⟨own, anchored, older⟩ := booked.held ebc key sp known
    rw [same.keys]
    exact ⟨own, anchored.same same, older.trans_le same.nextAddress⟩
  imsis imsi ebc known := by
    rw [same.imsiMap] at known
    obtain ⟨own, older, route⟩ := booked.imsis imsi ebc known
    rw [same.imsi, same.s11Teid, runContext_same same]
    exact ⟨own, older.trans_le same.nextAddress, route⟩

theorem Agree.same (agree : Agree s) (same : SameTables s t) : Agree t := by
  refine (agree.booked.same same).agree (fun ebc key sp known => ?_) (fun ebc anchored => ?_)
    fun teid ebc known => ?_
  · rw [same.connections] at known
    rw [same.teids, same.s5s8Map]
    exact agree.back known
  · unfold Anchored at anchored
    rw [same.imsi, same.imsiMap] at anchored
    rw [same.s11Teid]
    exact agree.assigned anchored
  · rw [same.s11Map] at known
    obtain ⟨own, positive, anchored⟩ := agree.s11s teid ebc known
    rw [same.s11Teid]
    exact ⟨own, positive, Anchored.same anchored same⟩

theorem Occupied.same (occupied : Occupied s) (same : SameTables s t) : Occupied t := by
  intro imsi ebc known
  rw [same.imsiMap] at known
  rw [same.connections]
  exact occupied imsi ebc known

theorem Agree.anchored (agree : Agree s) (known : s.imsi2sgwEpsBearerContext[imsi]? = some ebc) :
    Anchored s ebc :=
  agree.booked.anchored known

/-! ### Deleting a connection and a context -/

theorem teidOf_deletePdnConnection (other : Nat) :
    (s.deletePdnConnection ebc sp).teidOf other = s.teidOf other := by
  simp only [teidOf, deletePdnConnection, Function.update_apply]
  split
  · next here =>
      rw [here]
      rfl
  · rfl

theorem keyOf_deletePdnConnection (other : Nat) :
    (s.deletePdnConnection ebc sp).keyOf other = s.keyOf other := by
  simp only [keyOf, deletePdnConnection, Function.update_apply]
  split
  · next here =>
      rw [here]
      rfl
  · rfl

theorem connections_deletePdnConnection {other : Nat} {key : Kpdn} {sp' : Nat} :
    ((s.deletePdnConnection ebc sp).contexts other).pdnConnections[key]? = some sp' ↔
      (s.contexts other).pdnConnections[key]? = some sp' ∧ (other = ebc → key ≠ s.keyOf sp) := by
  simp only [deletePdnConnection, Function.update_apply]
  split
  · next here =>
      rw [here, getElem?_erase_eq_some]
      simp only [keyOf, true_imp_iff, and_comm]
  · next elsewhere => simp [elsewhere]

theorem imsi_deletePdnConnection (other : Nat) :
    ((s.deletePdnConnection ebc sp).contexts other).imsi = (s.contexts other).imsi := by
  simp only [deletePdnConnection, Function.update_apply]
  split
  · next here => rw [here]
  · rfl

theorem s11Teid_deletePdnConnection (other : Nat) :
    ((s.deletePdnConnection ebc sp).contexts other).sgwFteidS11S4Cp =
      (s.contexts other).sgwFteidS11S4Cp := by
  simp only [deletePdnConnection, Function.update_apply]
  split
  · next here => rw [here]
  · rfl

theorem Booked.deletePdnConnection (booked : Booked s) {key : Kpdn}
    (known : (s.contexts ebc).pdnConnections[key]? = some sp) :
    Booked (s.deletePdnConnection ebc sp) where
  routed teid other sp' route := by
    have erased : (s.s5s8lteid2sgwContexts.erase (s.teidOf sp))[teid]? = some (other, sp') := route
    obtain ⟨different, before⟩ := getElem?_erase_eq_some.mp erased
    obtain ⟨same, there⟩ := booked.routed teid other sp' before
    rw [teidOf_deletePdnConnection, keyOf_deletePdnConnection, connections_deletePdnConnection]
    refine ⟨same, there, fun here equal => different ?_⟩
    -- The same key of the same context is the same connection.
    rw [here, equal, (booked.held ebc key sp known).1, known] at there
    rw [← same, Option.some.inj there]
  held other key' sp' present := by
    obtain ⟨own, anchored, older⟩ :=
      booked.held other key' sp' (connections_deletePdnConnection.mp present).1
    rw [keyOf_deletePdnConnection]
    refine ⟨own, ?_, older⟩
    unfold Anchored
    rw [imsi_deletePdnConnection]
    exact anchored
  imsis imsi other mapped := by
    unfold runContext
    rw [imsi_deletePdnConnection, s11Teid_deletePdnConnection]
    exact booked.imsis imsi other mapped

theorem Agree.deletePdnConnection (agree : Agree s) {key : Kpdn}
    (known : (s.contexts ebc).pdnConnections[key]? = some sp) :
    Agree (s.deletePdnConnection ebc sp) := by
  refine (agree.booked.deletePdnConnection known).agree (fun other key' sp' present => ?_)
    (fun other anchored => ?_) fun teid other mapped => ?_
  · obtain ⟨before, apart⟩ := connections_deletePdnConnection.mp present
    have route := agree.back before
    rw [teidOf_deletePdnConnection]
    refine getElem?_erase_eq_some.mpr ⟨fun equal => ?_, route⟩
    have equal : s.teidOf sp' = s.teidOf sp := equal
    rw [equal, agree.back known] at route
    cases route
    exact apart rfl (agree.held _ key' _ before).1.symm
  · unfold Anchored at anchored
    rw [imsi_deletePdnConnection] at anchored
    rw [s11Teid_deletePdnConnection]
    exact agree.assigned anchored
  · unfold Anchored
    rw [imsi_deletePdnConnection, s11Teid_deletePdnConnection]
    exact agree.s11s teid other mapped

/-- The connection of a context that is in the tables. -/
theorem size_ne_zero {key : Kpdn} (present : (s.contexts ebc).pdnConnections[key]? = some sp) :
    (s.contexts ebc).pdnConnections.size ≠ 0 := by
  intro none
  rw [ExtTreeMap.eq_empty_iff_size_eq_zero.mpr none, ExtTreeMap.getElem?_empty] at present
  cases present

/-- A context without a connection is taken out of the tables. -/
theorem Booked.deleteContext (booked : Booked s) (anchored : Anchored s ebc)
    (none : (s.contexts ebc).pdnConnections.size = 0) :
    Booked (s.deleteSgwEpsBearerContext ebc) := by
  have same : SameTables s (s.setContext ebc
      { s.contexts ebc with pendingProcedures := [] }) := sameTables_setContext _ _ le_rfl
  rw [deleteSgwEpsBearerContext_eq none]
  generalize cleared : s.setContext ebc { s.contexts ebc with pendingProcedures := [] } = t at same
  have contexts : Function.update s.contexts ebc
      { s.contexts ebc with pendingProcedures := [] } = t.contexts := by
    rw [← cleared]
    rfl
  rw [contexts]
  constructor
  · intro teid other sp route
    show _ ∧ (t.contexts other).pdnConnections[s.keyOf sp]? = _
    rw [same.connections]
    exact booked.routed teid other sp route
  · intro other key sp present
    have present : (t.contexts other).pdnConnections[key]? = some sp := present
    rw [same.connections] at present
    obtain ⟨own, mapped, older⟩ := booked.held other key sp present
    refine ⟨own, ?_, older⟩
    show (s.imsi2sgwEpsBearerContext.erase _)[(t.contexts other).imsi]? = _
    rw [same.imsi]
    refine getElem?_erase_eq_some.mpr ⟨fun equal => ?_, mapped⟩
    unfold Anchored at mapped
    rw [equal, anchored] at mapped
    cases mapped
    exact size_ne_zero present none
  · intro imsi other known
    obtain ⟨different, before⟩ := getElem?_erase_eq_some.mp known
    obtain ⟨own, older, route⟩ := booked.imsis imsi other before
    have apart : other ≠ ebc := by
      intro here
      rw [here] at own
      exact different own.symm
    show (t.contexts other).imsi = imsi ∧ other < s.nextAddress ∧
      ((s.s11lteid2sgwEpsBearerContext.erase _)[(t.contexts other).sgwFteidS11S4Cp.teidGreKey]? =
        some other ∨ (t.contexts other).sgwFteidS11S4Cp.teidGreKey = 0)
    rw [same.imsi, same.s11Teid]
    refine ⟨own, older, ?_⟩
    by_cases zero : (s.contexts other).sgwFteidS11S4Cp.teidGreKey = 0
    · exact .inr zero
    · left
      have route := route.resolve_right zero
      refine getElem?_erase_eq_some.mpr ⟨fun equal => ?_, route⟩
      have positive : (s.contexts ebc).sgwFteidS11S4Cp.teidGreKey ≠ 0 := by
        rw [← equal]
        exact zero
      have back := (booked.imsis _ ebc anchored).2.2.resolve_right positive
      unfold runContext at back route
      rw [← equal, route] at back
      exact apart (Option.some.inj back)

theorem Agree.deleteContext (agree : Agree s) (mapped : Anchored s ebc)
    (none : (s.contexts ebc).pdnConnections.size = 0) :
    Agree (s.deleteSgwEpsBearerContext ebc) := by
  have booked := agree.booked.deleteContext mapped none
  rw [deleteSgwEpsBearerContext_eq none] at booked ⊢
  have same : SameTables s (s.setContext ebc
      { s.contexts ebc with pendingProcedures := [] }) := sameTables_setContext _ _ le_rfl
  generalize cleared : s.setContext ebc { s.contexts ebc with pendingProcedures := [] } = t at same
  have contexts : Function.update s.contexts ebc
      { s.contexts ebc with pendingProcedures := [] } = t.contexts := by
    rw [← cleared]
    rfl
  rw [contexts] at booked ⊢
  refine booked.agree (fun other key sp present => ?_) (fun other anchored => ?_)
    fun teid other known => ?_
  · have present : (t.contexts other).pdnConnections[key]? = some sp := present
    rw [same.connections] at present
    exact agree.back present
  · show (t.contexts other).sgwFteidS11S4Cp.teidGreKey ≠ 0
    rw [same.s11Teid]
    have erased : (s.imsi2sgwEpsBearerContext.erase _)[(t.contexts other).imsi]? = some other :=
      anchored
    rw [same.imsi] at erased
    exact agree.assigned (getElem?_erase_eq_some.mp erased).2
  · obtain ⟨different, before⟩ := getElem?_erase_eq_some.mp known
    obtain ⟨own, positive, inMap⟩ := agree.s11s teid other before
    show (t.contexts other).sgwFteidS11S4Cp.teidGreKey = teid ∧ _ ∧
      (s.imsi2sgwEpsBearerContext.erase _)[(t.contexts other).imsi]? = _
    rw [same.imsi, same.s11Teid]
    refine ⟨own, positive, getElem?_erase_eq_some.mpr ⟨fun equal => ?_, inMap⟩⟩
    rw [equal, mapped] at inMap
    cases inMap
    exact different own.symm

theorem exists_of_size_ne_zero (some : (s.contexts ebc).pdnConnections.size ≠ 0) :
    ∃ (key : Kpdn) (sp : Nat), (s.contexts ebc).pdnConnections[key]? = Option.some sp := by
  by_contra none
  apply some
  rw [← ExtTreeMap.eq_empty_iff_size_eq_zero]
  refine ExtTreeMap.ext_getElem? fun key => ?_
  rw [ExtTreeMap.getElem?_empty]
  cases found : (s.contexts ebc).pdnConnections[key]? with
  | none => rfl
  | some sp => exact absurd ⟨key, sp, found⟩ none

/-! ### Create Session Request -/

theorem Agree.runContext (agree : Agree s) (anchored : Anchored s ebc) :
    s.runContext ebc = some ebc :=
  (agree.imsis _ ebc anchored).2.1

/-- A context in the tables already has its S11 TEID. -/
theorem Agree.sameTables_entered (agree : Agree s) (anchored : Anchored s ebc)
    (request : CreateSessionRequest) : SameTables s (s.entered ebc request) := by
  have positive := (agree.s11s _ ebc (agree.runContext anchored)).2.1
  unfold entered
  rw [if_neg positive]
  exact sameTables_setContext _ _ le_rfl

theorem connections_entered (other : Nat) :
    ((s.entered ebc request).contexts other).pdnConnections =
    (s.contexts other).pdnConnections := by
  unfold entered
  split
  · simp only [Function.update_apply]
    split
    · next here => rw [here]
    · rfl
  · simp only [setContext, Function.update_apply]
    split
    · next here => rw [here]
    · rfl

theorem runContext_entered (own : s.runContext ebc = some ebc ∨
    (s.contexts ebc).sgwFteidS11S4Cp.teidGreKey = 0) :
    (s.entered ebc request).runContext ebc = some ebc := by
  unfold entered
  split
  · simp [runContext, s11CpFteid]
  · next positive =>
      rcases own with own | zero
      · simpa [runContext, setContext] using own
      · exact absurd zero positive

/-- A context that gets its S11 TEID leaves those of the others. -/
theorem Booked.entered (booked : Booked s) (known : s.imsi2sgwEpsBearerContext[imsi]? = some ebc)
    (own : request.imsi = some imsi) : Booked (s.entered ebc request) := by
  by_cases unassigned : (s.contexts ebc).sgwFteidS11S4Cp.teidGreKey = 0
  · have after : s.entered ebc request =
        { s with
          teidS11Cp := s.generateS11CpTeid.2
          s11lteid2sgwEpsBearerContext :=
            s.s11lteid2sgwEpsBearerContext.insert s.generateS11CpTeid.1 ebc
          contexts := Function.update s.contexts ebc { s.contexts ebc with
            sgwFteidS11S4Cp := s11CpFteid s.generateS11CpTeid.1
            mmeFteidS11 := request.senderFteidForCp
            imsi := imsi } } := by
      unfold State.entered
      rw [if_pos unassigned, own]
      rfl
    have context (other : Nat) : ((s.entered ebc request).contexts other).imsi =
        (s.contexts other).imsi := by
      rw [after]
      show (Function.update s.contexts ebc _ other).imsi = _
      rw [Function.update_apply]
      split
      · next here =>
          rw [here]
          exact (booked.imsis imsi ebc known).1.symm
      · rfl
    have imsiMap : (s.entered ebc request).imsi2sgwEpsBearerContext =
        s.imsi2sgwEpsBearerContext := by rw [after]
    have same : (s.entered ebc request).pdnConnections = s.pdnConnections := by rw [after]
    constructor
    · intro teid other sp route
      rw [connections_entered, teidOf, keyOf, same]
      rw [after] at route
      exact booked.routed teid other sp route
    · intro other key sp present
      rw [connections_entered] at present
      obtain ⟨key, anchored, older⟩ := booked.held other key sp present
      rw [keyOf, same, Anchored, context, imsiMap, nextAddress_entered]
      exact ⟨key, anchored, older⟩
    · intro imsi' other mapped
      rw [imsiMap] at mapped
      obtain ⟨name, older, route⟩ := booked.imsis imsi' other mapped
      rw [context, nextAddress_entered]
      refine ⟨name, older, ?_⟩
      by_cases here : other = ebc
      · rw [here]
        exact .inl (runContext_entered (.inr unassigned))
      · have away : (s.entered ebc request).contexts other = s.contexts other := by
          rw [after]
          exact Function.update_of_ne here _ _
        unfold runContext
        rw [away]
        by_cases zero : (s.contexts other).sgwFteidS11S4Cp.teidGreKey = 0
        · exact .inr zero
        · left
          have route := route.resolve_right zero
          rw [after]
          refine getElem?_insert_eq_some.mpr (.inr ⟨fun equal => ?_, route⟩)
          -- The generator has returned a TEID that nobody has.
          have unused : s.s11lteid2sgwEpsBearerContext.contains s.generateS11CpTeid.1 = false :=
            generateTeidLoop_unused fun none => zero (equal.trans none)
          rw [← equal, ← ExtTreeMap.isSome_getElem?_eq_contains] at unused
          unfold runContext at route
          rw [route] at unused
          cases unused
  · unfold State.entered
    rw [if_neg unassigned]
    exact booked.same (sameTables_setContext _ _ le_rfl)

/-- A new context that has its IMSI already. -/
def addNamedContext (s : State) (imsi : Nat) : State :=
  { s.setContext s.nextAddress { imsi := imsi } with
    imsi2sgwEpsBearerContext := s.imsi2sgwEpsBearerContext.insert imsi s.nextAddress
    nextAddress := s.nextAddress + 1 }

theorem entered_addContext (own : request.imsi = some imsi) :
    (s.addContext imsi).entered s.nextAddress request =
      (s.addNamedContext imsi).entered s.nextAddress request := by
  unfold entered addContext addNamedContext
  simp only [setContext, Function.update_self, ↓reduceIte, Function.update_idem, own,
    Option.getD_some, generateS11CpTeid]

theorem Booked.addNamedContext (booked : Booked s)
    (unknown : s.imsi2sgwEpsBearerContext[imsi]? = none) : Booked (s.addNamedContext imsi) := by
  have context (other : Nat) (different : other ≠ s.nextAddress) :
      (s.addNamedContext imsi).contexts other = s.contexts other :=
    Function.update_of_ne different _ _
  have new : (s.addNamedContext imsi).contexts s.nextAddress = { imsi := imsi } :=
    Function.update_self _ _ _
  have older (other : Nat) (anchored : Anchored s other) : other ≠ s.nextAddress :=
    Nat.ne_of_lt (booked.imsis _ other anchored).2.1
  constructor
  · intro teid other sp route
    obtain ⟨same, there⟩ := booked.routed teid other sp route
    rw [context other (older other (booked.held other _ sp there).2.1)]
    exact ⟨same, there⟩
  · intro other key sp present
    by_cases here : other = s.nextAddress
    · rw [here, new, ExtTreeMap.getElem?_empty] at present
      cases present
    · rw [context other here] at present
      obtain ⟨own, anchored, before⟩ := booked.held other key sp present
      refine ⟨own, ?_, before.trans (Nat.lt_succ_self _)⟩
      unfold Anchored
      rw [context other here]
      refine getElem?_insert_eq_some.mpr (.inr ⟨fun equal => ?_, anchored⟩)
      unfold Anchored at anchored
      rw [equal, unknown] at anchored
      cases anchored
  · intro imsi' other known
    rcases getElem?_insert_eq_some.mp known with ⟨rfl, rfl⟩ | ⟨different, before⟩
    · rw [new]
      exact ⟨rfl, Nat.lt_succ_self _, .inr rfl⟩
    · obtain ⟨own, lower, route⟩ := booked.imsis imsi' other before
      unfold runContext
      rw [context other lower.ne]
      exact ⟨own, lower.trans (Nat.lt_succ_self _), route⟩

/-- A new context enters the tables with a TEID that no other context has. -/
theorem Agree.entered_addContext (agree : Agree s)
    (unknown : s.imsi2sgwEpsBearerContext[imsi]? = none) (own : request.imsi = some imsi)
    (found : s.generateS11CpTeid.1 ≠ 0) :
    Agree ((s.addContext imsi).entered s.nextAddress request) := by
  have known : (s.addNamedContext imsi).imsi2sgwEpsBearerContext[imsi]? = some s.nextAddress :=
    ExtTreeMap.getElem?_insert_self
  have booked := (agree.booked.addNamedContext unknown).entered known own
  rw [← State.entered_addContext own] at booked
  -- An anchored context is older than the new one.
  have mapped : ∀ other : Nat, Anchored s other → other ≠ s.nextAddress := fun other inMap =>
    Nat.ne_of_lt (agree.imsis _ other inMap).2.2
  have after : (s.addContext imsi).entered s.nextAddress request =
      { s with
        teidS11Cp := s.generateS11CpTeid.2
        s11lteid2sgwEpsBearerContext :=
          s.s11lteid2sgwEpsBearerContext.insert s.generateS11CpTeid.1 s.nextAddress
        imsi2sgwEpsBearerContext := s.imsi2sgwEpsBearerContext.insert imsi s.nextAddress
        contexts := Function.update s.contexts s.nextAddress
          { imsi := imsi
            sgwFteidS11S4Cp := s11CpFteid s.generateS11CpTeid.1
            mmeFteidS11 := request.senderFteidForCp }
        nextAddress := s.nextAddress + 1 } := by
    simp only [entered, addContext, setContext, Function.update_self, generateS11CpTeid, own,
      Option.getD_some, Function.update_idem, ↓reduceIte]
  rw [after] at booked ⊢
  refine booked.agree (fun other key sp present => ?_) (fun other anchored => ?_)
    fun teid other known => ?_
  · have present : (Function.update s.contexts _ _ other).pdnConnections[key]? = some sp := present
    rcases eq_or_ne other s.nextAddress with here | different
    · rw [here, Function.update_self, ExtTreeMap.getElem?_empty] at present
      cases present
    · rw [Function.update_of_ne different] at present
      exact agree.back present
  · show (Function.update s.contexts _ _ other).sgwFteidS11S4Cp.teidGreKey ≠ 0
    rcases eq_or_ne other s.nextAddress with here | different
    · rw [here, Function.update_self]
      exact found
    · have inMap : (s.imsi2sgwEpsBearerContext.insert imsi s.nextAddress)[
          (Function.update s.contexts _ _ other).imsi]? = some other := anchored
      rw [Function.update_of_ne different] at inMap ⊢
      rcases getElem?_insert_eq_some.mp inMap with ⟨-, here⟩ | ⟨-, before⟩
      · exact absurd here different
      · exact agree.assigned before
  · show (Function.update s.contexts _ _ other).sgwFteidS11S4Cp.teidGreKey = teid ∧ teid ≠ 0 ∧
      (s.imsi2sgwEpsBearerContext.insert imsi _)[
        (Function.update s.contexts _ _ other).imsi]? = some other
    rcases getElem?_insert_eq_some.mp known with ⟨rfl, rfl⟩ | ⟨different, before⟩
    · rw [Function.update_self]
      exact ⟨rfl, found, ExtTreeMap.getElem?_insert_self⟩
    · obtain ⟨same, positive, inMap⟩ := agree.s11s teid other before
      rw [Function.update_of_ne (mapped other inMap), getElem?_insert_eq_some]
      refine ⟨same, positive, .inr ⟨fun equal => ?_, inMap⟩⟩
      rw [equal, unknown] at inMap
      cases inMap

/-- The connections of the contexts after one was made. -/
theorem Added.connections_iff (added : Added s c request t)
    (absent : (s.contexts c).pdnConnections.contains (request.apn, request.pdnType) = false)
    (other : Nat) (key : Kpdn) (sp : Nat) :
    (t.contexts other).pdnConnections[key]? = some sp ↔
      (other = c ∧ key = (request.apn, request.pdnType) ∧ sp = s.nextAddress) ∨
      (s.contexts other).pdnConnections[key]? = some sp := by
  rw [added.contexts, Function.update_apply]
  split
  · next here =>
      rw [here, getElem?_insert_eq_some]
      constructor
      · rintro (⟨same, new⟩ | ⟨-, old⟩)
        · exact .inl ⟨rfl, same, new⟩
        · exact .inr old
      · rintro (⟨-, same, new⟩ | old)
        · exact .inl ⟨same, new⟩
        · refine .inr ⟨fun same => ?_, old⟩
          rw [← ExtTreeMap.isSome_getElem?_eq_contains, ← same, old] at absent
          cases absent
  · next elsewhere => simp [elsewhere]

theorem Added.old (added : Added s c request t) (older : sp < s.nextAddress) :
    t.teidOf sp = s.teidOf sp ∧ t.keyOf sp = s.keyOf sp := by
  unfold teidOf keyOf
  rw [added.others sp older.ne]
  exact ⟨rfl, rfl⟩

theorem Added.sameImsi (added : Added s c request t) (other : Nat) :
    (t.contexts other).imsi = (s.contexts other).imsi := by
  rw [added.contexts, Function.update_apply]
  split
  · next here => rw [here]
  · rfl

theorem Added.sameS11Teid (added : Added s c request t) (other : Nat) :
    (t.contexts other).sgwFteidS11S4Cp = (s.contexts other).sgwFteidS11S4Cp := by
  rw [added.contexts, Function.update_apply]
  split
  · next here => rw [here]
  · rfl

/-- A connection enters the tables. -/
theorem Booked.added (booked : Booked s) (anchored : Anchored s c)
    (absent : (s.contexts c).pdnConnections.contains (request.apn, request.pdnType) = false)
    (added : Added s c request t) : Booked t := by
  have anchors (other : Nat) (anchored : Anchored s other) : Anchored t other := by
    unfold Anchored
    rw [added.sameImsi, added.imsiMap]
    exact anchored
  have connections := added.connections_iff absent
  constructor
  · intro teid other sp route
    rw [added.s5s8Map] at route
    rcases getElem?_insert_eq_some.mp route with ⟨rfl, new⟩ | ⟨different, before⟩
    · cases new
      refine ⟨added.teid, ?_⟩
      rw [connections, added.key]
      exact .inl ⟨rfl, rfl, rfl⟩
    · obtain ⟨same, there⟩ := booked.routed teid other sp before
      obtain ⟨teids, keys⟩ := added.old (booked.held other _ sp there).2.2
      rw [teids, keys, connections]
      exact ⟨same, .inr there⟩
  · intro other key sp present
    rw [added.nextAddress]
    rcases (connections other key sp).mp present with ⟨rfl, rfl, rfl⟩ | before
    · exact ⟨added.key, anchors _ anchored, Nat.lt_succ_self _⟩
    · obtain ⟨same, mapped, older⟩ := booked.held other key sp before
      rw [(added.old older).2]
      exact ⟨same, anchors other mapped, older.trans (Nat.lt_succ_self _)⟩
  · intro imsi other known
    rw [added.imsiMap] at known
    obtain ⟨same, older, route⟩ := booked.imsis imsi other known
    unfold runContext
    rw [added.sameImsi, added.sameS11Teid, added.s11Map, added.nextAddress]
    exact ⟨same, older.trans (Nat.lt_succ_self _), route⟩

/-- A connection enters the tables with a TEID that no other connection has. -/
theorem Agree.added (agree : Agree s) (anchored : Anchored s c)
    (absent : (s.contexts c).pdnConnections.contains (request.apn, request.pdnType) = false)
    (found : s.generateS5s8CpTeid.1 ≠ 0) (added : Added s c request t) : Agree t := by
  have unused : s.s5s8lteid2sgwContexts.contains s.generateS5s8CpTeid.1 = false :=
    generateTeidLoop_unused found
  refine (agree.booked.added anchored absent added).agree (fun other key sp present => ?_)
    (fun other inMap => ?_) fun teid other known => ?_
  · rw [added.s5s8Map]
    rcases (added.connections_iff absent other key sp).mp present with ⟨rfl, rfl, rfl⟩ | before
    · rw [added.teid]
      exact ExtTreeMap.getElem?_insert_self
    · have route := agree.back before
      rw [(added.old (agree.held other key sp before).2.2.2).1, getElem?_insert_eq_some]
      refine .inr ⟨fun equal => ?_, route⟩
      rw [equal] at route
      rw [← ExtTreeMap.isSome_getElem?_eq_contains, route] at unused
      cases unused
  · unfold Anchored at inMap
    rw [added.sameImsi, added.imsiMap] at inMap
    rw [added.sameS11Teid]
    exact agree.assigned inMap
  · rw [added.s11Map] at known
    unfold Anchored
    rw [added.sameImsi, added.sameS11Teid, added.imsiMap]
    exact agree.s11s teid other known

/-- Every context in the tables but `ebc` has a connection. -/
def OccupiedExcept (s : State) (ebc : Nat) : Prop :=
  ∀ imsi other : Nat, other ≠ ebc → s.imsi2sgwEpsBearerContext[imsi]? = some other →
    ∃ (key : Kpdn) (sp : Nat), (s.contexts other).pdnConnections[key]? = some sp

theorem Occupied.except (occupied : Occupied s) : OccupiedExcept s ebc :=
  fun imsi other _ known => occupied imsi other known

theorem OccupiedExcept.same (occupied : OccupiedExcept s ebc) (same : SameTables s t) :
    OccupiedExcept t ebc := by
  intro imsi other different known
  rw [same.imsiMap] at known
  rw [same.connections]
  exact occupied imsi other different known

theorem OccupiedExcept.occupied (occupied : OccupiedExcept s ebc) {key : Kpdn}
    (present : (s.contexts ebc).pdnConnections[key]? = some sp) : Occupied s := by
  intro imsi other known
  rcases eq_or_ne other ebc with here | different
  · rw [here]
    exact ⟨key, sp, present⟩
  · exact occupied imsi other different known

theorem OccupiedExcept.deletePdnConnection (occupied : OccupiedExcept s ebc) :
    OccupiedExcept (s.deletePdnConnection ebc sp) ebc := by
  intro imsi other different known
  obtain ⟨key, sp', present⟩ := occupied imsi other different known
  refine ⟨key, sp', ?_⟩
  rw [connections_deletePdnConnection]
  exact ⟨present, fun here => absurd here different⟩

/-- A request that is handed to a context leaves it with a connection: the new
one, or the one that was in its way. -/
theorem create_in_context (agree : Agree (s.entered ebc request))
    (anchored : Anchored (s.entered ebc request) ebc)
    (occupied : OccupiedExcept (s.entered ebc request) ebc)
    (found : s.generateS5s8CpTeid.1 ≠ 0)
    (handled : s.createSessionInContext ebc request = some (t, events)) :
    Agree t ∧ Occupied t ∧
      t.imsi2sgwEpsBearerContext = (s.entered ebc request).imsi2sgwEpsBearerContext ∧
      (s.entered ebc request).nextAddress ≤ t.nextAddress := by
  obtain ⟨c, reached, outcome⟩ := createSessionInContext_cases handled
  rw [agree.runContext anchored] at reached
  cases reached
  rcases outcome with ⟨same, present⟩ | ⟨middle, same, absent, added⟩
  · obtain ⟨sp, there⟩ := exists_of_mem (ExtTreeMap.contains_iff_mem.mp present)
    have there : (t.contexts ebc).pdnConnections[(request.apn, request.pdnType)]? = some sp := by
      rw [same.connections]
      exact there
    exact ⟨agree.same same, (occupied.same same).occupied there, same.imsiMap, same.nextAddress⟩
  · have generated : middle.generateS5s8CpTeid = s.generateS5s8CpTeid := by
      have entered : (s.entered ebc request).generateS5s8CpTeid = s.generateS5s8CpTeid := by
        unfold State.entered
        split <;> rfl
      rw [← entered]
      unfold generateS5s8CpTeid
      rw [same.s5s8Map, same.s5s8Counter]
    rw [← generated] at found
    have there : (t.contexts ebc).pdnConnections[(request.apn, request.pdnType)]? =
        some middle.nextAddress := by
      rw [added.contexts, Function.update_self]
      exact ExtTreeMap.getElem?_insert_self
    have others : OccupiedExcept t ebc := by
      intro imsi other different known
      rw [added.imsiMap] at known
      rw [added.contexts, Function.update_of_ne different]
      exact occupied.same same imsi other different known
    refine ⟨(agree.same same).added (anchored.same same) absent found added,
      others.occupied there, added.imsiMap.trans same.imsiMap, ?_⟩
    rw [added.nextAddress]
    exact same.nextAddress.trans (Nat.le_succ _)

theorem Agree.anchored_of_route (agree : Agree s) {ebi : Option Nat}
    (routed : s.route request = .context ebc ebi) : Anchored s ebc := by
  rcases route_context routed with ⟨imsi, known⟩ | ⟨teid, known⟩
  · exact agree.anchored known
  · exact (agree.s11s teid ebc known).2.2

theorem Anchored.deletePdnConnection (anchored : Anchored s ebc) :
    Anchored (s.deletePdnConnection ebc sp) ebc := by
  unfold Anchored
  rw [imsi_deletePdnConnection]
  exact anchored

/-- What the code relies on: there is a free TEID when a request needs one. The
S11 TEID is generated for a new context only. -/
def FindsTeids (s : State) : Action → Prop
  | .createSession request =>
      ∀ base ebc, s.handed request = some (base, ebc) →
        ((base.contexts ebc).sgwFteidS11S4Cp.teidGreKey = 0 →
          FreeTeid (fun teid => base.s11lteid2sgwEpsBearerContext.contains teid) base.teidS11Cp) ∧
        FreeTeid (fun teid => base.s5s8lteid2sgwContexts.contains teid) base.teidS5s8Cp
  | _ => True

/-- Either the request has no effect on the tables, or the IMSI map got at most
one new entry, for an unknown IMSI and a new context. -/
theorem agree_create (agree : Agree s) (occupied : Occupied s)
    (finds : FindsTeids s (.createSession request))
    (handled : s.handleCreateSessionRequest request = some (t, events)) :
    Agree t ∧ Occupied t ∧ s.nextAddress ≤ t.nextAddress ∧
      ∀ imsi ebc : Nat, t.imsi2sgwEpsBearerContext[imsi]? = some ebc →
        s.imsi2sgwEpsBearerContext[imsi]? = some ebc ∨ s.nextAddress ≤ ebc := by
  rcases create_cases handled with same | ⟨base, ebc, more, reached, created⟩
  · rw [same]
    exact ⟨agree, occupied, le_rfl, fun imsi ebc known => .inl known⟩
  · have findsS11 := fun new => generateTeid_ne_zero ((finds base ebc reached).1 new)
    have findsS5s8 := generateTeid_ne_zero (finds base ebc reached).2
    unfold handed at reached
    split at reached
    · next imsi routed =>
        cases reached
        obtain ⟨own, unknown⟩ := route_newContext routed
        have new : ((s.addContext imsi).contexts s.nextAddress).sgwFteidS11S4Cp.teidGreKey = 0 := by
          simp only [addContext, setContext, Function.update_self]
        have entered := agree.entered_addContext unknown own (findsS11 new)
        have imsiMap : ((s.addContext imsi).entered s.nextAddress request).imsi2sgwEpsBearerContext =
            s.imsi2sgwEpsBearerContext.insert imsi s.nextAddress := by
          unfold State.entered
          split <;> rfl
        have anchored : Anchored ((s.addContext imsi).entered s.nextAddress request)
            s.nextAddress := by
          apply entered.anchored
          rw [imsiMap]
          exact ExtTreeMap.getElem?_insert_self
        have others : OccupiedExcept ((s.addContext imsi).entered s.nextAddress request)
            s.nextAddress := by
          intro imsi' other different known
          rw [imsiMap] at known
          rcases getElem?_insert_eq_some.mp known with ⟨-, here⟩ | ⟨-, before⟩
          · exact absurd here different
          · have same : ((s.addContext imsi).entered s.nextAddress request).contexts other =
                s.contexts other := by
              unfold State.entered
              split <;> simp only [addContext, setContext, Function.update_of_ne different]
            rw [same]
            exact occupied imsi' other before
        have later : ((s.addContext imsi).entered s.nextAddress request).nextAddress =
            s.nextAddress + 1 := by
          unfold State.entered
          split <;> rfl
        obtain ⟨after, full, sameMap, next⟩ :=
          create_in_context entered anchored others findsS5s8 created
        refine ⟨after, full, ?_, ?_⟩
        · rw [later] at next
          exact (Nat.le_succ _).trans next
        · intro imsi' other known
          rw [sameMap, imsiMap] at known
          rcases getElem?_insert_eq_some.mp known with ⟨-, here⟩ | ⟨-, before⟩
          · exact .inr here.ge
          · exact .inl before
    · next ebc ebi routed =>
        cases reached
        have anchored := agree.anchored_of_route routed
        have cleared : Agree (s.clearCollision ebc ebi).1 ∧
            Anchored (s.clearCollision ebc ebi).1 ebc ∧
            OccupiedExcept (s.clearCollision ebc ebi).1 ebc ∧
            (s.clearCollision ebc ebi).1.imsi2sgwEpsBearerContext = s.imsi2sgwEpsBearerContext ∧
            s.nextAddress ≤ (s.clearCollision ebc ebi).1.nextAddress := by
          rcases clearCollision_cases with same | ⟨asked, sp, key, same, present, deleted⟩
          · rw [same]
            exact ⟨agree, anchored, occupied.except, rfl, le_rfl⟩
          · rw [deleted]
            rw [← same.connections] at present
            exact ⟨(agree.same same).deletePdnConnection present,
              (anchored.same same).deletePdnConnection,
              (occupied.except.same same).deletePdnConnection, same.imsiMap, same.nextAddress⟩
        obtain ⟨agree, anchored, others, imsiMap, before⟩ := cleared
        have same := agree.sameTables_entered anchored request
        obtain ⟨after, full, sameMap, next⟩ := create_in_context (agree.same same)
          (anchored.same same) (others.same same) findsS5s8 created
        refine ⟨after, full, before.trans (same.nextAddress.trans next), ?_⟩
        intro imsi other known
        rw [sameMap, same.imsiMap, imsiMap] at known
        exact .inl known
    · cases reached
    · cases reached
    · cases reached

/-! ### Responses -/

theorem agree_trims (agree : Agree s) (occupied : Occupied s)
    (routed : s.s5s8lteid2sgwContexts[teid]? = some (ebc, sp)) (trims : Trims s ebc sp t) :
    Agree t ∧ Anchored t ebc ∧ OccupiedExcept t ebc ∧
      t.imsi2sgwEpsBearerContext = s.imsi2sgwEpsBearerContext ∧ s.nextAddress ≤ t.nextAddress := by
  have present := (agree.routed teid ebc sp routed).2
  have anchored : Anchored s ebc := (agree.held ebc _ sp present).2.2.1
  rcases trims with same | ⟨middle, same, after⟩
  · exact ⟨agree.same same, anchored.same same, occupied.except.same same, same.imsiMap,
      same.nextAddress⟩
  · rw [← same.connections] at present
    exact ⟨((agree.same same).deletePdnConnection present).same after,
      (anchored.same same).deletePdnConnection.same after,
      (occupied.except.same same).deletePdnConnection.same after,
      after.imsiMap.trans same.imsiMap, same.nextAddress.trans after.nextAddress⟩

/-- A context is deleted when, and only when, its last connection is. -/
theorem agree_cleaned (agree : Agree s) (occupied : Occupied s)
    (cleaned : Cleaned s t events ebc sp) :
    Agree t ∧ Occupied t ∧ s.nextAddress ≤ t.nextAddress ∧
      (∀ imsi other : Nat, t.imsi2sgwEpsBearerContext[imsi]? = some other →
        s.imsi2sgwEpsBearerContext[imsi]? = some other) ∧
      ∀ deleted, .contextDeleted deleted ∈ events →
        Anchored s deleted ∧ ∀ imsi : Nat, t.imsi2sgwEpsBearerContext[imsi]? ≠ some deleted := by
  obtain ⟨⟨teid, routed⟩, middle, sent, trims, quiet, after⟩ := cleaned
  have present := (agree.routed teid ebc sp routed).2
  have known : Anchored s ebc := (agree.held ebc _ sp present).2.2.1
  obtain ⟨agree, anchored, others, imsiMap, later⟩ := agree_trims agree occupied routed trims
  unfold cleanup at after
  split at after
  · next none =>
      simp only [Prod.mk.injEq] at after
      rw [← after.1, ← after.2]
      have erased : (middle.deleteSgwEpsBearerContext ebc).imsi2sgwEpsBearerContext =
          middle.imsi2sgwEpsBearerContext.erase (middle.contexts ebc).imsi := by
        rw [deleteSgwEpsBearerContext_eq none]
      have unmapped : ∀ imsi : Nat,
          (middle.deleteSgwEpsBearerContext ebc).imsi2sgwEpsBearerContext[imsi]? ≠ some ebc := by
        intro imsi mapped
        rw [erased] at mapped
        obtain ⟨different, before⟩ := getElem?_erase_eq_some.mp mapped
        exact different (agree.imsis imsi ebc before).1.symm
      refine ⟨agree.deleteContext anchored none, ?_, ?_, ?_, ?_⟩
      · intro imsi other mapped
        have different : other ≠ ebc := fun here => unmapped imsi (here ▸ mapped)
        rw [erased] at mapped
        obtain ⟨key, sp', there⟩ := others imsi other different (getElem?_of_erase mapped)
        refine ⟨key, sp', ?_⟩
        rw [deleteSgwEpsBearerContext_eq none]
        simp only [Function.update_of_ne different]
        exact there
      · rw [deleteSgwEpsBearerContext_eq none]
        exact later
      · intro imsi other mapped
        rw [erased] at mapped
        rw [← imsiMap]
        exact getElem?_of_erase mapped
      · intro deleted member
        rcases List.mem_append.mp member with before | last
        · exact absurd before (quiet deleted)
        · cases List.mem_singleton.mp last
          exact ⟨known, unmapped⟩
  · next some =>
      cases after
      obtain ⟨key, sp', there⟩ := exists_of_size_ne_zero some
      refine ⟨agree, others.occupied there, later, ?_, fun deleted member => ?_⟩
      · intro imsi other mapped
        rw [← imsiMap]
        exact mapped
      · exact absurd member (quiet deleted)

/-! ### Runs -/

/-- No entry of the tables leads to a deleted context. -/
def Gone (past : List Event) (s : State) : Prop :=
  ∀ ebc, .contextDeleted ebc ∈ past →
    ebc < s.nextAddress ∧ ∀ imsi : Nat, s.imsi2sgwEpsBearerContext[imsi]? ≠ some ebc

/-- Contexts stay deleted: the IMSI map gets entries for new contexts only. -/
theorem Gone.step {past : List Event} (gone : Gone past s) (later : s.nextAddress ≤ t.nextAddress)
    (entries : ∀ imsi ebc : Nat, t.imsi2sgwEpsBearerContext[imsi]? = some ebc →
      s.imsi2sgwEpsBearerContext[imsi]? = some ebc ∨ s.nextAddress ≤ ebc)
    (deleted : ∀ ebc, .contextDeleted ebc ∈ events → ebc < s.nextAddress ∧
      ∀ imsi : Nat, t.imsi2sgwEpsBearerContext[imsi]? ≠ some ebc) :
    Gone (past ++ events) t := by
  intro ebc member
  rcases List.mem_append.mp member with before | now
  · obtain ⟨older, unmapped⟩ := gone ebc before
    refine ⟨older.trans_le later, fun imsi mapped => ?_⟩
    rcases entries imsi ebc mapped with known | new
    · exact unmapped imsi known
    · exact absurd older new.not_gt
  · obtain ⟨older, unmapped⟩ := deleted ebc now
    exact ⟨older.trans_le later, unmapped⟩

/-- What the tables have in common along a run. -/
structure Tables (past : List Event) (s : State) : Prop where
  agree : Agree s
  occupied : Occupied s
  gone : Gone past s

theorem tables_init : Tables [] init :=
  ⟨agree_init, occupied_init, fun _ member => absurd member List.not_mem_nil⟩

theorem Tables.step {past : List Event} {action : Action} (tables : Tables past s)
    (finds : FindsTeids s action) (taken : Sgw.step s action = some (t, events)) :
    Tables (past ++ events) t := by
  obtain ⟨agree, occupied, gone⟩ := tables
  have cleaned : (t = s ∧ events = []) ∨ (∃ ebc sp, Cleaned s t events ebc sp) →
      Tables (past ++ events) t := by
    rintro (⟨rfl, rfl⟩ | ⟨ebc, sp, cleaned⟩)
    · rw [List.append_nil]
      exact ⟨agree, occupied, gone⟩
    · obtain ⟨agree', occupied', later, entries, deleted⟩ := agree_cleaned agree occupied cleaned
      refine ⟨agree', occupied', gone.step later (fun imsi ebc mapped => ?_) fun ebc member => ?_⟩
      · exact .inl (entries imsi ebc mapped)
      · obtain ⟨anchored, unmapped⟩ := deleted ebc member
        exact ⟨(agree.imsis _ ebc anchored).2.2, unmapped⟩
  cases changes : changesTables action with
  | false =>
      have same := sameTables_step changes taken
      refine ⟨agree.same same, occupied.same same,
        gone.step same.nextAddress (fun imsi ebc mapped => ?_) fun ebc member => ?_⟩
      · rw [same.imsiMap] at mapped
        exact .inl mapped
      · have sent := sends_of_step taken member
        cases action <;> cases changes <;> cases sent
  | true =>
      cases action with
      | createSession request =>
          obtain ⟨agree', occupied', later, entries⟩ := agree_create agree occupied finds taken
          refine ⟨agree', occupied', gone.step later entries fun ebc member => ?_⟩
          exact absurd (sends_of_step taken member) Bool.false_ne_true
      | createSessionResponse csresp => exact cleaned (cleaned_createSessionResponse taken)
      | deleteSessionResponse dsresp => exact cleaned (cleaned_deleteSessionResponse taken)
      | remotePeerNotResponding resp =>
          exact cleaned (cleaned_remotePeerNotResponding (Option.some.inj taken))
      | modifyBearer request uids => cases changes
      | releaseAccessBearers request => cases changes
      | deleteSession request => cases changes
      | downlinkDataNotificationAcknowledge ack => cases changes
      | modifyBearerResponse s5resp => cases changes
      | releaseAccessBearersResponse s5resp => cases changes
      | downlinkDataNotification ddn => cases changes

/-- The three tables are consistent, and lead to no context that was deleted. -/
structure TablesAgree (past : List Event) (s : State) : Prop where
  /-- A key of the S5/S8 table is the local TEID of a connection that the context
  it leads to holds. -/
  s5s8 : ∀ teid ebc sp : Nat, s.s5s8lteid2sgwContexts[teid]? = some (ebc, sp) ↔
    (∃ key : Kpdn, (s.contexts ebc).pdnConnections[key]? = some sp) ∧ s.teidOf sp = teid
  /-- The IMSI map and the S11 map lead to the same context. -/
  imsis : ∀ imsi ebc : Nat, s.imsi2sgwEpsBearerContext[imsi]? = some ebc →
    (s.contexts ebc).imsi = imsi ∧
      s.s11lteid2sgwEpsBearerContext[(s.contexts ebc).sgwFteidS11S4Cp.teidGreKey]? = some ebc
  s11s : ∀ teid ebc : Nat, s.s11lteid2sgwEpsBearerContext[teid]? = some ebc →
    (s.contexts ebc).sgwFteidS11S4Cp.teidGreKey = teid ∧
      s.imsi2sgwEpsBearerContext[(s.contexts ebc).imsi]? = some ebc
  gone : ∀ ebc, .contextDeleted ebc ∈ past →
    (∀ imsi : Nat, s.imsi2sgwEpsBearerContext[imsi]? ≠ some ebc) ∧
      (∀ teid : Nat, s.s11lteid2sgwEpsBearerContext[teid]? ≠ some ebc) ∧
      ∀ teid sp : Nat, s.s5s8lteid2sgwContexts[teid]? ≠ some (ebc, sp)

theorem Tables.tablesAgree {past : List Event} (tables : Tables past s) : TablesAgree past s where
  s5s8 teid ebc sp := by
    constructor
    · intro route
      obtain ⟨own, there⟩ := tables.agree.routed teid ebc sp route
      exact ⟨⟨_, there⟩, own⟩
    · rintro ⟨⟨key, there⟩, own⟩
      rw [← own]
      exact (tables.agree.held ebc key sp there).2.1
  imsis imsi ebc known := by
    obtain ⟨own, back, -⟩ := tables.agree.imsis imsi ebc known
    exact ⟨own, back⟩
  s11s teid ebc known := by
    obtain ⟨own, -, back⟩ := tables.agree.s11s teid ebc known
    exact ⟨own, back⟩
  gone ebc deleted := by
    obtain ⟨-, unmapped⟩ := tables.gone ebc deleted
    refine ⟨unmapped, fun teid known => ?_, fun teid sp route => ?_⟩
    · exact unmapped _ (tables.agree.s11s teid ebc known).2.2
    · exact unmapped _ (tables.agree.held ebc _ sp (tables.agree.routed teid ebc sp route).2).2.2.1

/-! ### A UE attaches -/

/-- The Create Session Request with which a UE attaches. -/
def attachRequest (imsi : Nat) : CreateSessionRequest where
  imsi := some imsi
  senderFteidForCp := { v4 := true, interfaceType := s11MmeGtpC, teidGreKey := 1 }
  apn := "internet"
  pdnType := 1
  bearerContextsToBeCreated := [5]

/-- The context of the UE is in the tables and its procedure started. -/
def attaching (s : State) (imsi : Nat) : State :=
  ((s.addContext imsi).entered s.nextAddress (attachRequest imsi)).insertProcedure s.nextAddress 0
    s.nextAddress (.createSession (attachRequest imsi))

/-- The state after a UE that is not known has attached. -/
def attached (s : State) (imsi : Nat) : State :=
  (s.attaching imsi).withNewPdnConnection s.nextAddress (attachRequest imsi) 5

theorem step_attach (unknown : s.imsi2sgwEpsBearerContext[imsi]? = none) :
    ∃ events, step s (.createSession (attachRequest imsi)) = some (s.attached imsi, events) := by
  have routed : s.route (attachRequest imsi) = .newContext imsi := by
    simp [route, attachRequest, unknown, s11MmeGtpC]
  have reached : ((s.addContext imsi).entered s.nextAddress (attachRequest imsi)).runContext
      s.nextAddress = some s.nextAddress := by
    simp [entered, addContext, setContext, runContext, s11CpFteid]
  have empty : ((s.attaching imsi).contexts s.nextAddress).pdnConnections = ∅ := by
    simp [attaching, entered, addContext, setContext, insertProcedure]
  have ran : ∀ sender, ∃ events, (s.attaching imsi).runCreateSession s.nextAddress sender
      (attachRequest imsi) = some (some (s.attached imsi, events)) := by
    intro sender
    unfold runCreateSession
    rw [empty, ExtTreeMap.contains_empty, if_neg Bool.false_ne_true]
    exact ⟨_, rfl⟩
  obtain ⟨events, ran⟩ := ran
    ((s.addContext imsi).entered s.nextAddress (attachRequest imsi)).nextAddress
  refine ⟨events, ?_⟩
  simp only [step, handleCreateSessionRequest, routed, createSessionInContext, reached]
  unfold attaching at ran
  have transaction : (attachRequest imsi).gtpcTxId = 0 := rfl
  rw [transaction, ran]

theorem tables_agree {records : List (StepRecord State Action Event)} {finish : State}
    (run : Run step init records finish)
    (finds : ∀ record ∈ records, FindsTeids record.before record.action) :
    TablesAgree (trace records) finish :=
  (run.history_invariant Tables FindsTeids tables_init
    (fun _ _ _ _ _ tables finds taken => tables.step finds taken) finds).tablesAgree

/-- A UE attaches, the PGW does not answer, and its context is deleted. -/
theorem tables_agree_of_silence :
    ∃ records finish, Run step init records finish ∧ .contextDeleted 0 ∈ trace records ∧
      TablesAgree (trace records) finish := by
  have unknown : init.imsi2sgwEpsBearerContext[1]? = none := ExtTreeMap.getElem?_empty
  obtain ⟨events, taken⟩ := step_attach unknown
  have silence : step (init.attached 1) (.remotePeerNotResponding ⟨0, 1⟩) =
      some (((init.attached 1).handleRemotePeerNotResponding ⟨0, 1⟩).1,
        ((init.attached 1).handleRemotePeerNotResponding ⟨0, 1⟩).2) := rfl
  have run := ((Run.initial step init).andThen _ taken).andThen _ silence
  refine ⟨_, _, run, ?_, tables_agree run ?_⟩
  · rw [trace_append, trace_singleton]
    exact List.mem_append_right _ (by decide)
  · intro record member
    simp only [List.nil_append, List.mem_append, List.mem_singleton] at member
    rcases member with rfl | rfl
    · have routed : init.route (attachRequest 1) = .newContext 1 := by decide
      intro base ebc reached
      simp only [handed, routed, Option.some.injEq, Prod.mk.injEq] at reached
      rw [← reached.1]
      exact ⟨fun _ => ⟨1, by decide⟩, 1, by decide⟩
    · trivial

/-! ### Without a free TEID -/

/-- `n` UEs have attached and have the TEIDs `1` to `n`. -/
structure Crowd (n : Nat) (s : State) : Prop where
  s11Counter : s.teidS11Cp = n
  s5s8Counter : s.teidS5s8Cp = n
  s11s : ∀ teid, s.s11lteid2sgwEpsBearerContext.contains teid = true ↔ 0 < teid ∧ teid ≤ n
  s5s8s : ∀ teid, s.s5s8lteid2sgwContexts.contains teid = true ↔ 0 < teid ∧ teid ≤ n
  imsis : ∀ imsi, s.imsi2sgwEpsBearerContext.contains imsi = true ↔ imsi < n

theorem s11Map_attached :
    (s.attached imsi).s11lteid2sgwEpsBearerContext =
      s.s11lteid2sgwEpsBearerContext.insert s.generateS11CpTeid.1 s.nextAddress := by
  simp [attached, attaching, withNewPdnConnection, insertProcedure, setContext, entered, addContext,
    generateS11CpTeid]

theorem imsiMap_attached :
    (s.attached imsi).imsi2sgwEpsBearerContext =
      s.imsi2sgwEpsBearerContext.insert imsi s.nextAddress := by
  simp [attached, attaching, withNewPdnConnection, insertProcedure, setContext, entered, addContext]

theorem s5s8Map_attached :
    (s.attached imsi).s5s8lteid2sgwContexts = s.s5s8lteid2sgwContexts.insert
      s.generateS5s8CpTeid.1 (s.nextAddress, (s.attaching imsi).nextAddress) := by
  simp [attached, attaching, withNewPdnConnection, insertProcedure, setContext, entered, addContext,
    generateS5s8CpTeid]

theorem counters_attached :
    (s.attached imsi).teidS11Cp = s.generateS11CpTeid.2 ∧
      (s.attached imsi).teidS5s8Cp = s.generateS5s8CpTeid.2 := by
  simp [attached, attaching, withNewPdnConnection, insertProcedure, setContext, entered, addContext,
    generateS5s8CpTeid, generateS11CpTeid]

theorem nextAddress_attached : s.nextAddress < (s.attached imsi).nextAddress := by
  have entered : ((s.addContext imsi).entered s.nextAddress (attachRequest imsi)).nextAddress =
      s.nextAddress + 1 := by
    unfold State.entered
    split <;> rfl
  simp only [attached, attaching, withNewPdnConnection, insertProcedure, entered]
  omega

theorem s11Teid_attached :
    ((s.attached imsi).contexts s.nextAddress).sgwFteidS11S4Cp.teidGreKey =
      s.generateS11CpTeid.1 := by
  simp [attached, attaching, withNewPdnConnection, insertProcedure, setContext, entered, addContext,
    generateS11CpTeid, s11CpFteid]

theorem contexts_attached (different : ebc ≠ s.nextAddress) :
    (s.attached imsi).contexts ebc = s.contexts ebc := by
  simp [attached, attaching, withNewPdnConnection, insertProcedure, setContext, entered, addContext,
    different]

/-- The next TEID is taken as long as there is one. -/
theorem generateTeid_next {used : Nat → Bool} {n : Nat} (room : n + 1 < 2 ^ 32)
    (unused : used (n + 1) = false) : generateTeid used n = (n + 1, n + 1) := by
  have turns : 2 ^ 32 = 4294967295 + 1 := by norm_num
  unfold generateTeid
  rw [Nat.mod_eq_of_lt room, turns, generateTeidLoop, unused, Bool.false_or, if_neg]
  rw [beq_iff_eq]
  exact Nat.succ_ne_zero n

theorem Crowd.attach {n : Nat} (crowd : Crowd n s) (room : n + 1 < 2 ^ 32) :
    Crowd (n + 1) (s.attached n) := by
  have s11 : s.generateS11CpTeid = (n + 1, n + 1) := by
    unfold generateS11CpTeid
    rw [crowd.s11Counter]
    apply generateTeid_next room
    rw [Bool.eq_false_iff, ne_eq, crowd.s11s]
    omega
  have s5s8 : s.generateS5s8CpTeid = (n + 1, n + 1) := by
    unfold generateS5s8CpTeid
    rw [crowd.s5s8Counter]
    apply generateTeid_next room
    rw [Bool.eq_false_iff, ne_eq, crowd.s5s8s]
    omega
  constructor
  · rw [counters_attached.1, s11]
  · rw [counters_attached.2, s5s8]
  · intro teid
    rw [s11Map_attached, s11, ExtTreeMap.contains_insert, Bool.or_eq_true, crowd.s11s,
      beq_iff_eq, compare_eq_iff_eq]
    omega
  · intro teid
    rw [s5s8Map_attached, s5s8, ExtTreeMap.contains_insert, Bool.or_eq_true, crowd.s5s8s,
      beq_iff_eq, compare_eq_iff_eq]
    omega
  · intro imsi
    rw [imsiMap_attached, ExtTreeMap.contains_insert, Bool.or_eq_true, crowd.imsis,
      beq_iff_eq, compare_eq_iff_eq]
    omega

theorem Crowd.unknown {n : Nat} (crowd : Crowd n s) (new : n ≤ imsi) :
    s.imsi2sgwEpsBearerContext[imsi]? = none := by
  rw [getElem?_eq_none_iff, ← ExtTreeMap.contains_iff_mem, crowd.imsis]
  exact new.not_gt

/-- There are runs to any number of UEs below `2 ^ 32`. -/
theorem exists_crowd (n : Nat) (room : n < 2 ^ 32) :
    ∃ records s, Run step init records s ∧ Crowd n s := by
  induction n with
  | zero =>
      refine ⟨[], init, .nil, rfl, rfl, fun teid => ?_, fun teid => ?_, fun imsi => ?_⟩
      all_goals
        simp only [init, ExtTreeMap.contains_empty, Bool.false_eq_true, false_iff]
        omega
  | succ n inductionHypothesis =>
      obtain ⟨records, s, run, crowd⟩ := inductionHypothesis (Nat.lt_of_succ_lt room)
      obtain ⟨events, taken⟩ := step_attach (crowd.unknown le_rfl)
      exact ⟨_, _, run.andThen _ taken, crowd.attach room⟩

/-- When all S11 TEIDs are in use, the UEs that attach next get TEID zero. -/
theorem generateS11CpTeid_eq_zero
    (all : ∀ teid, 0 < teid → teid < 2 ^ 32 → s.s11lteid2sgwEpsBearerContext.contains teid = true) :
    s.generateS11CpTeid.1 = 0 :=
  generateTeidLoop_eq_zero all (Nat.mod_lt _ (by norm_num))

/-- After `2 ^ 32 - 1` UEs, two more share the TEID zero, and the S11 map has the
last one only. -/
theorem exhausted_teids_clash :
    ∃ records finish, Run step init records finish ∧ ¬TablesAgree (trace records) finish := by
  obtain ⟨records, s, run, crowd⟩ := exists_crowd 4294967295 (by norm_num)
  have all : ∀ teid, 0 < teid → teid < 2 ^ 32 →
      s.s11lteid2sgwEpsBearerContext.contains teid = true := by
    intro teid positive bounded
    rw [crowd.s11s]
    omega
  obtain ⟨events, taken⟩ := step_attach (crowd.unknown le_rfl)
  generalize first : s.attached 4294967295 = t at taken
  have s11Map : t.s11lteid2sgwEpsBearerContext =
      s.s11lteid2sgwEpsBearerContext.insert 0 s.nextAddress := by
    rw [← first, s11Map_attached, generateS11CpTeid_eq_zero all]
  have imsiMap : t.imsi2sgwEpsBearerContext =
      s.imsi2sgwEpsBearerContext.insert 4294967295 s.nextAddress := by
    rw [← first, imsiMap_attached]
  have still : ∀ teid, 0 < teid → teid < 2 ^ 32 →
      t.s11lteid2sgwEpsBearerContext.contains teid = true := by
    intro teid positive bounded
    rw [s11Map, ExtTreeMap.contains_insert, all teid positive bounded, Bool.or_true]
  have unknown : t.imsi2sgwEpsBearerContext[4294967296]? = none := by
    rw [imsiMap, ExtTreeMap.getElem?_insert, crowd.unknown (by norm_num)]
    rfl
  obtain ⟨more, second⟩ := step_attach unknown
  refine ⟨_, _, (run.andThen _ taken).andThen _ second, fun agree => ?_⟩
  -- The context of the first of the two is in the IMSI map with the TEID zero.
  have mapped : (t.attached 4294967296).imsi2sgwEpsBearerContext[4294967295]? =
      some s.nextAddress := by
    rw [imsiMap_attached, imsiMap, getElem?_insert_eq_some]
    exact .inr ⟨by norm_num, ExtTreeMap.getElem?_insert_self⟩
  have later : s.nextAddress < t.nextAddress := by
    rw [← first]
    exact nextAddress_attached
  have zero : ((t.attached 4294967296).contexts s.nextAddress).sgwFteidS11S4Cp.teidGreKey = 0 := by
    rw [contexts_attached later.ne, ← first, s11Teid_attached, generateS11CpTeid_eq_zero all]
  -- The S11 map has the context of the second one for it.
  have back := (agree.imsis _ _ mapped).2
  rw [zero, s11Map_attached, generateS11CpTeid_eq_zero still,
    ExtTreeMap.getElem?_insert_self] at back
  exact later.ne' (Option.some.inj back)

end State

end OpenairSpgwc.Sgw
