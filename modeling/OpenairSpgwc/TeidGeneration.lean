import OpenairSpgwc.Common.UidHistory
import OpenairSpgwc.Pgw.Context
import OpenairSpgwc.Sgw.Maps

/-!
Contract: the TEIDs that the two gateways draw for their control planes.

The loop of the PGW has no bound. The loops of the SGW stop when the counter is
back at the value it had before the call, and that value is not tried.

Owns:
- that the loop of the PGW finds a free TEID if there is one;
- that the loops of the SGW end, what they find, and when they find nothing
  though a TEID is free.
-/

namespace OpenairSpgwc

open OpenairSpgwc.Common
open OpenairSpgwc.Foundation
open Std (ExtTreeMap)

/-- A TEID that is assigned to nobody. -/
def Assignable (used : Nat → Bool) (teid : Nat) : Prop :=
  0 < teid ∧ teid < 2 ^ 32 ∧ used teid = false

instance (used : Nat → Bool) (teid : Nat) : Decidable (Assignable used teid) :=
  inferInstanceAs (Decidable (0 < teid ∧ teid < 2 ^ 32 ∧ used teid = false))

/-- A generator that returned `teid` has skipped no TEID. -/
def Complete (used : Nat → Bool) (teid : Nat) : Prop :=
  (∃ free, Assignable used free) → Assignable used teid

namespace Pgw

/-- The TEIDs that `is_s5s8c_teid_exist` finds. -/
def State.s5s8cTeidExists (s : State) (teid : Nat) : Bool := decide (teid ∈ s.s5s8cplteid)

/-- The call returns, with a TEID that nobody has, if there is one. -/
def State.GeneratesS5s8 (s : State) : Prop :=
  (∃ free, Assignable s.s5s8cTeidExists free) →
    ∃ teid next, s.generateS5s8CpTeid = some (teid, next) ∧ Assignable s.s5s8cTeidExists teid

theorem generatesS5s8 (s : State) : s.GeneratesS5s8 := by
  rintro ⟨free, positive, small, unused⟩
  have notMember : free ∉ insert 0 s.s5s8cplteid := by
    rw [Finset.mem_insert, not_or]
    exact ⟨by omega, of_decide_eq_false unused⟩
  obtain ⟨turns, _, found, yes, _⟩ :=
    @exists_cyclicSearch _ (fun teid => decide (teid ∉ insert 0 s.s5s8cplteid))
      (s.teidS5s8CpGenerator + 1) free small (decide_eq_true notMember)
  rw [← UintGenerator.getUidLoop_eq_cyclicSearch] at found
  have fresh := of_decide_eq_true yes
  rw [Finset.mem_insert, not_or] at fresh
  refine ⟨_, _, by rw [State.generateS5s8CpTeid, found], Nat.pos_of_ne_zero fresh.1, ?_, ?_⟩
  · exact Nat.mod_lt _ (by norm_num)
  · exact decide_eq_false fresh.2

end Pgw

namespace Sgw

section Loop

variable {used : Nat → Bool} {counter : Nat}

/-- The counter is back before the turns run out: more of them change nothing. -/
theorem generateTeidLoop_more (small : counter < 2 ^ 32) (more : Nat) {turned turns : Nat}
    (left : turned + turns = 2 ^ 32) (ahead : turned + 1 < 2 ^ 32) :
    generateTeidLoop used counter (turns + more) ((counter + 1 + turned) % 2 ^ 32) =
      generateTeidLoop used counter turns ((counter + 1 + turned) % 2 ^ 32) := by
  induction turns generalizing turned with
  | zero => omega
  | succ turns inductionHypothesis =>
      rw [Nat.succ_add, generateTeidLoop, generateTeidLoop]
      cases used ((counter + 1 + turned) % 2 ^ 32) || (counter + 1 + turned) % 2 ^ 32 == 0 with
      | false => rfl
      | true =>
          rw [if_pos rfl, if_pos rfl]
          show (if counter = ((counter + 1 + turned) % 2 ^ 32 + 1) % 2 ^ 32 then _ else _) =
            (if counter = ((counter + 1 + turned) % 2 ^ 32 + 1) % 2 ^ 32 then _ else _)
          rw [next_turn]
          by_cases back : counter = (counter + 1 + (turned + 1)) % 2 ^ 32
          · rw [if_pos back, if_pos back]
          · rw [if_neg back, if_neg back]
            apply inductionHypothesis
            · omega
            · -- One turn later the counter would be back.
              omega

theorem generateTeidLoop_lt {loopDetectTeid turns teid : Nat} (small : teid < 2 ^ 32) :
    (generateTeidLoop used loopDetectTeid turns teid).1 < 2 ^ 32 := by
  induction turns generalizing teid with
  | zero => exact Nat.two_pow_pos 32
  | succ turns inductionHypothesis =>
      rw [generateTeidLoop]
      cases used teid || teid == 0 with
      | false => exact small
      | true =>
          show (if loopDetectTeid = (teid + 1) % 2 ^ 32 then (0, (teid + 1) % 2 ^ 32)
            else generateTeidLoop used loopDetectTeid turns ((teid + 1) % 2 ^ 32)).1 < 2 ^ 32
          by_cases back : loopDetectTeid = (teid + 1) % 2 ^ 32
          · rw [if_pos back]
            exact Nat.two_pow_pos 32
          · rw [if_neg back]
            exact inductionHypothesis (Nat.mod_lt _ (Nat.two_pow_pos 32))

/-- The value the counter had before is not tried. -/
theorem generateTeidLoop_skips {turns teid : Nat} (small : teid < 2 ^ 32) (away : teid ≠ counter)
    (others : ∀ teid, Assignable used teid → teid = counter) :
    (generateTeidLoop used counter turns teid).1 = 0 := by
  induction turns generalizing teid with
  | zero => rfl
  | succ turns inductionHypothesis =>
      have busy : (used teid || teid == 0) = true := by
        by_contra free
        rw [Bool.not_eq_true, Bool.or_eq_false_iff, beq_eq_false_iff_ne] at free
        exact away (others teid ⟨Nat.pos_of_ne_zero free.2, small, free.1⟩)
      rw [generateTeidLoop, busy, if_pos rfl]
      show (if counter = (teid + 1) % 2 ^ 32 then (0, (teid + 1) % 2 ^ 32)
        else generateTeidLoop used counter turns ((teid + 1) % 2 ^ 32)).1 = 0
      by_cases back : counter = (teid + 1) % 2 ^ 32
      · rw [if_pos back]
      · rw [if_neg back]
        exact inductionHypothesis (Nat.mod_lt _ (Nat.two_pow_pos 32)) (Ne.symm back)

/-- The loop ends, and what it returns is complete. -/
def Generates (used : Nat → Bool) (counter : Nat) : Prop :=
  (∀ more, generateTeidLoop used counter (2 ^ 32 + more) ((counter + 1) % 2 ^ 32) =
    generateTeid used counter) ∧
  Complete used (generateTeid used counter).1

/-- A TEID other than the last one is free, or none is. -/
def OtherFree (used : Nat → Bool) (counter : Nat) : Prop :=
  (∃ teid, Assignable used teid) → ∃ teid, Assignable used teid ∧ teid ≠ counter

theorem generates_iff (small : counter < 2 ^ 32) :
    Generates used counter ↔ OtherFree used counter := by
  constructor
  · rintro ⟨_, complete⟩ free
    by_contra noOther
    have others : ∀ teid, Assignable used teid → teid = counter := by
      intro teid assignable
      by_contra different
      exact noOther ⟨teid, assignable, different⟩
    have zero : (generateTeid used counter).1 = 0 :=
      generateTeidLoop_skips (Nat.mod_lt _ (Nat.two_pow_pos 32)) (by omega) others
    have positive := (complete free).1
    omega
  · intro other
    constructor
    · intro more
      exact generateTeidLoop_more small more (Nat.zero_add _) (by norm_num)
    · intro free
      obtain ⟨teid, ⟨positive, bounded, unused⟩, different⟩ := other free
      have found := generateTeid_ne_zero ⟨teid, positive, bounded, different, unused⟩
      refine ⟨Nat.pos_of_ne_zero found, ?_, generateTeidLoop_unused found⟩
      exact generateTeidLoop_lt (Nat.mod_lt _ (Nat.two_pow_pos 32))

end Loop

namespace State

/-- The TEIDs that `is_s11c_teid_exist` finds. -/
def s11cTeidExists (s : State) (teid : Nat) : Bool := s.s11lteid2sgwEpsBearerContext.contains teid

/-- The TEIDs that `is_s5s8c_teid_exist` finds. -/
def s5s8cTeidExists (s : State) (teid : Nat) : Bool := s.s5s8lteid2sgwContexts.contains teid

/-- `generate_s11_cp_teid` ends, and no free TEID is skipped. -/
def GeneratesS11 (s : State) : Prop :=
  (∀ more, generateTeidLoop s.s11cTeidExists s.teidS11Cp (2 ^ 32 + more)
    ((s.teidS11Cp + 1) % 2 ^ 32) = s.generateS11CpTeid) ∧
  Complete s.s11cTeidExists s.generateS11CpTeid.1

/-- `generate_s5s8_cp_teid` ends, and no free TEID is skipped. -/
def GeneratesS5s8 (s : State) : Prop :=
  (∀ more, generateTeidLoop s.s5s8cTeidExists s.teidS5s8Cp (2 ^ 32 + more)
    ((s.teidS5s8Cp + 1) % 2 ^ 32) = s.generateS5s8CpTeid) ∧
  Complete s.s5s8cTeidExists s.generateS5s8CpTeid.1

theorem generatesS11_iff (s : State) (small : s.teidS11Cp < 2 ^ 32) :
    s.GeneratesS11 ↔ OtherFree s.s11cTeidExists s.teidS11Cp :=
  generates_iff small

theorem generatesS5s8_iff (s : State) (small : s.teidS5s8Cp < 2 ^ 32) :
    s.GeneratesS5s8 ↔ OtherFree s.s5s8cTeidExists s.teidS5s8Cp :=
  generates_iff small

end State

end Sgw

/-- The three generators find a free TEID exactly when in the SGW the last TEID drawn is
not the only free one. -/
theorem teids_generated_iff (pgw : Pgw.State) (sgw : Sgw.State) (s11Small : sgw.teidS11Cp < 2 ^ 32)
    (s5s8Small : sgw.teidS5s8Cp < 2 ^ 32) :
    (pgw.GeneratesS5s8 ∧ sgw.GeneratesS11 ∧ sgw.GeneratesS5s8) ↔
      Sgw.OtherFree sgw.s11cTeidExists sgw.teidS11Cp ∧
        Sgw.OtherFree sgw.s5s8cTeidExists sgw.teidS5s8Cp := by
  rw [sgw.generatesS11_iff s11Small, sgw.generatesS5s8_iff s5s8Small]
  exact and_iff_right (Pgw.generatesS5s8 pgw)

/-- The counter is about to wrap, and the next TEIDs are in use. -/
def Pgw.wrapping : Pgw.State :=
  { Pgw.State.init [] with
    teidS5s8CpGenerator := 2 ^ 32 - 2
    s5s8cplteid := {2 ^ 32 - 1, 1, 2} }

def Sgw.wrapping : Sgw.State :=
  { Sgw.State.init with
    teidS11Cp := 2 ^ 32 - 2
    s11lteid2sgwEpsBearerContext := ExtTreeMap.ofList [(2 ^ 32 - 1, 0), (1, 1), (2, 2)]
    teidS5s8Cp := 2 ^ 32 - 3
    s5s8lteid2sgwContexts :=
      ExtTreeMap.ofList [(2 ^ 32 - 2, (0, 1)), (2 ^ 32 - 1, (1, 1)), (1, (2, 1))] }

/-- The generators go on behind the wrap. -/
theorem teids_generated_behind_wrap :
    (Pgw.wrapping.GeneratesS5s8 ∧ Sgw.wrapping.GeneratesS11 ∧ Sgw.wrapping.GeneratesS5s8) ∧
      Pgw.wrapping.generateS5s8CpTeid.map Prod.fst = some 3 ∧
      Sgw.wrapping.generateS11CpTeid.1 = 3 ∧ Sgw.wrapping.generateS5s8CpTeid.1 = 2 := by
  refine ⟨(teids_generated_iff Pgw.wrapping Sgw.wrapping (by decide) (by decide)).mpr
    ⟨fun _ => ⟨3, by decide, by decide⟩, fun _ => ⟨2, by decide, by decide⟩⟩, ?_, ?_, ?_⟩
  · decide
  · decide
  · decide

namespace Sgw

/-- All TEIDs below a bound, less one, with some context. -/
def teidsBelow (bound last : Nat) : ExtTreeMap Nat Nat :=
  ExtTreeMap.ofList (((List.range bound).filter (· ≠ last)).map fun teid => (teid, 0))

theorem contains_teidsBelow (bound last teid : Nat) :
    (teidsBelow bound last).contains teid = true ↔ teid < bound ∧ teid ≠ last := by
  rw [teidsBelow, ExtTreeMap.contains_ofList, List.contains_iff_mem, List.map_map]
  show teid ∈ List.map id ((List.range bound).filter (· ≠ last)) ↔ _
  rw [List.map_id, List.mem_filter, List.mem_range, decide_eq_true_iff]

/-- The TEID drawn last is free again, all others are in use. -/
def crowded : State :=
  { State.init with
    teidS11Cp := 5
    s11lteid2sgwEpsBearerContext := teidsBelow (2 ^ 32) 5 }

theorem s11cTeidExists_crowded (teid : Nat) :
    crowded.s11cTeidExists teid = true ↔ teid < 2 ^ 32 ∧ teid ≠ 5 :=
  contains_teidsBelow (2 ^ 32) 5 teid

theorem five_assignable : Assignable crowded.s11cTeidExists 5 := by
  refine ⟨by norm_num, by norm_num, Bool.eq_false_iff.mpr ?_⟩
  rw [ne_eq, s11cTeidExists_crowded]
  exact fun inUse => inUse.2 rfl

end Sgw

/-- The SGW finds no TEID though one is free. -/
theorem teid_not_generated :
    ¬((Pgw.State.init []).GeneratesS5s8 ∧
      Sgw.crowded.GeneratesS11 ∧ Sgw.crowded.GeneratesS5s8) := by
  rintro ⟨_, generates, _⟩
  have other := (Sgw.crowded.generatesS11_iff (by norm_num [Sgw.crowded])).mp generates
  obtain ⟨teid, ⟨_, small, unused⟩, different⟩ := other ⟨5, Sgw.five_assignable⟩
  have used := (Sgw.s11cTeidExists_crowded teid).mpr ⟨small, different⟩
  rw [unused] at used
  cases used

end OpenairSpgwc
