import Mathlib.Computability.StateTransition
import Mathlib.Tactic

/-!
Contract: walks of a partial function among finitely many points.

Owns: a walk ends exactly when no point on its way comes round to itself.
-/

namespace OpenairSpgwc.Foundation

open StateTransition

section Walks

variable {σ : Type*} {next : σ → Option σ} {start : σ}

/-- No point on the way comes round to itself. -/
def NeverRound (next : σ → Option σ) (start : σ) : Prop :=
  ∀ point, Reaches next start point → ¬Reaches₁ next point point

/-- A point that comes round goes on for ever. -/
theorem not_round_of_mem_eval {finish : σ} (ends : finish ∈ eval next start) :
    ¬Reaches₁ next start start := by
  refine @evalInduction σ next finish (fun point => ¬Reaches₁ next point point) start ends
    fun point _ inductionHypothesis round => ?_
  obtain ⟨after, step, back⟩ := Relation.TransGen.head'_iff.mp round
  exact inductionHypothesis after step (Relation.TransGen.tail' back step)

theorem neverRound_of_dom (ends : (eval next start).Dom) : NeverRound next start := by
  intro point reached
  have same := reaches_eval reached
  rw [same] at ends
  exact not_round_of_mem_eval (Part.get_mem ends)

theorem NeverRound.step (never : NeverRound next start) {after : σ}
    (step : next start = some after) : NeverRound next after :=
  fun point reached => never point (Relation.ReflTransGen.head step reached)

/-- Each step leaves a point behind for good. -/
theorem NeverRound.dom {points : Finset σ}
    (inside : ∀ point, Reaches next start point → point ∈ points)
    (never : NeverRound next start) : (eval next start).Dom := by
  classical
  induction points using Finset.strongInduction generalizing start with
  | H points inductionHypothesis =>
      cases step : next start with
      | none => exact (Part.dom_iff_mem).mpr ⟨start, mem_eval.mpr ⟨.refl, step⟩⟩
      | some after =>
          have here : start ∈ points := inside start .refl
          have fewer : points.erase start ⊂ points := Finset.erase_ssubset here
          have left : ∀ point, Reaches next after point → point ∈ points.erase start := by
            intro point reached
            apply Finset.mem_erase.mpr
            constructor
            · intro back
              rw [back] at reached
              exact never start .refl (Relation.TransGen.head' step reached)
            · exact inside point (Relation.ReflTransGen.head step reached)
          rw [reaches_eval (Relation.ReflTransGen.single step)]
          exact inductionHypothesis (points.erase start) fewer left (never.step step)

/-- Among finitely many points a walk ends or comes round. -/
theorem dom_eval_iff {points : Finset σ}
    (inside : ∀ point, Reaches next start point → point ∈ points) :
    (eval next start).Dom ↔ NeverRound next start :=
  ⟨neverRound_of_dom, fun never => never.dom inside⟩

end Walks

end OpenairSpgwc.Foundation
