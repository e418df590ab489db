import Mathlib.Tactic

/-!
Contract: searching the values of a counter that wraps around.

A search starts at some value below the modulus and goes up by one, modulo the
modulus, until a value is accepted. A loop with no bound of its own is given a
number of turns; as many turns as the modulus are enough, since the values come
round again after them.

Owns:
- the turns that lead from a start to a value;
- `cyclicSearch` and when it finds a value, and which one.
-/

namespace OpenairSpgwc.Foundation

/-- The first accepted value from `value` on, in a number of turns. -/
def cyclicSearch (modulus : Nat) (accepted : Nat → Bool) : Nat → Nat → Option Nat
  | 0, _ => none
  | turns + 1, value =>
      if accepted value then some value
      else cyclicSearch modulus accepted turns ((value + 1) % modulus)

section Turns

variable {modulus : Nat}

theorem next_turn (start turns : Nat) :
    ((start + turns) % modulus + 1) % modulus = (start + (turns + 1)) % modulus := by
  rw [Nat.mod_add_mod, Nat.add_assoc]

/-- Every value is some turns ahead. -/
theorem exists_turns (start : Nat) {value : Nat} (small : value < modulus) :
    ∃ turns < modulus, (start + turns) % modulus = value := by
  have positive : 0 < modulus := Nat.zero_lt_of_lt small
  have below : start % modulus < modulus := Nat.mod_lt start positive
  by_cases ahead : start % modulus ≤ value
  · refine ⟨value - start % modulus, by omega, ?_⟩
    rw [Nat.add_mod, Nat.mod_eq_of_lt (show value - start % modulus < modulus by omega),
      Nat.add_sub_cancel' ahead, Nat.mod_eq_of_lt small]
  · refine ⟨modulus - start % modulus + value, by omega, ?_⟩
    rw [Nat.add_mod, Nat.mod_eq_of_lt (show modulus - start % modulus + value < modulus by omega)]
    have around : start % modulus + (modulus - start % modulus + value) = value + modulus := by
      omega
    rw [around, Nat.add_mod_right, Nat.mod_eq_of_lt small]

/-- Among the values there is a first one with a property, if any has it. -/
theorem exists_first_turn (property : Nat → Prop) (start : Nat) {value : Nat}
    (small : value < modulus) (holds : property value) :
    ∃ turns < modulus, property ((start + turns) % modulus) ∧
      ∀ earlier < turns, ¬property ((start + earlier) % modulus) := by
  classical
  obtain ⟨turns, few, reaches⟩ := exists_turns start small
  have found : ∃ turns, property ((start + turns) % modulus) := ⟨turns, reaches ▸ holds⟩
  have least : Nat.find found ≤ turns := Nat.find_min' found (reaches ▸ holds)
  exact ⟨Nat.find found, by omega, Nat.find_spec found, fun _ => Nat.find_min found⟩

end Turns

section Search

variable {modulus : Nat} {accepted : Nat → Bool}

/-- A search ends at the first accepted value, if it has turns enough to get there. -/
theorem cyclicSearch_eq_some {start turned turns limit : Nat} (few : turns < limit)
    (yes : accepted ((start + (turned + turns)) % modulus) = true)
    (passed : ∀ earlier < turns, accepted ((start + (turned + earlier)) % modulus) = false) :
    cyclicSearch modulus accepted limit ((start + turned) % modulus) =
      some ((start + (turned + turns)) % modulus) := by
  induction turns generalizing turned limit with
  | zero =>
      cases limit with
      | zero => omega
      | succ limit =>
          rw [Nat.add_zero] at yes ⊢
          rw [cyclicSearch, if_pos yes, Nat.add_zero]
  | succ turns inductionHypothesis =>
      cases limit with
      | zero => omega
      | succ limit =>
          have refused : accepted ((start + turned) % modulus) = false := passed 0 (by omega)
          have further : ∀ turns, turned + (turns + 1) = turned + 1 + turns := by
            intro turns
            omega
          rw [cyclicSearch, refused, if_neg Bool.false_ne_true, next_turn, further turns]
          apply inductionHypothesis
          · omega
          · rw [← further]
            exact yes
          · intro earlier before
            rw [← further]
            exact passed (earlier + 1) (by omega)

/-- As many turns as the modulus find an accepted value, if there is one. -/
theorem exists_cyclicSearch (start : Nat) {value : Nat} (small : value < modulus)
    (yes : accepted value = true) :
    ∃ turns < modulus,
      cyclicSearch modulus accepted modulus (start % modulus) =
          some ((start + turns) % modulus) ∧
        accepted ((start + turns) % modulus) = true ∧
        ∀ earlier < turns, accepted ((start + earlier) % modulus) = false := by
  obtain ⟨turns, few, found, passed⟩ :=
    exists_first_turn (fun value => accepted value = true) start small yes
  have refused : ∀ earlier < turns, accepted ((start + earlier) % modulus) = false :=
    fun earlier before => Bool.eq_false_iff.mpr (passed earlier before)
  refine ⟨turns, few, ?_, found, refused⟩
  have searched := @cyclicSearch_eq_some modulus accepted start 0 _ _ few
    (by rw [Nat.zero_add]; exact found)
    (fun earlier before => by rw [Nat.zero_add]; exact refused earlier before)
  rw [Nat.zero_add] at searched
  exact searched

end Search

end OpenairSpgwc.Foundation
