import OpenairSpgwc.Foundation.Index

/-!
Contract: values that the records of a table hold in slots.

Every record has the same slots, and a slot holds a value or nothing. The table keeps
its values apart when each of them is held in one slot of one record.

Owns:
- `Holds` and `Apart`;
- that an insertion keeps values apart whose new values are held nowhere;
- tables that hold the same values.
-/

namespace OpenairSpgwc.Foundation

open Std (ExtTreeMap TransOrd LawfulEqOrd)

section Slots

variable {κ ρ σ ι : Type*} [Ord κ] [TransOrd κ]

/-- The record under `key` holds `value` in `slot`. -/
def Holds (slots : ρ → σ → Option ι) (table : ExtTreeMap κ ρ) (value : ι) (key : κ) (slot : σ) :
    Prop :=
  ∃ record, table[key]? = some record ∧ slots record slot = some value

/-- Each value is held once. -/
def Apart (slots : ρ → σ → Option ι) (table : ExtTreeMap κ ρ) : Prop :=
  ∀ value key slot key' slot', Holds slots table value key slot →
    Holds slots table value key' slot' → key = key' ∧ slot = slot'

variable {slots : ρ → σ → Option ι} {table : ExtTreeMap κ ρ} {key other : κ} {record : ρ}
  {slot : σ} {value : ι}

theorem not_holds_empty : ¬Holds slots (∅ : ExtTreeMap κ ρ) value key slot := by
  rintro ⟨record, found, _⟩
  rw [ExtTreeMap.getElem?_empty] at found
  cases found

theorem apart_empty : Apart slots (∅ : ExtTreeMap κ ρ) :=
  fun _ _ _ _ _ holds => absurd holds not_holds_empty

/-- Which values are held depends on what is in the slots only. -/
theorem holds_congr {updated : ExtTreeMap κ ρ}
    (same : ∀ key : κ, (updated[key]?).map slots = (table[key]?).map slots) :
    Holds slots updated value key slot ↔ Holds slots table value key slot := by
  have forth {first second : ExtTreeMap κ ρ}
      (equal : ∀ key : κ, (first[key]?).map slots = (second[key]?).map slots)
      (holds : Holds slots first value key slot) : Holds slots second value key slot := by
    obtain ⟨record, found, held⟩ := holds
    have there := equal key
    rw [found, Option.map_some] at there
    obtain ⟨twin, foundTwin, alike⟩ := Option.map_eq_some_iff.mp there.symm
    exact ⟨twin, foundTwin, by rw [alike]; exact held⟩
  exact ⟨forth same, forth fun key => (same key).symm⟩

theorem Apart.congr {updated : ExtTreeMap κ ρ} (apart : Apart slots table)
    (same : ∀ key : κ, (updated[key]?).map slots = (table[key]?).map slots) :
    Apart slots updated := by
  intro value key slot key' slot' first second
  exact apart value key slot key' slot' ((holds_congr same).mp first)
    ((holds_congr same).mp second)

variable [LawfulEqOrd κ]

theorem holds_insert :
    Holds slots (table.insert key record) value other slot ↔
      (other = key ∧ slots record slot = some value) ∨
        (other ≠ key ∧ Holds slots table value other slot) := by
  unfold Holds
  constructor
  · rintro ⟨found, present, held⟩
    cases getElem?_insert_eq_some.mp present with
    | inl new =>
        rw [new.2] at held
        exact .inl ⟨new.1, held⟩
    | inr old => exact .inr ⟨old.1, found, old.2, held⟩
  · rintro (⟨same, held⟩ | ⟨different, found, present, held⟩)
    · exact ⟨record, getElem?_insert_eq_some.mpr (.inl ⟨same, rfl⟩), held⟩
    · exact ⟨found, getElem?_insert_eq_some.mpr (.inr ⟨different, present⟩), held⟩

/-- Values are kept apart by a record that holds what the one before it held, and in one
slot perhaps a value that was held nowhere. -/
theorem Apart.insert (apart : Apart slots table) (fresh : σ)
    (known : ∀ slot value, slots record slot = some value →
      Holds slots table value key slot ∨
        slot = fresh ∧ ∀ key slot, ¬Holds slots table value key slot) :
    Apart slots (table.insert key record) := by
  have own {value : ι} {slot slot' : σ} (first : slots record slot = some value)
      (second : slots record slot' = some value) : slot = slot' := by
    cases known slot value first with
    | inl old =>
        cases known slot' value second with
        | inl old' => exact (apart value key slot key slot' old old').2
        | inr new' => exact absurd old (new'.2 key slot)
    | inr new =>
        cases known slot' value second with
        | inl old' => exact absurd old' (new.2 key slot')
        | inr new' => exact new.1.trans new'.1.symm
  have foreign {value : ι} {other : κ} {slot slot' : σ} (different : other ≠ key)
      (first : slots record slot = some value) (second : Holds slots table value other slot') :
      False := by
    cases known slot value first with
    | inl old => exact different (apart value key slot other slot' old second).1.symm
    | inr new => exact new.2 other slot' second
  intro value first slot second slot' heldFirst heldSecond
  cases holds_insert.mp heldFirst with
  | inl here =>
      cases holds_insert.mp heldSecond with
      | inl here' => exact ⟨here.1.trans here'.1.symm, own here.2 here'.2⟩
      | inr there' => exact (foreign there'.1 here.2 there'.2).elim
  | inr there =>
      cases holds_insert.mp heldSecond with
      | inl here' => exact (foreign there.1 here'.2 there.2).elim
      | inr there' => exact apart value first slot second slot' there.2 there'.2

end Slots

end OpenairSpgwc.Foundation
