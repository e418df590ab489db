import Mathlib.Tactic
import Std.Data.ExtTreeMap

/-!
Contract: an index beside a table.

A table maps keys to records, and every record carries a label. An index
over that label is in step with the table when it maps exactly the
labels of the records to the keys they are stored under. `Inverts` says so;
the lemmas say which updates of both maps keep it. `Points` is the half of it
that forbids entries without a record.

`insertIfNew` is the insertion that leaves a key already present as it is.
-/

namespace OpenairSpgwc.Foundation

open Std (ExtTreeMap TransOrd LawfulEqOrd)

section Insertion

variable {κ ρ : Type*} [Ord κ] [TransOrd κ] {table : ExtTreeMap κ ρ} {key other : κ}
  {record old : ρ}

theorem exists_of_mem (member : key ∈ table) : ∃ record, table[key]? = some record :=
  ⟨table[key], getElem?_pos table key member⟩

/-- What is found after an erasure was there before. -/
theorem getElem?_of_erase (found : (table.erase key)[other]? = some record) :
    table[other]? = some record := by
  grind

variable [LawfulEqOrd κ]

/-- Under a free key `insertIfNew` inserts. -/
theorem insertIfNew_of_absent (absent : table[key]? = none) :
    table.insertIfNew key record = table.insert key record := by
  refine ExtTreeMap.ext_getElem? fun other => ?_
  grind

/-- Under a used key `insertIfNew` does nothing. -/
theorem insertIfNew_of_present (present : table[key]? = some old) :
    table.insertIfNew key record = table := by
  refine ExtTreeMap.ext_getElem? fun other => ?_
  grind

/-- An insertion changes nothing when the record is there already. -/
theorem insert_eq_self_iff : table.insert key record = table ↔ table[key]? = some record := by
  constructor
  · intro same
    rw [← same, ExtTreeMap.getElem?_insert_self]
  · intro present
    refine ExtTreeMap.ext_getElem? fun other => ?_
    grind

theorem getElem?_insert_eq_some {found : ρ} :
    (table.insert key record)[other]? = some found ↔
      (other = key ∧ found = record) ∨ (other ≠ key ∧ table[other]? = some found) := by
  grind

theorem getElem?_erase_eq_some :
    (table.erase key)[other]? = some record ↔ other ≠ key ∧ table[other]? = some record := by
  grind

/-! What a table shows through `view`. -/

variable [DecidableEq κ] {β : Type*} (view : ρ → Option β)

theorem bind_getElem?_erase :
    (fun other : κ => ((table.erase key)[other]?).bind view) =
      Function.update (fun other : κ => (table[other]?).bind view) key none := by
  funext other
  by_cases same : other = key
  · simp [same]
  · have different : ¬key = other := fun equal => same equal.symm
    simp [Function.update_of_ne same, ExtTreeMap.getElem?_erase, different]

theorem bind_getElem?_insert :
    (fun other : κ => ((table.insert key record)[other]?).bind view) =
      Function.update (fun other : κ => (table[other]?).bind view) key (view record) := by
  funext other
  by_cases same : other = key
  · simp [same]
  · have different : ¬key = other := fun equal => same equal.symm
    simp [Function.update_of_ne same, ExtTreeMap.getElem?_insert, different]

end Insertion

/-! What of one kind leaves a table between two states. -/

section Departure

variable {κ ρ : Type*} [Ord κ] [TransOrd κ] {before after : ExtTreeMap κ ρ}
  {Leaves Property : ρ → Prop} {key : κ} {record : ρ}

theorem forall_gone_of_kept
    (kept : ∀ (key : κ) (record : ρ), before[key]? = some record → after[key]? ≠ none) :
    ∀ (key : κ) (record : ρ), before[key]? = some record → Leaves record → after[key]? = none →
      Property record :=
  fun key record found _ gone => absurd gone (kept key record found)

/-- At most the record under one key leaves. -/
theorem forall_gone_iff_of_erase [LawfulEqOrd κ] (found : before[key]? = some record)
    (erased : after = before.erase key) :
    (∀ (other : κ) (gone : ρ), before[other]? = some gone → Leaves gone → after[other]? = none →
      Property gone) ↔ (Leaves record → Property record) := by
  subst erased
  constructor
  · exact fun all leaves => all key record found leaves ExtTreeMap.getElem?_erase_self
  · intro holds other gone stored leaves absent
    obtain rfl : key = other := by
      by_contra different
      rw [ExtTreeMap.getElem?_erase, if_neg (by simpa using different), stored] at absent
      cases absent
    rw [found, Option.some.injEq] at stored
    subst stored
    exact holds leaves

end Departure

section Index

variable {κ ι ρ : Type*} [Ord κ] [TransOrd κ] [Ord ι] [TransOrd ι]
  {index : ExtTreeMap ι κ} {table : ExtTreeMap κ ρ} {label : ρ → ι}

/-- `index` leads from the label of every record to its key, and nowhere else. -/
def Inverts (index : ExtTreeMap ι κ) (table : ExtTreeMap κ ρ) (label : ρ → ι) : Prop :=
  ∀ value key, index[value]? = some key ↔ (table[key]?).map label = some value

theorem Inverts.empty : Inverts (∅ : ExtTreeMap ι κ) ∅ label := by
  intro value key
  simp

/-- A record is found back from its own label. -/
theorem Inverts.entry (inverts : Inverts index table label) {key : κ} {record : ρ}
    (stored : table[key]? = some record) : index[label record]? = some key :=
  (inverts _ _).mpr (by simp [stored])

/-- An entry of the index leads to a record with that label. -/
theorem Inverts.owner (inverts : Inverts index table label) {key : κ} {value : ι}
    (found : index[value]? = some key) :
    ∃ record, table[key]? = some record ∧ label record = value := by
  simpa using (inverts value key).mp found

theorem Inverts.key_mem (inverts : Inverts index table label) {key : κ} {value : ι}
    (found : index[value]? = some key) : key ∈ table := by
  obtain ⟨record, stored, -⟩ := inverts.owner found
  simp [ExtTreeMap.mem_iff_isSome_getElem?, stored]

/-- When the label is already in the index, a record inserted under a new key
is not found back from it. -/
theorem Inverts.not_entry_insert (inverts : Inverts index table label) {key : κ} {value : ι}
    (freshKey : table[key]? = none) (usedValue : index[value]? ≠ none) :
    (index.insertIfNew value key)[value]? ≠ some key := by
  intro found
  have old : index[value]? = some key := by grind
  obtain ⟨record, stored, -⟩ := inverts.owner old
  simp [freshKey] at stored

variable [LawfulEqOrd κ]

theorem Inverts.update (inverts : Inverts index table label) {key : κ} {record updated : ρ}
    (stored : table[key]? = some record) (same : label updated = label record) :
    Inverts index (table.insert key updated) label := by
  intro value other
  have before := inverts value other
  grind

variable [LawfulEqOrd ι]

theorem Inverts.insert (inverts : Inverts index table label) {key : κ} (record : ρ)
    (freshKey : table[key]? = none) (freshValue : index[label record]? = none) :
    Inverts (index.insertIfNew (label record) key) (table.insertIfNew key record)
      label := by
  intro value other
  have before := inverts value other
  have unclaimed := inverts value key
  have unused := inverts (label record) other
  grind

theorem Inverts.erase (inverts : Inverts index table label) {key : κ} {record : ρ}
    (stored : table[key]? = some record) :
    Inverts (index.erase (label record)) (table.erase key) label := by
  intro value other
  have before := inverts value other
  have entry := inverts.entry stored
  grind

end Index

section Pointing

variable {κ ι ρ : Type*} [Ord κ] [TransOrd κ] [LawfulEqOrd κ] [Ord ι] [TransOrd ι] [LawfulEqOrd ι]
  {index : ExtTreeMap ι κ} {table : ExtTreeMap κ ρ} {label : ρ → ι} {key : κ} {value : ι}
  {record : ρ}

/-- Every entry of `index` leads to a record with that label; records may be
without an entry. -/
def Points (index : ExtTreeMap ι κ) (table : ExtTreeMap κ ρ) (label : ρ → ι) : Prop :=
  ∀ value key, index[value]? = some key → (table[key]?).map label = some value

omit [LawfulEqOrd κ] [LawfulEqOrd ι] in
/-- A lookup through the index reaches one record. -/
theorem forall_lookup_iff {Property : ρ → Prop} (key : κ) (record : ρ)
    (found : index[value]? = some key)
    (stored : table[key]? = some record) :
    (∀ (other : κ) (reached : ρ), index[value]? = some other → table[other]? = some reached →
      Property reached) ↔ Property record := by
  constructor
  · exact fun all => all key record found stored
  · intro holds other reached foundOther storedOther
    obtain rfl : key = other := by simpa [found] using foundOther
    obtain rfl : record = reached := by simpa [stored] using storedOther
    exact holds

omit [LawfulEqOrd κ] [LawfulEqOrd ι] in
theorem Points.empty : Points (∅ : ExtTreeMap ι κ) ∅ label := by
  intro value key found
  simp at found

omit [LawfulEqOrd κ] [LawfulEqOrd ι] in
theorem Points.owner (points : Points index table label) (found : index[value]? = some key) :
    ∃ record, table[key]? = some record ∧ label record = value := by
  simpa using points value key found

/-- A record is stored under a free key; an entry for its label is made unless
there is one. -/
theorem Points.insert (points : Points index table label) (record : ρ)
    (freshKey : table[key]? = none) :
    Points (index.insertIfNew (label record) key) (table.insertIfNew key record) label := by
  intro value other found
  have before := points value other
  grind

omit [LawfulEqOrd ι] in
/-- A record is stored under a free key and gets no entry. -/
theorem Points.insertUnlabelled (points : Points index table label)
    (freshKey : table[key]? = none) : Points index (table.insertIfNew key record) label := by
  intro value other found
  have before := points value other
  grind

/-- A record is removed with the entry for its label. -/
theorem Points.erase (points : Points index table label) (stored : table[key]? = some record) :
    Points (index.erase (label record)) (table.erase key) label := by
  intro value other found
  have before := points value other
  grind

omit [LawfulEqOrd ι] in
/-- A record without an entry is removed. -/
theorem Points.eraseUnlabelled (points : Points index table label)
    (unused : ∀ value : ι, index[value]? ≠ some key) : Points index (table.erase key) label := by
  intro value other found
  have before := points value other found
  have different := unused value
  grind

omit [LawfulEqOrd ι] in
theorem Points.update (points : Points index table label) {updated : ρ}
    (stored : table[key]? = some record) (same : label updated = label record) :
    Points index (table.insert key updated) label := by
  intro value other found
  have before := points value other found
  grind

/-- The label of a record changes, and its entry with it. -/
theorem Points.relabel (points : Points index table label) (updated : ρ)
    (found : index[value]? = some key) :
    Points ((index.erase value).insertIfNew (label updated) key) (table.insert key updated)
      label := by
  obtain ⟨record, stored, rfl⟩ := points.owner found
  intro value other found
  have before := points value other
  grind

end Pointing

end OpenairSpgwc.Foundation
