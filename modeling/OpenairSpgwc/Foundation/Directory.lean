import OpenairSpgwc.Foundation.Transition

/-!
Contract: a directory that is looked up by a key and extended on demand.

A system keeps a map from keys to places. A message that brings a name is taken
to the place its key leads to, and to a fresh place where the key leads nowhere
yet; entries may go at any time. Names with the same key are not told apart.

Owns:
- that a place is made once, and for a name of the key that leads to it;
- that names are told apart where no two of them share a key.
-/

namespace OpenairSpgwc.Foundation

/-- A map from keys to places, and the next place to be used. -/
structure Directory (σ κ : Type*) where
  find : σ → κ → Option Nat
  fresh : σ → Nat

namespace Directory

section Runs

variable {σ α ε κ ι : Type*} (directory : Directory σ κ) (named : α → Option ι) (key : ι → κ)

/-- A step adds at most the entry of the key that is asked for, with a fresh place. -/
structure Moves (asked : Option κ) (before after : σ) : Prop where
  entries : ∀ key place, directory.find after key = some place →
    directory.find before key = some place ∨
      (asked = some key ∧ directory.find before key = none ∧ place = directory.fresh before ∧
        place < directory.fresh after)
  fresh : directory.fresh before ≤ directory.fresh after

/-- Entries go, and none is added. -/
theorem Moves.of_kept {directory : Directory σ κ} {asked : Option κ} {before after : σ}
    (kept : ∀ key place, directory.find after key = some place →
      directory.find before key = some place)
    (fresh : directory.fresh before ≤ directory.fresh after) :
    directory.Moves asked before after :=
  ⟨fun key place known => .inl (kept key place known), fresh⟩

/-- The step makes the place for the name. -/
def Makes (record : StepRecord σ α ε) (name : ι) (place : Nat) : Prop :=
  named record.action = some name ∧ directory.find record.before (key name) = none ∧
    directory.find record.after (key name) = some place

instance [DecidableEq ι] (record : StepRecord σ α ε) (name : ι) (place : Nat) :
    Decidable (directory.Makes named key record name place) :=
  inferInstanceAs (Decidable (_ ∧ _ ∧ _))

/-- A name that is looked up is led to a place made for it and for no other name. -/
def TellsApart (records : List (StepRecord σ α ε)) : Prop :=
  ∀ past record rest name place, records = past ++ record :: rest →
    named record.action = some name → directory.find record.before (key name) = some place →
    (∃ made ∈ past, directory.Makes named key made name place) ∧
      ∀ made ∈ past, ∀ other, directory.Makes named key made other place → other = name

variable {directory named key} {step : σ → α → Option (σ × List ε)} {start finish : σ}
  {records : List (StepRecord σ α ε)}

theorem Moves.made {record : StepRecord σ α ε} {name : ι} {place : Nat}
    (moves : directory.Moves ((named record.action).map key) record.before record.after)
    (made : directory.Makes named key record name place) :
    place = directory.fresh record.before ∧ place < directory.fresh record.after := by
  obtain ⟨-, unknown, known⟩ := made
  rcases moves.entries (key name) place known with before | ⟨-, -, new⟩
  · rw [unknown] at before
    cases before
  · exact new

variable (directory named key) in
/-- What the steps so far say about the places in use. -/
structure Traced (records : List (StepRecord σ α ε)) (state : σ) : Prop where
  known : ∀ key' place, directory.find state key' = some place →
    ∃ made ∈ records, ∃ name, directory.Makes named key made name place ∧ key name = key'
  used : ∀ made ∈ records, ∀ name place, directory.Makes named key made name place →
    place < directory.fresh state
  once : ∀ made ∈ records, ∀ other ∈ records, ∀ name name' place,
    directory.Makes named key made name place → directory.Makes named key other name' place →
      key name = key name'

/-- One step: the places made before are all below the fresh one. -/
theorem Traced.snoc (record : StepRecord σ α ε)
    (traced : Traced directory named key records record.before)
    (moves : directory.Moves ((named record.action).map key) record.before record.after) :
    Traced directory named key (records ++ [record]) record.after where
  known key' place found := by
    rcases moves.entries key' place found with before | ⟨asked, unknown, -⟩
    · obtain ⟨made, member, name, makes, same⟩ := traced.known key' place before
      exact ⟨made, List.mem_append_left _ member, name, makes, same⟩
    · obtain ⟨name, brought, rfl⟩ := Option.map_eq_some_iff.mp asked
      exact ⟨record, List.mem_append_right _ (List.mem_singleton_self _), name,
        ⟨brought, unknown, found⟩, rfl⟩
  used made member name place makes := by
    rcases List.mem_append.mp member with earlier | last
    · exact (traced.used made earlier name place makes).trans_le moves.fresh
    · rw [List.mem_singleton.mp last] at makes
      exact (moves.made makes).2
  once made member other member' name name' place makes makes' := by
    rcases List.mem_append.mp member with earlier | last <;>
      rcases List.mem_append.mp member' with earlier' | last'
    · exact traced.once made earlier other earlier' name name' place makes makes'
    · rw [List.mem_singleton.mp last'] at makes'
      have older := traced.used made earlier name place makes
      have new := (moves.made makes').1
      omega
    · rw [List.mem_singleton.mp last] at makes
      have older := traced.used other earlier' name' place makes'
      have new := (moves.made makes).1
      omega
    · rw [List.mem_singleton.mp last] at makes
      rw [List.mem_singleton.mp last'] at makes'
      have same : name = name' := Option.some.inj (makes.1.symm.trans makes'.1)
      rw [same]

/-- A run from an empty directory. -/
theorem traced_of_run (run : Run step start records finish)
    (empty : ∀ key', directory.find start key' = none)
    (moves : ∀ record ∈ records,
      directory.Moves ((named record.action).map key) record.before record.after) :
    Traced directory named key records finish := by
  induction run with
  | nil =>
      refine ⟨fun key' place found => ?_, fun made member => ?_, fun made member => ?_⟩
      · rw [empty] at found
        cases found
      · cases member
      · cases member
  | snoc earlier taken inductionHypothesis =>
      have before := inductionHypothesis fun record member =>
        moves record (List.mem_append_left _ member)
      exact Traced.snoc ⟨_, _, _, _⟩ before
        (moves _ (List.mem_append_right _ (List.mem_singleton_self _)))

/-- Where no two names that are brought share a key, all are told apart. -/
theorem tellsApart_of_run (run : Run step start records finish)
    (empty : ∀ key', directory.find start key' = none)
    (moves : ∀ record ∈ records,
      directory.Moves ((named record.action).map key) record.before record.after)
    (apart : ∀ first ∈ records, ∀ second ∈ records, ∀ name name',
      named first.action = some name → named second.action = some name' →
        key name = key name' → name = name') :
    directory.TellsApart named key records := by
  intro past record rest name place split brought found
  rw [split] at run
  obtain ⟨earlier, -, -⟩ := run.at_record
  have among : ∀ made ∈ past, made ∈ records := fun made member => by
    rw [split]
    exact List.mem_append_left _ member
  have here : record ∈ records := by
    rw [split]
    exact List.mem_append_right _ List.mem_cons_self
  have traced := traced_of_run earlier empty fun made member => moves made (among made member)
  obtain ⟨made, member, maker, makes, same⟩ := traced.known (key name) place found
  have own : maker = name :=
    apart made (among made member) record here maker name makes.1 brought same
  rw [own] at makes
  refine ⟨⟨made, member, makes⟩, fun other member' name' makes' => ?_⟩
  have shared := traced.once other member' made member name' name place makes' makes
  exact apart other (among other member') record here name' name makes'.1 brought shared

/-- A name that is led to the place made for another one earlier. -/
theorem not_tellsApart {n : Nat} {made record : StepRecord σ α ε} {other name : ι} {place : Nat}
    (earlier : made ∈ records.take n) (later : record ∈ records.drop n)
    (makes : directory.Makes named key made other place)
    (brought : named record.action = some name)
    (found : directory.find record.before (key name) = some place) (different : other ≠ name) :
    ¬directory.TellsApart named key records := by
  intro apart
  obtain ⟨before, after, rest⟩ := List.append_of_mem later
  have split : records = (records.take n ++ before) ++ record :: after := by
    rw [List.append_assoc, ← rest, List.take_append_drop]
  exact different ((apart _ record after name place split brought found).2 made
    (List.mem_append_left _ earlier) other makes)

end Runs

end Directory

end OpenairSpgwc.Foundation
