import Mathlib.Data.Finset.Basic
import Mathlib.Tactic

/-!
Contract: the unique-identifier generators of `uint_generator.hpp`.

`uint_generator` and the singleton `uint_uid_generator` have the same body: a
counter of `w` bits and the set of values handed out and not yet freed.
`getUid` steps the counter until it meets a value that is not in the set. The
loop of the source has no bound of its own, so it is given the `2 ^ w` turns
after which it would start over; `none` stands for a loop that never returns.
-/

namespace OpenairSpgwc.Common

structure UintGenerator (w : Nat) where
  uidGenerator : Nat
  uidGenerated : Finset Nat

namespace UintGenerator

variable {w : Nat}

/-- The state the constructors leave. -/
def empty : UintGenerator w := ⟨0, ∅⟩

/-- The `while (true)` of `get_uid`: the first value from `uid` on that is not
in `live`. -/
def getUidLoop (w : Nat) (live : Finset Nat) : Nat → Nat → Option Nat
  | 0, _ => none
  | fuel + 1, uid =>
      if uid ∈ live then getUidLoop w live fuel ((uid + 1) % 2 ^ w) else some uid

def getUid (generator : UintGenerator w) : Option (Nat × UintGenerator w) :=
  match getUidLoop w generator.uidGenerated (2 ^ w) ((generator.uidGenerator + 1) % 2 ^ w) with
  | none => none
  | some uid => some (uid, ⟨uid, insert uid generator.uidGenerated⟩)

def freeUid (generator : UintGenerator w) (uid : Nat) : UintGenerator w :=
  { generator with uidGenerated := generator.uidGenerated.erase uid }

@[simp] theorem freeUid_uidGenerated (generator : UintGenerator w) (uid : Nat) :
    (generator.freeUid uid).uidGenerated = generator.uidGenerated.erase uid := rfl

theorem getUidLoop_not_mem {live : Finset Nat} {fuel uid result : Nat}
    (found : getUidLoop w live fuel uid = some result) : result ∉ live := by
  induction fuel generalizing uid with
  | zero => simp [getUidLoop] at found
  | succ fuel inductionHypothesis =>
      simp only [getUidLoop] at found
      split at found
      · exact inductionHypothesis found
      · next fresh =>
          cases found
          exact fresh

/-- The values handed out fit in the counter. -/
theorem getUidLoop_lt {live : Finset Nat} {fuel uid result : Nat} (small : uid < 2 ^ w)
    (found : getUidLoop w live fuel uid = some result) : result < 2 ^ w := by
  induction fuel generalizing uid with
  | zero => simp [getUidLoop] at found
  | succ fuel inductionHypothesis =>
      simp only [getUidLoop] at found
      split at found
      · exact inductionHypothesis (Nat.mod_lt _ (Nat.two_pow_pos w)) found
      · cases found
        exact small

/-- What one successful `get_uid` does: the value was not live, and it is the
only one that becomes live. -/
theorem getUid_spec {generator next : UintGenerator w} {uid : Nat}
    (drawn : generator.getUid = some (uid, next)) :
    uid ∉ generator.uidGenerated ∧
      next = ⟨uid, insert uid generator.uidGenerated⟩ := by
  unfold getUid at drawn
  split at drawn
  · cases drawn
  · next result found =>
      cases drawn
      exact ⟨getUidLoop_not_mem found, rfl⟩

/-! ### Drawing without freeing -/

/-- `n` values were drawn and none was freed. -/
structure Counted (generator : UintGenerator w) (n : Nat) : Prop where
  last : generator.uidGenerator = n
  live : generator.uidGenerated = Finset.Icc 1 n
  small : n < 2 ^ w

/-- No value is left. -/
def Exhausted (generator : UintGenerator w) : Prop :=
  ∀ uid < 2 ^ w, uid ∈ generator.uidGenerated

theorem counted_empty : (empty : UintGenerator w).Counted 0 where
  last := rfl
  live := rfl
  small := Nat.two_pow_pos w

theorem getUidLoop_of_not_mem {live : Finset Nat} {uid : Nat} (fresh : uid ∉ live) :
    getUidLoop w live (2 ^ w) uid = some uid := by
  cases turns : 2 ^ w with
  | zero => exact absurd turns (Nat.two_pow_pos w).ne'
  | succ fuel => rw [getUidLoop, if_neg fresh]

/-- The next value is the next number. -/
theorem Counted.getUid {generator : UintGenerator w} {n : Nat} (counted : generator.Counted n)
    (room : n + 1 < 2 ^ w) :
    ∃ next, generator.getUid = some (n + 1, next) ∧ next.Counted (n + 1) := by
  have fresh : n + 1 ∉ generator.uidGenerated := by
    rw [counted.live, Finset.mem_Icc]
    omega
  refine ⟨⟨n + 1, insert (n + 1) generator.uidGenerated⟩, ?_, rfl, ?_, room⟩
  · rw [UintGenerator.getUid, counted.last, Nat.mod_eq_of_lt room, getUidLoop_of_not_mem fresh]
  · show insert (n + 1) generator.uidGenerated = Finset.Icc 1 (n + 1)
    rw [counted.live]
    exact Finset.insert_Icc_right_eq_Icc_add_one (by omega)

/-- After the last number the counter starts over, once. -/
theorem Counted.getUid_wraps {generator : UintGenerator w} {n : Nat}
    (counted : generator.Counted n) (full : n + 1 = 2 ^ w) :
    ∃ next, generator.getUid = some (0, next) ∧ next.Exhausted := by
  have fresh : 0 ∉ generator.uidGenerated := by
    rw [counted.live, Finset.mem_Icc]
    omega
  refine ⟨⟨0, insert 0 generator.uidGenerated⟩, ?_, ?_⟩
  · rw [UintGenerator.getUid, counted.last, full, Nat.mod_self, getUidLoop_of_not_mem fresh]
  · intro uid small
    show uid ∈ insert 0 generator.uidGenerated
    rw [counted.live, Finset.mem_insert, Finset.mem_Icc]
    omega

theorem getUidLoop_of_exhausted {live : Finset Nat} (all : ∀ uid < 2 ^ w, uid ∈ live)
    {fuel uid : Nat} (small : uid < 2 ^ w) : getUidLoop w live fuel uid = none := by
  induction fuel generalizing uid with
  | zero => rfl
  | succ fuel inductionHypothesis =>
      rw [getUidLoop, if_pos (all uid small)]
      exact inductionHypothesis (Nat.mod_lt _ (Nat.two_pow_pos w))

/-- The loop of the source does not end. -/
theorem Exhausted.getUid {generator : UintGenerator w} (exhausted : generator.Exhausted) :
    generator.getUid = none := by
  rw [UintGenerator.getUid,
    getUidLoop_of_exhausted exhausted (Nat.mod_lt _ (Nat.two_pow_pos w))]

/-! ### Drawing and freeing -/

/-- The generator has been drawn from any number of times. -/
def Draws (generator later : UintGenerator w) : Prop :=
  Relation.ReflTransGen (fun first next => ∃ uid, getUid first = some (uid, next)) generator later

theorem Draws.refl (generator : UintGenerator w) : generator.Draws generator :=
  Relation.ReflTransGen.refl

theorem Draws.trans {generator middle later : UintGenerator w} (first : generator.Draws middle)
    (second : middle.Draws later) : generator.Draws later :=
  Relation.ReflTransGen.trans first second

theorem Draws.single {generator next : UintGenerator w} {uid : Nat}
    (drawn : generator.getUid = some (uid, next)) : generator.Draws next :=
  Relation.ReflTransGen.single ⟨uid, drawn⟩

theorem Draws.subset {generator later : UintGenerator w} (draws : generator.Draws later) :
    generator.uidGenerated ⊆ later.uidGenerated := by
  induction draws with
  | refl => exact subset_rfl
  | tail _ drawn inductionHypothesis =>
      obtain ⟨uid, drawn⟩ := drawn
      rw [(getUid_spec drawn).2]
      exact inductionHypothesis.trans (Finset.subset_insert ..)

/-- `n` values were drawn, in order, and any of them may have been freed. -/
structure Tracked (generator : UintGenerator w) (n : Nat) : Prop where
  last : generator.uidGenerator = n
  live : generator.uidGenerated ⊆ Finset.Icc 1 n

theorem tracked_empty : (empty : UintGenerator w).Tracked 0 := ⟨rfl, Finset.empty_subset _⟩

theorem Tracked.freeUid {generator : UintGenerator w} {n : Nat} (tracked : generator.Tracked n)
    (uid : Nat) : (generator.freeUid uid).Tracked n :=
  ⟨tracked.last, (Finset.erase_subset ..).trans tracked.live⟩

/-- The values that become live. -/
def newUids (generator later : UintGenerator w) : Finset Nat :=
  later.uidGenerated \ generator.uidGenerated

@[simp] theorem newUids_self (generator : UintGenerator w) : newUids generator generator = ∅ :=
  Finset.sdiff_self _

theorem newUids_freeUid (generator : UintGenerator w) (uid : Nat) :
    newUids generator (generator.freeUid uid) = ∅ :=
  Finset.sdiff_eq_empty_iff_subset.mpr (Finset.erase_subset ..)

theorem mem_newUids_of_getUid {generator next : UintGenerator w} {uid : Nat}
    (drawn : generator.getUid = some (uid, next)) : uid ∈ newUids generator next := by
  obtain ⟨fresh, same⟩ := getUid_spec drawn
  rw [same]
  exact Finset.mem_sdiff.mpr ⟨Finset.mem_insert_self .., fresh⟩

theorem newUids_mono_left {generator middle later : UintGenerator w}
    (draws : generator.Draws middle) : newUids middle later ⊆ newUids generator later :=
  Finset.sdiff_subset_sdiff subset_rfl draws.subset

theorem newUids_mono_right {generator middle later : UintGenerator w}
    (draws : middle.Draws later) : newUids generator middle ⊆ newUids generator later :=
  Finset.sdiff_subset_sdiff draws.subset subset_rfl

/-- As long as the counter does not start over, values are drawn in order. -/
theorem Tracked.getUid {generator next : UintGenerator w} {n uid : Nat}
    (tracked : generator.Tracked n) (room : n + 1 < 2 ^ w)
    (drawn : generator.getUid = some (uid, next)) : uid = n + 1 ∧ next.Tracked (n + 1) := by
  have fresh : n + 1 ∉ generator.uidGenerated := by
    intro live
    have bound := Finset.mem_Icc.mp (tracked.live live)
    omega
  rw [UintGenerator.getUid, tracked.last, Nat.mod_eq_of_lt room, getUidLoop_of_not_mem fresh]
    at drawn
  cases drawn
  refine ⟨rfl, rfl, Finset.insert_subset ?_ (tracked.live.trans ?_)⟩
  · exact Finset.mem_Icc.mpr (by omega)
  · exact Finset.Icc_subset_Icc_right (Nat.le_succ n)

/-- Values that become live have numbers of their own. -/
theorem Tracked.draws {generator later : UintGenerator w} {n : Nat}
    (tracked : generator.Tracked n) (draws : generator.Draws later)
    (room : n + (newUids generator later).card < 2 ^ w) :
    later.Tracked (n + (newUids generator later).card) ∧
      ∀ uid ∈ newUids generator later, n < uid := by
  induction draws with
  | refl => simpa using tracked
  | @tail middle later draws drawn inductionHypothesis =>
      obtain ⟨uid, drawn⟩ := drawn
      obtain ⟨fresh, same⟩ := getUid_spec drawn
      have more : newUids generator later = insert uid (newUids generator middle) := by
        rw [same, newUids, newUids]
        exact Finset.insert_sdiff_of_notMem _ fun live => fresh (Draws.subset draws live)
      have absent : uid ∉ newUids generator middle :=
        fun live => fresh (Finset.mem_sdiff.mp live).1
      rw [more, Finset.card_insert_of_notMem absent] at room ⊢
      obtain ⟨middleTracked, above⟩ := inductionHypothesis (by omega)
      obtain ⟨number, last⟩ := middleTracked.getUid (by omega) drawn
      refine ⟨last, ?_⟩
      rw [Finset.forall_mem_insert]
      exact ⟨by omega, above⟩

end UintGenerator

end OpenairSpgwc.Common
