import OpenairSpgwc.Common.UintGenerator
import OpenairSpgwc.Foundation.CyclicSearch
import OpenairSpgwc.Foundation.Transition

/-!
Contract: any sequence of calls of `get_uid` and `free_uid` on one generator.

Owns:
- the calls and what a caller sees of them;
- which values are live according to what the callers saw;
- `Supplies`, how many calls of `getUid` return at least;
- `getUid` returns the first value after the last one that is not live, and it
  returns when there is one.

Does not own: two calls at the same time.
-/

namespace OpenairSpgwc.Common

open Foundation

/-- `uint_uid_generator`, of which there is one instance. -/
abbrev UintUidGenerator (w : Nat) := UintGenerator w

inductive UidCall where
  | getUid
  /-- The value need not be one that was returned. -/
  | freeUid (uid : Nat)

/-- What a caller sees. -/
inductive UidEvent where
  | returned (uid : Nat)
  | freed (uid : Nat)

/-- Returned earlier and not freed since. -/
def Live (history : List UidEvent) (uid : Nat) : Prop :=
  ∃ earlier later, history = earlier ++ .returned uid :: later ∧ .freed uid ∉ later

/-- The counter that the last call of `get_uid` left. -/
def lastUid (history : List UidEvent) : Nat :=
  history.foldl (fun last event =>
    match event with
    | .returned uid => uid
    | .freed _ => last) 0

/-- The first value after the last one, going up modulo `2 ^ w`, that is not live. -/
def FirstNotLive (w : Nat) (history : List UidEvent) (uid : Nat) : Prop :=
  ¬Live history uid ∧
    ∃ turns, 0 < turns ∧ turns ≤ 2 ^ w ∧ (lastUid history + turns) % 2 ^ w = uid ∧
      ∀ earlier, 0 < earlier → earlier < turns →
        Live history ((lastUid history + earlier) % 2 ^ w)

/-! ### Histories -/

section Histories

variable {history : List UidEvent} {uid : Nat}

theorem not_live_nil : ¬Live [] uid := by
  rintro ⟨earlier, later, empty, _⟩
  cases earlier <;> cases empty

theorem live_returned (given : Nat) :
    Live (history ++ [.returned given]) uid ↔ uid = given ∨ Live history uid := by
  constructor
  · rintro ⟨earlier, later, split, kept⟩
    cases later using List.reverseRecOn with
    | nil =>
        have last := (List.append_inj' split rfl).2
        cases last
        exact .inl rfl
    | append_singleton later event =>
        rw [← List.cons_append, ← List.append_assoc] at split
        have before := (List.append_inj' split rfl).1
        exact .inr ⟨earlier, later, before, fun freed => kept (List.mem_append_left _ freed)⟩
  · intro either
    cases either with
    | inl same =>
        rw [same]
        exact ⟨history, [], rfl, List.not_mem_nil⟩
    | inr live =>
        obtain ⟨earlier, later, split, kept⟩ := live
        refine ⟨earlier, later ++ [.returned given], ?_, ?_⟩
        · rw [split, List.append_assoc, List.cons_append]
        · intro freed
          cases List.mem_append.mp freed with
          | inl before => exact kept before
          | inr last => cases List.mem_singleton.mp last

theorem live_freed (given : Nat) :
    Live (history ++ [.freed given]) uid ↔ uid ≠ given ∧ Live history uid := by
  constructor
  · rintro ⟨earlier, later, split, kept⟩
    cases later using List.reverseRecOn with
    | nil =>
        have last := (List.append_inj' split rfl).2
        cases last
    | append_singleton later event =>
        rw [← List.cons_append, ← List.append_assoc] at split
        obtain ⟨before, last⟩ := List.append_inj' split rfl
        cases last
        refine ⟨?_, earlier, later, before, fun freed => kept (List.mem_append_left _ freed)⟩
        intro same
        rw [same] at kept
        exact kept (List.mem_append_right _ (List.mem_singleton_self _))
  · rintro ⟨other, earlier, later, split, kept⟩
    refine ⟨earlier, later ++ [.freed given], ?_, ?_⟩
    · rw [split, List.append_assoc, List.cons_append]
    · intro freed
      cases List.mem_append.mp freed with
      | inl before => exact kept before
      | inr last =>
          cases List.mem_singleton.mp last
          exact other rfl

@[simp] theorem lastUid_returned (history : List UidEvent) (given : Nat) :
    lastUid (history ++ [.returned given]) = given := by
  rw [lastUid, List.foldl_append, List.foldl_cons, List.foldl_nil]

@[simp] theorem lastUid_freed (history : List UidEvent) (given : Nat) :
    lastUid (history ++ [.freed given]) = lastUid history := by
  rw [lastUid, List.foldl_append, List.foldl_cons, List.foldl_nil, ← lastUid]

end Histories

namespace UintGenerator

variable {w : Nat}

/-- One call. A call that does not return is not a step. -/
def call (generator : UintGenerator w) : UidCall → Option (UintGenerator w × List UidEvent)
  | .getUid =>
      match generator.getUid with
      | none => none
      | some (uid, next) => some (next, [.returned uid])
  | .freeUid uid => some (generator.freeUid uid, [.freed uid])

/-! ### The search -/

theorem getUidLoop_eq_cyclicSearch (live : Finset Nat) (limit uid : Nat) :
    getUidLoop w live limit uid =
      cyclicSearch (2 ^ w) (fun uid => decide (uid ∉ live)) limit uid := by
  induction limit generalizing uid with
  | zero => rfl
  | succ limit inductionHypothesis =>
      rw [getUidLoop, cyclicSearch, inductionHypothesis]
      by_cases here : uid ∈ live
      · rw [if_pos here, if_neg (by simpa using here)]
      · rw [if_neg here, if_pos (by simpa using here)]

theorem exists_unused {live : Finset Nat} (fewer : live.card < 2 ^ w) :
    ∃ uid < 2 ^ w, uid ∉ live := by
  have smaller : live.card < (Finset.range (2 ^ w)).card := by
    rw [Finset.card_range]
    exact fewer
  obtain ⟨uid, small, unused⟩ := Finset.exists_mem_notMem_of_card_lt_card smaller
  exact ⟨uid, Finset.mem_range.mp small, unused⟩

/-- What `get_uid` returns when a value is left. -/
theorem getUid_first (generator : UintGenerator w) {unused : Nat} (small : unused < 2 ^ w)
    (free : unused ∉ generator.uidGenerated) :
    ∃ turns, 0 < turns ∧ turns ≤ 2 ^ w ∧
      (∃ next, generator.getUid = some ((generator.uidGenerator + turns) % 2 ^ w, next)) ∧
      (generator.uidGenerator + turns) % 2 ^ w ∉ generator.uidGenerated ∧
      ∀ earlier, 0 < earlier → earlier < turns →
        (generator.uidGenerator + earlier) % 2 ^ w ∈ generator.uidGenerated := by
  have accepted : decide (unused ∉ generator.uidGenerated) = true := decide_eq_true free
  obtain ⟨turns, few, found, yes, passed⟩ :=
    @exists_cyclicSearch _ (fun uid => decide (uid ∉ generator.uidGenerated))
      (generator.uidGenerator + 1) unused small accepted
  rw [← getUidLoop_eq_cyclicSearch, Nat.add_assoc] at found
  have result : ∃ next, generator.getUid =
      some ((generator.uidGenerator + (1 + turns)) % 2 ^ w, next) := by
    rw [getUid, found]
    exact ⟨_, rfl⟩
  refine ⟨1 + turns, by omega, by omega, result, ?_, ?_⟩
  · rw [Nat.add_assoc] at yes
    simpa using yes
  · intro earlier positive before
    have refused := passed (earlier - 1) (by omega)
    have same : generator.uidGenerator + 1 + (earlier - 1) = generator.uidGenerator + earlier := by
      omega
    rw [same] at refused
    simpa using refused

/-! ### Supplies -/

/-- At least `n` values are left. -/
def Supplies (generator : UintGenerator w) (n : Nat) : Prop :=
  generator.uidGenerated.card + n ≤ 2 ^ w

theorem supplies_empty {n : Nat} (few : n ≤ 2 ^ w) : (empty : UintGenerator w).Supplies n := by
  show (∅ : Finset Nat).card + n ≤ 2 ^ w
  rw [Finset.card_empty, Nat.zero_add]
  exact few

theorem Supplies.fewer {generator : UintGenerator w} {m n : Nat} (supplies : generator.Supplies n)
    (fewer : m ≤ n) : generator.Supplies m :=
  (Nat.add_le_add_left fewer _).trans supplies

/-- A call returns, and one value less is left. -/
theorem Supplies.getUid {generator : UintGenerator w} {n : Nat}
    (supplies : generator.Supplies (n + 1)) :
    ∃ uid next, generator.getUid = some (uid, next) ∧ next.Supplies n := by
  unfold Supplies at supplies
  obtain ⟨unused, small, free⟩ := @exists_unused w generator.uidGenerated (by omega)
  obtain ⟨turns, -, -, ⟨next, drawn⟩, -, -⟩ := generator.getUid_first small free
  refine ⟨_, next, drawn, ?_⟩
  obtain ⟨fresh, same⟩ := getUid_spec drawn
  rw [same, Supplies, Finset.card_insert_of_notMem fresh]
  omega

/-! ### Runs -/

/-- The set and the counter are what the callers saw. -/
structure Remembers (generator : UintGenerator w) (history : List UidEvent) : Prop where
  live : ∀ uid, uid ∈ generator.uidGenerated ↔ Live history uid
  last : generator.uidGenerator = lastUid history

theorem remembers_empty : (empty : UintGenerator w).Remembers [] where
  live uid := by
    constructor
    · intro member
      cases member
    · intro live
      exact absurd live not_live_nil
  last := rfl

theorem Remembers.call {generator next : UintGenerator w} {history events : List UidEvent}
    {call : UidCall} (remembers : generator.Remembers history)
    (called : generator.call call = some (next, events)) :
    next.Remembers (history ++ events) := by
  cases call with
  | getUid =>
      unfold UintGenerator.call at called
      cases drawn : generator.getUid with
      | none =>
          rw [drawn] at called
          cases called
      | some result =>
          obtain ⟨uid, after⟩ := result
          rw [drawn] at called
          cases called
          obtain ⟨_, same⟩ := getUid_spec drawn
          rw [same]
          constructor
          · intro other
            rw [live_returned, Finset.mem_insert, remembers.live]
          · rw [lastUid_returned]
  | freeUid uid =>
      cases called
      constructor
      · intro other
        rw [live_freed, freeUid_uidGenerated, Finset.mem_erase, remembers.live]
      · rw [lastUid_freed]
        exact remembers.last

theorem remembers_of_run {records : List (StepRecord (UintGenerator w) UidCall UidEvent)}
    {generator : UintGenerator w} (run : Run call empty records generator) :
    generator.Remembers (trace records) := by
  induction run with
  | nil => exact remembers_empty
  | snoc _ taken inductionHypothesis =>
      rw [trace_append, trace_singleton]
      exact inductionHypothesis.call taken

section Next

variable {generator : UintGenerator w} {history : List UidEvent}

theorem Remembers.exists_getUid (remembers : generator.Remembers history) {unused : Nat}
    (small : unused < 2 ^ w) (free : ¬Live history unused) :
    ∃ uid next, generator.getUid = some (uid, next) ∧ FirstNotLive w history uid := by
  obtain ⟨turns, positive, few, ⟨next, drawn⟩, fresh, passed⟩ :=
    generator.getUid_first small fun member => free ((remembers.live _).mp member)
  rw [remembers.last] at drawn fresh passed
  refine ⟨_, next, drawn, ?_, turns, positive, few, rfl, ?_⟩
  · exact fun live => fresh ((remembers.live _).mpr live)
  · exact fun earlier above below => (remembers.live _).mp (passed earlier above below)

theorem getUid_lt {next : UintGenerator w} {uid : Nat}
    (drawn : generator.getUid = some (uid, next)) : uid < 2 ^ w := by
  unfold getUid at drawn
  cases found : getUidLoop w generator.uidGenerated (2 ^ w)
      ((generator.uidGenerator + 1) % 2 ^ w) with
  | none =>
      rw [found] at drawn
      cases drawn
  | some result =>
      rw [found] at drawn
      cases drawn
      exact getUidLoop_lt (Nat.mod_lt _ (Nat.two_pow_pos w)) found

end Next

/-- After any calls, `get_uid` returns the first value after the last one that is
not live, and it returns if fewer than `2 ^ w` values are live. -/
theorem getUid_firstNotLive (w : Nat)
    (records : List (StepRecord (UintGenerator w) UidCall UidEvent)) (generator : UintGenerator w)
    (run : Run call empty records generator) :
    (∀ uid next, generator.getUid = some (uid, next) → FirstNotLive w (trace records) uid) ∧
      ({uid | Live (trace records) uid}.ncard < 2 ^ w →
        ∃ uid next, generator.getUid = some (uid, next)) := by
  have remembers := remembers_of_run run
  constructor
  · intro uid next drawn
    have free : ¬Live (trace records) uid :=
      fun live => (getUid_spec drawn).1 ((remembers.live uid).mpr live)
    obtain ⟨first, _, returned, isFirst⟩ := remembers.exists_getUid (getUid_lt drawn) free
    rw [drawn] at returned
    cases returned
    exact isFirst
  · intro fewer
    have counted : {uid | Live (trace records) uid} = (generator.uidGenerated : Set Nat) := by
      ext uid
      exact (remembers.live uid).symm
    rw [counted, Set.ncard_coe_finset] at fewer
    obtain ⟨unused, small, free⟩ := exists_unused fewer
    obtain ⟨uid, next, drawn, _⟩ := remembers.exists_getUid small
      fun live => free ((remembers.live unused).mpr live)
    exact ⟨uid, next, drawn⟩

/-- The four values of two bits are drawn and the first one is freed: it comes again. -/
theorem getUid_firstNotLive_again : ∃ records generator next,
    Run call (empty : UintGenerator 2) records generator ∧ generator.getUid = some (1, next) ∧
      FirstNotLive 2 (trace records) 1 := by
  obtain ⟨records, generator, run, drawn⟩ :=
    Run.exists_of_passes call (empty : UintGenerator 2)
      [.getUid, .getUid, .getUid, .freeUid 1, .getUid]
      (fun _ generator => generator.getUid.map Prod.fst = some 1) (by decide)
  obtain ⟨⟨uid, next⟩, returned, same⟩ := Option.map_eq_some_iff.mp drawn
  cases same
  exact ⟨records, generator, next, run, returned,
    (getUid_firstNotLive 2 records generator run).1 1 next returned⟩

end UintGenerator

end OpenairSpgwc.Common
