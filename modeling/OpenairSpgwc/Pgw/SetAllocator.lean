import OpenairSpgwc.Pgw.Ipv4Pool

/-!
Contract: an IPv4 pool as a set of free offsets.

Owns:
- `SetAllocator.step`, the allocator that keeps the free offsets and hands out
  the least one;
- the refinement of that allocator by `ipv4_pool`, as long as only addresses of
  the range are released.

Does not own: releases of foreign addresses.
-/

namespace OpenairSpgwc.Pgw

open Foundation

/-- The abstract allocator; its state is the set of free offsets. -/
def SetAllocator.step (first : BitVec 32) (free : Finset Nat) :
    Ipv4Pool.Operation → Option (Finset Nat × List Ipv4Pool.Result)
  | .allocAddress =>
      if nonempty : free.Nonempty then
        some (free.erase (free.min' nonempty),
          [.allocated (some (first + BitVec.ofNat 32 (free.min' nonempty)))])
      else
        some (free, [.allocated none])
  | .freeAddress a => some (insert (a - first).toNat free, [.freed true])

namespace Ipv4Pool

variable {first range a : BitVec 32} {pool next : Ipv4Pool}

/-- The offsets of the range whose bit is clear. -/
def freeOffsets (range : BitVec 32) (pool : Ipv4Pool) : Finset Nat :=
  (Finset.range range.toNat).filter fun offset => pool.alloc.bit (offset : Nat) = false

theorem mem_freeOffsets {offset : Nat} :
    offset ∈ freeOffsets range pool ↔
      offset < range.toNat ∧ pool.alloc.bit (offset : Nat) = false := by
  rw [freeOffsets, Finset.mem_filter, Finset.mem_range]

theorem word_zeroWords (count : Nat) (key : Int) : (zeroWords count).word key = 0 := by
  induction count with
  | zero => exact Bitmap.word_empty
  | succ count inductionHypothesis =>
      rw [zeroWords, Bitmap.word_insert, inductionHypothesis]
      split <;> rfl

/-- In a new pool every address is free. -/
theorem freeOffsets_ofRange : freeOffsets range (ofRange first range) =
    Finset.range range.toNat := by
  apply Finset.ext
  intro offset
  rw [mem_freeOffsets, Finset.mem_range, and_iff_left_iff_imp]
  intro inside
  have whole := Nat.div_add_mod offset 32
  have position : offset % 32 < 32 := Nat.mod_lt _ (by omega)
  rw [← whole, Bitmap.bit_of_position position]
  simp only [ofRange]
  split
  · rw [Bitmap.word_insert]
    split
    · next last =>
        have same : range.toNat / 32 = offset / 32 := by exact_mod_cast last
        simp only [BitVec.getLsbD_shiftLeft, BitVec.getLsbD_allOnes, Bool.and_eq_false_iff,
          Bool.not_eq_false', decide_eq_true_eq, decide_eq_false_iff_not]
        omega
    · rw [word_zeroWords]
      simp
  · rw [word_zeroWords]
    simp

/-- The free offsets determine an intact pool. -/
theorem Intact.eq_of_freeOffsets {other : Ipv4Pool} (intact : Intact first range pool)
    (intact' : Intact first range other)
    (same : freeOffsets range pool = freeOffsets range other) : pool = other := by
  have bits : ∀ offset < 32 * wordCount range,
      pool.alloc.bit (offset : Nat) = other.alloc.bit (offset : Nat) := by
    intro offset inside
    by_cases own : offset < range.toNat
    · have member : offset ∈ freeOffsets range pool ↔ offset ∈ freeOffsets range other := by
        rw [same]
      rw [mem_freeOffsets, mem_freeOffsets, and_iff_right own, and_iff_right own] at member
      exact Bool.eq_iff_iff.mpr (by simpa using member.not)
    · rw [intact.padding offset (by omega) inside, intact'.padding offset (by omega) inside]
  have words : pool.alloc = other.alloc := by
    apply Bitmap.eq_of_words
    · intro key
      rw [intact.keys, intact'.keys]
    · intro key present
      obtain ⟨lower, upper⟩ := (intact.keys key).mp present
      obtain ⟨index, rfl⟩ := Int.eq_ofNat_of_zero_le lower
      apply BitVec.eq_of_getLsbD_eq
      intro position inside
      rw [← Bitmap.bit_of_position inside, ← Bitmap.bit_of_position inside]
      exact bits _ (by omega)
  have start := intact.start.trans intact'.start.symm
  have num := intact.num.trans intact'.num.symm
  cases pool
  cases other
  rw [Ipv4Pool.mk.injEq]
  exact ⟨start, num, words⟩

/-- A pool and the set of its free offsets. -/
def Refines (first range : BitVec 32) (pool : Ipv4Pool) (free : Finset Nat) : Prop :=
  Intact first range pool ∧ freeOffsets range pool = free

/-- `alloc_address` takes the least free offset, or leaves the pool when there is none. -/
theorem Refines.allocAddress {free : Finset Nat} (refines : Refines first range pool free) :
    ∃ rest, SetAllocator.step first free .allocAddress =
        some (rest, [.allocated pool.allocAddress.1]) ∧
      Refines first range pool.allocAddress.2 rest := by
  obtain ⟨intact, rfl⟩ := refines
  generalize outcome : pool.allocAddress = result
  rcases result with ⟨_ | a, next⟩
  · have empty : ¬(freeOffsets range pool).Nonempty := by
      rintro ⟨offset, member⟩
      obtain ⟨inside, clear⟩ := mem_freeOffsets.mp member
      rw [intact.allocAddress_eq_none outcome offset inside] at clear
      cases clear
    refine ⟨freeOffsets range pool, ?_, ?_⟩
    · rw [SetAllocator.step, dif_neg empty]
    · rw [eq_of_allocAddress_eq_none outcome]
      exact ⟨intact, rfl⟩
  · obtain ⟨kept, k, inside, rfl, clear, below, changed⟩ := intact.allocAddress_eq_some outcome
    have member : k ∈ freeOffsets range pool := mem_freeOffsets.mpr ⟨inside, clear⟩
    have least : (freeOffsets range pool).min' ⟨k, member⟩ = k := by
      apply le_antisymm (Finset.min'_le _ _ member)
      apply Finset.le_min'
      intro offset free
      by_contra! earlier
      have clear := (mem_freeOffsets.mp free).2
      rw [below offset earlier] at clear
      cases clear
    refine ⟨(freeOffsets range pool).erase k, ?_, kept, ?_⟩
    · rw [SetAllocator.step, dif_pos ⟨k, member⟩, least]
    · apply Finset.ext
      intro offset
      rw [Finset.mem_erase, mem_freeOffsets, mem_freeOffsets, changed, Bool.or_eq_false_iff,
        decide_eq_false_iff_not]
      constructor
      · rintro ⟨own, free, other⟩
        exact ⟨fun same => other (by rw [same]), own, free⟩
      · rintro ⟨other, own, free⟩
        exact ⟨own, free, by exact_mod_cast other⟩

/-- `free_address` of an address of the range returns true and frees its offset. -/
theorem Refines.freeAddress {free : Finset Nat} (proper : ProperRange first range)
    (refines : Refines first range pool free) (own : InRange first range a) :
    (pool.freeAddress a).1 = true ∧
      Refines first range (pool.freeAddress a).2 (insert (a - first).toNat free) := by
  obtain ⟨intact, rfl⟩ := refines
  obtain ⟨done, kept, changed⟩ := intact.freeAddress_of_inRange proper own
  refine ⟨done, kept, ?_⟩
  have less := proper.inRange_iff.mp own
  generalize (a - first).toNat = released at changed less
  apply Finset.ext
  intro offset
  rw [Finset.mem_insert, mem_freeOffsets, mem_freeOffsets, changed]
  by_cases here : offset = released
  · simp [here, less]
  · have different : (offset : Int) ≠ released := by exact_mod_cast here
    simp [here]

/-- Restricted to its own addresses a pool refines the set allocator: every run
is a run of the set allocator from the full range, with the same operations and
the same results, that ends in the set of the free offsets of the pool, and
pools with the same free offsets are equal. -/
theorem refines_setAllocator (first range : BitVec 32) (proper : ProperRange first range)
    (records : List (StepRecord Ipv4Pool Operation Result)) (pool : Ipv4Pool)
    (run : Run step (ofRange first range) records pool)
    (own : ∀ record ∈ records, ∀ a, record.action = .freeAddress a → InRange first range a) :
    (∃ abstractRecords, Run (SetAllocator.step first) (Finset.range range.toNat) abstractRecords
        (freeOffsets range pool) ∧
      abstractRecords.map StepRecord.action = records.map StepRecord.action ∧
      trace abstractRecords = trace records) ∧
      ∀ (otherRecords : List (StepRecord Ipv4Pool Operation Result)) (other : Ipv4Pool),
        Run step (ofRange first range) otherRecords other →
        (∀ record ∈ otherRecords, ∀ a, record.action = .freeAddress a → InRange first range a) →
        freeOffsets range pool = freeOffsets range other → pool = other := by
  have simulated : ∀ (records : List (StepRecord Ipv4Pool Operation Result)) (pool : Ipv4Pool),
      Run step (ofRange first range) records pool →
      (∀ record ∈ records, ∀ a, record.action = .freeAddress a → InRange first range a) →
      ∃ abstractRecords free, Run (SetAllocator.step first) (Finset.range range.toNat)
          abstractRecords free ∧
        abstractRecords.map StepRecord.action = records.map StepRecord.action ∧
        trace abstractRecords = trace records ∧ Refines first range pool free := by
    intro records pool run own
    apply run.simulated (Refines first range)
      (fun operation => ∀ a, operation = .freeAddress a → InRange first range a)
      ⟨intact_ofRange proper, freeOffsets_ofRange⟩ ?_ own
    intro state free operation next events refines placed taken
    cases operation with
    | allocAddress =>
        obtain ⟨rest, taken', kept⟩ := refines.allocAddress
        cases taken
        exact ⟨rest, taken', kept⟩
    | freeAddress a =>
        obtain ⟨done, kept⟩ := refines.freeAddress proper (placed a rfl)
        rw [step, done] at taken
        cases taken
        exact ⟨_, rfl, kept⟩
  obtain ⟨abstractRecords, free, ran, actions, events, intact, rfl⟩ :=
    simulated records pool run own
  refine ⟨⟨abstractRecords, ran, actions, events⟩, ?_⟩
  intro otherRecords other otherRun otherOwn same
  obtain ⟨-, -, -, -, -, otherIntact, -⟩ := simulated otherRecords other otherRun otherOwn
  exact intact.eq_of_freeOffsets otherIntact same

/-- The pool 12.1.1.2 to 12.1.1.4, of which the second address is released and
handed out again. -/
theorem refines_setAllocator_of_three : ∃ records pool abstractRecords,
    Run step (ofRange 0x0C010102 3) records pool ∧
      trace records = [.allocated (some 0x0C010102), .allocated (some 0x0C010103), .freed true,
        .allocated (some 0x0C010103)] ∧
      Run (SetAllocator.step 0x0C010102) (Finset.range 3) abstractRecords {2} ∧
      trace abstractRecords = trace records := by
  have run := ((((Run.initial step (ofRange 0x0C010102 3)).andThen .allocAddress rfl).andThen
    .allocAddress rfl).andThen (.freeAddress 0x0C010103) rfl).andThen .allocAddress rfl
  obtain ⟨⟨abstractRecords, ran, -, events⟩, -⟩ := refines_setAllocator 0x0C010102 3
    ⟨by decide, by decide⟩ _ _ run (by
      simp only [List.nil_append, List.cons_append, List.forall_mem_cons]
      refine ⟨by simp, by simp, ?_, by simp, by simp⟩
      intro a released
      cases released
      decide)
  refine ⟨_, _, abstractRecords, run, by decide, ?_, events⟩
  have last : freeOffsets 3 (((((ofRange 0x0C010102 3).allocAddress.2).allocAddress.2).freeAddress
      0x0C010103).2.allocAddress.2) = {2} := by decide
  rw [← last]
  exact ran

end Ipv4Pool

end OpenairSpgwc.Pgw
