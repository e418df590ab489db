import OpenairSpgwc.Foundation.Bitmap
import OpenairSpgwc.Foundation.Transition

/-!
Contract: `ipv4_pool` of `pgw_paa_dynamic.hpp`.

A pool is a bitmap of 32-bit words in a `std::map<int, uint32_t>`. Addresses
are 32-bit values in host byte order; `in_pool` and `free_address` compare and
index by a signed 32-bit difference that wraps around, as on the machines the
program is built for.

Owns:
- the pool, its constructor and its three operations;
- the invariant of a pool that was only given releases it can place, and what
  each operation does under it;
- which released addresses leave a pool as it was.
-/

namespace OpenairSpgwc.Pgw

open Foundation

structure Ipv4Pool where
  start : BitVec 32
  num : Int
  alloc : Bitmap 32

namespace Ipv4Pool

/-- The default constructor. -/
def empty : Ipv4Pool := ⟨0, 0, ∅⟩

/-- The loop of the constructor: words `0` to `count - 1`, all bits free. -/
def zeroWords : Nat → Bitmap 32
  | 0 => ∅
  | count + 1 => (zeroWords count).insert count 0

/-- `ipv4_pool(first, range)`: the bits of the last word that stand for no
address are set from the start. -/
def ofRange (first range : BitVec 32) : Ipv4Pool where
  start := first
  num := range.toInt
  alloc :=
    let words := zeroWords (range.toNat / 32)
    if range.toNat % 32 ≠ 0 then
      words.insert (range.toNat / 32 : Nat) (BitVec.allOnes 32 <<< (range.toNat % 32))
    else
      words

/-- `alloc_free_bit`. `operator[]` makes a missing word, which is zero and so is
the one that the scan then takes its bit from. -/
def allocFreeBit (pool : Ipv4Pool) : Option (Nat × Ipv4Pool) :=
  match pool.alloc.scan pool.alloc.size 0 with
  | none => none
  | some (bitPos, words) => some (bitPos, { pool with alloc := words })

/-- `free_bit`; `>> 5` and `& 0x1F` of a negative position round down. -/
def freeBit (pool : Ipv4Pool) (bitPos : Int) : Bool × Ipv4Pool :=
  if bitPos < pool.num then
    (true, { pool with alloc := pool.alloc.clearBit (bitPos / 32) (bitPos % 32).toNat })
  else
    (false, pool)

/-- `alloc_address`; `none` when it returns false. -/
def allocAddress (pool : Ipv4Pool) : Option (BitVec 32) × Ipv4Pool :=
  match pool.allocFreeBit with
  | none => (none, pool)
  | some (bitPos, next) => (some (pool.start + BitVec.ofNat 32 bitPos), next)

def inPool (pool : Ipv4Pool) (a : BitVec 32) : Bool :=
  decide ((a - pool.start).toInt < pool.num)

def freeAddress (pool : Ipv4Pool) (allocated : BitVec 32) : Bool × Ipv4Pool :=
  if pool.inPool allocated then
    pool.freeBit (allocated - pool.start).toInt
  else
    (false, pool)

/-! ## Runs of operations -/

inductive Operation where
  | allocAddress
  | freeAddress (allocated : BitVec 32)
deriving DecidableEq

inductive Result where
  | allocated (address : Option (BitVec 32))
  | freed (done : Bool)
deriving DecidableEq

def step (pool : Ipv4Pool) : Operation → Option (Ipv4Pool × List Result)
  | .allocAddress => some (pool.allocAddress.2, [.allocated pool.allocAddress.1])
  | .freeAddress a => some ((pool.freeAddress a).2, [.freed (pool.freeAddress a).1])

/-- What a sequence of operations returns, oldest first. -/
def results (pool : Ipv4Pool) (operations : List Operation) : Option (List Result) :=
  (execute step pool operations).map fun finished => trace finished.1

end Ipv4Pool

/-- The addresses `first`, ..., `first + range - 1`. -/
def InRange (first range a : BitVec 32) : Prop :=
  first.toNat ≤ a.toNat ∧ a.toNat < first.toNat + range.toNat

instance (first range a : BitVec 32) : Decidable (InRange first range a) := by
  unfold InRange
  infer_instance

/-- A range that does not pass the last address, small enough for an `int`. -/
structure ProperRange (first range : BitVec 32) : Prop where
  fits : first.toNat + range.toNat ≤ 2 ^ 32
  small : range.toNat < 2 ^ 31

section Range

variable {first range a : BitVec 32}

theorem ProperRange.num_eq (proper : ProperRange first range) :
    range.toInt = range.toNat := by
  rw [BitVec.toInt_eq_toNat_of_lt]
  have := proper.small
  omega

theorem ProperRange.inRange_iff (proper : ProperRange first range) :
    InRange first range a ↔ (a - first).toNat < range.toNat := by
  have fits := proper.fits
  have small := proper.small
  have bound := a.isLt
  have firstBound := first.isLt
  rw [InRange, BitVec.toNat_sub]
  omega

/-- The signed distance is not below the range exactly when the unsigned one
has its sign bit clear and the address is outside the range. -/
theorem ProperRange.toInt_lt_iff (proper : ProperRange first range) :
    (a - first).toInt < range.toInt ↔
      InRange first range a ∨ 2 ^ 31 ≤ (a - first).toNat := by
  have small := proper.small
  rw [proper.inRange_iff, proper.num_eq, BitVec.toInt_eq_toNat_cond]
  split <;> omega

end Range

namespace Ipv4Pool

variable {first range a : BitVec 32} {pool next : Ipv4Pool} {records : List (StepRecord _ _ _)}

/-! ## Words that are there -/

/-- The words a pool of `range` addresses is built with. -/
def wordCount (range : BitVec 32) : Nat := (range.toNat + 31) / 32

theorem mem_zeroWords {count : Nat} {key : Int} :
    key ∈ zeroWords count ↔ 0 ≤ key ∧ key < count := by
  induction count with
  | zero =>
      simp only [zeroWords, Std.ExtTreeMap.not_mem_empty, false_iff]
      omega
  | succ count inductionHypothesis =>
      rw [zeroWords, Std.ExtTreeMap.mem_insert, inductionHypothesis, compare_eq_iff_eq]
      omega

theorem size_zeroWords (count : Nat) : (zeroWords count).size = count := by
  induction count with
  | zero => rfl
  | succ count inductionHypothesis =>
      have fresh : (count : Int) ∉ zeroWords count := by
        rw [mem_zeroWords]
        omega
      rw [zeroWords, Bitmap.size_insert_of_not_mem fresh, inductionHypothesis]

/-- A pool that has the words it was built with, the unused bits of the last
one set. -/
structure Intact (first range : BitVec 32) (pool : Ipv4Pool) : Prop where
  start : pool.start = first
  num : pool.num = range.toNat
  size : pool.alloc.size = wordCount range
  keys : ∀ key, key ∈ pool.alloc ↔ 0 ≤ key ∧ key < wordCount range
  padding : ∀ offset : Nat, range.toNat ≤ offset → offset < 32 * wordCount range →
    pool.alloc.bit offset = true

theorem intact_ofRange_num (first range : BitVec 32) :
    Intact first range { ofRange first range with num := range.toNat } := by
  have split := Nat.div_add_mod range.toNat 32
  by_cases partly : range.toNat % 32 = 0
  · have words : wordCount range = range.toNat / 32 := by
      unfold wordCount
      omega
    refine ⟨rfl, rfl, ?_, ?_, ?_⟩
    · simp only [ofRange, partly, ne_eq, not_true_eq_false, if_false]
      rw [size_zeroWords, words]
    · intro key
      simp only [ofRange, partly, ne_eq, not_true_eq_false, if_false]
      rw [mem_zeroWords, words]
    · intro offset atLeast less
      omega
  · have words : wordCount range = range.toNat / 32 + 1 := by
      unfold wordCount
      omega
    have fresh : ((range.toNat / 32 : Nat) : Int) ∉ zeroWords (range.toNat / 32) := by
      rw [mem_zeroWords]
      omega
    refine ⟨rfl, rfl, ?_, ?_, ?_⟩
    · simp only [ofRange, partly, ne_eq, not_false_eq_true, if_true]
      rw [Bitmap.size_insert_of_not_mem fresh, size_zeroWords, words]
    · intro key
      simp only [ofRange, partly, ne_eq, not_false_eq_true, if_true]
      rw [Std.ExtTreeMap.mem_insert, mem_zeroWords, compare_eq_iff_eq, words]
      omega
    · intro offset atLeast less
      simp only [ofRange, partly, ne_eq, not_false_eq_true, if_true]
      obtain ⟨position, rfl⟩ : ∃ position, offset = 32 * (range.toNat / 32) + position :=
        Nat.exists_eq_add_of_le (by omega)
      have inside : position < 32 := by omega
      rw [Bitmap.bit_of_position inside, Bitmap.word_insert, if_pos rfl]
      simp only [BitVec.getLsbD_shiftLeft, BitVec.getLsbD_allOnes, Bool.and_eq_true,
        Bool.not_eq_true', decide_eq_true_eq, decide_eq_false_iff_not]
      omega

theorem intact_ofRange (proper : ProperRange first range) :
    Intact first range (ofRange first range) := by
  have same : ofRange first range = { ofRange first range with num := range.toNat } := by
    rw [← proper.num_eq]
    rfl
  rw [same]
  exact intact_ofRange_num first range

/-- Writing a word that is there keeps a pool intact if it keeps the padding. -/
theorem Intact.write (intact : Intact first range pool) {key : Int} {value : BitVec 32}
    (present : key ∈ pool.alloc)
    (padding : ∀ offset : Nat, range.toNat ≤ offset → pool.alloc.bit offset = true →
      Bitmap.bit (pool.alloc.insert key value) offset = true) :
    Intact first range { pool with alloc := pool.alloc.insert key value } where
  start := intact.start
  num := intact.num
  size := by
    show (pool.alloc.insert key value).size = wordCount range
    rw [Bitmap.size_insert_of_mem present, intact.size]
  keys other := by
    rw [Std.ExtTreeMap.mem_insert, compare_eq_iff_eq, ← intact.keys]
    constructor
    · rintro (rfl | member)
      · exact present
      · exact member
    · exact .inr
  padding offset atLeast less := padding offset atLeast (intact.padding offset atLeast less)

/-- What a successful `alloc_address` does, on any pool: it sets a clear bit,
below which all bits are set. -/
theorem allocAddress_spec (allocated : pool.allocAddress = (some a, next)) :
    ∃ bitPos key position : Nat, pool.allocFreeBit = some (bitPos, next) ∧
      a = pool.start + BitVec.ofNat 32 bitPos ∧ key < pool.alloc.size ∧ position < 32 ∧
      bitPos = 32 * key + position ∧
      next = { pool with alloc := pool.alloc.setBit key position } ∧
      pool.alloc.bit bitPos = false ∧ ∀ j < bitPos, pool.alloc.bit (j : Nat) = true := by
  simp only [allocAddress] at allocated
  split at allocated
  · cases allocated
  · next bitPos taken found =>
      cases allocated
      have shape := found
      simp only [allocFreeBit] at shape
      split at shape
      · cases shape
      · next words scanned =>
          cases shape
          obtain ⟨key, position, -, upper, inside, located, rfl, clear, below⟩ :=
            Bitmap.scan_eq_some scanned
          refine ⟨bitPos, key, position, found, rfl, by omega, inside, located, rfl, clear, ?_⟩
          exact fun j less => below j (by omega) less

/-- A failed `alloc_address` changes nothing. -/
theorem eq_of_allocAddress_eq_none (failed : pool.allocAddress = (none, next)) : next = pool := by
  simp only [allocAddress] at failed
  split at failed
  · cases failed
    rfl
  · cases failed

/-! ## The operations on an intact pool -/

/-- `alloc_address` takes the lowest free offset. -/
theorem Intact.allocAddress_eq_some (intact : Intact first range pool)
    (allocated : pool.allocAddress = (some a, next)) :
    Intact first range next ∧ ∃ k < range.toNat, a = first + BitVec.ofNat 32 k ∧
      pool.alloc.bit k = false ∧ (∀ j < k, pool.alloc.bit (j : Nat) = true) ∧
      ∀ offset, next.alloc.bit offset = (pool.alloc.bit offset || decide (offset = k)) := by
  obtain ⟨bitPos, key, position, -, rfl, upper, inside, located, rfl, clear, below⟩ :=
    allocAddress_spec allocated
  rw [intact.size] at upper
  have small : bitPos < range.toNat := by
    by_contra! beyond
    rw [intact.padding bitPos beyond (by omega)] at clear
    cases clear
  have changed : ∀ offset, (pool.alloc.setBit key position).bit offset =
      (pool.alloc.bit offset || decide (offset = bitPos)) := by
    intro offset
    rw [Bitmap.bit_setBit _ _ inside, located]
    push_cast
    rfl
  refine ⟨?_, bitPos, small, by rw [intact.start], clear, below, changed⟩
  apply intact.write ((intact.keys key).mpr (by omega))
  intro offset _ set
  have kept := changed offset
  rw [set, Bool.true_or] at kept
  exact kept

/-- `alloc_address` fails only when no offset is free. -/
theorem Intact.allocAddress_eq_none (intact : Intact first range pool)
    (exhausted : pool.allocAddress = (none, next)) :
    ∀ k < range.toNat, pool.alloc.bit (k : Nat) = true := by
  simp only [allocAddress, allocFreeBit] at exhausted
  split at exhausted
  · next failed =>
      split at failed
      · next scanned =>
          refine fun k less => Bitmap.scan_eq_none scanned k (by omega) ?_
          have : range.toNat ≤ 32 * wordCount range := by
            unfold wordCount
            omega
          rw [intact.size]
          omega
      · cases failed
  · cases exhausted

/-- `free_address` of an address of the range clears its bit. -/
theorem Intact.freeAddress_of_inRange (proper : ProperRange first range)
    (intact : Intact first range pool) (inRange : InRange first range a) :
    (pool.freeAddress a).1 = true ∧ Intact first range (pool.freeAddress a).2 ∧
      ∀ offset, (pool.freeAddress a).2.alloc.bit offset =
        (pool.alloc.bit offset && !decide (offset = (a - first).toNat)) := by
  have less := proper.inRange_iff.mp inRange
  have small := proper.small
  have distance : (a - first).toInt = (a - first).toNat := by
    rw [BitVec.toInt_eq_toNat_of_lt]
    omega
  have accepted : pool.inPool a = true := by
    simp only [inPool, intact.start, intact.num, distance, decide_eq_true_eq]
    omega
  have freed : pool.freeAddress a = (true, { pool with
      alloc := pool.alloc.clearBit ((a - first).toNat / 32) ((a - first).toNat % 32) }) := by
    rw [freeAddress, if_pos accepted, freeBit, intact.start, distance,
      if_pos (by rw [intact.num]; omega)]
    rfl
  have changed : ∀ offset, Bitmap.bit
      (pool.alloc.clearBit ((a - first).toNat / 32) ((a - first).toNat % 32)) offset =
        (pool.alloc.bit offset && !decide (offset = (a - first).toNat)) := by
    intro offset
    have whole : ((32 : Nat) : Int) * ((a - first).toNat / 32) + ((a - first).toNat % 32 : Nat) =
        (a - first).toNat := by
      omega
    rw [Bitmap.bit_clearBit _ _ (Nat.mod_lt _ (by omega)), whole]
  rw [freed]
  refine ⟨rfl, ?_, changed⟩
  apply intact.write ((intact.keys _).mpr ?_)
  · intro offset atLeast set
    have kept := changed offset
    rw [set, decide_eq_false (by omega)] at kept
    exact kept
  · unfold wordCount
    omega

theorem freeAddress_of_not_inPool (foreign : pool.inPool a = false) :
    pool.freeAddress a = (false, pool) := by
  rw [freeAddress, foreign, if_neg (by decide)]

/-! ## Operations that leave a pool as it was -/

/-- The release of `a` is refused, or it clears a clear bit of a word that is there. -/
def Spares (pool : Ipv4Pool) (a : BitVec 32) : Prop :=
  pool.inPool a = false ∨
    ((a - pool.start).toInt / 32 ∈ pool.alloc ∧ pool.alloc.bit (a - pool.start).toInt = false)

theorem freeAddress_eq_self_iff : (pool.freeAddress a).2 = pool ↔ pool.Spares a := by
  unfold Spares
  by_cases accepted : pool.inPool a = true
  · have below : (a - pool.start).toInt < pool.num := by simpa [inPool] using accepted
    have inside : ((a - pool.start).toInt % 32).toNat < 32 := by omega
    have whole : ((32 : Nat) : Int) * ((a - pool.start).toInt / 32) +
        ((a - pool.start).toInt % 32).toNat = (a - pool.start).toInt := by
      omega
    have words := Bitmap.clearBit_eq_self_iff pool.alloc ((a - pool.start).toInt / 32) inside
    rw [whole] at words
    rw [freeAddress, if_pos accepted, freeBit, if_pos below, accepted]
    simp only [Bool.true_eq_false, false_or]
    rw [← words]
    constructor
    · exact fun same => congrArg Ipv4Pool.alloc same
    · intro same
      rw [same]
  · have refused := Bool.eq_false_iff.mpr accepted
    rw [freeAddress_of_not_inPool refused]
    simp [refused]

/-- The position that `alloc_free_bit` would take lies in the range of the pool
and in a word that is there. -/
def TakesBack (pool : Ipv4Pool) : Prop :=
  ∃ bitPos next, pool.allocFreeBit = some (bitPos, next) ∧ bitPos < 2 ^ 31 ∧
    (bitPos : Int) < pool.num ∧ ((bitPos / 32 : Nat) : Int) ∈ pool.alloc

theorem allocAddress_ne_self (allocated : pool.allocAddress = (some a, next)) : next ≠ pool := by
  obtain ⟨bitPos, key, position, -, -, -, inside, located, rfl, clear, -⟩ :=
    allocAddress_spec allocated
  intro same
  have words : pool.alloc.setBit key position = pool.alloc := congrArg Ipv4Pool.alloc same
  have set := Bitmap.bit_setBit pool.alloc key inside bitPos
  rw [words, clear, located, decide_eq_true (by push_cast; rfl)] at set
  cases set

/-- A pool takes the address back that it has just given exactly when the
position meets both conditions. -/
theorem freeAddress_allocated_iff (allocated : pool.allocAddress = (some a, next)) :
    (next.freeAddress a).2 = pool ↔ pool.TakesBack := by
  have changed := allocAddress_ne_self allocated
  obtain ⟨bitPos, key, position, found, rfl, -, inside, located, rfl, clear, -⟩ :=
    allocAddress_spec allocated
  have unique : pool.TakesBack ↔ bitPos < 2 ^ 31 ∧ (bitPos : Int) < pool.num ∧
      ((bitPos / 32 : Nat) : Int) ∈ pool.alloc := by
    constructor
    · rintro ⟨other, after, found', conditions⟩
      rw [found] at found'
      cases found'
      exact conditions
    · exact fun conditions => ⟨bitPos, _, found, conditions⟩
  have distance : pool.start + BitVec.ofNat 32 bitPos - pool.start = BitVec.ofNat 32 bitPos := by
    rw [BitVec.add_comm, BitVec.add_sub_cancel]
  have whole : bitPos < 2 ^ 31 → (BitVec.ofNat 32 bitPos).toInt = bitPos := by
    intro small
    have fits : bitPos % 2 ^ 32 = bitPos := Nat.mod_eq_of_lt (by omega)
    rw [BitVec.toInt_eq_toNat_of_lt, BitVec.toNat_ofNat, fits]
    rw [BitVec.toNat_ofNat, fits]
    omega
  rw [unique]
  by_cases accepted : (BitVec.ofNat 32 bitPos).toInt < pool.num
  · have freed : (freeAddress { pool with alloc := pool.alloc.setBit key position }
        (pool.start + BitVec.ofNat 32 bitPos)).2 = { pool with
          alloc := (pool.alloc.setBit key position).clearBit
            ((BitVec.ofNat 32 bitPos).toInt / 32)
            ((BitVec.ofNat 32 bitPos).toInt % 32).toNat } := by
      simp [freeAddress, inPool, freeBit, distance, accepted]
    rw [freed]
    by_cases small : bitPos < 2 ^ 31
    · rw [whole small]
      have index : (bitPos : Int) / 32 = key := by omega
      have rest : ((bitPos : Int) % 32).toNat = position := by omega
      rw [whole small] at accepted
      rw [index, rest, show bitPos / 32 = key by omega,
        ← Bitmap.clearBit_setBit_eq_self_iff pool.alloc key inside (by rw [← clear, located]; rfl)]
      constructor
      · exact fun same => ⟨small, accepted, congrArg Ipv4Pool.alloc same⟩
      · rintro ⟨-, -, same⟩
        rw [same]
    · -- Another bit is cleared, and the one that was set stays set.
      refine iff_of_false (fun same => ?_) fun conditions => small conditions.1
      have above : (BitVec.ofNat 32 bitPos).toInt < 2 ^ 31 := BitVec.toInt_lt
      have words : (pool.alloc.setBit key position).clearBit
          ((BitVec.ofNat 32 bitPos).toInt / 32) ((BitVec.ofNat 32 bitPos).toInt % 32).toNat =
          pool.alloc := congrArg Ipv4Pool.alloc same
      have cleared := Bitmap.bit_clearBit (pool.alloc.setBit key position)
        ((BitVec.ofNat 32 bitPos).toInt / 32)
        (show ((BitVec.ofNat 32 bitPos).toInt % 32).toNat < 32 by omega) bitPos
      rw [words, clear, Bitmap.bit_setBit _ _ inside, clear,
        decide_eq_true (by rw [located]; push_cast; rfl), decide_eq_false (by omega)] at cleared
      cases cleared
  · have refused : inPool { pool with alloc := pool.alloc.setBit key position }
        (pool.start + BitVec.ofNat 32 bitPos) = false := by
      simp [inPool, distance, accepted]
    rw [freeAddress_of_not_inPool refused]
    refine iff_of_false changed fun conditions => ?_
    apply accepted
    rw [whole conditions.1]
    exact conditions.2.1

/-! ## Foreign releases -/

/-- Releasing `a` is refused and leaves no trace in any later result. -/
def Undisturbed (pool : Ipv4Pool) (a : BitVec 32) : Prop :=
  pool.inPool a = false ∧ (pool.freeAddress a).1 = false ∧
    ∀ operations, results (pool.freeAddress a).2 operations = results pool operations

/-- The releases that an intact pool can place: of its own addresses, and of
those whose distance from the first one has its sign bit clear. -/
def Placeable (first range : BitVec 32) : Operation → Prop
  | .allocAddress => True
  | .freeAddress a => InRange first range a ∨ (a - first).toNat < 2 ^ 31

theorem allocAddress_bounds : pool.allocAddress.2.start = pool.start ∧
    pool.allocAddress.2.num = pool.num := by
  simp only [allocAddress, allocFreeBit]
  split
  · exact ⟨rfl, rfl⟩
  · next found =>
      split at found
      · cases found
      · cases found
        exact ⟨rfl, rfl⟩

theorem freeAddress_bounds : (pool.freeAddress a).2.start = pool.start ∧
    (pool.freeAddress a).2.num = pool.num := by
  simp only [freeAddress, freeBit]
  split
  · split <;> exact ⟨rfl, rfl⟩
  · exact ⟨rfl, rfl⟩

/-- No operation moves a pool. -/
theorem bounds_of_run (run : Run step (ofRange first range) records pool) :
    pool.start = first ∧ pool.num = range.toInt := by
  apply (run.invariant (fun state => state.start = first ∧ state.num = range.toInt)
    ⟨rfl, rfl⟩ ?_).1
  intro state operation next events bounds taken
  cases operation with
  | allocAddress =>
      cases taken
      rw [allocAddress_bounds.1, allocAddress_bounds.2]
      exact bounds
  | freeAddress a =>
      cases taken
      rw [freeAddress_bounds.1, freeAddress_bounds.2]
      exact bounds

theorem inPool_iff (proper : ProperRange first range)
    (bounds : pool.start = first ∧ pool.num = range.toInt) :
    pool.inPool a = true ↔ InRange first range a ∨ 2 ^ 31 ≤ (a - first).toNat := by
  rw [inPool, bounds.1, bounds.2, decide_eq_true_eq, proper.toInt_lt_iff]

/-- Of the foreign addresses, the ones that `in_pool` takes for negative
offsets are released. -/
theorem undisturbed_iff (proper : ProperRange first range)
    (bounds : pool.start = first ∧ pool.num = range.toInt)
    (foreign : ¬InRange first range a) :
    Undisturbed pool a ↔ (a - first).toNat < 2 ^ 31 := by
  have accepts := inPool_iff (a := a) proper bounds
  constructor
  · rintro ⟨refused, -, -⟩
    rw [refused] at accepts
    simp only [Bool.false_eq_true, false_iff, not_or] at accepts
    omega
  · intro near
    have refused : pool.inPool a = false := by
      rw [Bool.eq_false_iff, ne_eq, accepts]
      rintro (inside | far)
      · exact foreign inside
      · omega
    rw [Undisturbed, freeAddress_of_not_inPool refused]
    exact ⟨refused, rfl, fun _ => rfl⟩

/-- What holds of an intact pool and of the addresses it has given out. -/
theorem Intact.of_step (proper : ProperRange first range) {operation : Operation}
    {events : List Result} (intact : Intact first range pool)
    (placeable : Placeable first range operation)
    (taken : step pool operation = some (next, events)) :
    Intact first range next ∧ ∀ a, .allocated (some a) ∈ events → InRange first range a := by
  cases operation with
  | allocAddress =>
      cases taken
      generalize outcome : pool.allocAddress = result
      rcases result with ⟨_ | a, next⟩
      · rw [eq_of_allocAddress_eq_none outcome]
        exact ⟨intact, by simp⟩
      · obtain ⟨kept, k, less, rfl, -⟩ := intact.allocAddress_eq_some outcome
        refine ⟨kept, fun a member => ?_⟩
        simp only [List.mem_singleton, Result.allocated.injEq, Option.some.injEq] at member
        rw [member, proper.inRange_iff, BitVec.add_comm, BitVec.add_sub_cancel,
          BitVec.toNat_ofNat, Nat.mod_eq_of_lt (by have := range.isLt; omega)]
        exact less
  | freeAddress a =>
      cases taken
      refine ⟨?_, by simp⟩
      by_cases own : InRange first range a
      · exact (intact.freeAddress_of_inRange proper own).2.1
      · have near : (a - first).toNat < 2 ^ 31 := placeable.resolve_left own
        have bounds : pool.start = first ∧ pool.num = range.toInt :=
          ⟨intact.start, by rw [intact.num, proper.num_eq]⟩
        rw [freeAddress_of_not_inPool ((undisturbed_iff proper bounds own).mpr near).1]
        exact intact

theorem intact_of_run (proper : ProperRange first range)
    (run : Run step (ofRange first range) records pool)
    (placeable : ∀ record ∈ records, Placeable first range record.action) :
    Intact first range pool ∧
      ∀ a, .allocated (some a) ∈ trace records → InRange first range a := by
  apply run.history_invariant
    (fun past state => Intact first range state ∧
      ∀ a, .allocated (some a) ∈ past → InRange first range a)
    (fun _ operation => Placeable first range operation)
    ⟨intact_ofRange proper, by simp⟩ ?_ placeable
  rintro past state operation next events ⟨intact, inside⟩ meets taken
  obtain ⟨kept, new⟩ := intact.of_step proper meets taken
  refine ⟨kept, fun a member => ?_⟩
  rcases List.mem_append.mp member with member | member
  · exact inside a member
  · exact new a member

/-- In every state of every run, the release of a foreign address leaves the
pool undisturbed exactly when the address lies less than `2 ^ 31` above the
first one, counted modulo `2 ^ 32`. While only such foreign addresses are
released, no address outside the range is allocated. -/
theorem foreign_release_undisturbed_iff (first range : BitVec 32)
    (proper : ProperRange first range) (records : List (StepRecord Ipv4Pool Operation Result))
    (pool : Ipv4Pool) (run : Run step (ofRange first range) records pool) :
    (∀ a, ¬InRange first range a → (Undisturbed pool a ↔ (a - first).toNat < 2 ^ 31)) ∧
      ((∀ record ∈ records, ∀ a, record.action = .freeAddress a → ¬InRange first range a →
          (a - first).toNat < 2 ^ 31) →
        ∀ a, .allocated (some a) ∈ trace records → InRange first range a) := by
  refine ⟨fun a foreign => undisturbed_iff proper (bounds_of_run run) foreign, ?_⟩
  intro near
  apply (intact_of_run proper run ?_).2
  intro record member
  cases released : record.action with
  | allocAddress => trivial
  | freeAddress a =>
      by_cases own : InRange first range a
      · exact .inl own
      · exact .inr (near record member a released own)

/-- The pool 12.1.1.2 to 12.1.1.5: 12.1.1.9 may be released, 12.1.1.1 may not. -/
theorem foreign_release_of_neighbours :
    (Undisturbed (ofRange 0x0C010102 4) 0x0C010109 ↔
        (0x0C010109 - 0x0C010102 : BitVec 32).toNat < 2 ^ 31) ∧
      (Undisturbed (ofRange 0x0C010102 4) 0x0C010101 ↔
        (0x0C010101 - 0x0C010102 : BitVec 32).toNat < 2 ^ 31) := by
  have neighbours := (foreign_release_undisturbed_iff 0x0C010102 4 ⟨by decide, by decide⟩ [] _
    .nil).1
  exact ⟨neighbours 0x0C010109 (by decide), neighbours 0x0C010101 (by decide)⟩

/-- The release of the address below a pool of one address is accepted and adds
a word to it; the second allocation then is of an address outside the pool. -/
theorem foreign_release_disturbs :
    ProperRange 0x0C010102 1 ∧ ¬InRange 0x0C010102 1 0x0C010101 ∧
      (ofRange 0x0C010102 1).inPool 0x0C010101 = true ∧
      results (ofRange 0x0C010102 1) [.freeAddress 0x0C010101, .allocAddress, .allocAddress] =
        some [.freed true, .allocated (some 0x0C010102), .allocated (some 0x0C010122)] ∧
      results (ofRange 0x0C010102 1) [.allocAddress, .allocAddress] =
        some [.allocated (some 0x0C010102), .allocated none] ∧
      ¬InRange 0x0C010102 1 0x0C010122 ∧ ¬Undisturbed (ofRange 0x0C010102 1) 0x0C010101 := by
  refine ⟨⟨by decide, by decide⟩, by decide, by decide, by decide, by decide, by decide, ?_⟩
  rintro ⟨refused, -⟩
  exact absurd refused (by decide)

end Ipv4Pool

end OpenairSpgwc.Pgw
