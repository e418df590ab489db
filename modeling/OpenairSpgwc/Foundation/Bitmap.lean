import Mathlib.Tactic
import Std.Data.ExtTreeMap.Lemmas

/-!
Contract: bitmaps kept as a map from word indices to words of `w` bits.

A missing word reads as zero and comes into being when it is written, so the
number of words present is part of the state: a scan that is bounded by it sees
one word more after every write to a missing one.

Owns:
- single bits of such a map, their setting and clearing;
- the scan for the lowest clear bit, word by word, and what it finds.
-/

namespace OpenairSpgwc.Foundation

open Std (ExtTreeMap)

/-- The first clear bit of `word` from `position` on, looking at `fuel` bits. -/
def clearBitFrom {w : Nat} (word : BitVec w) : Nat → Nat → Nat
  | 0, position => position
  | fuel + 1, position =>
      if word.getLsbD position then clearBitFrom word fuel (position + 1) else position

abbrev Bitmap (w : Nat) := ExtTreeMap Int (BitVec w)

namespace Bitmap

variable {w : Nat}

/-- The word that is read at `key`. -/
def word (words : Bitmap w) (key : Int) : BitVec w := words[key]?.getD 0

def bit (words : Bitmap w) (offset : Int) : Bool :=
  (words.word (offset / w)).getLsbD (offset % w).toNat

def setBit (words : Bitmap w) (key : Int) (position : Nat) : Bitmap w :=
  words.insert key (words.word key ||| BitVec.twoPow w position)

def clearBit (words : Bitmap w) (key : Int) (position : Nat) : Bitmap w :=
  words.insert key (words.word key &&& ~~~BitVec.twoPow w position)

/-- Set the first clear bit of the words `key`, `key + 1`, ..., `fuel` of them,
and return its offset. -/
def scan (words : Bitmap w) : Nat → Nat → Option (Nat × Bitmap w)
  | 0, _ => none
  | fuel + 1, key =>
      if words.word key = BitVec.allOnes w then
        scan words fuel (key + 1)
      else
        let position := clearBitFrom (words.word key) w 0
        some (w * key + position, words.setBit key position)

end Bitmap

section ClearBit

variable {w : Nat} {word : BitVec w}

/-- The search stops at a clear bit, all bits it passed being set. -/
theorem clearBitFrom_spec {fuel position : Nat}
    (exists_clear : ∃ i, position ≤ i ∧ i < position + fuel ∧ word.getLsbD i = false) :
    clearBitFrom word fuel position < position + fuel ∧
      word.getLsbD (clearBitFrom word fuel position) = false ∧
      ∀ i, position ≤ i → i < clearBitFrom word fuel position → word.getLsbD i = true := by
  induction fuel generalizing position with
  | zero =>
      rcases exists_clear with ⟨i, lower, upper, _⟩
      omega
  | succ fuel inductionHypothesis =>
      rcases exists_clear with ⟨i, lower, upper, clear⟩
      rw [clearBitFrom]
      split
      · next set =>
          have later : position ≠ i := by
            intro same
            rw [same, clear] at set
            cases set
          obtain ⟨bound, found, passed⟩ := inductionHypothesis
            (show ∃ j, position + 1 ≤ j ∧ j < position + 1 + fuel ∧ _ from
              ⟨i, by omega, by omega, clear⟩)
          refine ⟨by omega, found, fun j fromPosition below => ?_⟩
          rcases Nat.eq_or_lt_of_le fromPosition with rfl | beyond
          · exact set
          · exact passed j beyond below
      · next stopped =>
          refine ⟨by omega, by simpa using stopped, fun j fromPosition below => ?_⟩
          omega

theorem exists_clear_of_ne_allOnes (free : word ≠ BitVec.allOnes w) :
    ∃ i < w, word.getLsbD i = false := by
  by_contra! full
  apply free
  apply BitVec.eq_of_getLsbD_eq
  intro i bound
  rw [BitVec.getLsbD_allOnes, decide_eq_true bound]
  simpa using full i bound

end ClearBit

namespace Bitmap

variable {w : Nat} {words : Bitmap w} {key : Int} {position : Nat}

@[simp] theorem word_empty : word (∅ : Bitmap w) key = 0 := by
  simp [word]

theorem word_insert {value : BitVec w} {other : Int} :
    word (words.insert key value) other = if key = other then value else words.word other := by
  simp only [word, ExtTreeMap.getElem?_insert, compare_eq_iff_eq]
  split <;> rfl

/-- Bitmaps with the same words present, equal where they are present. -/
theorem eq_of_words {left right : Bitmap w} (keys : ∀ key, key ∈ left ↔ key ∈ right)
    (same : ∀ key ∈ left, left.word key = right.word key) : left = right := by
  apply ExtTreeMap.ext_getElem?
  intro key
  by_cases present : key ∈ left
  · have there := (keys key).mp present
    have equal := same key present
    rw [word, word, ExtTreeMap.getElem?_eq_some_getElem present,
      ExtTreeMap.getElem?_eq_some_getElem there, Option.getD_some, Option.getD_some] at equal
    rw [ExtTreeMap.getElem?_eq_some_getElem present,
      ExtTreeMap.getElem?_eq_some_getElem there, equal]
  · rw [ExtTreeMap.getElem?_eq_none present,
      ExtTreeMap.getElem?_eq_none fun there => present ((keys key).mpr there)]

theorem size_insert_of_mem {value : BitVec w} (present : key ∈ words) :
    (words.insert key value).size = words.size := by
  rw [ExtTreeMap.size_insert, if_pos (ExtTreeMap.mem_iff_contains.mp present)]

theorem size_insert_of_not_mem {value : BitVec w} (missing : key ∉ words) :
    (words.insert key value).size = words.size + 1 := by
  rw [ExtTreeMap.size_insert, if_neg (mt ExtTreeMap.mem_iff_contains.mpr missing)]

/-- Offsets and pairs of a word index with a position in the word correspond. -/
theorem offset_eq_iff (key : Int) (inside : position < w) {offset : Int} :
    offset = w * key + position ↔ offset / w = key ∧ (offset % w).toNat = position := by
  have positive : (0 : Int) < w := by omega
  have lower := Int.emod_nonneg offset (Int.ne_of_gt positive)
  constructor
  · rintro rfl
    rw [Int.mul_add_ediv_left _ _ (Int.ne_of_gt positive), Int.mul_add_emod_self_left,
      Int.ediv_eq_zero_of_lt (by omega) (by omega), Int.emod_eq_of_lt (by omega) (by omega)]
    omega
  · rintro ⟨rfl, rfl⟩
    rw [Int.toNat_of_nonneg lower, Int.mul_ediv_add_emod]

theorem bit_setBit (words : Bitmap w) (key : Int) (inside : position < w) (offset : Int) :
    (words.setBit key position).bit offset =
      (words.bit offset || decide (offset = w * key + position)) := by
  simp only [bit, setBit, word_insert, offset_eq_iff key inside]
  by_cases here : key = offset / w
  · simp [here, BitVec.getLsbD_twoPow, inside, eq_comm]
  · simp [here, Ne.symm here]

theorem bit_clearBit (words : Bitmap w) (key : Int) (inside : position < w) (offset : Int) :
    (words.clearBit key position).bit offset =
      (words.bit offset && !decide (offset = w * key + position)) := by
  have bound : (offset % w).toNat < w := by
    have := Int.emod_lt_of_pos offset (show (0 : Int) < w by omega)
    omega
  simp only [bit, clearBit, word_insert, offset_eq_iff key inside]
  by_cases here : key = offset / w
  · simp [here, bound, eq_comm]
  · simp [here, Ne.symm here]

theorem insert_word_of_mem (present : key ∈ words) :
    words.insert key (words.word key) = words := by
  apply ExtTreeMap.ext_getElem?
  intro other
  rw [ExtTreeMap.getElem?_insert]
  split
  · next same =>
      rw [← compare_eq_iff_eq.mp same, word, ExtTreeMap.getElem?_eq_some_getElem present]
      rfl
  · rfl

/-- Clearing a bit changes nothing exactly when its word is there and it is clear. -/
theorem clearBit_eq_self_iff (words : Bitmap w) (key : Int) (inside : position < w) :
    words.clearBit key position = words ↔ key ∈ words ∧ words.bit (w * key + position) = false := by
  constructor
  · intro same
    rw [← same]
    refine ⟨by simp [clearBit, ExtTreeMap.mem_insert], ?_⟩
    rw [bit_clearBit _ _ inside]
    simp
  · rintro ⟨present, clear⟩
    obtain ⟨index, rest⟩ := (offset_eq_iff key inside).mp rfl
    have cleared : words.word key &&& ~~~BitVec.twoPow w position = words.word key := by
      rw [bit, index, rest] at clear
      apply BitVec.eq_of_getLsbD_eq
      intro i bound
      simp only [BitVec.getLsbD_and, BitVec.getLsbD_not, BitVec.getLsbD_twoPow]
      by_cases here : position = i
      · rw [← here, clear]
        rfl
      · simp [here, bound]
    rw [clearBit, cleared, insert_word_of_mem present]

/-- Setting a clear bit and clearing it again gives the map back exactly when
the word was there. -/
theorem clearBit_setBit_eq_self_iff (words : Bitmap w) (key : Int) (inside : position < w)
    (clear : words.bit (w * key + position) = false) :
    (words.setBit key position).clearBit key position = words ↔ key ∈ words := by
  obtain ⟨index, rest⟩ := (offset_eq_iff key inside).mp rfl
  have restored : (words.setBit key position).word key &&& ~~~BitVec.twoPow w position =
      words.word key := by
    rw [bit, index, rest] at clear
    rw [setBit, word_insert, if_pos rfl]
    apply BitVec.eq_of_getLsbD_eq
    intro i bound
    simp only [BitVec.getLsbD_and, BitVec.getLsbD_or, BitVec.getLsbD_not, BitVec.getLsbD_twoPow]
    by_cases here : position = i
    · rw [← here, clear]
      simp
    · simp [here, bound]
  have written : (words.setBit key position).clearBit key position =
      words.insert key (words.word key) := by
    rw [clearBit, restored, setBit]
    apply ExtTreeMap.ext_getElem?
    intro other
    simp only [ExtTreeMap.getElem?_insert]
    split <;> rfl
  rw [written]
  constructor
  · intro same
    rw [← same]
    simp [ExtTreeMap.mem_insert]
  · exact insert_word_of_mem

theorem bit_of_position {key : Nat} (inside : position < w) :
    words.bit (w * key + position : Nat) = (words.word key).getLsbD position := by
  obtain ⟨index, rest⟩ := (offset_eq_iff key inside).mp
    (show ((w * key + position : Nat) : Int) = w * (key : Int) + position by push_cast; rfl)
  rw [bit, index, rest]

/-- A full word has every one of its bits set. -/
theorem bit_of_word_eq_allOnes {key offset : Nat} (full : words.word key = BitVec.allOnes w)
    (atLeast : w * key ≤ offset) (less : offset < w * (key + 1)) : words.bit offset = true := by
  obtain ⟨position, rfl⟩ := Nat.exists_eq_add_of_le atLeast
  have inside : position < w := by
    rw [Nat.mul_succ] at less
    omega
  rw [bit_of_position inside, full, BitVec.getLsbD_allOnes]
  exact decide_eq_true inside

/-- What a scan of the words from `start` on finds: a clear bit, below which all
bits of these words are set. -/
theorem scan_eq_some {fuel start found : Nat} {next : Bitmap w}
    (scanned : words.scan fuel start = some (found, next)) :
    ∃ key position : Nat, start ≤ key ∧ key < start + fuel ∧ position < w ∧
      found = w * key + position ∧ next = words.setBit key position ∧
      words.bit found = false ∧
      ∀ offset : Nat, w * start ≤ offset → offset < found → words.bit offset = true := by
  induction fuel generalizing start with
  | zero => cases scanned
  | succ fuel inductionHypothesis =>
      rw [scan] at scanned
      split at scanned
      · next full =>
          obtain ⟨key, position, lower, upper, inside, located, written, clear, below⟩ :=
            inductionHypothesis scanned
          refine ⟨key, position, by omega, by omega, inside, located, written, clear,
            fun offset atLeast less => ?_⟩
          by_cases later : w * (start + 1) ≤ offset
          · exact below offset later less
          · exact bit_of_word_eq_allOnes full atLeast (by omega)
      · next free =>
          obtain ⟨i, bound, clear⟩ := exists_clear_of_ne_allOnes free
          have search := clearBitFrom_spec
            (show ∃ j, 0 ≤ j ∧ j < 0 + w ∧ (words.word start).getLsbD j = false from
              ⟨i, by omega, by omega, clear⟩)
          revert scanned search
          generalize clearBitFrom (words.word start) w 0 = position
          rintro scanned ⟨inside, stopped, passed⟩
          cases scanned
          refine ⟨start, position, le_rfl, by omega, by omega, rfl, rfl, ?_, ?_⟩
          · rw [bit_of_position (by omega)]
            exact stopped
          · intro offset atLeast less
            obtain ⟨before, rfl⟩ := Nat.exists_eq_add_of_le atLeast
            rw [bit_of_position (by omega)]
            exact passed before (by omega) (by omega)

/-- A scan fails only on full words. -/
theorem scan_eq_none {fuel start : Nat}
    (scanned : words.scan fuel start = none) (offset : Nat)
    (atLeast : w * start ≤ offset) (less : offset < w * (start + fuel)) :
    words.bit offset = true := by
  induction fuel generalizing start with
  | zero =>
      rw [Nat.add_zero] at less
      omega
  | succ fuel inductionHypothesis =>
      rw [scan] at scanned
      split at scanned
      · next full =>
          by_cases later : w * (start + 1) ≤ offset
          · exact inductionHypothesis scanned later (by linarith)
          · exact bit_of_word_eq_allOnes full atLeast (by omega)
      · cases scanned

end Bitmap

end OpenairSpgwc.Foundation
