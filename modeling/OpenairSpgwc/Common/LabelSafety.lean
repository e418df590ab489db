import OpenairSpgwc.Common.Labels
import OpenairSpgwc.Foundation.Walks

/-!
Contract: on which strings the label coding returns and stays inside of them.

Owns:
- `string_to_dotted` never writes outside of its buffer, and returns exactly when the
  8-bit offset meets a NUL before it wraps around;
- the places that `dotted_to_string` visits are a walk of a 16-bit offset. It returns
  within the string exactly when the walk is sound at each place and never comes round.
-/

namespace OpenairSpgwc.Common.Labels

open Foundation
open StateTransition

/-! ### `string_to_dotted` -/

section Dotting

variable {str : Octets} {s : Dotting}

/-- The offset and the place for the next length are in the buffer. -/
structure Inside (str : Octets) (s : Dotting) : Prop where
  offset : s.offset.toNat ≤ str.length
  lastSize : s.lastSize ≤ str.length
  value : s.value.length = str.length + 1

theorem charAt_of_le {index : Nat} (inside : index ≤ str.length) :
    ∃ octet, charAt str index = .ok octet ∧ (str ++ [0])[index]? = some octet := by
  have bound : index < (str ++ [0]).length := by
    rw [List.length_append, List.length_singleton]
    omega
  have found := List.getElem?_eq_getElem bound
  exact ⟨_, by rw [charAt, found], found⟩

/-- Only behind the string is there a NUL that the string has not. -/
theorem lt_of_ne_zero {index : Nat} {octet : Octet} (found : (str ++ [0])[index]? = some octet)
    (nonzero : octet ≠ 0) : index < str.length := by
  by_contra outside
  rw [List.getElem?_append_right (Nat.le_of_not_lt outside)] at found
  cases gap : index - str.length with
  | zero =>
      rw [gap] at found
      cases found
      exact nonzero rfl
  | succ gap' =>
      rw [gap] at found
      cases found

theorem store_of_le {value : Octets} {index : Nat} (size : value.length = str.length + 1)
    (inside : index ≤ str.length) (octet : Octet) :
    store value index octet = .ok (value.set index octet) :=
  if_pos (by omega)

theorem pass_of_inside (inside : Inside str s) {octet : Octet}
    (before : s.offset.toNat < str.length) :
    ∃ next, stringToDottedPass s octet = .ok next ∧ Inside str next ∧
      next.offset = s.offset + 1 := by
  -- The 8-bit offset may wrap, and is then smaller.
  have offset : (s.offset + 1).toNat ≤ str.length := by
    rw [BitVec.toNat_add]
    have wrapped := Nat.mod_le (s.offset.toNat + (1 : BitVec 8).toNat) (2 ^ 8)
    have one : (1 : BitVec 8).toNat = 1 := rfl
    omega
  rw [stringToDottedPass]
  by_cases isDot : octet = dot
  · rw [if_pos isDot, store_of_le inside.value inside.lastSize, ok_bind]
    refine ⟨_, rfl, ⟨offset, before, ?_⟩, rfl⟩
    rw [List.length_set]
    exact inside.value
  · rw [if_neg isDot, store_of_le inside.value (by omega), ok_bind]
    refine ⟨_, rfl, ⟨offset, inside.lastSize, ?_⟩, rfl⟩
    rw [List.length_set]
    exact inside.value

/-- The loop ends at a NUL, or it moves on by one and stays inside. -/
theorem dotting_pass (inside : Inside str s) :
    ((str ++ [0])[s.offset.toNat]? = some 0 ∧
        ∀ fuel, stringToDottedLoop str (fuel + 1) s = .ok s) ∨
      ∃ next, (str ++ [0])[s.offset.toNat]? ≠ some 0 ∧ Inside str next ∧
        next.offset = s.offset + 1 ∧
        ∀ fuel, stringToDottedLoop str (fuel + 1) s = stringToDottedLoop str fuel next := by
  obtain ⟨octet, read, found⟩ := charAt_of_le inside.offset
  by_cases ends : octet = 0
  · refine .inl ⟨by rw [found, ends], fun fuel => ?_⟩
    rw [stringToDottedLoop, read, ok_bind, if_pos ends]
    rfl
  · obtain ⟨next, passed, nextInside, offset⟩ :=
      @pass_of_inside _ _ inside octet (lt_of_ne_zero found ends)
    refine .inr ⟨next, ?_, nextInside, offset, fun fuel => ?_⟩
    · rw [found]
      exact fun same => ends (Option.some.inj same)
    · rw [stringToDottedLoop, read, ok_bind, if_neg ends, passed, ok_bind]

theorem inside_start (junk : Junk) (str : Octets) :
    Inside str { value := uninitialised junk (str.length + 1) } where
  offset := Nat.zero_le _
  lastSize := Nat.zero_le _
  value := length_uninitialised junk _

/-- Within any number of passes the loop writes to the buffer only. -/
theorem dotting_inside (inside : Inside str s) (fuel : Nat) :
    stringToDottedLoop str fuel s = .error .exhausted ∨
      ∃ last, Inside str last ∧ stringToDottedLoop str fuel s = .ok last := by
  induction fuel generalizing s with
  | zero => exact .inl rfl
  | succ fuel inductionHypothesis =>
      cases dotting_pass inside with
      | inl ended => exact .inr ⟨s, inside, ended.2 fuel⟩
      | inr moved =>
          obtain ⟨next, _, nextInside, _, same⟩ := moved
          rw [same]
          exact inductionHypothesis nextInside

/-- From an offset the loop reaches a NUL ahead, if the offset does not wrap before. -/
theorem dotting_returns (inside : Inside str s) {steps : Nat}
    (near : s.offset.toNat + steps < 2 ^ 8)
    (nul : (str ++ [0])[s.offset.toNat + steps]? = some 0) :
    ∃ fuel last, stringToDottedLoop str fuel s = .ok last := by
  induction steps generalizing s with
  | zero =>
      cases dotting_pass inside with
      | inl ended => exact ⟨1, s, ended.2 0⟩
      | inr moved =>
          obtain ⟨_, notNul, _⟩ := moved
          exact absurd nul notNul
  | succ steps inductionHypothesis =>
      cases dotting_pass inside with
      | inl ended => exact ⟨1, s, ended.2 0⟩
      | inr moved =>
          obtain ⟨next, _, nextInside, offset, same⟩ := moved
          have one : next.offset.toNat = s.offset.toNat + 1 := by
            rw [offset, BitVec.toNat_add_of_lt]
            · rfl
            · show s.offset.toNat + 1 < 2 ^ 8
              omega
          have ahead : s.offset.toNat + (steps + 1) = next.offset.toNat + steps := by omega
          rw [ahead] at near nul
          obtain ⟨fuel, last, returned⟩ := inductionHypothesis nextInside near nul
          exact ⟨fuel + 1, last, by rw [same, returned]⟩

/-- Without a NUL at any 8-bit offset the loop goes on for ever. -/
theorem dotting_exhausted (inside : Inside str s)
    (noNul : ∀ index < 2 ^ 8, (str ++ [0])[index]? ≠ some 0) (fuel : Nat) :
    stringToDottedLoop str fuel s = .error .exhausted := by
  induction fuel generalizing s with
  | zero => rfl
  | succ fuel inductionHypothesis =>
      cases dotting_pass inside with
      | inl ended => exact absurd ended.1 (noNul _ s.offset.isLt)
      | inr moved =>
          obtain ⟨next, _, nextInside, _, same⟩ := moved
          rw [same]
          exact inductionHypothesis nextInside

end Dotting

/-- A call returns, and none writes outside of the buffer or reads outside of the string. -/
def DotsSafely (stringToDotted : Nat → Junk → Octets → Attempt (Bool × Octets))
    (str : Octets) : Prop :=
  ∀ junk, (∃ fuel result, stringToDotted fuel junk str = .ok result) ∧
    ∀ fuel, stringToDotted fuel junk str ≠ .error .undefined

/-- The string is shorter than 256 octets, or there is a NUL among its first 256. -/
def EndsEarly (str : Octets) : Prop := str.length < 2 ^ 8 ∨ 0 ∈ str.take (2 ^ 8)

theorem endsEarly_iff (str : Octets) :
    EndsEarly str ↔ ∃ index < 2 ^ 8, (str ++ [0])[index]? = some 0 := by
  constructor
  · intro early
    cases early with
    | inl short => exact ⟨str.length, short, List.getElem?_concat_length⟩
    | inr nul =>
        obtain ⟨index, bound, found⟩ := List.mem_take_iff_getElem.mp nul
        have inside : index < str.length := lt_of_lt_of_le bound (Nat.min_le_right ..)
        refine ⟨index, lt_of_lt_of_le bound (Nat.min_le_left ..), ?_⟩
        rw [List.getElem?_append_left inside, List.getElem?_eq_getElem inside, found]
  · rintro ⟨index, small, found⟩
    by_cases inside : index < str.length
    · refine .inr (List.mem_take_iff_getElem.mpr ⟨index, by omega, ?_⟩)
      rw [List.getElem?_append_left inside, List.getElem?_eq_getElem inside] at found
      exact Option.some.inj found
    · exact .inl (by omega)

theorem dotsSafely_iff (str : Octets) : DotsSafely stringToDotted str ↔ EndsEarly str := by
  rw [endsEarly_iff]
  constructor
  · intro safe
    obtain ⟨⟨fuel, result, returned⟩, _⟩ := safe fun _ => 0
    by_contra noNul
    have never : ∀ index < 2 ^ 8, (str ++ [0])[index]? ≠ some 0 :=
      fun index small found => noNul ⟨index, small, found⟩
    rw [stringToDotted, dotting_exhausted (inside_start _ str) never, error_bind] at returned
    cases returned
  · rintro ⟨index, small, nul⟩ junk
    constructor
    · have start : ({ value := uninitialised junk (str.length + 1) } : Dotting).offset.toNat = 0 :=
        rfl
      obtain ⟨fuel, last, returned⟩ := @dotting_returns str _ (inside_start junk str) index
        (by rw [start, Nat.zero_add]; exact small) (by rw [start, Nat.zero_add]; exact nul)
      cases dotting_inside (inside_start junk str) fuel with
      | inl exhausted =>
          rw [exhausted] at returned
          cases returned
      | inr ended =>
          obtain ⟨other, inside, same⟩ := ended
          refine ⟨fuel, (true, other.value.set other.lastSize other.wordLength), ?_⟩
          rw [stringToDotted, same, ok_bind, store_of_le inside.value inside.lastSize, ok_bind]
          rfl
    · intro fuel faulty
      cases dotting_inside (inside_start junk str) fuel with
      | inl exhausted =>
          rw [stringToDotted, exhausted, error_bind] at faulty
          cases faulty
      | inr ended =>
          obtain ⟨other, inside, same⟩ := ended
          rw [stringToDotted, same, ok_bind, store_of_le inside.value inside.lastSize, ok_bind]
            at faulty
          cases faulty

/-! ### `dotted_to_string` -/

section Undotting

variable {dotted : Octets} {s next last : Undotting}

/-- The place after the word or the octet at an offset. -/
def follow (octet : Octet) (offset : BitVec 16) : BitVec 16 :=
  if octet.toInt < 64 then offset + 1 + octet.signExtend 16 else offset + 1

/-- The walk over the coded string. -/
def nextOffset (dotted : Octets) (offset : BitVec 16) : Option (BitVec 16) :=
  match dotted[offset.toNat]? with
  | none => none
  | some octet => some (follow octet offset)

/-- A length octet does not reach just one octet past the end, and an octet from 0x80 on,
a negative length, stands where it leads to before the start. -/
def SoundAt (dotted : Octets) (offset : BitVec 16) : Prop :=
  ∀ octet ∈ dotted[offset.toNat]?,
    (octet.toNat < 64 → offset.toNat + octet.toNat ≠ dotted.length) ∧
      (128 ≤ octet.toNat → offset.toNat + octet.toNat < 256)

/-- The walk from the start is sound at every place and never comes round. -/
def Walkable (dotted : Octets) : Prop :=
  (∀ offset, Reaches (nextOffset dotted) 0 offset → SoundAt dotted offset) ∧
    NeverRound (nextOffset dotted) 0

theorem toInt_of_lt {octet : Octet} (small : octet.toNat < 128) : octet.toInt = octet.toNat := by
  rw [BitVec.toInt_eq_toNat_cond, if_pos (by omega)]

theorem toInt_of_ge {octet : Octet} (large : 128 ≤ octet.toNat) :
    octet.toInt = octet.toNat - 256 := by
  rw [BitVec.toInt_eq_toNat_cond, if_neg (by omega)]
  norm_num

/-- What is kept of the string while it is read. -/
structure Faithful (dotted : Octets) (s : Undotting) : Prop where
  readEnd : s.readEnd ≤ dotted.length
  noDot : ∀ octet ∈ s.noDot, octet ∈ dotted ∨ octet = dot

theorem copyFrom_of_small {start count : Nat} (small : count < 64)
    (inside : start + count ≤ dotted.length + 1) :
    copyFrom dotted start count = .ok (((dotted ++ [0]).drop start).take count) := by
  rw [copyFrom, if_neg (by unfold maxSize; omega), if_pos inside]

section Pass

variable {octet : Octet}

/-- The state when the octet at the offset has been read. -/
def Undotting.reading (s : Undotting) : Undotting :=
  { s with readEnd := max s.readEnd (s.offset.toNat + 1) }

theorem charAt_of_found (found : dotted[s.offset.toNat]? = some octet) :
    charAt dotted s.offset.toNat = .ok octet := by
  obtain ⟨inside, _⟩ := List.getElem?_eq_some_iff.mp found
  rw [charAt, List.getElem?_append_left inside, found]

/-- A word that the string is long enough for. -/
theorem pass_word (found : dotted[s.offset.toNat]? = some octet) (label : octet.toNat < 64)
    (long : s.offset.toNat + octet.toNat ≤ dotted.length) :
    dottedToStringPass dotted s = .ok { s with
      offset := follow octet s.offset
      noDot := (if s.offset = 0 then s.noDot else s.noDot ++ [dot]) ++
        ((dotted ++ [0]).drop (s.offset.toNat + 1)).take octet.toNat
      readEnd := max s.reading.readEnd (s.offset.toNat + 1 + octet.toNat) } := by
  have positive : octet.toInt = octet.toNat := toInt_of_lt (by omega)
  have small : octet.toInt < 64 := by omega
  have count : (octet.toInt % 2 ^ 64).toNat = octet.toNat := by omega
  have fits : ((s.offset.toNat + octet.toInt) % 2 ^ 64).toNat ≤ dotted.length := by
    have inside := (List.getElem?_eq_some_iff.mp found).1
    have offset := s.offset.isLt
    omega
  rw [dottedToStringPass, charAt_of_found found, ok_bind]
  show (if octet.toInt < 64 then _ else _) = _
  rw [if_pos small, if_pos fits, appendWord, count, copyFrom_of_small label]
  · rw [follow, if_pos small]
    rfl
  · show s.offset.toNat + 1 + octet.toNat ≤ dotted.length + 1
    omega

/-- A word that is not there is left out. -/
theorem pass_skip (found : dotted[s.offset.toNat]? = some octet) (label : octet.toNat < 64)
    (short : dotted.length < s.offset.toNat + octet.toNat) :
    dottedToStringPass dotted s = .ok { s.reading with offset := follow octet s.offset } := by
  have positive : octet.toInt = octet.toNat := toInt_of_lt (by omega)
  have small : octet.toInt < 64 := by omega
  have beyond : ¬((s.offset.toNat + octet.toInt) % 2 ^ 64).toNat ≤ dotted.length := by
    have offset := s.offset.isLt
    omega
  rw [dottedToStringPass, charAt_of_found found, ok_bind]
  show (if octet.toInt < 64 then _ else _) = _
  rw [if_pos small, if_neg beyond, follow, if_pos small]
  rfl

/-- An octet that is no length is taken as it is. -/
theorem pass_char (found : dotted[s.offset.toNat]? = some octet) (large : 64 ≤ octet.toNat)
    (plain : octet.toNat < 128) :
    dottedToStringPass dotted s = .ok { s.reading with
      offset := follow octet s.offset
      noDot := s.noDot ++ [octet]
      result := false } := by
  have positive : octet.toInt = octet.toNat := toInt_of_lt plain
  have notSmall : ¬octet.toInt < 64 := by omega
  rw [dottedToStringPass, charAt_of_found found, ok_bind]
  show (if octet.toInt < 64 then _ else _) = _
  rw [if_neg notSmall, follow, if_neg notSmall]
  rfl

/-- A negative length that leads to before the start: the sum is a great number. -/
theorem pass_back (bounded : dotted.length ≤ 65534)
    (found : dotted[s.offset.toNat]? = some octet) (high : 128 ≤ octet.toNat)
    (near : s.offset.toNat + octet.toNat < 256) :
    dottedToStringPass dotted s = .ok { s.reading with offset := follow octet s.offset } := by
  have negative := toInt_of_ge high
  have small : octet.toInt < 64 := by
    have bound := octet.isLt
    omega
  have beyond : ¬((s.offset.toNat + octet.toInt) % 2 ^ 64).toNat ≤ dotted.length := by omega
  rw [dottedToStringPass, charAt_of_found found, ok_bind]
  show (if octet.toInt < 64 then _ else _) = _
  rw [if_pos small, if_neg beyond, follow, if_pos small]
  rfl

/-- Any other negative length is a great number of octets to append. -/
theorem pass_throws (found : dotted[s.offset.toNat]? = some octet) (high : 128 ≤ octet.toNat)
    (far : 256 ≤ s.offset.toNat + octet.toNat) :
    dottedToStringPass dotted s = .error (.thrown .lengthError) := by
  have negative := toInt_of_ge high
  have bound := octet.isLt
  have small : octet.toInt < 64 := by omega
  have fits : ((s.offset.toNat + octet.toInt) % 2 ^ 64).toNat ≤ dotted.length := by
    have inside := (List.getElem?_eq_some_iff.mp found).1
    omega
  have great : maxSize < (octet.toInt % 2 ^ 64).toNat := by
    unfold maxSize
    omega
  rw [dottedToStringPass, charAt_of_found found, ok_bind]
  show (if octet.toInt < 64 then _ else _) = _
  rw [if_pos small, if_pos fits, appendWord, copyFrom, if_pos great]
  rfl

theorem mem_of_getElem? {index : Nat} (found : dotted[index]? = some octet) : octet ∈ dotted :=
  List.mem_of_getElem? found

/-- Within the string the octets of a word are octets of the string. -/
theorem word_subset {start count : Nat} (inside : start + count ≤ dotted.length) :
    ∀ other ∈ ((dotted ++ [0]).drop start).take count, other ∈ dotted := by
  intro other member
  rw [List.drop_append_of_le_length (by omega), List.take_append_of_le_length
    (by rw [List.length_drop]; omega)] at member
  exact List.mem_of_mem_drop (List.mem_of_mem_take member)

theorem reading_faithful (faithful : Faithful dotted s)
    (found : dotted[s.offset.toNat]? = some octet) : s.reading.readEnd ≤ dotted.length :=
  Nat.max_le.mpr ⟨faithful.readEnd, (List.getElem?_eq_some_iff.mp found).1⟩

/-- At a sound place a pass goes on, within the string. -/
theorem pass_sound (bounded : dotted.length ≤ 65534)
    (found : dotted[s.offset.toNat]? = some octet) (sound : SoundAt dotted s.offset)
    (faithful : Faithful dotted s) :
    ∃ next, dottedToStringPass dotted s = .ok next ∧ next.offset = follow octet s.offset ∧
      Faithful dotted next := by
  have read := reading_faithful faithful found
  obtain ⟨notNext, before⟩ := sound octet found
  by_cases label : octet.toNat < 64
  · by_cases long : s.offset.toNat + octet.toNat ≤ dotted.length
    · refine ⟨_, pass_word found label long, rfl, ?_, ?_⟩
      · have different := notNext label
        exact Nat.max_le.mpr ⟨read, by omega⟩
      · intro other member
        cases List.mem_append.mp member with
        | inl earlier =>
            by_cases first : s.offset = 0
            · rw [if_pos first] at earlier
              exact faithful.noDot other earlier
            · rw [if_neg first] at earlier
              cases List.mem_append.mp earlier with
              | inl kept => exact faithful.noDot other kept
              | inr separator => exact .inr (List.mem_singleton.mp separator)
        | inr word =>
            have different := notNext label
            exact .inl (word_subset (by omega) other word)
    · exact ⟨_, pass_skip found label (by omega), rfl, read, faithful.noDot⟩
  · by_cases plain : octet.toNat < 128
    · refine ⟨_, pass_char found (by omega) plain, rfl, read, ?_⟩
      intro other member
      cases List.mem_append.mp member with
      | inl earlier => exact faithful.noDot other earlier
      | inr last =>
          rw [List.mem_singleton.mp last]
          exact .inl (mem_of_getElem? found)
    · exact ⟨_, pass_back bounded found (by omega) (before (by omega)), rfl, read,
        faithful.noDot⟩

/-- Where a pass goes on, it has read no less, and the place is sound if what it has read is
in the string. -/
theorem pass_ok (bounded : dotted.length ≤ 65534)
    (found : dotted[s.offset.toNat]? = some octet)
    (passed : dottedToStringPass dotted s = .ok next) :
    next.offset = follow octet s.offset ∧ s.readEnd ≤ next.readEnd ∧
      (next.readEnd ≤ dotted.length → SoundAt dotted s.offset) := by
  have only : ∀ other ∈ dotted[s.offset.toNat]?, other = octet := by
    intro other same
    rw [found] at same
    exact (Option.some.inj same).symm
  have read : s.readEnd ≤ s.reading.readEnd := Nat.le_max_left ..
  by_cases label : octet.toNat < 64
  · by_cases long : s.offset.toNat + octet.toNat ≤ dotted.length
    · rw [pass_word found label long] at passed
      cases passed
      refine ⟨rfl, read.trans (Nat.le_max_left ..), fun within other same => ?_⟩
      have wordEnd : s.offset.toNat + 1 + octet.toNat ≤ dotted.length :=
        (Nat.le_max_right _ _).trans within
      rw [only other same]
      omega
    · rw [pass_skip found label (by omega)] at passed
      cases passed
      refine ⟨rfl, read, fun _ other same => ?_⟩
      rw [only other same]
      omega
  · by_cases plain : octet.toNat < 128
    · rw [pass_char found (by omega) plain] at passed
      cases passed
      refine ⟨rfl, read, fun _ other same => ?_⟩
      rw [only other same]
      omega
    · by_cases near : s.offset.toNat + octet.toNat < 256
      · rw [pass_back bounded found (by omega) near] at passed
        cases passed
        refine ⟨rfl, read, fun _ other same => ?_⟩
        rw [only other same]
        omega
      · rw [pass_throws found (by omega) (by omega)] at passed
        cases passed

end Pass

/-! ### The loop -/

theorem nextOffset_of_lt {offset : BitVec 16} (inside : offset.toNat < dotted.length) :
    ∃ octet, dotted[offset.toNat]? = some octet ∧
      nextOffset dotted offset = some (follow octet offset) := by
  have found := List.getElem?_eq_getElem inside
  exact ⟨_, found, by rw [nextOffset, found]⟩

theorem nextOffset_of_ge {offset : BitVec 16} (outside : ¬offset.toNat < dotted.length) :
    nextOffset dotted offset = none := by
  rw [nextOffset, List.getElem?_eq_none (Nat.le_of_not_lt outside)]

/-- A loop that returns has reached the end of the walk. -/
theorem loop_ok (bounded : dotted.length ≤ 65534) {fuel : Nat}
    (returned : dottedToStringLoop dotted fuel s = .ok last) :
    (eval (nextOffset dotted) s.offset).Dom ∧ s.readEnd ≤ last.readEnd ∧
      (last.readEnd ≤ dotted.length →
        ∀ offset, Reaches (nextOffset dotted) s.offset offset → SoundAt dotted offset) := by
  induction fuel generalizing s with
  | zero => cases returned
  | succ fuel inductionHypothesis =>
      rw [dottedToStringLoop] at returned
      by_cases inside : s.offset.toNat < dotted.length
      · rw [if_pos inside] at returned
        obtain ⟨octet, found, step⟩ := nextOffset_of_lt inside
        cases passed : dottedToStringPass dotted s with
        | error reason =>
            rw [passed, error_bind] at returned
            cases returned
        | ok next =>
            rw [passed, ok_bind] at returned
            obtain ⟨offset, readMore, soundHere⟩ := pass_ok bounded found passed
            obtain ⟨ends, readOn, soundLater⟩ := inductionHypothesis returned
            rw [← offset] at step
            refine ⟨?_, readMore.trans readOn, fun within place reached => ?_⟩
            · rw [reaches_eval (Relation.ReflTransGen.single step)]
              exact ends
            · cases Relation.ReflTransGen.cases_head reached with
              | inl same =>
                  rw [← same]
                  exact soundHere (readOn.trans within)
              | inr further =>
                  obtain ⟨middle, first, rest⟩ := further
                  cases Option.mem_unique first step
                  exact soundLater within place rest
      · rw [if_neg inside] at returned
        cases returned
        have stays := nextOffset_of_ge inside
        refine ⟨Part.dom_iff_mem.mpr ⟨_, mem_eval.mpr ⟨.refl, stays⟩⟩, le_rfl,
          fun _ place reached => ?_⟩
        cases Relation.ReflTransGen.cases_head reached with
        | inl same =>
            rw [← same]
            intro octet found
            exact absurd (List.getElem?_eq_some_iff.mp found).1 inside
        | inr further =>
            obtain ⟨middle, first, _⟩ := further
            rw [stays] at first
            cases first

/-- A loop whose walk ends and is sound returns within the string. -/
theorem loop_returns (bounded : dotted.length ≤ 65534) {offset finish : BitVec 16}
    (ends : finish ∈ eval (nextOffset dotted) offset)
    (sound : ∀ place, Reaches (nextOffset dotted) offset place → SoundAt dotted place)
    (here : s.offset = offset) (faithful : Faithful dotted s) :
    ∃ fuel last, dottedToStringLoop dotted fuel s = .ok last ∧ Faithful dotted last := by
  suffices all : ∀ s : Undotting, (∀ place, Reaches (nextOffset dotted) offset place →
      SoundAt dotted place) → s.offset = offset → Faithful dotted s →
      ∃ fuel last, dottedToStringLoop dotted fuel s = .ok last ∧ Faithful dotted last from
    all s sound here faithful
  refine @evalInduction _ (nextOffset dotted) finish
    (fun offset => ∀ s : Undotting, (∀ place, Reaches (nextOffset dotted) offset place →
      SoundAt dotted place) → s.offset = offset → Faithful dotted s →
      ∃ fuel last, dottedToStringLoop dotted fuel s = .ok last ∧ Faithful dotted last)
    offset ends ?_
  intro offset _ inductionHypothesis s sound here faithful
  by_cases inside : s.offset.toNat < dotted.length
  · obtain ⟨octet, found, step⟩ := nextOffset_of_lt inside
    have soundHere : SoundAt dotted s.offset := here ▸ sound offset .refl
    obtain ⟨next, passed, moved, nextFaithful⟩ := pass_sound bounded found soundHere faithful
    rw [here] at step
    have later : ∀ place, Reaches (nextOffset dotted) (follow octet offset) place →
        SoundAt dotted place :=
      fun place reached => sound place (Relation.ReflTransGen.head step reached)
    obtain ⟨fuel, last, returned, lastFaithful⟩ :=
      inductionHypothesis _ step next later (here ▸ moved) nextFaithful
    refine ⟨fuel + 1, last, ?_, lastFaithful⟩
    rw [dottedToStringLoop, if_pos inside, passed, ok_bind, returned]
  · exact ⟨1, s, by rw [dottedToStringLoop, if_neg inside]; rfl, faithful⟩

end Undotting

theorem toNat_signExtend_of_ge {octet : Octet} (large : 128 ≤ octet.toNat) :
    (octet.signExtend 16).toNat = octet.toNat + 65280 := by
  have bound := octet.isLt
  have sign : octet.msb = true := by
    rw [BitVec.msb_eq_decide]
    exact decide_eq_true large
  rw [BitVec.toNat_signExtend, sign, if_pos rfl, BitVec.toNat_setWidth,
    Nat.mod_eq_of_lt (by omega)]

theorem toNat_signExtend_of_lt {octet : Octet} (small : octet.toNat < 128) :
    (octet.signExtend 16).toNat = octet.toNat := by
  have sign : octet.msb = false := by
    rw [BitVec.msb_eq_decide]
    exact decide_eq_false (Nat.not_le.mpr small)
  rw [BitVec.toNat_signExtend, sign, if_neg Bool.false_ne_true, BitVec.toNat_setWidth,
    Nat.mod_eq_of_lt (by omega), Nat.add_zero]

/-- Where a negative length leads to: the 16-bit offset wraps unless it comes to the start. -/
theorem toNat_follow_of_ge {octet : Octet} {offset : BitVec 16} (large : 128 ≤ octet.toNat) :
    (follow octet offset).toNat = (offset.toNat + octet.toNat + 65281) % 2 ^ 16 := by
  have bound := octet.isLt
  have negative := toInt_of_ge large
  have one : (1 : BitVec 16).toNat = 1 := rfl
  rw [follow, if_pos (by omega), BitVec.toNat_add, BitVec.toNat_add, toNat_signExtend_of_ge large,
    one]
  omega

theorem toNat_follow_of_lt {octet : Octet} {offset : BitVec 16} (small : octet.toNat < 128)
    (room : offset.toNat + octet.toNat + 1 < 2 ^ 16) :
    offset.toNat < (follow octet offset).toNat := by
  have one : (1 : BitVec 16).toNat = 1 := rfl
  rw [follow]
  by_cases label : octet.toInt < 64
  · rw [if_pos label, BitVec.toNat_add, BitVec.toNat_add, toNat_signExtend_of_lt small, one]
    omega
  · rw [if_neg label, BitVec.toNat_add, one]
    omega

/-- In a string that is not nearly as long as the offset can count, only one octet leads
back: the negative length that leads to the start. -/
theorem neverRound_iff_of_short {dotted : Octets} (short : dotted.length ≤ 65408)
    (sound : ∀ offset, Reaches (nextOffset dotted) 0 offset → SoundAt dotted offset) :
    NeverRound (nextOffset dotted) 0 ↔
      ∀ offset, Reaches (nextOffset dotted) 0 offset →
        ∀ octet ∈ dotted[offset.toNat]?, 128 ≤ octet.toNat → offset.toNat + octet.toNat ≠ 255 := by
  constructor
  · intro never offset reached octet found high back
    have toStart : nextOffset dotted offset = some 0 := by
      have start : follow octet offset = 0 := by
        apply BitVec.eq_of_toNat_eq
        rw [toNat_follow_of_ge high, back]
        rfl
      rw [nextOffset, found]
      exact congrArg some start
    exact never 0 .refl (Relation.TransGen.tail' reached toStart)
  · intro ahead point reached round
    have step : ∀ place after, Reaches (nextOffset dotted) 0 place →
        after ∈ nextOffset dotted place → place.toNat < after.toNat := by
      intro place after reachedPlace next
      have inside : place.toNat < dotted.length := by
        by_contra outside
        rw [nextOffset_of_ge outside] at next
        cases next
      obtain ⟨octet, found, moves⟩ := nextOffset_of_lt inside
      rw [moves] at next
      cases next
      by_cases high : 128 ≤ octet.toNat
      · have near := (sound place reachedPlace octet found).2 high
        have notStart := ahead place reachedPlace octet found high
        rw [toNat_follow_of_ge high]
        omega
      · exact toNat_follow_of_lt (by omega) (by omega)
    have forward : ∀ place, Relation.TransGen (fun a b => b ∈ nextOffset dotted a) point place →
        point.toNat < place.toNat := by
      intro place trail
      induction trail with
      | single next => exact step point _ reached next
      | tail trail next inductionHypothesis =>
          have there : Reaches (nextOffset dotted) 0 _ := reached.trans trail.to_reflTransGen
          exact inductionHypothesis.trans (step _ _ there next)
    exact lt_irrefl _ (forward point round)

/-- A call returns, reads no octet behind its string and appends only octets of it and
dots. -/
def UndotsSafely (dottedToString : Nat → Octets → Attempt (Bool × Octets)) (dotted : Octets) :
    Prop :=
  ∃ fuel last, dottedToString fuel dotted = .ok (last.result, last.noDot) ∧
    dottedToStringLoop dotted fuel {} = .ok last ∧ Faithful dotted last

theorem undotsSafely_iff {dotted : Octets} (bounded : dotted.length ≤ 65534) :
    UndotsSafely dottedToString dotted ↔ Walkable dotted := by
  have finite : ∀ place, Reaches (nextOffset dotted) 0 place →
      place ∈ (Finset.range (2 ^ 16)).image (BitVec.ofNat 16) := by
    intro place _
    exact Finset.mem_image.mpr ⟨place.toNat, Finset.mem_range.mpr place.isLt,
      by rw [BitVec.ofNat_toNat, BitVec.setWidth_eq]⟩
  constructor
  · rintro ⟨fuel, last, _, returned, faithful⟩
    obtain ⟨ends, _, sound⟩ := loop_ok bounded returned
    exact ⟨sound faithful.readEnd, (dom_eval_iff finite).mp ends⟩
  · rintro ⟨sound, never⟩
    obtain ⟨finish, ends⟩ := Part.dom_iff_mem.mp ((dom_eval_iff finite).mpr never)
    have start : Faithful dotted {} :=
      ⟨Nat.zero_le _, fun _ member => absurd member List.not_mem_nil⟩
    obtain ⟨fuel, last, returned, faithful⟩ := loop_returns bounded ends sound rfl start
    exact ⟨fuel, last, by rw [dottedToString, returned, ok_bind]; rfl, returned, faithful⟩

end OpenairSpgwc.Common.Labels

namespace OpenairSpgwc

open Foundation
open OpenairSpgwc.Common.Labels

/-- The label coding of both protocols is safe exactly on names that end before the 8-bit
offset wraps and on coded strings whose lengths can be walked. -/
theorem label_coding_safe_iff (dotted str : Octets) (bounded : dotted.length ≤ 65534) :
    ((UndotsSafely Gtpv2c.dottedToString dotted ∧ UndotsSafely Pfcp.dottedToString dotted) ∧
        DotsSafely Gtpv2c.stringToDotted str ∧ DotsSafely Pfcp.stringToDotted str) ↔
      Walkable dotted ∧ EndsEarly str := by
  have undots : UndotsSafely Gtpv2c.dottedToString dotted ↔ Walkable dotted :=
    undotsSafely_iff bounded
  have dots : DotsSafely Gtpv2c.stringToDotted str ↔ EndsEarly str := dotsSafely_iff str
  have undotsPfcp : UndotsSafely Pfcp.dottedToString dotted ↔ Walkable dotted := undots
  have dotsPfcp : DotsSafely Pfcp.stringToDotted str ↔ EndsEarly str := dots
  rw [undots, undotsPfcp, dots, dotsPfcp, and_self, and_self]

/-- The name `oai.ipv4`, coded and as it is written. -/
def codedName : Octets := [3, 0x6F, 0x61, 0x69, 4, 0x69, 0x70, 0x76, 0x34]

def writtenName : Octets := [0x6F, 0x61, 0x69, 0x2E, 0x69, 0x70, 0x76, 0x34]

/-- A coded name of two labels is walked to its end. -/
theorem two_labels_walkable : Walkable codedName ∧ EndsEarly writtenName := by
  have undots : UndotsSafely dottedToString codedName :=
    ⟨3, ⟨9, true, writtenName, 9⟩, by decide, rfl, ⟨by decide, by decide⟩⟩
  have dots : DotsSafely stringToDotted writtenName :=
    (dotsSafely_iff writtenName).mpr (.inl (by decide))
  exact (label_coding_safe_iff codedName writtenName (by decide)).mp ⟨⟨undots, undots⟩, dots, dots⟩

/-- The octet 0xFF is passed over and over again, a length that is one too great reads the
NUL behind the string, and 256 letters without a NUL are coded for ever. -/
theorem label_coding_unsafe :
    ¬UndotsSafely Gtpv2c.dottedToString [0xFF] ∧
      ¬UndotsSafely Pfcp.dottedToString [3, 0x61, 0x62] ∧
      ¬DotsSafely Gtpv2c.stringToDotted (List.replicate 256 0x61) := by
  refine ⟨fun safe => ?_, fun safe => ?_, fun safe => ?_⟩
  · have walkable := (undotsSafely_iff (by decide)).mp safe
    exact walkable.2 0 .refl (Relation.TransGen.single (by decide))
  · have walkable := (undotsSafely_iff (by decide)).mp safe
    exact (walkable.1 0 .refl 3 (by decide)).1 (by decide) (by decide)
  · have early := (dotsSafely_iff _).mp safe
    cases early with
    | inl short => exact absurd short (by rw [List.length_replicate]; decide)
    | inr nul =>
        have letter := List.eq_of_mem_replicate (List.mem_of_mem_take nul)
        exact absurd letter (by decide)

end OpenairSpgwc
