import OpenairSpgwc.Common.LabelSafety

/-!
Contract: names and their coded forms, as lists of labels.

Owns:
- labels, the name and the coded form of a list of them;
- `string_to_dotted` takes the name to the coded form, and `dotted_to_string` takes
  the coded form to the name.
-/

namespace OpenairSpgwc.Common.Labels

open Foundation

structure Label where
  octets : Octets
  nonempty : 1 ≤ octets.length
  short : octets.length ≤ 63
  noDot : dot ∉ octets
  noNul : 0 ∉ octets

/-- The length octet of a label. -/
def Label.length (label : Label) : Octet := BitVec.ofNat 8 label.octets.length

theorem Label.toNat_length (label : Label) : label.length.toNat = label.octets.length := by
  have short := label.short
  rw [Label.length, BitVec.toNat_ofNat, Nat.mod_eq_of_lt (by omega)]

/-- The labels that follow the first one, each behind a dot. -/
def further (labels : List Label) : Octets := labels.flatMap fun label => dot :: label.octets

/-- Labels joined by dots. -/
def name : List Label → Octets
  | [] => []
  | label :: labels => label.octets ++ further labels

/-- Each label behind its length. -/
def coded (labels : List Label) : Octets :=
  labels.flatMap fun label => label.length :: label.octets

theorem name_cons_cons (first second : Label) (labels : List Label) :
    name (first :: second :: labels) = first.octets ++ dot :: name (second :: labels) := rfl

theorem coded_cons (label : Label) (labels : List Label) :
    coded (label :: labels) = label.length :: label.octets ++ coded labels := rfl

theorem length_further (labels : List Label) : (further labels).length = (coded labels).length := by
  induction labels with
  | nil => rfl
  | cons label labels inductionHypothesis =>
      rw [coded_cons, List.length_append, List.length_cons, ← inductionHypothesis]
      show (dot :: label.octets ++ further labels).length = _
      rw [List.length_append, List.length_cons]

/-- The coded form is one octet longer than the name. -/
theorem length_coded (label : Label) (labels : List Label) :
    (coded (label :: labels)).length = (name (label :: labels)).length + 1 := by
  rw [coded_cons, name, List.length_append, List.length_append, List.length_cons, length_further]
  omega

/-! ### From the name to the coded form -/

section Dotting

variable {str before after : Octets} {s : Dotting}

theorem charAt_middle (octet : Octet) (split : str = before ++ octet :: after) :
    charAt str before.length = .ok octet := by
  rw [charAt, split, List.append_assoc, List.getElem?_append_right le_rfl, Nat.sub_self]
  rfl

theorem charAt_end (str : Octets) : charAt str str.length = .ok 0 := by
  rw [charAt, List.getElem?_concat_length]

theorem store_middle {written : Octets} (octet old : Octet) (later : Octets) :
    store (written ++ old :: later) written.length octet = .ok (written ++ octet :: later) := by
  rw [store, if_pos (by rw [List.length_append, List.length_cons]; omega),
    List.set_append_right _ _ le_rfl, Nat.sub_self, List.set_cons_zero]

/-- The letters of a label are copied to the buffer, one place further on. -/
theorem dotting_letters {letters written tail : Octets} (noDot : dot ∉ letters)
    (noNul : 0 ∉ letters) (split : str = before ++ (letters ++ after))
    (offset : s.offset.toNat = before.length) (small : before.length + letters.length < 2 ^ 8)
    (value : s.value = written ++ tail) (place : written.length = before.length + 1)
    (room : letters.length ≤ tail.length) (fuel : Nat) :
    stringToDottedLoop str (fuel + letters.length) s = stringToDottedLoop str fuel
      { s with
        offset := s.offset + BitVec.ofNat 8 letters.length
        wordLength := s.wordLength + BitVec.ofNat 8 letters.length
        value := written ++ (letters ++ tail.drop letters.length) } := by
  induction letters generalizing before s written tail with
  | nil =>
      rw [List.nil_append, List.length_nil, List.drop_zero, ← value]
      show stringToDottedLoop str fuel s = stringToDottedLoop str fuel
        { s with offset := s.offset + 0#8, wordLength := s.wordLength + 0#8 }
      rw [BitVec.add_zero, BitVec.add_zero]
  | cons letter letters inductionHypothesis =>
      cases tail with
      | nil => exact absurd room (Nat.not_succ_le_zero _)
      | cons old tail =>
          rw [List.length_cons] at small room
          have read : charAt str s.offset.toNat = .ok letter := by
            rw [offset]
            exact charAt_middle letter split
          have notNul : letter ≠ 0 := fun same => noNul (same ▸ List.mem_cons_self ..)
          have notDot : letter ≠ dot := fun same => noDot (same ▸ List.mem_cons_self ..)
          have stored : store s.value (s.offset.toNat + 1) letter =
              .ok (written ++ letter :: tail) := by
            rw [value, offset, ← place]
            exact store_middle letter old tail
          have one : (s.offset + 1).toNat = (before ++ [letter]).length := by
            rw [BitVec.toNat_add_of_lt (show s.offset.toNat + (1 : BitVec 8).toNat < 2 ^ 8 by
              rw [offset]; show before.length + 1 < _; omega), offset, List.length_append]
            rfl
          have passed : stringToDottedPass s letter = .ok { s with
              offset := s.offset + 1
              wordLength := s.wordLength + 1
              value := written ++ letter :: tail } := by
            rw [stringToDottedPass, if_neg notDot, stored, ok_bind]
            rfl
          have again := @inductionHypothesis (before ++ [letter])
            ⟨s.offset + 1, s.lastSize, s.wordLength + 1, written ++ letter :: tail⟩
            (written ++ [letter]) tail (fun member => noDot (List.mem_cons_of_mem _ member))
            (fun member => noNul (List.mem_cons_of_mem _ member))
            (by rw [split, List.append_assoc]; rfl) one
            (by rw [List.length_append, List.length_singleton]; omega)
            (by rw [List.append_assoc]; rfl)
            (by rw [List.length_append, List.length_append, place]; rfl)
            (Nat.le_of_succ_le_succ room)
          have count : ∀ start : BitVec 8, start + 1 + BitVec.ofNat 8 letters.length =
              start + BitVec.ofNat 8 (letters.length + 1) := by
            intro start
            rw [BitVec.add_assoc, BitVec.ofNat_add, BitVec.add_comm 1]
            rfl
          have more : fuel + (letters.length + 1) = fuel + letters.length + 1 := rfl
          rw [List.length_cons, more, stringToDottedLoop, read, ok_bind, if_neg notNul, passed,
            ok_bind, again, List.append_assoc]
          simp only [count]
          rfl

/-- The loop stands before the first of some labels, whose length is to be written. -/
structure BeforeLabels (str before written tail : Octets) (labels : List Label) (s : Dotting) :
    Prop where
  split : str = before ++ name labels
  offset : s.offset.toNat = before.length
  lastSize : s.lastSize = written.length
  wordLength : s.wordLength = 0
  value : s.value = written ++ tail
  place : written.length = before.length
  room : tail.length = (name labels).length + 1

/-- The state when the letters of the first label have been copied. -/
def Dotting.copied (s : Dotting) (written : Octets) (old : Octet) (label : Label)
    (tail : Octets) : Dotting where
  offset := s.offset + label.length
  lastSize := s.lastSize
  wordLength := label.length
  value := written ++ old :: (label.octets ++ tail.drop label.octets.length)

theorem BeforeLabels.copy {written tail : Octets} {old : Octet} {label : Label}
    {labels : List Label}
    (start : BeforeLabels str before written (old :: tail) (label :: labels) s)
    (small : str.length < 2 ^ 8) (fuel : Nat) :
    stringToDottedLoop str (fuel + label.octets.length) s =
        stringToDottedLoop str fuel (s.copied written old label tail) ∧
      (s.copied written old label tail).offset.toNat = (before ++ label.octets).length := by
  have split := start.split
  have size := congrArg List.length split
  have room := start.room
  rw [name, List.length_append, List.length_append] at size
  rw [name, List.length_append, List.length_cons] at room
  constructor
  · rw [@dotting_letters str before (further labels) s label.octets (written ++ [old]) tail
      label.noDot label.noNul split start.offset (by omega)
      (by rw [start.value, List.append_assoc]; rfl)
      (by rw [List.length_append, start.place]; rfl) (by omega), start.wordLength,
      List.append_assoc]
    show stringToDottedLoop str fuel ⟨_, _, 0#8 + label.length, _⟩ = _
    rw [BitVec.zero_add]
    rfl
  · show (s.offset + label.length).toNat = _
    rw [BitVec.toNat_add, label.toNat_length, start.offset, List.length_append,
      Nat.mod_eq_of_lt (by omega)]

/-- The length of the label is put before its letters. -/
theorem BeforeLabels.store {written tail : Octets} {old : Octet} {label : Label}
    {labels : List Label}
    (start : BeforeLabels str before written (old :: tail) (label :: labels) s) :
    store (s.copied written old label tail).value (s.copied written old label tail).lastSize
        (s.copied written old label tail).wordLength =
      .ok (written ++ label.length :: (label.octets ++ tail.drop label.octets.length)) := by
  show Labels.store (written ++ old :: _) s.lastSize label.length = _
  rw [start.lastSize]
  exact store_middle _ _ _

/-- From the first of some labels the loop codes them all. -/
theorem dotting_labels {written tail : Octets} {label : Label} {labels : List Label}
    (start : BeforeLabels str before written tail (label :: labels) s)
    (small : str.length < 2 ^ 8) :
    ∃ last, (∀ fuel, stringToDottedLoop str (fuel + (name (label :: labels)).length + 1) s =
        .ok last) ∧
      store last.value last.lastSize last.wordLength =
        .ok (written ++ coded (label :: labels)) := by
  induction labels generalizing before s written tail label with
  | nil =>
      cases tail with
      | nil =>
          have room := start.room
          cases room
      | cons old tail =>
          have ended : str = before ++ label.octets := by
            rw [start.split, name, further, List.flatMap_nil, List.append_nil]
          have gone : tail.drop label.octets.length = [] := by
            have room := start.room
            rw [name, further, List.flatMap_nil, List.append_nil, List.length_cons] at room
            exact List.drop_eq_nil_of_le (by omega)
          refine ⟨s.copied written old label tail, fun fuel => ?_, ?_⟩
          · obtain ⟨moved, offset⟩ := start.copy small (fuel + 1)
            have passes : fuel + (name [label]).length + 1 = fuel + 1 + label.octets.length := by
              rw [name, further, List.flatMap_nil, List.append_nil]
              omega
            rw [passes, moved, stringToDottedLoop, offset, ← ended, charAt_end, ok_bind,
              if_pos rfl]
            rfl
          · rw [start.store, gone, coded_cons]
            rfl
  | cons second labels inductionHypothesis =>
      cases tail with
      | nil =>
          have room := start.room
          cases room
      | cons old tail =>
          have split : str = (before ++ label.octets) ++ dot :: name (second :: labels) := by
            rw [start.split, name_cons_cons, List.append_assoc]
          have room := start.room
          rw [name_cons_cons, List.length_append, List.length_cons, List.length_cons] at room
          have size := congrArg List.length split
          rw [List.length_append, List.length_cons] at size
          -- The state behind the dot.
          have behind : ∃ next, (∀ fuel, stringToDottedLoop str
              (fuel + 1 + label.octets.length) s = stringToDottedLoop str fuel next) ∧
              BeforeLabels str (before ++ label.octets ++ [dot])
                (written ++ label.length :: label.octets) (tail.drop label.octets.length)
                (second :: labels) next := by
            have offset := (start.copy small 0).2
            refine ⟨⟨(s.copied written old label tail).offset + 1,
              (s.copied written old label tail).offset.toNat + 1, 0,
              written ++ label.length :: (label.octets ++ tail.drop label.octets.length)⟩,
              fun fuel => ?_, ?_⟩
            · rw [(start.copy small (fuel + 1)).1, stringToDottedLoop, offset,
                charAt_middle dot split, ok_bind, if_neg (by decide), stringToDottedPass,
                if_pos rfl,
                start.store, ok_bind, offset]
              rfl
            · constructor
              · exact split.trans (List.append_cons ..)
              · show ((s.copied written old label tail).offset + 1).toNat = _
                rw [BitVec.toNat_add_of_lt
                  (show _ + (1 : BitVec 8).toNat < 2 ^ 8 by
                    rw [offset]; show (before ++ label.octets).length + 1 < _; omega),
                  offset, @List.length_append _ (before ++ label.octets)]
                rfl
              · show (s.copied written old label tail).offset.toNat + 1 = _
                rw [offset, List.length_append, List.length_append, List.length_cons, start.place,
                  Nat.add_assoc]
              · rfl
              · rw [List.append_assoc]
                rfl
              · rw [List.length_append, List.length_append, List.length_append, List.length_cons,
                  List.length_singleton, start.place, Nat.add_assoc]
              · rw [List.length_drop]
                omega
          obtain ⟨next, moved, later⟩ := behind
          obtain ⟨last, returned, finished⟩ := inductionHypothesis later
          refine ⟨last, fun fuel => ?_, ?_⟩
          · have passes : fuel + (name (label :: second :: labels)).length + 1 =
                fuel + (name (second :: labels)).length + 1 + 1 + label.octets.length := by
              rw [name_cons_cons, List.length_append, List.length_cons]
              omega
            rw [passes, moved, returned]
          · rw [finished, List.append_assoc, coded_cons label]

end Dotting

/-- A call returns this, in all runs that are long enough. -/
def Returns {α : Type} (call : Nat → Attempt α) (result : α) : Prop :=
  ∃ enough, ∀ more, call (enough + more) = .ok result

theorem stringToDotted_name (label : Label) (labels : List Label)
    (small : (name (label :: labels)).length < 2 ^ 8) (junk : Junk) :
    Returns (fun fuel => stringToDotted fuel junk (name (label :: labels)))
      (true, coded (label :: labels)) := by
  have start : BeforeLabels (name (label :: labels)) [] []
      (uninitialised junk ((name (label :: labels)).length + 1)) (label :: labels)
      { value := uninitialised junk ((name (label :: labels)).length + 1) } :=
    ⟨rfl, rfl, rfl, rfl, rfl, rfl, length_uninitialised ..⟩
  obtain ⟨last, returned, finished⟩ := dotting_labels start small
  refine ⟨(name (label :: labels)).length + 1, fun more => ?_⟩
  have passes : (name (label :: labels)).length + 1 + more =
      more + (name (label :: labels)).length + 1 := by omega
  show stringToDotted _ junk _ = _
  rw [passes, stringToDotted, returned, ok_bind, finished, ok_bind]
  rfl

/-! ### From the coded form to the name -/

section Undotting

variable {dotted before after : Octets} {s : Undotting}

/-- One pass takes one label. -/
theorem pass_label (label : Label)
    (split : dotted = before ++ (label.length :: label.octets ++ after))
    (offset : s.offset.toNat = before.length) (small : dotted.length < 2 ^ 16) :
    ∃ next, dottedToStringPass dotted s = .ok next ∧
      next.offset.toNat = (before ++ label.length :: label.octets).length ∧
      next.result = s.result ∧
      next.noDot = (if s.offset = 0 then s.noDot else s.noDot ++ [dot]) ++ label.octets := by
  have length := label.toNat_length
  have short := label.short
  have size := congrArg List.length split
  rw [List.length_append, List.length_append, List.length_cons] at size
  have found : dotted[s.offset.toNat]? = some label.length := by
    rw [offset, split, List.getElem?_append_right le_rfl, Nat.sub_self]
    rfl
  have word : ((dotted ++ [0]).drop (s.offset.toNat + 1)).take label.length.toNat =
      label.octets := by
    have whole :
        dotted ++ [0] = (before ++ [label.length]) ++ (label.octets ++ (after ++ [0])) := by
      rw [split, List.append_assoc, List.append_assoc, List.append_assoc]
      rfl
    rw [whole, List.drop_left' (by rw [offset, List.length_append, List.length_singleton]),
      List.take_left' length.symm]
  refine ⟨_, pass_word found (by omega) (by omega), ?_, rfl, ?_⟩
  · show (follow label.length s.offset).toNat = _
    have one : (1 : BitVec 16).toNat = 1 := rfl
    have positive : label.length.toInt = label.length.toNat := toInt_of_lt (by omega)
    rw [follow, if_pos (by omega), BitVec.toNat_add, BitVec.toNat_add,
      toNat_signExtend_of_lt (by omega), one, offset, length, List.length_append, List.length_cons]
    omega
  · show (if s.offset = 0 then s.noDot else s.noDot ++ [dot]) ++ _ = _
    rw [word]

/-- The labels after the first one are appended, each behind a dot. -/
theorem undotting_further (labels : List Label) (split : dotted = before ++ coded labels)
    (offset : s.offset.toNat = before.length) (notFirst : before ≠ [])
    (small : dotted.length < 2 ^ 16) :
    ∃ last, (∀ fuel, dottedToStringLoop dotted (fuel + labels.length + 1) s = .ok last) ∧
      last.result = s.result ∧ last.noDot = s.noDot ++ further labels := by
  induction labels generalizing before s with
  | nil =>
      have ended : ¬s.offset.toNat < dotted.length := by
        rw [offset, split, coded, List.flatMap_nil, List.append_nil]
        exact lt_irrefl _
      refine ⟨s, fun fuel => ?_, rfl, (List.append_nil _).symm⟩
      rw [dottedToStringLoop, if_neg ended]
      rfl
  | cons label labels inductionHypothesis =>
      rw [coded_cons] at split
      obtain ⟨next, passed, nextOffset, result, noDot⟩ := pass_label label split offset small
      have inside : s.offset.toNat < dotted.length := by
        rw [offset, split, List.length_append, List.length_append, List.length_cons]
        omega
      have nonzero : s.offset ≠ 0 := by
        intro zero
        rw [zero] at offset
        exact notFirst (List.eq_nil_of_length_eq_zero offset.symm)
      have rest : dotted = (before ++ label.length :: label.octets) ++ coded labels := by
        rw [split, List.append_assoc]
      obtain ⟨last, returned, lastResult, lastNoDot⟩ := inductionHypothesis rest nextOffset
        (fun empty => notFirst (List.append_eq_nil_iff.mp empty).1)
      refine ⟨last, fun fuel => ?_, lastResult.trans result, ?_⟩
      · rw [List.length_cons, ← Nat.add_assoc, dottedToStringLoop, if_pos inside, passed, ok_bind,
          returned]
      · rw [lastNoDot, noDot, if_neg nonzero, List.append_assoc, List.append_assoc]
        rfl

theorem dottedToString_coded (label : Label) (labels : List Label)
    (small : (coded (label :: labels)).length < 2 ^ 16) :
    Returns (fun fuel => dottedToString fuel (coded (label :: labels)))
      (true, name (label :: labels)) := by
  have split : coded (label :: labels) = [] ++ (label.length :: label.octets ++ coded labels) := rfl
  obtain ⟨next, passed, nextOffset, result, noDot⟩ :=
    @pass_label _ [] (coded labels) {} label split rfl small
  obtain ⟨last, returned, lastResult, lastNoDot⟩ :=
    @undotting_further _ ([] ++ label.length :: label.octets) next labels split nextOffset
      (List.cons_ne_nil _ _) small
  refine ⟨labels.length + 1 + 1, fun more => ?_⟩
  have passes : labels.length + 1 + 1 + more = more + labels.length + 1 + 1 := by omega
  have inside : (({} : Undotting).offset.toNat < (coded (label :: labels)).length) := by
    show 0 < _
    rw [coded_cons, List.length_append, List.length_cons]
    omega
  show dottedToString _ _ = _
  rw [passes, dottedToString, dottedToStringLoop, if_pos inside, passed, ok_bind, returned, ok_bind,
    lastResult, result, lastNoDot, noDot, if_pos rfl]
  rfl

end Undotting

/-! ### Round trips -/

/-- One or more labels joined by single dots. -/
def IsName (str : Octets) : Prop := ∃ label labels, str = name (label :: labels)

/-- One or more length octets that tile the string, each before its label. -/
def IsCoded (dotted : Octets) : Prop := ∃ label labels, dotted = coded (label :: labels)

/-- Names of at most 254 octets and coded forms of at most 255 are taken to each other. -/
def RoundTrips (stringToDotted : Nat → Junk → Octets → Attempt (Bool × Octets))
    (dottedToString : Nat → Octets → Attempt (Bool × Octets)) : Prop :=
  (∀ str, IsName str → str.length ≤ 254 → ∃ dotted, dotted.length = str.length + 1 ∧
    (∀ junk, Returns (fun fuel => stringToDotted fuel junk str) (true, dotted)) ∧
    Returns (fun fuel => dottedToString fuel dotted) (true, str)) ∧
  (∀ dotted, IsCoded dotted → dotted.length ≤ 255 → ∃ str,
    Returns (fun fuel => dottedToString fuel dotted) (true, str) ∧
    ∀ junk, Returns (fun fuel => stringToDotted fuel junk str) (true, dotted))

theorem roundTrips : RoundTrips stringToDotted dottedToString := by
  constructor
  · rintro str ⟨label, labels, rfl⟩ short
    have length := length_coded label labels
    exact ⟨coded (label :: labels), length, stringToDotted_name label labels (by omega),
      dottedToString_coded label labels (by omega)⟩
  · rintro dotted ⟨label, labels, rfl⟩ short
    have length := length_coded label labels
    exact ⟨name (label :: labels), dottedToString_coded label labels (by omega),
      stringToDotted_name label labels (by omega)⟩

end OpenairSpgwc.Common.Labels

namespace OpenairSpgwc

open OpenairSpgwc.Common.Labels

/-- In both protocols names and coded forms are taken to each other. -/
theorem label_coding_round_trip :
    RoundTrips Gtpv2c.stringToDotted Gtpv2c.dottedToString ∧
      RoundTrips Pfcp.stringToDotted Pfcp.dottedToString :=
  ⟨roundTrips, roundTrips⟩

example : Gtpv2c.stringToDotted 5 (fun _ => 0) [0x61, 0x62, 0x2E, 0x63] =
    .ok (true, [2, 0x61, 0x62, 1, 0x63]) := by decide

example : Pfcp.dottedToString 3 [2, 0x61, 0x62, 1, 0x63] =
    .ok (true, [0x61, 0x62, 0x2E, 0x63]) := by decide

end OpenairSpgwc
