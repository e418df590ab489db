import OpenairSpgwc.Common.LabelRoundTrip

/-!
Contract: the label coding within a number of passes, and what it leaves of its buffer.

The buffer of `string_to_dotted` is not initialised. A pass writes the octet behind the
offset or the length before a word, so that behind the last offset the buffer keeps what was
in memory.

Owns:
- `Agree`: two runs on the same string that differ in what was in memory only;
- the coded string within 256 passes, and when it does not depend on memory;
- that `dotted_to_string` goes on for ever when a pass for each 16-bit offset is not enough;
- both directions for names, within a pass for each octet.
-/

namespace OpenairSpgwc.Common.Labels

open Foundation
open StateTransition

section Dotting

variable {str : Octets} {s t : Dotting}

/-- Two runs at the same place, which have written the same but for the next length. -/
structure Agree (str : Octets) (s t : Dotting) : Prop where
  first : Inside str s
  second : Inside str t
  offset : t.offset = s.offset
  lastSize : t.lastSize = s.lastSize
  wordLength : t.wordLength = s.wordLength
  behind : s.lastSize ≤ s.offset.toNat
  value : ∀ index ≤ s.offset.toNat, index ≠ s.lastSize → t.value[index]? = s.value[index]?

/-- Both runs write the same octet. -/
theorem set_agree {first second : Octets} {place index : Nat} (octet : Octet)
    (size : second.length = first.length)
    (others : index ≠ place → second[index]? = first[index]?) :
    (second.set place octet)[index]? = (first.set place octet)[index]? := by
  rw [List.getElem?_set, List.getElem?_set, size]
  split
  · rfl
  · exact others (Ne.symm ‹_›)

theorem Agree.pass (agree : Agree str s t) (small : s.offset.toNat + 1 < 2 ^ 8)
    (before : s.offset.toNat < str.length) (octet : Octet) :
    ∃ next next', stringToDottedPass s octet = .ok next ∧
      stringToDottedPass t octet = .ok next' ∧ Agree str next next' ∧
      next.offset.toNat = s.offset.toNat + 1 ∧
      ∀ index, next.offset.toNat < index → next.value[index]? = s.value[index]? := by
  obtain ⟨next, one, inside, offset⟩ := @pass_of_inside _ _ agree.first octet before
  obtain ⟨next', two, inside', offset'⟩ :=
    @pass_of_inside _ _ agree.second octet (by rw [agree.offset]; exact before)
  have moved : next.offset.toNat = s.offset.toNat + 1 := by
    rw [offset, BitVec.toNat_add_of_lt (show s.offset.toNat + (1 : BitVec 8).toNat < 2 ^ 8 from small)]
    rfl
  have size : t.value.length = s.value.length := agree.second.value.trans agree.first.value.symm
  have behind := agree.behind
  refine ⟨next, next', one, two, ?_, moved, ?_⟩
  · -- The length that was left out is written with a dot, and the next one is left out.
    rw [stringToDottedPass] at one two
    by_cases isDot : octet = dot
    · rw [if_pos isDot, store_of_le agree.first.value agree.first.lastSize, ok_bind] at one
      rw [if_pos isDot, store_of_le agree.second.value agree.second.lastSize, ok_bind,
        agree.offset, agree.lastSize, agree.wordLength] at two
      cases one
      cases two
      refine ⟨inside, inside', rfl, rfl, rfl, by rw [moved], fun index upto other => ?_⟩
      rw [moved] at upto
      refine set_agree _ size fun notLast => agree.value index ?_ notLast
      have other : index ≠ s.offset.toNat + 1 := other
      omega
    · rw [if_neg isDot, store_of_le agree.first.value (by omega), ok_bind] at one
      rw [if_neg isDot, store_of_le agree.second.value (by rw [agree.offset]; omega), ok_bind,
        agree.offset, agree.wordLength] at two
      cases one
      cases two
      refine ⟨inside, inside', rfl, agree.lastSize, rfl, ?_, fun index upto other => ?_⟩
      · rw [moved]
        exact Nat.le_succ_of_le behind
      · rw [moved] at upto
        refine set_agree _ size fun notLast => agree.value index ?_ other
        omega
  · intro index ahead
    rw [moved] at ahead
    rw [stringToDottedPass] at one
    by_cases isDot : octet = dot
    · rw [if_pos isDot, store_of_le agree.first.value agree.first.lastSize, ok_bind] at one
      cases one
      exact List.getElem?_set_ne (by omega)
    · rw [if_neg isDot, store_of_le agree.first.value (by omega), ok_bind] at one
      cases one
      exact List.getElem?_set_ne (by omega)

/-- Both runs come to the first NUL, if the offset does not wrap before, and have left alone
what is behind it. -/
theorem Agree.runs (agree : Agree str s t) {steps : Nat} (near : s.offset.toNat + steps < 2 ^ 8)
    (nul : (str ++ [0])[s.offset.toNat + steps]? = some 0) :
    ∃ last last', Agree str last last' ∧ (str ++ [0])[last.offset.toNat]? = some 0 ∧
      s.offset.toNat ≤ last.offset.toNat ∧ last.offset.toNat ≤ s.offset.toNat + steps ∧
      (∀ index, last.offset.toNat < index → last.value[index]? = s.value[index]?) ∧
      ∀ more, stringToDottedLoop str (steps + 1 + more) s = .ok last ∧
        stringToDottedLoop str (steps + 1 + more) t = .ok last' := by
  induction steps generalizing s t with
  | zero =>
      have read : charAt str s.offset.toNat = .ok 0 := by
        have nul : (str ++ [0])[s.offset.toNat]? = some 0 := nul
        rw [charAt, nul]
      refine ⟨s, t, agree, nul, le_rfl, le_rfl, fun _ _ => rfl, fun more => ?_⟩
      have more' : 0 + 1 + more = more + 1 := by omega
      rw [more', stringToDottedLoop, stringToDottedLoop, agree.offset, read, ok_bind, if_pos rfl,
        ok_bind, if_pos rfl]
      exact ⟨rfl, rfl⟩
  | succ steps inductionHypothesis =>
      obtain ⟨octet, read, found⟩ := charAt_of_le agree.first.offset
      have more' : ∀ more, steps + 1 + 1 + more = steps + 1 + more + 1 := fun more => by omega
      by_cases ends : octet = 0
      · refine ⟨s, t, agree, by rw [found, ends], le_rfl, Nat.le_add_right .., fun _ _ => rfl,
          fun more => ?_⟩
        rw [more', stringToDottedLoop, stringToDottedLoop, agree.offset, read, ok_bind, if_pos ends,
          ok_bind, if_pos ends]
        exact ⟨rfl, rfl⟩
      · obtain ⟨next, next', one, two, again, moved, untouched⟩ :=
          agree.pass (by omega) (lt_of_ne_zero found ends) octet
        have ahead : s.offset.toNat + (steps + 1) = next.offset.toNat + steps := by omega
        rw [ahead] at near nul
        obtain ⟨last, last', agrees, atNul, later, upto, behind, returned⟩ :=
          inductionHypothesis again near nul
        refine ⟨last, last', agrees, atNul, by omega, by omega, fun index ahead => ?_,
            fun more => ?_⟩
        · rw [behind index ahead, untouched index (by omega)]
        · rw [more', stringToDottedLoop, stringToDottedLoop, agree.offset, read, ok_bind,
            if_neg ends, one, ok_bind, ok_bind, if_neg ends, two, ok_bind]
          exact returned more

theorem agree_start (junk junk' : Junk) (str : Octets) :
    Agree str { value := uninitialised junk (str.length + 1) }
      { value := uninitialised junk' (str.length + 1) } where
  first := inside_start junk str
  second := inside_start junk' str
  offset := rfl
  lastSize := rfl
  wordLength := rfl
  behind := le_rfl
  value _ upto other := absurd (Nat.le_zero.mp upto) other

/-- What `string_to_dotted` stores last. -/
theorem Agree.finish (agree : Agree str s t) :
    ∃ dotted dotted', store s.value s.lastSize s.wordLength = .ok dotted ∧
      store t.value t.lastSize t.wordLength = .ok dotted' ∧ dotted.length = str.length + 1 ∧
      dotted'.length = str.length + 1 ∧
      (∀ index ≤ s.offset.toNat, dotted'[index]? = dotted[index]?) ∧
      ∀ index, s.offset.toNat < index → dotted[index]? = s.value[index]? := by
  have behind := agree.behind
  rw [store_of_le agree.first.value agree.first.lastSize,
    store_of_le agree.second.value agree.second.lastSize, agree.lastSize, agree.wordLength]
  refine ⟨_, _, rfl, rfl, ?_, ?_, fun index upto => ?_, fun index ahead => ?_⟩
  · rw [List.length_set]
    exact agree.first.value
  · rw [List.length_set]
    exact agree.second.value
  · exact set_agree _ (agree.second.value.trans agree.first.value.symm) (agree.value index upto)
  · exact List.getElem?_set_ne (by omega)

variable {passes : Nat}

/-- What two calls give for a string with a NUL in reach of the offset: the same up to the first
one, and behind that what was in memory. -/
theorem stringToDotted_of_nul {near : Nat} (small : near < 2 ^ 8)
    (nul : (str ++ [0])[near]? = some 0) (enough : 2 ^ 8 ≤ passes) (junk junk' : Junk) :
    ∃ place dotted dotted', (str ++ [0])[place]? = some 0 ∧ place ≤ near ∧
      stringToDotted passes junk str = .ok (true, dotted) ∧
      stringToDotted passes junk' str = .ok (true, dotted') ∧ dotted.length = str.length + 1 ∧
      dotted'.length = str.length + 1 ∧ (∀ index ≤ place, dotted'[index]? = dotted[index]?) ∧
      ∀ index, place < index → dotted[index]? = (uninitialised junk (str.length + 1))[index]? := by
  obtain ⟨last, last', agree, atNul, -, upto, behind, returned⟩ :=
    @Agree.runs _ _ _ (agree_start junk junk' str) near
      (by change 0 + near < 2 ^ 8; omega)
      (by change (str ++ [0])[0 + near]? = _; rw [Nat.zero_add, nul])
  have upto : last.offset.toNat ≤ 0 + near := upto
  obtain ⟨dotted, dotted', one, two, size, size', same, kept⟩ := agree.finish
  obtain ⟨first, second⟩ := returned (passes - (near + 1))
  rw [show near + 1 + (passes - (near + 1)) = passes by omega] at first second
  refine ⟨last.offset.toNat, dotted, dotted', atNul, by omega, ?_, ?_, size, size', same,
    fun index ahead => (kept index ahead).trans (behind index ahead)⟩
  · rw [stringToDotted, first, ok_bind, one, ok_bind]
    rfl
  · rw [stringToDotted, second, ok_bind, two, ok_bind]
    rfl

theorem stringToDotted_exhausted (late : ¬EndsEarly str) (junk : Junk) :
    stringToDotted passes junk str = .error .exhausted := by
  rw [endsEarly_iff] at late
  push Not at late
  rw [stringToDotted, dotting_exhausted (inside_start junk str) late, error_bind]

/-- The coded string is one octet longer. -/
theorem stringToDotted_ok (early : EndsEarly str) (enough : 2 ^ 8 ≤ passes) (junk : Junk) :
    ∃ dotted, stringToDotted passes junk str = .ok (true, dotted) ∧
      dotted.length = str.length + 1 := by
  obtain ⟨near, small, nul⟩ := (endsEarly_iff str).mp early
  obtain ⟨_, dotted, _, _, _, returned, _, size, -⟩ :=
    stringToDotted_of_nul small nul enough junk junk
  exact ⟨dotted, returned, size⟩

/-- A string without a NUL fills the buffer. -/
theorem stringToDotted_same (noNul : 0 ∉ str) (early : EndsEarly str) (enough : 2 ^ 8 ≤ passes)
    (junk junk' : Junk) : stringToDotted passes junk str = stringToDotted passes junk' str := by
  obtain ⟨near, small, nul⟩ := (endsEarly_iff str).mp early
  obtain ⟨place, dotted, dotted', nul, -, one, two, size, size', same, -⟩ :=
    stringToDotted_of_nul small nul enough junk junk'
  have last : str.length ≤ place := by
    by_contra inside
    rw [List.getElem?_append_left (Nat.lt_of_not_le inside)] at nul
    exact noNul (List.mem_of_getElem? nul)
  rw [one, two]
  refine congrArg (fun dotted => Except.ok (true, dotted)) (List.ext_getElem? fun index => ?_)
  rcases Nat.lt_or_ge place index with outside | inside
  · rw [List.getElem?_eq_none (by omega), List.getElem?_eq_none (by omega)]
  · exact (same index inside).symm

/-- A NUL in the string that the offset reaches. -/
theorem EndsEarly.inside (early : EndsEarly str) (nul : 0 ∈ str) :
    ∃ near < 2 ^ 8, near < str.length ∧ str[near]? = some 0 := by
  rcases early with short | soon
  · obtain ⟨near, inside, found⟩ := List.mem_iff_getElem.mp nul
    exact ⟨near, by omega, inside, by rw [List.getElem?_eq_getElem inside, found]⟩
  · obtain ⟨near, inside, found⟩ := List.mem_iff_getElem.mp soon
    rw [List.length_take] at inside
    rw [List.getElem_take] at found
    exact ⟨near, by omega, by omega, by rw [List.getElem?_eq_getElem (by omega), found]⟩

/-- Behind a NUL the last octet of the buffer is what was in memory. -/
theorem stringToDotted_last (nul : 0 ∈ str) (early : EndsEarly str) (enough : 2 ^ 8 ≤ passes)
    (junk : Junk) :
    ∃ dotted, stringToDotted passes junk str = .ok (true, dotted) ∧
      dotted[str.length]? = some (junk str.length) := by
  obtain ⟨near, small, inside, found⟩ := early.inside nul
  obtain ⟨place, dotted, _, _, upto, returned, _, _, _, _, behind⟩ :=
    stringToDotted_of_nul small (by rw [List.getElem?_append_left inside, found]) enough junk junk
  refine ⟨dotted, returned, ?_⟩
  rw [behind _ (by omega), uninitialised, List.getElem?_map, List.getElem?_range (by omega)]
  rfl

end Dotting

/-! ### Names -/

/-- There are no more labels than octets of their coded form. -/
theorem length_le_coded (labels : List Label) : labels.length ≤ (coded labels).length := by
  induction labels with
  | nil => exact le_rfl
  | cons label labels inductionHypothesis =>
      rw [coded_cons, List.length_append, List.length_cons, List.length_cons]
      omega

/-- A loop that has ended does so in more passes. -/
theorem stringToDottedLoop_more {str : Octets} {passes : Nat} {s last : Dotting}
    (returned : stringToDottedLoop str passes s = .ok last) (more : Nat) :
    stringToDottedLoop str (passes + more) s = .ok last := by
  induction passes generalizing s with
  | zero => cases returned
  | succ passes inductionHypothesis =>
      rw [show passes + 1 + more = passes + more + 1 by omega]
      rw [stringToDottedLoop] at returned ⊢
      cases read : charAt str s.offset.toNat with
      | error reason =>
          rw [read, error_bind] at returned
          cases returned
      | ok octet =>
          rw [read, ok_bind] at returned
          rw [ok_bind]
          split at returned
          · rw [if_pos ‹_›]
            exact returned
          · rw [if_neg ‹_›]
            cases passed : stringToDottedPass s octet with
            | error reason =>
                rw [passed, error_bind] at returned
                cases returned
            | ok next =>
                rw [passed, ok_bind] at returned
                rw [ok_bind]
                exact inductionHypothesis returned

theorem stringToDotted_more {str : Octets} {junk : Junk} {passes : Nat} {result : Bool × Octets}
    (returned : stringToDotted passes junk str = .ok result) (more : Nat) :
    stringToDotted (passes + more) junk str = .ok result := by
  rw [stringToDotted] at returned ⊢
  cases looped : stringToDottedLoop str passes { value := uninitialised junk (str.length + 1) } with
  | error reason =>
      rw [looped, error_bind] at returned
      cases returned
  | ok last =>
      rw [looped, ok_bind] at returned
      rw [stringToDottedLoop_more looped more, ok_bind]
      exact returned

/-! ### Lengths that come round -/

section Walk

variable {dotted : Octets} {s next : Undotting}

theorem copyFrom_cases (start count : Nat) :
    (∃ word, copyFrom dotted start count = .ok word) ∨
      copyFrom dotted start count = .error (.thrown .lengthError) ∨
      copyFrom dotted start count = .error .undefined := by
  unfold copyFrom
  split
  · exact .inr (.inl rfl)
  · split
    · exact .inl ⟨_, rfl⟩
    · exact .inr (.inr rfl)

/-- A pass follows the walk, or ends the loop without a result. -/
theorem pass_cases {octet : Octet} (found : dotted[s.offset.toNat]? = some octet) :
    (∃ next, dottedToStringPass dotted s = .ok next ∧ next.offset = follow octet s.offset) ∨
      dottedToStringPass dotted s = .error (.thrown .lengthError) ∨
      dottedToStringPass dotted s = .error .undefined := by
  rw [dottedToStringPass, charAt_of_found found, ok_bind]
  unfold follow
  by_cases label : octet.toInt < 64
  · simp only [if_pos label]
    split
    · unfold appendWord
      rcases @copyFrom_cases dotted (s.offset.toNat + 1) (octet.toInt % 2 ^ 64).toNat with
        ⟨word, copied⟩ | thrown | undefined
      · left
        simp only [copied, ok_bind]
        exact ⟨_, rfl, rfl⟩
      · right; left
        simp only [thrown]
        rfl
      · right; right
        simp only [undefined]
        rfl
    · exact .inl ⟨_, rfl, rfl⟩
  · simp only [if_neg label]
    exact .inl ⟨_, rfl, rfl⟩

/-- A walk that never comes round ends within a pass for each place. -/
theorem loop_not_exhausted {points : Finset (BitVec 16)} {fuel : Nat}
    (inside : ∀ place, Reaches (nextOffset dotted) s.offset place → place ∈ points)
    (never : NeverRound (nextOffset dotted) s.offset) (enough : points.card < fuel) :
    dottedToStringLoop dotted fuel s ≠ .error .exhausted := by
  induction points using Finset.strongInduction generalizing s fuel with
  | H points inductionHypothesis =>
      obtain ⟨fuel, rfl⟩ : ∃ less, fuel = less + 1 := ⟨fuel - 1, by omega⟩
      rw [dottedToStringLoop]
      by_cases within : s.offset.toNat < dotted.length
      · obtain ⟨octet, found, step⟩ := nextOffset_of_lt within
        rw [if_pos within]
        rcases pass_cases found with ⟨next, passed, moved⟩ | thrown | undefined
        · have fewer : points.erase s.offset ⊂ points := Finset.erase_ssubset (inside _ .refl)
          have less := Finset.card_lt_card fewer
          rw [passed, ok_bind]
          rw [← moved] at step
          refine inductionHypothesis _ fewer (fun place reached => ?_) (never.step step) (by omega)
          apply Finset.mem_erase.mpr
          constructor
          · intro back
            rw [back] at reached
            exact never s.offset .refl (Relation.TransGen.head' step reached)
          · exact inside place (Relation.ReflTransGen.head step reached)
        · rw [thrown]
          exact Except.error.inj.mt (by decide)
        · rw [undefined]
          exact Except.error.inj.mt (by decide)
      · rw [if_neg within]
        intro same
        cases same

/-- A string that is not done within a pass for each 16-bit offset goes on for ever, since the
walk over its lengths comes round. -/
theorem round_of_exhausted {passes : Nat} (enough : 2 ^ 16 < passes)
    (exhausted : dottedToString passes dotted = .error .exhausted) :
    ¬NeverRound (nextOffset dotted) 0 := by
  intro never
  have places : ∀ place : BitVec 16, place ∈ (Finset.range (2 ^ 16)).image (BitVec.ofNat 16) := by
    intro place
    rw [Finset.mem_image]
    exact ⟨place.toNat, Finset.mem_range.mpr place.isLt, BitVec.ofNat_toNat .. ▸ rfl⟩
  have few := (Finset.card_image_le (s := Finset.range (2 ^ 16)) (f := BitVec.ofNat 16)).trans_eq
    (Finset.card_range _)
  have ends := @loop_not_exhausted dotted {} _ passes (fun place _ => places place) never
    (few.trans_lt enough)
  unfold dottedToString at exhausted
  cases ran : dottedToStringLoop dotted passes {} with
  | ok last =>
      rw [ran] at exhausted
      cases exhausted
  | error reason =>
      rw [ran] at exhausted ends
      cases exhausted
      exact ends rfl

end Walk

variable {label : Label} {labels : List Label} {passes : Nat}

theorem stringToDotted_of_name (small : (name (label :: labels)).length < 2 ^ 8)
    (enough : 2 ^ 8 ≤ passes) (junk : Junk) :
    stringToDotted passes junk (name (label :: labels)) = .ok (true, coded (label :: labels)) := by
  obtain ⟨dotted, returned, -⟩ := stringToDotted_ok (.inl small) enough junk
  obtain ⟨other, returns⟩ := stringToDotted_name label labels small junk
  have both : stringToDotted (other + passes) junk (name (label :: labels)) =
      .ok (true, coded (label :: labels)) := returns passes
  rw [Nat.add_comm, stringToDotted_more returned other] at both
  rw [returned, both]

theorem dottedToString_of_coded (small : (coded (label :: labels)).length < 2 ^ 16)
    (enough : (coded (label :: labels)).length < passes) :
    dottedToString passes (coded (label :: labels)) = .ok (true, name (label :: labels)) := by
  have fewer := length_le_coded (label :: labels)
  have split : coded (label :: labels) = [] ++ (label.length :: label.octets ++ coded labels) := rfl
  obtain ⟨next, passed, nextOffset, result, noDot⟩ :=
    @pass_label _ [] (coded labels) {} label split rfl small
  obtain ⟨last, returned, lastResult, lastNoDot⟩ :=
    @undotting_further _ ([] ++ label.length :: label.octets) next labels split nextOffset
      (List.cons_ne_nil _ _) small
  obtain ⟨more, rfl⟩ : ∃ more, passes = more + labels.length + 1 + 1 :=
    ⟨passes - (labels.length + 2), by rw [List.length_cons] at fewer; omega⟩
  have inside : (({} : Undotting).offset.toNat < (coded (label :: labels)).length) := by
    change 0 < _
    rw [List.length_cons] at fewer
    omega
  rw [dottedToString, dottedToStringLoop, if_pos inside, passed, ok_bind, returned, ok_bind,
    lastResult, result, lastNoDot, noDot, if_pos rfl]
  rfl

end OpenairSpgwc.Common.Labels
