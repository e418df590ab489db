import OpenairSpgwc.Foundation.Elements

/-!
Contract: what reading makes of an arbitrary string.

Owns:
- `Scan.Safe`: a computation only takes octets away, comes to an end, and is not cut
  off by the bound on calls;
- that reading a body is safe but where a class goes on for ever;
- `Measures`: how many octets a class takes of a value, or that it raises an
  exception;
- `Fits`: the string is a sequence of elements by their declared lengths, and each
  class takes just these octets or raises an exception;
- that a body that fits is cut at the declared lengths or raises an exception, and
  that only such a body is cut so.
-/

namespace OpenairSpgwc.Foundation

/-! ## Computations that only take octets away -/

/-- After a failure nothing is left. -/
def Stream.Sound (stream : Stream) : Prop := stream.failed = true → stream.rest = []

namespace Scan

variable {ε α β : Type} {scan : Scan ε α}

/-- From `stream` the computation takes octets away or ends without a result. It goes on for
ever only where `stuck` says so of what is left of the string. -/
def SafeAt (stuck : Octets → Prop) (scan : Scan ε α) (stream : Stream) : Prop :=
  match scan stream with
  | .ok (_, after) => after.Sound ∧ after.rest <:+ stream.rest
  | .error reason => reason ≠ .exhausted ∧ (reason = .diverges → stuck stream.rest)

/-- It goes on for ever nowhere. -/
def Safe (scan : Scan ε α) : Prop := ∀ stream, stream.Sound → scan.SafeAt (fun _ => False) stream

theorem safe_pure (value : α) : Safe (pure value : Scan ε α) :=
  fun _ sound => ⟨sound, List.suffix_rfl⟩

theorem safe_throw (exception : ε) : Safe (throw exception : Scan ε α) :=
  fun _ _ => by simp [SafeAt, throw, fault]

theorem safe_fault {reason : Fault ε} (ends : reason ≠ .exhausted ∧ reason ≠ .diverges) :
    Safe (fault reason : Scan ε α) :=
  fun _ _ => ⟨ends.1, ends.2⟩

theorem SafeAt.mono {stuck later : Octets → Prop} {stream : Stream}
    (safe : scan.SafeAt later stream) (more : later stream.rest → stuck stream.rest) :
    scan.SafeAt stuck stream := by
  unfold SafeAt at safe ⊢
  cases ran : scan stream with
  | ok result =>
      rw [ran] at safe
      exact safe
  | error reason =>
      rw [ran] at safe
      exact ⟨safe.1, fun endless => more (safe.2 endless)⟩

/-- What does not go on for ever may be said to go on anywhere. -/
theorem SafeAt.weaken {stuck : Octets → Prop} {stream : Stream}
    (safe : scan.SafeAt (fun _ => False) stream) : scan.SafeAt stuck stream :=
  safe.mono False.elim

theorem SafeAt.bind {stuck later : Octets → Prop} {next : α → Scan ε β} {stream : Stream}
    (first : scan.SafeAt stuck stream)
    (second : ∀ value after, scan stream = .ok (value, after) → after.Sound →
      after.rest <:+ stream.rest → (next value).SafeAt later after)
    (returns : ∀ tail, tail <:+ stream.rest → later tail → stuck stream.rest) :
    (scan >>= next).SafeAt stuck stream := by
  unfold SafeAt at first ⊢
  rw [scan_bind]
  cases ran : scan stream with
  | error reason =>
      rw [ran] at first
      exact first
  | ok result =>
      rw [ran] at first
      have then' := second result.1 result.2 ran first.1 first.2
      unfold SafeAt at then'
      simp only
      cases ends : next result.1 result.2 with
      | error reason =>
          rw [ends] at then'
          exact ⟨then'.1, fun endless => returns result.2.rest first.2 (then'.2 endless)⟩
      | ok final =>
          rw [ends] at then'
          exact ⟨then'.1, then'.2.trans first.2⟩

/-- The second computation comes to an end. -/
theorem SafeAt.then_safe {stuck : Octets → Prop} {next : α → Scan ε β} {stream : Stream}
    (first : scan.SafeAt stuck stream) (second : ∀ value, Safe (next value)) :
    (scan >>= next).SafeAt stuck stream :=
  first.bind (fun value after _ fine _ => second value after fine) fun _ _ => False.elim

theorem Safe.bind {next : α → Scan ε β} (first : Safe scan) (second : ∀ value, Safe (next value)) :
    Safe (scan >>= next) :=
  fun stream sound => (first stream sound).then_safe second

theorem safe_read (old : Octets) : Safe (read old : Scan ε Octets) := by
  intro stream sound
  unfold SafeAt read
  by_cases failed : stream.failed = true
  · rw [if_pos failed]
    exact ⟨sound, List.suffix_rfl⟩
  · rw [if_neg failed]
    by_cases enough : old.length ≤ stream.rest.length
    · rw [if_pos enough]
      exact ⟨fun again => absurd again failed, List.drop_suffix _ _⟩
    · rw [if_neg enough]
      exact ⟨fun _ => rfl, List.nil_suffix⟩

theorem safe_into (old : Octets) (w : Nat) : Safe (into old w : Scan ε (BitVec w)) :=
  (safe_read old).bind fun _ => safe_pure _

theorem safe_number (n w : Nat) : Safe (number n w : Scan ε (BitVec w)) := safe_into _ w

theorem safe_octet : Safe (octet : Scan ε Octet) := safe_number 1 8

theorem safe_ite {p : Prop} [Decidable p] {first second : Scan ε α} (yes : Safe first)
    (no : Safe second) : Safe (if p then first else second) := by
  split
  · exact yes
  · exact no

theorem safe_optional {flag : Bool} {field : Scan ε α} {absent : α} (safe : Safe field) :
    Safe (optional flag field absent) := by
  cases flag with
  | false => exact safe_pure absent
  | true => exact safe

/-- Every result of the computation has the property. -/
def Gives (property : α → Prop) (scan : Scan ε α) : Prop :=
  ∀ stream value after, scan stream = .ok (value, after) → property value

theorem Gives.pure {property : α → Prop} {value : α} (holds : property value) :
    Gives property (Pure.pure value : Scan ε α) := by
  intro stream value' after ran
  cases ran
  exact holds

theorem Gives.bind {property : β → Prop} {next : α → Scan ε β}
    (gives : ∀ value, Gives property (next value)) : Gives property (scan >>= next) := by
  intro stream value after ran
  rw [scan_bind] at ran
  cases first : scan stream with
  | error reason =>
      rw [first] at ran
      cases ran
  | ok result =>
      rw [first] at ran
      exact gives result.1 result.2 value after ran

/-- A read takes something of what is left. -/
theorem read_shrinks {old octets : Octets} {stream after : Stream} (sound : stream.Sound)
    (some' : stream.rest ≠ []) (size : old ≠ [])
    (ran : (read old : Scan ε Octets) stream = .ok (octets, after)) :
    after.rest.length < stream.rest.length := by
  have left : 0 < stream.rest.length := List.length_pos_of_ne_nil some'
  have wanted : 0 < old.length := List.length_pos_of_ne_nil size
  unfold read at ran
  by_cases failed : stream.failed = true
  · exact absurd (sound failed) some'
  · rw [if_neg failed] at ran
    split at ran
    · cases ran
      change (stream.rest.drop old.length).length < _
      rw [List.length_drop]
      omega
    · cases ran
      exact left

/-- Nothing is read of what is empty. -/
theorem read_of_nil {old : Octets} {stream : Stream} (empty : stream.rest = []) :
    ∃ after, (read old : Scan ε Octets) stream = .ok (old, after) ∧ after.rest = [] := by
  unfold read
  split
  · exact ⟨stream, rfl, empty⟩
  · split
    · rename_i enough
      rw [empty, List.length_nil, Nat.le_zero, List.length_eq_zero_iff] at enough
      rw [enough, empty]
      exact ⟨_, rfl, rfl⟩
    · rw [empty]
      exact ⟨_, rfl, rfl⟩

theorem ofBe_zeros (n : Nat) : ofBe (List.replicate n 0) = 0 := by
  induction n with
  | zero => rfl
  | succ n inductionHypothesis => exact inductionHypothesis

theorem number_of_nil {n w : Nat} {stream : Stream} (empty : stream.rest = []) :
    ∃ after, (number n w : Scan ε (BitVec w)) stream = .ok (0, after) ∧ after.rest = [] := by
  obtain ⟨after, ran, still⟩ := @read_of_nil ε (List.replicate n 0) _ empty
  refine ⟨after, ?_, still⟩
  change (read _ >>= _) stream = _
  rw [scan_bind, ran]
  change Except.ok (BitVec.ofNat w (ofBe (List.replicate n 0)), after) = _
  rw [ofBe_zeros]
  rfl

/-- A computation that starts with a number takes something of what is left. -/
theorem number_shrinks {n w : Nat} {next : BitVec w → Scan ε β} {value : β}
    {stream after : Stream} (safe : ∀ number, (next number).Safe) (sound : stream.Sound)
    (some' : stream.rest ≠ []) (size : n ≠ 0)
    (ran : (number n w >>= next) stream = .ok (value, after)) :
    after.rest.length < stream.rest.length := by
  have zeros : List.replicate n (0 : Octet) ≠ [] := by
    rw [Ne, List.replicate_eq_nil_iff]
    exact size
  have first := safe_read (ε := ε) (List.replicate n 0) stream sound
  unfold SafeAt at first
  cases read' : (read (List.replicate n 0) : Scan ε Octets) stream with
  | error reason =>
      change (read _ >>= _ >>= _) stream = _ at ran
      rw [scan_bind, scan_bind, read'] at ran
      cases ran
  | ok result =>
      obtain ⟨octets, middle⟩ := result
      rw [read'] at first
      have fewer := read_shrinks sound some' zeros read'
      change (read _ >>= _ >>= _) stream = _ at ran
      rw [scan_bind, scan_bind, read'] at ran
      have rest := safe (BitVec.ofNat w (ofBe octets)) middle first.1
      unfold SafeAt at rest
      change next (BitVec.ofNat w (ofBe octets)) middle = _ at ran
      rw [ran] at rest
      exact lt_of_le_of_lt rest.2.length_le fewer

end Scan

namespace Protocol

variable {ε Object : Type} {protocol : Protocol ε Object} {octets : Octets}
  {elements : List (Element Object)}

/-- The classes only take octets away, and an element takes some. `stuck` says before which
octets the class of an element goes on for ever. -/
structure Regular (protocol : Protocol ε Object) (stuck : Junk → Tlv → Octets → Prop) : Prop where
  header : protocol.readHeader.Safe
  takes : ∀ stream tlv after, stream.Sound → protocol.readHeader stream = .ok (tlv, after) →
    tlv.length ≠ 0 → after.rest.length < stream.rest.length
  load : ∀ junk tlv stream, stream.Sound → (protocol.load junk tlv).SafeAt (stuck junk tlv) stream
  badLength : ∀ tlv, protocol.badLength tlv ≠ .exhausted ∧ protocol.badLength tlv ≠ .diverges

/-- Somewhere in the string an element is declared whose class goes on for ever. -/
def StuckIn (protocol : Protocol ε Object) (stuck : Tlv → Octets → Prop) (octets : Octets) : Prop :=
  ∃ tail, tail <:+ octets ∧ ∃ tlv after, protocol.readHeader ⟨tail, false⟩ = .ok (tlv, after) ∧
    protocol.shape tlv.type = some .leaf ∧ stuck tlv after.rest

variable {stuck : Junk → Tlv → Octets → Prop}

theorem StuckIn.of_suffix {stuck : Tlv → Octets → Prop} {tail : Octets} (suffix : tail <:+ octets)
    (inside : protocol.StuckIn stuck tail) : protocol.StuckIn stuck octets := by
  obtain ⟨last, ends, rest⟩ := inside
  exact ⟨last, ends.trans suffix, rest⟩

/-- An element that is read takes octets away. -/
def Progress (stuck : Octets → Prop) (stream : Stream) :
    Except (Fault ε) (Option (Element Object) × Stream) → Prop
  | .ok (some _, after) =>
      after.Sound ∧ after.rest <:+ stream.rest ∧ after.rest.length < stream.rest.length
  | .ok (none, after) => after.Sound ∧ after.rest <:+ stream.rest
  | .error reason => reason ≠ .exhausted ∧ (reason = .diverges → stuck stream.rest)

theorem Progress.safeAt {stuck : Octets → Prop} {scan : Scan ε (Option (Element Object))}
    {stream : Stream} (progress : Progress stuck stream (scan stream)) :
    scan.SafeAt stuck stream := by
  unfold Scan.SafeAt
  cases ran : scan stream with
  | error reason =>
      rw [ran] at progress
      exact progress
  | ok result =>
      rw [ran] at progress
      obtain ⟨found, after⟩ := result
      cases found with
      | none => exact progress
      | some element => exact ⟨progress.1, progress.2.1⟩

/-- What is read after the header of an element. -/
theorem Progress.of_value {α : Type} {stuck later : Octets → Prop} {stream after : Stream}
    {scan : Scan ε α} {element : α → Element Object} (loaded : scan.SafeAt later after)
    (suffix : after.rest <:+ stream.rest) (fewer : after.rest.length < stream.rest.length)
    (returns : later after.rest → stuck stream.rest) :
    Progress stuck stream ((scan >>= fun value => pure (some (element value))) after) := by
  unfold Scan.SafeAt at loaded
  rw [scan_bind]
  cases inside : scan after with
  | error reason =>
      rw [inside] at loaded
      exact ⟨loaded.1, fun endless => returns (loaded.2 endless)⟩
  | ok final =>
      rw [inside] at loaded
      exact ⟨loaded.1, loaded.2.trans suffix, lt_of_le_of_lt loaded.2.length_le fewer⟩

/-- Reading elements is not cut off, by induction on the bound. -/
theorem progress_and_safe (regular : protocol.Regular stuck) (junk : Junk) (fuel : Nat) :
    (∀ stream : Stream, stream.Sound → 2 * stream.rest.length + 2 ≤ fuel →
      Progress (protocol.StuckIn (stuck junk)) stream (protocol.loadElement junk fuel stream)) ∧
    ∀ (stream : Stream) (tlv : Tlv) (remaining : Int), stream.Sound →
      2 * stream.rest.length + 3 ≤ fuel →
      (protocol.loadGroup junk fuel tlv remaining).SafeAt (protocol.StuckIn (stuck junk))
        stream := by
  induction fuel with
  | zero => exact ⟨fun _ _ enough => absurd enough (by omega),
      fun _ _ _ _ enough => absurd enough (by omega)⟩
  | succ fuel inductionHypothesis =>
      refine ⟨fun stream sound enough => ?_, fun stream tlv remaining sound enough => ?_⟩
      · have safe := regular.header stream sound
        unfold Scan.SafeAt at safe
        rw [loadElement, scan_bind]
        cases ran : protocol.readHeader stream with
        | error reason =>
            rw [ran] at safe
            exact ⟨safe.1, fun endless => absurd (safe.2 endless) not_false⟩
        | ok result =>
            obtain ⟨tlv, after⟩ := result
            rw [ran] at safe
            simp only
            by_cases empty : tlv.length = 0
            · rw [if_pos empty]
              exact safe
            · rw [if_neg empty]
              have fewer := regular.takes stream tlv after sound ran empty
              cases shape : protocol.shape tlv.type with
              | none => exact safe
              | some kind =>
                  cases kind with
                  | leaf =>
                      refine .of_value (regular.load junk tlv after safe.1) safe.2 fewer
                        fun endless => ⟨stream.rest, List.suffix_rfl, tlv, after, ?_, shape, endless⟩
                      -- A stream with something left has not failed.
                      have fine : stream.failed = false := by
                        by_contra failed
                        rw [sound (Bool.not_eq_false _ ▸ failed)] at fewer
                        cases fewer
                      rw [← fine]
                      exact ran
                  | group =>
                      have loaded := inductionHypothesis.2 after tlv tlv.length safe.1 (by omega)
                      exact .of_value loaded safe.2 fewer (.of_suffix safe.2)
      · rw [loadGroup]
        split
        · have progress := inductionHypothesis.1 stream sound (by omega)
          refine progress.safeAt.bind (fun found after ran fine _ => ?_) fun _ => .of_suffix
          rw [ran] at progress
          cases found with
          | none => exact (Scan.safe_fault (regular.badLength tlv) after fine).weaken
          | some element =>
              have fewer : after.rest.length < stream.rest.length := progress.2.2
              exact (inductionHypothesis.2 after tlv _ fine (by omega)).then_safe
                fun elements => Scan.safe_pure _
        · exact (Scan.safe_pure _ stream sound).weaken

theorem safe_loadBody (regular : protocol.Regular stuck) (junk : Junk) {fuel check total : Nat}
    {stream : Stream} (sound : stream.Sound) (enough : 2 * stream.rest.length + 3 ≤ fuel) :
    (protocol.loadBody junk fuel check total).SafeAt (protocol.StuckIn (stuck junk)) stream := by
  induction fuel generalizing stream total with
  | zero => exact absurd enough (by omega)
  | succ fuel inductionHypothesis =>
      rw [loadBody]
      have progress := (progress_and_safe regular junk fuel).1 stream sound (by omega)
      refine progress.safeAt.bind (fun found after ran fine _ => ?_) fun _ => .of_suffix
      rw [ran] at progress
      cases found with
      | none => exact (Scan.safe_pure _ after fine).weaken
      | some element =>
          have fewer : after.rest.length < stream.rest.length := progress.2.2
          simp only
          split
          · exact (inductionHypothesis fine (by omega)).then_safe fun result => Scan.safe_pure _
          · exact (Scan.safe_pure _ after fine).weaken

/-! ## Strings that fit -/

/-- What a class does with a value: it takes a number of octets, raises an exception, or
does neither. -/
inductive Extent where
  | takes (octets : Nat)
  | raises
  | fails
deriving DecidableEq, Repr

/-- The computation takes `n` octets at the value, as far as the value goes. -/
def TakesAlong {α : Type} (scan : Junk → Scan ε α) (value : Octets) (n : Nat) : Prop :=
  ∃ octets result, octets.length = n ∧ (octets <+: value ∨ value <+: octets) ∧
    ∀ junk, Reads (scan junk) octets result

/-- What the classes do with their values is what `extent` says. -/
structure Measures (protocol : Protocol ε Object) (extent : Tlv → Octets → Extent) : Prop where
  takes : ∀ tlv value n, protocol.shape tlv.type = some .leaf → tlv.length ≠ 0 →
    value.length = tlv.length → extent tlv value = .takes n →
      TakesAlong (fun junk => protocol.load junk tlv) value n
  raises : ∀ tlv value, protocol.shape tlv.type = some .leaf → tlv.length ≠ 0 →
    value.length = tlv.length → extent tlv value = .raises →
      ∀ junk, Raises (protocol.load junk tlv) value
  fails : ∀ tlv value taken object, protocol.shape tlv.type = some .leaf → tlv.length ≠ 0 →
    value.length = tlv.length → extent tlv value = .fails → taken <+: value →
      ¬ ∀ junk, Reads (protocol.load junk tlv) taken object

/-- An element of this extent is the whole value, or ends a message within the value. -/
def Extent.Fine (extent : Extent) (final : Bool) (length : Nat) : Prop :=
  match extent with
  | .takes n => n = length ∨ (final = true ∧ n ≤ length)
  | .raises => True
  | .fails => False

/-- The string is a sequence of elements by their declared lengths, and each class takes just
its value, or raises an exception. The class of the last element of a message can take less. -/
inductive Fits (protocol : Protocol ε Object) (extent : Tlv → Octets → Extent) :
    Bool → Octets → Prop where
  | nil {final : Bool} : Fits protocol extent final []
  | leaf {final : Bool} {head value more : Octets} {tlv : Tlv}
      (header : Reads protocol.readHeader head tlv) (size : head.length = tlvSize)
      (nonempty : tlv.length ≠ 0) (shape : protocol.shape tlv.type = some .leaf)
      (exact : value.length = tlv.length)
      (fine : (extent tlv value).Fine (final && more.isEmpty) value.length)
      (rest : Fits protocol extent final more) : Fits protocol extent final (head ++ value ++ more)
  | group {final : Bool} {head value more : Octets} {tlv : Tlv}
      (header : Reads protocol.readHeader head tlv) (size : head.length = tlvSize)
      (nonempty : tlv.length ≠ 0) (shape : protocol.shape tlv.type = some .group)
      (exact : value.length = tlv.length)
      (inside : Fits protocol extent (final && more.isEmpty) value)
      (rest : Fits protocol extent final more) : Fits protocol extent final (head ++ value ++ more)

variable {extent : Tlv → Octets → Extent}

theorem TakesAlong.reads {α : Type} {scan : Junk → Scan ε α} {value : Octets} {n : Nat}
    (along : TakesAlong scan value n) (inside : n ≤ value.length) :
    ∃ result, ∀ junk, Reads (scan junk) (value.take n) result := by
  obtain ⟨octets, result, size, shorter | longer, reads⟩ := along
  · rw [← size, ← List.prefix_iff_eq_take.mp shorter]
    exact ⟨result, reads⟩
  · have same : value = octets := longer.eq_of_length_le (by omega)
    rw [same, ← size, List.take_length]
    exact ⟨result, reads⟩

/-- The same octets are taken from strings of which one is the beginning of the other. -/
theorem length_eq_of_reads {α : Type} {scan : Scan ε α} {first second : Octets} {one two : α}
    (shorter : first <+: second) (reads : Reads scan first one) (again : Reads scan second two) :
    first.length = second.length := by
  obtain ⟨tail, rfl⟩ := shorter
  have ran := again []
  rw [List.append_nil] at ran
  have same := (reads.unique ran).2
  rw [← same, List.append_nil]

theorem TakesAlong.length_eq {α : Type} {scan : Junk → Scan ε α} {value taken : Octets} {n : Nat}
    {result : α} (along : TakesAlong scan value n) (inside : taken <+: value)
    (reads : ∀ junk, Reads (scan junk) taken result) : n = taken.length := by
  obtain ⟨octets, other, rfl, shorter | longer, again⟩ := along
  · rcases List.prefix_or_prefix_of_prefix shorter inside with less | more
    · exact length_eq_of_reads less (again fun _ => 0) (reads fun _ => 0)
    · exact (length_eq_of_reads more (reads fun _ => 0) (again fun _ => 0)).symm
  · exact (length_eq_of_reads (inside.trans longer) (reads fun _ => 0) (again fun _ => 0)).symm

/-- What is read within a value has the extent. -/
theorem Measures.fine (measures : protocol.Measures extent) {final : Bool} {tlv : Tlv}
    {taken left : Octets} {object : Object} (shape : protocol.shape tlv.type = some .leaf)
    (nonempty : tlv.length ≠ 0) (exact : taken.length + left.length = tlv.length)
    (all : final = false → left = [])
    (reads : ∀ junk, Reads (protocol.load junk tlv) taken object) :
    (extent tlv (taken ++ left)).Fine final (taken ++ left).length := by
  have size : (taken ++ left).length = tlv.length := by rw [List.length_append, exact]
  cases shown : extent tlv (taken ++ left) with
  | takes n =>
      have along := measures.takes tlv _ n shape nonempty size shown
      have same : n = taken.length := along.length_eq (List.prefix_append taken left) reads
      cases final with
      | false =>
          refine .inl ?_
          rw [all rfl, List.append_nil, same]
      | true =>
          refine .inr ⟨rfl, ?_⟩
          rw [same, List.length_append]
          exact Nat.le_add_right _ _
  | raises => exact trivial
  | fails =>
      exact measures.fails tlv _ taken object shape nonempty size shown
        (List.prefix_append taken left) reads

mutual

theorem Cut.fits {final : Bool} {octets more : Octets} {element : Element Object}
    (measures : protocol.Measures extent) : protocol.Cut (final && more.isEmpty) octets element →
      protocol.Fits extent final more → protocol.Fits extent final (octets ++ more)
  | @Cut.leaf _ _ _ _ head taken left _ _ header size nonempty shape exact all load, rest =>
      .leaf header size nonempty shape (by rw [List.length_append, exact])
        (measures.fine shape nonempty exact all load) rest
  | .group header size nonempty shape exact load, rest =>
      .group header size nonempty shape exact (load.fits measures) rest

theorem CutAll.fits {final : Bool} {octets : Octets} {elements : List (Element Object)}
    (measures : protocol.Measures extent) : protocol.CutAll final octets elements →
      protocol.Fits extent final octets
  | .nil => .nil
  | .cons first rest => first.fits measures (rest.fits measures)

end

/-- The elements of a group or a body raise an exception. -/
def AllRaise (protocol : Protocol ε Object) (octets : Octets) : Prop :=
  ∀ junk fuel, 2 * octets.length + 1 ≤ fuel →
    (∀ tlv, Raises (protocol.loadGroup junk fuel tlv octets.length) octets) ∧
    ∀ check total, total + octets.length = check → check < 2 ^ 16 →
      Raises (protocol.loadBody junk fuel check total) octets

/-- A first element that raises. -/
theorem allRaise_of_first {first more : Octets} (longer : 0 < first.length)
    (raises : ∀ junk fuel, 2 * first.length ≤ fuel →
      Raises (protocol.loadElement junk fuel) first) : protocol.AllRaise (first ++ more) := by
  intro junk fuel enough
  obtain ⟨fuel, rfl⟩ : ∃ less, fuel = less + 1 := ⟨fuel - 1, by omega⟩
  rw [List.length_append] at enough
  have raised : Raises (protocol.loadElement junk fuel) (first ++ more) := by
    intro tail
    rw [List.append_assoc]
    exact raises junk fuel (by omega) (more ++ tail)
  refine ⟨fun tlv => ?_, fun check total _ _ => ?_⟩
  · rw [loadGroup, if_pos (by rw [List.length_append]; omega)]
    exact raised.bind
  · rw [loadBody]
    exact raised.bind

/-- A later element that raises. -/
theorem allRaise_of_rest {first more : Octets} {element : Element Object}
    (cut : protocol.Cut false first element) (raises : protocol.AllRaise more) (some : more ≠ []) :
    protocol.AllRaise (first ++ more) := by
  intro junk fuel enough
  obtain ⟨span, taken, left, rfl, all, parses⟩ := cut.parses
  obtain rfl := all rfl
  rw [List.append_nil] at enough span ⊢
  have longer := parses.length_pos
  have positive : 0 < more.length := List.length_pos_of_ne_nil some
  obtain ⟨fuel, rfl⟩ : ∃ less, fuel = less + 1 := ⟨fuel - 1, by omega⟩
  rw [List.length_append] at enough
  obtain ⟨group, body⟩ := raises junk fuel (by omega)
  refine ⟨fun tlv => ?_, fun check total declared bound => ?_⟩
  · rw [loadGroup, if_pos (by rw [List.length_append]; omega)]
    refine (parses.reads junk (by omega)).bind_raises ?_
    have left : ((taken ++ more).length : Int) - element.span = more.length := by
      rw [List.length_append, ← span]
      omega
    simp only [left]
    exact (group tlv).bind
  · rw [List.length_append] at declared
    rw [loadBody]
    refine (parses.reads junk (by omega)).bind_raises ?_
    have small : (total + element.span) % 2 ^ 16 = total + element.span :=
      Nat.mod_eq_of_lt (by omega)
    simp only [small]
    rw [if_pos (by omega)]
    exact (body check _ (by omega) bound).bind

/-- An element with more behind it ends where it is declared to. -/
theorem Cut.whole {final : Bool} {first more : Octets} {element : Element Object}
    (cut : protocol.Cut (final && more.isEmpty) first element) (some : more ≠ []) :
    protocol.Cut false first element := by
  rw [List.isEmpty_eq_false_iff.mpr some, Bool.and_false] at cut
  exact cut

/-- A body that fits is cut at the declared lengths, or raises an exception. -/
theorem Fits.cut_or_raises {final : Bool} (measures : protocol.Measures extent)
    (fits : protocol.Fits extent final octets) :
    (∃ elements, protocol.CutAll final octets elements) ∨
      (octets ≠ [] ∧ protocol.AllRaise octets) := by
  induction fits with
  | nil => exact .inl ⟨[], .nil⟩
  | @leaf final head value more tlv header size nonempty shape exact fine rest
      inductionHypothesis =>
      have longer : 0 < (head ++ value).length := by
        rw [List.length_append, size, tlvSize]
        omega
      have some : head ++ value ++ more ≠ [] := by
        intro empty
        rw [List.append_eq_nil_iff] at empty
        rw [empty.1] at longer
        exact absurd longer (by decide)
      cases shown : extent tlv value with
      | fails =>
          rw [shown] at fine
          exact fine.elim
      | raises =>
          refine .inr ⟨some, allRaise_of_first longer fun junk fuel enough => ?_⟩
          obtain ⟨fuel, rfl⟩ : ∃ less, fuel = less + 1 := ⟨fuel - 1, by omega⟩
          rw [loadElement]
          refine header.bind_raises ?_
          rw [if_neg nonempty, shape]
          exact (measures.raises tlv value shape nonempty exact shown junk).bind
      | takes n =>
          rw [shown] at fine
          have inside : n ≤ value.length := by
            rcases fine with same | ⟨-, less⟩
            · exact same.le
            · exact less
          obtain ⟨object, reads⟩ := (measures.takes tlv value n shape nonempty exact shown).reads
            inside
          have cut : protocol.Cut (final && more.isEmpty) (head ++ value) (.leaf tlv object) := by
            rw [← List.take_append_drop n value]
            refine .leaf header size nonempty shape ?_ ?_ reads
            · rw [List.length_take, List.length_drop]
              omega
            · intro early
              rcases fine with same | ⟨last, -⟩
              · rw [same, List.drop_length]
              · rw [early] at last
                cases last
          rcases inductionHypothesis with ⟨elements, cuts⟩ | ⟨more, raises⟩
          · exact .inl ⟨_, .cons cut cuts⟩
          · exact .inr ⟨some, allRaise_of_rest (cut.whole more) raises more⟩
  | @group final head value more tlv header size nonempty shape exact inside rest inner outer =>
      have longer : 0 < (head ++ value).length := by
        rw [List.length_append, size, tlvSize]
        omega
      have some : head ++ value ++ more ≠ [] := by
        intro empty
        rw [List.append_eq_nil_iff] at empty
        rw [empty.1] at longer
        exact absurd longer (by decide)
      rcases inner with ⟨children, cuts⟩ | ⟨-, raises⟩
      · have cut : protocol.Cut (final && more.isEmpty) (head ++ value) (.group tlv children) :=
          .group header size nonempty shape exact cuts
        rcases outer with ⟨elements, cuts⟩ | ⟨more, raises⟩
        · exact .inl ⟨_, .cons cut cuts⟩
        · exact .inr ⟨some, allRaise_of_rest (cut.whole more) raises more⟩
      · refine .inr ⟨some, allRaise_of_first longer fun junk fuel enough => ?_⟩
        obtain ⟨fuel, rfl⟩ : ∃ less, fuel = less + 1 := ⟨fuel - 1, by omega⟩
        rw [List.length_append, size, tlvSize] at enough
        rw [loadElement]
        refine header.bind_raises ?_
        rw [if_neg nonempty, shape]
        have raised := (raises junk fuel (by omega)).1 tlv
        rw [exact] at raised
        exact raised.bind

end Protocol

end OpenairSpgwc.Foundation
