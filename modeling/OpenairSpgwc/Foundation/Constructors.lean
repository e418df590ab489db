import OpenairSpgwc.Foundation.Containers
import OpenairSpgwc.Foundation.Writing

/-!
Contract: what a constructor makes of a container.

Owns:
- `EveryAll`: a property of each value that a constructor adds an element for;
- `octetsAll`: the octets of a container, from the sizes of its values;
- that the elements of a constructor have the properties and the octets of the values;
- when the elements of a constructor are written as they are declared.
-/

namespace OpenairSpgwc.Foundation

section Constructors

variable {ε Member : Type} {catalogue : Catalogue ε}

/-! ## Values of the rows -/

mutual

/-- Each value that the row adds an element for has the property. -/
def Every (holds : (kind : catalogue.Kind) → catalogue.Core kind → Prop) :
    Row Member catalogue.Kind → Container Member catalogue.Datum → Prop
  | .leaf member _ _, container =>
      ∀ kind core, .leaf ⟨kind, core⟩ ∈ container member → holds kind core
  | .group member _ _ rows, container =>
      ∀ fields, .group fields ∈ container member → EveryAll holds rows fields

def EveryAll (holds : (kind : catalogue.Kind) → catalogue.Core kind → Prop) :
    List (Row Member catalogue.Kind) → Container Member catalogue.Datum → Prop
  | [], _ => True
  | row :: rows, container => Every holds row container ∧ EveryAll holds rows container

end

mutual

/-- The octets of the elements that the row adds, by the sizes of their values. -/
def octetsOf (size : (kind : catalogue.Kind) → catalogue.Core kind → Nat) :
    Row Member catalogue.Kind → Container Member catalogue.Datum → Nat
  | .leaf member _ _, container =>
      ((container member).map fun value => match value with
        | .leaf datum => tlvSize + size datum.1 datum.2
        | .group _ => 0).sum
  | .group member _ _ rows, container =>
      ((container member).map fun value => match value with
        | .group fields => tlvSize + octetsAll size rows fields
        | .leaf _ => 0).sum

def octetsAll (size : (kind : catalogue.Kind) → catalogue.Core kind → Nat) :
    List (Row Member catalogue.Kind) → Container Member catalogue.Datum → Nat
  | [], _ => 0
  | row :: rows, container => octetsOf size row container + octetsAll size rows container

end

mutual

theorem every_true : ∀ (row : Row Member catalogue.Kind)
    (container : Container Member catalogue.Datum), Every (fun _ _ => True) row container
  | .leaf _ _ _, _ => by
      rw [Every]
      exact fun _ _ _ => trivial
  | .group _ _ _ rows, _ => by
      rw [Every]
      exact fun fields _ => everyAll_true rows fields

theorem everyAll_true : ∀ (rows : List (Row Member catalogue.Kind))
    (container : Container Member catalogue.Datum), EveryAll (fun _ _ => True) rows container
  | [], _ => by
      rw [EveryAll]
      trivial
  | row :: rows, container => by
      rw [EveryAll]
      exact ⟨every_true row container, everyAll_true rows container⟩

end

/-! ## Elements of the rows -/

theorem traverse_forall₂ {α β : Type} {f : α → Except (Fault ε) β} {values : List α}
    {results : List β} (done : traverse f values = .ok results) :
    List.Forall₂ (fun value result => f value = .ok result) values results := by
  induction values generalizing results with
  | nil =>
      cases done
      exact .nil
  | cons value values inductionHypothesis =>
      obtain ⟨result, others, made, rest, rfl⟩ := traverse_cons done
      exact .cons made (inductionHypothesis rest)

open Element in
theorem allLeaves_append {Object : Type} (first second : List (Element Object)) :
    allLeaves (first ++ second) = allLeaves first ++ allLeaves second := by
  induction first with
  | nil => rw [List.nil_append, allLeaves, List.nil_append]
  | cons element elements inductionHypothesis =>
      rw [List.cons_append, allLeaves, inductionHypothesis, allLeaves, List.append_assoc]

open Element in
theorem weights_append {Object : Type} (first second : List (Element Object)) :
    weights (first ++ second) = weights first + weights second := by
  induction first with
  | nil => rw [List.nil_append, weights, Nat.zero_add]
  | cons element elements inductionHypothesis =>
      rw [List.cons_append, weights, inductionHypothesis, weights, Nat.add_assoc]

theorem allMade_append {Object : Type} {protocol : Protocol ε Object}
    {first second : List (Element Object)} (one : protocol.AllMade first)
    (two : protocol.AllMade second) : protocol.AllMade (first ++ second) := by
  induction first with
  | nil => exact two
  | cons element elements inductionHypothesis =>
      rw [List.cons_append, Protocol.AllMade]
      rw [Protocol.AllMade] at one
      exact ⟨one.1, inductionHypothesis one.2⟩

variable [DecidableEq catalogue.Kind] {junk : Junk}
  {holds : (kind : catalogue.Kind) → catalogue.Core kind → Prop}
  {size : (kind : catalogue.Kind) → catalogue.Core kind → Nat}
  {property : Tlv × catalogue.Object → Prop}

/-- The element for a value of a core type. -/
theorem construct_eq {kind : catalogue.Kind} {info : Nat} {value : Value Member catalogue.Datum}
    {element : Element catalogue.Object}
    (made : construct catalogue junk kind info value = .ok element) :
    ∃ core length fields, value = .leaf ⟨kind, core⟩ ∧
      (catalogue.cls kind).construct junk core = .ok (length, fields) ∧
      element = .leaf ⟨catalogue.code kind, length, info⟩ ⟨kind, fields⟩ := by
  cases value with
  | group fields => cases made
  | leaf datum =>
      obtain ⟨other, core⟩ := datum
      rw [construct] at made
      split at made
      · rename_i same
        change other = kind at same
        subst same
        cases built : (catalogue.cls other).construct junk core with
        | error reason =>
            simp only [built] at made
            cases made
        | ok result =>
            simp only [built] at made
            cases made
            exact ⟨core, result.1, result.2, rfl, built, rfl⟩
      · cases made

variable (catalogue junk) in
/-- The group for a container. -/
def constructGroup (type info : Nat) (rows : List (Row Member catalogue.Kind)) :
    Value Member catalogue.Datum → Except (Fault ε) (Element catalogue.Object)
  | .group fields =>
      match buildAll catalogue junk rows fields with
      | .error reason => .error reason
      | .ok elements => .ok (.group ⟨type, addedLength 0 elements, info⟩ elements)
  | .leaf _ => .error .undefined

theorem constructGroup_eq {type info : Nat} {rows : List (Row Member catalogue.Kind)}
    {value : Value Member catalogue.Datum} {element : Element catalogue.Object}
    (made : constructGroup catalogue junk type info rows value = .ok element) :
    ∃ fields elements, value = .group fields ∧ buildAll catalogue junk rows fields = .ok elements ∧
      element = .group ⟨type, addedLength 0 elements, info⟩ elements := by
  cases value with
  | leaf datum => cases made
  | group fields =>
      rw [constructGroup] at made
      cases built : buildAll catalogue junk rows fields with
      | error reason =>
          rw [built] at made
          cases made
      | ok elements =>
          rw [built] at made
          cases made
          exact ⟨fields, elements, rfl, built, rfl⟩

theorem build_group {member : Member} {type info : Nat} {rows : List (Row Member catalogue.Kind)}
    {container : Container Member catalogue.Datum} :
    build catalogue junk (.group member type info rows) container =
      traverse (constructGroup catalogue junk type info rows) (container member) := by
  rw [build]
  congr

theorem buildAll_cons {row : Row Member catalogue.Kind} {rows : List (Row Member catalogue.Kind)}
    {container : Container Member catalogue.Datum} {elements : List (Element catalogue.Object)}
    (built : buildAll catalogue junk (row :: rows) container = .ok elements) :
    ∃ first rest, build catalogue junk row container = .ok first ∧
      buildAll catalogue junk rows container = .ok rest ∧ elements = first ++ rest := by
  rw [buildAll] at built
  cases one : build catalogue junk row container with
  | error reason =>
      rw [one] at built
      cases built
  | ok first =>
      cases more : buildAll catalogue junk rows container with
      | error reason =>
          simp only [one, more] at built
          cases built
      | ok rest =>
          simp only [one, more] at built
          cases built
          exact ⟨first, rest, rfl, rfl, rfl⟩

/-- A property of what the classes construct is one of their core values. -/
def Agrees (catalogue : Catalogue ε) (property : Tlv × catalogue.Object → Prop)
    (holds : (kind : catalogue.Kind) → catalogue.Core kind → Prop) : Prop :=
  ∀ junk kind core info length fields,
    (catalogue.cls kind).construct junk core = .ok (length, fields) →
    (property (⟨catalogue.code kind, length, info⟩, ⟨kind, fields⟩) ↔ holds kind core)

omit [DecidableEq catalogue.Kind] in
open Element in
/-- The elements of the values of one member, of which each has the property just when its
value has it. -/
theorem forall_leaves_iff {values : List (Value Member catalogue.Datum)}
    {elements : List (Element catalogue.Object)} (good : Value Member catalogue.Datum → Prop)
    (each : List.Forall₂ (fun value element =>
      (∀ leaf ∈ leaves element, property leaf) ↔ good value) values elements) :
    (∀ leaf ∈ allLeaves elements, property leaf) ↔ ∀ value ∈ values, good value := by
  induction each with
  | nil => simp [allLeaves]
  | cons first rest inductionHypothesis =>
      simp only [Protocol.mem_allLeaves_cons, List.mem_cons, forall_eq_or_imp]
      rw [← first, ← inductionHypothesis]
      exact ⟨fun all => ⟨fun leaf inside => all leaf (.inl inside),
        fun leaf inside => all leaf (.inr inside)⟩,
        fun both leaf inside => inside.elim (both.1 leaf) (both.2 leaf)⟩

open Element in
mutual

theorem leaves_of_build (agrees : Agrees catalogue property holds) {row : Row Member catalogue.Kind}
    {container : Container Member catalogue.Datum} {elements : List (Element catalogue.Object)}
    (built : build catalogue junk row container = .ok elements) :
    (∀ leaf ∈ allLeaves elements, property leaf) ↔ Every holds row container := by
  cases row with
  | leaf member kind info =>
      rw [build] at built
      rw [Every, forall_leaves_iff fun value =>
        ∀ kind core, value = .leaf ⟨kind, core⟩ → holds kind core]
      · exact ⟨fun all kind core inside => all _ inside kind core rfl,
          fun all value inside kind core same => all kind core (same ▸ inside)⟩
      · refine (traverse_forall₂ built).imp fun value element made => ?_
        obtain ⟨core, length, fields, rfl, constructed, rfl⟩ := construct_eq made
        rw [leaves]
        simp only [List.mem_singleton, forall_eq]
        rw [agrees junk kind core info length fields constructed]
        constructor
        · intro good kind' core' same
          cases same
          exact good
        · intro good
          exact good kind core rfl
  | group member type info rows =>
      rw [build_group] at built
      rw [Every, forall_leaves_iff fun value =>
        ∀ fields, value = .group fields → EveryAll holds rows fields]
      · exact ⟨fun all fields inside => all _ inside fields rfl,
          fun all value inside fields same => all fields (same ▸ inside)⟩
      · refine (traverse_forall₂ built).imp fun value element made => ?_
        obtain ⟨fields, inside, rfl, inner, rfl⟩ := constructGroup_eq made
        rw [leaves, allLeaves_of_buildAll agrees inner]
        constructor
        · intro good fields' same
          cases same
          exact good
        · intro good
          exact good fields rfl

/-- All elements of a constructor have the property just when the values have it. -/
theorem allLeaves_of_buildAll (agrees : Agrees catalogue property holds)
    {rows : List (Row Member catalogue.Kind)} {container : Container Member catalogue.Datum}
    {elements : List (Element catalogue.Object)}
    (built : buildAll catalogue junk rows container = .ok elements) :
    (∀ leaf ∈ allLeaves elements, property leaf) ↔ EveryAll holds rows container := by
  cases rows with
  | nil =>
      cases built
      simp [allLeaves, EveryAll]
  | cons row rows =>
      obtain ⟨first, rest, one, more, rfl⟩ := buildAll_cons built
      rw [EveryAll, ← leaves_of_build agrees one, ← allLeaves_of_buildAll agrees more,
        allLeaves_append]
      simp only [List.mem_append]
      exact ⟨fun all => ⟨fun leaf inside => all leaf (.inl inside),
        fun leaf inside => all leaf (.inr inside)⟩,
        fun both leaf inside => inside.elim (both.1 leaf) (both.2 leaf)⟩

end

/-! ## Octets of the elements -/

/-- The class declares the size of a core value. -/
def Sizes (catalogue : Catalogue ε) (size : (kind : catalogue.Kind) → catalogue.Core kind → Nat) :
    Prop :=
  ∀ junk kind core length fields, (catalogue.cls kind).construct junk core = .ok (length, fields) →
    length = size kind core

omit [DecidableEq catalogue.Kind] in
open Element in
theorem weights_of_forall₂ {values : List (Value Member catalogue.Datum)}
    {elements : List (Element catalogue.Object)} (octets : Value Member catalogue.Datum → Nat)
    (each : List.Forall₂ (fun value element => weight element = octets value) values elements) :
    weights elements = (values.map octets).sum := by
  induction each with
  | nil => rfl
  | cons first rest inductionHypothesis =>
      rw [weights, first, inductionHypothesis, List.map_cons, List.sum_cons]

open Element in
mutual

theorem weights_of_build (sizes : Sizes catalogue size) {row : Row Member catalogue.Kind}
    {container : Container Member catalogue.Datum} {elements : List (Element catalogue.Object)}
    (built : build catalogue junk row container = .ok elements) :
    weights elements = octetsOf size row container := by
  cases row with
  | leaf member kind info =>
      rw [build] at built
      rw [octetsOf]
      refine weights_of_forall₂ _ ((traverse_forall₂ built).imp fun value element made => ?_)
      obtain ⟨core, length, fields, rfl, constructed, rfl⟩ := construct_eq made
      rw [weight, sizes junk kind core length fields constructed]
  | group member type info rows =>
      rw [build_group] at built
      rw [octetsOf]
      refine weights_of_forall₂ _ ((traverse_forall₂ built).imp fun value element made => ?_)
      obtain ⟨fields, inside, rfl, inner, rfl⟩ := constructGroup_eq made
      rw [weight, weights_of_buildAll sizes inner]

theorem weights_of_buildAll (sizes : Sizes catalogue size) {rows : List (Row Member catalogue.Kind)}
    {container : Container Member catalogue.Datum} {elements : List (Element catalogue.Object)}
    (built : buildAll catalogue junk rows container = .ok elements) :
    weights elements = octetsAll size rows container := by
  cases rows with
  | nil =>
      cases built
      rfl
  | cons row rows =>
      obtain ⟨first, rest, one, more, rfl⟩ := buildAll_cons built
      rw [octetsAll, ← weights_of_build sizes one, ← weights_of_buildAll sizes more,
        weights_append]

end

mutual

theorem made_of_build (headed : ∀ tlv, catalogue.protocol.Headed tlv)
    {row : Row Member catalogue.Kind} {container : Container Member catalogue.Datum}
    {elements : List (Element catalogue.Object)}
    (built : build catalogue junk row container = .ok elements) :
    catalogue.protocol.AllMade elements := by
  have each : ∀ {values : List (Value Member catalogue.Datum)}
      {elements : List (Element catalogue.Object)},
      List.Forall₂ (fun _ element => catalogue.protocol.Made element) values elements →
        catalogue.protocol.AllMade elements := by
    intro values elements made
    induction made with
    | nil => exact trivial
    | cons first rest inductionHypothesis => exact ⟨first, inductionHypothesis⟩
  cases row with
  | leaf member kind info =>
      rw [build] at built
      refine each ((traverse_forall₂ built).imp fun value element made => ?_)
      obtain ⟨core, length, fields, rfl, constructed, rfl⟩ := construct_eq made
      exact headed _
  | group member type info rows =>
      rw [build_group] at built
      refine each ((traverse_forall₂ built).imp fun value element made => ?_)
      obtain ⟨fields, inside, rfl, inner, rfl⟩ := constructGroup_eq made
      exact ⟨headed _, rfl, made_of_buildAll headed inner⟩

theorem made_of_buildAll (headed : ∀ tlv, catalogue.protocol.Headed tlv)
    {rows : List (Row Member catalogue.Kind)} {container : Container Member catalogue.Datum}
    {elements : List (Element catalogue.Object)}
    (built : buildAll catalogue junk rows container = .ok elements) :
    catalogue.protocol.AllMade elements := by
  cases rows with
  | nil =>
      cases built
      exact trivial
  | cons row rows =>
      obtain ⟨first, rest, one, more, rfl⟩ := buildAll_cons built
      exact allMade_append (made_of_build headed one) (made_of_buildAll headed more)

end

/-! ## Declared lengths -/

omit [DecidableEq catalogue.Kind] in
/-- The protocol writes what the class writes. -/
theorem write_eq_ok_iff {length length' : Nat} {kind : catalogue.Kind}
    {fields : catalogue.Fields kind} {value : Octets} {left : catalogue.Object} :
    catalogue.protocol.write junk length ⟨kind, fields⟩ = .ok (value, length', left) ↔
      ∃ fields', (catalogue.cls kind).write junk length fields = .ok (value, length', fields') ∧
        left = ⟨kind, fields'⟩ := by
  change catalogue.write junk length ⟨kind, fields⟩ = _ ↔ _
  rw [Catalogue.write]
  cases inner : (catalogue.cls kind).write junk length fields with
  | error reason => simp only [reduceCtorEq, false_and, exists_false]
  | ok result =>
      obtain ⟨value', shown, fields'⟩ := result
      simp only [Except.ok.injEq, Prod.mk.injEq]
      constructor
      · rintro ⟨rfl, rfl, rfl⟩
        exact ⟨fields', ⟨rfl, rfl, rfl⟩, rfl⟩
      · rintro ⟨_, ⟨rfl, rfl, rfl⟩, rfl⟩
        exact ⟨rfl, rfl, rfl⟩

omit [DecidableEq catalogue.Kind] in
theorem leafExact_iff {tlv : Tlv} {kind : catalogue.Kind} {fields : catalogue.Fields kind} :
    catalogue.protocol.LeafExact (tlv, ⟨kind, fields⟩) ↔
      (catalogue.cls kind).WritesDeclared tlv.length fields := by
  constructor
  · intro exact junk
    obtain ⟨value, left, wrote, size⟩ := exact junk
    obtain ⟨fields', wrote, -⟩ := write_eq_ok_iff.mp wrote
    exact ⟨value, fields', wrote, size⟩
  · intro declared junk
    obtain ⟨value, fields', wrote, size⟩ := declared junk
    exact ⟨value, _, write_eq_ok_iff.mpr ⟨fields', wrote, rfl⟩, size⟩

/-- The classes write as these functions of the core values say. -/
structure CatalogueWrites (catalogue : Catalogue ε)
    (size : (kind : catalogue.Kind) → catalogue.Core kind → Nat)
    (exact writable steady : (kind : catalogue.Kind) → catalogue.Core kind → Prop) : Prop where
  headed : ∀ tlv, catalogue.protocol.Headed tlv
  shows : catalogue.protocol.ShowsLength
  written : ∀ kind,
    (catalogue.cls kind).Written (size kind) (exact kind) (writable kind) (steady kind)

variable {exact writable steady : (kind : catalogue.Kind) → catalogue.Core kind → Prop}
  {rows : List (Row Member catalogue.Kind)} {container : Container Member catalogue.Datum}
  {elements : List (Element catalogue.Object)}

/-- The elements of a constructor are written with the lengths that they declare, at every
level, and so is the message, just when this holds of each value and the length of the message
does not overflow. -/
theorem laid_iff_of_buildAll (writes : CatalogueWrites catalogue size exact writable steady)
    {start : Nat} (bound : start < 2 ^ 16)
    (built : buildAll catalogue junk rows container = .ok elements) :
    (∀ junk, ∃ octets, catalogue.protocol.AllLaid junk octets elements ∧
        start + octets.length = addedLength start elements) ↔
      EveryAll exact rows container ∧ start + octetsAll size rows container < 2 ^ 16 := by
  have exacts : Agrees catalogue catalogue.protocol.LeafExact exact :=
    fun junk kind core _ length fields made =>
      leafExact_iff.trans ((writes.written kind).exact junk core length fields made)
  have sizes : Sizes catalogue size := fun junk kind => (writes.written kind).size junk
  rw [Protocol.laid_iff (made_of_buildAll writes.headed built) bound,
    allLeaves_of_buildAll exacts built, weights_of_buildAll sizes built]

/-! ## Writing again -/

variable {tlv : Tlv} {kind : catalogue.Kind} {fields : catalogue.Fields kind}

omit [DecidableEq catalogue.Kind] in
theorem leafSteady_of_repeats (repeats : (catalogue.cls kind).Repeats tlv.length fields) :
    catalogue.protocol.LeafSteady (tlv, ⟨kind, fields⟩) := by
  intro junk value length left wrote again
  obtain ⟨fields', inner, rfl⟩ := write_eq_ok_iff.mp wrote
  exact write_eq_ok_iff.mpr ⟨fields', repeats junk value length fields' inner again, rfl⟩

omit [DecidableEq catalogue.Kind] in
theorem leafSized_of_keepsSize (keeps : (catalogue.cls kind).KeepsSize tlv.length fields) :
    catalogue.protocol.LeafSized (tlv, ⟨kind, fields⟩) := by
  intro junk value length left wrote again value' length' left' rewrote
  obtain ⟨fields', inner, rfl⟩ := write_eq_ok_iff.mp wrote
  obtain ⟨fields'', rewrote, -⟩ := write_eq_ok_iff.mp rewrote
  exact keeps junk value length fields' inner again value' length' fields'' rewrote

omit [DecidableEq catalogue.Kind] in
theorem differs_of_class {first second : Junk}
    (differs : (catalogue.cls kind).Differs first second tlv.length fields) :
    catalogue.protocol.Differs first second (tlv, ⟨kind, fields⟩) where
  differs value length left wrote value' length' left' rewrote := by
    obtain ⟨fields', inner, rfl⟩ := write_eq_ok_iff.mp wrote
    obtain ⟨fields'', rewrote, -⟩ := write_eq_ok_iff.mp rewrote
    exact differs value length fields' inner value' length' fields'' rewrote

/-- The element of a value can be written. -/
def LeafWritable (catalogue : Catalogue ε) (leaf : Tlv × catalogue.Object) : Prop :=
  ∀ junk, ∃ result, catalogue.protocol.write junk leaf.1.length leaf.2 = .ok result

omit [DecidableEq catalogue.Kind] in
theorem leafWritable_iff : LeafWritable catalogue (tlv, ⟨kind, fields⟩) ↔
    ∀ junk, ∃ result, (catalogue.cls kind).write junk tlv.length fields = .ok result := by
  refine forall_congr' fun junk => ⟨?_, ?_⟩
  · rintro ⟨⟨value, length, left⟩, wrote⟩
    obtain ⟨fields', wrote, -⟩ := write_eq_ok_iff.mp wrote
    exact ⟨_, wrote⟩
  · rintro ⟨⟨value, length, left⟩, wrote⟩
    exact ⟨_, write_eq_ok_iff.mpr ⟨left, wrote, rfl⟩⟩

omit [DecidableEq catalogue.Kind] in
theorem agrees_of_steady (writes : CatalogueWrites catalogue size exact writable steady) :
    Agrees catalogue catalogue.protocol.LeafSteady steady := by
  intro junk kind core info length fields made
  have written := writes.written kind
  refine ⟨fun steady => ?_, fun steady =>
    leafSteady_of_repeats (written.repeats junk core length fields made steady)⟩
  by_contra changes
  obtain ⟨can, first, second, differs⟩ := written.differs junk core length fields made changes
  obtain ⟨⟨value, length', left⟩, wrote⟩ :=
    (written.writes junk core length fields made).mpr can first
  have wrote : catalogue.protocol.write first length ⟨kind, fields⟩ =
      .ok (value, length', ⟨kind, left⟩) := write_eq_ok_iff.mpr ⟨left, wrote, rfl⟩
  rcases (@differs_of_class _ _ ⟨catalogue.code kind, length, info⟩ _ _ _ _ differs).differs
    value length' _ wrote value length' _ (steady first value length' _ wrote second) with
    other | other
  · exact other rfl
  · exact other rfl

omit [DecidableEq catalogue.Kind] in
open Element in
mutual

theorem dump_of_writable : ∀ element : Element catalogue.Object,
    (∀ leaf ∈ leaves element, LeafWritable catalogue leaf) → ∀ junk,
      ∃ octets left, catalogue.protocol.dump junk element = .ok (octets, left)
  | .leaf tlv object, can, junk => by
      obtain ⟨⟨value, length, left⟩, wrote⟩ := can _ (Protocol.leaf_mem_leaves tlv object) junk
      rw [Protocol.dump, wrote]
      exact ⟨_, _, rfl⟩
  | .group tlv elements, can, junk => by
      obtain ⟨octets, left, wrote⟩ := dumpAll_of_writable elements can junk
      rw [Protocol.dump, wrote]
      exact ⟨_, _, rfl⟩

/-- Elements whose values can be written are written. -/
theorem dumpAll_of_writable : ∀ elements : List (Element catalogue.Object),
    (∀ leaf ∈ allLeaves elements, LeafWritable catalogue leaf) → ∀ junk,
      ∃ octets left, catalogue.protocol.dumpAll junk elements = .ok (octets, left)
  | [], _, _ => ⟨[], [], rfl⟩
  | element :: elements, can, junk => by
      obtain ⟨octets, left, one⟩ := dump_of_writable element
        (fun leaf inside => can leaf (Protocol.mem_allLeaves_cons.mpr (.inl inside))) junk
      obtain ⟨more, others, rest⟩ := dumpAll_of_writable elements
        (fun leaf inside => can leaf (Protocol.mem_allLeaves_cons.mpr (.inr inside))) junk
      rw [Protocol.dumpAll, one]
      simp only [rest]
      exact ⟨_, _, rfl⟩

end

/-- Every writing of the elements of a constructor gives the octets of the first one, just when
this holds of each value. -/
theorem repeats_iff_of_buildAll (writes : CatalogueWrites catalogue size exact writable steady)
    (built : buildAll catalogue junk rows container = .ok elements)
    (can : EveryAll writable rows container) :
    (∀ (junks : Nat → Junk) octets left,
        catalogue.protocol.dumpAll (junks 0) elements = .ok (octets, left) →
          ∀ k, ∃ left, catalogue.protocol.dumpAgain junks k elements = .ok (octets, left)) ↔
      EveryAll steady rows container := by
  have writable : Agrees catalogue (LeafWritable catalogue) writable :=
    fun junk kind core _ length fields made =>
      leafWritable_iff.trans ((writes.written kind).writes junk core length fields made)
  have sized : Agrees catalogue catalogue.protocol.LeafSized fun _ _ => True :=
    fun junk kind core _ length fields made => iff_of_true
      (leafSized_of_keepsSize
        ((writes.written kind).keepsSize junk core length fields made)) trivial
  have changes : Agrees catalogue
      (fun leaf => ¬ catalogue.protocol.LeafSteady leaf →
        ∃ first second, catalogue.protocol.Differs first second leaf) fun _ _ => True := by
    intro junk kind core info length fields made
    refine iff_of_true (fun changes => ?_) trivial
    rw [agrees_of_steady writes junk kind core info length fields made] at changes
    obtain ⟨-, first, second, differs⟩ :=
      (writes.written kind).differs junk core length fields made changes
    exact ⟨first, second, differs_of_class differs⟩
  have every : EveryAll (fun _ _ => True) rows container := everyAll_true rows container
  rw [← allLeaves_of_buildAll writable built] at can
  rw [Protocol.repeats_iff writes.shows (made_of_buildAll writes.headed built)
    (dumpAll_of_writable elements can) ((allLeaves_of_buildAll sized built).mpr every)
    ((allLeaves_of_buildAll changes built).mpr every),
    allLeaves_of_buildAll (agrees_of_steady writes) built]

end Constructors

end OpenairSpgwc.Foundation
