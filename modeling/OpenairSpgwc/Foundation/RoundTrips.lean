import OpenairSpgwc.Foundation.Containers
import OpenairSpgwc.Foundation.Writing

/-!
Contract: which containers come back from the octets that are written for them.

A row of a constructor and an entry of a container belong together when the entry is
the one found for the elements of the row. A container is carried when each value in
it is added by a row, its class gives it back, and the entry of the row puts it where
it was.

Owns:
- `fittingAll`, what can be checked of the tables of a constructor and a container;
- `Carried`, what the values have to meet in addition;
- that a carried container is written, read and put together again as it was.
-/

namespace OpenairSpgwc.Foundation

section RoundTrips

set_option linter.unusedSectionVars false

variable {ε Member : Type} {catalogue : Catalogue ε} [DecidableEq catalogue.Kind]
  [DecidableEq Member] (reading : Reading catalogue Member)

/-! ## Rows and entries -/

/-- The entry that takes the elements of a row. -/
def target (entries : List (Entry Member catalogue.Kind)) :
    Row Member catalogue.Kind → Option (Entry Member catalogue.Kind)
  | .leaf _ kind info =>
      if catalogue.dispatch (catalogue.code kind) = some kind then
        findEntry entries (.leaf kind) info
      else
        none
  | .group _ type info _ =>
      match reading.inner type with
      | .own _ => findEntry entries (.group type) info
      | .endless => none

/-- Only the member is taken from where the row is read into. -/
def onlySource (renamed : Option (List (Member × Member))) (place member : Member) : Bool :=
  match renamed with
  | none => decide (place = member)
  | some pairs => pairs.all fun pair => !decide (pair.2 = place) || decide (pair.1 = member)

theorem eq_of_onlySource {renamed : Option (List (Member × Member))} {place member other : Member}
    (only : onlySource renamed place member = true) (from' : source renamed other = some place) :
    other = member := by
  cases renamed with
  | none =>
      have here : other = place := Option.some.inj from'
      rw [here]
      exact of_decide_eq_true only
  | some pairs =>
      have inside : (other, place) ∈ pairs := by
        have found : pairs.lookup other = some place := from'
        rw [List.lookup_eq_some_iff] at found
        obtain ⟨before, after, same, -⟩ := found
        rw [same]
        exact List.mem_append_right _ List.mem_cons_self
      have holds := List.all_eq_true.mp only (other, place) inside
      simp only [decide_true, Bool.not_true, Bool.false_or, decide_eq_true_eq] at holds
      exact holds

mutual

/-- The row has a type below `types`, and so have the rows of a group, which are also
told apart by the container of the group. -/
def fitting (types : Nat) (entries : List (Entry Member catalogue.Kind)) :
    Row Member catalogue.Kind → Bool
  | .leaf _ kind info =>
      !catalogue.grouped (catalogue.code kind) && decide (catalogue.code kind < types) &&
        decide (info < 16)
  | .group _ type info rows =>
      catalogue.grouped type && decide (type < types) && decide (info < 16) &&
        match reading.inner type, findEntry entries (.group type) info with
        | .own inside, some entry => fittingAll types inside entry.renamed rows
        | _, _ => true

def fittingAll (types : Nat) (entries : List (Entry Member catalogue.Kind))
    (renamed : Option (List (Member × Member))) : List (Row Member catalogue.Kind) → Bool
  | [] => true
  | row :: rows =>
      fitting types entries row && fittingAll types entries renamed rows &&
        match target reading entries row with
        | some entry => onlySource renamed entry.member row.member &&
            rows.all fun other =>
              !decide ((target reading entries other).map (·.member) = some entry.member)
        | none => true

end

/-! ## Values -/

/-- The member of the entry can have the values. -/
def Room (entry : Entry Member catalogue.Kind) (values : List (Value Member catalogue.Datum)) :
    Prop :=
  entry.repeated = true ∨ values.length ≤ 1

/-- Each member that is not empty is taken from where one of the rows is read into. -/
def Complete (entries : List (Entry Member catalogue.Kind))
    (renamed : Option (List (Member × Member))) (rows : List (Row Member catalogue.Kind))
    (container : Container Member catalogue.Datum) : Prop :=
  ∀ member, container member ≠ [] → ∃ row ∈ rows, row.member = member ∧
    ∃ entry, target reading entries row = some entry ∧ source renamed member = some entry.member

variable (fair : (kind : catalogue.Kind) → catalogue.Core kind → Prop)

mutual

/-- The values of the row are `fair`, and come back into the member of the row. -/
def Carried (entries : List (Entry Member catalogue.Kind)) :
    Row Member catalogue.Kind → Container Member catalogue.Datum → Prop
  | .leaf member kind info, container => container member ≠ [] →
      ∃ entry, target reading entries (.leaf member kind info) = some entry ∧
        Room entry (container member) ∧
        ∀ value ∈ container member, ∃ core, value = .leaf ⟨kind, core⟩ ∧ fair kind core
  | .group member type info rows, container => container member ≠ [] →
      ∃ entry inside, findEntry entries (.group type) info = some entry ∧
        reading.inner type = .own inside ∧ Room entry (container member) ∧
        ∀ value ∈ container member, ∃ fields, value = .group fields ∧
          AllCarried inside rows fields ∧ Complete reading inside entry.renamed rows fields ∧
          ∃ row ∈ rows, fields row.member ≠ []

def AllCarried (entries : List (Entry Member catalogue.Kind)) :
    List (Row Member catalogue.Kind) → Container Member catalogue.Datum → Prop
  | [], _ => True
  | row :: rows, container => Carried entries row container ∧ AllCarried entries rows container

end

/-! ## Putting values together -/

/-- Values put into a container one after the other. -/
def gather (container : Container Member catalogue.Datum)
    (puts : List (Entry Member catalogue.Kind × Value Member catalogue.Datum)) :
    Container Member catalogue.Datum :=
  puts.foldl (fun container one => put container one.1 one.2) container

/-- What the elements of a row set. -/
def contents (entries : List (Entry Member catalogue.Kind))
    (container : Container Member catalogue.Datum) (row : Row Member catalogue.Kind) :
    List (Entry Member catalogue.Kind × Value Member catalogue.Datum) :=
  match target reading entries row with
  | some entry => (container row.member).map fun value => (entry, value)
  | none => []

variable {reading fair} {entries : List (Entry Member catalogue.Kind)}
  {renamed : Option (List (Member × Member))} {row : Row Member catalogue.Kind}
  {rows : List (Row Member catalogue.Kind)} {container start : Container Member catalogue.Datum}

theorem gather_append (first second :
      List (Entry Member catalogue.Kind × Value Member catalogue.Datum)) :
    gather start (first ++ second) = gather (gather start first) second :=
  List.foldl_append

theorem gather_repeated {entry : Entry Member catalogue.Kind} (repeated : entry.repeated = true)
    (values : List (Value Member catalogue.Datum)) :
    gather start (values.map fun value => (entry, value)) =
      Function.update start entry.member (start entry.member ++ values) := by
  induction values generalizing start with
  | nil =>
      rw [List.append_nil, Function.update_eq_self]
      rfl
  | cons value values inductionHypothesis =>
      rw [List.map_cons, gather, List.foldl_cons, ← gather, inductionHypothesis, put, if_pos repeated,
        Function.update_self, Function.update_idem, List.append_assoc]
      rfl

theorem gather_row {entry : Entry Member catalogue.Kind}
    {values : List (Value Member catalogue.Datum)} (room : Room entry values)
    (free : start entry.member = []) :
    gather start (values.map fun value => (entry, value)) =
      Function.update start entry.member values := by
  by_cases repeated : entry.repeated = true
  · rw [gather_repeated repeated, free, List.nil_append]
  · have short : values.length ≤ 1 := room.resolve_left repeated
    cases values with
    | nil =>
        have same := Function.update_eq_self entry.member start
        rw [free] at same
        rw [same]
        rfl
    | cons value others =>
        have none' : others = [] := by
          rw [← List.length_eq_zero_iff]
          rw [List.length_cons] at short
          omega
        rw [none']
        change put start entry value = _
        rw [put, if_neg repeated]

theorem contents_of_target {entry : Entry Member catalogue.Kind}
    (found : target reading entries row = some entry) :
    contents reading entries container row =
      (container row.member).map fun value => (entry, value) := by
  rw [contents, found]

theorem contents_of_none (none' : target reading entries row = none) :
    contents reading entries container row = [] := by
  rw [contents, none']

/-- A row that is carried has room where it is read into. -/
theorem Carried.room (carried : Carried reading fair entries row container)
    {entry : Entry Member catalogue.Kind} (found : target reading entries row = some entry) :
    Room entry (container row.member) := by
  by_cases empty : container row.member = []
  · rw [empty]
    exact .inr (Nat.zero_le 1)
  · cases row with
    | leaf member kind info =>
        rw [Carried] at carried
        obtain ⟨entry', found', room, -⟩ := carried empty
        rw [found] at found'
        cases found'
        exact room
    | group member type info rows =>
        rw [Carried] at carried
        obtain ⟨entry', inside, found', own, room, -⟩ := carried empty
        rw [target, own] at found
        simp only [found'] at found
        cases found
        exact room

/-- Rows with different places are put together, each where it is read into. -/
theorem gather_rows {types : Nat} (start : Container Member catalogue.Datum)
    (fits : fittingAll reading types entries renamed rows = true)
    (carried : AllCarried reading fair entries rows container)
    (free : ∀ row ∈ rows, ∀ entry, target reading entries row = some entry →
      start entry.member = []) :
    (∀ row ∈ rows, ∀ entry, target reading entries row = some entry →
        gather start (rows.flatMap (contents reading entries container)) entry.member =
            container row.member ∧ onlySource renamed entry.member row.member = true) ∧
      ∀ member, (∀ row ∈ rows, (target reading entries row).map (·.member) ≠ some member) →
        gather start (rows.flatMap (contents reading entries container)) member = start member := by
  induction rows generalizing start with
  | nil => exact ⟨fun _ inside => absurd inside List.not_mem_nil, fun _ _ => rfl⟩
  | cons row rows inductionHypothesis =>
      rw [AllCarried] at carried
      rw [fittingAll, Bool.and_eq_true, Bool.and_eq_true] at fits
      obtain ⟨⟨-, fits⟩, apart⟩ := fits
      rw [List.flatMap_cons, gather_append]
      have freeRest := fun other inside => free other (List.mem_cons_of_mem row inside)
      cases found : target reading entries row with
      | none =>
          rw [contents_of_none found]
          obtain ⟨filled, others⟩ := inductionHypothesis start fits carried.2 freeRest
          refine ⟨fun other inside entry there => ?_, fun member none' => ?_⟩
          · rcases List.mem_cons.mp inside with rfl | inside
            · rw [found] at there
              cases there
            · exact filled other inside entry there
          · exact others member fun other inside => none' other (List.mem_cons_of_mem row inside)
      | some entry =>
          simp only [found, Bool.and_eq_true, List.all_eq_true] at apart
          obtain ⟨only, apart⟩ := apart
          have elsewhere : ∀ other ∈ rows, ∀ entry', target reading entries other = some entry' →
              entry'.member ≠ entry.member := by
            intro other inside entry' there same
            have differs := apart other inside
            simp [there, same] at differs
          rw [contents_of_target found, gather_row (carried.1.room found)
            (free row List.mem_cons_self entry found)]
          have freeAfter : ∀ other ∈ rows, ∀ entry', target reading entries other = some entry' →
              Function.update start entry.member (container row.member) entry'.member = [] := by
            intro other inside entry' there
            rw [Function.update_of_ne (elsewhere other inside entry' there)]
            exact freeRest other inside entry' there
          obtain ⟨filled, others⟩ := inductionHypothesis _ fits carried.2 freeAfter
          refine ⟨fun other inside entry' there => ?_, fun member none' => ?_⟩
          · rcases List.mem_cons.mp inside with rfl | inside
            · rw [found] at there
              cases there
              refine ⟨?_, only⟩
              rw [others entry.member, Function.update_self]
              intro other inside same
              obtain ⟨entry', there, same⟩ := Option.map_eq_some_iff.mp same
              exact elsewhere other inside entry' there same
            · exact filled other inside entry' there
          · have here : member ≠ entry.member := by
              intro here
              exact none' row List.mem_cons_self (by rw [found, here, Option.map_some])
            rw [others member fun other inside => none' other (List.mem_cons_of_mem row inside),
              Function.update_of_ne here]

/-- The container is what its rows put together. -/
theorem rename_gather {types : Nat} (fits : fittingAll reading types entries renamed rows = true)
    (carried : AllCarried reading fair entries rows container)
    (complete : Complete reading entries renamed rows container) :
    rename renamed (gather (fun _ => []) (rows.flatMap (contents reading entries container))) =
      container := by
  obtain ⟨filled, others⟩ := gather_rows (fun _ => []) fits carried fun _ _ _ _ => rfl
  funext member
  rw [rename]
  by_cases some' : container member = []
  · rw [some']
    cases from' : source renamed member with
    | none => rfl
    | some place =>
        simp only
        by_cases read : ∃ row ∈ rows, ∃ entry, target reading entries row = some entry ∧
            entry.member = place
        · obtain ⟨row, inside, entry, found, rfl⟩ := read
          obtain ⟨value, only⟩ := filled row inside entry found
          rw [value, ← eq_of_onlySource only from', some']
        · refine others place fun row inside same => ?_
          obtain ⟨entry, found, same⟩ := Option.map_eq_some_iff.mp same
          exact read ⟨row, inside, entry, found, same⟩
  · obtain ⟨row, inside, rfl, entry, found, from'⟩ := complete member some'
    rw [from']
    exact (filled row inside entry found).1

/-! ## Values that come back as far as they are shown -/

/-- A value of a core type as far as it is shown. -/
def Catalogue.shown (view : (kind : catalogue.Kind) → catalogue.Core kind → catalogue.Core kind)
    (datum : catalogue.Datum) : catalogue.Datum := ⟨datum.1, view datum.1 datum.2⟩

theorem view_shown_id (container : Container Member catalogue.Datum) :
    container.view (Catalogue.shown fun _ => id) = container := by
  funext member
  exact Value.viewAll_id (container member)

variable {view : (kind : catalogue.Kind) → catalogue.Core kind → catalogue.Core kind}

/-- The same is set, as far as it is shown. -/
def SameShown (view : (kind : catalogue.Kind) → catalogue.Core kind → catalogue.Core kind)
    (first second : Entry Member catalogue.Kind × Value Member catalogue.Datum) : Prop :=
  first.1 = second.1 ∧
    first.2.view (Catalogue.shown view) = second.2.view (Catalogue.shown view)

theorem view_put (view : catalogue.Datum → catalogue.Datum) (entry : Entry Member catalogue.Kind)
    (value : Value Member catalogue.Datum) :
    Container.view view (put start entry value) =
      put (Container.view view start) entry (value.view view) := by
  funext member
  rw [Container.view, put, put]
  by_cases here : member = entry.member
  · rw [here, Function.update_self, Function.update_self]
    by_cases repeated : entry.repeated = true
    · rw [if_pos repeated, if_pos repeated, Value.viewAll_append]
      rfl
    · rw [if_neg repeated, if_neg repeated]
      rfl
  · rw [Function.update_of_ne here, Function.update_of_ne here]
    rfl

theorem view_gather
    {first second : List (Entry Member catalogue.Kind × Value Member catalogue.Datum)}
    (same : List.Forall₂ (SameShown view) first second)
    {start start' : Container Member catalogue.Datum}
    (before : start.view (Catalogue.shown view) = start'.view (Catalogue.shown view)) :
    (gather start first).view (Catalogue.shown view) =
      (gather start' second).view (Catalogue.shown view) := by
  induction same generalizing start start' with
  | nil => exact before
  | @cons one two first second here rest inductionHypothesis =>
      rw [gather, gather, List.foldl_cons, List.foldl_cons, ← gather, ← gather]
      apply inductionHypothesis
      rw [view_put, view_put, before, here.1, here.2]

theorem view_rename (view : catalogue.Datum → catalogue.Datum) :
    Container.view view (rename renamed container) = rename renamed (container.view view) := by
  funext member
  rw [Container.view, rename, rename]
  cases source renamed member with
  | none => rfl
  | some place => rfl

/-! ## Elements that come back -/

variable (reading view) in
/-- What is written for the element is read as one that sets the value. -/
def ComesBack (entries : List (Entry Member catalogue.Kind)) (element : Element catalogue.Object)
    (one : Entry Member catalogue.Kind × Value Member catalogue.Datum) : Prop :=
  element.weight < 2 ^ 16 → element.span = element.weight ∧
    ∀ junk, ∃ octets left, catalogue.protocol.dump junk element = .ok (octets, left) ∧
      ∃ element', catalogue.protocol.Parses octets element' ∧ element'.span = element.span ∧
        ∀ junk, ∃ one', readElement reading junk entries element' = .ok one' ∧
          SameShown view one' one

variable (reading view) in
/-- What is written for the elements is read as elements that set the values. -/
def AllComeBack (entries : List (Entry Member catalogue.Kind))
    (elements : List (Element catalogue.Object))
    (puts : List (Entry Member catalogue.Kind × Value Member catalogue.Datum)) : Prop :=
  Element.weights elements < 2 ^ 16 → spans elements = Element.weights elements ∧
    ∀ junk, ∃ octets left, catalogue.protocol.dumpAll junk elements = .ok (octets, left) ∧
      ∃ elements', catalogue.protocol.ParsesAll octets elements' ∧
        spans elements' = spans elements ∧
        ∀ junk start, ∃ puts', readAll reading junk entries elements' start =
            .ok (gather start puts') ∧ List.Forall₂ (SameShown view) puts' puts

theorem allComeBack {elements : List (Element catalogue.Object)}
    {puts : List (Entry Member catalogue.Kind × Value Member catalogue.Datum)}
    (each : List.Forall₂ (ComesBack reading view entries) elements puts) :
    AllComeBack reading view entries elements puts := by
  induction each with
  | nil =>
      intro _
      refine ⟨rfl, fun _ => ⟨[], [], by rw [Protocol.dumpAll], [], .nil, rfl, fun _ start => ?_⟩⟩
      exact ⟨[], by rw [readAll]; rfl, .nil⟩
  | @cons element one elements puts first rest inductionHypothesis =>
      intro small
      rw [Element.weights] at small
      obtain ⟨span, dumps⟩ := first (by omega)
      obtain ⟨total, more⟩ := inductionHypothesis (by omega)
      refine ⟨by rw [spans_cons, span, total, Element.weights], fun junk => ?_⟩
      obtain ⟨octets, left, dumped, element', parses, span', reads⟩ := dumps junk
      obtain ⟨octets', left', dumped', elements', parses', total', reads'⟩ := more junk
      refine ⟨octets ++ octets', left :: left', ?_, element' :: elements', .cons parses parses', ?_,
        fun junk start => ?_⟩
      · rw [Protocol.dumpAll, dumped]
        simp only [dumped']
      · rw [spans_cons, spans_cons, span', total']
      · obtain ⟨one', read, same⟩ := reads junk
        obtain ⟨puts', read', same'⟩ := reads' junk (put start one'.1 one'.2)
        refine ⟨one' :: puts', ?_, .cons same same'⟩
        rw [readAll, read]
        exact read'

/-- An element with a value that its class gives back. -/
theorem comesBack_leaf {types : Nat} (headers : catalogue.HeaderReads types)
    {entry : Entry Member catalogue.Kind} {kind : catalogue.Kind} {core : catalogue.Core kind}
    {info : Nat} (leaf : catalogue.grouped (catalogue.code kind) = false)
    (code : catalogue.code kind < types) (small : info < 16)
    (dispatched : catalogue.dispatch (catalogue.code kind) = some kind)
    (found : findEntry entries (.leaf kind) info = some entry)
    (returns : (catalogue.cls kind).RoundTrips (view kind) (catalogue.code kind) info core)
    (junk : Junk) :
    ∃ element, construct catalogue junk kind info (.leaf ⟨kind, core⟩ : Value Member _) =
        .ok element ∧
      ComesBack reading view entries element (entry, .leaf ⟨kind, core⟩) := by
  obtain ⟨length, fields, constructed, nonempty, bound, writes⟩ := returns junk
  refine ⟨.leaf ⟨catalogue.code kind, length, info⟩ ⟨kind, fields⟩, ?_, fun _ => ⟨rfl, ?_⟩⟩
  · rw [construct, if_pos rfl]
    simp only [constructed]
  · intro junk
    obtain ⟨value, left, written, object, reads, cores⟩ := writes junk
    obtain ⟨header, size⟩ := headers ⟨catalogue.code kind, length, info⟩ code bound small
    have shape : catalogue.shape (catalogue.code kind) = some .leaf := by
      rw [Catalogue.shape, leaf, dispatched]
      rfl
    have dumped : catalogue.protocol.write junk length ⟨kind, fields⟩ =
        .ok (value, length, ⟨kind, left⟩) := by
      change catalogue.write junk length ⟨kind, fields⟩ = _
      rw [Catalogue.write]
      simp only [written]
    refine ⟨catalogue.header _ ++ value, .leaf ⟨catalogue.code kind, length, info⟩ ⟨kind, left⟩, ?_,
      .leaf ⟨catalogue.code kind, length, info⟩ ⟨kind, object⟩,
      .leaf header size nonempty shape fun junk => ?_, rfl, fun junk => ?_⟩
    · rw [Protocol.dump]
      simp only [dumped]
      rfl
    · change Reads (catalogue.load junk _) _ _
      rw [Catalogue.load_of_dispatch dispatched]
      exact (reads junk).finish
    · obtain ⟨core', read, same⟩ := cores junk
      refine ⟨(entry, .leaf ⟨kind, core'⟩), ?_, rfl, ?_⟩
      · rw [readElement]
        simp only [read, slot, found]
      · rw [Value.view, Value.view, Catalogue.shown, Catalogue.shown, same]

theorem weights_pos {elements : List (Element catalogue.Object)} (some' : elements ≠ []) :
    0 < Element.weights elements := by
  cases elements with
  | nil => exact absurd rfl some'
  | cons element elements =>
      rw [Element.weights]
      cases element <;> rw [Element.weight, tlvSize] <;> omega

/-- A group whose elements come back. -/
theorem comesBack_group {types : Nat} (headers : catalogue.HeaderReads types)
    {entry : Entry Member catalogue.Kind} {inside : List (Entry Member catalogue.Kind)}
    {type info : Nat} {elements : List (Element catalogue.Object)}
    {fields : Container Member catalogue.Datum} (group : catalogue.grouped type = true)
    (code : type < types) (small : info < 16)
    (found : findEntry entries (.group type) info = some entry)
    (own : reading.inner type = .own inside)
    (fits : fittingAll reading types inside entry.renamed rows = true)
    (carried : AllCarried reading fair inside rows fields)
    (complete : Complete reading inside entry.renamed rows fields) (some' : elements ≠ [])
    (back : AllComeBack reading view inside elements
      (rows.flatMap (contents reading inside fields))) :
    ComesBack reading view entries (.group ⟨type, addedLength 0 elements, info⟩ elements)
      (entry, .group fields) := by
  intro bound
  rw [Element.weight] at bound
  obtain ⟨total, dumps⟩ := back (by omega)
  have positive := weights_pos some'
  have length : addedLength 0 elements = Element.weights elements := by
    rw [addedLength_eq (by decide), Nat.zero_add, total, Nat.mod_eq_of_lt (by omega)]
  refine ⟨congrArg (tlvSize + ·) length, fun junk => ?_⟩
  obtain ⟨octets, left, dumped, elements', parses, total', reads⟩ := dumps junk
  have short : addedLength 0 elements < 2 ^ 16 := by
    rw [length]
    omega
  obtain ⟨header, size⟩ := headers ⟨type, addedLength 0 elements, info⟩ code short small
  have shape : catalogue.shape type = some .group := by rw [Catalogue.shape, if_pos group]
  refine ⟨catalogue.header ⟨type, addedLength 0 elements, info⟩ ++ octets,
    .group ⟨type, addedLength 0 elements, info⟩ left, ?_,
    .group ⟨type, addedLength 0 elements, info⟩ elements',
    .group header size ?_ shape ?_ parses, rfl, fun junk => ?_⟩
  · rw [Protocol.dump, dumped]
    rfl
  · change addedLength 0 elements ≠ 0
    rw [length]
    omega
  · rw [total', total]
    exact length.symm
  · obtain ⟨puts', read, same⟩ := reads junk fun _ => []
    refine ⟨(entry, .group (rename entry.renamed (gather (fun _ => []) puts'))), ?_, rfl, ?_⟩
    · rw [readElement]
      simp only [own, read, slot, found]
    · change Value.group (Container.view (Catalogue.shown view) _) =
        Value.group (Container.view (Catalogue.shown view) _)
      rw [view_rename, view_gather same rfl, ← view_rename, rename_gather fits carried complete]

theorem traverse_forall {f : Value Member catalogue.Datum →
      Except (Fault ε) (Element catalogue.Object)}
    {entry : Entry Member catalogue.Kind} {values : List (Value Member catalogue.Datum)}
    (each : ∀ value ∈ values, ∃ element, f value = .ok element ∧
      ComesBack reading view entries element (entry, value)) :
    ∃ elements, traverse f values = .ok elements ∧
      List.Forall₂ (ComesBack reading view entries) elements
        (values.map fun value => (entry, value)) := by
  induction values with
  | nil => exact ⟨[], rfl, .nil⟩
  | cons value values inductionHypothesis =>
      obtain ⟨element, made, back⟩ := each value List.mem_cons_self
      obtain ⟨elements, rest, all⟩ := inductionHypothesis fun other inside =>
        each other (List.mem_cons_of_mem value inside)
      refine ⟨element :: elements, ?_, .cons back all⟩
      rw [traverse, made]
      simp only [rest]

/-- A row that is carried and not empty has a place. -/
theorem Carried.some_target (carried : Carried reading fair entries row container)
    (some' : container row.member ≠ []) : ∃ entry, target reading entries row = some entry := by
  cases row with
  | leaf member kind info =>
      rw [Carried] at carried
      obtain ⟨entry, found, -⟩ := carried some'
      exact ⟨entry, found⟩
  | group member type info rows =>
      rw [Carried] at carried
      obtain ⟨entry, inside, found, own, -⟩ := carried some'
      exact ⟨entry, by rw [target, own, found]⟩

theorem AllCarried.mem (carried : AllCarried reading fair entries rows container)
    (inside : row ∈ rows) : Carried reading fair entries row container := by
  induction rows with
  | nil => exact absurd inside List.not_mem_nil
  | cons first rest inductionHypothesis =>
      rw [AllCarried] at carried
      rcases List.mem_cons.mp inside with rfl | inside
      · exact carried.1
      · exact inductionHypothesis carried.2 inside

/-- Some element is made when a row is not empty. -/
theorem elements_ne_nil {elements : List (Element catalogue.Object)}
    (carried : AllCarried reading fair entries rows container)
    (back : List.Forall₂ (ComesBack reading view entries) elements
      (rows.flatMap (contents reading entries container)))
    (some' : ∃ row ∈ rows, container row.member ≠ []) : elements ≠ [] := by
  obtain ⟨row, inside, some'⟩ := some'
  obtain ⟨entry, found⟩ := (carried.mem inside).some_target some'
  rintro rfl
  have none' := List.forall₂_nil_left_iff.mp back
  rw [List.flatMap_eq_nil_iff] at none'
  have empty := none' row inside
  rw [contents_of_target found, List.map_eq_nil_iff] at empty
  exact some' empty

variable (view) in
/-- A class gives back what is fair. -/
def FairReturns (fair : (kind : catalogue.Kind) → catalogue.Core kind → Prop) : Prop :=
  ∀ kind core info, fair kind core →
    (catalogue.cls kind).RoundTrips (view kind) (catalogue.code kind) info core

mutual

theorem Carried.comesBack {types : Nat} (headers : catalogue.HeaderReads types)
    (fairs : FairReturns view fair) (junk : Junk)
    {entries : List (Entry Member catalogue.Kind)} {row : Row Member catalogue.Kind}
    {container : Container Member catalogue.Datum}
    (fits : fitting reading types entries row = true)
    (carried : Carried reading fair entries row container) :
    ∃ elements, build catalogue junk row container = .ok elements ∧
      List.Forall₂ (ComesBack reading view entries) elements
        (contents reading entries container row) := by
  by_cases some' : container row.member = []
  · have none' : contents reading entries container row = [] := by
      rw [contents, some']
      split <;> rfl
    rw [none']
    cases row with
    | leaf member kind info =>
        change container member = [] at some'
        exact ⟨[], by rw [build, some', traverse], .nil⟩
    | group member type info rows =>
        change container member = [] at some'
        exact ⟨[], by rw [build, some', traverse], .nil⟩
  · obtain ⟨entry, found⟩ := carried.some_target some'
    rw [contents_of_target found]
    cases row with
    | leaf member kind info =>
        rw [Carried] at carried
        rw [fitting, Bool.and_eq_true, Bool.and_eq_true, Bool.not_eq_true', decide_eq_true_eq,
          decide_eq_true_eq] at fits
        obtain ⟨⟨leaf, code⟩, small⟩ := fits
        obtain ⟨entry', found', room, values⟩ := carried some'
        rw [build]
        refine traverse_forall fun value inside => ?_
        obtain ⟨core, rfl, isFair⟩ := values value inside
        rw [target] at found
        split at found
        · exact comesBack_leaf headers leaf code small ‹_› found (fairs kind core info isFair) junk
        · cases found
    | group member type info rows =>
        rw [Carried] at carried
        obtain ⟨entry', inside, found', own, room, values⟩ := carried some'
        rw [fitting, Bool.and_eq_true, Bool.and_eq_true, Bool.and_eq_true, decide_eq_true_eq,
          decide_eq_true_eq] at fits
        obtain ⟨⟨⟨group, code⟩, small⟩, fits⟩ := fits
        simp only [own, found'] at fits
        rw [target, own] at found
        simp only [found'] at found
        cases found
        rw [build]
        refine traverse_forall fun value mem => ?_
        obtain ⟨fields, rfl, carried, complete, row, belongs, filled⟩ := values value mem
        obtain ⟨elements, built, back⟩ := AllCarried.comesBack headers fairs junk fits carried
        refine ⟨.group ⟨type, addedLength 0 elements, info⟩ elements, ?_, ?_⟩
        · simp only [built]
        · exact comesBack_group headers group code small found' own fits carried complete
            (elements_ne_nil carried back ⟨row, belongs, filled⟩) (allComeBack back)

theorem AllCarried.comesBack {types : Nat} (headers : catalogue.HeaderReads types)
    (fairs : FairReturns view fair) (junk : Junk)
    {entries : List (Entry Member catalogue.Kind)} {rows : List (Row Member catalogue.Kind)}
    {renamed : Option (List (Member × Member))} {container : Container Member catalogue.Datum}
    (fits : fittingAll reading types entries renamed rows = true)
    (carried : AllCarried reading fair entries rows container) :
    ∃ elements, buildAll catalogue junk rows container = .ok elements ∧
      List.Forall₂ (ComesBack reading view entries) elements
        (rows.flatMap (contents reading entries container)) := by
  cases rows with
  | nil => exact ⟨[], by rw [buildAll], .nil⟩
  | cons row rows =>
      rw [AllCarried] at carried
      rw [fittingAll, Bool.and_eq_true, Bool.and_eq_true] at fits
      obtain ⟨elements, built, back⟩ := Carried.comesBack headers fairs junk fits.1.1 carried.1
      obtain ⟨more, rest, all⟩ := AllCarried.comesBack headers fairs junk fits.1.2 carried.2
      refine ⟨elements ++ more, ?_, ?_⟩
      · rw [buildAll, built]
        simp only [rest]
      · rw [List.flatMap_cons]
        exact List.rel_append back all

end

/-- A carried container is built, and what is written for it is read as elements that
give a container which shows the same. -/
theorem carried_returns {types : Nat} (headers : catalogue.HeaderReads types)
    (fairs : FairReturns view fair) (junk : Junk)
    (fits : fittingAll reading types entries none rows = true)
    (carried : AllCarried reading fair entries rows container)
    (complete : Complete reading entries none rows container) :
    ∃ elements, buildAll catalogue junk rows container = .ok elements ∧
      (Element.weights elements < 2 ^ 16 → spans elements = Element.weights elements ∧
        ∀ junk, ∃ octets left, catalogue.protocol.dumpAll junk elements = .ok (octets, left) ∧
          ∃ elements', catalogue.protocol.ParsesAll octets elements' ∧
            spans elements' = spans elements ∧
            ∀ junk, ∃ result, readAll reading junk entries elements' (fun _ => []) = .ok result ∧
              result.view (Catalogue.shown view) = container.view (Catalogue.shown view)) := by
  obtain ⟨elements, built, back⟩ := AllCarried.comesBack headers fairs junk fits carried
  refine ⟨elements, built, fun small => ?_⟩
  obtain ⟨total, dumps⟩ := allComeBack back small
  refine ⟨total, fun junk => ?_⟩
  obtain ⟨octets, left, dumped, elements', parses, total', reads⟩ := dumps junk
  refine ⟨octets, left, dumped, elements', parses, total', fun junk => ?_⟩
  obtain ⟨puts, read, same⟩ := reads junk fun _ => []
  refine ⟨_, read, ?_⟩
  rw [view_gather same rfl]
  exact congrArg (Container.view (Catalogue.shown view)) (rename_gather fits carried complete)

end RoundTrips

end OpenairSpgwc.Foundation
