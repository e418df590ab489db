import OpenairSpgwc.Foundation.Messages

/-!
Contract: when the order of elements of different types does not matter.

Taking elements over into a container goes from the first to the last, and ends at
the first that is refused. An element can also keep the computation from ending
properly; which of the two comes first then depends on the order.

Owns:
- `Taken` and `Stuck`: what becomes of an element, from its parts;
- `OrderFree`: every list with the same elements, those of one type in the same
  order, gives the same container or is refused as well;
- that this holds just when of each type the first element that is not taken over,
  if there is one, is refused and not stuck.
-/

namespace OpenairSpgwc.Foundation

section Ordering

variable {ε Member : Type} {catalogue : Catalogue ε} [DecidableEq catalogue.Kind]
  [DecidableEq Member] (reading : Reading catalogue Member) (junk : Junk)

/-! ## What becomes of an element -/

mutual

/-- The element is taken over by a container with the entries. -/
inductive Taken : List (Entry Member catalogue.Kind) → Element catalogue.Object → Prop where
  | leaf {entries : List (Entry Member catalogue.Kind)} {tlv : Tlv} {object : catalogue.Object}
      {core : catalogue.Core object.1} {entry : Entry Member catalogue.Kind}
      (value : (catalogue.cls object.1).toCore junk object.2 = .ok core)
      (found : findEntry entries (.leaf object.1) tlv.info = some entry) :
      Taken entries (.leaf tlv object)
  | group {entries inside : List (Entry Member catalogue.Kind)} {tlv : Tlv}
      {elements : List (Element catalogue.Object)} {entry : Entry Member catalogue.Kind}
      (own : reading.inner tlv.type = .own inside) (all : AllTaken inside elements)
      (found : findEntry entries (.group tlv.type) tlv.info = some entry) :
      Taken entries (.group tlv elements)

inductive AllTaken : List (Entry Member catalogue.Kind) → List (Element catalogue.Object) →
    Prop where
  | nil {entries : List (Entry Member catalogue.Kind)} : AllTaken entries []
  | cons {entries : List (Entry Member catalogue.Kind)} {element : Element catalogue.Object}
      {elements : List (Element catalogue.Object)} (first : Taken entries element)
      (rest : AllTaken entries elements) : AllTaken entries (element :: elements)

end

/-- The element does not come to an end, or does what the language leaves open. -/
inductive Stuck : List (Entry Member catalogue.Kind) → Element catalogue.Object → Prop where
  | leaf {entries : List (Entry Member catalogue.Kind)} {tlv : Tlv} {object : catalogue.Object}
      {reason : Fault ε} (value : (catalogue.cls object.1).toCore junk object.2 = .error reason)
      (other : ∀ exception, reason ≠ .thrown exception) : Stuck entries (.leaf tlv object)
  | endless {entries : List (Entry Member catalogue.Kind)} {tlv : Tlv}
      {elements : List (Element catalogue.Object)} (inner : reading.inner tlv.type = .endless) :
      Stuck entries (.group tlv elements)
  | inside {entries inside : List (Entry Member catalogue.Kind)} {tlv : Tlv}
      {before after : List (Element catalogue.Object)} {element : Element catalogue.Object}
      (own : reading.inner tlv.type = .own inside) (taken : AllTaken reading junk inside before)
      (stuck : Stuck inside element) : Stuck entries (.group tlv (before ++ element :: after))

variable {reading junk} {entries : List (Entry Member catalogue.Kind)}
  {element : Element catalogue.Object} {elements : List (Element catalogue.Object)}

omit [DecidableEq Member] in
theorem slot_of_found {key : Key catalogue.Kind} {info : Nat}
    {entry : Entry Member catalogue.Kind} (found : findEntry entries key info = some entry) :
    slot reading entries key info = .ok entry := by
  rw [slot, found]

theorem readAll_append (first second : List (Element catalogue.Object))
    (container : Container Member catalogue.Datum) :
    readAll reading junk entries (first ++ second) container =
      match readAll reading junk entries first container with
      | .ok result => readAll reading junk entries second result
      | .error reason => .error reason := by
  induction first generalizing container with
  | nil => rw [List.nil_append, readAll]
  | cons element elements inductionHypothesis =>
      rw [List.cons_append, readAll, readAll]
      cases readElement reading junk entries element with
      | error reason => rfl
      | ok result => exact inductionHypothesis _

mutual

theorem Taken.reads {entries : List (Entry Member catalogue.Kind)}
    {element : Element catalogue.Object} : Taken reading junk entries element →
      ∃ result, readElement reading junk entries element = .ok result
  | .leaf value found => by
      rw [readElement, value]
      simp only [slot_of_found found]
      exact ⟨_, rfl⟩
  | .group own all found => by
      obtain ⟨fields, read⟩ := all.reads fun _ => []
      rw [readElement, own]
      simp only [read, slot_of_found found]
      exact ⟨_, rfl⟩

theorem AllTaken.reads {entries : List (Entry Member catalogue.Kind)}
    {elements : List (Element catalogue.Object)}
    (all : AllTaken reading junk entries elements) (container : Container Member catalogue.Datum) :
    ∃ result, readAll reading junk entries elements container = .ok result :=
  match elements, all with
  | [], .nil => ⟨container, by rw [readAll]⟩
  | element :: elements, .cons first rest => by
      obtain ⟨⟨entry, value⟩, read⟩ := first.reads
      rw [readAll, read]
      exact rest.reads (put container entry value)

end

theorem Stuck.reads (stuck : Stuck reading junk entries element) :
    ∃ reason, (∀ exception, reason ≠ .thrown exception) ∧
      readElement reading junk entries element = .error reason := by
  induction stuck with
  | leaf value other =>
      refine ⟨_, other, ?_⟩
      rw [readElement, value]
  | endless inner =>
      refine ⟨.diverges, fun _ same => (by cases same), ?_⟩
      rw [readElement, inner]
  | inside own taken stuck inductionHypothesis =>
      obtain ⟨reason, other, read⟩ := inductionHypothesis
      obtain ⟨fields, before⟩ := taken.reads fun _ => []
      refine ⟨reason, other, ?_⟩
      rw [readElement, own]
      simp only [readAll_append, before]
      rw [readAll, read]

/-- What stops at an element that is refused, is refused. -/
theorem readAll_of_first {before after : List (Element catalogue.Object)} {reason : Fault ε}
    (taken : AllTaken reading junk entries before)
    (read : readElement reading junk entries element = .error reason)
    (container : Container Member catalogue.Datum) :
    readAll reading junk entries (before ++ element :: after) container = .error reason := by
  obtain ⟨result, done⟩ := taken.reads container
  rw [readAll_append, done]
  simp only [readAll, read]

mutual

/-- An element is taken over, stuck, or refused. -/
theorem taken_or_stuck (entries : List (Entry Member catalogue.Kind)) :
    ∀ element : Element catalogue.Object, Taken reading junk entries element ∨
      Stuck reading junk entries element ∨
        ∃ exception, readElement reading junk entries element = .error (.thrown exception)
  | .leaf tlv object => by
      cases value : (catalogue.cls object.1).toCore junk object.2 with
      | error reason =>
          by_cases other : ∀ exception, reason ≠ .thrown exception
          · exact .inr (.inl (.leaf value other))
          · push Not at other
            obtain ⟨exception, rfl⟩ := other
            refine .inr (.inr ⟨exception, ?_⟩)
            rw [readElement, value]
      | ok core =>
          cases found : findEntry entries (.leaf object.1) tlv.info with
          | some entry => exact .inl (.leaf value found)
          | none =>
              refine .inr (.inr ?_)
              rw [readElement, value]
              simp only [slot, found]
              exact ⟨_, rfl⟩
  | .group tlv elements => by
      cases own : reading.inner tlv.type with
      | endless => exact .inr (.inl (.endless own))
      | own inside =>
          rcases all_taken_or_stuck inside elements with
            all | ⟨before, element, after, rfl, taken, rest⟩
          · cases found : findEntry entries (.group tlv.type) tlv.info with
            | some entry => exact .inl (.group own all found)
            | none =>
                obtain ⟨fields, read⟩ := all.reads fun _ => []
                refine .inr (.inr ?_)
                rw [readElement, own]
                simp only [read, slot, found]
                exact ⟨_, rfl⟩
          · rcases rest with stuck | ⟨exception, read⟩
            · exact .inr (.inl (.inside own taken stuck))
            · refine .inr (.inr ⟨exception, ?_⟩)
              rw [readElement, own]
              simp only [readAll_of_first taken read]

/-- All are taken over, or there is a first that is not. -/
theorem all_taken_or_stuck (entries : List (Entry Member catalogue.Kind)) :
    ∀ elements : List (Element catalogue.Object), AllTaken reading junk entries elements ∨
      ∃ before element after, elements = before ++ element :: after ∧
        AllTaken reading junk entries before ∧ (Stuck reading junk entries element ∨
          ∃ exception, readElement reading junk entries element = .error (.thrown exception))
  | [] => .inl .nil
  | element :: elements => by
      rcases taken_or_stuck entries element with first | rest
      · rcases all_taken_or_stuck entries elements with
          all | ⟨before, other, after, rfl, taken, rest⟩
        · exact .inl (.cons first all)
        · exact .inr ⟨element :: before, other, after, rfl, .cons first taken, rest⟩
      · exact .inr ⟨[], element, elements, rfl, .nil, rest⟩

end

/-! ## Members and types -/

/-- What a container tells the element apart by. -/
def Element.key : Element catalogue.Object → Key catalogue.Kind
  | .leaf _ object => .leaf object.1
  | .group tlv _ => .group tlv.type

/-- The member that the element is put into. -/
def home (entries : List (Entry Member catalogue.Kind)) (element : Element catalogue.Object) :
    Option Member :=
  (findEntry entries element.key element.tlv.info).map (·.member)

theorem home_of_read {entry : Entry Member catalogue.Kind} {value : Value Member catalogue.Datum}
    (read : readElement reading junk entries element = .ok (entry, value)) :
    home entries element = some entry.member := by
  cases element with
  | leaf tlv object =>
      rw [readElement] at read
      cases core : (catalogue.cls object.1).toCore junk object.2 with
      | error reason =>
          rw [core] at read
          cases read
      | ok core' =>
          cases found : findEntry entries (.leaf object.1) tlv.info with
          | none =>
              simp only [core, slot, found] at read
              cases read
          | some entry =>
              simp only [core, slot, found] at read
              cases read
              exact congrArg (Option.map _) found
  | group tlv elements =>
      rw [readElement] at read
      cases own : reading.inner tlv.type with
      | endless =>
          rw [own] at read
          cases read
      | own inside =>
          cases fields : readAll reading junk inside elements fun _ => [] with
          | error reason =>
              simp only [own, fields] at read
              cases read
          | ok container =>
              cases found : findEntry entries (.group tlv.type) tlv.info with
              | none =>
                  simp only [own, fields, slot, found] at read
                  cases read
              | some entry =>
                  simp only [own, fields, slot, found] at read
                  cases read
                  exact congrArg (Option.map _) found

/-- The contents of a member come from the elements that are put into it. -/
theorem readAll_filter {member : Member} (only : Element catalogue.Object → Bool)
    {first second result : Container Member catalogue.Datum}
    (others : ∀ element ∈ elements, home entries element = some member → only element = true)
    (same : first member = second member)
    (read : readAll reading junk entries elements first = .ok result) :
    ∃ result', readAll reading junk entries (elements.filter only) second = .ok result' ∧
      result' member = result member := by
  induction elements generalizing first second with
  | nil =>
      rw [readAll] at read
      cases read
      exact ⟨second, by rw [List.filter_nil, readAll], same.symm⟩
  | cons element elements inductionHypothesis =>
      have rest := fun other inside => others other (List.mem_cons_of_mem _ inside)
      rw [readAll] at read
      cases one : readElement reading junk entries element with
      | error reason =>
          rw [one] at read
          cases read
      | ok found =>
          obtain ⟨entry, value⟩ := found
          rw [one] at read
          by_cases kept : only element = true
          · rw [List.filter_cons_of_pos kept, readAll, one]
            refine inductionHypothesis rest ?_ read
            by_cases here : member = entry.member
            · rw [put, put, here, Function.update_self, Function.update_self, ← here, same]
            · rw [put, put, Function.update_of_ne here, Function.update_of_ne here, same]
          · rw [List.filter_cons_of_neg kept]
            refine inductionHypothesis rest ?_ read
            have here : member ≠ entry.member := by
              intro here
              rw [here] at others
              exact kept (others element List.mem_cons_self (home_of_read one))
            rw [put, Function.update_of_ne here, same]

/-! ## Elements that have been read -/

/-- The class of the element is the one for its type. -/
def Loaded : Element catalogue.Object → Prop
  | .leaf tlv object => catalogue.dispatch tlv.type = some object.1
  | .group _ _ => True

omit [DecidableEq catalogue.Kind] in
theorem loaded_of_loadElement {fuel : Nat} {stream after : Stream}
    (read : catalogue.protocol.loadElement junk fuel stream = .ok (some element, after)) :
    Loaded element := by
  cases fuel with
  | zero => cases read
  | succ fuel =>
      rw [Protocol.loadElement, scan_bind] at read
      cases head : catalogue.protocol.readHeader stream with
      | error reason =>
          rw [head] at read
          cases read
      | ok result =>
          obtain ⟨tlv, next⟩ := result
          simp only [head] at read
          by_cases empty : tlv.length = 0
          · rw [if_pos empty] at read
            cases read
          · rw [if_neg empty] at read
            cases shape : catalogue.protocol.shape tlv.type with
            | none =>
                rw [shape] at read
                cases read
            | some kind =>
                rw [shape] at read
                cases kind with
                | leaf =>
                    obtain ⟨kind, found⟩ := Catalogue.shape_leaf shape
                    change (catalogue.load junk tlv >>= fun object => pure _) next = _ at read
                    rw [scan_bind, Catalogue.load_of_dispatch found, scan_bind] at read
                    cases value : (catalogue.cls kind).load junk tlv next with
                    | error reason =>
                        simp only [value] at read
                        cases read
                    | ok result =>
                        simp only [value] at read
                        cases read
                        exact found
                | group =>
                    simp only [scan_bind] at read
                    cases inside : catalogue.protocol.loadGroup junk fuel tlv tlv.length next with
                    | error reason =>
                        rw [inside] at read
                        cases read
                    | ok result =>
                        rw [inside] at read
                        cases read
                        exact trivial

omit [DecidableEq catalogue.Kind] in
theorem loaded_of_loadBody {fuel check total sum : Nat} {stream after : Stream}
    (read : catalogue.protocol.loadBody junk fuel check total stream =
      .ok ((elements, sum), after)) : ∀ element ∈ elements, Loaded element := by
  induction fuel generalizing elements total stream with
  | zero => cases read
  | succ fuel inductionHypothesis =>
      rw [Protocol.loadBody, scan_bind] at read
      cases one : catalogue.protocol.loadElement junk fuel stream with
      | error reason =>
          rw [one] at read
          cases read
      | ok result =>
          obtain ⟨found, next⟩ := result
          simp only [one] at read
          cases found with
          | none =>
              cases read
              exact fun _ inside => absurd inside List.not_mem_nil
          | some first =>
              have loaded := loaded_of_loadElement one
              simp only at read
              split at read
              · rw [scan_bind] at read
                cases rest : catalogue.protocol.loadBody junk fuel check
                    ((total + first.span) % 2 ^ 16) next with
                | error reason =>
                    rw [rest] at read
                    cases read
                | ok others =>
                    rw [rest] at read
                    cases read
                    intro element inside
                    rcases List.mem_cons.mp inside with rfl | inside
                    · exact loaded
                    · exact inductionHypothesis rest element inside
              · cases read
                intro element inside
                rw [List.mem_singleton.mp inside]
                exact loaded

omit [DecidableEq Member] in
theorem findEntry_mem {key : Key catalogue.Kind} {info : Nat}
    {entry : Entry Member catalogue.Kind} (found : findEntry entries key info = some entry) :
    entry ∈ entries ∧ entry.key = key := by
  refine ⟨List.mem_of_find?_eq_some found, ?_⟩
  have holds := List.find?_some found
  rw [Bool.and_eq_true] at holds
  exact of_decide_eq_true holds.1

omit [DecidableEq catalogue.Kind] in
theorem Envelope.loaded_of_load {Head : Type} {envelope : Envelope ε Head} {head : Head}
    {stream after : Stream}
    (read : envelope.load catalogue.protocol junk stream = .ok ((head, elements), after)) :
    ∀ element ∈ elements, Loaded element := by
  rw [Envelope.load, Envelope.loadWithin, scan_bind] at read
  cases first : envelope.readHead junk stream with
  | error reason =>
      rw [first] at read
      cases read
  | ok result =>
      obtain ⟨found, rest⟩ := result
      rw [first] at read
      simp only [scan_bind] at read
      cases body : catalogue.protocol.loadBody junk (2 * stream.rest.length + 3)
          (envelope.remaining found) 0 rest with
      | error reason =>
          rw [body] at read
          cases read
      | ok result =>
          obtain ⟨⟨others, total⟩, last⟩ := result
          rw [body] at read
          simp only at read
          split at read
          · cases read
            exact loaded_of_loadBody body
          · cases read

/-- A member is for one class. -/
def Keyed (entries : List (Entry Member catalogue.Kind)) : Prop :=
  ∀ first ∈ entries, ∀ second ∈ entries, first.member = second.member → first.key = second.key

/-! ## Lists in another order -/

def typed (type : Nat) (element : Element catalogue.Object) : Bool :=
  decide (element.tlv.type = type)

/-- The same elements, those of one type in the same order. -/
structure Rearranged (elements other : List (Element catalogue.Object)) : Prop where
  perm : elements.Perm other
  order : ∀ type, other.filter (typed type) = elements.filter (typed type)

/-- The elements that go into one member are of one type. -/
def OneType (entries : List (Entry Member catalogue.Kind))
    (elements : List (Element catalogue.Object)) : Prop :=
  ∀ first ∈ elements, ∀ second ∈ elements, ∀ member, home entries first = some member →
    home entries second = some member → first.tlv.type = second.tlv.type

omit [DecidableEq Member] in
/-- Each class is made of elements of one type. -/
theorem oneType_of_loaded (keyed : Keyed entries)
    (injective : ∀ first second kind, catalogue.dispatch first = some kind →
      catalogue.dispatch second = some kind → first = second)
    (loaded : ∀ element ∈ elements, Loaded element) : OneType entries elements := by
  intro first inside second inside' member here here'
  obtain ⟨entry, found, same⟩ := Option.map_eq_some_iff.mp here
  obtain ⟨entry', found', same'⟩ := Option.map_eq_some_iff.mp here'
  obtain ⟨mem, key⟩ := findEntry_mem found
  obtain ⟨mem', key'⟩ := findEntry_mem found'
  have keys : first.key = second.key := by
    rw [← key, ← key']
    exact keyed entry mem entry' mem' (same.trans same'.symm)
  have one := loaded first inside
  have two := loaded second inside'
  cases first with
  | leaf tlv object =>
      cases second with
      | leaf tlv' object' =>
          have kinds : object.1 = object'.1 := Key.leaf.inj keys
          rw [Loaded, kinds] at one
          exact injective _ _ _ one two
      | group tlv' elements' => cases keys
  | group tlv elements =>
      cases second with
      | leaf tlv' object' => cases keys
      | group tlv' elements' => exact Key.group.inj keys

variable (reading junk entries) in
/-- An exception is raised. -/
def Refused (elements : List (Element catalogue.Object))
    (container : Container Member catalogue.Datum) : Prop :=
  ∃ exception, readAll reading junk entries elements container = .error (.thrown exception)

variable (reading junk entries) in
def OrderFree (elements : List (Element catalogue.Object)) : Prop :=
  ∀ other container, Rearranged elements other →
    (Refused reading junk entries other container ↔
        Refused reading junk entries elements container) ∧
      (¬ Refused reading junk entries elements container →
        ∃ result, readAll reading junk entries elements container = .ok result ∧
          readAll reading junk entries other container = .ok result)

variable (reading junk entries) in
/-- Of each type, the first element that is not taken over, if there is one, is not stuck. -/
def NoneStuckFirst (elements : List (Element catalogue.Object)) : Prop :=
  ∀ type before element after, elements.filter (typed type) = before ++ element :: after →
    AllTaken reading junk entries before → ¬ Stuck reading junk entries element

omit [DecidableEq Member] in
theorem AllTaken.filter {only : Element catalogue.Object → Bool}
    (all : AllTaken reading junk entries elements) :
    AllTaken reading junk entries (elements.filter only) := by
  induction elements with
  | nil => exact .nil
  | cons element elements inductionHypothesis =>
      cases all with
      | cons first rest =>
          by_cases kept : only element = true
          · rw [List.filter_cons_of_pos kept]
            exact .cons first (inductionHypothesis rest)
          · rw [List.filter_cons_of_neg kept]
            exact inductionHypothesis rest

/-- What is left out of a rearrangement does not matter to a member. -/
theorem Rearranged.same {other : List (Element catalogue.Object)}
    {container first second : Container Member catalogue.Datum}
    (rearranged : Rearranged elements other) (oneType : OneType entries elements)
    (one : readAll reading junk entries elements container = .ok first)
    (two : readAll reading junk entries other container = .ok second) : first = second := by
  funext member
  by_cases some' : ∃ element ∈ elements, home entries element = some member
  · obtain ⟨element, inside, here⟩ := some'
    have only : ∀ other ∈ elements, home entries other = some member →
        typed element.tlv.type other = true := by
      intro other belongs there
      exact decide_eq_true (oneType other belongs element inside member there here)
    obtain ⟨result, kept, same⟩ := readAll_filter _ only rfl one
    obtain ⟨result', kept', same'⟩ := readAll_filter _
      (fun other belongs => only other (rearranged.perm.mem_iff.mpr belongs)) rfl two
    rw [rearranged.order, kept] at kept'
    cases kept'
    exact same.symm.trans same'
  · have none' : ∀ element ∈ elements, home entries element = some member → false = true :=
      fun element inside here => absurd ⟨element, inside, here⟩ some'
    obtain ⟨result, kept, same⟩ := readAll_filter (fun _ => false) none' rfl one
    obtain ⟨result', kept', same'⟩ := readAll_filter (fun _ => false)
      (fun element inside => none' element (rearranged.perm.mem_iff.mpr inside)) rfl two
    rw [List.filter_false, readAll] at kept kept'
    cases kept
    cases kept'
    exact same.symm.trans same'

/-- What is not taken over as a whole is refused, in any order. -/
theorem NoneStuckFirst.refused {other : List (Element catalogue.Object)}
    (free : NoneStuckFirst reading junk entries elements)
    (order : ∀ type, other.filter (typed type) = elements.filter (typed type))
    (container : Container Member catalogue.Datum) :
    AllTaken reading junk entries other ∨ Refused reading junk entries other container := by
  rcases all_taken_or_stuck entries other with all | ⟨before, element, after, rfl, taken, rest⟩
  · exact .inl all
  · rcases rest with stuck | ⟨exception, read⟩
    · have here : elements.filter (typed element.tlv.type) =
          before.filter (typed element.tlv.type) ++
            element :: after.filter (typed element.tlv.type) := by
        have kept : typed element.tlv.type element = true := decide_eq_true rfl
        rw [← order, List.filter_append, List.filter_cons_of_pos kept]
      exact absurd stuck (free _ _ _ _ here taken.filter)
    · exact .inr ⟨exception, readAll_of_first taken read container⟩

omit [DecidableEq Member] in
theorem AllTaken.of_perm {other : List (Element catalogue.Object)} (perm : elements.Perm other)
    (all : AllTaken reading junk entries elements) : AllTaken reading junk entries other := by
  induction perm with
  | nil => exact .nil
  | cons element _ inductionHypothesis =>
      cases all with
      | cons first rest => exact .cons first (inductionHypothesis rest)
  | swap first second rest =>
      cases all with
      | cons one more =>
          cases more with
          | cons two rest => exact .cons two (.cons one rest)
  | trans _ _ first second => exact second (first all)

omit [DecidableEq Member] in
theorem AllTaken.taken (all : AllTaken reading junk entries elements)
    (member : element ∈ elements) : Taken reading junk entries element := by
  induction elements with
  | nil => cases member
  | cons first rest inductionHypothesis =>
      cases all with
      | cons one more =>
          rcases List.mem_cons.mp member with rfl | later
          · exact one
          · exact inductionHypothesis more later

theorem allTaken_of_reads {container result : Container Member catalogue.Datum}
    (read : readAll reading junk entries elements container = .ok result) :
    AllTaken reading junk entries elements := by
  have first : AllTaken reading junk entries elements ∨ _ := all_taken_or_stuck entries elements
  rcases first with all | ⟨before, element, after, rfl, taken, rest⟩
  · exact all
  · obtain ⟨reason, stops⟩ : ∃ reason,
      readElement reading junk entries element = .error reason := by
      rcases rest with stuck | ⟨exception, thrown⟩
      · obtain ⟨reason, -, stops⟩ := stuck.reads
        exact ⟨reason, stops⟩
      · exact ⟨_, thrown⟩
    rw [readAll_of_first taken stops] at read
    cases read

omit [DecidableEq catalogue.Kind] in
theorem mem_of_split {type : Nat} {before after : List (Element catalogue.Object)}
    (split : elements.filter (typed type) = before ++ element :: after) : element ∈ elements := by
  have inside : element ∈ elements.filter (typed type) := by
    rw [split]
    exact List.mem_append_right _ List.mem_cons_self
  exact (List.mem_filter.mp inside).1

/-- What is taken over as a whole has no element that is stuck. -/
theorem AllTaken.noneStuckFirst (all : AllTaken reading junk entries elements) :
    NoneStuckFirst reading junk entries elements := by
  intro type before element after split _ stuck
  obtain ⟨result, read⟩ := (all.taken (mem_of_split split)).reads
  obtain ⟨reason, -, stops⟩ := stuck.reads
  rw [read] at stops
  cases stops

theorem not_refused_of_taken {container : Container Member catalogue.Datum}
    (all : AllTaken reading junk entries elements) :
    ¬ Refused reading junk entries elements container := by
  rintro ⟨exception, refused⟩
  obtain ⟨result, read⟩ := all.reads container
  rw [read] at refused
  cases refused

/-- Decoding does not depend on the order of elements of different types just when of each
type the first element that is not taken over, if there is one, is not stuck. -/
theorem orderFree_iff (oneType : OneType entries elements) :
    OrderFree reading junk entries elements ↔ NoneStuckFirst reading junk entries elements := by
  constructor
  · intro free type before element after split taken stuck
    let other := elements.filter (typed type) ++ elements.filter fun other => !typed type other
    have rearranged : Rearranged elements other := by
      refine ⟨(List.filter_append_perm (typed type) elements).symm, fun type' => ?_⟩
      rw [List.filter_append, List.filter_filter, List.filter_filter]
      by_cases same : type' = type
      · rw [same]
        have none' : elements.filter (fun other => typed type other && !typed type other) = [] := by
          rw [List.filter_eq_nil_iff]
          intro other _
          simp
        simp only [none', Bool.and_self, List.append_nil]
      · have none' : elements.filter (fun other => typed type' other && typed type other) = [] := by
          rw [List.filter_eq_nil_iff]
          intro other _
          simp only [typed, Bool.and_eq_true, decide_eq_true_eq]
          omega
        have all : elements.filter (fun other => typed type' other && !typed type other) =
            elements.filter (typed type') := by
          apply List.filter_congr
          intro other _
          simp only [typed]
          by_cases here : other.tlv.type = type'
          · simp [here, same]
          · simp [here]
        rw [none', all, List.nil_append]
    obtain ⟨reason, unthrown, read⟩ := stuck.reads
    have stops : readAll reading junk entries other (fun _ => []) = .error reason := by
      change readAll reading junk entries (_ ++ _) _ = _
      rw [split, List.append_assoc, List.cons_append]
      exact readAll_of_first taken read _
    have unrefused : ¬ Refused reading junk entries other fun _ => [] := by
      rintro ⟨exception, refused⟩
      rw [stops] at refused
      cases refused
      exact unthrown exception rfl
    obtain ⟨same, equal⟩ := free other (fun _ => []) rearranged
    obtain ⟨result, -, read'⟩ := equal fun refused => unrefused (same.mpr refused)
    rw [stops] at read'
    cases read'
  · intro free other container rearranged
    rcases free.refused (fun _ => rfl) container with all | refused
    · have all' := all.of_perm rearranged.perm
      obtain ⟨first, one⟩ := all.reads container
      obtain ⟨second, two⟩ := all'.reads container
      refine ⟨iff_of_false (not_refused_of_taken all') (not_refused_of_taken all), fun _ => ?_⟩
      rw [← rearranged.same oneType one two] at two
      exact ⟨first, one, two⟩
    · have refused' : Refused reading junk entries other container := by
        rcases free.refused rearranged.order container with all | refused'
        · exact absurd refused (not_refused_of_taken (all.of_perm rearranged.perm.symm))
        · exact refused'
      exact ⟨iff_of_true refused' refused, fun unrefused => absurd refused unrefused⟩

end Ordering

end OpenairSpgwc.Foundation
