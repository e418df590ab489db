import OpenairSpgwc.Foundation.Fields

/-!
Contract: information elements with a type, a declared length and a value, nested
in groups.

A protocol gives the layout of the header of an element, the classes of the
elements that have a value of their own, and which types are groups. An element
declares its length when it is made, and its class writes the value later; it is
read by its class, which need not take as many octets as are declared.

Owns:
- writing elements, with what writing changes in them;
- reading one element, a group and the body of a message;
- `Parses`, how elements lie in a string when each class takes its own octets,
  and `Cut`, how they lie when it takes just as many as are declared;
- reading of what `Parses`, and that reading always returns.
-/

namespace OpenairSpgwc.Foundation

structure Tlv where
  type : Nat
  length : Nat
  /-- What the header has besides the type and the length. -/
  info : Nat := 0
deriving DecidableEq, Repr

/-- The octets of the header of an element. -/
def tlvSize : Nat := 4

inductive Element (Object : Type) where
  | leaf (tlv : Tlv) (object : Object)
  | group (tlv : Tlv) (elements : List (Element Object))

inductive Shape where
  | leaf
  | group
deriving DecidableEq, Repr

/-- The elements of a protocol. -/
structure Protocol (ε Object : Type) where
  header : Tlv → Octets
  readHeader : Scan ε Tlv
  /-- What is made of an element of the type, if anything. -/
  shape : Nat → Option Shape
  load : Junk → Tlv → Scan ε Object
  /-- The value, the declared length and the object after writing. -/
  write : Junk → Nat → Object → Except (Fault ε) (Octets × Nat × Object)
  /-- What a group that does not fit ends with. -/
  badLength : Tlv → Fault ε

namespace Element

variable {ε Object : Type}

def tlv : Element Object → Tlv
  | .leaf tlv _ => tlv
  | .group tlv _ => tlv

/-- The octets that an element is declared to take. -/
def span (element : Element Object) : Nat := tlvSize + element.tlv.length

end Element

/-- The octets that elements are declared to take. -/
def spans {Object : Type} (elements : List (Element Object)) : Nat :=
  (elements.map Element.span).sum

@[simp] theorem spans_nil {Object : Type} : spans ([] : List (Element Object)) = 0 := rfl

@[simp] theorem spans_cons {Object : Type} (element : Element Object)
    (elements : List (Element Object)) :
    spans (element :: elements) = element.span + spans elements := rfl

/-- The length of a group or a message to which elements are added one by one,
in 16 bits. -/
def addedLength {Object : Type} (start : Nat) (elements : List (Element Object)) : Nat :=
  elements.foldl (fun length element => (length + element.span) % 2 ^ 16) start

theorem addedLength_eq {Object : Type} {start : Nat} (bound : start < 2 ^ 16)
    (elements : List (Element Object)) :
    addedLength start elements = (start + spans elements) % 2 ^ 16 := by
  induction elements generalizing start with
  | nil => rw [addedLength, List.foldl_nil, spans_nil, Nat.add_zero, Nat.mod_eq_of_lt bound]
  | cons element elements inductionHypothesis =>
      rw [addedLength, List.foldl_cons, ← addedLength,
        inductionHypothesis (Nat.mod_lt _ (by decide)), spans_cons, Nat.mod_add_mod, Nat.add_assoc]

namespace Protocol

variable {ε Object : Type} (protocol : Protocol ε Object)

/-! ## Writing -/

mutual

/-- `dump_to` of an element, with the element it leaves. -/
def dump (junk : Junk) : Element Object → Except (Fault ε) (Octets × Element Object)
  | .leaf tlv object =>
      match protocol.write junk tlv.length object with
      | .error reason => .error reason
      | .ok (value, length, object) =>
          .ok (protocol.header { tlv with length := length } ++ value,
            .leaf { tlv with length := length } object)
  | .group tlv elements =>
      match dumpAll junk elements with
      | .error reason => .error reason
      | .ok (value, elements) => .ok (protocol.header tlv ++ value, .group tlv elements)

def dumpAll (junk : Junk) :
    List (Element Object) → Except (Fault ε) (Octets × List (Element Object))
  | [] => .ok ([], [])
  | element :: elements =>
      match dump junk element with
      | .error reason => .error reason
      | .ok (octets, element) =>
          match dumpAll junk elements with
          | .error reason => .error reason
          | .ok (more, elements) => .ok (octets ++ more, element :: elements)

end

/-! ## Reading -/

mutual

/-- `new_ie_from_stream`; the first argument bounds the calls. -/
def loadElement (junk : Junk) : Nat → Scan ε (Option (Element Object))
  | 0 => Scan.fault .exhausted
  | fuel + 1 => do
      let tlv ← protocol.readHeader
      if tlv.length = 0 then
        pure none
      else
        match protocol.shape tlv.type with
        | none => pure none
        | some .leaf =>
            let object ← protocol.load junk tlv
            pure (some (.leaf tlv object))
        | some .group =>
            let elements ← loadGroup junk fuel tlv tlv.length
            pure (some (.group tlv elements))

/-- The loop of `load_from` of a group. -/
def loadGroup (junk : Junk) : Nat → Tlv → Int → Scan ε (List (Element Object))
  | 0, _, _ => Scan.fault .exhausted
  | fuel + 1, tlv, remaining =>
      if 0 < remaining then do
        match ← loadElement junk fuel with
        | none => Scan.fault (protocol.badLength tlv)
        | some element =>
            let elements ← loadGroup junk fuel tlv (remaining - element.span)
            pure (element :: elements)
      else
        pure []

end

/-- The loop of `load_from` of a message: the elements and their total length, in
16 bits. -/
def loadBody (junk : Junk) : Nat → Nat → Nat → Scan ε (List (Element Object) × Nat)
  | 0, _, _ => Scan.fault .exhausted
  | fuel + 1, check, total => do
      match ← protocol.loadElement junk fuel with
      | none => pure ([], total)
      | some element =>
          let total := (total + element.span) % 2 ^ 16
          if total < check then do
            let (elements, total) ← loadBody junk fuel check total
            pure (element :: elements, total)
          else
            pure ([element], total)

/-! ## How elements lie in a string -/

mutual

/-- The string is read as the element. -/
inductive Parses : Octets → Element Object → Prop where
  | leaf {head value : Octets} {tlv : Tlv} {object : Object}
      (header : Reads protocol.readHeader head tlv) (size : head.length = tlvSize)
      (nonempty : tlv.length ≠ 0) (shape : protocol.shape tlv.type = some .leaf)
      (load : ∀ junk, Reads (protocol.load junk tlv) value object) :
      Parses (head ++ value) (.leaf tlv object)
  | group {head value : Octets} {tlv : Tlv} {elements : List (Element Object)}
      (header : Reads protocol.readHeader head tlv) (size : head.length = tlvSize)
      (nonempty : tlv.length ≠ 0) (shape : protocol.shape tlv.type = some .group)
      (filled : spans elements = tlv.length) (load : ParsesAll value elements) :
      Parses (head ++ value) (.group tlv elements)

inductive ParsesAll : Octets → List (Element Object) → Prop where
  | nil : ParsesAll [] []
  | cons {octets more : Octets} {element : Element Object} {elements : List (Element Object)}
      (first : Parses octets element) (rest : ParsesAll more elements) :
      ParsesAll (octets ++ more) (element :: elements)

end

mutual

/-- The string is the element by its declared length, and is read so. At the end of a message
octets of the value can be left. -/
inductive Cut : Bool → Octets → Element Object → Prop where
  | leaf {final : Bool} {head taken left : Octets} {tlv : Tlv} {object : Object}
      (header : Reads protocol.readHeader head tlv) (size : head.length = tlvSize)
      (nonempty : tlv.length ≠ 0) (shape : protocol.shape tlv.type = some .leaf)
      (exact : taken.length + left.length = tlv.length) (all : final = false → left = [])
      (load : ∀ junk, Reads (protocol.load junk tlv) taken object) :
      Cut final (head ++ (taken ++ left)) (.leaf tlv object)
  | group {final : Bool} {head value : Octets} {tlv : Tlv} {elements : List (Element Object)}
      (header : Reads protocol.readHeader head tlv) (size : head.length = tlvSize)
      (nonempty : tlv.length ≠ 0) (shape : protocol.shape tlv.type = some .group)
      (exact : value.length = tlv.length) (load : CutAll final value elements) :
      Cut final (head ++ value) (.group tlv elements)

inductive CutAll : Bool → Octets → List (Element Object) → Prop where
  | nil {final : Bool} : CutAll final [] []
  | cons {final : Bool} {octets more : Octets} {element : Element Object}
      {elements : List (Element Object)} (first : Cut (final && more.isEmpty) octets element)
      (rest : CutAll final more elements) : CutAll final (octets ++ more) (element :: elements)

end

variable {protocol} {octets : Octets} {element : Element Object} {elements : List (Element Object)}

mutual

/-- What is read of an element that is cut, and what is left of it. -/
theorem Cut.parses {final : Bool} {octets : Octets} {element : Element Object} :
    protocol.Cut final octets element → octets.length = element.span ∧
      ∃ taken left, octets = taken ++ left ∧ (final = false → left = []) ∧
        protocol.Parses taken element
  | @Cut.leaf _ _ _ _ head taken left _ _ header size nonempty shape exact all load => by
      refine ⟨?_, head ++ taken, left, (List.append_assoc ..).symm, all,
        .leaf header size nonempty shape load⟩
      rw [List.length_append, List.length_append, size, exact]
      rfl
  | @Cut.group _ _ _ _ head value _ _ header size nonempty shape exact load => by
      obtain ⟨total, taken, left, rfl, all, parses⟩ := load.parses
      refine ⟨?_, head ++ taken, left, (List.append_assoc ..).symm, all,
        .group header size nonempty shape (total.symm.trans exact) parses⟩
      rw [List.length_append, size, exact]
      rfl

theorem CutAll.parses {final : Bool} {octets : Octets} {elements : List (Element Object)} :
    protocol.CutAll final octets elements → octets.length = spans elements ∧
      ∃ taken left, octets = taken ++ left ∧ (final = false → left = []) ∧
        protocol.ParsesAll taken elements
  | .nil => ⟨rfl, [], [], rfl, fun _ => rfl, .nil⟩
  | @CutAll.cons _ _ _ final octets more _ _ first rest => by
      obtain ⟨size, taken, left, rfl, all, parses⟩ := first.parses
      obtain ⟨total, others, remains, rfl, none', parsesRest⟩ := rest.parses
      refine ⟨by rw [List.length_append, size, total, spans_cons], ?_⟩
      by_cases last : others ++ remains = []
      · obtain ⟨rfl, rfl⟩ := List.append_eq_nil_iff.mp last
        refine ⟨taken ++ [], left, ?_, fun early => all ?_, .cons parses parsesRest⟩
        · simp only [List.append_nil]
        · rw [early, Bool.false_and]
      · have whole : left = [] := by
          apply all
          rw [Bool.and_eq_false_iff, List.isEmpty_eq_false_iff]
          exact .inr last
        refine ⟨taken ++ others, remains, ?_, none', .cons parses parsesRest⟩
        rw [whole, List.append_nil, List.append_assoc]

end

/-! ## Reading what parses -/

theorem Parses.length_pos (parses : protocol.Parses octets element) : 0 < octets.length := by
  cases parses with
  | leaf header size nonempty shape load =>
      rw [List.length_append, size, tlvSize]
      omega
  | group header size nonempty shape filled load =>
      rw [List.length_append, size, tlvSize]
      omega

/-- What is left to do after the header of an element that is not empty. -/
theorem reads_loadElement {junk : Junk} {fuel : Nat} {head value : Octets} {tlv : Tlv}
    {result : Option (Element Object)} (header : Reads protocol.readHeader head tlv)
    (nonempty : tlv.length ≠ 0)
    (rest : Reads (match protocol.shape tlv.type with
      | none => pure none
      | some .leaf => do
          let object ← protocol.load junk tlv
          pure (some (.leaf tlv object))
      | some .group => do
          let elements ← protocol.loadGroup junk fuel tlv tlv.length
          pure (some (.group tlv elements))) value result) :
    Reads (protocol.loadElement junk (fuel + 1)) (head ++ value) result := by
  rw [loadElement]
  refine header.bind ?_
  rw [if_neg nonempty]
  exact rest

mutual

theorem Parses.reads {octets : Octets} {element : Element Object} (junk : Junk) {fuel : Nat} :
    protocol.Parses octets element → 2 * octets.length ≤ fuel →
      Reads (protocol.loadElement junk fuel) octets (some element)
  | .leaf header size nonempty shape load, enough => by
      obtain ⟨fuel, rfl⟩ : ∃ less, fuel = less + 1 := by
        rw [List.length_append, size, tlvSize] at enough
        exact ⟨fuel - 1, by omega⟩
      refine reads_loadElement header nonempty ?_
      rw [shape]
      exact (load junk).finish
  | @Parses.group _ _ _ head value tlv elements header size nonempty shape filled load,
      enough => by
      obtain ⟨fuel, rfl⟩ : ∃ less, fuel = less + 1 := by
        rw [List.length_append, size, tlvSize] at enough
        exact ⟨fuel - 1, by omega⟩
      refine reads_loadElement header nonempty ?_
      rw [shape]
      have inside : 2 * value.length + 1 ≤ fuel := by
        rw [List.length_append, size, tlvSize] at enough
        omega
      exact (load.reads junk tlv (by rw [filled]) inside).finish

theorem ParsesAll.reads {octets : Octets} {elements : List (Element Object)} (junk : Junk)
    {fuel : Nat} (tlv : Tlv) {remaining : Int} :
    protocol.ParsesAll octets elements → remaining = (spans elements : Int) →
      2 * octets.length + 1 ≤ fuel →
      Reads (protocol.loadGroup junk fuel tlv remaining) octets elements
  | .nil, total, enough => by
      obtain ⟨fuel, rfl⟩ : ∃ less, fuel = less + 1 := ⟨fuel - 1, by omega⟩
      rw [loadGroup, if_neg (by rw [total, spans_nil]; decide)]
      exact .pure []
  | @ParsesAll.cons _ _ _ octets more element elements first rest, total, enough => by
      obtain ⟨fuel, rfl⟩ : ∃ less, fuel = less + 1 := ⟨fuel - 1, by omega⟩
      have longer := first.length_pos
      rw [List.length_append] at enough
      rw [spans_cons] at total
      have positive : 0 < element.span := by
        rw [Element.span, tlvSize]
        omega
      have left : remaining - element.span = (spans elements : Int) := by omega
      rw [loadGroup, if_pos (by omega)]
      refine (first.reads junk (by omega)).bind ?_
      exact (rest.reads junk tlv left (by omega)).finish

end

/-- The body of a message, with a first element. -/
theorem ParsesAll.reads_body (junk : Junk) {fuel check total : Nat}
    (parses : protocol.ParsesAll octets elements) (some : elements ≠ [])
    (declared : total + spans elements = check) (bound : check < 2 ^ 16)
    (enough : 2 * octets.length + 1 ≤ fuel) :
    Reads (protocol.loadBody junk fuel check total) octets (elements, check) := by
  induction elements generalizing octets fuel total with
  | nil => exact absurd rfl some
  | cons element elements inductionHypothesis =>
      cases parses with
      | @cons octets more _ _ first rest =>
          obtain ⟨fuel, rfl⟩ : ∃ less, fuel = less + 1 := ⟨fuel - 1, by omega⟩
          have longer := first.length_pos
          rw [List.length_append] at enough
          rw [spans_cons, ← Nat.add_assoc] at declared
          rw [loadBody]
          refine (first.reads junk (by omega)).bind ?_
          have small : (total + element.span) % 2 ^ 16 = total + element.span :=
            Nat.mod_eq_of_lt (by omega)
          simp only [small]
          cases elements with
          | nil =>
              rw [spans_nil, Nat.add_zero] at declared
              cases rest
              rw [if_neg (by omega), declared]
              exact .pure _
          | cons second others =>
              have positive : 0 < spans (second :: others) := by
                rw [spans_cons, Element.span, tlvSize]
                omega
              rw [if_pos (by omega)]
              exact (inductionHypothesis rest (List.cons_ne_nil _ _) declared (by omega)).finish

end Protocol

end OpenairSpgwc.Foundation
