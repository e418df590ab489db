import OpenairSpgwc.Foundation.Elements

/-!
Contract: what writing makes of elements that have been put together.

The length of a group is the sum of what its elements are declared to take, in 16
bits. Writing can change the declared length and the object of an element.

Owns:
- `Made`: groups have the length that adding their elements gives;
- `Laid`: every element is written with the length it declares, at every level;
- that elements are laid just when each element with a value is and the lengths do
  not overflow;
- writing the same elements again and again.
-/

namespace OpenairSpgwc.Foundation

namespace Element

variable {Object : Type}

mutual

/-- The octets of an element by the lengths of the values in it. -/
def weight : Element Object → Nat
  | .leaf tlv _ => tlvSize + tlv.length
  | .group _ elements => tlvSize + weights elements

def weights : List (Element Object) → Nat
  | [] => 0
  | element :: elements => weight element + weights elements

end

mutual

/-- The elements that have a value of their own. -/
def leaves : Element Object → List (Tlv × Object)
  | .leaf tlv object => [(tlv, object)]
  | .group _ elements => allLeaves elements

def allLeaves : List (Element Object) → List (Tlv × Object)
  | [] => []
  | element :: elements => leaves element ++ allLeaves elements

end

end Element

open Element

namespace Protocol

variable {ε Object : Type} (protocol : Protocol ε Object)

/-- The header of an element has its size, whatever the length. -/
def Headed (tlv : Tlv) : Prop :=
  ∀ length, (protocol.header { tlv with length := length }).length = tlvSize

mutual

/-- As constructors make it. -/
def Made : Element Object → Prop
  | .leaf tlv _ => protocol.Headed tlv
  | .group tlv elements =>
      protocol.Headed tlv ∧ tlv.length = addedLength 0 elements ∧ AllMade elements

def AllMade : List (Element Object) → Prop
  | [] => True
  | element :: elements => Made element ∧ AllMade elements

end

mutual

/-- The element is written as the string, and every value is as long as declared. -/
inductive Laid (junk : Junk) : Octets → Element Object → Prop where
  | leaf {value : Octets} {tlv : Tlv} {object left : Object}
      (written : protocol.write junk tlv.length object = .ok (value, tlv.length, left))
      (exact : value.length = tlv.length) :
      Laid junk (protocol.header tlv ++ value) (.leaf tlv object)
  | group {value : Octets} {tlv : Tlv} {elements : List (Element Object)}
      (inside : AllLaid junk value elements) (exact : value.length = tlv.length) :
      Laid junk (protocol.header tlv ++ value) (.group tlv elements)

inductive AllLaid (junk : Junk) : Octets → List (Element Object) → Prop where
  | nil : AllLaid junk [] []
  | cons {octets more : Octets} {element : Element Object} {elements : List (Element Object)}
      (first : Laid junk octets element) (rest : AllLaid junk more elements) :
      AllLaid junk (octets ++ more) (element :: elements)

end

/-- An element that writes as many octets as it declares. -/
def LeafExact (leaf : Tlv × Object) : Prop :=
  ∀ junk, ∃ value left,
    protocol.write junk leaf.1.length leaf.2 = .ok (value, leaf.1.length, left) ∧
      value.length = leaf.1.length

variable {protocol} {junk : Junk}

theorem Headed.length_header {tlv : Tlv} (headed : protocol.Headed tlv) :
    (protocol.header tlv).length = tlvSize := headed tlv.length

mutual

theorem Laid.length_eq {octets : Octets} {element : Element Object} :
    protocol.Laid junk octets element → protocol.Made element →
      octets.length = element.span ∧ element.span = weight element
  | .leaf written exact, made => by
      refine ⟨?_, rfl⟩
      rw [List.length_append, Headed.length_header made, exact]
      rfl
  | .group inside exact, made => by
      obtain ⟨total, same⟩ := inside.length_eq made.2.2
      refine ⟨?_, ?_⟩
      · rw [List.length_append, made.1.length_header, exact]
        rfl
      · exact congrArg (tlvSize + ·) (exact.symm.trans (total.trans same))

theorem AllLaid.length_eq {octets : Octets} {elements : List (Element Object)} :
    protocol.AllLaid junk octets elements → protocol.AllMade elements →
      octets.length = spans elements ∧ spans elements = weights elements
  | .nil, _ => ⟨rfl, rfl⟩
  | .cons first rest, made => by
      obtain ⟨size, same⟩ := first.length_eq made.1
      obtain ⟨total, others⟩ := rest.length_eq made.2
      refine ⟨?_, ?_⟩
      · rw [List.length_append, size, total, spans_cons]
      · rw [spans_cons, same, others]
        rfl

end

mutual

theorem Laid.leafExact {element : Element Object}
    (laid : ∀ junk, ∃ octets, protocol.Laid junk octets element) :
    ∀ leaf ∈ leaves element, protocol.LeafExact leaf := by
  cases element with
  | leaf tlv object =>
      intro leaf member
      rw [leaves, List.mem_singleton] at member
      intro junk
      obtain ⟨octets, written⟩ := laid junk
      cases written with
      | leaf written exact =>
          rw [member]
          exact ⟨_, _, written, exact⟩
  | group tlv elements =>
      rw [leaves]
      refine AllLaid.leafExact fun junk => ?_
      obtain ⟨octets, written⟩ := laid junk
      cases written with
      | group inside exact => exact ⟨_, inside⟩

theorem AllLaid.leafExact {elements : List (Element Object)}
    (laid : ∀ junk, ∃ octets, protocol.AllLaid junk octets elements) :
    ∀ leaf ∈ allLeaves elements, protocol.LeafExact leaf := by
  cases elements with
  | nil =>
      intro leaf member
      rw [allLeaves] at member
      cases member
  | cons element elements =>
      intro leaf member
      rw [allLeaves, List.mem_append] at member
      rcases member with member | member
      · refine Laid.leafExact (fun junk => ?_) leaf member
        obtain ⟨octets, written⟩ := laid junk
        cases written with
        | cons first rest => exact ⟨_, first⟩
      · refine AllLaid.leafExact (fun junk => ?_) leaf member
        obtain ⟨octets, written⟩ := laid junk
        cases written with
        | cons first rest => exact ⟨_, rest⟩

end

mutual

/-- The length of a group does not overflow when the values are not too long. -/
theorem Made.laid (junk : Junk) {element : Element Object} (made : protocol.Made element)
    (exact : ∀ leaf ∈ leaves element, protocol.LeafExact leaf)
    (small : weight element < 2 ^ 16) : ∃ octets, protocol.Laid junk octets element := by
  cases element with
  | leaf tlv object =>
      obtain ⟨value, left, written, size⟩ := exact (tlv, object) (by
        rw [leaves]
        exact List.mem_singleton.mpr rfl) junk
      exact ⟨_, .leaf written size⟩
  | group tlv elements =>
      rw [weight] at small
      obtain ⟨octets, inside⟩ := AllMade.laid junk made.2.2
        (fun leaf member => exact leaf (by rw [leaves]; exact member)) (by omega)
      obtain ⟨total, same⟩ := inside.length_eq made.2.2
      refine ⟨_, .group inside ?_⟩
      rw [made.2.1, addedLength_eq (by decide), total, same, Nat.zero_add,
        Nat.mod_eq_of_lt (by omega)]

theorem AllMade.laid (junk : Junk) {elements : List (Element Object)}
    (made : protocol.AllMade elements)
    (exact : ∀ leaf ∈ allLeaves elements, protocol.LeafExact leaf)
    (small : weights elements < 2 ^ 16) : ∃ octets, protocol.AllLaid junk octets elements := by
  cases elements with
  | nil => exact ⟨[], .nil⟩
  | cons element elements =>
      rw [weights] at small
      obtain ⟨octets, first⟩ := Made.laid junk made.1
        (fun leaf member => exact leaf (by
          rw [allLeaves, List.mem_append]
          exact .inl member)) (by omega)
      obtain ⟨more, rest⟩ := AllMade.laid junk made.2
        (fun leaf member => exact leaf (by
          rw [allLeaves, List.mem_append]
          exact .inr member)) (by omega)
      exact ⟨_, .cons first rest⟩

end

/-- A message of which `start` octets are declared before its elements. -/
theorem laid_iff {elements : List (Element Object)} {start : Nat} (made : protocol.AllMade elements)
    (bound : start < 2 ^ 16) :
    (∀ junk, ∃ octets, protocol.AllLaid junk octets elements ∧
        start + octets.length = addedLength start elements) ↔
      (∀ leaf ∈ allLeaves elements, protocol.LeafExact leaf) ∧
        start + weights elements < 2 ^ 16 := by
  constructor
  · intro laid
    refine ⟨AllLaid.leafExact fun junk => ?_, ?_⟩
    · obtain ⟨octets, written, -⟩ := laid junk
      exact ⟨octets, written⟩
    · obtain ⟨octets, written, total⟩ := laid fun _ => 0
      obtain ⟨size, same⟩ := written.length_eq made
      rw [addedLength_eq bound, size] at total
      have overflow := Nat.mod_lt (start + spans elements) (show 0 < 2 ^ 16 by decide)
      omega
  · rintro ⟨exact, small⟩ junk
    obtain ⟨octets, written⟩ := AllMade.laid junk made exact (by omega)
    obtain ⟨size, same⟩ := written.length_eq made
    refine ⟨octets, written, ?_⟩
    rw [addedLength_eq bound, size, same, Nat.mod_eq_of_lt small]

/-! ## Writing again -/

variable (protocol) in
/-- Writing for the `k`-th time after the first; memory can differ each time. -/
def dumpAgain (junks : Nat → Junk) :
    Nat → List (Element Object) → Except (Fault ε) (Octets × List (Element Object))
  | 0, elements => protocol.dumpAll (junks 0) elements
  | k + 1, elements =>
      match dumpAgain junks k elements with
      | .error reason => .error reason
      | .ok (_, left) => protocol.dumpAll (junks (k + 1)) left

variable (protocol) in
/-- After the first writing, each writing of the element gives the same. -/
def LeafSteady (leaf : Tlv × Object) : Prop :=
  ∀ junk value length left, protocol.write junk leaf.1.length leaf.2 = .ok (value, length, left) →
    ∀ junk, protocol.write junk length left = .ok (value, length, left)

variable (protocol) in
/-- Every writing of the element gives as many octets as the one before. -/
def LeafSized (leaf : Tlv × Object) : Prop :=
  ∀ junk value length left, protocol.write junk leaf.1.length leaf.2 = .ok (value, length, left) →
    ∀ junk value' length' left', protocol.write junk length left = .ok (value', length', left') →
      value'.length = value.length

theorem dumpAll_cons {element : Element Object} {elements left : List (Element Object)}
    {octets : Octets} (dumped : protocol.dumpAll junk (element :: elements) = .ok (octets, left)) :
    ∃ head rest element' elements', protocol.dump junk element = .ok (head, element') ∧
      protocol.dumpAll junk elements = .ok (rest, elements') ∧ octets = head ++ rest ∧
      left = element' :: elements' := by
  rw [Protocol.dumpAll] at dumped
  cases first : protocol.dump junk element with
  | error reason =>
      rw [first] at dumped
      cases dumped
  | ok one =>
      rw [first] at dumped
      cases rest : protocol.dumpAll junk elements with
      | error reason =>
          simp only [rest] at dumped
          cases dumped
      | ok others =>
          simp only [rest] at dumped
          cases dumped
          exact ⟨_, _, _, _, rfl, rfl, rfl, rfl⟩

theorem dump_leaf {tlv : Tlv} {object : Object} {left : Element Object} {octets : Octets}
    (dumped : protocol.dump junk (.leaf tlv object) = .ok (octets, left)) :
    ∃ value length object', protocol.write junk tlv.length object = .ok (value, length, object') ∧
      octets = protocol.header { tlv with length := length } ++ value ∧
      left = .leaf { tlv with length := length } object' := by
  rw [Protocol.dump] at dumped
  cases written : protocol.write junk tlv.length object with
  | error reason =>
      rw [written] at dumped
      cases dumped
  | ok result =>
      rw [written] at dumped
      cases dumped
      exact ⟨_, _, _, rfl, rfl, rfl⟩

theorem dump_group {tlv : Tlv} {elements : List (Element Object)} {left : Element Object}
    {octets : Octets} (dumped : protocol.dump junk (.group tlv elements) = .ok (octets, left)) :
    ∃ value elements', protocol.dumpAll junk elements = .ok (value, elements') ∧
      octets = protocol.header tlv ++ value ∧ left = .group tlv elements' := by
  rw [Protocol.dump] at dumped
  cases inside : protocol.dumpAll junk elements with
  | error reason =>
      rw [inside] at dumped
      cases dumped
  | ok result =>
      rw [inside] at dumped
      cases dumped
      exact ⟨_, _, rfl, rfl, rfl⟩

theorem leaf_mem_leaves (tlv : Tlv) (object : Object) :
    (tlv, object) ∈ leaves (.leaf tlv object) := by
  rw [leaves]
  exact List.mem_singleton.mpr rfl

theorem mem_allLeaves_cons {element : Element Object} {elements : List (Element Object)}
    {leaf : Tlv × Object} :
    leaf ∈ allLeaves (element :: elements) ↔ leaf ∈ leaves element ∨ leaf ∈ allLeaves elements := by
  rw [allLeaves, List.mem_append]

theorem mem_leaves_group {tlv : Tlv} {elements : List (Element Object)} {leaf : Tlv × Object} :
    leaf ∈ leaves (.group tlv elements) ↔ leaf ∈ allLeaves elements := by
  rw [leaves]

mutual

theorem dump_steady {element : Element Object} {octets : Octets} {left : Element Object}
    (steady : ∀ leaf ∈ leaves element, protocol.LeafSteady leaf)
    (dumped : protocol.dump junk element = .ok (octets, left)) :
    ∀ junk, protocol.dump junk left = .ok (octets, left) := by
  cases element with
  | leaf tlv object =>
      obtain ⟨value, length, object', written, rfl, rfl⟩ := dump_leaf dumped
      intro other
      rw [Protocol.dump,
        steady (tlv, object) (leaf_mem_leaves tlv object) junk value length object' written other]
  | group tlv elements =>
      obtain ⟨value, elements', inside, rfl, rfl⟩ := dump_group dumped
      intro other
      rw [Protocol.dump,
        dumpAll_steady (fun leaf member => steady leaf (mem_leaves_group.mpr member)) inside other]

theorem dumpAll_steady {elements : List (Element Object)} {octets : Octets}
    {left : List (Element Object)}
    (steady : ∀ leaf ∈ allLeaves elements, protocol.LeafSteady leaf)
    (dumped : protocol.dumpAll junk elements = .ok (octets, left)) :
    ∀ junk, protocol.dumpAll junk left = .ok (octets, left) := by
  cases elements with
  | nil =>
      rw [Protocol.dumpAll] at dumped
      cases dumped
      exact fun _ => rfl
  | cons element elements =>
      obtain ⟨head, rest, element', others, first, second, rfl, rfl⟩ := dumpAll_cons dumped
      intro other
      have again := dump_steady
        (fun leaf member => steady leaf (mem_allLeaves_cons.mpr (.inl member))) first other
      have more := dumpAll_steady
        (fun leaf member => steady leaf (mem_allLeaves_cons.mpr (.inr member))) second other
      rw [Protocol.dumpAll, again]
      simp only [more]

end

theorem dumpAgain_steady {elements : List (Element Object)} {octets : Octets}
    {left : List (Element Object)} {junks : Nat → Junk}
    (steady : ∀ leaf ∈ allLeaves elements, protocol.LeafSteady leaf)
    (dumped : protocol.dumpAll (junks 0) elements = .ok (octets, left)) (k : Nat) :
    protocol.dumpAgain junks k elements = .ok (octets, left) := by
  induction k with
  | zero => exact dumped
  | succ k inductionHypothesis =>
      rw [dumpAgain, inductionHypothesis]
      exact dumpAll_steady steady dumped (junks (k + 1))

variable (protocol) in
/-- The header shows the length. -/
def ShowsLength : Prop :=
  ∀ (tlv : Tlv) (first second : Nat),
    protocol.header { tlv with length := first } = protocol.header { tlv with length := second } →
      first % 2 ^ 16 = second % 2 ^ 16

mutual

theorem dump_length {element left last : Element Object} {octets again : Octets} {other : Junk}
    (made : protocol.Made element) (sized : ∀ leaf ∈ leaves element, protocol.LeafSized leaf)
    (dumped : protocol.dump junk element = .ok (octets, left))
    (redumped : protocol.dump other left = .ok (again, last)) : again.length = octets.length := by
  cases element with
  | leaf tlv object =>
      obtain ⟨value, length, object', written, rfl, rfl⟩ := dump_leaf dumped
      obtain ⟨value', length', object'', rewritten, rfl, -⟩ := dump_leaf redumped
      have same :=
        sized (tlv, object) (leaf_mem_leaves tlv object) junk value length object' written
        other value' length' object'' rewritten
      rw [List.length_append, List.length_append, made length', made length, same]
  | group tlv elements =>
      obtain ⟨value, elements', inside, rfl, rfl⟩ := dump_group dumped
      obtain ⟨value', elements'', later, rfl, -⟩ := dump_group redumped
      rw [List.length_append, List.length_append, dumpAll_length made.2.2
        (fun leaf member => sized leaf (mem_leaves_group.mpr member)) inside later]

theorem dumpAll_length {elements left last : List (Element Object)} {octets again : Octets}
    {other : Junk} (made : protocol.AllMade elements)
    (sized : ∀ leaf ∈ allLeaves elements, protocol.LeafSized leaf)
    (dumped : protocol.dumpAll junk elements = .ok (octets, left))
    (redumped : protocol.dumpAll other left = .ok (again, last)) :
    again.length = octets.length := by
  cases elements with
  | nil =>
      rw [Protocol.dumpAll] at dumped
      cases dumped
      rw [Protocol.dumpAll] at redumped
      cases redumped
      rfl
  | cons element elements =>
      obtain ⟨head, rest, element', others, first, second, rfl, rfl⟩ := dumpAll_cons dumped
      obtain ⟨head', rest', element'', others', first', second', rfl, -⟩ := dumpAll_cons redumped
      rw [List.length_append, List.length_append,
        dump_length made.1 (fun leaf member => sized leaf (mem_allLeaves_cons.mpr (.inl member)))
          first first',
        dumpAll_length made.2 (fun leaf member => sized leaf (mem_allLeaves_cons.mpr (.inr member)))
          second second']

end

/-- An element of which the second writing gives something else. -/
structure Differs (protocol : Protocol ε Object) (first second : Junk) (leaf : Tlv × Object) :
    Prop where
  differs : ∀ value length left,
    protocol.write first leaf.1.length leaf.2 = .ok (value, length, left) →
      ∀ value' length' left', protocol.write second length left = .ok (value', length', left') →
        value' ≠ value ∨ length' % 2 ^ 16 ≠ length % 2 ^ 16

variable {first second : Junk} {leaf : Tlv × Object}

mutual

theorem dump_differs {element left last : Element Object} {octets again : Octets}
    (shows : protocol.ShowsLength) (made : protocol.Made element)
    (sized : ∀ leaf ∈ leaves element, protocol.LeafSized leaf)
    (member : leaf ∈ leaves element) (differs : protocol.Differs first second leaf)
    (dumped : protocol.dump first element = .ok (octets, left))
    (redumped : protocol.dump second left = .ok (again, last)) : again ≠ octets := by
  cases element with
  | leaf tlv object =>
      rw [leaves, List.mem_singleton] at member
      obtain ⟨value, length, object', written, rfl, rfl⟩ := dump_leaf dumped
      obtain ⟨value', length', object'', rewritten, rfl, -⟩ := dump_leaf redumped
      rw [member] at differs
      intro same
      obtain ⟨heads, values⟩ := List.append_inj same ((made length').trans (made length).symm)
      rcases differs.differs value length object' written value' length' object'' rewritten with
        other | other
      · exact other values
      · exact other (shows tlv length' length heads)
  | group tlv elements =>
      obtain ⟨value, elements', inside, rfl, rfl⟩ := dump_group dumped
      obtain ⟨value', elements'', later, rfl, -⟩ := dump_group redumped
      intro same
      exact dumpAll_differs shows made.2.2
        (fun leaf member => sized leaf (mem_leaves_group.mpr member)) (mem_leaves_group.mp member)
        differs inside later (List.append_cancel_left same)

theorem dumpAll_differs {elements left last : List (Element Object)} {octets again : Octets}
    (shows : protocol.ShowsLength) (made : protocol.AllMade elements)
    (sized : ∀ leaf ∈ allLeaves elements, protocol.LeafSized leaf)
    (member : leaf ∈ allLeaves elements) (differs : protocol.Differs first second leaf)
    (dumped : protocol.dumpAll first elements = .ok (octets, left))
    (redumped : protocol.dumpAll second left = .ok (again, last)) : again ≠ octets := by
  cases elements with
  | nil =>
      rw [allLeaves] at member
      cases member
  | cons element elements =>
      obtain ⟨head, rest, element', others, one, more, rfl, rfl⟩ := dumpAll_cons dumped
      obtain ⟨head', rest', element'', others', one', more', rfl, -⟩ := dumpAll_cons redumped
      have inner := fun leaf member => sized leaf (mem_allLeaves_cons.mpr (.inl member))
      intro same
      obtain ⟨heads, rests⟩ := List.append_inj same (dump_length made.1 inner one one')
      rcases mem_allLeaves_cons.mp member with member | member
      · exact dump_differs shows made.1 inner member differs one one' heads
      · exact dumpAll_differs shows made.2
          (fun leaf member => sized leaf (mem_allLeaves_cons.mpr (.inr member))) member differs
          more more' rests

end

/-- Every writing gives the octets of the first one just when each element that has a
value does so. -/
theorem repeats_iff {elements : List (Element Object)} (shows : protocol.ShowsLength)
    (made : protocol.AllMade elements)
    (dumps : ∀ junk, ∃ octets left, protocol.dumpAll junk elements = .ok (octets, left))
    (sized : ∀ leaf ∈ allLeaves elements, protocol.LeafSized leaf)
    (otherwise : ∀ leaf ∈ allLeaves elements, ¬ protocol.LeafSteady leaf →
      ∃ first second, protocol.Differs first second leaf) :
    (∀ (junks : Nat → Junk) octets left,
        protocol.dumpAll (junks 0) elements = .ok (octets, left) →
          ∀ k, ∃ left, protocol.dumpAgain junks k elements = .ok (octets, left)) ↔
      ∀ leaf ∈ allLeaves elements, protocol.LeafSteady leaf := by
  constructor
  · intro repeats leaf member
    by_contra unsteady
    obtain ⟨first, second, differs⟩ := otherwise leaf member unsteady
    obtain ⟨octets, left, dumped⟩ := dumps first
    let junks : Nat → Junk := fun k => if k = 0 then first else second
    obtain ⟨last, redumped⟩ := repeats junks octets left dumped 1
    rw [dumpAgain, dumpAgain, show junks 0 = first from rfl, dumped] at redumped
    exact dumpAll_differs shows made sized member differs dumped redumped rfl
  · intro steady junks octets left dumped k
    exact ⟨left, dumpAgain_steady steady dumped k⟩

end Protocol

end OpenairSpgwc.Foundation
