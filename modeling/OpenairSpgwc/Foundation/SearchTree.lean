import Mathlib.Tactic

/-!
Contract: `std::set`, a binary search tree under a comparison that is only as good
as its author made it.

The operations go down the tree as those of the standard library do, so they are
defined for every comparison. Where the comparison is a strict weak order on the
keys they are given, they act on the keys in order and the shape of the tree does
not matter.

Owns:
- the tree, `find`, `insert` and `erase`;
- strict weak orders on a set of keys;
- what the operations do to a sorted tree.

Does not own: how a tree is balanced. `Balancing` is any change of shape.
-/

namespace OpenairSpgwc.Foundation

inductive SearchTree (α : Type*) where
  | leaf
  | node (left : SearchTree α) (key : α) (right : SearchTree α)
deriving DecidableEq, Repr

namespace SearchTree

variable {α : Type*}

/-- The keys, from `begin()` to `end()`. -/
def inorder : SearchTree α → List α
  | leaf => []
  | node left key right => left.inorder ++ key :: right.inorder

def size (tree : SearchTree α) : Nat := tree.inorder.length

section Operations

variable (lt : α → α → Bool) (key : α)

/-- The first key that is not before `key`, where `candidate` comes after the tree. -/
def lowerBound : SearchTree α → Option α → Option α
  | leaf, candidate => candidate
  | node left here right, candidate =>
      if lt here key then lowerBound right candidate else lowerBound left (some here)

/-- `std::set::find`; `none` is `end()`. -/
def find (tree : SearchTree α) : Option α :=
  match lowerBound lt key tree none with
  | none => none
  | some found => if lt key found then none else some found

/-- The way down to where `key` belongs. `previous` is the last key it went right of;
there `key` is already, unless `previous` is before it. -/
def insertAfter : Option α → SearchTree α → SearchTree α
  | none, leaf => node leaf key leaf
  | some previous, leaf => if lt previous key then node leaf key leaf else leaf
  | previous, node left here right =>
      if lt key here then node (insertAfter previous left) here right
      else node left here (insertAfter (some here) right)

/-- `std::set::insert`. -/
def insert (tree : SearchTree α) : SearchTree α := insertAfter lt key none tree

/-- The part before the lower bound of `key`. -/
def keepBelow : SearchTree α → SearchTree α
  | leaf => leaf
  | node left here right =>
      if lt here key then node left here (keepBelow right) else keepBelow left

/-- The part from the upper bound of `key` on. -/
def keepAbove : SearchTree α → SearchTree α
  | leaf => leaf
  | node left here right =>
      if lt key here then node (keepAbove left) here right else keepAbove right

/-- Two trees, one before the other. -/
def join : SearchTree α → SearchTree α → SearchTree α
  | leaf, later => later
  | node left here right, later => node left here (join right later)

/-- `std::set::erase` of a key: what lies between its bounds is taken out. -/
def erase : SearchTree α → SearchTree α
  | leaf => leaf
  | node left here right =>
      if lt here key then node left here (erase right)
      else if lt key here then node (erase left) here right
      else join (keepBelow lt key left) (keepAbove lt key right)

end Operations

@[simp] theorem inorder_leaf : (leaf : SearchTree α).inorder = [] := rfl

@[simp] theorem inorder_node (left right : SearchTree α) (key : α) :
    (node left key right).inorder = left.inorder ++ key :: right.inorder := rfl

@[simp] theorem inorder_join (first later : SearchTree α) :
    (join first later).inorder = first.inorder ++ later.inorder := by
  induction first with
  | leaf => rfl
  | node left here right _ inductionHypothesis =>
      rw [join, inorder_node, inorder_node, inductionHypothesis, List.append_assoc,
        List.cons_append]

end SearchTree

/-- The tree is given another shape after each operation, counted from the first. -/
structure Balancing (α : Type*) where
  reshape : Nat → SearchTree α → SearchTree α
  inorder_reshape : ∀ turn tree, (reshape turn tree).inorder = tree.inorder

/-- The shape stays as it is. -/
def Balancing.none {α : Type*} : Balancing α := ⟨fun _ tree => tree, fun _ _ => rfl⟩

/-! ### Strict weak orders -/

/-- Neither comes before the other. -/
def Equivalent {α : Type*} (lt : α → α → Bool) (first second : α) : Prop :=
  lt first second = false ∧ lt second first = false

/-- On these keys the comparison is what `std::set` asks for. -/
structure StrictWeakOn {α : Type*} (lt : α → α → Bool) (keys : Set α) : Prop where
  asymm : ∀ a ∈ keys, ∀ b ∈ keys, lt a b = true → lt b a = false
  cotrans : ∀ a ∈ keys, ∀ b ∈ keys, ∀ c ∈ keys, lt a c = true → lt a b = true ∨ lt b c = true

namespace StrictWeakOn

variable {α : Type*} {lt : α → α → Bool} {keys : Set α} {a b c : α}

/-- A comparison of ranks in a linear order. -/
theorem of_rank {β : Type*} [LinearOrder β] (rank : α → β)
    (agrees : ∀ a ∈ keys, ∀ b ∈ keys, lt a b = true ↔ rank a < rank b) : StrictWeakOn lt keys where
  asymm a aIn b bIn before := by
    rw [Bool.eq_false_iff, ne_eq, agrees b bIn a aIn]
    exact ((agrees a aIn b bIn).mp before).asymm
  cotrans a aIn b bIn c cIn before := by
    rw [agrees a aIn b bIn, agrees b bIn c cIn]
    have less := (agrees a aIn c cIn).mp before
    by_cases first : rank a < rank b
    · exact .inl first
    · exact .inr (lt_of_le_of_lt (not_lt.mp first) less)

theorem trans (order : StrictWeakOn lt keys) (aIn : a ∈ keys) (bIn : b ∈ keys) (cIn : c ∈ keys)
    (first : lt a b = true) (second : lt b c = true) : lt a c = true := by
  cases order.cotrans b bIn a aIn c cIn second with
  | inl back =>
      rw [order.asymm a aIn b bIn first] at back
      cases back
  | inr through => exact through

/-- What comes before a key comes before all that the key does not come after. -/
theorem lt_of_lt_of_not_lt (order : StrictWeakOn lt keys) (aIn : a ∈ keys) (bIn : b ∈ keys)
    (cIn : c ∈ keys) (first : lt a b = true) (second : lt c b = false) : lt a c = true := by
  cases order.cotrans a aIn c cIn b bIn first with
  | inl before => exact before
  | inr after =>
      rw [second] at after
      cases after

theorem lt_of_not_lt_of_lt (order : StrictWeakOn lt keys) (aIn : a ∈ keys) (bIn : b ∈ keys)
    (cIn : c ∈ keys) (first : lt b a = false) (second : lt b c = true) : lt a c = true := by
  cases order.cotrans b bIn a aIn c cIn second with
  | inl before =>
      rw [first] at before
      cases before
  | inr after => exact after

theorem equivalent_trans (order : StrictWeakOn lt keys) (aIn : a ∈ keys) (bIn : b ∈ keys)
    (cIn : c ∈ keys) (first : Equivalent lt a b) (second : Equivalent lt b c) :
    Equivalent lt a c := by
  constructor
  · by_contra less
    rw [Bool.not_eq_false] at less
    cases order.cotrans a aIn b bIn c cIn less with
    | inl before => exact Bool.false_ne_true (first.1.symm.trans before)
    | inr after => exact Bool.false_ne_true (second.1.symm.trans after)
  · by_contra less
    rw [Bool.not_eq_false] at less
    cases order.cotrans c cIn b bIn a aIn less with
    | inl before => exact Bool.false_ne_true (second.2.symm.trans before)
    | inr after => exact Bool.false_ne_true (first.2.symm.trans after)

theorem irrefl (order : StrictWeakOn lt keys) (aIn : a ∈ keys) : lt a a = false := by
  cases same : lt a a with
  | false => rfl
  | true =>
      rw [← same]
      exact order.asymm a aIn a aIn same

end StrictWeakOn

namespace SearchTree

variable {α : Type*} {lt : α → α → Bool} {keys : Set α} {tree : SearchTree α} {key : α}

/-- A tree of these keys, each before the next ones. -/
structure Sorted (lt : α → α → Bool) (keys : Set α) (tree : SearchTree α) : Prop where
  within : ∀ stored ∈ tree.inorder, stored ∈ keys
  ordered : tree.inorder.Pairwise fun a b => lt a b = true

theorem sorted_leaf : Sorted lt keys leaf where
  within _ member := absurd member List.not_mem_nil
  ordered := .nil

/-- What a sorted node says of its parts. -/
structure SortedNode (lt : α → α → Bool) (keys : Set α) (left : SearchTree α) (here : α)
    (right : SearchTree α) : Prop where
  sortedLeft : left.Sorted lt keys
  sortedRight : right.Sorted lt keys
  within : here ∈ keys
  before : ∀ stored ∈ left.inorder, lt stored here = true
  after : ∀ stored ∈ right.inorder, lt here stored = true

theorem Sorted.node {left right : SearchTree α} {here : α}
    (sorted : (node left here right).Sorted lt keys) : SortedNode lt keys left here right := by
  have ordered := sorted.ordered
  rw [inorder_node, List.pairwise_append, List.pairwise_cons] at ordered
  obtain ⟨leftOrdered, ⟨after, rightOrdered⟩, across⟩ := ordered
  have within : ∀ stored ∈ left.inorder ++ here :: right.inorder, stored ∈ keys := sorted.within
  constructor
  · exact ⟨fun stored member => within stored (List.mem_append_left _ member), leftOrdered⟩
  · exact ⟨fun stored member =>
      within stored (List.mem_append_right _ (List.mem_cons_of_mem _ member)), rightOrdered⟩
  · exact within here (List.mem_append_right _ (List.mem_cons_self ..))
  · exact fun stored member => across stored member here (List.mem_cons_self ..)
  · exact after

/-- Only the order of the keys counts. -/
theorem Sorted.of_inorder {other : SearchTree α} (sorted : tree.Sorted lt keys)
    (same : other.inorder = tree.inorder) : other.Sorted lt keys where
  within := same ▸ sorted.within
  ordered := same ▸ sorted.ordered

section Parts

variable {left right : SearchTree α} {here : α}

/-- All keys of the left part come before what the node does not come after. -/
theorem SortedNode.left_before (node : SortedNode lt keys left here right)
    (order : StrictWeakOn lt keys) (keyIn : key ∈ keys) (notAfter : lt key here = false) :
    ∀ stored ∈ left.inorder, lt stored key = true :=
  fun stored member => order.lt_of_lt_of_not_lt (node.sortedLeft.within stored member)
    node.within keyIn (node.before stored member) notAfter

theorem SortedNode.right_after (node : SortedNode lt keys left here right)
    (order : StrictWeakOn lt keys) (keyIn : key ∈ keys) (notBefore : lt here key = false) :
    ∀ stored ∈ right.inorder, lt key stored = true :=
  fun stored member => order.lt_of_not_lt_of_lt keyIn node.within
    (node.sortedRight.within stored member) notBefore (node.after stored member)

end Parts

/-! ### The parts of a tree -/

/-- The keys before `key`. -/
def keysBelow (lt : α → α → Bool) (key : α) (stored : List α) : List α :=
  stored.filter fun other => lt other key

/-- The keys after `key`. -/
def keysAbove (lt : α → α → Bool) (key : α) (stored : List α) : List α :=
  stored.filter fun other => lt key other

theorem keysBelow_of_all {stored : List α} (all : ∀ other ∈ stored, lt other key = true) :
    keysBelow lt key stored = stored :=
  List.filter_eq_self.mpr all

theorem keysAbove_of_all {stored : List α} (all : ∀ other ∈ stored, lt key other = true) :
    keysAbove lt key stored = stored :=
  List.filter_eq_self.mpr all

theorem keysBelow_of_none {stored : List α} (no : ∀ other ∈ stored, lt other key = false) :
    keysBelow lt key stored = [] :=
  List.filter_eq_nil_iff.mpr fun other member => by
    rw [no other member]
    exact Bool.false_ne_true

theorem keysAbove_of_none {stored : List α} (no : ∀ other ∈ stored, lt key other = false) :
    keysAbove lt key stored = [] :=
  List.filter_eq_nil_iff.mpr fun other member => by
    rw [no other member]
    exact Bool.false_ne_true

theorem keysBelow_append (first second : List α) :
    keysBelow lt key (first ++ second) = keysBelow lt key first ++ keysBelow lt key second :=
  List.filter_append ..

theorem keysAbove_append (first second : List α) :
    keysAbove lt key (first ++ second) = keysAbove lt key first ++ keysAbove lt key second :=
  List.filter_append ..

section Nodes

variable {left right : SearchTree α} {here : α}

theorem SortedNode.keysBelow_of_before (parts : SortedNode lt keys left here right)
    (order : StrictWeakOn lt keys) (keyIn : key ∈ keys) (before : lt here key = true) :
    keysBelow lt key (node left here right).inorder =
      left.inorder ++ here :: keysBelow lt key right.inorder := by
  have all := parts.left_before order keyIn (order.asymm here parts.within key keyIn before)
  rw [inorder_node, keysBelow_append, keysBelow_of_all all, keysBelow,
    List.filter_cons, ← keysBelow, if_pos before]

theorem SortedNode.keysBelow_of_not_before (parts : SortedNode lt keys left here right)
    (order : StrictWeakOn lt keys) (keyIn : key ∈ keys) (notBefore : lt here key = false) :
    keysBelow lt key (node left here right).inorder = keysBelow lt key left.inorder := by
  have after := parts.right_after order keyIn notBefore
  have no : keysBelow lt key right.inorder = [] :=
    keysBelow_of_none fun other member => order.asymm key keyIn other
      (parts.sortedRight.within other member) (after other member)
  rw [inorder_node, keysBelow_append, keysBelow, keysBelow, List.filter_cons, ← keysBelow,
    ← keysBelow, if_neg (by rw [notBefore]; exact Bool.false_ne_true), no, List.append_nil]

theorem SortedNode.keysAbove_of_after (parts : SortedNode lt keys left here right)
    (order : StrictWeakOn lt keys) (keyIn : key ∈ keys) (after : lt key here = true) :
    keysAbove lt key (node left here right).inorder =
      keysAbove lt key left.inorder ++ here :: right.inorder := by
  have all := parts.right_after order keyIn (order.asymm key keyIn here parts.within after)
  rw [inorder_node, keysAbove_append, keysAbove, keysAbove, List.filter_cons, ← keysAbove,
    ← keysAbove, if_pos after, keysAbove_of_all all]

theorem SortedNode.keysAbove_of_not_after (parts : SortedNode lt keys left here right)
    (order : StrictWeakOn lt keys) (keyIn : key ∈ keys) (notAfter : lt key here = false) :
    keysAbove lt key (node left here right).inorder = keysAbove lt key right.inorder := by
  have before := parts.left_before order keyIn notAfter
  have no : keysAbove lt key left.inorder = [] :=
    keysAbove_of_none fun other member => order.asymm other
      (parts.sortedLeft.within other member) key keyIn (before other member)
  rw [inorder_node, keysAbove_append, no, keysAbove, List.filter_cons, ← keysAbove,
    if_neg (by rw [notAfter]; exact Bool.false_ne_true), List.nil_append]

end Nodes

theorem inorder_keepBelow (order : StrictWeakOn lt keys) (keyIn : key ∈ keys)
    (sorted : tree.Sorted lt keys) :
    (keepBelow lt key tree).inorder = keysBelow lt key tree.inorder := by
  induction tree with
  | leaf => rfl
  | node left here right leftHypothesis rightHypothesis =>
      have parts := sorted.node
      rw [keepBelow]
      cases first : lt here key with
      | true =>
          rw [if_pos rfl, inorder_node, rightHypothesis parts.sortedRight,
            parts.keysBelow_of_before order keyIn first]
      | false =>
          rw [if_neg Bool.false_ne_true, leftHypothesis parts.sortedLeft,
            parts.keysBelow_of_not_before order keyIn first]

theorem inorder_keepAbove (order : StrictWeakOn lt keys) (keyIn : key ∈ keys)
    (sorted : tree.Sorted lt keys) :
    (keepAbove lt key tree).inorder = keysAbove lt key tree.inorder := by
  induction tree with
  | leaf => rfl
  | node left here right leftHypothesis rightHypothesis =>
      have parts := sorted.node
      rw [keepAbove]
      cases second : lt key here with
      | true =>
          rw [if_pos rfl, inorder_node, leftHypothesis parts.sortedLeft,
            parts.keysAbove_of_after order keyIn second]
      | false =>
          rw [if_neg Bool.false_ne_true, rightHypothesis parts.sortedRight,
            parts.keysAbove_of_not_after order keyIn second]

/-! ### The operations on a sorted tree -/

theorem inorder_erase (order : StrictWeakOn lt keys) (keyIn : key ∈ keys)
    (sorted : tree.Sorted lt keys) :
    (erase lt key tree).inorder =
      keysBelow lt key tree.inorder ++ keysAbove lt key tree.inorder := by
  induction tree with
  | leaf => rfl
  | node left here right leftHypothesis rightHypothesis =>
      have parts := sorted.node
      rw [erase]
      cases first : lt here key with
      | true =>
          have notAfter := order.asymm here parts.within key keyIn first
          rw [if_pos rfl, inorder_node, rightHypothesis parts.sortedRight,
            parts.keysBelow_of_before order keyIn first,
            parts.keysAbove_of_not_after order keyIn notAfter, List.append_assoc, List.cons_append]
      | false =>
          rw [if_neg Bool.false_ne_true, parts.keysBelow_of_not_before order keyIn first]
          cases second : lt key here with
          | true =>
              rw [if_pos rfl, inorder_node, leftHypothesis parts.sortedLeft,
                parts.keysAbove_of_after order keyIn second, List.append_assoc]
          | false =>
              rw [if_neg Bool.false_ne_true, inorder_join,
                inorder_keepBelow order keyIn parts.sortedLeft,
                inorder_keepAbove order keyIn parts.sortedRight,
                parts.keysAbove_of_not_after order keyIn second]

/-- `key` is in the tree as far as the comparison can tell. -/
def Present (lt : α → α → Bool) (key : α) (stored : List α) : Prop :=
  ∃ other ∈ stored, Equivalent lt other key

theorem not_present_iff {stored : List α} :
    ¬Present lt key stored ↔ ∀ other ∈ stored, lt other key = true ∨ lt key other = true := by
  constructor
  · intro absent other member
    by_contra neither
    rw [not_or, Bool.not_eq_true, Bool.not_eq_true] at neither
    exact absent ⟨other, member, neither⟩
  · rintro either ⟨other, member, notBefore, notAfter⟩
    cases either other member with
    | inl before =>
        rw [notBefore] at before
        cases before
    | inr after =>
        rw [notAfter] at after
        cases after

/-- The key the way down went right of last comes before the tree. -/
def Precedes (lt : α → α → Bool) (keys : Set α) (previous : Option α) (tree : SearchTree α) :
    Prop :=
  ∀ other ∈ previous, other ∈ keys ∧ ∀ stored ∈ tree.inorder, lt other stored = true

section Insert

variable {previous : Option α}

theorem Precedes.left {left right : SearchTree α} {here : α}
    (precedes : Precedes lt keys previous (node left here right)) :
    Precedes lt keys previous left :=
  fun other same => ⟨(precedes other same).1, fun stored member =>
    (precedes other same).2 stored (List.mem_append_left _ member)⟩

theorem SortedNode.precedes {left right : SearchTree α} {here : α}
    (parts : SortedNode lt keys left here right) : Precedes lt keys (some here) right := by
  intro other same
  cases same
  exact ⟨parts.within, parts.after⟩

theorem insertAfter_node (left right : SearchTree α) (here : α) :
    insertAfter lt key previous (node left here right) =
      if lt key here then node (insertAfter lt key previous left) here right
      else node left here (insertAfter lt key (some here) right) := by
  cases previous <;> rfl

/-- A key that is there is not inserted. -/
theorem inorder_insertAfter_of_present (order : StrictWeakOn lt keys) (keyIn : key ∈ keys)
    (sorted : tree.Sorted lt keys) (precedes : Precedes lt keys previous tree)
    (present : Present lt key tree.inorder ∨ ∃ other ∈ previous, lt other key = false) :
    (insertAfter lt key previous tree).inorder = tree.inorder := by
  induction tree generalizing previous with
  | leaf =>
      cases present with
      | inl member =>
          obtain ⟨other, member, _⟩ := member
          cases member
      | inr last =>
          obtain ⟨other, same, notBefore⟩ := last
          cases same
          rw [insertAfter, if_neg (by rw [notBefore]; exact Bool.false_ne_true)]
  | node left here right leftHypothesis rightHypothesis =>
      have parts := sorted.node
      rw [insertAfter_node]
      cases second : lt key here with
      | true =>
          rw [if_pos rfl, inorder_node, inorder_node]
          congr 1
          apply leftHypothesis parts.sortedLeft precedes.left
          refine present.imp_left ?_
          rintro ⟨other, member, equivalent⟩
          cases List.mem_append.mp member with
          | inl inLeft => exact ⟨other, inLeft, equivalent⟩
          | inr rest =>
              cases List.mem_cons.mp rest with
              | inl same =>
                  rw [← same, equivalent.2] at second
                  cases second
              | inr inRight =>
                  have after := parts.right_after order keyIn
                    (order.asymm key keyIn here parts.within second) other inRight
                  rw [equivalent.2] at after
                  cases after
      | false =>
          rw [if_neg Bool.false_ne_true, inorder_node, inorder_node]
          congr 2
          apply rightHypothesis parts.sortedRight parts.precedes
          cases first : lt here key with
          | false => exact .inr ⟨here, rfl, first⟩
          | true =>
              refine .inl ?_
              cases present with
              | inl member =>
                  obtain ⟨other, member, equivalent⟩ := member
                  cases List.mem_append.mp member with
                  | inl inLeft =>
                      have before := parts.left_before order keyIn second other inLeft
                      rw [equivalent.1] at before
                      cases before
                  | inr rest =>
                      cases List.mem_cons.mp rest with
                      | inl same =>
                          rw [← same, equivalent.1] at first
                          cases first
                      | inr inRight => exact ⟨other, inRight, equivalent⟩
              | inr last =>
                  obtain ⟨other, same, notBefore⟩ := last
                  obtain ⟨otherIn, before⟩ := precedes other same
                  have through := order.trans otherIn parts.within keyIn
                    (before here (List.mem_append_right _ (List.mem_cons_self ..))) first
                  rw [notBefore] at through
                  cases through

/-- A key that is not there is inserted after those before it. -/
theorem inorder_insertAfter_of_absent (order : StrictWeakOn lt keys) (keyIn : key ∈ keys)
    (sorted : tree.Sorted lt keys) (absent : ¬Present lt key tree.inorder)
    (before : ∀ other ∈ previous, lt other key = true) :
    (insertAfter lt key previous tree).inorder =
      keysBelow lt key tree.inorder ++ key :: keysAbove lt key tree.inorder := by
  induction tree generalizing previous with
  | leaf =>
      cases previous with
      | none => rfl
      | some other =>
          rw [insertAfter, if_pos (before other rfl)]
          rfl
  | node left here right leftHypothesis rightHypothesis =>
      have parts := sorted.node
      have either := not_present_iff.mp absent
      rw [insertAfter_node]
      cases second : lt key here with
      | true =>
          have notBefore := order.asymm key keyIn here parts.within second
          have absentLeft : ¬Present lt key left.inorder :=
            not_present_iff.mpr fun other member => either other (List.mem_append_left _ member)
          rw [if_pos rfl, inorder_node, leftHypothesis parts.sortedLeft absentLeft before,
            parts.keysBelow_of_not_before order keyIn notBefore,
            parts.keysAbove_of_after order keyIn second, List.append_assoc, List.cons_append]
      | false =>
          have first : lt here key = true := by
            cases either here (List.mem_append_right _ (List.mem_cons_self ..)) with
            | inl first => exact first
            | inr after =>
                rw [second] at after
                cases after
          have absentRight : ¬Present lt key right.inorder :=
            not_present_iff.mpr fun other member =>
              either other (List.mem_append_right _ (List.mem_cons_of_mem _ member))
          have last : ∀ other ∈ some here, lt other key = true := by
            intro other same
            cases same
            exact first
          rw [if_neg Bool.false_ne_true, inorder_node,
            rightHypothesis parts.sortedRight absentRight last,
            parts.keysBelow_of_before order keyIn first,
            parts.keysAbove_of_not_after order keyIn second, List.append_assoc, List.cons_append]

end Insert

theorem inorder_insert_of_present (order : StrictWeakOn lt keys) (keyIn : key ∈ keys)
    (sorted : tree.Sorted lt keys) (present : Present lt key tree.inorder) :
    (insert lt key tree).inorder = tree.inorder :=
  inorder_insertAfter_of_present order keyIn sorted (fun _ none => nomatch none) (.inl present)

theorem inorder_insert_of_absent (order : StrictWeakOn lt keys) (keyIn : key ∈ keys)
    (sorted : tree.Sorted lt keys) (absent : ¬Present lt key tree.inorder) :
    (insert lt key tree).inorder =
      keysBelow lt key tree.inorder ++ key :: keysAbove lt key tree.inorder :=
  inorder_insertAfter_of_absent order keyIn sorted absent fun _ none => nomatch none

/-- What is before `key`, `middle` and what is after `key` are in order. -/
theorem ordered_around (order : StrictWeakOn lt keys) (keyIn : key ∈ keys)
    (sorted : tree.Sorted lt keys) {middle : List α} (single : middle = [] ∨ middle = [key]) :
    (keysBelow lt key tree.inorder ++ (middle ++ keysAbove lt key tree.inorder)).Pairwise
      fun a b => lt a b = true := by
  have beforeKey : ∀ stored ∈ keysBelow lt key tree.inorder, lt stored key = true :=
    fun stored member => (List.mem_filter.mp member).2
  have afterKey : ∀ stored ∈ keysAbove lt key tree.inorder, lt key stored = true :=
    fun stored member => (List.mem_filter.mp member).2
  have upper : (middle ++ keysAbove lt key tree.inorder).Pairwise fun a b => lt a b = true := by
    cases single with
    | inl empty =>
        rw [empty]
        exact sorted.ordered.filter _
    | inr one =>
        rw [one]
        exact List.pairwise_cons.mpr ⟨afterKey, sorted.ordered.filter _⟩
  rw [List.pairwise_append]
  refine ⟨sorted.ordered.filter _, upper, fun first firstIn second secondIn => ?_⟩
  have before := beforeKey first firstIn
  cases List.mem_append.mp secondIn with
  | inl inMiddle =>
      cases single with
      | inl empty =>
          rw [empty] at inMiddle
          cases inMiddle
      | inr one =>
          rw [one] at inMiddle
          rw [List.mem_singleton.mp inMiddle]
          exact before
  | inr later =>
      exact order.trans (sorted.within first (List.mem_filter.mp firstIn).1) keyIn
        (sorted.within second (List.mem_filter.mp later).1) before (afterKey second later)

theorem Sorted.insert (sorted : tree.Sorted lt keys) (order : StrictWeakOn lt keys)
    (keyIn : key ∈ keys) : (insert lt key tree).Sorted lt keys := by
  by_cases present : Present lt key tree.inorder
  · exact sorted.of_inorder (inorder_insert_of_present order keyIn sorted present)
  · have inserted := inorder_insert_of_absent order keyIn sorted present
    constructor
    · intro stored member
      rw [inserted] at member
      cases List.mem_append.mp member with
      | inl before => exact sorted.within stored (List.mem_filter.mp before).1
      | inr rest =>
          cases List.mem_cons.mp rest with
          | inl same =>
              rw [same]
              exact keyIn
          | inr after => exact sorted.within stored (List.mem_filter.mp after).1
    · rw [inserted]
      exact ordered_around order keyIn sorted (.inr rfl)

theorem Sorted.erase (sorted : tree.Sorted lt keys) (order : StrictWeakOn lt keys)
    (keyIn : key ∈ keys) : (erase lt key tree).Sorted lt keys := by
  have erased := inorder_erase order keyIn sorted
  constructor
  · intro stored member
    rw [erased] at member
    cases List.mem_append.mp member with
    | inl before => exact sorted.within stored (List.mem_filter.mp before).1
    | inr after => exact sorted.within stored (List.mem_filter.mp after).1
  · rw [erased]
    exact ordered_around order keyIn sorted (.inl rfl)

section Membership

variable {asked : α}

theorem present_insert (order : StrictWeakOn lt keys) (keyIn : key ∈ keys) (askedIn : asked ∈ keys)
    (sorted : tree.Sorted lt keys) :
    Present lt asked (insert lt key tree).inorder ↔
      Equivalent lt key asked ∨ Present lt asked tree.inorder := by
  by_cases present : Present lt key tree.inorder
  · rw [inorder_insert_of_present order keyIn sorted present]
    refine (or_iff_right_of_imp ?_).symm
    intro equivalent
    obtain ⟨other, member, same⟩ := present
    exact ⟨other, member,
      order.equivalent_trans (sorted.within other member) keyIn askedIn same equivalent⟩
  · rw [inorder_insert_of_absent order keyIn sorted present]
    constructor
    · rintro ⟨other, member, equivalent⟩
      cases List.mem_append.mp member with
      | inl before => exact .inr ⟨other, (List.mem_filter.mp before).1, equivalent⟩
      | inr rest =>
          cases List.mem_cons.mp rest with
          | inl same =>
              rw [same] at equivalent
              exact .inl equivalent
          | inr after => exact .inr ⟨other, (List.mem_filter.mp after).1, equivalent⟩
    · intro either
      cases either with
      | inl equivalent =>
          exact ⟨key, List.mem_append_right _ (List.mem_cons_self ..), equivalent⟩
      | inr stored =>
          obtain ⟨other, member, equivalent⟩ := stored
          refine ⟨other, ?_, equivalent⟩
          cases not_present_iff.mp present other member with
          | inl before => exact List.mem_append_left _ (List.mem_filter.mpr ⟨member, before⟩)
          | inr after =>
              exact List.mem_append_right _
                (List.mem_cons_of_mem _ (List.mem_filter.mpr ⟨member, after⟩))

theorem present_erase (order : StrictWeakOn lt keys) (keyIn : key ∈ keys) (askedIn : asked ∈ keys)
    (sorted : tree.Sorted lt keys) :
    Present lt asked (erase lt key tree).inorder ↔
      ¬Equivalent lt key asked ∧ Present lt asked tree.inorder := by
  rw [inorder_erase order keyIn sorted]
  constructor
  · rintro ⟨other, member, equivalent⟩
    have stored : other ∈ tree.inorder ∧ (lt other key = true ∨ lt key other = true) := by
      cases List.mem_append.mp member with
      | inl before => exact ⟨(List.mem_filter.mp before).1, .inl (List.mem_filter.mp before).2⟩
      | inr after => exact ⟨(List.mem_filter.mp after).1, .inr (List.mem_filter.mp after).2⟩
    refine ⟨fun same => ?_, other, stored.1, equivalent⟩
    have back := order.equivalent_trans (sorted.within other stored.1) askedIn keyIn equivalent
      ⟨same.2, same.1⟩
    cases stored.2 with
    | inl before => exact Bool.false_ne_true (back.1.symm.trans before)
    | inr after => exact Bool.false_ne_true (back.2.symm.trans after)
  · rintro ⟨different, other, member, equivalent⟩
    refine ⟨other, ?_, equivalent⟩
    by_contra gone
    rw [List.mem_append, not_or] at gone
    have alike : Equivalent lt key other := by
      constructor
      · by_contra after
        exact gone.2 (List.mem_filter.mpr ⟨member, (Bool.not_eq_false _).mp after⟩)
      · by_contra before
        exact gone.1 (List.mem_filter.mpr ⟨member, (Bool.not_eq_false _).mp before⟩)
    exact different
      (order.equivalent_trans keyIn (sorted.within other member) askedIn alike equivalent)

end Membership

/-- The lower bound is the first key that is not before `key`. -/
theorem lowerBound_eq (order : StrictWeakOn lt keys) (keyIn : key ∈ keys)
    (sorted : tree.Sorted lt keys) (candidate : Option α) :
    lowerBound lt key tree candidate =
      (tree.inorder.find? fun stored => !lt stored key).or candidate := by
  induction tree generalizing candidate with
  | leaf => rfl
  | node left here right leftHypothesis rightHypothesis =>
      have parts := sorted.node
      rw [lowerBound, inorder_node, List.find?_append]
      cases first : lt here key with
      | true =>
          have before := parts.left_before order keyIn
            (order.asymm here parts.within key keyIn first)
          have passed : (left.inorder.find? fun stored => !lt stored key) = none := by
            apply List.find?_eq_none.mpr
            intro stored member
            rw [before stored member]
            exact Bool.false_ne_true
          rw [if_pos rfl, rightHypothesis parts.sortedRight, passed, Option.none_or,
            List.find?_cons_of_neg (by rw [first]; exact Bool.false_ne_true)]
      | false =>
          rw [if_neg Bool.false_ne_true, leftHypothesis parts.sortedLeft,
            List.find?_cons_of_pos (by rw [first]; rfl), Option.or_assoc, Option.some_or]

/-- `find` finds what is there. -/
theorem find_isSome_iff (order : StrictWeakOn lt keys) (keyIn : key ∈ keys)
    (sorted : tree.Sorted lt keys) :
    (find lt key tree).isSome = true ↔ Present lt key tree.inorder := by
  rw [find, lowerBound_eq order keyIn sorted, Option.or_none]
  cases searched : tree.inorder.find? fun stored => !lt stored key with
  | none =>
      refine iff_of_false Bool.false_ne_true (not_present_iff.mpr fun other member => .inl ?_)
      have passed := List.find?_eq_none.mp searched other member
      rw [Bool.not_eq_true', Bool.not_eq_false] at passed
      exact passed
  | some found =>
      obtain ⟨holds, earlier, later, split, passed⟩ := List.find?_eq_some_iff_append.mp searched
      rw [Bool.not_eq_true'] at holds
      have member : found ∈ tree.inorder := List.mem_of_find?_eq_some searched
      show (if lt key found then none else some found).isSome = true ↔ _
      cases after : lt key found with
      | false =>
          rw [if_neg Bool.false_ne_true]
          exact iff_of_true rfl ⟨found, member, holds, after⟩
      | true =>
          rw [if_pos rfl]
          refine iff_of_false Bool.false_ne_true (not_present_iff.mpr fun other inside => ?_)
          have ordered := sorted.ordered
          rw [split] at inside ordered
          cases List.mem_append.mp inside with
          | inl before =>
              have skipped := passed other before
              rw [Bool.not_not] at skipped
              exact .inl skipped
          | inr rest =>
              cases List.mem_cons.mp rest with
              | inl same =>
                  rw [same]
                  exact .inr after
              | inr behind =>
                  have next := (List.pairwise_cons.mp (List.pairwise_append.mp ordered).2.1).1
                  have otherIn := sorted.within other (split ▸ inside)
                  exact .inr (order.trans keyIn (sorted.within found member) otherIn after
                    (next other behind))

/-- A key that comes after all others is put at the end. -/
theorem inorder_insert_last (order : StrictWeakOn lt keys) (keyIn : key ∈ keys)
    (sorted : tree.Sorted lt keys) (last : ∀ stored ∈ tree.inorder, lt stored key = true) :
    (insert lt key tree).inorder = tree.inorder ++ [key] := by
  have absent : ¬Present lt key tree.inorder :=
    not_present_iff.mpr fun other member => .inl (last other member)
  have no : keysAbove lt key tree.inorder = [] :=
    keysAbove_of_none fun other member =>
      order.asymm other (sorted.within other member) key keyIn (last other member)
  rw [inorder_insert_of_absent order keyIn sorted absent, keysBelow_of_all last, no]

end SearchTree

end OpenairSpgwc.Foundation
