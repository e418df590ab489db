import OpenairSpgwc.Foundation.Classes
import OpenairSpgwc.Foundation.Writing

/-!
Contract: containers of core values, and the tables by which they become elements
and elements become containers.

A container has a list of values for each member; a member that holds at most one
value has a list that is empty or has one. A constructor goes through the rows of
its table and adds an element for each value of the member of the row. The other
way, each element is put into the member that the container has for its class and
instance, and a group first becomes a container of its own.

Owns:
- `build` by rows, and `readAll` by entries;
- `source` and `rename`: the members of a group under the names of a message.

Does not own: the order of the elements, and which containers come back.
-/

namespace OpenairSpgwc.Foundation

/-! ## Values -/

inductive Value (Member Core : Type) where
  | leaf (core : Core)
  | group (fields : Member → List (Value Member Core))

abbrev Container (Member Core : Type) := Member → List (Value Member Core)

namespace Value

variable {Member Core : Type}

mutual

/-- The value as far as `view` shows what is in it. -/
def view (show' : Core → Core) : Value Member Core → Value Member Core
  | .leaf core => .leaf (show' core)
  | .group fields => .group fun member => viewAll show' (fields member)

def viewAll (show' : Core → Core) : List (Value Member Core) → List (Value Member Core)
  | [] => []
  | value :: values => view show' value :: viewAll show' values

end

mutual

theorem view_id : ∀ value : Value Member Core, view id value = value
  | .leaf _ => rfl
  | .group fields => by
      rw [view]
      exact congrArg Value.group (funext fun member => viewAll_id (fields member))

theorem viewAll_id : ∀ values : List (Value Member Core), viewAll id values = values
  | [] => rfl
  | value :: values => by rw [viewAll, view_id value, viewAll_id values]

end

theorem viewAll_append (show' : Core → Core) (first second : List (Value Member Core)) :
    viewAll show' (first ++ second) = viewAll show' first ++ viewAll show' second := by
  induction first with
  | nil => rfl
  | cons value values inductionHypothesis =>
      rw [List.cons_append, viewAll, inductionHypothesis, viewAll, List.cons_append]

end Value

/-- The container as far as `view` shows what is in it. -/
def Container.view {Member Core : Type} (view : Core → Core) (container : Container Member Core) :
    Container Member Core := fun member => Value.viewAll view (container member)

/-! ## Tables -/

/-- What a constructor adds for a member. -/
inductive Row (Member Kind : Type) where
  | leaf (member : Member) (kind : Kind) (info : Nat)
  | group (member : Member) (type info : Nat) (rows : List (Row Member Kind))

def Row.member {Member Kind : Type} : Row Member Kind → Member
  | .leaf member _ _ => member
  | .group member _ _ _ => member

/-- What a container tells elements apart by, besides the instance. -/
inductive Key (Kind : Type) where
  | leaf (kind : Kind)
  | group (type : Nat)
deriving DecidableEq

/-- A `set` of a container: the member for a class, with one instance or any. A group
can be taken over member by member under other names. An exception for another instance
names the type of the class, or the one in `named`. -/
structure Entry (Member Kind : Type) where
  key : Key Kind
  info : Option Nat := none
  member : Member
  repeated : Bool := false
  renamed : Option (List (Member × Member)) := none
  named : Option Nat := none

/-- What becomes of a group: a container with its entries, or a call that calls
itself for ever. -/
inductive Inner (Member Kind : Type) where
  | own (entries : List (Entry Member Kind))
  | endless

/-- The member of the group that a member is taken from. -/
def source {Member : Type} [DecidableEq Member] (renamed : Option (List (Member × Member)))
    (member : Member) : Option Member :=
  match renamed with
  | none => some member
  | some pairs => pairs.lookup member

/-! ## Constructors -/

/-- The results of a function on a list, unless there is none for some element. -/
def traverse {ε α β : Type} (f : α → Except ε β) : List α → Except ε (List β)
  | [] => .ok []
  | first :: rest =>
      match f first with
      | .error reason => .error reason
      | .ok value =>
          match traverse f rest with
          | .error reason => .error reason
          | .ok values => .ok (value :: values)

theorem traverse_cons {ε α β : Type} {f : α → Except ε β} {first : α} {rest : List α}
    {results : List β} (done : traverse f (first :: rest) = .ok results) :
    ∃ value values, f first = .ok value ∧ traverse f rest = .ok values ∧
      results = value :: values := by
  rw [traverse] at done
  cases one : f first with
  | error reason =>
      rw [one] at done
      cases done
  | ok value =>
      rw [one] at done
      cases more : traverse f rest with
      | error reason =>
          simp only [more] at done
          cases done
      | ok values =>
          simp only [more] at done
          cases done
          exact ⟨value, values, rfl, rfl, rfl⟩

section Tables

variable {ε Member : Type} (catalogue : Catalogue ε) [DecidableEq catalogue.Kind]

/-- The element that a class makes of a core value. -/
def construct (junk : Junk) (kind : catalogue.Kind) (info : Nat) :
    Value Member catalogue.Datum → Except (Fault ε) (Element catalogue.Object)
  | .leaf datum =>
      if datum.1 = kind then
        match (catalogue.cls datum.1).construct junk datum.2 with
        | .error reason => .error reason
        | .ok (length, fields) =>
            .ok (.leaf ⟨catalogue.code datum.1, length, info⟩ ⟨datum.1, fields⟩)
      else
        .error .undefined
  | .group _ => .error .undefined

mutual

def build (junk : Junk) : Row Member catalogue.Kind → Container Member catalogue.Datum →
    Except (Fault ε) (List (Element catalogue.Object))
  | .leaf member kind info, container =>
      traverse (construct catalogue junk kind info) (container member)
  | .group member type info rows, container =>
      traverse (fun value => match value with
        | .group fields =>
            match buildAll junk rows fields with
            | .error reason => .error reason
            | .ok elements => .ok (.group ⟨type, addedLength 0 elements, info⟩ elements)
        | .leaf _ => .error .undefined) (container member)

/-- The elements of a constructor, in the order of its rows. -/
def buildAll (junk : Junk) : List (Row Member catalogue.Kind) → Container Member catalogue.Datum →
    Except (Fault ε) (List (Element catalogue.Object))
  | [], _ => .ok []
  | row :: rows, container =>
      match build junk row container with
      | .error reason => .error reason
      | .ok elements =>
          match buildAll junk rows container with
          | .error reason => .error reason
          | .ok more => .ok (elements ++ more)

end

/-! ## To a container -/

variable {catalogue} [DecidableEq Member]

/-- How containers of a protocol take elements over. -/
structure Reading (catalogue : Catalogue ε) (Member : Type) where
  inner : Nat → Inner Member catalogue.Kind
  /-- The exception for an element; there can be an entry for another instance. -/
  refused : Key catalogue.Kind → Nat → Option (Entry Member catalogue.Kind) → ε

def findEntry (entries : List (Entry Member catalogue.Kind)) (key : Key catalogue.Kind)
    (info : Nat) : Option (Entry Member catalogue.Kind) :=
  entries.find? fun entry =>
    decide (entry.key = key) && (decide (entry.info = none) || decide (entry.info = some info))

def put (container : Container Member catalogue.Datum) (entry : Entry Member catalogue.Kind)
    (value : Value Member catalogue.Datum) : Container Member catalogue.Datum :=
  Function.update container entry.member
    (if entry.repeated then container entry.member ++ [value] else [value])

def rename (renamed : Option (List (Member × Member)))
    (container : Container Member catalogue.Datum) : Container Member catalogue.Datum :=
  fun member => match source renamed member with
    | none => []
    | some own => container own

variable (reading : Reading catalogue Member)

/-- The entry for an element, or the exception. -/
def slot (entries : List (Entry Member catalogue.Kind)) (key : Key catalogue.Kind) (info : Nat) :
    Except (Fault ε) (Entry Member catalogue.Kind) :=
  match findEntry entries key info with
  | some entry => .ok entry
  | none => .error (.thrown (reading.refused key info (entries.find? (decide <| ·.key = key))))

mutual

/-- What `to_core_type` of an element sets, and where. -/
def readElement (junk : Junk) (entries : List (Entry Member catalogue.Kind)) :
    Element catalogue.Object →
      Except (Fault ε) (Entry Member catalogue.Kind × Value Member catalogue.Datum)
  | .leaf tlv object =>
      match (catalogue.cls object.1).toCore junk object.2 with
      | .error reason => .error reason
      | .ok core =>
          match slot reading entries (.leaf object.1) tlv.info with
          | .error reason => .error reason
          | .ok entry => .ok (entry, .leaf ⟨object.1, core⟩)
  | .group tlv elements =>
      match reading.inner tlv.type with
      | .endless => .error .diverges
      | .own inside =>
          match readAll junk inside elements (fun _ => []) with
          | .error reason => .error reason
          | .ok fields =>
              match slot reading entries (.group tlv.type) tlv.info with
              | .error reason => .error reason
              | .ok entry => .ok (entry, .group (rename entry.renamed fields))

/-- `to_core_type` of elements one after the other. -/
def readAll (junk : Junk) (entries : List (Entry Member catalogue.Kind)) :
    List (Element catalogue.Object) → Container Member catalogue.Datum →
      Except (Fault ε) (Container Member catalogue.Datum)
  | [], container => .ok container
  | element :: elements, container =>
      match readElement junk entries element with
      | .error reason => .error reason
      | .ok (entry, value) => readAll junk entries elements (put container entry value)

end

end Tables

end OpenairSpgwc.Foundation
