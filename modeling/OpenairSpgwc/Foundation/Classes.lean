import OpenairSpgwc.Foundation.Framing

/-!
Contract: classes of elements.

A class makes an object from a value of its core type, writes the object, reads an
object from a stream and gives the core value back. A catalogue has the classes of
a protocol, each with the type that its constructor gives, and the class that is
made of an element of a given type.

Owns:
- `Takes`: a computation that takes a number of octets, whatever they are;
- the laws of a class, each relative to a condition on the core value or on the
  value of an element, and the protocol of a catalogue with the laws of its classes;
- the class of an integer with a fixed number of octets.
-/

namespace OpenairSpgwc.Foundation

/-! ## Computations that take a number of octets -/

section Takes

variable {ε α β : Type} {scan : Junk → Scan ε α} {n m : Nat}

/-- The computation takes the octets and gives a value that comes from them. -/
def Takes (scan : Junk → Scan ε α) (n : Nat) : Prop :=
  ∀ octets : Octets, octets.length = n → ∃ value, ∀ junk, Reads (scan junk) octets value

theorem Takes.pure (value : α) : Takes (fun _ => (Pure.pure value : Scan ε α)) 0 := by
  intro octets size
  rw [List.length_eq_zero_iff] at size
  rw [size]
  exact ⟨value, fun _ => .pure value⟩

theorem Takes.bind {next : α → Junk → Scan ε β} (first : Takes scan n)
    (second : ∀ value, Takes (next value) m) :
    Takes (fun junk => scan junk >>= fun value => next value junk) (n + m) := by
  intro octets size
  have before : (octets.take n).length = n := by
    rw [List.length_take]
    omega
  have after : (octets.drop n).length = m := by
    rw [List.length_drop]
    omega
  obtain ⟨value, reads⟩ := first (octets.take n) before
  obtain ⟨result, more⟩ := second value (octets.drop n) after
  refine ⟨result, fun junk => ?_⟩
  rw [← List.take_append_drop n octets]
  exact (reads junk).bind (more junk)

theorem Takes.finish {f : α → β} (first : Takes scan n) :
    Takes (fun junk => scan junk >>= fun value => Pure.pure (f value)) n := by
  intro octets size
  obtain ⟨value, reads⟩ := first octets size
  exact ⟨f value, fun junk => (reads junk).finish⟩

theorem Takes.read {memory : Junk → Octets} (size : ∀ junk, (memory junk).length = n) :
    Takes (fun junk => (Scan.read (memory junk) : Scan ε Octets)) n :=
  fun octets same => ⟨octets, fun junk => .read (same.trans (size junk).symm)⟩

theorem Takes.into {memory : Junk → Octets} {w : Nat}
    (size : ∀ junk, (memory junk).length = n) :
    Takes (fun junk => (Scan.into (memory junk) w : Scan ε (BitVec w))) n :=
  (Takes.read size).finish

theorem Takes.number (n w : Nat) : Takes (fun _ => (Scan.number n w : Scan ε (BitVec w))) n :=
  .into fun _ => List.length_replicate

theorem Takes.octet : Takes (fun _ => (Scan.octet : Scan ε Octet)) 1 := .number 1 8

/-- A field that is there when a flag is set. -/
theorem Takes.optional {flag : Bool} {absent : α} (first : Takes scan n) :
    Takes (fun junk => Scan.optional flag (scan junk) absent) (declaredFor flag n) := by
  cases flag with
  | false => exact .pure absent
  | true => exact first

/-- A number of octets is taken along any string. -/
theorem Takes.along (takes : Takes scan n) (value : Octets) :
    Protocol.TakesAlong scan value n := by
  have enough : ((value ++ List.replicate n 0).take n).length = n := by
    rw [List.length_take, List.length_append, List.length_replicate]
    omega
  obtain ⟨result, reads⟩ := takes _ enough
  refine ⟨_, result, enough, ?_, reads⟩
  by_cases inside : n ≤ value.length
  · rw [List.take_append_of_le_length inside]
    exact .inl (List.take_prefix n value)
  · rw [List.take_append, List.take_of_length_le (by omega)]
    exact .inr (List.prefix_append value _)

/-- What is taken after a first part of the string. -/
theorem along_bind {next : α → Junk → Scan ε β} {octets rest : Octets} {value : α}
    (first : ∀ junk, Reads (scan junk) octets value)
    (second : Protocol.TakesAlong (next value) rest m) :
    Protocol.TakesAlong (fun junk => scan junk >>= fun value => next value junk) (octets ++ rest)
      (octets.length + m) := by
  obtain ⟨more, result, size, order, reads⟩ := second
  refine ⟨octets ++ more, result, by rw [List.length_append, size], ?_,
    fun junk => (first junk).bind (reads junk)⟩
  rcases order with less | longer
  · exact .inl ((List.prefix_append_right_inj octets).mpr less)
  · exact .inr ((List.prefix_append_right_inj octets).mpr longer)

theorem along_finish {f : α → β} {octets : Octets} (along : Protocol.TakesAlong scan octets n) :
    Protocol.TakesAlong (fun junk => scan junk >>= fun value => Pure.pure (f value)) octets n := by
  obtain ⟨more, result, size, order, reads⟩ := along
  exact ⟨more, f result, size, order, fun junk => (reads junk).finish⟩

end Takes

/-! ## Classes -/

/-- A class of elements. Writing gives the octets, the declared length and what is
left in the object. -/
structure ElementClass (ε Core Fields : Type) where
  construct : Junk → Core → Except (Fault ε) (Nat × Fields)
  write : Junk → Nat → Fields → Except (Fault ε) (Octets × Nat × Fields)
  load : Junk → Tlv → Scan ε Fields
  toCore : Junk → Fields → Except (Fault ε) Core

namespace ElementClass

variable {ε Core Fields : Type} (cls : ElementClass ε Core Fields)

/-- The object writes as many octets as it declares. -/
def WritesDeclared (length : Nat) (fields : Fields) : Prop :=
  ∀ junk, ∃ value fields', cls.write junk length fields = .ok (value, length, fields') ∧
    value.length = length

/-- The core values whose objects write as many octets as they declare. -/
def Exact (exact : Core → Prop) : Prop :=
  ∀ junk core length fields, cls.construct junk core = .ok (length, fields) →
    (cls.WritesDeclared length fields ↔ exact core)

/-- After the first writing, each writing gives the same. -/
def Repeats (length : Nat) (fields : Fields) : Prop :=
  ∀ junk value length' left, cls.write junk length fields = .ok (value, length', left) →
    ∀ junk, cls.write junk length' left = .ok (value, length', left)

/-- Every writing gives as many octets as the one before. -/
def KeepsSize (length : Nat) (fields : Fields) : Prop :=
  ∀ junk value length' left, cls.write junk length fields = .ok (value, length', left) →
    ∀ junk value' length'' left', cls.write junk length' left = .ok (value', length'', left') →
      value'.length = value.length

/-- With this memory the second writing shows something else. -/
def Differs (first second : Junk) (length : Nat) (fields : Fields) : Prop :=
  ∀ value length' left, cls.write first length fields = .ok (value, length', left) →
    ∀ value' length'' left', cls.write second length' left = .ok (value', length'', left') →
      value' ≠ value ∨ length'' % 2 ^ 16 ≠ length' % 2 ^ 16

/-- What becomes of core values: the length that is declared for them, the ones that write as
much, the ones that can be written, and the ones that are written the same again and again. -/
structure Written (size : Core → Nat) (exact writable steady : Core → Prop) : Prop where
  size : ∀ junk core length fields, cls.construct junk core = .ok (length, fields) →
    length = size core
  exact : cls.Exact exact
  writes : ∀ junk core length fields, cls.construct junk core = .ok (length, fields) →
    ((∀ junk, ∃ result, cls.write junk length fields = .ok result) ↔ writable core)
  repeats : ∀ junk core length fields, cls.construct junk core = .ok (length, fields) →
    steady core → cls.Repeats length fields
  keepsSize : ∀ junk core length fields, cls.construct junk core = .ok (length, fields) →
    cls.KeepsSize length fields
  differs : ∀ junk core length fields, cls.construct junk core = .ok (length, fields) →
    ¬ steady core → writable core ∧ ∃ first second, cls.Differs first second length fields

/-- What the class does with a value is what `extent` says. -/
structure Measured (extent : Tlv → Octets → Protocol.Extent) : Prop where
  takes : ∀ tlv value n, tlv.length ≠ 0 → value.length = tlv.length →
    extent tlv value = .takes n → Protocol.TakesAlong (fun junk => cls.load junk tlv) value n
  raises : ∀ tlv value, tlv.length ≠ 0 → value.length = tlv.length → extent tlv value = .raises →
    ∀ junk, Raises (cls.load junk tlv) value
  fails : ∀ tlv value taken fields, tlv.length ≠ 0 → value.length = tlv.length →
    extent tlv value = .fails → taken <+: value → ¬ ∀ junk, Reads (cls.load junk tlv) taken fields

def Safe : Prop := ∀ junk tlv, (cls.load junk tlv).Safe

/-- Reading goes on for ever only before octets of which `stuck` says so. -/
def SafeUnless (stuck : Junk → Tlv → Octets → Prop) : Prop :=
  ∀ junk tlv stream, stream.Sound → (cls.load junk tlv).SafeAt (stuck junk tlv) stream

/-- The core value is read as it was written, as far as `view` shows it. -/
def RoundTrips (view : Core → Core) (type info : Nat) (core : Core) : Prop :=
  ∀ junk, ∃ length fields, cls.construct junk core = .ok (length, fields) ∧
    length ≠ 0 ∧ length < 2 ^ 16 ∧
    ∀ junk, ∃ value fields', cls.write junk length fields = .ok (value, length, fields') ∧
      ∃ object, (∀ junk, Reads (cls.load junk ⟨type, length, info⟩) value object) ∧
        ∀ junk, ∃ core', cls.toCore junk object = .ok core' ∧ view core' = view core

variable {cls}

theorem writesDeclared_iff {length length' : Nat} {fields : Fields} {value : Octets}
    (writes : ∀ junk, ∃ left, cls.write junk length fields = .ok (value, length', left)) :
    cls.WritesDeclared length fields ↔ length' = length ∧ value.length = length := by
  constructor
  · intro declared
    obtain ⟨left, written⟩ := writes fun _ => 0
    obtain ⟨value', left', again, size⟩ := declared fun _ => 0
    rw [written] at again
    cases again
    exact ⟨rfl, size⟩
  · rintro ⟨rfl, size⟩ junk
    obtain ⟨left, written⟩ := writes junk
    exact ⟨value, left, written, size⟩

/-- A writing that leaves the object as it was. -/
theorem repeats_of_unchanged {length : Nat} {fields : Fields} {value : Octets}
    (writes : ∀ junk, cls.write junk length fields = .ok (value, length, fields)) :
    cls.Repeats length fields ∧ cls.KeepsSize length fields := by
  constructor
  · intro junk value' length' left written again
    rw [writes] at written
    cases written
    exact writes again
  · intro junk value' length' left written again value'' length'' left' rewritten
    rw [writes] at written
    cases written
    rw [writes] at rewritten
    cases rewritten
    rfl

/-- A class that writes the same whatever is in memory, and leaves the object as it was. -/
theorem written_of_unchanged {size : Core → Nat} {exact : Core → Prop}
    (writes : ∀ junk core length fields, cls.construct junk core = .ok (length, fields) →
      length = size core ∧ ∃ octets : Octets, (octets.length = length ↔ exact core) ∧
        ∀ junk, cls.write junk length fields = .ok (octets, length, fields)) :
    cls.Written size exact (fun _ => True) fun _ => True where
  size junk core length fields made := (writes junk core length fields made).1
  exact junk core length fields made := by
    obtain ⟨-, octets, declared, written⟩ := writes junk core length fields made
    rw [writesDeclared_iff fun junk => ⟨fields, written junk⟩, ← declared]
    exact and_iff_right rfl
  writes junk core length fields made := by
    obtain ⟨-, octets, -, written⟩ := writes junk core length fields made
    exact iff_of_true (fun again => ⟨_, written again⟩) trivial
  repeats junk core length fields made _ := by
    obtain ⟨-, octets, -, written⟩ := writes junk core length fields made
    exact (repeats_of_unchanged written).1
  keepsSize junk core length fields made := by
    obtain ⟨-, octets, -, written⟩ := writes junk core length fields made
    exact (repeats_of_unchanged written).2
  differs _ _ _ _ _ changes := absurd trivial changes

theorem roundTrips_of_reads {type info length : Nat} {core : Core} {octets : Octets}
    {object : Fields}
    (constructs : ∀ junk, ∃ fields, cls.construct junk core = .ok (length, fields) ∧
      ∀ junk, ∃ left, cls.write junk length fields = .ok (octets, length, left))
    (some : length ≠ 0) (small : length < 2 ^ 16)
    (reads : ∀ junk, Reads (cls.load junk ⟨type, length, info⟩) octets object)
    (back : ∀ junk, cls.toCore junk object = .ok core) : cls.RoundTrips id type info core := by
  intro junk
  obtain ⟨fields, constructed, writes⟩ := constructs junk
  refine ⟨length, fields, constructed, some, small, fun junk => ?_⟩
  obtain ⟨left, written⟩ := writes junk
  exact ⟨octets, left, written, object, reads, fun junk => ⟨core, back junk, rfl⟩⟩

theorem measured_of_takes {n : Tlv → Nat}
    (takes : ∀ tlv, Takes (fun junk => cls.load junk tlv) (n tlv)) :
    cls.Measured fun tlv _ => .takes (n tlv) where
  takes tlv value m _ _ shown := by
    cases shown
    exact (takes tlv).along value
  raises _ _ _ _ shown := by cases shown
  fails _ _ _ _ _ _ shown := by cases shown

/-! ### Classes that look at their first octet -/

/-- What the rest of a class does, whatever the octets. -/
inductive Follows : (Junk → Scan ε Fields) → Protocol.Extent → Prop where
  | takes {scan : Junk → Scan ε Fields} {n : Nat} (takes : Takes scan n) : Follows scan (.takes n)
  | raises {scan : Junk → Scan ε Fields}
      (raises : ∀ junk stream, ∃ exception, scan junk stream = .error (.thrown exception)) :
      Follows scan .raises
  | fails {scan : Junk → Scan ε Fields}
      (fails : ∀ junk stream, ∃ reason, scan junk stream = .error reason) : Follows scan .fails

/-- The extent with the octets before it. -/
def afterOctets (n : Nat) : Protocol.Extent → Protocol.Extent
  | .takes m => .takes (n + m)
  | .raises => .raises
  | .fails => .fails

/-- A class that reads an octet and decides by it and by the declared length what to do. -/
theorem measured_of_first {memory : Junk → Octets} (next : Octet → Tlv → Junk → Scan ε Fields)
    {extent : Octet → Tlv → Protocol.Extent}
    (loads : ∀ junk tlv,
      cls.load junk tlv = Scan.into (memory junk) 8 >>= fun u1 => next u1 tlv junk)
    (size : ∀ junk, (memory junk).length = 1)
    (follows : ∀ u1 tlv, Follows (next u1 tlv) (extent u1 tlv)) :
    cls.Measured fun tlv value => afterOctets 1 (extent (value.headD 0) tlv) := by
  have first : ∀ {tlv : Tlv} {value : Octets}, tlv.length ≠ 0 → value.length = tlv.length →
      ∃ u1 rest, value = u1 :: rest := by
    intro tlv value some' same
    cases value with
    | nil => exact absurd same.symm some'
    | cons u1 rest => exact ⟨u1, rest, rfl⟩
  have reads : ∀ (u1 : Octet) junk, Reads (Scan.into (memory junk) 8 : Scan ε Octet) [u1] u1 :=
    fun u1 junk => .intoOctet (size junk) u1
  refine ⟨fun tlv value n some' same shown => ?_, fun tlv value some' same shown junk => ?_,
    fun tlv value taken fields some' same shown inside reads' => ?_⟩
  · obtain ⟨u1, rest, rfl⟩ := first some' same
    change afterOctets 1 (extent u1 tlv) = .takes n at shown
    have after := follows u1 tlv
    simp only [loads]
    cases known : extent u1 tlv with
    | raises | fails =>
        rw [known] at shown
        cases shown
    | takes m =>
        rw [known] at shown after
        cases shown
        cases after with
        | takes takes => exact along_bind (reads u1) (takes.along rest)
  · obtain ⟨u1, rest, rfl⟩ := first some' same
    change afterOctets 1 (extent u1 tlv) = .raises at shown
    have after := follows u1 tlv
    rw [loads]
    cases known : extent u1 tlv with
    | takes m | fails =>
        rw [known] at shown
        cases shown
    | raises =>
        rw [known] at after
        cases after with
        | raises raises => exact (reads u1 junk).bind_raises fun tail => raises junk _
  · obtain ⟨u1, rest, rfl⟩ := first some' same
    change afterOctets 1 (extent u1 tlv) = .fails at shown
    have after := follows u1 tlv
    obtain ⟨tail, split⟩ := inside
    have ran := reads' (fun _ => 0) tail
    rw [split, loads, scan_bind, ← List.singleton_append, reads u1 _ rest] at ran
    cases known : extent u1 tlv with
    | takes m | raises =>
        rw [known] at shown
        cases shown
    | fails =>
        rw [known] at after
        cases after with
        | fails fails =>
            obtain ⟨reason, failed⟩ := fails (fun _ => 0) ⟨rest, false⟩
            simp only [failed] at ran
            cases ran

theorem Safe.safeUnless (safe : cls.Safe) (stuck : Junk → Tlv → Octets → Prop) :
    cls.SafeUnless stuck :=
  fun junk tlv stream sound => (safe junk tlv stream sound).weaken

theorem safe_of_first {memory : Junk → Octets} (next : Octet → Tlv → Junk → Scan ε Fields)
    (loads : ∀ junk tlv,
      cls.load junk tlv = Scan.into (memory junk) 8 >>= fun u1 => next u1 tlv junk)
    (safe : ∀ u1 tlv junk, (next u1 tlv junk).Safe) : cls.Safe := by
  intro junk tlv
  rw [loads]
  exact (Scan.safe_into _ 8).bind fun u1 => safe u1 tlv junk

end ElementClass

/-! ## Catalogues -/

/-- The classes of a protocol. -/
structure Catalogue (ε : Type) where
  Kind : Type
  Core : Kind → Type
  Fields : Kind → Type
  cls : (kind : Kind) → ElementClass ε (Core kind) (Fields kind)
  /-- The type that the constructor from the core type gives. -/
  code : Kind → Nat
  /-- The class that is made of an element of the type. -/
  dispatch : Nat → Option Kind
  grouped : Nat → Bool
  header : Tlv → Octets
  readHeader : Scan ε Tlv
  badLength : Tlv → Fault ε

namespace Catalogue

variable {ε : Type} (catalogue : Catalogue ε)

abbrev Object := (kind : catalogue.Kind) × catalogue.Fields kind

/-- A value of a core type. -/
abbrev Datum := (kind : catalogue.Kind) × catalogue.Core kind

def shape (type : Nat) : Option Shape :=
  if catalogue.grouped type then some .group else (catalogue.dispatch type).map fun _ => .leaf

def load (junk : Junk) (tlv : Tlv) : Scan ε catalogue.Object :=
  match catalogue.dispatch tlv.type with
  | some kind => do
      let fields ← (catalogue.cls kind).load junk tlv
      pure ⟨kind, fields⟩
  | none => Scan.fault .undefined

def write (junk : Junk) (length : Nat) (object : catalogue.Object) :
    Except (Fault ε) (Octets × Nat × catalogue.Object) :=
  match (catalogue.cls object.1).write junk length object.2 with
  | .ok (value, length, fields) => .ok (value, length, ⟨object.1, fields⟩)
  | .error reason => .error reason

def protocol : Protocol ε catalogue.Object where
  header := catalogue.header
  readHeader := catalogue.readHeader
  shape := catalogue.shape
  load := catalogue.load
  write := catalogue.write
  badLength := catalogue.badLength

/-- The header of an element is read as it was written. -/
def HeaderReads (types : Nat) : Prop :=
  ∀ tlv : Tlv, tlv.type < types → tlv.length < 2 ^ 16 → tlv.info < 16 →
    Reads catalogue.readHeader (catalogue.header tlv) tlv ∧
      (catalogue.header tlv).length = tlvSize

variable {catalogue}

theorem shape_leaf {type : Nat} (leaf : catalogue.shape type = some .leaf) :
    ∃ kind, catalogue.dispatch type = some kind := by
  unfold shape at leaf
  split at leaf
  · cases leaf
  · cases found : catalogue.dispatch type with
    | none =>
        rw [found] at leaf
        cases leaf
    | some kind => exact ⟨kind, rfl⟩

theorem load_of_dispatch {junk : Junk} {tlv : Tlv} {kind : catalogue.Kind}
    (found : catalogue.dispatch tlv.type = some kind) :
    catalogue.load junk tlv =
      (catalogue.cls kind).load junk tlv >>= fun fields => pure ⟨kind, fields⟩ := by
  unfold load
  rw [found]

/-- What has been read before a result is put together. -/
theorem reads_of_finish {α β : Type} {scan : Scan ε α} {f : α → β} (injective : f.Injective)
    {octets : Octets} {result : β}
    (reads : Reads (scan >>= fun value => pure (f value)) octets result) :
    ∃ value, Reads scan octets value ∧ f value = result := by
  have inner : ∀ tail, ∃ value, scan ⟨octets ++ tail, false⟩ = .ok (value, ⟨tail, false⟩) ∧
      f value = result := by
    intro tail
    have ran := reads tail
    rw [scan_bind] at ran
    cases first : scan ⟨octets ++ tail, false⟩ with
    | error reason =>
        rw [first] at ran
        cases ran
    | ok found =>
        rw [first] at ran
        obtain ⟨value, after⟩ := found
        cases ran
        exact ⟨value, rfl, rfl⟩
  obtain ⟨value, -, same⟩ := inner []
  refine ⟨value, fun tail => ?_, same⟩
  obtain ⟨other, ran, again⟩ := inner tail
  rw [ran, injective (again.trans same.symm)]

/-- What the class for the type does with a value. -/
def extent (extents : (kind : catalogue.Kind) → Tlv → Octets → Protocol.Extent) (tlv : Tlv)
    (value : Octets) : Protocol.Extent :=
  match catalogue.dispatch tlv.type with
  | some kind => extents kind tlv value
  | none => .fails

theorem measures_of_measured
    {extents : (kind : catalogue.Kind) → Tlv → Octets → Protocol.Extent}
    (measured : ∀ kind, (catalogue.cls kind).Measured (extents kind)) :
    catalogue.protocol.Measures (extent extents) where
  takes tlv value n shape nonempty size shown := by
    obtain ⟨kind, found⟩ := shape_leaf shape
    rw [extent, found] at shown
    change Protocol.TakesAlong (fun junk => catalogue.load junk tlv) value n
    simp only [load_of_dispatch found]
    exact along_finish ((measured kind).takes tlv value n nonempty size shown)
  raises tlv value shape nonempty size shown := by
    obtain ⟨kind, found⟩ := shape_leaf shape
    rw [extent, found] at shown
    intro junk
    change Raises (catalogue.load junk tlv) value
    rw [load_of_dispatch found]
    exact ((measured kind).raises tlv value nonempty size shown junk).bind
  fails tlv value taken object shape nonempty size shown inside reads := by
    obtain ⟨kind, found⟩ := shape_leaf shape
    rw [extent, found] at shown
    change ∀ junk, Reads (catalogue.load junk tlv) taken object at reads
    simp only [load_of_dispatch found] at reads
    have injective : Function.Injective
        (fun fields => (⟨kind, fields⟩ : catalogue.Object)) := by
      intro first second same
      exact eq_of_heq (Sigma.mk.inj same).2
    obtain ⟨fields, -, made⟩ := reads_of_finish injective (reads fun _ => 0)
    refine (measured kind).fails tlv value taken fields nonempty size shown inside fun junk => ?_
    obtain ⟨other, inner, same⟩ := reads_of_finish injective (reads junk)
    rw [injective (made.trans same.symm)]
    exact inner

/-- The class that is made for the type goes on for ever. -/
def Stuck (stuck : catalogue.Kind → Junk → Tlv → Octets → Prop) (junk : Junk) (tlv : Tlv)
    (octets : Octets) : Prop :=
  ∃ kind, catalogue.dispatch tlv.type = some kind ∧ stuck kind junk tlv octets

theorem regular_of_safe {stuck : catalogue.Kind → Junk → Tlv → Octets → Prop}
    (header : catalogue.readHeader.Safe)
    (takes : ∀ stream tlv after, stream.Sound → catalogue.readHeader stream = .ok (tlv, after) →
      tlv.length ≠ 0 → after.rest.length < stream.rest.length)
    (badLength : ∀ tlv, catalogue.badLength tlv ≠ .exhausted ∧ catalogue.badLength tlv ≠ .diverges)
    (safe : ∀ kind, (catalogue.cls kind).SafeUnless (stuck kind)) :
    catalogue.protocol.Regular (catalogue.Stuck stuck) where
  header := header
  takes := takes
  badLength := badLength
  load junk tlv stream sound := by
    change (catalogue.load junk tlv).SafeAt _ stream
    unfold load
    split
    · next kind made =>
        exact ((safe kind junk tlv stream sound).then_safe fun _ => Scan.safe_pure _).mono
          fun endless => ⟨kind, made, endless⟩
    · exact (Scan.safe_fault (by simp) stream sound).weaken

end Catalogue

/-! ## Integers -/

namespace ElementClass

variable {ε : Type}

/-- An integer of `n` octets. The bits outside of the mask are left out; the declared
length is checked when `check` says so. Before reading, the object holds `memory`. -/
def integer {w : Nat} (n : Nat) (mask : BitVec w) (check : Option Nat) (memory : Junk → Octets)
    (badLength : Tlv → Fault ε) : ElementClass ε (BitVec w) (BitVec w) where
  construct _ core := .ok (n, core &&& mask)
  write _ length value := .ok (word n value, length, value)
  load junk tlv :=
    if check = none ∨ check = some tlv.length then Scan.into (memory junk) w
    else Scan.fault (badLength tlv)
  toCore _ value := .ok (value &&& mask)

variable {Core Fields : Type} {w n : Nat} {mask : BitVec w} {check : Option Nat}
  {memory : Junk → Octets} {badLength : Tlv → Fault ε} {accepts : Tlv → Prop}
  [DecidablePred accepts]

/-- What a class does that takes `n` octets when it accepts the length. -/
def checkedExtent (n : Nat) (accepts : Tlv → Prop) [DecidablePred accepts]
    (badLength : Tlv → Fault ε) (tlv : Tlv) : Protocol.Extent :=
  if accepts tlv then .takes n
  else match badLength tlv with
    | .thrown _ => .raises
    | _ => .fails

theorem not_reads_fault {α : Type} {reason : Fault ε} {octets : Octets} {value : α} :
    ¬ Reads (Scan.fault reason : Scan ε α) octets value := fun reads => by cases reads []

/-- A class that checks the length and takes a number of octets. -/
theorem measured_of_checked {cls : ElementClass ε Core Fields} {n : Tlv → Nat}
    (scan : Junk → Tlv → Scan ε Fields)
    (loads : ∀ junk tlv, cls.load junk tlv =
      if accepts tlv then scan junk tlv else Scan.fault (badLength tlv))
    (takes : ∀ tlv, accepts tlv → Takes (fun junk => scan junk tlv) (n tlv)) :
    cls.Measured fun tlv _ => checkedExtent (n tlv) accepts badLength tlv where
  takes tlv value m _ _ shown := by
    unfold checkedExtent at shown
    by_cases accepted : accepts tlv
    · rw [if_pos accepted] at shown
      cases shown
      simp only [loads, if_pos accepted]
      exact (takes tlv accepted).along value
    · rw [if_neg accepted] at shown
      split at shown <;> cases shown
  raises tlv value _ _ shown junk := by
    unfold checkedExtent at shown
    by_cases accepted : accepts tlv
    · rw [if_pos accepted] at shown
      cases shown
    · rw [if_neg accepted] at shown
      rw [loads, if_neg accepted]
      cases reason : badLength tlv with
      | thrown exception => exact .throw exception
      | undefined | diverges | exhausted =>
          rw [reason] at shown
          cases shown
  fails tlv value taken fields _ _ shown _ reads := by
    unfold checkedExtent at shown
    by_cases accepted : accepts tlv
    · rw [if_pos accepted] at shown
      cases shown
    · have ends := reads fun _ => 0
      rw [loads, if_neg accepted] at ends
      exact not_reads_fault ends

theorem safe_of_checked {cls : ElementClass ε Core Fields} (scan : Junk → Tlv → Scan ε Fields)
    (loads : ∀ junk tlv, cls.load junk tlv =
      if accepts tlv then scan junk tlv else Scan.fault (badLength tlv))
    (ends : ∀ tlv, badLength tlv ≠ .exhausted ∧ badLength tlv ≠ .diverges)
    (safe : ∀ junk tlv, (scan junk tlv).Safe) :
    cls.Safe := by
  intro junk tlv
  rw [loads]
  exact Scan.safe_ite (safe junk tlv) (Scan.safe_fault (ends tlv))

theorem integer_written : (integer n mask check memory badLength).Written (fun _ => n)
    (fun _ => True) (fun _ => True) fun _ => True :=
  written_of_unchanged fun _ _ _ _ made => by
    cases made
    exact ⟨rfl, _, iff_of_true (length_word n _) trivial, fun _ => rfl⟩

theorem integer_safe (ends : ∀ tlv, badLength tlv ≠ .exhausted ∧ badLength tlv ≠ .diverges) :
    (integer n mask check memory badLength).Safe :=
  safe_of_checked (fun junk _ => Scan.into (memory junk) w) (fun _ _ => rfl) ends
    fun junk _ => Scan.safe_into (memory junk) w

theorem integer_measured (size : ∀ junk, (memory junk).length = n) :
    (integer n mask check memory badLength).Measured fun tlv _ =>
      checkedExtent n (fun tlv => check = none ∨ check = some tlv.length) badLength tlv :=
  measured_of_checked (fun junk _ => Scan.into (memory junk) w) (fun _ _ => rfl)
    fun _ _ => .into size

theorem integer_roundTrips {type info : Nat} {core : BitVec w}
    (size : ∀ junk, (memory junk).length = n) (fits : w ≤ 8 * n) (some : n ≠ 0) (small : n < 2 ^ 16)
    (accepted : check = none ∨ check = Option.some n) (masked : core &&& mask = core) :
    (integer n mask check memory badLength).RoundTrips id type info core :=
  roundTrips_of_reads
    (fun _ => ⟨core, by simp only [integer, masked], fun _ => ⟨core, rfl⟩⟩) some small
    (fun junk => by
      simp only [integer, if_pos accepted]
      exact .into (size junk) fits _)
    fun _ => by simp only [integer, masked]

end ElementClass

end OpenairSpgwc.Foundation
