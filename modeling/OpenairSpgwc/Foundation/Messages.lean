import OpenairSpgwc.Foundation.Framing
import OpenairSpgwc.Foundation.RoundTrips

/-!
Contract: messages, a header with a declared length and a body of elements.

The body is read until the elements account for as many octets as the header leaves
over, in 16 bits.

Owns:
- reading a message, which always ends one way or the other;
- `Whole`, the strings that are a message by all their declared lengths;
- that reading raises an exception or accepts what lies in the string as declared,
  just when it raises an exception or the string is whole;
- that a message which is written from a carried container is read back.
-/

namespace OpenairSpgwc.Foundation

/-- The header of the messages of a protocol. -/
structure Envelope (ε Head : Type) where
  readHead : Junk → Scan ε Head
  writeHead : Head → Octets
  /-- The octets that the header takes. -/
  size : Head → Nat
  /-- The octets of the message, but for the first four. -/
  length : Head → Nat
  badLength : Head → ε

namespace Envelope

variable {ε Head Object : Type} (envelope : Envelope ε Head) (protocol : Protocol ε Object)

/-- What the header leaves over for the body, in 16 bits. -/
def remaining (head : Head) : Nat :=
  (2 ^ 16 + envelope.length head + 4 - envelope.size head) % 2 ^ 16

/-- `load_from` of a message, with a bound on the calls. -/
def loadWithin (junk : Junk) (fuel : Nat) : Scan ε (Head × List (Element Object)) := do
  let head ← envelope.readHead junk
  let (elements, total) ← protocol.loadBody junk fuel (envelope.remaining head) 0
  if total = envelope.remaining head then pure (head, elements)
  else Scan.throw (envelope.badLength head)

def load (junk : Junk) : Scan ε (Head × List (Element Object)) := fun stream =>
  envelope.loadWithin protocol junk (2 * stream.rest.length + 3) stream

/-- The header is as long as it says, and does not overflow its length. -/
structure Lawful (envelope : Envelope ε Head) : Prop where
  safe : ∀ junk, (envelope.readHead junk).Safe
  sized : ∀ first head, (∀ junk, Reads (envelope.readHead junk) first head) →
    first.length = envelope.size head
  length_lt : ∀ first head, (∀ junk, Reads (envelope.readHead junk) first head) →
    envelope.length head < 2 ^ 16
  long : ∀ head, 4 ≤ envelope.size head
  size_lt : ∀ head, envelope.size head < 2 ^ 16

/-- A header of which every string of `n` octets has one is as long as it says. -/
theorem sized_of_prefix {envelope : Envelope ε Head} {n : Nat}
    (starts : ∀ octets : Octets, n ≤ octets.length → ∃ first head, first <+: octets ∧
      first.length = envelope.size head ∧ ∀ junk, Reads (envelope.readHead junk) first head)
    {first : Octets} {head : Head} (reads : ∀ junk, Reads (envelope.readHead junk) first head) :
    first.length = envelope.size head := by
  obtain ⟨other, head', order, size, again⟩ := starts (first ++ List.replicate n 0) (by
    rw [List.length_append, List.length_replicate]
    exact Nat.le_add_left n _)
  have same : first.length = other.length := by
    rcases List.prefix_or_prefix_of_prefix (List.prefix_append first _) order with less | more
    · exact Protocol.length_eq_of_reads less (reads fun _ => 0) (again fun _ => 0)
    · exact (Protocol.length_eq_of_reads more (again fun _ => 0) (reads fun _ => 0)).symm
  have equal : first = other := by
    rcases List.prefix_or_prefix_of_prefix (List.prefix_append first _) order with less | more
    · exact less.eq_of_length same
    · exact (more.eq_of_length same.symm).symm
  have ran := again (fun _ => 0) []
  rw [← equal] at ran
  have heads := ((reads fun _ => 0).unique ran).1
  rw [same, size, heads]

/-! ## Strings -/

/-- No element starts there. -/
def Ends (rest : Octets) : Prop :=
  ∃ tlv after, protocol.readHeader ⟨rest, false⟩ = .ok (tlv, after) ∧
    (tlv.length = 0 ∨ protocol.shape tlv.type = none)

/-- The string starts with a header and has all the octets that the header declares;
they are elements by their declared lengths, at every level, and no element is read
after the header when none is declared. -/
def Whole (extent : Tlv → Octets → Protocol.Extent) (final : Bool) (octets : Octets) : Prop :=
  ∃ head first body rest, octets = first ++ body ++ rest ∧
    (∀ junk, Reads (envelope.readHead junk) first head) ∧
    first.length + body.length = 4 + envelope.length head ∧ protocol.Fits extent final body ∧
    (body = [] → Ends protocol rest)

/-- The message that is read lies in the string as declared, and nothing in it comes
from anywhere else. -/
def Accepted (final : Bool) (octets : Octets) : Prop :=
  ∃ head first body rest elements, octets = first ++ body ++ rest ∧
    (∀ junk, Reads (envelope.readHead junk) first head) ∧
    first.length + body.length = 4 + envelope.length head ∧ protocol.CutAll final body elements ∧
    ∀ junk, ∃ after, envelope.load protocol junk ⟨octets, false⟩ = .ok ((head, elements), after)

/-- An exception is raised. -/
def Rejected (octets : Octets) : Prop :=
  ∀ junk, ∃ exception, envelope.load protocol junk ⟨octets, false⟩ = .error (.thrown exception)

variable {envelope protocol} {octets : Octets} {head : Head} {first body rest : Octets}
  {elements : List (Element Object)}

/-- Reading a message is not cut off by the bound on calls, and goes on for ever only in the
class of an element. -/
theorem ends_of_regular {stuck : Junk → Tlv → Octets → Prop} (lawful : envelope.Lawful)
    (regular : protocol.Regular stuck) (junk : Junk) (octets : Octets) :
    envelope.load protocol junk ⟨octets, false⟩ ≠ .error .exhausted ∧
      (envelope.load protocol junk ⟨octets, false⟩ = .error .diverges →
        protocol.StuckIn (stuck junk) octets) := by
  have safe : (envelope.loadWithin protocol junk (2 * octets.length + 3)).SafeAt
      (protocol.StuckIn (stuck junk)) ⟨octets, false⟩ := by
    have first := lawful.safe junk ⟨octets, false⟩ fun failed => by cases failed
    refine first.weaken.bind (fun head after _ sound fewer => ?_) fun _ => .of_suffix
    have enough : 2 * after.rest.length + 3 ≤ 2 * octets.length + 3 := by
      have less : after.rest.length ≤ octets.length := fewer.length_le
      omega
    exact (Protocol.safe_loadBody regular junk sound enough).then_safe fun result =>
      Scan.safe_ite (Scan.safe_pure _) (Scan.safe_throw _)
  unfold Scan.SafeAt at safe
  rw [load]
  cases ran : envelope.loadWithin protocol junk (2 * octets.length + 3) ⟨octets, false⟩ with
  | ok result => exact ⟨nofun, nofun⟩
  | error reason =>
      rw [ran] at safe
      refine ⟨fun same => safe.1 ?_, fun same => safe.2 ?_⟩
      all_goals
        cases same
        rfl

/-- What is left to do after the header. -/
theorem load_of_head {junk : Junk} (reads : Reads (envelope.readHead junk) first head)
    (after : Octets) :
    envelope.load protocol junk ⟨first ++ after, false⟩ =
      match protocol.loadBody junk (2 * (first ++ after).length + 3) (envelope.remaining head) 0
          ⟨after, false⟩ with
      | .error reason => .error reason
      | .ok ((elements, total), last) =>
          if total = envelope.remaining head then .ok ((head, elements), last)
          else .error (.thrown (envelope.badLength head)) := by
  rw [load, loadWithin, scan_bind, reads]
  simp only [scan_bind]
  cases protocol.loadBody junk (2 * (first ++ after).length + 3) (envelope.remaining head) 0
      ⟨after, false⟩ with
  | error reason => rfl
  | ok result =>
      obtain ⟨⟨elements, total⟩, last⟩ := result
      simp only
      split <;> rfl

theorem remaining_eq (lawful : envelope.Lawful)
    (reads : ∀ junk, Reads (envelope.readHead junk) first head)
    (declared : first.length + body.length = 4 + envelope.length head) :
    envelope.remaining head = body.length ∧ body.length < 2 ^ 16 := by
  have size := lawful.sized first head reads
  have small := lawful.length_lt first head reads
  have long := lawful.long head
  rw [size] at declared
  have split : 2 ^ 16 + envelope.length head + 4 - envelope.size head = body.length + 2 ^ 16 := by
    omega
  rw [remaining, split, Nat.add_mod_right]
  have bound : body.length < 2 ^ 16 := by omega
  exact ⟨Nat.mod_eq_of_lt bound, bound⟩

/-- An element that ends the body. -/
theorem loadElement_none (junk : Junk) (fuel : Nat) (ends : Ends protocol rest) :
    ∃ after, protocol.loadElement junk (fuel + 1) ⟨rest, false⟩ = .ok (none, after) := by
  obtain ⟨tlv, after, header, stop⟩ := ends
  refine ⟨after, ?_⟩
  rw [Protocol.loadElement, scan_bind, header]
  simp only
  by_cases empty : tlv.length = 0
  · rw [if_pos empty]
    rfl
  · rw [if_neg empty, stop.resolve_left empty]
    rfl

theorem ends_of_loadElement {junk : Junk} {fuel : Nat} {after : Stream}
    (none' : protocol.loadElement junk fuel ⟨rest, false⟩ = .ok (none, after)) :
    Ends protocol rest := by
  cases fuel with
  | zero => cases none'
  | succ fuel =>
      rw [Protocol.loadElement, scan_bind] at none'
      cases header : protocol.readHeader ⟨rest, false⟩ with
      | error reason =>
          rw [header] at none'
          cases none'
      | ok result =>
          obtain ⟨tlv, next⟩ := result
          refine ⟨tlv, next, header, ?_⟩
          rw [header] at none'
          by_cases empty : tlv.length = 0
          · exact .inl empty
          · simp only [if_neg empty] at none'
            cases shape : protocol.shape tlv.type with
            | none => exact .inr rfl
            | some kind =>
                simp only [shape] at none'
                cases kind with
                | leaf =>
                    simp only [scan_bind] at none'
                    cases value : protocol.load junk tlv next with
                    | error reason =>
                        rw [value] at none'
                        cases none'
                    | ok result =>
                        rw [value] at none'
                        cases none'
                | group =>
                    simp only [scan_bind] at none'
                    cases inside : protocol.loadGroup junk fuel tlv tlv.length next with
                    | error reason =>
                        rw [inside] at none'
                        cases none'
                    | ok result =>
                        rw [inside] at none'
                        cases none'

/-- A body without elements. -/
theorem loadBody_nil (junk : Junk) (fuel check total : Nat) (ends : Ends protocol rest) :
    ∃ after, protocol.loadBody junk (fuel + 2) check total ⟨rest, false⟩ =
      .ok (([], total), after) := by
  obtain ⟨after, none'⟩ := loadElement_none junk fuel ends
  refine ⟨after, ?_⟩
  rw [Protocol.loadBody, scan_bind, none']
  rfl

theorem ends_of_loadBody {junk : Junk} {fuel check total sum : Nat} {after : Stream}
    (read : protocol.loadBody junk fuel check total ⟨rest, false⟩ = .ok (([], sum), after)) :
    Ends protocol rest := by
  cases fuel with
  | zero => cases read
  | succ fuel =>
      rw [Protocol.loadBody, scan_bind] at read
      cases one : protocol.loadElement junk fuel ⟨rest, false⟩ with
      | error reason =>
          rw [one] at read
          cases read
      | ok result =>
          obtain ⟨found, next⟩ := result
          cases found with
          | none => exact ends_of_loadElement one
          | some element =>
              simp only [one] at read
              split at read
              · rw [scan_bind] at read
                cases more : protocol.loadBody junk fuel check ((total + element.span) % 2 ^ 16)
                    next with
                | error reason =>
                    rw [more] at read
                    cases read
                | ok others =>
                    rw [more] at read
                    cases read
              · cases read

/-- A message that parses is read, with whatever follows it. -/
theorem load_of_parses (lawful : envelope.Lawful)
    (reads : ∀ junk, Reads (envelope.readHead junk) first head)
    (parses : protocol.ParsesAll body elements)
    (declared : envelope.size head + spans elements = 4 + envelope.length head)
    (small : spans elements < 2 ^ 16) (ends : elements = [] → Ends protocol rest) (junk : Junk) :
    ∃ after, envelope.load protocol junk ⟨first ++ body ++ rest, false⟩ =
      .ok ((head, elements), after) := by
  have left : envelope.remaining head = spans elements := by
    have long := lawful.long head
    rw [remaining, show 2 ^ 16 + envelope.length head + 4 - envelope.size head =
      spans elements + 2 ^ 16 by omega, Nat.add_mod_right, Nat.mod_eq_of_lt small]
  rw [List.append_assoc, load_of_head (reads junk), left]
  cases elements with
  | nil =>
      cases parses
      obtain ⟨after, read⟩ := loadBody_nil junk (2 * (first ++ rest).length + 1)
        (spans ([] : List (Element Object))) 0 (ends rfl)
      rw [List.nil_append, read]
      exact ⟨after, rfl⟩
  | cons element elements =>
      have enough : 2 * body.length + 1 ≤ 2 * (first ++ (body ++ rest)).length + 3 := by
        rw [List.length_append, List.length_append]
        omega
      have body' := parses.reads_body junk (List.cons_ne_nil _ _) (Nat.zero_add _) small enough
      rw [body' rest]
      exact ⟨_, if_pos rfl⟩

variable {extent : Tlv → Octets → Protocol.Extent} {final : Bool}

theorem Whole.accepted_or_rejected (lawful : envelope.Lawful) (measures : protocol.Measures extent)
    (whole : envelope.Whole protocol extent final octets) :
    envelope.Rejected protocol octets ∨ envelope.Accepted protocol final octets := by
  obtain ⟨head, first, body, rest, rfl, reads, declared, fits, ends⟩ := whole
  obtain ⟨left, small⟩ := remaining_eq lawful reads declared
  rcases fits.cut_or_raises measures with ⟨elements, cut⟩ | ⟨some', raises⟩
  · obtain ⟨total, taken, unread, rfl, -, parses⟩ := cut.parses
    refine .inr ⟨head, first, taken ++ unread, rest, elements, rfl, reads, declared, cut, ?_⟩
    intro junk
    have none' : elements = [] → Ends protocol (unread ++ rest) := by
      rintro rfl
      rw [spans_nil, List.length_append] at total
      obtain rfl := List.eq_nil_of_length_eq_zero (show taken.length = 0 by omega)
      obtain rfl := List.eq_nil_of_length_eq_zero (show unread.length = 0 by omega)
      exact ends rfl
    have declared' : envelope.size head + spans elements = 4 + envelope.length head := by
      rw [← total, ← lawful.sized first head reads, declared]
    obtain ⟨after, loaded⟩ :=
      load_of_parses lawful reads parses declared' (total ▸ small) none' junk
    refine ⟨after, ?_⟩
    rw [← loaded]
    simp only [List.append_assoc]
  · refine .inl fun junk => ?_
    have enough : 2 * body.length + 1 ≤ 2 * (first ++ (body ++ rest)).length + 3 := by
      rw [List.length_append, List.length_append]
      omega
    obtain ⟨exception, raised⟩ :=
      (raises junk _ enough).2 body.length 0 (Nat.zero_add _) small rest
    refine ⟨exception, ?_⟩
    rw [List.append_assoc, load_of_head (reads junk), left, raised]

theorem eq_nil_of_spans (empty : spans elements = 0) : elements = [] := by
  cases elements with
  | nil => rfl
  | cons element elements =>
      rw [spans_cons, Element.span, tlvSize] at empty
      omega

theorem Accepted.whole (measures : protocol.Measures extent)
    (accepted : envelope.Accepted protocol final octets) :
    envelope.Whole protocol extent final octets := by
  obtain ⟨head, first, body, rest, elements, rfl, reads, declared, cut, loads⟩ := accepted
  refine ⟨head, first, body, rest, rfl, reads, declared, cut.fits measures, ?_⟩
  rintro rfl
  have none' : elements = [] := eq_nil_of_spans cut.parses.1.symm
  obtain ⟨after, loaded⟩ := loads fun _ => 0
  rw [List.append_nil, load_of_head (reads _), none'] at loaded
  cases read : protocol.loadBody (fun _ => 0) (2 * (first ++ rest).length + 3)
      (envelope.remaining head) 0 ⟨rest, false⟩ with
  | error reason =>
      rw [read] at loaded
      cases loaded
  | ok result =>
      obtain ⟨⟨elements, total⟩, last⟩ := result
      simp only [read] at loaded
      split at loaded
      · cases loaded
        exact ends_of_loadBody read
      · cases loaded

/-- Reading raises an exception or accepts what lies in the string as declared, just
when it raises an exception or the string is whole. -/
theorem rejected_or_accepted_iff (lawful : envelope.Lawful) (measures : protocol.Measures extent) :
    envelope.Rejected protocol octets ∨ envelope.Accepted protocol final octets ↔
      envelope.Rejected protocol octets ∨ envelope.Whole protocol extent final octets := by
  constructor
  · rintro (rejected | accepted)
    · exact .inl rejected
    · exact .inr (accepted.whole measures)
  · rintro (rejected | whole)
    · exact .inl rejected
    · exact whole.accepted_or_rejected lawful measures

/-! ## Messages with a carried container -/

section Carried

set_option linter.unusedSectionVars false

variable {Member : Type} {catalogue : Catalogue ε} [DecidableEq catalogue.Kind]
  [DecidableEq Member] {reading : Reading catalogue Member} {types : Nat}
  {view : (kind : catalogue.Kind) → catalogue.Core kind → catalogue.Core kind}
  {fair : (kind : catalogue.Kind) → catalogue.Core kind → Prop}
  {entries : List (Entry Member catalogue.Kind)} {rows : List (Row Member catalogue.Kind)}
  {container : Container Member catalogue.Datum}

/-- A message from a carried container is read back with its header, and its elements give a
container that shows the same. -/
theorem load_of_carried (lawful : envelope.Lawful) (headers : catalogue.HeaderReads types)
    (fairs : FairReturns view fair) (ends : Ends catalogue.protocol []) (junk : Junk)
    (fits : fittingAll reading types entries none rows = true)
    (carried : AllCarried reading fair entries rows container)
    (complete : Complete reading entries none rows container) :
    ∃ elements, buildAll catalogue junk rows container = .ok elements ∧
      (Element.weights elements < 2 ^ 16 → spans elements = Element.weights elements ∧
        ∀ head, (∀ junk, Reads (envelope.readHead junk) (envelope.writeHead head) head) →
          envelope.size head + spans elements = 4 + envelope.length head →
          ∀ junk, ∃ octets left, catalogue.protocol.dumpAll junk elements = .ok (octets, left) ∧
            ∃ elements', (∀ junk, ∃ after,
                envelope.load catalogue.protocol junk ⟨envelope.writeHead head ++ octets, false⟩ =
                  .ok ((head, elements'), after)) ∧
              ∀ junk, ∃ result, readAll reading junk entries elements' (fun _ => []) = .ok result ∧
                result.view (Catalogue.shown view) = container.view (Catalogue.shown view)) := by
  obtain ⟨elements, built, back⟩ := carried_returns headers fairs junk fits carried complete
  refine ⟨elements, built, fun small => ?_⟩
  obtain ⟨total, writes⟩ := back small
  refine ⟨total, fun head reads declared junk => ?_⟩
  obtain ⟨octets, left, dumped, elements', parses, same, gives⟩ := writes junk
  refine ⟨octets, left, dumped, elements', fun junk => ?_, gives⟩
  have loaded := load_of_parses lawful reads parses (by rw [same, declared])
    (by rw [same, total]; exact small) (fun _ => ends) junk
  rwa [List.append_nil] at loaded

end Carried

end Envelope

end OpenairSpgwc.Foundation
