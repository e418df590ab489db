import OpenairSpgwc.Foundation.Ordering
import OpenairSpgwc.Gtpv2c.Messages

/-!
Contract: what `to_core_type` makes of the elements of a datagram.

Owns:
- that the order of elements of different types does not matter, just when of each type
  the first element that is not taken over is refused and does not overrun an array;
- that no echo message with an element is taken over.
-/

namespace OpenairSpgwc.Gtpv2c.Ie

open Foundation

variable {message : Message} {junk : Junk} {octets : Octets} {msg : Msg}

/-! ## Elements of a datagram -/

theorem load_eq_ok (loaded : Msg.load junk octets = .ok msg) :
    ∃ after, envelope.load catalogue.protocol junk ⟨octets, false⟩ =
      .ok ((msg.header, msg.ies), after) := by
  rw [Msg.load] at loaded
  cases read : envelope.load catalogue.protocol junk ⟨octets, false⟩ with
  | error reason =>
      rw [read] at loaded
      cases loaded
  | ok result =>
      rw [read] at loaded
      cases loaded
      exact ⟨result.2, rfl⟩

theorem loaded_of_load (loaded : Msg.load junk octets = .ok msg) :
    ∀ ie ∈ msg.ies, Loaded ie := by
  obtain ⟨after, read⟩ := load_eq_ok loaded
  exact Envelope.loaded_of_load read

theorem dispatched_unique : ∀ first ∈ dispatched, ∀ second ∈ dispatched,
    first.2 = second.2 → first.1 = second.1 := by decide

/-- Each class is made for one type. -/
theorem dispatch_injective (first second : Nat) (kind : catalogue.Kind)
    (one : catalogue.dispatch first = some kind) (two : catalogue.dispatch second = some kind) :
    first = second :=
  dispatched_unique _ (dispatched_mem one) _ (dispatched_mem two) rfl

/-- A member takes elements of one class. -/
theorem entries_keyed (message : Message) : ∀ first ∈ message.entries,
    ∀ second ∈ message.entries, first.member = second.member → first.key = second.key := by
  cases message <;> decide

/-! ## Options that overrun their array -/

/-- Options with more containers than the array of the core type has places. -/
def Overfull (object : catalogue.Object) : Prop :=
  ∃ fields : PcoIe, object = ⟨.pco, fields⟩ ∧
    maximumProtocolIdOrContainerId < fields.protocolOrContainerIds.length

/-- Other values are given back, or refused. -/
theorem thrown_of_toCore {kind : Kind} (other : kind ≠ .pco) {fields : kind.Fields}
    {reason : Fault GtpcException} (failed : kind.cls.toCore junk fields = .error reason) :
    ∃ exception, reason = .thrown exception := by
  cases kind with
  | pco => exact absurd rfl other
  | paa | fqCsid | ranNasCause =>
      simp only [Kind.cls, paa, fqCsid, ranNasCause] at failed
      split at failed
      · cases failed
      · cases failed
        exact ⟨_, rfl⟩
  | _ => cases failed

theorem pco_toCore_stuck_iff (fields : PcoIe) :
    (∃ reason, (∀ exception, reason ≠ .thrown exception) ∧
        pco.toCore junk fields = .error reason) ↔
      maximumProtocolIdOrContainerId < fields.protocolOrContainerIds.length := by
  constructor
  · rintro ⟨reason, -, failed⟩
    by_contra few
    rw [show pco.toCore junk fields = _ from if_pos (by omega)] at failed
    cases failed
  · intro many
    exact ⟨.undefined, fun exception => nofun, if_neg (by omega)⟩

/-- What `to_core_type` of an element does is left open just when it overruns an array. -/
theorem stuck_leaf_iff {entries : List (Entry Member catalogue.Kind)} {tlv : Tlv}
    {object : catalogue.Object} :
    Stuck reading junk entries (.leaf tlv object) ↔ Overfull object := by
  obtain ⟨kind, fields⟩ := object
  have cases_iff : Stuck reading junk entries (.leaf tlv ⟨kind, fields⟩) ↔
      ∃ reason, (∀ exception, reason ≠ .thrown exception) ∧
        (catalogue.cls kind).toCore junk fields = .error reason := by
    constructor
    · intro stuck
      cases stuck with
      | leaf value other => exact ⟨_, other, value⟩
    · rintro ⟨reason, other, value⟩
      exact .leaf value other
  rw [cases_iff]
  by_cases options : kind = .pco
  · subst options
    refine (pco_toCore_stuck_iff fields).trans ⟨fun many => ⟨fields, rfl, many⟩, ?_⟩
    rintro ⟨fields', eq, many⟩
    cases eq
    exact many
  · constructor
    · rintro ⟨reason, other, failed⟩
      obtain ⟨exception, rfl⟩ := thrown_of_toCore options failed
      exact absurd rfl (other exception)
    · rintro ⟨fields', eq, -⟩
      cases eq
      exact absurd rfl options

open Element in
/-- An element with which taking over gets stuck has options that overrun their array. -/
theorem overfull_of_stuck {entries : List (Entry Member catalogue.Kind)}
    {element : Element catalogue.Object} (stuck : Stuck reading junk entries element) :
    ∃ leaf ∈ leaves element, Overfull leaf.2 := by
  induction stuck with
  | @leaf entries tlv object reason value other =>
      have stuck : Stuck reading junk entries (.leaf tlv object) := .leaf value other
      refine ⟨(tlv, object), ?_, stuck_leaf_iff.mp stuck⟩
      rw [leaves]
      exact List.mem_singleton_self _
  | endless inner => cases inner
  | inside own taken stuck inductionHypothesis =>
      obtain ⟨leaf, inside, overfull⟩ := inductionHypothesis
      refine ⟨leaf, ?_, overfull⟩
      rw [leaves, allLeaves_append]
      exact List.mem_append_right _ (Protocol.mem_allLeaves_cons.mpr (.inl inside))

/-! ## Order -/

theorem oneType_of_load (loaded : Msg.load junk octets = .ok msg) (message : Message) :
    OneType message.entries msg.ies :=
  oneType_of_loaded (entries_keyed message) dispatch_injective (loaded_of_load loaded)

/-- The container that a datagram gives, or that it is refused, does not depend on the order of
elements of different types, just when of each type the first element that is not taken over,
if there is one, does not overrun an array. -/
theorem order_free_iff (loaded : Msg.load junk octets = .ok msg) (message : Message)
    (junk' : Junk) :
    OrderFree reading junk' message.entries msg.ies ↔
      NoneStuckFirst reading junk' message.entries msg.ies :=
  orderFree_iff (oneType_of_load loaded message)

/-- A Modify Bearer Request with two bearer contexts between elements of other types. -/
def mixedRequest : Octets := [
  0x48, 34, 0, 43, 0, 0, 0, 1, 0, 0, 7, 0,
  82, 0, 1, 0, 6,
  93, 0, 5, 0, 73, 0, 1, 0, 5,
  92, 0, 1, 0, 0,
  93, 0, 5, 0, 73, 0, 1, 0, 6,
  83, 0, 3, 0, 0x02, 0xF8, 0x39]

/-- A Release Access Bearers Request with a node type and with 31 containers of options. -/
def overrunRequest : Octets :=
  [0x40, 170, 0, 107, 0, 0, 7, 0] ++ [135, 0, 1, 0, 1] ++ [78, 0, 94, 0, 0x80] ++
    (List.replicate 31 [0, 13, 0]).flatten

/-- The types of the elements of a datagram, and what keeps them from being taken over. -/
def outline (message : Message) (octets : Octets) :
    Option (List Nat × Option (Fault GtpcException)) :=
  match Msg.load (fun _ => 0) octets with
  | .error _ => none
  | .ok msg => some (msg.ies.map (·.tlv.type),
      match msg.toCoreType message fun _ => 0 with
      | .ok _ => none
      | .error reason => some reason)

theorem read_of_outline {types : List Nat} {failure : Option (Fault GtpcException)}
    (same : outline message octets = some (types, failure)) :
    ∃ msg, Msg.load (fun _ => 0) octets = .ok msg ∧ msg.ies.map (·.tlv.type) = types ∧
      (∀ reason, failure = some reason →
        msg.toCoreType message (fun _ => 0) = .error reason) ∧
      (failure = none → ∃ container, msg.toCoreType message (fun _ => 0) = .ok container) := by
  rw [outline] at same
  cases loaded : Msg.load (fun _ => 0) octets with
  | error reason =>
      rw [loaded] at same
      cases same
  | ok msg =>
      simp only [loaded, Option.some.injEq, Prod.mk.injEq] at same
      refine ⟨msg, rfl, same.1, ?_⟩
      cases read : msg.toCoreType message fun _ => 0 with
      | ok container =>
          simp only [read] at same
          exact ⟨fun reason failed => (by rw [← same.2] at failed; cases failed),
            fun _ => ⟨container, rfl⟩⟩
      | error reason =>
          simp only [read] at same
          exact ⟨fun reason' failed => (by rw [← same.2] at failed; cases failed; rfl),
            fun fine => (by rw [← same.2] at fine; cases fine)⟩

/-- The first datagram is taken over in any order, the other one overruns an array. -/
theorem order_free_mixed :
    (∃ msg, Msg.load (fun _ => 0) mixedRequest = .ok msg ∧
      msg.ies.map (·.tlv.type) = [82, 93, 92, 93, 83] ∧
      OrderFree reading (fun _ => 0) Message.modifyBearerRequest.entries msg.ies) ∧
    ∃ msg, Msg.load (fun _ => 0) overrunRequest = .ok msg ∧
      msg.ies.map (·.tlv.type) = [135, 78] ∧
      ¬ NoneStuckFirst reading (fun _ => 0) Message.releaseAccessBearersRequest.entries
        msg.ies := by
  constructor
  · obtain ⟨msg, loaded, types, -, taken⟩ := read_of_outline (show outline .modifyBearerRequest
      mixedRequest = some ([82, 93, 92, 93, 83], none) by decide +kernel)
    obtain ⟨container, read⟩ := taken rfl
    exact ⟨msg, loaded, types, (order_free_iff loaded .modifyBearerRequest _).mpr
      (allTaken_of_reads read).noneStuckFirst⟩
  · obtain ⟨msg, loaded, types, stuck, -⟩ := read_of_outline (show outline
      .releaseAccessBearersRequest overrunRequest = some ([135, 78], some .undefined)
      by decide +kernel)
    refine ⟨msg, loaded, types, fun none' => ?_⟩
    have free := (order_free_iff loaded .releaseAccessBearersRequest _).mpr none'
    have overruns := stuck .undefined rfl
    obtain ⟨result, read, -⟩ := (free msg.ies (fun _ => []) ⟨.refl _, fun _ => rfl⟩).2
      fun refused => (by
        obtain ⟨exception, thrown⟩ := refused
        rw [Msg.toCoreType, thrown] at overruns
        cases overruns)
    rw [Msg.toCoreType, read] at overruns
    cases overruns

open Element in
theorem leaves_subset {element : Element catalogue.Object}
    {elements : List (Element catalogue.Object)} (member : element ∈ elements) :
    ∀ leaf ∈ leaves element, leaf ∈ allLeaves elements := by
  intro leaf inside
  induction elements with
  | nil => cases member
  | cons first rest inductionHypothesis =>
      rw [Protocol.mem_allLeaves_cons]
      rcases List.mem_cons.mp member with rfl | later
      · exact .inl inside
      · exact .inr (inductionHypothesis later)

open Element in
/-- A datagram whose options fit into their arrays gives the same in any order. -/
theorem orderFree_of_few (loaded : Msg.load junk octets = .ok msg)
    (few : ∀ leaf ∈ allLeaves msg.ies, ¬ Overfull leaf.2) (message : Message) (junk' : Junk) :
    OrderFree reading junk' message.entries msg.ies := by
  refine (orderFree_iff (oneType_of_load loaded message)).mpr ?_
  intro type before element after split _ stuck
  obtain ⟨leaf, inside, overfull⟩ := overfull_of_stuck stuck
  exact few leaf (leaves_subset (mem_of_split split) leaf inside) overfull

end OpenairSpgwc.Gtpv2c.Ie
