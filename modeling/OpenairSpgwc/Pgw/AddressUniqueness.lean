import OpenairSpgwc.Pgw.Effects
import OpenairSpgwc.Pgw.Ownership
import OpenairSpgwc.Pgw.Registry

/-!
Contract: two attached PDN connections never hold the same address of a pool.

An address is lost to its holder when it is released while the holder stays
attached: by the failure path of a Create Session Request, which keeps the
connection, or by the release of an address that was in a request and never
taken from the pool. `Harmless` says of a step that it does neither. It speaks
of the events before the step, because where an address came from is not
written in the state.

Owns:
- `obtained`, the address that a connection has from `get_free_paa`;
- the invariant `Exclusive` of histories and states, and its preservation;
- the uniqueness of the addresses in every run of harmless steps.
-/

namespace OpenairSpgwc.Pgw

open Foundation
open OpenairSpgwc.Common
open Std (ExtTreeMap)

/-! ## Where an address came from -/

/-- What is known of the address of `sp` after one more event. -/
def noted (sp : Nat) (known : Option (BitVec 32)) : Event → Option (BitVec 32)
  | .ipv4Set other address fromPool =>
      if other = sp then (if fromPool then some address else none) else known
  | .ipv4Cleared other => if other = sp then none else known
  | _ => known

/-- The IPv4 address of `sp`, if it was obtained from `get_free_paa`. -/
def obtained (past : List Event) (sp : Nat) : Option (BitVec 32) := past.foldl (noted sp) none

section Obtained

variable {past events : List Event} {sp other : Nat} {a : BitVec 32}

@[simp] theorem obtained_snoc (event : Event) :
    obtained (past ++ [event]) sp = noted sp (obtained past sp) event := by
  simp [obtained]

theorem obtained_append_messages (messages : ∀ event ∈ events, event.isMessage = true) :
    obtained (past ++ events) sp = obtained past sp := by
  induction events using List.reverseRecOn with
  | nil => rw [List.append_nil]
  | append_singleton events event inductionHypothesis =>
      rw [← List.append_assoc, obtained_snoc,
        inductionHypothesis fun entry member => messages entry (List.mem_append_left _ member)]
      have message := messages event (by simp)
      cases event <;> first | rfl | cases message

/-- A PAA of a request takes the place of an obtained address, or leaves it. -/
theorem obtained_of_request {paa : Paa}
    (known : obtained (past ++ ipv4SetEvents other paa false) sp = some a) :
    obtained past sp = some a := by
  unfold ipv4SetEvents at known
  split at known <;> simp only [List.append_nil, obtained_snoc, noted] at known
  all_goals first | exact known | skip
  all_goals
    split at known
    · cases known
    · exact known

/-- A PAA of a request that leaves an obtained address leaves `ipv4_address`. -/
theorem set_of_request {paa : Paa} {pdn : PdnConnection}
    (known : obtained (past ++ ipv4SetEvents sp paa false) sp = some a) :
    (pdn.set paa).ipv4Address = pdn.ipv4Address := by
  unfold ipv4SetEvents at known
  unfold PdnConnection.set
  cases kind : paa.pdnType <;> simp [kind, noted] at known ⊢

end Obtained

/-! ## The invariant -/

/-- Attached connections hold their obtained addresses under one name each, the
addresses are taken, and no two of them are equal. -/
structure Exclusive (config : Config) (past : List Event) (s : State) : Prop where
  pools : s.paaDynamic.Sound config.pdns
  attachedKnown : ∀ label sp, s.AttachedUnder label sp → sp < s.nextAddress
  obtainedKnown : ∀ sp a, obtained past sp = some a → sp < s.nextAddress
  oneName : ∀ label other sp, s.AttachedUnder label sp → s.AttachedUnder other sp → label = other
  holds : ∀ label sp a, s.AttachedUnder label sp → obtained past sp = some a →
    (s.pdnConnections sp).ipv4Address = a ∧ s.paaDynamic.Taken config.pdns label a
  apart : ∀ label other sp sq a, s.AttachedUnder label sp → s.AttachedUnder other sq →
    obtained past sp = some a → obtained past sq = some a → sp = sq

section Preservation

variable {config : Config} {past later events : List Event} {s t : State}
  {request : CreateSessionRequest} {upNode : UpNode} {pc sa sp teid endValue : Nat}
  {label : String} {a : BitVec 32}

theorem exclusive_init (proper : ProperConfig config.pdns) :
    Exclusive config [] (State.init config.pdns) where
  pools := PaaDynamic.sound_applyConfig proper
  attachedKnown := by
    rintro label sp ⟨pc, sa, member, -⟩
    cases member
  obtainedKnown sp a known := by cases known
  oneName := by
    rintro label other sp ⟨pc, sa, member, -⟩
    cases member
  holds label sp a _ known := by cases known
  apart label other sp sq a _ _ known := by cases known

/-- Fewer attachments, fewer obtained addresses, and pools in which the
remaining ones are still taken. -/
theorem Exclusive.weaken (exclusive : Exclusive config past s)
    (fewer : ∀ sp a, obtained later sp = some a → obtained past sp = some a)
    (attached : ∀ label sp, t.AttachedUnder label sp → s.AttachedUnder label sp)
    (addresses : ∀ sp a, obtained later sp = some a →
      (t.pdnConnections sp).ipv4Address = (s.pdnConnections sp).ipv4Address)
    (nextAddress : s.nextAddress ≤ t.nextAddress)
    (sound : t.paaDynamic.Sound config.pdns)
    (taken : ∀ label sp a, t.AttachedUnder label sp → obtained later sp = some a →
      s.paaDynamic.Taken config.pdns label a → t.paaDynamic.Taken config.pdns label a) :
    Exclusive config later t where
  pools := sound
  attachedKnown label sp under :=
    (exclusive.attachedKnown label sp (attached label sp under)).trans_le nextAddress
  obtainedKnown sp a known := (exclusive.obtainedKnown sp a (fewer sp a known)).trans_le nextAddress
  oneName label other sp left right :=
    exclusive.oneName label other sp (attached _ _ left) (attached _ _ right)
  holds label sp a under known := by
    obtain ⟨address, before⟩ :=
      exclusive.holds label sp a (attached label sp under) (fewer sp a known)
    exact ⟨(addresses sp a known).trans address, taken label sp a under known before⟩
  apart label other sp sq a left right first second :=
    exclusive.apart label other sp sq a (attached _ _ left) (attached _ _ right)
      (fewer sp a first) (fewer sq a second)

/-- A step that keeps everything but the procedures and the tables. -/
theorem Exclusive.keeps (exclusive : Exclusive config past s) (keeps : s.Keeps t)
    (pools : t.paaDynamic = s.paaDynamic)
    (messages : ∀ event ∈ events, event.isMessage = true) :
    Exclusive config (past ++ events) t := by
  apply exclusive.weaken
  · intro sp a known
    rw [obtained_append_messages messages] at known
    exact known
  · exact fun label sp under => keeps.attachedUnder.mp under
  · exact fun sp _ _ => keeps.addresses sp
  · exact keeps.nextAddress
  · rw [pools]
    exact exclusive.pools
  · intro label sp a _ _ before
    rw [pools]
    exact before

/-- A new connection has no obtained address yet. -/
theorem Exclusive.attachNew (exclusive : Exclusive config past s)
    (new : s.AttachedNew pc request teid t) : Exclusive config past t := by
  have old : ∀ {label sp}, t.AttachedUnder label sp → sp < s.nextAddress →
      s.AttachedUnder label sp := by
    intro label sp under below
    refine (new.attachedUnder under).resolve_right fun fresh => ?_
    omega
  constructor
  · rw [new.paaDynamic]
    exact exclusive.pools
  · intro label sp under
    rw [new.nextAddress]
    rcases new.attachedUnder under with before | ⟨-, rfl⟩
    · have := exclusive.attachedKnown label sp before
      omega
    · omega
  · intro sp a known
    rw [new.nextAddress]
    have := exclusive.obtainedKnown sp a known
    omega
  · intro label other sp left right
    rcases new.attachedUnder left, new.attachedUnder right with
      ⟨before | ⟨named, fresh⟩, before' | ⟨named', fresh'⟩⟩
    · exact exclusive.oneName label other sp before before'
    · have := exclusive.attachedKnown label sp before
      omega
    · have := exclusive.attachedKnown other sp before'
      omega
    · rw [named, named']
  · intro label sp a under known
    have below := exclusive.obtainedKnown sp a known
    rw [new.others sp (by omega), new.paaDynamic]
    exact exclusive.holds label sp a (old under below) known
  · intro label other sp sq a left right first second
    exact exclusive.apart label other sp sq a
      (old left (exclusive.obtainedKnown sp a first))
      (old right (exclusive.obtainedKnown sq a second)) first second

/-- The address of a successful allocation goes to one connection. -/
theorem Exclusive.obtain (proper : ProperConfig config.pdns) (exclusive : Exclusive config past s)
    (under : s.AttachedUnder label sp) {id : Nat} {next : Ipv4Pool}
    (linked : s.paaDynamic.apns[label]? = some ⟨[id], []⟩)
    (allocated : (s.paaDynamic.pool id).allocAddress = (some a, next)) {pdn : PdnConnection}
    (address : pdn.ipv4Address = a) :
    Exclusive config (past ++ [.ipv4Set sp a true])
      (({ s with paaDynamic := s.paaDynamic.setPool id next }).setPdnConnection sp pdn) := by
  obtain ⟨sound, taken, untaken, stays⟩ := exclusive.pools.alloc proper linked allocated
  have known : ∀ other, obtained (past ++ [.ipv4Set sp a true]) other =
      if sp = other then some a else obtained past other := by
    intro other
    simp [noted]
  have connection : ∀ other, sp ≠ other →
      Function.update s.pdnConnections sp pdn other = s.pdnConnections other :=
    fun other different => Function.update_of_ne different.symm _ _
  -- Nobody had the address before: it was not taken.
  have alone : ∀ other sq, s.AttachedUnder other sq → obtained past sq ≠ some a :=
    fun other sq attached had => untaken other (exclusive.holds other sq a attached had).2
  constructor
  · exact sound
  · exact exclusive.attachedKnown
  · intro sq b had
    rw [known] at had
    split at had
    · next same =>
        rw [← same]
        exact exclusive.attachedKnown label sp under
    · exact exclusive.obtainedKnown sq b had
  · exact exclusive.oneName
  · intro other sq b attached had
    rw [known] at had
    simp only [State.setPdnConnection]
    split at had
    · next same =>
        subst same
        cases had
        rw [Function.update_self, exclusive.oneName other label sp attached under]
        exact ⟨address, taken⟩
    · next different =>
        obtain ⟨before, takenBefore⟩ := exclusive.holds other sq b attached had
        rw [connection sq different]
        exact ⟨before, stays other b takenBefore⟩
  · intro left right sq sr b attachedLeft attachedRight first second
    rw [known] at first second
    split at first <;> split at second
    · next same same' => rw [← same, ← same']
    · next same _ =>
        cases first
        exact absurd second (alone right sr attachedRight)
    · next _ same =>
        cases second
        exact absurd first (alone left sq attachedLeft)
    · exact exclusive.apart left right sq sr b attachedLeft attachedRight first second

/-- The address of a request goes to a connection; what that one had obtained
is forgotten when it is overwritten. -/
theorem Exclusive.storeRequested (exclusive : Exclusive config past s) (paa : Paa) :
    Exclusive config (past ++ ipv4SetEvents sp paa false)
      (s.setPdnConnection sp ((s.pdnConnections sp).set paa)) := by
  apply exclusive.weaken
  · exact fun other b had => obtained_of_request had
  · exact fun label other attached => attached
  · intro other b had
    simp only [State.setPdnConnection, Function.update_apply]
    split
    · next same =>
        subst same
        exact set_of_request had
    · rfl
  · exact le_rfl
  · exact exclusive.pools
  · exact fun label other b _ _ before => before

/-! ## Harmless steps -/

/-- The pool of `label` refuses `a`, or `a` is one of its addresses and nobody
attached, other than `spared`, has obtained it. -/
def Releasable (past : List Event) (s : State) (label : String) (a : BitVec 32)
    (spared : Option Nat) : Prop :=
  ∀ id, s.paaDynamic.apns[label]? = some ⟨[id], []⟩ →
    (s.paaDynamic.pool id).inPool a = false ∨
      (0 ≤ (a - (s.paaDynamic.pool id).start).toInt ∧
        ∀ other sq, s.AttachedUnder other sq → spared ≠ some sq → obtained past sq ≠ some a)

theorem Releasable.weaken {spared : Option Nat} (releasable : Releasable past s label a spared)
    (pools : t.paaDynamic = s.paaDynamic)
    (fewer : ∀ other sq, t.AttachedUnder other sq → obtained later sq = some a →
      s.AttachedUnder other sq ∧ obtained past sq = some a) :
    Releasable later t label a spared := by
  intro id linked
  rw [pools] at linked ⊢
  refine (releasable id linked).imp_right fun ⟨nonneg, unobtained⟩ => ⟨nonneg, ?_⟩
  intro other sq attached notSpared had
  obtain ⟨before, hadBefore⟩ := fewer other sq attached had
  exact unobtained other sq before notSpared hadBefore

/-- A harmless release leaves the addresses of the others taken. -/
theorem Exclusive.release (proper : ProperConfig config.pdns) (exclusive : Exclusive config past s)
    {spared : Option Nat} (releasable : Releasable past s label a spared) :
    (s.paaDynamic.releasePaa label a).2.Sound config.pdns ∧
      ∀ other sq b, s.AttachedUnder other sq → spared ≠ some sq → obtained past sq = some b →
        s.paaDynamic.Taken config.pdns other b →
        (s.paaDynamic.releasePaa label a).2.Taken config.pdns other b := by
  have released := exclusive.pools.release proper label a
    fun id linked => (releasable id linked).imp_right And.left
  refine ⟨released.1, fun other sq b attached notSpared had taken => ?_⟩
  apply released.2 other b taken
  by_cases same : b = a
  · right
    intro id linked
    refine (releasable id linked).resolve_right fun unobtained => ?_
    exact unobtained.2 other sq attached notSpared (same ▸ had)
  · exact .inl same

/-- The procedure of an accepted request releases nothing, or harmlessly. -/
theorem Exclusive.establish (proper : ProperConfig config.pdns)
    (exclusive : Exclusive config past s) {response : CreateSessionResponse}
    (ran : s.establish config pc sa sp request response upNode = some (t, events))
    (releasable : upNode.failure.isSome = true →
      ((s.pdnConnections sp).pdnType = .ipv4 ∨ (s.pdnConnections sp).pdnType = .ipv4v6) →
      ∀ paa, response.paa = some paa →
        Releasable past s (s.apnContexts sa).apnInUse paa.ipv4Address none) :
    Exclusive config (past ++ events) t := by
  obtain ⟨keeps, messages, pools⟩ := State.establish_effect ran
  by_cases kept : t.paaDynamic = s.paaDynamic
  · exact exclusive.keeps keeps kept messages
  · -- The pools have changed, so the failure path has released the address.
    have failed : upNode.failure.isSome = true := by
      by_contra survived
      rw [if_neg survived] at pools
      exact kept pools
    rw [if_pos failed] at pools
    have released : ∃ paa : Paa,
        Releasable past s (s.apnContexts sa).apnInUse paa.ipv4Address none ∧
        t.paaDynamic =
          (s.paaDynamic.releasePaa (s.apnContexts sa).apnInUse paa.ipv4Address).2 := by
      unfold State.releaseOnFailure at pools
      split at pools
      · next paa given kind => exact ⟨paa, releasable failed (.inl kind) paa given, pools⟩
      · next paa given kind => exact ⟨paa, releasable failed (.inr kind) paa given, pools⟩
      · exact absurd pools kept
    obtain ⟨paa, harmless, pools⟩ := released
    obtain ⟨sound, stays⟩ := exclusive.release proper harmless
    apply exclusive.weaken
    · intro sq b had
      rw [obtained_append_messages messages] at had
      exact had
    · exact fun label sq under => keeps.attachedUnder.mp under
    · exact fun sq _ _ => keeps.addresses sq
    · exact keeps.nextAddress
    · rw [pools]
      exact sound
    · intro label sq b under had taken
      rw [obtained_append_messages messages] at had
      rw [pools]
      exact stays label sq b (keeps.attachedUnder.mp under) (by simp) had taken

end Preservation

/-- The PDN type of the connection a request is for. -/
def State.pdnTypeFor (s : State) (pc : Nat) (request : CreateSessionRequest) : PdnType :=
  match s.findPdnConnectionOfApn pc request.apn request.teid true with
  | some (_, sp) => (s.pdnConnections sp).pdnType
  | none => request.pdnType.getD .ipv4

/-- The step reads nothing past the end, and releases no address that an
attached connection obtained from the pool, the one it detaches apart. -/
def Harmless (config : Config) (past : List Event) (s : State) : Action → Prop
  | .createSession request upNode endValue =>
      ∀ pc before, s.route config request = .context pc before →
        let selection := selectPaa s.paaDynamic request.apn (before.pdnTypeFor pc request)
          {} request.paa endValue
        selection.endDereference = false ∧
          (upNode.failure.isSome = true →
            (before.pdnTypeFor pc request = .ipv4 ∨ before.pdnTypeFor pc request = .ipv4v6) →
            ∀ paa, selection.paa = some paa →
              selection.fromPool = false ∧
                Releasable past s request.apn paa.ipv4Address none)
  | .sessionDeletionResponse answer =>
      ∀ sa sp, s.detaches answer = some (sa, sp) → (s.pdnConnections sp).ipv4 = true →
        Releasable past s (s.apnContexts sa).apnInUse (s.pdnConnections sp).ipv4Address (some sp)
  | .sessionEstablishmentResponse _ => True
  | .deleteSession _ _ => True

section Steps

variable {config : Config} {past events : List Event} {s t before after : State}
  {request : CreateSessionRequest} {upNode : UpNode} {pc sa sp endValue : Nat}

/-- A context that a request is handed to has the attachments it had. -/
theorem Exclusive.routed (exclusive : Exclusive config past s)
    (routed : s.route config request = .context pc before) :
    Exclusive config past before ∧ before.paaDynamic = s.paaDynamic ∧
      s.nextAddress ≤ before.nextAddress ∧
      ∀ label sq, before.AttachedUnder label sq → s.AttachedUnder label sq := by
  rcases State.route_context routed with ⟨rfl, -⟩ | ⟨imsi, -, -, rfl, rfl⟩
  · exact ⟨exclusive, rfl, le_rfl, fun _ _ attached => attached⟩
  · have attached : ∀ label sq, (s.newContext imsi).AttachedUnder label sq →
        s.AttachedUnder label sq := by
      rintro label sq ⟨pc, sa, member, named, inside⟩
      simp only [State.newContext, State.setContext, Function.update_apply] at member
      split at member
      · cases member
      · exact ⟨pc, sa, member, named, inside⟩
    refine ⟨?_, rfl, Nat.le_succ _, attached⟩
    apply exclusive.weaken (fun _ _ had => had) attached (fun _ _ _ => rfl) (Nat.le_succ _)
      exclusive.pools
    exact fun _ _ _ _ _ taken => taken

/-- The connection of a request is attached. -/
theorem State.attachedUnder_of_attach (attached : s.attach pc request = some (t, sa, sp)) :
    t.AttachedUnder request.apn sp := by
  rcases State.attach_cases attached with ⟨found, rfl⟩ | ⟨missing, rfl, rfl, teid, new⟩
  · obtain ⟨member, named, inside⟩ := State.of_findPdnConnectionOfApn found
    exact ⟨pc, sa, member, named, inside⟩
  · have here : t.apnContexts s.nextAddress = ⟨true, request.apn, [s.nextAddress + 1]⟩ := by
      rw [new.apnContexts, Function.update_self]
    refine ⟨pc, s.nextAddress, ?_, by rw [here], by rw [here]; exact List.mem_singleton_self _⟩
    rw [new.contexts, Function.update_self]
    exact List.mem_append_right _ (List.mem_singleton_self _)

/-- The connection of a request is attached, and so far nothing has moved. -/
theorem Exclusive.arrive (exclusive : Exclusive config past s)
    (routed : s.route config request = .context pc before)
    (attached : (before.entered pc request).attach pc request = some (after, sa, sp)) :
    Exclusive config past after ∧ after.paaDynamic = s.paaDynamic ∧
      (after.apnContexts sa).apnInUse = request.apn ∧ after.AttachedUnder request.apn sp ∧
      (after.pdnConnections sp).pdnType = before.pdnTypeFor pc request ∧
      ∀ label sq, after.AttachedUnder label sq → s.AttachedUnder label sq ∨ s.nextAddress ≤ sq := by
  obtain ⟨exclusiveBefore, pools, next, contexts⟩ := exclusive.routed routed
  have keeps : before.Keeps (before.entered pc request) := State.keeps_entered
  have exclusiveEntered : Exclusive config past (before.entered pc request) := by
    have kept : Exclusive config (past ++ []) (before.entered pc request) :=
      exclusiveBefore.keeps keeps rfl (by simp)
    rwa [List.append_nil] at kept
  have under := State.attachedUnder_of_attach attached
  rcases State.attach_cases attached with ⟨found, rfl⟩ | ⟨missing, rfl, rfl, teid, new⟩
  · obtain ⟨-, named, -⟩ := State.of_findPdnConnectionOfApn found
    refine ⟨exclusiveEntered, pools, named, under, ?_, ?_⟩
    · rw [State.findPdnConnectionOfApn_entered] at found
      rw [State.pdnTypeFor, found]
      rfl
    · exact fun label sq under => .inl (contexts label sq (keeps.attachedUnder.mp under))
  · have named : (after.apnContexts (before.entered pc request).nextAddress) =
        ⟨true, request.apn, [(before.entered pc request).nextAddress + 1]⟩ := by
      rw [new.apnContexts, Function.update_self]
    refine ⟨exclusiveEntered.attachNew new, new.paaDynamic.trans pools, by rw [named], under, ?_, ?_⟩
    · rw [State.findPdnConnectionOfApn_entered] at missing
      rw [new.pdnType, State.pdnTypeFor, missing]
    · intro label sq under
      rcases new.attachedUnder under with old | ⟨-, rfl⟩
      · exact .inl (contexts label sq (keeps.attachedUnder.mp old))
      · right
        exact next.trans (Nat.le_succ _)

/-- A request that is rejected for want of a PAA leaves the pools. -/
theorem pools_of_rejected (provisioned : s.paaDynamic.Provisioned config.pdns)
    (rejected : (s.paaFor sa sp request endValue).cause ≠ .requestAccepted)
    (noStray : (s.paaFor sa sp request endValue).endDereference = false) :
    (s.paaFor sa sp request endValue).pools = s.paaDynamic := by
  unfold State.paaFor at rejected noStray ⊢
  rcases State.selectPaa_cases s.paaDynamic (s.apnContexts sa).apnInUse
    (s.pdnConnections sp).pdnType request.paa endValue with ⟨-, taken⟩ | ⟨-, refused⟩
  · have source := State.paaSource_requestedOrFreePaa provisioned (s.apnContexts sa).apnInUse
      request.paa endValue
    rw [← taken] at source
    revert source rejected noStray
    generalize selectPaa s.paaDynamic _ _ _ _ _ = selection
    intro rejected noStray source
    cases source with
    | request => rfl
    | exhausted => rfl
    | pool => exact absurd rfl rejected
    | stray => cases noStray
  · rw [refused]

/-- A Create Session Request that does no harm. -/
theorem Exclusive.create (proper : ProperConfig config.pdns) (exclusive : Exclusive config past s)
    (harmless : Harmless config past s (.createSession request upNode endValue))
    (handled : s.handleCreateSessionRequest config request upNode endValue = some (t, events)) :
    Exclusive config (past ++ events) t := by
  rcases State.create_cases handled with
    ⟨-, rfl, answers⟩ | ⟨pc, sa, sp, before, after, routed, attached, assigned⟩
  · apply exclusive.keeps (.refl t) rfl
    intro event member
    obtain ⟨answer, rfl⟩ := answers event member
    rfl
  · obtain ⟨arrived, pools, named, under, kind, contexts⟩ := exclusive.arrive routed attached
    obtain ⟨noStray, onFailure⟩ := harmless pc before routed
    have selection : after.paaFor sa sp request endValue = selectPaa s.paaDynamic request.apn
        (before.pdnTypeFor pc request) {} request.paa endValue := by
      rw [State.paaFor, pools, named, kind]
    rw [← selection] at noStray onFailure
    have quiet : (after.paaFor sa sp request endValue).strayEvents = [] := by
      simp [PaaSelection.strayEvents, noStray]
    rcases State.assignPaa_cases assigned with
      ⟨rejected, rfl, answer, -, rfl⟩ |
        ⟨-, taken, paa, pending, started, chosen, answered, -, ran, rfl⟩
    · rw [quiet, List.nil_append, pools_of_rejected arrived.pools.provisioned rejected noStray]
      exact arrived.keeps (.refl after) rfl (by simp [Event.isMessage])
    · rw [quiet, List.nil_append, ← List.append_assoc]
      have source := State.paaSource_requestedOrFreePaa arrived.pools.provisioned
        (after.apnContexts sa).apnInUse request.paa endValue
      rw [← taken] at source
      revert source chosen ran onFailure
      generalize after.paaFor sa sp request endValue = selection
      intro onFailure chosen ran source
      cases source with
      | request given _ _ =>
          cases chosen
          refine (arrived.storeRequested paa).establish proper ran ?_
          intro failed type given paaGiven
          cases answered.symm.trans paaGiven
          simp only [State.setPdnConnection, Function.update_self,
            PdnConnection.set_pdnType] at type
          rw [kind] at type
          have releasable := (onFailure failed type paa rfl).2
          -- Who has obtained the address now had obtained it before the request came.
          show Releasable _ _ (after.apnContexts sa).apnInUse _ none
          rw [named]
          refine releasable.weaken pools fun other sq attachedNow had => ?_
          have hadBefore := obtained_of_request had
          refine ⟨(contexts other sq attachedNow).resolve_right fun fresh => ?_, hadBefore⟩
          have := exclusive.obtainedKnown sq _ hadBefore
          omega
      | exhausted => cases chosen
      | pool unassigned id a next linked allocated kindOfPaa =>
          cases chosen
          rw [named] at linked
          have events : ipv4SetEvents sp { request.paa.getD {} with ipv4Address := a } true =
              [.ipv4Set sp a true] := by
            simp only [ipv4SetEvents, kindOfPaa]
          rw [events]
          have address : ((after.pdnConnections sp).set
              { request.paa.getD {} with ipv4Address := a }).ipv4Address = a := by
            simp only [PdnConnection.set, kindOfPaa]
          refine (arrived.obtain proper under linked allocated address).establish proper ran ?_
          intro failed type given paaGiven
          simp only [State.setPdnConnection, Function.update_self,
            PdnConnection.set_pdnType] at type
          rw [kind] at type
          cases (onFailure failed type _ rfl).1
      | stray => cases chosen

/-- A deletion that does no harm. -/
theorem Exclusive.delete (proper : ProperConfig config.pdns) (exclusive : Exclusive config past s)
    {answer : SessionDeletionResponse}
    (harmless : Harmless config past s (.sessionDeletionResponse answer))
    (handled : s.handleSessionDeletionResponse answer = (t, events)) :
    Exclusive config (past ++ events) t := by
  rcases State.deletionResponse_cases handled with
    ⟨-, keeps, pools, messages⟩ | ⟨sa, sp, middle, message, detaches, inside, ⟨pc, member⟩,
      detached, keeps, pools, connections, rfl, quiet⟩
  · exact exclusive.keeps keeps pools messages
  · have known : ∀ sq b, obtained (past ++ [message, .ipv4Cleared sp]) sq = some b →
        sp ≠ sq ∧ obtained past sq = some b := by
      intro sq b had
      rw [show [message, Event.ipv4Cleared sp] = [message] ++ [.ipv4Cleared sp] from rfl,
        ← List.append_assoc, obtained_snoc, obtained_append_messages (by simpa using quiet),
        noted] at had
      split at had
      · cases had
      · next different => exact ⟨different, had⟩
    have under : ∀ label sq, t.AttachedUnder label sq → s.AttachedUnder label sq :=
      fun label sq attached => detached.attachedUnder (keeps.attachedUnder.mp attached)
    have released : t.paaDynamic.Sound config.pdns ∧ ∀ label sq b, s.AttachedUnder label sq →
        sp ≠ sq → obtained past sq = some b → s.paaDynamic.Taken config.pdns label b →
        t.paaDynamic.Taken config.pdns label b := by
      rw [pools, detached.paaDynamic]
      split
      · next holds =>
          obtain ⟨sound, stays⟩ := exclusive.release proper (harmless sa sp detaches holds)
          refine ⟨sound, fun label sq b attached different had taken => ?_⟩
          exact stays label sq b attached (by simpa using different) had taken
      · exact ⟨exclusive.pools, fun _ _ _ _ _ _ taken => taken⟩
    apply exclusive.weaken
    · exact fun sq b had => (known sq b had).2
    · exact under
    · intro sq b had
      rw [connections, detached.pdnConnections, Function.update_of_ne (known sq b had).1.symm]
    · exact detached.nextAddress.ge.trans keeps.nextAddress
    · exact released.1
    · intro label sq b attached had taken
      exact released.2 label sq b (under label sq attached) (known sq b had).1 (known sq b had).2
        taken

theorem Exclusive.step (proper : ProperConfig config.pdns) (exclusive : Exclusive config past s)
    {action : Action} (harmless : Harmless config past s action)
    (taken : step config s action = some (t, events)) : Exclusive config (past ++ events) t := by
  cases action with
  | createSession request upNode endValue => exact exclusive.create proper harmless taken
  | sessionEstablishmentResponse answer =>
      obtain ⟨keeps, pools, messages⟩ := State.establishmentResponse_effect (Option.some.inj taken)
      exact exclusive.keeps keeps pools messages
  | deleteSession order sent =>
      obtain ⟨keeps, pools, messages⟩ := State.deleteSession_effect taken
      exact exclusive.keeps keeps pools messages
  | sessionDeletionResponse answer =>
      exact exclusive.delete proper harmless (Option.some.inj taken)

end Steps

/-! ## Uniqueness -/

/-- The connection is in an APN context of a context. -/
def State.Attached (s : State) (sp : Nat) : Prop :=
  ∃ pc, ∃ sa ∈ (s.contexts pc).apns, sp ∈ (s.apnContexts sa).pdnConnections

/-- With ranges that can be told apart, and in a run of harmless steps, two
attached connections that have their addresses from the pools have different
addresses. -/
theorem dynamic_addresses_distinct (config : Config) (proper : ProperConfig config.pdns)
    (records : List (StepRecord State Action Event)) (finish : State)
    (run : Run (step config) (State.init config.pdns) records finish)
    (harmless : StepsMeet (Harmless config) [] records) (sp sq : Nat) (different : sp ≠ sq)
    (left : finish.Attached sp) (right : finish.Attached sq)
    (fromPool : (obtained (trace records) sp).isSome)
    (fromPool' : (obtained (trace records) sq).isSome) :
    (finish.pdnConnections sp).ipv4Address ≠ (finish.pdnConnections sq).ipv4Address := by
  have exclusive : Exclusive config (trace records) finish :=
    run.history_invariant_of_steps (Exclusive config) (Harmless config) (exclusive_init proper)
      (fun past state action next events holds meets taken => holds.step proper meets taken)
      harmless
  obtain ⟨pc, sa, member, inside⟩ := left
  obtain ⟨pc', sa', member', inside'⟩ := right
  obtain ⟨a, had⟩ := Option.isSome_iff_exists.mp fromPool
  obtain ⟨b, had'⟩ := Option.isSome_iff_exists.mp fromPool'
  rw [(exclusive.holds _ sp a ⟨pc, sa, member, rfl, inside⟩ had).1,
    (exclusive.holds _ sq b ⟨pc', sa', member', rfl, inside'⟩ had').1]
  rintro rfl
  exact different (exclusive.apart _ _ sp sq a ⟨pc, sa, member, rfl, inside⟩
    ⟨pc', sa', member', rfl, inside'⟩ had had')

/-- Only an IPv4v6 PAA without addresses leads past the end. -/
theorem selectPaa_endDereference {pools : PaaDynamic} {apn : String} {pdnType : PdnType}
    {requested : Option Paa} {endValue : Nat}
    (other : (requested.getD {}).pdnType ≠ .ipv4v6) :
    (selectPaa pools apn pdnType {} requested endValue).endDereference = false := by
  rcases State.selectPaa_cases pools apn pdnType requested endValue with
    ⟨-, taken⟩ | ⟨-, refused⟩
  · rw [taken, requestedOrFreePaa]
    split
    · rfl
    · simp only [PaaDynamic.getFreePaa]
      split
      · rfl
      · split
        · split <;> rfl
        · next kind => exact absurd kind other
        · split <;> rfl
        · rfl
        · rfl
  · rw [refused]

/-- A request with an ordinary PAA, for which a user plane node is found. -/
theorem harmless_of_no_failure {config : Config} {past : List Event} {s : State}
    {request : CreateSessionRequest} {upNode : UpNode} {endValue : Nat}
    (ordinary : (request.paa.getD {}).pdnType ≠ .ipv4v6) (found : upNode.failure = none) :
    Harmless config past s (.createSession request upNode endValue) := by
  intro pc before routed
  refine ⟨selectPaa_endDereference ordinary, fun failed => ?_⟩
  rw [found] at failed
  cases failed

/-- One access point name, 12.1.1.2 to 12.1.1.9. -/
def oneRange : Config :=
  { pdns := [{ apn := "oai", uePoolRangeLow := 0x0C010102, uePoolRangeHigh := 0x0C01010A }] }

theorem properConfig_oneRange : ProperConfig oneRange.pdns where
  ordered := by simp [oneRange]
  small := by
    intro p member
    rw [List.mem_singleton.mp member]
    decide
  disjoint := by simp [oneRange]

/-- Two UEs, both with a user plane node. -/
theorem dynamic_addresses_of_two : ∃ records finish,
    Run (step oneRange) (State.init oneRange.pdns) records finish ∧
      (finish.pdnConnections 2).ipv4Address ≠ (finish.pdnConnections 6).ipv4Address := by
  have run := ((Run.initial (step oneRange) (State.init oneRange.pdns)).andThen
    (.createSession (oneBearer 1 0 none) .sent 0) rfl).andThen
    (.createSession (oneBearer 2 0 none) .sent 0) rfl
  refine ⟨_, _, run, dynamic_addresses_distinct oneRange properConfig_oneRange _ _ run
    ⟨harmless_of_no_failure (by decide) rfl, harmless_of_no_failure (by decide) rfl, trivial⟩
    2 6 (by decide) ⟨0, 1, by decide, by decide⟩ ⟨4, 5, by decide, by decide⟩
    (by decide) (by decide)⟩

/-- No user plane node is found for the first UE: its address is released and
stays with its connection, and the second UE obtains the same one. -/
theorem dynamic_addresses_coincide : ∃ records finish,
    Run (step oneRange) (State.init oneRange.pdns) records finish ∧
      finish.Attached 2 ∧ finish.Attached 6 ∧
      obtained (trace records) 2 = some 0x0C010102 ∧
      obtained (trace records) 6 = some 0x0C010102 ∧
      (finish.pdnConnections 2).ipv4Address = 0x0C010102 ∧
      (finish.pdnConnections 6).ipv4Address = 0x0C010102 := by
  have run := ((Run.initial (step oneRange) (State.init oneRange.pdns)).andThen
    (.createSession (oneBearer 1 0 none) .notSelected 0) rfl).andThen
    (.createSession (oneBearer 2 0 none) .sent 0) rfl
  exact ⟨_, _, run, ⟨0, 1, by decide, by decide⟩, ⟨4, 5, by decide, by decide⟩, by decide,
    by decide, by decide, by decide⟩

end OpenairSpgwc.Pgw
