import OpenairSpgwc.Pgw.Registry

/-!
Contract: the map from a SEID to a context of the PGW, and what every reachable
state knows of sessions and procedures.

Owns:
- `Tracked`, an invariant of every reachable state: the SEID of an attached
  connection is zero or leads to its context, and a procedure belongs to the
  context it waits in;
- `SeidRouted`: a SEID leads to a context exactly while a connection with that
  SEID is attached to it, and `KeepsSession`, the condition on a step under
  which that is kept.

Does not own: the IMSI map.
-/

namespace OpenairSpgwc.Pgw

open Foundation
open OpenairSpgwc.Common
open Std (ExtTreeMap)

namespace State

/-- A connection without a session has SEID zero. -/
structure SeidRouted (s : State) : Prop where
  attached : ∀ seid pc : Nat, s.seid2pgwContext[seid]? = some pc →
    ∃ sa ∈ (s.contexts pc).apns, ∃ sp ∈ (s.apnContexts sa).pdnConnections,
      (s.pdnConnections sp).seid = seid
  mapped : ∀ pc, ∀ sa ∈ (s.contexts pc).apns, ∀ sp ∈ (s.apnContexts sa).pdnConnections,
    (s.pdnConnections sp).seid ≠ 0 →
      s.seid2pgwContext[(s.pdnConnections sp).seid]? = some pc

/-- A deletion response detaches no connection that has a session. -/
def KeepsSession (s : State) : Action → Prop
  | .sessionDeletionResponse answer =>
      ∀ sa sp, s.detaches answer = some (sa, sp) → (s.pdnConnections sp).seid = 0
  | .createSession _ _ _ => True
  | .sessionEstablishmentResponse _ => True
  | .deleteSession _ _ => True

variable {config : Config} {s t before after : State} {request : CreateSessionRequest}
  {response : CreateSessionResponse} {upNode : UpNode} {events : List Event}
  {pc sa sp teid endValue : Nat}

/-! ## Sessions -/

/-- The SEID that `generate_seid` gives the connection of an APN context. -/
def seidFor (config : Config) (teid : Nat) : Nat := teid ||| (config.instanceId <<< 32)

theorem seidFor_inj {left right : Nat} (small : left < 2 ^ 32) (small' : right < 2 ^ 32)
    (same : seidFor config left = seidFor config right) : left = right := by
  unfold seidFor at same
  rw [Nat.or_comm, ← Nat.shiftLeft_add_eq_or_of_lt small, Nat.or_comm,
    ← Nat.shiftLeft_add_eq_or_of_lt small'] at same
  omega

theorem seidFor_ne_zero (positive : 0 < teid) : seidFor config teid ≠ 0 := by
  intro zero
  have bound : teid ≤ seidFor config teid := Nat.left_le_or
  omega

/-- What `establish` and the PAA before it do to contexts and sessions. -/
structure Established (config : Config) (s : State) (pc sp : Nat) (t : State) : Prop where
  imsiMap : t.imsi2pgwContext = s.imsi2pgwContext
  contexts : ∃ pending, t.contexts = Function.update s.contexts pc
      { s.contexts pc with pendingProcedures := pending } ∧
    ∀ proc ∈ pending, proc ∈ (s.contexts pc).pendingProcedures ∨
      ∀ context gtpcTxId teid, proc.kind ≠ .deleteSession context gtpcTxId teid
  sessions : ((∀ other, (t.pdnConnections other).seid = (s.pdnConnections other).seid) ∧
      t.seid2pgwContext = s.seid2pgwContext) ∨
    ((t.pdnConnections sp).seid =
        seidFor config (s.pdnConnections sp).pgwFteidS5S8Cp.teidGreKey ∧
      (∀ other, other ≠ sp → (t.pdnConnections other).seid = (s.pdnConnections other).seid) ∧
      t.seid2pgwContext = s.seid2pgwContext.insert
        (seidFor config (s.pdnConnections sp).pgwFteidS5S8Cp.teidGreKey) pc)

theorem established_of_establish
    (ran : s.establish config pc sa sp request response upNode = some (t, events)) :
    Established config s pc sp t := by
  unfold establish at ran
  split at ran
  · cases ran
  · next proc inserted started =>
      have start := started_of_startProcedure started
      have kind : ∀ context gtpcTxId teid, proc.kind ≠ .deleteSession context gtpcTxId teid := by
        rw [start.shape.2.2]
        simp
      have pending : ∀ entry ∈ (s.contexts pc).pendingProcedures ++ [proc],
          entry ∈ (s.contexts pc).pendingProcedures ∨
            ∀ context gtpcTxId teid, entry.kind ≠ .deleteSession context gtpcTxId teid := by
        intro entry member
        rcases List.mem_append.mp member with old | new
        · exact .inl old
        · rw [List.mem_singleton.mp new]
          exact .inr kind
      have removed : ∀ (state : State), state.contexts = inserted.contexts →
          ∃ pending, (state.removeProcedure pc proc.address).contexts =
              Function.update s.contexts pc { s.contexts pc with pendingProcedures := pending } ∧
            ∀ entry ∈ pending, entry ∈ (s.contexts pc).pendingProcedures ∨
              ∀ context gtpcTxId teid, entry.kind ≠ .deleteSession context gtpcTxId teid := by
        intro state same
        refine ⟨((s.contexts pc).pendingProcedures ++ [proc]).eraseP fun entry =>
          entry.address == proc.address, ?_, fun entry member =>
            pending entry (List.mem_of_mem_eraseP member)⟩
        simp only [removeProcedure, setContext, same, start.contexts, Function.update_self,
          Function.update_idem]
      split at ran
      · cases ran
        refine ⟨start.imsiMap, removed inserted rfl, .inl ⟨fun other => ?_, start.seidMap⟩⟩
        exact congrArg PdnConnection.seid (congrFun start.pdnConnections other)
      · split at ran
        · cases ran
        · next after sentEvents result =>
            unfold runEstablishment at result
            split at result
            · cases result
            · next pdn rules added =>
                cases result
                rw [start.pdnConnections] at added
                have seid : pdn.seid = seidFor config
                    (s.pdnConnections sp).pgwFteidS5S8Cp.teidGreKey :=
                  (sameAddressing_addBearers added).seid
                have others : ∀ other, other ≠ sp → (Function.update inserted.pdnConnections sp
                    pdn other).seid = (s.pdnConnections other).seid := by
                  intro other different
                  rw [Function.update_of_ne different, start.pdnConnections]
                have sessions : (Function.update inserted.pdnConnections sp pdn sp).seid =
                    seidFor config (s.pdnConnections sp).pgwFteidS5S8Cp.teidGreKey := by
                  rw [Function.update_self, seid]
                have noted : inserted.seid2pgwContext.insert pdn.seid pc =
                    s.seid2pgwContext.insert
                      (seidFor config (s.pdnConnections sp).pgwFteidS5S8Cp.teidGreKey) pc := by
                  rw [start.seidMap, seid]
                split at ran
                · cases ran
                  exact ⟨start.imsiMap, ⟨_, start.contexts, pending⟩,
                    .inr ⟨sessions, others, noted⟩⟩
                · cases ran
                  exact ⟨start.imsiMap, removed _ rfl, .inr ⟨sessions, others, noted⟩⟩

theorem established_of_assignPaa
    (ran : s.assignPaa config pc sa sp request upNode endValue = some (t, events)) :
    Established config s pc sp t := by
  rcases assignPaa_cases ran with ⟨-, rfl, -⟩ | ⟨-, -, paa, pending, started, -, -, -, result, -⟩
  · exact ⟨rfl, ⟨(s.contexts pc).pendingProcedures, (Function.update_eq_self pc _).symm,
      fun _ member => .inl member⟩, .inl ⟨fun _ => rfl, rfl⟩⟩
  · have stored : ∀ other, ((s.withPaa sp (s.paaFor sa sp request endValue) paa).pdnConnections
        other).seid = (s.pdnConnections other).seid := by
      intro other
      simp only [withPaa, setPdnConnection, Function.update_apply]
      split
      · next here =>
          rw [here]
          unfold PdnConnection.set
          split <;> rfl
      · rfl
    have fteid : ((s.withPaa sp (s.paaFor sa sp request endValue) paa).pdnConnections
        sp).pgwFteidS5S8Cp = (s.pdnConnections sp).pgwFteidS5S8Cp := by
      simp only [withPaa, setPdnConnection, Function.update_self]
      exact PdnConnection.set_pgwFteidS5S8Cp
    obtain ⟨imsiMap, contexts, sessions⟩ := established_of_establish result
    refine ⟨imsiMap, contexts, ?_⟩
    rw [fteid] at sessions
    rcases sessions with ⟨same, map⟩ | ⟨new, others, map⟩
    · exact .inl ⟨fun other => (same other).trans (stored other), map⟩
    · exact .inr ⟨new, fun other different => (others other different).trans (stored other), map⟩

/-! ## What is known of procedures and sessions in every reachable state -/

structure Tracked (config : Config) (s : State) : Prop where
  grounded : Grounded config s
  registered : Registered s
  own : ∀ pc, ∀ proc ∈ (s.contexts pc).pendingProcedures, ∀ context gtpcTxId teid,
    proc.kind = .deleteSession context gtpcTxId teid → context = pc
  sessions : ∀ pc, ∀ sa ∈ (s.contexts pc).apns, (s.pdnConnections (sa + 1)).seid = 0 ∨
    ((s.pdnConnections (sa + 1)).seid = seidFor config (s.teidOf sa) ∧
      s.seid2pgwContext[seidFor config (s.teidOf sa)]? = some pc)
  nonzero : s.seid2pgwContext[0]? = none

theorem tracked_init (config : Config) : Tracked config (init config.pdns) where
  grounded := grounded_init config
  registered := registered_init config.pdns
  own pc proc member := by simp [init] at member
  sessions pc sa member := by simp [init] at member
  nonzero := by simp [init]

/-- The TEID of an attached connection. -/
theorem Registered.bounds_teidOf (registered : Registered s)
    (member : sa ∈ (s.contexts pc).apns) : 0 < s.teidOf sa ∧ s.teidOf sa < 2 ^ 32 := by
  apply registered.bounds
  rw [registered.keys, ExtTreeMap.mem_iff_isSome_getElem?, registered.routed pc sa member]
  rfl

/-- A step that starts or ends procedures and changes no attachment, no TEID and
no SEID; a procedure is started for a connection of its context. -/
structure SameSessions (s t : State) : Prop extends SameRegistry s t where
  seidMap : t.seid2pgwContext = s.seid2pgwContext
  seids : ∀ sp, (t.pdnConnections sp).seid = (s.pdnConnections sp).seid
  pending : ∀ pc, ∀ proc ∈ (t.contexts pc).pendingProcedures,
    proc ∈ (s.contexts pc).pendingProcedures ∨
      ((s.contexts pc).apns ≠ [] ∧ ∀ context gtpcTxId teid,
        proc.kind = .deleteSession context gtpcTxId teid → context = pc)

/-- The IMSIs stay as well. -/
structure Quiet (s t : State) : Prop extends SameSessions s t where
  imsiMap : t.imsi2pgwContext = s.imsi2pgwContext
  imsis : ∀ pc, (t.contexts pc).imsi = (s.contexts pc).imsi

theorem quiet_refl (s : State) : Quiet s s :=
  ⟨⟨.refl s, rfl, fun _ => rfl, fun _ _ member => .inl member⟩, rfl, fun _ => rfl⟩

theorem quiet_removeProcedure {address : Nat} : Quiet s (s.removeProcedure pc address) where
  toSameRegistry := keeps_removeProcedure.toSameRegistry
  imsiMap := rfl
  seidMap := rfl
  seids _ := rfl
  imsis other := by
    simp only [removeProcedure, setContext, Function.update_apply]
    split
    · next here => rw [here]
    · rfl
  pending other proc member := by
    simp only [removeProcedure, setContext, Function.update_apply] at member
    split at member
    · next here =>
        rw [here]
        exact .inl (List.mem_of_mem_eraseP member)
    · exact .inl member

theorem Quiet.trans {u : State} (first : Quiet s t) (second : Quiet t u) : Quiet s u where
  toSameRegistry := first.toSameRegistry.trans second.toSameRegistry
  imsiMap := second.imsiMap.trans first.imsiMap
  seidMap := second.seidMap.trans first.seidMap
  seids sp := (second.seids sp).trans (first.seids sp)
  imsis pc := (second.imsis pc).trans (first.imsis pc)
  pending pc proc member := by
    rcases second.pending pc proc member with old | new
    · exact first.pending pc proc old
    · rw [first.apns] at new
      exact .inr new

theorem quiet_of_establishmentResponse (answer : SessionEstablishmentResponse) :
    Quiet s (s.handleSessionEstablishmentResponse answer).1 := by
  unfold handleSessionEstablishmentResponse
  split
  · exact quiet_refl s
  · split
    · exact quiet_refl s
    · next proc pending =>
        split
        · have written : Quiet s (s.setPdnConnection proc.ppc
              (established (s.pdnConnections proc.ppc) answer)) :=
            { sameRegistry_setPdnConnection sameAddressing_established.pgwFteidS5S8Cp with
              imsiMap := rfl
              seidMap := rfl
              seids := by
                intro sp
                simp only [setPdnConnection, Function.update_apply]
                split
                · next here => rw [here, sameAddressing_established.seid]
                · rfl
              imsis := fun _ => rfl
              pending := fun _ _ member => .inl member }
          exact written.trans quiet_removeProcedure
        · exact quiet_removeProcedure

theorem quiet_of_started {ppc : Nat} {kind : ProcedureKind} {proc : Procedure}
    (started : Started s pc ppc kind proc t) (attached : (s.contexts pc).apns ≠ [])
    (own : ∀ context gtpcTxId teid, kind = .deleteSession context gtpcTxId teid → context = pc) :
    Quiet s t where
  toSameRegistry := started.keeps.toSameRegistry
  imsiMap := started.imsiMap
  seidMap := started.seidMap
  seids sp := by rw [started.pdnConnections]
  imsis other := by
    rw [started.contexts, Function.update_apply]
    split
    · next here => rw [here]
    · rfl
  pending other entry member := by
    rw [started.contexts, Function.update_apply] at member
    split at member
    · next here =>
        rw [here]
        rcases List.mem_append.mp member with old | new
        · exact .inl old
        · rw [List.mem_singleton.mp new, started.shape.2.2]
          exact .inr ⟨attached, own⟩
    · exact .inl member

/-- The context that a TEID leads to has an APN context, so that a deletion
request never deletes it. -/
theorem quiet_of_deleteSession (registered : Registered s) {order : DeleteSessionRequest}
    {sent : Bool} (handled : s.handleDeleteSessionRequest order sent = some (t, events)) :
    Quiet s t := by
  unfold handleDeleteSessionRequest at handled
  split at handled
  · cases handled
    exact quiet_refl s
  · split at handled
    · next pc routed =>
        obtain ⟨sa, member, -⟩ := registered.owned order.teid pc routed
        have attached : (s.contexts pc).apns ≠ [] := List.ne_nil_of_mem member
        split at handled
        · cases handled
        · next after shown result =>
            cases handled
            have quiet : Quiet s after := by
              unfold deleteInContext at result
              simp only at result
              split at result
              · split at result
                · cases result
                · next proc inserted started =>
                    have start := quiet_of_started (started_of_startProcedure started) attached
                      (by
                        intro context gtpcTxId teid same
                        cases same
                        rfl)
                    split at result
                    · cases result
                      exact start
                    · cases result
                      exact start.trans quiet_removeProcedure
              · split at result
                · cases result
                  exact quiet_refl s
                · cases result
                  exact quiet_refl s
            have still : (after.contexts pc).apns.length ≠ 0 := by
              rw [quiet.apns]
              exact fun empty => attached (List.length_eq_zero_iff.mp empty)
            rw [deleteIfEmpty, if_neg still]
            exact quiet
    · split at handled
      · cases handled
        exact quiet_refl s
      · cases handled
        exact quiet_refl s

theorem Tracked.same (tracked : Tracked config s) (quiet : SameSessions s t)
    (grounded : Grounded config t) : Tracked config t where
  grounded := grounded
  registered := tracked.registered.same quiet.toSameRegistry
  own pc proc member := by
    rcases quiet.pending pc proc member with old | ⟨-, own⟩
    · exact tracked.own pc proc old
    · exact own
  sessions pc sa member := by
    rw [quiet.apns] at member
    have teid : t.teidOf sa = s.teidOf sa := by
      rw [teidOf, quiet.fteids]
      rfl
    rw [quiet.seids, quiet.seidMap, teid]
    exact tracked.sessions pc sa member
  nonzero := by
    rw [quiet.seidMap]
    exact tracked.nonzero

/-! ## Create Session Request -/

theorem sameSessions_entered (grounded : Grounded config s)
    (routed : s.route config request = .context pc before) :
    SameSessions s (before.entered pc request) := by
  have arrived : SameSessions s before := by
    rcases route_context routed with ⟨rfl, -⟩ | ⟨imsi, -, -, rfl, rfl⟩
    · exact (quiet_refl before).toSameSessions
    · refine { sameRegistry_newContext
        (congrArg PgwContext.apns (grounded.blank _ le_rfl)) imsi with
        seidMap := rfl, seids := fun _ => rfl, pending := ?_ }
      intro other proc member
      simp only [newContext, setContext, Function.update_apply] at member
      split at member
      · cases member
      · exact .inl member
  refine { arrived.toSameRegistry.trans keeps_entered.toSameRegistry with
    seidMap := arrived.seidMap, seids := arrived.seids, pending := ?_ }
  intro other proc member
  simp only [entered, setContext, Function.update_apply] at member
  split at member
  · next here =>
      rw [here]
      exact arrived.pending pc proc member
  · exact arrived.pending other proc member

theorem Tracked.attachedNew (tracked : Tracked config s) (allocated : pc < s.nextAddress)
    (new : AttachedNew s pc request teid t) : Tracked config t where
  grounded := tracked.grounded.attachedNew allocated new
  registered := tracked.registered.attachedNew new
  own other proc member := by
    have same : (t.contexts other).pendingProcedures = (s.contexts other).pendingProcedures := by
      rw [new.contexts, Function.update_apply]
      split
      · next here => rw [here]
      · rfl
    rw [same] at member
    exact tracked.own other proc member
  sessions other sa member := by
    rcases new.mem_apns.mp member with old | ⟨rfl, rfl⟩
    · have older := (tracked.registered.single other sa old).2
      rw [new.others (sa + 1) (by omega), new.seidMap, new.teidOf (by omega)]
      exact tracked.sessions other sa old
    · exact .inl new.noSeid
  nonzero := by
    rw [new.seidMap]
    exact tracked.nonzero

/-- The connection that is established and the others. -/
theorem Established.seid_cases (registered : Registered s)
    (established : Established config s pc (sa + 1) t) (member : sa ∈ (s.contexts pc).apns)
    {other sa' : Nat} (member' : sa' ∈ (s.contexts other).apns) :
    ((t.pdnConnections (sa' + 1)).seid = (s.pdnConnections (sa' + 1)).seid ∧
        (s.seid2pgwContext[seidFor config (s.teidOf sa')]? = some other →
          t.seid2pgwContext[seidFor config (s.teidOf sa')]? = some other)) ∨
      ((t.pdnConnections (sa' + 1)).seid = seidFor config (s.teidOf sa') ∧
        t.seid2pgwContext[seidFor config (s.teidOf sa')]? = some other) := by
  rcases established.sessions with ⟨same, map⟩ | ⟨seid, others, map⟩
  · left
    rw [map]
    exact ⟨same _, id⟩
  · by_cases here : sa' = sa
    · right
      rw [here] at member' ⊢
      rw [seid, map, registered.context_eq member' member]
      exact ⟨rfl, ExtTreeMap.getElem?_insert_self⟩
    · left
      refine ⟨others _ (by omega), fun known => ?_⟩
      rw [map, ExtTreeMap.getElem?_insert, if_neg]
      · exact known
      · intro equal
        have teids := seidFor_inj (registered.bounds_teidOf member).2
          (registered.bounds_teidOf member').2 (compare_eq_iff_eq.mp equal)
        exact here (registered.apart other pc sa' member' sa member teids.symm)

theorem Tracked.established (tracked : Tracked config s) (same : SameRegistry s t)
    (grounded : Grounded config t) (member : sa ∈ (s.contexts pc).apns)
    (established : Established config s pc (sa + 1) t) : Tracked config t where
  grounded := grounded
  registered := tracked.registered.same same
  own other proc present := by
    obtain ⟨pending, contexts, kinds⟩ := established.contexts
    rw [contexts, Function.update_apply] at present
    split at present
    · next here =>
        rw [here]
        rcases kinds proc present with old | new
        · exact tracked.own pc proc old
        · exact fun context gtpcTxId teid kind => absurd kind (new context gtpcTxId teid)
    · exact tracked.own other proc present
  sessions other sa' member' := by
    rw [same.apns] at member'
    have teid : t.teidOf sa' = s.teidOf sa' := by
      rw [teidOf, same.fteids]
      rfl
    rw [teid]
    rcases established.seid_cases tracked.registered member member' with ⟨seid, kept⟩ | new
    · rw [seid]
      rcases tracked.sessions other sa' member' with none | ⟨own, known⟩
      · exact .inl none
      · exact .inr ⟨own, kept known⟩
    · exact .inr new
  nonzero := by
    rcases established.sessions with ⟨-, map⟩ | ⟨-, -, map⟩
    · rw [map]
      exact tracked.nonzero
    · rw [map, ExtTreeMap.getElem?_insert, if_neg]
      · exact tracked.nonzero
      · intro equal
        exact seidFor_ne_zero (tracked.registered.bounds_teidOf member).1
          (compare_eq_iff_eq.mp equal)

/-- The connection of a request, once it is attached. -/
theorem Tracked.attach (tracked : Tracked config s) (allocated : pc < s.nextAddress)
    (attached : s.attach pc request = some (t, sa, sp)) :
    Tracked config t ∧ sa ∈ (t.contexts pc).apns ∧ sp = sa + 1 := by
  rcases attach_cases attached with ⟨found, rfl⟩ | ⟨-, rfl, rfl, teid, new⟩
  · obtain ⟨member, -, inside⟩ := of_findPdnConnectionOfApn found
    rw [(tracked.registered.single pc sa member).1] at inside
    exact ⟨tracked, member, List.mem_singleton.mp inside⟩
  · exact ⟨tracked.attachedNew allocated new, new.mem_apns.mpr (.inr ⟨rfl, rfl⟩), rfl⟩

theorem Tracked.create (tracked : Tracked config s)
    (handled : s.handleCreateSessionRequest config request upNode endValue = some (t, events)) :
    Tracked config t := by
  rcases create_cases handled with ⟨-, rfl, -⟩ |
      ⟨pc, sa, sp, before, after, routed, attached, ran⟩
  · exact tracked
  · obtain ⟨arrived, allocated⟩ := tracked.grounded.routed routed
    have enteredTracked : Tracked config (before.entered pc request) :=
      tracked.same (sameSessions_entered tracked.grounded routed) (arrived.entered allocated)
    obtain ⟨attachedTracked, member, rfl⟩ := enteredTracked.attach allocated attached
    exact attachedTracked.established (sameRegistry_assignPaa ran)
      (tracked.grounded.create handled) member (established_of_assignPaa ran)

/-! ## Deletion response -/

/-- What a deletion response leaves before the context is looked at again. -/
inductive Answered (s : State) (answer : SessionDeletionResponse) (pc : Nat) : State → Prop where
  | unknown (missing : s.findProcedure pc answer.trxnId = none) (nothing : s.detaches answer = none) :
      Answered s answer pc s
  | kept (proc : Procedure) (found : s.findProcedure pc answer.trxnId = some proc)
      (nothing : s.detaches answer = none) :
      Answered s answer pc (s.removeProcedure pc proc.address)
  | removed (proc : Procedure) (found : s.findProcedure pc answer.trxnId = some proc) (sa : Nat)
      (taken : s.detaches answer = some (sa, sa + 1)) (member : sa ∈ (s.contexts pc).apns)
      (without : Removed s pc sa (s.deletePdnConnection pc sa (sa + 1))) :
      Answered s answer pc
        ((s.deletePdnConnection pc sa (sa + 1)).removeProcedure pc proc.address)

theorem mem_of_findProcedure {trxnId : Nat} {proc : Procedure}
    (found : s.findProcedure pc trxnId = some proc) :
    proc ∈ (s.contexts pc).pendingProcedures :=
  List.mem_of_find?_eq_some found

theorem deletionResponse_answered (tracked : Tracked config s) (answer : SessionDeletionResponse) :
    (s.seid2pgwContext[answer.seid]? = none ∧ s.detaches answer = none ∧
        (s.handleSessionDeletionResponse answer).1 = s) ∨
      ∃ pc middle, s.seid2pgwContext[answer.seid]? = some pc ∧ Answered s answer pc middle ∧
        (s.handleSessionDeletionResponse answer).1 = middle.deleteIfEmpty pc := by
  cases known : s.seid2pgwContext[answer.seid]? with
  | none =>
      left
      simp only [detaches, handleSessionDeletionResponse, known, and_self]
  | some pc =>
      right
      cases found : s.findProcedure pc answer.trxnId with
      | none =>
          refine ⟨pc, s, rfl, .unknown found ?_, ?_⟩
          · simp only [detaches, known, found]
          · simp only [handleSessionDeletionResponse, known, found]
      | some proc =>
          cases kind : proc.kind with
          | sessionEstablishment bearers waiting =>
              refine ⟨pc, _, rfl, .kept proc found ?_, ?_⟩
              · simp only [detaches, known, found, kind]
              · simp only [handleSessionDeletionResponse, known, found, kind]
          | deleteSession context gtpcTxId teid =>
              have own := tracked.own pc proc (mem_of_findProcedure found) context gtpcTxId teid kind
              subst own
              have search : s.detaches answer = s.findPdnConnection context
                  (s.pdnConnections proc.ppc).pgwFteidS5S8Cp.teidGreKey true := by
                simp only [detaches, known, found, kind]
              have handled : (s.handleSessionDeletionResponse answer).1 =
                  ((s.deleted context proc.ppc).1.removeProcedure context
                    proc.address).deleteIfEmpty context := by
                simp only [handleSessionDeletionResponse, known, found, kind]
              rw [handled]
              rcases deleted_cases tracked.registered context proc.ppc with
                ⟨missing, same⟩ | ⟨sa, member, hit, same, removed⟩
              · rw [same]
                exact ⟨context, _, rfl, .kept proc found (search.trans missing), rfl⟩
              · rw [same]
                exact ⟨context, _, rfl,
                  .removed proc found sa (search.trans hit) member removed, rfl⟩

theorem sameSessions_deleteIfEmpty : SameSessions s (s.deleteIfEmpty pc) := by
  unfold deleteIfEmpty
  split
  · exact ⟨⟨fun _ => rfl, rfl, fun _ => rfl, rfl, rfl, le_rfl⟩, rfl, fun _ => rfl,
      fun _ _ member => .inl member⟩
  · exact (quiet_refl s).toSameSessions

/-- What is still attached after a removal. -/
theorem Removed.still_attached (registered : Registered s) (member : sa ∈ (s.contexts pc).apns)
    (removed : Removed s pc sa t) {other sa' : Nat} (attached : sa' ∈ (t.contexts other).apns) :
    sa' ∈ (s.contexts other).apns ∧ sa' ≠ sa ∧
      t.pdnConnections (sa' + 1) = s.pdnConnections (sa' + 1) := by
  obtain ⟨old, different⟩ := removed.mem_apns registered attached
  have apart : sa' ≠ sa := by
    intro same
    rw [same] at old
    exact different (registered.context_eq old member) same
  refine ⟨old, apart, ?_⟩
  rw [removed.pdnConnections, Function.update_of_ne (by omega)]

theorem Removed.pending (removed : Removed s pc sa t) (other : Nat) :
    (t.contexts other).pendingProcedures = (s.contexts other).pendingProcedures := by
  rw [removed.contexts, Function.update_apply]
  split
  · next here => rw [here]
  · rfl

theorem Tracked.removed (tracked : Tracked config s) (member : sa ∈ (s.contexts pc).apns)
    (removed : Removed s pc sa t) (grounded : Grounded config t) : Tracked config t where
  grounded := grounded
  registered := tracked.registered.removed member removed
  own other proc present := by
    rw [removed.pending] at present
    exact tracked.own other proc present
  sessions other sa' attached := by
    obtain ⟨old, -, same⟩ := removed.still_attached tracked.registered member attached
    rw [teidOf, same, removed.seidMap]
    exact tracked.sessions other sa' old
  nonzero := by
    rw [removed.seidMap]
    exact tracked.nonzero

theorem Tracked.answered (tracked : Tracked config s) {answer : SessionDeletionResponse}
    (answered : Answered s answer pc t) : Tracked config t := by
  cases answered with
  | unknown => exact tracked
  | kept proc =>
      exact tracked.same quiet_removeProcedure.toSameSessions
        (tracked.grounded.removeProcedure proc.address)
  | removed proc found sa taken member without =>
      have middle := tracked.removed member without tracked.grounded.deletePdnConnection
      exact middle.same quiet_removeProcedure.toSameSessions
        (middle.grounded.removeProcedure proc.address)

theorem Tracked.step {action : Action} (tracked : Tracked config s)
    (taken : Pgw.step config s action = some (t, events)) : Tracked config t := by
  have grounded := tracked.grounded.step taken
  cases action with
  | createSession request upNode endValue => exact tracked.create taken
  | sessionEstablishmentResponse answer =>
      have quiet : Quiet s (s.handleSessionEstablishmentResponse answer).1 :=
        quiet_of_establishmentResponse answer
      rw [Option.some.inj taken] at quiet
      exact tracked.same quiet.toSameSessions grounded
  | deleteSession order sent =>
      exact tracked.same (quiet_of_deleteSession tracked.registered taken).toSameSessions grounded
  | sessionDeletionResponse answer =>
      have same : (s.handleSessionDeletionResponse answer).1 = t := by
        rw [Option.some.inj taken]
      rcases deletionResponse_answered tracked answer with
        ⟨-, -, unchanged⟩ | ⟨pc, middle, -, answered, tidied⟩
      · rw [← same, unchanged]
        exact tracked
      · rw [← same, tidied] at grounded ⊢
        exact (tracked.answered answered).same sameSessions_deleteIfEmpty grounded

/-! ## The SEID map -/

/-- Every SEID of the map is the one of a connection attached to its context. -/
def Live (s : State) : Prop :=
  ∀ seid pc : Nat, s.seid2pgwContext[seid]? = some pc →
    ∃ sa ∈ (s.contexts pc).apns, (s.pdnConnections (sa + 1)).seid = seid

/-- The other half always holds. -/
theorem Tracked.seidRouted_iff (tracked : Tracked config s) : s.SeidRouted ↔ s.Live := by
  constructor
  · intro routed seid pc known
    obtain ⟨sa, member, sp, inside, own⟩ := routed.attached seid pc known
    rw [(tracked.registered.single pc sa member).1, List.mem_singleton] at inside
    rw [inside] at own
    exact ⟨sa, member, own⟩
  · intro live
    constructor
    · intro seid pc known
      obtain ⟨sa, member, own⟩ := live seid pc known
      refine ⟨sa, member, sa + 1, ?_, own⟩
      rw [(tracked.registered.single pc sa member).1]
      exact List.mem_singleton_self _
    · intro pc sa member sp inside session
      rw [(tracked.registered.single pc sa member).1, List.mem_singleton] at inside
      rw [inside] at session ⊢
      rcases tracked.sessions pc sa member with none | ⟨own, known⟩
      · exact absurd none session
      · rw [own]
        exact known

theorem live_init (pdns : List PdnCfg) : Live (init pdns) := by
  intro seid pc known
  simp [init] at known

theorem Live.same (live : Live s) (same : SameSessions s t) : Live t := by
  intro seid pc known
  rw [same.seidMap] at known
  obtain ⟨sa, member, own⟩ := live seid pc known
  refine ⟨sa, ?_, (same.seids _).trans own⟩
  rw [same.apns]
  exact member

theorem Live.attach (live : Live s) (tracked : Tracked config s)
    (attached : s.attach pc request = some (t, sa, sp)) : Live t := by
  rcases attach_cases attached with ⟨-, rfl⟩ | ⟨-, -, -, teid, new⟩
  · exact live
  · intro seid other known
    rw [new.seidMap] at known
    obtain ⟨sa', member, own⟩ := live seid other known
    refine ⟨sa', new.mem_apns.mpr (.inl member), ?_⟩
    have older := (tracked.registered.single other sa' member).2
    rw [new.others (sa' + 1) (by omega)]
    exact own

theorem Live.established (live : Live s) (tracked : Tracked config s) (same : SameRegistry s t)
    (member : sa ∈ (s.contexts pc).apns) (established : Established config s pc (sa + 1) t) :
    Live t := by
  intro seid other known
  rcases established.sessions with ⟨seids, map⟩ | ⟨new, others, map⟩
  · rw [map] at known
    obtain ⟨sa', member', own⟩ := live seid other known
    refine ⟨sa', ?_, (seids _).trans own⟩
    rw [same.apns]
    exact member'
  · rw [map, ExtTreeMap.getElem?_insert] at known
    split at known
    · next here =>
        cases known
        refine ⟨sa, ?_, new.trans (compare_eq_iff_eq.mp here)⟩
        rw [same.apns]
        exact member
    · next elsewhere =>
        obtain ⟨sa', member', own⟩ := live seid other known
        refine ⟨sa', by rw [same.apns]; exact member', ?_⟩
        by_cases here : sa' = sa
        · -- The connection had this SEID before, and it is given the same one again.
          rw [here] at member' own ⊢
          rcases tracked.sessions other sa member' with none | ⟨before, -⟩
          · exfalso
            rw [none] at own
            rw [← own, tracked.nonzero] at known
            cases known
          · exact absurd (compare_eq_iff_eq.mpr (before.symm.trans own)) elsewhere
        · rw [others _ (by omega)]
          exact own

theorem Live.create (live : Live s) (tracked : Tracked config s)
    (handled : s.handleCreateSessionRequest config request upNode endValue = some (t, events)) :
    Live t := by
  rcases create_cases handled with ⟨-, rfl, -⟩ |
      ⟨pc, sa, sp, before, after, routed, attached, ran⟩
  · exact live
  · obtain ⟨arrived, allocated⟩ := tracked.grounded.routed routed
    have same := sameSessions_entered tracked.grounded routed
    have enteredTracked := tracked.same same (arrived.entered allocated)
    obtain ⟨attachedTracked, member, rfl⟩ := enteredTracked.attach allocated attached
    exact ((live.same same).attach enteredTracked attached).established attachedTracked
      (sameRegistry_assignPaa ran) member (established_of_assignPaa ran)

/-- A removed connection must not have had a session. -/
theorem Removed.live_iff (live : Live s) (tracked : Tracked config s)
    (member : sa ∈ (s.contexts pc).apns) (removed : Removed s pc sa t) :
    Live t ↔ (s.pdnConnections (sa + 1)).seid = 0 := by
  constructor
  · intro after
    rcases tracked.sessions pc sa member with none | ⟨own, known⟩
    · exact none
    · exfalso
      rw [← removed.seidMap] at known
      obtain ⟨sa', attached, same⟩ := after _ pc known
      obtain ⟨old, different, kept⟩ := removed.still_attached tracked.registered member attached
      rw [kept] at same
      rcases tracked.sessions pc sa' old with none | ⟨own', -⟩
      · rw [none] at same
        exact seidFor_ne_zero (tracked.registered.bounds_teidOf member).1 same.symm
      · have teids := seidFor_inj (tracked.registered.bounds_teidOf old).2
          (tracked.registered.bounds_teidOf member).2 (own'.symm.trans same)
        exact different (tracked.registered.apart pc pc sa' old sa member teids)
  · intro none seid other known
    rw [removed.seidMap] at known
    obtain ⟨sa', old, own⟩ := live seid other known
    have different : sa' ≠ sa := by
      intro same
      rw [same, none] at own
      rw [← own, tracked.nonzero] at known
      cases known
    refine ⟨sa', ?_, ?_⟩
    · rw [removed.contexts, Function.update_apply]
      split
      · next here =>
          rw [here] at old
          exact (List.mem_erase_of_ne different).mpr old
      · exact old
    · rw [removed.pdnConnections, Function.update_of_ne (by omega)]
      exact own

/-- Removing a procedure and forgetting an IMSI change nothing about sessions. -/
theorem live_tidied_iff {address : Nat} :
    Live ((s.removeProcedure pc address).deleteIfEmpty pc) ↔ Live s := by
  have maps : ((s.removeProcedure pc address).deleteIfEmpty pc).seid2pgwContext =
      s.seid2pgwContext :=
    sameSessions_deleteIfEmpty.seidMap.trans quiet_removeProcedure.seidMap
  have seids : ∀ sp, (((s.removeProcedure pc address).deleteIfEmpty pc).pdnConnections sp).seid =
      (s.pdnConnections sp).seid := fun sp =>
    (sameSessions_deleteIfEmpty.seids sp).trans (quiet_removeProcedure.seids sp)
  have apns : ∀ other, (((s.removeProcedure pc address).deleteIfEmpty pc).contexts other).apns =
      (s.contexts other).apns := fun other =>
    (sameSessions_deleteIfEmpty.apns other).trans (quiet_removeProcedure.apns other)
  unfold Live
  simp only [maps, seids, apns]

theorem live_step_iff {action : Action} (live : Live s) (tracked : Tracked config s)
    (taken : Pgw.step config s action = some (t, events)) :
    Live t ↔ s.KeepsSession action := by
  cases action with
  | createSession request upNode endValue =>
      exact ⟨fun _ => trivial, fun _ => live.create tracked taken⟩
  | sessionEstablishmentResponse answer =>
      have quiet : Quiet s (s.handleSessionEstablishmentResponse answer).1 :=
        quiet_of_establishmentResponse answer
      rw [Option.some.inj taken] at quiet
      exact ⟨fun _ => trivial, fun _ => live.same quiet.toSameSessions⟩
  | deleteSession order sent =>
      exact ⟨fun _ => trivial,
        fun _ => live.same (quiet_of_deleteSession tracked.registered taken).toSameSessions⟩
  | sessionDeletionResponse answer =>
      have same : (s.handleSessionDeletionResponse answer).1 = t := by
        rw [Option.some.inj taken]
      have quietly : s.detaches answer = none → s.KeepsSession (.sessionDeletionResponse answer) := by
        intro nothing sa sp hit
        rw [nothing] at hit
        cases hit
      rcases deletionResponse_answered tracked answer with
        ⟨-, nothing, unchanged⟩ | ⟨pc, middle, -, answered, tidied⟩
      · rw [← same, unchanged]
        exact ⟨fun _ => quietly nothing, fun _ => live⟩
      · rw [← same, tidied]
        cases answered with
        | unknown missing nothing =>
            exact ⟨fun _ => quietly nothing, fun _ => live.same sameSessions_deleteIfEmpty⟩
        | kept proc found nothing =>
            rw [live_tidied_iff]
            exact ⟨fun _ => quietly nothing, fun _ => live⟩
        | removed proc found sa hit member without =>
            rw [live_tidied_iff, without.live_iff live tracked member]
            constructor
            · intro none sa' sp other
              rw [hit] at other
              cases other
              exact none
            · exact fun keeps => keeps sa (sa + 1) hit

end State

end OpenairSpgwc.Pgw
