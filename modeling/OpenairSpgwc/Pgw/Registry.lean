import OpenairSpgwc.Pgw.Reachable

/-!
Contract: the control TEIDs of the PGW, the set that allocates them and the map
that routes by them.

Owns:
- `Registered`, an invariant of every reachable state: an attached APN context
  has one connection, whose TEID is allocated, leads to its context and is no
  other connection's, and no other TEID is allocated;
- what the removal of a connection does to contexts, TEIDs and connections;
- `RegistryStep`, the three things that a step can do to the registry.

Does not own: the IMSI and the SEID map.
-/

namespace OpenairSpgwc.Pgw

open Foundation
open OpenairSpgwc.Common
open Std (ExtTreeMap)

namespace State

/-- The local control TEID of the connection of an APN context: `attach` makes
the connection right after its APN context. -/
def teidOf (s : State) (sa : Nat) : Nat := (s.pdnConnections (sa + 1)).pgwFteidS5S8Cp.teidGreKey

structure Registered (s : State) : Prop where
  keys : ∀ teid, teid ∈ s.s5s8cplteid ↔ teid ∈ s.s5s8lteid2pgwContext
  bounds : ∀ teid ∈ s.s5s8cplteid, 0 < teid ∧ teid < 2 ^ 32
  single : ∀ pc, ∀ sa ∈ (s.contexts pc).apns,
    (s.apnContexts sa).pdnConnections = [sa + 1] ∧ sa + 1 < s.nextAddress
  nodup : ∀ pc, (s.contexts pc).apns.Nodup
  routed : ∀ pc, ∀ sa ∈ (s.contexts pc).apns, s.s5s8lteid2pgwContext[s.teidOf sa]? = some pc
  owned : ∀ teid pc : Nat, s.s5s8lteid2pgwContext[teid]? = some pc →
    ∃ sa ∈ (s.contexts pc).apns, s.teidOf sa = teid
  apart : ∀ pc pc', ∀ sa ∈ (s.contexts pc).apns, ∀ sa' ∈ (s.contexts pc').apns,
    s.teidOf sa = s.teidOf sa' → sa = sa'

variable {config : Config} {s t before after : State} {request : CreateSessionRequest}
  {response : CreateSessionResponse} {upNode : UpNode} {events : List Event}
  {pc sa sp teid endValue : Nat} {label : String}

theorem registered_init (pdns : List PdnCfg) : Registered (init pdns) where
  keys teid := by simp [init]
  bounds teid member := by simp [init] at member
  single pc sa member := by simp [init] at member
  nodup pc := List.nodup_nil
  routed pc sa member := by simp [init] at member
  owned teid pc known := by simp [init] at known
  apart pc pc' sa member := by simp [init] at member

/-- An APN context hangs in one context. -/
theorem Registered.context_eq (registered : Registered s) {pc' : Nat}
    (member : sa ∈ (s.contexts pc).apns) (member' : sa ∈ (s.contexts pc').apns) : pc = pc' :=
  Option.some.inj ((registered.routed pc sa member).symm.trans (registered.routed pc' sa member'))

theorem Registered.same (registered : Registered s) (same : SameRegistry s t) : Registered t := by
  have teids : ∀ sa, t.teidOf sa = s.teidOf sa := by
    intro sa
    rw [teidOf, same.fteids]
    rfl
  constructor
  · rw [same.teids, same.teidMap]
    exact registered.keys
  · rw [same.teids]
    exact registered.bounds
  · intro pc sa member
    rw [same.apns] at member
    obtain ⟨one, older⟩ := registered.single pc sa member
    rw [same.apnContexts]
    exact ⟨one, older.trans_le same.nextAddress⟩
  · intro pc
    rw [same.apns]
    exact registered.nodup pc
  · intro pc sa member
    rw [same.apns] at member
    rw [same.teidMap, teids]
    exact registered.routed pc sa member
  · intro teid pc known
    rw [same.teidMap] at known
    obtain ⟨sa, member, own⟩ := registered.owned teid pc known
    refine ⟨sa, ?_, (teids sa).trans own⟩
    rw [same.apns]
    exact member
  · intro pc pc' sa member sa' member' equal
    rw [same.apns] at member member'
    rw [teids, teids] at equal
    exact registered.apart pc pc' sa member sa' member' equal

/-! ## Attaching -/

theorem sameRegistry_newContext (blank : (s.contexts s.nextAddress).apns = []) (imsi : Nat) :
    SameRegistry s (s.newContext imsi) where
  apns pc := by
    simp only [newContext, setContext, Function.update_apply]
    split
    · next here => rw [here, blank]
    · rfl
  apnContexts := rfl
  fteids _ := rfl
  teids := rfl
  teidMap := rfl
  nextAddress := Nat.le_succ _

/-- The teids of older connections. -/
theorem AttachedNew.teidOf (new : AttachedNew s pc request teid t) (older : sa < s.nextAddress) :
    t.teidOf sa = s.teidOf sa := by
  rw [State.teidOf, new.others (sa + 1) (by omega)]
  rfl

theorem AttachedNew.mem_apns (new : AttachedNew s pc request teid t) {other : Nat} :
    sa ∈ (t.contexts other).apns ↔
      sa ∈ (s.contexts other).apns ∨ (other = pc ∧ sa = s.nextAddress) := by
  rw [new.contexts, Function.update_apply]
  split
  · next here => simp [here]
  · next elsewhere => simp [elsewhere]

theorem Registered.attachedNew (registered : Registered s)
    (new : AttachedNew s pc request teid t) : Registered t := by
  have older : ∀ pc sa, sa ∈ (s.contexts pc).apns → sa < s.nextAddress := by
    intro pc sa member
    have := (registered.single pc sa member).2
    omega
  have newTeid : t.teidOf s.nextAddress = teid := new.teidGreKey
  have unused : ∀ pc sa, sa ∈ (s.contexts pc).apns → s.teidOf sa ≠ teid := by
    intro pc sa member equal
    have known := registered.routed pc sa member
    rw [equal] at known
    exact new.fresh ((registered.keys teid).mpr (ExtTreeMap.mem_iff_isSome_getElem?.mpr
      (by rw [known]; rfl)))
  constructor
  · intro other
    rw [new.teids, new.teidMap, Finset.mem_insert, ExtTreeMap.mem_insert, compare_eq_iff_eq,
      registered.keys, eq_comm]
  · intro other member
    rw [new.teids, Finset.mem_insert] at member
    rcases member with rfl | member
    · exact new.bounds
    · exact registered.bounds other member
  · intro other sa member
    rw [new.nextAddress, new.apnContexts, Function.update_apply]
    rcases new.mem_apns.mp member with old | ⟨rfl, rfl⟩
    · obtain ⟨one, small⟩ := registered.single other sa old
      rw [if_neg (by omega)]
      exact ⟨one, by omega⟩
    · rw [if_pos rfl]
      exact ⟨rfl, by omega⟩
  · intro other
    rw [new.contexts, Function.update_apply]
    split
    · apply List.Nodup.append (registered.nodup pc) (List.nodup_singleton _)
      intro sa member last
      rw [List.mem_singleton.mp last] at member
      exact absurd (older pc _ member) (lt_irrefl _)
    · exact registered.nodup other
  · intro other sa member
    rw [new.teidMap, ExtTreeMap.getElem?_insert]
    rcases new.mem_apns.mp member with old | ⟨rfl, rfl⟩
    · rw [new.teidOf (older other sa old), if_neg]
      · exact registered.routed other sa old
      · intro same
        exact unused other sa old (compare_eq_iff_eq.mp same).symm
    · rw [newTeid, if_pos (compare_eq_iff_eq.mpr rfl)]
  · intro key other known
    rw [new.teidMap, ExtTreeMap.getElem?_insert] at known
    split at known
    · next same =>
        cases known
        refine ⟨s.nextAddress, new.mem_apns.mpr (.inr ⟨rfl, rfl⟩), ?_⟩
        rw [newTeid, compare_eq_iff_eq.mp same]
    · obtain ⟨sa, member, own⟩ := registered.owned key other known
      refine ⟨sa, new.mem_apns.mpr (.inl member), ?_⟩
      rw [new.teidOf (older other sa member), own]
  · intro left right sa member sa' member' equal
    rcases new.mem_apns.mp member with old | ⟨rfl, rfl⟩ <;>
      rcases new.mem_apns.mp member' with old' | ⟨rfl, rfl⟩
    · rw [new.teidOf (older left sa old), new.teidOf (older right sa' old')] at equal
      exact registered.apart left right sa old sa' old' equal
    · rw [new.teidOf (older left sa old), newTeid] at equal
      exact absurd equal (unused left sa old)
    · rw [new.teidOf (older right sa' old'), newTeid] at equal
      exact absurd equal.symm (unused right sa' old')
    · rfl

/-! ## Removing -/

/-- The state after the APN context `sa` of `pc` and its connection were removed. -/
structure Removed (s : State) (pc sa : Nat) (t : State) : Prop where
  contexts : t.contexts = Function.update s.contexts pc
    { s.contexts pc with apns := (s.contexts pc).apns.erase sa }
  apnContexts : ∀ other, other ≠ sa → t.apnContexts other = s.apnContexts other
  pdnConnections : t.pdnConnections =
    Function.update s.pdnConnections (sa + 1) (s.pdnConnections (sa + 1)).clear
  teids : t.s5s8cplteid = (s.s5s8cplteid.erase (s.teidOf sa)).erase 0
  teidMap : t.s5s8lteid2pgwContext = (s.s5s8lteid2pgwContext.erase (s.teidOf sa)).erase 0
  seidMap : t.seid2pgwContext = s.seid2pgwContext
  imsiMap : t.imsi2pgwContext = s.imsi2pgwContext
  nextAddress : t.nextAddress = s.nextAddress

/-- The second deallocation frees the TEID of a cleared connection, zero. -/
theorem removed_deletePdnConnection (member : sa ∈ (s.contexts pc).apns)
    (one : (s.apnContexts sa).pdnConnections = [sa + 1]) :
    Removed s pc sa (s.deletePdnConnection pc sa (sa + 1)) := by
  have detached : s.deleteFromApn sa (sa + 1) =
      ((s.deallocateRessources (s.apnContexts sa).apnInUse (sa + 1)).deallocateRessources
        (s.apnContexts sa).apnInUse (sa + 1)).setApnContext sa
        { s.apnContexts sa with pdnConnections := [] } := by
    have same : (s.deallocateRessources (s.apnContexts sa).apnInUse (sa + 1)).apnContexts =
        s.apnContexts := rfl
    simp only [deleteFromApn, same, one, List.mem_singleton, if_true, List.erase_cons_head]
  have emptied : ((s.deleteFromApn sa (sa + 1)).apnContexts sa).pdnConnections = [] := by
    rw [detached]
    simp [setApnContext]
  have still : sa ∈ ((s.deleteFromApn sa (sa + 1)).contexts pc).apns := by
    rw [detached]
    exact member
  unfold deletePdnConnection
  simp only [emptied, List.length_nil, if_true, deleteApnContext, still, deallocateApn,
    List.foldl_nil]
  rw [detached]
  exact
    { contexts := rfl
      apnContexts := by
        intro other different
        simp [setContext, setApnContext, different, deallocateRessources, setPdnConnection,
          freeS5s8CpFteid]
      pdnConnections := by
        simp [setContext, setApnContext, deallocateRessources, setPdnConnection, freeS5s8CpFteid,
          PdnConnection.clear]
      teids := by
        simp [setContext, setApnContext, deallocateRessources, setPdnConnection, freeS5s8CpFteid,
          PdnConnection.clear, teidOf]
      teidMap := by
        simp [setContext, setApnContext, deallocateRessources, setPdnConnection, freeS5s8CpFteid,
          PdnConnection.clear, teidOf]
      seidMap := rfl
      imsiMap := rfl
      nextAddress := rfl }

theorem Removed.mem_apns (registered : Registered s) (removed : Removed s pc sa t) {other : Nat}
    {sa' : Nat} (member : sa' ∈ (t.contexts other).apns) :
    sa' ∈ (s.contexts other).apns ∧ (other = pc → sa' ≠ sa) := by
  rw [removed.contexts, Function.update_apply] at member
  split at member
  · next here =>
      obtain ⟨different, old⟩ := (registered.nodup pc).mem_erase_iff.mp member
      rw [here]
      exact ⟨old, fun _ => different⟩
  · next elsewhere => exact ⟨member, fun here => absurd here elsewhere⟩

theorem Registered.removed (registered : Registered s) (member : sa ∈ (s.contexts pc).apns)
    (removed : Removed s pc sa t) : Registered t := by
  -- What is still attached is another APN context, so it has another TEID.
  have others : ∀ other sa', sa' ∈ (t.contexts other).apns →
      sa' ∈ (s.contexts other).apns ∧ sa' ≠ sa ∧ t.teidOf sa' = s.teidOf sa' := by
    intro other sa' attached
    obtain ⟨old, different⟩ := removed.mem_apns registered attached
    have apart : sa' ≠ sa := by
      intro same
      rw [same] at old
      exact different (registered.context_eq old member) same
    refine ⟨old, apart, ?_⟩
    rw [teidOf, removed.pdnConnections, Function.update_of_ne (by omega)]
    rfl
  have nonzero : ∀ other sa', sa' ∈ (s.contexts other).apns → s.teidOf sa' ≠ 0 := by
    intro other sa' attached
    have known := registered.routed other sa' attached
    have listed := (registered.keys _).mpr (ExtTreeMap.mem_iff_isSome_getElem?.mpr
      (by rw [known]; rfl))
    exact Nat.ne_of_gt (registered.bounds _ listed).1
  constructor
  · intro teid
    rw [removed.teids, removed.teidMap, Finset.mem_erase, Finset.mem_erase, registered.keys,
      ExtTreeMap.mem_erase, ExtTreeMap.mem_erase, ne_eq, ne_eq, ne_eq, ne_eq, compare_eq_iff_eq,
      compare_eq_iff_eq, @eq_comm _ teid 0, @eq_comm _ teid (s.teidOf sa)]
  · intro teid listed
    rw [removed.teids] at listed
    exact registered.bounds teid (Finset.mem_of_mem_erase (Finset.mem_of_mem_erase listed))
  · intro other sa' attached
    obtain ⟨old, different, -⟩ := others other sa' attached
    rw [removed.apnContexts sa' different, removed.nextAddress]
    exact registered.single other sa' old
  · intro other
    rw [removed.contexts, Function.update_apply]
    split
    · exact (registered.nodup pc).erase sa
    · exact registered.nodup other
  · intro other sa' attached
    obtain ⟨old, different, same⟩ := others other sa' attached
    rw [removed.teidMap, same, ExtTreeMap.getElem?_erase, ExtTreeMap.getElem?_erase, if_neg,
      if_neg]
    · exact registered.routed other sa' old
    · intro equal
      exact different (registered.apart other pc sa' old sa member (compare_eq_iff_eq.mp equal).symm)
    · intro equal
      exact nonzero other sa' old (compare_eq_iff_eq.mp equal).symm
  · intro teid other known
    rw [removed.teidMap] at known
    have first := getElem?_of_erase known
    have second := getElem?_of_erase first
    obtain ⟨sa', old, own⟩ := registered.owned teid other second
    have different : sa' ≠ sa := by
      intro same
      rw [ExtTreeMap.getElem?_erase, if_pos (compare_eq_iff_eq.mpr (by rw [← own, same]))] at first
      cases first
    have attached : sa' ∈ (t.contexts other).apns := by
      rw [removed.contexts, Function.update_apply]
      split
      · next here =>
          rw [here] at old
          exact (List.mem_erase_of_ne different).mpr old
      · exact old
    exact ⟨sa', attached, (others other sa' attached).2.2.trans own⟩
  · intro left right sa' attached sa'' attached' equal
    obtain ⟨old, -, same⟩ := others left sa' attached
    obtain ⟨old', -, same'⟩ := others right sa'' attached'
    rw [same, same'] at equal
    exact registered.apart left right sa' old sa'' old' equal

/-! ## Steps -/

theorem sameRegistry_assignPaa
    (ran : s.assignPaa config pc sa sp request upNode endValue = some (t, events)) :
    SameRegistry s t := by
  rcases assignPaa_cases ran with ⟨-, rfl, -⟩ | ⟨-, -, paa, pending, started, -, -, -, result, -⟩
  · exact ⟨fun _ => rfl, rfl, fun _ => rfl, rfl, rfl, le_rfl⟩
  · have pools : SameRegistry s { s with paaDynamic := (s.paaFor sa sp request endValue).pools } :=
      ⟨fun _ => rfl, rfl, fun _ => rfl, rfl, rfl, le_rfl⟩
    have stored : SameRegistry s (s.withPaa sp (s.paaFor sa sp request endValue) paa) :=
      pools.trans (sameRegistry_setPdnConnection PdnConnection.set_pgwFteidS5S8Cp)
    exact stored.trans (establish_effect result).1.toSameRegistry

theorem sameRegistry_routed (blank : (s.contexts s.nextAddress).apns = [])
    (routed : s.route config request = .context pc t) : SameRegistry s t := by
  rcases route_context routed with ⟨rfl, -⟩ | ⟨imsi, -, -, rfl, rfl⟩
  · exact .refl t
  · exact sameRegistry_newContext blank imsi

/-- What a step does to the registry. -/
inductive RegistryStep (s t : State) : Prop where
  | same (same : SameRegistry s t)
  | attached {pc teid : Nat} {request : CreateSessionRequest} {before after : State}
      (arrives : SameRegistry s before) (new : AttachedNew before pc request teid after)
      (leaves : SameRegistry after t)
  | removed {pc sa : Nat} {after : State} (member : sa ∈ (s.contexts pc).apns)
      (removed : Removed s pc sa after) (leaves : SameRegistry after t)

theorem Registered.of_step (registered : Registered s) (step : RegistryStep s t) :
    Registered t := by
  cases step with
  | same same => exact registered.same same
  | attached arrives new leaves => exact ((registered.same arrives).attachedNew new).same leaves
  | removed member removed leaves => exact (registered.removed member removed).same leaves

theorem SameRegistry.findPdnConnectionOfApn_eq (same : SameRegistry s t) (pc : Nat)
    (apn : String) (teid : Nat) : t.findPdnConnectionOfApn pc apn teid true =
      s.findPdnConnectionOfApn pc apn teid true := by
  simp only [findPdnConnectionOfApn, findApnContext, findInApn, if_true, same.apns,
    same.apnContexts, same.fteids]

/-- A Create Session Request is not handed to a context, or takes a connection that is there,
or makes an APN context with a connection. -/
theorem create_registry (blank : (s.contexts s.nextAddress).apns = [])
    (handled : s.handleCreateSessionRequest config request upNode endValue = some (t, events)) :
    ((∀ pc before, s.route config request ≠ .context pc before) ∧ t = s) ∨
      ∃ pc before, s.route config request = .context pc before ∧
        (((s.findPdnConnectionOfApn pc request.apn request.teid true).isSome ∧
            SameRegistry s t) ∨
          (s.findPdnConnectionOfApn pc request.apn request.teid true = none ∧
            ∃ teid arrived after, SameRegistry s arrived ∧
              AttachedNew arrived pc request teid after ∧ SameRegistry after t)) := by
  rcases create_cases handled with ⟨ignored, rfl, -⟩ |
      ⟨pc, sa, sp, before, after, routed, attached, ran⟩
  · exact .inl ⟨ignored, rfl⟩
  · have arrived : SameRegistry s (before.entered pc request) :=
      (sameRegistry_routed blank routed).trans keeps_entered.toSameRegistry
    have assigned := sameRegistry_assignPaa ran
    refine .inr ⟨pc, before, routed, ?_⟩
    rw [← arrived.findPdnConnectionOfApn_eq]
    rcases attach_cases attached with ⟨found, rfl⟩ | ⟨missing, -, -, teid, new⟩
    · rw [found]
      exact .inl ⟨rfl, arrived.trans assigned⟩
    · exact .inr ⟨missing, teid, _, after, arrived, new, assigned⟩

theorem registryStep_create (blank : (s.contexts s.nextAddress).apns = [])
    (handled : s.handleCreateSessionRequest config request upNode endValue = some (t, events)) :
    RegistryStep s t := by
  rcases create_registry blank handled with ⟨-, rfl⟩ |
      ⟨pc, before, -, ⟨-, same⟩ | ⟨-, teid, arrived, after, arrives, new, leaves⟩⟩
  · exact .same (.refl _)
  · exact .same same
  · exact .attached arrives new leaves

/-- A connection that is found is the one of its APN context. -/
theorem Registered.of_findPdnConnection (registered : Registered s) {isLocalTeid : Bool}
    (found : s.findPdnConnection pc teid isLocalTeid = some (sa, sp)) :
    sa ∈ (s.contexts pc).apns ∧ sp = sa + 1 ∧
      (s.apnContexts sa).pdnConnections = [sa + 1] := by
  obtain ⟨member, inside⟩ := attachedUnder_of_findPdnConnection found
  have one := (registered.single pc sa member).1
  rw [one] at inside
  exact ⟨member, List.mem_singleton.mp inside, one⟩

/-- What a deletion response does to the registry: it removes the connection it
finds, or nothing. -/
theorem deleted_cases (registered : Registered s) (context ppc : Nat) :
    (s.findPdnConnection context (s.pdnConnections ppc).pgwFteidS5S8Cp.teidGreKey true = none ∧
        (s.deleted context ppc).1 = s) ∨
      ∃ sa ∈ (s.contexts context).apns,
        s.findPdnConnection context (s.pdnConnections ppc).pgwFteidS5S8Cp.teidGreKey true =
          some (sa, sa + 1) ∧
        (s.deleted context ppc).1 = s.deletePdnConnection context sa (sa + 1) ∧
        Removed s context sa (s.deletePdnConnection context sa (sa + 1)) := by
  unfold deleted
  split
  · next sa sp found =>
      obtain ⟨member, rfl, one⟩ := registered.of_findPdnConnection found
      exact .inr ⟨sa, member, found, rfl, removed_deletePdnConnection member one⟩
  · next missing => exact .inl ⟨missing, rfl⟩

/-- What the other steps do to the registry. -/
def Releases (s t : State) : Prop :=
  SameRegistry s t ∨ ∃ pc, ∃ sa ∈ (s.contexts pc).apns, ∃ after,
    Removed s pc sa after ∧ SameRegistry after t

theorem releases_deletionResponse (registered : Registered s)
    (answer : SessionDeletionResponse) :
    Releases s (s.handleSessionDeletionResponse answer).1 := by
  have tidied : ∀ (state : State) pc address,
      SameRegistry state ((state.removeProcedure pc address).deleteIfEmpty pc) := by
    intro state pc address
    exact keeps_removeProcedure.toSameRegistry.trans keeps_deleteIfEmpty.toSameRegistry
  unfold handleSessionDeletionResponse
  split
  · exact .inl (.refl _)
  · split
    · exact .inl keeps_deleteIfEmpty.toSameRegistry
    · next proc pending =>
        split
        · next context gtpcTxId teid kind =>
            dsimp only
            rcases deleted_cases registered context proc.ppc with
              ⟨-, same⟩ | ⟨sa, member, -, same, removed⟩
            · rw [same]
              exact .inl (tidied _ _ _)
            · rw [same]
              exact .inr ⟨context, sa, member, _, removed, tidied _ _ _⟩
        · exact .inl (tidied _ _ _)

theorem releases_of_step {action : Action} (registered : Registered s)
    (other : ∀ request upNode endValue, action ≠ .createSession request upNode endValue)
    (taken : Pgw.step config s action = some (t, events)) : Releases s t := by
  cases action with
  | createSession request upNode endValue => exact absurd rfl (other request upNode endValue)
  | sessionEstablishmentResponse answer =>
      exact .inl (establishmentResponse_effect (Option.some.inj taken)).1.toSameRegistry
  | deleteSession order sent => exact .inl (deleteSession_effect taken).1.toSameRegistry
  | sessionDeletionResponse answer =>
      have answered := releases_deletionResponse registered answer
      rw [Option.some.inj taken] at answered
      exact answered

theorem Releases.registryStep (releases : Releases s t) : RegistryStep s t := by
  cases releases with
  | inl same => exact .same same
  | inr gone =>
      obtain ⟨pc, sa, member, after, removed, leaves⟩ := gone
      exact .removed member removed leaves

theorem registryStep_of_step {action : Action} (blank : (s.contexts s.nextAddress).apns = [])
    (registered : Registered s) (taken : Pgw.step config s action = some (t, events)) :
    RegistryStep s t := by
  by_cases creates : ∃ request upNode endValue, action = .createSession request upNode endValue
  · obtain ⟨request, upNode, endValue, rfl⟩ := creates
    exact registryStep_create blank taken
  · refine (releases_of_step registered (fun request upNode endValue same => ?_) taken).registryStep
    exact creates ⟨request, upNode, endValue, same⟩

theorem registered_of_run {records : List (StepRecord State Action Event)}
    (run : Run (Pgw.step config) (init config.pdns) records s) :
    Grounded config s ∧ Registered s :=
  (run.invariant (fun state => Grounded config state ∧ Registered state)
    ⟨grounded_init config, registered_init config.pdns⟩
    fun s _ _ _ holds taken => ⟨holds.1.step taken,
      holds.2.of_step (registryStep_of_step
        (congrArg PgwContext.apns (holds.1.blank s.nextAddress le_rfl)) holds.2 taken)⟩).1

end State

/-- In every reachable state the TEIDs that are allocated are the keys of the
routing map, the TEID of an attached connection leads to the context it is
attached to, and attached connections have different TEIDs. -/
theorem teids_registered (config : Config) (records : List (StepRecord State Action Event))
    (s : State) (run : Run (step config) (State.init config.pdns) records s) :
    (∀ teid, teid ∈ s.s5s8cplteid ↔ teid ∈ s.s5s8lteid2pgwContext) ∧
      (∀ pc, ∀ sa ∈ (s.contexts pc).apns, ∀ sp ∈ (s.apnContexts sa).pdnConnections,
        (s.pdnConnections sp).pgwFteidS5S8Cp.teidGreKey ∈ s.s5s8cplteid ∧
          s.s5s8lteid2pgwContext[(s.pdnConnections sp).pgwFteidS5S8Cp.teidGreKey]? = some pc) ∧
      ∀ pc pc', ∀ sa ∈ (s.contexts pc).apns, ∀ sp ∈ (s.apnContexts sa).pdnConnections,
        ∀ sa' ∈ (s.contexts pc').apns, ∀ sp' ∈ (s.apnContexts sa').pdnConnections,
          (s.pdnConnections sp).pgwFteidS5S8Cp.teidGreKey =
            (s.pdnConnections sp').pgwFteidS5S8Cp.teidGreKey → sp = sp' := by
  have registered := (State.registered_of_run run).2
  have own : ∀ pc, ∀ sa ∈ (s.contexts pc).apns, ∀ sp ∈ (s.apnContexts sa).pdnConnections,
      sp = sa + 1 := by
    intro pc sa member sp inside
    rw [(registered.single pc sa member).1] at inside
    exact List.mem_singleton.mp inside
  refine ⟨registered.keys, ?_, ?_⟩
  · intro pc sa member sp inside
    rw [own pc sa member sp inside]
    have known := registered.routed pc sa member
    refine ⟨(registered.keys _).mpr ?_, known⟩
    rw [ExtTreeMap.mem_iff_isSome_getElem?]
    exact Option.isSome_iff_exists.mpr ⟨pc, known⟩
  · intro pc pc' sa member sp inside sa' member' sp' inside' equal
    rw [own pc sa member sp inside, own pc' sa' member' sp' inside'] at equal ⊢
    rw [registered.apart pc pc' sa member sa' member' equal]

/-- One access point name, 12.1.1.2 and 12.1.1.3. -/
def twoAddresses : Config :=
  { pdns := [{ apn := "oai", uePoolRangeLow := 0x0C010102, uePoolRangeHigh := 0x0C010104 }] }

/-- A request for a connection with one bearer. -/
def oneBearer (imsi teid : Nat) (paa : Option Paa) : CreateSessionRequest where
  teid := teid
  imsi := some imsi
  apn := "oai"
  pdnType := some .ipv4
  paa := paa
  senderFteidForCp := ⟨true, false, s5s8SgwGtpC, 1⟩
  bearerContextsToBeCreated := [⟨5⟩]

/-- Two UEs attach and the first one leaves: only the TEID of the second is left. -/
theorem teids_registered_of_two : ∃ records s,
    Run (step twoAddresses) (State.init twoAddresses.pdns) records s ∧
      s.s5s8cplteid = {2} ∧ ∀ teid, teid ∈ s.s5s8lteid2pgwContext ↔ teid = 2 := by
  have run := ((((Run.initial (step twoAddresses) (State.init twoAddresses.pdns)).andThen
    (.createSession (oneBearer 1 0 none) .sent 0) rfl).andThen
    (.createSession (oneBearer 2 0 none) .sent 0) rfl).andThen
    (.deleteSession { teid := 1 } true) rfl).andThen
    (.sessionDeletionResponse { seid := 1, trxnId := 3, cause := some 1 }) rfl
  refine ⟨_, _, run, by decide, fun teid => ?_⟩
  rw [← (teids_registered twoAddresses _ _ run).1 teid]
  exact Finset.mem_singleton (a := 2)

end OpenairSpgwc.Pgw
