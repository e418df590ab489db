import OpenairSpgwc.Pgw.Registry

/-!
Contract: what a rejected Create Session Request leaves behind.

Owns:
- `Unchanged`: the contexts with their connections, the TEIDs, the SEIDs, the
  procedures and the pools are what they were;
- `Undone` and `UndoneBySx`, the conditions on the state before a request under
  which its rejection, by the PGW or by the user plane node, changes nothing;
- that these conditions are exact in every reachable state.
-/

namespace OpenairSpgwc.Pgw

open Foundation
open OpenairSpgwc.Common
open Std (ExtTreeMap)

/-! ## Addresses that are already there -/

/-- The connection has what `set` would write. -/
def PdnConnection.Holds (pdn : PdnConnection) (paa : Paa) : Prop :=
  match paa.pdnType with
  | .ipv4 => pdn.ipv4 = true ∧ pdn.ipv6 = false ∧ pdn.ipv4Address = paa.ipv4Address
  | .ipv6 => pdn.ipv4 = false ∧ pdn.ipv6 = true ∧ pdn.ipv6Address = paa.ipv6Address
  | .ipv4v6 =>
      pdn.ipv4 = true ∧ pdn.ipv6 = true ∧ pdn.ipv4Address = paa.ipv4Address ∧
        pdn.ipv6Address = paa.ipv6Address
  | .nonIp => pdn.ipv4 = false ∧ pdn.ipv6 = false
  | .unknown _ => True

theorem PdnConnection.set_eq_self_iff {pdn : PdnConnection} {paa : Paa} :
    pdn.set paa = pdn ↔ pdn.Holds paa := by
  unfold PdnConnection.set PdnConnection.Holds
  cases pdn
  cases paa.pdnType <;> simp [eq_comm]

namespace State

variable {config : Config} {s t before after : State} {request : CreateSessionRequest}
  {response answer : CreateSessionResponse} {upNode : UpNode} {events : List Event}
  {pc sa sp endValue : Nat} {label : String}

/-! ## What has to stay -/

structure Unchanged (s t : State) : Prop where
  apns : ∀ pc, (t.contexts pc).apns = (s.contexts pc).apns
  apnContexts : ∀ pc, ∀ sa ∈ (s.contexts pc).apns, t.apnContexts sa = s.apnContexts sa
  pdnConnections : ∀ pc, ∀ sa ∈ (s.contexts pc).apns, ∀ sp ∈ (s.apnContexts sa).pdnConnections,
    t.pdnConnections sp = s.pdnConnections sp
  teids : t.s5s8cplteid = s.s5s8cplteid
  teidMap : t.s5s8lteid2pgwContext = s.s5s8lteid2pgwContext
  seidMap : t.seid2pgwContext = s.seid2pgwContext
  procedures : ∀ pc, (t.contexts pc).pendingProcedures = (s.contexts pc).pendingProcedures
  pools : t.paaDynamic = s.paaDynamic

theorem Unchanged.refl (s : State) : Unchanged s s :=
  ⟨fun _ => rfl, fun _ _ _ => rfl, fun _ _ _ _ _ => rfl, rfl, rfl, rfl, fun _ => rfl, rfl⟩

/-- `t` is `s` but for one connection, the SEIDs and the pools. -/
structure Residue (s : State) (sp : Nat) (pdn : PdnConnection) (seidMap : ExtTreeMap Nat Nat)
    (pools : PaaDynamic) (t : State) : Prop where
  apns : ∀ pc, (t.contexts pc).apns = (s.contexts pc).apns
  apnContexts : t.apnContexts = s.apnContexts
  pdnConnections : t.pdnConnections = Function.update s.pdnConnections sp pdn
  teids : t.s5s8cplteid = s.s5s8cplteid
  teidMap : t.s5s8lteid2pgwContext = s.s5s8lteid2pgwContext
  seidMap : t.seid2pgwContext = seidMap
  procedures : ∀ pc, (t.contexts pc).pendingProcedures = (s.contexts pc).pendingProcedures
  pools : t.paaDynamic = pools

theorem Residue.unchanged_iff {pdn : PdnConnection} {seidMap : ExtTreeMap Nat Nat}
    {pools : PaaDynamic} (residue : Residue s sp pdn seidMap pools t)
    (member : sa ∈ (s.contexts pc).apns) (inside : sp ∈ (s.apnContexts sa).pdnConnections) :
    Unchanged s t ↔
      pdn = s.pdnConnections sp ∧ seidMap = s.seid2pgwContext ∧ pools = s.paaDynamic := by
  constructor
  · intro unchanged
    refine ⟨?_, residue.seidMap.symm.trans unchanged.seidMap,
      residue.pools.symm.trans unchanged.pools⟩
    have same := unchanged.pdnConnections pc sa member sp inside
    rw [residue.pdnConnections, Function.update_self] at same
    exact same
  · rintro ⟨rfl, sameSeids, samePools⟩
    exact
      { apns := residue.apns
        apnContexts := fun _ _ _ => by rw [residue.apnContexts]
        pdnConnections := fun _ _ _ _ _ => by
          rw [residue.pdnConnections, Function.update_eq_self]
        teids := residue.teids
        teidMap := residue.teidMap
        seidMap := residue.seidMap.trans sameSeids
        procedures := residue.procedures
        pools := residue.pools.trans samePools }

/-! ## The condition -/

/-- What the selection of a PAA takes and stores was there before or goes back:
the address of the request is the one of the connection, and releasing it spares
the pool; or the pool has no address for the request; or the address it has is
the one of the connection, and it takes it back. -/
def GivesBack (s : State) (sp : Nat) (request : CreateSessionRequest) (endValue : Nat) : Prop :=
  (s.pdnConnections sp).pdnType.Addressed →
    if (request.paa.getD {}).isIpAssigned then
      (s.pdnConnections sp).Holds (request.paa.getD {}) ∧
        ((s.pdnConnections sp).pdnType ≠ .ipv6 →
          ∀ id, s.paaDynamic.apns[request.apn]? = some ⟨[id], []⟩ →
            (s.paaDynamic.pool id).Spares (request.paa.getD {}).ipv4Address)
    else
      ∀ id a next, s.paaDynamic.apns[request.apn]? = some ⟨[id], []⟩ →
        (s.paaDynamic.pool id).allocAddress = (some a, next) →
        ((request.paa.getD {}).pdnType = .ipv4 →
          (s.pdnConnections sp).Holds { request.paa.getD {} with ipv4Address := a } ∧
            (s.pdnConnections sp).pdnType ≠ .ipv6 ∧ (s.paaDynamic.pool id).TakesBack) ∧
        ((request.paa.getD {}).pdnType = .ipv4v6 →
          endValue = id ∧ (s.paaDynamic.pool id).TakesBack)

/-- The request does not reach a context, or it reaches a connection that is
there already and the selection of a PAA leaves no trace. -/
def Undone (config : Config) (s : State) (request : CreateSessionRequest) (endValue : Nat) :
    Prop :=
  match s.route config request with
  | .context pc _ =>
      match s.findPdnConnectionOfApn pc request.apn request.teid true with
      | some (_, sp) => s.GivesBack sp request endValue
      | none => False
  | _ => True

/-- The request reaches a connection that is there already, with its own
address, its own SEID and no bearer to be created, and the user plane node
reports no F-TEID that is new. -/
def UndoneBySx (config : Config) (s : State) (request : CreateSessionRequest)
    (answer : SessionEstablishmentResponse) : Prop :=
  match s.route config request with
  | .context pc _ =>
      match s.findPdnConnectionOfApn pc request.apn request.teid true with
      | some (_, sp) =>
          request.bearerContextsToBeCreated = [] ∧
            (request.paa.getD {}).isIpAssigned = true ∧
            (s.pdnConnections sp).Holds (request.paa.getD {}) ∧
            (s.pdnConnections sp).seid =
              (s.pdnConnections sp).pgwFteidS5S8Cp.teidGreKey ||| (config.instanceId <<< 32) ∧
            s.seid2pgwContext[(s.pdnConnections sp).seid]? = some pc ∧
            (s.pdnConnections sp).Settled answer.createdPdrs
      | none => False
  | _ => False

/-! ## What a request leaves -/

theorem Residue.trans {first second : PdnConnection} {seids seids' : ExtTreeMap Nat Nat}
    {pools pools' : PaaDynamic} {middle : State}
    (earlier : Residue s sp first seids pools middle)
    (later : Residue middle sp second seids' pools' t) : Residue s sp second seids' pools' t where
  apns pc := (later.apns pc).trans (earlier.apns pc)
  apnContexts := later.apnContexts.trans earlier.apnContexts
  pdnConnections := by
    rw [later.pdnConnections, earlier.pdnConnections, Function.update_idem]
  teids := later.teids.trans earlier.teids
  teidMap := later.teidMap.trans earlier.teidMap
  seidMap := later.seidMap
  procedures pc := (later.procedures pc).trans (earlier.procedures pc)
  pools := later.pools

theorem residue_entered :
    Residue s sp (s.pdnConnections sp) s.seid2pgwContext s.paaDynamic (s.entered pc request) where
  apns := keeps_entered.apns
  apnContexts := rfl
  pdnConnections := (Function.update_eq_self sp _).symm
  teids := rfl
  teidMap := rfl
  seidMap := rfl
  procedures other := by
    simp only [entered, setContext, Function.update_apply]
    split
    · next here => rw [here]
    · rfl
  pools := rfl

theorem residue_pools {pools : PaaDynamic} :
    Residue s sp (s.pdnConnections sp) s.seid2pgwContext pools { s with paaDynamic := pools } where
  apns _ := rfl
  apnContexts := rfl
  pdnConnections := (Function.update_eq_self sp _).symm
  teids := rfl
  teidMap := rfl
  seidMap := rfl
  procedures _ := rfl
  pools := rfl

theorem residue_withPaa {selection : PaaSelection} {paa : Paa} :
    Residue s sp ((s.pdnConnections sp).set paa) s.seid2pgwContext selection.pools
      (s.withPaa sp selection paa) :=
  ⟨fun _ => rfl, rfl, rfl, rfl, rfl, rfl, fun _ => rfl, rfl⟩

/-- A procedure is found by its address: the older ones have smaller ones. -/
theorem Started.eraseP_pending (grounded : Grounded config s) {ppc : Nat} {kind : ProcedureKind}
    {proc : Procedure} (started : Started s pc ppc kind proc t) :
    ((t.contexts pc).pendingProcedures.eraseP fun entry => entry.address == proc.address) =
      (s.contexts pc).pendingProcedures := by
  rw [started.contexts, Function.update_self, List.eraseP_append_right]
  · simp
  · intro entry member
    have older := (grounded.procedures pc entry member).1
    rw [started.shape.1, beq_iff_eq]
    omega

theorem Started.find_pending (grounded : Grounded config s) {ppc : Nat} {kind : ProcedureKind}
    {proc : Procedure} (started : Started s pc ppc kind proc t) :
    ((t.contexts pc).pendingProcedures.find? fun entry => entry.trxnId == proc.trxnId) =
      some proc := by
  rw [started.contexts, Function.update_self, List.find?_append, List.find?_eq_none.mpr]
  · simp
  · intro entry member same
    rw [beq_iff_eq] at same
    have drawn := (grounded.procedures pc entry member).2
    rw [same] at drawn
    exact started.drawn.1 drawn

/-- A state with the contexts of the start of a procedure, once it is removed. -/
theorem Started.contexts_removed (grounded : Grounded config s) {ppc : Nat}
    {kind : ProcedureKind} {proc : Procedure} (started : Started s pc ppc kind proc t)
    (same : after.contexts = t.contexts) :
    (after.removeProcedure pc proc.address).contexts = s.contexts := by
  have restored : ({ t.contexts pc with
      pendingProcedures := (s.contexts pc).pendingProcedures } : PgwContext) = s.contexts pc := by
    rw [started.contexts, Function.update_self]
  simp only [removeProcedure, setContext, same, started.eraseP_pending grounded, restored]
  rw [started.contexts, Function.update_idem, Function.update_eq_self]

/-- The answer of a create that finds no user plane node: the procedure is gone
again, the connection keeps what was written into it. -/
theorem establish_rejects (grounded : Grounded config s)
    (ran : s.establish config pc sa sp request response upNode = some (t, events))
    (answered : .createSessionResponse answer ∈ events) :
    Residue s sp (s.pdnConnections sp) s.seid2pgwContext
      (releaseOnFailure s.paaDynamic (s.apnContexts sa).apnInUse (s.pdnConnections sp).pdnType
        response.paa) t := by
  unfold establish at ran
  split at ran
  · cases ran
  · next proc inserted started =>
      have start := started_of_startProcedure started
      split at ran
      · cases ran
        have contexts := start.contexts_removed grounded rfl
        exact
          { apns := fun other => by rw [← contexts]
            apnContexts := start.keeps.apnContexts
            pdnConnections := by
              rw [Function.update_eq_self]
              exact start.pdnConnections
            teids := start.teids
            teidMap := start.teidMap
            seidMap := start.seidMap
            procedures := fun other => by rw [← contexts]
            pools := by
              rw [← start.paaDynamic, ← start.keeps.apnContexts, ← start.pdnConnections]
              rfl }
      · split at ran
        · cases ran
        · next after sentEvents result =>
            unfold runEstablishment at result
            split at result
            · cases result
            · cases result
              split at ran
              · cases ran
                simp at answered
              · cases ran
                cases answered

/-- A response that finds its procedure. -/
theorem handleSessionEstablishmentResponse_of_found {answer : SessionEstablishmentResponse}
    {proc : Procedure} {bearers : List BearerContextToBeCreated}
    {pending : CreateSessionResponse} (routed : s.seid2pgwContext[answer.seid]? = some pc)
    (found : s.findProcedure pc answer.trxnId = some proc)
    (kind : proc.kind = .sessionEstablishment bearers pending) :
    (s.handleSessionEstablishmentResponse answer).1 =
      (s.setPdnConnection proc.ppc
        (established (s.pdnConnections proc.ppc) answer)).removeProcedure pc proc.address := by
  simp only [handleSessionEstablishmentResponse, routed, found, kind]

/-- The answer of the user plane node to the request that `run` has sent. -/
theorem establish_sends (grounded : Grounded config s) {trxnId seid : Nat}
    {ueIpAddress : Option Paa} {rules : List UplinkRules}
    (ran : s.establish config pc sa sp request response upNode = some (t, events))
    (sent : .sessionEstablishmentRequest trxnId seid ueIpAddress rules ∈ events) :
    ∃ pdn, addBearers ((s.pdnConnections sp).generateSeid config.instanceId)
        request.bearerContextsToBeCreated = some (pdn, rules) ∧
      ∀ answer : SessionEstablishmentResponse, answer.seid = seid → answer.trxnId = trxnId →
        Residue s sp (established pdn answer) (s.seid2pgwContext.insert pdn.seid pc) s.paaDynamic
          (t.handleSessionEstablishmentResponse answer).1 := by
  unfold establish at ran
  split at ran
  · cases ran
  · next proc inserted started =>
      have start := started_of_startProcedure started
      split at ran
      · cases ran
        simp at sent
      · split at ran
        · cases ran
        · next after sentEvents result =>
            unfold runEstablishment at result
            split at result
            · cases result
            · next pdn drawnRules added =>
                cases result
                split at ran
                · cases ran
                  obtain ⟨rfl, rfl, rfl, rfl⟩ : trxnId = proc.trxnId ∧ seid = pdn.seid ∧
                      ueIpAddress = response.paa ∧ rules = drawnRules := by
                    simpa using sent
                  rw [start.pdnConnections] at added
                  refine ⟨pdn, added, fun answer sameSeid sameTrxnId => ?_⟩
                  have found := start.find_pending grounded
                  rw [← sameTrxnId] at found
                  obtain ⟨-, owner, kind⟩ := start.shape
                  have routed : (inserted.seid2pgwContext.insert pdn.seid pc)[answer.seid]? =
                      some pc := by
                    rw [sameSeid, ExtTreeMap.getElem?_insert_self]
                  have handled := handleSessionEstablishmentResponse_of_found
                    (s := { inserted.setPdnConnection sp pdn with
                      seid2pgwContext := inserted.seid2pgwContext.insert pdn.seid pc })
                    routed found kind
                  apply Eq.subst handled.symm
                  have contexts := start.contexts_removed grounded
                    (show (inserted.setPdnConnection sp pdn).contexts = inserted.contexts from rfl)
                  exact
                    { apns := fun other => by rw [← contexts]; rfl
                      apnContexts := start.keeps.apnContexts
                      pdnConnections := by
                        simp only [removeProcedure, setContext, setPdnConnection, owner,
                          Function.update_self, Function.update_idem, start.pdnConnections]
                      teids := start.teids
                      teidMap := start.teidMap
                      seidMap := congrArg (fun table => table.insert pdn.seid pc) start.seidMap
                      procedures := fun other => by rw [← contexts]; rfl
                      pools := start.paaDynamic }
                · cases ran
                  cases sent

/-! ## Rejection by the PGW -/

theorem releaseOnFailure_eq_self_iff {pools : PaaDynamic} {pdnType : PdnType} {paa : Paa}
    (provisioned : pools.Provisioned config.pdns) (addressed : pdnType.Addressed) :
    releaseOnFailure pools label pdnType (some paa) = pools ↔
      (pdnType ≠ .ipv6 → ∀ id, pools.apns[label]? = some ⟨[id], []⟩ →
        (pools.pool id).Spares paa.ipv4Address) := by
  rcases addressed with rfl | rfl | rfl
  · simpa [releaseOnFailure] using PaaDynamic.releasePaa_eq_self_iff provisioned
  · simp [releaseOnFailure]
  · simpa [releaseOnFailure] using PaaDynamic.releasePaa_eq_self_iff provisioned

theorem releaseOnFailure_allocated_iff {pools : PaaDynamic} {pdnType : PdnType} {paa : Paa}
    {id : Nat} {next : Ipv4Pool} (provisioned : pools.Provisioned config.pdns)
    (addressed : pdnType.Addressed) (linked : pools.apns[label]? = some ⟨[id], []⟩)
    (allocated : (pools.pool id).allocAddress = (some paa.ipv4Address, next)) :
    releaseOnFailure (pools.setPool id next) label pdnType (some paa) = pools ↔
      pdnType ≠ .ipv6 ∧ (pools.pool id).TakesBack := by
  rcases addressed with rfl | rfl | rfl
  · simpa [releaseOnFailure] using PaaDynamic.releasePaa_allocated_iff provisioned linked allocated
  · simpa [releaseOnFailure] using
      PaaDynamic.setPool_allocated_ne provisioned linked allocated
  · simpa [releaseOnFailure] using PaaDynamic.releasePaa_allocated_iff provisioned linked allocated

/-- Without an address in the request, the one the pool would hand out decides. -/
theorem givesBack_iff_of_allocated {id : Nat} {a : BitVec 32} {next : Ipv4Pool}
    (addressed : (s.pdnConnections sp).pdnType.Addressed)
    (unassigned : (request.paa.getD {}).isIpAssigned = false)
    (linked : s.paaDynamic.apns[request.apn]? = some ⟨[id], []⟩)
    (allocated : (s.paaDynamic.pool id).allocAddress = (some a, next)) :
    s.GivesBack sp request endValue ↔
      ((request.paa.getD {}).pdnType = .ipv4 →
        (s.pdnConnections sp).Holds { request.paa.getD {} with ipv4Address := a } ∧
          (s.pdnConnections sp).pdnType ≠ .ipv6 ∧ (s.paaDynamic.pool id).TakesBack) ∧
      ((request.paa.getD {}).pdnType = .ipv4v6 →
        endValue = id ∧ (s.paaDynamic.pool id).TakesBack) := by
  unfold GivesBack
  rw [if_neg (by rw [unassigned]; decide)]
  constructor
  · intro gives
    exact gives addressed id a next linked allocated
  · intro gives _ other b after otherLinked otherAllocated
    rw [linked] at otherLinked
    cases otherLinked
    rw [allocated] at otherAllocated
    cases otherAllocated
    exact gives

/-- Rejection for want of a PAA: only the pools can have changed. -/
theorem pools_eq_self_iff_givesBack (grounded : Grounded config s)
    (named : (s.apnContexts sa).apnInUse = request.apn)
    (rejected : (s.paaFor sa sp request endValue).cause ≠ .requestAccepted) :
    (s.paaFor sa sp request endValue).pools = s.paaDynamic ↔
      s.GivesBack sp request endValue := by
  have source := paaSource_requestedOrFreePaa grounded.provisioned request.apn request.paa endValue
  unfold paaFor at rejected ⊢
  rw [named] at rejected ⊢
  rcases selectPaa_cases s.paaDynamic request.apn (s.pdnConnections sp).pdnType
    request.paa endValue with ⟨addressed, taken⟩ | ⟨bare, refused⟩
  · rw [taken] at rejected ⊢
    revert source rejected
    generalize requestedOrFreePaa s.paaDynamic request.apn request.paa endValue = selection
    intro rejected source
    cases source with
    | request => exact absurd rfl rejected
    | pool => exact absurd rfl rejected
    | exhausted unassigned starved =>
        refine ⟨fun _ _ => ?_, fun _ => rfl⟩
        rw [if_neg (by rw [unassigned]; decide)]
        intro id a next linked allocated
        obtain ⟨notIpv4, notIpv4v6⟩ := starved id a next linked allocated
        exact ⟨fun kind => absurd kind notIpv4, fun kind => absurd kind notIpv4v6⟩
    | stray unassigned id a next linked allocated kind =>
        rw [givesBack_iff_of_allocated addressed unassigned linked allocated, kind,
          PaaDynamic.stray_eq_self_iff grounded.provisioned linked allocated]
        simp
  · rw [refused]
    exact ⟨fun _ addressed => absurd addressed bare, fun _ => rfl⟩

/-- Rejection after a PAA was stored: the connection and the pools. -/
theorem released_iff_givesBack (grounded : Grounded config s) {paa : Paa}
    (addressed : (s.pdnConnections sp).pdnType.Addressed)
    (chosen : (requestedOrFreePaa s.paaDynamic request.apn request.paa endValue).paa = some paa) :
    (s.pdnConnections sp).set paa = s.pdnConnections sp ∧
        releaseOnFailure (requestedOrFreePaa s.paaDynamic request.apn request.paa endValue).pools
          request.apn (s.pdnConnections sp).pdnType (some paa) = s.paaDynamic ↔
      s.GivesBack sp request endValue := by
  have source := paaSource_requestedOrFreePaa grounded.provisioned request.apn request.paa endValue
  rw [PdnConnection.set_eq_self_iff]
  revert source chosen
  generalize requestedOrFreePaa s.paaDynamic request.apn request.paa endValue = selection
  intro chosen source
  cases source with
  | exhausted => cases chosen
  | stray => cases chosen
  | request own given assigned =>
      cases chosen
      rw [releaseOnFailure_eq_self_iff grounded.provisioned addressed]
      unfold GivesBack
      rw [given, Option.getD_some, if_pos assigned]
      exact ⟨fun both _ => both, fun gives => gives addressed⟩
  | pool unassigned id a next linked allocated kind =>
      cases chosen
      rw [givesBack_iff_of_allocated addressed unassigned linked allocated, kind,
        releaseOnFailure_allocated_iff grounded.provisioned addressed linked allocated]
      simp

/-- The state in which the procedure of a request for a connection is started. -/
theorem entered_withPaa {paa : Paa} (named : (s.apnContexts sa).apnInUse = request.apn)
    (taken : (s.entered pc request).paaFor sa sp request endValue =
      requestedOrFreePaa s.paaDynamic (s.apnContexts sa).apnInUse request.paa endValue)
    (chosen : ((s.entered pc request).paaFor sa sp request endValue).paa = some paa) :
    ((s.entered pc request).withPaa sp
        ((s.entered pc request).paaFor sa sp request endValue) paa).pdnConnections sp =
        (s.pdnConnections sp).set paa ∧
      ((s.entered pc request).withPaa sp
        ((s.entered pc request).paaFor sa sp request endValue) paa).seid2pgwContext =
        s.seid2pgwContext ∧
      (((s.entered pc request).withPaa sp
        ((s.entered pc request).paaFor sa sp request endValue) paa).apnContexts sa).apnInUse =
        request.apn ∧
      ((s.entered pc request).withPaa sp
        ((s.entered pc request).paaFor sa sp request endValue) paa).paaDynamic =
        (requestedOrFreePaa s.paaDynamic request.apn request.paa endValue).pools ∧
      (requestedOrFreePaa s.paaDynamic request.apn request.paa endValue).paa = some paa := by
  rw [named] at taken
  rw [taken] at chosen ⊢
  exact ⟨Function.update_self _ _ _, rfl, named, rfl, chosen⟩

/-- A request for a connection that is there, answered by the PGW. -/
theorem unchanged_iff_givesBack (grounded : Grounded config s)
    (found : s.findPdnConnectionOfApn pc request.apn request.teid true = some (sa, sp))
    (allocated : pc < s.nextAddress)
    (ran : (s.entered pc request).assignPaa config pc sa sp request upNode endValue =
      some (t, events))
    (answered : .createSessionResponse answer ∈ events) :
    Unchanged s t ↔ s.GivesBack sp request endValue := by
  obtain ⟨member, named, inside⟩ := of_findPdnConnectionOfApn found
  have arrived : Grounded config (s.entered pc request) := grounded.entered allocated
  rcases assignPaa_cases ran with
    ⟨rejected, rfl, -⟩ |
      ⟨addressed, taken, paa, pending, started, chosen, answers, -, result, rfl⟩
  · rw [(residue_entered.trans residue_pools).unchanged_iff member inside,
      ← pools_eq_self_iff_givesBack grounded named rejected]
    exact ⟨fun all => all.2.2, fun pools => ⟨rfl, rfl, pools⟩⟩
  · have left := establish_rejects arrived.withPaa result (mem_started rfl (by simp) answered)
    rw [((residue_entered.trans residue_withPaa).trans left).unchanged_iff member inside,
      answers]
    obtain ⟨stored, -, name, pools, chosen⟩ := entered_withPaa named taken chosen
    rw [stored, pools, name, PdnConnection.set_pdnType,
      ← released_iff_givesBack grounded addressed chosen]
    exact ⟨fun all => ⟨all.1, all.2.2⟩, fun both => ⟨both.1, rfl, both.2⟩⟩

/-! ## Rejection by the user plane node -/

theorem generateSeid_set_eq_self_iff {pdn : PdnConnection} {paa : Paa} {instanceId : Nat} :
    (pdn.set paa).generateSeid instanceId = pdn ↔
      pdn.Holds paa ∧ pdn.seid = pdn.pgwFteidS5S8Cp.teidGreKey ||| (instanceId <<< 32) := by
  have teid : (pdn.set paa).pgwFteidS5S8Cp = pdn.pgwFteidS5S8Cp :=
    PdnConnection.set_pgwFteidS5S8Cp
  have kept : { (pdn.set paa).generateSeid instanceId with seid := pdn.seid } = pdn.set paa := by
    unfold PdnConnection.set
    split <;> rfl
  rw [← PdnConnection.set_eq_self_iff]
  constructor
  · intro same
    rw [same] at kept
    refine ⟨kept.symm, ?_⟩
    have seid := congrArg PdnConnection.seid same
    rw [← seid, ← teid]
    rfl
  · rintro ⟨same, seid⟩
    rw [same, PdnConnection.generateSeid, ← seid]

/-- An establishment that fails leaves a connection as it was when nothing was
to be added and nothing is reported. -/
theorem established_eq_self_iff {pdn next : PdnConnection} {paa : Paa} {instanceId : Nat}
    {bearers : List BearerContextToBeCreated} {rules : List UplinkRules}
    {answer : SessionEstablishmentResponse} (keyed : pdn.Keyed)
    (added : addBearers ((pdn.set paa).generateSeid instanceId) bearers = some (next, rules))
    (refused : answer.cause ≠ some causeValueRequestAccepted) :
    established next answer = pdn ↔
      bearers = [] ∧ pdn.Holds paa ∧
        pdn.seid = pdn.pgwFteidS5S8Cp.teidGreKey ||| (instanceId <<< 32) ∧
        pdn.Settled answer.createdPdrs := by
  have seeded : ((pdn.set paa).generateSeid instanceId).Keyed := keyed_set keyed
  have bearerTable : ((pdn.set paa).generateSeid instanceId).epsBearers = pdn.epsBearers := by
    unfold PdnConnection.set
    split <;> rfl
  have generator : ((pdn.set paa).generateSeid instanceId).farIdGenerator =
      pdn.farIdGenerator := by
    unfold PdnConnection.set
    split <;> rfl
  have drawn := PdnConnection.addBearers_drawn added
  unfold established
  rw [if_neg refused, PdnConnection.foldl_createdPdr (seeded.addBearers added)]
  constructor
  · intro same
    have farIds : (next.relabelled answer.createdPdrs).farIdGenerator = pdn.farIdGenerator := by
      rw [same]
    rw [PdnConnection.relabelled] at farIds
    rw [farIds, generator] at drawn
    have none : bearers = [] := List.length_eq_zero_iff.mp (by omega)
    subst none
    cases added
    -- The F-TEIDs stay, so the connection was `pdn` before they were written.
    have untouched : ((pdn.set paa).generateSeid instanceId).relabelled answer.createdPdrs =
        (pdn.set paa).generateSeid instanceId := by
      apply PdnConnection.relabelled_eq_self_of_epsBearers
      rw [same, bearerTable]
    rw [untouched] at same
    have settled := (PdnConnection.relabelled_eq_self_iff seeded).mp untouched
    rw [same] at settled
    obtain ⟨holds, seid⟩ := generateSeid_set_eq_self_iff.mp same
    exact ⟨rfl, holds, seid, settled⟩
  · rintro ⟨rfl, holds, seid, settled⟩
    cases added
    rw [generateSeid_set_eq_self_iff.mpr ⟨holds, seid⟩]
    exact (PdnConnection.relabelled_eq_self_iff keyed).mpr settled

/-- A request for a connection that is there, refused by the user plane node. -/
theorem unchanged_iff_of_sx (grounded : Grounded config s)
    (found : s.findPdnConnectionOfApn pc request.apn request.teid true = some (sa, sp))
    (allocated : pc < s.nextAddress)
    (ran : (s.entered pc request).assignPaa config pc sa sp request upNode endValue =
      some (t, events))
    {trxnId seid : Nat} {ueIpAddress : Option Paa} {rules : List UplinkRules}
    (sent : .sessionEstablishmentRequest trxnId seid ueIpAddress rules ∈ events)
    {answer : SessionEstablishmentResponse} (sameSeid : answer.seid = seid)
    (sameTrxnId : answer.trxnId = trxnId)
    (refused : answer.cause ≠ some causeValueRequestAccepted) :
    Unchanged s (t.handleSessionEstablishmentResponse answer).1 ↔
      request.bearerContextsToBeCreated = [] ∧
        (request.paa.getD {}).isIpAssigned = true ∧
        (s.pdnConnections sp).Holds (request.paa.getD {}) ∧
        (s.pdnConnections sp).seid =
          (s.pdnConnections sp).pgwFteidS5S8Cp.teidGreKey ||| (config.instanceId <<< 32) ∧
        s.seid2pgwContext[(s.pdnConnections sp).seid]? = some pc ∧
        (s.pdnConnections sp).Settled answer.createdPdrs := by
  obtain ⟨member, named, inside⟩ := of_findPdnConnectionOfApn found
  have arrived : Grounded config (s.entered pc request) := grounded.entered allocated
  have source := paaSource_requestedOrFreePaa grounded.provisioned request.apn request.paa endValue
  rcases assignPaa_cases ran with
    ⟨-, rfl, other, -, rfl⟩ |
      ⟨addressed, taken, paa, pending, started, chosen, answers, -, result, rfl⟩
  · exfalso
    unfold PaaSelection.strayEvents at sent
    split at sent <;> simp at sent
  · obtain ⟨pdn, added, left⟩ :=
      establish_sends arrived.withPaa result (mem_started rfl (by simp) sent)
    obtain ⟨stored, seids, -, pools, chosen⟩ := entered_withPaa named taken chosen
    rw [stored] at added
    rw [((residue_entered.trans residue_withPaa).trans
        (left answer sameSeid sameTrxnId)).unchanged_iff member inside, pools, seids,
      established_eq_self_iff (grounded.bearers sp) added refused]
    have seid : pdn.seid =
        (s.pdnConnections sp).pgwFteidS5S8Cp.teidGreKey ||| (config.instanceId <<< 32) := by
      rw [(sameAddressing_addBearers added).seid, ← PdnConnection.set_pgwFteidS5S8Cp]
      rfl
    rw [insert_eq_self_iff, seid]
    revert source chosen
    generalize requestedOrFreePaa s.paaDynamic request.apn request.paa endValue = selection
    intro source chosen
    cases source with
    | exhausted => cases chosen
    | stray => cases chosen
    | request own given assigned =>
        cases chosen
        rw [given, Option.getD_some]
        constructor
        · rintro ⟨⟨noBearers, holds, own, settled⟩, routed, -⟩
          exact ⟨noBearers, assigned, holds, own, by rw [own]; exact routed, settled⟩
        · rintro ⟨noBearers, -, holds, own, routed, settled⟩
          rw [own] at routed
          exact ⟨⟨noBearers, holds, own, settled⟩, routed, rfl⟩
    | pool unassigned id a next linked allocated =>
        constructor
        · rintro ⟨-, -, same⟩
          exact absurd same (PaaDynamic.setPool_allocated_ne grounded.provisioned linked allocated)
        · rintro ⟨-, assigned, -⟩
          rw [unassigned] at assigned
          cases assigned

/-! ## Connections that are new -/

theorem assignPaa_apns
    (ran : s.assignPaa config pc sa sp request upNode endValue = some (t, events)) (other : Nat) :
    (t.contexts other).apns = (s.contexts other).apns := by
  rcases assignPaa_cases ran with ⟨-, rfl, -⟩ | ⟨-, -, paa, pending, started, -, -, -, result, -⟩
  · rfl
  · exact (establish_effect result).1.apns other

/-- A new APN context stays, whatever becomes of the request. -/
theorem apns_ne_of_new (grounded : Grounded config s)
    (routed : s.route config request = .context pc before)
    (missing : s.findPdnConnectionOfApn pc request.apn request.teid true = none)
    (attached : (before.entered pc request).attach pc request = some (after, sa, sp))
    (ran : after.assignPaa config pc sa sp request upNode endValue = some (t, events)) :
    (t.contexts pc).apns ≠ (s.contexts pc).apns := by
  have same : (before.contexts pc).apns = (s.contexts pc).apns := by
    rcases route_context routed with ⟨rfl, -⟩ | ⟨imsi, -, -, rfl, rfl⟩
    · rfl
    · rw [grounded.blank _ le_rfl]
      simp [newContext, setContext]
  have lookup : (before.entered pc request).findPdnConnectionOfApn pc request.apn request.teid
      true = none := by
    rw [findPdnConnectionOfApn_entered]
    rcases route_context routed with ⟨rfl, -⟩ | ⟨imsi, -, -, rfl, rfl⟩
    · exact missing
    · simp [newContext, setContext, findPdnConnectionOfApn, findApnContext]
  rw [assignPaa_apns ran]
  rcases attach_cases attached with ⟨found, -⟩ | ⟨-, -, -, teid, new⟩
  · rw [lookup] at found
    cases found
  · have kept : ((before.entered pc request).contexts pc).apns = (before.contexts pc).apns :=
      keeps_entered.apns pc
    rw [new.contexts, Function.update_self, ← same]
    intro equal
    have lengths := congrArg List.length equal
    simp [kept] at lengths

/-- The states of a request that reaches a connection. -/
theorem of_found (grounded : Grounded config s)
    (routed : s.route config request = .context pc before) {connection : Nat × Nat}
    (found : s.findPdnConnectionOfApn pc request.apn request.teid true = some connection)
    (attached : (before.entered pc request).attach pc request = some (after, sa, sp)) :
    connection = (sa, sp) ∧ after = s.entered pc request ∧ pc < s.nextAddress := by
  rcases route_context routed with ⟨rfl, -⟩ | ⟨imsi, -, -, rfl, rfl⟩
  · rcases attach_cases attached with ⟨hit, rfl⟩ | ⟨missed, -⟩
    · rw [findPdnConnectionOfApn_entered, found] at hit
      exact ⟨Option.some.inj hit, rfl, (grounded.routed routed).2⟩
    · rw [findPdnConnectionOfApn_entered, found] at missed
      cases missed
  · have blank := grounded.blank _ le_rfl
    simp [findPdnConnectionOfApn, findApnContext, blank] at found

end State

/-- In every reachable state, for every Create Session Request: when the PGW
answers with a rejection, everything is what it was exactly under `Undone`, and
when the user plane node rejects the session that was asked for, exactly under
`UndoneBySx`. -/
theorem rejected_create_unchanged_iff (config : Config)
    (records : List (StepRecord State Action Event)) (s : State)
    (run : Run (step config) (State.init config.pdns) records s)
    (request : CreateSessionRequest) (upNode : UpNode) (endValue : Nat) (t : State)
    (events : List Event)
    (handled : step config s (.createSession request upNode endValue) = some (t, events)) :
    (∀ answer : CreateSessionResponse, .createSessionResponse answer ∈ events →
        answer.cause ≠ .requestAccepted →
        (State.Unchanged s t ↔ State.Undone config s request endValue)) ∧
      ∀ (trxnId seid : Nat) (ueIpAddress : Option Paa) (rules : List UplinkRules)
        (answer : SessionEstablishmentResponse),
        .sessionEstablishmentRequest trxnId seid ueIpAddress rules ∈ events →
        answer.seid = seid → answer.trxnId = trxnId →
        answer.cause ≠ some causeValueRequestAccepted →
        (State.Unchanged s (t.handleSessionEstablishmentResponse answer).1 ↔
          State.UndoneBySx config s request answer) := by
  have grounded := State.grounded_of_run run
  rcases State.create_cases handled with
    ⟨elsewhere, rfl, answers⟩ | ⟨pc, sa, sp, before, after, routed, attached, ran⟩
  · refine ⟨fun answer member rejected => ⟨fun _ => ?_, fun _ => .refl t⟩, ?_⟩
    · unfold State.Undone
      split
      · next pc before routed => exact absurd routed (elsewhere pc before)
      · trivial
    · intro trxnId seid ueIpAddress rules answer sent
      obtain ⟨response, same⟩ := answers _ sent
      cases same
  · unfold State.Undone State.UndoneBySx
    rw [routed]
    simp only
    cases lookup : s.findPdnConnectionOfApn pc request.apn request.teid true with
    | none =>
        have changed := State.apns_ne_of_new grounded routed lookup attached ran
        refine ⟨fun answer member rejected => ⟨fun same => changed (same.apns pc), False.elim⟩, ?_⟩
        intro trxnId seid ueIpAddress rules answer sent sameSeid sameTrxnId refused
        refine ⟨fun same => changed ?_, False.elim⟩
        have keeps := (State.establishmentResponse_effect
          (t := (t.handleSessionEstablishmentResponse answer).1) rfl).1
        rw [← keeps.apns pc]
        exact same.apns pc
    | some connection =>
        obtain ⟨rfl, rfl, allocated⟩ := State.of_found grounded routed lookup attached
        refine ⟨fun answer member rejected => ?_, ?_⟩
        · exact State.unchanged_iff_givesBack grounded lookup allocated ran member
        · intro trxnId seid ueIpAddress rules answer sent sameSeid sameTrxnId refused
          exact State.unchanged_iff_of_sx grounded lookup allocated ran sent sameSeid sameTrxnId
            refused

/-- The UE has 12.1.1.3, which the pool has given to nobody, and asks for it once more when no
user plane node can be selected. -/
theorem rejected_create_of_static_address : ∃ records s t events,
    Run (step twoAddresses) (State.init twoAddresses.pdns) records s ∧
      step twoAddresses s (.createSession (oneBearer 1 1 (some ⟨.ipv4, 0x0C010103, 0⟩))
        .notSelected 0) = some (t, events) ∧
      State.Unchanged s t := by
  have run := (Run.initial (step twoAddresses) (State.init twoAddresses.pdns)).andThen
    (.createSession (oneBearer 1 0 (some ⟨.ipv4, 0x0C010103, 0⟩)) .sent 0) rfl
  refine ⟨_, _, _, _, run, rfl, ?_⟩
  refine ((rejected_create_unchanged_iff twoAddresses _ _ run
    (oneBearer 1 1 (some ⟨.ipv4, 0x0C010103, 0⟩)) .notSelected 0 _ _ rfl).1
    ⟨0, 1, .noResourcesAvailable, none, none, some (State.buildS5s8CpFteid 1),
      [{ ebi := 5, cause := .noResourcesAvailable }]⟩ (by decide) (by decide)).mpr ?_
  intro _
  refine ⟨⟨rfl, rfl, rfl⟩, fun _ id linked => .inr ?_⟩
  have first : some (⟨[0], []⟩ : ApnDynamicPools) = some ⟨[id], []⟩ := linked
  cases first
  exact ⟨by decide, by decide⟩

/-- A UE attaches while no user plane node can be selected: it is answered "no
resources available", and its connection, the TEID and the entry of the TEID stay. -/
theorem rejected_create_leaves_connection : ∃ t events answer,
    step twoAddresses (State.init twoAddresses.pdns)
        (.createSession (oneBearer 1 0 none) .notSelected 0) = some (t, events) ∧
      .createSessionResponse answer ∈ events ∧ answer.cause = .noResourcesAvailable ∧
      (t.contexts 0).apns = [1] ∧ (t.apnContexts 1).pdnConnections = [2] ∧
      1 ∈ t.s5s8cplteid ∧ t.s5s8lteid2pgwContext[1]? = some 0 ∧
      ¬State.Unchanged (State.init twoAddresses.pdns) t := by
  refine ⟨_, _, ⟨0, 1, .noResourcesAvailable, none, none, some (State.buildS5s8CpFteid 1),
    [{ ebi := 5, cause := .noResourcesAvailable }]⟩, rfl, by decide, rfl, by decide, by decide,
    by decide, by decide, ?_⟩
  intro unchanged
  have apns := unchanged.apns 0
  revert apns
  decide

end OpenairSpgwc.Pgw
