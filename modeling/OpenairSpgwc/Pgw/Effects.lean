import OpenairSpgwc.Pgw.App

/-!
Contract: what each part of a step can do.

Owns:
- attachment: which connections hang under which access point name;
- `Keeps`, the relation of two states that differ in no attachment, no address
  and no older object;
- one lemma for each function the handlers are made of, stated by what it
  changes, from which the invariants are derived without unfolding a handler.
-/

namespace OpenairSpgwc.Pgw

open Foundation
open OpenairSpgwc.Common
open Std (ExtTreeMap)

/-- The types that come with an address. -/
def PdnType.Addressed (pdnType : PdnType) : Prop :=
  pdnType = .ipv4 ∨ pdnType = .ipv6 ∨ pdnType = .ipv4v6

theorem PdnConnection.set_pdnType {paa : Paa} {pdn : PdnConnection} :
    (pdn.set paa).pdnType = pdn.pdnType := by
  unfold PdnConnection.set
  split <;> rfl

theorem PdnConnection.set_pgwFteidS5S8Cp {paa : Paa} {pdn : PdnConnection} :
    (pdn.set paa).pgwFteidS5S8Cp = pdn.pgwFteidS5S8Cp := by
  unfold PdnConnection.set
  split <;> rfl

namespace State

variable {s t u : State} {config : Config} {request : CreateSessionRequest}
  {response : CreateSessionResponse} {upNode : UpNode} {events : List Event}
  {pc sa sp teid : Nat} {label apn : String}

/-! ## Attachment -/

/-- The connection hangs in a context, in an APN context of that name. -/
def AttachedUnder (s : State) (label : String) (sp : Nat) : Prop :=
  ∃ pc sa, sa ∈ (s.contexts pc).apns ∧ (s.apnContexts sa).apnInUse = label ∧
    sp ∈ (s.apnContexts sa).pdnConnections

/-- `t` has the attachments, the TEIDs and the objects of `s`. -/
structure SameRegistry (s t : State) : Prop where
  apns : ∀ pc, (t.contexts pc).apns = (s.contexts pc).apns
  apnContexts : t.apnContexts = s.apnContexts
  fteids : ∀ sp, (t.pdnConnections sp).pgwFteidS5S8Cp = (s.pdnConnections sp).pgwFteidS5S8Cp
  teids : t.s5s8cplteid = s.s5s8cplteid
  teidMap : t.s5s8lteid2pgwContext = s.s5s8lteid2pgwContext
  nextAddress : s.nextAddress ≤ t.nextAddress

theorem SameRegistry.refl (s : State) : SameRegistry s s :=
  ⟨fun _ => rfl, rfl, fun _ => rfl, rfl, rfl, le_rfl⟩

theorem SameRegistry.trans (first : SameRegistry s t) (second : SameRegistry t u) :
    SameRegistry s u where
  apns pc := (second.apns pc).trans (first.apns pc)
  apnContexts := second.apnContexts.trans first.apnContexts
  fteids sp := (second.fteids sp).trans (first.fteids sp)
  teids := second.teids.trans first.teids
  teidMap := second.teidMap.trans first.teidMap
  nextAddress := first.nextAddress.trans second.nextAddress

/-- `t` has the registry and the addresses of `s`. -/
structure Keeps (s t : State) : Prop extends SameRegistry s t where
  addresses : ∀ sp, (t.pdnConnections sp).ipv4Address = (s.pdnConnections sp).ipv4Address

theorem Keeps.refl (s : State) : Keeps s s := ⟨.refl s, fun _ => rfl⟩

theorem Keeps.trans (first : Keeps s t) (second : Keeps t u) : Keeps s u where
  toSameRegistry := first.toSameRegistry.trans second.toSameRegistry
  addresses sp := (second.addresses sp).trans (first.addresses sp)

theorem Keeps.attachedUnder (keeps : Keeps s t) :
    t.AttachedUnder label sp ↔ s.AttachedUnder label sp := by
  simp only [AttachedUnder, keeps.apns, keeps.apnContexts]

/-- Everything but the apns of a context may be written. -/
theorem keeps_setContext {context : PgwContext} (same : context.apns = (s.contexts pc).apns) :
    Keeps s (s.setContext pc context) where
  apns other := by
    simp only [setContext, Function.update_apply]
    split
    · next here => rw [here, same]
    · rfl
  apnContexts := rfl
  fteids _ := rfl
  teids := rfl
  teidMap := rfl
  addresses _ := rfl
  nextAddress := le_rfl

theorem sameRegistry_setPdnConnection {pdn : PdnConnection}
    (same : pdn.pgwFteidS5S8Cp = (s.pdnConnections sp).pgwFteidS5S8Cp) :
    SameRegistry s (s.setPdnConnection sp pdn) where
  apns _ := rfl
  apnContexts := rfl
  fteids other := by
    simp only [setPdnConnection, Function.update_apply]
    split
    · next here => rw [here, same]
    · rfl
  teids := rfl
  teidMap := rfl
  nextAddress := le_rfl

theorem keeps_setPdnConnection {pdn : PdnConnection}
    (same : pdn.ipv4Address = (s.pdnConnections sp).ipv4Address)
    (sameFteid : pdn.pgwFteidS5S8Cp = (s.pdnConnections sp).pgwFteidS5S8Cp) :
    Keeps s (s.setPdnConnection sp pdn) where
  toSameRegistry := sameRegistry_setPdnConnection sameFteid
  addresses other := by
    simp only [setPdnConnection, Function.update_apply]
    split
    · next here => rw [here, same]
    · rfl

theorem keeps_insertProcedure {proc : Procedure} : Keeps s (s.insertProcedure pc proc) :=
  keeps_setContext rfl

theorem keeps_removeProcedure {address : Nat} : Keeps s (s.removeProcedure pc address) :=
  keeps_setContext rfl

/-- The start of any procedure. -/
structure Started (s : State) (pc ppc : Nat) (kind : ProcedureKind) (proc : Procedure)
    (t : State) : Prop where
  keeps : Keeps s t
  paaDynamic : t.paaDynamic = s.paaDynamic
  pdnConnections : t.pdnConnections = s.pdnConnections
  teids : t.s5s8cplteid = s.s5s8cplteid
  teidMap : t.s5s8lteid2pgwContext = s.s5s8lteid2pgwContext
  seidMap : t.seid2pgwContext = s.seid2pgwContext
  imsiMap : t.imsi2pgwContext = s.imsi2pgwContext
  contexts : t.contexts = Function.update s.contexts pc { s.contexts pc with
    pendingProcedures := (s.contexts pc).pendingProcedures ++ [proc] }
  shape : proc.address = s.nextAddress ∧ proc.ppc = ppc ∧ proc.kind = kind
  draws : s.uids.getUid = some (proc.trxnId, t.uids)
  nextAddress : t.nextAddress = s.nextAddress + 1

theorem Started.drawn {ppc : Nat} {kind : ProcedureKind} {proc : Procedure}
    (started : Started s pc ppc kind proc t) : proc.trxnId ∉ s.uids.uidGenerated ∧
      t.uids.uidGenerated = insert proc.trxnId s.uids.uidGenerated := by
  obtain ⟨fresh, same⟩ := UintGenerator.getUid_spec started.draws
  exact ⟨fresh, by rw [same]⟩

theorem started_of_startProcedure {ppc : Nat} {kind : ProcedureKind} {proc : Procedure}
    (started : s.startProcedure pc ppc kind = some (proc, t)) :
    Started s pc ppc kind proc t := by
  unfold startProcedure at started
  split at started
  · cases started
  · next trxnId uids drawn =>
      cases started
      have counted : Keeps s { s with uids := uids, nextAddress := s.nextAddress + 1 } :=
        ⟨⟨fun _ => rfl, rfl, fun _ => rfl, rfl, rfl, Nat.le_succ _⟩, fun _ => rfl⟩
      exact ⟨counted.trans keeps_insertProcedure, rfl, rfl, rfl, rfl, rfl, rfl, rfl,
        ⟨rfl, rfl, rfl⟩, drawn, rfl⟩

theorem keeps_deleteIfEmpty : Keeps s (s.deleteIfEmpty pc) := by
  unfold deleteIfEmpty
  split
  · exact ⟨⟨fun _ => rfl, rfl, fun _ => rfl, rfl, rfl, le_rfl⟩, fun _ => rfl⟩
  · exact .refl s

theorem keeps_rejectCreate (request : CreateSessionRequest) :
    Keeps s (s.rejectCreate sa sp request response).1 :=
  ⟨⟨fun _ => rfl, rfl, fun _ => rfl, rfl, rfl, le_rfl⟩, fun _ => rfl⟩

/-! ## Lookups -/

theorem mem_of_findInApn {isLocalTeid : Bool} (found : s.findInApn sa teid isLocalTeid = some sp) :
    sp ∈ (s.apnContexts sa).pdnConnections := by
  unfold findInApn at found
  exact List.mem_of_find?_eq_some found

theorem attachedUnder_of_findPdnConnection {isLocalTeid : Bool}
    (found : s.findPdnConnection pc teid isLocalTeid = some (sa, sp)) :
    sa ∈ (s.contexts pc).apns ∧ sp ∈ (s.apnContexts sa).pdnConnections := by
  obtain ⟨entry, member, hit⟩ := List.exists_of_findSome?_eq_some found
  obtain ⟨inner, foundInner, same⟩ := Option.map_eq_some_iff.mp hit
  cases same
  exact ⟨member, mem_of_findInApn foundInner⟩

theorem of_findPdnConnectionOfApn
    (found : s.findPdnConnectionOfApn pc apn teid true = some (sa, sp)) :
    sa ∈ (s.contexts pc).apns ∧ (s.apnContexts sa).apnInUse = apn ∧
      sp ∈ (s.apnContexts sa).pdnConnections := by
  unfold findPdnConnectionOfApn at found
  split at found
  · cases found
  · next sa' foundApn =>
      obtain ⟨inner, foundInner, same⟩ := Option.map_eq_some_iff.mp found
      cases same
      unfold findApnContext at foundApn
      have named := List.find?_some foundApn
      simp only [beq_iff_eq] at named
      exact ⟨List.mem_of_find?_eq_some foundApn, named.symm, mem_of_findInApn foundInner⟩

/-! ## Attaching -/

/-- The state after a new APN context with a new connection was inserted. -/
structure AttachedNew (s : State) (pc : Nat) (request : CreateSessionRequest) (teid : Nat)
    (t : State) : Prop where
  paaDynamic : t.paaDynamic = s.paaDynamic
  uids : t.uids = s.uids
  contexts : t.contexts = Function.update s.contexts pc
    { s.contexts pc with apns := (s.contexts pc).apns ++ [s.nextAddress] }
  apnContexts : t.apnContexts = Function.update s.apnContexts s.nextAddress
    ⟨true, request.apn, [s.nextAddress + 1]⟩
  others : ∀ other, other ≠ s.nextAddress + 1 → t.pdnConnections other = s.pdnConnections other
  pdnType : (t.pdnConnections (s.nextAddress + 1)).pdnType = request.pdnType.getD .ipv4
  noBearers : (t.pdnConnections (s.nextAddress + 1)).epsBearers = ∅
  teidGreKey : (t.pdnConnections (s.nextAddress + 1)).pgwFteidS5S8Cp.teidGreKey = teid
  noSeid : (t.pdnConnections (s.nextAddress + 1)).seid = 0
  teids : t.s5s8cplteid = insert teid s.s5s8cplteid
  fresh : teid ∉ s.s5s8cplteid
  bounds : 0 < teid ∧ teid < 2 ^ 32
  teidMap : t.s5s8lteid2pgwContext = s.s5s8lteid2pgwContext.insert teid pc
  seidMap : t.seid2pgwContext = s.seid2pgwContext
  imsiMap : t.imsi2pgwContext = s.imsi2pgwContext
  nextAddress : t.nextAddress = s.nextAddress + 2

theorem attach_cases (attached : s.attach pc request = some (t, sa, sp)) :
    (s.findPdnConnectionOfApn pc request.apn request.teid true = some (sa, sp) ∧ t = s) ∨
      (s.findPdnConnectionOfApn pc request.apn request.teid true = none ∧
        sa = s.nextAddress ∧ sp = s.nextAddress + 1 ∧ ∃ teid, AttachedNew s pc request teid t) := by
  unfold attach at attached
  split at attached
  · next sa' sp' found =>
      cases attached
      exact .inl ⟨found, rfl⟩
  · next found =>
      refine .inr ⟨found, ?_⟩
      simp only [generateS5s8CpTeid] at attached
      split at attached
      · cases attached
      · split at attached
        · cases attached
        · next teid drawn generated =>
            split at generated
            · cases generated
            · next loop =>
                cases generated
                cases attached
                have fresh := UintGenerator.getUidLoop_not_mem loop
                have small := UintGenerator.getUidLoop_lt (Nat.mod_lt _ (by decide)) loop
                have positive : teid ≠ 0 := fun zero =>
                  fresh (zero ▸ Finset.mem_insert_self _ _)
                refine ⟨rfl, rfl, teid, ?_⟩
                exact
                  { paaDynamic := rfl
                    uids := rfl
                    contexts := rfl
                    apnContexts := by simp [setApnContext, setContext, setPdnConnection]
                    others := fun other different => Function.update_of_ne different _ _
                    pdnType := by simp [setApnContext, setContext, setPdnConnection]
                    noBearers := by simp [setApnContext, setContext, setPdnConnection]
                    teidGreKey := by
                      simp [setApnContext, setContext, setPdnConnection, buildS5s8CpFteid]
                    noSeid := by simp [setApnContext, setContext, setPdnConnection]
                    bounds := ⟨Nat.pos_of_ne_zero positive, small⟩
                    teids := rfl
                    fresh := fun member => fresh (Finset.mem_insert_of_mem member)
                    teidMap := rfl
                    seidMap := rfl
                    imsiMap := rfl
                    nextAddress := rfl }

/-- A connection under a new APN context is the new one. -/
theorem AttachedNew.attachedUnder (new : AttachedNew s pc request teid t)
    (attached : t.AttachedUnder label sp) :
    s.AttachedUnder label sp ∨ (label = request.apn ∧ sp = s.nextAddress + 1) := by
  obtain ⟨pc', sa, member, named, inside⟩ := attached
  rw [new.apnContexts] at named inside
  by_cases fresh : sa = s.nextAddress
  · rw [fresh, Function.update_self] at named inside
    exact .inr ⟨named.symm, List.mem_singleton.mp inside⟩
  · rw [Function.update_of_ne fresh] at named inside
    left
    refine ⟨pc', sa, ?_, named, inside⟩
    rw [new.contexts, Function.update_apply] at member
    split at member
    · next here =>
        rw [here]
        exact (List.mem_append.mp member).resolve_right (by simpa using fresh)
    · exact member

/-! ## Establishing -/

/-- `next` has the address, the TEID and the SEID of `pdn`. -/
structure SameAddressing (pdn next : PdnConnection) : Prop where
  ipv4Address : next.ipv4Address = pdn.ipv4Address
  pgwFteidS5S8Cp : next.pgwFteidS5S8Cp = pdn.pgwFteidS5S8Cp
  seid : next.seid = pdn.seid

theorem SameAddressing.trans {first second third : PdnConnection}
    (earlier : SameAddressing first second) (later : SameAddressing second third) :
    SameAddressing first third :=
  ⟨later.ipv4Address.trans earlier.ipv4Address,
    later.pgwFteidS5S8Cp.trans earlier.pgwFteidS5S8Cp, later.seid.trans earlier.seid⟩

theorem sameAddressing_addEpsBearer {pdn : PdnConnection} {bearer : EpsBearer} :
    SameAddressing pdn (pdn.addEpsBearer bearer) := by
  unfold PdnConnection.addEpsBearer
  split <;> exact ⟨rfl, rfl, rfl⟩

theorem sameAddressing_addBearers {bearers : List BearerContextToBeCreated}
    {pdn next : PdnConnection} {rules : List UplinkRules}
    (added : addBearers pdn bearers = some (next, rules)) : SameAddressing pdn next := by
  induction bearers generalizing pdn rules with
  | nil =>
      cases added
      exact ⟨rfl, rfl, rfl⟩
  | cons bearer bearers inductionHypothesis =>
      rw [addBearers] at added
      split at added
      · next farId farIds pdrId pdrIds _ _ =>
          simp only at added
          split at added
          · cases added
          · next rest more continued =>
              cases added
              have drawn : SameAddressing pdn
                  { pdn with farIdGenerator := farIds, pdrIdGenerator := pdrIds } :=
                ⟨rfl, rfl, rfl⟩
              exact (drawn.trans sameAddressing_addEpsBearer).trans (inductionHypothesis continued)
      · cases added

/-- What the procedure of an accepted request leaves: no attachment and no
address changes; the pools do when no user plane node is found. -/
theorem establish_effect
    (ran : s.establish config pc sa sp request response upNode = some (t, events)) :
    Keeps s t ∧ (∀ event ∈ events, event.isMessage = true) ∧
      t.paaDynamic =
        if upNode.failure.isSome then
          releaseOnFailure s.paaDynamic (s.apnContexts sa).apnInUse (s.pdnConnections sp).pdnType
            response.paa
        else s.paaDynamic := by
  unfold establish at ran
  split at ran
  · cases ran
  · next proc inserted started =>
      have start := started_of_startProcedure started
      split at ran
      · next cause failed =>
          cases ran
          have removed : Keeps inserted (inserted.removeProcedure pc proc.address) :=
            keeps_removeProcedure
          refine ⟨start.keeps.trans (removed.trans (keeps_rejectCreate request)), ?_, ?_⟩
          · simp [Event.isMessage]
          · rw [failed, ← start.paaDynamic, ← start.keeps.apnContexts, ← start.pdnConnections]
            rfl
      · next survived =>
          rw [survived]
          split at ran
          · cases ran
          · next after sentEvents result =>
              unfold runEstablishment at result
              split at result
              · cases result
              · next pdn rules added =>
                  cases result
                  have written : Keeps inserted (inserted.setPdnConnection sp pdn) :=
                    keeps_setPdnConnection (sameAddressing_addBearers added).ipv4Address
                      (sameAddressing_addBearers added).pgwFteidS5S8Cp
                  have noted : Keeps inserted { inserted.setPdnConnection sp pdn with
                      seid2pgwContext := inserted.seid2pgwContext.insert pdn.seid pc } :=
                    written.trans
                      ⟨⟨fun _ => rfl, rfl, fun _ => rfl, rfl, rfl, le_rfl⟩, fun _ => rfl⟩
                  split at ran
                  · cases ran
                    exact ⟨start.keeps.trans noted, by simp [Event.isMessage], start.paaDynamic⟩
                  · cases ran
                    exact ⟨start.keeps.trans (noted.trans keeps_removeProcedure), by simp,
                      start.paaDynamic⟩

/-! ## The PAA -/

/-- The selection without the options, of which none asks for DHCPv4. -/
def paaFor (s : State) (sa sp : Nat) (request : CreateSessionRequest) (endValue : Nat) :
    PaaSelection :=
  selectPaa s.paaDynamic (s.apnContexts sa).apnInUse (s.pdnConnections sp).pdnType {}
    request.paa endValue

theorem selectPaa_of_nas {pcoIds : Pco.PcoIds}
    (nas : pcoIds.ciIpv4AddressAllocationViaDhcpv4 = false) (s : State) (sa sp : Nat)
    (request : CreateSessionRequest) (endValue : Nat) :
    selectPaa s.paaDynamic (s.apnContexts sa).apnInUse (s.pdnConnections sp).pdnType pcoIds
      request.paa endValue = s.paaFor sa sp request endValue := by
  unfold paaFor
  cases (s.pdnConnections sp).pdnType with
  | ipv4 => simp only [selectPaa, nas]
  | _ => rfl

/-- The types with addresses share one selection. The others are refused. -/
theorem selectPaa_cases (pools : PaaDynamic) (apn : String) (pdnType : PdnType)
    (requested : Option Paa) (endValue : Nat) :
    (pdnType.Addressed ∧ selectPaa pools apn pdnType {} requested endValue =
        requestedOrFreePaa pools apn requested endValue) ∨
      (¬pdnType.Addressed ∧ selectPaa pools apn pdnType {} requested endValue =
        ⟨.preferredPdnTypeNotSupported, none, false, pools, false⟩) := by
  cases pdnType with
  | ipv4 => exact .inl ⟨.inl rfl, rfl⟩
  | ipv6 => exact .inl ⟨.inr (.inl rfl), rfl⟩
  | ipv4v6 => exact .inl ⟨.inr (.inr rfl), rfl⟩
  | nonIp => exact .inr ⟨by simp [PdnType.Addressed], rfl⟩
  | unknown value => exact .inr ⟨by simp [PdnType.Addressed], rfl⟩

/-- An accepted selection has a PAA. -/
theorem selectPaa_accepted {pools : PaaDynamic} {pdnType : PdnType}
    {requested : Option Paa} {endValue : Nat}
    (accepted : (selectPaa pools apn pdnType {} requested endValue).cause = .requestAccepted) :
    pdnType.Addressed ∧
      selectPaa pools apn pdnType {} requested endValue =
        requestedOrFreePaa pools apn requested endValue ∧
      ∃ paa, (requestedOrFreePaa pools apn requested endValue).paa = some paa := by
  rcases selectPaa_cases pools apn pdnType requested endValue with
    ⟨addressed, taken⟩ | ⟨-, refused⟩
  · refine ⟨addressed, taken, ?_⟩
    rw [taken] at accepted
    unfold requestedOrFreePaa at accepted ⊢
    split at accepted
    · next assigned =>
        rw [if_pos assigned]
        cases requested with
        | none => simp [Paa.isIpAssigned] at assigned
        | some paa => exact ⟨paa, rfl⟩
    · next unassigned =>
        rw [if_neg unassigned]
        simp only at accepted ⊢
        split at accepted
        · next some => exact Option.isSome_iff_exists.mp some
        · cases accepted
  · rw [refused] at accepted
    cases accepted

/-- Where the PAA comes from: the request, nowhere, the pool of the name, or
nowhere after an address was released past the end. -/
inductive PaaSource (pools : PaaDynamic) (apn : String) (requested : Option Paa)
    (endValue : Nat) : PaaSelection → Prop where
  | request (paa : Paa) (given : requested = some paa) (assigned : paa.isIpAssigned = true) :
      PaaSource pools apn requested endValue ⟨.requestAccepted, some paa, false, pools, false⟩
  | exhausted (unassigned : (requested.getD {}).isIpAssigned = false)
      (starved : ∀ id a next, pools.apns[apn]? = some ⟨[id], []⟩ →
        (pools.pool id).allocAddress = (some a, next) →
        (requested.getD {}).pdnType ≠ .ipv4 ∧ (requested.getD {}).pdnType ≠ .ipv4v6) :
      PaaSource pools apn requested endValue
        ⟨.allDynamicAddressesAreOccupied, none, true, pools, false⟩
  | pool (unassigned : (requested.getD {}).isIpAssigned = false) (id : Nat) (a : BitVec 32)
      (next : Ipv4Pool) (linked : pools.apns[apn]? = some ⟨[id], []⟩)
      (allocated : (pools.pool id).allocAddress = (some a, next))
      (kind : (requested.getD {}).pdnType = .ipv4) :
      PaaSource pools apn requested endValue
        ⟨.requestAccepted, some { requested.getD {} with ipv4Address := a }, true,
          pools.setPool id next, false⟩
  | stray (unassigned : (requested.getD {}).isIpAssigned = false) (id : Nat) (a : BitVec 32)
      (next : Ipv4Pool) (linked : pools.apns[apn]? = some ⟨[id], []⟩)
      (allocated : (pools.pool id).allocAddress = (some a, next))
      (kind : (requested.getD {}).pdnType = .ipv4v6) :
      PaaSource pools apn requested endValue
        ⟨.allDynamicAddressesAreOccupied, none, true, (pools.setPool id next).setPool endValue
          (((pools.setPool id next).pool endValue).freeAddress a).2, true⟩

theorem paaSource_requestedOrFreePaa {pools : PaaDynamic} {pdns : List PdnCfg}
    (provisioned : pools.Provisioned pdns) (apn : String) (requested : Option Paa)
    (endValue : Nat) :
    PaaSource pools apn requested endValue (requestedOrFreePaa pools apn requested endValue) := by
  unfold requestedOrFreePaa
  split
  · next assigned =>
      cases requested with
      | none => simp [Paa.isIpAssigned] at assigned
      | some paa => exact .request paa rfl assigned
  · next unassigned =>
      have unassigned := Bool.eq_false_iff.mpr unassigned
      rcases PaaDynamic.getFreePaa_cases provisioned apn (requested.getD {}) endValue with
        ⟨unchanged, starved⟩ | ⟨id, a, next, linked, allocated, ⟨kind, taken⟩ | ⟨kind, stray⟩⟩
      · rw [unchanged]
        exact .exhausted unassigned starved
      · rw [taken]
        exact .pool unassigned id a next linked allocated kind
      · rw [stray]
        exact .stray unassigned id a next linked allocated kind

/-- The state in which the procedure of an accepted request is started. -/
def withPaa (s : State) (sp : Nat) (selection : PaaSelection) (paa : Paa) : State :=
  ({ s with paaDynamic := selection.pools }).setPdnConnection sp ((s.pdnConnections sp).set paa)

theorem assignPaaWith_of_assignPaa {endValue : Nat}
    (ran : s.assignPaa config pc sa sp request upNode endValue = some (t, events)) :
    ∃ pcoResp pcoIds, pcoIds.ciIpv4AddressAllocationViaDhcpv4 = false ∧
      s.assignPaaWith config pc sa sp request pcoResp pcoIds upNode endValue =
        some (t, events) := by
  unfold assignPaa at ran
  split at ran
  · cases ran
  · next pcoResp pcoIds processed =>
      exact ⟨pcoResp, pcoIds, Pco.dhcpv4_of_processPcoRequest processed, ran⟩

/-- What the PAA decides: without one the request is answered and nothing but
the pools has changed; with one it is stored and the procedure is started. -/
theorem assignPaa_cases {endValue : Nat}
    (ran : s.assignPaa config pc sa sp request upNode endValue = some (t, events)) :
    ((s.paaFor sa sp request endValue).cause ≠ .requestAccepted ∧
        t = { s with paaDynamic := (s.paaFor sa sp request endValue).pools } ∧
        ∃ answer, answer.cause = (s.paaFor sa sp request endValue).cause ∧
          events = (s.paaFor sa sp request endValue).strayEvents ++
            [.createSessionResponse answer]) ∨
      ((s.pdnConnections sp).pdnType.Addressed ∧ s.paaFor sa sp request endValue =
          requestedOrFreePaa s.paaDynamic (s.apnContexts sa).apnInUse request.paa endValue ∧
        ∃ paa pending started,
          (s.paaFor sa sp request endValue).paa = some paa ∧ pending.paa = some paa ∧
          pending.cause = .requestAccepted ∧
          (s.withPaa sp (s.paaFor sa sp request endValue) paa).establish config pc sa sp request
            pending upNode = some (t, started) ∧
          events = (s.paaFor sa sp request endValue).strayEvents ++
            ipv4SetEvents sp paa (s.paaFor sa sp request endValue).fromPool ++ started) := by
  obtain ⟨pcoResp, pcoIds, nas, ran⟩ := assignPaaWith_of_assignPaa ran
  unfold assignPaaWith at ran
  simp only [selectPaa_of_nas nas] at ran
  split at ran
  · next accepted =>
      obtain ⟨addressed, taken, paa, chosen⟩ := selectPaa_accepted accepted
      have selected : (s.paaFor sa sp request endValue).paa = some paa := by
        rw [paaFor, taken, chosen]
      rw [selected] at ran
      simp only [Option.some_or] at ran
      split at ran
      · cases ran
      · next after started result =>
          cases ran
          exact .inr ⟨addressed, taken, paa, _, started, selected, rfl, accepted, result, rfl⟩
  · next rejected =>
      cases ran
      exact .inl ⟨rejected, rfl, _, rfl, rfl⟩

/-- A message is in the part of the events that the procedure sends. -/
theorem mem_started {selection : PaaSelection} {paa : Paa} {started : List Event} {event : Event}
    (message : event.isMessage = true) (proper : event ≠ .endDereference)
    (member : event ∈
      selection.strayEvents ++ ipv4SetEvents sp paa selection.fromPool ++ started) :
    event ∈ started := by
  rcases List.mem_append.mp member with early | late
  · exfalso
    rcases List.mem_append.mp early with stray | given
    · unfold PaaSelection.strayEvents at stray
      split at stray
      · exact proper (List.mem_singleton.mp stray)
      · cases stray
    · unfold ipv4SetEvents at given
      split at given <;> simp at given <;> simp [given, Event.isMessage] at message
  · exact late

/-! ## Routing -/

theorem route_context (routed : s.route config request = .context pc t) :
    (t = s ∧ ((∃ imsi, request.imsi = some imsi ∧ s.imsi2pgwContext[imsi]? = some pc) ∨
        (request.imsi = none ∧ s.s5s8lteid2pgwContext[request.teid]? = some pc))) ∨
      ∃ imsi, request.imsi = some imsi ∧ s.imsi2pgwContext[imsi]? = none ∧
        pc = s.nextAddress ∧ t = s.newContext imsi := by
  unfold route at routed
  cases given : request.imsi with
  | some imsi =>
      simp only [given] at routed
      split_ifs at routed
      split at routed
      · next known =>
          cases routed
          exact .inl ⟨rfl, .inl ⟨imsi, rfl, known⟩⟩
      · next unknown =>
          cases routed
          exact .inr ⟨imsi, rfl, unknown, rfl, rfl⟩
  | none =>
      simp only [given] at routed
      split_ifs at routed
      split at routed
      · next known =>
          cases routed
          exact .inl ⟨rfl, .inr ⟨rfl, known⟩⟩
      · cases routed

/-- The context that a request is handed to, with the IMSI of the request. -/
def entered (s : State) (pc : Nat) (request : CreateSessionRequest) : State :=
  s.setContext pc { s.contexts pc with imsi := request.imsi.getD (s.contexts pc).imsi }

theorem keeps_entered : Keeps s (s.entered pc request) := keeps_setContext rfl

theorem findPdnConnectionOfApn_entered :
    (s.entered pc request).findPdnConnectionOfApn pc apn teid true =
      s.findPdnConnectionOfApn pc apn teid true := by
  simp [entered, setContext, findPdnConnectionOfApn, findApnContext, findInApn]

theorem create_cases {endValue : Nat}
    (handled : s.handleCreateSessionRequest config request upNode endValue = some (t, events)) :
    ((∀ pc before, s.route config request ≠ .context pc before) ∧ t = s ∧
        ∀ event ∈ events, ∃ answer, event = .createSessionResponse answer) ∨
      ∃ pc sa sp before after, s.route config request = .context pc before ∧
        (before.entered pc request).attach pc request = some (after, sa, sp) ∧
        after.assignPaa config pc sa sp request upNode endValue = some (t, events) := by
  unfold handleCreateSessionRequest at handled
  split at handled
  · next ignored =>
      cases handled
      exact .inl ⟨by simp [ignored], rfl, by simp⟩
  · next cause answered =>
      cases handled
      exact .inl ⟨by simp [answered], rfl, by simp [createSessionResponseCause]⟩
  · cases handled
  · next pc before routed =>
      unfold createInContext at handled
      simp only at handled
      split at handled
      · cases handled
      · next after sa sp attached =>
          exact .inr ⟨pc, sa, sp, before, after, routed, attached, handled⟩

/-! ## Responses and deletion -/

theorem sameAddressing_createdPdr {pdn : PdnConnection} {created : CreatedPdr} :
    SameAddressing pdn (createdPdr pdn created) := by
  unfold createdPdr
  split
  · exact ⟨rfl, rfl, rfl⟩
  · split
    · exact sameAddressing_addEpsBearer
    · exact ⟨rfl, rfl, rfl⟩

theorem sameAddressing_established {pdn : PdnConnection} {answer : SessionEstablishmentResponse} :
    SameAddressing pdn (established pdn answer) := by
  have folded : ∀ (created : List CreatedPdr) (start : PdnConnection),
      SameAddressing start (created.foldl createdPdr start) := by
    intro created
    induction created with
    | nil => exact fun _ => ⟨rfl, rfl, rfl⟩
    | cons first rest inductionHypothesis =>
        intro start
        exact sameAddressing_createdPdr.trans (inductionHypothesis (createdPdr start first))
  unfold established
  split
  · have noted : SameAddressing pdn { pdn with upFseid := answer.upFseid.getD pdn.upFseid } :=
      ⟨rfl, rfl, rfl⟩
    exact noted.trans (folded answer.createdPdrs _)
  · exact folded answer.createdPdrs pdn

theorem establishmentResponse_effect {answer : SessionEstablishmentResponse}
    (handled : s.handleSessionEstablishmentResponse answer = (t, events)) :
    Keeps s t ∧ t.paaDynamic = s.paaDynamic ∧ ∀ event ∈ events, event.isMessage = true := by
  unfold handleSessionEstablishmentResponse at handled
  split at handled
  · cases handled
    exact ⟨.refl s, rfl, by simp⟩
  · split at handled
    · cases handled
      exact ⟨.refl s, rfl, by simp⟩
    · split at handled
      · cases handled
        refine ⟨?_, rfl, by simp [Event.isMessage]⟩
        exact (keeps_setPdnConnection sameAddressing_established.ipv4Address
          sameAddressing_established.pgwFteidS5S8Cp).trans keeps_removeProcedure
      · cases handled
        exact ⟨keeps_removeProcedure, rfl, by simp⟩

theorem deleteSession_effect {order : DeleteSessionRequest} {sent : Bool}
    (handled : s.handleDeleteSessionRequest order sent = some (t, events)) :
    Keeps s t ∧ t.paaDynamic = s.paaDynamic ∧ ∀ event ∈ events, event.isMessage = true := by
  have inContext : ∀ pc t events, s.deleteInContext pc order sent = some (t, events) →
      Keeps s t ∧ t.paaDynamic = s.paaDynamic ∧ ∀ event ∈ events, event.isMessage = true := by
    intro pc t events result
    unfold deleteInContext at result
    simp only at result
    split at result
    · split at result
      · cases result
      · next proc inserted started =>
          have start := started_of_startProcedure started
          split at result
          · cases result
            exact ⟨start.keeps, start.paaDynamic, by simp [Event.isMessage]⟩
          · cases result
            exact ⟨start.keeps.trans keeps_removeProcedure, start.paaDynamic, by simp⟩
    · split at result
      · cases result
        exact ⟨.refl s, rfl, by simp [Event.isMessage]⟩
      · cases result
        exact ⟨.refl s, rfl, by simp⟩
  have samePools : ∀ (state : State) pc,
      (state.deleteIfEmpty pc).paaDynamic = state.paaDynamic := by
    intro state pc
    unfold deleteIfEmpty
    split <;> rfl
  unfold handleDeleteSessionRequest at handled
  split at handled
  · cases handled
    exact ⟨.refl s, rfl, by simp⟩
  · split at handled
    · next pc routed =>
        split at handled
        · cases handled
        · next after shown result =>
            cases handled
            obtain ⟨keeps, pools, messages⟩ := inContext pc after _ result
            exact ⟨keeps.trans keeps_deleteIfEmpty, (samePools after pc).trans pools, messages⟩
    · split at handled
      · cases handled
        exact ⟨.refl s, rfl, by simp [Event.isMessage]⟩
      · cases handled
        exact ⟨.refl s, rfl, by simp⟩

/-- The state after the connection `sp` of the APN context `sa` was deleted. -/
structure Detached (s : State) (sa sp : Nat) (t : State) : Prop where
  paaDynamic : t.paaDynamic =
    if (s.pdnConnections sp).ipv4 then
      (s.paaDynamic.releasePaa (s.apnContexts sa).apnInUse (s.pdnConnections sp).ipv4Address).2
    else s.paaDynamic
  pdnConnections : t.pdnConnections =
    Function.update s.pdnConnections sp (s.pdnConnections sp).clear
  apns : ∀ pc, (t.contexts pc).apns ⊆ (s.contexts pc).apns
  names : ∀ other, (t.apnContexts other).apnInUse = (s.apnContexts other).apnInUse
  lists : ∀ other, (t.apnContexts other).pdnConnections ⊆ (s.apnContexts other).pdnConnections
  nextAddress : t.nextAddress = s.nextAddress

/-- The second deallocation finds a cleared connection and releases nothing. -/
theorem detached_deleteFromApn (inside : sp ∈ (s.apnContexts sa).pdnConnections) :
    Detached s sa sp (s.deleteFromApn sa sp) := by
  have once : ∀ (state : State) apn, (state.deallocateRessources apn sp).apnContexts =
      state.apnContexts := fun _ _ => rfl
  simp only [deleteFromApn, once, inside, if_true]
  refine ⟨?_, ?_, fun _ => List.Subset.refl _, fun other => ?_, fun other => ?_, rfl⟩
  · simp [deallocateRessources, setPdnConnection, setApnContext, freeS5s8CpFteid,
      PdnConnection.clear]
  · simp [deallocateRessources, setPdnConnection, setApnContext, freeS5s8CpFteid,
      PdnConnection.clear]
  · simp only [setApnContext, Function.update_apply]
    split
    · next here => rw [here]
    · rfl
  · simp only [setApnContext, Function.update_apply]
    split
    · next here =>
        rw [here]
        exact List.erase_subset
    · exact List.Subset.refl _

theorem detached_deletePdnConnection (inside : sp ∈ (s.apnContexts sa).pdnConnections) :
    Detached s sa sp (s.deletePdnConnection pc sa sp) := by
  have first := detached_deleteFromApn inside
  unfold deletePdnConnection
  simp only
  split
  · next emptied =>
      have none : ((s.deleteFromApn sa sp).apnContexts sa).pdnConnections = [] :=
        List.length_eq_zero_iff.mp emptied
      unfold deleteApnContext
      split
      · refine ⟨?_, ?_, fun other => ?_, fun other => ?_, fun other => ?_, ?_⟩
        · simp only [deallocateApn, none, List.foldl_nil]
          exact first.paaDynamic
        · simp only [deallocateApn, none, List.foldl_nil]
          exact first.pdnConnections
        · simp only [setContext, deallocateApn, none, List.foldl_nil, setApnContext,
            Function.update_apply]
          split
          · next here =>
              rw [here]
              exact fun entry member => first.apns pc (List.mem_of_mem_erase member)
          · exact first.apns other
        · simp only [setContext, deallocateApn, none, List.foldl_nil, setApnContext,
            Function.update_apply]
          split
          · next here =>
              rw [here]
              exact first.names sa
          · exact first.names other
        · simp only [setContext, deallocateApn, none, List.foldl_nil, setApnContext,
            Function.update_apply]
          split
          · exact List.nil_subset _
          · exact first.lists other
        · simp only [deallocateApn, none, List.foldl_nil]
          exact first.nextAddress
      · exact first
  · exact first

theorem Detached.attachedUnder (detached : Detached s sa sp t) {other : Nat}
    (attached : t.AttachedUnder label other) : s.AttachedUnder label other := by
  obtain ⟨pc, sa', member, named, inside⟩ := attached
  exact ⟨pc, sa', detached.apns pc member, (detached.names sa').symm.trans named,
    detached.lists sa' inside⟩

/-- The connection that the response to a deletion request detaches, with its
APN context. -/
def detaches (s : State) (answer : SessionDeletionResponse) : Option (Nat × Nat) :=
  match s.seid2pgwContext[answer.seid]? with
  | none => none
  | some pc =>
      match s.findProcedure pc answer.trxnId with
      | none => none
      | some proc =>
          match proc.kind with
          | .deleteSession context _ _ => s.findPdnConnection context
              (s.pdnConnections proc.ppc).pgwFteidS5S8Cp.teidGreKey true
          | .sessionEstablishment _ _ => none

/-- A deletion response detaches one connection or keeps everything. -/
theorem deletionResponse_cases {answer : SessionDeletionResponse}
    (handled : s.handleSessionDeletionResponse answer = (t, events)) :
    (s.detaches answer = none ∧ Keeps s t ∧ t.paaDynamic = s.paaDynamic ∧
        ∀ event ∈ events, event.isMessage = true) ∨
      ∃ sa sp middle message, s.detaches answer = some (sa, sp) ∧
        sp ∈ (s.apnContexts sa).pdnConnections ∧ (∃ pc, sa ∈ (s.contexts pc).apns) ∧
        Detached s sa sp middle ∧ Keeps middle t ∧ t.paaDynamic = middle.paaDynamic ∧
        t.pdnConnections = middle.pdnConnections ∧
        events = [message, .ipv4Cleared sp] ∧ message.isMessage = true := by
  have samePools : ∀ (state : State) pc, (state.deleteIfEmpty pc).paaDynamic = state.paaDynamic ∧
      (state.deleteIfEmpty pc).pdnConnections = state.pdnConnections := by
    intro state pc
    unfold deleteIfEmpty
    split <;> exact ⟨rfl, rfl⟩
  unfold handleSessionDeletionResponse at handled
  split at handled
  · next unknown =>
      cases handled
      have nothing : s.detaches answer = none := by simp only [detaches, unknown]
      exact .inl ⟨nothing, .refl s, rfl, by simp⟩
  · next pc known =>
      simp only at handled
      split at handled
      · next missing =>
          cases handled
          have nothing : s.detaches answer = none := by simp only [detaches, known, missing]
          exact .inl ⟨nothing, keeps_deleteIfEmpty, (samePools s pc).1, by simp⟩
      · next proc pending =>
          split at handled
          · next context gtpcTxId teid kind =>
              have search : s.detaches answer = s.findPdnConnection context
                  (s.pdnConnections proc.ppc).pgwFteidS5S8Cp.teidGreKey true := by
                simp only [detaches, known, pending, kind]
              rw [search]
              simp only [deleted] at handled
              split at handled
              · next sa sp found =>
                  cases handled
                  obtain ⟨member, inside⟩ := attachedUnder_of_findPdnConnection found
                  refine .inr ⟨sa, sp, s.deletePdnConnection context sa sp, _, found, inside,
                    ⟨context, member⟩, detached_deletePdnConnection inside, ?_,
                    (samePools _ _).1, (samePools _ _).2, rfl, rfl⟩
                  exact keeps_removeProcedure.trans keeps_deleteIfEmpty
              · next missing =>
                  cases handled
                  refine .inl ⟨missing, keeps_removeProcedure.trans keeps_deleteIfEmpty,
                    (samePools _ _).1, by simp [Event.isMessage]⟩
          · next bearers waiting kind =>
              cases handled
              have nothing : s.detaches answer = none := by
                simp only [detaches, known, pending, kind]
              exact .inl ⟨nothing, keeps_removeProcedure.trans keeps_deleteIfEmpty,
                (samePools _ _).1, by simp⟩

end State

end OpenairSpgwc.Pgw
