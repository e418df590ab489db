import OpenairSpgwc.Pgw.AddressUniqueness
import OpenairSpgwc.Pgw.Directory

/-!
Contract: the address of a PDN connection and its PDN type.

The connection has the type of the Create Session Request, and its address the type of the PAA
in that request; the PAA that stands in for a missing one is of type IPv4.

Owns:
- the UE IP addresses of the PDRs of a connection;
- `Carries`: flags, addresses and PDRs of a connection are those of a PAA of its type;
- `GivenItsType`, what an accepted request leaves for good, and when it does.
-/

namespace OpenairSpgwc.Pgw

open Foundation
open OpenairSpgwc.Common
open Std (ExtTreeMap)

/-! ## UE IP addresses -/

/-- `pfcp::ue_ip_address_t`. -/
structure UeIpAddress where
  sd : Bool := false
  v4 : Bool := false
  v6 : Bool := false
  ipv4Address : BitVec 32 := 0
  ipv6Address : BitVec 128 := 0
deriving DecidableEq

def pdnIpToPfcpUeIpAddress (pdnType : PdnType) (ipv4Address : BitVec 32)
    (ipv6Address : BitVec 128) : UeIpAddress :=
  match pdnType with
  | .ipv4 => { v4 := true, ipv4Address := ipv4Address }
  | .ipv6 => { v6 := true, ipv6Address := ipv6Address }
  | .ipv4v6 => { v4 := true, v6 := true, ipv4Address := ipv4Address, ipv6Address := ipv6Address }
  | .nonIp => {}
  | .unknown _ => {}

/-- The uplink PDRs of the Sx session establishment request have this address. -/
def paaToPfcpUeIpAddress (paa : Paa) : UeIpAddress :=
  pdnIpToPfcpUeIpAddress paa.pdnType paa.ipv4Address paa.ipv6Address

/-- IPv4 and IPv6. -/
def PdnType.families : PdnType → Bool × Bool
  | .ipv4 => (true, false)
  | .ipv6 => (false, true)
  | .ipv4v6 => (true, true)
  | .nonIp => (false, false)
  | .unknown _ => (false, false)

/-- The types with addresses differ in their families. -/
theorem PdnType.Addressed.eq_of_families {pdnType other : PdnType} (addressed : pdnType.Addressed)
    (same : other.families = pdnType.families) : other = pdnType := by
  rcases addressed with rfl | rfl | rfl <;> cases other <;> simp_all [families]

namespace PdnConnection

variable {pdn next : PdnConnection} {paa : Paa}

/-- The address of an uplink PDR in `modify_bearer_procedure::run`. -/
def uplinkUeIpAddress (pdn : PdnConnection) : UeIpAddress :=
  pdnIpToPfcpUeIpAddress pdn.pdnType pdn.ipv4Address pdn.ipv6Address

/-- The address of a downlink PDR there. -/
def downlinkUeIpAddress (pdn : PdnConnection) : UeIpAddress :=
  let ueIpAddress : UeIpAddress :=
    if pdn.ipv4 then { v4 := true, sd := true, ipv4Address := pdn.ipv4Address } else {}
  if pdn.ipv6 then { ueIpAddress with v6 := true, ipv6Address := pdn.ipv6Address }
  else ueIpAddress

/-- What `set` writes, with the type. -/
def ueAddress (pdn : PdnConnection) : PdnType × Bool × Bool × BitVec 32 × BitVec 128 :=
  (pdn.pdnType, pdn.ipv4, pdn.ipv6, pdn.ipv4Address, pdn.ipv6Address)

structure Carries (pdn : PdnConnection) (paa : Paa) : Prop where
  paaFamilies : paa.pdnType.families = pdn.pdnType.families
  flags : (pdn.ipv4, pdn.ipv6) = pdn.pdnType.families
  ipv4Address : pdn.ipv4 = true → pdn.ipv4Address = paa.ipv4Address
  ipv6Address : pdn.ipv6 = true → pdn.ipv6Address = paa.ipv6Address
  uplink : pdn.uplinkUeIpAddress = paaToPfcpUeIpAddress paa
  downlink : pdn.downlinkUeIpAddress = { paaToPfcpUeIpAddress paa with sd := pdn.ipv4 }

theorem Carries.of_same (carries : pdn.Carries paa) (same : next.ueAddress = pdn.ueAddress) :
    next.Carries paa := by
  simp only [ueAddress, Prod.mk.injEq] at same
  obtain ⟨pdnType, ipv4, ipv6, ipv4Address, ipv6Address⟩ := same
  constructor
  · rw [pdnType]
    exact carries.paaFamilies
  · rw [pdnType, ipv4, ipv6]
    exact carries.flags
  · rw [ipv4, ipv4Address]
    exact carries.ipv4Address
  · rw [ipv6, ipv6Address]
    exact carries.ipv6Address
  · rw [uplinkUeIpAddress, pdnType, ipv4Address, ipv6Address]
    exact carries.uplink
  · rw [downlinkUeIpAddress, ipv4, ipv6, ipv4Address, ipv6Address]
    exact carries.downlink

/-- A connection that has stored a PAA carries it when the PAA has its type. -/
theorem carries_set_iff (addressed : pdn.pdnType.Addressed) :
    (pdn.set paa).Carries paa ↔ paa.pdnType = pdn.pdnType := by
  constructor
  · intro carries
    have families := carries.paaFamilies
    rw [set_pdnType] at families
    exact addressed.eq_of_families families
  · intro same
    rcases addressed with type | type | type
    all_goals
      rw [type] at same
      constructor <;>
        simp [set, same, type, PdnType.families, uplinkUeIpAddress, downlinkUeIpAddress,
          paaToPfcpUeIpAddress, pdnIpToPfcpUeIpAddress]

/-! ## What keeps the address -/

theorem ueAddress_addEpsBearer (pdn : PdnConnection) (bearer : EpsBearer) :
    (pdn.addEpsBearer bearer).ueAddress = pdn.ueAddress := by
  unfold addEpsBearer
  split <;> rfl

theorem OnlyBearers.ueAddress_eq (only : pdn.OnlyBearers next) :
    next.ueAddress = pdn.ueAddress := by
  unfold OnlyBearers at only
  rw [only]
  rfl

theorem ueAddress_addBearers {bearers : List BearerContextToBeCreated} {rules : List UplinkRules}
    (added : addBearers pdn bearers = some (next, rules)) : next.ueAddress = pdn.ueAddress := by
  induction bearers generalizing pdn rules with
  | nil =>
      cases added
      rfl
  | cons bearer bearers inductionHypothesis =>
      rw [addBearers] at added
      split at added
      · dsimp only at added
        split at added
        · cases added
        · next continued =>
            cases added
            exact (inductionHypothesis continued).trans (ueAddress_addEpsBearer _ _)
      · cases added

theorem ueAddress_established (pdn : PdnConnection) (answer : SessionEstablishmentResponse) :
    (State.established pdn answer).ueAddress = pdn.ueAddress := by
  have one (pdn : PdnConnection) (created : CreatedPdr) :
      (State.createdPdr pdn created).ueAddress = pdn.ueAddress := by
    unfold State.createdPdr
    split
    · rfl
    · split
      · exact ueAddress_addEpsBearer _ _
      · rfl
  have all (created : List CreatedPdr) (pdn : PdnConnection) :
      (created.foldl State.createdPdr pdn).ueAddress = pdn.ueAddress := by
    induction created generalizing pdn with
    | nil => rfl
    | cons first rest inductionHypothesis =>
        exact (inductionHypothesis _).trans (one pdn first)
  unfold State.established
  rw [all]
  split <;> rfl

end PdnConnection

namespace State

variable {config : Config} {s t before after : State} {request : CreateSessionRequest}
  {response : CreateSessionResponse} {upNode : UpNode} {events : List Event}
  {pc sa sp endValue : Nat}

theorem pdnType_getFreePaa {pools : PaaDynamic} {label : String} {requested paa : Paa}
    (given : (pools.getFreePaa label requested endValue).paa = some paa) :
    paa.pdnType = requested.pdnType := by
  unfold PaaDynamic.getFreePaa at given
  split at given
  · cases given
  · split at given
    · split at given
      · cases given
        rfl
      · cases given
    · split at given
      · cases given
      · split at given
        · cases given
          rfl
        · cases given
    · split at given
      · cases given
        rfl
      · cases given
    · cases given
    · cases given

/-- The PAA of an accepted request has the type of the PAA in the request. -/
theorem pdnType_requestedOrFreePaa {pools : PaaDynamic} {label : String} {requested : Option Paa}
    {paa : Paa} (given : (requestedOrFreePaa pools label requested endValue).paa = some paa) :
    paa.pdnType = (requested.getD {}).pdnType := by
  unfold requestedOrFreePaa at given
  split at given
  · dsimp only at given
    rw [given]
    rfl
  · exact pdnType_getFreePaa given

/-! ## Create Session Requests -/

/-- The connection gets bearers and a SEID, and the other connections stay. -/
theorem establish_connections
    (ran : s.establish config pc sa sp request response upNode = some (t, events)) :
    ∃ pdn, pdn.ueAddress = (s.pdnConnections sp).ueAddress ∧
      t.pdnConnections = Function.update s.pdnConnections sp pdn := by
  unfold establish at ran
  split at ran
  · cases ran
  · next proc inserted started =>
      have start := started_of_startProcedure started
      split at ran
      · cases ran
        refine ⟨s.pdnConnections sp, rfl, ?_⟩
        rw [Function.update_eq_self]
        exact start.pdnConnections
      · split at ran
        · cases ran
        · next after sentEvents result =>
            unfold runEstablishment at result
            split at result
            · cases result
            · next pdn rules added =>
                cases result
                rw [start.pdnConnections] at added
                refine ⟨pdn, (PdnConnection.ueAddress_addBearers added).trans rfl, ?_⟩
                split at ran
                · cases ran
                  show Function.update inserted.pdnConnections sp pdn = _
                  rw [start.pdnConnections]
                · cases ran
                  show Function.update inserted.pdnConnections sp pdn = _
                  rw [start.pdnConnections]

/-- When the Sx request is sent, the procedure that waits for its response has the answer to
the request. -/
theorem establish_pends {trxnId seid : Nat} {ueIpAddress : Option Paa} {rules : List UplinkRules}
    (ran : s.establish config pc sa sp request response upNode = some (t, events))
    (sent : .sessionEstablishmentRequest trxnId seid ueIpAddress rules ∈ events) :
    ueIpAddress = response.paa ∧ ∃ proc ∈ (t.contexts pc).pendingProcedures,
      proc.trxnId = trxnId ∧ proc.ppc = sp ∧
      proc.kind = .sessionEstablishment request.bearerContextsToBeCreated response := by
  unfold establish at ran
  split at ran
  · cases ran
  · next proc inserted started =>
      have start := started_of_startProcedure started
      split at ran
      · cases ran
        simp at sent
      · split at ran
        · cases ran
        · next after sentEvents result =>
            unfold runEstablishment at result
            split at result
            · cases result
            · next pdn drawnRules added =>
                cases result
                split at ran
                · cases ran
                  obtain ⟨rfl, rfl, rfl, rfl⟩ : trxnId = proc.trxnId ∧ seid = pdn.seid ∧
                      ueIpAddress = response.paa ∧ rules = drawnRules := by
                    simpa using sent
                  obtain ⟨-, owner, kind⟩ := start.shape
                  refine ⟨rfl, proc, ?_, rfl, owner, kind⟩
                  show proc ∈ (inserted.contexts pc).pendingProcedures
                  rw [start.contexts, Function.update_self]
                  exact List.mem_append_right _ (List.mem_singleton_self proc)
                · cases ran
                  cases sent

/-- Only the connection of the request is written. -/
theorem assignPaa_others
    (ran : s.assignPaa config pc sa sp request upNode endValue = some (t, events)) {other : Nat}
    (different : other ≠ sp) : t.pdnConnections other = s.pdnConnections other := by
  rcases assignPaa_cases ran with ⟨-, rfl, -⟩ | ⟨-, -, paa, pending, started, -, -, -, result, -⟩
  · rfl
  · obtain ⟨pdn, -, written⟩ := establish_connections result
    rw [written, Function.update_of_ne different]
    exact Function.update_of_ne different _ _

/-- The connection of a request is one that was found, or the next object. -/
theorem attach_connection (routed : s.route config request = .context pc before)
    (attached : (before.entered pc request).attach pc request = some (after, sa, sp)) :
    (after.pdnConnections sp).pdnType = before.pdnTypeFor pc request ∧
      (before.findPdnConnectionOfApn pc request.apn request.teid true = some (sa, sp) ∨
        s.nextAddress < sp) ∧
      ∀ other, other ≠ sp → after.pdnConnections other = s.pdnConnections other := by
  have arrived : before.pdnConnections = s.pdnConnections ∧ s.nextAddress ≤ before.nextAddress := by
    rcases route_context routed with ⟨rfl, -⟩ | ⟨imsi, -, -, rfl, rfl⟩
    · exact ⟨rfl, le_rfl⟩
    · exact ⟨rfl, Nat.le_succ _⟩
  rcases attach_cases attached with ⟨found, rfl⟩ | ⟨missing, rfl, rfl, teid, new⟩
  · rw [findPdnConnectionOfApn_entered] at found
    refine ⟨?_, .inl found, fun other _ => congrFun arrived.1 other⟩
    rw [pdnTypeFor, found]
    rfl
  · rw [findPdnConnectionOfApn_entered] at missing
    refine ⟨?_, .inr (Nat.lt_succ_of_le arrived.2), fun other different => ?_⟩
    · rw [new.pdnType, pdnTypeFor, missing]
    · rw [new.others other different]
      exact congrFun arrived.1 other

/-- An accepted request: what is stored, asked for and answered. -/
theorem create_accepted {trxnId seid : Nat} {ueIpAddress : Option Paa} {rules : List UplinkRules}
    (handled : s.handleCreateSessionRequest config request upNode endValue = some (t, events))
    (accepted : .sessionEstablishmentRequest trxnId seid ueIpAddress rules ∈ events) :
    ∃ pc before, s.route config request = .context pc before ∧
      ∃ proc ∈ (t.contexts pc).pendingProcedures, proc.trxnId = trxnId ∧
      ∃ bearers pending, proc.kind = .sessionEstablishment bearers pending ∧
      ∃ paa, pending.paa = some paa ∧ ueIpAddress = some paa ∧
        paa.pdnType = (request.paa.getD {}).pdnType ∧ t.AttachedUnder request.apn proc.ppc ∧
        ((t.pdnConnections proc.ppc).Carries paa ↔
          paa.pdnType = before.pdnTypeFor pc request) := by
  rcases create_cases handled with
    ⟨-, -, answers⟩ | ⟨pc, sa, sp, before, after, routed, attached, ran⟩
  · obtain ⟨answer, same⟩ := answers _ accepted
    cases same
  · obtain ⟨type, -, -⟩ := attach_connection routed attached
    refine ⟨pc, before, routed, ?_⟩
    rcases assignPaa_cases ran with ⟨-, -, answer, -, rfl⟩ |
      ⟨addressed, taken, paa, pending, started, chosen, answered, -, result, rfl⟩
    · exfalso
      unfold PaaSelection.strayEvents at accepted
      split at accepted <;> simp at accepted
    · have sent := mem_started rfl (by simp) accepted
      obtain ⟨asked, proc, waits, same, owner, kind⟩ := establish_pends result sent
      obtain ⟨pdn, kept, written⟩ := establish_connections result
      rw [taken] at chosen
      refine ⟨proc, waits, same, _, pending, kind, paa, answered, asked.trans answered,
        pdnType_requestedOrFreePaa chosen, ?_, ?_⟩
      · have under : after.AttachedUnder request.apn sp := attachedUnder_of_attach attached
        rw [owner]
        exact (establish_effect result).1.attachedUnder.mpr under
      have stored : (t.pdnConnections proc.ppc).ueAddress =
          ((after.pdnConnections sp).set paa).ueAddress := by
        rw [owner, written, Function.update_self, kept]
        show (Function.update after.pdnConnections sp _ sp).ueAddress = _
        rw [Function.update_self]
      rw [← type, ← PdnConnection.carries_set_iff addressed]
      exact ⟨fun carries => carries.of_same stored.symm, fun carries => carries.of_same stored⟩

/-! ## Other messages of a session -/

/-- A Create Session Request writes to the connection it finds and to new objects. -/
theorem create_others {sp : Nat}
    (handled : s.handleCreateSessionRequest config request upNode endValue = some (t, events))
    (allocated : sp < s.nextAddress)
    (elsewhere : ∀ pc before sa, s.route config request = .context pc before →
      before.findPdnConnectionOfApn pc request.apn request.teid true ≠ some (sa, sp)) :
    t.pdnConnections sp = s.pdnConnections sp := by
  rcases create_cases handled with
    ⟨-, rfl, -⟩ | ⟨pc, sa, own, before, after, routed, attached, ran⟩
  · rfl
  · obtain ⟨-, place, others⟩ := attach_connection routed attached
    have different : sp ≠ own := by
      intro same
      cases place with
      | inl found => exact elsewhere pc before sa routed (same ▸ found)
      | inr new => omega
    rw [assignPaa_others ran different]
    exact others sp different

theorem establishmentResponse_ueAddress (answer : SessionEstablishmentResponse) (sp : Nat) :
    ((s.handleSessionEstablishmentResponse answer).1.pdnConnections sp).ueAddress =
      (s.pdnConnections sp).ueAddress := by
  unfold handleSessionEstablishmentResponse
  split
  · rfl
  · split
    · rfl
    · next proc found =>
        split
        · show (Function.update s.pdnConnections proc.ppc _ sp).ueAddress = _
          rw [Function.update_apply]
          split
          · next here =>
              rw [here]
              exact PdnConnection.ueAddress_established _ answer
          · rfl
        · rfl

theorem pdnConnections_deleteIfEmpty (s : State) (pc : Nat) :
    (s.deleteIfEmpty pc).pdnConnections = s.pdnConnections := by
  unfold deleteIfEmpty
  split <;> rfl

theorem deleteSession_connections {order : DeleteSessionRequest} {sent : Bool}
    (handled : s.handleDeleteSessionRequest order sent = some (t, events)) :
    t.pdnConnections = s.pdnConnections := by
  have inContext (pc : Nat) (t : State) (events : List Event)
      (ran : s.deleteInContext pc order sent = some (t, events)) :
      t.pdnConnections = s.pdnConnections := by
    unfold deleteInContext at ran
    dsimp only at ran
    split at ran
    · split at ran
      · cases ran
      · next started =>
          have start := started_of_startProcedure started
          split at ran
          · cases ran
            exact start.pdnConnections
          · cases ran
            exact start.pdnConnections
    · split at ran
      · cases ran
        rfl
      · cases ran
        rfl
  unfold handleDeleteSessionRequest at handled
  split at handled
  · cases handled
    rfl
  · split at handled
    · split at handled
      · cases handled
      · next ran =>
          cases handled
          rw [pdnConnections_deleteIfEmpty]
          exact inContext _ _ _ ran
    · split at handled
      · cases handled
        rfl
      · cases handled
        rfl

/-- The response to a deletion clears the connection that it detaches. -/
theorem deletionResponse_others (answer : SessionDeletionResponse) {sp : Nat}
    (elsewhere : ∀ sa, s.detaches answer ≠ some (sa, sp)) :
    (s.handleSessionDeletionResponse answer).1.pdnConnections sp = s.pdnConnections sp := by
  unfold handleSessionDeletionResponse
  unfold detaches at elsewhere
  split
  · rfl
  · next pc routed =>
      rw [routed] at elsewhere
      dsimp only at elsewhere
      split
      · rw [pdnConnections_deleteIfEmpty]
      · next proc found =>
          rw [found] at elsewhere
          dsimp only at elsewhere
          split
          · next context gtpcTxId teid kind =>
              rw [kind] at elsewhere
              dsimp only at elsewhere
              rw [pdnConnections_deleteIfEmpty]
              show (s.deleted context proc.ppc).1.pdnConnections sp = _
              unfold deleted
              split
              · next sa own search =>
                  have inside := (attachedUnder_of_findPdnConnection search).2
                  show (s.deletePdnConnection context sa own).pdnConnections sp = _
                  rw [(detached_deletePdnConnection inside).pdnConnections,
                    Function.update_of_ne]
                  intro same
                  exact elsewhere sa (same ▸ search)
              · rfl
          · rw [pdnConnections_deleteIfEmpty]
            rfl

end State

/-! ## Runs -/

namespace Gateway

variable {config : Config} {g next last : Gateway} {sp : Nat} {events : List Service.Event}
  {more : List (StepRecord Gateway Service.Action Service.Event)}

/-- The action stores an address in the connection or clears it: another Create Session Request
for it, or the end of its deletion. -/
def Readdresses (config : Config) (g : Gateway) (sp : Nat) : Service.Action → Prop
  | .session (.createSession request _ _) =>
      ∃ pc before sa, g.app.route config request = .context pc before ∧
        before.findPdnConnectionOfApn pc request.apn request.teid true = some (sa, sp)
  | .session (.sessionDeletionResponse answer) => ∃ sa, g.app.detaches answer = some (sa, sp)
  | _ => False

theorem ueAddress_of_step {action : Service.Action}
    (taken : Service.step config g action = some (next, events))
    (allocated : sp < g.app.nextAddress) (elsewhere : ¬g.Readdresses config sp action) :
    (next.app.pdnConnections sp).ueAddress = (g.app.pdnConnections sp).ueAddress := by
  cases step_cases taken with
  | inr other => exact (other.2.connections sp).ueAddress_eq
  | inl session =>
      obtain ⟨inner, shown, rfl, ran⟩ := session
      cases inner with
      | createSession request upNode endValue =>
          rw [State.create_others ran allocated fun pc before sa routed found =>
            elsewhere ⟨pc, before, sa, routed, found⟩]
      | sessionEstablishmentResponse answer =>
          have result : (g.app.handleSessionEstablishmentResponse answer).1 = next.app :=
            congrArg Prod.fst (Option.some.inj ran)
          rw [← result, State.establishmentResponse_ueAddress]
      | deleteSession order sent => rw [State.deleteSession_connections ran]
      | sessionDeletionResponse answer =>
          have result : (g.app.handleSessionDeletionResponse answer).1 = next.app :=
            congrArg Prod.fst (Option.some.inj ran)
          rw [← result,
            State.deletionResponse_others answer fun sa detached => elsewhere ⟨sa, detached⟩]

/-- A connection keeps its address until something writes another one. -/
theorem ueAddress_of_run (directory : Directory g)
    (run : Run (Service.step config) g more last) (allocated : sp < g.app.nextAddress)
    (elsewhere : ∀ record ∈ more, ¬record.before.Readdresses config sp record.action) :
    (last.app.pdnConnections sp).ueAddress = (g.app.pdnConnections sp).ueAddress := by
  have kept : Directory last ∧ sp < last.app.nextAddress ∧
      (last.app.pdnConnections sp).ueAddress = (g.app.pdnConnections sp).ueAddress := by
    induction run with
    | nil => exact ⟨directory, allocated, rfl⟩
    | snoc earlier taken inductionHypothesis =>
        rw [List.forall_mem_append] at elsewhere
        obtain ⟨before, below, same⟩ := inductionHypothesis elsewhere.1
        have mono := (turn_of_step before.housed.toLodged taken).1.nextAddress
        refine ⟨before.step taken, Nat.lt_of_lt_of_le below mono, ?_⟩
        have here := ueAddress_of_step taken below
          (elsewhere.2 _ (List.mem_singleton_self _))
        exact here.trans same
  exact kept.2.2

/-- The answer to a Create Session Request has the PAA that its procedure waits with. -/
theorem Lodged.answered_paa (lodged : Lodged g) {pc : Nat} {proc : Procedure}
    {bearers : List BearerContextToBeCreated} {pending response : CreateSessionResponse}
    (waits : proc ∈ g.app.pending pc) (kind : proc.kind = .sessionEstablishment bearers pending)
    {answer : SessionEstablishmentResponse} (own : answer.trxnId = proc.trxnId)
    (taken : Service.step config g (.session (.sessionEstablishmentResponse answer)) =
      some (next, events))
    (shown : .session (.createSessionResponse response) ∈ events) : response.paa = pending.paa := by
  change g.handleSession config (.sessionEstablishmentResponse answer) =
    some (next, events) at taken
  obtain ⟨⟨app, inner⟩, ran, same⟩ := Option.map_eq_some_iff.mp taken
  cases same
  have given : .createSessionResponse response ∈
      (g.app.handleSessionEstablishmentResponse answer).2 := by
    rw [Option.some.inj ran]
    obtain ⟨event, member, same⟩ := List.mem_map.mp shown
    cases same
    exact member
  unfold State.handleSessionEstablishmentResponse at given
  split at given
  · cases given
  · split at given
    · cases given
    · next proc' found =>
        obtain ⟨trxnId, inside⟩ := State.trxnId_of_findProcedure found
        have one : proc = proc' :=
          lodged.procedure_eq waits inside (own.symm.trans trxnId.symm)
        rw [← one, kind] at given
        cases List.mem_singleton.mp given
        rfl

/-- The answer to an accepted request is given with the PAA that was asked for at the UP node,
and whatever follows, the rules of the connection and what it has stored are those of this
PAA until the connection is given another one. -/
def GivenItsType (config : Config) (next : Gateway) (trxnId : Nat) (ueIpAddress : Option Paa) :
    Prop :=
  ∃ pc, ∃ proc ∈ next.app.pending pc, proc.trxnId = trxnId ∧ ∃ paa, ueIpAddress = some paa ∧
    ∀ more last, Run (Service.step config) next more last →
      (proc ∈ last.app.pending pc → ∀ answer after shown response, answer.trxnId = trxnId →
        Service.step config last (.session (.sessionEstablishmentResponse answer)) =
          some (after, shown) →
        .session (.createSessionResponse response) ∈ shown → response.paa = some paa) ∧
      ((∀ record ∈ more, ¬record.before.Readdresses config proc.ppc record.action) →
        ∀ its m, Modification.bearers { pdn := last.app.pdnConnections proc.ppc } its = some m →
          m.pdn.Carries paa)

/-- The PAA of the request, or the one that stands in for it, has the type of the connection. -/
def AsksForItsType (config : Config) (g : Gateway) (request : CreateSessionRequest) : Prop :=
  ∀ pc before, g.app.route config request = .context pc before →
    (request.paa.getD {}).pdnType = before.pdnTypeFor pc request

theorem Directory.givenItsType_iff (directory : Directory g) {request : CreateSessionRequest}
    {upNode : UpNode} {endValue trxnId seid : Nat} {ueIpAddress : Option Paa}
    {rules : List UplinkRules}
    (taken : Service.step config g (.session (.createSession request upNode endValue)) =
      some (next, events))
    (accepted : .session (.sessionEstablishmentRequest trxnId seid ueIpAddress rules) ∈ events) :
    GivenItsType config next trxnId ueIpAddress ↔ g.AsksForItsType config request := by
  have after := directory.step taken
  obtain ⟨⟨app, inner⟩, ran, same⟩ := Option.map_eq_some_iff.mp taken
  cases same
  obtain ⟨event, member, same⟩ := List.mem_map.mp accepted
  cases same
  obtain ⟨pc, before, routed, proc, waits, own, bearers, pending, kind, paa, answered, asked, type,
    ⟨home, sa, attached, -, inside⟩, carries⟩ := State.create_accepted ran member
  have condition : g.AsksForItsType config request ↔
      paa.pdnType = before.pdnTypeFor pc request := by
    rw [type]
    constructor
    · exact fun all => all pc before routed
    · intro here pc' before' routed'
      rw [routed] at routed'
      cases routed'
      exact here
  rw [condition, ← carries]
  constructor
  · rintro ⟨home, proc', waits', own', paa', asked', all⟩
    have one : proc = proc' :=
      after.housed.toLodged.procedure_eq waits waits' (own.trans own'.symm)
    cases asked.symm.trans asked'
    rw [one]
    exact (all [] _ (.initial _ _)).2 (fun _ absent => by cases absent) [] _ rfl
  · intro here
    refine ⟨pc, proc, waits, own, paa, asked, fun more last run => ⟨?_, ?_⟩⟩
    · intro still answer after' shown response trxnId step given
      have lodged := (run.invariant Directory after
        fun _ _ _ _ directory taken => directory.step taken).1.housed.toLodged
      rw [lodged.answered_paa still kind (trxnId.trans own.symm) step given, answered]
    · intro elsewhere its m modified
      obtain ⟨single, allocated⟩ := after.registered.single home sa attached
      rw [single, List.mem_singleton] at inside
      rw [← inside] at allocated
      have kept := ueAddress_of_run after run allocated elsewhere
      exact here.of_same ((Modification.onlyBearers modified).ueAddress_eq.trans kept)

end Gateway

open Gateway in
/-- In every reachable state, an accepted Create Session Request leaves its connection with an
address of the type of the connection, in the answer, in what is stored and in every rule, if
and only if the PAA of the request, or the IPv4 one that stands in for it, is of this type. -/
theorem given_its_type_iff (config : Config)
    (records : List (StepRecord Gateway Service.Action Service.Event)) (g : Gateway)
    (run : Run (Service.step config) (Gateway.init config.pdns) records g)
    (request : CreateSessionRequest) (upNode : UpNode) (endValue : Nat) (next : Gateway)
    (events : List Service.Event)
    (taken : Service.step config g (.session (.createSession request upNode endValue)) =
      some (next, events))
    (trxnId seid : Nat) (ueIpAddress : Option Paa) (rules : List UplinkRules)
    (accepted : .session (.sessionEstablishmentRequest trxnId seid ueIpAddress rules) ∈ events) :
    GivenItsType config next trxnId ueIpAddress ↔ g.AsksForItsType config request :=
  (directory_of_run run).givenItsType_iff taken accepted

/-- Two entries of one name, the first with a range of IPv4 addresses, the second with a prefix,
which makes it one of type IPv4v6. -/
def rangeAndPrefix : Config where
  pdns := [
    { apn := "oai", uePoolRangeLow := 0x0C010102, uePoolRangeHigh := 0x0C010104 },
    { apn := "oai", pdnType := .ipv4v6
      paaPool6Prefix := 0x20010DB8000000000000000000000000, paaPool6PrefixLen := 64 }]

/-- An address in the range. -/
def staticPaa : Paa := ⟨.ipv4, 0x0C010103, 0⟩

/-- It is the address of a connection of type IPv4, which keeps it. -/
theorem static_paa_given : ∃ next events,
    Service.step rangeAndPrefix (Gateway.init rangeAndPrefix.pdns) (.session (.createSession
        (oneBearer 1 0 (some staticPaa)) .sent 0)) = some (next, events) ∧
      .session (.sessionEstablishmentRequest 1 1 (some staticPaa) [⟨5, 1, 1⟩]) ∈ events ∧
      Gateway.GivenItsType rangeAndPrefix next 1 (some staticPaa) := by
  have passes : (Service.step rangeAndPrefix (Gateway.init rangeAndPrefix.pdns) (.session
      (.createSession (oneBearer 1 0 (some staticPaa)) .sent 0))).any (fun result =>
        .session (.sessionEstablishmentRequest 1 1 (some staticPaa) [⟨5, 1, 1⟩]) ∈
          result.2) = true := by decide
  obtain ⟨⟨next, events⟩, taken, accepted⟩ := (Option.any_eq_true ..).mp passes
  have accepted := of_decide_eq_true accepted
  refine ⟨next, events, taken, accepted, (given_its_type_iff rangeAndPrefix [] _ (.initial _ _)
    _ _ _ next events taken 1 1 _ _ accepted).mpr ?_⟩
  intro pc before routed
  cases routed
  decide

/-- A request for a connection of type IPv4v6, without a PAA. -/
def withoutPaa : CreateSessionRequest := { oneBearer 1 0 none with pdnType := some .ipv4v6 }

/-- Without a PAA, a connection of type IPv4v6 gets an IPv4 address. -/
theorem absent_paa_ipv4_only : ¬∀ records g,
    Run (Service.step rangeAndPrefix) (Gateway.init rangeAndPrefix.pdns) records g →
      ∀ request upNode endValue next events,
        Service.step rangeAndPrefix g (.session (.createSession request upNode endValue)) =
          some (next, events) →
        ∀ trxnId seid ueIpAddress rules,
          .session (.sessionEstablishmentRequest trxnId seid ueIpAddress rules) ∈ events →
          Gateway.GivenItsType rangeAndPrefix next trxnId ueIpAddress := by
  intro given
  have passes : (Service.step rangeAndPrefix (Gateway.init rangeAndPrefix.pdns) (.session
      (.createSession withoutPaa .sent 0))).any (fun result =>
        .session (.sessionEstablishmentRequest 1 1 (some ⟨.ipv4, 0x0C010102, 0⟩) [⟨5, 1, 1⟩]) ∈
          result.2) = true := by decide
  obtain ⟨⟨next, events⟩, taken, accepted⟩ := (Option.any_eq_true ..).mp passes
  have accepted := of_decide_eq_true accepted
  have gives := given [] _ (.initial _ _) _ _ _ next events taken 1 1 _ _ accepted
  rw [(Gateway.directory_init rangeAndPrefix.pdns).givenItsType_iff taken accepted] at gives
  have routed : (Gateway.init rangeAndPrefix.pdns).app.route rangeAndPrefix withoutPaa =
      .context 0 ((Gateway.init rangeAndPrefix.pdns).app.newContext 1) := rfl
  exact absurd (gives 0 _ routed) (by decide)

end OpenairSpgwc.Pgw
