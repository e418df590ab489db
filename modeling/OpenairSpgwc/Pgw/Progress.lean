import OpenairSpgwc.Common.UidHistory
import OpenairSpgwc.Pgw.Directory

/-!
Contract: when the handlers of the PGW return.

A handler does not return when a generator has no value left, when an IPCP container of a
Create Session Request raises an exception or is read for ever, when such a request is for
a new connection and has no bearer context, and when a null pointer is followed. The last
does not happen in a reachable state.

Owns:
- `PdnConnection.Supplies`, how many bearers a connection has rule identifiers for;
- `Gateway.Ready`, what a message needs of the state that it finds;
- `Directory.exists_step`: the handler of such a message returns.
-/

namespace OpenairSpgwc.Pgw

open Foundation
open OpenairSpgwc.Common
open Std (ExtTreeMap)

/-! ## Rule identifiers -/

namespace PdnConnection

variable {pdn next : PdnConnection} {bearer : EpsBearer} {m n : Nat}

/-- At least `n` FAR identifiers and `n` PDR identifiers are left. -/
structure Supplies (pdn : PdnConnection) (n : Nat) : Prop where
  farIds : pdn.farIdGenerator.Supplies n
  pdrIds : pdn.pdrIdGenerator.Supplies n

theorem Supplies.fewer (supplies : pdn.Supplies n) (fewer : m ≤ n) : pdn.Supplies m :=
  ⟨supplies.farIds.fewer fewer, supplies.pdrIds.fewer fewer⟩

theorem Supplies.addEpsBearer (supplies : pdn.Supplies n) (bearer : EpsBearer) :
    (pdn.addEpsBearer bearer).Supplies n := by
  unfold PdnConnection.addEpsBearer
  split
  · exact ⟨supplies.farIds, supplies.pdrIds⟩
  · exact supplies

theorem Supplies.put (supplies : pdn.Supplies n) {bearers : ExtTreeMap Nat EpsBearer} :
    ({ pdn with epsBearers := bearers } : PdnConnection).Supplies n :=
  ⟨supplies.farIds, supplies.pdrIds⟩

theorem Supplies.set (supplies : pdn.Supplies n) (paa : Paa) : (pdn.set paa).Supplies n := by
  unfold PdnConnection.set
  split <;> exact ⟨supplies.farIds, supplies.pdrIds⟩

/-- A new connection. -/
theorem supplies_of_fresh (farIds : pdn.farIdGenerator = .empty)
    (pdrIds : pdn.pdrIdGenerator = .empty) (few : n ≤ 2 ^ 16) : pdn.Supplies n := by
  constructor
  · rw [farIds]
    exact UintGenerator.supplies_empty (few.trans (by decide))
  · rw [pdrIds]
    exact UintGenerator.supplies_empty few

/-- Every bearer to be created draws one identifier of each kind. -/
theorem Supplies.addBearers {bearers : List BearerContextToBeCreated}
    (supplies : pdn.Supplies bearers.length) :
    ∃ next rules, addBearers pdn bearers = some (next, rules) := by
  induction bearers generalizing pdn with
  | nil => exact ⟨pdn, [], rfl⟩
  | cons bearer bearers inductionHypothesis =>
      obtain ⟨farId, farIds, drawnFar, farLeft⟩ := supplies.farIds.getUid
      obtain ⟨pdrId, pdrIds, drawnPdr, pdrLeft⟩ := supplies.pdrIds.getUid
      have left : ({ pdn with farIdGenerator := farIds, pdrIdGenerator := pdrIds } :
          PdnConnection).Supplies bearers.length := ⟨farLeft, pdrLeft⟩
      obtain ⟨next, rules, added⟩ := inductionHypothesis (left.addEpsBearer
        { ebi := bearer.epsBearerId, farIdUl := some farId, pdrIdUl := pdrId })
      refine ⟨next, ⟨bearer.epsBearerId, farId, pdrId⟩ :: rules, ?_⟩
      rw [Pgw.addBearers, drawnFar, drawnPdr]
      simp only [added]

end PdnConnection

namespace Modification

variable {m : Modification} {peb : EpsBearer} {n : Nat}

theorem generateFarId_of_supplies (supplies : m.pdn.farIdGenerator.Supplies (n + 1)) :
    ∃ farId farIds, m.generateFarId =
        some (farId, { m with pdn := { m.pdn with farIdGenerator := farIds } }) ∧
      farIds.Supplies n := by
  obtain ⟨farId, farIds, drawn, left⟩ := supplies.getUid
  refine ⟨farId, farIds, ?_, left⟩
  rw [generateFarId, drawn, Option.map_some]

theorem generatePdrId_of_supplies (supplies : m.pdn.pdrIdGenerator.Supplies (n + 1)) :
    ∃ pdrId pdrIds, m.generatePdrId =
        some (pdrId, { m with pdn := { m.pdn with pdrIdGenerator := pdrIds } }) ∧
      pdrIds.Supplies n := by
  obtain ⟨pdrId, pdrIds, drawn, left⟩ := supplies.getUid
  refine ⟨pdrId, pdrIds, ?_, left⟩
  rw [generatePdrId, drawn, Option.map_some]

/-- The rules of the downlink draw at most one identifier of each kind. -/
theorem downlink_of_supplies (supplies : m.pdn.Supplies (n + 1)) (peb : EpsBearer)
    (v : UserPlaneFteid) :
    ∃ next bearer, m.downlink peb v = some (next, bearer) ∧ next.pdn.Supplies n := by
  have farKept := supplies.farIds.fewer (Nat.le_succ n)
  have pdrKept := supplies.pdrIds.fewer (Nat.le_succ n)
  unfold downlink
  split
  · next farId far =>
      obtain ⟨pdrId, pdrIds, drawnPdr, pdrLeft⟩ := @generatePdrId_of_supplies
        (m.updateFar ⟨farId + 1, .forw, some ⟨v.teidGreKey, v.ipv4Address⟩⟩) n supplies.pdrIds
      simp only [Option.pure_def, Option.bind_eq_bind, Option.bind_some]
      split
      · rw [drawnPdr]
        exact ⟨_, _, rfl, farKept, pdrLeft⟩
      · exact ⟨_, _, rfl, farKept, pdrKept⟩
  · obtain ⟨farId, farIds, drawnFar, farLeft⟩ := generateFarId_of_supplies supplies.farIds
    obtain ⟨pdrId, pdrIds, drawnPdr, pdrLeft⟩ := @generatePdrId_of_supplies
      (({ m with pdn := { m.pdn with farIdGenerator := farIds } } : Modification).createFar
        ⟨farId, .access, some ⟨v.teidGreKey, v.ipv4Address⟩⟩) n supplies.pdrIds
    simp only [drawnFar, Option.pure_def, Option.bind_eq_bind, Option.bind_some]
    split
    · rw [drawnPdr]
      exact ⟨_, _, rfl, farLeft, pdrLeft⟩
    · exact ⟨_, _, rfl, farLeft, pdrKept⟩

/-- So do those of the uplink. -/
theorem uplink_of_supplies (supplies : m.pdn.Supplies (n + 1)) (peb : EpsBearer) :
    ∃ next bearer, m.uplink peb = some (next, bearer) ∧ next.pdn.Supplies n := by
  have farKept := supplies.farIds.fewer (Nat.le_succ n)
  have pdrKept := supplies.pdrIds.fewer (Nat.le_succ n)
  unfold uplink
  split
  · obtain ⟨pdrId, pdrIds, drawnPdr, pdrLeft⟩ := generatePdrId_of_supplies supplies.pdrIds
    simp only [Option.pure_def, Option.bind_eq_bind, Option.bind_some]
    split
    · rw [drawnPdr]
      exact ⟨_, _, rfl, farKept, pdrLeft⟩
    · exact ⟨_, _, rfl, farKept, pdrKept⟩
  · obtain ⟨farId, farIds, drawnFar, farLeft⟩ := generateFarId_of_supplies supplies.farIds
    obtain ⟨pdrId, pdrIds, drawnPdr, pdrLeft⟩ := @generatePdrId_of_supplies
      (({ m with pdn := { m.pdn with farIdGenerator := farIds } } : Modification).createFar
        ⟨farId, .core, none⟩) n supplies.pdrIds
    simp only [drawnFar, Option.pure_def, Option.bind_eq_bind, Option.bind_some]
    split
    · rw [drawnPdr]
      exact ⟨_, _, rfl, farLeft, pdrLeft⟩
    · exact ⟨_, _, rfl, farLeft, pdrKept⟩

/-- One pass of the loop. -/
theorem bearer_of_supplies (supplies : m.pdn.Supplies (n + 2)) (it : BearerContextToBeModified) :
    ∃ next, m.bearer it = some next ∧ next.pdn.Supplies n := by
  have finishes {middle : Modification} (left : middle.pdn.Supplies (n + 1)) (peb : EpsBearer) :
      ∃ next, finish it.target (middle, peb) = some next ∧ next.pdn.Supplies n := by
    unfold finish
    split
    · exact ⟨_, rfl, (left.fewer (Nat.le_succ n)).put.addEpsBearer _⟩
    · obtain ⟨next, bearer, ran, rest⟩ := uplink_of_supplies left peb
      rw [ran]
      exact ⟨_, rfl, rest.put.addEpsBearer _⟩
  have put : (m.put it.target (m.bearerAt it.target)).pdn.Supplies (n + 2) := supplies.put
  rw [bearer_eq]
  split
  · exact ⟨_, rfl, put.fewer (Nat.le_add_right n 2)⟩
  · split
    · exact ⟨_, rfl, put.fewer (Nat.le_add_right n 2)⟩
    · split
      · next v _ =>
          obtain ⟨middle, bearer, ran, left⟩ := downlink_of_supplies put (m.bearerAt it.target) v
          rw [ran]
          exact finishes left bearer
      · exact finishes (put.fewer (Nat.le_succ (n + 1))) (m.bearerAt it.target)

/-- The loop draws at most two identifiers of each kind for a bearer context. -/
theorem bearers_of_supplies {its : List BearerContextToBeModified}
    (supplies : m.pdn.Supplies (2 * its.length)) : ∃ next, m.bearers its = some next := by
  induction its generalizing m with
  | nil => exact ⟨m, rfl⟩
  | cons it its inductionHypothesis =>
      obtain ⟨middle, first, left⟩ := bearer_of_supplies supplies it
      obtain ⟨next, later⟩ := inductionHypothesis left
      exact ⟨next, Option.bind_eq_some_iff.mpr ⟨middle, first, later⟩⟩

end Modification

/-! ## Create and Delete Session Requests -/

namespace State

variable {config : Config} {s : State} {pc sa sp : Nat} {request : CreateSessionRequest}

/-- The connection that a request is for has rule identifiers for its bearers. A new one
has them, and needs a first bearer context and a TEID. -/
inductive Room (s : State) (pc : Nat) (request : CreateSessionRequest) : Prop where
  | found (sa sp : Nat)
      (found : s.findPdnConnectionOfApn pc request.apn request.teid true = some (sa, sp))
      (supplies : (s.pdnConnections sp).Supplies request.bearerContextsToBeCreated.length)
  | new (missing : s.findPdnConnectionOfApn pc request.apn request.teid true = none)
      (default : request.bearerContextsToBeCreated ≠ [])
      (few : request.bearerContextsToBeCreated.length ≤ 2 ^ 16)
      (teid : ∃ teid, 0 < teid ∧ teid < 2 ^ 32 ∧ teid ∉ s.s5s8cplteid)

/-- What the handler of a Create Session Request needs in the context `pc`. -/
structure Suits (s : State) (pc : Nat) (request : CreateSessionRequest) : Prop where
  negotiable : ∀ poc ∈ request.pco.protocolOrContainerIds,
    poc.protocolId = Pco.protocolIdentifierIpcp → Pco.Negotiable poc.protocolIdContents
  transaction : s.uids.Supplies 1
  room : s.Room pc request

/-- The IMSI of a context plays no part. -/
theorem Room.entered (room : s.Room pc request) : (s.entered pc request).Room pc request := by
  cases room with
  | found sa sp found supplies =>
      exact .found sa sp (findPdnConnectionOfApn_entered.trans found) supplies
  | new missing default few teid =>
      exact .new (findPdnConnectionOfApn_entered.trans missing) default few teid

/-- The loop of `generate_s5s8_cp_teid` ends. -/
theorem exists_teid (left : ∃ teid, 0 < teid ∧ teid < 2 ^ 32 ∧ teid ∉ s.s5s8cplteid) :
    ∃ teid, UintGenerator.getUidLoop 32 (insert 0 s.s5s8cplteid) (2 ^ 32)
      ((s.teidS5s8CpGenerator + 1) % 2 ^ 32) = some teid := by
  obtain ⟨teid, positive, small, unused⟩ := left
  have free : teid ∉ insert 0 s.s5s8cplteid := by
    rw [Finset.mem_insert, not_or]
    exact ⟨positive.ne', unused⟩
  obtain ⟨turns, -, found, -⟩ :=
    @exists_cyclicSearch _ (fun teid => decide (teid ∉ insert 0 s.s5s8cplteid))
      (s.teidS5s8CpGenerator + 1) teid small (decide_eq_true free)
  rw [← UintGenerator.getUidLoop_eq_cyclicSearch] at found
  exact ⟨_, found⟩

/-- The connection is found or built. -/
theorem attach_of_room (room : s.Room pc request) :
    ∃ next sa sp, s.attach pc request = some (next, sa, sp) ∧ next.uids = s.uids ∧
      (next.pdnConnections sp).Supplies request.bearerContextsToBeCreated.length := by
  cases room with
  | found sa sp found supplies =>
      refine ⟨s, sa, sp, ?_, rfl, supplies⟩
      rw [attach, found]
  | new missing default few teid =>
      obtain ⟨bearer, bearers, given⟩ := List.exists_cons_of_ne_nil default
      obtain ⟨teid, drawn⟩ := exists_teid teid
      rw [given] at few
      unfold attach
      rw [missing]
      simp only [given, generateS5s8CpTeid, setApnContext, setContext, drawn]
      refine ⟨_, _, _, rfl, rfl, PdnConnection.supplies_of_fresh ?_ ?_ few⟩
      all_goals simp only [setPdnConnection, Function.update_self]

theorem exists_startProcedure (supplies : s.uids.Supplies 1) (kind : ProcedureKind) :
    ∃ proc next, s.startProcedure pc sp kind = some (proc, next) ∧
      next.pdnConnections = s.pdnConnections := by
  obtain ⟨trxnId, uids, drawn, -⟩ := supplies.getUid
  unfold startProcedure
  rw [drawn]
  exact ⟨_, _, rfl, rfl⟩

theorem exists_establish (supplies : s.uids.Supplies 1)
    (rules : (s.pdnConnections sp).Supplies request.bearerContextsToBeCreated.length)
    (response : CreateSessionResponse) (upNode : UpNode) :
    ∃ result, s.establish config pc sa sp request response upNode = some result := by
  obtain ⟨proc, next, started, same⟩ := @exists_startProcedure s pc sp supplies
    (.sessionEstablishment request.bearerContextsToBeCreated response)
  unfold establish
  rw [started]
  dsimp only
  split
  · exact ⟨_, rfl⟩
  · rw [← same] at rules
    have left : ((next.pdnConnections sp).generateSeid config.instanceId).Supplies
        request.bearerContextsToBeCreated.length := ⟨rules.farIds, rules.pdrIds⟩
    obtain ⟨pdn, uplinks, added⟩ := left.addBearers
    rw [runEstablishment, added]
    dsimp only
    split <;> exact ⟨_, rfl⟩

/-- The options are answered, and the PAA is selected or refused. -/
theorem exists_assignPaa
    (negotiable : ∀ poc ∈ request.pco.protocolOrContainerIds,
      poc.protocolId = Pco.protocolIdentifierIpcp → Pco.Negotiable poc.protocolIdContents)
    (supplies : s.uids.Supplies 1)
    (rules : (s.pdnConnections sp).Supplies request.bearerContextsToBeCreated.length)
    (upNode : UpNode) (endValue : Nat) :
    ∃ result, s.assignPaa config pc sa sp request upNode endValue = some result := by
  obtain ⟨⟨pcoResp, pcoIds⟩, processed⟩ :=
    (Pco.processed_iff config.pco request.pco le_rfl).mpr negotiable
  unfold assignPaa
  rw [processed]
  unfold assignPaaWith
  dsimp only
  split
  · generalize (selectPaa s.paaDynamic (s.apnContexts sa).apnInUse (s.pdnConnections sp).pdnType
      pcoIds request.paa endValue) = selection
    generalize selection.paa.or (request.paa.filter Paa.isIpAssigned) = stored
    cases stored with
    | none =>
        obtain ⟨result, established⟩ := @exists_establish config
          { s with paaDynamic := selection.pools } pc sa sp request supplies rules _ upNode
        rw [established]
        exact ⟨_, rfl⟩
    | some paa =>
        have own : ((s.withPaa sp selection paa).pdnConnections sp).Supplies
            request.bearerContextsToBeCreated.length := by
          simp only [withPaa, setPdnConnection, Function.update_self]
          exact rules.set paa
        obtain ⟨result, established⟩ := @exists_establish config (s.withPaa sp selection paa) pc
          sa sp request supplies own _ upNode
        unfold withPaa at established
        rw [established]
        exact ⟨_, rfl⟩
  · exact ⟨_, rfl⟩

/-- The null pointer is not followed: a TEID that is taken is in the map. -/
theorem route_ne_nullContext (keys : ∀ teid ∈ s.s5s8cplteid, teid ∈ s.s5s8lteid2pgwContext) :
    s.route config request ≠ .nullContext := by
  intro routed
  unfold route at routed
  split at routed
  · cases routed
  · split at routed
    · cases routed
    · split at routed
      · cases routed
      · next known =>
          split at routed
          · cases routed
          · split at routed
            · split at routed
              · cases routed
              · split at routed <;> cases routed
            · split at routed
              · next nonzero =>
                  have taken := keys request.teid (by_contra fun free => known ⟨nonzero, free⟩)
                  split at routed
                  · cases routed
                  · next missing =>
                      rw [ExtTreeMap.mem_iff_isSome_getElem?, missing] at taken
                      cases taken
              · cases routed

theorem exists_create (keys : ∀ teid ∈ s.s5s8cplteid, teid ∈ s.s5s8lteid2pgwContext)
    (suits : ∀ pc before, s.route config request = .context pc before → before.Suits pc request)
    (upNode : UpNode) (endValue : Nat) :
    ∃ result, s.handleCreateSessionRequest config request upNode endValue = some result := by
  unfold handleCreateSessionRequest
  cases routed : s.route config request with
  | ignored => exact ⟨_, rfl⟩
  | answered cause => exact ⟨_, rfl⟩
  | nullContext => exact absurd routed (route_ne_nullContext keys)
  | context pc before =>
      have suited := suits pc before routed
      obtain ⟨next, sa, sp, attached, same, supplies⟩ :=
        attach_of_room (suited.room.entered : (before.entered pc request).Room pc request)
      have transaction : next.uids.Supplies 1 := by
        rw [same]
        exact suited.transaction
      obtain ⟨result, ran⟩ := @exists_assignPaa config next pc sa sp request suited.negotiable
        transaction supplies upNode endValue
      refine ⟨result, ?_⟩
      unfold entered at attached
      simp only [createInContext, attached, ran]

theorem exists_delete {request : DeleteSessionRequest} (transaction : s.uids.Supplies 1)
    (sent : Bool) : ∃ result, s.handleDeleteSessionRequest request sent = some result := by
  have inContext (pc : Nat) : ∃ result, s.deleteInContext pc request sent = some result := by
    unfold deleteInContext
    dsimp only
    split
    · next sa sp found =>
        obtain ⟨proc, next, started, -⟩ := @exists_startProcedure s pc sp transaction
          (.deleteSession pc request.gtpcTxId (s.pdnConnections sp).sgwFteidS5S8Cp.teidGreKey)
        rw [started]
        dsimp only
        split <;> exact ⟨_, rfl⟩
    · split <;> exact ⟨_, rfl⟩
  unfold handleDeleteSessionRequest
  split
  · exact ⟨_, rfl⟩
  · split
    · next pc routed =>
        obtain ⟨result, ran⟩ := inContext pc
        rw [ran]
        exact ⟨_, rfl⟩
    · split <;> exact ⟨_, rfl⟩

end State

/-! ## The messages of every kind -/

namespace Gateway

variable {config : Config} {g : Gateway} {pc sp : Nat} {action : Service.Action}

/-- The connection that a Modify Bearer Request is for. -/
def connectionToModify (g : Gateway) (request : ModifyBearerRequest) : Option Nat :=
  (g.app.s5s8lteid2pgwContext[request.teid]?).bind fun pc =>
    (match request.senderFteidForCp with
    | some sender => g.app.findPdnConnection pc sender.teidGreKey false
    | none => g.app.findPdnConnection pc request.teid true).map Prod.snd

/-- What the handler of a message needs. Every procedure has an identifier, and so has a
Downlink Data Notification. -/
def Ready (config : Config) (g : Gateway) : Service.Action → Prop
  | .session (.createSession request _ _) =>
      ∀ pc before, g.app.route config request = .context pc before → before.Suits pc request
  | .session (.deleteSession _ _) => g.app.uids.Supplies 1
  | .modifyBearer request _ =>
      g.app.uids.Supplies 1 ∧ ∀ sp, g.connectionToModify request = some sp →
        (g.app.pdnConnections sp).Supplies (2 * request.bearerContextsToBeModified.length)
  | .releaseAccessBearers _ _ => g.app.uids.Supplies 1
  | .sessionReport _ _ => g.app.uids.Supplies 1
  | _ => True

theorem exists_generateTrxnId (transaction : g.app.uids.Supplies 1) :
    ∃ trxnId next, g.generateTrxnId = some (trxnId, next) ∧
      next.app.pdnConnections = g.app.pdnConnections := by
  obtain ⟨trxnId, uids, drawn, -⟩ := transaction.getUid
  unfold generateTrxnId
  rw [drawn]
  exact ⟨_, _, rfl, rfl⟩

theorem exists_modify {request : ModifyBearerRequest} (transaction : g.app.uids.Supplies 1)
    (rules : ∀ sp, g.connectionToModify request = some sp →
      (g.app.pdnConnections sp).Supplies (2 * request.bearerContextsToBeModified.length))
    (sent : Bool) : ∃ result, g.handleModifyBearerRequest request sent = some result := by
  unfold handleModifyBearerRequest
  split
  · exact ⟨_, rfl⟩
  · split
    · next pc routed =>
        unfold modifyInContext
        dsimp only
        split
        · next sa sp found =>
            have supplies := rules sp (by
              unfold connectionToModify
              rw [routed, Option.bind_some]
              exact Option.map_eq_some_iff.mpr ⟨(sa, sp), found, rfl⟩)
            obtain ⟨trxnId, next, generated, same⟩ := exists_generateTrxnId transaction
            rw [← same] at supplies
            obtain ⟨m, ran⟩ := @Modification.bearers_of_supplies
              { pdn := next.app.pdnConnections sp } _ supplies
            simp only [runModifyBearer, generated, ran, Option.pure_def, Option.bind_eq_bind,
              Option.bind_some]
            split
            · split <;> exact ⟨_, rfl⟩
            · exact ⟨_, rfl⟩
        · split <;> exact ⟨_, rfl⟩
    · split <;> exact ⟨_, rfl⟩

/-- A TEID that is in the map has a connection. -/
theorem exists_release (registered : g.app.Registered) (transaction : g.app.uids.Supplies 1)
    (request : ReleaseAccessBearersRequest) (sent : Bool) :
    ∃ result, g.handleReleaseAccessBearersRequest request sent = some result := by
  unfold handleReleaseAccessBearersRequest
  split
  · next pc routed =>
      obtain ⟨sa, member, own⟩ := registered.owned request.teid pc routed
      have found := registered.findPdnConnection_own member
      rw [own] at found
      unfold releaseInContext
      rw [found]
      dsimp only
      split
      · exact ⟨_, rfl⟩
      · obtain ⟨trxnId, next, generated, -⟩ := exists_generateTrxnId transaction
        simp only [runReleaseAccessBearers, generated, Option.pure_def, Option.bind_eq_bind,
          Option.bind_some]
        split <;> exact ⟨_, rfl⟩
  · exact ⟨_, rfl⟩

theorem exists_report (transaction : g.app.uids.Supplies 1) (request : SessionReportRequest)
    (sent : Bool) : ∃ result, g.handleSessionReportRequest request sent = some result := by
  unfold handleSessionReportRequest
  split
  · unfold reportInContext
    split
    · exact ⟨_, rfl⟩
    · obtain ⟨trxnId, next, generated, -⟩ := exists_generateTrxnId transaction
      simp only [generated, Option.pure_def, Option.bind_eq_bind, Option.bind_some]
      split <;> exact ⟨_, rfl⟩
  · exact ⟨_, rfl⟩

/-- In a reachable state, the handler of a message that finds what it needs returns. -/
theorem Directory.exists_step (directory : Directory g) (ready : g.Ready config action) :
    ∃ next events, Service.step config g action = some (next, events) := by
  suffices returned : ∃ result, Service.step config g action = some result by
    obtain ⟨⟨next, events⟩, ran⟩ := returned
    exact ⟨next, events, ran⟩
  cases action with
  | session message =>
      have returned : ∃ result, Pgw.step config g.app message = some result := by
        cases message with
        | createSession request upNode endValue =>
            exact State.exists_create
              (fun teid taken => (directory.registered.keys teid).mp taken) ready upNode endValue
        | deleteSession request sent => exact State.exists_delete ready sent
        | sessionEstablishmentResponse response => exact ⟨_, rfl⟩
        | sessionDeletionResponse response => exact ⟨_, rfl⟩
      obtain ⟨result, ran⟩ := returned
      exact ⟨_, Option.map_eq_some_iff.mpr ⟨result, ran, rfl⟩⟩
  | modifyBearer request sent => exact exists_modify ready.1 ready.2 sent
  | releaseAccessBearers request sent =>
      exact exists_release directory.registered ready request sent
  | sessionModificationResponse response => exact ⟨_, rfl⟩
  | sessionReport request sent => exact exists_report ready request sent
  | downlinkDataNotificationAcknowledge ack => exact ⟨_, rfl⟩
  | notifyUlError trxnId => exact ⟨_, rfl⟩

end Gateway

end OpenairSpgwc.Pgw
