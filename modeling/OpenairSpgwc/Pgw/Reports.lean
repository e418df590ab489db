import OpenairSpgwc.Foundation.Transition
import OpenairSpgwc.Pgw.Registry
import OpenairSpgwc.Pgw.Service

/-!
Contract: which connection and which bearer a downlink data report is taken to
be about.

The report names a session and a PDR. The session leads to a context, and the
PDR is then looked for in all of its connections, in the order of their APN
contexts. Every connection numbers its PDRs from one.

Owns:
- `ReportedFor`, that a report starts a procedure for a connection and an EBI;
- `report_reaches_bearer_iff`, when it does so for the bearer it is about.
-/

namespace OpenairSpgwc.Pgw

open Foundation
open OpenairSpgwc.Common
open Std (ExtTreeMap)

def EpsBearer.HasPdr (bearer : EpsBearer) (pdrId : Nat) : Prop :=
  bearer.pdrIdUl = pdrId ∨ bearer.pdrIdDl = pdrId

instance (bearer : EpsBearer) (pdrId : Nat) : Decidable (bearer.HasPdr pdrId) :=
  inferInstanceAs (Decidable (_ ∨ _))

namespace PdnConnection

variable {pdn : PdnConnection} {pdrId : Nat} {bearer : EpsBearer}

/-- The bearers in the order of the map. -/
def bearers (pdn : PdnConnection) : List EpsBearer := pdn.epsBearers.toList.map Prod.snd

theorem bearerOfPdrId_eq_find? :
    pdn.bearerOfPdrId pdrId = pdn.bearers.find? fun bearer => decide (bearer.HasPdr pdrId) := by
  unfold bearerOfPdrId bearers
  rw [List.find?_map]
  congr 2
  funext it
  rw [Bool.eq_iff_iff, Function.comp_apply, decide_eq_true_iff]
  simp [EpsBearer.HasPdr]

theorem bearerOfPdrId_eq_some_iff :
    pdn.bearerOfPdrId pdrId = some bearer ↔
      bearer.HasPdr pdrId ∧ ∃ earlier later, pdn.bearers = earlier ++ bearer :: later ∧
        ∀ other ∈ earlier, ¬other.HasPdr pdrId := by
  rw [bearerOfPdrId_eq_find?, List.find?_eq_some_iff_append]
  simp

theorem bearerOfPdrId_eq_none_iff :
    pdn.bearerOfPdrId pdrId = none ↔ ∀ bearer ∈ pdn.bearers, ¬bearer.HasPdr pdrId := by
  rw [bearerOfPdrId_eq_find?, List.find?_eq_none]
  simp

end PdnConnection

namespace Gateway

variable {config : Config} {g next : Gateway} {request : SessionReportRequest}
  {pc sp ebi pdrId : Nat} {bearer : EpsBearer}

/-- The connections of a context in the order in which they are searched. -/
def connectionsOf (g : Gateway) (pc : Nat) : List Nat :=
  (g.app.contexts pc).apns.flatMap fun sa => (g.app.apnContexts sa).pdnConnections

/-- The report starts a procedure for the connection and the EBI, and notifies
the SGW of that connection. -/
def ReportedFor (config : Config) (g : Gateway) (request : SessionReportRequest)
    (sp ebi : Nat) : Prop :=
  ∃ pc trxnId next, Service.step config g (.sessionReport request true) = some (next,
      [.downlinkDataNotification trxnId (g.app.pdnConnections sp).sgwFteidS5S8Cp.teidGreKey ebi]) ∧
    next.procedures pc = g.procedures pc ++ [⟨trxnId, sp, .downlinkDataReport ebi⟩]

/-- The report is about a bearer of a connection: its SEID is the one of the
connection and its PDR is one of the bearer's. -/
structure Concerns (g : Gateway) (request : SessionReportRequest) (sp pdrId : Nat)
    (bearer : EpsBearer) : Prop where
  downlink : request.dldr = true
  pdr : request.pdrId = some pdrId
  session : (g.app.pdnConnections sp).seid = request.seid
  stored : bearer ∈ (g.app.pdnConnections sp).bearers
  has : bearer.HasPdr pdrId

/-- No connection that is searched before has the PDR. -/
def FoundFirst (g : Gateway) (pc sp pdrId : Nat) : Prop :=
  ∃ earlier later, g.connectionsOf pc = earlier ++ sp :: later ∧
    ∀ other ∈ earlier, ∀ bearer ∈ (g.app.pdnConnections other).bearers, ¬bearer.HasPdr pdrId

/-- The first bearer of a connection that has the PDR has the EBI. -/
def FirstBearer (g : Gateway) (sp pdrId ebi : Nat) : Prop :=
  ∃ earlier first later, (g.app.pdnConnections sp).bearers = earlier ++ first :: later ∧
    first.HasPdr pdrId ∧ first.ebi = ebi ∧ ∀ other ∈ earlier, ¬other.HasPdr pdrId

theorem hasEpsBearer_eq_some_iff :
    g.hasEpsBearer sp pdrId = some ebi ↔ g.FirstBearer sp pdrId ebi := by
  unfold hasEpsBearer FirstBearer
  rw [Option.map_eq_some_iff]
  simp only [PdnConnection.bearerOfPdrId_eq_some_iff]
  constructor
  · rintro ⟨first, ⟨has, earlier, later, split, none⟩, same⟩
    exact ⟨earlier, first, later, split, has, same, none⟩
  · rintro ⟨earlier, first, later, split, has, same, none⟩
    exact ⟨first, ⟨has, earlier, later, split, none⟩, same⟩

theorem hasEpsBearer_eq_none_iff :
    g.hasEpsBearer sp pdrId = none ↔
      ∀ bearer ∈ (g.app.pdnConnections sp).bearers, ¬bearer.HasPdr pdrId := by
  unfold hasEpsBearer
  rw [Option.map_eq_none_iff, PdnConnection.bearerOfPdrId_eq_none_iff]

/-- The two loops are one over all connections. -/
theorem findByPdrId_eq_findSome? :
    g.findByPdrId pc pdrId = (g.connectionsOf pc).findSome? fun sp =>
      (g.hasEpsBearer sp pdrId).map fun ebi => (sp, ebi) := by
  unfold findByPdrId connectionsOf findInApnByPdrId
  induction (g.app.contexts pc).apns with
  | nil => rfl
  | cons sa apns inductionHypothesis =>
      rw [List.flatMap_cons, List.findSome?_append, List.findSome?_cons, inductionHypothesis]
      cases (g.app.apnContexts sa).pdnConnections.findSome? _ <;> rfl

theorem findByPdrId_eq_some_iff :
    g.findByPdrId pc pdrId = some (sp, ebi) ↔
      g.FoundFirst pc sp pdrId ∧ g.FirstBearer sp pdrId ebi := by
  rw [findByPdrId_eq_findSome?, List.findSome?_eq_some_iff]
  simp only [Option.map_eq_some_iff, Option.map_eq_none_iff, Prod.mk.injEq,
    hasEpsBearer_eq_some_iff, hasEpsBearer_eq_none_iff]
  constructor
  · rintro ⟨earlier, other, later, split, ⟨_, first, rfl, rfl⟩, none⟩
    exact ⟨⟨earlier, later, split, none⟩, first⟩
  · rintro ⟨⟨earlier, later, split, none⟩, first⟩
    exact ⟨earlier, sp, later, split, ⟨ebi, first, rfl, rfl⟩, none⟩

/-- What a report that finds a connection does. -/
theorem reportInContext_eq (found : g.findByPdrId pc pdrId = some (sp, ebi)) {trxnId : Nat}
    {uids : UintGenerator 64} (drawn : g.app.uids.getUid = some (trxnId, uids)) :
    ∃ next, g.reportInContext pc pdrId true = some (next,
        [.downlinkDataNotification trxnId (g.app.pdnConnections sp).sgwFteidS5S8Cp.teidGreKey
          ebi]) ∧
      next.procedures pc = g.procedures pc ++ [⟨trxnId, sp, .downlinkDataReport ebi⟩] ∧
      ∀ other, other ≠ pc → next.procedures other = g.procedures other := by
  unfold reportInContext
  rw [found]
  simp only [generateTrxnId, drawn, Option.map_some, Option.bind_eq_bind, Option.bind_some,
    if_true]
  refine ⟨_, rfl, ?_, fun other different => ?_⟩
  · simp [insertProcedure]
  · simp [insertProcedure, Function.update_of_ne different]

/-- A report starts a procedure for what the search finds. -/
theorem reportedFor_iff (report : request.dldr = true) (pdr : request.pdrId = some pdrId) :
    ReportedFor config g request sp ebi ↔
      g.app.uids.getUid.isSome ∧ ∃ pc, g.app.seid2pgwContext[request.seid]? = some pc ∧
        g.findByPdrId pc pdrId = some (sp, ebi) := by
  unfold ReportedFor
  simp only [Service.step, handleSessionReportRequest, report, pdr]
  cases routed : g.app.seid2pgwContext[request.seid]? with
  | none => simp
  | some pc =>
      cases found : g.findByPdrId pc pdrId with
      | none => simp [reportInContext, found]
      | some target =>
          obtain ⟨sp', ebi'⟩ := target
          cases drawn : g.app.uids.getUid with
          | none => simp [reportInContext, found, generateTrxnId, drawn]
          | some draw =>
              obtain ⟨next, taken, here, others⟩ := reportInContext_eq found drawn
              simp only [taken, Option.some.injEq, Prod.mk.injEq, Option.isSome_some, true_and,
                List.cons.injEq, Service.Event.downlinkDataNotification.injEq, and_true]
              constructor
              · rintro ⟨pc', trxnId, _, ⟨rfl, rfl, -, rfl⟩, added⟩
                by_cases same : pc' = pc
                · rw [same, here] at added
                  simp only [List.append_cancel_left_eq, List.cons.injEq,
                    Service.Procedure.mk.injEq] at added
                  exact ⟨pc, rfl, by rw [found, added.1.2.1]⟩
                · rw [others pc' same] at added
                  simp at added
              · rintro ⟨_, rfl, same⟩
                rw [found, Option.some.injEq, Prod.mk.injEq] at same
                obtain ⟨rfl, rfl⟩ := same
                exact ⟨pc, _, next, ⟨rfl, rfl, rfl, rfl⟩, here⟩

/-- In every state, whatever its contexts and connections: a report about a
bearer reaches it exactly when its session leads to a context that has the
connection, no connection that is searched before has the PDR too, and no bearer
of the connection before it has. -/
theorem report_reaches_bearer_iff (config : Config) (g : Gateway)
    (concerns : g.Concerns request sp pdrId bearer) :
    ReportedFor config g request sp bearer.ebi ↔
      g.app.uids.getUid.isSome ∧ ∃ pc, g.app.seid2pgwContext[request.seid]? = some pc ∧
        g.FoundFirst pc sp pdrId ∧ g.FirstBearer sp pdrId bearer.ebi := by
  rw [reportedFor_iff concerns.downlink concerns.pdr]
  simp only [findByPdrId_eq_some_iff]

/-- Two Create Session Requests of one UE. -/
def twoConnections : List Service.Action :=
  [.session (.createSession (oneBearer 1 0 none) .sent 0),
    .session (.createSession (oneBearer 1 0 none) .sent 0)]

/-- A report about the first connection of a UE reaches it. -/
theorem report_reaches_first_connection :
    ∃ records g bearer, Run (Service.step twoAddresses) (init twoAddresses.pdns) records g ∧
      g.Concerns { seid := 1, pdrId := some 1 } 2 1 bearer ∧
      ReportedFor twoAddresses g { seid := 1, pdrId := some 1 } 2 bearer.ebi := by
  obtain ⟨records, g, run, bearers, seid, routed, order, drawn⟩ := Run.exists_of_passes
    (Service.step twoAddresses) (init twoAddresses.pdns) twoConnections
    (fun _ g => (g.app.pdnConnections 2).bearers = [{ ebi := 5, pdrIdUl := 1, farIdUl := some 1 }] ∧
      (g.app.pdnConnections 2).seid = 1 ∧ g.app.seid2pgwContext[1]? = some 0 ∧
      g.connectionsOf 0 = [2, 5] ∧ g.app.uids.getUid.isSome) (by decide)
  have concerns : g.Concerns { seid := 1, pdrId := some 1 } 2 1
      { ebi := 5, pdrIdUl := 1, farIdUl := some 1 } :=
    ⟨rfl, rfl, seid, by rw [bearers]; exact List.mem_singleton_self _, .inl rfl⟩
  refine ⟨records, g, _, run, concerns,
    (report_reaches_bearer_iff twoAddresses g concerns).mpr ⟨drawn, 0, routed, ?_, ?_⟩⟩
  · exact ⟨[], [5], order, by simp⟩
  · exact ⟨[], _, [], bearers, .inl rfl, rfl, by simp⟩

/-- A report about the second one is taken for one about the first. -/
theorem report_misses_second_connection :
    ∃ records g bearer, Run (Service.step twoAddresses) (init twoAddresses.pdns) records g ∧
      g.Concerns { seid := 2, pdrId := some 1 } 5 1 bearer ∧
      ¬ReportedFor twoAddresses g { seid := 2, pdrId := some 1 } 5 bearer.ebi := by
  obtain ⟨records, g, run, bearers, seid, routed, found⟩ := Run.exists_of_passes
    (Service.step twoAddresses) (init twoAddresses.pdns) twoConnections
    (fun _ g => (g.app.pdnConnections 5).bearers = [{ ebi := 5, pdrIdUl := 1, farIdUl := some 1 }] ∧
      (g.app.pdnConnections 5).seid = 2 ∧ g.app.seid2pgwContext[2]? = some 0 ∧
      g.findByPdrId 0 1 = some (2, 5)) (by decide)
  have concerns : g.Concerns { seid := 2, pdrId := some 1 } 5 1
      { ebi := 5, pdrIdUl := 1, farIdUl := some 1 } :=
    ⟨rfl, rfl, seid, by rw [bearers]; exact List.mem_singleton_self _, .inl rfl⟩
  refine ⟨records, g, _, run, concerns, fun reported => ?_⟩
  rw [reportedFor_iff concerns.downlink concerns.pdr] at reported
  obtain ⟨-, pc, leads, other⟩ := reported
  rw [show g.app.seid2pgwContext[2]? = some pc from leads, Option.some.injEq] at routed
  rw [routed, found] at other
  cases other

end Gateway

end OpenairSpgwc.Pgw
