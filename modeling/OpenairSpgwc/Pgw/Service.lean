import OpenairSpgwc.Pgw.App

/-!
Contract: the other half of the PGW application. To the sessions of `App` it
adds Modify Bearer and Release Access Bearers Requests, Sx session modification
responses and session report requests, with the procedures they start.

Owns:
- `Gateway`, the application with the pending procedures of these messages;
- `Gateway.step`, the handling of one message of any kind.

`pending_procedures` of a context is one list in the source. Here the procedures
of `App` and those of this module are two lists: the list is only searched by
transaction identifiers, and these come from one generator that never gives one
out again.

Does not own: precedences, UE addresses and F-TEID choices in the rules sent.
-/

namespace OpenairSpgwc.Pgw

open Foundation
open OpenairSpgwc.Common
open Std (ExtTreeMap)

/-! ### Messages -/

structure BearerContextToBeModified where
  epsBearerId : Option Nat := none
  s1UEnbFteid : Option UserPlaneFteid := none
  s5S8USgwFteid : Option UserPlaneFteid := none
deriving DecidableEq

structure ModifyBearerRequest where
  gtpcTxId : Nat := 0
  teid : Nat := 0
  senderFteidForCp : Option Fteid := none
  bearerContextsToBeModified : List BearerContextToBeModified := []
deriving DecidableEq

structure ReleaseAccessBearersRequest where
  gtpcTxId : Nat := 0
  teid : Nat := 0
deriving DecidableEq

structure BearerContextModified where
  ebi : Nat
  cause : Cause
  s1USgwFteid : Option UserPlaneFteid := none
deriving DecidableEq

structure ModifyBearerResponse where
  gtpcTxId : Nat
  teid : Nat
  cause : Option Cause := none
  bearerContextsModified : List BearerContextModified := []
deriving DecidableEq

inductive Interface where
  | access
  | core
deriving DecidableEq

structure OuterHeaderCreation where
  teid : Nat
  ipv4Address : BitVec 32
deriving DecidableEq

structure CreateFar where
  farId : Nat
  destination : Interface
  outerHeaderCreation : Option OuterHeaderCreation := none
deriving DecidableEq

/-- The flags of `apply_action_t` that are used. -/
inductive ApplyAction where
  | forw
  | nocp
  | drop
deriving DecidableEq

structure UpdateFar where
  farId : Nat
  applyAction : ApplyAction
  outerHeaderCreation : Option OuterHeaderCreation := none
deriving DecidableEq

structure CreatePdr where
  pdrId : Nat
  source : Interface
  farId : Nat
deriving DecidableEq

/-- The rules of an Sx session modification request. -/
structure ModificationRules where
  createPdrs : List CreatePdr := []
  createFars : List CreateFar := []
  updateFars : List UpdateFar := []
deriving DecidableEq

structure SessionModificationResponse where
  seid : Nat
  trxnId : Nat
  cause : Option Nat := none
  createdPdrs : List CreatedPdr := []
deriving DecidableEq

structure SessionReportRequest where
  seid : Nat
  /-- `report_type.dldr`, false without the report type. -/
  dldr : Bool := true
  /-- `pdr_id` of the downlink data report, if both are there. -/
  pdrId : Option Nat := none
deriving DecidableEq

structure DownlinkDataNotificationAcknowledge where
  gtpcTxId : Nat
  teid : Nat
  /-- Whether the cause is `REQUEST_ACCEPTED`. -/
  accepted : Option Bool := none
deriving DecidableEq

namespace Service

inductive Event where
  | session (event : Pgw.Event)
  | modifyBearerResponse (response : ModifyBearerResponse)
  | releaseAccessBearersResponse (gtpcTxId teid : Nat) (cause : Cause)
  | sessionModificationRequest (trxnId seid : Nat) (rules : ModificationRules)
  | downlinkDataNotification (gtpcTxId teid ebi : Nat)
  | sessionReportResponse (trxnId seid : Nat) (accepted : Bool)
deriving DecidableEq

/-- What a pending procedure still needs for its answer. -/
inductive ProcedureKind where
  | modifyBearer (toBeModified : List BearerContextToBeModified) (updateFars : List UpdateFar)
      (triggeredPending : ModifyBearerResponse)
  | releaseAccessBearers (gtpcTxId teid : Nat)
  | downlinkDataReport (ebi : Nat)
deriving DecidableEq

structure Procedure where
  trxnId : Nat
  ppc : Nat
  kind : ProcedureKind
deriving DecidableEq

end Service

/-- `pgw_app`; `procedures` are the pending ones of each context that `app` does
not hold. -/
structure Gateway where
  app : State
  procedures : Nat → List Service.Procedure

/-! ### Modify Bearer Request -/

/-- What the loop of `modify_bearer_procedure::run` writes to. -/
structure Modification where
  pdn : PdnConnection
  rules : ModificationRules := {}
  sendSx : Bool := false
  cause : Option Cause := none
  modified : List BearerContextModified := []

namespace Modification

def answer (m : Modification) (ebi : Nat) (cause : Cause) : Modification :=
  { m with cause := some cause, modified := m.modified ++ [{ ebi := ebi, cause := cause }] }

def createFar (m : Modification) (far : CreateFar) : Modification :=
  { m with
    rules := { m.rules with createFars := m.rules.createFars ++ [far] }, sendSx := true }

def updateFar (m : Modification) (far : UpdateFar) : Modification :=
  { m with
    rules := { m.rules with updateFars := m.rules.updateFars ++ [far] }, sendSx := true }

def createPdr (m : Modification) (pdr : CreatePdr) : Modification :=
  { m with
    rules := { m.rules with createPdrs := m.rules.createPdrs ++ [pdr] }, sendSx := true }

def generateFarId (m : Modification) : Option (Nat × Modification) :=
  m.pdn.farIdGenerator.getUid.map fun (farId, ids) =>
    (farId, { m with pdn := { m.pdn with farIdGenerator := ids } })

def generatePdrId (m : Modification) : Option (Nat × Modification) :=
  m.pdn.pdrIdGenerator.getUid.map fun (pdrId, ids) =>
    (pdrId, { m with pdn := { m.pdn with pdrIdGenerator := ids } })

/-- The rules for the eNB F-TEID `v` of a bearer. -/
def downlink (m : Modification) (peb : EpsBearer) (v : UserPlaneFteid) :
    Option (Modification × EpsBearer) := do
  let outer : OuterHeaderCreation := ⟨v.teidGreKey, v.ipv4Address⟩
  let (m, peb, farId) ← match peb.farIdDl with
    | some (farId + 1) =>
        pure (m.updateFar ⟨farId + 1, .forw, some outer⟩, peb, farId + 1)
    | _ => do
        let (farId, m) ← m.generateFarId
        pure (m.createFar ⟨farId, .access, some outer⟩, { peb with farIdDl := some farId }, farId)
  if peb.pdrIdDl = 0 then
    let (pdrId, m) ← m.generatePdrId
    pure (m.createPdr ⟨pdrId, .core, farId⟩, { peb with pdrIdDl := pdrId })
  else
    pure (m.updateFar ⟨peb.farIdUl.getD 0, .forw, none⟩, peb)

/-- "after a release bearers". -/
def uplink (m : Modification) (peb : EpsBearer) : Option (Modification × EpsBearer) := do
  let (m, peb, farId) ← match peb.farIdUl with
    | some (farId + 1) => pure (m, peb, farId + 1)
    | _ => do
        let (farId, m) ← m.generateFarId
        pure (m.createFar ⟨farId, .core, none⟩, { peb with farIdUl := some farId }, farId)
  if peb.pdrIdUl = 0 then
    let (pdrId, m) ← m.generatePdrId
    pure (m.createPdr ⟨pdrId, .access, farId⟩, { peb with pdrIdUl := pdrId })
  else
    pure (m, peb)

/-- The end of the loop's body: `peb` is a reference into the map, and is added
once more. -/
def store (m : Modification) (ebi : Nat) (peb : EpsBearer) : Modification :=
  { m with pdn := ({ m.pdn with epsBearers := m.pdn.epsBearers.insert ebi peb }).addEpsBearer peb }

/-- The body of the loop. `eps_bearers[ebi]` makes a bearer where there is none. -/
def bearer (m : Modification) (it : BearerContextToBeModified) : Option Modification := do
  let ebi := it.epsBearerId.getD 0
  let peb := m.pdn.epsBearers[ebi]?.getD {}
  let m := { m with pdn := { m.pdn with epsBearers := m.pdn.epsBearers.insert ebi peb } }
  if peb.ebi ≠ ebi then
    pure (m.answer peb.ebi .systemFailure)
  else if it.s1UEnbFteid = some peb.sgwFteidS5S8Up ∧ peb.released = false then
    pure (m.answer peb.ebi .requestAccepted)
  else
    let (m, peb) ← match it.s1UEnbFteid with
      | some v => m.downlink peb v
      | none => pure (m, peb)
    let (m, peb) ← if peb.pgwFteidS5S8Up.isZero then pure (m, peb) else m.uplink peb
    pure (m.store ebi peb)

def bearers (m : Modification) : List BearerContextToBeModified → Option Modification
  | [] => some m
  | it :: rest => (m.bearer it).bind fun m => m.bearers rest

end Modification

namespace Gateway

open Service

def init (pdns : List PdnCfg) : Gateway where
  app := State.init pdns
  procedures := fun _ => []

def setPdnConnection (g : Gateway) (sp : Nat) (pdn : PdnConnection) : Gateway :=
  { g with app := g.app.setPdnConnection sp pdn }

def insertProcedure (g : Gateway) (pc : Nat) (proc : Service.Procedure) : Gateway :=
  { g with procedures := Function.update g.procedures pc (g.procedures pc ++ [proc]) }

def findProcedure (g : Gateway) (pc trxnId : Nat) : Option Service.Procedure :=
  (g.procedures pc).find? fun proc => proc.trxnId == trxnId

def removeProcedure (g : Gateway) (pc trxnId : Nat) : Gateway :=
  { g with
    procedures := Function.update g.procedures pc
      ((g.procedures pc).eraseP fun proc => proc.trxnId == trxnId) }

/-- A new identifier for a procedure. -/
def generateTrxnId (g : Gateway) : Option (Nat × Gateway) :=
  g.app.uids.getUid.map fun (trxnId, uids) =>
    (trxnId, { g with app := { g.app with uids := uids, nextAddress := g.app.nextAddress + 1 } })

/-- `modify_bearer_procedure` for the connection `sp`. When the Sx request
cannot be sent, the procedure is removed and nothing is answered. -/
def runModifyBearer (g : Gateway) (pc sp : Nat) (request : ModifyBearerRequest) (sent : Bool) :
    Option (Gateway × List Service.Event) := do
  let (trxnId, g) ← g.generateTrxnId
  let pdn := g.app.pdnConnections sp
  let m ← Modification.bearers { pdn := pdn } request.bearerContextsToBeModified
  let g := g.setPdnConnection sp m.pdn
  let pending : ModifyBearerResponse :=
    ⟨request.gtpcTxId, pdn.sgwFteidS5S8Cp.teidGreKey, m.cause, m.modified⟩
  if m.sendSx then
    if sent then
      pure (g.insertProcedure pc ⟨trxnId, sp,
          .modifyBearer request.bearerContextsToBeModified m.rules.updateFars pending⟩,
        [.sessionModificationRequest trxnId pdn.upFseid m.rules])
    else
      pure (g, [])
  else
    pure (g, [.modifyBearerResponse pending])

/-- `pgw_context::handle_itti_msg(modify bearer request)`. -/
def modifyInContext (g : Gateway) (pc : Nat) (request : ModifyBearerRequest) (sent : Bool) :
    Option (Gateway × List Service.Event) :=
  let found := match request.senderFteidForCp with
    | some sender => g.app.findPdnConnection pc sender.teidGreKey false
    | none => g.app.findPdnConnection pc request.teid true
  match found with
  | some (_, sp) => g.runModifyBearer pc sp request sent
  | none =>
      match request.senderFteidForCp with
      | some sender =>
          some (g, [.modifyBearerResponse
            ⟨request.gtpcTxId, sender.teidGreKey, some .contextNotFound, []⟩])
      | none => some (g, [])

/-- `pgw_app::handle_itti_msg(modify bearer request)`: for an unknown TEID the
sender is sent a Delete Session Response. -/
def handleModifyBearerRequest (g : Gateway) (request : ModifyBearerRequest) (sent : Bool) :
    Option (Gateway × List Service.Event) :=
  if request.senderFteidForCp.any fun sender =>
      sender.interfaceType != s5s8SgwGtpC || sender.teidGreKey == 0 then
    some (g, [])
  else
    match g.app.s5s8lteid2pgwContext[request.teid]? with
    | some pc => g.modifyInContext pc request sent
    | none =>
        match request.senderFteidForCp with
        | some sender =>
            some (g, [.session
              (.deleteSessionResponse request.gtpcTxId sender.teidGreKey .contextNotFound)])
        | none => some (g, [])

/-! ### Release Access Bearers Request -/

/-- The rules for one bearer. -/
def releaseRules (peb : EpsBearer) : List UpdateFar :=
  (peb.farIdDl.map fun farId => ⟨farId, .nocp, none⟩).toList ++
    (peb.farIdUl.map fun farId => ⟨farId, .drop, none⟩).toList

/-- The loop over the bearers. The source walks the map while it replaces the
bearer it is at; a bearer whose own identity is none is left as it is. -/
def releaseBearers (pdn : PdnConnection) : PdnConnection :=
  pdn.epsBearers.toList.foldl
    (fun pdn it => pdn.addEpsBearer { it.2 with released := true }) pdn

def runReleaseAccessBearers (g : Gateway) (pc sp : Nat) (request : ReleaseAccessBearersRequest)
    (sent : Bool) : Option (Gateway × List Service.Event) := do
  let (trxnId, g) ← g.generateTrxnId
  let pdn := g.app.pdnConnections sp
  let g := g.setPdnConnection sp (releaseBearers pdn)
  if sent then
    pure (g.insertProcedure pc ⟨trxnId, sp,
        .releaseAccessBearers request.gtpcTxId pdn.sgwFteidS5S8Cp.teidGreKey⟩,
      [.sessionModificationRequest trxnId pdn.upFseid
        { updateFars := pdn.epsBearers.toList.flatMap fun it => releaseRules it.2 }])
  else
    pure (g, [])

/-- `pgw_context::handle_itti_msg(release access bearers request)`: the branch
without a connection reads through a null pointer. -/
def releaseInContext (g : Gateway) (pc : Nat) (request : ReleaseAccessBearersRequest)
    (sent : Bool) : Option (Gateway × List Service.Event) :=
  match g.app.findPdnConnection pc request.teid true with
  | none => none
  | some (_, sp) =>
      if (g.app.pdnConnections sp).released then
        some (g, [.releaseAccessBearersResponse request.gtpcTxId
          (g.app.pdnConnections sp).sgwFteidS5S8Cp.teidGreKey .requestAccepted])
      else
        g.runReleaseAccessBearers pc sp request sent

/-- `pgw_app::handle_itti_msg(release access bearers request)`. -/
def handleReleaseAccessBearersRequest (g : Gateway) (request : ReleaseAccessBearersRequest)
    (sent : Bool) : Option (Gateway × List Service.Event) :=
  match g.app.s5s8lteid2pgwContext[request.teid]? with
  | some pc => g.releaseInContext pc request sent
  | none => some (g, [])

/-! ### Sx session modification response -/

/-- `pfcp_cause_to_core_cause`. -/
def pfcpCauseToCoreCause (cause : Nat) : Cause :=
  if cause = 1 then .requestAccepted
  else if cause = 64 then .requestRejected
  else if cause = 74 then .apnCongestion
  else .systemFailure

/-- What `modify_bearer_procedure::handle_itti_msg` writes to. -/
structure Completion where
  pdn : PdnConnection
  toBeModified : List BearerContextToBeModified
  modified : List BearerContextModified

namespace Completion

/-- The F-TEIDs of the request, the one of the eNB last. -/
def withSgwFteid (b : EpsBearer) (it : BearerContextToBeModified) : EpsBearer :=
  { b with
    sgwFteidS5S8Up := it.s1UEnbFteid.getD (it.s5S8USgwFteid.getD b.sgwFteidS5S8Up) }

def report (c : Completion) (b : EpsBearer) : Completion :=
  { c with
    pdn := c.pdn.addEpsBearer b
    modified := c.modified ++ [⟨b.ebi, .requestAccepted, some b.pgwFteidS5S8Up⟩] }

/-- A created PDR is answered with the first bearer context that is left. -/
def createdPdr (c : Completion) (created : CreatedPdr) : Completion :=
  match created.pdrId.bind c.pdn.bearerOfPdrId, c.toBeModified with
  | some b, it :: rest =>
      let b := withSgwFteid b it
      let b := match created.localFteid with
        | some localFteid =>
            { b with pgwFteidS5S8Up := { localFteid with interfaceType := s5s8PgwGtpU } }
        | none => b
      { c with toBeModified := rest }.report { b with released := false }
  | _, _ => c

def updatedFar (c : Completion) (far : UpdateFar) : Completion :=
  match c.pdn.bearerOfFarId far.farId with
  | none => c
  | some b =>
      match c.toBeModified.find? fun it => it.epsBearerId.getD 0 == b.ebi with
      | none => c
      | some it => c.report (withSgwFteid b it)

/-- "check we got all responses": the causes of the bearers that are left over
are compared with the one of the message. -/
def finalCause (c : Completion) (cause : Cause) : Cause :=
  c.toBeModified.foldl (fun cause it =>
    match it.epsBearerId.bind fun ebi => c.modified.find? fun done => done.ebi == ebi with
    | none => cause
    | some done =>
        if (cause = .requestAccepted) = (done.cause = .requestAccepted) then cause
        else .requestAcceptedPartially) cause

end Completion

/-- `modify_bearer_procedure::handle_itti_msg`. -/
def completed (pdn : PdnConnection) (toBeModified : List BearerContextToBeModified)
    (updateFars : List UpdateFar) (pending : ModifyBearerResponse)
    (response : SessionModificationResponse) : PdnConnection × ModifyBearerResponse :=
  let c := response.createdPdrs.foldl Completion.createdPdr
    ⟨pdn, toBeModified, pending.bearerContextsModified⟩
  let c := if response.cause = some causeValueRequestAccepted then
      updateFars.foldl Completion.updatedFar c
    else
      c
  (c.pdn, { pending with
    cause := some (c.finalCause ((response.cause.map pfcpCauseToCoreCause).getD .requestAccepted))
    bearerContextsModified := c.modified })

/-- The procedure that answers: one of another kind takes no notice of the
message, and every procedure that is found is removed. -/
def handleSessionModificationResponse (g : Gateway) (response : SessionModificationResponse) :
    Gateway × List Service.Event :=
  match g.app.seid2pgwContext[response.seid]? with
  | none => (g, [])
  | some pc =>
      match g.findProcedure pc response.trxnId, g.app.findProcedure pc response.trxnId with
      | some proc, _ =>
          match proc.kind with
          | .modifyBearer toBeModified updateFars pending =>
              let result := completed (g.app.pdnConnections proc.ppc) toBeModified updateFars
                pending response
              ((g.setPdnConnection proc.ppc result.1).removeProcedure pc response.trxnId,
                [.modifyBearerResponse result.2])
          | .releaseAccessBearers gtpcTxId teid =>
              (g.removeProcedure pc response.trxnId,
                [.releaseAccessBearersResponse gtpcTxId teid
                  (pfcpCauseToCoreCause (response.cause.getD 0))])
          | .downlinkDataReport _ => (g.removeProcedure pc response.trxnId, [])
      | none, some proc => ({ g with app := g.app.removeProcedure pc proc.address }, [])
      | none, none => (g, [])

/-! ### Sx session report request -/

/-- `pgw_pdn_connection::has_eps_bearer(pdr_id, ebi)`. -/
def hasEpsBearer (g : Gateway) (sp pdrId : Nat) : Option Nat :=
  ((g.app.pdnConnections sp).bearerOfPdrId pdrId).map EpsBearer.ebi

/-- `apn_context::find_pdn_connection(pdr_id, pdn, ebi)`. -/
def findInApnByPdrId (g : Gateway) (sa pdrId : Nat) : Option (Nat × Nat) :=
  (g.app.apnContexts sa).pdnConnections.findSome? fun sp =>
    (g.hasEpsBearer sp pdrId).map fun ebi => (sp, ebi)

/-- `pgw_context::find_pdn_connection(pdr_id, pdn, ebi)`. -/
def findByPdrId (g : Gateway) (pc pdrId : Nat) : Option (Nat × Nat) :=
  (g.app.contexts pc).apns.findSome? fun sa => g.findInApnByPdrId sa pdrId

/-- `pgw_context::handle_itti_msg(session report request)`, for the part on
downlink data; the stack has drawn the identifier of the transaction from the
generator of the procedures. -/
def reportInContext (g : Gateway) (pc pdrId : Nat) (sent : Bool) :
    Option (Gateway × List Service.Event) :=
  match g.findByPdrId pc pdrId with
  | none => some (g, [])
  | some (sp, ebi) => do
      let (trxnId, g) ← g.generateTrxnId
      if sent then
        pure (g.insertProcedure pc ⟨trxnId, sp, .downlinkDataReport ebi⟩,
          [.downlinkDataNotification trxnId
            (g.app.pdnConnections sp).sgwFteidS5S8Cp.teidGreKey ebi])
      else
        pure (g, [])

/-- `pgw_app::handle_itti_msg(session report request)`. -/
def handleSessionReportRequest (g : Gateway) (request : SessionReportRequest) (sent : Bool) :
    Option (Gateway × List Service.Event) :=
  match g.app.seid2pgwContext[request.seid]?, request.dldr, request.pdrId with
  | some pc, true, some pdrId => g.reportInContext pc pdrId sent
  | _, _, _ => some (g, [])

/-- `pgw_app::handle_itti_msg(downlink data notification acknowledge)`. -/
def handleDownlinkDataNotificationAcknowledge (g : Gateway)
    (ack : DownlinkDataNotificationAcknowledge) : Gateway × List Service.Event :=
  match g.app.s5s8lteid2pgwContext[ack.teid]? with
  | none => (g, [])
  | some pc =>
      match g.findProcedure pc ack.gtpcTxId, g.app.findProcedure pc ack.gtpcTxId with
      | some proc, _ =>
          match proc.kind, ack.accepted with
          | .downlinkDataReport _, some accepted =>
              (g.removeProcedure pc ack.gtpcTxId,
                [.sessionReportResponse ack.gtpcTxId (g.app.pdnConnections proc.ppc).upFseid
                  accepted])
          | _, _ => (g.removeProcedure pc ack.gtpcTxId, [])
      | none, some proc => ({ g with app := g.app.removeProcedure pc proc.address }, [])
      | none, none => (g, [])

/-! ### Steps -/

/-- An Sx response of `App` that comes to a procedure of this module: the
procedure takes no notice of it and is removed. -/
def dropMismatched (g : Gateway) (seid trxnId : Nat) : Gateway :=
  match g.app.seid2pgwContext[seid]? with
  | none => g
  | some pc => g.removeProcedure pc trxnId

/-- The messages that `App` handles. -/
def handleSession (g : Gateway) (config : Config) (action : Pgw.Action) :
    Option (Gateway × List Service.Event) :=
  (step config g.app action).map fun (app, events) =>
    let g := match action with
      | .sessionEstablishmentResponse response => g.dropMismatched response.seid response.trxnId
      | .sessionDeletionResponse response => g.dropMismatched response.seid response.trxnId
      | .createSession _ _ _ => g
      | .deleteSession _ _ => g
    ({ g with app := app }, events.map .session)

end Gateway

namespace Service

inductive Action where
  | session (action : Pgw.Action)
  | modifyBearer (request : ModifyBearerRequest) (sent : Bool)
  | releaseAccessBearers (request : ReleaseAccessBearersRequest) (sent : Bool)
  | sessionModificationResponse (response : SessionModificationResponse)
  | sessionReport (request : SessionReportRequest) (sent : Bool)
  | downlinkDataNotificationAcknowledge (ack : DownlinkDataNotificationAcknowledge)
  /-- `pgwc_sxab::notify_ul_error` for a session message: nothing is done. -/
  | notifyUlError (trxnId : Nat)
deriving DecidableEq

def step (config : Config) (g : Gateway) : Action → Option (Gateway × List Event)
  | .session action => g.handleSession config action
  | .modifyBearer request sent => g.handleModifyBearerRequest request sent
  | .releaseAccessBearers request sent => g.handleReleaseAccessBearersRequest request sent
  | .sessionModificationResponse response => some (g.handleSessionModificationResponse response)
  | .sessionReport request sent => g.handleSessionReportRequest request sent
  | .downlinkDataNotificationAcknowledge ack =>
      some (g.handleDownlinkDataNotificationAcknowledge ack)
  | .notifyUlError _ => some (g, [])

end Service

end OpenairSpgwc.Pgw
