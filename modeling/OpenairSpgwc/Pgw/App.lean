import OpenairSpgwc.Foundation.Transition
import OpenairSpgwc.Pgw.Context

/-!
Contract: session management of the PGW, `pgw_app::handle_itti_msg` and
`pgw_context::handle_itti_msg` for Create and Delete Session Requests and for
the Sx responses, with the procedures they start.

Owns:
- the messages, and `step`, the handling of one of them;
- what a step shows: the messages sent, a read through `end()`, and which
  connection was given which IPv4 address, by a pool or by its request.

A step is `none` where the source does not return: a generator without a free
value, an exception that nothing catches, a null pointer that is followed. The
outcomes of `select_up_node`, `get_association` and `send_msg` are arguments.

Does not own: the contents of PCOs, encoding, the selection of a user plane node.
-/

namespace OpenairSpgwc.Pgw

open Foundation
open OpenairSpgwc.Common
open Std (ExtTreeMap)

/-! ### Messages -/

structure CreateSessionRequest where
  gtpcTxId : Nat := 0
  teid : Nat := 0
  imsi : Option Nat := none
  /-- `indication.uimsi`, false without the indication. -/
  uimsi : Bool := false
  apn : String := ""
  pdnType : Option PdnType := none
  paa : Option Paa := none
  senderFteidForCp : Fteid := {}
  pco : Pco.DecodedPco := .absent
  bearerContextsToBeCreated : List BearerContextToBeCreated := []
deriving DecidableEq

structure DeleteSessionRequest where
  gtpcTxId : Nat := 0
  teid : Nat := 0
  senderFteidForCp : Option Fteid := none
deriving DecidableEq

structure CreatedPdr where
  pdrId : Option Nat := none
  localFteid : Option UserPlaneFteid := none
deriving DecidableEq

/-- `CAUSE_VALUE_REQUEST_ACCEPTED` of PFCP. -/
def causeValueRequestAccepted : Nat := 1

structure SessionEstablishmentResponse where
  seid : Nat
  trxnId : Nat
  cause : Option Nat := none
  upFseid : Option Nat := none
  createdPdrs : List CreatedPdr := []
deriving DecidableEq

structure SessionDeletionResponse where
  seid : Nat
  trxnId : Nat
  cause : Option Nat := none
deriving DecidableEq

/-- The rules of one bearer in an Sx session establishment request. -/
structure UplinkRules where
  ebi : Nat
  farId : Nat
  pdrId : Nat
deriving DecidableEq

inductive Event where
  | createSessionResponse (response : CreateSessionResponse)
  | deleteSessionResponse (gtpcTxId teid : Nat) (cause : Cause)
  | sessionEstablishmentRequest (trxnId seid : Nat) (ueIpAddress : Option Paa)
      (rules : List UplinkRules)
  | sessionDeletionRequest (trxnId seid : Nat)
  | endDereference
  /-- A connection was given an IPv4 address, by `get_free_paa` or by its request. -/
  | ipv4Set (sp : Nat) (address : BitVec 32) (fromPool : Bool)
  /-- A connection was cleared. -/
  | ipv4Cleared (sp : Nat)
deriving DecidableEq

/-- Not one of the notes on addresses. -/
def Event.isMessage : Event → Bool
  | .ipv4Set _ _ _ => false
  | .ipv4Cleared _ => false
  | _ => true

/-- How far `session_establishment_procedure::run` gets. -/
inductive UpNode where
  | notSelected
  | notAssociated
  | sendFailed
  | sent
deriving DecidableEq

/-- The cause `run` sets when it finds no user plane node to talk to. -/
def UpNode.failure : UpNode → Option Cause
  | .notSelected => some .noResourcesAvailable
  | .notAssociated => some .systemFailure
  | .sendFailed => none
  | .sent => none

/-! ### Configuration -/

structure Config where
  pdns : List PdnCfg
  instanceId : Nat := 0
  pco : Pco.PcoConfig := {}

/-- `gtp_ies.pdn_type`, which is 0 in a container without a PDN type. -/
def CreateSessionRequest.containerPdnType (request : CreateSessionRequest) : PdnType :=
  request.pdnType.getD (.unknown 0)

def Config.isDottedApnHandled (config : Config) (apn : String) (pdnType : PdnType) : Bool :=
  config.pdns.any fun p => apn == p.apn && pdnType == p.pdnType

/-! ### Create Session Request -/

/-- What the PAA part of the handler decides: `paa` is there when `set_paa` is. -/
structure PaaSelection where
  cause : Cause
  paa : Option Paa
  fromPool : Bool
  pools : PaaDynamic
  endDereference : Bool

def PaaSelection.strayEvents (selection : PaaSelection) : List Event :=
  if selection.endDereference then [.endDereference] else []

/-- The body of the three cases with addresses: take the address of the request
or get a free one. -/
def requestedOrFreePaa (pools : PaaDynamic) (apn : String) (requested : Option Paa)
    (endValue : Nat) : PaaSelection :=
  if (requested.getD {}).isIpAssigned then
    ⟨.requestAccepted, requested, false, pools, false⟩
  else
    let free := pools.getFreePaa apn (requested.getD {}) endValue
    ⟨if free.paa.isSome then .requestAccepted else .allDynamicAddressesAreOccupied,
      free.paa, true, free.pools, free.endDereference⟩

def selectPaa (pools : PaaDynamic) (apn : String) (pdnType : PdnType) (pcoIds : Pco.PcoIds)
    (requested : Option Paa) (endValue : Nat) : PaaSelection :=
  match pdnType with
  | .ipv4 =>
      if pcoIds.ciIpv4AddressAllocationViaDhcpv4 then
        ⟨.requestAccepted, none, false, pools, false⟩
      else
        requestedOrFreePaa pools apn requested endValue
  | .ipv6 => requestedOrFreePaa pools apn requested endValue
  | .ipv4v6 => requestedOrFreePaa pools apn requested endValue
  | .nonIp => ⟨.preferredPdnTypeNotSupported, none, false, pools, false⟩
  | .unknown _ => ⟨.preferredPdnTypeNotSupported, none, false, pools, false⟩

/-- The event of `sp->set(paa)`, where it writes `ipv4_address`. -/
def ipv4SetEvents (sp : Nat) (paa : Paa) (fromPool : Bool) : List Event :=
  match paa.pdnType with
  | .ipv4 => [.ipv4Set sp paa.ipv4Address fromPool]
  | .ipv4v6 => [.ipv4Set sp paa.ipv4Address fromPool]
  | .ipv6 => []
  | .nonIp => []
  | .unknown _ => []

/-- The loop of `run` over the bearers to be created. -/
def addBearers (pdn : PdnConnection) :
    List BearerContextToBeCreated → Option (PdnConnection × List UplinkRules)
  | [] => some (pdn, [])
  | bearer :: bearers =>
      match pdn.farIdGenerator.getUid, pdn.pdrIdGenerator.getUid with
      | some (farId, farIds), some (pdrId, pdrIds) =>
          let pdn := ({ pdn with
            farIdGenerator := farIds, pdrIdGenerator := pdrIds }).addEpsBearer
              { ebi := bearer.epsBearerId, farIdUl := some farId, pdrIdUl := pdrId }
          match addBearers pdn bearers with
          | none => none
          | some (pdn, rules) => some (pdn, ⟨bearer.epsBearerId, farId, pdrId⟩ :: rules)
      | _, _ => none

namespace State

/-- A new procedure, inserted into the pending ones of its context. -/
def startProcedure (s : State) (pc ppc : Nat) (kind : ProcedureKind) :
    Option (Procedure × State) :=
  match s.uids.getUid with
  | none => none
  | some (trxnId, uids) =>
      let proc : Procedure := ⟨s.nextAddress, trxnId, ppc, kind⟩
      some (proc,
        ({ s with uids := uids, nextAddress := s.nextAddress + 1 }).insertProcedure pc proc)

/-- The APN context and the PDN connection of a request: those found, or new
ones. `bearer_contexts_to_be_created.at(0)` throws when there is none. -/
def attach (s : State) (pc : Nat) (request : CreateSessionRequest) :
    Option (State × Nat × Nat) :=
  match s.findPdnConnectionOfApn pc request.apn request.teid true with
  | some (sa, sp) => some (s, sa, sp)
  | none =>
      let sa := s.nextAddress
      let s := { s.setApnContext sa { inUse := true, apnInUse := request.apn } with
        nextAddress := sa + 1 }
      let s := s.setContext pc { s.contexts pc with apns := (s.contexts pc).apns ++ [sa] }
      match request.bearerContextsToBeCreated with
      | [] => none
      | bearer :: _ =>
          match s.generateS5s8CpTeid with
          | none => none
          | some (teid, s) =>
              let sp := s.nextAddress
              let s := { s with
                s5s8lteid2pgwContext := s.s5s8lteid2pgwContext.insert teid pc
                nextAddress := sp + 1 }
              let s := s.setPdnConnection sp
                { pdnType := request.pdnType.getD .ipv4
                  defaultBearer := bearer.epsBearerId
                  sgwFteidS5S8Cp := request.senderFteidForCp
                  pgwFteidS5S8Cp := buildS5s8CpFteid teid }
              let s := s.setApnContext sa { s.apnContexts sa with
                pdnConnections := (s.apnContexts sa).pdnConnections ++ [sp] }
              some (s, sa, sp)

/-- The release of the address that a rejected request was given. -/
def releaseOnFailure (pools : PaaDynamic) (apn : String) (pdnType : PdnType)
    (freePaa : Option Paa) : PaaDynamic :=
  match freePaa, pdnType with
  | some paa, .ipv4 => (pools.releasePaa apn paa.ipv4Address).2
  | some paa, .ipv4v6 => (pools.releasePaa apn paa.ipv4Address).2
  | _, _ => pools

/-- The part of the handler after "finally", for an answer that does not accept. -/
def rejectCreate (s : State) (sa sp : Nat) (request : CreateSessionRequest)
    (response : CreateSessionResponse) : State × List Event :=
  ({ s with
      paaDynamic := releaseOnFailure s.paaDynamic (s.apnContexts sa).apnInUse
        (s.pdnConnections sp).pdnType response.paa },
    [.createSessionResponse { response with
      paa := none
      pco := none
      bearerContextsCreated := request.bearerContextsToBeCreated.map fun bearer =>
        { ebi := bearer.epsBearerId, cause := .noResourcesAvailable } }])

/-- `session_establishment_procedure::run` from `generate_seid` on. -/
def runEstablishment (s : State) (config : Config) (pc sp trxnId : Nat)
    (request : CreateSessionRequest) (response : CreateSessionResponse) :
    Option (State × List Event) :=
  match addBearers ((s.pdnConnections sp).generateSeid config.instanceId)
      request.bearerContextsToBeCreated with
  | none => none
  | some (pdn, rules) =>
      some ({ s.setPdnConnection sp pdn with
          seid2pgwContext := s.seid2pgwContext.insert pdn.seid pc },
        [.sessionEstablishmentRequest trxnId pdn.seid response.paa rules])

/-- The procedure of an accepted request, from its insertion on. -/
def establish (s : State) (config : Config) (pc sa sp : Nat) (request : CreateSessionRequest)
    (response : CreateSessionResponse) (upNode : UpNode) : Option (State × List Event) :=
  match s.startProcedure pc sp
      (.sessionEstablishment request.bearerContextsToBeCreated response) with
  | none => none
  | some (proc, s) =>
      match upNode.failure with
      | some cause =>
          some ((s.removeProcedure pc proc.address).rejectCreate sa sp request
            { response with cause := cause })
      | none =>
          match s.runEstablishment config pc sp proc.trxnId request response with
          | none => none
          | some (s, events) =>
              -- When the message cannot be sent the cause stays accepted, and no
              -- answer is sent either.
              if upNode = .sent then some (s, events)
              else some (s.removeProcedure pc proc.address, [])

/-- The PAA and what follows, for the connection `sp` of the APN context `sa`. -/
def assignPaaWith (s : State) (config : Config) (pc sa sp : Nat) (request : CreateSessionRequest)
    (pcoResp : Pco.ProtocolConfigurationOptions) (pcoIds : Pco.PcoIds) (upNode : UpNode)
    (endValue : Nat) : Option (State × List Event) :=
  let pdn := s.pdnConnections sp
  let selection := selectPaa s.paaDynamic (s.apnContexts sa).apnInUse pdn.pdnType pcoIds
    request.paa endValue
  let s := { s with paaDynamic := selection.pools }
  let response : CreateSessionResponse :=
    ⟨request.gtpcTxId, pdn.sgwFteidS5S8Cp.teidGreKey, selection.cause, none, none, none, []⟩
  if selection.cause = .requestAccepted then
    -- Without `set_paa` a valid PAA of the request is still stored.
    let stored := selection.paa.or (request.paa.filter Paa.isIpAssigned)
    let s := match stored with
      | some paa => s.setPdnConnection sp (pdn.set paa)
      | none => s
    let given := match stored with
      | some paa => ipv4SetEvents sp paa selection.fromPool
      | none => []
    match s.establish config pc sa sp request
        { response with
          paa := selection.paa, pco := some pcoResp
          s5S8PgwFteid := some pdn.pgwFteidS5S8Cp } upNode with
    | none => none
    | some (s, events) => some (s, selection.strayEvents ++ given ++ events)
  else
    let rejected := s.rejectCreate sa sp request response
    some (rejected.1, selection.strayEvents ++ rejected.2)

/-- The options, the PAA and what follows. Options that raise an exception, or whose loop does
not end, keep the handler from returning; 256 passes are enough for those that do neither. -/
def assignPaa (s : State) (config : Config) (pc sa sp : Nat) (request : CreateSessionRequest)
    (upNode : UpNode) (endValue : Nat) : Option (State × List Event) :=
  match Pco.processPcoRequest (2 ^ 8) config.pco request.pco.toProtocolConfigurationOptions {}
      {} with
  | .error _ => none
  | .ok (pcoResp, pcoIds) =>
      s.assignPaaWith config pc sa sp request pcoResp pcoIds upNode endValue

/-- `pgw_context::handle_itti_msg(create session request)`. -/
def createInContext (s : State) (config : Config) (pc : Nat) (request : CreateSessionRequest)
    (upNode : UpNode) (endValue : Nat) : Option (State × List Event) :=
  let s := s.setContext pc { s.contexts pc with imsi := request.imsi.getD (s.contexts pc).imsi }
  match s.attach pc request with
  | none => none
  | some (s, sa, sp) => s.assignPaa config pc sa sp request upNode endValue

/-- `send_create_session_response_cause`. -/
def createSessionResponseCause (request : CreateSessionRequest) (cause : Cause) : Event :=
  .createSessionResponse
    ⟨request.gtpcTxId, request.senderFteidForCp.teidGreKey, cause, none, none, none, []⟩

/-- Where `pgw_app` takes a request: it drops it, answers it, follows a null
pointer, or hands it to a context, which may be new. -/
inductive Route where
  | ignored
  | answered (cause : Cause)
  | nullContext
  | context (pc : Nat) (s : State)

/-- A new context for an IMSI. -/
def newContext (s : State) (imsi : Nat) : State :=
  { s.setContext s.nextAddress {} with
    nextAddress := s.nextAddress + 1
    imsi2pgwContext := s.imsi2pgwContext.insert imsi s.nextAddress }

def route (s : State) (config : Config) (request : CreateSessionRequest) : Route :=
  if request.senderFteidForCp.interfaceType ≠ s5s8SgwGtpC then
    .ignored
  else if request.senderFteidForCp.teidGreKey = 0 then
    .ignored
  else if request.teid ≠ 0 ∧ request.teid ∉ s.s5s8cplteid then
    .answered .contextNotFound
  else if !config.isDottedApnHandled request.apn request.containerPdnType then
    .answered .missingOrUnknownApn
  else
    match request.imsi with
    | some imsi =>
        if request.uimsi then
          .ignored
        else
          match s.imsi2pgwContext[imsi]? with
          | some pc => .context pc s
          | none => .context s.nextAddress (s.newContext imsi)
    | none =>
        if request.teid ≠ 0 then
          match s.s5s8lteid2pgwContext[request.teid]? with
          | some pc => .context pc s
          | none => .nullContext
        else
          .ignored

/-- `pgw_app::handle_itti_msg(create session request)`. -/
def handleCreateSessionRequest (s : State) (config : Config) (request : CreateSessionRequest)
    (upNode : UpNode) (endValue : Nat) : Option (State × List Event) :=
  match s.route config request with
  | .ignored => some (s, [])
  | .answered cause => some (s, [createSessionResponseCause request cause])
  | .nullContext => none
  | .context pc s => s.createInContext config pc request upNode endValue

/-! ### Sx session establishment response -/

/-- The loop over `created_pdrs`. -/
def createdPdr (pdn : PdnConnection) (created : CreatedPdr) : PdnConnection :=
  match created.pdrId with
  | none => pdn
  | some pdrId =>
      match pdn.bearerOfPdrId pdrId, created.localFteid with
      | some bearer, some localFteid =>
          pdn.addEpsBearer { bearer with
            pgwFteidS5S8Up := { localFteid with interfaceType := s5s8PgwGtpU } }
      | _, _ => pdn

/-- What the response changes in the connection. -/
def established (pdn : PdnConnection) (response : SessionEstablishmentResponse) :
    PdnConnection :=
  response.createdPdrs.foldl createdPdr
    (if response.cause = some causeValueRequestAccepted then
      { pdn with upFseid := response.upFseid.getD pdn.upFseid }
    else
      pdn)

def bearerContextCreated (pdn : PdnConnection) (bearer : BearerContextToBeCreated) :
    BearerContextCreated :=
  match pdn.bearerOfEbi bearer.epsBearerId with
  | none => { ebi := 0, cause := .systemFailure }
  | some b =>
      if b.pgwFteidS5S8Up.isZero then
        { ebi := b.ebi, cause := .systemFailure }
      else
        { ebi := b.ebi, cause := .requestAccepted, s5S8UPgwFteid := some b.pgwFteidS5S8Up }

/-- The cause of the answer stays as the request left it, accepted, whatever
the response says. -/
def handleSessionEstablishmentResponse (s : State) (response : SessionEstablishmentResponse) :
    State × List Event :=
  match s.seid2pgwContext[response.seid]? with
  | none => (s, [])
  | some pc =>
      match s.findProcedure pc response.trxnId with
      | none => (s, [])
      | some proc =>
          match proc.kind with
          | .sessionEstablishment bearers pending =>
              let pdn := established (s.pdnConnections proc.ppc) response
              ((s.setPdnConnection proc.ppc pdn).removeProcedure pc proc.address,
                [.createSessionResponse { pending with
                  bearerContextsCreated := pending.bearerContextsCreated ++
                    bearers.map (bearerContextCreated pdn) }])
          | .deleteSession _ _ _ => (s.removeProcedure pc proc.address, [])

/-! ### Delete Session Request -/

/-- `pgw_context::handle_itti_msg(delete session request)`. -/
def deleteInContext (s : State) (pc : Nat) (request : DeleteSessionRequest) (sent : Bool) :
    Option (State × List Event) :=
  let found := match request.senderFteidForCp with
    | some sender => s.findPdnConnection pc sender.teidGreKey false
    | none => s.findPdnConnection pc request.teid true
  match found with
  | some (_, sp) =>
      match s.startProcedure pc sp (.deleteSession pc request.gtpcTxId
          (s.pdnConnections sp).sgwFteidS5S8Cp.teidGreKey) with
      | none => none
      | some (proc, s) =>
          if sent then
            some (s, [.sessionDeletionRequest proc.trxnId (s.pdnConnections sp).upFseid])
          else
            some (s.removeProcedure pc proc.address, [])
  | none =>
      match request.senderFteidForCp with
      | some sender =>
          some (s, [.deleteSessionResponse request.gtpcTxId sender.teidGreKey .contextNotFound])
      | none => some (s, [])

/-- `delete_pgw_context` when no APN context is left. -/
def deleteIfEmpty (s : State) (pc : Nat) : State :=
  if (s.contexts pc).apns.length = 0 then s.deletePgwContext pc else s

/-- `pgw_app::handle_itti_msg(delete session request)`. -/
def handleDeleteSessionRequest (s : State) (request : DeleteSessionRequest) (sent : Bool) :
    Option (State × List Event) :=
  if request.senderFteidForCp.any fun sender =>
      sender.interfaceType != s5s8SgwGtpC || sender.teidGreKey == 0 then
    some (s, [])
  else
    match s.s5s8lteid2pgwContext[request.teid]? with
    | some pc =>
        match s.deleteInContext pc request sent with
        | none => none
        | some (s, events) => some (s.deleteIfEmpty pc, events)
    | none =>
        match request.senderFteidForCp with
        | some sender =>
            some (s, [.deleteSessionResponse request.gtpcTxId sender.teidGreKey .contextNotFound])
        | none => some (s, [])

/-! ### Sx session deletion response -/

def deletionCause (cause : Option Nat) : Cause :=
  match cause with
  | none => .requestAccepted
  | some value => if value = causeValueRequestAccepted then .requestAccepted else .contextNotFound

/-- `delete_session_procedure::handle_itti_msg`: the connection is looked up
again, by the TEID it has now. -/
def deleted (s : State) (context ppc : Nat) : State × List Event :=
  match s.findPdnConnection context (s.pdnConnections ppc).pgwFteidS5S8Cp.teidGreKey true with
  | some (sa, sp) => (s.deletePdnConnection context sa sp, [.ipv4Cleared sp])
  | none => (s, [])

def handleSessionDeletionResponse (s : State) (response : SessionDeletionResponse) :
    State × List Event :=
  match s.seid2pgwContext[response.seid]? with
  | none => (s, [])
  | some pc =>
      match s.findProcedure pc response.trxnId with
      | none => (s.deleteIfEmpty pc, [])
      | some proc =>
          match proc.kind with
          | .deleteSession context gtpcTxId teid =>
              let removed := s.deleted context proc.ppc
              ((removed.1.removeProcedure pc proc.address).deleteIfEmpty pc,
                .deleteSessionResponse gtpcTxId teid (deletionCause response.cause) :: removed.2)
          | .sessionEstablishment _ _ =>
              ((s.removeProcedure pc proc.address).deleteIfEmpty pc, [])

end State

/-! ### Steps -/

inductive Action where
  | createSession (request : CreateSessionRequest) (upNode : UpNode) (endValue : Nat)
  | sessionEstablishmentResponse (response : SessionEstablishmentResponse)
  | deleteSession (request : DeleteSessionRequest) (sent : Bool)
  | sessionDeletionResponse (response : SessionDeletionResponse)
deriving DecidableEq

/-- The handling of one message by the task of the PGW application. -/
def step (config : Config) (s : State) : Action → Option (State × List Event)
  | .createSession request upNode endValue =>
      s.handleCreateSessionRequest config request upNode endValue
  | .sessionEstablishmentResponse response => some (s.handleSessionEstablishmentResponse response)
  | .deleteSession request sent => s.handleDeleteSessionRequest request sent
  | .sessionDeletionResponse response => some (s.handleSessionDeletionResponse response)

end OpenairSpgwc.Pgw
