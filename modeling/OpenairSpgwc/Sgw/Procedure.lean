import OpenairSpgwc.Sgw.Context

/-!
Contract: the procedures of an SGW context, `sgwc_procedure.cpp`, and the
handlers of `sgw_eps_bearer_context` that start and feed them.

Owns:
- `Event`, the messages that are sent;
- `run` and `handle_itti_msg` of each procedure, and the `create_procedure` and
  `handle_itti_msg` of the context around them.

A result is `none` where the source does not return: an `at` without the element,
a `dynamic_pointer_cast` to another kind of procedure, whose null pointer is
followed. Messages to the S11 and S5/S8 tasks are always taken.

Does not own: which context and connection a message is for.
-/

namespace OpenairSpgwc.Sgw

open Std (ExtTreeMap)

/-- A request that a procedure sends on S5/S8. `sender` is the procedure and `sp`
the connection it is sent for; neither is part of the message. -/
structure S5s8Request where
  gtpcTxId : Nat
  teid : Nat
  lTeid : Nat
  sender : Nat
  sp : Nat
deriving DecidableEq

inductive Event where
  | s11CreateSessionResponse (response : CreateSessionResponse)
  | s11DeleteSessionResponse (response : CauseResponse)
  | s11ModifyBearerResponse (response : ModifyBearerResponse)
  | s11ReleaseAccessBearersResponse (response : CauseResponse)
  | s11DownlinkDataNotification (gtpcTxId teid : Nat)
  | s5s8CreateSessionRequest (request : S5s8Request)
  | s5s8DeleteSessionRequest (request : S5s8Request) (ebi : Nat)
  | s5s8ModifyBearerRequest (request : S5s8Request)
      (bearerContextsToBeModified : List BearerContextToBeModified)
      (bearerContextsToBeRemoved : List Nat)
  | s5s8ReleaseAccessBearersRequest (request : S5s8Request)
  | s5s8DownlinkDataNotificationAcknowledge (gtpcTxId teid : Nat)
  /-- `delete_sgw_eps_bearer_context` was called. -/
  | contextDeleted (ebc : Nat)
deriving DecidableEq

namespace State

/-- The connection leads to the S5/S8 request that is sent for it. -/
def s5s8Request (s : State) (sp gtpcTxId sender : Nat) : S5s8Request where
  gtpcTxId := gtpcTxId
  teid := (s.pdnConnections sp).pgwFteidS5S8Cp.teidGreKey
  lTeid := (s.pdnConnections sp).sgwFteidS5S8Cp.teidGreKey
  sender := sender
  sp := sp

/-! ### Create Session -/

/-- The connection that `create_session_request_procedure::run` makes. -/
def newPdnConnection (request : CreateSessionRequest) (defaultBearer teid : Nat) : PdnConnection :=
  let created := request.bearerContextsToBeCreated.foldl
    (fun pdn ebi => pdn.addEpsBearer { ebi := ebi })
    { apnInUse := request.apn, pdnType := request.pdnType, defaultBearer := defaultBearer,
      sgwFteidS5S8Cp := s5s8CpFteid teid : PdnConnection }
  request.bearerContextsToBeRemoved.foldl (fun pdn ebi => pdn.removeEpsBearer ebi) created

/-- The state after `create_session_request_procedure::run` has made it. -/
def withNewPdnConnection (s : State) (c : Nat) (request : CreateSessionRequest)
    (defaultBearer : Nat) : State :=
  { s with
    contexts := Function.update s.contexts c { s.contexts c with
      pdnConnections :=
        (s.contexts c).pdnConnections.insert (request.apn, request.pdnType) s.nextAddress }
    pdnConnections := Function.update s.pdnConnections s.nextAddress
      (newPdnConnection request defaultBearer s.generateS5s8CpTeid.1)
    teidS5s8Cp := s.generateS5s8CpTeid.2
    s5s8lteid2sgwContexts :=
      s.s5s8lteid2sgwContexts.insert s.generateS5s8CpTeid.1 (c, s.nextAddress)
    nextAddress := s.nextAddress + 1 }

/-- `create_session_request_procedure::run`: `none` for an exception, `some none`
for `RETURNerror`, which it returns before it writes anything. -/
def runCreateSession (s : State) (c sender : Nat) (request : CreateSessionRequest) :
    Option (Option (State × List Event)) :=
  if (s.contexts c).pdnConnections.contains (request.apn, request.pdnType) then
    some none
  else
    match request.bearerContextsToBeCreated with
    | [] => none
    | defaultBearer :: _ =>
        some (some (s.withNewPdnConnection c request defaultBearer,
          [.s5s8CreateSessionRequest
            ⟨request.gtpcTxId, 0, s.generateS5s8CpTeid.1, sender, s.nextAddress⟩]))

/-- `handle_itti_msg(itti_s11_create_session_request&)`, up to the S11 F-TEID. -/
def entered (s : State) (ebc : Nat) (request : CreateSessionRequest) : State :=
  if (s.contexts ebc).sgwFteidS11S4Cp.teidGreKey = 0 then
    { s with
      teidS11Cp := s.generateS11CpTeid.2
      s11lteid2sgwEpsBearerContext :=
        s.s11lteid2sgwEpsBearerContext.insert s.generateS11CpTeid.1 ebc
      contexts := Function.update s.contexts ebc { s.contexts ebc with
        sgwFteidS11S4Cp := s11CpFteid s.generateS11CpTeid.1
        mmeFteidS11 := request.senderFteidForCp
        imsi := request.imsi.getD 0 } }
  else
    s.setContext ebc { s.contexts ebc with mmeFteidS11 := request.senderFteidForCp }

/-- The context that `create_procedure` looks up to run a procedure in. -/
def runContext (s : State) (ebc : Nat) : Option Nat :=
  s.s11lteid2sgwEpsBearerContext[(s.contexts ebc).sgwFteidS11S4Cp.teidGreKey]?

def createSessionInContext (s : State) (ebc : Nat) (request : CreateSessionRequest) :
    Option (State × List Event) :=
  let s := s.entered ebc request
  match s.runContext ebc with
  | none => none
  | some c =>
      let inserted := s.insertProcedure ebc request.gtpcTxId c (.createSession request)
      match inserted.runCreateSession c s.nextAddress request with
      | none => none
      | some none => some (inserted.removeProcedure ebc s.nextAddress, [])
      | some (some result) => some result

/-- The bearer of a created bearer context, and the bearer context of the answer. -/
def bearerCreated (pdn : PdnConnection) (i : BearerContextCreated) :
    PdnConnection × BearerContextCreated :=
  if i.cause = some requestAccepted then
    match pdn.sgwEpsBearers[i.epsBearerId]? with
    | none => (pdn, { epsBearerId := i.epsBearerId, cause := i.cause })
    | some bearer =>
        let up := i.fteid.getD bearer.pgwFteidS5S8Up
        let fteid : Fteid := { up with interfaceType := s1USgwGtpU }
        (pdn.setEpsBearer i.epsBearerId { bearer with
            ebi := i.epsBearerId
            pgwFteidS5S8Up := up
            sgwFteidS1uS12S4uS11u := fteid },
          { epsBearerId := i.epsBearerId, cause := i.cause
            fteid := if fteid.isZero then none else some fteid })
  else
    (pdn, { epsBearerId := i.epsBearerId, cause := i.cause })

/-- The loop over `bearer_contexts_created`. -/
def bearersCreated (pdn : PdnConnection) :
    List BearerContextCreated → PdnConnection × List BearerContextCreated
  | [] => (pdn, [])
  | i :: rest =>
      let (pdn, b) := bearerCreated pdn i
      let (pdn, bs) := bearersCreated pdn rest
      (pdn, b :: bs)

/-- `sgw_eps_bearer::clear` of a bearer that is marked for removal: it stays in
the map. -/
def bearerCleared (pdn : PdnConnection) (i : BearerContextMarkedForRemoval) : PdnConnection :=
  if pdn.sgwEpsBearers.contains i.epsBearerId then pdn.setEpsBearer i.epsBearerId {} else pdn

/-- `create_session_request_procedure::handle_itti_msg(create session response)`. -/
def createSessionAnswered (s : State) (ebc sp : Nat) (msg : CreateSessionRequest) (gtpcTxId : Nat)
    (csresp : CreateSessionResponse) : State × List Event :=
  let pdn := s.pdnConnections sp
  let pdn := { pdn with pgwFteidS5S8Cp := csresp.fteidForCp.getD pdn.pgwFteidS5S8Cp }
  let (pdn, created) := bearersCreated pdn csresp.bearerContextsCreated
  let pdn := csresp.bearerContextsMarkedForRemoval.foldl bearerCleared pdn
  let stored := s.setPdnConnection sp pdn
  let cleaned :=
    if csresp.bearerContextsMarkedForRemoval = [] ∧ contextNotFound ≤ csresp.cause.getD 0 ∧
        pdn.getNumBearers ≠ 0 then
      stored.deletePdnConnection ebc sp
    else
      stored
  (cleaned,
    [.s11CreateSessionResponse
      { gtpcTxId := gtpcTxId
        teid := msg.senderFteidForCp.teidGreKey
        cause := csresp.cause
        fteidForCp := some (s.contexts ebc).sgwFteidS11S4Cp
        bearerContextsCreated := created
        bearerContextsMarkedForRemoval := csresp.bearerContextsMarkedForRemoval }])

/-- `create_session_request_procedure::handle_itti_msg(remote peer not responding)`. -/
def createSessionUnanswered (s : State) (ebc sp : Nat) (msg : CreateSessionRequest)
    (gtpcTxId : Nat) : State × List Event :=
  let cleaned :=
    if (s.pdnConnections sp).getNumBearers ≠ 0 then s.deletePdnConnection ebc sp else s
  (cleaned,
    [.s11CreateSessionResponse
      { gtpcTxId := gtpcTxId
        teid := msg.senderFteidForCp.teidGreKey
        cause := some remotePeerNotResponding
        fteidForCp := some (cleaned.contexts ebc).sgwFteidS11S4Cp }])

def createSessionResponseInContext (s : State) (ebc sp : Nat) (csresp : CreateSessionResponse) :
    Option (State × List Event) :=
  match s.findProcedure ebc csresp.gtpcTxId with
  | none => some (s, [])
  | some proc =>
      match proc.kind with
      | .createSession msg =>
          let (answered, events) := s.createSessionAnswered ebc sp msg proc.gtpcTxId csresp
          some (answered.removeProcedure ebc proc.address, events)
      | _ => none

/-! ### Delete Session -/

/-- The connections that a Delete Session Request asks to delete. -/
def toDelete (s : State) (ebc : Nat) (request : DeleteSessionRequest) : List Nat :=
  match request.linkedEpsBearerId with
  | some ebi => (s.findPdnConnection ebc ebi).toList
  | none => (s.contexts ebc).connections

/-- One turn of the loop of `create_procedure(itti_s11_delete_session_request&)`. -/
def startDeleteSession (s : State) (ebc : Nat) (request : DeleteSessionRequest) (sp : Nat) :
    State × Event :=
  (s.insertProcedure ebc request.gtpcTxId ebc (.deleteSession request sp),
    .s5s8DeleteSessionRequest (s.s5s8Request sp request.gtpcTxId s.nextAddress)
      (request.linkedEpsBearerId.getD (s.pdnConnections sp).defaultBearer))

def startDeleteSessions (s : State) (ebc : Nat) (request : DeleteSessionRequest) :
    List Nat → State × List Event
  | [] => (s, [])
  | sp :: rest =>
      let (started, event) := s.startDeleteSession ebc request sp
      let (finished, events) := startDeleteSessions started ebc request rest
      (finished, event :: events)

/-- `handle_itti_msg(itti_s11_delete_session_request&)`; without the indication
the session is not deleted at all. -/
def deleteSessionInContext (s : State) (ebc : Nat) (request : DeleteSessionRequest) :
    State × List Event :=
  if (s.findProcedure ebc request.gtpcTxId).isSome then (s, [])
  else if request.oi then s.startDeleteSessions ebc request (s.toDelete ebc request)
  else (s, [])

/-- The connection that is deleted is the one the response was addressed to. -/
def deleteSessionResponseInContext (s : State) (ebc sp : Nat) (dsresp : CauseResponse) :
    Option (State × List Event) :=
  match s.findProcedure ebc dsresp.gtpcTxId with
  | none => some (s, [])
  | some proc =>
      match proc.kind with
      | .deleteSession _ _ =>
          some ((s.deletePdnConnection ebc sp).removeProcedure ebc proc.address,
            [.s11DeleteSessionResponse
              { gtpcTxId := proc.gtpcTxId
                teid := (s.contexts proc.ebc).mmeFteidS11.teidGreKey
                cause := dsresp.cause }])
      | _ => none

/-! ### Remote peer not responding -/

/-- Only the create session procedure has a body; every procedure is removed. -/
def remotePeerNotRespondingInContext (s : State) (ebc sp : Nat)
    (resp : RemotePeerNotResponding) : State × List Event :=
  match s.findProcedure ebc resp.gtpcTxId with
  | none => (s, [])
  | some proc =>
      match proc.kind with
      | .createSession msg =>
          let (unanswered, events) := s.createSessionUnanswered ebc sp msg proc.gtpcTxId
          (unanswered.removeProcedure ebc proc.address, events)
      | _ => (s.removeProcedure ebc proc.address, [])

/-! ### Modify Bearer -/

/-- What the first part of `modify_bearer_request_procedure::run` collects. -/
structure Collected where
  pdnBearers : List PdnBearersToBeXied := []
  bearerContextsModified : List BearerContextModified := []
  bearerContextsMarkedForRemoval : List BearerContextMarkedForRemoval := []
deriving DecidableEq

/-- A bearer to be modified is noted with its connection, in every element that
has it, else in a new one. -/
def noteModified (pdnBearers : List PdnBearersToBeXied) (pdn : Nat)
    (bm : BearerContextToBeModified) : List PdnBearersToBeXied :=
  if pdnBearers.any fun px => px.pdn == pdn then
    pdnBearers.map fun px =>
      if px.pdn = pdn then
        { px with bearerContextsToBeModified := px.bearerContextsToBeModified ++ [bm] }
      else
        px
  else
    pdnBearers ++ [{ pdn := pdn, bearerContextsToBeModified := [bm] }]

/-- A bearer to be removed is noted in the first element that has its connection,
else in a new one. -/
def noteRemoved : List PdnBearersToBeXied → Nat → Nat → List PdnBearersToBeXied
  | [], pdn, ebi => [{ pdn := pdn, bearerContextsToBeRemoved := [ebi] }]
  | px :: rest, pdn, ebi =>
      if px.pdn = pdn then
        { px with bearerContextsToBeRemoved := px.bearerContextsToBeRemoved ++ [ebi] } :: rest
      else
        px :: noteRemoved rest pdn ebi

/-- One turn of the loop over `bearer_contexts_to_be_modified`. A bearer without
`s1_u_enb_fteid`, and one that is only the default bearer of its connection, is
noted nowhere. -/
def collectModified (s : State) (ebc : Nat) (collected : Collected)
    (it : BearerContextToBeModified) : Collected :=
  match s.findPdnConnection ebc it.epsBearerId with
  | none =>
      { collected with bearerContextsModified := collected.bearerContextsModified ++
          [{ epsBearerId := it.epsBearerId, cause := some contextNotFound }] }
  | some pdn =>
      match it.s1UEnbFteid, (s.pdnConnections pdn).sgwEpsBearers[it.epsBearerId]? with
      | some v, some sb =>
          if v = sb.enbFteidS1u then
            { collected with bearerContextsModified := collected.bearerContextsModified ++
                [{ epsBearerId := it.epsBearerId, cause := some requestAccepted }] }
          else
            { collected with pdnBearers := noteModified collected.pdnBearers pdn it }
      | _, _ => collected

/-- One turn of the loop over `bearer_contexts_to_be_removed`. -/
def collectRemoved (s : State) (ebc : Nat) (collected : Collected) (ebi : Nat) : Collected :=
  match s.findPdnConnection ebc ebi with
  | none =>
      { collected with bearerContextsMarkedForRemoval :=
          collected.bearerContextsMarkedForRemoval ++
            [{ epsBearerId := ebi, cause := some contextNotFound }] }
  | some pdn => { collected with pdnBearers := noteRemoved collected.pdnBearers pdn ebi }

def collect (s : State) (ebc : Nat) (request : ModifyBearerRequest) : Collected :=
  request.bearerContextsToBeRemoved.foldl (s.collectRemoved ebc)
    (request.bearerContextsToBeModified.foldl (s.collectModified ebc) {})

/-- Write the F-TEID of the eNodeB into the bearer, where there is one. -/
def storeEnbFteid (pdn : PdnConnection) (it : BearerContextToBeModified) : PdnConnection :=
  match it.s1UEnbFteid, pdn.sgwEpsBearers[it.epsBearerId]? with
  | some fteid, some bearer =>
      pdn.setEpsBearer it.epsBearerId { bearer with enbFteidS1u := fteid }
  | _, _ => pdn

/-- The bearer contexts that the S5/S8 request carries. -/
def forwarded (pdn : PdnConnection) (px : PdnBearersToBeXied) : List BearerContextToBeModified :=
  px.bearerContextsToBeModified.filter fun it =>
    it.s1UEnbFteid.isSome && pdn.sgwEpsBearers.contains it.epsBearerId

/-- The loop that sends one S5/S8 request for each connection; `uids n` is what
the `n`-th call of `get_uid` returns. -/
def sendModifyBearers (s : State) (sender : Nat) (uids : Nat → Nat) :
    Nat → List PdnBearersToBeXied → State × List PdnBearersToBeXied × List Event
  | _, [] => (s, [], [])
  | n, px :: rest =>
      let pdn := s.pdnConnections px.pdn
      let sent := s.setPdnConnection px.pdn (px.bearerContextsToBeModified.foldl storeEnbFteid pdn)
      let (finished, pending, events) := sendModifyBearers sent sender uids (n + 1) rest
      (finished, { px with gtpcTxId := uids n } :: pending,
        .s5s8ModifyBearerRequest (s.s5s8Request px.pdn (uids n) sender)
          (forwarded pdn px) px.bearerContextsToBeRemoved :: events)

/-- `create_procedure(itti_s11_modify_bearer_request&)`, from its `run` on. -/
def runModifyBearer (s : State) (ebc c : Nat) (request : ModifyBearerRequest) (uids : Nat → Nat) :
    State × List Event :=
  let collected := s.collect c request
  match collected.pdnBearers with
  | [] =>
      (s,
        [.s11ModifyBearerResponse
          { gtpcTxId := request.gtpcTxId
            teid := (s.contexts c).mmeFteidS11.teidGreKey
            cause := some contextNotFound
            bearerContextsModified := collected.bearerContextsModified
            bearerContextsMarkedForRemoval := collected.bearerContextsMarkedForRemoval }])
  | _ :: _ =>
      let (sent, pending, events) := s.sendModifyBearers s.nextAddress uids 0 collected.pdnBearers
      (sent.insertProcedure ebc request.gtpcTxId c
          (.modifyBearer request pending collected.bearerContextsModified
            collected.bearerContextsMarkedForRemoval),
        events)

def modifyBearerInContext (s : State) (ebc : Nat) (request : ModifyBearerRequest)
    (uids : Nat → Nat) : Option (State × List Event) :=
  if (s.findProcedure ebc request.gtpcTxId).isSome then some (s, [])
  else if request.bearerContextsToBeModified = [] ∧ request.bearerContextsToBeRemoved = [] then
    some (s, [])
  else
    match s.runContext ebc with
    | none => none
    | some c => some (s.runModifyBearer ebc c request uids)

/-- The answered bearer contexts that were asked for, and what is still asked
for: each takes the first element with its EBI. -/
def takeAnswered {α β : Type} (ebi : α → Nat) (answeredEbi : β → Nat) :
    List α → List β → List α × List β
  | asked, [] => (asked, [])
  | asked, answered :: rest =>
      if asked.any fun it => ebi it == answeredEbi answered then
        let (left, taken) := takeAnswered ebi answeredEbi
          (asked.eraseP fun it => ebi it == answeredEbi answered) rest
        (left, answered :: taken)
      else
        takeAnswered ebi answeredEbi asked rest

/-- The bearer context of the answer to one that was to be modified. -/
def answerModified (modified : List BearerContextModified) (it : BearerContextToBeModified) :
    Option BearerContextModified :=
  modified.find? fun answer => answer.epsBearerId == it.epsBearerId

/-- The bearer context of the answer to one that was to be removed. -/
def answerRemoved (marked : List BearerContextMarkedForRemoval) (ebi : Nat) :
    Option BearerContextMarkedForRemoval :=
  marked.find? fun answer => answer.epsBearerId == ebi

/-- One turn of the cause over the bearers to be modified. -/
def causeOfModified (globalCause : Nat) (found : Bool) : Nat :=
  if found then
    if globalCause = requestAcceptedPartially then globalCause else requestAccepted
  else if globalCause = requestAccepted then requestAcceptedPartially
  else globalCause

/-- One turn of the cause over the bearers to be removed. -/
def causeOfRemoved (globalCause : Nat) (found : Bool) : Nat :=
  if found then
    if globalCause = requestAcceptedPartially then globalCause else requestAccepted
  else
    globalCause

def globalCause (request : ModifyBearerRequest) (modified : List BearerContextModified)
    (marked : List BearerContextMarkedForRemoval) : Nat :=
  request.bearerContextsToBeRemoved.foldl
    (fun cause ebi => causeOfRemoved cause (answerRemoved marked ebi).isSome)
    (request.bearerContextsToBeModified.foldl
      (fun cause it => causeOfModified cause (answerModified modified it).isSome) systemFailure)

/-- The bearers of the last connection that was answered, after the response was
put together. -/
def bearersUpdated (pdn : PdnConnection) (request : ModifyBearerRequest)
    (modified : List BearerContextModified) (marked : List BearerContextMarkedForRemoval) :
    PdnConnection :=
  let updated := request.bearerContextsToBeModified.foldl
    (fun pdn it =>
      match answerModified modified it with
      | some answer => pdn.updateEpsBearer answer
      | none => pdn) pdn
  request.bearerContextsToBeRemoved.foldl
    (fun pdn ebi => if (answerRemoved marked ebi).isSome then pdn.removeEpsBearer ebi else pdn)
    updated

/-- The S11 response, when the last connection was answered. -/
def modifyBearerResponse (gtpcTxId teid : Nat) (request : ModifyBearerRequest)
    (modified : List BearerContextModified) (marked : List BearerContextMarkedForRemoval) :
    ModifyBearerResponse where
  gtpcTxId := gtpcTxId
  teid := teid
  cause := some (globalCause request modified marked)
  bearerContextsModified := request.bearerContextsToBeModified.map fun it =>
    (answerModified modified it).getD
      { epsBearerId := it.epsBearerId, cause := some contextNotFound }
  bearerContextsMarkedForRemoval := request.bearerContextsToBeRemoved.map fun ebi =>
    (answerRemoved marked ebi).getD { epsBearerId := ebi, cause := some contextNotFound }

/-- `it_modified.s1_u_sgw_fteid.second.interface_type = S1_U_SGW_GTP_U`. -/
def withSgwInterface (answer : BearerContextModified) : BearerContextModified :=
  { answer with s1USgwFteid := answer.s1USgwFteid.map fun fteid =>
      { fteid with interfaceType := s1USgwGtpU } }

/-- `bearer_contexts_modified` after a response for the element `px`. -/
def withModified (px : PdnBearersToBeXied) (modified : List BearerContextModified)
    (s5resp : ModifyBearerResponse) : List BearerContextModified :=
  modified ++ ((takeAnswered BearerContextToBeModified.epsBearerId
    BearerContextModified.epsBearerId px.bearerContextsToBeModified
    s5resp.bearerContextsModified).2.map withSgwInterface)

/-- `bearer_contexts_marked_for_removal` after a response for the element `px`. -/
def withMarked (px : PdnBearersToBeXied) (marked : List BearerContextMarkedForRemoval)
    (s5resp : ModifyBearerResponse) : List BearerContextMarkedForRemoval :=
  marked ++ (takeAnswered id BearerContextMarkedForRemoval.epsBearerId
    px.bearerContextsToBeRemoved s5resp.bearerContextsMarkedForRemoval).2

/-- A response without a cause marks the procedure for removal. -/
def removeWithoutCause (s : State) (ebc address : Nat) (cause : Option Nat) : State :=
  if cause = none then s.removeProcedure ebc address else s

/-- `modify_bearer_request_procedure::handle_itti_msg(modify bearer response)`. -/
def modifyBearerAnswered (s : State) (ebc : Nat) (proc : Procedure) (request : ModifyBearerRequest)
    (pdnBearers : List PdnBearersToBeXied) (modified : List BearerContextModified)
    (marked : List BearerContextMarkedForRemoval) (s5resp : ModifyBearerResponse) :
    State × List Event :=
  match pdnBearers.find? fun px => px.gtpcTxId == s5resp.gtpcTxId with
  | none => (s.removeWithoutCause ebc proc.address s5resp.cause, [])
  | some px =>
      match pdnBearers.eraseP fun px => px.gtpcTxId == s5resp.gtpcTxId with
      | [] =>
          ((s.setPdnConnection px.pdn (bearersUpdated (s.pdnConnections px.pdn) request
              (withModified px modified s5resp) (withMarked px marked s5resp))).removeProcedure
              ebc proc.address,
            [.s11ModifyBearerResponse (modifyBearerResponse proc.gtpcTxId
              (s.contexts proc.ebc).mmeFteidS11.teidGreKey request
              (withModified px modified s5resp) (withMarked px marked s5resp))])
      | left :: more =>
          ((s.setProcedure ebc proc.address (.modifyBearer request (left :: more)
              (withModified px modified s5resp)
              (withMarked px marked s5resp))).removeWithoutCause ebc proc.address s5resp.cause,
            [])

def modifyBearerResponseInContext (s : State) (ebc : Nat) (s5resp : ModifyBearerResponse) :
    Option (State × List Event) :=
  match s.findProcedure ebc s5resp.gtpcTxId with
  | none => some (s, [])
  | some proc =>
      match proc.kind with
      | .modifyBearer request pdnBearers modified marked =>
          some (s.modifyBearerAnswered ebc proc request pdnBearers modified marked s5resp)
      | _ => none

/-! ### Release Access Bearers -/

/-- The connections that the procedure asks the PGW to release. -/
def toRelease (s : State) (c : Nat) : List Nat :=
  (s.contexts c).connections.filter fun sp => !(s.pdnConnections sp).isDlUpTunnelsReleased

/-- `create_procedure(itti_s11_release_access_bearers_request&)`, from its `run`
on. The S5/S8 requests have no local TEID, and all of them the transaction of the
S11 request. -/
def runReleaseAccessBearers (s : State) (ebc c : Nat) (request : ReleaseAccessBearersRequest) :
    State × List Event :=
  match s.toRelease c with
  | [] =>
      (s,
        [.s11ReleaseAccessBearersResponse
          { gtpcTxId := request.gtpcTxId
            teid := (s.contexts c).mmeFteidS11.teidGreKey
            cause := some requestAccepted }])
  | sp :: rest =>
      (s.insertProcedure ebc request.gtpcTxId c
          (.releaseAccessBearers request
            ((sp :: rest).map fun pdn => ⟨pdn, request.gtpcTxId⟩) 0),
        (sp :: rest).map fun pdn =>
          .s5s8ReleaseAccessBearersRequest
            { s.s5s8Request pdn request.gtpcTxId s.nextAddress with lTeid := 0 })

def releaseAccessBearersInContext (s : State) (ebc : Nat)
    (request : ReleaseAccessBearersRequest) : Option (State × List Event) :=
  if (s.findProcedure ebc request.gtpcTxId).isSome then some (s, [])
  else
    match s.runContext ebc with
    | none => none
    | some c => some (s.runReleaseAccessBearers ebc c request)

/-- The cause of the procedure after one more response. -/
def causeOfReleased (cause : Nat) (answered : Option Nat) : Nat :=
  if cause = 0 then answered.getD requestAccepted
  else
    match answered with
    | none => requestAccepted
    | some got =>
        if got = requestAccepted then
          if cause = contextNotFound then requestAcceptedPartially else cause
        else if got = requestAcceptedPartially then requestAcceptedPartially
        else if cause = requestAccepted then requestAcceptedPartially
        else cause

/-- `release_access_bearers_request_procedure::handle_itti_msg(release access
bearers response)`: the procedure is never marked for removal. -/
def releaseAccessBearersAnswered (s : State) (ebc : Nat) (proc : Procedure)
    (request : ReleaseAccessBearersRequest) (bearers : List BearersToBeReleased) (cause : Nat)
    (s5resp : CauseResponse) : State × List Event :=
  if bearers.any fun px => px.gtpcTxId == s5resp.gtpcTxId then
    let cause := causeOfReleased cause s5resp.cause
    let left := bearers.eraseP fun px => px.gtpcTxId == s5resp.gtpcTxId
    (s.setProcedure ebc proc.address (.releaseAccessBearers request left cause),
      if left = [] then
        [.s11ReleaseAccessBearersResponse
          { gtpcTxId := proc.gtpcTxId
            teid := (s.contexts proc.ebc).mmeFteidS11.teidGreKey
            cause := some cause }]
      else
        [])
  else
    (s, [])

def releaseAccessBearersResponseInContext (s : State) (ebc : Nat) (s5resp : CauseResponse) :
    Option (State × List Event) :=
  match s.findProcedure ebc s5resp.gtpcTxId with
  | none => some (s, [])
  | some proc =>
      match proc.kind with
      | .releaseAccessBearers request bearers cause =>
          some (s.releaseAccessBearersAnswered ebc proc request bearers cause s5resp)
      | _ => none

/-! ### Downlink Data Notification -/

/-- `handle_itti_msg(itti_s5s8_downlink_data_notification&, spc)`: a notification
without an EBI or for no bearer starts no procedure. -/
def downlinkDataNotificationInContext (s : State) (ebc sp : Nat) (ddn : DownlinkDataNotification) :
    State × List Event :=
  if (s.findProcedure ebc ddn.gtpcTxId).isSome then (s, [])
  else
    match ddn.epsBearerId with
    | none => (s, [])
    | some ebi =>
        if (s.pdnConnections sp).sgwEpsBearers.contains ebi then
          (s.insertProcedure ebc ddn.gtpcTxId ebc (.downlinkDataNotification ddn sp),
            [.s11DownlinkDataNotification ddn.gtpcTxId
              (s.contexts ebc).mmeFteidS11.teidGreKey])
        else
          (s, [])

/-- The procedure stays; other kinds of procedures do not handle the message. -/
def downlinkDataNotificationAcknowledgeInContext (s : State) (ebc : Nat)
    (ack : DownlinkDataNotificationAcknowledge) : State × List Event :=
  match s.findProcedure ebc ack.gtpcTxId with
  | none => (s, [])
  | some proc =>
      match proc.kind with
      | .downlinkDataNotification _ sp =>
          (s, [.s5s8DownlinkDataNotificationAcknowledge proc.gtpcTxId
            (s.pdnConnections sp).pgwFteidS5S8Cp.teidGreKey])
      | _ => (s, [])

end State

end OpenairSpgwc.Sgw
