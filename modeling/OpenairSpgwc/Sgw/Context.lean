import OpenairSpgwc.Foundation.Index

/-!
Contract: the objects of the SGW application, `sgwc_eps_bearer_context.hpp`,
`sgwc_pdn_connection.cpp` and the tables of `sgwc_app`, and the operations on
them that the procedures are made of.

A `shared_ptr` to an `sgw_eps_bearer_context`, an `sgw_pdn_connection` or a
procedure is a number, which no other object gets later. Contexts and PDN
connections are functions of that number, with freshly built objects where
nothing has been allocated. A bearer is held by its connection only, so it is a
value.

Owns:
- bearers, PDN connections, pending procedures, contexts, the state of `sgwc_app`;
- looking up PDN connections and procedures, generating control TEIDs;
- inserting and deleting PDN connections, deleting a context.

Does not own: QoS, TFT, PCO and the other IEs that are only passed on.
-/

namespace OpenairSpgwc.Sgw

open Std (ExtTreeMap)

/-! ### Values of IEs -/

/-- `fteid_t`; the derived equality is its `operator==`. -/
structure Fteid where
  v4 : Bool := false
  v6 : Bool := false
  interfaceType : Nat := 0
  teidGreKey : Nat := 0
  ipv4Address : BitVec 32 := 0
  ipv6Address : BitVec 128 := 0
deriving DecidableEq

def Fteid.isZero (fteid : Fteid) : Bool := !fteid.v4 && !fteid.v6

def s1USgwGtpU : Nat := 1
def s5s8SgwGtpC : Nat := 6
def s5s8PgwGtpC : Nat := 7
def s11MmeGtpC : Nat := 10
def s11S4SgwGtpC : Nat := 11

/-! Values of `cause_value`. -/

def requestAccepted : Nat := 16
def requestAcceptedPartially : Nat := 17
def contextNotFound : Nat := 64
def systemFailure : Nat := 72
def remotePeerNotResponding : Nat := 100

/-! ### Messages

An EBI is zero, `EPS_BEARER_IDENTITY_UNASSIGNED`, where the IE is absent. -/

structure CreateSessionRequest where
  gtpcTxId : Nat := 0
  teid : Nat := 0
  imsi : Option Nat := none
  /-- `indication.uimsi`, false without the indication. -/
  uimsi : Bool := false
  senderFteidForCp : Fteid := {}
  apn : String := ""
  pdnType : Nat := 0
  /-- The EBIs of `bearer_contexts_to_be_created`. -/
  bearerContextsToBeCreated : List Nat := []
  /-- The EBIs of `bearer_contexts_to_be_removed`. -/
  bearerContextsToBeRemoved : List Nat := []
deriving DecidableEq

structure BearerContextToBeModified where
  epsBearerId : Nat := 0
  s1UEnbFteid : Option Fteid := none
deriving DecidableEq

structure ModifyBearerRequest where
  gtpcTxId : Nat := 0
  teid : Nat := 0
  bearerContextsToBeModified : List BearerContextToBeModified := []
  /-- The EBIs of `bearer_contexts_to_be_removed`. -/
  bearerContextsToBeRemoved : List Nat := []
deriving DecidableEq

structure ReleaseAccessBearersRequest where
  gtpcTxId : Nat := 0
  teid : Nat := 0
deriving DecidableEq

structure DeleteSessionRequest where
  gtpcTxId : Nat := 0
  teid : Nat := 0
  linkedEpsBearerId : Option Nat := none
  /-- `indication.oi`, false without the indication. -/
  oi : Bool := false
deriving DecidableEq

structure BearerContextCreated where
  epsBearerId : Nat := 0
  cause : Option Nat := none
  /-- `s5_s8_u_pgw_fteid` on S5/S8, `s1_u_sgw_fteid` on S11. -/
  fteid : Option Fteid := none
deriving DecidableEq

structure BearerContextMarkedForRemoval where
  epsBearerId : Nat := 0
  cause : Option Nat := none
deriving DecidableEq

/-- The response on S5/S8 and the one on S11. -/
structure CreateSessionResponse where
  gtpcTxId : Nat := 0
  teid : Nat := 0
  cause : Option Nat := none
  /-- `s5_s8_pgw_fteid` on S5/S8, `sender_fteid_for_cp` on S11. -/
  fteidForCp : Option Fteid := none
  bearerContextsCreated : List BearerContextCreated := []
  bearerContextsMarkedForRemoval : List BearerContextMarkedForRemoval := []
deriving DecidableEq

structure BearerContextModified where
  epsBearerId : Nat := 0
  cause : Option Nat := none
  s1USgwFteid : Option Fteid := none
deriving DecidableEq

structure ModifyBearerResponse where
  gtpcTxId : Nat := 0
  teid : Nat := 0
  cause : Option Nat := none
  bearerContextsModified : List BearerContextModified := []
  bearerContextsMarkedForRemoval : List BearerContextMarkedForRemoval := []
deriving DecidableEq

/-- A Delete Session Response or a Release Access Bearers Response. -/
structure CauseResponse where
  gtpcTxId : Nat := 0
  teid : Nat := 0
  cause : Option Nat := none
deriving DecidableEq

structure RemotePeerNotResponding where
  gtpcTxId : Nat := 0
  lTeid : Nat := 0
deriving DecidableEq

structure DownlinkDataNotification where
  gtpcTxId : Nat := 0
  teid : Nat := 0
  epsBearerId : Option Nat := none
deriving DecidableEq

structure DownlinkDataNotificationAcknowledge where
  gtpcTxId : Nat := 0
  teid : Nat := 0
deriving DecidableEq

/-! ### Objects -/

structure EpsBearer where
  ebi : Nat := 0
  pgwFteidS5S8Up : Fteid := {}
  sgwFteidS1uS12S4uS11u : Fteid := {}
  enbFteidS1u : Fteid := {}
deriving DecidableEq

structure PdnConnection where
  apnInUse : String := ""
  pdnType : Nat := 0
  pgwFteidS5S8Cp : Fteid := {}
  sgwFteidS5S8Cp : Fteid := {}
  defaultBearer : Nat := 0
  isDlUpTunnelsReleased : Bool := false
  sgwEpsBearers : ExtTreeMap Nat EpsBearer := ∅

namespace PdnConnection

/-- `add_eps_bearer`: `EPS_BEARER_IDENTITY_FIRST` to `EPS_BEARER_IDENTITY_LAST`
are accepted, and `std::map::insert` keeps a bearer that is there. -/
def addEpsBearer (pdn : PdnConnection) (bearer : EpsBearer) : PdnConnection :=
  if 5 ≤ bearer.ebi ∧ bearer.ebi ≤ 15 then
    { pdn with sgwEpsBearers := pdn.sgwEpsBearers.insertIfNew bearer.ebi bearer }
  else
    pdn

/-- Write the bearer that is stored under `ebi`. -/
def setEpsBearer (pdn : PdnConnection) (ebi : Nat) (bearer : EpsBearer) : PdnConnection :=
  { pdn with sgwEpsBearers := pdn.sgwEpsBearers.insert ebi bearer }

/-- `update_eps_bearer`; `sgw_eps_bearer::update` compares the EBI once more. -/
def updateEpsBearer (pdn : PdnConnection) (b : BearerContextModified) : PdnConnection :=
  match pdn.sgwEpsBearers[b.epsBearerId]? with
  | none => pdn
  | some bearer =>
      if b.epsBearerId = bearer.ebi then
        match b.s1USgwFteid with
        | none => pdn
        | some fteid => pdn.setEpsBearer b.epsBearerId
            { bearer with sgwFteidS1uS12S4uS11u := fteid }
      else
        pdn

/-- `remove_eps_bearer(ebi)`. -/
def removeEpsBearer (pdn : PdnConnection) (ebi : Nat) : PdnConnection :=
  { pdn with sgwEpsBearers := pdn.sgwEpsBearers.erase ebi }

def getNumBearers (pdn : PdnConnection) : Nat := pdn.sgwEpsBearers.size

def deleteBearers (pdn : PdnConnection) : PdnConnection := { pdn with sgwEpsBearers := ∅ }

end PdnConnection

/-- `kpdn_t`: APN and PDN type, ordered as a `std::pair`. -/
abbrev Kpdn : Type := String × Nat

instance : Ord Kpdn := lexOrd

def PdnConnection.key (pdn : PdnConnection) : Kpdn := (pdn.apnInUse, pdn.pdnType)

/-- `pdn_bearers_to_be_xied`. -/
structure PdnBearersToBeXied where
  pdn : Nat
  bearerContextsToBeModified : List BearerContextToBeModified := []
  bearerContextsToBeRemoved : List Nat := []
  gtpcTxId : Nat := 0
deriving DecidableEq

structure BearersToBeReleased where
  pdn : Nat
  gtpcTxId : Nat
deriving DecidableEq

inductive ProcedureKind where
  | createSession (msg : CreateSessionRequest)
  | modifyBearer (msg : ModifyBearerRequest) (pdnBearers : List PdnBearersToBeXied)
      (bearerContextsModified : List BearerContextModified)
      (bearerContextsMarkedForRemoval : List BearerContextMarkedForRemoval)
  | releaseAccessBearers (msg : ReleaseAccessBearersRequest) (bearers : List BearersToBeReleased)
      (cause : Nat)
  | deleteSession (msg : DeleteSessionRequest) (pdnConnection : Nat)
  | downlinkDataNotification (msg : DownlinkDataNotification) (pdnConnection : Nat)
deriving DecidableEq

/-- `sebc_procedure`, with the context that `run` was given. -/
structure Procedure where
  address : Nat
  gtpcTxId : Nat
  ebc : Nat
  kind : ProcedureKind
deriving DecidableEq

/-- `has_trxn_id`: two kinds of procedures also answer to the transactions of
the S5/S8 requests they wait for. -/
def Procedure.hasTrxnId (proc : Procedure) (trxnId : Nat) : Bool :=
  proc.gtpcTxId == trxnId ||
    match proc.kind with
    | .modifyBearer _ pdnBearers _ _ => pdnBearers.any fun px => px.gtpcTxId == trxnId
    | .releaseAccessBearers _ bearers _ => bearers.any fun px => px.gtpcTxId == trxnId
    | .createSession _ => false
    | .deleteSession _ _ => false
    | .downlinkDataNotification _ _ => false

structure EpsBearerContext where
  imsi : Nat := 0
  mmeFteidS11 : Fteid := {}
  sgwFteidS11S4Cp : Fteid := {}
  pdnConnections : ExtTreeMap Kpdn Nat := ∅
  pendingProcedures : List Procedure := []

/-- The connections in the order of the map. -/
def EpsBearerContext.connections (context : EpsBearerContext) : List Nat :=
  context.pdnConnections.toList.map Prod.snd

/-- `sgwc_app`, with the objects that have been allocated. -/
structure State where
  teidS11Cp : Nat
  teidS5s8Cp : Nat
  imsi2sgwEpsBearerContext : ExtTreeMap Nat Nat
  s11lteid2sgwEpsBearerContext : ExtTreeMap Nat Nat
  s5s8lteid2sgwContexts : ExtTreeMap Nat (Nat × Nat)
  contexts : Nat → EpsBearerContext
  pdnConnections : Nat → PdnConnection
  /-- The address the next new object gets. -/
  nextAddress : Nat

/-! ### TEIDs -/

/-- The loop of `generate_s11_cp_teid` and `generate_s5s8_cp_teid`: the TEID that
is returned, zero when the counter has come back to where it started, and the
counter after it. The counter comes back before the turns run out. -/
def generateTeidLoop (used : Nat → Bool) (loopDetectTeid : Nat) : Nat → Nat → Nat × Nat
  | 0, teid => (0, teid)
  | turns + 1, teid =>
      if used teid || teid == 0 then
        let next := (teid + 1) % 2 ^ 32
        if loopDetectTeid = next then (0, next)
        else generateTeidLoop used loopDetectTeid turns next
      else
        (teid, teid)

def generateTeid (used : Nat → Bool) (counter : Nat) : Nat × Nat :=
  generateTeidLoop used counter (2 ^ 32) ((counter + 1) % 2 ^ 32)

namespace State

/-- The state the constructor leaves. -/
def init : State where
  teidS11Cp := 0
  teidS5s8Cp := 0
  imsi2sgwEpsBearerContext := ∅
  s11lteid2sgwEpsBearerContext := ∅
  s5s8lteid2sgwContexts := ∅
  contexts := fun _ => {}
  pdnConnections := fun _ => {}
  nextAddress := 0

def generateS11CpTeid (s : State) : Nat × Nat :=
  generateTeid (fun teid => s.s11lteid2sgwEpsBearerContext.contains teid) s.teidS11Cp

def generateS5s8CpTeid (s : State) : Nat × Nat :=
  generateTeid (fun teid => s.s5s8lteid2sgwContexts.contains teid) s.teidS5s8Cp

/-- The F-TEID of `generate_s11_cp_fteid`, less the configured address. -/
def s11CpFteid (teid : Nat) : Fteid :=
  { v4 := true, interfaceType := s11S4SgwGtpC, teidGreKey := teid }

/-- The F-TEID of `generate_s5s8_cp_fteid`, less the configured address. -/
def s5s8CpFteid (teid : Nat) : Fteid :=
  { v4 := true, interfaceType := s5s8SgwGtpC, teidGreKey := teid }

/-! ### Writing objects -/

def setContext (s : State) (ebc : Nat) (context : EpsBearerContext) : State :=
  { s with contexts := Function.update s.contexts ebc context }

def setPdnConnection (s : State) (sp : Nat) (pdn : PdnConnection) : State :=
  { s with pdnConnections := Function.update s.pdnConnections sp pdn }

/-! ### Looking up -/

/-- `find_pdn_connection(ebi, sp)`. -/
def findPdnConnection (s : State) (ebc ebi : Nat) : Option Nat :=
  (s.contexts ebc).connections.find? fun sp =>
    (s.pdnConnections sp).defaultBearer == ebi || (s.pdnConnections sp).sgwEpsBearers.contains ebi

def findProcedure (s : State) (ebc gtpcTxId : Nat) : Option Procedure :=
  (s.contexts ebc).pendingProcedures.find? fun proc => proc.hasTrxnId gtpcTxId

/-! ### Procedures of a context -/

/-- `insert_procedure` of a procedure that was just made; `given` is the context
that its `run` is given next. -/
def insertProcedure (s : State) (ebc gtpcTxId given : Nat) (kind : ProcedureKind) : State :=
  { s.setContext ebc { s.contexts ebc with
      pendingProcedures := (s.contexts ebc).pendingProcedures ++
        [⟨s.nextAddress, gtpcTxId, given, kind⟩] } with
    nextAddress := s.nextAddress + 1 }

def removeProcedure (s : State) (ebc address : Nat) : State :=
  s.setContext ebc { s.contexts ebc with
    pendingProcedures := (s.contexts ebc).pendingProcedures.eraseP fun proc =>
      proc.address == address }

/-- Write the members of a pending procedure. -/
def setProcedure (s : State) (ebc address : Nat) (kind : ProcedureKind) : State :=
  s.setContext ebc { s.contexts ebc with
    pendingProcedures := (s.contexts ebc).pendingProcedures.map fun proc =>
      if proc.address = address then { proc with kind := kind } else proc }

/-! ### PDN connections of a context -/

/-- `sgw_eps_bearer_context::delete_pdn_connection`. -/
def deletePdnConnection (s : State) (ebc sp : Nat) : State :=
  let pdn := s.pdnConnections sp
  { s with
    s5s8lteid2sgwContexts := s.s5s8lteid2sgwContexts.erase pdn.sgwFteidS5S8Cp.teidGreKey
    contexts := Function.update s.contexts ebc { s.contexts ebc with
      pdnConnections := (s.contexts ebc).pdnConnections.erase pdn.key }
    pdnConnections := Function.update s.pdnConnections sp pdn.deleteBearers }

/-- `sgw_eps_bearer_context::release`. Its loop erases the element under its
iterator; it is called when there is no connection left. -/
def release (s : State) (ebc : Nat) : State :=
  let cleared := s.setContext ebc { s.contexts ebc with pendingProcedures := [] }
  (s.contexts ebc).connections.foldl (fun state sp => state.deletePdnConnection ebc sp) cleared

def deleteSgwEpsBearerContext (s : State) (ebc : Nat) : State :=
  release
    { s with
      imsi2sgwEpsBearerContext := s.imsi2sgwEpsBearerContext.erase (s.contexts ebc).imsi
      s11lteid2sgwEpsBearerContext :=
        s.s11lteid2sgwEpsBearerContext.erase (s.contexts ebc).sgwFteidS11S4Cp.teidGreKey }
    ebc

end State

end OpenairSpgwc.Sgw
