import OpenairSpgwc.Common.UintGenerator
import OpenairSpgwc.Pgw.PaaDynamic
import OpenairSpgwc.Pgw.Pco

/-!
Contract: the objects of the PGW application, `pgw_context.hpp` and the tables
of `pgw_app`, and the operations on them that the handlers are made of.

A `shared_ptr` to a `pgw_context`, an `apn_context`, a `pgw_pdn_connection` or a
procedure is a number; an object keeps it for good, also when nothing refers to
the object any more. The three kinds of objects are functions of that number,
with freshly built objects where nothing has been allocated.

Owns:
- bearers, PDN connections, APN contexts, contexts and the state of `pgw_app`;
- looking up PDN connections, allocating and freeing control TEIDs;
- releasing the resources of a PDN connection and detaching it.

Does not own: AMBR, QoS, TFT, addresses in control F-TEIDs, locks.
-/

namespace OpenairSpgwc.Pgw

open Foundation
open OpenairSpgwc.Common
open Std (ExtTreeMap)

/-! ### Objects -/

/-- `fteid_t`. -/
structure Fteid where
  v4 : Bool := false
  v6 : Bool := false
  interfaceType : Nat := 0
  teidGreKey : Nat := 0
deriving DecidableEq, Repr

def s5s8PgwGtpU : Nat := 5
def s5s8SgwGtpC : Nat := 6
def s5s8PgwGtpC : Nat := 7

def Fteid.isZero (fteid : Fteid) : Bool := !fteid.v4 && !fteid.v6

/-- A `fteid_t` with its addresses. -/
structure UserPlaneFteid extends Fteid where
  ipv4Address : BitVec 32 := 0
  ipv6Address : BitVec 128 := 0
deriving DecidableEq, Repr

structure EpsBearer where
  ebi : Nat := 0
  sgwFteidS5S8Up : UserPlaneFteid := {}
  pgwFteidS5S8Up : UserPlaneFteid := {}
  pdrIdUl : Nat := 0
  pdrIdDl : Nat := 0
  farIdUl : Option Nat := none
  farIdDl : Option Nat := none
  released : Bool := false
deriving DecidableEq

structure PdnConnection where
  ipv4 : Bool := false
  ipv6 : Bool := false
  ipv4Address : BitVec 32 := 0
  ipv6Address : BitVec 128 := 0
  pdnType : PdnType := .ipv4
  sgwFteidS5S8Cp : Fteid := {}
  pgwFteidS5S8Cp : Fteid := {}
  defaultBearer : Nat := 0
  epsBearers : ExtTreeMap Nat EpsBearer := ∅
  released : Bool := false
  seid : Nat := 0
  upFseid : Nat := 0
  pdrIdGenerator : UintGenerator 16 := .empty
  farIdGenerator : UintGenerator 32 := .empty

namespace PdnConnection

/-- `clear` keeps the two generators. -/
def clear (pdn : PdnConnection) : PdnConnection where
  pdrIdGenerator := pdn.pdrIdGenerator
  farIdGenerator := pdn.farIdGenerator

def set (pdn : PdnConnection) (paa : Paa) : PdnConnection :=
  match paa.pdnType with
  | .ipv4 => { pdn with ipv4 := true, ipv6 := false, ipv4Address := paa.ipv4Address }
  | .ipv6 => { pdn with ipv4 := false, ipv6 := true, ipv6Address := paa.ipv6Address }
  | .ipv4v6 =>
      { pdn with
        ipv4 := true, ipv6 := true
        ipv4Address := paa.ipv4Address, ipv6Address := paa.ipv6Address }
  | .nonIp => { pdn with ipv4 := false, ipv6 := false }
  | .unknown _ => pdn

/-- `add_eps_bearer`; `EPS_BEARER_IDENTITY_FIRST` to `EPS_BEARER_IDENTITY_LAST`
are accepted. -/
def addEpsBearer (pdn : PdnConnection) (bearer : EpsBearer) : PdnConnection :=
  if 5 ≤ bearer.ebi ∧ bearer.ebi ≤ 15 then
    { pdn with epsBearers := pdn.epsBearers.insert bearer.ebi bearer }
  else
    pdn

/-- `get_eps_bearer(pdr_id, b)`. -/
def bearerOfPdrId (pdn : PdnConnection) (pdrId : Nat) : Option EpsBearer :=
  (pdn.epsBearers.toList.find? fun it => it.2.pdrIdUl == pdrId || it.2.pdrIdDl == pdrId).map
    Prod.snd

/-- `get_eps_bearer(far_id, b)`. -/
def bearerOfFarId (pdn : PdnConnection) (farId : Nat) : Option EpsBearer :=
  (pdn.epsBearers.toList.find? fun it =>
    it.2.farIdUl == some farId || it.2.farIdDl == some farId).map Prod.snd

/-- `get_eps_bearer(ebi, b)`. -/
def bearerOfEbi (pdn : PdnConnection) (ebi : Nat) : Option EpsBearer :=
  (pdn.epsBearers.toList.find? fun it => it.2.ebi == ebi).map Prod.snd

def generateSeid (pdn : PdnConnection) (instanceId : Nat) : PdnConnection :=
  { pdn with seid := pdn.pgwFteidS5S8Cp.teidGreKey ||| (instanceId <<< 32) }

end PdnConnection

structure ApnContext where
  inUse : Bool := false
  apnInUse : String := ""
  pdnConnections : List Nat := []
deriving DecidableEq

/-- One element of `bearer_contexts_to_be_created`. -/
structure BearerContextToBeCreated where
  epsBearerId : Nat
deriving DecidableEq

/-- The causes the PGW answers a request with. -/
inductive Cause where
  | requestAccepted
  | requestAcceptedPartially
  | requestRejected
  | apnCongestion
  | contextNotFound
  | missingOrUnknownApn
  | allDynamicAddressesAreOccupied
  | preferredPdnTypeNotSupported
  | noResourcesAvailable
  | systemFailure
deriving DecidableEq, Repr

structure BearerContextCreated where
  ebi : Nat
  cause : Cause
  s5S8UPgwFteid : Option UserPlaneFteid := none
deriving DecidableEq

structure CreateSessionResponse where
  gtpcTxId : Nat
  teid : Nat
  cause : Cause
  paa : Option Paa := none
  pco : Option Pco.ProtocolConfigurationOptions := none
  s5S8PgwFteid : Option Fteid := none
  bearerContextsCreated : List BearerContextCreated := []
deriving DecidableEq

/-- What a pending procedure still needs for its answer. -/
inductive ProcedureKind where
  | sessionEstablishment (bearers : List BearerContextToBeCreated)
      (triggeredPending : CreateSessionResponse)
  | deleteSession (context gtpcTxId teid : Nat)
deriving DecidableEq

structure Procedure where
  address : Nat
  trxnId : Nat
  ppc : Nat
  kind : ProcedureKind
deriving DecidableEq

structure PgwContext where
  imsi : Nat := 0
  apns : List Nat := []
  pendingProcedures : List Procedure := []
deriving DecidableEq

/-- `pgw_app`, with `paa_dynamic`, the generator of transaction identifiers and
the objects that have been allocated. -/
structure State where
  paaDynamic : PaaDynamic
  uids : UintGenerator 64
  teidS5s8CpGenerator : Nat
  s5s8cplteid : Finset Nat
  s5s8lteid2pgwContext : ExtTreeMap Nat Nat
  imsi2pgwContext : ExtTreeMap Nat Nat
  seid2pgwContext : ExtTreeMap Nat Nat
  contexts : Nat → PgwContext
  apnContexts : Nat → ApnContext
  pdnConnections : Nat → PdnConnection
  /-- The address the next new object gets. -/
  nextAddress : Nat

namespace State

/-- The state after `apply_config`. -/
def init (pdns : List PdnCfg) : State where
  paaDynamic := applyConfig pdns
  uids := .empty
  teidS5s8CpGenerator := 0
  s5s8cplteid := ∅
  s5s8lteid2pgwContext := ∅
  imsi2pgwContext := ∅
  seid2pgwContext := ∅
  contexts := fun _ => {}
  apnContexts := fun _ => {}
  pdnConnections := fun _ => {}
  nextAddress := 0

/-! ### Writing objects -/

def setContext (s : State) (pc : Nat) (context : PgwContext) : State :=
  { s with contexts := Function.update s.contexts pc context }

def setApnContext (s : State) (sa : Nat) (apn : ApnContext) : State :=
  { s with apnContexts := Function.update s.apnContexts sa apn }

def setPdnConnection (s : State) (sp : Nat) (pdn : PdnConnection) : State :=
  { s with pdnConnections := Function.update s.pdnConnections sp pdn }

/-! ### TEIDs -/

/-- `generate_s5s8_cp_teid`; zero is `UNASSIGNED_TEID`. -/
def generateS5s8CpTeid (s : State) : Option (Nat × State) :=
  match UintGenerator.getUidLoop 32 (insert 0 s.s5s8cplteid) (2 ^ 32)
      ((s.teidS5s8CpGenerator + 1) % 2 ^ 32) with
  | none => none
  | some teid =>
      some (teid, { s with
        teidS5s8CpGenerator := teid
        s5s8cplteid := insert teid s.s5s8cplteid })

def buildS5s8CpFteid (teid : Nat) : Fteid := ⟨true, false, s5s8PgwGtpC, teid⟩

def freeS5s8CpFteid (s : State) (fteid : Fteid) : State :=
  { s with
    s5s8lteid2pgwContext := s.s5s8lteid2pgwContext.erase fteid.teidGreKey
    s5s8cplteid := s.s5s8cplteid.erase fteid.teidGreKey }

/-- `delete_pgw_context`. -/
def deletePgwContext (s : State) (pc : Nat) : State :=
  { s with imsi2pgwContext := s.imsi2pgwContext.erase (s.contexts pc).imsi }

/-! ### Looking up PDN connections -/

/-- `apn_context::find_pdn_connection(teid, is_local_teid, ..)`. -/
def findInApn (s : State) (sa teid : Nat) (isLocalTeid : Bool) : Option Nat :=
  (s.apnContexts sa).pdnConnections.find? fun sp =>
    if isLocalTeid then (s.pdnConnections sp).pgwFteidS5S8Cp.teidGreKey == teid
    else (s.pdnConnections sp).sgwFteidS5S8Cp.teidGreKey == teid

/-- `pgw_context::find_pdn_connection(teid, is_local_teid, ..)`. -/
def findPdnConnection (s : State) (pc teid : Nat) (isLocalTeid : Bool) : Option (Nat × Nat) :=
  (s.contexts pc).apns.findSome? fun sa =>
    (s.findInApn sa teid isLocalTeid).map fun sp => (sa, sp)

def findApnContext (s : State) (pc : Nat) (apn : String) : Option Nat :=
  (s.contexts pc).apns.find? fun sa => apn == (s.apnContexts sa).apnInUse

/-- `pgw_context::find_pdn_connection(apn, teid, is_local_teid, ..)`: only the
first APN context of that name is searched, and it is not returned alone. -/
def findPdnConnectionOfApn (s : State) (pc : Nat) (apn : String) (teid : Nat)
    (isLocalTeid : Bool) : Option (Nat × Nat) :=
  match s.findApnContext pc apn with
  | none => none
  | some sa => (s.findInApn sa teid isLocalTeid).map fun sp => (sa, sp)

/-! ### Procedures -/

def insertProcedure (s : State) (pc : Nat) (proc : Procedure) : State :=
  s.setContext pc { s.contexts pc with
    pendingProcedures := (s.contexts pc).pendingProcedures ++ [proc] }

def findProcedure (s : State) (pc trxnId : Nat) : Option Procedure :=
  (s.contexts pc).pendingProcedures.find? fun proc => proc.trxnId == trxnId

def removeProcedure (s : State) (pc address : Nat) : State :=
  s.setContext pc { s.contexts pc with
    pendingProcedures := (s.contexts pc).pendingProcedures.eraseP fun proc =>
      proc.address == address }

/-! ### Detaching PDN connections -/

/-- `pgw_pdn_connection::deallocate_ressources`. -/
def deallocateRessources (s : State) (apn : String) (sp : Nat) : State :=
  let pdn := s.pdnConnections sp
  let pools :=
    if pdn.ipv4 then (s.paaDynamic.releasePaa apn pdn.ipv4Address).2 else s.paaDynamic
  (({ s with paaDynamic := pools }).freeS5s8CpFteid pdn.pgwFteidS5S8Cp).setPdnConnection sp
    pdn.clear

/-- `apn_context::delete_pdn_connection`: the resources are deallocated before
the search and once more when the connection is found. -/
def deleteFromApn (s : State) (sa sp : Nat) : State :=
  let s := s.deallocateRessources (s.apnContexts sa).apnInUse sp
  let apn := s.apnContexts sa
  if sp ∈ apn.pdnConnections then
    (s.deallocateRessources apn.apnInUse sp).setApnContext sa
      { apn with pdnConnections := apn.pdnConnections.erase sp }
  else
    s

/-- `apn_context::deallocate_ressources`. -/
def deallocateApn (s : State) (sa : Nat) : State :=
  let apn := s.apnContexts sa
  (apn.pdnConnections.foldl (fun s sp => s.deallocateRessources apn.apnInUse sp) s).setApnContext
    sa { apn with pdnConnections := [], inUse := false }

def deleteApnContext (s : State) (pc sa : Nat) : State :=
  if sa ∈ (s.contexts pc).apns then
    let s := s.deallocateApn sa
    s.setContext pc { s.contexts pc with apns := (s.contexts pc).apns.erase sa }
  else
    s

/-- `pgw_context::delete_pdn_connection`. -/
def deletePdnConnection (s : State) (pc sa sp : Nat) : State :=
  let s := s.deleteFromApn sa sp
  if (s.apnContexts sa).pdnConnections.length = 0 then s.deleteApnContext pc sa else s

end State

end OpenairSpgwc.Pgw
