import OpenairSpgwc.Common.Runtime
import OpenairSpgwc.Foundation.Index
import OpenairSpgwc.Pgw.PaaDynamic

/-!
Contract: a UP node as the PGW sees it, `PfcpUpNode`, and its PFCP association,
`pfcp_association`.

Owns:
- node identifiers, their comparisons and their hash;
- the states of a node and what the echo procedures make of them;
- what of the configuration speaks of UP nodes.

The function features and the resource information of a node, its sessions and the
fields that nothing reads are left out.
-/

namespace OpenairSpgwc.Sxab

open OpenairSpgwc.Common

/-! ### Node identifiers -/

/-- `in6_addr`, by its four words. -/
structure In6Addr where
  word0 : Nat := 0
  word1 : Nat := 0
  word2 : Nat := 0
  word3 : Nat := 0
deriving DecidableEq, Repr

def nodeIdTypeIpv4Address : Nat := 0
def nodeIdTypeIpv6Address : Nat := 1
def nodeIdTypeFqdn : Nat := 2

/-- `node_id_t`. Both addresses are one union: the IPv4 address is the first word. -/
structure NodeId where
  nodeIdType : Nat := nodeIdTypeIpv4Address
  u1 : In6Addr := {}
  fqdn : String := ""
deriving DecidableEq, Repr

/-- `node_id == f` with a string `f`. -/
def NodeId.isFqdn (nodeId : NodeId) (f : String) : Bool :=
  nodeId.nodeIdType = nodeIdTypeFqdn && nodeId.fqdn = f

/-- `std::hash` of a node identifier, from the one of strings. -/
def NodeId.hash (stringHash : String → Nat) (nodeId : NodeId) : Nat :=
  if nodeId.nodeIdType = nodeIdTypeIpv4Address then nodeId.u1.word0
  else if nodeId.nodeIdType = nodeIdTypeIpv6Address then
    nodeId.u1.word0 ^^^ nodeId.u1.word1 ^^^ nodeId.u1.word2 ^^^ nodeId.u1.word3
  else if nodeId.nodeIdType = nodeIdTypeFqdn then stringHash nodeId.fqdn
  else 0

/-- `(int32_t) hash_node_id`, the key of the maps. -/
def mapKey (hashNodeId : Nat) : Nat := hashNodeId % 2 ^ 32

theorem NodeId.isFqdn_iff {nodeId : NodeId} {f : String} :
    nodeId.isFqdn f = true ↔ nodeId.nodeIdType = nodeIdTypeFqdn ∧ nodeId.fqdn = f := by
  simp [NodeId.isFqdn]

/-- The identifier of a node that was never associated is no name. -/
theorem NodeId.not_isFqdn_default (f : String) : ({} : NodeId).isFqdn f = false := rfl

theorem NodeId.isFqdn_unique {nodeId : NodeId} {f g : String} (first : nodeId.isFqdn f = true)
    (second : nodeId.isFqdn g = true) : f = g :=
  (isFqdn_iff.mp first).2.symm.trans (isFqdn_iff.mp second).2

theorem NodeId.hash_of_isFqdn {stringHash : String → Nat} {nodeId : NodeId} {f : String}
    (named : nodeId.isFqdn f = true) : nodeId.hash stringHash = stringHash f := by
  obtain ⟨type, rfl⟩ := isFqdn_iff.mp named
  rw [hash, type]
  rfl

/-! ### Configuration -/

/-- `tai_field_t`; a digit has four bits. -/
structure TaiField where
  mccDigit2 : Nat := 0
  mccDigit1 : Nat := 0
  mncDigit3 : Nat := 0
  mccDigit3 : Nat := 0
  mncDigit2 : Nat := 0
  mncDigit1 : Nat := 0
  trackingAreaCode : Nat := 0
deriving DecidableEq, Repr

/-- `s[i] - '0'` in four bits; behind its last character a string has a zero. -/
def digit (s : String) (i : Nat) : Nat :=
  let octet : Nat := (s.toList[i]?).elim 0 Char.toNat
  (((octet : Int) - 48) % 16).toNat

def TaiField.fromItems (mcc mnc : String) (tac : Nat) : TaiField where
  mccDigit1 := digit mcc 0
  mccDigit2 := digit mcc 1
  mccDigit3 := digit mcc 2
  mncDigit1 := digit mnc 0
  mncDigit2 := digit mnc 1
  mncDigit3 := if mnc.length = 3 then digit mnc 2 else 0xF
  trackingAreaCode := tac % 2 ^ 16

/-- `uli_t`, as far as it has a TAI. -/
structure Uli where
  hasTai : Bool := false
  tai1 : TaiField := {}
deriving DecidableEq, Repr

def Uli.isTai (uli : Uli) (t : TaiField) : Bool := uli.hasTai && uli.tai1 = t

/-- `up_node_cfg_t`. -/
structure UpNodeCfg where
  id : String
  mcc : String := ""
  mnc : String := ""
  tac : Nat := 0
  pdnIndex : Nat := 0
deriving DecidableEq

/-- The field that is written when the configuration is read. -/
def UpNodeCfg.tai (node : UpNodeCfg) : TaiField := .fromItems node.mcc node.mnc node.tac

structure Config where
  /-- `cups_.nodes`. -/
  nodes : List UpNodeCfg
  /-- `spgw_app_.pdns`. -/
  pdns : List Pgw.PdnCfg
  /-- `sx_.iface`. -/
  addr4 : Nat := 0
  addr6 : In6Addr := {}
  /-- `std::hash<std::string>`. -/
  stringHash : String → Nat

namespace Config

def hashNodeId (cfg : Config) (nodeId : NodeId) : Nat := nodeId.hash cfg.stringHash

/-- The key of a node identifier. -/
def key (cfg : Config) (nodeId : NodeId) : Nat := mapKey (cfg.hashNodeId nodeId)

/-- The key of a configured node that names itself. -/
def keyOf (cfg : Config) (id : String) : Nat := mapKey (cfg.stringHash id)

/-- The identifiers of the configured nodes. -/
def ids (cfg : Config) : List String := cfg.nodes.map UpNodeCfg.id

theorem key_of_isFqdn {cfg : Config} {nodeId : NodeId} {id : String}
    (named : nodeId.isFqdn id = true) : cfg.key nodeId = cfg.keyOf id := by
  rw [key, hashNodeId, NodeId.hash_of_isFqdn named]
  rfl

/-- `none` when it returns `RETURNerror`. -/
def getPfcpNodeId (cfg : Config) : Option NodeId :=
  if cfg.addr4 ≠ 0 then
    some { nodeIdType := nodeIdTypeIpv4Address, u1 := { word0 := cfg.addr4 } }
  else if cfg.addr6 ≠ {} then
    some { nodeIdType := nodeIdTypeIpv6Address, u1 := cfg.addr6 }
  else
    none

/-- `s_addr` as a little-endian host reads it: the first octet is the least. -/
def sAddr (address : BitVec 32) : BitVec 32 :=
  address.extractLsb' 0 8 ++ address.extractLsb' 8 8 ++ address.extractLsb' 16 8 ++
    address.extractLsb' 24 8

/-- `PdnCfg::is_in_pool`. -/
def isInPool (pdn : Pgw.PdnCfg) (paa : Pgw.Paa) : Bool :=
  match paa.pdnType with
  | .ipv4 => sAddr pdn.uePoolRangeLow ≤ sAddr paa.ipv4Address &&
      sAddr paa.ipv4Address ≤ sAddr pdn.uePoolRangeHigh
  | _ => false

/-- The loop's test of one node. -/
def suits (apn : String) (uli : Uli) (paa : Pgw.Paa) (pdn : Pgw.PdnCfg) (node : UpNodeCfg) :
    Bool :=
  (!paa.isIpAssigned || isInPool pdn paa) && (apn = pdn.apn && uli.isTai node.tai)

/-- The nodes that `GetUpNodes` finds; `none` when a `pdn_index` is out of range and
`at` throws. -/
def getUpNodes (cfg : Config) (apn : String) (uli : Uli) (paa : Pgw.Paa) :
    Option (List UpNodeCfg) :=
  if cfg.nodes.all (fun node => node.pdnIndex < cfg.pdns.length) then
    some (cfg.nodes.filter fun node => (cfg.pdns[node.pdnIndex]?).any (suits apn uli paa · node))
  else
    none

theorem mem_nodes_of_getUpNodes {cfg : Config} {apn : String} {uli : Uli}
    {paa : Pgw.Paa} {found : List UpNodeCfg} {node : UpNodeCfg}
    (returned : cfg.getUpNodes apn uli paa = some found) (member : node ∈ found) :
    node ∈ cfg.nodes := by
  unfold getUpNodes at returned
  split at returned
  · obtain rfl := Option.some.inj returned
    exact List.mem_of_mem_filter member
  · cases returned

end Config

/-! ### Nodes -/

/-- `AssociationState`. -/
inductive AssociationState where
  | null
  | knownPossible
  | initiated
  | setup
  | unstable
  | lost
deriving DecidableEq, Repr

/-- `PFCP_ASSOCIATION_HEARTBEAT_MAX_RETRIES`. -/
def pfcpAssociationHeartbeatMaxRetries : Nat := 2

structure PfcpUpNode where
  id : String
  nodeId : NodeId := {}
  hashNodeId : Nat := 0
  peerRecoveryTimeStamp : Nat := 0
  remoteEndpoint : Endpoint := ⟨0, 0⟩
  associationState : AssociationState := .null
  consecutiveFailedEchoProc : Nat := 0
  consecutiveSuccessfulEchoProc : Nat := 0
  failedEchoProc : Nat := 0
  successfulEchoProc : Nat := 0
  restarts : Nat := 0
deriving DecidableEq

namespace PfcpUpNode

/-- The test of both loops over `pending_nodes_`. -/
def answersTo (nodeId : NodeId) (node : PfcpUpNode) : Bool :=
  (node.associationState = .null || node.associationState = .lost) &&
    (node.nodeId = nodeId || nodeId.isFqdn node.id)

/-- What is written to a node whose association is set up. -/
def associate (cfg : Config) (nodeId : NodeId) (remoteEndpoint : Endpoint)
    (recoveryTimeStamp : Nat) (node : PfcpUpNode) : PfcpUpNode :=
  { node with
    associationState := .setup
    nodeId := nodeId
    hashNodeId := cfg.hashNodeId nodeId
    remoteEndpoint := remoteEndpoint
    peerRecoveryTimeStamp := recoveryTimeStamp }

/-- Whether one more failure makes the node `kAssocLost`. -/
def failsForGood (node : PfcpUpNode) : Bool :=
  node.associationState = .unstable &&
    pfcpAssociationHeartbeatMaxRetries ≤ (node.consecutiveFailedEchoProc + 1) % 2 ^ 32

def notifyNodeNotReachable (node : PfcpUpNode) : PfcpUpNode :=
  { node with
    consecutiveFailedEchoProc := (node.consecutiveFailedEchoProc + 1) % 2 ^ 32
    failedEchoProc := (node.failedEchoProc + 1) % 2 ^ 64
    consecutiveSuccessfulEchoProc := 0
    associationState :=
      if node.associationState = .setup then .unstable
      else if node.failsForGood then .lost
      else node.associationState }

def notifyNodeReachable (node : PfcpUpNode) : PfcpUpNode :=
  { node with
    associationState :=
      if node.associationState = .lost then .knownPossible
      else if node.associationState = .unstable ∧ 10 < node.consecutiveSuccessfulEchoProc then
        .setup
      else node.associationState
    consecutiveFailedEchoProc := 0
    consecutiveSuccessfulEchoProc := (node.consecutiveSuccessfulEchoProc + 1) % 2 ^ 32
    successfulEchoProc := (node.successfulEchoProc + 1) % 2 ^ 64 }

def notifyNodeRestarted (node : PfcpUpNode) : PfcpUpNode :=
  { node with restarts := (node.restarts + 1) % 2 ^ 64 }

/-- The states of the nodes in `up_nodes_`. -/
def Serving (node : PfcpUpNode) : Prop :=
  node.associationState = .setup ∨ node.associationState = .unstable

/-- Who a node is. -/
def label (node : PfcpUpNode) : String × NodeId × Nat := (node.id, node.nodeId, node.hashNodeId)

@[simp] theorem label_notifyNodeNotReachable (node : PfcpUpNode) :
    node.notifyNodeNotReachable.label = node.label := rfl

@[simp] theorem label_notifyNodeReachable (node : PfcpUpNode) :
    node.notifyNodeReachable.label = node.label := rfl

@[simp] theorem label_notifyNodeRestarted (node : PfcpUpNode) :
    node.notifyNodeRestarted.label = node.label := rfl

theorem label_eq {node node' : PfcpUpNode} (same : node'.label = node.label) :
    node'.id = node.id ∧ node'.nodeId = node.nodeId ∧ node'.hashNodeId = node.hashNodeId := by
  simpa [label] using same

theorem serving_associate (cfg : Config) (nodeId : NodeId) (remoteEndpoint : Endpoint)
    (recoveryTimeStamp : Nat) (node : PfcpUpNode) :
    (node.associate cfg nodeId remoteEndpoint recoveryTimeStamp).Serving :=
  .inl rfl

/-- A failure leaves a node in service or loses it. -/
theorem Serving.notifyNodeNotReachable {node : PfcpUpNode} (serving : node.Serving)
    (kept : node.notifyNodeNotReachable.associationState ≠ .lost) :
    node.notifyNodeNotReachable.Serving := by
  have state : node.notifyNodeNotReachable.associationState =
      if node.associationState = .setup then .unstable
      else if node.failsForGood then .lost else node.associationState := rfl
  cases serving with
  | inl setup =>
      rw [if_pos setup] at state
      exact .inr state
  | inr unstable =>
      rw [unstable, if_neg (by decide)] at state
      split at state
      · exact absurd state kept
      · exact .inr state

/-- A node in service is lost by a failure if it fails for good. -/
theorem Serving.lost_iff {node : PfcpUpNode} (serving : node.Serving) :
    node.notifyNodeNotReachable.associationState = .lost ↔ node.failsForGood = true := by
  have state : node.notifyNodeNotReachable.associationState =
      if node.associationState = .setup then .unstable
      else if node.failsForGood then .lost else node.associationState := rfl
  cases serving with
  | inl setup =>
      rw [state, if_pos setup]
      simp [failsForGood, setup]
  | inr unstable =>
      rw [state, unstable, if_neg (by decide)]
      cases node.failsForGood <;> simp

theorem Serving.notifyNodeReachable {node : PfcpUpNode} (serving : node.Serving) :
    node.notifyNodeReachable.Serving := by
  have state : node.notifyNodeReachable.associationState =
      if node.associationState = .lost then .knownPossible
      else if node.associationState = .unstable ∧ 10 < node.consecutiveSuccessfulEchoProc then
        .setup
      else node.associationState := rfl
  cases serving with
  | inl setup =>
      rw [setup, if_neg (by decide), if_neg (fun both => absurd both.1 (by decide))] at state
      exact .inl state
  | inr unstable =>
      rw [unstable, if_neg (by decide)] at state
      split at state
      · exact .inl state
      · exact .inr state

theorem Serving.notifyNodeRestarted {node : PfcpUpNode} (serving : node.Serving) :
    node.notifyNodeRestarted.Serving := serving

end PfcpUpNode

/-! ### Associations -/

structure PfcpAssociation where
  nodeId : NodeId
  hashNodeId : Nat
  id : String := ""
  recoveryTimeStamp : Nat
  remoteEndpoint : Endpoint := ⟨0, 0⟩
  timerHeartbeat : Nat := invalidTimerId
  numRetriesTimerHeartbeat : Nat := 0
  trxnIdHeartbeat : Nat := 0
  isTriggerHeartbeatRequestProcedure : Bool := true
  state : AssociationState := .null
deriving DecidableEq

namespace PfcpAssociation

/-- What `add_association` writes to an association that it finds. -/
def restamp (recoveryTimeStamp : Nat) (association : PfcpAssociation) : PfcpAssociation :=
  { association with
    recoveryTimeStamp := recoveryTimeStamp
    isTriggerHeartbeatRequestProcedure := true }

/-- What it writes to any. -/
def establish (remoteEndpoint : Endpoint) (association : PfcpAssociation) : PfcpAssociation :=
  { association with state := .setup, remoteEndpoint := remoteEndpoint }

/-- Whose association it is. -/
def label (association : PfcpAssociation) : NodeId × Nat × String :=
  (association.nodeId, association.hashNodeId, association.id)

end PfcpAssociation

end OpenairSpgwc.Sxab
