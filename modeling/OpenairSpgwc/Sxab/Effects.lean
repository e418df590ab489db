import OpenairSpgwc.Sxab.Associations

/-!
Contract: what a step does to the nodes, and to who is associated.

Owns:
- `Effect`, the cases, and `effect_of_step`: every step is one of them;
- `Keyed`, the invariant that ties nodes, associations and their keys together.
-/

namespace OpenairSpgwc.Sxab

open Foundation
open OpenairSpgwc.Common
open Std (ExtTreeMap)

/-! ### What an action asks for -/

/-- The node identifier and the time stamp of a setup request that is not ignored. -/
def Action.requests : Action → Option (NodeId × Nat)
  | .associationSetupRequest _ _ (some nodeId) (some stamp) => some (nodeId, stamp)
  | _ => none

/-- The same of a setup message, request or response. -/
def Action.setsUp : Action → Option (NodeId × Nat)
  | .associationSetupRequest _ _ (some nodeId) (some stamp) => some (nodeId, stamp)
  | .associationSetupResponse _ (some nodeId) (some stamp) => some (nodeId, stamp)
  | _ => none

namespace State

variable {cfg : Config} {s t next : State} {action : Action} {events : List Event}

/-- The hash of the node that is notified as not reachable. -/
def misses (s : State) : Action → Option Nat
  | .remotePeerNotResponding _ (some key) =>
      (s.associations[key]?).map PfcpAssociation.hashNodeId
  | _ => none

/-- The hash of the node that is notified as reachable: the loop stops at its association,
which has the time stamp received. -/
def reaches (s : State) : Action → Option Nat
  | .heartbeatResponse _ (some stamp) (some key) =>
      ((s.associations[key]?).filter fun a => a.recoveryTimeStamp = stamp).map
        PfcpAssociation.hashNodeId
  | .heartbeatRequest _ _ (some stamp) (some key) =>
      ((s.associations[key]?).filter fun a => a.recoveryTimeStamp = stamp).map
        PfcpAssociation.hashNodeId
  | _ => none

/-- `NotifyNodeNotReachable` moves a node that `IsIt` to `kAssocLost`. -/
def Loses (IsIt : PfcpUpNode → Prop) (record : StepRecord State Action Event) : Prop :=
  ∃ hashNodeId ∈ record.before.misses record.action,
    ∃ su ∈ record.before.upNodes[mapKey hashNodeId]?, su.failsForGood = true ∧ IsIt su

instance (IsIt : PfcpUpNode → Prop) [DecidablePred IsIt] : DecidablePred (Loses IsIt) :=
  fun record => inferInstanceAs (Decidable (∃ hashNodeId ∈ record.before.misses record.action,
    ∃ su ∈ record.before.upNodes[mapKey hashNodeId]?, su.failsForGood = true ∧ IsIt su))

/-! ### Nodes and labels -/

structure SameNodes (s t : State) : Prop where
  pending : t.pendingNodes = s.pendingNodes
  up : t.upNodes = s.upNodes

theorem SameNodes.refl (s : State) : SameNodes s s := ⟨rfl, rfl⟩

/-- Whose association is kept under a key. -/
def label (s : State) (key : Nat) : Option (NodeId × Nat × String) :=
  (s.associations[key]?).map PfcpAssociation.label

def SameLabels (s t : State) : Prop := ∀ key, t.label key = s.label key

/-- An association for `nodeId` is there, and was there before or is new. -/
inductive SetUp (cfg : Config) (nodeId : NodeId) (s t : State) : Prop where
  | known (present : s.label (cfg.key nodeId) ≠ none) (labels : SameLabels s t)
  | new (id : String) (absent : s.label (cfg.key nodeId) = none)
      (labels : ∀ key, t.label key =
        if key = cfg.key nodeId then some (nodeId, cfg.hashNodeId nodeId, id) else s.label key)

theorem label_of_found {key : Nat} {a : PfcpAssociation} (found : s.associations[key]? = some a) :
    s.label key = some a.label := by
  rw [label, found, Option.map_some]

theorem label_of_insert {key : Nat} (a : PfcpAssociation) {l : NodeId × Nat × String}
    (stored : t.associations = s.associations.insert key a) (own : a.label = l) (other : Nat) :
    t.label other = if other = key then some l else s.label other := by
  unfold label
  rw [stored, ExtTreeMap.getElem?_insert]
  by_cases same : other = key
  · rw [if_pos same, if_pos (by simp [same]), Option.map_some, own]
  · rw [if_neg same, if_neg (by simpa using Ne.symm same)]

/-- An association is written back, and is the same node's. -/
theorem sameLabels_of_insert {key : Nat} {a old : PfcpAssociation}
    (found : s.associations[key]? = some old) (own : a.label = old.label)
    (stored : t.associations = s.associations.insert key a) : SameLabels s t := by
  intro other
  rw [label_of_insert a stored own]
  by_cases same : other = key
  · rw [if_pos same, same, label_of_found found]
  · rw [if_neg same]

theorem label_triggerHeartbeatRequestProcedure (s : State) (key : Nat) (a : PfcpAssociation)
    (other : Nat) : (s.triggerHeartbeatRequestProcedure key a).label other =
      if other = key then some a.label else s.label other :=
  label_of_insert { a with timerHeartbeat := s.timerId + 1 } rfl rfl other

theorem sameLabels_triggerHeartbeatRequestProcedure {key : Nat} {a old : PfcpAssociation}
    (found : s.associations[key]? = some old) (own : a.label = old.label) :
    SameLabels s (s.triggerHeartbeatRequestProcedure key a) := by
  intro other
  rw [label_triggerHeartbeatRequestProcedure]
  by_cases same : other = key
  · rw [if_pos same, same, label_of_found found, own]
  · rw [if_neg same]

theorem SameLabels.trans {u : State} (first : SameLabels s t) (second : SameLabels t u) :
    SameLabels s u :=
  fun key => (second key).trans (first key)

theorem SameNodes.notifyNodeNotReachable (same : SameNodes s t) (hashNodeId : Nat) :
    SameNodes (s.notifyNodeNotReachable hashNodeId) (t.notifyNodeNotReachable hashNodeId) := by
  unfold State.notifyNodeNotReachable
  rw [same.up, same.pending]
  split
  · dsimp only
    split <;> exact ⟨rfl, rfl⟩
  · exact ⟨rfl, rfl⟩

theorem SameNodes.notifyNodeReachable (same : SameNodes s t) (hashNodeId : Nat) :
    SameNodes (s.notifyNodeReachable hashNodeId) (t.notifyNodeReachable hashNodeId) := by
  unfold State.notifyNodeReachable
  rw [same.up, same.pending]
  split <;> exact ⟨rfl, rfl⟩

theorem SameNodes.notifyNodeRestarted (same : SameNodes s t) (hashNodeId : Nat) :
    SameNodes (s.notifyNodeRestarted hashNodeId) (t.notifyNodeRestarted hashNodeId) := by
  unfold State.notifyNodeRestarted
  rw [same.up]
  split
  · exact ⟨same.pending, rfl⟩
  · exact same

theorem SameNodes.admitNode (same : SameNodes s t) (node : PfcpUpNode) (remoteEndpoint : Endpoint)
    (nodeId : NodeId) (stamp : Nat) :
    SameNodes (admitNode cfg s node remoteEndpoint nodeId stamp)
      (admitNode cfg t node remoteEndpoint nodeId stamp) := by
  unfold State.admitNode
  rw [same.up, same.pending]
  exact ⟨rfl, rfl⟩

@[simp] theorem associations_notifyNodeNotReachable (s : State) (hashNodeId : Nat) :
    (s.notifyNodeNotReachable hashNodeId).associations = s.associations := by
  unfold State.notifyNodeNotReachable
  split
  · dsimp only
    split <;> rfl
  · rfl

@[simp] theorem associations_notifyNodeReachable (s : State) (hashNodeId : Nat) :
    (s.notifyNodeReachable hashNodeId).associations = s.associations := by
  unfold State.notifyNodeReachable
  split <;> rfl

@[simp] theorem associations_notifyNodeRestarted (s : State) (hashNodeId : Nat) :
    (s.notifyNodeRestarted hashNodeId).associations = s.associations := by
  unfold State.notifyNodeRestarted
  split <;> rfl

theorem sameLabels_of_associations (same : t.associations = s.associations) : SameLabels s t := by
  intro key
  rw [label, label, same]

/-! ### The cases of a step -/

/-- The cases of a step, up to timers and requests. -/
inductive Effect (cfg : Config) (s : State) (action : Action) (t : State) : Prop where
  | quiet (nodes : SameNodes s t) (labels : SameLabels s t)
  | notReachable (hashNodeId : Nat) (missed : s.misses action = some hashNodeId)
      (nodes : SameNodes (s.notifyNodeNotReachable hashNodeId) t) (labels : SameLabels s t)
  | reachable (hashNodeId : Nat) (reached : s.reaches action = some hashNodeId)
      (nodes : SameNodes (s.notifyNodeReachable hashNodeId) t) (labels : SameLabels s t)
  | restarted (hashNodeId : Nat) (nodes : SameNodes (s.notifyNodeRestarted hashNodeId) t)
      (labels : SameLabels s t)
  | admitted (node : PfcpUpNode) (remoteEndpoint : Endpoint) (nodeId : NodeId) (stamp : Nat)
      (asked : action.setsUp = some (nodeId, stamp)) (found : s.answering nodeId = some node)
      (nodes : SameNodes (admitNode cfg s node remoteEndpoint nodeId stamp) t)
      (setUp : SetUp cfg nodeId s t)
  /-- The PGW has no address on Sx. -/
  | refused (node : PfcpUpNode) (nodeId : NodeId) (stamp : Nat)
      (asked : action.requests = some (nodeId, stamp)) (found : s.answering nodeId = some node)
      (unconfigured : cfg.getPfcpNodeId = none) (nodes : SameNodes s t)
      (setUp : SetUp cfg nodeId s t)

theorem answerAssociation_nodes (cfg : Config) (s : State) (key : Nat) (sa : PfcpAssociation)
    (trxnId : Nat) (remoteEndpoint : Endpoint) (nodeId : NodeId) (restore : Bool) :
    SameNodes s (answerAssociation cfg s key sa trxnId remoteEndpoint nodeId restore).2.1 := by
  unfold answerAssociation
  dsimp only
  split
  · exact ⟨rfl, rfl⟩
  · dsimp only
    split <;> exact ⟨rfl, rfl⟩

theorem answerAssociation_label (cfg : Config) (s : State) (key : Nat) (sa : PfcpAssociation)
    (trxnId : Nat) (remoteEndpoint : Endpoint) (nodeId : NodeId) (restore : Bool) (other : Nat) :
    (answerAssociation cfg s key sa trxnId remoteEndpoint nodeId restore).2.1.label other =
      if other = key then some sa.label else s.label other := by
  unfold answerAssociation
  dsimp only
  split
  · exact label_of_insert (sa.establish remoteEndpoint) rfl rfl other
  · dsimp only
    split
    · rw [label_triggerHeartbeatRequestProcedure]
      by_cases same : other = key
      · rw [if_pos same, if_pos same]
        rfl
      · rw [if_neg same, if_neg same]
        exact (label_of_insert (sa.establish remoteEndpoint) rfl rfl other).trans (if_neg same)
    · exact label_of_insert (sa.establish remoteEndpoint) rfl rfl other

/-- What `add_association` returns: false only without an address. -/
theorem answerAssociation_returns (cfg : Config) (s : State) (key : Nat) (sa : PfcpAssociation)
    (trxnId : Nat) (remoteEndpoint : Endpoint) (nodeId : NodeId) (restore : Bool) :
    (answerAssociation cfg s key sa trxnId remoteEndpoint nodeId restore).1 =
      cfg.getPfcpNodeId.isSome := by
  unfold answerAssociation
  dsimp only
  split <;> rename_i address <;> rw [address] <;> rfl

theorem addAssociation_nodes (cfg : Config) (s : State) (trxnId : Nat) (remoteEndpoint : Endpoint)
    (nodeId : NodeId) (id : String) (stamp : Nat) :
    SameNodes s (addAssociation cfg s trxnId remoteEndpoint nodeId id stamp).2.1 := by
  unfold addAssociation
  split
  · next sa _ =>
    dsimp only
    split
    · exact ⟨rfl, rfl⟩
    · have after := answerAssociation_nodes cfg (s.timerRemove sa.timerHeartbeat)
        (cfg.key nodeId) (sa.restamp stamp) trxnId remoteEndpoint nodeId true
      exact ⟨after.pending, after.up⟩
  · exact answerAssociation_nodes cfg s _ _ trxnId remoteEndpoint nodeId false

theorem addAssociation_setUp (cfg : Config) (s : State) (trxnId : Nat) (remoteEndpoint : Endpoint)
    (nodeId : NodeId) (id : String) (stamp : Nat) :
    SetUp cfg nodeId s (addAssociation cfg s trxnId remoteEndpoint nodeId id stamp).2.1 := by
  unfold addAssociation
  split
  · next sa found =>
      have present : s.label (cfg.key nodeId) ≠ none := by
        rw [label_of_found found]
        exact Option.some_ne_none _
      dsimp only
      split
      · exact .known present fun _ => rfl
      · refine .known present fun key => ?_
        rw [answerAssociation_label]
        by_cases same : key = cfg.key nodeId
        · rw [if_pos same, same, label_of_found found]
          rfl
        · rw [if_neg same]
          rfl
  · next absent =>
      refine .new id ?_ fun key => ?_
      · rw [label, absent, Option.map_none]
      · rw [answerAssociation_label]
        rfl

/-- It returns false only without an address. -/
theorem addAssociation_returns {trxnId : Nat} {remoteEndpoint : Endpoint} {nodeId : NodeId}
    {id : String} {stamp : Nat}
    (refused : (addAssociation cfg s trxnId remoteEndpoint nodeId id stamp).1 ≠ true) :
    cfg.getPfcpNodeId = none := by
  unfold addAssociation at refused
  split at refused
  · dsimp only at refused
    split at refused
    · exact absurd rfl refused
    · rw [answerAssociation_returns] at refused
      simpa using refused
  · rw [answerAssociation_returns] at refused
    simpa using refused

theorem addAnsweredAssociation_nodes (cfg : Config) (s : State) (remoteEndpoint : Endpoint)
    (nodeId : NodeId) (stamp : Nat) :
    SameNodes s (addAnsweredAssociation cfg s remoteEndpoint nodeId stamp).1 := by
  unfold addAnsweredAssociation
  split
  · dsimp only
    split <;> exact ⟨rfl, rfl⟩
  · exact ⟨rfl, rfl⟩

theorem addAnsweredAssociation_setUp (cfg : Config) (s : State) (remoteEndpoint : Endpoint)
    (nodeId : NodeId) (stamp : Nat) :
    SetUp cfg nodeId s (addAnsweredAssociation cfg s remoteEndpoint nodeId stamp).1 := by
  unfold addAnsweredAssociation
  split
  · next sa found =>
      have present : s.label (cfg.key nodeId) ≠ none := by
        rw [label_of_found found]
        exact Option.some_ne_none _
      dsimp only
      split
      · exact .known present fun _ => rfl
      · exact .known present (sameLabels_triggerHeartbeatRequestProcedure
          (s := s.timerRemove sa.timerHeartbeat) found rfl)
  · next absent =>
      refine .new "" ?_ fun key => ?_
      · rw [label, absent, Option.map_none]
      · exact label_triggerHeartbeatRequestProcedure s _ _ key

theorem SetUp.mono {nodeId : NodeId} {u : State} (setUp : SetUp cfg nodeId s t)
    (same : u.associations = t.associations) : SetUp cfg nodeId s u := by
  have labels (key : Nat) : u.label key = t.label key := by
    rw [label, label, same]
  cases setUp with
  | known present kept => exact .known present fun key => (labels key).trans (kept key)
  | new id absent stored => exact .new id absent fun key => (labels key).trans (stored key)

theorem effect_of_associationSetupRequest {trxnId : Nat} {remoteEndpoint : Endpoint}
    {nodeId : NodeId} {stamp : Nat} (asked : action.setsUp = some (nodeId, stamp))
    (requested : action.requests = some (nodeId, stamp)) :
    Effect cfg s action (associationSetupRequest cfg s trxnId remoteEndpoint nodeId stamp).1 := by
  unfold associationSetupRequest
  split
  · split
    · exact .quiet (.refl s) fun _ => rfl
    · next node found =>
        have nodes := addAssociation_nodes cfg s trxnId remoteEndpoint nodeId node.id stamp
        have setUp := addAssociation_setUp cfg s trxnId remoteEndpoint nodeId node.id stamp
        dsimp only
        split
        · exact .admitted node remoteEndpoint nodeId stamp asked found
            (nodes.admitNode node remoteEndpoint nodeId stamp) (setUp.mono rfl)
        · next refused =>
            exact .refused node nodeId stamp requested found (addAssociation_returns refused) nodes
              setUp
  · split <;> exact .quiet (.refl s) fun _ => rfl

theorem effect_of_associationSetupResp {remoteEndpoint : Endpoint} {nodeId : NodeId} {stamp : Nat}
    (asked : action.setsUp = some (nodeId, stamp)) :
    Effect cfg s action (associationSetupResp cfg s remoteEndpoint nodeId stamp).1 := by
  unfold associationSetupResp
  split
  · exact .quiet (.refl s) fun _ => rfl
  · next node found =>
      have nodes := addAnsweredAssociation_nodes cfg s remoteEndpoint nodeId stamp
      have setUp := addAnsweredAssociation_setUp cfg s remoteEndpoint nodeId stamp
      exact .admitted node remoteEndpoint nodeId stamp asked found
        (nodes.admitNode node remoteEndpoint nodeId stamp) (setUp.mono rfl)

theorem withFound_cases (s : State) (found : Option Nat)
    (handle : Nat → PfcpAssociation → State) :
    s.withFound found handle = s ∨
      ∃ key a, found = some key ∧ s.associations[key]? = some a ∧
        s.withFound found handle = handle key a := by
  unfold withFound
  split
  · exact .inl rfl
  · next key =>
      split
      · exact .inl rfl
      · next a stored => exact .inr ⟨key, a, rfl, stored, rfl⟩

theorem effect_of_timeoutHeartbeatRequest {trxnId : Nat} {found : Option Nat} :
    Effect cfg s (.remotePeerNotResponding trxnId found)
      ((s.report trxnId).timeoutHeartbeatRequest found) := by
  unfold timeoutHeartbeatRequest
  cases withFound_cases (s.report trxnId) found _ with
  | inl same =>
      rw [same]
      exact .quiet ⟨rfl, rfl⟩ fun _ => rfl
  | inr handled =>
      obtain ⟨key, a, rfl, stored, same⟩ := handled
      rw [same]
      refine .notReachable a.hashNodeId ?_ ?_ ?_
      · show (s.associations[key]?).map PfcpAssociation.hashNodeId = some a.hashNodeId
        rw [show s.associations[key]? = some a from stored, Option.map_some]
      · have nodes : SameNodes s
            (((s.report trxnId).timerRemove a.timerHeartbeat).triggerHeartbeatRequestProcedure key
              { a with trxnIdHeartbeat := 0 }) := ⟨rfl, rfl⟩
        exact nodes.notifyNodeNotReachable a.hashNodeId
      · have labels := sameLabels_triggerHeartbeatRequestProcedure
          (s := (s.report trxnId).timerRemove a.timerHeartbeat)
          (a := { a with trxnIdHeartbeat := 0 }) stored rfl
        exact labels.trans
          (sameLabels_of_associations (associations_notifyNodeNotReachable _ a.hashNodeId))

theorem effect_of_handleReceiveHeartbeatResponse {trxnId stamp : Nat} {found : Option Nat} :
    Effect cfg s (.heartbeatResponse trxnId (some stamp) found)
      ((s.drop trxnId).handleReceiveHeartbeatResponse stamp found) := by
  unfold handleReceiveHeartbeatResponse
  cases withFound_cases (s.drop trxnId) found _ with
  | inl same =>
      rw [same]
      exact .quiet ⟨rfl, rfl⟩ fun _ => rfl
  | inr handled =>
      obtain ⟨key, a, rfl, stored, same⟩ := handled
      rw [same]
      dsimp only
      have kept : s.associations[key]? = some a := stored
      by_cases current : a.recoveryTimeStamp = stamp
      · rw [if_pos current]
        refine .reachable a.hashNodeId ?_ ?_ ?_
        · simp [reaches, kept, current]
        · have nodes : SameNodes s
              (((s.drop trxnId).timerRemove a.timerHeartbeat).triggerHeartbeatRequestProcedure key
                { a with trxnIdHeartbeat := 0 }) := ⟨rfl, rfl⟩
          exact nodes.notifyNodeReachable a.hashNodeId
        · have labels := sameLabels_triggerHeartbeatRequestProcedure
            (s := (s.drop trxnId).timerRemove a.timerHeartbeat)
            (a := { a with trxnIdHeartbeat := 0 }) stored rfl
          exact labels.trans
            (sameLabels_of_associations (associations_notifyNodeReachable _ a.hashNodeId))
      · rw [if_neg current]
        refine .restarted a.hashNodeId ?_ ?_
        · have nodes : SameNodes s { (s.drop trxnId).timerRemove a.timerHeartbeat with
              associations := s.associations.insert key { a with trxnIdHeartbeat := 0 } } :=
            ⟨rfl, rfl⟩
          exact nodes.notifyNodeRestarted a.hashNodeId
        · exact sameLabels_of_insert (a := { a with trxnIdHeartbeat := 0 }) stored rfl
            (associations_notifyNodeRestarted _ a.hashNodeId)

theorem effect_of_handleReceiveHeartbeatRequest {trxnId stamp : Nat} {remoteEndpoint : Endpoint}
    {found : Option Nat} :
    Effect cfg s (.heartbeatRequest trxnId remoteEndpoint (some stamp) found)
      (s.handleReceiveHeartbeatRequest stamp found) := by
  unfold handleReceiveHeartbeatRequest
  cases withFound_cases s found _ with
  | inl same =>
      rw [same]
      exact .quiet (.refl s) fun _ => rfl
  | inr handled =>
      obtain ⟨key, a, rfl, stored, same⟩ := handled
      rw [same]
      by_cases current : a.recoveryTimeStamp = stamp
      · rw [if_pos current]
        refine .reachable a.hashNodeId ?_ (.refl _) ?_
        · simp [reaches, stored, current]
        · exact sameLabels_of_associations (associations_notifyNodeReachable s a.hashNodeId)
      · rw [if_neg current]
        exact .restarted a.hashNodeId (.refl _)
          (sameLabels_of_associations (associations_notifyNodeRestarted s a.hashNodeId))

theorem effect_of_initiateHeartbeatRequest {arg2User trxnId : Nat}
    (nodes : SameNodes s t) (same : t.associations = s.associations) :
    Effect cfg s action (t.initiateHeartbeatRequest arg2User trxnId).1 := by
  have labels := sameLabels_of_associations same
  unfold initiateHeartbeatRequest
  split
  · exact .quiet nodes labels
  · next a stored =>
      split
      · refine .quiet ⟨nodes.pending, nodes.up⟩ ?_
        have sent := sameLabels_of_insert
          (t := (t.sendHeartbeatRequest (mapKey arg2User) { a with numRetriesTimerHeartbeat := 0 }
            trxnId).1)
          (a := { a with numRetriesTimerHeartbeat := 0, trxnIdHeartbeat := trxnId }) stored rfl rfl
        exact labels.trans sent
      · exact .quiet nodes labels

theorem effect_of_step (taken : step cfg s action = some (next, events)) :
    Effect cfg s action next := by
  cases action with
  | associationSetupRequest trxnId remoteEndpoint nodeId stamp =>
      cases nodeId with
      | none =>
          obtain ⟨rfl, -⟩ := Prod.mk.inj (Option.some.inj taken)
          exact .quiet (.refl s) fun _ => rfl
      | some nodeId =>
          cases stamp with
          | none =>
              obtain ⟨rfl, -⟩ := Prod.mk.inj (Option.some.inj taken)
              exact .quiet (.refl s) fun _ => rfl
          | some stamp =>
              have result := congrArg Prod.fst (Option.some.inj taken)
              dsimp only at result
              rw [← result]
              exact effect_of_associationSetupRequest rfl rfl
  | associationSetupResponse remoteEndpoint nodeId stamp =>
      cases nodeId with
      | none =>
          obtain ⟨rfl, -⟩ := Prod.mk.inj (Option.some.inj taken)
          exact .quiet (.refl s) fun _ => rfl
      | some nodeId =>
          cases stamp with
          | none =>
              obtain ⟨rfl, -⟩ := Prod.mk.inj (Option.some.inj taken)
              exact .quiet (.refl s) fun _ => rfl
          | some stamp =>
              have result := congrArg Prod.fst (Option.some.inj taken)
              dsimp only at result
              rw [← result]
              exact effect_of_associationSetupResp rfl
  | signalTimeOut timerId =>
      simp only [step] at taken
      split at taken
      · obtain ⟨rfl, -⟩ := Prod.mk.inj (Option.some.inj taken)
        exact .quiet ⟨rfl, rfl⟩ fun _ => rfl
      · cases taken
  | timeOut timerId trxnId =>
      simp only [step] at taken
      split at taken
      · cases taken
      · next timer _ =>
          split at taken
          · have result := congrArg Prod.fst (Option.some.inj taken)
            dsimp only at result
            rw [← result]
            exact effect_of_initiateHeartbeatRequest ⟨rfl, rfl⟩ rfl
          · cases taken
  | remotePeerNotResponding trxnId found =>
      simp only [step] at taken
      split at taken
      · obtain ⟨rfl, -⟩ := Prod.mk.inj (Option.some.inj taken)
        exact effect_of_timeoutHeartbeatRequest
      · cases taken
  | procCleanup trxnId =>
      simp only [step] at taken
      split at taken
      · obtain ⟨rfl, -⟩ := Prod.mk.inj (Option.some.inj taken)
        exact .quiet ⟨rfl, rfl⟩ fun _ => rfl
      · cases taken
  | heartbeatResponse trxnId stamp found =>
      simp only [step] at taken
      split at taken
      · cases stamp with
        | none =>
            obtain ⟨rfl, -⟩ := Prod.mk.inj (Option.some.inj taken)
            exact .quiet ⟨rfl, rfl⟩ fun _ => rfl
        | some stamp =>
            obtain ⟨rfl, -⟩ := Prod.mk.inj (Option.some.inj taken)
            exact effect_of_handleReceiveHeartbeatResponse
      · cases taken
  | heartbeatRequest trxnId remoteEndpoint stamp found =>
      simp only [step] at taken
      split at taken
      · cases stamp with
        | none =>
            obtain ⟨rfl, -⟩ := Prod.mk.inj (Option.some.inj taken)
            exact .quiet (.refl s) fun _ => rfl
        | some stamp =>
            obtain ⟨rfl, -⟩ := Prod.mk.inj (Option.some.inj taken)
            exact effect_of_handleReceiveHeartbeatRequest
      · cases taken

/-! ### Notifications -/

/-- What a notification does to the nodes; `missed` and `reached` are the hashes of a node
notified as not reachable and as reachable. -/
inductive Notified (s : State) (missed reached : Option Nat) (t : State) : Prop where
  | nothing (nodes : SameNodes s t)
  | serving (key : Nat) (su su' : PfcpUpNode) (found : s.upNodes[key]? = some su)
      (own : su'.label = su.label) (serves : su.Serving → su'.Serving)
      (pending : t.pendingNodes = s.pendingNodes) (up : t.upNodes = s.upNodes.insert key su')
  | lost (hashNodeId : Nat) (su : PfcpUpNode) (isMissed : missed = some hashNodeId)
      (found : s.upNodes[mapKey hashNodeId]? = some su)
      (gone : su.notifyNodeNotReachable.associationState = .lost)
      (pending : t.pendingNodes = s.pendingNodes ++ [su.notifyNodeNotReachable])
      (up : t.upNodes = s.upNodes.erase (mapKey su.hashNodeId))
  | waiting (hashNodeId : Nat) (notify : PfcpUpNode → PfcpUpNode)
      (absent : s.upNodes[mapKey hashNodeId]? = none)
      (kind : notify = PfcpUpNode.notifyNodeNotReachable ∨
        notify = PfcpUpNode.notifyNodeReachable ∧ reached = some hashNodeId)
      (pending : t.pendingNodes = notifyFirst hashNodeId notify s.pendingNodes)
      (up : t.upNodes = s.upNodes)

theorem notified_notifyNodeNotReachable (s : State) (hashNodeId : Nat) :
    Notified s (some hashNodeId) none (s.notifyNodeNotReachable hashNodeId) := by
  unfold State.notifyNodeNotReachable
  split
  · next su found =>
      dsimp only
      split
      · next gone => exact .lost hashNodeId su rfl found gone rfl rfl
      · next kept =>
          exact .serving _ su su.notifyNodeNotReachable found rfl
            (fun serving => serving.notifyNodeNotReachable kept) rfl rfl
  · next absent => exact .waiting hashNodeId _ absent (.inl rfl) rfl rfl

theorem notified_notifyNodeReachable (s : State) (hashNodeId : Nat) :
    Notified s none (some hashNodeId) (s.notifyNodeReachable hashNodeId) := by
  unfold State.notifyNodeReachable
  split
  · next su found =>
      exact .serving _ su su.notifyNodeReachable found rfl PfcpUpNode.Serving.notifyNodeReachable
        rfl rfl
  · next absent => exact .waiting hashNodeId _ absent (.inr ⟨rfl, rfl⟩) rfl rfl

theorem notified_notifyNodeRestarted (s : State) (hashNodeId : Nat) :
    Notified s none none (s.notifyNodeRestarted hashNodeId) := by
  unfold State.notifyNodeRestarted
  split
  · next su found =>
      exact .serving _ su su.notifyNodeRestarted found rfl PfcpUpNode.Serving.notifyNodeRestarted
        rfl rfl
  · exact .nothing (.refl s)

theorem Notified.congr {u : State} {missed reached : Option Nat}
    (notified : Notified s missed reached u) (nodes : SameNodes u t) :
    Notified s missed reached t := by
  cases notified with
  | nothing same => exact .nothing ⟨nodes.pending.trans same.pending, nodes.up.trans same.up⟩
  | serving key su su' found own serves pending up =>
      exact .serving key su su' found own serves (nodes.pending.trans pending) (nodes.up.trans up)
  | lost hashNodeId su isMissed found gone pending up =>
      exact .lost hashNodeId su isMissed found gone (nodes.pending.trans pending) (nodes.up.trans up)
  | waiting hashNodeId notify absent kind pending up =>
      exact .waiting hashNodeId notify absent kind (nodes.pending.trans pending) (nodes.up.trans up)

/-- The cases of a step in which all notifications are one. -/
inductive Outcome (cfg : Config) (s : State) (action : Action) (t : State) : Prop where
  | notified (missed reached : Option Nat)
      (isMissed : ∀ hashNodeId, missed = some hashNodeId → s.misses action = some hashNodeId)
      (isReached : ∀ hashNodeId, reached = some hashNodeId → s.reaches action = some hashNodeId)
      (nodes : Notified s missed reached t) (labels : SameLabels s t)
  | admitted (node : PfcpUpNode) (remoteEndpoint : Endpoint) (nodeId : NodeId) (stamp : Nat)
      (asked : action.setsUp = some (nodeId, stamp)) (found : s.answering nodeId = some node)
      (nodes : SameNodes (admitNode cfg s node remoteEndpoint nodeId stamp) t)
      (setUp : SetUp cfg nodeId s t)
  | refused (node : PfcpUpNode) (nodeId : NodeId) (stamp : Nat)
      (asked : action.requests = some (nodeId, stamp)) (found : s.answering nodeId = some node)
      (unconfigured : cfg.getPfcpNodeId = none) (nodes : SameNodes s t)
      (setUp : SetUp cfg nodeId s t)

theorem Effect.outcome (effect : Effect cfg s action t) : Outcome cfg s action t := by
  cases effect with
  | quiet nodes labels => exact .notified none none (by simp) (by simp) (.nothing nodes) labels
  | notReachable hashNodeId missed nodes labels =>
      refine .notified (some hashNodeId) none ?_ (by simp)
        ((notified_notifyNodeNotReachable s hashNodeId).congr nodes) labels
      intro other same
      rw [missed, same]
  | reachable hashNodeId reached nodes labels =>
      refine .notified none (some hashNodeId) (by simp) ?_
        ((notified_notifyNodeReachable s hashNodeId).congr nodes) labels
      intro other same
      rw [reached, same]
  | restarted hashNodeId nodes labels =>
      exact .notified none none (by simp) (by simp)
        ((notified_notifyNodeRestarted s hashNodeId).congr nodes) labels
  | admitted node remoteEndpoint nodeId stamp asked found nodes setUp =>
      exact .admitted node remoteEndpoint nodeId stamp asked found nodes setUp
  | refused node nodeId stamp asked found unconfigured nodes setUp =>
      exact .refused node nodeId stamp asked found unconfigured nodes setUp

theorem outcome_of_step (taken : step cfg s action = some (next, events)) :
    Outcome cfg s action next :=
  (effect_of_step taken).outcome

/-! ### Keys -/

/-- Nodes and associations are kept under their keys, and a node in service has an
association. -/
structure Keyed (cfg : Config) (s : State) : Prop where
  association : ∀ key l, s.label key = some l → l.2.1 = cfg.hashNodeId l.1 ∧ key = mapKey l.2.1
  node : ∀ (key : Nat) (su : PfcpUpNode), s.upNodes[key]? = some su →
    su.hashNodeId = cfg.hashNodeId su.nodeId ∧ key = mapKey su.hashNodeId
  serving : ∀ (key : Nat) (su : PfcpUpNode), s.upNodes[key]? = some su → su.Serving
  associated : ∀ (key : Nat) (su : PfcpUpNode), s.upNodes[key]? = some su → s.label key ≠ none

theorem keyed_init (cfg : Config) : Keyed cfg (init cfg) where
  association key l labelled := by simp [label, init] at labelled
  node key su found := by simp [init] at found
  serving key su found := by simp [init] at found
  associated key su found := by simp [init] at found

theorem Keyed.key_eq (keyed : Keyed cfg s) {key : Nat} {su : PfcpUpNode}
    (found : s.upNodes[key]? = some su) : key = cfg.key su.nodeId := by
  obtain ⟨hashed, placed⟩ := keyed.node key su found
  rw [placed, hashed]
  rfl

/-- The nodes in service after a notification were there before. -/
theorem Notified.up_of_up {missed reached : Option Nat} (notified : Notified s missed reached t)
    {key : Nat} {su' : PfcpUpNode} (found : t.upNodes[key]? = some su') :
    ∃ su, s.upNodes[key]? = some su ∧ su'.label = su.label ∧ (su.Serving → su'.Serving) := by
  cases notified with
  | nothing nodes =>
      rw [nodes.up] at found
      exact ⟨su', found, rfl, id⟩
  | serving own su new stored same serves _ up =>
      rw [up] at found
      cases getElem?_insert_eq_some.mp found with
      | inl here =>
          rw [here.1, here.2]
          exact ⟨su, stored, same, serves⟩
      | inr there => exact ⟨su', there.2, rfl, id⟩
  | lost _ su _ _ _ _ up =>
      rw [up] at found
      exact ⟨su', (getElem?_erase_eq_some.mp found).2, rfl, id⟩
  | waiting _ _ _ _ _ up =>
      rw [up] at found
      exact ⟨su', found, rfl, id⟩

theorem Keyed.notified {missed reached : Option Nat} (keyed : Keyed cfg s)
    (notified : Notified s missed reached t) (labels : SameLabels s t) :
    Keyed cfg t where
  association key l labelled := keyed.association key l ((labels key).symm.trans labelled)
  node key su' found := by
    obtain ⟨su, before, same, -⟩ := notified.up_of_up found
    obtain ⟨-, nodeId, hashNodeId⟩ := PfcpUpNode.label_eq same
    rw [nodeId, hashNodeId]
    exact keyed.node key su before
  serving key su' found := by
    obtain ⟨su, before, -, serves⟩ := notified.up_of_up found
    exact serves (keyed.serving key su before)
  associated key su' found := by
    obtain ⟨su, before, -⟩ := notified.up_of_up found
    rw [labels key]
    exact keyed.associated key su before

theorem SetUp.present {nodeId : NodeId} (setUp : SetUp cfg nodeId s t) :
    t.label (cfg.key nodeId) ≠ none := by
  cases setUp with
  | known present labels =>
      rw [labels]
      exact present
  | new id _ labels =>
      rw [labels, if_pos rfl]
      exact Option.some_ne_none _

/-- No label is lost or changed. -/
theorem SetUp.label_of_label {nodeId : NodeId} (setUp : SetUp cfg nodeId s t) {key : Nat}
    {l : NodeId × Nat × String} (labelled : s.label key = some l) : t.label key = some l := by
  cases setUp with
  | known _ labels => rw [labels, labelled]
  | new id absent labels =>
      rw [labels, if_neg ?_, labelled]
      rintro rfl
      rw [absent] at labelled
      cases labelled

theorem SetUp.keyed {nodeId : NodeId} (setUp : SetUp cfg nodeId s t)
    (keyed : ∀ key l, s.label key = some l → l.2.1 = cfg.hashNodeId l.1 ∧ key = mapKey l.2.1)
    {key : Nat} {l : NodeId × Nat × String} (labelled : t.label key = some l) :
    l.2.1 = cfg.hashNodeId l.1 ∧ key = mapKey l.2.1 := by
  cases setUp with
  | known _ labels => exact keyed key l ((labels key).symm.trans labelled)
  | new id _ labels =>
      rw [labels] at labelled
      split at labelled
      · next same =>
          obtain rfl := Option.some.inj labelled
          exact ⟨rfl, same⟩
      · exact keyed key l labelled

theorem ne_none_of_label {key : Nat} {l : NodeId × Nat × String} (labelled : s.label key = some l) :
    s.label key ≠ none := by
  rw [labelled]
  exact Option.some_ne_none l

theorem Keyed.refused {nodeId : NodeId} (keyed : Keyed cfg s) (nodes : SameNodes s t)
    (setUp : SetUp cfg nodeId s t) : Keyed cfg t where
  association key l labelled := setUp.keyed keyed.association labelled
  node key su found := keyed.node key su (by rw [← nodes.up]; exact found)
  serving key su found := keyed.serving key su (by rw [← nodes.up]; exact found)
  associated key su found := by
    rw [nodes.up] at found
    obtain ⟨l, labelled⟩ := Option.ne_none_iff_exists'.mp (keyed.associated key su found)
    exact ne_none_of_label (setUp.label_of_label labelled)

/-- A node in service after an admission was there before or is the one admitted. -/
theorem up_of_admit {node su : PfcpUpNode} {remoteEndpoint : Endpoint} {nodeId : NodeId}
    {stamp key : Nat}
    (nodes : SameNodes (admitNode cfg s node remoteEndpoint nodeId stamp) t)
    (found : t.upNodes[key]? = some su) :
    s.upNodes[key]? = some su ∨ (key = cfg.key nodeId ∧ s.upNodes[key]? = none ∧
      su = node.associate cfg nodeId remoteEndpoint stamp) := by
  rw [nodes.up] at found
  cases taken : s.upNodes[cfg.key nodeId]? with
  | none =>
      rw [State.admitNode, insertIfNew_of_absent taken] at found
      cases getElem?_insert_eq_some.mp found with
      | inl here =>
          rw [here.1, here.2]
          exact .inr ⟨rfl, taken, rfl⟩
      | inr there => exact .inl there.2
  | some old =>
      rw [State.admitNode, insertIfNew_of_present taken] at found
      exact .inl found

theorem Keyed.admitted {node : PfcpUpNode} {remoteEndpoint : Endpoint} {nodeId : NodeId}
    {stamp : Nat} (keyed : Keyed cfg s)
    (nodes : SameNodes (admitNode cfg s node remoteEndpoint nodeId stamp) t)
    (setUp : SetUp cfg nodeId s t) : Keyed cfg t where
  association key l labelled := setUp.keyed keyed.association labelled
  node key su found := by
    cases up_of_admit nodes found with
    | inl old => exact keyed.node key su old
    | inr new =>
        rw [new.1, new.2.2]
        exact ⟨rfl, rfl⟩
  serving key su found := by
    cases up_of_admit nodes found with
    | inl old => exact keyed.serving key su old
    | inr new =>
        rw [new.2.2]
        exact PfcpUpNode.serving_associate cfg nodeId remoteEndpoint stamp node
  associated key su found := by
    cases up_of_admit nodes found with
    | inl old =>
        obtain ⟨l, labelled⟩ := Option.ne_none_iff_exists'.mp (keyed.associated key su old)
        exact ne_none_of_label (setUp.label_of_label labelled)
    | inr new =>
        rw [new.1]
        exact setUp.present

theorem Keyed.outcome (keyed : Keyed cfg s) (outcome : Outcome cfg s action t) :
    Keyed cfg t := by
  cases outcome with
  | notified missed reached _ _ nodes labels => exact keyed.notified nodes labels
  | admitted node remoteEndpoint nodeId stamp _ _ nodes setUp => exact keyed.admitted nodes setUp
  | refused node nodeId stamp _ _ _ nodes setUp => exact keyed.refused nodes setUp

theorem Keyed.step (keyed : Keyed cfg s) (taken : State.step cfg s action = some (next, events)) :
    Keyed cfg next :=
  keyed.outcome (outcome_of_step taken)

end State

end OpenairSpgwc.Sxab
