import OpenairSpgwc.Sxab.Effects
import OpenairSpgwc.Sxab.Selection

/-!
Contract: where the configured UP nodes are, `pending_nodes_` or `up_nodes_`.

The PGW never asks for an association: `WAIT_FOR_UPF_CONVERGENCE` leaves that to the UP
nodes. A node is admitted by the first setup message that it answers to, and two things
go wrong there. A node that was never associated has the identifier of the type
IPv4 address with the address zero, and a message with that identifier admits the first
such node whoever sent it. A lost node that is notified as reachable while it waits is
`kAssocKnownPossible`, a state in which it answers to no message.

Owns: that in every run in which neither happens, and no association is made without an
address, each node is in one of the two places, no node takes the place of another, and a
lost node that asks again is admitted.
-/

namespace OpenairSpgwc.Sxab

open Foundation
open OpenairSpgwc.Common
open Std (ExtTreeMap)

/-- A setup response: the PGW never asks for one. -/
def Action.unasked : Action → Bool
  | .associationSetupResponse .. => true
  | _ => false

theorem Action.requests_of_setsUp {action : Action} {asked : NodeId × Nat}
    (own : action.unasked = false) (sets : action.setsUp = some asked) :
    action.requests = some asked := by
  unfold setsUp at sets
  split at sets
  · exact sets
  · cases own
  · cases sets

/-! ### The list -/

theorem map_notifyFirst {β : Type*} {g : PfcpUpNode → β} {hashNodeId : Nat}
    {notify : PfcpUpNode → PfcpUpNode} (same : ∀ node, g (notify node) = g node)
    (nodes : List PfcpUpNode) : (notifyFirst hashNodeId notify nodes).map g = nodes.map g := by
  induction nodes with
  | nil => rfl
  | cons node rest inductionHypothesis =>
      unfold notifyFirst
      split
      · rw [List.map_cons, List.map_cons, same]
      · rw [List.map_cons, List.map_cons, inductionHypothesis]

/-- A node after a notification was there before, or is the first with the hash. -/
theorem mem_notifyFirst {hashNodeId : Nat} {notify : PfcpUpNode → PfcpUpNode} {node : PfcpUpNode}
    {nodes : List PfcpUpNode} (member : node ∈ notifyFirst hashNodeId notify nodes) :
    node ∈ nodes ∨ ∃ old ∈ nodes.find? fun node => node.hashNodeId = hashNodeId,
      node = notify old := by
  induction nodes with
  | nil => cases member
  | cons first rest inductionHypothesis =>
      unfold notifyFirst at member
      split at member
      · next here =>
          rcases List.mem_cons.mp member with new | old
          · refine .inr ⟨first, ?_, new⟩
            rw [List.find?_cons_of_pos (by simpa using here)]
            rfl
          · exact .inl (List.mem_cons_of_mem _ old)
      · next elsewhere =>
          rcases List.mem_cons.mp member with old | later
          · exact .inl (List.mem_cons.mpr (.inl old))
          · rcases inductionHypothesis later with old | ⟨old, found, new⟩
            · exact .inl (List.mem_cons_of_mem _ old)
            · refine .inr ⟨old, ?_, new⟩
              rw [List.find?_cons_of_neg (by simpa using elsewhere)]
              exact found

namespace State

variable {cfg : Config} {s t next : State} {action : Action} {events : List Event} {id : String}
  {key : Nat} {records : List (StepRecord State Action Event)}

/-- The node is in `pending_nodes_`. -/
def Waits (id : String) (s : State) : Prop := ∃ node ∈ s.pendingNodes, node.id = id

/-- The node is in `up_nodes_`. -/
def Serves (id : String) (s : State) : Prop :=
  ∃ (key : Nat) (su : PfcpUpNode), s.upNodes[key]? = some su ∧ su.id = id

instance : DecidablePred (Waits id) := fun s =>
  inferInstanceAs (Decidable (∃ node ∈ s.pendingNodes, node.id = id))

/-- The condition on a step: a request that a node answers names that node, an association
that is made can be answered, and no lost node is notified as reachable. -/
structure KeepsBooks (cfg : Config) (s : State) (action : Action) : Prop where
  named : ∀ request ∈ action.requests, ∀ node ∈ s.answering request.1,
    request.1.isFqdn node.id = true
  answered : ∀ request ∈ action.requests, s.answering request.1 ≠ none →
    s.label (cfg.key request.1) = none → cfg.getPfcpNodeId ≠ none
  unrevived : ∀ hashNodeId ∈ s.reaches action, s.upNodes[mapKey hashNodeId]? = none →
    ∀ node ∈ s.pendingNodes.find? fun node => node.hashNodeId = hashNodeId,
      node.associationState ≠ .lost

instance : Decidable (KeepsBooks cfg s action) :=
  decidable_of_iff (_ ∧ _ ∧ _) ⟨fun all => ⟨all.1, all.2.1, all.2.2⟩,
    fun keeps => ⟨keeps.named, keeps.answered, keeps.unrevived⟩⟩

/-- A node that waits was never associated, or is lost. -/
inductive Awaiting (node : PfcpUpNode) : Prop where
  | never (state : node.associationState = .null) (nodeId : node.nodeId = {})
  | lost (state : node.associationState = .lost) (named : node.nodeId.isFqdn node.id = true)

theorem Awaiting.notifyNodeNotReachable {node : PfcpUpNode} (awaiting : Awaiting node) :
    Awaiting node.notifyNodeNotReachable := by
  cases awaiting with
  | never state nodeId =>
      refine .never ?_ nodeId
      simp [PfcpUpNode.notifyNodeNotReachable, PfcpUpNode.failsForGood, state]
  | lost state named =>
      refine .lost ?_ named
      simp [PfcpUpNode.notifyNodeNotReachable, PfcpUpNode.failsForGood, state]

theorem Awaiting.notifyNodeReachable {node : PfcpUpNode} (awaiting : Awaiting node)
    (kept : node.associationState ≠ .lost) : Awaiting node.notifyNodeReachable := by
  cases awaiting with
  | never state nodeId =>
      refine .never ?_ nodeId
      simp [PfcpUpNode.notifyNodeReachable, state]
  | lost state named => exact absurd state kept

/-- The nodes are the configured ones, each in one place, and go by their own names. -/
structure Tidy (cfg : Config) (s : State) : Prop where
  keyed : Keyed cfg s
  waiting : ∀ node ∈ s.pendingNodes, node.id ∈ cfg.ids ∧ Awaiting node
  serving : ∀ (key : Nat) (su : PfcpUpNode), s.upNodes[key]? = some su →
    su.id ∈ cfg.ids ∧ su.nodeId.isFqdn su.id = true
  distinct : (s.pendingNodes.map PfcpUpNode.id).Nodup
  apart : ∀ id, Waits id s → ¬Serves id s
  present : ∀ id ∈ cfg.ids, Waits id s ∨ Serves id s
  labelled : ∀ key l, s.label key = some l → ∃ id ∈ cfg.ids, l.1.isFqdn id = true
  configured : ∀ key, s.label key ≠ none → cfg.getPfcpNodeId ≠ none

theorem waits_init (cfg : Config) : Waits id (init cfg) ↔ id ∈ cfg.ids := by
  simp [Waits, init]

theorem not_serves_init (cfg : Config) : ¬Serves id (init cfg) := by
  rintro ⟨key, su, found, -⟩
  simp [init] at found

theorem tidy_init (cfg : Config) : Tidy cfg (init cfg) where
  keyed := keyed_init cfg
  waiting node member := by
    obtain ⟨id, configured, rfl⟩ := List.mem_map.mp member
    refine ⟨?_, .never rfl rfl⟩
    simpa using configured
  serving key su found := by simp [init] at found
  distinct := by
    rw [init, List.map_map]
    show (List.map (fun id => id) _).Nodup
    rw [List.map_id']
    exact (List.perm_insertionSort _ _).nodup_iff.mpr (List.nodup_dedup _)
  apart id _ := not_serves_init cfg
  present id configured := .inl ((waits_init cfg).mpr configured)
  labelled key l labelled := by simp [label, init] at labelled
  configured key labelled := by simp [label, init] at labelled

/-- The key of a node in service is that of its name. -/
theorem Tidy.key_eq (tidy : Tidy cfg s) {su : PfcpUpNode} (found : s.upNodes[key]? = some su) :
    key = cfg.keyOf su.id := by
  rw [tidy.keyed.key_eq found, Config.key_of_isFqdn (tidy.serving key su found).2]

/-! ### Notifications -/

theorem Notified.serves_of_serves {missed reached : Option Nat}
    (notified : Notified s missed reached t) (serves : Serves id t) : Serves id s := by
  obtain ⟨key, su', found, own⟩ := serves
  obtain ⟨su, before, same, -⟩ := notified.up_of_up found
  exact ⟨key, su, before, (PfcpUpNode.label_eq same).1.symm.trans own⟩

theorem Tidy.same (tidy : Tidy cfg s) (nodes : SameNodes s t) (labels : SameLabels s t) :
    Tidy cfg t where
  keyed := tidy.keyed.notified (show Notified s none none t from .nothing nodes) labels
  waiting := by
    rw [nodes.pending]
    exact tidy.waiting
  serving := by
    rw [nodes.up]
    exact tidy.serving
  distinct := by
    rw [nodes.pending]
    exact tidy.distinct
  apart := by
    unfold Waits Serves
    rw [nodes.pending, nodes.up]
    exact tidy.apart
  present := by
    unfold Waits Serves
    rw [nodes.pending, nodes.up]
    exact tidy.present
  labelled key l found := tidy.labelled key l ((labels key).symm.trans found)
  configured key found := tidy.configured key (by rwa [labels key] at found)

theorem waits_iff : Waits id s ↔ id ∈ s.pendingNodes.map PfcpUpNode.id :=
  List.mem_map.symm

theorem Tidy.notifiedServing (tidy : Tidy cfg s) {su su' : PfcpUpNode}
    (found : s.upNodes[key]? = some su) (own : su'.label = su.label)
    (serves : su.Serving → su'.Serving) (pending : t.pendingNodes = s.pendingNodes)
    (up : t.upNodes = s.upNodes.insert key su') (labels : SameLabels s t) : Tidy cfg t := by
  have notified : Notified s none none t := .serving key su su' found own serves pending up
  have waits (id : String) : Waits id t ↔ Waits id s := by rw [waits_iff, pending, ← waits_iff]
  obtain ⟨sameId, sameNodeId, -⟩ := PfcpUpNode.label_eq own
  exact {
    keyed := tidy.keyed.notified notified labels
    waiting := by
      rw [pending]
      exact tidy.waiting
    serving := fun other new after => by
      obtain ⟨old, before, same, -⟩ := notified.up_of_up after
      obtain ⟨oldId, oldNodeId, -⟩ := PfcpUpNode.label_eq same
      rw [oldId, oldNodeId]
      exact tidy.serving other old before
    distinct := by
      rw [pending]
      exact tidy.distinct
    apart := fun id waiting serving =>
      tidy.apart id ((waits id).mp waiting) (notified.serves_of_serves serving)
    present := fun id configured => by
      rcases tidy.present id configured with waiting | ⟨other, old, before, rfl⟩
      · exact .inl ((waits id).mpr waiting)
      · rw [Serves, up]
        by_cases here : other = key
        · rw [here, found, Option.some.injEq] at before
          refine .inr ⟨key, su', ExtTreeMap.getElem?_insert_self, ?_⟩
          rw [sameId, before]
        · exact .inr ⟨other, old, getElem?_insert_eq_some.mpr (.inr ⟨here, before⟩), rfl⟩
    labelled := fun other l after => tidy.labelled other l ((labels other).symm.trans after)
    configured := fun other after => tidy.configured other (by rwa [labels other] at after) }

/-- A node in service is lost and waits. -/
theorem Tidy.notifiedLost (tidy : Tidy cfg s) {hashNodeId : Nat} {su : PfcpUpNode}
    (found : s.upNodes[mapKey hashNodeId]? = some su)
    (gone : su.notifyNodeNotReachable.associationState = .lost)
    (pending : t.pendingNodes = s.pendingNodes ++ [su.notifyNodeNotReachable])
    (up : t.upNodes = s.upNodes.erase (mapKey su.hashNodeId)) (labels : SameLabels s t) :
    Tidy cfg t := by
  have notified : Notified s (some hashNodeId) none t :=
    .lost hashNodeId su rfl found gone pending up
  obtain ⟨known, named⟩ := tidy.serving _ su found
  have placed : mapKey hashNodeId = mapKey su.hashNodeId := (tidy.keyed.node _ su found).2
  have waits (id : String) : Waits id t ↔ Waits id s ∨ id = su.id := by
    rw [waits_iff, pending, List.map_append, List.mem_append, ← waits_iff]
    exact or_congr_right List.mem_singleton
  exact {
    keyed := tidy.keyed.notified notified labels
    waiting := fun node member => by
      rw [pending] at member
      rcases List.mem_append.mp member with old | new
      · exact tidy.waiting node old
      · rw [List.mem_singleton.mp new]
        exact ⟨known, .lost gone named⟩
    serving := fun other new after => by
      obtain ⟨old, before, same, -⟩ := notified.up_of_up after
      obtain ⟨oldId, oldNodeId, -⟩ := PfcpUpNode.label_eq same
      rw [oldId, oldNodeId]
      exact tidy.serving other old before
    distinct := by
      rw [pending, List.map_append]
      refine List.nodup_append.mpr ⟨tidy.distinct, List.nodup_singleton _, ?_⟩
      rintro _ waiting _ new rfl
      rw [List.map_singleton, List.mem_singleton] at new
      refine tidy.apart su.id ?_ ⟨_, su, found, rfl⟩
      rw [waits_iff]
      rw [new] at waiting
      exact waiting
    apart := fun id waiting ⟨other, node, after, own⟩ => by
      rw [up] at after
      obtain ⟨elsewhere, before⟩ := getElem?_erase_eq_some.mp after
      rcases (waits id).mp waiting with waited | rfl
      · exact tidy.apart id waited ⟨other, node, before, own⟩
      · refine elsewhere ?_
        rw [tidy.key_eq before, own, ← tidy.key_eq found, placed]
    present := fun id configured => by
      rcases tidy.present id configured with waited | ⟨other, node, before, rfl⟩
      · exact .inl ((waits id).mpr (.inl waited))
      · by_cases here : other = mapKey su.hashNodeId
        · rw [here, ← placed, found, Option.some.injEq] at before
          refine .inl ((waits node.id).mpr (.inr ?_))
          rw [before]
        · refine .inr ⟨other, node, ?_, rfl⟩
          rw [up]
          exact getElem?_erase_eq_some.mpr ⟨here, before⟩
    labelled := fun other l after => tidy.labelled other l ((labels other).symm.trans after)
    configured := fun other after => tidy.configured other (by rwa [labels other] at after) }

/-- A node that waits is notified and goes on waiting. -/
theorem Tidy.notifiedWaiting (tidy : Tidy cfg s) (keeps : KeepsBooks cfg s action)
    {reached : Option Nat} {hashNodeId : Nat} {notify : PfcpUpNode → PfcpUpNode}
    (isReached : ∀ hashNodeId, reached = some hashNodeId → s.reaches action = some hashNodeId)
    (absent : s.upNodes[mapKey hashNodeId]? = none)
    (kind : notify = PfcpUpNode.notifyNodeNotReachable ∨
      notify = PfcpUpNode.notifyNodeReachable ∧ reached = some hashNodeId)
    (pending : t.pendingNodes = notifyFirst hashNodeId notify s.pendingNodes)
    (up : t.upNodes = s.upNodes) (labels : SameLabels s t) : Tidy cfg t := by
  have own (node : PfcpUpNode) : (notify node).id = node.id := by
    rcases kind with rfl | ⟨rfl, -⟩ <;> rfl
  have ids : t.pendingNodes.map PfcpUpNode.id = s.pendingNodes.map PfcpUpNode.id := by
    rw [pending, map_notifyFirst own]
  have waits (id : String) : Waits id t ↔ Waits id s := by rw [waits_iff, ids, ← waits_iff]
  have serves (id : String) : Serves id t ↔ Serves id s := by rw [Serves, Serves, up]
  exact {
    keyed := by
      have notified : Notified s none reached t :=
        .waiting hashNodeId notify absent kind pending up
      exact tidy.keyed.notified notified labels
    waiting := fun node member => by
      rw [pending] at member
      rcases mem_notifyFirst member with old | ⟨old, first, rfl⟩
      · exact tidy.waiting node old
      · obtain ⟨known, awaiting⟩ := tidy.waiting old (List.mem_of_find?_eq_some first)
        rw [own]
        refine ⟨known, ?_⟩
        rcases kind with rfl | ⟨rfl, reachable⟩
        · exact awaiting.notifyNodeNotReachable
        · exact awaiting.notifyNodeReachable
            (keeps.unrevived hashNodeId (isReached hashNodeId reachable) absent old first)
    serving := by
      rw [up]
      exact tidy.serving
    distinct := by
      rw [ids]
      exact tidy.distinct
    apart := fun id waiting serving =>
      tidy.apart id ((waits id).mp waiting) ((serves id).mp serving)
    present := fun id configured =>
      (tidy.present id configured).imp (waits id).mpr (serves id).mpr
    labelled := fun other l after => tidy.labelled other l ((labels other).symm.trans after)
    configured := fun other after => tidy.configured other (by rwa [labels other] at after) }

theorem Tidy.notified (tidy : Tidy cfg s) (keeps : KeepsBooks cfg s action)
    {missed reached : Option Nat}
    (isReached : ∀ hashNodeId, reached = some hashNodeId → s.reaches action = some hashNodeId)
    (notified : Notified s missed reached t) (labels : SameLabels s t) : Tidy cfg t := by
  cases notified with
  | nothing nodes => exact tidy.same nodes labels
  | serving key su su' found own serves pending up =>
      exact tidy.notifiedServing found own serves pending up labels
  | lost hashNodeId su _ found gone pending up =>
      exact tidy.notifiedLost found gone pending up labels
  | waiting hashNodeId notify absent kind pending up =>
      exact tidy.notifiedWaiting keeps isReached absent kind pending up labels

/-! ### Admission -/

/-- `std::hash` tells the configured nodes apart by its low 32 bits. -/
def HashesDiffer (cfg : Config) : Prop :=
  ∀ id ∈ cfg.ids, ∀ other ∈ cfg.ids, cfg.keyOf id = cfg.keyOf other → id = other

instance : Decidable (HashesDiffer cfg) :=
  inferInstanceAs
    (Decidable (∀ id ∈ cfg.ids, ∀ other ∈ cfg.ids, cfg.keyOf id = cfg.keyOf other → id = other))

/-- Nothing is stored under the key of a node that waits. -/
theorem Tidy.free (differ : HashesDiffer cfg) (tidy : Tidy cfg s) (waits : Waits id s)
    {nodeId : NodeId} (named : nodeId.isFqdn id = true) : s.upNodes[cfg.key nodeId]? = none := by
  by_contra taken
  obtain ⟨su, there⟩ := Option.ne_none_iff_exists'.mp taken
  refine tidy.apart id waits ⟨_, su, there, ?_⟩
  obtain ⟨node, member, rfl⟩ := waits
  refine differ _ (tidy.serving _ su there).1 _ (tidy.waiting node member).1 ?_
  rw [← tidy.key_eq there, Config.key_of_isFqdn named]

theorem exists_of_answering {nodeId : NodeId} {node : PfcpUpNode}
    (found : s.answering nodeId = some node) : ∃ earlier later,
      s.pendingNodes = earlier ++ node :: later ∧
        s.pendingNodes.eraseP (PfcpUpNode.answersTo nodeId) = earlier ++ later := by
  obtain ⟨answers, earlier, later, shape, before⟩ := List.find?_eq_some_iff_append.mp found
  refine ⟨earlier, later, shape, ?_⟩
  rw [shape, List.eraseP_append_right _ fun other member => by simpa using before other member,
    List.eraseP_cons_of_pos answers]

theorem Tidy.admitted (differ : HashesDiffer cfg) (tidy : Tidy cfg s)
    (keeps : KeepsBooks cfg s action) {node : PfcpUpNode} {remoteEndpoint : Endpoint}
    {nodeId : NodeId} {stamp : Nat} (asked : action.requests = some (nodeId, stamp))
    (found : s.answering nodeId = some node)
    (nodes : SameNodes (admitNode cfg s node remoteEndpoint nodeId stamp) t)
    (setUp : SetUp cfg nodeId s t) : Tidy cfg t := by
  have named : nodeId.isFqdn node.id = true := keeps.named (nodeId, stamp) asked node found
  obtain ⟨earlier, later, shape, erased⟩ := exists_of_answering found
  have member : node ∈ s.pendingNodes := by
    rw [shape]
    exact List.mem_append_right _ (List.mem_cons_self ..)
  have known : node.id ∈ cfg.ids := (tidy.waiting node member).1
  have free : s.upNodes[cfg.key nodeId]? = none := tidy.free differ ⟨node, member, rfl⟩ named
  have pending : t.pendingNodes = earlier ++ later := nodes.pending.trans erased
  have up : t.upNodes = s.upNodes.insert (cfg.key nodeId)
      (node.associate cfg nodeId remoteEndpoint stamp) := by
    rw [nodes.up, State.admitNode, insertIfNew_of_absent free]
  have ids : s.pendingNodes.map PfcpUpNode.id =
      earlier.map PfcpUpNode.id ++ node.id :: later.map PfcpUpNode.id := by
    rw [shape, List.map_append, List.map_cons]
  have distinct := tidy.distinct
  rw [ids] at distinct
  have waits (id : String) : Waits id s ↔ id = node.id ∨ Waits id t := by
    rw [waits_iff, waits_iff, ids, pending, List.map_append, List.mem_append, List.mem_append,
      List.mem_cons]
    tauto
  have gone : ¬Waits node.id t := by
    rw [waits_iff, pending, List.map_append]
    exact (List.nodup_middle.mp distinct).notMem
  exact {
    keyed := tidy.keyed.admitted nodes setUp
    waiting := fun other remains => by
      refine tidy.waiting other ?_
      rw [pending] at remains
      rw [shape]
      rcases List.mem_append.mp remains with before | after
      · exact List.mem_append_left _ before
      · exact List.mem_append_right _ (List.mem_cons_of_mem _ after)
    serving := fun key su after => by
      rw [up] at after
      rcases getElem?_insert_eq_some.mp after with ⟨-, rfl⟩ | ⟨-, before⟩
      · exact ⟨known, named⟩
      · exact tidy.serving key su before
    distinct := by
      rw [pending, List.map_append]
      exact (List.nodup_middle.mp distinct).of_cons
    apart := fun id waiting serves => by
      obtain ⟨key, su, after, own⟩ := serves
      rw [up] at after
      rcases getElem?_insert_eq_some.mp after with ⟨-, rfl⟩ | ⟨-, before⟩
      · refine gone ?_
        rw [show node.id = id from own]
        exact waiting
      · exact tidy.apart id ((waits id).mpr (.inr waiting)) ⟨key, su, before, own⟩
    present := fun id configured => by
      rw [Serves, up]
      rcases tidy.present id configured with waited | ⟨key, su, before, own⟩
      · rcases (waits id).mp waited with rfl | waiting
        · exact .inr ⟨cfg.key nodeId, _, ExtTreeMap.getElem?_insert_self, rfl⟩
        · exact .inl waiting
      · refine .inr ⟨key, su, getElem?_insert_eq_some.mpr (.inr ⟨?_, before⟩), own⟩
        rintro rfl
        rw [free] at before
        cases before
    labelled := fun key l after => by
      cases setUp with
      | known _ labels => exact tidy.labelled key l ((labels key).symm.trans after)
      | new id _ labels =>
          rw [labels] at after
          split at after
          · rw [← Option.some.inj after]
            exact ⟨node.id, known, named⟩
          · exact tidy.labelled key l after
    configured := fun key after => by
      cases setUp with
      | known present labels => exact tidy.configured (cfg.key nodeId) present
      | new id absent labels =>
          refine keeps.answered (nodeId, stamp) asked ?_ absent
          rw [found]
          exact Option.some_ne_none node }

theorem Tidy.refused (tidy : Tidy cfg s) (keeps : KeepsBooks cfg s action) {node : PfcpUpNode}
    {nodeId : NodeId} {stamp : Nat} (asked : action.requests = some (nodeId, stamp))
    (found : s.answering nodeId = some node) (unconfigured : cfg.getPfcpNodeId = none)
    (nodes : SameNodes s t) (setUp : SetUp cfg nodeId s t) : Tidy cfg t := by
  cases setUp with
  | known _ labels => exact tidy.same nodes labels
  | new id absent _ =>
      have answers : s.answering nodeId ≠ none := by
        rw [found]
        exact Option.some_ne_none node
      exact absurd unconfigured (keeps.answered (nodeId, stamp) asked answers absent)

theorem Tidy.step (differ : HashesDiffer cfg) (tidy : Tidy cfg s) (own : action.unasked = false)
    (keeps : KeepsBooks cfg s action) (taken : State.step cfg s action = some (next, events)) :
    Tidy cfg next := by
  cases outcome_of_step taken with
  | notified missed reached _ isReached nodes labels =>
      exact tidy.notified keeps isReached nodes labels
  | admitted node remoteEndpoint nodeId stamp asked found nodes setUp =>
      exact tidy.admitted differ keeps (Action.requests_of_setsUp own asked) found nodes setUp
  | refused node nodeId stamp asked found unconfigured nodes setUp =>
      exact tidy.refused keeps asked found unconfigured nodes setUp

/-! ### Asking again -/

/-- A node that waits and asks by its name is the one that answers. -/
theorem Tidy.answering (tidy : Tidy cfg s) {nodeId : NodeId} (named : nodeId.isFqdn id = true)
    (waits : Waits id s) : ∃ node, s.answering nodeId = some node ∧ node.id = id := by
  obtain ⟨asking, member, rfl⟩ := waits
  have idle : asking.associationState = .null ∨ asking.associationState = .lost := by
    cases (tidy.waiting asking member).2 with
    | never state _ => exact .inl state
    | lost state _ => exact .inr state
  have answers : PfcpUpNode.answersTo nodeId asking = true := by
    rw [PfcpUpNode.answersTo, named, Bool.or_true, Bool.and_true]
    simpa using idle
  cases first : s.answering nodeId with
  | none => exact absurd answers (List.find?_eq_none.mp first asking member)
  | some node =>
      refine ⟨node, rfl, ?_⟩
      have awaiting := (tidy.waiting node (List.mem_of_find?_eq_some first)).2
      have passes := List.find?_some first
      simp only [PfcpUpNode.answersTo, Bool.and_eq_true, Bool.or_eq_true,
        decide_eq_true_eq] at passes
      rcases passes.2 with same | byName
      · cases awaiting with
        | never _ nodeId' =>
            rw [← same, nodeId', NodeId.not_isFqdn_default] at named
            cases named
        | lost _ own =>
            rw [same] at own
            exact NodeId.isFqdn_unique own named
      · exact NodeId.isFqdn_unique byName named

/-- It is admitted. -/
theorem Tidy.readmits (differ : HashesDiffer cfg) (tidy : Tidy cfg s)
    (configured : cfg.getPfcpNodeId ≠ none) (waits : Waits id s) (trxnId : Nat)
    (remoteEndpoint : Endpoint) {nodeId : NodeId} (named : nodeId.isFqdn id = true) (stamp : Nat) :
    ∃ next events, State.step cfg s
        (.associationSetupRequest trxnId remoteEndpoint (some nodeId) (some stamp)) =
          some (next, events) ∧
      ¬Waits id next ∧ ∃ su, next.upNodes[cfg.keyOf id]? = some su ∧ su.id = id ∧
        su.associationState = .setup := by
  obtain ⟨node, found, rfl⟩ := tidy.answering named waits
  have keeps : KeepsBooks cfg s
      (.associationSetupRequest trxnId remoteEndpoint (some nodeId) (some stamp)) := by
    refine ⟨fun request asked other answers => ?_, fun _ _ _ _ => configured, fun _ reached => ?_⟩
    · obtain rfl := Option.some.inj asked
      obtain rfl := Option.some.inj (found.symm.trans answers)
      exact named
    · cases reached
  have nonempty : s.pendingNodes ≠ [] := by
    obtain ⟨other, member, -⟩ := waits
    exact List.ne_nil_of_mem member
  have nodes := addAssociation_nodes cfg s trxnId remoteEndpoint nodeId node.id stamp
  have setUp := addAssociation_setUp cfg s trxnId remoteEndpoint nodeId node.id stamp
  have accepted :
      (addAssociation cfg s trxnId remoteEndpoint nodeId node.id stamp).1 = true := by
    by_contra refused
    exact configured (addAssociation_returns refused)
  have result : (associationSetupRequest cfg s trxnId remoteEndpoint nodeId stamp).1 =
      admitNode cfg (addAssociation cfg s trxnId remoteEndpoint nodeId node.id stamp).2.1 node
        remoteEndpoint nodeId stamp := by
    rw [associationSetupRequest, if_pos nonempty, found]
    exact if_pos accepted
  have same : SameNodes (admitNode cfg s node remoteEndpoint nodeId stamp)
      (associationSetupRequest cfg s trxnId remoteEndpoint nodeId stamp).1 := by
    rw [result]
    exact nodes.admitNode node remoteEndpoint nodeId stamp
  have after : Tidy cfg (associationSetupRequest cfg s trxnId remoteEndpoint nodeId stamp).1 := by
    refine tidy.admitted differ keeps rfl found same (setUp.mono ?_)
    rw [result]
    rfl
  have place : cfg.key nodeId = cfg.keyOf node.id := Config.key_of_isFqdn named
  have free : s.upNodes[cfg.key nodeId]? = none := tidy.free differ waits named
  have served : (associationSetupRequest cfg s trxnId remoteEndpoint nodeId stamp).1.upNodes[
      cfg.keyOf node.id]? = some (node.associate cfg nodeId remoteEndpoint stamp) := by
    rw [same.up, State.admitNode, insertIfNew_of_absent free, place,
      ExtTreeMap.getElem?_insert_self]
  refine ⟨_, _, rfl, fun waiting => ?_, _, served, rfl, rfl⟩
  exact after.apart node.id waiting ⟨_, _, served, rfl⟩

/-! ### Runs -/

/-- No association is taken away from the node that it was made for. -/
theorem label_of_run {start : State} (run : Run (step cfg) start records s)
    {l : NodeId × Nat × String} (labelled : start.label key = some l) : s.label key = some l := by
  induction run with
  | nil => exact labelled
  | snoc _ taken inductionHypothesis =>
      cases outcome_of_step taken with
      | notified _ _ _ _ _ labels => rw [labels, inductionHypothesis]
      | admitted _ _ _ _ _ _ _ setUp => exact setUp.label_of_label inductionHypothesis
      | refused _ _ _ _ _ _ _ setUp => exact setUp.label_of_label inductionHypothesis

/-- The books are in order: each configured node is in one of the two places, and once; a key
that a node or an association has had goes to no other node; and a node that was lost, and has
waited since, is admitted when it asks again. -/
structure Accounted (cfg : Config) (records : List (StepRecord State Action Event))
    (finish : State) : Prop where
  placed : ∀ id ∈ cfg.ids, Xor (Waits id finish) (Serves id finish)
  once : (finish.pendingNodes.map PfcpUpNode.id).Nodup
  kept : ∀ record ∈ records, ∀ (key : Nat) (su su' : PfcpUpNode),
    record.before.upNodes[key]? = some su → finish.upNodes[key]? = some su' → su'.id = su.id
  labels : ∀ record ∈ records, ∀ key l, record.before.label key = some l →
    finish.label key = some l
  named : ∀ key l, finish.label key = some l →
    ∃ id ∈ cfg.ids, l.1.isFqdn id = true ∧ key = cfg.keyOf id
  readmitted : ∀ id, Since records (Loses fun su => su.id = id) (Waits id) →
    ∀ trxnId remoteEndpoint nodeId stamp, nodeId.isFqdn id = true →
      ∃ next events, step cfg finish
          (.associationSetupRequest trxnId remoteEndpoint (some nodeId) (some stamp)) =
            some (next, events) ∧
        ¬Waits id next ∧ ∃ su, next.upNodes[cfg.keyOf id]? = some su ∧ su.id = id ∧
          su.associationState = .setup

/-- In a run in which every request that is answered names the node that answers it, every
association that is made can be answered, and no lost node is notified as reachable, the books
are in order. -/
theorem nodes_accounted (cfg : Config) (differ : HashesDiffer cfg)
    {records : List (StepRecord State Action Event)} {finish : State}
    (run : Run (step cfg) (init cfg) records finish)
    (own : ∀ record ∈ records, record.action.unasked = false)
    (keeps : ∀ record ∈ records, KeepsBooks cfg record.before record.action) :
    Accounted cfg records finish := by
  obtain ⟨tidy, passed⟩ := run.invariant_of_condition (Tidy cfg)
    (fun s action => action.unasked = false ∧ KeepsBooks cfg s action) (tidy_init cfg)
    (fun _ _ _ _ tidy condition taken => tidy.step differ condition.1 condition.2 taken)
    (fun record member => ⟨own record member, keeps record member⟩)
  refine ⟨fun id configured => ?_, tidy.distinct, fun record member key su su' before after => ?_,
    fun record member key l labelled => ?_, fun key l labelled => ?_,
    fun id since trxnId remoteEndpoint nodeId stamp named => ?_⟩
  · rcases tidy.present id configured with waits | serves
    · exact .inl ⟨waits, tidy.apart id waits⟩
    · exact .inr ⟨serves, fun waits => tidy.apart id waits serves⟩
  · have before' := (passed record member).1
    refine differ _ (tidy.serving key su' after).1 _ (before'.serving key su before).1 ?_
    rw [← tidy.key_eq after, ← before'.key_eq before]
  · obtain ⟨earlier, later, rfl⟩ := List.append_of_mem member
    obtain ⟨-, taken, rest⟩ := run.at_record
    exact label_of_run rest (label_of_run (.snoc .nil taken) labelled)
  · obtain ⟨id, known, named⟩ := tidy.labelled key l labelled
    obtain ⟨hashed, placed⟩ := tidy.keyed.association key l labelled
    refine ⟨id, known, named, ?_⟩
    rw [placed, hashed, ← Config.key_of_isFqdn named]
    rfl
  · have configured : cfg.getPfcpNodeId ≠ none := by
      obtain ⟨earlier, opener, later, rfl, ⟨hashNodeId, _, su, served, -⟩, -⟩ := since
      have tidyThen := (passed opener (List.mem_append_right _ (List.mem_cons_self ..))).1
      exact tidyThen.configured _ (tidyThen.keyed.associated _ su served)
    exact tidy.readmits differ configured (run.held_of_since since) trxnId remoteEndpoint named
      stamp

/-- A node that two heartbeats have lost is where it should be. -/
theorem nodes_accounted_outage : ∃ records finish,
    Run (step oneNode) (init oneNode) records finish ∧
    Since records (Loses fun su => su.id = upf) (Waits upf) ∧
    Accounted oneNode records finish := by
  obtain ⟨records, finish, run, own, keeps, since⟩ :=
    Run.exists_of_passes (step oneNode) (init oneNode) outage
      (fun records _ => (∀ record ∈ records, record.action.unasked = false) ∧
        (∀ record ∈ records, KeepsBooks oneNode record.before record.action) ∧
        Since records (Loses fun su => su.id = upf) (Waits upf)) (by decide)
  exact ⟨records, finish, run, since, nodes_accounted oneNode (by decide) run own keeps⟩

/-- The lost node answers the next heartbeat request. -/
def lateAnswer : List Action :=
  outage ++ [.signalTimeOut 3, .timeOut 3 4,
    .heartbeatResponse 4 (some 100) (some (oneNode.keyOf upf))]

/-- Two nodes, and two setup messages with the address zero. -/
def twoNodes : Config :=
  { oneNode with nodes := oneNode.nodes ++ [{ id := "upf2", mcc := "208", mnc := "95", tac := 2 }] }

def unnamed : List Action :=
  [.associationSetupRequest 1 upfEndpoint (some {}) (some 100),
    .associationSetupRequest 2 ⟨0xC0A80103, 8805⟩ (some {}) (some 100)]

/-- The node that answered late asks again and is left waiting; the second node that is
admitted under the address zero is nowhere. -/
theorem nodes_lost_track_of :
    (∃ records finish, Run (step oneNode) (init oneNode) records finish ∧ HashesDiffer oneNode ∧
      (∀ record ∈ records, record.action.unasked = false) ∧ ¬Accounted oneNode records finish) ∧
    ∃ records finish, Run (step twoNodes) (init twoNodes) records finish ∧
      HashesDiffer twoNodes ∧ (∀ record ∈ records, record.action.unasked = false) ∧
      ¬Accounted twoNodes records finish := by
  constructor
  · obtain ⟨records, finish, run, own, since, ignored⟩ :=
      Run.exists_of_passes (step oneNode) (init oneNode) lateAnswer
        (fun records finish => (∀ record ∈ records, record.action.unasked = false) ∧
          Since records (Loses fun su => su.id = upf) (Waits upf) ∧
          (step oneNode finish (.associationSetupRequest 5 upfEndpoint (some upfNodeId)
            (some 100))).all (fun result => decide (Waits upf result.1)) = true) (by decide)
    refine ⟨records, finish, run, by decide, own, fun accounted => ?_⟩
    obtain ⟨next, events, taken, gone, -⟩ :=
      accounted.readmitted upf since 5 upfEndpoint upfNodeId 100 rfl
    rw [taken] at ignored
    exact gone (of_decide_eq_true ignored)
  · obtain ⟨records, finish, run, own, idle, elsewhere⟩ :=
      Run.exists_of_passes (step twoNodes) (init twoNodes) unnamed
        (fun records finish => (∀ record ∈ records, record.action.unasked = false) ∧
          ¬Waits "upf2" finish ∧ ∀ entry ∈ finish.upNodes.toList, entry.2.id ≠ "upf2") (by decide)
    refine ⟨records, finish, run, by decide, own, fun accounted => ?_⟩
    rcases accounted.placed "upf2" (by decide) with ⟨waits, -⟩ | ⟨⟨key, su, found, same⟩, -⟩
    · exact idle waits
    · exact elsewhere (key, su) (ExtTreeMap.mem_toList_iff_getElem?_eq_some.mpr found) same

end State

end OpenairSpgwc.Sxab
