import OpenairSpgwc.Sxab.Effects

/-!
Contract: which UP node a new session is given to.

`select_up_node` reads the associations alone, and an association stays set up when its
node is lost: `notify_node_unreachable` compares where it should assign. A request that
cannot be answered for want of an address leaves an association behind as well, whose
node is not in service.

Owns: that the node selected is in service, in every run in which no selectable node is
lost and no association is made without an address.
-/

namespace OpenairSpgwc.Sxab

open Foundation
open OpenairSpgwc.Common
open Std (ExtTreeMap)

namespace State

variable {cfg : Config} {s t next : State} {action : Action} {events : List Event} {key : Nat}

/-- `select_up_node` returns true with the identifier of a node in `up_nodes_` only, which is
set up or unstable. -/
def SelectsServing (cfg : Config) (s : State) : Prop :=
  ∀ apn uli paa first nodeId, selectUpNode cfg s apn uli paa first = some nodeId →
    ∃ (key : Nat) (su : PfcpUpNode),
      s.upNodes[key]? = some su ∧ su.nodeId = nodeId ∧ su.Serving

/-- No node with that identifier is in `up_nodes_`. -/
def NotServed (nodeId : NodeId) (s : State) : Prop :=
  ∀ (key : Nat) (su : PfcpUpNode), s.upNodes[key]? = some su → su.nodeId ≠ nodeId

/-- A setup message of the node is accepted: a node waits for it, and `add_association` returns
true. -/
def Accepts (cfg : Config) (nodeId : NodeId) (s : State) : Action → Prop
  | .associationSetupRequest trxnId remoteEndpoint (some other) (some stamp) =>
      other = nodeId ∧ ∃ node ∈ s.answering nodeId,
        (addAssociation cfg s trxnId remoteEndpoint nodeId node.id stamp).1 = true
  | .associationSetupResponse _ (some other) (some _) =>
      other = nodeId ∧ s.answering nodeId ≠ none
  | _ => False

/-- The association under a key carries the identifier of a configured node. -/
def Selectable (cfg : Config) (s : State) (key : Nat) : Prop :=
  ∃ l ∈ s.label key, l.2.2 ∈ cfg.ids

instance : Decidable (Selectable cfg s key) :=
  inferInstanceAs (Decidable (∃ l ∈ s.label key, l.2.2 ∈ cfg.ids))

/-- No selectable node is lost, and no association is made that cannot be answered. -/
structure MeetsSelection (cfg : Config) (s : State) (action : Action) : Prop where
  kept : ∀ hashNodeId ∈ s.misses action, ∀ su ∈ s.upNodes[mapKey hashNodeId]?,
    su.failsForGood = true → ¬Selectable cfg s (mapKey hashNodeId)
  answered : ∀ request ∈ action.requests, s.answering request.1 ≠ none →
    s.label (cfg.key request.1) = none → cfg.getPfcpNodeId ≠ none

instance : Decidable (MeetsSelection cfg s action) :=
  decidable_of_iff (_ ∧ _) ⟨fun both => ⟨both.1, both.2⟩, fun meets => ⟨meets.kept, meets.answered⟩⟩

/-- Selectable nodes are in service. -/
structure Backed (cfg : Config) (s : State) : Prop where
  keyed : Keyed cfg s
  served : ∀ key l, s.label key = some l → l.2.2 ∈ cfg.ids →
    ∃ su, s.upNodes[key]? = some su ∧ su.nodeId = l.1

theorem backed_init (cfg : Config) : Backed cfg (init cfg) where
  keyed := keyed_init cfg
  served key l labelled := by simp [label, init] at labelled

theorem served_notified {missed reached : Option Nat} (notified : Notified s missed reached t)
    {su : PfcpUpNode} (found : s.upNodes[key]? = some su)
    (kept : ∀ hashNodeId, missed = some hashNodeId → key = mapKey su.hashNodeId →
      key = mapKey hashNodeId → su.notifyNodeNotReachable.associationState ≠ .lost)
    (placed : ∀ key su, s.upNodes[key]? = some su → key = mapKey su.hashNodeId) :
    ∃ su', t.upNodes[key]? = some su' ∧ su'.nodeId = su.nodeId := by
  cases notified with
  | nothing nodes =>
      rw [nodes.up]
      exact ⟨su, found, rfl⟩
  | serving other old new stored own _ _ up =>
      rw [up]
      by_cases same : key = other
      · rw [same, stored, Option.some.injEq] at found
        refine ⟨new, ?_, ?_⟩
        · rw [same, ExtTreeMap.getElem?_insert_self]
        · rw [(PfcpUpNode.label_eq own).2.1, found]
      · exact ⟨su, getElem?_insert_eq_some.mpr (.inr ⟨same, found⟩), rfl⟩
  | lost hashNodeId old isMissed stored gone _ up =>
      rw [up]
      refine ⟨su, getElem?_erase_eq_some.mpr ⟨?_, found⟩, rfl⟩
      intro erased
      have here := placed _ _ stored
      rw [← erased] at here
      rw [here, found, Option.some.injEq] at stored
      rw [← stored] at gone
      exact kept hashNodeId isMissed (placed key su found) here.symm gone
  | waiting _ _ _ _ _ up =>
      rw [up]
      exact ⟨su, found, rfl⟩

theorem Backed.notified {missed reached : Option Nat} (backed : Backed cfg s)
    (meets : MeetsSelection cfg s action)
    (isMissed : ∀ hashNodeId, missed = some hashNodeId → s.misses action = some hashNodeId)
    (notified : Notified s missed reached t) (labels : SameLabels s t) : Backed cfg t where
  keyed := backed.keyed.notified notified labels
  served key l labelled selectable := by
    rw [labels] at labelled
    obtain ⟨su, found, own⟩ := backed.served key l labelled selectable
    have kept : ∀ hashNodeId, missed = some hashNodeId → key = mapKey su.hashNodeId →
        key = mapKey hashNodeId → su.notifyNodeNotReachable.associationState ≠ .lost := by
      intro hashNodeId missing _ here gone
      rw [here] at found labelled
      have fails := (backed.keyed.serving _ su found).lost_iff.mp gone
      exact meets.kept hashNodeId (isMissed hashNodeId missing) su found fails
        ⟨l, labelled, selectable⟩
    obtain ⟨su', after, same⟩ := served_notified notified found kept fun key su found =>
      (backed.keyed.node key su found).2
    exact ⟨su', after, same.trans own⟩

/-- What is in service stays there when a node is admitted. -/
theorem up_of_up_admit {node su : PfcpUpNode} {remoteEndpoint : Endpoint} {nodeId : NodeId}
    {stamp : Nat} (nodes : SameNodes (admitNode cfg s node remoteEndpoint nodeId stamp) t)
    (found : s.upNodes[key]? = some su) : t.upNodes[key]? = some su := by
  rw [nodes.up, State.admitNode, ExtTreeMap.getElem?_insertIfNew, if_neg ?_, found]
  rintro ⟨same, absent⟩
  rw [compare_eq_iff_eq.mp same] at absent
  rw [ExtTreeMap.getElem?_eq_none absent] at found
  cases found

theorem Backed.admitted {node : PfcpUpNode} {remoteEndpoint : Endpoint} {nodeId : NodeId}
    {stamp : Nat} (backed : Backed cfg s)
    (nodes : SameNodes (admitNode cfg s node remoteEndpoint nodeId stamp) t)
    (setUp : SetUp cfg nodeId s t) : Backed cfg t where
  keyed := backed.keyed.admitted nodes setUp
  served key l labelled selectable := by
    cases setUp with
    | known present labels =>
        rw [labels] at labelled
        obtain ⟨su, found, own⟩ := backed.served key l labelled selectable
        exact ⟨su, up_of_up_admit nodes found, own⟩
    | new id absent labels =>
        rw [labels] at labelled
        split at labelled
        · next here =>
            obtain rfl := Option.some.inj labelled
            -- No node is in service without an association, so the node is stored.
            have free : s.upNodes[cfg.key nodeId]? = none := by
              by_contra taken
              obtain ⟨su, found⟩ := Option.ne_none_iff_exists'.mp taken
              exact backed.keyed.associated _ su found absent
            refine ⟨node.associate cfg nodeId remoteEndpoint stamp, ?_, rfl⟩
            rw [here, nodes.up, State.admitNode, insertIfNew_of_absent free,
              ExtTreeMap.getElem?_insert_self]
        · obtain ⟨su, found, own⟩ := backed.served key l labelled selectable
          exact ⟨su, up_of_up_admit nodes found, own⟩

theorem Backed.step (backed : Backed cfg s) (meets : MeetsSelection cfg s action)
    (taken : State.step cfg s action = some (next, events)) : Backed cfg next := by
  cases outcome_of_step taken with
  | notified missed reached isMissed _ nodes labels =>
      exact backed.notified meets isMissed nodes labels
  | admitted node remoteEndpoint nodeId stamp _ _ nodes setUp => exact backed.admitted nodes setUp
  | refused node nodeId stamp asked found unconfigured nodes setUp =>
      cases setUp with
      | known present labels =>
          have notified : Notified s none none next := .nothing nodes
          exact backed.notified meets (by simp) notified labels
      | new id absent _ =>
          have answers : s.answering nodeId ≠ none := by
            rw [found]
            exact Option.some_ne_none node
          exact absurd unconfigured (meets.answered (nodeId, stamp) asked answers absent)

/-- What is selected is an association with the identifier of a configured node. -/
theorem label_of_selectUpNode {apn : String} {uli : Uli} {paa : Pgw.Paa} {first : Nat}
    {nodeId : NodeId} (selected : selectUpNode cfg s apn uli paa first = some nodeId) :
    ∃ key l, s.label key = some l ∧ l.1 = nodeId ∧ l.2.2 ∈ cfg.ids := by
  unfold selectUpNode at selected
  split at selected
  · cases selected
  · next upNodes returned =>
      obtain ⟨a, chosen, own⟩ := Option.map_eq_some_iff.mp selected
      have member := List.mem_of_getElem? chosen
      obtain ⟨listed, matching⟩ := List.mem_filter.mp member
      obtain ⟨⟨key, stored⟩, entry, same⟩ := List.mem_map.mp listed
      rw [ExtTreeMap.mem_toList_iff_getElem?_eq_some] at entry
      rw [show stored = a from same] at entry
      rw [Bool.and_eq_true, List.any_eq_true] at matching
      obtain ⟨node, candidate, named⟩ := matching.2
      refine ⟨key, a.label, label_of_found entry, own, ?_⟩
      show a.id ∈ cfg.nodes.map UpNodeCfg.id
      rw [of_decide_eq_true named]
      exact List.mem_map_of_mem (Config.mem_nodes_of_getUpNodes returned candidate)

theorem Backed.selectsServing (backed : Backed cfg s) : SelectsServing cfg s := by
  intro apn uli paa first nodeId selected
  obtain ⟨key, l, labelled, own, selectable⟩ := label_of_selectUpNode selected
  obtain ⟨su, found, same⟩ := backed.served key l labelled selectable
  exact ⟨key, su, found, same.trans own, backed.keyed.serving key su found⟩

/-! ### A node that is lost -/

theorem nodes_of_misses {hashNodeId : Nat} (missed : s.misses action = some hashNodeId)
    (taken : State.step cfg s action = some (next, events)) :
    SameNodes (s.notifyNodeNotReachable hashNodeId) next := by
  cases action with
  | remotePeerNotResponding trxnId found =>
      cases found with
      | none => cases missed
      | some key =>
          obtain ⟨a, stored, rfl⟩ := Option.map_eq_some_iff.mp missed
          have kept : (s.report trxnId).associations[key]? = some a := stored
          simp only [State.step] at taken
          split at taken
          · obtain ⟨rfl, -⟩ := Prod.mk.inj (Option.some.inj taken)
            simp only [timeoutHeartbeatRequest, withFound, kept]
            have nodes : SameNodes s
                (((s.report trxnId).timerRemove a.timerHeartbeat).triggerHeartbeatRequestProcedure
                  key { a with trxnIdHeartbeat := 0 }) := ⟨rfl, rfl⟩
            exact nodes.notifyNodeNotReachable a.hashNodeId
          · cases taken
  | _ => cases missed

/-- A node that is lost is not in service. -/
theorem notServed_of_loses {record : StepRecord State Action Event} {nodeId : NodeId}
    (keyed : Keyed cfg record.before)
    (taken : State.step cfg record.before record.action = some (record.after, record.events))
    (loses : Loses (fun su => su.nodeId = nodeId) record) : NotServed nodeId record.after := by
  obtain ⟨hashNodeId, missed, su, found, gone, rfl⟩ := loses
  have nodes := nodes_of_misses missed taken
  have lost : su.notifyNodeNotReachable.associationState = .lost :=
    (keyed.serving _ su found).lost_iff.mpr gone
  have up : record.after.upNodes = record.before.upNodes.erase (mapKey su.hashNodeId) := by
    rw [nodes.up, State.notifyNodeNotReachable, found]
    exact congrArg State.upNodes (if_pos lost)
  intro key other served same
  rw [up] at served
  obtain ⟨elsewhere, before⟩ := getElem?_erase_eq_some.mp served
  rw [keyed.key_eq before, same, ← keyed.key_eq found] at elsewhere
  exact elsewhere (keyed.node _ su found).2

/-- A setup message for which a node waits is accepted, or leaves the nodes as they are. -/
theorem accepts_or_sameNodes {node : PfcpUpNode} {nodeId : NodeId} {stamp : Nat}
    (asked : action.setsUp = some (nodeId, stamp)) (found : s.answering nodeId = some node)
    (taken : State.step cfg s action = some (next, events)) :
    Accepts cfg nodeId s action ∨ SameNodes s next := by
  cases action with
  | associationSetupRequest trxnId remoteEndpoint asker sent =>
      cases asker with
      | none => cases asked
      | some asker =>
          cases sent with
          | none => cases asked
          | some sent =>
              cases asked
              by_cases added :
                  (addAssociation cfg s trxnId remoteEndpoint nodeId node.id stamp).1 = true
              · exact .inl ⟨rfl, node, found, added⟩
              · have result := congrArg Prod.fst (Option.some.inj taken)
                have waits : s.pendingNodes ≠ [] := by
                  intro nobody
                  rw [answering, nobody] at found
                  cases found
                simp only [State.associationSetupRequest, if_pos waits, found, if_neg added]
                  at result
                rw [← result]
                exact .inr (addAssociation_nodes cfg s trxnId remoteEndpoint nodeId node.id stamp)
  | associationSetupResponse remoteEndpoint asker sent =>
      cases asker with
      | none => cases asked
      | some asker =>
          cases sent with
          | none => cases asked
          | some sent =>
              cases asked
              have waits : s.answering nodeId ≠ none := by
                rw [found]
                exact Option.some_ne_none node
              exact .inl ⟨rfl, waits⟩
  | _ => cases asked

/-- It is not put into service without a setup message of its own that is accepted. -/
theorem NotServed.step {nodeId : NodeId} (absent : NotServed nodeId s)
    (unaccepted : ¬Accepts cfg nodeId s action)
    (taken : State.step cfg s action = some (next, events)) : NotServed nodeId next := by
  cases outcome_of_step taken with
  | notified missed reached _ _ nodes _ =>
      intro key su found own
      obtain ⟨old, before, same, -⟩ := nodes.up_of_up found
      exact absent key old before ((PfcpUpNode.label_eq same).2.1.symm.trans own)
  | admitted node remoteEndpoint other stamp asked found nodes _ =>
      intro key su served same
      rcases up_of_admit nodes served with before | ⟨-, -, new⟩
      · exact absent key su before same
      · have own : other = nodeId := by
          rw [new] at same
          exact same
        subst own
        rcases accepts_or_sameNodes asked found taken with accepted | kept
        · exact unaccepted accepted
        · rw [kept.up] at served
          exact absent key su served same
  | refused node other stamp _ _ _ nodes _ =>
      intro key su found
      rw [nodes.up] at found
      exact absent key su found

/-- In a run in which no selectable node is lost, and no association is made that cannot be
answered, the node selected is always in service, and a node that was lost is not selected
until a setup message of it is accepted. -/
theorem selects_serving_nodes (cfg : Config) {records : List (StepRecord State Action Event)}
    {finish : State} (run : Run (step cfg) (init cfg) records finish)
    (meets : ∀ record ∈ records, MeetsSelection cfg record.before record.action) :
    SelectsServing cfg finish ∧
      ∀ nodeId earlier opener later, records = earlier ++ opener :: later →
        Loses (fun su => su.nodeId = nodeId) opener →
        (∀ record ∈ later, ¬Accepts cfg nodeId record.before record.action) →
          ∀ apn uli paa first, selectUpNode cfg finish apn uli paa first ≠ some nodeId := by
  have backed := run.invariant_of_condition (Backed cfg) (MeetsSelection cfg) (backed_init cfg)
    (fun state action next events backed meets taken => backed.step meets taken) meets
  have serving : SelectsServing cfg finish := backed.1.selectsServing
  refine ⟨serving, ?_⟩
  rintro nodeId earlier opener later rfl loses unaccepted apn uli paa first selected
  obtain ⟨-, taken, rest⟩ := run.at_record
  have keyed := (backed.2 opener (List.mem_append_right _ List.mem_cons_self)).1.keyed
  obtain ⟨absent, -⟩ := rest.invariant_of_condition (NotServed nodeId)
    (fun state action => ¬Accepts cfg nodeId state action) (notServed_of_loses keyed taken loses)
    (fun _ _ _ _ absent unaccepted taken => absent.step unaccepted taken) unaccepted
  obtain ⟨key, su, found, own, -⟩ := serving apn uli paa first nodeId selected
  exact absent key su found own

/-- A UP node that names itself, and the same as a node identifier. -/
def upf : String := "upf1"

def upfNodeId : NodeId := { nodeIdType := nodeIdTypeFqdn, fqdn := upf }

def upfEndpoint : Endpoint := ⟨0xC0A80102, 8805⟩

/-- The place of the node. -/
def upfUli : Uli := { hasTai := true, tai1 := .fromItems "208" "95" 1 }

/-- One node and one pool; the hash of the name is the one of the C++ library. -/
def oneNode : Config where
  nodes := [{ id := upf, mcc := "208", mnc := "95", tac := 1 }]
  pdns := [{ apn := "apn1" }]
  addr4 := 0xC0A80101
  stringHash := fun name => if name = upf then 12022910140902077826 else 6142509188972423790

/-- It is set up, and two heartbeat requests are not answered. -/
def outage : List Action :=
  [.associationSetupRequest 1 upfEndpoint (some upfNodeId) (some 100),
    .signalTimeOut 1, .timeOut 1 2, .remotePeerNotResponding 2 (some (oneNode.keyOf upf)),
    .signalTimeOut 2, .timeOut 2 3, .remotePeerNotResponding 3 (some (oneNode.keyOf upf))]

/-- After one unanswered heartbeat the node is unstable, in service and selected. -/
theorem unstable_node_selected :
    ∃ records finish, Run (step oneNode) (init oneNode) records finish ∧
      (∀ record ∈ records, MeetsSelection oneNode record.before record.action) ∧
      selectUpNode oneNode finish "apn1" upfUli {} 0 = some upfNodeId ∧
      SelectsServing oneNode finish := by
  obtain ⟨records, finish, run, meets, selected⟩ :=
    Run.exists_of_passes (step oneNode) (init oneNode) (outage.take 4)
      (fun records finish =>
        (∀ record ∈ records, MeetsSelection oneNode record.before record.action) ∧
          selectUpNode oneNode finish "apn1" upfUli {} 0 = some upfNodeId)
      (by decide)
  exact ⟨records, finish, run, meets, selected, (selects_serving_nodes oneNode run meets).1⟩

/-- After two the node is lost, no node is in service, and it is still selected. -/
theorem lost_node_selected :
    ¬∀ records finish, Run (step oneNode) (init oneNode) records finish →
      SelectsServing oneNode finish := by
  intro claimed
  obtain ⟨records, finish, run, nobody, selected⟩ :=
    Run.exists_of_passes (step oneNode) (init oneNode) outage
      (fun _ finish => finish.upNodes.toList = [] ∧
        selectUpNode oneNode finish "apn1" upfUli {} 0 = some upfNodeId)
      (by decide)
  obtain ⟨key, su, found, -⟩ := claimed records finish run _ _ _ _ _ selected
  have member := ExtTreeMap.mem_toList_iff_getElem?_eq_some.mpr found
  rw [nobody] at member
  cases member

end State

end OpenairSpgwc.Sxab
