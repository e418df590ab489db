import OpenairSpgwc.Sxab.Sessions

/-!
Contract: the sessions of an association are given to the application for
restoration, at most 64 in a message.

Owns:
- `sx_session_restore_procedure::run` and `pfcp_association::restore_sx_sessions`;
- that the messages cover the pending sessions, each once.

Does not own: what the application does with a message.
-/

namespace OpenairSpgwc.Sxab

open Foundation

def returnOk : Int := 0

def returnError : Int := 1

/-- The variables of the loop of `sx_session_restore_procedure::run`, and the messages it
gave to `send_msg`. A message is its set of sessions. -/
structure Restoring where
  inserted : Nat := 0
  ittiMsg : Option (SearchTree Fseid) := none
  sent : List (SearchTree Fseid) := []

namespace Restoring

/-- The message that the next session goes to. -/
def current (r : Restoring) : SearchTree Fseid := r.ittiMsg.getD .leaf

/-- One turn of the loop. Whether the message could be sent is only logged. -/
def restore (balancing : Balancing Fseid) (r : Restoring) (session : Fseid) : Restoring :=
  let sessions := balancing.reshape r.inserted (r.current.insert Fseid.less session)
  if 64 ≤ sessions.size then
    { inserted := r.inserted + 1, ittiMsg := none, sent := r.sent ++ [sessions] }
  else
    { r with inserted := r.inserted + 1, ittiMsg := some sessions }

end Restoring

/-- `sx_session_restore_procedure::run`: the messages and the value returned. `delivers`
says whether `send_msg` returns `RETURNok`. -/
def runRestoreProcedure (balancing : Balancing Fseid) (delivers : SearchTree Fseid → Bool)
    (pendingSessions : SearchTree Fseid) : List (SearchTree Fseid) × Int :=
  if 0 < pendingSessions.size then
    let r := pendingSessions.inorder.foldl (Restoring.restore balancing) {}
    match r.ittiMsg with
    | none => (r.sent, returnOk)
    | some sessions =>
        (r.sent ++ [sessions], if delivers sessions then returnOk else returnError)
  else
    ([], returnOk)

/-- What `restore_sx_sessions` leaves and sends. -/
structure Restored where
  sessions : SearchTree Fseid
  isRestoreSessionsPending : Bool
  sent : List (SearchTree Fseid)

/-- `restore_sx_sessions`. The procedure takes the sessions away from the association. -/
def restoreSxSessions (balancing : Balancing Fseid) (delivers : SearchTree Fseid → Bool)
    (sessions : SearchTree Fseid) (isRestoreSessionsPending : Bool) : Restored :=
  if 0 < sessions.size then
    ⟨.leaf, true, (runRestoreProcedure balancing delivers sessions).1⟩
  else
    ⟨sessions, isRestoreSessionsPending, []⟩

/-- Of any two sessions one comes before the other and not the other before it. -/
def PairwiseOrdered (sessions : SearchTree Fseid) : Prop :=
  sessions.inorder.Pairwise fun a b => a.less b = true ∧ b.less a = false

/-- The messages are a partition of the pending sessions into sets of 64, less the last. -/
structure Covers (pending : SearchTree Fseid) (sent : List (SearchTree Fseid)) : Prop where
  disjoint : sent.Pairwise fun first second =>
    ∀ a ∈ first.inorder, ∀ b ∈ second.inorder, a.same b = false
  sizes : ∀ message ∈ sent, 1 ≤ message.size ∧ message.size ≤ 64
  full : ∀ message ∈ sent.dropLast, message.size = 64
  union : ∀ session, (∃ message ∈ sent, session ∈ message.inorder) ↔ session ∈ pending.inorder

section Order

variable {pending : SearchTree Fseid}

theorem PairwiseOrdered.conflictFree (ordered : PairwiseOrdered pending) :
    Fseid.ConflictFree {session | session ∈ pending.inorder} := by
  have calm : pending.inorder.Pairwise fun a b => ¬Fseid.Conflict a b := by
    refine ordered.imp fun before conflict => ?_
    have back := (Fseid.less_of_conflict conflict).2
    rw [before.2] at back
    cases back
  have calmBack : pending.inorder.Pairwise (flip fun a b => ¬Fseid.Conflict a b) := by
    refine ordered.imp fun before conflict => ?_
    have back := (Fseid.less_of_conflict conflict).1
    rw [before.2] at back
    cases back
  have alone : ∀ a ∈ pending.inorder, ¬Fseid.Conflict a a := by
    intro a _ conflict
    exact Bool.false_ne_true (conflict.2.2.1.symm.trans conflict.2.1)
  exact fun a aIn b bIn => calm.forall_of_forall_of_flip alone calmBack aIn bIn

theorem PairwiseOrdered.sorted (ordered : PairwiseOrdered pending) :
    pending.Sorted Fseid.less {session | session ∈ pending.inorder} where
  within _ member := member
  ordered := ordered.imp And.left

/-- The sessions that an association was notified of are ordered so. -/
theorem Sessions.Mirrors.pairwiseOrdered {fseids : Set Fseid} {s : Sessions}
    {history : List SessionCall} (mirrors : Sessions.Mirrors fseids s history)
    (free : Fseid.ConflictFree fseids) : PairwiseOrdered s.sessions := by
  refine mirrors.sorted.ordered.imp_of_mem fun firstIn secondIn before => ⟨before, ?_⟩
  exact free.strictWeak.asymm _ (mirrors.sorted.within _ firstIn) _
    (mirrors.sorted.within _ secondIn) before

end Order

/-! ### The loop -/

section Loop

variable {balancing : Balancing Fseid} {r : Restoring} {all processed : List Fseid}

/-- The messages sent are full, and with the one at hand they hold what was processed. -/
structure Restoring.Gathers (r : Restoring) (processed : List Fseid) : Prop where
  gathered : r.sent.flatMap SearchTree.inorder ++ r.current.inorder = processed
  full : ∀ message ∈ r.sent, message.size = 64
  atHand : ∀ message ∈ r.ittiMsg, 1 ≤ message.size ∧ message.size < 64

theorem Restoring.gathers_start : ({} : Restoring).Gathers [] where
  gathered := rfl
  full _ none := absurd none List.not_mem_nil
  atHand _ none := nomatch none

theorem Restoring.Gathers.current_size (gathers : r.Gathers processed) : r.current.size < 64 := by
  rw [Restoring.current]
  cases held : r.ittiMsg with
  | none => exact Nat.zero_lt_succ _
  | some message => exact (gathers.atHand message held).2

/-- The next session is put after those of the message. -/
theorem Restoring.Gathers.inserted (gathers : r.Gathers processed) {session : Fseid}
    (free : Fseid.ConflictFree {member | member ∈ all}) (sessionIn : session ∈ all)
    (within : ∀ earlier ∈ processed, earlier ∈ all)
    (ordered : (processed ++ [session]).Pairwise fun a b => a.less b = true) :
    (r.current.insert Fseid.less session).inorder = r.current.inorder ++ [session] := by
  obtain ⟨before, _, across⟩ := List.pairwise_append.mp ordered
  have held : ∀ stored ∈ r.current.inorder, stored ∈ processed := by
    intro stored member
    rw [← gathers.gathered]
    exact List.mem_append_right _ member
  have sorted : r.current.Sorted Fseid.less {member | member ∈ all} := by
    constructor
    · exact fun stored member => within stored (held stored member)
    · rw [← gathers.gathered] at before
      exact (List.pairwise_append.mp before).2.1
  apply SearchTree.inorder_insert_last free.strictWeak sessionIn sorted
  intro stored member
  exact across stored (held stored member) session (List.mem_singleton_self session)

theorem Restoring.Gathers.restore (gathers : r.Gathers processed) {session : Fseid}
    (inserted : (r.current.insert Fseid.less session).inorder = r.current.inorder ++ [session]) :
    (r.restore balancing session).Gathers (processed ++ [session]) := by
  have inorder : (balancing.reshape r.inserted (r.current.insert Fseid.less session)).inorder =
      r.current.inorder ++ [session] := (balancing.inorder_reshape _ _).trans inserted
  have size : (balancing.reshape r.inserted (r.current.insert Fseid.less session)).size =
      r.current.size + 1 := by
    rw [SearchTree.size, inorder, List.length_append, List.length_singleton, ← SearchTree.size]
  have small := gathers.current_size
  unfold Restoring.restore
  by_cases enough : 64 ≤ r.current.size + 1
  · simp only [size, if_pos enough]
    constructor
    · show (r.sent ++ [_]).flatMap SearchTree.inorder ++ [] = _
      rw [List.flatMap_append, List.flatMap_singleton, inorder, List.append_nil,
        ← List.append_assoc, gathers.gathered]
    · intro message member
      cases List.mem_append.mp member with
      | inl earlier => exact gathers.full message earlier
      | inr last =>
          rw [List.mem_singleton.mp last, size]
          omega
    · exact fun _ none => nomatch none
  · simp only [size, if_neg enough]
    constructor
    · show r.sent.flatMap SearchTree.inorder ++ SearchTree.inorder (balancing.reshape _ _) = _
      rw [inorder, ← List.append_assoc, gathers.gathered]
    · exact gathers.full
    · intro message same
      cases same
      rw [size]
      omega

theorem Restoring.gathers_foldl (free : Fseid.ConflictFree {member | member ∈ all})
    (later : List Fseid) (split : processed ++ later = all)
    (ordered : all.Pairwise fun a b => a.less b = true) (gathers : r.Gathers processed) :
    (later.foldl (Restoring.restore balancing) r).Gathers all := by
  induction later generalizing r processed with
  | nil =>
      rw [List.append_nil] at split
      rw [← split]
      exact gathers
  | cons session later inductionHypothesis =>
      have next : processed ++ [session] ++ later = all := by
        rw [List.append_assoc, List.singleton_append, split]
      rw [List.foldl_cons]
      apply inductionHypothesis next
      apply gathers.restore
      apply gathers.inserted free
      · rw [← split]
        exact List.mem_append_right _ (List.mem_cons_self ..)
      · intro earlier member
        rw [← split]
        exact List.mem_append_left _ member
      · rw [← next] at ordered
        exact (List.pairwise_append.mp ordered).1

/-- The messages when the one at hand is sent as well. -/
theorem Restoring.Gathers.flushed (gathers : r.Gathers all) :
    (r.sent ++ r.ittiMsg.toList).flatMap SearchTree.inorder = all := by
  rw [List.flatMap_append, ← gathers.gathered, Restoring.current]
  cases r.ittiMsg with
  | none => rfl
  | some message => rw [Option.toList_some, List.flatMap_singleton, Option.getD_some]

theorem Restoring.Gathers.covers {pending : SearchTree Fseid} (gathers : r.Gathers pending.inorder)
    (ordered : PairwiseOrdered pending) : Covers pending (r.sent ++ r.ittiMsg.toList) := by
  have free := ordered.conflictFree
  have union : ∀ session, (∃ message ∈ r.sent ++ r.ittiMsg.toList, session ∈ message.inorder) ↔
      session ∈ pending.inorder := by
    intro session
    rw [← gathers.flushed, List.mem_flatMap]
  constructor
  · have whole := ordered
    rw [PairwiseOrdered, ← gathers.flushed, List.pairwise_flatMap] at whole
    refine whole.2.imp_of_mem fun firstIn secondIn before a aIn b bIn => ?_
    have aPending := (union a).mp ⟨_, firstIn, aIn⟩
    have bPending := (union b).mp ⟨_, secondIn, bIn⟩
    rw [Bool.eq_false_iff, ne_eq, ← free.equivalent_iff aPending bPending]
    intro equivalent
    exact Bool.false_ne_true (equivalent.1.symm.trans (before a aIn b bIn).1)
  · intro message member
    cases List.mem_append.mp member with
    | inl earlier =>
        rw [gathers.full message earlier]
        decide
    | inr last =>
        obtain ⟨positive, less⟩ := gathers.atHand message (Option.mem_toList.mp last)
        exact ⟨positive, less.le⟩
  · intro message member
    cases held : r.ittiMsg with
    | none =>
        rw [held, Option.toList_none, List.append_nil] at member
        exact gathers.full message (List.mem_of_mem_dropLast member)
    | some last =>
        rw [held, Option.toList_some, List.dropLast_concat] at member
        exact gathers.full message member
  · exact union

end Loop

/-! ### The procedure -/

section Procedure

variable {balancing : Balancing Fseid} {delivers : SearchTree Fseid → Bool}
  {pending : SearchTree Fseid}

/-- What the procedure sends, whatever becomes of the messages. -/
theorem sent_eq (present : 0 < pending.size) :
    (runRestoreProcedure balancing delivers pending).1 =
      (pending.inorder.foldl (Restoring.restore balancing) {}).sent ++
        (pending.inorder.foldl (Restoring.restore balancing) {}).ittiMsg.toList := by
  rw [runRestoreProcedure, if_pos present]
  cases held : (pending.inorder.foldl (Restoring.restore balancing) {}).ittiMsg with
  | none => simp only [held, Option.toList_none, List.append_nil]
  | some message => simp only [held, Option.toList_some]

theorem sent_of_empty (empty : pending.size = 0) :
    (runRestoreProcedure balancing delivers pending).1 = [] := by
  rw [runRestoreProcedure, if_neg (by omega)]

theorem covers_empty (empty : pending.size = 0) : Covers pending [] where
  disjoint := .nil
  sizes _ member := absurd member List.not_mem_nil
  full _ member := absurd member List.not_mem_nil
  union session := by
    rw [List.eq_nil_of_length_eq_zero empty]
    refine iff_of_false ?_ List.not_mem_nil
    rintro ⟨_, member, _⟩
    cases member

/-- The association sends what the procedure sends and keeps no session. -/
theorem restoreSxSessions_eq (flag : Bool) :
    (restoreSxSessions balancing delivers pending flag).sent =
        (runRestoreProcedure balancing delivers pending).1 ∧
      (restoreSxSessions balancing delivers pending flag).sessions.size = 0 := by
  unfold restoreSxSessions
  by_cases present : 0 < pending.size
  · rw [if_pos present]
    exact ⟨rfl, rfl⟩
  · rw [if_neg present, sent_of_empty (by omega)]
    exact ⟨rfl, by show pending.size = 0; omega⟩

end Procedure

/-- The messages cover the pending sessions, each session once. -/
theorem sessions_restored (balancing : Balancing Fseid) (delivers : SearchTree Fseid → Bool)
    (pending : SearchTree Fseid) (ordered : PairwiseOrdered pending) :
    Covers pending (runRestoreProcedure balancing delivers pending).1 ∧
      (pending.size = 0 → (runRestoreProcedure balancing delivers pending).1 = []) := by
  refine ⟨?_, sent_of_empty⟩
  by_cases present : 0 < pending.size
  · rw [sent_eq present]
    have gathers := @Restoring.gathers_foldl balancing {} pending.inorder []
      ordered.conflictFree pending.inorder rfl (ordered.imp And.left) Restoring.gathers_start
    exact gathers.covers ordered
  · rw [sent_of_empty (by omega)]
    exact covers_empty (by omega)

/-- Sessions with IPv4 addresses, those with the greater identifiers first. -/
def sessionsBelow : Nat → SearchTree Fseid
  | 0 => .leaf
  | n + 1 =>
      .node .leaf { v4 := true, seid := n + 1, ipv4Address := 0x0A000001 } (sessionsBelow n)

/-- Seventy sessions are more than one message holds. -/
theorem seventy_sessions_restored :
    (runRestoreProcedure Balancing.none (fun _ => true) (sessionsBelow 70)).1.map
        SearchTree.size = [64, 6] ∧
      Covers (sessionsBelow 70)
        (runRestoreProcedure Balancing.none (fun _ => true) (sessionsBelow 70)).1 :=
  ⟨by decide +kernel, (sessions_restored Balancing.none (fun _ => true) (sessionsBelow 70)
    (by unfold PairwiseOrdered; decide +kernel)).1⟩

end OpenairSpgwc.Sxab
