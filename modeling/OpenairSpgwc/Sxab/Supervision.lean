import OpenairSpgwc.Sxab.Effects
import OpenairSpgwc.Sxab.Selection

/-!
Contract: whether association setup is answered, and the nodes in service are supervised.

A node is supervised by the heartbeat timer of its association, armed or run out with its
`TIME_OUT` still in the queue, or by the heartbeat request that was sent at a `TIME_OUT`
and was neither answered nor reported.

Owns:
- `Timed` and `Requested`: how timers and heartbeat requests belong to associations;
- what each step makes of the number of timers and requests of an association;
- exactly when every setup request is answered once, and every node in service is
  supervised once.

`add_association` removes the timer of an association that it finds and returns before it
answers or arms one when the time stamp is the same; `AssociationSetupRequest` answers to
no node that is unknown or in service while another node waits; and a heartbeat response
with another time stamp, or none, arms no timer.
-/

namespace OpenairSpgwc.Sxab

open Foundation
open OpenairSpgwc.Common
open Std (ExtTreeMap)

/-- The transaction and the time stamp of a heartbeat response. -/
def Action.answersHeartbeat : Action → Option (Nat × Option Nat)
  | .heartbeatResponse trxnId recoveryTimeStamp _ => some (trxnId, recoveryTimeStamp)
  | _ => none

/-- The response to the request `trxnId`. -/
def Event.respondsTo (trxnId : Nat) : Event → Bool
  | .associationSetupResponse id _ _ _ => id == trxnId
  | _ => false

namespace State

variable {cfg : Config} {s t u next : State} {action : Action} {events : List Event}
  {key id trxnId : Nat}

/-! ### Counting -/

/-- The timers of the association under `key`. -/
def timersOf (s : State) (key : Nat) : Nat :=
  s.timers.countP fun timer => mapKey timer.arg2User = key

/-- Those that have run out. -/
def expiredOf (s : State) (key : Nat) : Nat :=
  s.timers.countP fun timer => timer.expired && mapKey timer.arg2User = key

/-- The heartbeat requests for the association under `key` that were not reported. -/
def requestsOf (s : State) (key : Nat) : Nat :=
  s.heartbeats.countP fun heartbeat => !heartbeat.notified && mapKey heartbeat.hashNodeId = key

/-- All that supervises the association under `key`. -/
def watchedBy (s : State) (key : Nat) : Nat := s.timersOf key + s.requestsOf key

/-- What `timer_remove` would leave of it. -/
def dueOf (s : State) (key : Nat) : Nat := s.expiredOf key + s.requestsOf key

def timerOf (s : State) (key : Nat) : Option Nat :=
  (s.associations[key]?).map PfcpAssociation.timerHeartbeat

def requestOf (s : State) (key : Nat) : Option Nat :=
  (s.associations[key]?).map PfcpAssociation.trxnIdHeartbeat

theorem map_getElem?_of_insert {β : Type} (f : PfcpAssociation → β) (a : PfcpAssociation)
    (stored : t.associations = s.associations.insert key a) (other : Nat) :
    (t.associations[other]?).map f =
      if other = key then some (f a) else (s.associations[other]?).map f := by
  rw [stored, ExtTreeMap.getElem?_insert]
  by_cases same : other = key
  · rw [if_pos same, if_pos (by simp [same]), Option.map_some]
  · rw [if_neg same, if_neg (by simpa using Ne.symm same)]

theorem timersOf_eq_zero :
    s.timersOf key = 0 ↔ ∀ timer ∈ s.timers, mapKey timer.arg2User ≠ key := by
  simp [timersOf, List.countP_eq_zero]

theorem requestsOf_eq_zero : s.requestsOf key = 0 ↔
    ∀ heartbeat ∈ s.heartbeats, heartbeat.notified = false →
      mapKey heartbeat.hashNodeId ≠ key := by
  simp [requestsOf, List.countP_eq_zero]

/-! ### Timers -/

/-- A timer that is armed is the one its association knows, and no other association
knows a timer. -/
structure Timed (s : State) : Prop where
  own : ∀ timer ∈ s.timers, timer.expired = false →
    s.timerOf (mapKey timer.arg2User) = some timer.id
  known : ∀ timer ∈ s.timers, s.timerOf (mapKey timer.arg2User) ≠ none
  range : ∀ timer ∈ s.timers, 0 < timer.id ∧ timer.id ≤ s.timerId
  bound : ∀ key id, s.timerOf key = some id → id ≤ s.timerId
  owner : ∀ key id, s.timerOf key = some id → ∀ timer ∈ s.timers, timer.id = id →
    mapKey timer.arg2User = key

theorem timed_init (cfg : Config) : Timed (init cfg) where
  own timer member := by cases member
  known timer member := by cases member
  range timer member := by cases member
  bound key id known := by simp [timerOf, init] at known
  owner key id _ timer member := by cases member

/-- Timers run out or go. -/
theorem Timed.shrink (timed : Timed s) (same : ∀ key, t.timerOf key = s.timerOf key)
    (timerId : t.timerId = s.timerId)
    (before : ∀ timer ∈ t.timers, ∃ old ∈ s.timers, old.id = timer.id ∧
      old.arg2User = timer.arg2User ∧ (timer.expired = false → old.expired = false)) :
    Timed t where
  own timer member armed := by
    obtain ⟨old, there, sameId, sameArg, was⟩ := before timer member
    rw [same, ← sameId, ← sameArg]
    exact timed.own old there (was armed)
  known timer member := by
    obtain ⟨old, there, -, sameArg, -⟩ := before timer member
    rw [same, ← sameArg]
    exact timed.known old there
  range timer member := by
    obtain ⟨old, there, sameId, -⟩ := before timer member
    rw [timerId, ← sameId]
    exact timed.range old there
  bound key id known := by
    rw [timerId]
    exact timed.bound key id ((same key).symm.trans known)
  owner key id known timer member own := by
    obtain ⟨old, there, sameId, sameArg, -⟩ := before timer member
    rw [← sameArg]
    exact timed.owner key id ((same key).symm.trans known) old there (sameId.trans own)

/-- A timer is armed for `key`, where only timers that have run out are left. -/
theorem Timed.rearm {arg2User : Nat} {rest : List HeartbeatTimer} (timed : Timed s)
    (place : mapKey arg2User = key)
    (timers : t.timers = ⟨s.timerId + 1, arg2User, false⟩ :: rest)
    (left : ∀ timer ∈ rest, timer ∈ s.timers ∧
      (mapKey timer.arg2User = key → timer.expired = true))
    (timerId : t.timerId = s.timerId + 1)
    (knows : ∀ other, t.timerOf other =
      if other = key then some (s.timerId + 1) else s.timerOf other) : Timed t where
  own timer member armed := by
    rw [timers] at member
    rw [knows]
    rcases List.mem_cons.mp member with rfl | old
    · rw [if_pos place]
    · rw [if_neg fun here => by rw [(left timer old).2 here] at armed; cases armed]
      exact timed.own timer (left timer old).1 armed
  known timer member := by
    rw [knows]
    split
    · exact Option.some_ne_none _
    · next elsewhere =>
        rw [timers] at member
        rcases List.mem_cons.mp member with rfl | old
        · exact absurd place elsewhere
        · exact timed.known timer (left timer old).1
  range timer member := by
    rw [timers] at member
    rw [timerId]
    rcases List.mem_cons.mp member with rfl | old
    · exact ⟨Nat.succ_pos _, le_rfl⟩
    · have old := timed.range timer (left timer old).1
      exact ⟨old.1, Nat.le_succ_of_le old.2⟩
  bound other id known := by
    rw [knows] at known
    rw [timerId]
    split at known
    · exact (Option.some.inj known).ge
    · exact Nat.le_succ_of_le (timed.bound other id known)
  owner other id known timer member own := by
    rw [knows] at known
    rw [timers] at member
    split at known
    · next here =>
        rw [here]
        rcases List.mem_cons.mp member with rfl | old
        · exact place
        · have range := (timed.range timer (left timer old).1).2
          rw [own, ← Option.some.inj known] at range
          exact absurd range (Nat.not_succ_le_self _)
    · rcases List.mem_cons.mp member with rfl | old
      · have bound := timed.bound other id known
        rw [← own] at bound
        exact absurd bound (Nat.not_succ_le_self _)
      · exact timed.owner other id known timer (left timer old).1 own

theorem Timed.mem_timerRemove (timed : Timed s) (current : s.timerOf key = some id) :
    ∀ timer ∈ (s.timerRemove id).timers, timer ∈ s.timers ∧
      (mapKey timer.arg2User = key → timer.expired = true) := by
  intro timer member
  obtain ⟨there, stays⟩ := List.mem_filter.mp member
  refine ⟨there, fun here => ?_⟩
  by_contra armed
  have own := timed.own timer there (Bool.eq_false_iff.mpr armed)
  rw [here, current] at own
  simp [Bool.eq_false_iff.mpr armed, Option.some.inj own] at stays

theorem Timed.timersOf_timerRemove (timed : Timed s) (current : s.timerOf key = some id)
    (other : Nat) : (s.timerRemove id).timersOf other =
      if other = key then s.expiredOf key else s.timersOf other := by
  show List.countP _ (List.filter _ _) = _
  rw [List.countP_filter]
  split
  · next here =>
      refine List.countP_congr fun timer member => ?_
      rw [here]
      by_cases own : mapKey timer.arg2User = key
      · cases armed : timer.expired with
        | false =>
            have same := timed.own timer member armed
            rw [own, current] at same
            simp [Option.some.inj same]
        | true => simp
      · simp [own]
  · next elsewhere =>
      refine List.countP_congr fun timer member => ?_
      by_cases own : mapKey timer.arg2User = other
      · have different : timer.id ≠ id := fun same =>
          elsewhere (own.symm.trans (timed.owner key id current timer member same))
        simp [own, different]
      · simp [own]

/-- An association that is not there has no timer. -/
theorem Timed.timersOf_absent (timed : Timed s) (absent : s.timerOf key = none) :
    s.timersOf key = 0 := by
  refine timersOf_eq_zero.mpr fun timer member here => timed.known timer member ?_
  rw [here, absent]

/-! ### Heartbeat requests -/

/-- A heartbeat request that was not reported is the one its association knows, and no
other association knows a request. -/
structure Requested (s : State) : Prop where
  own : ∀ heartbeat ∈ s.heartbeats, heartbeat.notified = false →
    s.requestOf (mapKey heartbeat.hashNodeId) = some heartbeat.trxnId
  range : ∀ heartbeat ∈ s.heartbeats, 0 < heartbeat.trxnId ∧ heartbeat.trxnId ≤ s.trxnId
  bound : ∀ key trxnId, s.requestOf key = some trxnId → trxnId ≤ s.trxnId
  owner : ∀ key trxnId, s.requestOf key = some trxnId →
    ∀ heartbeat ∈ s.heartbeats, heartbeat.trxnId = trxnId →
      heartbeat.notified = false ∧ mapKey heartbeat.hashNodeId = key

theorem requested_init (cfg : Config) : Requested (init cfg) where
  own heartbeat member := by cases member
  range heartbeat member := by cases member
  bound key trxnId known := by simp [requestOf, init] at known
  owner key trxnId _ heartbeat member := by cases member

/-- Requests go. -/
theorem Requested.shrink (requested : Requested s)
    (same : ∀ key, t.requestOf key = s.requestOf key) (sameTrxnId : t.trxnId = s.trxnId)
    (before : ∀ heartbeat ∈ t.heartbeats, heartbeat ∈ s.heartbeats) : Requested t where
  own heartbeat member open' := by
    rw [same]
    exact requested.own heartbeat (before heartbeat member) open'
  range heartbeat member := by
    rw [sameTrxnId]
    exact requested.range heartbeat (before heartbeat member)
  bound key trxnId known := by
    rw [sameTrxnId]
    exact requested.bound key trxnId ((same key).symm.trans known)
  owner key trxnId known heartbeat member :=
    requested.owner key trxnId ((same key).symm.trans known) heartbeat (before heartbeat member)

/-- The association under `key` forgets its request, which was reported or is gone. -/
theorem Requested.clear (requested : Requested s)
    (knows : ∀ other, t.requestOf other = if other = key then some 0 else s.requestOf other)
    (sameTrxnId : t.trxnId = s.trxnId)
    (before : ∀ heartbeat ∈ t.heartbeats, ∃ old ∈ s.heartbeats,
      old.trxnId = heartbeat.trxnId ∧ old.hashNodeId = heartbeat.hashNodeId ∧
        (old.notified = heartbeat.notified ∨
          heartbeat.notified = true ∧ s.requestOf key = some old.trxnId))
    (gone : t.requestsOf key = 0) : Requested t where
  own heartbeat member open' := by
    obtain ⟨old, there, sameId, sameHash, same | ⟨reported, -⟩⟩ := before heartbeat member
    · rw [knows, if_neg (requestsOf_eq_zero.mp gone heartbeat member open'), ← sameId, ← sameHash]
      exact requested.own old there (same.trans open')
    · rw [open'] at reported
      cases reported
  range heartbeat member := by
    obtain ⟨old, there, sameId, -⟩ := before heartbeat member
    rw [sameTrxnId, ← sameId]
    exact requested.range old there
  bound other trxnId known := by
    rw [knows] at known
    rw [sameTrxnId]
    split at known
    · rw [← Option.some.inj known]
      exact Nat.zero_le _
    · exact requested.bound other trxnId known
  owner other trxnId known heartbeat member own := by
    rw [knows] at known
    obtain ⟨old, there, sameId, sameHash, notified⟩ := before heartbeat member
    split at known
    · have range := (requested.range old there).1
      rw [sameId, own, ← Option.some.inj known] at range
      exact absurd range (lt_irrefl _)
    · next elsewhere =>
        obtain ⟨open', here⟩ := requested.owner other trxnId known old there (sameId.trans own)
        rw [← sameHash]
        refine ⟨?_, here⟩
        rcases notified with same | ⟨-, reported⟩
        · rw [← same, open']
        · have there' := (requested.owner key old.trxnId reported old there rfl).2
          exact absurd (here.symm.trans there') elsewhere

/-- A new request is sent for the association under `key`, which has none. -/
theorem Requested.send {hashNodeId : Nat} (requested : Requested s)
    (place : mapKey hashNodeId = key) (newer : s.trxnId < trxnId)
    (heartbeats : t.heartbeats = ⟨trxnId, hashNodeId, false⟩ :: s.heartbeats)
    (stored : t.trxnId = trxnId)
    (knows : ∀ other, t.requestOf other = if other = key then some trxnId else s.requestOf other)
    (none : s.requestsOf key = 0) : Requested t where
  own heartbeat member open' := by
    rw [heartbeats] at member
    rw [knows]
    rcases List.mem_cons.mp member with rfl | old
    · rw [if_pos place]
    · rw [if_neg (requestsOf_eq_zero.mp none heartbeat old open')]
      exact requested.own heartbeat old open'
  range heartbeat member := by
    rw [heartbeats] at member
    rw [stored]
    rcases List.mem_cons.mp member with rfl | old
    · exact ⟨Nat.zero_lt_of_lt newer, le_rfl⟩
    · have range := requested.range heartbeat old
      exact ⟨range.1, (range.2.trans_lt newer).le⟩
  bound other known' known := by
    rw [knows] at known
    rw [stored]
    split at known
    · exact (Option.some.inj known).ge
    · exact (requested.bound other known' known).trans newer.le
  owner other known' known heartbeat member own := by
    rw [knows] at known
    rw [heartbeats] at member
    split at known
    · next here =>
        rcases List.mem_cons.mp member with rfl | old
        · exact ⟨rfl, place.trans here.symm⟩
        · have range := (requested.range heartbeat old).2
          rw [own, ← Option.some.inj known] at range
          exact absurd newer range.not_gt
    · rcases List.mem_cons.mp member with rfl | old
      · have bound := requested.bound other known' known
        rw [← own] at bound
        exact absurd newer bound.not_gt
      · exact requested.owner other known' known heartbeat old own

/-- The only request of an association that was not reported. -/
theorem Requested.same_trxnId (requested : Requested s) {heartbeat other : HeartbeatProcedure}
    (member : heartbeat ∈ s.heartbeats) (open' : heartbeat.notified = false)
    (there : other ∈ s.heartbeats) (openThere : other.notified = false)
    (same : mapKey other.hashNodeId = mapKey heartbeat.hashNodeId) :
    other.trxnId = heartbeat.trxnId := by
  have own := requested.own heartbeat member open'
  have ownThere := requested.own other there openThere
  rw [same, own] at ownThere
  exact (Option.some.inj ownThere).symm

/-- A request that is dropped or reported no longer counts. -/
theorem Requested.requestsOf_drop (requested : Requested s) {heartbeat : HeartbeatProcedure}
    (member : heartbeat ∈ s.heartbeats) (open' : heartbeat.notified = false) (other : Nat) :
    (s.drop heartbeat.trxnId).requestsOf other =
      if other = mapKey heartbeat.hashNodeId then 0 else s.requestsOf other := by
  split
  · next here =>
      refine requestsOf_eq_zero.mpr fun left stays openLeft same => ?_
      obtain ⟨there, different⟩ := List.mem_filter.mp stays
      exact of_decide_eq_true different
        (requested.same_trxnId member open' there openLeft (same.trans here))
  · next elsewhere =>
      show List.countP _ (List.filter _ _) = _
      rw [List.countP_filter]
      refine List.countP_congr fun left there => ?_
      have owner := requested.owner _ _ (requested.own heartbeat member open') left there
      by_cases same : left.trxnId = heartbeat.trxnId
      · simp [(owner same).2, Ne.symm elsewhere]
      · simp [same]

/-- One that was reported does not count before. -/
theorem Requested.requestsOf_drop_notified (requested : Requested s)
    {heartbeat : HeartbeatProcedure} (member : heartbeat ∈ s.heartbeats)
    (notified : heartbeat.notified = true) (other : Nat) :
    (s.drop heartbeat.trxnId).requestsOf other = s.requestsOf other := by
  show List.countP _ (List.filter _ _) = _
  rw [List.countP_filter]
  refine List.countP_congr fun left there => ?_
  by_cases same : left.trxnId = heartbeat.trxnId
  · have reported : left.notified = true := by
      by_contra openLeft
      have own := requested.own left there (Bool.eq_false_iff.mpr openLeft)
      have owner := (requested.owner _ _ own heartbeat member same.symm).1
      rw [notified] at owner
      cases owner
    simp [reported]
  · simp [same]

theorem Requested.requestsOf_report (requested : Requested s) {heartbeat : HeartbeatProcedure}
    (member : heartbeat ∈ s.heartbeats) (open' : heartbeat.notified = false) (other : Nat) :
    (s.report heartbeat.trxnId).requestsOf other =
      if other = mapKey heartbeat.hashNodeId then 0 else s.requestsOf other := by
  rw [← requested.requestsOf_drop member open' other]
  show List.countP _ (List.map _ _) = List.countP _ (List.filter _ _)
  rw [List.countP_map, List.countP_filter]
  refine List.countP_congr fun left _ => ?_
  by_cases same : left.trxnId = heartbeat.trxnId
  · simp [same]
  · simp [same]

theorem Requested.requestsOf_absent (requested : Requested s) (absent : s.requestOf key = none) :
    s.requestsOf key = 0 := by
  refine requestsOf_eq_zero.mpr fun heartbeat member open' here => ?_
  have own := requested.own heartbeat member open'
  rw [here, absent] at own
  cases own

/-! ### Arming a timer -/

theorem timerOf_trigger (key : Nat) (a : PfcpAssociation) (other : Nat) :
    (u.triggerHeartbeatRequestProcedure key a).timerOf other =
      if other = key then some (u.timerId + 1) else u.timerOf other :=
  map_getElem?_of_insert PfcpAssociation.timerHeartbeat { a with timerHeartbeat := u.timerId + 1 }
    rfl other

theorem requestOf_trigger (key : Nat) (a : PfcpAssociation) (other : Nat) :
    (u.triggerHeartbeatRequestProcedure key a).requestOf other =
      if other = key then some a.trxnIdHeartbeat else u.requestOf other :=
  map_getElem?_of_insert PfcpAssociation.trxnIdHeartbeat { a with timerHeartbeat := u.timerId + 1 }
    rfl other

theorem timersOf_trigger {a : PfcpAssociation} (place : mapKey a.hashNodeId = key) (other : Nat) :
    (u.triggerHeartbeatRequestProcedure key a).timersOf other =
      if other = key then u.timersOf key + 1 else u.timersOf other := by
  show List.countP _ (_ :: _) = _
  split
  · next here =>
      rw [List.countP_cons_of_pos (by simpa [here] using place), here]
      rfl
  · next elsewhere =>
      refine List.countP_cons_of_neg ?_
      simpa [place] using Ne.symm elsewhere

theorem Timed.retrigger (timed : Timed s) (current : s.timerOf key = some id)
    {a : PfcpAssociation} (place : mapKey a.hashNodeId = key) :
    Timed ((s.timerRemove id).triggerHeartbeatRequestProcedure key a) :=
  timed.rearm place rfl (timed.mem_timerRemove current) rfl (timerOf_trigger key a)

theorem Timed.timersOf_retrigger (timed : Timed s) (current : s.timerOf key = some id)
    {a : PfcpAssociation} (place : mapKey a.hashNodeId = key) (other : Nat) :
    ((s.timerRemove id).triggerHeartbeatRequestProcedure key a).timersOf other =
      if other = key then s.expiredOf key + 1 else s.timersOf other := by
  rw [timersOf_trigger place, timed.timersOf_timerRemove current,
    timed.timersOf_timerRemove current, if_pos rfl]
  split
  · rfl
  · rfl

theorem expiredOf_le : s.expiredOf key ≤ s.timersOf key := by
  refine List.countP_mono_left fun timer _ both => ?_
  exact (Bool.and_eq_true_iff.mp both).2

/-! ### What a step does -/

/-- The parts that supervise the nodes. -/
structure SameWatch (s t : State) : Prop where
  associations : ∀ key : Nat, t.associations[key]? = s.associations[key]?
  timerId : t.timerId = s.timerId
  timers : t.timers = s.timers
  trxnId : t.trxnId = s.trxnId
  heartbeats : t.heartbeats = s.heartbeats

namespace SameWatch

theorem refl (s : State) : SameWatch s s := ⟨fun _ => rfl, rfl, rfl, rfl, rfl⟩

theorem trans (first : SameWatch s t) (second : SameWatch t u) : SameWatch s u where
  associations key := (second.associations key).trans (first.associations key)
  timerId := second.timerId.trans first.timerId
  timers := second.timers.trans first.timers
  trxnId := second.trxnId.trans first.trxnId
  heartbeats := second.heartbeats.trans first.heartbeats

theorem watchedBy (same : SameWatch s t) (key : Nat) : t.watchedBy key = s.watchedBy key := by
  unfold State.watchedBy timersOf requestsOf
  rw [same.timers, same.heartbeats]

theorem timed (same : SameWatch s t) (timed : Timed s) : Timed t :=
  timed.shrink (fun key => by rw [timerOf, timerOf, same.associations]) same.timerId
    fun timer member => ⟨timer, by rwa [← same.timers], rfl, rfl, id⟩

theorem requested (same : SameWatch s t) (requested : Requested s) : Requested t :=
  requested.shrink (fun key => by rw [requestOf, requestOf, same.associations]) same.trxnId
    fun heartbeat member => by rwa [← same.heartbeats]

theorem notifyNodeNotReachable (s : State) (hashNodeId : Nat) :
    SameWatch s (s.notifyNodeNotReachable hashNodeId) := by
  unfold State.notifyNodeNotReachable
  split
  · dsimp only
    split <;> exact ⟨fun _ => rfl, rfl, rfl, rfl, rfl⟩
  · exact ⟨fun _ => rfl, rfl, rfl, rfl, rfl⟩

theorem notifyNodeReachable (s : State) (hashNodeId : Nat) :
    SameWatch s (s.notifyNodeReachable hashNodeId) := by
  unfold State.notifyNodeReachable
  split <;> exact ⟨fun _ => rfl, rfl, rfl, rfl, rfl⟩

theorem notifyNodeRestarted (s : State) (hashNodeId : Nat) :
    SameWatch s (s.notifyNodeRestarted hashNodeId) := by
  unfold State.notifyNodeRestarted
  split <;> exact ⟨fun _ => rfl, rfl, rfl, rfl, rfl⟩

end SameWatch

/-- Timers and requests belong to the associations, at most one to each. -/
structure Wired (cfg : Config) (s : State) : Prop where
  keyed : Keyed cfg s
  triggers : ∀ (key : Nat) (a : PfcpAssociation), s.associations[key]? = some a →
    a.isTriggerHeartbeatRequestProcedure = true
  timed : Timed s
  requested : Requested s
  single : ∀ key, s.watchedBy key ≤ 1

theorem wired_init (cfg : Config) : Wired cfg (init cfg) where
  keyed := keyed_init cfg
  triggers key a found := by simp [init] at found
  timed := timed_init cfg
  requested := requested_init cfg
  single key := Nat.zero_le 1

theorem Keyed.place (keyed : Keyed cfg s) {a : PfcpAssociation}
    (found : s.associations[key]? = some a) : mapKey a.hashNodeId = key :=
  (keyed.association key a.label (label_of_found found)).2.symm

/-- What a step does to timers and requests. -/
inductive Watch (cfg : Config) (s : State) (action : Action) (t : State) : Prop where
  | same (ignored : ∀ asked ∈ action.setsUp, s.answering asked.1 = none)
      (silent : action.answersHeartbeat = none) (up : ∀ key ∈ t.upNodes, key ∈ s.upNodes)
      (watch : SameWatch s t)
  /-- The time stamp is the one that is known. -/
  | stopped (nodeId : NodeId) (stamp : Nat) (sa : PfcpAssociation)
      (asked : action.setsUp = some (nodeId, stamp)) (answers : s.answering nodeId ≠ none)
      (found : s.associations[cfg.key nodeId]? = some sa) (current : sa.recoveryTimeStamp = stamp)
      (up : ∀ key, key ∈ t.upNodes ↔ key = cfg.key nodeId ∨ key ∈ s.upNodes)
      (watch : SameWatch (s.timerRemove sa.timerHeartbeat) t)
  | rearmed (nodeId : NodeId) (stamp : Nat) (sa a : PfcpAssociation)
      (asked : action.setsUp = some (nodeId, stamp)) (answers : s.answering nodeId ≠ none)
      (found : s.associations[cfg.key nodeId]? = some sa) (other : sa.recoveryTimeStamp ≠ stamp)
      (hash : a.hashNodeId = sa.hashNodeId) (trxn : a.trxnIdHeartbeat = sa.trxnIdHeartbeat)
      (triggers : a.isTriggerHeartbeatRequestProcedure = true)
      (up : ∀ key, key ∈ t.upNodes ↔ key = cfg.key nodeId ∨ key ∈ s.upNodes)
      (watch : SameWatch ((s.timerRemove sa.timerHeartbeat).triggerHeartbeatRequestProcedure
        (cfg.key nodeId) a) t)
  | started (nodeId : NodeId) (stamp : Nat) (a : PfcpAssociation)
      (asked : action.setsUp = some (nodeId, stamp)) (answers : s.answering nodeId ≠ none)
      (absent : s.associations[cfg.key nodeId]? = none)
      (hash : a.hashNodeId = cfg.hashNodeId nodeId) (trxn : a.trxnIdHeartbeat = 0)
      (triggers : a.isTriggerHeartbeatRequestProcedure = true)
      (up : ∀ key, key ∈ t.upNodes ↔ key = cfg.key nodeId ∨ key ∈ s.upNodes)
      (watch : SameWatch (s.triggerHeartbeatRequestProcedure (cfg.key nodeId) a) t)
  | signalled (timerId : Nat) (asked : action.setsUp = none)
      (silent : action.answersHeartbeat = none) (up : t.upNodes = s.upNodes)
      (watch : SameWatch (s.signal timerId) t)
  /-- `TIME_OUT` is handled and a request is sent. -/
  | fired (timer : HeartbeatTimer) (trxnId : Nat) (a : PfcpAssociation)
      (asked : action.setsUp = none) (silent : action.answersHeartbeat = none)
      (member : timer ∈ s.timers) (newer : s.trxnId < trxnId)
      (found : s.associations[mapKey timer.arg2User]? = some a) (up : t.upNodes = s.upNodes)
      (watch : SameWatch ({ s with timers := s.timers.erase timer }.sendHeartbeatRequest
        (mapKey timer.arg2User) { a with numRetriesTimerHeartbeat := 0 } trxnId).1 t)
  /-- A request is not answered, or answered as expected, and a timer is armed. -/
  | resumed (heartbeat : HeartbeatProcedure) (a : PfcpAssociation) (b : State)
      (asked : action.setsUp = none) (member : heartbeat ∈ s.heartbeats)
      (open' : heartbeat.notified = false)
      (found : s.associations[mapKey heartbeat.hashNodeId]? = some a)
      (ended : b = s.report heartbeat.trxnId ∨ b = s.drop heartbeat.trxnId)
      (current : ∀ answer ∈ action.answersHeartbeat,
        answer = (heartbeat.trxnId, some a.recoveryTimeStamp))
      (up : ∀ key ∈ t.upNodes, key ∈ s.upNodes)
      (watch : SameWatch ((b.timerRemove a.timerHeartbeat).triggerHeartbeatRequestProcedure
        (mapKey heartbeat.hashNodeId) { a with trxnIdHeartbeat := 0 }) t)
  /-- The node has restarted: no timer is armed. -/
  | restarted (heartbeat : HeartbeatProcedure) (a : PfcpAssociation) (stamp : Nat)
      (asked : action.answersHeartbeat = some (heartbeat.trxnId, some stamp))
      (member : heartbeat ∈ s.heartbeats) (open' : heartbeat.notified = false)
      (found : s.associations[mapKey heartbeat.hashNodeId]? = some a)
      (other : a.recoveryTimeStamp ≠ stamp) (up : ∀ key, key ∈ t.upNodes ↔ key ∈ s.upNodes)
      (watch : SameWatch { (s.drop heartbeat.trxnId).timerRemove a.timerHeartbeat with
        associations := s.associations.insert (mapKey heartbeat.hashNodeId)
          { a with trxnIdHeartbeat := 0 } } t)
  /-- The response has no time stamp. -/
  | unstamped (heartbeat : HeartbeatProcedure)
      (asked : action.answersHeartbeat = some (heartbeat.trxnId, none))
      (member : heartbeat ∈ s.heartbeats) (open' : heartbeat.notified = false)
      (up : t.upNodes = s.upNodes) (watch : SameWatch (s.drop heartbeat.trxnId) t)
  /-- The request was reported before. -/
  | late (heartbeat : HeartbeatProcedure) (asked : action.setsUp = none)
      (member : heartbeat ∈ s.heartbeats) (notified : heartbeat.notified = true)
      (answers : ∀ answer ∈ action.answersHeartbeat, answer.1 = heartbeat.trxnId)
      (up : t.upNodes = s.upNodes) (watch : SameWatch (s.drop heartbeat.trxnId) t)

/-- What is kept of the associations. -/
structure Linked (t : State) : Prop where
  triggers : ∀ (key : Nat) (a : PfcpAssociation), t.associations[key]? = some a →
    a.isTriggerHeartbeatRequestProcedure = true
  timed : Timed t
  requested : Requested t

theorem Linked.congr (linked : Linked s) (same : SameWatch s t) : Linked t where
  triggers key a found := linked.triggers key a (by rw [← same.associations]; exact found)
  timed := same.timed linked.timed
  requested := same.requested linked.requested

theorem Wired.linked (wired : Wired cfg s) : Linked s :=
  ⟨wired.triggers, wired.timed, wired.requested⟩

theorem triggers_of_insert {a : PfcpAssociation} (linked : Linked s)
    (stored : t.associations = s.associations.insert key a)
    (own : a.isTriggerHeartbeatRequestProcedure = true) (other : Nat) (b : PfcpAssociation)
    (found : t.associations[other]? = some b) : b.isTriggerHeartbeatRequestProcedure = true := by
  rw [stored] at found
  rcases getElem?_insert_eq_some.mp found with ⟨-, rfl⟩ | ⟨-, before⟩
  · exact own
  · exact linked.triggers other b before

theorem timerOf_of_found {a : PfcpAssociation} (found : s.associations[key]? = some a) :
    s.timerOf key = some a.timerHeartbeat := by
  rw [timerOf, found, Option.map_some]

theorem requestOf_of_found {a : PfcpAssociation} (found : s.associations[key]? = some a) :
    s.requestOf key = some a.trxnIdHeartbeat := by
  rw [requestOf, found, Option.map_some]

/-- An association is written back with its timer. -/
theorem timerOf_of_insert {a old : PfcpAssociation} (found : s.associations[key]? = some old)
    (same : a.timerHeartbeat = old.timerHeartbeat)
    (stored : t.associations = s.associations.insert key a) (other : Nat) :
    t.timerOf other = s.timerOf other := by
  rw [timerOf, map_getElem?_of_insert PfcpAssociation.timerHeartbeat a stored, same]
  split
  · next here => rw [here, timerOf_of_found found]
  · rfl

theorem Linked.timerRemove (linked : Linked s) (id : Nat) : Linked (s.timerRemove id) where
  triggers := linked.triggers
  timed := linked.timed.shrink (fun _ => rfl) rfl fun timer member =>
    ⟨timer, (List.mem_filter.mp member).1, rfl, rfl, fun armed => armed⟩
  requested := linked.requested.shrink (fun _ => rfl) rfl fun _ member => member

theorem Linked.drop (linked : Linked s) (trxnId : Nat) : Linked (s.drop trxnId) where
  triggers := linked.triggers
  timed := linked.timed.shrink (fun _ => rfl) rfl fun timer member =>
    ⟨timer, member, rfl, rfl, fun armed => armed⟩
  requested := linked.requested.shrink (fun _ => rfl) rfl fun _ member =>
    (List.mem_filter.mp member).1

theorem Linked.signal (linked : Linked s) (timerId : Nat) : Linked (s.signal timerId) where
  triggers := linked.triggers
  timed := by
    refine linked.timed.shrink (fun _ => rfl) rfl fun timer member => ?_
    obtain ⟨old, there, rfl⟩ := List.mem_map.mp member
    refine ⟨old, there, ?_⟩
    split
    · exact ⟨rfl, rfl, fun armed => by cases armed⟩
    · exact ⟨rfl, rfl, fun armed => armed⟩
  requested := linked.requested.shrink (fun _ => rfl) rfl fun _ member => member

theorem Linked.rearmed {sa a : PfcpAssociation} (linked : Linked s)
    (place : mapKey sa.hashNodeId = key) (found : s.associations[key]? = some sa)
    (hash : a.hashNodeId = sa.hashNodeId) (trxn : a.trxnIdHeartbeat = sa.trxnIdHeartbeat)
    (triggers : a.isTriggerHeartbeatRequestProcedure = true) :
    Linked ((s.timerRemove sa.timerHeartbeat).triggerHeartbeatRequestProcedure key a) where
  triggers := triggers_of_insert (linked.timerRemove sa.timerHeartbeat) rfl triggers
  timed := linked.timed.retrigger (timerOf_of_found found) (by rw [hash, place])
  requested := by
    refine linked.requested.shrink (fun other => ?_) rfl fun _ member => member
    rw [requestOf_trigger]
    split
    · next here => rw [here, requestOf_of_found found, trxn]
    · rfl

theorem Linked.started {a : PfcpAssociation} (linked : Linked s)
    (place : mapKey a.hashNodeId = key) (absent : s.associations[key]? = none)
    (trxn : a.trxnIdHeartbeat = 0) (triggers : a.isTriggerHeartbeatRequestProcedure = true) :
    Linked (s.triggerHeartbeatRequestProcedure key a) where
  triggers := triggers_of_insert linked rfl triggers
  timed := by
    refine linked.timed.rearm place rfl (fun timer member => ⟨member, fun here => ?_⟩) rfl
      (timerOf_trigger key a)
    refine absurd ?_ (linked.timed.known timer member)
    rw [here, timerOf, absent, Option.map_none]
  requested := by
    refine linked.requested.clear (fun other => ?_) rfl
      (fun heartbeat member => ⟨heartbeat, member, rfl, rfl, .inl rfl⟩)
      (linked.requested.requestsOf_absent (by rw [requestOf, absent, Option.map_none]))
    rw [requestOf_trigger, trxn]

theorem Linked.fired {timer : HeartbeatTimer} {a : PfcpAssociation} (linked : Linked s)
    (place : mapKey a.hashNodeId = mapKey timer.arg2User) (newer : s.trxnId < trxnId)
    (found : s.associations[mapKey timer.arg2User]? = some a)
    (free : s.requestsOf (mapKey timer.arg2User) = 0) :
    Linked ({ s with timers := s.timers.erase timer }.sendHeartbeatRequest
      (mapKey timer.arg2User) { a with numRetriesTimerHeartbeat := 0 } trxnId).1 := by
  let sent : PfcpAssociation :=
    { a with numRetriesTimerHeartbeat := 0, trxnIdHeartbeat := trxnId }
  have stored : ({ s with timers := s.timers.erase timer }.sendHeartbeatRequest
      (mapKey timer.arg2User) { a with numRetriesTimerHeartbeat := 0 } trxnId).1.associations =
        s.associations.insert (mapKey timer.arg2User) sent := rfl
  exact {
    triggers := triggers_of_insert linked stored (linked.triggers _ a found)
    timed := by
      have same : sent.timerHeartbeat = a.timerHeartbeat := rfl
      refine linked.timed.shrink (timerOf_of_insert found same stored) rfl fun timer member => ?_
      exact ⟨timer, List.mem_of_mem_erase member, rfl, rfl, fun armed => armed⟩
    requested := linked.requested.send place newer rfl rfl
      (map_getElem?_of_insert PfcpAssociation.trxnIdHeartbeat sent stored) free }

theorem ended_heartbeats {b : State} {heartbeat : HeartbeatProcedure} (requested : Requested s)
    (member : heartbeat ∈ s.heartbeats) (open' : heartbeat.notified = false)
    (ended : b = s.report heartbeat.trxnId ∨ b = s.drop heartbeat.trxnId) :
    (∀ left ∈ b.heartbeats, ∃ old ∈ s.heartbeats, old.trxnId = left.trxnId ∧
        old.hashNodeId = left.hashNodeId ∧ (old.notified = left.notified ∨
          left.notified = true ∧
            s.requestOf (mapKey heartbeat.hashNodeId) = some old.trxnId)) ∧
      ∀ other, b.requestsOf other =
        if other = mapKey heartbeat.hashNodeId then 0 else s.requestsOf other := by
  rcases ended with rfl | rfl
  · refine ⟨fun left stays => ?_, requested.requestsOf_report member open'⟩
    obtain ⟨old, there, rfl⟩ := List.mem_map.mp stays
    refine ⟨old, there, ?_⟩
    split
    · next same =>
        refine ⟨rfl, rfl, .inr ⟨rfl, ?_⟩⟩
        rw [same]
        exact requested.own heartbeat member open'
    · exact ⟨rfl, rfl, .inl rfl⟩
  · refine ⟨fun left stays => ⟨left, (List.mem_filter.mp stays).1, rfl, rfl, .inl rfl⟩, ?_⟩
    exact requested.requestsOf_drop member open'

/-- What ends a request does not touch timers and associations. -/
structure SameTimers (s t : State) : Prop where
  associations : t.associations = s.associations
  timerId : t.timerId = s.timerId
  timers : t.timers = s.timers
  trxnId : t.trxnId = s.trxnId

theorem SameTimers.timed (same : SameTimers s t) (timed : Timed s) : Timed t :=
  timed.shrink (fun key => by rw [timerOf, timerOf, same.associations]) same.timerId
    fun timer member => ⟨timer, by rwa [← same.timers], rfl, rfl, fun armed => armed⟩

theorem sameTimers_of_ended {b : State} (ended : b = s.report trxnId ∨ b = s.drop trxnId) :
    SameTimers s b := by
  rcases ended with rfl | rfl <;> exact ⟨rfl, rfl, rfl, rfl⟩

theorem Linked.resumed {heartbeat : HeartbeatProcedure} {a : PfcpAssociation} {b : State}
    (linked : Linked s) (place : mapKey a.hashNodeId = mapKey heartbeat.hashNodeId)
    (member : heartbeat ∈ s.heartbeats) (open' : heartbeat.notified = false)
    (found : s.associations[mapKey heartbeat.hashNodeId]? = some a)
    (ended : b = s.report heartbeat.trxnId ∨ b = s.drop heartbeat.trxnId) :
    Linked ((b.timerRemove a.timerHeartbeat).triggerHeartbeatRequestProcedure
      (mapKey heartbeat.hashNodeId) { a with trxnIdHeartbeat := 0 }) := by
  obtain ⟨before, counts⟩ := ended_heartbeats linked.requested member open' ended
  have same := sameTimers_of_ended ended
  have foundThere : b.associations[mapKey heartbeat.hashNodeId]? = some a := by
    rw [same.associations]
    exact found
  exact {
    triggers := fun other c after => by
      have stored : ((b.timerRemove a.timerHeartbeat).triggerHeartbeatRequestProcedure
          (mapKey heartbeat.hashNodeId) { a with trxnIdHeartbeat := 0 }).associations =
            s.associations.insert (mapKey heartbeat.hashNodeId)
              { a with trxnIdHeartbeat := 0, timerHeartbeat := b.timerId + 1 } := by
        rw [← same.associations]
        rfl
      exact triggers_of_insert linked stored (linked.triggers _ a found) other c after
    timed := (same.timed linked.timed).retrigger (timerOf_of_found foundThere) place
    requested := by
      refine linked.requested.clear (fun other => ?_) same.trxnId before ?_
      · rw [requestOf_trigger]
        split
        · rfl
        · show ((b.associations[other]?).map _) = _
          rw [same.associations]
          rfl
      · show b.requestsOf _ = 0
        rw [counts, if_pos rfl] }

theorem Linked.restarted {heartbeat : HeartbeatProcedure} {a : PfcpAssociation}
    (linked : Linked s) (member : heartbeat ∈ s.heartbeats) (open' : heartbeat.notified = false)
    (found : s.associations[mapKey heartbeat.hashNodeId]? = some a) :
    Linked { (s.drop heartbeat.trxnId).timerRemove a.timerHeartbeat with
      associations := s.associations.insert (mapKey heartbeat.hashNodeId)
        { a with trxnIdHeartbeat := 0 } } := by
  let forgotten : PfcpAssociation := { a with trxnIdHeartbeat := 0 }
  obtain ⟨before, counts⟩ := ended_heartbeats linked.requested member open' (.inr rfl)
  exact {
    triggers := triggers_of_insert linked rfl (linked.triggers _ a found)
    timed := by
      have same : forgotten.timerHeartbeat = a.timerHeartbeat := rfl
      refine linked.timed.shrink (timerOf_of_insert found same rfl) rfl fun timer there => ?_
      exact ⟨timer, (List.mem_filter.mp there).1, rfl, rfl, fun armed => armed⟩
    requested := by
      refine linked.requested.clear
        (map_getElem?_of_insert PfcpAssociation.trxnIdHeartbeat forgotten rfl) rfl before ?_
      show (s.drop heartbeat.trxnId).requestsOf _ = 0
      rw [counts, if_pos rfl] }

/-- What supervises an association is its one timer or its one request. -/
theorem Wired.timersOf_of_open (wired : Wired cfg s) {heartbeat : HeartbeatProcedure}
    (member : heartbeat ∈ s.heartbeats) (open' : heartbeat.notified = false) :
    s.timersOf (mapKey heartbeat.hashNodeId) = 0 ∧
      s.requestsOf (mapKey heartbeat.hashNodeId) = 1 := by
  have single := wired.single (mapKey heartbeat.hashNodeId)
  have counted : 0 < s.requestsOf (mapKey heartbeat.hashNodeId) :=
    List.countP_pos_iff.mpr ⟨heartbeat, member, by simp [open']⟩
  unfold watchedBy at single
  omega

theorem Wired.requestsOf_of_timer (wired : Wired cfg s) {timer : HeartbeatTimer}
    (member : timer ∈ s.timers) : s.timersOf (mapKey timer.arg2User) = 1 ∧
      s.requestsOf (mapKey timer.arg2User) = 0 := by
  have single := wired.single (mapKey timer.arg2User)
  have counted : 0 < s.timersOf (mapKey timer.arg2User) :=
    List.countP_pos_iff.mpr ⟨timer, member, by simp⟩
  unfold watchedBy at single
  omega

theorem Watch.linked (wired : Wired cfg s) (watch : Watch cfg s action t) : Linked t := by
  cases watch with
  | same _ _ _ watch => exact wired.linked.congr watch
  | stopped _ _ sa _ _ _ _ _ watch =>
      exact (wired.linked.timerRemove sa.timerHeartbeat).congr watch
  | rearmed _ _ sa a _ _ found _ hash trxn triggers _ watch =>
      exact (wired.linked.rearmed (wired.keyed.place found) found hash trxn triggers).congr watch
  | started nodeId _ a _ _ absent hash trxn triggers _ watch =>
      have place : mapKey a.hashNodeId = cfg.key nodeId := by
        rw [hash]
        rfl
      exact (wired.linked.started place absent trxn triggers).congr watch
  | signalled timerId _ _ _ watch => exact (wired.linked.signal timerId).congr watch
  | fired timer trxnId a _ _ member newer found _ watch =>
      exact (wired.linked.fired (wired.keyed.place found) newer found
        (wired.requestsOf_of_timer member).2).congr watch
  | resumed heartbeat a b _ member open' found ended _ _ watch =>
      exact (wired.linked.resumed (wired.keyed.place found) member open' found ended).congr watch
  | restarted heartbeat a _ _ member open' found _ _ watch =>
      exact (wired.linked.restarted member open' found).congr watch
  | unstamped heartbeat _ _ _ _ watch => exact (wired.linked.drop heartbeat.trxnId).congr watch
  | late heartbeat _ _ _ _ _ watch => exact (wired.linked.drop heartbeat.trxnId).congr watch

/-! ### Supervision -/

/-- Every node in service is supervised once. -/
def Supervised (s : State) : Prop := ∀ key ∈ s.upNodes, s.watchedBy key = 1

/-- A setup message that a node answers leaves its association with one timer or request:
what is due already, where the time stamp is known, and a new timer otherwise. -/
def Rearms (cfg : Config) (s : State) (action : Action) : Prop :=
  ∀ asked ∈ action.setsUp, s.answering asked.1 ≠ none →
    ∀ sa ∈ s.associations[cfg.key asked.1]?,
      s.dueOf (cfg.key asked.1) = if sa.recoveryTimeStamp = asked.2 then 1 else 0

/-- A heartbeat response of a node in service has the time stamp that is known. -/
def Confirms (s : State) (action : Action) : Prop :=
  ∀ answer ∈ action.answersHeartbeat, ∀ heartbeat ∈ s.heartbeats, heartbeat.trxnId = answer.1 →
    heartbeat.notified = false → mapKey heartbeat.hashNodeId ∈ s.upNodes →
      ∀ a ∈ s.associations[mapKey heartbeat.hashNodeId]?, answer.2 = some a.recoveryTimeStamp

/-- How a step changes what supervises the associations. -/
inductive Shift (cfg : Config) (s : State) (action : Action) (t : State) : Prop where
  | kept (rearms : Rearms cfg s action) (confirms : Confirms s action)
      (counts : ∀ key, t.watchedBy key = s.watchedBy key) (up : ∀ key ∈ t.upNodes, key ∈ s.upNodes)
  | setUp (key n : Nat) (confirms : Confirms s action) (rearms : n = 1 ↔ Rearms cfg s action)
      (counts : ∀ other, t.watchedBy other = if other = key then n else s.watchedBy other)
      (up : ∀ other, other ∈ t.upNodes ↔ other = key ∨ other ∈ s.upNodes)
  | letGo (key : Nat) (rearms : Rearms cfg s action)
      (confirms : Confirms s action ↔ key ∉ s.upNodes)
      (counts : ∀ other, t.watchedBy other = if other = key then 0 else s.watchedBy other)
      (up : ∀ other, other ∈ t.upNodes ↔ other ∈ s.upNodes)

theorem confirms_of_silent (silent : action.answersHeartbeat = none) : Confirms s action := by
  intro answer asked
  rw [silent] at asked
  cases asked

theorem rearms_of_unasked (asked : action.setsUp = none) : Rearms cfg s action := by
  intro request isAsked
  rw [asked] at isAsked
  cases isAsked

theorem Action.answersHeartbeat_of_setsUp {asked : NodeId × Nat}
    (sets : action.setsUp = some asked) : action.answersHeartbeat = none := by
  cases action with
  | heartbeatResponse trxnId stamp found => cases sets
  | _ => rfl

theorem Action.setsUp_of_answersHeartbeat {answer : Nat × Option Nat}
    (answers : action.answersHeartbeat = some answer) : action.setsUp = none := by
  cases action with
  | heartbeatResponse trxnId stamp found => rfl
  | _ => cases answers

/-- The one request with that transaction is the one of the association. -/
theorem Requested.key_eq (requested : Requested s) {heartbeat other : HeartbeatProcedure}
    (member : heartbeat ∈ s.heartbeats) (open' : heartbeat.notified = false)
    (there : other ∈ s.heartbeats) (same : other.trxnId = heartbeat.trxnId) :
    other.notified = false ∧ mapKey other.hashNodeId = mapKey heartbeat.hashNodeId :=
  requested.owner _ _ (requested.own heartbeat member open') other there same

theorem rearms_iff {nodeId : NodeId} {stamp : Nat} {sa : PfcpAssociation}
    (asked : action.setsUp = some (nodeId, stamp)) (answers : s.answering nodeId ≠ none)
    (found : s.associations[cfg.key nodeId]? = some sa) : Rearms cfg s action ↔
      s.dueOf (cfg.key nodeId) = if sa.recoveryTimeStamp = stamp then 1 else 0 := by
  unfold Rearms
  rw [asked]
  constructor
  · exact fun rearms => rearms _ rfl answers sa found
  · intro due request isAsked _ other isThere
    obtain rfl := Option.some.inj isAsked
    obtain rfl := Option.some.inj (found.symm.trans isThere)
    exact due

/-- A timer takes the place of the request. -/
theorem Wired.watchedBy_resumed (wired : Wired cfg s) {heartbeat : HeartbeatProcedure}
    {a : PfcpAssociation} {b : State} (member : heartbeat ∈ s.heartbeats)
    (open' : heartbeat.notified = false)
    (found : s.associations[mapKey heartbeat.hashNodeId]? = some a)
    (ended : b = s.report heartbeat.trxnId ∨ b = s.drop heartbeat.trxnId) (key : Nat) :
    ((b.timerRemove a.timerHeartbeat).triggerHeartbeatRequestProcedure
      (mapKey heartbeat.hashNodeId) { a with trxnIdHeartbeat := 0 }).watchedBy key =
        s.watchedBy key := by
  obtain ⟨-, counts⟩ := ended_heartbeats wired.requested member open' ended
  have same := sameTimers_of_ended ended
  have place : mapKey ({ a with trxnIdHeartbeat := 0 } : PfcpAssociation).hashNodeId =
      mapKey heartbeat.hashNodeId := by
    have own := wired.keyed.place found
    exact own
  have foundThere : b.associations[mapKey heartbeat.hashNodeId]? = some a := by
    rw [same.associations]
    exact found
  obtain ⟨noTimer, oneRequest⟩ := wired.timersOf_of_open member open'
  have noneDue : s.expiredOf (mapKey heartbeat.hashNodeId) = 0 :=
    Nat.eq_zero_of_le_zero (noTimer ▸ expiredOf_le)
  have timers : b.timersOf key = s.timersOf key := by rw [timersOf, same.timers, timersOf]
  have expired : b.expiredOf (mapKey heartbeat.hashNodeId) = 0 := by
    rw [expiredOf, same.timers]
    exact noneDue
  rw [watchedBy, (same.timed wired.timed).timersOf_retrigger (timerOf_of_found foundThere) place]
  show _ + b.requestsOf key = _
  rw [counts, expired, timers, watchedBy]
  split
  · next here => rw [here, noTimer, oneRequest]
  · rfl

theorem Watch.shift (wired : Wired cfg s) (watch : Watch cfg s action t) :
    Shift cfg s action t := by
  cases watch with
  | same ignored silent up watch =>
      refine .kept (fun asked isAsked answers => ?_) (confirms_of_silent silent) watch.watchedBy up
      exact absurd (ignored asked isAsked) answers
  | stopped nodeId stamp sa asked answers found current up watch =>
      refine .setUp (cfg.key nodeId) (s.dueOf (cfg.key nodeId))
        (confirms_of_silent (Action.answersHeartbeat_of_setsUp asked)) ?_ (fun other => ?_) up
      · rw [rearms_iff asked answers found, if_pos current]
      · rw [watch.watchedBy, watchedBy,
          wired.timed.timersOf_timerRemove (timerOf_of_found found)]
        split
        · next here =>
            rw [here]
            rfl
        · rfl
  | rearmed nodeId stamp sa a asked answers found other hash _ _ up watch =>
      refine .setUp (cfg.key nodeId) (s.dueOf (cfg.key nodeId) + 1)
        (confirms_of_silent (Action.answersHeartbeat_of_setsUp asked)) ?_ (fun other => ?_) up
      · rw [rearms_iff asked answers found, if_neg other]
        exact Nat.succ_inj
      · have place : mapKey a.hashNodeId = cfg.key nodeId := by
          rw [hash]
          exact wired.keyed.place found
        rw [watch.watchedBy, watchedBy,
          wired.timed.timersOf_retrigger (timerOf_of_found found) place]
        split
        · next here =>
            rw [here]
            show s.expiredOf _ + 1 + s.requestsOf _ = s.expiredOf _ + s.requestsOf _ + 1
            omega
        · rfl
  | started nodeId stamp a asked answers absent hash _ _ up watch =>
      refine .setUp (cfg.key nodeId) 1
        (confirms_of_silent (Action.answersHeartbeat_of_setsUp asked)) ?_ (fun other => ?_) up
      · refine iff_of_true rfl fun request isAsked _ sa found => ?_
        rw [asked] at isAsked
        obtain rfl := Option.some.inj isAsked
        rw [absent] at found
        cases found
      · have place : mapKey a.hashNodeId = cfg.key nodeId := by
          rw [hash]
          rfl
        have noTimer : s.timersOf (cfg.key nodeId) = 0 :=
          wired.timed.timersOf_absent (by rw [timerOf, absent, Option.map_none])
        have noRequest : s.requestsOf (cfg.key nodeId) = 0 :=
          wired.requested.requestsOf_absent (by rw [requestOf, absent, Option.map_none])
        rw [watch.watchedBy, watchedBy, timersOf_trigger place]
        split
        · next here =>
            rw [here]
            show s.timersOf _ + 1 + s.requestsOf _ = 1
            omega
        · rfl
  | signalled timerId asked silent up watch =>
      refine .kept (rearms_of_unasked asked) (confirms_of_silent silent) (fun key => ?_)
        fun key there => by rwa [← up]
      rw [watch.watchedBy, watchedBy]
      congr 1
      show List.countP _ (List.map _ _) = _
      rw [List.countP_map]
      refine List.countP_congr fun timer _ => ?_
      by_cases here : timer.id = timerId <;> simp [here]
  | fired timer trxnId a asked silent member newer found up watch =>
      refine .kept (rearms_of_unasked asked) (confirms_of_silent silent) (fun key => ?_)
        fun key there => by rwa [← up]
      have place := wired.keyed.place found
      rw [watch.watchedBy]
      show List.countP _ (s.timers.erase timer) + List.countP _ (_ :: _) =
        s.timersOf key + s.requestsOf key
      by_cases here : mapKey timer.arg2User = key
      · rw [List.countP_erase, if_pos ⟨member, by simpa using here⟩,
          List.countP_cons_of_pos (by simpa [here] using place)]
        have counted := (wired.requestsOf_of_timer member).1
        rw [here] at counted
        show s.timersOf key - 1 + (s.requestsOf key + 1) = _
        omega
      · rw [List.countP_erase, if_neg (fun both => here (by simpa using both.2)),
          List.countP_cons_of_neg (by simpa [place] using here)]
        rfl
  | resumed heartbeat a b asked member open' found ended current up watch =>
      refine .kept (rearms_of_unasked asked) ?_ (fun key => ?_) up
      · intro answer isAnswer other there same _ _ c foundThere
        have answered := current answer isAnswer
        rw [answered] at same ⊢
        rw [(wired.requested.key_eq member open' there same).2, found] at foundThere
        rw [Option.some.inj foundThere]
      · rw [watch.watchedBy]
        exact wired.watchedBy_resumed member open' found ended key
  | restarted heartbeat a stamp asked member open' found other up watch =>
      refine .letGo (mapKey heartbeat.hashNodeId)
        (rearms_of_unasked (Action.setsUp_of_answersHeartbeat asked)) ?_ (fun key => ?_) up
      · constructor
        · intro confirms inService
          have answered := confirms _ asked heartbeat member rfl open' inService a found
          exact other (Option.some.inj answered).symm
        · intro away answer isAnswer there isThere same _ inService
          rw [asked] at isAnswer
          obtain rfl := Option.some.inj isAnswer
          rw [(wired.requested.key_eq member open' isThere same).2] at inService
          exact absurd inService away
      · obtain ⟨-, counts⟩ := ended_heartbeats wired.requested member open' (.inr rfl)
        have none := (wired.timersOf_of_open member open').1
        have noneDue : s.expiredOf (mapKey heartbeat.hashNodeId) ≤ _ := expiredOf_le
        rw [watch.watchedBy, watchedBy]
        show (s.timerRemove a.timerHeartbeat).timersOf key +
          (s.drop heartbeat.trxnId).requestsOf key = _
        rw [counts, wired.timed.timersOf_timerRemove (timerOf_of_found found)]
        split
        · omega
        · rfl
  | unstamped heartbeat asked member open' up watch =>
      refine .letGo (mapKey heartbeat.hashNodeId)
        (rearms_of_unasked (Action.setsUp_of_answersHeartbeat asked)) ?_ (fun key => ?_)
        fun key => by rw [up]
      · constructor
        · intro confirms inService
          have own := wired.requested.own heartbeat member open'
          obtain ⟨a, found, -⟩ := Option.map_eq_some_iff.mp own
          cases confirms _ asked heartbeat member rfl open' inService a found
        · intro away answer isAnswer there isThere same _ inService
          rw [asked] at isAnswer
          obtain rfl := Option.some.inj isAnswer
          rw [(wired.requested.key_eq member open' isThere same).2] at inService
          exact absurd inService away
      · have none := (wired.timersOf_of_open member open').1
        rw [watch.watchedBy, watchedBy, wired.requested.requestsOf_drop member open']
        show s.timersOf key + _ = _
        split
        · next here => rw [here, none]
        · rfl
  | late heartbeat asked member notified answers up watch =>
      refine .kept (rearms_of_unasked asked) ?_ (fun key => ?_) fun key there => by rwa [← up]
      · intro answer isAnswer other there same open' _
        have reported :=
          (wired.requested.key_eq there open' member
            ((answers answer isAnswer).symm.trans same.symm)).1
        rw [notified] at reported
        cases reported
      · rw [watch.watchedBy, watchedBy, wired.requested.requestsOf_drop_notified member notified]
        rfl

/-! ### The cases of a step -/

theorem mem_upNodes_admitNode {node : PfcpUpNode} {remoteEndpoint : Endpoint} {nodeId : NodeId}
    {stamp : Nat} (nodes : SameNodes s u) (key : Nat) :
    key ∈ (admitNode cfg u node remoteEndpoint nodeId stamp).upNodes ↔
      key = cfg.key nodeId ∨ key ∈ s.upNodes := by
  rw [State.admitNode, nodes.up, ExtTreeMap.mem_insertIfNew, compare_eq_iff_eq]
  exact or_congr_left eq_comm

theorem mem_upNodes_insert {su su' : PfcpUpNode} (found : s.upNodes[key]? = some su)
    (up : t.upNodes = s.upNodes.insert key su') (other : Nat) :
    other ∈ t.upNodes ↔ other ∈ s.upNodes := by
  rw [up, ExtTreeMap.mem_insert, compare_eq_iff_eq]
  refine or_iff_right_of_imp ?_
  rintro rfl
  exact ExtTreeMap.mem_iff_isSome_getElem?.mpr (by rw [found]; rfl)

theorem mem_upNodes_notifyNodeReachable (s : State) (hashNodeId other : Nat) :
    other ∈ (s.notifyNodeReachable hashNodeId).upNodes ↔ other ∈ s.upNodes := by
  unfold State.notifyNodeReachable
  split
  · next su found => exact mem_upNodes_insert found rfl other
  · exact Iff.rfl

theorem mem_upNodes_notifyNodeRestarted (s : State) (hashNodeId other : Nat) :
    other ∈ (s.notifyNodeRestarted hashNodeId).upNodes ↔ other ∈ s.upNodes := by
  unfold State.notifyNodeRestarted
  split
  · next su found => exact mem_upNodes_insert found rfl other
  · exact Iff.rfl

theorem mem_upNodes_of_notifyNodeNotReachable {hashNodeId other : Nat}
    (member : other ∈ (s.notifyNodeNotReachable hashNodeId).upNodes) : other ∈ s.upNodes := by
  unfold State.notifyNodeNotReachable at member
  split at member
  · next su found =>
      dsimp only at member
      split at member
      · exact ExtTreeMap.mem_of_mem_erase member
      · exact (mem_upNodes_insert found rfl other).mp member
  · exact member

/-- An association that is stored and then armed is stored once. -/
theorem sameWatch_trigger_insert (s : State) (key : Nat) (a : PfcpAssociation) :
    SameWatch (s.triggerHeartbeatRequestProcedure key a)
      ({ s with associations := s.associations.insert key a }.triggerHeartbeatRequestProcedure
        key a) := by
  refine ⟨fun other => ?_, rfl, rfl, rfl, rfl⟩
  show ((s.associations.insert key a).insert key _)[other]? = (s.associations.insert key _)[other]?
  rw [ExtTreeMap.getElem?_insert, ExtTreeMap.getElem?_insert, ExtTreeMap.getElem?_insert]
  split <;> rfl

theorem answerAssociation_eq {own nodeId : NodeId} {sa : PfcpAssociation}
    {remoteEndpoint : Endpoint} {restore : Bool} (configured : cfg.getPfcpNodeId = some own)
    (triggers : sa.isTriggerHeartbeatRequestProcedure = true) :
    answerAssociation cfg s key sa trxnId remoteEndpoint nodeId restore =
      (true, { s with associations := s.associations.insert key (sa.establish remoteEndpoint) }
        |>.triggerHeartbeatRequestProcedure key (sa.establish remoteEndpoint),
        .associationSetupResponse trxnId causeValueRequestAccepted own remoteEndpoint ::
          if restore then [.restoreSxSessions nodeId] else []) := by
  have still : (sa.establish remoteEndpoint).isTriggerHeartbeatRequestProcedure = true := triggers
  rw [answerAssociation, configured]
  dsimp only
  rw [if_pos still]

/-- What a setup message that `node` answers does, the same for a request and a response. -/
theorem watch_of_setUp (b : State) (remoteEndpoint : Endpoint) {nodeId : NodeId} {stamp : Nat}
    (asked : action.setsUp = some (nodeId, stamp)) (answers : s.answering nodeId ≠ none)
    (up : ∀ key, key ∈ t.upNodes ↔ key = cfg.key nodeId ∨ key ∈ s.upNodes) (watch : SameWatch b t)
    (known : ∀ sa, s.associations[cfg.key nodeId]? = some sa →
      sa.recoveryTimeStamp = stamp ∧ SameWatch (s.timerRemove sa.timerHeartbeat) b ∨
        sa.recoveryTimeStamp ≠ stamp ∧
          SameWatch ((s.timerRemove sa.timerHeartbeat).triggerHeartbeatRequestProcedure
            (cfg.key nodeId) ((sa.restamp stamp).establish remoteEndpoint)) b)
    (new : s.associations[cfg.key nodeId]? = none → ∃ id,
      SameWatch (s.triggerHeartbeatRequestProcedure (cfg.key nodeId)
        ((newAssociation cfg nodeId id stamp).establish remoteEndpoint)) b) :
    Watch cfg s action t := by
  cases found : s.associations[cfg.key nodeId]? with
  | none =>
      obtain ⟨id, armed⟩ := new found
      exact .started nodeId stamp _ asked answers found rfl rfl rfl up (armed.trans watch)
  | some sa =>
      rcases known sa found with ⟨current, stopped⟩ | ⟨other, armed⟩
      · exact .stopped nodeId stamp sa asked answers found current up (stopped.trans watch)
      · exact .rearmed nodeId stamp sa ((sa.restamp stamp).establish remoteEndpoint) asked answers
          found other rfl rfl rfl up (armed.trans watch)

theorem watch_of_associationSetupResp {nodeId : NodeId} {stamp : Nat} {remoteEndpoint : Endpoint}
    (asked : action.setsUp = some (nodeId, stamp)) :
    Watch cfg s action (associationSetupResp cfg s remoteEndpoint nodeId stamp).1 := by
  unfold associationSetupResp
  split
  · next ignored =>
      refine .same (fun request isAsked => ?_) (Action.answersHeartbeat_of_setsUp asked)
        (fun _ member => member) (.refl s)
      rw [asked] at isAsked
      obtain rfl := Option.some.inj isAsked
      exact ignored
  · next node found =>
      have nodes := addAnsweredAssociation_nodes cfg s remoteEndpoint nodeId stamp
      refine watch_of_setUp (addAnsweredAssociation cfg s remoteEndpoint nodeId stamp).1
        remoteEndpoint asked (by rw [found]; exact Option.some_ne_none node)
        (mem_upNodes_admitNode nodes) ⟨fun _ => rfl, rfl, rfl, rfl, rfl⟩
        (fun sa known => ?_) fun absent => ⟨"", ?_⟩
      · rw [addAnsweredAssociation, known]
        dsimp only
        split
        · next current => exact .inl ⟨current, .refl _⟩
        · next other => exact .inr ⟨other, .refl _⟩
      · rw [addAnsweredAssociation, absent]
        exact .refl _

/-- The response that accepts. -/
def accepting (trxnId : Nat) (own : NodeId) (remoteEndpoint : Endpoint) : Event :=
  .associationSetupResponse trxnId causeValueRequestAccepted own remoteEndpoint

/-- `add_association` for a request, with an address: it returns true, and answers and arms
unless the time stamp is known. -/
theorem addAssociation_spec {own : NodeId} (configured : cfg.getPfcpNodeId = some own) (s : State)
    (trxnId : Nat) (remoteEndpoint : Endpoint) (nodeId : NodeId) (id : String) (stamp : Nat) :
    (∀ sa, s.associations[cfg.key nodeId]? = some sa → sa.recoveryTimeStamp = stamp →
        addAssociation cfg s trxnId remoteEndpoint nodeId id stamp =
          (true, s.timerRemove sa.timerHeartbeat, [])) ∧
      (∀ sa, s.associations[cfg.key nodeId]? = some sa → sa.recoveryTimeStamp ≠ stamp →
        ∃ b, addAssociation cfg s trxnId remoteEndpoint nodeId id stamp =
            (true, b, [accepting trxnId own remoteEndpoint, .restoreSxSessions nodeId]) ∧
          SameWatch ((s.timerRemove sa.timerHeartbeat).triggerHeartbeatRequestProcedure
            (cfg.key nodeId) ((sa.restamp stamp).establish remoteEndpoint)) b) ∧
      (s.associations[cfg.key nodeId]? = none →
        ∃ b, addAssociation cfg s trxnId remoteEndpoint nodeId id stamp =
            (true, b, [accepting trxnId own remoteEndpoint]) ∧
          SameWatch (s.triggerHeartbeatRequestProcedure (cfg.key nodeId)
            ((newAssociation cfg nodeId id stamp).establish remoteEndpoint)) b) := by
  refine ⟨fun sa found current => ?_, fun sa found other => ⟨_, ?_, sameWatch_trigger_insert _ _ _⟩,
    fun absent => ⟨_, ?_, sameWatch_trigger_insert _ _ _⟩⟩
  · rw [addAssociation, found]
    exact if_pos current
  · rw [addAssociation, found]
    dsimp only
    rw [if_neg other]
    exact answerAssociation_eq configured rfl
  · rw [addAssociation, absent]
    exact answerAssociation_eq configured rfl

theorem watch_of_associationSetupRequest {own nodeId : NodeId} {stamp : Nat}
    {remoteEndpoint : Endpoint} (configured : cfg.getPfcpNodeId = some own)
    (asked : action.setsUp = some (nodeId, stamp)) :
    Watch cfg s action (associationSetupRequest cfg s trxnId remoteEndpoint nodeId stamp).1 := by
  have ignored (unanswered : s.answering nodeId = none) : Watch cfg s action s := by
    refine .same (fun request isAsked => ?_) (Action.answersHeartbeat_of_setsUp asked)
      (fun _ member => member) (.refl s)
    rw [asked] at isAsked
    obtain rfl := Option.some.inj isAsked
    exact unanswered
  unfold associationSetupRequest
  split
  · split
    · next unanswered => exact ignored unanswered
    · next node found =>
        have nodes := addAssociation_nodes cfg s trxnId remoteEndpoint nodeId node.id stamp
        obtain ⟨same, different, new⟩ :=
          addAssociation_spec configured s trxnId remoteEndpoint nodeId node.id stamp
        have returns :
            (addAssociation cfg s trxnId remoteEndpoint nodeId node.id stamp).1 = true := by
          by_contra refused
          have unconfigured := addAssociation_returns refused
          rw [configured] at unconfigured
          cases unconfigured
        dsimp only
        rw [if_pos returns]
        refine watch_of_setUp (addAssociation cfg s trxnId remoteEndpoint nodeId node.id stamp).2.1
          remoteEndpoint asked (by rw [found]; exact Option.some_ne_none node)
          (mem_upNodes_admitNode nodes) ⟨fun _ => rfl, rfl, rfl, rfl, rfl⟩
          (fun sa known => ?_) fun absent => ⟨node.id, ?_⟩
        · by_cases current : sa.recoveryTimeStamp = stamp
          · rw [same sa known current]
            exact .inl ⟨current, .refl _⟩
          · obtain ⟨b, added, armed⟩ := different sa known current
            rw [added]
            exact .inr ⟨current, armed⟩
        · obtain ⟨b, added, armed⟩ := new absent
          rw [added]
          exact armed
  · next empty =>
      have unanswered : s.answering nodeId = none := by
        rw [State.answering, not_not.mp empty]
        rfl
      rw [configured]
      exact ignored unanswered

/-- A loop over the associations that looks for the transaction of a request that was not
reported stops at its association. -/
theorem Wired.found_of_finds (wired : Wired cfg s) {heartbeat : HeartbeatProcedure}
    {found : Option Nat} (member : heartbeat ∈ s.heartbeats) (open' : heartbeat.notified = false)
    (finds : s.finds (fun a => a.trxnIdHeartbeat = heartbeat.trxnId) found = true) :
    ∃ a, found = some (mapKey heartbeat.hashNodeId) ∧
      s.associations[mapKey heartbeat.hashNodeId]? = some a := by
  have own := wired.requested.own heartbeat member open'
  obtain ⟨a, stored, knows⟩ := Option.map_eq_some_iff.mp own
  cases found with
  | none =>
      have entry := ExtTreeMap.mem_toList_iff_getElem?_eq_some.mpr stored
      have fails := List.all_eq_true.mp finds _ entry
      simp [knows] at fails
  | some key =>
      obtain ⟨b, there, same⟩ := (Option.any_eq_true ..).mp finds
      have known : s.requestOf key = some heartbeat.trxnId := by
        rw [requestOf_of_found there, of_decide_eq_true same]
      have here := (wired.requested.owner key _ known heartbeat member rfl).2
      exact ⟨a, by rw [here], stored⟩

/-- It stops nowhere for a request that was reported. -/
theorem Wired.not_found_of_finds (wired : Wired cfg s) {heartbeat : HeartbeatProcedure}
    {found : Option Nat} (member : heartbeat ∈ s.heartbeats)
    (notified : heartbeat.notified = true)
    (finds : s.finds (fun a => a.trxnIdHeartbeat = heartbeat.trxnId) found = true) :
    found = none := by
  cases found with
  | none => rfl
  | some key =>
      obtain ⟨b, there, same⟩ := (Option.any_eq_true ..).mp finds
      have known : s.requestOf key = some heartbeat.trxnId := by
        rw [requestOf_of_found there, of_decide_eq_true same]
      have open' := (wired.requested.owner key _ known heartbeat member rfl).1
      rw [notified] at open'
      cases open'

theorem withFound_some {a : PfcpAssociation} (found : s.associations[key]? = some a)
    (handle : Nat → PfcpAssociation → State) :
    s.withFound (some key) handle = handle key a := by
  rw [withFound, found]

theorem watch_of_remotePeerNotResponding (wired : Wired cfg s) {found : Option Nat}
    (taken : State.step cfg s (.remotePeerNotResponding trxnId found) = some (next, events)) :
    Watch cfg s (.remotePeerNotResponding trxnId found) next := by
  simp only [State.step] at taken
  split at taken
  · next possible =>
      obtain ⟨rfl, -⟩ := Prod.mk.inj (Option.some.inj taken)
      rw [Bool.and_eq_true] at possible
      obtain ⟨heartbeat, member, matching⟩ := List.any_eq_true.mp possible.1
      rw [Bool.and_eq_true, decide_eq_true_iff, Bool.not_eq_true'] at matching
      obtain ⟨rfl, open'⟩ := matching
      obtain ⟨a, rfl, stored⟩ := wired.found_of_finds member open' possible.2
      have here : (s.report heartbeat.trxnId).associations[mapKey heartbeat.hashNodeId]? = some a :=
        stored
      rw [timeoutHeartbeatRequest, withFound_some here]
      refine .resumed heartbeat a (s.report heartbeat.trxnId) rfl member open' stored (.inl rfl)
        (fun _ isAnswer => by cases isAnswer) (fun key there => ?_)
        (.notifyNodeNotReachable _ a.hashNodeId)
      have before := mem_upNodes_of_notifyNodeNotReachable there
      exact before
  · cases taken

theorem watch_of_procCleanup
    (taken : State.step cfg s (.procCleanup trxnId) = some (next, events)) :
    Watch cfg s (.procCleanup trxnId) next := by
  simp only [State.step] at taken
  split at taken
  · next possible =>
      obtain ⟨rfl, -⟩ := Prod.mk.inj (Option.some.inj taken)
      obtain ⟨heartbeat, member, matching⟩ := List.any_eq_true.mp possible
      rw [Bool.and_eq_true, decide_eq_true_iff] at matching
      obtain ⟨rfl, notified⟩ := matching
      exact .late heartbeat rfl member notified (fun _ isAnswer => by cases isAnswer) rfl (.refl _)
  · cases taken

theorem watch_of_heartbeatResponse (wired : Wired cfg s) {stamp found : Option Nat}
    (taken : State.step cfg s (.heartbeatResponse trxnId stamp found) = some (next, events)) :
    Watch cfg s (.heartbeatResponse trxnId stamp found) next := by
  simp only [State.step] at taken
  split at taken
  · next possible =>
      rw [Bool.and_eq_true] at possible
      obtain ⟨heartbeat, member, matching⟩ := List.any_eq_true.mp possible.1
      obtain rfl := of_decide_eq_true matching
      cases notified : heartbeat.notified with
      | true =>
          obtain rfl := wired.not_found_of_finds member notified possible.2
          have dropped : next = s.drop heartbeat.trxnId := by
            cases stamp <;> exact (Prod.mk.inj (Option.some.inj taken)).1.symm
          rw [dropped]
          refine .late heartbeat rfl member notified (fun answer isAnswer => ?_) rfl (.refl _)
          rw [← Option.some.inj isAnswer]
      | false =>
          obtain ⟨a, rfl, stored⟩ := wired.found_of_finds member notified possible.2
          cases stamp with
          | none =>
              obtain ⟨rfl, -⟩ := Prod.mk.inj (Option.some.inj taken)
              exact .unstamped heartbeat rfl member notified rfl (.refl _)
          | some stamp =>
              obtain ⟨rfl, -⟩ := Prod.mk.inj (Option.some.inj taken)
              have here :
                  (s.drop heartbeat.trxnId).associations[mapKey heartbeat.hashNodeId]? = some a :=
                stored
              rw [handleReceiveHeartbeatResponse, withFound_some here]
              dsimp only
              split
              · next current =>
                  refine .resumed heartbeat a (s.drop heartbeat.trxnId) rfl member notified stored
                    (.inr rfl) (fun answer isAnswer => ?_) (fun key there => ?_)
                    (.notifyNodeReachable _ a.hashNodeId)
                  · rw [← Option.some.inj isAnswer, current]
                  · have before := (mem_upNodes_notifyNodeReachable _ _ key).mp there
                    exact before
              · next other =>
                  exact .restarted heartbeat a stamp rfl member notified stored other
                    (fun key => mem_upNodes_notifyNodeRestarted _ _ key)
                    (.notifyNodeRestarted _ a.hashNodeId)
  · cases taken

theorem watch_of_heartbeatRequest {remoteEndpoint : Endpoint} {stamp found : Option Nat}
    (taken : State.step cfg s (.heartbeatRequest trxnId remoteEndpoint stamp found) =
      some (next, events)) :
    Watch cfg s (.heartbeatRequest trxnId remoteEndpoint stamp found) next := by
  have unasked : ∀ asked ∈ (Action.heartbeatRequest trxnId remoteEndpoint stamp found).setsUp,
      s.answering asked.1 = none := fun _ isAsked => by cases isAsked
  simp only [State.step] at taken
  split at taken
  · cases stamp with
    | none =>
        obtain ⟨rfl, -⟩ := Prod.mk.inj (Option.some.inj taken)
        exact .same unasked rfl (fun _ member => member) (.refl s)
    | some stamp =>
        obtain ⟨rfl, -⟩ := Prod.mk.inj (Option.some.inj taken)
        unfold handleReceiveHeartbeatRequest
        rcases withFound_cases s found _ with same | ⟨key, a, -, -, same⟩
        · rw [same]
          exact .same unasked rfl (fun _ member => member) (.refl s)
        · rw [same]
          split
          · exact .same unasked rfl
              (fun key there => (mem_upNodes_notifyNodeReachable _ _ key).mp there)
              (.notifyNodeReachable s a.hashNodeId)
          · exact .same unasked rfl
              (fun key there => (mem_upNodes_notifyNodeRestarted _ _ key).mp there)
              (.notifyNodeRestarted s a.hashNodeId)
  · cases taken

theorem watch_of_timeOut (wired : Wired cfg s) {timerId : Nat}
    (taken : State.step cfg s (.timeOut timerId trxnId) = some (next, events)) :
    Watch cfg s (.timeOut timerId trxnId) next := by
  simp only [State.step] at taken
  split at taken
  · cases taken
  · next timer first =>
      split at taken
      · next newer =>
          have member := List.mem_of_find?_eq_some first
          obtain ⟨a, stored⟩ : ∃ a, s.associations[mapKey timer.arg2User]? = some a := by
            have known := wired.timed.known timer member
            obtain ⟨known', isKnown⟩ := Option.ne_none_iff_exists'.mp known
            obtain ⟨a, stored, -⟩ := Option.map_eq_some_iff.mp isKnown
            exact ⟨a, stored⟩
          have sent : ({ s with timers := s.timers.erase timer }.initiateHeartbeatRequest
              timer.arg2User trxnId) =
                { s with timers := s.timers.erase timer }.sendHeartbeatRequest
                  (mapKey timer.arg2User) { a with numRetriesTimerHeartbeat := 0 } trxnId := by
            unfold initiateHeartbeatRequest
            dsimp only
            rw [stored]
            exact if_pos (wired.triggers _ a stored)
          have result := congrArg Prod.fst (Option.some.inj taken)
          rw [sent] at result
          rw [← show _ = next from result]
          exact .fired timer trxnId a rfl rfl member newer stored rfl (.refl _)
      · cases taken

theorem watch_of_step {own : NodeId} (configured : cfg.getPfcpNodeId = some own)
    (wired : Wired cfg s) (taken : State.step cfg s action = some (next, events)) :
    Watch cfg s action next := by
  cases action with
  | associationSetupRequest trxnId remoteEndpoint nodeId stamp =>
      cases nodeId with
      | none =>
          obtain ⟨rfl, -⟩ := Prod.mk.inj (Option.some.inj taken)
          exact .same (fun _ asked => by cases asked) rfl (fun _ member => member) (.refl s)
      | some nodeId =>
          cases stamp with
          | none =>
              obtain ⟨rfl, -⟩ := Prod.mk.inj (Option.some.inj taken)
              exact .same (fun _ asked => by cases asked) rfl (fun _ member => member) (.refl s)
          | some stamp =>
              rw [← show _ = next from congrArg Prod.fst (Option.some.inj taken)]
              exact watch_of_associationSetupRequest configured rfl
  | associationSetupResponse remoteEndpoint nodeId stamp =>
      cases nodeId with
      | none =>
          obtain ⟨rfl, -⟩ := Prod.mk.inj (Option.some.inj taken)
          exact .same (fun _ asked => by cases asked) rfl (fun _ member => member) (.refl s)
      | some nodeId =>
          cases stamp with
          | none =>
              obtain ⟨rfl, -⟩ := Prod.mk.inj (Option.some.inj taken)
              exact .same (fun _ asked => by cases asked) rfl (fun _ member => member) (.refl s)
          | some stamp =>
              rw [← show _ = next from congrArg Prod.fst (Option.some.inj taken)]
              exact watch_of_associationSetupResp rfl
  | signalTimeOut timerId =>
      simp only [State.step] at taken
      split at taken
      · obtain ⟨rfl, -⟩ := Prod.mk.inj (Option.some.inj taken)
        exact .signalled timerId rfl rfl rfl (.refl _)
      · cases taken
  | timeOut timerId trxnId => exact watch_of_timeOut wired taken
  | remotePeerNotResponding trxnId found => exact watch_of_remotePeerNotResponding wired taken
  | procCleanup trxnId => exact watch_of_procCleanup taken
  | heartbeatResponse trxnId stamp found => exact watch_of_heartbeatResponse wired taken
  | heartbeatRequest trxnId remoteEndpoint stamp found => exact watch_of_heartbeatRequest taken

/-! ### Answers -/

/-- A setup request is answered once, with its own transaction. -/
def AnsweredOnce (record : StepRecord State Action Event) : Prop :=
  ∀ trxnId remoteEndpoint nodeId stamp,
    record.action = .associationSetupRequest trxnId remoteEndpoint nodeId stamp →
      record.events.countP (Event.respondsTo trxnId) = 1

/-- A setup request has both elements, and it finds no node waiting, or one that answers,
with another time stamp than the association that is known, if any. -/
def Answerable (cfg : Config) (s : State) : Action → Prop
  | .associationSetupRequest _ _ (some nodeId) (some stamp) =>
      s.pendingNodes = [] ∨ s.answering nodeId ≠ none ∧
        ∀ sa ∈ s.associations[cfg.key nodeId]?, sa.recoveryTimeStamp ≠ stamp
  | .associationSetupRequest _ _ _ _ => False
  | _ => True

instance : Decidable (Answerable cfg s action) :=
  match action with
  | .associationSetupRequest _ _ (some nodeId) (some stamp) => inferInstanceAs (Decidable
      (s.pendingNodes = [] ∨ s.answering nodeId ≠ none ∧
        ∀ sa ∈ s.associations[cfg.key nodeId]?, sa.recoveryTimeStamp ≠ stamp))
  | .associationSetupRequest _ _ none _ => inferInstanceAs (Decidable False)
  | .associationSetupRequest _ _ (some _) none => inferInstanceAs (Decidable False)
  | .associationSetupResponse _ _ _ => inferInstanceAs (Decidable True)
  | .signalTimeOut _ => inferInstanceAs (Decidable True)
  | .timeOut _ _ => inferInstanceAs (Decidable True)
  | .remotePeerNotResponding _ _ => inferInstanceAs (Decidable True)
  | .procCleanup _ => inferInstanceAs (Decidable True)
  | .heartbeatResponse _ _ _ => inferInstanceAs (Decidable True)
  | .heartbeatRequest _ _ _ _ => inferInstanceAs (Decidable True)

theorem respondsTo_accepting (own nodeId : NodeId) (remoteEndpoint : Endpoint) :
    [accepting trxnId own remoteEndpoint].countP (Event.respondsTo trxnId) = 1 ∧
      [accepting trxnId own remoteEndpoint, .restoreSxSessions nodeId].countP
        (Event.respondsTo trxnId) = 1 := by
  simp [accepting, Event.respondsTo]

theorem countP_associationSetupRequest {own nodeId : NodeId} {stamp : Nat}
    {remoteEndpoint : Endpoint} (configured : cfg.getPfcpNodeId = some own) :
    (associationSetupRequest cfg s trxnId remoteEndpoint nodeId stamp).2.countP
        (Event.respondsTo trxnId) = 1 ↔
      s.pendingNodes = [] ∨ s.answering nodeId ≠ none ∧
        ∀ sa ∈ s.associations[cfg.key nodeId]?, sa.recoveryTimeStamp ≠ stamp := by
  unfold associationSetupRequest
  split
  · next waiting =>
      rw [or_iff_right waiting]
      split
      · next unanswered =>
          refine iff_of_false (by simp) fun answered => answered.1 unanswered
      · next node found =>
          obtain ⟨same, different, new⟩ :=
            addAssociation_spec configured s trxnId remoteEndpoint nodeId node.id stamp
          have answers : s.answering nodeId ≠ none := by
            rw [found]
            exact Option.some_ne_none node
          rw [and_iff_right answers]
          cases known : s.associations[cfg.key nodeId]? with
          | none =>
              obtain ⟨b, added, -⟩ := new known
              rw [added]
              refine iff_of_true (respondsTo_accepting own nodeId remoteEndpoint).1
                fun sa isKnown => ?_
              cases isKnown
          | some sa =>
              by_cases current : sa.recoveryTimeStamp = stamp
              · rw [same sa known current]
                exact iff_of_false (by simp) fun differs => differs sa rfl current
              · obtain ⟨b, added, -⟩ := different sa known current
                rw [added]
                refine iff_of_true (respondsTo_accepting own nodeId remoteEndpoint).2
                  fun other isKnown => ?_
                rw [← Option.some.inj isKnown]
                exact current
  · next empty =>
      rw [configured]
      refine iff_of_true ?_ (.inl (not_not.mp empty))
      simp [Event.respondsTo]

theorem answeredOnce_iff {own : NodeId} (configured : cfg.getPfcpNodeId = some own)
    (taken : State.step cfg s action = some (next, events)) :
    AnsweredOnce ⟨s, action, next, events⟩ ↔ Answerable cfg s action := by
  have silent (none : ∀ trxnId remoteEndpoint nodeId stamp,
      action ≠ .associationSetupRequest trxnId remoteEndpoint nodeId stamp) :
      AnsweredOnce ⟨s, action, next, events⟩ :=
    fun trxnId remoteEndpoint nodeId stamp same =>
      absurd same (none trxnId remoteEndpoint nodeId stamp)
  cases action with
  | associationSetupRequest trxnId remoteEndpoint nodeId stamp =>
      have once : AnsweredOnce ⟨s, .associationSetupRequest trxnId remoteEndpoint nodeId stamp,
          next, events⟩ ↔ events.countP (Event.respondsTo trxnId) = 1 := by
        refine ⟨fun answered => answered _ _ _ _ rfl, fun counted _ _ _ _ same => ?_⟩
        cases same
        exact counted
      rw [once]
      cases nodeId with
      | none =>
          obtain ⟨-, rfl⟩ := Prod.mk.inj (Option.some.inj taken)
          exact iff_of_false (by simp) id
      | some nodeId =>
          cases stamp with
          | none =>
              obtain ⟨-, rfl⟩ := Prod.mk.inj (Option.some.inj taken)
              exact iff_of_false (by simp) id
          | some stamp =>
              rw [← show _ = events from congrArg Prod.snd (Option.some.inj taken)]
              exact countP_associationSetupRequest configured
  | _ => exact iff_of_true (silent fun _ _ _ _ same => by cases same) trivial

/-! ### Runs -/

/-- The condition on a step. -/
structure MeetsSupervision (cfg : Config) (s : State) (action : Action) : Prop where
  answerable : Answerable cfg s action
  rearms : Rearms cfg s action
  confirms : Confirms s action

instance : Decidable (Rearms cfg s action) :=
  inferInstanceAs (Decidable (∀ asked ∈ action.setsUp, s.answering asked.1 ≠ none →
    ∀ sa ∈ s.associations[cfg.key asked.1]?,
      s.dueOf (cfg.key asked.1) = if sa.recoveryTimeStamp = asked.2 then 1 else 0))

instance : Decidable (Confirms s action) :=
  inferInstanceAs (Decidable (∀ answer ∈ action.answersHeartbeat, ∀ heartbeat ∈ s.heartbeats,
    heartbeat.trxnId = answer.1 → heartbeat.notified = false →
      mapKey heartbeat.hashNodeId ∈ s.upNodes →
        ∀ a ∈ s.associations[mapKey heartbeat.hashNodeId]?,
          answer.2 = some a.recoveryTimeStamp))

instance : Decidable (MeetsSupervision cfg s action) :=
  decidable_of_iff (_ ∧ _ ∧ _) ⟨fun all => ⟨all.1, all.2.1, all.2.2⟩,
    fun meets => ⟨meets.answerable, meets.rearms, meets.confirms⟩⟩

theorem Shift.supervised_iff (supervised : Supervised s) (shift : Shift cfg s action t) :
    Supervised t ↔ Rearms cfg s action ∧ Confirms s action := by
  cases shift with
  | kept rearms confirms counts up =>
      refine iff_of_true (fun key there => ?_) ⟨rearms, confirms⟩
      rw [counts]
      exact supervised key (up key there)
  | setUp key n confirms rearms counts up =>
      rw [and_iff_left confirms, ← rearms]
      constructor
      · intro after
        have here := after key ((up key).mpr (.inl rfl))
        rw [counts, if_pos rfl] at here
        exact here
      · intro one other there
        rw [counts]
        split
        · exact one
        · next elsewhere => exact supervised other (((up other).mp there).resolve_left elsewhere)
  | letGo key rearms confirms counts up =>
      rw [and_iff_right rearms, confirms]
      constructor
      · intro after inService
        have here := after key ((up key).mpr inService)
        rw [counts, if_pos rfl] at here
        cases here
      · intro away other there
        rw [counts, if_neg]
        · exact supervised other ((up other).mp there)
        · rintro rfl
          exact away ((up other).mp there)

theorem Shift.single (single : ∀ key, s.watchedBy key ≤ 1) (rearms : Rearms cfg s action)
    (shift : Shift cfg s action t) (key : Nat) : t.watchedBy key ≤ 1 := by
  cases shift with
  | kept _ _ counts _ =>
      rw [counts]
      exact single key
  | setUp other n _ fits counts _ =>
      rw [counts]
      split
      · exact (fits.mpr rearms).le
      · exact single key
  | letGo other _ _ counts _ =>
      rw [counts]
      split
      · exact Nat.zero_le 1
      · exact single key

/-- In a run from the start, with an address on Sx: every setup request is answered once and
after every step every node in service is supervised once, exactly when all steps meet the
condition. -/
theorem setup_answered_and_monitored_iff (cfg : Config) (configured : cfg.getPfcpNodeId ≠ none)
    {records : List (StepRecord State Action Event)} {finish : State}
    (run : Run (step cfg) (init cfg) records finish) :
    (∀ record ∈ records, AnsweredOnce record ∧ Supervised record.after) ↔
      ∀ record ∈ records, MeetsSupervision cfg record.before record.action := by
  obtain ⟨own, isOwn⟩ := Option.ne_none_iff_exists'.mp configured
  have equivalent (s : State) (action : Action) (next : State) (events : List Event)
      (holds : Wired cfg s ∧ Supervised s) (taken : step cfg s action = some (next, events)) :
      (AnsweredOnce ⟨s, action, next, events⟩ ∧ Supervised next) ↔
        MeetsSupervision cfg s action := by
    have shift := (watch_of_step isOwn holds.1 taken).shift holds.1
    rw [answeredOnce_iff isOwn taken, shift.supervised_iff holds.2]
    exact ⟨fun all => ⟨all.1, all.2.1, all.2.2⟩,
      fun meets => ⟨meets.answerable, meets.rearms, meets.confirms⟩⟩
  refine run.forall_records_iff (fun s => Wired cfg s ∧ Supervised s) (MeetsSupervision cfg)
    (fun record => AnsweredOnce record ∧ Supervised record.after)
    ⟨wired_init cfg, fun key there => ?_⟩ (fun s action next events holds meets taken => ?_)
    equivalent
  · exact absurd there ExtTreeMap.not_mem_empty
  · have watch := watch_of_step isOwn holds.1 taken
    obtain ⟨triggers, timed, requested⟩ := watch.linked holds.1
    refine ⟨⟨holds.1.keyed.step taken, triggers, timed, requested, ?_⟩,
      ((equivalent s action next events holds taken).mpr meets).2⟩
    exact (watch.shift holds.1).single holds.1.single meets.rearms

/-- A node is set up and two heartbeats are not answered. -/
theorem setup_answered_and_monitored_outage : ∃ records finish,
    Run (step oneNode) (init oneNode) records finish ∧ records.length = 7 ∧
    (∀ record ∈ records, AnsweredOnce record ∧ Supervised record.after) ∧
    ((∀ record ∈ records, AnsweredOnce record ∧ Supervised record.after) ↔
      ∀ record ∈ records, MeetsSupervision oneNode record.before record.action) := by
  obtain ⟨records, finish, run, all, meets⟩ :=
    Run.exists_of_passes (step oneNode) (init oneNode) outage
      (fun records _ => records.length = 7 ∧
        ∀ record ∈ records, MeetsSupervision oneNode record.before record.action) (by decide)
  have iff := setup_answered_and_monitored_iff oneNode (by decide) run
  exact ⟨records, finish, run, all, iff.mpr meets, iff⟩

/-- The lost node asks again with the time stamp that is known: it is not answered, it is in
service, and nothing supervises it. -/
theorem lost_node_unmonitored : ∃ records finish,
    Run (step oneNode) (init oneNode) records finish ∧
    ∃ record ∈ records, ¬AnsweredOnce record ∧ ¬Supervised record.after := by
  obtain ⟨records, finish, run, record, member, asked, silent, inService, unwatched⟩ :=
    Run.exists_of_passes (step oneNode) (init oneNode)
      (outage ++ [.associationSetupRequest 4 upfEndpoint (some upfNodeId) (some 100)])
      (fun records _ => ∃ record ∈ records,
        record.action = .associationSetupRequest 4 upfEndpoint (some upfNodeId) (some 100) ∧
        record.events = [] ∧ oneNode.keyOf upf ∈ record.after.upNodes ∧
        record.after.watchedBy (oneNode.keyOf upf) = 0) (by decide)
  refine ⟨records, finish, run, record, member, fun answered => ?_, fun supervised => ?_⟩
  · have once := answered 4 upfEndpoint (some upfNodeId) (some 100) asked
    rw [silent] at once
    cases once
  · have one := supervised _ inService
    rw [unwatched] at one
    cases one

end State

end OpenairSpgwc.Sxab
