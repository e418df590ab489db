import OpenairSpgwc.Common.Imsi
import OpenairSpgwc.Foundation.Directory
import OpenairSpgwc.Pgw.Routing
import OpenairSpgwc.Pgw.Waits
import OpenairSpgwc.Sgw.Effects

/-!
Contract: the contexts of subscribers, `imsi2sgw_eps_bearer_context` and
`imsi2pgw_context`.

Both gateways look a Create Session Request up by the number that `to_imsi64` makes
of its IMSI. The digits behind an even number of digits are read as zeros, and zeros
that lead an odd number are lost: such subscribers share a context.

Owns:
- messages whose IMSI names a subscriber;
- which subscribers are not told apart;
- that all others only ever get the context that was made for them.
-/

namespace OpenairSpgwc

open Foundation Common
open Std (ExtTreeMap)

/-- A message, with the subscriber that the IMSI of a Create Session Request is of. -/
structure Arrival (α : Type) where
  subscriber : Option ImsiDigits
  action : α
deriving DecidableEq

/-- Two subscribers whose IMSIs stand for the same sixteen digits. -/
def Confusable (first second : ImsiDigits) : Prop :=
  first ≠ second ∧ writtenOut first.digits = writtenOut second.digits

instance (first second : ImsiDigits) : Decidable (Confusable first second) :=
  inferInstanceAs (Decidable (_ ∧ _))

section Records

variable {σ α ε : Type} (brought : α → Option ImsiDigits) (records : List (StepRecord σ α ε))

/-- The subscribers that the messages of a run bring. -/
def everyone : List ImsiDigits := records.filterMap fun record => brought record.action

/-- No two of them are confusable. -/
def Unconfusable : Prop :=
  ∀ first ∈ everyone brought records, ∀ second ∈ everyone brought records, ¬Confusable first second

instance : Decidable (Unconfusable brought records) :=
  inferInstanceAs (Decidable (∀ first ∈ everyone brought records, ∀ second ∈ _, _))

variable {brought records}

theorem Unconfusable.apart (unconfusable : Unconfusable brought records)
    {first second : StepRecord σ α ε} (member : first ∈ records) (member' : second ∈ records)
    {name name' : ImsiDigits} (brings : brought first.action = some name)
    (brings' : brought second.action = some name') : ¬Confusable name name' :=
  unconfusable name (List.mem_filterMap.mpr ⟨first, member, brings⟩) name'
    (List.mem_filterMap.mpr ⟨second, member', brings'⟩)

end Records

theorem imsi64_injective_iff (first second : ImsiDigits) :
    (first.imsi64 = second.imsi64 → first = second) ↔ ¬Confusable first second := by
  rw [imsi64_eq_iff, Confusable, not_and', ne_eq, not_not]

/-! ### The SGW -/

namespace Sgw

/-- The IMSI of a Create Session Request is the one received. -/
def Action.identified (imsi : Option Nat) : Action → Action
  | .createSession request => .createSession { request with imsi }
  | action => action

def brought (message : Arrival Action) : Option ImsiDigits :=
  match message.action with
  | .createSession _ => message.subscriber
  | _ => none

/-- The handling of a message by the SGW application. -/
def arrive (s : State) (message : Arrival Action) : Option (State × List Event) :=
  step s (message.action.identified (message.subscriber.map ImsiDigits.imsi64))

/-- `imsi2sgw_eps_bearer_context`. -/
def subscribers : Directory State Nat where
  find s imsi64 := s.imsi2sgwEpsBearerContext[imsi64]?
  fresh s := s.nextAddress

/-- The number of the subscriber that a message asks for. -/
def Action.imsi64 : Action → Option Nat
  | .createSession request => request.imsi
  | _ => none

variable {s t : State} {events : List Event} {request : CreateSessionRequest} {ebc sp : Nat}

/-- The steps that touch the map at its end, if at all. -/
theorem moves_of_same {asked : Option Nat} (same : State.SameTables s t) :
    subscribers.Moves asked s t := by
  refine .of_kept (fun imsi64 ebc known => ?_) same.nextAddress
  change t.imsi2sgwEpsBearerContext[imsi64]? = some ebc at known
  rw [same.imsiMap] at known
  exact known

theorem State.imsiMap_entered (s : State) (ebc : Nat) (request : CreateSessionRequest) :
    (s.entered ebc request).imsi2sgwEpsBearerContext = s.imsi2sgwEpsBearerContext ∧
      (s.entered ebc request).nextAddress = s.nextAddress := by
  unfold State.entered
  split <;> exact ⟨rfl, rfl⟩

/-- A request leaves the map as it finds it in its context. -/
theorem State.imsiMap_createSessionInContext
    (handled : s.createSessionInContext ebc request = some (t, events)) :
    t.imsi2sgwEpsBearerContext = s.imsi2sgwEpsBearerContext ∧ s.nextAddress ≤ t.nextAddress := by
  obtain ⟨map, next⟩ := State.imsiMap_entered s ebc request
  rw [← map, ← next]
  obtain ⟨c, -, ⟨same, -⟩ | ⟨middle, same, -, added⟩⟩ := State.createSessionInContext_cases handled
  · exact ⟨same.imsiMap, same.nextAddress⟩
  · refine ⟨added.imsiMap.trans same.imsiMap, same.nextAddress.trans ?_⟩
    rw [added.nextAddress]
    exact Nat.le_succ _

theorem State.imsiMap_clearCollision (s : State) (ebc : Nat) (ebi : Option Nat) :
    (s.clearCollision ebc ebi).1.imsi2sgwEpsBearerContext = s.imsi2sgwEpsBearerContext ∧
      s.nextAddress ≤ (s.clearCollision ebc ebi).1.nextAddress := by
  rcases (State.clearCollision_cases : (s.clearCollision ebc ebi).1 = s ∨ _) with
    same | ⟨asked, sp, key, same, -, deleted⟩
  · rw [same]
    exact ⟨rfl, le_rfl⟩
  · rw [deleted]
    exact ⟨same.imsiMap, same.nextAddress⟩

/-- An unknown IMSI gets an entry, for a new context. -/
theorem moves_create (handled : s.handleCreateSessionRequest request = some (t, events)) :
    subscribers.Moves request.imsi s t := by
  rcases State.create_cases handled with rfl | ⟨base, ebc, more, reached, created⟩
  · exact .of_kept (fun _ _ known => known) le_rfl
  · obtain ⟨map, next⟩ := State.imsiMap_createSessionInContext created
    unfold State.handed at reached
    split at reached
    · next imsi64 routed =>
        cases reached
        obtain ⟨asked, unknown⟩ := State.route_newContext routed
        have later : s.nextAddress < t.nextAddress := next
        refine ⟨fun key place known => ?_, later.le⟩
        change t.imsi2sgwEpsBearerContext[key]? = some place at known
        rw [map] at known
        change (s.imsi2sgwEpsBearerContext.insert imsi64 s.nextAddress)[key]? = some place at known
        rcases getElem?_insert_eq_some.mp known with ⟨rfl, rfl⟩ | ⟨-, before⟩
        · exact .inr ⟨asked, unknown, rfl, later⟩
        · exact .inl before
    · next ebc ebi routed =>
        cases reached
        obtain ⟨cleared, before⟩ := State.imsiMap_clearCollision s ebc ebi
        refine .of_kept (fun key place known => ?_) (before.trans next)
        change t.imsi2sgwEpsBearerContext[key]? = some place at known
        rw [map, cleared] at known
        exact known
    · cases reached
    · cases reached
    · cases reached

/-- A context that is deleted takes its entry with it. -/
theorem moves_cleaned {asked : Option Nat} (cleaned : State.Cleaned s t events ebc sp) :
    subscribers.Moves asked s t := by
  obtain ⟨-, middle, sent, trims, -, after⟩ := cleaned
  have trimmed : middle.imsi2sgwEpsBearerContext = s.imsi2sgwEpsBearerContext ∧
      s.nextAddress ≤ middle.nextAddress := by
    rcases trims with same | ⟨inner, same, last⟩
    · exact ⟨same.imsiMap, same.nextAddress⟩
    · exact ⟨last.imsiMap.trans same.imsiMap, same.nextAddress.trans last.nextAddress⟩
  unfold State.cleanup at after
  split at after
  · next empty =>
      have deleted : middle.deleteSgwEpsBearerContext ebc = t := congrArg Prod.fst after
      rw [State.deleteSgwEpsBearerContext_eq empty] at deleted
      rw [← deleted]
      refine .of_kept (fun key place known => ?_) trimmed.2
      have before : middle.imsi2sgwEpsBearerContext[key]? = some place := getElem?_of_erase known
      rw [trimmed.1] at before
      exact before
  · cases after
    refine .of_kept (fun key place known => ?_) trimmed.2
    change t.imsi2sgwEpsBearerContext[key]? = some place at known
    rw [trimmed.1] at known
    exact known

theorem moves_step {action : Action} (taken : step s action = some (t, events)) :
    subscribers.Moves action.imsi64 s t := by
  have answered : (t = s ∧ events = []) ∨ (∃ ebc sp, State.Cleaned s t events ebc sp) →
      subscribers.Moves none s t := by
    rintro (⟨rfl, -⟩ | ⟨ebc, sp, cleaned⟩)
    · exact .of_kept (fun _ _ known => known) le_rfl
    · exact moves_cleaned cleaned
  cases changes : State.changesTables action with
  | false => exact moves_of_same (State.sameTables_step changes taken)
  | true =>
      cases action with
      | createSession request => exact moves_create taken
      | createSessionResponse csresp => exact answered (State.cleaned_createSessionResponse taken)
      | deleteSessionResponse dsresp => exact answered (State.cleaned_deleteSessionResponse taken)
      | remotePeerNotResponding resp =>
          exact answered (State.cleaned_remotePeerNotResponding (Option.some.inj taken))
      | modifyBearer request uids => cases changes
      | releaseAccessBearers request => cases changes
      | deleteSession request => cases changes
      | downlinkDataNotificationAcknowledge ack => cases changes
      | modifyBearerResponse s5resp => cases changes
      | releaseAccessBearersResponse s5resp => cases changes
      | downlinkDataNotification ddn => cases changes

theorem asked_eq (message : Arrival Action) :
    (message.action.identified (message.subscriber.map ImsiDigits.imsi64)).imsi64 =
      (brought message).map ImsiDigits.imsi64 := by
  obtain ⟨subscriber, action⟩ := message
  cases action <;> rfl

theorem tellsApart {records : List (StepRecord State (Arrival Action) Event)}
    (run : Run arrive State.init records s) (unconfusable : Unconfusable brought records) :
    subscribers.TellsApart brought ImsiDigits.imsi64 records := by
  refine Directory.tellsApart_of_run run (fun _ => ExtTreeMap.getElem?_empty)
    (fun record member => ?_) fun first member second member' name name' brings brings' => ?_
  · have moves := moves_step (run.taken record member)
    rw [asked_eq] at moves
    exact moves
  · exact (imsi64_injective_iff name name').mpr
      (unconfusable.apart member member' brings brings')

end Sgw

/-! ### The PGW -/

namespace Pgw

/-- The IMSI of a Create Session Request is the one received. -/
def Action.identified (imsi : Option Nat) : Action → Action
  | .createSession request upNode endValue => .createSession { request with imsi } upNode endValue
  | action => action

def brought (message : Arrival Action) : Option ImsiDigits :=
  match message.action with
  | .createSession _ _ _ => message.subscriber
  | _ => none

/-- The handling of a message by the PGW application. -/
def arrive (config : Config) (s : State) (message : Arrival Action) :
    Option (State × List Event) :=
  step config s (message.action.identified (message.subscriber.map ImsiDigits.imsi64))

/-- `imsi2pgw_context`. -/
def subscribers : Directory State Nat where
  find s imsi64 := s.imsi2pgwContext[imsi64]?
  fresh s := s.nextAddress

/-- The number of the subscriber that a message asks for. -/
def Action.imsi64 : Action → Option Nat
  | .createSession request _ _ => request.imsi
  | _ => none

variable {config : Config} {s t : State} {events : List Event}

theorem nextAddress_step {action : Action} (tracked : State.Tracked config s)
    (taken : step config s action = some (t, events)) : s.nextAddress ≤ t.nextAddress := by
  have blank := congrArg PgwContext.apns (tracked.grounded.blank s.nextAddress le_rfl)
  cases State.registryStep_of_step blank tracked.registered taken with
  | same same => exact same.nextAddress
  | attached arrives new leaves =>
      have later := arrives.nextAddress.trans (Nat.le_add_right _ 2)
      rw [← new.nextAddress] at later
      exact later.trans leaves.nextAddress
  | removed member removed leaves =>
      rw [← removed.nextAddress]
      exact leaves.nextAddress

/-- An unknown IMSI gets an entry, for a new context. -/
theorem entries_create {request : CreateSessionRequest} {upNode : UpNode} {endValue : Nat}
    (tracked : State.Tracked config s)
    (handled : s.handleCreateSessionRequest config request upNode endValue = some (t, events))
    {key place : Nat} (known : t.imsi2pgwContext[key]? = some place) :
    s.imsi2pgwContext[key]? = some place ∨
      (request.imsi = some key ∧ s.imsi2pgwContext[key]? = none ∧ place = s.nextAddress) := by
  rcases State.create_cases handled with ⟨-, rfl, -⟩ |
      ⟨pc, sa, sp, before, after, routed, attached, ran⟩
  · exact .inl known
  · obtain ⟨-, -, -, map⟩ := State.create_contexts tracked routed attached ran
    rw [map] at known
    rcases State.route_context routed with ⟨rfl, -⟩ | ⟨imsi64, asked, unknown, rfl, rfl⟩
    · exact .inl known
    · change (s.imsi2pgwContext.insert imsi64 s.nextAddress)[key]? = some place at known
      rcases getElem?_insert_eq_some.mp known with ⟨rfl, rfl⟩ | ⟨-, before⟩
      · exact .inr ⟨asked, unknown, rfl⟩
      · exact .inl before

/-- A context that is deleted takes its entry with it. -/
theorem entries_deletionResponse (answer : SessionDeletionResponse) {key place : Nat}
    (known : (s.handleSessionDeletionResponse answer).1.imsi2pgwContext[key]? = some place) :
    s.imsi2pgwContext[key]? = some place := by
  have emptied : ∀ (state : State) (pc : Nat),
      (state.deleteIfEmpty pc).imsi2pgwContext[key]? = some place →
        state.imsi2pgwContext[key]? = some place := by
    intro state pc left
    unfold State.deleteIfEmpty at left
    split at left
    · exact getElem?_of_erase left
    · exact left
  unfold State.handleSessionDeletionResponse at known
  split at known
  · exact known
  · next pc routed =>
      split at known
      · exact emptied s pc known
      · next proc found =>
          split at known
          · next context gtpcTxId teid kind =>
              exact (State.lets_deleted context proc.ppc).imsis key place
                (emptied ((s.deleted context proc.ppc).1.removeProcedure pc proc.address) pc known)
          · exact emptied (s.removeProcedure pc proc.address) pc known

theorem moves_step {action : Action} (tracked : State.Tracked config s)
    (taken : step config s action = some (t, events)) :
    subscribers.Moves action.imsi64 s t := by
  have later := nextAddress_step tracked taken
  have after := tracked.step taken
  have quiet : State.Quiet s t → subscribers.Moves none s t := by
    intro quiet
    refine .of_kept (fun key place known => ?_) later
    change t.imsi2pgwContext[key]? = some place at known
    rw [quiet.imsiMap] at known
    exact known
  cases action with
  | createSession request upNode endValue =>
      refine ⟨fun key place known => ?_, later⟩
      rcases entries_create tracked taken known with before | ⟨asked, unknown, rfl⟩
      · exact .inl before
      · exact .inr ⟨asked, unknown, rfl, after.grounded.imsis key _ known⟩
  | sessionEstablishmentResponse answer =>
      have same := State.quiet_of_establishmentResponse (s := s) answer
      rw [Option.some.inj taken] at same
      exact quiet same
  | deleteSession order sent => exact quiet (State.quiet_of_deleteSession tracked.registered taken)
  | sessionDeletionResponse answer =>
      refine .of_kept (fun key place known => ?_) later
      have same : (s.handleSessionDeletionResponse answer).1 = t := by
        rw [Option.some.inj taken]
      rw [← same] at known
      exact entries_deletionResponse answer known

theorem asked_eq (message : Arrival Action) :
    (message.action.identified (message.subscriber.map ImsiDigits.imsi64)).imsi64 =
      (brought message).map ImsiDigits.imsi64 := by
  obtain ⟨subscriber, action⟩ := message
  cases action <;> rfl

theorem tellsApart {records : List (StepRecord State (Arrival Action) Event)}
    (run : Run (arrive config) (State.init config.pdns) records s)
    (unconfusable : Unconfusable brought records) :
    subscribers.TellsApart brought ImsiDigits.imsi64 records := by
  have tracked := (run.invariant (State.Tracked config) (State.tracked_init config)
    fun _ _ _ _ tracked taken => tracked.step taken).2
  refine Directory.tellsApart_of_run run (fun _ => ExtTreeMap.getElem?_empty)
    (fun record member => ?_) fun first member second member' name name' brings brings' => ?_
  · have moves := moves_step (tracked record member).1 (run.taken record member)
    rw [asked_eq] at moves
    exact moves
  · exact (imsi64_injective_iff name name').mpr
      (unconfusable.apart member member' brings brings')

end Pgw

/-! ### Both -/

/-- Two subscribers have the same key exactly when they are confusable, and where no
two that are come, both gateways take every subscriber to its own context. -/
theorem subscribers_told_apart (first second : ImsiDigits) (config : Pgw.Config) :
    ((first.imsi64 = second.imsi64 → first = second) ↔ ¬Confusable first second) ∧
    (∀ records s, Run Sgw.arrive Sgw.State.init records s →
      Unconfusable Sgw.brought records →
        Sgw.subscribers.TellsApart Sgw.brought ImsiDigits.imsi64 records) ∧
    ∀ records s, Run (Pgw.arrive config) (Pgw.State.init config.pdns) records s →
      Unconfusable Pgw.brought records →
        Pgw.subscribers.TellsApart Pgw.brought ImsiDigits.imsi64 records :=
  ⟨imsi64_injective_iff first second, fun _ _ => Sgw.tellsApart, fun _ _ => Pgw.tellsApart⟩

/-- An IMSI of fifteen digits. -/
def fifteenDigits (last : Fin 10) : ImsiDigits :=
  ⟨decimal [2, 0, 8, 9, 5, 0, 0, 0, 0, 0, 0, 0, 0, 3] ++ [last],
    by simp [decimal], by simp [decimal]⟩

/-- 123456. -/
def sixDigits : ImsiDigits := ⟨decimal [1, 2, 3, 4, 5, 6], by decide, by decide⟩

/-- 12345600. -/
def eightDigits : ImsiDigits := ⟨decimal [1, 2, 3, 4, 5, 6, 0, 0], by decide, by decide⟩

/-- A Create Session Request of a subscriber on S11. -/
def s11Attach (subscriber : ImsiDigits) : Arrival Sgw.Action where
  subscriber := some subscriber
  action := .createSession
    { senderFteidForCp := { v4 := true, interfaceType := Sgw.s11MmeGtpC, teidGreKey := 1 }
      apn := "internet"
      pdnType := 1
      bearerContextsToBeCreated := [5] }

/-- A Create Session Request of a subscriber on S5/S8. -/
def s5s8Attach (subscriber : ImsiDigits) : Arrival Pgw.Action where
  subscriber := some subscriber
  action := .createSession (Pgw.oneBearer 0 0 none) .sent 0

example : sixDigits.imsi64 = 1234560000000000 := by decide

/-- Two subscribers attach, and the first once more. -/
theorem two_subscribers_told_apart :
    ((fifteenDigits 1).imsi64 = (fifteenDigits 2).imsi64 → fifteenDigits 1 = fifteenDigits 2) ∧
    (∃ records s, Run Sgw.arrive Sgw.State.init records s ∧
      everyone Sgw.brought records = [fifteenDigits 1, fifteenDigits 2, fifteenDigits 1] ∧
      Sgw.subscribers.TellsApart Sgw.brought ImsiDigits.imsi64 records) ∧
    ∃ records s,
      Run (Pgw.arrive Pgw.twoAddresses) (Pgw.State.init Pgw.twoAddresses.pdns) records s ∧
      everyone Pgw.brought records = [fifteenDigits 1, fifteenDigits 2, fifteenDigits 1] ∧
      Pgw.subscribers.TellsApart Pgw.brought ImsiDigits.imsi64 records := by
  obtain ⟨apart, sgw, pgw⟩ :=
    subscribers_told_apart (fifteenDigits 1) (fifteenDigits 2) Pgw.twoAddresses
  refine ⟨apart.mpr (by decide), ?_, ?_⟩
  · obtain ⟨records, s, run, all, unconfusable⟩ := Run.exists_of_passes Sgw.arrive Sgw.State.init
      [s11Attach (fifteenDigits 1), s11Attach (fifteenDigits 2), s11Attach (fifteenDigits 1)]
      (fun records _ =>
        everyone Sgw.brought records = [fifteenDigits 1, fifteenDigits 2, fifteenDigits 1] ∧
          Unconfusable Sgw.brought records) (by decide)
    exact ⟨records, s, run, all, sgw records s run unconfusable⟩
  · obtain ⟨records, s, run, all, unconfusable⟩ := Run.exists_of_passes
      (Pgw.arrive Pgw.twoAddresses) (Pgw.State.init Pgw.twoAddresses.pdns)
      [s5s8Attach (fifteenDigits 1), s5s8Attach (fifteenDigits 2), s5s8Attach (fifteenDigits 1)]
      (fun records _ =>
        everyone Pgw.brought records = [fifteenDigits 1, fifteenDigits 2, fifteenDigits 1] ∧
          Unconfusable Pgw.brought records) (by decide)
    exact ⟨records, s, run, all, pgw records s run unconfusable⟩

/-- The second subscriber gets the context of the first. -/
theorem subscribers_confused :
    ¬(∀ first second : ImsiDigits, first.imsi64 = second.imsi64 → first = second) ∧
    ¬(∀ records s, Run Sgw.arrive Sgw.State.init records s →
        Sgw.subscribers.TellsApart Sgw.brought ImsiDigits.imsi64 records) ∧
    ¬∀ records s,
      Run (Pgw.arrive Pgw.twoAddresses) (Pgw.State.init Pgw.twoAddresses.pdns) records s →
        Pgw.subscribers.TellsApart Pgw.brought ImsiDigits.imsi64 records := by
  have different : sixDigits ≠ eightDigits := by decide
  refine ⟨fun apart => different (apart _ _ (by decide)), fun apart => ?_, fun apart => ?_⟩
  · obtain ⟨records, s, run, made, earlier, record, later, makes, brought, found⟩ :=
      Run.exists_of_passes Sgw.arrive Sgw.State.init [s11Attach sixDigits, s11Attach eightDigits]
        (fun records _ => ∃ made ∈ records.take 1, ∃ record ∈ records.drop 1,
          Sgw.subscribers.Makes Sgw.brought ImsiDigits.imsi64 made sixDigits 0 ∧
            Sgw.brought record.action = some eightDigits ∧
            Sgw.subscribers.find record.before eightDigits.imsi64 = some 0) (by decide)
    exact Directory.not_tellsApart earlier later makes brought found different (apart records s run)
  · obtain ⟨records, s, run, made, earlier, record, later, makes, brought, found⟩ :=
      Run.exists_of_passes (Pgw.arrive Pgw.twoAddresses) (Pgw.State.init Pgw.twoAddresses.pdns)
        [s5s8Attach sixDigits, s5s8Attach eightDigits]
        (fun records _ => ∃ made ∈ records.take 1, ∃ record ∈ records.drop 1,
          Pgw.subscribers.Makes Pgw.brought ImsiDigits.imsi64 made sixDigits 0 ∧
            Pgw.brought record.action = some eightDigits ∧
            Pgw.subscribers.find record.before eightDigits.imsi64 = some 0) (by decide)
    exact Directory.not_tellsApart earlier later makes brought found different (apart records s run)

end OpenairSpgwc
