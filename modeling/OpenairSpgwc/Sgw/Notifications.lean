import OpenairSpgwc.Sgw.Requests

/-!
Contract: Downlink Data Notifications and their Acknowledges, the messages of
`downlink_data_notification_procedure`.

Owns:
- `Relaying`: what the handling of one of the two messages does;
- that a notification is relayed once, and once more for every Acknowledge of it;
- exactly when the procedures have left: no Acknowledge of a relayed notification
  arrives. The handler of the Acknowledge removes nothing and marks nothing.

The transactions of the notifications are taken to be distinct and new, as the
stack assigns them.
-/

namespace OpenairSpgwc.Sgw

open Foundation
open Std (ExtTreeMap)

/-- The transaction of a notification. -/
def Action.notification : Action → Option Nat
  | .downlinkDataNotification ddn => some ddn.gtpcTxId
  | _ => none

/-- The message is a notification or an Acknowledge. -/
def Action.relays : Action → Bool
  | .downlinkDataNotification _ => true
  | .downlinkDataNotificationAcknowledge _ => true
  | _ => false

def Event.notifies (id : Nat) : Event → Bool
  | .s11DownlinkDataNotification gtpcTxId _ => gtpcTxId == id
  | _ => false

def Event.acknowledges (id : Nat) : Event → Bool
  | .s5s8DownlinkDataNotificationAcknowledge gtpcTxId _ => gtpcTxId == id
  | _ => false

namespace State

variable {s t : State} {ebc other sp id : Nat} {action : Action} {events : List Event}
  {records earlier later : List (StepRecord State Action Event)}
  {record note : StepRecord State Action Event}

/-- The transactions of the notifications of a run. -/
def notifications (records : List (StepRecord State Action Event)) : List Nat :=
  records.filterMap fun record => record.action.notification

/-- A TEID of the SGW leads to the context. -/
def Reaches (s : State) (ebc : Nat) : Prop :=
  (∃ teid, s.s11Context teid = some ebc) ∨
    ∃ teid sp : Nat, s.s5s8lteid2sgwContexts[teid]? = some (ebc, sp)

/-- The EBI of the notification is a bearer of the connection it addresses. -/
def Bears (s : State) (ddn : DownlinkDataNotification) (ebc sp : Nat) : Prop :=
  s.s5s8lteid2sgwContexts[ddn.teid]? = some (ebc, sp) ∧
    ∃ ebi, ddn.epsBearerId = some ebi ∧ (s.pdnConnections sp).sgwEpsBearers.contains ebi = true

/-- A notification for a bearer of the connection `sp` of the context `ebc`. -/
def Raises (record : StepRecord State Action Event) (ebc sp id : Nat) : Prop :=
  ∃ ddn, record.action = .downlinkDataNotification ddn ∧ ddn.gtpcTxId = id ∧
    record.before.Bears ddn ebc sp

/-- An Acknowledge of the MME of the context `ebc`. -/
def answers (ebc id : Nat) (record : StepRecord State Action Event) : Bool :=
  match record.action with
  | .downlinkDataNotificationAcknowledge ack =>
      decide (record.before.s11Context ack.teid = some ebc ∧ ack.gtpcTxId = id)
  | _ => false

/-! ### One message -/

/-- What the handling of a notification or of an Acknowledge does. -/
inductive Relaying (s : State) : Action → State → List Event → Prop where
  | ignored (ddn : DownlinkDataNotification)
      (unserved : ∀ ebc sp, s.Bears ddn ebc sp → s.findProcedure ebc ddn.gtpcTxId ≠ none) :
      Relaying s (.downlinkDataNotification ddn) s []
  | notified (ddn : DownlinkDataNotification) (ebc sp : Nat) (bears : s.Bears ddn ebc sp)
      (idle : s.findProcedure ebc ddn.gtpcTxId = none) :
      Relaying s (.downlinkDataNotification ddn)
        (s.insertProcedure ebc ddn.gtpcTxId ebc (.downlinkDataNotification ddn sp))
        [.s11DownlinkDataNotification ddn.gtpcTxId (s.contexts ebc).mmeFteidS11.teidGreKey]
  | unmatched (ack : DownlinkDataNotificationAcknowledge)
      (unknown : ∀ ebc proc ddn sp, s.s11Context ack.teid = some ebc →
        s.findProcedure ebc ack.gtpcTxId = some proc →
        proc.kind ≠ .downlinkDataNotification ddn sp) :
      Relaying s (.downlinkDataNotificationAcknowledge ack) s []
  | acknowledged (ack : DownlinkDataNotificationAcknowledge) (ebc : Nat) (proc : Procedure)
      (ddn : DownlinkDataNotification) (sp : Nat) (context : s.s11Context ack.teid = some ebc)
      (found : s.findProcedure ebc ack.gtpcTxId = some proc)
      (kind : proc.kind = .downlinkDataNotification ddn sp) :
      Relaying s (.downlinkDataNotificationAcknowledge ack) s
        [.s5s8DownlinkDataNotificationAcknowledge ack.gtpcTxId
          (s.pdnConnections sp).pgwFteidS5S8Cp.teidGreKey]

theorem relaying_downlinkDataNotification (ddn : DownlinkDataNotification) :
    Relaying s (.downlinkDataNotification ddn) (s.handleDownlinkDataNotification ddn).1
      (s.handleDownlinkDataNotification ddn).2 := by
  unfold handleDownlinkDataNotification
  split
  · next nowhere =>
      refine .ignored ddn fun ebc sp bears => ?_
      have addressed := bears.1
      rw [nowhere] at addressed
      cases addressed
  · next ebc sp addressed =>
      unfold downlinkDataNotificationInContext
      split
      · next busy =>
          refine .ignored ddn fun ebc' sp' bears idle => ?_
          obtain ⟨rfl, rfl⟩ := Prod.mk.inj (Option.some.inj (addressed.symm.trans bears.1))
          rw [idle] at busy
          cases busy
      · next idle =>
          split
          · next absent =>
              refine .ignored ddn fun ebc' sp' bears => ?_
              obtain ⟨ebi, present, -⟩ := bears.2
              rw [absent] at present
              cases present
          · next ebi named =>
              split
              · next bearer =>
                  exact .notified ddn ebc sp ⟨addressed, ebi, named, bearer⟩
                    (Option.not_isSome_iff_eq_none.mp idle)
              · next noBearer =>
                  refine .ignored ddn fun ebc' sp' bears => ?_
                  obtain ⟨rfl, rfl⟩ :=
                    Prod.mk.inj (Option.some.inj (addressed.symm.trans bears.1))
                  obtain ⟨ebi', named', bearer⟩ := bears.2
                  obtain rfl := Option.some.inj (named.symm.trans named')
                  exact absurd bearer noBearer

theorem hasTrxnId_iff {proc : Procedure} {ddn : DownlinkDataNotification}
    (kind : proc.kind = .downlinkDataNotification ddn sp) :
    proc.hasTrxnId id = true ↔ proc.gtpcTxId = id := by
  simp [Procedure.hasTrxnId, kind]

theorem relaying_downlinkDataNotificationAcknowledge (ack : DownlinkDataNotificationAcknowledge) :
    Relaying s (.downlinkDataNotificationAcknowledge ack)
      (s.handleDownlinkDataNotificationAcknowledge ack).1
      (s.handleDownlinkDataNotificationAcknowledge ack).2 := by
  unfold handleDownlinkDataNotificationAcknowledge
  split
  · next nowhere =>
      refine .unmatched ack fun ebc proc ddn sp context => ?_
      rw [nowhere] at context
      cases context
  · next ebc context =>
      unfold downlinkDataNotificationAcknowledgeInContext
      split
      · next unknown =>
          refine .unmatched ack fun ebc' proc ddn sp context' found => ?_
          obtain rfl := Option.some.inj (context.symm.trans context')
          rw [unknown] at found
          cases found
      · next proc found =>
          split
          · next ddn sp kind =>
              have transaction : proc.gtpcTxId = ack.gtpcTxId :=
                (hasTrxnId_iff kind).mp (mem_of_findProcedure found).2
              rw [transaction]
              exact .acknowledged ack ebc proc ddn sp context found kind
          · next other =>
              refine .unmatched ack fun ebc' proc' ddn sp context' found' => ?_
              obtain rfl := Option.some.inj (context.symm.trans context')
              obtain rfl := Option.some.inj (found.symm.trans found')
              exact other ddn sp

theorem relaying_of_step (relays : action.relays = true)
    (taken : step s action = some (t, events)) : Relaying s action t events := by
  cases action with
  | downlinkDataNotification ddn =>
      have handled := relaying_downlinkDataNotification (s := s) ddn
      rw [Option.some.inj taken] at handled
      exact handled
  | downlinkDataNotificationAcknowledge ack =>
      have handled := relaying_downlinkDataNotificationAcknowledge (s := s) ack
      rw [Option.some.inj taken] at handled
      exact handled
  | _ => cases relays

/-- The messages write nothing but the list of procedures. -/
structure Carried (s t : State) : Prop where
  s11Map : t.s11lteid2sgwEpsBearerContext = s.s11lteid2sgwEpsBearerContext
  s5s8Map : t.s5s8lteid2sgwContexts = s.s5s8lteid2sgwContexts
  pdnConnections : t.pdnConnections = s.pdnConnections

theorem Relaying.carried (handled : Relaying s action t events) : Carried s t := by
  cases handled with
  | ignored ddn unserved => exact ⟨rfl, rfl, rfl⟩
  | notified ddn ebc sp bears idle => exact ⟨rfl, rfl, rfl⟩
  | unmatched ack unknown => exact ⟨rfl, rfl, rfl⟩
  | acknowledged ack ebc proc ddn sp context found kind => exact ⟨rfl, rfl, rfl⟩

theorem Carried.reaches (carried : Carried s t) (reaches : t.Reaches ebc) : s.Reaches ebc := by
  unfold Reaches s11Context at *
  rw [carried.s11Map, carried.s5s8Map] at reaches
  exact reaches

/-- The procedure of a notification, when it has just been made. -/
def notifying (s : State) (ebc sp : Nat) (ddn : DownlinkDataNotification) : Procedure :=
  ⟨s.nextAddress, ddn.gtpcTxId, ebc, .downlinkDataNotification ddn sp⟩

theorem findProcedure_insertProcedure {ddn : DownlinkDataNotification} :
    (s.insertProcedure ebc ddn.gtpcTxId ebc (.downlinkDataNotification ddn sp)).findProcedure
        other id =
      if other = ebc then (s.findProcedure ebc id).or
        (if ddn.gtpcTxId = id then some (s.notifying ebc sp ddn) else none)
      else s.findProcedure other id := by
  have own : (s.notifying ebc sp ddn).hasTrxnId id = true ↔ ddn.gtpcTxId = id :=
    hasTrxnId_iff rfl
  show List.find? _ (State.pending _ other) = _
  rw [pending_insertProcedure]
  split
  · rw [List.find?_append]
    congr 1
    rw [List.find?_singleton]
    show (if (s.notifying ebc sp ddn).hasTrxnId id = true then _ else _) = _
    simp only [own]
    rfl
  · rfl

/-- A message does not change who handles a transaction that it does not start. -/
theorem Relaying.findProcedure_eq (handled : Relaying s action t events)
    (different : action.notification ≠ some id) :
    t.findProcedure other id = s.findProcedure other id := by
  cases handled with
  | ignored ddn unserved => rfl
  | notified ddn ebc sp bears idle =>
      have differs : ddn.gtpcTxId ≠ id := fun same => different (congrArg some same)
      rw [findProcedure_insertProcedure, if_neg differs, Option.or_none]
      split
      · next here => rw [here]
      · rfl
  | unmatched ack unknown => rfl
  | acknowledged ack ebc proc ddn sp context found kind => rfl

theorem Relaying.countP_notifies (handled : Relaying s action t events)
    (different : action.notification ≠ some id) :
    events.countP (Event.notifies id) = 0 := by
  cases handled with
  | ignored ddn unserved => rfl
  | notified ddn ebc sp bears idle =>
      have differs : ddn.gtpcTxId ≠ id := fun same => different (congrArg some same)
      simp [Event.notifies, differs]
  | unmatched ack unknown => rfl
  | acknowledged ack ebc proc ddn sp context found kind => rfl

theorem Relaying.countP_acknowledges_of_unknown (handled : Relaying s action t events)
    (unknown : ∀ ebc, s.Reaches ebc → s.findProcedure ebc id = none) :
    events.countP (Event.acknowledges id) = 0 := by
  cases handled with
  | ignored ddn unserved => rfl
  | notified ddn ebc sp bears idle => rfl
  | unmatched ack unknown => rfl
  | acknowledged ack ebc proc ddn sp context found kind =>
      have differs : ack.gtpcTxId ≠ id := by
        rintro rfl
        rw [unknown ebc (.inl ⟨ack.teid, context⟩)] at found
        cases found
      simp [Event.acknowledges, differs]

/-- The transaction belongs to a notification for the connection `sp`. -/
structure Noted (s : State) (ebc sp id : Nat) : Prop where
  found : ∃ proc ddn, s.findProcedure ebc id = some proc ∧
    proc.kind = .downlinkDataNotification ddn sp
  elsewhere : ∀ other, other ≠ ebc → s.Reaches other → s.findProcedure other id = none

/-- Where the transaction belongs to a notification, its Acknowledges are relayed, and
no other message is. -/
theorem Relaying.events_of_noted (handled : Relaying s action t events)
    (noted : Noted s ebc sp id) :
    events.countP (Event.acknowledges id) = [⟨s, action, t, events⟩].countP (answers ebc id) ∧
      (answers ebc id ⟨s, action, t, events⟩ = true →
        events = [.s5s8DownlinkDataNotificationAcknowledge id
          (s.pdnConnections sp).pgwFteidS5S8Cp.teidGreKey]) := by
  cases handled with
  | ignored ddn unserved => exact ⟨rfl, fun answered => by cases answered⟩
  | notified ddn ebc sp bears idle => exact ⟨rfl, fun answered => by cases answered⟩
  | unmatched ack unknown =>
      have unanswered :
          answers ebc id ⟨s, .downlinkDataNotificationAcknowledge ack, s, []⟩ = false := by
        obtain ⟨proc, ddn, found, kind⟩ := noted.found
        refine decide_eq_false fun ⟨context, same⟩ => ?_
        rw [← same] at found
        exact unknown ebc proc ddn sp context found kind
      refine ⟨?_, fun answered => ?_⟩
      · rw [List.countP_singleton, unanswered]
        rfl
      · rw [unanswered] at answered
        cases answered
  | acknowledged ack ebc' proc ddn sp' context found kind =>
      by_cases same : ack.gtpcTxId = id
      · have here : ebc' = ebc := by
          by_contra different
          rw [same, noted.elsewhere ebc' different (.inl ⟨ack.teid, context⟩)] at found
          cases found
        have connection : sp' = sp := by
          obtain ⟨proc', ddn', found', kind'⟩ := noted.found
          rw [← here, ← same, found] at found'
          rw [Option.some.inj found', kind'] at kind
          exact (ProcedureKind.downlinkDataNotification.inj kind).2.symm
        rw [here] at context
        rw [connection, same]
        refine ⟨?_, fun _ => rfl⟩
        rw [List.countP_singleton, List.countP_singleton]
        simp [Event.acknowledges, answers, context, same]
      · have unanswered : answers ebc id ⟨s, .downlinkDataNotificationAcknowledge ack, s,
            [.s5s8DownlinkDataNotificationAcknowledge ack.gtpcTxId
              (s.pdnConnections sp').pgwFteidS5S8Cp.teidGreKey]⟩ = false :=
          decide_eq_false fun both => same both.2
        refine ⟨?_, fun answered => ?_⟩
        · rw [List.countP_singleton, List.countP_singleton, unanswered]
          simp [Event.acknowledges, same]
        · rw [unanswered] at answered
          cases answered

/-! ### Runs of the messages -/

/-- A run of notifications and Acknowledges with none of the transaction `id`. -/
structure Spares (records : List (StepRecord State Action Event)) (id : Nat) : Prop where
  relays : ∀ record ∈ records, record.action.relays = true
  absent : id ∉ notifications records

theorem notifications_append :
    notifications (earlier ++ later) = notifications earlier ++ notifications later :=
  List.filterMap_append ..

theorem Spares.snoc (spares : Spares (records ++ [record]) id) :
    Spares records id ∧ record.action.relays = true ∧ record.action.notification ≠ some id := by
  have member : record ∈ records ++ [record] :=
    List.mem_append_right _ (List.mem_singleton.mpr rfl)
  refine ⟨⟨fun entry old => spares.relays entry (List.mem_append_left _ old), fun old => ?_⟩,
    spares.relays record member, fun same => ?_⟩
  · refine spares.absent ?_
    rw [notifications_append]
    exact List.mem_append_left _ old
  · exact spares.absent (List.mem_filterMap.mpr ⟨record, member, same⟩)

theorem run_spares (run : Run step s records t) (spares : Spares records id) :
    Carried s t ∧ (∀ ebc, t.findProcedure ebc id = s.findProcedure ebc id) ∧
      (trace records).countP (Event.notifies id) = 0 := by
  induction run with
  | nil => exact ⟨⟨rfl, rfl, rfl⟩, fun _ => rfl, rfl⟩
  | @snoc records middle next action events earlier taken inductionHypothesis =>
      obtain ⟨old, relays, different⟩ := spares.snoc
      obtain ⟨carried, same, silent⟩ := inductionHypothesis old
      have handled : Relaying middle action next events := relaying_of_step relays taken
      refine ⟨⟨handled.carried.s11Map.trans carried.s11Map,
        handled.carried.s5s8Map.trans carried.s5s8Map,
        handled.carried.pdnConnections.trans carried.pdnConnections⟩,
        fun ebc => (handled.findProcedure_eq different).trans (same ebc), ?_⟩
      rw [trace_append, List.countP_append, silent, trace_singleton,
        handled.countP_notifies different]

theorem run_unknown (run : Run step s records t) (spares : Spares records id)
    (unknown : ∀ ebc, s.Reaches ebc → s.findProcedure ebc id = none) :
    (trace records).countP (Event.acknowledges id) = 0 := by
  induction run with
  | nil => rfl
  | @snoc records middle next action events earlier taken inductionHypothesis =>
      obtain ⟨old, relays, different⟩ := spares.snoc
      obtain ⟨carried, same, -⟩ := run_spares earlier old
      have handled : Relaying middle action next events := relaying_of_step relays taken
      rw [trace_append, List.countP_append, inductionHypothesis old, trace_singleton,
        handled.countP_acknowledges_of_unknown fun ebc reaches =>
          (same ebc).trans (unknown ebc (carried.reaches reaches))]

theorem run_noted (run : Run step s records t) (spares : Spares records id)
    (noted : Noted s ebc sp id) :
    (trace records).countP (Event.acknowledges id) = records.countP (answers ebc id) ∧
      ∀ ack ∈ records, answers ebc id ack = true →
        ack.events = [.s5s8DownlinkDataNotificationAcknowledge id
          (s.pdnConnections sp).pgwFteidS5S8Cp.teidGreKey] ∧
        ack.after.findProcedure ebc id ≠ none := by
  induction run with
  | nil => exact ⟨rfl, fun ack member => by cases member⟩
  | @snoc records middle next action events earlier taken inductionHypothesis =>
      obtain ⟨old, relays, different⟩ := spares.snoc
      obtain ⟨counted, relayed⟩ := inductionHypothesis old
      obtain ⟨carried, same, -⟩ := run_spares earlier old
      have handled : Relaying middle action next events := relaying_of_step relays taken
      have still : Noted middle ebc sp id := by
        refine ⟨?_, fun other elsewhere reaches =>
          (same other).trans (noted.elsewhere other elsewhere (carried.reaches reaches))⟩
        rw [same ebc]
        exact noted.found
      obtain ⟨one, sent⟩ := handled.events_of_noted still
      refine ⟨?_, fun ack member answered => ?_⟩
      · rw [trace_append, List.countP_append, counted, trace_singleton, one, List.countP_append]
      · rcases List.mem_append.mp member with old | new
        · exact relayed ack old answered
        · rw [List.mem_singleton.mp new] at answered ⊢
          refine ⟨?_, ?_⟩
          · rw [sent answered, carried.pdnConnections]
          · obtain ⟨proc, ddn, found, -⟩ := still.found
            show next.findProcedure ebc id ≠ none
            rw [handled.findProcedure_eq different, found]
            exact Option.some_ne_none proc

/-! ### Relaying -/

/-- The record `note` of the run raises a notification, and `later` came after it. -/
def RaisedIn (records : List (StepRecord State Action Event)) (note : StepRecord State Action Event)
    (later : List (StepRecord State Action Event)) (ebc sp id : Nat) : Prop :=
  (∃ earlier, records = earlier ++ note :: later) ∧ Raises note ebc sp id

/-- In the whole run the notification is relayed once to the MME of the UE, and its
Acknowledges, each once, to the PGW of the connection. -/
structure Relayed (records : List (StepRecord State Action Event))
    (note : StepRecord State Action Event) (later : List (StepRecord State Action Event))
    (ebc sp id : Nat) : Prop where
  notified : note.events =
    [.s11DownlinkDataNotification id (note.before.contexts ebc).mmeFteidS11.teidGreKey]
  once : (trace records).countP (Event.notifies id) = 1
  acknowledged : ∀ ack ∈ later, answers ebc id ack = true →
    ack.events = [.s5s8DownlinkDataNotificationAcknowledge id
      (note.before.pdnConnections sp).pgwFteidS5S8Cp.teidGreKey]
  counted : (trace records).countP (Event.acknowledges id) = later.countP (answers ebc id)

/-- The transactions of a run are distinct, and none belongs to a pending procedure of a
context that messages can reach. -/
structure FreshIn (s : State) (records : List (StepRecord State Action Event)) : Prop where
  distinct : (notifications records).Nodup
  unknown : ∀ id ∈ notifications records, ∀ ebc, s.Reaches ebc → s.findProcedure ebc id = none

theorem Raises.notifications (raises : Raises note ebc sp id) :
    notifications (earlier ++ note :: later) =
      notifications earlier ++ id :: notifications later := by
  obtain ⟨ddn, sent, rfl, -⟩ := raises
  rw [notifications_append]
  congr 1
  exact List.filterMap_cons_some (by rw [sent]; rfl)

/-- A notification that raises is handled by a procedure of its own from then on. -/
theorem Raises.noted (raises : Raises note ebc sp id)
    (handled : Relaying note.before note.action note.after note.events)
    (unknown : ∀ ebc, note.before.Reaches ebc → note.before.findProcedure ebc id = none) :
    note.events =
        [.s11DownlinkDataNotification id (note.before.contexts ebc).mmeFteidS11.teidGreKey] ∧
      Noted note.after ebc sp id := by
  obtain ⟨ddn, sent, rfl, bears⟩ := raises
  have idle := unknown ebc (.inr ⟨ddn.teid, sp, bears.1⟩)
  generalize note.after = after, note.events = events at handled ⊢
  rw [sent] at handled
  cases handled with
  | ignored _ unserved => exact absurd idle (unserved ebc sp bears)
  | notified _ ebc' sp' bears' _ =>
      obtain ⟨rfl, rfl⟩ := Prod.mk.inj (Option.some.inj (bears.1.symm.trans bears'.1))
      refine ⟨rfl, ⟨note.before.notifying ebc sp ddn, ddn, ?_, rfl⟩,
        fun other elsewhere reaches => ?_⟩
      · rw [findProcedure_insertProcedure, if_pos rfl, idle, if_pos rfl]
        rfl
      · rw [findProcedure_insertProcedure, if_neg elsewhere]
        exact unknown other reaches

theorem relayed_of_raised (run : Run step s records t)
    (relays : ∀ record ∈ records, record.action.relays = true) (fresh : FreshIn s records)
    (raised : RaisedIn records note later ebc sp id) :
    Relayed records note later ebc sp id ∧
      ∀ ack ∈ later, answers ebc id ack = true → ack.after.findProcedure ebc id ≠ none := by
  obtain ⟨⟨earlier, rfl⟩, raises⟩ := raised
  obtain ⟨before, taken, after⟩ := run.at_record
  obtain ⟨distinct, unknown⟩ := fresh
  rw [raises.notifications] at distinct unknown
  obtain ⟨-, rest, apart⟩ := List.nodup_append.mp distinct
  have known : id ∈ notifications earlier ++ id :: notifications later :=
    List.mem_append_right _ (List.mem_cons_self ..)
  have sparesEarlier : Spares earlier id :=
    ⟨fun record member => relays record (List.mem_append_left _ member),
      fun old => apart id old id (List.mem_cons_self ..) rfl⟩
  have sparesLater : Spares later id :=
    ⟨fun record member => relays record (List.mem_append_right _ (List.mem_cons_of_mem _ member)),
      (List.nodup_cons.mp rest).1⟩
  obtain ⟨carried, same, silentBefore⟩ := run_spares before sparesEarlier
  have quietBefore := run_unknown before sparesEarlier (unknown id known)
  have handled := relaying_of_step
    (relays note (List.mem_append_right _ (List.mem_cons_self ..))) taken
  obtain ⟨notified, noted⟩ :=
    raises.noted handled fun ebc reaches =>
      (same ebc).trans (unknown id known ebc (carried.reaches reaches))
  obtain ⟨-, -, silentAfter⟩ := run_spares after sparesLater
  obtain ⟨counted, relayed⟩ := run_noted after sparesLater noted
  have shape : trace (earlier ++ note :: later) =
      trace earlier ++ (note.events ++ trace later) := by
    rw [trace_append]
    rfl
  refine ⟨⟨notified, ?_, fun ack member answered => ?_, ?_⟩,
    fun ack member answered => (relayed ack member answered).2⟩
  · rw [shape, List.countP_append, List.countP_append, silentBefore, silentAfter, notified]
    simp [Event.notifies]
  · rw [(relayed ack member answered).1, handled.carried.pdnConnections]
  · rw [shape, List.countP_append, List.countP_append, quietBefore, counted, notified]
    simp [Event.acknowledges]

theorem unknown_of_toList
    (s11 : ∀ entry ∈ s.s11lteid2sgwEpsBearerContext.toList, s.findProcedure entry.2 id = none)
    (s5s8 : ∀ entry ∈ s.s5s8lteid2sgwContexts.toList, s.findProcedure entry.2.1 id = none) :
    ∀ ebc, s.Reaches ebc → s.findProcedure ebc id = none := by
  intro ebc reaches
  rcases reaches with ⟨teid, context⟩ | ⟨teid, sp, addressed⟩
  · unfold s11Context at context
    split at context
    · cases context
    · exact s11 (teid, ebc) (ExtTreeMap.mem_toList_iff_getElem?_eq_some.mpr context)
  · exact s5s8 (teid, ebc, sp) (ExtTreeMap.mem_toList_iff_getElem?_eq_some.mpr addressed)

/-- From any state: a notification for a bearer and its Acknowledge. -/
theorem exists_acknowledged {ddn : DownlinkDataNotification} {teid : Nat}
    (bears : s.Bears ddn ebc sp) (context : s.s11Context teid = some ebc)
    (unknown : ∀ ebc, s.Reaches ebc → s.findProcedure ebc ddn.gtpcTxId = none) :
    ∃ note ack t, Run step s [note, ack] t ∧
      [note, ack].map StepRecord.action = [.downlinkDataNotification ddn,
        .downlinkDataNotificationAcknowledge { gtpcTxId := ddn.gtpcTxId, teid := teid }] ∧
      (∀ record ∈ [note, ack], record.action.relays = true) ∧ FreshIn s [note, ack] ∧
      RaisedIn [note, ack] note [ack] ebc sp ddn.gtpcTxId ∧
      answers ebc ddn.gtpcTxId ack = true := by
  let ack : DownlinkDataNotificationAcknowledge := { gtpcTxId := ddn.gtpcTxId, teid := teid }
  obtain ⟨middle, notified⟩ : ∃ result, step s (.downlinkDataNotification ddn) = some result :=
    ⟨_, rfl⟩
  obtain ⟨last, acknowledged⟩ :
      ∃ result, step middle.1 (.downlinkDataNotificationAcknowledge ack) = some result := ⟨_, rfl⟩
  refine ⟨⟨s, .downlinkDataNotification ddn, middle.1, middle.2⟩,
    ⟨middle.1, .downlinkDataNotificationAcknowledge ack, last.1, last.2⟩, last.1,
    ((Run.initial step s).andThen _ notified).andThen _ acknowledged, rfl, ?_,
    ⟨?_, ?_⟩, ⟨⟨[], rfl⟩, ddn, rfl, rfl, bears⟩, ?_⟩
  · intro record member
    rcases List.mem_cons.mp member with rfl | member
    · rfl
    · rw [List.mem_singleton.mp member]
      rfl
  · exact List.nodup_singleton ddn.gtpcTxId
  · intro id member
    rw [List.mem_singleton.mp (show id ∈ [ddn.gtpcTxId] from member)]
    exact unknown
  · have carried : Carried s middle.1 := (relaying_of_step rfl notified).carried
    refine decide_eq_true ⟨?_, rfl⟩
    unfold s11Context at context ⊢
    rw [carried.s11Map]
    exact context

/-- The notification for the bearer of a UE that has attached. -/
def wakes : DownlinkDataNotification := { gtpcTxId := 9, teid := 1, epsBearerId := some 5 }

theorem exists_wakes : ∃ records s, Run step init records s ∧ s.Bears wakes 0 2 ∧
    s.s11Context 1 = some 0 ∧
    ∀ ebc, s.Reaches ebc → s.findProcedure ebc wakes.gtpcTxId = none := by
  obtain ⟨records, s, run, addressed, bearer, context, s11, s5s8⟩ :=
    Run.exists_of_passes step init (attachActions 1 0 1 5 "internet" 1)
      (fun _ s => s.s5s8lteid2sgwContexts[1]? = some (0, 2) ∧
        (s.pdnConnections 2).sgwEpsBearers.contains 5 = true ∧ s.s11Context 1 = some 0 ∧
        (∀ entry ∈ s.s11lteid2sgwEpsBearerContext.toList, s.findProcedure entry.2 9 = none) ∧
        ∀ entry ∈ s.s5s8lteid2sgwContexts.toList, s.findProcedure entry.2.1 9 = none) (by decide)
  exact ⟨records, s, run, ⟨addressed, 5, rfl, bearer⟩, context, unknown_of_toList s11 s5s8⟩

/-- In a run of notifications and Acknowledges with new transactions, from any state, each
notification for a bearer is relayed once, and each of its Acknowledges is relayed to the PGW
of the connection. All the procedures have left after their Acknowledges exactly when none of
the notifications is acknowledged. -/
theorem notifications_relayed_iff (run : Run step s records t)
    (relays : ∀ record ∈ records, record.action.relays = true) (fresh : FreshIn s records) :
    (∀ note later ebc sp id, RaisedIn records note later ebc sp id →
        Relayed records note later ebc sp id) ∧
      ((∀ note later ebc sp id, RaisedIn records note later ebc sp id →
          Relayed records note later ebc sp id ∧
            ∀ ack ∈ later, answers ebc id ack = true → ack.after.findProcedure ebc id = none) ↔
        ∀ note later ebc sp id, RaisedIn records note later ebc sp id →
          ∀ ack ∈ later, answers ebc id ack = false) := by
  refine ⟨fun note later ebc sp id raised => (relayed_of_raised run relays fresh raised).1,
    fun gone note later ebc sp id raised ack member => ?_,
    fun unanswered note later ebc sp id raised => ?_⟩
  · cases answered : answers ebc id ack with
    | false => rfl
    | true =>
        have stays := (relayed_of_raised run relays fresh raised).2 ack member answered
        exact absurd ((gone note later ebc sp id raised).2 ack member answered) stays
  · refine ⟨(relayed_of_raised run relays fresh raised).1, fun ack member answered => ?_⟩
    rw [unanswered note later ebc sp id raised ack member] at answered
    cases answered

/-- A UE is notified and answers: the Acknowledge is relayed, and its procedure stays. -/
theorem notifications_relayed_wakes : ∃ past s records t note later, Run step init past s ∧
    Run step s records t ∧ RaisedIn records note later 0 2 9 ∧
    (∃ ack ∈ later, answers 0 9 ack = true) ∧
    (∀ note later ebc sp id, RaisedIn records note later ebc sp id →
        Relayed records note later ebc sp id) ∧
      ((∀ note later ebc sp id, RaisedIn records note later ebc sp id →
          Relayed records note later ebc sp id ∧
            ∀ ack ∈ later, answers ebc id ack = true → ack.after.findProcedure ebc id = none) ↔
        ∀ note later ebc sp id, RaisedIn records note later ebc sp id →
          ∀ ack ∈ later, answers ebc id ack = false) := by
  obtain ⟨past, s, reached, bears, context, unknown⟩ := exists_wakes
  obtain ⟨note, ack, t, run, -, relays, fresh, raised, answered⟩ :=
    exists_acknowledged bears context unknown
  exact ⟨past, s, [note, ack], t, note, [ack], reached, run, raised,
    ⟨ack, List.mem_singleton.mpr rfl, answered⟩, notifications_relayed_iff run relays fresh⟩

theorem not_notifications_relayed : ∃ past s records t, Run step init past s ∧
    Run step s records t ∧ records.map StepRecord.action = [.downlinkDataNotification wakes,
      .downlinkDataNotificationAcknowledge { gtpcTxId := 9, teid := 1 }] ∧
    (∀ record ∈ records, record.action.relays = true) ∧ FreshIn s records ∧
    ¬∀ note later ebc sp id, RaisedIn records note later ebc sp id →
      Relayed records note later ebc sp id ∧
        ∀ ack ∈ later, answers ebc id ack = true → ack.after.findProcedure ebc id = none := by
  obtain ⟨past, s, reached, bears, context, unknown⟩ := exists_wakes
  obtain ⟨note, ack, t, run, actions, relays, fresh, raised, answered⟩ :=
    exists_acknowledged bears context unknown
  refine ⟨past, s, [note, ack], t, reached, run, actions, relays, fresh, fun relayed => ?_⟩
  have member : ack ∈ [ack] := List.mem_singleton.mpr rfl
  have gone := (relayed note [ack] 0 2 9 raised).2 ack member answered
  exact (relayed_of_raised run relays fresh raised).2 ack member answered gone

end State

end OpenairSpgwc.Sgw
