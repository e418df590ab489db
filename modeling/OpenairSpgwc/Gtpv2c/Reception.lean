import OpenairSpgwc.Gtpv2c.Decoding

/-!
Contract: datagrams as the tasks of the S11, S5 and S8 interfaces receive them.

Owns:
- `handle_receive` of the tasks, up to the procedure that the message belongs to;
- that a container which one task sends is what another one receives;
- that no echo request is answered.
-/

namespace OpenairSpgwc.Gtpv2c.Ie

open Foundation

/-! ## Tasks -/

inductive Task where
  | sgwS11
  | sgwS5s8
  | pgwS5s8
deriving DecidableEq, Repr

/-- The container that `handle_receive_gtpv2c_msg` reads a message of the type into. On S5 and
S8 the SGW reads echo messages and indications of the version as responses to the creation of a
session. -/
def Task.handled : Task → Nat → Option Message
  | sgwS11, 32 => some .createSessionRequest
  | sgwS11, 34 => some .modifyBearerRequest
  | sgwS11, 36 => some .deleteSessionRequest
  | sgwS11, 170 => some .releaseAccessBearersRequest
  | sgwS11, 177 => some .downlinkDataNotificationAcknowledge
  | sgwS11, 1 => some .echoRequest
  | sgwS11, 2 => some .echoResponse
  | sgwS5s8, 1 | sgwS5s8, 2 | sgwS5s8, 3 | sgwS5s8, 33 => some .createSessionResponse
  | sgwS5s8, 35 => some .modifyBearerResponse
  | sgwS5s8, 37 => some .deleteSessionResponse
  | sgwS5s8, 171 => some .releaseAccessBearersResponse
  | sgwS5s8, 176 => some .downlinkDataNotification
  | pgwS5s8, 32 => some .createSessionRequest
  | pgwS5s8, 34 => some .modifyBearerRequest
  | pgwS5s8, 36 => some .deleteSessionRequest
  | pgwS5s8, 177 => some .downlinkDataNotificationAcknowledge
  | pgwS5s8, 170 => some .releaseAccessBearersRequest
  | _, _ => none

/-- What becomes of a datagram: no handler, an exception that is logged, or a container that is
handed on. -/
inductive Reception where
  | ignored
  | refused (exception : GtpcException)
  | taken (header : MsgHeader) (message : Message) (container : IesContainer)

/-- `catch (gtpc_exception& e)`. The exception of the standard library is none. -/
def caught : GtpcException → Bool
  | .lengthError => false
  | _ => true

/-- The message, and the container that its handler reads it into. -/
def Task.read (task : Task) (junk : Junk) (octets : Octets) :
    Except (Fault GtpcException) Reception :=
  match Msg.load junk octets with
  | .error reason => .error reason
  | .ok msg =>
      match task.handled msg.header.messageType.toNat with
      | none => .ok .ignored
      | some message =>
          match msg.toCoreType message junk with
          | .error reason => .error reason
          | .ok container => .ok (.taken msg.header message container)

/-- `handle_receive`, up to the call of `handle_receive_message_cb`. -/
def Task.receive (task : Task) (junk : Junk) (octets : Octets) :
    Except (Fault GtpcException) Reception :=
  match task.read junk octets with
  | .error (.thrown exception) =>
      if caught exception then .ok (.refused exception) else .error (.thrown exception)
  | other => other

/-- `handle_receive_echo_request` calls `send_echo_response`, unless the procedure is not new. -/
def AnswersEcho : Except (Fault GtpcException) Reception → Prop
  | .ok (.taken _ .echoRequest container) => container .recoveryRestartCounter ≠ []
  | _ => False

variable {task : Task} {junk : Junk} {octets : Octets} {reception : Reception}

theorem receive_of_read (read : task.read junk octets = .ok reception) :
    task.receive junk octets = .ok reception := by
  rw [Task.receive, read]

theorem receive_eq_taken {header : MsgHeader} {message : Message} {container : IesContainer}
    (received : task.receive junk octets = .ok (.taken header message container)) :
    ∃ msg, Msg.load junk octets = .ok msg ∧ msg.header = header ∧
      msg.toCoreType message junk = .ok container := by
  have read : task.read junk octets = .ok (.taken header message container) := by
    rw [Task.receive] at received
    split at received
    · split at received <;> cases received
    · exact received
  rw [Task.read] at read
  cases loaded : Msg.load junk octets with
  | error reason =>
      rw [loaded] at read
      cases read
  | ok msg =>
      rw [loaded] at read
      simp only at read
      cases found : task.handled msg.header.messageType.toNat with
      | none =>
          rw [found] at read
          cases read
      | some message' =>
          rw [found] at read
          simp only at read
          cases core : msg.toCoreType message' junk with
          | error reason =>
              rw [core] at read
              cases read
          | ok container' =>
              rw [core] at read
              cases read
              exact ⟨msg, rfl, rfl, core⟩

/-! ## From one task to another -/

theorem completed_messageType {message : Message} {length : Nat} {teid : Option (BitVec 32)}
    {sequenceNumber : BitVec 32} :
    (completed message length teid sequenceNumber).messageType.toNat = message.type := by
  rw [completed, BitVec.toNat_ofNat]
  cases message <;> rfl

/-- A container whose values are in the range of their encodings, in members that the message
both writes and reads, is handed on by every task that has a handler for the message, as it was
given to the sender and with the TEID and the sequence number of the sender. -/
theorem container_delivered {message : Message} {container : IesContainer}
    (present : Msg.missing message container = false)
    (carried : AllCarried reading Kind.Fair message.entries message.rows container)
    (complete : Complete reading message.entries none message.rows container)
    (teid : Option (BitVec 32)) (sequenceNumber : BitVec 32)
    (fits : emptyLength teid + message.octets container < 2 ^ 16) (junk : Junk) :
    ∃ msg, Msg.construct message junk container = .ok msg ∧
      ∀ junk, ∃ octets left, (msg.addressed teid sequenceNumber).dump junk = .ok (octets, left) ∧
        ∀ task junk, Task.handled task message.type = some message →
          ∃ header, task.receive junk octets = .ok (.taken header message container) ∧
            header.teid = teid.getD 0 ∧ header.sequenceNumber = sequenceNumber.setWidth 24 := by
  obtain ⟨msg, made, returns⟩ :=
    container_returns present carried complete teid sequenceNumber fits junk
  refine ⟨msg, made, fun junk => ?_⟩
  obtain ⟨octets, left, dumped, msg', loaded, header, core⟩ := returns junk
  refine ⟨octets, left, dumped, fun task junk handled => ⟨msg'.header, ?_, ?_⟩⟩
  · obtain ⟨ies, -, eq⟩ := addressed_eq made teid sequenceNumber
    apply receive_of_read
    rw [Task.read, loaded junk]
    simp only [header, eq, completed_messageType, handled]
    rw [core junk]
  · obtain ⟨ies, -, eq⟩ := addressed_eq made teid sequenceNumber
    rw [header, eq]
    exact ⟨rfl, rfl⟩

theorem carried_of_singleton {entries : List (Entry Member Kind)} {member : Member} {kind : Kind}
    {info : Nat} {container : IesContainer} {core : kind.Core} {entry : Entry Member Kind}
    (found : target reading entries (.leaf member kind info) = some entry)
    (one : container member = [.leaf ⟨kind, core⟩]) (fair : kind.Fair core) :
    Carried reading Kind.Fair entries (.leaf member kind info) container := by
  intro _
  refine ⟨entry, found, .inr (by rw [one]; exact le_rfl), fun value inside => ⟨core, ?_, fair⟩⟩
  rw [one] at inside
  exact List.mem_singleton.mp inside

theorem carried_twoModified : AllCarried reading Kind.Fair Message.modifyBearerResponse.entries
    Message.modifyBearerResponse.rows twoModified := by
  have plain : requestAccepted.Plain := ⟨by decide, rfl, rfl, rfl⟩
  refine ⟨carried_of_singleton rfl rfl plain, (absurd rfl ·),
    carried_of_singleton rfl rfl (show (5 : Octet) &&& 0x0F = 5 by decide), (absurd rfl ·),
    (absurd rfl ·), (absurd rfl ·), (absurd rfl ·), (absurd rfl ·), (absurd rfl ·), fun _ => ?_,
    (absurd rfl ·), trivial⟩
  refine ⟨_, _, rfl, rfl, .inl rfl, fun value inside => ?_⟩
  obtain ⟨bearer, teid, small, rfl⟩ : ∃ (bearer : Octet) (teid : BitVec 32),
      bearer &&& 0x0F = bearer ∧ value = .group (modifiedBearer bearer teid) := by
    rcases List.mem_pair.mp inside with rfl | rfl
    · exact ⟨5, 1, by decide, rfl⟩
    · exact ⟨6, 2, by decide, rfl⟩
  refine ⟨_, rfl, ⟨carried_of_singleton rfl rfl small, carried_of_singleton rfl rfl plain,
    carried_of_singleton rfl rfl ⟨nofun, fun _ => rfl⟩, (absurd rfl ·), (absurd rfl ·),
    (absurd rfl ·), (absurd rfl ·), (absurd rfl ·), (absurd rfl ·), trivial⟩,
    fun member some' => ?_, _, List.mem_cons_self, List.cons_ne_nil _ _⟩
  cases member with
  | epsBearerId => exact ⟨_, .head _, rfl, _, rfl, rfl⟩
  | cause => exact ⟨_, .tail _ (.head _), rfl, _, rfl, rfl⟩
  | s1USgwFteid => exact ⟨_, .tail _ (.tail _ (.head _)), rfl, _, rfl, rfl⟩
  | _ => exact absurd rfl some'

theorem complete_twoModified : Complete reading Message.modifyBearerResponse.entries none
    Message.modifyBearerResponse.rows twoModified := by
  intro member some'
  cases member with
  | cause => exact ⟨_, List.mem_of_getElem? (i := 0) rfl, rfl, _, rfl, rfl⟩
  | linkedEpsBearerId => exact ⟨_, List.mem_of_getElem? (i := 2) rfl, rfl, _, rfl, rfl⟩
  | bearerContextsModified => exact ⟨_, List.mem_of_getElem? (i := 9) rfl, rfl, _, rfl, rfl⟩
  | _ => exact absurd rfl some'

theorem two_bearers_delivered : ∃ msg,
    Msg.construct .modifyBearerResponse (fun _ => 0) twoModified = .ok msg ∧
      ∀ junk, ∃ octets left, (msg.addressed (some 9) 7).dump junk = .ok (octets, left) ∧
        ∀ task junk, Task.handled task Message.modifyBearerResponse.type =
            some .modifyBearerResponse →
          ∃ header, task.receive junk octets =
              .ok (.taken header .modifyBearerResponse twoModified) ∧
            header.teid = 9 ∧ header.sequenceNumber = (7 : BitVec 32).setWidth 24 :=
  container_delivered rfl carried_twoModified complete_twoModified (some 9) 7 (by decide)
    fun _ => 0

/-! ## Echo -/

/-- A container without `set`s takes nothing over. -/
theorem readAll_nil_entries {elements : List (Element catalogue.Object)}
    {container result : IesContainer}
    (read : readAll reading junk [] elements container = .ok result) : result = container := by
  cases elements with
  | nil =>
      rw [readAll] at read
      cases read
      rfl
  | cons element elements =>
      rw [readAll] at read
      cases first : readElement reading junk [] element with
      | error reason =>
          rw [first] at read
          cases read
      | ok one =>
          have found : home [] element = some one.1.member := home_of_read first
          cases found

/-- No datagram makes a task, of the SGW or of the PGW, answer an echo request. -/
theorem echo_never_answered (task : Task) (junk : Junk) (octets : Octets) :
    ¬ AnswersEcho (task.receive junk octets) := by
  intro answers
  cases received : task.receive junk octets with
  | error reason =>
      rw [received] at answers
      exact answers
  | ok reception =>
      rw [received] at answers
      cases reception with
      | ignored => exact answers
      | refused exception => exact answers
      | taken header message container =>
          cases message with
          | echoRequest =>
              obtain ⟨msg, -, -, core⟩ := receive_eq_taken received
              rw [readAll_nil_entries core] at answers
              exact answers rfl
          | _ => exact answers

end OpenairSpgwc.Gtpv2c.Ie
