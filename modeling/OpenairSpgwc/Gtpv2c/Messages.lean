import OpenairSpgwc.Gtpv2c.Containers
import OpenairSpgwc.Gtpv2c.Datagrams
import OpenairSpgwc.Gtpv2c.Laws

/-!
Contract: GTPv2-C messages between a container and the octets of a datagram.

Owns:
- the messages that the constructors make, with the header that a sender completes;
- when the octets are as long as declared, at every level;
- when every transmission repeats the first one;
- the containers that come back from the octets.
-/

namespace OpenairSpgwc.Gtpv2c.Ie

open Foundation

/-- `gtpv2c_msg`. -/
structure Msg where
  header : MsgHeader
  ies : List (Element catalogue.Object)

namespace Msg

/-- `gtpv2c_msg_header::gtpv2c_msg_header`, with the type that the constructor of a message
sets. -/
def newHeader (message : Message) : MsgHeader where
  u1 := 0x40
  messageType := BitVec.ofNat 8 message.type
  messageLength := 4
  teid := 0
  sequenceNumber := 0
  u2 := 0

def addIe (msg : Msg) (ie : Element catalogue.Object) : Msg where
  header := { msg.header with
    messageLength := msg.header.messageLength + BitVec.ofNat 16 ie.span }
  ies := msg.ies ++ [ie]

/-- A Create Session Response has a cause. -/
def missing (message : Message) (container : IesContainer) : Bool :=
  decide (message = .createSessionResponse) && (container .cause).isEmpty

/-- The constructor from the container of a message. -/
def construct (message : Message) (junk : Junk) (container : IesContainer) :
    Except (Fault GtpcException) Msg :=
  if missing message container then
    .error (.thrown (.missingIe "GTP_CREATE_SESSION_RESPONSE" "GTP_IE_CAUSE"))
  else
    match buildAll catalogue junk message.rows container with
    | .error reason => .error reason
    | .ok ies => .ok (ies.foldl addIe ⟨newHeader message, []⟩)

def setTeid (msg : Msg) (teid : BitVec 32) : Msg where
  header := { msg.header with
    teid
    u1 := msg.header.u1 ||| 0x08
    messageLength :=
      if msg.header.hasTeid then msg.header.messageLength else msg.header.messageLength + 4 }
  ies := msg.ies

def setSequenceNumber (msg : Msg) (sequenceNumber : BitVec 32) : Msg where
  header := { msg.header with sequenceNumber := sequenceNumber.setWidth 24 }
  ies := msg.ies

/-- What a sender sets before it writes the message. Echo messages have no TEID. -/
def addressed (msg : Msg) (teid : Option (BitVec 32)) (sequenceNumber : BitVec 32) : Msg :=
  ((teid.map msg.setTeid).getD msg).setSequenceNumber sequenceNumber

end Msg

/-- What writing leaves of the header. -/
def MsgHeader.dumped (h : MsgHeader) : MsgHeader where
  u1 := if h.hasTeid then h.u1 &&& 0xFC else h.u1 &&& 0xF8
  messageType := h.messageType
  messageLength := h.messageLength
  teid := h.teid
  sequenceNumber := h.sequenceNumber
  u2 := if h.hasTeid && h.mp then h.u2 &&& 0xF0 else 0

namespace Msg

/-- `dump_to`, with the message it leaves. -/
def dump (junk : Junk) (msg : Msg) : Except (Fault GtpcException) (Octets × Msg) :=
  match catalogue.protocol.dumpAll junk msg.ies with
  | .error reason => .error reason
  | .ok (octets, ies) => .ok (msg.header.octets ++ octets, ⟨msg.header.dumped, ies⟩)

/-- Sending the message for the `k`-th time after the first. -/
def dumpAgain (junks : Nat → Junk) (msg : Msg) : Nat → Except (Fault GtpcException) (Octets × Msg)
  | 0 => msg.dump (junks 0)
  | k + 1 =>
      match dumpAgain junks msg k with
      | .error reason => .error reason
      | .ok (_, left) => left.dump (junks (k + 1))

/-- `load_from` of a datagram. -/
def load (junk : Junk) (octets : Octets) : Except (Fault GtpcException) Msg :=
  match envelope.load catalogue.protocol junk ⟨octets, false⟩ with
  | .error reason => .error reason
  | .ok ((header, ies), _) => .ok ⟨header, ies⟩

/-- `to_core_type`, into a new container. -/
def toCoreType (message : Message) (junk : Junk) (msg : Msg) :
    Except (Fault GtpcException) IesContainer :=
  readAll reading junk message.entries msg.ies fun _ => []

/-- The octets are the header and the elements, which are as long as they declare at every
level, and so is the message. -/
def Laid (junk : Junk) (octets : Octets) (msg : Msg) : Prop :=
  ∃ body, octets = msg.header.octets ++ body ∧ catalogue.protocol.AllLaid junk body msg.ies ∧
    octets.length = 4 + msg.header.messageLength.toNat

end Msg

/-- Each value for which the constructor adds an element has the property. -/
def Message.EveryValue (message : Message) (holds : (kind : Kind) → kind.Core → Prop)
    (container : IesContainer) : Prop :=
  @EveryAll _ _ catalogue holds message.rows container

/-- The octets of the elements, by the sizes of their values. -/
def Message.octets (message : Message) (container : IesContainer) : Nat :=
  @octetsAll _ _ catalogue Kind.size message.rows container

/-! ## Headers -/

/-- The length of a message without elements. -/
def emptyLength (teid : Option (BitVec 32)) : Nat := if teid.isSome then 8 else 4

/-- Writing leaves the header as it is, and what is not written is zero. -/
structure MsgHeader.Settled (h : MsgHeader) : Prop where
  dumped : h.dumped = h
  teid : h.hasTeid = false → h.teid = 0

theorem addedHeader (msg : Msg) (ies : List (Element catalogue.Object)) :
    ies.foldl Msg.addIe msg =
      ⟨{ msg.header with
          messageLength := BitVec.ofNat 16 (addedLength msg.header.messageLength.toNat ies) },
        msg.ies ++ ies⟩ := by
  induction ies generalizing msg with
  | nil => simp [addedLength]
  | cons ie ies inductionHypothesis =>
      rw [List.foldl_cons, inductionHypothesis]
      simp [Msg.addIe, addedLength, BitVec.toNat_add, Nat.add_mod]

/-- The header of a message that a sender has completed. -/
def completed (message : Message) (length : Nat) (teid : Option (BitVec 32))
    (sequenceNumber : BitVec 32) : MsgHeader where
  u1 := if teid.isSome then 0x48 else 0x40
  messageType := BitVec.ofNat 8 message.type
  messageLength := BitVec.ofNat 16 length
  teid := teid.getD 0
  sequenceNumber := sequenceNumber.setWidth 24
  u2 := 0

/-- A message of the constructor, when the sender has completed its header. -/
theorem addressed_eq {message : Message} {junk : Junk} {container : IesContainer} {msg : Msg}
    (made : Msg.construct message junk container = .ok msg) (teid : Option (BitVec 32))
    (sequenceNumber : BitVec 32) :
    ∃ ies, buildAll catalogue junk message.rows container = .ok ies ∧
      msg.addressed teid sequenceNumber =
        ⟨completed message (addedLength (emptyLength teid) ies) teid sequenceNumber, ies⟩ := by
  rw [Msg.construct] at made
  split at made
  · cases made
  · cases built : buildAll catalogue junk message.rows container with
    | error reason =>
        rw [built] at made
        cases made
    | ok ies =>
        rw [built] at made
        cases made
        refine ⟨ies, rfl, ?_⟩
        rw [addedHeader]
        cases teid with
        | none => rfl
        | some teid =>
            have longer : BitVec.ofNat 16 (addedLength 4 ies) + 4 =
                BitVec.ofNat 16 (addedLength 8 ies) := by
              apply BitVec.eq_of_toNat_eq
              rw [addedLength_eq (by decide), addedLength_eq (by decide), BitVec.toNat_add,
                BitVec.toNat_ofNat, BitVec.toNat_ofNat]
              show ((4 + spans ies) % 2 ^ 16 % 2 ^ 16 + 4) % 2 ^ 16 =
                (8 + spans ies) % 2 ^ 16 % 2 ^ 16
              omega
            simp [Msg.addressed, Msg.setTeid, Msg.setSequenceNumber, Msg.newHeader, completed,
              MsgHeader.hasTeid, emptyLength, ← longer]

section Completed

variable {message : Message} {length : Nat} {teid : Option (BitVec 32)}
  {sequenceNumber : BitVec 32}

theorem completed_hasTeid :
    (completed message length teid sequenceNumber).hasTeid = teid.isSome := by
  cases teid <;> simp [completed, MsgHeader.hasTeid]

theorem completed_settled : (completed message length teid sequenceNumber).Settled where
  dumped := by cases teid <;> simp [completed, MsgHeader.dumped, MsgHeader.hasTeid]
  teid none' := by
    rw [completed_hasTeid] at none'
    cases teid with
    | none => rfl
    | some teid => cases none'

theorem completed_size : (completed message length teid sequenceNumber).size =
    4 + emptyLength teid := by
  rw [MsgHeader.size, completed_hasTeid]
  cases teid <;> rfl

theorem MsgHeader.length_octets (h : MsgHeader) : h.octets.length = h.size := by
  cases teid : h.hasTeid <;> simp [MsgHeader.octets, MsgHeader.size, declaredFor, present, teid]

/-- A header is read as it was written. -/
theorem MsgHeader.Settled.reads {h : MsgHeader} (settled : h.Settled) (junk : Junk) :
    Reads (loadMsgHeader junk) h.octets h := by
  have first : h.u1 &&& 0xFC = h.u1 := by
    have same := congrArg MsgHeader.u1 settled.dumped
    by_cases teid : h.hasTeid
    · rwa [MsgHeader.dumped, if_pos teid] at same
    · rw [MsgHeader.dumped, if_neg teid] at same
      rw [← same]
      simp only [BitVec.and_assoc]
      rfl
  have last : (if h.hasTeid && h.mp then h.u2 &&& 0xF0 else 0) = h.u2 :=
    congrArg MsgHeader.u2 settled.dumped
  rw [MsgHeader.octets, first, last]
  show Reads _ ([h.u1] ++ ([h.messageType] ++ _)) _
  refine .bind (.intoOctet rfl h.u1) (.bind (.octet h.messageType) ?_)
  refine .bind (.into rfl (by decide) h.messageLength) ?_
  refine .bind (.optional (.number (by decide) h.teid) settled.teid) ?_
  refine .bind (.into ?_ (by decide) h.sequenceNumber) (Reads.finish (.octet h.u2))
  exact length_uninitialised junk 3

theorem emptyLength_lt (teid : Option (BitVec 32)) : emptyLength teid < 2 ^ 16 := by
  cases teid <;> simp [emptyLength]

theorem completed_length (small : length < 2 ^ 16) :
    (completed message length teid sequenceNumber).messageLength.toNat = length := by
  rw [completed, BitVec.toNat_ofNat, Nat.mod_eq_of_lt small]

theorem length_completed :
    (completed message length teid sequenceNumber).octets.length = 4 + emptyLength teid := by
  rw [MsgHeader.length_octets, completed_size]

theorem addedLength_lt (teid : Option (BitVec 32)) (ies : List (Element catalogue.Object)) :
    addedLength (emptyLength teid) ies < 2 ^ 16 := by
  rw [addedLength_eq (emptyLength_lt teid)]
  exact Nat.mod_lt _ (by decide)

end Completed

/-! ## Declared lengths -/

section Constructed

variable {message : Message} {container : IesContainer} {junk : Junk} {msg : Msg}

/-- The octets of a message that a constructor makes are as long as declared, in the header and
in every element at every level, just when each value is written as it is declared and the
whole message fits into the length. -/
theorem lengths_exact_iff (made : Msg.construct message junk container = .ok msg)
    (teid : Option (BitVec 32)) (sequenceNumber : BitVec 32) :
    (∀ junk, ∃ octets, (msg.addressed teid sequenceNumber).Laid junk octets) ↔
      message.EveryValue Kind.Exact container ∧
        emptyLength teid + message.octets container < 2 ^ 16 := by
  obtain ⟨ies, built, eq⟩ := addressed_eq made teid sequenceNumber
  rw [eq, Message.EveryValue, Message.octets,
    ← laid_iff_of_buildAll catalogue_writes (emptyLength_lt teid) built]
  refine forall_congr' fun junk => ?_
  have small := addedLength_lt teid ies
  constructor
  · rintro ⟨octets, body, rfl, laid, exact'⟩
    refine ⟨body, laid, ?_⟩
    rw [List.length_append, length_completed, completed_length small] at exact'
    omega
  · rintro ⟨body, laid, exact'⟩
    refine ⟨_, body, rfl, laid, ?_⟩
    rw [List.length_append, length_completed, completed_length small]
    omega

def requestAccepted : Cause := ⟨16, false, false, false, 0, 0, 0⟩

def modifiedBearer (bearer : Octet) (teid : BitVec 32) : IesContainer
  | .epsBearerId => [.leaf ⟨.epsBearerId, bearer⟩]
  | .cause => [.leaf ⟨.cause, requestAccepted⟩]
  | .s1USgwFteid => [.leaf ⟨.fullyQualifiedTeid, ⟨true, false, 1, teid, 0xC0A83D05, 0⟩⟩]
  | _ => []

/-- The answer to a Modify Bearer Request for two bearers. -/
def twoModified : IesContainer
  | .cause => [.leaf ⟨.cause, requestAccepted⟩]
  | .linkedEpsBearerId => [.leaf ⟨.epsBearerId, (5 : Octet)⟩]
  | .bearerContextsModified => [.group (modifiedBearer 5 1), .group (modifiedBearer 6 2)]
  | _ => []

theorem lengths_exact_two_bearers : ∃ msg,
    Msg.construct .modifyBearerResponse (fun _ => 0) twoModified = .ok msg ∧
      ((∀ junk, ∃ octets, (msg.addressed (some 9) 7).Laid junk octets) ↔
        Message.modifyBearerResponse.EveryValue Kind.Exact twoModified ∧
          emptyLength (some 9) + Message.modifyBearerResponse.octets twoModified < 2 ^ 16) := by
  obtain ⟨msg, made⟩ : ∃ msg, Msg.construct .modifyBearerResponse (fun _ => 0) twoModified =
      .ok msg := ⟨_, rfl⟩
  exact ⟨msg, made, lengths_exact_iff made (some 9) 7⟩

/-! ## Sending again -/

theorem dump_eq_ok_iff {octets : Octets} {left : Msg} : msg.dump junk = .ok (octets, left) ↔
    ∃ body ies, catalogue.protocol.dumpAll junk msg.ies = .ok (body, ies) ∧
      octets = msg.header.octets ++ body ∧ left = ⟨msg.header.dumped, ies⟩ := by
  rw [Msg.dump]
  constructor
  · intro dumped
    cases body : catalogue.protocol.dumpAll junk msg.ies with
    | error reason =>
        rw [body] at dumped
        cases dumped
    | ok result =>
        rw [body] at dumped
        cases dumped
        exact ⟨_, _, rfl, rfl, rfl⟩
  · rintro ⟨body, ies, dumped, rfl, rfl⟩
    rw [dumped]

/-- A header that writing leaves as it is stays the same however often the message is sent. -/
theorem dumpAgain_eq_ok_iff (settled : msg.header.Settled) (junks : Nat → Junk) {k : Nat}
    {octets : Octets} {left : Msg} : msg.dumpAgain junks k = .ok (octets, left) ↔
      ∃ body ies, catalogue.protocol.dumpAgain junks k msg.ies = .ok (body, ies) ∧
        octets = msg.header.octets ++ body ∧ left = ⟨msg.header, ies⟩ := by
  induction k generalizing octets left with
  | zero =>
      rw [Msg.dumpAgain, dump_eq_ok_iff, settled.dumped]
      rfl
  | succ k inductionHypothesis =>
      rw [Msg.dumpAgain, Protocol.dumpAgain]
      constructor
      · intro again
        cases before : msg.dumpAgain junks k with
        | error reason =>
            rw [before] at again
            cases again
        | ok result =>
            obtain ⟨body, ies, former, -, eq⟩ := inductionHypothesis.mp before
            rw [before] at again
            simp only [eq, dump_eq_ok_iff, settled.dumped] at again
            obtain ⟨body', ies', dumped, rfl, rfl⟩ := again
            exact ⟨body', ies', by rw [former]; exact dumped, rfl, rfl⟩
      · rintro ⟨body', ies', again, rfl, rfl⟩
        cases before : catalogue.protocol.dumpAgain junks k msg.ies with
        | error reason =>
            rw [before] at again
            cases again
        | ok result =>
            rw [before] at again
            rw [inductionHypothesis.mpr ⟨result.1, result.2, before, rfl, rfl⟩]
            exact dump_eq_ok_iff.mpr ⟨body', ies', again, rfl, by rw [settled.dumped]⟩

/-- Every transmission of a message that a constructor makes repeats the octets of the first
one, whatever is in memory, just when each value is written the same again. -/
theorem transmissions_repeat_iff (made : Msg.construct message junk container = .ok msg)
    (can : message.EveryValue Kind.Writable container)
    (teid : Option (BitVec 32)) (sequenceNumber : BitVec 32) :
    (∀ (junks : Nat → Junk) octets left,
        (msg.addressed teid sequenceNumber).dump (junks 0) = .ok (octets, left) →
          ∀ k, ∃ left, (msg.addressed teid sequenceNumber).dumpAgain junks k =
            .ok (octets, left)) ↔
      message.EveryValue Kind.Steady container := by
  obtain ⟨ies, built, eq⟩ := addressed_eq made teid sequenceNumber
  rw [eq, Message.EveryValue, ← repeats_iff_of_buildAll catalogue_writes built can]
  refine forall_congr' fun junks => ?_
  constructor
  · intro repeats body left dumped k
    obtain ⟨left', again⟩ := repeats _ _ (dump_eq_ok_iff.mpr ⟨body, left, dumped, rfl, rfl⟩) k
    obtain ⟨body', ies', again', same, -⟩ := (dumpAgain_eq_ok_iff completed_settled junks).mp again
    obtain rfl := List.append_cancel_left same
    exact ⟨ies', again'⟩
  · intro repeats octets left dumped k
    obtain ⟨body, left', first, rfl, rfl⟩ := dump_eq_ok_iff.mp dumped
    obtain ⟨ies', again⟩ := repeats body left' first k
    exact ⟨_, (dumpAgain_eq_ok_iff completed_settled junks).mpr ⟨body, ies', again, rfl, rfl⟩⟩

theorem transmissions_repeat_two_bearers : ∃ msg,
    Msg.construct .modifyBearerResponse (fun _ => 0) twoModified = .ok msg ∧
      ((∀ (junks : Nat → Junk) octets left,
          (msg.addressed (some 9) 7).dump (junks 0) = .ok (octets, left) →
            ∀ k, ∃ left, (msg.addressed (some 9) 7).dumpAgain junks k = .ok (octets, left)) ↔
        Message.modifyBearerResponse.EveryValue Kind.Steady twoModified) := by
  obtain ⟨msg, made⟩ : ∃ msg, Msg.construct .modifyBearerResponse (fun _ => 0) twoModified =
      .ok msg := ⟨_, rfl⟩
  refine ⟨msg, made, transmissions_repeat_iff made ?_ (some 9) 7⟩
  simp only [Message.EveryValue, EveryAll, Every, Message.rows, Message.modifyBearerResponseRows,
    twoModified, modifiedBearer, List.not_mem_nil, false_imp_iff, implies_true, true_and, and_true,
    List.mem_cons, or_false, Value.group.injEq, forall_eq_or_imp, forall_eq]
  refine ⟨?_, ?_, ⟨?_, ?_, ?_⟩, ?_, ?_, ?_⟩ <;> rintro _ _ ⟨⟩ <;> trivial

/-! ## Round trips -/

theorem load_of_read {octets : Octets} {header : MsgHeader}
    {ies : List (Element catalogue.Object)} {after : Stream}
    (read : envelope.load catalogue.protocol junk ⟨octets, false⟩ = .ok ((header, ies), after)) :
    Msg.load junk octets = .ok ⟨header, ies⟩ := by
  rw [Msg.load, read]

/-- No element is read where nothing is left. -/
theorem ends_nil : Envelope.Ends catalogue.protocol [] :=
  ⟨⟨0, 0, 0⟩, ⟨[], true⟩, rfl, .inl rfl⟩

/-- A container whose values are in the range of their encodings, in members that the message
both writes and reads, comes back from the octets that are sent for it, with the header. -/
theorem container_returns (present : Msg.missing message container = false)
    (carried : AllCarried reading Kind.Fair message.entries message.rows container)
    (complete : Complete reading message.entries none message.rows container)
    (teid : Option (BitVec 32)) (sequenceNumber : BitVec 32)
    (fits : emptyLength teid + message.octets container < 2 ^ 16) (junk : Junk) :
    ∃ msg, Msg.construct message junk container = .ok msg ∧
      ∀ junk, ∃ octets left, (msg.addressed teid sequenceNumber).dump junk = .ok (octets, left) ∧
        ∃ msg', (∀ junk, Msg.load junk octets = .ok msg') ∧
          msg'.header = (msg.addressed teid sequenceNumber).header ∧
          ∀ junk, msg'.toCoreType message junk = .ok container := by
  obtain ⟨ies, built, back⟩ := Envelope.load_of_carried envelope_lawful headerReads fairReturns
    ends_nil junk (tables_fit message) carried complete
  have weight : Element.weights ies = message.octets container :=
    weights_of_buildAll (fun junk kind => (kind_written kind).size junk) built
  obtain ⟨total, returns⟩ := back (by omega)
  have length : addedLength (emptyLength teid) ies = emptyLength teid + spans ies := by
    rw [addedLength_eq (emptyLength_lt teid), Nat.mod_eq_of_lt (by omega)]
  obtain ⟨msg, made⟩ : ∃ msg, Msg.construct message junk container = .ok msg := by
    rw [Msg.construct, present, built]
    exact ⟨_, rfl⟩
  refine ⟨msg, made, fun junk => ?_⟩
  obtain ⟨ies', built', eq⟩ := addressed_eq made teid sequenceNumber
  rw [built] at built'
  cases built'
  rw [eq]
  obtain ⟨body, left, dumped, elements, loaded, gives⟩ := returns
    (completed message (addedLength (emptyLength teid) ies) teid sequenceNumber)
    (fun junk => completed_settled.reads junk)
    (by
      show MsgHeader.size _ + _ = 4 + (MsgHeader.messageLength _).toNat
      rw [completed_size, completed_length (addedLength_lt teid ies), length, Nat.add_assoc])
    junk
  refine ⟨_, _, dump_eq_ok_iff.mpr ⟨body, left, dumped, rfl, rfl⟩, ⟨_, elements⟩, fun junk => ?_,
    rfl, fun junk => ?_⟩
  · obtain ⟨after, read⟩ := loaded junk
    exact load_of_read read
  · obtain ⟨result, read, same⟩ := gives junk
    rw [view_shown_id, view_shown_id] at same
    rw [← same]
    exact read

end Constructed

end OpenairSpgwc.Gtpv2c.Ie
