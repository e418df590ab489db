import OpenairSpgwc.Pgw.Connections
import OpenairSpgwc.Pgw.Registry

/-!
Contract: the Create Session Response against the Sx response it is made from.

Owns:
- `Truthful`: each requested bearer is listed once, accepted exactly when the user plane
  granted it an F-TEID, and the message is accepted only if the Sx response was;
- which answers are truthful, in every reachable state.

The uplink PDR of a bearer is the one that the Sx request of the same transaction asked
for on behalf of its EBI.
-/

namespace OpenairSpgwc.Pgw

open Foundation
open OpenairSpgwc.Common
open Std (ExtTreeMap)

/-! ### What the user plane grants -/

/-- The uplink PDRs that the Sx request of a transaction asked for on behalf of an EBI. -/
def uplinkPdrs (sent : List Service.Event) (trxnId ebi : Nat) : List Nat :=
  sent.flatMap fun
    | .session (.sessionEstablishmentRequest id _ _ rules) =>
        if id = trxnId then
          (rules.filter fun rule => rule.ebi == ebi).map UplinkRules.pdrId
        else
          []
    | _ => []

/-- The F-TEID that a created PDR carries, if it is not zero. -/
def CreatedPdr.fteid (created : CreatedPdr) : Option UserPlaneFteid :=
  (created.localFteid.filter fun fteid => !fteid.isZero).map fun fteid =>
    { fteid with interfaceType := s5s8PgwGtpU }

/-- The F-TEIDs that the created PDRs carry for some PDRs. -/
def carried (createdPdrs : List CreatedPdr) (pdrIds : List Nat) : List UserPlaneFteid :=
  (createdPdrs.filter fun created => created.pdrId.any (pdrIds.contains ·)).filterMap
    CreatedPdr.fteid

/-- The F-TEIDs that an Sx response grants to an EBI. -/
def SessionEstablishmentResponse.granted (response : SessionEstablishmentResponse)
    (sent : List Service.Event) (ebi : Nat) : List UserPlaneFteid :=
  if response.cause = some causeValueRequestAccepted then
    carried response.createdPdrs (uplinkPdrs sent response.trxnId ebi)
  else
    []

/-- The answer tells the truth about the bearers of the request. -/
structure Truthful (sent : List Service.Event) (bearers : List BearerContextToBeCreated)
    (response : SessionEstablishmentResponse) (answer : CreateSessionResponse) : Prop where
  listed : ∀ bearer ∈ bearers,
    (answer.bearerContextsCreated.map BearerContextCreated.ebi).count bearer.epsBearerId = 1
  accepted : ∀ bearer ∈ bearers, ∀ created ∈ answer.bearerContextsCreated,
    created.ebi = bearer.epsBearerId →
      (created.cause = .requestAccepted ↔ response.granted sent bearer.epsBearerId ≠ [])
  fteid : ∀ bearer ∈ bearers, ∀ created ∈ answer.bearerContextsCreated,
    created.ebi = bearer.epsBearerId → created.cause = .requestAccepted →
      ∃ granted ∈ response.granted sent bearer.epsBearerId, created.s5S8UPgwFteid = some granted
  cause : answer.cause = .requestAccepted → response.cause = some causeValueRequestAccepted

instance {sent : List Service.Event} {bearers : List BearerContextToBeCreated}
    {response : SessionEstablishmentResponse} {answer : CreateSessionResponse} :
    Decidable (Truthful sent bearers response answer) :=
  decidable_of_iff (_ ∧ _ ∧ _ ∧ _)
    ⟨fun ⟨listed, accepted, fteid, cause⟩ => ⟨listed, accepted, fteid, cause⟩,
      fun truthful => ⟨truthful.listed, truthful.accepted, truthful.fteid, truthful.cause⟩⟩

/-! ### When an answer is truthful -/

namespace PdnConnection

variable {pdn : PdnConnection} {createdPdrs : List CreatedPdr}

/-- The bearer that is stored under its own EBI. -/
def own (pdn : PdnConnection) (ebi : Nat) : Option EpsBearer :=
  (pdn.epsBearers[ebi]?).filter fun bearer => bearer.ebi == ebi && ebi != 0

/-- The F-TEID of a bearer once the created PDRs have been handled: the last one that
reports an F-TEID for the bearer counts, whichever of its PDRs it names. -/
def latest (pdn : PdnConnection) (createdPdrs : List CreatedPdr) (bearer : EpsBearer) :
    UserPlaneFteid :=
  (pdn.lastReported createdPdrs bearer.ebi).getD bearer.pgwFteidS5S8Up

/-- The F-TEID that counts for an EBI is one of those, or is none and there are none. -/
def Settles (pdn : PdnConnection) (createdPdrs : List CreatedPdr) (ebi : Nat)
    (fteids : List UserPlaneFteid) : Prop :=
  match pdn.own ebi with
  | some bearer =>
      if (pdn.latest createdPdrs bearer).isZero then fteids = []
      else pdn.latest createdPdrs bearer ∈ fteids
  | none => ebi = 0 ∧ fteids = []

instance {ebi : Nat} {fteids : List UserPlaneFteid} :
    Decidable (pdn.Settles createdPdrs ebi fteids) :=
  match found : pdn.own ebi with
  | some bearer =>
      decidable_of_iff (if (pdn.latest createdPdrs bearer).isZero then fteids = []
        else pdn.latest createdPdrs bearer ∈ fteids) (by simp only [Settles, found])
  | none => decidable_of_iff (ebi = 0 ∧ fteids = []) (by simp only [Settles, found])

end PdnConnection

/-- The Sx response is accepted, the EBIs of the request differ, and the F-TEID that
counts for each of them is one that its uplink PDR was created with. -/
structure TellsTruth (pdn : PdnConnection) (sent : List Service.Event)
    (bearers : List BearerContextToBeCreated) (response : SessionEstablishmentResponse) :
    Prop where
  accepted : response.cause = some causeValueRequestAccepted
  distinct : (bearers.map BearerContextToBeCreated.epsBearerId).Nodup
  settles : ∀ bearer ∈ bearers, pdn.Settles response.createdPdrs bearer.epsBearerId
    (carried response.createdPdrs (uplinkPdrs sent response.trxnId bearer.epsBearerId))

instance {pdn : PdnConnection} {sent : List Service.Event}
    {bearers : List BearerContextToBeCreated} {response : SessionEstablishmentResponse} :
    Decidable (TellsTruth pdn sent bearers response) :=
  decidable_of_iff (_ ∧ _ ∧ _)
    ⟨fun ⟨accepted, distinct, settles⟩ => ⟨accepted, distinct, settles⟩,
      fun tells => ⟨tells.accepted, tells.distinct, tells.settles⟩⟩

/-! ### The bearer contexts of the answer -/

namespace PdnConnection

variable {pdn : PdnConnection} {createdPdrs : List CreatedPdr} {ebi : Nat} {bearer : EpsBearer}

theorem own_eq_some_iff :
    pdn.own ebi = some bearer ↔
      pdn.epsBearers[ebi]? = some bearer ∧ bearer.ebi = ebi ∧ ebi ≠ 0 := by
  rw [own, Option.filter_eq_some_iff, Bool.and_eq_true, beq_iff_eq, bne_iff_ne]

theorem exists_of_bearerOfEbi (found : pdn.bearerOfEbi ebi = some bearer) :
    ∃ key : Nat, pdn.epsBearers[key]? = some bearer ∧ bearer.ebi = ebi := by
  obtain ⟨⟨key, stored⟩, hit, rfl⟩ := Option.map_eq_some_iff.mp found
  have member := List.mem_of_find?_eq_some hit
  rw [ExtTreeMap.mem_toList_iff_getElem?_eq_some] at member
  have same := List.find?_some hit
  exact ⟨key, member, beq_iff_eq.mp same⟩

/-- The search by EBI finds the bearer that is stored under it. -/
theorem Sound.bearerOfEbi_eq (sound : pdn.Sound) (assigned : ebi ≠ 0) :
    pdn.bearerOfEbi ebi = pdn.own ebi := by
  cases found : pdn.bearerOfEbi ebi with
  | none =>
      symm
      rw [Option.eq_none_iff_forall_ne_some]
      intro bearer stored
      obtain ⟨there, same, _⟩ := own_eq_some_iff.mp stored
      have missing := List.find?_eq_none.mp (Option.map_eq_none_iff.mp found) (ebi, bearer)
        (ExtTreeMap.mem_toList_iff_getElem?_eq_some.mpr there)
      exact missing (beq_iff_eq.mpr same)
  | some bearer =>
      symm
      obtain ⟨key, stored, rfl⟩ := exists_of_bearerOfEbi found
      rw [(sound.own_of_stored stored assigned).1, own_eq_some_iff]
      exact ⟨stored, (sound.own_of_stored stored assigned).1,
        (sound.own_of_stored stored assigned).1 ▸ assigned⟩

/-- The bearers after an Sx response. -/
theorem Sound.getElem?_established (sound : pdn.Sound) (response : SessionEstablishmentResponse)
    (key : Nat) :
    (State.established pdn response).epsBearers[key]? =
      (pdn.epsBearers[key]?).map (pdn.written response.createdPdrs) := by
  unfold State.established
  split
  · have noted : ({ pdn with upFseid := response.upFseid.getD pdn.upFseid } :
        PdnConnection).Sound := sound.congr rfl rfl rfl
    rw [foldl_createdPdr_of_homed noted.homed, getElem?_rewritten]
    rfl
  · rw [foldl_createdPdr_of_homed sound.homed, getElem?_rewritten]

theorem Sound.own_established (sound : pdn.Sound) (response : SessionEstablishmentResponse) :
    (State.established pdn response).own ebi =
      (pdn.own ebi).map fun bearer =>
        { bearer with pgwFteidS5S8Up := pdn.latest response.createdPdrs bearer } := by
  unfold own
  rw [sound.getElem?_established]
  cases stored : pdn.epsBearers[ebi]? with
  | none => rfl
  | some bearer =>
      rw [Option.map_some, Option.filter_some, Option.filter_some, written_ebi]
      by_cases here : (bearer.ebi == ebi && ebi != 0) = true
      · rw [if_pos here, if_pos here, Option.map_some]
        rw [Bool.and_eq_true, beq_iff_eq, bne_iff_ne] at here
        have ranged := (sound.own_of_stored stored (here.1 ▸ here.2)).2
        rw [written_of_ranged (by rw [here.1]; exact ranged)]
        rfl
      · rw [if_neg here, if_neg here]
        rfl

/-- What the answer lists for an EBI of the request. -/
def outcome (pdn : PdnConnection) (createdPdrs : List CreatedPdr) (ebi : Nat) :
    BearerContextCreated :=
  match pdn.own ebi with
  | some bearer =>
      if (pdn.latest createdPdrs bearer).isZero then { ebi := ebi, cause := .systemFailure }
      else
        { ebi := ebi, cause := .requestAccepted
          s5S8UPgwFteid := some (pdn.latest createdPdrs bearer) }
  | none => { ebi := 0, cause := .systemFailure }

theorem Sound.bearerContextCreated_eq (sound : pdn.Sound)
    (response : SessionEstablishmentResponse) (it : BearerContextToBeCreated) :
    State.bearerContextCreated (State.established pdn response) it =
      pdn.outcome response.createdPdrs it.epsBearerId := by
  have after := sound.relabels (sound.established response)
  unfold State.bearerContextCreated outcome
  by_cases zero : it.epsBearerId = 0
  · have none : pdn.own it.epsBearerId = none := by
      rw [zero, Option.eq_none_iff_forall_ne_some]
      exact fun bearer stored => (own_eq_some_iff.mp stored).2.2 rfl
    rw [none]
    cases found : (State.established pdn response).bearerOfEbi it.epsBearerId with
    | none => rfl
    | some bearer =>
        obtain ⟨key, stored, same⟩ := exists_of_bearerOfEbi found
        rw [zero] at same
        cases after.placed key bearer stored with
        | assigned own range _ _ => omega
        | unassigned own noPgw _ _ _ =>
            dsimp only
            rw [if_pos noPgw, same]
  · rw [after.bearerOfEbi_eq zero, sound.own_established]
    cases stored : pdn.own it.epsBearerId with
    | none => rfl
    | some bearer =>
        rw [Option.map_some]
        dsimp only
        rw [(own_eq_some_iff.mp stored).2.1]

end PdnConnection

/-! ### Lists of EBIs -/

/-- Labels that are the items themselves or nothing: each item is listed once exactly
when the items differ and each has its own label. -/
theorem count_map_eq_one_iff (items : List Nat) {label : Nat → Nat}
    (labels : ∀ item, label item = item ∨ label item = 0) :
    (∀ item ∈ items, (items.map label).count item = 1) ↔
      items.Nodup ∧ ∀ item ∈ items, label item = item := by
  constructor
  · intro once
    have own : ∀ item ∈ items, label item = item := by
      intro item member
      have listed : item ∈ items.map label := by
        rw [← List.count_pos_iff, once item member]
        exact Nat.one_pos
      obtain ⟨other, _, same⟩ := List.mem_map.mp listed
      cases labels other with
      | inl itself =>
          rw [itself] at same
          rw [← same]
          exact itself
      | inr zero =>
          rw [zero] at same
          rw [← same]
          cases labels 0 with
          | inl itself => exact itself
          | inr zero' => exact zero'
    rw [List.map_congr_left own, List.map_id'] at once
    exact ⟨List.nodup_iff_count_eq_one.mpr once, own⟩
  · rintro ⟨distinct, own⟩ item member
    rw [List.map_congr_left own, List.map_id']
    exact List.count_eq_one_of_mem distinct member

namespace PdnConnection

variable {pdn : PdnConnection} {createdPdrs : List CreatedPdr} {ebi : Nat}

theorem outcome_ebi (pdn : PdnConnection) (createdPdrs : List CreatedPdr) (ebi : Nat) :
    (pdn.outcome createdPdrs ebi).ebi = ebi ∨ (pdn.outcome createdPdrs ebi).ebi = 0 := by
  unfold outcome
  split
  · split
    · exact .inl rfl
    · exact .inl rfl
  · exact .inr rfl

theorem outcome_ebi_eq_self_iff :
    (pdn.outcome createdPdrs ebi).ebi = ebi ↔ (pdn.own ebi).isSome ∨ ebi = 0 := by
  unfold outcome
  cases pdn.own ebi with
  | none =>
      constructor
      · exact fun same => .inr same.symm
      · intro zero
        cases zero with
        | inl some => cases some
        | inr zero => exact zero.symm
  | some bearer =>
      dsimp only
      split
      · exact iff_of_true rfl (.inl rfl)
      · exact iff_of_true rfl (.inl rfl)

/-- What is listed under an EBI agrees with the F-TEIDs it was granted. -/
theorem settles_iff (listed : (pdn.outcome createdPdrs ebi).ebi = ebi)
    (fteids : List UserPlaneFteid) :
    pdn.Settles createdPdrs ebi fteids ↔
      ((pdn.outcome createdPdrs ebi).cause = .requestAccepted ↔ fteids ≠ []) ∧
        ((pdn.outcome createdPdrs ebi).cause = .requestAccepted →
          ∃ fteid ∈ fteids, (pdn.outcome createdPdrs ebi).s5S8UPgwFteid = some fteid) := by
  unfold Settles outcome at *
  cases own : pdn.own ebi with
  | none =>
      rw [own] at listed
      have zero : ebi = 0 := listed.symm
      simp [zero]
  | some bearer =>
      by_cases empty : (pdn.latest createdPdrs bearer).isZero = true
      · simp [empty]
      · simp only [empty]
        constructor
        · intro member
          exact ⟨iff_of_true rfl (List.ne_nil_of_mem member), fun _ => ⟨_, member, rfl⟩⟩
        · intro told
          obtain ⟨fteid, member, same⟩ := told.2 rfl
          rw [Option.some.inj same]
          exact member

end PdnConnection

/-! ### Truthful answers -/

theorem truthful_iff {pdn : PdnConnection} (sound : pdn.Sound) {sent : List Service.Event}
    {bearers : List BearerContextToBeCreated} {response : SessionEstablishmentResponse}
    {answer : CreateSessionResponse} (accepted : answer.cause = .requestAccepted)
    (created : answer.bearerContextsCreated =
      bearers.map (State.bearerContextCreated (State.established pdn response))) :
    Truthful sent bearers response answer ↔ TellsTruth pdn sent bearers response := by
  have contexts : answer.bearerContextsCreated =
      (bearers.map BearerContextToBeCreated.epsBearerId).map
        (pdn.outcome response.createdPdrs) := by
    rw [created, List.map_map]
    exact List.map_congr_left fun bearer _ => sound.bearerContextCreated_eq response bearer
  have listed := count_map_eq_one_iff (bearers.map BearerContextToBeCreated.epsBearerId)
    (pdn.outcome_ebi response.createdPdrs)
  rw [List.forall_mem_map] at listed
  constructor
  · intro truthful
    have asked := truthful.cause accepted
    have once := truthful.listed
    rw [contexts, List.map_map] at once
    obtain ⟨distinct, own⟩ := listed.mp once
    refine ⟨asked, distinct, fun bearer member => ?_⟩
    have itself := own _ (List.mem_map_of_mem member)
    have inside : pdn.outcome response.createdPdrs bearer.epsBearerId ∈
        answer.bearerContextsCreated := by
      rw [contexts]
      exact List.mem_map_of_mem (List.mem_map_of_mem member)
    have told := truthful.accepted bearer member _ inside itself
    have brought := truthful.fteid bearer member _ inside itself
    rw [SessionEstablishmentResponse.granted, if_pos asked] at told brought
    exact (PdnConnection.settles_iff itself _).mpr ⟨told, brought⟩
  · intro tells
    have own : ∀ ebi ∈ bearers.map BearerContextToBeCreated.epsBearerId,
        (pdn.outcome response.createdPdrs ebi).ebi = ebi := by
      rw [List.forall_mem_map]
      intro bearer member
      have settles := tells.settles bearer member
      rw [PdnConnection.outcome_ebi_eq_self_iff]
      unfold PdnConnection.Settles at settles
      cases stored : pdn.own bearer.epsBearerId with
      | none =>
          rw [stored] at settles
          exact .inr settles.1
      | some found => exact .inl rfl
    have only (bearer : BearerContextToBeCreated) (member : bearer ∈ bearers)
        (context : BearerContextCreated) (inside : context ∈ answer.bearerContextsCreated)
        (same : context.ebi = bearer.epsBearerId) :
        context = pdn.outcome response.createdPdrs bearer.epsBearerId ∧
          context.ebi = bearer.epsBearerId := by
      rw [contexts] at inside
      obtain ⟨ebi, asked, rfl⟩ := List.mem_map.mp inside
      rw [own ebi asked] at same
      rw [same]
      exact ⟨rfl, own _ (List.mem_map_of_mem member)⟩
    have told (bearer : BearerContextToBeCreated) (member : bearer ∈ bearers) :=
      (PdnConnection.settles_iff (own _ (List.mem_map_of_mem member)) _).mp
        (tells.settles bearer member)
    refine ⟨?_, ?_, ?_, fun _ => tells.accepted⟩
    · rw [contexts, List.map_map]
      exact listed.mpr ⟨tells.distinct, own⟩
    · intro bearer member context inside same
      rw [SessionEstablishmentResponse.granted, if_pos tells.accepted,
        (only bearer member context inside same).1]
      exact (told bearer member).1
    · intro bearer member context inside same success
      rw [SessionEstablishmentResponse.granted, if_pos tells.accepted,
        (only bearer member context inside same).1]
      rw [(only bearer member context inside same).1] at success
      exact (told bearer member).2 success

namespace Gateway

variable {config : Config} {g : Gateway} {pc : Nat} {proc : Procedure}
  {bearers : List BearerContextToBeCreated} {pending : CreateSessionResponse}

/-- The message that a pending establishment answers with. -/
theorem step_sessionEstablishmentResponse (config : Config)
    (response : SessionEstablishmentResponse)
    (routed : g.app.seid2pgwContext[response.seid]? = some pc)
    (found : g.app.findProcedure pc response.trxnId = some proc)
    (kind : proc.kind = .sessionEstablishment bearers pending) :
    ∃ next, Service.step config g (.session (.sessionEstablishmentResponse response)) =
      some (next, [.session (.createSessionResponse { pending with
        bearerContextsCreated := pending.bearerContextsCreated ++ bearers.map
          (State.bearerContextCreated
            (State.established (g.app.pdnConnections proc.ppc) response)) })]) := by
  simp only [Service.step, handleSession, Pgw.step, State.handleSessionEstablishmentResponse,
    routed, found, kind, Option.map_some]
  exact ⟨_, rfl⟩

/-- The answer to a Create Session Request, in every reachable state and for every Sx
response to its establishment. -/
theorem creation_truthful_iff
    {records : List (StepRecord Gateway Service.Action Service.Event)}
    (run : Run (Service.step config) (init config.pdns) records g)
    (response : SessionEstablishmentResponse)
    (routed : g.app.seid2pgwContext[response.seid]? = some pc)
    (found : g.app.findProcedure pc response.trxnId = some proc)
    (kind : proc.kind = .sessionEstablishment bearers pending) :
    ∃ next answer, Service.step config g (.session (.sessionEstablishmentResponse response)) =
        some (next, [.session (.createSessionResponse answer)]) ∧
      (Truthful (trace records) bearers response answer ↔
        TellsTruth (g.app.pdnConnections proc.ppc) (trace records) bearers response) := by
  have orderly := orderly_of_run run
  have unanswered := orderly.unanswered pc proc (List.mem_of_find?_eq_some found)
  rw [kind] at unanswered
  obtain ⟨next, answered⟩ := step_sessionEstablishmentResponse config response routed found kind
  refine ⟨next, _, answered, truthful_iff (orderly.sound proc.ppc) unanswered.1 ?_⟩
  rw [unanswered.2, List.nil_append]

/-- The bearers that an establishment was requested for. -/
def requestedBearers (g : Gateway) (pc trxnId : Nat) :
    Option (Nat × List BearerContextToBeCreated) :=
  (g.app.findProcedure pc trxnId).bind fun proc =>
    match proc.kind with
    | .sessionEstablishment bearers _ => some (proc.ppc, bearers)
    | .deleteSession _ _ _ => none

theorem exists_of_requestedBearers {trxnId sp : Nat}
    (requested : g.requestedBearers pc trxnId = some (sp, bearers)) :
    ∃ proc pending, g.app.findProcedure pc trxnId = some proc ∧ proc.ppc = sp ∧
      proc.kind = .sessionEstablishment bearers pending := by
  obtain ⟨proc, found, asked⟩ := Option.bind_eq_some_iff.mp requested
  split at asked
  · next same =>
      cases asked
      exact ⟨proc, _, found, rfl, same⟩
  · cases asked

/-- An establishment that the user plane accepts. -/
def grantedResponse : SessionEstablishmentResponse where
  seid := 1
  trxnId := 1
  cause := some causeValueRequestAccepted
  createdPdrs := [⟨some 1, some { v4 := true, teidGreKey := 9 }⟩]

theorem creation_truthful_granted :
    ∃ records g next answer,
      Run (Service.step twoAddresses) (init twoAddresses.pdns) records g ∧
      Service.step twoAddresses g (.session (.sessionEstablishmentResponse grantedResponse)) =
        some (next, [.session (.createSessionResponse answer)]) ∧
      Truthful (trace records) [⟨5⟩] grantedResponse answer := by
  obtain ⟨records, g, run, routed, requested, tells⟩ := Run.exists_of_passes
    (Service.step twoAddresses) (init twoAddresses.pdns)
    [.session (.createSession (oneBearer 1 0 none) .sent 0)]
    (fun records g => g.app.seid2pgwContext[1]? = some 0 ∧
      g.requestedBearers 0 1 = some (2, [⟨5⟩]) ∧
      TellsTruth (g.app.pdnConnections 2) (trace records) [⟨5⟩] grantedResponse) (by decide)
  obtain ⟨proc, pending, found, connection, kind⟩ := exists_of_requestedBearers requested
  obtain ⟨next, answer, taken, truthful⟩ :=
    creation_truthful_iff run grantedResponse routed found kind
  rw [connection] at truthful
  exact ⟨records, g, next, answer, run, taken, truthful.mpr tells⟩

/-- An establishment that it rejects. -/
def refusedResponse : SessionEstablishmentResponse where
  seid := 1
  trxnId := 1
  cause := some 64

/-- The session is reported as created that the user plane has rejected. -/
theorem refused_creation_not_truthful :
    ∃ records g next answer,
      Run (Service.step twoAddresses) (init twoAddresses.pdns) records g ∧
      Service.step twoAddresses g (.session (.sessionEstablishmentResponse refusedResponse)) =
        some (next, [.session (.createSessionResponse answer)]) ∧
      answer.cause = .requestAccepted ∧
      ¬Truthful (trace records) [⟨5⟩] refusedResponse answer := by
  obtain ⟨records, g, run, routed, requested⟩ := Run.exists_of_passes
    (Service.step twoAddresses) (init twoAddresses.pdns)
    [.session (.createSession (oneBearer 1 0 none) .sent 0)]
    (fun _ g => g.app.seid2pgwContext[1]? = some 0 ∧
      g.requestedBearers 0 1 = some (2, [⟨5⟩])) (by decide)
  obtain ⟨proc, pending, found, _, kind⟩ := exists_of_requestedBearers requested
  have unanswered := (orderly_of_run run).unanswered 0 proc (List.mem_of_find?_eq_some found)
  rw [kind] at unanswered
  obtain ⟨next, taken⟩ :=
    step_sessionEstablishmentResponse twoAddresses refusedResponse routed found kind
  refine ⟨records, g, next, _, run, taken, unanswered.1, fun truthful => ?_⟩
  cases truthful.cause unanswered.1

end Gateway

end OpenairSpgwc.Pgw
