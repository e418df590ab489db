import OpenairSpgwc.Sgw.Correlation

/-!
Contract: every request from the MME gets one response.

Owns:
- `AnsweredOnce`, the property: a procedure goes on as long as an outcome is to
  come, and when it is gone one response with its transaction was sent;
- `Answerable`, the steps in which a request is served and no procedure ends
  without its response;
- that the property holds as long as all steps are answerable.
-/

namespace OpenairSpgwc.Sgw

open Foundation
open Std (ExtTreeMap)

/-- The transaction of a request from the MME. -/
def Action.requestId : Action → Option Nat
  | .createSession request => some request.gtpcTxId
  | .modifyBearer request _ => some request.gtpcTxId
  | .releaseAccessBearers request => some request.gtpcTxId
  | .deleteSession request => some request.gtpcTxId
  | _ => none

/-- The procedure was created for a request from the MME. -/
def Procedure.ofRequest (proc : Procedure) : Bool :=
  match proc.kind with
  | .downlinkDataNotification _ _ => false
  | _ => true

namespace State

variable {s t : State} {ebc sp : Nat} {proc : Procedure} {q : Outstanding} {action : Action}
  {asked left opened : List Outstanding} {events : List Event} {ids answered : List Nat}

/-- Of the requests with the transactions `ids`, those in `answered` got one
response each, and no procedure of them is pending. -/
structure AnsweredOnce (ids answered : List Nat) (s : State) (asked : List Outstanding) : Prop where
  /-- A procedure is pending only as long as the outcome of a request it sent is
  to come. -/
  ends : ∀ ebc, ∀ proc ∈ s.pending ebc, proc.ofRequest = true → proc.gtpcTxId ∈ ids →
    ∃ q ∈ asked, q.sender = proc.address
  /-- When no procedure is pending any more, one response was sent. -/
  once : ∀ id ∈ ids, (∀ ebc, ∀ proc ∈ s.pending ebc, proc.ofRequest = true →
    proc.gtpcTxId ≠ id) → answered.count id = 1

/-! ### Steps that answer -/

/-- The request is served, and an outcome that ends a procedure has it answer. -/
def Answerable (s : State) (asked : List Outstanding) (action : Action) : Prop :=
  Orderly s asked action ∧
    match action with
    | .createSession request =>
        s.route request = .unknownTeid ∨
          ∃ base ebc, s.handed request = some (base, ebc) ∧ ¬Refuses base ebc request
    | .modifyBearer request _ =>
        (∃ ebc, s.servedIn request.teid request.gtpcTxId = some ebc) ∧
          ¬(request.bearerContextsToBeModified = [] ∧ request.bearerContextsToBeRemoved = [])
    | .releaseAccessBearers request =>
        ∃ ebc, s.servedIn request.teid request.gtpcTxId = some ebc ∧ s.toRelease ebc = []
    | .deleteSession request =>
        ∃ ebc sp, s.servedIn request.teid request.gtpcTxId = some ebc ∧ request.oi = true ∧
          s.toDelete ebc request = [sp]
    | .remotePeerNotResponding resp =>
        (∀ q ∈ asked, s.reports (.remotePeerNotResponding resp) q = true → resp.lTeid ≠ 0) ∧
          ∀ ebc sp proc, s.reached (.remotePeerNotResponding resp) = some (ebc, sp, proc) →
            ∃ msg, proc.kind = .createSession msg
    | .createSessionResponse csresp =>
        ∀ q ∈ asked, s.reports (.createSessionResponse csresp) q = true →
          ignoresResponse csresp = false
    | .modifyBearerResponse s5resp =>
        s5resp.cause = none → ∀ ebc sp proc request pdnBearers modified marked,
          s.reached (.modifyBearerResponse s5resp) = some (ebc, sp, proc) →
          proc.kind = .modifyBearer request pdnBearers modified marked → pdnBearers.length ≤ 1
    | _ => True

/-! ### The invariant -/

/-- The outcomes that a procedure waits for are all to come. -/
def Awaits (s : State) (asked : List Outstanding) (ebc : Nat) (proc : Procedure) : Prop :=
  match proc.kind with
  | .downlinkDataNotification _ _ => True
  | .releaseAccessBearers _ _ _ => False
  | .modifyBearer _ pdnBearers _ _ =>
      pdnBearers ≠ [] ∧
        (pdnBearers.Pairwise fun first second => first.gtpcTxId ≠ second.gtpcTxId) ∧
        ∀ px ∈ pdnBearers, ∃ q ∈ asked, proc.WaitsFor q ∧ q.gtpcTxId = px.gtpcTxId ∧
          HeldBy s ebc q.sp
  | .createSession _ => ∃ q ∈ asked, proc.WaitsFor q ∧ HeldBy s ebc q.sp
  | .deleteSession _ _ => ∃ q ∈ asked, proc.WaitsFor q ∧ HeldBy s ebc q.sp

theorem Awaits.mono (awaits : Awaits s asked ebc proc)
    (still : ∀ q ∈ asked, proc.WaitsFor q → HeldBy s ebc q.sp → q ∈ left ∧ HeldBy t ebc q.sp) :
    Awaits t left ebc proc := by
  unfold Awaits at awaits ⊢
  cases kind : proc.kind with
  | downlinkDataNotification msg sp => trivial
  | releaseAccessBearers request bearers cause =>
      rw [kind] at awaits
      exact awaits
  | modifyBearer request pdnBearers modified marked =>
      rw [kind] at awaits
      obtain ⟨some, distinct, each⟩ := awaits
      refine ⟨some, distinct, fun px member => ?_⟩
      obtain ⟨q, there, waits, same, held⟩ := each px member
      obtain ⟨kept, stays⟩ := still q there waits held
      exact ⟨q, kept, waits, same, stays⟩
  | createSession msg =>
      rw [kind] at awaits
      obtain ⟨q, there, waits, held⟩ := awaits
      obtain ⟨kept, stays⟩ := still q there waits held
      exact ⟨q, kept, waits, stays⟩
  | deleteSession msg sp =>
      rw [kind] at awaits
      obtain ⟨q, there, waits, held⟩ := awaits
      obtain ⟨kept, stays⟩ := still q there waits held
      exact ⟨q, kept, waits, stays⟩

theorem Awaits.exists (awaits : Awaits s asked ebc proc) (request : proc.ofRequest = true) :
    ∃ q ∈ asked, proc.WaitsFor q ∧ HeldBy s ebc q.sp := by
  unfold Awaits at awaits
  unfold Procedure.ofRequest at request
  cases kind : proc.kind with
  | downlinkDataNotification msg sp =>
      rw [kind] at request
      cases request
  | releaseAccessBearers request bearers cause =>
      rw [kind] at awaits
      exact awaits.elim
  | modifyBearer request pdnBearers modified marked =>
      rw [kind] at awaits
      obtain ⟨some, -, each⟩ := awaits
      obtain ⟨px, member⟩ := List.exists_mem_of_ne_nil _ some
      obtain ⟨q, there, waits, -, held⟩ := each px member
      exact ⟨q, there, waits, held⟩
  | createSession msg =>
      rw [kind] at awaits
      exact awaits
  | deleteSession msg sp =>
      rw [kind] at awaits
      exact awaits

/-- What holds after answerable steps. -/
structure Answering (ids answered : List Nat) (s : State) (asked : List Outstanding) : Prop where
  awaits : ∀ ebc, ∀ proc ∈ s.pending ebc, Awaits s asked ebc proc
  unanswered : ∀ ebc, ∀ proc ∈ s.pending ebc, proc.ofRequest = true →
    proc.gtpcTxId ∈ ids ∧ proc.gtpcTxId ∉ answered
  alone : ∀ ebc other, ∀ proc ∈ s.pending ebc, ∀ second ∈ s.pending other,
    proc.ofRequest = true → second.ofRequest = true → proc.gtpcTxId = second.gtpcTxId → ebc = other
  known : ∀ id ∈ answered, id ∈ ids
  once : answered.Nodup
  done : ∀ id ∈ ids, id ∈ answered ∨
    ∃ ebc, ∃ proc ∈ s.pending ebc, proc.ofRequest = true ∧ proc.gtpcTxId = id

theorem answering_init : Answering [] [] init [] where
  awaits ebc proc member := by cases member
  unanswered ebc proc member := by cases member
  alone ebc other proc member := by cases member
  known id member := by cases member
  once := .nil
  done id member := by cases member

theorem Answering.answeredOnce (answering : Answering ids answered s asked) :
    AnsweredOnce ids answered s asked where
  ends ebc proc member request _ := by
    obtain ⟨q, there, waits, -⟩ := (answering.awaits ebc proc member).exists request
    exact ⟨q, there, waits.1.symm⟩
  once id member gone := by
    apply List.count_eq_one_of_mem answering.once
    rcases answering.done id member with here | ⟨ebc, proc, pending, request, same⟩
    · exact here
    · exact absurd same (gone ebc proc pending request)

/-! ### Requests -/

/-- A new request is answered at once. -/
theorem Answering.atOnce {id : Nat} (answering : Answering ids answered s asked)
    (new : id ∉ ids) : Answering (ids ++ [id]) (answered ++ [id]) s asked where
  awaits := answering.awaits
  unanswered ebc proc member request := by
    obtain ⟨known, unanswered⟩ := answering.unanswered ebc proc member request
    refine ⟨List.mem_append_left _ known, fun there => ?_⟩
    rcases List.mem_append.mp there with old | here
    · exact unanswered old
    · rw [List.mem_singleton.mp here] at known
      exact new known
  alone := answering.alone
  known other member := by
    rcases List.mem_append.mp member with old | here
    · exact List.mem_append_left _ (answering.known other old)
    · exact List.mem_append_right _ here
  once := by
    rw [List.nodup_append]
    refine ⟨answering.once, List.nodup_singleton id, fun old member other here same => ?_⟩
    rw [List.mem_singleton.mp here] at same
    rw [same] at member
    exact new (answering.known id member)
  done other member := by
    rcases List.mem_append.mp member with old | here
    · exact (answering.done other old).imp_left (List.mem_append_left _)
    · exact .inl (List.mem_append_right _ here)

/-- A new procedure waits for the outcomes of its requests. -/
theorem Answering.starts {before : List Procedure} (answering : Answering ids answered s asked)
    (starts : Starts s t events ebc before proc opened)
    (awaits : Awaits t (asked ++ opened) ebc proc)
    (new : proc.ofRequest = true → proc.gtpcTxId ∉ ids) :
    Answering (ids ++ if proc.ofRequest then [proc.gtpcTxId] else []) answered t
      (asked ++ opened) := by
  -- The procedures that were pending before still are.
  have kept : ∀ other, ∀ old ∈ s.pending other, old.ofRequest = true → old ∈ t.pending other := by
    intro other old member request
    rcases eq_or_ne other ebc with here | elsewhere
    · rw [here] at member ⊢
      rw [starts.own]
      rcases starts.before with same | ⟨-, unheld⟩
      · rw [same]
        exact List.mem_append_left _ member
      · obtain ⟨q, -, -, held⟩ := (answering.awaits ebc old member).exists request
        exact absurd held (unheld q.sp)
    · rw [starts.others other elsewhere]
      exact member
  have pending : ∀ other, ∀ old ∈ t.pending other,
      old ∈ s.pending other ∨ other = ebc ∧ old = proc := by
    intro other old member
    rcases eq_or_ne other ebc with here | elsewhere
    · rw [here, starts.own] at member
      rcases List.mem_append.mp member with earlier | last
      · rcases starts.before with same | ⟨empty, -⟩
        · rw [same] at earlier
          rw [here]
          exact .inl earlier
        · rw [empty] at earlier
          cases earlier
      · exact .inr ⟨here, List.mem_singleton.mp last⟩
    · rw [starts.others other elsewhere] at member
      exact .inl member
  have there : proc ∈ t.pending ebc := by
    rw [starts.own]
    exact List.mem_append_right _ (List.mem_singleton_self proc)
  refine ⟨fun other old member => ?_, fun other old member request => ?_, ?_, fun id member => ?_,
    answering.once, fun id member => ?_⟩
  · rcases pending other old member with earlier | ⟨here, same⟩
    · refine (answering.awaits other old earlier).mono fun q asked waits held => ?_
      exact ⟨List.mem_append_left _ asked, (starts.keeps other q.sp held not_false).1⟩
    · rw [here, same]
      exact awaits
  · rcases pending other old member with earlier | ⟨-, same⟩
    · obtain ⟨known, unanswered⟩ := answering.unanswered other old earlier request
      exact ⟨List.mem_append_left _ known, unanswered⟩
    · rw [same] at request ⊢
      rw [if_pos request]
      exact ⟨List.mem_append_right _ (List.mem_singleton_self _),
        fun answered => new request (answering.known _ answered)⟩
  · intro first second one oneMember two twoMember oneRequest twoRequest same
    rcases pending first one oneMember with oneOld | ⟨oneHere, oneNew⟩
    · rcases pending second two twoMember with twoOld | ⟨-, twoNew⟩
      · exact answering.alone first second one oneOld two twoOld oneRequest twoRequest same
      · rw [twoNew] at same twoRequest
        rw [← same] at new
        exact absurd (answering.unanswered first one oneOld oneRequest).1 (new twoRequest)
    · rcases pending second two twoMember with twoOld | ⟨twoHere, -⟩
      · rw [oneNew] at same oneRequest
        rw [same] at new
        exact absurd (answering.unanswered second two twoOld twoRequest).1 (new oneRequest)
      · rw [oneHere, twoHere]
  · exact List.mem_append_left _ (answering.known id member)
  · rcases List.mem_append.mp member with old | here
    · rcases answering.done id old with answered | ⟨other, old, pending, request, same⟩
      · exact .inl answered
      · exact .inr ⟨other, old, kept other old pending request, request, same⟩
    · split at here
      · next request =>
          exact .inr ⟨ebc, proc, there, request, (List.mem_singleton.mp here).symm⟩
      · cases here

/-! ### Outcomes -/

/-- What the procedures are after one has met its fate. -/
theorem of_mem_after {fate : Fate} {address : Nat} {pending : List Procedure} {new : Procedure}
    (separate : Separate pending) (member : new ∈ fate.after address pending) :
    new ∈ pending ∧ new.address ≠ address ∨ fate = .stays ∨
      ∃ kind, fate = .becomes kind ∧ ∃ old ∈ pending, old.address = address ∧
        new = { old with kind := kind } := by
  cases fate with
  | stays => exact .inr (.inl rfl)
  | ends =>
      refine .inl ⟨List.mem_of_mem_eraseP member, ?_⟩
      have unanswered := unanswered_of_mem_eraseP (List.Pairwise.imp ?_ separate) member
      · rw [beq_eq_false_iff_ne] at unanswered
        exact unanswered
      · intro first second apart both
        rw [beq_iff_eq, beq_iff_eq] at both
        exact apart.1 (both.1.trans both.2.symm)
  | becomes kind =>
      obtain ⟨old, there, same⟩ := List.mem_map.mp member
      split at same
      · next here => exact .inr (.inr ⟨kind, rfl, old, there, here, same.symm⟩)
      · next elsewhere =>
          rw [← same]
          exact .inl ⟨there, elsewhere⟩

/-- An outcome has the procedure answer and end, or it is one of several that a
Modify Bearer procedure waits for. -/
theorem fed_cases {fate : Fate} {answers : Bool} (outcome : isOutcome action = true)
    (answerable : Answerable s asked action) (reached : s.reached action = some (ebc, sp, proc))
    (awaits : Awaits s asked ebc proc) (waits : proc.WaitsFor q)
    (reports : s.reports action q = true) (feeds : fed action proc = some (fate, answers)) :
    fate = .ends ∧ answers = true ∨
      ∃ request pdnBearers modified marked modified' marked',
        proc.kind = .modifyBearer request pdnBearers modified marked ∧
        (pdnBearers.eraseP fun px => px.gtpcTxId == q.gtpcTxId) ≠ [] ∧
        fate = .becomes (.modifyBearer request
          (pdnBearers.eraseP fun px => px.gtpcTxId == q.gtpcTxId) modified' marked') ∧
        answers = false := by
  obtain ⟨-, answerable⟩ := answerable
  obtain ⟨-, waits⟩ := waits
  cases action with
  | createSessionResponse csresp =>
      simp only [State.reports, Bool.and_eq_true, beq_iff_eq] at reports
      rw [reports.1.1] at waits
      obtain ⟨-, msg, isCreate⟩ := waits
      simp only [fed, isCreate, Option.some.injEq, Prod.mk.injEq] at feeds
      exact .inl ⟨feeds.1.symm, feeds.2.symm⟩
  | deleteSessionResponse dsresp =>
      simp only [State.reports, Bool.and_eq_true, beq_iff_eq] at reports
      rw [reports.1.1] at waits
      obtain ⟨-, msg, isDelete⟩ := waits
      simp only [fed, isDelete, Option.some.injEq, Prod.mk.injEq] at feeds
      exact .inl ⟨feeds.1.symm, feeds.2.symm⟩
  | remotePeerNotResponding resp =>
      obtain ⟨msg, isCreate⟩ := answerable.2 ebc sp proc reached
      simp only [fed, isCreate, Option.some.injEq, Prod.mk.injEq] at feeds
      exact .inl ⟨feeds.1.symm, feeds.2.symm⟩
  | releaseAccessBearersResponse s5resp =>
      simp only [State.reports, Bool.and_eq_true, beq_iff_eq] at reports
      rw [reports.1.1] at waits
      obtain ⟨-, request, cause, isRelease⟩ := waits
      simp only [Awaits, isRelease] at awaits
  | modifyBearerResponse s5resp =>
      simp only [State.reports, Bool.and_eq_true, beq_iff_eq] at reports
      rw [reports.1.1] at waits
      obtain ⟨request, pdnBearers, modified, marked, px, isModify, found, -⟩ := waits
      simp only [fed, isModify, Option.some.injEq] at feeds
      unfold fedModify at feeds
      rw [reports.1.2, found] at feeds
      simp only at feeds
      split at feeds
      · cases feeds
        exact .inl ⟨rfl, rfl⟩
      · next first more erased =>
          have caused : s5resp.cause ≠ none := by
            intro causeless
            have short := answerable causeless ebc sp proc request pdnBearers modified marked
              reached isModify
            have shorter := List.length_eraseP_of_mem (List.mem_of_find?_eq_some found)
              (List.find?_some found)
            rw [erased, List.length_cons] at shorter
            omega
          rw [if_neg caused] at feeds
          cases feeds
          refine .inr ⟨request, pdnBearers, modified, marked, withModified px modified s5resp,
            withMarked px marked s5resp, isModify, ?_, ?_, rfl⟩
          · rw [erased]
            exact List.cons_ne_nil _ _
          · rw [erased]
  | createSession request => cases outcome
  | modifyBearer request uids => cases outcome
  | releaseAccessBearers request => cases outcome
  | deleteSession request => cases outcome
  | downlinkDataNotificationAcknowledge ack => cases outcome
  | downlinkDataNotification ddn => cases outcome

theorem Procedure.WaitsFor.ofRequest (waits : proc.WaitsFor q) : proc.ofRequest = true := by
  obtain ⟨-, waits⟩ := waits
  unfold Procedure.ofRequest
  cases kind : q.kind with
  | createSession =>
      rw [kind] at waits
      obtain ⟨-, msg, isCreate⟩ := waits
      rw [isCreate]
  | deleteSession =>
      rw [kind] at waits
      obtain ⟨-, msg, isDelete⟩ := waits
      rw [isDelete]
  | modifyBearer =>
      rw [kind] at waits
      obtain ⟨request, pdnBearers, modified, marked, px, isModify, -⟩ := waits
      rw [isModify]
  | releaseAccessBearers =>
      rw [kind] at waits
      obtain ⟨-, request, cause, isRelease⟩ := waits
      rw [isRelease]

/-- An outcome that is not discarded reaches a procedure, so nothing is struck out
without one. -/
theorem eraseP_of_unreached (waiting : Waiting s asked) (agree : Agree s)
    (answerable : Answerable s asked action) (unreached : s.reached action = none) :
    asked.eraseP (s.reports action) = asked := by
  rw [List.eraseP_of_forall_not]
  intro q member reports
  have kept : discarded action = false := by
    obtain ⟨-, answerable⟩ := answerable
    cases action with
    | createSessionResponse csresp => exact answerable q member reports
    | remotePeerNotResponding resp =>
        exact beq_eq_false_iff_ne.mpr (answerable.1 q member reports)
    | _ => rfl
  obtain ⟨ebc, proc, reached, -⟩ := waiting.reached agree member reports kept
  rw [unreached] at reached
  cases reached

/-- A Modify Bearer procedure waits for the outcomes that are left. -/
theorem Awaits.fed {request : ModifyBearerRequest} {pdnBearers : List PdnBearersToBeXied}
    {modified modified' : List BearerContextModified}
    {marked marked' : List BearerContextMarkedForRemoval} {id : Nat}
    (awaits : Awaits s asked ebc proc)
    (isModify : proc.kind = .modifyBearer request pdnBearers modified marked)
    (some : (pdnBearers.eraseP fun px => px.gtpcTxId == id) ≠ [])
    (still : ∀ q ∈ asked, proc.WaitsFor q → q.gtpcTxId ≠ id → HeldBy s ebc q.sp →
      q ∈ left ∧ HeldBy t ebc q.sp) :
    Awaits t left ebc { proc with
      kind := (.modifyBearer request (pdnBearers.eraseP fun px => px.gtpcTxId == id) modified'
        marked') } := by
  unfold Awaits at awaits ⊢
  rw [isModify] at awaits
  obtain ⟨-, distinct, each⟩ := awaits
  refine ⟨some, distinct.sublist List.eraseP_sublist, fun px member => ?_⟩
  have different : px.gtpcTxId ≠ id := by
    have unanswered := unanswered_of_mem_eraseP (List.Pairwise.imp ?_ distinct) member
    · rw [beq_eq_false_iff_ne] at unanswered
      exact unanswered
    · intro first second apart both
      rw [beq_iff_eq, beq_iff_eq] at both
      exact apart (both.1.trans both.2.symm)
  obtain ⟨q, there, waits, same, held⟩ := each px (List.mem_of_mem_eraseP member)
  rw [← same] at different
  obtain ⟨kept, stays⟩ := still q there waits different held
  refine ⟨q, kept, ⟨waits.1, ?_⟩, same, stays⟩
  obtain ⟨-, waits⟩ := waits
  cases kind : q.kind with
  | createSession =>
      rw [kind] at waits
      obtain ⟨-, msg, isCreate⟩ := waits
      rw [isModify] at isCreate
      cases isCreate
  | deleteSession =>
      rw [kind] at waits
      obtain ⟨-, msg, isDelete⟩ := waits
      rw [isModify] at isDelete
      cases isDelete
  | releaseAccessBearers =>
      rw [kind] at waits
      obtain ⟨-, request, cause, isRelease⟩ := waits
      rw [isModify] at isRelease
      cases isRelease
  | modifyBearer =>
      rw [kind] at waits
      obtain ⟨request', bearers, _, _, px', same', found, connection⟩ := waits
      rw [isModify] at same'
      cases same'
      refine ⟨request, _, modified', marked', px', rfl, ?_, connection⟩
      rw [find?_eraseP_of_ne different]
      exact found

theorem routed_of_reached (reached : s.reached action = some (ebc, sp, proc)) :
    ∃ teid : Nat, s.s5s8lteid2sgwContexts[teid]? = some (ebc, sp) := by
  cases action with
  | createSessionResponse csresp =>
      simp only [State.reached] at reached
      split at reached
      · cases reached
      · exact ⟨_, (of_lookup reached).1⟩
  | remotePeerNotResponding resp =>
      simp only [State.reached] at reached
      split at reached
      · cases reached
      · exact ⟨_, (of_lookup reached).1⟩
  | deleteSessionResponse dsresp => exact ⟨_, (of_lookup reached).1⟩
  | modifyBearerResponse s5resp => exact ⟨_, (of_lookup reached).1⟩
  | releaseAccessBearersResponse s5resp => exact ⟨_, (of_lookup reached).1⟩
  | createSession request => cases reached
  | modifyBearer request uids => cases reached
  | releaseAccessBearers request => cases reached
  | deleteSession request => cases reached
  | downlinkDataNotificationAcknowledge ack => cases reached
  | downlinkDataNotification ddn => cases reached

/-- The outcome of `q` reaches the procedure `proc` of the context `ebc`; all
other requests stay outstanding, with their connections. -/
structure Settles (s t : State) (asked left : List Outstanding) (ebc : Nat) (proc : Procedure)
    (q : Outstanding) : Prop where
  waits : proc.WaitsFor q
  member : q ∈ asked
  still : ∀ other, ∀ q' ∈ asked, q' ≠ q → HeldBy s other q'.sp → q' ∈ left ∧ HeldBy t other q'.sp
  alone : ∀ other, HeldBy s other q.sp → other = ebc

/-- A request of another procedure is another request. -/
theorem Settles.ne {other : Nat} {old : Procedure} {q' : Outstanding}
    (settles : Settles s t asked left ebc proc q)
    (apart : other = ebc → old.address ≠ proc.address) (waits : old.WaitsFor q')
    (held : HeldBy s other q'.sp) : q' ≠ q := by
  intro same
  rw [same] at waits held
  exact apart (settles.alone other held) (waits.1.trans settles.waits.1.symm)

/-- Another procedure of a request awaits what it awaited. -/
theorem Settles.awaits {other : Nat} {old : Procedure}
    (settles : Settles s t asked left ebc proc q)
    (apart : other = ebc → old.address ≠ proc.address) (awaits : Awaits s asked other old) :
    Awaits t left other old :=
  awaits.mono fun q' there waits held =>
    settles.still other q' there (settles.ne apart waits held) held

theorem settles_of_reached (waiting : Waiting s asked) (agree : Agree s)
    (orderly : (∃ q ∈ asked, s.reports action q = true) ∧
      (mayDelete action proc → ∀ q ∈ asked.eraseP (s.reports action), q.sp ≠ sp))
    (reached : s.reached action = some (ebc, sp, proc))
    (keeps : Keeps s t fun lost => lost = sp ∧ mayDelete action proc) :
    ∃ q, Settles s t asked (asked.eraseP (s.reports action)) ebc proc q ∧
      s.reports action q = true ∧ proc ∈ s.pending ebc := by
  obtain ⟨some, deletes⟩ := orderly
  obtain ⟨q, member, reports, -, others⟩ := waiting.struck some
  obtain ⟨ebc', proc', found, pending, waits⟩ :=
    waiting.reached agree member reports (kept_of_reached reached)
  obtain ⟨teid, routed⟩ := routed_of_reached found
  rw [reached] at found
  cases found
  refine ⟨q, ⟨waits, member, fun other q' there different held => ?_, ?_⟩, reports, pending⟩
  · rcases others q' there with same | left
    · exact absurd same different
    · exact ⟨left, (keeps other q'.sp held fun lost => deletes lost.2 q' left lost.1).1⟩
  · rintro other ⟨key, present⟩
    have back := (agree.held other key q.sp present).2.1
    rw [(agree.routed teid ebc q.sp routed).1, routed] at back
    cases back
    rfl

/-- The procedures of requests other than the one that the outcome reaches stay. -/
theorem Settles.kept {fate : Fate} {other : Nat} {old : Procedure} {lost : Nat → Prop}
    {answers : List Nat} (settles : Settles s t asked left ebc proc q)
    (handled : Handled s t events ebc (fate.after proc.address (s.pending ebc)) lost answers)
    (member : old ∈ s.pending other) (request : old.ofRequest = true)
    (awaits : Awaits s asked other old) (apart : other = ebc → old.address ≠ proc.address) :
    old ∈ t.pending other := by
  rcases eq_or_ne other ebc with here | elsewhere
  · rcases handled.own with own | ⟨-, unheld, -⟩
    · rw [here] at member ⊢
      rw [own]
      exact mem_after_of_ne member (apart here)
    · obtain ⟨q', -, -, held⟩ := (settles.awaits apart awaits).exists request
      rw [here] at held
      exact absurd held (unheld q'.sp)
  · rw [handled.others other elsewhere]
    exact member

theorem of_mem_pending {fate : Fate} {other : Nat} {new : Procedure} {lost : Nat → Prop}
    {answers : List Nat} (separate : Separate (s.pending ebc)) (changes : fate ≠ .stays)
    (handled : Handled s t events ebc (fate.after proc.address (s.pending ebc)) lost answers)
    (pending : proc ∈ s.pending ebc) (member : new ∈ t.pending other) :
    new ∈ s.pending other ∧ (other = ebc → new.address ≠ proc.address) ∨
      other = ebc ∧ ∃ kind, fate = .becomes kind ∧ new = { proc with kind := kind } := by
  rcases eq_or_ne other ebc with here | elsewhere
  · rw [here] at member ⊢
    rcases handled.own with own | ⟨own, -⟩
    · rw [own] at member
      rcases of_mem_after separate member with
        ⟨old, different⟩ | stays | ⟨kind, becomes, old, there, same, new⟩
      · exact .inl ⟨old, fun _ => different⟩
      · exact absurd stays changes
      · rw [separate.eq_of_address pending there same] at new
        exact .inr ⟨rfl, kind, becomes, new⟩
    · rw [own] at member
      cases member
  · rw [handled.others other elsewhere] at member
    exact .inl ⟨member, fun here => absurd here elsewhere⟩

/-- The outcome has the procedure answer and end. -/
theorem Answering.ended {lost : Nat → Prop} (answering : Answering ids answered s asked)
    (separate : Separate (s.pending ebc)) (pending : proc ∈ s.pending ebc)
    (settles : Settles s t asked left ebc proc q)
    (handled : Handled s t events ebc (Fate.ends.after proc.address (s.pending ebc)) lost
      [proc.gtpcTxId]) :
    Answering ids (answered ++ [proc.gtpcTxId]) t left := by
  have request := Procedure.WaitsFor.ofRequest settles.waits
  obtain ⟨known, unanswered⟩ := answering.unanswered ebc proc pending request
  have back : ∀ other, ∀ new ∈ t.pending other,
      new ∈ s.pending other ∧ (other = ebc → new.address ≠ proc.address) := by
    intro other new member
    rcases of_mem_pending separate (by simp) handled pending member with old | ⟨-, kind, ends, -⟩
    · exact old
    · cases ends
  have own : ∀ proc : Procedure, proc.hasTrxnId proc.gtpcTxId = true := by
    intro proc
    rw [Procedure.hasTrxnId, beq_self_eq_true, Bool.true_or]
  refine ⟨fun other new member => ?_, fun other new member newRequest => ?_, ?_, fun id member => ?_,
    ?_, fun id member => ?_⟩
  · obtain ⟨old, apart⟩ := back other new member
    exact settles.awaits apart (answering.awaits other new old)
  · obtain ⟨old, apart⟩ := back other new member
    obtain ⟨newKnown, newUnanswered⟩ := answering.unanswered other new old newRequest
    refine ⟨newKnown, fun there => ?_⟩
    rcases List.mem_append.mp there with before | here
    · exact newUnanswered before
    · -- Another procedure with the transaction would be the same one.
      have same := List.mem_singleton.mp here
      have place := answering.alone other ebc new old proc pending newRequest request same
      rw [place] at old
      have newHas : new.hasTrxnId proc.gtpcTxId = true := by
        rw [← same]
        exact own new
      have equal := separate.eq_of_hasTrxnId pending old (own proc) newHas
      rw [equal] at apart
      exact apart place rfl
  · intro first second one oneMember two twoMember
    exact answering.alone first second one (back first one oneMember).1 two
      (back second two twoMember).1
  · rcases List.mem_append.mp member with before | here
    · exact answering.known id before
    · rw [List.mem_singleton.mp here]
      exact known
  · rw [List.nodup_append]
    refine ⟨answering.once, List.nodup_singleton _, fun old member other here same => ?_⟩
    rw [List.mem_singleton.mp here] at same
    rw [same] at member
    exact unanswered member
  · rcases answering.done id member with before | ⟨other, old, there, oldRequest, same⟩
    · exact .inl (List.mem_append_left _ before)
    · by_cases apart : other = ebc → old.address ≠ proc.address
      · exact .inr ⟨other, old, settles.kept handled there oldRequest
          (answering.awaits other old there) apart, oldRequest, same⟩
      · rw [Classical.not_imp, ne_eq, not_not] at apart
        rw [apart.1] at there
        rw [separate.eq_of_address pending there apart.2] at same
        exact .inl (List.mem_append_right _ (List.mem_singleton.mpr same.symm))

/-- The outcome is one of several that a Modify Bearer procedure waits for. -/
theorem Answering.fed {lost : Nat → Prop} {request : ModifyBearerRequest}
    {pdnBearers : List PdnBearersToBeXied} {modified modified' : List BearerContextModified}
    {marked marked' : List BearerContextMarkedForRemoval}
    (answering : Answering ids answered s asked)
    (separate : Separate (s.pending ebc)) (pending : proc ∈ s.pending ebc)
    (settles : Settles s t asked left ebc proc q)
    (isModify : proc.kind = .modifyBearer request pdnBearers modified marked)
    (some : (pdnBearers.eraseP fun px => px.gtpcTxId == q.gtpcTxId) ≠ [])
    (handled : Handled s t events ebc ((Fate.becomes (.modifyBearer request
      (pdnBearers.eraseP fun px => px.gtpcTxId == q.gtpcTxId) modified' marked')).after
        proc.address (s.pending ebc)) lost []) :
    Answering ids answered t left := by
  generalize becomes : (ProcedureKind.modifyBearer request
    (pdnBearers.eraseP fun px => px.gtpcTxId == q.gtpcTxId) modified' marked') = kind at handled
  have awaits : Awaits t left ebc { proc with kind := kind } := by
    rw [← becomes]
    refine (answering.awaits ebc proc pending).fed isModify some
      fun q' there waits different held => settles.still ebc q' there (fun same => ?_) held
    rw [same] at different
    exact different rfl
  have request' : Procedure.ofRequest { proc with kind := kind } = true := by
    rw [← becomes]
    rfl
  have request := Procedure.WaitsFor.ofRequest settles.waits
  have back : ∀ other, ∀ new ∈ t.pending other,
      new ∈ s.pending other ∧ (other = ebc → new.address ≠ proc.address) ∨
        other = ebc ∧ new = { proc with kind := kind } := by
    intro other new member
    rcases of_mem_pending separate (by simp) handled pending member with
      old | ⟨here, kind', same, new⟩
    · exact .inl old
    · cases same
      exact .inr ⟨here, new⟩
  have there : { proc with kind := kind } ∈ t.pending ebc := by
    rcases handled.own with own | ⟨-, unheld, -⟩
    · rw [own]
      exact List.mem_map.mpr ⟨proc, pending, if_pos rfl⟩
    · obtain ⟨q', -, -, held⟩ := awaits.exists request'
      exact absurd held (unheld q'.sp)
  -- The procedure of a pending one before the outcome, with the same transaction.
  have old : ∀ other, ∀ new ∈ t.pending other, new.ofRequest = true →
      ∃ old ∈ s.pending other, old.ofRequest = true ∧ old.gtpcTxId = new.gtpcTxId := by
    intro other new member newRequest
    rcases back other new member with ⟨old, -⟩ | ⟨here, same⟩
    · exact ⟨new, old, newRequest, rfl⟩
    · rw [here, same]
      exact ⟨proc, pending, request, rfl⟩
  refine ⟨fun other new member => ?_, fun other new member newRequest => ?_, ?_, answering.known,
    answering.once, fun id member => ?_⟩
  · rcases back other new member with ⟨before, apart⟩ | ⟨here, same⟩
    · exact settles.awaits apart (answering.awaits other new before)
    · rw [here, same]
      exact awaits
  · obtain ⟨before, member, oldRequest, same⟩ := old other new member newRequest
    rw [← same]
    exact answering.unanswered other before member oldRequest
  · intro first second one oneMember two twoMember oneRequest twoRequest same
    obtain ⟨one', oneOld, oneRequest', oneSame⟩ := old first one oneMember oneRequest
    obtain ⟨two', twoOld, twoRequest', twoSame⟩ := old second two twoMember twoRequest
    rw [← oneSame, ← twoSame] at same
    exact answering.alone first second one' oneOld two' twoOld oneRequest' twoRequest' same
  · rcases answering.done id member with before | ⟨other, old, before, oldRequest, same⟩
    · exact .inl before
    · by_cases apart : other = ebc → old.address ≠ proc.address
      · exact .inr ⟨other, old, settles.kept handled before oldRequest
          (answering.awaits other old before) apart, oldRequest, same⟩
      · rw [Classical.not_imp, ne_eq, not_not] at apart
        rw [apart.1] at before
        rw [separate.eq_of_address pending before apart.2] at same
        exact .inr ⟨ebc, _, there, request', same⟩

/-- An answerable outcome. -/
theorem Answering.follows (answering : Answering ids answered s asked) (waiting : Waiting s asked)
    (agree : Agree s) (outcome : isOutcome action = true) (answerable : Answerable s asked action)
    (taken : step s action = some (t, events)) :
    Answering ids (answered ++ events.filterMap Event.answered) t
      (asked.eraseP (s.reports action)) := by
  rcases follows_step agree waiting.separate outcome taken with
    ⟨unreached, same, silent⟩ | ⟨ebc, sp, proc, fate, answers, reached, feeds, handled⟩
  · rw [same, silent, eraseP_of_unreached waiting agree answerable unreached, List.filterMap_nil,
      List.append_nil]
    exact answering
  · have orderly : (∃ q ∈ asked, s.reports action q = true) ∧
        (mayDelete action proc → ∀ q ∈ asked.eraseP (s.reports action), q.sp ≠ sp) := by
      have orderly := answerable.1
      cases action <;> first
        | exact ⟨(orderly ebc sp proc reached).1, (orderly ebc sp proc reached).2.2⟩
        | cases outcome
    obtain ⟨q, settles, reports, pending⟩ :=
      settles_of_reached waiting agree orderly reached handled.keeps
    rw [handled.answered]
    rcases fed_cases outcome answerable reached (answering.awaits ebc proc pending) settles.waits
      reports feeds with ⟨ends, answers⟩ | ⟨request, pdnBearers, modified, marked, modified',
        marked', isModify, some, becomes, silent⟩
    · rw [ends, answers, if_pos rfl] at handled
      rw [answers, if_pos rfl]
      exact answering.ended (waiting.separate ebc) pending settles handled
    · rw [becomes, silent, if_neg Bool.false_ne_true] at handled
      rw [silent, if_neg Bool.false_ne_true, List.append_nil]
      exact answering.fed (waiting.separate ebc) pending settles isModify some handled

/-! ### Runs -/

theorem answering_createSession {request : CreateSessionRequest}
    (answering : Answering ids answered s asked) (agree : Agree s)
    (answerable : Answerable s asked (.createSession request)) (new : request.gtpcTxId ∉ ids)
    (taken : step s (.createSession request) = some (t, events)) :
    Answering (ids ++ [request.gtpcTxId]) (answered ++ events.filterMap Event.answered) t
      (asked ++ events.filterMap Outstanding.ofEvent) := by
  obtain ⟨⟨-, alone, -⟩, unknown | ⟨base, ebc, handed, accepts⟩⟩ := answerable
  · have unhanded : s.handed request = none := by simp only [handed, unknown]
    obtain ⟨same, opens, answers⟩ := createSession_dropped unhanded taken
    rw [same, opens, answers, if_pos unknown, List.append_nil]
    exact answering.atOnce new
  · obtain ⟨sent, -, starts⟩ := starts_createSession agree alone handed accepts taken
    rw [starts.opens, starts.silent, List.append_nil]
    obtain ⟨waits, held, -⟩ := starts.waits _ (List.mem_singleton_self _)
    exact answering.starts starts
      ⟨_, List.mem_append_right _ (List.mem_singleton_self _), waits, held⟩ fun _ => new

theorem answering_modifyBearer {request : ModifyBearerRequest} {uids : Nat → Nat}
    (answering : Answering ids answered s asked) (sound : Sound s)
    (answerable : Answerable s asked (.modifyBearer request uids)) (new : request.gtpcTxId ∉ ids)
    (taken : step s (.modifyBearer request uids) = some (t, events)) :
    Answering (ids ++ [request.gtpcTxId]) (answered ++ events.filterMap Event.answered) t
      (asked ++ events.filterMap Outstanding.ofEvent) := by
  obtain ⟨orderly, ⟨ebc, served⟩, some⟩ := answerable
  by_cases nothing : (s.collect ebc request).pdnBearers = []
  · obtain ⟨same, opens, answers⟩ := modifyBearer_answered sound served some nothing taken
    rw [same, opens, answers, List.append_nil]
    exact answering.atOnce new
  · obtain ⟨-, distinct⟩ := orderly ebc served
    have starts := starts_modifyBearer sound served some nothing distinct taken
    rw [starts.opens, starts.silent, List.append_nil]
    refine answering.starts starts ⟨?_, ?_, fun px member => ?_⟩ fun _ => new
    · intro empty
      have none := congrArg List.length empty
      cases bearers : (s.collect ebc request).pdnBearers with
      | nil => exact nothing bearers
      | cons px rest =>
          rw [bearers] at none
          cases none
    · have distinct := starts.distinct
      rw [List.pairwise_map] at distinct
      exact distinct
    · have asks := List.mem_map_of_mem (f := s.asking s.nextAddress) member
      obtain ⟨waits, held, -⟩ := starts.waits _ asks
      exact ⟨_, List.mem_append_right _ asks, waits, rfl, held⟩

theorem answering_deleteSession {request : DeleteSessionRequest}
    (answering : Answering ids answered s asked)
    (answerable : Answerable s asked (.deleteSession request)) (new : request.gtpcTxId ∉ ids)
    (taken : step s (.deleteSession request) = some (t, events)) :
    Answering (ids ++ [request.gtpcTxId]) (answered ++ events.filterMap Event.answered) t
      (asked ++ events.filterMap Outstanding.ofEvent) := by
  obtain ⟨-, ebc, sp, served, deletes, one⟩ := answerable
  have starts := starts_deleteSession served deletes one taken
  rw [starts.opens, starts.silent, List.append_nil]
  obtain ⟨waits, held, -⟩ := starts.waits _ (List.mem_singleton_self _)
  exact answering.starts starts
    ⟨_, List.mem_append_right _ (List.mem_singleton_self _), waits, held⟩ fun _ => new

theorem Answering.step (answering : Answering ids answered s asked)
    (correlates : Correlates s asked) (answerable : Answerable s asked action)
    (new : ∀ id ∈ action.requestId, id ∉ ids)
    (taken : Sgw.step s action = some (t, events)) :
    Answering (ids ++ action.requestId.toList) (answered ++ events.filterMap Event.answered) t
      (requests.after s action events asked) := by
  obtain ⟨⟨past, tables⟩, sound, waiting⟩ := correlates
  cases outcome : isOutcome action with
  | true =>
      have opens := opens_of_outcome outcome taken
      have none : action.requestId = none := by
        cases action <;> first | rfl | cases outcome
      show Answering _ _ t
        (asked.eraseP (s.reports action) ++ events.filterMap Outstanding.ofEvent)
      rw [none, opens, List.append_nil, Option.toList_none, List.append_nil]
      exact answering.follows waiting tables.agree outcome answerable taken
  | false =>
      rw [after_of_request outcome]
      cases action with
      | createSession request =>
          exact answering_createSession answering tables.agree answerable (new _ rfl) taken
      | modifyBearer request uids =>
          exact answering_modifyBearer answering sound answerable (new _ rfl) taken
      | releaseAccessBearers request =>
          obtain ⟨-, ebc, served, nothing⟩ := answerable
          obtain ⟨same, opens, answers⟩ := releaseAccessBearers_answered sound served nothing taken
          rw [same, opens, answers, List.append_nil]
          exact answering.atOnce (new _ rfl)
      | deleteSession request => exact answering_deleteSession answering answerable (new _ rfl) taken
      | downlinkDataNotificationAcknowledge ack =>
          obtain ⟨same, opens, answers⟩ := downlinkDataNotificationAcknowledge_quiet taken
          rw [same, opens, answers, List.append_nil, List.append_nil]
          show Answering (ids ++ []) answered s asked
          rw [List.append_nil]
          exact answering
      | downlinkDataNotification ddn =>
          rcases downlinkDataNotification_cases taken with ⟨same, silent⟩ | ⟨ebc, sp, idle, starts⟩
          · rw [same, silent, List.filterMap_nil, List.filterMap_nil, List.append_nil,
              List.append_nil]
            show Answering (ids ++ []) answered s asked
            rw [List.append_nil]
            exact answering
          · rw [starts.opens, starts.silent, List.append_nil]
            exact answering.starts starts trivial fun request => by cases request
      | createSessionResponse csresp => cases outcome
      | deleteSessionResponse dsresp => cases outcome
      | modifyBearerResponse s5resp => cases outcome
      | releaseAccessBearersResponse s5resp => cases outcome
      | remotePeerNotResponding resp => cases outcome

/-- The transactions of the requests from the MME, in the order they came. -/
def requestIds (records : List (StepRecord (State × List Outstanding) Action Event)) : List Nat :=
  records.flatMap fun record => record.action.requestId.toList

/-- As long as all steps are answerable, and the transactions of the requests
differ, every request gets one response. -/
theorem requests_answered_once
    {records : List (StepRecord (State × List Outstanding) Action Event)} {finish : State}
    {asked : List Outstanding}
    (run : Run (requests.watch step) (init, []) records (finish, asked))
    (distinct : (requestIds records).Nodup)
    (answerable : ∀ record ∈ records, Answerable record.before.1 record.before.2 record.action) :
    AnsweredOnce (requestIds records) ((trace records).filterMap Event.answered) finish asked := by
  suffices both : Correlates finish asked ∧
      Answering (requestIds records) ((trace records).filterMap Event.answered) finish asked from
    both.2.answeredOnce
  generalize last : (finish, asked) = watched at run
  induction run generalizing finish asked with
  | nil =>
      cases last
      exact ⟨correlates_init, answering_init⟩
  | @snoc records state next action events earlier taken inductionHypothesis =>
      obtain ⟨s, before⟩ := state
      obtain ⟨t, after⟩ := next
      cases last
      obtain ⟨taken, same⟩ := Ledger.watch_eq_some.mp taken
      have ids : requestIds (records ++ [⟨(s, before), action, (finish, asked), events⟩]) =
          requestIds records ++ action.requestId.toList := by
        simp [requestIds]
      rw [ids] at distinct ⊢
      rw [trace_append, trace_singleton, List.filterMap_append, same]
      obtain ⟨correlates, answering⟩ := inductionHypothesis (List.nodup_append.mp distinct).1
        (fun record member => answerable record (List.mem_append_left _ member)) rfl
      have meets := answerable _ (List.mem_append_right _ (List.mem_singleton_self _))
      refine ⟨correlates.step meets.1 taken, answering.step correlates meets ?_ taken⟩
      intro id member there
      exact (List.nodup_append.mp distinct).2.2 id there id (Option.mem_toList.mpr member) rfl

theorem EasyCreate.answerable {request : CreateSessionRequest} (easy : EasyCreate s request)
    (accepted : ∃ handed ∈ s.handed request,
      (handed.1.contexts handed.2).pdnConnections.contains (request.apn, request.pdnType) = false) :
    Answerable s asked (.createSession request) := by
  obtain ⟨⟨base, ebc⟩, handed, absent⟩ := accepted
  refine ⟨easy.orderly, .inr ⟨base, ebc, handed, fun refuses => ?_⟩⟩
  rw [Refuses, absent] at refuses
  cases refuses

theorem answerable_accepted {csresp : CreateSessionResponse}
    (accepted : csresp.cause = some requestAccepted) (usable : ignoresResponse csresp = false)
    (some : ∃ q ∈ asked, s.reports (.createSessionResponse csresp) q = true) :
    Answerable s asked (.createSessionResponse csresp) := by
  refine ⟨fun ebc sp proc reached => ⟨some, fun early => early.elim, fun deletes => ?_⟩,
    fun q member reports => usable⟩
  rw [mayDelete, accepted] at deletes
  exact absurd deletes.2 (by decide)

theorem answerable_modified {s5resp : ModifyBearerResponse} (told : s5resp.cause ≠ none)
    (some : ∃ q ∈ asked, s.reports (.modifyBearerResponse s5resp) q = true) :
    Answerable s asked (.modifyBearerResponse s5resp) := by
  refine ⟨fun ebc sp proc reached => ⟨some, fun early => absurd early told, fun deletes => ?_⟩,
    fun untold => absurd untold told⟩
  simp [mayDelete] at deletes

theorem answerable_modify {request : ModifyBearerRequest} {uids : Nat → Nat}
    (some : request.bearerContextsToBeModified ≠ [])
    (served : ∃ ebc ∈ s.servedIn request.teid request.gtpcTxId,
      (∀ i < (s.collect ebc request).pdnBearers.length, s.findProcedure ebc (uids i) = none) ∧
        ∀ j < (s.collect ebc request).pdnBearers.length, ∀ i < j, uids i ≠ uids j) :
    Answerable s asked (.modifyBearer request uids) := by
  obtain ⟨ebc, known, free, distinct⟩ := served
  refine ⟨fun ebc' known' => ?_, ⟨ebc, known⟩, fun none => some none.1⟩
  rw [known, Option.some.injEq] at known'
  subst known'
  exact ⟨free, fun i j less below => distinct j below i less⟩

/-- What is decided of the steps of a run on fixed inputs, and makes them answerable. -/
def easyStep (s : State) (asked : List Outstanding) : Action → Bool
  | .createSession request => decide (EasyCreate s request ∧ ∃ handed ∈ s.handed request,
      (handed.1.contexts handed.2).pdnConnections.contains (request.apn, request.pdnType) = false)
  | .createSessionResponse csresp => decide (csresp.cause = some requestAccepted ∧
      ignoresResponse csresp = false ∧
      ∃ q ∈ asked, s.reports (.createSessionResponse csresp) q = true)
  | .modifyBearer request uids => decide (request.bearerContextsToBeModified ≠ [] ∧
      ∃ ebc ∈ s.servedIn request.teid request.gtpcTxId,
        (∀ i < (s.collect ebc request).pdnBearers.length, s.findProcedure ebc (uids i) = none) ∧
          ∀ j < (s.collect ebc request).pdnBearers.length, ∀ i < j, uids i ≠ uids j)
  | .modifyBearerResponse s5resp => decide (s5resp.cause ≠ none ∧
      ∃ q ∈ asked, s.reports (.modifyBearerResponse s5resp) q = true)
  | _ => false

theorem answerable_of_easyStep {action : Action} (easy : easyStep s asked action = true) :
    Answerable s asked action := by
  cases action with
  | createSession request =>
      have easy := of_decide_eq_true easy
      exact easy.1.answerable easy.2
  | createSessionResponse csresp =>
      have easy := of_decide_eq_true easy
      exact answerable_accepted easy.1 easy.2.1 easy.2.2
  | modifyBearer request uids =>
      have easy := of_decide_eq_true easy
      exact answerable_modify easy.1 easy.2
  | modifyBearerResponse s5resp =>
      have easy := of_decide_eq_true easy
      exact answerable_modified easy.1 easy.2
  | _ => cases easy

/-- Two UEs attach at the same time; then one asks for a second connection, and for new bearers
of both, which the PGW answers in the other order. -/
def busyActions : List Action :=
  (attachActions 1 0 1 5 "internet" 1).take 1 ++ (attachActions 2 0 2 5 "internet" 2).take 1 ++
  (attachActions 2 0 2 5 "internet" 2).drop 1 ++ (attachActions 1 0 1 5 "internet" 1).drop 1 ++
  attachActions 3 1 1 6 "ims" 3 ++
  [.modifyBearer
    { gtpcTxId := 4, teid := 1
      bearerContextsToBeModified := [5, 6].map fun ebi =>
        { epsBearerId := ebi, s1UEnbFteid := some { v4 := true, teidGreKey := 7 } } }
    fun n => 100 + n,
   .modifyBearerResponse
    { gtpcTxId := 101, teid := 3, cause := some requestAccepted
      bearerContextsModified := [{ epsBearerId := 6, cause := some requestAccepted }] },
   .modifyBearerResponse
    { gtpcTxId := 100, teid := 1, cause := some requestAccepted
      bearerContextsModified := [{ epsBearerId := 5, cause := some requestAccepted }] }]

theorem requests_answered_once_busy :
    ∃ records finish asked, Run (requests.watch step) (init, []) records (finish, asked) ∧
      requestIds records = [1, 2, 3, 4] ∧ finish.pending 0 = [] ∧ finish.pending 1 = [] ∧
      AnsweredOnce [1, 2, 3, 4] ((trace records).filterMap Event.answered) finish asked := by
  obtain ⟨records, ⟨finish, asked⟩, run, easy, ids, gone, gone'⟩ :=
    Run.exists_of_passes (requests.watch step) (init, []) busyActions
      (fun records last =>
        (∀ record ∈ records, easyStep record.before.1 record.before.2 record.action = true) ∧
          requestIds records = [1, 2, 3, 4] ∧ last.1.pending 0 = [] ∧ last.1.pending 1 = [])
      (by decide +kernel)
  refine ⟨records, finish, asked, run, ids, gone, gone', ?_⟩
  rw [← ids]
  exact requests_answered_once run (by rw [ids]; decide)
    fun record member => answerable_of_easyStep (easy record member)

/-- The PGW has released the bearers of the only connection and the MME has its
response, but the procedure stays. -/
theorem release_stays :
    ∃ records finish asked, Run (requests.watch step) (init, []) records (finish, asked) ∧
      (requestIds records).Nodup ∧
      ¬AnsweredOnce (requestIds records) ((trace records).filterMap Event.answered) finish
        asked := by
  obtain ⟨records, ⟨finish, asked⟩, run, distinct, proc, pending, request, known, done⟩ :=
    Run.exists_of_passes (requests.watch step) (init, [])
      (attachActions 1 0 1 5 "internet" 1 ++
        [.releaseAccessBearers { gtpcTxId := 2, teid := 1 },
         .releaseAccessBearersResponse
          { gtpcTxId := 2, teid := 1, cause := some requestAccepted }])
      (fun records last => (requestIds records).Nodup ∧
        ∃ proc ∈ last.1.pending 0, proc.ofRequest = true ∧ proc.gtpcTxId ∈ requestIds records ∧
          last.2 = [])
      (by decide)
  refine ⟨records, finish, asked, run, distinct, fun once => ?_⟩
  obtain ⟨q, member, -⟩ := once.ends 0 proc pending request known
  have done : asked = [] := done
  rw [done] at member
  cases member

end State

end OpenairSpgwc.Sgw
