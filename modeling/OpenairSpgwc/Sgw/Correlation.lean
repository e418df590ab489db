import OpenairSpgwc.Sgw.Outcomes
import OpenairSpgwc.Sgw.Requests

/-!
Contract: an S5/S8 response is handled by the procedure that sent the request,
for the connection it was sent for.

Owns:
- `Waiting`: every outstanding request has its procedure, which its transaction
  and its connection lead to;
- `Orderly`, the steps in which no two requests of a context share a transaction
  and none is forgotten;
- `Correlated`, the property, and that it holds as long as all steps are orderly.
-/

namespace OpenairSpgwc.Sgw

open Foundation
open Std (ExtTreeMap)

/-- Striking out one transaction leaves the elements of the others. -/
theorem find?_eraseP_of_ne {id other : Nat} {pdnBearers : List PdnBearersToBeXied}
    (different : other ≠ id) :
    ((pdnBearers.eraseP fun px => px.gtpcTxId == id).find? fun px => px.gtpcTxId == other) =
      pdnBearers.find? fun px => px.gtpcTxId == other := by
  induction pdnBearers with
  | nil => rfl
  | cons first rest inductionHypothesis =>
      rw [List.eraseP_cons]
      cases here : first.gtpcTxId == id with
      | true =>
          rw [cond_true, List.find?_cons_of_neg]
          rw [beq_iff_eq, beq_iff_eq.mp here]
          exact different.symm
      | false => rw [cond_false, List.find?_cons, List.find?_cons, inductionHypothesis]

theorem nil_or_singleton {α : Type} {items : List α} (short : items.length ≤ 1) :
    items = [] ∨ ∃ item, items = [item] := by
  rcases Nat.le_one_iff_eq_zero_or_eq_one.mp short with zero | one
  · exact .inl (List.length_eq_zero_iff.mp zero)
  · exact .inr (List.length_eq_one_iff.mp one)

namespace State

variable {s t : State} {ebc sp : Nat} {proc : Procedure} {q : Outstanding} {action : Action}
  {asked left opened : List Outstanding} {events : List Event} {lost : Nat → Prop}

/-! ### Every outstanding request has its procedure -/

structure Waiting (s : State) (asked : List Outstanding) : Prop where
  separate : ∀ ebc, Separate (s.pending ebc)
  waits : ∀ q ∈ asked, ∃ ebc, ∃ proc ∈ s.pending ebc, proc.WaitsFor q ∧ HeldBy s ebc q.sp
  addressed : ∀ q ∈ asked, q.lTeid = s.teidOf q.sp ∨ q.lTeid = 0
  distinct : asked.Pairwise fun first second =>
    first.sender = second.sender → first.gtpcTxId ≠ second.gtpcTxId

theorem waiting_init : Waiting init [] where
  separate _ := .nil
  waits q member := by cases member
  addressed q member := by cases member
  distinct := .nil

/-- Requests stay outstanding while their procedures and connections stay. -/
theorem Waiting.keep (waiting : Waiting s asked) (fewer : left.Sublist asked)
    (keeps : Keeps s t lost) (kept : ∀ q ∈ left, ¬lost q.sp)
    (separate : ∀ ebc, Separate (t.pending ebc))
    (still : ∀ ebc, ∀ proc ∈ s.pending ebc, ∀ q ∈ left, proc.WaitsFor q → HeldBy s ebc q.sp →
      HeldBy t ebc q.sp → ∃ new ∈ t.pending ebc, new.WaitsFor q) :
    Waiting t left where
  separate := separate
  waits q member := by
    obtain ⟨ebc, proc, there, waits, held⟩ := waiting.waits q (fewer.subset member)
    have held' := (keeps ebc q.sp held (kept q member)).1
    obtain ⟨new, here, same⟩ := still ebc proc there q member waits held held'
    exact ⟨ebc, new, here, same, held'⟩
  addressed q member := by
    obtain ⟨ebc, proc, there, waits, held⟩ := waiting.waits q (fewer.subset member)
    rw [(keeps ebc q.sp held (kept q member)).2]
    exact waiting.addressed q (fewer.subset member)
  distinct := waiting.distinct.sublist fewer

theorem Waiting.sublist (waiting : Waiting s asked) (fewer : left.Sublist asked) :
    Waiting s left :=
  waiting.keep fewer (.refl s) (fun _ _ => not_false) waiting.separate
    fun _ proc there _ _ waits _ _ => ⟨proc, there, waits⟩

/-- A new procedure waits for the outcomes of its requests. -/
theorem Waiting.starts {before : List Procedure} (waiting : Waiting s asked) (sound : Sound s)
    (starts : Starts s t events ebc before proc opened)
    (fresh : ∀ id, proc.hasTrxnId id = true →
      (before.find? fun old => old.hasTrxnId id) = none) :
    Waiting t (asked ++ opened) := by
  have cases := starts.before
  have own := starts.own
  have older : ∀ old ∈ before, old.address < s.nextAddress ∧
      ∀ id, proc.hasTrxnId id = true → old.hasTrxnId id = false := by
    intro old member
    refine ⟨?_, fun id has =>
      Bool.eq_false_iff.mpr (List.find?_eq_none.mp (fresh id has) old member)⟩
    rcases cases with same | ⟨empty, -⟩
    · rw [same] at member
      exact sound.older ebc old member
    · rw [empty] at member
      cases member
  have separateBefore : Separate before := by
    rcases cases with same | ⟨empty, -⟩
    · rw [same]
      exact waiting.separate ebc
    · rw [empty]
      exact .nil
  have kept : Waiting t asked := by
    refine waiting.keep (List.Sublist.refl _) starts.keeps (fun _ _ => not_false) ?_ ?_
    · intro other
      rcases eq_or_ne other ebc with here | elsewhere
      · rw [here, own]
        exact separateBefore.append
          (fun old member => ((older old member).1.trans_le starts.new).ne)
          fun old member id has => (older old member).2 id has
      · rw [starts.others other elsewhere]
        exact waiting.separate other
    · intro other old member q _ waits held _
      rcases eq_or_ne other ebc with here | elsewhere
      · rw [here] at member held ⊢
        rw [own]
        rcases cases with same | ⟨-, unheld⟩
        · rw [same]
          exact ⟨old, List.mem_append_left _ member, waits⟩
        · exact absurd held (unheld q.sp)
      · rw [starts.others other elsewhere]
        exact ⟨old, member, waits⟩
  have here : proc ∈ t.pending ebc := by
    rw [own]
    exact List.mem_append_right _ (List.mem_singleton_self proc)
  refine ⟨kept.separate, fun q member => ?_, fun q member => ?_, ?_⟩
  · rcases List.mem_append.mp member with old | new
    · exact kept.waits q old
    · obtain ⟨waits, held, -⟩ := starts.waits q new
      exact ⟨ebc, proc, here, waits, held⟩
  · rcases List.mem_append.mp member with old | new
    · exact kept.addressed q old
    · exact (starts.waits q new).2.2
  · rw [List.pairwise_append]
    refine ⟨waiting.distinct, ?_, ?_⟩
    · refine List.Pairwise.imp ?_ starts.distinct
      intro first second different _
      exact different
    intro old member new there same
    -- The sender of an old request is older than the new procedure.
    obtain ⟨other, sender, pending, waits, -⟩ := waiting.waits old member
    have before := sound.older other sender pending
    rw [waits.1, same, ← (starts.waits new there).1.1] at before
    exact absurd starts.new before.not_ge

/-! ### What an outcome reaches -/

/-- An accepting response without the F-TEID of the PGW, and a report without a
local TEID, are discarded before anything is looked up. -/
def discarded : Action → Bool
  | .createSessionResponse csresp => ignoresResponse csresp
  | .remotePeerNotResponding resp => resp.lTeid == 0
  | _ => false

/-- The report of the outcome of a request reaches the procedure that sent it. -/
theorem Waiting.reached (agree : Agree s) (waiting : Waiting s asked) (member : q ∈ asked)
    (reports : s.reports action q = true) (kept : discarded action = false) :
    ∃ ebc proc, s.reached action = some (ebc, q.sp, proc) ∧ proc ∈ s.pending ebc ∧
      proc.WaitsFor q := by
  obtain ⟨ebc, proc, there, waits, key, held⟩ := waiting.waits q member
  have routed := (agree.held ebc key q.sp held).2.1
  have found : s.findProcedure ebc q.gtpcTxId = some proc :=
    (waiting.separate ebc).find?_eq there waits.hasTrxnId
  have known := lookup_eq_some routed found
  refine ⟨ebc, proc, ?_, there, waits⟩
  cases action with
  | createSessionResponse csresp =>
      simp only [State.reports, Bool.and_eq_true, beq_iff_eq] at reports
      have kept : ¬ignoresResponse csresp = true := Bool.eq_false_iff.mp kept
      rw [State.reached, if_neg kept, reports.1.2, reports.2]
      exact known
  | deleteSessionResponse dsresp =>
      simp only [State.reports, Bool.and_eq_true, beq_iff_eq] at reports
      rw [State.reached, reports.1.2, reports.2]
      exact known
  | modifyBearerResponse s5resp =>
      simp only [State.reports, Bool.and_eq_true, beq_iff_eq] at reports
      rw [State.reached, reports.1.2, reports.2]
      exact known
  | releaseAccessBearersResponse s5resp =>
      simp only [State.reports, Bool.and_eq_true, beq_iff_eq] at reports
      rw [State.reached, reports.1.2, reports.2]
      exact known
  | remotePeerNotResponding resp =>
      simp only [State.reports, Bool.and_eq_true, beq_iff_eq] at reports
      have positive : resp.lTeid ≠ 0 := by
        intro zero
        rw [discarded, zero] at kept
        cases kept
      have own : resp.lTeid = s.teidOf q.sp := by
        rcases waiting.addressed q member with own | zero
        · exact reports.2.trans own
        · exact absurd (reports.2.trans zero) positive
      rw [State.reached, if_neg positive, reports.1, own]
      exact known
  | createSession request => cases reports
  | modifyBearer request uids => cases reports
  | releaseAccessBearers request => cases reports
  | deleteSession request => cases reports
  | downlinkDataNotificationAcknowledge ack => cases reports
  | downlinkDataNotification ddn => cases reports

theorem kept_of_reached {found : Nat × Nat × Procedure} (reached : s.reached action = some found) :
    discarded action = false := by
  cases action with
  | createSessionResponse csresp =>
      simp only [State.reached] at reached
      split at reached
      · cases reached
      · next kept => exact Bool.eq_false_iff.mpr kept
  | remotePeerNotResponding resp =>
      simp only [State.reached] at reached
      split at reached
      · cases reached
      · next positive => exact beq_eq_false_iff_ne.mpr positive
  | deleteSessionResponse dsresp => rfl
  | modifyBearerResponse s5resp => rfl
  | releaseAccessBearersResponse s5resp => rfl
  | createSession request => rfl
  | modifyBearer request uids => rfl
  | releaseAccessBearers request => rfl
  | deleteSession request => rfl
  | downlinkDataNotificationAcknowledge ack => rfl
  | downlinkDataNotification ddn => rfl

/-! ### Orderly steps -/

/-- The messages that can end a procedure with an outcome still to come: the
report of a silent peer, and a Modify Bearer Response without a cause. -/
def endsEarly : Action → Prop
  | .modifyBearerResponse s5resp => s5resp.cause = none
  | .remotePeerNotResponding _ => True
  | _ => False

/-- No two requests of a context share a transaction, and no procedure or
connection is given up while the outcome of one of its requests is to come. -/
def Orderly (s : State) (asked : List Outstanding) : Action → Prop
  | .createSession request =>
      FindsTeids s (.createSession request) ∧ s.collision request = none ∧
        ∀ base ebc, s.handed request = some (base, ebc) → ¬Refuses base ebc request →
          base.findProcedure ebc request.gtpcTxId = none
  | .modifyBearer request uids =>
      ∀ ebc, s.servedIn request.teid request.gtpcTxId = some ebc →
        (∀ i, i < (s.collect ebc request).pdnBearers.length →
          s.findProcedure ebc (uids i) = none) ∧
        ∀ i j, i < j → j < (s.collect ebc request).pdnBearers.length → uids i ≠ uids j
  | .releaseAccessBearers request =>
      ∀ ebc, s.servedIn request.teid request.gtpcTxId = some ebc → (s.toRelease ebc).length ≤ 1
  | .deleteSession request =>
      ∀ ebc, s.servedIn request.teid request.gtpcTxId = some ebc → request.oi = true →
        (s.toDelete ebc request).length ≤ 1
  | action =>
      ∀ ebc sp proc, s.reached action = some (ebc, sp, proc) →
        (∃ q ∈ asked, s.reports action q = true) ∧
        (endsEarly action →
          ∀ q ∈ asked.eraseP (s.reports action), q.sender ≠ proc.address) ∧
        (mayDelete action proc → ∀ q ∈ asked.eraseP (s.reports action), q.sp ≠ sp)

/-- The request that an outcome strikes out, and those that are left. -/
theorem Waiting.struck (waiting : Waiting s asked)
    (some : ∃ q ∈ asked, s.reports action q = true) :
    ∃ q ∈ asked, s.reports action q = true ∧
      (∀ other ∈ asked.eraseP (s.reports action), other.sender = q.sender →
        other.gtpcTxId ≠ q.gtpcTxId) ∧
      ∀ other ∈ asked, other = q ∨ other ∈ asked.eraseP (s.reports action) := by
  obtain ⟨first, member, answers⟩ := some
  obtain ⟨q, before, after, -, reports, all, rest⟩ := List.exists_of_eraseP member answers
  have distinct := waiting.distinct
  rw [all, List.pairwise_append, List.pairwise_cons] at distinct
  refine ⟨q, ?_, reports, fun other there same => ?_, fun other there => ?_⟩
  · rw [all]
    exact List.mem_append_right _ List.mem_cons_self
  · rw [rest] at there
    rcases List.mem_append.mp there with earlier | later
    · exact distinct.2.2 other earlier q List.mem_cons_self same
    · exact (distinct.2.1.1 other later same.symm).symm
  · rw [all] at there
    rw [rest]
    rcases List.mem_append.mp there with earlier | later
    · exact .inr (List.mem_append_left _ earlier)
    · rcases List.mem_cons.mp later with here | last
      · exact .inl here
      · exact .inr (List.mem_append_right _ last)

/-- Two requests of one procedure have one transaction, unless they are of a
Modify Bearer procedure. -/
theorem modify_of_waits {other : Outstanding} (waits : proc.WaitsFor q)
    (otherWaits : proc.WaitsFor other) (different : other.gtpcTxId ≠ q.gtpcTxId) :
    q.kind = .modifyBearer ∧ other.kind = .modifyBearer := by
  obtain ⟨-, waits⟩ := waits
  obtain ⟨-, otherWaits⟩ := otherWaits
  cases kind : q.kind <;> cases otherKind : other.kind <;> rw [kind] at waits <;>
    rw [otherKind] at otherWaits <;> simp only at waits otherWaits
  all_goals grind

/-- A procedure that is not the one that meets its fate. -/
theorem mem_after_of_ne {fate : Fate} {pending : List Procedure} {address : Nat}
    (member : proc ∈ pending) (different : proc.address ≠ address) :
    proc ∈ fate.after address pending := by
  cases fate with
  | ends =>
      refine (List.mem_eraseP_of_neg ?_).mpr member
      rw [beq_iff_eq]
      exact different
  | becomes kind => exact List.mem_map.mpr ⟨proc, member, if_neg different⟩
  | stays => exact member

/-- What the procedure of an outstanding request becomes. -/
theorem separate_after {fate : Fate} {answers : Bool} {pending : List Procedure}
    (separate : Separate pending) (member : proc ∈ pending)
    (feeds : fed action proc = some (fate, answers)) :
    Separate (fate.after proc.address pending) := by
  cases fate with
  | ends => exact separate.eraseP
  | stays => exact separate
  | becomes kind =>
      refine separate.set fun other there same id has => ?_
      rw [separate.eq_of_address member there same] at has ⊢
      unfold fed at feeds
      split at feeds
      · cases feeds
      · cases feeds
      · next s5resp request pdnBearers modified marked isModify =>
          simp only [Procedure.hasTrxnId, isModify, Bool.or_eq_true] at has ⊢
          unfold fedModify at feeds
          split at feeds
          · split at feeds <;> cases feeds
          · split at feeds
            · cases feeds
            · next left more erased =>
                split at feeds
                · cases feeds
                · cases feeds
                  refine has.imp_right fun some => ?_
                  simp only [List.any_eq_true] at some ⊢
                  obtain ⟨px, there, matched⟩ := some
                  rw [← erased] at there
                  exact ⟨px, List.mem_of_mem_eraseP there, matched⟩
      · next s5resp request bearers cause isRelease =>
          simp only [Procedure.hasTrxnId, isRelease, Bool.or_eq_true] at has ⊢
          unfold fedRelease at feeds
          split at feeds
          · cases feeds
            refine has.imp_right fun some => ?_
            simp only [List.any_eq_true] at some ⊢
            obtain ⟨px, there, matched⟩ := some
            exact ⟨px, List.mem_of_mem_eraseP there, matched⟩
          · cases feeds
      · cases feeds
      · cases feeds
      · cases feeds

/-- A Modify Bearer procedure that is fed one outcome waits for the others. -/
theorem waits_after_modify {other : Outstanding} {fate : Fate} {answers : Bool}
    {s5resp : ModifyBearerResponse} {pending : List Procedure} (member : proc ∈ pending)
    (feeds : fed (.modifyBearerResponse s5resp) proc = some (fate, answers))
    (waits : proc.WaitsFor other) (kind : other.kind = .modifyBearer)
    (different : other.gtpcTxId ≠ s5resp.gtpcTxId) (cause : s5resp.cause ≠ none) :
    ∃ new ∈ fate.after proc.address pending, new.WaitsFor other := by
  obtain ⟨sender, waits⟩ := waits
  rw [kind] at waits
  obtain ⟨request, pdnBearers, modified, marked, px, isModify, found, connection⟩ := waits
  rw [← find?_eraseP_of_ne different] at found
  simp only [fed, isModify, Option.some.injEq] at feeds
  unfold fedModify at feeds
  split at feeds
  · rw [if_neg cause] at feeds
    cases feeds
    rw [find?_eraseP_of_ne different] at found
    refine ⟨proc, member, sender, ?_⟩
    rw [kind]
    exact ⟨request, pdnBearers, modified, marked, px, isModify, found, connection⟩
  · split at feeds
    · next erased =>
        rw [erased] at found
        cases found
    · next left more erased =>
        rw [if_neg cause] at feeds
        cases feeds
        rw [erased] at found
        refine ⟨_, List.mem_map.mpr ⟨proc, member, if_pos rfl⟩, sender, ?_⟩
        rw [kind]
        exact ⟨request, _, _, _, px, rfl, found, connection⟩

/-- An orderly outcome leaves every other request with its procedure. -/
theorem Waiting.follows (waiting : Waiting s asked) (agree : Agree s)
    (outcome : isOutcome action = true)
    (orderly : ∀ ebc sp proc, s.reached action = some (ebc, sp, proc) →
      (∃ q ∈ asked, s.reports action q = true) ∧
      (endsEarly action → ∀ q ∈ asked.eraseP (s.reports action), q.sender ≠ proc.address) ∧
      (mayDelete action proc → ∀ q ∈ asked.eraseP (s.reports action), q.sp ≠ sp))
    (taken : step s action = some (t, events)) :
    Waiting t (asked.eraseP (s.reports action)) := by
  rcases follows_step agree waiting.separate outcome taken with
    ⟨-, same, -⟩ | ⟨ebc, sp, proc, fate, answers, reached, feeds, handled⟩
  · rw [same]
    exact waiting.sublist List.eraseP_sublist
  · obtain ⟨some, early, deletes⟩ := orderly ebc sp proc reached
    obtain ⟨q, member, reports, others, -⟩ := waiting.struck some
    obtain ⟨ebc', proc', found, pending, waits⟩ :=
      waiting.reached agree member reports (kept_of_reached reached)
    rw [reached] at found
    cases found
    refine waiting.keep List.eraseP_sublist handled.keeps (fun q there lost => ?_)
      (fun other => ?_) fun other old there q' left oldWaits held held' => ?_
    · exact deletes lost.2 q there lost.1
    · rcases eq_or_ne other ebc with here | elsewhere
      · rw [here]
        rcases handled.own with own | ⟨own, -⟩
        · rw [own]
          exact separate_after (waiting.separate ebc) pending feeds
        · rw [own]
          exact .nil
      · rw [handled.others other elsewhere]
        exact waiting.separate other
    · rcases eq_or_ne other ebc with here | elsewhere
      · rw [here] at there held held' ⊢
        rcases handled.own with own | ⟨-, unheld, -⟩
        · rw [own]
          rcases eq_or_ne old.address proc.address with same | different
          · -- The same procedure waits for another outcome.
            rw [(waiting.separate ebc).eq_of_address pending there same] at oldWaits
            have apart := others q' left (oldWaits.1.symm.trans waits.1)
            obtain ⟨kind, otherKind⟩ := modify_of_waits waits oldWaits apart
            have late : ¬endsEarly action := fun ends => early ends q' left oldWaits.1.symm
            cases action with
            | modifyBearerResponse s5resp =>
                simp only [State.reports, Bool.and_eq_true, beq_iff_eq] at reports
                rw [← reports.1.2] at apart
                exact waits_after_modify pending feeds oldWaits otherKind apart late
            | createSessionResponse csresp =>
                simp [State.reports, kind] at reports
            | deleteSessionResponse dsresp =>
                simp [State.reports, kind] at reports
            | releaseAccessBearersResponse s5resp =>
                simp [State.reports, kind] at reports
            | remotePeerNotResponding resp => exact absurd trivial late
            | createSession request => cases outcome
            | modifyBearer request uids => cases outcome
            | releaseAccessBearers request => cases outcome
            | deleteSession request => cases outcome
            | downlinkDataNotificationAcknowledge ack => cases outcome
            | downlinkDataNotification ddn => cases outcome
          · exact ⟨old, mem_after_of_ne there different, oldWaits⟩
        · exact absurd held' (unheld q'.sp)
      · rw [handled.others other elsewhere]
        exact ⟨old, there, oldWaits⟩

theorem opens_of_outcome (outcome : isOutcome action = true)
    (taken : step s action = some (t, events)) : events.filterMap Outstanding.ofEvent = [] := by
  rw [List.filterMap_eq_nil_iff]
  intro event member
  have sent := sends_of_step taken member
  cases action <;> cases outcome <;> cases event <;> first | rfl | cases sent

/-- Only the report of an outcome strikes a request out. -/
theorem after_of_request (request : isOutcome action = false) :
    requests.after s action events asked = asked ++ events.filterMap Outstanding.ofEvent := by
  unfold Ledger.after
  rw [List.eraseP_of_forall_not]
  · rfl
  · intro q _ reports
    cases action <;> cases request <;> cases reports

theorem eq_of_hasTrxnId {address gtpcTxId given id : Nat} {kind : ProcedureKind}
    (single : ∀ request pdnBearers modified marked,
      kind ≠ .modifyBearer request pdnBearers modified marked)
    (other : ∀ request bearers cause, kind = .releaseAccessBearers request bearers cause →
      ∀ px ∈ bearers, px.gtpcTxId = gtpcTxId)
    (has : Procedure.hasTrxnId ⟨address, gtpcTxId, given, kind⟩ id = true) : id = gtpcTxId := by
  simp only [Procedure.hasTrxnId, Bool.or_eq_true, beq_iff_eq] at has
  rcases has with own | noted
  · exact own.symm
  · cases kind with
    | createSession msg => cases noted
    | deleteSession msg sp => cases noted
    | downlinkDataNotification msg sp => cases noted
    | modifyBearer request pdnBearers modified marked =>
        exact absurd rfl (single request pdnBearers modified marked)
    | releaseAccessBearers request bearers cause =>
        obtain ⟨px, member, same⟩ := List.any_eq_true.mp noted
        rw [← beq_iff_eq.mp same]
        exact other request bearers cause rfl px member

theorem Waiting.createSession {request : CreateSessionRequest} (waiting : Waiting s asked)
    (agree : Agree s) (sound : Sound s) (orderly : Orderly s asked (.createSession request))
    (taken : step s (.createSession request) = some (t, events)) :
    Waiting t (asked ++ events.filterMap Outstanding.ofEvent) := by
  obtain ⟨-, alone, fresh⟩ := orderly
  cases handed : s.handed request with
  | none =>
      obtain ⟨same, opens, -⟩ := createSession_dropped handed taken
      rw [same, opens, List.append_nil]
      exact waiting
  | some reached =>
      obtain ⟨base, ebc⟩ := reached
      by_cases refuses : Refuses base ebc request
      · obtain ⟨pending, keeps, silent⟩ :=
          createSession_refused agree sound alone handed refuses taken
        rw [silent, List.filterMap_nil, List.append_nil]
        refine waiting.keep (List.Sublist.refl _) keeps (fun _ _ => not_false) (fun ebc => ?_) ?_
        · rw [pending]
          exact waiting.separate ebc
        · intro ebc proc member q _ waits _ _
          rw [pending]
          exact ⟨proc, member, waits⟩
      · obtain ⟨sent, -, starts⟩ := starts_createSession agree alone handed refuses taken
        rw [starts.opens]
        refine waiting.starts sound starts fun id has => ?_
        rw [eq_of_hasTrxnId (by simp) (by simp) has]
        exact fresh base ebc handed refuses

theorem Waiting.modifyBearer {request : ModifyBearerRequest} {uids : Nat → Nat}
    (waiting : Waiting s asked) (sound : Sound s)
    (orderly : Orderly s asked (.modifyBearer request uids))
    (taken : step s (.modifyBearer request uids) = some (t, events)) :
    Waiting t (asked ++ events.filterMap Outstanding.ofEvent) := by
  by_cases empty : request.bearerContextsToBeModified = [] ∧ request.bearerContextsToBeRemoved = []
  · obtain ⟨same, silent⟩ := modifyBearer_dropped sound (.inr empty) taken
    rw [same, silent, List.filterMap_nil, List.append_nil]
    exact waiting
  · cases served : s.servedIn request.teid request.gtpcTxId with
    | none =>
        obtain ⟨same, silent⟩ := modifyBearer_dropped sound (.inl served) taken
        rw [same, silent, List.filterMap_nil, List.append_nil]
        exact waiting
    | some ebc =>
        obtain ⟨fresh, distinct⟩ := orderly ebc served
        by_cases nothing : (s.collect ebc request).pdnBearers = []
        · obtain ⟨same, opens, -⟩ := modifyBearer_answered sound served empty nothing taken
          rw [same, opens, List.append_nil]
          exact waiting
        · have starts := starts_modifyBearer sound served empty nothing distinct taken
          rw [starts.opens]
          refine waiting.starts sound starts fun id has => ?_
          simp only [modifying, Procedure.hasTrxnId, Bool.or_eq_true, beq_iff_eq,
            List.any_eq_true] at has
          rcases has with own | ⟨px, member, same⟩
          · rw [← own]
            exact (of_servedIn served).2
          · obtain ⟨⟨i, -, bounded, uid⟩, -⟩ := mem_numbered member
            rw [Nat.zero_add] at bounded
            rw [← same, uid]
            exact fresh i bounded

theorem Waiting.releaseAccessBearers {request : ReleaseAccessBearersRequest}
    (waiting : Waiting s asked) (sound : Sound s)
    (orderly : Orderly s asked (.releaseAccessBearers request))
    (taken : step s (.releaseAccessBearers request) = some (t, events)) :
    Waiting t (asked ++ events.filterMap Outstanding.ofEvent) := by
  cases served : s.servedIn request.teid request.gtpcTxId with
  | none =>
      obtain ⟨same, silent⟩ := releaseAccessBearers_dropped sound served taken
      rw [same, silent, List.filterMap_nil, List.append_nil]
      exact waiting
  | some ebc =>
      rcases nil_or_singleton (orderly ebc served) with nothing | ⟨sp, one⟩
      · obtain ⟨same, opens, -⟩ := releaseAccessBearers_answered sound served nothing taken
        rw [same, opens, List.append_nil]
        exact waiting
      · have starts := starts_releaseAccessBearers sound served one taken
        rw [starts.opens]
        refine waiting.starts sound starts fun id has => ?_
        rw [eq_of_hasTrxnId (by simp) (by simp) has]
        exact (of_servedIn served).2

theorem Waiting.deleteSession {request : DeleteSessionRequest} (waiting : Waiting s asked)
    (sound : Sound s) (orderly : Orderly s asked (.deleteSession request))
    (taken : step s (.deleteSession request) = some (t, events)) :
    Waiting t (asked ++ events.filterMap Outstanding.ofEvent) := by
  by_cases serves : ∃ ebc sp, s.servedIn request.teid request.gtpcTxId = some ebc ∧
      request.oi = true ∧ s.toDelete ebc request = [sp]
  · obtain ⟨ebc, sp, served, deletes, one⟩ := serves
    have starts := starts_deleteSession served deletes one taken
    rw [starts.opens]
    refine waiting.starts sound starts fun id has => ?_
    rw [eq_of_hasTrxnId (by simp) (by simp) has]
    exact (of_servedIn served).2
  · have unserved : t = s ∧ events = [] := by
      refine deleteSession_dropped (fun ebc served deletes => ?_) taken
      rcases nil_or_singleton (orderly ebc served deletes) with nothing | ⟨sp, one⟩
      · exact nothing
      · exact absurd ⟨ebc, sp, served, deletes, one⟩ serves
    rw [unserved.1, unserved.2, List.filterMap_nil, List.append_nil]
    exact waiting

theorem Waiting.step (waiting : Waiting s asked) (agree : Agree s) (sound : Sound s)
    (orderly : Orderly s asked action) (taken : Sgw.step s action = some (t, events)) :
    Waiting t (requests.after s action events asked) := by
  cases outcome : isOutcome action with
  | true =>
      have opens := opens_of_outcome outcome taken
      have struck : Waiting t (asked.eraseP (s.reports action)) := by
        refine waiting.follows agree outcome ?_ taken
        cases action <;> first | exact orderly | cases outcome
      show Waiting t (asked.eraseP (s.reports action) ++ events.filterMap Outstanding.ofEvent)
      rw [opens, List.append_nil]
      exact struck
  | false =>
      rw [after_of_request outcome]
      cases action with
      | createSession request => exact waiting.createSession agree sound orderly taken
      | modifyBearer request uids => exact waiting.modifyBearer sound orderly taken
      | releaseAccessBearers request => exact waiting.releaseAccessBearers sound orderly taken
      | deleteSession request => exact waiting.deleteSession sound orderly taken
      | downlinkDataNotificationAcknowledge ack =>
          obtain ⟨same, opens, -⟩ := downlinkDataNotificationAcknowledge_quiet taken
          rw [same, opens, List.append_nil]
          exact waiting
      | downlinkDataNotification ddn =>
          rcases downlinkDataNotification_cases taken with ⟨same, silent⟩ | ⟨ebc, sp, idle, starts⟩
          · rw [same, silent, List.filterMap_nil, List.append_nil]
            exact waiting
          · rw [starts.opens]
            refine waiting.starts sound starts fun id has => ?_
            rw [eq_of_hasTrxnId (by simp) (by simp) has]
            exact idle
      | createSessionResponse csresp => cases outcome
      | deleteSessionResponse dsresp => cases outcome
      | modifyBearerResponse s5resp => cases outcome
      | releaseAccessBearersResponse s5resp => cases outcome
      | remotePeerNotResponding resp => cases outcome

/-! ### Responses and procedures -/

def isResponse : Action → Bool
  | .createSessionResponse _ => true
  | .deleteSessionResponse _ => true
  | .modifyBearerResponse _ => true
  | .releaseAccessBearersResponse _ => true
  | _ => false

/-- The response to an outstanding request is handled by the procedure that sent
the request, for the connection the request was sent for, and every other
procedure stays as it is, unless its context is deleted. -/
def Correlated (s : State) (asked : List Outstanding) : Prop :=
  ∀ q ∈ asked, ∀ action, isResponse action = true → discarded action = false →
    s.reports action q = true →
    ∃ t events, step s action = some (t, events) ∧
      s.handledFor action = some (q.sender, q.sp) ∧
      ∀ ebc, ∀ proc ∈ s.pending ebc, proc.address ≠ q.sender →
        proc ∈ t.pending ebc ∨ .contextDeleted ebc ∈ events

/-- A procedure takes the response to its own request. -/
theorem taken_of_waits (response : isResponse action = true)
    (reached : s.reached action = some (ebc, sp, proc)) (waits : proc.WaitsFor q)
    (reports : s.reports action q = true) : ∃ t events, step s action = some (t, events) := by
  have kept := kept_of_reached reached
  obtain ⟨-, waits⟩ := waits
  cases action with
  | createSessionResponse csresp =>
      have kept : ¬ignoresResponse csresp = true := Bool.eq_false_iff.mp kept
      rw [State.reached, if_neg kept] at reached
      obtain ⟨routed, found⟩ := of_lookup reached
      simp only [State.reports, Bool.and_eq_true, beq_iff_eq] at reports
      rw [reports.1.1] at waits
      obtain ⟨-, msg, isCreate⟩ := waits
      simp only [step, handleCreateSessionResponse, if_neg kept, routed,
        createSessionResponseInContext, found, isCreate]
      exact ⟨_, _, rfl⟩
  | deleteSessionResponse dsresp =>
      obtain ⟨routed, found⟩ := of_lookup reached
      simp only [State.reports, Bool.and_eq_true, beq_iff_eq] at reports
      rw [reports.1.1] at waits
      obtain ⟨-, msg, isDelete⟩ := waits
      simp only [step, handleDeleteSessionResponse, routed, deleteSessionResponseInContext, found,
        isDelete]
      exact ⟨_, _, rfl⟩
  | modifyBearerResponse s5resp =>
      obtain ⟨routed, found⟩ := of_lookup reached
      simp only [State.reports, Bool.and_eq_true, beq_iff_eq] at reports
      rw [reports.1.1] at waits
      obtain ⟨request, pdnBearers, modified, marked, px, isModify, -⟩ := waits
      simp only [step, handleModifyBearerResponse, routed, modifyBearerResponseInContext, found,
        isModify]
      exact ⟨_, _, rfl⟩
  | releaseAccessBearersResponse s5resp =>
      obtain ⟨routed, found⟩ := of_lookup reached
      simp only [State.reports, Bool.and_eq_true, beq_iff_eq] at reports
      rw [reports.1.1] at waits
      obtain ⟨-, request, cause, isRelease⟩ := waits
      simp only [step, handleReleaseAccessBearersResponse, routed,
        releaseAccessBearersResponseInContext, found, isRelease]
      exact ⟨_, _, rfl⟩
  | remotePeerNotResponding resp => cases response
  | createSession request => cases response
  | modifyBearer request uids => cases response
  | releaseAccessBearers request => cases response
  | deleteSession request => cases response
  | downlinkDataNotificationAcknowledge ack => cases response
  | downlinkDataNotification ddn => cases response

theorem handledFor_of_waits (response : isResponse action = true)
    (reached : s.reached action = some (ebc, q.sp, proc)) (waits : proc.WaitsFor q)
    (reports : s.reports action q = true) : s.handledFor action = some (q.sender, q.sp) := by
  obtain ⟨sender, waits⟩ := waits
  unfold handledFor
  rw [reached, ← sender]
  cases action with
  | createSessionResponse csresp => rfl
  | deleteSessionResponse dsresp => rfl
  | modifyBearerResponse s5resp =>
      simp only [State.reports, Bool.and_eq_true, beq_iff_eq] at reports
      rw [reports.1.1] at waits
      obtain ⟨request, pdnBearers, modified, marked, px, isModify, found, connection⟩ := waits
      simp only [isModify, reports.1.2, found, Option.map_some, connection]
  | releaseAccessBearersResponse s5resp =>
      simp only [State.reports, Bool.and_eq_true, beq_iff_eq] at reports
      rw [reports.1.1] at waits
      obtain ⟨-, request, cause, isRelease⟩ := waits
      simp [isRelease, reports.1.2]
  | remotePeerNotResponding resp => cases response
  | createSession request => cases response
  | modifyBearer request uids => cases response
  | releaseAccessBearers request => cases response
  | deleteSession request => cases response
  | downlinkDataNotificationAcknowledge ack => cases response
  | downlinkDataNotification ddn => cases response

theorem isOutcome_of_isResponse (response : isResponse action = true) :
    isOutcome action = true := by
  cases action <;> first | rfl | cases response

theorem Waiting.correlated (waiting : Waiting s asked) (agree : Agree s) : Correlated s asked := by
  intro q member action response kept reports
  obtain ⟨ebc, proc, reached, pending, waits⟩ := waiting.reached agree member reports kept
  obtain ⟨t, events, taken⟩ := taken_of_waits response reached waits reports
  refine ⟨t, events, taken, handledFor_of_waits response reached waits reports, ?_⟩
  intro other old there different
  rcases follows_step agree waiting.separate (isOutcome_of_isResponse response) taken with
    ⟨-, same, -⟩ | ⟨ebc', sp', proc', fate, answers, found, -, handled⟩
  · rw [same]
    exact .inl there
  · rw [reached] at found
    cases found
    rw [← waits.1] at different
    rcases eq_or_ne other ebc with here | elsewhere
    · rw [here] at there ⊢
      rcases handled.own with own | ⟨-, -, deleted⟩
      · rw [own]
        exact .inl (mem_after_of_ne there different)
      · exact .inr deleted
    · rw [handled.others other elsewhere]
      exact .inl there

/-! ### Runs -/

/-- What holds after orderly steps. -/
structure Correlates (s : State) (asked : List Outstanding) : Prop where
  tables : ∃ past, Tables past s
  sound : Sound s
  waiting : Waiting s asked

theorem correlates_init : Correlates init [] :=
  ⟨⟨[], tables_init⟩, sound_init, waiting_init⟩

theorem Orderly.findsTeids (orderly : Orderly s asked action) : FindsTeids s action := by
  cases action with
  | createSession request => exact orderly.1
  | _ => trivial

theorem Correlates.step (correlates : Correlates s asked) (orderly : Orderly s asked action)
    (taken : Sgw.step s action = some (t, events)) :
    Correlates t (requests.after s action events asked) := by
  obtain ⟨⟨past, tables⟩, sound, waiting⟩ := correlates
  exact ⟨⟨_, tables.step orderly.findsTeids taken⟩, sound.step taken,
    waiting.step tables.agree sound orderly taken⟩

/-- As long as all steps are orderly, a response reaches the procedure that asked. -/
theorem responses_correlated
    {records : List (StepRecord (State × List Outstanding) Action Event)} {finish : State}
    {asked : List Outstanding}
    (run : Run (requests.watch step) (init, []) records (finish, asked))
    (orderly : ∀ record ∈ records, Orderly record.before.1 record.before.2 record.action) :
    Correlated finish asked := by
  have correlates := (run.invariant_of_condition
    (fun watched => Correlates watched.1 watched.2)
    (fun watched action => Orderly watched.1 watched.2 action) correlates_init
    (fun watched action next events holds meets taken => by
      obtain ⟨s, asked⟩ := watched
      obtain ⟨t, left⟩ := next
      obtain ⟨taken, same⟩ := Ledger.watch_eq_some.mp taken
      rw [same]
      exact holds.step meets taken) orderly).1
  obtain ⟨⟨past, tables⟩, -, waiting⟩ := correlates
  exact waiting.correlated tables.agree

/-- A Create Session Request for a UE, with the TEID 100 still free. -/
def EasyCreate (s : State) (request : CreateSessionRequest) : Prop :=
  s.collision request = none ∧
    ∀ handed ∈ s.handed request,
      handed.1.findProcedure handed.2 request.gtpcTxId = none ∧
      100 ≠ handed.1.teidS11Cp ∧ handed.1.s11lteid2sgwEpsBearerContext.contains 100 = false ∧
      100 ≠ handed.1.teidS5s8Cp ∧ handed.1.s5s8lteid2sgwContexts.contains 100 = false

instance (s : State) (request : CreateSessionRequest) : Decidable (EasyCreate s request) :=
  inferInstanceAs (Decidable (_ ∧ ∀ handed ∈ s.handed request, _))

theorem EasyCreate.orderly {request : CreateSessionRequest} (easy : EasyCreate s request) :
    Orderly s asked (.createSession request) := by
  obtain ⟨alone, easy⟩ := easy
  refine ⟨fun base ebc reached => ?_, alone, fun base ebc reached _ => (easy _ reached).1⟩
  obtain ⟨-, s11Counter, s11Free, s5s8Counter, s5s8Free⟩ := easy _ reached
  exact ⟨fun _ => ⟨100, by decide, by decide, s11Counter, s11Free⟩,
    100, by decide, by decide, s5s8Counter, s5s8Free⟩

/-- Only connections are asked for, each as easily. -/
def AsksEasily (s : State) : Action → Bool
  | .createSession request => decide (EasyCreate s request)
  | _ => false

/-- Two connections of one UE are asked for. -/
theorem responses_correlated_attach :
    ∃ records finish asked, Run (requests.watch step) (init, []) records (finish, asked) ∧
      asked.length = 2 ∧ Correlated finish asked := by
  obtain ⟨records, ⟨finish, asked⟩, executed, easy, both⟩ : Passes (requests.watch step) (init, [])
      ((attachActions 1 0 1 5 "a" 1).take 1 ++ (attachActions 2 0 1 6 "b" 2).take 1)
      (fun records last =>
        (∀ record ∈ records, AsksEasily record.before.1 record.action = true) ∧
          last.2.length = 2) := by
    decide
  have run := Run.of_execute executed
  refine ⟨records, finish, asked, run, both, responses_correlated run fun record member => ?_⟩
  have easy := easy record member
  unfold AsksEasily at easy
  split at easy
  · next request is =>
      rw [is]
      exact (of_decide_eq_true easy).orderly
  · cases easy

/-- One Delete Session Request for both connections of a UE: the response for the
second one is handled by the procedure of the first. -/
theorem deletes_share_transaction :
    ∃ records finish asked, Run (requests.watch step) (init, []) records (finish, asked) ∧
      ¬Correlated finish asked := by
  obtain ⟨records, ⟨finish, asked⟩, run, q, member, reports, other⟩ :=
    Run.exists_of_passes (requests.watch step) (init, [])
      (attachActions 1 0 1 5 "a" 1 ++ attachActions 2 0 1 6 "b" 2 ++
        [.deleteSession { gtpcTxId := 9, teid := 1, oi := true }])
      (fun _ last => ∃ q ∈ last.2,
        last.1.reports (.deleteSessionResponse { gtpcTxId := 9, teid := 2 }) q = true ∧
          last.1.handledFor (.deleteSessionResponse { gtpcTxId := 9, teid := 2 }) ≠
            some (q.sender, q.sp))
      (by decide)
  refine ⟨records, finish, asked, run, fun correlated => other ?_⟩
  obtain ⟨t, events, -, handled, -⟩ := correlated q member _ rfl rfl reports
  exact handled

end State

end OpenairSpgwc.Sgw
