import OpenairSpgwc.Sgw.Outstanding

/-!
Contract: what the report of an S5/S8 outcome does to the pending procedures.

Owns:
- `reached`: the context, the connection and the procedure that a report finds;
- `fed`: what that procedure does then, and whether it sends the S11 response;
- `Follows`: a step with a report does that, and nothing to other procedures.
-/

namespace OpenairSpgwc.Sgw

open Foundation
open Std (ExtTreeMap)

/-! ### What an outcome does -/

/-- What becomes of a procedure. -/
inductive Fate where
  | ends
  | becomes (kind : ProcedureKind)
  | stays

/-- The pending procedures, when the one at the address has met its fate. -/
def Fate.after (fate : Fate) (address : Nat) (pending : List Procedure) : List Procedure :=
  match fate with
  | .ends => pending.eraseP fun proc => proc.address == address
  | .becomes kind => pending.map fun proc =>
      if proc.address = address then { proc with kind := kind } else proc
  | .stays => pending

namespace State

variable {s t u : State} {ebc sp other : Nat} {proc : Procedure} {events : List Event}
  {action : Action}

/-- The context and the connection that the local TEID leads to, and the
procedure of the context that has the transaction. -/
def lookup (s : State) (teid gtpcTxId : Nat) : Option (Nat × Nat × Procedure) :=
  match s.s5s8lteid2sgwContexts[teid]? with
  | none => none
  | some (ebc, sp) => (s.findProcedure ebc gtpcTxId).map fun proc => (ebc, sp, proc)

/-- What the report of an outcome reaches. -/
def reached (s : State) : Action → Option (Nat × Nat × Procedure)
  | .createSessionResponse csresp =>
      if ignoresResponse csresp then none else s.lookup csresp.teid csresp.gtpcTxId
  | .deleteSessionResponse dsresp => s.lookup dsresp.teid dsresp.gtpcTxId
  | .modifyBearerResponse s5resp => s.lookup s5resp.teid s5resp.gtpcTxId
  | .releaseAccessBearersResponse s5resp => s.lookup s5resp.teid s5resp.gtpcTxId
  | .remotePeerNotResponding resp =>
      if resp.lTeid = 0 then none else s.lookup resp.lTeid resp.gtpcTxId
  | _ => none

/-- The procedure that handles a response, and the connection it handles it for:
the one the response is addressed to, or the one it has noted for the transaction. -/
def handledFor (s : State) (action : Action) : Option (Nat × Nat) :=
  match s.reached action with
  | none => none
  | some (_, sp, proc) =>
      match action, proc.kind with
      | .modifyBearerResponse s5resp, .modifyBearer _ pdnBearers _ _ =>
          (pdnBearers.find? fun px => px.gtpcTxId == s5resp.gtpcTxId).map fun px =>
            (proc.address, px.pdn)
      | .releaseAccessBearersResponse s5resp, .releaseAccessBearers _ bearers _ =>
          (bearers.find? fun px => px.gtpcTxId == s5resp.gtpcTxId).map fun px =>
            (proc.address, px.pdn)
      | _, _ => some (proc.address, sp)

/-- What a Modify Bearer procedure does with a response. -/
def fedModify (request : ModifyBearerRequest) (pdnBearers : List PdnBearersToBeXied)
    (modified : List BearerContextModified) (marked : List BearerContextMarkedForRemoval)
    (s5resp : ModifyBearerResponse) : Fate × Bool :=
  match pdnBearers.find? fun px => px.gtpcTxId == s5resp.gtpcTxId with
  | none => (if s5resp.cause = none then .ends else .stays, false)
  | some px =>
      match pdnBearers.eraseP fun px => px.gtpcTxId == s5resp.gtpcTxId with
      | [] => (.ends, true)
      | left :: more =>
          (if s5resp.cause = none then .ends
            else .becomes (.modifyBearer request (left :: more) (withModified px modified s5resp)
              (withMarked px marked s5resp)),
            false)

/-- What a Release Access Bearers procedure does with a response. -/
def fedRelease (request : ReleaseAccessBearersRequest) (bearers : List BearersToBeReleased)
    (cause : Nat) (s5resp : CauseResponse) : Fate × Bool :=
  if bearers.any fun px => px.gtpcTxId == s5resp.gtpcTxId then
    let left := bearers.eraseP fun px => px.gtpcTxId == s5resp.gtpcTxId
    (.becomes (.releaseAccessBearers request left (causeOfReleased cause s5resp.cause)),
      decide (left = []))
  else
    (.stays, false)

/-- What a procedure does with the outcome that reaches it, and whether it sends
the S11 response; `none` where the source does not return. -/
def fed (action : Action) (proc : Procedure) : Option (Fate × Bool) :=
  match action, proc.kind with
  | .createSessionResponse _, .createSession _ => some (.ends, true)
  | .deleteSessionResponse _, .deleteSession _ _ => some (.ends, true)
  | .modifyBearerResponse s5resp, .modifyBearer request pdnBearers modified marked =>
      some (fedModify request pdnBearers modified marked s5resp)
  | .releaseAccessBearersResponse s5resp, .releaseAccessBearers request bearers cause =>
      some (fedRelease request bearers cause s5resp)
  | .remotePeerNotResponding _, .createSession _ => some (.ends, true)
  | .remotePeerNotResponding _, _ => some (.ends, false)
  | _, _ => none

/-- Whether the outcome may delete the connection it is addressed to. -/
def mayDelete (action : Action) (proc : Procedure) : Prop :=
  match action, proc.kind with
  | .createSessionResponse csresp, _ =>
      csresp.bearerContextsMarkedForRemoval = [] ∧ contextNotFound ≤ csresp.cause.getD 0
  | .deleteSessionResponse _, _ => True
  | .remotePeerNotResponding _, .createSession _ => True
  | _, _ => False

variable {s t u : State} {ebc sp other teid gtpcTxId : Nat} {proc : Procedure}
  {events sent : List Event} {action : Action} {after : List Procedure} {lost : Nat → Prop}
  {answers : List Nat}

/-- The context `ebc` has the pending procedures `after` then, unless it has been
deleted, and S11 responses with the transactions `answers` were sent. -/
structure Handled (s t : State) (events : List Event) (ebc : Nat) (after : List Procedure)
    (lost : Nat → Prop) (answers : List Nat) : Prop where
  others : ∀ other, other ≠ ebc → t.pending other = s.pending other
  own : t.pending ebc = after ∨
    t.pending ebc = [] ∧ (∀ sp, ¬HeldBy t ebc sp) ∧ .contextDeleted ebc ∈ events
  keeps : Keeps s t lost
  answered : events.filterMap Event.answered = answers

/-- Only the connection that is deleted is lost. -/
theorem keeps_deletePdnConnection (agree : Agree s)
    (routed : s.s5s8lteid2sgwContexts[teid]? = some (ebc, sp)) :
    Keeps s (s.deletePdnConnection ebc sp) fun lost => lost = sp := by
  rintro other kept ⟨key, present⟩ different
  refine ⟨⟨key, ?_⟩, teidOf_deletePdnConnection kept⟩
  rw [connections_deletePdnConnection]
  refine ⟨present, fun here own => different ?_⟩
  rw [here, own, (agree.routed teid ebc sp routed).2] at present
  exact (Option.some.inj present).symm

/-- The end of the handlers that may have deleted a connection. -/
theorem handled_cleanup {middle : State}
    (others : ∀ other, other ≠ ebc → middle.pending other = s.pending other)
    (own : middle.pending ebc = after) (keeps : Keeps s middle lost)
    (answered : sent.filterMap Event.answered = answers)
    (done : cleanup ebc (middle, sent) = (t, events)) :
    Handled s t events ebc after lost answers := by
  unfold cleanup at done
  split at done
  · next none =>
      simp only [Prod.mk.injEq] at done
      have connections : ∀ other, (t.contexts other).pdnConnections =
          (middle.contexts other).pdnConnections := by
        intro other
        rw [← done.1, deleteSgwEpsBearerContext_eq none]
        simp only [Function.update_apply]
        split
        · next here => rw [here]
        · rfl
      have teids : ∀ sp, t.teidOf sp = middle.teidOf sp := by
        intro sp
        rw [← done.1, deleteSgwEpsBearerContext_eq none]
        rfl
      have pending : ∀ other, t.pending other = if other = ebc then [] else
          middle.pending other := by
        intro other
        rw [← done.1, deleteSgwEpsBearerContext_eq none]
        simp only [State.pending, Function.update_apply]
        split <;> rfl
      refine ⟨fun other different => ?_, .inr ⟨?_, fun sp held => ?_, ?_⟩, ?_, ?_⟩
      · rw [pending, if_neg different]
        exact others other different
      · rw [pending, if_pos rfl]
      · obtain ⟨key, present⟩ := held
        rw [connections] at present
        exact size_ne_zero present none
      · rw [← done.2]
        exact List.mem_append_right _ (List.mem_singleton_self _)
      · intro other sp held kept
        obtain ⟨still, same⟩ := keeps other sp held kept
        unfold HeldBy
        rw [connections, teids]
        exact ⟨still, same⟩
      · rw [← done.2, List.filterMap_append, answered]
        exact List.append_nil _
  · cases done
    exact ⟨others, .inl own, keeps, answered⟩

/-- A context that a local TEID leads to is not deleted for nothing. -/
theorem cleanup_routed (agree : Agree s)
    (routed : s.s5s8lteid2sgwContexts[teid]? = some (ebc, sp)) :
    cleanup ebc (s, sent) = (s, sent) := by
  unfold cleanup
  rw [if_neg]
  exact size_ne_zero (agree.routed teid ebc sp routed).2

theorem lookup_eq_none (routed : s.s5s8lteid2sgwContexts[teid]? = some (ebc, sp))
    (unknown : s.findProcedure ebc gtpcTxId = none) : s.lookup teid gtpcTxId = none := by
  simp only [lookup, routed, unknown, Option.map_none]

theorem lookup_eq_some (routed : s.s5s8lteid2sgwContexts[teid]? = some (ebc, sp))
    (found : s.findProcedure ebc gtpcTxId = some proc) :
    s.lookup teid gtpcTxId = some (ebc, sp, proc) := by
  simp only [lookup, routed, found, Option.map_some]

theorem of_lookup (known : s.lookup teid gtpcTxId = some (ebc, sp, proc)) :
    s.s5s8lteid2sgwContexts[teid]? = some (ebc, sp) ∧ s.findProcedure ebc gtpcTxId = some proc := by
  unfold lookup at known
  split at known
  · cases known
  · next ebc' sp' routed =>
      obtain ⟨found, same, equal⟩ := Option.map_eq_some_iff.mp known
      cases equal
      exact ⟨routed, same⟩

/-- An outcome is without effect, or it reaches a procedure, which meets its fate. -/
def Follows (s : State) (action : Action) (t : State) (events : List Event) : Prop :=
  s.reached action = none ∧ t = s ∧ events = [] ∨
    ∃ ebc sp proc fate answers, s.reached action = some (ebc, sp, proc) ∧
      fed action proc = some (fate, answers) ∧
      Handled s t events ebc (fate.after proc.address (s.pending ebc))
        (fun lost => lost = sp ∧ mayDelete action proc)
        (if answers then [proc.gtpcTxId] else [])

theorem pending_removeProcedure_self {address : Nat} :
    (s.removeProcedure ebc address).pending ebc = Fate.ends.after address (s.pending ebc) := by
  rw [pending_removeProcedure, if_pos rfl]
  rfl

theorem pending_removeProcedure_of_ne {address : Nat} (different : other ≠ ebc) :
    (s.removeProcedure ebc address).pending other = s.pending other := by
  rw [pending_removeProcedure, if_neg different]

/-- Ending a procedure after a connection may have been deleted. -/
theorem handled_removed {middle : State} {address : Nat} (agree : Agree s)
    (routed : s.s5s8lteid2sgwContexts[teid]? = some (ebc, sp))
    (pending : ∀ other, middle.pending other = s.pending other)
    (deleted : SameTables s middle ∨
      ∃ stored, SameTables s stored ∧ middle = stored.deletePdnConnection ebc sp ∧ lost sp)
    (answered : sent.filterMap Event.answered = answers)
    (done : cleanup ebc (middle.removeProcedure ebc address, sent) = (t, events)) :
    Handled s t events ebc (Fate.ends.after address (s.pending ebc))
      (fun gone => gone = sp ∧ lost gone) answers := by
  refine handled_cleanup (fun other different => ?_) ?_ ?_ answered done
  · rw [pending_removeProcedure_of_ne different]
    exact pending other
  · rw [pending_removeProcedure_self, pending]
  · have removed : SameTables middle (middle.removeProcedure ebc address) :=
      sameTables_removeProcedure
    rcases deleted with same | ⟨stored, same, deleted, gone⟩
    · exact (same.trans removed).keeps.mono fun _ impossible => impossible.elim
    · rw [deleted] at removed ⊢
      have routed : stored.s5s8lteid2sgwContexts[teid]? = some (ebc, sp) := by
        rw [same.s5s8Map]
        exact routed
      refine ((same.keeps.trans (keeps_deletePdnConnection (agree.same same) routed)).trans
        removed.keeps).mono ?_
      rintro lost ((impossible | here) | impossible)
      · exact impossible.elim
      · rw [here]
        exact ⟨rfl, gone⟩
      · exact impossible.elim

theorem follows_createSessionResponse {csresp : CreateSessionResponse} (agree : Agree s)
    (taken : step s (.createSessionResponse csresp) = some (t, events)) :
    Follows s (.createSessionResponse csresp) t events := by
  simp only [step, handleCreateSessionResponse] at taken
  split at taken
  · next ignored =>
      cases taken
      exact .inl ⟨if_pos ignored, rfl, rfl⟩
  · next kept =>
      have reached : s.reached (.createSessionResponse csresp) =
          s.lookup csresp.teid csresp.gtpcTxId := if_neg kept
      unfold Follows
      rw [reached]
      split at taken
      · next unknown =>
          cases taken
          exact .inl ⟨by simp only [lookup, unknown], rfl, rfl⟩
      · next ebc sp routed =>
          obtain ⟨⟨middle, sent⟩, answered, done⟩ := Option.map_eq_some_iff.mp taken
          unfold createSessionResponseInContext at answered
          split at answered
          · next unknown =>
              cases answered
              rw [cleanup_routed agree routed] at done
              cases done
              exact .inl ⟨lookup_eq_none routed unknown, rfl, rfl⟩
          · next proc found =>
              split at answered
              · next msg isCreate =>
                  refine .inr ⟨ebc, sp, proc, .ends, true, lookup_eq_some routed found, ?_, ?_⟩
                  · simp only [fed, isCreate]
                  · rw [Option.some.injEq, Prod.mk.injEq] at answered
                    rw [← answered.1, ← answered.2] at done
                    obtain ⟨stored, same, contexts, outcome⟩ := s.createSessionAnswered_fst
                      ebc sp msg proc.gtpcTxId csresp
                    refine handled_removed agree routed (fun other => ?_) ?_ rfl done
                    · rcases outcome with kept | ⟨-, deleted⟩
                      · rw [kept, pending, contexts]
                        rfl
                      · rw [deleted, pending_deletePdnConnection, pending, contexts]
                        rfl
                    · rcases outcome with kept | ⟨rejected, deleted⟩
                      · rw [kept]
                        exact .inl same
                      · exact .inr ⟨stored, same, deleted, rejected⟩
              · cases answered

theorem follows_deleteSessionResponse {dsresp : CauseResponse} (agree : Agree s)
    (taken : step s (.deleteSessionResponse dsresp) = some (t, events)) :
    Follows s (.deleteSessionResponse dsresp) t events := by
  simp only [step, handleDeleteSessionResponse] at taken
  split at taken
  · next unknown =>
      cases taken
      exact .inl ⟨by simp only [reached, lookup, unknown], rfl, rfl⟩
  · next ebc sp routed =>
      obtain ⟨⟨middle, sent⟩, answered, done⟩ := Option.map_eq_some_iff.mp taken
      unfold deleteSessionResponseInContext at answered
      split at answered
      · next unknown =>
          cases answered
          rw [cleanup_routed agree routed] at done
          cases done
          exact .inl ⟨lookup_eq_none routed unknown, rfl, rfl⟩
      · next proc found =>
          split at answered
          · next msg asked isDelete =>
              refine .inr ⟨ebc, sp, proc, .ends, true, lookup_eq_some routed found, ?_, ?_⟩
              · simp only [fed, isDelete]
              · cases answered
                refine handled_removed agree routed (fun other => ?_) ?_ rfl done
                · exact pending_deletePdnConnection
                · exact .inr ⟨s, .refl s, rfl, trivial⟩
          · cases answered

theorem follows_remotePeerNotResponding {resp : RemotePeerNotResponding} (agree : Agree s)
    (taken : step s (.remotePeerNotResponding resp) = some (t, events)) :
    Follows s (.remotePeerNotResponding resp) t events := by
  simp only [step, handleRemotePeerNotResponding, Option.some.injEq] at taken
  split at taken
  · next zero =>
      cases taken
      exact .inl ⟨if_pos zero, rfl, rfl⟩
  · next positive =>
      have reached : s.reached (.remotePeerNotResponding resp) =
          s.lookup resp.lTeid resp.gtpcTxId := if_neg positive
      unfold Follows
      rw [reached]
      split at taken
      · next unknown =>
          cases taken
          exact .inl ⟨by simp only [lookup, unknown], rfl, rfl⟩
      · next ebc sp routed =>
          unfold remotePeerNotRespondingInContext at taken
          split at taken
          · next unknown =>
              rw [cleanup_routed agree routed] at taken
              cases taken
              exact .inl ⟨lookup_eq_none routed unknown, rfl, rfl⟩
          · next proc found =>
              have known := lookup_eq_some routed found
              split at taken
              · next msg isCreate =>
                  refine .inr ⟨ebc, sp, proc, .ends, true, known, ?_, ?_⟩
                  · simp only [fed, isCreate]
                  · refine handled_removed agree routed (fun other => ?_) ?_ rfl taken
                    · split
                      · exact pending_deletePdnConnection
                      · rfl
                    · split
                      · exact .inr ⟨s, .refl s, rfl, by simp only [mayDelete, isCreate]⟩
                      · exact .inl (.refl s)
              · next notCreate =>
                  refine .inr ⟨ebc, sp, proc, .ends, false, known, ?_, ?_⟩
                  · cases kind : proc.kind with
                    | createSession msg => exact absurd kind (notCreate msg)
                    | modifyBearer => simp only [fed, kind]
                    | releaseAccessBearers => simp only [fed, kind]
                    | deleteSession => simp only [fed, kind]
                    | downlinkDataNotification => simp only [fed, kind]
                  · exact handled_removed agree routed (fun _ => rfl) (.inl (.refl s)) rfl taken

/-- A response that ends the procedure for its want of a cause, or leaves it. -/
theorem pending_removeWithoutCause {address : Nat} {cause : Option Nat} :
    (s.removeWithoutCause ebc address cause).pending other =
      if other = ebc then (if cause = none then Fate.ends else .stays).after address (s.pending ebc)
      else s.pending other := by
  unfold removeWithoutCause
  split
  · exact pending_removeProcedure
  · split
    · next here =>
        rw [here]
        rfl
    · rfl

/-- Ending a procedure that was written before. -/
theorem ends_after_becomes {address : Nat} {kind : ProcedureKind} {pending : List Procedure}
    (separate : Separate pending) :
    Fate.ends.after address ((Fate.becomes kind).after address pending) =
      Fate.ends.after address pending := by
  unfold Fate.after
  simp only
  induction pending with
  | nil => rfl
  | cons first rest inductionHypothesis =>
      have ⟨apart, separate⟩ := List.pairwise_cons.mp separate
      rw [List.map_cons]
      by_cases here : first.address = address
      · rw [if_pos here, List.eraseP_cons_of_pos (by simpa using here),
          List.eraseP_cons_of_pos (by simpa using here)]
        calc rest.map (fun proc =>
              if proc.address = address then { proc with kind := kind } else proc)
            = rest.map id := by
              refine List.map_congr_left fun other member => if_neg fun same => ?_
              exact (apart other member).1 (here.trans same.symm)
          _ = rest := List.map_id rest
      · rw [if_neg here, List.eraseP_cons_of_neg (by simpa using here),
          List.eraseP_cons_of_neg (by simpa using here), inductionHypothesis separate]

/-- The pending procedures after a response to a Modify Bearer procedure. -/
theorem pending_modifyBearerAnswered {request : ModifyBearerRequest}
    {pdnBearers : List PdnBearersToBeXied} {modified : List BearerContextModified}
    {marked : List BearerContextMarkedForRemoval} {s5resp : ModifyBearerResponse}
    (separate : Separate (s.pending ebc)) :
    (s.modifyBearerAnswered ebc proc request pdnBearers modified marked s5resp).1.pending other =
      if other = ebc then
        (fedModify request pdnBearers modified marked s5resp).1.after proc.address (s.pending ebc)
      else
        s.pending other := by
  unfold modifyBearerAnswered fedModify
  cases pdnBearers.find? fun px => px.gtpcTxId == s5resp.gtpcTxId with
  | none => exact pending_removeWithoutCause
  | some px =>
      cases pdnBearers.eraseP fun px => px.gtpcTxId == s5resp.gtpcTxId with
      | nil => exact pending_removeProcedure
      | cons left more =>
          simp only
          rw [pending_removeWithoutCause]
          split
          · rw [pending_setProcedure, if_pos rfl]
            split
            · exact ends_after_becomes separate
            · rfl
          · next elsewhere => rw [pending_setProcedure, if_neg elsewhere]

theorem answered_modifyBearerAnswered {request : ModifyBearerRequest}
    {pdnBearers : List PdnBearersToBeXied} {modified : List BearerContextModified}
    {marked : List BearerContextMarkedForRemoval} {s5resp : ModifyBearerResponse} :
    (s.modifyBearerAnswered ebc proc request pdnBearers modified marked s5resp).2.filterMap
        Event.answered =
      if (fedModify request pdnBearers modified marked s5resp).2 then [proc.gtpcTxId] else [] := by
  unfold modifyBearerAnswered fedModify
  cases pdnBearers.find? fun px => px.gtpcTxId == s5resp.gtpcTxId with
  | none => rfl
  | some px =>
      cases pdnBearers.eraseP fun px => px.gtpcTxId == s5resp.gtpcTxId with
      | nil => rfl
      | cons left more => rfl

theorem follows_modifyBearerResponse {s5resp : ModifyBearerResponse}
    (separate : ∀ ebc, Separate (s.pending ebc))
    (taken : step s (.modifyBearerResponse s5resp) = some (t, events)) :
    Follows s (.modifyBearerResponse s5resp) t events := by
  have same := sameTables_step rfl taken
  simp only [step, handleModifyBearerResponse] at taken
  split at taken
  · next unknown =>
      cases taken
      exact .inl ⟨by simp only [reached, lookup, unknown], rfl, rfl⟩
  · next ebc sp routed =>
      unfold modifyBearerResponseInContext at taken
      split at taken
      · next unknown =>
          cases taken
          exact .inl ⟨lookup_eq_none routed unknown, rfl, rfl⟩
      · next proc found =>
          split at taken
          · next request pdnBearers modified marked isModify =>
              simp only [Option.some.injEq, Prod.ext_iff] at taken
              refine .inr ⟨ebc, sp, proc, (fedModify request pdnBearers modified marked s5resp).1,
                (fedModify request pdnBearers modified marked s5resp).2,
                lookup_eq_some routed found, by simp only [fed, isModify], ?_⟩
              refine ⟨fun other different => ?_, .inl ?_, ?_, ?_⟩
              · rw [← taken.1, pending_modifyBearerAnswered (separate ebc), if_neg different]
              · rw [← taken.1, pending_modifyBearerAnswered (separate ebc), if_pos rfl]
              · exact same.keeps.mono fun _ impossible => impossible.elim
              · rw [← taken.2, answered_modifyBearerAnswered]
          · cases taken

theorem follows_releaseAccessBearersResponse {s5resp : CauseResponse}
    (taken : step s (.releaseAccessBearersResponse s5resp) = some (t, events)) :
    Follows s (.releaseAccessBearersResponse s5resp) t events := by
  have same := sameTables_step rfl taken
  simp only [step, handleReleaseAccessBearersResponse] at taken
  split at taken
  · next unknown =>
      cases taken
      exact .inl ⟨by simp only [reached, lookup, unknown], rfl, rfl⟩
  · next ebc sp routed =>
      unfold releaseAccessBearersResponseInContext at taken
      split at taken
      · next unknown =>
          cases taken
          exact .inl ⟨lookup_eq_none routed unknown, rfl, rfl⟩
      · next proc found =>
          split at taken
          · next request bearers cause isRelease =>
              simp only [Option.some.injEq, Prod.ext_iff] at taken
              refine .inr ⟨ebc, sp, proc, (fedRelease request bearers cause s5resp).1,
                (fedRelease request bearers cause s5resp).2,
                lookup_eq_some routed found, by simp only [fed, isRelease], ?_⟩
              have pending : ∀ other, t.pending other = if other = ebc then
                  (fedRelease request bearers cause s5resp).1.after proc.address (s.pending ebc)
                  else s.pending other := by
                intro other
                rw [← taken.1]
                unfold releaseAccessBearersAnswered fedRelease
                by_cases noted : (bearers.any fun px => px.gtpcTxId == s5resp.gtpcTxId) = true
                · rw [if_pos noted, if_pos noted]
                  exact pending_setProcedure
                · rw [if_neg noted, if_neg noted]
                  split
                  · next here =>
                      rw [here]
                      rfl
                  · rfl
              refine ⟨fun other different => ?_, .inl ?_, ?_, ?_⟩
              · rw [pending, if_neg different]
              · rw [pending, if_pos rfl]
              · exact same.keeps.mono fun _ impossible => impossible.elim
              · rw [← taken.2]
                unfold releaseAccessBearersAnswered fedRelease
                by_cases noted : (bearers.any fun px => px.gtpcTxId == s5resp.gtpcTxId) = true
                · rw [if_pos noted, if_pos noted]
                  simp only [decide_eq_true_eq]
                  split <;> rfl
                · rw [if_neg noted, if_neg noted]
                  rfl
          · cases taken

/-- The messages that report the outcome of an S5/S8 request. -/
def isOutcome : Action → Bool
  | .createSessionResponse _ => true
  | .deleteSessionResponse _ => true
  | .modifyBearerResponse _ => true
  | .releaseAccessBearersResponse _ => true
  | .remotePeerNotResponding _ => true
  | _ => false

theorem follows_step (agree : Agree s) (separate : ∀ ebc, Separate (s.pending ebc))
    (outcome : isOutcome action = true) (taken : step s action = some (t, events)) :
    Follows s action t events := by
  cases action with
  | createSessionResponse csresp => exact follows_createSessionResponse agree taken
  | deleteSessionResponse dsresp => exact follows_deleteSessionResponse agree taken
  | modifyBearerResponse s5resp => exact follows_modifyBearerResponse separate taken
  | releaseAccessBearersResponse s5resp => exact follows_releaseAccessBearersResponse taken
  | remotePeerNotResponding resp => exact follows_remotePeerNotResponding agree taken
  | createSession request => cases outcome
  | modifyBearer request uids => cases outcome
  | releaseAccessBearers request => cases outcome
  | deleteSession request => cases outcome
  | downlinkDataNotificationAcknowledge ack => cases outcome
  | downlinkDataNotification ddn => cases outcome

end State

end OpenairSpgwc.Sgw
