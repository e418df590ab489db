import OpenairSpgwc.Sgw.Pending

/-!
Contract: the Release Access Bearers procedure, from the request of the MME to
the last response of the PGW.

Owns:
- `Aggregates`, one S11 response with the last of the S5/S8 responses, with a
  cause that does not depend on their order, and the end of the procedure;
- what the procedure does: one S11 response when the last one has arrived;
- that it never ends.
-/

namespace OpenairSpgwc.Sgw

open Foundation
open Std (ExtTreeMap)

namespace State

variable {s t : State} {ebc : Nat} {request : ReleaseAccessBearersRequest}
  {records : List (StepRecord State Action Event)}

/-- The response of the PGW for a connection, and its cause. -/
def releaseAnswer (s : State) (gtpcTxId : Nat) (answer : Nat × Nat) : Action :=
  .releaseAccessBearersResponse
    { gtpcTxId := gtpcTxId, teid := s.teidOf answer.1, cause := some answer.2 }

/-- The request, and the responses in the order they arrive. -/
def releaseScenario (s : State) (request : ReleaseAccessBearersRequest)
    (arrived : List (Nat × Nat)) : List Action :=
  .releaseAccessBearers request :: arrived.map (s.releaseAnswer request.gtpcTxId)

/-- The causes of the S11 responses to a transaction. -/
def releaseCauses (gtpcTxId : Nat) (events : List Event) : List (Option Nat) :=
  events.filterMap fun event =>
    match event with
    | .s11ReleaseAccessBearersResponse response =>
        if response.gtpcTxId = gtpcTxId then some response.cause else none
    | _ => none

/-- The last step sends the only response, and the others none. -/
def AnsweredAtLast (gtpcTxId cause : Nat) (records : List (StepRecord State Action Event)) :
    Prop :=
  releaseCauses gtpcTxId (trace records.dropLast) = [] ∧
    (records.getLast?.map fun last => releaseCauses gtpcTxId last.events) = some [some cause]

instance (gtpcTxId cause : Nat) (records : List (StepRecord State Action Event)) :
    Decidable (AnsweredAtLast gtpcTxId cause records) :=
  inferInstanceAs (Decidable (_ ∧ _))

/-- Whatever the PGW answers for each connection, there is one cause that is sent
for every order of the answers, accepting only if all of them do, and the
procedure is gone after the last one. -/
def Aggregates (s : State) (ebc : Nat) (request : ReleaseAccessBearersRequest) : Prop :=
  ∀ answers : List (Nat × Nat), (answers.map Prod.fst).Perm (s.toRelease ebc) →
    ∃ cause,
      (∀ arrived, arrived.Perm answers →
        Passes step s (s.releaseScenario request arrived) fun records finish =>
          AnsweredAtLast request.gtpcTxId cause records ∧
            finish.findProcedure ebc request.gtpcTxId = none) ∧
      (cause = requestAccepted → ∀ answer ∈ answers, answer.2 = requestAccepted)

/-! ### The procedure stays -/

/-- Some procedure of the context has the transaction. -/
def Busy (s : State) (ebc gtpcTxId : Nat) : Prop :=
  ∃ proc ∈ s.pending ebc, proc.gtpcTxId = gtpcTxId

theorem findProcedure_of_busy {gtpcTxId : Nat} (busy : Busy s ebc gtpcTxId) :
    s.findProcedure ebc gtpcTxId ≠ none := by
  obtain ⟨proc, member, own⟩ := busy
  intro none
  have misses := List.find?_eq_none.mp none proc member
  rw [Procedure.hasTrxnId, own, beq_self_eq_true, Bool.true_or] at misses
  exact misses rfl

/-- A Release Access Bearers Response ends no procedure. -/
theorem busy_releaseResponse {gtpcTxId : Nat} {s5resp : CauseResponse} {events : List Event}
    (busy : Busy s ebc gtpcTxId)
    (taken : step s (.releaseAccessBearersResponse s5resp) = some (t, events)) :
    Busy t ebc gtpcTxId := by
  obtain ⟨proc, member, own⟩ := busy
  simp only [step, handleReleaseAccessBearersResponse] at taken
  split at taken
  · cases taken
    exact ⟨proc, member, own⟩
  · unfold releaseAccessBearersResponseInContext at taken
    split at taken
    · cases taken
      exact ⟨proc, member, own⟩
    · split at taken
      · simp only [Option.some.injEq, Prod.ext_iff] at taken
        rw [← taken.1]
        unfold releaseAccessBearersAnswered
        split
        · simp only
          rw [Busy, pending_setProcedure]
          split
          · next here =>
              rw [here] at member
              refine ⟨_, List.mem_map_of_mem member, ?_⟩
              split <;> exact own
          · exact ⟨proc, member, own⟩
        · exact ⟨proc, member, own⟩
      · cases taken

theorem busy_scenario {gtpcTxId : Nat} {finish : State} {base : State} {arrived : List (Nat × Nat)}
    (busy : Busy s ebc gtpcTxId)
    (executed : execute step s (arrived.map (base.releaseAnswer gtpcTxId)) =
      some (records, finish)) : Busy finish ebc gtpcTxId := by
  induction arrived generalizing s records with
  | nil =>
      cases executed
      exact busy
  | cons answer arrived inductionHypothesis =>
      rw [List.map_cons, execute] at executed
      split at executed
      · cases executed
      · next next events taken =>
          split at executed
          · cases executed
          · next rest final continued =>
              cases executed
              exact inductionHypothesis (busy_releaseResponse busy taken) continued

theorem step_release (sound : Sound s) (known : s.s11Context request.teid = some ebc)
    (idle : s.findProcedure ebc request.gtpcTxId = none) :
    step s (.releaseAccessBearers request) = some (s.runReleaseAccessBearers ebc ebc request) := by
  simp only [step, handleReleaseAccessBearersRequest, known, releaseAccessBearersInContext, idle,
    sound.runContext known, Option.isSome_none, Bool.false_eq_true, ↓reduceIte]

/-! ### One response, with the last one -/

/-- The cause that is sent after these answers. -/
def releasedCause (cause : Nat) (arrived : List (Nat × Nat)) : Nat :=
  arrived.foldl (fun cause answer => causeOfReleased cause (some answer.2)) cause

/-- The procedure is the last one of its context, and no other has its transaction. -/
structure Releasing (s : State) (ebc gtpcTxId address : Nat) (request : ReleaseAccessBearersRequest)
    (bearers : List BearersToBeReleased) (cause : Nat) : Prop where
  others : ∃ earlier, s.pending ebc = earlier ++
      [⟨address, gtpcTxId, ebc, .releaseAccessBearers request bearers cause⟩] ∧
    ∀ proc ∈ earlier, proc.address ≠ address ∧ proc.hasTrxnId gtpcTxId = false
  own : ∀ px ∈ bearers, px.gtpcTxId = gtpcTxId

variable {gtpcTxId address cause : Nat} {bearers : List BearersToBeReleased}

theorem Releasing.findProcedure
    (releasing : Releasing s ebc gtpcTxId address request bearers cause) :
    s.findProcedure ebc gtpcTxId =
      some ⟨address, gtpcTxId, ebc, .releaseAccessBearers request bearers cause⟩ := by
  obtain ⟨earlier, shape, others⟩ := releasing.others
  have none : (earlier.find? fun proc => proc.hasTrxnId gtpcTxId) = Option.none := by
    rw [List.find?_eq_none]
    intro proc member
    rw [(others proc member).2]
    exact Bool.false_ne_true
  unfold State.findProcedure
  rw [show (s.contexts ebc).pendingProcedures = _ from shape, List.find?_append, none,
    Option.none_or, List.find?_singleton, Procedure.hasTrxnId]
  simp

theorem Releasing.busy (releasing : Releasing s ebc gtpcTxId address request bearers cause) :
    Busy s ebc gtpcTxId := by
  obtain ⟨earlier, shape, -⟩ := releasing.others
  rw [Busy, shape]
  exact ⟨_, List.mem_append_right _ (List.mem_singleton_self _), rfl⟩

/-- One more answer: the first element is taken, and the response sent when it was the last. -/
theorem Releasing.step_answer {px : BearersToBeReleased} {answer : Nat × Nat}
    (releasing : Releasing s ebc gtpcTxId address request (px :: bearers) cause) (base : State)
    (routed : s.s5s8lteid2sgwContexts[base.teidOf answer.1]? = some (ebc, answer.1)) :
    ∃ t, step s (base.releaseAnswer gtpcTxId answer) = some (t,
        if bearers = [] then
          [.s11ReleaseAccessBearersResponse
            { gtpcTxId := gtpcTxId
              teid := (s.contexts ebc).mmeFteidS11.teidGreKey
              cause := some (causeOfReleased cause (some answer.2)) }]
        else
          []) ∧
      t.s5s8lteid2sgwContexts = s.s5s8lteid2sgwContexts ∧
      Releasing t ebc gtpcTxId address request bearers (causeOfReleased cause (some answer.2)) := by
  have first : px.gtpcTxId = gtpcTxId := releasing.own px (List.mem_cons_self ..)
  have left : (px :: bearers).eraseP (fun px => px.gtpcTxId == gtpcTxId) = bearers := by
    rw [List.eraseP_cons_of_pos (by rw [first, beq_self_eq_true])]
  have asked : ((px :: bearers).any fun px => px.gtpcTxId == gtpcTxId) = true := by
    rw [List.any_cons, first, beq_self_eq_true, Bool.true_or]
  refine ⟨s.setProcedure ebc address (.releaseAccessBearers request bearers
    (causeOfReleased cause (some answer.2))), ?_, rfl, ?_⟩
  · simp only [step, releaseAnswer, handleReleaseAccessBearersResponse, routed,
      releaseAccessBearersResponseInContext, releasing.findProcedure, releaseAccessBearersAnswered,
      asked, left, ↓reduceIte]
  · obtain ⟨earlier, shape, others⟩ := releasing.others
    refine ⟨⟨earlier, ?_, others⟩,
        fun px member => releasing.own px (List.mem_cons_of_mem _ member)⟩
    rw [pending_setProcedure, if_pos rfl, shape, List.map_append, List.map_singleton, if_pos rfl]
    congr 1
    calc earlier.map _ = earlier.map id :=
          List.map_congr_left fun proc member => if_neg (others proc member).1
      _ = earlier := List.map_id earlier

theorem AnsweredAtLast.cons {record : StepRecord State Action Event}
    (quiet : releaseCauses gtpcTxId record.events = [])
    (answered : AnsweredAtLast gtpcTxId cause records) :
    AnsweredAtLast gtpcTxId cause (record :: records) := by
  obtain ⟨none, last⟩ := answered
  have more : records ≠ [] := by
    intro empty
    rw [empty] at last
    cases last
  constructor
  · rw [List.dropLast_cons_of_ne_nil more]
    unfold releaseCauses at *
    rw [trace, List.flatMap_cons, List.filterMap_append, quiet]
    exact none
  · rw [List.getLast?_cons_of_ne_nil more]
    exact last

/-- The answers may come in any order: the procedure answers with the last one. -/
theorem Releasing.answered (releasing : Releasing s ebc gtpcTxId address request bearers cause)
    (base : State) {arrived : List (Nat × Nat)}
    (each : bearers.length = arrived.length) (arrives : arrived ≠ [])
    (routed : ∀ answer ∈ arrived,
      s.s5s8lteid2sgwContexts[base.teidOf answer.1]? = some (ebc, answer.1)) :
    Passes step s (arrived.map (base.releaseAnswer gtpcTxId)) fun records finish =>
      AnsweredAtLast gtpcTxId (releasedCause cause arrived) records ∧ Busy finish ebc gtpcTxId := by
  induction arrived generalizing s bearers cause with
  | nil => exact absurd rfl arrives
  | cons answer arrived inductionHypothesis =>
      cases bearers with
      | nil => cases each
      | cons px bearers =>
          obtain ⟨t, taken, sameMap, next⟩ := releasing.step_answer base
            (routed answer (List.mem_cons_self ..))
          rw [List.length_cons, List.length_cons, Nat.add_right_cancel_iff] at each
          by_cases last : arrived = []
          · have empty : bearers = [] := by
              rw [last] at each
              exact List.length_eq_zero_iff.mp each
            rw [if_pos empty] at taken
            rw [last]
            refine ⟨_, t, execute_cons taken rfl, ⟨rfl, ?_⟩, ?_⟩
            · simp [releaseCauses, releasedCause]
            · exact next.busy
          · have more : bearers ≠ [] := by
              intro empty
              rw [empty] at each
              exact last (List.length_eq_zero_iff.mp each.symm)
            rw [if_neg more] at taken
            obtain ⟨records, finish, executed, answered, busy⟩ := inductionHypothesis next each last
              (by
                intro answer member
                rw [sameMap]
                exact routed answer (List.mem_cons_of_mem _ member))
            exact ⟨_, finish, execute_cons taken executed, answered.cons rfl, busy⟩

/-- For a UE with connections to release exactly one response is sent, when the
last answer has arrived, whatever the order; the procedure is still there then. -/
theorem release_answered_at_last (run : Run step init records s)
    (known : s.s11Context request.teid = some ebc)
    (idle : s.findProcedure ebc request.gtpcTxId = none)
    (routed : ∀ sp ∈ s.toRelease ebc, s.s5s8lteid2sgwContexts[s.teidOf sp]? = some (ebc, sp))
    (sends : s.toRelease ebc ≠ []) {arrived : List (Nat × Nat)}
    (arrives : (arrived.map Prod.fst).Perm (s.toRelease ebc)) :
    Passes step s (s.releaseScenario request arrived) fun records finish =>
      AnsweredAtLast request.gtpcTxId (releasedCause 0 arrived) records ∧
        Busy finish ebc request.gtpcTxId := by
  have sound := sound_of_run run
  have taken := step_release sound known idle
  unfold runReleaseAccessBearers at taken
  split at taken
  · next nothing => exact absurd nothing sends
  · next sp rest shape =>
      have releasing : Releasing (s.insertProcedure ebc request.gtpcTxId ebc
          (.releaseAccessBearers request
            ((sp :: rest).map fun pdn => ⟨pdn, request.gtpcTxId⟩) 0)) ebc request.gtpcTxId
          s.nextAddress request ((sp :: rest).map fun pdn => ⟨pdn, request.gtpcTxId⟩) 0 := by
        refine ⟨⟨s.pending ebc, ?_, fun proc member => ?_⟩, fun px member => ?_⟩
        · rw [pending_insertProcedure, if_pos rfl]
        · refine ⟨(sound.older ebc proc member).ne, ?_⟩
          exact Bool.eq_false_iff.mpr (List.find?_eq_none.mp idle proc member)
        · obtain ⟨pdn, -, made⟩ := List.mem_map.mp member
          rw [← made]
      have length := arrives.length_eq
      rw [List.length_map, shape] at length
      obtain ⟨shown, finish, executed, answered, busy⟩ := releasing.answered s
        (by rw [List.length_map, length])
        (by
          intro empty
          rw [empty] at length
          cases length)
        (fun answer member => routed answer.1 (arrives.mem_iff.mp (List.mem_map_of_mem member)))
      refine ⟨_, finish, execute_cons taken executed, answered.cons ?_, busy⟩
      simp [releaseCauses, List.filterMap_map]

/-- Only a UE without a connection to release is answered and left without a procedure. -/
theorem aggregates_iff_nothing_to_release (run : Run step init records s)
    (known : s.s11Context request.teid = some ebc)
    (idle : s.findProcedure ebc request.gtpcTxId = none) :
    Aggregates s ebc request ↔ s.toRelease ebc = [] := by
  have taken := step_release (sound_of_run run) known idle
  constructor
  · intro aggregates
    by_contra sends
    obtain ⟨cause, all, -⟩ := aggregates ((s.toRelease ebc).map fun sp => (sp, requestAccepted))
      (by simp [Function.comp_def])
    obtain ⟨shown, finish, executed, -, gone⟩ := all _ (List.Perm.refl _)
    rw [releaseScenario, execute, taken] at executed
    simp only at executed
    split at executed
    · cases executed
    · next rest final continued =>
        cases executed
        refine findProcedure_of_busy (busy_scenario ?_ continued) gone
        unfold runReleaseAccessBearers
        split
        · next nothing => exact absurd nothing sends
        · simp only
          rw [Busy, pending_insertProcedure, if_pos rfl]
          exact ⟨_, List.mem_append_right _ (List.mem_singleton_self _), rfl⟩
  · intro nothing answers arrives
    rw [nothing, List.perm_nil, List.map_eq_nil_iff] at arrives
    rw [arrives]
    refine ⟨requestAccepted, fun arrived order => ?_, fun _ answer member => by cases member⟩
    rw [List.perm_nil.mp order]
    unfold runReleaseAccessBearers at taken
    rw [nothing] at taken
    have executed : execute step s (s.releaseScenario request []) =
        some ([⟨s, .releaseAccessBearers request, s,
          [.s11ReleaseAccessBearersResponse
            { gtpcTxId := request.gtpcTxId
              teid := (s.contexts ebc).mmeFteidS11.teidGreKey
              cause := some requestAccepted }]⟩], s) := by
      rw [releaseScenario, List.map_nil, execute, taken]
      rfl
    refine ⟨_, s, executed, ⟨rfl, ?_⟩, idle⟩
    simp [releaseCauses]

/-- A UE with one connection is answered and keeps the procedure. -/
theorem not_aggregates_one_connection :
    ∃ records s, Run step init records s ∧ s.toRelease 0 = [2] ∧
      ¬Aggregates s 0 { gtpcTxId := 3, teid := 1 } := by
  obtain ⟨records, s, run, known, idle, released⟩ := Run.exists_of_passes step init
    (attachActions 1 0 1 5 "internet" 1)
    (fun _ s => s.s11Context 1 = some 0 ∧ s.findProcedure 0 3 = none ∧ s.toRelease 0 = [2])
    (by decide)
  refine ⟨records, s, run, released, ?_⟩
  rw [aggregates_iff_nothing_to_release run known idle, released]
  exact List.cons_ne_nil _ _

/-- A scenario sends one cause. -/
theorem cause_unique {actions : List Action} {first second : Nat}
    {Test : List (StepRecord State Action Event) → State → Prop}
    (one : Passes step s actions fun records finish =>
      AnsweredAtLast gtpcTxId first records ∧ Test records finish)
    (other : Passes step s actions fun records _ => AnsweredAtLast gtpcTxId second records) :
    first = second := by
  obtain ⟨records, finish, executed, ⟨-, last⟩, -⟩ := one
  obtain ⟨records', finish', executed', -, last'⟩ := other
  rw [executed] at executed'
  cases executed'
  rw [last] at last'
  simpa using last'

/-- Two connections: with a system failure first the cause is a rejection, with
it last the request is accepted partially, and the procedure is there after both. -/
theorem release_depends_on_order :
    ∃ records s, Run step init records s ∧ s.s11Context 1 = some 0 ∧
      s.findProcedure 0 3 = none ∧ ¬Aggregates s 0 { gtpcTxId := 3, teid := 1 } := by
  obtain ⟨records, s, run, known, idle, released, first, second⟩ := Run.exists_of_passes step init
    (attachActions 1 0 1 5 "internet" 1 ++ attachActions 2 1 1 6 "ims" 2)
    (fun _ s => s.s11Context 1 = some 0 ∧ s.findProcedure 0 3 = none ∧
      ([(2, systemFailure), (4, requestAccepted)].map Prod.fst).Perm (s.toRelease 0) ∧
      Passes step s (s.releaseScenario { gtpcTxId := 3, teid := 1 }
        [(2, systemFailure), (4, requestAccepted)])
        (fun records _ => AnsweredAtLast 3 systemFailure records) ∧
      Passes step s (s.releaseScenario { gtpcTxId := 3, teid := 1 }
        [(4, requestAccepted), (2, systemFailure)])
        (fun records _ => AnsweredAtLast 3 requestAcceptedPartially records)) (by decide)
  refine ⟨records, s, run, known, idle, fun aggregates => ?_⟩
  obtain ⟨cause, all, -⟩ := aggregates _ released
  have failure : cause = systemFailure := cause_unique (all _ (List.Perm.refl _)) first
  have partially : cause = requestAcceptedPartially :=
    cause_unique (all _ (List.Perm.swap _ _ _)) second
  rw [failure] at partially
  exact absurd partially (by decide)

end State

end OpenairSpgwc.Sgw
