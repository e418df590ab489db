import Mathlib.Tactic

/-!
Contract: finite runs of a partial, observed transition function.

A system is a function `step : σ → α → Option (σ × List ε)`: from a state and
an action to the next state and the events of the step, or `none` where the
action is not possible there. `Run` keeps one record for each step, so that a
statement can speak of every state passed, of the action taken there and of
the events so far.

Owns:
- the invariant rules along a run, with and without a side condition on the steps;
- the equivalence of a property of all records with a condition on all steps;
- forward simulation by another system with the same actions and events;
- the executable run used to evaluate a concrete scenario.
-/

namespace OpenairSpgwc.Foundation

/-- One executed step. -/
structure StepRecord (σ α ε : Type*) where
  before : σ
  action : α
  after : σ
  events : List ε

/-- `Run step start records finish`: the records of a run, oldest first. -/
inductive Run {σ α ε : Type*} (step : σ → α → Option (σ × List ε)) (start : σ) :
    List (StepRecord σ α ε) → σ → Prop where
  | nil : Run step start [] start
  | snoc {records : List (StepRecord σ α ε)} {state next : σ} {action : α} {events : List ε}
      (earlier : Run step start records state)
      (taken : step state action = some (next, events)) :
      Run step start (records ++ [⟨state, action, next, events⟩]) next

/-- All events of a run, oldest first. -/
def trace {σ α ε : Type*} (records : List (StepRecord σ α ε)) : List ε :=
  records.flatMap StepRecord.events

/-- Execute a list of actions; `none` as soon as one is not possible. -/
def execute {σ α ε : Type*} (step : σ → α → Option (σ × List ε)) :
    σ → List α → Option (List (StepRecord σ α ε) × σ)
  | state, [] => some ([], state)
  | state, action :: actions =>
      match step state action with
      | none => none
      | some (next, events) =>
          match execute step next actions with
          | none => none
          | some (records, finish) => some (⟨state, action, next, events⟩ :: records, finish)

section Basic

variable {σ α ε : Type*} {step : σ → α → Option (σ × List ε)} {start finish : σ}
  {records : List (StepRecord σ α ε)}

@[simp] theorem trace_nil : trace ([] : List (StepRecord σ α ε)) = [] := rfl

@[simp] theorem trace_append (left right : List (StepRecord σ α ε)) :
    trace (left ++ right) = trace left ++ trace right := by
  simp [trace]

@[simp] theorem trace_singleton (record : StepRecord σ α ε) :
    trace [record] = record.events := by
  simp [trace]

theorem mem_trace {event : ε} :
    event ∈ trace records ↔ ∃ record ∈ records, event ∈ record.events := by
  simp [trace]

theorem Run.append {middle : σ} {later : List (StepRecord σ α ε)}
    (first : Run step start records middle) (second : Run step middle later finish) :
    Run step start (records ++ later) finish := by
  induction second with
  | nil => simpa using first
  | snoc _ taken inductionHypothesis =>
      rw [← List.append_assoc]
      exact inductionHypothesis.snoc taken

/-- A run split at any record list boundary is two runs. -/
theorem Run.split {first second : List (StepRecord σ α ε)}
    (run : Run step start (first ++ second) finish) :
    ∃ middle, Run step start first middle ∧ Run step middle second finish := by
  induction second using List.reverseRecOn generalizing finish with
  | nil => exact ⟨finish, by simpa using run, .nil⟩
  | append_singleton second record inductionHypothesis =>
      rw [← List.append_assoc] at run
      generalize combined : first ++ second ++ [record] = all at run
      cases run with
      | nil => simp at combined
      | snoc earlier taken =>
          obtain ⟨same, rfl⟩ := List.append_inj' combined rfl |>.imp_right List.singleton_inj.mp
          obtain ⟨middle, left, right⟩ := inductionHypothesis (same ▸ earlier)
          exact ⟨middle, left, right.snoc taken⟩

theorem Run.eq_of_nil (run : Run step start [] finish) : finish = start := by
  generalize empty : ([] : List (StepRecord σ α ε)) = records at run
  cases run with
  | nil => rfl
  | snoc _ _ => simp at empty

/-- A run at one of its records: what came before, the step, and what comes after. -/
theorem Run.at_record {earlier later : List (StepRecord σ α ε)} {record : StepRecord σ α ε}
    (run : Run step start (earlier ++ record :: later) finish) :
    Run step start earlier record.before ∧
      step record.before record.action = some (record.after, record.events) ∧
      Run step record.after later finish := by
  obtain ⟨middle, before, rest⟩ := run.split
  obtain ⟨next, one, after⟩ := (show Run step middle ([record] ++ later) finish from rest).split
  generalize single : [record] = records at one
  cases one with
  | nil => cases single
  | snoc none taken =>
      obtain ⟨rfl, same⟩ := List.append_inj' (show [] ++ [record] = _ from single) rfl
      obtain rfl := List.singleton_inj.mp same
      rw [none.eq_of_nil] at taken ⊢
      exact ⟨before, taken, after⟩

/-- Every record of a run is a step that was taken. -/
theorem Run.taken (run : Run step start records finish) :
    ∀ record ∈ records, step record.before record.action = some (record.after, record.events) := by
  induction run with
  | nil => simp
  | snoc _ taken inductionHypothesis =>
      intro record member
      rcases List.mem_append.mp member with member | member
      · exact inductionHypothesis record member
      · rw [List.mem_singleton.mp member]
        exact taken

/-- The run of no step. -/
theorem Run.initial (step : σ → α → Option (σ × List ε)) (start : σ) : Run step start [] start :=
  .nil

/-- A run continued by one more action. -/
theorem Run.andThen {next : σ} {events : List ε} (earlier : Run step start records finish)
    (action : α) (taken : step finish action = some (next, events)) :
    Run step start (records ++ [⟨finish, action, next, events⟩]) next :=
  earlier.snoc taken

theorem execute_cons {next : σ} {action : α} {actions : List α} {events : List ε}
    (taken : step start action = some (next, events))
    (continued : execute step next actions = some (records, finish)) :
    execute step start (action :: actions) =
      some (⟨start, action, next, events⟩ :: records, finish) := by
  simp only [execute, taken, continued]

theorem Run.of_execute {actions : List α}
    (executed : execute step start actions = some (records, finish)) :
    Run step start records finish := by
  induction actions generalizing start records with
  | nil =>
      simp only [execute, Option.some.injEq, Prod.mk.injEq] at executed
      obtain ⟨rfl, rfl⟩ := executed
      exact .nil
  | cons action actions inductionHypothesis =>
      simp only [execute] at executed
      split at executed
      · cases executed
      · next next events taken =>
          split at executed
          · cases executed
          · next rest final continued =>
              cases executed
              exact (Run.nil.snoc taken).append (inductionHypothesis continued)

/-- A scenario whose records and last state pass a test is a run that does. -/
theorem Run.exists_of_passes (step : σ → α → Option (σ × List ε)) (start : σ) (actions : List α)
    (Passes : List (StepRecord σ α ε) → σ → Prop)
    [∀ records finish, Decidable (Passes records finish)]
    (passed : (execute step start actions).any (fun result => Passes result.1 result.2) = true) :
    ∃ records finish, Run step start records finish ∧ Passes records finish := by
  cases ran : execute step start actions with
  | none =>
      rw [ran] at passed
      cases passed
  | some result =>
      rw [ran] at passed
      exact ⟨result.1, result.2, .of_execute ran, of_decide_eq_true passed⟩

/-- A scenario executes, and its records and last state pass a test. -/
def Passes (step : σ → α → Option (σ × List ε)) (start : σ) (actions : List α)
    (Test : List (StepRecord σ α ε) → σ → Prop) : Prop :=
  ∃ records finish, execute step start actions = some (records, finish) ∧ Test records finish

instance (step : σ → α → Option (σ × List ε)) (start : σ) (actions : List α)
    (Test : List (StepRecord σ α ε) → σ → Prop)
    [∀ records finish, Decidable (Test records finish)] :
    Decidable (Passes step start actions Test) :=
  match ran : execute step start actions with
  | none => .isFalse (by rintro ⟨records, finish, executed, -⟩; simp [ran] at executed)
  | some result =>
      decidable_of_iff (Test result.1 result.2)
        ⟨fun passed => ⟨result.1, result.2, ran, passed⟩, by
          rintro ⟨records, finish, executed, passed⟩
          rw [ran, Option.some.injEq] at executed
          rw [executed]
          exact passed⟩

/-- The state that a run of at least one step ends in is the one after a record. -/
theorem Run.exists_after (run : Run step start records finish) (taken : records ≠ []) :
    ∃ record ∈ records, record.after = finish := by
  cases run with
  | nil => exact absurd rfl taken
  | snoc earlier taken => exact ⟨_, List.mem_append_right _ (List.mem_singleton_self _), rfl⟩

/-- A scenario that executes is a run with the events it shows. -/
theorem Run.exists_of_execute (step : σ → α → Option (σ × List ε)) (start : σ)
    (actions : List α) (events : List ε)
    (executed : (execute step start actions).map (fun result => trace result.1) = some events) :
    ∃ records finish, Run step start records finish ∧ trace records = events := by
  obtain ⟨⟨records, finish⟩, ran, shown⟩ := Option.map_eq_some_iff.mp executed
  exact ⟨records, finish, .of_execute ran, shown⟩

end Basic

section Since

variable {σ α ε : Type*}

/-- A step of the kind `Opened` happened, and `Held` has been true since. -/
def Since (records : List (StepRecord σ α ε)) (Opened : StepRecord σ α ε → Prop)
    (Held : σ → Prop) : Prop :=
  ∃ earlier opener later, records = earlier ++ opener :: later ∧ Opened opener ∧
    ∀ record ∈ opener :: later, Held record.after

variable {records : List (StepRecord σ α ε)} {record : StepRecord σ α ε}
  {Opened : StepRecord σ α ε → Prop} {Held : σ → Prop}

@[simp] theorem not_since_nil : ¬Since ([] : List (StepRecord σ α ε)) Opened Held := by
  rintro ⟨earlier, opener, later, shape, -⟩
  simp at shape

/-- The last step either is the opening one or keeps an earlier one in force. -/
theorem since_snoc :
    Since (records ++ [record]) Opened Held ↔
      Held record.after ∧ (Opened record ∨ Since records Opened Held) := by
  constructor
  · rintro ⟨earlier, opener, later, shape, opened, held⟩
    induction later using List.reverseRecOn with
    | nil =>
        obtain ⟨rfl, same⟩ := List.append_inj' shape rfl
        obtain rfl := List.singleton_inj.mp same
        exact ⟨held record (by simp), .inl opened⟩
    | append_singleton later last _ =>
        rw [← List.cons_append, ← List.append_assoc] at shape
        obtain ⟨rfl, same⟩ := List.append_inj' shape rfl
        obtain rfl := List.singleton_inj.mp same
        refine ⟨held record (by simp), .inr ⟨earlier, opener, later, rfl, opened, ?_⟩⟩
        intro entry member
        exact held entry (by rw [← List.cons_append]; exact List.mem_append_left _ member)
  · rintro ⟨last, opened | ⟨earlier, opener, later, rfl, opened, held⟩⟩
    · exact ⟨records, record, [], rfl, opened, by simpa using last⟩
    · refine ⟨earlier, opener, later ++ [record], by simp, opened, ?_⟩
      intro entry member
      rw [← List.cons_append] at member
      rcases List.mem_append.mp member with member | member
      · exact held entry member
      · rw [List.mem_singleton.mp member]
        exact last

/-- It happened at the head of one of the tails. -/
theorem since_iff_tails :
    Since records Opened Held ↔
      ∃ tail ∈ records.tails, (∃ opener ∈ tail.head?, Opened opener) ∧
        ∀ record ∈ tail, Held record.after := by
  constructor
  · rintro ⟨earlier, opener, later, shape, opened, held⟩
    exact ⟨opener :: later, (List.mem_tails _ _).mpr ⟨earlier, shape.symm⟩,
      ⟨opener, rfl, opened⟩, held⟩
  · rintro ⟨tail, member, ⟨opener, first, opened⟩, held⟩
    obtain ⟨earlier, shape⟩ := (List.mem_tails _ _).mp member
    obtain ⟨later, rfl⟩ := List.head?_eq_some_iff.mp first
    exact ⟨earlier, opener, later, shape.symm, opened, held⟩

instance [DecidablePred Opened] [DecidablePred Held] : Decidable (Since records Opened Held) :=
  decidable_of_iff _ since_iff_tails.symm

/-- What has been true since a step is true at the end. -/
theorem Run.held_of_since {step : σ → α → Option (σ × List ε)} {start finish : σ}
    (run : Run step start records finish) (since : Since records Opened Held) : Held finish := by
  cases run with
  | nil => exact absurd since not_since_nil
  | snoc _ _ => exact (since_snoc.mp since).1

end Since

section Rules

variable {σ α ε : Type*} {step : σ → α → Option (σ × List ε)} {start finish : σ}
  {records : List (StepRecord σ α ε)}

/-- An invariant kept by the steps that meet `condition` holds before and after
every step of a run whose steps all meet it. -/
theorem Run.invariant_of_condition (Invariant : σ → Prop) (Condition : σ → α → Prop)
    (initial : Invariant start)
    (preserved : ∀ state action next events, Invariant state → Condition state action →
      step state action = some (next, events) → Invariant next)
    (run : Run step start records finish)
    (condition : ∀ record ∈ records, Condition record.before record.action) :
    Invariant finish ∧ ∀ record ∈ records, Invariant record.before ∧ Invariant record.after := by
  induction run with
  | nil => exact ⟨initial, by simp⟩
  | @snoc earlierRecords state next action events earlier taken inductionHypothesis =>
      obtain ⟨holds, all⟩ := inductionHypothesis fun record member =>
        condition record (List.mem_append_left _ member)
      have last := preserved state action next events holds
        (condition ⟨state, action, next, events⟩ (by simp)) taken
      refine ⟨last, fun record member => ?_⟩
      rcases List.mem_append.mp member with member | member
      · exact all record member
      · rw [List.mem_singleton.mp member]
        exact ⟨holds, last⟩

/-- An invariant kept by every step holds along every run. -/
theorem Run.invariant (Invariant : σ → Prop) (initial : Invariant start)
    (preserved : ∀ state action next events, Invariant state →
      step state action = some (next, events) → Invariant next)
    (run : Run step start records finish) :
    Invariant finish ∧ ∀ record ∈ records, Invariant record.before ∧ Invariant record.after :=
  run.invariant_of_condition Invariant (fun _ _ => True) initial
    (fun state action next events holds _ taken =>
      preserved state action next events holds taken)
    (fun _ _ => trivial)

/-- Every step meets a condition on the events before it, its state and its
action; `past` are the events before the first one. -/
def StepsMeet (Condition : List ε → σ → α → Prop) :
    List ε → List (StepRecord σ α ε) → Prop
  | _, [] => True
  | past, record :: later =>
      Condition past record.before record.action ∧ StepsMeet Condition (past ++ record.events) later

theorem stepsMeet_append (Condition : List ε → σ → α → Prop) (past : List ε)
    (left right : List (StepRecord σ α ε)) :
    StepsMeet Condition past (left ++ right) ↔
      StepsMeet Condition past left ∧ StepsMeet Condition (past ++ trace left) right := by
  induction left generalizing past with
  | nil => simp [StepsMeet]
  | cons record left inductionHypothesis =>
      rw [List.cons_append, StepsMeet, StepsMeet, inductionHypothesis, and_assoc]
      simp [trace]

theorem stepsMeet_of_forall (Condition : σ → α → Prop) (past : List ε)
    (condition : ∀ record ∈ records, Condition record.before record.action) :
    StepsMeet (fun _ => Condition) past records := by
  induction records generalizing past with
  | nil => trivial
  | cons record later inductionHypothesis =>
      refine ⟨condition record (by simp), inductionHypothesis _ ?_⟩
      exact fun entry member => condition entry (List.mem_cons_of_mem _ member)

/-- An invariant of the events so far and the state they led to, kept by the
steps that meet a condition on both. -/
theorem Run.history_invariant_of_steps (Invariant : List ε → σ → Prop)
    (Condition : List ε → σ → α → Prop) (initial : Invariant [] start)
    (preserved : ∀ past state action next events, Invariant past state →
      Condition past state action → step state action = some (next, events) →
      Invariant (past ++ events) next)
    (run : Run step start records finish) (condition : StepsMeet Condition [] records) :
    Invariant (trace records) finish := by
  induction run with
  | nil => exact initial
  | @snoc earlierRecords state next action events earlier taken inductionHypothesis =>
      obtain ⟨before, last, -⟩ := (stepsMeet_append Condition [] earlierRecords _).mp condition
      rw [trace_append, trace_singleton]
      exact preserved _ state action next events (inductionHypothesis before) last taken

/-- An invariant of the events so far and the state they led to. -/
theorem Run.history_invariant (Invariant : List ε → σ → Prop) (Condition : σ → α → Prop)
    (initial : Invariant [] start)
    (preserved : ∀ past state action next events, Invariant past state →
      Condition state action → step state action = some (next, events) →
      Invariant (past ++ events) next)
    (run : Run step start records finish)
    (condition : ∀ record ∈ records, Condition record.before record.action) :
    Invariant (trace records) finish :=
  run.history_invariant_of_steps Invariant (fun _ => Condition) initial preserved
    (stepsMeet_of_forall Condition [] condition)

/-- A property of all records of a run is equivalent to a condition on all its
steps, when under an invariant a step has the property exactly when it meets
the condition, and the condition keeps the invariant. -/
theorem Run.forall_records_iff (Invariant : σ → Prop) (Condition : σ → α → Prop)
    (Property : StepRecord σ α ε → Prop) (initial : Invariant start)
    (preserved : ∀ state action next events, Invariant state → Condition state action →
      step state action = some (next, events) → Invariant next)
    (equivalent : ∀ state action next events, Invariant state →
      step state action = some (next, events) →
      (Property ⟨state, action, next, events⟩ ↔ Condition state action))
    (run : Run step start records finish) :
    (∀ record ∈ records, Property record) ↔
      ∀ record ∈ records, Condition record.before record.action := by
  induction run with
  | nil => simp
  | @snoc earlierRecords state next action events earlier taken inductionHypothesis =>
      -- The records before the last step decide whether the invariant is still known there.
      simp only [List.mem_append, List.mem_singleton, or_imp, forall_and, forall_eq]
      rw [inductionHypothesis]
      refine and_congr_right fun condition => ?_
      have holds := (earlier.invariant_of_condition Invariant Condition initial preserved condition).1
      exact equivalent state action next events holds taken

end Rules

section Simulation

variable {σ τ α ε : Type*} {step : σ → α → Option (σ × List ε)}
  {abstractStep : τ → α → Option (τ × List ε)} {start finish : σ}
  {records : List (StepRecord σ α ε)}

/-- Forward simulation: when related states answer every action that meets the
condition by the same events and stay related, a run is matched by a run of the
other system with the same actions and the same events. -/
theorem Run.simulated (Related : σ → τ → Prop) (Condition : α → Prop) {abstractStart : τ}
    (initial : Related start abstractStart)
    (matched : ∀ state abstract action next events, Related state abstract → Condition action →
      step state action = some (next, events) →
      ∃ abstractNext, abstractStep abstract action = some (abstractNext, events) ∧
        Related next abstractNext)
    (run : Run step start records finish)
    (condition : ∀ record ∈ records, Condition record.action) :
    ∃ abstractRecords abstractFinish,
      Run abstractStep abstractStart abstractRecords abstractFinish ∧
      abstractRecords.map StepRecord.action = records.map StepRecord.action ∧
      trace abstractRecords = trace records ∧ Related finish abstractFinish := by
  induction run with
  | nil => exact ⟨[], abstractStart, .nil, rfl, rfl, initial⟩
  | @snoc earlierRecords state next action events earlier taken inductionHypothesis =>
      obtain ⟨shown, abstract, ran, sameActions, sameEvents, related⟩ :=
        inductionHypothesis fun record member => condition record (List.mem_append_left _ member)
      obtain ⟨abstractNext, abstractTaken, relatedNext⟩ :=
        matched state abstract action next events related
          (condition ⟨state, action, next, events⟩ (by simp)) taken
      refine ⟨_, abstractNext, ran.andThen action abstractTaken, ?_, ?_, relatedNext⟩
      · rw [List.map_append, List.map_append, sameActions]
        rfl
      · rw [trace_append, trace_append, sameEvents]
        rfl

end Simulation

end OpenairSpgwc.Foundation
