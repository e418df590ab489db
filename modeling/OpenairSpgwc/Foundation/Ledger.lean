import OpenairSpgwc.Foundation.Transition

/-!
Contract: a ledger beside a transition system.

The ledger lists what a system has asked for and what has not been answered yet.
It only watches: a step adds the entries that its action and its events open,
after it has struck out the first entry that its action closes.

Owns:
- `Ledger.watch`, the system together with its ledger;
- that its runs, without the ledger, are runs of the system;
- what is left of a list after one of at most one answered entry is struck out.
-/

namespace OpenairSpgwc.Foundation

/-- Which entries a step opens, and which an action closes in a state. -/
structure Ledger (σ α ε ρ : Type*) where
  opens : α → List ε → List ρ
  closes : σ → α → ρ → Bool

section Watch

variable {σ α ε ρ : Type*} {step : σ → α → Option (σ × List ε)} {ledger : Ledger σ α ε ρ}

/-- The entries after a step. -/
def Ledger.after (ledger : Ledger σ α ε ρ) (state : σ) (action : α) (events : List ε)
    (entries : List ρ) : List ρ :=
  entries.eraseP (ledger.closes state action) ++ ledger.opens action events

/-- The system with its ledger. -/
def Ledger.watch (ledger : Ledger σ α ε ρ) (step : σ → α → Option (σ × List ε))
    (watched : σ × List ρ) (action : α) : Option ((σ × List ρ) × List ε) :=
  (step watched.1 action).map fun result =>
    ((result.1, ledger.after watched.1 action result.2 watched.2), result.2)

theorem Ledger.watch_eq_some {state next : σ} {entries left : List ρ} {action : α}
    {events : List ε} :
    ledger.watch step (state, entries) action = some ((next, left), events) ↔
      step state action = some (next, events) ∧
        left = ledger.after state action events entries := by
  unfold Ledger.watch
  rw [Option.map_eq_some_iff]
  constructor
  · rintro ⟨result, taken, same⟩
    cases same
    exact ⟨taken, rfl⟩
  · rintro ⟨taken, rfl⟩
    exact ⟨_, taken, rfl⟩

/-- The record of the system without the ledger. -/
def StepRecord.unwatched (record : StepRecord (σ × List ρ) α ε) : StepRecord σ α ε where
  before := record.before.1
  action := record.action
  after := record.after.1
  events := record.events

/-- Without its ledger, a run of the watched system is one of the system. -/
theorem Run.unwatched {start finish : σ × List ρ} {records : List (StepRecord (σ × List ρ) α ε)}
    (run : Run (ledger.watch step) start records finish) :
    Run step start.1 (records.map StepRecord.unwatched) finish.1 := by
  induction run with
  | nil => exact .nil
  | @snoc records state next action events earlier taken inductionHypothesis =>
      rw [List.map_append]
      exact inductionHypothesis.snoc (Ledger.watch_eq_some.mp taken).1

end Watch

section Striking

variable {ρ : Type*} {entries : List ρ} {answered : ρ → Bool} {entry : ρ}

/-- When at most one entry is answered, none is after it has been struck out. -/
theorem unanswered_of_mem_eraseP
    (one : entries.Pairwise fun first second => ¬(answered first = true ∧ answered second = true))
    (member : entry ∈ entries.eraseP answered) : answered entry = false := by
  induction entries with
  | nil => cases member
  | cons first entries inductionHypothesis =>
      rw [List.pairwise_cons] at one
      cases answers : answered first with
      | true =>
          rw [List.eraseP_cons_of_pos answers] at member
          exact Bool.eq_false_iff.mpr fun also => one.1 entry member ⟨answers, also⟩
      | false =>
          rw [List.eraseP_cons_of_neg (by rw [answers]; exact Bool.false_ne_true)] at member
          rcases List.mem_cons.mp member with here | later
          · rw [here]
            exact answers
          · exact inductionHypothesis one.2 later

/-- An entry that is not answered is still there. -/
theorem mem_eraseP_of_unanswered (member : entry ∈ entries) (unanswered : answered entry = false) :
    entry ∈ entries.eraseP answered :=
  (List.mem_eraseP_of_neg (by rw [unanswered]; exact Bool.false_ne_true)).mpr member

end Striking

end OpenairSpgwc.Foundation
