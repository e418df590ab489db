import OpenairSpgwc.Foundation.Transition

/-!
Contract: the life of one request that may be sent again a bounded number of
times and ends with at most one outcome.

`Stage` is the abstract state of the request and `Move` what one step of a
system may do to it, with the number of times the step is seen to put the request
on the wire and the number of outcomes it reports. `Run.lifecycle` is the simulation
rule: a system whose steps are moves sends the request at most `limit + 1`
times, reports at most one outcome, and does neither once the request has
ended.
-/

namespace OpenairSpgwc.Foundation

/-- Where a request is in its life: not yet sent, waiting for an outcome after
a number of retransmissions, or over. -/
inductive Stage where
  | unborn
  | live (retransmissions : Nat)
  | ended
deriving DecidableEq, Repr

/-- `Move limit before sends outcomes after`. -/
inductive Move (limit : Nat) : Stage → Nat → Nat → Stage → Prop where
  | idle (stage : Stage) : Move limit stage 0 0 stage
  | opened {sends : Nat} (once : sends ≤ 1) : Move limit .unborn sends 0 (.live 0)
  /-- Sent, but not remembered for a retransmission or an answer. -/
  | untracked {sends : Nat} (once : sends ≤ 1) : Move limit .unborn sends 0 .ended
  | retransmitted {count : Nat} (below : count < limit) :
      Move limit (.live count) 1 0 (.live (count + 1))
  | closed {count : Nat} : Move limit (.live count) 0 1 .ended
  | abandoned {count : Nat} : Move limit (.live count) 0 0 .ended

namespace Stage

/-- How often the request may still be put on the wire. -/
def sendsLeft (limit : Nat) : Stage → Nat
  | .unborn => limit + 1
  | .live count => limit - count
  | .ended => 0

/-- How many outcomes may still be reported. -/
def outcomesLeft : Stage → Nat
  | .unborn => 1
  | .live _ => 1
  | .ended => 0

end Stage

theorem Move.sendsLeft_le {limit sends outcomes : Nat} {before after : Stage}
    (move : Move limit before sends outcomes after) :
    sends + after.sendsLeft limit ≤ before.sendsLeft limit := by
  cases move <;> simp only [Stage.sendsLeft] <;> omega

theorem Move.outcomesLeft_le {limit sends outcomes : Nat} {before after : Stage}
    (move : Move limit before sends outcomes after) :
    outcomes + after.outcomesLeft ≤ before.outcomesLeft := by
  cases move <;> simp [Stage.outcomesLeft]

section Slots

variable {κ : Type*} {slots slots' : κ → Option (Nat × Nat)} {issued issued' request limit : Nat}
  {stage : Stage}

/-- Where a request is, in a table whose slots hold outstanding requests with
their retransmissions. Requests are numbered in the order they are issued. -/
def AtStage (slots : κ → Option (Nat × Nat)) (issued request : Nat) : Stage → Prop
  | .unborn => ¬request < issued ∧ ∀ key count, slots key ≠ some (request, count)
  | .live count => request < issued ∧ ∃ key, slots key = some (request, count) ∧
      ∀ other count', slots other = some (request, count') → other = key
  | .ended => request < issued ∧ ∀ key count, slots key ≠ some (request, count)

/-- Only the slots that hold the request matter. -/
theorem AtStage.congr (located : AtStage slots issued request stage)
    (born : request < issued' ↔ request < issued)
    (same : ∀ key count, slots' key = some (request, count) ↔ slots key = some (request, count)) :
    AtStage slots' issued' request stage := by
  cases stage with
  | unborn => simpa only [AtStage, born, same, ne_eq] using located
  | live count => simpa only [AtStage, born, same] using located
  | ended => simpa only [AtStage, born, same, ne_eq] using located

/-- The next request is issued and no slot holds it. -/
theorem AtStage.issueUntracked (located : AtStage slots issued request stage) {sends : Nat}
    (shown : sends ≤ if issued = request then 1 else 0) :
    ∃ stage', AtStage slots (issued + 1) request stage' ∧ Move limit stage sends 0 stage' := by
  by_cases new : issued = request
  · subst new
    cases stage with
    | unborn => exact ⟨.ended, ⟨by omega, located.2⟩, .untracked (by simpa using shown)⟩
    | live count => exact absurd located.1 (by omega)
    | ended => exact absurd located.1 (by omega)
  · obtain rfl : sends = 0 := by simpa [new] using shown
    exact ⟨stage, located.congr (by omega) (by simp), .idle stage⟩

/-- A request that a slot holds is live there and nowhere else. -/
theorem AtStage.live_of_held (located : AtStage slots issued request stage) {key : κ} {count : Nat}
    (held : slots key = some (request, count)) :
    stage = .live count ∧ request < issued ∧
      ∀ other count', slots other = some (request, count') → other = key := by
  cases stage with
  | unborn => exact absurd held (located.2 key count)
  | live count' =>
      obtain ⟨born, holder, found, unique⟩ := located
      obtain rfl := unique key count held
      obtain rfl : count = count' := by simpa [held] using found
      exact ⟨rfl, born, unique⟩
  | ended => exact absurd held (located.2 key count)

variable [DecidableEq κ]

/-- Writing a slot is no concern of a request that is neither in it nor put there. -/
theorem AtStage.update (located : AtStage slots issued request stage) {key : κ}
    {entry : Option (Nat × Nat)} (born : request < issued' ↔ request < issued)
    (before : ∀ count, slots key ≠ some (request, count))
    (after : ∀ count, entry ≠ some (request, count)) :
    AtStage (Function.update slots key entry) issued' request stage := by
  refine located.congr born fun other count => ?_
  by_cases same : other = key
  · subst same
    simp [before, after]
  · rw [Function.update_of_ne same]

/-- The next request is issued into a free slot. -/
theorem AtStage.issue (located : AtStage slots issued request stage) {key : κ}
    (free : slots key = none) {sends : Nat} (shown : sends ≤ if issued = request then 1 else 0) :
    ∃ stage', AtStage (Function.update slots key (some (issued, 0))) (issued + 1) request stage' ∧
      Move limit stage sends 0 stage' := by
  by_cases new : issued = request
  · subst new
    cases stage with
    | unborn =>
        refine ⟨.live 0, ⟨by omega, key, by simp, ?_⟩, .opened (by simpa using shown)⟩
        intro other count held
        by_contra different
        rw [Function.update_of_ne different] at held
        exact located.2 other count held
    | live count => exact absurd located.1 (by omega)
    | ended => exact absurd located.1 (by omega)
  · obtain rfl : sends = 0 := by simpa [new] using shown
    exact ⟨stage, located.update (by omega) (by simp [free]) (by simp [new]), .idle stage⟩

/-- The request in a slot is sent again. -/
theorem AtStage.retransmit (located : AtStage slots issued request stage) {key : κ}
    {holder count : Nat} (held : slots key = some (holder, count)) (below : count < limit) :
    ∃ stage', AtStage (Function.update slots key (some (holder, count + 1))) issued request stage' ∧
      Move limit stage (if holder = request then 1 else 0) 0 stage' := by
  by_cases own : holder = request
  · subst own
    obtain ⟨rfl, born, unique⟩ := located.live_of_held held
    refine ⟨.live (count + 1), ⟨born, key, by simp, ?_⟩, by simpa using .retransmitted below⟩
    intro other count' held'
    by_contra different
    rw [Function.update_of_ne different] at held'
    exact different (unique other count' held')
  · exact ⟨stage, located.update Iff.rfl (by simp [held, own]) (by simp [own]),
      by simpa [own] using .idle stage⟩

/-- A slot is emptied, with an outcome for the request in it or without. -/
theorem AtStage.drop (located : AtStage slots issued request stage) {key : κ} {outcomes : Nat}
    (reported : outcomes ≤ if (slots key).map Prod.fst = some request then 1 else 0) :
    ∃ stage', AtStage (Function.update slots key none) issued request stage' ∧
      Move limit stage 0 outcomes stage' := by
  by_cases own : (slots key).map Prod.fst = some request
  · obtain ⟨⟨holder, count⟩, held, rfl⟩ := Option.map_eq_some_iff.mp own
    obtain ⟨rfl, born, unique⟩ := located.live_of_held held
    refine ⟨.ended, ⟨born, ?_⟩, ?_⟩
    · intro other count' held'
      by_cases same : other = key
      · simp [same] at held'
      · rw [Function.update_of_ne same] at held'
        exact same (unique other count' held')
    · obtain rfl | rfl : outcomes = 0 ∨ outcomes = 1 := by
        rw [if_pos own] at reported
        omega
      · exact .abandoned
      · exact .closed
  · obtain rfl : outcomes = 0 := by simpa [own] using reported
    refine ⟨stage, located.update Iff.rfl (fun count held => own ?_) (by simp), .idle stage⟩
    simp [held]

end Slots

section Simulation

variable {σ α ε : Type*} {step : σ → α → Option (σ × List ε)} {start finish : σ}
  {records : List (StepRecord σ α ε)}

/-- The simulation rule. `Related state stage` says that the request is at
`stage` in `state`. -/
theorem Run.lifecycle (limit : Nat) (Related : σ → Stage → Prop)
    (Condition : σ → α → Prop) (isSend isOutcome : ε → Bool) (first : Stage)
    (initial : Related start first)
    (simulated : ∀ state action next events stage, Related state stage →
      Condition state action → step state action = some (next, events) →
      ∃ stage', Related next stage' ∧
        Move limit stage (events.countP isSend) (events.countP isOutcome) stage')
    (run : Run step start records finish)
    (condition : ∀ record ∈ records, Condition record.before record.action) :
    ∃ last, Related finish last ∧
      (trace records).countP isSend + last.sendsLeft limit ≤ first.sendsLeft limit ∧
      (trace records).countP isOutcome + last.outcomesLeft ≤ first.outcomesLeft := by
  refine run.history_invariant
    (fun past state => ∃ last, Related state last ∧
      past.countP isSend + last.sendsLeft limit ≤ first.sendsLeft limit ∧
      past.countP isOutcome + last.outcomesLeft ≤ first.outcomesLeft)
    Condition ⟨first, initial, by simp, by simp⟩ ?_ condition
  rintro past state action next events ⟨stage, related, sends, outcomes⟩ met taken
  obtain ⟨stage', related', move⟩ := simulated state action next events stage related met taken
  have sendsStep := move.sendsLeft_le
  have outcomesStep := move.outcomesLeft_le
  refine ⟨stage', related', ?_, ?_⟩
  · rw [List.countP_append]
    omega
  · rw [List.countP_append]
    omega

/-- A list with at most one event of a kind has no two different ones. -/
theorem eq_of_countP_le_one (kind : ε → Bool) {events : List ε} {first second : ε}
    (atMostOne : events.countP kind ≤ 1) (firstMember : first ∈ events)
    (firstKind : kind first = true) (secondMember : second ∈ events)
    (secondKind : kind second = true) : first = second := by
  rw [List.countP_eq_length_filter] at atMostOne
  have inFirst := List.mem_filter.mpr ⟨firstMember, firstKind⟩
  have inSecond := List.mem_filter.mpr ⟨secondMember, secondKind⟩
  generalize events.filter kind = filtered at *
  match filtered, atMostOne with
  | [], _ => simp at inFirst
  | [single], _ => rw [List.mem_singleton.mp inFirst, List.mem_singleton.mp inSecond]

end Simulation

end OpenairSpgwc.Foundation
