import Mathlib.Data.List.Nodup

/-!
Contract: requests, each owed exactly one answer, that may have to wait for an
exchange with another party.

`Obligations` relates the requests so far, the answers so far, the exchanges
that are open and the exchange each unanswered request waits for.

Owns:
- the rules for a step: nothing happens to requests, one is answered at once,
  one starts to wait, one is answered at the end of its exchange;
- the account of a request at any time: answered once, or waiting.
-/

namespace OpenairSpgwc.Foundation

/-- `waits exchange request`: the request will be answered at the end of the
exchange. -/
structure Obligations {κ ρ : Type*} (requests answers : List ρ) (asked : List κ)
    (waits : κ → ρ → Prop) : Prop where
  once : answers.Nodup
  known : ∀ request ∈ answers, request ∈ requests
  waiting : ∀ exchange request, waits exchange request →
    request ∈ requests ∧ request ∉ answers ∧ exchange ∈ asked
  done : ∀ request ∈ requests, request ∈ answers ∨ ∃ exchange, waits exchange request
  single : ∀ exchange exchange' request, waits exchange request → waits exchange' request →
    exchange = exchange'

namespace Obligations

variable {κ ρ : Type*} {requests answers : List ρ} {asked asked' : List κ}
  {waits waits' : κ → ρ → Prop} {request : ρ} {exchange : κ}

theorem initial (nobody : ∀ exchange request, ¬waits exchange request) :
    Obligations [] [] asked waits where
  once := .nil
  known request member := by cases member
  waiting exchange request waiting := absurd waiting (nobody exchange request)
  done request member := by cases member
  single exchange _ request waiting := absurd waiting (nobody exchange request)

/-- Nothing happens to requests. -/
theorem quiet (obligations : Obligations requests answers asked waits)
    (same : ∀ exchange request, waits' exchange request ↔ waits exchange request)
    (kept : ∀ exchange request, waits exchange request → exchange ∈ asked') :
    Obligations requests answers asked' waits' where
  once := obligations.once
  known := obligations.known
  waiting exchange request waiting := by
    rw [same] at waiting
    obtain ⟨asked, unanswered, -⟩ := obligations.waiting exchange request waiting
    exact ⟨asked, unanswered, kept exchange request waiting⟩
  done request member := by
    rcases obligations.done request member with answered | ⟨exchange, waiting⟩
    · exact .inl answered
    · exact .inr ⟨exchange, (same exchange request).mpr waiting⟩
  single exchange exchange' request first second :=
    obligations.single exchange exchange' request ((same _ _).mp first) ((same _ _).mp second)

/-- A new request is answered at once. -/
theorem answered (obligations : Obligations requests answers asked waits)
    (new : request ∉ requests)
    (same : ∀ exchange request, waits' exchange request ↔ waits exchange request)
    (kept : asked ⊆ asked') :
    Obligations (requests ++ [request]) (answers ++ [request]) asked' waits' where
  once := by
    rw [List.nodup_append]
    refine ⟨obligations.once, List.nodup_singleton _, fun other earlier last only => ?_⟩
    rw [List.mem_singleton.mp only]
    intro again
    exact new (again ▸ obligations.known other earlier)
  known other member := by
    rw [List.mem_append] at member ⊢
    exact member.imp_left (obligations.known other)
  waiting exchange other waiting := by
    rw [same] at waiting
    obtain ⟨asked, unanswered, opened⟩ := obligations.waiting exchange other waiting
    refine ⟨List.mem_append_left _ asked, fun member => ?_, kept opened⟩
    rcases List.mem_append.mp member with earlier | last
    · exact unanswered earlier
    · rw [List.mem_singleton.mp last] at asked
      exact new asked
  done other member := by
    rcases List.mem_append.mp member with earlier | last
    · rcases obligations.done other earlier with answered | ⟨exchange, waiting⟩
      · exact .inl (List.mem_append_left _ answered)
      · exact .inr ⟨exchange, (same exchange other).mpr waiting⟩
    · exact .inl (List.mem_append_right _ last)
  single exchange exchange' other first second :=
    obligations.single exchange exchange' other ((same _ _).mp first) ((same _ _).mp second)

/-- A new request starts to wait. -/
theorem started (obligations : Obligations requests answers asked waits)
    (new : request ∉ requests)
    (added : ∀ exchange' request', waits' exchange' request' ↔
      waits exchange' request' ∨ (exchange' = exchange ∧ request' = request))
    (kept : asked ⊆ asked') (opened : exchange ∈ asked') :
    Obligations (requests ++ [request]) answers asked' waits' where
  once := obligations.once
  known other member := List.mem_append_left _ (obligations.known other member)
  waiting exchange' other waiting := by
    rcases (added exchange' other).mp waiting with earlier | ⟨rfl, rfl⟩
    · obtain ⟨asked, unanswered, still⟩ := obligations.waiting exchange' other earlier
      exact ⟨List.mem_append_left _ asked, unanswered, kept still⟩
    · exact ⟨List.mem_append_right _ (List.mem_singleton_self _),
        fun answered => new (obligations.known _ answered), opened⟩
  done other member := by
    rcases List.mem_append.mp member with earlier | last
    · rcases obligations.done other earlier with answered | ⟨exchange', waiting⟩
      · exact .inl answered
      · exact .inr ⟨exchange', (added exchange' other).mpr (.inl waiting)⟩
    · exact .inr ⟨exchange, (added exchange other).mpr (.inr ⟨rfl, List.mem_singleton.mp last⟩)⟩
  single first second other one two := by
    have fresh : ∀ exchange', ¬waits exchange' request := fun exchange' waiting =>
      new (obligations.waiting exchange' request waiting).1
    rcases (added first other).mp one with early | ⟨rfl, same⟩
    · rcases (added second other).mp two with early' | ⟨rfl, same⟩
      · exact obligations.single first second other early early'
      · exact absurd (same ▸ early) (fresh first)
    · rcases (added second other).mp two with early' | ⟨rfl, -⟩
      · exact absurd (same ▸ early') (fresh second)
      · rfl

/-- The request that waits for an exchange is answered at its end. -/
theorem ended (obligations : Obligations requests answers asked waits)
    (waiting : waits exchange request)
    (only : ∀ other, waits exchange other → other = request)
    (removed : ∀ exchange' other, waits' exchange' other ↔
      waits exchange' other ∧ exchange' ≠ exchange)
    (kept : ∀ exchange' other, waits exchange' other → exchange' ≠ exchange →
      exchange' ∈ asked') :
    Obligations requests (answers ++ [request]) asked' waits' where
  once := by
    rw [List.nodup_append]
    refine ⟨obligations.once, List.nodup_singleton _, fun other earlier last own => ?_⟩
    rw [List.mem_singleton.mp own]
    intro again
    exact (obligations.waiting exchange request waiting).2.1 (again ▸ earlier)
  known other member := by
    rcases List.mem_append.mp member with earlier | last
    · exact obligations.known other earlier
    · rw [List.mem_singleton.mp last]
      exact (obligations.waiting exchange request waiting).1
  waiting exchange' other left := by
    obtain ⟨before, different⟩ := (removed exchange' other).mp left
    obtain ⟨asked, unanswered, -⟩ := obligations.waiting exchange' other before
    refine ⟨asked, fun member => ?_, kept exchange' other before different⟩
    rcases List.mem_append.mp member with earlier | last
    · exact unanswered earlier
    · rw [List.mem_singleton.mp last] at before
      exact different (obligations.single exchange' exchange request before waiting)
  done other member := by
    rcases obligations.done other member with answered | ⟨exchange', before⟩
    · exact .inl (List.mem_append_left _ answered)
    · by_cases here : exchange' = exchange
      · rw [here] at before
        exact .inl (List.mem_append_right _ (List.mem_singleton.mpr (only other before)))
      · exact .inr ⟨exchange', (removed exchange' other).mpr ⟨before, here⟩⟩
  single first second other one two :=
    obligations.single first second other ((removed _ _).mp one).1 ((removed _ _).mp two).1

/-- The answers to a request by its key: the request once, or none while it
waits. -/
theorem account [DecidableEq ρ] {ι : Type*} [DecidableEq ι] (key : ρ → ι)
    (obligations : Obligations requests answers asked waits)
    (distinct : (requests.map key).Nodup) (member : request ∈ requests) :
    (answers.filter (fun other => key other = key request) = [request] ∧
        ∀ exchange, ¬waits exchange request) ∨
      (answers.filter (fun other => key other = key request) = [] ∧
        ∃ exchange ∈ asked, waits exchange request) := by
  have own : ∀ other ∈ answers, key other = key request → other = request :=
    fun other answered same => List.inj_on_of_nodup_map distinct
      (obligations.known other answered) member same
  rcases obligations.done request member with answered | ⟨exchange, waiting⟩
  · refine .inl ⟨?_, fun exchange waiting => ?_⟩
    · have same : answers.filter (fun other => key other = key request) =
          answers.filter (fun other => other == request) := by
        apply List.filter_congr
        intro other answered
        rw [Bool.eq_iff_iff, decide_eq_true_iff, beq_iff_eq]
        exact ⟨own other answered, fun same => by rw [same]⟩
      rw [same, List.filter_beq, List.count_eq_one_of_mem obligations.once answered]
      rfl
    · exact (obligations.waiting exchange request waiting).2.1 answered
  · have unanswered := obligations.waiting exchange request waiting
    refine .inr ⟨?_, exchange, unanswered.2.2, waiting⟩
    rw [List.filter_eq_nil_iff]
    intro other answered same
    rw [own other answered (of_decide_eq_true same)] at answered
    exact unanswered.2.1 answered

end Obligations

end OpenairSpgwc.Foundation
