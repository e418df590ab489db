import OpenairSpgwc.Pgw.Rules

/-!
Contract: the loop of `modify_bearer_procedure::run` over a sound connection.

Owns:
- `Handled`: what one pass does with a bearer context, as five cases with the request
  and the bearer that each leaves;
- that the loop keeps the connection sound.

Does not own: what the UP node makes of the rules.
-/

namespace OpenairSpgwc.Pgw

open Foundation
open OpenairSpgwc.Common
open Std (ExtTreeMap)

/-! ### Bearer contexts to be modified -/

/-- The bearer that the loop looks up. -/
def BearerContextToBeModified.target (it : BearerContextToBeModified) : Nat :=
  it.epsBearerId.getD 0

def UserPlaneFteid.outerHeaderCreation (v : UserPlaneFteid) : OuterHeaderCreation :=
  ⟨v.teidGreKey, v.ipv4Address⟩

namespace Modification

variable {m next : Modification} {it : BearerContextToBeModified} {peb bearer : EpsBearer}
  {v : UserPlaneFteid}

def put (m : Modification) (ebi : Nat) (peb : EpsBearer) : Modification :=
  { m with pdn := { m.pdn with epsBearers := m.pdn.epsBearers.insert ebi peb } }

def withGenerators (m : Modification) (farIds : UintGenerator 32) (pdrIds : UintGenerator 16) :
    Modification :=
  { m with pdn := { m.pdn with farIdGenerator := farIds, pdrIdGenerator := pdrIds } }

/-- `eps_bearers[ebi]`. -/
def bearerAt (m : Modification) (ebi : Nat) : EpsBearer := m.pdn.epsBearers[ebi]?.getD {}

theorem insert_insert (bearers : ExtTreeMap Nat EpsBearer) (ebi : Nat) (first second : EpsBearer) :
    (bearers.insert ebi first).insert ebi second = bearers.insert ebi second := by
  apply ExtTreeMap.ext_getElem?
  intro key
  grind

theorem put_put (m : Modification) (ebi : Nat) (first second : EpsBearer) :
    (m.put ebi first).put ebi second = m.put ebi second := by
  simp only [put, insert_insert]

/-- `add_eps_bearer` stores under the same key once more, or not at all. -/
theorem store_eq_put {ebi : Nat} (own : peb.ebi = ebi) : m.store ebi peb = m.put ebi peb := by
  unfold store PdnConnection.addEpsBearer put
  rw [own]
  by_cases range : 5 ≤ ebi ∧ ebi ≤ 15
  · simp only [if_pos range, insert_insert]
  · simp only [if_neg range]

theorem generateFarId_eq_some {farId : Nat} (drawn : m.generateFarId = some (farId, next)) :
    ∃ farIds, m.pdn.farIdGenerator.getUid = some (farId, farIds) ∧
      next = { m with pdn := { m.pdn with farIdGenerator := farIds } } := by
  obtain ⟨⟨id, farIds⟩, took, same⟩ := Option.map_eq_some_iff.mp drawn
  cases same
  exact ⟨farIds, took, rfl⟩

theorem generatePdrId_eq_some {pdrId : Nat} (drawn : m.generatePdrId = some (pdrId, next)) :
    ∃ pdrIds, m.pdn.pdrIdGenerator.getUid = some (pdrId, pdrIds) ∧
      next = { m with pdn := { m.pdn with pdrIdGenerator := pdrIds } } := by
  obtain ⟨⟨id, pdrIds⟩, took, same⟩ := Option.map_eq_some_iff.mp drawn
  cases same
  exact ⟨pdrIds, took, rfl⟩

theorem generatePdrId_of_exhausted (exhausted : m.pdn.pdrIdGenerator.Exhausted) :
    m.generatePdrId = none := by
  rw [generatePdrId, exhausted.getUid]
  rfl

/-- What a pass of the loop leaves. -/
def updating (m : Modification) (peb : EpsBearer) (farId : Nat) (v : UserPlaneFteid) :
    Modification :=
  (m.updateFar ⟨farId, .forw, some v.outerHeaderCreation⟩).updateFar
    ⟨peb.farIdUl.getD 0, .forw, none⟩

def creating (m : Modification) (farIds : UintGenerator 32) (pdrIds : UintGenerator 16)
    (farId pdrId : Nat) (v : UserPlaneFteid) : Modification :=
  ((m.withGenerators farIds pdrIds).createFar
    ⟨farId, .access, some v.outerHeaderCreation⟩).createPdr ⟨pdrId, .core, farId⟩

/-- The rules for an eNB F-TEID are updated or created, both kinds of them. -/
theorem downlink_cases {full : Prop} (numbered : Numbered m.pdn.farIdGenerator m.pdn.pdrIdGenerator)
    (exhausted : full → m.pdn.pdrIdGenerator.Exhausted)
    (down : EpsBearer.Unset peb.pdrIdDl peb.farIdDl ∨
      EpsBearer.Paired full peb.pdrIdDl peb.farIdDl)
    (ran : m.downlink peb v = some (next, bearer)) :
    (∃ farId, farId ≠ 0 ∧ peb.farIdDl = some farId ∧ peb.pdrIdDl ≠ 0 ∧ bearer = peb ∧
        next = m.updating peb farId v) ∨
      (EpsBearer.Unset peb.pdrIdDl peb.farIdDl ∧ ∃ farIds pdrIds farId pdrId,
        Draws m.pdn.farIdGenerator farIds m.pdn.pdrIdGenerator pdrIds farId pdrId ∧
          bearer = { peb with farIdDl := some farId, pdrIdDl := pdrId } ∧
          next = m.creating farIds pdrIds farId pdrId v) := by
  unfold downlink at ran
  cases down with
  | inl unset =>
      right
      refine ⟨unset, ?_⟩
      rw [unset.2] at ran
      obtain ⟨⟨farId, first⟩, tookFar, ran⟩ := Option.bind_eq_some_iff.mp ran
      obtain ⟨farIds, drawnFar, rfl⟩ := generateFarId_eq_some tookFar
      obtain ⟨⟨far, peb', id⟩, same, ran⟩ := Option.bind_eq_some_iff.mp ran
      cases same
      dsimp only at ran
      rw [if_pos unset.1] at ran
      obtain ⟨⟨pdrId, second⟩, tookPdr, ran⟩ := Option.bind_eq_some_iff.mp ran
      obtain ⟨pdrIds, drawnPdr, rfl⟩ := generatePdrId_eq_some tookPdr
      cases ran
      exact ⟨farIds, pdrIds, farId, pdrId, numbered.draws drawnFar drawnPdr, rfl, rfl⟩
  | inr paired =>
      left
      obtain ⟨farId, nonzero, given, full⟩ := paired
      obtain ⟨before, rfl⟩ := Nat.exists_eq_succ_of_ne_zero nonzero
      rw [given] at ran
      obtain ⟨⟨first, peb', farId⟩, took, ran⟩ := Option.bind_eq_some_iff.mp ran
      cases took
      dsimp only at ran
      by_cases zero : peb.pdrIdDl = 0
      · rw [if_pos zero] at ran
        obtain ⟨⟨pdrId, second⟩, tookPdr, _⟩ := Option.bind_eq_some_iff.mp ran
        have none : (m.updateFar ⟨before + 1, .forw, some v.outerHeaderCreation⟩).generatePdrId =
            none := generatePdrId_of_exhausted (exhausted (full zero))
        unfold UserPlaneFteid.outerHeaderCreation at none
        rw [none] at tookPdr
        cases tookPdr
      · rw [if_neg zero] at ran
        cases ran
        exact ⟨before + 1, nonzero, given, zero, rfl, rfl⟩

/-- The rules of the uplink are there. -/
theorem uplink_eq {full : Prop} (exhausted : full → m.pdn.pdrIdGenerator.Exhausted)
    (up : EpsBearer.Paired full peb.pdrIdUl peb.farIdUl)
    (ran : m.uplink peb = some (next, bearer)) : next = m ∧ bearer = peb := by
  unfold uplink at ran
  obtain ⟨farId, nonzero, given, full⟩ := up
  obtain ⟨before, rfl⟩ := Nat.exists_eq_succ_of_ne_zero nonzero
  rw [given] at ran
  obtain ⟨⟨first, peb', farId⟩, took, ran⟩ := Option.bind_eq_some_iff.mp ran
  cases took
  dsimp only at ran
  by_cases zero : peb.pdrIdUl = 0
  · rw [if_pos zero] at ran
    obtain ⟨⟨pdrId, second⟩, tookPdr, _⟩ := Option.bind_eq_some_iff.mp ran
    rw [generatePdrId_of_exhausted (exhausted (full zero))] at tookPdr
    cases tookPdr
  · rw [if_neg zero] at ran
    cases ran
    exact ⟨rfl, rfl⟩

/-- What the loop does with one bearer context, for the bearer that it looks up. -/
inductive Handled (m : Modification) (it : BearerContextToBeModified) (peb : EpsBearer)
    (next : Modification) : Prop where
  | missing (other : peb.ebi ≠ it.target)
      (same : next = (m.put it.target peb).answer peb.ebi .systemFailure)
  | unchanged (own : peb.ebi = it.target) (given : it.s1UEnbFteid = some peb.sgwFteidS5S8Up)
      (active : peb.released = false)
      (same : next = (m.put it.target peb).answer peb.ebi .requestAccepted)
  | kept (own : peb.ebi = it.target) (given : it.s1UEnbFteid = none)
      (same : next = m.put it.target peb)
  | updated (v : UserPlaneFteid) (farId : Nat) (own : peb.ebi = it.target)
      (given : it.s1UEnbFteid = some v)
      (changed : ¬(v = peb.sgwFteidS5S8Up ∧ peb.released = false))
      (nonzero : farId ≠ 0) (far : peb.farIdDl = some farId) (pdr : peb.pdrIdDl ≠ 0)
      (same : next = (m.updating peb farId v).put it.target peb)
  | created (v : UserPlaneFteid) (farIds : UintGenerator 32) (pdrIds : UintGenerator 16)
      (farId pdrId : Nat) (own : peb.ebi = it.target) (given : it.s1UEnbFteid = some v)
      (changed : ¬(v = peb.sgwFteidS5S8Up ∧ peb.released = false))
      (unset : EpsBearer.Unset peb.pdrIdDl peb.farIdDl)
      (draws : Draws m.pdn.farIdGenerator farIds m.pdn.pdrIdGenerator pdrIds farId pdrId)
      (same : next = (m.creating farIds pdrIds farId pdrId v).put it.target
        { peb with farIdDl := some farId, pdrIdDl := pdrId })

theorem placed_bearerAt (sound : m.pdn.Sound) (ebi : Nat) :
    (m.bearerAt ebi).Placed m.pdn.pdrIdGenerator.Exhausted ebi := by
  unfold bearerAt
  cases stored : m.pdn.epsBearers[ebi]? with
  | none => exact EpsBearer.placed_default _ _
  | some bearer => exact sound.placed ebi bearer stored

/-- The rest of the loop's body, after the downlink. -/
def finish (ebi : Nat) (written : Modification × EpsBearer) : Option Modification :=
  if written.2.pgwFteidS5S8Up.isZero then
    some (written.1.store ebi written.2)
  else
    (written.1.uplink written.2).map fun result => result.1.store ebi result.2

theorem bearer_eq (m : Modification) (it : BearerContextToBeModified) :
    m.bearer it =
      if (m.bearerAt it.target).ebi ≠ it.target then
        some ((m.put it.target (m.bearerAt it.target)).answer (m.bearerAt it.target).ebi
          .systemFailure)
      else if it.s1UEnbFteid = some (m.bearerAt it.target).sgwFteidS5S8Up ∧
          (m.bearerAt it.target).released = false then
        some ((m.put it.target (m.bearerAt it.target)).answer (m.bearerAt it.target).ebi
          .requestAccepted)
      else
        (match it.s1UEnbFteid with
        | some v => (m.put it.target (m.bearerAt it.target)).downlink (m.bearerAt it.target) v
        | none => some (m.put it.target (m.bearerAt it.target), m.bearerAt it.target)).bind
          (finish it.target) := by
  have rest (ebi : Nat) (written : Modification × EpsBearer) :
      (if written.2.pgwFteidS5S8Up.isZero = true then do
          let last ← (pure (written.1, written.2) : Option (Modification × EpsBearer))
          pure (last.1.store ebi last.2)
        else do
          let last ← written.1.uplink written.2
          pure (last.1.store ebi last.2)) = finish ebi written := by
    unfold finish
    split
    · rfl
    · cases written.1.uplink written.2 <;> rfl
  unfold bearer
  dsimp only
  simp only [rest]
  cases it.s1UEnbFteid <;> rfl

/-- The uplink rules of a bearer with an F-TEID of the user plane are there. -/
theorem finish_eq {full : Prop} {ebi : Nat} (ran : finish ebi (m, bearer) = some next)
    (exhausted : full → m.pdn.pdrIdGenerator.Exhausted) (own : bearer.ebi = ebi)
    (up : bearer.pgwFteidS5S8Up.isZero = true ∨
      EpsBearer.Paired full bearer.pdrIdUl bearer.farIdUl) : next = m.put ebi bearer := by
  unfold finish at ran
  by_cases zero : bearer.pgwFteidS5S8Up.isZero
  · rw [if_pos zero] at ran
    cases ran
    exact store_eq_put own
  · rw [if_neg zero] at ran
    obtain ⟨⟨last, stored⟩, took, same⟩ := Option.map_eq_some_iff.mp ran
    obtain ⟨rfl, rfl⟩ := uplink_eq exhausted (up.resolve_left zero) took
    rw [← same]
    exact store_eq_put own

theorem up_of_placed {full : Prop} {ebi : Nat} (placed : peb.Placed full ebi) :
    peb.pgwFteidS5S8Up.isZero = true ∨ EpsBearer.Paired full peb.pdrIdUl peb.farIdUl := by
  cases placed with
  | assigned own range up down => exact .inr up
  | unassigned own noPgw active up down => exact .inl noPgw

theorem down_of_placed {full : Prop} {ebi : Nat} (placed : peb.Placed full ebi) :
    EpsBearer.Unset peb.pdrIdDl peb.farIdDl ∨
      EpsBearer.Paired full peb.pdrIdDl peb.farIdDl := by
  cases placed with
  | assigned own range up down => exact down
  | unassigned own noPgw active up down => exact down.imp_right And.right

/-- One pass of the loop over a sound connection. -/
theorem handled_of_bearer (sound : m.pdn.Sound) (ran : m.bearer it = some next) :
    Handled m it (m.bearerAt it.target) next := by
  have placed := placed_bearerAt sound it.target
  have up := up_of_placed placed
  rw [bearer_eq] at ran
  by_cases other : (m.bearerAt it.target).ebi ≠ it.target
  · rw [if_pos other] at ran
    cases ran
    exact .missing other rfl
  · rw [if_neg other] at ran
    have own := not_not.mp other
    by_cases same : it.s1UEnbFteid = some (m.bearerAt it.target).sgwFteidS5S8Up ∧
        (m.bearerAt it.target).released = false
    · rw [if_pos same] at ran
      cases ran
      exact .unchanged own same.1 same.2 rfl
    · rw [if_neg same] at ran
      cases given : it.s1UEnbFteid with
      | none =>
          rw [given] at ran
          have last := finish_eq ran id own up
          rw [put_put] at last
          exact .kept own given last
      | some v =>
          rw [given] at ran same
          have changed : ¬(v = (m.bearerAt it.target).sgwFteidS5S8Up ∧
              (m.bearerAt it.target).released = false) :=
            fun both => same ⟨congrArg some both.1, both.2⟩
          obtain ⟨⟨middle, bearer⟩, down, ran⟩ := Option.bind_eq_some_iff.mp ran
          cases downlink_cases (m := m.put it.target (m.bearerAt it.target)) sound.numbered id
              (down_of_placed placed) down with
          | inl updates =>
              obtain ⟨farId, nonzero, far, pdr, rfl, rfl⟩ := updates
              have last := finish_eq ran id own up
              exact .updated v farId own given changed nonzero far pdr (last.trans (put_put
                (m.updating (m.bearerAt it.target) farId v) _ _ _))
          | inr creates =>
              obtain ⟨unset, farIds, pdrIds, farId, pdrId, draws, rfl, rfl⟩ := creates
              have more (exhausted : m.pdn.pdrIdGenerator.Exhausted) :
                  pdrIds.Exhausted := absurd exhausted draws.left
              have last := finish_eq ran more own up
              exact .created v farIds pdrIds farId pdrId own given changed unset draws
                (last.trans (put_put (m.creating farIds pdrIds farId pdrId v) _ _ _))

/-! ### Soundness of a pass -/

theorem pdr_bearerAt {ebi pdrId : Nat} {direction : Direction}
    (given : (m.bearerAt ebi).pdr direction = some pdrId) : m.pdn.HasPdr pdrId ebi direction := by
  unfold bearerAt at given
  cases stored : m.pdn.epsBearers[ebi]? with
  | none =>
      rw [stored] at given
      cases (EpsBearer.pdr_default direction).symm.trans given
  | some bearer =>
      rw [stored] at given
      exact ⟨bearer, stored, given⟩

theorem far_bearerAt {ebi farId : Nat} {direction : Direction}
    (given : (m.bearerAt ebi).far direction = some farId) : m.pdn.HasFar farId ebi direction := by
  unfold bearerAt at given
  cases stored : m.pdn.epsBearers[ebi]? with
  | none =>
      rw [stored] at given
      cases (EpsBearer.far_default direction).symm.trans given
  | some bearer =>
      rw [stored] at given
      exact ⟨bearer, stored, given⟩

/-- Storing the bearer that was looked up. -/
theorem sound_put (sound : m.pdn.Sound) (ebi : Nat) : (m.put ebi (m.bearerAt ebi)).pdn.Sound :=
  sound.put .uplink rfl sound.numbered subset_rfl subset_rfl (placed_bearerAt sound ebi)
    (fun _ _ given => .inl (pdr_bearerAt given)) (fun _ _ given => .inl (far_bearerAt given))

/-- Storing it with new rules for the downlink. -/
theorem sound_create (sound : m.pdn.Sound) {farIds : UintGenerator 32} {pdrIds : UintGenerator 16}
    {farId pdrId ebi : Nat} (own : (m.bearerAt ebi).ebi = ebi)
    (draws : Draws m.pdn.farIdGenerator farIds m.pdn.pdrIdGenerator pdrIds farId pdrId)
    (v : UserPlaneFteid) :
    ((m.creating farIds pdrIds farId pdrId v).put ebi
      { m.bearerAt ebi with farIdDl := some farId, pdrIdDl := pdrId }).pdn.Sound := by
  have farMore : m.pdn.farIdGenerator.uidGenerated ⊆ farIds.uidGenerated := by
    rw [draws.farLive]
    exact Finset.subset_insert _ _
  have pdrMore : m.pdn.pdrIdGenerator.uidGenerated ⊆ pdrIds.uidGenerated := by
    rw [draws.pdrLive]
    exact Finset.subset_insert _ _
  have still (exhausted : m.pdn.pdrIdGenerator.Exhausted) : pdrIds.Exhausted :=
    absurd exhausted draws.left
  apply sound.put .downlink rfl draws.numbered farMore pdrMore
  · have down : EpsBearer.Paired pdrIds.Exhausted pdrId (some farId) :=
      ⟨farId, draws.farNonzero, rfl, draws.pdrZero⟩
    cases placed_bearerAt sound ebi with
    | assigned same range up _ => exact .assigned same range (up.mono still) (.inr down)
    | unassigned none noPgw active up _ =>
        exact .unassigned none noPgw active up (.inr ⟨own.symm.trans none, down⟩)
  · intro direction id given
    cases direction with
    | uplink => exact .inl (pdr_bearerAt given)
    | downlink =>
        obtain ⟨same, _⟩ := EpsBearer.pdr_downlink_eq_some.mp given
        right
        show Direction.downlink = .downlink ∧ _ ∧ id ∈ pdrIds.uidGenerated
        rw [draws.pdrLive, ← same]
        exact ⟨rfl, draws.pdrFresh, Finset.mem_insert_self _ _⟩
  · intro direction id given
    cases direction with
    | uplink => exact .inl (far_bearerAt given)
    | downlink =>
        obtain ⟨same, _⟩ := EpsBearer.far_downlink_eq_some.mp given
        right
        show Direction.downlink = .downlink ∧ _ ∧ id ∈ farIds.uidGenerated
        rw [draws.farLive, ← Option.some.inj same]
        exact ⟨rfl, draws.farFresh, Finset.mem_insert_self _ _⟩

theorem Handled.sound (handled : Handled m it (m.bearerAt it.target) next)
    (sound : m.pdn.Sound) : next.pdn.Sound := by
  cases handled with
  | missing other same =>
      rw [same]
      exact sound_put sound it.target
  | unchanged own given active same =>
      rw [same]
      exact sound_put sound it.target
  | kept own given same =>
      rw [same]
      exact sound_put sound it.target
  | updated v farId own given changed nonzero far pdr same =>
      rw [same]
      exact sound_put sound it.target
  | created v farIds pdrIds farId pdrId own given changed unset draws same =>
      rw [same]
      exact sound_create sound own draws v

/-- The loop keeps the connection sound. -/
theorem sound_of_bearers {its : List BearerContextToBeModified} (sound : m.pdn.Sound)
    (ran : m.bearers its = some next) : next.pdn.Sound := by
  induction its generalizing m with
  | nil =>
      cases ran
      exact sound
  | cons it its inductionHypothesis =>
      obtain ⟨middle, first, later⟩ := Option.bind_eq_some_iff.mp ran
      exact inductionHypothesis ((handled_of_bearer sound first).sound sound) later

end Modification

end OpenairSpgwc.Pgw
