import OpenairSpgwc.Pgw.Rollback

/-!
Contract: the Modify Bearer Response against the request and the Sx response it is made
from.

Owns:
- `Correlated`: the answer lists the requested EBIs, each bearer has the F-TEIDs of its
  own context and of its own PDRs, and the cause sums up those of the contexts;
- for requests with distinct EBIs, which exchanges are correlated.
-/

namespace OpenairSpgwc.Pgw

open Foundation
open OpenairSpgwc.Common
open Std (ExtTreeMap)

/-! ### The request -/

/-- The F-TEID of the serving side that a bearer has with this context. -/
def BearerContextToBeModified.carried (it : BearerContextToBeModified) (before : UserPlaneFteid) :
    UserPlaneFteid :=
  it.s1UEnbFteid.getD (it.s5S8USgwFteid.getD before)

namespace Modification

variable {m next : Modification} {it : BearerContextToBeModified} {bearer : EpsBearer}
  {its : List BearerContextToBeModified}

/-- There is something to do for the bearer of this context. -/
def Changes (bearer : EpsBearer) (it : BearerContextToBeModified) : Prop :=
  ¬(it.s1UEnbFteid = some bearer.sgwFteidS5S8Up ∧ bearer.released = false)

instance : Decidable (Changes bearer it) := inferInstanceAs (Decidable (¬_))

/-- What `run` answers for a context itself. -/
def answerOf (bearer : EpsBearer) (it : BearerContextToBeModified) :
    Option BearerContextModified :=
  if bearer.ebi ≠ it.target then some { ebi := bearer.ebi, cause := .systemFailure }
  else if Changes bearer it then none
  else some { ebi := bearer.ebi, cause := .requestAccepted }

/-- The FARs that it updates for a context. -/
def farsOf (bearer : EpsBearer) (it : BearerContextToBeModified) : List UpdateFar :=
  match it.s1UEnbFteid, bearer.farIdDl with
  | some v, some farId =>
      if bearer.ebi = it.target ∧ Changes bearer it then
        [⟨farId, .forw, some v.outerHeaderCreation⟩, ⟨bearer.farIdUl.getD 0, .forw, none⟩]
      else
        []
  | _, _ => []

/-- A bearer as `run` leaves it: new rules for the downlink, or as it was. -/
structure Kept (bearer later : EpsBearer) : Prop where
  ebi : later.ebi = bearer.ebi
  sgwFteid : later.sgwFteidS5S8Up = bearer.sgwFteidS5S8Up
  pgwFteid : later.pgwFteidS5S8Up = bearer.pgwFteidS5S8Up
  released : later.released = bearer.released
  farIdUl : later.farIdUl = bearer.farIdUl
  farIdDl : bearer.farIdDl.isSome → later.farIdDl = bearer.farIdDl

theorem Kept.refl (bearer : EpsBearer) : Kept bearer bearer :=
  ⟨rfl, rfl, rfl, rfl, rfl, fun _ => rfl⟩

theorem Kept.trans {first second third : EpsBearer} (left : Kept first second)
    (right : Kept second third) : Kept first third where
  ebi := right.ebi.trans left.ebi
  sgwFteid := right.sgwFteid.trans left.sgwFteid
  pgwFteid := right.pgwFteid.trans left.pgwFteid
  released := right.released.trans left.released
  farIdUl := right.farIdUl.trans left.farIdUl
  farIdDl some := (right.farIdDl (by rw [left.farIdDl some]; exact some)).trans (left.farIdDl some)

theorem bearerAt_put (ebi key : Nat) (peb : EpsBearer) :
    (m.put ebi peb).bearerAt key = if key = ebi then peb else m.bearerAt key := by
  rw [bearerAt, getElem?_put]
  split
  · rfl
  · rfl

/-- One pass: what is answered, what is updated and what becomes of the bearers. -/
theorem Handled.spec (handled : Handled m it (m.bearerAt it.target) next) :
    next.modified = m.modified ++ (answerOf (m.bearerAt it.target) it).toList ∧
      next.rules.updateFars = m.rules.updateFars ++ farsOf (m.bearerAt it.target) it ∧
      Kept (m.bearerAt it.target) (next.bearerAt it.target) ∧
      ∀ key, key ≠ it.target → next.bearerAt key = m.bearerAt key := by
  have itself (m : Modification) (peb : EpsBearer) :
      (m.put it.target peb).bearerAt it.target = peb := by
    rw [bearerAt_put, if_pos rfl]
  have others (m : Modification) (peb : EpsBearer) (key : Nat) (other : key ≠ it.target) :
      (m.put it.target peb).bearerAt key = m.bearerAt key := by
    rw [bearerAt_put, if_neg other]
  cases handled with
  | missing other same =>
      refine ⟨?_, ?_, ?_, ?_⟩
      · rw [same, answerOf, if_pos other]
        rfl
      · rw [same, farsOf]
        split
        · rw [if_neg fun both => other both.1, List.append_nil]
          rfl
        · rw [List.append_nil]
          rfl
      · rw [same]
        show Kept _ ((m.put it.target _).bearerAt it.target)
        rw [itself]
        exact .refl _
      · intro key different
        rw [same]
        exact others m _ key different
  | unchanged own given active same =>
      have still : ¬Changes (m.bearerAt it.target) it := fun changes => changes ⟨given, active⟩
      refine ⟨?_, ?_, ?_, ?_⟩
      · rw [same, answerOf, if_neg (not_not.mpr own), if_neg still]
        rfl
      · rw [same, farsOf]
        split
        · rw [if_neg fun both => still both.2, List.append_nil]
          rfl
        · rw [List.append_nil]
          rfl
      · rw [same]
        show Kept _ ((m.put it.target _).bearerAt it.target)
        rw [itself]
        exact .refl _
      · intro key different
        rw [same]
        exact others m _ key different
  | kept own given same =>
      have changes : Changes (m.bearerAt it.target) it := by
        intro both
        rw [given] at both
        cases both.1
      refine ⟨?_, ?_, ?_, ?_⟩
      · rw [same, answerOf, if_neg (not_not.mpr own), if_pos changes]
        exact (List.append_nil _).symm
      · rw [same, farsOf, given]
        exact (List.append_nil _).symm
      · rw [same, itself]
        exact .refl _
      · intro key different
        rw [same]
        exact others m _ key different
  | updated v farId own given changed nonzero far pdr same =>
      have changes : Changes (m.bearerAt it.target) it := by
        intro both
        rw [given] at both
        exact changed ⟨Option.some.inj both.1, both.2⟩
      refine ⟨?_, ?_, ?_, ?_⟩
      · rw [same, answerOf, if_neg (not_not.mpr own), if_pos changes]
        exact (List.append_nil _).symm
      · rw [same, farsOf, given, far]
        dsimp only
        rw [if_pos ⟨own, changes⟩]
        exact List.append_assoc _ _ _
      · rw [same, itself]
        exact .refl _
      · intro key different
        rw [same]
        exact others _ _ key different
  | created v farIds pdrIds farId pdrId own given changed unset draws same =>
      have changes : Changes (m.bearerAt it.target) it := by
        intro both
        rw [given] at both
        exact changed ⟨Option.some.inj both.1, both.2⟩
      refine ⟨?_, ?_, ?_, ?_⟩
      · rw [same, answerOf, if_neg (not_not.mpr own), if_pos changes]
        exact (List.append_nil _).symm
      · rw [same, farsOf, given, unset.2]
        exact (List.append_nil _).symm
      · rw [same, itself]
        refine ⟨rfl, rfl, rfl, rfl, rfl, fun some => ?_⟩
        rw [unset.2] at some
        cases some
      · intro key different
        rw [same]
        exact others _ _ key different

/-- The whole loop, for contexts of different bearers. -/
theorem bearers_spec (sound : m.pdn.Sound)
    (distinct : (its.map BearerContextToBeModified.target).Nodup)
    (ran : m.bearers its = some next) :
    next.modified = m.modified ++ its.filterMap (fun it => answerOf (m.bearerAt it.target) it) ∧
      next.rules.updateFars =
        m.rules.updateFars ++ its.flatMap (fun it => farsOf (m.bearerAt it.target) it) ∧
      ∀ key, Kept (m.bearerAt key) (next.bearerAt key) := by
  induction its generalizing m with
  | nil =>
      cases ran
      exact ⟨(List.append_nil _).symm, (List.append_nil _).symm, fun _ => .refl _⟩
  | cons it its inductionHypothesis =>
      rw [List.map_cons, List.nodup_cons] at distinct
      obtain ⟨middle, first, later⟩ := Option.bind_eq_some_iff.mp ran
      have handled := handled_of_bearer sound first
      obtain ⟨answered, updated, own, others⟩ := handled.spec
      obtain ⟨rest, fars, kept⟩ := inductionHypothesis (handled.sound sound) distinct.2 later
      have same : ∀ other ∈ its, middle.bearerAt other.target = m.bearerAt other.target := by
        intro other member
        apply others
        intro equal
        rw [← equal] at distinct
        exact distinct.1 (List.mem_map_of_mem member)
      have answers : its.filterMap (fun it => answerOf (middle.bearerAt it.target) it) =
          its.filterMap fun it => answerOf (m.bearerAt it.target) it :=
        List.filterMap_congr fun other member => by rw [same other member]
      have rules : its.flatMap (fun it => farsOf (middle.bearerAt it.target) it) =
          its.flatMap fun it => farsOf (m.bearerAt it.target) it :=
        List.flatMap_congr fun other member => by rw [same other member]
      refine ⟨?_, ?_, ?_⟩
      · rw [rest, answered, List.append_assoc, answers, List.filterMap_cons]
        cases answerOf (m.bearerAt it.target) it with
        | none => rfl
        | some done => rfl
      · rw [fars, updated, List.append_assoc, rules, List.flatMap_cons]
      · intro key
        by_cases here : key = it.target
        · rw [here]
          exact own.trans (kept it.target)
        · rw [← others key here]
          exact kept key

end Modification

/-- `eps_bearers[ebi]` for a bearer context. -/
abbrev PdnConnection.bearerFor (pdn : PdnConnection) (it : BearerContextToBeModified) :
    EpsBearer :=
  pdn.epsBearers[it.target]?.getD {}

/-! ### Rules of the bearers of a request -/

namespace Modification

variable {pdn : PdnConnection} {its : List BearerContextToBeModified} {m : Modification}

/-- A rule of this bearer is updated for the context. -/
def Updates (bearer : EpsBearer) (it : BearerContextToBeModified) : Prop :=
  bearer.ebi = it.target ∧ Changes bearer it ∧ it.s1UEnbFteid.isSome ∧ bearer.farIdDl.isSome

instance {bearer : EpsBearer} : DecidablePred (Updates bearer) :=
  fun _ => inferInstanceAs (Decidable (_ ∧ _))

theorem farsOf_of_not_updates {bearer : EpsBearer} {it : BearerContextToBeModified}
    (idle : ¬Updates bearer it) : farsOf bearer it = [] := by
  unfold farsOf
  split
  · next v farId given far =>
      rw [if_neg]
      intro both
      exact idle ⟨both.1, both.2, by rw [given]; rfl, by rw [far]; rfl⟩
  · rfl

theorem farsOf_of_updates {bearer : EpsBearer} {it : BearerContextToBeModified}
    (updates : Updates bearer it) :
    ∃ farId outer, bearer.farIdDl = some farId ∧ farsOf bearer it =
      [⟨farId, .forw, outer⟩, ⟨bearer.farIdUl.getD 0, .forw, none⟩] := by
  obtain ⟨own, changes, given, far⟩ := updates
  obtain ⟨v, given⟩ := Option.isSome_iff_exists.mp given
  obtain ⟨farId, far⟩ := Option.isSome_iff_exists.mp far
  refine ⟨farId, some v.outerHeaderCreation, far, ?_⟩
  rw [farsOf, given, far]
  exact if_pos ⟨own, changes⟩

/-- The loop of a request for different bearers has run over a sound connection. -/
structure Requested (pdn : PdnConnection) (its : List BearerContextToBeModified)
    (m : Modification) : Prop where
  sound : pdn.Sound
  distinct : (its.map BearerContextToBeModified.target).Nodup
  ran : Modification.bearers { pdn := pdn } its = some m

namespace Requested

theorem modified (requested : Requested pdn its m) :
    m.modified = its.filterMap fun it => answerOf (pdn.bearerFor it) it :=
  (bearers_spec requested.sound requested.distinct requested.ran).1

theorem updateFars (requested : Requested pdn its m) :
    m.rules.updateFars = its.flatMap fun it => farsOf (pdn.bearerFor it) it :=
  (bearers_spec requested.sound requested.distinct requested.ran).2.1

theorem kept (requested : Requested pdn its m) (it : BearerContextToBeModified) :
    Kept (pdn.bearerFor it) (m.pdn.bearerFor it) :=
  (bearers_spec requested.sound requested.distinct requested.ran).2.2 it.target

theorem sound_after (requested : Requested pdn its m) : m.pdn.Sound :=
  sound_of_bearers requested.sound requested.ran

theorem stored (requested : Requested pdn its m) {it : BearerContextToBeModified}
    (member : it ∈ its) : m.pdn.epsBearers[it.target]? = some (m.pdn.bearerFor it) := by
  obtain ⟨later, found, _⟩ := (settled_of_bearers requested.sound requested.ran).2 it member
  rw [PdnConnection.bearerFor, found, Option.getD_some]

/-- There is one context for a bearer. -/
theorem eq_of_target (requested : Requested pdn its m) {it other : BearerContextToBeModified}
    (member : it ∈ its) (inside : other ∈ its) (same : it.target = other.target) : it = other :=
  List.inj_on_of_nodup_map requested.distinct member inside same

/-- The answers of the loop are accepted once all bearers are found. -/
theorem reports (requested : Requested pdn its m)
    (found : ∀ it ∈ its, (pdn.bearerFor it).ebi = it.target) :
    Gateway.Reports m.modified ((its.filter fun it => ¬Changes (pdn.bearerFor it) it).map
      BearerContextToBeModified.target) := by
  rw [requested.modified]
  clear requested
  induction its with
  | nil => exact Gateway.reports_nil
  | cons it its inductionHypothesis =>
      rw [List.forall_mem_cons] at found
      have rest := inductionHypothesis found.2
      by_cases changes : Changes (pdn.bearerFor it) it
      · have silent : answerOf (pdn.bearerFor it) it = none := by
          rw [answerOf, if_neg (not_not.mpr found.1), if_pos changes]
        simp only [List.filterMap_cons, silent]
        rw [List.filter_cons_of_neg (by simpa using changes)]
        exact rest
      · have told : answerOf (pdn.bearerFor it) it =
            some ⟨(pdn.bearerFor it).ebi, .requestAccepted, none⟩ := by
          rw [answerOf, if_neg (not_not.mpr found.1), if_neg changes]
        simp only [List.filterMap_cons, told]
        rw [List.filter_cons_of_pos (by simpa using changes), List.map_cons, ← found.1]
        exact rest.cons rfl

/-- A bearer whose EBI is listed by the loop is found. -/
theorem found_of_answer (requested : Requested pdn its m) {done : BearerContextModified}
    (member : done ∈ m.modified) (assigned : done.ebi ≠ 0) {it : BearerContextToBeModified}
    (own : it.target = done.ebi) : (pdn.bearerFor it).ebi = it.target := by
  rw [requested.modified] at member
  obtain ⟨other, inside, told⟩ := List.mem_filterMap.mp member
  have listed : done.ebi = (pdn.bearerFor other).ebi := by
    unfold answerOf at told
    split at told
    · cases told
      rfl
    · split at told
      · cases told
      · cases told
        rfl
  have placed : (pdn.bearerFor other).ebi = other.target := by
    rw [listed] at assigned
    cases placed_bearerAt (m := { pdn := pdn }) requested.sound other.target with
    | assigned own range up down => exact own
    | unassigned own noPgw active up down => exact absurd own assigned
  have same : it.target = other.target := own.trans (listed.trans placed)
  rw [PdnConnection.bearerFor, same]
  exact placed

/-- The bearer of a FAR is the one of the context it is updated for. -/
theorem own_of_far (requested : Requested pdn its m) {it : BearerContextToBeModified}
    (member : it ∈ its) {far : UpdateFar} (updated : far ∈ farsOf (pdn.bearerFor it) it)
    {bearer : EpsBearer} (hit : m.pdn.bearerOfFarId far.farId = some bearer) :
    bearer.ebi = it.target := by
  have updates : Updates (pdn.bearerFor it) it := by
    by_contra idle
    rw [farsOf_of_not_updates idle] at updated
    cases updated
  obtain ⟨key, stored, holds⟩ := PdnConnection.exists_of_bearerOfFarId hit
  have sound := requested.sound_after
  have kept := requested.kept it
  have there := requested.stored member
  -- no bearer has the FAR identifier zero
  have nonzero : far.farId ≠ 0 := by
    intro zero
    rw [zero] at holds
    have unset {full : Prop} {pdrId : Nat} {farId : Option Nat}
        (down : EpsBearer.Unset pdrId farId ∨ EpsBearer.Paired full pdrId farId) :
        farId ≠ some 0 := by
      cases down with
      | inl none =>
          rw [none.2]
          exact nofun
      | inr paired =>
          obtain ⟨id, some, same, _⟩ := paired
          rw [same]
          exact fun zero => some (Option.some.inj zero)
    cases sound.placed key bearer stored with
    | assigned own range up down => exact holds.elim (unset (.inr up)) (unset down)
    | unassigned own noPgw active up down =>
        exact holds.elim (@unset True _ _ (.inl up)) (unset (down.imp_right And.right))
  have held : ∃ direction, m.pdn.HasFar far.farId it.target direction := by
    obtain ⟨farId, outer, downlink, both⟩ := farsOf_of_updates updates
    have same : (m.pdn.bearerFor it).farIdDl = some farId :=
      (kept.farIdDl updates.2.2.2).trans downlink
    rw [both, List.mem_cons, List.mem_singleton] at updated
    cases updated with
    | inl first =>
        rw [first] at nonzero ⊢
        exact ⟨.downlink, _, there, EpsBearer.far_downlink_eq_some.mpr ⟨same, nonzero⟩⟩
    | inr second =>
        rw [second] at nonzero ⊢
        refine ⟨.uplink, _, there, EpsBearer.far_uplink_eq_some.mpr ⟨?_, nonzero⟩⟩
        rw [kept.farIdUl]
        cases given : (pdn.bearerFor it).farIdUl with
        | some id => rfl
        | none =>
            rw [given] at nonzero
            exact absurd rfl nonzero
  obtain ⟨direction, held⟩ := held
  have found : ∃ other, m.pdn.HasFar far.farId key other := by
    cases holds with
    | inl uplink =>
        exact ⟨.uplink, bearer, stored, EpsBearer.far_uplink_eq_some.mpr ⟨uplink, nonzero⟩⟩
    | inr downlink =>
        exact ⟨.downlink, bearer, stored, EpsBearer.far_downlink_eq_some.mpr ⟨downlink, nonzero⟩⟩
  obtain ⟨other, holds⟩ := found
  have same : key = it.target := (sound.farApart _ _ _ _ _ holds held).1
  rw [same, there] at stored
  rw [← Option.some.inj stored, kept.ebi]
  exact updates.1

/-- Both FARs of a context name a bearer with an identity. -/
theorem farEbis_of_updates (requested : Requested pdn its m) {it : BearerContextToBeModified}
    (member : it ∈ its) (updates : Updates (pdn.bearerFor it) it) (assigned : it.target ≠ 0)
    {left : List BearerContextToBeModified} (waits : it ∈ left) :
    Gateway.farEbis m.pdn left (farsOf (pdn.bearerFor it) it) = [it.target, it.target] := by
  have kept := requested.kept it
  have there := requested.stored member
  have inside : it.target ∈ left.map BearerContextToBeModified.target := List.mem_map_of_mem waits
  have own (far : UpdateFar) (updated : far ∈ farsOf (pdn.bearerFor it) it)
      (holds : (m.pdn.bearerFor it).farIdUl = some far.farId ∨
        (m.pdn.bearerFor it).farIdDl = some far.farId) :
      Gateway.farEbis m.pdn left [far] = [it.target] := by
    have exists_ := PdnConnection.isSome_bearerOfFarId there holds
    obtain ⟨bearer, hit⟩ := Option.isSome_iff_exists.mp exists_
    rw [Gateway.farEbis_of_some hit, requested.own_of_far member updated hit, if_pos inside]
  obtain ⟨farId, outer, downlink, both⟩ := farsOf_of_updates updates
  rw [both] at own ⊢
  rw [Gateway.farEbis_cons, own _ List.mem_cons_self, own]
  · rfl
  · exact List.mem_cons_of_mem _ List.mem_cons_self
  · left
    rw [kept.farIdUl]
    cases placed_bearerAt (m := { pdn := pdn }) requested.sound it.target with
    | assigned own range up down =>
        obtain ⟨id, _, given, _⟩ := up
        have given : (pdn.bearerFor it).farIdUl = some id := given
        rw [given]
        rfl
    | unassigned own noPgw active up down => exact absurd (updates.1.symm.trans own) assigned
  · right
    exact (kept.farIdDl updates.2.2.2).trans downlink

end Requested

end Modification

/-! ### The response -/

namespace EpsBearer

/-- A rule of the bearer has this PDR identifier. -/
def OwnsPdr (bearer : EpsBearer) (pdrId : Nat) : Prop :=
  (bearer.farIdUl.isSome ∧ bearer.pdrIdUl = pdrId) ∨
    (bearer.farIdDl.isSome ∧ bearer.pdrIdDl = pdrId)

instance {bearer : EpsBearer} : DecidablePred bearer.OwnsPdr :=
  fun _ => inferInstanceAs (Decidable (_ ∨ _))

/-- The F-TEIDs of the created PDRs that are the bearer's own. -/
def ownFteids (bearer : EpsBearer) (createdPdrs : List CreatedPdr) : List UserPlaneFteid :=
  (createdPdrs.filter fun created => created.pdrId.any fun pdrId => bearer.OwnsPdr pdrId).filterMap
    fun created => created.localFteid.map fun fteid => { fteid with interfaceType := s5s8PgwGtpU }

/-- The F-TEID is one of them, or the one of the bearer where there are none. -/
def Takes (bearer : EpsBearer) (createdPdrs : List CreatedPdr) (fteid : UserPlaneFteid) : Prop :=
  fteid ∈ bearer.ownFteids createdPdrs ∨
    (bearer.ownFteids createdPdrs = [] ∧ fteid = bearer.pgwFteidS5S8Up)

instance {bearer : EpsBearer} {createdPdrs : List CreatedPdr} :
    DecidablePred (bearer.Takes createdPdrs) :=
  fun _ => inferInstanceAs (Decidable (_ ∨ _))

end EpsBearer

namespace Gateway

/-- The F-TEID of the user plane that a pairing brings. -/
def Pairing.brought (p : Pairing) (before : UserPlaneFteid) : UserPlaneFteid :=
  (p.created.localFteid.map fun fteid => { fteid with interfaceType := s5s8PgwGtpU }).getD before

/-- The answer is correlated with the request and the Sx response by EBI. `before` is the
connection when the response comes, `after` when the answer has been sent. -/
structure Correlated (its : List BearerContextToBeModified) (createdPdrs : List CreatedPdr)
    (before after : PdnConnection) (answer : ModifyBearerResponse) : Prop where
  listed : (answer.bearerContextsModified.map BearerContextModified.ebi).Perm
    (its.map BearerContextToBeModified.target)
  serving : ∀ it ∈ its, (before.bearerFor it).ebi = it.target →
    (after.bearerFor it).sgwFteidS5S8Up = it.carried (before.bearerFor it).sgwFteidS5S8Up
  userPlane : ∀ it ∈ its, (before.bearerFor it).ebi = it.target →
    (before.bearerFor it).Takes createdPdrs (after.bearerFor it).pgwFteidS5S8Up
  untouched : ∀ key, key ∉ its.map BearerContextToBeModified.target →
    after.epsBearers[key]? = before.epsBearers[key]?
  accepted : answer.cause = some .requestAccepted ↔
    ∀ done ∈ answer.bearerContextsModified, done.cause = .requestAccepted
  partially : answer.cause = some .requestAcceptedPartially ↔
    (∃ done ∈ answer.bearerContextsModified, done.cause = .requestAccepted) ∧
      ∃ done ∈ answer.bearerContextsModified, done.cause ≠ .requestAccepted

/-- The created PDRs fit the bearer contexts. `pdn` is the connection before the request,
`asked` the one that the request leaves. -/
structure Matches (its : List BearerContextToBeModified) (response : SessionModificationResponse)
    (pdn asked : PdnConnection) : Prop where
  accepted : response.cause = some causeValueRequestAccepted ∨ response.cause = none
  found : ∀ it ∈ its, (pdn.bearerFor it).ebi = it.target
  named : ((pairings asked response.createdPdrs its).map Pairing.ebi).Perm
    ((its.filter fun it => Modification.Changes (pdn.bearerFor it) it).map
      BearerContextToBeModified.target)
  created : response.cause = some causeValueRequestAccepted →
    ∀ it ∈ its.drop (pairings asked response.createdPdrs its).length,
      ¬Modification.Updates (pdn.bearerFor it) it
  serving : ∀ p ∈ pairings asked response.createdPdrs its, ∀ it ∈ its, it.target = p.ebi →
    it.target ≠ 0 → p.context.carried (pdn.bearerFor it).sgwFteidS5S8Up =
      it.carried (pdn.bearerFor it).sgwFteidS5S8Up
  unassigned : ∀ it ∈ its, it.target = 0 →
    it.carried (pdn.bearerFor it).sgwFteidS5S8Up = (pdn.bearerFor it).sgwFteidS5S8Up
  userPlane : ∀ p ∈ pairings asked response.createdPdrs its, ∀ it ∈ its, it.target = p.ebi →
    it.target ≠ 0 → (asked.bearerFor it).Takes response.createdPdrs
      (p.brought (asked.bearerFor it).pgwFteidS5S8Up)
  silent : ∀ it ∈ its, it.target = 0 ∨ ¬Modification.Changes (pdn.bearerFor it) it →
    (asked.bearerFor it).Takes response.createdPdrs (asked.bearerFor it).pgwFteidS5S8Up

instance {its : List BearerContextToBeModified} {response : SessionModificationResponse}
    {pdn asked : PdnConnection} : Decidable (Matches its response pdn asked) :=
  decidable_of_iff (_ ∧ _ ∧ _ ∧ _ ∧ _ ∧ _ ∧ _ ∧ _)
    ⟨fun ⟨accepted, found, named, created, serving, unassigned, userPlane, silent⟩ =>
      ⟨accepted, found, named, created, serving, unassigned, userPlane, silent⟩,
    fun fits => ⟨fits.accepted, fits.found, fits.named, fits.created, fits.serving,
      fits.unassigned, fits.userPlane, fits.silent⟩⟩

/-- Where all bearers are accepted, the final cause is whatever comes with the message. -/
theorem finalCause_eq_accepted_iff {c : Completion}
    (all : ∀ done ∈ c.modified, done.cause = .requestAccepted) (cause : Cause) :
    c.finalCause cause = .requestAccepted ↔ cause = .requestAccepted := by
  unfold Completion.finalCause
  induction c.toBeModified generalizing cause with
  | nil => exact .rfl
  | cons it its inductionHypothesis =>
      rw [List.foldl_cons, inductionHypothesis]
      cases hit : it.epsBearerId.bind fun ebi =>
          c.modified.find? fun done => done.ebi == ebi with
      | none => exact .rfl
      | some done =>
          obtain ⟨ebi, _, found⟩ := Option.bind_eq_some_iff.mp hit
          have accepted := all done (List.mem_of_find?_eq_some found)
          dsimp only
          rw [accepted]
          by_cases same : cause = .requestAccepted
          · rw [if_pos (by rw [same])]
          · rw [if_neg (by simpa using same)]
            exact iff_of_false nofun same

theorem pfcpCauseToCoreCause_eq_accepted_iff {cause : Nat} :
    pfcpCauseToCoreCause cause = .requestAccepted ↔ cause = causeValueRequestAccepted := by
  unfold pfcpCauseToCoreCause
  constructor
  · intro accepted
    by_contra other
    have other : ¬cause = 1 := other
    rw [if_neg other] at accepted
    split at accepted
    · cases accepted
    · split at accepted
      · cases accepted
      · cases accepted
  · exact fun same => if_pos same

variable {pdn : PdnConnection} {its : List BearerContextToBeModified} {m : Modification}
  {pending : ModifyBearerResponse} {response : SessionModificationResponse}

/-- The bearer contexts that no created PDR is paired with. -/
def leftover (asked : PdnConnection) (its : List BearerContextToBeModified)
    (response : SessionModificationResponse) : List BearerContextToBeModified :=
  its.drop (pairings asked response.createdPdrs its).length

/-- The EBIs that are answered for updated FARs. -/
def updatedEbis (m : Modification) (its : List BearerContextToBeModified)
    (response : SessionModificationResponse) : List Nat :=
  if response.cause = some causeValueRequestAccepted then
    farEbis m.pdn (leftover m.pdn its response) m.rules.updateFars
  else
    []

/-- The answer, with what the loop of the request has answered first. -/
theorem answer_eq (response : SessionModificationResponse) (sound : m.pdn.Sound)
    (same : pending.bearerContextsModified = m.modified) :
    ∃ created updated,
      Reports created ((pairings m.pdn response.createdPdrs its).map Pairing.ebi) ∧
      Reports updated (updatedEbis m its response) ∧
      (completed m.pdn its m.rules.updateFars pending response).2.bearerContextsModified =
        m.modified ++ (created ++ updated) ∧
      ∃ c : Completion, c.modified = m.modified ++ (created ++ updated) ∧
        (completed m.pdn its m.rules.updateFars pending response).2.cause =
          some (c.finalCause ((response.cause.map pfcpCauseToCoreCause).getD .requestAccepted)) := by
  obtain ⟨created, reports, written⟩ := foldl_createdPdr_eq response.createdPdrs
    ⟨m.pdn, its, pending.bearerContextsModified⟩ sound.homed
  rw [same] at written
  unfold completed updatedEbis
  dsimp only
  rw [same, written]
  by_cases accepted : response.cause = some causeValueRequestAccepted
  · rw [if_pos accepted, if_pos accepted]
    have homed := sound.homed.mapBearers
      (sameIds_writtenBy (pairings m.pdn response.createdPdrs its))
    obtain ⟨updated, more, _, modified⟩ := foldl_updatedFar_eq m.rules.updateFars
      ⟨m.pdn.mapBearers (writtenBy (pairings m.pdn response.createdPdrs its)),
        leftover m.pdn its response, m.modified ++ created⟩ homed
    rw [farEbis_mapBearers (sameIds_writtenBy _)] at more
    rw [List.append_assoc] at modified
    exact ⟨created, updated, reports, more, modified, _, modified, rfl⟩
  · rw [if_neg accepted, if_neg accepted]
    refine ⟨created, [], reports, reports_nil, ?_, _, ?_, rfl⟩
    · rw [List.append_nil]
    · rw [List.append_nil]

/-- The connection, if nothing is answered for updated FARs. -/
theorem completed_of_silent (sound : m.pdn.Sound) (silent : updatedEbis m its response = []) :
    (completed m.pdn its m.rules.updateFars pending response).1 =
      m.pdn.mapBearers (writtenBy (pairings m.pdn response.createdPdrs its)) := by
  obtain ⟨created, _, written⟩ := foldl_createdPdr_eq response.createdPdrs
    ⟨m.pdn, its, pending.bearerContextsModified⟩ sound.homed
  unfold completed
  unfold updatedEbis at silent
  dsimp only
  rw [written]
  by_cases accepted : response.cause = some causeValueRequestAccepted
  · rw [if_pos accepted] at silent ⊢
    rw [foldl_updatedFar_eq_self (sound.homed.mapBearers (sameIds_writtenBy _))]
    rw [farEbis_mapBearers (sameIds_writtenBy _)]
    exact silent
  · rw [if_neg accepted]

/-- Nothing is answered for FARs unless the context of one is left. -/
theorem updatedEbis_eq_nil (requested : Modification.Requested pdn its m)
    (created : response.cause = some causeValueRequestAccepted →
      ∀ it ∈ leftover m.pdn its response, ¬Modification.Updates (pdn.bearerFor it) it) :
    updatedEbis m its response = [] := by
  unfold updatedEbis
  by_cases accepted : response.cause = some causeValueRequestAccepted
  · rw [if_pos accepted, farEbis, List.filterMap_eq_nil_iff]
    intro far updated
    rw [requested.updateFars, List.mem_flatMap] at updated
    obtain ⟨it, member, updated⟩ := updated
    cases hit : m.pdn.bearerOfFarId far.farId with
    | none => rfl
    | some bearer =>
        have own := requested.own_of_far member updated hit
        rw [Option.map_some, Option.filter_some, if_neg]
        rw [decide_eq_true_iff]
        intro waits
        obtain ⟨other, left, same⟩ := List.mem_map.mp waits
        have inside := List.mem_of_mem_drop left
        have equal := requested.eq_of_target inside member (same.trans own)
        apply created accepted other left
        rw [equal]
        by_contra idle
        rw [Modification.farsOf_of_not_updates idle] at updated
        cases updated
  · exact if_neg accepted

/-- The answer of a modify bearer procedure. -/
abbrev answerTo (m : Modification) (its : List BearerContextToBeModified)
    (pending : ModifyBearerResponse) (response : SessionModificationResponse) :
    ModifyBearerResponse :=
  (completed m.pdn its m.rules.updateFars pending response).2

/-- The EBIs that are listed. -/
theorem ebis_eq (requested : Modification.Requested pdn its m)
    (same : pending.bearerContextsModified = m.modified) :
    (answerTo m its pending response).bearerContextsModified.map BearerContextModified.ebi =
      m.modified.map BearerContextModified.ebi ++
        ((pairings m.pdn response.createdPdrs its).map Pairing.ebi ++
          updatedEbis m its response) := by
  obtain ⟨created, updated, reports, more, listed, _⟩ :=
    answer_eq response requested.sound_after same
  rw [listed, List.map_append, List.map_append, reports.ebis, more.ebis]

/-- A bearer that is listed is found. -/
theorem found_of_listed (response : SessionModificationResponse)
    (requested : Modification.Requested pdn its m)
    (same : pending.bearerContextsModified = m.modified) {it : BearerContextToBeModified}
    (listed : it.target ∈
      (answerTo m its pending response).bearerContextsModified.map BearerContextModified.ebi) :
    (pdn.bearerFor it).ebi = it.target := by
  by_cases assigned : it.target = 0
  · cases Modification.placed_bearerAt (m := { pdn := pdn }) requested.sound it.target with
    | assigned own range up down => exact own
    | unassigned own noPgw active up down => exact Eq.trans own assigned.symm
  · have known (stored : ∃ (key : Nat) (bearer : EpsBearer),
        m.pdn.epsBearers[key]? = some bearer ∧ bearer.ebi = it.target) :
        (pdn.bearerFor it).ebi = it.target := by
      obtain ⟨key, bearer, there, own⟩ := stored
      have home := requested.sound_after.own_of_stored there (by rw [own]; exact assigned)
      rw [← home.1, own] at there
      rw [← (requested.kept it).ebi, PdnConnection.bearerFor, there, Option.getD_some]
      exact own
    rw [ebis_eq requested same, List.mem_append, List.mem_append] at listed
    obtain first | second | third := listed
    · obtain ⟨done, member, own⟩ := List.mem_map.mp first
      exact requested.found_of_answer member (by rw [own]; exact assigned) own.symm
    · obtain ⟨p, member, own⟩ := List.mem_map.mp second
      obtain ⟨key, bearer, stored, ebi⟩ := exists_of_mem_pairings member
      exact known ⟨key, bearer, stored, ebi.trans own⟩
    · apply known
      unfold updatedEbis at third
      split at third
      · exact exists_of_mem_farEbis third
      · cases third

/-- All bearers that are found are accepted. -/
theorem accepted_of_found (response : SessionModificationResponse)
    (requested : Modification.Requested pdn its m)
    (same : pending.bearerContextsModified = m.modified)
    (found : ∀ it ∈ its, (pdn.bearerFor it).ebi = it.target) :
    ∀ done ∈ (answerTo m its pending response).bearerContextsModified,
      done.cause = .requestAccepted := by
  obtain ⟨created, updated, reports, more, listed, _⟩ :=
    answer_eq response requested.sound_after same
  intro done member
  rw [listed, List.mem_append, List.mem_append] at member
  obtain first | second | third := member
  · exact (requested.reports found).accepted done first
  · exact reports.accepted done second
  · exact more.accepted done third

/-- Then so is the request, unless the response rejects it. -/
theorem cause_eq_accepted_iff (requested : Modification.Requested pdn its m)
    (same : pending.bearerContextsModified = m.modified)
    (found : ∀ it ∈ its, (pdn.bearerFor it).ebi = it.target) :
    (answerTo m its pending response).cause = some .requestAccepted ↔
      response.cause = some causeValueRequestAccepted ∨ response.cause = none := by
  have all := accepted_of_found response requested same found
  obtain ⟨created, updated, _, _, listed, c, modified, cause⟩ :=
    answer_eq response requested.sound_after same
  rw [listed, ← modified] at all
  rw [cause, Option.some_inj, finalCause_eq_accepted_iff all]
  cases response.cause with
  | none => exact iff_of_true rfl (.inr rfl)
  | some value =>
      rw [Option.map_some, Option.getD_some, pfcpCauseToCoreCause_eq_accepted_iff, Option.some_inj]
      exact ⟨.inl, fun outcome => outcome.resolve_right nofun⟩

/-- Each requested EBI is listed once if there is one created PDR for each bearer with
something to do. -/
theorem listed_iff_named (requested : Modification.Requested pdn its m)
    (same : pending.bearerContextsModified = m.modified)
    (found : ∀ it ∈ its, (pdn.bearerFor it).ebi = it.target)
    (silent : updatedEbis m its response = []) :
    ((answerTo m its pending response).bearerContextsModified.map BearerContextModified.ebi).Perm
        (its.map BearerContextToBeModified.target) ↔
      ((pairings m.pdn response.createdPdrs its).map Pairing.ebi).Perm
        ((its.filter fun it => Modification.Changes (pdn.bearerFor it) it).map
          BearerContextToBeModified.target) := by
  have parts := (List.filter_append_perm
    (fun it => ¬Modification.Changes (pdn.bearerFor it) it) its).map
      BearerContextToBeModified.target
  simp only [decide_not, Bool.not_not, List.map_append] at parts
  have unchanged := (requested.reports found).ebis
  simp only [decide_not] at unchanged
  rw [ebis_eq requested same, silent, List.append_nil, unchanged]
  constructor
  · intro listed
    exact (List.perm_append_left_iff _).mp (listed.trans parts.symm)
  · intro named
    exact (named.append_left _).trans parts

/-- The created PDRs of the response are paired with the bearers with something to do, and
nothing is answered for updated FARs. -/
structure Named (pdn : PdnConnection) (its : List BearerContextToBeModified) (m : Modification)
    (response : SessionModificationResponse) : Prop extends Modification.Requested pdn its m where
  found : ∀ it ∈ its, (pdn.bearerFor it).ebi = it.target
  silent : updatedEbis m its response = []
  named : ((pairings m.pdn response.createdPdrs its).map Pairing.ebi).Perm
    ((its.filter fun it => Modification.Changes (pdn.bearerFor it) it).map
      BearerContextToBeModified.target)

namespace Named

variable {it : BearerContextToBeModified} {p : Pairing}

theorem nodup (named : Named pdn its m response) :
    ((pairings m.pdn response.createdPdrs its).map Pairing.ebi).Nodup :=
  named.named.nodup_iff.mpr (named.distinct.sublist (List.filter_sublist.map _))

theorem ebi (named : Named pdn its m response) (member : it ∈ its) :
    (m.pdn.bearerFor it).ebi = it.target :=
  (named.kept it).ebi.trans (named.found it member)

theorem ranged (named : Named pdn its m response) (member : it ∈ its)
    (assigned : it.target ≠ 0) : 5 ≤ it.target ∧ it.target ≤ 15 :=
  (named.sound_after.own_of_stored (named.stored member)
    (by rw [named.ebi member]; exact assigned)).2

/-- What becomes of the bearer of a context. -/
theorem bearerFor_eq (named : Named pdn its m response) (pending : ModifyBearerResponse)
    (member : it ∈ its) :
    (completed m.pdn its m.rules.updateFars pending response).1.bearerFor it =
      writtenBy (pairings m.pdn response.createdPdrs its) (m.pdn.bearerFor it) := by
  rw [completed_of_silent named.sound_after named.silent, PdnConnection.bearerFor,
    PdnConnection.getElem?_mapBearers, named.stored member, Option.map_some, Option.getD_some]

/-- The bearer of a pairing takes over its F-TEIDs. -/
theorem bearerFor_of_mem (named : Named pdn its m response) (pending : ModifyBearerResponse)
    (member : it ∈ its) (paired : p ∈ pairings m.pdn response.createdPdrs its)
    (own : it.target = p.ebi) (assigned : it.target ≠ 0) :
    (completed m.pdn its m.rules.updateFars pending response).1.bearerFor it =
      p.write (m.pdn.bearerFor it) := by
  have ebi := named.ebi member
  rw [named.bearerFor_eq pending member]
  exact writtenBy_of_mem named.nodup paired (own.symm.trans ebi.symm)
    (by rw [ebi]; exact named.ranged member assigned)

/-- A bearer with nothing to do stays, and so does one without an identity. -/
theorem bearerFor_of_idle (named : Named pdn its m response) (pending : ModifyBearerResponse)
    (member : it ∈ its) (idle : it.target = 0 ∨ ¬Modification.Changes (pdn.bearerFor it) it) :
    (completed m.pdn its m.rules.updateFars pending response).1.bearerFor it =
      m.pdn.bearerFor it := by
  have ebi := named.ebi member
  rw [named.bearerFor_eq pending member]
  cases idle with
  | inl none =>
      apply writtenBy_of_not_ranged
      rw [ebi, none]
      omega
  | inr still =>
      apply writtenBy_of_absent
      rw [ebi, named.named.mem_iff]
      intro listed
      obtain ⟨other, inside, same⟩ := List.mem_map.mp listed
      obtain ⟨inside, changes⟩ := List.mem_filter.mp inside
      rw [named.eq_of_target inside member same] at changes
      exact still (of_decide_eq_true changes)

theorem exists_pairing (named : Named pdn its m response) (member : it ∈ its)
    (changes : Modification.Changes (pdn.bearerFor it) it) :
    ∃ p ∈ pairings m.pdn response.createdPdrs its, it.target = p.ebi := by
  have listed : it.target ∈ (pairings m.pdn response.createdPdrs its).map Pairing.ebi :=
    named.named.mem_iff.mpr (List.mem_map_of_mem
      (List.mem_filter.mpr ⟨member, decide_eq_true changes⟩))
  obtain ⟨p, paired, own⟩ := List.mem_map.mp listed
  exact ⟨p, paired, own.symm⟩

/-- Bearers without a context stay. -/
theorem untouched (named : Named pdn its m response) (pending : ModifyBearerResponse) {key : Nat}
    (other : key ∉ its.map BearerContextToBeModified.target) :
    (completed m.pdn its m.rules.updateFars pending response).1.epsBearers[key]? =
      m.pdn.epsBearers[key]? := by
  rw [completed_of_silent named.sound_after named.silent, PdnConnection.getElem?_mapBearers]
  cases stored : m.pdn.epsBearers[key]? with
  | none => rfl
  | some bearer =>
      rw [Option.map_some]
      by_cases assigned : bearer.ebi = 0
      · rw [writtenBy_of_not_ranged (by omega)]
      · rw [writtenBy_of_absent]
        rw [named.named.mem_iff, (named.sound_after.own_of_stored stored assigned).1]
        intro listed
        exact other ((List.filter_sublist.map _).subset listed)

end Named

theorem carried_of_unchanged {bearer : EpsBearer} {it : BearerContextToBeModified}
    (still : ¬Modification.Changes bearer it) :
    it.carried bearer.sgwFteidS5S8Up = bearer.sgwFteidS5S8Up := by
  rw [BearerContextToBeModified.carried, (not_not.mp still).1, Option.getD_some]

/-- Created PDRs that fit the contexts make a correlated answer. -/
theorem Matches.correlated (fits : Matches its response pdn m.pdn)
    (requested : Modification.Requested pdn its m)
    (same : pending.bearerContextsModified = m.modified) :
    Correlated its response.createdPdrs m.pdn
      (completed m.pdn its m.rules.updateFars pending response).1
      (answerTo m its pending response) := by
  have named : Named pdn its m response :=
    ⟨requested, fits.found, updatedEbis_eq_nil requested fits.created, fits.named⟩
  have all := accepted_of_found response requested same fits.found
  have accepted := (cause_eq_accepted_iff requested same fits.found).mpr fits.accepted
  constructor
  · exact (listed_iff_named requested same fits.found named.silent).mpr fits.named
  · intro it member _
    have kept := (requested.kept it).sgwFteid
    by_cases idle : it.target = 0 ∨ ¬Modification.Changes (pdn.bearerFor it) it
    · rw [named.bearerFor_of_idle pending member idle, kept]
      cases idle with
      | inl none => exact (fits.unassigned it member none).symm
      | inr still => exact (carried_of_unchanged still).symm
    · rw [not_or, not_not] at idle
      obtain ⟨p, paired, own⟩ := named.exists_pairing member idle.2
      rw [named.bearerFor_of_mem pending member paired own idle.1, kept,
        ← fits.serving p paired it member own idle.1, ← kept]
      rfl
  · intro it member _
    by_cases idle : it.target = 0 ∨ ¬Modification.Changes (pdn.bearerFor it) it
    · rw [named.bearerFor_of_idle pending member idle]
      exact fits.silent it member idle
    · rw [not_or, not_not] at idle
      obtain ⟨p, paired, own⟩ := named.exists_pairing member idle.2
      rw [named.bearerFor_of_mem pending member paired own idle.1]
      exact fits.userPlane p paired it member own idle.1
  · exact fun key other => named.untouched pending other
  · exact iff_of_true accepted all
  · apply iff_of_false
    · rw [accepted]
      exact nofun
    · rintro ⟨_, done, member, other⟩
      exact other (all done member)

/-- A bearer without an identity has the F-TEID of none of its contexts. -/
theorem carried_ne_of_unassigned (requested : Modification.Requested pdn its m)
    {it : BearerContextToBeModified} (none : it.target = 0)
    (updates : Modification.Updates (pdn.bearerFor it) it) :
    it.carried (pdn.bearerFor it).sgwFteidS5S8Up ≠ (pdn.bearerFor it).sgwFteidS5S8Up := by
  intro same
  obtain ⟨_, changes, given, _⟩ := updates
  obtain ⟨v, given⟩ := Option.isSome_iff_exists.mp given
  rw [BearerContextToBeModified.carried, given, Option.getD_some] at same
  apply changes
  refine ⟨given.trans (congrArg some same), ?_⟩
  cases Modification.placed_bearerAt (m := { pdn := pdn }) requested.sound it.target with
  | assigned own range up down => omega
  | unassigned own noPgw active up down => exact active

/-- A correlated answer lists nothing twice, so the contexts of updated FARs are used up. -/
theorem Correlated.created (requested : Modification.Requested pdn its m)
    (same : pending.bearerContextsModified = m.modified)
    (correlated : Correlated its response.createdPdrs m.pdn
      (completed m.pdn its m.rules.updateFars pending response).1 (answerTo m its pending response))
    (accepted : response.cause = some causeValueRequestAccepted)
    {it : BearerContextToBeModified} (waits : it ∈ leftover m.pdn its response) :
    ¬Modification.Updates (pdn.bearerFor it) it := by
  intro updates
  have member : it ∈ its := List.mem_of_mem_drop waits
  have kept := requested.kept it
  by_cases none : it.target = 0
  · have ebi : (m.pdn.bearerFor it).ebi = 0 := kept.ebi.trans (updates.1.trans none)
    have relabels := (requested.sound_after.completed its m.rules.updateFars pending
      response).bearers it.target
    rw [requested.stored member] at relabels
    have unwritten : (completed m.pdn its m.rules.updateFars pending response).1.bearerFor it =
        m.pdn.bearerFor it := by
      unfold PdnConnection.bearerFor
      cases later : (completed m.pdn its m.rules.updateFars pending
          response).1.epsBearers[it.target]? with
      | none =>
          rw [later] at relabels
          cases relabels
      | some bearer =>
          rw [later] at relabels
          cases relabels with
          | some relabelled => exact relabelled.unassigned ebi
    have serving := correlated.serving it member (kept.ebi.trans updates.1)
    rw [unwritten, kept.sgwFteid] at serving
    exact carried_ne_of_unassigned requested none updates serving.symm
  · have twice : [it.target, it.target].Sublist (updatedEbis m its response) := by
      rw [updatedEbis, if_pos accepted, requested.updateFars,
        ← requested.farEbis_of_updates member updates none waits]
      apply List.Sublist.filterMap
      rw [List.flatMap_def]
      exact List.sublist_flatten_of_mem (List.mem_map_of_mem member)
    have listed := correlated.listed.nodup_iff.mpr requested.distinct
    rw [ebis_eq requested same] at listed
    have distinct := listed.sublist ((List.sublist_append_right _ _).trans
      (List.sublist_append_right _ _))
    have single := distinct.sublist twice
    rw [List.nodup_cons] at single
    exact single.1 (List.mem_singleton_self _)

/-- The created PDRs of a correlated answer fit the contexts. -/
theorem Correlated.fits (requested : Modification.Requested pdn its m)
    (same : pending.bearerContextsModified = m.modified)
    (correlated : Correlated its response.createdPdrs m.pdn
      (completed m.pdn its m.rules.updateFars pending response).1
      (answerTo m its pending response)) : Matches its response pdn m.pdn := by
  have found : ∀ it ∈ its, (pdn.bearerFor it).ebi = it.target := by
    intro it member
    apply found_of_listed response requested same
    exact correlated.listed.mem_iff.mpr (List.mem_map_of_mem member)
  have all := accepted_of_found response requested same found
  have accepted := (cause_eq_accepted_iff requested same found).mp (correlated.accepted.mpr all)
  have created : response.cause = some causeValueRequestAccepted →
      ∀ it ∈ leftover m.pdn its response, ¬Modification.Updates (pdn.bearerFor it) it :=
    fun cause it waits => correlated.created requested same cause waits
  have silent := updatedEbis_eq_nil requested created
  have named : Named pdn its m response :=
    ⟨requested, found, silent,
      (listed_iff_named requested same found silent).mp correlated.listed⟩
  have serving (it : BearerContextToBeModified) (member : it ∈ its) :=
    correlated.serving it member (named.ebi member)
  have userPlane (it : BearerContextToBeModified) (member : it ∈ its) :=
    correlated.userPlane it member (named.ebi member)
  constructor
  · exact accepted
  · exact found
  · exact named.named
  · exact created
  · intro p paired it member own assigned
    have written := serving it member
    rw [named.bearerFor_of_mem pending member paired own assigned,
      (requested.kept it).sgwFteid] at written
    rw [← written, ← (requested.kept it).sgwFteid]
    rfl
  · intro it member none
    have written := serving it member
    rw [named.bearerFor_of_idle pending member (.inl none),
      (requested.kept it).sgwFteid] at written
    exact written.symm
  · intro p paired it member own assigned
    have written := userPlane it member
    rw [named.bearerFor_of_mem pending member paired own assigned] at written
    exact written
  · intro it member idle
    have written := userPlane it member
    rw [named.bearerFor_of_idle pending member idle] at written
    exact written

/-! ### Exchanges -/

variable {config : Config} {g middle later : Gateway}

/-- A request for different bearers and its Sx response, in every reachable state. The
response comes in any state in which the procedure is pending and its connection is as the
request left it. -/
theorem modification_correlated_iff
    {records : List (StepRecord Gateway Service.Action Service.Event)}
    (run : Run (Service.step config) (init config.pdns) records g)
    {request : ModifyBearerRequest} {sent : Bool} {trxnId seid : Nat} {rules : ModificationRules}
    (distinct : (request.bearerContextsToBeModified.map BearerContextToBeModified.target).Nodup)
    (asked : Service.step config g (.modifyBearer request sent) =
      some (middle, [.sessionModificationRequest trxnId seid rules]))
    {pc : Nat} {proc : Service.Procedure}
    (started : middle.procedures pc = g.procedures pc ++ [proc])
    (response : SessionModificationResponse)
    (routed : later.app.seid2pgwContext[response.seid]? = some pc)
    (waiting : later.findProcedure pc response.trxnId = some proc)
    (undisturbed : later.app.pdnConnections proc.ppc = middle.app.pdnConnections proc.ppc) :
    ∃ next answer, Service.step config later (.sessionModificationResponse response) =
        some (next, [.modifyBearerResponse answer]) ∧
      (Correlated request.bearerContextsToBeModified response.createdPdrs
          (middle.app.pdnConnections proc.ppc) (next.app.pdnConnections proc.ppc) answer ↔
        Matches request.bearerContextsToBeModified response (g.app.pdnConnections proc.ppc)
          (middle.app.pdnConnections proc.ppc)) := by
  obtain ⟨home, other, m, modifying⟩ := modifying_of_step asked
  have same : proc = other := eq_of_inserted modifying.inserted started
  rw [← same] at modifying
  obtain ⟨pending, modified, kind⟩ := modifying.kind
  have requested : Modification.Requested (g.app.pdnConnections proc.ppc)
      request.bearerContextsToBeModified m :=
    ⟨(orderly_of_run run).sound proc.ppc, distinct, modifying.ran⟩
  show ∃ next answer, some (later.handleSessionModificationResponse response) = _ ∧ _
  unfold handleSessionModificationResponse
  simp only [routed, waiting, kind]
  refine ⟨_, _, rfl, ?_⟩
  show Correlated _ _ _ (Function.update later.app.pdnConnections proc.ppc _ proc.ppc) _ ↔ _
  rw [Function.update_self, undisturbed, modifying.written]
  exact ⟨fun correlated => correlated.fits requested modified,
    fun fits => fits.correlated requested modified⟩

/-- A session of two bearers. -/
def twoBearers : List Service.Action :=
  [.session (.createSession { oneBearer 1 0 none with bearerContextsToBeCreated := [⟨5⟩, ⟨6⟩] }
      .sent 0),
    .session (.sessionEstablishmentResponse
      { seid := 1, trxnId := 1, cause := some causeValueRequestAccepted
        createdPdrs := [⟨some 1, some { v4 := true, teidGreKey := 9 }⟩,
          ⟨some 2, some { v4 := true, teidGreKey := 10 }⟩] })]

/-- Both get an eNB. -/
def twoHandovers : ModifyBearerRequest where
  teid := 1
  bearerContextsToBeModified :=
    [⟨some 5, some { teidGreKey := 7 }, none⟩, ⟨some 6, some { teidGreKey := 8 }, none⟩]

/-- The rules of the first bearer are 3, those of the second 4. -/
def twoRules : ModificationRules where
  createPdrs := [⟨3, .core, 3⟩, ⟨4, .core, 4⟩]
  createFars := [⟨3, .access, some ⟨7, 0⟩⟩, ⟨4, .access, some ⟨8, 0⟩⟩]

def createdRules (pdrIds : List Nat) : SessionModificationResponse where
  seid := 1
  trxnId := 2
  cause := some causeValueRequestAccepted
  createdPdrs := pdrIds.map fun pdrId => ⟨some pdrId, none⟩

/-- The procedure for both. -/
def bothHandovers : Service.Procedure :=
  ⟨2, 2, .modifyBearer twoHandovers.bearerContextsToBeModified [] ⟨0, 1, none, []⟩⟩

/-- Created PDRs in the order of the request are correlated. -/
theorem ordered_rules_correlated :
    ∃ records g middle next answer,
      Run (Service.step twoAddresses) (init twoAddresses.pdns) records g ∧
      Service.step twoAddresses g (.modifyBearer twoHandovers true) =
        some (middle, [.sessionModificationRequest 2 0 twoRules]) ∧
      Service.step twoAddresses middle (.sessionModificationResponse (createdRules [3, 4])) =
        some (next, [.modifyBearerResponse answer]) ∧
      Correlated twoHandovers.bearerContextsToBeModified (createdRules [3, 4]).createdPdrs
        (middle.app.pdnConnections 2) (next.app.pdnConnections 2) answer := by
  obtain ⟨records, g, run, passed⟩ := Run.exists_of_passes
    (Service.step twoAddresses) (init twoAddresses.pdns) twoBearers
    (fun _ g => (Service.step twoAddresses g (.modifyBearer twoHandovers true)).any fun asked =>
      decide (asked.2 = [.sessionModificationRequest 2 0 twoRules] ∧
        asked.1.procedures 0 = g.procedures 0 ++ [bothHandovers] ∧
        asked.1.app.seid2pgwContext[1]? = some 0 ∧
        asked.1.findProcedure 0 2 = some bothHandovers ∧
        Matches twoHandovers.bearerContextsToBeModified (createdRules [3, 4])
          (g.app.pdnConnections 2) (asked.1.app.pdnConnections 2)))
    (by decide)
  obtain ⟨⟨middle, sent⟩, taken, there⟩ := Option.any_eq_true _ _ |>.mp passed
  obtain ⟨rfl, started, routed, waiting, fits⟩ := of_decide_eq_true there
  obtain ⟨next, answer, answered, correlated⟩ := modification_correlated_iff run (by decide) taken
    started (createdRules [3, 4]) routed waiting rfl
  exact ⟨records, g, middle, next, answer, run, taken, answered, correlated.mpr fits⟩

/-- The answer to created PDRs in the other order. -/
def reversedAnswer : ModifyBearerResponse where
  gtpcTxId := 0
  teid := 1
  cause := some .requestAccepted
  bearerContextsModified :=
    [⟨6, .requestAccepted, some { v4 := true, teidGreKey := 10, interfaceType := s5s8PgwGtpU }⟩,
      ⟨5, .requestAccepted, some { v4 := true, teidGreKey := 9, interfaceType := s5s8PgwGtpU }⟩]

/-- Each bearer gets the eNB of the other one. -/
theorem reversed_rules_not_correlated :
    ∃ records g middle next sent,
      Run (Service.step twoAddresses) (init twoAddresses.pdns) records g ∧
      Service.step twoAddresses g (.modifyBearer twoHandovers true) = some (middle, sent) ∧
      Service.step twoAddresses middle (.sessionModificationResponse (createdRules [4, 3])) =
        some (next, [.modifyBearerResponse reversedAnswer]) ∧
      (next.app.pdnConnections 2).bearers.map
          (fun bearer => (bearer.ebi, bearer.sgwFteidS5S8Up.teidGreKey)) = [(5, 8), (6, 7)] ∧
      ¬Correlated twoHandovers.bearerContextsToBeModified (createdRules [4, 3]).createdPdrs
        (middle.app.pdnConnections 2) (next.app.pdnConnections 2) reversedAnswer := by
  obtain ⟨records, g, run, passed⟩ := Run.exists_of_passes
    (Service.step twoAddresses) (init twoAddresses.pdns) twoBearers
    (fun _ g => (Service.step twoAddresses g (.modifyBearer twoHandovers true)).any fun asked =>
      (Service.step twoAddresses asked.1
        (.sessionModificationResponse (createdRules [4, 3]))).any fun answered =>
          decide (answered.2 = [.modifyBearerResponse reversedAnswer] ∧
            (answered.1.app.pdnConnections 2).bearers.map
              (fun bearer => (bearer.ebi, bearer.sgwFteidS5S8Up.teidGreKey)) = [(5, 8), (6, 7)] ∧
            ∃ it ∈ twoHandovers.bearerContextsToBeModified,
              ((asked.1.app.pdnConnections 2).bearerFor it).ebi = it.target ∧
              ((answered.1.app.pdnConnections 2).bearerFor it).sgwFteidS5S8Up ≠
                it.carried ((asked.1.app.pdnConnections 2).bearerFor it).sgwFteidS5S8Up))
    (by decide)
  obtain ⟨⟨middle, sent⟩, taken, there⟩ := Option.any_eq_true _ _ |>.mp passed
  obtain ⟨⟨next, events⟩, answered, found⟩ := Option.any_eq_true _ _ |>.mp there
  obtain ⟨rfl, swapped, it, member, own, other⟩ := of_decide_eq_true found
  exact ⟨records, g, middle, next, sent, run, taken, answered, swapped,
    fun correlated => other (correlated.serving it member own)⟩

end Gateway

end OpenairSpgwc.Pgw
