import OpenairSpgwc.Pgw.Completions
import OpenairSpgwc.Pgw.Reports
import OpenairSpgwc.Pgw.Turns

/-!
Contract: the bearers of a connection when the user plane rejects a modification.

Owns:
- what a modification or a release has written before its response comes, and what the
  response writes;
- when both leave the bearers of the connection as they were before the request.
-/

namespace OpenairSpgwc.Pgw

open Foundation
open OpenairSpgwc.Common
open Std (ExtTreeMap)

/-! ### The request -/

namespace Modification

variable {m next : Modification} {it : BearerContextToBeModified}
  {its : List BearerContextToBeModified}

/-- New rules are created for the downlink of this bearer. -/
def Creates (bearer : EpsBearer) (it : BearerContextToBeModified) : Prop :=
  bearer.ebi = it.target ∧ it.s1UEnbFteid.isSome ∧
    ¬(it.s1UEnbFteid = some bearer.sgwFteidS5S8Up ∧ bearer.released = false) ∧
    bearer.farIdDl = none

instance {bearer : EpsBearer} {it : BearerContextToBeModified} : Decidable (Creates bearer it) :=
  inferInstanceAs (Decidable (_ ∧ _))

/-- The bearer of the context is stored, and nothing is recorded in it. -/
def Quiet (pdn : PdnConnection) (it : BearerContextToBeModified) : Prop :=
  ∃ bearer ∈ pdn.epsBearers[it.target]?, ¬Creates bearer it

instance {pdn : PdnConnection} : DecidablePred (Quiet pdn) :=
  fun _ => inferInstanceAs (Decidable (∃ bearer ∈ _, _))

theorem getElem?_put (ebi key : Nat) (peb : EpsBearer) :
    (m.put ebi peb).pdn.epsBearers[key]? =
      if key = ebi then some peb else m.pdn.epsBearers[key]? := by
  show (m.pdn.epsBearers.insert ebi peb)[key]? = _
  rw [ExtTreeMap.getElem?_insert]
  by_cases here : key = ebi
  · rw [if_pos here, if_pos (compare_eq_iff_eq.mpr here.symm)]
  · rw [if_neg here, if_neg fun same => here (compare_eq_iff_eq.mp same).symm]

/-- The bearer under its key after one pass: as it was, or with new rules. -/
theorem Handled.stored (handled : Handled m it (m.bearerAt it.target) next) :
    ∃ bearer, (∀ key : Nat, next.pdn.epsBearers[key]? =
        if key = it.target then some bearer else m.pdn.epsBearers[key]?) ∧
      bearer.ebi = (m.bearerAt it.target).ebi ∧
      bearer.sgwFteidS5S8Up = (m.bearerAt it.target).sgwFteidS5S8Up ∧
      bearer.released = (m.bearerAt it.target).released ∧
      ((Creates (m.bearerAt it.target) it ∧ bearer.farIdDl.isSome) ∨
        (¬Creates (m.bearerAt it.target) it ∧ bearer = m.bearerAt it.target)) := by
  cases handled with
  | missing other same =>
      rw [same]
      refine ⟨_, fun key => getElem?_put _ key _, rfl, rfl, rfl, .inr ⟨?_, rfl⟩⟩
      exact fun creates => other creates.1
  | unchanged own given active same =>
      rw [same]
      refine ⟨_, fun key => getElem?_put _ key _, rfl, rfl, rfl, .inr ⟨?_, rfl⟩⟩
      exact fun creates => creates.2.2.1 ⟨given, active⟩
  | kept own given same =>
      rw [same]
      refine ⟨_, fun key => getElem?_put _ key _, rfl, rfl, rfl, .inr ⟨?_, rfl⟩⟩
      intro creates
      have some := creates.2.1
      rw [given] at some
      cases some
  | updated v farId own given changed nonzero far pdr same =>
      rw [same]
      refine ⟨_, fun key => getElem?_put _ key _, rfl, rfl, rfl, .inr ⟨?_, rfl⟩⟩
      intro creates
      have none := creates.2.2.2
      rw [far] at none
      cases none
  | created v farIds pdrIds farId pdrId own given changed unset draws same =>
      rw [same]
      refine ⟨_, fun key => getElem?_put _ key _, rfl, rfl, rfl, .inl ⟨⟨own, ?_, ?_, unset.2⟩, rfl⟩⟩
      · rw [given]
        rfl
      · rw [given]
        exact fun both => changed ⟨Option.some.inj both.1, both.2⟩

/-- A pass that creates nothing for a stored bearer. -/
theorem Handled.same_of_quiet (handled : Handled m it (m.bearerAt it.target) next)
    (quiet : Quiet m.pdn it) : next.pdn.epsBearers = m.pdn.epsBearers := by
  obtain ⟨bearer, stored, _, _, _, outcome⟩ := handled.stored
  obtain ⟨before, found, silent⟩ := quiet
  have at_ : m.bearerAt it.target = before := by rw [bearerAt, found, Option.getD_some]
  rw [at_] at outcome
  have same : bearer = before := by
    cases outcome with
    | inl creates => exact absurd creates.1 silent
    | inr kept => exact kept.2
  apply ExtTreeMap.ext_getElem?
  intro key
  rw [stored]
  by_cases here : key = it.target
  · rw [if_pos here, here, found, same]
  · rw [if_neg here]

theorem bearers_of_quiet (sound : m.pdn.Sound) (quiet : ∀ it ∈ its, Quiet m.pdn it)
    (ran : m.bearers its = some next) : next.pdn.epsBearers = m.pdn.epsBearers := by
  induction its generalizing m with
  | nil =>
      cases ran
      rfl
  | cons it its inductionHypothesis =>
      obtain ⟨middle, first, later⟩ := Option.bind_eq_some_iff.mp ran
      rw [List.forall_mem_cons] at quiet
      have handled := handled_of_bearer sound first
      have same := handled.same_of_quiet quiet.1
      have still : ∀ it ∈ its, Quiet middle.pdn it := by
        intro it member
        rw [Quiet, same]
        exact quiet.2 it member
      exact (inductionHypothesis (handled.sound sound) still later).trans same

/-- Bearers stay, and what identifies their downlink stays. -/
def Grows (pdn next : PdnConnection) : Prop :=
  ∀ (key : Nat) (bearer : EpsBearer), pdn.epsBearers[key]? = some bearer →
    ∃ later, next.epsBearers[key]? = some later ∧ later.ebi = bearer.ebi ∧
      later.sgwFteidS5S8Up = bearer.sgwFteidS5S8Up ∧ later.released = bearer.released ∧
      (bearer.farIdDl.isSome → later.farIdDl.isSome)

theorem Grows.refl (pdn : PdnConnection) : Grows pdn pdn :=
  fun _ bearer stored => ⟨bearer, stored, rfl, rfl, rfl, id⟩

theorem Grows.trans {pdn middle last : PdnConnection} (first : Grows pdn middle)
    (second : Grows middle last) : Grows pdn last := by
  intro key bearer stored
  obtain ⟨between, found, ebi, sgw, released, far⟩ := first key bearer stored
  obtain ⟨later, found', ebi', sgw', released', far'⟩ := second key between found
  exact ⟨later, found', ebi'.trans ebi, sgw'.trans sgw, released'.trans released, far' ∘ far⟩

theorem Handled.grows (handled : Handled m it (m.bearerAt it.target) next) :
    Grows m.pdn next.pdn := by
  obtain ⟨bearer, stored, ebi, sgw, released, outcome⟩ := handled.stored
  intro key before found
  by_cases here : key = it.target
  · have at_ : m.bearerAt it.target = before := by
      rw [bearerAt, ← here, found, Option.getD_some]
    rw [at_] at ebi sgw released outcome
    refine ⟨bearer, by rw [stored, if_pos here], ebi, sgw, released, fun some => ?_⟩
    cases outcome with
    | inl creates => exact creates.2
    | inr kept =>
        rw [kept.2]
        exact some
  · exact ⟨before, by rw [stored, if_neg here, found], rfl, rfl, rfl, id⟩

/-- After the loop a context has its bearer stored, and one that creates nothing more. -/
theorem settled_of_bearers (sound : m.pdn.Sound) (ran : m.bearers its = some next) :
    Grows m.pdn next.pdn ∧ ∀ it ∈ its, ∃ later, next.pdn.epsBearers[it.target]? = some later ∧
      (Creates (m.bearerAt it.target) it → later.farIdDl.isSome) := by
  induction its generalizing m with
  | nil =>
      cases ran
      exact ⟨.refl _, fun _ absent => absurd absent List.not_mem_nil⟩
  | cons it its inductionHypothesis =>
      obtain ⟨middle, first, later⟩ := Option.bind_eq_some_iff.mp ran
      have handled := handled_of_bearer sound first
      obtain ⟨grows, settled⟩ := inductionHypothesis (handled.sound sound) later
      refine ⟨handled.grows.trans grows, ?_⟩
      rw [List.forall_mem_cons]
      obtain ⟨bearer, stored, ebi, sgw, released, outcome⟩ := handled.stored
      constructor
      · obtain ⟨last, found, _, _, _, far⟩ := grows it.target bearer
          (by rw [stored, if_pos rfl])
        refine ⟨last, found, fun creates => far ?_⟩
        cases outcome with
        | inl created => exact created.2
        | inr kept => exact absurd creates kept.1
      · intro other member
        obtain ⟨last, found, far⟩ := settled other member
        refine ⟨last, found, fun creates => ?_⟩
        by_cases here : other.target = it.target
        · rw [here] at creates found far
          have now : middle.bearerAt it.target = bearer := by
            rw [bearerAt, stored, if_pos rfl, Option.getD_some]
          rw [now] at far
          cases set : bearer.farIdDl with
          | some farId =>
              obtain ⟨last', found', _, _, _, grown⟩ := grows it.target bearer
                (by rw [stored, if_pos rfl])
              rw [found] at found'
              rw [Option.some.inj found']
              exact grown (by rw [set]; rfl)
          | none =>
              apply far
              refine ⟨?_, creates.2.1, ?_, set⟩
              · rw [ebi]
                exact creates.1
              · rw [sgw, released]
                exact creates.2.2.1
        · apply far
          have same : middle.bearerAt other.target = m.bearerAt other.target := by
            rw [bearerAt, stored, if_neg here, bearerAt]
          rw [same]
          exact creates

end Modification

/-! ### The response -/

namespace Gateway

/-- The F-TEID of the serving side that the pairings give last. -/
def lastSgwFteid (pairings : List Pairing) : Option UserPlaneFteid :=
  (pairings.filterMap fun p => p.context.s1UEnbFteid.or p.context.s5S8USgwFteid).getLast?

/-- The F-TEID of the user plane that they give last. -/
def lastPgwFteid (pairings : List Pairing) : Option UserPlaneFteid :=
  (pairings.filterMap fun p => p.created.localFteid.map fun fteid =>
    { fteid with interfaceType := s5s8PgwGtpU }).getLast?

/-- The pairings of a bearer. -/
def pairingsOf (pairings : List Pairing) (bearer : EpsBearer) : List Pairing :=
  pairings.filter fun p => p.ebi == bearer.ebi

/-- These pairings of a bearer change nothing in it. -/
def Leaves (pairings : List Pairing) (bearer : EpsBearer) : Prop :=
  pairings = [] ∨ (bearer.released = false ∧
    (lastSgwFteid pairings).getD bearer.sgwFteidS5S8Up = bearer.sgwFteidS5S8Up ∧
    (lastPgwFteid pairings).getD bearer.pgwFteidS5S8Up = bearer.pgwFteidS5S8Up)

instance {pairings : List Pairing} {bearer : EpsBearer} : Decidable (Leaves pairings bearer) :=
  match pairings with
  | [] => .isTrue (.inl rfl)
  | p :: rest => decidable_of_iff (_ ∧ _ ∧ _)
      ⟨.inr, fun leaves => leaves.resolve_left (List.cons_ne_nil p rest)⟩

theorem writtenBy_append (pairings : List Pairing) (p : Pairing) (bearer : EpsBearer) :
    writtenBy (pairings ++ [p]) bearer = p.apply (writtenBy pairings bearer) := by
  rw [writtenBy, List.foldl_append]
  rfl

/-- What the pairings leave in a bearer with an identity. -/
theorem writtenBy_eq {bearer : EpsBearer} (ranged : 5 ≤ bearer.ebi ∧ bearer.ebi ≤ 15)
    (pairings : List Pairing) :
    writtenBy pairings bearer =
      { bearer with
        sgwFteidS5S8Up :=
          (lastSgwFteid (pairingsOf pairings bearer)).getD bearer.sgwFteidS5S8Up
        pgwFteidS5S8Up :=
          (lastPgwFteid (pairingsOf pairings bearer)).getD bearer.pgwFteidS5S8Up
        released := bearer.released && (pairingsOf pairings bearer).isEmpty } := by
  induction pairings using List.reverseRecOn with
  | nil => simp [writtenBy, pairingsOf, lastSgwFteid, lastPgwFteid]
  | append_singleton pairings p inductionHypothesis =>
      rw [writtenBy_append, inductionHypothesis, Pairing.apply]
      by_cases here : bearer.ebi = p.ebi
      · have own : pairingsOf (pairings ++ [p]) bearer = pairingsOf pairings bearer ++ [p] := by
          simp [pairingsOf, here]
        rw [if_pos ⟨here, ranged⟩, own, Pairing.write, Completion.withSgwFteid]
        cases given : p.context.s1UEnbFteid <;> cases given' : p.context.s5S8USgwFteid <;>
          cases brought : p.created.localFteid <;>
          simp [lastSgwFteid, lastPgwFteid, List.filterMap_append, given, given', brought]
      · have own : pairingsOf (pairings ++ [p]) bearer = pairingsOf pairings bearer := by
          simp [pairingsOf, Ne.symm here]
        rw [if_neg fun both => here both.1, own]

theorem writtenBy_of_not_ranged {bearer : EpsBearer}
    (outside : ¬(5 ≤ bearer.ebi ∧ bearer.ebi ≤ 15)) (pairings : List Pairing) :
    writtenBy pairings bearer = bearer := by
  induction pairings using List.reverseRecOn with
  | nil => rfl
  | append_singleton pairings p inductionHypothesis =>
      rw [writtenBy_append, inductionHypothesis, Pairing.apply, if_neg fun both => outside both.2]

theorem writtenBy_eq_self_iff (pairings : List Pairing) (bearer : EpsBearer) :
    writtenBy pairings bearer = bearer ↔
      (5 ≤ bearer.ebi ∧ bearer.ebi ≤ 15 → Leaves (pairingsOf pairings bearer) bearer) := by
  by_cases ranged : 5 ≤ bearer.ebi ∧ bearer.ebi ≤ 15
  · rw [writtenBy_eq ranged, imp_iff_right ranged, Leaves]
    cases own : pairingsOf pairings bearer with
    | nil => simp [lastSgwFteid, lastPgwFteid]
    | cons p rest =>
        constructor
        · intro same
          refine .inr ⟨?_, congrArg EpsBearer.sgwFteidS5S8Up same,
            congrArg EpsBearer.pgwFteidS5S8Up same⟩
          rw [← congrArg EpsBearer.released same, List.isEmpty_cons, Bool.and_false]
        · intro leaves
          obtain ⟨active, sgw, pgw⟩ := leaves.resolve_left (List.cons_ne_nil p rest)
          rw [sgw, pgw, List.isEmpty_cons, Bool.and_false, ← active]
  · rw [writtenBy_of_not_ranged ranged]
    exact iff_of_true rfl fun range => absurd range ranged

/-! ### Modifications -/

theorem named_congr {pdn next : PdnConnection} (same : next.epsBearers = pdn.epsBearers)
    (createdPdrs : List CreatedPdr) : named next createdPdrs = named pdn createdPdrs := by
  have lookup (pdrId : Nat) : next.bearerOfPdrId pdrId = pdn.bearerOfPdrId pdrId := by
    rw [PdnConnection.bearerOfPdrId, same, PdnConnection.bearerOfPdrId]
  unfold named
  simp only [show next.bearerOfPdrId = pdn.bearerOfPdrId from funext lookup]

/-- A response that does not accept: the created PDRs are all that is looked at. -/
theorem completed_of_rejected {pdn : PdnConnection} (sound : pdn.Sound)
    {its : List BearerContextToBeModified} {updateFars : List UpdateFar}
    {pending : ModifyBearerResponse} {response : SessionModificationResponse}
    (rejected : response.cause ≠ some causeValueRequestAccepted) :
    (completed pdn its updateFars pending response).1 =
      pdn.mapBearers (writtenBy (pairings pdn response.createdPdrs its)) := by
  obtain ⟨reported, _, written⟩ := foldl_createdPdr_eq response.createdPdrs
    ⟨pdn, its, pending.bearerContextsModified⟩ sound.homed
  unfold completed
  dsimp only
  rw [if_neg rejected, written]

/-- The modification of a connection and its rejection change no bearer. -/
theorem modification_restores_iff {pdn : PdnConnection} (sound : pdn.Sound)
    {its : List BearerContextToBeModified} {m : Modification}
    (ran : Modification.bearers { pdn := pdn } its = some m) {updateFars : List UpdateFar}
    {pending : ModifyBearerResponse} {response : SessionModificationResponse}
    (rejected : response.cause ≠ some causeValueRequestAccepted) :
    (completed m.pdn its updateFars pending response).1.epsBearers = pdn.epsBearers ↔
      (∀ it ∈ its, Modification.Quiet pdn it) ∧
        ∀ (key : Nat) (bearer : EpsBearer), pdn.epsBearers[key]? = some bearer →
          5 ≤ bearer.ebi ∧ bearer.ebi ≤ 15 →
            Leaves (pairingsOf (pairings pdn response.createdPdrs its) bearer) bearer := by
  rw [completed_of_rejected (Modification.sound_of_bearers sound ran) rejected]
  have restored (same : m.pdn.epsBearers = pdn.epsBearers) :
      (m.pdn.mapBearers (writtenBy (pairings m.pdn response.createdPdrs its))).epsBearers =
          pdn.epsBearers ↔
        ∀ (key : Nat) (bearer : EpsBearer), pdn.epsBearers[key]? = some bearer →
          5 ≤ bearer.ebi ∧ bearer.ebi ≤ 15 →
            Leaves (pairingsOf (pairings pdn response.createdPdrs its) bearer) bearer := by
    rw [← same, PdnConnection.mapBearers_eq_self_iff, same, pairings, named_congr same, ← pairings]
    exact forall₃_congr fun key bearer _ => writtenBy_eq_self_iff _ bearer
  constructor
  · intro same
    obtain ⟨_, settled⟩ := Modification.settled_of_bearers sound ran
    have quiet : ∀ it ∈ its, Modification.Quiet pdn it := by
      intro it member
      obtain ⟨later, found, far⟩ := settled it member
      have there := m.pdn.getElem?_mapBearers
        (writtenBy (pairings m.pdn response.createdPdrs its)) it.target
      rw [same, found, Option.map_some] at there
      refine ⟨_, there, fun creates => ?_⟩
      rw [Modification.bearerAt, there, Option.getD_some] at far
      have set := far creates
      rw [← (sameIds_writtenBy _ later).farIdDl, creates.2.2.2] at set
      cases set
    exact ⟨quiet, (restored (Modification.bearers_of_quiet sound quiet ran)).mp same⟩
  · intro restores
    exact (restored (Modification.bearers_of_quiet sound restores.1 ran)).mpr restores.2

/-! ### Releases -/

/-- The bearers after a part of the loop. -/
theorem foldl_release {pdn : PdnConnection} (homed : pdn.Homed)
    (entries : List (Nat × EpsBearer))
    (stored : ∀ entry ∈ entries, pdn.epsBearers[entry.1]? = some entry.2)
    (next : PdnConnection) :
    (∀ key : Nat, (∃ bearer, next.epsBearers[key]? = some bearer ∧ bearer.released = true) →
        ∃ bearer, (entries.foldl (fun pdn it => pdn.addEpsBearer { it.2 with released := true })
          next).epsBearers[key]? = some bearer ∧ bearer.released = true) ∧
      ∀ entry ∈ entries, 5 ≤ entry.2.ebi ∧ entry.2.ebi ≤ 15 →
        ∃ bearer, (entries.foldl (fun pdn it => pdn.addEpsBearer { it.2 with released := true })
          next).epsBearers[entry.1]? = some bearer ∧ bearer.released = true := by
  induction entries generalizing next with
  | nil => exact ⟨fun _ released => released, fun _ absent => absurd absent List.not_mem_nil⟩
  | cons entry entries inductionHypothesis =>
      rw [List.forall_mem_cons] at stored
      obtain ⟨keeps, marks⟩ := inductionHypothesis stored.2
        (next.addEpsBearer { entry.2 with released := true })
      have step (key : Nat) (released : ∃ bearer, next.epsBearers[key]? = some bearer ∧
          bearer.released = true) : ∃ bearer,
          (next.addEpsBearer { entry.2 with released := true }).epsBearers[key]? = some bearer ∧
            bearer.released = true := by
        unfold PdnConnection.addEpsBearer
        split
        · rw [ExtTreeMap.getElem?_insert]
          split
          · exact ⟨_, rfl, rfl⟩
          · exact released
        · exact released
      refine ⟨fun key released => keeps key (step key released), ?_⟩
      rw [List.forall_mem_cons]
      refine ⟨fun ranged => ?_, marks⟩
      apply keeps
      have home := homed entry.1 entry.2 stored.1 ranged
      refine ⟨{ entry.2 with released := true }, ?_, rfl⟩
      unfold PdnConnection.addEpsBearer
      rw [if_pos ranged, ExtTreeMap.getElem?_insert, if_pos (compare_eq_iff_eq.mpr home)]

/-- A release changes no bearer if all of them are released. -/
theorem releaseBearers_eq_iff {pdn : PdnConnection} (sound : pdn.Sound) :
    (releaseBearers pdn).epsBearers = pdn.epsBearers ↔
      ∀ (key : Nat) (bearer : EpsBearer), pdn.epsBearers[key]? = some bearer →
        5 ≤ bearer.ebi ∧ bearer.ebi ≤ 15 → bearer.released = true := by
  constructor
  · intro same key bearer stored ranged
    obtain ⟨_, marks⟩ := foldl_release sound.homed pdn.epsBearers.toList
      (fun entry member => ExtTreeMap.mem_toList_iff_getElem?_eq_some.mp member) pdn
    obtain ⟨later, found, released⟩ := marks (key, bearer)
      (ExtTreeMap.mem_toList_iff_getElem?_eq_some.mpr stored) ranged
    change (releaseBearers pdn).epsBearers[key]? = some later at found
    rw [same, stored] at found
    rw [Option.some.inj found]
    exact released
  · intro released
    have all (entries : List (Nat × EpsBearer))
        (stored : ∀ entry ∈ entries, pdn.epsBearers[entry.1]? = some entry.2)
        (next : PdnConnection) (same : next.epsBearers = pdn.epsBearers) :
        (entries.foldl (fun pdn it => pdn.addEpsBearer { it.2 with released := true })
          next).epsBearers = pdn.epsBearers := by
      induction entries generalizing next with
      | nil => exact same
      | cons entry entries inductionHypothesis =>
          rw [List.forall_mem_cons] at stored
          refine inductionHypothesis stored.2 _ ?_
          show (next.addEpsBearer { entry.2 with released := true }).epsBearers = _
          unfold PdnConnection.addEpsBearer
          split
          · next ranged =>
              have home := sound.homed entry.1 entry.2 stored.1 ranged
              have mark : { entry.2 with released := true } = entry.2 := by
                rw [← released entry.1 entry.2 stored.1 ranged]
              rw [mark, same]
              apply ExtTreeMap.ext_getElem?
              intro key
              rw [ExtTreeMap.getElem?_insert]
              split
              · next here => rw [← compare_eq_iff_eq.mp here, home, stored.1]
              · rfl
          · exact same
    exact all pdn.epsBearers.toList
      (fun entry member => ExtTreeMap.mem_toList_iff_getElem?_eq_some.mp member) pdn rfl

/-! ### Exchanges -/

variable {config : Config} {g middle later : Gateway}

/-- Nothing of the request is left in the bearers once its rejection has been handled. -/
def Restores (pdn : PdnConnection) (response : SessionModificationResponse) :
    Service.ProcedureKind → Prop
  | .modifyBearer its _ _ =>
      (∀ it ∈ its, Modification.Quiet pdn it) ∧
        ∀ bearer ∈ pdn.bearers, 5 ≤ bearer.ebi ∧ bearer.ebi ≤ 15 →
          Leaves (pairingsOf (pairings pdn response.createdPdrs its) bearer) bearer
  | .releaseAccessBearers _ _ =>
      ∀ bearer ∈ pdn.bearers, 5 ≤ bearer.ebi ∧ bearer.ebi ≤ 15 → bearer.released = true
  | .downlinkDataReport _ => True

instance {pdn : PdnConnection} {response : SessionModificationResponse} :
    DecidablePred (Restores pdn response)
  | .modifyBearer _ _ _ => inferInstanceAs (Decidable (_ ∧ _))
  | .releaseAccessBearers _ _ => inferInstanceAs (Decidable (∀ bearer ∈ pdn.bearers, _))
  | .downlinkDataReport _ => inferInstanceAs (Decidable True)

theorem forall_bearers {pdn : PdnConnection} {Claim : EpsBearer → Prop} :
    (∀ bearer ∈ pdn.bearers, Claim bearer) ↔
      ∀ (key : Nat) (bearer : EpsBearer), pdn.epsBearers[key]? = some bearer → Claim bearer := by
  rw [PdnConnection.bearers, List.forall_mem_map, Prod.forall]
  exact forall₂_congr fun key bearer => by rw [ExtTreeMap.mem_toList_iff_getElem?_eq_some]

/-- A procedure has sent its request, having written to its connection. -/
inductive Asked (g : Gateway) (home : Nat) (proc : Service.Procedure) (middle : Gateway) : Prop where
  | modifyBearer (its : List BearerContextToBeModified) (updateFars : List UpdateFar)
      (pending : ModifyBearerResponse) (m : Modification)
      (ran : Modification.bearers { pdn := g.app.pdnConnections proc.ppc } its = some m)
      (kind : proc.kind = .modifyBearer its updateFars pending)
      (written : middle.app.pdnConnections proc.ppc = m.pdn)
      (inserted : middle.procedures =
        Function.update g.procedures home (g.procedures home ++ [proc]))
  | releaseAccessBearers (gtpcTxId teid : Nat)
      (kind : proc.kind = .releaseAccessBearers gtpcTxId teid)
      (written : middle.app.pdnConnections proc.ppc =
        releaseBearers (g.app.pdnConnections proc.ppc))
      (inserted : middle.procedures =
        Function.update g.procedures home (g.procedures home ++ [proc]))

/-- A modify bearer procedure has sent its request. -/
structure Modifying (g : Gateway) (request : ModifyBearerRequest) (home : Nat)
    (proc : Service.Procedure) (m : Modification) (middle : Gateway) : Prop where
  ran : Modification.bearers { pdn := g.app.pdnConnections proc.ppc }
    request.bearerContextsToBeModified = some m
  kind : ∃ pending : ModifyBearerResponse, pending.bearerContextsModified = m.modified ∧
    proc.kind = .modifyBearer request.bearerContextsToBeModified m.rules.updateFars pending
  written : middle.app.pdnConnections proc.ppc = m.pdn
  inserted : middle.procedures =
    Function.update g.procedures home (g.procedures home ++ [proc])

theorem Modifying.asked {request : ModifyBearerRequest} {home : Nat} {proc : Service.Procedure}
    {m : Modification} (modifying : Modifying g request home proc m middle) :
    Asked g home proc middle := by
  obtain ⟨pending, _, kind⟩ := modifying.kind
  exact .modifyBearer _ _ pending m modifying.ran kind modifying.written modifying.inserted

theorem modifying_of_runModifyBearer {pc sp trxnId seid : Nat} {request : ModifyBearerRequest}
    {sent : Bool} {rules : ModificationRules}
    (ran : g.runModifyBearer pc sp request sent =
      some (middle, [.sessionModificationRequest trxnId seid rules])) :
    ∃ proc m, Modifying g request pc proc m middle := by
  simp only [runModifyBearer, Option.bind_eq_bind, Option.bind_eq_some_iff,
    Option.pure_def] at ran
  obtain ⟨⟨id, next⟩, generated, m, modified, rest⟩ := ran
  have drawn := drawn_of_generateTrxnId generated
  split at rest
  · split at rest
    · cases rest
      refine ⟨⟨id, sp, .modifyBearer request.bearerContextsToBeModified m.rules.updateFars
        ⟨request.gtpcTxId, (next.app.pdnConnections sp).sgwFteidS5S8Cp.teidGreKey, m.cause,
          m.modified⟩⟩, m, ?_, ⟨_, rfl, rfl⟩, ?_, ?_⟩
      · rw [← congrFun drawn.connections sp]
        exact modified
      · show Function.update _ sp _ sp = _
        rw [Function.update_self]
      · show Function.update next.procedures pc (next.procedures pc ++ _) = _
        rw [drawn.procedures]
    · cases rest
  · cases rest

theorem modifying_of_step {request : ModifyBearerRequest} {sent : Bool} {trxnId seid : Nat}
    {rules : ModificationRules}
    (taken : Service.step config g (.modifyBearer request sent) =
      some (middle, [.sessionModificationRequest trxnId seid rules])) :
    ∃ home proc m, Modifying g request home proc m middle := by
  change g.handleModifyBearerRequest request sent = _ at taken
  unfold handleModifyBearerRequest at taken
  split at taken
  · cases taken
  · split at taken
    · unfold modifyInContext at taken
      dsimp only at taken
      split at taken
      · exact ⟨_, modifying_of_runModifyBearer taken⟩
      · split at taken
        · cases taken
        · cases taken
    · split at taken
      · cases taken
      · cases taken

theorem asked_of_runReleaseAccessBearers {pc sp trxnId seid : Nat}
    {request : ReleaseAccessBearersRequest} {sent : Bool} {rules : ModificationRules}
    (ran : g.runReleaseAccessBearers pc sp request sent =
      some (middle, [.sessionModificationRequest trxnId seid rules])) :
    ∃ proc, Asked g pc proc middle := by
  simp only [runReleaseAccessBearers, Option.bind_eq_bind, Option.bind_eq_some_iff,
    Option.pure_def] at ran
  obtain ⟨⟨id, next⟩, generated, rest⟩ := ran
  have drawn := drawn_of_generateTrxnId generated
  split at rest
  · cases rest
    refine ⟨⟨id, sp, .releaseAccessBearers request.gtpcTxId
      (next.app.pdnConnections sp).sgwFteidS5S8Cp.teidGreKey⟩,
        .releaseAccessBearers _ _ rfl ?_ ?_⟩
    · show Function.update _ sp _ sp = _
      rw [Function.update_self, congrFun drawn.connections sp]
    · show Function.update next.procedures pc (next.procedures pc ++ _) = _
      rw [drawn.procedures]
  · cases rest

/-- Only modifications and releases send this request. -/
theorem asked_of_step {action : Service.Action} {trxnId seid : Nat} {rules : ModificationRules}
    (taken : Service.step config g action =
      some (middle, [.sessionModificationRequest trxnId seid rules])) :
    ∃ pc proc, Asked g pc proc middle := by
  cases action with
  | session action =>
      obtain ⟨⟨app, shown⟩, _, same⟩ := Option.map_eq_some_iff.mp taken
      have events := congrArg Prod.snd same
      dsimp only at events
      cases shown with
      | nil => cases events
      | cons first rest => cases events
  | modifyBearer request sent =>
      obtain ⟨home, proc, m, modifying⟩ := modifying_of_step taken
      exact ⟨home, proc, modifying.asked⟩
  | releaseAccessBearers request sent =>
      change g.handleReleaseAccessBearersRequest request sent = _ at taken
      unfold handleReleaseAccessBearersRequest at taken
      split at taken
      · unfold releaseInContext at taken
        split at taken
        · cases taken
        · split at taken
          · cases taken
          · exact ⟨_, asked_of_runReleaseAccessBearers taken⟩
      · cases taken
  | sessionModificationResponse response =>
      have events := congrArg Prod.snd (Option.some.inj taken)
      change (g.handleSessionModificationResponse response).2 = _ at events
      unfold handleSessionModificationResponse at events
      split at events
      · cases events
      · split at events
        · split at events
          · cases events
          · cases events
          · cases events
        · cases events
        · cases events
  | sessionReport request sent =>
      change g.handleSessionReportRequest request sent = _ at taken
      unfold handleSessionReportRequest at taken
      split at taken
      · unfold reportInContext at taken
        split at taken
        · cases taken
        · simp only [Option.bind_eq_bind, Option.bind_eq_some_iff, Option.pure_def] at taken
          obtain ⟨⟨id, next⟩, _, rest⟩ := taken
          split at rest
          · cases rest
          · cases rest
      · cases taken
  | downlinkDataNotificationAcknowledge ack =>
      have events := congrArg Prod.snd (Option.some.inj taken)
      change (g.handleDownlinkDataNotificationAcknowledge ack).2 = _ at events
      unfold handleDownlinkDataNotificationAcknowledge at events
      split at events
      · cases events
      · split at events
        · split at events
          · cases events
          · cases events
        · cases events
        · cases events
  | notifyUlError trxnId =>
      have events := congrArg Prod.snd (Option.some.inj taken)
      cases events

/-- A procedure is inserted once. -/
theorem eq_of_inserted {procedures next : Nat → List Service.Procedure} {home pc : Nat}
    {proc other : Service.Procedure}
    (inserted : next = Function.update procedures home (procedures home ++ [proc]))
    (started : next pc = procedures pc ++ [other]) : other = proc := by
  rw [inserted] at started
  by_cases here : pc = home
  · rw [here, Function.update_self] at started
    exact (List.singleton_inj.mp (List.append_cancel_left started)).symm
  · rw [Function.update_of_ne here] at started
    exact absurd (List.append_right_eq_self.mp started.symm) (List.cons_ne_nil other [])

/-- A rejected exchange of a modify bearer or release access bearers procedure, in every
reachable state. The response comes in any state in which the procedure is pending and
its connection is as the request left it. -/
theorem rejection_restores_iff
    {records : List (StepRecord Gateway Service.Action Service.Event)}
    (run : Run (Service.step config) (init config.pdns) records g)
    {action : Service.Action} {trxnId seid : Nat} {rules : ModificationRules}
    (asked : Service.step config g action =
      some (middle, [.sessionModificationRequest trxnId seid rules]))
    {pc : Nat} {proc : Service.Procedure}
    (started : middle.procedures pc = g.procedures pc ++ [proc])
    (response : SessionModificationResponse)
    (routed : later.app.seid2pgwContext[response.seid]? = some pc)
    (waiting : later.findProcedure pc response.trxnId = some proc)
    (undisturbed : later.app.pdnConnections proc.ppc = middle.app.pdnConnections proc.ppc)
    (rejected : response.cause ≠ some causeValueRequestAccepted) :
    ∃ next events, Service.step config later (.sessionModificationResponse response) =
        some (next, events) ∧
      ((next.app.pdnConnections proc.ppc).epsBearers =
          (g.app.pdnConnections proc.ppc).epsBearers ↔
        Restores (g.app.pdnConnections proc.ppc) response proc.kind) := by
  have sound := (orderly_of_run run).sound proc.ppc
  obtain ⟨home, other, exchange⟩ := asked_of_step asked
  have same : proc = other := by
    cases exchange with
    | modifyBearer its updateFars pending m ran kind written inserted =>
        exact eq_of_inserted inserted started
    | releaseAccessBearers gtpcTxId teid kind written inserted =>
        exact eq_of_inserted inserted started
  rw [← same] at exchange
  show ∃ next events, some (later.handleSessionModificationResponse response) = _ ∧ _
  unfold handleSessionModificationResponse
  cases exchange with
  | modifyBearer its updateFars pending m ran kind written inserted =>
      simp only [routed, waiting, kind]
      refine ⟨_, _, rfl, ?_⟩
      show (Function.update later.app.pdnConnections proc.ppc _ proc.ppc).epsBearers = _ ↔ _
      rw [Function.update_self, undisturbed, written]
      rw [Restores, forall_bearers]
      exact modification_restores_iff sound ran rejected
  | releaseAccessBearers gtpcTxId teid kind written inserted =>
      simp only [routed, waiting, kind]
      refine ⟨_, _, rfl, ?_⟩
      show (later.app.pdnConnections proc.ppc).epsBearers = _ ↔ _
      rw [undisturbed, written]
      rw [Restores, forall_bearers]
      exact releaseBearers_eq_iff sound

/-- A session of one bearer. -/
def oneSession : List Service.Action :=
  [.session (.createSession (oneBearer 1 0 none) .sent 0),
    .session (.sessionEstablishmentResponse
      { seid := 1, trxnId := 1, cause := some causeValueRequestAccepted
        createdPdrs := [⟨some 1, some { v4 := true, teidGreKey := 9 }⟩] })]

def handover (teid : Nat) : ModifyBearerRequest where
  teid := 1
  bearerContextsToBeModified := [⟨some 5, some { teidGreKey := teid }, none⟩]

def rejectedResponse (trxnId : Nat) : SessionModificationResponse where
  seid := 1
  trxnId := trxnId
  cause := some 64

/-- The first eNB of the bearer is accepted. -/
def firstHandover : List Service.Action :=
  [.modifyBearer (handover 7) true,
    .sessionModificationResponse
      { seid := 1, trxnId := 2, cause := some causeValueRequestAccepted
        createdPdrs := [⟨some 2, none⟩] }]

/-- The procedure for the second one, which updates rules. -/
def secondHandover : Service.Procedure :=
  ⟨3, 2, .modifyBearer (handover 8).bearerContextsToBeModified
    [⟨2, .forw, some ⟨8, 0⟩⟩, ⟨1, .forw, none⟩] ⟨0, 1, none, []⟩⟩

def secondRules : ModificationRules where
  updateFars := [⟨2, .forw, some ⟨8, 0⟩⟩, ⟨1, .forw, none⟩]

/-- The rejection of a second eNB leaves the bearer with the first one. -/
theorem rejected_second_handover_restores :
    ∃ records g middle next events,
      Run (Service.step twoAddresses) (init twoAddresses.pdns) records g ∧
      Service.step twoAddresses g (.modifyBearer (handover 8) true) =
        some (middle, [.sessionModificationRequest 3 0 secondRules]) ∧
      Service.step twoAddresses middle (.sessionModificationResponse (rejectedResponse 3)) =
        some (next, events) ∧
      (next.app.pdnConnections 2).epsBearers = (g.app.pdnConnections 2).epsBearers := by
  obtain ⟨records, g, run, restores, passed⟩ := Run.exists_of_passes
    (Service.step twoAddresses) (init twoAddresses.pdns) (oneSession ++ firstHandover)
    (fun _ g => Restores (g.app.pdnConnections 2) (rejectedResponse 3) secondHandover.kind ∧
      (Service.step twoAddresses g (.modifyBearer (handover 8) true)).any fun asked =>
        decide (asked.2 = [.sessionModificationRequest 3 0 secondRules] ∧
          asked.1.procedures 0 = g.procedures 0 ++ [secondHandover] ∧
          asked.1.app.seid2pgwContext[1]? = some 0 ∧
          asked.1.findProcedure 0 3 = some secondHandover))
    (by decide)
  obtain ⟨⟨middle, sent⟩, taken, there⟩ := Option.any_eq_true _ _ |>.mp passed
  obtain ⟨rfl, started, routed, waiting⟩ := of_decide_eq_true there
  obtain ⟨next, events, answered, unchanged⟩ := rejection_restores_iff run taken started
    (rejectedResponse 3) routed waiting rfl (by decide)
  exact ⟨records, g, middle, next, events, run, taken, answered, unchanged.mpr restores⟩

/-- After the rejection of the first one the bearer has rules that were never created. -/
theorem rejected_first_handover_not_restored :
    ∃ records g middle next sent events,
      Run (Service.step twoAddresses) (init twoAddresses.pdns) records g ∧
      Service.step twoAddresses g (.modifyBearer (handover 7) true) = some (middle, sent) ∧
      Service.step twoAddresses middle (.sessionModificationResponse (rejectedResponse 2)) =
        some (next, events) ∧
      (g.app.pdnConnections 2).bearers.map EpsBearer.farIdDl = [none] ∧
      (next.app.pdnConnections 2).bearers.map EpsBearer.farIdDl = [some 2] ∧
      (next.app.pdnConnections 2).epsBearers ≠ (g.app.pdnConnections 2).epsBearers := by
  obtain ⟨records, g, run, before, passed⟩ := Run.exists_of_passes
    (Service.step twoAddresses) (init twoAddresses.pdns) oneSession
    (fun _ g => (g.app.pdnConnections 2).bearers.map EpsBearer.farIdDl = [none] ∧
      (Service.step twoAddresses g (.modifyBearer (handover 7) true)).any fun asked =>
        (Service.step twoAddresses asked.1
          (.sessionModificationResponse (rejectedResponse 2))).any fun answered =>
            decide ((answered.1.app.pdnConnections 2).bearers.map EpsBearer.farIdDl = [some 2]))
    (by decide)
  obtain ⟨⟨middle, sent⟩, taken, there⟩ := Option.any_eq_true _ _ |>.mp passed
  obtain ⟨⟨next, events⟩, answered, found⟩ := Option.any_eq_true _ _ |>.mp there
  have after := of_decide_eq_true found
  refine ⟨records, g, middle, next, sent, events, run, taken, answered, before, after, ?_⟩
  intro same
  rw [PdnConnection.bearers, same, ← PdnConnection.bearers, before] at after
  cases after

end Gateway

end OpenairSpgwc.Pgw
