import OpenairSpgwc.Pgw.Connections

/-!
Contract: what `modify_bearer_procedure::handle_itti_msg` writes, as a whole.

Owns:
- `pairings`: the created PDRs that name a bearer, each with the bearer context of the
  request that the loop takes for it, the first one that is left;
- the connection, the contexts that are left and the answer after the created PDRs, and
  after the updated FARs.

Does not own: whether this is what the request asked for.
-/

namespace OpenairSpgwc.Pgw

open Foundation
open OpenairSpgwc.Common
open Std (ExtTreeMap)

namespace PdnConnection

variable {pdn : PdnConnection} {f g : EpsBearer → EpsBearer}

/-- The same change in every bearer. -/
def mapBearers (pdn : PdnConnection) (f : EpsBearer → EpsBearer) : PdnConnection :=
  { pdn with epsBearers := pdn.epsBearers.map fun _ bearer => f bearer }

theorem getElem?_mapBearers (pdn : PdnConnection) (f : EpsBearer → EpsBearer) (key : Nat) :
    (pdn.mapBearers f).epsBearers[key]? = (pdn.epsBearers[key]?).map f := by
  rw [mapBearers, ExtTreeMap.getElem?_map]

theorem mapBearers_eq_self_iff :
    (pdn.mapBearers f).epsBearers = pdn.epsBearers ↔
      ∀ (key : Nat) (bearer : EpsBearer), pdn.epsBearers[key]? = some bearer →
        f bearer = bearer := by
  constructor
  · intro same key bearer stored
    have there := getElem?_mapBearers pdn f key
    rw [same, stored, Option.map_some] at there
    exact (Option.some.inj there).symm
  · intro same
    apply ExtTreeMap.ext_getElem?
    intro key
    rw [getElem?_mapBearers]
    cases stored : pdn.epsBearers[key]? with
    | none => rfl
    | some bearer => rw [Option.map_some, same key bearer stored]

theorem mapBearers_mapBearers :
    (pdn.mapBearers f).mapBearers g = pdn.mapBearers fun bearer => g (f bearer) := by
  unfold mapBearers
  congr 1
  apply ExtTreeMap.ext_getElem?
  intro key
  rw [ExtTreeMap.getElem?_map, ExtTreeMap.getElem?_map, ExtTreeMap.getElem?_map, Option.map_map]
  rfl

theorem mapBearers_id : pdn.mapBearers (fun bearer => bearer) = pdn := by
  have same : pdn.epsBearers.map (fun _ bearer => bearer) = pdn.epsBearers :=
    mapBearers_eq_self_iff.mpr fun _ _ _ => rfl
  rw [mapBearers, same]

/-- A change that keeps identifiers keeps bearers where they are. -/
theorem Homed.mapBearers (homed : pdn.Homed)
    (same : ∀ bearer : EpsBearer, bearer.SameIds (f bearer)) :
    (pdn.mapBearers f).Homed := by
  intro key bearer stored ranged
  rw [getElem?_mapBearers] at stored
  obtain ⟨before, found, rfl⟩ := Option.map_eq_some_iff.mp stored
  rw [(same before).ebi] at ranged ⊢
  exact homed key before found ranged

theorem bearerOfPdrId_mapBearers (same : ∀ bearer : EpsBearer, bearer.SameIds (f bearer))
    (pdrId : Nat) :
    (pdn.mapBearers f).bearerOfPdrId pdrId = (pdn.bearerOfPdrId pdrId).map f := by
  unfold bearerOfPdrId mapBearers
  rw [ExtTreeMap.toList_map, List.find?_map, Option.map_map, Option.map_map]
  simp only [Function.comp_def, (same _).pdrIdUl, (same _).pdrIdDl]

theorem bearerOfFarId_mapBearers (same : ∀ bearer : EpsBearer, bearer.SameIds (f bearer))
    (farId : Nat) :
    (pdn.mapBearers f).bearerOfFarId farId = (pdn.bearerOfFarId farId).map f := by
  unfold bearerOfFarId mapBearers
  rw [ExtTreeMap.toList_map, List.find?_map, Option.map_map, Option.map_map]
  simp only [Function.comp_def, (same _).farIdUl, (same _).farIdDl]

/-- A stored bearer is written to and added again: it is the only one with its identity.
One without an identity stays as it is. -/
theorem addEpsBearer_eq_mapBearers (homed : pdn.Homed) {key : Nat} {bearer : EpsBearer}
    (stored : pdn.epsBearers[key]? = some bearer) (same : ∀ it : EpsBearer, (f it).ebi = it.ebi) :
    pdn.addEpsBearer (f bearer) = pdn.mapBearers fun it =>
      if it.ebi = bearer.ebi ∧ 5 ≤ it.ebi ∧ it.ebi ≤ 15 then f it else it := by
  unfold addEpsBearer
  rw [same]
  by_cases ranged : 5 ≤ bearer.ebi ∧ bearer.ebi ≤ 15
  · have home := homed key bearer stored ranged
    rw [if_pos ranged, mapBearers]
    congr 1
    apply ExtTreeMap.ext_getElem?
    intro place
    rw [ExtTreeMap.getElem?_insert, ExtTreeMap.getElem?_map]
    by_cases here : bearer.ebi = place
    · rw [if_pos (compare_eq_iff_eq.mpr here), ← here]
      rw [home] at ranged ⊢
      rw [stored, Option.map_some, if_pos ⟨home, by rw [home]; exact ranged⟩]
    · rw [if_neg fun equal => here (compare_eq_iff_eq.mp equal)]
      cases found : pdn.epsBearers[place]? with
      | none => rfl
      | some second =>
          rw [Option.map_some, if_neg]
          rintro ⟨twin, range⟩
          exact here (twin.symm.trans (homed place second found range))
  · rw [if_neg ranged]
    have nothing : (fun it : EpsBearer =>
        if it.ebi = bearer.ebi ∧ 5 ≤ it.ebi ∧ it.ebi ≤ 15 then f it else it) =
          fun it => it := by
      funext it
      rw [if_neg]
      rintro ⟨twin, range⟩
      rw [twin] at range
      exact ranged range
    rw [nothing, mapBearers_id]

end PdnConnection

namespace Gateway

/-! ### Created PDRs and the contexts they are answered with -/

structure Pairing where
  ebi : Nat
  created : CreatedPdr
  context : BearerContextToBeModified

namespace Pairing

/-- What the handler writes into the bearer. -/
def write (p : Pairing) (bearer : EpsBearer) : EpsBearer :=
  { Completion.withSgwFteid bearer p.context with
    pgwFteidS5S8Up :=
      (p.created.localFteid.map fun fteid => { fteid with interfaceType := s5s8PgwGtpU }).getD
        bearer.pgwFteidS5S8Up
    released := false }

/-- `add_eps_bearer` stores bearers with an identity only. -/
def apply (p : Pairing) (bearer : EpsBearer) : EpsBearer :=
  if bearer.ebi = p.ebi ∧ 5 ≤ bearer.ebi ∧ bearer.ebi ≤ 15 then p.write bearer else bearer

theorem sameIds_write (p : Pairing) (bearer : EpsBearer) : bearer.SameIds (p.write bearer) :=
  ⟨rfl, rfl, rfl, rfl, rfl⟩

theorem sameIds_apply (p : Pairing) (bearer : EpsBearer) : bearer.SameIds (p.apply bearer) := by
  unfold apply
  split
  · exact p.sameIds_write bearer
  · exact ⟨rfl, rfl, rfl, rfl, rfl⟩

end Pairing

/-- A bearer after all pairings. -/
def writtenBy (pairings : List Pairing) (bearer : EpsBearer) : EpsBearer :=
  pairings.foldl (fun bearer p => p.apply bearer) bearer

theorem sameIds_writtenBy (pairings : List Pairing) (bearer : EpsBearer) :
    bearer.SameIds (writtenBy pairings bearer) := by
  induction pairings generalizing bearer with
  | nil => exact ⟨rfl, rfl, rfl, rfl, rfl⟩
  | cons p pairings inductionHypothesis =>
      exact (p.sameIds_apply bearer).trans (inductionHypothesis (p.apply bearer))

theorem writtenBy_of_absent {pairings : List Pairing} {bearer : EpsBearer}
    (absent : bearer.ebi ∉ pairings.map Pairing.ebi) : writtenBy pairings bearer = bearer := by
  induction pairings with
  | nil => rfl
  | cons p pairings inductionHypothesis =>
      rw [List.map_cons, List.mem_cons, not_or] at absent
      have same : p.apply bearer = bearer := if_neg fun both => absent.1 both.1
      rw [writtenBy, List.foldl_cons, same]
      exact inductionHypothesis absent.2

/-- A bearer with one pairing. -/
theorem writtenBy_of_mem {pairings : List Pairing} {bearer : EpsBearer} {p : Pairing}
    (distinct : (pairings.map Pairing.ebi).Nodup) (member : p ∈ pairings)
    (own : p.ebi = bearer.ebi) (ranged : 5 ≤ bearer.ebi ∧ bearer.ebi ≤ 15) :
    writtenBy pairings bearer = p.write bearer := by
  induction pairings with
  | nil => cases member
  | cons q pairings inductionHypothesis =>
      rw [List.map_cons, List.nodup_cons] at distinct
      rw [writtenBy, List.foldl_cons]
      cases List.mem_cons.mp member with
      | inl first =>
          have written : q.apply bearer = p.write bearer := by
            rw [← first]
            exact if_pos ⟨own.symm, ranged⟩
          rw [written]
          apply writtenBy_of_absent
          rw [(p.sameIds_write bearer).ebi, ← own, first]
          exact distinct.1
      | inr later =>
          have same : q.apply bearer = bearer := by
            apply if_neg
            intro both
            apply distinct.1
            rw [← both.1, ← own]
            exact List.mem_map_of_mem later
          rw [same]
          exact inductionHypothesis distinct.2 later

/-- The created PDRs that name a bearer, with its EBI. -/
def named (pdn : PdnConnection) (createdPdrs : List CreatedPdr) : List (Nat × CreatedPdr) :=
  createdPdrs.filterMap fun created =>
    (created.pdrId.bind pdn.bearerOfPdrId).map fun bearer => (bearer.ebi, created)

def pairings (pdn : PdnConnection) (createdPdrs : List CreatedPdr)
    (its : List BearerContextToBeModified) : List Pairing :=
  List.zipWith (fun entry it => ⟨entry.1, entry.2, it⟩) (named pdn createdPdrs) its

theorem exists_of_mem_pairings {pdn : PdnConnection} {createdPdrs : List CreatedPdr}
    {its : List BearerContextToBeModified} {p : Pairing}
    (member : p ∈ pairings pdn createdPdrs its) :
    ∃ (key : Nat) (bearer : EpsBearer), pdn.epsBearers[key]? = some bearer ∧
      bearer.ebi = p.ebi := by
  rw [pairings, ← List.map_uncurry_zip_eq_zipWith] at member
  obtain ⟨⟨entry, it⟩, both, rfl⟩ := List.mem_map.mp member
  have listed := (List.of_mem_zip both).1
  obtain ⟨created, _, hit⟩ := List.mem_filterMap.mp listed
  obtain ⟨bearer, found, rfl⟩ := Option.map_eq_some_iff.mp hit
  obtain ⟨pdrId, _, found⟩ := Option.bind_eq_some_iff.mp found
  obtain ⟨key, stored, _⟩ := PdnConnection.exists_of_bearerOfPdrId found
  exact ⟨key, bearer, stored, rfl⟩

theorem named_mapBearers {pdn : PdnConnection} {f : EpsBearer → EpsBearer}
    (same : ∀ bearer : EpsBearer, bearer.SameIds (f bearer)) (createdPdrs : List CreatedPdr) :
    named (pdn.mapBearers f) createdPdrs = named pdn createdPdrs := by
  unfold named
  congr 1
  funext created
  cases created.pdrId with
  | none => rfl
  | some pdrId =>
      rw [Option.bind_some, Option.bind_some, PdnConnection.bearerOfPdrId_mapBearers same,
        Option.map_map]
      cases pdn.bearerOfPdrId pdrId with
      | none => rfl
      | some bearer =>
          rw [Option.map_some, Option.map_some]
          simp only [Function.comp_def, (same bearer).ebi]

theorem named_cons_of_none {pdn : PdnConnection} {created : CreatedPdr}
    {createdPdrs : List CreatedPdr} (missing : created.pdrId.bind pdn.bearerOfPdrId = none) :
    named pdn (created :: createdPdrs) = named pdn createdPdrs := by
  rw [named, List.filterMap_cons_none]
  · rfl
  · rw [missing, Option.map_none]

theorem named_cons_of_some {pdn : PdnConnection} {created : CreatedPdr}
    {createdPdrs : List CreatedPdr} {bearer : EpsBearer}
    (found : created.pdrId.bind pdn.bearerOfPdrId = some bearer) :
    named pdn (created :: createdPdrs) = (bearer.ebi, created) :: named pdn createdPdrs := by
  rw [named, List.filterMap_cons_some]
  · rfl
  · rw [found, Option.map_some]

/-- Bearer contexts that were answered with success, for these EBIs. -/
structure Reports (reported : List BearerContextModified) (ebis : List Nat) : Prop where
  ebis : reported.map BearerContextModified.ebi = ebis
  accepted : ∀ done ∈ reported, done.cause = .requestAccepted

theorem reports_nil : Reports [] [] := ⟨rfl, fun _ absent => absurd absent List.not_mem_nil⟩

theorem Reports.cons {reported : List BearerContextModified} {ebis : List Nat}
    (reports : Reports reported ebis) {done : BearerContextModified}
    (accepted : done.cause = .requestAccepted) : Reports (done :: reported) (done.ebi :: ebis) where
  ebis := by rw [List.map_cons, reports.ebis]
  accepted := List.forall_mem_cons.mpr ⟨accepted, reports.accepted⟩

/-- One created PDR. -/
theorem createdPdr_cases {c : Completion} (homed : c.pdn.Homed) (created : CreatedPdr)
    {bearer : EpsBearer} (found : created.pdrId.bind c.pdn.bearerOfPdrId = some bearer)
    {it : BearerContextToBeModified} {rest : List BearerContextToBeModified}
    (left : c.toBeModified = it :: rest) :
    ∃ done : BearerContextModified, done.ebi = bearer.ebi ∧ done.cause = .requestAccepted ∧
      c.createdPdr created =
        ⟨c.pdn.mapBearers (Pairing.mk bearer.ebi created it).apply, rest,
          c.modified ++ [done]⟩ := by
  obtain ⟨pdrId, _, hit⟩ := Option.bind_eq_some_iff.mp found
  obtain ⟨key, stored, _⟩ := PdnConnection.exists_of_bearerOfPdrId hit
  have written : c.pdn.addEpsBearer ((Pairing.mk bearer.ebi created it).write bearer) =
      c.pdn.mapBearers (Pairing.mk bearer.ebi created it).apply :=
    PdnConnection.addEpsBearer_eq_mapBearers homed stored
      fun other => ((Pairing.mk bearer.ebi created it).sameIds_write other).ebi
  unfold Completion.createdPdr
  rw [found, left]
  cases brought : created.localFteid with
  | none =>
      rw [Pairing.write, brought] at written
      exact ⟨⟨bearer.ebi, .requestAccepted, _⟩, rfl, rfl,
        congrArg (Completion.mk · rest _) written⟩
  | some localFteid =>
      rw [Pairing.write, brought] at written
      exact ⟨⟨bearer.ebi, .requestAccepted, _⟩, rfl, rfl,
        congrArg (Completion.mk · rest _) written⟩

/-- All created PDRs. -/
theorem foldl_createdPdr_eq (createdPdrs : List CreatedPdr) (c : Completion)
    (homed : c.pdn.Homed) :
    ∃ reported, Reports reported ((pairings c.pdn createdPdrs c.toBeModified).map Pairing.ebi) ∧
      createdPdrs.foldl Completion.createdPdr c =
        ⟨c.pdn.mapBearers (writtenBy (pairings c.pdn createdPdrs c.toBeModified)),
          c.toBeModified.drop (pairings c.pdn createdPdrs c.toBeModified).length,
          c.modified ++ reported⟩ := by
  induction createdPdrs generalizing c with
  | nil =>
      refine ⟨[], reports_nil, ?_⟩
      show c = ⟨c.pdn.mapBearers fun bearer => bearer, c.toBeModified, c.modified ++ []⟩
      rw [PdnConnection.mapBearers_id, List.append_nil]
  | cons created createdPdrs inductionHypothesis =>
      cases found : created.pdrId.bind c.pdn.bearerOfPdrId with
      | none =>
          have same : c.createdPdr created = c := by
            unfold Completion.createdPdr
            rw [found]
          rw [List.foldl_cons, same, pairings, named_cons_of_none found]
          exact inductionHypothesis c homed
      | some bearer =>
          cases left : c.toBeModified with
          | nil =>
              have same : c.createdPdr created = c := by
                unfold Completion.createdPdr
                rw [found, left]
              have later := inductionHypothesis c homed
              rw [left, pairings, List.zipWith_nil_right] at later
              rw [List.foldl_cons, same, pairings, List.zipWith_nil_right]
              exact later
          | cons it rest =>
              obtain ⟨done, ebi, accepted, next⟩ := createdPdr_cases homed created found left
              have later := inductionHypothesis (c.createdPdr created) (by
                rw [next]
                exact homed.mapBearers (Pairing.sameIds_apply _))
              rw [next] at later
              dsimp only at later
              rw [pairings, named_mapBearers (Pairing.sameIds_apply _)] at later
              obtain ⟨reported, reports, rest'⟩ := later
              rw [List.foldl_cons, next, rest', pairings, named_cons_of_some found,
                List.zipWith_cons_cons]
              refine ⟨done :: reported, ?_, ?_⟩
              · rw [List.map_cons, ← ebi]
                exact reports.cons accepted
              · rw [PdnConnection.mapBearers_mapBearers, List.append_assoc]
                rfl

/-! ### Updated FARs -/

/-- The EBIs that the updated FARs are answered with: a FAR names a bearer, and there is
a bearer context left for it. -/
def farEbis (pdn : PdnConnection) (left : List BearerContextToBeModified)
    (updateFars : List UpdateFar) : List Nat :=
  updateFars.filterMap fun far =>
    ((pdn.bearerOfFarId far.farId).map EpsBearer.ebi).filter fun ebi =>
      ebi ∈ left.map BearerContextToBeModified.target

theorem farEbis_cons (pdn : PdnConnection) (left : List BearerContextToBeModified)
    (far : UpdateFar) (updateFars : List UpdateFar) :
    farEbis pdn left (far :: updateFars) =
      farEbis pdn left [far] ++ farEbis pdn left updateFars :=
  List.filterMap_append (l := [far])

theorem farEbis_of_none {pdn : PdnConnection} {left : List BearerContextToBeModified}
    {far : UpdateFar} (missing : pdn.bearerOfFarId far.farId = none) :
    farEbis pdn left [far] = [] := by
  rw [farEbis, List.filterMap_cons, missing]
  rfl

theorem farEbis_of_some {pdn : PdnConnection} {left : List BearerContextToBeModified}
    {far : UpdateFar} {bearer : EpsBearer} (hit : pdn.bearerOfFarId far.farId = some bearer) :
    farEbis pdn left [far] =
      if bearer.ebi ∈ left.map BearerContextToBeModified.target then [bearer.ebi] else [] := by
  rw [farEbis, List.filterMap_cons, hit, Option.map_some, Option.filter_some]
  by_cases inside : bearer.ebi ∈ left.map BearerContextToBeModified.target
  · rw [if_pos inside, if_pos (decide_eq_true inside)]
    rfl
  · rw [if_neg inside, if_neg (decide_eq_false inside ▸ Bool.false_ne_true)]
    rfl

theorem exists_of_mem_farEbis {pdn : PdnConnection} {left : List BearerContextToBeModified}
    {updateFars : List UpdateFar} {ebi : Nat} (member : ebi ∈ farEbis pdn left updateFars) :
    ∃ (key : Nat) (bearer : EpsBearer), pdn.epsBearers[key]? = some bearer ∧
      bearer.ebi = ebi := by
  obtain ⟨far, _, hit⟩ := List.mem_filterMap.mp member
  obtain ⟨bearer, found, rfl⟩ := Option.map_eq_some_iff.mp (Option.filter_eq_some_iff.mp hit).1
  obtain ⟨key, stored, _⟩ := PdnConnection.exists_of_bearerOfFarId found
  exact ⟨key, bearer, stored, rfl⟩

theorem farEbis_mapBearers {pdn : PdnConnection} {f : EpsBearer → EpsBearer}
    (same : ∀ bearer : EpsBearer, bearer.SameIds (f bearer))
    (left : List BearerContextToBeModified) (updateFars : List UpdateFar) :
    farEbis (pdn.mapBearers f) left updateFars = farEbis pdn left updateFars := by
  unfold farEbis
  congr 1
  funext far
  rw [PdnConnection.bearerOfFarId_mapBearers same, Option.map_map]
  simp only [Function.comp_def, (same _).ebi]

/-- A FAR is answered with the context of its bearer. -/
theorem updatedFar_cases {c : Completion} (homed : c.pdn.Homed) (far : UpdateFar) :
    (farEbis c.pdn c.toBeModified [far] = [] ∧ c.updatedFar far = c) ∨
      ∃ (done : BearerContextModified) (f : EpsBearer → EpsBearer),
        done.cause = .requestAccepted ∧ (∀ bearer : EpsBearer, bearer.SameIds (f bearer)) ∧
        farEbis c.pdn c.toBeModified [far] = [done.ebi] ∧
        c.updatedFar far = ⟨c.pdn.mapBearers f, c.toBeModified, c.modified ++ [done]⟩ := by
  unfold Completion.updatedFar
  cases hit : c.pdn.bearerOfFarId far.farId with
  | none =>
      left
      exact ⟨farEbis_of_none hit, rfl⟩
  | some b =>
      dsimp only
      cases found : c.toBeModified.find? fun it => it.epsBearerId.getD 0 == b.ebi with
      | none =>
          left
          refine ⟨?_, rfl⟩
          rw [farEbis_of_some hit, if_neg]
          intro member
          obtain ⟨it, inside, own⟩ := List.mem_map.mp member
          exact List.find?_eq_none.mp found it inside (beq_iff_eq.mpr own)
      | some it =>
          right
          obtain ⟨key, stored, _⟩ := PdnConnection.exists_of_bearerOfFarId hit
          have matching := List.find?_some found
          have own : it.target = b.ebi := beq_iff_eq.mp matching
          have inside : b.ebi ∈ c.toBeModified.map BearerContextToBeModified.target := by
            rw [← own]
            exact List.mem_map_of_mem (List.mem_of_find?_eq_some found)
          refine ⟨⟨b.ebi, .requestAccepted, some b.pgwFteidS5S8Up⟩,
            fun other => if other.ebi = b.ebi ∧ 5 ≤ other.ebi ∧ other.ebi ≤ 15 then
              Completion.withSgwFteid other it else other, rfl, ?_, ?_, ?_⟩
          · intro bearer
            dsimp only
            split
            · exact PdnConnection.sameIds_withSgwFteid bearer it
            · exact ⟨rfl, rfl, rfl, rfl, rfl⟩
          · rw [farEbis_of_some hit, if_pos inside]
          · have written : c.pdn.addEpsBearer (Completion.withSgwFteid b it) = _ :=
              PdnConnection.addEpsBearer_eq_mapBearers
                (f := fun other => Completion.withSgwFteid other it) homed stored fun _ => rfl
            exact congrArg (Completion.mk · c.toBeModified _) written

/-- All updated FARs. -/
theorem foldl_updatedFar_eq (updateFars : List UpdateFar) (c : Completion)
    (homed : c.pdn.Homed) :
    ∃ reported, Reports reported (farEbis c.pdn c.toBeModified updateFars) ∧
      (updateFars.foldl Completion.updatedFar c).toBeModified = c.toBeModified ∧
      (updateFars.foldl Completion.updatedFar c).modified = c.modified ++ reported := by
  induction updateFars generalizing c with
  | nil => exact ⟨[], reports_nil, rfl, (List.append_nil _).symm⟩
  | cons far updateFars inductionHypothesis =>
      rw [List.foldl_cons, farEbis_cons]
      cases updatedFar_cases homed far with
      | inl silent =>
          rw [silent.1, silent.2, List.nil_append]
          exact inductionHypothesis c homed
      | inr told =>
          obtain ⟨done, f, accepted, same, ebi, next⟩ := told
          obtain ⟨reported, reports, left, modified⟩ :=
            inductionHypothesis (c.updatedFar far) (by
              rw [next]
              exact homed.mapBearers same)
          rw [next] at reports left modified
          rw [next, ebi, List.singleton_append]
          rw [farEbis_mapBearers same] at reports
          refine ⟨done :: reported, reports.cons accepted, left, ?_⟩
          rw [modified, List.append_assoc, List.singleton_append]

/-- FARs that name no bearer with a context left are not answered. -/
theorem foldl_updatedFar_eq_self {updateFars : List UpdateFar} {c : Completion}
    (homed : c.pdn.Homed) (silent : farEbis c.pdn c.toBeModified updateFars = []) :
    updateFars.foldl Completion.updatedFar c = c := by
  induction updateFars with
  | nil => rfl
  | cons far updateFars inductionHypothesis =>
      rw [farEbis_cons, List.append_eq_nil_iff] at silent
      cases updatedFar_cases homed far with
      | inl same =>
          rw [List.foldl_cons, same.2]
          exact inductionHypothesis silent.2
      | inr told =>
          obtain ⟨done, f, _, _, ebi, _⟩ := told
          rw [ebi] at silent
          cases silent.1

end Gateway

end OpenairSpgwc.Pgw
