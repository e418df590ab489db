import OpenairSpgwc.Pgw.App

/-!
Contract: what a session establishment writes into the bearers of one connection.

Owns:
- `Keyed`: a bearer is stored under its own identity, one that `add_eps_bearer` accepts;
- adding bearers, which draws identifiers that are not given back;
- the F-TEIDs that a list of created PDRs leaves in the bearers.
-/

namespace OpenairSpgwc.Pgw

open Foundation
open OpenairSpgwc.Common
open Std (ExtTreeMap)

namespace PdnConnection

variable {pdn : PdnConnection} {bearer : EpsBearer} {createdPdrs : List CreatedPdr}

/-- A bearer is stored under its own identity, which `add_eps_bearer` has checked. -/
def Keyed (pdn : PdnConnection) : Prop :=
  ∀ (ebi : Nat) (bearer : EpsBearer), pdn.epsBearers[ebi]? = some bearer →
    bearer.ebi = ebi ∧ 5 ≤ ebi ∧ ebi ≤ 15

theorem Keyed.addEpsBearer (keyed : pdn.Keyed) : (pdn.addEpsBearer bearer).Keyed := by
  unfold PdnConnection.addEpsBearer
  split
  · next accepted =>
      intro ebi other found
      rw [ExtTreeMap.getElem?_insert] at found
      split at found
      · next same =>
          cases found
          rw [← compare_eq_iff_eq.mp same]
          exact ⟨rfl, accepted⟩
      · exact keyed ebi other found
  · exact keyed

/-! ## Created PDRs -/

/-- The bearer that a created PDR names and the F-TEID it brings for it. -/
def reported (pdn : PdnConnection) (created : CreatedPdr) : Option (Nat × UserPlaneFteid) :=
  match created.pdrId.bind pdn.bearerOfPdrId, created.localFteid with
  | some bearer, some localFteid =>
      some (bearer.ebi, { localFteid with interfaceType := s5s8PgwGtpU })
  | _, _ => none

/-- The F-TEID that the last created PDR of a bearer brings. -/
def lastReported (pdn : PdnConnection) (createdPdrs : List CreatedPdr) (ebi : Nat) :
    Option UserPlaneFteid :=
  ((createdPdrs.filterMap pdn.reported).reverse.find? fun entry => entry.1 == ebi).map Prod.snd

/-- Every bearer already has the F-TEID that is reported last for it. -/
def Settled (pdn : PdnConnection) (createdPdrs : List CreatedPdr) : Prop :=
  ∀ (ebi : Nat) (bearer : EpsBearer), pdn.epsBearers[ebi]? = some bearer →
    ∀ fteid, pdn.lastReported createdPdrs ebi = some fteid → bearer.pgwFteidS5S8Up = fteid

/-- A bearer with the F-TEID that is reported last for it. -/
def relabel (pdn : PdnConnection) (createdPdrs : List CreatedPdr) (bearer : EpsBearer) :
    EpsBearer :=
  { bearer with
    pgwFteidS5S8Up :=
      (pdn.lastReported createdPdrs bearer.ebi).getD bearer.pgwFteidS5S8Up }

def relabelled (pdn : PdnConnection) (createdPdrs : List CreatedPdr) : PdnConnection :=
  { pdn with epsBearers := pdn.epsBearers.map fun _ bearer => pdn.relabel createdPdrs bearer }

theorem lastReported_append_singleton (created : CreatedPdr) (ebi : Nat) :
    pdn.lastReported (createdPdrs ++ [created]) ebi =
      match pdn.reported created with
      | some (target, fteid) =>
          if target = ebi then some fteid else pdn.lastReported createdPdrs ebi
      | none => pdn.lastReported createdPdrs ebi := by
  unfold lastReported
  rw [List.filterMap_append, List.reverse_append]
  cases outcome : pdn.reported created with
  | none => simp [outcome]
  | some entry =>
      by_cases here : entry.1 = ebi
      · simp [outcome, here]
      · simp [outcome, here]

/-! ### Writing F-TEIDs

`add_eps_bearer` stores a bearer under its own identity if that is one of a bearer. -/

/-- A bearer with the identity of one is stored under it. -/
def Homed (pdn : PdnConnection) : Prop :=
  ∀ (key : Nat) (bearer : EpsBearer), pdn.epsBearers[key]? = some bearer →
    5 ≤ bearer.ebi ∧ bearer.ebi ≤ 15 → bearer.ebi = key

theorem Keyed.homed (keyed : pdn.Keyed) : pdn.Homed :=
  fun key bearer stored _ => (keyed key bearer stored).1

/-- A bearer as the created PDRs leave it. -/
def written (pdn : PdnConnection) (createdPdrs : List CreatedPdr) (bearer : EpsBearer) :
    EpsBearer :=
  if 5 ≤ bearer.ebi ∧ bearer.ebi ≤ 15 then pdn.relabel createdPdrs bearer else bearer

def rewritten (pdn : PdnConnection) (createdPdrs : List CreatedPdr) : PdnConnection :=
  { pdn with epsBearers := pdn.epsBearers.map fun _ bearer => pdn.written createdPdrs bearer }

@[simp] theorem written_ebi : (pdn.written createdPdrs bearer).ebi = bearer.ebi := by
  unfold written
  split <;> rfl

theorem written_of_ranged (ranged : 5 ≤ bearer.ebi ∧ bearer.ebi ≤ 15) :
    pdn.written createdPdrs bearer = pdn.relabel createdPdrs bearer := by
  rw [written, if_pos ranged]

theorem getElem?_rewritten (key : Nat) :
    (pdn.rewritten createdPdrs).epsBearers[key]? =
      (pdn.epsBearers[key]?).map (pdn.written createdPdrs) := by
  rw [rewritten, ExtTreeMap.getElem?_map]

/-- A PDR that reports nothing leaves the bearers as they are. -/
theorem written_append_of_silent {created : CreatedPdr} (silent : pdn.reported created = none) :
    pdn.written (createdPdrs ++ [created]) bearer = pdn.written createdPdrs bearer := by
  unfold written relabel
  rw [lastReported_append_singleton, silent]

/-- One that reports an F-TEID writes it into the bearer that it names. -/
theorem written_append_of_told {created : CreatedPdr} {ebi : Nat} {fteid : UserPlaneFteid}
    (told : pdn.reported created = some (ebi, fteid)) :
    pdn.written (createdPdrs ++ [created]) bearer =
      if bearer.ebi = ebi ∧ 5 ≤ bearer.ebi ∧ bearer.ebi ≤ 15 then
        { bearer with pgwFteidS5S8Up := fteid }
      else
        pdn.written createdPdrs bearer := by
  unfold written relabel
  rw [lastReported_append_singleton, told]
  by_cases ranged : 5 ≤ bearer.ebi ∧ bearer.ebi ≤ 15
  · by_cases here : ebi = bearer.ebi
    · simp [ranged, here]
    · simp [ranged, here, Ne.symm here]
  · simp [ranged]

/-- The F-TEIDs play no role when a bearer is looked up. -/
theorem bearerOfPdrId_rewritten (pdrId : Nat) :
    (pdn.rewritten createdPdrs).bearerOfPdrId pdrId =
      (pdn.bearerOfPdrId pdrId).map (pdn.written createdPdrs) := by
  have same (bearer : EpsBearer) :
      (pdn.written createdPdrs bearer).pdrIdUl = bearer.pdrIdUl ∧
        (pdn.written createdPdrs bearer).pdrIdDl = bearer.pdrIdDl := by
    unfold written
    split <;> exact ⟨rfl, rfl⟩
  unfold bearerOfPdrId rewritten
  rw [ExtTreeMap.toList_map, List.find?_map, Option.map_map, Option.map_map]
  simp only [Function.comp_def, same]

theorem rewritten_congr {others : List CreatedPdr}
    (same : ∀ bearer, pdn.written others bearer = pdn.written createdPdrs bearer) :
    pdn.rewritten others = pdn.rewritten createdPdrs := by
  rw [rewritten, rewritten, funext same]

/-- One created PDR after the others. -/
theorem createdPdr_rewritten (homed : pdn.Homed) (created : CreatedPdr) :
    State.createdPdr (pdn.rewritten createdPdrs) created =
      pdn.rewritten (createdPdrs ++ [created]) := by
  have kept (silent : pdn.reported created = none) :
      pdn.rewritten (createdPdrs ++ [created]) = pdn.rewritten createdPdrs :=
    rewritten_congr fun _ => written_append_of_silent silent
  cases given : created.pdrId with
  | none =>
      rw [kept (by simp [reported, given]), State.createdPdr]
      simp only [given]
  | some pdrId =>
      cases found : pdn.bearerOfPdrId pdrId with
      | none =>
          rw [kept (by simp [reported, given, found]), State.createdPdr]
          simp only [given, bearerOfPdrId_rewritten, found, Option.map_none]
      | some bearer =>
          cases brought : created.localFteid with
          | none =>
              rw [kept (by simp [reported, brought]), State.createdPdr]
              simp only [given, brought]
              split <;> first | rfl | simp_all
          | some localFteid =>
              have told : pdn.reported created =
                  some (bearer.ebi, { localFteid with interfaceType := s5s8PgwGtpU }) := by
                simp [reported, given, found, brought]
              simp only [State.createdPdr, given, brought, bearerOfPdrId_rewritten, found,
                Option.map_some]
              unfold addEpsBearer
              by_cases ranged : 5 ≤ bearer.ebi ∧ bearer.ebi ≤ 15
              · rw [if_pos (by rw [written_ebi]; exact ranged)]
                obtain ⟨⟨key, stored⟩, hit, rfl⟩ := Option.map_eq_some_iff.mp found
                have member := List.mem_of_find?_eq_some hit
                rw [ExtTreeMap.mem_toList_iff_getElem?_eq_some] at member
                have home := homed key stored member ranged
                unfold rewritten
                congr 1
                apply ExtTreeMap.ext_getElem?
                intro place
                rw [ExtTreeMap.getElem?_insert, ExtTreeMap.getElem?_map, ExtTreeMap.getElem?_map]
                by_cases here : stored.ebi = place
                · rw [if_pos (by simpa using here), ← here, home, member, Option.map_some,
                    written_append_of_told told, if_pos ⟨rfl, ranged⟩, written_of_ranged ranged]
                  rfl
                · rw [if_neg (by simpa using here)]
                  cases other : pdn.epsBearers[place]? with
                  | none => rfl
                  | some second =>
                      rw [Option.map_some, Option.map_some, written_append_of_told told, if_neg]
                      intro both
                      exact here (both.1.symm.trans (homed place second other both.2))
              · rw [if_neg (by rw [written_ebi]; exact ranged)]
                refine (rewritten_congr fun second => ?_).symm
                rw [written_append_of_told told, if_neg]
                intro both
                rw [both.1] at both
                exact ranged both.2

/-- The created PDRs write the F-TEIDs of the bearers and nothing else. -/
theorem foldl_createdPdr_of_homed (homed : pdn.Homed) (createdPdrs : List CreatedPdr) :
    createdPdrs.foldl State.createdPdr pdn = pdn.rewritten createdPdrs := by
  induction createdPdrs using List.reverseRecOn with
  | nil =>
      have same : pdn.epsBearers.map (fun _ bearer => pdn.written [] bearer) =
          pdn.epsBearers := by
        apply ExtTreeMap.ext_getElem?
        intro key
        rw [ExtTreeMap.getElem?_map]
        cases pdn.epsBearers[key]? with
        | none => rfl
        | some bearer =>
            rw [Option.map_some, written]
            split <;> rfl
      rw [List.foldl_nil, rewritten, same]
  | append_singleton createdPdrs created inductionHypothesis =>
      rw [List.foldl_append, inductionHypothesis, List.foldl_cons, List.foldl_nil,
        createdPdr_rewritten homed]

/-- Every bearer is written to where all have an identity. -/
theorem foldl_createdPdr (keyed : pdn.Keyed) (createdPdrs : List CreatedPdr) :
    createdPdrs.foldl State.createdPdr pdn = pdn.relabelled createdPdrs := by
  rw [foldl_createdPdr_of_homed keyed.homed, rewritten, relabelled]
  congr 1
  apply ExtTreeMap.ext_getElem?
  intro key
  rw [ExtTreeMap.getElem?_map, ExtTreeMap.getElem?_map]
  cases stored : pdn.epsBearers[key]? with
  | none => rfl
  | some bearer =>
      obtain ⟨same, ranged⟩ := keyed key bearer stored
      rw [Option.map_some, Option.map_some, written_of_ranged (by rw [same]; exact ranged)]

theorem relabelled_eq_self_of_epsBearers
    (same : (pdn.relabelled createdPdrs).epsBearers = pdn.epsBearers) :
    pdn.relabelled createdPdrs = pdn := by
  change { pdn with epsBearers := (pdn.relabelled createdPdrs).epsBearers } = pdn
  rw [same]

theorem relabelled_eq_self_iff (keyed : pdn.Keyed) :
    pdn.relabelled createdPdrs = pdn ↔ pdn.Settled createdPdrs := by
  constructor
  · intro same ebi bearer stored fteid told
    have bearers := congrArg (fun connection => connection.epsBearers[ebi]?) same
    simp only [relabelled, ExtTreeMap.getElem?_map, stored, Option.map_some,
      Option.some.injEq] at bearers
    rw [← bearers, relabel, (keyed ebi bearer stored).1, told]
    rfl
  · intro settled
    have same : pdn.epsBearers.map (fun _ bearer => pdn.relabel createdPdrs bearer) =
        pdn.epsBearers := by
      apply ExtTreeMap.ext_getElem?
      intro ebi
      rw [ExtTreeMap.getElem?_map]
      cases stored : pdn.epsBearers[ebi]? with
      | none => rfl
      | some bearer =>
          have own := (keyed ebi bearer stored).1
          rw [Option.map_some, relabel]
          cases told : pdn.lastReported createdPdrs bearer.ebi with
          | none => rfl
          | some fteid =>
              rw [own] at told
              rw [Option.getD_some, ← settled ebi bearer stored fteid told]
    rw [relabelled, same]

theorem Keyed.relabelled (keyed : pdn.Keyed) : (pdn.relabelled createdPdrs).Keyed := by
  intro ebi bearer found
  simp only [PdnConnection.relabelled, ExtTreeMap.getElem?_map] at found
  obtain ⟨stored, present, rfl⟩ := Option.map_eq_some_iff.mp found
  exact keyed ebi stored present

/-! ## Bearers to be created -/

/-- Every bearer draws one FAR identifier. -/
theorem addBearers_drawn {bearers : List BearerContextToBeCreated} {next : PdnConnection}
    {rules : List UplinkRules} (added : addBearers pdn bearers = some (next, rules)) :
    next.farIdGenerator.uidGenerated.card =
      pdn.farIdGenerator.uidGenerated.card + bearers.length := by
  induction bearers generalizing pdn rules with
  | nil =>
      cases added
      rfl
  | cons bearer bearers inductionHypothesis =>
      rw [addBearers] at added
      split at added
      · next farId farIds pdrId pdrIds drawn _ =>
          simp only at added
          split at added
          · cases added
          · next rest more continued =>
              cases added
              obtain ⟨fresh, rfl⟩ := UintGenerator.getUid_spec drawn
              rw [inductionHypothesis continued, List.length_cons]
              unfold PdnConnection.addEpsBearer
              split <;> simp only [Finset.card_insert_of_notMem fresh] <;> omega
      · cases added

theorem Keyed.addBearers (keyed : pdn.Keyed) {bearers : List BearerContextToBeCreated}
    {next : PdnConnection} {rules : List UplinkRules}
    (added : addBearers pdn bearers = some (next, rules)) : next.Keyed := by
  induction bearers generalizing pdn rules with
  | nil =>
      cases added
      exact keyed
  | cons bearer bearers inductionHypothesis =>
      rw [Pgw.addBearers] at added
      split at added
      · next farId farIds pdrId pdrIds _ _ =>
          simp only at added
          split at added
          · cases added
          · next rest more continued =>
              cases added
              have drawn : ({ pdn with farIdGenerator := farIds, pdrIdGenerator := pdrIds } :
                  PdnConnection).Keyed := keyed
              exact inductionHypothesis drawn.addEpsBearer continued
      · cases added

end PdnConnection

end OpenairSpgwc.Pgw
