import OpenairSpgwc.Pgw.Modifications
import OpenairSpgwc.Pgw.Reachable

/-!
Contract: the map of bearers of one PGW connection under every operation on it.

Owns:
- `BearerOperation`, what the procedures do to the map, and the two removals;
- the keys that a Modify Bearer Request leaves, known bearers or not;
- when the map stays well formed along a run, and no request adds a key.
-/

namespace OpenairSpgwc.Pgw

open Foundation
open OpenairSpgwc.Common
open Std (ExtTreeMap)

/-! ## Operations -/

namespace PdnConnection

/-- `remove_eps_bearer(ebi)`: the bearer that `operator[]` may have made is erased. -/
def removeEpsBearer (pdn : PdnConnection) (ebi : Nat) : PdnConnection :=
  { pdn with epsBearers := (pdn.epsBearers.insert ebi {}).erase ebi }

/-- `remove_eps_bearer(bearer)` for a reference to the bearer stored under `key`: it is
cleared in its place, and the key that it named before is erased. -/
def removeStored (pdn : PdnConnection) (key : Nat) : PdnConnection :=
  match pdn.epsBearers[key]? with
  | none => pdn
  | some bearer => { pdn with epsBearers := (pdn.epsBearers.insert key {}).erase bearer.ebi }

/-- `remove_eps_bearer(bearer)` for a bearer that is no element of the map. -/
def removeCopy (pdn : PdnConnection) (bearer : EpsBearer) : PdnConnection :=
  { pdn with epsBearers := pdn.epsBearers.erase bearer.ebi }

end PdnConnection

/-- What is done to the bearers of one connection. -/
inductive BearerOperation where
  /-- `session_establishment_procedure::run`. -/
  | establish (bearers : List BearerContextToBeCreated)
  /-- `session_establishment_procedure::handle_itti_msg`. -/
  | established (response : SessionEstablishmentResponse)
  /-- `modify_bearer_procedure::run`. -/
  | modify (toBeModified : List BearerContextToBeModified)
  /-- `modify_bearer_procedure::handle_itti_msg`. -/
  | modified (toBeModified : List BearerContextToBeModified) (updateFars : List UpdateFar)
      (pending : ModifyBearerResponse) (response : SessionModificationResponse)
  /-- `release_access_bearers_procedure::run`. -/
  | release
  | removeEpsBearer (ebi : Nat)
  | removeStored (key : Nat)
  | removeCopy (bearer : EpsBearer)
  /-- `deallocate_ressources`. -/
  | deallocate
deriving DecidableEq

namespace BearerOperation

/-- One operation on the connection; it answers nothing. -/
def step (pdn : PdnConnection) : BearerOperation → Option (PdnConnection × List Unit)
  | .establish bearers => (addBearers pdn bearers).map fun (pdn, _) => (pdn, [])
  | .established response => some (State.established pdn response, [])
  | .modify toBeModified =>
      (Modification.bearers { pdn := pdn } toBeModified).map fun m => (m.pdn, [])
  | .modified toBeModified updateFars pending response =>
      some ((Gateway.completed pdn toBeModified updateFars pending response).1, [])
  | .release => some (Gateway.releaseBearers pdn, [])
  | .removeEpsBearer ebi => some (pdn.removeEpsBearer ebi, [])
  | .removeStored key => some (pdn.removeStored key, [])
  | .removeCopy bearer => some (pdn.removeCopy bearer, [])
  | .deallocate => some (pdn.clear, [])

/-- Every EBI of a Modify Bearer Request is that of a stored bearer. -/
def NamesStored (pdn : PdnConnection) : BearerOperation → Prop
  | .modify toBeModified => ∀ it ∈ toBeModified, it.target ∈ pdn.epsBearers
  | _ => True

/-- A Modify Bearer Request adds no key. -/
def AddsNoKey (before after : PdnConnection) : BearerOperation → Prop
  | .modify _ => ∀ key, key ∈ after.epsBearers → key ∈ before.epsBearers
  | _ => True

end BearerOperation

/-! ## Modify Bearer Requests -/

namespace PdnConnection

/-- `next` is `pdn` with other generators of rule identifiers. -/
def Redrawn (pdn next : PdnConnection) : Prop :=
  next = { pdn with
    farIdGenerator := next.farIdGenerator, pdrIdGenerator := next.pdrIdGenerator }

theorem Redrawn.trans {pdn middle next : PdnConnection} (first : pdn.Redrawn middle)
    (second : middle.Redrawn next) : pdn.Redrawn next := by
  unfold Redrawn at first second
  rw [first] at second
  exact second

theorem Redrawn.epsBearers {pdn next : PdnConnection} (redrawn : pdn.Redrawn next) :
    next.epsBearers = pdn.epsBearers := by
  unfold Redrawn at redrawn
  rw [redrawn]

def putBearer (pdn : PdnConnection) (ebi : Nat) (bearer : EpsBearer) : PdnConnection :=
  { pdn with epsBearers := pdn.epsBearers.insert ebi bearer }

end PdnConnection

namespace Modification

variable {m next : Modification} {it : BearerContextToBeModified} {peb bearer : EpsBearer}
  {v : UserPlaneFteid} {ebi : Nat}

theorem redrawn_generateFarId {farId : Nat} (drawn : m.generateFarId = some (farId, next)) :
    m.pdn.Redrawn next.pdn := by
  obtain ⟨farIds, -, rfl⟩ := generateFarId_eq_some drawn
  rfl

theorem redrawn_generatePdrId {pdrId : Nat} (drawn : m.generatePdrId = some (pdrId, next)) :
    m.pdn.Redrawn next.pdn := by
  obtain ⟨pdrIds, -, rfl⟩ := generatePdrId_eq_some drawn
  rfl

/-- The second half of both directions, with a new PDR or without. -/
theorem pdr_frame {missing : Prop} [Decidable missing] {first : Modification}
    {made : Nat × Modification → Modification × EpsBearer} {other : Modification × EpsBearer}
    (ran : (if missing then first.generatePdrId.bind fun drawn => some (made drawn)
      else some other) = some (next, bearer))
    (kept : m.pdn.Redrawn first.pdn)
    (leaves : ∀ drawn, (made drawn).1.pdn = drawn.2.pdn ∧ (made drawn).2.ebi = peb.ebi)
    (same : m.pdn.Redrawn other.1.pdn ∧ other.2.ebi = peb.ebi) :
    m.pdn.Redrawn next.pdn ∧ bearer.ebi = peb.ebi := by
  split at ran
  · obtain ⟨drawn, generated, took⟩ := Option.bind_eq_some_iff.mp ran
    have written := Option.some.inj took
    have left := leaves drawn
    rw [written] at left
    refine ⟨?_, left.2⟩
    show m.pdn.Redrawn next.pdn
    rw [left.1]
    exact kept.trans (redrawn_generatePdrId generated)
  · cases ran
    exact same

/-- The rules for the downlink leave all but the generators, and the identity of the bearer. -/
theorem downlink_frame (ran : m.downlink peb v = some (next, bearer)) :
    m.pdn.Redrawn next.pdn ∧ bearer.ebi = peb.ebi := by
  unfold downlink at ran
  simp only [Option.bind_eq_bind, Option.pure_def, Option.bind_some] at ran
  split at ran
  · exact pdr_frame ran rfl (fun _ => ⟨rfl, rfl⟩) ⟨rfl, rfl⟩
  · obtain ⟨drawn, generated, rest⟩ := Option.bind_eq_some_iff.mp ran
    have kept := redrawn_generateFarId generated
    exact pdr_frame rest kept (fun _ => ⟨rfl, rfl⟩) ⟨kept, rfl⟩

theorem uplink_frame (ran : m.uplink peb = some (next, bearer)) :
    m.pdn.Redrawn next.pdn ∧ bearer.ebi = peb.ebi := by
  unfold uplink at ran
  simp only [Option.bind_eq_bind, Option.pure_def, Option.bind_some] at ran
  split at ran
  · exact pdr_frame ran rfl (fun _ => ⟨rfl, rfl⟩) ⟨rfl, rfl⟩
  · obtain ⟨drawn, generated, rest⟩ := Option.bind_eq_some_iff.mp ran
    have kept := redrawn_generateFarId generated
    exact pdr_frame rest kept (fun _ => ⟨rfl, rfl⟩) ⟨kept, rfl⟩

/-- The end of the body stores the bearer under the EBI of the request. -/
theorem finish_frame (own : peb.ebi = ebi) (ran : finish ebi (m, peb) = some next) :
    ∃ (bearer : EpsBearer) (drawn : PdnConnection), bearer.ebi = peb.ebi ∧ m.pdn.Redrawn drawn ∧
      next.pdn = drawn.putBearer ebi bearer := by
  unfold finish at ran
  split at ran
  · cases ran
    refine ⟨peb, m.pdn, rfl, rfl, ?_⟩
    rw [store_eq_put own]
    rfl
  · obtain ⟨⟨last, stored⟩, took, rfl⟩ := Option.map_eq_some_iff.mp ran
    obtain ⟨kept, identity⟩ := uplink_frame took
    refine ⟨stored, last.pdn, identity, kept, ?_⟩
    rw [store_eq_put (identity.trans own)]
    rfl

/-- One pass stores a bearer under the EBI of the request, with the identity of the one that
was looked up. -/
theorem bearer_frame (ran : m.bearer it = some next) :
    ∃ (bearer : EpsBearer) (drawn : PdnConnection), bearer.ebi = (m.bearerAt it.target).ebi ∧
      m.pdn.Redrawn drawn ∧ next.pdn = drawn.putBearer it.target bearer := by
  rw [bearer_eq] at ran
  split at ran
  · cases ran
    exact ⟨_, m.pdn, rfl, rfl, rfl⟩
  · next own =>
      have own := not_not.mp own
      split at ran
      · cases ran
        exact ⟨_, m.pdn, rfl, rfl, rfl⟩
      · obtain ⟨⟨middle, written⟩, down, ran⟩ := Option.bind_eq_some_iff.mp ran
        have kept : (m.pdn.putBearer it.target (m.bearerAt it.target)).Redrawn middle.pdn ∧
              written.ebi = (m.bearerAt it.target).ebi := by
          split at down
          · exact downlink_frame down
          · cases down
            exact ⟨rfl, rfl⟩
        obtain ⟨bearer, drawn, identity, last, stored⟩ := finish_frame (kept.2.trans own) ran
        refine ⟨bearer, { drawn with epsBearers := m.pdn.epsBearers }, identity.trans kept.2, ?_, ?_⟩
        · rw [kept.1.trans last]
          rfl
        · rw [stored, kept.1.trans last]
          simp only [PdnConnection.putBearer, insert_insert]

theorem bearer_stored (ran : m.bearer it = some next) :
    ∃ bearer : EpsBearer, bearer.ebi = (m.bearerAt it.target).ebi ∧
      next.pdn.epsBearers = m.pdn.epsBearers.insert it.target bearer := by
  obtain ⟨bearer, drawn, identity, redrawn, stored⟩ := bearer_frame ran
  refine ⟨bearer, identity, ?_⟩
  rw [stored, PdnConnection.putBearer, redrawn.epsBearers]

/-- The keys after the loop are the old ones and every EBI of the request. -/
theorem mem_of_bearers {its : List BearerContextToBeModified} (ran : m.bearers its = some next)
    (key : Nat) : key ∈ next.pdn.epsBearers ↔
      key ∈ m.pdn.epsBearers ∨ ∃ it ∈ its, it.target = key := by
  induction its generalizing m with
  | nil =>
      cases ran
      simp
  | cons it its inductionHypothesis =>
      obtain ⟨middle, first, rest⟩ := Option.bind_eq_some_iff.mp ran
      obtain ⟨bearer, -, stored⟩ := bearer_stored first
      rw [inductionHypothesis rest, stored, ExtTreeMap.mem_insert, compare_eq_iff_eq]
      simp only [List.mem_cons, exists_eq_or_imp]
      tauto

/-- A bearer that is there keeps its identity. -/
theorem keyed_of_bearer (keyed : m.pdn.Keyed) (stored : it.target ∈ m.pdn.epsBearers)
    (ran : m.bearer it = some next) : next.pdn.Keyed := by
  obtain ⟨bearer, identity, written⟩ := bearer_stored ran
  obtain ⟨before, found⟩ := Option.isSome_iff_exists.mp
    (ExtTreeMap.mem_iff_isSome_getElem?.mp stored)
  have known := keyed it.target before found
  rw [bearerAt, found, Option.getD_some, known.1] at identity
  intro key other there
  rw [written, ExtTreeMap.getElem?_insert] at there
  split at there
  · next here =>
      cases there
      rw [← compare_eq_iff_eq.mp here]
      exact ⟨identity, known.2⟩
  · exact keyed key other there

theorem keyed_of_bearers {its : List BearerContextToBeModified} (keyed : m.pdn.Keyed)
    (stored : ∀ it ∈ its, it.target ∈ m.pdn.epsBearers) (ran : m.bearers its = some next) :
    next.pdn.Keyed := by
  induction its generalizing m with
  | nil =>
      cases ran
      exact keyed
  | cons it its inductionHypothesis =>
      obtain ⟨middle, first, rest⟩ := Option.bind_eq_some_iff.mp ran
      have here := stored it List.mem_cons_self
      refine inductionHypothesis (keyed_of_bearer keyed here first) (fun other member => ?_) rest
      obtain ⟨bearer, -, written⟩ := bearer_stored first
      rw [written, ExtTreeMap.mem_insert]
      exact .inr (stored other (List.mem_cons_of_mem _ member))

end Modification

/-! ## The other operations -/

namespace PdnConnection

variable {pdn : PdnConnection} {bearer : EpsBearer}

/-- A map with fewer keys, and the bearers that it had. -/
theorem Keyed.restrict {next : PdnConnection} (keyed : pdn.Keyed)
    (fewer : ∀ (key : Nat) (bearer : EpsBearer), next.epsBearers[key]? = some bearer →
      pdn.epsBearers[key]? = some bearer) : next.Keyed :=
  fun key bearer there => keyed key bearer (fewer key bearer there)

theorem Keyed.removeEpsBearer (keyed : pdn.Keyed) (ebi : Nat) :
    (pdn.removeEpsBearer ebi).Keyed := by
  apply keyed.restrict
  intro key bearer there
  simp only [PdnConnection.removeEpsBearer, ExtTreeMap.getElem?_erase, ExtTreeMap.getElem?_insert,
    compare_eq_iff_eq] at there
  split at there
  · cases there
  · exact there

theorem Keyed.removeCopy (keyed : pdn.Keyed) : (pdn.removeCopy bearer).Keyed := by
  apply keyed.restrict
  intro key other there
  simp only [PdnConnection.removeCopy, ExtTreeMap.getElem?_erase] at there
  split at there
  · cases there
  · exact there

/-- A stored bearer names the key it is stored under, so what was cleared is erased. -/
theorem Keyed.removeStored (keyed : pdn.Keyed) (key : Nat) : (pdn.removeStored key).Keyed := by
  unfold PdnConnection.removeStored
  split
  · exact keyed
  · next bearer stored =>
      rw [(keyed key bearer stored).1]
      exact keyed.removeEpsBearer key

/-- What `add_eps_bearer` keeps, the loop over the bearers to be released keeps. -/
theorem releaseBearers_keeps {P : PdnConnection → Prop}
    (kept : ∀ (pdn : PdnConnection) bearer, P pdn → P (pdn.addEpsBearer bearer)) (holds : P pdn) :
    P (Gateway.releaseBearers pdn) := by
  unfold Gateway.releaseBearers
  -- The entries are those of the map at the start, whatever the loop has stored since.
  generalize pdn.epsBearers.toList = entries
  induction entries generalizing pdn with
  | nil => exact holds
  | cons entry entries inductionHypothesis => exact inductionHypothesis (kept _ _ holds)

/-- And so do the two loops of `modify_bearer_procedure::handle_itti_msg`. -/
theorem completed_keeps {P : PdnConnection → Prop}
    (kept : ∀ (pdn : PdnConnection) bearer, P pdn → P (pdn.addEpsBearer bearer)) (holds : P pdn)
    (toBeModified : List BearerContextToBeModified) (updateFars : List UpdateFar)
    (pending : ModifyBearerResponse) (response : SessionModificationResponse) :
    P (Gateway.completed pdn toBeModified updateFars pending response).1 := by
  have createdPdr (c : Gateway.Completion) (created : CreatedPdr) (before : P c.pdn) :
      P (c.createdPdr created).pdn := by
    unfold Gateway.Completion.createdPdr
    split
    · exact kept _ _ before
    · exact before
  have updatedFar (c : Gateway.Completion) (far : UpdateFar) (before : P c.pdn) :
      P (c.updatedFar far).pdn := by
    unfold Gateway.Completion.updatedFar
    split
    · exact before
    · split
      · exact before
      · exact kept _ _ before
  have created (c : Gateway.Completion) (pdrs : List CreatedPdr) (before : P c.pdn) :
      P (pdrs.foldl Gateway.Completion.createdPdr c).pdn := by
    induction pdrs generalizing c with
    | nil => exact before
    | cons pdr pdrs inductionHypothesis => exact inductionHypothesis _ (createdPdr c pdr before)
  have updated (c : Gateway.Completion) (fars : List UpdateFar) (before : P c.pdn) :
      P (fars.foldl Gateway.Completion.updatedFar c).pdn := by
    induction fars generalizing c with
    | nil => exact before
    | cons far fars inductionHypothesis => exact inductionHypothesis _ (updatedFar c far before)
  unfold Gateway.completed
  dsimp only
  split
  · exact updated _ _ (created _ _ holds)
  · exact created _ _ holds

end PdnConnection

/-! ## Runs -/

namespace BearerOperation

variable {pdn next : PdnConnection} {operation : BearerOperation} {events : List Unit}
  {records : List (StepRecord PdnConnection BearerOperation Unit)} {finish : PdnConnection}

/-- An operation that names stored bearers only. -/
theorem keyed_of_step (keyed : pdn.Keyed) (named : operation.NamesStored pdn)
    (taken : step pdn operation = some (next, events)) : next.Keyed := by
  cases operation with
  | establish bearers =>
      obtain ⟨⟨added, rules⟩, ran, same⟩ := Option.map_eq_some_iff.mp taken
      cases same
      exact keyed.addBearers ran
  | established response =>
      cases taken
      exact State.keyed_established keyed
  | modify toBeModified =>
      obtain ⟨m, ran, same⟩ := Option.map_eq_some_iff.mp taken
      cases same
      exact Modification.keyed_of_bearers (m := { pdn := pdn }) keyed named ran
  | modified toBeModified updateFars pending response =>
      cases taken
      exact PdnConnection.completed_keeps (fun _ _ before => before.addEpsBearer) keyed toBeModified
        updateFars pending response
  | release =>
      cases taken
      exact PdnConnection.releaseBearers_keeps (fun _ _ before => before.addEpsBearer) keyed
  | removeEpsBearer ebi =>
      cases taken
      exact keyed.removeEpsBearer ebi
  | removeStored key =>
      cases taken
      exact keyed.removeStored key
  | removeCopy bearer =>
      cases taken
      exact keyed.removeCopy
  | deallocate =>
      cases taken
      intro key bearer there
      simp [PdnConnection.clear] at there

/-- The EBI of a Modify Bearer Request becomes a key. -/
theorem namesStored_of_addsNoKey (taken : step pdn operation = some (next, events))
    (adds : operation.AddsNoKey pdn next) : operation.NamesStored pdn := by
  cases operation with
  | modify toBeModified =>
      obtain ⟨m, ran, same⟩ := Option.map_eq_some_iff.mp taken
      cases same
      intro it member
      have becomes := (Modification.mem_of_bearers ran it.target).mpr (.inr ⟨it, member, rfl⟩)
      exact adds it.target becomes
  | establish bearers => trivial
  | established response => trivial
  | modified toBeModified updateFars pending response => trivial
  | release => trivial
  | removeEpsBearer ebi => trivial
  | removeStored key => trivial
  | removeCopy bearer => trivial
  | deallocate => trivial

theorem addsNoKey_of_namesStored (taken : step pdn operation = some (next, events))
    (named : operation.NamesStored pdn) : operation.AddsNoKey pdn next := by
  cases operation with
  | modify toBeModified =>
      obtain ⟨m, ran, same⟩ := Option.map_eq_some_iff.mp taken
      cases same
      intro key member
      cases (Modification.mem_of_bearers ran key).mp member with
      | inl before => exact before
      | inr asked =>
          obtain ⟨it, asked, rfl⟩ := asked
          exact named it asked
  | establish bearers => trivial
  | established response => trivial
  | modified toBeModified updateFars pending response => trivial
  | release => trivial
  | removeEpsBearer ebi => trivial
  | removeStored key => trivial
  | removeCopy bearer => trivial
  | deallocate => trivial

/-- Along every run of operations on a new connection, every key is the EBI of its bearer and one
of 5 to 15, and no Modify Bearer Request adds a key: if and only if every EBI of every such
request is that of a stored bearer. -/
theorem bearer_map_well_formed_iff {start : PdnConnection} (noBearers : start.epsBearers = ∅)
    (run : Run step start records finish) :
    (∀ record ∈ records, record.after.Keyed ∧
        record.action.AddsNoKey record.before record.after) ↔
      ∀ record ∈ records, record.action.NamesStored record.before := by
  apply run.forall_records_iff PdnConnection.Keyed (fun pdn operation => operation.NamesStored pdn)
    (fun record => record.after.Keyed ∧ record.action.AddsNoKey record.before record.after)
  · intro key bearer there
    simp [noBearers] at there
  · intro pdn operation next events keyed named taken
    exact keyed_of_step keyed named taken
  · intro pdn operation next events keyed taken
    constructor
    · exact fun both => namesStored_of_addsNoKey taken both.2
    · exact fun named => ⟨keyed_of_step keyed named taken, addsNoKey_of_namesStored taken named⟩

/-- A bearer, an eNB for it, and its removal. -/
def lifeOfABearer : List BearerOperation :=
  [.establish [⟨5⟩], .modify [{ epsBearerId := some 5 }], .release, .removeEpsBearer 5]

theorem lifeOfABearer_well_formed : ∃ records finish, Run step {} records finish ∧
    records.map StepRecord.action = lifeOfABearer ∧
    ((∀ record ∈ records, record.after.Keyed ∧
        record.action.AddsNoKey record.before record.after) ↔
      ∀ record ∈ records, record.action.NamesStored record.before) := by
  obtain ⟨records, finish, run, same⟩ := Run.exists_of_passes step {} lifeOfABearer
    (fun records _ => records.map StepRecord.action = lifeOfABearer) (by decide)
  exact ⟨records, finish, run, same, bearer_map_well_formed_iff rfl run⟩

/-- A request for an EBI that the connection does not have makes a bearer without one. -/
theorem unknown_ebi_adds_key : ¬∀ records finish, Run step {} records finish →
    ∀ record ∈ records, record.after.Keyed ∧
      record.action.AddsNoKey record.before record.after := by
  intro wellFormed
  obtain ⟨records, finish, run, record, member, bearer, stored, none⟩ := Run.exists_of_passes
    step {} [.establish [⟨5⟩], .modify [{ epsBearerId := some 6 }]]
    (fun records _ => ∃ record ∈ records, ∃ bearer ∈ record.after.epsBearers[6]?, bearer.ebi = 0)
    (by decide)
  have keyed := (wellFormed records finish run record member).1 6 bearer stored
  rw [none] at keyed
  cases keyed.1

end BearerOperation

end OpenairSpgwc.Pgw
