import OpenairSpgwc.Foundation.Slots
import OpenairSpgwc.Pgw.Bearers
import OpenairSpgwc.Pgw.Service

/-!
Contract: the rule identifiers that a PDN connection records in its bearers.

Owns:
- `Sound`: where bearers are stored, which of their identifiers are there, and that
  each identifier was drawn and belongs to one direction of one bearer;
- `Relabels`: writing F-TEIDs and marks into bearers, which is all that responses and
  releases do;
- that establishing bearers keeps a connection sound.

A PDR identifier is zero once, after all others have been drawn. From then on no
identifier can be drawn any more.
-/

namespace OpenairSpgwc.Pgw

open Foundation
open OpenairSpgwc.Common
open Std (ExtTreeMap)

/-! ### Identifiers -/

inductive Direction where
  | uplink
  | downlink
deriving DecidableEq

namespace EpsBearer

/-- The PDR identifier of a direction; zero is none. -/
def pdr (bearer : EpsBearer) : Direction → Option Nat
  | .uplink => if bearer.pdrIdUl = 0 then none else some bearer.pdrIdUl
  | .downlink => if bearer.pdrIdDl = 0 then none else some bearer.pdrIdDl

/-- The FAR identifier of a direction; zero is none. -/
def far (bearer : EpsBearer) : Direction → Option Nat
  | .uplink => bearer.farIdUl.filter (· ≠ 0)
  | .downlink => bearer.farIdDl.filter (· ≠ 0)

theorem pdr_uplink_eq_some {bearer : EpsBearer} {pdrId : Nat} :
    bearer.pdr .uplink = some pdrId ↔ bearer.pdrIdUl = pdrId ∧ pdrId ≠ 0 := by
  rw [pdr]
  split <;> grind

theorem pdr_downlink_eq_some {bearer : EpsBearer} {pdrId : Nat} :
    bearer.pdr .downlink = some pdrId ↔ bearer.pdrIdDl = pdrId ∧ pdrId ≠ 0 := by
  rw [pdr]
  split <;> grind

theorem far_uplink_eq_some {bearer : EpsBearer} {farId : Nat} :
    bearer.far .uplink = some farId ↔ bearer.farIdUl = some farId ∧ farId ≠ 0 := by
  rw [far, Option.filter_eq_some_iff, decide_eq_true_iff]

theorem far_downlink_eq_some {bearer : EpsBearer} {farId : Nat} :
    bearer.far .downlink = some farId ↔ bearer.farIdDl = some farId ∧ farId ≠ 0 := by
  rw [far, Option.filter_eq_some_iff, decide_eq_true_iff]

/-- A direction without rules. -/
def Unset (pdrId : Nat) (farId : Option Nat) : Prop := pdrId = 0 ∧ farId = none

/-- A direction with rules; `full` says that no PDR identifier is left. -/
def Paired (full : Prop) (pdrId : Nat) (farId : Option Nat) : Prop :=
  ∃ far, far ≠ 0 ∧ farId = some far ∧ (pdrId = 0 → full)

/-- What a bearer may be that is stored under `key`. `eps_bearers[ebi]` stores bearers
without an identity of their own. -/
inductive Placed (full : Prop) (key : Nat) (bearer : EpsBearer) : Prop where
  | assigned (own : bearer.ebi = key) (range : 5 ≤ key ∧ key ≤ 15)
      (up : Paired full bearer.pdrIdUl bearer.farIdUl)
      (down : Unset bearer.pdrIdDl bearer.farIdDl ∨ Paired full bearer.pdrIdDl bearer.farIdDl)
  | unassigned (own : bearer.ebi = 0) (noPgw : bearer.pgwFteidS5S8Up.isZero = true)
      (active : bearer.released = false) (up : Unset bearer.pdrIdUl bearer.farIdUl)
      (down : Unset bearer.pdrIdDl bearer.farIdDl ∨
        key = 0 ∧ Paired full bearer.pdrIdDl bearer.farIdDl)

theorem Paired.mono {full later : Prop} {pdrId : Nat} {farId : Option Nat}
    (paired : Paired full pdrId farId) (still : full → later) : Paired later pdrId farId := by
  obtain ⟨far, nonzero, given, exhausted⟩ := paired
  exact ⟨far, nonzero, given, fun zero => still (exhausted zero)⟩

theorem Placed.mono {full later : Prop} {key : Nat} {bearer : EpsBearer}
    (placed : Placed full key bearer) (still : full → later) : Placed later key bearer := by
  cases placed with
  | assigned own range up down =>
      exact .assigned own range (up.mono still) (down.imp_right (·.mono still))
  | unassigned own noPgw active up down =>
      exact .unassigned own noPgw active up
        (down.imp_right fun both => ⟨both.1, both.2.mono still⟩)

theorem placed_default (full : Prop) (key : Nat) : Placed full key {} :=
  .unassigned rfl rfl rfl ⟨rfl, rfl⟩ (.inl ⟨rfl, rfl⟩)

@[simp] theorem pdr_default (direction : Direction) : ({} : EpsBearer).pdr direction = none := by
  cases direction <;> rfl

@[simp] theorem far_default (direction : Direction) : ({} : EpsBearer).far direction = none := by
  cases direction <;> rfl

/-- The bearer has the identifiers of another one. -/
structure SameIds (bearer other : EpsBearer) : Prop where
  ebi : other.ebi = bearer.ebi
  pdrIdUl : other.pdrIdUl = bearer.pdrIdUl
  pdrIdDl : other.pdrIdDl = bearer.pdrIdDl
  farIdUl : other.farIdUl = bearer.farIdUl
  farIdDl : other.farIdDl = bearer.farIdDl

/-- A bearer with the F-TEIDs or the mark of another one. One without an identity is not
written to. -/
structure Relabelled (bearer other : EpsBearer) : Prop extends SameIds bearer other where
  unassigned : bearer.ebi = 0 → other = bearer

theorem Relabelled.refl (bearer : EpsBearer) : Relabelled bearer bearer :=
  ⟨⟨rfl, rfl, rfl, rfl, rfl⟩, fun _ => rfl⟩

theorem SameIds.trans {first second third : EpsBearer} (left : SameIds first second)
    (right : SameIds second third) : SameIds first third where
  ebi := right.ebi.trans left.ebi
  pdrIdUl := right.pdrIdUl.trans left.pdrIdUl
  pdrIdDl := right.pdrIdDl.trans left.pdrIdDl
  farIdUl := right.farIdUl.trans left.farIdUl
  farIdDl := right.farIdDl.trans left.farIdDl

theorem Relabelled.pdr {bearer other : EpsBearer} (relabelled : Relabelled bearer other) :
    other.pdr = bearer.pdr := by
  funext direction
  cases direction with
  | uplink => rw [EpsBearer.pdr, EpsBearer.pdr, relabelled.pdrIdUl]
  | downlink => rw [EpsBearer.pdr, EpsBearer.pdr, relabelled.pdrIdDl]

theorem Relabelled.far {bearer other : EpsBearer} (relabelled : Relabelled bearer other) :
    other.far = bearer.far := by
  funext direction
  cases direction with
  | uplink => rw [EpsBearer.far, EpsBearer.far, relabelled.farIdUl]
  | downlink => rw [EpsBearer.far, EpsBearer.far, relabelled.farIdDl]

theorem Placed.relabelled {full : Prop} {key : Nat} {bearer other : EpsBearer}
    (placed : Placed full key bearer) (relabelled : Relabelled bearer other) :
    Placed full key other := by
  cases placed with
  | assigned own range up down =>
      apply Placed.assigned (relabelled.ebi.trans own) range
      · rw [relabelled.pdrIdUl, relabelled.farIdUl]
        exact up
      · rw [relabelled.pdrIdDl, relabelled.farIdDl]
        exact down
  | unassigned own noPgw active up down =>
      rw [relabelled.unassigned own]
      exact .unassigned own noPgw active up down

end EpsBearer

/-! ### Generators -/

/-- As many FAR identifiers as PDR identifiers were drawn, and none was given back. -/
def Numbered (farIds : UintGenerator 32) (pdrIds : UintGenerator 16) : Prop :=
  ∃ n, farIds.Counted n ∧ (pdrIds.Counted n ∨ pdrIds.Exhausted ∧ n = 2 ^ 16)

theorem numbered_empty : Numbered .empty .empty :=
  ⟨0, UintGenerator.counted_empty, .inl UintGenerator.counted_empty⟩

/-- One identifier of each kind is drawn. -/
structure Draws (farIds nextFarIds : UintGenerator 32) (pdrIds nextPdrIds : UintGenerator 16)
    (farId pdrId : Nat) : Prop where
  numbered : Numbered nextFarIds nextPdrIds
  farNonzero : farId ≠ 0
  farFresh : farId ∉ farIds.uidGenerated
  farLive : nextFarIds.uidGenerated = insert farId farIds.uidGenerated
  pdrFresh : pdrId ∉ pdrIds.uidGenerated
  pdrLive : nextPdrIds.uidGenerated = insert pdrId pdrIds.uidGenerated
  pdrZero : pdrId = 0 → nextPdrIds.Exhausted
  left : ¬pdrIds.Exhausted

theorem Numbered.draws {farIds nextFarIds : UintGenerator 32} {pdrIds nextPdrIds : UintGenerator 16}
    {farId pdrId : Nat} (numbered : Numbered farIds pdrIds)
    (drawnFar : farIds.getUid = some (farId, nextFarIds))
    (drawnPdr : pdrIds.getUid = some (pdrId, nextPdrIds)) :
    Draws farIds nextFarIds pdrIds nextPdrIds farId pdrId := by
  obtain ⟨n, far, pdr⟩ := numbered
  have farSpec := UintGenerator.getUid_spec drawnFar
  have pdrSpec := UintGenerator.getUid_spec drawnPdr
  have left : ¬pdrIds.Exhausted := by
    intro exhausted
    rw [exhausted.getUid] at drawnPdr
    cases drawnPdr
  have counted : pdrIds.Counted n := by
    cases pdr with
    | inl counted => exact counted
    | inr full => exact absurd full.1 left
  have small := counted.small
  obtain ⟨farIds', takesFar, farCounted⟩ := far.getUid (by omega)
  rw [drawnFar] at takesFar
  cases takesFar
  have farLive : nextFarIds.uidGenerated = insert (n + 1) farIds.uidGenerated := by
    rw [farSpec.2]
  have pdrLive : nextPdrIds.uidGenerated = insert pdrId pdrIds.uidGenerated := by
    rw [pdrSpec.2]
  by_cases room : n + 1 < 2 ^ 16
  · obtain ⟨pdrIds', takesPdr, pdrCounted⟩ := counted.getUid room
    rw [drawnPdr] at takesPdr
    cases takesPdr
    exact ⟨⟨n + 1, farCounted, .inl pdrCounted⟩, Nat.succ_ne_zero n, farSpec.1, farLive,
      pdrSpec.1, pdrLive, fun zero => absurd zero (Nat.succ_ne_zero n), left⟩
  · obtain ⟨pdrIds', takesPdr, exhausted⟩ := counted.getUid_wraps (by omega)
    rw [drawnPdr] at takesPdr
    cases takesPdr
    exact ⟨⟨n + 1, farCounted, .inr ⟨exhausted, by omega⟩⟩, Nat.succ_ne_zero n, farSpec.1, farLive,
      pdrSpec.1, pdrLive, fun _ => exhausted, left⟩

/-! ### Connections -/

namespace PdnConnection

variable {pdn next : PdnConnection}

/-- The direction of the bearer under `key` has this PDR identifier. -/
abbrev HasPdr (pdn : PdnConnection) (pdrId key : Nat) (direction : Direction) : Prop :=
  Foundation.Holds EpsBearer.pdr pdn.epsBearers pdrId key direction

abbrev HasFar (pdn : PdnConnection) (farId key : Nat) (direction : Direction) : Prop :=
  Foundation.Holds EpsBearer.far pdn.epsBearers farId key direction

structure Sound (pdn : PdnConnection) : Prop where
  numbered : Numbered pdn.farIdGenerator pdn.pdrIdGenerator
  placed : ∀ (key : Nat) (bearer : EpsBearer), pdn.epsBearers[key]? = some bearer →
    bearer.Placed pdn.pdrIdGenerator.Exhausted key
  pdrDrawn : ∀ pdrId key direction, pdn.HasPdr pdrId key direction →
    pdrId ∈ pdn.pdrIdGenerator.uidGenerated
  farDrawn : ∀ farId key direction, pdn.HasFar farId key direction →
    farId ∈ pdn.farIdGenerator.uidGenerated
  pdrApart : Apart EpsBearer.pdr pdn.epsBearers
  farApart : Apart EpsBearer.far pdn.epsBearers

/-- A connection without bearers. -/
theorem sound_of_empty (empty : pdn.epsBearers = ∅)
    (numbered : Numbered pdn.farIdGenerator pdn.pdrIdGenerator) : pdn.Sound where
  numbered := numbered
  placed key bearer stored := by
    rw [empty, ExtTreeMap.getElem?_empty] at stored
    cases stored
  pdrDrawn pdrId key direction holds := by
    rw [HasPdr, empty] at holds
    exact absurd holds not_holds_empty
  farDrawn farId key direction holds := by
    rw [HasFar, empty] at holds
    exact absurd holds not_holds_empty
  pdrApart := by
    rw [empty]
    exact apart_empty
  farApart := by
    rw [empty]
    exact apart_empty

/-- A bearer is stored that keeps the identifiers of the one before it, and has perhaps
new ones in one direction. -/
theorem Sound.put (sound : pdn.Sound) {key : Nat} {bearer : EpsBearer} (fresh : Direction)
    (bearers : next.epsBearers = pdn.epsBearers.insert key bearer)
    (numbered : Numbered next.farIdGenerator next.pdrIdGenerator)
    (farMore : pdn.farIdGenerator.uidGenerated ⊆ next.farIdGenerator.uidGenerated)
    (pdrMore : pdn.pdrIdGenerator.uidGenerated ⊆ next.pdrIdGenerator.uidGenerated)
    (placed : bearer.Placed next.pdrIdGenerator.Exhausted key)
    (pdrs : ∀ direction pdrId, bearer.pdr direction = some pdrId →
      pdn.HasPdr pdrId key direction ∨
        direction = fresh ∧ pdrId ∉ pdn.pdrIdGenerator.uidGenerated ∧
          pdrId ∈ next.pdrIdGenerator.uidGenerated)
    (fars : ∀ direction farId, bearer.far direction = some farId →
      pdn.HasFar farId key direction ∨
        direction = fresh ∧ farId ∉ pdn.farIdGenerator.uidGenerated ∧
          farId ∈ next.farIdGenerator.uidGenerated) : next.Sound where
  numbered := numbered
  placed other stored found := by
    rw [bearers] at found
    cases getElem?_insert_eq_some.mp found with
    | inl new =>
        rw [new.1, new.2]
        exact placed
    | inr old =>
        exact (sound.placed other stored old.2).mono fun exhausted uid small =>
          pdrMore (exhausted uid small)
  pdrDrawn pdrId other direction holds := by
    rw [HasPdr, bearers] at holds
    cases holds_insert.mp holds with
    | inl new =>
        cases pdrs direction pdrId new.2 with
        | inl old => exact pdrMore (sound.pdrDrawn pdrId key direction old)
        | inr drawn => exact drawn.2.2
    | inr old => exact pdrMore (sound.pdrDrawn pdrId other direction old.2)
  farDrawn farId other direction holds := by
    rw [HasFar, bearers] at holds
    cases holds_insert.mp holds with
    | inl new =>
        cases fars direction farId new.2 with
        | inl old => exact farMore (sound.farDrawn farId key direction old)
        | inr drawn => exact drawn.2.2
    | inr old => exact farMore (sound.farDrawn farId other direction old.2)
  pdrApart := by
    rw [bearers]
    apply sound.pdrApart.insert fresh
    intro direction pdrId held
    cases pdrs direction pdrId held with
    | inl old => exact .inl old
    | inr drawn =>
        exact .inr ⟨drawn.1, fun other slot old => drawn.2.1 (sound.pdrDrawn pdrId other slot old)⟩
  farApart := by
    rw [bearers]
    apply sound.farApart.insert fresh
    intro direction farId held
    cases fars direction farId held with
    | inl old => exact .inl old
    | inr drawn =>
        exact .inr ⟨drawn.1, fun other slot old => drawn.2.1 (sound.farDrawn farId other slot old)⟩

/-- The same identifiers under the same keys. -/
structure Relabels (pdn next : PdnConnection) : Prop where
  farIds : next.farIdGenerator = pdn.farIdGenerator
  pdrIds : next.pdrIdGenerator = pdn.pdrIdGenerator
  bearers : ∀ key : Nat,
    Option.Rel EpsBearer.Relabelled pdn.epsBearers[key]? next.epsBearers[key]?

theorem Relabels.refl (pdn : PdnConnection) : pdn.Relabels pdn where
  farIds := rfl
  pdrIds := rfl
  bearers key := by
    cases pdn.epsBearers[key]? with
    | none => exact .none
    | some bearer => exact .some (.refl bearer)

theorem Relabels.stored (relabels : pdn.Relabels next) {key : Nat} {bearer : EpsBearer}
    (found : next.epsBearers[key]? = some bearer) :
    ∃ before, pdn.epsBearers[key]? = some before ∧ before.Relabelled bearer := by
  have both := relabels.bearers key
  rw [found] at both
  cases before : pdn.epsBearers[key]? with
  | none =>
      rw [before] at both
      cases both
  | some stored =>
      rw [before] at both
      cases both with
      | some relabelled => exact ⟨stored, rfl, relabelled⟩

theorem Relabels.slots {α : Type} {slots : EpsBearer → α} (relabels : pdn.Relabels next)
    (same : ∀ {bearer other : EpsBearer}, bearer.Relabelled other → slots other = slots bearer)
    (key : Nat) : (next.epsBearers[key]?).map slots = (pdn.epsBearers[key]?).map slots := by
  have both := relabels.bearers key
  cases before : pdn.epsBearers[key]? with
  | none =>
      cases after : next.epsBearers[key]? with
      | none => rfl
      | some bearer =>
          rw [before, after] at both
          cases both
  | some bearer =>
      cases after : next.epsBearers[key]? with
      | none =>
          rw [before, after] at both
          cases both
      | some other =>
          rw [before, after] at both
          cases both with
          | some relabelled => rw [Option.map_some, Option.map_some, same relabelled]

theorem Relabels.hasPdr (relabels : pdn.Relabels next) {pdrId key : Nat} {direction : Direction} :
    next.HasPdr pdrId key direction ↔ pdn.HasPdr pdrId key direction :=
  holds_congr (relabels.slots fun relabelled => relabelled.pdr)

theorem Relabels.hasFar (relabels : pdn.Relabels next) {farId key : Nat} {direction : Direction} :
    next.HasFar farId key direction ↔ pdn.HasFar farId key direction :=
  holds_congr (relabels.slots fun relabelled => relabelled.far)

theorem Sound.relabels (sound : pdn.Sound) (relabels : pdn.Relabels next) : next.Sound where
  numbered := by
    rw [relabels.farIds, relabels.pdrIds]
    exact sound.numbered
  placed key bearer stored := by
    obtain ⟨before, found, relabelled⟩ := relabels.stored stored
    rw [relabels.pdrIds]
    exact (sound.placed key before found).relabelled relabelled
  pdrDrawn pdrId key direction holds := by
    rw [relabels.pdrIds]
    exact sound.pdrDrawn pdrId key direction (relabels.hasPdr.mp holds)
  farDrawn farId key direction holds := by
    rw [relabels.farIds]
    exact sound.farDrawn farId key direction (relabels.hasFar.mp holds)
  pdrApart := sound.pdrApart.congr (relabels.slots fun relabelled => relabelled.pdr)
  farApart := sound.farApart.congr (relabels.slots fun relabelled => relabelled.far)

/-- In a sound connection a bearer with an identity is stored under it. -/
theorem Sound.own_of_stored (sound : pdn.Sound) {key : Nat}
    {bearer : EpsBearer} (stored : pdn.epsBearers[key]? = some bearer) (assigned : bearer.ebi ≠ 0) :
    bearer.ebi = key ∧ 5 ≤ key ∧ key ≤ 15 := by
  cases sound.placed key bearer stored with
  | assigned own range _ _ => exact ⟨own, range⟩
  | unassigned own _ _ _ _ => exact absurd own assigned

theorem Sound.homed (sound : pdn.Sound) : pdn.Homed := by
  intro key bearer stored ranged
  exact (sound.own_of_stored stored (by omega)).1

/-! ### Operations -/

/-- A stored bearer is added again with other F-TEIDs or another mark. -/
theorem Relabels.addEpsBearer (relabels : pdn.Relabels next) (sound : pdn.Sound) {key : Nat}
    {bearer other : EpsBearer} (stored : pdn.epsBearers[key]? = some bearer)
    (same : bearer.SameIds other) : pdn.Relabels (next.addEpsBearer other) := by
  unfold PdnConnection.addEpsBearer
  by_cases range : 5 ≤ other.ebi ∧ other.ebi ≤ 15
  · rw [if_pos range]
    have assigned : bearer.ebi ≠ 0 := by
      rw [← same.ebi]
      omega
    have home : other.ebi = key := by
      cases sound.placed key bearer stored with
      | assigned own => exact same.ebi.trans own
      | unassigned own => exact absurd own assigned
    constructor
    · exact relabels.farIds
    · exact relabels.pdrIds
    · intro place
      show Option.Rel _ _ ((next.epsBearers.insert other.ebi other)[place]?)
      rw [ExtTreeMap.getElem?_insert]
      by_cases here : compare other.ebi place = .eq
      · rw [if_pos here, ← compare_eq_iff_eq.mp here, home, stored]
        exact .some ⟨same, fun none => absurd none assigned⟩
      · rw [if_neg here]
        exact relabels.bearers place
  · rw [if_neg range]
    exact relabels

theorem exists_of_bearerOfPdrId {pdrId : Nat} {bearer : EpsBearer}
    (found : pdn.bearerOfPdrId pdrId = some bearer) :
    ∃ key : Nat, pdn.epsBearers[key]? = some bearer ∧
      (bearer.pdrIdUl = pdrId ∨ bearer.pdrIdDl = pdrId) := by
  obtain ⟨⟨key, stored⟩, hit, rfl⟩ := Option.map_eq_some_iff.mp found
  have member := List.mem_of_find?_eq_some hit
  rw [ExtTreeMap.mem_toList_iff_getElem?_eq_some] at member
  have matching := List.find?_some hit
  rw [Bool.or_eq_true, beq_iff_eq, beq_iff_eq] at matching
  exact ⟨key, member, matching⟩

theorem exists_of_bearerOfFarId {farId : Nat} {bearer : EpsBearer}
    (found : pdn.bearerOfFarId farId = some bearer) :
    ∃ key : Nat, pdn.epsBearers[key]? = some bearer ∧
      (bearer.farIdUl = some farId ∨ bearer.farIdDl = some farId) := by
  obtain ⟨⟨key, stored⟩, hit, rfl⟩ := Option.map_eq_some_iff.mp found
  have member := List.mem_of_find?_eq_some hit
  rw [ExtTreeMap.mem_toList_iff_getElem?_eq_some] at member
  have matching := List.find?_some hit
  rw [Bool.or_eq_true, beq_iff_eq, beq_iff_eq] at matching
  exact ⟨key, member, matching⟩

theorem isSome_bearerOfFarId {key farId : Nat} {bearer : EpsBearer}
    (stored : pdn.epsBearers[key]? = some bearer)
    (holds : bearer.farIdUl = some farId ∨ bearer.farIdDl = some farId) :
    (pdn.bearerOfFarId farId).isSome := by
  rw [bearerOfFarId, Option.isSome_map, List.find?_isSome]
  refine ⟨(key, bearer), ExtTreeMap.mem_toList_iff_getElem?_eq_some.mpr stored, ?_⟩
  rw [Bool.or_eq_true, beq_iff_eq, beq_iff_eq]
  exact holds

/-- A bearer that was looked up in a relabelled connection is added again. -/
theorem Relabels.addAgain (relabels : pdn.Relabels next) (sound : pdn.Sound) {key : Nat}
    {bearer other : EpsBearer} (stored : next.epsBearers[key]? = some bearer)
    (same : bearer.SameIds other) : pdn.Relabels (next.addEpsBearer other) := by
  obtain ⟨before, found, relabelled⟩ := relabels.stored stored
  exact relabels.addEpsBearer sound found (relabelled.toSameIds.trans same)

theorem Relabels.createdPdr (relabels : pdn.Relabels next) (sound : pdn.Sound)
    (created : CreatedPdr) : pdn.Relabels (State.createdPdr next created) := by
  unfold State.createdPdr
  cases created.pdrId with
  | none => exact relabels
  | some pdrId =>
      dsimp only
      cases found : next.bearerOfPdrId pdrId with
      | none => exact relabels
      | some bearer =>
          cases created.localFteid with
          | none => exact relabels
          | some localFteid =>
              obtain ⟨key, stored, _⟩ := exists_of_bearerOfPdrId found
              exact relabels.addAgain sound stored ⟨rfl, rfl, rfl, rfl, rfl⟩

theorem Relabels.createdPdrs (relabels : pdn.Relabels next) (sound : pdn.Sound)
    (createdPdrs : List CreatedPdr) :
    pdn.Relabels (createdPdrs.foldl State.createdPdr next) := by
  induction createdPdrs generalizing next with
  | nil => exact relabels
  | cons created createdPdrs inductionHypothesis =>
      exact inductionHypothesis (relabels.createdPdr sound created)

theorem Sound.established (sound : pdn.Sound) (response : SessionEstablishmentResponse) :
    pdn.Relabels (State.established pdn response) := by
  unfold State.established
  apply Relabels.createdPdrs _ sound
  split
  · exact ⟨rfl, rfl, (Relabels.refl pdn).bearers⟩
  · exact .refl pdn

theorem sameIds_withSgwFteid (bearer : EpsBearer) (it : BearerContextToBeModified) :
    bearer.SameIds (Gateway.Completion.withSgwFteid bearer it) :=
  ⟨rfl, rfl, rfl, rfl, rfl⟩

theorem Relabels.completionCreatedPdr {c : Gateway.Completion} (relabels : pdn.Relabels c.pdn)
    (sound : pdn.Sound) (created : CreatedPdr) : pdn.Relabels (c.createdPdr created).pdn := by
  unfold Gateway.Completion.createdPdr
  cases found : created.pdrId.bind c.pdn.bearerOfPdrId with
  | none => exact relabels
  | some bearer =>
      cases c.toBeModified with
      | nil => exact relabels
      | cons it rest =>
          obtain ⟨pdrId, _, hit⟩ := Option.bind_eq_some_iff.mp found
          obtain ⟨key, stored, _⟩ := exists_of_bearerOfPdrId hit
          cases created.localFteid with
          | none => exact relabels.addAgain sound stored ⟨rfl, rfl, rfl, rfl, rfl⟩
          | some localFteid => exact relabels.addAgain sound stored ⟨rfl, rfl, rfl, rfl, rfl⟩

theorem Relabels.completionUpdatedFar {c : Gateway.Completion} (relabels : pdn.Relabels c.pdn)
    (sound : pdn.Sound) (far : UpdateFar) : pdn.Relabels (c.updatedFar far).pdn := by
  unfold Gateway.Completion.updatedFar
  cases found : c.pdn.bearerOfFarId far.farId with
  | none => exact relabels
  | some bearer =>
      simp only
      cases c.toBeModified.find? fun it => it.epsBearerId.getD 0 == bearer.ebi with
      | none => exact relabels
      | some it =>
          obtain ⟨key, stored, _⟩ := exists_of_bearerOfFarId found
          exact relabels.addAgain sound stored (sameIds_withSgwFteid bearer it)

/-- A response to a modification writes F-TEIDs and marks only. -/
theorem Sound.completed (sound : pdn.Sound) (toBeModified : List BearerContextToBeModified)
    (updateFars : List UpdateFar) (pending : ModifyBearerResponse)
    (response : SessionModificationResponse) :
    pdn.Relabels (Gateway.completed pdn toBeModified updateFars pending response).1 := by
  have created (createdPdrs : List CreatedPdr) (c : Gateway.Completion)
      (relabels : pdn.Relabels c.pdn) :
      pdn.Relabels (createdPdrs.foldl Gateway.Completion.createdPdr c).pdn := by
    induction createdPdrs generalizing c with
    | nil => exact relabels
    | cons first createdPdrs inductionHypothesis =>
        exact inductionHypothesis _ (relabels.completionCreatedPdr sound first)
  have updated (fars : List UpdateFar) (c : Gateway.Completion) (relabels : pdn.Relabels c.pdn) :
      pdn.Relabels (fars.foldl Gateway.Completion.updatedFar c).pdn := by
    induction fars generalizing c with
    | nil => exact relabels
    | cons first fars inductionHypothesis =>
        exact inductionHypothesis _ (relabels.completionUpdatedFar sound first)
  have afterPdrs := created response.createdPdrs
    ⟨pdn, toBeModified, pending.bearerContextsModified⟩ (.refl pdn)
  unfold Gateway.completed
  by_cases accepted : response.cause = some causeValueRequestAccepted
  · simp only [if_pos accepted]
    exact updated updateFars _ afterPdrs
  · simp only [if_neg accepted]
    exact afterPdrs

/-- The release marks the bearers and changes nothing else. -/
theorem Sound.releaseBearers (sound : pdn.Sound) :
    pdn.Relabels (Gateway.releaseBearers pdn) := by
  have marked (entries : List (Nat × EpsBearer))
      (stored : ∀ entry ∈ entries, pdn.epsBearers[entry.1]? = some entry.2)
      (next : PdnConnection) (relabels : pdn.Relabels next) :
      pdn.Relabels (entries.foldl
        (fun pdn it => pdn.addEpsBearer { it.2 with released := true }) next) := by
    induction entries generalizing next with
    | nil => exact relabels
    | cons entry entries inductionHypothesis =>
        rw [List.forall_mem_cons] at stored
        exact inductionHypothesis stored.2 _
          (relabels.addEpsBearer sound stored.1 ⟨rfl, rfl, rfl, rfl, rfl⟩)
  apply marked _ _ pdn (.refl pdn)
  intro entry member
  exact ExtTreeMap.mem_toList_iff_getElem?_eq_some.mp member

theorem Sound.congr (sound : pdn.Sound) (bearers : next.epsBearers = pdn.epsBearers)
    (farIds : next.farIdGenerator = pdn.farIdGenerator)
    (pdrIds : next.pdrIdGenerator = pdn.pdrIdGenerator) : next.Sound := by
  apply sound.relabels
  refine ⟨farIds, pdrIds, fun key => ?_⟩
  rw [bearers]
  exact (Relabels.refl pdn).bearers key

theorem Sound.set (sound : pdn.Sound) (paa : Paa) : (pdn.set paa).Sound := by
  unfold PdnConnection.set
  split
  · exact sound.congr rfl rfl rfl
  · exact sound.congr rfl rfl rfl
  · exact sound.congr rfl rfl rfl
  · exact sound.congr rfl rfl rfl
  · exact sound

theorem Sound.clear (sound : pdn.Sound) : pdn.clear.Sound :=
  sound_of_empty rfl sound.numbered

/-- The bearer of `run` for one context to be created. -/
theorem Sound.addUplink (sound : pdn.Sound) {farIds : UintGenerator 32} {pdrIds : UintGenerator 16}
    {farId pdrId : Nat} (ebi : Nat)
    (draws : Draws pdn.farIdGenerator farIds pdn.pdrIdGenerator pdrIds farId pdrId) :
    (({ pdn with farIdGenerator := farIds, pdrIdGenerator := pdrIds }).addEpsBearer
      { ebi := ebi, farIdUl := some farId, pdrIdUl := pdrId }).Sound := by
  have farMore : pdn.farIdGenerator.uidGenerated ⊆ farIds.uidGenerated := by
    rw [draws.farLive]
    exact Finset.subset_insert _ _
  have pdrMore : pdn.pdrIdGenerator.uidGenerated ⊆ pdrIds.uidGenerated := by
    rw [draws.pdrLive]
    exact Finset.subset_insert _ _
  unfold PdnConnection.addEpsBearer
  by_cases range : 5 ≤ ebi ∧ ebi ≤ 15
  · rw [if_pos range]
    apply sound.put .uplink rfl draws.numbered farMore pdrMore
    · exact .assigned rfl range ⟨farId, draws.farNonzero, rfl, draws.pdrZero⟩ (.inl ⟨rfl, rfl⟩)
    · intro direction id given
      cases direction with
      | uplink =>
          obtain ⟨same, _⟩ := EpsBearer.pdr_uplink_eq_some.mp given
          right
          rw [draws.pdrLive, ← same]
          exact ⟨rfl, draws.pdrFresh, Finset.mem_insert_self _ _⟩
      | downlink =>
          obtain ⟨same, nonzero⟩ := EpsBearer.pdr_downlink_eq_some.mp given
          exact absurd same.symm nonzero
    · intro direction id given
      cases direction with
      | uplink =>
          obtain ⟨same, _⟩ := EpsBearer.far_uplink_eq_some.mp given
          right
          rw [draws.farLive, ← Option.some.inj same]
          exact ⟨rfl, draws.farFresh, Finset.mem_insert_self _ _⟩
      | downlink => cases (EpsBearer.far_downlink_eq_some.mp given).1
  · rw [if_neg range]
    constructor
    · exact draws.numbered
    · intro key bearer stored
      exact (sound.placed key bearer stored).mono fun exhausted uid small =>
        pdrMore (exhausted uid small)
    · exact fun id key direction holds => pdrMore (sound.pdrDrawn id key direction holds)
    · exact fun id key direction holds => farMore (sound.farDrawn id key direction holds)
    · exact sound.pdrApart
    · exact sound.farApart

/-- One context to be created, in a sound connection. -/
theorem addBearers_cons {bearer : BearerContextToBeCreated}
    {bearers : List BearerContextToBeCreated} {rules : List UplinkRules}
    (numbered : Numbered pdn.farIdGenerator pdn.pdrIdGenerator)
    (added : addBearers pdn (bearer :: bearers) = some (next, rules)) :
    ∃ farIds pdrIds farId pdrId rest,
      Draws pdn.farIdGenerator farIds pdn.pdrIdGenerator pdrIds farId pdrId ∧
      addBearers (({ pdn with farIdGenerator := farIds, pdrIdGenerator := pdrIds }).addEpsBearer
        { ebi := bearer.epsBearerId, farIdUl := some farId, pdrIdUl := pdrId }) bearers =
          some (next, rest) ∧
      rules = ⟨bearer.epsBearerId, farId, pdrId⟩ :: rest := by
  rw [addBearers] at added
  split at added
  · next farId farIds pdrId pdrIds drawnFar drawnPdr =>
      simp only at added
      split at added
      · cases added
      · next last rest continued =>
          cases added
          exact ⟨farIds, pdrIds, farId, pdrId, rest, numbered.draws drawnFar drawnPdr, continued,
            rfl⟩
  · cases added

theorem Sound.addBearers (sound : pdn.Sound) {bearers : List BearerContextToBeCreated}
    {rules : List UplinkRules} (added : addBearers pdn bearers = some (next, rules)) :
    next.Sound := by
  induction bearers generalizing pdn rules with
  | nil =>
      cases added
      exact sound
  | cons bearer bearers inductionHypothesis =>
      obtain ⟨farIds, pdrIds, farId, pdrId, rest, draws, continued, _⟩ :=
        addBearers_cons sound.numbered added
      exact inductionHypothesis (sound.addUplink bearer.epsBearerId draws) continued

end PdnConnection

end OpenairSpgwc.Pgw
