import OpenairSpgwc.Pgw.PaaDynamic

/-!
Contract: the pools as sets of taken addresses.

`Taken` is the abstract view: an address is taken under an access point name.
On sound pools `alloc_address` takes an address that was taken under no name,
and a release frees one address or none.

Owns:
- the configurations whose pools can be told apart;
- the invariant of the pools under the releases they can place;
- both operations in terms of `Taken`.
-/

namespace OpenairSpgwc.Pgw

open Foundation
open Std (ExtTreeMap)

/-- Ranges in order, shorter than `2 ^ 31`, and disjoint for different names. -/
structure ProperConfig (pdns : List PdnCfg) : Prop where
  ordered : ∀ p ∈ pdns, p.uePoolRangeLow.toNat ≤ p.uePoolRangeHigh.toNat
  small : ∀ p ∈ pdns, p.range.toNat < 2 ^ 31
  disjoint : ∀ p ∈ pdns, ∀ q ∈ pdns, p.apn ≠ q.apn → ∀ a,
    InRange p.uePoolRangeLow p.range a → ¬InRange q.uePoolRangeLow q.range a

theorem ProperConfig.properRange {pdns : List PdnCfg} (config : ProperConfig pdns) {p : PdnCfg}
    (member : p ∈ pdns) : ProperRange p.uePoolRangeLow p.range where
  fits := by
    have ordered := config.ordered p member
    have bound := p.uePoolRangeHigh.isLt
    rw [PdnCfg.range, BitVec.toNat_sub_of_le (BitVec.le_def.mpr ordered)]
    omega
  small := config.small p member

namespace PaaDynamic

/-- `a` is an address of the pool of `label` and its bit is set. -/
def Taken (pdns : List PdnCfg) (pools : PaaDynamic) (label : String) (a : BitVec 32) : Prop :=
  ∃ i p, pdns[i]? = some p ∧ p.apnLabel = label ∧ pools.apns[label]? = some ⟨[2 * i], []⟩ ∧
    InRange p.uePoolRangeLow p.range a ∧
    (pools.pool (2 * i)).alloc.bit ((a - p.uePoolRangeLow).toNat : Nat) = true

structure Sound (pdns : List PdnCfg) (pools : PaaDynamic) : Prop where
  provisioned : Provisioned pdns pools
  intact : ∀ i p, pdns[i]? = some p → pools.apns[p.apnLabel]? = some ⟨[2 * i], []⟩ →
    Ipv4Pool.Intact p.uePoolRangeLow p.range (pools.pool (2 * i))

variable {pdns : List PdnCfg} {pools : PaaDynamic} {label other : String} {a b : BitVec 32}
  {id : Nat} {next : Ipv4Pool}

theorem sound_applyConfig (config : ProperConfig pdns) : Sound pdns (applyConfig pdns) where
  provisioned := provisioned_applyConfig pdns
  intact i p entry linked := by
    obtain ⟨j, q, entry', -, shape, pool⟩ := (applyConfig_spec pdns).2.2 _ _ linked
    have same : i = j := by simpa using shape
    subst same
    obtain rfl : p = q := Option.some.inj (entry.symm.trans entry')
    rw [PaaDynamic.pool, pool]
    exact Ipv4Pool.intact_ofRange (config.properRange (List.mem_of_getElem? entry))

/-- The entry that a linked pool comes from. -/
theorem Sound.entry (sound : Sound pdns pools) (linked : pools.apns[label]? = some ⟨[id], []⟩) :
    ∃ i p, pdns[i]? = some p ∧ p.apnLabel = label ∧ id = 2 * i ∧ id ∈ pools.ipv4Pools ∧
      Ipv4Pool.Intact p.uePoolRangeLow p.range (pools.pool id) := by
  obtain ⟨i, p, entry, named, shape, present⟩ := sound.provisioned label _ linked
  have same : id = 2 * i := by simpa using shape
  subst same
  subst named
  exact ⟨i, p, entry, rfl, rfl, present, sound.intact i p entry linked⟩

/-- A write to a linked pool that keeps it intact keeps the pools sound. -/
theorem Sound.setPool (sound : Sound pdns pools) {i : Nat} {p : PdnCfg}
    (entry : pdns[i]? = some p) (intact : Ipv4Pool.Intact p.uePoolRangeLow p.range next) :
    Sound pdns (pools.setPool (2 * i) next) where
  provisioned := sound.provisioned.setPool
  intact j q entry' linked := by
    rw [pool_setPool]
    split
    · next same =>
        obtain rfl : i = j := by omega
        obtain rfl : p = q := Option.some.inj (entry.symm.trans entry')
        exact intact
    · exact sound.intact j q entry' linked

/-- An address that is taken under a name is taken under no other. -/
theorem Taken.label_eq (config : ProperConfig pdns) {i : Nat} {p : PdnCfg}
    (entry : pdns[i]? = some p) (inRange : InRange p.uePoolRangeLow p.range a)
    (taken : Taken pdns pools other a) : other = p.apnLabel := by
  obtain ⟨j, q, entry', named, -, inRange', -⟩ := taken
  by_contra different
  have apart : p.apn ≠ q.apn := by
    intro same
    apply different
    rw [← named]
    exact same.symm
  exact config.disjoint p (List.mem_of_getElem? entry) q (List.mem_of_getElem? entry') apart a
    inRange inRange'

/-- What is taken stays so when its bit stays set. -/
theorem Taken.setPool {i : Nat} {p : PdnCfg} (entry : pdns[i]? = some p)
    (kept : ∀ b, InRange p.uePoolRangeLow p.range b → Taken pdns pools p.apnLabel b → b ≠ a →
      next.alloc.bit ((b - p.uePoolRangeLow).toNat : Nat) = true)
    (taken : Taken pdns pools other b) (different : b ≠ a) :
    Taken pdns (pools.setPool (2 * i) next) other b := by
  obtain ⟨j, q, entry', named, linked, inRange, set⟩ := taken
  refine ⟨j, q, entry', named, linked, inRange, ?_⟩
  rw [pool_setPool]
  split
  · next same =>
      obtain rfl : i = j := by omega
      obtain rfl : p = q := Option.some.inj (entry.symm.trans entry')
      subst named
      exact kept b inRange ⟨i, p, entry, rfl, linked, inRange, set⟩ different
  · exact set

/-- The bit of a taken address of the pool itself. -/
theorem Taken.bit {i : Nat} {p : PdnCfg} (entry : pdns[i]? = some p)
    (linked : pools.apns[p.apnLabel]? = some ⟨[2 * i], []⟩)
    (taken : Taken pdns pools p.apnLabel b) :
    (pools.pool (2 * i)).alloc.bit ((b - p.uePoolRangeLow).toNat : Nat) = true := by
  obtain ⟨j, q, entry', -, linked', -, set⟩ := taken
  have same : i = j := by
    have := Option.some.inj (linked.symm.trans linked')
    simpa using this
  subst same
  obtain rfl : p = q := Option.some.inj (entry.symm.trans entry')
  exact set

/-- A successful allocation takes an address that was taken under no name, and
what was taken stays taken. -/
theorem Sound.alloc (config : ProperConfig pdns) (sound : Sound pdns pools)
    (linked : pools.apns[label]? = some ⟨[id], []⟩)
    (allocated : (pools.pool id).allocAddress = (some a, next)) :
    Sound pdns (pools.setPool id next) ∧ Taken pdns (pools.setPool id next) label a ∧
      (∀ other, ¬Taken pdns pools other a) ∧
      ∀ other b, Taken pdns pools other b → Taken pdns (pools.setPool id next) other b := by
  obtain ⟨i, p, entry, rfl, rfl, present, intact⟩ := sound.entry linked
  have proper := config.properRange (List.mem_of_getElem? entry)
  obtain ⟨kept, k, less, rfl, clear, -, changed⟩ := intact.allocAddress_eq_some allocated
  have distance : (p.uePoolRangeLow + BitVec.ofNat 32 k - p.uePoolRangeLow).toNat = k := by
    rw [BitVec.add_comm, BitVec.add_sub_cancel, BitVec.toNat_ofNat, Nat.mod_eq_of_lt]
    have := p.range.isLt
    omega
  have inRange : InRange p.uePoolRangeLow p.range (p.uePoolRangeLow + BitVec.ofNat 32 k) := by
    rw [proper.inRange_iff, distance]
    exact less
  have untaken : ∀ other, ¬Taken pdns pools other (p.uePoolRangeLow + BitVec.ofNat 32 k) := by
    intro other taken
    have named := taken.label_eq config entry inRange
    subst named
    have set := taken.bit entry linked
    rw [distance, clear] at set
    cases set
  refine ⟨sound.setPool entry kept, ?_, untaken, ?_⟩
  · refine ⟨i, p, entry, rfl, linked, inRange, ?_⟩
    rw [pool_setPool, if_pos rfl, distance, changed]
    simp
  · intro other b taken
    have different : b ≠ p.uePoolRangeLow + BitVec.ofNat 32 k := by
      rintro rfl
      exact untaken other taken
    refine taken.setPool entry ?_ different
    intro c _ takenHere _
    rw [changed, takenHere.bit entry linked, Bool.true_or]

/-- A release that the pool refuses, or of one of its own addresses, frees at
most that address. -/
theorem Sound.release (config : ProperConfig pdns) (sound : Sound pdns pools) (label : String)
    (a : BitVec 32) (placeable : ∀ id, pools.apns[label]? = some ⟨[id], []⟩ →
      (pools.pool id).inPool a = false ∨ 0 ≤ (a - (pools.pool id).start).toInt) :
    Sound pdns (pools.releasePaa label a).2 ∧
      ∀ other b, Taken pdns pools other b →
        (b ≠ a ∨ ∀ id, pools.apns[label]? = some ⟨[id], []⟩ → (pools.pool id).inPool a = false) →
        Taken pdns (pools.releasePaa label a).2 other b := by
  rcases releasePaa_cases sound.provisioned label a with
    ⟨-, unchanged⟩ | ⟨id, linked, present, released⟩
  · rw [unchanged]
    exact ⟨sound, fun other b taken _ => taken⟩
  · by_cases accepted : (pools.pool id).inPool a = true
    · rw [released]
      obtain ⟨i, p, entry, rfl, rfl, -, intact⟩ := sound.entry linked
      have proper := config.properRange (List.mem_of_getElem? entry)
      have own : InRange p.uePoolRangeLow p.range a := by
        have nonneg := (placeable (2 * i) linked).resolve_left (by rw [accepted]; decide)
        rw [intact.start] at nonneg
        rw [Ipv4Pool.inPool_iff proper ⟨intact.start, by rw [intact.num, proper.num_eq]⟩]
          at accepted
        refine accepted.resolve_right fun far => ?_
        rw [BitVec.toInt_eq_toNat_cond] at nonneg
        split at nonneg <;> omega
      obtain ⟨-, kept, changed⟩ := intact.freeAddress_of_inRange proper own
      refine ⟨sound.setPool entry kept, fun other b taken spared => ?_⟩
      have different : b ≠ a := by
        refine spared.resolve_right fun refused => ?_
        rw [refused (2 * i) linked] at accepted
        cases accepted
      refine taken.setPool entry ?_ different
      intro c inRange takenHere apart
      rw [changed, takenHere.bit entry linked, Bool.true_and]
      have distances : (c - p.uePoolRangeLow).toNat ≠ (a - p.uePoolRangeLow).toNat := by
        intro same
        apply apart
        rw [← BitVec.sub_add_cancel c p.uePoolRangeLow, BitVec.eq_of_toNat_eq same,
          BitVec.sub_add_cancel]
      rw [Bool.not_eq_true', decide_eq_false_iff_not, Int.natCast_inj]
      exact distances
    · have refused := Bool.eq_false_iff.mpr accepted
      rw [released, Ipv4Pool.freeAddress_of_not_inPool refused, setPool_pool present]
      exact ⟨sound, fun other b taken _ => taken⟩

end PaaDynamic

end OpenairSpgwc.Pgw
