import OpenairSpgwc.Pgw.Ipv4Pool

/-!
Contract: `paa_dynamic` of `pgw_paa_dynamic.hpp` and `pgw_app::apply_config`.

Owns:
- PDN types, PDN address allocations and the pools of an access point name;
- `add_pool` for both families, `get_free_paa`, `release_paa` for an IPv4 address;
- the pools that the configuration leads to, whatever operations follow.

`ipv4_pools[*it4]` after the loop of the IPv4v6 branch reads through `end()`.
The identifier it yields is an argument of `getFreePaa`, and the result says
that it was read.
-/

namespace OpenairSpgwc.Pgw

open Foundation
open Std (ExtTreeMap)

/-- `pdn_type_e`; the information element has room for values that are none of
these. -/
inductive PdnType where
  | ipv4
  | ipv6
  | ipv4v6
  | nonIp
  | unknown (value : Nat)
deriving DecidableEq, Repr

structure Paa where
  pdnType : PdnType := .ipv4
  ipv4Address : BitVec 32 := 0
  ipv6Address : BitVec 128 := 0
deriving DecidableEq

def Paa.isIpAssigned (paa : Paa) : Bool :=
  match paa.pdnType with
  | .ipv4 => paa.ipv4Address != 0
  | .ipv6 => paa.ipv6Address != 0
  | .ipv4v6 => paa.ipv4Address != 0 || paa.ipv6Address != 0
  | .nonIp => false
  | .unknown _ => false

structure Ipv6Pool where
  ipv6Prefix : BitVec 128 := 0
  prefixLen : Int := 0
deriving DecidableEq

/-- `ipv6_pool::alloc_address`: every caller is given the prefix. -/
def Ipv6Pool.allocAddress (pool : Ipv6Pool) : BitVec 128 := pool.ipv6Prefix

structure ApnDynamicPools where
  ipv4PoolIds : List Nat := []
  ipv6PoolIds : List Nat := []
deriving DecidableEq

structure PaaDynamic where
  ipv4Pools : ExtTreeMap Nat Ipv4Pool
  ipv6Pools : ExtTreeMap Nat Ipv6Pool
  apns : ExtTreeMap String ApnDynamicPools

namespace PaaDynamic

def empty : PaaDynamic := ⟨∅, ∅, ∅⟩

/-- `add_pool` for an IPv4 range; pool identifiers are not negative. -/
def addIpv4Pool (pools : PaaDynamic) (apnLabel : String) (poolId : Nat)
    (first range : BitVec 32) : PaaDynamic :=
  { pools with
    ipv4Pools :=
      if poolId ∈ pools.ipv4Pools then pools.ipv4Pools
      else pools.ipv4Pools.insert poolId (.ofRange first range)
    apns :=
      if apnLabel ∈ pools.apns then pools.apns
      else pools.apns.insert apnLabel ⟨[poolId], []⟩ }

/-- `add_pool` for an IPv6 prefix. -/
def addIpv6Pool (pools : PaaDynamic) (apnLabel : String) (poolId : Nat)
    (ipv6Prefix : BitVec 128) (prefixLen : Int) : PaaDynamic :=
  { pools with
    ipv6Pools :=
      if poolId ∈ pools.ipv6Pools then pools.ipv6Pools
      else pools.ipv6Pools.insert poolId ⟨ipv6Prefix, prefixLen⟩
    apns :=
      if apnLabel ∈ pools.apns then pools.apns
      else pools.apns.insert apnLabel ⟨[], [poolId]⟩ }

/-- `ipv4_pools[id]`. -/
def pool (pools : PaaDynamic) (id : Nat) : Ipv4Pool := pools.ipv4Pools[id]?.getD .empty

def setPool (pools : PaaDynamic) (id : Nat) (pool : Ipv4Pool) : PaaDynamic :=
  { pools with ipv4Pools := pools.ipv4Pools.insert id pool }

/-- The loop of the IPv4 branch: the first pool that has an address. -/
def allocFirst (pools : PaaDynamic) : List Nat → Option (BitVec 32) × PaaDynamic
  | [] => (none, pools)
  | id :: ids =>
      let (address, pool) := (pools.pool id).allocAddress
      match address with
      | some a => (some a, pools.setPool id pool)
      | none => (pools.setPool id pool).allocFirst ids

/-- The loop of the IPv4v6 branch: it goes on after a success, and a failure
after it sets the address to zero. -/
def allocEach (pools : PaaDynamic) (success : Bool) (address : BitVec 32) :
    List Nat → Bool × BitVec 32 × PaaDynamic
  | [] => (success, address, pools)
  | id :: ids =>
      let (allocated, pool) := (pools.pool id).allocAddress
      match allocated with
      | some a => (pools.setPool id pool).allocEach true a ids
      | none => (pools.setPool id pool).allocEach success 0 ids

/-- What `get_free_paa` leaves; `paa` is `none` when it returns false. -/
structure FreePaa where
  paa : Option Paa
  pools : PaaDynamic
  endDereference : Bool := false

def getFreePaa (pools : PaaDynamic) (apnLabel : String) (paa : Paa) (endValue : Nat) : FreePaa :=
  match pools.apns[apnLabel]? with
  | none => ⟨none, pools, false⟩
  | some apnPool =>
      match paa.pdnType with
      | .ipv4 =>
          match pools.allocFirst apnPool.ipv4PoolIds with
          | (some a, next) => ⟨some { paa with ipv4Address := a }, next, false⟩
          | (none, next) => ⟨none, next, false⟩
      | .ipv4v6 =>
          match pools.allocEach false paa.ipv4Address apnPool.ipv4PoolIds with
          | (false, _, next) => ⟨none, next, false⟩
          | (true, a, next) =>
              match apnPool.ipv6PoolIds with
              | id :: _ =>
                  let pool6 := next.ipv6Pools[id]?.getD {}
                  ⟨some { paa with ipv4Address := a, ipv6Address := pool6.allocAddress },
                    { next with ipv6Pools := next.ipv6Pools.insert id pool6 }, false⟩
              | [] =>
                  -- `ipv4_pools[*it4].free_address(..)` with `it4 == end()`
                  ⟨none, next.setPool endValue ((next.pool endValue).freeAddress a).2, true⟩
      | .ipv6 =>
          match apnPool.ipv6PoolIds with
          | id :: _ =>
              let pool6 := pools.ipv6Pools[id]?.getD {}
              ⟨some { paa with ipv6Address := pool6.allocAddress },
                { pools with ipv6Pools := pools.ipv6Pools.insert id pool6 }, false⟩
          | [] => ⟨none, pools, false⟩
      | .nonIp => ⟨none, pools, false⟩
      | .unknown _ => ⟨none, pools, false⟩

/-- The loop of `release_paa`: until a pool takes the address. -/
def freeFirst (pools : PaaDynamic) (address : BitVec 32) : List Nat → Bool × PaaDynamic
  | [] => (false, pools)
  | id :: ids =>
      let (done, pool) := (pools.pool id).freeAddress address
      if done then (true, pools.setPool id pool)
      else (pools.setPool id pool).freeFirst address ids

/-- `release_paa(apn_label, ipv4_address)`. -/
def releasePaa (pools : PaaDynamic) (apnLabel : String) (address : BitVec 32) :
    Bool × PaaDynamic :=
  match pools.apns[apnLabel]? with
  | none => (false, pools)
  | some apnPool => pools.freeFirst address apnPool.ipv4PoolIds

end PaaDynamic

/-! ## Configuration -/

/-- `PdnCfg`, as the configuration file gives it. -/
structure PdnCfg where
  apn : String
  pdnType : PdnType := .ipv4
  uePoolRangeLow : BitVec 32 := 0
  uePoolRangeHigh : BitVec 32 := 0
  paaPool6Prefix : BitVec 128 := 0
  paaPool6PrefixLen : Int := 0

/-- `Finalize` takes the name for the label. -/
def PdnCfg.apnLabel (p : PdnCfg) : String := p.apn

def PdnCfg.range (p : PdnCfg) : BitVec 32 := p.uePoolRangeHigh - p.uePoolRangeLow

/-- One turn of the loop of `apply_config`. -/
def addPdn (acc : Nat × PaaDynamic) (p : PdnCfg) : Nat × PaaDynamic :=
  let pools := acc.2.addIpv4Pool p.apnLabel acc.1 p.uePoolRangeLow p.range
  let pools := pools.addIpv6Pool p.apnLabel (acc.1 + 1) p.paaPool6Prefix p.paaPool6PrefixLen
  (acc.1 + 2, pools)

def applyConfig (pdns : List PdnCfg) : PaaDynamic := (pdns.foldl addPdn (0, .empty)).2

namespace PaaDynamic

variable {pools : PaaDynamic} {pdns : List PdnCfg} {label : String} {id other : Nat}
  {address : BitVec 32}

@[simp] theorem pool_setPool {pool : Ipv4Pool} :
    (pools.setPool id pool).pool other = if id = other then pool else pools.pool other := by
  simp only [PaaDynamic.pool, setPool, ExtTreeMap.getElem?_insert, compare_eq_iff_eq]
  split <;> rfl

@[simp] theorem apns_setPool {pool : Ipv4Pool} : (pools.setPool id pool).apns = pools.apns := rfl

theorem setPool_pool (present : id ∈ pools.ipv4Pools) :
    pools.setPool id (pools.pool id) = pools := by
  have same : pools.ipv4Pools.insert id (pools.pool id) = pools.ipv4Pools := by
    apply ExtTreeMap.ext_getElem?
    intro other
    rw [ExtTreeMap.getElem?_insert]
    split
    · next here =>
        rw [← compare_eq_iff_eq.mp here, PaaDynamic.pool,
          ExtTreeMap.getElem?_eq_some_getElem present]
        rfl
    · rfl
  rw [setPool, same]

theorem setPool_setPool {first second : Ipv4Pool} :
    (pools.setPool id first).setPool id second = pools.setPool id second := by
  simp only [setPool]
  congr 1
  apply ExtTreeMap.ext_getElem?
  intro other
  simp only [ExtTreeMap.getElem?_insert]
  split <;> rfl

theorem setPool_inj {first second : Ipv4Pool} :
    pools.setPool id first = pools.setPool id second ↔ first = second := by
  constructor
  · intro same
    have here := congrArg (fun state => state.pool id) same
    simpa using here
  · rintro rfl
    rfl

/-- The shape that `apply_config` gives the tables: an access point name has
the one IPv4 pool of the first entry with that name, and no IPv6 pool. -/
def Provisioned (pdns : List PdnCfg) (pools : PaaDynamic) : Prop :=
  ∀ label apnPool, pools.apns[label]? = some apnPool →
    ∃ i p, pdns[i]? = some p ∧ p.apnLabel = label ∧ apnPool = ⟨[2 * i], []⟩ ∧
      2 * i ∈ pools.ipv4Pools

theorem Provisioned.setPool (provisioned : Provisioned pdns pools) {pool : Ipv4Pool} :
    Provisioned pdns (pools.setPool id pool) := by
  intro label apnPool found
  obtain ⟨i, p, entry, named, shape, present⟩ := provisioned label apnPool found
  refine ⟨i, p, entry, named, shape, ?_⟩
  rw [PaaDynamic.setPool, ExtTreeMap.mem_insert]
  exact .inr present

/-- One entry of the configuration: its pool gets the identifier `poolId`; the
name gets the pool unless it has one. -/
theorem addPdn_apns {poolId : Nat} (p : PdnCfg) :
    (addPdn (poolId, pools) p).2.apns =
      if p.apnLabel ∈ pools.apns then pools.apns
      else pools.apns.insert p.apnLabel ⟨[poolId], []⟩ := by
  simp only [addPdn, addIpv4Pool, addIpv6Pool]
  by_cases known : p.apnLabel ∈ pools.apns
  · simp [known]
  · simp [known]

theorem addPdn_ipv4Pools {poolId : Nat} (p : PdnCfg) :
    (addPdn (poolId, pools) p).2.ipv4Pools =
      if poolId ∈ pools.ipv4Pools then pools.ipv4Pools
      else pools.ipv4Pools.insert poolId (.ofRange p.uePoolRangeLow p.range) := rfl

/-- `apply_config` numbers the IPv4 pools by the even numbers, in the order of
the entries. -/
theorem applyConfig_spec (pdns : List PdnCfg) :
    (pdns.foldl addPdn (0, .empty)).1 = 2 * pdns.length ∧
      (∀ id, id ∈ (applyConfig pdns).ipv4Pools → id < 2 * pdns.length) ∧
      ∀ label apnPool, (applyConfig pdns).apns[label]? = some apnPool →
        ∃ i p, pdns[i]? = some p ∧ p.apnLabel = label ∧ apnPool = ⟨[2 * i], []⟩ ∧
          (applyConfig pdns).ipv4Pools[2 * i]? = some (.ofRange p.uePoolRangeLow p.range) := by
  induction pdns using List.reverseRecOn with
  | nil => simp [applyConfig, empty]
  | append_singleton pdns p inductionHypothesis =>
      obtain ⟨counter, bound, linked⟩ := inductionHypothesis
      have last : applyConfig (pdns ++ [p]) = (addPdn (2 * pdns.length, applyConfig pdns) p).2 := by
        rw [applyConfig, List.foldl_append, List.foldl_cons, List.foldl_nil, ← counter]
        rfl
      have fresh : 2 * pdns.length ∉ (applyConfig pdns).ipv4Pools := by
        intro member
        have := bound _ member
        omega
      have shownPools : (applyConfig (pdns ++ [p])).ipv4Pools =
          (applyConfig pdns).ipv4Pools.insert (2 * pdns.length)
            (.ofRange p.uePoolRangeLow p.range) := by
        rw [last, addPdn_ipv4Pools, if_neg fresh]
      refine ⟨?_, ?_, ?_⟩
      · rw [List.foldl_append, List.foldl_cons, List.foldl_nil, List.length_append, addPdn]
        simp only [counter, List.length_singleton]
        omega
      · intro id member
        rw [shownPools, ExtTreeMap.mem_insert, compare_eq_iff_eq] at member
        rw [List.length_append, List.length_singleton]
        rcases member with rfl | member
        · omega
        · have := bound id member
          omega
      · intro label apnPool found
        -- An earlier entry keeps its pool: the new one has another identifier.
        have earlier : ∀ apnPool, (applyConfig pdns).apns[label]? = some apnPool →
            ∃ i q, (pdns ++ [p])[i]? = some q ∧ q.apnLabel = label ∧ apnPool = ⟨[2 * i], []⟩ ∧
              (applyConfig (pdns ++ [p])).ipv4Pools[2 * i]? =
                some (.ofRange q.uePoolRangeLow q.range) := by
          intro apnPool before
          obtain ⟨i, q, entry, named, shape, pool⟩ := linked label apnPool before
          have position : i < pdns.length := (List.getElem?_eq_some_iff.mp entry).1
          refine ⟨i, q, ?_, named, shape, ?_⟩
          · rw [List.getElem?_append_left position]
            exact entry
          · rw [shownPools, ExtTreeMap.getElem?_insert, if_neg ?_]
            · exact pool
            · rw [compare_eq_iff_eq]
              omega
        rw [last, addPdn_apns] at found
        split at found
        · exact earlier apnPool found
        · rw [ExtTreeMap.getElem?_insert] at found
          split at found
          · next same =>
              cases found
              refine ⟨pdns.length, p, by simp, Std.LawfulEqOrd.eq_of_compare same, rfl, ?_⟩
              rw [shownPools, ExtTreeMap.getElem?_insert_self]
          · exact earlier apnPool found

theorem provisioned_applyConfig (pdns : List PdnCfg) : Provisioned pdns (applyConfig pdns) := by
  intro label apnPool found
  obtain ⟨i, p, entry, named, shape, pool⟩ := (applyConfig_spec pdns).2.2 label apnPool found
  refine ⟨i, p, entry, named, shape, ?_⟩
  rw [ExtTreeMap.mem_iff_isSome_getElem?, pool]
  rfl

/-! ## What the operations do on such tables -/

/-- `get_free_paa` leaves everything as it was, when the pool has no address or
the type needs none of it, takes an address of the one pool, or takes one and
releases it to the pool read past the end. -/
theorem getFreePaa_cases (provisioned : Provisioned pdns pools) (label : String) (paa : Paa)
    (endValue : Nat) :
    (pools.getFreePaa label paa endValue = ⟨none, pools, false⟩ ∧
        ∀ id a next, pools.apns[label]? = some ⟨[id], []⟩ →
          (pools.pool id).allocAddress = (some a, next) →
          paa.pdnType ≠ .ipv4 ∧ paa.pdnType ≠ .ipv4v6) ∨
      ∃ id a next, pools.apns[label]? = some ⟨[id], []⟩ ∧
        (pools.pool id).allocAddress = (some a, next) ∧
        ((paa.pdnType = .ipv4 ∧ pools.getFreePaa label paa endValue =
            ⟨some { paa with ipv4Address := a }, pools.setPool id next, false⟩) ∨
          (paa.pdnType = .ipv4v6 ∧ pools.getFreePaa label paa endValue =
            ⟨none, (pools.setPool id next).setPool endValue
              (((pools.setPool id next).pool endValue).freeAddress a).2, true⟩)) := by
  rcases found : pools.apns[label]? with _ | apnPool
  · left
    refine ⟨by simp only [getFreePaa, found], ?_⟩
    intro id a next linked
    cases linked
  · obtain ⟨i, p, -, -, rfl, present⟩ := provisioned label apnPool found
    generalize outcome : (pools.pool (2 * i)).allocAddress = result
    rcases result with ⟨_ | a, next⟩
    · left
      have kept : pools.setPool (2 * i) next = pools := by
        rw [Ipv4Pool.eq_of_allocAddress_eq_none outcome, setPool_pool present]
      constructor
      · cases kind : paa.pdnType <;>
          simp only [getFreePaa, found, kind, allocFirst, allocEach, outcome, kept]
      · intro id a other linked allocated
        cases linked
        rw [outcome] at allocated
        cases allocated
    · cases kind : paa.pdnType with
      | ipv4 =>
          refine .inr ⟨2 * i, a, next, rfl, outcome, .inl ⟨rfl, ?_⟩⟩
          simp only [getFreePaa, found, kind, allocFirst, outcome]
      | ipv4v6 =>
          refine .inr ⟨2 * i, a, next, rfl, outcome, .inr ⟨rfl, ?_⟩⟩
          simp only [getFreePaa, found, kind, allocEach, outcome]
      | ipv6 => exact .inl ⟨by simp only [getFreePaa, found, kind], by simp⟩
      | nonIp => exact .inl ⟨by simp only [getFreePaa, found, kind], by simp⟩
      | unknown value => exact .inl ⟨by simp only [getFreePaa, found, kind], by simp⟩

/-- `release_paa` hands the address to the one pool. -/
theorem releasePaa_cases (provisioned : Provisioned pdns pools) (label : String)
    (address : BitVec 32) :
    (pools.apns[label]? = none ∧ pools.releasePaa label address = (false, pools)) ∨
      ∃ id, pools.apns[label]? = some ⟨[id], []⟩ ∧ id ∈ pools.ipv4Pools ∧
        pools.releasePaa label address = (((pools.pool id).freeAddress address).1,
          pools.setPool id ((pools.pool id).freeAddress address).2) := by
  rcases found : pools.apns[label]? with _ | apnPool
  · left
    simp only [releasePaa, found, true_and]
  · obtain ⟨i, p, -, -, rfl, present⟩ := provisioned label apnPool found
    refine .inr ⟨2 * i, rfl, present, ?_⟩
    simp only [releasePaa, found, freeFirst]
    split
    · next done => rw [done]
    · next refused => rw [Bool.eq_false_iff.mpr refused]

theorem Provisioned.getFreePaa (provisioned : Provisioned pdns pools) (label : String) (paa : Paa)
    (endValue : Nat) : Provisioned pdns (pools.getFreePaa label paa endValue).pools := by
  rcases getFreePaa_cases provisioned label paa endValue with
    ⟨unchanged, -⟩ | ⟨id, a, next, -, -, ⟨-, taken⟩ | ⟨-, stray⟩⟩
  · rw [unchanged]
    exact provisioned
  · rw [taken]
    exact provisioned.setPool
  · rw [stray]
    exact provisioned.setPool.setPool

theorem Provisioned.releasePaa (provisioned : Provisioned pdns pools) (label : String)
    (address : BitVec 32) : Provisioned pdns (pools.releasePaa label address).2 := by
  rcases releasePaa_cases provisioned label address with ⟨-, unchanged⟩ | ⟨id, -, -, released⟩
  · rw [unchanged]
    exact provisioned
  · rw [released]
    exact provisioned.setPool

/-! ## Operations that leave the pools as they were -/

theorem Provisioned.present (provisioned : Provisioned pdns pools)
    (linked : pools.apns[label]? = some ⟨[id], []⟩) : id ∈ pools.ipv4Pools := by
  obtain ⟨i, p, -, -, shape, present⟩ := provisioned label _ linked
  cases shape
  exact present

theorem setPool_eq_self_iff {pool : Ipv4Pool} (present : id ∈ pools.ipv4Pools) :
    pools.setPool id pool = pools ↔ pool = pools.pool id := by
  rw [← @setPool_inj pools id, setPool_pool present]

theorem releasePaa_eq_self_iff (provisioned : Provisioned pdns pools) :
    (pools.releasePaa label address).2 = pools ↔
      ∀ id, pools.apns[label]? = some ⟨[id], []⟩ → (pools.pool id).Spares address := by
  rcases releasePaa_cases provisioned label address with
    ⟨missing, unchanged⟩ | ⟨id, linked, present, released⟩
  · rw [unchanged, missing]
    simp
  · rw [released, setPool_eq_self_iff present, Ipv4Pool.freeAddress_eq_self_iff, linked]
    simp

theorem releasePaa_setPool {next : Ipv4Pool} (linked : pools.apns[label]? = some ⟨[id], []⟩) :
    ((pools.setPool id next).releasePaa label address).2 =
      pools.setPool id (next.freeAddress address).2 := by
  simp only [releasePaa, apns_setPool, linked, freeFirst, pool_setPool, if_true, setPool_setPool]
  split <;> rfl

/-- The address that was just taken goes back to where it was. -/
theorem releasePaa_allocated_iff (provisioned : Provisioned pdns pools) {next : Ipv4Pool}
    (linked : pools.apns[label]? = some ⟨[id], []⟩)
    (allocated : (pools.pool id).allocAddress = (some address, next)) :
    ((pools.setPool id next).releasePaa label address).2 = pools ↔
      (pools.pool id).TakesBack := by
  rw [releasePaa_setPool linked, setPool_eq_self_iff (provisioned.present linked),
    Ipv4Pool.freeAddress_allocated_iff allocated]

theorem setPool_allocated_ne (provisioned : Provisioned pdns pools) {next : Ipv4Pool}
    (linked : pools.apns[label]? = some ⟨[id], []⟩)
    (allocated : (pools.pool id).allocAddress = (some address, next)) :
    pools.setPool id next ≠ pools := by
  intro same
  rw [setPool_eq_self_iff (provisioned.present linked)] at same
  exact Ipv4Pool.allocAddress_ne_self allocated same

/-- A release past the end restores the pool when it hits that very pool. -/
theorem stray_eq_self_iff (provisioned : Provisioned pdns pools) {next : Ipv4Pool}
    (linked : pools.apns[label]? = some ⟨[id], []⟩)
    (allocated : (pools.pool id).allocAddress = (some address, next)) (endValue : Nat) :
    (pools.setPool id next).setPool endValue
        (((pools.setPool id next).pool endValue).freeAddress address).2 = pools ↔
      endValue = id ∧ (pools.pool id).TakesBack := by
  by_cases here : endValue = id
  · rw [here, setPool_setPool, pool_setPool, if_pos rfl,
      setPool_eq_self_iff (provisioned.present linked), Ipv4Pool.freeAddress_allocated_iff allocated]
    simp
  · constructor
    · intro same
      have pool := congrArg (fun state => state.pool id) same
      simp only [pool_setPool, if_neg here, if_true] at pool
      exact absurd pool (Ipv4Pool.allocAddress_ne_self allocated)
    · exact fun both => absurd both.1 here

end PaaDynamic

end OpenairSpgwc.Pgw
