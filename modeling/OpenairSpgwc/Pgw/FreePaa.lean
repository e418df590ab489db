import OpenairSpgwc.Pgw.PaaDynamic

/-!
Contract: what `get_free_paa` takes from the pools of an access point name, whatever they
are: any number of IPv4 and IPv6 pools, in any state, in any order.

The IPv4 branch stops at the first pool that has an address. The IPv4v6 branch takes an
address of every pool that has one, and gives one back, to a pool read past the end of
the list, when there is no IPv6 pool.

Owns:
- which addresses are used, and the effect of taking one;
- the results of both loops;
- when `get_free_paa` takes what it returns and nothing more.
-/

namespace OpenairSpgwc.Pgw

open Std (ExtTreeMap)

namespace Ipv4Pool

variable {pool next : Ipv4Pool} {a : BitVec 32}

/-- A bit that the scan of `alloc_free_bit` reaches is clear. -/
def HasFree (pool : Ipv4Pool) : Prop :=
  ∃ offset : Nat, offset < 32 * pool.alloc.size ∧ pool.alloc.bit offset = false

theorem hasFree_of_allocAddress (allocated : pool.allocAddress = (some a, next)) :
    pool.HasFree := by
  obtain ⟨bitPos, key, position, -, -, upper, inside, located, -, clear, -⟩ :=
    allocAddress_spec allocated
  exact ⟨bitPos, by omega, clear⟩

theorem not_hasFree_of_allocAddress (failed : pool.allocAddress = (none, next)) :
    ¬pool.HasFree := by
  rintro ⟨offset, inside, clear⟩
  simp only [allocAddress, allocFreeBit] at failed
  split at failed
  · next exhausted =>
      split at exhausted
      · next scanned =>
          have set := Foundation.Bitmap.scan_eq_none scanned offset (by omega) (by omega)
          rw [set] at clear
          cases clear
      · cases exhausted
  · cases failed

end Ipv4Pool

namespace PaaDynamic

variable {pools next : PaaDynamic} {label : String} {paa : Paa} {ids : List Nat} {id other : Nat}
  {a address : BitVec 32} {success : Bool}

/-! ### Used addresses -/

/-- The address at an offset of a pool is allocated. -/
def Used (pools : PaaDynamic) (id : Nat) (offset : Int) : Prop :=
  (pools.pool id).alloc.bit offset = true

/-- `ipv6_pools[id]`. -/
def pool6 (pools : PaaDynamic) (id : Nat) : Ipv6Pool := pools.ipv6Pools[id]?.getD {}

/-- Every pool is as before. -/
structure Same (pools next : PaaDynamic) : Prop where
  pool : ∀ id, next.pool id = pools.pool id
  pool6 : ∀ id, next.pool6 id = pools.pool6 id

/-- The address `a` of one of the pools becomes allocated, and no other. -/
structure TakenAt (pools next : PaaDynamic) (a : BitVec 32) (id : Nat) (offset : Nat) : Prop where
  free : ¬pools.Used id offset
  address : a = (pools.pool id).start + BitVec.ofNat 32 offset
  used : ∀ other position, next.Used other position ↔
    pools.Used other position ∨ (other = id ∧ position = offset)
  start : ∀ other, (next.pool other).start = (pools.pool other).start
  num : ∀ other, (next.pool other).num = (pools.pool other).num
  pool6 : ∀ other, next.pool6 other = pools.pool6 other

def Took (ids : List Nat) (pools next : PaaDynamic) (a : BitVec 32) : Prop :=
  ∃ id ∈ ids, ∃ offset : Nat, TakenAt pools next a id offset

theorem Same.refl (pools : PaaDynamic) : Same pools pools := ⟨fun _ => rfl, fun _ => rfl⟩

theorem Same.trans {last : PaaDynamic} (first : Same pools next) (second : Same next last) :
    Same pools last :=
  ⟨fun id => (second.pool id).trans (first.pool id), fun id =>
    (second.pool6 id).trans (first.pool6 id)⟩

theorem Same.used (same : Same pools next) {offset : Int} :
    next.Used id offset ↔ pools.Used id offset := by
  rw [Used, Used, same.pool]

@[simp] theorem pool6_setPool {pool : Ipv4Pool} :
    (pools.setPool id pool).pool6 other = pools.pool6 other := rfl

/-- `operator[]` may have made a pool; it is as the missing one is read. -/
theorem same_setPool_pool (pools : PaaDynamic) (id : Nat) :
    Same pools (pools.setPool id (pools.pool id)) where
  pool other := by
    rw [pool_setPool]
    split
    · next here => rw [here]
    · rfl
  pool6 other := rfl

theorem TakenAt.congr {first last : PaaDynamic} {offset : Nat}
    (taken : TakenAt pools next a id offset) (before : Same first pools) (after : Same next last) :
    TakenAt first last a id offset where
  free := by
    rw [← before.used]
    exact taken.free
  address := by
    rw [← before.pool]
    exact taken.address
  used other position := by
    rw [after.used, taken.used, before.used]
  start other := by
    rw [after.pool, taken.start, before.pool]
  num other := by
    rw [after.pool, taken.num, before.pool]
  pool6 other := by
    rw [after.pool6, taken.pool6, before.pool6]

/-- One pool gives an address. -/
theorem takenAt_of_allocAddress {pool : Ipv4Pool}
    (allocated : (pools.pool id).allocAddress = (some a, pool)) :
    ∃ offset : Nat, TakenAt pools (pools.setPool id pool) a id offset := by
  obtain ⟨bitPos, key, position, -, located, -, inside, same, rfl, clear, -⟩ :=
    Ipv4Pool.allocAddress_spec allocated
  refine ⟨bitPos, ?_, located, ?_, ?_, ?_, fun _ => rfl⟩
  · rw [Used, clear]
    exact Bool.false_ne_true
  · intro other offset
    by_cases here : id = other
    · subst here
      rw [Used, pool_setPool, if_pos rfl]
      show ((pools.pool id).alloc.setBit key position).bit offset = true ↔ _
      rw [Foundation.Bitmap.bit_setBit _ _ inside, Bool.or_eq_true, decide_eq_true_eq, same]
      push_cast
      simp [Used]
    · rw [Used, pool_setPool, if_neg here]
      simp [Used, Ne.symm here]
  · intro other
    rw [pool_setPool]
    split
    · next here => rw [← here]
    · rfl
  · intro other
    rw [pool_setPool]
    split
    · next here => rw [← here]
    · rfl

/-- A pool of the list has a free address. -/
def SomeFree (pools : PaaDynamic) (ids : List Nat) : Prop :=
  ∃ id ∈ ids, (pools.pool id).HasFree

theorem Same.someFree (same : Same pools next) : next.SomeFree ids ↔ pools.SomeFree ids := by
  unfold SomeFree
  simp only [same.pool]

/-! ### The loops -/

/-- One turn: the pool has no address and nothing changes, or it gives one. -/
theorem turn_cases (pools : PaaDynamic) (id : Nat) :
    (¬(pools.pool id).HasFree ∧ (pools.pool id).allocAddress = (none, pools.pool id)) ∨
      ∃ a pool, (pools.pool id).HasFree ∧ (pools.pool id).allocAddress = (some a, pool) := by
  rcases outcome : (pools.pool id).allocAddress with ⟨_ | a, pool⟩
  · have kept := Ipv4Pool.eq_of_allocAddress_eq_none outcome
    rw [kept]
    exact .inl ⟨Ipv4Pool.not_hasFree_of_allocAddress outcome, rfl⟩
  · exact .inr ⟨a, pool, Ipv4Pool.hasFree_of_allocAddress outcome, rfl⟩

/-- The loop of the IPv4 branch. -/
theorem allocFirst_spec (pools : PaaDynamic) (ids : List Nat) :
    (¬pools.SomeFree ids ∧ ∃ next, pools.allocFirst ids = (none, next) ∧ Same pools next) ∨
      (pools.SomeFree ids ∧ ∃ a next, pools.allocFirst ids = (some a, next) ∧
        Took ids pools next a) := by
  induction ids generalizing pools with
  | nil =>
      refine .inl ⟨?_, pools, rfl, .refl pools⟩
      rintro ⟨id, member, -⟩
      cases member
  | cons id ids inductionHypothesis =>
      cases turn_cases pools id with
      | inl exhausted =>
          have step : pools.allocFirst (id :: ids) =
              (pools.setPool id (pools.pool id)).allocFirst ids := by
            rw [allocFirst, exhausted.2]
          have same := same_setPool_pool pools id
          rw [step]
          cases inductionHypothesis (pools.setPool id (pools.pool id)) with
          | inl none =>
              obtain ⟨nobody, next, returned, kept⟩ := none
              refine .inl ⟨?_, next, returned, same.trans kept⟩
              rintro ⟨other, member, free⟩
              cases List.mem_cons.mp member with
              | inl here => exact exhausted.1 (here ▸ free)
              | inr later => exact nobody (same.someFree.mpr ⟨other, later, free⟩)
          | inr found =>
              obtain ⟨somebody, a, next, returned, taker, member, offset, taken⟩ := found
              obtain ⟨other, later, free⟩ := same.someFree.mp somebody
              exact .inr ⟨⟨other, List.mem_cons_of_mem _ later, free⟩, a, next, returned, taker,
                List.mem_cons_of_mem _ member, offset, taken.congr same (.refl next)⟩
      | inr gives =>
          obtain ⟨a, pool, free, allocated⟩ := gives
          obtain ⟨offset, taken⟩ := takenAt_of_allocAddress allocated
          refine .inr ⟨⟨id, List.mem_cons_self, free⟩, a, pools.setPool id pool, ?_, id,
            List.mem_cons_self, offset, taken⟩
          rw [allocFirst, allocated]

/-- The loop of the IPv4v6 branch when no pool has an address. -/
theorem allocEach_of_not_someFree (success : Bool) (address : BitVec 32)
    (exhausted : ¬pools.SomeFree ids) :
    ∃ next, pools.allocEach success address ids =
      (success, if ids = [] then address else 0, next) ∧ Same pools next := by
  induction ids generalizing pools address with
  | nil => exact ⟨pools, rfl, .refl pools⟩
  | cons id ids inductionHypothesis =>
      have here : ¬(pools.pool id).HasFree := fun free =>
        exhausted ⟨id, List.mem_cons_self, free⟩
      have same := same_setPool_pool pools id
      have later : ¬(pools.setPool id (pools.pool id)).SomeFree ids := by
        rw [same.someFree]
        rintro ⟨other, member, free⟩
        exact exhausted ⟨other, List.mem_cons_of_mem _ member, free⟩
      obtain ⟨next, returned, kept⟩ := inductionHypothesis 0 later
      refine ⟨next, ?_, same.trans kept⟩
      cases turn_cases pools id with
      | inl none =>
          rw [allocEach, none.2, if_neg (List.cons_ne_nil id ids)]
          dsimp only
          rw [returned]
          split <;> rfl
      | inr gives =>
          obtain ⟨a, pool, free, -⟩ := gives
          exact absurd free here

/-- It gives no address back. -/
theorem used_allocEach (success : Bool) (address : BitVec 32) (ids : List Nat) {offset : Int}
    (used : pools.Used other offset) :
    (pools.allocEach success address ids).2.2.Used other offset := by
  induction ids generalizing pools success address with
  | nil => exact used
  | cons id ids inductionHypothesis =>
      cases turn_cases pools id with
      | inl none =>
          rw [allocEach, none.2]
          exact inductionHypothesis _ _ ((same_setPool_pool pools id).used.mpr used)
      | inr gives =>
          obtain ⟨a, pool, -, allocated⟩ := gives
          obtain ⟨taken, takenAt⟩ := takenAt_of_allocAddress allocated
          rw [allocEach, allocated]
          exact inductionHypothesis _ _ ((takenAt.used other offset).mpr (.inl used))

theorem allocEach_success (pools : PaaDynamic) (address : BitVec 32) (ids : List Nat) :
    (pools.allocEach true address ids).1 = true := by
  induction ids generalizing pools address with
  | nil => rfl
  | cons id ids inductionHypothesis =>
      rw [allocEach]
      dsimp only
      split <;> exact inductionHypothesis ..

/-- The first pool of the list that has an address. -/
def FirstFree (pools : PaaDynamic) (ids earlier : List Nat) (id : Nat) (later : List Nat) : Prop :=
  ids = earlier ++ id :: later ∧ ¬pools.SomeFree earlier ∧ (pools.pool id).HasFree

theorem exists_firstFree (free : pools.SomeFree ids) :
    ∃ earlier id later, pools.FirstFree ids earlier id later := by
  induction ids with
  | nil =>
      obtain ⟨id, member, -⟩ := free
      cases member
  | cons head ids inductionHypothesis =>
      by_cases here : (pools.pool head).HasFree
      · refine ⟨[], head, ids, rfl, ?_, here⟩
        rintro ⟨id, member, -⟩
        cases member
      · have later : pools.SomeFree ids := by
          obtain ⟨id, member, has⟩ := free
          cases List.mem_cons.mp member with
          | inl same => exact absurd (same ▸ has) here
          | inr inside => exact ⟨id, inside, has⟩
        obtain ⟨earlier, id, later, shape, before, has⟩ := inductionHypothesis later
        refine ⟨head :: earlier, id, later, by rw [shape]; rfl, ?_, has⟩
        rintro ⟨other, member, otherHas⟩
        cases List.mem_cons.mp member with
        | inl same => exact here (same ▸ otherHas)
        | inr inside => exact before ⟨other, inside, otherHas⟩

theorem allocEach_append {earlier later : List Nat} :
    pools.allocEach success address (earlier ++ later) =
      (pools.allocEach success address earlier).2.2.allocEach
        (pools.allocEach success address earlier).1
        (pools.allocEach success address earlier).2.1 later := by
  induction earlier generalizing pools success address with
  | nil => rfl
  | cons id ids inductionHypothesis =>
      rw [List.cons_append, allocEach, allocEach]
      dsimp only
      split <;> exact inductionHypothesis

/-- The loop of the IPv4v6 branch up to the first pool that has an address. -/
theorem allocEach_firstFree (success : Bool) (address : BitVec 32) {earlier later : List Nat}
    (first : pools.FirstFree ids earlier id later) :
    ∃ a pool state offset, (pools.pool id).allocAddress = (some a, pool) ∧
      Same (pools.setPool id pool) state ∧ TakenAt pools state a id offset ∧
      pools.allocEach success address ids = state.allocEach true a later := by
  obtain ⟨rfl, before, has⟩ := first
  obtain ⟨reached, skipped, same⟩ :=
    allocEach_of_not_someFree success address before
  cases turn_cases pools id with
  | inl none => exact absurd has none.1
  | inr gives =>
      obtain ⟨a, pool, -, allocated⟩ := gives
      obtain ⟨offset, taken⟩ := takenAt_of_allocAddress allocated
      have kept : Same (pools.setPool id pool) (reached.setPool id pool) := by
        constructor
        · intro other
          rw [pool_setPool, pool_setPool, same.pool]
        · exact same.pool6
      refine ⟨a, pool, reached.setPool id pool, offset, allocated, kept,
        taken.congr (.refl pools) kept, ?_⟩
      rw [allocEach_append, skipped]
      dsimp only
      rw [allocEach, same.pool, allocated]

/-- The loop goes on after the first pool: a second address leaves its pool. -/
theorem not_taken_of_again {earlier later : List Nat}
    (first : pools.FirstFree ids earlier id later)
    (again : (pools.setPool id (pools.pool id).allocAddress.2).SomeFree later) {b : BitVec 32} :
    ¬Took ids pools (pools.allocEach success address ids).2.2 b := by
  obtain ⟨a, pool, state, offset, allocated, kept, taken, reached⟩ :=
    allocEach_firstFree success address first
  rw [allocated] at again
  obtain ⟨middle, other, last, second⟩ := exists_firstFree (kept.someFree.mpr again)
  obtain ⟨_, _, final, position, -, -, takenAgain, finished⟩ :=
    allocEach_firstFree true a second
  rintro ⟨owner, -, only, alone⟩
  rw [reached, finished] at alone
  have here : state.Used id offset := (taken.used id offset).mpr (.inr ⟨rfl, rfl⟩)
  have firstOne := (alone.used id offset).mp
    (used_allocEach _ _ _ ((takenAgain.used id offset).mpr (.inl here)))
  have secondOne := (alone.used other position).mp
    (used_allocEach _ _ _ ((takenAgain.used other position).mpr (.inr ⟨rfl, rfl⟩)))
  -- Neither address was used at first, so both are the one that `alone` names.
  have notFirst : ¬pools.Used id offset := taken.free
  have notSecond : ¬pools.Used other position := fun used =>
    takenAgain.free ((taken.used other position).mpr (.inl used))
  obtain ⟨rfl, samePosition⟩ := firstOne.resolve_left notFirst
  obtain ⟨rfl, otherPosition⟩ := secondOne.resolve_left notSecond
  apply takenAgain.free
  rw [otherPosition, ← samePosition]
  exact here

/-- What one pool gave is what was taken. -/
theorem TakenAt.address_unique {offset : Nat} {b : BitVec 32}
    (taken : TakenAt pools next a id offset)
    (other : Took ids pools next b) : b = a := by
  obtain ⟨owner, -, position, alone⟩ := other
  have here := (alone.used id offset).mp ((taken.used id offset).mpr (.inr ⟨rfl, rfl⟩))
  obtain ⟨rfl, same⟩ := here.resolve_left taken.free
  have position : position = offset := by
    exact_mod_cast same.symm
  rw [alone.address, taken.address, position]

/-! ### `get_free_paa` -/

/-- The type asks for an IPv4 address. -/
def asksIpv4 (paa : Paa) : Bool := paa.pdnType = .ipv4 ∨ paa.pdnType = .ipv4v6

/-- Each address family of the requested type has a pool of the name with a free address;
`alloc_address` of an IPv6 pool always has one. A type that is no IP type names no address
to be had. -/
def Available (pools : PaaDynamic) (label : String) (paa : Paa) : Prop :=
  ∃ apnPool, pools.apns[label]? = some apnPool ∧
    match paa.pdnType with
    | .ipv4 => pools.SomeFree apnPool.ipv4PoolIds
    | .ipv6 => apnPool.ipv6PoolIds ≠ []
    | .ipv4v6 => pools.SomeFree apnPool.ipv4PoolIds ∧ apnPool.ipv6PoolIds ≠ []
    | .nonIp => False
    | .unknown _ => False

/-- `get_free_paa` takes what it returns and nothing more. -/
structure Exact (pools : PaaDynamic) (label : String) (paa : Paa) (out : FreePaa) : Prop where
  succeeds : out.paa.isSome = true ↔ pools.Available label paa
  taken : ∀ given, out.paa = some given →
    if asksIpv4 paa then
      ∃ apnPool, pools.apns[label]? = some apnPool ∧
        Took apnPool.ipv4PoolIds pools out.pools given.ipv4Address
    else Same pools out.pools
  kept : out.paa = none → Same pools out.pools

/-- The IPv4v6 branch comes to its IPv6 pool with the one address that it took: the pools
after the first that had one have none, and they do not overwrite it with zero. -/
def ReachesIpv6 (pools : PaaDynamic) (ids : List Nat) : Prop :=
  ∃ earlier id later, pools.FirstFree ids earlier id later ∧
    ¬(pools.setPool id (pools.pool id).allocAddress.2).SomeFree later ∧
    (later = [] ∨ (pools.pool id).allocAddress.1 = some 0)

/-- When the request is served as it should be. -/
def ServedExactly (pools : PaaDynamic) (label : String) (paa : Paa) : Prop :=
  ∀ apnPool, paa.pdnType = .ipv4v6 → pools.apns[label]? = some apnPool →
    pools.SomeFree apnPool.ipv4PoolIds →
      apnPool.ipv6PoolIds ≠ [] ∧ pools.ReachesIpv6 apnPool.ipv4PoolIds

theorem same_insert_pool6 :
    Same pools { pools with ipv6Pools := pools.ipv6Pools.insert id (pools.pool6 id) } where
  pool _ := rfl
  pool6 other := by
    simp only [PaaDynamic.pool6, ExtTreeMap.getElem?_insert, compare_eq_iff_eq]
    split
    · next here => rw [here]; rfl
    · rfl

theorem exact_of_unavailable {out : FreePaa} (missing : ¬pools.Available label paa)
    (failed : out.paa = none) (same : Same pools out.pools) : Exact pools label paa out where
  succeeds := by simp [failed, missing]
  taken given success := by
    rw [failed] at success
    cases success
  kept _ := same

theorem exact_allocFirst {apnPool : ApnDynamicPools} (known : pools.apns[label]? = some apnPool)
    (kind : paa.pdnType = .ipv4) (endValue : Nat) :
    Exact pools label paa (pools.getFreePaa label paa endValue) := by
  have available : pools.Available label paa ↔ pools.SomeFree apnPool.ipv4PoolIds := by
    simp [Available, known, kind]
  cases allocFirst_spec pools apnPool.ipv4PoolIds with
  | inl exhausted =>
      obtain ⟨nobody, next, returned, same⟩ := exhausted
      have out : pools.getFreePaa label paa endValue = ⟨none, next, false⟩ := by
        simp only [getFreePaa, known, kind, returned]
      rw [out]
      exact exact_of_unavailable (available.not.mpr nobody) rfl same
  | inr found =>
      obtain ⟨somebody, a, next, returned, taken⟩ := found
      have out : pools.getFreePaa label paa endValue =
          ⟨some { paa with ipv4Address := a }, next, false⟩ := by
        simp only [getFreePaa, known, kind, returned]
      rw [out]
      constructor
      · exact iff_of_true rfl (available.mpr somebody)
      · rintro given ⟨⟩
        rw [if_pos (by simp [asksIpv4, kind])]
        exact ⟨apnPool, known, taken⟩
      · intro failed
        cases failed

theorem exact_ipv6 {apnPool : ApnDynamicPools} (known : pools.apns[label]? = some apnPool)
    (kind : paa.pdnType = .ipv6) (endValue : Nat) :
    Exact pools label paa (pools.getFreePaa label paa endValue) := by
  have available : pools.Available label paa ↔ apnPool.ipv6PoolIds ≠ [] := by
    simp [Available, known, kind]
  cases shape : apnPool.ipv6PoolIds with
  | nil =>
      have out : pools.getFreePaa label paa endValue = ⟨none, pools, false⟩ := by
        simp only [getFreePaa, known, kind, shape]
      rw [out]
      exact exact_of_unavailable (by simp [available, shape]) rfl (.refl pools)
  | cons id ids =>
      have out : pools.getFreePaa label paa endValue =
          ⟨some { paa with ipv6Address := (pools.pool6 id).allocAddress },
            { pools with ipv6Pools := pools.ipv6Pools.insert id (pools.pool6 id) }, false⟩ := by
        simp only [getFreePaa, known, kind, shape]
        rfl
      rw [out]
      constructor
      · exact iff_of_true rfl (by simp [available, shape])
      · rintro given ⟨⟩
        rw [if_neg (by simp [asksIpv4, kind])]
        exact same_insert_pool6
      · intro failed
        cases failed

/-- What the loop of the IPv4v6 branch ends with is what it took. -/
theorem taken_allocEach_iff (success : Bool) (address : BitVec 32) (free : pools.SomeFree ids) :
    Took ids pools (pools.allocEach success address ids).2.2
        (pools.allocEach success address ids).2.1 ↔ pools.ReachesIpv6 ids := by
  have atFirst : ∀ earlier id later, pools.FirstFree ids earlier id later →
      (Took ids pools (pools.allocEach success address ids).2.2
          (pools.allocEach success address ids).2.1 ↔
        ¬(pools.setPool id (pools.pool id).allocAddress.2).SomeFree later ∧
          (later = [] ∨ (pools.pool id).allocAddress.1 = some 0)) := by
    intro earlier id later first
    by_cases again : (pools.setPool id (pools.pool id).allocAddress.2).SomeFree later
    · exact iff_of_false (not_taken_of_again first again) fun both => both.1 again
    obtain ⟨a, pool, state, offset, allocated, kept, taken, reached⟩ :=
      allocEach_firstFree success address first
    have nobody : ¬state.SomeFree later := by
      rw [kept.someFree]
      rw [allocated] at again
      exact again
    obtain ⟨last, finished, same⟩ := allocEach_of_not_someFree true a nobody
    have member : id ∈ ids := by
      rw [first.1]
      exact List.mem_append_right _ List.mem_cons_self
    have takenLast : TakenAt pools last a id offset := taken.congr (.refl pools) same
    rw [reached, finished, allocated]
    dsimp only
    constructor
    · intro ends
      refine ⟨by rwa [allocated] at again, ?_⟩
      have returned := takenLast.address_unique ends
      split at returned
      · next empty => exact .inl empty
      · rw [← returned]
        exact .inr rfl
    · rintro ⟨-, rfl | zero⟩
      · exact ⟨id, member, offset, takenLast⟩
      · have zero : a = 0 := Option.some.inj zero
        rw [zero] at takenLast ⊢
        rw [ite_self]
        exact ⟨id, member, offset, takenLast⟩
  constructor
  · intro ends
    obtain ⟨earlier, id, later, first⟩ := exists_firstFree free
    exact ⟨earlier, id, later, first, (atFirst earlier id later first).mp ends⟩
  · rintro ⟨earlier, id, later, first, condition⟩
    exact (atFirst earlier id later first).mpr condition

theorem Took.congr {first last : PaaDynamic} (taken : Took ids pools next a)
    (before : Same first pools) (after : Same next last) : Took ids first last a := by
  obtain ⟨id, member, offset, taken⟩ := taken
  exact ⟨id, member, offset, taken.congr before after⟩

/-- Without an IPv6 pool the address goes back to the pool read past the end of the list. -/
theorem not_exact_of_no_ipv6 {apnPool : ApnDynamicPools}
    (known : pools.apns[label]? = some apnPool) (kind : paa.pdnType = .ipv4v6)
    (free : pools.SomeFree apnPool.ipv4PoolIds) (none6 : apnPool.ipv6PoolIds = []) :
    ∃ endValue, ¬Exact pools label paa (pools.getFreePaa label paa endValue) := by
  obtain ⟨earlier, id, later, first⟩ := exists_firstFree free
  obtain ⟨a, pool, state, offset, -, -, taken, reached⟩ :=
    allocEach_firstFree false paa.ipv4Address first
  rcases finished : state.allocEach true a later with ⟨success, b, last⟩
  have succeeds : success = true := by
    rw [← allocEach_success state a later, finished]
  have used : last.Used id offset := by
    have := used_allocEach true a later
      ((taken.used id offset).mpr (.inr ⟨rfl, rfl⟩))
    rwa [finished] at this
  -- The value behind the end names another pool than the one that gave the address.
  refine ⟨id + 1, fun exact => ?_⟩
  have out : pools.getFreePaa label paa (id + 1) =
      ⟨none, last.setPool (id + 1) ((last.pool (id + 1)).freeAddress b).2, true⟩ := by
    simp only [getFreePaa, known, kind, reached, finished, succeeds, none6]
  rw [out] at exact
  have same := exact.kept rfl
  apply taken.free
  rw [← same.used, Used, pool_setPool, if_neg (Nat.succ_ne_self id)]
  exact used

/-- The IPv4v6 branch when a pool has an address. -/
theorem exact_ipv4v6_iff {apnPool : ApnDynamicPools} (known : pools.apns[label]? = some apnPool)
    (kind : paa.pdnType = .ipv4v6) (free : pools.SomeFree apnPool.ipv4PoolIds) :
    (∀ endValue, Exact pools label paa (pools.getFreePaa label paa endValue)) ↔
      apnPool.ipv6PoolIds ≠ [] ∧ pools.ReachesIpv6 apnPool.ipv4PoolIds := by
  cases shape : apnPool.ipv6PoolIds with
  | nil =>
      obtain ⟨endValue, fails⟩ := not_exact_of_no_ipv6 known kind free shape
      exact iff_of_false (fun all => fails (all endValue)) fun both => both.1 rfl
  | cons id ids =>
      have succeeds : (pools.allocEach false paa.ipv4Address apnPool.ipv4PoolIds).1 = true := by
        obtain ⟨earlier, id, later, first⟩ := exists_firstFree free
        obtain ⟨a, pool, state, offset, -, -, -, reached⟩ :=
          allocEach_firstFree false paa.ipv4Address first
        rw [reached]
        exact allocEach_success ..
      rw [← taken_allocEach_iff false paa.ipv4Address free]
      rcases finished : pools.allocEach false paa.ipv4Address apnPool.ipv4PoolIds with
        ⟨success, b, last⟩
      rw [finished] at succeeds
      have out : ∀ endValue, pools.getFreePaa label paa endValue =
          ⟨some { paa with ipv4Address := b, ipv6Address := (last.pool6 id).allocAddress },
            { last with ipv6Pools := last.ipv6Pools.insert id (last.pool6 id) }, false⟩ := by
        intro endValue
        have succeeds : success = true := succeeds
        subst succeeds
        simp only [getFreePaa, known, kind, finished, shape]
        rfl
      constructor
      · intro all
        have taken := (all 0).taken
        rw [out] at taken
        have taken := taken _ rfl
        rw [if_pos (by simp [asksIpv4, kind])] at taken
        obtain ⟨apnPool', known', taken⟩ := taken
        rw [known] at known'
        cases known'
        refine ⟨List.cons_ne_nil id ids, taken.congr (.refl pools) ⟨fun _ => rfl, fun other => ?_⟩⟩
        exact (same_insert_pool6.pool6 other).symm
      · rintro ⟨-, taken⟩ endValue
        rw [out]
        constructor
        · exact iff_of_true rfl ⟨apnPool, known, by simp [kind, free, shape]⟩
        · rintro given ⟨⟩
          rw [if_pos (by simp [asksIpv4, kind])]
          exact ⟨apnPool, known, taken.congr (.refl pools) same_insert_pool6⟩
        · intro failed
          cases failed

/-- `get_free_paa` succeeds exactly when each address family of the requested type has a
pool of the name with a free address, takes the address it returns and no other, and leaves
the pools alone when it fails: if and only if an IPv4v6 request that finds an IPv4 address
comes to an IPv6 pool with the one address that it took. -/
theorem getFreePaa_exact_iff (pools : PaaDynamic) (label : String) (paa : Paa) :
    (∀ endValue, Exact pools label paa (pools.getFreePaa label paa endValue)) ↔
      ServedExactly pools label paa := by
  have unchanged : ∀ endValue, ¬pools.Available label paa →
      pools.getFreePaa label paa endValue = ⟨none, pools, false⟩ →
      Exact pools label paa (pools.getFreePaa label paa endValue) := by
    intro endValue missing out
    rw [out]
    exact exact_of_unavailable missing rfl (.refl pools)
  rcases known : pools.apns[label]? with _ | apnPool
  · refine iff_of_true (fun endValue => unchanged endValue ?_ ?_) ?_
    · rintro ⟨apnPool, found, -⟩
      rw [known] at found
      cases found
    · simp only [getFreePaa, known]
    · intro apnPool kind found
      rw [known] at found
      cases found
  · have served : ServedExactly pools label paa ↔ (paa.pdnType = .ipv4v6 →
        pools.SomeFree apnPool.ipv4PoolIds →
          apnPool.ipv6PoolIds ≠ [] ∧ pools.ReachesIpv6 apnPool.ipv4PoolIds) := by
      constructor
      · exact fun all kind => all apnPool kind known
      · intro condition apnPool' kind known'
        rw [known] at known'
        cases known'
        exact condition kind
    rw [served]
    cases kind : paa.pdnType with
    | ipv4 => exact iff_of_true (exact_allocFirst known kind) (by simp)
    | ipv6 => exact iff_of_true (exact_ipv6 known kind) (by simp)
    | nonIp =>
        exact iff_of_true (fun endValue => unchanged endValue (by simp [Available, known, kind])
          (by simp only [getFreePaa, known, kind])) (by simp)
    | unknown value =>
        exact iff_of_true (fun endValue => unchanged endValue (by simp [Available, known, kind])
          (by simp only [getFreePaa, known, kind])) (by simp)
    | ipv4v6 =>
        by_cases free : pools.SomeFree apnPool.ipv4PoolIds
        · rw [exact_ipv4v6_iff known kind free]
          simp [free]
        · obtain ⟨next, returned, same⟩ :=
            allocEach_of_not_someFree false paa.ipv4Address free
          refine iff_of_true (fun endValue => ?_) fun _ somebody => absurd somebody free
          have out : pools.getFreePaa label paa endValue = ⟨none, next, false⟩ := by
            simp only [getFreePaa, known, kind, returned]
          rw [out]
          exact exact_of_unavailable (by simp [Available, known, kind, free]) rfl same

/-! ### Two requests -/

/-- A name with two IPv4 pools of one address each, and an IPv6 pool. -/
def twoPools : PaaDynamic where
  ipv4Pools := (∅ : ExtTreeMap Nat Ipv4Pool).insert 0 (.ofRange 0xac100001 1)
    |>.insert 1 (.ofRange 0xac100101 1)
  ipv6Pools := (∅ : ExtTreeMap Nat Ipv6Pool).insert 2 ⟨1, 64⟩
  apns := (∅ : ExtTreeMap String ApnDynamicPools).insert "internet" ⟨[0, 1], [2]⟩

/-- The pools of a configuration with the one range 172.16.0.1 to 172.16.0.254. -/
def onePool : PaaDynamic :=
  applyConfig [⟨"internet", .ipv4v6, 0xac100001, 0xac1000fe, 0, 64⟩]

/-- An IPv4v6 request takes an address of both pools, and returns the second; without an
IPv6 pool it takes one and returns none. -/
theorem ipv4v6_leaks_address :
    (¬∀ endValue, Exact twoPools "internet" { pdnType := .ipv4v6 }
      (twoPools.getFreePaa "internet" { pdnType := .ipv4v6 } endValue)) ∧
    ¬∀ endValue, Exact onePool "internet" { pdnType := .ipv4v6 }
      (onePool.getFreePaa "internet" { pdnType := .ipv4v6 } endValue) := by
  constructor
  · intro all
    have some : (twoPools.getFreePaa "internet" { pdnType := .ipv4v6 } 0).paa =
        some { pdnType := .ipv4v6, ipv4Address := 0xac100101, ipv6Address := 1 } := by
      decide
    obtain ⟨apnPool, -, id, -, offset, taken⟩ := (all 0).taken _ some
    have first := (taken.used 0 0).mp (by unfold Used; decide)
    have second := (taken.used 1 0).mp (by unfold Used; decide)
    have zero := first.resolve_left (by unfold Used; decide)
    have one := second.resolve_left (by unfold Used; decide)
    omega
  · intro all
    have same := (all 1).kept (by decide)
    have used : onePool.Used 0 0 := by
      rw [← same.used]
      unfold Used
      decide
    have free : ¬onePool.Used 0 0 := by
      unfold Used
      decide
    exact free used

end PaaDynamic

end OpenairSpgwc.Pgw
