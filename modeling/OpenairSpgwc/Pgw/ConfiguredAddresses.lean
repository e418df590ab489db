import OpenairSpgwc.Pgw.FreePaa

/-!
Contract: which addresses the access point names of a configuration can be given.

`apply_config` builds each IPv4 pool with `high - low` addresses, from `low` on; it links a
name with the IPv4 pool of the first entry that has it, and the name, then known, never with
an IPv6 pool.

Owns:
- runs of `get_free_paa` from the configured pools;
- the invariant of the pools that such a run reaches, whatever names it asks for;
- when every configured address can be returned.
-/

namespace OpenairSpgwc.Pgw

open Foundation
open Std (ExtTreeMap)

namespace Ipv4Pool

variable {first range a : BitVec 32} {pool next : Ipv4Pool}

/-- The pool with its size as the constructor was given it; `num` holds it as an `int`. -/
def counted (range : BitVec 32) (pool : Ipv4Pool) : Ipv4Pool := { pool with num := range.toNat }

theorem allocAddress_counted (allocated : pool.allocAddress = (some a, next)) :
    (pool.counted range).allocAddress = (some a, next.counted range) := by
  simp only [allocAddress, allocFreeBit] at allocated
  simp only [allocAddress, allocFreeBit, counted]
  split at allocated
  · cases allocated
  · next found =>
      split at found
      · cases found
      · next scanned =>
          cases found
          cases allocated
          rfl

/-- The addresses of a range are those from `low` to the one before `high`. -/
theorem ne_of_offset {low high : BitVec 32} {offset : Nat} (below : offset < (high - low).toNat) :
    low + BitVec.ofNat 32 offset ≠ high := by
  intro reached
  have distance : high - low = BitVec.ofNat 32 offset := by
    rw [← reached, BitVec.add_comm, BitVec.add_sub_cancel]
  rw [distance, BitVec.toNat_ofNat] at below
  exact absurd (Nat.mod_le offset (2 ^ 32)) (by omega)

end Ipv4Pool

/-! ## Runs of `get_free_paa` -/

/-- A call of `get_free_paa`. -/
structure PaaRequest where
  apnLabel : String
  paa : Paa
deriving DecidableEq

/-- A PAA that a call returned, for the name it was asked for. -/
structure Given where
  apnLabel : String
  paa : Paa
deriving DecidableEq

/-- One call; `endValue` is read behind the end of a list of pools. -/
def request (endValue : Nat) (pools : PaaDynamic) (asked : PaaRequest) :
    Option (PaaDynamic × List Given) :=
  let out := pools.getFreePaa asked.apnLabel asked.paa endValue
  some (out.pools, out.paa.toList.map fun paa => ⟨asked.apnLabel, paa⟩)

/-- The IPv4 addresses that calls for a name return. -/
def ipv4Given (label : String) (given : List Given) : List (BitVec 32) :=
  (given.filter fun each => each.apnLabel = label ∧ PaaDynamic.asksIpv4 each.paa).map
    fun each => each.paa.ipv4Address

/-- The IPv6 addresses that calls for a name return. -/
def ipv6Given (label : String) (given : List Given) : List (BitVec 128) :=
  (given.filter fun each => each.apnLabel = label ∧
    (each.paa.pdnType = .ipv6 ∨ each.paa.pdnType = .ipv4v6)).map fun each => each.paa.ipv6Address

/-- The IPv4 addresses that the calls can return for a name are those of the ranges
configured for it, and each is returned once. -/
structure Ipv4Usable (pdns : List PdnCfg) (label : String) (endValue : Nat) : Prop where
  reached : ∀ a, (∃ records finish, Run (request endValue) (applyConfig pdns) records finish ∧
      a ∈ ipv4Given label (trace records)) ↔
    ∃ p ∈ pdns, p.apnLabel = label ∧ p.uePoolRangeLow.toNat ≤ a.toNat ∧
      a.toNat ≤ p.uePoolRangeHigh.toNat
  once : ∀ records finish, Run (request endValue) (applyConfig pdns) records finish →
    (ipv4Given label (trace records)).Nodup

/-- The IPv6 addresses that the calls can return for a name are the prefixes configured
for it. -/
def Ipv6Usable (pdns : List PdnCfg) (label : String) (endValue : Nat) : Prop :=
  ∀ a, (∃ records finish, Run (request endValue) (applyConfig pdns) records finish ∧
      a ∈ ipv6Given label (trace records)) ↔
    ∃ p ∈ pdns, p.apnLabel = label ∧ p.paaPool6Prefix = a

namespace PaaDynamic

variable {pdns : List PdnCfg} {pools : PaaDynamic} {label : String} {endValue id : Nat}
  {records : List (StepRecord PaaDynamic PaaRequest Given)} {finish : PaaDynamic}

/-- The pools after any calls: names and identifiers are as `apply_config` left them, and a
linked pool has the words it was built with. -/
structure Configured (pdns : List PdnCfg) (pools : PaaDynamic) : Prop where
  apns : pools.apns = (applyConfig pdns).apns
  provisioned : Provisioned pdns pools
  linked : ∀ (i : Nat) (p : PdnCfg) (label : String),
    pools.apns[label]? = some ⟨[2 * i], []⟩ → pdns[i]? = some p →
    Ipv4Pool.Intact p.uePoolRangeLow p.range ((pools.pool (2 * i)).counted p.range)

theorem configured_applyConfig (pdns : List PdnCfg) : Configured pdns (applyConfig pdns) where
  apns := rfl
  provisioned := provisioned_applyConfig pdns
  linked i p label found entry := by
    obtain ⟨j, q, entry', -, shape, pool⟩ := (applyConfig_spec pdns).2.2 label _ found
    have same : i = j := by
      have heads := congrArg (fun pools => pools.ipv4PoolIds.head?) shape
      simp only [List.head?_cons, Option.some.injEq] at heads
      omega
    subst same
    rw [entry] at entry'
    cases entry'
    rw [PaaDynamic.pool, pool]
    exact Ipv4Pool.intact_ofRange_num p.uePoolRangeLow p.range

/-- A pool that no name is linked with may become anything. -/
theorem Configured.setPool_odd (configured : Configured pdns pools) {pool : Ipv4Pool}
    (odd : id % 2 = 1) : Configured pdns (pools.setPool id pool) where
  apns := configured.apns
  provisioned := configured.provisioned.setPool
  linked i p label found entry := by
    rw [pool_setPool, if_neg (by omega)]
    exact configured.linked i p label found entry

/-- A linked pool gives an address below the upper end of its range. -/
theorem Configured.allocAddress (configured : Configured pdns pools) {a : BitVec 32}
    {next : Ipv4Pool} (linked : pools.apns[label]? = some ⟨[id], []⟩)
    (allocated : (pools.pool id).allocAddress = (some a, next)) :
    Configured pdns (pools.setPool id next) ∧ ∃ i p, id = 2 * i ∧ pdns[i]? = some p ∧
      ∃ offset < p.range.toNat, a = p.uePoolRangeLow + BitVec.ofNat 32 offset := by
  obtain ⟨i, p, entry, -, shape, -⟩ := configured.provisioned label _ linked
  obtain rfl : id = 2 * i := by
    cases shape
    rfl
  have intact := configured.linked i p label linked entry
  obtain ⟨intactNext, offset, below, rfl, -⟩ :=
    intact.allocAddress_eq_some (Ipv4Pool.allocAddress_counted allocated)
  refine ⟨⟨configured.apns, configured.provisioned.setPool, ?_⟩, i, p, rfl, entry, offset, below,
    rfl⟩
  intro j q other found entry'
  rw [pool_setPool]
  split
  · next same =>
      obtain rfl : i = j := by omega
      rw [entry] at entry'
      cases entry'
      exact intactNext
  · exact configured.linked j q other found entry'

/-- What a call returns: an IPv4 address of the range of the entry that the name is linked
with, but never its upper end. -/
def FromRange (pdns : List PdnCfg) (given : Given) : Prop :=
  given.paa.pdnType = .ipv4 ∧ ∃ i p, (applyConfig pdns).apns[given.apnLabel]? = some ⟨[2 * i], []⟩ ∧
    pdns[i]? = some p ∧
      ∃ offset < p.range.toNat, given.paa.ipv4Address = p.uePoolRangeLow + BitVec.ofNat 32 offset

/-- A call, when what lies behind the end of a list names no pool of a name. -/
theorem Configured.request (configured : Configured pdns pools) (odd : endValue % 2 = 1)
    {asked : PaaRequest} {next : PaaDynamic} {events : List Given}
    (taken : Pgw.request endValue pools asked = some (next, events)) :
    Configured pdns next ∧ ∀ given ∈ events, FromRange pdns given := by
  cases taken
  rcases getFreePaa_cases configured.provisioned asked.apnLabel asked.paa endValue with
    ⟨unchanged, -⟩ | ⟨id, a, pool, linked, allocated, ⟨kind, ipv4⟩ | ⟨-, stray⟩⟩
  · rw [unchanged]
    exact ⟨configured, by simp⟩
  · obtain ⟨reached, i, p, rfl, entry, offset, below, rfl⟩ :=
      configured.allocAddress linked allocated
    rw [ipv4]
    refine ⟨reached, ?_⟩
    simp only [Option.toList_some, List.map_cons, List.map_nil, List.mem_singleton, forall_eq]
    rw [configured.apns] at linked
    exact ⟨kind, i, p, linked, entry, offset, below, rfl⟩
  · rw [stray]
    exact ⟨(configured.allocAddress linked allocated).1.setPool_odd odd, by simp⟩

theorem fromRange_of_run (odd : endValue % 2 = 1)
    (run : Run (Pgw.request endValue) (applyConfig pdns) records finish) :
    ∀ given ∈ trace records, FromRange pdns given := by
  intro given member
  obtain ⟨record, passed, returned⟩ := mem_trace.mp member
  have reached := (run.invariant (Configured pdns) (configured_applyConfig pdns)
    fun state asked next events configured taken => (configured.request odd taken).1).2 record passed
  exact (reached.1.request odd (run.taken record passed)).2 given returned

/-- A name that no entry has is given nothing. -/
theorem not_given_of_unnamed (unnamed : ∀ p ∈ pdns, p.apnLabel ≠ label)
    (run : Run (Pgw.request endValue) (applyConfig pdns) records finish) :
    ∀ given ∈ trace records, given.apnLabel ≠ label := by
  intro given member named
  obtain ⟨record, passed, returned⟩ := mem_trace.mp member
  have provisioned := (run.invariant (Provisioned pdns) (provisioned_applyConfig pdns) (by
    intro state asked next events provisioned taken
    cases taken
    exact provisioned.getFreePaa asked.apnLabel asked.paa endValue)).2 record passed
  have events := congrArg Prod.snd (Option.some.inj (run.taken record passed))
  have events : _ = record.events := events
  rw [← events] at returned
  obtain ⟨paa, success, rfl⟩ := List.mem_map.mp returned
  rcases getFreePaa_cases provisioned.1 record.action.apnLabel record.action.paa endValue with
    ⟨unchanged, -⟩ | ⟨id, a, pool, linked, -, -⟩
  · rw [unchanged] at success
    cases success
  · obtain ⟨i, p, entry, same, -⟩ := provisioned.1 _ _ linked
    exact unnamed p (List.mem_of_getElem? entry) (same.trans named)

end PaaDynamic

/-! ## Usable addresses -/

section Usable

variable {pdns : List PdnCfg} {label : String} {endValue : Nat}

theorem mem_ipv4Given {a : BitVec 32} {given : List Given} :
    a ∈ ipv4Given label given ↔ ∃ each ∈ given, each.apnLabel = label ∧
      PaaDynamic.asksIpv4 each.paa = true ∧ each.paa.ipv4Address = a := by
  simp [ipv4Given, and_assoc]

theorem mem_ipv6Given {a : BitVec 128} {given : List Given} :
    a ∈ ipv6Given label given ↔ ∃ each ∈ given, each.apnLabel = label ∧
      (each.paa.pdnType = .ipv6 ∨ each.paa.pdnType = .ipv4v6) ∧ each.paa.ipv6Address = a := by
  simp [ipv6Given, and_assoc]

/-- The upper end of a range configured for a name is not returned, or the name is not known. -/
theorem exists_unreached {p : PdnCfg} (member : p ∈ pdns) (named : p.apnLabel = label)
    (odd : endValue % 2 = 1) : ∃ q ∈ pdns, q.apnLabel = label ∧
      ∀ records finish, Run (request endValue) (applyConfig pdns) records finish →
        q.uePoolRangeHigh ∉ ipv4Given label (trace records) := by
  rcases known : (applyConfig pdns).apns[label]? with _ | apnPool
  · refine ⟨p, member, named, fun records finish run reached => ?_⟩
    obtain ⟨given, returned, rfl, -⟩ := mem_ipv4Given.mp reached
    obtain ⟨-, i, q, linked, -⟩ := PaaDynamic.fromRange_of_run odd run given returned
    rw [known] at linked
    cases linked
  · obtain ⟨i, q, entry, same, rfl, -⟩ := (PaaDynamic.applyConfig_spec pdns).2.2 label _ known
    refine ⟨q, List.mem_of_getElem? entry, same, fun records finish run reached => ?_⟩
    obtain ⟨given, returned, rfl, -, upper⟩ := mem_ipv4Given.mp reached
    obtain ⟨-, j, r, linked, entry', offset, below, address⟩ :=
      PaaDynamic.fromRange_of_run odd run given returned
    rw [known] at linked
    obtain rfl : i = j := by
      have heads := congrArg (fun found => found.bind fun pool => pool.ipv4PoolIds.head?) linked
      simp only [Option.bind_some, List.head?_cons, Option.some.injEq] at heads
      omega
    rw [entry] at entry'
    cases entry'
    exact Ipv4Pool.ne_of_offset below (address.symm.trans upper)

/-- The names whose configured addresses can all be returned are those that no entry has, of
the IPv4 addresses and of the IPv6 prefixes alike. -/
theorem usable_iff (pdns : List PdnCfg) (label : String)
    (ordered : ∀ p ∈ pdns, p.uePoolRangeLow.toNat ≤ p.uePoolRangeHigh.toNat) :
    ((∀ endValue, Ipv4Usable pdns label endValue) ↔ ∀ p ∈ pdns, p.apnLabel ≠ label) ∧
      ((∀ endValue, Ipv6Usable pdns label endValue) ↔ ∀ p ∈ pdns, p.apnLabel ≠ label) := by
  constructor
  · constructor
    · intro usable p member named
      obtain ⟨q, configured, same, never⟩ := exists_unreached member named (show 1 % 2 = 1 from rfl)
      obtain ⟨records, finish, run, reached⟩ := ((usable 1).reached q.uePoolRangeHigh).mpr
        ⟨q, configured, same, ordered q configured, le_refl _⟩
      exact never records finish run reached
    · intro unnamed endValue
      constructor
      · intro a
        constructor
        · rintro ⟨records, finish, run, reached⟩
          obtain ⟨given, returned, same, -⟩ := mem_ipv4Given.mp reached
          exact absurd same (PaaDynamic.not_given_of_unnamed unnamed run given returned)
        · rintro ⟨p, member, named, -⟩
          exact absurd named (unnamed p member)
      · intro records finish run
        have nothing : ipv4Given label (trace records) = [] := by
          rw [List.eq_nil_iff_forall_not_mem]
          intro a reached
          obtain ⟨given, returned, same, -⟩ := mem_ipv4Given.mp reached
          exact PaaDynamic.not_given_of_unnamed unnamed run given returned same
        rw [nothing]
        exact List.nodup_nil
  · constructor
    · intro usable p member named
      obtain ⟨records, finish, run, reached⟩ :=
        (usable 1 p.paaPool6Prefix).mpr ⟨p, member, named, rfl⟩
      obtain ⟨given, returned, -, kind, -⟩ := mem_ipv6Given.mp reached
      have ipv4 := (PaaDynamic.fromRange_of_run rfl run given returned).1
      rw [ipv4] at kind
      simp at kind
    · intro unnamed endValue a
      constructor
      · rintro ⟨records, finish, run, reached⟩
        obtain ⟨given, returned, same, -⟩ := mem_ipv6Given.mp reached
        exact absurd same (PaaDynamic.not_given_of_unnamed unnamed run given returned)
      · rintro ⟨p, member, named, -⟩
        exact absurd named (unnamed p member)

/-- One entry of two addresses, 172.16.0.1 and 172.16.0.2. -/
def pairOfAddresses : PdnCfg := ⟨"internet", .ipv4, 0xac100001, 0xac100002, 0x2001, 64⟩

theorem usable_of_unnamed :
    ((∀ endValue, Ipv4Usable [pairOfAddresses] "ims" endValue) ↔
      ∀ p ∈ [pairOfAddresses], p.apnLabel ≠ "ims") ∧
    ((∀ endValue, Ipv6Usable [pairOfAddresses] "ims" endValue) ↔
      ∀ p ∈ [pairOfAddresses], p.apnLabel ≠ "ims") :=
  usable_iff [pairOfAddresses] "ims" (by decide)

/-- The name of the entry is given the first address and never the second. -/
theorem high_address_unusable : ¬∀ endValue, Ipv4Usable [pairOfAddresses] "internet" endValue := by
  intro usable
  obtain ⟨q, configured, same, never⟩ := exists_unreached
    (List.mem_singleton_self pairOfAddresses) rfl (show 1 % 2 = 1 from rfl)
  obtain ⟨records, finish, run, reached⟩ := ((usable 1).reached q.uePoolRangeHigh).mpr
    ⟨q, configured, same, by rw [List.mem_singleton.mp configured]; decide, le_refl _⟩
  exact never records finish run reached

end Usable

end OpenairSpgwc.Pgw
