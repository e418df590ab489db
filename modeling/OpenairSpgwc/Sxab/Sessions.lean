import Mathlib.Data.Prod.Lex
import OpenairSpgwc.Foundation.SearchTree
import OpenairSpgwc.Foundation.Transition

/-!
Contract: F-SEIDs, their comparison, and the sessions that an association keeps in a
`std::set` under it.

Owns:
- `fseid_s::operator==` and `fseid_s::operator<`;
- two F-SEIDs that each come before the other, and that apart from these the
  comparison is that of a lexicographic key;
- `notify_add_session`, `has_session` and `notify_del_session`, and on which
  F-SEIDs they act as a set.

Does not own: the other members of an association.
-/

namespace OpenairSpgwc.Sxab

open Foundation

/-! ### F-SEIDs -/

/-- `in6_addr::s6_addr32`. -/
structure S6Addr32 where
  word0 : BitVec 32 := 0
  word1 : BitVec 32 := 0
  word2 : BitVec 32 := 0
  word3 : BitVec 32 := 0
deriving DecidableEq

structure Fseid where
  spare : BitVec 6 := 0
  v4 : Bool := false
  v6 : Bool := false
  seid : BitVec 64 := 0
  ipv4Address : BitVec 32 := 0
  ipv6Address : S6Addr32 := {}
deriving DecidableEq

namespace Fseid

/-- `operator==`. -/
def same (this i : Fseid) : Bool :=
  i.seid == this.seid && i.v4 == this.v4 && i.ipv4Address == this.ipv4Address &&
    i.v6 == this.v6 && i.ipv6Address == this.ipv6Address

/-- Two words of an address as `operator<` puts them together. -/
def half (first second : BitVec 32) : BitVec 64 :=
  (first.setWidth 64 <<< 32) ||| second.setWidth 64

/-- What `operator<` does from the second flag on. -/
def lessV6 (this i : Fseid) : Bool :=
  if i.v6 = this.v6 then
    let i64 := half i.ipv6Address.word0 i.ipv6Address.word1
    let this64 := half this.ipv6Address.word0 this.ipv6Address.word1
    if i64 < this64 then true
    else if this64 < i64 then false
    else
      let i64 := half i.ipv6Address.word2 i.ipv6Address.word3
      let this64 := half this.ipv6Address.word2 this.ipv6Address.word3
      if i64 < this64 then true else false
  else this.v6

/-- `operator<`. -/
def less (this i : Fseid) : Bool :=
  if i.seid < this.seid then true
  else if this.seid < i.seid then false
  else if i.v4 = this.v4 then
    if this.ipv4Address < i.ipv4Address then true
    else if i.ipv4Address < this.ipv4Address then false
    else lessV6 this i
  else if this.v4 then true
  -- a flag that only the other one has decides nothing
  else lessV6 this i

/-- The 128 bits of an address, the first word first. -/
def number (address : S6Addr32) : Nat :=
  ((address.word0.toNat * 2 ^ 32 + address.word1.toNat) * 2 ^ 32 + address.word2.toNat) * 2 ^ 32 +
    address.word3.toNat

theorem toNat_half (first second : BitVec 32) :
    (half first second).toNat = first.toNat * 2 ^ 32 + second.toNat := by
  have small : first.toNat <<< 32 < 2 ^ 64 := by
    rw [Nat.shiftLeft_eq]
    omega
  rw [half, BitVec.toNat_or, BitVec.toNat_shiftLeft, BitVec.toNat_setWidth, BitVec.toNat_setWidth,
    Nat.mod_eq_of_lt (show first.toNat < 2 ^ 64 by omega),
    Nat.mod_eq_of_lt (show second.toNat < 2 ^ 64 by omega), Nat.mod_eq_of_lt small,
    ← Nat.shiftLeft_add_eq_or_of_lt second.isLt, Nat.shiftLeft_eq]

theorem number_injective {first second : S6Addr32} (equal : number first = number second) :
    first = second := by
  obtain ⟨a0, a1, a2, a3⟩ := first
  obtain ⟨b0, b1, b2, b3⟩ := second
  have spelled :
      ((a0.toNat * 2 ^ 32 + a1.toNat) * 2 ^ 32 + a2.toNat) * 2 ^ 32 + a3.toNat =
        ((b0.toNat * 2 ^ 32 + b1.toNat) * 2 ^ 32 + b2.toNat) * 2 ^ 32 + b3.toNat := equal
  rw [BitVec.eq_of_toNat_eq (show a0.toNat = b0.toNat by omega),
    BitVec.eq_of_toNat_eq (show a1.toNat = b1.toNat by omega),
    BitVec.eq_of_toNat_eq (show a2.toNat = b2.toNat by omega),
    BitVec.eq_of_toNat_eq (show a3.toNat = b3.toNat by omega)]

theorem same_iff {this i : Fseid} :
    this.same i = true ↔ i.seid = this.seid ∧ i.v4 = this.v4 ∧ i.ipv4Address = this.ipv4Address ∧
      i.v6 = this.v6 ∧ i.ipv6Address = this.ipv6Address := by
  simp only [same, Bool.and_eq_true, beq_iff_eq, and_assoc]

/-! ### The key behind the comparison -/

/-- A flag that is set comes first. -/
def flagRank (flag : Bool) : Nat := if flag then 0 else 1

theorem flagRank_injective {first second : Bool} (equal : flagRank first = flagRank second) :
    first = second := by
  cases first <;> cases second <;> first | rfl | cases equal

/-- The part of the key from the second flag on: a greater address comes first. -/
def rankV6 (fseid : Fseid) : Nat ×ₗ Natᵒᵈ :=
  toLex (flagRank fseid.v6, OrderDual.toDual (number fseid.ipv6Address))

/-- A greater identifier comes first, then an IPv4 address, a smaller one before a greater. -/
def rank (fseid : Fseid) : Natᵒᵈ ×ₗ Nat ×ₗ Nat ×ₗ Nat ×ₗ Natᵒᵈ :=
  toLex (OrderDual.toDual fseid.seid.toNat,
    toLex (flagRank fseid.v4, toLex (fseid.ipv4Address.toNat, fseid.rankV6)))

theorem rankV6_lt_iff {this i : Fseid} :
    this.rankV6 < i.rankV6 ↔ flagRank this.v6 < flagRank i.v6 ∨
      flagRank this.v6 = flagRank i.v6 ∧ number i.ipv6Address < number this.ipv6Address :=
  Prod.Lex.toLex_lt_toLex

theorem rank_lt_iff {this i : Fseid} :
    this.rank < i.rank ↔ i.seid.toNat < this.seid.toNat ∨ this.seid.toNat = i.seid.toNat ∧
      (flagRank this.v4 < flagRank i.v4 ∨ flagRank this.v4 = flagRank i.v4 ∧
        (this.ipv4Address.toNat < i.ipv4Address.toNat ∨
          this.ipv4Address.toNat = i.ipv4Address.toNat ∧ this.rankV6 < i.rankV6)) := by
  rw [rank, rank, Prod.Lex.toLex_lt_toLex, Prod.Lex.toLex_lt_toLex, Prod.Lex.toLex_lt_toLex,
    OrderDual.toDual_lt_toDual, OrderDual.toDual_inj]

theorem number_lt_iff {first second : S6Addr32} :
    number first < number second ↔
      (half first.word0 first.word1).toNat < (half second.word0 second.word1).toNat ∨
        (half first.word0 first.word1).toNat = (half second.word0 second.word1).toNat ∧
          (half first.word2 first.word3).toNat < (half second.word2 second.word3).toNat := by
  rw [toNat_half, toNat_half, toNat_half, toNat_half, number, number]
  omega

/-- One stage of a comparison: yes, no, or what comes after. -/
theorem stage_iff {yes no : Prop} [Decidable yes] [Decidable no] {rest : Bool} :
    (if yes then true else if no then false else rest) = true ↔ yes ∨ ¬no ∧ rest = true := by
  by_cases decided : yes
  · rw [if_pos decided]
    exact iff_of_true rfl (.inl decided)
  · rw [if_neg decided]
    by_cases refused : no
    · rw [if_pos refused]
      exact iff_of_false Bool.false_ne_true fun either =>
        either.elim decided fun open_ => open_.1 refused
    · rw [if_neg refused]
      exact ⟨fun later => .inr ⟨refused, later⟩, fun either => either.elim
        (fun early => absurd early decided) fun later => later.2⟩

theorem order_stage {first second : Nat} {later : Prop} :
    first < second ∨ ¬second < first ∧ later ↔ first < second ∨ first = second ∧ later := by
  refine or_congr_right' fun notLess => and_congr_left fun _ => ?_
  omega

theorem lessV6_iff (this i : Fseid) : this.lessV6 i = true ↔ this.rankV6 < i.rankV6 := by
  rw [rankV6_lt_iff, lessV6]
  by_cases flags : i.v6 = this.v6
  · rw [if_pos flags, flags, number_lt_iff]
    show (if _ then true else if _ then false else if _ then true else false) = true ↔ _
    rw [stage_iff, Bool.if_true_left, Bool.or_false, decide_eq_true_iff, BitVec.lt_def,
      BitVec.lt_def, BitVec.lt_def, order_stage, and_iff_right rfl,
      or_iff_right (lt_irrefl _)]
  · have yours : i.v6 = !this.v6 := Bool.eq_not.mpr flags
    rw [if_neg flags, yours]
    cases this.v6 with
    | true => exact iff_of_true rfl (.inl (by decide))
    | false =>
        refine iff_of_false Bool.false_ne_true ?_
        rintro (first | ⟨second, _⟩)
        · exact absurd first (by decide)
        · exact absurd second (by decide)

/-- `first` comes before `second` by the first flag, `second` before `first` by what
follows it. -/
def Conflict (first second : Fseid) : Prop :=
  first.seid = second.seid ∧ first.v4 = true ∧ second.v4 = false ∧
    (first.v6 = false ∧ second.v6 = true ∨
      first.v6 = second.v6 ∧ number first.ipv6Address < number second.ipv6Address)

theorem conflict_iff {first second : Fseid} :
    Conflict first second ↔ first.seid = second.seid ∧ first.v4 = true ∧ second.v4 = false ∧
      second.rankV6 < first.rankV6 := by
  rw [Conflict, rankV6_lt_iff]
  refine and_congr_right fun _ => and_congr_right fun _ => and_congr_right fun _ => ?_
  apply or_congr
  · cases first.v6 <;> cases second.v6 <;> decide
  · refine and_congr_left fun _ => ⟨fun equal => by rw [equal], fun equal => ?_⟩
    exact (flagRank_injective equal).symm

theorem less_of_conflict {first second : Fseid} (conflict : Conflict first second) :
    first.less second = true ∧ second.less first = true := by
  obtain ⟨seids, flag, noFlag, behind⟩ := conflict_iff.mp conflict
  have different : second.v4 ≠ first.v4 := by
    rw [flag, noFlag]
    exact Bool.false_ne_true
  constructor
  · rw [less, seids, stage_iff, if_neg different, flag, if_pos rfl]
    exact .inr ⟨BitVec.lt_irrefl _, rfl⟩
  · rw [less, seids, stage_iff, if_neg different.symm, noFlag, if_neg Bool.false_ne_true]
    exact .inr ⟨BitVec.lt_irrefl _, (lessV6_iff second first).mpr behind⟩

/-- Where the two do not conflict the comparison is that of the keys. -/
theorem less_iff {this i : Fseid} (calm : ¬Conflict i this) :
    this.less i = true ↔ this.rank < i.rank := by
  rw [rank_lt_iff, less, stage_iff, BitVec.lt_def, BitVec.lt_def, order_stage,
    eq_comm (a := i.seid.toNat)]
  refine or_congr_right (and_congr_right fun seids => ?_)
  by_cases flags : i.v4 = this.v4
  · rw [if_pos flags, flags, stage_iff, lessV6_iff, BitVec.lt_def, BitVec.lt_def, order_stage,
      and_iff_right rfl, or_iff_right (lt_irrefl _)]
  · have yours : i.v4 = !this.v4 := Bool.eq_not.mpr flags
    rw [if_neg flags]
    cases mine : this.v4 with
    | true =>
        rw [yours, mine, if_pos rfl]
        exact iff_of_true rfl (.inl (by decide))
    | false =>
        have notBefore : ¬this.rankV6 < i.rankV6 := fun before =>
          calm (conflict_iff.mpr ⟨BitVec.eq_of_toNat_eq seids.symm, by rw [yours, mine]; rfl,
            mine, before⟩)
        rw [yours, mine, if_neg Bool.false_ne_true, lessV6_iff]
        refine iff_of_false notBefore ?_
        rintro (first | ⟨second, _⟩)
        · exact absurd first (by decide)
        · exact absurd second (by decide)

theorem same_iff_rank {this i : Fseid} : this.same i = true ↔ this.rank = i.rank := by
  rw [same_iff]
  constructor
  · rintro ⟨seid, v4, ipv4, v6, ipv6⟩
    rw [rank, rank, rankV6, rankV6, seid, v4, ipv4, v6, ipv6]
  · intro equal
    obtain ⟨seid, rest⟩ := Prod.mk.inj (toLex.injective equal)
    obtain ⟨v4, rest⟩ := Prod.mk.inj (toLex.injective rest)
    obtain ⟨ipv4, rest⟩ := Prod.mk.inj (toLex.injective rest)
    obtain ⟨v6, ipv6⟩ := Prod.mk.inj (toLex.injective rest)
    exact ⟨(BitVec.eq_of_toNat_eq (OrderDual.toDual.injective seid)).symm,
      (flagRank_injective v4).symm, (BitVec.eq_of_toNat_eq ipv4).symm,
      (flagRank_injective v6).symm, (number_injective (OrderDual.toDual.injective ipv6)).symm⟩

/-! ### The laws of the comparison -/

/-- A total order, as far as `operator==` tells its members apart. -/
structure TotallyOrdered (fseids : Set Fseid) : Prop where
  irrefl : ∀ a ∈ fseids, a.less a = false
  asymm : ∀ a ∈ fseids, ∀ b ∈ fseids, a.less b = true → b.less a = false
  trans : ∀ a ∈ fseids, ∀ b ∈ fseids, ∀ c ∈ fseids,
    a.less b = true → b.less c = true → a.less c = true
  same : ∀ a ∈ fseids, ∀ b ∈ fseids, Equivalent less a b ↔ a.same b = true

def ConflictFree (fseids : Set Fseid) : Prop :=
  ∀ a ∈ fseids, ∀ b ∈ fseids, ¬Conflict a b

section ConflictFree

variable {fseids : Set Fseid} {a b : Fseid}

theorem ConflictFree.strictWeak (free : ConflictFree fseids) : StrictWeakOn less fseids :=
  .of_rank rank fun a aIn b bIn => less_iff (free b bIn a aIn)

theorem ConflictFree.equivalent_iff (free : ConflictFree fseids) (aIn : a ∈ fseids)
    (bIn : b ∈ fseids) : Equivalent less a b ↔ a.same b = true := by
  rw [same_iff_rank, Equivalent, Bool.eq_false_iff, Bool.eq_false_iff, ne_eq, ne_eq,
    less_iff (free b bIn a aIn), less_iff (free a aIn b bIn), not_lt, not_lt, and_comm]
  exact le_antisymm_iff.symm

theorem totallyOrdered_iff : TotallyOrdered fseids ↔ ConflictFree fseids := by
  constructor
  · intro ordered a aIn b bIn conflict
    obtain ⟨forth, back⟩ := less_of_conflict conflict
    rw [ordered.asymm a aIn b bIn forth] at back
    cases back
  · intro free
    constructor
    · exact fun a aIn => free.strictWeak.irrefl aIn
    · exact free.strictWeak.asymm
    · exact fun a aIn b bIn c cIn => free.strictWeak.trans aIn bIn cIn
    · exact fun a aIn b bIn => free.equivalent_iff aIn bIn

end ConflictFree

theorem same_refl (a : Fseid) : a.same a = true :=
  same_iff_rank.mpr rfl

end Fseid

/-! ### The sessions of an association -/

/-- `pfcp_association::sessions`, with the number of calls that changed it. -/
structure Sessions where
  calls : Nat := 0
  sessions : SearchTree Fseid := .leaf

/-- A call that changes the sessions. -/
inductive SessionCall where
  | notifyAddSession (cpFseid : Fseid)
  | notifyDelSession (cpFseid : Fseid)

def SessionCall.cpFseid : SessionCall → Fseid
  | notifyAddSession cpFseid => cpFseid
  | notifyDelSession cpFseid => cpFseid

namespace Sessions

/-- The tree after a call, before it is balanced. -/
def changed (sessions : SearchTree Fseid) : SessionCall → SearchTree Fseid
  | .notifyAddSession cpFseid => sessions.insert Fseid.less cpFseid
  | .notifyDelSession cpFseid => sessions.erase Fseid.less cpFseid

def call (balancing : Balancing Fseid) (s : Sessions) (made : SessionCall) :
    Option (Sessions × List SessionCall) :=
  some (⟨s.calls + 1, balancing.reshape s.calls (changed s.sessions made)⟩, [made])

/-- `has_session`. -/
def hasSession (s : Sessions) (cpFseid : Fseid) : Bool :=
  (s.sessions.find Fseid.less cpFseid).isSome

end Sessions

/-- The set that the calls describe: a session is in it from the call that adds it to the
next one that deletes it. -/
def notified (history : List SessionCall) : Set Fseid :=
  history.foldl (fun known made =>
    match made with
    | .notifyAddSession cpFseid => {other | cpFseid.same other = true} ∪ known
    | .notifyDelSession cpFseid => known \ {other | cpFseid.same other = true}) ∅

theorem notified_add (history : List SessionCall) (cpFseid : Fseid) :
    notified (history ++ [.notifyAddSession cpFseid]) =
      {other | cpFseid.same other = true} ∪ notified history := by
  rw [notified, List.foldl_append, List.foldl_cons, List.foldl_nil, ← notified]

theorem notified_del (history : List SessionCall) (cpFseid : Fseid) :
    notified (history ++ [.notifyDelSession cpFseid]) =
      notified history \ {other | cpFseid.same other = true} := by
  rw [notified, List.foldl_append, List.foldl_cons, List.foldl_nil, ← notified]

namespace Sessions

/-- Of these F-SEIDs exactly those that the calls describe are kept and found. -/
def KeepsAndFinds (fseids : Set Fseid) (s : Sessions) (history : List SessionCall) : Prop :=
  ∀ asked ∈ fseids,
    ((∃ stored ∈ s.sessions.inorder, stored.same asked = true) ↔ asked ∈ notified history) ∧
      (s.hasSession asked = true ↔ asked ∈ notified history)

/-- However the tree is balanced, calls with these F-SEIDs act on it as on a set. -/
def ActsAsSet (fseids : Set Fseid) : Prop :=
  ∀ (balancing : Balancing Fseid) (records : List (StepRecord Sessions SessionCall SessionCall))
    (s : Sessions), Run (call balancing) {} records s →
    (∀ made ∈ trace records, made.cpFseid ∈ fseids) → s.KeepsAndFinds fseids (trace records)

section Runs

variable {fseids : Set Fseid} {balancing : Balancing Fseid} {s t : Sessions}
  {records : List (StepRecord Sessions SessionCall SessionCall)} {history : List SessionCall}

/-- What the tree keeps of the calls. -/
structure Mirrors (fseids : Set Fseid) (s : Sessions) (history : List SessionCall) : Prop where
  sorted : s.sessions.Sorted Fseid.less fseids
  present : ∀ asked ∈ fseids,
    SearchTree.Present Fseid.less asked s.sessions.inorder ↔ asked ∈ notified history

theorem mirrors_start : Mirrors fseids {} [] where
  sorted := SearchTree.sorted_leaf
  present asked _ := by
    refine iff_of_false ?_ (Set.notMem_empty asked)
    rintro ⟨other, member, _⟩
    cases member

theorem Mirrors.call {made : SessionCall} {events : List SessionCall}
    (mirrors : Mirrors fseids s history) (free : Fseid.ConflictFree fseids)
    (within : made.cpFseid ∈ fseids) (called : s.call balancing made = some (t, events)) :
    Mirrors fseids t (history ++ events) := by
  cases called
  have order := free.strictWeak
  have inorder := balancing.inorder_reshape s.calls (changed s.sessions made)
  cases made with
  | notifyAddSession cpFseid =>
      have added : cpFseid ∈ fseids := within
      constructor
      · exact (mirrors.sorted.insert order within).of_inorder inorder
      · intro asked askedIn
        show SearchTree.Present _ asked (balancing.reshape s.calls _).inorder ↔ _
        rw [inorder, notified_add, Set.mem_union, Set.mem_ofPred_eq,
          ← mirrors.present asked askedIn, ← free.equivalent_iff added askedIn]
        exact SearchTree.present_insert order within askedIn mirrors.sorted
  | notifyDelSession cpFseid =>
      have deleted : cpFseid ∈ fseids := within
      constructor
      · exact (mirrors.sorted.erase order within).of_inorder inorder
      · intro asked askedIn
        show SearchTree.Present _ asked (balancing.reshape s.calls _).inorder ↔ _
        rw [inorder, notified_del, Set.mem_sdiff, Set.mem_ofPred_eq,
          ← mirrors.present asked askedIn, ← free.equivalent_iff deleted askedIn, and_comm]
        exact SearchTree.present_erase order within askedIn mirrors.sorted

theorem mirrors_of_run (free : Fseid.ConflictFree fseids) (run : Run (call balancing) {} records s)
    (within : ∀ made ∈ trace records, made.cpFseid ∈ fseids) :
    Mirrors fseids s (trace records) := by
  induction run with
  | nil => exact mirrors_start
  | @snoc records state next made events earlier taken inductionHypothesis =>
      rw [trace_append, trace_singleton] at within ⊢
      have before := inductionHypothesis fun made member =>
        within made (List.mem_append_left _ member)
      have own : events = [made] := by
        cases taken
        rfl
      refine before.call free (within made (List.mem_append_right _ ?_)) taken
      rw [own]
      exact List.mem_singleton_self made

theorem Mirrors.keepsAndFinds (mirrors : Mirrors fseids s history)
    (free : Fseid.ConflictFree fseids) : s.KeepsAndFinds fseids history := by
  intro asked askedIn
  rw [← mirrors.present asked askedIn, hasSession,
    SearchTree.find_isSome_iff free.strictWeak askedIn mirrors.sorted]
  refine ⟨?_, Iff.rfl⟩
  constructor
  · rintro ⟨stored, member, same⟩
    exact ⟨stored, member,
      (free.equivalent_iff (mirrors.sorted.within stored member) askedIn).mpr same⟩
  · rintro ⟨stored, member, equivalent⟩
    exact ⟨stored, member,
      (free.equivalent_iff (mirrors.sorted.within stored member) askedIn).mp equivalent⟩

end Runs

/-- Of two F-SEIDs that conflict the second is lost when it is added after the first. -/
theorem not_actsAsSet {fseids : Set Fseid} {first second : Fseid} (firstIn : first ∈ fseids)
    (secondIn : second ∈ fseids) (conflict : Fseid.Conflict first second) : ¬ActsAsSet fseids := by
  intro acts
  obtain ⟨forth, back⟩ := Fseid.less_of_conflict conflict
  have run := ((Run.initial (call Balancing.none) {}).andThen (.notifyAddSession first) rfl).andThen
    (.notifyAddSession second) rfl
  have within : ∀ made ∈ [SessionCall.notifyAddSession first, .notifyAddSession second],
      made.cpFseid ∈ fseids := by
    intro made member
    cases List.mem_cons.mp member with
    | inl same => rw [same]; exact firstIn
    | inr member =>
        rw [List.mem_singleton.mp member]
        exact secondIn
  have found :=
    (acts Balancing.none _ _ run within second secondIn).2.mpr (.inl (Fseid.same_refl second))
  -- The second one went to the left of the first, and is looked for on the right.
  have inserted : (SearchTree.leaf.insert Fseid.less first).insert Fseid.less second =
      .node (.node .leaf second .leaf) first .leaf := by
    show SearchTree.insertAfter Fseid.less second none (.node .leaf first .leaf) = _
    rw [SearchTree.insertAfter_node, if_pos back]
    rfl
  have missed : (SearchTree.node (.node .leaf second .leaf) first .leaf).find Fseid.less second =
      none := by
    rw [SearchTree.find, SearchTree.lowerBound, if_pos forth]
    rfl
  have asked : Sessions.hasSession ⟨2, (SearchTree.leaf.insert Fseid.less first).insert Fseid.less
      second⟩ second = true := found
  rw [hasSession, inserted, missed] at asked
  cases asked

theorem actsAsSet_iff {fseids : Set Fseid} : ActsAsSet fseids ↔ Fseid.ConflictFree fseids := by
  constructor
  · intro acts a aIn b bIn conflict
    exact not_actsAsSet aIn bIn conflict acts
  · intro free balancing records s run within
    exact (mirrors_of_run free run within).keepsAndFinds free

end Sessions

/-- On some F-SEIDs the comparison is a total order, and on them the sessions act as a set,
exactly when no two of them conflict. -/
theorem sessions_ordered_iff (fseids : Set Fseid) :
    (Fseid.TotallyOrdered fseids ↔ Fseid.ConflictFree fseids) ∧
      (Sessions.ActsAsSet fseids ↔ Fseid.ConflictFree fseids) :=
  ⟨Fseid.totallyOrdered_iff, Sessions.actsAsSet_iff⟩

/-- An F-SEID with an IPv4 address only. -/
def ipv4Fseid : Fseid := { v4 := true, seid := 1, ipv4Address := 0x0A000001 }

/-- The same identifier with an IPv6 address only. -/
def ipv6Fseid : Fseid := { v6 := true, seid := 1, ipv6Address := { word3 := 1 } }

/-- Each of the two comes before the other, and an association loses the second. -/
theorem sessions_not_ordered :
    ipv4Fseid.less ipv6Fseid = true ∧ ipv6Fseid.less ipv4Fseid = true ∧
      ¬Fseid.TotallyOrdered Set.univ ∧ ¬Sessions.ActsAsSet Set.univ := by
  have conflict : Fseid.Conflict ipv4Fseid ipv6Fseid := ⟨rfl, rfl, rfl, .inl ⟨rfl, rfl⟩⟩
  refine ⟨by decide, by decide, ?_, ?_⟩
  · rw [Fseid.totallyOrdered_iff]
    exact fun free => free _ trivial _ trivial conflict
  · exact Sessions.not_actsAsSet trivial trivial conflict

end OpenairSpgwc.Sxab
