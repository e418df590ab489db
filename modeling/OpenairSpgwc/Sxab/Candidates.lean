import OpenairSpgwc.Sxab.Nodes

/-!
Contract: the UP nodes that `GetUpNodes` offers for a new PDN connection.

The bounds of a range and the address of a connection are kept as `s_addr`, in network
byte order, and compared as they are. On a little-endian host this is the order of the
octets read from the last one. The test of the range knows the PDN type IPv4 only.

Owns: when the nodes offered are those that the location, the access point name and the
range of the configuration ask for.
-/

namespace OpenairSpgwc.Sxab

namespace Config

variable {cfg : Config} {apn : String} {uli : Uli} {paa : Pgw.Paa} {pdn : Pgw.PdnCfg}
  {node : UpNodeCfg}

/-- The range of the entry contains the address, as numbers. -/
def InRange (pdn : Pgw.PdnCfg) (address : BitVec 32) : Prop :=
  pdn.uePoolRangeLow ≤ address ∧ address ≤ pdn.uePoolRangeHigh

instance {address : BitVec 32} : Decidable (InRange pdn address) :=
  inferInstanceAs (Decidable (_ ∧ _))

/-- The same with the octets read from the last one. -/
def InSwappedRange (pdn : Pgw.PdnCfg) (address : BitVec 32) : Prop :=
  sAddr pdn.uePoolRangeLow ≤ sAddr address ∧ sAddr address ≤ sAddr pdn.uePoolRangeHigh

instance {address : BitVec 32} : Decidable (InSwappedRange pdn address) :=
  inferInstanceAs (Decidable (_ ∧ _))

/-- An IPv4 address is assigned. -/
def HasIpv4 (paa : Pgw.Paa) : Prop :=
  (paa.pdnType = .ipv4 ∨ paa.pdnType = .ipv4v6) ∧ paa.ipv4Address ≠ 0

instance : Decidable (HasIpv4 paa) := inferInstanceAs (Decidable (_ ∧ _))

/-- The node is at the location, and its entry has the access point name. -/
def Placed (apn : String) (uli : Uli) (pdn : Pgw.PdnCfg) (node : UpNodeCfg) : Prop :=
  pdn.apn = apn ∧ uli.hasTai = true ∧ uli.tai1 = node.tai

instance : Decidable (Placed apn uli pdn node) := inferInstanceAs (Decidable (_ ∧ _))

/-- What a candidate has to be. -/
def Matching (apn : String) (uli : Uli) (paa : Pgw.Paa) (pdn : Pgw.PdnCfg) (node : UpNodeCfg) :
    Prop :=
  Placed apn uli pdn node ∧ (HasIpv4 paa → InRange pdn paa.ipv4Address)

instance : Decidable (Matching apn uli paa pdn node) := inferInstanceAs (Decidable (_ ∧ _))

/-- The entry of a node exists and matches. -/
def Offered (cfg : Config) (apn : String) (uli : Uli) (paa : Pgw.Paa) (node : UpNodeCfg) : Bool :=
  (cfg.pdns[node.pdnIndex]?).any fun pdn => Matching apn uli paa pdn node

/-- Both tests of the range of one entry have the same result. -/
def Agrees (pdn : Pgw.PdnCfg) (paa : Pgw.Paa) : Prop :=
  match paa.pdnType with
  | .ipv4 => paa.ipv4Address = 0 ∨
      (InSwappedRange pdn paa.ipv4Address ↔ InRange pdn paa.ipv4Address)
  | .ipv4v6 => (paa.ipv4Address = 0 ∧ paa.ipv6Address = 0) ∨
      (paa.ipv4Address ≠ 0 ∧ ¬InRange pdn paa.ipv4Address)
  | .ipv6 => paa.ipv6Address = 0
  | .nonIp => True
  | .unknown _ => True

instance : Decidable (Agrees pdn paa) := by
  unfold Agrees
  split <;> infer_instance

theorem suits_iff :
    suits apn uli paa pdn node = true ↔
      Placed apn uli pdn node ∧ (paa.isIpAssigned = true → isInPool pdn paa = true) := by
  unfold suits Placed Uli.isTai
  simp only [Bool.and_eq_true, Bool.or_eq_true, Bool.not_eq_true', decide_eq_true_eq]
  constructor
  · rintro ⟨range, name, tai⟩
    refine ⟨⟨name.symm, tai⟩, ?_⟩
    intro assigned
    exact range.resolve_left (by rw [assigned]; decide)
  · rintro ⟨⟨name, tai⟩, range⟩
    refine ⟨?_, name.symm, tai⟩
    cases assigned : paa.isIpAssigned with
    | false => exact .inl rfl
    | true => exact .inr (range assigned)

/-- The test that is made, and the one that is asked for. -/
theorem agrees_iff :
    Agrees pdn paa ↔
      ((paa.isIpAssigned = true → isInPool pdn paa = true) ↔
        (HasIpv4 paa → InRange pdn paa.ipv4Address)) := by
  cases kind : paa.pdnType with
  | ipv4 =>
      have pool : isInPool pdn paa = true ↔ InSwappedRange pdn paa.ipv4Address := by
        simp [isInPool, kind, InSwappedRange]
      simp only [Agrees, kind, Pgw.Paa.isIpAssigned, HasIpv4, pool, bne_iff_ne, true_or, true_and,
        ne_eq]
      tauto
  | ipv6 =>
      simp [Agrees, kind, Pgw.Paa.isIpAssigned, HasIpv4, isInPool]
  | ipv4v6 =>
      simp only [Agrees, kind, Pgw.Paa.isIpAssigned, HasIpv4, isInPool, Bool.or_eq_true,
        bne_iff_ne, or_true, true_and, ne_eq, Bool.false_eq_true]
      tauto
  | nonIp => simp [Agrees, kind, Pgw.Paa.isIpAssigned, HasIpv4]
  | unknown value => simp [Agrees, kind, Pgw.Paa.isIpAssigned, HasIpv4]

/-- One node is treated as asked for when it is not placed there or the tests agree. -/
theorem suits_iff_matching :
    (suits apn uli paa pdn node = true ↔ Matching apn uli paa pdn node) ↔
      (Placed apn uli pdn node → Agrees pdn paa) := by
  rw [suits_iff, Matching, agrees_iff]
  by_cases placed : Placed apn uli pdn node
  · simp only [placed, true_and, true_implies]
  · simp only [placed, false_and, false_implies]

/-- Two tests select the same of a list when they agree on its members. -/
theorem filter_eq_filter_iff {α : Type} {test other : α → Bool} {list : List α} :
    list.filter test = list.filter other ↔ ∀ a ∈ list, (test a = true ↔ other a = true) := by
  constructor
  · intro same a member
    have both : a ∈ list.filter test ↔ a ∈ list.filter other := by rw [same]
    simpa [member] using both
  · intro agree
    apply List.filter_congr
    intro a member
    exact Bool.eq_iff_iff.mpr (agree a member)

theorem getUpNodes_of_valid
    (valid : ∀ node ∈ cfg.nodes, node.pdnIndex < cfg.pdns.length) :
    cfg.getUpNodes apn uli paa =
      some (cfg.nodes.filter fun node =>
        (cfg.pdns[node.pdnIndex]?).any (suits apn uli paa · node)) := by
  rw [getUpNodes, if_pos]
  rw [List.all_eq_true]
  intro node member
  exact decide_eq_true (valid node member)

/-- `GetUpNodes` returns exactly the matching nodes, in order, when for every node at the
location with the access point name the octets compared from the last one give the same as
from the first, and the type of the address is one that the test knows. -/
theorem candidates_iff (cfg : Config) (apn : String) (uli : Uli) (paa : Pgw.Paa)
    (valid : ∀ node ∈ cfg.nodes, node.pdnIndex < cfg.pdns.length) :
    cfg.getUpNodes apn uli paa = some (cfg.nodes.filter (cfg.Offered apn uli paa)) ↔
      ∀ node ∈ cfg.nodes, ∀ pdn ∈ cfg.pdns[node.pdnIndex]?,
        Placed apn uli pdn node → Agrees pdn paa := by
  rw [getUpNodes_of_valid valid, Option.some.injEq, filter_eq_filter_iff]
  refine forall_congr' fun node => forall_congr' fun member => ?_
  obtain ⟨pdn, entry⟩ : ∃ pdn, cfg.pdns[node.pdnIndex]? = some pdn :=
    ⟨_, List.getElem?_eq_getElem (valid node member)⟩
  rw [Offered, entry, Option.any_some, Option.any_some, decide_eq_true_iff, suits_iff_matching]
  simp

/-- Two nodes at TAI 208.95.1 with ranges one behind the other, and one node elsewhere. -/
def threeNodes : Config where
  nodes := [{ id := "upf1", mcc := "208", mnc := "95", tac := 1 },
    { id := "upf2", mcc := "208", mnc := "95", tac := 1, pdnIndex := 1 },
    { id := "upf3", mcc := "208", mnc := "95", tac := 2 }]
  pdns := [{ apn := "apn1", uePoolRangeLow := 0x0A000002, uePoolRangeHigh := 0x0A0000FE },
    { apn := "apn1", uePoolRangeLow := 0x0A00010A, uePoolRangeHigh := 0x0A0001FE }]
  stringHash := fun _ => 0

/-- With 10.0.0.5 assigned only the node is offered whose range it is in. -/
theorem candidates_with_address :
    threeNodes.getUpNodes "apn1" { hasTai := true, tai1 := .fromItems "208" "95" 1 }
        { ipv4Address := 0x0A000005 } =
      some (threeNodes.nodes.filter (threeNodes.Offered "apn1"
        { hasTai := true, tai1 := .fromItems "208" "95" 1 } { ipv4Address := 0x0A000005 })) ∧
    (threeNodes.getUpNodes "apn1" { hasTai := true, tai1 := .fromItems "208" "95" 1 }
      { ipv4Address := 0x0A000005 }).map (·.map UpNodeCfg.id) = some ["upf1"] :=
  ⟨(candidates_iff threeNodes "apn1" { hasTai := true, tai1 := .fromItems "208" "95" 1 }
    { ipv4Address := 0x0A000005 } (by decide)).mpr (by decide), by decide⟩

/-- One node at TAI 208.95.1, with the range 10.0.0.2 to 10.0.1.1. -/
def twoSubnets : Config where
  nodes := [{ id := "upf1", mcc := "208", mnc := "95", tac := 1 }]
  pdns := [{ apn := "apn1", uePoolRangeLow := 0x0A000002, uePoolRangeHigh := 0x0A000101 }]
  stringHash := fun _ => 0

/-- With 10.0.0.5 assigned it is not offered: 5 is above the last octet of the upper bound. -/
theorem candidate_missing :
    ¬∀ (cfg : Config) (apn : String) (uli : Uli) (paa : Pgw.Paa),
      (∀ node ∈ cfg.nodes, node.pdnIndex < cfg.pdns.length) →
      cfg.getUpNodes apn uli paa = some (cfg.nodes.filter (cfg.Offered apn uli paa)) := by
  intro claimed
  have offered := claimed twoSubnets "apn1"
    { hasTai := true, tai1 := .fromItems "208" "95" 1 } { ipv4Address := 0x0A000005 } (by decide)
  exact absurd offered (by decide)

end Config

end OpenairSpgwc.Sxab
