import OpenairSpgwc.Foundation.Octets

/-!
Contract: protocol configuration options, `pgw_app::process_pco_request` with the
IPCP, DNS server and link MTU containers it answers.

Owns:
- the containers of a request and of a response, with their contents;
- `processPcoRequest`, which fails where an octet outside of the contents is read or
  an assertion does not hold;
- for which requests it returns, and that its response is then well formed.

The passes over the options of an IPCP container are bounded by an argument. A call
that returns does so under every larger bound.

Does not own: what the session management does with the identifiers, the encoding of
the containers.
-/

namespace OpenairSpgwc.Pgw.Pco

open Foundation

/-! ### Data -/

/-- `PCO_UNSPEC_MAXIMUM_PROTOCOL_ID_OR_CONTAINER_ID`. -/
def maximumProtocolIdOrContainerId : Nat := 30

/-- `PCO_PROTOCOL_IDENTIFIER_IPCP`. -/
def protocolIdentifierIpcp : BitVec 16 := 0x8021

/-- `PCO_CONTAINER_IDENTIFIER_DNS_SERVER_IPV4_ADDRESS`, also of its request. -/
def containerIdentifierDnsServerIpv4Address : BitVec 16 := 0x000D

/-- `PCO_CONTAINER_IDENTIFIER_IP_ADDRESS_ALLOCATION_VIA_NAS_SIGNALLING`. -/
def containerIdentifierIpAddressAllocationViaNasSignalling : BitVec 16 := 0x000A

/-- `PCO_CONTAINER_IDENTIFIER_IPV4_LINK_MTU`, also of its request. -/
def containerIdentifierIpv4LinkMtu : BitVec 16 := 0x0010

/-- `PCO_CONFIGURATION_PROTOCOL_PPP_FOR_USE_WITH_IP_PDP_TYPE_OR_IP_PDN_TYPE`. -/
def configurationProtocolPpp : BitVec 3 := 0

def ipcpOptionPrimaryDnsServerIpAddress : Octet := 0x81

def ipcpOptionSecondaryDnsServerIpAddress : Octet := 0x83

def ipcpCodeConfigureAck : Octet := 0x02

def ipcpCodeConfigureNack : Octet := 0x03

/-- `pco_protocol_or_container_id_t`. -/
structure ProtocolOrContainerId where
  protocolId : BitVec 16
  lengthOfProtocolIdContents : Octet := 0
  protocolIdContents : Octets := []
deriving DecidableEq

/-- The length field is the size of the contents. -/
def ProtocolOrContainerId.Sized (poc : ProtocolOrContainerId) : Prop :=
  poc.lengthOfProtocolIdContents.toNat = poc.protocolIdContents.length

/-- `protocol_configuration_options_t`, with the containers below
`num_protocol_or_container_id`. -/
structure ProtocolConfigurationOptions where
  ext : BitVec 1 := 0
  spare : BitVec 4 := 0
  configurationProtocol : BitVec 3 := 0
  protocolOrContainerIds : List ProtocolOrContainerId := []
deriving DecidableEq

structure ProtocolConfigurationOptions.WellFormed (pco : ProtocolConfigurationOptions) :
    Prop where
  bounded : pco.protocolOrContainerIds.length ≤ maximumProtocolIdOrContainerId
  sized : ∀ poc ∈ pco.protocolOrContainerIds, poc.Sized

/-- What the decoder delivers. -/
structure DecodedPco extends ProtocolConfigurationOptions where
  wellFormed : toProtocolConfigurationOptions.WellFormed
deriving DecidableEq

/-- No options, as the container of a message has them until it is given some. -/
def DecodedPco.absent : DecodedPco where
  protocolOrContainerIds := []
  wellFormed := ⟨Nat.zero_le _, fun _ member => absurd member List.not_mem_nil⟩

/-- What `pgw_cfg.spgw_app_` says on the options, zero where the file says nothing. An IPv4
address is the number that its octets spell in network order. -/
structure PcoConfig where
  defaultDnsv4 : BitVec 32 := 0
  defaultDnsSecv4 : BitVec 32 := 0
  defaultUeMtuIpv4 : BitVec 32 := 0
  forcePushPco : Bool := false

/-- `protocol_configuration_options_ids_t`. -/
structure PcoIds where
  piIpcp : Bool := false
  ciDnsServerIpv4AddressRequest : Bool := false
  ciIpAddressAllocationViaNasSignalling : Bool := false
  ciIpv4AddressAllocationViaDhcpv4 : Bool := false
  ciIpv4LinkMtuRequest : Bool := false

def inaddrAny : BitVec 32 := 0

def inaddrNone : BitVec 32 := BitVec.allOnes 32

/-- How a call is cut short. -/
inductive Abort where
  /-- `std::out_of_range`, raised by `at`. -/
  | outOfRange
  | assertion
deriving DecidableEq, Repr

abbrev Attempt (α : Type) := Except (Fault Abort) α

/-- `std::string::at`. -/
def octetAt (contents : Octets) (index : Nat) : Attempt Octet :=
  match contents[index]? with
  | some octet => .ok octet
  | none => .error (.thrown .outOfRange)

/-! ### Answers -/

/-- `pco_push_protocol_or_container_id`. The callers do not read its return value. -/
def pcoPushProtocolOrContainerId (pco : ProtocolConfigurationOptions)
    (poc : ProtocolOrContainerId) : Attempt ProtocolConfigurationOptions :=
  if maximumProtocolIdOrContainerId ≤ pco.protocolOrContainerIds.length then
    .ok pco
  else if poc.lengthOfProtocolIdContents.toNat = poc.protocolIdContents.length then
    .ok { pco with protocolOrContainerIds := pco.protocolOrContainerIds ++ [poc] }
  else
    .error (.thrown .assertion)

/-- `process_pco_dns_server_request`. -/
def processPcoDnsServerRequest (config : PcoConfig) (pcoResp : ProtocolConfigurationOptions) :
    Attempt ProtocolConfigurationOptions :=
  pcoPushProtocolOrContainerId pcoResp
    { protocolId := containerIdentifierDnsServerIpv4Address
      lengthOfProtocolIdContents := 4
      protocolIdContents := word 4 config.defaultDnsv4 }

/-- `process_pco_link_mtu_request`. -/
def processPcoLinkMtuRequest (config : PcoConfig) (pcoResp : ProtocolConfigurationOptions) :
    Attempt ProtocolConfigurationOptions :=
  pcoPushProtocolOrContainerId pcoResp
    { protocolId := containerIdentifierIpv4LinkMtu
      lengthOfProtocolIdContents := 2
      protocolIdContents := [(config.defaultUeMtuIpv4 >>> 8).setWidth 8,
        config.defaultUeMtuIpv4.setWidth 8] }

/-- The variables of `process_pco_request_ipcp` that its loop changes. -/
structure Ipcp where
  reqRemainingLength : Nat
  pcoInIndex : Nat
  outDnsPrimIpv4Addr : BitVec 32 := inaddrNone
  outDnsSecIpv4Addr : BitVec 32 := inaddrNone
  outCode : Octet := ipcpCodeConfigureAck
  outLength : BitVec 16 := 4
  contents : Octets := List.replicate 4 0

/-- An address put together by shifts. `char` has a sign. -/
def assembled (first second third fourth : Octet) : BitVec 32 :=
  first.signExtend 32 <<< 24 ||| second.signExtend 32 <<< 16 ||| third.signExtend 32 <<< 8 |||
    fourth.signExtend 32

/-- The address for a DNS server option, and whether the option is refused. -/
def answerDns (configured out : BitVec 32) (request : Octets) (index : Nat)
    (optionLength : Octet) : Attempt (BitVec 32 × Bool) :=
  if 6 ≤ optionLength.toNat then do
    let first ← octetAt request (index + 2)
    let second ← octetAt request (index + 3)
    let third ← octetAt request (index + 4)
    let fourth ← octetAt request (index + 5)
    let asked := assembled first second third fourth
    pure (if asked = inaddrAny then (configured, true)
      else if configured ≠ asked then (configured, true) else (asked, false))
  else
    pure (out, false)

/-- The answer to a DNS server option is written. -/
def Ipcp.append (ipcp : Ipcp) (option : Octet) (address : BitVec 32) (refused : Bool) : Ipcp :=
  { ipcp with
    outCode := if refused then ipcpCodeConfigureNack else ipcp.outCode
    outLength := ipcp.outLength + 6
    contents := ipcp.contents ++ option :: 6 :: word 4 address }

/-- The `switch` over the option at `pcoInIndex`. -/
def ipcpAnswer (config : PcoConfig) (request : Octets) (ipcp : Ipcp)
    (option optionLength : Octet) : Attempt Ipcp :=
  if option = ipcpOptionPrimaryDnsServerIpAddress then do
    let answer ← answerDns config.defaultDnsv4 ipcp.outDnsPrimIpv4Addr request
      ipcp.pcoInIndex optionLength
    pure { ipcp.append option answer.1 answer.2 with outDnsPrimIpv4Addr := answer.1 }
  else if option = ipcpOptionSecondaryDnsServerIpAddress then do
    let answer ← answerDns config.defaultDnsSecv4 ipcp.outDnsSecIpv4Addr request
      ipcp.pcoInIndex optionLength
    pure { ipcp.append option answer.1 answer.2 with outDnsSecIpv4Addr := answer.1 }
  else
    pure ipcp

/-- One pass of the loop of `process_pco_request_ipcp`. -/
def ipcpOption (config : PcoConfig) (request : Octets) (ipcp : Ipcp) : Attempt Ipcp := do
  let option ← octetAt request ipcp.pcoInIndex
  let optionLength ← octetAt request (ipcp.pcoInIndex + 1)
  let answered ← ipcpAnswer config request ipcp option optionLength
  pure { answered with
    -- `size_t`: an option longer than what is left wraps around
    reqRemainingLength := (ipcp.reqRemainingLength + 2 ^ 64 - optionLength.toNat) % 2 ^ 64
    pcoInIndex := ipcp.pcoInIndex + optionLength.toNat }

/-- The loop of `process_pco_request_ipcp`. -/
def ipcpOptions (config : PcoConfig) (request : Octets) : Nat → Ipcp → Attempt Ipcp
  | 0, _ => .error .exhausted
  | fuel + 1, ipcp =>
      if 2 ≤ ipcp.reqRemainingLength then do
        let next ← ipcpOption config request ipcp
        ipcpOptions config request fuel next
      else
        pure ipcp

/-- The answer to an IPCP container when the loop is left. -/
def Ipcp.container (ipcp : Ipcp) (poc : ProtocolOrContainerId) (identifier : Octet) :
    ProtocolOrContainerId where
  protocolId := poc.protocolId
  lengthOfProtocolIdContents := ipcp.outLength.setWidth 8
  protocolIdContents := [ipcp.outCode, identifier, (ipcp.outLength >>> 8).setWidth 8,
    ipcp.outLength.setWidth 8] ++ ipcp.contents.drop 4

/-- `process_pco_request_ipcp`. -/
def processPcoRequestIpcp (fuel : Nat) (config : PcoConfig)
    (pcoResp : ProtocolConfigurationOptions) (poc : ProtocolOrContainerId) :
    Attempt ProtocolConfigurationOptions := do
  let _reqCode ← octetAt poc.protocolIdContents 0
  let reqIdentifier ← octetAt poc.protocolIdContents 1
  let _reqLengthHigh ← octetAt poc.protocolIdContents 2
  let _reqLengthLow ← octetAt poc.protocolIdContents 3
  let ipcp ← ipcpOptions config poc.protocolIdContents fuel
    { reqRemainingLength := (poc.lengthOfProtocolIdContents.toNat + 2 ^ 64 - 4) % 2 ^ 64
      pcoInIndex := 4 }
  pcoPushProtocolOrContainerId pcoResp (ipcp.container poc reqIdentifier)

/-- What `process_pco_request` does with one container of the request. -/
def processContainer (fuel : Nat) (config : PcoConfig)
    (answer : ProtocolConfigurationOptions × PcoIds) (poc : ProtocolOrContainerId) :
    Attempt (ProtocolConfigurationOptions × PcoIds) :=
  if poc.protocolId = protocolIdentifierIpcp then do
    let pcoResp ← processPcoRequestIpcp fuel config answer.1 poc
    pure (pcoResp, { answer.2 with piIpcp := true })
  else if poc.protocolId = containerIdentifierDnsServerIpv4Address then do
    let pcoResp ← processPcoDnsServerRequest config answer.1
    pure (pcoResp, { answer.2 with ciDnsServerIpv4AddressRequest := true })
  else if poc.protocolId = containerIdentifierIpAddressAllocationViaNasSignalling then
    pure (answer.1, { answer.2 with ciIpAddressAllocationViaNasSignalling := true })
  else if poc.protocolId = containerIdentifierIpv4LinkMtu then do
    let pcoResp ← processPcoLinkMtuRequest config answer.1
    pure (pcoResp, { answer.2 with ciIpv4LinkMtuRequest := true })
  else
    pure answer

/-- `push` is called unless its container was asked for. -/
def unlessAsked (asked : Bool)
    (push : ProtocolConfigurationOptions → Attempt ProtocolConfigurationOptions)
    (pcoResp : ProtocolConfigurationOptions) : Attempt ProtocolConfigurationOptions :=
  if asked then pure pcoResp else push pcoResp

/-- The options that `force_push_pco` adds. -/
def forcePush (config : PcoConfig) (answer : ProtocolConfigurationOptions × PcoIds) :
    Attempt (ProtocolConfigurationOptions × PcoIds) :=
  if config.forcePushPco then do
    let withDns ← unlessAsked answer.2.ciDnsServerIpv4AddressRequest
      (processPcoDnsServerRequest config) answer.1
    let withMtu ← unlessAsked answer.2.ciIpv4LinkMtuRequest
      (processPcoLinkMtuRequest config) withDns
    pure (withMtu, { answer.2 with ciIpAddressAllocationViaNasSignalling := true })
  else
    pure answer

/-- The response before the first container is looked at. -/
def initialPcoResp (pcoReq pcoResp : ProtocolConfigurationOptions) :
    ProtocolConfigurationOptions :=
  if pcoReq.configurationProtocol = configurationProtocolPpp then
    { pcoResp with
      ext := 1
      spare := 0
      protocolOrContainerIds := []
      configurationProtocol := pcoReq.configurationProtocol }
  else
    pcoResp

/-- `process_pco_request`. -/
def processPcoRequest (fuel : Nat) (config : PcoConfig)
    (pcoReq pcoResp : ProtocolConfigurationOptions) (pcoIds : PcoIds) :
    Attempt (ProtocolConfigurationOptions × PcoIds) := do
  let answer ← pcoReq.protocolOrContainerIds.foldlM (processContainer fuel config)
    (initialPcoResp pcoReq pcoResp, pcoIds)
  forcePush config answer

/-! ### Reading and pushing -/

theorem octetAt_of_getElem? {contents : Octets} {index : Nat} {octet : Octet}
    (found : contents[index]? = some octet) : octetAt contents index = .ok octet := by
  rw [octetAt, found]

theorem getElem?_of_octetAt {contents : Octets} {index : Nat} {octet : Octet}
    (read : octetAt contents index = .ok octet) : contents[index]? = some octet := by
  unfold octetAt at read
  cases found : contents[index]? with
  | none => rw [found] at read; cases read
  | some other => rw [found] at read; cases read; rfl

theorem octetAt_of_lt (contents : Octets) (index : Nat) (inside : index < contents.length) :
    ∃ octet, octetAt contents index = .ok octet :=
  ⟨contents[index], octetAt_of_getElem? (List.getElem?_eq_getElem inside)⟩

theorem lt_of_octetAt {contents : Octets} {index : Nat} {octet : Octet}
    (read : octetAt contents index = .ok octet) : index < contents.length :=
  (List.getElem?_eq_some_iff.mp (getElem?_of_octetAt read)).1

theorem bind_eq_ok {α β : Type} {first : Attempt α} {next : α → Attempt β} {result : β} :
    first >>= next = .ok result ↔ ∃ value, first = .ok value ∧ next value = .ok result := by
  cases first with
  | error reason =>
      constructor
      · intro ran
        cases ran
      · rintro ⟨value, ran, _⟩
        cases ran
  | ok value =>
      constructor
      · intro ran
        exact ⟨value, rfl, ran⟩
      · rintro ⟨_, ran, later⟩
        cases ran
        exact later

section Push

variable {pco next : ProtocolConfigurationOptions} {poc : ProtocolOrContainerId}

/-- A push keeps the response well formed, whatever it is asked to push. -/
theorem wellFormed_of_push (pushed : pcoPushProtocolOrContainerId pco poc = .ok next)
    (wellFormed : pco.WellFormed) :
    next.WellFormed ∧
      next.protocolOrContainerIds.length ≤ pco.protocolOrContainerIds.length + 1 := by
  unfold pcoPushProtocolOrContainerId at pushed
  by_cases full : maximumProtocolIdOrContainerId ≤ pco.protocolOrContainerIds.length
  · rw [if_pos full] at pushed
    cases pushed
    exact ⟨wellFormed, Nat.le_succ _⟩
  · rw [if_neg full] at pushed
    by_cases sized : poc.lengthOfProtocolIdContents.toNat = poc.protocolIdContents.length
    · rw [if_pos sized] at pushed
      cases pushed
      have length : (pco.protocolOrContainerIds ++ [poc]).length =
          pco.protocolOrContainerIds.length + 1 := by
        rw [List.length_append, List.length_singleton]
      constructor
      · constructor
        · show (pco.protocolOrContainerIds ++ [poc]).length ≤ _
          omega
        · intro other member
          cases List.mem_append.mp member with
          | inl earlier => exact wellFormed.sized other earlier
          | inr last =>
              cases List.mem_singleton.mp last
              exact sized
      · exact length.le
    · rw [if_neg sized] at pushed
      cases pushed

theorem push_of_sized (pco : ProtocolConfigurationOptions) (sized : poc.Sized) :
    ∃ next, pcoPushProtocolOrContainerId pco poc = .ok next := by
  unfold pcoPushProtocolOrContainerId
  have equal : poc.lengthOfProtocolIdContents.toNat = poc.protocolIdContents.length := sized
  by_cases full : maximumProtocolIdOrContainerId ≤ pco.protocolOrContainerIds.length
  · exact ⟨pco, by rw [if_pos full]⟩
  · exact ⟨_, by rw [if_neg full, if_pos equal]⟩

theorem sized_of_push (room : pco.protocolOrContainerIds.length < maximumProtocolIdOrContainerId)
    (pushed : pcoPushProtocolOrContainerId pco poc = .ok next) : poc.Sized := by
  unfold pcoPushProtocolOrContainerId at pushed
  rw [if_neg (Nat.not_le.mpr room)] at pushed
  by_cases sized : poc.lengthOfProtocolIdContents.toNat = poc.protocolIdContents.length
  · exact sized
  · rw [if_neg sized] at pushed
    cases pushed

theorem dnsServerRequest_sized (config : PcoConfig) (pco : ProtocolConfigurationOptions) :
    ∃ next, processPcoDnsServerRequest config pco = .ok next :=
  push_of_sized pco (length_word 4 config.defaultDnsv4).symm

theorem linkMtuRequest_sized (config : PcoConfig) (pco : ProtocolConfigurationOptions) :
    ∃ next, processPcoLinkMtuRequest config pco = .ok next :=
  push_of_sized pco rfl

end Push

/-! ### The options of an IPCP container -/

/-- The options that the answer takes up. -/
def answeredOptions (option : Octet) : Nat :=
  if option = ipcpOptionPrimaryDnsServerIpAddress then 1
  else if option = ipcpOptionSecondaryDnsServerIpAddress then 1
  else 0

/-- Octets that are options one after the other, up to one octet that is left over,
with the number of those that the answer takes up. The length of an option counts its
first two octets, though it may be smaller than that here. -/
inductive OptionList : Octets → Nat → Prop where
  | leftOver {octets : Octets} (short : octets.length < 2) : OptionList octets 0
  | option {octets : Octets} {option optionLength : Octet} {count : Nat}
      (kind : octets[0]? = some option) (size : octets[1]? = some optionLength)
      (advances : 1 ≤ optionLength.toNat) (within : optionLength.toNat ≤ octets.length)
      (others : OptionList (octets.drop optionLength.toNat) count) :
      OptionList octets (answeredOptions option + count)

/-- An IPCP packet whose answer fits the length field of a container. -/
def Negotiable (contents : Octets) : Prop :=
  4 ≤ contents.length ∧ ∃ count, OptionList (contents.drop 4) count ∧ 4 + 6 * count < 2 ^ 8

section Options

variable {config : PcoConfig} {request : Octets} {ipcp next last : Ipcp}

/-- The loop stands at `pcoInIndex` and has counted what it has written. -/
structure Ipcp.Tracks (ipcp : Ipcp) (request : Octets) : Prop where
  index : ipcp.pcoInIndex + ipcp.reqRemainingLength = request.length
  length : ipcp.outLength.toNat = ipcp.contents.length
  bound : ipcp.contents.length + 6 * ipcp.reqRemainingLength < 2 ^ 16

theorem answerDns_of_within (configured out : BitVec 32) {index : Nat} {optionLength : Octet}
    (within : index + optionLength.toNat ≤ request.length) :
    ∃ answer, answerDns configured out request index optionLength = .ok answer := by
  unfold answerDns
  by_cases complete : 6 ≤ optionLength.toNat
  · obtain ⟨first, readFirst⟩ := octetAt_of_lt request (index + 2) (by omega)
    obtain ⟨second, readSecond⟩ := octetAt_of_lt request (index + 3) (by omega)
    obtain ⟨third, readThird⟩ := octetAt_of_lt request (index + 4) (by omega)
    obtain ⟨fourth, readFourth⟩ := octetAt_of_lt request (index + 5) (by omega)
    rw [if_pos complete, readFirst, readSecond, readThird, readFourth]
    exact ⟨_, rfl⟩
  · rw [if_neg complete]
    exact ⟨_, rfl⟩

theorem ipcpAnswer_ok {option optionLength : Octet}
    (ran : ipcpAnswer config request ipcp option optionLength = .ok next) :
    next.contents.length = ipcp.contents.length + 6 * answeredOptions option ∧
      next.outLength = ipcp.outLength + BitVec.ofNat 16 (6 * answeredOptions option) := by
  unfold ipcpAnswer at ran
  unfold answeredOptions
  by_cases primary : option = ipcpOptionPrimaryDnsServerIpAddress
  · rw [if_pos primary] at ran ⊢
    obtain ⟨answer, _, ran⟩ := bind_eq_ok.mp ran
    cases ran
    simp [Ipcp.append]
  · rw [if_neg primary] at ran ⊢
    by_cases secondary : option = ipcpOptionSecondaryDnsServerIpAddress
    · rw [if_pos secondary] at ran ⊢
      obtain ⟨answer, _, ran⟩ := bind_eq_ok.mp ran
      cases ran
      simp [Ipcp.append]
    · rw [if_neg secondary] at ran ⊢
      cases ran
      simp

/-- What one pass does to the variables that steer the loop. -/
theorem ipcpOption_ok (ran : ipcpOption config request ipcp = .ok next) :
    ∃ option optionLength, octetAt request ipcp.pcoInIndex = .ok option ∧
      octetAt request (ipcp.pcoInIndex + 1) = .ok optionLength ∧
      next.pcoInIndex = ipcp.pcoInIndex + optionLength.toNat ∧
      next.reqRemainingLength =
        (ipcp.reqRemainingLength + 2 ^ 64 - optionLength.toNat) % 2 ^ 64 ∧
      next.contents.length = ipcp.contents.length + 6 * answeredOptions option ∧
      next.outLength = ipcp.outLength + BitVec.ofNat 16 (6 * answeredOptions option) := by
  unfold ipcpOption at ran
  obtain ⟨option, readOption, ran⟩ := bind_eq_ok.mp ran
  obtain ⟨optionLength, readLength, ran⟩ := bind_eq_ok.mp ran
  obtain ⟨answered, answers, ran⟩ := bind_eq_ok.mp ran
  have written := ipcpAnswer_ok answers
  cases ran
  exact ⟨option, optionLength, readOption, readLength, rfl, rfl, written⟩

theorem ipcpAnswer_of_within (config : PcoConfig) (option : Octet) {optionLength : Octet}
    (within : ipcp.pcoInIndex + optionLength.toNat ≤ request.length) :
    ∃ next, ipcpAnswer config request ipcp option optionLength = .ok next := by
  unfold ipcpAnswer
  by_cases primary : option = ipcpOptionPrimaryDnsServerIpAddress
  · obtain ⟨answer, answers⟩ := answerDns_of_within config.defaultDnsv4
      ipcp.outDnsPrimIpv4Addr within
    rw [if_pos primary, answers]
    exact ⟨_, rfl⟩
  · rw [if_neg primary]
    by_cases secondary : option = ipcpOptionSecondaryDnsServerIpAddress
    · obtain ⟨answer, answers⟩ := answerDns_of_within config.defaultDnsSecv4
        ipcp.outDnsSecIpv4Addr within
      rw [if_pos secondary, answers]
      exact ⟨_, rfl⟩
    · rw [if_neg secondary]
      exact ⟨_, rfl⟩

theorem ipcpOption_of_within (config : PcoConfig) {option optionLength : Octet}
    (readOption : octetAt request ipcp.pcoInIndex = .ok option)
    (readLength : octetAt request (ipcp.pcoInIndex + 1) = .ok optionLength)
    (within : ipcp.pcoInIndex + optionLength.toNat ≤ request.length) :
    ∃ next, ipcpOption config request ipcp = .ok next := by
  obtain ⟨answered, answers⟩ := ipcpAnswer_of_within config option within
  unfold ipcpOption
  rw [readOption, readLength]
  show ∃ next, (ipcpAnswer config request ipcp option optionLength >>= _) = .ok next
  rw [answers]
  exact ⟨_, rfl⟩

/-- A pass over an option that lies within what is left. -/
theorem Ipcp.Tracks.pass {option optionLength : Octet} (tracks : ipcp.Tracks request)
    (readOption : octetAt request ipcp.pcoInIndex = .ok option)
    (readLength : octetAt request (ipcp.pcoInIndex + 1) = .ok optionLength)
    (advances : 1 ≤ optionLength.toNat)
    (within : optionLength.toNat ≤ ipcp.reqRemainingLength)
    (ran : ipcpOption config request ipcp = .ok next) :
    next.Tracks request ∧ next.pcoInIndex = ipcp.pcoInIndex + optionLength.toNat ∧
      next.reqRemainingLength < ipcp.reqRemainingLength ∧
      next.contents.length = ipcp.contents.length + 6 * answeredOptions option := by
  obtain ⟨option', optionLength', readOption', readLength', index, remaining, written, counted⟩ :=
    ipcpOption_ok ran
  rw [readOption] at readOption'
  rw [readLength] at readLength'
  cases readOption'
  cases readLength'
  have place := tracks.index
  have length := tracks.length
  have bound := tracks.bound
  have atMost : answeredOptions option ≤ 1 := by
    unfold answeredOptions
    split_ifs <;> omega
  have left : next.reqRemainingLength = ipcp.reqRemainingLength - optionLength.toNat := by
    rw [remaining]
    omega
  have total : next.outLength.toNat = next.contents.length := by
    rw [counted, written, BitVec.toNat_add, BitVec.toNat_ofNat, length]
    omega
  refine ⟨⟨?_, total, ?_⟩, index, ?_, written⟩
  · omega
  · omega
  · omega

/-- An option of length 0 is read again and again. -/
theorem ipcpOptions_stalled (waiting : 2 ≤ ipcp.reqRemainingLength)
    (fits : ipcp.reqRemainingLength < 2 ^ 64)
    (stalled : octetAt request (ipcp.pcoInIndex + 1) = .ok 0) (fuel : Nat) :
    ipcpOptions config request fuel ipcp ≠ .ok last := by
  induction fuel generalizing ipcp with
  | zero =>
      intro ran
      cases ran
  | succ fuel inductionHypothesis =>
      intro ran
      rw [ipcpOptions, if_pos waiting] at ran
      obtain ⟨next, pass, ran⟩ := bind_eq_ok.mp ran
      obtain ⟨option, optionLength, _, readLength, index, remaining, _, _⟩ := ipcpOption_ok pass
      rw [stalled] at readLength
      cases readLength
      have same : next.reqRemainingLength = ipcp.reqRemainingLength := by
        rw [remaining, show (0 : Octet).toNat = 0 from rfl]
        omega
      have place : next.pcoInIndex = ipcp.pcoInIndex := index
      apply inductionHypothesis _ _ _ ran
      · rw [same]
        exact waiting
      · rw [same]
        exact fits
      · rw [place]
        exact stalled

/-- The loop does not return from a place outside of the contents. -/
theorem ipcpOptions_outside (waiting : 2 ≤ ipcp.reqRemainingLength)
    (outside : request.length ≤ ipcp.pcoInIndex) (fuel : Nat) :
    ipcpOptions config request fuel ipcp ≠ .ok last := by
  intro ran
  cases fuel with
  | zero => cases ran
  | succ fuel =>
      rw [ipcpOptions, if_pos waiting] at ran
      obtain ⟨next, pass, _⟩ := bind_eq_ok.mp ran
      obtain ⟨option, _, readOption, _⟩ := ipcpOption_ok pass
      have inside := lt_of_octetAt readOption
      omega

/-- Where the loop returns, it has gone through options. -/
theorem optionList_of_ok (tracks : ipcp.Tracks request) {fuel : Nat}
    (ran : ipcpOptions config request fuel ipcp = .ok last) :
    ∃ count, OptionList (request.drop ipcp.pcoInIndex) count ∧
      last.contents.length = ipcp.contents.length + 6 * count ∧
      last.outLength.toNat = last.contents.length := by
  induction fuel generalizing ipcp with
  | zero => cases ran
  | succ fuel inductionHypothesis =>
      have place := tracks.index
      have bound := tracks.bound
      rw [ipcpOptions] at ran
      by_cases waiting : 2 ≤ ipcp.reqRemainingLength
      · rw [if_pos waiting] at ran
        obtain ⟨next, pass, later⟩ := bind_eq_ok.mp ran
        obtain ⟨option, optionLength, readOption, readLength, index, remaining, _, _⟩ :=
          ipcpOption_ok pass
        have advances : 1 ≤ optionLength.toNat := by
          by_contra stays
          have zero : optionLength = 0 := BitVec.eq_of_toNat_eq (Nat.lt_one_iff.mp
            (Nat.not_le.mp stays))
          rw [zero] at readLength
          have again : ipcpOptions config request (fuel + 1) ipcp = .ok last := by
            rw [ipcpOptions, if_pos waiting]
            exact ran
          exact ipcpOptions_stalled waiting (by omega) readLength (fuel + 1) again
        have within : optionLength.toNat ≤ ipcp.reqRemainingLength := by
          by_contra beyond
          have octet := optionLength.isLt
          exact ipcpOptions_outside (by omega) (by omega) fuel later
        obtain ⟨tracksNext, _, _, written⟩ :=
          tracks.pass readOption readLength advances within pass
        obtain ⟨count, others, total, agrees⟩ := inductionHypothesis tracksNext later
        refine ⟨answeredOptions option + count, ?_, by omega, agrees⟩
        rw [index, ← List.drop_drop] at others
        apply OptionList.option _ _ advances _ others
        · rw [List.getElem?_drop, Nat.add_zero]
          exact getElem?_of_octetAt readOption
        · rw [List.getElem?_drop]
          exact getElem?_of_octetAt readLength
        · rw [List.length_drop]
          omega
      · rw [if_neg waiting] at ran
        cases ran
        refine ⟨0, .leftOver ?_, by omega, tracks.length⟩
        rw [List.length_drop]
        omega

/-- Options are gone through. -/
theorem ok_of_optionList (config : PcoConfig) {count fuel : Nat} (tracks : ipcp.Tracks request)
    (options : OptionList (request.drop ipcp.pcoInIndex) count)
    (enough : ipcp.reqRemainingLength < fuel) :
    ∃ last, ipcpOptions config request fuel ipcp = .ok last ∧
      last.contents.length = ipcp.contents.length + 6 * count ∧
      last.outLength.toNat = last.contents.length := by
  have place := tracks.index
  have left : (request.drop ipcp.pcoInIndex).length = ipcp.reqRemainingLength := by
    rw [List.length_drop]
    omega
  induction fuel generalizing ipcp count with
  | zero => exact absurd enough (Nat.not_lt_zero _)
  | succ fuel inductionHypothesis =>
      rw [ipcpOptions]
      cases options with
      | leftOver short =>
          rw [if_neg (by omega)]
          exact ⟨ipcp, rfl, by omega, tracks.length⟩
      | @option _ option optionLength count kind size advances within others =>
          have waiting : 2 ≤ ipcp.reqRemainingLength := by
            have inside := (List.getElem?_eq_some_iff.mp size).1
            omega
          rw [List.getElem?_drop] at kind size
          have readOption := octetAt_of_getElem? kind
          have readLength := octetAt_of_getElem? size
          obtain ⟨next, pass⟩ := ipcpOption_of_within config readOption readLength
            (by omega)
          obtain ⟨tracksNext, index, less, written⟩ :=
            tracks.pass readOption readLength advances (by omega) pass
          rw [List.drop_drop, ← index] at others
          have placeNext := tracksNext.index
          obtain ⟨last, ran, total, agrees⟩ := inductionHypothesis tracksNext others
            (by omega) placeNext (by rw [List.length_drop]; omega)
          refine ⟨last, ?_, by omega, agrees⟩
          rw [if_pos waiting, pass]
          exact ran

end Options

/-! ### Containers -/

section Containers

variable {config : PcoConfig} {poc : ProtocolOrContainerId} {fuel : Nat}
  {pcoResp pcoNext : ProtocolConfigurationOptions}
  {answer next : ProtocolConfigurationOptions × PcoIds}

/-- The loop variables before the first option. -/
def firstPass (poc : ProtocolOrContainerId) : Ipcp where
  reqRemainingLength := (poc.lengthOfProtocolIdContents.toNat + 2 ^ 64 - 4) % 2 ^ 64
  pcoInIndex := 4

theorem firstPass_tracks (sized : poc.Sized) (long : 4 ≤ poc.protocolIdContents.length) :
    (firstPass poc).Tracks poc.protocolIdContents := by
  have octet := poc.lengthOfProtocolIdContents.isLt
  have equal : poc.lengthOfProtocolIdContents.toNat = poc.protocolIdContents.length := sized
  constructor
  · show 4 + (poc.lengthOfProtocolIdContents.toNat + 2 ^ 64 - 4) % 2 ^ 64 = _
    omega
  · rfl
  · show 4 + 6 * ((poc.lengthOfProtocolIdContents.toNat + 2 ^ 64 - 4) % 2 ^ 64) < _
    omega

theorem length_container (ipcp : Ipcp) (identifier : Octet) (long : 4 ≤ ipcp.contents.length) :
    (ipcp.container poc identifier).protocolIdContents.length = ipcp.contents.length := by
  rw [Ipcp.container, List.length_append, List.length_drop]
  simp only [List.length_cons, List.length_nil]
  omega

/-- The length field of the answer holds the number of its octets where these are fewer
than 256. -/
theorem container_sized_iff {ipcp : Ipcp} (identifier : Octet)
    (long : 4 ≤ ipcp.contents.length) (counted : ipcp.outLength.toNat = ipcp.contents.length) :
    (ipcp.container poc identifier).Sized ↔ ipcp.contents.length < 2 ^ 8 := by
  rw [ProtocolOrContainerId.Sized, length_container ipcp identifier long]
  show (ipcp.outLength.setWidth 8).toNat = _ ↔ _
  rw [BitVec.toNat_setWidth, counted]
  omega

/-- Which IPCP containers are answered. -/
theorem ipcp_answered_iff (config : PcoConfig) (sized : poc.Sized)
    (room : pcoResp.protocolOrContainerIds.length < maximumProtocolIdOrContainerId)
    (enough : 2 ^ 8 ≤ fuel) :
    (∃ pcoNext, processPcoRequestIpcp fuel config pcoResp poc = .ok pcoNext) ↔
      Negotiable poc.protocolIdContents := by
  have equal : poc.lengthOfProtocolIdContents.toNat = poc.protocolIdContents.length := sized
  have octet := poc.lengthOfProtocolIdContents.isLt
  constructor
  · rintro ⟨pcoNext, ran⟩
    unfold processPcoRequestIpcp at ran
    obtain ⟨_, _, ran⟩ := bind_eq_ok.mp ran
    obtain ⟨identifier, _, ran⟩ := bind_eq_ok.mp ran
    obtain ⟨_, _, ran⟩ := bind_eq_ok.mp ran
    obtain ⟨_, fourth, ran⟩ := bind_eq_ok.mp ran
    obtain ⟨last, passes, pushed⟩ := bind_eq_ok.mp ran
    have long : 4 ≤ poc.protocolIdContents.length := lt_of_octetAt fourth
    obtain ⟨count, options, total, counted⟩ := optionList_of_ok (firstPass_tracks sized long) passes
    have written : last.contents.length = 4 + 6 * count := total
    have short : last.contents.length < 2 ^ 8 :=
      (container_sized_iff identifier (by omega) counted).mp (sized_of_push room pushed)
    exact ⟨long, count, options, by omega⟩
  · rintro ⟨long, count, options, short⟩
    obtain ⟨code, first⟩ := octetAt_of_lt poc.protocolIdContents 0 (by omega)
    obtain ⟨identifier, second⟩ := octetAt_of_lt poc.protocolIdContents 1 (by omega)
    obtain ⟨high, third⟩ := octetAt_of_lt poc.protocolIdContents 2 (by omega)
    obtain ⟨low, fourth⟩ := octetAt_of_lt poc.protocolIdContents 3 (by omega)
    have tracks := firstPass_tracks sized long
    have remaining : (firstPass poc).reqRemainingLength < fuel := by
      have place : 4 + (firstPass poc).reqRemainingLength = _ := tracks.index
      omega
    obtain ⟨last, passes, total, counted⟩ := ok_of_optionList config tracks options remaining
    have written : last.contents.length = 4 + 6 * count := total
    have answerSized : (last.container poc identifier).Sized :=
      (container_sized_iff identifier (by omega) counted).mpr (by omega)
    obtain ⟨pcoNext, pushed⟩ := push_of_sized pcoResp answerSized
    refine ⟨pcoNext, ?_⟩
    unfold processPcoRequestIpcp
    rw [first, second, third, fourth]
    show (ipcpOptions config poc.protocolIdContents fuel (firstPass poc) >>= _) = _
    rw [passes]
    exact pushed

theorem wellFormed_of_ipcp (ran : processPcoRequestIpcp fuel config pcoResp poc = .ok pcoNext)
    (wellFormed : pcoResp.WellFormed) :
    pcoNext.WellFormed ∧
      pcoNext.protocolOrContainerIds.length ≤ pcoResp.protocolOrContainerIds.length + 1 := by
  unfold processPcoRequestIpcp at ran
  obtain ⟨_, _, ran⟩ := bind_eq_ok.mp ran
  obtain ⟨_, _, ran⟩ := bind_eq_ok.mp ran
  obtain ⟨_, _, ran⟩ := bind_eq_ok.mp ran
  obtain ⟨_, _, ran⟩ := bind_eq_ok.mp ran
  obtain ⟨_, _, pushed⟩ := bind_eq_ok.mp ran
  exact wellFormed_of_push pushed wellFormed

/-- One container keeps the response well formed. -/
theorem wellFormed_of_container (ran : processContainer fuel config answer poc = .ok next)
    (wellFormed : answer.1.WellFormed) :
    next.1.WellFormed ∧
      next.1.protocolOrContainerIds.length ≤ answer.1.protocolOrContainerIds.length + 1 := by
  unfold processContainer at ran
  by_cases isIpcp : poc.protocolId = protocolIdentifierIpcp
  · rw [if_pos isIpcp] at ran
    obtain ⟨_, answered, ran⟩ := bind_eq_ok.mp ran
    cases ran
    exact wellFormed_of_ipcp answered wellFormed
  · rw [if_neg isIpcp] at ran
    by_cases isDns : poc.protocolId = containerIdentifierDnsServerIpv4Address
    · rw [if_pos isDns] at ran
      obtain ⟨_, pushed, ran⟩ := bind_eq_ok.mp ran
      cases ran
      exact wellFormed_of_push pushed wellFormed
    · rw [if_neg isDns] at ran
      by_cases isNas : poc.protocolId = containerIdentifierIpAddressAllocationViaNasSignalling
      · rw [if_pos isNas] at ran
        cases ran
        exact ⟨wellFormed, Nat.le_succ _⟩
      · rw [if_neg isNas] at ran
        by_cases isMtu : poc.protocolId = containerIdentifierIpv4LinkMtu
        · rw [if_pos isMtu] at ran
          obtain ⟨_, pushed, ran⟩ := bind_eq_ok.mp ran
          cases ran
          exact wellFormed_of_push pushed wellFormed
        · rw [if_neg isMtu] at ran
          cases ran
          exact ⟨wellFormed, Nat.le_succ _⟩

theorem container_processed_iff (config : PcoConfig)
    (answer : ProtocolConfigurationOptions × PcoIds) (sized : poc.Sized)
    (room : answer.1.protocolOrContainerIds.length < maximumProtocolIdOrContainerId)
    (enough : 2 ^ 8 ≤ fuel) :
    (∃ next, processContainer fuel config answer poc = .ok next) ↔
      (poc.protocolId = protocolIdentifierIpcp → Negotiable poc.protocolIdContents) := by
  unfold processContainer
  by_cases isIpcp : poc.protocolId = protocolIdentifierIpcp
  · rw [if_pos isIpcp, ← ipcp_answered_iff config sized room enough]
    constructor
    · rintro ⟨next, ran⟩ _
      obtain ⟨pcoNext, answered, _⟩ := bind_eq_ok.mp ran
      exact ⟨pcoNext, answered⟩
    · intro answered
      obtain ⟨pcoNext, answered⟩ := answered isIpcp
      rw [answered]
      exact ⟨_, rfl⟩
  · rw [if_neg isIpcp]
    apply iff_of_true _ (absurd · isIpcp)
    by_cases isDns : poc.protocolId = containerIdentifierDnsServerIpv4Address
    · obtain ⟨_, pushed⟩ := dnsServerRequest_sized config answer.1
      rw [if_pos isDns, pushed]
      exact ⟨_, rfl⟩
    · rw [if_neg isDns]
      by_cases isNas : poc.protocolId = containerIdentifierIpAddressAllocationViaNasSignalling
      · rw [if_pos isNas]
        exact ⟨_, rfl⟩
      · rw [if_neg isNas]
        by_cases isMtu : poc.protocolId = containerIdentifierIpv4LinkMtu
        · obtain ⟨_, pushed⟩ := linkMtuRequest_sized config answer.1
          rw [if_pos isMtu, pushed]
          exact ⟨_, rfl⟩
        · rw [if_neg isMtu]
          exact ⟨_, rfl⟩

/-- The containers one after the other. -/
theorem containers_processed_iff (config : PcoConfig)
    (answer : ProtocolConfigurationOptions × PcoIds) {pocs : List ProtocolOrContainerId}
    (sized : ∀ poc ∈ pocs, poc.Sized) (wellFormed : answer.1.WellFormed)
    (room : answer.1.protocolOrContainerIds.length + pocs.length ≤
      maximumProtocolIdOrContainerId) (enough : 2 ^ 8 ≤ fuel) :
    (∃ next, pocs.foldlM (processContainer fuel config) answer = .ok next) ↔
      ∀ poc ∈ pocs, poc.protocolId = protocolIdentifierIpcp →
        Negotiable poc.protocolIdContents := by
  induction pocs generalizing answer with
  | nil => exact iff_of_true ⟨answer, rfl⟩ (fun _ absent => absurd absent List.not_mem_nil)
  | cons poc pocs inductionHypothesis =>
      rw [List.length_cons] at room
      rw [List.forall_mem_cons] at sized
      rw [List.forall_mem_cons, List.foldlM_cons,
        ← container_processed_iff config answer sized.1 (by omega) enough]
      constructor
      · rintro ⟨last, ran⟩
        obtain ⟨next, first, later⟩ := bind_eq_ok.mp ran
        obtain ⟨kept, grown⟩ := wellFormed_of_container first wellFormed
        exact ⟨⟨next, first⟩,
          (inductionHypothesis next sized.2 kept (by omega)).mp ⟨last, later⟩⟩
      · rintro ⟨⟨next, first⟩, others⟩
        obtain ⟨kept, grown⟩ := wellFormed_of_container first wellFormed
        obtain ⟨last, later⟩ := (inductionHypothesis next sized.2 kept (by omega)).mpr others
        exact ⟨last, bind_eq_ok.mpr ⟨next, first, later⟩⟩

theorem wellFormed_of_containers {pocs : List ProtocolOrContainerId}
    (ran : pocs.foldlM (processContainer fuel config) answer = .ok next)
    (wellFormed : answer.1.WellFormed) : next.1.WellFormed := by
  induction pocs generalizing answer with
  | nil =>
      cases ran
      exact wellFormed
  | cons poc pocs inductionHypothesis =>
      rw [List.foldlM_cons] at ran
      obtain ⟨middle, first, later⟩ := bind_eq_ok.mp ran
      exact inductionHypothesis later (wellFormed_of_container first wellFormed).1

end Containers

/-! ### The whole request -/

section Request

variable {config : PcoConfig} {answer next : ProtocolConfigurationOptions × PcoIds}

theorem unlessAsked_ok (asked : Bool) {pcoResp : ProtocolConfigurationOptions}
    {push : ProtocolConfigurationOptions → Attempt ProtocolConfigurationOptions}
    (pushes : ∃ pcoNext, push pcoResp = .ok pcoNext) :
    ∃ pcoNext, unlessAsked asked push pcoResp = .ok pcoNext := by
  cases asked with
  | true => exact ⟨pcoResp, rfl⟩
  | false => exact pushes

theorem forcePush_ok (config : PcoConfig) (answer : ProtocolConfigurationOptions × PcoIds) :
    ∃ next, forcePush config answer = .ok next := by
  unfold forcePush
  by_cases forced : config.forcePushPco
  · obtain ⟨withDns, first⟩ := unlessAsked_ok answer.2.ciDnsServerIpv4AddressRequest
      (dnsServerRequest_sized config answer.1)
    obtain ⟨withMtu, second⟩ := unlessAsked_ok answer.2.ciIpv4LinkMtuRequest
      (linkMtuRequest_sized config withDns)
    rw [if_pos forced, first]
    show ∃ next, (unlessAsked _ _ withDns >>= _) = .ok next
    rw [second]
    exact ⟨_, rfl⟩
  · rw [if_neg forced]
    exact ⟨answer, rfl⟩

theorem wellFormed_of_unlessAsked {asked : Bool} {poc : ProtocolOrContainerId}
    {pcoResp pcoNext : ProtocolConfigurationOptions}
    (ran : unlessAsked asked (pcoPushProtocolOrContainerId · poc) pcoResp = .ok pcoNext)
    (wellFormed : pcoResp.WellFormed) : pcoNext.WellFormed := by
  cases asked with
  | true =>
      cases ran
      exact wellFormed
  | false => exact (wellFormed_of_push ran wellFormed).1

theorem wellFormed_of_forcePush (ran : forcePush config answer = .ok next)
    (wellFormed : answer.1.WellFormed) : next.1.WellFormed := by
  unfold forcePush at ran
  by_cases forced : config.forcePushPco
  · rw [if_pos forced] at ran
    obtain ⟨withDns, first, ran⟩ := bind_eq_ok.mp ran
    obtain ⟨withMtu, second, ran⟩ := bind_eq_ok.mp ran
    cases ran
    exact wellFormed_of_unlessAsked second (wellFormed_of_unlessAsked first wellFormed)
  · rw [if_neg forced] at ran
    cases ran
    exact wellFormed

theorem initialPcoResp_empty (pcoReq : ProtocolConfigurationOptions) :
    (initialPcoResp pcoReq {}).protocolOrContainerIds = [] := by
  unfold initialPcoResp
  split_ifs <;> rfl

theorem wellFormed_of_empty {pco : ProtocolConfigurationOptions}
    (empty : pco.protocolOrContainerIds = []) : pco.WellFormed := by
  constructor
  · rw [empty]
    exact Nat.zero_le _
  · rw [empty]
    exact fun _ absent => absurd absent List.not_mem_nil

theorem ipcpOptions_more {request : Octets} {fuel : Nat} (more : Nat) {ipcp last : Ipcp}
    (ran : ipcpOptions config request fuel ipcp = .ok last) :
    ipcpOptions config request (fuel + more) ipcp = .ok last := by
  induction fuel generalizing ipcp with
  | zero => cases ran
  | succ fuel inductionHypothesis =>
      rw [Nat.add_right_comm, ipcpOptions]
      rw [ipcpOptions] at ran
      by_cases waiting : 2 ≤ ipcp.reqRemainingLength
      · rw [if_pos waiting] at ran ⊢
        obtain ⟨next, pass, later⟩ := bind_eq_ok.mp ran
        exact bind_eq_ok.mpr ⟨next, pass, inductionHypothesis later⟩
      · rw [if_neg waiting] at ran ⊢
        exact ran

theorem ipcp_more {fuel : Nat} (more : Nat) {poc : ProtocolOrContainerId}
    {pcoResp pcoNext : ProtocolConfigurationOptions}
    (ran : processPcoRequestIpcp fuel config pcoResp poc = .ok pcoNext) :
    processPcoRequestIpcp (fuel + more) config pcoResp poc = .ok pcoNext := by
  unfold processPcoRequestIpcp at ran ⊢
  obtain ⟨code, first, ran⟩ := bind_eq_ok.mp ran
  obtain ⟨identifier, second, ran⟩ := bind_eq_ok.mp ran
  obtain ⟨high, third, ran⟩ := bind_eq_ok.mp ran
  obtain ⟨low, fourth, ran⟩ := bind_eq_ok.mp ran
  obtain ⟨last, passes, pushed⟩ := bind_eq_ok.mp ran
  apply bind_eq_ok.mpr ⟨code, first, _⟩
  apply bind_eq_ok.mpr ⟨identifier, second, _⟩
  apply bind_eq_ok.mpr ⟨high, third, _⟩
  apply bind_eq_ok.mpr ⟨low, fourth, _⟩
  exact bind_eq_ok.mpr ⟨last, ipcpOptions_more more passes, pushed⟩

theorem container_more {fuel : Nat} (more : Nat) {poc : ProtocolOrContainerId}
    (ran : processContainer fuel config answer poc = .ok next) :
    processContainer (fuel + more) config answer poc = .ok next := by
  unfold processContainer at ran ⊢
  by_cases isIpcp : poc.protocolId = protocolIdentifierIpcp
  · rw [if_pos isIpcp] at ran ⊢
    obtain ⟨pcoNext, answered, noted⟩ := bind_eq_ok.mp ran
    exact bind_eq_ok.mpr ⟨pcoNext, ipcp_more more answered, noted⟩
  · rw [if_neg isIpcp] at ran ⊢
    exact ran

theorem containers_more {fuel : Nat} (more : Nat) {pocs : List ProtocolOrContainerId}
    (ran : pocs.foldlM (processContainer fuel config) answer = .ok next) :
    pocs.foldlM (processContainer (fuel + more) config) answer = .ok next := by
  induction pocs generalizing answer with
  | nil => exact ran
  | cons poc pocs inductionHypothesis =>
      rw [List.foldlM_cons] at ran ⊢
      obtain ⟨middle, first, later⟩ := bind_eq_ok.mp ran
      exact bind_eq_ok.mpr ⟨middle, container_more more first, inductionHypothesis later⟩

/-- A larger bound on the passes changes nothing for a call that returns. -/
theorem processPcoRequest_more {fuel : Nat} (more : Nat)
    {pcoReq pcoResp : ProtocolConfigurationOptions} {pcoIds : PcoIds}
    (ran : processPcoRequest fuel config pcoReq pcoResp pcoIds = .ok next) :
    processPcoRequest (fuel + more) config pcoReq pcoResp pcoIds = .ok next := by
  unfold processPcoRequest at ran ⊢
  obtain ⟨middle, containers, forced⟩ := bind_eq_ok.mp ran
  exact bind_eq_ok.mpr ⟨middle, containers_more more containers, forced⟩

theorem dhcpv4_of_container {fuel : Nat} {poc : ProtocolOrContainerId}
    (ran : processContainer fuel config answer poc = .ok next) :
    next.2.ciIpv4AddressAllocationViaDhcpv4 = answer.2.ciIpv4AddressAllocationViaDhcpv4 := by
  unfold processContainer at ran
  by_cases isIpcp : poc.protocolId = protocolIdentifierIpcp
  · rw [if_pos isIpcp] at ran
    obtain ⟨_, _, ran⟩ := bind_eq_ok.mp ran
    cases ran
    rfl
  · rw [if_neg isIpcp] at ran
    by_cases isDns : poc.protocolId = containerIdentifierDnsServerIpv4Address
    · rw [if_pos isDns] at ran
      obtain ⟨_, _, ran⟩ := bind_eq_ok.mp ran
      cases ran
      rfl
    · rw [if_neg isDns] at ran
      by_cases isNas : poc.protocolId = containerIdentifierIpAddressAllocationViaNasSignalling
      · rw [if_pos isNas] at ran
        cases ran
        rfl
      · rw [if_neg isNas] at ran
        by_cases isMtu : poc.protocolId = containerIdentifierIpv4LinkMtu
        · rw [if_pos isMtu] at ran
          obtain ⟨_, _, ran⟩ := bind_eq_ok.mp ran
          cases ran
          rfl
        · rw [if_neg isMtu] at ran
          cases ran
          rfl

theorem dhcpv4_of_containers {fuel : Nat} {pocs : List ProtocolOrContainerId}
    (ran : pocs.foldlM (processContainer fuel config) answer = .ok next) :
    next.2.ciIpv4AddressAllocationViaDhcpv4 = answer.2.ciIpv4AddressAllocationViaDhcpv4 := by
  induction pocs generalizing answer with
  | nil =>
      cases ran
      rfl
  | cons poc pocs inductionHypothesis =>
      rw [List.foldlM_cons] at ran
      obtain ⟨middle, first, later⟩ := bind_eq_ok.mp ran
      rw [inductionHypothesis later, dhcpv4_of_container first]

/-- No container asks for an address through DHCPv4. -/
theorem dhcpv4_of_processPcoRequest {fuel : Nat} {pcoReq pcoResp : ProtocolConfigurationOptions}
    {pcoIds : PcoIds} (ran : processPcoRequest fuel config pcoReq pcoResp pcoIds = .ok next) :
    next.2.ciIpv4AddressAllocationViaDhcpv4 = pcoIds.ciIpv4AddressAllocationViaDhcpv4 := by
  obtain ⟨middle, containers, forced⟩ := bind_eq_ok.mp ran
  rw [← dhcpv4_of_containers containers]
  unfold forcePush at forced
  by_cases push : config.forcePushPco
  · rw [if_pos push] at forced
    obtain ⟨withDns, -, forced⟩ := bind_eq_ok.mp forced
    obtain ⟨withMtu, -, forced⟩ := bind_eq_ok.mp forced
    cases forced
    rfl
  · rw [if_neg push] at forced
    cases forced
    rfl

end Request

/-- The call made for a Create Session Request returns, with a well formed response. -/
def Completes (config : PcoConfig) (pcoReq : DecodedPco) : Prop :=
  ∃ fuel pcoResp pcoIds,
    processPcoRequest fuel config pcoReq.toProtocolConfigurationOptions {} {} =
      .ok (pcoResp, pcoIds) ∧ pcoResp.WellFormed

section Completes

variable (config : PcoConfig) (pcoReq : DecodedPco)

theorem initialPcoResp_room :
    (initialPcoResp pcoReq.toProtocolConfigurationOptions {}).protocolOrContainerIds.length +
      pcoReq.protocolOrContainerIds.length ≤ maximumProtocolIdOrContainerId := by
  rw [initialPcoResp_empty, List.length_nil, Nat.zero_add]
  exact pcoReq.wellFormed.bounded

/-- Which requests are answered, and that the passes of an IPCP container are then fewer than
256. -/
theorem processed_iff {fuel : Nat} (enough : 2 ^ 8 ≤ fuel) :
    (∃ next, processPcoRequest fuel config pcoReq.toProtocolConfigurationOptions {} {} =
        .ok next) ↔
      ∀ poc ∈ pcoReq.protocolOrContainerIds, poc.protocolId = protocolIdentifierIpcp →
        Negotiable poc.protocolIdContents := by
  rw [← containers_processed_iff config
    (initialPcoResp pcoReq.toProtocolConfigurationOptions {}, {}) pcoReq.wellFormed.sized
    (wellFormed_of_empty (initialPcoResp_empty _)) (initialPcoResp_room pcoReq) enough]
  constructor
  · rintro ⟨next, ran⟩
    obtain ⟨middle, containers, -⟩ := bind_eq_ok.mp ran
    exact ⟨middle, containers⟩
  · rintro ⟨middle, containers⟩
    obtain ⟨last, forced⟩ := forcePush_ok config middle
    exact ⟨last, bind_eq_ok.mpr ⟨middle, containers, forced⟩⟩

theorem negotiable_of_completes (completes : Completes config pcoReq) :
    ∀ poc ∈ pcoReq.protocolOrContainerIds, poc.protocolId = protocolIdentifierIpcp →
      Negotiable poc.protocolIdContents := by
  obtain ⟨fuel, pcoResp, pcoIds, ran, -⟩ := completes
  exact (processed_iff config pcoReq (Nat.le_add_left _ fuel)).mp
    ⟨_, processPcoRequest_more (2 ^ 8) ran⟩

/-- Processing completes exactly where each IPCP container holds a packet with a header
of four octets, options that advance and stay within the packet, and no more DNS server
options than the length field of the answer can count. -/
theorem pco_completes_iff :
    Completes config pcoReq ↔
      ∀ poc ∈ pcoReq.protocolOrContainerIds, poc.protocolId = protocolIdentifierIpcp →
        Negotiable poc.protocolIdContents := by
  constructor
  · exact negotiable_of_completes config pcoReq
  · intro negotiable
    obtain ⟨last, ran⟩ := (processed_iff config pcoReq le_rfl).mpr negotiable
    obtain ⟨middle, containers, forced⟩ := bind_eq_ok.mp ran
    exact ⟨2 ^ 8, last.1, last.2, ran, wellFormed_of_forcePush forced
      (wellFormed_of_containers containers (wellFormed_of_empty (initialPcoResp_empty _)))⟩

end Completes

/-- A Configure-Request with one DNS server option whose length is 0. -/
def stalledPco : DecodedPco where
  protocolOrContainerIds :=
    [{ protocolId := protocolIdentifierIpcp
       lengthOfProtocolIdContents := 6
       protocolIdContents := [0x01, 0x00, 0x00, 0x06, 0x81, 0x00] }]
  wellFormed :=
    { bounded := by decide
      sized := fun poc member => by
        cases List.mem_singleton.mp member
        rfl }

/-- The loop over the options of this container does not end. -/
theorem stalledPco_not_completed : ¬∀ config pcoReq, Completes config pcoReq := by
  intro always
  have completes := always ⟨0, 0, 0, false⟩ stalledPco
  obtain ⟨_, count, options, _⟩ :=
    negotiable_of_completes _ stalledPco completes _ (List.mem_singleton.mpr rfl) rfl
  cases options with
  | leftOver short => exact absurd short (by decide)
  | option kind size advances =>
      cases size
      exact absurd advances (by decide)

end OpenairSpgwc.Pgw.Pco
