import OpenairSpgwc.Pgw.Pco

/-!
Contract: the negotiation of DNS addresses, `pgw_app::process_pco_request_ipcp` for
Configure-Requests of DNS server options.

The options are answered one by one with the configured addresses. Whether one is
refused depends on the number made of its octets, and an octet from 0x80 on is
negative there: it turns all octets before it into 0xFF.

Owns:
- the container of a Configure-Request, and the answer it should get;
- the answer it gets;
- for which requests the two are the same.

Does not own: other options and containers that are not tiled by options.
-/

namespace OpenairSpgwc.Pgw.Pco

open Foundation

def ipcpCodeConfigureRequest : Octet := 0x01

inductive DnsServer where
  | primary
  | secondary
deriving DecidableEq, Repr

def DnsServer.option : DnsServer → Octet
  | .primary => ipcpOptionPrimaryDnsServerIpAddress
  | .secondary => ipcpOptionSecondaryDnsServerIpAddress

/-- The configured address of a server. -/
def PcoConfig.dnsv4 (config : PcoConfig) : DnsServer → BitVec 32
  | .primary => config.defaultDnsv4
  | .secondary => config.defaultDnsSecv4

/-- A DNS server option, for an address or with one. -/
structure DnsOption where
  server : DnsServer
  address : BitVec 32
deriving DecidableEq, Repr

def DnsOption.octets (option : DnsOption) : Octets :=
  option.server.option :: 6 :: word 4 option.address

/-- The option with the configured address. -/
def PcoConfig.configured (config : PcoConfig) (option : DnsOption) : DnsOption :=
  { option with address := config.dnsv4 option.server }

/-- An IPCP packet of DNS server options in a container. -/
def ipcpPacket (code identifier : Octet) (options : List DnsOption) : ProtocolOrContainerId where
  protocolId := protocolIdentifierIpcp
  lengthOfProtocolIdContents := BitVec.ofNat 8 (4 + 6 * options.length)
  protocolIdContents := [code, identifier] ++ word 2 (BitVec.ofNat 16 (4 + 6 * options.length)) ++
    options.flatMap DnsOption.octets

/-- A Configure-Request whose answer fits the length field of a container. -/
structure ConfigureRequest where
  identifier : Octet
  options : List DnsOption
  fits : 4 + 6 * options.length < 2 ^ 8

def ConfigureRequest.container (request : ConfigureRequest) : ProtocolOrContainerId :=
  ipcpPacket ipcpCodeConfigureRequest request.identifier request.options

/-- The answer with a code. -/
def ConfigureRequest.answer (request : ConfigureRequest) (config : PcoConfig) (code : Octet) :
    ProtocolOrContainerId :=
  ipcpPacket code request.identifier (request.options.map config.configured)

/-- All addresses that are asked for are the configured ones. -/
def ConfigureRequest.Agrees (request : ConfigureRequest) (config : PcoConfig) : Prop :=
  ∀ option ∈ request.options, option.address = config.dnsv4 option.server

instance (request : ConfigureRequest) (config : PcoConfig) : Decidable (request.Agrees config) :=
  inferInstanceAs (Decidable (∀ option ∈ request.options, _))

/-- The container is answered by the packet with this code, under every large bound. -/
def ConfigureRequest.AnsweredWith (request : ConfigureRequest) (config : PcoConfig)
    (code : Octet) : Prop :=
  ∃ enough, ∀ fuel, enough ≤ fuel → ∀ pcoResp,
    processPcoRequestIpcp fuel config pcoResp request.container =
      pcoPushProtocolOrContainerId pcoResp (request.answer config code)

/-- Configure-Ack where the request agrees with the configuration, and Configure-Nak
otherwise. -/
def ConfigureRequest.Negotiates (request : ConfigureRequest) (config : PcoConfig) : Prop :=
  request.AnsweredWith config
    (if request.Agrees config then ipcpCodeConfigureAck else ipcpCodeConfigureNack)

/-! ### Addresses -/

/-- What is made of an address: its last octet from 0x80 on, the first one apart,
turns those before it into 0xFF. -/
def smeared (address : BitVec 32) : BitVec 32 :=
  if address.getLsbD 7 then address ||| 0xFFFFFF00#32
  else if address.getLsbD 15 then address ||| 0xFFFF0000#32
  else if address.getLsbD 23 then address ||| 0xFF000000#32
  else address

section Addresses

/-- An octet from 0x80 on sets every bit above its own. -/
theorem getElem_assembled (first second third fourth : Octet) (i : Nat) (inside : i < 32) :
    (assembled first second third fourth)[i] =
      if i < 8 then fourth.getLsbD i
      else fourth.msb || (if i < 16 then third.getLsbD (i - 8)
      else third.msb || (if i < 24 then second.getLsbD (i - 16)
      else second.msb || first.getLsbD (i - 24))) := by
  unfold assembled
  simp only [BitVec.getElem_or, BitVec.getElem_shiftLeft, BitVec.getElem_signExtend]
  by_cases lowest : i < 8
  · have below : i < 16 := by omega
    have below' : i < 24 := by omega
    simp [lowest, below, below']
  by_cases low : i < 16
  · have below : i < 24 := by omega
    have own : i - 8 < 8 := by omega
    simp [lowest, low, below, own, Bool.or_comm]
  by_cases high : i < 24
  · have past : ¬i - 8 < 8 := by omega
    have own : i - 16 < 8 := by omega
    simp [lowest, low, high, past, own]
    ac_rfl
  · have past : ¬i - 8 < 8 := by omega
    have past' : ¬i - 16 < 8 := by omega
    have own : i - 24 < 8 := by omega
    simp [lowest, low, high, past, past', own]
    ac_rfl

theorem word_four (address : BitVec 32) :
    word 4 address = [(address >>> 24).setWidth 8, (address >>> 16).setWidth 8,
      (address >>> 8).setWidth 8, address.setWidth 8] := by
  simp only [word, toBe, List.cons.injEq, and_true]
  refine ⟨?_, ?_, ?_, ?_⟩ <;> apply BitVec.eq_of_toNat_eq <;> simp [Nat.shiftRight_eq_div_pow]

theorem getElem_smeared (address : BitVec 32) (i : Nat) (inside : i < 32) :
    (smeared address)[i] = (address[i] || (decide (8 ≤ i) && address.getLsbD 7) ||
      (decide (16 ≤ i) && address.getLsbD 15) || (decide (24 ≤ i) && address.getLsbD 23)) := by
  have above8 : (0xFFFFFF00#32)[i] = decide (8 ≤ i) := by decide +revert
  have above16 : (0xFFFF0000#32)[i] = decide (16 ≤ i) := by decide +revert
  have above24 : (0xFF000000#32)[i] = decide (24 ≤ i) := by decide +revert
  unfold smeared
  generalize address.getLsbD 7 = fourth, address.getLsbD 15 = third, address.getLsbD 23 = second
  cases own : address[i] with
  | true => cases fourth <;> cases third <;> cases second <;> simp [own]
  | false =>
      rw [Bool.eq_iff_iff]
      cases fourth <;> cases third <;> cases second <;>
        simp [own, above8, above16, above24] <;> omega

theorem assembled_octets (address : BitVec 32) :
    assembled ((address >>> 24).setWidth 8) ((address >>> 16).setWidth 8)
      ((address >>> 8).setWidth 8) (address.setWidth 8) = smeared address := by
  have second : ((address >>> 16).setWidth 8).msb = address.getLsbD 23 := by
    simp [BitVec.msb_setWidth]
  have third : ((address >>> 8).setWidth 8).msb = address.getLsbD 15 := by
    simp [BitVec.msb_setWidth]
  have fourth : (address.setWidth 8).msb = address.getLsbD 7 := by
    simp [BitVec.msb_setWidth]
  -- The bit at `i` is in the octet that it was shifted from.
  have own : ∀ shift i, shift ≤ i → i < shift + 8 →
      ((address >>> shift).setWidth 8).getLsbD (i - shift) = address.getLsbD i := by
    intro shift i above below
    rw [BitVec.getLsbD_setWidth, BitVec.getLsbD_ushiftRight, Nat.add_sub_cancel' above]
    simp [show i - shift < 8 by omega]
  ext i inside
  rw [getElem_assembled _ _ _ _ i inside, getElem_smeared _ i inside, third, second, fourth,
    ← BitVec.getLsbD_eq_getElem]
  by_cases lowest : i < 8
  · have last := own 0 i (Nat.zero_le i) lowest
    rw [BitVec.ushiftRight_zero, Nat.sub_zero] at last
    rw [if_pos lowest, last]
    simp [show ¬8 ≤ i by omega, show ¬16 ≤ i by omega, show ¬24 ≤ i by omega]
  by_cases low : i < 16
  · rw [if_neg lowest, if_pos low, own 8 i (by omega) (by omega)]
    simp [show 8 ≤ i by omega, show ¬16 ≤ i by omega, show ¬24 ≤ i by omega, Bool.or_comm]
  by_cases high : i < 24
  · rw [if_neg lowest, if_neg low, if_pos high, own 16 i (by omega) (by omega)]
    simp only [show 8 ≤ i by omega, show 16 ≤ i by omega, show ¬24 ≤ i by omega, decide_true,
      decide_false, Bool.true_and, Bool.false_and, Bool.or_false]
    ac_rfl
  · rw [if_neg lowest, if_neg low, if_neg high, own 24 i (by omega) (by omega)]
    simp only [show 8 ≤ i by omega, show 16 ≤ i by omega, show 24 ≤ i by omega, decide_true,
      Bool.true_and]
    ac_rfl

end Addresses

/-! ### One option -/

/-- The option is not refused: its address is read as the configured one, and that is
not the address that asks for one. -/
def PcoConfig.Accepts (config : PcoConfig) (option : DnsOption) : Prop :=
  config.dnsv4 option.server ≠ inaddrAny ∧ smeared option.address = config.dnsv4 option.server

instance (config : PcoConfig) (option : DnsOption) : Decidable (config.Accepts option) :=
  inferInstanceAs (Decidable (_ ∧ _))

section Loop

variable {config : PcoConfig} {option : DnsOption} {before after : Octets} {ipcp : Ipcp}

theorem octetAt_append (k : Nat) :
    octetAt (before ++ after) (before.length + k) = octetAt after k := by
  rw [octetAt, octetAt, List.getElem?_append_right (Nat.le_add_right _ _), Nat.add_sub_cancel_left]

/-- Whatever the address, the configured one is returned. -/
theorem answerDns_option (configured out : BitVec 32) :
    answerDns configured out (before ++ (option.octets ++ after)) before.length 6 =
      .ok (configured, !decide (configured ≠ inaddrAny ∧ smeared option.address = configured)) := by
  rw [answerDns, if_pos (by decide)]
  simp only [octetAt_append, DnsOption.octets, word_four]
  show (pure (if assembled ((option.address >>> 24).setWidth 8) ((option.address >>> 16).setWidth 8)
    ((option.address >>> 8).setWidth 8) (option.address.setWidth 8) = inaddrAny then _ else _) :
      Attempt (BitVec 32 × Bool)) = _
  rw [assembled_octets]
  by_cases any : smeared option.address = inaddrAny
  · rw [if_pos any, decide_eq_false]
    · rfl
    · rintro ⟨given, same⟩
      exact given (same.symm.trans any)
  · rw [if_neg any]
    by_cases same : smeared option.address = configured
    · rw [same] at any ⊢
      rw [decide_eq_true ⟨any, rfl⟩, if_neg (not_not.mpr rfl)]
      rfl
    · rw [decide_eq_false fun both => same both.2, if_pos (Ne.symm same)]
      rfl

/-- What is written for options: their servers' addresses, and Configure-Nak where one
is refused. -/
structure Ipcp.Answers (config : PcoConfig) (options : List DnsOption) (ipcp next : Ipcp) :
    Prop where
  outCode : next.outCode =
    if ∀ option ∈ options, config.Accepts option then ipcp.outCode else ipcpCodeConfigureNack
  outLength : next.outLength = ipcp.outLength + BitVec.ofNat 16 (6 * options.length)
  contents : next.contents = ipcp.contents ++
    (options.map config.configured).flatMap DnsOption.octets

theorem answers_append (config : PcoConfig) (ipcp : Ipcp) (server : DnsServer)
    (address : BitVec 32) :
    ipcp.Answers config [⟨server, address⟩] (ipcp.append server.option (config.dnsv4 server)
      (!decide (config.Accepts ⟨server, address⟩))) where
  outCode := by simp [Ipcp.append]
  outLength := rfl
  contents := by simp [Ipcp.append, PcoConfig.configured, DnsOption.octets]

theorem ipcpAnswer_option (config : PcoConfig) (option : DnsOption) (after : Octets)
    (index : ipcp.pcoInIndex = before.length) :
    ∃ next, ipcpAnswer config (before ++ (option.octets ++ after)) ipcp option.server.option 6 =
      .ok next ∧ ipcp.Answers config [option] next := by
  obtain ⟨server, address⟩ := option
  have written := answers_append config ipcp server address
  rw [ipcpAnswer, index]
  cases server with
  | primary =>
      have own : DnsServer.primary.option = ipcpOptionPrimaryDnsServerIpAddress := rfl
      dsimp only
      rw [if_pos own, answerDns_option]
      exact ⟨_, rfl, written.outCode, written.outLength, written.contents⟩
  | secondary =>
      have other : DnsServer.secondary.option ≠ ipcpOptionPrimaryDnsServerIpAddress := by decide
      have own : DnsServer.secondary.option = ipcpOptionSecondaryDnsServerIpAddress := rfl
      dsimp only
      rw [if_neg other, if_pos own, answerDns_option]
      exact ⟨_, rfl, written.outCode, written.outLength, written.contents⟩

/-- One pass of the loop. -/
theorem ipcpOption_option (config : PcoConfig) (option : DnsOption) (after : Octets) {rest : Nat}
    (index : ipcp.pcoInIndex = before.length)
    (remaining : ipcp.reqRemainingLength = 6 + rest) (small : rest < 2 ^ 64) :
    ∃ next, ipcpOption config (before ++ (option.octets ++ after)) ipcp = .ok next ∧
      next.reqRemainingLength = rest ∧ next.pcoInIndex = (before ++ option.octets).length ∧
      ipcp.Answers config [option] next := by
  obtain ⟨next, answered, written⟩ :=
    ipcpAnswer_option config option after index
  have first : octetAt (before ++ (option.octets ++ after)) ipcp.pcoInIndex =
      .ok option.server.option := by
    rw [index]
    exact octetAt_append 0
  have second : octetAt (before ++ (option.octets ++ after)) (ipcp.pcoInIndex + 1) = .ok 6 := by
    rw [index]
    exact octetAt_append 1
  refine ⟨{ next with
    reqRemainingLength := (ipcp.reqRemainingLength + 2 ^ 64 - (6 : Octet).toNat) % 2 ^ 64
    pcoInIndex := ipcp.pcoInIndex + (6 : Octet).toNat }, ?_, ?_, ?_, ?_⟩
  · rw [ipcpOption, first, second]
    show (ipcpAnswer _ _ _ _ _ >>= _) = _
    rw [answered]
    rfl
  · show (ipcp.reqRemainingLength + 2 ^ 64 - 6) % 2 ^ 64 = rest
    omega
  · rw [index, List.length_append, DnsOption.octets, List.length_cons, List.length_cons,
      length_word]
    rfl
  · exact ⟨written.outCode, written.outLength, written.contents⟩

theorem Ipcp.Answers.cons {options : List DnsOption} {next last : Ipcp}
    (first : ipcp.Answers config [option] next) (others : next.Answers config options last) :
    ipcp.Answers config (option :: options) last where
  outCode := by
    rw [others.outCode, first.outCode]
    by_cases accepted : config.Accepts option
    · simp [accepted]
    · simp [accepted]
  outLength := by
    rw [others.outLength, first.outLength, BitVec.add_assoc, ← BitVec.ofNat_add]
    congr 2
    simp only [List.length_cons, List.length_nil]
    omega
  contents := by
    rw [others.contents, first.contents]
    simp

/-- The whole loop. -/
theorem ipcpOptions_options (config : PcoConfig) (options : List DnsOption)
    (short : 6 * options.length < 2 ^ 64)
    (index : ipcp.pcoInIndex = before.length)
    (remaining : ipcp.reqRemainingLength = 6 * options.length) {fuel : Nat}
    (enough : options.length < fuel) :
    ∃ last, ipcpOptions config (before ++ options.flatMap DnsOption.octets) fuel ipcp = .ok last ∧
      ipcp.Answers config options last := by
  induction options generalizing before ipcp fuel with
  | nil =>
      obtain ⟨fuel, rfl⟩ := Nat.exists_eq_succ_of_ne_zero (Nat.ne_of_gt enough)
      refine ⟨ipcp, ?_, ⟨by simp, by simp, by simp⟩⟩
      rw [ipcpOptions, if_neg (by rw [remaining]; decide)]
      rfl
  | cons option options inductionHypothesis =>
      obtain ⟨fuel, rfl⟩ := Nat.exists_eq_succ_of_ne_zero (Nat.ne_of_gt (Nat.zero_lt_of_lt enough))
      rw [List.length_cons] at short remaining enough
      obtain ⟨next, pass, left, place, answers⟩ := ipcpOption_option config option
        (options.flatMap DnsOption.octets) index
        (show ipcp.reqRemainingLength = 6 + 6 * options.length by omega) (by omega)
      obtain ⟨last, passes, others⟩ := inductionHypothesis (by omega) place left
        (Nat.lt_of_succ_lt_succ enough)
      refine ⟨last, ?_, answers.cons others⟩
      rw [ipcpOptions, if_pos (by omega), List.flatMap_cons, pass]
      rw [List.append_assoc] at passes
      exact passes

end Loop

/-! ### The request -/

section Request

variable {config : PcoConfig} {request : ConfigureRequest} {code other : Octet}

/-- The code of the answer: Configure-Nak where an option is refused. -/
def ConfigureRequest.outCode (request : ConfigureRequest) (config : PcoConfig) : Octet :=
  if ∀ option ∈ request.options, config.Accepts option then ipcpCodeConfigureAck
  else ipcpCodeConfigureNack

theorem word_two (value : BitVec 16) :
    word 2 value = [(value >>> 8).setWidth 8, value.setWidth 8] := by
  simp only [word, toBe, List.cons.injEq, and_true]
  refine ⟨?_, ?_⟩ <;> apply BitVec.eq_of_toNat_eq <;> simp [Nat.shiftRight_eq_div_pow]

theorem container_eq_ipcpPacket {last : Ipcp} {poc : ProtocolOrContainerId} {identifier : Octet}
    {options : List DnsOption} (protocol : poc.protocolId = protocolIdentifierIpcp)
    (length : last.outLength = BitVec.ofNat 16 (4 + 6 * options.length))
    (contents : last.contents.drop 4 = options.flatMap DnsOption.octets) :
    last.container poc identifier = ipcpPacket last.outCode identifier options := by
  have low : (BitVec.ofNat 16 (4 + 6 * options.length)).setWidth 8 =
      BitVec.ofNat 8 (4 + 6 * options.length) := by
    apply BitVec.eq_of_toNat_eq
    rw [BitVec.toNat_setWidth, BitVec.toNat_ofNat, BitVec.toNat_ofNat]
    omega
  rw [Ipcp.container, ipcpPacket, protocol, length, contents, word_two, low]
  rfl

/-- Every option is answered, and each with the configured address. -/
theorem answeredWith_outCode (request : ConfigureRequest) (config : PcoConfig) :
    request.AnsweredWith config (request.outCode config) := by
  obtain ⟨identifier, options, fits⟩ := request
  refine ⟨options.length + 1, fun fuel enough pcoResp => ?_⟩
  have remaining : (firstPass
      (ipcpPacket ipcpCodeConfigureRequest identifier options)).reqRemainingLength
      = 6 * options.length := by
    show ((BitVec.ofNat 8 (4 + 6 * options.length)).toNat + 2 ^ 64 - 4) % 2 ^ 64 = _
    rw [BitVec.toNat_ofNat, Nat.mod_eq_of_lt fits]
    omega
  obtain ⟨last, passes, answers⟩ := ipcpOptions_options config options (by omega)
    (show (firstPass (ipcpPacket ipcpCodeConfigureRequest identifier options)).pcoInIndex =
      ([ipcpCodeConfigureRequest, identifier] ++
        word 2 (BitVec.ofNat 16 (4 + 6 * options.length))).length from rfl) remaining enough
  have packet : last.container (ipcpPacket ipcpCodeConfigureRequest identifier options) identifier =
      ipcpPacket last.outCode identifier (options.map config.configured) := by
    refine container_eq_ipcpPacket rfl ?_ ?_
    · rw [answers.outLength, List.length_map, BitVec.ofNat_add]
      rfl
    · rw [answers.contents]
      rfl
  have code : last.outCode = ConfigureRequest.outCode ⟨identifier, options, fits⟩ config :=
    answers.outCode
  rw [code] at packet
  change ipcpOptions config
    (ipcpPacket ipcpCodeConfigureRequest identifier options).protocolIdContents
    fuel (firstPass (ipcpPacket ipcpCodeConfigureRequest identifier options)) = _ at passes
  unfold processPcoRequestIpcp
  show (ipcpOptions config
      (ipcpPacket ipcpCodeConfigureRequest identifier options).protocolIdContents
    fuel (firstPass (ipcpPacket ipcpCodeConfigureRequest identifier options)) >>= _) = _
  rw [passes]
  exact congrArg (pcoPushProtocolOrContainerId pcoResp) packet

theorem sized_ipcpPacket {identifier : Octet} {options : List DnsOption}
    (fits : 4 + 6 * options.length < 2 ^ 8) : (ipcpPacket code identifier options).Sized := by
  have each : (options.flatMap DnsOption.octets).length = 6 * options.length := by
    induction options with
    | nil => rfl
    | cons option options inductionHypothesis =>
        rw [List.length_cons] at fits
        rw [List.flatMap_cons, List.length_append, inductionHypothesis (by omega), List.length_cons,
          DnsOption.octets, List.length_cons, List.length_cons, length_word]
        omega
  show (BitVec.ofNat 8 (4 + 6 * options.length)).toNat =
    ([code, identifier] ++ word 2 (BitVec.ofNat 16 (4 + 6 * options.length)) ++
      options.flatMap DnsOption.octets).length
  rw [BitVec.toNat_ofNat, Nat.mod_eq_of_lt fits, List.length_append, List.length_append,
    length_word, each]
  rfl

theorem push_first {poc : ProtocolOrContainerId} (sized : poc.Sized) :
    pcoPushProtocolOrContainerId {} poc = .ok { protocolOrContainerIds := [poc] } := by
  rw [pcoPushProtocolOrContainerId, if_neg (by decide)]
  exact if_pos sized

/-- A request is answered with one code. -/
theorem answeredWith_unique (one : request.AnsweredWith config code)
    (two : request.AnsweredWith config other) : code = other := by
  obtain ⟨enough, one⟩ := one
  obtain ⟨enough', two⟩ := two
  have pushed := (one (max enough enough') (le_max_left _ _) {}).symm.trans
    (two (max enough enough') (le_max_right _ _) {})
  have fits : 4 + 6 * (request.options.map config.configured).length < 2 ^ 8 := by
    rw [List.length_map]
    exact request.fits
  have first : (request.answer config code).Sized := sized_ipcpPacket fits
  have second : (request.answer config other).Sized := sized_ipcpPacket fits
  rw [push_first first, push_first second] at pushed
  have same : request.answer config code = request.answer config other := by
    cases Except.ok.inj pushed with
    | refl => rfl
  exact (List.cons.inj (congrArg ProtocolOrContainerId.protocolIdContents same)).1

/-! ### When the answer is right -/

/-- The request agrees with addresses that can be accepted as they are, or it does not
agree and is not taken for one that does. -/
def ConfigureRequest.ReadRightly (request : ConfigureRequest) (config : PcoConfig) : Prop :=
  (request.Agrees config → ∀ option ∈ request.options,
    config.dnsv4 option.server ≠ inaddrAny ∧
      smeared (config.dnsv4 option.server) = config.dnsv4 option.server) ∧
  (¬request.Agrees config → ∃ option ∈ request.options,
    config.dnsv4 option.server = inaddrAny ∨
      smeared option.address ≠ config.dnsv4 option.server)

/-- The answer is the right one exactly when the options are accepted that agree. -/
theorem negotiates_iff_accepts : request.Negotiates config ↔
    ((∀ option ∈ request.options, config.Accepts option) ↔ request.Agrees config) := by
  have apart : ipcpCodeConfigureAck ≠ ipcpCodeConfigureNack := by decide
  have code : request.Negotiates config ↔ request.outCode config =
      if request.Agrees config then ipcpCodeConfigureAck else ipcpCodeConfigureNack := by
    constructor
    · exact answeredWith_unique (answeredWith_outCode request config)
    · intro same
      have answered := answeredWith_outCode request config
      rw [same] at answered
      exact answered
  rw [code, ConfigureRequest.outCode]
  by_cases accepted : ∀ option ∈ request.options, config.Accepts option <;>
    by_cases agrees : request.Agrees config <;>
      simp [accepted, agrees, apart, apart.symm]

/-- The request of a UE that asks for what the answer carries. -/
def ConfigureRequest.again (request : ConfigureRequest) (config : PcoConfig) :
    ConfigureRequest where
  identifier := request.identifier
  options := request.options.map config.configured
  fits := by
    rw [List.length_map]
    exact request.fits

/-- Where a configured address is not read as it is, a UE that asks for it is refused
and told to ask for it, again and again. -/
theorem refused_again {option : DnsOption} (member : option ∈ request.options)
    (misread : smeared (config.dnsv4 option.server) ≠ config.dnsv4 option.server) :
    (request.again config).Agrees config ∧
      (request.again config).AnsweredWith config ipcpCodeConfigureNack ∧
      (request.again config).again config = request.again config := by
  have refused : (request.again config).outCode config = ipcpCodeConfigureNack := by
    rw [ConfigureRequest.outCode, if_neg]
    intro accepted
    exact misread (accepted _ (List.mem_map_of_mem member)).2
  refine ⟨?_, ?_, ?_⟩
  · intro asked within
    obtain ⟨source, -, rfl⟩ := List.mem_map.mp within
    rfl
  · have answered := answeredWith_outCode (request.again config) config
    rw [refused] at answered
    exact answered
  · simp only [ConfigureRequest.again, List.map_map]
    rfl

end Request

/-- The answer is the right one exactly for the requests whose addresses are read
rightly. -/
theorem dns_negotiated_iff (config : PcoConfig) (request : ConfigureRequest) :
    request.Negotiates config ↔ request.ReadRightly config := by
  rw [negotiates_iff_accepts]
  unfold ConfigureRequest.ReadRightly
  by_cases agrees : request.Agrees config
  · have same : (∀ option ∈ request.options, config.Accepts option) ↔
        ∀ option ∈ request.options, config.dnsv4 option.server ≠ inaddrAny ∧
          smeared (config.dnsv4 option.server) = config.dnsv4 option.server := by
      refine forall₂_congr fun option member => ?_
      rw [PcoConfig.Accepts, agrees option member]
    simp only [agrees, iff_true, true_implies, not_true, false_implies, and_true]
    exact same
  · simp only [agrees, iff_false, false_implies, not_false_iff, true_implies, true_and, not_forall,
      exists_prop, PcoConfig.Accepts, not_and_or, not_not]

/-- 8.8.200.8 and 8.8.8.8 are configured. -/
def dnsAt200 : PcoConfig where
  defaultDnsv4 := 0x0808C808
  defaultDnsSecv4 := 0x08080808
  defaultUeMtuIpv4 := 1358
  forcePushPco := false

/-- The primary server is asked for at 8.8.200.8. -/
def askingFor200 : ConfigureRequest where
  identifier := 1
  options := [⟨.primary, 0x0808C808⟩]
  fits := by decide

/-- The request for the configured address is refused. -/
theorem dns_not_negotiated :
    ¬∀ (config : PcoConfig) (request : ConfigureRequest), request.Negotiates config := by
  intro all
  have both := negotiates_iff_accepts.mp (all dnsAt200 askingFor200)
  have agrees : askingFor200.Agrees dnsAt200 := by decide
  have refused : ¬∀ option ∈ askingFor200.options, dnsAt200.Accepts option := by decide
  exact refused (both.mpr agrees)

end OpenairSpgwc.Pgw.Pco
