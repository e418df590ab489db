import OpenairSpgwc.Gtpv2c.Catalogue

/-!
Contract: what `gtpv2c_msg::load_from` makes of an arbitrary datagram.

Owns:
- the extent of every kind of element;
- that reading a datagram is never cut off by the bound on calls, and comes to an end but
  for the label coding of a name;
- the datagrams that are rejected by an exception or accepted as they are declared.

Does not own: the containers of the messages.
-/

namespace OpenairSpgwc.Gtpv2c.Ie

open Foundation
open Foundation.Protocol (Extent)

/-- What the class of a kind does with a value. -/
def Kind.extent : Kind → Tlv → Octets → Extent
  | imsi, tlv, _ | mei, tlv, _ | msisdn, tlv, _ => digitsExtent tlv
  | cause, tlv, _ => .takes (causeExtent tlv)
  | recovery, tlv, _ | epsBearerId, tlv, _ => checked 1 (accepted none tlv)
  | ratType, tlv, _ | delayValue, tlv, _ | bearerFlags, tlv, _ | pdnType, tlv, _
  | apnRestriction, tlv, _ | selectionMode, tlv, _ | nodeType, tlv, _ | nodeFeatures, tlv, _
  | ciotOptimizationsSupportIndication, tlv, _ => checked 1 (accepted (some 1) tlv)
  | chargingId, tlv, _ => checked 4 (accepted (some 4) tlv)
  | accessPointName, _, value => accessPointNameExtent value
  | epco, tlv, _ => .takes tlv.length
  | ambr, _, _ => .takes 8
  | bearerTft, _, _ => .takes 1
  | ipAddress, tlv, _ => checked tlv.length (decide (tlv.length = 4 ∨ tlv.length = 16))
  | indication, tlv, _ => checked (min tlv.length 7) (decide (¬ tlv.length < 1))
  | pco, _, value => pcoExtent value
  | paa, tlv, value => ElementClass.afterOctets 1 (paaExtent (value.headD 0) tlv)
  | bearerQos, tlv, _ => checked 22 (decide (tlv.length = 22))
  | flowQos, tlv, _ => checked 21 (decide (tlv.length = 21))
  | servingNetwork, tlv, _ => checked 3 (decide (tlv.length = 3))
  | userLocationInformation, _, value =>
      ElementClass.afterOctets 1 (.takes (uliExtent (value.headD 0) - 1))
  | fullyQualifiedTeid, tlv, value =>
      ElementClass.afterOctets 1 (fteidExtent (value.headD 0) tlv)
  | ueTimeZone, tlv, _ => checked 2 (decide (tlv.length = 2))
  | fqCsid, tlv, value => ElementClass.afterOctets 1 (fqCsidExtent (value.headD 0) tlv)
  | ranNasCause, _, value => ElementClass.afterOctets 1 (ranNasCauseExtent (value.headD 0))

theorem kind_measured (kind : Kind) : kind.cls.Measured kind.extent := by
  cases kind with
  | imsi => exact digits_measured atMost15 fun _ _ => rfl
  | mei => exact digits_measured atMost15 fun _ _ => rfl
  | msisdn => exact digits_measured id fun _ _ => rfl
  | cause => exact cause_measured
  | recovery => exact octetClass_measured 0xFF none
  | epsBearerId => exact octetClass_measured 0x0F none
  | ratType => exact octetClass_measured 0xFF (some 1)
  | delayValue => exact octetClass_measured 0xFF (some 1)
  | bearerFlags => exact bearerFlags_measured
  | pdnType => exact octetClass_measured 0x07 (some 1)
  | apnRestriction => exact octetClass_measured 0xFF (some 1)
  | selectionMode => exact octetClass_measured 0x03 (some 1)
  | nodeType => exact octetClass_measured 0xFF (some 1)
  | nodeFeatures => exact octetClass_measured 0x1F (some 1)
  | ciotOptimizationsSupportIndication => exact octetClass_measured 0x0F (some 1)
  | chargingId => exact chargingId_measured
  | accessPointName => exact accessPointName_measured
  | epco => exact epco_measured
  | ambr => exact ambr_measured
  | bearerTft => exact bearerTft_measured
  | ipAddress => exact ipAddress_measured
  | indication => exact indication_measured
  | pco => exact pco_measured
  | paa => exact paa_measured
  | bearerQos => exact bearerQos_measured
  | flowQos => exact flowQos_measured
  | servingNetwork => exact servingNetwork_measured
  | userLocationInformation => exact userLocationInformation_measured
  | fullyQualifiedTeid => exact fullyQualifiedTeid_measured
  | ueTimeZone => exact ueTimeZone_measured
  | fqCsid => exact fqCsid_measured
  | ranNasCause => exact ranNasCause_measured

/-- Where the class of a kind goes on for ever: the label coding of a name, and no other. -/
def Kind.Stuck : Kind → Junk → Tlv → Octets → Prop
  | accessPointName => NameStuck
  | _ => fun _ _ _ => False

theorem Kind.eq_accessPointName_of_stuck {kind : Kind} {junk : Junk} {tlv : Tlv} {value : Octets}
    (inside : kind.Stuck junk tlv value) : kind = .accessPointName := by
  cases kind <;> first | rfl | exact inside.elim

theorem dispatched_accessPointName :
    ∀ row ∈ dispatched, row.2 = .accessPointName → row.1 = accessPointNameType := by
  decide

theorem kind_safe (kind : Kind) : kind.cls.SafeUnless kind.Stuck := by
  cases kind with
  | accessPointName => exact accessPointName_safe
  | imsi => exact (digits_safe atMost15 fun _ _ => rfl).safeUnless _
  | mei => exact (digits_safe atMost15 fun _ _ => rfl).safeUnless _
  | msisdn => exact (digits_safe id fun _ _ => rfl).safeUnless _
  | cause => exact cause_safe.safeUnless _
  | recovery | epsBearerId | ratType | delayValue | pdnType | apnRestriction
  | selectionMode | nodeType | nodeFeatures | ciotOptimizationsSupportIndication =>
      exact (octetClass_safe _ _).safeUnless _
  | bearerFlags => exact bearerFlags_safe.safeUnless _
  | chargingId => exact chargingId_safe.safeUnless _
  | epco => exact epco_safe.safeUnless _
  | ambr => exact ambr_safe.safeUnless _
  | bearerTft => exact bearerTft_safe.safeUnless _
  | ipAddress => exact ipAddress_safe.safeUnless _
  | indication => exact indication_safe.safeUnless _
  | pco => exact pco_safe.safeUnless _
  | paa => exact paa_safe.safeUnless _
  | bearerQos => exact bearerQos_safe.safeUnless _
  | flowQos => exact flowQos_safe.safeUnless _
  | servingNetwork => exact servingNetwork_safe.safeUnless _
  | userLocationInformation => exact userLocationInformation_safe.safeUnless _
  | fullyQualifiedTeid => exact fullyQualifiedTeid_safe.safeUnless _
  | ueTimeZone => exact ueTimeZone_safe.safeUnless _
  | fqCsid => exact fqCsid_safe.safeUnless _
  | ranNasCause => exact ranNasCause_safe.safeUnless _

/-- What the class that is made for the type does with a value. -/
def extent : Tlv → Octets → Extent := catalogue.extent Kind.extent

theorem protocol_measures : catalogue.protocol.Measures extent :=
  Catalogue.measures_of_measured kind_measured

theorem protocol_regular : catalogue.protocol.Regular (catalogue.Stuck Kind.Stuck) :=
  Catalogue.regular_of_safe safe_tlv (fun _ _ _ => tlv_takes) tlvBadLength_ne kind_safe

/-- Somewhere in the datagram an access point name is declared whose lengths come round. -/
def NameStuckIn (junk : Junk) (octets : Octets) : Prop :=
  ∃ tail, tail <:+ octets ∧ ∃ tlv after, loadTlv ⟨tail, false⟩ = .ok (tlv, after) ∧
    tlv.type = accessPointNameType ∧ NameStuck junk tlv after.rest

/-- Reading a datagram needs no more calls than its octets allow, and comes to an end unless it
meets an access point name on which the label coding goes on for ever. -/
theorem load_ends (junk : Junk) (octets : Octets) :
    envelope.load catalogue.protocol junk ⟨octets, false⟩ ≠ .error .exhausted ∧
      (envelope.load catalogue.protocol junk ⟨octets, false⟩ = .error .diverges →
        NameStuckIn junk octets) := by
  obtain ⟨notCut, stuck⟩ := Envelope.ends_of_regular envelope_lawful protocol_regular junk octets
  refine ⟨notCut, fun endless => ?_⟩
  obtain ⟨tail, suffix, tlv, after, header, -, kind, made, inside⟩ := stuck endless
  have name : kind = .accessPointName := Kind.eq_accessPointName_of_stuck inside
  subst name
  exact ⟨tail, suffix, tlv, after, header, dispatched_accessPointName _ (dispatched_mem made) rfl,
    inside⟩

/-- A datagram is rejected by an exception or accepted as it is declared, exactly when it is
rejected by an exception or is whole: it has the octets that its header declares, they are
elements by their declared lengths at every level, and the class of each element takes just the
value, where the last one can leave octets of its value. -/
theorem load_rejects_or_accepts_iff (octets : Octets) :
    (envelope.Rejected catalogue.protocol octets ∨
        envelope.Accepted catalogue.protocol true octets) ↔
      envelope.Rejected catalogue.protocol octets ∨
        envelope.Whole catalogue.protocol extent true octets :=
  Envelope.rejected_or_accepted_iff envelope_lawful protocol_measures

end OpenairSpgwc.Gtpv2c.Ie
