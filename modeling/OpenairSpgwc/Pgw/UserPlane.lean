import OpenairSpgwc.Pgw.Modifications

/-!
Contract: the rules that a UP node holds for one session, beside the PDN connection
that asks for them.

Owns:
- `UpSession`: the PDRs and FARs of a session, which requests it accepts and what it
  holds after one;
- `SessionState.step`, the procedures of one connection with a UP node that executes
  each request at once;
- that every request is accepted, and that each identifier recorded in a bearer exists
  at the UP node and belongs to one direction of one bearer.

Responses may come at any time and with any contents.
-/

namespace OpenairSpgwc.Pgw

open Foundation
open OpenairSpgwc.Common
open Std (ExtTreeMap)

/-! ### The session at the UP node -/

structure UpSession where
  pdrs : Finset Nat := ∅
  fars : Finset Nat := ∅
deriving DecidableEq

namespace UpSession

variable {up : UpSession} {rules : ModificationRules}

/-- What the session holds after a request. -/
def execute (up : UpSession) (rules : ModificationRules) : UpSession where
  pdrs := up.pdrs ∪ (rules.createPdrs.map CreatePdr.pdrId).toFinset
  fars := up.fars ∪ (rules.createFars.map CreateFar.farId).toFinset

/-- New identifiers are new, and the others are held or created by the same request. -/
structure Accepts (up : UpSession) (rules : ModificationRules) : Prop where
  newPdrs : ∀ pdr ∈ rules.createPdrs, pdr.pdrId ∉ up.pdrs
  distinctPdrs : (rules.createPdrs.map CreatePdr.pdrId).Nodup
  newFars : ∀ far ∈ rules.createFars, far.farId ∉ up.fars
  distinctFars : (rules.createFars.map CreateFar.farId).Nodup
  knownFars : ∀ far ∈ rules.updateFars, far.farId ∈ (up.execute rules).fars
  forwarded : ∀ pdr ∈ rules.createPdrs, pdr.farId ∈ (up.execute rules).fars

theorem mem_execute_pdrs {pdrId : Nat} :
    pdrId ∈ (up.execute rules).pdrs ↔
      pdrId ∈ up.pdrs ∨ pdrId ∈ rules.createPdrs.map CreatePdr.pdrId := by
  rw [execute, Finset.mem_union, List.mem_toFinset]

theorem mem_execute_fars {farId : Nat} :
    farId ∈ (up.execute rules).fars ↔
      farId ∈ up.fars ∨ farId ∈ rules.createFars.map CreateFar.farId := by
  rw [execute, Finset.mem_union, List.mem_toFinset]

theorem accepts_empty (up : UpSession) : up.Accepts {} where
  newPdrs := fun _ absent => absurd absent List.not_mem_nil
  distinctPdrs := List.nodup_nil
  newFars := fun _ absent => absurd absent List.not_mem_nil
  distinctFars := List.nodup_nil
  knownFars := fun _ absent => absurd absent List.not_mem_nil
  forwarded := fun _ absent => absurd absent List.not_mem_nil

@[simp] theorem execute_empty (up : UpSession) : up.execute {} = up := by
  simp [execute]

theorem Accepts.updateFar (accepts : up.Accepts rules) (far : UpdateFar)
    (known : far.farId ∈ (up.execute rules).fars) :
    up.Accepts { rules with updateFars := rules.updateFars ++ [far] } where
  newPdrs := accepts.newPdrs
  distinctPdrs := accepts.distinctPdrs
  newFars := accepts.newFars
  distinctFars := accepts.distinctFars
  knownFars other member := by
    cases List.mem_append.mp member with
    | inl earlier => exact accepts.knownFars other earlier
    | inr last =>
        rw [List.mem_singleton.mp last]
        exact known
  forwarded := accepts.forwarded

theorem mem_execute_createFar {far : CreateFar} {farId : Nat} :
    farId ∈ (up.execute { rules with createFars := rules.createFars ++ [far] }).fars ↔
      farId ∈ (up.execute rules).fars ∨ farId = far.farId := by
  rw [mem_execute_fars, mem_execute_fars, List.map_append, List.mem_append, List.map_singleton,
    List.mem_singleton, or_assoc]

theorem mem_execute_createPdr {pdr : CreatePdr} {pdrId : Nat} :
    pdrId ∈ (up.execute { rules with createPdrs := rules.createPdrs ++ [pdr] }).pdrs ↔
      pdrId ∈ (up.execute rules).pdrs ∨ pdrId = pdr.pdrId := by
  rw [mem_execute_pdrs, mem_execute_pdrs, List.map_append, List.mem_append, List.map_singleton,
    List.mem_singleton, or_assoc]

theorem Accepts.createFar (accepts : up.Accepts rules) (far : CreateFar)
    (fresh : far.farId ∉ (up.execute rules).fars) :
    up.Accepts { rules with createFars := rules.createFars ++ [far] } where
  newPdrs := accepts.newPdrs
  distinctPdrs := accepts.distinctPdrs
  newFars other member := by
    cases List.mem_append.mp member with
    | inl earlier => exact accepts.newFars other earlier
    | inr last =>
        rw [List.mem_singleton.mp last]
        exact fun held => fresh (mem_execute_fars.mpr (.inl held))
  distinctFars := by
    show ((rules.createFars ++ [far]).map CreateFar.farId).Nodup
    rw [List.map_append, List.map_singleton]
    apply accepts.distinctFars.append (List.nodup_singleton _)
    intro farId earlier last
    rw [List.mem_singleton.mp last] at earlier
    exact fresh (mem_execute_fars.mpr (.inr earlier))
  knownFars other member := mem_execute_createFar.mpr (.inl (accepts.knownFars other member))
  forwarded other member := mem_execute_createFar.mpr (.inl (accepts.forwarded other member))

theorem Accepts.createPdr (accepts : up.Accepts rules) (pdr : CreatePdr)
    (fresh : pdr.pdrId ∉ (up.execute rules).pdrs)
    (known : pdr.farId ∈ (up.execute rules).fars) :
    up.Accepts { rules with createPdrs := rules.createPdrs ++ [pdr] } where
  newPdrs other member := by
    cases List.mem_append.mp member with
    | inl earlier => exact accepts.newPdrs other earlier
    | inr last =>
        rw [List.mem_singleton.mp last]
        exact fun held => fresh (mem_execute_pdrs.mpr (.inl held))
  distinctPdrs := by
    show ((rules.createPdrs ++ [pdr]).map CreatePdr.pdrId).Nodup
    rw [List.map_append, List.map_singleton]
    apply accepts.distinctPdrs.append (List.nodup_singleton _)
    intro pdrId earlier last
    rw [List.mem_singleton.mp last] at earlier
    exact fresh (mem_execute_pdrs.mpr (.inr earlier))
  newFars := accepts.newFars
  distinctFars := accepts.distinctFars
  knownFars := accepts.knownFars
  forwarded other member := by
    cases List.mem_append.mp member with
    | inl earlier => exact accepts.forwarded other earlier
    | inr last =>
        rw [List.mem_singleton.mp last]
        exact known

end UpSession

/-! ### Procedures of one connection -/

/-- A connection and its session at the UP node. -/
structure SessionState where
  pdn : PdnConnection
  up : UpSession

inductive SessionAction where
  | modifyBearer (bearerContextsToBeModified : List BearerContextToBeModified)
  | releaseAccessBearers
  | sessionEstablishmentResponse (response : SessionEstablishmentResponse)
  | sessionModificationResponse (toBeModified : List BearerContextToBeModified)
      (updateFars : List UpdateFar) (pending : ModifyBearerResponse)
      (response : SessionModificationResponse)

/-- The EBIs of a request are those of bearers. -/
def SessionAction.Ranged : SessionAction → Prop
  | .modifyBearer its => ∀ it ∈ its, 5 ≤ it.target ∧ it.target ≤ 15
  | _ => True

instance : DecidablePred SessionAction.Ranged
  | .modifyBearer its => inferInstanceAs (Decidable (∀ it ∈ its, 5 ≤ it.target ∧ it.target ≤ 15))
  | .releaseAccessBearers => inferInstanceAs (Decidable True)
  | .sessionEstablishmentResponse _ => inferInstanceAs (Decidable True)
  | .sessionModificationResponse _ _ _ _ => inferInstanceAs (Decidable True)

/-- The rules of a session establishment request. -/
def establishmentRules (rules : List UplinkRules) : ModificationRules where
  createPdrs := rules.map fun rule => ⟨rule.pdrId, .access, rule.farId⟩
  createFars := rules.map fun rule => ⟨rule.farId, .core, none⟩

/-- The rules of the request that releases access bearers. -/
def releasingRules (pdn : PdnConnection) : ModificationRules where
  updateFars := pdn.epsBearers.toList.flatMap fun it => Gateway.releaseRules it.2

namespace SessionState

/-- The UP node executes each request when it is sent. -/
def step (s : SessionState) :
    SessionAction → Option (SessionState × List ModificationRules)
  | .modifyBearer its =>
      (Modification.bearers { pdn := s.pdn } its).map fun m =>
        if m.sendSx then (⟨m.pdn, s.up.execute m.rules⟩, [m.rules]) else (⟨m.pdn, s.up⟩, [])
  | .releaseAccessBearers =>
      some (⟨Gateway.releaseBearers s.pdn, s.up.execute (releasingRules s.pdn)⟩,
        [releasingRules s.pdn])
  | .sessionEstablishmentResponse response =>
      some ({ s with pdn := State.established s.pdn response }, [])
  | .sessionModificationResponse toBeModified updateFars pending response =>
      some ({ s with
        pdn := (Gateway.completed s.pdn toBeModified updateFars pending response).1 }, [])

/-- The recorded identifiers exist at the UP node, and each belongs to one direction of
one bearer. -/
structure Consistent (s : SessionState) : Prop where
  pdrHeld : ∀ pdrId key direction, s.pdn.HasPdr pdrId key direction → pdrId ∈ s.up.pdrs
  farHeld : ∀ farId key direction, s.pdn.HasFar farId key direction → farId ∈ s.up.fars
  pdrOnce : Apart EpsBearer.pdr s.pdn.epsBearers
  farOnce : Apart EpsBearer.far s.pdn.epsBearers

/-- The connection is sound, and the UP node holds what it recorded and nothing that was
not drawn. -/
structure Mirrors (pdn : PdnConnection) (up : UpSession) : Prop where
  sound : pdn.Sound
  pdrHeld : ∀ pdrId key direction, pdn.HasPdr pdrId key direction → pdrId ∈ up.pdrs
  farHeld : ∀ farId key direction, pdn.HasFar farId key direction → farId ∈ up.fars
  pdrsDrawn : up.pdrs ⊆ pdn.pdrIdGenerator.uidGenerated
  farsDrawn : up.fars ⊆ pdn.farIdGenerator.uidGenerated

variable {pdn next : PdnConnection} {up : UpSession} {rules : ModificationRules}

theorem Mirrors.consistent (mirrors : Mirrors pdn up) : Consistent ⟨pdn, up⟩ where
  pdrHeld := mirrors.pdrHeld
  farHeld := mirrors.farHeld
  pdrOnce := mirrors.sound.pdrApart
  farOnce := mirrors.sound.farApart

theorem Mirrors.relabels (mirrors : Mirrors pdn up) (relabels : pdn.Relabels next) :
    Mirrors next up where
  sound := mirrors.sound.relabels relabels
  pdrHeld pdrId key direction holds :=
    mirrors.pdrHeld pdrId key direction (relabels.hasPdr.mp holds)
  farHeld farId key direction holds :=
    mirrors.farHeld farId key direction (relabels.hasFar.mp holds)
  pdrsDrawn := by
    rw [relabels.pdrIds]
    exact mirrors.pdrsDrawn
  farsDrawn := by
    rw [relabels.farIds]
    exact mirrors.farsDrawn

/-! ### Establishment -/

/-- A connection that `pgw_context` has just made. -/
structure New (pdn : PdnConnection) : Prop where
  noBearers : pdn.epsBearers = ∅
  farIds : pdn.farIdGenerator = .empty
  pdrIds : pdn.pdrIdGenerator = .empty

theorem New.mirrors (new : New pdn) : Mirrors pdn {} where
  sound := by
    apply PdnConnection.sound_of_empty new.noBearers
    rw [new.farIds, new.pdrIds]
    exact numbered_empty
  pdrHeld pdrId key direction holds := by
    rw [PdnConnection.HasPdr, new.noBearers] at holds
    exact absurd holds not_holds_empty
  farHeld farId key direction holds := by
    rw [PdnConnection.HasFar, new.noBearers] at holds
    exact absurd holds not_holds_empty
  pdrsDrawn := Finset.empty_subset _
  farsDrawn := Finset.empty_subset _

/-- What one context to be created does to the identifiers of a connection. -/
theorem hasPdr_addEpsBearer {ebi farId pdrId id key : Nat} {direction : Direction}
    {farIds : UintGenerator 32} {pdrIds : UintGenerator 16}
    (holds : (({ pdn with farIdGenerator := farIds, pdrIdGenerator := pdrIds }).addEpsBearer
      { ebi := ebi, farIdUl := some farId, pdrIdUl := pdrId }).HasPdr id key direction) :
    id = pdrId ∨ pdn.HasPdr id key direction := by
  unfold PdnConnection.addEpsBearer at holds
  split at holds
  · cases holds_insert.mp holds with
    | inl new =>
        cases direction with
        | uplink => exact .inl (EpsBearer.pdr_uplink_eq_some.mp new.2).1.symm
        | downlink =>
            obtain ⟨same, nonzero⟩ := EpsBearer.pdr_downlink_eq_some.mp new.2
            exact absurd same.symm nonzero
    | inr old => exact .inr old.2
  · exact .inr holds

theorem hasFar_addEpsBearer {ebi farId pdrId id key : Nat} {direction : Direction}
    {farIds : UintGenerator 32} {pdrIds : UintGenerator 16}
    (holds : (({ pdn with farIdGenerator := farIds, pdrIdGenerator := pdrIds }).addEpsBearer
      { ebi := ebi, farIdUl := some farId, pdrIdUl := pdrId }).HasFar id key direction) :
    id = farId ∨ pdn.HasFar id key direction := by
  unfold PdnConnection.addEpsBearer at holds
  split at holds
  · cases holds_insert.mp holds with
    | inl new =>
        cases direction with
        | uplink =>
            exact .inl (Option.some.inj (EpsBearer.far_uplink_eq_some.mp new.2).1).symm
        | downlink => cases (EpsBearer.far_downlink_eq_some.mp new.2).1
    | inr old => exact .inr old.2
  · exact .inr holds

theorem generators_addEpsBearer {bearer : EpsBearer} :
    (pdn.addEpsBearer bearer).farIdGenerator = pdn.farIdGenerator ∧
      (pdn.addEpsBearer bearer).pdrIdGenerator = pdn.pdrIdGenerator := by
  unfold PdnConnection.addEpsBearer
  split <;> exact ⟨rfl, rfl⟩

/-- The loop over the contexts to be created, with the request as far as it is built. -/
theorem establish_mirrors {bearers : List BearerContextToBeCreated} {more : List UplinkRules}
    (accepts : up.Accepts rules) (mirrors : Mirrors pdn (up.execute rules))
    (added : addBearers pdn bearers = some (next, more)) :
    ∃ all : ModificationRules,
      all.createPdrs = rules.createPdrs ++ (establishmentRules more).createPdrs ∧
      all.createFars = rules.createFars ++ (establishmentRules more).createFars ∧
      all.updateFars = rules.updateFars ∧
      up.Accepts all ∧ Mirrors next (up.execute all) := by
  induction bearers generalizing pdn rules more with
  | nil =>
      cases added
      exact ⟨rules, (List.append_nil _).symm, (List.append_nil _).symm, rfl, accepts, mirrors⟩
  | cons bearer bearers inductionHypothesis =>
      obtain ⟨farIds, pdrIds, farId, pdrId, rest, draws, continued, rfl⟩ :=
        PdnConnection.addBearers_cons mirrors.sound.numbered added
      have newFar : farId ∉ (up.execute rules).fars :=
        fun held => draws.farFresh (mirrors.farsDrawn held)
      have newPdr : pdrId ∉ (up.execute rules).pdrs :=
        fun held => draws.pdrFresh (mirrors.pdrsDrawn held)
      have first := accepts.createFar ⟨farId, .core, none⟩ newFar
      have second := first.createPdr ⟨pdrId, .access, farId⟩ newPdr
        (UpSession.mem_execute_createFar.mpr (.inr rfl))
      have mirrorsNext : Mirrors
          (({ pdn with farIdGenerator := farIds, pdrIdGenerator := pdrIds }).addEpsBearer
            { ebi := bearer.epsBearerId, farIdUl := some farId, pdrIdUl := pdrId }) (up.execute
            { rules with
              createFars := rules.createFars ++ [⟨farId, .core, none⟩]
              createPdrs := rules.createPdrs ++ [⟨pdrId, .access, farId⟩] }) := by
        constructor
        · exact mirrors.sound.addUplink bearer.epsBearerId draws
        · intro id key direction holds
          apply UpSession.mem_execute_createPdr.mpr
          cases hasPdr_addEpsBearer holds with
          | inl new => exact .inr new
          | inr old => exact .inl (mirrors.pdrHeld id key direction old)
        · intro id key direction holds
          apply UpSession.mem_execute_createFar.mpr
          cases hasFar_addEpsBearer holds with
          | inl new => exact .inr new
          | inr old => exact .inl (mirrors.farHeld id key direction old)
        · intro id held
          rw [generators_addEpsBearer.2, draws.pdrLive, Finset.mem_insert]
          exact (UpSession.mem_execute_createPdr.mp held).symm.imp_right
            fun old => mirrors.pdrsDrawn old
        · intro id held
          rw [generators_addEpsBearer.1, draws.farLive, Finset.mem_insert]
          exact (UpSession.mem_execute_createFar.mp held).symm.imp_right
            fun old => mirrors.farsDrawn old
      obtain ⟨all, pdrs, fars, updates, allAccepted, allMirrored⟩ :=
        inductionHypothesis second mirrorsNext continued
      refine ⟨all, ?_, ?_, updates, allAccepted, allMirrored⟩
      · rw [pdrs, List.append_assoc]
        rfl
      · rw [fars, List.append_assoc]
        rfl

/-- The establishment is accepted by a session that holds nothing. -/
theorem established_mirrors {bearers : List BearerContextToBeCreated} {more : List UplinkRules}
    (new : New pdn) (added : addBearers pdn bearers = some (next, more)) :
    UpSession.Accepts {} (establishmentRules more) ∧
      Mirrors next (({} : UpSession).execute (establishmentRules more)) := by
  have start : Mirrors pdn (({} : UpSession).execute {}) := by
    rw [UpSession.execute_empty]
    exact new.mirrors
  obtain ⟨all, pdrs, fars, updates, accepts, mirrors⟩ :=
    establish_mirrors (UpSession.accepts_empty {}) start added
  have same : all = establishmentRules more := by
    cases all
    simp only [List.nil_append] at pdrs fars updates
    rw [pdrs, fars, updates]
    rfl
  rw [← same]
  exact ⟨accepts, mirrors⟩

/-! ### Modification -/

variable {m after : Modification} {it : BearerContextToBeModified}

/-- The request that the loop builds, beside the connection it writes to. -/
structure Backed (up : UpSession) (m : Modification) : Prop where
  accepts : up.Accepts m.rules
  mirrors : Mirrors m.pdn (up.execute m.rules)
  quiet : m.sendSx = false → m.rules = {}

theorem hasPdr_put {ebi id key : Nat} {direction : Direction}
    (holds : (m.put ebi (m.bearerAt ebi)).pdn.HasPdr id key direction) :
    m.pdn.HasPdr id key direction := by
  cases holds_insert.mp holds with
  | inl new =>
      rw [new.1]
      exact Modification.pdr_bearerAt new.2
  | inr old => exact old.2

theorem hasFar_put {ebi id key : Nat} {direction : Direction}
    (holds : (m.put ebi (m.bearerAt ebi)).pdn.HasFar id key direction) :
    m.pdn.HasFar id key direction := by
  cases holds_insert.mp holds with
  | inl new =>
      rw [new.1]
      exact Modification.far_bearerAt new.2
  | inr old => exact old.2

theorem mirrors_put (mirrors : Mirrors m.pdn up) (ebi : Nat) :
    Mirrors (m.put ebi (m.bearerAt ebi)).pdn up where
  sound := Modification.sound_put mirrors.sound ebi
  pdrHeld id key direction holds := mirrors.pdrHeld id key direction (hasPdr_put holds)
  farHeld id key direction holds := mirrors.farHeld id key direction (hasFar_put holds)
  pdrsDrawn := mirrors.pdrsDrawn
  farsDrawn := mirrors.farsDrawn

/-- A bearer context of a bearer identity: both FARs of an update are held. -/
theorem Backed.updated (backed : Backed up m) {farId : Nat} (v : UserPlaneFteid)
    (ranged : 5 ≤ it.target) (own : (m.bearerAt it.target).ebi = it.target)
    (nonzero : farId ≠ 0) (far : (m.bearerAt it.target).farIdDl = some farId) :
    up.Accepts (m.updating (m.bearerAt it.target) farId v).rules ∧
      up.execute (m.updating (m.bearerAt it.target) farId v).rules = up.execute m.rules := by
  have mirrors := backed.mirrors
  have down : farId ∈ (up.execute m.rules).fars := by
    apply mirrors.farHeld farId it.target .downlink
    exact Modification.far_bearerAt (EpsBearer.far_downlink_eq_some.mpr ⟨far, nonzero⟩)
  have up' : (m.bearerAt it.target).farIdUl.getD 0 ∈ (up.execute m.rules).fars := by
    cases Modification.placed_bearerAt mirrors.sound it.target with
    | assigned same range paired _ =>
        obtain ⟨farUl, farNonzero, given, _⟩ := paired
        rw [given, Option.getD_some]
        apply mirrors.farHeld farUl it.target .uplink
        exact Modification.far_bearerAt (EpsBearer.far_uplink_eq_some.mpr ⟨given, farNonzero⟩)
    | unassigned none _ _ _ _ => omega
  exact ⟨(backed.accepts.updateFar ⟨farId, .forw, some v.outerHeaderCreation⟩ down).updateFar
    ⟨(m.bearerAt it.target).farIdUl.getD 0, .forw, none⟩ up', rfl⟩

/-- New rules for the downlink of a bearer. -/
theorem Backed.created (backed : Backed up m) {farIds : UintGenerator 32}
    {pdrIds : UintGenerator 16} {farId pdrId : Nat} (v : UserPlaneFteid)
    (own : (m.bearerAt it.target).ebi = it.target)
    (draws : Draws m.pdn.farIdGenerator farIds m.pdn.pdrIdGenerator pdrIds farId pdrId) :
    Backed up ((m.creating farIds pdrIds farId pdrId v).put it.target
      { m.bearerAt it.target with farIdDl := some farId, pdrIdDl := pdrId }) := by
  have mirrors := backed.mirrors
  have newFar : farId ∉ (up.execute m.rules).fars :=
    fun held => draws.farFresh (mirrors.farsDrawn held)
  have newPdr : pdrId ∉ (up.execute m.rules).pdrs :=
    fun held => draws.pdrFresh (mirrors.pdrsDrawn held)
  have first := backed.accepts.createFar ⟨farId, .access, some v.outerHeaderCreation⟩ newFar
  have second := first.createPdr ⟨pdrId, .core, farId⟩ newPdr
    (UpSession.mem_execute_createFar.mpr (.inr rfl))
  refine ⟨second, ⟨Modification.sound_create mirrors.sound own draws v, ?_, ?_, ?_, ?_⟩,
    fun quiet => by cases quiet⟩
  · intro id key direction holds
    apply UpSession.mem_execute_createPdr.mpr
    cases holds_insert.mp holds with
    | inl new =>
        cases direction with
        | uplink =>
            exact .inl (mirrors.pdrHeld id it.target .uplink (Modification.pdr_bearerAt new.2))
        | downlink => exact .inr (EpsBearer.pdr_downlink_eq_some.mp new.2).1.symm
    | inr old => exact .inl (mirrors.pdrHeld id key direction old.2)
  · intro id key direction holds
    apply UpSession.mem_execute_createFar.mpr
    cases holds_insert.mp holds with
    | inl new =>
        cases direction with
        | uplink =>
            exact .inl (mirrors.farHeld id it.target .uplink (Modification.far_bearerAt new.2))
        | downlink => exact .inr (Option.some.inj (EpsBearer.far_downlink_eq_some.mp new.2).1).symm
    | inr old => exact .inl (mirrors.farHeld id key direction old.2)
  · intro id held
    show id ∈ pdrIds.uidGenerated
    rw [draws.pdrLive, Finset.mem_insert]
    exact (UpSession.mem_execute_createPdr.mp held).symm.imp_right
      fun old => mirrors.pdrsDrawn old
  · intro id held
    show id ∈ farIds.uidGenerated
    rw [draws.farLive, Finset.mem_insert]
    exact (UpSession.mem_execute_createFar.mp held).symm.imp_right
      fun old => mirrors.farsDrawn old

/-- One pass of the loop. -/
theorem Backed.handled (backed : Backed up m) (ranged : 5 ≤ it.target)
    (handled : Modification.Handled m it (m.bearerAt it.target) after) : Backed up after := by
  cases handled with
  | missing other same =>
      rw [same]
      exact ⟨backed.accepts, mirrors_put backed.mirrors it.target, backed.quiet⟩
  | unchanged own given active same =>
      rw [same]
      exact ⟨backed.accepts, mirrors_put backed.mirrors it.target, backed.quiet⟩
  | kept own given same =>
      rw [same]
      exact ⟨backed.accepts, mirrors_put backed.mirrors it.target, backed.quiet⟩
  | updated v farId own given changed nonzero far pdr same =>
      obtain ⟨accepts, held⟩ := backed.updated v ranged own nonzero far
      have mirrors := mirrors_put backed.mirrors it.target
      rw [← held] at mirrors
      rw [same]
      exact ⟨accepts, mirrors, fun quiet => by cases quiet⟩
  | created v farIds pdrIds farId pdrId own given changed unset draws same =>
      rw [same]
      exact backed.created v own draws

theorem Backed.bearers {its : List BearerContextToBeModified} (backed : Backed up m)
    (ranged : ∀ it ∈ its, 5 ≤ it.target ∧ it.target ≤ 15) (ran : m.bearers its = some after) :
    Backed up after := by
  induction its generalizing m with
  | nil =>
      cases ran
      exact backed
  | cons it its inductionHypothesis =>
      rw [List.forall_mem_cons] at ranged
      obtain ⟨middle, first, later⟩ := Option.bind_eq_some_iff.mp ran
      have handled := Modification.handled_of_bearer backed.mirrors.sound first
      exact inductionHypothesis (backed.handled ranged.1.1 handled) ranged.2 later

/-! ### Release -/

/-- The FARs of a release are those that the bearers record. -/
theorem Mirrors.releasing (mirrors : Mirrors pdn up) :
    up.Accepts (releasingRules pdn) ∧ up.execute (releasingRules pdn) = up := by
  have held {key farId : Nat} {bearer : EpsBearer} (direction : Direction)
      (stored : pdn.epsBearers[key]? = some bearer) (given : bearer.far direction = some farId) :
      farId ∈ up.fars := mirrors.farHeld farId key direction ⟨bearer, stored, given⟩
  have same : up.execute (releasingRules pdn) = up := by
    simp [UpSession.execute, releasingRules]
  refine ⟨⟨?_, List.nodup_nil, ?_, List.nodup_nil, ?_, ?_⟩, same⟩
  · exact fun _ absent => absurd absent List.not_mem_nil
  · exact fun _ absent => absurd absent List.not_mem_nil
  · intro far member
    rw [same]
    obtain ⟨⟨key, bearer⟩, inside, rule⟩ := List.mem_flatMap.mp member
    have stored := ExtTreeMap.mem_toList_iff_getElem?_eq_some.mp inside
    have placed := mirrors.sound.placed key bearer stored
    cases List.mem_append.mp rule with
    | inl down =>
        rw [Option.mem_toList] at down
        obtain ⟨farId, given, rfl⟩ := Option.map_eq_some_iff.mp down
        apply held .downlink stored
        apply EpsBearer.far_downlink_eq_some.mpr ⟨given, _⟩
        cases Modification.down_of_placed placed with
        | inl unset =>
            rw [unset.2] at given
            cases given
        | inr paired =>
            obtain ⟨id, nonzero, same, _⟩ := paired
            rw [same] at given
            cases given
            exact nonzero
    | inr upward =>
        rw [Option.mem_toList] at upward
        obtain ⟨farId, given, rfl⟩ := Option.map_eq_some_iff.mp upward
        apply held .uplink stored
        apply EpsBearer.far_uplink_eq_some.mpr ⟨given, _⟩
        cases placed with
        | assigned _ _ paired _ =>
            obtain ⟨id, nonzero, same, _⟩ := paired
            rw [same] at given
            cases given
            exact nonzero
        | unassigned _ _ _ unset _ =>
            rw [unset.2] at given
            cases given
  · exact fun _ absent => absurd absent List.not_mem_nil

/-! ### Runs -/

/-- One step: the UP node accepts what it is sent, and still mirrors the connection. -/
theorem Mirrors.step {s t : SessionState} {action : SessionAction}
    {requests : List ModificationRules} (mirrors : Mirrors s.pdn s.up) (ranged : action.Ranged)
    (taken : s.step action = some (t, requests)) :
    (∀ rules ∈ requests, s.up.Accepts rules) ∧ Mirrors t.pdn t.up := by
  cases action with
  | modifyBearer its =>
      obtain ⟨m, ran, result⟩ := Option.map_eq_some_iff.mp taken
      have start : Backed s.up { pdn := s.pdn } := by
        refine ⟨UpSession.accepts_empty s.up, ?_, fun _ => rfl⟩
        rw [UpSession.execute_empty]
        exact mirrors
      have backed := start.bearers ranged ran
      by_cases sends : m.sendSx = true
      · rw [if_pos sends] at result
        cases result
        refine ⟨?_, backed.mirrors⟩
        intro rules member
        rw [List.mem_singleton.mp member]
        exact backed.accepts
      · rw [if_neg sends] at result
        cases result
        have quiet := backed.quiet (Bool.not_eq_true _ ▸ sends)
        have last := backed.mirrors
        rw [quiet, UpSession.execute_empty] at last
        exact ⟨fun _ absent => absurd absent List.not_mem_nil, last⟩
  | releaseAccessBearers =>
      cases taken
      obtain ⟨accepts, same⟩ := mirrors.releasing
      refine ⟨?_, ?_⟩
      · intro rules member
        rw [List.mem_singleton.mp member]
        exact accepts
      · show Mirrors (Gateway.releaseBearers s.pdn) (s.up.execute (releasingRules s.pdn))
        rw [same]
        exact mirrors.relabels mirrors.sound.releaseBearers
  | sessionEstablishmentResponse response =>
      cases taken
      exact ⟨fun _ absent => absurd absent List.not_mem_nil,
        mirrors.relabels (mirrors.sound.established response)⟩
  | sessionModificationResponse toBeModified updateFars pending response =>
      cases taken
      exact ⟨fun _ absent => absurd absent List.not_mem_nil,
        mirrors.relabels (mirrors.sound.completed toBeModified updateFars pending response)⟩

/-- The requests of a connection never contradict what the UP node holds: the
establishment is accepted, and along every run of the procedures after it each request
is accepted and the recorded identifiers are held, each once. -/
theorem rules_consistent {bearers : List BearerContextToBeCreated} {created : List UplinkRules}
    (new : New pdn) (added : addBearers pdn bearers = some (next, created))
    {records : List (StepRecord SessionState SessionAction ModificationRules)}
    {finish : SessionState}
    (run : Run step ⟨next, ({} : UpSession).execute (establishmentRules created)⟩ records finish)
    (ranged : ∀ record ∈ records, record.action.Ranged) :
    UpSession.Accepts {} (establishmentRules created) ∧
      (∀ record ∈ records, ∀ rules ∈ record.events, record.before.up.Accepts rules) ∧
      finish.Consistent := by
  obtain ⟨accepts, start⟩ := established_mirrors new added
  have whole : (∀ record ∈ records, ∀ rules ∈ record.events, record.before.up.Accepts rules) ∧
      Mirrors finish.pdn finish.up := by
    induction run with
    | nil => exact ⟨fun _ absent => absurd absent List.not_mem_nil, start⟩
    | snoc earlier taken inductionHypothesis =>
        rw [List.forall_mem_append] at ranged
        obtain ⟨before, mirrors⟩ := inductionHypothesis ranged.1
        obtain ⟨last, kept⟩ := mirrors.step (ranged.2 _ (List.mem_singleton.mpr rfl)) taken
        refine ⟨?_, kept⟩
        rw [List.forall_mem_append]
        refine ⟨before, ?_⟩
        intro record member
        rw [List.mem_singleton.mp member]
        exact last
  exact ⟨accepts, whole.1, whole.2.consistent⟩

theorem addedBearers_isSome : (addBearers {} [⟨5⟩, ⟨6⟩, ⟨6⟩]).isSome = true := by decide

/-- A connection with two bearers, of which the second is established twice. -/
def addedBearers : PdnConnection × List UplinkRules :=
  (addBearers {} [⟨5⟩, ⟨6⟩, ⟨6⟩]).get addedBearers_isSome

/-- The first bearer is modified twice in one request, released and modified again. -/
theorem rules_consistent_two :
    ∃ (records : List (StepRecord SessionState SessionAction ModificationRules))
      (finish : SessionState), (trace records).length = 3 ∧
        UpSession.Accepts {} (establishmentRules addedBearers.2) ∧
        (∀ record ∈ records, ∀ rules ∈ record.events, record.before.up.Accepts rules) ∧
        finish.Consistent := by
  obtain ⟨records, finish, run, sent, ranged⟩ := Run.exists_of_passes step
    ⟨addedBearers.1, ({} : UpSession).execute (establishmentRules addedBearers.2)⟩
    [.modifyBearer [⟨some 5, some { teidGreKey := 9 }, none⟩,
        ⟨some 5, some { teidGreKey := 9 }, none⟩],
      .releaseAccessBearers, .modifyBearer [⟨some 5, some { teidGreKey := 9 }, none⟩]]
    (fun records _ => (trace records).length = 3 ∧ ∀ record ∈ records, record.action.Ranged)
    (by decide)
  have added : addBearers {} [⟨5⟩, ⟨6⟩, ⟨6⟩] = some (addedBearers.1, addedBearers.2) :=
    (Option.some_get addedBearers_isSome).symm
  exact ⟨records, finish, sent, rules_consistent ⟨rfl, rfl, rfl⟩ added run ranged⟩

/-! ### The handlers -/

/-- The rules that a step of the gateway sends for a modification. -/
def sentRules : Service.Event → Option ModificationRules
  | .sessionModificationRequest _ _ rules => some rules
  | _ => none

theorem generateTrxnId_connections {g next : Gateway} {trxnId : Nat}
    (generated : g.generateTrxnId = some (trxnId, next)) :
    next.app.pdnConnections = g.app.pdnConnections := by
  obtain ⟨⟨uid, uids⟩, _, same⟩ := Option.map_eq_some_iff.mp generated
  cases same
  rfl

/-- `modify_bearer_procedure::run` does to its connection what `step` does, and sends the
same request. -/
theorem runModifyBearer_steps {g after : Gateway} {pc sp : Nat} {request : ModifyBearerRequest}
    {events : List Service.Event} (up : UpSession)
    (ran : g.runModifyBearer pc sp request true = some (after, events)) :
    ∃ s, step ⟨g.app.pdnConnections sp, up⟩
        (.modifyBearer request.bearerContextsToBeModified) =
          some (s, events.filterMap sentRules) ∧
      after.app.pdnConnections sp = s.pdn := by
  simp only [Gateway.runModifyBearer, Option.bind_eq_bind, Option.bind_eq_some_iff,
    Option.pure_def] at ran
  obtain ⟨⟨trxnId, middle⟩, generated, m, modified, rest⟩ := ran
  rw [generateTrxnId_connections generated] at modified
  rw [step, modified, Option.map_some]
  by_cases sends : m.sendSx = true
  · rw [if_pos sends] at rest
    cases rest
    refine ⟨⟨m.pdn, up.execute m.rules⟩, by rw [if_pos sends]; rfl, ?_⟩
    show Function.update _ sp _ sp = _
    rw [Function.update_self]
  · rw [if_neg sends] at rest
    cases rest
    refine ⟨⟨m.pdn, up⟩, by rw [if_neg sends]; rfl, ?_⟩
    show Function.update _ sp _ sp = _
    rw [Function.update_self]

/-- So does `release_access_bearers_procedure::run`. -/
theorem runReleaseAccessBearers_steps {g after : Gateway} {pc sp : Nat}
    {request : ReleaseAccessBearersRequest} {events : List Service.Event} (up : UpSession)
    (ran : g.runReleaseAccessBearers pc sp request true = some (after, events)) :
    ∃ s, step ⟨g.app.pdnConnections sp, up⟩ .releaseAccessBearers =
        some (s, events.filterMap sentRules) ∧
      after.app.pdnConnections sp = s.pdn := by
  simp only [Gateway.runReleaseAccessBearers, Option.bind_eq_bind, Option.bind_eq_some_iff,
    Option.pure_def] at ran
  obtain ⟨⟨trxnId, middle⟩, generated, rest⟩ := ran
  have same : middle.app.pdnConnections sp = g.app.pdnConnections sp := by
    rw [generateTrxnId_connections generated]
  dsimp only at rest
  rw [if_pos trivial, same] at rest
  cases rest
  refine ⟨⟨Gateway.releaseBearers (g.app.pdnConnections sp), _⟩, rfl, ?_⟩
  show Function.update _ sp _ sp = _
  rw [Function.update_self]

end SessionState

end OpenairSpgwc.Pgw
