import OpenairSpgwc.Foundation.Index
import OpenairSpgwc.Pgw.Bearers
import OpenairSpgwc.Pgw.Effects

/-!
Contract: the references of the PGW point to objects that exist.

Owns: the invariant `Grounded` of every reachable state. The tables name
contexts that have been allocated, a number that has not been allocated stands
for a blank context, a pending procedure has been built with an identifier of
its own, bearers are stored under their identities and the pools have the shape
of the configuration.
-/

namespace OpenairSpgwc.Pgw

open Foundation
open OpenairSpgwc.Common
open Std (ExtTreeMap)

namespace State

/-- A procedure that has been built. -/
def Known (s : State) (proc : Procedure) : Prop :=
  proc.address < s.nextAddress ∧ proc.trxnId ∈ s.uids.uidGenerated

structure Grounded (config : Config) (s : State) : Prop where
  provisioned : s.paaDynamic.Provisioned config.pdns
  blank : ∀ pc, s.nextAddress ≤ pc → s.contexts pc = {}
  imsis : ∀ imsi pc : Nat, s.imsi2pgwContext[imsi]? = some pc → pc < s.nextAddress
  teids : ∀ teid pc : Nat, s.s5s8lteid2pgwContext[teid]? = some pc → pc < s.nextAddress
  procedures : ∀ pc, ∀ proc ∈ (s.contexts pc).pendingProcedures, s.Known proc
  bearers : ∀ sp, (s.pdnConnections sp).Keyed

variable {config : Config} {s t before after : State} {request : CreateSessionRequest}
  {response : CreateSessionResponse} {upNode : UpNode} {events : List Event}
  {pc sa sp endValue : Nat} {label : String}

theorem grounded_init (config : Config) : Grounded config (init config.pdns) where
  provisioned := PaaDynamic.provisioned_applyConfig config.pdns
  blank _ _ := rfl
  imsis imsi pc known := by simp [init] at known
  teids teid pc known := by simp [init] at known
  procedures pc proc member := by cases member
  bearers sp ebi bearer stored := by simp [init] at stored

/-! ## Writes -/

/-- A write to a context that adds no procedure and leaves contexts that are not
allocated blank. -/
theorem Grounded.setContext (grounded : Grounded config s) {context : PgwContext}
    (blank : s.nextAddress ≤ pc → context = {})
    (procedures : context.pendingProcedures ⊆ (s.contexts pc).pendingProcedures) :
    Grounded config (s.setContext pc context) where
  provisioned := grounded.provisioned
  blank other beyond := by
    simp only [State.setContext, Function.update_apply]
    split
    · next same =>
        rw [same] at beyond
        exact blank beyond
    · exact grounded.blank other beyond
  imsis := grounded.imsis
  teids := grounded.teids
  procedures other proc member := by
    simp only [State.setContext, Function.update_apply] at member
    split at member
    · exact grounded.procedures pc proc (procedures member)
    · exact grounded.procedures other proc member
  bearers := grounded.bearers

theorem Grounded.removeProcedure (grounded : Grounded config s) (address : Nat) :
    Grounded config (s.removeProcedure pc address) := by
  apply grounded.setContext
  · intro beyond
    rw [grounded.blank pc beyond]
    rfl
  · exact List.eraseP_subset

theorem Grounded.setPools (grounded : Grounded config s) {pools : PaaDynamic}
    (provisioned : pools.Provisioned config.pdns) :
    Grounded config { s with paaDynamic := pools } :=
  { grounded with provisioned := provisioned }

theorem Grounded.setPdnConnection (grounded : Grounded config s) {pdn : PdnConnection}
    (keyed : pdn.Keyed) : Grounded config (s.setPdnConnection sp pdn) where
  provisioned := grounded.provisioned
  blank := grounded.blank
  imsis := grounded.imsis
  teids := grounded.teids
  procedures := grounded.procedures
  bearers other := by
    simp only [State.setPdnConnection, Function.update_apply]
    split
    · exact keyed
    · exact grounded.bearers other

theorem Grounded.setApnContext (grounded : Grounded config s) {apn : ApnContext} :
    Grounded config (s.setApnContext sa apn) :=
  { grounded with }

theorem Grounded.deleteIfEmpty (grounded : Grounded config s) :
    Grounded config (s.deleteIfEmpty pc) := by
  unfold State.deleteIfEmpty
  split
  · refine { grounded with imsis := fun imsi pc known => ?_ }
    exact grounded.imsis imsi pc (getElem?_of_erase known)
  · exact grounded

theorem Grounded.startProcedure (grounded : Grounded config s) (allocated : pc < s.nextAddress)
    {ppc : Nat} {kind : ProcedureKind} {proc : Procedure}
    (started : Started s pc ppc kind proc t) : Grounded config t where
  provisioned := by
    rw [started.paaDynamic]
    exact grounded.provisioned
  blank other beyond := by
    rw [started.nextAddress] at beyond
    rw [started.contexts, Function.update_of_ne (by omega)]
    exact grounded.blank other (by omega)
  imsis imsi other known := by
    rw [started.imsiMap] at known
    exact (grounded.imsis imsi other known).trans_le started.keeps.nextAddress
  teids teid other known := by
    rw [started.teidMap] at known
    exact (grounded.teids teid other known).trans_le started.keeps.nextAddress
  procedures other entry member := by
    have older : ∀ pc, entry ∈ (s.contexts pc).pendingProcedures → t.Known entry := by
      intro pc present
      obtain ⟨address, drawn⟩ := grounded.procedures pc entry present
      refine ⟨address.trans_le started.keeps.nextAddress, ?_⟩
      rw [started.drawn.2]
      exact Finset.mem_insert_of_mem drawn
    rw [started.contexts, Function.update_apply] at member
    split at member
    · rcases List.mem_append.mp member with old | new
      · exact older pc old
      · rw [List.mem_singleton.mp new, Known, started.shape.1, started.nextAddress,
          started.drawn.2]
        exact ⟨Nat.lt_succ_self _, Finset.mem_insert_self _ _⟩
    · exact older other member
  bearers := by
    rw [started.pdnConnections]
    exact grounded.bearers

/-! ## Creating -/

theorem Grounded.routed (grounded : Grounded config s)
    (routed : s.route config request = .context pc t) :
    Grounded config t ∧ pc < t.nextAddress := by
  rcases route_context routed with
    ⟨rfl, ⟨imsi, -, known⟩ | ⟨-, known⟩⟩ | ⟨imsi, -, -, rfl, rfl⟩
  · exact ⟨grounded, grounded.imsis imsi pc known⟩
  · exact ⟨grounded, grounded.teids request.teid pc known⟩
  · refine ⟨?_, Nat.lt_succ_self _⟩
    have emptied : Grounded config (s.setContext s.nextAddress {}) :=
      grounded.setContext (fun _ => rfl) (List.nil_subset _)
    exact
      { provisioned := grounded.provisioned
        blank := fun other beyond => emptied.blank other (Nat.le_of_succ_le beyond)
        imsis := by
          intro other pc known
          simp only [newContext, ExtTreeMap.getElem?_insert] at known
          split at known
          · cases known
            exact Nat.lt_succ_self _
          · exact Nat.lt_succ_of_lt (grounded.imsis other pc known)
        teids := fun teid pc known => Nat.lt_succ_of_lt (grounded.teids teid pc known)
        procedures := by
          intro pc proc member
          obtain ⟨address, drawn⟩ := emptied.procedures pc proc member
          exact ⟨Nat.lt_succ_of_lt address, drawn⟩
        bearers := grounded.bearers }

theorem Grounded.entered (grounded : Grounded config s) (allocated : pc < s.nextAddress) :
    Grounded config (s.entered pc request) :=
  grounded.setContext (fun beyond => absurd allocated (Nat.not_lt.mpr beyond))
    (List.Subset.refl _)

theorem Grounded.attachedNew (grounded : Grounded config s) (allocated : pc < s.nextAddress)
    {teid : Nat} (new : AttachedNew s pc request teid t) : Grounded config t where
  provisioned := by
    rw [new.paaDynamic]
    exact grounded.provisioned
  blank other beyond := by
    rw [new.nextAddress] at beyond
    rw [new.contexts, Function.update_of_ne (by omega)]
    exact grounded.blank other (by omega)
  imsis imsi other known := by
    rw [new.imsiMap] at known
    rw [new.nextAddress]
    exact (grounded.imsis imsi other known).trans (by omega)
  teids key other known := by
    rw [new.teidMap, ExtTreeMap.getElem?_insert] at known
    rw [new.nextAddress]
    split at known
    · cases known
      omega
    · exact (grounded.teids key other known).trans (by omega)
  procedures other proc member := by
    have same : (t.contexts other).pendingProcedures = (s.contexts other).pendingProcedures := by
      rw [new.contexts, Function.update_apply]
      split
      · next here => rw [here]
      · rfl
    rw [same] at member
    obtain ⟨address, drawn⟩ := grounded.procedures other proc member
    rw [Known, new.nextAddress, new.uids]
    exact ⟨by omega, drawn⟩
  bearers other := by
    by_cases fresh : other = s.nextAddress + 1
    · rw [fresh]
      intro ebi bearer stored
      rw [new.noBearers] at stored
      simp at stored
    · rw [new.others other fresh]
      exact grounded.bearers other

theorem Grounded.attach (grounded : Grounded config s) (allocated : pc < s.nextAddress)
    (attached : s.attach pc request = some (t, sa, sp)) :
    Grounded config t ∧ pc < t.nextAddress := by
  rcases attach_cases attached with ⟨-, rfl⟩ | ⟨-, -, -, teid, new⟩
  · exact ⟨grounded, allocated⟩
  · refine ⟨grounded.attachedNew allocated new, ?_⟩
    rw [new.nextAddress]
    omega

theorem provisioned_releaseOnFailure {pdns : List PdnCfg} {pools : PaaDynamic}
    {pdnType : PdnType} {freePaa : Option Paa} (provisioned : pools.Provisioned pdns) :
    (releaseOnFailure pools label pdnType freePaa).Provisioned pdns := by
  unfold releaseOnFailure
  split
  · exact provisioned.releasePaa label _
  · exact provisioned.releasePaa label _
  · exact provisioned

theorem Grounded.establish (grounded : Grounded config s) (allocated : pc < s.nextAddress)
    (ran : s.establish config pc sa sp request response upNode = some (t, events)) :
    Grounded config t := by
  unfold State.establish at ran
  split at ran
  · cases ran
  · next proc inserted started =>
      have start := grounded.startProcedure allocated (started_of_startProcedure started)
      split at ran
      · cases ran
        exact (start.removeProcedure proc.address).setPools
          (provisioned_releaseOnFailure start.provisioned)
      · split at ran
        · cases ran
        · next after sentEvents result =>
            unfold runEstablishment at result
            split at result
            · cases result
            · next pdn rules added =>
                cases result
                have seeded : ((inserted.pdnConnections sp).generateSeid
                    config.instanceId).Keyed := start.bearers sp
                have written : Grounded config (inserted.setPdnConnection sp pdn) :=
                  start.setPdnConnection (seeded.addBearers added)
                have noted : Grounded config { inserted.setPdnConnection sp pdn with
                    seid2pgwContext := inserted.seid2pgwContext.insert pdn.seid pc } :=
                  { written with }
                split at ran
                · cases ran
                  exact noted
                · cases ran
                  exact noted.removeProcedure proc.address

theorem provisioned_paaFor (grounded : Grounded config s) (sa sp : Nat)
    (request : CreateSessionRequest) (endValue : Nat) :
    (s.paaFor sa sp request endValue).pools.Provisioned config.pdns := by
  rcases selectPaa_cases s.paaDynamic (s.apnContexts sa).apnInUse (s.pdnConnections sp).pdnType
    request.paa endValue with ⟨-, taken⟩ | ⟨-, refused⟩
  · rw [paaFor, taken]
    unfold requestedOrFreePaa
    split
    · exact grounded.provisioned
    · exact grounded.provisioned.getFreePaa _ _ _
  · rw [paaFor, refused]
    exact grounded.provisioned

theorem keyed_set {pdn : PdnConnection} {paa : Paa} (keyed : pdn.Keyed) : (pdn.set paa).Keyed := by
  unfold PdnConnection.set
  split <;> exact keyed

theorem Grounded.withPaa (grounded : Grounded config s) {paa : Paa} :
    Grounded config (s.withPaa sp (s.paaFor sa sp request endValue) paa) :=
  (grounded.setPools (provisioned_paaFor grounded sa sp request endValue)).setPdnConnection
    (keyed_set (grounded.bearers sp))

theorem Grounded.assignPaa (grounded : Grounded config s) (allocated : pc < s.nextAddress)
    (ran : s.assignPaa config pc sa sp request upNode endValue = some (t, events)) :
    Grounded config t := by
  rcases assignPaa_cases ran with ⟨-, rfl, -⟩ | ⟨-, -, paa, pending, started, -, -, -, ran, -⟩
  · exact grounded.setPools (provisioned_paaFor grounded sa sp request endValue)
  · exact grounded.withPaa.establish allocated ran

theorem Grounded.create (grounded : Grounded config s)
    (handled : s.handleCreateSessionRequest config request upNode endValue = some (t, events)) :
    Grounded config t := by
  rcases create_cases handled with ⟨-, rfl, -⟩ |
      ⟨pc, sa, sp, before, after, routed, attached, ran⟩
  · exact grounded
  · obtain ⟨arrived, allocated⟩ := grounded.routed routed
    obtain ⟨hung, allocated⟩ := (arrived.entered allocated).attach allocated attached
    exact hung.assignPaa allocated ran

/-! ## Responses and deletion -/

theorem keyed_established {pdn : PdnConnection} {answer : SessionEstablishmentResponse}
    (keyed : pdn.Keyed) : (established pdn answer).Keyed := by
  unfold established
  split
  · have noted : ({ pdn with upFseid := answer.upFseid.getD pdn.upFseid } :
        PdnConnection).Keyed := keyed
    rw [PdnConnection.foldl_createdPdr noted]
    exact noted.relabelled
  · rw [PdnConnection.foldl_createdPdr keyed]
    exact keyed.relabelled

theorem Grounded.establishmentResponse (grounded : Grounded config s)
    (answer : SessionEstablishmentResponse) :
    Grounded config (s.handleSessionEstablishmentResponse answer).1 := by
  unfold handleSessionEstablishmentResponse
  split
  · exact grounded
  · split
    · exact grounded
    · next proc pending =>
        split
        · exact (grounded.setPdnConnection
            (keyed_established (grounded.bearers proc.ppc))).removeProcedure _
        · exact grounded.removeProcedure _

theorem Grounded.deleteSession (grounded : Grounded config s) {order : DeleteSessionRequest}
    {sent : Bool} (handled : s.handleDeleteSessionRequest order sent = some (t, events)) :
    Grounded config t := by
  unfold handleDeleteSessionRequest at handled
  split at handled
  · cases handled
    exact grounded
  · split at handled
    · next pc routed =>
        have allocated := grounded.teids order.teid pc routed
        split at handled
        · cases handled
        · next after shown result =>
            cases handled
            apply Grounded.deleteIfEmpty
            unfold deleteInContext at result
            simp only at result
            split at result
            · split at result
              · cases result
              · next proc inserted started =>
                  have start := grounded.startProcedure allocated
                    (started_of_startProcedure started)
                  split at result
                  · cases result
                    exact start
                  · cases result
                    exact start.removeProcedure proc.address
            · split at result
              · cases result
                exact grounded
              · cases result
                exact grounded
    · split at handled
      · cases handled
        exact grounded
      · cases handled
        exact grounded

theorem Grounded.deallocateRessources (grounded : Grounded config s) :
    Grounded config (s.deallocateRessources label sp) := by
  have pools : (if (s.pdnConnections sp).ipv4 then
      (s.paaDynamic.releasePaa label (s.pdnConnections sp).ipv4Address).2
      else s.paaDynamic).Provisioned config.pdns := by
    split
    · exact grounded.provisioned.releasePaa _ _
    · exact grounded.provisioned
  have cleared : (s.pdnConnections sp).clear.Keyed := by
    intro ebi bearer stored
    simp [PdnConnection.clear] at stored
  apply Grounded.setPdnConnection _ cleared
  refine { grounded.setPools pools with teids := fun teid pc known => ?_ }
  exact grounded.teids teid pc (getElem?_of_erase known)

theorem Grounded.deleteFromApn (grounded : Grounded config s) :
    Grounded config (s.deleteFromApn sa sp) := by
  unfold State.deleteFromApn
  simp only
  split
  · exact grounded.deallocateRessources.deallocateRessources.setApnContext
  · exact grounded.deallocateRessources

theorem Grounded.deallocateApn (grounded : Grounded config s) :
    Grounded config (s.deallocateApn sa) := by
  apply Grounded.setApnContext
  generalize (s.apnContexts sa).pdnConnections = connections
  induction connections generalizing s with
  | nil => exact grounded
  | cons sp connections inductionHypothesis =>
      exact inductionHypothesis grounded.deallocateRessources

theorem Grounded.deletePdnConnection (grounded : Grounded config s) :
    Grounded config (s.deletePdnConnection pc sa sp) := by
  unfold State.deletePdnConnection
  simp only
  split
  · unfold deleteApnContext
    split
    · have emptied : Grounded config ((s.deleteFromApn sa sp).deallocateApn sa) :=
        grounded.deleteFromApn.deallocateApn
      apply emptied.setContext
      · intro beyond
        rw [emptied.blank pc beyond]
        rfl
      · exact List.Subset.refl _
    · exact grounded.deleteFromApn
  · exact grounded.deleteFromApn

theorem Grounded.deletionResponse (grounded : Grounded config s)
    (answer : SessionDeletionResponse) :
    Grounded config (s.handleSessionDeletionResponse answer).1 := by
  unfold handleSessionDeletionResponse
  split
  · exact grounded
  · split
    · exact grounded.deleteIfEmpty
    · next proc pending =>
        split
        · apply Grounded.deleteIfEmpty
          apply Grounded.removeProcedure
          unfold deleted
          split
          · exact grounded.deletePdnConnection
          · exact grounded
        · exact (grounded.removeProcedure _).deleteIfEmpty

theorem Grounded.step {action : Action} (grounded : Grounded config s)
    (taken : Pgw.step config s action = some (t, events)) : Grounded config t := by
  cases action with
  | createSession request upNode endValue => exact grounded.create taken
  | sessionEstablishmentResponse answer =>
      have answered := grounded.establishmentResponse answer
      rw [Option.some.inj taken] at answered
      exact answered
  | deleteSession order sent => exact grounded.deleteSession taken
  | sessionDeletionResponse answer =>
      have answered := grounded.deletionResponse answer
      rw [Option.some.inj taken] at answered
      exact answered

theorem grounded_of_run {records : List (StepRecord State Action Event)}
    (run : Run (Pgw.step config) (init config.pdns) records s) : Grounded config s :=
  (run.invariant (Grounded config) (grounded_init config)
    fun _ _ _ _ grounded taken => grounded.step taken).1

end State

end OpenairSpgwc.Pgw
