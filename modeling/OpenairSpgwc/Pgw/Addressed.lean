import OpenairSpgwc.Pgw.ApnContexts

/-!
Contract: the connection that a Modify Bearer or a Delete Session Request acts on.

The context is found by the destination TEID. The connection in it is found by the TEID of
the sender when the request has a sender F-TEID, and by the destination TEID otherwise.

Owns:
- `ModifiesOnly` and `DeletesOnly`: the requests with a destination and a sender act on one
  connection, whatever else they carry;
- when they do: the sender must be valid, and the connection the first one of its context
  with an SGW of that TEID.
-/

namespace OpenairSpgwc.Pgw

open Foundation
open OpenairSpgwc.Common
open Std (ExtTreeMap)

/-! ## Handlers that look a connection up -/

/-- A handler that looks a connection up runs its procedure for `sp` on all inputs when it
finds `sp`, or when the procedure hangs for every connection. -/
theorem runs_for_iff {ι ρ : Type} {run : Nat → ι → Option ρ} {reject : ι → Option ρ}
    {found : Option Nat} {sp : Nat} {exhausted : Prop}
    (hangs : exhausted → ∀ other input, run other input = none)
    (tells : ¬exhausted → ∀ other, other ≠ sp → ∃ input, run other input ≠ run sp input)
    (rejects : ∃ input, reject input ≠ run sp input) :
    (∀ input, (match found with
      | some other => run other input
      | none => reject input) = run sp input) ↔
        found = some sp ∨ (exhausted ∧ found.isSome) := by
  cases found with
  | none =>
      obtain ⟨input, differs⟩ := rejects
      exact iff_of_false (fun all => differs (all input)) (by simp)
  | some other =>
      rw [Option.some_inj, Option.isSome_some]
      constructor
      · intro all
        by_cases same : other = sp
        · exact .inl same
        · by_cases stuck : exhausted
          · exact .inr ⟨stuck, rfl⟩
          · obtain ⟨input, differs⟩ := tells stuck other same
            exact absurd (all input) differs
      · intro either input
        cases either with
        | inl same => rw [same]
        | inr stuck => exact (hangs stuck.1 other input).trans (hangs stuck.1 sp input).symm

namespace State

variable {s t : State} {pc sa sp : Nat} {events : List Event}

/-- The connection that both handlers look up for a request to the connection of `sa`. -/
def lookedUp (s : State) (pc sa : Nat) (sender : Option Fteid) : Option Nat :=
  (match sender with
  | some fteid => s.findPdnConnection pc fteid.teidGreKey false
  | none => s.findPdnConnection pc (s.teidOf sa) true).map Prod.snd

/-- The sender is valid, and the first connection of the context whose SGW has its TEID is
that of `sa`. Without identifiers for procedures, no connection is told from another. -/
def SenderLeadsTo (s : State) (pc sa : Nat) (sender : Option Fteid) : Prop :=
  ∀ fteid ∈ sender, Valid fteid = true ∧
    (s.FirstWith pc false fteid.teidGreKey sa ∨
      (s.uids.getUid = none ∧ ∃ other ∈ (s.contexts pc).apns,
        s.sgwTeidOf other = fteid.teidGreKey))

theorem Registered.lookedUp_eq_some_iff (registered : Registered s) {fteid : Fteid} :
    s.lookedUp pc sa (some fteid) = some (sa + 1) ↔
      s.FirstWith pc false fteid.teidGreKey sa := by
  unfold lookedUp
  rw [Option.map_eq_some_iff]
  constructor
  · rintro ⟨⟨other, found⟩, search, same⟩
    obtain ⟨rfl, first⟩ := registered.findPdnConnection_eq_some_iff.mp search
    cases same
    exact first
  · intro first
    exact ⟨(sa, sa + 1), registered.findPdnConnection_eq_some_iff.mpr ⟨rfl, first⟩, rfl⟩

theorem Registered.isSome_lookedUp_iff (registered : Registered s) {fteid : Fteid} :
    (s.lookedUp pc sa (some fteid)).isSome ↔
      ∃ other ∈ (s.contexts pc).apns, s.sgwTeidOf other = fteid.teidGreKey := by
  unfold lookedUp findPdnConnection
  rw [Option.isSome_map, List.isSome_findSome?, List.any_eq_true]
  constructor
  · rintro ⟨other, member, hit⟩
    rw [Option.isSome_map, registered.findInApn_eq member] at hit
    refine ⟨other, member, ?_⟩
    by_contra differs
    rw [if_neg (by simpa [searchedTeid] using differs)] at hit
    cases hit
  · rintro ⟨other, member, same⟩
    refine ⟨other, member, ?_⟩
    rw [Option.isSome_map, registered.findInApn_eq member,
      if_pos (by simpa [searchedTeid] using same)]
    rfl

/-- Both handlers drop the requests of invalid senders, and otherwise look a connection up. -/
theorem Registered.serves_iff (registered : Registered s) (member : sa ∈ (s.contexts pc).apns)
    {ι ρ : Type} (handle : ι → Option ρ) (run : Nat → ι → Option ρ) {drop reject : ι → Option ρ}
    {sender : Option Fteid}
    (shape : ∀ input, handle input =
      if sender.any fun fteid => !Valid fteid then drop input
      else match s.lookedUp pc sa sender with
        | some other => run other input
        | none => reject input)
    (hangs : s.uids.getUid = none → ∀ other input, run other input = none)
    (tells : s.uids.getUid ≠ none → ∀ other, other ≠ sa + 1 →
      ∃ input, run other input ≠ run (sa + 1) input)
    (drops : ∃ input, drop input ≠ run (sa + 1) input)
    (rejects : ∃ input, reject input ≠ run (sa + 1) input) :
    (∀ input, handle input = run (sa + 1) input) ↔ s.SenderLeadsTo pc sa sender := by
  cases sender with
  | none =>
      refine iff_of_true (fun input => ?_) fun fteid absent => by cases absent
      have own : s.lookedUp pc sa none = some (sa + 1) := by
        rw [lookedUp, registered.findPdnConnection_own member]
        rfl
      rw [shape, own]
      rfl
  | some fteid =>
      cases valid : Valid fteid with
      | false =>
          refine iff_of_false (fun all => ?_) fun leads => ?_
          · obtain ⟨input, differs⟩ := drops
            have here := shape input
            rw [all input, Option.any_some, valid] at here
            exact differs here.symm
          · have also := (leads fteid rfl).1
            rw [valid] at also
            cases also
      | true =>
          have searched : (∀ input, handle input = run (sa + 1) input) ↔
              ∀ input, (match s.lookedUp pc sa (some fteid) with
                | some other => run other input
                | none => reject input) = run (sa + 1) input := by
            refine forall_congr' fun input => ?_
            rw [shape, Option.any_some, valid]
            rfl
          rw [searched, runs_for_iff hangs tells rejects, registered.lookedUp_eq_some_iff,
            registered.isSome_lookedUp_iff]
          constructor
          · intro leads other same
            cases same
            exact ⟨valid, leads⟩
          · exact fun leads => (leads fteid rfl).2

/-! ## Delete Session Requests -/

/-- `delete_session_procedure` for the connection `sp`, up to its Sx request. -/
def runDeleteSession (s : State) (pc sp gtpcTxId : Nat) (sent : Bool) :
    Option (State × List Event) :=
  match s.startProcedure pc sp (.deleteSession pc gtpcTxId
      (s.pdnConnections sp).sgwFteidS5S8Cp.teidGreKey) with
  | none => none
  | some (proc, t) =>
      if sent then
        some (t, [.sessionDeletionRequest proc.trxnId (t.pdnConnections sp).upFseid])
      else
        some (t.removeProcedure pc proc.address, [])

/-- The procedure writes to no connection, and takes an address. -/
theorem runDeleteSession_effect {gtpcTxId : Nat} {sent : Bool}
    (ran : s.runDeleteSession pc sp gtpcTxId sent = some (t, events)) :
    t.pdnConnections = s.pdnConnections ∧ t.nextAddress = s.nextAddress + 1 ∧
      ∀ other, (t.contexts other).apns = (s.contexts other).apns := by
  unfold runDeleteSession at ran
  split at ran
  · cases ran
  · next proc after started =>
      have start := started_of_startProcedure started
      split at ran
      · cases ran
        exact ⟨start.pdnConnections, start.nextAddress, start.keeps.apns⟩
      · cases ran
        refine ⟨start.pdnConnections, start.nextAddress, ?_⟩
        exact (start.keeps.trans keeps_removeProcedure).apns

theorem runDeleteSession_of_exhausted (exhausted : s.uids.getUid = none) (gtpcTxId : Nat)
    (sent : Bool) : s.runDeleteSession pc sp gtpcTxId sent = none := by
  rw [runDeleteSession, startProcedure, exhausted]

/-- The pending procedure tells its connection. -/
theorem runDeleteSession_tells (available : s.uids.getUid ≠ none) {other : Nat}
    (different : other ≠ sp) (gtpcTxId : Nat) :
    s.runDeleteSession pc other gtpcTxId true ≠ s.runDeleteSession pc sp gtpcTxId true := by
  obtain ⟨⟨trxnId, uids⟩, drawn⟩ := Option.ne_none_iff_exists'.mp available
  intro same
  have pending := congrArg (Option.map fun result : State × List Event =>
    (result.1.contexts pc).pendingProcedures.map Procedure.ppc) same
  simp [runDeleteSession, startProcedure, drawn, insertProcedure, setContext] at pending
  exact different pending

theorem invalid_eq : (fun sender : Fteid =>
    sender.interfaceType != s5s8SgwGtpC || sender.teidGreKey == 0) = fun fteid => !Valid fteid := by
  funext fteid
  simp [Valid, Bool.not_and, bne]

/-- A context with a connection stays. -/
theorem deleteIfEmpty_of_mem (member : sa ∈ (s.contexts pc).apns) : s.deleteIfEmpty pc = s := by
  unfold deleteIfEmpty
  rw [if_neg]
  intro empty
  rw [List.length_eq_zero_iff.mp empty] at member
  cases member

theorem deleteInContext_eq (gtpcTxId : Nat) (sender : Option Fteid) (sent : Bool) :
    s.deleteInContext pc ⟨gtpcTxId, s.teidOf sa, sender⟩ sent =
      match s.lookedUp pc sa sender with
      | some other => s.runDeleteSession pc other gtpcTxId sent
      | none => some (s, (sender.map fun fteid => Event.deleteSessionResponse gtpcTxId
          fteid.teidGreKey .contextNotFound).toList) := by
  unfold deleteInContext lookedUp runDeleteSession
  cases sender with
  | none =>
      dsimp only
      cases s.findPdnConnection pc (s.teidOf sa) true <;> rfl
  | some fteid =>
      dsimp only
      cases s.findPdnConnection pc fteid.teidGreKey false <;> rfl

theorem handleDeleteSessionRequest_eq (registered : Registered s)
    (member : sa ∈ (s.contexts pc).apns) (gtpcTxId : Nat) (sender : Option Fteid) (sent : Bool) :
    s.handleDeleteSessionRequest ⟨gtpcTxId, s.teidOf sa, sender⟩ sent =
      if sender.any fun fteid => !Valid fteid then some (s, [])
      else match s.lookedUp pc sa sender with
        | some other => s.runDeleteSession pc other gtpcTxId sent
        | none => some (s, (sender.map fun fteid => Event.deleteSessionResponse gtpcTxId
            fteid.teidGreKey .contextNotFound).toList) := by
  unfold handleDeleteSessionRequest
  rw [invalid_eq]
  by_cases dropped : sender.any fun fteid => !Valid fteid
  · rw [if_pos dropped, if_pos dropped]
  · rw [if_neg dropped, if_neg dropped]
    dsimp only
    rw [registered.routed pc sa member]
    dsimp only
    rw [deleteInContext_eq]
    have stays : ∀ t : State, (t.contexts pc).apns = (s.contexts pc).apns →
        t.deleteIfEmpty pc = t := by
      intro t same
      exact deleteIfEmpty_of_mem (by rw [same]; exact member)
    cases s.lookedUp pc sa sender with
    | none =>
        dsimp only
        rw [stays s rfl]
    | some other =>
        dsimp only
        cases ran : s.runDeleteSession pc other gtpcTxId sent with
        | none => rfl
        | some result =>
            obtain ⟨t, events⟩ := result
            dsimp only
            rw [stays t ((runDeleteSession_effect ran).2.2 pc)]

end State

/-! ## Modify Bearer Requests -/

namespace Gateway

variable {config : Config} {g next : Gateway} {pc sa sp : Nat} {events : List Service.Event}

theorem runModifyBearer_nextAddress {request : ModifyBearerRequest} {sent : Bool}
    (ran : g.runModifyBearer pc sp request sent = some (next, events)) :
    next.app.nextAddress = g.app.nextAddress + 1 := by
  simp only [runModifyBearer, Option.bind_eq_bind, Option.bind_eq_some_iff,
    Option.pure_def] at ran
  obtain ⟨⟨trxnId, middle⟩, generated, m, modified, rest⟩ := ran
  have counted : middle.app.nextAddress = g.app.nextAddress + 1 := by
    obtain ⟨⟨uid, uids⟩, _, same⟩ := Option.map_eq_some_iff.mp generated
    cases same
    rfl
  split at rest
  · split at rest
    · cases rest
      exact counted
    · cases rest
      exact counted
  · cases rest
    exact counted

theorem runModifyBearer_of_exhausted (exhausted : g.app.uids.getUid = none)
    (request : ModifyBearerRequest) (sent : Bool) :
    g.runModifyBearer pc sp request sent = none := by
  rw [runModifyBearer, generateTrxnId, exhausted]
  rfl

theorem exists_unused_ebi (pdn : PdnConnection) : ∃ ebi, ebi ≠ 0 ∧ ebi ∉ pdn.epsBearers := by
  obtain ⟨ebi, unused⟩ := Infinite.exists_notMem_finset (insert 0 pdn.epsBearers.keys.toFinset)
  rw [Finset.mem_insert, List.mem_toFinset, ExtTreeMap.mem_keys] at unused
  exact ⟨ebi, fun zero => unused (.inl zero), fun stored => unused (.inr stored)⟩

/-- A request for one bearer that the connection does not have. -/
theorem runModifyBearer_of_unused (available : g.app.uids.getUid ≠ none) {ebi : Nat}
    (nonzero : ebi ≠ 0) (unused : ebi ∉ (g.app.pdnConnections sp).epsBearers)
    (gtpcTxId teid : Nat) (sender : Option Fteid) (sent : Bool) :
    ∃ next events, g.runModifyBearer pc sp
        ⟨gtpcTxId, teid, sender, [{ epsBearerId := some ebi }]⟩ sent = some (next, events) ∧
      ebi ∈ (next.app.pdnConnections sp).epsBearers := by
  obtain ⟨⟨trxnId, uids⟩, drawn⟩ := Option.ne_none_iff_exists'.mp available
  let start : Modification := { pdn := g.app.pdnConnections sp }
  let it : BearerContextToBeModified := { epsBearerId := some ebi }
  have blank : start.bearerAt it.target = {} := by
    show (g.app.pdnConnections sp).epsBearers[ebi]?.getD {} = {}
    rw [ExtTreeMap.getElem?_eq_none unused]
    rfl
  -- The bearer that `operator[]` makes has the EBI zero, so it is answered at once.
  have pass : start.bearers [it] = some ((start.put ebi {}).answer 0 .systemFailure) := by
    have other : ({} : EpsBearer).ebi ≠ it.target := nonzero.symm
    rw [Modification.bearers, Modification.bearer_eq, blank, if_pos other]
    rfl
  unfold runModifyBearer generateTrxnId
  rw [drawn]
  simp only [Option.map_some, Option.bind_eq_bind, Option.bind_some, Option.pure_def]
  rw [pass]
  refine ⟨_, _, rfl, ?_⟩
  show ebi ∈ (Function.update g.app.pdnConnections sp _ sp).epsBearers
  rw [Function.update_self]
  exact ExtTreeMap.mem_insert_self

/-- A request that stores a bearer tells its connection. -/
theorem runModifyBearer_tells (pc : Nat) (available : g.app.uids.getUid ≠ none) {other : Nat}
    (different : other ≠ sp) (teid : Nat) (sender : Option Fteid) :
    ∃ bearers, g.runModifyBearer pc other ⟨0, teid, sender, bearers⟩ true ≠
      g.runModifyBearer pc sp ⟨0, teid, sender, bearers⟩ true := by
  obtain ⟨ebi, nonzero, unused⟩ := exists_unused_ebi (g.app.pdnConnections other)
  refine ⟨[{ epsBearerId := some ebi }], fun same => ?_⟩
  obtain ⟨next, events, ran, stored⟩ :=
    runModifyBearer_of_unused available nonzero unused 0 teid sender true
  rw [same] at ran
  rw [(runModifyBearer_effect ran).2 other different] at stored
  exact unused stored

theorem modifyInContext_eq (g : Gateway) (pc sa gtpcTxId : Nat) (sender : Option Fteid)
    (bearers : List BearerContextToBeModified) (sent : Bool) :
    g.modifyInContext pc ⟨gtpcTxId, g.app.teidOf sa, sender, bearers⟩ sent =
      match g.app.lookedUp pc sa sender with
      | some other =>
          g.runModifyBearer pc other ⟨gtpcTxId, g.app.teidOf sa, sender, bearers⟩ sent
      | none => some (g, (sender.map fun fteid => Service.Event.modifyBearerResponse
          ⟨gtpcTxId, fteid.teidGreKey, some .contextNotFound, []⟩).toList) := by
  unfold modifyInContext State.lookedUp
  cases sender with
  | none =>
      dsimp only
      cases g.app.findPdnConnection pc (g.app.teidOf sa) true <;> rfl
  | some fteid =>
      dsimp only
      cases g.app.findPdnConnection pc fteid.teidGreKey false <;> rfl

theorem handleModifyBearerRequest_eq (registered : g.app.Registered)
    (member : sa ∈ (g.app.contexts pc).apns) (gtpcTxId : Nat) (sender : Option Fteid)
    (bearers : List BearerContextToBeModified) (sent : Bool) :
    g.handleModifyBearerRequest ⟨gtpcTxId, g.app.teidOf sa, sender, bearers⟩ sent =
      if sender.any fun fteid => !State.Valid fteid then some (g, [])
      else match g.app.lookedUp pc sa sender with
        | some other =>
            g.runModifyBearer pc other ⟨gtpcTxId, g.app.teidOf sa, sender, bearers⟩ sent
        | none => some (g, (sender.map fun fteid => Service.Event.modifyBearerResponse
            ⟨gtpcTxId, fteid.teidGreKey, some .contextNotFound, []⟩).toList) := by
  unfold handleModifyBearerRequest
  rw [State.invalid_eq]
  dsimp only
  rw [registered.routed pc sa member]
  dsimp only
  rw [modifyInContext_eq]

/-! ## The connection that is addressed -/

/-- Every Modify Bearer Request to the TEID of the connection `sp` with this sender is handled
by its procedure for `sp`, and changes no other connection. -/
def ModifiesOnly (config : Config) (g : Gateway) (pc sp : Nat) (sender : Option Fteid) : Prop :=
  ∀ (gtpcTxId : Nat) (bearers : List BearerContextToBeModified) (sent : Bool),
    let request : ModifyBearerRequest :=
      ⟨gtpcTxId, (g.app.pdnConnections sp).pgwFteidS5S8Cp.teidGreKey, sender, bearers⟩
    Service.step config g (.modifyBearer request sent) = g.runModifyBearer pc sp request sent ∧
      ∀ next events, Service.step config g (.modifyBearer request sent) = some (next, events) →
        ∀ other, other ≠ sp → next.app.pdnConnections other = g.app.pdnConnections other

/-- The same for Delete Session Requests. -/
def DeletesOnly (config : Config) (g : Gateway) (pc sp : Nat) (sender : Option Fteid) : Prop :=
  ∀ (gtpcTxId : Nat) (sent : Bool),
    let request : DeleteSessionRequest :=
      ⟨gtpcTxId, (g.app.pdnConnections sp).pgwFteidS5S8Cp.teidGreKey, sender⟩
    Service.step config g (.session (.deleteSession request sent)) =
        (g.app.runDeleteSession pc sp gtpcTxId sent).map (fun result =>
          ({ g with app := result.1 }, result.2.map .session)) ∧
      ∀ next events,
        Service.step config g (.session (.deleteSession request sent)) = some (next, events) →
          ∀ other, other ≠ sp → next.app.pdnConnections other = g.app.pdnConnections other

theorem modifiesOnly_iff (registered : g.app.Registered) (member : sa ∈ (g.app.contexts pc).apns)
    (sender : Option Fteid) :
    ModifiesOnly config g pc (sa + 1) sender ↔ g.app.SenderLeadsTo pc sa sender := by
  have counts (request : ModifyBearerRequest) (sent : Bool) (events : List Service.Event) :
      some (g, events) ≠ g.runModifyBearer pc (sa + 1) request sent :=
    fun same => Nat.succ_ne_self _ (runModifyBearer_nextAddress same.symm).symm
  have served := registered.serves_iff member
    (fun input : Nat × List BearerContextToBeModified × Bool =>
      g.handleModifyBearerRequest ⟨input.1, g.app.teidOf sa, sender, input.2.1⟩ input.2.2)
    (fun other input => g.runModifyBearer pc other
      ⟨input.1, g.app.teidOf sa, sender, input.2.1⟩ input.2.2)
    (fun _ => handleModifyBearerRequest_eq registered member _ _ _ _)
    (fun exhausted _ _ => runModifyBearer_of_exhausted exhausted _ _)
    (fun available other different => by
      obtain ⟨bearers, differs⟩ :=
        runModifyBearer_tells pc available different (g.app.teidOf sa) sender
      exact ⟨(0, bearers, true), differs⟩)
    ⟨(0, [], true), counts _ _ _⟩ ⟨(0, [], true), counts _ _ _⟩
  rw [← served]
  constructor
  · exact fun only input => (only input.1 input.2.1 input.2.2).1
  · intro all gtpcTxId bearers sent
    have here := all (gtpcTxId, bearers, sent)
    refine ⟨here, fun next events taken => ?_⟩
    exact (runModifyBearer_effect (here.symm.trans taken)).2

theorem deletesOnly_iff (registered : g.app.Registered) (member : sa ∈ (g.app.contexts pc).apns)
    (sender : Option Fteid) :
    DeletesOnly config g pc (sa + 1) sender ↔ g.app.SenderLeadsTo pc sa sender := by
  have counts (gtpcTxId : Nat) (sent : Bool) (events : List Event) :
      some (g.app, events) ≠ g.app.runDeleteSession pc (sa + 1) gtpcTxId sent :=
    fun same => Nat.succ_ne_self _ (State.runDeleteSession_effect same.symm).2.1.symm
  have served := registered.serves_iff member
    (fun input : Nat × Bool =>
      g.app.handleDeleteSessionRequest ⟨input.1, g.app.teidOf sa, sender⟩ input.2)
    (fun other input => g.app.runDeleteSession pc other input.1 input.2)
    (fun _ => State.handleDeleteSessionRequest_eq registered member _ _ _)
    (fun exhausted _ _ => State.runDeleteSession_of_exhausted exhausted _ _)
    (fun available _ different => ⟨(0, true), State.runDeleteSession_tells available different 0⟩)
    ⟨(0, true), counts _ _ _⟩ ⟨(0, true), counts _ _ _⟩
  rw [← served]
  have lift : Function.Injective (fun result : State × List Event =>
      (({ g with app := result.1 }, result.2.map .session) : Gateway × List Service.Event)) := by
    intro left right same
    have state := congrArg (fun result : Gateway × List Service.Event => result.1.app) same
    have shown := congrArg Prod.snd same
    exact Prod.ext state (List.map_injective_iff.mpr (fun _ _ => Service.Event.session.inj) shown)
  constructor
  · intro only input
    exact Option.map_injective lift (only input.1 input.2).1
  · intro all gtpcTxId sent
    have here := congrArg (Option.map fun result : State × List Event =>
      (({ g with app := result.1 }, result.2.map .session) : Gateway × List Service.Event))
      (all (gtpcTxId, sent))
    refine ⟨here, fun next events taken other _ => ?_⟩
    obtain ⟨⟨app, shown⟩, ran, same⟩ := Option.map_eq_some_iff.mp (here.symm.trans taken)
    cases same
    exact congrFun (State.runDeleteSession_effect ran).1 other

/-- The TEID of a connection that is attached leads back to it. -/
theorem Directory.eq_of_teid (directory : Directory g) (member : sa ∈ (g.app.contexts pc).apns)
    (same : g.app.teidOf sa = (g.app.pdnConnections sp).pgwFteidS5S8Cp.teidGreKey) :
    sp = sa + 1 := by
  have nonzero : (g.app.pdnConnections sp).pgwFteidS5S8Cp.teidGreKey ≠ 0 := by
    rw [← same]
    have listed := (directory.registered.keys _).mpr (ExtTreeMap.mem_iff_isSome_getElem?.mpr
      (by rw [directory.registered.routed pc sa member]; rfl))
    exact Nat.ne_of_gt (directory.registered.bounds _ listed).1
  obtain ⟨other, sa', member', rfl⟩ := directory.owned sp nonzero
  rw [directory.registered.apart pc other sa member sa' member' same]

/-- The Sx answer to a deletion removes the connection that the procedure was started for, and
changes no other. -/
theorem Directory.deletion_removes_own (directory : Directory g) {proc : Procedure}
    (pending : proc ∈ g.app.pending pc) {answer : SessionDeletionResponse}
    (own : answer.trxnId = proc.trxnId)
    (taken : Service.step config g (.session (.sessionDeletionResponse answer)) =
      some (next, events)) :
    ∀ other, other ≠ proc.ppc → next.app.pdnConnections other = g.app.pdnConnections other := by
  intro other different
  have taken : g.handleSession config (.sessionDeletionResponse answer) = some (next, events) :=
    taken
  unfold handleSession at taken
  obtain ⟨⟨app, shown⟩, ran, same⟩ := Option.map_eq_some_iff.mp taken
  cases same
  have result : app = (g.app.handleSessionDeletionResponse answer).1 := by
    rw [Option.some.inj ran]
  have tidied : ∀ (state : State) (pc address : Nat),
      ((state.removeProcedure pc address).deleteIfEmpty pc).pdnConnections =
        state.pdnConnections := by
    intro state pc address
    unfold State.deleteIfEmpty
    split <;> rfl
  show app.pdnConnections other = _
  rw [result]
  unfold State.handleSessionDeletionResponse
  split
  · rfl
  · split
    · unfold State.deleteIfEmpty
      split <;> rfl
    · next home proc' found =>
        obtain ⟨trxnId, inside⟩ := State.trxnId_of_findProcedure found
        have one : proc = proc' := directory.housed.toLodged.procedure_eq pending inside
          (own.symm.trans trxnId.symm)
        split
        · next context gtpcTxId teid kind =>
            dsimp only
            rw [tidied, ← one]
            rcases State.deleted_cases directory.registered context proc.ppc with
              ⟨-, kept⟩ | ⟨sa, member, search, kept, removed⟩
            · rw [kept]
            · rw [kept, removed.pdnConnections]
              obtain ⟨-, -, -, -, searched, -⟩ :=
                directory.registered.findPdnConnection_eq_some_iff.mp search
              rw [Function.update_of_ne]
              rw [← directory.eq_of_teid member searched]
              exact different
        · dsimp only
          rw [tidied]

end Gateway

open Gateway in
/-- In every reachable state, a request to the TEID of a connection is handled for this
connection and leaves the others as they are if and only if it has no sender, or a valid one
whose TEID leads to the connection. What is deleted for it in the end is this connection. -/
theorem addressed_connection_iff (config : Config)
    (records : List (StepRecord Gateway Service.Action Service.Event)) (g : Gateway)
    (run : Run (Service.step config) (Gateway.init config.pdns) records g) (pc sa sp : Nat)
    (member : sa ∈ (g.app.contexts pc).apns) (inside : sp ∈ (g.app.apnContexts sa).pdnConnections)
    (sender : Option Fteid) :
    (ModifiesOnly config g pc sp sender ↔ g.app.SenderLeadsTo pc sa sender) ∧
      (DeletesOnly config g pc sp sender ↔ g.app.SenderLeadsTo pc sa sender) ∧
      ∀ home, ∀ proc ∈ (g.app.contexts home).pendingProcedures, proc.ppc = sp →
        ∀ answer next events, answer.trxnId = proc.trxnId →
          Service.step config g (.session (.sessionDeletionResponse answer)) =
            some (next, events) →
          ∀ other, other ≠ sp → next.app.pdnConnections other = g.app.pdnConnections other := by
  have directory := directory_of_run run
  rw [(directory.registered.single pc sa member).1, List.mem_singleton] at inside
  rw [inside]
  refine ⟨modifiesOnly_iff directory.registered member sender,
    deletesOnly_iff directory.registered member sender, ?_⟩
  intro home proc pending own answer next events same taken
  rw [← own]
  exact directory.deletion_removes_own pending same taken

/-- A UE attaches through two SGWs. The second one has chosen this TEID, and the first one 1. -/
def twoSgws (teid : Nat) : List Service.Action :=
  [.session (.createSession (oneBearer 1 0 none) .sent 0),
    .session (.createSession
      { oneBearer 1 0 none with
        apn := "ims", senderFteidForCp := ⟨true, false, s5s8SgwGtpC, teid⟩
        bearerContextsToBeCreated := [⟨6⟩] } .sent 0)]

/-- The SGW with this TEID as the sender of a request. -/
def fromSgw (teid : Nat) : Option Fteid := some ⟨true, false, s5s8SgwGtpC, teid⟩

/-- The TEID of the second SGW leads to the second connection. -/
theorem twoSgws_attached : ∃ records g,
    Run (Service.step twoApns) (Gateway.init twoApns.pdns) records g ∧
      g.app.SenderLeadsTo 0 4 (fromSgw 2) ∧
      ((Gateway.ModifiesOnly twoApns g 0 5 (fromSgw 2) ↔ g.app.SenderLeadsTo 0 4 (fromSgw 2)) ∧
        (Gateway.DeletesOnly twoApns g 0 5 (fromSgw 2) ↔
          g.app.SenderLeadsTo 0 4 (fromSgw 2)) ∧
        ∀ home, ∀ proc ∈ (g.app.contexts home).pendingProcedures, proc.ppc = 5 →
          ∀ answer next events, answer.trxnId = proc.trxnId →
            Service.step twoApns g (.session (.sessionDeletionResponse answer)) =
              some (next, events) →
            ∀ other, other ≠ 5 →
              next.app.pdnConnections other = g.app.pdnConnections other) := by
  obtain ⟨records, g, run, apns, first, second, inside⟩ :=
    Run.exists_of_passes (Service.step twoApns) (Gateway.init twoApns.pdns) (twoSgws 2)
    (fun _ g => (g.app.contexts 0).apns = [1, 4] ∧ g.app.sgwTeidOf 1 = 1 ∧
      g.app.sgwTeidOf 4 = 2 ∧ 5 ∈ (g.app.apnContexts 4).pdnConnections) (by decide)
  have member : 4 ∈ (g.app.contexts 0).apns := by
    rw [apns]
    exact List.mem_cons_of_mem _ (List.mem_singleton_self _)
  have leads : g.app.SenderLeadsTo 0 4 (fromSgw 2) := by
    intro fteid sender
    cases sender
    refine ⟨rfl, .inl ⟨[1], [], apns, second, fun other earlier same => ?_⟩⟩
    rw [List.mem_singleton.mp earlier] at same
    exact absurd (first.symm.trans same) (by decide)
  exact ⟨records, g, run, leads,
    addressed_connection_iff twoApns records g run 0 4 5 member inside (fromSgw 2)⟩

/-- A request to the second connection, from its SGW. -/
def toSecondConnection : ModifyBearerRequest where
  teid := 2
  senderFteidForCp := fromSgw 1
  bearerContextsToBeModified := [{ epsBearerId := some 6 }]

/-- Where both SGWs have chosen the same TEID, it is the first connection that gets the bearer. -/
theorem sender_teid_misleads : ¬∀ records g,
    Run (Service.step twoApns) (Gateway.init twoApns.pdns) records g →
      ∀ pc, ∀ sa ∈ (g.app.contexts pc).apns, ∀ sp ∈ (g.app.apnContexts sa).pdnConnections,
        ∀ sender : Option Fteid, (∀ fteid ∈ sender, State.Valid fteid = true) →
          Gateway.ModifiesOnly twoApns g pc sp sender ∧
            Gateway.DeletesOnly twoApns g pc sp sender := by
  intro actsOnly
  obtain ⟨records, g, run, member, inside, own, acted, before⟩ := Run.exists_of_passes
    (Service.step twoApns) (Gateway.init twoApns.pdns) (twoSgws 1)
    (fun _ g => 4 ∈ (g.app.contexts 0).apns ∧ 5 ∈ (g.app.apnContexts 4).pdnConnections ∧
      (g.app.pdnConnections 5).pgwFteidS5S8Cp.teidGreKey = toSecondConnection.teid ∧
      (Service.step twoApns g (.modifyBearer toSecondConnection true)).any (fun result =>
        (result.1.app.pdnConnections 2).epsBearers.contains 6) = true ∧
      (g.app.pdnConnections 2).epsBearers.contains 6 = false) (by decide)
  have only := (actsOnly records g run 0 4 member 5 inside toSecondConnection.senderFteidForCp
    (fun fteid sender => by cases sender; rfl)).1
  obtain ⟨⟨next, events⟩, taken, wrote⟩ := (Option.any_eq_true ..).mp acted
  have kept := (only 0 toSecondConnection.bearerContextsToBeModified true).2 next events
    (by rw [own]; exact taken) 2 (by decide)
  rw [kept, before] at wrote
  cases wrote

end OpenairSpgwc.Pgw
