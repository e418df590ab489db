import OpenairSpgwc.Sgw.Collision
import OpenairSpgwc.Sgw.Outstanding

/-!
Contract: the procedures that messages start.

Owns:
- `servedIn`: the context in which a request from the MME is served;
- `Starts`: a procedure is new, waits for the outcomes of all requests that were
  sent, and nothing else has changed;
- that every request from the MME starts a procedure, is answered at once, or is
  dropped, as long as it does not send two requests with one transaction.
-/

namespace OpenairSpgwc.Sgw

open Foundation
open Std (ExtTreeMap)

namespace State

variable {s t u : State} {ebc sp other gtpcTxId given teid : Nat} {proc : Procedure}
  {kind : ProcedureKind} {events : List Event} {opened : List Outstanding}

/-- One procedure more than `before` is pending in the context `ebc`. It waits for
the outcomes of the requests `opened`, which are all that were sent. -/
structure Starts (s t : State) (events : List Event) (ebc : Nat) (before : List Procedure)
    (proc : Procedure) (opened : List Outstanding) : Prop where
  others : ∀ other, other ≠ ebc → t.pending other = s.pending other
  own : t.pending ebc = before ++ [proc]
  before : before = s.pending ebc ∨ before = [] ∧ ∀ sp, ¬HeldBy s ebc sp
  keeps : Keeps s t fun _ => False
  new : s.nextAddress ≤ proc.address
  opens : events.filterMap Outstanding.ofEvent = opened
  waits : ∀ q ∈ opened, proc.WaitsFor q ∧ HeldBy t ebc q.sp ∧
    (q.lTeid = t.teidOf q.sp ∨ q.lTeid = 0)
  distinct : opened.Pairwise fun first second => first.gtpcTxId ≠ second.gtpcTxId
  silent : events.filterMap Event.answered = []

theorem starts_insertProcedure (same : SameTables s u)
    (pending : ∀ other, u.pending other = s.pending other)
    (next : u.nextAddress = s.nextAddress)
    (opens : events.filterMap Outstanding.ofEvent = opened)
    (waits : ∀ q ∈ opened, Procedure.WaitsFor ⟨s.nextAddress, gtpcTxId, given, kind⟩ q ∧
      HeldBy s ebc q.sp ∧ (q.lTeid = s.teidOf q.sp ∨ q.lTeid = 0))
    (distinct : opened.Pairwise fun first second => first.gtpcTxId ≠ second.gtpcTxId)
    (silent : events.filterMap Event.answered = []) :
    Starts s (u.insertProcedure ebc gtpcTxId given kind) events ebc (s.pending ebc)
      ⟨s.nextAddress, gtpcTxId, given, kind⟩ opened := by
  have keeps : Keeps s (u.insertProcedure ebc gtpcTxId given kind) fun _ => False :=
    (same.trans sameTables_insertProcedure).keeps
  refine ⟨fun other different => ?_, ?_, .inl rfl, keeps, le_rfl, opens, ?_,
    distinct, silent⟩
  · rw [pending_insertProcedure, if_neg different]
    exact pending other
  · rw [pending_insertProcedure, if_pos rfl, pending, next]
  · intro q member
    obtain ⟨waits, held, addressed⟩ := waits q member
    obtain ⟨still, teid⟩ := keeps ebc q.sp held not_false
    rw [teid]
    exact ⟨waits, still, addressed⟩

/-- The context of a request from the MME, unless a procedure of it has the
transaction already. -/
def servedIn (s : State) (teid gtpcTxId : Nat) : Option Nat :=
  match s.s11Context teid with
  | none => none
  | some ebc => if (s.findProcedure ebc gtpcTxId).isSome then none else some ebc

theorem of_servedIn (served : s.servedIn teid gtpcTxId = some ebc) :
    s.s11Context teid = some ebc ∧ s.findProcedure ebc gtpcTxId = none := by
  unfold servedIn at served
  split at served
  · cases served
  · next found known =>
      split at served
      · cases served
      · next idle =>
          cases served
          exact ⟨known, Option.not_isSome_iff_eq_none.mp idle⟩

/-! ### Delete Session Request -/

theorem handleDeleteSessionRequest_eq {request : DeleteSessionRequest} :
    s.handleDeleteSessionRequest request =
      match s.servedIn request.teid request.gtpcTxId with
      | none => (s, [])
      | some ebc =>
          if request.oi then s.startDeleteSessions ebc request (s.toDelete ebc request)
          else (s, []) := by
  unfold handleDeleteSessionRequest servedIn deleteSessionInContext
  cases s.s11Context request.teid with
  | none => rfl
  | some ebc =>
      simp only
      split <;> rfl

theorem mem_toDelete {request : DeleteSessionRequest} (member : sp ∈ s.toDelete ebc request) :
    HeldBy s ebc sp := by
  unfold toDelete at member
  split at member
  · exact findPdnConnection_held (Option.mem_toList.mp member)
  · exact mem_connections.mp member

/-- The procedure that deletes the connection. -/
def deleting (s : State) (ebc : Nat) (request : DeleteSessionRequest) (sp : Nat) : Procedure :=
  ⟨s.nextAddress, request.gtpcTxId, ebc, .deleteSession request sp⟩

theorem starts_deleteSession {request : DeleteSessionRequest}
    (served : s.servedIn request.teid request.gtpcTxId = some ebc) (deletes : request.oi = true)
    (one : s.toDelete ebc request = [sp])
    (taken : step s (.deleteSession request) = some (t, events)) :
    Starts s t events ebc (s.pending ebc) (s.deleting ebc request sp)
      [⟨.deleteSession, s.s5s8Request sp request.gtpcTxId s.nextAddress⟩] := by
  simp only [step, handleDeleteSessionRequest_eq, served, deletes, one, startDeleteSessions,
    startDeleteSession, Option.some.injEq, Prod.mk.injEq, if_true] at taken
  rw [← taken.1, ← taken.2]
  refine starts_insertProcedure (.refl s) (fun _ => rfl) rfl rfl ?_ (List.pairwise_singleton _ _)
    rfl
  intro q member
  rw [List.mem_singleton.mp member]
  have asked : sp ∈ s.toDelete ebc request := by
    rw [one]
    exact List.mem_singleton_self sp
  exact ⟨⟨rfl, rfl, request, rfl⟩, mem_toDelete asked, .inl rfl⟩

/-- A request that is not served, or for no connection. -/
theorem deleteSession_dropped {request : DeleteSessionRequest}
    (unserved : ∀ ebc, s.servedIn request.teid request.gtpcTxId = some ebc → request.oi = true →
      s.toDelete ebc request = [])
    (taken : step s (.deleteSession request) = some (t, events)) : t = s ∧ events = [] := by
  simp only [step, handleDeleteSessionRequest_eq, Option.some.injEq] at taken
  split at taken
  · cases taken
    exact ⟨rfl, rfl⟩
  · next ebc served =>
      split at taken
      · next deletes =>
          rw [unserved ebc served deletes] at taken
          cases taken
          exact ⟨rfl, rfl⟩
      · cases taken
        exact ⟨rfl, rfl⟩

/-! ### Release Access Bearers Request -/

theorem handleReleaseAccessBearersRequest_eq {request : ReleaseAccessBearersRequest}
    (sound : Sound s) :
    s.handleReleaseAccessBearersRequest request =
      match s.servedIn request.teid request.gtpcTxId with
      | none => some (s, [])
      | some ebc => some (s.runReleaseAccessBearers ebc ebc request) := by
  unfold handleReleaseAccessBearersRequest servedIn releaseAccessBearersInContext
  cases known : s.s11Context request.teid with
  | none => rfl
  | some ebc =>
      simp only
      split
      · rfl
      · rw [sound.runContext known]

/-- The procedure that has one connection released. -/
def releasing (s : State) (ebc : Nat) (request : ReleaseAccessBearersRequest) (sp : Nat) :
    Procedure :=
  ⟨s.nextAddress, request.gtpcTxId, ebc,
    .releaseAccessBearers request [⟨sp, request.gtpcTxId⟩] 0⟩

theorem mem_toRelease (member : sp ∈ s.toRelease ebc) : HeldBy s ebc sp :=
  mem_connections.mp (List.mem_filter.mp member).1

theorem starts_releaseAccessBearers {request : ReleaseAccessBearersRequest} (sound : Sound s)
    (served : s.servedIn request.teid request.gtpcTxId = some ebc)
    (one : s.toRelease ebc = [sp])
    (taken : step s (.releaseAccessBearers request) = some (t, events)) :
    Starts s t events ebc (s.pending ebc) (s.releasing ebc request sp)
      [⟨.releaseAccessBearers,
        { s.s5s8Request sp request.gtpcTxId s.nextAddress with lTeid := 0 }⟩] := by
  simp only [step, handleReleaseAccessBearersRequest_eq sound, served, runReleaseAccessBearers, one,
    Option.some.injEq, Prod.mk.injEq] at taken
  rw [← taken.1, ← taken.2]
  refine starts_insertProcedure (.refl s) (fun _ => rfl) rfl rfl ?_ (List.pairwise_singleton _ _)
    rfl
  intro q member
  rw [List.mem_singleton.mp member]
  have asked : sp ∈ s.toRelease ebc := by
    rw [one]
    exact List.mem_singleton_self sp
  exact ⟨⟨rfl, rfl, request, 0, rfl⟩, mem_toRelease asked, .inr rfl⟩

theorem releaseAccessBearers_dropped {request : ReleaseAccessBearersRequest} (sound : Sound s)
    (unserved : s.servedIn request.teid request.gtpcTxId = none)
    (taken : step s (.releaseAccessBearers request) = some (t, events)) : t = s ∧ events = [] := by
  simp only [step, handleReleaseAccessBearersRequest_eq sound, unserved] at taken
  cases taken
  exact ⟨rfl, rfl⟩

/-- Nothing is to be released: the MME is answered at once. -/
theorem releaseAccessBearers_answered {request : ReleaseAccessBearersRequest} (sound : Sound s)
    (served : s.servedIn request.teid request.gtpcTxId = some ebc)
    (nothing : s.toRelease ebc = [])
    (taken : step s (.releaseAccessBearers request) = some (t, events)) :
    t = s ∧ events.filterMap Outstanding.ofEvent = [] ∧
      events.filterMap Event.answered = [request.gtpcTxId] := by
  simp only [step, handleReleaseAccessBearersRequest_eq sound, served, runReleaseAccessBearers,
    nothing] at taken
  cases taken
  exact ⟨rfl, rfl, rfl⟩

/-! ### Modify Bearer Request -/

theorem handleModifyBearerRequest_eq {request : ModifyBearerRequest} {uids : Nat → Nat}
    (sound : Sound s) :
    s.handleModifyBearerRequest request uids =
      match s.servedIn request.teid request.gtpcTxId with
      | none => some (s, [])
      | some ebc =>
          if request.bearerContextsToBeModified = [] ∧ request.bearerContextsToBeRemoved = [] then
            some (s, [])
          else
            some (s.runModifyBearer ebc ebc request uids) := by
  unfold handleModifyBearerRequest servedIn modifyBearerInContext
  cases known : s.s11Context request.teid with
  | none => rfl
  | some ebc =>
      simp only
      split
      · rfl
      · rw [sound.runContext known]

theorem modifyBearer_dropped {request : ModifyBearerRequest} {uids : Nat → Nat} (sound : Sound s)
    (unserved : s.servedIn request.teid request.gtpcTxId = none ∨
      request.bearerContextsToBeModified = [] ∧ request.bearerContextsToBeRemoved = [])
    (taken : step s (.modifyBearer request uids) = some (t, events)) : t = s ∧ events = [] := by
  simp only [step, handleModifyBearerRequest_eq sound] at taken
  split at taken
  · cases taken
    exact ⟨rfl, rfl⟩
  · next ebc served =>
      rcases unserved with unserved | empty
      · rw [unserved] at served
        cases served
      · rw [if_pos empty] at taken
        cases taken
        exact ⟨rfl, rfl⟩

/-- No connection is asked anything: the MME is answered at once. -/
theorem modifyBearer_answered {request : ModifyBearerRequest} {uids : Nat → Nat} (sound : Sound s)
    (served : s.servedIn request.teid request.gtpcTxId = some ebc)
    (asked : ¬(request.bearerContextsToBeModified = [] ∧ request.bearerContextsToBeRemoved = []))
    (nothing : (s.collect ebc request).pdnBearers = [])
    (taken : step s (.modifyBearer request uids) = some (t, events)) :
    t = s ∧ events.filterMap Outstanding.ofEvent = [] ∧
      events.filterMap Event.answered = [request.gtpcTxId] := by
  simp only [step, handleModifyBearerRequest_eq sound, served, if_neg asked, runModifyBearer,
    nothing, Option.some.injEq, Prod.mk.injEq] at taken
  rw [← taken.1, ← taken.2]
  exact ⟨rfl, rfl, rfl⟩

/-- The elements with the transactions of their S5/S8 requests. -/
def numbered (uids : Nat → Nat) : Nat → List PdnBearersToBeXied → List PdnBearersToBeXied
  | _, [] => []
  | n, px :: rest => { px with gtpcTxId := uids n } :: numbered uids (n + 1) rest

/-- The S5/S8 requests of a Modify Bearer procedure. -/
def asking (s : State) (sender : Nat) (px : PdnBearersToBeXied) : Outstanding :=
  ⟨.modifyBearer, s.s5s8Request px.pdn px.gtpcTxId sender⟩

variable {uids : Nat → Nat} {n sender : Nat} {pdnBearers : List PdnBearersToBeXied}

theorem s5s8Request_stored {its : List BearerContextToBeModified} :
    (s.setPdnConnection sp (its.foldl storeEnbFteid (s.pdnConnections sp))).s5s8Request =
      s.s5s8Request := by
  have only : PdnConnection.OnlyBearers (s.pdnConnections sp)
      (its.foldl storeEnbFteid (s.pdnConnections sp)) :=
    .foldl (fun _ _ => PdnConnection.onlyBearers_storeEnbFteid) _ _
  funext other gtpcTxId sender
  simp only [s5s8Request, setPdnConnection, Function.update_apply]
  split
  · next here => rw [here, only]
  · rfl

theorem sendModifyBearers_numbered :
    (s.sendModifyBearers sender uids n pdnBearers).2.1 = numbered uids n pdnBearers := by
  induction pdnBearers generalizing s n with
  | nil => rfl
  | cons px rest inductionHypothesis =>
      simp only [sendModifyBearers, numbered, inductionHypothesis]

theorem sendModifyBearers_opens :
    (s.sendModifyBearers sender uids n pdnBearers).2.2.filterMap Outstanding.ofEvent =
      (numbered uids n pdnBearers).map (s.asking sender) := by
  induction pdnBearers generalizing s n with
  | nil => rfl
  | cons px rest inductionHypothesis =>
      simp only [sendModifyBearers, numbered, List.map_cons]
      rw [List.filterMap_cons]
      simp only [Outstanding.ofEvent]
      rw [inductionHypothesis]
      unfold asking
      rw [s5s8Request_stored]

theorem sendModifyBearers_silent :
    (s.sendModifyBearers sender uids n pdnBearers).2.2.filterMap Event.answered = [] := by
  rw [List.filterMap_eq_nil_iff]
  intro event member
  obtain ⟨asked, modified, removed, rfl⟩ := mem_sendModifyBearers member
  rfl

theorem mem_numbered {px : PdnBearersToBeXied} (member : px ∈ numbered uids n pdnBearers) :
    (∃ i, n ≤ i ∧ i < n + pdnBearers.length ∧ px.gtpcTxId = uids i) ∧
      ∃ old ∈ pdnBearers, old.pdn = px.pdn := by
  induction pdnBearers generalizing n with
  | nil => cases member
  | cons first rest inductionHypothesis =>
      rcases List.mem_cons.mp member with here | later
      · rw [here, List.length_cons]
        exact ⟨⟨n, le_rfl, by omega, rfl⟩, first, List.mem_cons_self, rfl⟩
      · obtain ⟨⟨i, after, before, same⟩, old, there, equal⟩ := inductionHypothesis later
        rw [List.length_cons]
        exact ⟨⟨i, by omega, by omega, same⟩, old, List.mem_cons_of_mem _ there, equal⟩

theorem numbered_distinct
    (distinct : ∀ i j, n ≤ i → i < j → j < n + pdnBearers.length → uids i ≠ uids j) :
    (numbered uids n pdnBearers).Pairwise fun first second =>
      first.gtpcTxId ≠ second.gtpcTxId := by
  induction pdnBearers generalizing n with
  | nil => exact List.Pairwise.nil
  | cons first rest inductionHypothesis =>
      rw [List.length_cons] at distinct
      refine List.Pairwise.cons (fun px member => ?_) (inductionHypothesis ?_)
      · obtain ⟨⟨i, after, before, same⟩, -⟩ := mem_numbered member
        rw [same]
        exact distinct n i le_rfl after (by omega)
      · exact fun i j after less before => distinct i j (by omega) less (by omega)

/-- A transaction that only one element has leads to that element. -/
theorem find?_distinct {px : PdnBearersToBeXied}
    (distinct : pdnBearers.Pairwise fun first second => first.gtpcTxId ≠ second.gtpcTxId)
    (member : px ∈ pdnBearers) :
    (pdnBearers.find? fun other => other.gtpcTxId == px.gtpcTxId) = some px := by
  induction pdnBearers with
  | nil => cases member
  | cons first rest inductionHypothesis =>
      rw [List.pairwise_cons] at distinct
      rcases List.mem_cons.mp member with here | later
      · rw [here]
        exact List.find?_cons_of_pos (beq_iff_eq.mpr rfl)
      · rw [List.find?_cons_of_neg]
        · exact inductionHypothesis distinct.2 later
        · rw [beq_iff_eq]
          exact distinct.1 px later

/-! The connections that a request is spread over are connections of the context. -/

theorem mem_noteModified {pdn : Nat} {bm : BearerContextToBeModified} {px : PdnBearersToBeXied}
    (member : px ∈ noteModified pdnBearers pdn bm) :
    px.pdn = pdn ∨ ∃ old ∈ pdnBearers, old.pdn = px.pdn := by
  unfold noteModified at member
  split at member
  · obtain ⟨old, there, same⟩ := List.mem_map.mp member
    refine .inr ⟨old, there, ?_⟩
    rw [← same]
    split <;> rfl
  · rcases List.mem_append.mp member with old | new
    · exact .inr ⟨px, old, rfl⟩
    · rw [List.mem_singleton.mp new]
      exact .inl rfl

theorem mem_noteRemoved {pdn ebi : Nat} {px : PdnBearersToBeXied}
    (member : px ∈ noteRemoved pdnBearers pdn ebi) :
    px.pdn = pdn ∨ ∃ old ∈ pdnBearers, old.pdn = px.pdn := by
  induction pdnBearers with
  | nil =>
      rw [List.mem_singleton.mp member]
      exact .inl rfl
  | cons first rest inductionHypothesis =>
      unfold noteRemoved at member
      split at member
      · rcases List.mem_cons.mp member with here | later
        · rw [here]
          exact .inr ⟨first, List.mem_cons_self, rfl⟩
        · exact .inr ⟨px, List.mem_cons_of_mem _ later, rfl⟩
      · rcases List.mem_cons.mp member with here | later
        · rw [here]
          exact .inr ⟨first, List.mem_cons_self, rfl⟩
        · rcases inductionHypothesis later with new | ⟨old, there, same⟩
          · exact .inl new
          · exact .inr ⟨old, List.mem_cons_of_mem _ there, same⟩

/-- The elements of what was collected are for connections of the context. -/
def Collected.Holds (s : State) (ebc : Nat) (collected : Collected) : Prop :=
  ∀ px ∈ collected.pdnBearers, HeldBy s ebc px.pdn

theorem holds_collectModified {collected : Collected} {it : BearerContextToBeModified}
    (holds : Collected.Holds s ebc collected) :
    Collected.Holds s ebc (s.collectModified ebc collected it) := by
  unfold collectModified
  split
  · exact holds
  · next pdn found =>
      split
      · split
        · exact holds
        · intro px member
          rcases mem_noteModified member with same | ⟨old, there, same⟩
          · rw [same]
            exact findPdnConnection_held found
          · rw [← same]
            exact holds old there
      · exact holds

theorem holds_collectRemoved {collected : Collected} {ebi : Nat}
    (holds : Collected.Holds s ebc collected) :
    Collected.Holds s ebc (s.collectRemoved ebc collected ebi) := by
  unfold collectRemoved
  split
  · exact holds
  · next pdn found =>
      intro px member
      rcases mem_noteRemoved member with same | ⟨old, there, same⟩
      · rw [same]
        exact findPdnConnection_held found
      · rw [← same]
        exact holds old there

theorem holds_collect {request : ModifyBearerRequest} :
    Collected.Holds s ebc (s.collect ebc request) := by
  unfold collect
  refine List.foldlRecOn (motive := Collected.Holds s ebc) _ _ ?_ fun _ holds _ _ =>
    holds_collectRemoved holds
  refine List.foldlRecOn (motive := Collected.Holds s ebc) _ _ ?_ fun _ holds _ _ =>
    holds_collectModified holds
  intro px member
  cases member

/-- The procedure that waits for the answers of the connections. -/
def modifying (s : State) (ebc : Nat) (request : ModifyBearerRequest) (uids : Nat → Nat) :
    Procedure :=
  ⟨s.nextAddress, request.gtpcTxId, ebc,
    .modifyBearer request (numbered uids 0 (s.collect ebc request).pdnBearers)
      (s.collect ebc request).bearerContextsModified
      (s.collect ebc request).bearerContextsMarkedForRemoval⟩

theorem starts_modifyBearer {request : ModifyBearerRequest} (sound : Sound s)
    (served : s.servedIn request.teid request.gtpcTxId = some ebc)
    (asked : ¬(request.bearerContextsToBeModified = [] ∧ request.bearerContextsToBeRemoved = []))
    (some : (s.collect ebc request).pdnBearers ≠ [])
    (distinct : ∀ i j, i < j → j < (s.collect ebc request).pdnBearers.length → uids i ≠ uids j)
    (taken : step s (.modifyBearer request uids) = Option.some (t, events)) :
    Starts s t events ebc (s.pending ebc) (s.modifying ebc request uids)
      ((numbered uids 0 (s.collect ebc request).pdnBearers).map (s.asking s.nextAddress)) := by
  have distinct : (numbered uids 0 (s.collect ebc request).pdnBearers).Pairwise
      fun first second => first.gtpcTxId ≠ second.gtpcTxId := by
    apply numbered_distinct
    rw [Nat.zero_add]
    exact fun i j _ => distinct i j
  simp only [step, handleModifyBearerRequest_eq sound, served, if_neg asked, runModifyBearer]
    at taken
  split at taken
  · next none => exact absurd none some
  · simp only [Option.some.injEq, Prod.mk.injEq] at taken
    rw [← taken.1, ← taken.2, sendModifyBearers_numbered]
    refine starts_insertProcedure sameTables_sendModifyBearers
      (fun _ => pending_sendModifyBearers) nextAddress_sendModifyBearers sendModifyBearers_opens
      ?_ ?_ sendModifyBearers_silent
    · intro q member
      obtain ⟨px, there, same⟩ := List.mem_map.mp member
      obtain ⟨-, old, before, equal⟩ := mem_numbered there
      rw [← same]
      refine ⟨⟨rfl, request, _, _, _, px, rfl, find?_distinct distinct there, rfl⟩, ?_, .inl rfl⟩
      show HeldBy s ebc px.pdn
      rw [← equal]
      exact holds_collect old before
    · rw [List.pairwise_map]
      exact distinct

/-! ### Create Session Request -/

variable {request : CreateSessionRequest} {base : State}

theorem clearCollision_none {ebi : Option Nat} (alone : s.collision request = none)
    (routed : s.route request = .context ebc ebi) : s.clearCollision ebc ebi = (s, []) := by
  unfold collision at alone
  rw [routed] at alone
  unfold clearCollision
  cases ebi with
  | none => rfl
  | some ebi =>
      cases found : s.findPdnConnection ebc ebi with
      | none => simp only [found]
      | some sp =>
          simp only [found] at alone
          cases alone

/-- The request is not handed to a context. -/
theorem createSession_dropped (unhanded : s.handed request = none)
    (taken : step s (.createSession request) = some (t, events)) :
    t = s ∧ events.filterMap Outstanding.ofEvent = [] ∧
      events.filterMap Event.answered =
        if s.route request = .unknownTeid then [request.gtpcTxId] else [] := by
  simp only [step, handleCreateSessionRequest] at taken
  unfold handed at unhanded
  cases routed : s.route request with
  | ignored =>
      rw [routed] at taken
      cases taken
      exact ⟨rfl, rfl, rfl⟩
  | unknownTeid =>
      rw [routed] at taken
      cases taken
      exact ⟨rfl, rfl, rfl⟩
  | undefined =>
      rw [routed] at taken
      cases taken
  | context ebc ebi =>
      rw [routed] at unhanded
      cases unhanded
  | newContext imsi =>
      rw [routed] at unhanded
      cases unhanded

/-- The state in which a request is handed over, when it collides with nothing. -/
structure Enters (s base : State) (ebc : Nat) : Prop where
  others : ∀ other, other ≠ ebc → base.pending other = s.pending other
  own : base.pending ebc = s.pending ebc ∨ base.pending ebc = [] ∧ ∀ sp, ¬HeldBy s ebc sp
  keeps : Keeps s base fun _ => False
  later : s.nextAddress ≤ base.nextAddress
  held : (base.contexts ebc).pdnConnections = ∅ ∨ base = s
  older : ∀ other sp, HeldBy base other sp → HeldBy s other sp

theorem enters_of_handed (agree : Agree s) (alone : s.collision request = none)
    (reached : s.handed request = some (base, ebc)) : Enters s base ebc := by
  unfold handed at reached
  split at reached
  · next imsi routed =>
      cases reached
      have unheld : ∀ sp, ¬HeldBy s s.nextAddress sp := by
        rintro sp ⟨key, present⟩
        have mapped := (agree.held _ key sp present).2.2.1
        exact lt_irrefl _ (agree.imsis _ _ mapped).2.2
      have pending : ∀ other, (s.addContext imsi).pending other =
          if other = s.nextAddress then [] else s.pending other := fun _ => pending_setContext
      have contexts : ∀ other, other ≠ s.nextAddress →
          (s.addContext imsi).contexts other = s.contexts other :=
        fun other elsewhere => Function.update_of_ne elsewhere _ _
      have empty : ((s.addContext imsi).contexts s.nextAddress).pdnConnections = ∅ := by
        show (Function.update s.contexts s.nextAddress {} s.nextAddress).pdnConnections = ∅
        rw [Function.update_self]
      refine ⟨fun other different => ?_, .inr ⟨?_, unheld⟩, ?_, Nat.le_succ _, .inl empty, ?_⟩
      · rw [pending, if_neg different]
      · rw [pending, if_pos rfl]
      · intro other sp held _
        refine ⟨?_, rfl⟩
        rcases eq_or_ne other s.nextAddress with here | elsewhere
        · rw [here] at held
          exact absurd held (unheld sp)
        · unfold HeldBy
          rw [contexts other elsewhere]
          exact held
      · intro other sp held
        unfold HeldBy at held
        rcases eq_or_ne other s.nextAddress with here | elsewhere
        · obtain ⟨key, present⟩ := held
          rw [here, empty, ExtTreeMap.getElem?_empty] at present
          cases present
        · rw [contexts other elsewhere] at held
          exact held
  · next ebc' ebi routed =>
      rw [clearCollision_none alone routed] at reached
      cases reached
      exact ⟨fun _ _ => rfl, .inl rfl, .refl s, le_rfl, .inr rfl, fun _ _ held => held⟩
  · cases reached
  · cases reached
  · cases reached

theorem handled_of_handed (alone : s.collision request = none)
    (reached : s.handed request = some (base, ebc))
    (taken : step s (.createSession request) = some (t, events)) :
    base.createSessionInContext ebc request = some (t, events) := by
  simp only [step, handleCreateSessionRequest] at taken
  unfold handed at reached
  split at reached
  · next routed =>
      rw [routed] at taken
      cases reached
      exact taken
  · next ebc' ebi routed =>
      rw [clearCollision_none alone routed] at reached
      cases reached
      rw [routed] at taken
      simp only [clearCollision_none alone routed] at taken
      split at taken
      · cases taken
      · next after more created =>
          cases taken
          exact created
  · cases reached
  · cases reached
  · cases reached

theorem keeps_entered : Keeps s (s.entered ebc request) fun _ => False := by
  intro other sp held _
  unfold HeldBy
  rw [connections_entered]
  refine ⟨held, ?_⟩
  unfold entered
  split <;> rfl

/-- A context runs the procedures of a Create Session Request in itself. -/
theorem runContext_handed (agree : Agree s) (alone : s.collision request = none)
    (reached : s.handed request = some (base, ebc)) :
    (base.entered ebc request).runContext ebc = some ebc := by
  apply runContext_entered
  unfold handed at reached
  split at reached
  · cases reached
    right
    simp [addContext, setContext]
  · next ebc' ebi routed =>
      rw [clearCollision_none alone routed] at reached
      cases reached
      exact .inl (agree.runContext (agree.anchored_of_route routed))
  · cases reached
  · cases reached
  · cases reached

/-- A request for a connection that the context holds already. -/
def Refuses (base : State) (ebc : Nat) (request : CreateSessionRequest) : Prop :=
  (base.contexts ebc).pdnConnections.contains (request.apn, request.pdnType) = true

theorem createSession_refused (agree : Agree s) (sound : Sound s)
    (alone : s.collision request = none) (reached : s.handed request = some (base, ebc))
    (refuses : Refuses base ebc request)
    (taken : step s (.createSession request) = some (t, events)) :
    (∀ other, t.pending other = s.pending other) ∧ Keeps s t (fun _ => False) ∧ events = [] := by
  have enters := enters_of_handed agree alone reached
  have same : base = s := by
    rcases enters.held with empty | same
    · unfold Refuses at refuses
      rw [empty, ExtTreeMap.contains_empty] at refuses
      cases refuses
    · exact same
  obtain ⟨c, ran, outcome⟩ :=
    createSessionInContext_outcome (handled_of_handed alone reached taken)
  rw [runContext_handed agree alone reached] at ran
  cases ran
  rw [same] at outcome refuses
  cases outcome with
  | refused present =>
      refine ⟨fun other => ?_, ?_, rfl⟩
      · rw [pending_removeProcedure]
        simp only [starting, pending_insertProcedure, pending_entered]
        split
        · next here =>
            -- Only the new procedure has the new address.
            rw [if_pos trivial, here, List.eraseP_append_right]
            · simp
            · intro proc member is
              have older := sound.older ebc proc member
              rw [beq_iff_eq.mp is, nextAddress_entered] at older
              exact lt_irrefl _ older
        · next elsewhere => rfl
      · have started : Keeps (s.entered ebc request) ((s.starting ebc ebc request).removeProcedure
            ebc (s.entered ebc request).nextAddress) fun _ => False :=
          (sameTables_starting.trans sameTables_removeProcedure).keeps
        exact (Keeps.trans keeps_entered started).mono fun _ lost => lost.elim id id
  | made defaultBearer absent first =>
      rw [connections_entered] at absent
      rw [Refuses, absent] at refuses
      cases refuses

/-- The procedure that waits for the PGW to accept the connection. -/
def creating (base : State) (ebc : Nat) (request : CreateSessionRequest) : Procedure :=
  ⟨base.nextAddress, request.gtpcTxId, ebc, .createSession request⟩

theorem keeps_added {c : Nat} (agree : ∀ ebc sp, HeldBy s ebc sp → sp < s.nextAddress)
    (absent : (s.contexts c).pdnConnections.contains (request.apn, request.pdnType) = false)
    (added : Added s c request t) : Keeps s t fun _ => False := by
  intro other sp held _
  have older := agree other sp held
  obtain ⟨key, present⟩ := held
  refine ⟨⟨key, ?_⟩, ?_⟩
  · rw [added.contexts, Function.update_apply]
    split
    · next here =>
        rw [here] at present
        refine getElem?_insert_eq_some.mpr (.inr ⟨fun same => ?_, present⟩)
        rw [← ExtTreeMap.isSome_getElem?_eq_contains, ← same, present] at absent
        cases absent
    · exact present
  · unfold teidOf
    rw [added.others sp older.ne]

theorem starts_createSession (agree : Agree s) (alone : s.collision request = none)
    (reached : s.handed request = some (base, ebc)) (accepts : ¬Refuses base ebc request)
    (taken : step s (.createSession request) = some (t, events)) :
    ∃ asked : S5s8Request, asked.gtpcTxId = request.gtpcTxId ∧
      Starts s t events ebc (base.pending ebc) (creating base ebc request)
        [⟨.createSession, asked⟩] := by
  have enters := enters_of_handed agree alone reached
  obtain ⟨c, ran, outcome⟩ :=
    createSessionInContext_outcome (handled_of_handed alone reached taken)
  rw [runContext_handed agree alone reached] at ran
  cases ran
  cases outcome with
  | refused present =>
      rw [connections_entered] at present
      exact absurd present accepts
  | made defaultBearer absent first =>
      have starting : SameTables (base.entered ebc request) (base.starting ebc ebc request) :=
        sameTables_starting
      have added : Added (base.starting ebc ebc request) ebc request _ :=
        added_withNewPdnConnection request defaultBearer
      rw [← starting.connections] at absent
      have older : ∀ other sp, HeldBy (base.starting ebc ebc request) other sp →
          sp < (base.starting ebc ebc request).nextAddress := by
        intro other sp held
        unfold HeldBy at held
        rw [starting.connections, connections_entered] at held
        obtain ⟨key, present⟩ := enters.older other sp held
        refine (agree.held other key sp present).2.2.2.trans_le (enters.later.trans ?_)
        have later := starting.nextAddress
        rw [nextAddress_entered] at later
        exact later
      have pending : ∀ other, ((base.starting ebc ebc request).withNewPdnConnection ebc request
          defaultBearer).pending other = if other = ebc then
            base.pending ebc ++ [creating base ebc request] else base.pending other := by
        intro other
        rw [pending_withNewPdnConnection]
        simp only [State.starting, pending_insertProcedure, pending_entered, nextAddress_entered]
        rfl
      refine ⟨_, rfl, fun other different => ?_, ?_, enters.own, ?_,
        enters.later, rfl, ?_, List.pairwise_singleton _ _, rfl⟩
      · rw [pending, if_neg different, enters.others other different]
      · rw [pending, if_pos rfl]
      · have entered := Keeps.trans enters.keeps (Keeps.trans keeps_entered (Keeps.trans
          starting.keeps (keeps_added older absent added)))
        exact entered.mono fun _ lost => lost.elim id fun lost => lost.elim id fun lost =>
          lost.elim id id
      · intro q member
        rw [List.mem_singleton.mp member]
        refine ⟨⟨nextAddress_entered.symm, rfl, request, rfl⟩,
          ⟨(request.apn, request.pdnType), ?_⟩, .inl added.teid.symm⟩
        rw [added.contexts, Function.update_self]
        exact ExtTreeMap.getElem?_insert_self

/-! ### Downlink Data Notification -/

theorem downlinkDataNotification_cases {ddn : DownlinkDataNotification}
    (taken : step s (.downlinkDataNotification ddn) = some (t, events)) :
    t = s ∧ events = [] ∨ ∃ ebc sp, s.findProcedure ebc ddn.gtpcTxId = none ∧
      Starts s t events ebc (s.pending ebc)
        ⟨s.nextAddress, ddn.gtpcTxId, ebc, .downlinkDataNotification ddn sp⟩ [] := by
  simp only [step, Option.some.injEq, handleDownlinkDataNotification] at taken
  split at taken
  · cases taken
    exact .inl ⟨rfl, rfl⟩
  · next ebc sp _ =>
      unfold downlinkDataNotificationInContext at taken
      split at taken
      · cases taken
        exact .inl ⟨rfl, rfl⟩
      · next idle =>
          split at taken
          · cases taken
            exact .inl ⟨rfl, rfl⟩
          · split at taken
            · rw [Prod.mk.injEq] at taken
              rw [← taken.1, ← taken.2]
              refine .inr ⟨ebc, sp, Option.not_isSome_iff_eq_none.mp idle, ?_⟩
              refine starts_insertProcedure (.refl s) (fun _ => rfl) rfl rfl ?_ .nil rfl
              intro q member
              cases member
            · cases taken
              exact .inl ⟨rfl, rfl⟩

theorem downlinkDataNotificationAcknowledge_quiet {ack : DownlinkDataNotificationAcknowledge}
    (taken : step s (.downlinkDataNotificationAcknowledge ack) = some (t, events)) :
    t = s ∧ events.filterMap Outstanding.ofEvent = [] ∧ events.filterMap Event.answered = [] := by
  have sent : ∀ event ∈ events, sends (.downlinkDataNotificationAcknowledge ack) event = true :=
    fun _ member => sends_of_step taken member
  simp only [step, Option.some.injEq, Prod.ext_iff] at taken
  refine ⟨?_, List.filterMap_eq_nil_iff.mpr fun event member => ?_,
    List.filterMap_eq_nil_iff.mpr fun event member => ?_⟩
  · rw [← taken.1]
    exact downlinkDataNotificationAcknowledge_fst
  · cases event <;> first | rfl | cases sent _ member
  · cases event <;> first | rfl | cases sent _ member

end State

end OpenairSpgwc.Sgw
