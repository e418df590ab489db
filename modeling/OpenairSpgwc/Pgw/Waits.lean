import OpenairSpgwc.Pgw.Effects
import OpenairSpgwc.Pgw.Service

/-!
Contract: what the PGW waits for.

A pending procedure waits for the outcome of an Sx exchange, or for the answer
of the SGW to a downlink data notification; most carry the S5/S8 request that
they have to answer.

Owns:
- `RequestId`, `Wait` and the waits of a context;
- what the messages of session management do to the pending procedures: none
  starts or ends (`Idle`), one starts (`Begins`), or one ends (`Ends`).
-/

namespace OpenairSpgwc.Pgw

open Foundation
open OpenairSpgwc.Common
open Std (ExtTreeMap)

/-! ## Requests and waits -/

inductive RequestKind where
  | createSession
  | modifyBearer
  | releaseAccessBearers
  | deleteSession
deriving DecidableEq, Repr

/-- A request of the SGW, or the answer in kind. -/
structure RequestId where
  kind : RequestKind
  gtpcTxId : Nat
deriving DecidableEq, Repr

structure Wait where
  trxnId : Nat
  request : Option RequestId
deriving DecidableEq

def ProcedureKind.request : ProcedureKind → RequestId
  | .sessionEstablishment _ pending => ⟨.createSession, pending.gtpcTxId⟩
  | .deleteSession _ gtpcTxId _ => ⟨.deleteSession, gtpcTxId⟩

def Procedure.wait (proc : Procedure) : Wait := ⟨proc.trxnId, some proc.kind.request⟩

/-- The request that an S5/S8 message answers. -/
def Event.answers : Event → Option RequestId
  | .createSessionResponse response => some ⟨.createSession, response.gtpcTxId⟩
  | .deleteSessionResponse gtpcTxId _ _ => some ⟨.deleteSession, gtpcTxId⟩
  | _ => none

/-- The exchange that an Sx request opens. -/
def Event.asks : Event → Option Nat
  | .sessionEstablishmentRequest trxnId _ _ _ => some trxnId
  | .sessionDeletionRequest trxnId _ => some trxnId
  | _ => none

namespace Service

def ProcedureKind.request : ProcedureKind → Option RequestId
  | .modifyBearer _ _ pending => some ⟨.modifyBearer, pending.gtpcTxId⟩
  | .releaseAccessBearers gtpcTxId _ => some ⟨.releaseAccessBearers, gtpcTxId⟩
  | .downlinkDataReport _ => none

def Procedure.wait (proc : Procedure) : Wait := ⟨proc.trxnId, proc.kind.request⟩

def Event.answers : Event → Option RequestId
  | .session event => event.answers
  | .modifyBearerResponse response => some ⟨.modifyBearer, response.gtpcTxId⟩
  | .releaseAccessBearersResponse gtpcTxId _ _ => some ⟨.releaseAccessBearers, gtpcTxId⟩
  | _ => none

def Event.asks : Event → Option Nat
  | .session event => event.asks
  | .sessionModificationRequest trxnId _ _ => some trxnId
  | _ => none

end Service

/-- The waits of a context. -/
def Gateway.waits (g : Gateway) (pc : Nat) : List Wait :=
  (g.app.contexts pc).pendingProcedures.map Procedure.wait ++
    (g.procedures pc).map Service.Procedure.wait

/-! ## Effects of session management on procedures -/

namespace State

variable {config : Config} {s t : State} {request : CreateSessionRequest}
  {response : CreateSessionResponse} {upNode : UpNode} {events : List Event}
  {pc sa sp endValue : Nat}

/-- The pending procedures of a context. -/
def pending (s : State) (pc : Nat) : List Procedure := (s.contexts pc).pendingProcedures

/-- The tables lead to contexts that have been allocated. -/
structure Homes (s : State) : Prop where
  imsis : ∀ imsi pc : Nat, s.imsi2pgwContext[imsi]? = some pc → pc < s.nextAddress
  teids : ∀ teid pc : Nat, s.s5s8lteid2pgwContext[teid]? = some pc → pc < s.nextAddress
  seids : ∀ seid pc : Nat, s.seid2pgwContext[seid]? = some pc → pc < s.nextAddress

/-- No procedure starts or ends, and identifiers are only ever added. -/
structure Idle (s t : State) : Prop where
  pending : ∀ pc, t.pending pc = s.pending pc
  uids : s.uids.Draws t.uids
  nextAddress : s.nextAddress ≤ t.nextAddress

/-- One procedure starts. -/
structure Begins (s : State) (pc : Nat) (proc : Procedure) (t : State) : Prop where
  pending : t.pending pc = s.pending pc ++ [proc]
  others : ∀ other, other ≠ pc → t.pending other = s.pending other
  fresh : proc.trxnId ∈ s.uids.newUids t.uids
  address : s.nextAddress ≤ proc.address ∧ proc.address < t.nextAddress
  uids : s.uids.Draws t.uids

/-- One procedure ends. -/
structure Ends (s : State) (pc : Nat) (proc : Procedure) (t : State) : Prop where
  found : s.findProcedure pc proc.trxnId = some proc
  pending : t.pending pc = (s.pending pc).eraseP fun other => other.address == proc.address
  others : ∀ other, other ≠ pc → t.pending other = s.pending other
  uids : s.uids.Draws t.uids
  nextAddress : s.nextAddress ≤ t.nextAddress

theorem Idle.refl (s : State) : Idle s s := ⟨fun _ => rfl, .refl _, le_rfl⟩

theorem Idle.trans {u : State} (first : Idle s t) (second : Idle t u) : Idle s u where
  pending pc := (second.pending pc).trans (first.pending pc)
  uids := first.uids.trans second.uids
  nextAddress := first.nextAddress.trans second.nextAddress

theorem Idle.begins {u : State} {proc : Procedure} (idle : Idle s t) (begins : Begins t pc proc u) :
    Begins s pc proc u where
  pending := by rw [begins.pending, idle.pending]
  others other different := (begins.others other different).trans (idle.pending other)
  fresh := UintGenerator.newUids_mono_left idle.uids begins.fresh
  address := ⟨idle.nextAddress.trans begins.address.1, begins.address.2⟩
  uids := idle.uids.trans begins.uids

/-- What the answers and the Sx requests among the events are. -/
def Shows (events : List Event) (answers : List RequestId) (asks : List Nat) : Prop :=
  events.filterMap Event.answers = answers ∧ events.filterMap Event.asks = asks

theorem shows_append {first second : List Event} {answers : List RequestId} {asks : List Nat}
    (quiet : Shows first [] []) (shown : Shows second answers asks) :
    Shows (first ++ second) answers asks := by
  unfold Shows at *
  rw [List.filterMap_append, List.filterMap_append, quiet.1, quiet.2]
  exact shown

theorem eraseP_append_fresh {procs : List Procedure} {proc : Procedure}
    (older : ∀ other ∈ procs, other.address ≠ proc.address) :
    (procs ++ [proc]).eraseP (fun other => other.address == proc.address) = procs := by
  rw [List.eraseP_append_right _ fun other member => by simpa using older other member]
  simp

/-- The addresses of the pending procedures have been allocated. -/
def Allocated (s : State) : Prop := ∀ pc, ∀ proc ∈ s.pending pc, proc.address < s.nextAddress

/-- A procedure that is started and removed again leaves no trace. -/
theorem idle_of_removed {ppc : Nat} {kind : ProcedureKind} {proc : Procedure}
    (allocated : s.Allocated) (start : Started s pc ppc kind proc t) :
    Idle s (t.removeProcedure pc proc.address) where
  pending other := by
    have added : t.pending pc = s.pending pc ++ [proc] := by
      rw [pending, start.contexts, Function.update_self]
      rfl
    unfold pending removeProcedure setContext
    by_cases same : other = pc
    · rw [same]
      simp only [Function.update_self]
      change (t.pending pc).eraseP _ = s.pending pc
      rw [added]
      apply eraseP_append_fresh
      intro older member
      have bound := allocated pc older member
      rw [start.shape.1]
      omega
    · simp only [Function.update_of_ne same]
      rw [start.contexts, Function.update_of_ne same]
  uids := .single start.draws
  nextAddress := by
    change s.nextAddress ≤ t.nextAddress
    rw [start.nextAddress]
    omega

theorem begins_of_started {ppc : Nat} {kind : ProcedureKind} {proc : Procedure}
    (start : Started s pc ppc kind proc t) : Begins s pc proc t where
  pending := by
    rw [pending, start.contexts, Function.update_self]
    rfl
  others other different := by rw [pending, start.contexts, Function.update_of_ne different]; rfl
  fresh := UintGenerator.mem_newUids_of_getUid start.draws
  address := by
    rw [start.shape.1, start.nextAddress]
    omega
  uids := .single start.draws

theorem Homes.started {ppc : Nat} {kind : ProcedureKind} {proc : Procedure} (homes : Homes s)
    (start : Started s pc ppc kind proc t) : Homes t where
  imsis imsi other known := by
    rw [start.imsiMap] at known
    have bound := homes.imsis imsi other known
    rw [start.nextAddress]
    omega
  teids teid other known := by
    rw [start.teidMap] at known
    have bound := homes.teids teid other known
    rw [start.nextAddress]
    omega
  seids seid other known := by
    rw [start.seidMap] at known
    have bound := homes.seids seid other known
    rw [start.nextAddress]
    omega

/-- What a Create Session Request comes to: it is dropped, it is answered, or
its procedure starts. -/
inductive Creation (s : State) (request : CreateSessionRequest) (upNode : UpNode)
    (events : List Event) (t : State) : Prop where
  | dropped (sendFailed : upNode = .sendFailed) (idle : Idle s t) (shown : Shows events [] [])
  | answered (idle : Idle s t) (shown : Shows events [⟨.createSession, request.gtpcTxId⟩] [])
  | started (pc : Nat) (proc : Procedure) (home : pc < t.nextAddress) (begins : Begins s pc proc t)
      (own : proc.kind.request = ⟨.createSession, request.gtpcTxId⟩)
      (shown : Shows events [] [proc.trxnId])

theorem Creation.after {u : State} (idle : Idle s t)
    (creation : Creation t request upNode events u) : Creation s request upNode events u := by
  cases creation with
  | dropped sendFailed later shown => exact .dropped sendFailed (idle.trans later) shown
  | answered later shown => exact .answered (idle.trans later) shown
  | started pc proc home begins own shown =>
      exact .started pc proc home (idle.begins begins) own shown

theorem Creation.shown_append {first : List Event} (quiet : Shows first [] [])
    (creation : Creation s request upNode events t) :
    Creation s request upNode (first ++ events) t := by
  cases creation with
  | dropped sendFailed idle shown => exact .dropped sendFailed idle (shows_append quiet shown)
  | answered idle shown => exact .answered idle (shows_append quiet shown)
  | started pc proc home begins own shown =>
      exact .started pc proc home begins own (shows_append quiet shown)

theorem creation_establish (homes : Homes s) (allocated : s.Allocated) (home : pc < s.nextAddress)
    (own : response.gtpcTxId = request.gtpcTxId)
    (ran : s.establish config pc sa sp request response upNode = some (t, events)) :
    Homes t ∧ Creation s request upNode events t := by
  unfold establish at ran
  split at ran
  · cases ran
  · next proc inserted started =>
      have start := started_of_startProcedure started
      have started := homes.started start
      split at ran
      · next cause failed =>
          cases ran
          refine ⟨⟨started.imsis, started.teids, started.seids⟩, .answered ?_ ?_⟩
          · have removed := idle_of_removed allocated start
            exact ⟨removed.pending, removed.uids, removed.nextAddress⟩
          · simp [Shows, Event.answers, Event.asks, own]
      · next survived =>
          split at ran
          · cases ran
          · next after sentEvents result =>
              unfold runEstablishment at result
              split at result
              · cases result
              · next pdn rules added =>
                  cases result
                  have routed : ∀ seid other : Nat,
                      (inserted.seid2pgwContext.insert pdn.seid pc)[seid]? = some other →
                        other < inserted.nextAddress := by
                    intro seid other known
                    rw [ExtTreeMap.getElem?_insert] at known
                    split at known
                    · cases known
                      rw [start.nextAddress]
                      omega
                    · exact started.seids seid other known
                  split at ran
                  · cases ran
                    have begun := begins_of_started start
                    refine ⟨⟨started.imsis, started.teids, routed⟩, .started pc proc ?_
                      ⟨begun.pending, begun.others, begun.fresh, begun.address, begun.uids⟩ ?_ ?_⟩
                    · change pc < inserted.nextAddress
                      rw [start.nextAddress]
                      omega
                    · rw [start.shape.2.2]
                      simp [ProcedureKind.request, own]
                    · simp [Shows, Event.answers, Event.asks]
                  · next failed =>
                      cases ran
                      have notSent : upNode = .sendFailed := by
                        cases upNode with
                        | notSelected => simp [UpNode.failure] at survived
                        | notAssociated => simp [UpNode.failure] at survived
                        | sendFailed => rfl
                        | sent => exact absurd rfl failed
                      have removed := idle_of_removed allocated start
                      refine ⟨⟨started.imsis, started.teids, routed⟩, .dropped notSent
                        ⟨removed.pending, removed.uids, removed.nextAddress⟩ ?_⟩
                      simp [Shows]

theorem shows_strayEvents (selection : PaaSelection) : Shows selection.strayEvents [] [] := by
  unfold PaaSelection.strayEvents
  split <;> simp [Shows, Event.answers, Event.asks]

theorem shows_ipv4SetEvents (sp : Nat) (paa : Paa) (fromPool : Bool) :
    Shows (ipv4SetEvents sp paa fromPool) [] [] := by
  unfold ipv4SetEvents
  split <;> simp [Shows, Event.answers, Event.asks]

/-- The PAA is written to the pools and the connection alone. -/
theorem idle_storedPaa (homes : Homes s) (allocated : s.Allocated) (sp : Nat) (pools : PaaDynamic)
    (stored : Option Paa) :
    let before := match stored with
      | some paa => ({ s with paaDynamic := pools }).setPdnConnection sp
          ((s.pdnConnections sp).set paa)
      | none => { s with paaDynamic := pools }
    Homes before ∧ before.Allocated ∧ Idle s before ∧ before.nextAddress = s.nextAddress := by
  cases stored with
  | none =>
      exact ⟨⟨homes.imsis, homes.teids, homes.seids⟩, allocated,
        ⟨fun _ => rfl, .refl _, le_rfl⟩, rfl⟩
  | some paa =>
      exact ⟨⟨homes.imsis, homes.teids, homes.seids⟩, allocated,
        ⟨fun _ => rfl, .refl _, le_rfl⟩, rfl⟩

theorem creation_assignPaa (homes : Homes s) (allocated : s.Allocated) (home : pc < s.nextAddress)
    (ran : s.assignPaa config pc sa sp request upNode endValue = some (t, events)) :
    Homes t ∧ Creation s request upNode events t := by
  obtain ⟨pcoResp, pcoIds, nas, ran⟩ := assignPaaWith_of_assignPaa ran
  unfold assignPaaWith at ran
  simp only [selectPaa_of_nas nas] at ran
  split at ran
  · split at ran
    · cases ran
    · next after started result =>
        cases ran
        obtain ⟨homes, allocated, idle, same⟩ := idle_storedPaa homes allocated sp _
          ((s.paaFor sa sp request endValue).paa.or (request.paa.filter Paa.isIpAssigned))
        obtain ⟨homes, creation⟩ := creation_establish homes allocated (by rw [same]; exact home)
          rfl result
        refine ⟨homes, (creation.after idle).shown_append ?_⟩
        apply shows_append (shows_strayEvents _)
        split
        · exact shows_ipv4SetEvents _ _ _
        · simp [Shows]
  · cases ran
    refine ⟨⟨homes.imsis, homes.teids, homes.seids⟩, .answered
      ⟨fun _ => rfl, .refl _, le_rfl⟩ ?_⟩
    apply shows_append (shows_strayEvents _)
    simp [Shows, rejectCreate, Event.answers, Event.asks]

theorem idle_attach (attached : s.attach pc request = some (t, sa, sp)) : Idle s t := by
  rcases attach_cases attached with ⟨-, rfl⟩ | ⟨-, -, -, teid, new⟩
  · exact .refl t
  · refine ⟨fun other => ?_, by rw [new.uids]; exact .refl _, by rw [new.nextAddress]; omega⟩
    rw [pending, new.contexts]
    by_cases same : other = pc
    · rw [same, Function.update_self]
      rfl
    · rw [Function.update_of_ne same]
      rfl

theorem Homes.attach (homes : Homes s) (home : pc < s.nextAddress)
    (attached : s.attach pc request = some (t, sa, sp)) : Homes t := by
  rcases attach_cases attached with ⟨-, rfl⟩ | ⟨-, -, -, teid, new⟩
  · exact homes
  · constructor
    · intro imsi other known
      rw [new.imsiMap] at known
      have bound := homes.imsis imsi other known
      rw [new.nextAddress]
      omega
    · intro teid other known
      rw [new.teidMap, ExtTreeMap.getElem?_insert] at known
      rw [new.nextAddress]
      split at known
      · cases known
        omega
      · have bound := homes.teids teid other known
        omega
    · intro seid other known
      rw [new.seidMap] at known
      have bound := homes.seids seid other known
      rw [new.nextAddress]
      omega

theorem Allocated.idle (allocated : s.Allocated) (idle : Idle s t) : t.Allocated := by
  intro pc proc member
  rw [idle.pending] at member
  exact lt_of_lt_of_le (allocated pc proc member) idle.nextAddress

/-- The sender's F-TEID is the one of an SGW. -/
def Valid (sender : Fteid) : Bool :=
  sender.interfaceType == s5s8SgwGtpC && sender.teidGreKey != 0

/-- A request that no condition of `pgw_app` drops. -/
def Admitted (config : Config) (s : State) (request : CreateSessionRequest) : Prop :=
  (request.teid ≠ 0 ∧ request.teid ∉ s.s5s8cplteid) ∨
    config.isDottedApnHandled request.apn request.containerPdnType = false ∨
    (request.imsi.isSome ∧ request.uimsi = false) ∨ (request.imsi = none ∧ request.teid ≠ 0)

theorem route_ne_ignored (valid : Valid request.senderFteidForCp = true)
    (admitted : s.Admitted config request) : s.route config request ≠ .ignored := by
  simp only [Valid, Bool.and_eq_true, beq_iff_eq, bne_iff_ne] at valid
  intro ignored
  unfold route at ignored
  rw [if_neg (not_not.mpr valid.1), if_neg valid.2] at ignored
  split at ignored
  · cases ignored
  · next knownTeid =>
      split at ignored
      · cases ignored
      · next handled =>
          rcases admitted with unknown | unhandled | ⟨given, known⟩ | ⟨missing, teid⟩
          · exact knownTeid unknown
          · rw [unhandled] at handled
            exact handled rfl
          · obtain ⟨imsi, given⟩ := Option.isSome_iff_exists.mp given
            rw [given] at ignored
            simp only [known, Bool.false_eq_true, if_false] at ignored
            split at ignored <;> cases ignored
          · rw [missing] at ignored
            simp only [ne_eq, teid, not_false_eq_true, if_true] at ignored
            split at ignored <;> cases ignored

theorem idle_newContext (empty : s.pending s.nextAddress = []) (imsi : Nat) :
    Idle s (s.newContext imsi) where
  pending pc := by
    by_cases same : pc = s.nextAddress
    · rw [same, empty]
      simp [pending, newContext, setContext]
    · simp [pending, newContext, setContext, Function.update_of_ne same]
  uids := .refl _
  nextAddress := Nat.le_succ _

theorem Homes.newContext (homes : Homes s) (imsi : Nat) : Homes (s.newContext imsi) where
  imsis other pc known := by
    change (s.imsi2pgwContext.insert imsi s.nextAddress)[other]? = some pc at known
    change pc < s.nextAddress + 1
    rw [ExtTreeMap.getElem?_insert] at known
    split at known
    · cases known
      omega
    · have bound := homes.imsis other pc known
      omega
  teids teid pc known := lt_of_lt_of_le (homes.teids teid pc known) (Nat.le_succ _)
  seids seid pc known := lt_of_lt_of_le (homes.seids seid pc known) (Nat.le_succ _)

theorem idle_entered : Idle s (s.entered pc request) where
  pending other := by
    unfold entered pending setContext
    by_cases same : other = pc
    · rw [same]
      simp
    · simp [Function.update_of_ne same]
  uids := .refl _
  nextAddress := le_rfl

/-- The context that a request is handed to has been allocated. -/
theorem route_home (homes : Homes s) (empty : s.pending s.nextAddress = [])
    (routed : s.route config request = .context pc t) :
    Homes t ∧ Idle s t ∧ pc < t.nextAddress := by
  rcases route_context routed with ⟨rfl, ⟨imsi, -, known⟩ | ⟨-, known⟩⟩ | ⟨imsi, -, -, rfl, rfl⟩
  · exact ⟨homes, .refl _, homes.imsis imsi pc known⟩
  · exact ⟨homes, .refl _, homes.teids request.teid pc known⟩
  · exact ⟨homes.newContext imsi, idle_newContext empty imsi, Nat.lt_succ_self _⟩

theorem creation_create (homes : Homes s) (allocated : s.Allocated)
    (empty : s.pending s.nextAddress = [])
    (handled : s.handleCreateSessionRequest config request upNode endValue = some (t, events)) :
    Homes t ∧ ((s.route config request = .ignored ∧ t = s ∧ events = []) ∨
      Creation s request upNode events t) := by
  unfold handleCreateSessionRequest at handled
  split at handled
  · next ignored =>
      cases handled
      exact ⟨homes, .inl ⟨ignored, rfl, rfl⟩⟩
  · next cause answered =>
      cases handled
      refine ⟨homes, .inr (.answered (.refl _) ?_)⟩
      simp [Shows, createSessionResponseCause, Event.answers, Event.asks]
  · cases handled
  · next pc before routed =>
      obtain ⟨homes, idle, home⟩ := route_home homes empty routed
      unfold createInContext at handled
      simp only at handled
      split at handled
      · cases handled
      · next after sa sp attached =>
          have entered : Idle before (before.entered pc request) := idle_entered
          have inside : Homes (before.entered pc request) :=
            ⟨homes.imsis, homes.teids, homes.seids⟩
          have attaching := idle_attach attached
          have whole := idle.trans (entered.trans attaching)
          obtain ⟨homes, creation⟩ := creation_assignPaa (inside.attach home attached)
            (allocated.idle whole) (lt_of_lt_of_le home attaching.nextAddress) handled
          exact ⟨homes, .inr (creation.after whole)⟩

/-! ### Deletion and responses -/

theorem Homes.of_sub (homes : Homes s)
    (imsis : ∀ imsi pc : Nat,
      t.imsi2pgwContext[imsi]? = some pc → s.imsi2pgwContext[imsi]? = some pc)
    (teids : ∀ teid pc : Nat, t.s5s8lteid2pgwContext[teid]? = some pc →
      s.s5s8lteid2pgwContext[teid]? = some pc)
    (seids : t.seid2pgwContext = s.seid2pgwContext)
    (nextAddress : s.nextAddress ≤ t.nextAddress) : Homes t where
  imsis imsi pc known := lt_of_lt_of_le (homes.imsis imsi pc (imsis imsi pc known)) nextAddress
  teids teid pc known := lt_of_lt_of_le (homes.teids teid pc (teids teid pc known)) nextAddress
  seids seid pc known := by
    rw [seids] at known
    exact lt_of_lt_of_le (homes.seids seid pc known) nextAddress

theorem idle_deleteIfEmpty : Idle s (s.deleteIfEmpty pc) := by
  unfold deleteIfEmpty
  split
  · exact ⟨fun _ => rfl, .refl _, le_rfl⟩
  · exact .refl s

theorem Homes.deleteIfEmpty (homes : Homes s) : Homes (s.deleteIfEmpty pc) := by
  unfold State.deleteIfEmpty
  split
  · refine homes.of_sub (fun imsi other known => ?_) (fun _ _ known => known) rfl le_rfl
    change (s.imsi2pgwContext.erase _)[imsi]? = some other at known
    rw [ExtTreeMap.getElem?_erase] at known
    split at known
    · cases known
    · exact known
  · exact homes

/-- What a Delete Session Request comes to. -/
inductive Deletion (s : State) (request : DeleteSessionRequest) (sent : Bool)
    (events : List Event) (t : State) : Prop where
  | dropped (why : request.senderFteidForCp.any (fun sender => !Valid sender) ∨ sent = false ∨
      (request.senderFteidForCp = none ∧ ∀ pc, s.s5s8lteid2pgwContext[request.teid]? = some pc →
        s.findPdnConnection pc request.teid true = none))
      (idle : Idle s t) (shown : Shows events [] [])
  | answered (idle : Idle s t) (shown : Shows events [⟨.deleteSession, request.gtpcTxId⟩] [])
  | started (pc : Nat) (proc : Procedure) (home : pc < t.nextAddress) (begins : Begins s pc proc t)
      (own : proc.kind.request = ⟨.deleteSession, request.gtpcTxId⟩)
      (shown : Shows events [] [proc.trxnId])

theorem deletion_inContext (homes : Homes s) (allocated : s.Allocated) (home : pc < s.nextAddress)
    {order : DeleteSessionRequest} {sent : Bool}
    (known : s.s5s8lteid2pgwContext[order.teid]? = some pc)
    (handled : s.deleteInContext pc order sent = some (t, events)) :
    Homes t ∧ Deletion s order sent events t := by
  unfold deleteInContext at handled
  simp only at handled
  split at handled
  · split at handled
    · cases handled
    · next proc inserted started =>
        have start := started_of_startProcedure started
        have begun := begins_of_started start
        have started := homes.started start
        split at handled
        · cases handled
          refine ⟨started, .started pc proc ?_ begun ?_ ?_⟩
          · rw [start.nextAddress]
            omega
          · rw [start.shape.2.2]
            rfl
          · simp [Shows, Event.answers, Event.asks]
        · next failed =>
            cases handled
            refine ⟨⟨started.imsis, started.teids, started.seids⟩, .dropped
              (.inr (.inl (by simpa using failed))) (idle_of_removed allocated start) ?_⟩
            simp [Shows]
  · next missing =>
      split at handled
      · next sender given =>
          cases handled
          refine ⟨homes, .answered (.refl _) ?_⟩
          simp [Shows, Event.answers, Event.asks]
      · next absent =>
          cases handled
          refine ⟨homes, .dropped (.inr (.inr ⟨absent, fun other routed => ?_⟩)) (.refl _) ?_⟩
          · rw [known, Option.some.injEq] at routed
            rw [← routed]
            rw [absent] at missing
            exact missing
          · simp [Shows]

theorem Deletion.after_deleteIfEmpty {order : DeleteSessionRequest} {sent : Bool}
    (deletion : Deletion s order sent events t) :
    Deletion s order sent events (t.deleteIfEmpty pc) := by
  have idle : Idle t (t.deleteIfEmpty pc) := idle_deleteIfEmpty
  cases deletion with
  | dropped why earlier shown => exact .dropped why (earlier.trans idle) shown
  | answered earlier shown => exact .answered (earlier.trans idle) shown
  | started other proc home begins own shown =>
      refine .started other proc (lt_of_lt_of_le home idle.nextAddress) ?_ own shown
      exact ⟨(idle.pending other).trans begins.pending,
        fun another different => (idle.pending another).trans (begins.others another different),
        UintGenerator.newUids_mono_right idle.uids begins.fresh,
        ⟨begins.address.1, lt_of_lt_of_le begins.address.2 idle.nextAddress⟩,
        begins.uids.trans idle.uids⟩

theorem deletion_handled (homes : Homes s) (allocated : s.Allocated)
    {order : DeleteSessionRequest} {sent : Bool}
    (handled : s.handleDeleteSessionRequest order sent = some (t, events)) :
    Homes t ∧ Deletion s order sent events t := by
  unfold handleDeleteSessionRequest at handled
  split at handled
  · next invalid =>
      cases handled
      refine ⟨homes, .dropped (.inl ?_) (.refl _) (by simp [Shows])⟩
      simpa [Valid, Bool.not_and, bne] using invalid
  · split at handled
    · next pc routed =>
        split at handled
        · cases handled
        · next after shown result =>
            cases handled
            obtain ⟨homes, deletion⟩ := deletion_inContext homes allocated
              (homes.teids order.teid pc routed) routed result
            exact ⟨homes.deleteIfEmpty, deletion.after_deleteIfEmpty⟩
    · next unknown =>
        split at handled
        · cases handled
          exact ⟨homes, .answered (.refl _) (by simp [Shows, Event.answers, Event.asks])⟩
        · next absent =>
            cases handled
            refine ⟨homes, .dropped (.inr (.inr ⟨absent, fun pc routed => ?_⟩)) (.refl _)
              (by simp [Shows])⟩
            rw [unknown] at routed
            cases routed

/-- What an Sx response comes to: nobody takes it, or a procedure ends. -/
inductive Response (s : State) (seid trxnId : Nat) (kind : RequestKind) (events : List Event)
    (t : State) : Prop where
  | ignored (nobody : ∀ pc, s.seid2pgwContext[seid]? = some pc → s.findProcedure pc trxnId = none)
      (idle : Idle s t) (quiet : events = [])
  | ended (pc : Nat) (proc : Procedure) (routed : s.seid2pgwContext[seid]? = some pc)
      (own : proc.trxnId = trxnId) (ends : Ends s pc proc t)
      (shown : Shows events
        (if proc.kind.request.kind = kind then [proc.kind.request] else []) [])

theorem trxnId_of_findProcedure {trxnId : Nat} {proc : Procedure}
    (found : s.findProcedure pc trxnId = some proc) :
    proc.trxnId = trxnId ∧ proc ∈ s.pending pc :=
  ⟨by simpa using List.find?_some found, List.mem_of_find?_eq_some found⟩

theorem ends_removeProcedure {trxnId : Nat} {proc : Procedure}
    (found : s.findProcedure pc trxnId = some proc) (idle : Idle s t) :
    Ends s pc proc (t.removeProcedure pc proc.address) where
  found := by rw [(trxnId_of_findProcedure found).1, found]
  pending := by
    rw [← idle.pending]
    simp [pending, removeProcedure, setContext]
  others other different := by
    rw [← idle.pending]
    simp [pending, removeProcedure, setContext, Function.update_of_ne different]
  uids := idle.uids
  nextAddress := idle.nextAddress

theorem response_establishment (homes : Homes s) {answer : SessionEstablishmentResponse}
    (handled : s.handleSessionEstablishmentResponse answer = (t, events)) :
    Homes t ∧ Response s answer.seid answer.trxnId .createSession events t := by
  unfold handleSessionEstablishmentResponse at handled
  split at handled
  · next unknown =>
      cases handled
      refine ⟨homes, .ignored (fun pc routed => ?_) (.refl _) rfl⟩
      rw [unknown] at routed
      cases routed
  · next pc routed =>
      split at handled
      · next missing =>
          cases handled
          refine ⟨homes, .ignored (fun other known => ?_) (.refl _) rfl⟩
          rw [routed, Option.some.injEq] at known
          rw [← known]
          exact missing
      · next proc found =>
          have own := (trxnId_of_findProcedure found).1
          split at handled
          · next bearers waiting kind =>
              cases handled
              refine ⟨⟨homes.imsis, homes.teids, homes.seids⟩, .ended pc proc routed own
                (ends_removeProcedure found ⟨fun _ => rfl, .refl _, le_rfl⟩) ?_⟩
              simp [Shows, Event.answers, Event.asks, kind, ProcedureKind.request]
          · next context gtpcTxId teid kind =>
              cases handled
              refine ⟨⟨homes.imsis, homes.teids, homes.seids⟩, .ended pc proc routed own
                (ends_removeProcedure found (.refl s)) ?_⟩
              simp [Shows, kind, ProcedureKind.request]

/-- Detaching a connection touches no procedure and adds nothing to the tables. -/
structure Lets (s t : State) : Prop extends Idle s t where
  imsis : ∀ imsi pc : Nat, t.imsi2pgwContext[imsi]? = some pc → s.imsi2pgwContext[imsi]? = some pc
  teids : ∀ teid pc : Nat, t.s5s8lteid2pgwContext[teid]? = some pc →
    s.s5s8lteid2pgwContext[teid]? = some pc
  seids : t.seid2pgwContext = s.seid2pgwContext

theorem Lets.refl (s : State) : Lets s s := ⟨.refl s, fun _ _ => id, fun _ _ => id, rfl⟩

theorem Lets.trans {u : State} (first : Lets s t) (second : Lets t u) : Lets s u where
  toIdle := first.toIdle.trans second.toIdle
  imsis imsi pc known := first.imsis imsi pc (second.imsis imsi pc known)
  teids teid pc known := first.teids teid pc (second.teids teid pc known)
  seids := second.seids.trans first.seids

theorem Homes.lets (homes : Homes s) (lets : Lets s t) : Homes t :=
  homes.of_sub lets.imsis lets.teids lets.seids lets.nextAddress

theorem lets_setApnContext {apn : ApnContext} : Lets s (s.setApnContext sa apn) :=
  ⟨⟨fun _ => rfl, .refl _, le_rfl⟩, fun _ _ => id, fun _ _ => id, rfl⟩

theorem lets_deallocateRessources {label : String} : Lets s (s.deallocateRessources label sp) := by
  refine ⟨⟨fun _ => rfl, .refl _, le_rfl⟩, fun _ _ => id, fun teid pc known => ?_, rfl⟩
  change (s.s5s8lteid2pgwContext.erase _)[teid]? = some pc at known
  rw [ExtTreeMap.getElem?_erase] at known
  split at known
  · cases known
  · exact known

theorem lets_deleteFromApn : Lets s (s.deleteFromApn sa sp) := by
  unfold deleteFromApn
  simp only
  split
  · exact (lets_deallocateRessources.trans lets_deallocateRessources).trans lets_setApnContext
  · exact lets_deallocateRessources

theorem lets_deallocateApn : Lets s (s.deallocateApn sa) := by
  unfold deallocateApn
  refine Lets.trans ?_ lets_setApnContext
  generalize (s.apnContexts sa).pdnConnections = connections
  generalize (s.apnContexts sa).apnInUse = label
  induction connections generalizing s with
  | nil => exact .refl s
  | cons sp rest inductionHypothesis =>
      exact lets_deallocateRessources.trans inductionHypothesis

theorem lets_deleteApnContext : Lets s (s.deleteApnContext pc sa) := by
  unfold deleteApnContext
  split
  · refine lets_deallocateApn.trans
      ⟨⟨fun other => ?_, .refl _, le_rfl⟩, fun _ _ => id, fun _ _ => id, rfl⟩
    by_cases same : other = pc
    · rw [same]
      simp [pending, setContext]
    · simp [pending, setContext, Function.update_of_ne same]
  · exact .refl s

theorem lets_deletePdnConnection : Lets s (s.deletePdnConnection pc sa sp) := by
  unfold deletePdnConnection
  simp only
  split
  · exact lets_deleteFromApn.trans lets_deleteApnContext
  · exact lets_deleteFromApn

theorem lets_deleted (context ppc : Nat) : Lets s (s.deleted context ppc).1 := by
  unfold deleted
  split
  · exact lets_deletePdnConnection
  · exact .refl s

theorem Ends.idle {u : State} {proc : Procedure} (ends : Ends s pc proc t) (idle : Idle t u) :
    Ends s pc proc u where
  found := ends.found
  pending := (idle.pending pc).trans ends.pending
  others other different := (idle.pending other).trans (ends.others other different)
  uids := ends.uids.trans idle.uids
  nextAddress := ends.nextAddress.trans idle.nextAddress

theorem response_deletion (homes : Homes s) {answer : SessionDeletionResponse}
    (handled : s.handleSessionDeletionResponse answer = (t, events)) :
    Homes t ∧ Response s answer.seid answer.trxnId .deleteSession events t := by
  unfold handleSessionDeletionResponse at handled
  split at handled
  · next unknown =>
      cases handled
      refine ⟨homes, .ignored (fun pc routed => ?_) (.refl _) rfl⟩
      rw [unknown] at routed
      cases routed
  · next pc routed =>
      simp only at handled
      split at handled
      · next missing =>
          cases handled
          refine ⟨homes.deleteIfEmpty, .ignored (fun other known => ?_) idle_deleteIfEmpty rfl⟩
          rw [routed, Option.some.injEq] at known
          rw [← known]
          exact missing
      · next proc found =>
          have own := (trxnId_of_findProcedure found).1
          split at handled
          · next context gtpcTxId teid kind =>
              cases handled
              have lets : Lets s (s.deleted context proc.ppc).1 := lets_deleted _ _
              have inside := homes.lets lets
              have removed : Homes ((s.deleted context proc.ppc).1.removeProcedure pc
                proc.address) := ⟨inside.imsis, inside.teids, inside.seids⟩
              refine ⟨removed.deleteIfEmpty, .ended pc proc routed own
                ((ends_removeProcedure found lets.toIdle).idle idle_deleteIfEmpty) ?_⟩
              unfold deleted
              split <;> simp [Shows, Event.answers, Event.asks, kind, ProcedureKind.request]
          · next bearers waiting kind =>
              cases handled
              have removed : Homes (s.removeProcedure pc proc.address) :=
                ⟨homes.imsis, homes.teids, homes.seids⟩
              refine ⟨removed.deleteIfEmpty, .ended pc proc routed own
                ((ends_removeProcedure found (.refl s)).idle idle_deleteIfEmpty) ?_⟩
              simp [Shows, kind, ProcedureKind.request]

end State

end OpenairSpgwc.Pgw
