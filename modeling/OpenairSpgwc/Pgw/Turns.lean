import OpenairSpgwc.Pgw.Waits

/-!
Contract: what a step of the PGW does to its waits.

Owns:
- `Lodged`: procedures are pending in contexts that exist, and no two have the same
  transaction identifier; `Housed` adds that the identifiers are live, and is an
  invariant of every reachable state;
- `Turn`: a step leaves the waits alone, adds one or ends one, and `Lodged` is kept
  by each if the identifier is new to the waits;
- for each message, which of them happens and what is sent.
-/

namespace OpenairSpgwc.Pgw

open Foundation
open OpenairSpgwc.Common
open Std (ExtTreeMap)

namespace Gateway

open State (Idle Begins Ends Homes Allocated)

variable {config : Config} {g next : Gateway} {pc : Nat} {w : Wait}
  {events : List Service.Event}

structure Lodged (g : Gateway) : Prop where
  homes : g.app.Homes
  allocated : g.app.Allocated
  addresses : ∀ pc, ((g.app.pending pc).map Procedure.address).Nodup
  empty : ∀ pc, g.app.nextAddress ≤ pc → g.waits pc = []
  distinct : ∀ pc, ((g.waits pc).map Wait.trxnId).Nodup
  apart : ∀ pc pc', pc ≠ pc' → ∀ w ∈ g.waits pc, ∀ w' ∈ g.waits pc', w.trxnId ≠ w'.trxnId

structure Housed (g : Gateway) : Prop extends Lodged g where
  drawn : ∀ pc, ∀ w ∈ g.waits pc, w.trxnId ∈ g.app.uids.uidGenerated

theorem housed_init (pdns : List PdnCfg) : Housed (init pdns) where
  homes := ⟨fun _ _ known => by simp [init, State.init] at known,
    fun _ _ known => by simp [init, State.init] at known,
    fun _ _ known => by simp [init, State.init] at known⟩
  allocated pc proc member := by cases member
  addresses pc := List.nodup_nil
  empty pc _ := rfl
  drawn pc w member := by cases member
  distinct pc := List.nodup_nil
  apart pc pc' _ w member := by cases member

/-- A transaction identifier belongs to one wait. -/
theorem Lodged.wait_eq (lodged : Lodged g) {pc' : Nat} {w' : Wait} (member : w ∈ g.waits pc)
    (member' : w' ∈ g.waits pc') (same : w.trxnId = w'.trxnId) : pc = pc' ∧ w = w' := by
  by_cases home : pc = pc'
  · refine ⟨home, ?_⟩
    rw [← home] at member'
    exact List.inj_on_of_nodup_map (lodged.distinct pc) member member' same
  · exact absurd same (lodged.apart pc pc' home w member w' member')

/-! ## Turns -/

/-- What the sessions keep in any step. -/
structure Steady (g next : Gateway) : Prop where
  homes : next.app.Homes
  allocated : next.app.Allocated
  addresses : ∀ pc, ((next.app.pending pc).map Procedure.address).Nodup
  uids : g.app.uids.Draws next.app.uids
  nextAddress : g.app.nextAddress ≤ next.app.nextAddress

structure Joins (g : Gateway) (pc : Nat) (w : Wait) (next : Gateway) : Prop where
  home : pc < next.app.nextAddress
  added : (next.waits pc).Perm (w :: g.waits pc)
  others : ∀ other, other ≠ pc → next.waits other = g.waits other

/-- A wait joins the others, and its identifier is drawn for it. -/
structure Adds (g : Gateway) (pc : Nat) (w : Wait) (next : Gateway) : Prop
    extends Joins g pc w next where
  fresh : w.trxnId ∈ g.app.uids.newUids next.app.uids

structure Drops (g : Gateway) (pc : Nat) (w : Wait) (next : Gateway) : Prop where
  removed : (g.waits pc).Perm (w :: next.waits pc)
  others : ∀ other, other ≠ pc → next.waits other = g.waits other

inductive Turn (g next : Gateway) : Prop where
  | idle (same : ∀ pc, next.waits pc = g.waits pc)
  | adds (pc : Nat) (w : Wait) (adds : Adds g pc w next)
  | drops (pc : Nat) (w : Wait) (drops : Drops g pc w next)

theorem Drops.mem (drops : Drops g pc w next) : w ∈ g.waits pc :=
  drops.removed.mem_iff.mpr (List.mem_cons_self ..)

theorem Joins.mem_waits (joins : Joins g pc w next) {other : Nat} {wait : Wait} :
    wait ∈ next.waits other ↔ (other = pc ∧ wait = w) ∨ wait ∈ g.waits other := by
  by_cases here : other = pc
  · rw [here, joins.added.mem_iff, List.mem_cons]
    simp
  · rw [joins.others other here]
    simp [here]

theorem Drops.mem_waits (drops : Drops g pc w next) (lodged : Lodged g) {other : Nat}
    {wait : Wait} :
    wait ∈ next.waits other ↔ wait ∈ g.waits other ∧ wait.trxnId ≠ w.trxnId := by
  have inside := drops.mem
  by_cases here : other = pc
  · rw [here]
    have ids := (drops.removed.map Wait.trxnId).nodup_iff.mp (lodged.distinct pc)
    rw [List.map_cons, List.nodup_cons] at ids
    constructor
    · intro member
      refine ⟨drops.removed.mem_iff.mpr (List.mem_cons_of_mem _ member), fun same => ids.1 ?_⟩
      rw [← same]
      exact List.mem_map_of_mem member
    · rintro ⟨member, different⟩
      rcases List.mem_cons.mp (drops.removed.mem_iff.mp member) with same | left
      · exact absurd (congrArg Wait.trxnId same) different
      · exact left
  · rw [drops.others other here]
    constructor
    · intro member
      exact ⟨member, lodged.apart other pc here wait member w inside⟩
    · exact And.left

theorem Lodged.idle (lodged : Lodged g) (steady : Steady g next)
    (same : ∀ pc, next.waits pc = g.waits pc) : Lodged next where
  homes := steady.homes
  allocated := steady.allocated
  addresses := steady.addresses
  empty pc beyond := by
    rw [same]
    exact lodged.empty pc (steady.nextAddress.trans beyond)
  distinct pc := by
    rw [same]
    exact lodged.distinct pc
  apart pc pc' different w member w' member' := by
    rw [same] at member member'
    exact lodged.apart pc pc' different w member w' member'

/-- A wait joins whose identifier no other has. -/
theorem Lodged.joins (lodged : Lodged g) (steady : Steady g next) (joins : Joins g pc w next)
    (unlike : ∀ pc, ∀ wait ∈ g.waits pc, wait.trxnId ≠ w.trxnId) : Lodged next where
  homes := steady.homes
  allocated := steady.allocated
  addresses := steady.addresses
  empty other beyond := by
    have elsewhere : other ≠ pc := by
      have bound := joins.home
      omega
    rw [joins.others other elsewhere]
    exact lodged.empty other (steady.nextAddress.trans beyond)
  distinct other := by
    by_cases here : other = pc
    · rw [here, (joins.added.map Wait.trxnId).nodup_iff, List.map_cons, List.nodup_cons]
      refine ⟨fun known => ?_, lodged.distinct pc⟩
      obtain ⟨wait, member, same⟩ := List.mem_map.mp known
      exact unlike pc wait member same
    · rw [joins.others other here]
      exact lodged.distinct other
  apart other other' different wait member wait' member' := by
    rcases joins.mem_waits.mp member with ⟨here, rfl⟩ | earlier
    · rcases joins.mem_waits.mp member' with ⟨there, rfl⟩ | earlier'
      · exact absurd (here.trans there.symm) different
      · exact (unlike other' wait' earlier').symm
    · rcases joins.mem_waits.mp member' with ⟨there, rfl⟩ | earlier'
      · exact unlike other wait earlier
      · exact lodged.apart other other' different wait earlier wait' earlier'

theorem Lodged.drops (lodged : Lodged g) (steady : Steady g next) (drops : Drops g pc w next) :
    Lodged next where
  homes := steady.homes
  allocated := steady.allocated
  addresses := steady.addresses
  empty other beyond := by
    have none := lodged.empty other (steady.nextAddress.trans beyond)
    by_cases here : other = pc
    · have removed := drops.removed
      rw [← here, none] at removed
      exact absurd removed.symm.eq_nil (List.cons_ne_nil _ _)
    · rw [drops.others other here, none]
  distinct other := by
    by_cases here : other = pc
    · have ids := (drops.removed.map Wait.trxnId).nodup_iff.mp (lodged.distinct pc)
      rw [List.map_cons, List.nodup_cons] at ids
      rw [here]
      exact ids.2
    · rw [drops.others other here]
      exact lodged.distinct other
  apart other other' different wait member wait' member' :=
    lodged.apart other other' different wait ((drops.mem_waits lodged).mp member).1 wait'
      ((drops.mem_waits lodged).mp member').1

theorem Housed.turn (housed : Housed g) (steady : Steady g next) (turn : Turn g next) :
    Housed next := by
  cases turn with
  | idle same =>
      refine ⟨housed.toLodged.idle steady same, fun pc w member => ?_⟩
      rw [same] at member
      exact steady.uids.subset (housed.drawn pc w member)
  | adds home w adds =>
      obtain ⟨live, unlive⟩ := Finset.mem_sdiff.mp adds.fresh
      refine ⟨housed.toLodged.joins steady adds.toJoins fun pc wait member same => ?_,
        fun pc wait member => ?_⟩
      · exact unlive (same ▸ housed.drawn pc wait member)
      · rcases adds.mem_waits.mp member with ⟨-, rfl⟩ | earlier
        · exact live
        · exact steady.uids.subset (housed.drawn pc wait earlier)
  | drops home w drops =>
      refine ⟨housed.toLodged.drops steady drops, fun pc wait member => ?_⟩
      exact steady.uids.subset
        (housed.drawn pc wait ((drops.mem_waits housed.toLodged).mp member).1)

/-! ## From procedures to waits -/

/-- Erasing the one element with a key. -/
theorem perm_cons_eraseP {α : Type} (key : α → Nat) {items : List α} {item : α}
    (nodup : (items.map key).Nodup) (member : item ∈ items) :
    items.Perm (item :: items.eraseP fun other => key other == key item) := by
  induction items with
  | nil => cases member
  | cons first rest inductionHypothesis =>
      rw [List.map_cons, List.nodup_cons] at nodup
      rcases List.mem_cons.mp member with rfl | later
      · rw [List.eraseP_cons_of_pos (by simp)]
      · have different : key first ≠ key item := fun same =>
          nodup.1 (same ▸ List.mem_map_of_mem later)
        rw [List.eraseP_cons_of_neg (by simpa using different)]
        exact ((inductionHypothesis nodup.2 later).cons first).trans (.swap ..)

theorem waits_eq_of_idle (idle : Idle g.app next.app)
    (same : ∀ pc, next.procedures pc = g.procedures pc) (pc : Nat) :
    next.waits pc = g.waits pc := by
  have pending := idle.pending pc
  simp only [State.pending] at pending
  rw [waits, waits, pending, same]

theorem steady_of_idle (lodged : Lodged g) (homes : next.app.Homes)
    (idle : Idle g.app next.app) : Steady g next where
  homes := homes
  allocated := lodged.allocated.idle idle
  addresses pc := by
    rw [idle.pending]
    exact lodged.addresses pc
  uids := idle.uids
  nextAddress := idle.nextAddress

theorem adds_of_begins {proc : Procedure} (begins : Begins g.app pc proc next.app)
    (home : pc < next.app.nextAddress) (same : ∀ pc, next.procedures pc = g.procedures pc) :
    Adds g pc proc.wait next where
  home := home
  added := by
    have pending := begins.pending
    simp only [State.pending] at pending
    rw [waits, waits, pending, same, List.map_append, List.append_assoc]
    exact List.perm_middle
  others other different := by
    have pending := begins.others other different
    simp only [State.pending] at pending
    rw [waits, waits, pending, same]
  fresh := begins.fresh

theorem steady_of_begins (lodged : Lodged g) (homes : next.app.Homes) {proc : Procedure}
    (begins : Begins g.app pc proc next.app) : Steady g next where
  homes := homes
  allocated other item member := by
    have mono : g.app.nextAddress ≤ next.app.nextAddress := by
      have bounds := begins.address
      omega
    by_cases here : other = pc
    · rw [here, begins.pending, List.mem_append, List.mem_singleton] at member
      rcases member with earlier | rfl
      · exact lt_of_lt_of_le (lodged.allocated pc item earlier) mono
      · exact begins.address.2
    · rw [begins.others other here] at member
      exact lt_of_lt_of_le (lodged.allocated other item member) mono
  addresses other := by
    by_cases here : other = pc
    · rw [here, begins.pending, List.map_append, List.map_singleton]
      refine List.nodup_append.mpr ⟨lodged.addresses pc, List.nodup_singleton _, ?_⟩
      intro address earlier last only
      obtain ⟨item, member, rfl⟩ := List.mem_map.mp earlier
      rw [List.mem_singleton.mp only]
      have older := lodged.allocated pc item member
      have newer := begins.address.1
      omega
    · rw [begins.others other here]
      exact lodged.addresses other
  uids := begins.uids
  nextAddress := by
    have bounds := begins.address
    omega

theorem Ends.mem {s t : State} {proc : Procedure} (ends : Ends s pc proc t) :
    proc ∈ s.pending pc :=
  (State.trxnId_of_findProcedure ends.found).2

theorem drops_of_ends (lodged : Lodged g) {proc : Procedure} (ends : Ends g.app pc proc next.app)
    (same : ∀ pc, next.procedures pc = g.procedures pc) : Drops g pc proc.wait next where
  removed := by
    have pending := ends.pending
    have split :=
      (perm_cons_eraseP Procedure.address (lodged.addresses pc) (Ends.mem ends)).map Procedure.wait
    rw [← pending] at split
    rw [waits, waits, same]
    exact split.append_right _
  others other different := by
    have pending := ends.others other different
    simp only [State.pending] at pending
    rw [waits, waits, pending, same]

theorem steady_of_ends (lodged : Lodged g) (homes : next.app.Homes) {proc : Procedure}
    (ends : Ends g.app pc proc next.app) : Steady g next where
  homes := homes
  allocated other item member := by
    refine lt_of_lt_of_le (lodged.allocated other item ?_) ends.nextAddress
    by_cases here : other = pc
    · rw [here, ends.pending] at member
      rw [here]
      exact List.mem_of_mem_eraseP member
    · rw [ends.others other here] at member
      exact member
  addresses other := by
    by_cases here : other = pc
    · rw [here, ends.pending]
      exact (lodged.addresses pc).sublist (List.Sublist.map _ List.eraseP_sublist)
    · rw [ends.others other here]
      exact lodged.addresses other
  uids := ends.uids
  nextAddress := ends.nextAddress

/-! ## Messages -/

/-- The answers and the Sx requests among the events. -/
def Shows (events : List Service.Event) (answers : List RequestId) (asks : List Nat) : Prop :=
  events.filterMap Service.Event.answers = answers ∧ events.filterMap Service.Event.asks = asks

theorem shows_session {events : List Event} {answers : List RequestId} {asks : List Nat}
    (shown : State.Shows events answers asks) : Shows (events.map .session) answers asks := by
  unfold Shows
  rw [List.filterMap_map, List.filterMap_map]
  exact shown

/-- What a request comes to: it is not answered in kind for one of the reasons,
it is answered, or its procedure starts. -/
inductive Served (g : Gateway) (request : RequestId) (reasons : Prop)
    (events : List Service.Event) (next : Gateway) : Prop where
  | dropped (reason : reasons) (same : ∀ pc, next.waits pc = g.waits pc)
  | answered (same : ∀ pc, next.waits pc = g.waits pc) (shown : Shows events [request] [])
  | started (pc : Nat) (w : Wait) (adds : Adds g pc w next) (own : w.request = some request)
      (shown : Shows events [] [w.trxnId])

theorem Served.turn {request : RequestId} {reasons : Prop}
    (served : Served g request reasons events next) : Turn g next := by
  cases served with
  | dropped _ same => exact .idle same
  | answered same _ => exact .idle same
  | started pc w adds _ _ => exact .adds pc w adds

theorem served_create (lodged : Lodged g) {request : CreateSessionRequest} {upNode : UpNode}
    {endValue : Nat}
    (handled : g.handleSession config (.createSession request upNode endValue) =
      some (next, events)) :
    Steady g next ∧ Served g ⟨.createSession, request.gtpcTxId⟩
      (g.app.route config request = .ignored ∨ upNode = .sendFailed) events next := by
  unfold handleSession at handled
  rw [Option.map_eq_some_iff] at handled
  obtain ⟨⟨app, shown⟩, stepped, same⟩ := handled
  cases same
  have empty : g.app.pending g.app.nextAddress = [] := by
    have none := lodged.empty g.app.nextAddress le_rfl
    rw [waits, List.append_eq_nil_iff, List.map_eq_nil_iff] at none
    exact none.1
  obtain ⟨homes, ⟨ignored, rfl, rfl⟩ | creation⟩ :=
    State.creation_create lodged.homes lodged.allocated empty stepped
  · exact ⟨steady_of_idle lodged homes (.refl _),
      .dropped (.inl ignored) (fun _ => rfl)⟩
  · cases creation with
    | dropped sendFailed idle shown =>
        exact ⟨steady_of_idle lodged homes idle, .dropped (.inr sendFailed)
          (waits_eq_of_idle idle fun _ => rfl)⟩
    | answered idle shown =>
        exact ⟨steady_of_idle lodged homes idle,
          .answered (waits_eq_of_idle idle fun _ => rfl) (shows_session shown)⟩
    | started pc proc home begins own shown =>
        refine ⟨steady_of_begins lodged homes begins,
          .started pc proc.wait (adds_of_begins begins home fun _ => rfl) ?_
            (shows_session shown)⟩
        rw [Procedure.wait, own]

/-- Why a Delete Session Request is not answered. -/
def DeleteDropped (g : Gateway) (request : DeleteSessionRequest) (sent : Bool) : Prop :=
  request.senderFteidForCp.any (fun sender => !State.Valid sender) ∨ sent = false ∨
    (request.senderFteidForCp = none ∧
      ∀ pc, g.app.s5s8lteid2pgwContext[request.teid]? = some pc →
        g.app.findPdnConnection pc request.teid true = none)

theorem served_delete (lodged : Lodged g) {request : DeleteSessionRequest} {sent : Bool}
    (handled : g.handleSession config (.deleteSession request sent) = some (next, events)) :
    Steady g next ∧ Served g ⟨.deleteSession, request.gtpcTxId⟩ (g.DeleteDropped request sent)
      events next := by
  unfold handleSession at handled
  rw [Option.map_eq_some_iff] at handled
  obtain ⟨⟨app, shown⟩, stepped, same⟩ := handled
  cases same
  obtain ⟨homes, deletion⟩ := State.deletion_handled lodged.homes lodged.allocated stepped
  cases deletion with
  | dropped why idle shown =>
      exact ⟨steady_of_idle lodged homes idle,
        .dropped why (waits_eq_of_idle idle fun _ => rfl)⟩
  | answered idle shown =>
      exact ⟨steady_of_idle lodged homes idle,
        .answered (waits_eq_of_idle idle fun _ => rfl) (shows_session shown)⟩
  | started pc proc home begins own shown =>
      refine ⟨steady_of_begins lodged homes begins,
        .started pc proc.wait (adds_of_begins begins home fun _ => rfl) ?_ (shows_session shown)⟩
      rw [Procedure.wait, own]

/-- What an Sx response comes to: nobody takes it, or the wait of its
transaction ends, with an answer if it is of a kind that takes the response. -/
inductive Replied (g : Gateway) (seid trxnId : Nat) (takes : RequestKind → Bool)
    (events : List Service.Event) (next : Gateway) : Prop where
  | ignored (nobody : ∀ pc, g.app.seid2pgwContext[seid]? = some pc →
        ∀ w ∈ g.waits pc, w.trxnId ≠ trxnId)
      (same : ∀ pc, next.waits pc = g.waits pc) (shown : Shows events [] [])
  | ended (pc : Nat) (w : Wait) (routed : g.app.seid2pgwContext[seid]? = some pc)
      (own : w.trxnId = trxnId) (drops : Drops g pc w next)
      (shown : Shows events (w.request.filter fun request => takes request.kind).toList [])

theorem Replied.turn {seid trxnId : Nat} {takes : RequestKind → Bool}
    (replied : Replied g seid trxnId takes events next) : Turn g next := by
  cases replied with
  | ignored _ same _ => exact .idle same
  | ended pc w _ _ drops _ => exact .drops pc w drops

/-! ### Procedures of the service -/

theorem findProcedure_eq_none_iff {trxnId : Nat} :
    g.findProcedure pc trxnId = none ↔ ∀ proc ∈ g.procedures pc, proc.trxnId ≠ trxnId := by
  rw [findProcedure, List.find?_eq_none]
  simp

theorem of_findProcedure {trxnId : Nat} {proc : Service.Procedure}
    (found : g.findProcedure pc trxnId = some proc) :
    proc.trxnId = trxnId ∧ proc ∈ g.procedures pc :=
  ⟨by simpa using List.find?_some found, List.mem_of_find?_eq_some found⟩

theorem app_findProcedure_eq_none_iff {trxnId : Nat} :
    g.app.findProcedure pc trxnId = none ↔ ∀ proc ∈ g.app.pending pc, proc.trxnId ≠ trxnId := by
  rw [State.findProcedure, List.find?_eq_none]
  simp [State.pending]

theorem mem_waits_iff {wait : Wait} :
    wait ∈ g.waits pc ↔ (∃ proc ∈ g.app.pending pc, proc.wait = wait) ∨
      ∃ proc ∈ g.procedures pc, proc.wait = wait := by
  rw [waits, List.mem_append, List.mem_map, List.mem_map]
  rfl

/-- Nobody waits for a transaction that both lists do not have. -/
theorem nobody_of_not_found {trxnId : Nat} (service : g.findProcedure pc trxnId = none)
    (session : g.app.findProcedure pc trxnId = none) : ∀ w ∈ g.waits pc, w.trxnId ≠ trxnId := by
  rw [findProcedure_eq_none_iff] at service
  rw [app_findProcedure_eq_none_iff] at session
  intro w member
  rcases mem_waits_iff.mp member with ⟨proc, inside, rfl⟩ | ⟨proc, inside, rfl⟩
  · exact session proc inside
  · exact service proc inside

/-- The removal of a procedure of this half; `next` may have changed otherwise. -/
theorem drops_removeProcedure (lodged : Lodged g) {trxnId : Nat} {proc : Service.Procedure}
    (found : g.findProcedure pc trxnId = some proc) (idle : Idle g.app next.app)
    (same : next.procedures = (g.removeProcedure pc trxnId).procedures) :
    Drops g pc proc.wait next where
  removed := by
    obtain ⟨own, member⟩ := of_findProcedure found
    have distinct := lodged.distinct pc
    rw [waits, List.map_append, List.nodup_append, List.map_map, List.map_map] at distinct
    have split := (perm_cons_eraseP Service.Procedure.trxnId distinct.2.1 member).map
      Service.Procedure.wait
    have pending := idle.pending pc
    simp only [State.pending] at pending
    rw [waits, waits, pending, same]
    simp only [removeProcedure, Function.update_self]
    rw [own] at split
    exact (split.append_left _).trans List.perm_middle
  others other different := by
    have pending := idle.pending other
    simp only [State.pending] at pending
    rw [waits, waits, pending, same]
    simp [removeProcedure, Function.update_of_ne different]

/-- Removing a transaction that is not there. -/
theorem removeProcedure_of_not_found {trxnId : Nat} (missing : g.findProcedure pc trxnId = none) :
    (g.removeProcedure pc trxnId).procedures = g.procedures := by
  rw [findProcedure_eq_none_iff] at missing
  funext other
  simp only [removeProcedure]
  by_cases here : other = pc
  · rw [here, Function.update_self,
      List.eraseP_of_forall_not fun proc member => by simpa using missing proc member]
  · rw [Function.update_of_ne here]

/-- A transaction of a session procedure is none of the service's. -/
theorem not_found_of_pending (lodged : Lodged g) {trxnId : Nat} {proc : Procedure}
    (member : proc ∈ g.app.pending pc) (own : proc.trxnId = trxnId) :
    g.findProcedure pc trxnId = none := by
  rw [findProcedure_eq_none_iff]
  intro other inside same
  have distinct := lodged.distinct pc
  rw [waits, List.map_append, List.nodup_append, List.map_map, List.map_map] at distinct
  have left : proc.trxnId ∈ (g.app.contexts pc).pendingProcedures.map
      (Wait.trxnId ∘ Procedure.wait) := List.mem_map.mpr ⟨proc, member, rfl⟩
  have right : other.trxnId ∈ (g.procedures pc).map
      (Wait.trxnId ∘ Service.Procedure.wait) := List.mem_map.mpr ⟨other, inside, rfl⟩
  exact distinct.2.2 _ left _ right (own.trans same.symm)

/-- The responses that session management handles. -/
theorem replied_session (lodged : Lodged g) {seid trxnId : Nat} {kind : RequestKind}
    {app : State} {shown : List Event} (homes : app.Homes)
    (service : kind ≠ .modifyBearer ∧ kind ≠ .releaseAccessBearers)
    (response : State.Response g.app seid trxnId kind shown app) :
    Steady g { g.dropMismatched seid trxnId with app := app } ∧
      Replied g seid trxnId (fun other => other == kind) (shown.map .session)
        { g.dropMismatched seid trxnId with app := app } := by
  cases response with
  | ignored nobody idle silent =>
      have quiet : State.Shows shown [] [] := by
        rw [silent]
        exact ⟨rfl, rfl⟩
      refine ⟨steady_of_idle lodged homes idle, ?_⟩
      cases routed : g.app.seid2pgwContext[seid]? with
      | none =>
          refine .ignored (fun pc known => ?_) (waits_eq_of_idle idle fun pc => ?_)
            (shows_session quiet)
          · rw [routed] at known
            cases known
          · simp only [dropMismatched, routed]
      | some pc =>
          have missing := nobody pc routed
          cases found : g.findProcedure pc trxnId with
          | none =>
              refine .ignored (fun other known => ?_) (waits_eq_of_idle idle fun other => ?_)
                (shows_session quiet)
              · rw [routed, Option.some.injEq] at known
                rw [← known]
                exact nobody_of_not_found found missing
              · simp only [dropMismatched, routed, removeProcedure_of_not_found found]
          | some proc =>
              refine .ended pc proc.wait routed (of_findProcedure found).1
                (drops_removeProcedure lodged found idle ?_) ?_
              · simp only [dropMismatched, routed]
              · have mismatched : (proc.wait.request.filter fun request => request.kind == kind) =
                    none := by
                  rw [Option.filter_eq_none_iff]
                  intro request own
                  cases is : proc.kind with
                  | modifyBearer toBeModified updateFars pending =>
                      simp only [Service.Procedure.wait, is, Service.ProcedureKind.request,
                        Option.some.injEq] at own
                      rw [← own]
                      simpa using service.1.symm
                  | releaseAccessBearers gtpcTxId teid =>
                      simp only [Service.Procedure.wait, is, Service.ProcedureKind.request,
                        Option.some.injEq] at own
                      rw [← own]
                      simpa using service.2.symm
                  | downlinkDataReport ebi =>
                      simp [Service.Procedure.wait, is, Service.ProcedureKind.request] at own
                rw [mismatched]
                exact shows_session quiet
  | ended pc proc routed own ends answered =>
      have missing := not_found_of_pending lodged (Ends.mem ends) own
      refine ⟨steady_of_ends lodged homes ends, .ended pc proc.wait routed own
        (drops_of_ends lodged ends fun other => ?_) ?_⟩
      · simp only [dropMismatched, routed, removeProcedure_of_not_found missing]
      · have taken : (proc.wait.request.filter fun request => request.kind == kind).toList =
            if proc.kind.request.kind = kind then [proc.kind.request] else [] := by
          simp only [Procedure.wait, Option.filter_some, beq_iff_eq]
          split <;> rfl
        rw [taken]
        exact shows_session answered

theorem replied_establishment (lodged : Lodged g) {answer : SessionEstablishmentResponse}
    (handled : g.handleSession config (.sessionEstablishmentResponse answer) =
      some (next, events)) :
    Steady g next ∧ Replied g answer.seid answer.trxnId (fun kind => kind == .createSession) events
      next := by
  simp only [handleSession, step, Option.map_some, Option.some.injEq, Prod.mk.injEq] at handled
  obtain ⟨rfl, rfl⟩ := handled
  obtain ⟨homes, response⟩ := State.response_establishment lodged.homes (rfl :
    g.app.handleSessionEstablishmentResponse answer = (_, _))
  exact replied_session lodged homes (by decide) response

theorem replied_deletion (lodged : Lodged g) {answer : SessionDeletionResponse}
    (handled : g.handleSession config (.sessionDeletionResponse answer) = some (next, events)) :
    Steady g next ∧ Replied g answer.seid answer.trxnId (fun kind => kind == .deleteSession) events
      next := by
  simp only [handleSession, step, Option.map_some, Option.some.injEq, Prod.mk.injEq] at handled
  obtain ⟨rfl, rfl⟩ := handled
  obtain ⟨homes, response⟩ := State.response_deletion lodged.homes (rfl :
    g.app.handleSessionDeletionResponse answer = (_, _))
  exact replied_session lodged homes (by decide) response

/-- A write to a connection, and nothing else. -/
theorem idle_setPdnConnection {s : State} {sp : Nat} {pdn : PdnConnection} :
    Idle s (s.setPdnConnection sp pdn) := ⟨fun _ => rfl, .refl _, le_rfl⟩

/-- The removal of a session procedure that took no notice. -/
theorem ends_of_found {trxnId : Nat} {proc : Procedure}
    (found : g.app.findProcedure pc trxnId = some proc) :
    Ends g.app pc proc (g.app.removeProcedure pc proc.address) :=
  State.ends_removeProcedure found (.refl _)

/-- Modify Bearer and Release Access Bearers procedures take the response. -/
def takesModification (kind : RequestKind) : Bool :=
  kind == .modifyBearer || kind == .releaseAccessBearers

theorem completed_gtpcTxId {pdn : PdnConnection} {toBeModified : List BearerContextToBeModified}
    {updateFars : List UpdateFar} {pending : ModifyBearerResponse}
    {response : SessionModificationResponse} :
    (completed pdn toBeModified updateFars pending response).2.gtpcTxId = pending.gtpcTxId := rfl

theorem replied_modification (lodged : Lodged g) {answer : SessionModificationResponse}
    (handled : g.handleSessionModificationResponse answer = (next, events)) :
    Steady g next ∧ Replied g answer.seid answer.trxnId takesModification events next := by
  unfold handleSessionModificationResponse at handled
  split at handled
  · next unknown =>
      cases handled
      refine ⟨steady_of_idle lodged lodged.homes (.refl _),
        .ignored (fun pc known => ?_) (fun _ => rfl) ⟨rfl, rfl⟩⟩
      rw [unknown] at known
      cases known
  · next pc routed =>
      cases found : g.findProcedure pc answer.trxnId with
      | some proc =>
          simp only [found] at handled
          have own := (of_findProcedure found).1
          split at handled
          · next toBeModified updateFars pending is =>
              cases handled
              have idle : Idle g.app (g.app.setPdnConnection proc.ppc (completed
                (g.app.pdnConnections proc.ppc) toBeModified updateFars pending answer).1) :=
                  idle_setPdnConnection
              refine ⟨steady_of_idle lodged ⟨lodged.homes.imsis, lodged.homes.teids,
                lodged.homes.seids⟩ idle, .ended pc proc.wait routed own
                (drops_removeProcedure lodged found idle rfl) ?_⟩
              simp [Shows, Service.Procedure.wait, is, Service.ProcedureKind.request,
                Service.Event.answers, Service.Event.asks, completed_gtpcTxId, takesModification,
                Option.filter]
          · next gtpcTxId teid is =>
              cases handled
              refine ⟨steady_of_idle lodged lodged.homes (.refl _), .ended pc proc.wait routed own
                (drops_removeProcedure lodged found (.refl _) rfl) ?_⟩
              simp [Shows, Service.Procedure.wait, is, Service.ProcedureKind.request,
                Service.Event.answers, Service.Event.asks, takesModification, Option.filter]
          · next ebi is =>
              cases handled
              refine ⟨steady_of_idle lodged lodged.homes (.refl _), .ended pc proc.wait routed own
                (drops_removeProcedure lodged found (.refl _) rfl) ?_⟩
              simp [Shows, Service.Procedure.wait, is, Service.ProcedureKind.request]
      | none =>
          cases session : g.app.findProcedure pc answer.trxnId with
          | some proc =>
              simp only [found, session] at handled
              cases handled
              have ends := ends_of_found session
              refine ⟨steady_of_ends lodged ⟨lodged.homes.imsis, lodged.homes.teids,
                lodged.homes.seids⟩ ends, .ended pc proc.wait routed
                (State.trxnId_of_findProcedure session).1
                (drops_of_ends lodged ends fun _ => rfl) ?_⟩
              cases is : proc.kind <;>
                simp [Shows, Procedure.wait, is, ProcedureKind.request, takesModification]
          | none =>
              simp only [found, session] at handled
              cases handled
              refine ⟨steady_of_idle lodged lodged.homes (.refl _),
                .ignored (fun other known => ?_) (fun _ => rfl) ⟨rfl, rfl⟩⟩
              rw [routed, Option.some.injEq] at known
              rw [← known]
              exact nobody_of_not_found found session

/-! ### Requests of the service -/

/-- An identifier is drawn; nothing else changes. -/
structure Drawn (g : Gateway) (trxnId : Nat) (next : Gateway) : Prop where
  idle : Idle g.app next.app
  homes : g.app.Homes → next.app.Homes
  procedures : next.procedures = g.procedures
  connections : next.app.pdnConnections = g.app.pdnConnections
  fresh : trxnId ∈ g.app.uids.newUids next.app.uids

theorem drawn_of_generateTrxnId {trxnId : Nat}
    (generated : g.generateTrxnId = some (trxnId, next)) : Drawn g trxnId next := by
  unfold generateTrxnId at generated
  rw [Option.map_eq_some_iff] at generated
  obtain ⟨⟨uid, uids⟩, got, same⟩ := generated
  cases same
  refine ⟨⟨fun _ => rfl, .single got, Nat.le_succ _⟩, fun homes => ?_, rfl, rfl,
    UintGenerator.mem_newUids_of_getUid got⟩
  exact homes.of_sub (fun _ _ => id) (fun _ _ => id) rfl (Nat.le_succ _)

/-- A procedure of this half is inserted after a write to its connection. -/
theorem adds_insertProcedure {trxnId : Nat} {middle : Gateway} (drawn : Drawn g trxnId middle)
    (home : pc < g.app.nextAddress) {sp : Nat} {pdn : PdnConnection} {proc : Service.Procedure}
    (own : proc.trxnId = trxnId) :
    Adds g pc proc.wait ((middle.setPdnConnection sp pdn).insertProcedure pc proc) where
  home := lt_of_lt_of_le home drawn.idle.nextAddress
  added := by
    have pending := drawn.idle.pending pc
    simp only [State.pending] at pending
    simp only [waits, insertProcedure, setPdnConnection, State.setPdnConnection,
      Function.update_self, pending, drawn.procedures, List.map_append, List.map_cons,
      List.map_nil]
    rw [← List.append_assoc]
    exact List.perm_append_singleton ..
  others other different := by
    have pending := drawn.idle.pending other
    simp only [State.pending] at pending
    simp only [waits, insertProcedure, setPdnConnection, State.setPdnConnection,
      Function.update_of_ne different, pending, drawn.procedures]
  fresh := by
    rw [Service.Procedure.wait, own]
    exact drawn.fresh

theorem Drawn.idle_set {trxnId : Nat} {middle : Gateway} (drawn : Drawn g trxnId middle) {sp : Nat}
    {pdn : PdnConnection} : Idle g.app (middle.setPdnConnection sp pdn).app :=
  drawn.idle.trans idle_setPdnConnection

theorem Drawn.steady (lodged : Lodged g) {trxnId : Nat} {middle : Gateway}
    (drawn : Drawn g trxnId middle) (sp : Nat) (pdn : PdnConnection) :
    Steady g (middle.setPdnConnection sp pdn) := by
  have homes := drawn.homes lodged.homes
  exact steady_of_idle lodged ⟨homes.imsis, homes.teids, homes.seids⟩ drawn.idle_set

theorem waits_setPdnConnection {trxnId : Nat} {middle : Gateway} (drawn : Drawn g trxnId middle)
    {sp : Nat} {pdn : PdnConnection} (pc : Nat) :
    (middle.setPdnConnection sp pdn).waits pc = g.waits pc :=
  waits_eq_of_idle drawn.idle_set (fun _ => congrFun drawn.procedures _) pc

/-- Why a Modify Bearer Request is not answered in kind. -/
def ModifyDropped (g : Gateway) (request : ModifyBearerRequest) (sent : Bool) : Prop :=
  request.senderFteidForCp.any (fun sender => !State.Valid sender) ∨ sent = false ∨
    g.app.s5s8lteid2pgwContext[request.teid]? = none ∨
    (request.senderFteidForCp = none ∧
      ∀ pc, g.app.s5s8lteid2pgwContext[request.teid]? = some pc →
        g.app.findPdnConnection pc request.teid true = none)

theorem served_runModifyBearer (lodged : Lodged g) (home : pc < g.app.nextAddress) {sp : Nat}
    {request : ModifyBearerRequest} {sent : Bool}
    (ran : g.runModifyBearer pc sp request sent = some (next, events)) :
    Steady g next ∧ Served g ⟨.modifyBearer, request.gtpcTxId⟩ (sent = false) events next := by
  simp only [runModifyBearer, Option.bind_eq_bind, Option.bind_eq_some_iff, Option.pure_def] at ran
  obtain ⟨⟨trxnId, middle⟩, generated, m, modified, rest⟩ := ran
  have drawn := drawn_of_generateTrxnId generated
  split at rest
  · split at rest
    · cases rest
      refine ⟨?_, .started pc _ (adds_insertProcedure drawn home rfl) rfl ?_⟩
      · have steady := Drawn.steady lodged drawn sp m.pdn
        exact ⟨steady.homes, steady.allocated, steady.addresses, steady.uids, steady.nextAddress⟩
      · simp [Shows, Service.Event.answers, Service.Event.asks, Service.Procedure.wait]
    · next failed =>
        cases rest
        exact ⟨Drawn.steady lodged drawn _ _, .dropped (by simpa using failed)
          (waits_setPdnConnection drawn)⟩
  · cases rest
    refine ⟨Drawn.steady lodged drawn _ _, .answered (waits_setPdnConnection drawn) ?_⟩
    simp [Shows, Service.Event.answers, Service.Event.asks]

theorem Served.mono {request : RequestId} {reasons others : Prop} (wider : reasons → others)
    (served : Served g request reasons events next) : Served g request others events next := by
  cases served with
  | dropped reason same => exact .dropped (wider reason) same
  | answered same shown => exact .answered same shown
  | started pc w adds own shown => exact .started pc w adds own shown

theorem served_modify (lodged : Lodged g) {request : ModifyBearerRequest} {sent : Bool}
    (handled : g.handleModifyBearerRequest request sent = some (next, events)) :
    Steady g next ∧ Served g ⟨.modifyBearer, request.gtpcTxId⟩ (g.ModifyDropped request sent)
      events next := by
  have still : Steady g g := steady_of_idle lodged lodged.homes (.refl _)
  unfold handleModifyBearerRequest at handled
  split at handled
  · next invalid =>
      cases handled
      refine ⟨still, .dropped (.inl ?_) fun _ => rfl⟩
      simpa [State.Valid, Bool.not_and, bne] using invalid
  · split at handled
    · next pc routed =>
        unfold modifyInContext at handled
        simp only at handled
        split at handled
        · next sa sp found =>
            obtain ⟨steady, served⟩ := served_runModifyBearer lodged
              (lodged.homes.teids request.teid pc routed) handled
            exact ⟨steady, served.mono fun failed => .inr (.inl failed)⟩
        · next missing =>
            split at handled
            · cases handled
              refine ⟨still, .answered (fun _ => rfl) ?_⟩
              simp [Shows, Service.Event.answers, Service.Event.asks]
            · next absent =>
                cases handled
                refine ⟨still, .dropped (.inr (.inr (.inr ⟨absent, fun other known => ?_⟩)))
                  fun _ => rfl⟩
                rw [routed, Option.some.injEq] at known
                rw [absent] at missing
                rw [← known]
                exact missing
    · next unknown =>
        split at handled
        · cases handled
          exact ⟨still, .dropped (.inr (.inr (.inl unknown))) fun _ => rfl⟩
        · cases handled
          exact ⟨still, .dropped (.inr (.inr (.inl unknown))) fun _ => rfl⟩

/-- Why a Release Access Bearers Request is not answered. -/
def ReleaseDropped (g : Gateway) (request : ReleaseAccessBearersRequest) (sent : Bool) : Prop :=
  sent = false ∨ g.app.s5s8lteid2pgwContext[request.teid]? = none

theorem served_release (lodged : Lodged g) {request : ReleaseAccessBearersRequest} {sent : Bool}
    (handled : g.handleReleaseAccessBearersRequest request sent = some (next, events)) :
    Steady g next ∧ Served g ⟨.releaseAccessBearers, request.gtpcTxId⟩
      (g.ReleaseDropped request sent) events next := by
  have still : Steady g g := steady_of_idle lodged lodged.homes (.refl _)
  unfold handleReleaseAccessBearersRequest at handled
  split at handled
  · next pc routed =>
      unfold releaseInContext at handled
      split at handled
      · cases handled
      · next sa sp found =>
          split at handled
          · cases handled
            refine ⟨still, .answered (fun _ => rfl) ?_⟩
            simp [Shows, Service.Event.answers, Service.Event.asks]
          · simp only [runReleaseAccessBearers, Option.bind_eq_bind, Option.bind_eq_some_iff,
              Option.pure_def] at handled
            obtain ⟨⟨trxnId, middle⟩, generated, rest⟩ := handled
            have drawn := drawn_of_generateTrxnId generated
            have steady := Drawn.steady lodged drawn sp
              (releaseBearers (middle.app.pdnConnections sp))
            split at rest
            · cases rest
              refine ⟨⟨steady.homes, steady.allocated, steady.addresses, steady.uids,
                steady.nextAddress⟩, .started pc _ (adds_insertProcedure drawn
                  (lodged.homes.teids request.teid pc routed) rfl) rfl ?_⟩
              simp [Shows, Service.Event.answers, Service.Event.asks, Service.Procedure.wait]
            · next failed =>
                cases rest
                exact ⟨steady, .dropped (.inl (by simpa using failed))
                  (waits_setPdnConnection drawn)⟩
  · next unknown =>
      cases handled
      exact ⟨still, .dropped (.inr unknown) fun _ => rfl⟩

/-! ### Downlink data -/

theorem setPdnConnection_self (g : Gateway) (sp : Nat) :
    g.setPdnConnection sp (g.app.pdnConnections sp) = g := by
  unfold setPdnConnection State.setPdnConnection
  rw [Function.update_eq_self]

/-- A session report may start a procedure, with no request behind it. -/
theorem reported (lodged : Lodged g) {request : SessionReportRequest} {sent : Bool}
    (handled : g.handleSessionReportRequest request sent = some (next, events)) :
    Steady g next ∧ Shows events [] [] ∧
      ((∀ pc, next.waits pc = g.waits pc) ∨
        ∃ pc w, w.request = none ∧ Adds g pc w next) := by
  have still : Steady g g := steady_of_idle lodged lodged.homes (.refl _)
  unfold handleSessionReportRequest at handled
  split at handled
  · next pc pdrId routed _ _ =>
      unfold reportInContext at handled
      split at handled
      · cases handled
        exact ⟨still, ⟨rfl, rfl⟩, .inl fun _ => rfl⟩
      · next sp ebi found =>
          simp only [Option.bind_eq_bind, Option.bind_eq_some_iff, Option.pure_def] at handled
          obtain ⟨⟨trxnId, middle⟩, generated, rest⟩ := handled
          have drawn := drawn_of_generateTrxnId generated
          have steady := Drawn.steady lodged drawn sp (middle.app.pdnConnections sp)
          have same : ∀ pc, (middle.setPdnConnection sp (middle.app.pdnConnections sp)).waits pc =
              g.waits pc := waits_setPdnConnection drawn
          rw [setPdnConnection_self] at steady same
          split at rest
          · cases rest
            let proc : Service.Procedure := ⟨trxnId, sp, .downlinkDataReport ebi⟩
            have adds : Adds g pc proc.wait
                ((middle.setPdnConnection sp (middle.app.pdnConnections sp)).insertProcedure pc
                  proc) :=
              adds_insertProcedure drawn (lodged.homes.seids request.seid pc routed) rfl
            rw [setPdnConnection_self] at adds
            exact ⟨⟨steady.homes, steady.allocated, steady.addresses, steady.uids,
              steady.nextAddress⟩, ⟨rfl, rfl⟩, .inr ⟨pc, proc.wait, rfl, adds⟩⟩
          · cases rest
            exact ⟨steady, ⟨rfl, rfl⟩, .inl same⟩
  · cases handled
    exact ⟨still, ⟨rfl, rfl⟩, .inl fun _ => rfl⟩

/-- An acknowledgement ends the procedure of its transaction, of whatever kind. -/
theorem acknowledged (lodged : Lodged g) {ack : DownlinkDataNotificationAcknowledge}
    (handled : g.handleDownlinkDataNotificationAcknowledge ack = (next, events)) :
    Steady g next ∧ Shows events [] [] ∧
      ((∀ pc, next.waits pc = g.waits pc) ∨
        ∃ pc w, w.trxnId = ack.gtpcTxId ∧ Drops g pc w next) := by
  have still : Steady g g := steady_of_idle lodged lodged.homes (.refl _)
  unfold handleDownlinkDataNotificationAcknowledge at handled
  split at handled
  · cases handled
    exact ⟨still, ⟨rfl, rfl⟩, .inl fun _ => rfl⟩
  · next pc routed =>
      cases found : g.findProcedure pc ack.gtpcTxId with
      | some proc =>
          simp only [found] at handled
          have ended : Steady g (g.removeProcedure pc ack.gtpcTxId) ∧
              Drops g pc proc.wait (g.removeProcedure pc ack.gtpcTxId) :=
            ⟨steady_of_idle lodged lodged.homes (.refl _),
              drops_removeProcedure lodged found (.refl _) rfl⟩
          have own := (of_findProcedure found).1
          split at handled
          · cases handled
            exact ⟨ended.1, ⟨rfl, rfl⟩, .inr ⟨pc, proc.wait, own, ended.2⟩⟩
          · cases handled
            exact ⟨ended.1, ⟨rfl, rfl⟩, .inr ⟨pc, proc.wait, own, ended.2⟩⟩
      | none =>
          cases session : g.app.findProcedure pc ack.gtpcTxId with
          | some proc =>
              simp only [found, session] at handled
              cases handled
              have ends := ends_of_found session
              refine ⟨steady_of_ends lodged ⟨lodged.homes.imsis, lodged.homes.teids,
                lodged.homes.seids⟩ ends, ⟨rfl, rfl⟩, .inr ⟨pc, proc.wait, ?_, ?_⟩⟩
              · exact (State.trxnId_of_findProcedure session).1
              · exact drops_of_ends lodged ends fun _ => rfl
          | none =>
              simp only [found, session] at handled
              cases handled
              exact ⟨still, ⟨rfl, rfl⟩, .inl fun _ => rfl⟩

/-! ### Steps -/

/-- A step keeps the sessions and makes one turn. -/
theorem turn_of_step (lodged : Lodged g) {action : Service.Action}
    (taken : Service.step config g action = some (next, events)) :
    Steady g next ∧ Turn g next := by
  cases action with
  | session action =>
      cases action with
      | createSession request upNode endValue =>
          obtain ⟨steady, served⟩ := served_create lodged taken
          exact ⟨steady, served.turn⟩
      | deleteSession request sent =>
          obtain ⟨steady, served⟩ := served_delete lodged taken
          exact ⟨steady, served.turn⟩
      | sessionEstablishmentResponse response =>
          obtain ⟨steady, replied⟩ := replied_establishment lodged taken
          exact ⟨steady, replied.turn⟩
      | sessionDeletionResponse response =>
          obtain ⟨steady, replied⟩ := replied_deletion lodged taken
          exact ⟨steady, replied.turn⟩
  | modifyBearer request sent =>
      obtain ⟨steady, served⟩ := served_modify lodged taken
      exact ⟨steady, served.turn⟩
  | releaseAccessBearers request sent =>
      obtain ⟨steady, served⟩ := served_release lodged taken
      exact ⟨steady, served.turn⟩
  | sessionModificationResponse response =>
      obtain ⟨steady, replied⟩ := replied_modification lodged (Option.some.inj taken)
      exact ⟨steady, replied.turn⟩
  | sessionReport request sent =>
      obtain ⟨steady, _, same | ⟨pc, w, _, adds⟩⟩ := reported lodged taken
      · exact ⟨steady, .idle same⟩
      · exact ⟨steady, .adds pc w adds⟩
  | downlinkDataNotificationAcknowledge ack =>
      obtain ⟨steady, _, same | ⟨pc, w, _, drops⟩⟩ := acknowledged lodged (Option.some.inj taken)
      · exact ⟨steady, .idle same⟩
      · exact ⟨steady, .drops pc w drops⟩
  | notifyUlError trxnId =>
      cases taken
      exact ⟨steady_of_idle lodged lodged.homes (.refl _), .idle fun _ => rfl⟩

end Gateway

end OpenairSpgwc.Pgw
