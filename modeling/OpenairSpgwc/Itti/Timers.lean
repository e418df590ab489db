import OpenairSpgwc.Common.Runtime
import OpenairSpgwc.Foundation.Transition

/-!
Contract: the timer service of `itti_mw`: `timer_setup`, `timer_remove` and the
thread of `timer_manager_task`.

The thread takes the first timer out of the set into `current_timer`, compares its
expiry with the clock, and either signals it, or waits and then signals it or puts
it back. A step is one section under `m_timers`, or one decision of the thread; the
clock can show anything at any time, and a wait can end early at any time.

Owns:
- the set of timers, ordered by expiry alone;
- `Manager.step`, with what is returned and signalled as events;
- that a timer which is set up is kept until it is removed or signalled, and is not
  signalled again, as long as no two timers in the set expire at the same instant;
- that the service is then the one that the protocol stacks are built on.
-/

namespace OpenairSpgwc.Itti

open Foundation

/-- `ITTI_INVALID_TIMER_ID`. -/
def invalidTimerId : Nat := 0

/-- `TASK_FIRST`, which is the task of the timers, `TASK_MAX` and `TASK_NONE`. -/
def taskFirst : Nat := 0
def taskMax : Nat := 21
def taskNone : Nat := 22

/-- `itti_timer`; the expiry is in nanoseconds. -/
structure Timer where
  id : Nat
  taskId : Nat
  timeOut : Nat
  arg1User : Nat
  arg2User : Nat
deriving DecidableEq, Repr

/-- `timers.insert`: of two timers that expire at the same instant the set keeps the
one that it has. -/
def insert (timer : Timer) : List Timer → List Timer
  | [] => [timer]
  | first :: rest =>
      if timer.timeOut < first.timeOut then timer :: first :: rest
      else if first.timeOut < timer.timeOut then first :: insert timer rest
      else first :: rest

/-- Where the thread is. -/
inductive Phase where
  /-- Before it takes a timer. -/
  | idle
  /-- Before it reads the clock. -/
  | taken
  /-- In `wait_for`. -/
  | waiting
deriving DecidableEq, Repr

structure Manager where
  timerId : Nat
  timers : List Timer
  currentTimer : Timer
  phase : Phase
deriving DecidableEq

/-- What a call returns and what the thread sends. -/
inductive Event where
  | setUp (timerId : Nat)
  /-- `timer_remove` returned `RETURNok`; `inTimers` when the timer was in the set. -/
  | removed (timerId : Nat) (inTimers : Bool)
  | notFound (timerId : Nat)
  | timeOut (taskId timerId arg1User arg2User : Nat)
deriving DecidableEq

inductive Action where
  | timerSetup (intervalSec intervalUs taskId arg1User arg2User : Nat) (now : Nat)
  | timerRemove (timerId : Nat)
  | take
  | readClock (now : Nat)
  /-- `wait_for` returns, because of the time or not. -/
  | wake (timeout : Bool)
deriving DecidableEq

namespace Manager

/-- `null_timer`, made at the instant `start`. -/
def nullTimer (start : Nat) : Timer :=
  ⟨invalidTimerId, taskNone, start + 0xFFFFFFFF * 10 ^ 9 + 0xFFFFFFFF * 10 ^ 3, 0, 0⟩

def init (start : Nat) : Manager := ⟨0, [], nullTimer start, .idle⟩

def timerSetup (m : Manager) (intervalSec intervalUs taskId arg1User arg2User now : Nat) :
    Manager × List Event :=
  if taskFirst < taskId ∧ taskId < taskMax then
    let id := (m.timerId + 1) % 2 ^ 32
    let timer : Timer :=
      ⟨id, taskId, now + intervalSec * 10 ^ 9 + intervalUs * 10 ^ 3, arg1User, arg2User⟩
    ({ m with timerId := id, timers := insert timer m.timers }, [.setUp id])
  else
    (m, [.setUp invalidTimerId])

def timerRemove (m : Manager) (start timerId : Nat) : Manager × List Event :=
  if m.currentTimer.id = timerId then
    ({ m with currentTimer := nullTimer start },
      [.removed timerId (m.timers.any (·.id == timerId))])
  else if m.timers.any (·.id == timerId) then
    ({ m with timers := m.timers.eraseP (·.id == timerId) }, [.removed timerId true])
  else
    (m, [.notFound timerId])

/-- The first section of the thread; with an empty set it waits there. -/
def take (m : Manager) : Option (Manager × List Event) :=
  match m.timers with
  | [] => none
  | first :: rest =>
      some ({ m with timers := rest, currentTimer := first, phase := .taken }, [])

def signal (m : Manager) : Manager × List Event :=
  ({ m with phase := .idle },
    [.timeOut m.currentTimer.taskId m.currentTimer.id m.currentTimer.arg1User
      m.currentTimer.arg2User])

/-- "other timer required ?" -/
def putBack (m : Manager) (start : Nat) : Manager × List Event :=
  ({ m with
      timers := if m.currentTimer.id ≠ invalidTimerId then insert m.currentTimer m.timers
        else m.timers
      currentTimer := nullTimer start
      phase := .idle }, [])

/-- `start` is when the process was started. -/
def step (start : Nat) (m : Manager) : Action → Option (Manager × List Event)
  | .timerSetup intervalSec intervalUs taskId arg1User arg2User now =>
      some (m.timerSetup intervalSec intervalUs taskId arg1User arg2User now)
  | .timerRemove timerId => some (m.timerRemove start timerId)
  | .take => if m.phase = .idle then m.take else none
  | .readClock now =>
      if m.phase = .taken then
        if now < m.currentTimer.timeOut then some ({ m with phase := .waiting }, [])
        else some m.signal
      else
        none
  | .wake timeout =>
      if m.phase = .waiting then
        if timeout then some m.signal else some (m.putBack start)
      else
        none

/-! ## What a step does to the timers -/

/-- The timers in the set, and the one that the thread still has to signal or to put
back. -/
def live (m : Manager) : List Nat :=
  m.timers.map Timer.id ++
    if m.phase = .idle ∨ m.currentTimer.id = invalidTimerId then [] else [m.currentTimer.id]

/-- Every timer in the set has an identifier of its own, and the current timer has
another one. -/
structure Tidy (m : Manager) : Prop where
  nodup : (m.timers.map Timer.id).Nodup
  pos : ∀ id ∈ m.timers.map Timer.id, 0 < id
  le : ∀ id ∈ m.timers.map Timer.id, id ≤ m.timerId
  current : m.currentTimer.id ∉ m.timers.map Timer.id
  current_le : m.currentTimer.id ≤ m.timerId

/-- No timer of the set expires at the instant `timeOut`. -/
def Apart (m : Manager) (timeOut : Nat) : Prop := ∀ timer ∈ m.timers, timer.timeOut ≠ timeOut

/-- A timer enters the set at an instant at which no timer of the set expires, and the
counter of the identifiers does not start over. -/
def Distinct (m : Manager) : Action → Prop
  | .timerSetup intervalSec intervalUs taskId _ _ now => taskFirst < taskId ∧ taskId < taskMax →
      m.timerId + 1 < 2 ^ 32 ∧ m.Apart (now + intervalSec * 10 ^ 9 + intervalUs * 10 ^ 3)
  | .wake false => m.currentTimer.id ≠ invalidTimerId → m.Apart m.currentTimer.timeOut
  | .wake true => True
  | .timerRemove _ => True
  | .take => True
  | .readClock _ => True

instance (m : Manager) (timeOut : Nat) : Decidable (m.Apart timeOut) := by
  unfold Apart
  infer_instance

instance (m : Manager) : (action : Action) → Decidable (m.Distinct action)
  | .timerSetup _ _ _ _ _ _ => by
      unfold Distinct
      infer_instance
  | .wake false => by
      unfold Distinct
      infer_instance
  | .wake true => .isTrue trivial
  | .timerRemove _ => .isTrue trivial
  | .take => .isTrue trivial
  | .readClock _ => .isTrue trivial

theorem insert_perm {timer : Timer} {timers : List Timer}
    (apart : ∀ other ∈ timers, other.timeOut ≠ timer.timeOut) :
    (insert timer timers).Perm (timer :: timers) := by
  induction timers with
  | nil => exact .refl _
  | cons first rest inductionHypothesis =>
      have here := apart first List.mem_cons_self
      rw [insert]
      split
      · exact .refl _
      · rw [if_pos (by omega)]
        have later := inductionHypothesis fun other inside =>
          apart other (List.mem_cons_of_mem first inside)
        exact (later.cons first).trans (.swap timer first rest)

/-- What a step does to the timers that are live, with the last identifier. -/
inductive Change (live : List Nat) (last : Nat) : List Event → List Nat → Nat → Prop where
  | setUp {live' : List Nat} (bound : last + 1 < 2 ^ 32) (added : live'.Perm ((last + 1) :: live)) :
      Change live last [.setUp (last + 1)] live' (last + 1)
  | none {live' : List Nat} (same : live'.Perm live) : Change live last [] live' last
  | invalid : Change live last [.setUp invalidTimerId] live last
  | notFound (timerId : Nat) : Change live last [.notFound timerId] live last
  /-- The current timer has been signalled before. -/
  | stale {timerId : Nat} (gone : timerId ∉ live) :
      Change live last [.removed timerId false] live last
  | removed {live' : List Nat} {timerId : Nat} (inTimers : Bool)
      (ended : live.Perm (timerId :: live')) :
      Change live last [.removed timerId inTimers] live' last
  | timeOut {live' : List Nat} {taskId timerId arg1User arg2User : Nat}
      (ended : live.Perm (timerId :: live')) :
      Change live last [.timeOut taskId timerId arg1User arg2User] live' last
  /-- The timer has been removed while the thread had it. -/
  | nothing (taskId arg1User arg2User : Nat) :
      Change live last [.timeOut taskId invalidTimerId arg1User arg2User] live last

variable {m next : Manager} {events : List Event} {start : Nat}

theorem live_of_idle (idle : m.phase = .idle) : m.live = m.timers.map Timer.id := by
  rw [live, if_pos (.inl idle), List.append_nil]

theorem live_of_invalid (invalid : m.currentTimer.id = invalidTimerId) :
    m.live = m.timers.map Timer.id := by
  rw [live, if_pos (.inr invalid), List.append_nil]

theorem live_of_held (busy : m.phase ≠ .idle) (valid : m.currentTimer.id ≠ invalidTimerId) :
    m.live.Perm (m.currentTimer.id :: m.timers.map Timer.id) := by
  rw [live, if_neg (by simp [busy, valid])]
  exact List.perm_append_comm

theorem tidy_init : (init start).Tidy := by
  constructor <;> simp [init, nullTimer, invalidTimerId]

theorem any_id {timerId : Nat} :
    m.timers.any (·.id == timerId) = true ↔ timerId ∈ m.timers.map Timer.id := by
  simp [List.any_eq_true, List.mem_map]

theorem change_signal (busy : m.phase ≠ .idle) :
    Change m.live m.timerId m.signal.2 m.signal.1.live m.signal.1.timerId := by
  have after : m.signal.1.live = m.timers.map Timer.id := live_of_idle rfl
  by_cases valid : m.currentTimer.id = invalidTimerId
  · rw [after, ← live_of_invalid valid, signal, valid]
    exact .nothing _ _ _
  · rw [after]
    exact .timeOut (live_of_held busy valid)

theorem change_putBack (start : Nat) (busy : m.phase ≠ .idle)
    (apart : m.currentTimer.id ≠ invalidTimerId → m.Apart m.currentTimer.timeOut) :
    Change m.live m.timerId (m.putBack start).2 (m.putBack start).1.live m.timerId := by
  have after : (m.putBack start).1.live = (m.putBack start).1.timers.map Timer.id :=
    live_of_idle rfl
  rw [after]
  apply Change.none
  by_cases valid : m.currentTimer.id = invalidTimerId
  · rw [live_of_invalid valid, putBack, if_neg (not_not.mpr valid)]
  · rw [putBack, if_pos valid]
    have inserted := (insert_perm (apart valid)).map Timer.id
    exact inserted.trans (live_of_held busy valid).symm

theorem change_timerRemove (start : Nat) (tidy : m.Tidy) (timerId : Nat) :
    Change m.live m.timerId (m.timerRemove start timerId).2 (m.timerRemove start timerId).1.live
      (m.timerRemove start timerId).1.timerId := by
  rw [timerRemove]
  by_cases current : m.currentTimer.id = timerId
  · rw [if_pos current]
    have elsewhere : m.timers.any (·.id == timerId) = false := by
      rw [← Bool.not_eq_true, any_id, ← current]
      exact tidy.current
    have after : ({ m with currentTimer := nullTimer start } : Manager).live =
        m.timers.map Timer.id := live_of_invalid rfl
    rw [elsewhere, after]
    by_cases stale : m.phase = .idle ∨ m.currentTimer.id = invalidTimerId
    · have before : m.live = m.timers.map Timer.id := by
        rw [live, if_pos stale, List.append_nil]
      rw [before]
      apply Change.stale
      rw [← current]
      exact tidy.current
    · rw [not_or] at stale
      have before := live_of_held stale.1 stale.2
      rw [current] at before
      exact .removed false before
  · rw [if_neg current]
    by_cases found : m.timers.any (·.id == timerId) = true
    · rw [if_pos found]
      apply Change.removed true
      obtain ⟨timer, inside, same⟩ := List.any_eq_true.mp found
      obtain ⟨kept, before, after, -, isIt, split, erased⟩ :=
        List.exists_of_eraseP (p := fun timer => timer.id == timerId) inside same
      rw [beq_iff_eq] at isIt
      rw [live, live, erased, split, ← isIt, List.map_append, List.map_append, List.map_cons,
        List.append_assoc, List.append_assoc, List.cons_append]
      exact List.perm_middle
    · rw [if_neg found]
      exact .notFound timerId

theorem change_timerSetup (intervalSec intervalUs taskId arg1User arg2User now : Nat)
    (distinct : m.Distinct (.timerSetup intervalSec intervalUs taskId arg1User arg2User now)) :
    Change m.live m.timerId (m.timerSetup intervalSec intervalUs taskId arg1User arg2User now).2
      (m.timerSetup intervalSec intervalUs taskId arg1User arg2User now).1.live
      (m.timerSetup intervalSec intervalUs taskId arg1User arg2User now).1.timerId := by
  rw [timerSetup]
  by_cases valid : taskFirst < taskId ∧ taskId < taskMax
  · obtain ⟨bound, apart⟩ := distinct valid
    rw [if_pos valid]
    simp only [Nat.mod_eq_of_lt bound]
    apply Change.setUp bound
    have inserted := @insert_perm ⟨m.timerId + 1, taskId,
      now + intervalSec * 10 ^ 9 + intervalUs * 10 ^ 3, arg1User, arg2User⟩ m.timers apart
    rw [live, live, ← List.cons_append]
    exact (inserted.map Timer.id).append_right _
  · rw [if_neg valid]
    exact .invalid

/-- One step, when timers that enter the set are apart from those in it. -/
theorem change_of_step {action : Action} (tidy : m.Tidy) (distinct : m.Distinct action)
    (taken : step start m action = some (next, events)) :
    Change m.live m.timerId events next.live next.timerId := by
  cases action with
  | timerSetup intervalSec intervalUs taskId arg1User arg2User now =>
      have change := change_timerSetup intervalSec intervalUs taskId arg1User arg2User now distinct
      rw [step, Option.some.injEq] at taken
      rw [taken] at change
      exact change
  | timerRemove timerId =>
      have change := change_timerRemove start tidy timerId
      rw [step, Option.some.injEq] at taken
      rw [taken] at change
      exact change
  | take =>
      rw [step] at taken
      split at taken
      · next idle =>
          rw [take] at taken
          cases set : m.timers with
          | nil =>
              rw [set] at taken
              cases taken
          | cons first rest =>
              rw [set] at taken
              cases taken
              apply Change.none
              have valid : first.id ≠ invalidTimerId := by
                have positive := tidy.pos first.id (by
                  rw [set]
                  exact List.mem_cons_self)
                exact positive.ne'
              have busy : Phase.taken ≠ .idle := by decide
              rw [live_of_idle idle, set]
              exact live_of_held busy valid
      · cases taken
  | readClock now =>
      rw [step] at taken
      split at taken
      · next busy =>
          split at taken
          · cases taken
            apply Change.none
            rw [live, live, busy]
            simp only [reduceCtorEq, false_or]
            exact .refl _
          · have change := change_signal (by rw [busy]; decide)
            rw [Option.some.injEq] at taken
            rw [taken] at change
            exact change
      · cases taken
  | wake timeout =>
      rw [step] at taken
      split at taken
      · next busy =>
          have held : m.phase ≠ .idle := by
            rw [busy]
            decide
          cases timeout with
          | true =>
              have change := change_signal held
              rw [if_pos rfl, Option.some.injEq] at taken
              rw [taken] at change
              exact change
          | false =>
              have change := change_putBack start held distinct
              rw [if_neg Bool.false_ne_true, Option.some.injEq] at taken
              rw [taken] at change
              have same : next.timerId = m.timerId := by
                rw [putBack, Prod.mk.injEq] at taken
                rw [← taken.1]
              rw [same]
              exact change
      · cases taken

/-! ## The set keeps its order of identifiers -/

theorem Tidy.signal (tidy : m.Tidy) : m.signal.1.Tidy :=
  ⟨tidy.nodup, tidy.pos, tidy.le, tidy.current, tidy.current_le⟩

theorem Tidy.putBack (tidy : m.Tidy)
    (apart : m.currentTimer.id ≠ invalidTimerId → m.Apart m.currentTimer.timeOut) :
    (m.putBack start).1.Tidy := by
  have ids : (m.putBack start).1.timers.map Timer.id = m.timers.map Timer.id ∨
      m.currentTimer.id ≠ invalidTimerId ∧ ((m.putBack start).1.timers.map Timer.id).Perm
        (m.currentTimer.id :: m.timers.map Timer.id) := by
    by_cases valid : m.currentTimer.id ≠ invalidTimerId
    · refine .inr ⟨valid, ?_⟩
      rw [Manager.putBack, if_pos valid]
      exact (insert_perm (apart valid)).map Timer.id
    · refine .inl ?_
      rw [Manager.putBack, if_neg valid]
  have null : (m.putBack start).1.currentTimer.id = 0 := rfl
  have last : (m.putBack start).1.timerId = m.timerId := rfl
  rcases ids with same | ⟨valid, perm⟩
  · constructor
    · rw [same]
      exact tidy.nodup
    · rw [same]
      exact tidy.pos
    · rw [same]
      exact tidy.le
    · rw [same, null]
      exact fun inside => absurd (tidy.pos 0 inside) (by decide)
    · rw [null]
      exact Nat.zero_le _
  · have positive : 0 < m.currentTimer.id := Nat.pos_of_ne_zero valid
    constructor
    · exact perm.nodup_iff.mpr (List.nodup_cons.mpr ⟨tidy.current, tidy.nodup⟩)
    · intro id inside
      rcases List.mem_cons.mp (perm.mem_iff.mp inside) with rfl | inside
      · exact positive
      · exact tidy.pos id inside
    · intro id inside
      rcases List.mem_cons.mp (perm.mem_iff.mp inside) with rfl | inside
      · exact tidy.current_le
      · exact tidy.le id inside
    · intro inside
      rw [null] at inside
      rcases List.mem_cons.mp (perm.mem_iff.mp inside) with zero | inside
      · exact valid zero.symm
      · exact absurd (tidy.pos 0 inside) (by decide)
    · rw [null]
      exact Nat.zero_le _

theorem Tidy.timerSetup (tidy : m.Tidy) (intervalSec intervalUs taskId arg1User arg2User now : Nat)
    (distinct : m.Distinct (.timerSetup intervalSec intervalUs taskId arg1User arg2User now)) :
    (m.timerSetup intervalSec intervalUs taskId arg1User arg2User now).1.Tidy := by
  rw [Manager.timerSetup]
  by_cases valid : taskFirst < taskId ∧ taskId < taskMax
  · obtain ⟨bound, apart⟩ := distinct valid
    rw [if_pos valid]
    simp only [Nat.mod_eq_of_lt bound]
    have perm := (@insert_perm ⟨m.timerId + 1, taskId,
      now + intervalSec * 10 ^ 9 + intervalUs * 10 ^ 3, arg1User, arg2User⟩ m.timers apart).map
        Timer.id
    have fresh : m.timerId + 1 ∉ m.timers.map Timer.id := fun inside =>
      absurd (tidy.le _ inside) (by omega)
    constructor
    · exact perm.nodup_iff.mpr (List.nodup_cons.mpr ⟨fresh, tidy.nodup⟩)
    · intro id inside
      rcases List.mem_cons.mp (perm.mem_iff.mp inside) with rfl | inside
      · exact Nat.succ_pos _
      · exact tidy.pos id inside
    · intro id inside
      rcases List.mem_cons.mp (perm.mem_iff.mp inside) with rfl | inside
      · exact le_rfl
      · exact (tidy.le id inside).trans (Nat.le_succ _)
    · intro inside
      rcases List.mem_cons.mp (perm.mem_iff.mp inside) with same | inside
      · have bounded := tidy.current_le
        have same : m.currentTimer.id = m.timerId + 1 := same
        omega
      · exact tidy.current inside
    · exact tidy.current_le.trans (Nat.le_succ _)
  · rw [if_neg valid]
    exact tidy

theorem Tidy.timerRemove (tidy : m.Tidy) (start timerId : Nat) :
    (m.timerRemove start timerId).1.Tidy := by
  rw [Manager.timerRemove]
  by_cases current : m.currentTimer.id = timerId
  · rw [if_pos current]
    exact ⟨tidy.nodup, tidy.pos, tidy.le,
      fun inside => absurd (tidy.pos 0 inside) (by decide), Nat.zero_le _⟩
  · rw [if_neg current]
    by_cases found : m.timers.any (·.id == timerId) = true
    · rw [if_pos found]
      have fewer : ((m.timers.eraseP (·.id == timerId)).map Timer.id).Sublist
          (m.timers.map Timer.id) := List.eraseP_sublist.map Timer.id
      exact ⟨tidy.nodup.sublist fewer, fun id inside => tidy.pos id (fewer.subset inside),
        fun id inside => tidy.le id (fewer.subset inside),
        fun inside => tidy.current (fewer.subset inside), tidy.current_le⟩
    · rw [if_neg found]
      exact tidy

theorem Tidy.take (tidy : m.Tidy) (taken : m.take = some (next, events)) : next.Tidy := by
  rw [Manager.take] at taken
  cases set : m.timers with
  | nil =>
      rw [set] at taken
      cases taken
  | cons first rest =>
      obtain ⟨nodup, pos, le, -, -⟩ := tidy
      rw [set] at taken nodup pos le
      cases taken
      rw [List.map_cons] at nodup
      exact ⟨nodup.of_cons, fun id inside => pos id (List.mem_cons_of_mem _ inside),
        fun id inside => le id (List.mem_cons_of_mem _ inside), List.Nodup.notMem nodup,
        le first.id List.mem_cons_self⟩

theorem Tidy.step {action : Action} (tidy : m.Tidy) (distinct : m.Distinct action)
    (taken : step start m action = some (next, events)) : next.Tidy := by
  cases action with
  | timerSetup intervalSec intervalUs taskId arg1User arg2User now =>
      have after := tidy.timerSetup intervalSec intervalUs taskId arg1User arg2User now distinct
      rw [Manager.step, Option.some.injEq] at taken
      rw [taken] at after
      exact after
  | timerRemove timerId =>
      have after := tidy.timerRemove start timerId
      rw [Manager.step, Option.some.injEq] at taken
      rw [taken] at after
      exact after
  | take =>
      rw [Manager.step] at taken
      split at taken
      · exact tidy.take taken
      · cases taken
  | readClock now =>
      rw [Manager.step] at taken
      split at taken
      · split at taken
        · cases taken
          exact ⟨tidy.nodup, tidy.pos, tidy.le, tidy.current, tidy.current_le⟩
        · cases taken
          exact tidy.signal
      · cases taken
  | wake timeout =>
      rw [Manager.step] at taken
      split at taken
      · cases timeout with
        | true =>
            cases taken
            exact tidy.signal
        | false =>
            cases taken
            exact tidy.putBack distinct
      · cases taken

/-! ## Timers over a whole run -/

/-- The timers signalled; a signal without a timer is not one. -/
def signalled (past : List Event) : List Nat :=
  past.filterMap fun event => match event with
    | .timeOut _ timerId _ _ => if timerId = invalidTimerId then none else some timerId
    | _ => none

theorem signalled_append (first second : List Event) :
    signalled (first ++ second) = signalled first ++ signalled second :=
  List.filterMap_append

/-- A timer that is set up is in the set or is the current one until it is removed or
signalled. -/
def Kept (past : List Event) (m : Manager) : Prop :=
  ∀ timerId, timerId ≠ invalidTimerId → .setUp timerId ∈ past →
    (∀ inTimers, .removed timerId inTimers ∉ past) → timerId ∉ signalled past →
      timerId ∈ m.timers.map Timer.id ∨ m.currentTimer.id = timerId

/-- No timer is signalled twice, or after it has been removed from the set. -/
def SignalledOnce (past : List Event) : Prop :=
  (signalled past).Nodup ∧ ∀ before timerId after, past = before ++ .removed timerId true :: after →
    timerId ∉ signalled after

/-- What is known of the live timers and the last identifier by the events so far. -/
structure Account (past : List Event) (live : List Nat) (last : Nat) : Prop where
  nodup : live.Nodup
  valid : ∀ timerId ∈ live, timerId ≠ invalidTimerId ∧ timerId ≤ last
  le : ∀ timerId, .setUp timerId ∈ past ∨ timerId ∈ signalled past ∨
    .removed timerId true ∈ past → timerId ≤ last
  ended : ∀ timerId ∈ live, timerId ∉ signalled past ∧ .removed timerId true ∉ past
  kept : ∀ timerId, timerId ≠ invalidTimerId → .setUp timerId ∈ past →
    (∃ inTimers, .removed timerId inTimers ∈ past) ∨ timerId ∈ signalled past ∨ timerId ∈ live
  once : SignalledOnce past

theorem mem_live {timerId : Nat} :
    timerId ∈ m.live ↔ timerId ∈ m.timers.map Timer.id ∨
      (m.phase ≠ .idle ∧ timerId ≠ invalidTimerId ∧ m.currentTimer.id = timerId) := by
  rw [live, List.mem_append]
  refine or_congr_right ?_
  split
  · next off =>
      constructor
      · intro inside
        cases inside
      · rintro ⟨busy, valid, rfl⟩
        exact absurd off (by simp [busy, valid])
  · next on =>
      rw [not_or] at on
      rw [List.mem_singleton]
      constructor
      · rintro rfl
        exact ⟨on.1, on.2, rfl⟩
      · rintro ⟨-, -, same⟩
        exact same.symm

theorem SignalledOnce.append {past : List Event} {event : Event} (once : SignalledOnce past)
    (fresh : ∀ timerId ∈ signalled [event],
      timerId ∉ signalled past ∧ .removed timerId true ∉ past) :
    SignalledOnce (past ++ [event]) := by
  refine ⟨?_, ?_⟩
  · rw [signalled_append, List.nodup_append']
    refine ⟨once.1, ?_, fun timerId inside here => (fresh timerId here).1 inside⟩
    cases event with
    | timeOut taskId timerId arg1User arg2User =>
        by_cases invalid : timerId = invalidTimerId <;> simp [signalled, invalid]
    | setUp timerId => exact List.nodup_nil
    | removed timerId inTimers => exact List.nodup_nil
    | notFound timerId => exact List.nodup_nil
  · intro before timerId after split
    cases after using List.reverseRecOn with
    | nil => exact List.not_mem_nil
    | append_singleton after last _ =>
        rw [← List.cons_append, ← List.append_assoc] at split
        obtain ⟨rfl, same⟩ := List.append_inj' split rfl
        obtain rfl := List.singleton_inj.mp same
        rw [signalled_append, List.mem_append]
        rintro (inside | inside)
        · exact once.2 before timerId after rfl inside
        · exact (fresh timerId inside).2 (List.mem_append_right _ List.mem_cons_self)

theorem Account.perm {past : List Event} {live live' : List Nat} {last : Nat}
    (account : Account past live last) (perm : live'.Perm live) : Account past live' last where
  nodup := perm.nodup_iff.mpr account.nodup
  valid timerId inside := account.valid timerId (perm.mem_iff.mp inside)
  le := account.le
  ended timerId inside := account.ended timerId (perm.mem_iff.mp inside)
  kept timerId valid setUp := by
    rw [perm.mem_iff]
    exact account.kept timerId valid setUp
  once := account.once

/-- Events that say nothing about a live timer. -/
theorem Account.quiet {past : List Event} {live : List Nat} {last : Nat} {event : Event}
    (account : Account past live last) (none' : signalled [event] = [])
    (setUp : ∀ timerId, event = .setUp timerId → timerId = invalidTimerId)
    (removed : ∀ timerId, event ≠ .removed timerId true) :
    Account (past ++ [event]) live last where
  nodup := account.nodup
  valid := account.valid
  le timerId known := by
    rw [signalled_append, none', List.append_nil, List.mem_append, List.mem_append,
      List.mem_singleton, List.mem_singleton] at known
    rcases known with (known | here) | known | known | here
    · exact account.le timerId (.inl known)
    · rw [setUp timerId here.symm]
      exact Nat.zero_le _
    · exact account.le timerId (.inr (.inl known))
    · exact account.le timerId (.inr (.inr known))
    · exact absurd here.symm (removed timerId)
  ended timerId inside := by
    rw [signalled_append, none', List.append_nil, List.mem_append, List.mem_singleton, not_or]
    have before := account.ended timerId inside
    exact ⟨before.1, before.2, fun here => removed timerId here.symm⟩
  kept timerId valid known := by
    rw [signalled_append, none', List.append_nil]
    rw [List.mem_append, List.mem_singleton] at known
    rcases known with known | here
    · rcases account.kept timerId valid known with ⟨inTimers, gone⟩ | rest
      · exact .inl ⟨inTimers, List.mem_append_left _ gone⟩
      · exact .inr rest
    · exact absurd (setUp timerId here.symm) valid
  once := account.once.append fun timerId inside => by
    rw [none'] at inside
    cases inside

/-- A live timer comes to its end. -/
theorem Account.over {past : List Event} {live live' : List Nat} {last timerId : Nat}
    {event : Event} (account : Account past live last) (ended : live.Perm (timerId :: live'))
    (here : (∃ inTimers, event = .removed timerId inTimers) ∨ signalled [event] = [timerId])
    (signals : ∀ other ∈ signalled [event], other = timerId)
    (setUp : ∀ other, event ≠ .setUp other)
    (removed : ∀ other, event = .removed other true → other = timerId) :
    Account (past ++ [event]) live' last := by
  have nodup := ended.nodup_iff.mp account.nodup
  have inside : timerId ∈ live := ended.mem_iff.mpr List.mem_cons_self
  have other : ∀ other ∈ live', other ∈ live ∧ other ≠ timerId := by
    intro other belongs
    refine ⟨ended.mem_iff.mpr (List.mem_cons_of_mem _ belongs), ?_⟩
    rintro rfl
    exact nodup.notMem belongs
  constructor
  · exact nodup.of_cons
  · exact fun one belongs => account.valid one (other one belongs).1
  · intro one known
    rw [signalled_append, List.mem_append, List.mem_append, List.mem_append, List.mem_singleton,
      List.mem_singleton] at known
    rcases known with (known | same) | (known | same) | known | same
    · exact account.le one (.inl known)
    · exact absurd same.symm (setUp one)
    · exact account.le one (.inr (.inl known))
    · rw [signals one same]
      exact (account.valid timerId inside).2
    · exact account.le one (.inr (.inr known))
    · rw [removed one same.symm]
      exact (account.valid timerId inside).2
  · intro one belongs
    obtain ⟨before, differs⟩ := other one belongs
    have unended := account.ended one before
    rw [signalled_append, List.mem_append, List.mem_append, List.mem_singleton, not_or, not_or]
    exact ⟨⟨unended.1, fun same => differs (signals one same)⟩, unended.2,
      fun same => differs (removed one same.symm)⟩
  · intro one valid known
    rw [List.mem_append, List.mem_singleton] at known
    rw [signalled_append, List.mem_append]
    rcases known with known | same
    · rcases account.kept one valid known with ⟨inTimers, gone⟩ | gone | belongs
      · exact .inl ⟨inTimers, List.mem_append_left _ gone⟩
      · exact .inr (.inl (.inl gone))
      · rcases List.mem_cons.mp (ended.mem_iff.mp belongs) with rfl | belongs
        · rcases here with ⟨inTimers, same⟩ | same
          · exact .inl ⟨inTimers, List.mem_append_right _ (List.mem_singleton.mpr same.symm)⟩
          · exact .inr (.inl (.inr (by
              rw [same]
              exact List.mem_cons_self)))
        · exact .inr (.inr belongs)
    · exact absurd same.symm (setUp one)
  · refine account.once.append fun one belongs => ?_
    rw [signals one belongs]
    exact account.ended timerId inside

theorem Account.change {past : List Event} {live live' : List Nat} {last last' : Nat}
    (account : Account past live last) (change : Change live last events live' last') :
    Account (past ++ events) live' last' := by
  cases change with
  | setUp bound added =>
      have fresh : last + 1 ∉ live := fun inside =>
        absurd (account.valid _ inside).2 (by omega)
      have unknown : ∀ timerId, timerId ∈ signalled past ∨ .removed timerId true ∈ past →
          timerId ≠ last + 1 := by
        rintro timerId known rfl
        exact absurd (account.le _ (.inr known)) (by omega)
      have none' : signalled [.setUp (last + 1)] = [] := rfl
      constructor
      · exact added.nodup_iff.mpr (List.nodup_cons.mpr ⟨fresh, account.nodup⟩)
      · intro timerId inside
        rcases List.mem_cons.mp (added.mem_iff.mp inside) with rfl | inside
        · exact ⟨Nat.succ_ne_zero last, le_rfl⟩
        · have before := account.valid timerId inside
          exact ⟨before.1, before.2.trans (Nat.le_succ last)⟩
      · intro timerId known
        rw [signalled_append, none', List.append_nil, List.mem_append, List.mem_append,
          List.mem_singleton, List.mem_singleton] at known
        rcases known with (known | same) | known | known | same
        · exact (account.le timerId (.inl known)).trans (Nat.le_succ last)
        · cases same
          exact le_rfl
        · exact (account.le timerId (.inr (.inl known))).trans (Nat.le_succ last)
        · exact (account.le timerId (.inr (.inr known))).trans (Nat.le_succ last)
        · cases same
      · intro timerId inside
        rw [signalled_append, none', List.append_nil, List.mem_append, List.mem_singleton, not_or]
        rcases List.mem_cons.mp (added.mem_iff.mp inside) with rfl | inside
        · exact ⟨fun gone => unknown _ (.inl gone) rfl, fun gone => unknown _ (.inr gone) rfl,
            fun same => by cases same⟩
        · have before := account.ended timerId inside
          exact ⟨before.1, before.2, fun same => by cases same⟩
      · intro timerId valid known
        rw [signalled_append, none', List.append_nil]
        rw [List.mem_append, List.mem_singleton] at known
        rcases known with known | same
        · rcases account.kept timerId valid known with ⟨inTimers, gone⟩ | gone | inside
          · exact .inl ⟨inTimers, List.mem_append_left _ gone⟩
          · exact .inr (.inl gone)
          · exact .inr (.inr (added.mem_iff.mpr (List.mem_cons_of_mem _ inside)))
        · cases same
          exact .inr (.inr (added.mem_iff.mpr List.mem_cons_self))
      · exact account.once.append fun timerId inside => by
          rw [none'] at inside
          cases inside
  | none same =>
      rw [List.append_nil]
      exact account.perm same
  | invalid => exact account.quiet rfl (fun timerId same => by cases same; rfl) (fun _ => nofun)
  | notFound timerId => exact account.quiet rfl (fun _ => nofun) (fun _ => nofun)
  | stale gone => exact account.quiet rfl (fun _ => nofun) (fun _ => nofun)
  | @removed live' timerId inTimers ended =>
      exact account.over ended (.inl ⟨inTimers, rfl⟩) (fun _ inside => by cases inside)
        (fun _ => nofun) (fun other same => by cases same; rfl)
  | @timeOut live' taskId timerId arg1User arg2User ended =>
      have valid := (account.valid timerId (ended.mem_iff.mpr List.mem_cons_self)).1
      have here : signalled [.timeOut taskId timerId arg1User arg2User] = [timerId] := by
        simp [signalled, valid]
      refine account.over ended (.inr here) (fun other inside => ?_) (fun _ => nofun)
        (fun _ => nofun)
      rw [here] at inside
      exact List.mem_singleton.mp inside
  | nothing taskId arg1User arg2User =>
      exact account.quiet (by simp [signalled]) (fun _ => nofun) (fun _ => nofun)

theorem account_init : Account [] (init start).live (init start).timerId := by
  have empty : (init start).live = [] := rfl
  rw [empty]
  constructor <;> simp [signalled, SignalledOnce]

/-- Where only timers that are apart enter the set, every timer that is set up is in the
set or is the current one until it is removed or signalled, and none is signalled twice
or after its removal from the set. -/
theorem timers_kept {records : List (StepRecord Manager Action Event)} {finish : Manager}
    (start : Nat) (run : Run (step start) (init start) records finish)
    (distinct : ∀ record ∈ records, record.before.Distinct record.action) :
    Kept (trace records) finish ∧ SignalledOnce (trace records) := by
  have accounted := run.history_invariant
    (fun past m => m.Tidy ∧ Account past m.live m.timerId) Distinct ⟨tidy_init, account_init⟩
    (fun past m action next events known distinct taken =>
      ⟨known.1.step distinct taken, known.2.change (change_of_step known.1 distinct taken)⟩)
    distinct
  obtain ⟨-, account⟩ := accounted
  refine ⟨fun timerId valid setUp unremoved unsignalled => ?_, account.once⟩
  rcases account.kept timerId valid setUp with ⟨inTimers, gone⟩ | gone | inside
  · exact absurd gone (unremoved inTimers)
  · exact absurd gone unsignalled
  · rcases mem_live.mp inside with inside | ⟨-, -, same⟩
    · exact .inl inside
    · exact .inr same

/-- The timers without their expiry, as the protocol stacks see them. -/
def itti (m : Manager) : Common.Itti := ⟨m.timerId, m.live.toFinset⟩

theorem erase_of_perm {live live' : List Nat} {timerId : Nat} (nodup : live.Nodup)
    (perm : live.Perm (timerId :: live')) : live'.toFinset = live.toFinset.erase timerId := by
  have fresh := (perm.nodup_iff.mp nodup).notMem
  rw [List.toFinset_eq_of_perm _ _ perm, List.toFinset_cons, Finset.erase_insert]
  rwa [List.mem_toFinset]

/-- A step sets up a timer of the stacks, takes an armed one away, or does nothing. -/
theorem itti_of_step {past : List Event} {action : Action} (tidy : m.Tidy)
    (account : Account past m.live m.timerId) (distinct : m.Distinct action)
    (taken : step start m action = some (next, events)) :
    next.itti = m.itti ∨
      (events = [.setUp m.itti.timerSetup.1] ∧ next.itti = m.itti.timerSetup.2) ∨
        ∃ timerId ∈ m.itti.timers, next.itti = m.itti.timerRemove timerId := by
  have change := change_of_step tidy distinct taken
  generalize live' : next.live = live at change
  generalize last' : next.timerId = last at change
  have after : next.itti = ⟨last, live.toFinset⟩ := by rw [itti, live', last']
  have gone : ∀ timerId, m.live.Perm (timerId :: live) → last = m.timerId →
      ∃ timerId ∈ m.itti.timers, next.itti = m.itti.timerRemove timerId := by
    rintro timerId ended rfl
    refine ⟨timerId, List.mem_toFinset.mpr (ended.mem_iff.mpr List.mem_cons_self), ?_⟩
    rw [after, Common.Itti.timerRemove, itti, erase_of_perm account.nodup ended]
  cases change with
  | setUp bound added =>
      refine .inr (.inl ⟨rfl, ?_⟩)
      rw [after, List.toFinset_eq_of_perm _ _ added, List.toFinset_cons]
      rfl
  | none same => exact .inl (by rw [after, List.toFinset_eq_of_perm _ _ same, itti])
  | invalid => exact .inl after
  | notFound timerId => exact .inl after
  | stale outside => exact .inl after
  | removed inTimers ended => exact .inr (.inr (gone _ ended rfl))
  | timeOut ended => exact .inr (.inr (gone _ ended rfl))
  | nothing taskId arg1User arg2User => exact .inl after

/-- One timer is signalled; another one is taken, put back and removed. -/
theorem timers_kept_two : ∃ records finish, Run (step 0) (init 0) records finish ∧
    trace records = [.setUp 1, .setUp 2, .timeOut 10 1 11 0, .removed 2 true] ∧
    Kept (trace records) finish ∧ SignalledOnce (trace records) := by
  obtain ⟨records, finish, run, distinct, shown⟩ := Run.exists_of_passes (step 0) (init 0)
    [.timerSetup 1 0 10 11 0 0, .timerSetup 2 0 6 0 0 0, .take, .readClock 0, .wake true, .take,
      .readClock 1000000000, .wake false, .timerRemove 2]
    (fun records _ => (∀ record ∈ records, record.before.Distinct record.action) ∧
      trace records = [.setUp 1, .setUp 2, .timeOut 10 1 11 0, .removed 2 true]) (by decide)
  exact ⟨records, finish, run, shown, timers_kept 0 run distinct⟩

/-- Two timers of one second that are set up at the same instant: the second one is not
kept. -/
theorem second_timer_lost : ¬ ∀ (start : Nat) (records : List (StepRecord Manager Action Event))
    (finish : Manager), Run (step start) (init start) records finish →
      Kept (trace records) finish ∧ SignalledOnce (trace records) := by
  intro all
  obtain ⟨records, finish, run, shown, set, current⟩ := Run.exists_of_passes (step 0) (init 0)
    [.timerSetup 1 0 6 0 0 0, .timerSetup 1 0 10 11 0 0]
    (fun records finish => trace records = [.setUp 1, .setUp 2] ∧
      2 ∉ finish.timers.map Timer.id ∧ finish.currentTimer.id ≠ 2) (by decide)
  have kept := (all 0 records finish run).1
  rw [shown] at kept
  rcases kept 2 (by decide) (by decide) (fun inTimers => by cases inTimers <;> decide) (by decide)
    with inside | here
  · exact set inside
  · exact current here

end Manager

end OpenairSpgwc.Itti
