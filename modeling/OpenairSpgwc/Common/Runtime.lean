import Mathlib.Data.Finset.Basic
import Mathlib.Tactic

/-!
Contract: the services of the process that the protocol stacks use.

Owns:
- the timers of `itti_mw`: `timer_setup`, `timer_remove` and the expiry of an armed timer;
- endpoints, compared as `endpoint::operator==` does.

The timer counter of the source has 32 bits; here it is a natural number, so
`timer_setup` always returns an identifier it never returned before. Timers
carry no time: any armed timer may expire next.
-/

namespace OpenairSpgwc.Common

structure Endpoint where
  address : Nat
  port : Nat
deriving DecidableEq, Repr

/-- `ITTI_INVALID_TIMER_ID`. -/
def invalidTimerId : Nat := 0

structure Itti where
  /-- The last identifier handed out. -/
  timerId : Nat
  /-- The armed timers. -/
  timers : Finset Nat

namespace Itti

def empty : Itti := ⟨0, ∅⟩

/-- `timer_setup` for a task that may own timers. -/
def timerSetup (itti : Itti) : Nat × Itti :=
  (itti.timerId + 1, ⟨itti.timerId + 1, insert (itti.timerId + 1) itti.timers⟩)

def timerRemove (itti : Itti) (timerId : Nat) : Itti :=
  { itti with timers := itti.timers.erase timerId }

@[simp] theorem timerSetup_fst (itti : Itti) : itti.timerSetup.1 = itti.timerId + 1 := rfl

@[simp] theorem timerSetup_timerId (itti : Itti) :
    itti.timerSetup.2.timerId = itti.timerId + 1 := rfl

@[simp] theorem timerSetup_timers (itti : Itti) :
    itti.timerSetup.2.timers = insert (itti.timerId + 1) itti.timers := rfl

@[simp] theorem timerRemove_timerId (itti : Itti) (timerId : Nat) :
    (itti.timerRemove timerId).timerId = itti.timerId := rfl

@[simp] theorem timerRemove_timers (itti : Itti) (timerId : Nat) :
    (itti.timerRemove timerId).timers = itti.timers.erase timerId := rfl

end Itti

end OpenairSpgwc.Common
