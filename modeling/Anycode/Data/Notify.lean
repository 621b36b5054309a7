import Mathlib.Data.List.Basic

/-!
# Notifications of waiters

A notification reaches those who subscribed before it and nobody later. It is seen as the number
of notifications so far, and a subscription as the number there was when it was made.
-/

namespace Anycode.Data

structure Notify where
  calls : Nat := 0
  deriving DecidableEq

structure Notified where
  since : Nat
  deriving DecidableEq

namespace Notify

def notifyWaiters (notify : Notify) : Notify := ⟨notify.calls + 1⟩

def notified (notify : Notify) : Notified := ⟨notify.calls⟩

def isReady (notify : Notify) (notified : Notified) : Bool := decide (notified.since < notify.calls)

@[simp] theorem calls_notifyWaiters (notify : Notify) : notify.notifyWaiters.calls = notify.calls + 1 := rfl

theorem isReady_iff {notify : Notify} {notified : Notified} : notify.isReady notified = true ↔ notified.since < notify.calls :=
  decide_eq_true_iff

end Notify

end Anycode.Data
