import Mathlib.Data.List.Basic

/-!
# Advisory locks

A lock that many holders share or one holds alone. Taking it gives nothing where it would block.
-/

namespace Anycode.Data

inductive RwLock (P : Type) where
  | shared (holders : List P)
  | exclusive (holder : P)
  deriving DecidableEq

namespace RwLock
variable {P : Type}

def free : RwLock P := .shared []

def lockShared (p : P) : RwLock P → Option (RwLock P)
  | .shared holders => some (.shared (p :: holders))
  | .exclusive _ => none

def lockExclusive (p : P) : RwLock P → Option (RwLock P)
  | .shared [] => some (.exclusive p)
  | _ => none

def release [DecidableEq P] (p : P) : RwLock P → RwLock P
  | .shared holders => .shared (holders.erase p)
  | .exclusive holder => if holder = p then free else .exclusive holder

def SharedBy (p : P) : RwLock P → Prop
  | .shared holders => p ∈ holders
  | .exclusive _ => False

theorem not_sharedBy_free (p : P) : ¬ (free : RwLock P).SharedBy p := List.not_mem_nil

theorem free_ne_exclusive (p : P) : free ≠ .exclusive p := nofun

theorem ne_exclusive_of_sharedBy {p : P} {lock : RwLock P} (holds : lock.SharedBy p) (q : P) :
    lock ≠ .exclusive q := by
  rintro rfl
  exact holds

theorem lockShared_eq_some {p : P} {lock taken : RwLock P} (granted : lock.lockShared p = some taken) :
    (∀ holder, lock ≠ .exclusive holder) ∧ taken.SharedBy p ∧ ∀ q, lock.SharedBy q → taken.SharedBy q := by
  cases lock with
  | exclusive holder => cases granted
  | shared holders =>
    cases granted
    refine ⟨?_, List.mem_cons_self, fun _ => List.mem_cons_of_mem p⟩
    rintro holder ⟨⟩

theorem lockExclusive_eq_some {p : P} {lock taken : RwLock P} (granted : lock.lockExclusive p = some taken) :
    lock = free ∧ taken = .exclusive p := by
  unfold lockExclusive at granted
  split at granted
  · cases granted
    exact ⟨rfl, rfl⟩
  · cases granted

variable [DecidableEq P]

theorem sharedBy_release {p q : P} {lock : RwLock P} (other : q ≠ p) (holds : lock.SharedBy q) :
    (lock.release p).SharedBy q := by
  cases lock with
  | exclusive holder => exact holds.elim
  | shared holders => exact (List.mem_erase_of_ne other).mpr holds

end RwLock

end Anycode.Data
