import Mathlib.Logic.Function.Basic

/-!
# Tables

A finite map seen through its lookups: what a hash map answers, with no order of iteration.
-/

namespace Anycode.Data

/-- A map from keys to at most one value each. -/
def Table (K V : Type) := K → Option V

namespace Table

variable {K V : Type}

def empty : Table K V := fun _ => none

def get (table : Table K V) (key : K) : Option V := table key

def insert [DecidableEq K] (table : Table K V) (key : K) (value : V) : Table K V :=
  Function.update table key (some value)

def retain (keep : K → V → Bool) (table : Table K V) : Table K V :=
  fun key => (table key).filter (keep key)

def adjust (f : K → V → V) (table : Table K V) : Table K V :=
  fun key => (table key).map (f key)

theorem ext {left right : Table K V} (same : ∀ key, left.get key = right.get key) : left = right :=
  funext same

theorem get_insert [DecidableEq K] (table : Table K V) (key other : K) (value : V) :
    (table.insert key value).get other = if other = key then some value else table.get other :=
  Function.update_apply table key (some value) other

@[simp] theorem get_retain (keep : K → V → Bool) (table : Table K V) (key : K) :
    (table.retain keep).get key = (table.get key).filter (keep key) := rfl

@[simp] theorem get_adjust (f : K → V → V) (table : Table K V) (key : K) :
    (table.adjust f).get key = (table.get key).map (f key) := rfl

end Table

end Anycode.Data
