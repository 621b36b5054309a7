import Anycode.Data.Run
import Anycode.Data.Table
import Mathlib.Data.List.Induction

/-!
# Leases

Keys that are granted for a time and can be revoked. The table may drop what has run out each
time it grants another key; in a run of a system that keeps such a table, what it answers is
compared with what has happened to the key.
-/

namespace Anycode.Data

/-- The time at which each key that was granted runs out. -/
abbrev LeaseTable (K : Type) := Table K Nat

/-- A grant reads the clock once for each key it may drop. -/
inductive LeaseEvent (K : Type) where
  | grant (key : K) (expiry : Nat) (purgedAt : K → Nat)
  | revoke (key : K)

namespace LeaseEvent
variable {K : Type}

def key : LeaseEvent K → K
  | .grant key _ _ => key
  | .revoke key => key

/-- No clock reading of the event is later than this. -/
def Before (now : Nat) : LeaseEvent K → Prop
  | .grant _ _ purgedAt => ∀ key, purgedAt key ≤ now
  | .revoke _ => True

end LeaseEvent

namespace LeaseTable
variable {K : Type}

def isValid (table : LeaseTable K) (key : K) (now : Nat) : Bool := (table.get key).any fun expiry => decide (now < expiry)

theorem isValid_empty (key : K) (now : Nat) : isValid Table.empty key now = false := rfl

variable [DecidableEq K]

def grant (table : LeaseTable K) (key : K) (expiry : Nat) (purgedAt : K → Nat) : LeaseTable K :=
  (Table.retain (fun other expiry => decide (purgedAt other < expiry)) table).insert key expiry

def revoke (table : LeaseTable K) (key : K) : LeaseTable K := fun other => if other = key then none else table.get other

def apply (table : LeaseTable K) : LeaseEvent K → LeaseTable K
  | .grant key expiry purgedAt => table.grant key expiry purgedAt
  | .revoke key => table.revoke key

theorem isValid_revoke (table : LeaseTable K) (key other : K) (now : Nat) :
    (table.revoke key).isValid other now = (!decide (other = key) && table.isValid other now) := by
  have read : (table.revoke key).get other = if other = key then none else table.get other := rfl
  unfold isValid
  rw [read]
  split
  · rename_i same
    rw [decide_eq_true same]
    rfl
  · rename_i different
    rw [decide_eq_false different]
    rfl

/-- What a grant drops had run out before. -/
theorem isValid_grant (table : LeaseTable K) (key other : K) {expiry now : Nat} {purgedAt : K → Nat}
    (past : other ≠ key → purgedAt other ≤ now) :
    (table.grant key expiry purgedAt).isValid other now =
      if other = key then decide (now < expiry) else table.isValid other now := by
  unfold isValid grant
  rw [Table.get_insert, Table.get_retain]
  split
  · rfl
  · rename_i different
    cases table.get other with
    | none => rfl
    | some runsOut =>
      rw [Option.filter_some]
      split
      · rfl
      · rename_i dropped
        rw [decide_eq_true_eq] at dropped
        rw [Option.any_none, Option.any_some, eq_comm, decide_eq_false_iff_not]
        have := past different
        omega

theorem isValid_apply_other (table : LeaseTable K) {event : LeaseEvent K} {key : K} {now : Nat} (other : event.key ≠ key)
    (past : event.Before now) : (table.apply event).isValid key now = table.isValid key now := by
  cases event with
  | grant granted expiry purgedAt =>
    have different : key ≠ granted := Ne.symm other
    rw [apply, isValid_grant _ _ _ (fun _ => past key), if_neg different]
  | revoke revoked =>
    have different : key ≠ revoked := Ne.symm other
    rw [apply, isValid_revoke, decide_eq_false different, Bool.not_false, Bool.true_and]

end LeaseTable

/-! ### Runs -/

section
variable {S A K : Type} (step : S → A → S) (event : S → A → Option (LeaseEvent K))

/-- The key was granted beyond now in the run, and nothing has happened to it since. -/
def Leased (s : S) (actions : List A) (key : K) (now : Nat) : Prop :=
  ∃ before action after expiry purgedAt, actions = before ++ action :: after ∧
    event (run step s before) action = some (.grant key expiry purgedAt) ∧ now < expiry ∧
    Along step (fun s action => ∀ touch, event s action = some touch → touch.key ≠ key)
      (run step s (before ++ [action])) after

variable {step event} {s : S} {actions : List A} {action : A} {key : K} {now : Nat}

theorem not_leased_nil : ¬ Leased step event s [] key now := by
  rintro ⟨before, action, after, _, _, split, _⟩
  exact absurd split.symm (List.append_ne_nil_of_right_ne_nil _ (List.cons_ne_nil _ _))

/-- A run that one action more ends: the grant is that action, or it is in the run before. -/
theorem leased_concat : Leased step event s (actions ++ [action]) key now ↔
    (∃ expiry purgedAt, event (run step s actions) action = some (.grant key expiry purgedAt) ∧ now < expiry) ∨
      (Leased step event s actions key now ∧
        ∀ touch, event (run step s actions) action = some touch → touch.key ≠ key) := by
  constructor
  · rintro ⟨before, granting, after, expiry, purgedAt, split, granted, running, untouched⟩
    induction after using List.reverseRecOn with
    | nil =>
      obtain ⟨rfl, last⟩ := List.append_inj' split rfl
      cases last
      exact .inl ⟨expiry, purgedAt, granted, running⟩
    | append_singleton after last _ =>
      rw [← List.cons_append, ← List.append_assoc] at split
      obtain ⟨rfl, ends⟩ := List.append_inj' split rfl
      cases ends
      obtain ⟨earlier, final⟩ := (along_append step _ _ after [action]).mp untouched
      rw [← run_append, List.append_assoc, List.singleton_append] at final
      exact .inr ⟨⟨before, granting, after, expiry, purgedAt, rfl, granted, running, earlier⟩, final.1⟩
  · rintro (⟨expiry, purgedAt, granted, running⟩ | ⟨⟨before, granting, after, expiry, purgedAt, rfl, granted, running, earlier⟩, final⟩)
    · exact ⟨actions, action, [], expiry, purgedAt, rfl, granted, running, trivial⟩
    · refine ⟨before, granting, after ++ [action], expiry, purgedAt, by simp, granted, running, ?_⟩
      refine (along_append step _ _ after [action]).mpr ⟨earlier, ?_, trivial⟩
      rwa [← run_append, List.append_assoc, List.singleton_append]

variable [DecidableEq K]

/-- As long as nothing happens to a key, it stays as valid as it was. -/
theorem isValid_run_untouched (table : S → LeaseTable K)
    (follows : ∀ s action, table (step s action) = ((event s action).map (table s).apply).getD (table s))
    (untouched : Along step (fun s action => ∀ touch, event s action = some touch → touch.key ≠ key ∧ touch.Before now) s
      actions) : (table (run step s actions)).isValid key now = (table s).isValid key now := by
  induction actions generalizing s with
  | nil => rfl
  | cons action rest ih =>
    obtain ⟨first, later⟩ := untouched
    rw [run_cons, ih later, follows]
    cases happened : event s action with
    | none => rfl
    | some touch => exact LeaseTable.isValid_apply_other _ (first touch happened).1 (first touch happened).2

/-- A table that follows the events of a run answers by what happened: a key is valid exactly
while its last grant runs and nothing has come after it. -/
theorem isValid_run_iff (table : S → LeaseTable K)
    (follows : ∀ s action, table (step s action) = ((event s action).map (table s).apply).getD (table s))
    (fresh : table s = Table.empty)
    (past : Along step (fun s action => ∀ touch, event s action = some touch → touch.Before now) s actions) :
    (table (run step s actions)).isValid key now = true ↔ Leased step event s actions key now := by
  induction actions using List.reverseRecOn with
  | nil =>
    rw [run_nil, fresh, LeaseTable.isValid_empty]
    exact iff_of_false Bool.false_ne_true not_leased_nil
  | append_singleton actions action ih =>
    obtain ⟨earlier, last, _⟩ := (along_append step _ _ actions [action]).mp past
    rw [run_append, run_cons, run_nil, follows, leased_concat, ← ih earlier]
    cases happened : event (run step s actions) action with
    | none => simp
    | some touch =>
      rw [Option.map_some, Option.getD_some]
      by_cases same : touch.key = key
      · subst same
        cases touch with
        | grant granted expiry purgedAt =>
          have read : ((table (run step s actions)).grant granted expiry purgedAt).isValid granted now =
              decide (now < expiry) := by
            rw [LeaseTable.isValid_grant _ _ _ (fun other => absurd rfl other), if_pos rfl]
          simp [LeaseTable.apply, LeaseEvent.key, read]
        | revoke revoked => simp [LeaseTable.apply, LeaseTable.isValid_revoke, LeaseEvent.key]
      · rw [LeaseTable.isValid_apply_other _ same (last touch happened)]
        constructor
        · intro valid
          exact .inr ⟨valid, fun asked found => by cases found; exact same⟩
        · rintro (⟨expiry, purgedAt, granted, _⟩ | ⟨valid, _⟩)
          · cases granted
            exact absurd rfl same
          · exact valid

end

end Anycode.Data
