import Mathlib.Logic.Basic

/-!
# Programs that can panic

A computation of type `Except Panic α` ends the process where it returns an error. What a
successful one did, step by step.
-/

namespace Anycode.Data

/-- What stops a program: an index out of bounds or inside a character, an arithmetic
overflow, an index into a JSON value of the wrong kind. -/
inductive Panic where
  | outOfBounds
  | charBoundary
  | overflow
  | wrongKind
  deriving DecidableEq

section
variable {ε α β : Type}

theorem bind_ok {x : Except ε α} {f : α → Except ε β} {b : β} (h : x >>= f = .ok b) :
    ∃ a, x = .ok a ∧ f a = .ok b := by
  cases x with
  | error e => cases h
  | ok a => exact ⟨a, rfl, h⟩

theorem map_ok {x : Except ε α} {f : α → β} {b : β} (h : x.map f = .ok b) : ∃ a, x = .ok a ∧ f a = b := by
  cases x with
  | error e => cases h
  | ok a => exact ⟨a, rfl, Except.ok.inj h⟩

theorem pure_ok {a b : α} (h : (pure a : Except ε α) = .ok b) : a = b := Except.ok.inj h

theorem map_of_ok (f : α → β) (a : α) : (Except.ok a : Except ε α).map f = .ok (f a) := rfl

theorem map_of_pure (f : α → β) (a : α) : (pure a : Except ε α).map f = pure (f a) := rfl

theorem map_of_bind {γ : Type} (x : Except ε α) (f : α → Except ε β) (g : β → γ) :
    (x >>= f).map g = x >>= fun a => (f a).map g := by
  cases x <;> rfl

@[simp] theorem isOk_map (x : Except ε α) (f : α → β) : (x.map f).isOk = x.isOk := by
  cases x <;> rfl

theorem isOk_iff {x : Except ε α} : x.isOk = true ↔ ∃ a, x = .ok a := by
  cases x with
  | error e => exact iff_of_false (fun h => nomatch h) (fun ⟨_, h⟩ => nomatch h)
  | ok a => exact iff_of_true rfl ⟨a, rfl⟩

end

end Anycode.Data
