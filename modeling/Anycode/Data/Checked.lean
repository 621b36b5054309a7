import Anycode.Data.Abort
import Mathlib.Data.List.Basic

/-!
# Checked operations

Arithmetic on `u8`, `u16` and `usize`, indexing and slicing, each of which panics where it is undefined,
and the loops over operations that do not.
-/

namespace Anycode.Data

def addU8 (a b : UInt8) : Except Panic UInt8 :=
  if a.toNat + b.toNat < 256 then .ok (a + b) else .error .overflow

def subU8 (a b : UInt8) : Except Panic UInt8 := if b ≤ a then .ok (a - b) else .error .overflow

def addU16 (a b : UInt16) : Except Panic UInt16 :=
  if a.toNat + b.toNat < 65536 then .ok (a + b) else .error .overflow

def subUsize (a b : Nat) : Except Panic Nat := if b ≤ a then .ok (a - b) else .error .overflow

section
variable {α β : Type}

def indexAt (items : List α) (i : Nat) : Except Panic α :=
  match items[i]? with
  | some item => .ok item
  | none => .error .outOfBounds

def slice (items : List α) (first last : Nat) : Except Panic (List α) :=
  if first ≤ last ∧ last ≤ items.length then .ok ((items.take last).drop first) else .error .outOfBounds

theorem slice_append {before middle after : List α} {first last : Nat} (start : first = before.length)
    (end_ : last = before.length + middle.length) : slice (before ++ (middle ++ after)) first last = .ok middle := by
  subst start end_
  simp [slice, List.take_append]

theorem slice_isOk {items : List α} {first last : Nat} (order : first ≤ last) (within : last ≤ items.length) :
    slice items first last = .ok ((items.take last).drop first) := if_pos ⟨order, within⟩

theorem foldlM_ok {ε : Type} {f : β → α → Except ε β} (each : ∀ b a, ∃ b', f b a = .ok b') (b : β) (items : List α) :
    ∃ b', items.foldlM f b = .ok b' := by
  induction items generalizing b with
  | nil => exact ⟨b, rfl⟩
  | cons a rest ih =>
    obtain ⟨next, done⟩ := each b a
    rw [List.foldlM_cons, done]
    exact ih next

/-- A step that commutes with a change of the state does so in every run. -/
theorem foldlM_map {ε : Type} {f : β → α → Except ε β} {frame : β → β}
    (each : ∀ b a, f (frame b) a = (f b a).map frame) (b : β) (items : List α) :
    items.foldlM f (frame b) = (items.foldlM f b).map frame := by
  induction items generalizing b with
  | nil => rfl
  | cons a rest ih =>
    rw [List.foldlM_cons, List.foldlM_cons, each, map_of_bind]
    cases f b a with
    | error e => rfl
    | ok next => exact ih next

theorem mapM_ok {ε : Type} {f : α → Except ε β} (each : ∀ a, ∃ b, f a = .ok b) (items : List α) :
    ∃ results, items.mapM f = .ok results := by
  induction items with
  | nil => exact ⟨[], rfl⟩
  | cons a rest ih =>
    obtain ⟨b, done⟩ := each a
    obtain ⟨results, others⟩ := ih
    rw [List.mapM_cons, done, others]
    exact ⟨b :: results, rfl⟩

end

end Anycode.Data
