import Mathlib.Data.List.Forall2

/-!
# Lossless segmentation

A machine reads an input and puts out values, each of which stands for a segment of the input. It
loses nothing if the input is always the segments of its outputs, in order, with what the state
still holds behind them.
-/

namespace Anycode.Data

section
variable {σ α β : Type} (Segment : β → List α → Prop) (Held : σ → List α → Prop)

def Accounts (outputs : List β) (state : σ) (input : List α) : Prop :=
  ∃ segments held, List.Forall₂ Segment outputs segments ∧ Held state held ∧ input = segments.flatten ++ held

variable {Segment Held} {state next : σ} {held input more : List α} {outputs others : List β}

theorem accounts_held (holds : Held state held) : Accounts Segment Held [] state held :=
  ⟨[], held, .nil, holds, rfl⟩

theorem accounts_output {output : β} {segment : List α} (is : Segment output segment) (holds : Held state held) :
    Accounts Segment Held [output] state (segment ++ held) :=
  ⟨[segment], held, .cons is .nil, holds, by simp⟩

/-- What is held behind some segments is accounted for by what follows. -/
theorem Accounts.after {segments : List (List α)} (are : List.Forall₂ Segment outputs segments)
    (split : input = segments.flatten ++ held) (rest : Accounts Segment Held others next (held ++ more)) :
    Accounts Segment Held (outputs ++ others) next (input ++ more) := by
  obtain ⟨later, kept, alsoAre, keeps, splitRest⟩ := rest
  refine ⟨segments ++ later, kept, List.rel_append are alsoAre, keeps, ?_⟩
  rw [split, List.append_assoc, splitRest, List.flatten_append, List.append_assoc]

/-- One action of a machine that collects its outputs: it succeeds and loses nothing. -/
def Lossless (Segment : β → List α → Prop) (Held : σ → List α → Prop) {ε : Type} (collected : σ → List β) (state : σ)
    (input : List α) (result : Except ε σ) : Prop :=
  ∃ next outputs, result = .ok next ∧ collected next = collected state ++ outputs ∧
    Accounts Segment Held outputs next input

/-- Actions that lose nothing lose nothing one after another. -/
theorem foldlM_lossless {ε A : Type} {perform : σ → A → Except ε σ} {collected : σ → List β} {fed : A → List α}
    (each : ∀ state held action, Held state held →
      Lossless Segment Held collected state (held ++ fed action) (perform state action))
    (actions : List A) (holds : Held state held) :
    Lossless Segment Held collected state (held ++ actions.flatMap fed) (actions.foldlM perform state) := by
  induction actions generalizing state held with
  | nil => exact ⟨state, [], rfl, (List.append_nil _).symm, by simpa using accounts_held holds⟩
  | cons action rest ih =>
    obtain ⟨middle, outputs, done, collects, accounts⟩ := each state held action holds
    obtain ⟨segments, kept, are, keeps, split⟩ := accounts
    obtain ⟨next, others, finished, alsoCollects, rests⟩ := ih keeps
    refine ⟨next, outputs ++ others, ?_, ?_, ?_⟩
    · rw [List.foldlM_cons, done]
      exact finished
    · rw [alsoCollects, collects, List.append_assoc]
    · rw [List.flatMap_cons, ← List.append_assoc]
      exact Accounts.after are split rests

end

end Anycode.Data
