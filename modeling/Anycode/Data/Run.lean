import Mathlib.Data.List.Basic

/-!
# Runs of a step function

The state after a list of actions, what holds along the way, and the induction that takes
one step's guarantee to every state of a run.
-/

namespace Anycode.Data

section
variable {S A : Type} (step : S → A → S)

def run (s : S) : List A → S
  | [] => s
  | action :: rest => run (step s action) rest

/-- Every action of the run satisfies `P` in the state it is taken in. -/
def Along (P : S → A → Prop) (s : S) : List A → Prop
  | [] => True
  | action :: rest => P s action ∧ Along P (step s action) rest

/-- Every state of the run, the first and the last included, satisfies `Q`. -/
def Throughout (Q : S → Prop) (s : S) : List A → Prop
  | [] => Q s
  | action :: rest => Q s ∧ Throughout Q (step s action) rest

@[simp] theorem run_nil (s : S) : run step s [] = s := rfl

@[simp] theorem run_cons (s : S) (action : A) (rest : List A) :
    run step s (action :: rest) = run step (step s action) rest := rfl

theorem run_append (s : S) (first second : List A) :
    run step s (first ++ second) = run step (run step s first) second := by
  induction first generalizing s with
  | nil => rfl
  | cons action rest ih => exact ih (step s action)

@[simp] theorem along_nil (P : S → A → Prop) (s : S) : Along step P s [] := trivial

@[simp] theorem along_cons (P : S → A → Prop) (s : S) (action : A) (rest : List A) :
    Along step P s (action :: rest) ↔ P s action ∧ Along step P (step s action) rest := Iff.rfl

theorem along_append (P : S → A → Prop) (s : S) (first second : List A) :
    Along step P s (first ++ second) ↔ Along step P s first ∧ Along step P (run step s first) second := by
  induction first generalizing s with
  | nil => simp
  | cons action rest ih => simp [ih, and_assoc]

variable {step}

theorem along_iff {P : S → A → Prop} {s : S} {actions : List A} :
    Along step P s actions ↔
      ∀ before action after, actions = before ++ action :: after → P (run step s before) action := by
  constructor
  · intro h before action after split
    subst split
    exact ((along_append step P s before (action :: after)).mp h).2.1
  · intro h
    induction actions generalizing s with
    | nil => trivial
    | cons action rest ih =>
      refine ⟨h [] action rest rfl, ih ?_⟩
      intro before later after split
      subst split
      exact h (action :: before) later after rfl

theorem throughout_head {Q : S → Prop} {s : S} {actions : List A} (h : Throughout step Q s actions) : Q s := by
  cases actions with
  | nil => exact h
  | cons action rest => exact h.1

theorem throughout_iff {Q : S → Prop} {s : S} {actions : List A} :
    Throughout step Q s actions ↔ ∀ before after, actions = before ++ after → Q (run step s before) := by
  induction actions generalizing s with
  | nil =>
    refine ⟨fun h before after split => ?_, fun h => h [] [] rfl⟩
    rw [(List.append_eq_nil_iff.mp split.symm).1]
    exact h
  | cons action rest ih =>
    constructor
    · intro h before after split
      obtain ⟨now, later⟩ := h
      cases before with
      | nil => exact now
      | cons first before =>
        obtain ⟨rfl, tail⟩ := List.cons_eq_cons.mp (split.trans (List.cons_append))
        exact ih.mp later before after tail
    · intro h
      refine ⟨h [] _ rfl, ih.mpr ?_⟩
      intro before after split
      subst split
      exact h (action :: before) after rfl

theorem along_mono {P Q : S → A → Prop} {s : S} {actions : List A}
    (weaker : ∀ s action, P s action → Q s action) (h : Along step P s actions) :
    Along step Q s actions := by
  induction actions generalizing s with
  | nil => trivial
  | cons action rest ih => exact ⟨weaker s action h.1, ih h.2⟩

theorem along_congr {P Q : S → A → Prop} {s : S} {actions : List A}
    (same : ∀ s action, P s action ↔ Q s action) : Along step P s actions ↔ Along step Q s actions :=
  ⟨along_mono fun s action => (same s action).mp, along_mono fun s action => (same s action).mpr⟩

theorem along_and {P Q : S → A → Prop} {s : S} {actions : List A} :
    Along step (fun s action => P s action ∧ Q s action) s actions ↔
      Along step P s actions ∧ Along step Q s actions := by
  induction actions generalizing s with
  | nil => simp
  | cons action rest ih =>
    simp only [along_cons, ih]
    exact ⟨fun ⟨⟨p, q⟩, ps, qs⟩ => ⟨⟨p, ps⟩, q, qs⟩, fun ⟨⟨p, ps⟩, q, qs⟩ => ⟨⟨p, q⟩, ps, qs⟩⟩

/-- The invariant rule: a step taken under the guard keeps `I`, so a guarded run does. -/
theorem run_invariant {I : S → Prop} {G : S → A → Prop}
    (keeps : ∀ s action, I s → G s action → I (step s action)) {s : S} {actions : List A}
    (initial : I s) (guarded : Along step G s actions) : I (run step s actions) := by
  induction actions generalizing s with
  | nil => exact initial
  | cons action rest ih => exact ih (keeps s action initial guarded.1) guarded.2

theorem along_congr_of_invariant {I : S → Prop} {P Q : S → A → Prop}
    (keeps : ∀ s action, I s → I (step s action)) (same : ∀ s action, I s → (P s action ↔ Q s action))
    {s : S} {actions : List A} (initial : I s) : Along step P s actions ↔ Along step Q s actions := by
  induction actions generalizing s with
  | nil => rfl
  | cons action rest ih => exact and_congr (same s action initial) (ih (keeps s action initial))

/-- A state property holds throughout a guarded run exactly when the step condition `C` holds
along it: `C` keeps the invariant that gives the property, and each step that leaves the
property standing satisfied `C`. -/
theorem throughout_iff_along {I Q : S → Prop} {G C : S → A → Prop} (gives : ∀ s, I s → Q s)
    (keeps : ∀ s action, I s → G s action → C s action → I (step s action))
    (needs : ∀ s action, I s → G s action → Q (step s action) → C s action)
    {s : S} {actions : List A} (initial : I s) (guarded : Along step G s actions) :
    Throughout step Q s actions ↔ Along step C s actions := by
  induction actions generalizing s with
  | nil => exact iff_of_true (gives s initial) trivial
  | cons action rest ih =>
    constructor
    · intro h
      obtain ⟨_, later⟩ := h
      have first : Q (step s action) := throughout_head later
      have condition := needs s action initial guarded.1 first
      exact ⟨condition, (ih (keeps s action initial guarded.1 condition) guarded.2).mp later⟩
    · intro h
      obtain ⟨condition, later⟩ := h
      exact ⟨gives s initial, (ih (keeps s action initial guarded.1 condition) guarded.2).mpr later⟩

theorem along_of_invariant {I : S → Prop} {G Q : S → A → Prop}
    (keeps : ∀ s action, I s → G s action → I (step s action))
    (gives : ∀ s action, I s → G s action → Q s action) {s : S} {actions : List A}
    (initial : I s) (guarded : Along step G s actions) : Along step Q s actions := by
  induction actions generalizing s with
  | nil => trivial
  | cons action rest ih =>
    exact ⟨gives s action initial guarded.1, ih (keeps s action initial guarded.1) guarded.2⟩

end

end Anycode.Data
