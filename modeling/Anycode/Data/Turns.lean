import Anycode.Data.Requests

/-!
# One call after the other

A caller of an exchange that makes a call only when the one before it has come back is given
answers that are true of stretches of the run which follow one another.
-/

namespace Anycode.Data.Exchange
variable {σ C π R ε : Type} {capacity : Nat} {service : Service σ C π R ε}

/-! ### Calls stay -/

/-- The call is still there, in any stage. -/
def Stays (s t : Exchange σ C π R) : Prop :=
  ∀ (i : Nat) (call : Call C R), s.calls[i]? = some call → ∃ later : Call C R, t.calls[i]? = some later ∧ later.command = call.command

theorem Stays.refl (s : Exchange σ C π R) : s.Stays s := fun _ call here => ⟨call, here, rfl⟩

theorem stays_setStage (s : Exchange σ C π R) (i : Nat) (stage : Stage R) : s.Stays (s.setStage i stage) :=
  fun _ _ here => command_setStage i stage here

theorem stays_send (s : Exchange σ C π R) (i : Nat) : s.Stays (s.send capacity i) := by
  rw [send]
  split
  · split
    · exact stays_setStage s i _
    · split
      · exact stays_setStage s i .waiting
      · exact .refl s
  · exact .refl s

theorem stays_take (s : Exchange σ C π R) : s.Stays (s.take service) := by
  rw [take]
  split <;> exact .refl s

theorem stays_advance (s : Exchange σ C π R) : s.Stays (s.advance service) := by
  rw [advance]
  split
  · exact .refl s
  · rename_i i command phase serving
    split
    · exact .refl s
    · rename_i shared answer done
      exact fun j call here => command_answered i answer here

variable (capacity service) in
theorem stays_step (s : Exchange σ C π R) (act : Act C ε) : s.Stays (s.step capacity service act) := by
  cases act with
  | call command => exact fun i call here => ⟨call, (List.getElem?_append_left (List.getElem?_eq_some_iff.mp here).1).trans here, rfl⟩
  | send i => exact stays_send s i
  | take => exact stays_take s
  | advance => exact stays_advance s
  | receive i =>
    rw [step, receive]
    split
    · exact stays_setStage s i _
    · split
      · exact .refl s
      · exact stays_setStage s i _
    · exact .refl s
  | timeout i =>
    rw [step, timeout]
    split
    · exact stays_setStage s i _
    · exact stays_setStage s i _
    · exact .refl s
  | stop => exact .refl s
  | event e => exact .refl s

theorem Stays.length_le {s t : Exchange σ C π R} (stays : s.Stays t) : s.calls.length ≤ t.calls.length := by
  by_contra longer
  have inside : t.calls.length < s.calls.length := Nat.lt_of_not_le longer
  obtain ⟨later, there, -⟩ := stays _ _ (List.getElem?_eq_getElem inside)
  exact Nat.lt_irrefl _ (List.getElem?_eq_some_iff.mp there).1

theorem calls_length_run (s : Exchange σ C π R) (acts : List (Act C ε)) :
    s.calls.length ≤ (run (step capacity service) s acts).calls.length := by
  induction acts generalizing s with
  | nil => exact Nat.le_refl _
  | cons act rest ih => exact Nat.le_trans (stays_step capacity service s act).length_le (ih _)

/-! ### Answers in turn -/

/-- The answers are true of stretches of the run that come one after the other, in their order. -/
inductive InTurn (capacity : Nat) (service : Service σ C π R ε) (After : C → R → List σ → Prop) (shared : σ) :
    List (C × R) → List (Act C ε) → Prop where
  | none (acts : List (Act C ε)) : InTurn capacity service After shared [] acts
  | next {answers : List (C × R)} {before : List (Act C ε)} (earlier : InTurn capacity service After shared answers before)
      (during after : List (Act C ε)) {command : C} {reply : R}
      (holds : After command reply (visited capacity service (run (step capacity service) { shared := shared } before) during)) :
      InTurn capacity service After shared (answers ++ [(command, reply)]) (before ++ during ++ after)

/-- A call that was made after all of the answers had come. -/
structure Awaits (capacity : Nat) (service : Service σ C π R ε) (After : C → R → List σ → Prop) (shared : σ)
    (answers : List (C × R)) (acts : List (Act C ε)) (i : Nat) (command : C) : Prop where
  turns : ∃ early late, acts = early ++ late ∧ InTurn capacity service After shared answers early ∧
    (run (step capacity service) { shared := shared } early).calls.length ≤ i
  made : ∃ call, (run (step capacity service) { shared := shared } acts).calls[i]? = some call ∧ call.command = command

variable {During : C → π → List σ → Prop} {After : C → R → List σ → Prop} {shared : σ} {answers : List (C × R)}
  {acts : List (Act C ε)} {i : Nat} {command : C}

theorem InTurn.later (turns : InTurn capacity service After shared answers acts) (more : List (Act C ε)) :
    InTurn capacity service After shared answers (acts ++ more) := by
  cases turns with
  | none => exact .none _
  | next earlier during after holds =>
    rw [List.append_assoc]
    exact .next earlier during (after ++ more) holds

theorem InTurn.holds (turns : InTurn capacity service After shared answers acts) {command : C} {reply : R}
    (answered : (command, reply) ∈ answers) : ∃ trace, After command reply trace := by
  induction turns with
  | none => cases answered
  | next earlier during after holds ih =>
    rcases List.mem_append.mp answered with before | last
    · exact ih before
    · cases List.mem_singleton.mp last
      exact ⟨_, holds⟩

theorem Awaits.inTurn (awaits : Awaits capacity service After shared answers acts i command) :
    InTurn capacity service After shared answers acts := by
  obtain ⟨early, late, rfl, turns, -⟩ := awaits.turns
  exact turns.later late

theorem awaits_call (turns : InTurn capacity service After shared answers acts) (command : C) :
    Awaits capacity service After shared answers (acts ++ [.call command])
      (run (step capacity service) { shared := shared } acts).calls.length command where
  turns := ⟨acts, [.call command], rfl, turns, Nat.le_refl _⟩
  made := by
    refine ⟨⟨command, .sending⟩, ?_, rfl⟩
    rw [run_concat]
    exact List.getElem?_concat_length

theorem Awaits.later (awaits : Awaits capacity service After shared answers acts i command) (act : Act C ε) :
    Awaits capacity service After shared answers (acts ++ [act]) i command where
  turns := by
    obtain ⟨early, late, rfl, turns, fresh⟩ := awaits.turns
    exact ⟨early, late ++ [act], List.append_assoc _ _ _, turns, fresh⟩
  made := by
    obtain ⟨call, here, same⟩ := awaits.made
    obtain ⟨later, there, kept⟩ := stays_step capacity service _ act i call here
    refine ⟨later, ?_, kept.trans same⟩
    rwa [run_concat]

/-- The answer to a call that was made after all the others is one of its own turn. -/
theorem Awaits.received (truthful : Truthful service During After)
    (awaits : Awaits capacity service After shared answers acts i command) {reply : R}
    (back : (run (step capacity service) { shared := shared } acts).stageOf i = some (.received reply)) :
    InTurn capacity service After shared (answers ++ [(command, reply)]) acts := by
  obtain ⟨call, here, rfl⟩ := awaits.made
  obtain ⟨own, there⟩ := stageOf_eq_some.mp back
  cases here.symm.trans there
  have handled := (run_invariant acts).calls i _ there
  obtain ⟨before, during, after, rfl, accepted, -, -, holds⟩ := (run_truthful truthful shared acts).2 _ handled
  obtain ⟨early, late, split, turns, fresh⟩ := awaits.turns
  -- the call was not yet made in `early`, and is accepted in `before`
  have made : i < (run (step capacity service) { shared := shared } before).calls.length :=
    accepted_lt (run_invariant before) (List.mem_map.mpr ⟨_, accepted, rfl⟩)
  have within : early <+: before := by
    have one : early <+: before ++ during ++ after := ⟨late, split.symm⟩
    have other : before <+: before ++ during ++ after := ⟨during ++ after, (List.append_assoc _ _ _).symm⟩
    refine (List.prefix_or_prefix_of_prefix one other).resolve_right ?_
    rintro ⟨between, rfl⟩
    rw [run_append] at fresh
    exact absurd (Nat.lt_of_lt_of_le made (Nat.le_trans (calls_length_run _ between) fresh)) (Nat.lt_irrefl i)
  obtain ⟨between, rfl⟩ := within
  exact .next (turns.later between) during after holds

end Anycode.Data.Exchange
