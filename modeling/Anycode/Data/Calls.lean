import Anycode.Data.Run

/-!
# Calls over a shared state

Several calls are under way at once over one shared state. Each goes forward a step when it is
polled, and between two of its steps come the other calls' steps and events from outside.
-/

namespace Anycode.Data

structure Calls (σ κ : Type) where
  shared : σ
  calls : List κ := []

inductive Move (ε α ο : Type) where
  | event (e : ε)
  | start (a : α)
  | poll (i : Nat) (o : ο)
  deriving DecidableEq

def Move.polls {ε α ο : Type} (i : Nat) : Move ε α ο → Bool
  | .poll j _ => j == i
  | _ => false

/-- What an event does to the shared state, how a call begins, and what one step of a call does to
the shared state and to itself. -/
structure CallSystem (σ κ ε α ο : Type) where
  event : σ → ε → σ
  begins : α → κ
  poll : σ → ο → κ → σ × κ

namespace CallSystem
variable {σ κ ε α ο : Type} (p : CallSystem σ κ ε α ο)

def step (s : Calls σ κ) : Move ε α ο → Calls σ κ
  | .event e => { s with shared := p.event s.shared e }
  | .start a => { s with calls := s.calls ++ [p.begins a] }
  | .poll i o =>
    match s.calls[i]? with
    | none => s
    | some call => ⟨(p.poll s.shared o call).1, s.calls.set i (p.poll s.shared o call).2⟩

variable {p}

theorem step_poll {s : Calls σ κ} {i : Nat} {call : κ} (o : ο) (here : s.calls[i]? = some call) :
    p.step s (.poll i o) = ⟨(p.poll s.shared o call).1, s.calls.set i (p.poll s.shared o call).2⟩ := by
  rw [step, here]

theorem step_poll_none {s : Calls σ κ} {i : Nat} (o : ο) (absent : s.calls[i]? = none) : p.step s (.poll i o) = s := by
  rw [step, absent]

theorem step_own {s : Calls σ κ} {i : Nat} {call : κ} (o : ο) (here : s.calls[i]? = some call) :
    (p.step s (.poll i o)).calls[i]? = some (p.poll s.shared o call).2 := by
  rw [step_poll o here]
  exact List.getElem?_set_self (List.getElem?_eq_some_iff.mp here).1

/-- Only its own polls move a call. -/
theorem step_other {s : Calls σ κ} {move : Move ε α ο} {i : Nat} (other : move.polls i = false) {call : κ}
    (here : s.calls[i]? = some call) : (p.step s move).calls[i]? = some call := by
  cases move with
  | event => exact here
  | start a =>
    obtain ⟨inside, -⟩ := List.getElem?_eq_some_iff.mp here
    exact (List.getElem?_append_left inside).trans here
  | poll j o =>
    cases there : s.calls[j]? with
    | none => rwa [step_poll_none o there]
    | some polled =>
      rw [step_poll o there]
      exact (List.getElem?_set_ne (beq_eq_false_iff_ne.mp other)).trans here

theorem countP_cons_toNat (q : κ → Bool) (call : κ) (rest : List κ) :
    (call :: rest).countP q = rest.countP q + (q call).toNat := by
  rw [List.countP_cons]
  cases q call <;> rfl

/-- A poll moves one call from what it was to what it is. -/
theorem countP_set (q : κ → Bool) {calls : List κ} {i : Nat} {call : κ} (next : κ) (here : calls[i]? = some call) :
    (calls.set i next).countP q + (q call).toNat = calls.countP q + (q next).toNat := by
  induction calls generalizing i with
  | nil => cases here
  | cons first rest ih =>
    cases i with
    | zero =>
      cases here
      rw [List.set_cons_zero, countP_cons_toNat, countP_cons_toNat]
      omega
    | succ i =>
      have later := ih here
      rw [List.set_cons_succ, countP_cons_toNat, countP_cons_toNat]
      omega

/-- The shared state is in order and so is every call under way, as seen from it. -/
structure Held (I : σ → Prop) (Sound : σ → κ → Prop) (s : Calls σ κ) : Prop where
  shared : I s.shared
  calls : ∀ call ∈ s.calls, Sound s.shared call

variable {I : σ → Prop} {Sound : σ → κ → Prop}

theorem held_step {G : Calls σ κ → Move ε α ο → Prop}
    (events : ∀ s e, Held I Sound s → G s (.event e) → Held I Sound { s with shared := p.event s.shared e })
    (begun : ∀ s a, I s → Sound s (p.begins a))
    (polled : ∀ s o call, I s → Sound s call → I (p.poll s o call).1 ∧ Sound (p.poll s o call).1 (p.poll s o call).2)
    (stable : ∀ s o call other, I s → Sound s call → Sound s other → Sound (p.poll s o call).1 other)
    (s : Calls σ κ) (move : Move ε α ο) (held : Held I Sound s) (guard : G s move) : Held I Sound (p.step s move) := by
  cases move with
  | event e => exact events s e held guard
  | start a =>
    refine ⟨held.shared, fun call member => ?_⟩
    rcases List.mem_append.mp member with before | last
    · exact held.calls call before
    · rw [List.mem_singleton.mp last]
      exact begun s.shared a held.shared
  | poll i o =>
    cases here : s.calls[i]? with
    | none => rwa [step_poll_none o here]
    | some call =>
      have sound := held.calls call (List.mem_of_getElem? here)
      have own := polled s.shared o call held.shared sound
      rw [step_poll o here]
      refine ⟨own.1, fun other member => ?_⟩
      rcases List.mem_or_eq_of_mem_set member with before | rfl
      · exact stable s.shared o call other held.shared sound (held.calls other before)
      · exact own.2

/-- A call that each of its polls brings nearer to its end gets there, whatever else happens. -/
theorem call_ends {J : Calls σ κ → Prop} (rank : κ → Nat) (keeps : ∀ s move, J s → J (p.step s move))
    (nearer : ∀ s o call, J s → call ∈ s.calls → rank (p.poll s.shared o call).2 ≤ rank call - 1)
    {s : Calls σ κ} (holds : J s) {i : Nat} {call : κ} (here : s.calls[i]? = some call) {moves : List (Move ε α ο)}
    (enough : rank call ≤ moves.countP (Move.polls i)) :
    ∃ last, (run p.step s moves).calls[i]? = some last ∧ rank last = 0 := by
  induction moves generalizing s call with
  | nil => exact ⟨call, here, Nat.eq_zero_of_le_zero enough⟩
  | cons move rest ih =>
    rw [List.countP_cons] at enough
    cases own : move.polls i with
    | true =>
      cases move with
      | poll j o =>
        obtain rfl : j = i := beq_iff_eq.mp own
        have near := nearer s o call holds (List.mem_of_getElem? here)
        rw [own, if_pos rfl] at enough
        exact ih (keeps s _ holds) (step_own o here) (by omega)
      | event | start => cases own
    | false =>
      rw [own, if_neg Bool.false_ne_true] at enough
      exact ih (keeps s move holds) (step_other own here) enough

end CallSystem

end Anycode.Data
