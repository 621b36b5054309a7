import Mathlib.Data.List.Range
import Anycode.Data.Abort
import Anycode.Pipeline.Forward

/-!
# The retry schedule

The retry loop with its arithmetic checked: `1u32 << attempt` overflows from attempt 32 on. What it
sends and waits for, in order, until the first outcome that is not retried.
-/

namespace Anycode.Pipeline
open Data Config

inductive ForwardStep where
  | sent (outcome : SendResult)
  | waited (backoff : Nat)

def sentOf : ForwardStep → Option SendResult
  | .sent outcome => some outcome
  | .waited _ => none

def waitOf : ForwardStep → Option Nat
  | .sent _ => none
  | .waited backoff => some backoff

/-- `1u32 << attempt`. -/
def shiftedOne (attempt : Nat) : Except Panic Nat :=
  if attempt < 32 then .ok (1 <<< attempt) else .error .overflow

/-- `retry_backoff_base.saturating_mul(1u32 << attempt)`. -/
def checkedBackoff (base attempt : Nat) : Except Panic Nat := do
  let factor ← shiftedOne attempt
  pure (min (base * factor) maxDuration)

/-- The loop at an attempt, with the retries that are left. -/
def retryLoop (send : Nat → SendResult) (base : Nat) : Nat → Nat → Except Panic (List ForwardStep)
  | 0, attempt => pure [.sent (send attempt)]
  | left + 1, attempt =>
    if (send attempt).retryable then do
      let wait ← checkedBackoff base attempt
      let later ← retryLoop send base left (attempt + 1)
      pure (.sent (send attempt) :: .waited wait :: later)
    else pure [.sent (send attempt)]

/-- What `forward_with_retry` sends and waits for. -/
def forwardSteps (send : Nat → SendResult) (backend : Backend) (pool : PoolConfig) :
    Except Panic (List ForwardStep) :=
  if !backend.isConfigured then pure []
  else retryLoop send pool.retryBackoffBase pool.maxRetries.toNat 0

/-! ### The script of a loop -/

section
variable {send : Nat → SendResult} {base : Nat}

theorem checkedBackoff_of_lt {attempt : Nat} (small : attempt < 32) :
    checkedBackoff base attempt = .ok (backoff base attempt) := by
  simp only [checkedBackoff, shiftedOne, if_pos small, backoff, Nat.mod_eq_of_lt small]
  rfl

theorem checkedBackoff_overflow {attempt : Nat} (large : 32 ≤ attempt) :
    checkedBackoff base attempt = .error .overflow := by
  simp only [checkedBackoff, shiftedOne, if_neg (Nat.not_lt.mpr large)]
  rfl

theorem backoff_le_backoff {first second : Nat} (order : first ≤ second) (small : second < 32) :
    backoff base first ≤ backoff base second := by
  have powers : 2 ^ first ≤ 2 ^ second := Nat.pow_le_pow_right (by omega) order
  have products : base * 2 ^ first ≤ base * 2 ^ second := Nat.mul_le_mul_left base powers
  simp only [backoff, Nat.mod_eq_of_lt small, Nat.mod_eq_of_lt (Nat.lt_of_le_of_lt order small), Nat.one_shiftLeft]
  omega

/-- `count` retries from `attempt` on, and the last request. -/
def script (send : Nat → SendResult) (base : Nat) : Nat → Nat → List ForwardStep
  | attempt, 0 => [.sent (send attempt)]
  | attempt, count + 1 => .sent (send attempt) :: .waited (backoff base attempt) :: script send base (attempt + 1) count

theorem sentOf_script (attempt count : Nat) :
    (script send base attempt count).filterMap sentOf = (List.range' attempt (count + 1)).map send := by
  induction count generalizing attempt with
  | zero => rfl
  | succ count ih =>
    rw [List.range'_succ, List.map_cons, ← ih (attempt + 1)]
    rfl

theorem waitOf_script (attempt count : Nat) :
    (script send base attempt count).filterMap waitOf = (List.range' attempt count).map (backoff base) := by
  induction count generalizing attempt with
  | zero => rfl
  | succ count ih =>
    rw [List.range'_succ, List.map_cons, ← ih (attempt + 1)]
    rfl

/-- The loop retries `count` times, each within the shift, and stops for a reason. -/
structure Stops (send : Nat → SendResult) (left attempt count : Nat) : Prop where
  within : count ≤ left
  retried : ∀ i, attempt ≤ i → i < attempt + count → (send i).retryable = true ∧ i < 32
  final : count = left ∨ (send (attempt + count)).retryable = false

theorem Stops.succ {left attempt count : Nat} (retried : (send attempt).retryable = true) (small : attempt < 32)
    (stops : Stops send left (attempt + 1) count) : Stops send (left + 1) attempt (count + 1) := by
  refine ⟨by have := stops.within; omega, ?_, ?_⟩
  · intro i after before
    by_cases now : i = attempt
    · subst now
      exact ⟨retried, small⟩
    · exact stops.retried i (by omega) (by omega)
  · rw [show attempt + (count + 1) = attempt + 1 + count by omega]
    exact stops.final.imp (fun all => by omega) id

theorem retryLoop_ok {left attempt : Nat} {steps : List ForwardStep}
    (done : retryLoop send base left attempt = .ok steps) :
    ∃ count, Stops send left attempt count ∧ steps = script send base attempt count := by
  induction left generalizing attempt steps with
  | zero =>
    have now := pure_ok done
    exact ⟨0, ⟨le_rfl, fun i _ _ => by omega, .inl rfl⟩, now.symm⟩
  | succ left ih =>
    cases retried : (send attempt).retryable with
    | false =>
      rw [retryLoop, if_neg (by simp [retried])] at done
      have now := pure_ok done
      exact ⟨0, ⟨by omega, fun i _ _ => by omega, .inr retried⟩, now.symm⟩
    | true =>
      rw [retryLoop, if_pos retried] at done
      obtain ⟨wait, waited, done⟩ := bind_ok done
      obtain ⟨later, looped, done⟩ := bind_ok done
      have steps_eq := pure_ok done
      obtain ⟨count, stops, later_eq⟩ := ih looped
      have small : attempt < 32 := by
        by_contra large
        rw [checkedBackoff_overflow (by omega)] at waited
        cases waited
      rw [checkedBackoff_of_lt small] at waited
      cases waited
      refine ⟨count + 1, stops.succ retried small, ?_⟩
      rw [← steps_eq, later_eq, script]

/-- Some outcome is not retried before the shift can overflow, or the retries end there. -/
theorem retryLoop_isOk {left attempt : Nat}
    (ends : attempt + left ≤ 32 ∨ ∃ stop, attempt ≤ stop ∧ stop ≤ 32 ∧ (send stop).retryable = false) :
    ∃ steps, retryLoop send base left attempt = .ok steps := by
  induction left generalizing attempt with
  | zero => exact ⟨_, rfl⟩
  | succ left ih =>
    cases retried : (send attempt).retryable with
    | false =>
      rw [retryLoop, if_neg (by simp [retried])]
      exact ⟨_, rfl⟩
    | true =>
      have later : attempt + 1 + left ≤ 32 ∨ ∃ stop, attempt + 1 ≤ stop ∧ stop ≤ 32 ∧ (send stop).retryable = false := by
        obtain few | ⟨stop, after, small, final⟩ := ends
        · exact .inl (by omega)
        · have different : stop ≠ attempt := by
            rintro rfl
            rw [retried] at final
            cases final
          exact .inr ⟨stop, by omega, small, final⟩
      have small : attempt < 32 := by
        obtain few | ⟨stop, after, small, _⟩ := later
        · omega
        · omega
      obtain ⟨steps, looped⟩ := ih later
      rw [retryLoop, if_pos retried, checkedBackoff_of_lt small, looped]
      exact ⟨_, rfl⟩

/-- A loop that ends has few retries, or an early outcome that is not retried. -/
theorem ends_of_retryLoop {left : Nat} {steps : List ForwardStep} (done : retryLoop send base left 0 = .ok steps) :
    left ≤ 32 ∨ ∃ attempt ≤ 32, (send attempt).retryable = false := by
  obtain ⟨count, stops, _⟩ := retryLoop_ok done
  by_cases few : left ≤ 32
  · exact .inl few
  · by_cases early : count ≤ 32
    · exact .inr ⟨count, early, by simpa using stops.final.resolve_left (by omega)⟩
    · exact absurd (stops.retried 32 (by omega) (by omega)).2 (by omega)

end

/-! ### The schedule -/

/-- The requests go out in order, only after an outcome that is retried, until one is not or the
retries are used up; the waits never decrease. -/
structure FollowsSchedule (send : Nat → SendResult) (maxRetries : Nat) (steps : List ForwardStep) : Prop where
  bounded : (steps.filterMap sentOf).length ≤ maxRetries + 1
  inOrder : steps.filterMap sentOf = (List.range (steps.filterMap sentOf).length).map send
  retried : ∀ outcome ∈ (steps.filterMap sentOf).dropLast, outcome.retryable = true
  final : ∀ outcome, (steps.filterMap sentOf).getLast? = some outcome →
    outcome.retryable = false ∨ (steps.filterMap sentOf).length = maxRetries + 1
  waited : (steps.filterMap waitOf).length = (steps.filterMap sentOf).length - 1
  increasing : (steps.filterMap waitOf).Pairwise (· ≤ ·)

theorem followsSchedule_nil (send : Nat → SendResult) (maxRetries : Nat) : FollowsSchedule send maxRetries [] where
  bounded := Nat.zero_le _
  inOrder := rfl
  retried _ member := nomatch member
  final _ last := nomatch last
  waited := rfl
  increasing := List.Pairwise.nil

theorem followsSchedule_script {send : Nat → SendResult} {base left count : Nat} (stops : Stops send left 0 count) :
    FollowsSchedule send left (script send base 0 count) where
  bounded := by simpa [sentOf_script] using stops.within
  inOrder := by simp [sentOf_script, List.range_eq_range']
  retried outcome member := by
    rw [sentOf_script, List.range'_1_concat, List.map_append, List.map_singleton, List.dropLast_concat] at member
    obtain ⟨i, inside, rfl⟩ := List.mem_map.mp member
    obtain ⟨after, before⟩ := List.mem_range'_1.mp inside
    exact (stops.retried i after before).1
  final outcome last := by
    rw [sentOf_script, List.range'_1_concat, List.map_append, List.map_singleton, List.getLast?_concat] at last
    obtain rfl := Option.some.inj last
    obtain all | final := stops.final
    · exact .inr (by simp [sentOf_script, all])
    · exact .inl final
  waited := by simp [sentOf_script, waitOf_script]
  increasing := by
    rw [waitOf_script, List.pairwise_map]
    refine (List.pairwise_lt_range' (s := 0) (n := count)).imp_of_mem ?_
    intro first second _ inside order
    obtain ⟨after, before⟩ := List.mem_range'_1.mp inside
    exact backoff_le_backoff order.le (stops.retried second after before).2

/-- The schedule is kept exactly where no 33 requests in a row fail while another retry is allowed. -/
theorem forwardSteps_followsSchedule_iff (send : Nat → SendResult) (backend : Backend) (pool : PoolConfig) :
    (∃ steps, forwardSteps send backend pool = .ok steps ∧ FollowsSchedule send pool.maxRetries.toNat steps) ↔
      backend.isConfigured = false ∨ pool.maxRetries.toNat ≤ 32 ∨ ∃ attempt ≤ 32, (send attempt).retryable = false := by
  cases configured : backend.isConfigured with
  | false =>
    rw [forwardSteps, if_pos (by simp [configured])]
    exact iff_of_true ⟨[], rfl, followsSchedule_nil send _⟩ (.inl rfl)
  | true =>
    rw [forwardSteps, if_neg (by simp [configured])]
    constructor
    · rintro ⟨steps, done, _⟩
      exact .inr (ends_of_retryLoop done)
    · intro condition
      have ends : 0 + pool.maxRetries.toNat ≤ 32 ∨ ∃ stop, 0 ≤ stop ∧ stop ≤ 32 ∧ (send stop).retryable = false := by
        obtain impossible | few | ⟨attempt, small, final⟩ := condition
        · cases impossible
        · exact .inl (by omega)
        · exact .inr ⟨attempt, Nat.zero_le _, small, final⟩
      obtain ⟨steps, done⟩ := retryLoop_isOk ends
      obtain ⟨count, stops, rfl⟩ := retryLoop_ok done
      exact ⟨_, done, followsSchedule_script stops⟩

/-- With 33 retries the last shift overflows. Unchecked it wraps, and the last wait is as short as the first. -/
theorem many_retries_overflow :
    let send : Nat → SendResult := fun _ => .failed true false
    let backend : Backend := { name := "gateway", baseUrl := "http://localhost" }
    let pool : PoolConfig := ⟨33, 100000000⟩
    (¬ ∃ steps, forwardSteps send backend pool = .ok steps ∧ FollowsSchedule send pool.maxRetries.toNat steps) ∧
      ¬ (sendLoop send pool.retryBackoffBase pool.maxRetries.toNat 0).waits.Pairwise (· ≤ ·) := by
  intro send backend pool
  have configured : backend.isConfigured = true := by decide
  refine ⟨?_, by decide +kernel⟩
  rintro ⟨steps, done, _⟩
  rw [forwardSteps, if_neg (by simp [configured])] at done
  obtain few | ⟨attempt, _, final⟩ := ends_of_retryLoop done
  · exact absurd few (by decide)
  · cases final

end Anycode.Pipeline
