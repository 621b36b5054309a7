import Anycode.Pipeline.Transform

/-!
# The adaptive thinking conversion

A body that asks for adaptive thinking is rewritten to a fixed budget, one less than its
`max_tokens` where the backend has no budget of its own. The budget is narrowed to 32 bits.
-/

namespace Anycode.Pipeline
open Data

def maxTokensOf (body : Json) : Option UInt64 := (body.get "max_tokens").bind Json.asU64

theorem isAdaptive_isObject {body : Json} (adaptive : isAdaptive body = true) : body.isObject = true := by
  unfold isAdaptive at adaptive
  cases found : body.get "thinking" with
  | none => simp [found] at adaptive
  | some thinking => exact Json.isObject_of_get found

theorem isAdaptive_of_enabled {body : Json} {budget : UInt32}
    (enabled : body.get "thinking" = some (enabledThinking budget)) : isAdaptive body = false := by
  rw [isAdaptive, enabled]
  change (some "enabled" == some "adaptive") = false
  decide

theorem budgetFromMaxTokens_toNat (maxTokens : UInt64) :
    (budgetFromMaxTokens maxTokens).toNat = (maxTokens.toNat - 1) % UInt32.size := UInt32.toNat_ofNat

/-- The narrowing keeps the budget exactly up to `max_tokens` of `2 ^ 32`. -/
theorem budgetFromMaxTokens_exact_iff {maxTokens : UInt64} (positive : 1 ≤ maxTokens.toNat) :
    (budgetFromMaxTokens maxTokens).toNat = maxTokens.toNat - 1 ↔ maxTokens.toNat ≤ UInt32.size := by
  rw [budgetFromMaxTokens_toNat, show UInt32.size = 4294967296 from rfl]
  omega

theorem convertAdaptiveThinking_of_adaptive {body : Json} (adaptive : isAdaptive body = true)
    (configuredBudget : Option UInt32) :
    convertAdaptiveThinking body configuredBudget =
      (body.insert "thinking" (enabledThinking (thinkingBudget body configuredBudget)), some true) := if_pos adaptive

theorem convertAdaptiveThinking_of_not_adaptive {body : Json} (other : isAdaptive body = false)
    (configuredBudget : Option UInt32) :
    convertAdaptiveThinking body configuredBudget = (body, (body.get "thinking").map fun _ => false) :=
  if_neg (by simp [other])

theorem thinking_convertAdaptiveThinking {body : Json} (adaptive : isAdaptive body = true)
    (configuredBudget : Option UInt32) :
    (convertAdaptiveThinking body configuredBudget).1.get "thinking" =
      some (enabledThinking (thinkingBudget body configuredBudget)) := by
  rw [convertAdaptiveThinking_of_adaptive adaptive]
  exact Json.get_insert_same (isAdaptive_isObject adaptive)

theorem get_convertAdaptiveThinking_other {key : String} (body : Json) (configuredBudget : Option UInt32)
    (other : key ≠ "thinking") : (convertAdaptiveThinking body configuredBudget).1.get key = body.get key := by
  cases adaptive : isAdaptive body with
  | false => rw [convertAdaptiveThinking_of_not_adaptive adaptive]
  | true =>
    rw [convertAdaptiveThinking_of_adaptive adaptive]
    exact Json.get_insert_other _ body other

/-- A converted body is no longer adaptive. -/
theorem not_adaptive_convertAdaptiveThinking (body : Json) (configuredBudget : Option UInt32) :
    isAdaptive (convertAdaptiveThinking body configuredBudget).1 = false := by
  cases adaptive : isAdaptive body with
  | false =>
    rw [convertAdaptiveThinking_of_not_adaptive adaptive]
    exact adaptive
  | true => exact isAdaptive_of_enabled (thinking_convertAdaptiveThinking adaptive configuredBudget)

theorem convertAdaptiveThinking_idempotent (body : Json) (configuredBudget : Option UInt32) :
    (convertAdaptiveThinking (convertAdaptiveThinking body configuredBudget).1 configuredBudget).1 =
      (convertAdaptiveThinking body configuredBudget).1 := by
  rw [convertAdaptiveThinking_of_not_adaptive (not_adaptive_convertAdaptiveThinking body configuredBudget)]

/-- `converted` asks for a fixed budget of one less than `max_tokens`, below it where it is positive. -/
def HasBudget (body converted : Json) : Prop :=
  ∃ budget : UInt32, converted.get "thinking" = some (enabledThinking budget) ∧
    ∀ maxTokens, maxTokensOf body = some maxTokens → 1 ≤ maxTokens.toNat →
      budget.toNat = maxTokens.toNat - 1 ∧ budget.toNat < maxTokens.toNat

/-- What the conversion of a body without a configured budget promises. -/
structure Converts (body converted : Json) (changed : Option Bool) : Prop where
  enabled : isAdaptive body = true → changed = some true ∧ HasBudget body converted
  untouched : isAdaptive body = false → converted = body ∧ changed = (body.get "thinking").map fun _ => false
  frame : ∀ key, key ≠ "thinking" → converted.get key = body.get key
  stable : (convertAdaptiveThinking converted none).1 = converted

theorem hasBudget_iff {body : Json} (adaptive : isAdaptive body = true) :
    HasBudget body (convertAdaptiveThinking body none).1 ↔
      ∀ maxTokens, maxTokensOf body = some maxTokens → maxTokens.toNat ≤ UInt32.size := by
  have thinking := thinking_convertAdaptiveThinking adaptive none
  have derived : ∀ maxTokens, maxTokensOf body = some maxTokens →
      thinkingBudget body none = budgetFromMaxTokens maxTokens := by
    intro maxTokens found
    rw [maxTokensOf] at found
    simp only [thinkingBudget, found]
  constructor
  · rintro ⟨budget, enabled, exact_⟩ maxTokens found
    by_cases positive : 1 ≤ maxTokens.toNat
    · have same : budget = thinkingBudget body none := by
        have fields := Option.some.inj (enabled.symm.trans thinking)
        simpa [enabledThinking, UInt32.toUInt64_inj] using fields
      have value := (exact_ maxTokens found positive).1
      rw [same, derived maxTokens found] at value
      exact (budgetFromMaxTokens_exact_iff positive).mp value
    · rw [show maxTokens.toNat = 0 by omega]
      exact Nat.zero_le _
  · intro small
    refine ⟨thinkingBudget body none, thinking, ?_⟩
    intro maxTokens found positive
    have value := (budgetFromMaxTokens_exact_iff positive).mpr (small maxTokens found)
    rw [derived maxTokens found, value]
    exact ⟨rfl, by omega⟩

/-- The conversion keeps its promise exactly where the budget fits 32 bits. -/
theorem convertAdaptiveThinking_converts_iff (body : Json) :
    Converts body (convertAdaptiveThinking body none).1 (convertAdaptiveThinking body none).2 ↔
      (isAdaptive body = true → ∀ maxTokens, maxTokensOf body = some maxTokens → maxTokens.toNat ≤ UInt32.size) := by
  constructor
  · intro converts adaptive
    exact (hasBudget_iff adaptive).mp (converts.enabled adaptive).2
  · intro small
    refine ⟨?_, ?_, fun key => get_convertAdaptiveThinking_other body none,
      convertAdaptiveThinking_idempotent body none⟩
    · intro adaptive
      refine ⟨?_, (hasBudget_iff adaptive).mpr (small adaptive)⟩
      rw [convertAdaptiveThinking_of_adaptive adaptive]
    · intro other
      rw [convertAdaptiveThinking_of_not_adaptive other]
      exact ⟨rfl, rfl⟩

/-- With `max_tokens` of `2 ^ 32 + 1` the budget is 0. -/
theorem large_max_tokens_lose_budget :
    let body := Json.object [("max_tokens", .number (.posInt 4294967297)),
      ("thinking", .object [("type", .string "adaptive")])]
    isAdaptive body = true ∧ (convertAdaptiveThinking body none).1.get "thinking" = some (enabledThinking 0) ∧
      ¬ Converts body (convertAdaptiveThinking body none).1 (convertAdaptiveThinking body none).2 := by
  intro body
  have adaptive : isAdaptive body = true := by decide
  have large : maxTokensOf body = some 4294967297 := rfl
  have budget : thinkingBudget body none = 0 := by decide
  have thinking := thinking_convertAdaptiveThinking adaptive none
  rw [budget] at thinking
  refine ⟨adaptive, thinking, ?_⟩
  intro converts
  have small := (hasBudget_iff adaptive).mp (converts.enabled adaptive).2 4294967297 large
  exact absurd small (by decide)

end Anycode.Pipeline
