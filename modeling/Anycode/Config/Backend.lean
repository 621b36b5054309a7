import Mathlib.Data.List.Infix

/-!
# Backend configuration

A configured backend, with the model and effort lookups of `config/credentials.rs`.
-/

namespace Anycode.Config

/-- Prices per million tokens, each the bits of an `f64`. -/
structure BackendPricing where
  inputPerMillion : UInt64
  outputPerMillion : UInt64
  deriving DecidableEq

structure Backend where
  name : String
  displayName : String := ""
  baseUrl : String
  authTypeStr : String := "passthrough"
  apiKey : Option String := none
  pricing : Option BackendPricing := none
  thinkingCompat : Option Bool := none
  thinkingBudgetTokens : Option UInt32 := none
  modelOpus : Option String := none
  modelOpusMaxEffort : Option String := none
  modelSonnet : Option String := none
  modelSonnetMaxEffort : Option String := none
  modelHaiku : Option String := none
  modelHaikuMaxEffort : Option String := none
  modelsPath : Option String := none
  wireApi : Option String := none
  stripRequestPrefix : Option String := none
  deriving DecidableEq

def contains (s pattern : String) : Bool := decide (pattern.toList <:+: s.toList)

/-- The value configured for the family keyword that comes first in the source's order. -/
def ofFamily (model : String) (opus sonnet haiku : Option String) : Option String :=
  if contains model "opus" then opus
  else if contains model "sonnet" then sonnet
  else if contains model "haiku" then haiku
  else none

def effortRank (effort : String) : Nat :=
  if effort = "low" then 0
  else if effort = "medium" then 1
  else if effort = "high" then 2
  else if effort = "xhigh" then 3
  else 0

namespace Backend

/-- An explicit setting wins; otherwise every host but `anthropic.com` needs the conversion. -/
def needsThinkingCompat (backend : Backend) : Bool :=
  match backend.thinkingCompat with
  | some v => v
  | none => !contains backend.baseUrl "anthropic.com"

def resolveModel (backend : Backend) (original : String) : Option String :=
  ofFamily original backend.modelOpus backend.modelSonnet backend.modelHaiku

def capEffort (backend : Backend) (requestEffort originalModel : String) : Option String :=
  match ofFamily originalModel backend.modelOpusMaxEffort backend.modelSonnetMaxEffort
      backend.modelHaikuMaxEffort with
  | none => none
  | some max => if effortRank requestEffort > effortRank max then some max else none

end Backend

end Anycode.Config
