import Anycode.Pipeline.ModelRewrite
import Anycode.Thinking.Filter
import Anycode.Thinking.Session

/-!
# Transforming a request body

Stage 4 of the pipeline: model rewriting, adaptive thinking conversion, thinking filtering with
its all-or-nothing downgrade, and the effort cap, followed by the serialization that is skipped
when no change was recorded. Log calls are left out; serde is a parameter.
-/

namespace Anycode.Pipeline
open Data Config Thinking

/-! ### The stages -/

/-- Stage 4.1: the mapped model of the request's family, if one is configured. -/
def rewriteModel (backend : Backend) (body : Json) : Json × Option ModelMapping :=
  match body.strAt "model" with
  | none => (body, none)
  | some model =>
    match backend.resolveModel model with
    | none => (body, none)
    | some newModel => (body.insert "model" (.string newModel), some ⟨newModel, model⟩)

def isAdaptive (body : Json) : Bool :=
  (body.get "thinking").bind (fun thinking => thinking.strAt "type") == some "adaptive"

def budgetFromMaxTokens (maxTokens : UInt64) : UInt32 := UInt32.ofNat (maxTokens.toNat - 1)

def thinkingBudget (body : Json) (configuredBudget : Option UInt32) : UInt32 :=
  match configuredBudget with
  | some budget => budget
  | none =>
    match (body.get "max_tokens").bind Json.asU64 with
    | some maxTokens => budgetFromMaxTokens maxTokens
    | none => 10000

def enabledThinking (budget : UInt32) : Json :=
  .object [("budget_tokens", .number (.posInt budget.toUInt64)), ("type", .string "enabled")]

/-- Stage 4.2: `some true` if converted, `some false` if `thinking` is not adaptive, `none`
without one. -/
def convertAdaptiveThinking (body : Json) (configuredBudget : Option UInt32) : Json × Option Bool :=
  if isAdaptive body then
    (body.insert "thinking" (enabledThinking (thinkingBudget body configuredBudget)), some true)
  else (body, (body.get "thinking").map fun _ => false)

def stripAllThinkingBlocks (body : Json) : Json × UInt32 :=
  retainContent (fun item => !isThinkingItem item) body

def hasRemainingThinkingBlocks (body : Json) : Bool :=
  (messages body).any fun message => (contentOf message).any isThinkingItem

def saturatingAdd (a b : UInt32) : UInt32 :=
  if a.toNat + b.toNat < UInt32.size then a + b else 4294967295

structure ThinkingFiltered (H : Type) where
  registry : ThinkingRegistry H
  body : Json
  thinkingConverted : Bool
  filteredCount : UInt32

section
variable {H : Type} [DecidableEq H] (fastHash : String → H)

/-- Stage 4.3 with a session: filter, and strip everything when the history is inconsistent. -/
def filterThinking (session : ThinkingSession) (r : ThinkingRegistry H) (body : Json)
    (thinkingConverted : Bool) (now : Nat) : ThinkingFiltered H :=
  let filtered := session.filter fastHash r body now
  let shouldStripAll := hasAssistantMessages filtered.body &&
    (decide (0 < filtered.removed) || !hasRemainingThinkingBlocks filtered.body)
  if shouldStripAll then
    let (stripped, extraStripped) := stripAllThinkingBlocks filtered.body
    let removedTopLevel := (stripped.get "thinking").isSome
    { registry := filtered.registry
      body := stripped.erase "thinking"
      thinkingConverted := if removedTopLevel || decide (0 < extraStripped) then false else thinkingConverted
      filteredCount := saturatingAdd filtered.removed extraStripped }
  else
    { registry := filtered.registry
      body := filtered.body
      thinkingConverted := thinkingConverted
      filteredCount := filtered.removed }

/-- Stage 4.4: the body with its effort capped, and whether it was. -/
def capOutputEffort (backend : Backend) (originalModel : String) (body : Json) : Json × Bool :=
  match (body.get "output_config").bind (fun config => config.strAt "effort") with
  | none => (body, false)
  | some effort =>
    match backend.capEffort effort originalModel with
    | none => (body, false)
    | some capped => (body.modify "output_config" (fun config => config.insert "effort" (.string capped)), true)

/-! ### The whole transformation -/

structure Transformed where
  bytes : List UInt8
  isStreaming : Bool
  modelMapping : Option ModelMapping
  thinkingActive : Bool

/-- `transform_body`, with the registry that the session shares. -/
def transformBody (serde : Serde) (bodyBytes : List UInt8) (parsedBody : Option Json) (backend : Backend)
    (thinking : Option ThinkingSession) (r : ThinkingRegistry H) (now : Nat) : ThinkingRegistry H × Transformed :=
  match parsedBody with
  | none => (r, ⟨bodyBytes, false, none, false⟩)
  | some body =>
    let isStreaming := ((body.get "stream").bind Json.asBool).getD false
    let originalModel := (body.strAt "model").getD ""
    let remapped := rewriteModel backend body
    let adaptation :=
      if backend.needsThinkingCompat then convertAdaptiveThinking remapped.1 backend.thinkingBudgetTokens
      else (remapped.1, none)
    let thinkingConverted := adaptation.2 == some true
    let filtered : ThinkingFiltered H :=
      match thinking with
      | some session => filterThinking fastHash session r adaptation.1 thinkingConverted now
      | none =>
        { registry := r, body := adaptation.1, thinkingConverted := thinkingConverted, filteredCount := 0 }
    let thinkingActive := (filtered.body.get "thinking").isSome
    let capped := capOutputEffort backend originalModel filtered.body
    let transformed := remapped.2.isSome || filtered.thinkingConverted || decide (0 < filtered.filteredCount) ||
      capped.2 || !thinkingActive
    let bytes := if transformed then (serde.toVec capped.1).getD bodyBytes else bodyBytes
    (filtered.registry, ⟨bytes, isStreaming, remapped.2, thinkingActive⟩)

end

end Anycode.Pipeline
