import Anycode.Args.Registry
import Anycode.Data.Lookahead

/-!
# Argument classifier

The loop of `args/classifier.rs` over the raw arguments: a flag that may have a value takes the
next argument along, unless that looks like a flag itself.
-/

namespace Anycode.Args
open Data

inductive ClassifiedArg where
  | wrapperOwned (flag : String) (value : Option String)
  | intercepted (flag : String) (value : Option String)
  | knownPassthrough (flag : String) (value : Option String)
  | unknownPassthrough (arg : String)
  | positional (arg : String)
  deriving DecidableEq

structure ClassifyResult where
  args : List ClassifiedArg
  warnings : List String
  deriving DecidableEq

def looksLikeFlag (arg : String) : Bool := arg.toList.head? == some '-'

def FlagBehavior.classified : FlagBehavior → String → Option String → ClassifiedArg
  | .wrapperOwned => .wrapperOwned
  | .intercepted => .intercepted
  | .passthrough => .knownPassthrough

/-- An unknown flag may have a value. -/
def takesValue (registry : List FlagDef) (arg next : String) : Bool :=
  looksLikeFlag arg && !looksLikeFlag next &&
    match lookup registry arg with
    | some flag => flag.arity != .noValue
    | none => true

/-- One round of the loop, with the value that the argument takes. -/
def classifyArg (registry : List FlagDef) (arg : String) (value : Option String) : ClassifyResult :=
  if looksLikeFlag arg then
    match lookup registry arg with
    | some flag =>
      { args := [flag.behavior.classified flag.long value]
        warnings :=
          if flag.arity = .requiresValue ∧ value = none then [flag.long ++ ": missing required value"] else [] }
    | none =>
      { args := .unknownPassthrough arg :: (value.map .unknownPassthrough).toList
        warnings := [arg ++ ": unknown flag, forwarding to claude"] }
  else { args := [.positional arg], warnings := [] }

def classify (rawArgs : List String) (registry : List FlagDef) : ClassifyResult :=
  let rounds := scan (takesValue registry) (classifyArg registry) rawArgs
  { args := rounds.flatMap (·.args), warnings := rounds.flatMap (·.warnings) }

theorem looksLikeFlag_of_takesValue {registry : List FlagDef} {arg next : String}
    (takes : takesValue registry arg next = true) : looksLikeFlag arg = true ∧ looksLikeFlag next = false := by
  simp only [takesValue, Bool.and_eq_true, Bool.not_eq_eq_eq_not, Bool.not_true] at takes
  exact takes.1

end Anycode.Args
