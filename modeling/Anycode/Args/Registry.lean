/-!
# The flag registry

Every flag that `args/registry.rs` knows, with its arity and what the wrapper does with it.
-/

namespace Anycode.Args

inductive FlagBehavior where
  | wrapperOwned
  /-- Consumed, and possibly injected again in another form. -/
  | intercepted
  | passthrough
  deriving DecidableEq

inductive FlagArity where
  | noValue
  | requiresValue
  | optionalValue
  deriving DecidableEq

structure FlagDef where
  long : String
  short : Option String
  arity : FlagArity
  behavior : FlagBehavior
  deriving DecidableEq

def flagRegistry : List FlagDef := [
  { long := "--backend", short := some "-b", arity := .requiresValue, behavior := .wrapperOwned },
  { long := "--session-id", short := none, arity := .requiresValue, behavior := .intercepted },
  { long := "--resume", short := some "-r", arity := .requiresValue, behavior := .intercepted },
  { long := "--continue", short := some "-c", arity := .noValue, behavior := .intercepted },
  { long := "--model", short := some "-m", arity := .requiresValue, behavior := .passthrough },
  { long := "--verbose", short := some "-v", arity := .noValue, behavior := .passthrough },
  { long := "--print", short := some "-p", arity := .noValue, behavior := .passthrough },
  { long := "--output-format", short := none, arity := .requiresValue, behavior := .passthrough },
  { long := "--dangerously-skip-permissions", short := none, arity := .noValue, behavior := .passthrough },
  { long := "--teammate-mode", short := none, arity := .requiresValue, behavior := .passthrough },
  { long := "--help", short := some "-h", arity := .noValue, behavior := .passthrough },
  { long := "--version", short := some "-V", arity := .noValue, behavior := .passthrough }]

def FlagDef.matches (flag : FlagDef) (arg : String) : Bool := arg == flag.long || flag.short == some arg

def FlagDef.spellings (flag : FlagDef) : List String := flag.long :: flag.short.toList

theorem FlagDef.matches_iff {flag : FlagDef} {arg : String} : flag.matches arg = true ↔ arg ∈ flag.spellings := by
  rw [FlagDef.matches, spellings, Bool.or_eq_true, beq_iff_eq, beq_iff_eq, List.mem_cons, Option.mem_toList]

/-- The definition that an argument spells. -/
def lookup (registry : List FlagDef) (arg : String) : Option FlagDef := registry.find? fun flag => flag.matches arg

theorem spelled_of_lookup {registry : List FlagDef} {arg : String} {flag : FlagDef}
    (found : lookup registry arg = some flag) : flag ∈ registry ∧ arg ∈ flag.spellings := by
  rw [lookup, List.find?_eq_some_iff_append] at found
  obtain ⟨spelled, before, after, rfl, _⟩ := found
  exact ⟨List.mem_append_right before List.mem_cons_self, FlagDef.matches_iff.mp spelled⟩

end Anycode.Args
