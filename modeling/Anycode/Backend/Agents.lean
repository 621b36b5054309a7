import Anycode.Backend.State
import Anycode.Data.Assoc

/-!
# Agents

The registry that maps agent ids to their birth backends, and the hooks that write to it
(`backend/state.rs`, `proxy/hooks.rs`). An agent id is a list of characters.
-/

namespace Anycode.Config
open Data

structure AgentRegistry where
  inner : Assoc (List Char) String := []

namespace AgentRegistry

def markerPrefix : List Char := "⟨AC:".toList

def markerSuffix : Char := '⟩'

def formatMarker (id : List Char) : List Char := markerPrefix ++ id ++ [markerSuffix]

def register (registry : AgentRegistry) (id : List Char) (backend : String) : AgentRegistry :=
  ⟨(id, backend) :: registry.inner.erase id⟩

def remove (registry : AgentRegistry) (id : List Char) : AgentRegistry := ⟨registry.inner.erase id⟩

def isEmpty (registry : AgentRegistry) : Bool := registry.inner.isEmpty

def lookup (registry : AgentRegistry) (id : List Char) : Option String := registry.inner.find id

theorem lookup_register (registry : AgentRegistry) (id other : List Char) (backend : String) :
    (registry.register id backend).lookup other = if other = id then some backend else registry.lookup other := by
  rw [register, lookup, lookup, Assoc.find]
  split
  · rfl
  · rename_i different
    rw [Assoc.find_erase, if_neg different]

theorem lookup_remove (registry : AgentRegistry) (id other : List Char) :
    (registry.remove id).lookup other = if other = id then none else registry.lookup other :=
  Assoc.find_erase id other registry.inner

theorem isEmpty_of_lookup {registry : AgentRegistry} {id : List Char} {backend : String}
    (found : registry.lookup id = some backend) : registry.isEmpty = false := by
  cases entries : registry.inner with
  | nil =>
    rw [lookup, entries] at found
    cases found
  | cons entry rest => rw [isEmpty, entries]; rfl

end AgentRegistry

/-! ### Hooks -/

structure HookState where
  backendState : BackendState
  subagentBackend : Option String := none
  teammateBackend : Option String := none
  registry : AgentRegistry := {}

structure HookSpecificOutput where
  hookEventName : String
  additionalContext : Option (List Char)
  deriving DecidableEq

namespace HookState

def handleSubagentStart (state : HookState) (agentId : Option (List Char)) : HookState × HookSpecificOutput :=
  match agentId, state.subagentBackend with
  | some id, some backend =>
    ({ state with registry := state.registry.register id backend },
      ⟨"SubagentStart", some (AgentRegistry.formatMarker id)⟩)
  | _, _ => (state, ⟨"SubagentStart", none⟩)

def handleSubagentStop (state : HookState) (agentId : Option (List Char)) : HookState :=
  match agentId with
  | some id => { state with registry := state.registry.remove id }
  | none => state

def handleTeammateStart (state : HookState) (agentId : List Char) : HookState × String :=
  let backend := state.teammateBackend.getD state.backendState.activeBackend
  ({ state with registry := state.registry.register agentId backend }, backend)

theorem lookup_handleSubagentStart (state : HookState) (agentId : Option (List Char)) (id : List Char) :
    (state.handleSubagentStart agentId).1.registry.lookup id =
      (if agentId = some id then state.subagentBackend else none).or (state.registry.lookup id) := by
  unfold handleSubagentStart
  cases agentId with
  | none => rfl
  | some other =>
    cases state.subagentBackend with
    | none => rw [ite_self, Option.none_or]
    | some backend =>
      dsimp only
      rw [AgentRegistry.lookup_register]
      by_cases same : id = other
      · rw [if_pos same, if_pos (congrArg some same.symm), Option.some_or]
      · rw [if_neg same, if_neg (fun started => same (Option.some.inj started).symm), Option.none_or]

theorem lookup_handleSubagentStop (state : HookState) (agentId : Option (List Char)) (id : List Char) :
    (state.handleSubagentStop agentId).registry.lookup id =
      if agentId = some id then none else state.registry.lookup id := by
  unfold handleSubagentStop
  cases agentId with
  | none => rfl
  | some other =>
    dsimp only
    rw [AgentRegistry.lookup_remove]
    by_cases same : id = other
    · rw [if_pos same, if_pos (congrArg some same.symm)]
    · rw [if_neg same, if_neg (fun stopped => same (Option.some.inj stopped).symm)]

theorem lookup_handleTeammateStart (state : HookState) (agentId id : List Char) :
    (state.handleTeammateStart agentId).1.registry.lookup id =
      if id = agentId then some (state.teammateBackend.getD state.backendState.activeBackend)
      else state.registry.lookup id :=
  AgentRegistry.lookup_register state.registry agentId id _

end HookState

end Anycode.Config
