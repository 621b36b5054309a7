import Anycode.Config.Types

/-!
# The settings manager

The registry of `config/claude_settings.rs` with the current values, and what the enabled
settings add to the environment and the arguments of the spawned process.
-/

namespace Anycode.Config

inductive SettingId where
  | agents
  deriving DecidableEq

def SettingId.asStr : SettingId → String
  | .agents => "agents"

structure SettingDef where
  id : SettingId
  envVar : Option String
  envValue : String
  cliFlag : Option String
  default : Bool
  deriving DecidableEq

def builtinRegistry : List SettingDef := [
  { id := .agents, envVar := some "CLAUDE_CODE_EXPERIMENTAL_AGENT_TEAMS", envValue := "1", cliFlag := none,
    default := false }]

/-- A setting as the dialog shows it. -/
structure SettingsFieldSnapshot where
  id : SettingId
  value : Bool
  deriving DecidableEq

/-- The registry is private, and `new` gives every manager the builtin one. -/
structure ClaudeSettingsManager where
  registry : List SettingDef
  values : SettingId → Option Bool
  builtin : registry = builtinRegistry

namespace ClaudeSettingsManager

def new : ClaudeSettingsManager := ⟨builtinRegistry, fun _ => none, rfl⟩

def defaultFor (settings : ClaudeSettingsManager) (id : SettingId) : Bool :=
  ((settings.registry.find? fun entry => entry.id = id).map (·.default)).getD false

def get (settings : ClaudeSettingsManager) (id : SettingId) : Bool :=
  (settings.values id).getD (settings.defaultFor id)

def set (settings : ClaudeSettingsManager) (id : SettingId) (value : Bool) : ClaudeSettingsManager :=
  { settings with values := fun other => if other = id then some value else settings.values other }

/-- The values to compare with later: a map with an entry for every setting. -/
def snapshotValues (settings : ClaudeSettingsManager) (id : SettingId) : Option Bool :=
  (settings.registry.find? fun entry => entry.id = id).map fun entry => settings.get entry.id

def isDirty (settings : ClaudeSettingsManager) (saved : SettingId → Option Bool) : Bool :=
  settings.registry.any fun entry => settings.get entry.id != (saved entry.id).getD entry.default

def toSnapshots (settings : ClaudeSettingsManager) : List SettingsFieldSnapshot :=
  settings.registry.map fun entry => ⟨entry.id, settings.get entry.id⟩

def applySnapshots (settings : ClaudeSettingsManager) (fields : List SettingsFieldSnapshot) : ClaudeSettingsManager :=
  fields.foldl (fun settings field => settings.set field.id field.value) settings

def toTomlMap (settings : ClaudeSettingsManager) : Settings where
  entries := settings.registry.map fun entry => (entry.id.asStr, settings.get entry.id)
  sorted := by
    rw [settings.builtin]
    exact List.pairwise_singleton _ _

def toEnvVars (settings : ClaudeSettingsManager) : List (String × String) :=
  (settings.registry.filter fun entry => settings.get entry.id).filterMap fun entry =>
    entry.envVar.map fun name => (name, entry.envValue)

def toCliArgs (settings : ClaudeSettingsManager) : List String :=
  (settings.registry.filter fun entry => settings.get entry.id).filterMap (·.cliFlag)

/-- No builtin setting has a flag. -/
theorem toCliArgs_eq_nil (settings : ClaudeSettingsManager) : settings.toCliArgs = [] := by
  rw [toCliArgs, settings.builtin, List.filterMap_eq_nil_iff]
  intro entry listed
  have agents : entry ∈ builtinRegistry := (List.mem_filter.mp listed).1
  rw [List.mem_singleton.mp agents]

end ClaudeSettingsManager

end Anycode.Config
