import Anycode.Backend.State

/-!
# The root configuration

The records of `config/types.rs`, with the values that a missing key takes.
-/

namespace Anycode.Config

inductive CliMode where
  | claude
  | copilot
  deriving DecidableEq

def CliMode.profileKey : CliMode → String
  | .claude => "claude"
  | .copilot => "copilot"

/-- The variable that the spawned process reads the proxy URL from. -/
def CliMode.proxyEnvVar : CliMode → String
  | .claude => "ANTHROPIC_BASE_URL"
  | .copilot => "COPILOT_API_URL"

def CliMode.isCopilot : CliMode → Bool
  | .claude => false
  | .copilot => true

structure Defaults where
  active : String := "claude"
  timeoutSeconds : UInt32 := 30
  connectTimeoutSeconds : UInt32 := 5
  idleTimeoutSeconds : UInt32 := 60
  poolIdleTimeoutSeconds : UInt32 := 90
  poolMaxIdlePerHost : UInt32 := 8
  maxRetries : UInt32 := 3
  retryBackoffBaseMs : UInt64 := 100
  deriving DecidableEq

structure AgentsConfig where
  teammateBackend : String
  subagentBackend : Option String := none
  deriving DecidableEq

/-- A `HashMap<String, bool>`: the entries sorted by key, so that equal maps are equal. -/
structure Settings where
  entries : List (String × Bool)
  sorted : entries.Pairwise fun a b => a.1 < b.1
  deriving DecidableEq

def Settings.empty : Settings := ⟨[], .nil⟩

/-- The stored form of a `CliProfile`. -/
structure Profile where
  defaults : Defaults := {}
  backends : List Backend := []
  agents : Option AgentsConfig := none
  claudeSettings : Settings := .empty
  deriving DecidableEq

structure ProxyConfig where
  bindAddr : String := "127.0.0.1:47190"
  baseUrl : String := "http://127.0.0.1:47190"
  deriving DecidableEq

structure WebuiConfig where
  bindAddr : String := "127.0.0.1:47191"
  username : Option String := none
  password : Option String := none
  deriving DecidableEq

structure TerminalConfig where
  scrollbackLines : UInt64 := 10000
  deriving DecidableEq

inductive DebugLogLevel where
  | off
  | basic
  | verbose
  | full
  deriving DecidableEq

inductive DebugLogFormat where
  | console
  | json
  deriving DecidableEq

inductive DebugLogDestination where
  | stderr
  | file
  | both
  deriving DecidableEq

inductive DebugLogRotationMode where
  | none
  | size
  | daily
  deriving DecidableEq

structure DebugLogRotation where
  mode : DebugLogRotationMode := .none
  maxBytes : UInt64 := 10485760
  maxFiles : UInt64 := 5
  deriving DecidableEq

structure DebugLoggingConfig where
  level : DebugLogLevel := .off
  format : DebugLogFormat := .console
  destination : DebugLogDestination := .stderr
  filePath : String := "~/.config/anycode/logs/debug.log"
  bodyPreviewBytes : UInt64 := 1024
  headerPreview : Bool := true
  fullBody : Bool := false
  prettyPrint : Bool := true
  rotation : DebugLogRotation := {}
  deriving DecidableEq

/-- `Config`, the root of the document. -/
structure RootConfig where
  proxy : ProxyConfig := {}
  webui : WebuiConfig := {}
  terminal : TerminalConfig := {}
  debugLogging : DebugLoggingConfig := {}
  claude : Profile := {}
  copilot : Profile := {}
  deriving DecidableEq

/-- `Backend::default()`. -/
def Backend.claude : Backend :=
  { name := "claude", displayName := "Claude", baseUrl := "https://api.anthropic.com" }

/-- `Config::default()`. An empty document differs from it in that it lists no backend. -/
def RootConfig.default : RootConfig := { claude := { backends := [.claude] } }

/-- The fields that the running `BackendState` keeps. -/
def Profile.toCliProfile (profile : Profile) : CliProfile := ⟨profile.defaults.active, profile.backends⟩

def Profile.hasBackend (profile : Profile) (name : String) : Bool :=
  profile.backends.any fun backend => backend.name == name

namespace RootConfig

def profile (config : RootConfig) : CliMode → Profile
  | .claude => config.claude
  | .copilot => config.copilot

/-- What a write through `profile_mut` leaves. -/
def setProfile (config : RootConfig) (mode : CliMode) (profile : Profile) : RootConfig :=
  match mode with
  | .claude => { config with claude := profile }
  | .copilot => { config with copilot := profile }

@[simp] theorem profile_setProfile (config : RootConfig) (mode : CliMode) (profile : Profile) :
    (config.setProfile mode profile).profile mode = profile := by
  cases mode <;> rfl

@[simp] theorem setProfile_setProfile (config : RootConfig) (mode : CliMode) (first second : Profile) :
    (config.setProfile mode first).setProfile mode second = config.setProfile mode second := by
  cases mode <;> rfl

theorem setProfile_eq_iff {config other : RootConfig} {mode : CliMode} {first second : Profile} :
    config.setProfile mode first = other.setProfile mode second ↔
      first = second ∧ config.setProfile mode {} = other.setProfile mode {} := by
  constructor
  · intro same
    have profiles := congrArg (fun config => config.profile mode) same
    have rests := congrArg (fun config => config.setProfile mode {}) same
    simp only [profile_setProfile, setProfile_setProfile] at profiles rests
    exact ⟨profiles, rests⟩
  · intro parts
    obtain ⟨rfl, rests⟩ := parts
    have same := congrArg (fun config => config.setProfile mode first) rests
    simpa only [setProfile_setProfile] using same

@[simp] theorem webui_setProfile (config : RootConfig) (mode : CliMode) (profile : Profile) :
    (config.setProfile mode profile).webui = config.webui := by
  cases mode <;> rfl

end RootConfig

end Anycode.Config
