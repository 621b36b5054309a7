import Anycode.Args.Session
import Anycode.Config.ClaudeSettings

/-!
# Environment builder

`args/env_builder.rs`: the variables of the spawned process, in the order they are set.
-/

namespace Anycode.Args
open Config

/-- The directory of the teammate shim. -/
structure TeammateShim where
  dirPath : String
  deriving DecidableEq

def TeammateShim.pathEnv (host : Host) (shim : TeammateShim) : String × String :=
  ("PATH", shim.dirPath ++ ":" ++ (host.var "PATH").getD "")

/-- The provider family, and the wire protocol that it is told. -/
def providerType : String → String × Option String
  | "openai" | "openai-completions" => ("openai", some "completions")
  | "openai-responses" => ("openai", some "responses")
  | "azure" | "azure-completions" => ("azure", some "completions")
  | "azure-responses" => ("azure", some "responses")
  | _ => ("anthropic", none)

def defaultModel (ptype : String) (wire : Option String) : String :=
  if ptype = "anthropic" then "claude-sonnet-4-5" else if wire = some "responses" then "gpt-5" else "gpt-4o"

def userHasModel (host : Host) : Bool :=
  ["COPILOT_MODEL", "COPILOT_PROVIDER_MODEL_ID"].any fun name => (host.var name).any fun value => value != ""

structure EnvSet where
  vars : List (String × String) := []
  deriving DecidableEq

namespace EnvSet

def extend (env : EnvSet) (vars : List (String × String)) : EnvSet := ⟨env.vars ++ vars⟩

def withProxyUrlForMode (env : EnvSet) (url proxyEnvVar : String) : EnvSet := env.extend [(proxyEnvVar, url)]

/-- The real credentials are left alone for a passthrough backend. -/
def withAuthBypass (env : EnvSet) (isPassthrough : Bool) : EnvSet :=
  if isPassthrough then env else env.extend [("ANTHROPIC_AUTH_TOKEN", "anycode-proxy"), ("ANTHROPIC_API_KEY", "")]

def withSessionToken (env : EnvSet) (token : String) : EnvSet :=
  env.extend [("ANTHROPIC_CUSTOM_HEADERS", "x-session-token:" ++ token)]

def withSettings (env : EnvSet) (settings : ClaudeSettingsManager) : EnvSet := env.extend settings.toEnvVars

def withShim (host : Host) (env : EnvSet) (shim : Option TeammateShim) : EnvSet :=
  env.extend (shim.map (·.pathEnv host)).toList

def withCopilotEnv (host : Host) (env : EnvSet) (proxyUrl sessionToken provider : String) : EnvSet :=
  let (ptype, wire) := providerType provider
  let wireApi := wire.map fun w => ("COPILOT_PROVIDER_WIRE_API", w)
  let model := if userHasModel host then [] else [("COPILOT_MODEL", defaultModel ptype wire)]
  let home := host.homeDir.map fun home => ("COPILOT_HOME", joinPath home ".config/anycode/copilot-home")
  env.extend ([("COPILOT_OFFLINE", "true"), ("COPILOT_PROVIDER_BASE_URL", proxyUrl), ("COPILOT_PROVIDER_TYPE", ptype),
    ("COPILOT_PROVIDER_API_KEY", sessionToken)] ++ wireApi.toList ++ model ++ home.toList)

def withExtra (env : EnvSet) (extra : List (String × String)) : EnvSet := env.extend extra

end EnvSet

end Anycode.Args
