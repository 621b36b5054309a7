import Anycode.Args.Assembler
import Anycode.Config.Types

/-!
# Argument pipeline

`args/pipeline.rs` ties the stages together: classify, resolve the session, build the environment,
assemble the arguments.
-/

namespace Anycode.Args
open Config

structure SpawnParams where
  command : String
  args : List String
  env : List (String × String)
  sessionId : String
  warnings : List String
  deriving DecidableEq

/-- A session that is known to exist is resumed. -/
def SessionSource.mode : SessionSource → SessionMode
  | .continueLast | .resumeId => .resume
  | .explicitId | .generated => .initial

/-- The environment of either mode, before anything extra. -/
def buildEnv (host : Host) (isCopilot : Bool) (proxyUrl proxyEnvVar sessionToken : String)
    (settings : ClaudeSettingsManager) (shim : Option TeammateShim) (isPassthrough : Bool)
    (copilotProviderType : String) : EnvSet :=
  let env : EnvSet :=
    if isCopilot then EnvSet.withCopilotEnv host {} proxyUrl sessionToken copilotProviderType
    else
      let env := ({} : EnvSet).withProxyUrlForMode proxyUrl proxyEnvVar
      (env.withAuthBypass isPassthrough).withSessionToken sessionToken
  (env.withSettings settings).withShim host shim

def buildSpawnParams (host : Host) (rawArgs : List String) (proxyUrl proxyEnvVar command sessionToken : String)
    (settings : ClaudeSettingsManager) (shim : Option TeammateShim) (proxyPort : Option UInt16) (isPassthrough : Bool)
    (copilotProviderType : String) : SpawnParams :=
  let classified := classify rawArgs flagRegistry
  let session := resolveSession host classified.args
  let isCopilot := proxyEnvVar == "COPILOT_API_URL"
  let env := buildEnv host isCopilot proxyUrl proxyEnvVar sessionToken settings shim isPassthrough copilotProviderType
  let assembler := (ArgAssembler.fromPassthrough classified.args).withCopilotMode isCopilot
  let assembler := (assembler.withSession session session.source.mode).withSettings settings
  let assembler := assembler.withTeammateMode shim
  let assembler := (proxyPort.map assembler.withSubagentHooks).getD assembler
  { command := command, args := assembler.args, env := env.vars, sessionId := session.sessionId
    warnings := classified.warnings ++ session.warnings }

/-- The variables and the arguments that a settings restart adds come last. -/
def buildRestartParams (host : Host) (rawArgs : List String) (proxyUrl proxyEnvVar command sessionToken : String)
    (settings : ClaudeSettingsManager) (shim : Option TeammateShim) (extraEnv : List (String × String))
    (extraArgs : List String) (proxyPort : Option UInt16) (isPassthrough : Bool) (copilotProviderType : String) :
    SpawnParams :=
  let classified := classify rawArgs flagRegistry
  let session := resolveSession host classified.args
  let isCopilot := proxyEnvVar == "COPILOT_API_URL"
  let env := buildEnv host isCopilot proxyUrl proxyEnvVar sessionToken settings shim isPassthrough copilotProviderType
  let env := env.withExtra extraEnv
  let assembler := (ArgAssembler.fromPassthrough classified.args).withCopilotMode isCopilot
  let assembler := (assembler.withSession session session.source.mode).withSettings settings
  let assembler := assembler.withTeammateMode shim
  let assembler := (proxyPort.map assembler.withSubagentHooks).getD assembler
  let assembler := assembler.withExtra extraArgs
  { command := command, args := assembler.args, env := env.vars, sessionId := session.sessionId
    warnings := classified.warnings ++ session.warnings }

end Anycode.Args
