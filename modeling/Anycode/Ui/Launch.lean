import Anycode.Args.Selectors

/-!
# Launching and restarting the process

How `ui/runtime.rs` uses the session that the first spawn resolved: in the name of the debug log,
and for Ctrl+R.
-/

namespace Anycode.Ui
open Args Config Data

/-- The text before the last dot, and the text behind it. -/
def rfindDot (path : List Char) : Option (List Char × List Char) :=
  match path.reverse.dropWhile (· ≠ '.') with
  | [] => none
  | _ :: stem => some (stem.reverse, (path.reverse.takeWhile (· ≠ '.')).reverse)

/-- `debug.log` is `debug.{session_id}.log`. -/
def sessionLogPath (filePath sessionId : String) : String :=
  if sessionId = "" then filePath
  else
    match rfindDot filePath.toList with
    | some (stem, extension) => String.ofList stem ++ "." ++ sessionId ++ "." ++ String.ofList extension
    | none => filePath ++ "." ++ sessionId

/-- Ctrl+R: `--resume` with the session that the first spawn resolved. -/
def restartClaude (host : Host) (rawArgs : List String) (cliMode : CliMode) (proxyUrl command sessionToken : String)
    (settings : ClaudeSettingsManager) (shim : Option TeammateShim) (proxyPort : UInt16) (isPassthrough : Bool)
    (wireApi currentSessionId : String) : SpawnParams :=
  let classified := classify rawArgs flagRegistry
  let env := buildEnv host cliMode.isCopilot proxyUrl cliMode.proxyEnvVar sessionToken settings shim isPassthrough wireApi
  let assembler := (ArgAssembler.fromPassthrough classified.args).withCopilotMode cliMode.isCopilot
  let assembler := (assembler.withSessionResume currentSessionId).withSettings settings
  let assembler := (assembler.withTeammateMode shim).withSubagentHooks proxyPort
  { command := command, args := assembler.args, env := env.vars, sessionId := currentSessionId
    warnings := classified.warnings }

/-- The id of a spawn is the session of the process, of its log and of its restarts. -/
structure TracksSession (host : Host) (rawArgs : List String) (spawn : SpawnParams) : Prop where
  selected : spawn.SelectsSession
  logged : ∀ filePath, spawn.sessionId.toList <:+: (sessionLogPath filePath spawn.sessionId).toList
  restarted : ∀ proxyUrl command sessionToken settings shim proxyPort isPassthrough wireApi,
    SelectsOnce (restartClaude host rawArgs .claude proxyUrl command sessionToken settings shim proxyPort isPassthrough
      wireApi spawn.sessionId).args spawn.sessionId

theorem sessionLogPath_names (filePath sessionId : String) :
    sessionId.toList <:+: (sessionLogPath filePath sessionId).toList := by
  unfold sessionLogPath
  split
  · rename_i empty
    rw [empty]
    exact List.nil_infix
  · split
    · rename_i stem extension _
      refine ⟨(String.ofList stem ++ ".").toList, ("." ++ String.ofList extension).toList, ?_⟩
      simp only [String.toList_append, List.append_assoc]
    · refine ⟨(filePath ++ ".").toList, [], ?_⟩
      simp only [String.toList_append, List.append_nil]

theorem selectsOnce_restartClaude (host : Host) (rawArgs : List String) (proxyUrl command sessionToken : String)
    (settings : ClaudeSettingsManager) (shim : Option TeammateShim) (proxyPort : UInt16) (isPassthrough : Bool)
    (wireApi currentSessionId : String) :
    SelectsOnce (restartClaude host rawArgs .claude proxyUrl command sessionToken settings shim proxyPort isPassthrough
      wireApi currentSessionId).args currentSessionId ↔ ∀ arg ∈ rawArgs, ¬ EqualsSpelled arg := by
  let classified := (classify rawArgs flagRegistry).args
  have selected := assembled_withSessionResume (ArgAssembler.fromPassthrough classified) rfl currentSessionId
  have assembled := ((selected.withSettings settings).withTeammateMode shim).withSubagentHooks proxyPort
  exact selectsOnce_of_assembled assembled

/-- Only the `=` spelling of a session flag gets past the classifier. -/
theorem tracksSession_iff (host : Host) (rawArgs : List String) (proxyUrl command sessionToken : String)
    (settings : ClaudeSettingsManager) (shim : Option TeammateShim) (proxyPort : Option UInt16) (isPassthrough : Bool)
    (copilotProviderType : String) :
    TracksSession host rawArgs (buildSpawnParams host rawArgs proxyUrl CliMode.claude.proxyEnvVar command sessionToken
      settings shim proxyPort isPassthrough copilotProviderType) ↔ ∀ arg ∈ rawArgs, ¬ EqualsSpelled arg := by
  have once := selectsOnce_buildSpawnParams host rawArgs proxyUrl command sessionToken settings shim proxyPort
    isPassthrough copilotProviderType
  constructor
  · intro tracks
    exact once.mp tracks.selected
  · intro none
    refine ⟨once.mpr none, fun filePath => sessionLogPath_names filePath _, ?_⟩
    intro proxyUrl command sessionToken settings shim proxyPort isPassthrough wireApi
    exact (selectsOnce_restartClaude _ _ _ _ _ _ _ _ _ _ _).mpr none

def bareHost : Host where
  homeDir := none
  currentDir := none
  readToString _ := none
  fromStr _ := none
  var _ := none
  newV4 := "new"

/-- `anycode --resume=old` asks for the old session and for a new one. -/
theorem resume_with_equals_forwarded :
    ¬ TracksSession bareHost ["--resume=old"]
      (buildSpawnParams bareHost ["--resume=old"] "http://127.0.0.1:47190" CliMode.claude.proxyEnvVar "claude" "token"
        .new none none false "anthropic") := by
  intro tracks
  obtain ⟨flag, once⟩ := tracks.selected
  have both : selectors (buildSpawnParams bareHost ["--resume=old"] "http://127.0.0.1:47190"
      CliMode.claude.proxyEnvVar "claude" "token" .new none none false "anthropic").args =
        [⟨"--resume", some "old"⟩, ⟨"--session-id", some "new"⟩] := by decide
  rw [both] at once
  have counted : 2 = 1 := congrArg List.length once
  omega

end Anycode.Ui
