import Anycode.Args.Environment

/-!
# Argument assembler

`args/assembler.rs`: the arguments of the spawned process, from the classified ones on.
-/

namespace Anycode.Args
open Config Data

inductive SessionMode where
  | initial
  | resume
  deriving DecidableEq

structure ArgAssembler where
  args : List String := []
  copilotMode : Bool := false
  deriving DecidableEq

/-- What a classified argument is forwarded as. -/
def ClassifiedArg.forwarded : ClassifiedArg → List String
  | .knownPassthrough flag value => flag :: value.toList
  | .unknownPassthrough arg => [arg]
  | .positional arg => [arg]
  | .wrapperOwned _ _ | .intercepted _ _ => []

/-- `--session-id` goes with the argument behind it, whatever that is. -/
def stripClaudeOnlyFlags (args : List String) : List String :=
  (scan (fun arg _ => arg == "--session-id") (fun arg _ => if arg = "--session-id" then [] else [arg]) args).flatten

/-- A hook that posts its input to the proxy. -/
def hookJson (event path port : String) : String :=
  "\"" ++ event ++ "\":[\x7b\"matcher\":\"\",\"hooks\":[\x7b\"type\":\"command\",\"command\":\"curl -s -m 5 -X POST " ++
    "http://127.0.0.1:" ++ port ++ "/api/" ++ path ++ " -d @- -H 'Content-Type: application/json'\"\x7d]\x7d]"

def hooksJson (proxyPort : UInt16) : String :=
  let port := toString proxyPort.toNat
  "\x7b\"hooks\":\x7b" ++ hookJson "SubagentStart" "subagent-start" port ++ "," ++
    hookJson "SubagentStop" "subagent-stop" port ++ "\x7d\x7d"

namespace ArgAssembler

def fromPassthrough (classified : List ClassifiedArg) : ArgAssembler :=
  { args := classified.flatMap ClassifiedArg.forwarded }

def extend (assembler : ArgAssembler) (args : List String) : ArgAssembler :=
  { assembler with args := assembler.args ++ args }

def withCopilotMode (assembler : ArgAssembler) (enabled : Bool) : ArgAssembler :=
  { copilotMode := enabled, args := if enabled then stripClaudeOnlyFlags assembler.args else assembler.args }

/-- Copilot assigns the id of a fresh session itself. -/
def withSession (assembler : ArgAssembler) (session : SessionResolution) (mode : SessionMode) : ArgAssembler :=
  if assembler.copilotMode then
    if mode = .resume then assembler.extend ["--resume=" ++ session.sessionId] else assembler
  else
    match mode with
    | .initial => assembler.extend ["--session-id", session.sessionId]
    | .resume => assembler.extend ["--resume", session.sessionId]

def withSessionResume (assembler : ArgAssembler) (sessionId : String) : ArgAssembler :=
  if assembler.copilotMode then assembler.extend ["--resume=" ++ sessionId]
  else assembler.extend ["--resume", sessionId]

def withSettings (assembler : ArgAssembler) (settings : ClaudeSettingsManager) : ArgAssembler :=
  assembler.extend settings.toCliArgs

def withTeammateMode (assembler : ArgAssembler) (shim : Option TeammateShim) : ArgAssembler :=
  if assembler.copilotMode then assembler
  else if shim.isSome then assembler.extend ["--teammate-mode", "tmux"]
  else assembler

def withSubagentHooks (assembler : ArgAssembler) (proxyPort : UInt16) : ArgAssembler :=
  if assembler.copilotMode then assembler else assembler.extend ["--settings", hooksJson proxyPort]

def withExtra (assembler : ArgAssembler) (extra : List String) : ArgAssembler := assembler.extend extra

end ArgAssembler

end Anycode.Args
