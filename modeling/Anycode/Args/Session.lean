import Anycode.Args.Classifier
import Anycode.Data.Json

/-!
# Session resolver

Which session the classified arguments ask for: `resolve_session` of `args/session.rs`, with the
files that `--continue` reads.
-/

namespace Anycode.Args
open Data

/-- What the wrapper finds around it: the files, the variables of its own environment, and the
next random UUID. -/
structure Host where
  homeDir : Option String
  currentDir : Option String
  readToString : String → Option String
  fromStr : String → Option Json
  var : String → Option String
  newV4 : String

inductive SessionSource where
  | explicitId
  | resumeId
  | continueLast
  | generated
  deriving DecidableEq

structure SessionResolution where
  sessionId : String
  source : SessionSource
  warnings : List String
  deriving DecidableEq

/-! ### The last session of the directory -/

def joinPath (path name : String) : String :=
  if path.toList.getLast? = some '/' then path ++ name else path ++ "/" ++ name

def encodeProjectPath (path : String) : String :=
  String.ofList (path.toList.map fun c => if c = '/' then '-' else c)

def readJson (host : Host) (path : String) : Option Json := (host.readToString path).bind host.fromStr

def readSessionFromClaudeJson (host : Host) (home cwd : String) : Option String :=
  (readJson host (joinPath home ".claude.json")).bind fun json =>
    (json.get "projects").bind fun projects =>
      (projects.get cwd).bind fun project => (project.get "lastSessionId").bind Json.asStr

/-- The id and the time of an entry of the index. -/
def indexEntry (entry : Json) : Option (String × String) :=
  (entry.strAt "sessionId").bind fun id => (entry.strAt "modified").map fun modified => (id, modified)

/-- `max_by` on the time: of equal ones the last. -/
def latest : List (String × String) → Option (String × String)
  | [] => none
  | first :: rest => some (rest.foldl (fun best entry => if entry.2 < best.2 then best else entry) first)

def readSessionFromSessionsIndex (host : Host) (home cwd : String) : Option String :=
  let path := [".claude", "projects", encodeProjectPath cwd, "sessions-index.json"].foldl joinPath home
  (readJson host path).bind fun json =>
    (json.arrayAt "entries").bind fun entries => (latest (entries.filterMap indexEntry)).map Prod.fst

def readLastSessionId (host : Host) : Option String :=
  host.homeDir.bind fun home =>
    host.currentDir.bind fun cwd =>
      (readSessionFromClaudeJson host home cwd).or (readSessionFromSessionsIndex host home cwd)

/-! ### The flags -/

/-- What the loop over the intercepted flags has found. -/
structure SessionFlags where
  userSession : Option (String × SessionSource) := none
  sawContinue : Bool := false
  warnings : List String := []

namespace SessionFlags

/-- A flag with an id: the last one counts. -/
def select (flags : SessionFlags) (flag : String) (source : SessionSource) : Option String → SessionFlags
  | none => flags
  | some id =>
    { flags with
      userSession := some (id, source)
      warnings :=
        if flags.userSession.isSome then flags.warnings ++ [flag ++ ": overrides previously specified session flag"]
        else flags.warnings }

def see (flags : SessionFlags) : ClassifiedArg → SessionFlags
  | .intercepted flag value =>
    if flag = "--session-id" then flags.select flag .explicitId value
    else if flag = "--resume" then flags.select flag .resumeId value
    else if flag = "--continue" then { flags with sawContinue := true }
    else flags
  | _ => flags

end SessionFlags

def resolveSession (host : Host) (classified : List ClassifiedArg) : SessionResolution :=
  let flags := classified.foldl SessionFlags.see {}
  match flags.userSession with
  | some (id, source) =>
    { sessionId := id, source := source
      warnings :=
        if flags.sawContinue then
          flags.warnings ++ ["--continue ignored because --session-id/--resume was also specified"]
        else flags.warnings }
  | none =>
    if flags.sawContinue then
      match readLastSessionId host with
      | some id => { sessionId := id, source := .continueLast, warnings := flags.warnings }
      | none =>
        { sessionId := host.newV4, source := .generated
          warnings := flags.warnings ++
            ["--continue: no previous session found for current directory, starting new session"] }
    else { sessionId := host.newV4, source := .generated, warnings := flags.warnings }

end Anycode.Args
