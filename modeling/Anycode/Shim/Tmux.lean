import Anycode.Data.Words
import Anycode.Pipeline.ModelRewrite

/-!
# The tmux shim

The script of `shim/tmux.rs` that stands before `tmux` in the `PATH`, from its arguments to those
of the real `tmux`. The log of the script and the search for the real `tmux` are left out.
-/

namespace Anycode.Shim
open Data Pipeline

def baseUrlName : List Char := "ANTHROPIC_BASE_URL=".toList

def headersName : List Char := "ANTHROPIC_CUSTOM_HEADERS=".toList

def agentFlag : List Char := "--agent-id".toList

def sendKeys : List Char := "send-keys".toList

/-! ### Tools of the script -/

/-- A text, in front of `[^ ]*` where `value` is set. -/
structure Pattern where
  text : List Char
  value : Bool

def replaceFirst (pattern : Pattern) (replacement line : List Char) : List Char :=
  match breakAt pattern.text line with
  | none => line
  | some (before, after) => before ++ replacement ++ (if pattern.value then after.dropWhile (· != ' ') else after)

def replaceLines (pattern : Pattern) (replacement text : List Char) : List Char :=
  ['\n'].intercalate ((text.splitOn '\n').map (replaceFirst pattern replacement))

/-- A replacement without the characters that `sed` reads as its own. -/
def Verbatim (replacement : List Char) : Prop := ∀ c ∈ replacement, c ≠ '&' ∧ c ≠ '\\' ∧ c ≠ '|' ∧ c ≠ '\n'

instance (replacement : List Char) : Decidable (Verbatim replacement) :=
  List.decidableBAll _ replacement

/-- `sed "s|pattern|replacement|"`, which replaces the first match of each line. -/
structure Sed where
  substitute : Pattern → List Char → List Char → List Char
  verbatim : ∀ pattern replacement text, Verbatim replacement →
    substitute pattern replacement text = replaceLines pattern replacement text

/-- `$(..)` drops line feeds at the end. -/
def commandOutput (text : List Char) : List Char := (text.reverse.dropWhile (· == '\n')).reverse

/-- The first match of `--agent-id [^ ]+` in a line, without the flag. -/
def extractAgentId : List Char → List Char
  | [] => []
  | c :: rest =>
    match stripPrefix (agentFlag ++ [' ']) (c :: rest) with
    | none => extractAgentId rest
    | some after =>
      let agentId := after.takeWhile fun c => c != ' ' && c != '\n'
      if agentId.isEmpty then extractAgentId rest else agentId

/-! ### The script -/

/-- The script with the values that `install` puts into it. -/
structure TmuxShim where
  port : Nat
  sessionToken : List Char

namespace TmuxShim

/-- The base URL without its scheme and host. -/
def teammatePath (agentId : List Char) : List Char := "/teammate/".toList ++ agentId

def proxyUrl (shim : TmuxShim) : List Char := "http://127.0.0.1:".toList ++ Nat.toDigits 10 shim.port

def injectUrl (shim : TmuxShim) (agentId : List Char) : List Char :=
  baseUrlName ++ (shim.proxyUrl ++ teammatePath agentId)

def tokenHeader (shim : TmuxShim) : List Char := "x-session-token:".toList ++ shim.sessionToken

def injectHeaders (shim : TmuxShim) : List Char := headersName ++ shim.tokenHeader

/-- The body that is posted to `/api/teammate-start`. -/
def registration (agentId : List Char) : List Char := "\x7b\"agent_id\":\"".toList ++ agentId ++ "\"\x7d".toList

def register (agentId : List Char) : List (List Char) := if agentId.isEmpty then [] else [registration agentId]

variable (sed : Sed)

def stripHeaders (arg : List Char) : List Char :=
  if headersName <:+: arg then commandOutput (sed.substitute ⟨headersName, true⟩ [] arg) else arg

def replaceUrl (shim : TmuxShim) (agentId arg : List Char) : List Char :=
  let injection := shim.injectUrl agentId ++ ' ' :: shim.injectHeaders
  if baseUrlName <:+: arg then commandOutput (sed.substitute ⟨baseUrlName, true⟩ injection arg)
  else commandOutput (sed.substitute ⟨agentFlag, false⟩ (injection ++ ' ' :: agentFlag) arg)

def inject (shim : TmuxShim) (arg : List Char) : List Char := shim.replaceUrl sed (extractAgentId arg) (stripHeaders sed arg)

def spawns (arg : List Char) : Bool := decide (agentFlag ++ [' '] <:+: arg)

/-- The variables of the loop, and the bodies that have been posted. -/
structure Loop where
  hasSendKeys : Bool := false
  injected : Bool := false
  args : List (List Char) := []
  posted : List (List Char) := []

def Loop.step (shim : TmuxShim) (loop : Loop) (arg : List Char) : Loop :=
  if arg = sendKeys then { loop with hasSendKeys := true, args := loop.args ++ [arg] }
  else if loop.hasSendKeys && !loop.injected && spawns arg then
    { loop with
      injected := true
      args := loop.args ++ [shim.inject sed arg]
      posted := loop.posted ++ register (extractAgentId arg) }
  else { loop with args := loop.args ++ [arg] }

/-- What is posted, and the arguments of the real `tmux`. -/
def exec (shim : TmuxShim) (args : List (List Char)) : List (List Char) × List (List Char) :=
  let loop := args.foldl (Loop.step sed shim) {}
  (loop.posted, if loop.injected then loop.args else args)

end TmuxShim

end Anycode.Shim
