import Anycode.Backend.Agents
import Anycode.Data.Text
import Anycode.Pipeline.Provenance

/-!
# Backend resolution

Stage 2 of the pipeline (`pipeline/routing.rs`): the sources of a backend id in the order of
their priority, and the scan for the marker of a subagent.
-/

namespace Anycode.Pipeline
open Data Config

namespace Routing

inductive ProxyError where
  | subagentNotRegistered (id : List Char)
  | backendNotFound (error : BackendError)
  deriving DecidableEq

def hookContextPrefix : List Char := "SubagentStart hook additional context:".toList

def maxMessagesToScan : Nat := 3

def isIdChar (c : Char) : Bool := c.isDigit || ('a' ≤ c && c ≤ 'f') || ('A' ≤ c && c ≤ 'F') || c == '-' || c == '_'

def parseMarker (s : List Char) : Option (List Char) :=
  (afterFirst AgentRegistry.markerPrefix s).bind fun rest =>
    if rest.contains AgentRegistry.markerSuffix then
      let id := rest.takeWhile fun c => c != AgentRegistry.markerSuffix
      if !id.isEmpty && id.all isIdChar then some id else none
    else none

def parseMarkerInHookContext (s : List Char) : Option (List Char) :=
  (afterFirst hookContextPrefix s).bind parseMarker

/-- The texts of a message that are scanned: those of a user message only. -/
def scannedTexts (msg : Json) : List (List Char) :=
  if msg.strAt "role" != some "user" then []
  else
    match msg.get "content" with
    | some (.string s) => [s.toList]
    | some (.array blocks) => blocks.filterMap fun block => (block.strAt "text").map String.toList
    | _ => []

def extractAcMarker (body : Json) : Option (List Char) :=
  ((body.arrayAt "messages").getD []).take maxMessagesToScan |>.findSome? fun msg =>
    (scannedTexts msg).findSome? parseMarkerInHookContext

/-- `marker-` and `anycode-` prefixes in this order, then the name of a backend itself. -/
def detectMarkerModel (model : String) (state : BackendState) : Option String :=
  let stripped := ["marker-", "anycode-"].filterMap fun marker =>
    (stripPrefix marker.toList model.toList).map String.ofList
  match stripped.find? state.config.hasBackend with
  | some rest => some rest
  | none => if state.config.hasBackend model then some model else none

/-- The backend id, by priority; `none` is the active backend. -/
def routingTarget (state : BackendState) (backendOverride pluginOverride : Option String) (parsedBody : Option Json)
    (registry : AgentRegistry) : Except ProxyError (Option String) :=
  match pluginOverride with
  | some backend => .ok (some backend)
  | none =>
    match backendOverride with
    | some backend => .ok (some backend)
    | none =>
      match if registry.isEmpty then none else parsedBody.bind extractAcMarker with
      | some id =>
        match registry.lookup id with
        | some backend => .ok (some backend)
        | none => .error (.subagentNotRegistered id)
      | none => .ok ((parsedBody.bind fun body => body.strAt "model").bind fun model => detectMarkerModel model state)

def resolveBackend (state : BackendState) (backendOverride pluginOverride : Option String) (parsedBody : Option Json)
    (registry : AgentRegistry) : Except ProxyError Backend :=
  match routingTarget state backendOverride pluginOverride parsedBody registry with
  | .error e => .error e
  | .ok target =>
    match Pipeline.resolveBackend state target with
    | .ok backend => .ok backend
    | .error e => .error (.backendNotFound e)

end Routing

end Anycode.Pipeline
