import Anycode.Backend.Closed
import Anycode.Pipeline.Routing

/-!
# The engine behind the router

Hooks, backend changes and requests, one after the other, over the state that they share. A
request is what `proxy_handler` gets: on the teammate pipeline the path has lost `/teammate`.
-/

namespace Anycode.Proxy
open Data Config Thinking Pipeline

structure Engine (H : Type) where
  hooks : HookState
  thinking : ThinkingRegistry H := .new

structure Uri where
  path : List Char
  query : Option (List Char) := none
  deriving DecidableEq

structure ProxyRequest where
  isTeammate : Bool
  uri : Uri
  bodyBytes : List UInt8
  isJson : Bool
  pluginOverride : Option String := none
  now : Nat
  reply : Option (Reply × Nat)

inductive Event where
  | subagentStart (agentId : Option (List Char))
  | subagentStop (agentId : Option (List Char))
  | teammateStart (agentId : List Char)
  | setSubagentBackend (backend : Option String)
  | setTeammateBackend (backend : Option String)
  | switchBackend (backendId : String)
  | updateConfig (newConfig : CliProfile)
  | request (req : ProxyRequest)

def ProxyRequest.parsedBody (req : ProxyRequest) (serde : Serde) : Option Json :=
  if req.isJson then serde.fromSlice req.bodyBytes else none

/-! ### The handler -/

def agentCandidate (path : List Char) : Option (List Char) :=
  ((stripPrefix ['/'] path).map fun rest => rest.takeWhile fun c => c != '/').filter fun segment => !segment.isEmpty

def withoutAgent (id path : List Char) : List Char :=
  let newPath := (stripPrefix ('/' :: id) path).getD path
  if newPath.isEmpty then ['/'] else newPath

/-- The override of a request, and the URI that the pipeline gets. No layer inserts the extension
that would override the backend of a main request. -/
def teammateRoute (hooks : HookState) (req : ProxyRequest) : Option String × Uri :=
  if req.isTeammate then
    match agentCandidate req.uri.path with
    | some id =>
      let uri := { req.uri with path := withoutAgent id req.uri.path }
      match hooks.registry.lookup id with
      | some backend => (some backend, uri)
      | none => (hooks.teammateBackend, uri)
    | none => (hooks.teammateBackend, req.uri)
  else (none, req.uri)

namespace Engine
variable {H : Type} [DecidableEq H] (fastHash : String → H) (serde : Serde)

def resolved (e : Engine H) (req : ProxyRequest) : Except Routing.ProxyError Backend :=
  Routing.resolveBackend e.hooks.backendState (teammateRoute e.hooks req).1 req.pluginOverride (req.parsedBody serde)
    e.hooks.registry

/-- Stage 3: a request with a backend override gets no thinking session. -/
def createThinking (e : Engine H) (backend : Backend) (isTeammate : Bool) :
    ThinkingRegistry H × Option ThinkingSession :=
  if isTeammate then (e.thinking, none)
  else
    let begun := e.thinking.beginRequest backend.name
    (begun.1, some begun.2)

/-- The registry after stages 3 to 7. -/
def executePipeline (e : Engine H) (backend : Backend) (backendOverride : Option String) (req : ProxyRequest) :
    ThinkingRegistry H :=
  let isTeammate := backendOverride.isSome
  let (begun, session) := e.createThinking backend isTeammate
  let (filtered, _) := transformBody fastHash serde req.bodyBytes (req.parsedBody serde) backend session begun req.now
  match session, req.reply with
  | some session, some (reply, later) => session.register fastHash filtered reply later
  | _, _ => filtered

def step (e : Engine H) : Event → Engine H
  | .subagentStart agentId => { e with hooks := (e.hooks.handleSubagentStart agentId).1 }
  | .subagentStop agentId => { e with hooks := e.hooks.handleSubagentStop agentId }
  | .teammateStart agentId => { e with hooks := (e.hooks.handleTeammateStart agentId).1 }
  | .setSubagentBackend backend => { e with hooks := { e.hooks with subagentBackend := backend } }
  | .setTeammateBackend backend => { e with hooks := { e.hooks with teammateBackend := backend } }
  | .switchBackend backendId =>
    match e.hooks.backendState.switchBackend backendId with
    | .ok backends => { e with hooks := { e.hooks with backendState := backends } }
    | .error _ => e
  | .updateConfig newConfig =>
    match e.hooks.backendState.updateConfig newConfig with
    | .ok backends => { e with hooks := { e.hooks with backendState := backends } }
    | .error _ => e
  | .request req =>
    match e.resolved serde req with
    | .ok backend => { e with thinking := e.executePipeline fastHash serde backend (teammateRoute e.hooks req).1 req }
    | .error _ => e

/-! ### Teammates and the thinking registry -/

/-- The request leaves the registry as it was, and all its thinking blocks are sent. -/
structure Untouched (e : Engine H) (req : ProxyRequest) : Prop where
  registry : (e.step fastHash serde (.request req)).thinking = e.thinking
  blocks : ∀ backend, e.resolved serde req = .ok backend → ∀ body, req.parsedBody serde = some body →
    let (begun, session) := e.createThinking backend (teammateRoute e.hooks req).1.isSome
    thinkingItems (fullyTransformed fastHash backend session begun body req.now) = thinkingItems body

def TeammateUntouched (e : Engine H) : Event → Prop
  | .request req => req.isTeammate = true → e.Untouched fastHash serde req
  | _ => True

/-- A teammate's request names a registered agent, or a teammate backend is set, or the request
is refused for want of a backend. -/
def TeammateRouted (e : Engine H) : Event → Prop
  | .request req =>
    req.isTeammate = true →
      (∃ id backend, agentCandidate req.uri.path = some id ∧ e.hooks.registry.lookup id = some backend) ∨
        e.hooks.teammateBackend.isSome = true ∨ ∃ error, e.resolved serde req = .error error
  | _ => True

theorem teammateRoute_registered {hooks : HookState} {req : ProxyRequest} {id : List Char} {backend : String}
    (teammate : req.isTeammate = true) (candidate : agentCandidate req.uri.path = some id)
    (registered : hooks.registry.lookup id = some backend) :
    teammateRoute hooks req = (some backend, { req.uri with path := withoutAgent id req.uri.path }) := by
  rw [teammateRoute, if_pos teammate, candidate]
  dsimp only
  rw [registered]

theorem teammateRoute_configured {hooks : HookState} {req : ProxyRequest} (teammate : req.isTeammate = true)
    (configured : hooks.teammateBackend.isSome = true) : (teammateRoute hooks req).1.isSome = true := by
  rw [teammateRoute, if_pos teammate]
  cases agentCandidate req.uri.path with
  | none => exact configured
  | some id =>
    dsimp only
    cases hooks.registry.lookup id with
    | none => exact configured
    | some backend => rfl

theorem untouched_of_overridden {e : Engine H} {req : ProxyRequest}
    (overridden : (teammateRoute e.hooks req).1.isSome = true) : e.Untouched fastHash serde req := by
  constructor
  · rw [step]
    cases e.resolved serde req with
    | error _ => rfl
    | ok backend =>
      dsimp only
      rw [executePipeline, overridden, createThinking, if_pos rfl]
      cases req.parsedBody serde with
      | none => rfl
      | some body =>
        dsimp only
        rw [transformBody_some]
        rfl
  · intro backend _ body _
    rw [overridden, createThinking, if_pos rfl]
    dsimp only
    rw [thinkingItems, fullyTransformed_contentItems, thinkingItems]
    congr 1
    exact List.filter_eq_self.mpr fun _ _ => rfl

theorem untouched_of_refused {e : Engine H} {req : ProxyRequest} {error : Routing.ProxyError}
    (refused : e.resolved serde req = .error error) : e.Untouched fastHash serde req := by
  refine ⟨by rw [step, refused], fun backend resolved => ?_⟩
  rw [refused] at resolved
  cases resolved

/-- In every run whose teammate requests are routed, none of them touches the registry. -/
theorem teammates_untouched {e : Engine H} {events : List Event}
    (routed : Along (step fastHash serde) (TeammateRouted serde) e events) :
    Along (step fastHash serde) (TeammateUntouched fastHash serde) e events := by
  refine along_mono (fun e event routed => ?_) routed
  cases event with
  | request req =>
    intro teammate
    rcases routed teammate with ⟨id, backend, candidate, registered⟩ | configured | ⟨error, refused⟩
    · apply untouched_of_overridden
      rw [teammateRoute_registered teammate candidate registered]
      rfl
    · exact untouched_of_overridden fastHash serde (teammateRoute_configured teammate configured)
    · exact untouched_of_refused fastHash serde refused
  | _ => trivial

def started : Engine String := { hooks := { backendState := BackendState.glmOnly } }

def noSerde : Serde := ⟨fun _ => none, fun _ => none⟩

def teammateRequest : ProxyRequest where
  isTeammate := true
  uri := { path := "/a1/v1/messages".toList }
  bodyBytes := []
  isJson := true
  now := 0
  reply := none

def echoedBlock : Json := .object [("signature", .string "sig"), ("thinking", .string "plan"), ("type", .string "thinking")]

def echoedBody : Json :=
  .object [("messages", .array [.object [("content", .array [echoedBlock]), ("role", .string "assistant")]])]

def echoedText : List UInt8 :=
  utf8 ("\x7b\"messages\":[\x7b\"content\":[\x7b\"signature\":\"sig\",\"thinking\":\"plan\",".toList ++
    "\"type\":\"thinking\"\x7d],\"role\":\"assistant\"\x7d]\x7d".toList)

def echoedSerde : Serde := .ofTexts (echoedText, echoedBody) (echoedText, echoedBody)

def echoedRequest : ProxyRequest := { teammateRequest with bodyBytes := echoedText }

/-- A block that the registry does not know is sent. -/
theorem registered_teammate_untouched :
    (echoedRequest.parsedBody echoedSerde = some echoedBody ∧ thinkingItems echoedBody = [echoedBlock]) ∧
      Along (step id echoedSerde) (TeammateUntouched id echoedSerde) started
        [.teammateStart "a1".toList, .request echoedRequest] := by
  refine ⟨⟨Serde.ofTexts_first _ _, rfl⟩, ?_⟩
  refine teammates_untouched id echoedSerde ⟨trivial, fun _ => .inl ⟨"a1".toList, "glm", by decide, ?_⟩, trivial⟩
  decide

/-- An id that no hook registered, without a teammate backend: the request opens a session. -/
theorem unregistered_teammate_touches :
    ¬ ∀ e events, Along (step id noSerde) (TeammateUntouched id noSerde) (e : Engine String) events := by
  intro untouched
  have same := ((untouched started [.request teammateRequest]).1 rfl).registry
  have backends := congrArg ThinkingRegistry.currentBackend same
  exact absurd backends (by decide)

end Engine

end Anycode.Proxy
