import Anycode.Thinking.Live

/-!
# The thread-safe wrapper and its per-request handle

`TransformerRegistry` is one registry behind a mutex, so concurrent requests are interleavings
of whole calls; the registry is passed as a state here. A `ThinkingSession` is the handle a
request holds from `begin_request` to the end of its response.
-/

namespace Anycode.Thinking
open Data

/-- The handle of a request; the registry it shares with the others is not part of it. -/
structure ThinkingSession where
  sessionId : Nat
  deriving DecidableEq

inductive Reply where
  | json (response : Option Json)
  | sse (events : List SseEvent)

def Reply.contents : Reply → List String
  | .json response => ThinkingRegistry.responseContents response
  | .sse events => ThinkingRegistry.sseContents events

namespace ThinkingRegistry
variable {H : Type}

def beginRequest (r : ThinkingRegistry H) (backend : String) : ThinkingRegistry H × ThinkingSession :=
  let r := r.onBackendSwitch backend
  (r, { sessionId := r.currentSession })

def notifyBackendSwitch (r : ThinkingRegistry H) (backend : String) : ThinkingRegistry H :=
  r.onBackendSwitch backend

end ThinkingRegistry

namespace ThinkingSession
variable {H : Type} [DecidableEq H] (fastHash : String → H)

/-- `filter` locks the registry and calls `filter_request`; the captured id plays no part. -/
def filter (_session : ThinkingSession) (r : ThinkingRegistry H) (body : Json) (now : Nat) :
    ThinkingRegistry.Filtered H :=
  r.filterRequest fastHash body now

def registerFromSse (session : ThinkingSession) (r : ThinkingRegistry H) (events : List SseEvent)
    (now : Nat) : ThinkingRegistry H :=
  r.registerFromSseStream fastHash events session.sessionId now

/-- An empty or unparsable body returns early, as `none` does here. -/
def registerFromResponse (session : ThinkingSession) (r : ThinkingRegistry H) (response : Option Json)
    (now : Nat) : ThinkingRegistry H :=
  r.registerFromResponse fastHash response session.sessionId now

def register (session : ThinkingSession) (r : ThinkingRegistry H) (reply : Reply) (now : Nat) :
    ThinkingRegistry H :=
  match reply with
  | .json response => session.registerFromResponse fastHash r response now
  | .sse events => session.registerFromSse fastHash r events now

theorem register_eq (session : ThinkingSession) (r : ThinkingRegistry H) (reply : Reply) (now : Nat) :
    session.register fastHash r reply now =
      r.registerBlocks fastHash reply.contents session.sessionId now := by
  cases reply with
  | json response => rfl
  | sse events => exact ThinkingRegistry.registerFromSseStream_eq fastHash r events session.sessionId now

end ThinkingSession

end Anycode.Thinking
