import Anycode.Data.Run
import Anycode.Data.Table
import Anycode.Thinking.Body

/-!
# The thinking registry

`ThinkingRegistry` tracks which thinking blocks belong to which session. A block is known by
the hash of its content; `fastHash` stands for the source's `fast_hash` and is arbitrary.
Instants and durations are numbers of ticks, and each operation reads the clock once. The
session counter is a `u64` in the source and advances by one per backend switch.
-/

namespace Anycode.Thinking
open Data

structure BlockInfo where
  session : Nat
  confirmed : Bool
  registeredAt : Nat
  deriving DecidableEq

structure ThinkingRegistry (H : Type) where
  currentSession : Nat
  currentBackend : String
  blocks : Table H BlockInfo
  orphanThreshold : Nat

structure SseEvent where
  eventType : String
  data : Json

abbrev Accumulators := Assoc UInt64 String

def SseEvent.index (event : SseEvent) : Option UInt64 := (event.data.get "index").bind Json.asU64

/-- One event of the stream: the accumulators after it, and the block it completes. -/
def sseEvent (accumulators : Accumulators) (event : SseEvent) : Accumulators × Option String :=
  if event.eventType = "content_block_start" then
    match event.data.get "content_block" with
    | none => (accumulators, none)
    | some block =>
      if block.strAt "type" = some "thinking" then
        match event.index with
        | some index => (accumulators.insert index ((block.strAt "thinking").getD ""), none)
        | none => (accumulators, none)
      else if block.strAt "type" = some "redacted_thinking" then (accumulators, block.strAt "data")
      else (accumulators, none)
  else if event.eventType = "content_block_delta" then
    match event.data.get "delta" with
    | none => (accumulators, none)
    | some delta =>
      if delta.strAt "type" = some "thinking_delta" then
        match event.index, delta.strAt "thinking" with
        | some index, some thinking => (accumulators.modify index (· ++ thinking), none)
        | _, _ => (accumulators, none)
      else (accumulators, none)
  else if event.eventType = "content_block_stop" then
    match event.index with
    | none => (accumulators, none)
    | some index =>
      match accumulators.find index with
      | none => (accumulators, none)
      | some text => (accumulators.erase index, if text.isEmpty then none else some text)
  else (accumulators, none)

namespace ThinkingRegistry
variable {H : Type}

def withOrphanThreshold (threshold : Nat) : ThinkingRegistry H :=
  { currentSession := 0, currentBackend := "", blocks := .empty, orphanThreshold := threshold }

def defaultOrphanThreshold : Nat := 300

def new : ThinkingRegistry H := withOrphanThreshold defaultOrphanThreshold

def onBackendSwitch (r : ThinkingRegistry H) (newBackend : String) : ThinkingRegistry H :=
  if r.currentBackend ≠ newBackend then
    { r with currentSession := r.currentSession + 1, currentBackend := newBackend }
  else r

variable [DecidableEq H] (fastHash : String → H)

def registerBlock (r : ThinkingRegistry H) (content : String) (sessionId now : Nat) : ThinkingRegistry H :=
  let hash := fastHash content
  let registered := { r with blocks := r.blocks.insert hash ⟨sessionId, false, now⟩ }
  match r.blocks.get hash with
  | some existing => if existing.session = sessionId then r else registered
  | none => registered

def registerBlocks (r : ThinkingRegistry H) (contents : List String) (sessionId now : Nat) :
    ThinkingRegistry H :=
  contents.foldl (fun r content => r.registerBlock fastHash content sessionId now) r

/-- The contents that `register_from_response` extracts; `none` is a body that does not parse. -/
def responseContents (response : Option Json) : List String :=
  match response with
  | none => []
  | some json =>
    match json.arrayAt "content" with
    | none => []
    | some content => content.filterMap extractThinkingContent

def registerFromResponse (r : ThinkingRegistry H) (response : Option Json) (sessionId now : Nat) :
    ThinkingRegistry H :=
  r.registerBlocks fastHash (responseContents response) sessionId now

def sseLoop (sessionId now : Nat) (r : ThinkingRegistry H) (accumulators : Accumulators) :
    List SseEvent → ThinkingRegistry H × Accumulators
  | [] => (r, accumulators)
  | event :: rest =>
    let (accumulators, block) := sseEvent accumulators event
    match block with
    | some content => sseLoop sessionId now (r.registerBlock fastHash content sessionId now) accumulators rest
    | none => sseLoop sessionId now r accumulators rest

def remainingContents (accumulators : Accumulators) : List String :=
  (accumulators.map Prod.snd).filter (fun text => !text.isEmpty)

def registerFromSseStream (r : ThinkingRegistry H) (events : List SseEvent) (sessionId now : Nat) :
    ThinkingRegistry H :=
  let (r, accumulators) := sseLoop fastHash sessionId now r [] events
  r.registerBlocks fastHash (remainingContents accumulators) sessionId now

def extractRequestHashes (body : Json) : List H := (requestContents body).map fastHash

def confirmBlocks (r : ThinkingRegistry H) (requestHashes : List H) : ThinkingRegistry H :=
  { r with
    blocks := r.blocks.adjust fun hash info =>
      if hash ∈ requestHashes ∧ info.session = r.currentSession ∧ info.confirmed = false then
        { info with confirmed := true }
      else info }

omit [DecidableEq H] in
def cleanupOldSessions (r : ThinkingRegistry H) : ThinkingRegistry H :=
  { r with blocks := r.blocks.retain fun _ info => info.session == r.currentSession }

def cleanupCache (r : ThinkingRegistry H) (requestHashes : List H) (now : Nat) : ThinkingRegistry H :=
  if requestHashes.isEmpty then r.cleanupOldSessions
  else
    { r with
      blocks := r.blocks.retain fun hash info =>
        -- Rule 1: old session.
        if info.session ≠ r.currentSession then false
        -- Rule 2: confirmed but not in the request.
        else if info.confirmed = true ∧ hash ∉ requestHashes then false
        -- Rule 3: unconfirmed, not in the request, and old.
        else if info.confirmed = false ∧ hash ∉ requestHashes then
          !decide (r.orphanThreshold < now - info.registeredAt)
        else true }

/-- The verdict of `filter_request_body` on one content item. -/
def keepsItem (r : ThinkingRegistry H) (item : Json) : Bool :=
  if isThinkingItem item then
    match extractThinkingContent item with
    | none => false
    | some content => (r.blocks.get (fastHash content)).isSome
  else true

def filterRequestBody (r : ThinkingRegistry H) (body : Json) : Json × UInt32 :=
  retainContent (r.keepsItem fastHash) body

structure Filtered (H : Type) where
  registry : ThinkingRegistry H
  body : Json
  removed : UInt32

def filterRequest (r : ThinkingRegistry H) (body : Json) (now : Nat) : Filtered H :=
  let requestHashes := extractRequestHashes fastHash body
  let confirmed := r.confirmBlocks requestHashes
  let cleaned :=
    if hasAssistantMessages body then confirmed.cleanupCache requestHashes now
    else confirmed.cleanupOldSessions
  let (body, removed) := cleaned.filterRequestBody fastHash body
  { registry := cleaned, body := body, removed := removed }

/-! ### The registry as a state machine -/

inductive Call where
  | onBackendSwitch (newBackend : String)
  | registerFromResponse (response : Option Json) (sessionId now : Nat)
  | registerFromSseStream (events : List SseEvent) (sessionId now : Nat)
  | filterRequest (body : Json) (now : Nat)

def call (r : ThinkingRegistry H) : Call → ThinkingRegistry H
  | .onBackendSwitch newBackend => r.onBackendSwitch newBackend
  | .registerFromResponse response sessionId now => r.registerFromResponse fastHash response sessionId now
  | .registerFromSseStream events sessionId now => r.registerFromSseStream fastHash events sessionId now
  | .filterRequest body now => (r.filterRequest fastHash body now).registry

end ThinkingRegistry

end Anycode.Thinking
