import Anycode.Config.Types
import Anycode.Pipeline.Forward

/-!
# Stage 7

`handle_response`: a streaming response gets the span, any other one is read here. The
registration of thinking blocks is modelled with the registry, the analysis of the response is
left out. Whether the builder of the client's response accepts a list of headers is a parameter.
-/

namespace Anycode.Pipeline
open Data Config Metrics

/-! ### Reverse model mapping of a whole body -/

/-- `model` is written only into a body that has one, which is an object. -/
def reverseModelInResponse (serde : Serde) (bodyBytes : List UInt8) (mapping : ModelMapping) : List UInt8 :=
  match serde.fromSlice bodyBytes with
  | none => bodyBytes
  | some json =>
    if json.strAt "model" = some mapping.backend then
      (serde.toVec (json.insert "model" (.string mapping.original))).getD bodyBytes
    else bodyBytes

/-! ### The stage -/

/-- A stream comes with the model mapping of its rewriter. -/
inductive ClientBody where
  | stream (observed : Metrics.ObservedStream) (modelMapping : Option ModelMapping)
  | bytes (body : List UInt8)

structure ClientResponse where
  status : Nat
  headers : HeaderMap
  body : ClientBody

/-- What the stage finds in its surroundings: the log settings, the idle and other clocks, and
the headers that the response builder accepts. -/
structure ResponseEnv where
  debug : DebugLoggingConfig
  builds : HeaderMap → Bool
  firstByteAt : Nat
  finishedAt : Nat

def isSuccess (status : Nat) : Bool := decide (200 ≤ status ∧ status < 300)

def contentTypeOf (resp : UpstreamResponse) : Option (List Char) :=
  (HeaderMap.get resp.headers "content-type").bind HeaderValue.toStr

def isEventStream (resp : UpstreamResponse) : Bool := (contentTypeOf resp).any fun ct => textContains ct eventStream

/-- A body that may be rewritten loses its `Content-Length`. -/
def keptHeaders (modelMapping : Option ModelMapping) (headers : HeaderMap) : HeaderMap :=
  headers.filter fun header => !(modelMapping.isSome && header.1.text == "content-length")

def previewFor (debug : DebugLoggingConfig) (contentType : Option (List Char)) : Option ResponsePreview :=
  if debug.level = .full then
    let ct := contentType.getD []
    if debug.fullBody then some (.full ct debug.prettyPrint) else ResponsePreview.new debug.bodyPreviewBytes.toNat ct
  else none

def errorPreview (body : List UInt8) : Except Panic (List Char) :=
  let preview := fromUtf8Lossy body
  if byteLen preview > 1000 then (sliceTo preview 1000).map (· ++ "...[truncated]".toList) else .ok preview

def withHeaderPreview (debug : DebugLoggingConfig) (headers : HeaderMap) (span : RequestSpan) : RequestSpan :=
  if debug.level = .full && debug.headerPreview then
    span.updateMeta fun previous => { previous with headers := some (redactHeaders headers) }
  else span

section
variable (serde : SerdePretty) (env : ResponseEnv)

def bodyPreview (contentType : Option (List Char)) (body : List UInt8) (span : RequestSpan) :
    Except Panic RequestSpan :=
  if env.debug.level = .full then
    let limit := if env.debug.fullBody then none else some env.debug.bodyPreviewBytes.toNat
    (redactBody serde body (contentType.getD []) limit env.debug.prettyPrint).map fun value =>
      span.updateMeta fun previous => { previous with bodyPreview := value }
  else .ok span

/-- The streaming path. A response that cannot be built drops the stream, which hands its span over. -/
def streamResponse (resp : UpstreamResponse) (thinking : Bool) (modelMapping : Option ModelMapping)
    (ctx : PipelineContext) : Except Panic (Staged ClientResponse) :=
  let observed := Metrics.ObservedStream.new ctx.span (previewFor env.debug (contentTypeOf resp))
    (modelMapping.map fun _ => false) thinking
  let headers := keptHeaders modelMapping resp.headers
  if env.builds headers then .ok (.ok ⟨resp.status, headers, .stream observed modelMapping⟩, ctx)
  else
    (observed.drop serde env.finishedAt).map fun dropped =>
      (.error (.http "max size reached"), { ctx with finished := ctx.finished ++ dropped.2 })

def readError : ProxyError := .internal "Failed to read response body"

/-- What is logged of a body: nothing, unless the status is an error. -/
def logErrorBody (status : Nat) (body : List UInt8) : Except Panic (List Char) :=
  if isSuccess status then .ok [] else errorPreview body

/-- The end of the buffered path, with the body at hand. -/
def complete (resp : UpstreamResponse) (modelMapping : Option ModelMapping) (body : List UInt8)
    (ctx : PipelineContext) : Staged ClientResponse :=
  let body := match modelMapping with
    | some mapping => reverseModelInResponse serde.toSerde body mapping
    | none => body
  let ctx := ({ ctx with span := ctx.span.addResponseBytes body.length }.finishRequest env.finishedAt).finalized
  let headers := keptHeaders modelMapping resp.headers
  if env.builds headers then (.ok ⟨resp.status, headers, .bytes body⟩, ctx)
  else (.error (.http "max size reached"), ctx)

def bufferedResponse (resp : UpstreamResponse) (modelMapping : Option ModelMapping) (ctx : PipelineContext) :
    Except Panic (Staged ClientResponse) :=
  let ctx := { ctx with span := ctx.span.markFirstByte env.firstByteAt }
  match resp.body with
  | none => .ok (.error readError, (ctx.finishError ctx.span (some readError.statusCode) env.finishedAt).finalized)
  | some body => do
    let span ← bodyPreview serde env (contentTypeOf resp) body ctx.span
    let _ ← logErrorBody resp.status body
    pure (complete serde env resp modelMapping body { ctx with span := span })

def handleResponse (resp : UpstreamResponse) (thinking : Bool) (modelMapping : Option ModelMapping)
    (ctx : PipelineContext) : Except Panic (Staged ClientResponse) :=
  let ctx := { ctx with span := withHeaderPreview env.debug resp.headers (ctx.span.setStatus resp.status) }
  if isEventStream resp then streamResponse serde env resp thinking modelMapping ctx
  else bufferedResponse serde env resp modelMapping ctx

end

/-- The body could not be read, or the response is completed with it. -/
theorem bufferedResponse_ok {serde : SerdePretty} {env : ResponseEnv} {resp : UpstreamResponse}
    {modelMapping : Option ModelMapping} {ctx : PipelineContext} {staged : Staged ClientResponse}
    (h : bufferedResponse serde env resp modelMapping ctx = .ok staged) :
    (∃ span, staged = (.error readError,
      ({ ctx with span := span }.finishError span (some readError.statusCode) env.finishedAt).finalized)) ∨
    ∃ body span, staged = complete serde env resp modelMapping body { ctx with span := span } := by
  unfold bufferedResponse at h
  cases read : resp.body with
  | none =>
    rw [read] at h
    exact .inl ⟨_, (Except.ok.inj h).symm⟩
  | some body =>
    rw [read] at h
    obtain ⟨span, _, h⟩ := bind_ok h
    obtain ⟨_, _, h⟩ := bind_ok h
    exact .inr ⟨body, span, (pure_ok h).symm⟩

/-! ### What the stage hands over -/

/-- The builder accepts the headers of a received response, with or without some of them. -/
def Rebuilds (builds : HeaderMap → Bool) : Prop := ∀ headers, nameCount headers ≤ maxHeaderNames → builds headers = true

theorem builds_keptHeaders {builds : HeaderMap → Bool} (rebuilds : Rebuilds builds) (resp : UpstreamResponse)
    (modelMapping : Option ModelMapping) : builds (keptHeaders modelMapping resp.headers) = true :=
  rebuilds _ (Nat.le_trans (nameCount_sublist List.filter_sublist) resp.fits)

/-- Where the span of a request has gone: into a fresh stream, or to the hub, by one call. -/
inductive Handed (before : List Finish) : Staged ClientResponse → Prop
  | toStream {status : Nat} {headers : HeaderMap} {span : RequestSpan} {preview : Option ResponsePreview}
      {rewriter : Option Bool} {thinking : Bool} {mapping : Option ModelMapping} {ctx : PipelineContext}
      (finished : ctx.finished = before) :
      Handed before (.ok ⟨status, headers, .stream (.new span preview rewriter thinking) mapping⟩, ctx)
  | buffered {status : Nat} {headers : HeaderMap} {body : List UInt8} {ctx : PipelineContext} {finish : Finish}
      (finished : ctx.finished = before ++ [finish]) : Handed before (.ok ⟨status, headers, .bytes body⟩, ctx)
  | failed {err : ProxyError} {ctx : PipelineContext} {finish : Finish} (finished : ctx.finished = before ++ [finish])
      (reported : ctx.spanFinalized = true) : Handed before (.error err, ctx)

theorem handleResponse_handed {serde : SerdePretty} {env : ResponseEnv} {resp : UpstreamResponse} {thinking : Bool}
    {modelMapping : Option ModelMapping} {ctx : PipelineContext} {staged : Staged ClientResponse}
    (rebuilds : Rebuilds env.builds) (h : handleResponse serde env resp thinking modelMapping ctx = .ok staged) :
    Handed ctx.finished staged := by
  unfold handleResponse at h
  split at h
  · unfold streamResponse at h
    simp only [builds_keptHeaders rebuilds resp modelMapping, if_true] at h
    cases h
    exact .toStream rfl
  · rcases bufferedResponse_ok h with ⟨span, rfl⟩ | ⟨body, span, rfl⟩
    · exact .failed rfl rfl
    · simp only [complete, builds_keptHeaders rebuilds resp modelMapping, if_true]
      exact .buffered rfl

end Anycode.Pipeline
