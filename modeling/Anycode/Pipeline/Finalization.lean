import Anycode.Pipeline.AutoRetry
import Anycode.Pipeline.Response

/-!
# Every request is counted once

`execute_pipeline` with the life of the stream that it may return. Responsibility for the span
moves from the early stages to the late ones and on to the stream; whoever holds it hands it to
the hub.
-/

namespace Anycode.Pipeline
open Data Config Metrics

/-! ### The early stages -/

/-- A stage before the forwarding: it writes to the span, and never to the hub. -/
abbrev EarlyStage (α : Type) := ExceptT ProxyError (StateM RequestSpan) α

structure Extracted where
  headers : HeaderMap
  bodyBytes : List UInt8
  parsedBody : Option Json

structure TransformedBody where
  bytes : List UInt8
  isStreaming : Bool
  modelMapping : Option ModelMapping
  thinkingActive : Bool

/-- The stages 1 to 5, but for stage 3, which never fails. -/
structure EarlyStages where
  extractRequest : EarlyStage Extracted
  resolveBackend : Extracted → EarlyStage Backend
  transformBody : Extracted → Backend → Bool → EarlyStage TransformedBody
  buildHeaders : Extracted → Backend → Bool → EarlyStage (List (String × List Char))

structure Prepared where
  backend : Backend
  thinking : Bool
  transformed : TransformedBody
  headers : List (String × List Char)

def EarlyStages.prepare (stages : EarlyStages) (isTeammate : Bool) : EarlyStage Prepared := do
  let extracted ← stages.extractRequest
  let backend ← stages.resolveBackend extracted
  -- Stage 3: only a main request gets a thinking session.
  let thinking := !isTeammate
  let transformed ← stages.transformBody extracted backend thinking
  modify fun span => span.setRequestBytes transformed.bytes.length
  let headers ← stages.buildHeaders extracted backend transformed.thinkingActive
  pure ⟨backend, thinking, transformed, headers⟩

/-! ### The pipeline -/

/-- A request with everything it meets: its early stages, the upstream's answers to the attempts
and to the automatic retry, and the clocks. -/
structure PipelineRequest where
  span : RequestSpan
  isTeammate : Bool
  stages : EarlyStages
  send : Prepared → Nat → SendResult
  resend : Prepared → List (String × List Char) → List UInt8 → Option UpstreamResponse
  pool : PoolConfig
  requestTimeoutSeconds : Nat
  env : ResponseEnv
  forwardedAt : Nat
  failedAt : Nat

section
variable (serde : SerdePretty)

/-- Stages 6.5 and 7. -/
def lateStages (req : PipelineRequest) (prepared : Prepared) (upstream : UpstreamResponse) (ctx : PipelineContext) :
    Except Panic (Staged ClientResponse) := do
  let upstream ←
    if upstream.status = 400 then
      backend400AutoRetry serde.toSerde (req.resend prepared) upstream prepared.headers prepared.transformed.bytes
    else pure upstream
  handleResponse serde req.env upstream prepared.thinking prepared.transformed.modelMapping ctx

def executePipelineInner (req : PipelineRequest) (ctx : PipelineContext) : Except Panic (Staged ClientResponse) :=
  match (req.stages.prepare req.isTeammate).run ctx.span with
  | (.error err, span) => .ok (.error err, { ctx with span := span })
  | (.ok prepared, span) =>
    let ctx := { ctx with span := span }
    match forwardWithRetry (req.send prepared) prepared.backend req.pool req.requestTimeoutSeconds req.forwardedAt ctx with
    | (.error err, ctx) => .ok (.error err, ctx)
    | (.ok upstream, ctx) => lateStages serde req prepared upstream ctx

/-- An error that no late stage has reported is reported here. -/
def finalize (failedAt : Nat) (staged : Staged ClientResponse) : Staged ClientResponse :=
  match staged with
  | (.ok response, ctx) => (.ok response, ctx)
  | (.error err, ctx) =>
    if ctx.spanFinalized then (.error err, ctx)
    else (.error err, (ctx.finishError ctx.span (some err.statusCode) failedAt).finalized)

def executePipeline (req : PipelineRequest) : Except Panic (Staged ClientResponse) :=
  (executePipelineInner serde req { span := req.span }).map (finalize req.failedAt)

/-! ### A request to its end -/

/-- How the client reads a streaming response: the polls with their clocks, and the drop. -/
structure Reading where
  polls : List (Poll × Nat)
  dropAt : Nat

/-- A request that has run to completion: everything it handed to the hub, the calls of its
callback, and the answers that the client got of a stream. -/
structure Completed where
  finished : List Finish
  completions : List (List UInt8) := []
  answers : List StreamPoll := []

/-- The mapping of a stream without a rewriter is never read. -/
def runRequest (req : PipelineRequest) (reading : Reading) : Except Panic Completed := do
  let staged ← executePipeline serde req
  match staged with
  | (.ok ⟨_, _, .stream observed mapping⟩, ctx) =>
    let served ← observed.serve serde (mapping.getD ⟨"", ""⟩) reading.dropAt reading.polls
    pure ⟨ctx.finished ++ served.finished, served.stream.completions, served.answers⟩
  | (_, ctx) => pure { finished := ctx.finished }

end

/-! ### Who holds the span -/

theorem forwardWithRetry_handed {send : Nat → SendResult} {backend : Backend} {pool : PoolConfig}
    {requestTimeoutSeconds now : Nat} {ctx after : PipelineContext} {err : ProxyError}
    (h : forwardWithRetry send backend pool requestTimeoutSeconds now ctx = (.error err, after)) :
    Handed ctx.finished (.error err, after) := by
  rcases forwardWithRetry_cases send backend pool requestTimeoutSeconds now ctx with ⟨resp, same⟩ | ⟨_, finish, same⟩
  · rw [same] at h
    cases h
  · rw [same] at h
    cases h
    exact .failed rfl rfl

theorem forwardWithRetry_ok {send : Nat → SendResult} {backend : Backend} {pool : PoolConfig}
    {requestTimeoutSeconds now : Nat} {ctx after : PipelineContext} {resp : UpstreamResponse}
    (h : forwardWithRetry send backend pool requestTimeoutSeconds now ctx = (.ok resp, after)) : after = ctx := by
  rcases forwardWithRetry_cases send backend pool requestTimeoutSeconds now ctx with ⟨_, same⟩ | ⟨_, finish, same⟩
  · rw [same] at h
    exact (congrArg Prod.snd h).symm
  · rw [same] at h
    cases h

theorem lateStages_handed {serde : SerdePretty} {req : PipelineRequest} {prepared : Prepared}
    {upstream : UpstreamResponse} {ctx : PipelineContext} {staged : Staged ClientResponse}
    (rebuilds : Rebuilds req.env.builds) (h : lateStages serde req prepared upstream ctx = .ok staged) :
    Handed ctx.finished staged := by
  unfold lateStages at h
  split at h
  · obtain ⟨_, _, h⟩ := bind_ok h
    exact handleResponse_handed rebuilds h
  · exact handleResponse_handed rebuilds h

/-- Without an early error the span has left the context; with one the flag is still down. -/
theorem executePipelineInner_handed {serde : SerdePretty} {req : PipelineRequest} {ctx : PipelineContext}
    {staged : Staged ClientResponse} (rebuilds : Rebuilds req.env.builds) (open_ : ctx.spanFinalized = false)
    (h : executePipelineInner serde req ctx = .ok staged) :
    Handed ctx.finished staged ∨
      ∃ err after, staged = (.error err, after) ∧ after.finished = ctx.finished ∧ after.spanFinalized = false := by
  unfold executePipelineInner at h
  split at h
  · cases h
    exact .inr ⟨_, _, rfl, rfl, open_⟩
  · refine .inl ?_
    dsimp only at h
    split at h
    · rename_i refused
      cases h
      have handed := forwardWithRetry_handed refused
      exact handed
    · rename_i forwarded
      have handed := lateStages_handed rebuilds h
      rwa [forwardWithRetry_ok forwarded] at handed

theorem executePipeline_handed {serde : SerdePretty} {req : PipelineRequest} {staged : Staged ClientResponse}
    (rebuilds : Rebuilds req.env.builds) (h : executePipeline serde req = .ok staged) : Handed [] staged := by
  obtain ⟨inner, executed, rfl⟩ := map_ok h
  rcases executePipelineInner_handed rebuilds rfl executed with handed | ⟨err, after, rfl, untouched, open_⟩
  · cases handed with
    | toStream finished => exact .toStream finished
    | buffered finished => exact .buffered finished
    | failed finished reported =>
      rw [finalize, if_pos reported]
      exact .failed finished reported
  · rw [finalize, open_, if_neg Bool.false_ne_true]
    exact .failed (congrArg (· ++ _) untouched) rfl

/-! ### Once, and once only -/

structure Execution where
  req : PipelineRequest
  reading : Reading
  completed : Completed

open Metrics.ObservedStream in
/-- The request reached the hub once, and its callback ran at most once, on what the client got
before the stream ended. That is all the client got, if the sources of the stream are fused. -/
structure FinalizedOnce (execution : Execution) : Prop where
  finished : execution.completed.finished.length = 1
  calls : execution.completed.completions.length ≤ 1
  argument : ∀ bytes ∈ execution.completed.completions,
    bytes = yielded (execution.completed.answers.takeWhile isOpen)
  whole : Fused (execution.reading.polls.map Prod.fst) → ∀ bytes ∈ execution.completed.completions,
    bytes = yielded execution.completed.answers

theorem mem_callOn {bytes call : List UInt8} (member : call ∈ Metrics.ObservedStream.callOn bytes) : call = bytes := by
  unfold Metrics.ObservedStream.callOn at member
  split at member
  · cases member
  · exact List.mem_singleton.mp member

open Metrics.ObservedStream in
theorem finalizedOnce {serde : SerdePretty} {execution : Execution} (rebuilds : Rebuilds execution.req.env.builds)
    (ran : runRequest serde execution.req execution.reading = .ok execution.completed) : FinalizedOnce execution := by
  obtain ⟨req, reading, completed⟩ := execution
  obtain ⟨staged, executed, ran⟩ := bind_ok ran
  cases executePipeline_handed rebuilds executed with
  | toStream finished =>
    obtain ⟨served, read, ran⟩ := bind_ok ran
    have completed := pure_ok ran
    subst completed
    have counted := serve_finished serde _ read
    have called := serve_completions serde _ read
    have short : ∀ bytes, (callOn bytes).length ≤ 1 := by
      intro bytes
      unfold callOn
      split
      · exact Nat.zero_le 1
      · exact Nat.le_refl 1
    rw [new, List.nil_append, List.nil_append] at called
    refine ⟨by rw [List.length_append, counted, finished]; rfl, ?_, ?_, ?_⟩
    · dsimp only
      rw [called]
      split
      · exact short _
      · exact Nat.zero_le 1
    · intro bytes member
      dsimp only at member
      rw [called] at member
      split at member
      · exact mem_callOn member
      · cases member
    · intro fused bytes member
      dsimp only at member
      rw [called, yielded_beforeEnd serde _ fused read] at member
      split at member
      · exact mem_callOn member
      · cases member
  | buffered finished =>
    have completed := pure_ok ran
    subst completed
    exact ⟨by rw [finished]; rfl, Nat.zero_le 1, (fun _ member => nomatch member), (fun _ _ member => nomatch member)⟩
  | failed finished reported =>
    have completed := pure_ok ran
    subst completed
    exact ⟨by rw [finished]; rfl, Nat.zero_le 1, (fun _ member => nomatch member), (fun _ _ member => nomatch member)⟩

/-- Every completed request reaches the hub once, so whatever the order in which concurrent
requests reach it, the totals of the backends add up to the number of requests. -/
theorem every_request_finalized_once {serde : SerdePretty} {executions : List Execution} {order : List Finish}
    (rebuilds : ∀ execution ∈ executions, Rebuilds execution.req.env.builds)
    (ran : ∀ execution ∈ executions, runRequest serde execution.req execution.reading = .ok execution.completed)
    (merged : order.Perm (executions.flatMap fun execution => execution.completed.finished)) (hub : ObservabilityHub) :
    (∀ execution ∈ executions, FinalizedOnce execution) ∧
      (hub.finishAll order).totals = hub.totals + executions.length ∧
      ∀ backend, (hub.finishAll order).total backend = hub.total backend + order.countP (hub.countsFor backend) := by
  have once : ∀ execution ∈ executions, FinalizedOnce execution := fun execution member =>
    finalizedOnce (rebuilds execution member) (ran execution member)
  refine ⟨once, ?_, hub.total_finishAll order⟩
  have ones : executions.map (fun execution => execution.completed.finished.length) = executions.map fun _ => 1 :=
    List.map_congr_left fun execution member => (once execution member).finished
  rw [hub.totals_finishAll, merged.length_eq, List.length_flatMap, ones]
  simp

/-! ### A streamed answer -/

def eventStreamResponse : UpstreamResponse where
  status := 200
  headers := [(⟨"content-type", by decide⟩, ⟨utf8 "text/event-stream".toList, by decide +kernel⟩)]
  fits := by decide
  body := none

def streamedRequest : PipelineRequest where
  span := ⟨{ id := "r1", backend := "claude" }, { started := 0 }⟩
  isTeammate := false
  stages :=
    { extractRequest := pure ⟨[], [], none⟩
      resolveBackend := fun _ => pure .claude
      transformBody := fun extracted _ _ => pure ⟨extracted.bodyBytes, true, none, false⟩
      buildHeaders := fun _ _ _ => pure [] }
  send := fun _ _ => .response eventStreamResponse
  resend := fun _ _ _ => none
  pool := ⟨3, 100000000⟩
  requestTimeoutSeconds := 30
  env := { debug := {}, builds := fun headers => decide (nameCount headers ≤ maxHeaderNames), firstByteAt := 1, finishedAt := 2 }
  forwardedAt := 1
  failedAt := 1

def noSerde : SerdePretty := ⟨⟨fun _ => none, fun _ => none⟩, fun _ => none⟩

def fourPolls : Reading where
  polls := [(⟨false, .data [104]⟩, 2), (⟨false, .data [105]⟩, 3), (⟨false, .ended⟩, 4), (⟨false, .ended⟩, 5)]
  dropAt := 6

def streamedSpan : RequestSpan :=
  ⟨{ id := "r1", backend := "claude", status := some 200, responseBytes := 2 }, { started := 0, firstByte := some 2 }⟩

def streamed : Execution where
  req := streamedRequest
  reading := fourPolls
  completed := ⟨[⟨streamedSpan, 4⟩], [[104, 105]], [.data [104], .data [105], .ended, .ended]⟩

theorem streamed_finalized_once :
    let hub : ObservabilityHub := { capacity := 10 }
    (∀ execution ∈ [streamed], FinalizedOnce execution) ∧
      (hub.finishAll streamed.completed.finished).totals = hub.totals + [streamed].length ∧
      ∀ backend, (hub.finishAll streamed.completed.finished).total backend =
        hub.total backend + streamed.completed.finished.countP (hub.countsFor backend) := by
  intro hub
  have rebuilds : ∀ execution ∈ [streamed], Rebuilds execution.req.env.builds := by
    intro execution member headers fits
    rw [List.mem_singleton.mp member]
    exact decide_eq_true fits
  have ran : ∀ execution ∈ [streamed],
      runRequest noSerde execution.req execution.reading = .ok execution.completed := by
    intro execution member
    rw [List.mem_singleton.mp member]
    rfl
  have once := every_request_finalized_once rebuilds ran (by rfl) hub
  exact once

end Anycode.Pipeline
