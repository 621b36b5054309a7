import Mathlib.Data.List.Dedup
import Anycode.Config.Credentials
import Anycode.Data.HeaderMap
import Anycode.Metrics.Stream

/-!
# The context of a request, and stage 6

`PipelineContext` with the calls it makes to the hub, and `forward_with_retry`. The upstream's
answers to the attempts are given as a function of the attempt's number.
-/

namespace Anycode.Pipeline
open Data Config Metrics

inductive ProxyError where
  | config
  | backendNotFound (backend : String)
  | backendNotConfigured (backend reason : String)
  | connectionError (backend : String)
  | requestTimeout (duration : Nat)
  | idleTimeout (duration : Nat)
  | invalidRequest (message : String)
  | upstreamError (status : Nat) (message : String)
  | subagentNotRegistered (id : String)
  | internal (message : String)
  | http (message : String)

/-- A status code has three digits. -/
def ProxyError.statusCode : ProxyError → Nat
  | .config | .subagentNotRegistered _ | .internal _ | .http _ => 500
  | .backendNotFound _ | .backendNotConfigured _ _ | .connectionError _ => 502
  | .requestTimeout _ | .idleTimeout _ => 504
  | .invalidRequest _ => 400
  | .upstreamError status _ => if 100 ≤ status ∧ status < 1000 then status else 502

/-- The span, with what the stages have handed to the hub so far. -/
structure PipelineContext where
  span : RequestSpan
  spanFinalized : Bool := false
  finished : List Finish := []

namespace PipelineContext

def finishRequest (ctx : PipelineContext) (now : Nat) : PipelineContext :=
  { ctx with finished := ctx.finished ++ [⟨ctx.span, now⟩] }

/-- `finish_error` on a clone of the span. -/
def finishError (ctx : PipelineContext) (span : RequestSpan) (status : Option Nat) (now : Nat) : PipelineContext :=
  { ctx with finished := ctx.finished ++ [⟨span.orStatus status, now⟩] }

def finalized (ctx : PipelineContext) : PipelineContext := { ctx with spanFinalized := true }

end PipelineContext

/-- What a stage returns, and the context it leaves. -/
abbrev Staged (α : Type) := Except ProxyError α × PipelineContext

/-- The number of distinct names, which is what the size of a header map counts. -/
def nameCount (headers : HeaderMap) : Nat := (headers.map fun header => header.1).dedup.length

def maxHeaderNames : Nat := 32768

/-- A response as it was received: its headers fit a header map. `none` is a body that cannot be read. -/
structure UpstreamResponse where
  status : Nat
  headers : HeaderMap
  fits : nameCount headers ≤ maxHeaderNames
  body : Option (List UInt8)

inductive SendResult where
  | response (resp : UpstreamResponse)
  | failed (isConnect isTimeout : Bool)

/-- Durations are in nanoseconds; a `Duration` holds at most this many. -/
def maxDuration : Nat := Metrics.u64Max * 1000000000 + 999999999

structure PoolConfig where
  maxRetries : UInt32
  retryBackoffBase : Nat

/-- `saturating_mul(1u32 << attempt)`: a shift by 32 or more wraps. -/
def backoff (base attempt : Nat) : Nat := min (base * (1 <<< (attempt % 32))) maxDuration

/-- The last result of the retry loop, and the waits between its attempts. -/
structure Attempts where
  result : SendResult
  waits : List Nat

def SendResult.retryable : SendResult → Bool
  | .response _ => false
  | .failed isConnect isTimeout => isConnect || isTimeout

def sendLoop (send : Nat → SendResult) (base : Nat) : Nat → Nat → Attempts
  | 0, attempt => ⟨send attempt, []⟩
  | left + 1, attempt =>
    if (send attempt).retryable then
      let later := sendLoop send base left (attempt + 1)
      { later with waits := backoff base attempt :: later.waits }
    else ⟨send attempt, []⟩

def forwardWithRetry (send : Nat → SendResult) (backend : Backend) (pool : PoolConfig) (requestTimeoutSeconds now : Nat)
    (ctx : PipelineContext) : Staged UpstreamResponse :=
  if !backend.isConfigured then
    let err := ProxyError.backendNotConfigured backend.name "api_key is not set"
    (.error err, (ctx.finishError ctx.span (some err.statusCode) now).finalized)
  else
    match (sendLoop send pool.retryBackoffBase pool.maxRetries.toNat 0).result with
    | .response resp => (.ok resp, ctx)
    | .failed _ isTimeout =>
      if isTimeout then
        let err := ProxyError.requestTimeout requestTimeoutSeconds
        (.error err, (ctx.finishError ctx.span.markTimedOut (some err.statusCode) now).finalized)
      else
        let err := ProxyError.connectionError backend.name
        (.error err, (ctx.finishError ctx.span (some err.statusCode) now).finalized)

/-- The stage hands the span over exactly when it fails, and says so. -/
theorem forwardWithRetry_cases (send : Nat → SendResult) (backend : Backend) (pool : PoolConfig)
    (requestTimeoutSeconds now : Nat) (ctx : PipelineContext) :
    (∃ resp, forwardWithRetry send backend pool requestTimeoutSeconds now ctx = (.ok resp, ctx)) ∨
      ∃ err finish, forwardWithRetry send backend pool requestTimeoutSeconds now ctx =
        (.error err, { ctx with spanFinalized := true, finished := ctx.finished ++ [finish] }) := by
  unfold forwardWithRetry
  split
  · exact .inr ⟨_, _, rfl⟩
  · split
    · exact .inl ⟨_, rfl⟩
    · split
      · exact .inr ⟨_, _, rfl⟩
      · exact .inr ⟨_, _, rfl⟩

theorem nameCount_sublist {kept headers : HeaderMap} (sublist : kept.Sublist headers) :
    nameCount kept ≤ nameCount headers := by
  have names := (sublist.map fun header => header.1).subset
  exact List.Nodup.length_le_of_subset (List.nodup_dedup _) fun name member =>
    List.mem_dedup.mpr (names (List.mem_dedup.mp member))

end Anycode.Pipeline
