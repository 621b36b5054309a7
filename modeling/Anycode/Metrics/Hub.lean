import Anycode.Data.Assoc

/-!
# The observability hub

Spans of requests, and what the hub keeps of the finished ones (`metrics/span.rs`, `hub.rs`,
`aggregator.rs`, `ring.rs`). An `Instant` is a number of nanoseconds, and each operation that
reads the clock takes the reading as `now`.
-/

namespace Anycode.Metrics
open Data

structure ResponseMeta where
  headers : Option (List (String × List Char)) := none
  bodyPreview : Option (List Char) := none

/-- The fields that the hub and the response stages read or write. -/
structure RequestRecord where
  id : String
  backend : String
  status : Option Nat := none
  timedOut : Bool := false
  requestBytes : Nat := 0
  responseBytes : Nat := 0
  latencyMs : Option Nat := none
  ttfbMs : Option Nat := none
  responseMeta : Option ResponseMeta := none

structure RequestTiming where
  started : Nat
  firstByte : Option Nat := none
  completed : Option Nat := none

structure RequestSpan where
  record : RequestRecord
  timing : RequestTiming

def u64Max : Nat := 18446744073709551615

def saturatingAdd (a b : Nat) : Nat := min (a + b) u64Max

namespace RequestSpan

def setStatus (span : RequestSpan) (status : Nat) : RequestSpan :=
  { span with record := { span.record with status := some status } }

def setRequestBytes (span : RequestSpan) (bytes : Nat) : RequestSpan :=
  { span with record := { span.record with requestBytes := bytes } }

def addResponseBytes (span : RequestSpan) (bytes : Nat) : RequestSpan :=
  { span with record := { span.record with responseBytes := saturatingAdd span.record.responseBytes bytes } }

def markFirstByte (span : RequestSpan) (now : Nat) : RequestSpan :=
  { span with timing := { span.timing with firstByte := some (span.timing.firstByte.getD now) } }

def markCompleted (span : RequestSpan) (now : Nat) : RequestSpan :=
  { span with timing := { span.timing with completed := some (span.timing.completed.getD now) } }

def markTimedOut (span : RequestSpan) : RequestSpan := { span with record := { span.record with timedOut := true } }

def orStatus (span : RequestSpan) (status : Option Nat) : RequestSpan :=
  { span with record := { span.record with status := status.or span.record.status } }

/-- `response_meta.get_or_insert(..)`, written through `f`. -/
def updateMeta (span : RequestSpan) (f : ResponseMeta → ResponseMeta) : RequestSpan :=
  { span with record := { span.record with responseMeta := some (f (span.record.responseMeta.getD {})) } }

end RequestSpan

def millis (start finish : Nat) : Nat := (finish - start) / 1000000

def finalizeRecord (record : RequestRecord) (timing : RequestTiming) : RequestRecord :=
  { record with
    ttfbMs := (timing.firstByte.map (millis timing.started)).or record.ttfbMs
    latencyMs := (timing.completed.map (millis timing.started)).or record.latencyMs }

structure BackendAccumulator where
  total : Nat := 0
  success2xx : Nat := 0
  clientError4xx : Nat := 0
  serverError5xx : Nat := 0
  timeouts : Nat := 0
  latencyTotalMs : Nat := 0
  latencySamples : Nat := 0
  ttfbTotalMs : Nat := 0
  ttfbSamples : Nat := 0

def inClass (hundreds : Nat) (status : Option Nat) : Bool := status.any fun status => status / 100 == hundreds

def BackendAccumulator.update (acc : BackendAccumulator) (record : RequestRecord) : BackendAccumulator where
  total := acc.total + 1
  success2xx := acc.success2xx + (inClass 2 record.status).toNat
  clientError4xx := acc.clientError4xx + (inClass 4 record.status).toNat
  serverError5xx := acc.serverError5xx + (inClass 5 record.status).toNat
  timeouts := acc.timeouts + (record.timedOut || record.status == some 504).toNat
  latencyTotalMs := (record.latencyMs.map (saturatingAdd acc.latencyTotalMs)).getD acc.latencyTotalMs
  latencySamples := acc.latencySamples + record.latencyMs.isSome.toNat
  ttfbTotalMs := (record.ttfbMs.map (saturatingAdd acc.ttfbTotalMs)).getD acc.ttfbTotalMs
  ttfbSamples := acc.ttfbSamples + record.ttfbMs.isSome.toNat

/-- A plugin as its `post_response`, which may rewrite the record. -/
abbrev Plugin := RequestRecord → RequestRecord

/-- A call of `finish_request`: the span, and the clock when it was made. -/
structure Finish where
  span : RequestSpan
  now : Nat

structure ObservabilityHub where
  capacity : Nat
  plugins : List Plugin := []
  ring : List RequestRecord := []
  aggregates : Assoc String BackendAccumulator := []

namespace ObservabilityHub

/-- `entry(backend).or_default()`, updated. -/
def updateAggregates (aggregates : Assoc String BackendAccumulator) (record : RequestRecord) :
    Assoc String BackendAccumulator :=
  aggregates.upsert record.backend fun acc => (acc.getD {}).update record

/-- The oldest record leaves a ring that is full; one of capacity 0 grows from its first record on. -/
def pushRing (capacity : Nat) (ring : List RequestRecord) (record : RequestRecord) : List RequestRecord :=
  (if ring.length = capacity then ring.drop 1 else ring) ++ [record]

/-- The record as the plugins leave it, which is what the aggregates and the ring get. -/
def completedRecord (hub : ObservabilityHub) (span : RequestSpan) (now : Nat) : RequestRecord :=
  let span := span.markCompleted now
  hub.plugins.foldl (fun record plugin => plugin record) (finalizeRecord span.record span.timing)

def finishRequest (hub : ObservabilityHub) (span : RequestSpan) (now : Nat) : ObservabilityHub :=
  let record := hub.completedRecord span now
  { hub with
    aggregates := updateAggregates hub.aggregates record
    ring := pushRing hub.capacity hub.ring record }

def finishError (hub : ObservabilityHub) (span : RequestSpan) (status : Option Nat) (now : Nat) : ObservabilityHub :=
  hub.finishRequest (span.orStatus status) now

def finishAll (hub : ObservabilityHub) (finishes : List Finish) : ObservabilityHub :=
  finishes.foldl (fun hub finish => hub.finishRequest finish.span finish.now) hub

/-- The requests counted under all the backends. -/
def totals (hub : ObservabilityHub) : Nat := hub.aggregates.total BackendAccumulator.total

def total (hub : ObservabilityHub) (backend : String) : Nat :=
  ((hub.aggregates.find backend).map BackendAccumulator.total).getD 0

theorem totals_finishRequest (hub : ObservabilityHub) (span : RequestSpan) (now : Nat) :
    (hub.finishRequest span now).totals = hub.totals + 1 :=
  Assoc.total_upsert (by rfl) (fun _ => rfl) hub.aggregates

theorem total_finishRequest (hub : ObservabilityHub) (span : RequestSpan) (now : Nat) (backend : String) :
    (hub.finishRequest span now).total backend =
      hub.total backend + if backend = (hub.completedRecord span now).backend then 1 else 0 := by
  unfold total finishRequest updateAggregates
  dsimp only
  rw [Assoc.find_upsert]
  split
  · rename_i counted
    rw [counted]
    cases hub.aggregates.find (hub.completedRecord span now).backend <;> rfl
  · rfl

theorem totals_finishAll (hub : ObservabilityHub) (finishes : List Finish) :
    (hub.finishAll finishes).totals = hub.totals + finishes.length := by
  induction finishes generalizing hub with
  | nil => rfl
  | cons finish rest ih =>
    have counted := ih (hub.finishRequest finish.span finish.now)
    rw [totals_finishRequest] at counted
    rw [List.length_cons, Nat.add_comm rest.length, ← Nat.add_assoc]
    exact counted

def countsFor (hub : ObservabilityHub) (backend : String) (finish : Finish) : Bool :=
  decide (backend = (hub.completedRecord finish.span finish.now).backend)

theorem total_finishAll (hub : ObservabilityHub) (finishes : List Finish) (backend : String) :
    (hub.finishAll finishes).total backend = hub.total backend + finishes.countP (hub.countsFor backend) := by
  induction finishes generalizing hub with
  | nil => rfl
  | cons finish rest ih =>
    have counted := ih (hub.finishRequest finish.span finish.now)
    rw [total_finishRequest] at counted
    have same : (hub.finishRequest finish.span finish.now).countsFor backend = hub.countsFor backend := rfl
    rw [same] at counted
    rw [List.countP_cons]
    refine counted.trans ?_
    simp only [countsFor, decide_eq_true_eq]
    omega

end ObservabilityHub

end Anycode.Metrics
