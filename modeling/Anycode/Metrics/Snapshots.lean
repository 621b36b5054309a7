import Anycode.Data.Calls
import Anycode.Metrics.Hub

/-!
# Snapshots of the hub

Requests finish and snapshots are taken at the same time. `finish_request` counts a record under
one lock and pushes it into the ring under another, and `snapshot` reads the ring first.
-/

namespace Anycode.Metrics
open Data

/-- What `snapshot` reads; the averages and percentiles it computes from this are left out. -/
structure MetricsSnapshot where
  perBackend : Assoc String BackendAccumulator
  recent : List RequestRecord

inductive HubTask where
  | finishRequest (finish : Finish)
  | snapshot

/-- A task between its locks. -/
inductive HubCall where
  | finishing (finish : Finish)
  | aggregated (record : RequestRecord)
  | finished (record : RequestRecord)
  | snapshotting
  | listed (recent : List RequestRecord)
  | taken (snapshot : MetricsSnapshot)

namespace HubCall

def begins : HubTask → HubCall
  | .finishRequest finish => .finishing finish
  | .snapshot => .snapshotting

def poll (hub : ObservabilityHub) : HubCall → ObservabilityHub × HubCall
  | .finishing finish =>
    let record := hub.completedRecord finish.span finish.now
    ({ hub with aggregates := ObservabilityHub.updateAggregates hub.aggregates record }, .aggregated record)
  | .aggregated record => ({ hub with ring := ObservabilityHub.pushRing hub.capacity hub.ring record }, .finished record)
  | .finished record => (hub, .finished record)
  | .snapshotting => (hub, .listed hub.ring)
  | .listed recent => (hub, .taken ⟨hub.aggregates, recent⟩)
  | .taken snapshot => (hub, .taken snapshot)

end HubCall

def hubTasks : CallSystem ObservabilityHub HubCall Empty HubTask Unit where
  event _ e := nomatch e
  begins := HubCall.begins
  poll hub _ call := call.poll hub

/-- A counter of the aggregates, and the records that it counts. -/
structure Counter where
  of : BackendAccumulator → Nat
  counts : RequestRecord → Bool
  fresh : of {} = 0
  update : ∀ acc record, of (acc.update record) = of acc + (counts record).toNat

namespace Counter

def total : Counter := ⟨BackendAccumulator.total, fun _ => true, rfl, fun _ _ => rfl⟩

def success2xx : Counter := ⟨BackendAccumulator.success2xx, fun record => inClass 2 record.status, rfl, fun _ _ => rfl⟩

def clientError4xx : Counter :=
  ⟨BackendAccumulator.clientError4xx, fun record => inClass 4 record.status, rfl, fun _ _ => rfl⟩

def serverError5xx : Counter :=
  ⟨BackendAccumulator.serverError5xx, fun record => inClass 5 record.status, rfl, fun _ _ => rfl⟩

def timeouts : Counter :=
  ⟨BackendAccumulator.timeouts, fun record => record.timedOut || record.status == some 504, rfl, fun _ _ => rfl⟩

def latencySamples : Counter :=
  ⟨BackendAccumulator.latencySamples, fun record => record.latencyMs.isSome, rfl, fun _ _ => rfl⟩

def ttfbSamples : Counter := ⟨BackendAccumulator.ttfbSamples, fun record => record.ttfbMs.isSome, rfl, fun _ _ => rfl⟩

/-- What the counter says for a backend. -/
def value (counter : Counter) (aggregates : Assoc String BackendAccumulator) (backend : String) : Nat :=
  ((aggregates.find backend).map counter.of).getD 0

def countsFor (counter : Counter) (backend : String) (record : RequestRecord) : Bool :=
  decide (backend = record.backend) && counter.counts record

theorem value_updateAggregates (counter : Counter) (aggregates : Assoc String BackendAccumulator) (record : RequestRecord)
    (backend : String) :
    counter.value (ObservabilityHub.updateAggregates aggregates record) backend =
      counter.value aggregates backend + (counter.countsFor backend record).toNat := by
  unfold value countsFor ObservabilityHub.updateAggregates
  rw [Assoc.find_upsert]
  by_cases same : backend = record.backend
  · rw [if_pos same, decide_eq_true same, Bool.true_and, same]
    cases aggregates.find record.backend with
    | none => exact (counter.update _ record).trans (congrArg (· + _) counter.fresh)
    | some acc => exact counter.update acc record
  · rw [if_neg same, decide_eq_false same]
    rfl

end Counter

/-- The call has counted a record of this kind, or has pushed one. -/
def HubCall.hasCounted (q : RequestRecord → Bool) : HubCall → Bool
  | .aggregated record | .finished record => q record
  | _ => false

def HubCall.hasPushed (q : RequestRecord → Bool) : HubCall → Bool
  | .finished record => q record
  | _ => false

abbrev HubRun := Calls ObservabilityHub HubCall

/-- What the calls so far have left in the hub, for one counter and one backend. -/
structure Tallied (counter : Counter) (backend : String) (s : HubRun) : Prop where
  counted : counter.value s.shared.aggregates backend = s.calls.countP (HubCall.hasCounted (counter.countsFor backend))
  pushed : s.shared.ring.countP (counter.countsFor backend) ≤ s.calls.countP (HubCall.hasPushed (counter.countsFor backend))
  listed : ∀ recent, .listed recent ∈ s.calls →
    recent.countP (counter.countsFor backend) ≤ s.calls.countP (HubCall.hasPushed (counter.countsFor backend))
  taken : ∀ snapshot, .taken snapshot ∈ s.calls →
    snapshot.recent.countP (counter.countsFor backend) ≤ counter.value snapshot.perBackend backend

theorem pushed_le_counted (q : RequestRecord → Bool) (calls : List HubCall) :
    calls.countP (HubCall.hasPushed q) ≤ calls.countP (HubCall.hasCounted q) := by
  apply List.countP_mono_left
  intro call _ pushed
  cases call with
  | finished => exact pushed
  | finishing | aggregated | snapshotting | listed | taken => cases pushed

theorem countP_pushRing (q : RequestRecord → Bool) (capacity : Nat) (ring : List RequestRecord) (record : RequestRecord) :
    (ObservabilityHub.pushRing capacity ring record).countP q ≤ ring.countP q + (q record).toNat := by
  rw [ObservabilityHub.pushRing, List.countP_append, List.countP_singleton]
  have fewer : (if ring.length = capacity then ring.drop 1 else ring).countP q ≤ ring.countP q := by
    split
    · exact (List.drop_sublist 1 ring).countP_le
    · exact Nat.le_refl _
  cases q record with
  | true => exact Nat.add_le_add_right fewer 1
  | false => exact fewer

theorem start_tallied {counter : Counter} {backend : String} {s : HubRun} (tallied : Tallied counter backend s) (task : HubTask) :
    Tallied counter backend (hubTasks.step s (.start task)) := by
  have none (q : HubCall → Bool) (begun : q (HubCall.begins task) = false) :
      (s.calls ++ [HubCall.begins task]).countP q = s.calls.countP q := by
    rw [List.countP_append, List.countP_singleton, begun]
    rfl
  have counted := none (HubCall.hasCounted (counter.countsFor backend)) (by cases task <;> rfl)
  have pushed := none (HubCall.hasPushed (counter.countsFor backend)) (by cases task <;> rfl)
  have before {call : HubCall} (other : call ≠ HubCall.begins task) (member : call ∈ s.calls ++ [HubCall.begins task]) :
      call ∈ s.calls := (List.mem_append.mp member).resolve_right fun last => other (List.mem_singleton.mp last)
  refine ⟨tallied.counted.trans counted.symm, Nat.le_trans tallied.pushed (Nat.le_of_eq pushed.symm), fun recent member => ?_, fun snapshot member => ?_⟩
  · exact Nat.le_trans (tallied.listed recent (before (by cases task <;> nofun) member)) (Nat.le_of_eq pushed.symm)
  · exact tallied.taken snapshot (before (by cases task <;> nofun) member)

/-- A call that goes on to `next` while the hub becomes `hub`. -/
theorem moved_tallied {counter : Counter} {backend : String} {s : HubRun} (tallied : Tallied counter backend s) {i : Nat}
    {call next : HubCall} (here : s.calls[i]? = some call) {hub : ObservabilityHub}
    (counted : counter.value hub.aggregates backend + (call.hasCounted (counter.countsFor backend)).toNat =
      counter.value s.shared.aggregates backend + (next.hasCounted (counter.countsFor backend)).toNat)
    (grows : (call.hasPushed (counter.countsFor backend)).toNat ≤ (next.hasPushed (counter.countsFor backend)).toNat)
    (pushed : hub.ring.countP (counter.countsFor backend) + (call.hasPushed (counter.countsFor backend)).toNat ≤
      s.shared.ring.countP (counter.countsFor backend) + (next.hasPushed (counter.countsFor backend)).toNat)
    (listed : ∀ recent, next = .listed recent → recent.countP (counter.countsFor backend) ≤
      s.calls.countP (HubCall.hasPushed (counter.countsFor backend)))
    (taken : ∀ snapshot, next = .taken snapshot →
      snapshot.recent.countP (counter.countsFor backend) ≤ counter.value snapshot.perBackend backend) :
    Tallied counter backend ⟨hub, s.calls.set i next⟩ := by
  have moved (q : HubCall → Bool) := CallSystem.countP_set q next here
  have movedCounted := moved (HubCall.hasCounted (counter.countsFor backend))
  have movedPushed := moved (HubCall.hasPushed (counter.countsFor backend))
  have before := tallied.counted
  have ring := tallied.pushed
  refine ⟨by dsimp only; omega, by dsimp only; omega, fun recent member => ?_, fun snapshot member => ?_⟩
  · rcases List.mem_or_eq_of_mem_set member with old | new
    · have kept := tallied.listed recent old
      dsimp only
      omega
    · have kept := listed recent new.symm
      dsimp only
      omega
  · rcases List.mem_or_eq_of_mem_set member with old | new
    · exact tallied.taken snapshot old
    · exact taken snapshot new.symm

/-- One lock of one call. -/
theorem poll_tallied {counter : Counter} {backend : String} {s : HubRun} (tallied : Tallied counter backend s) {i : Nat}
    {call : HubCall} (here : s.calls[i]? = some call) :
    Tallied counter backend ⟨(call.poll s.shared).1, s.calls.set i (call.poll s.shared).2⟩ := by
  have inside := List.mem_of_getElem? here
  cases call with
  | finishing finish =>
    refine moved_tallied tallied here ?_ (Nat.le_refl _) (Nat.le_refl _) nofun nofun
    exact counter.value_updateAggregates _ _ backend
  | aggregated record =>
    refine moved_tallied tallied here rfl (Nat.zero_le _) ?_ nofun nofun
    exact countP_pushRing _ _ _ _
  | finished record => exact moved_tallied tallied here rfl (Nat.le_refl _) (Nat.le_refl _) nofun nofun
  | snapshotting =>
    refine moved_tallied tallied here rfl (Nat.le_refl _) (Nat.le_refl _) (fun recent same => ?_) nofun
    cases same
    exact tallied.pushed
  | listed recent =>
    refine moved_tallied tallied here rfl (Nat.le_refl _) (Nat.le_refl _) nofun fun snapshot same => ?_
    cases same
    have listed := tallied.listed recent inside
    have counted := pushed_le_counted (counter.countsFor backend) s.calls
    exact Nat.le_trans listed (Nat.le_trans counted (Nat.le_of_eq tallied.counted.symm))
  | taken snapshot =>
    refine moved_tallied tallied here rfl (Nat.le_refl _) (Nat.le_refl _) nofun fun other same => ?_
    cases same
    exact tallied.taken snapshot inside

theorem step_tallied (counter : Counter) (backend : String) (s : HubRun) (move : Move Empty HubTask Unit)
    (tallied : Tallied counter backend s) : Tallied counter backend (hubTasks.step s move) := by
  cases move with
  | event e => cases e
  | start task => exact start_tallied tallied task
  | poll i o =>
    cases here : s.calls[i]? with
    | none => rwa [CallSystem.step_poll_none o here]
    | some call =>
      rw [CallSystem.step_poll o here]
      exact poll_tallied tallied here

/-- However requests that finish and snapshots interleave, each counter is the number of the
records of its kind that have been counted, and no snapshot lists a record that it does not count. -/
theorem snapshots_cover_recent (capacity : Nat) (plugins : List Plugin) (moves : List (Move Empty HubTask Unit))
    (counter : Counter) (backend : String) :
    Tallied counter backend (run hubTasks.step ⟨{ capacity := capacity, plugins := plugins }, []⟩ moves) :=
  run_invariant (G := fun _ _ => True) (fun s move tallied _ => step_tallied counter backend s move tallied)
    ⟨rfl, Nat.le_refl _, nofun, nofun⟩ (along_iff.mpr fun _ _ _ _ => trivial)

end Anycode.Metrics
