import Anycode.Data.Run
import Mathlib.Data.List.Induction

/-!
# Counting connections

The counter of `ShutdownManager`, the service and the guards of `proxy/connection.rs` that keep it,
and the wait for the last connection at the end of `ProxyServer::run`.
-/

namespace Anycode.Proxy
open Data

/-- How far `wait_for_connections` has come: before a look at the clock, inside the loop, behind it,
and what it reports. -/
inductive ConnectionWait where
  | idle
  | checking
  | loading
  | closing
  | stopped
  | forced (remain : BitVec 64)
  deriving DecidableEq

/-- `making` counts the futures of `ConnectionCounter::call` under way, `guards` the guards alive
and `abandoned` the futures dropped before their end. -/
structure Connections where
  activeConnections : BitVec 64 := 0
  making : Nat := 0
  guards : Nat := 0
  abandoned : Nat := 0
  timeout : Nat := 0
  wait : ConnectionWait := .idle
  deriving DecidableEq

namespace Connections

inductive Act where
  | call
  /-- The service under `ConnectionCounter` is made, or cannot be. -/
  | made (ok : Bool)
  | abandon
  | cloneGuard
  | dropGuard
  | waitForConnections (timeout : Nat)
  | clock (elapsed : Nat)
  | load
  deriving DecidableEq

def incrementConnections (s : Connections) : Connections := { s with activeConnections := s.activeConnections + 1 }

def decrementConnections (s : Connections) : Connections := { s with activeConnections := s.activeConnections - 1 }

/-- Only what there is can end, be cloned or be dropped. -/
def step (s : Connections) : Act → Connections
  | .call => { s.incrementConnections with making := s.making + 1 }
  | .made ok =>
    if s.making = 0 then s
    else if ok then { s with making := s.making - 1, guards := s.guards + 1 }
    else { s.decrementConnections with making := s.making - 1 }
  | .abandon => if s.making = 0 then s else { s with making := s.making - 1, abandoned := s.abandoned + 1 }
  | .cloneGuard => if s.guards = 0 then s else { s.incrementConnections with guards := s.guards + 1 }
  | .dropGuard => if s.guards = 0 then s else { s.decrementConnections with guards := s.guards - 1 }
  | .waitForConnections timeout => if s.wait = .idle then { s with timeout := timeout, wait := .checking } else s
  | .clock elapsed => if s.wait = .checking then { s with wait := if elapsed < s.timeout then .loading else .closing } else s
  | .load =>
    match s.wait with
    | .loading => { s with wait := if s.activeConnections = 0 then .stopped else .checking }
    | .closing => { s with wait := .forced s.activeConnections }
    | _ => s

/-- What the counter stands for. -/
def counted (s : Connections) : Nat := s.making + s.guards + s.abandoned

def Counts (s : Connections) : Prop := s.activeConnections = BitVec.ofNat 64 s.counted

theorem ofNat_pred {n : Nat} (some : n ≠ 0) : BitVec.ofNat 64 n - 1 = BitVec.ofNat 64 (n - 1) := by
  obtain ⟨m, rfl⟩ := Nat.exists_eq_succ_of_ne_zero some
  rw [Nat.succ_eq_add_one, BitVec.ofNat_add, Nat.add_sub_cancel]
  exact BitVec.add_sub_cancel _ _

theorem counts_increment {s t : Connections} (counts : s.Counts) (active : t.activeConnections = s.activeConnections + 1)
    (more : t.counted = s.counted + 1) : t.Counts := by
  rw [Counts, active, more, counts, BitVec.ofNat_add]
  rfl

theorem counts_decrement {s t : Connections} (counts : s.Counts) (active : t.activeConnections = s.activeConnections - 1)
    (fewer : s.counted = t.counted + 1) : t.Counts := by
  rw [Counts, active, counts, ofNat_pred (by omega), fewer, Nat.add_sub_cancel]

theorem counts_keep {s t : Connections} (counts : s.Counts) (active : t.activeConnections = s.activeConnections)
    (same : t.counted = s.counted) : t.Counts := by
  rw [Counts, active, same, counts]

theorem step_counts (s : Connections) (act : Act) (counts : s.Counts) : (s.step act).Counts := by
  cases act with
  | call =>
    refine counts_increment counts rfl ?_
    simp only [counted, step, incrementConnections]
    omega
  | made ok =>
    rw [step]
    split
    · exact counts
    · split
      · refine counts_keep (s := s) counts rfl ?_
        simp only [counted]
        omega
      · refine counts_decrement (s := s) counts rfl ?_
        simp only [counted, decrementConnections]
        omega
  | abandon =>
    rw [step]
    split
    · exact counts
    · refine counts_keep (s := s) counts rfl ?_
      simp only [counted]
      omega
  | cloneGuard =>
    rw [step]
    split
    · exact counts
    · refine counts_increment (s := s) counts rfl ?_
      simp only [counted, incrementConnections]
      omega
  | dropGuard =>
    rw [step]
    split
    · exact counts
    · refine counts_decrement (s := s) counts rfl ?_
      simp only [counted, decrementConnections]
      omega
  | waitForConnections | clock =>
    rw [step]
    split <;> exact counts
  | load =>
    rw [step]
    split <;> exact counts

theorem run_counts (acts : List Act) : (run step {} acts).Counts :=
  run_invariant (G := fun _ _ => True) (fun s act counts _ => step_counts s act counts) rfl (along_iff.mpr fun _ _ _ _ => trivial)

/-- The counter has not gone round. -/
def Fits (s : Connections) : Prop := s.counted < UInt64.size

theorem step_counted (s : Connections) (act : Act) : (s.step act).counted ≤ s.counted + 1 := by
  cases act with
  | call =>
    simp only [counted, step, incrementConnections]
    omega
  | made ok =>
    rw [step]
    split
    · exact Nat.le_succ _
    · split <;> simp only [counted, decrementConnections] <;> omega
  | abandon | cloneGuard | dropGuard =>
    rw [step]
    split
    · exact Nat.le_succ _
    · simp only [counted, incrementConnections, decrementConnections]
      omega
  | waitForConnections | clock | load =>
    rw [step]
    split <;> exact Nat.le_succ _

theorem run_counted (acts : List Act) (s : Connections) : (run step s acts).counted ≤ s.counted + acts.length := by
  induction acts generalizing s with
  | nil => exact Nat.le_refl _
  | cons act rest ih =>
    have first := s.step_counted act
    have later := ih (s.step act)
    rw [run_cons, List.length_cons]
    omega

/-- No run of fewer steps takes the counter round. -/
theorem run_fits {acts : List Act} (short : acts.length < UInt64.size) : Throughout step Fits {} acts := by
  refine throughout_iff.mpr fun before after split => ?_
  have reached := run_counted before {}
  have part : before.length ≤ acts.length := by
    rw [split, List.length_append]
    exact Nat.le_add_right _ _
  exact Nat.lt_of_le_of_lt (Nat.le_trans reached (by simp [counted]; exact part)) short

/-- A look at the counter that ends the wait. -/
theorem step_wait {s : Connections} {act : Act} :
    ((s.step act).wait = .stopped ↔
      s.wait = .stopped ∨ (act = .load ∧ s.wait = .loading ∧ s.activeConnections = 0)) ∧
    ∀ remain, (s.step act).wait = .forced remain ↔
      s.wait = .forced remain ∨ (act = .load ∧ s.wait = .closing ∧ s.activeConnections = remain) := by
  cases act with
  | call => simp [step, incrementConnections]
  | made ok =>
    rw [step]
    split
    · simp
    · split <;> simp [decrementConnections]
  | abandon =>
    rw [step]
    split <;> simp
  | cloneGuard =>
    rw [step]
    split <;> simp [incrementConnections]
  | dropGuard =>
    rw [step]
    split <;> simp [decrementConnections]
  | waitForConnections timeout =>
    rw [step]
    split
    · rename_i idle
      simp [idle]
    · simp
  | clock elapsed =>
    rw [step]
    split
    · rename_i checking
      rw [checking]
      split <;> simp
    · simp
  | load =>
    rw [step]
    split
    · rename_i loading
      rw [loading]
      split <;> simp_all
    · rename_i closing
      simp [closing]
    · simp_all

/-- The step of a run in which the wait ends. -/
def EndsAt (acts : List Act) (P : Connections → Prop) : Prop :=
  ∃ before after, acts = before ++ .load :: after ∧ P (run step {} before)

theorem endsAt_concat {acts : List Act} {act : Act} {P : Connections → Prop} :
    EndsAt (acts ++ [act]) P ↔ EndsAt acts P ∨ (act = .load ∧ P (run step {} acts)) := by
  constructor
  · rintro ⟨before, after, split, holds⟩
    cases after using List.reverseRecOn with
    | nil =>
      obtain ⟨rfl, last⟩ := List.append_inj' split rfl
      exact .inr ⟨List.singleton_inj.mp last, holds⟩
    | append_singleton after last =>
      rw [← List.cons_append, ← List.append_assoc] at split
      obtain ⟨rfl, -⟩ := List.append_inj' split rfl
      exact .inl ⟨before, after, rfl, holds⟩
  · rintro (⟨before, after, rfl, holds⟩ | ⟨rfl, holds⟩)
    · exact ⟨before, after ++ [act], by simp, holds⟩
    · exact ⟨acts, [], rfl, holds⟩

theorem run_wait (acts : List Act) :
    ((run step {} acts).wait = .stopped ↔ EndsAt acts fun s => s.wait = .loading ∧ s.activeConnections = 0) ∧
    ∀ remain, (run step {} acts).wait = .forced remain ↔ EndsAt acts fun s => s.wait = .closing ∧ s.activeConnections = remain := by
  induction acts using List.reverseRecOn with
  | nil =>
    have never (P : Connections → Prop) : ¬ EndsAt [] P := by
      rintro ⟨before, after, split, -⟩
      simp at split
    simp [never]
  | append_singleton acts act ih =>
    have last : run step {} (acts ++ [act]) = (run step {} acts).step act := run_append step {} acts [act]
    simp only [last, endsAt_concat, step_wait.1, step_wait.2, ih.1, ih.2]
    simp

/-- The proxy reports that it has stopped exactly when, inside the time, it looked at the counter
while nobody was connected or connecting and no connection had been abandoned half made; otherwise
it reports how many of these there were when the time was over. -/
theorem stopped_iff_nobody_connected (acts : List Act) (fits : Throughout step Fits {} acts) :
    ((run step {} acts).wait = .stopped ↔ EndsAt acts fun s => s.wait = .loading ∧ s.counted = 0) ∧
    ∀ remain, (run step {} acts).wait = .forced remain ↔ EndsAt acts fun s => s.wait = .closing ∧ s.counted = remain.toNat := by
  have value {before after : List Act} (split : acts = before ++ .load :: after) :
      (run step {} before).activeConnections.toNat = (run step {} before).counted := by
    rw [run_counts before, BitVec.toNat_ofNat, Nat.mod_eq_of_lt (throughout_iff.mp fits before _ split)]
  obtain ⟨stops, forces⟩ := run_wait acts
  refine ⟨stops.trans ?_, fun remain => (forces remain).trans ?_⟩
  · refine exists_congr fun before => exists_congr fun after => and_congr_right fun split => and_congr_right fun _ => ?_
    rw [← value split]
    exact BitVec.toNat_inj.symm
  · refine exists_congr fun before => exists_congr fun after => and_congr_right fun split => and_congr_right fun _ => ?_
    rw [← value split]
    exact BitVec.toNat_inj.symm

/-- One connection, closed between two looks at the counter. -/
def lastGuard : List Act := [.call, .made true, .waitForConnections 10000, .clock 0, .load, .dropGuard, .clock 100, .load]

theorem last_guard_stops : (run step {} lastGuard).wait = .stopped :=
  (stopped_iff_nobody_connected lastGuard (run_fits (by decide))).1.mpr ⟨lastGuard.take 7, [], rfl, rfl, rfl⟩

end Connections

end Anycode.Proxy
