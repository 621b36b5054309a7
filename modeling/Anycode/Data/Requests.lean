import Anycode.Data.Run
import Mathlib.Data.List.Induction
import Mathlib.Data.List.Nodup

/-!
# Requests over a bounded channel

Callers put commands into a bounded channel, one server takes them out and serves each in phases,
and every caller waits for the answer to its own command, for a while. The shared state that the
server works on has other writers.
-/

namespace Anycode.Data

/-- How a command is begun, what a phase of it does, and what other writers do. -/
structure Service (σ C π R ε : Type) where
  begins : C → π
  advance : σ → π → σ × (π ⊕ R)
  event : σ → ε → σ

namespace Exchange

/-- Where a caller is: before the channel, waiting for the answer, with the answer ready to be
received or received, or gone without one. -/
inductive Stage (R : Type) where
  | sending
  | waiting
  | replied (reply : R)
  | received (reply : R)
  | timedOut
  | disconnected
  deriving DecidableEq

def Stage.answer {R : Type} : Stage R → Option R
  | .replied reply | .received reply => some reply
  | _ => none

structure Call (C R : Type) where
  command : C
  stage : Stage R

/-- The answer reaches a caller that is still there. -/
def Call.reply {C R : Type} (call : Call C R) (answer : R) : Call C R :=
  match call.stage with
  | .waiting => { call with stage := .replied answer }
  | _ => call

/-- A command that the server has dealt with, and what it answered. -/
structure Handled (C R : Type) where
  caller : Nat
  command : C
  reply : R

def Handled.request {C R : Type} (handled : Handled C R) : Nat × C := (handled.caller, handled.command)

end Exchange

open Exchange in
/-- `accepted` is what has gone into the channel, `handled` what the server has dealt with. -/
structure Exchange (σ C π R : Type) where
  shared : σ
  calls : List (Call C R) := []
  channel : List (Nat × C) := []
  serving : Option (Nat × C × π) := none
  running : Bool := true
  accepted : List (Nat × C) := []
  handled : List (Handled C R) := []

inductive Exchange.Act (C ε : Type) where
  | call (command : C)
  | send (i : Nat)
  | take
  | advance
  | receive (i : Nat)
  | timeout (i : Nat)
  | stop
  | event (e : ε)

namespace Exchange
variable {σ C π R ε : Type}

def setStage (s : Exchange σ C π R) (i : Nat) (stage : Stage R) : Exchange σ C π R :=
  { s with calls := s.calls.modify i fun call => { call with stage := stage } }

def stageOf (s : Exchange σ C π R) (i : Nat) : Option (Stage R) := (s.calls[i]?).map Call.stage

/-- The command that is being served. -/
def current (s : Exchange σ C π R) : List (Nat × C) := (s.serving.map fun (i, command, _) => (i, command)).toList

variable (capacity : Nat) (service : Service σ C π R ε)

def send (s : Exchange σ C π R) (i : Nat) : Exchange σ C π R :=
  match s.calls[i]? with
  | some ⟨command, .sending⟩ =>
    if !s.running then s.setStage i .disconnected
    else if s.channel.length < capacity then
      { s.setStage i .waiting with
        channel := s.channel ++ [(i, command)]
        accepted := s.accepted ++ [(i, command)] }
    else s
  | _ => s

def take (s : Exchange σ C π R) : Exchange σ C π R :=
  match s.running, s.serving, s.channel with
  | true, none, (i, command) :: rest => { s with channel := rest, serving := some (i, command, service.begins command) }
  | _, _, _ => s

def advance (s : Exchange σ C π R) : Exchange σ C π R :=
  match s.serving with
  | none => s
  | some (i, command, phase) =>
    match service.advance s.shared phase with
    | (shared, .inl phase) => { s with shared := shared, serving := some (i, command, phase) }
    | (shared, .inr answer) =>
      { s with
        shared := shared
        calls := s.calls.modify i (·.reply answer)
        serving := none
        handled := s.handled ++ [⟨i, command, answer⟩] }

def receive (s : Exchange σ C π R) (i : Nat) : Exchange σ C π R :=
  match s.stageOf i with
  | some (.replied reply) => s.setStage i (.received reply)
  | some .waiting => if s.running then s else s.setStage i .disconnected
  | _ => s

/-- An answer that is there is received even when the time is over. -/
def timeout (s : Exchange σ C π R) (i : Nat) : Exchange σ C π R :=
  match s.stageOf i with
  | some .waiting => s.setStage i .timedOut
  | some (.replied reply) => s.setStage i (.received reply)
  | _ => s

def step (s : Exchange σ C π R) : Act C ε → Exchange σ C π R
  | .call command => { s with calls := s.calls ++ [⟨command, .sending⟩] }
  | .send i => s.send capacity i
  | .take => s.take service
  | .advance => s.advance service
  | .receive i => s.receive i
  | .timeout i => s.timeout i
  | .stop => { s with running := false, channel := [], serving := none }
  | .event e => { s with shared := service.event s.shared e }

/-- What a caller's stage says about the server's side. -/
def CallSound (s : Exchange σ C π R) (i : Nat) (call : Call C R) : Prop :=
  match call.stage with
  | .sending => i ∉ s.accepted.map Prod.fst
  | .waiting => (s.running = true → (i, call.command) ∈ s.current ++ s.channel) ∧ i ∉ s.handled.map Handled.caller
  | .replied answer | .received answer => ⟨i, call.command, answer⟩ ∈ s.handled
  | .timedOut => True
  | .disconnected => s.running = false ∧ i ∉ s.handled.map Handled.caller

structure Invariant (s : Exchange σ C π R) : Prop where
  bounded : s.channel.length ≤ capacity
  accounted : s.running = true → s.accepted = s.handled.map Handled.request ++ s.current ++ s.channel
  inOrder : s.handled.map Handled.request <+: s.accepted
  stopped : s.running = false → s.serving = none
  distinct : (s.accepted.map Prod.fst).Nodup
  owned : ∀ request ∈ s.accepted, ∃ call, s.calls[request.1]? = some call ∧ call.command = request.2
  calls : ∀ i call, s.calls[i]? = some call → s.CallSound i call

/-- Nothing that was accepted is lost, repeated or overtaken, and every answer is with the caller
whose command it answers, unless that caller has given up. -/
structure Delivers (s : Exchange σ C π R) : Prop where
  bounded : s.channel.length ≤ capacity
  accounted : s.running = true → s.accepted = s.handled.map Handled.request ++ s.current ++ s.channel
  inOrder : s.handled.map Handled.request <+: s.accepted
  once : (s.handled.map Handled.caller).Nodup
  own : ∀ entry ∈ s.handled, ∃ call, s.calls[entry.caller]? = some call ∧ call.command = entry.command ∧
    (call.stage.answer = some entry.reply ∨ call.stage = .timedOut)
  answered : ∀ i call answer, s.calls[i]? = some call → call.stage.answer = some answer →
    ⟨i, call.command, answer⟩ ∈ s.handled

variable {capacity service}

theorem setStage_own {s : Exchange σ C π R} {i : Nat} {call : Call C R} (stage : Stage R) (here : s.calls[i]? = some call) :
    (s.setStage i stage).calls[i]? = some ⟨call.command, stage⟩ := by
  refine (List.getElem?_modify_eq _ _ _).trans ?_
  rw [here]
  rfl

theorem setStage_other {s : Exchange σ C π R} {i j : Nat} (stage : Stage R) (other : i ≠ j) :
    (s.setStage i stage).calls[j]? = s.calls[j]? := List.getElem?_modify_ne _ _ other

theorem command_setStage {s : Exchange σ C π R} (i : Nat) (stage : Stage R) {j : Nat} {call : Call C R}
    (here : s.calls[j]? = some call) :
    ∃ moved, (s.setStage i stage).calls[j]? = some moved ∧ moved.command = call.command := by
  by_cases same : i = j
  · subst same
    exact ⟨_, setStage_own stage here, rfl⟩
  · exact ⟨call, (setStage_other stage same).trans here, rfl⟩

theorem command_reply (call : Call C R) (answer : R) : (call.reply answer).command = call.command := by
  rw [Call.reply]
  split <;> rfl

theorem command_answered {calls : List (Call C R)} (i : Nat) (answer : R) {j : Nat} {call : Call C R}
    (here : calls[j]? = some call) :
    ∃ moved, (calls.modify i (·.reply answer))[j]? = some moved ∧ moved.command = call.command := by
  by_cases same : i = j
  · subst same
    refine ⟨call.reply answer, ?_, command_reply call answer⟩
    rw [List.getElem?_modify_eq, here]
    rfl
  · exact ⟨call, (List.getElem?_modify_ne _ _ same).trans here, rfl⟩

theorem stageOf_eq_some {s : Exchange σ C π R} {i : Nat} {stage : Stage R} :
    s.stageOf i = some stage ↔ ∃ command, s.calls[i]? = some ⟨command, stage⟩ := by
  rw [stageOf, Option.map_eq_some_iff]
  constructor
  · rintro ⟨call, here, rfl⟩
    exact ⟨call.command, here⟩
  · rintro ⟨command, here⟩
    exact ⟨_, here, rfl⟩

theorem handled_accepted {s : Exchange σ C π R} (inv : s.Invariant capacity) {i : Nat}
    (handled : i ∈ s.handled.map Handled.caller) : i ∈ s.accepted.map Prod.fst := by
  obtain ⟨entry, member, rfl⟩ := List.mem_map.mp handled
  exact List.mem_map.mpr ⟨entry.request, inv.inOrder.subset (List.mem_map.mpr ⟨entry, member, rfl⟩), rfl⟩

theorem accepted_lt {s : Exchange σ C π R} (inv : s.Invariant capacity) {i : Nat} (accepted : i ∈ s.accepted.map Prod.fst) :
    i < s.calls.length := by
  obtain ⟨request, member, rfl⟩ := List.mem_map.mp accepted
  obtain ⟨call, here, -⟩ := inv.owned request member
  exact (List.getElem?_eq_some_iff.mp here).1

/-- What is known of a caller stays known while the server's side changes for others only. -/
theorem CallSound.frame {s t : Exchange σ C π R} {i : Nat} {call : Call C R} (sound : s.CallSound i call)
    (accepted : i ∈ t.accepted.map Prod.fst → i ∈ s.accepted.map Prod.fst)
    (kept : ∀ entry ∈ s.handled, entry ∈ t.handled)
    (handled : i ∈ t.handled.map Handled.caller → i ∈ s.handled.map Handled.caller)
    (running : t.running = true → s.running = true)
    (pending : t.running = true → ∀ command, (i, command) ∈ s.current ++ s.channel → (i, command) ∈ t.current ++ t.channel) :
    t.CallSound i call := by
  obtain ⟨command, stage⟩ := call
  cases stage with
  | sending => exact fun entered => sound (accepted entered)
  | waiting => exact ⟨fun runs => pending runs command (sound.1 (running runs)), fun done => sound.2 (handled done)⟩
  | replied answer | received answer => exact kept _ sound
  | timedOut => trivial
  | disconnected =>
    exact ⟨Bool.eq_false_iff.mpr fun runs => Bool.eq_false_iff.mp sound.1 (running runs), fun done => sound.2 (handled done)⟩

/-- A change of one caller's stage that the server's side bears out. -/
theorem invariant_setStage {s : Exchange σ C π R} (inv : s.Invariant capacity) {i : Nat} {call : Call C R}
    (here : s.calls[i]? = some call) {stage : Stage R} (sound : (s.setStage i stage).CallSound i ⟨call.command, stage⟩) :
    (s.setStage i stage).Invariant capacity := by
  refine ⟨inv.bounded, inv.accounted, inv.inOrder, inv.stopped, inv.distinct, ?owned, ?calls⟩
  case owned =>
    intro request member
    obtain ⟨owner, there, same⟩ := inv.owned request member
    obtain ⟨moved, found, kept⟩ := command_setStage i stage there
    exact ⟨moved, found, kept.trans same⟩
  case calls =>
    intro j other there
    by_cases same : i = j
    · subst same
      rw [Option.some.inj (there.symm.trans (setStage_own stage here))]
      exact sound
    · rw [setStage_other stage same] at there
      exact (inv.calls j other there).frame id (fun _ => id) id id fun _ _ => id

theorem invariant_call {s : Exchange σ C π R} (inv : s.Invariant capacity) (command : C) :
    (s.step capacity service (.call command)).Invariant capacity := by
  refine ⟨inv.bounded, inv.accounted, inv.inOrder, inv.stopped, inv.distinct, ?owned, ?calls⟩
  case owned =>
    intro request member
    obtain ⟨call, here, same⟩ := inv.owned request member
    exact ⟨call, (List.getElem?_append_left (List.getElem?_eq_some_iff.mp here).1).trans here, same⟩
  case calls =>
    intro i call here
    rcases Nat.lt_trichotomy i s.calls.length with before | last | after
    · exact (inv.calls i call ((List.getElem?_append_left before).symm.trans here)).frame id (fun _ => id) id id fun _ _ => id
    · subst last
      have fresh : call = ⟨command, .sending⟩ := Option.some.inj (here.symm.trans List.getElem?_concat_length)
      subst fresh
      exact fun entered => Nat.lt_irrefl _ (accepted_lt inv entered)
    · have inside := (List.getElem?_eq_some_iff.mp here).1
      have longer : i < (s.calls ++ [(⟨command, .sending⟩ : Call C R)]).length := inside
      rw [List.length_append, List.length_singleton] at longer
      omega

theorem invariant_send {s : Exchange σ C π R} (inv : s.Invariant capacity) (i : Nat) : (s.send capacity i).Invariant capacity := by
  rw [send]
  split
  · rename_i command here
    have fresh : i ∉ s.accepted.map Prod.fst := inv.calls i _ here
    have unhandled : i ∉ s.handled.map Handled.caller := fun handled => fresh (handled_accepted inv handled)
    split
    · rename_i ended
      exact invariant_setStage inv here ⟨Bool.not_eq_true' s.running |>.mp ended, unhandled⟩
    · split
      · rename_i room
        refine ⟨?bounded, ?accounted, inv.inOrder.trans (List.prefix_append _ _), inv.stopped, ?distinct, ?owned, ?calls⟩
        case bounded =>
          rw [List.length_append, List.length_singleton]
          exact room
        case accounted =>
          intro runs
          show s.accepted ++ [(i, command)] = s.handled.map Handled.request ++ s.current ++ (s.channel ++ [(i, command)])
          rw [inv.accounted runs, List.append_assoc _ s.channel]
        case distinct =>
          rw [List.map_append]
          exact List.nodup_append.mpr ⟨inv.distinct, List.pairwise_singleton _ _, fun _ before _ last same =>
            fresh (by rwa [same, List.mem_singleton.mp last] at before)⟩
        case owned =>
          intro request member
          rcases List.mem_append.mp member with before | last
          · obtain ⟨owner, there, same⟩ := inv.owned request before
            obtain ⟨moved, found, kept⟩ := command_setStage i .waiting there
            exact ⟨moved, found, kept.trans same⟩
          · rw [List.mem_singleton.mp last]
            exact ⟨_, setStage_own .waiting here, rfl⟩
        case calls =>
          intro j call there
          by_cases same : i = j
          · subst same
            rw [Option.some.inj (there.symm.trans (setStage_own .waiting here))]
            exact ⟨fun _ => List.mem_append_right _ (List.mem_append_right _ (List.mem_singleton.mpr rfl)), unhandled⟩
          · refine (inv.calls j call ((setStage_other .waiting same).symm.trans there)).frame ?_ (fun _ => id) id id ?_
            · intro entered
              rw [List.map_append] at entered
              exact (List.mem_append.mp entered).resolve_right fun last => same (List.mem_singleton.mp last).symm
            · intro _ command waits
              rcases List.mem_append.mp waits with served | queued
              · exact List.mem_append_left _ served
              · exact List.mem_append_right _ (List.mem_append_left _ queued)
      · exact inv
  · exact inv

theorem invariant_take {s : Exchange σ C π R} (inv : s.Invariant capacity) : (s.take service).Invariant capacity := by
  rw [take]
  split
  · rename_i i command rest running idle queued
    have same : s.current ++ s.channel = (i, command) :: rest := by rw [current, idle, queued]; rfl
    refine ⟨?bounded, ?accounted, inv.inOrder, ?stopped, inv.distinct, inv.owned, ?calls⟩
    case bounded =>
      have bounded := inv.bounded
      rw [queued] at bounded
      exact Nat.le_of_succ_le bounded
    case accounted =>
      intro runs
      rw [inv.accounted runs, List.append_assoc, same, List.append_assoc]
      rfl
    case stopped => exact fun ended => absurd running (Bool.eq_false_iff.mp ended)
    case calls =>
      intro j call there
      refine (inv.calls j call there).frame id (fun _ => id) id id fun _ command waits => ?_
      rwa [same] at waits
  · exact inv

theorem serving_running {s : Exchange σ C π R} (inv : s.Invariant capacity) {served : Nat × C × π}
    (serving : s.serving = some served) : s.running = true := by
  cases running : s.running with
  | true => rfl
  | false =>
    rw [inv.stopped running] at serving
    cases serving

/-- The end of a command: it is no longer served, and its caller gets the answer if it still waits. -/
theorem invariant_answer {s : Exchange σ C π R} (inv : s.Invariant capacity) {i : Nat} {command : C} {phase : π}
    (serving : s.serving = some (i, command, phase)) (answer : R) (shared : σ) :
    ({ s with
        shared := shared
        calls := s.calls.modify i (·.reply answer)
        serving := none
        handled := s.handled ++ [⟨i, command, answer⟩] } : Exchange σ C π R).Invariant capacity := by
  have running := serving_running inv serving
  have current : s.current = [(i, command)] := by rw [Exchange.current, serving]; rfl
  have accounted := inv.accounted running
  rw [current] at accounted
  have split : s.accepted = (s.handled ++ [(⟨i, command, answer⟩ : Handled C R)]).map Handled.request ++ s.channel := by
    rw [accounted, List.map_append]
    rfl
  refine ⟨inv.bounded, fun _ => ?accounted, ?inOrder, fun _ => rfl, inv.distinct, ?owned, ?calls⟩
  case accounted => exact split.trans (by simp [Exchange.current])
  case inOrder => exact split ▸ List.prefix_append _ _
  case owned =>
    intro request member
    obtain ⟨owner, here, same⟩ := inv.owned request member
    obtain ⟨moved, there, kept⟩ := command_answered i answer here
    exact ⟨moved, there, kept.trans same⟩
  case calls =>
    intro j call there
    by_cases own : i = j
    · subst own
      have entered : (i, command) ∈ s.accepted := by
        rw [accounted]
        exact List.mem_append_left _ (List.mem_append_right _ (List.mem_singleton.mpr rfl))
      obtain ⟨⟨_, stage⟩, here, rfl⟩ := inv.owned _ entered
      have sound := inv.calls i _ here
      have moved := List.getElem?_modify_eq (·.reply answer) i s.calls
      rw [here] at moved
      rw [← Option.some.inj (moved.symm.trans there)]
      cases stage with
      | sending => exact absurd (List.mem_map.mpr ⟨_, entered, rfl⟩) sound
      | waiting => exact List.mem_append_right _ (List.mem_singleton.mpr rfl)
      | replied other | received other => exact List.mem_append_left _ sound
      | timedOut => trivial
      | disconnected => exact absurd running (Bool.eq_false_iff.mp sound.1)
    · refine (inv.calls j call ((List.getElem?_modify_ne _ _ own).symm.trans there)).frame id
        (fun _ => List.mem_append_left _) ?_ id ?_
      · intro handled
        rw [List.map_append] at handled
        exact (List.mem_append.mp handled).resolve_right fun last => own (List.mem_singleton.mp last).symm
      · intro _ other waits
        rw [current] at waits
        refine (List.mem_append.mp waits).resolve_left fun served => own ?_
        exact (congrArg Prod.fst (List.mem_singleton.mp served)).symm

theorem invariant_advance {s : Exchange σ C π R} (inv : s.Invariant capacity) : (s.advance service).Invariant capacity := by
  rw [advance]
  split
  · exact inv
  · rename_i i command phase serving
    split
    · rename_i shared next _
      have current : s.current = [(i, command)] := by rw [Exchange.current, serving]; rfl
      refine ⟨inv.bounded, fun runs => ?_, inv.inOrder, fun ended => ?_, inv.distinct, inv.owned, fun j call there => ?_⟩
      · rw [inv.accounted runs, current]
        rfl
      · exact absurd (serving_running inv serving) (Bool.eq_false_iff.mp ended)
      · refine (inv.calls j call there).frame id (fun _ => id) id id fun _ other waits => ?_
        rwa [current] at waits
    · exact invariant_answer inv serving _ _

theorem invariant_receive {s : Exchange σ C π R} (inv : s.Invariant capacity) (i : Nat) : (s.receive i).Invariant capacity := by
  rw [receive]
  split
  · rename_i answer ready
    obtain ⟨command, here⟩ := stageOf_eq_some.mp ready
    exact invariant_setStage inv here (inv.calls i _ here)
  · rename_i waits
    obtain ⟨command, here⟩ := stageOf_eq_some.mp waits
    split
    · exact inv
    · rename_i ended
      exact invariant_setStage inv here ⟨Bool.eq_false_iff.mpr ended, (inv.calls i _ here).2⟩
  · exact inv

theorem invariant_timeout {s : Exchange σ C π R} (inv : s.Invariant capacity) (i : Nat) : (s.timeout i).Invariant capacity := by
  rw [timeout]
  split
  · rename_i waits
    obtain ⟨command, here⟩ := stageOf_eq_some.mp waits
    exact invariant_setStage inv here trivial
  · rename_i answer ready
    obtain ⟨command, here⟩ := stageOf_eq_some.mp ready
    exact invariant_setStage inv here (inv.calls i _ here)
  · exact inv

theorem step_invariant (s : Exchange σ C π R) (act : Act C ε) (inv : s.Invariant capacity) :
    (s.step capacity service act).Invariant capacity := by
  cases act with
  | call command => exact invariant_call inv command
  | send i => exact invariant_send inv i
  | take => exact invariant_take inv
  | advance => exact invariant_advance inv
  | receive i => exact invariant_receive inv i
  | timeout i => exact invariant_timeout inv i
  | stop =>
    refine ⟨Nat.zero_le _, nofun, inv.inOrder, fun _ => rfl, inv.distinct, inv.owned, fun i call here => ?_⟩
    exact (inv.calls i call here).frame id (fun _ => id) id nofun nofun
  | event e =>
    refine ⟨inv.bounded, inv.accounted, inv.inOrder, inv.stopped, inv.distinct, inv.owned, fun i call here => ?_⟩
    exact (inv.calls i call here).frame id (fun _ => id) id id fun _ _ => id

theorem run_invariant {shared : σ} (acts : List (Act C ε)) :
    (run (step capacity service) { shared := shared } acts).Invariant capacity := by
  refine Data.run_invariant (G := fun _ _ => True) (fun s act inv _ => step_invariant s act inv) ?_
    (along_iff.mpr fun _ _ _ _ => trivial)
  exact ⟨Nat.zero_le _, fun _ => rfl, List.prefix_rfl, nofun, List.nodup_nil, nofun, nofun⟩

theorem delivers_of_invariant {s : Exchange σ C π R} (inv : s.Invariant capacity) : s.Delivers capacity := by
  have once : (s.handled.map Handled.caller).Nodup := by
    have kept := (inv.inOrder.map Prod.fst).sublist.nodup inv.distinct
    rwa [List.map_map] at kept
  have answered : ∀ i call answer, s.calls[i]? = some call → call.stage.answer = some answer →
      ⟨i, call.command, answer⟩ ∈ s.handled := by
    intro i ⟨command, stage⟩ answer here there
    have sound := inv.calls i _ here
    cases stage with
    | replied other | received other =>
      cases there
      exact sound
    | sending | waiting | timedOut | disconnected => cases there
  refine ⟨inv.bounded, inv.accounted, inv.inOrder, once, fun entry member => ?_, answered⟩
  have accepted := inv.inOrder.subset (List.mem_map.mpr ⟨entry, member, rfl⟩)
  obtain ⟨⟨command, stage⟩, here, same⟩ := inv.owned _ accepted
  refine ⟨_, here, same, ?_⟩
  have sound := inv.calls entry.caller _ here
  have handled : entry.caller ∈ s.handled.map Handled.caller := List.mem_map.mpr ⟨entry, member, rfl⟩
  cases stage with
  | sending => exact absurd (handled_accepted inv handled) sound
  | waiting => exact absurd handled sound.2
  | replied answer | received answer =>
    have same := congrArg Handled.reply (List.inj_on_of_nodup_map once sound member rfl)
    exact .inl (congrArg some same)
  | timedOut => exact .inr rfl
  | disconnected => exact absurd handled sound.2

/-! ### What the answers are true of -/

/-- The shared states that a run goes through, the first and the last included. -/
def visited (capacity : Nat) (service : Service σ C π R ε) (s : Exchange σ C π R) : List (Act C ε) → List σ
  | [] => [s.shared]
  | act :: rest => s.shared :: visited capacity service (s.step capacity service act) rest

theorem visited_concat (s : Exchange σ C π R) (acts : List (Act C ε)) (act : Act C ε) :
    visited capacity service s (acts ++ [act]) =
      visited capacity service s acts ++ [(run (step capacity service) s (acts ++ [act])).shared] := by
  induction acts generalizing s with
  | nil => rfl
  | cons first rest ih => exact congrArg (s.shared :: ·) (ih _)

variable (capacity service) in
theorem getLast_visited (s : Exchange σ C π R) (acts : List (Act C ε)) :
    (visited capacity service s acts).getLast? = some (run (step capacity service) s acts).shared := by
  induction acts generalizing s with
  | nil => rfl
  | cons first rest ih =>
    rw [visited, List.getLast?_cons, ih]
    rfl

/-- What is true while a command is served, of the states since it was taken out, and what is true
of its answer then. -/
structure Truthful (service : Service σ C π R ε) (During : C → π → List σ → Prop) (After : C → R → List σ → Prop) : Prop where
  begins : ∀ command shared, During command (service.begins command) [shared]
  goesOn : ∀ command phase trace shared, During command phase trace → During command phase (trace ++ [shared])
  advances : ∀ command phase trace shared next later, During command phase trace → trace.getLast? = some shared →
    service.advance shared phase = (next, .inl later) → During command later (trace ++ [next])
  answers : ∀ command phase trace shared next answer, During command phase trace → trace.getLast? = some shared →
    service.advance shared phase = (next, .inr answer) → After command answer (trace ++ [next])

/-- The answer is true of a stretch of the run that begins with the command accepted and not yet
served, and ends with the answer given. -/
def Witnessed (capacity : Nat) (service : Service σ C π R ε) (After : C → R → List σ → Prop) (shared : σ)
    (acts : List (Act C ε)) (entry : Handled C R) : Prop :=
  ∃ before during after, acts = before ++ during ++ after ∧
    entry.request ∈ (run (step capacity service) { shared := shared } before).accepted ∧
    entry ∉ (run (step capacity service) { shared := shared } before).handled ∧
    entry ∈ (run (step capacity service) { shared := shared } (before ++ during)).handled ∧
    After entry.command entry.reply (visited capacity service (run (step capacity service) { shared := shared } before) during)

/-- What a step does to the command that is served and to those that are handled. -/
inductive Progress (service : Service σ C π R ε) (s t : Exchange σ C π R) : Prop where
  | quiet (serving : t.serving = s.serving ∨ t.serving = none) (handled : t.handled = s.handled)
  | taken (i : Nat) (command : C) (serving : t.serving = some (i, command, service.begins command))
      (handled : t.handled = s.handled)
  | advanced (i : Nat) (command : C) (phase later : π) (serving : s.serving = some (i, command, phase))
      (done : service.advance s.shared phase = (t.shared, .inl later)) (serves : t.serving = some (i, command, later))
      (handled : t.handled = s.handled)
  | answered (i : Nat) (command : C) (phase : π) (answer : R) (serving : s.serving = some (i, command, phase))
      (done : service.advance s.shared phase = (t.shared, .inr answer)) (free : t.serving = none)
      (handled : t.handled = s.handled ++ [⟨i, command, answer⟩])

theorem progress_send (s : Exchange σ C π R) (i : Nat) : Progress service s (s.send capacity i) := by
  rw [send]
  split
  · split
    · exact .quiet (.inl rfl) rfl
    · split <;> exact .quiet (.inl rfl) rfl
  · exact .quiet (.inl rfl) rfl

theorem progress_take (s : Exchange σ C π R) : Progress service s (s.take service) := by
  rw [take]
  split
  · rename_i i command _ _ _ _
    exact .taken i command rfl rfl
  · exact .quiet (.inl rfl) rfl

theorem progress_advance (s : Exchange σ C π R) : Progress service s (s.advance service) := by
  rw [advance]
  split
  · exact .quiet (.inl rfl) rfl
  · rename_i i command phase serving
    split
    · rename_i later done
      exact .advanced i command phase later serving done rfl rfl
    · rename_i answer done
      exact .answered i command phase answer serving done rfl rfl

variable (capacity service) in
theorem progress_step (s : Exchange σ C π R) (act : Act C ε) : Progress service s (s.step capacity service act) := by
  cases act with
  | call | event => exact .quiet (.inl rfl) rfl
  | send i => exact progress_send s i
  | take => exact progress_take s
  | advance => exact progress_advance s
  | receive i =>
    rw [step, receive]
    split
    · exact .quiet (.inl rfl) rfl
    · split <;> exact .quiet (.inl rfl) rfl
    · exact .quiet (.inl rfl) rfl
  | timeout i =>
    rw [step, timeout]
    split <;> exact .quiet (.inl rfl) rfl
  | stop => exact .quiet (.inr rfl) rfl

/-- The command that is served is accepted and not yet handled. -/
theorem unhandled_of_serving {s : Exchange σ C π R} (inv : s.Invariant capacity) {i : Nat} {command : C} {phase : π}
    (serving : s.serving = some (i, command, phase)) : (i, command) ∈ s.accepted ∧ i ∉ s.handled.map Handled.caller := by
  have current : s.current = [(i, command)] := by rw [Exchange.current, serving]; rfl
  have distinct := inv.distinct
  rw [inv.accounted (serving_running inv serving), current, List.append_assoc] at distinct ⊢
  refine ⟨List.mem_append_right _ List.mem_cons_self, fun handled => ?_⟩
  rw [List.map_append, List.map_map] at distinct
  exact (List.nodup_append.mp distinct).2.2 i handled i (List.mem_map.mpr ⟨_, List.mem_cons_self, rfl⟩) rfl

/-- The command that is served was accepted and not yet handled when it was taken out. -/
def Pending (capacity : Nat) (service : Service σ C π R ε) (During : C → π → List σ → Prop) (shared : σ)
    (acts : List (Act C ε)) (served : Nat × C × π) : Prop :=
  ∃ before during, acts = before ++ during ∧
    (served.1, served.2.1) ∈ (run (step capacity service) { shared := shared } before).accepted ∧
    served.1 ∉ (run (step capacity service) { shared := shared } before).handled.map Handled.caller ∧
    During served.2.1 served.2.2 (visited capacity service (run (step capacity service) { shared := shared } before) during)

variable {During : C → π → List σ → Prop} {After : C → R → List σ → Prop}

theorem pending_later {shared : σ} {acts : List (Act C ε)} {act : Act C ε} {i : Nat} {command : C} {phase later : π}
    (pending : Pending capacity service During shared acts (i, command, phase))
    (next : ∀ trace, During command phase trace →
      trace.getLast? = some (run (step capacity service) { shared := shared } acts).shared →
      During command later (trace ++ [(run (step capacity service) { shared := shared } (acts ++ [act])).shared])) :
    Pending capacity service During shared (acts ++ [act]) (i, command, later) := by
  obtain ⟨before, during, rfl, accepted, unhandled, holds⟩ := pending
  refine ⟨before, during ++ [act], (List.append_assoc _ _ _), accepted, unhandled, ?_⟩
  rw [visited_concat]
  have last := getLast_visited capacity service (run (step capacity service) { shared := shared } before) during
  rw [← run_append] at last ⊢
  rw [← List.append_assoc]
  exact next _ holds last

theorem witnessed_later {shared : σ} {acts : List (Act C ε)} (act : Act C ε) {entry : Handled C R}
    (witnessed : Witnessed capacity service After shared acts entry) :
    Witnessed capacity service After shared (acts ++ [act]) entry := by
  obtain ⟨before, during, after, rfl, facts⟩ := witnessed
  exact ⟨before, during, after ++ [act], (List.append_assoc _ _ _), facts⟩

theorem witnessed_answer {shared : σ} {acts : List (Act C ε)} {act : Act C ε} {i : Nat} {command : C} {phase : π} {answer : R}
    (pending : Pending capacity service During shared acts (i, command, phase))
    (handled : ⟨i, command, answer⟩ ∈ (run (step capacity service) { shared := shared } (acts ++ [act])).handled)
    (next : ∀ trace, During command phase trace →
      trace.getLast? = some (run (step capacity service) { shared := shared } acts).shared →
      After command answer (trace ++ [(run (step capacity service) { shared := shared } (acts ++ [act])).shared])) :
    Witnessed capacity service After shared (acts ++ [act]) ⟨i, command, answer⟩ := by
  obtain ⟨before, during, rfl, accepted, unhandled, holds⟩ := pending
  refine ⟨before, during ++ [act], [], ?_, accepted, fun early => unhandled (List.mem_map.mpr ⟨_, early, rfl⟩), ?_, ?_⟩
  · rw [List.append_nil, List.append_assoc]
  · rwa [← List.append_assoc]
  · rw [visited_concat]
    have last := getLast_visited capacity service (run (step capacity service) { shared := shared } before) during
    rw [← run_append] at last ⊢
    rw [← List.append_assoc]
    exact next _ holds last

theorem run_concat (s : Exchange σ C π R) (acts : List (Act C ε)) (act : Act C ε) :
    run (step capacity service) s (acts ++ [act]) = (run (step capacity service) s acts).step capacity service act :=
  run_append (step capacity service) s acts [act]

/-- In every run, what is served and what has been answered is true of the states it was served in. -/
theorem run_truthful (truthful : Truthful service During After) (shared : σ) (acts : List (Act C ε)) :
    (∀ served, (run (step capacity service) { shared := shared } acts).serving = some served →
        Pending capacity service During shared acts served) ∧
      ∀ entry ∈ (run (step capacity service) { shared := shared } acts).handled,
        Witnessed capacity service After shared acts entry := by
  induction acts using List.reverseRecOn with
  | nil => exact ⟨nofun, nofun⟩
  | append_singleton acts act ih =>
    obtain ⟨pending, witnessed⟩ := ih
    have moved := progress_step capacity service (run (step capacity service) { shared := shared } acts) act
    rw [← run_concat] at moved
    cases moved with
    | quiet serving handled =>
      refine ⟨fun served now => ?_, fun entry member => witnessed_later act (witnessed entry (handled ▸ member))⟩
      rcases serving with same | free
      · exact pending_later (pending served (same.symm.trans now)) fun trace holds _ => truthful.goesOn _ _ trace _ holds
      · cases free.symm.trans now
    | taken i command serving handled =>
      refine ⟨fun served now => ?_, fun entry member => witnessed_later act (witnessed entry (handled ▸ member))⟩
      cases serving.symm.trans now
      obtain ⟨accepted, unhandled⟩ := unhandled_of_serving (run_invariant (acts ++ [act])) serving
      exact ⟨acts ++ [act], [], (List.append_nil _).symm, accepted, unhandled, truthful.begins _ _⟩
    | advanced i command phase later serving done serves handled =>
      refine ⟨fun served now => ?_, fun entry member => witnessed_later act (witnessed entry (handled ▸ member))⟩
      cases serves.symm.trans now
      exact pending_later (pending _ serving) fun trace holds last => truthful.advances _ _ trace _ _ _ holds last done
    | answered i command phase answer serving done free handled =>
      refine ⟨fun served now => (nomatch free.symm.trans now), fun entry member => ?_⟩
      rw [handled] at member
      rcases List.mem_append.mp member with before | last
      · exact witnessed_later act (witnessed entry before)
      · rw [List.mem_singleton.mp last]
        refine witnessed_answer (pending _ serving) ?_ fun trace holds last => truthful.answers _ _ trace _ _ _ holds last done
        rw [handled]
        exact List.mem_append_right _ (List.mem_singleton.mpr rfl)

end Exchange

end Anycode.Data
