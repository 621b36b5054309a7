import Anycode.Ui.Liveness

/-!
# Restarts and their automatic retry

A restart resumes the session, which fails when there is no conversation yet: the process exits
before it is ready, and is spawned once more with fresh parameters.
-/

namespace Anycode.Ui
open Data

def Handles (s : MainLoop) (action : Action) (env : Surroundings) (event : AppEvent) : Prop :=
  s.app.shouldQuit = false ∧ action = .next env ∧ s.events.head? = some event

def SpawnsRestart (s : MainLoop) (action : Action) : Prop :=
  ∃ env event, Handles s action env event ∧ event.isRestart = true ∧ env.spawned = true

/-- No restart is requested or begun, and the process of this generation does not exit. -/
def Undisturbed (generation : Nat) (s : MainLoop) : Action → Prop
  | .requestRestartClaude => False
  | .applySettings edit => ∀ changed, edit = some changed → changed.isDirty = false
  | .next _ => ∀ event, s.events.head? = some event → event.isRestart = false ∧ event ≠ .processExit generation
  | _ => True

def LastRestarted (respawns : List Respawn) : Prop :=
  ∃ restart, respawns.getLast? = some restart ∧ restart.source ≠ .buildSpawnParams ∧ restart.spawned = true

/-- Each automatic retry comes right behind a restart that was spawned. -/
def OncePerRestart (respawns : List Respawn) : Prop :=
  ∀ before retry after, respawns = before ++ retry :: after → retry.source = .buildSpawnParams → LastRestarted before

/-- The exits of other generations change nothing; a restarted process that exits before it is
ready is spawned again; and a restart is retried once at most. -/
structure RestartsRetried (actions : List Action) : Prop where
  stale : Along step (fun s action => ∀ env generation, Handles s action env (.processExit generation) →
    generation ≠ s.app.ptyGeneration → step s action = { s with events := s.events.tail }) start actions
  retried : ∀ before restart middle exit after, actions = before ++ restart :: (middle ++ exit :: after) →
    SpawnsRestart (run step start before) restart →
    Along step (Undisturbed (step (run step start before) restart).app.ptyGeneration)
      (step (run step start before) restart) middle →
    Throughout step (fun s => s.app.lifecycle.isReady = false) (step (run step start before) restart) middle →
    ∀ env, Handles (run step (step (run step start before) restart) middle) exit env
        (.processExit (step (run step start before) restart).app.ptyGeneration) →
      (step (run step (step (run step start before) restart) middle) exit).respawns =
        (run step (step (run step start before) restart) middle).respawns ++ [⟨.buildSpawnParams, env.spawned⟩]
  once : OncePerRestart (run step start actions).respawns

/-- No process exit of another generation is handled while a retry is pending. -/
def FlagDown (s : MainLoop) (action : Action) : Prop :=
  ∀ env generation, Handles s action env (.processExit generation) → generation ≠ s.app.ptyGeneration →
    s.restartCanRetry = false

/-! ### One event -/

variable {s : MainLoop} {action : Action} {env : Surroundings} {event : AppEvent}

theorem step_of_handles (handles : Handles s action env event) :
    step s action = MainLoop.handleEvent { s with events := s.events.tail } env event := by
  obtain ⟨running, rfl, head⟩ := handles
  cases events : s.events with
  | nil =>
    rw [events] at head
    cases head
  | cons first rest =>
    rw [events] at head
    cases head
    simp only [step, running, Bool.false_eq_true, if_false, MainLoop.act, events, List.tail_cons]

theorem processExit_stale {generation : Nat} (stale : generation ≠ s.app.ptyGeneration) (spawned : Bool) :
    s.processExit generation spawned = { s with restartCanRetry := false } := by
  simp only [MainLoop.processExit, if_pos stale]

/-- A stale exit is inert exactly if no retry was pending. -/
theorem stale_inert_iff {generation : Nat} (handles : Handles s action env (.processExit generation))
    (stale : generation ≠ s.app.ptyGeneration) :
    step s action = { s with events := s.events.tail } ↔ s.restartCanRetry = false := by
  rw [step_of_handles handles]
  show MainLoop.processExit { s with events := s.events.tail } generation env.spawned = _ ↔ _
  rw [processExit_stale (s := { s with events := s.events.tail }) stale]
  constructor
  · intro inert
    exact (congrArg MainLoop.restartCanRetry inert).symm
  · intro down
    rw [down]

theorem staleInert_iff (actions : List Action) :
    Along step (fun s action => ∀ env generation, Handles s action env (.processExit generation) →
        generation ≠ s.app.ptyGeneration → step s action = { s with events := s.events.tail }) start actions ↔
      Along step FlagDown start actions :=
  along_congr fun _ _ => by
    constructor
    · intro inert env generation handles stale
      exact (stale_inert_iff handles stale).mp (inert env generation handles stale)
    · intro down env generation handles stale
      exact (stale_inert_iff handles stale).mpr (down env generation handles stale)

/-! ### A pending retry -/

/-- The process of this generation was restarted, and may be retried. -/
structure Armed (generation : Nat) (s : MainLoop) : Prop where
  flag : s.restartCanRetry = true
  attached : s.app.lifecycle.isAttached = true
  current : s.app.ptyGeneration = generation
  restarted : 0 < generation

theorem restart_armed (source : SpawnSource) :
    Armed (s.restart source true).app.ptyGeneration (s.restart source true) :=
  ⟨rfl, rfl, rfl, Nat.succ_pos _⟩

theorem handleEvent_restart (restarts : event.isRestart = true) (env : Surroundings) :
    ∃ source, source ≠ .buildSpawnParams ∧ s.handleEvent env event = s.restart source env.spawned := by
  cases event with
  | restartClaude => exact ⟨.sessionResume, nofun, rfl⟩
  | ptyRestart envVars cliArgs => exact ⟨.buildRestartParams envVars cliArgs, nofun, rfl⟩
  | _ => cases restarts

theorem spawnsRestart_armed (restarts : SpawnsRestart s action) :
    Armed (step s action).app.ptyGeneration (step s action) := by
  obtain ⟨env, event, handles, restart, spawned⟩ := restarts
  obtain ⟨source, _, done⟩ := handleEvent_restart (s := { s with events := s.events.tail }) restart env
  rw [step_of_handles handles, done, spawned]
  exact restart_armed source

theorem isAttached_iff {lifecycle : PtyLifecycleState} : lifecycle.isAttached = true ↔ ∃ buffer, lifecycle = .attached buffer := by
  cases lifecycle <;> simp [PtyLifecycleState.isAttached]

/-- The exit of a process that may be retried is followed by the retry. -/
theorem armed_exit {generation : Nat} (armed : Armed generation s)
    (handles : Handles s action env (.processExit generation)) :
    (step s action).respawns = s.respawns ++ [⟨.buildSpawnParams, env.spawned⟩] := by
  obtain ⟨flag, attached, current, restarted⟩ := armed
  obtain ⟨buffer, lifecycle⟩ := isAttached_iff.mp attached
  rw [step_of_handles handles]
  show (MainLoop.processExit { s with events := s.events.tail } generation env.spawned).respawns = _
  have again : s.app.hasRestarted = true := by
    rw [App.hasRestarted, current]
    exact decide_eq_true restarted
  simp only [MainLoop.processExit, current, ne_eq, not_true_eq_false, if_false, lifecycle, PtyLifecycleState.isRestarting,
    PtyLifecycleState.isReady, again, flag, Bool.false_eq_true, Bool.not_false, Bool.and_true, if_true]
  unfold MainLoop.respawnPty
  cases env.spawned <;> rfl

theorem armed_of_same {generation : Nat} {other : MainLoop} (armed : Armed generation s)
    (flag : other.restartCanRetry = s.restartCanRetry) (lifecycle : other.app.lifecycle.isAttached = s.app.lifecycle.isAttached)
    (current : other.app.ptyGeneration = s.app.ptyGeneration) : Armed generation other :=
  ⟨flag.trans armed.flag, lifecycle.trans armed.attached, current.trans armed.current, armed.restarted⟩

theorem sendInput_armed {generation : Nat} (armed : Armed generation s) (bytes : List UInt8) :
    Armed generation { s with app := s.app.sendInput bytes } := by
  obtain ⟨buffer, lifecycle⟩ := isAttached_iff.mp armed.attached
  have buffered : s.app.sendInput bytes = s.app.dispatchPty (.bufferInput bytes) := by
    rw [App.sendInput, lifecycle]
    rfl
  refine armed_of_same armed rfl ?_ ?_
  · show (s.app.sendInput bytes).lifecycle.isAttached = _
    rw [buffered, App.dispatchPty, lifecycle]
    rfl
  · show (s.app.sendInput bytes).ptyGeneration = _
    rw [buffered]
    rfl

theorem sendCommand_app (app : App) (channel : CommandChannel) (command : UiCommand) :
    ∃ e, (app.sendCommand channel command).2.1 = { app with lastIpcError := e } := by
  unfold App.sendCommand
  split <;> exact ⟨_, rfl⟩

/-- An event that does not disturb a pending retry leaves it pending, unless the process is ready. -/
theorem handleEvent_armed {generation : Nat} (armed : Armed generation s) (plain : event.isRestart = false)
    (lives : event ≠ .processExit generation)
    (down : ∀ other, event = .processExit other → other ≠ s.app.ptyGeneration → s.restartCanRetry = false)
    (unready : (s.handleEvent env event).app.lifecycle.isReady = false) : Armed generation (s.handleEvent env event) := by
  cases event with
  | ptyOutput =>
    rw [handleEvent_ptyOutput] at unready ⊢
    obtain ⟨⟨_, current, _⟩, outcome⟩ := onPtyOutput_spec s.app env.cursor
    rcases outcome with ⟨waiting, same⟩ | ⟨_, reduced⟩
    · exact armed_of_same armed (by rw [waiting]; exact Bool.and_true _) (by rw [same]) current
    · obtain ⟨buffer, lifecycle⟩ := isAttached_iff.mp armed.attached
      have ready : (handleIntent (.attached buffer) .gotOutput).1.isReady = true := by cases buffer <;> rfl
      rw [reduced, lifecycle, ready] at unready
      cases unready
  | processExit other =>
    have stale : other ≠ s.app.ptyGeneration := by
      intro same
      exact lives (by rw [same, armed.current])
    have unset := down other rfl stale
    rw [armed.flag] at unset
    cases unset
  | restartClaude => cases plain
  | ptyRestart envVars cliArgs => cases plain
  | shutdown => exact armed_of_same armed rfl rfl rfl
  | other => exact armed

theorem next_armed {generation : Nat} (armed : Armed generation s) (running : s.app.shouldQuit = false)
    (down : FlagDown s (.next env)) (undisturbed : Undisturbed generation s (.next env))
    (unready : (step s (.next env)).app.lifecycle.isReady = false) : Armed generation (step s (.next env)) := by
  cases head : s.events.head? with
  | none =>
    have empty : s.events = [] := List.head?_eq_none_iff.mp head
    have same : step s (.next env) = s := by
      simp only [step, running, Bool.false_eq_true, if_false, MainLoop.act, empty]
    rw [same]
    exact armed
  | some event =>
    have handles : Handles s (.next env) env event := ⟨running, rfl, head⟩
    obtain ⟨plain, lives⟩ := undisturbed event head
    rw [step_of_handles handles] at unready ⊢
    refine handleEvent_armed (armed_of_same armed rfl rfl rfl) plain lives ?_ unready
    intro other same stale
    exact down env other (same ▸ handles) stale

theorem bridge_armed {generation : Nat} (armed : Armed generation s) (saved : Bool) (answers : Nat) :
    Armed generation (s.bridge saved answers) := by
  unfold MainLoop.bridge
  split
  · exact armed
  · exact armed_of_same armed rfl rfl rfl

theorem step_armed {generation : Nat} (armed : Armed generation s) (down : FlagDown s action)
    (undisturbed : Undisturbed generation s action) (unready : (step s action).app.lifecycle.isReady = false) :
    Armed generation (step s action) := by
  cases quit : s.app.shouldQuit with
  | true =>
    have stays : step s action = s := if_pos quit
    rw [stays]
    exact armed
  | false =>
    have acts : step s action = s.act action := if_neg (by rw [quit]; exact Bool.false_ne_true)
    cases action with
    | next env => exact next_armed armed quit down undisturbed unready
    | requestRestartClaude => exact undisturbed.elim
    | sendInput bytes =>
      rw [acts]
      exact sendInput_armed armed bytes
    | applySettings edit =>
      rw [acts]
      cases edit with
      | none => exact armed
      | some changed =>
        simp only [MainLoop.act, applySettings_clean (undisturbed changed rfl)]
        exact armed
    | request command =>
      rw [acts]
      unfold MainLoop.act
      dsimp only
      split
      · exact armed
      · obtain ⟨e, same⟩ := sendCommand_app s.app s.channel command
        exact armed_of_same armed rfl (by rw [same]) (by rw [same])
    | bridge saved answers =>
      rw [acts]
      exact bridge_armed armed saved answers
    | closeChannel =>
      rw [acts]
      exact armed_of_same armed rfl rfl rfl
    | childExits exited =>
      rw [acts]
      unfold MainLoop.act
      dsimp only
      split
      · exact armed_of_same armed rfl rfl rfl
      · exact armed
    | arrives event =>
      rw [acts]
      unfold MainLoop.act
      dsimp only
      split
      · exact armed
      · exact armed_of_same armed rfl rfl rfl

theorem run_armed {generation : Nat} {actions : List Action} (armed : Armed generation s)
    (down : Along step FlagDown s actions) (undisturbed : Along step (Undisturbed generation) s actions)
    (unready : Throughout step (fun s => s.app.lifecycle.isReady = false) s actions) :
    Armed generation (run step s actions) := by
  induction actions generalizing s with
  | nil => exact armed
  | cons action rest ih =>
    have first : (step s action).app.lifecycle.isReady = false :=
      throughout_head (Q := fun s : MainLoop => s.app.lifecycle.isReady = false) unready.2
    exact ih (step_armed armed down.1 undisturbed.1 first) down.2 undisturbed.2 unready.2

/-! ### At most one retry -/

theorem oncePerRestart_append {respawns : List Respawn} {last : Respawn} (once : OncePerRestart respawns)
    (justified : last.source = .buildSpawnParams → LastRestarted respawns) : OncePerRestart (respawns ++ [last]) := by
  intro before retry after split retries
  induction after using List.reverseRecOn with
  | nil =>
    obtain ⟨same, tail⟩ := List.append_inj' split rfl
    rw [← same]
    exact justified ((List.cons.inj tail).1 ▸ retries)
  | append_singleton inner other _ =>
    rw [← List.cons_append, ← List.append_assoc] at split
    exact once before retry inner (List.append_inj' split rfl).1 retries

/-- The last respawn is a restart while a retry is pending. -/
structure Logged (s : MainLoop) : Prop where
  pending : s.restartCanRetry = true → LastRestarted s.respawns
  once : OncePerRestart s.respawns

theorem logged_of_same {other : MainLoop} (logged : Logged s) (respawns : other.respawns = s.respawns)
    (flag : other.restartCanRetry = true → s.restartCanRetry = true) : Logged other := by
  obtain ⟨pending, once⟩ := logged
  refine ⟨fun raised => ?_, ?_⟩
  · rw [respawns]
    exact pending (flag raised)
  · rw [respawns]
    exact once

theorem restart_logged (logged : Logged s) {source : SpawnSource} (begins : source ≠ .buildSpawnParams) (spawned : Bool) :
    Logged (s.restart source spawned) := by
  have once : OncePerRestart (s.respawns ++ [⟨source, spawned⟩]) :=
    oncePerRestart_append logged.once fun retries => absurd retries begins
  cases spawned with
  | true => exact ⟨fun _ => ⟨_, List.getLast?_concat, begins, rfl⟩, once⟩
  | false => exact ⟨nofun, once⟩

theorem processExit_logged (logged : Logged s) (generation : Nat) (spawned : Bool) :
    Logged (s.processExit generation spawned) := by
  have lowered : Logged { s with restartCanRetry := false } := logged_of_same logged rfl nofun
  unfold MainLoop.processExit
  dsimp only
  split
  · exact lowered
  split
  · exact lowered
  split
  · split
    · rename_i raised
      have once : OncePerRestart (s.respawns ++ [⟨.buildSpawnParams, spawned⟩]) :=
        oncePerRestart_append logged.once fun _ => logged.pending raised
      cases spawned <;> exact ⟨nofun, once⟩
    · exact logged_of_same lowered rfl nofun
  · exact logged_of_same lowered rfl nofun

theorem handleEvent_logged (logged : Logged s) (env : Surroundings) (event : AppEvent) :
    Logged (s.handleEvent env event) := by
  cases restarts : event.isRestart with
  | true =>
    obtain ⟨source, begins, done⟩ := handleEvent_restart (s := s) restarts env
    rw [done]
    exact restart_logged logged begins env.spawned
  | false =>
    cases event with
    | ptyOutput =>
      rw [handleEvent_ptyOutput]
      refine logged_of_same logged rfl fun raised => ?_
      exact (Bool.and_eq_true _ _ ▸ raised).1
    | processExit generation => exact processExit_logged logged generation env.spawned
    | restartClaude => cases restarts
    | ptyRestart envVars cliArgs => cases restarts
    | shutdown => exact logged_of_same logged rfl id
    | other => exact logged

theorem step_logged (logged : Logged s) (action : Action) : Logged (step s action) := by
  unfold step
  split
  · exact logged
  unfold MainLoop.act MainLoop.bridge
  cases action with
  | next env =>
    dsimp only
    split
    · exact logged
    · rename_i event rest _
      exact handleEvent_logged (s := { s with events := rest }) (logged_of_same logged rfl id) env event
  | requestRestartClaude => exact logged_of_same logged rfl id
  | sendInput bytes => exact logged_of_same logged rfl id
  | applySettings edit => exact logged_of_same logged rfl id
  | closeChannel => exact logged_of_same logged rfl id
  | _ =>
    dsimp only
    split <;> exact logged_of_same logged rfl id

theorem run_once (actions : List Action) : OncePerRestart (run step start actions).respawns := by
  have initial : Logged start := ⟨nofun, fun _ _ _ empty => absurd empty.symm (by simp [start])⟩
  have unguarded : Along step (fun _ _ => True) start actions := along_iff.mpr fun _ _ _ _ => trivial
  have logged : Logged (run step start actions) :=
    run_invariant (I := Logged) (G := fun _ _ => True) (fun _ action logged _ => step_logged logged action) initial unguarded
  exact logged.once

/-! ### Runs -/

/-- Every restart that needs its retry gets it, and stale exits are inert, exactly if none of them
is handled while a retry is pending. -/
theorem restartsRetried_iff (actions : List Action) : RestartsRetried actions ↔ Along step FlagDown start actions := by
  constructor
  · intro retried
    exact (staleInert_iff actions).mp retried.stale
  · intro down
    refine ⟨(staleInert_iff actions).mpr down, ?_, run_once actions⟩
    intro before restart middle exit after split restarts undisturbed unready env handles
    rw [split, along_append] at down
    obtain ⟨_, _, later⟩ := down
    have armed := run_armed (spawnsRestart_armed restarts) ((along_append _ _ _ _ _).mp later).1 undisturbed unready
    exact armed_exit armed handles

/-- The exit of the old process takes the retry that its successor would need. -/
theorem old_exit_takes_retry : ¬ ∀ actions, RestartsRetried actions := by
  intro retried
  have down := (staleInert_iff [.requestRestartClaude, .bridge true 0, .bridge true 0, .bridge true 0,
    .next {}, .arrives (.processExit 0), .next {}]).mp (retried _).stale
  obtain ⟨_, _, _, _, _, _, exits, _⟩ := down
  cases exits {} 0 ⟨rfl, rfl, rfl⟩ (by decide)

end Anycode.Ui
