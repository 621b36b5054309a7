import Anycode.Ui.Runtime

/-!
# A live terminal does not get stuck

Where a child is attached and no restart is under way, input must reach the child: at once when it
is ready, or with its first output. What a restart that fails on its way must not leave behind.
-/

namespace Anycode.Ui
open Data

def App.attachedGeneration (app : App) : Option Nat := app.ptyHandle.map PtyHandle.generation

/-- The attached PTY has a running child. -/
def LiveChild (s : MainLoop) : Prop := ∃ generation, s.app.attachedGeneration = some generation ∧ generation ∉ s.exited

def commandsRestart (commands : List UiCommand) : Bool := commands.any UiCommand.isRestart

def eventsRestart (events : List AppEvent) : Bool := events.any AppEvent.isRestart

def restartInFlight (s : MainLoop) : Bool := commandsRestart s.channel.commands || eventsRestart s.events

/-- Input reaches the child now or with its first output. -/
def Serves (lifecycle : PtyLifecycleState) : Prop := lifecycle.isAttached = true ∨ lifecycle.isReady = true

def Unstuck (s : MainLoop) : Prop := LiveChild s → restartInFlight s = false → Serves s.app.lifecycle

/-! ### The condition -/

def CommandChannel.Accepts (channel : CommandChannel) : Prop :=
  channel.closed = false ∧ channel.commands.length < uiCommandBuffer

/-- Nothing is lost with a request that cannot be sent. -/
def Replaced (s : MainLoop) : Prop := LiveChild s → restartInFlight s = true

/-- No request of a restart is refused while a live child is attached and no other restart is
under way; and neither a failed save nor the end of the bridge takes the last restart away after
the lifecycle has made room for it. -/
def Recovers (s : MainLoop) (action : Action) : Prop :=
  s.app.shouldQuit = true ∨
    match action with
    | .requestRestartClaude => s.channel.Accepts ∨ Replaced s
    | .applySettings edit => ∀ changed, edit = some changed → changed.isDirty = true → s.channel.Accepts ∨ Replaced s
    | .bridge saved _ =>
      ∀ envVars cliArgs settingsToml rest, s.channel.commands = .restartPty envVars cliArgs settingsToml :: rest →
        saved = false → LiveChild s → (commandsRestart rest || eventsRestart s.events) = false → Serves s.app.lifecycle
    | .closeChannel => LiveChild s → eventsRestart s.events = false → Serves s.app.lifecycle
    | _ => True

/-! ### The operations -/

theorem trySend_ok {channel : CommandChannel} (accepts : channel.Accepts) (command : UiCommand) :
    channel.trySend command = .ok { channel with commands := channel.commands ++ [command] } := by
  obtain ⟨opened, room⟩ := accepts
  simp [CommandChannel.trySend, opened, Nat.not_le.mpr room]

theorem trySend_error {channel : CommandChannel} (refuses : ¬ channel.Accepts) (command : UiCommand) :
    ∃ e, channel.trySend command = .error e := by
  unfold CommandChannel.trySend
  split
  · exact ⟨_, rfl⟩
  · rename_i opened
    split
    · exact ⟨_, rfl⟩
    · rename_i room
      exact absurd ⟨by simpa using opened, Nat.not_le.mp room⟩ refuses

theorem requestRestart_sent {app : App} {channel : CommandChannel} {command : UiCommand} (accepts : channel.Accepts) :
    app.requestRestart channel command =
      (true, { app with lifecycle := .restarting, lastIpcError := none },
        { channel with commands := channel.commands ++ [command] }) := by
  simp only [App.requestRestart, App.sendCommand, trySend_ok accepts]
  rfl

theorem requestRestart_refused (app : App) {channel : CommandChannel} (command : UiCommand)
    (refuses : ¬ channel.Accepts) :
    ∃ e, app.requestRestart channel command =
      (false, { app with lifecycle := .pending [], lastIpcError := e }, channel) := by
  obtain ⟨e, refused⟩ := trySend_error refuses command
  exact ⟨_, by simp only [App.requestRestart, App.sendCommand, refused]; rfl⟩

theorem commandsRestart_append (commands : List UiCommand) (command : UiCommand) (restarts : command.isRestart = true) :
    commandsRestart (commands ++ [command]) = true := by
  simp [commandsRestart, restarts]

variable {s : MainLoop}

/-- A sent restart is under way; a refused one leaves the lifecycle pending, whatever is attached. -/
theorem requestRestart_unstuck_iff {command : UiCommand} (restarts : command.isRestart = true) :
    Unstuck { s with
        app := (s.app.requestRestart s.channel command).2.1
        channel := (s.app.requestRestart s.channel command).2.2 } ↔
      s.channel.Accepts ∨ Replaced s := by
  by_cases accepts : s.channel.Accepts
  · rw [requestRestart_sent accepts]
    refine iff_of_true (fun _ idle => ?_) (.inl accepts)
    simp [restartInFlight, commandsRestart_append _ _ restarts] at idle
  · obtain ⟨e, refused⟩ := requestRestart_refused s.app command accepts
    rw [refused, or_iff_right accepts]
    constructor
    · intro unstuck live
      by_contra idle
      have served := unstuck live (by simpa [restartInFlight] using idle)
      simp [Serves, PtyLifecycleState.isAttached, PtyLifecycleState.isReady] at served
    · intro replaced live idle
      have under := replaced live
      simp only [restartInFlight] at under idle
      rw [under] at idle
      cases idle

theorem handleIntent_serves {lifecycle : PtyLifecycleState} {intent : PtyIntent} (stays : intent ≠ .detach)
    (serves : Serves lifecycle) : Serves (handleIntent lifecycle intent).1 := by
  unfold Serves at serves
  cases lifecycle with
  | pending buffer => simp [PtyLifecycleState.isAttached, PtyLifecycleState.isReady] at serves
  | restarting => simp [PtyLifecycleState.isAttached, PtyLifecycleState.isReady] at serves
  | ready => cases intent <;> first | exact absurd rfl stays | exact .inr rfl
  | attached buffer =>
    cases intent with
    | detach => exact absurd rfl stays
    | gotOutput => cases buffer <;> exact .inr rfl
    | attach => exact .inl rfl
    | bufferInput bytes => exact .inl rfl
    | spawnFailed => exact .inl rfl

theorem unstuck_of_unstuck {other : MainLoop} (unstuck : Unstuck s) (live : LiveChild other → LiveChild s)
    (idle : restartInFlight other = false → restartInFlight s = false)
    (serves : Serves s.app.lifecycle → Serves other.app.lifecycle) : Unstuck other :=
  fun alive still => serves (unstuck (live alive) (idle still))

theorem sendInput_attachedGeneration (app : App) (bytes : List UInt8) :
    (app.sendInput bytes).attachedGeneration = app.attachedGeneration := by
  unfold App.sendInput App.attachedGeneration
  split
  · cases app.ptyHandle <;> rfl
  · rfl

theorem sendInput_serves {app : App} {bytes : List UInt8} (serves : Serves app.lifecycle) :
    Serves (app.sendInput bytes).lifecycle := by
  unfold App.sendInput
  split
  · exact serves
  · exact handleIntent_serves (by simp) serves

theorem foldl_sendInput_generation (buffer : List (List UInt8)) (pty : PtyHandle) :
    (buffer.foldl PtyHandle.sendInput pty).generation = pty.generation := by
  induction buffer generalizing pty with
  | nil => rfl
  | cons bytes rest ih => exact ih (pty.sendInput bytes)

theorem foldl_flush (effects : List PtySideEffect) (app : App) :
    (effects.foldl App.flush app).attachedGeneration = app.attachedGeneration ∧
      (effects.foldl App.flush app).lifecycle = app.lifecycle ∧
        (effects.foldl App.flush app).ptyGeneration = app.ptyGeneration ∧
          (effects.foldl App.flush app).shouldQuit = app.shouldQuit := by
  induction effects generalizing app with
  | nil => exact ⟨rfl, rfl, rfl, rfl⟩
  | cons effect rest ih =>
    obtain ⟨generation, lifecycle, counter, quit⟩ := ih (app.flush effect)
    refine ⟨generation.trans ?_, lifecycle, counter, quit⟩
    cases effect with
    | flushBuffer buffer =>
      simp only [App.attachedGeneration, App.flush, Option.map_map, Function.comp_def, foldl_sendInput_generation]

theorem onPtyOutput_spec (app : App) (cursor : Cursor) :
    ((app.onPtyOutput cursor).2.attachedGeneration = app.attachedGeneration ∧
      (app.onPtyOutput cursor).2.ptyGeneration = app.ptyGeneration ∧
        (app.onPtyOutput cursor).2.shouldQuit = app.shouldQuit) ∧
      ((app.onPtyOutput cursor).1 = false ∧ (app.onPtyOutput cursor).2 = app ∨
        (app.onPtyOutput cursor).1 = true ∧
          (app.onPtyOutput cursor).2.lifecycle = (handleIntent app.lifecycle .gotOutput).1) := by
  unfold App.onPtyOutput
  split
  · exact ⟨⟨rfl, rfl, rfl⟩, .inl ⟨rfl, rfl⟩⟩
  split
  · exact ⟨⟨rfl, rfl, rfl⟩, .inl ⟨rfl, rfl⟩⟩
  · obtain ⟨generation, lifecycle, counter, quit⟩ := foldl_flush (handleIntent app.lifecycle .gotOutput).2
      { app with lifecycle := (handleIntent app.lifecycle .gotOutput).1 }
    exact ⟨⟨generation, counter, quit⟩, .inr ⟨rfl, lifecycle⟩⟩

theorem onPtyOutput_serves {app : App} {cursor : Cursor} (serves : Serves app.lifecycle) :
    Serves (app.onPtyOutput cursor).2.lifecycle := by
  rcases (onPtyOutput_spec app cursor).2 with ⟨_, same⟩ | ⟨_, reduced⟩
  · rw [same]
    exact serves
  · rw [reduced]
    exact handleIntent_serves (by simp) serves

/-- A respawn attaches a child, or leaves none attached. -/
theorem respawnPty_unstuck (s : MainLoop) (source : SpawnSource) (spawned : Bool) :
    Unstuck (s.respawnPty source spawned) := by
  cases spawned with
  | true => exact fun _ _ => .inl rfl
  | false =>
    intro live
    obtain ⟨generation, attached, _⟩ := live
    cases attached

theorem restart_unstuck (s : MainLoop) (source : SpawnSource) (spawned : Bool) : Unstuck (s.restart source spawned) := by
  have unstuck := respawnPty_unstuck { s with restartCanRetry := true } source spawned
  unfold MainLoop.restart
  dsimp only
  split <;> exact unstuck

theorem processExit_unstuck (unstuck : Unstuck s) (ptyGeneration : Nat) (spawned : Bool) :
    Unstuck (s.processExit ptyGeneration spawned) := by
  unfold MainLoop.processExit
  dsimp only
  split
  · exact unstuck
  split
  · exact unstuck
  split
  · split
    · exact respawnPty_unstuck _ _ _
    · exact unstuck_of_unstuck unstuck id id (handleIntent_serves (by simp))
  · exact unstuck

theorem handleEvent_ptyOutput (env : Surroundings) :
    s.handleEvent env .ptyOutput =
      { s with
        app := (s.app.onPtyOutput env.cursor).2
        restartCanRetry := s.restartCanRetry && !(s.app.onPtyOutput env.cursor).1 } := by
  unfold MainLoop.handleEvent
  dsimp only
  split
  · rename_i app done
    rw [done, Bool.not_true, Bool.and_false]
  · rename_i app done
    rw [done, Bool.not_false, Bool.and_true]

/-- An event other than a restart leaves the terminal as it was; a restart serves or detaches it. -/
theorem handleEvent_unstuck {event : AppEvent} (env : Surroundings) (unstuck : event.isRestart = false → Unstuck s) :
    Unstuck (s.handleEvent env event) := by
  cases event with
  | ptyOutput =>
    rw [handleEvent_ptyOutput]
    obtain ⟨⟨generation, _⟩, _⟩ := onPtyOutput_spec s.app env.cursor
    refine unstuck_of_unstuck (unstuck rfl) ?_ id onPtyOutput_serves
    intro live
    unfold LiveChild at live ⊢
    rwa [← generation]
  | processExit ptyGeneration => exact processExit_unstuck (unstuck rfl) ptyGeneration env.spawned
  | restartClaude => exact restart_unstuck s .sessionResume env.spawned
  | ptyRestart envVars cliArgs => exact restart_unstuck s (.buildRestartParams envVars cliArgs) env.spawned
  | shutdown => exact unstuck rfl
  | other => exact unstuck rfl

/-! ### One step -/

theorem eventsRestart_append (events replies : List AppEvent) :
    eventsRestart (events ++ replies) = (eventsRestart events || eventsRestart replies) := List.any_append

theorem eventsRestart_replicate (answers : Nat) : eventsRestart (List.replicate answers .other) = false := by
  simp [eventsRestart, AppEvent.isRestart]

theorem bridge_answers_unstuck (unstuck : Unstuck s) {command : UiCommand} {rest : List UiCommand}
    (commands : s.channel.commands = command :: rest) (plain : command.isRestart = false) (answers : Nat) :
    Unstuck { s with
      channel := { s.channel with commands := rest }
      events := s.events ++ List.replicate answers .other } := by
  refine unstuck_of_unstuck unstuck id ?_ id
  intro idle
  simp only [restartInFlight, eventsRestart_append, eventsRestart_replicate, Bool.or_false] at idle ⊢
  rw [commands, commandsRestart, List.any_cons, plain, Bool.false_or]
  exact idle

theorem bridge_unstuck_iff (unstuck : Unstuck s) (running : s.app.shouldQuit = false) (saved : Bool) (answers : Nat) :
    Unstuck (s.bridge saved answers) ↔ Recovers s (.bridge saved answers) := by
  unfold MainLoop.bridge Recovers
  simp only [running, Bool.false_eq_true, false_or]
  cases commands : s.channel.commands with
  | nil => exact iff_of_true unstuck fun _ _ _ _ none_ => nomatch none_
  | cons command rest =>
    cases command with
    | restartClaude =>
      refine iff_of_true (fun _ idle => ?_) (fun _ _ _ _ other => nomatch other)
      simp [restartInFlight, eventsRestart, AppEvent.isRestart] at idle
    | restartPty envVars cliArgs settingsToml =>
      cases saved with
      | true =>
        refine iff_of_true (fun _ idle => ?_) (fun _ _ _ _ _ failed => nomatch failed)
        simp [restartInFlight, eventsRestart, AppEvent.isRestart] at idle
      | false =>
        have reported : eventsRestart (s.events ++ [.other]) = eventsRestart s.events := by
          rw [eventsRestart_append]
          exact Bool.or_false _
        simp only [Unstuck, restartInFlight, Bool.false_eq_true, if_false, reported]
        constructor
        · intro holds _ _ _ _ same _ live idle
          cases same
          exact holds live idle
        · intro recovers live idle
          exact recovers _ _ _ rest rfl trivial live idle
    | _ => exact iff_of_true (bridge_answers_unstuck unstuck commands rfl answers) fun _ _ _ _ other => nomatch other

theorem closeChannel_unstuck_iff (running : s.app.shouldQuit = false) :
    Unstuck { s with channel := ⟨[], true⟩ } ↔ Recovers s .closeChannel := by
  simp only [Unstuck, Recovers, running, Bool.false_eq_true, false_or, restartInFlight, commandsRestart, List.any_nil,
    Bool.false_or]
  rfl

theorem next_unstuck (unstuck : Unstuck s) (env : Surroundings) : Unstuck (s.act (.next env)) := by
  unfold MainLoop.act
  dsimp only
  split
  · exact unstuck
  · rename_i event rest events
    refine handleEvent_unstuck env fun plain => ?_
    refine unstuck_of_unstuck unstuck id ?_ id
    intro idle
    simpa [restartInFlight, eventsRestart, events, plain] using idle

theorem applySettings_clean {app : App} {channel : CommandChannel} {edit : SettingsEdit} (clean : edit.isDirty = false) :
    app.applySettings channel (some edit) = (false, app, channel) := by
  simp only [App.applySettings, clean, Bool.not_false, if_true]

theorem applySettings_dirty {app : App} {channel : CommandChannel} {edit : SettingsEdit} (dirty : edit.isDirty = true) :
    app.applySettings channel (some edit) =
      app.requestRestart channel (.restartPty edit.envVars edit.cliArgs edit.settingsToml) := by
  simp only [App.applySettings, dirty, Bool.not_true, Bool.false_eq_true, if_false]

theorem applySettings_unstuck_iff (unstuck : Unstuck s) (running : s.app.shouldQuit = false) (edit : Option SettingsEdit) :
    Unstuck (s.act (.applySettings edit)) ↔ Recovers s (.applySettings edit) := by
  simp only [Recovers, running, Bool.false_eq_true, false_or]
  unfold MainLoop.act
  cases edit with
  | none => exact iff_of_true unstuck fun _ none_ => nomatch none_
  | some edit =>
    cases dirty : edit.isDirty with
    | false =>
      dsimp only
      rw [applySettings_clean dirty]
      refine iff_of_true unstuck fun other same isDirty => ?_
      cases same
      cases dirty.symm.trans isDirty
    | true =>
      dsimp only
      rw [applySettings_dirty dirty]
      refine (requestRestart_unstuck_iff (by rfl)).trans ?_
      constructor
      · intro recovers _ _ _
        exact recovers
      · intro recovers
        exact recovers edit rfl dirty

theorem trySend_commands {channel sent : CommandChannel} {command : UiCommand}
    (done : channel.trySend command = .ok sent) : sent.commands = channel.commands ++ [command] := by
  unfold CommandChannel.trySend at done
  split at done
  · cases done
  split at done
  · cases done
  · cases done
    rfl

theorem request_unstuck (unstuck : Unstuck s) (command : UiCommand) : Unstuck (s.act (.request command)) := by
  unfold MainLoop.act App.sendCommand
  dsimp only
  split
  · exact unstuck
  · cases sent : s.channel.trySend command with
    | error e => exact unstuck
    | ok channel =>
      refine unstuck_of_unstuck unstuck id ?_ id
      intro idle
      simp only [restartInFlight, commandsRestart, trySend_commands sent, List.any_append, Bool.or_eq_false_iff] at idle ⊢
      exact ⟨idle.1.1, idle.2⟩

theorem act_unstuck_iff (unstuck : Unstuck s) (running : s.app.shouldQuit = false) (action : Action) :
    Unstuck (s.act action) ↔ Recovers s action := by
  cases action with
  | sendInput bytes =>
    refine iff_of_true ?_ (.inr trivial)
    refine unstuck_of_unstuck unstuck ?_ id sendInput_serves
    intro live
    unfold LiveChild at live ⊢
    rwa [← sendInput_attachedGeneration s.app bytes]
  | requestRestartClaude =>
    simp only [Recovers, running, Bool.false_eq_true, false_or]
    exact requestRestart_unstuck_iff rfl
  | applySettings edit => exact applySettings_unstuck_iff unstuck running edit
  | request command => exact iff_of_true (request_unstuck unstuck command) (.inr trivial)
  | bridge saved answers => exact bridge_unstuck_iff unstuck running saved answers
  | closeChannel => exact closeChannel_unstuck_iff running
  | childExits generation =>
    refine iff_of_true ?_ (.inr trivial)
    unfold MainLoop.act
    dsimp only
    split
    · refine unstuck_of_unstuck unstuck ?_ id id
      intro live
      obtain ⟨attached, is, alive⟩ := live
      exact ⟨attached, is, fun exited => alive (List.mem_cons_of_mem _ exited)⟩
    · exact unstuck
  | arrives event =>
    refine iff_of_true ?_ (.inr trivial)
    unfold MainLoop.act
    dsimp only
    split
    · exact unstuck
    · refine unstuck_of_unstuck unstuck id ?_ id
      intro idle
      simp only [restartInFlight, eventsRestart_append, Bool.or_eq_false_iff] at idle ⊢
      exact ⟨idle.1, idle.2.1⟩
  | next env => exact iff_of_true (next_unstuck unstuck env) (.inr trivial)

theorem step_unstuck_iff (unstuck : Unstuck s) (action : Action) : Unstuck (step s action) ↔ Recovers s action := by
  unfold step
  cases quit : s.app.shouldQuit with
  | true => exact iff_of_true unstuck (.inl quit)
  | false => exact act_unstuck_iff unstuck quit action

/-! ### Runs -/

/-- In every reachable state a live terminal serves its child or is being restarted, exactly if
every restart that fails before it is attempted leaves the lifecycle as it found it. -/
theorem unstuck_iff (actions : List Action) :
    Throughout step Unstuck start actions ↔ Along step Recovers start actions := by
  have unguarded : Along step (fun _ _ => True) start actions := along_iff.mpr fun _ _ _ _ => trivial
  refine throughout_iff_along (fun _ unstuck => unstuck) ?_ ?_ ?_ unguarded
  · intro s action unstuck _ recovers
    exact (step_unstuck_iff unstuck action).mpr recovers
  · intro s action unstuck _ after
    exact (step_unstuck_iff unstuck action).mp after
  · exact fun _ _ => .inl rfl

/-- The settings cannot be saved: the terminal stays restarting, with its child attached. -/
theorem failed_save_is_stuck : ¬ ∀ actions, Throughout step Unstuck start actions := by
  intro unstuck
  obtain ⟨_, _, _, _, after⟩ := unstuck
    [.applySettings (some ⟨true, [], [], .empty⟩), .bridge true 1, .bridge true 1, .bridge false 0]
  rcases after ⟨0, rfl, List.not_mem_nil⟩ rfl with attached | ready
  · cases attached
  · cases ready

end Anycode.Ui
