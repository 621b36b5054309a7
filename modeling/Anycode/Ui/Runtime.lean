import Anycode.Data.Run
import Anycode.Ui.App

/-!
# The main event loop

The loop of `ui/runtime.rs`, with the bridge task that its commands go to, the queue that events
come from, and the child processes. What the user, the bridge, the children and the loop do next
is one action each, in any order.
-/

namespace Anycode.Ui

inductive AppEvent where
  | ptyOutput
  | processExit (ptyGeneration : Nat)
  | restartClaude
  | ptyRestart (envVars : List (String × String)) (cliArgs : List String)
  | shutdown
  /-- The events that do not concern the PTY. -/
  | other
  deriving DecidableEq

/-- The events that the bridge sends. -/
def AppEvent.isRestart : AppEvent → Bool
  | .restartClaude | .ptyRestart _ _ => true
  | _ => false

inductive SpawnSource where
  /-- Ctrl+R: `with_session_resume` -/
  | sessionResume
  | buildRestartParams (envVars : List (String × String)) (cliArgs : List String)
  | buildSpawnParams
  deriving DecidableEq

/-- A call of `respawn_pty`, and whether its spawn succeeded. -/
structure Respawn where
  source : SpawnSource
  spawned : Bool
  deriving DecidableEq

structure MainLoop where
  app : App
  restartCanRetry : Bool := false
  channel : CommandChannel := {}
  events : List AppEvent := []
  /-- The generation of `pty_session`. -/
  session : Nat := 0
  /-- The generations whose child has exited. -/
  exited : List Nat := []
  respawns : List Respawn := []

/-- What an event finds: whether a spawn succeeds, and the cursor of the attached PTY. -/
structure Surroundings where
  spawned : Bool := true
  cursor : Cursor := { visible := true, row := 0 }

namespace MainLoop

/-- The session is the old one where the spawn fails. -/
def respawnPty (s : MainLoop) (source : SpawnSource) (spawned : Bool) : MainLoop :=
  let app := s.app.nextPtyGeneration.detachPty
  let gen := app.ptyGeneration
  let s : MainLoop := { s with exited := s.session :: s.exited, respawns := s.respawns ++ [⟨source, spawned⟩] }
  if spawned then { s with app := app.attachPty { generation := gen }, session := gen }
  else { s with app := app.dispatchPty .spawnFailed }

/-- `RestartClaude` and `PtyRestart`: there is no point in a retry when the spawn failed. -/
def restart (s : MainLoop) (source : SpawnSource) (spawned : Bool) : MainLoop :=
  let s := respawnPty { s with restartCanRetry := true } source spawned
  if s.app.lifecycle.isAttached then s else { s with restartCanRetry := false }

/-- The flag is taken before the generation is looked at. -/
def processExit (s : MainLoop) (ptyGeneration : Nat) (spawned : Bool) : MainLoop :=
  let canRetry := s.restartCanRetry
  let s : MainLoop := { s with restartCanRetry := false }
  if ptyGeneration ≠ s.app.ptyGeneration then s
  else if s.app.lifecycle.isRestarting then s
  else if s.app.hasRestarted && !s.app.lifecycle.isReady then
    if canRetry then s.respawnPty .buildSpawnParams spawned
    else { s with app := s.app.dispatchPty .spawnFailed }
  else { s with app := s.app.requestQuit }

def handleEvent (s : MainLoop) (env : Surroundings) : AppEvent → MainLoop
  | .ptyOutput =>
    match s.app.onPtyOutput env.cursor with
    | (true, app) => { s with app := app, restartCanRetry := false }
    | (false, app) => { s with app := app }
  | .processExit ptyGeneration => s.processExit ptyGeneration env.spawned
  | .restartClaude => s.restart .sessionResume env.spawned
  | .ptyRestart envVars cliArgs => s.restart (.buildRestartParams envVars cliArgs) env.spawned
  | .shutdown => { s with app := s.app.requestQuit }
  | .other => s

/-- One command in `run_ui_bridge`: settings are saved before the restart, and a failed save is
reported instead of it. Other commands have answers that do not concern the PTY. -/
def bridge (s : MainLoop) (saved : Bool) (answers : Nat) : MainLoop :=
  match s.channel.commands with
  | [] => s
  | command :: rest =>
    let replies : List AppEvent :=
      match command with
      | .restartClaude => [.restartClaude]
      | .restartPty envVars cliArgs _ => if saved then [.ptyRestart envVars cliArgs] else [.other]
      | _ => List.replicate answers .other
    { s with channel := { s.channel with commands := rest }, events := s.events ++ replies }

end MainLoop

inductive Action where
  | sendInput (bytes : List UInt8)
  | requestRestartClaude
  | applySettings (edit : Option SettingsEdit)
  /-- Any command that is no restart. -/
  | request (command : UiCommand)
  | bridge (saved : Bool) (answers : Nat)
  /-- The bridge task is gone, and the commands that it did not take with it. -/
  | closeChannel
  | childExits (generation : Nat)
  /-- A thread or a task puts an event into the queue. -/
  | arrives (event : AppEvent)
  | next (env : Surroundings)

/-- The commands that a key can send besides the restarts. -/
def UiCommand.isRestart : UiCommand → Bool
  | .restartClaude | .restartPty _ _ _ => true
  | _ => false

def MainLoop.act (s : MainLoop) : Action → MainLoop
  | .sendInput bytes => { s with app := s.app.sendInput bytes }
  | .requestRestartClaude =>
    let (app, channel) := s.app.requestRestartClaude s.channel
    { s with app := app, channel := channel }
  | .applySettings edit =>
    let (_, app, channel) := s.app.applySettings s.channel edit
    { s with app := app, channel := channel }
  | .request command =>
    if command.isRestart then s
    else
      let (_, app, channel) := s.app.sendCommand s.channel command
      { s with app := app, channel := channel }
  | .bridge saved answers => s.bridge saved answers
  | .closeChannel => { s with channel := ⟨[], true⟩ }
  | .childExits generation =>
    if generation ≤ s.app.ptyGeneration then { s with exited := generation :: s.exited } else s
  | .arrives event => if event.isRestart then s else { s with events := s.events ++ [event] }
  | .next env =>
    match s.events with
    | [] => s
    | event :: rest => MainLoop.handleEvent { s with events := rest } env event

/-- The loop ends when a quit is requested. -/
def step (s : MainLoop) (action : Action) : MainLoop := if s.app.shouldQuit then s else s.act action

/-- The first child is attached, and the two refreshes are requested, before the loop begins. -/
def start : MainLoop where
  app := ({} : App).attachPty { generation := 0 }
  channel := { commands := [.refreshStatus, .refreshBackends] }

end Anycode.Ui
