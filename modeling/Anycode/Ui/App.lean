import Anycode.Config.Types
import Anycode.Ui.Pty

/-!
# The application and its PTY

The operations of `ui/app.rs` on the PTY lifecycle, and the channel to the bridge task.
-/

namespace Anycode.Ui
open Config

inductive UiCommand where
  | switchBackend (backendId : String)
  | setSubagentBackend (backendId : Option String)
  | setTeammateBackend (backendId : Option String)
  | restartClaude
  | refreshStatus
  | refreshBackends
  | reloadConfig
  | restartPty (envVars : List (String × String)) (cliArgs : List String) (settingsToml : Settings)
  deriving DecidableEq

def uiCommandBuffer : Nat := 32

/-- The bounded channel that `UiCommandSender` sends to. -/
structure CommandChannel where
  commands : List UiCommand := []
  closed : Bool := false

def CommandChannel.trySend (channel : CommandChannel) (command : UiCommand) : Except String CommandChannel :=
  if channel.closed then .error "channel closed"
  else if uiCommandBuffer ≤ channel.commands.length then .error "no available capacity"
  else .ok { channel with commands := channel.commands ++ [command] }

/-- What the hardware cursor of an emulated terminal looks like. -/
structure Cursor where
  visible : Bool
  row : Nat

def isWrapperHotkey (byte : UInt8) : Bool := byte == 0x02 || byte == 0x05 || byte == 0x13 || byte == 0x11

/-- A PTY of one generation, with what its child has been sent. -/
structure PtyHandle where
  generation : Nat
  written : List UInt8 := []
  deriving DecidableEq

def PtyHandle.sendInput (pty : PtyHandle) (bytes : List UInt8) : PtyHandle :=
  { pty with written := pty.written ++ bytes.filter fun byte => !isWrapperHotkey byte }

/-- What the settings manager makes of the fields of a visible dialog. -/
structure SettingsEdit where
  isDirty : Bool
  envVars : List (String × String)
  cliArgs : List String
  settingsToml : Settings

structure App where
  lifecycle : PtyLifecycleState := .pending []
  ptyHandle : Option PtyHandle := none
  ptyGeneration : Nat := 0
  shouldQuit : Bool := false
  lastIpcError : Option String := none

namespace App

def dispatchPty (app : App) (intent : PtyIntent) : App :=
  { app with lifecycle := (handleIntent app.lifecycle intent).1 }

def requestQuit (app : App) : App := { app with shouldQuit := true }

def sendInput (app : App) (bytes : List UInt8) : App :=
  if app.lifecycle.isReady then { app with ptyHandle := app.ptyHandle.map fun pty => pty.sendInput bytes }
  else app.dispatchPty (.bufferInput bytes)

def attachPty (app : App) (pty : PtyHandle) : App := { app with ptyHandle := some pty }.dispatchPty .attach

def detachPty (app : App) : App := { app with ptyHandle := none }.dispatchPty .detach

def flush (app : App) : PtySideEffect → App
  | .flushBuffer buffer => { app with ptyHandle := app.ptyHandle.map fun pty => buffer.foldl PtyHandle.sendInput pty }

/-- Whether the PTY counts as ready now, by its cursor. -/
def onPtyOutput (app : App) (cursor : Cursor) : Bool × App :=
  if app.lifecycle.isReady then (false, app)
  else if app.ptyHandle.isNone || cursor.visible || cursor.row == 0 then (false, app)
  else
    let (lifecycle, effects) := handleIntent app.lifecycle .gotOutput
    (true, effects.foldl flush { app with lifecycle := lifecycle })

def hasRestarted (app : App) : Bool := app.ptyGeneration > 0

def nextPtyGeneration (app : App) : App := { app with ptyGeneration := app.ptyGeneration + 1 }

def sendCommand (app : App) (channel : CommandChannel) (command : UiCommand) : Bool × App × CommandChannel :=
  match channel.trySend command with
  | .ok sent => (true, { app with lastIpcError := none }, sent)
  | .error e => (false, { app with lastIpcError := some ("IPC send failed: " ++ e) }, channel)

/-- The lifecycle is restarting before the command is sent, and reverts to pending if it is not. -/
def requestRestart (app : App) (channel : CommandChannel) (command : UiCommand) : Bool × App × CommandChannel :=
  match (app.dispatchPty .detach).sendCommand channel command with
  | (true, app, channel) => (true, app, channel)
  | (false, app, channel) => (false, app.dispatchPty .spawnFailed, channel)

/-- Ctrl+R -/
def requestRestartClaude (app : App) (channel : CommandChannel) : App × CommandChannel :=
  (app.requestRestart channel .restartClaude).2

/-- Whether a restart was requested; a dialog that is hidden has no edit. -/
def applySettings (app : App) (channel : CommandChannel) (edit : Option SettingsEdit) : Bool × App × CommandChannel :=
  match edit with
  | none => (false, app, channel)
  | some edit =>
    if !edit.isDirty then (false, app, channel)
    else app.requestRestart channel (.restartPty edit.envVars edit.cliArgs edit.settingsToml)

end App

end Anycode.Ui
