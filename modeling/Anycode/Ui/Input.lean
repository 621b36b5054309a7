import Anycode.Term.Event
import Anycode.Ui.App
import Anycode.Ui.Dialogs

/-!
# Keys and dialogs

The rest of the application of `ui/app.rs`, with its dialogs and the backend list, and what
`ui/input.rs` does with a key.
-/

namespace Anycode.Ui
open Config Term

inductive PopupKind where
  | backendSwitch
  | history
  | settings
  deriving DecidableEq

inductive Focus where
  | terminal
  | popup (kind : PopupKind)
  deriving DecidableEq

structure BackendInfo where
  id : String
  isActive : Bool
  deriving DecidableEq

/-- The application with its dialogs. `historyEntries` is what the history provider returns now. -/
structure DialogApp extends App where
  focus : Focus := .terminal
  ipcSender : Option CommandChannel := none
  backends : List BackendInfo := []
  history : HistoryDialogState := .hidden
  historyEntries : List HistoryEntry := []
  settings : SettingsDialogState := .hidden
  settingsManager : ClaudeSettingsManager
  settingsSavedSnapshot : SettingId → Option Bool
  backendSwitch : BackendSwitchState := .hidden
  subagentBackend : Option String
  teammateBackend : Option String

inductive InputAction where
  | none
  | forward
  deriving DecidableEq

namespace DialogApp

/-- A fresh app, with the settings that were stored and the backends of the agents configuration. -/
def new (settings : ClaudeSettingsManager) (subagentBackend teammateBackend : Option String) : DialogApp where
  settingsManager := settings
  settingsSavedSnapshot := settings.snapshotValues
  subagentBackend := subagentBackend
  teammateBackend := teammateBackend

def showPopup (app : DialogApp) : Bool :=
  match app.focus with
  | .popup _ => true
  | .terminal => false

def dispatchHistory (app : DialogApp) (intent : HistoryIntent) : DialogApp :=
  { app with history := app.history.handle intent }

def dispatchSettings (app : DialogApp) (intent : SettingsIntent) : DialogApp :=
  { app with settings := app.settings.handle intent }

def dispatchBackendSwitch (app : DialogApp) (intent : BackendSwitchIntent) : DialogApp :=
  { app with backendSwitch := app.backendSwitch.handle intent }

def updateBackends (app : DialogApp) (backends : List BackendInfo) : DialogApp := { app with backends := backends }

/-! ### Commands -/

/-- Without a sender the command is dropped, and the last error stays. -/
def send (app : DialogApp) (command : UiCommand) : Bool × DialogApp :=
  match app.ipcSender with
  | none => (false, app)
  | some sender =>
    let (sent, inner, sender) := app.toApp.sendCommand sender command
    (sent, { app with toApp := inner, ipcSender := some sender })

def dispatch (app : DialogApp) (intent : PtyIntent) : DialogApp := { app with toApp := app.toApp.dispatchPty intent }

def requestBackendsRefresh (app : DialogApp) : DialogApp := (app.send .refreshBackends).2

/-- The lifecycle is restarting before the command is sent, and reverts to pending if it is not. -/
def sendRestart (app : DialogApp) (command : UiCommand) : DialogApp :=
  match (app.dispatch .detach).send command with
  | (true, app) => app
  | (false, app) => app.dispatch .spawnFailed

def requestRestart (app : DialogApp) : DialogApp := app.sendRestart .restartClaude

/-- The index is 1-based. -/
def requestSwitchBackendByIndex (app : DialogApp) (index : Nat) : Bool × DialogApp :=
  match app.backends[index - 1]? with
  | some backend => app.send (.switchBackend backend.id)
  | none => (false, app)

def requestSetSubagentBackend (app : DialogApp) (index : Nat) : DialogApp :=
  (app.send (.setSubagentBackend (app.backends[index]?.map (·.id)))).2

def requestClearSubagentBackend (app : DialogApp) : DialogApp := (app.send (.setSubagentBackend none)).2

def requestSetTeammateBackend (app : DialogApp) (index : Nat) : DialogApp :=
  (app.send (.setTeammateBackend (app.backends[index]?.map (·.id)))).2

def requestClearTeammateBackend (app : DialogApp) : DialogApp := (app.send (.setTeammateBackend none)).2

/-! ### The history dialog -/

def openHistoryDialog (app : DialogApp) : DialogApp :=
  { app.dispatchHistory (.load app.historyEntries) with focus := .popup .history }

def closeHistoryDialog (app : DialogApp) : DialogApp := { app.dispatchHistory .close with focus := .terminal }

/-! ### The settings dialog -/

def openSettingsDialog (app : DialogApp) : DialogApp :=
  { app.dispatchSettings (.load app.settingsManager.toSnapshots) with
    settingsSavedSnapshot := app.settingsManager.snapshotValues
    focus := .popup .settings }

def closeSettingsDialog (app : DialogApp) : DialogApp := { app.dispatchSettings .close with focus := .terminal }

/-- Changes that were not applied are asked about first. -/
def requestCloseSettings (app : DialogApp) : DialogApp :=
  let app := app.dispatchSettings .requestClose
  if !app.settings.isVisible then { app with focus := .terminal } else app

def applySettingsDialog (app : DialogApp) : DialogApp :=
  match app.settings with
  | .hidden => app
  | .visible fields _ _ _ =>
    let settings := app.settingsManager.applySnapshots fields
    let app := { app with settingsManager := settings }
    if !settings.isDirty app.settingsSavedSnapshot then app.closeSettingsDialog
    else
      let app := { app with settingsSavedSnapshot := settings.snapshotValues }
      app.closeSettingsDialog.sendRestart (.restartPty settings.toEnvVars settings.toCliArgs settings.toTomlMap)

/-! ### The backend switch dialog -/

def activeBackendIndex (app : DialogApp) : Option Nat := app.backends.findIdx? fun backend => backend.isActive

/-- 0 is "Disabled". -/
def overrideSelection (app : DialogApp) (backendId : Option String) : Nat :=
  ((backendId.bind fun name => app.backends.findIdx? fun backend => backend.id == name).map (· + 1)).getD 0

def openBackendSwitchDialog (app : DialogApp) : DialogApp :=
  app.dispatchBackendSwitch (.open_ (app.activeBackendIndex.getD 0) (app.overrideSelection app.subagentBackend)
    (app.overrideSelection app.teammateBackend) app.backends.length)

def closeBackendSwitchDialog (app : DialogApp) : DialogApp :=
  { app.dispatchBackendSwitch .close with focus := .terminal }

/-- Whether a popup is focused now. -/
def togglePopup (app : DialogApp) (kind : PopupKind) : Bool × DialogApp :=
  let focus := if app.focus = .popup kind then .terminal else .popup kind
  let app := { app with focus := focus }
  let app := if app.focus = .popup .backendSwitch then app.openBackendSwitchDialog else app
  (app.showPopup, app)

def confirmActiveBackend (app : DialogApp) (index : Nat) : DialogApp :=
  match app.backends[index]? with
  | none => app
  | some backend =>
    if backend.isActive then app.closeBackendSwitchDialog
    else
      match app.requestSwitchBackendByIndex (index + 1) with
      | (true, app) => app.closeBackendSwitchDialog
      | (false, app) => app

def confirmOverrideBackend (app : DialogApp) (selection : Nat) (setFn : DialogApp → Nat → DialogApp)
    (clearFn : DialogApp → DialogApp) : DialogApp :=
  let app :=
    if selection = 0 then clearFn app
    else if selection - 1 < app.backends.length then setFn app (selection - 1)
    else app
  app.closeBackendSwitchDialog

/-! ### Keys in a dialog -/

def handleHistoryKey (app : DialogApp) (kind : KeyKind) : DialogApp :=
  match kind with
  | .escape | .control 'h' => app.closeHistoryDialog
  | .arrow .up => app.dispatchHistory .scrollUp
  | .arrow .down => app.dispatchHistory .scrollDown
  | _ => app

def handleSettingsKey (app : DialogApp) (kind : KeyKind) : DialogApp :=
  match kind with
  | .escape => app.requestCloseSettings
  | .arrow .up => app.dispatchSettings .moveUp
  | .arrow .down => app.dispatchSettings .moveDown
  | .char ' ' => app.dispatchSettings .toggle
  | .enter => app.applySettingsDialog
  | .control 'e' => app.closeSettingsDialog
  | _ => app

def handleBackendConfirm (app : DialogApp) : DialogApp :=
  match app.backendSwitch with
  | .hidden => app
  | .visible dialog =>
    match dialog.section_ with
    | .activeBackend => app.confirmActiveBackend dialog.backendSelection
    | .subagentBackend =>
      app.confirmOverrideBackend dialog.subagentSelection requestSetSubagentBackend requestClearSubagentBackend
    | .teammateBackend =>
      app.confirmOverrideBackend dialog.teammateSelection requestSetTeammateBackend requestClearTeammateBackend

/-- Clears the override of the section. -/
def handleBackendDelete (app : DialogApp) : DialogApp :=
  match app.backendSwitch with
  | .hidden => app
  | .visible dialog =>
    match dialog.section_ with
    | .subagentBackend => app.requestClearSubagentBackend.closeBackendSwitchDialog
    | .teammateBackend => app.requestClearTeammateBackend.closeBackendSwitchDialog
    | .activeBackend => app

def handleBackendDigit (app : DialogApp) (index : Nat) : DialogApp :=
  match app.backendSwitch with
  | .hidden => app
  | .visible dialog =>
    match dialog.section_ with
    | .activeBackend =>
      match app.backends[index - 1]? with
      | none => app
      | some backend =>
        if backend.isActive then app.closeBackendSwitchDialog
        else
          match app.requestSwitchBackendByIndex index with
          | (true, app) => app.closeBackendSwitchDialog
          | (false, app) => app
    | .subagentBackend =>
      if index ≤ app.backends.length then (app.requestSetSubagentBackend (index - 1)).closeBackendSwitchDialog else app
    | .teammateBackend =>
      if index ≤ app.backends.length then (app.requestSetTeammateBackend (index - 1)).closeBackendSwitchDialog else app

def handleBackendSwitchKey (app : DialogApp) (kind : KeyKind) : DialogApp :=
  match kind with
  | .escape | .control 'b' | .control 'h' => app.closeBackendSwitchDialog
  | .tab => app.dispatchBackendSwitch .nextSection
  | .arrow .up => app.dispatchBackendSwitch .moveUp
  | .arrow .down => app.dispatchBackendSwitch .moveDown
  | .enter => app.handleBackendConfirm
  | .backspace | .nav .delete => app.handleBackendDelete
  | .char c =>
    let index := c.toNat - '0'.toNat
    if c.isDigit && index > 0 then app.handleBackendDigit index else app
  | _ => app

/-- A popup takes every key. -/
def handlePopupKey (app : DialogApp) (kind : KeyKind) : DialogApp :=
  match app.focus with
  | .terminal => app
  | .popup .history => app.handleHistoryKey kind
  | .popup .settings => app.handleSettingsKey kind
  | .popup .backendSwitch => app.handleBackendSwitchKey kind

def openBackends (app : DialogApp) : DialogApp :=
  match app.togglePopup .backendSwitch with
  | (true, app) => app.requestBackendsRefresh
  | (false, app) => app

def classifyKey (app : DialogApp) (key : KeyInput) : InputAction × DialogApp :=
  match key.kind with
  | .control 'q' => (.none, { app with toApp := app.toApp.requestQuit })
  | .control 'v' => (.forward, app)
  | kind =>
    if app.showPopup then (.none, app.handlePopupKey kind)
    else
      match kind with
      | .control 'b' => (.none, app.openBackends)
      | .control 'h' => (.none, app.openHistoryDialog)
      | .control 'e' => (.none, app.openSettingsDialog)
      | .control 'r' => (.none, app.requestRestart)
      | _ => (.forward, app)

end DialogApp

/-! ### Runs -/

/-- A key, or something that happens between keys: a new backend list, another channel to the bridge or
another fill of it, other history, another backend for agents, and anything that concerns the PTY. -/
inductive UiEvent where
  | key (input : KeyInput)
  | updateBackends (backends : List BackendInfo)
  | channel (sender : Option CommandChannel)
  | history (entries : List HistoryEntry)
  | setSubagentBackend (backendId : Option String)
  | setTeammateBackend (backendId : Option String)
  | pty (inner : App)

def DialogApp.step (app : DialogApp) : UiEvent → DialogApp
  | .key input => (app.classifyKey input).2
  | .updateBackends backends => app.updateBackends backends
  | .channel sender => { app with ipcSender := sender }
  | .history entries => { app with historyEntries := entries }
  | .setSubagentBackend backendId => { app with subagentBackend := backendId }
  | .setTeammateBackend backendId => { app with teammateBackend := backendId }
  | .pty inner => { app with toApp := inner }

end Anycode.Ui
