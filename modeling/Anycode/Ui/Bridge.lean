import Anycode.Data.Turns
import Anycode.Ipc.Server
import Anycode.Proxy.ModelErrors
import Anycode.Ui.KeyCommands

/-!
# The bridge to the proxy

The task `run_ui_bridge` of `ui/runtime.rs` between the application and the IPC: it takes one command
after the other, waits for the answers of the IPC server, and sends what the main loop is to show.
-/

namespace Anycode.Ui
open Config Data Ipc Term

/-- The events that the bridge sends. -/
inductive BridgeEvent where
  | ipcStatus (status : ProxyStatus)
  | ipcBackends (backends : List Ipc.BackendInfo)
  | ipcError (message : String)
  | ptyRestart (envVars : List (String × String)) (cliArgs : List String)
  | restartClaude
  | setSubagentBackend (backendId : Option String)
  | setTeammateBackend (backendId : Option String)

inductive IpcError where
  | disconnected
  | timeout

def IpcError.message : IpcError → String
  | .disconnected => "IPC channel disconnected"
  | .timeout => "IPC request timed out"

/-- Where the bridge is: between two commands, waiting for a switch, or waiting for a status or a
list of backends, with what it asks for next. Errors are sent where only one thing is asked for. -/
inductive Bridge where
  | idle
  | switching (call : Nat)
  | asking (call : Nat) (isRefresh : Bool) (later : List IpcCommand)
  | gone

/-- What the bridge finds outside of the IPC: the profile in the config store, and whether the
settings can be saved. -/
structure Stored where
  claude : CliProfile
  save : Except String Unit

/-- The application, the bridge and the proxy. `taken` are the commands that the bridge has taken, `shown`
the events that the main loop has, `answers` what the bridge was told, and `ipcActs` what has happened
in the IPC. -/
structure Frontend (H : Type) where
  app : DialogApp
  proxyStatus : Option ProxyStatus := none
  bridge : Bridge := .idle
  events : List BridgeEvent := []
  ipc : Exchange (Proxy H) IpcCommand Phase Reply
  taken : List UiCommand := []
  shown : List BridgeEvent := []
  answers : List (IpcCommand × Reply) := []
  ipcActs : List Ipc.Act := []

inductive FrontendAct where
  | key (input : KeyInput)
  | history (entries : List HistoryEntry)
  /-- Anything that concerns the PTY. -/
  | pty (inner : App)
  | tick
  | configReload
  | take (stored : Stored)
  | resume
  | next
  | closeChannel
  /-- A step of the IPC server, of the channel, of another client or of another writer. -/
  | ipc (act : Ipc.Act)

def briefly (info : Ipc.BackendInfo) : BackendInfo := ⟨info.id, info.isActive⟩

namespace Frontend
variable {H : Type}

def ipcStep (s : Frontend H) (act : Ipc.Act) : Frontend H :=
  { s with ipc := s.ipc.step ipcBuffer (ipcServer H) act, ipcActs := s.ipcActs ++ [act] }

/-- The client puts a command before the channel of the server. -/
def ask (s : Frontend H) (command : IpcCommand) (waiting : Nat → Bridge) : Frontend H :=
  { s.ipcStep (.call command) with bridge := waiting s.ipc.calls.length }

def send (s : Frontend H) (event : BridgeEvent) : Frontend H := { s with events := s.events ++ [event] }

def refresh (s : Frontend H) : Frontend H := s.ask .getStatus fun call => .asking call false [.listBackends]

/-- The bridge begins with a command. -/
def handleCommand (s : Frontend H) (stored : Stored) : UiCommand → Frontend H
  | .switchBackend backendId => s.ask (.switchBackend backendId) .switching
  | .refreshStatus => s.ask .getStatus fun call => .asking call true []
  | .refreshBackends => s.ask .listBackends fun call => .asking call true []
  | .reloadConfig =>
    match s.ipc.shared.backendState.updateConfig stored.claude with
    | .ok _ => (s.ipcStep (.event (.change (.updateConfig stored.claude)))).refresh
    | .error failure => s.send (.ipcError (Proxy.errorMessage failure))
  | .restartPty envVars cliArgs _ =>
    match stored.save with
    | .ok () => s.send (.ptyRestart envVars cliArgs)
    | .error e => s.send (.ipcError ("Failed to save settings: " ++ e))
  | .restartClaude => s.send .restartClaude
  | .setSubagentBackend backendId => s.send (.setSubagentBackend backendId)
  | .setTeammateBackend backendId => s.send (.setTeammateBackend backendId)

def take (s : Frontend H) (stored : Stored) : Frontend H :=
  match s.bridge, s.app.ipcSender with
  | .idle, some ⟨command :: rest, closed⟩ =>
    handleCommand { s with app := { s.app with ipcSender := some ⟨rest, closed⟩ }, taken := s.taken ++ [command] } stored command
  | _, _ => s

/-- The answer to a call, once it is there, or why there is none. -/
def outcome (s : Frontend H) (call : Nat) : Option (Except IpcError Reply) :=
  match s.ipc.stageOf call with
  | some (.received reply) => some (.ok reply)
  | some .timedOut => some (.error .timeout)
  | some .disconnected => some (.error .disconnected)
  | _ => none

def hear (s : Frontend H) (call : Nat) (result : Except IpcError Reply) : Frontend H :=
  match s.ipc.calls[call]?, result with
  | some ⟨command, _⟩, .ok reply => { s with answers := s.answers ++ [(command, reply)] }
  | _, _ => s

def finishSwitch (s : Frontend H) : Except IpcError Reply → Frontend H
  | .ok (.switched (.error failure)) => { s.send (.ipcError (Proxy.errorMessage failure)) with bridge := .idle }
  | .ok _ => s.refresh
  | .error e => { s.send (.ipcError e.message) with bridge := .idle }

def sendAnswer (s : Frontend H) (isRefresh : Bool) : Except IpcError Reply → Frontend H
  | .ok (.status status) => s.send (.ipcStatus status)
  | .ok (.backends backends) => s.send (.ipcBackends backends)
  | .ok _ => s
  | .error e => if isRefresh then s.send (.ipcError e.message) else s

def askNext (s : Frontend H) (isRefresh : Bool) : List IpcCommand → Frontend H
  | [] => { s with bridge := .idle }
  | command :: later => s.ask command fun call => .asking call isRefresh later

/-- The bridge goes on when the answer that it waits for is there. -/
def resume (s : Frontend H) : Frontend H :=
  match s.bridge with
  | .switching call =>
    match s.outcome call with
    | none => s
    | some result => (s.hear call result).finishSwitch result
  | .asking call isRefresh later =>
    match s.outcome call with
    | none => s
    | some result => ((s.hear call result).sendAnswer isRefresh result).askNext isRefresh later
  | _ => s

/-- The main loop takes an event; the restarts are followed elsewhere. -/
def next (s : Frontend H) : Frontend H :=
  match s.events with
  | [] => s
  | event :: rest =>
    let s := { s with events := rest, shown := s.shown ++ [event] }
    match event with
    | .ipcStatus status => { s with proxyStatus := some status }
    | .ipcBackends backends => { s with app := s.app.updateBackends (backends.map briefly) }
    | .ipcError message => { s with app := { s.app with lastIpcError := some message } }
    | .ptyRestart _ _ | .restartClaude => s
    | .setSubagentBackend backendId => { s with app := { s.app with subagentBackend := backendId } }
    | .setTeammateBackend backendId => { s with app := { s.app with teammateBackend := backendId } }

def request (s : Frontend H) (command : UiCommand) : Frontend H := { s with app := (s.app.send command).2 }

def step (s : Frontend H) : FrontendAct → Frontend H
  | .key input => { s with app := s.app.step (.key input) }
  | .history entries => { s with app := s.app.step (.history entries) }
  | .pty inner => { s with app := s.app.step (.pty inner) }
  | .tick => s.request .refreshStatus
  | .configReload => ((s.request .reloadConfig).request .refreshBackends).request .refreshStatus
  | .take stored => s.take stored
  | .resume => s.resume
  | .next => s.next
  | .closeChannel => { s with app := { s.app with ipcSender := s.app.ipcSender.map fun _ => ⟨[], true⟩ }, bridge := .gone }
  | .ipc act => s.ipcStep act

/-- The two refreshes are requested before the loop begins. -/
def start (proxy : Proxy H) (settings : ClaudeSettingsManager) (subagentBackend teammateBackend : Option String) : Frontend H where
  app := { DialogApp.new settings subagentBackend teammateBackend with
    ipcSender := some { commands := [.refreshStatus, .refreshBackends] } }
  ipc := { shared := proxy }

end Frontend

end Anycode.Ui
