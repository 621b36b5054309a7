import Anycode.Backend.Closed
import Anycode.Config.Credentials
import Anycode.Config.Types
import Anycode.Data.Requests
import Anycode.Metrics.Hub
import Anycode.Thinking.Registry

/-!
# The IPC between the terminal and the proxy

The commands of `ipc/types.rs`, the server loop of `ipc/server.rs` and the client of
`ipc/client.rs`, over the channel of `ipc/layer.rs`. The server takes each lock anew, so that the
requests, the web UI and the bridge write between two of its reads.
-/

namespace Anycode.Ipc
open Data Config Metrics Thinking

def ipcBuffer : Nat := 16

structure ProxyStatus where
  activeBackend : String
  uptimeSeconds : Nat
  totalRequests : Nat
  healthy : Bool
  deriving DecidableEq

structure BackendInfo where
  id : String
  displayName : String
  isActive : Bool
  isConfigured : Bool
  baseUrl : String
  deriving DecidableEq

inductive IpcCommand where
  | switchBackend (backendId : String)
  | getStatus
  | listBackends
  | getDebugLogging
  | setDebugLogging (config : DebugLoggingConfig)

inductive Reply where
  | switched (result : Except BackendError String)
  | status (status : ProxyStatus)
  | backends (backends : List BackendInfo)
  | debugLogging (config : DebugLoggingConfig)
  | debugLoggingSet

/-- What `IpcServer::run` is given. -/
structure Proxy (H : Type) where
  backendState : BackendState
  observability : ObservabilityHub
  debugLogging : DebugLoggingConfig
  shuttingDown : Bool := false
  uptimeSeconds : Nat := 0
  transformerRegistry : ThinkingRegistry H

/-- How far the server has come with a command. -/
inductive Phase where
  | begun (command : IpcCommand)
  | switchedTo (backendId : String)
  | readBack (backendId active : String)
  | counted (total : Nat)
  | named (total : Nat) (active : String)
  | timed (total : Nat) (active : String) (uptime : Nat)

/-- The other writers: the web UI and the bridge, requests that begin and end, a signal, the clock. -/
inductive Writer where
  | change (change : BackendState.Change)
  | beginRequest (backend : String)
  | finishRequest (finish : Finish)
  | signalShutdown
  | tick (seconds : Nat)

namespace Proxy
variable {H : Type}

def listBackends (proxy : Proxy H) : List BackendInfo :=
  proxy.backendState.config.backends.map fun backend =>
    { id := backend.name
      displayName := backend.displayName
      isActive := backend.name == proxy.backendState.activeBackend
      isConfigured := backend.isConfigured
      baseUrl := backend.baseUrl }

/-- The locked part of one phase. -/
def serve (proxy : Proxy H) : Phase → Proxy H × (Phase ⊕ Reply)
  | .begun (.switchBackend backendId) =>
    match proxy.backendState.switchBackend backendId with
    | .ok state => ({ proxy with backendState := state }, .inl (.switchedTo backendId))
    | .error failure => (proxy, .inr (.switched (.error failure)))
  | .switchedTo backendId => (proxy, .inl (.readBack backendId proxy.backendState.activeBackend))
  | .readBack backendId active =>
    ({ proxy with transformerRegistry := proxy.transformerRegistry.onBackendSwitch backendId }, .inr (.switched (.ok active)))
  | .begun .getStatus => (proxy, .inl (.counted proxy.observability.totals))
  | .counted total => (proxy, .inl (.named total proxy.backendState.activeBackend))
  | .named total active => (proxy, .inl (.timed total active proxy.uptimeSeconds))
  | .timed total active uptime => (proxy, .inr (.status ⟨active, uptime, total, !proxy.shuttingDown⟩))
  | .begun .listBackends => (proxy, .inr (.backends proxy.listBackends))
  | .begun .getDebugLogging => (proxy, .inr (.debugLogging proxy.debugLogging))
  | .begun (.setDebugLogging config) => ({ proxy with debugLogging := config }, .inr .debugLoggingSet)

def write (proxy : Proxy H) : Writer → Proxy H
  | .change change => { proxy with backendState := proxy.backendState.step change }
  | .beginRequest backend => { proxy with transformerRegistry := proxy.transformerRegistry.onBackendSwitch backend }
  | .finishRequest finish => { proxy with observability := proxy.observability.finishRequest finish.span finish.now }
  | .signalShutdown => { proxy with shuttingDown := true }
  | .tick seconds => { proxy with uptimeSeconds := proxy.uptimeSeconds + seconds }

end Proxy

def ipcServer (H : Type) : Service (Proxy H) IpcCommand Phase Reply Writer where
  begins := .begun
  advance := Proxy.serve
  event := Proxy.write

abbrev Act := Exchange.Act IpcCommand Writer

/-- The clients, the channel and the server after some steps. -/
def served {H : Type} (proxy : Proxy H) (acts : List Act) : Exchange (Proxy H) IpcCommand Phase Reply :=
  run (Exchange.step ipcBuffer (ipcServer H)) { shared := proxy } acts

/-! ### Delivery -/

/-- Whatever the clients, the server and the other writers do, no command that was accepted is
lost, repeated or overtaken while the server runs, and an answer is with the client whose command
it answers. -/
theorem commands_delivered {H : Type} (proxy : Proxy H) (acts : List Act) : (served proxy acts).Delivers ipcBuffer :=
  Exchange.delivers_of_invariant (Exchange.run_invariant acts)

/-! ### What a client is told -/

/-- What an answer says of the proxy's states while the command was served. -/
inductive Told {H : Type} : IpcCommand → Reply → List (Proxy H) → Prop where
  /-- The backend was made active, the name read after it was active then, and the registry knows
  of the switch at the end. -/
  | switched {backendId name : String} {trace : List (Proxy H)} (made read last : Proxy H)
      (order : [made, read, last].Sublist trace)
      (active : made.backendState.activeBackend = backendId) (listed : made.backendState.config.hasBackend backendId = true)
      (told : read.backendState.activeBackend = name) (notified : last.transformerRegistry.currentBackend = backendId) :
      Told (.switchBackend backendId) (.switched (.ok name)) trace
  | refused {backendId : String} {trace : List (Proxy H)} (found : Proxy H) (member : found ∈ trace)
      (unlisted : found.backendState.config.hasBackend backendId = false) :
      Told (.switchBackend backendId) (.switched (.error (.backendNotFound backendId))) trace
  | status {trace : List (Proxy H)} (counted named timed flagged : Proxy H)
      (order : [counted, named, timed, flagged].Sublist trace) :
      Told .getStatus
        (.status ⟨named.backendState.activeBackend, timed.uptimeSeconds, counted.observability.totals, !flagged.shuttingDown⟩) trace
  | backends {trace : List (Proxy H)} (found : Proxy H) (member : found ∈ trace) : Told .listBackends (.backends found.listBackends) trace
  | debugLogging {trace : List (Proxy H)} (found : Proxy H) (member : found ∈ trace) :
      Told .getDebugLogging (.debugLogging found.debugLogging) trace
  | debugLoggingSet {config : DebugLoggingConfig} {trace : List (Proxy H)} (found : Proxy H) (member : found ∈ trace)
      (stored : found.debugLogging = config) : Told (.setDebugLogging config) .debugLoggingSet trace

/-- What holds of the states so far when a command is in a phase. -/
inductive Reached {H : Type} : IpcCommand → Phase → List (Proxy H) → Prop where
  | begun {command : IpcCommand} {trace : List (Proxy H)} : Reached command (.begun command) trace
  | switchedTo {backendId : String} {trace : List (Proxy H)} (made : Proxy H) (member : made ∈ trace)
      (active : made.backendState.activeBackend = backendId) (listed : made.backendState.config.hasBackend backendId = true) :
      Reached (.switchBackend backendId) (.switchedTo backendId) trace
  | readBack {backendId name : String} {trace : List (Proxy H)} (made read : Proxy H) (order : [made, read].Sublist trace)
      (active : made.backendState.activeBackend = backendId) (listed : made.backendState.config.hasBackend backendId = true)
      (told : read.backendState.activeBackend = name) : Reached (.switchBackend backendId) (.readBack backendId name) trace
  | counted {trace : List (Proxy H)} (counted : Proxy H) (member : counted ∈ trace) :
      Reached .getStatus (.counted counted.observability.totals) trace
  | named {trace : List (Proxy H)} (counted named : Proxy H) (order : [counted, named].Sublist trace) :
      Reached .getStatus (.named counted.observability.totals named.backendState.activeBackend) trace
  | timed {trace : List (Proxy H)} (counted named timed : Proxy H) (order : [counted, named, timed].Sublist trace) :
      Reached .getStatus (.timed counted.observability.totals named.backendState.activeBackend timed.uptimeSeconds) trace

theorem currentBackend_onBackendSwitch {H : Type} (registry : ThinkingRegistry H) (backend : String) :
    (registry.onBackendSwitch backend).currentBackend = backend := by
  unfold ThinkingRegistry.onBackendSwitch
  split
  · rfl
  · rename_i same
    exact not_not.mp same

theorem mem_concat {α : Type} (xs : List α) (x : α) : x ∈ xs ++ [x] := List.mem_append_right _ (List.mem_singleton.mpr rfl)

theorem reached_goesOn {H : Type} {command : IpcCommand} {phase : Phase} {trace : List (Proxy H)} (proxy : Proxy H)
    (reached : Reached command phase trace) : Reached command phase (trace ++ [proxy]) := by
  have longer {order : List (Proxy H)} (before : order.Sublist trace) : order.Sublist (trace ++ [proxy]) :=
    before.trans (List.sublist_append_left _ _)
  cases reached with
  | begun => exact .begun
  | switchedTo made member active listed => exact .switchedTo made (List.mem_append_left _ member) active listed
  | readBack made read order active listed told => exact .readBack made read (longer order) active listed told
  | counted counted member => exact .counted counted (List.mem_append_left _ member)
  | named counted named order => exact .named counted named (longer order)
  | timed counted named timed order => exact .timed counted named timed (longer order)

/-- One phase: where it leaves the command, or what it answers, holds of the states up to its own. -/
theorem reached_serve {H : Type} {command : IpcCommand} {phase : Phase} {trace : List (Proxy H)} (proxy : Proxy H)
    (reached : Reached command phase trace) :
    match proxy.serve phase with
    | (next, .inl later) => Reached command later (trace ++ [next])
    | (next, .inr answer) => Told command answer (trace ++ [next]) := by
  have own (next : Proxy H) : [next].Sublist [next] := List.Sublist.refl _
  cases reached with
  | begun =>
    cases command with
    | switchBackend backendId =>
      simp only [Proxy.serve]
      cases done : proxy.backendState.switchBackend backendId with
      | ok switched =>
        obtain ⟨listed, active, config, _⟩ := BackendState.switchBackend_ok done
        exact .switchedTo _ (mem_concat _ _) active (config ▸ listed)
      | error failure =>
        obtain ⟨unlisted, rfl⟩ := BackendState.switchBackend_error done
        exact .refused proxy (mem_concat _ _) unlisted
    | getStatus => exact .counted proxy (mem_concat _ _)
    | listBackends => exact .backends proxy (mem_concat _ _)
    | getDebugLogging => exact .debugLogging proxy (mem_concat _ _)
    | setDebugLogging config => exact .debugLoggingSet _ (mem_concat _ _) rfl
  | switchedTo made member active listed =>
    exact .readBack made proxy ((List.singleton_sublist.mpr member).append (own proxy)) active listed rfl
  | readBack made read order active listed told =>
    exact .switched made read _ (order.append (own _)) active listed told (currentBackend_onBackendSwitch _ _)
  | counted counted member => exact .named counted proxy ((List.singleton_sublist.mpr member).append (own proxy))
  | named counted named order => exact .timed counted named proxy (order.append (own proxy))
  | timed counted named timed order => exact .status counted named timed proxy (order.append (own proxy))

theorem server_truthful (H : Type) : Exchange.Truthful (ipcServer H) Reached Told where
  begins _ _ := .begun
  goesOn _ _ _ proxy reached := reached_goesOn proxy reached
  advances _ _ _ proxy _ _ reached _ done := by
    have next := reached_serve proxy reached
    rw [show proxy.serve _ = _ from done] at next
    exact next
  answers _ _ _ proxy _ _ reached _ done := by
    have next := reached_serve proxy reached
    rw [show proxy.serve _ = _ from done] at next
    exact next

/-- Every answer is true of states that the proxy went through between the moment the command was
accepted and the moment it was answered, in the order in which the server reads them. -/
theorem answers_true {H : Type} (proxy : Proxy H) (acts : List Act) :
    ∀ entry ∈ (served proxy acts).handled, Exchange.Witnessed ipcBuffer (ipcServer H) Told proxy acts entry :=
  (Exchange.run_truthful (server_truthful H) proxy acts).2

/-- The web UI switches back before the server reads the name. -/
def overtakenSwitch : List Act :=
  [.call (.switchBackend "kimi"), .send 0, .take, .advance, .event (.change (.switchBackend "glm")), .advance, .advance]

def twoBackends : Proxy Nat where
  backendState :=
    { activeBackend := "glm", config := ⟨"glm", [BackendState.glm, BackendState.kimi]⟩, switchLog := [⟨none, "glm"⟩] }
  observability := { capacity := 1000 }
  debugLogging := {}
  transformerRegistry := .new

theorem overtaken_switch_told :
    Exchange.Witnessed ipcBuffer (ipcServer Nat) Told twoBackends overtakenSwitch
      ⟨0, .switchBackend "kimi", .switched (.ok "glm")⟩ :=
  answers_true twoBackends overtakenSwitch _ (List.mem_of_getElem? (i := 0) rfl)

end Anycode.Ipc
