import Anycode.Ui.Bridge

/-!
# What is shown of the proxy

In every interleaving of keys, the bridge, the IPC server and other writers, the status and the
backends that the application shows were true of the proxy, and never go back in time.
-/

namespace Anycode.Ui
open Config Data Ipc Term

/-- The event that an answer becomes. -/
def eventOf : Reply → Option BridgeEvent
  | .status status => some (.ipcStatus status)
  | .backends backends => some (.ipcBackends backends)
  | _ => none

namespace BridgeEvent

def isAnswer : BridgeEvent → Bool
  | .ipcStatus _ | .ipcBackends _ => true
  | _ => false

def status : BridgeEvent → Option ProxyStatus
  | .ipcStatus status => some status
  | _ => none

def backends : BridgeEvent → Option (List BackendInfo)
  | .ipcBackends backends => some (backends.map briefly)
  | _ => none

/-- Backends that the event names are listed. -/
def Names (listed : List BackendInfo) : BridgeEvent → Prop
  | .ipcBackends backends => ∀ info ∈ backends, briefly info ∈ listed
  | .setSubagentBackend backendId => (UiCommand.setSubagentBackend backendId).Names listed
  | .setTeammateBackend backendId => (UiCommand.setTeammateBackend backendId).Names listed
  | _ => True

end BridgeEvent

/-- All backends in the lists that the bridge was told. -/
def listed (answers : List (IpcCommand × Reply)) : List BackendInfo :=
  answers.flatMap fun answer => (eventOf answer.2).elim [] fun event => event.backends.getD []

/-- A switch names a backend that an answer before it listed as not active. -/
def SwitchesListed (answers : List (IpcCommand × Reply)) : Prop :=
  ∀ early backendId reply late, answers = early ++ (.switchBackend backendId, reply) :: late →
    (UiCommand.switchBackend backendId).Names (listed early)

/-- The bridge takes nothing here, or one command that names backends that answers before it listed;
a switch names one that was listed as not active. -/
def TakesListed {H : Type} (s : Frontend H) (act : FrontendAct) : Prop :=
  (s.step act).taken = s.taken ∨
    ∃ command, (s.step act).taken = s.taken ++ [command] ∧ command.Names (listed s.answers)

theorem UiCommand.Names.mono {command : UiCommand} {backends more : List BackendInfo} (names : command.Names backends)
    (kept : ∀ backend ∈ backends, backend ∈ more) : command.Names more := by
  cases command with
  | switchBackend id =>
    obtain ⟨backend, member, found⟩ := names
    exact ⟨backend, kept backend member, found⟩
  | setSubagentBackend backendId | setTeammateBackend backendId =>
    cases backendId with
    | none => trivial
    | some id =>
      obtain ⟨backend, member, found⟩ := names
      exact ⟨backend, kept backend member, found⟩
  | _ => trivial

theorem BridgeEvent.Names.mono {event : BridgeEvent} {backends more : List BackendInfo} (names : event.Names backends)
    (kept : ∀ backend ∈ backends, backend ∈ more) : event.Names more := by
  cases event with
  | ipcBackends list => exact fun info member => kept _ (names info member)
  | setSubagentBackend backendId | setTeammateBackend backendId => exact UiCommand.Names.mono names kept
  | _ => trivial

theorem listed_append (first second : List (IpcCommand × Reply)) : listed (first ++ second) = listed first ++ listed second :=
  List.flatMap_append

theorem listed_later (answers : List (IpcCommand × Reply)) (answer : IpcCommand × Reply) :
    ∀ backend ∈ listed answers, backend ∈ listed (answers ++ [answer]) := by
  intro backend member
  rw [listed_append]
  exact List.mem_append_left _ member

/-! ### Commands and their events -/

/-- A change of the proxy, after which the bridge asks for its status and its backends. -/
def UiCommand.changes : UiCommand → Bool
  | .switchBackend _ | .reloadConfig => true
  | _ => false

/-- What the application is sent for a command. -/
inductive Answered : UiCommand → List BridgeEvent → Prop
  | status (status : ProxyStatus) : Answered .refreshStatus [.ipcStatus status]
  | statusFailed (e : IpcError) : Answered .refreshStatus [.ipcError e.message]
  | backends (backends : List Ipc.BackendInfo) : Answered .refreshBackends [.ipcBackends backends]
  | backendsFailed (e : IpcError) : Answered .refreshBackends [.ipcError e.message]
  | changed {command : UiCommand} (changes : command.changes = true) (status : Option ProxyStatus)
      (backends : Option (List Ipc.BackendInfo)) :
      Answered command ((status.map .ipcStatus).toList ++ (backends.map .ipcBackends).toList)
  | unchanged {command : UiCommand} (changes : command.changes = true) (message : String) : Answered command [.ipcError message]
  | restarts (envVars : List (String × String)) (cliArgs : List String) (settingsToml : Settings) :
      Answered (.restartPty envVars cliArgs settingsToml) [.ptyRestart envVars cliArgs]
  | unsaved (envVars : List (String × String)) (cliArgs : List String) (settingsToml : Settings) (e : String) :
      Answered (.restartPty envVars cliArgs settingsToml) [.ipcError ("Failed to save settings: " ++ e)]
  | restartsClaude : Answered .restartClaude [.restartClaude]
  | setsSubagent (backendId : Option String) : Answered (.setSubagentBackend backendId) [.setSubagentBackend backendId]
  | setsTeammate (backendId : Option String) : Answered (.setTeammateBackend backendId) [.setTeammateBackend backendId]

/-- Each of the commands is answered before the next one. -/
inductive Complete : List UiCommand → List BridgeEvent → Prop
  | none : Complete [] []
  | next {taken : List UiCommand} {sent : List BridgeEvent} (before : Complete taken sent) {command : UiCommand}
      {events : List BridgeEvent} (answered : Answered command events) : Complete (taken ++ [command]) (sent ++ events)

/-- The events are those that have been sent for the last command. -/
def InCourse (taken : List UiCommand) (sent : List BridgeEvent) (command : UiCommand) (events : List BridgeEvent) : Prop :=
  ∃ before early, taken = before ++ [command] ∧ Complete before early ∧ sent = early ++ events

/-- What a command still asks for when it has sent the events. -/
inductive Asks (command : UiCommand) : Bool → IpcCommand → List IpcCommand → List BridgeEvent → Prop
  | refreshStatus (own : command = .refreshStatus) : Asks command true .getStatus [] []
  | refreshBackends (own : command = .refreshBackends) : Asks command true .listBackends [] []
  | status (changes : command.changes = true) : Asks command false .getStatus [.listBackends] []
  | backends (changes : command.changes = true) (status : Option ProxyStatus) :
      Asks command false .listBackends [] (status.map .ipcStatus).toList

/-- The events of a result that the bridge has waited for. -/
def eventsOf (isRefresh : Bool) : Except IpcError Reply → List BridgeEvent
  | .ok reply => (eventOf reply).toList
  | .error e => if isRefresh then [.ipcError e.message] else []

theorem Complete.begins {taken : List UiCommand} {sent : List BridgeEvent} (complete : Complete taken sent) (command : UiCommand) :
    InCourse (taken ++ [command]) sent command [] := ⟨taken, sent, rfl, complete, (List.append_nil _).symm⟩

theorem InCourse.complete {taken : List UiCommand} {sent events : List BridgeEvent} {command : UiCommand}
    (course : InCourse taken sent command events) (answered : Answered command events) : Complete taken sent := by
  obtain ⟨before, early, rfl, complete, rfl⟩ := course
  exact complete.next answered

theorem InCourse.sends {taken : List UiCommand} {sent events : List BridgeEvent} {command : UiCommand}
    (course : InCourse taken sent command events) (more : List BridgeEvent) :
    InCourse taken (sent ++ more) command (events ++ more) := by
  obtain ⟨before, early, rfl, complete, rfl⟩ := course
  exact ⟨before, early, rfl, complete, List.append_assoc _ _ _⟩

theorem Asks.query {command : UiCommand} {isRefresh : Bool} {query : IpcCommand} {later : List IpcCommand}
    {events : List BridgeEvent} (asks : Asks command isRefresh query later events) : query = .getStatus ∨ query = .listBackends := by
  cases asks with
  | refreshStatus | status => exact .inl rfl
  | refreshBackends | backends => exact .inr rfl

/-- A result answers the command, or the command goes on to ask. -/
theorem Asks.goesOn {H : Type} {command : UiCommand} {isRefresh : Bool} {query : IpcCommand} {later : List IpcCommand}
    {events : List BridgeEvent} (asks : Asks command isRefresh query later events) {result : Except IpcError Reply}
    (told : ∀ reply, result = .ok reply → ∃ trace : List (Proxy H), Told query reply trace) :
    match later with
    | [] => Answered command (events ++ eventsOf isRefresh result)
    | next :: later => Asks command isRefresh next later (events ++ eventsOf isRefresh result) := by
  cases result with
  | error e =>
    cases asks with
    | refreshStatus own => exact own ▸ .statusFailed e
    | refreshBackends own => exact own ▸ .backendsFailed e
    | status changes => exact .backends changes none
    | backends changes status => exact .changed changes status none
  | ok reply =>
    obtain ⟨trace, holds⟩ := told reply rfl
    cases asks with
    | refreshStatus own =>
      cases holds
      exact own ▸ .status _
    | refreshBackends own =>
      cases holds
      exact own ▸ .backends _
    | status changes =>
      cases holds
      exact .backends changes (some _)
    | backends changes status =>
      cases holds
      exact .changed changes status (some _)

/-! ### The state -/

/-- What the bridge waits for was asked after all that it was told, and for the command it took last. -/
def Bridge.Waits {H : Type} (proxy : Proxy H) (answers : List (IpcCommand × Reply)) (acts : List Ipc.Act)
    (taken : List UiCommand) (sent : List BridgeEvent) : Bridge → Prop
  | .idle => Complete taken sent
  | .switching call => ∃ backendId, InCourse taken sent (.switchBackend backendId) [] ∧
      (UiCommand.switchBackend backendId).Names (listed answers) ∧
      Exchange.Awaits ipcBuffer (ipcServer H) Told proxy answers acts call (.switchBackend backendId)
  | .asking call isRefresh later => ∃ command query events, InCourse taken sent command events ∧
      Asks command isRefresh query later events ∧ Exchange.Awaits ipcBuffer (ipcServer H) Told proxy answers acts call query
  | .gone => True

namespace Frontend
variable {H : Type}

/-- The commands that wait for the bridge. -/
def waiting (app : DialogApp) : List UiCommand := (app.ipcSender.map CommandChannel.commands).getD []

/-- What the application shows, and what the bridge was told of the proxy. -/
structure Shows (proxy : Proxy H) (s : Frontend H) : Prop where
  ipc : s.ipc = served proxy s.ipcActs
  inTurn : Exchange.InTurn ipcBuffer (ipcServer H) Told proxy s.answers s.ipcActs
  events : (s.shown ++ s.events).filter BridgeEvent.isAnswer = s.answers.filterMap fun answer => eventOf answer.2
  status : s.proxyStatus = (s.shown.filterMap BridgeEvent.status).getLast?
  backends : s.app.backends = ((s.shown.filterMap BridgeEvent.backends).getLast?).getD []
  switches : SwitchesListed s.answers

/-- Backends that the application, its commands and the events name were listed by the proxy. -/
structure Sound (proxy : Proxy H) (s : Frontend H) : Prop extends Shows proxy s where
  app : ∀ backend ∈ s.app.backends, backend ∈ listed s.answers
  commands : ∀ command ∈ waiting s.app, command.Names (listed s.answers)
  queue : ∀ event ∈ s.events, event.Names (listed s.answers)

def sent (s : Frontend H) : List BridgeEvent := s.shown ++ s.events

def WaitsLast (s : Frontend H) (proxy : Proxy H) : Prop := s.bridge.Waits proxy s.answers s.ipcActs s.taken s.sent

variable {proxy : Proxy H} {s : Frontend H}

/-! ### The application -/

theorem Sound.inBridge (sound : s.Sound proxy) (bridge : Bridge) : Sound proxy { s with bridge := bridge } :=
  ⟨⟨sound.ipc, sound.inTurn, sound.events, sound.status, sound.backends, sound.switches⟩, sound.app, sound.commands,
    sound.queue⟩

theorem Sound.inTaken (sound : s.Sound proxy) (taken : List UiCommand) : Sound proxy { s with taken := taken } :=
  ⟨⟨sound.ipc, sound.inTurn, sound.events, sound.status, sound.backends, sound.switches⟩, sound.app, sound.commands,
    sound.queue⟩

theorem Sound.inApp (sound : s.Sound proxy) {app : DialogApp} (backends : app.backends = s.app.backends)
    (commands : ∀ command ∈ waiting app, command.Names (listed s.answers)) : Sound proxy { s with app := app } :=
  ⟨⟨sound.ipc, sound.inTurn, sound.events, sound.status, backends.trans sound.backends, sound.switches⟩,
    backends ▸ sound.app, commands, sound.queue⟩

/-- What is sent names backends of the list, which the proxy has listed. -/
theorem Sound.sends (sound : s.Sound proxy) {app : DialogApp} (sends : Sends s.app app)
    (backends : app.backends = s.app.backends) : Sound proxy { s with app := app } := by
  refine sound.inApp backends fun command member => ?_
  cases sends with
  | nothing same =>
    rw [waiting, same] at member
    exact sound.commands command member
  | @command channel there added sent names =>
    have old : waiting s.app = channel.commands := by rw [waiting, there]; rfl
    rw [waiting, sent] at member
    rcases List.mem_append.mp member with before | last
    · exact sound.commands command (old ▸ before)
    · cases List.mem_singleton.mp last
      exact names.mono sound.app

theorem sound_request (sound : s.Sound proxy) (command : UiCommand) (names : command.Names s.app.backends) :
    (s.request command).Sound proxy :=
  sound.sends (DialogApp.send_sends s.app names) (congrArg View.backends (DialogApp.view_send s.app command))

/-! ### The IPC -/

theorem served_concat (proxy : Proxy H) (acts : List Ipc.Act) (act : Ipc.Act) :
    served proxy (acts ++ [act]) = (served proxy acts).step ipcBuffer (ipcServer H) act := Exchange.run_concat _ acts act

theorem sound_ipcStep (sound : s.Sound proxy) (act : Ipc.Act) : (s.ipcStep act).Sound proxy := by
  refine ⟨⟨?_, sound.inTurn.later [act], sound.events, sound.status, sound.backends, sound.switches⟩, sound.app,
    sound.commands, sound.queue⟩
  rw [ipcStep, sound.ipc]
  exact (served_concat proxy s.ipcActs act).symm

/-- A call that is made now comes after all that the bridge was told. -/
theorem sound_ask (sound : s.Sound proxy) (command : IpcCommand) {waits : Nat → Bridge}
    (own : ∀ acts call, Exchange.Awaits ipcBuffer (ipcServer H) Told proxy s.answers acts call command →
      (waits call).Waits proxy s.answers acts s.taken s.sent) : (s.ask command waits).Sound proxy ∧ (s.ask command waits).WaitsLast proxy := by
  refine ⟨(sound_ipcStep sound (.call command)).inBridge _, ?_⟩
  refine own (s.ipcActs ++ [.call command]) s.ipc.calls.length ?_
  rw [sound.ipc]
  exact Exchange.awaits_call sound.inTurn command

theorem sound_query (sound : s.Sound proxy) {command : UiCommand} {isRefresh : Bool} {query : IpcCommand}
    {later : List IpcCommand} {events : List BridgeEvent} (course : InCourse s.taken s.sent command events)
    (asks : Asks command isRefresh query later events) :
    (s.ask query fun call => .asking call isRefresh later).Sound proxy ∧
      (s.ask query fun call => .asking call isRefresh later).WaitsLast proxy :=
  sound_ask sound query fun _ _ awaits => ⟨command, query, events, course, asks, awaits⟩

theorem sound_refresh (sound : s.Sound proxy) {command : UiCommand} (course : InCourse s.taken s.sent command [])
    (changes : command.changes = true) : s.refresh.Sound proxy ∧ s.refresh.WaitsLast proxy :=
  sound_query sound course (.status changes)

/-! ### Events -/

theorem sound_send (sound : s.Sound proxy) (event : BridgeEvent) (own : event.isAnswer = false)
    (names : event.Names (listed s.answers)) : (s.send event).Sound proxy := by
  refine ⟨⟨sound.ipc, sound.inTurn, ?_, sound.status, sound.backends, sound.switches⟩, sound.app, sound.commands, ?_⟩
  · have silent : [event].filter BridgeEvent.isAnswer = [] := List.filter_cons_of_neg (Bool.eq_false_iff.mp own)
    rw [send, ← List.append_assoc, List.filter_append, silent, List.append_nil]
    exact sound.events
  · intro other member
    rcases List.mem_append.mp member with before | last
    · exact sound.queue other before
    · cases List.mem_singleton.mp last
      exact names

theorem eventOf_isAnswer {reply : Reply} {event : BridgeEvent} (told : eventOf reply = some event) : event.isAnswer = true := by
  cases reply with
  | status | backends => cases told; rfl
  | switched | debugLogging | debugLoggingSet => cases told

theorem listed_event {command : IpcCommand} {reply : Reply} {event : BridgeEvent} (told : eventOf reply = some event)
    (answers : List (IpcCommand × Reply)) : event.Names (listed (answers ++ [(command, reply)])) := by
  cases reply with
  | status => cases told; trivial
  | backends list =>
    cases told
    intro info member
    rw [listed_append]
    refine List.mem_append_right _ (List.mem_flatMap.mpr ⟨_, List.mem_singleton_self _, ?_⟩)
    exact List.mem_map_of_mem member
  | switched | debugLogging | debugLoggingSet => cases told

theorem switchesListed_concat {answers : List (IpcCommand × Reply)} {command : IpcCommand} (switches : SwitchesListed answers)
    (named : ∀ backendId, command = .switchBackend backendId → (UiCommand.switchBackend backendId).Names (listed answers))
    (reply : Reply) : SwitchesListed (answers ++ [(command, reply)]) := by
  intro early backendId other late split
  rcases List.eq_nil_or_concat late with rfl | ⟨before, last, rfl⟩
  · obtain ⟨rfl, same⟩ := List.append_inj' split rfl
    cases same
    exact named backendId rfl
  · rw [List.concat_eq_append, ← List.cons_append, ← List.append_assoc] at split
    obtain ⟨rfl, -⟩ := List.append_inj' split rfl
    exact switches early backendId other before rfl

/-- The bridge is told something, and sends the event that shows it. -/
theorem Sound.told (sound : s.Sound proxy) {command : IpcCommand} {reply : Reply}
    (inTurn : Exchange.InTurn ipcBuffer (ipcServer H) Told proxy (s.answers ++ [(command, reply)]) s.ipcActs)
    (named : ∀ backendId, command = .switchBackend backendId → (UiCommand.switchBackend backendId).Names (listed s.answers)) :
    Sound proxy { s with answers := s.answers ++ [(command, reply)], events := s.events ++ (eventOf reply).toList } := by
  have kept := listed_later s.answers (command, reply)
  refine ⟨⟨sound.ipc, inTurn, ?_, sound.status, sound.backends, switchesListed_concat sound.switches named reply⟩,
    fun backend member => kept _ (sound.app backend member), fun command member => (sound.commands command member).mono kept, ?_⟩
  · rw [← List.append_assoc, List.filter_append, sound.events, List.filterMap_append]
    congr 1
    cases told : eventOf reply with
    | none => rw [List.filterMap_cons, told]; rfl
    | some event =>
      rw [List.filterMap_cons, told, Option.toList_some, List.filter_cons_of_pos (eventOf_isAnswer told)]
      rfl
  · intro event member
    rcases List.mem_append.mp member with before | last
    · exact (sound.queue event before).mono kept
    · exact listed_event (Option.mem_toList.mp last) s.answers

/-! ### The bridge -/

/-- A command that is answered at once. -/
theorem sound_answered (sound : s.Sound proxy) (idle : s.bridge = .idle) {command : UiCommand}
    (course : InCourse s.taken s.sent command []) {event : BridgeEvent} (answered : Answered command [event])
    (own : event.isAnswer = false) (names : event.Names (listed s.answers)) :
    (s.send event).Sound proxy ∧ (s.send event).WaitsLast proxy := by
  refine ⟨sound_send sound event own names, ?_⟩
  have complete : Complete s.taken (s.sent ++ [event]) := (course.sends [event]).complete answered
  rw [sent, List.append_assoc] at complete
  rw [WaitsLast, send, idle]
  exact complete

theorem sound_handleCommand (sound : s.Sound proxy) (idle : s.bridge = .idle) (stored : Stored) {command : UiCommand}
    (course : InCourse s.taken s.sent command []) (names : command.Names (listed s.answers)) :
    (s.handleCommand stored command).Sound proxy ∧ (s.handleCommand stored command).WaitsLast proxy := by
  cases command with
  | switchBackend backendId => exact sound_ask sound _ fun acts call awaits => ⟨backendId, course, names, awaits⟩
  | refreshStatus => exact sound_query sound course (.refreshStatus rfl)
  | refreshBackends => exact sound_query sound course (.refreshBackends rfl)
  | reloadConfig =>
    rw [handleCommand]
    split
    · exact sound_refresh (sound_ipcStep sound _) course rfl
    · exact sound_answered sound idle course (.unchanged rfl _) rfl trivial
  | restartPty envVars cliArgs settingsToml =>
    rw [handleCommand]
    split
    · exact sound_answered sound idle course (.restarts envVars cliArgs settingsToml) rfl trivial
    · exact sound_answered sound idle course (.unsaved envVars cliArgs settingsToml _) rfl trivial
  | restartClaude => exact sound_answered sound idle course .restartsClaude rfl trivial
  | setSubagentBackend backendId => exact sound_answered sound idle course (.setsSubagent backendId) rfl names
  | setTeammateBackend backendId => exact sound_answered sound idle course (.setsTeammate backendId) rfl names

theorem sound_take (sound : s.Sound proxy) (waits : s.WaitsLast proxy) (stored : Stored) :
    (s.take stored).Sound proxy ∧ (s.take stored).WaitsLast proxy := by
  rw [take]
  split
  · rename_i command rest closed idle sender
    have held : waiting s.app = command :: rest := by rw [waiting, sender]; rfl
    obtain ⟨first, later⟩ := List.forall_mem_cons.mp (held ▸ sound.commands)
    rw [WaitsLast, idle] at waits
    have left : Sound proxy { s with app := { s.app with ipcSender := some ⟨rest, closed⟩ } } := sound.inApp rfl later
    exact sound_handleCommand (left.inTaken (s.taken ++ [command])) idle stored (Complete.begins waits command) first
  · exact ⟨sound, waits⟩

theorem outcome_received {call : Nat} {reply : Reply} (found : s.outcome call = some (.ok reply)) :
    s.ipc.stageOf call = some (.received reply) := by
  unfold outcome at found
  split at found
  · rename_i stage
    cases found
    exact stage
  · cases found
  · cases found
  · cases found

/-- An answer that the bridge has waited for is one of its own turn. -/
theorem heard (sound : s.Sound proxy) {call : Nat} {command : IpcCommand} {reply : Reply}
    (awaits : Exchange.Awaits ipcBuffer (ipcServer H) Told proxy s.answers s.ipcActs call command)
    (found : s.outcome call = some (.ok reply)) :
    Exchange.InTurn ipcBuffer (ipcServer H) Told proxy (s.answers ++ [(command, reply)]) s.ipcActs ∧
      s.hear call (.ok reply) = { s with answers := s.answers ++ [(command, reply)] } := by
  have back := outcome_received found
  rw [sound.ipc] at back
  refine ⟨awaits.received (server_truthful H) back, ?_⟩
  obtain ⟨own, here, rfl⟩ := awaits.made
  have there : s.ipc.calls[call]? = some own := by rw [sound.ipc]; exact here
  unfold hear
  rw [there]

theorem hear_error (s : Frontend H) (call : Nat) (e : IpcError) : s.hear call (.error e) = s := by
  unfold hear
  split
  · rename_i same
    cases same
  · rfl

theorem hear_answers (s : Frontend H) (call : Nat) (result : Except IpcError Reply) :
    ∃ answers, s.hear call result = { s with answers := answers } := by
  unfold hear
  split
  · exact ⟨_, rfl⟩
  · exact ⟨_, rfl⟩

theorem sendAnswer_eq (s : Frontend H) (isRefresh : Bool) (result : Except IpcError Reply) :
    s.sendAnswer isRefresh result = { s with events := s.events ++ eventsOf isRefresh result } := by
  cases result with
  | error e =>
    cases isRefresh with
    | true => rfl
    | false => exact congrArg (fun events => { s with events := events }) (List.append_nil _).symm
  | ok reply =>
    cases reply with
    | status | backends => rfl
    | switched | debugLogging | debugLoggingSet => exact congrArg (fun events => { s with events := events }) (List.append_nil _).symm

theorem sound_switched (sound : s.Sound proxy) {call : Nat} {backendId : String}
    (course : InCourse s.taken s.sent (.switchBackend backendId) [])
    (names : (UiCommand.switchBackend backendId).Names (listed s.answers))
    (awaits : Exchange.Awaits ipcBuffer (ipcServer H) Told proxy s.answers s.ipcActs call (.switchBackend backendId))
    {result : Except IpcError Reply} (found : s.outcome call = some result) :
    ((s.hear call result).finishSwitch result).Sound proxy ∧ ((s.hear call result).finishSwitch result).WaitsLast proxy := by
  have refused (message : String) : Complete s.taken (s.shown ++ (s.events ++ [.ipcError message])) := by
    rw [← List.append_assoc]
    exact (course.sends [.ipcError message]).complete (.unchanged rfl message)
  cases result with
  | error e =>
    rw [hear_error]
    exact ⟨(sound_send sound (.ipcError e.message) rfl trivial).inBridge .idle, refused e.message⟩
  | ok reply =>
    obtain ⟨inTurn, told⟩ := heard sound awaits found
    have after := sound.told inTurn fun other same => IpcCommand.switchBackend.inj same ▸ names
    obtain ⟨trace, holds⟩ := inTurn.holds (List.mem_append_right _ (List.mem_singleton_self _))
    have silent : eventOf reply = none := by cases holds <;> rfl
    rw [silent, Option.toList_none, List.append_nil] at after
    rw [told]
    cases holds with
    | switched => exact sound_refresh after course rfl
    | refused =>
      exact ⟨(sound_send after (.ipcError (Proxy.errorMessage (.backendNotFound backendId))) rfl trivial).inBridge .idle, refused _⟩

theorem sound_asked (sound : s.Sound proxy) {call : Nat} {command : UiCommand} {isRefresh : Bool} {query : IpcCommand}
    {rest : List IpcCommand} {events : List BridgeEvent} (course : InCourse s.taken s.sent command events)
    (asks : Asks command isRefresh query rest events)
    (awaits : Exchange.Awaits ipcBuffer (ipcServer H) Told proxy s.answers s.ipcActs call query)
    {result : Except IpcError Reply} (found : s.outcome call = some result) :
    (((s.hear call result).sendAnswer isRefresh result).askNext isRefresh rest).Sound proxy ∧
      (((s.hear call result).sendAnswer isRefresh result).askNext isRefresh rest).WaitsLast proxy := by
  have told : ∀ reply, result = .ok reply → ∃ trace : List (Proxy H), Told query reply trace := by
    rintro reply rfl
    exact (heard sound awaits found).1.holds (List.mem_append_right _ (List.mem_singleton_self _))
  have goesOn := asks.goesOn told
  have later : InCourse s.taken (s.shown ++ (s.events ++ eventsOf isRefresh result)) command (events ++ eventsOf isRefresh result) := by
    rw [← List.append_assoc]
    exact course.sends _
  have after : ((s.hear call result).sendAnswer isRefresh result).Sound proxy := by
    cases result with
    | error e =>
      rw [hear_error, sendAnswer]
      split
      · exact sound_send sound (.ipcError e.message) rfl trivial
      · exact sound
    | ok reply =>
      obtain ⟨inTurn, heard⟩ := heard sound awaits found
      rw [heard, sendAnswer_eq]
      refine sound.told inTurn ?_
      rintro backendId rfl
      cases asks.query <;> contradiction
  obtain ⟨answers, heard⟩ := s.hear_answers call result
  rw [heard, sendAnswer_eq] at after ⊢
  cases rest with
  | nil => exact ⟨after.inBridge .idle, later.complete goesOn⟩
  | cons next rest => exact sound_query after later goesOn

theorem sound_resume (sound : s.Sound proxy) (waits : s.WaitsLast proxy) : s.resume.Sound proxy ∧ s.resume.WaitsLast proxy := by
  rw [resume]
  cases bridge : s.bridge with
  | switching call =>
    rw [WaitsLast, bridge] at waits
    obtain ⟨backendId, course, names, awaits⟩ := waits
    dsimp only
    split
    · exact ⟨sound, by rw [WaitsLast, bridge]; exact ⟨backendId, course, names, awaits⟩⟩
    · rename_i result found
      exact sound_switched sound course names awaits found
  | asking call isRefresh later =>
    rw [WaitsLast, bridge] at waits
    obtain ⟨command, query, events, course, asks, awaits⟩ := waits
    dsimp only
    split
    · exact ⟨sound, by rw [WaitsLast, bridge]; exact ⟨command, query, events, course, asks, awaits⟩⟩
    · rename_i result found
      exact sound_asked sound course asks awaits found
  | idle | gone => exact ⟨sound, waits⟩

/-! ### The main loop -/

theorem getLast?_filterMap_concat {A B : Type} (f : A → Option B) (items : List A) (item : A) :
    ((items ++ [item]).filterMap f).getLast? = (f item).or (items.filterMap f).getLast? := by
  rw [List.filterMap_append]
  cases found : f item with
  | none => rw [List.filterMap_cons_none found, List.filterMap_nil, List.append_nil, Option.none_or]
  | some value => rw [List.filterMap_cons_some found, List.filterMap_nil, List.getLast?_concat, Option.some_or]

theorem names_backends {event : BridgeEvent} {known shown : List BackendInfo} (names : event.Names known)
    (kept : ∀ backend ∈ shown, backend ∈ known) : ∀ backend ∈ event.backends.getD shown, backend ∈ known := by
  cases event with
  | ipcBackends list =>
    intro backend member
    obtain ⟨info, inside, rfl⟩ := List.mem_map.mp member
    exact names info inside
  | _ => exact kept

/-- The main loop takes an event, and changes what it shows to what the event says. -/
theorem sound_shown (sound : s.Sound proxy) {event : BridgeEvent} {rest : List BridgeEvent} (queue : s.events = event :: rest)
    {app : DialogApp} {status : Option ProxyStatus} (sender : app.ipcSender = s.app.ipcSender)
    (newest : status = event.status.or s.proxyStatus) (backends : app.backends = event.backends.getD s.app.backends) :
    Sound proxy { s with app := app, proxyStatus := status, events := rest, shown := s.shown ++ [event] } := by
  obtain ⟨names, later⟩ := List.forall_mem_cons.mp (queue ▸ sound.queue)
  refine ⟨⟨sound.ipc, sound.inTurn, ?_, ?_, ?_, sound.switches⟩, ?_, ?_, later⟩
  · have events := sound.events
    rwa [queue, List.append_cons] at events
  · rw [getLast?_filterMap_concat, ← sound.status]
    exact newest
  · rw [getLast?_filterMap_concat]
    refine backends.trans ?_
    rw [sound.backends]
    cases event.backends <;> rfl
  · exact backends ▸ names_backends names sound.app
  · intro command member
    rw [waiting, sender] at member
    exact sound.commands command member

theorem sound_next (sound : s.Sound proxy) : s.next.Sound proxy := by
  rw [next]
  split
  · exact sound
  · rename_i event rest queue
    cases event with
    | ipcStatus | ipcBackends | ipcError | ptyRestart | restartClaude | setSubagentBackend | setTeammateBackend =>
      exact sound_shown sound queue rfl rfl rfl

theorem next_waits (waits : s.WaitsLast proxy) : s.next.WaitsLast proxy := by
  rw [next]
  split
  · exact waits
  · rename_i event rest queue
    have same : s.sent = s.shown ++ [event] ++ rest := by rw [sent, queue, List.append_assoc]; rfl
    rw [WaitsLast, same] at waits
    cases event <;> exact waits

/-! ### Runs -/

theorem waits_later {bridge : Bridge} {answers : List (IpcCommand × Reply)} {acts : List Ipc.Act} {taken : List UiCommand}
    {sent : List BridgeEvent} (waits : bridge.Waits proxy answers acts taken sent) (act : Ipc.Act) :
    bridge.Waits proxy answers (acts ++ [act]) taken sent := by
  cases bridge with
  | switching call =>
    obtain ⟨backendId, course, names, awaits⟩ := waits
    exact ⟨backendId, course, names, awaits.later act⟩
  | asking call isRefresh later =>
    obtain ⟨command, query, events, course, asks, awaits⟩ := waits
    exact ⟨command, query, events, course, asks, awaits.later act⟩
  | idle | gone => exact waits

theorem sound_step (sound : s.Sound proxy) (waits : s.WaitsLast proxy) (act : FrontendAct) :
    (s.step act).Sound proxy ∧ (s.step act).WaitsLast proxy := by
  cases act with
  | key input => exact ⟨sound.sends (s.app.classifyKey_sends input) (s.app.classifyKey_backends input), waits⟩
  | history entries => exact ⟨sound.inApp rfl sound.commands, waits⟩
  | pty inner => exact ⟨sound.inApp rfl sound.commands, waits⟩
  | tick => exact ⟨sound_request sound .refreshStatus trivial, waits⟩
  | configReload =>
    have reload := sound_request sound .reloadConfig trivial
    have backends := sound_request reload .refreshBackends trivial
    exact ⟨sound_request backends .refreshStatus trivial, waits⟩
  | take stored => exact sound_take sound waits stored
  | resume => exact sound_resume sound waits
  | next => exact ⟨sound_next sound, next_waits waits⟩
  | closeChannel =>
    have closed : Sound proxy { s with app := { s.app with ipcSender := s.app.ipcSender.map fun _ => ⟨[], true⟩ } } := by
      refine sound.inApp rfl fun command member => ?_
      rw [waiting, Option.map_map] at member
      cases sender : s.app.ipcSender <;> rw [sender] at member <;> cases member
    exact ⟨closed.inBridge .gone, trivial⟩
  | ipc act => exact ⟨sound_ipcStep sound act, waits_later waits act⟩

theorem handleCommand_taken (s : Frontend H) (stored : Stored) (command : UiCommand) :
    (s.handleCommand stored command).taken = s.taken := by
  cases command with
  | reloadConfig | restartPty =>
    rw [handleCommand]
    split <;> rfl
  | _ => rfl

theorem finishSwitch_taken (s : Frontend H) (result : Except IpcError Reply) : (s.finishSwitch result).taken = s.taken := by
  unfold finishSwitch
  split <;> rfl

theorem resume_taken (s : Frontend H) : s.resume.taken = s.taken := by
  have heard (call : Nat) (result : Except IpcError Reply) : (s.hear call result).taken = s.taken := by
    obtain ⟨answers, same⟩ := s.hear_answers call result
    rw [same]
  rw [resume]
  cases s.bridge with
  | switching call =>
    dsimp only
    split
    · rfl
    · rename_i result found
      exact (finishSwitch_taken _ result).trans (heard call result)
  | asking call isRefresh later =>
    dsimp only
    split
    · rfl
    · rename_i result found
      rw [sendAnswer_eq]
      cases later <;> exact heard call result
  | idle | gone => rfl

theorem next_taken (s : Frontend H) : s.next.taken = s.taken := by
  rw [next]
  split
  · rfl
  · rename_i event rest queue
    cases event <;> rfl

theorem takes_listed (sound : s.Sound proxy) (act : FrontendAct) : TakesListed s act := by
  cases act with
  | take stored =>
    rw [TakesListed, step, take]
    split
    · rename_i first rest closed idle sender
      have held : waiting s.app = first :: rest := by rw [waiting, sender]; rfl
      exact .inr ⟨first, handleCommand_taken _ stored first, sound.commands first (held ▸ List.mem_cons_self)⟩
    · exact .inl rfl
  | resume => exact .inl (resume_taken s)
  | next => exact .inl (next_taken s)
  | key | history | pty | tick | configReload | closeChannel | ipc => exact .inl rfl

/-- Whatever is interleaved: the bridge is told things that were true of the proxy in stretches of
time that follow one another, the application is sent just these, in this order, and shows the last
ones it has taken; a switch that it takes, answered or not, names a backend that was listed before
as not active; and when it is idle, each command that it took has been answered before the next. -/
theorem shown_in_turn (proxy : Proxy H) (settings : ClaudeSettingsManager) (subagentBackend teammateBackend : Option String)
    (acts : List FrontendAct) :
    let s := run step (start proxy settings subagentBackend teammateBackend) acts
    s.Shows proxy ∧ Along step TakesListed (start proxy settings subagentBackend teammateBackend) acts ∧
      (s.bridge = .idle → Complete s.taken s.sent) := by
  intro s
  have initial : (start proxy settings subagentBackend teammateBackend).Sound proxy := by
    refine ⟨⟨rfl, .none [], rfl, rfl, rfl, ?_⟩, nofun, ?_, nofun⟩
    · intro early backendId reply late split
      cases early <;> cases split
    · intro command member
      rcases List.mem_pair.mp member with rfl | rfl <;> trivial
  have keeps (s : Frontend H) (act : FrontendAct) (held : s.Sound proxy ∧ s.WaitsLast proxy) (_ : True) :
      (s.step act).Sound proxy ∧ (s.step act).WaitsLast proxy := sound_step held.1 held.2 act
  have always : Along step (fun _ _ => True) (start proxy settings subagentBackend teammateBackend) acts :=
    along_iff.mpr fun _ _ _ _ => trivial
  obtain ⟨sound, waits⟩ : Sound proxy s ∧ WaitsLast s proxy :=
    run_invariant (I := fun s => Sound proxy s ∧ WaitsLast s proxy) keeps ⟨initial, .none⟩ always
  have takes : Along step TakesListed (start proxy settings subagentBackend teammateBackend) acts :=
    along_of_invariant (I := fun s => Sound proxy s ∧ WaitsLast s proxy) keeps
      (fun _ act held _ => takes_listed held.1 act) ⟨initial, .none⟩ always
  refine ⟨sound.toShows, takes, fun idle => ?_⟩
  rw [WaitsLast, idle] at waits
  exact waits

end Frontend

end Anycode.Ui
