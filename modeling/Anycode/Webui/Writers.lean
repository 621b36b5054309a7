import Anycode.Data.Run
import Anycode.Webui.Atomicity

/-!
# The writers of the configuration file

The settings dialog, the WebUI and the commands of other processes write one file. The WebUI
edits the copy in its store, the others edit what they read from the file.
-/

namespace Anycode.Webui
open Data Config

/-! ### The commands -/

/-- The address that `anycode bind` sets; any other mode is refused. -/
def bindAddress (mode : String) : Option String :=
  if mode = "local" ∨ mode = "localhost" then some "127.0.0.1:47191"
  else if mode = "lan" ∨ mode = "public" then some "0.0.0.0:47191"
  else if mode.toList.contains ':' then some mode
  else none

def setBindAddr (addr : String) (config : RootConfig) : RootConfig :=
  { config with webui := { config.webui with bindAddr := addr } }

def setCredentials (username password : Option String) (config : RootConfig) : RootConfig :=
  { config with webui := { config.webui with username := username, password := password } }

/-- The two answers that `anycode passwd` reads: an empty one keeps a value, a dash clears it, and
a password needs a user name. -/
def applyPasswd (newUser newPass : String) (config : RootConfig) : RootConfig :=
  let username :=
    if newUser = "" then config.webui.username else if newUser = "-" then none else some newUser
  let password :=
    if newPass = "" then config.webui.password else if newPass = "-" then none else some newPass
  let username := if newPass = "-" then none else username
  setCredentials (if password.isSome && username.isNone then some "admin" else username) password config

/-- `cmd_bind` and `cmd_passwd`: the file is loaded, changed and saved; the result tells whether
the command succeeds. -/
def editFile (toml : Toml) (fault : Option Fault) (legacy file : File) (edit : RootConfig → RootConfig) : Bool × File :=
  match load toml legacy file with
  | (.error _, taken) => (false, taken)
  | (.ok config, taken) =>
    if fault = some .read then (false, taken)
    else
      match saveConfig toml fault taken (edit config) with
      | (.error _, file) => (false, file)
      | (.ok _, file) => (true, file)

/-! ### Runs -/

structure System where
  webui : WebuiState
  legacy : File

namespace System

def file (s : System) : File := s.webui.configStore.file

def setFile (s : System) (file : File) : System :=
  { s with webui := { s.webui with configStore := { s.webui.configStore with file := file } } }

/-- What a process that starts now would load. -/
def loaded (toml : Toml) (s : System) : Option RootConfig := (load toml s.legacy s.file).1.toOption

end System

/-- `ui::run`: the active backend may be overridden on the command line. -/
def startUp (toml : Toml) (mode : CliMode) (backendOverride : Option String) (legacy file : File) : Option System :=
  match load toml legacy file with
  | (.error _, _) => none
  | (.ok config, taken) =>
    let config :=
      match backendOverride with
      | some name => config.setProfile mode (activateProfile (config.profile mode) name)
      | none => config
    match BackendState.fromConfig (config.profile mode).toCliProfile with
    | .error _ => none
    | .ok running => some ⟨⟨⟨config, taken⟩, running, mode⟩, legacy⟩

inductive Writer where
  | saveClaudeSettings (settings : Settings)
  | webui (request : Request)
  | bind (mode : String)
  | passwd (user pass : String)

structure Write where
  writer : Writer
  fault : Option Fault := none

/-- Whether the writer saves, and the system it leaves. -/
def Write.perform (toml : Toml) (s : System) (w : Write) : Bool × System :=
  match w.writer with
  | .saveClaudeSettings settings =>
    let (result, file) := saveClaudeSettings toml settings w.fault s.file
    (result.toBool, s.setFile file)
  | .webui request =>
    let (response, webui) := serve toml w.fault s.webui request
    (response.saved, { s with webui := webui })
  | .bind mode =>
    match bindAddress mode with
    | none => (false, s)
    | some addr =>
      let (saved, file) := editFile toml w.fault s.legacy s.file (setBindAddr addr)
      (saved, s.setFile file)
  | .passwd user pass =>
    let (saved, file) := editFile toml w.fault s.legacy s.file (applyPasswd (trimmed user) (trimmed pass))
    (saved, s.setFile file)

def System.step (toml : Toml) (s : System) (w : Write) : System := (w.perform toml s).2

def Write.Succeeds (toml : Toml) (s : System) (w : Write) : Prop := (w.perform toml s).1 = true

/-! ### What a writer starts from -/

/-- The configuration that a writer edits: only the WebUI does not take it from the file. -/
def Writer.base (toml : Toml) (s : System) : Writer → Option RootConfig
  | .saveClaudeSettings _ =>
    (fromUtf8 (s.file.getD [])).bind fun raw => (parseForUpdate toml raw).toOption
  | .webui _ => some s.webui.configStore.inner
  | .bind _ | .passwd _ _ => s.loaded toml

def Request.edit (cliMode : CliMode) (base : RootConfig) : Request → Option RootConfig
  | .putConfig q dto =>
    (q.resolve cliMode).toOption.map fun target => base.setProfile target (putProfile (base.profile target) dto)
  | .postActiveBackend q req =>
    (q.resolve cliMode).toOption.map fun target =>
      base.setProfile target (activateProfile (base.profile target) req.name)
  | .postCopyBackend q name req =>
    (copyRequest base cliMode q name req).toOption.map fun plan =>
      base.setProfile plan.1 (copyProfile (base.profile plan.1) plan.2)

def Writer.edit (cliMode : CliMode) (base : RootConfig) : Writer → Option RootConfig
  | .saveClaudeSettings settings => some (setClaudeSettings settings base)
  | .webui request => request.edit cliMode base
  | .bind mode => (bindAddress mode).map fun addr => setBindAddr addr base
  | .passwd user pass => some (applyPasswd (trimmed user) (trimmed pass) base)

variable {toml : Toml} {s : System} {w : Write}

theorem loaded_of_holds {config : RootConfig} (holds : Holds toml s.file config) : s.loaded toml = some config := by
  rw [System.loaded, load_of_holds holds]
  rfl

theorem adopt_outcome (fault : Option Fault) (state : WebuiState) (target : CliMode) (newConfig : RootConfig) :
    Outcome toml fault state.configStore.file (some newConfig) (state.adopt toml fault target newConfig).1.saved
      (state.adopt toml fault target newConfig).2.configStore.file := by
  unfold WebuiState.adopt
  split
  · exact .untouched
  · rcases persist_cases toml fault state newConfig with
      ⟨content, printed, _, done⟩ | ⟨e, _, _, done⟩ | ⟨content, written, _, torn, done⟩
    · simp only [done]
      split
      · split <;> exact .saved rfl ⟨content, printed, rfl⟩
      · exact .saved rfl ⟨content, printed, rfl⟩
    · simp only [done]
      exact .untouched
    · simp only [done]
      refine .refused fun sound => ?_
      rw [sound] at torn
      cases torn

theorem activate_outcome (fault : Option Fault) (state : WebuiState) (target : CliMode) (name : String) :
    Outcome toml fault state.configStore.file
      (some (state.configStore.inner.setProfile target (activateProfile (state.configStore.inner.profile target) name)))
      (state.activate toml fault target name).1.saved (state.activate toml fault target name).2.configStore.file := by
  unfold WebuiState.activate
  dsimp only
  split
  · exact .untouched
  · rcases persist_cases toml fault state (state.configStore.inner.setProfile target
        (activateProfile (state.configStore.inner.profile target) name)) with
      ⟨content, printed, _, done⟩ | ⟨e, _, _, done⟩ | ⟨content, written, _, torn, done⟩
    · simp only [done]
      exact .saved rfl ⟨content, printed, rfl⟩
    · simp only [done]
      exact .untouched
    · simp only [done]
      refine .refused fun sound => ?_
      rw [sound] at torn
      cases torn

theorem serve_outcome (fault : Option Fault) (state : WebuiState) (request : Request) :
    Outcome toml fault state.configStore.file (request.edit state.cliMode state.configStore.inner)
      (serve toml fault state request).1.saved (serve toml fault state request).2.configStore.file := by
  cases request with
  | putConfig q dto =>
    simp only [serve, putConfig, Request.edit]
    split
    · exact .untouched
    · rename_i target asked
      rw [asked]
      exact adopt_outcome fault state target _
  | postActiveBackend q req =>
    simp only [serve, postActiveBackend, Request.edit]
    split
    · exact .untouched
    · rename_i target asked
      rw [asked]
      split
      · split
        · exact .untouched
        · rename_i running switched
          exact activate_outcome fault { state with backendState := running } target req.name
      · exact activate_outcome fault state target req.name
  | postCopyBackend q name req =>
    simp only [serve, postCopyBackend, Request.edit]
    split
    · exact .untouched
    · rename_i target copied planned
      rw [planned]
      exact adopt_outcome fault state target _

theorem editFile_outcome (fault : Option Fault) (legacy file : File) (edit : RootConfig → RootConfig) :
    Outcome toml fault file ((load toml legacy file).1.toOption.bind fun config => some (edit config))
      (editFile toml fault legacy file edit).1 (editFile toml fault legacy file edit).2 := by
  have read : load toml legacy file = (loadFrom toml (file.or legacy), file.or legacy) := rfl
  -- The file of the old program is taken over only where there is no other.
  have taken {edited : Option RootConfig} : Outcome toml fault file edited false (file.or legacy) := by
    refine .refused fun _ bytes existing => ?_
    rw [existing, Option.some_or]
  rw [editFile, read]
  cases loadFrom toml (file.or legacy) with
  | error e => exact taken
  | ok config =>
    dsimp only
    split
    · exact taken
    · have saved : Outcome toml fault (file.or legacy) (some (edit config)) _ _ :=
        saveConfig_outcome fault (file.or legacy) (edit config)
      cases result : saveConfig toml fault (file.or legacy) (edit config) with
      | mk answer after =>
        rw [result] at saved
        cases answer with
        | ok done =>
          cases saved with
          | saved is holds => exact .saved is holds
        | error e =>
          cases saved with
          | refused kept =>
            refine .refused fun sound bytes existing => kept sound bytes ?_
            rw [existing, Option.some_or]

theorem perform_outcome (toml : Toml) (s : System) (w : Write) :
    Outcome toml w.fault s.file ((w.writer.base toml s).bind (w.writer.edit s.webui.cliMode)) (w.perform toml s).1
      (s.step toml w).file := by
  obtain ⟨writer, fault⟩ := w
  unfold System.step Write.perform
  cases writer with
  | saveClaudeSettings settings => exact updateFile_outcome (setClaudeSettings settings) fault s.file
  | webui request => exact serve_outcome fault s.webui request
  | bind mode =>
    simp only [Writer.base, Writer.edit]
    cases bindAddress mode with
    | none => exact .untouched
    | some addr => exact editFile_outcome fault s.legacy s.file (setBindAddr addr)
  | passwd user pass =>
    exact editFile_outcome fault s.legacy s.file (applyPasswd (trimmed user) (trimmed pass))

theorem succeeds_spec (succeeds : w.Succeeds toml s) :
    ∃ base new, w.writer.base toml s = some base ∧ w.writer.edit s.webui.cliMode base = some new ∧
      Holds toml (s.step toml w).file new := by
  have outcome := perform_outcome toml s w
  rw [succeeds] at outcome
  cases outcome with
  | @saved new _ is holds =>
    obtain ⟨base, based, edited⟩ := Option.bind_eq_some_iff.mp is
    exact ⟨base, new, based, edited, holds⟩

/-- Without a failing file operation, a writer that does not succeed leaves a file as it was. -/
theorem refused_keeps_file {bytes : List UInt8} (existing : s.file = some bytes) (sound : w.fault = none)
    (refused : ¬ w.Succeeds toml s) : (s.step toml w).file = some bytes := by
  have outcome := perform_outcome toml s w
  rw [Bool.not_eq_true _ |>.mp refused] at outcome
  cases outcome with
  | refused kept => exact kept sound bytes existing

end Anycode.Webui
