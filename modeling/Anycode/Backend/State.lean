import Anycode.Config.Backend

/-!
# Backend state

The active backend, the configuration it is looked up in, and the log of switches. An
operation that fails leaves the state alone; timestamps are left out.
-/

namespace Anycode.Config

/-- The fields of a CLI profile that routing reads. -/
structure CliProfile where
  defaultActive : String
  backends : List Backend

inductive BackendError where
  | backendNotFound (backend : String)
  | noBackendsConfigured
  deriving DecidableEq

structure SwitchLogEntry where
  oldBackend : Option String
  newBackend : String
  deriving DecidableEq

structure BackendState where
  activeBackend : String
  config : CliProfile
  switchLog : List SwitchLogEntry

def CliProfile.hasBackend (profile : CliProfile) (id : String) : Bool :=
  profile.backends.any (fun backend => backend.name == id)

namespace BackendState

def fromConfig (config : CliProfile) : Except BackendError BackendState :=
  match config.backends with
  | [] => .error .noBackendsConfigured
  | first :: _ =>
    if config.defaultActive.isEmpty then
      .ok { activeBackend := first.name, config := config, switchLog := [⟨none, first.name⟩] }
    else if !config.hasBackend config.defaultActive then .error (.backendNotFound config.defaultActive)
    else .ok { activeBackend := config.defaultActive, config := config, switchLog := [⟨none, config.defaultActive⟩] }

def getBackendConfig (state : BackendState) (backendId : String) : Except BackendError Backend :=
  match state.config.backends.find? (fun backend => backend.name == backendId) with
  | some backend => .ok backend
  | none => .error (.backendNotFound backendId)

def getActiveBackendConfig (state : BackendState) : Except BackendError Backend :=
  state.getBackendConfig state.activeBackend

def switchBackend (state : BackendState) (backendId : String) : Except BackendError BackendState :=
  if !state.config.hasBackend backendId then .error (.backendNotFound backendId)
  else if state.activeBackend = backendId then .ok state
  else
    .ok { state with
      switchLog := state.switchLog ++ [⟨some state.activeBackend, backendId⟩]
      activeBackend := backendId }

/-- A vanished active backend gives way to the default, or to the first one configured. -/
def updateConfig (state : BackendState) (newConfig : CliProfile) : Except BackendError BackendState :=
  match newConfig.backends with
  | [] => .error .noBackendsConfigured
  | first :: _ =>
    if newConfig.hasBackend state.activeBackend then .ok { state with config := newConfig }
    else
      let newActive := if newConfig.defaultActive.isEmpty then first.name else newConfig.defaultActive
      .ok {
        activeBackend := newActive
        config := newConfig
        switchLog := state.switchLog ++ [⟨some state.activeBackend, newActive⟩] }

/-! ### What a call does -/

variable {state : BackendState}

theorem mem_of_getActiveBackendConfig {backend : Backend} (found : state.getActiveBackendConfig = .ok backend) :
    backend ∈ state.config.backends := by
  rw [getActiveBackendConfig, getBackendConfig] at found
  split at found
  · rename_i other listed
    cases found
    exact List.mem_of_find?_eq_some listed
  · cases found

theorem switchBackend_ok {switched : BackendState} {backendId : String} (done : state.switchBackend backendId = .ok switched) :
    state.config.hasBackend backendId = true ∧ switched.activeBackend = backendId ∧ switched.config = state.config ∧
      (switched = state ↔ state.activeBackend = backendId) := by
  unfold switchBackend at done
  split at done
  · cases done
  · rename_i listed
    have listed : state.config.hasBackend backendId = true := by simpa using listed
    split at done
    · rename_i active
      cases done
      exact ⟨listed, active, rfl, iff_of_true rfl active⟩
    · rename_i other
      cases done
      exact ⟨listed, rfl, rfl, iff_of_false (fun same => other (congrArg activeBackend same).symm) other⟩

theorem switchBackend_error {backendId : String} {failure : BackendError}
    (failed : state.switchBackend backendId = .error failure) :
    state.config.hasBackend backendId = false ∧ failure = .backendNotFound backendId := by
  unfold switchBackend at failed
  split at failed
  · rename_i unlisted
    cases failed
    exact ⟨by simpa using unlisted, rfl⟩
  · split at failed <;> cases failed

theorem updateConfig_ok {updated : BackendState} {newConfig : CliProfile} (done : state.updateConfig newConfig = .ok updated) :
    newConfig.backends ≠ [] ∧ updated.config = newConfig := by
  unfold updateConfig at done
  split at done
  · cases done
  · rename_i first rest backends
    have nonempty : newConfig.backends ≠ [] := backends ▸ List.cons_ne_nil first rest
    split at done <;> cases done <;> exact ⟨nonempty, rfl⟩

theorem updateConfig_error {newConfig : CliProfile} {failure : BackendError}
    (failed : state.updateConfig newConfig = .error failure) :
    newConfig.backends = [] ∧ failure = .noBackendsConfigured := by
  unfold updateConfig at failed
  split at failed
  · rename_i empty
    cases failed
    exact ⟨empty, rfl⟩
  · split at failed <;> cases failed

end BackendState

end Anycode.Config
