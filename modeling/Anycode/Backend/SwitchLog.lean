import Anycode.Backend.Closed
import Anycode.Data.Trail

/-!
# The log of switches

`switch_backend` and `update_config` as they run under the lock, write by write, and what the log
says after any sequence of them.
-/

namespace Anycode.Config.BackendState
open Data

/-- A call under the lock: what it returns, and the state it leaves. -/
abbrev Locked := Except BackendError Unit × BackendState

def pushLog (state : BackendState) (entry : SwitchLogEntry) : BackendState :=
  { state with switchLog := state.switchLog ++ [entry] }

def setActive (state : BackendState) (backendId : String) : BackendState := { state with activeBackend := backendId }

def setConfig (state : BackendState) (config : CliProfile) : BackendState := { state with config := config }

def switchBackendLocked (state : BackendState) (backendId : String) : Locked :=
  if !state.config.hasBackend backendId then (.error (.backendNotFound backendId), state)
  else if state.activeBackend = backendId then (.ok (), state)
  else
    let logged := state.pushLog ⟨some state.activeBackend, backendId⟩
    (.ok (), logged.setActive backendId)

/-- The new configuration is written last, whether or not the active backend changes. -/
def updateConfigLocked (state : BackendState) (newConfig : CliProfile) : Locked :=
  match newConfig.backends with
  | [] => (.error .noBackendsConfigured, state)
  | first :: _ =>
    let switched :=
      if newConfig.hasBackend state.activeBackend then state
      else
        let newActive := if newConfig.defaultActive.isEmpty then first.name else newConfig.defaultActive
        (state.pushLog ⟨some state.activeBackend, newActive⟩).setActive newActive
    (.ok (), switched.setConfig newConfig)

def changeLocked (state : BackendState) : Change → Locked
  | .switchBackend backendId => state.switchBackendLocked backendId
  | .updateConfig newConfig => state.updateConfigLocked newConfig

/-- The entries lead from no backend to the active one. -/
def Chained (state : BackendState) : Prop :=
  Trail SwitchLogEntry.oldBackend SwitchLogEntry.newBackend state.switchLog state.activeBackend

/-- A call returns what `change` does, and where that is an error it leaves the state alone. -/
theorem changeLocked_eq (state : BackendState) (change : Change) :
    state.changeLocked change =
      match state.change change with
      | .ok changed => (.ok (), changed)
      | .error failure => (.error failure, state) := by
  cases change with
  | switchBackend backendId =>
    simp only [changeLocked, switchBackendLocked, BackendState.change, switchBackend]
    split
    · rfl
    · split <;> rfl
  | updateConfig newConfig =>
    cases backends : newConfig.backends with
    | nil => simp only [changeLocked, updateConfigLocked, BackendState.change, updateConfig, backends]
    | cons first rest =>
      simp only [changeLocked, updateConfigLocked, BackendState.change, updateConfig, backends]
      split <;> rfl

/-- A call that fails leaves the state it found. -/
theorem changeLocked_error {state : BackendState} {change : Change} {failure : BackendError}
    (failed : (state.changeLocked change).1 = .error failure) : (state.changeLocked change).2 = state := by
  rw [changeLocked_eq] at failed ⊢
  cases changed : state.change change with
  | error reason => rfl
  | ok next =>
    rw [changed] at failed
    cases failed

theorem fromConfig_chained {config : CliProfile} {state : BackendState} (created : fromConfig config = .ok state) :
    state.Chained := by
  unfold fromConfig at created
  split at created
  · cases created
  · split at created
    · cases created
      exact trail_singleton rfl
    · split at created
      · cases created
      · cases created
        exact trail_singleton rfl

theorem switchBackendLocked_chained {state : BackendState} (chained : state.Chained) (backendId : String) :
    (state.switchBackendLocked backendId).2.Chained := by
  unfold switchBackendLocked
  split
  · exact chained
  · split
    · exact chained
    · exact chained.extend rfl

theorem updateConfigLocked_chained {state : BackendState} (chained : state.Chained) (newConfig : CliProfile) :
    (state.updateConfigLocked newConfig).2.Chained := by
  unfold updateConfigLocked
  split
  · exact chained
  · dsimp only
    split
    · exact chained
    · exact chained.extend rfl

theorem changeLocked_chained {state : BackendState} (chained : state.Chained) (change : Change) :
    (state.changeLocked change).2.Chained := by
  cases change with
  | switchBackend backendId => exact switchBackendLocked_chained chained backendId
  | updateConfig newConfig => exact updateConfigLocked_chained chained newConfig

/-- After any calls the log leads from no backend to the active one, and no failed call leaves a
trace. -/
theorem switchLog_faithful {config : CliProfile} {initial : BackendState}
    (created : fromConfig config = .ok initial) (changes : List Change) :
    Throughout (fun state change => (state.changeLocked change).2) Chained initial changes ∧
      Along (fun state change => (state.changeLocked change).2)
        (fun state change => ∀ failure, (state.changeLocked change).1 = .error failure →
          (state.changeLocked change).2 = state)
        initial changes := by
  constructor
  · refine throughout_iff.mpr fun before _ _ => ?_
    exact run_invariant (I := Chained) (G := fun _ _ => True)
      (fun _ change chained _ => changeLocked_chained chained change) (fromConfig_chained created)
      (along_iff.mpr fun _ _ _ _ => trivial)
  · exact along_iff.mpr fun _ _ _ _ _ failed => changeLocked_error failed

theorem reload_faithful :
    Throughout (fun state change => (state.changeLocked change).2) Chained glmOnly
      [.updateConfig ⟨"kimi", [kimi]⟩, .switchBackend "glm"] := by
  have created : fromConfig ⟨"glm", [glm]⟩ = .ok glmOnly := rfl
  exact (switchLog_faithful created _).1

end Anycode.Config.BackendState
