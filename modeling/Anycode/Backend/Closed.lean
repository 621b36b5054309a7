import Anycode.Backend.State
import Anycode.Data.Run

/-!
# Closed backend states

Whether the active name stays configured over any sequence of switches and configuration updates.
-/

namespace Anycode.Config
open Data

theorem CliProfile.hasBackend_iff {profile : CliProfile} {id : String} :
    profile.hasBackend id = true ↔ ∃ backend ∈ profile.backends, backend.name = id := by
  simp only [hasBackend, List.any_eq_true, beq_iff_eq]

namespace BackendState

inductive Change where
  | switchBackend (backendId : String)
  | updateConfig (newConfig : CliProfile)

def change (state : BackendState) : Change → Except BackendError BackendState
  | .switchBackend backendId => state.switchBackend backendId
  | .updateConfig newConfig => state.updateConfig newConfig

/-- A failed change leaves the state as it was. -/
def step (state : BackendState) (change : Change) : BackendState :=
  match state.change change with
  | .ok changed => changed
  | .error _ => state

/-- The active name is an element of the configured backends, and its lookup succeeds. -/
structure Closed (state : BackendState) : Prop where
  configured : ∃ backend ∈ state.config.backends, backend.name = state.activeBackend
  found : ∃ backend, state.getActiveBackendConfig = .ok backend

/-- An update that drops the active backend names no default, or one that it configures. -/
def Replaceable (state : BackendState) : Change → Prop
  | .switchBackend _ => True
  | .updateConfig newConfig =>
    newConfig.backends = [] ∨ newConfig.hasBackend state.activeBackend = true ∨
      newConfig.defaultActive.isEmpty = true ∨ newConfig.hasBackend newConfig.defaultActive = true

theorem getBackendConfig_of_hasBackend {state : BackendState} {id : String}
    (configured : state.config.hasBackend id = true) :
    ∃ backend, state.getBackendConfig id = .ok backend ∧ backend.name = id := by
  obtain ⟨backend, member, named⟩ := CliProfile.hasBackend_iff.mp configured
  have listed : (state.config.backends.find? fun backend => backend.name == id).isSome :=
    List.find?_isSome.mpr ⟨backend, member, by rw [named, beq_self_eq_true]⟩
  obtain ⟨first, found⟩ := Option.isSome_iff_exists.mp listed
  refine ⟨first, ?_, by simpa using List.find?_some found⟩
  simp only [getBackendConfig, found]

theorem closed_iff {state : BackendState} :
    state.Closed ↔ state.config.hasBackend state.activeBackend = true := by
  constructor
  · exact fun closed => CliProfile.hasBackend_iff.mpr closed.configured
  · intro configured
    obtain ⟨backend, found, _⟩ := getBackendConfig_of_hasBackend configured
    exact ⟨CliProfile.hasBackend_iff.mp configured, backend, found⟩

theorem hasBackend_first {profile : CliProfile} {first : Backend} {rest : List Backend}
    (backends : profile.backends = first :: rest) : profile.hasBackend first.name = true :=
  CliProfile.hasBackend_iff.mpr ⟨first, by rw [backends]; exact List.mem_cons_self, rfl⟩

theorem fromConfig_closed {config : CliProfile} {state : BackendState} (created : fromConfig config = .ok state) :
    state.Closed := by
  rw [closed_iff]
  unfold fromConfig at created
  split at created
  · cases created
  · rename_i first rest backends
    split at created
    · cases created
      exact hasBackend_first backends
    · split at created
      · cases created
      · rename_i known
        cases created
        simpa using known

theorem switchBackend_closed {state switched : BackendState} {backendId : String}
    (h : state.switchBackend backendId = .ok switched) : switched.Closed := by
  obtain ⟨configured, active, config, _⟩ := switchBackend_ok h
  rw [closed_iff, active, config]
  exact configured

/-- What an update makes active in place of a backend it drops. -/
theorem updateConfig_closed_iff {state updated : BackendState} {newConfig : CliProfile}
    (h : state.updateConfig newConfig = .ok updated) :
    updated.Closed ↔ state.Replaceable (.updateConfig newConfig) := by
  rw [closed_iff]
  unfold updateConfig at h
  split at h
  · cases h
  · rename_i first rest backends
    have nonempty : newConfig.backends ≠ [] := by rw [backends]; exact List.cons_ne_nil _ _
    split at h
    · rename_i kept
      cases h
      exact iff_of_true kept (.inr (.inl kept))
    · rename_i dropped
      cases h
      rw [Replaceable, or_iff_right nonempty, or_iff_right dropped]
      dsimp only
      split
      · rename_i unnamed
        exact iff_of_true (hasBackend_first backends) (.inl unnamed)
      · rename_i named
        rw [or_iff_right named]

theorem step_closed {state : BackendState} {change : Change} (closed : state.Closed)
    (replaceable : state.Replaceable change) : (state.step change).Closed := by
  unfold step
  split
  · rename_i changed h
    cases change with
    | switchBackend backendId => exact switchBackend_closed h
    | updateConfig newConfig => exact (updateConfig_closed_iff h).mpr replaceable
  · exact closed

theorem replaceable_of_step_closed {state : BackendState} {change : Change}
    (closed : (state.step change).Closed) : state.Replaceable change := by
  cases change with
  | switchBackend backendId => trivial
  | updateConfig newConfig =>
    unfold step at closed
    split at closed
    · rename_i updated h
      exact (updateConfig_closed_iff h).mp closed
    -- The only update that fails has no backends.
    · rename_i failure h
      exact .inl (updateConfig_error h).1

/-- Every reachable state is closed exactly when no update falls back to a default it does not
configure. -/
theorem reachable_closed_iff {config : CliProfile} {initial : BackendState}
    (created : fromConfig config = .ok initial) (changes : List Change) :
    Throughout step Closed initial changes ↔ Along step Replaceable initial changes :=
  throughout_iff_along (I := Closed) (G := fun _ _ => True) (fun _ closed => closed)
    (fun _ _ closed _ replaceable => step_closed closed replaceable)
    (fun _ _ _ _ closed => replaceable_of_step_closed closed)
    (fromConfig_closed created) (along_iff.mpr fun _ _ _ _ => trivial)

def glm : Backend := { name := "glm", baseUrl := "https://open.bigmodel.cn" }

def kimi : Backend := { name := "kimi", baseUrl := "https://api.moonshot.cn" }

def glmOnly : BackendState :=
  { activeBackend := "glm", config := ⟨"glm", [glm]⟩, switchLog := [⟨none, "glm"⟩] }

theorem reload_closed :
    Throughout step Closed glmOnly [.updateConfig ⟨"kimi", [kimi]⟩, .switchBackend "glm"] := by
  have created : fromConfig ⟨"glm", [glm]⟩ = .ok glmOnly := rfl
  refine (reachable_closed_iff created _).mpr ⟨.inr (.inr (.inr ?_)), trivial, trivial⟩
  decide

/-- The reloaded profile renames its one backend but not its default. -/
theorem reload_not_closed :
    ¬ ∀ config initial, fromConfig config = .ok initial → ∀ changes, Throughout step Closed initial changes := by
  intro closed
  obtain ⟨_, after⟩ := closed ⟨"glm", [glm]⟩ glmOnly rfl [.updateConfig ⟨"glm-4", [kimi]⟩]
  obtain ⟨backend, found⟩ := after.found
  cases found

end BackendState

end Anycode.Config
