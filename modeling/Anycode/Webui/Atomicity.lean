import Anycode.Webui.Api

/-!
# Refused configuration requests

When a request that is answered with an error leaves the running state, the store and the file as
they were.
-/

namespace Anycode.Webui
open Data Config

inductive Request where
  | putConfig (q : ProfileQuery) (dto : ConfigDto)
  | postActiveBackend (q : ProfileQuery) (req : ActiveBackendRequest)
  | postCopyBackend (q : ProfileQuery) (name : String) (req : CopyBackendRequest)

def serve (toml : Toml) (fault : Option Fault) (state : WebuiState) : Request → Response × WebuiState
  | .putConfig q dto => putConfig toml fault state q dto
  | .postActiveBackend q req => postActiveBackend toml fault state q req
  | .postCopyBackend q name req => postCopyBackend toml fault state q name req

def Atomic (toml : Toml) (fault : Option Fault) (state : WebuiState) (request : Request) : Prop :=
  (serve toml fault state request).1.isSuccess = false → (serve toml fault state request).2 = state

section
variable (toml : Toml) (fault : Option Fault) (state : WebuiState)

/-- A save that fails behind the truncation would leave just the bytes that are in the file. -/
def Untorn (config : RootConfig) : Prop :=
  ∀ content written, toml.serialize config = .ok content → tornAt fault = some written →
    state.configStore.file = some ((utf8 content).take written)

/-- A save of the configuration would change neither the file nor the store. -/
def Stored (config : RootConfig) : Prop :=
  ∀ content, toml.serialize config = .ok content →
    state.configStore.file = some (utf8 content) ∧ (fault = some .reload ∨ state.configStore.inner = config)

def Recoverable : Request → Prop
  | .putConfig q dto =>
    ∀ target, q.resolve state.cliMode = .ok target →
      let existing := state.configStore.inner
      let newConfig := existing.setProfile target (putProfile (existing.profile target) dto)
      newConfig.validateFor target = .ok () →
        Untorn toml fault state newConfig ∧
          (Saves toml fault newConfig → target = state.cliMode → dto.backends = [] → Stored toml fault state newConfig)
  | .postActiveBackend q req =>
    ∀ target, q.resolve state.cliMode = .ok target →
      let existing := state.configStore.inner
      let newConfig := existing.setProfile target (activateProfile (existing.profile target) req.name)
      let listed := (existing.profile target).hasBackend req.name = true
      (target = state.cliMode → state.backendState.config.hasBackend req.name = true) →
        (listed → Untorn toml fault state newConfig) ∧
          (target = state.cliMode → state.backendState.activeBackend = req.name ∨ listed ∧ Saves toml fault newConfig)
  | .postCopyBackend q name req =>
    ∀ target copied, copyRequest state.configStore.inner state.cliMode q name req = .ok (target, copied) →
      let existing := state.configStore.inner
      let newConfig := existing.setProfile target (copyProfile (existing.profile target) copied)
      newConfig.validateFor target = .ok () → Untorn toml fault state newConfig

end

/-! ### The shared ends of the handlers -/

variable {toml : Toml} {fault : Option Fault} {state : WebuiState}

theorem withStore_eq_iff {inner : RootConfig} {file : File} :
    { state with configStore := ⟨inner, file⟩ } = state ↔
      state.configStore.inner = inner ∧ state.configStore.file = file := by
  obtain ⟨⟨_, _⟩, _, _⟩ := state
  simp only [WebuiState.mk.injEq, ConfigStore.mk.injEq, and_true]
  exact and_congr eq_comm eq_comm

theorem persist_cases (toml : Toml) (fault : Option Fault) (state : WebuiState) (config : RootConfig) :
    (∃ content, toml.serialize config = .ok content ∧ Saves toml fault config ∧
        state.persist toml fault config = (.ok (), { state with
          configStore := ⟨if fault = some .reload then state.configStore.inner else config,
            some (utf8 content)⟩ })) ∨
      (∃ e, (∀ content, toml.serialize config = .ok content → tornAt fault = none) ∧ ¬ Saves toml fault config ∧
        state.persist toml fault config = (.error e, state)) ∨
      ∃ content written, toml.serialize config = .ok content ∧ tornAt fault = some written ∧
        state.persist toml fault config = (.error .readError,
          { state with configStore := ⟨state.configStore.inner, some ((utf8 content).take written)⟩ }) := by
  unfold WebuiState.persist
  rcases saveConfig_cases toml fault state.configStore.file config with
    ⟨content, printed, saves, done⟩ | ⟨e, whole, unsaved, done⟩ | ⟨content, written, printed, torn, done⟩
  · refine .inl ⟨content, printed, saves, ?_⟩
    simp only [done, ConfigStore.reload_saved fault _ printed]
  · exact .inr (.inl ⟨e, whole, unsaved, by rw [done]⟩)
  · exact .inr (.inr ⟨content, written, printed, torn, by rw [done]⟩)

theorem untorn_of_whole {config : RootConfig}
    (whole : ∀ content, toml.serialize config = .ok content → tornAt fault = none) :
    Untorn toml fault state config := by
  intro content written printed torn
  cases (whole content printed).symm.trans torn

theorem untorn_iff {config : RootConfig} {content : List Char} {written : Nat}
    (printed : toml.serialize config = .ok content) (torn : tornAt fault = some written) :
    Untorn toml fault state config ↔ state.configStore.file = some ((utf8 content).take written) := by
  constructor
  · intro untorn
    exact untorn content written printed torn
  · intro same other count printed' torn'
    cases printed.symm.trans printed'
    cases torn.symm.trans torn'
    exact same

theorem stored_iff {config : RootConfig} {content : List Char} (printed : toml.serialize config = .ok content) :
    Stored toml fault state config ↔
      { state with configStore := ⟨if fault = some .reload then state.configStore.inner else config,
        some (utf8 content)⟩ } = state := by
  rw [withStore_eq_iff]
  constructor
  · intro stored
    obtain ⟨same, kept⟩ := stored content printed
    refine ⟨?_, same⟩
    split
    · rfl
    · rename_i reloads
      exact kept.resolve_left reloads
  · intro unchanged other printed'
    obtain ⟨kept, same⟩ := unchanged
    cases printed.symm.trans printed'
    refine ⟨same, ?_⟩
    split at kept
    · rename_i skipped
      exact .inl skipped
    · exact .inr kept

/-- The exact condition for the common part of `put_config` and `post_copy_backend`. -/
theorem adopt_atomic_iff (target : CliMode) (newConfig : RootConfig) :
    ((state.adopt toml fault target newConfig).1.isSuccess = false →
        (state.adopt toml fault target newConfig).2 = state) ↔
      (newConfig.validateFor target = .ok () →
        Untorn toml fault state newConfig ∧
          (Saves toml fault newConfig → target = state.cliMode → (newConfig.profile target).backends = [] →
            Stored toml fault state newConfig)) := by
  cases valid : newConfig.validateFor target with
  | error e =>
    have result : state.adopt toml fault target newConfig = (.error .badRequest (.config e), state) := by
      simp only [WebuiState.adopt, valid]
    rw [result]
    exact iff_of_true (fun _ => rfl) (fun passed => by cases passed)
  | ok checked =>
    rw [forall_prop_of_true (q := fun _ => _) rfl]
    rcases persist_cases toml fault state newConfig with
      ⟨content, printed, saves, done⟩ | ⟨e, whole, unsaved, done⟩ | ⟨content, written, printed, torn, done⟩
    · have untorn : Untorn toml fault state newConfig := untorn_of_whole fun _ _ => saves.written
      rw [and_iff_right untorn, forall_prop_of_true saves, stored_iff printed]
      by_cases running : target = state.cliMode
      · rw [forall_prop_of_true running]
        cases update : state.backendState.updateConfig (newConfig.profile target).toCliProfile with
        | error e =>
          have unlisted : (newConfig.profile target).backends = [] := (BackendState.updateConfig_error update).1
          rw [forall_prop_of_true unlisted]
          simp only [WebuiState.adopt, valid, done, if_pos running, update, Response.isSuccess, forall_const]
        | ok updated =>
          have nonempty : (newConfig.profile target).backends ≠ [] := (BackendState.updateConfig_ok update).1
          simp only [WebuiState.adopt, valid, done, if_pos running, update, Response.isSuccess]
          exact iff_of_true (fun failed => by cases failed) (fun empty => absurd empty nonempty)
      · simp only [WebuiState.adopt, valid, done, if_neg running, Response.isSuccess]
        exact iff_of_true (fun failed => by cases failed) (fun same => absurd same running)
    · have result : state.adopt toml fault target newConfig =
          (.error .internalServerError (.config e), state) := by
        simp only [WebuiState.adopt, valid, done]
      rw [result]
      exact iff_of_true (fun _ => rfl) ⟨untorn_of_whole whole, fun saves => absurd saves unsaved⟩
    · have unsaved : ¬ Saves toml fault newConfig := fun saves => by cases torn.symm.trans saves.written
      rw [and_iff_left (fun saves => absurd saves unsaved), untorn_iff printed torn]
      simp only [WebuiState.adopt, valid, done, Response.isSuccess, forall_const, withStore_eq_iff, true_and]

theorem withRunning_eq_iff {running : BackendState} {inner : RootConfig} {file : File} :
    { state with backendState := running, configStore := ⟨inner, file⟩ } = state ↔
      running = state.backendState ∧ state.configStore.inner = inner ∧ state.configStore.file = file := by
  obtain ⟨⟨_, _⟩, _, _⟩ := state
  simp only [WebuiState.mk.injEq, ConfigStore.mk.injEq, and_true]
  rw [and_comm]
  exact and_congr Iff.rfl (and_congr eq_comm eq_comm)

theorem activate_listed {target : CliMode} {name : String} {result : Except ConfigError Unit × WebuiState}
    (listed : (state.configStore.inner.profile target).hasBackend name = true)
    (done : state.persist toml fault (state.configStore.inner.setProfile target
      (activateProfile (state.configStore.inner.profile target) name)) = result) :
    state.activate toml fault target name =
      match result.1 with
      | .error e => (.error .internalServerError (.config e), result.2)
      | .ok _ => (.ok, result.2) := by
  obtain ⟨saved, left⟩ := result
  simp only [WebuiState.activate, listed, done, Bool.not_true, Bool.false_eq_true, if_false]
  cases saved <;> rfl

theorem activate_unlisted {target : CliMode} {name : String}
    (unlisted : ¬ (state.configStore.inner.profile target).hasBackend name = true) :
    (state.activate toml fault target name).1.isSuccess = false ∧ (state.activate toml fault target name).2 = state := by
  rw [Bool.not_eq_true] at unlisted
  simp only [WebuiState.activate, unlisted, Bool.not_false, if_true, Response.isSuccess, and_self]

/-- The exact condition for a `post_active_backend` that has left this running state. -/
theorem activate_atomic_iff (running : BackendState) (target : CliMode) (name : String) :
    let switched := { state with backendState := running }
    let existing := state.configStore.inner
    let newConfig := existing.setProfile target (activateProfile (existing.profile target) name)
    let listed := (existing.profile target).hasBackend name = true
    ((switched.activate toml fault target name).1.isSuccess = false →
        (switched.activate toml fault target name).2 = state) ↔
      (listed → Untorn toml fault state newConfig) ∧
        (running = state.backendState ∨ listed ∧ Saves toml fault newConfig) := by
  intro switched existing newConfig listed
  have unchanged : switched = state ↔ running = state.backendState := by
    have same : { state with backendState := running, configStore := ⟨existing, state.configStore.file⟩ } = state ↔ _ :=
      withRunning_eq_iff
    exact same.trans (and_iff_left ⟨rfl, rfl⟩)
  by_cases known : listed
  · have found : (switched.configStore.inner.profile target).hasBackend name = true := known
    rw [forall_prop_of_true known, and_iff_right known]
    rcases persist_cases toml fault switched newConfig with
      ⟨content, printed, saves, done⟩ | ⟨e, whole, unsaved, done⟩ | ⟨content, written, printed, torn, done⟩
    · rw [activate_listed found done]
      exact iff_of_true (fun failed => by cases failed)
        ⟨untorn_of_whole fun _ _ => saves.written, .inr saves⟩
    · rw [activate_listed found done, and_iff_right (untorn_of_whole whole), or_iff_left unsaved]
      exact (forall_prop_of_true rfl).trans unchanged
    · have unsaved : ¬ Saves toml fault newConfig := fun saves => by cases torn.symm.trans saves.written
      rw [activate_listed found done, untorn_iff printed torn, or_iff_left unsaved, and_comm]
      have left : { state with
          backendState := running, configStore := ⟨existing, some ((utf8 content).take written)⟩ } = state ↔ _ :=
        withRunning_eq_iff
      exact (forall_prop_of_true rfl).trans (left.trans (and_congr_right fun _ => and_iff_right rfl))
  · obtain ⟨failed, kept⟩ : (switched.activate toml fault target name).1.isSuccess = false ∧
        (switched.activate toml fault target name).2 = switched := activate_unlisted known
    rw [forall_prop_of_false known, true_and, or_iff_left (fun saved => known saved.1), ← unchanged,
      forall_prop_of_true failed, kept]

theorem selfHealActive_backends (profile : Profile) : (selfHealActive profile).backends = profile.backends := by
  unfold selfHealActive
  split
  · rfl
  · split <;> rfl

/-! ### Each endpoint -/

theorem putProfile_backends_eq_nil {existing : Profile} {dto : ConfigDto} :
    (putProfile existing dto).backends = [] ↔ dto.backends = [] := by
  rw [putProfile, selfHealActive_backends]
  exact List.map_eq_nil_iff

theorem copyProfile_backends_ne_nil (existing : Profile) (copied : Backend) :
    (copyProfile existing copied).backends ≠ [] := by
  rw [copyProfile, selfHealActive_backends]
  exact List.append_ne_nil_of_right_ne_nil _ (List.cons_ne_nil _ _)

theorem forall_resolved {ε α : Type} {result : α} {P : α → Prop} :
    (∀ other, (Except.ok result : Except ε α) = .ok other → P other) ↔ P result := by
  constructor
  · intro holds
    exact holds result rfl
  · intro holds other same
    cases same
    exact holds

theorem putConfig_atomic_iff (q : ProfileQuery) (dto : ConfigDto) :
    Atomic toml fault state (.putConfig q dto) ↔ Recoverable toml fault state (.putConfig q dto) := by
  simp only [Atomic, serve, putConfig, Recoverable]
  cases asked : q.resolve state.cliMode with
  | error e => simp only [reduceCtorEq, false_implies, implies_true]
  | ok target =>
    rw [forall_resolved]
    refine (adopt_atomic_iff target _).trans ?_
    rw [RootConfig.profile_setProfile, putProfile_backends_eq_nil]

theorem postCopyBackend_atomic_iff (q : ProfileQuery) (name : String) (req : CopyBackendRequest) :
    Atomic toml fault state (.postCopyBackend q name req) ↔
      Recoverable toml fault state (.postCopyBackend q name req) := by
  simp only [Atomic, serve, postCopyBackend, Recoverable]
  cases asked : copyRequest state.configStore.inner state.cliMode q name req with
  | error refusal => simp only [reduceCtorEq, false_implies, implies_true]
  | ok plan =>
    obtain ⟨target, copied⟩ := plan
    refine (adopt_atomic_iff target _).trans ?_
    constructor
    · intro holds other copied' same
      cases same
      exact fun valid => (holds valid).1
    · intro holds valid
      refine ⟨holds target copied rfl valid, fun _ _ empty => ?_⟩
      rw [RootConfig.profile_setProfile] at empty
      exact absurd empty (copyProfile_backends_ne_nil _ _)

theorem postActiveBackend_atomic_iff (q : ProfileQuery) (req : ActiveBackendRequest) :
    Atomic toml fault state (.postActiveBackend q req) ↔
      Recoverable toml fault state (.postActiveBackend q req) := by
  simp only [Atomic, serve, postActiveBackend, Recoverable]
  cases asked : q.resolve state.cliMode with
  | error e => simp only [reduceCtorEq, false_implies, implies_true]
  | ok target =>
    rw [forall_resolved]
    by_cases running : target = state.cliMode
    · simp only [if_pos running, forall_prop_of_true running]
      cases done : state.backendState.switchBackend req.name with
      | error e =>
        obtain ⟨unknown, _⟩ := BackendState.switchBackend_error done
        simp only [unknown, Bool.false_eq_true, false_implies, implies_true]
      | ok switched =>
        obtain ⟨known, _, _, same⟩ := BackendState.switchBackend_ok done
        rw [forall_prop_of_true known, ← same]
        exact activate_atomic_iff switched target req.name
    · simp only [if_neg running, forall_prop_of_false running, and_true, forall_const]
      refine (activate_atomic_iff state.backendState target req.name).trans ?_
      rw [and_iff_left (.inl rfl)]

/-- A request answered with an error changes nothing, exactly if its save cannot be torn, the
running state is not switched ahead of a save that fails, and it is not left without a backend. -/
theorem atomic_iff (toml : Toml) (fault : Option Fault) (state : WebuiState) (request : Request) :
    Atomic toml fault state request ↔ Recoverable toml fault state request := by
  cases request with
  | putConfig q dto => exact putConfig_atomic_iff q dto
  | postActiveBackend q req => exact postActiveBackend_atomic_iff q req
  | postCopyBackend q name req => exact postCopyBackend_atomic_iff q name req

def glm : Backend := { name := "glm", displayName := "GLM", baseUrl := "https://open.bigmodel.cn" }

def kimi : Backend := { name := "kimi", displayName := "Kimi", baseUrl := "https://api.moonshot.cn" }

def twoBackends (active : String) : RootConfig :=
  { claude := { defaults := { active := active }, backends := [glm, kimi] } }

def twoBackendsText (active : String) : List Char :=
  "[claude.defaults]\nactive = \"".toList ++ active.toList ++
    ("\"\n[[claude.backends]]\nname = \"glm\"\ndisplay_name = \"GLM\"\n" ++
      "base_url = \"https://open.bigmodel.cn\"\nauth_type = \"passthrough\"\n" ++
      "[[claude.backends]]\nname = \"kimi\"\ndisplay_name = \"Kimi\"\n" ++
      "base_url = \"https://api.moonshot.cn\"\nauth_type = \"passthrough\"\n").toList

theorem twoBackendsText_ne {active other : String} (different : active ≠ other) :
    twoBackendsText active ≠ twoBackendsText other := by
  intro same
  have names := List.append_cancel_left (List.append_cancel_right same)
  exact different (String.toList_inj.mp names)

def twoBackendsToml : Toml :=
  .ofDocuments [(twoBackends "glm", twoBackendsText "glm"), (twoBackends "kimi", twoBackendsText "kimi")]
    (List.pairwise_pair.mpr (twoBackendsText_ne (by decide)))

def glmStored (running : String) (switchLog : List SwitchLogEntry) : WebuiState where
  configStore := ⟨twoBackends "glm", some (utf8 (twoBackendsText "glm"))⟩
  backendState := ⟨running, (twoBackends "glm").claude.toCliProfile, switchLog⟩
  cliMode := .claude

theorem persist_unopened (toml : Toml) (state : WebuiState) (config : RootConfig) :
    ∃ e, state.persist toml (some .openFile) config = (.error e, state) := by
  rcases persist_cases toml (some .openFile) state config with
    ⟨_, _, saves, _⟩ | ⟨e, _, _, done⟩ | ⟨_, _, _, torn, _⟩
  · exact absurd rfl saves.opened
  · exact ⟨e, done⟩
  · cases torn

/-- The file cannot be opened for writing, but the running instance is switched all the same. -/
theorem unsaved_switch_not_atomic : ¬ ∀ toml fault state request, Atomic toml fault state request := by
  intro atomic
  have refused := atomic twoBackendsToml (some .openFile) (glmStored "glm" []) (.postActiveBackend {} ⟨"kimi"⟩)
  have hot : serve twoBackendsToml (some .openFile) (glmStored "glm" []) (.postActiveBackend {} ⟨"kimi"⟩) =
      (glmStored "kimi" [⟨some "glm", "kimi"⟩]).activate twoBackendsToml (some .openFile) .claude "kimi" := rfl
  obtain ⟨e, failed⟩ := persist_unopened twoBackendsToml (glmStored "kimi" [⟨some "glm", "kimi"⟩]) (twoBackends "kimi")
  rw [Atomic, hot, activate_listed rfl failed] at refused
  have active : "kimi" = "glm" := congrArg (fun state => state.backendState.activeBackend) (refused rfl)
  exact absurd active (by decide)

end Anycode.Webui
