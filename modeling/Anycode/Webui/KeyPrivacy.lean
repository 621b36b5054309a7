import Anycode.Webui.Sessions

/-!
# Stored keys are never shown

Two stores that differ in the keys of their backends, but not in which backends have one, answer
every request of a run alike.
-/

namespace Anycode.Config

/-- All that shows of a key is whether there is one. -/
def blindKey (key : Option String) : Option String := if key.any fun key => !key.isEmpty then some "set" else none

def Backend.blind (b : Backend) : Backend := { b with apiKey := blindKey b.apiKey }

def Profile.blind (profile : Profile) : Profile := { profile with backends := profile.backends.map Backend.blind }

def RootConfig.blind (config : RootConfig) : RootConfig :=
  { config with claude := config.claude.blind, copilot := config.copilot.blind }

def CliProfile.blind (profile : CliProfile) : CliProfile := { profile with backends := profile.backends.map Backend.blind }

theorem blindKey_isSome (key : Option String) : ((blindKey key).any fun key => !key.isEmpty) = key.any fun key => !key.isEmpty := by
  unfold blindKey
  split
  · rename_i set
    rw [set]
    rfl
  · rename_i unset
    rw [Bool.not_eq_true] at unset
    rw [unset]
    rfl

theorem isConfigured_eq (b : Backend) :
    b.isConfigured = (!b.authType.usesOwnCredentials || b.apiKey.any fun key => !key.isEmpty) := by
  unfold Backend.isConfigured Backend.resolveCredential
  cases b.authType with
  | passthrough => rfl
  | apiKey | bearer =>
    cases b.apiKey with
    | none => rfl
    | some key => cases empty : key.isEmpty <;> simp [empty, AuthType.usesOwnCredentials]

theorem isConfigured_blind (b : Backend) : b.blind.isConfigured = b.isConfigured := by
  rw [isConfigured_eq, isConfigured_eq, Backend.blind, blindKey_isSome]
  rfl

theorem find?_blind (backends : List Backend) (name : String) :
    (backends.map Backend.blind).find? (fun b => b.name == name) = (backends.find? fun b => b.name == name).map Backend.blind := by
  rw [List.find?_map]
  rfl

theorem hasBackend_blind (profile : Profile) (name : String) : profile.blind.hasBackend name = profile.hasBackend name := by
  rw [Profile.hasBackend, Profile.hasBackend, Profile.blind, List.any_map]
  rfl

theorem profile_blind (config : RootConfig) (mode : CliMode) : config.blind.profile mode = (config.profile mode).blind := by
  cases mode <;> rfl

theorem setProfile_blind (config : RootConfig) (mode : CliMode) (profile : Profile) :
    (config.setProfile mode profile).blind = config.blind.setProfile mode profile.blind := by
  cases mode <;> rfl

/-- Validation sees of a key only whether there is one. -/
theorem validateFor_blind (config : RootConfig) (mode : CliMode) : config.blind.validateFor mode = config.validateFor mode := by
  have listed := hasBackend_blind (config.profile mode)
  have found := find?_blind (config.profile mode).backends (config.profile mode).defaults.active
  simp only [RootConfig.validateFor, profile_blind, listed]
  simp only [Profile.blind, List.isEmpty_map, found]
  cases (config.profile mode).backends.find? fun b => b.name == (config.profile mode).defaults.active with
  | none => rfl
  | some b =>
    simp only [Option.map_some, isConfigured_blind]
    rfl

end Anycode.Config

namespace Anycode.Webui
open Data Config

/-! ### What the handlers build -/

theorem backendToDto_blind (b : Backend) : backendToDto b.blind = backendToDto b := by
  rw [backendToDto, backendToDto, Backend.blind, blindKey_isSome]

theorem profileToDto_blind (profile : Profile) (key : String) : profileToDto profile.blind key = profileToDto profile key := by
  rw [profileToDto, profileToDto, Profile.blind, List.map_map]
  exact congrArg (ConfigDto.mk _ · _ _) (List.map_congr_left fun b _ => backendToDto_blind b)

theorem selfHealActive_blind (profile : Profile) : (selfHealActive profile).blind = selfHealActive profile.blind := by
  have healed := selfHealActive_map profile Backend.blind fun _ => rfl
  rw [Profile.blind, Profile.blind, healed, selfHealActive_backends]

theorem blindKey_blindKey (key : Option String) : blindKey (blindKey key) = blindKey key := by
  rw [blindKey, blindKey_isSome, ← blindKey]

/-- A key that is kept is kept blindly. -/
theorem dtoToBackend_blind (dto : BackendDto) (key : Option String) :
    (dtoToBackend dto key).blind = (dtoToBackend dto (blindKey key)).blind := by
  unfold Backend.blind dtoToBackend
  cases dto.apiKeyInput with
  | some input => rfl
  | none =>
    dsimp only
    rw [blindKey_blindKey]

theorem storedKey_blind (backends : List Backend) (name : String) :
    ((backends.map Backend.blind).find? fun b => b.name == name).bind Backend.apiKey =
      blindKey ((backends.find? fun b => b.name == name).bind Backend.apiKey) := by
  rw [find?_blind]
  cases backends.find? fun b => b.name == name <;> rfl

theorem putProfile_blind (existing : Profile) (dto : ConfigDto) :
    (putProfile existing dto).blind = (putProfile existing.blind dto).blind := by
  rw [putProfile, putProfile, selfHealActive_blind, selfHealActive_blind]
  refine congrArg selfHealActive ?_
  simp only [Profile.blind, List.map_map, Profile.mk.injEq, and_true, true_and]
  refine List.map_congr_left fun d _ => ?_
  rw [Function.comp_apply, Function.comp_apply, storedKey_blind]
  exact dtoToBackend_blind d _

theorem activateProfile_blind (existing : Profile) (name : String) :
    (activateProfile existing name).blind = activateProfile existing.blind name := rfl

theorem copyProfile_blind (existing : Profile) (copied : Backend) :
    (copyProfile existing copied).blind = copyProfile existing.blind copied.blind := by
  rw [copyProfile, copyProfile, selfHealActive_blind]
  refine congrArg selfHealActive ?_
  simp only [Profile.blind, List.map_append]
  rfl

/-! ### Two stores -/

/-- The same state but for the keys, and for the file, which no handler shows. -/
structure Alike (s t : WebuiState) : Prop where
  inner : s.configStore.inner.blind = t.configStore.inner.blind
  config : s.backendState.config.blind = t.backendState.config.blind
  activeBackend : s.backendState.activeBackend = t.backendState.activeBackend
  cliMode : s.cliMode = t.cliMode

/-- Whether a configuration can be printed does not depend on the keys. -/
def PrintsAlike (toml : Toml) : Prop :=
  ∀ c d : RootConfig, c.blind = d.blind →
    (toml.serialize c).map (fun _ => ()) = (toml.serialize d).map fun _ => ()

/-- Two results that look alike have failed alike, or have values that look alike. -/
theorem cases_of_map_eq {ε A B C : Type} {x : Except ε A} {y : Except ε B} {f : A → C} {g : B → C} (same : x.map f = y.map g) :
    (∃ e, x = .error e ∧ y = .error e) ∨ ∃ a b, x = .ok a ∧ y = .ok b ∧ f a = g b := by
  cases x with
  | error e =>
    cases y with
    | error other =>
      cases same
      exact .inl ⟨e, rfl, rfl⟩
    | ok b => cases same
  | ok a =>
    cases y with
    | error e => cases same
    | ok b => exact .inr ⟨a, b, rfl, rfl, Except.ok.inj same⟩

section
variable {toml : Toml} {s t : WebuiState}

theorem persist_alike (prints : PrintsAlike toml) (fault : Option Fault) (alike : Alike s t) {c d : RootConfig}
    (same : c.blind = d.blind) :
    (s.persist toml fault c).1 = (t.persist toml fault d).1 ∧
      Alike (s.persist toml fault c).2 (t.persist toml fault d).2 := by
  have untouched {first second : File} :
      Alike { s with configStore := { s.configStore with file := first } }
        { t with configStore := { t.configStore with file := second } } :=
    ⟨alike.inner, alike.config, alike.activeBackend, alike.cliMode⟩
  unfold WebuiState.persist saveConfig
  by_cases missing : fault = some .createDir
  · rw [if_pos missing, if_pos missing]
    exact ⟨rfl, untouched⟩
  · rw [if_neg missing, if_neg missing]
    rcases cases_of_map_eq (prints c d same) with ⟨e, left, right⟩ | ⟨text, other, left, right, -⟩
    · rw [left, right]
      exact ⟨rfl, untouched⟩
    · rw [left, right]
      dsimp only
      by_cases closed : fault = some .openFile
      · rw [if_pos closed, if_pos closed]
        exact ⟨rfl, untouched⟩
      · rw [if_neg closed, if_neg closed]
        cases tornAt fault with
        | some written => exact ⟨rfl, untouched⟩
        | none =>
          dsimp only
          rw [ConfigStore.reload_saved fault _ left, ConfigStore.reload_saved fault _ right]
          refine ⟨rfl, ?_, alike.config, alike.activeBackend, alike.cliMode⟩
          dsimp only
          split
          · exact alike.inner
          · exact same

theorem hasBackend_cliBlind (profile : CliProfile) (id : String) : profile.blind.hasBackend id = profile.hasBackend id := by
  rw [CliProfile.hasBackend, CliProfile.hasBackend, CliProfile.blind, List.any_map]
  rfl

theorem hasBackend_alike {c d : CliProfile} (same : c.blind = d.blind) (id : String) : c.hasBackend id = d.hasBackend id := by
  rw [← hasBackend_cliBlind, same, hasBackend_cliBlind]

/-- What an update leaves, of the running configuration and the active name. -/
def updated (running : BackendState) (c : CliProfile) : Except BackendError (CliProfile × String) :=
  (running.updateConfig c).map fun after => (after.config.blind, after.activeBackend)

theorem updated_alike {running other : BackendState} (active : running.activeBackend = other.activeBackend) {c d : CliProfile}
    (same : c.blind = d.blind) : updated running c = updated other d := by
  have listed := hasBackend_alike same other.activeBackend
  have default : c.defaultActive = d.defaultActive :=
    show c.blind.defaultActive = d.blind.defaultActive from congrArg CliProfile.defaultActive same
  have backends : c.backends.map Backend.blind = d.backends.map Backend.blind := congrArg CliProfile.backends same
  unfold updated BackendState.updateConfig
  cases left : c.backends with
  | nil =>
    rw [left, List.map_nil, eq_comm, List.map_eq_nil_iff] at backends
    rw [backends]
  | cons first rest =>
    cases right : d.backends with
    | nil =>
      rw [left, right] at backends
      cases backends
    | cons second others =>
      rw [left, right, List.map_cons, List.map_cons, List.cons_eq_cons] at backends
      have name : first.name = second.name :=
        show first.blind.name = second.blind.name from congrArg Backend.name backends.1
      dsimp only
      rw [active, listed, default, name]
      split
      · exact congrArg (fun profile => Except.ok (profile, other.activeBackend)) same
      · exact congrArg (fun profile => Except.ok (profile, _)) same

theorem toCliProfile_blind (profile : Profile) : profile.toCliProfile.blind = profile.blind.toCliProfile := rfl

theorem adopt_alike (prints : PrintsAlike toml) (fault : Option Fault) (alike : Alike s t) (target : CliMode) {c d : RootConfig}
    (same : c.blind = d.blind) :
    (s.adopt toml fault target c).1 = (t.adopt toml fault target d).1 ∧
      Alike (s.adopt toml fault target c).2 (t.adopt toml fault target d).2 := by
  have valid : c.validateFor target = d.validateFor target := by
    rw [← validateFor_blind, same, validateFor_blind]
  have profiles : (c.profile target).blind = (d.profile target).blind := by
    rw [← profile_blind, same, profile_blind]
  have shown : profileToDto (c.profile target) target.profileKey = profileToDto (d.profile target) target.profileKey := by
    rw [← profileToDto_blind, profiles, profileToDto_blind]
  have running : (c.profile target).toCliProfile.blind = (d.profile target).toCliProfile.blind := by
    rw [toCliProfile_blind, profiles, toCliProfile_blind]
  have persisted := persist_alike prints fault alike same
  unfold WebuiState.adopt
  rw [valid, shown, alike.cliMode]
  cases d.validateFor target with
  | error e => exact ⟨rfl, alike⟩
  | ok _ =>
    dsimp only
    generalize s.persist toml fault c = left at persisted
    generalize t.persist toml fault d = right at persisted
    obtain ⟨result, left⟩ := left
    obtain ⟨_, right⟩ := right
    obtain ⟨rfl, kept⟩ := persisted
    cases result with
    | error e => exact ⟨rfl, kept⟩
    | ok _ =>
      dsimp only
      split
      · rcases cases_of_map_eq (updated_alike kept.activeBackend running) with ⟨e, first, second⟩ | ⟨_, _, first, second, updates⟩
        · rw [first, second]
          exact ⟨rfl, kept⟩
        · rw [first, second]
          obtain ⟨config, active⟩ := Prod.mk.inj updates
          exact ⟨rfl, kept.inner, config, active, kept.cliMode⟩
      · exact ⟨rfl, kept⟩

/-! ### The handlers -/

theorem profile_alike (alike : Alike s t) (mode : CliMode) :
    (s.configStore.inner.profile mode).blind = (t.configStore.inner.profile mode).blind := by
  rw [← profile_blind, alike.inner, profile_blind]

theorem getConfig_alike (alike : Alike s t) (q : ProfileQuery) : getConfig s q = getConfig t q := by
  unfold getConfig
  rw [alike.cliMode]
  cases q.resolve t.cliMode with
  | error e => rfl
  | ok target =>
    dsimp only
    rw [← profileToDto_blind, profile_alike alike, profileToDto_blind]

theorem backendNamed_alike (alike : Alike s t) (mode : CliMode) (name : String) :
    ((s.configStore.inner.profile mode).backends.find? fun b => b.name == name).map Backend.blind =
      ((t.configStore.inner.profile mode).backends.find? fun b => b.name == name).map Backend.blind := by
  have same := congrArg Profile.backends (profile_alike alike mode)
  rw [← find?_blind, ← find?_blind]
  exact congrArg (List.find? fun b => b.name == name) same

theorem getBackend_alike (alike : Alike s t) (q : ProfileQuery) (name : String) : getBackend s q name = getBackend t q name := by
  unfold getBackend
  rw [alike.cliMode]
  cases q.resolve t.cliMode with
  | error e => rfl
  | ok target =>
    have same := backendNamed_alike alike target name
    dsimp only
    cases left : (s.configStore.inner.profile target).backends.find? fun b => b.name == name with
    | none =>
      rw [left, Option.map_none, eq_comm, Option.map_eq_none_iff] at same
      rw [same]
    | some b =>
      rw [left, Option.map_some, eq_comm, Option.map_eq_some_iff] at same
      obtain ⟨other, found, blind⟩ := same
      rw [found]
      dsimp only
      rw [← backendToDto_blind b, ← blind, backendToDto_blind]

theorem putConfig_alike (prints : PrintsAlike toml) (fault : Option Fault) (alike : Alike s t) (q : ProfileQuery) (dto : ConfigDto) :
    (putConfig toml fault s q dto).1 = (putConfig toml fault t q dto).1 ∧
      Alike (putConfig toml fault s q dto).2 (putConfig toml fault t q dto).2 := by
  unfold putConfig
  rw [alike.cliMode]
  cases q.resolve t.cliMode with
  | error e => exact ⟨rfl, alike⟩
  | ok target =>
    refine adopt_alike prints fault alike target ?_
    rw [setProfile_blind, setProfile_blind, alike.inner, putProfile_blind, profile_alike alike, ← putProfile_blind]

theorem activate_alike (prints : PrintsAlike toml) (fault : Option Fault) (alike : Alike s t) (target : CliMode) (name : String) :
    (s.activate toml fault target name).1 = (t.activate toml fault target name).1 ∧
      Alike (s.activate toml fault target name).2 (t.activate toml fault target name).2 := by
  have listed : (s.configStore.inner.profile target).hasBackend name = (t.configStore.inner.profile target).hasBackend name := by
    rw [← hasBackend_blind, profile_alike alike, hasBackend_blind]
  unfold WebuiState.activate
  dsimp only
  rw [listed]
  split
  · exact ⟨rfl, alike⟩
  · have same : (s.configStore.inner.setProfile target (activateProfile (s.configStore.inner.profile target) name)).blind =
        (t.configStore.inner.setProfile target (activateProfile (t.configStore.inner.profile target) name)).blind := by
      rw [setProfile_blind, setProfile_blind, alike.inner, activateProfile_blind, profile_alike alike, activateProfile_blind]
    have persisted := persist_alike prints fault alike same
    generalize s.persist toml fault _ = left at persisted
    generalize t.persist toml fault _ = right at persisted
    obtain ⟨result, left⟩ := left
    obtain ⟨_, right⟩ := right
    obtain ⟨rfl, kept⟩ := persisted
    cases result <;> exact ⟨rfl, kept⟩

theorem postActiveBackend_alike (prints : PrintsAlike toml) (fault : Option Fault) (alike : Alike s t) (q : ProfileQuery)
    (req : ActiveBackendRequest) :
    (postActiveBackend toml fault s q req).1 = (postActiveBackend toml fault t q req).1 ∧
      Alike (postActiveBackend toml fault s q req).2 (postActiveBackend toml fault t q req).2 := by
  unfold postActiveBackend
  rw [alike.cliMode]
  cases q.resolve t.cliMode with
  | error e => exact ⟨rfl, alike⟩
  | ok target =>
    dsimp only
    split
    · have listed := hasBackend_alike alike.config req.name
      unfold BackendState.switchBackend
      rw [listed, alike.activeBackend]
      by_cases unknown : (!t.backendState.config.hasBackend req.name) = true
      · rw [if_pos unknown, if_pos unknown]
        exact ⟨rfl, alike⟩
      · rw [if_neg unknown, if_neg unknown]
        by_cases active : t.backendState.activeBackend = req.name
        · rw [if_pos active, if_pos active]
          have kept : Alike ⟨s.configStore, s.backendState, t.cliMode⟩ t :=
            ⟨alike.inner, alike.config, alike.activeBackend, rfl⟩
          exact activate_alike prints fault kept target req.name
        · rw [if_neg active, if_neg active]
          have switched (log other : List SwitchLogEntry) : Alike ⟨s.configStore, ⟨req.name, s.backendState.config, log⟩, t.cliMode⟩
              ⟨t.configStore, ⟨req.name, t.backendState.config, other⟩, t.cliMode⟩ := ⟨alike.inner, alike.config, rfl, rfl⟩
          exact activate_alike prints fault (switched _ _) target req.name
    · exact activate_alike prints fault alike target req.name

theorem copyRequest_alike {c d : RootConfig} (same : ∀ mode, (c.profile mode).blind = (d.profile mode).blind) (mode : CliMode)
    (q : ProfileQuery) (name : String) (req : CopyBackendRequest) :
    (copyRequest c mode q name req).map (fun target => (target.1, target.2.blind)) =
      (copyRequest d mode q name req).map fun target => (target.1, target.2.blind) := by
  unfold copyRequest
  cases q.resolve mode with
  | error e => rfl
  | ok sourceMode =>
    cases req.targetMode with
    | error e => rfl
    | ok targetMode =>
      have listed : (c.profile targetMode).hasBackend (trimmed req.newName) =
          (d.profile targetMode).hasBackend (trimmed req.newName) := by
        rw [← hasBackend_blind, same, hasBackend_blind]
      have sources := congrArg (List.find? fun b => b.name == name) (congrArg Profile.backends (same sourceMode))
      simp only [Profile.blind, find?_blind] at sources
      dsimp only
      rw [listed]
      split
      · rfl
      · cases left : (c.profile sourceMode).backends.find? fun b => b.name == name with
        | none =>
          rw [left, Option.map_none, eq_comm, Option.map_eq_none_iff] at sources
          rw [sources]
        | some source =>
          rw [left, Option.map_some, eq_comm, Option.map_eq_some_iff] at sources
          obtain ⟨other, found, blind⟩ := sources
          rw [found]
          dsimp only
          split
          · rfl
          · have copied : (copyOf source req).blind = (copyOf other req).blind :=
              congrArg (fun b => copyOf b req) blind.symm
            exact congrArg (fun b => Except.ok (targetMode, b)) copied

theorem postCopyBackend_alike (prints : PrintsAlike toml) (fault : Option Fault) (alike : Alike s t) (q : ProfileQuery)
    (name : String) (req : CopyBackendRequest) :
    (postCopyBackend toml fault s q name req).1 = (postCopyBackend toml fault t q name req).1 ∧
      Alike (postCopyBackend toml fault s q name req).2 (postCopyBackend toml fault t q name req).2 := by
  unfold postCopyBackend
  dsimp only
  rw [alike.cliMode]
  rcases cases_of_map_eq (copyRequest_alike (profile_alike alike) t.cliMode q name req) with
    ⟨e, left, right⟩ | ⟨⟨target, copied⟩, ⟨_, other⟩, left, right, requests⟩
  · rw [left, right]
    exact ⟨rfl, alike⟩
  · obtain ⟨rfl, blind⟩ := Prod.mk.inj requests
    rw [left, right]
    refine adopt_alike prints fault alike target ?_
    rw [setProfile_blind, setProfile_blind, alike.inner, copyProfile_blind, copyProfile_blind, profile_alike alike, blind]

theorem serve_alike (prints : PrintsAlike toml) (fault : Option Fault) (alike : Alike s t) (request : Request) :
    (serve toml fault s request).1 = (serve toml fault t request).1 ∧
      Alike (serve toml fault s request).2 (serve toml fault t request).2 := by
  cases request with
  | putConfig q dto => exact putConfig_alike prints fault alike q dto
  | postActiveBackend q req => exact postActiveBackend_alike prints fault alike q req
  | postCopyBackend q name req => exact postCopyBackend_alike prints fault alike q name req

/-! ### Runs -/

structure AlikeApps (a b : AppState) : Prop where
  webui : Alike a.webui b.webui
  credentials : a.credentials = b.credentials
  sessions : a.sessions = b.sessions

variable {extract : Extract}

theorem serveApi_alike (prints : PrintsAlike toml) {a b : AppState} (alike : AlikeApps a b) (fault : Option Fault)
    (request : Option Request) : (a.serveApi toml fault request).1 = (b.serveApi toml fault request).1 ∧
      AlikeApps (a.serveApi toml fault request).2 (b.serveApi toml fault request).2 := by
  cases request with
  | none => exact ⟨rfl, alike⟩
  | some request =>
    obtain ⟨same, kept⟩ := serve_alike prints fault alike.webui request
    exact ⟨congrArg Reply.api same, kept, alike.credentials, alike.sessions⟩

theorem call_alike (prints : PrintsAlike toml) {a b : AppState} (alike : AlikeApps a b) (call : Call) (request : HttpRequest)
    (handler : Handler) : (a.call extract toml call request handler).1 = (b.call extract toml call request handler).1 ∧
      AlikeApps (a.call extract toml call request handler).2 (b.call extract toml call request handler).2 := by
  cases handler with
  | redirectToUi | serveIndex | loginGet => exact ⟨rfl, alike⟩
  | getProfiles => exact ⟨congrArg (fun mode : CliMode => Reply.profiles mode.profileKey) alike.webui.cliMode, alike⟩
  | loginPost =>
    rw [AppState.call, AppState.call]
    cases extract.form request with
    | none => exact ⟨rfl, alike⟩
    | some form =>
      dsimp only
      rw [handlerLoginPost_eq, handlerLoginPost_eq, alike.credentials, alike.sessions]
      split
      · exact ⟨rfl, alike⟩
      · split
        · exact ⟨rfl, alike.webui, rfl, rfl⟩
        · exact ⟨rfl, alike⟩
  | logout =>
    rw [AppState.call, AppState.call, handlerLogout, handlerLogout]
    cases getCookie request.headers sessionCookie with
    | none => exact ⟨rfl, alike⟩
    | some token => exact ⟨rfl, alike.webui, alike.credentials, congrArg (fun table => LeaseTable.revoke table token) alike.sessions⟩
  | getConfig =>
    rw [AppState.call, AppState.call]
    cases extract.query request with
    | none => exact ⟨rfl, alike⟩
    | some q => exact ⟨congrArg Reply.api (getConfig_alike alike.webui q), alike⟩
  | getBackend =>
    rw [AppState.call, AppState.call]
    cases extract.query request with
    | none => exact ⟨rfl, alike⟩
    | some q =>
      cases extract.name request with
      | none => exact ⟨rfl, alike⟩
      | some name => exact ⟨getBackend_alike alike.webui q name, alike⟩
  | putConfig | postActive | postCopyBackend =>
    rw [AppState.call, AppState.call]
    exact serveApi_alike prints alike _ _

variable (extract) in
theorem route_alike (prints : PrintsAlike toml) {a b : AppState} (alike : AlikeApps a b) (call : Call) (request : HttpRequest) :
    (a.route extract toml call request).1 = (b.route extract toml call request).1 ∧
      AlikeApps (a.route extract toml call request).2 (b.route extract toml call request).2 := by
  unfold AppState.route
  cases handlerOf request with
  | none => exact ⟨rfl, alike⟩
  | some handler => exact call_alike prints alike call request handler

theorem admits_alike {a b : AppState} (alike : AlikeApps a b) (request : HttpRequest) (now : Nat) :
    a.admits request now = b.admits request now := by
  rw [AppState.admits, AppState.admits, alike.credentials, alike.sessions]

variable (extract) in
theorem visit_alike (prints : PrintsAlike toml) {a b : AppState} (alike : AlikeApps a b) (admitted : List HttpRequest)
    (visit : Visit) :
    (Site.visit extract toml ⟨a, admitted⟩ visit).1 = (Site.visit extract toml ⟨b, admitted⟩ visit).1 ∧
      ∃ after before left, AlikeApps after before ∧ Site.step extract toml ⟨a, admitted⟩ visit = ⟨after, left⟩ ∧
        Site.step extract toml ⟨b, admitted⟩ visit = ⟨before, left⟩ := by
  cases visit with
  | arrive request now =>
    have same := admits_alike alike request now
    unfold Site.step Site.visit
    dsimp only
    rw [same]
    split
    · exact ⟨rfl, a, b, _, alike, rfl, rfl⟩
    · exact ⟨rfl, a, b, _, alike, rfl, rfl⟩
  | answer k call =>
    unfold Site.step Site.visit
    dsimp only
    cases admitted[k]? with
    | none => exact ⟨rfl, a, b, _, alike, rfl, rfl⟩
    | some request =>
      obtain ⟨same, kept⟩ := route_alike extract prints alike call request
      exact ⟨congrArg some same, _, _, _, kept, rfl, rfl⟩

/-- Nothing but whether a backend has a key is ever shown: over whole runs of requests, logins and
failing file operations, the replies are the same for any two stores that agree on that. -/
theorem keys_never_shown (prints : PrintsAlike toml) {site : Site} {webui : WebuiState} (alike : Alike site.app.webui webui)
    (visits : List Visit) : (site.over webui).replies extract toml visits = site.replies extract toml visits := by
  have general : ∀ (visits : List Visit) (a b : AppState) (admitted : List HttpRequest), AlikeApps a b →
      Site.replies extract toml ⟨b, admitted⟩ visits = Site.replies extract toml ⟨a, admitted⟩ visits := by
    intro visits
    induction visits with
    | nil => intro _ _ _ _; rfl
    | cons visit rest ih =>
      intro a b admitted alike
      obtain ⟨same, after, before, left, kept, first, second⟩ := visit_alike extract prints alike admitted visit
      rw [Site.replies, Site.replies, same, first, second, ih after before left kept]
  exact general visits site.app _ site.admitted ⟨alike, rfl, rfl⟩

end

/-! ### Two stores with one key each -/

def onlyBackend (key : String) : Backend :=
  { name := "glm", baseUrl := "http://glm", authTypeStr := "bearer", apiKey := some key }

def oneKey (key : String) : RootConfig := { claude := { defaults := { active := "glm" }, backends := [onlyBackend key] } }

def oneKeyStart : List Char :=
  ("[claude.defaults]\nactive = \"glm\"\n[[claude.backends]]\nname = \"glm\"\nbase_url = \"http://glm\"\n" ++
    "auth_type = \"bearer\"\napi_key = \"").toList

/-- The document of `oneKey`, for a key that needs no escapes. -/
def oneKeyText (key : String) : List Char := oneKeyStart ++ (key.toList ++ "\"\n".toList)

def keyIn (text : List Char) : Option String :=
  (Pipeline.stripPrefix oneKeyStart text).map fun rest => String.ofList (rest.take (rest.length - 2))

theorem keyIn_oneKeyText (key : String) : keyIn (oneKeyText key) = some key := by
  have start : Pipeline.stripPrefix oneKeyStart (oneKeyText key) = some (key.toList ++ "\"\n".toList) := by
    rw [Pipeline.stripPrefix, oneKeyText, if_pos (List.isPrefixOf_iff_prefix.mpr (List.prefix_append _ _)), List.drop_left]
  have stop : (key.toList ++ "\"\n".toList).length - 2 = key.toList.length := by
    rw [List.length_append]
    rfl
  rw [keyIn, start, Option.map_some, stop, List.take_left, String.ofList_toList]

/-- The key of a configuration that is `oneKey` of it. -/
def onlyKey (config : RootConfig) : Option String :=
  (config.claude.backends.head?.bind Backend.apiKey).filter fun key => !key.isEmpty && config = oneKey key

theorem onlyKey_eq_some {config : RootConfig} {key : String} :
    onlyKey config = some key ↔ key.isEmpty = false ∧ config = oneKey key := by
  rw [onlyKey, Option.filter_eq_some_iff, Bool.and_eq_true, Bool.not_eq_true', decide_eq_true_iff]
  constructor
  · exact fun found => found.2
  · intro found
    exact ⟨by rw [found.2]; rfl, found⟩

/-- A crate that knows the documents of `oneKey`. -/
def oneKeyToml : Toml where
  Value := Unit
  fromStr text := if (keyIn text).isSome then some [("claude", ())] else none
  toStringPretty _ := none
  table _ := ()
  deserialize text := ((keyIn text).map fun key => .ok (oneKey key)).getD (.error "unknown document")
  serialize config := ((onlyKey config).map fun key => .ok (oneKeyText key)).getD (.error "unknown configuration")
  deserialize_serialize config text printed := by
    cases found : onlyKey config with
    | none =>
      rw [found] at printed
      cases printed
    | some key =>
      rw [found, Option.map_some, Option.getD_some, Except.ok.injEq] at printed
      subst printed
      rw [(onlyKey_eq_some.mp found).2, congrArg (Option.map _) (keyIn_oneKeyText key)]
      rfl
  claude_serialize config text printed := by
    cases found : onlyKey config with
    | none =>
      rw [found] at printed
      cases printed
    | some key =>
      rw [found, Option.map_some, Option.getD_some, Except.ok.injEq] at printed
      subst printed
      exact ⟨_, if_pos (congrArg Option.isSome (keyIn_oneKeyText key)), rfl⟩

theorem onlyBackend_of_blind {b : Backend} {key : String} (same : b.blind = (onlyBackend key).blind) (set : key.isEmpty = false) :
    ∃ other, other.isEmpty = false ∧ b = onlyBackend other := by
  have keys : blindKey b.apiKey = blindKey (some key) := congrArg Backend.apiKey same
  have whole : b = { b.blind with apiKey := b.apiKey } := rfl
  rw [blindKey, blindKey, Option.any_some, set, Bool.not_false, if_pos rfl] at keys
  split at keys
  · rename_i found
    obtain ⟨other, stored, nonempty⟩ := (Option.any_eq_true _ _).mp found
    refine ⟨other, by simpa using nonempty, ?_⟩
    rw [whole, same, stored]
    rfl
  · cases keys

theorem oneKey_of_blind {config : RootConfig} {key : String} (same : config.blind = (oneKey key).blind)
    (set : key.isEmpty = false) : ∃ other, other.isEmpty = false ∧ config = oneKey other := by
  obtain ⟨proxy, webui, terminal, debugLogging, ⟨defaults, backends, agents, settings⟩, copilot⟩ := config
  obtain ⟨defaults', backends', agents', settings'⟩ := copilot
  simp only [RootConfig.blind, Profile.blind, oneKey, RootConfig.mk.injEq, Profile.mk.injEq, List.map_nil, List.map_eq_nil_iff,
    List.map_cons, List.map_eq_singleton_iff] at same
  obtain ⟨rfl, rfl, rfl, rfl, ⟨rfl, ⟨b, rfl, blind⟩, rfl, rfl⟩, rfl, rfl, rfl, rfl⟩ := same
  obtain ⟨other, nonempty, rfl⟩ := onlyBackend_of_blind blind set
  exact ⟨other, nonempty, rfl⟩

theorem oneKeyToml_printsAlike : PrintsAlike oneKeyToml := by
  have prints (c d : RootConfig) (same : c.blind = d.blind) (key : String) (found : onlyKey c = some key) :
      ∃ other, onlyKey d = some other := by
    obtain ⟨set, rfl⟩ := onlyKey_eq_some.mp found
    obtain ⟨other, nonempty, rfl⟩ := oneKey_of_blind same.symm set
    exact ⟨other, onlyKey_eq_some.mpr ⟨nonempty, rfl⟩⟩
  intro c d same
  cases left : onlyKey c with
  | some key =>
    obtain ⟨other, right⟩ := prints c d same key left
    simp only [oneKeyToml, left, right, Option.map_some, Option.getD_some, Except.map]
  | none =>
    cases right : onlyKey d with
    | some other =>
      obtain ⟨key, found⟩ := prints d c same.symm other right
      cases left.symm.trans found
    | none =>
      simp only [oneKeyToml, left, right]

def oneKeyStored (key : String) : WebuiState where
  configStore := ⟨oneKey key, none⟩
  backendState := ⟨"glm", (oneKey key).claude.toCliProfile, []⟩
  cliMode := .claude

def oneKeySite : Site := ⟨⟨oneKeyStored "sk-first", some ("admin", "secret"), Table.empty⟩, []⟩

def putExtract : Extract := { formExtract "secret" with config := fun _ => some (profileToDto (oneKey "sk-first").claude "claude") }

def putRequest : HttpRequest := { configRequest with method := "PUT" }

def putVisits : List Visit := [.arrive loginRequest 0, .answer 0 loginCall, .arrive putRequest 5, .answer 0 loginCall]

/-- The configuration is saved with either key, and the replies do not tell which. -/
theorem other_key_not_shown :
    let saved (site : Site) : File := (run (Site.step putExtract oneKeyToml) site putVisits).app.webui.configStore.file
    (saved oneKeySite = some (utf8 (oneKeyText "sk-first")) ∧
        saved (oneKeySite.over (oneKeyStored "sk-other")) = some (utf8 (oneKeyText "sk-other"))) ∧
      (oneKeySite.over (oneKeyStored "sk-other")).replies putExtract oneKeyToml putVisits =
        oneKeySite.replies putExtract oneKeyToml putVisits := by
  intro saved
  have alike : Alike oneKeySite.app.webui (oneKeyStored "sk-other") := ⟨by decide, rfl, rfl, rfl⟩
  refine ⟨⟨?_, ?_⟩, keys_never_shown oneKeyToml_printsAlike alike putVisits⟩
  · decide +kernel
  · decide +kernel

end Anycode.Webui
