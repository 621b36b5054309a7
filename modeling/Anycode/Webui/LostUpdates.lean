import Anycode.Webui.Writers

/-!
# Lost updates

Each writer of the configuration file has its fields. What else a write changes there is decided
by what it started from: the WebUI starts from its store, which no other writer refreshes.
-/

namespace Anycode.Webui
open Data Config

/-! ### Targeted fields -/

/-- The fields that a writer is meant to change. -/
inductive Scope where
  | settings
  | profile (mode : CliMode)
  | active (mode : CliMode)
  | appended (mode : CliMode)
  | address
  | credentials

namespace Scope

/-- The new configuration differs from the old one in the targeted fields only. -/
def Changes (old new : RootConfig) : Scope → Prop
  | settings => ∃ value, new = setClaudeSettings value old
  | profile mode => ∃ defaults backends agents,
      new = old.setProfile mode { old.profile mode with defaults := defaults, backends := backends, agents := agents }
  | active mode => ∃ name, new = old.setProfile mode (activateProfile (old.profile mode) name)
  | appended mode => ∃ copied, new = old.setProfile mode (copyProfile (old.profile mode) copied)
  | address => ∃ addr, new = setBindAddr addr old
  | credentials => ∃ username password, new = setCredentials username password old

/-- The configuration without its targeted fields. -/
def mask (config : RootConfig) : Scope → RootConfig
  | settings => setClaudeSettings .empty config
  | profile mode =>
    config.setProfile mode { config.profile mode with defaults := {}, backends := [], agents := none }
  | active mode | appended mode => config.setProfile mode (activateProfile (config.profile mode) "")
  | address => setBindAddr "" config
  | credentials => setCredentials none none config

end Scope

def Request.scope (cliMode : CliMode) : Request → Option Scope
  | .putConfig q _ => (q.resolve cliMode).toOption.map .profile
  | .postActiveBackend q _ => (q.resolve cliMode).toOption.map .active
  | .postCopyBackend _ _ req => req.targetMode.toOption.map .appended

def Writer.scope (cliMode : CliMode) : Writer → Option Scope
  | .saveClaudeSettings _ => some .settings
  | .webui request => request.scope cliMode
  | .bind _ => some .address
  | .passwd _ _ => some .credentials

/-- A writer that succeeds changes its targeted fields of what the file says, and nothing else. -/
def Framed (toml : Toml) (s : System) (w : Write) : Prop :=
  w.Succeeds toml s → ∀ scope old, w.writer.scope s.webui.cliMode = some scope → s.loaded toml = some old →
    ∃ new, (s.step toml w).loaded toml = some new ∧ scope.Changes old new

/-- A copy leaves the same backend active in both configurations. -/
def Writer.SameActive (cliMode : CliMode) (base old : RootConfig) : Writer → Prop
  | .webui (.postCopyBackend q name req) =>
    ∀ target copied, copyRequest base cliMode q name req = .ok (target, copied) →
      (copyProfile (base.profile target) copied).defaults.active =
        (copyProfile (old.profile target) copied).defaults.active
  | _ => True

/-- A writer that succeeds has started from what the file says, its targeted fields apart. -/
def Fresh (toml : Toml) (s : System) (w : Write) : Prop :=
  w.Succeeds toml s → ∀ scope base old, w.writer.scope s.webui.cliMode = some scope →
    w.writer.base toml s = some base → s.loaded toml = some old →
      scope.mask base = scope.mask old ∧ w.writer.SameActive s.webui.cliMode base old

variable {toml : Toml} {s : System} {w : Write}

/-! ### Edits within a scope -/

theorem copyRequest_target {existing : RootConfig} {cliMode target : CliMode} {q : ProfileQuery} {name : String}
    {req : CopyBackendRequest} {copied : Backend}
    (planned : copyRequest existing cliMode q name req = .ok (target, copied)) : req.targetMode = .ok target := by
  unfold copyRequest at planned
  split at planned
  · cases planned
  · split at planned
    · cases planned
    · rename_i mode named
      split at planned
      · cases planned
      · split at planned
        · cases planned
        · split at planned
          · cases planned
          · cases planned
            exact named

theorem selfHealActive_eq (profile : Profile) :
    selfHealActive profile = { profile with
      defaults := { profile.defaults with active := (selfHealActive profile).defaults.active } } := by
  unfold selfHealActive
  split
  · rfl
  · split <;> rfl

theorem copyProfile_eq (profile : Profile) (copied : Backend) :
    copyProfile profile copied = { profile with
      backends := profile.backends ++ [copied]
      defaults := { profile.defaults with active := (copyProfile profile copied).defaults.active } } :=
  selfHealActive_eq _

theorem toOption_map_eq_some {ε α β : Type} {result : Except ε α} {f : α → β} {b : β} :
    result.toOption.map f = some b ↔ ∃ a, result = .ok a ∧ f a = b := by
  cases result with
  | error e => exact iff_of_false nofun (fun ⟨_, failed, _⟩ => nomatch failed)
  | ok a =>
    constructor
    · intro same
      exact ⟨a, rfl, Option.some.inj same⟩
    · intro found
      obtain ⟨_, ⟨⟩, rfl⟩ := found
      rfl

theorem scope_of_copyRequest {base : RootConfig} {cliMode target : CliMode} {q : ProfileQuery} {name : String}
    {req : CopyBackendRequest} {copied : Backend}
    (planned : copyRequest base cliMode q name req = .ok (target, copied)) :
    Writer.scope cliMode (.webui (.postCopyBackend q name req)) = some (.appended target) :=
  toOption_map_eq_some.mpr ⟨target, copyRequest_target planned, rfl⟩

theorem edit_scope {writer : Writer} {cliMode : CliMode} {base new : RootConfig}
    (edited : writer.edit cliMode base = some new) :
    ∃ scope, writer.scope cliMode = some scope ∧ scope.Changes base new := by
  cases writer with
  | saveClaudeSettings settings =>
    cases edited
    exact ⟨.settings, rfl, settings, rfl⟩
  | bind mode =>
    obtain ⟨addr, _, rfl⟩ := Option.map_eq_some_iff.mp edited
    exact ⟨.address, rfl, addr, rfl⟩
  | passwd user pass =>
    cases edited
    exact ⟨.credentials, rfl, _, _, rfl⟩
  | webui request =>
    cases request with
    | putConfig q dto =>
      obtain ⟨target, asked, rfl⟩ := toOption_map_eq_some.mp edited
      refine ⟨.profile target, toOption_map_eq_some.mpr ⟨target, asked, rfl⟩, ?_⟩
      refine ⟨(putProfile (base.profile target) dto).defaults, (putProfile (base.profile target) dto).backends,
        (putProfile (base.profile target) dto).agents, ?_⟩
      congr 1
      rw [putProfile, selfHealActive_eq]
    | postActiveBackend q req =>
      obtain ⟨target, asked, rfl⟩ := toOption_map_eq_some.mp edited
      exact ⟨.active target, toOption_map_eq_some.mpr ⟨target, asked, rfl⟩, req.name, rfl⟩
    | postCopyBackend q name req =>
      obtain ⟨⟨target, copied⟩, planned, rfl⟩ := toOption_map_eq_some.mp edited
      exact ⟨.appended target, scope_of_copyRequest planned, copied, rfl⟩

theorem edit_changes {writer : Writer} {cliMode : CliMode} {base new : RootConfig} {scope : Scope}
    (targeted : writer.scope cliMode = some scope) (edited : writer.edit cliMode base = some new) :
    scope.Changes base new := by
  obtain ⟨found, targeted', changed⟩ := edit_scope edited
  cases targeted.symm.trans targeted'
  exact changed

/-! ### Edits of one configuration and another -/

theorem mask_changes {scope : Scope} {old new : RootConfig} (other : ∀ mode, scope ≠ .appended mode)
    (changed : scope.Changes old new) : scope.mask new = scope.mask old := by
  cases scope with
  | settings =>
    obtain ⟨value, rfl⟩ := changed
    rfl
  | profile mode =>
    obtain ⟨defaults, backends, agents, rfl⟩ := changed
    simp only [Scope.mask, RootConfig.profile_setProfile, RootConfig.setProfile_setProfile]
  | active mode =>
    obtain ⟨name, rfl⟩ := changed
    simp only [Scope.mask, activateProfile, RootConfig.profile_setProfile, RootConfig.setProfile_setProfile]
  | appended mode => exact absurd rfl (other mode)
  | address =>
    obtain ⟨addr, rfl⟩ := changed
    rfl
  | credentials =>
    obtain ⟨username, password, rfl⟩ := changed
    rfl

/-- What differs from a configuration in the targeted fields only differs so from every
configuration that agrees with it elsewhere. -/
theorem changes_of_mask {scope : Scope} {base old new : RootConfig} (other : ∀ mode, scope ≠ .appended mode)
    (same : scope.mask base = scope.mask old) (changed : scope.Changes base new) : scope.Changes old new := by
  cases scope with
  | settings =>
    obtain ⟨value, rfl⟩ := changed
    have again : setClaudeSettings value (setClaudeSettings .empty base) =
        setClaudeSettings value (setClaudeSettings .empty old) :=
      congrArg (setClaudeSettings value) same
    exact ⟨value, again⟩
  | profile mode =>
    obtain ⟨defaults, backends, agents, rfl⟩ := changed
    have again := congrArg (fun config => config.setProfile mode { config.profile mode with
      defaults := defaults, backends := backends, agents := agents }) same
    simp only [Scope.mask, RootConfig.profile_setProfile, RootConfig.setProfile_setProfile] at again
    exact ⟨defaults, backends, agents, again⟩
  | active mode =>
    obtain ⟨name, rfl⟩ := changed
    have again := congrArg (fun config => config.setProfile mode (activateProfile (config.profile mode) name)) same
    simp only [Scope.mask, activateProfile, RootConfig.profile_setProfile, RootConfig.setProfile_setProfile] at again
    exact ⟨name, again⟩
  | appended mode => exact absurd rfl (other mode)
  | address =>
    obtain ⟨addr, rfl⟩ := changed
    have again : setBindAddr addr (setBindAddr "" base) = setBindAddr addr (setBindAddr "" old) :=
      congrArg (setBindAddr addr) same
    exact ⟨addr, again⟩
  | credentials =>
    obtain ⟨username, password, rfl⟩ := changed
    have again : setCredentials username password (setCredentials none none base) =
        setCredentials username password (setCredentials none none old) :=
      congrArg (setCredentials username password) same
    exact ⟨username, password, again⟩

theorem copyProfile_eq_iff {profile other : Profile} {copied copied' : Backend} :
    copyProfile profile copied = copyProfile other copied' ↔
      activateProfile profile "" = activateProfile other "" ∧ copied = copied' ∧
        (copyProfile profile copied).defaults.active = (copyProfile other copied').defaults.active := by
  constructor
  · intro same
    have active := congrArg (fun profile => profile.defaults.active) same
    refine ⟨?_, ?_, active⟩
    · have blank := congrArg (fun profile => activateProfile profile "") same
      rw [copyProfile_eq profile, copyProfile_eq other] at blank
      simp only [activateProfile, Profile.mk.injEq] at blank ⊢
      exact ⟨blank.1, (List.append_inj' blank.2.1 rfl).1, blank.2.2⟩
    · have backends := congrArg Profile.backends same
      rw [copyProfile_eq profile, copyProfile_eq other] at backends
      exact List.cons.inj (List.append_inj' backends rfl).2 |>.1
  · intro parts
    obtain ⟨blank, rfl, active⟩ := parts
    rw [copyProfile_eq profile, copyProfile_eq other, active]
    simp only [activateProfile, Profile.mk.injEq, Defaults.mk.injEq] at blank ⊢
    obtain ⟨⟨_, defaults⟩, backends, rest⟩ := blank
    exact ⟨⟨trivial, defaults⟩, by rw [backends], rest⟩

theorem appended_iff {mode : CliMode} {base old : RootConfig} {copied : Backend} :
    (Scope.appended mode).Changes old (base.setProfile mode (copyProfile (base.profile mode) copied)) ↔
      (Scope.appended mode).mask base = (Scope.appended mode).mask old ∧
        (copyProfile (base.profile mode) copied).defaults.active =
          (copyProfile (old.profile mode) copied).defaults.active := by
  constructor
  · intro changed
    obtain ⟨copied', same⟩ := changed
    obtain ⟨profiles, rest⟩ := RootConfig.setProfile_eq_iff.mp same
    obtain ⟨blank, rfl, active⟩ := copyProfile_eq_iff.mp profiles
    exact ⟨RootConfig.setProfile_eq_iff.mpr ⟨blank, rest⟩, active⟩
  · intro agree
    obtain ⟨same, active⟩ := agree
    obtain ⟨blank, rest⟩ := RootConfig.setProfile_eq_iff.mp same
    exact ⟨copied, RootConfig.setProfile_eq_iff.mpr ⟨copyProfile_eq_iff.mpr ⟨blank, rfl, active⟩, rest⟩⟩

theorem changes_iff_mask {scope : Scope} {base old new : RootConfig} (other : ∀ mode, scope ≠ .appended mode)
    (changed : scope.Changes base new) : scope.Changes old new ↔ scope.mask base = scope.mask old := by
  constructor
  · intro changed'
    exact (mask_changes other changed).symm.trans (mask_changes other changed')
  · intro same
    exact changes_of_mask other same changed

theorem edit_changes_iff {writer : Writer} {cliMode : CliMode} {base old new : RootConfig} {scope : Scope}
    (targeted : writer.scope cliMode = some scope) (edited : writer.edit cliMode base = some new) :
    scope.Changes old new ↔ scope.mask base = scope.mask old ∧ writer.SameActive cliMode base old := by
  have changed := edit_changes targeted edited
  have elsewhere (other : ∀ mode, scope ≠ .appended mode) :
      scope.Changes old new ↔ scope.mask base = scope.mask old ∧ True := by
    rw [and_true]
    exact changes_iff_mask other changed
  cases writer with
  | webui request =>
    cases request with
    | postCopyBackend q name req =>
      obtain ⟨⟨target, copied⟩, planned, rfl⟩ := toOption_map_eq_some.mp edited
      cases targeted.symm.trans (scope_of_copyRequest planned)
      refine appended_iff.trans (and_congr_right fun _ => ?_)
      constructor
      · intro active other copied' planned'
        cases planned.symm.trans planned'
        exact active
      · intro active
        exact active target copied planned
    | putConfig q dto =>
      obtain ⟨target, _, rfl⟩ := toOption_map_eq_some.mp targeted
      exact elsewhere nofun
    | postActiveBackend q req =>
      obtain ⟨target, _, rfl⟩ := toOption_map_eq_some.mp targeted
      exact elsewhere nofun
  | saveClaudeSettings settings =>
    cases targeted
    exact elsewhere nofun
  | bind mode =>
    cases targeted
    exact elsewhere nofun
  | passwd user pass =>
    cases targeted
    exact elsewhere nofun

theorem framed_iff_fresh : Framed toml s w ↔ Fresh toml s w := by
  unfold Framed Fresh
  refine imp_congr_right fun succeeds => ?_
  obtain ⟨base, new, based, edited, holds⟩ := succeeds_spec succeeds
  have after : (s.step toml w).loaded toml = some new := loaded_of_holds holds
  constructor
  · intro framed scope base' old targeted based' loaded
    cases based.symm.trans based'
    obtain ⟨new', after', changed⟩ := framed scope old targeted loaded
    cases after.symm.trans after'
    exact (edit_changes_iff targeted edited).mp changed
  · intro fresh scope old targeted loaded
    exact ⟨new, after, (edit_changes_iff targeted edited).mpr (fresh scope base old targeted based loaded)⟩

/-! ### Runs of writers -/

theorem changes_settings {scope : Scope} {old new : RootConfig} (other : scope ≠ .settings)
    (changed : scope.Changes old new) : new.claude.claudeSettings = old.claude.claudeSettings := by
  cases scope with
  | settings => exact absurd rfl other
  | profile mode =>
    obtain ⟨_, _, _, rfl⟩ := changed
    cases mode <;> rfl
  | active mode =>
    obtain ⟨_, rfl⟩ := changed
    cases mode <;> rfl
  | appended mode =>
    obtain ⟨copied, rfl⟩ := changed
    rw [copyProfile_eq]
    cases mode <;> rfl
  | address =>
    obtain ⟨_, rfl⟩ := changed
    rfl
  | credentials =>
    obtain ⟨_, _, rfl⟩ := changed
    rfl

theorem changes_password {scope : Scope} {old new : RootConfig} (other : scope ≠ .credentials)
    (changed : scope.Changes old new) : new.webui.password = old.webui.password := by
  cases scope with
  | credentials => exact absurd rfl other
  | settings =>
    obtain ⟨_, rfl⟩ := changed
    rfl
  | profile mode =>
    obtain ⟨_, _, _, rfl⟩ := changed
    rw [RootConfig.webui_setProfile]
  | active mode =>
    obtain ⟨_, rfl⟩ := changed
    rw [RootConfig.webui_setProfile]
  | appended mode =>
    obtain ⟨_, rfl⟩ := changed
    rw [RootConfig.webui_setProfile]
  | address =>
    obtain ⟨_, rfl⟩ := changed
    rfl

/-- The file is a saved configuration with this value in the field. -/
def Keeps {α : Type} (toml : Toml) (field : RootConfig → α) (value : α) (s : System) : Prop :=
  ∃ config, Holds toml s.file config ∧ field config = value

section
variable {α : Type} {field : RootConfig → α} {value : α}

theorem loaded_of_keeps (keeps : Keeps toml field value s) : (s.loaded toml).map field = some value := by
  obtain ⟨config, holds, rfl⟩ := keeps
  rw [loaded_of_holds holds, Option.map_some]

theorem step_keeps (keeps : Keeps toml field value s) (sound : w.fault = none) (framed : Framed toml s w)
    (others : ∀ scope old new, w.writer.scope s.webui.cliMode = some scope → scope.Changes old new →
      field new = field old) : Keeps toml field value (s.step toml w) := by
  obtain ⟨config, holds, same⟩ := keeps
  by_cases succeeds : w.Succeeds toml s
  · obtain ⟨base, new, _, edited, holds'⟩ := succeeds_spec succeeds
    obtain ⟨scope, targeted, _⟩ := edit_scope edited
    obtain ⟨new', after, changed⟩ := framed succeeds scope config targeted (loaded_of_holds holds)
    cases after.symm.trans (loaded_of_holds holds')
    exact ⟨_, holds', (others scope config _ targeted changed).trans same⟩
  · obtain ⟨content, printed, existing⟩ := holds
    exact ⟨config, ⟨content, printed, refused_keeps_file existing sound succeeds⟩, same⟩

theorem run_keeps {target : Scope} {writes : List Write}
    (others : ∀ scope old new, scope ≠ target → scope.Changes old new → field new = field old)
    (keeps : Keeps toml field value s) (framed : Along (System.step toml) (Framed toml) s writes)
    (apart : ∀ w ∈ writes, w.fault = none ∧ ∀ cliMode, w.writer.scope cliMode ≠ some target) :
    Keeps toml field value (run (System.step toml) s writes) := by
  induction writes generalizing s with
  | nil => exact keeps
  | cons w rest ih =>
    obtain ⟨sound, elsewhere⟩ := apart w List.mem_cons_self
    refine ih (step_keeps keeps sound framed.1 ?_) framed.2 fun later member =>
      apart later (List.mem_cons_of_mem _ member)
    intro scope old new targeted
    exact others scope old new fun same => elsewhere _ (same ▸ targeted)

end

/-- No writer of the run changes a field that is not its own, and what was saved last in the
settings dialog and set last as the password is still there at the end. -/
structure Preserved (toml : Toml) (s : System) (writes : List Write) : Prop where
  framed : Along (System.step toml) (Framed toml) s writes
  settings : ∀ before settings fault after, writes = before ++ ⟨.saveClaudeSettings settings, fault⟩ :: after →
    Write.Succeeds toml (run (System.step toml) s before) ⟨.saveClaudeSettings settings, fault⟩ →
    (∀ w ∈ after, w.fault = none ∧ ∀ other, w.writer ≠ .saveClaudeSettings other) →
      ((run (System.step toml) s writes).loaded toml).map (fun config => config.claude.claudeSettings) = some settings
  password : ∀ before user pass fault after, writes = before ++ ⟨.passwd user pass, fault⟩ :: after →
    Write.Succeeds toml (run (System.step toml) s before) ⟨.passwd user pass, fault⟩ →
    trimmed pass ≠ "" → trimmed pass ≠ "-" →
    (∀ w ∈ after, w.fault = none ∧ ∀ other secret, w.writer ≠ .passwd other secret) →
      ((run (System.step toml) s writes).loaded toml).map (fun config => config.webui.password) =
        some (some (trimmed pass))

theorem saveClaudeSettings_keeps {settings : Settings} {fault : Option Fault}
    (succeeds : Write.Succeeds toml s ⟨.saveClaudeSettings settings, fault⟩) :
    Keeps toml (fun config => config.claude.claudeSettings) settings
      (s.step toml ⟨.saveClaudeSettings settings, fault⟩) := by
  obtain ⟨base, new, _, edited, holds⟩ := succeeds_spec succeeds
  cases edited
  exact ⟨_, holds, rfl⟩

theorem passwd_keeps {user pass : String} {fault : Option Fault}
    (succeeds : Write.Succeeds toml s ⟨.passwd user pass, fault⟩) (given : trimmed pass ≠ "")
    (kept : trimmed pass ≠ "-") :
    Keeps toml (fun config => config.webui.password) (some (trimmed pass))
      (s.step toml ⟨.passwd user pass, fault⟩) := by
  obtain ⟨base, new, _, edited, holds⟩ := succeeds_spec succeeds
  cases edited
  refine ⟨_, holds, ?_⟩
  simp only [applyPasswd, setCredentials, if_neg given, if_neg kept]

theorem scope_ne_settings {writer : Writer} {cliMode : CliMode}
    (other : ∀ settings, writer ≠ .saveClaudeSettings settings) : writer.scope cliMode ≠ some .settings := by
  intro targeted
  cases writer with
  | saveClaudeSettings settings => exact other settings rfl
  | bind mode => cases targeted
  | passwd user pass => cases targeted
  | webui request => cases request <;> obtain ⟨_, _, same⟩ := Option.map_eq_some_iff.mp targeted <;> cases same

theorem scope_ne_credentials {writer : Writer} {cliMode : CliMode} (other : ∀ user pass, writer ≠ .passwd user pass) :
    writer.scope cliMode ≠ some .credentials := by
  intro targeted
  cases writer with
  | passwd user pass => exact other user pass rfl
  | bind mode => cases targeted
  | saveClaudeSettings settings => cases targeted
  | webui request => cases request <;> obtain ⟨_, _, same⟩ := Option.map_eq_some_iff.mp targeted <;> cases same

theorem preserved_of_framed {writes : List Write} (framed : Along (System.step toml) (Framed toml) s writes) :
    Preserved toml s writes := by
  refine ⟨framed, ?_, ?_⟩
  · intro before settings fault after split succeeds later
    subst split
    obtain ⟨_, _, rest⟩ := (along_append _ _ _ _ _).mp framed
    rw [run_append, run_cons]
    apply loaded_of_keeps
    apply run_keeps (fun _ _ _ => changes_settings) (saveClaudeSettings_keeps succeeds) rest
    exact fun w member => ⟨(later w member).1, fun _ => scope_ne_settings (later w member).2⟩
  · intro before user pass fault after split succeeds given kept later
    subst split
    obtain ⟨_, _, rest⟩ := (along_append _ _ _ _ _).mp framed
    rw [run_append, run_cons]
    apply loaded_of_keeps
    apply run_keeps (fun _ _ _ => changes_password) (passwd_keeps succeeds given kept) rest
    exact fun w member => ⟨(later w member).1, fun _ => scope_ne_credentials (later w member).2⟩

/-- A run of writers loses no update exactly when each of them that succeeds has started from a
configuration that says what the file says outside its targeted fields. -/
theorem preserved_iff (toml : Toml) (s : System) (writes : List Write) :
    Preserved toml s writes ↔ Along (System.step toml) (Fresh toml) s writes := by
  have same : Along (System.step toml) (Framed toml) s writes ↔ Along (System.step toml) (Fresh toml) s writes :=
    along_congr fun _ _ => framed_iff_fresh
  exact ⟨fun preserved => same.mp preserved.framed, fun fresh => preserved_of_framed (same.mpr fresh)⟩

/-! ### A password that is lost -/

def secured : RootConfig := applyPasswd "" "secret" (twoBackends "glm")

def securedText : List Char :=
  "[webui]\nusername = \"admin\"\npassword = \"secret\"\n".toList ++ twoBackendsText "glm"

theorem securedText_ne (active : String) : securedText ≠ twoBackendsText active := by
  intro same
  have second := congrArg (fun text => text[1]?) same
  cases second

def securedToml : Toml :=
  .ofDocuments [(twoBackends "glm", twoBackendsText "glm"), (secured, securedText),
      (twoBackends "kimi", twoBackendsText "kimi")]
    (.cons (List.forall_mem_cons.mpr
        ⟨(securedText_ne _).symm, List.forall_mem_singleton.mpr (twoBackendsText_ne (by decide))⟩)
      (List.pairwise_pair.mpr (securedText_ne _)))

def glmRunning (content : List Char) : System :=
  ⟨⟨⟨twoBackends "glm", some (utf8 content)⟩,
    ⟨"glm", (twoBackends "glm").claude.toCliProfile, [⟨none, "glm"⟩]⟩, .claude⟩, none⟩

section
variable {glmText kimiText passwdText : List Char}

theorem glm_loaded (printed : toml.serialize (twoBackends "glm") = .ok glmText) :
    load toml none (some (utf8 glmText)) = (.ok (twoBackends "glm"), some (utf8 glmText)) := by
  rw [load, Option.some_or, loadFrom_serialize printed]

theorem glmRunning_startUp (printed : toml.serialize (twoBackends "glm") = .ok glmText) :
    startUp toml .claude none none (some (utf8 glmText)) = some (glmRunning glmText) := by
  have running : BackendState.fromConfig (twoBackends "glm").claude.toCliProfile =
      .ok ⟨"glm", (twoBackends "glm").claude.toCliProfile, [⟨none, "glm"⟩]⟩ := rfl
  simp only [startUp, glm_loaded printed, RootConfig.profile, running, glmRunning]

theorem passwd_performed (printed : toml.serialize (twoBackends "glm") = .ok glmText)
    (printed' : toml.serialize secured = .ok passwdText) :
    Write.perform toml (glmRunning glmText) ⟨.passwd "" "secret", none⟩ =
      (true, (glmRunning glmText).setFile (some (utf8 passwdText))) := by
  have answers : applyPasswd (trimmed "") (trimmed "secret") (twoBackends "glm") = secured := rfl
  have edited : editFile toml none none (some (utf8 glmText)) (applyPasswd (trimmed "") (trimmed "secret")) =
      (true, some (utf8 passwdText)) := by
    simp only [editFile, glm_loaded printed, reduceCtorEq, if_false, answers, saveConfig_done printed']
  have performed : Write.perform toml (glmRunning glmText) ⟨.passwd "" "secret", none⟩ =
      Prod.map id (glmRunning glmText).setFile
        (editFile toml none none (some (utf8 glmText)) (applyPasswd (trimmed "") (trimmed "secret"))) := rfl
  rw [performed, edited]
  rfl

theorem activate_performed (file : File) (printed : toml.serialize (twoBackends "kimi") = .ok kimiText) :
    (((glmRunning glmText).setFile file).step toml ⟨.webui (.postActiveBackend {} ⟨"kimi"⟩), none⟩).file =
      some (utf8 kimiText) := by
  let switched : WebuiState :=
    ⟨⟨twoBackends "glm", file⟩,
      ⟨"kimi", (twoBackends "glm").claude.toCliProfile, [⟨none, "glm"⟩, ⟨some "glm", "kimi"⟩]⟩, .claude⟩
  have hot : ((glmRunning glmText).setFile file).step toml ⟨.webui (.postActiveBackend {} ⟨"kimi"⟩), none⟩ =
      ⟨(switched.activate toml none .claude "kimi").2, none⟩ := rfl
  have saved : switched.persist toml none (twoBackends "kimi") =
      (.ok (), { switched with configStore :=
        (⟨twoBackends "glm", some (utf8 kimiText)⟩ : ConfigStore).reload toml none }) := by
    simp only [WebuiState.persist, saveConfig_done printed, switched]
  rw [hot, activate_listed rfl saved]
  exact ConfigStore.reload_file toml none _

theorem password_not_kept (glm : toml.serialize (twoBackends "glm") = .ok glmText)
    (passwd : toml.serialize secured = .ok passwdText) (kimi : toml.serialize (twoBackends "kimi") = .ok kimiText) :
    ¬ Preserved toml (glmRunning glmText)
      [⟨.passwd "" "secret", none⟩, ⟨.webui (.postActiveBackend {} ⟨"kimi"⟩), none⟩] := by
  intro preserved
  have performed := passwd_performed glm passwd
  have first : (glmRunning glmText).step toml ⟨.passwd "" "secret", none⟩ =
      (glmRunning glmText).setFile (some (utf8 passwdText)) := congrArg Prod.snd performed
  have kept := preserved.password [] "" "secret" none [⟨.webui (.postActiveBackend {} ⟨"kimi"⟩), none⟩] rfl
    (congrArg Prod.fst performed) (by decide) (by decide)
    (by rintro w (_ | ⟨_, ⟨⟩⟩); exact ⟨rfl, fun _ _ same => by cases same⟩)
  rw [run_cons, run_cons, run_nil, first,
    loaded_of_holds ⟨_, kimi, activate_performed (some (utf8 passwdText)) kimi⟩] at kept
  cases kept

end

/-- A password set by `anycode passwd` is gone when the WebUI of a running instance activates
another backend. -/
theorem password_lost : ¬ ∀ toml mode backendOverride legacy file s writes,
    startUp toml mode backendOverride legacy file = some s → Preserved toml s writes := by
  intro preserved
  have glm : securedToml.serialize (twoBackends "glm") = .ok (twoBackendsText "glm") := rfl
  have passwd : securedToml.serialize secured = .ok securedText := rfl
  have kimi : securedToml.serialize (twoBackends "kimi") = .ok (twoBackendsText "kimi") := rfl
  exact password_not_kept glm passwd kimi (preserved _ _ _ _ _ _ _ (glmRunning_startUp glm))

end Anycode.Webui
