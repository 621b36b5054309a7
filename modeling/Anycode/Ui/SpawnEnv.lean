import Anycode.Ui.Launch
import Anycode.Data.Assoc

/-!
# The environment of the first spawn

It is built before the proxy has a port and before the shim exists, and patched by name once they
are known. Whether the process gets what a spawn built afterwards would give it.
-/

namespace Anycode.Ui
open Args Config Data

/-- The variables are set in order, so the process sees the last value of each. -/
def binding (env : Assoc String String) (name : String) : Option String := Assoc.find name env.reverse

def patchUrl (proxyEnvVar actualBaseUrl : String) (env : Assoc String String) : Assoc String String :=
  env.map fun entry => if entry.1 = proxyEnvVar then (entry.1, actualBaseUrl) else entry

/-- The first value of the variable gives way, or the variable goes to the end. -/
def patchPath (host : Host) (shim : Option TeammateShim) (env : Assoc String String) : Assoc String String :=
  match shim with
  | some shim =>
    let (key, value) := shim.pathEnv host
    env.upsert key fun _ => value
  | none => env

/-- The environment that `run` spawns the first process with. -/
def firstSpawnEnv (host : Host) (rawArgs : List String) (baseProxyUrl actualBaseUrl : String) (cliMode : CliMode)
    (command sessionToken : String) (settings : ClaudeSettingsManager) (shim : Option TeammateShim)
    (isPassthrough : Bool) (wireApi : String) : Assoc String String :=
  let spawn := buildSpawnParams host rawArgs baseProxyUrl cliMode.proxyEnvVar command sessionToken settings none none
    isPassthrough wireApi
  patchPath host shim (patchUrl cliMode.proxyEnvVar actualBaseUrl spawn.env)

/-! ### Bindings -/

theorem binding_append (first second : Assoc String String) (name : String) :
    binding (first ++ second) name = (binding second name).or (binding first name) := by
  rw [binding, List.reverse_append, Assoc.find_append]
  rfl

theorem binding_absent {env : Assoc String String} {name : String} (absent : ∀ entry ∈ env, name ≠ entry.1) :
    binding env name = none :=
  Assoc.find_absent fun entry listed => absent entry (List.mem_reverse.mp listed)

theorem patchUrl_absent {proxyEnvVar : String} {env : Assoc String String}
    (absent : ∀ entry ∈ env, proxyEnvVar ≠ entry.1) (actualBaseUrl : String) :
    patchUrl proxyEnvVar actualBaseUrl env = env := by
  unfold patchUrl
  refine (List.map_congr_left ?_).trans (List.map_id env)
  intro entry listed
  exact if_neg (absent entry listed).symm

theorem patchPath_absent {env : Assoc String String} (absent : ∀ entry ∈ env, "PATH" ≠ entry.1) (host : Host)
    (shim : Option TeammateShim) :
    patchPath host shim env = env ++ (shim.map fun shim => shim.pathEnv host).toList := by
  cases shim with
  | none => exact (List.append_nil env).symm
  | some shim => exact Assoc.upsert_absent absent

/-! ### What the builders set -/

/-- Everything that the builders set, apart from the URL and the shim. -/
def plainNames : List String :=
  ["ANTHROPIC_AUTH_TOKEN", "ANTHROPIC_API_KEY", "ANTHROPIC_CUSTOM_HEADERS", "CLAUDE_CODE_EXPERIMENTAL_AGENT_TEAMS",
    "COPILOT_OFFLINE", "COPILOT_PROVIDER_TYPE", "COPILOT_PROVIDER_API_KEY", "COPILOT_PROVIDER_WIRE_API",
    "COPILOT_MODEL", "COPILOT_HOME"]

/-- The variable that each mode carries the URL in. -/
def urlName : CliMode → String
  | .claude => "ANTHROPIC_BASE_URL"
  | .copilot => "COPILOT_PROVIDER_BASE_URL"

theorem toEnvVars_plain (settings : ClaudeSettingsManager) : ∀ entry ∈ settings.toEnvVars, entry.1 ∈ plainNames := by
  intro entry listed
  obtain ⟨setting, enabled, named⟩ := List.mem_filterMap.mp listed
  have agents : setting ∈ builtinRegistry := settings.builtin ▸ (List.mem_filter.mp enabled).1
  obtain rfl := List.mem_singleton.mp agents
  obtain rfl := Option.some.inj named
  decide

/-- What `withCopilotEnv` sets behind the URL. -/
def copilotTail (host : Host) (sessionToken provider : String) : Assoc String String :=
  let (ptype, wire) := providerType provider
  [("COPILOT_PROVIDER_TYPE", ptype), ("COPILOT_PROVIDER_API_KEY", sessionToken)] ++
    (wire.map fun w => ("COPILOT_PROVIDER_WIRE_API", w)).toList ++
    (if userHasModel host then [] else [("COPILOT_MODEL", defaultModel ptype wire)]) ++
    (host.homeDir.map fun home => ("COPILOT_HOME", joinPath home ".config/anycode/copilot-home")).toList

theorem withCopilotEnv_vars (host : Host) (env : EnvSet) (proxyUrl sessionToken provider : String) :
    (EnvSet.withCopilotEnv host env proxyUrl sessionToken provider).vars =
      env.vars ++ ("COPILOT_OFFLINE", "true") :: ("COPILOT_PROVIDER_BASE_URL", proxyUrl) ::
        copilotTail host sessionToken provider := rfl

theorem copilotTail_plain (host : Host) (sessionToken provider : String) :
    ∀ entry ∈ copilotTail host sessionToken provider, entry.1 ∈ plainNames := by
  intro entry listed
  simp only [copilotTail, List.mem_append, List.mem_cons, List.not_mem_nil, or_false, Option.mem_toList,
    Option.map_eq_some_iff] at listed
  have known : entry.1 = "COPILOT_PROVIDER_TYPE" ∨ entry.1 = "COPILOT_PROVIDER_API_KEY" ∨
      entry.1 = "COPILOT_PROVIDER_WIRE_API" ∨ entry.1 = "COPILOT_MODEL" ∨ entry.1 = "COPILOT_HOME" := by
    obtain (((rfl | rfl) | ⟨w, _, rfl⟩) | listed) | ⟨home, _, rfl⟩ := listed
    · exact .inl rfl
    · exact .inr (.inl rfl)
    · exact .inr (.inr (.inl rfl))
    · split at listed
      · cases listed
      · obtain rfl := List.mem_singleton.mp listed
        exact .inr (.inr (.inr (.inl rfl)))
    · exact .inr (.inr (.inr (.inr rfl)))
  obtain same | same | same | same | same := known
  all_goals
    rw [same]
    decide

/-- The URL is set once, among plain variables, and the shim comes last. -/
theorem buildEnv_split (host : Host) (cliMode : CliMode) (sessionToken : String) (settings : ClaudeSettingsManager)
    (isPassthrough : Bool) (wireApi : String) :
    ∃ before after : Assoc String String, (∀ entry ∈ before ++ after, entry.1 ∈ plainNames) ∧
      ∀ url shim, (buildEnv host cliMode.isCopilot url cliMode.proxyEnvVar sessionToken settings shim isPassthrough
        wireApi).vars = before ++ (urlName cliMode, url) :: after ++ (shim.map fun shim => shim.pathEnv host).toList := by
  cases cliMode with
  | claude =>
    let auth : List (String × String) :=
      if isPassthrough then [] else [("ANTHROPIC_AUTH_TOKEN", "anycode-proxy"), ("ANTHROPIC_API_KEY", "")]
    refine ⟨[], auth ++ ("ANTHROPIC_CUSTOM_HEADERS", "x-session-token:" ++ sessionToken) :: settings.toEnvVars, ?_, ?_⟩
    · rw [List.nil_append]
      have bypass : ∀ entry ∈ auth, entry.1 ∈ plainNames := by cases isPassthrough <;> decide
      have token : "ANTHROPIC_CUSTOM_HEADERS" ∈ plainNames := by decide
      exact List.forall_mem_append.mpr ⟨bypass, List.forall_mem_cons.mpr ⟨token, toEnvVars_plain settings⟩⟩
    · intro url shim
      cases isPassthrough <;> simp [auth, buildEnv, CliMode.isCopilot, CliMode.proxyEnvVar, urlName, EnvSet.withShim,
        EnvSet.withSettings, EnvSet.withSessionToken, EnvSet.withAuthBypass, EnvSet.withProxyUrlForMode, EnvSet.extend]
  | copilot =>
    have plain := List.forall_mem_append.mpr ⟨copilotTail_plain host sessionToken wireApi, toEnvVars_plain settings⟩
    have offline : "COPILOT_OFFLINE" ∈ plainNames := by decide
    refine ⟨[("COPILOT_OFFLINE", "true")], copilotTail host sessionToken wireApi ++ settings.toEnvVars,
      List.forall_mem_cons.mpr ⟨offline, plain⟩, ?_⟩
    intro url shim
    simp [buildEnv, CliMode.isCopilot, urlName, EnvSet.withShim, EnvSet.withSettings, EnvSet.extend,
      withCopilotEnv_vars]

theorem buildSpawnParams_env (host : Host) (rawArgs : List String) (url : String) (cliMode : CliMode)
    (command sessionToken : String) (settings : ClaudeSettingsManager) (shim : Option TeammateShim)
    (proxyPort : Option UInt16) (isPassthrough : Bool) (wireApi : String) :
    (buildSpawnParams host rawArgs url cliMode.proxyEnvVar command sessionToken settings shim proxyPort isPassthrough
      wireApi).env = (buildEnv host cliMode.isCopilot url cliMode.proxyEnvVar sessionToken settings shim isPassthrough
        wireApi).vars := by
  cases cliMode <;> rfl

/-- The URL that the patched environment carries. -/
def patchedUrl (baseProxyUrl actualBaseUrl : String) : CliMode → String
  | .claude => actualBaseUrl
  | .copilot => baseProxyUrl

theorem patchUrl_split {cliMode : CliMode} {before after : Assoc String String}
    (plain : ∀ entry ∈ before ++ after, entry.1 ∈ plainNames) (baseProxyUrl actualBaseUrl : String) :
    patchUrl cliMode.proxyEnvVar actualBaseUrl (before ++ (urlName cliMode, baseProxyUrl) :: after) =
      before ++ (urlName cliMode, patchedUrl baseProxyUrl actualBaseUrl cliMode) :: after := by
  have other : cliMode.proxyEnvVar ∉ plainNames := by cases cliMode <;> decide
  have absent : ∀ entry ∈ before ++ after, cliMode.proxyEnvVar ≠ entry.1 := by
    intro entry listed same
    exact other (same ▸ plain entry listed)
  obtain ⟨absentBefore, absentAfter⟩ := List.forall_mem_append.mp absent
  have kept := patchUrl_absent absentBefore actualBaseUrl
  have keptAfter := patchUrl_absent absentAfter actualBaseUrl
  unfold patchUrl at kept keptAfter ⊢
  rw [List.map_append, List.map_cons, kept, keptAfter]
  cases cliMode <;> rfl

theorem binding_split {cliMode : CliMode} {before after : Assoc String String}
    (plain : ∀ entry ∈ before ++ after, entry.1 ∈ plainNames) (url : String) (host : Host) (shim : Option TeammateShim) :
    binding (before ++ (urlName cliMode, url) :: after ++ (shim.map fun shim => shim.pathEnv host).toList)
      (urlName cliMode) = some url := by
  have other : urlName cliMode ∉ plainNames := by cases cliMode <;> decide
  have unset : ∀ entry ∈ (shim.map fun shim => shim.pathEnv host).toList, urlName cliMode ≠ entry.1 := by
    cases shim with
    | none => exact List.forall_mem_nil _
    | some shim => cases cliMode <;> simp [urlName, TeammateShim.pathEnv]
  have absent : ∀ entry ∈ after, urlName cliMode ≠ entry.1 := by
    intro entry listed same
    exact other (same ▸ plain entry (List.mem_append_right before listed))
  rw [binding_append, binding_absent unset, Option.none_or, binding_append, ← List.singleton_append, binding_append,
    binding_absent absent, Option.none_or]
  simp [binding, Assoc.find]

/-- The patched environment is split the same way. -/
theorem firstSpawnEnv_split {host : Host} {cliMode : CliMode} {sessionToken : String} {settings : ClaudeSettingsManager}
    {isPassthrough : Bool} {wireApi : String} {before after : Assoc String String}
    (plain : ∀ entry ∈ before ++ after, entry.1 ∈ plainNames)
    (built : ∀ url shim, (buildEnv host cliMode.isCopilot url cliMode.proxyEnvVar sessionToken settings shim
      isPassthrough wireApi).vars =
        before ++ (urlName cliMode, url) :: after ++ (shim.map fun shim => shim.pathEnv host).toList)
    (rawArgs : List String) (baseProxyUrl actualBaseUrl command : String) (shim : Option TeammateShim) :
    firstSpawnEnv host rawArgs baseProxyUrl actualBaseUrl cliMode command sessionToken settings shim isPassthrough
        wireApi =
      before ++ (urlName cliMode, patchedUrl baseProxyUrl actualBaseUrl cliMode) :: after ++
        (shim.map fun shim => shim.pathEnv host).toList := by
  have noPath : "PATH" ∉ urlName cliMode :: plainNames := by cases cliMode <;> decide
  have pathless : ∀ entry ∈ before ++ (urlName cliMode, patchedUrl baseProxyUrl actualBaseUrl cliMode) :: after,
      "PATH" ≠ entry.1 := by
    intro entry listed same
    refine noPath (same ▸ ?_)
    obtain front | rfl | back := (List.mem_append.mp listed).imp_right List.mem_cons.mp
    · exact List.mem_cons_of_mem _ (plain entry (List.mem_append_left after front))
    · exact List.mem_cons_self
    · exact List.mem_cons_of_mem _ (plain entry (List.mem_append_right before back))
  rw [firstSpawnEnv, buildSpawnParams_env, built, Option.map_none, Option.toList_none, List.append_nil,
    patchUrl_split plain, patchPath_absent pathless]

/-- The patched environment is the rebuilt one except for a Copilot process whose proxy got
another URL than the configured one. -/
theorem firstSpawnEnv_rebuilt_iff (host : Host) (rawArgs : List String) (baseProxyUrl actualBaseUrl : String)
    (cliMode : CliMode) (command sessionToken : String) (settings : ClaudeSettingsManager) (shim : Option TeammateShim)
    (proxyPort : Option UInt16) (isPassthrough : Bool) (wireApi : String) :
    (∀ name, binding (firstSpawnEnv host rawArgs baseProxyUrl actualBaseUrl cliMode command sessionToken settings shim
        isPassthrough wireApi) name =
      binding (buildSpawnParams host rawArgs actualBaseUrl cliMode.proxyEnvVar command sessionToken settings shim
        proxyPort isPassthrough wireApi).env name) ↔
      cliMode = .claude ∨ baseProxyUrl = actualBaseUrl := by
  obtain ⟨before, after, plain, built⟩ :=
    buildEnv_split host cliMode sessionToken settings isPassthrough wireApi
  rw [firstSpawnEnv_split plain built, buildSpawnParams_env, built]
  constructor
  · intro same
    have urls := same (urlName cliMode)
    rw [binding_split plain, binding_split plain] at urls
    cases cliMode with
    | claude => exact .inl rfl
    | copilot => exact .inr (Option.some.inj urls)
  · intro condition name
    have urls : patchedUrl baseProxyUrl actualBaseUrl cliMode = actualBaseUrl := by
      obtain rfl | same := condition
      · rfl
      · cases cliMode
        · rfl
        · exact same
    rw [urls]

/-- The configured port is taken, and the proxy is bound to the next one. -/
theorem copilot_patched_differs :
    ¬ ∀ host rawArgs baseProxyUrl actualBaseUrl cliMode command sessionToken settings shim proxyPort isPassthrough wireApi
        name,
      binding (firstSpawnEnv host rawArgs baseProxyUrl actualBaseUrl cliMode command sessionToken settings shim
          isPassthrough wireApi) name =
        binding (buildSpawnParams host rawArgs actualBaseUrl cliMode.proxyEnvVar command sessionToken settings shim
          proxyPort isPassthrough wireApi).env name := by
  intro same
  have url := same bareHost [] "http://127.0.0.1:47190" "http://127.0.0.1:47191" .copilot "copilot" "token" .new none
    (some 47191) false "anthropic" "COPILOT_PROVIDER_BASE_URL"
  revert url
  decide

end Anycode.Ui
