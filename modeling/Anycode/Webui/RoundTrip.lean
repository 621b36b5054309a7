import Anycode.Webui.Atomicity

/-!
# A configuration that is read and put back

`get_config` shows a profile without its keys, and `put_config` looks the keys up again by name.
What is left of the stored configuration when the one is sent back to the other as it came.
-/

namespace Anycode.Webui
open Data Config

def getConfig (state : WebuiState) (q : ProfileQuery) : Response :=
  match q.resolve state.cliMode with
  | .error e => .error .badRequest (.text e)
  | .ok target => .config (profileToDto (state.configStore.inner.profile target) target.profileKey)

/-! ### The body on its way -/

def repriced (price : UInt64 → UInt64) (pricing : BackendPricing) : BackendPricing :=
  ⟨price pricing.inputPerMillion, price pricing.outputPerMillion⟩

def ConfigDto.reprice (price : UInt64 → UInt64) (dto : ConfigDto) : ConfigDto :=
  { dto with backends := dto.backends.map fun d => { d with pricing := d.pricing.map (repriced price) } }

/-- What the handlers use of `serde_json`, the derived (de)serialization included. Printed prices
are read with the precision of the crate, which need not be that of an `f64`. -/
structure DtoCodec where
  toVec : ConfigDto → List UInt8
  fromSlice : List UInt8 → Option ConfigDto
  price : UInt64 → UInt64
  fromSlice_toVec : ∀ dto read, fromSlice (toVec dto) = some read → read = dto.reprice price

/-- A body that is not read is rejected before the handler runs. -/
def putBody (codec : DtoCodec) (toml : Toml) (fault : Option Fault) (state : WebuiState) (q : ProfileQuery)
    (body : List UInt8) : Option (Response × WebuiState) :=
  (codec.fromSlice body).map fun dto => putConfig toml fault state q dto

/-! ### What the round trip is to keep -/

def healed (config : RootConfig) (mode : CliMode) : RootConfig :=
  config.setProfile mode (selfHealActive (config.profile mode))

/-- The file holds the configuration as it was, up to a healed active name; so does the store,
unless its reload fails and it is not touched at all. -/
structure StoredUnchanged (toml : Toml) (fault : Option Fault) (before after : WebuiState) (target : CliMode) : Prop where
  file : loadFrom toml after.configStore.file = .ok (healed before.configStore.inner target)
  inner : after.configStore.inner =
    if fault = some .reload then before.configStore.inner else healed before.configStore.inner target

def RoundTrips (codec : DtoCodec) (toml : Toml) (fault : Option Fault) (state : WebuiState) (q : ProfileQuery) : Prop :=
  ∀ target dto response after, q.resolve state.cliMode = .ok target → getConfig state q = .config dto →
    putBody codec toml fault state q (codec.toVec dto) = some (response, after) → response.isSuccess = true →
      StoredUnchanged toml fault state after target

/-! ### The conditions -/

def OneKeyPerName (backends : List Backend) : Prop :=
  ∀ a ∈ backends, ∀ b ∈ backends, a.name = b.name → a.apiKey = b.apiKey

def PricesKept (price : UInt64 → UInt64) (backends : List Backend) : Prop :=
  ∀ b ∈ backends, b.pricing.map (repriced price) = b.pricing

/-- The profile that `put_config` builds. -/
def returned (codec : DtoCodec) (config : RootConfig) (mode : CliMode) : RootConfig :=
  config.setProfile mode
    (putProfile (config.profile mode) ((profileToDto (config.profile mode) mode.profileKey).reprice codec.price))

/-- When `put_config` answers 200. -/
structure Accepted (codec : DtoCodec) (toml : Toml) (fault : Option Fault) (state : WebuiState) (target : CliMode) :
    Prop where
  read : (codec.fromSlice (codec.toVec
    (profileToDto (state.configStore.inner.profile target) target.profileKey))).isSome = true
  valid : (healed state.configStore.inner target).validateFor target = .ok ()
  saves : Saves toml fault (returned codec state.configStore.inner target)
  listed : target = state.cliMode → (state.configStore.inner.profile target).backends ≠ []

/-! ### The backends that are put back -/

def keyByName (backends : List Backend) (name : String) : Option String :=
  (backends.find? fun b => b.name == name).bind Backend.apiKey

def putBack (price : UInt64 → UInt64) (backends : List Backend) (b : Backend) : Backend :=
  { b with apiKey := keyByName backends b.name, pricing := b.pricing.map (repriced price) }

theorem putBack_eq_iff {price : UInt64 → UInt64} {backends : List Backend} {b : Backend} :
    putBack price backends b = b ↔
      keyByName backends b.name = b.apiKey ∧ b.pricing.map (repriced price) = b.pricing := by
  obtain ⟨_⟩ := b
  simp only [putBack, Backend.mk.injEq, true_and, and_true]

theorem keyByName_eq_iff (backends : List Backend) :
    (∀ b ∈ backends, keyByName backends b.name = b.apiKey) ↔ OneKeyPerName backends := by
  constructor
  · intro keys a first b second same
    rw [← keys a first, ← keys b second, same]
  · intro keys b member
    cases found : backends.find? fun other => other.name == b.name with
    | none =>
      have differs := List.find?_eq_none.mp found b member
      simp at differs
    | some first =>
      have same : first.name = b.name := by simpa using List.find?_some found
      rw [keyByName, found]
      exact keys first (List.mem_of_find?_eq_some found) b member same

theorem map_putBack_eq_iff {price : UInt64 → UInt64} {backends : List Backend} :
    backends.map (putBack price backends) = backends ↔ OneKeyPerName backends ∧ PricesKept price backends := by
  have each : backends.map (putBack price backends) = backends.map id ↔ _ := List.map_inj_left
  rw [List.map_id] at each
  rw [each, ← keyByName_eq_iff]
  simp only [id_eq, putBack_eq_iff, PricesKept]
  constructor
  · intro kept
    exact ⟨fun b member => (kept b member).1, fun b member => (kept b member).2⟩
  · intro kept b member
    exact ⟨kept.1 b member, kept.2 b member⟩

section
variable (profile : Profile) (f : Backend → Backend)

theorem any_map_name (names : ∀ b, (f b).name = b.name) (active : String) :
    { profile with backends := profile.backends.map f }.hasBackend active = profile.hasBackend active := by
  simp only [Profile.hasBackend, List.any_map, Function.comp_def, names]

/-- Whether the active name is healed, and to what, depends on the names alone. -/
theorem selfHealActive_map (names : ∀ b, (f b).name = b.name) :
    selfHealActive { profile with backends := profile.backends.map f } =
      { selfHealActive profile with backends := profile.backends.map f } := by
  have listed := any_map_name profile f names profile.defaults.active
  unfold selfHealActive
  cases found : profile.backends with
  | nil =>
    rw [List.map_nil]
  | cons first rest =>
    rw [found] at listed
    simp only [List.map_cons] at listed ⊢
    rw [listed, names]
    split <;> rfl

end

theorem putProfile_returned (price : UInt64 → UInt64) (profile : Profile) (key : String) :
    putProfile profile ((profileToDto profile key).reprice price) =
      { selfHealActive profile with backends := profile.backends.map (putBack price profile.backends) } := by
  rw [← selfHealActive_map profile (putBack price profile.backends) fun _ => rfl]
  simp only [putProfile, ConfigDto.reprice, profileToDto, List.map_map]
  rfl

theorem returned_eq_iff {codec : DtoCodec} {config : RootConfig} {mode : CliMode} :
    returned codec config mode = healed config mode ↔
      OneKeyPerName (config.profile mode).backends ∧ PricesKept codec.price (config.profile mode).backends := by
  rw [← map_putBack_eq_iff, returned, healed, putProfile_returned, RootConfig.setProfile_eq_iff, and_iff_left rfl]
  have kept := selfHealActive_backends (config.profile mode)
  constructor
  · intro same
    have backends := congrArg Profile.backends same
    exact backends.trans kept
  · intro same
    rw [same, ← kept]

/-- The key that is checked is the one of the first backend with the active name, and stays its own. -/
theorem validateFor_putBack (price : UInt64 → UInt64) (config : RootConfig) (mode : CliMode) (profile : Profile) :
    (config.setProfile mode { profile with
        backends := profile.backends.map (putBack price profile.backends) }).validateFor mode =
      (config.setProfile mode profile).validateFor mode := by
  have listed := any_map_name profile (putBack price profile.backends) fun _ => rfl
  simp only [RootConfig.validateFor, RootConfig.profile_setProfile, List.isEmpty_map, List.find?_map]
  have same : ((fun b : Backend => b.name == profile.defaults.active) ∘ putBack price profile.backends) =
      fun b => b.name == profile.defaults.active := rfl
  rw [same]
  cases found : profile.backends.find? fun b => b.name == profile.defaults.active with
  | none => rfl
  | some first =>
    have active : first.name = profile.defaults.active := by simpa using List.find?_some found
    have key : keyByName profile.backends first.name = first.apiKey := by
      rw [keyByName, active, found]
      rfl
    have configured : (putBack price profile.backends first).isConfigured = first.isConfigured := by
      simp only [Backend.isConfigured, Backend.resolveCredential, Backend.authType, putBack, key]
    simp only [Option.map_some, configured, listed]
    rfl

theorem returned_validateFor (codec : DtoCodec) (config : RootConfig) (mode : CliMode) :
    (returned codec config mode).validateFor mode = (healed config mode).validateFor mode := by
  have kept := selfHealActive_backends (config.profile mode)
  have checked := validateFor_putBack codec.price config mode (selfHealActive (config.profile mode))
  rw [kept] at checked
  rw [returned, putProfile_returned]
  exact checked

/-! ### The answer -/

variable {toml : Toml} {fault : Option Fault} {state : WebuiState}

theorem adopt_isSuccess_iff (target : CliMode) (newConfig : RootConfig) :
    (state.adopt toml fault target newConfig).1.isSuccess = true ↔
      newConfig.validateFor target = .ok () ∧ Saves toml fault newConfig ∧
        (target = state.cliMode → (newConfig.profile target).backends ≠ []) := by
  cases valid : newConfig.validateFor target with
  | error e => simp only [WebuiState.adopt, valid, Response.isSuccess, reduceCtorEq, false_and, Bool.false_eq_true]
  | ok checked =>
    rw [and_iff_right rfl]
    rcases persist_cases toml fault state newConfig with
      ⟨content, printed, saves, done⟩ | ⟨e, _, unsaved, done⟩ | ⟨content, written, _, torn, done⟩
    · rw [and_iff_right saves]
      by_cases running : target = state.cliMode
      · rw [forall_prop_of_true running]
        cases update : state.backendState.updateConfig (newConfig.profile target).toCliProfile with
        | error e =>
          simp only [WebuiState.adopt, valid, done, if_pos running, update, Response.isSuccess]
          exact iff_of_false Bool.false_ne_true fun listed => listed (BackendState.updateConfig_error update).1
        | ok updated =>
          simp only [WebuiState.adopt, valid, done, if_pos running, update, Response.isSuccess]
          exact iff_of_true trivial (BackendState.updateConfig_ok update).1
      · simp only [WebuiState.adopt, valid, done, if_neg running, Response.isSuccess]
        exact iff_of_true trivial fun same => absurd same running
    · simp only [WebuiState.adopt, valid, done, Response.isSuccess, Bool.false_eq_true, unsaved, false_and]
    · have unsaved : ¬ Saves toml fault newConfig := fun saves => by cases torn.symm.trans saves.written
      simp only [WebuiState.adopt, valid, done, Response.isSuccess, Bool.false_eq_true, unsaved, false_and]

/-- An accepted configuration is in the file, and in the store if that is reloaded. -/
theorem adopt_stored {target : CliMode} {newConfig : RootConfig}
    (success : (state.adopt toml fault target newConfig).1.isSuccess = true) :
    loadFrom toml (state.adopt toml fault target newConfig).2.configStore.file = .ok newConfig ∧
      (state.adopt toml fault target newConfig).2.configStore.inner =
        if fault = some .reload then state.configStore.inner else newConfig := by
  obtain ⟨valid, saves, listed⟩ := (adopt_isSuccess_iff target newConfig).mp success
  rcases persist_cases toml fault state newConfig with
    ⟨content, printed, _, done⟩ | ⟨e, _, unsaved, _⟩ | ⟨content, written, _, torn, _⟩
  · have stored : (state.adopt toml fault target newConfig).2.configStore =
        ⟨if fault = some .reload then state.configStore.inner else newConfig, some (utf8 content)⟩ := by
      simp only [WebuiState.adopt, valid, done]
      split
      · split <;> rfl
      · rfl
    rw [stored]
    exact ⟨loadFrom_serialize printed, rfl⟩
  · exact absurd saves unsaved
  · cases torn.symm.trans saves.written

theorem getConfig_eq {q : ProfileQuery} {target : CliMode} (resolved : q.resolve state.cliMode = .ok target) :
    getConfig state q = .config (profileToDto (state.configStore.inner.profile target) target.profileKey) := by
  rw [getConfig, resolved]

theorem putBody_eq (toml : Toml) (fault : Option Fault) (codec : DtoCodec) (state : WebuiState) {q : ProfileQuery}
    {target : CliMode} (resolved : q.resolve state.cliMode = .ok target) :
    putBody codec toml fault state q (codec.toVec
        (profileToDto (state.configStore.inner.profile target) target.profileKey)) =
      if (codec.fromSlice (codec.toVec
          (profileToDto (state.configStore.inner.profile target) target.profileKey))).isSome then
        some (state.adopt toml fault target (returned codec state.configStore.inner target))
      else none := by
  rw [putBody]
  cases read : codec.fromSlice (codec.toVec
      (profileToDto (state.configStore.inner.profile target) target.profileKey)) with
  | none => rfl
  | some dto =>
    rw [Option.map_some, Option.isSome_some, if_pos rfl, putConfig, resolved, codec.fromSlice_toVec _ _ read]
    rfl

/-- The configuration survives its round trip exactly if backends with the same name have the
same key, and no price loses precision on the way. -/
theorem roundTrips_iff (codec : DtoCodec) (toml : Toml) (fault : Option Fault) (state : WebuiState) (q : ProfileQuery) :
    RoundTrips codec toml fault state q ↔
      ∀ target, q.resolve state.cliMode = .ok target → Accepted codec toml fault state target →
        OneKeyPerName (state.configStore.inner.profile target).backends ∧
          PricesKept codec.price (state.configStore.inner.profile target).backends := by
  have nonempty : ∀ target, ((returned codec state.configStore.inner target).profile target).backends ≠ [] ↔
      (state.configStore.inner.profile target).backends ≠ [] := by
    intro target
    rw [returned, RootConfig.profile_setProfile, putProfile_returned]
    exact not_congr List.map_eq_nil_iff
  constructor
  · intro roundTrips target resolved accepted
    have success : (state.adopt toml fault target (returned codec state.configStore.inner target)).1.isSuccess = true := by
      rw [adopt_isSuccess_iff, returned_validateFor, nonempty]
      exact ⟨accepted.valid, accepted.saves, accepted.listed⟩
    have put := putBody_eq toml fault codec state resolved
    rw [if_pos accepted.read] at put
    have unchanged := roundTrips target _ _ _ resolved (getConfig_eq resolved) put success
    have loaded := (adopt_stored success).1
    exact returned_eq_iff.mp (Except.ok.inj (loaded.symm.trans unchanged.file))
  · intro kept target dto response after resolved got put success
    cases (getConfig_eq resolved).symm.trans got
    rw [putBody_eq toml fault codec state resolved] at put
    split at put
    · rename_i read
      have done := Option.some.inj put
      have answer : (state.adopt toml fault target (returned codec state.configStore.inner target)).1 = response := by
        rw [done]
      have left : (state.adopt toml fault target (returned codec state.configStore.inner target)).2 = after := by
        rw [done]
      rw [← answer] at success
      obtain ⟨valid, saves, listed⟩ := (adopt_isSuccess_iff _ _).mp success
      rw [returned_validateFor] at valid
      rw [nonempty] at listed
      have same := returned_eq_iff.mpr (kept target resolved ⟨read, valid, saves, listed⟩)
      obtain ⟨file, inner⟩ := adopt_stored success
      rw [left, same] at file inner
      exact ⟨file, inner⟩
    · cases put

/-! ### Two backends of one name -/

def DtoCodec.ofDocument (document : ConfigDto) (text : List Char) (nonempty : text ≠ [])
    (reread : document.reprice id = document) : DtoCodec where
  toVec dto := if dto = document then utf8 text else []
  fromSlice bytes := if bytes = utf8 text then some document else none
  price := id
  fromSlice_toVec dto read parsed := by
    by_cases same : dto = document
    · rw [if_pos same, if_pos rfl] at parsed
      rw [← Option.some.inj parsed, same, reread]
    · have unread : ([] : List UInt8) ≠ utf8 text := fun empty => nonempty (utf8_injective empty.symm)
      rw [if_neg same, if_neg unread] at parsed
      cases parsed

def keyed (key : String) : Backend := { glm with authTypeStr := "bearer", apiKey := some key }

/-- Two entries of one name; the second has a key of its own. -/
def twoKeys (second : String) : RootConfig :=
  { claude := { defaults := { active := "glm" }, backends := [keyed "sk-first", keyed second] } }

/-- The document of `twoKeys`, the fields with their default values left out. -/
def twoKeysText (second : String) : List Char :=
  ("[claude.defaults]\nactive = \"glm\"\n" ++
    "[[claude.backends]]\nname = \"glm\"\ndisplay_name = \"GLM\"\n" ++
    "base_url = \"https://open.bigmodel.cn\"\nauth_type = \"bearer\"\napi_key = \"sk-first\"\n" ++
    "[[claude.backends]]\nname = \"glm\"\ndisplay_name = \"GLM\"\n" ++
    "base_url = \"https://open.bigmodel.cn\"\nauth_type = \"bearer\"\napi_key = \"").toList ++
      second.toList ++ "\"\n".toList

theorem twoKeysText_ne {second other : String} (different : second ≠ other) : twoKeysText second ≠ twoKeysText other := by
  intro same
  have keys := List.append_cancel_left (List.append_cancel_right same)
  exact different (String.toList_inj.mp keys)

def twoKeysToml : Toml :=
  .ofDocuments [(twoKeys "sk-second", twoKeysText "sk-second"), (twoKeys "sk-first", twoKeysText "sk-first")]
    (List.pairwise_pair.mpr (twoKeysText_ne (by decide)))

def twoKeysDto : ConfigDto := profileToDto (twoKeys "sk-second").claude "claude"

def keyedText : List Char :=
  "\x7b\"name\":\"glm\",\"display_name\":\"GLM\",\"base_url\":\"https://open.bigmodel.cn\",".toList ++
    "\"auth_type\":\"bearer\",\"api_key_set\":true,\"api_key_input\":null,\"thinking_compat\":null,".toList ++
    "\"thinking_budget_tokens\":null,\"model_opus\":null,\"model_opus_max_effort\":null,\"model_sonnet\":null,".toList ++
    "\"model_sonnet_max_effort\":null,\"model_haiku\":null,\"model_haiku_max_effort\":null,\"pricing\":null,".toList ++
    "\"models_path\":null,\"wire_api\":null,\"strip_request_prefix\":null\x7d".toList

def twoKeysBody : List Char :=
  '\x7b' :: ("\"defaults\":\x7b\"active\":\"glm\",\"timeout_seconds\":30,\"connect_timeout_seconds\":5,".toList ++
    "\"idle_timeout_seconds\":60,\"pool_idle_timeout_seconds\":90,\"pool_max_idle_per_host\":8,".toList ++
    "\"max_retries\":3,\"retry_backoff_base_ms\":100\x7d,\"backends\":[".toList ++ keyedText ++ [','] ++ keyedText ++
    "],\"agents\":null,\"profile\":\"claude\"\x7d".toList)

def twoKeysCodec : DtoCodec := .ofDocument twoKeysDto twoKeysBody (List.cons_ne_nil _ _) rfl

def twoKeysStored : WebuiState where
  configStore := ⟨twoKeys "sk-second", some (utf8 (twoKeysText "sk-second"))⟩
  backendState := ⟨"glm", (twoKeys "sk-second").claude.toCliProfile, []⟩
  cliMode := .claude

/-- The key of the second entry is replaced by that of the first. -/
theorem repeated_name_loses_key : ¬ ∀ codec toml fault state q, RoundTrips codec toml fault state q := by
  intro roundTrips
  have resolved : ({} : ProfileQuery).resolve .claude = .ok .claude := rfl
  have read : twoKeysCodec.fromSlice (twoKeysCodec.toVec twoKeysDto) = some twoKeysDto := by
    simp only [twoKeysCodec, DtoCodec.ofDocument, if_true]
  have body := putBody_eq twoKeysToml none twoKeysCodec twoKeysStored resolved
  have accepted := body.trans (if_pos (Option.isSome_of_mem read))
  have success : (twoKeysStored.adopt twoKeysToml none .claude
      (returned twoKeysCodec (twoKeys "sk-second") .claude)).1.isSuccess = true := by
    have saves : Saves twoKeysToml none (returned twoKeysCodec (twoKeys "sk-second") .claude) :=
      ⟨⟨twoKeysText "sk-first", rfl⟩, nofun, nofun, rfl⟩
    exact (adopt_isSuccess_iff _ _).mpr ⟨rfl, saves, fun _ => List.cons_ne_nil _ _⟩
  have unchanged := roundTrips twoKeysCodec twoKeysToml none twoKeysStored {} .claude _ _ _ resolved
    (getConfig_eq resolved) accepted success
  have loaded := (adopt_stored success).1
  have same := Except.ok.inj (loaded.symm.trans unchanged.file)
  have key := congrArg (fun config => config.claude.backends.map Backend.apiKey) same
  exact absurd key (by decide)

end Anycode.Webui
