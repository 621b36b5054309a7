import Anycode.Config.Loader

/-!
# The configuration endpoints of the WebUI

The writing handlers of `proxy/webui/api.rs`. A handler is given the file operation that fails
in it, and returns its response with the state it leaves.
-/

namespace Anycode.Webui
open Data Pipeline Config

/-- `api_key_input` replaces the key, clears it when it is empty and keeps it when it is absent. -/
structure BackendDto where
  name : String
  displayName : String
  baseUrl : String
  authType : String
  apiKeySet : Bool := false
  apiKeyInput : Option String := none
  thinkingCompat : Option Bool := none
  thinkingBudgetTokens : Option UInt32 := none
  modelOpus : Option String := none
  modelOpusMaxEffort : Option String := none
  modelSonnet : Option String := none
  modelSonnetMaxEffort : Option String := none
  modelHaiku : Option String := none
  modelHaikuMaxEffort : Option String := none
  pricing : Option BackendPricing := none
  modelsPath : Option String := none
  wireApi : Option String := none
  stripRequestPrefix : Option String := none
  deriving DecidableEq

structure ConfigDto where
  defaults : Defaults
  backends : List BackendDto := []
  agents : Option AgentsConfig := none
  profile : Option String := none
  deriving DecidableEq

structure ActiveBackendRequest where
  name : String

structure CopyBackendRequest where
  targetProfile : String
  newName : String
  newDisplayName : Option String := none

structure ProfileQuery where
  profile : Option String := none

inductive StatusCode where
  | badRequest
  | notFound
  | conflict
  | internalServerError
  deriving DecidableEq

inductive ErrorBody where
  | text (message : String)
  | config (error : ConfigError)
  | backend (error : BackendError)
  | runtimeUpdateFailed (error : BackendError)
  deriving DecidableEq

inductive Response where
  | ok
  | config (dto : ConfigDto)
  | error (status : StatusCode) (body : ErrorBody)
  deriving DecidableEq

def Response.isSuccess : Response → Bool
  | .ok | .config _ => true
  | .error _ _ => false

/-- The file is saved, also where the running state could not be updated after that. -/
def Response.saved : Response → Bool
  | .error _ (.runtimeUpdateFailed _) => true
  | response => response.isSuccess

structure WebuiState where
  configStore : ConfigStore
  backendState : BackendState
  cliMode : CliMode

def ProfileQuery.resolve (q : ProfileQuery) (cliMode : CliMode) : Except String CliMode :=
  match q.profile with
  | none | some "" => .ok cliMode
  | some "claude" => .ok .claude
  | some "copilot" => .ok .copilot
  | some other => .error ("Invalid profile '" ++ other ++ "'. Must be 'claude' or 'copilot'.")

/-! ### Conversions -/

def backendToDto (b : Backend) : BackendDto where
  name := b.name
  displayName := b.displayName
  baseUrl := b.baseUrl
  authType := b.authTypeStr
  apiKeySet := b.apiKey.any fun key => !key.isEmpty
  thinkingCompat := b.thinkingCompat
  thinkingBudgetTokens := b.thinkingBudgetTokens
  modelOpus := b.modelOpus
  modelOpusMaxEffort := b.modelOpusMaxEffort
  modelSonnet := b.modelSonnet
  modelSonnetMaxEffort := b.modelSonnetMaxEffort
  modelHaiku := b.modelHaiku
  modelHaikuMaxEffort := b.modelHaikuMaxEffort
  pricing := b.pricing
  modelsPath := b.modelsPath
  wireApi := b.wireApi
  stripRequestPrefix := b.stripRequestPrefix

def profileToDto (profile : Profile) (key : String) : ConfigDto where
  defaults := profile.defaults
  backends := profile.backends.map backendToDto
  agents := profile.agents
  profile := some key

def dtoToBackend (dto : BackendDto) (existingKey : Option String) : Backend where
  name := dto.name
  displayName := dto.displayName
  baseUrl := dto.baseUrl
  authTypeStr := dto.authType
  apiKey :=
    match dto.apiKeyInput with
    | some key => if key.isEmpty then none else some key
    | none => existingKey
  thinkingCompat := dto.thinkingCompat
  thinkingBudgetTokens := dto.thinkingBudgetTokens
  modelOpus := dto.modelOpus
  modelOpusMaxEffort := dto.modelOpusMaxEffort
  modelSonnet := dto.modelSonnet
  modelSonnetMaxEffort := dto.modelSonnetMaxEffort
  modelHaiku := dto.modelHaiku
  modelHaikuMaxEffort := dto.modelHaikuMaxEffort
  pricing := dto.pricing
  modelsPath := dto.modelsPath
  wireApi := dto.wireApi
  stripRequestPrefix := dto.stripRequestPrefix

/-- An active name that no backend has gives way to the first backend. -/
def selfHealActive (profile : Profile) : Profile :=
  match profile.backends with
  | [] => profile
  | first :: _ =>
    if profile.hasBackend profile.defaults.active then profile
    else { profile with defaults := { profile.defaults with active := first.name } }

/-! ### The handlers -/

/-- The common part of the handlers' ends: the file is saved and, if that succeeds, reloaded. -/
def WebuiState.persist (toml : Toml) (fault : Option Fault) (state : WebuiState) (config : RootConfig) :
    Except ConfigError Unit × WebuiState :=
  match saveConfig toml fault state.configStore.file config with
  | (.error e, file) => (.error e, { state with configStore := { state.configStore with file := file } })
  | (.ok _, file) =>
    (.ok (), { state with configStore := ({ state.configStore with file := file } : ConfigStore).reload toml fault })

/-- What `put_config` and `post_copy_backend` do with the configuration they have built. -/
def WebuiState.adopt (toml : Toml) (fault : Option Fault) (state : WebuiState) (target : CliMode)
    (newConfig : RootConfig) : Response × WebuiState :=
  match newConfig.validateFor target with
  | .error e => (.error .badRequest (.config e), state)
  | .ok _ =>
    match state.persist toml fault newConfig with
    | (.error e, torn) => (.error .internalServerError (.config e), torn)
    | (.ok _, saved) =>
      let response := Response.config (profileToDto (newConfig.profile target) target.profileKey)
      if target = state.cliMode then
        match saved.backendState.updateConfig (newConfig.profile target).toCliProfile with
        | .error e => (.error .internalServerError (.runtimeUpdateFailed e), saved)
        | .ok updated => (response, { saved with backendState := updated })
      else (response, saved)

/-- The stored key of each backend that the payload names, and the payload for the rest. -/
def putProfile (existing : Profile) (dto : ConfigDto) : Profile :=
  selfHealActive { existing with
    defaults := dto.defaults
    backends := dto.backends.map fun d =>
      dtoToBackend d ((existing.backends.find? fun b => b.name == d.name).bind Backend.apiKey)
    agents := dto.agents }

def putConfig (toml : Toml) (fault : Option Fault) (state : WebuiState) (q : ProfileQuery) (dto : ConfigDto) :
    Response × WebuiState :=
  match q.resolve state.cliMode with
  | .error e => (.error .badRequest (.text e), state)
  | .ok target =>
    let existing := state.configStore.inner
    state.adopt toml fault target (existing.setProfile target (putProfile (existing.profile target) dto))

def activateProfile (existing : Profile) (name : String) : Profile :=
  { existing with defaults := { existing.defaults with active := name } }

/-- The second half of `post_active_backend`: the name is looked up in the store and saved there. -/
def WebuiState.activate (toml : Toml) (fault : Option Fault) (state : WebuiState) (target : CliMode) (name : String) :
    Response × WebuiState :=
  let existing := state.configStore.inner
  if !(existing.profile target).hasBackend name then
    (.error .badRequest (.text ("Backend '" ++ name ++ "' not found in " ++ target.profileKey ++ " profile")), state)
  else
    match state.persist toml fault (existing.setProfile target (activateProfile (existing.profile target) name)) with
    | (.error e, torn) => (.error .internalServerError (.config e), torn)
    | (.ok _, saved) => (.ok, saved)

/-- The running instance is switched first, whatever becomes of the save. -/
def postActiveBackend (toml : Toml) (fault : Option Fault) (state : WebuiState) (q : ProfileQuery)
    (req : ActiveBackendRequest) : Response × WebuiState :=
  match q.resolve state.cliMode with
  | .error e => (.error .badRequest (.text e), state)
  | .ok target =>
    if target = state.cliMode then
      match state.backendState.switchBackend req.name with
      | .error e => (.error .badRequest (.backend e), state)
      | .ok running => { state with backendState := running }.activate toml fault target req.name
    else state.activate toml fault target req.name

def trimmed (s : String) : String := String.ofList (trim s.toList)

def copyOf (source : Backend) (req : CopyBackendRequest) : Backend :=
  { source with
    name := trimmed req.newName
    displayName := ((req.newDisplayName.map trimmed).filter fun s => !s.isEmpty).getD source.displayName }

def copyProfile (existing : Profile) (copied : Backend) : Profile :=
  selfHealActive { existing with backends := existing.backends ++ [copied] }

def CopyBackendRequest.targetMode (req : CopyBackendRequest) : Except String CliMode :=
  match req.targetProfile with
  | "claude" => .ok .claude
  | "copilot" => .ok .copilot
  | other => .error ("Invalid target_profile '" ++ other ++ "'. Must be 'claude' or 'copilot'.")

/-- The checks of `post_copy_backend` in their order, and the backend to append. -/
def copyRequest (existing : RootConfig) (cliMode : CliMode) (q : ProfileQuery) (name : String)
    (req : CopyBackendRequest) : Except (StatusCode × String) (CliMode × Backend) :=
  match q.resolve cliMode with
  | .error e => .error (.badRequest, e)
  | .ok sourceMode =>
    match req.targetMode with
    | .error e => .error (.badRequest, e)
    | .ok targetMode =>
      if (trimmed req.newName).isEmpty then .error (.badRequest, "new_name must not be empty")
      else
        match (existing.profile sourceMode).backends.find? fun b => b.name == name with
        | none =>
          .error (.notFound, "Backend '" ++ name ++ "' not found in " ++ sourceMode.profileKey ++ " profile")
        | some source =>
          if (existing.profile targetMode).hasBackend (trimmed req.newName) then
            .error (.conflict,
              "Backend '" ++ trimmed req.newName ++ "' already exists in " ++ targetMode.profileKey ++ " profile")
          else .ok (targetMode, copyOf source req)

def postCopyBackend (toml : Toml) (fault : Option Fault) (state : WebuiState) (q : ProfileQuery) (name : String)
    (req : CopyBackendRequest) : Response × WebuiState :=
  let existing := state.configStore.inner
  match copyRequest existing state.cliMode q name req with
  | .error (status, message) => (.error status (.text message), state)
  | .ok (target, copied) =>
    state.adopt toml fault target (existing.setProfile target (copyProfile (existing.profile target) copied))

end Anycode.Webui
