import Anycode.Data.Run
import Anycode.Proxy.Models
import Mathlib.Data.List.Induction

/-!
# The cache of model lists

Switches, reloads and requests in any order, with fetches that end at any later time. A switch
clears the cache; a reload does not.
-/

namespace Anycode.Proxy
open Config Data

/-- An entry, with the backend that it was fetched for. -/
structure Cached where
  entry : CacheEntry
  via : Backend

structure ModelServer where
  backendState : BackendState
  cache : Assoc CacheKey Cached := []
  /-- The fetches in flight, each with the backend that its request has read. -/
  fetches : List Backend := []
  now : Nat := 0

def getCached (cache : Assoc CacheKey Cached) (now : Nat) (key : CacheKey) : Option Cached :=
  (cache.find key).filter fun cached => now - cached.entry.fetchedAt < cacheTtl

structure ModelsResponse where
  contentType : List Char
  modelsSource : String
  modelsAgeSecs : Nat
  body : List UInt8

def buildResponse (entry : CacheEntry) (now : Nat) : ModelsResponse :=
  ⟨entry.contentType, entry.resolvedPath, (now - entry.fetchedAt) / 1000000000, entry.body⟩

/-- What a request comes to before it waits for an upstream. -/
inductive Outcome where
  | noActiveBackend (error : BackendError)
  | missingApiKey (backend : String)
  | served (cached : Cached) (response : ModelsResponse)
  | fetching (backend : Backend)

def handleListModels (s : ModelServer) : Outcome :=
  match s.backendState.getActiveBackendConfig with
  | .error e => .noActiveBackend e
  | .ok backend =>
    if !backend.isConfigured then .missingApiKey backend.name
    else
      match getCached s.cache s.now (cacheKey backend) with
      | some cached => .served cached (buildResponse cached.entry s.now)
      | none => .fetching backend

inductive Action where
  | switchBackend (id : String)
  | updateConfig (newConfig : CliProfile)
  | listModels
  /-- A fetch ends with the answers of its upstream. -/
  | fetched (i : Nat) (client : Client)
  /-- The client of a request is gone. -/
  | dropped (i : Nat)
  | wait (nanos : Nat)

def step (s : ModelServer) : Action → ModelServer
  | .switchBackend id =>
    match s.backendState.switchBackend id with
    | .error _ => s
    | .ok switched =>
      if s.backendState.activeBackend = id then { s with backendState := switched }
      else { s with backendState := switched, cache := [] }
  | .updateConfig newConfig =>
    match s.backendState.updateConfig newConfig with
    | .error _ => s
    | .ok updated => { s with backendState := updated }
  | .listModels =>
    match handleListModels s with
    | .fetching backend => { s with fetches := s.fetches ++ [backend] }
    | _ => s
  | .fetched i client =>
    match s.fetches[i]? with
    | none => s
    | some backend =>
      match fetchModels client backend s.now with
      | .error _ => { s with fetches := s.fetches.eraseIdx i }
      | .ok entry =>
        { s with
          fetches := s.fetches.eraseIdx i
          cache := s.cache.upsert (cacheKey backend) fun _ => ⟨entry, backend⟩ }
  | .dropped i => { s with fetches := s.fetches.eraseIdx i }
  | .wait nanos => { s with now := s.now + nanos }

def start (running : BackendState) : ModelServer := { backendState := running }

/-- A list served now from the cache was fetched with the settings of the active backend. -/
def ServedCoherent (s : ModelServer) : Prop :=
  ∀ cached response, handleListModels s = .served cached response →
    ∃ active, s.backendState.getActiveBackendConfig = .ok active ∧ SameUpstream cached.via active

/-! ### The condition -/

def Answers (running : BackendState) (active : Backend) : Prop :=
  running.getActiveBackendConfig = .ok active ∧ active.isConfigured = true

/-- A switch to another backend that is configured. -/
def Switches (s : ModelServer) : Action → Prop
  | .switchBackend id => s.backendState.config.hasBackend id = true ∧ s.backendState.activeBackend ≠ id
  | _ => False

/-- A fetch that ends with the list of a backend. -/
def Fetches (backend : Backend) (entry : CacheEntry) (s : ModelServer) : Action → Prop
  | .fetched i client => s.fetches[i]? = some backend ∧ fetchModels client backend s.now = .ok entry
  | _ => False

/-- Nothing that drops or replaces a list of this name and base URL. -/
def Leaves (key : CacheKey) (s : ModelServer) (action : Action) : Prop :=
  ¬ Switches s action ∧ ∀ other entry, Fetches other entry s action → cacheKey other ≠ key

/-- For half an hour after a fetch, until the next switch or the next fetch under its name and base
URL, an active backend of this name and base URL has the settings that the fetch was begun with. -/
def Steady (running : BackendState) (actions : List Action) : Prop :=
  ∀ before fetch during after backend entry active, actions = before ++ fetch :: during ++ after →
    Fetches backend entry (run step (start running) before) fetch →
    Along step (Leaves (cacheKey backend)) (run step (start running) (before ++ [fetch])) during →
    (run step (start running) (before ++ fetch :: during)).now < (run step (start running) before).now + cacheTtl →
    Answers (run step (start running) (before ++ fetch :: during)).backendState active →
    cacheKey active = cacheKey backend → SameUpstream backend active

theorem handleListModels_served_iff {s : ModelServer} {cached : Cached} :
    (∃ response, handleListModels s = .served cached response) ↔
      ∃ active, Answers s.backendState active ∧ getCached s.cache s.now (cacheKey active) = some cached := by
  unfold handleListModels Answers
  cases found : s.backendState.getActiveBackendConfig with
  | error e => simp
  | ok active =>
    cases configured : active.isConfigured with
    | false => simp [configured]
    | true =>
      cases hit : getCached s.cache s.now (cacheKey active) with
      | none => simp [configured, hit]
      | some other => simp [configured, hit]

theorem servedCoherent_iff {s : ModelServer} :
    ServedCoherent s ↔ ∀ active cached, Answers s.backendState active →
      getCached s.cache s.now (cacheKey active) = some cached → SameUpstream cached.via active := by
  constructor
  · intro coherent active cached answers hit
    obtain ⟨response, served⟩ := handleListModels_served_iff.mpr ⟨active, answers, hit⟩
    obtain ⟨other, found, same⟩ := coherent cached response served
    cases found.symm.trans answers.1
    exact same
  · intro coherent cached response served
    obtain ⟨active, answers, hit⟩ := handleListModels_served_iff.mp ⟨response, served⟩
    exact ⟨active, answers.1, coherent active cached answers hit⟩

/-! ### One step -/

variable {s : ModelServer} {action : Action} {key : CacheKey} {cached : Cached}

theorem getCached_eq_some {cache : Assoc CacheKey Cached} {now : Nat} :
    getCached cache now key = some cached ↔ cache.find key = some cached ∧ now < cached.entry.fetchedAt + cacheTtl := by
  have ttl : 0 < cacheTtl := by decide
  rw [getCached, Option.filter_eq_some_iff, decide_eq_true_iff]
  exact and_congr_right fun _ => by omega

theorem switchBackend_cache (s : ModelServer) (id : String) :
    (step s (.switchBackend id)).cache = s.cache ∧ ¬ Switches s (.switchBackend id) ∨
      (step s (.switchBackend id)).cache = [] ∧ Switches s (.switchBackend id) := by
  unfold step Switches
  dsimp only
  cases done : s.backendState.switchBackend id with
  | error failure =>
    obtain ⟨unlisted, _⟩ := BackendState.switchBackend_error done
    exact .inl ⟨rfl, fun switches => by simp [unlisted] at switches⟩
  | ok switched =>
    obtain ⟨listed, _⟩ := BackendState.switchBackend_ok done
    by_cases same : s.backendState.activeBackend = id
    · simp [same]
    · simp [same, listed]

theorem fetched_cache (s : ModelServer) (i : Nat) (client : Client) :
    (step s (.fetched i client)).cache = s.cache ∧ (∀ backend entry, ¬ Fetches backend entry s (.fetched i client)) ∨
      ∃ backend entry, Fetches backend entry s (.fetched i client) ∧
        (step s (.fetched i client)).cache = s.cache.upsert (cacheKey backend) fun _ => ⟨entry, backend⟩ := by
  unfold step Fetches
  dsimp only
  cases inFlight : s.fetches[i]? with
  | none => exact .inl ⟨rfl, fun _ _ fetches => nomatch fetches.1⟩
  | some backend =>
    dsimp only
    cases result : fetchModels client backend s.now with
    | error e =>
      refine .inl ⟨rfl, fun other entry fetches => ?_⟩
      cases fetches.1
      cases result.symm.trans fetches.2
    | ok entry => exact .inr ⟨backend, entry, ⟨rfl, result⟩, rfl⟩

/-- What a step does to the list of a name and base URL. -/
theorem step_find (s : ModelServer) (action : Action) (key : CacheKey) :
    (step s action).cache.find key = s.cache.find key ∧ Leaves key s action ∨
      (step s action).cache.find key = none ∧ Switches s action ∨
      ∃ backend entry, Fetches backend entry s action ∧ cacheKey backend = key ∧
        (step s action).cache.find key = some ⟨entry, backend⟩ := by
  cases action with
  | switchBackend id =>
    rcases switchBackend_cache s id with ⟨kept, stays⟩ | ⟨cleared, switches⟩
    · exact .inl ⟨by rw [kept], stays, fun _ _ fetches => fetches.elim⟩
    · exact .inr (.inl ⟨by rw [cleared]; rfl, switches⟩)
  | fetched i client =>
    rcases fetched_cache s i client with ⟨kept, failed⟩ | ⟨backend, entry, fetches, inserted⟩
    · exact .inl ⟨by rw [kept], id, fun other entry fetches => absurd fetches (failed other entry)⟩
    · by_cases same : cacheKey backend = key
      · exact .inr (.inr ⟨backend, entry, fetches, same, by rw [inserted, Assoc.find_upsert, if_pos same.symm]⟩)
      · refine .inl ⟨by rw [inserted, Assoc.find_upsert, if_neg (Ne.symm same)], id, fun other _ others => ?_⟩
        cases fetches.1.symm.trans others.1
        exact same
  | updateConfig newConfig =>
    refine .inl ⟨?_, id, fun _ _ fetches => fetches.elim⟩
    unfold step
    dsimp only
    split <;> rfl
  | listModels =>
    refine .inl ⟨?_, id, fun _ _ fetches => fetches.elim⟩
    unfold step
    dsimp only
    split <;> rfl
  | dropped i => exact .inl ⟨rfl, id, fun _ _ fetches => fetches.elim⟩
  | wait nanos => exact .inl ⟨rfl, id, fun _ _ fetches => fetches.elim⟩

theorem step_leaves (leaves : Leaves key s action) : (step s action).cache.find key = s.cache.find key := by
  rcases step_find s action key with ⟨kept, _⟩ | ⟨_, switches⟩ | ⟨backend, entry, fetches, same, _⟩
  · exact kept
  · exact absurd switches leaves.1
  · exact absurd same (leaves.2 backend entry fetches)

theorem fetches_inj {backend other : Backend} {entry result : CacheEntry} (fetches : Fetches backend entry s action)
    (again : Fetches other result s action) : other = backend ∧ result = entry := by
  cases action with
  | fetched i client =>
    cases fetches.1.symm.trans again.1
    cases fetches.2.symm.trans again.2
    exact ⟨rfl, rfl⟩
  | _ => exact fetches.elim

theorem fetches_now {backend : Backend} {entry : CacheEntry} (fetches : Fetches backend entry s action) :
    entry.fetchedAt = s.now := by
  cases action with
  | fetched i client => exact (fetchModels_ok fetches.2).1
  | _ => exact fetches.elim

theorem step_fetches {backend : Backend} {entry : CacheEntry} (fetches : Fetches backend entry s action) :
    (step s action).cache.find (cacheKey backend) = some ⟨entry, backend⟩ := by
  rcases step_find s action (cacheKey backend) with ⟨_, leaves⟩ | ⟨_, switches⟩ | ⟨other, result, again, _, put⟩
  · exact absurd rfl (leaves.2 backend entry fetches)
  · cases action with
    | switchBackend id => exact fetches.elim
    | _ => exact switches.elim
  · obtain ⟨rfl, rfl⟩ := fetches_inj fetches again
    exact put

/-! ### Runs -/

theorem run_leaves {actions : List Action} (leaves : Along step (Leaves key) s actions) :
    (run step s actions).cache.find key = s.cache.find key :=
  run_invariant (I := fun t => t.cache.find key = s.cache.find key)
    (fun _ _ kept leaves => (step_leaves leaves).trans kept) rfl leaves

/-- A list is in the cache exactly when a fetch has put it there and nothing has dropped or replaced
it since. -/
theorem run_find_iff (running : BackendState) (actions : List Action) :
    (run step (start running) actions).cache.find key = some cached ↔
      ∃ before fetch during, actions = before ++ fetch :: during ∧
        Fetches cached.via cached.entry (run step (start running) before) fetch ∧ cacheKey cached.via = key ∧
        Along step (Leaves key) (run step (start running) (before ++ [fetch])) during := by
  constructor
  · intro found
    induction actions using List.reverseRecOn with
    | nil => cases found
    | append_singleton earlier action ih =>
      rw [run_append, run_cons, run_nil] at found
      rcases step_find (run step (start running) earlier) action key with
        ⟨kept, leaves⟩ | ⟨dropped, _⟩ | ⟨backend, entry, fetches, same, put⟩
      · obtain ⟨before, fetch, during, rfl, fetches, same, untouched⟩ := ih (kept.symm.trans found)
        refine ⟨before, fetch, during ++ [action], by rw [List.append_assoc]; rfl, fetches, same, ?_⟩
        rw [along_append, ← run_append, List.append_assoc]
        exact ⟨untouched, leaves, trivial⟩
      · cases dropped.symm.trans found
      · cases put.symm.trans found
        exact ⟨earlier, action, [], rfl, fetches, same, trivial⟩
  · rintro ⟨before, fetch, during, rfl, fetches, rfl, untouched⟩
    rw [List.append_cons, run_append, run_leaves untouched, run_append]
    exact step_fetches fetches

/-! ### Configurations that agree -/

/-- The configurations of a run, the first one and those that are loaded. -/
def configs (running : BackendState) (actions : List Action) : List CliProfile :=
  running.config :: actions.filterMap fun
    | .updateConfig newConfig => some newConfig
    | _ => none

/-- All configurations have the same settings under the same name and base URL. -/
def Settled (running : BackendState) (actions : List Action) : Prop :=
  ∀ config ∈ configs running actions, ∀ other ∈ configs running actions,
    ∀ backend ∈ config.backends, ∀ active ∈ other.backends, cacheKey active = cacheKey backend → SameUpstream backend active

/-- The backends of a state are those of the configurations. -/
structure Known (known : List CliProfile) (s : ModelServer) : Prop where
  config : s.backendState.config ∈ known
  fetches : ∀ backend ∈ s.fetches, ∃ config ∈ known, backend ∈ config.backends

theorem handleListModels_fetching {backend : Backend} (asks : handleListModels s = .fetching backend) :
    backend ∈ s.backendState.config.backends := by
  unfold handleListModels at asks
  cases found : s.backendState.getActiveBackendConfig with
  | error e =>
    rw [found] at asks
    cases asks
  | ok active =>
    rw [found] at asks
    dsimp only at asks
    split at asks
    · cases asks
    · split at asks
      · cases asks
      · cases asks
        exact BackendState.mem_of_getActiveBackendConfig found

theorem step_known {known : List CliProfile} (held : Known known s)
    (loads : ∀ newConfig, action = .updateConfig newConfig → newConfig ∈ known) : Known known (step s action) := by
  obtain ⟨config, fetches⟩ := held
  have fewer (i : Nat) : ∀ backend ∈ s.fetches.eraseIdx i, ∃ config ∈ known, backend ∈ config.backends :=
    fun backend member => fetches backend (List.mem_of_mem_eraseIdx member)
  unfold step
  cases action with
  | switchBackend id =>
    dsimp only
    split
    · exact ⟨config, fetches⟩
    · rename_i switched done
      obtain ⟨_, _, kept, _⟩ := BackendState.switchBackend_ok done
      have same : switched.config ∈ known := kept ▸ config
      split <;> exact ⟨same, fetches⟩
  | updateConfig newConfig =>
    dsimp only
    split
    · exact ⟨config, fetches⟩
    · rename_i updated done
      exact ⟨(BackendState.updateConfig_ok done).2 ▸ loads newConfig rfl, fetches⟩
  | listModels =>
    dsimp only
    split
    · rename_i backend asks
      refine ⟨config, List.forall_mem_append.mpr ⟨fetches, List.forall_mem_singleton.mpr ?_⟩⟩
      exact ⟨s.backendState.config, config, handleListModels_fetching asks⟩
    · exact ⟨config, fetches⟩
  | fetched i client =>
    dsimp only
    split
    · exact ⟨config, fetches⟩
    · split
      · exact ⟨config, fewer i⟩
      · exact ⟨config, fewer i⟩
  | dropped i => exact ⟨config, fewer i⟩
  | wait nanos => exact ⟨config, fetches⟩

theorem run_known (running : BackendState) {actions later : List Action} (inside : actions <+: later) :
    Known (configs running later) (run step (start running) actions) := by
  refine run_invariant (G := fun _ action => action ∈ later) (fun s action held member => ?_)
    ⟨List.mem_cons_self, fun _ none => absurd none List.not_mem_nil⟩ (along_iff.mpr fun before action after split => ?_)
  · refine step_known held fun newConfig loads => List.mem_cons_of_mem _ (List.mem_filterMap.mpr ⟨action, member, ?_⟩)
    rw [loads]
  · exact inside.subset (split ▸ List.mem_append_right _ List.mem_cons_self)

/-- The condition holds of every run whose configurations agree, whenever its fetches end. -/
theorem steady_of_settled {running : BackendState} {actions : List Action} (settled : Settled running actions) :
    Steady running actions := by
  intro before fetch during after backend entry active split fetches _ _ answers same
  have first : before <+: actions := ⟨fetch :: during ++ after, by rw [split, List.append_assoc]⟩
  have last : before ++ fetch :: during <+: actions := ⟨after, split.symm⟩
  have listed : backend ∈ (run step (start running) before).fetches := by
    cases fetch with
    | fetched i client => exact List.mem_of_getElem? fetches.1
    | _ => exact fetches.elim
  obtain ⟨config, known, member⟩ := (run_known running first).fetches backend listed
  exact settled config known _ (run_known running last).config backend member active
    (BackendState.mem_of_getActiveBackendConfig answers.1) same

/-! ### What is served -/

/-- Every list served from the cache is that of the active backend's settings exactly when the
settings of each list that was fetched stay while the list is fresh; so they do where all
configurations agree on them. -/
theorem served_coherent_iff (running : BackendState) (actions : List Action) :
    (Throughout step ServedCoherent (start running) actions ↔ Steady running actions) ∧
      (Settled running actions → Steady running actions) := by
  refine ⟨?_, steady_of_settled⟩
  rw [throughout_iff]
  constructor
  · intro coherent before fetch during after backend entry active split fetches untouched young answers same
    have found : (run step (start running) (before ++ fetch :: during)).cache.find (cacheKey backend) = some ⟨entry, backend⟩ :=
      (run_find_iff running _).mpr ⟨before, fetch, during, rfl, fetches, rfl, untouched⟩
    have hit : getCached (run step (start running) (before ++ fetch :: during)).cache
        (run step (start running) (before ++ fetch :: during)).now (cacheKey active) = some ⟨entry, backend⟩ := by
      rw [same, getCached_eq_some, fetches_now fetches]
      exact ⟨found, young⟩
    exact servedCoherent_iff.mp (coherent _ after split) active _ answers hit
  · intro steady earlier after split
    refine servedCoherent_iff.mpr fun active cached answers hit => ?_
    obtain ⟨found, young⟩ := getCached_eq_some.mp hit
    obtain ⟨before, fetch, during, rfl, fetches, same, untouched⟩ := (run_find_iff running _).mp found
    rw [fetches_now fetches] at young
    rw [← same] at untouched
    exact steady before fetch during after _ _ active split fetches untouched young answers same.symm

/-! ### A new key -/

def deepseek (key : String) : Backend :=
  { name := "deepseek", baseUrl := "https://api.deepseek.com", authTypeStr := "bearer", apiKey := some key }

def configOf (key : String) : CliProfile := ⟨"deepseek", [deepseek key]⟩

/-- The list is fetched, and the configuration is loaded again as it was. -/
theorem same_key_steady :
    Steady ⟨"deepseek", configOf "sk-old", []⟩
      [.listModels, .fetched 0 (.ok fun _ => .answered 200 none (.ok [])), .updateConfig (configOf "sk-old"), .listModels] := by
  refine (served_coherent_iff _ _).2 fun config first other second backend listed active present _ => ?_
  have same : ∀ config ∈ [configOf "sk-old", configOf "sk-old"], ∀ backend ∈ config.backends, backend = deepseek "sk-old" := by
    decide
  rw [same config first backend listed, same other second active present]
  exact ⟨rfl, rfl, rfl, rfl⟩

/-- The upstream lists the models that the key may use. -/
def keyedUpstream (request : ProbeRequest) : ProbeAnswer :=
  if request.auth = some ("Authorization", "Bearer sk-old".toList) then
    .answered 200 (some "application/json".toList) (.ok (utf8 "[]".toList))
  else .answered 403 none (.ok [])

/-- The list that was fetched with the old key is served when the key is replaced. -/
theorem replaced_key_serves_old_list :
    ¬ ∀ running actions, Throughout step ServedCoherent (start running) actions := by
  intro coherent
  obtain ⟨_, _, _, reloaded⟩ := coherent ⟨"deepseek", configOf "sk-old", []⟩
    [.listModels, .fetched 0 (.ok keyedUpstream), .updateConfig (configOf "sk-new")]
  have same := servedCoherent_iff.mp reloaded (deepseek "sk-new")
    ⟨⟨utf8 "[]".toList, "application/json".toList, 0, "/v1/models"⟩, deepseek "sk-old"⟩ ⟨rfl, rfl⟩ rfl
  exact absurd same.apiKey (by decide)

end Anycode.Proxy
