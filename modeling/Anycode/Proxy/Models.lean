import Anycode.Backend.State
import Anycode.Config.Credentials
import Anycode.Data.Assoc
import Anycode.Data.Utf8

/-!
# The model list

`GET /v1/models` (`proxy/models.rs`): the list of the active backend, probed at its upstream and
cached for half an hour.
-/

namespace Anycode.Proxy
open Config Data

/-- Times are in nanoseconds. -/
structure CacheEntry where
  body : List UInt8
  contentType : List Char
  fetchedAt : Nat
  resolvedPath : String

/-- `(backend.name, backend.base_url)` -/
abbrev CacheKey := String × String

def cacheKey (backend : Backend) : CacheKey := (backend.name, backend.baseUrl)

def cacheTtl : Nat := 30 * 60 * 1000000000

def probePaths : List String := ["/v1/models", "/models"]

structure ProbeRequest where
  url : List Char
  auth : Option (String × List Char)

inductive ProbeAnswer where
  | failed (error : String)
  | answered (status : Nat) (contentType : Option (List Char)) (body : Except String (List UInt8))

/-- The upstreams, if a client for them can be built. -/
abbrev Client := Except String (ProbeRequest → ProbeAnswer)

/-! ### Fetching -/

def trimEndSlashes (url : List Char) : List Char := (url.reverse.dropWhile fun c => c == '/').reverse

def probeRequest (backend : Backend) (path : String) : ProbeRequest :=
  ⟨trimEndSlashes backend.baseUrl.toList ++ path.toList, buildAuthHeader backend⟩

def candidatePaths (backend : Backend) : List String :=
  match backend.modelsPath with
  | some configured => [configured]
  | none => probePaths

/-- A path that cannot be reached or is not found gives way to the next one. -/
def probe (upstream : ProbeRequest → ProbeAnswer) (backend : Backend) (now : Nat) (lastStatus : Option (Nat × String)) :
    List String → Except (Nat × String) CacheEntry
  | [] => .error (lastStatus.getD (502, "no models endpoint responded"))
  | path :: rest =>
    match upstream (probeRequest backend path) with
    | .failed e => probe upstream backend now (some (502, "upstream error for " ++ path ++ ": " ++ e)) rest
    | .answered status contentType body =>
      if status = 404 then probe upstream backend now (some (404, "no models endpoint at " ++ path)) rest
      else
        match body with
        | .error e => .error (502, "failed to read body from " ++ path ++ ": " ++ e)
        | .ok bytes =>
          if 200 ≤ status ∧ status < 300 then
            .ok ⟨bytes, contentType.getD "application/json".toList, now, path⟩
          else .error (status, String.ofList (fromUtf8Lossy bytes))

def fetchModels (client : Client) (backend : Backend) (now : Nat) : Except (Nat × String) CacheEntry :=
  match client with
  | .error e => .error (500, "http client init failed: " ++ e)
  | .ok upstream => probe upstream backend now none (candidatePaths backend)

/-- The backends ask the same of the same upstream. -/
structure SameUpstream (used active : Backend) : Prop where
  baseUrl : used.baseUrl = active.baseUrl
  modelsPath : used.modelsPath = active.modelsPath
  authType : used.authType = active.authType
  apiKey : used.apiKey = active.apiKey

theorem SameUpstream.refl (backend : Backend) : SameUpstream backend backend := ⟨rfl, rfl, rfl, rfl⟩

theorem SameUpstream.probeRequest {used active : Backend} (same : SameUpstream used active) (path : String) :
    probeRequest used path = probeRequest active path := by
  simp only [Proxy.probeRequest, buildAuthHeader, Backend.resolveCredential, same.baseUrl, same.authType, same.apiKey]

/-- The list depends on the backend through these four settings only. -/
theorem SameUpstream.fetchModels {used active : Backend} (same : SameUpstream used active) (client : Client) (now : Nat) :
    fetchModels client used now = fetchModels client active now := by
  have probes : ∀ upstream paths last, probe upstream used now last paths = probe upstream active now last paths := by
    intro upstream paths
    induction paths with
    | nil => intro last; rfl
    | cons path rest ih =>
      intro last
      simp only [probe, same.probeRequest, ih]
  cases client with
  | error e => rfl
  | ok upstream => simp only [Proxy.fetchModels, candidatePaths, same.modelsPath, probes]

/-- A list comes from one of the backend's own paths, asked with its own credentials. -/
theorem fetchModels_ok {client : Client} {backend : Backend} {now : Nat} {entry : CacheEntry}
    (fetched : fetchModels client backend now = .ok entry) :
    entry.fetchedAt = now ∧ entry.resolvedPath ∈ candidatePaths backend ∧
      ∃ upstream status contentType, client = .ok upstream ∧ 200 ≤ status ∧ status < 300 ∧
        upstream (probeRequest backend entry.resolvedPath) = .answered status contentType (.ok entry.body) := by
  cases client with
  | error e => cases fetched
  | ok upstream =>
    unfold fetchModels at fetched
    dsimp only at fetched
    generalize (none : Option (Nat × String)) = last at fetched
    generalize candidatePaths backend = paths at fetched ⊢
    induction paths generalizing last with
    | nil => cases fetched
    | cons path rest ih =>
      have later {last : Option (Nat × String)} (found : probe upstream backend now last rest = .ok entry) :=
        (ih last found).imp_right (And.imp_left (List.mem_cons_of_mem path))
      unfold probe at fetched
      split at fetched
      · exact later fetched
      · rename_i status contentType body answered
        split at fetched
        · exact later fetched
        · split at fetched
          · cases fetched
          · rename_i bytes
            split at fetched
            · rename_i success
              cases fetched
              exact ⟨rfl, List.mem_cons_self, upstream, status, contentType, rfl, success.1, success.2, answered⟩
            · cases fetched

end Anycode.Proxy
