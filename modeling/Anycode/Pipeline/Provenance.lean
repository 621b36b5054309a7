import Anycode.Backend.State
import Anycode.Pipeline.FastPath

/-!
# Provenance across configuration changes

Main-pipeline requests, backend switches and configuration updates, one after the other. The
proxy's state remembers, next to the backend state and the registry, which upstream each block
was registered from and which one the last request went to: history that no step reads.
-/

namespace Anycode.Pipeline
open Data Config Thinking

structure Registration where
  content : String
  backend : String
  baseUrl : String
  deriving DecidableEq

structure Proxy (H : Type) where
  backends : BackendState
  registry : ThinkingRegistry H := .new
  registrations : List Registration := []
  /-- The base URL of the last forwarded request. -/
  upstream : String := ""

/-- A request of the main route with the response it gets. `target` is the backend id of an
override, an affinity or a marker model; without one the active backend is used. -/
structure MainRequest where
  target : Option String
  bodyBytes : List UInt8
  isJson : Bool
  now : Nat
  reply : Option (Reply × Nat)

inductive Action where
  | switchBackend (backendId : String)
  | updateConfig (newConfig : CliProfile)
  | request (req : MainRequest)

/-- Stage 1: the body is parsed only under a JSON content type. -/
def MainRequest.parsedBody (req : MainRequest) (serde : Serde) : Option Json :=
  if req.isJson then serde.fromSlice req.bodyBytes else none

/-- Stage 2, with the priority between the sources of an id left to `target`. -/
def resolveBackend (state : BackendState) (target : Option String) : Except BackendError Backend :=
  state.getBackendConfig (target.getD state.activeBackend)

namespace Proxy
variable {H : Type} [DecidableEq H] (fastHash : String → H) (serde : Serde)

def forward (p : Proxy H) (backend : Backend) (req : MainRequest) :
    ThinkingSession × ThinkingRegistry H × Transformed :=
  let begun := p.registry.beginRequest backend.name
  (begun.2, transformBody fastHash serde req.bodyBytes (req.parsedBody serde) backend (some begun.2) begun.1 req.now)

def exchange (p : Proxy H) (backend : Backend) (req : MainRequest) : Proxy H :=
  let (session, registry, _) := p.forward fastHash serde backend req
  match req.reply with
  | none => { p with registry := registry, upstream := backend.baseUrl }
  | some (reply, later) =>
    { p with
      registry := session.register fastHash registry reply later
      registrations :=
        p.registrations ++ reply.contents.map fun content => ⟨content, backend.name, backend.baseUrl⟩
      upstream := backend.baseUrl }

def step (p : Proxy H) : Action → Proxy H
  | .switchBackend backendId =>
    match p.backends.switchBackend backendId with
    | .ok backends => { p with backends := backends }
    | .error _ => p
  | .updateConfig newConfig =>
    match p.backends.updateConfig newConfig with
    | .ok backends => { p with backends := backends }
    | .error _ => p
  | .request req =>
    match resolveBackend p.backends req.target with
    | .ok backend => p.exchange fastHash serde backend req
    | .error _ => p

/-- Every thinking block in the body that is forwarded was registered from a response of the
same backend at the same base URL. -/
def Traceable (p : Proxy H) : Action → Prop
  | .request req =>
    ∀ backend, resolveBackend p.backends req.target = .ok backend →
      ∀ body, req.parsedBody serde = some body →
        ∀ value, serde.fromSlice (p.forward fastHash serde backend req).2.2.bytes = some value →
          ∀ item ∈ thinkingItems value, ∃ content, extractThinkingContent item = some content ∧
            ⟨content, backend.name, backend.baseUrl⟩ ∈ p.registrations
  | _ => True

/-- Printing the transformed body of the request succeeds and parses back to it. -/
def Printable (p : Proxy H) : Action → Prop
  | .request req =>
    ∀ backend, resolveBackend p.backends req.target = .ok backend →
      ∀ body, req.parsedBody serde = some body →
        serde.RoundTrips (fullyTransformed fastHash backend (some (p.registry.beginRequest backend.name).2)
          (p.registry.beginRequest backend.name).1 body req.now)
  | _ => True

/-- The base URL of the backend whose session is current does not change while one of its
blocks is cached, and no removal goes unrecorded. -/
def Steady (p : Proxy H) : Action → Prop
  | .request req =>
    ∀ backend, resolveBackend p.backends req.target = .ok backend →
      (p.registry.currentBackend = backend.name →
        p.upstream = backend.baseUrl ∨ ∀ hash, p.registry.live hash = false) ∧
      ∀ body, req.parsedBody serde = some body →
        ¬ Unrecorded fastHash backend (some (p.registry.beginRequest backend.name).2)
          (p.registry.beginRequest backend.name).1 body
  | _ => True

/-! ### The invariant -/

/-- Every live block of the registry came from the backend at the URL, and no session is ahead
of the current one. -/
structure Traced (r : ThinkingRegistry H) (registrations : List Registration) (backend baseUrl : String) :
    Prop where
  bounded : ∀ hash info, r.blocks.get hash = some info → info.session ≤ r.currentSession
  traced : ∀ content, r.live (fastHash content) = true → ⟨content, backend, baseUrl⟩ ∈ registrations

omit [DecidableEq H] in
theorem traced_initial (registrations : List Registration) (backend baseUrl : String) :
    Traced fastHash (.new : ThinkingRegistry H) registrations backend baseUrl where
  bounded _ _ found := nomatch found
  traced _ live := nomatch live

omit [DecidableEq H] in
theorem traced_begin {r : ThinkingRegistry H} {registrations : List Registration} {upstream : String}
    {backend : Backend} (traced : Traced fastHash r registrations r.currentBackend upstream)
    (steady : r.currentBackend = backend.name → upstream = backend.baseUrl ∨ ∀ hash, r.live hash = false) :
    Traced fastHash (r.beginRequest backend.name).1 registrations backend.name backend.baseUrl := by
  obtain ⟨bounded, origin⟩ := traced
  by_cases same : r.currentBackend = backend.name
  · rw [ThinkingRegistry.beginRequest, ThinkingRegistry.onBackendSwitch_same same]
    refine ⟨bounded, fun content live => ?_⟩
    rcases steady same with url | bare
    · rw [← same, ← url]
      exact origin content live
    · rw [bare] at live
      cases live
  -- No entry is ahead of the old session, so none is of the new one.
  · have advanced := ThinkingRegistry.onBackendSwitch_other same
    have table := ThinkingRegistry.onBackendSwitch_blocks r backend.name
    refine ⟨fun hash info found => ?_, fun content live => ?_⟩
    · simp only [ThinkingRegistry.beginRequest, table, advanced] at found ⊢
      exact Nat.le_succ_of_le (bounded hash info found)
    · obtain ⟨info, found, current⟩ := ThinkingRegistry.live_eq_true.mp live
      simp only [ThinkingRegistry.beginRequest, table, advanced] at found current
      have below := bounded _ info found
      omega

theorem traced_transform {r : ThinkingRegistry H} {registrations : List Registration} {name baseUrl : String}
    (traced : Traced fastHash r registrations name baseUrl) (bodyBytes : List UInt8) (parsedBody : Option Json)
    (backend : Backend) (session : ThinkingSession) (now : Nat) :
    Traced fastHash (transformBody fastHash serde bodyBytes parsedBody backend (some session) r now).1
      registrations name baseUrl := by
  cases parsedBody with
  | none => exact traced
  | some body =>
    rw [transformBody_some]
    refine ⟨fun hash info found => ?_, fun content live => ?_⟩
    · simp only [registryAfter] at found ⊢
      rw [ThinkingRegistry.filterRequest_current fastHash found, ThinkingRegistry.filterRequest_session]
    · obtain ⟨info, found, current, _⟩ := (ThinkingRegistry.filterRequest_live_iff fastHash).mp live
      exact traced.traced content (ThinkingRegistry.live_eq_true.mpr ⟨info, found, current⟩)

theorem traced_register (injective : Function.Injective fastHash) {r : ThinkingRegistry H}
    {registrations : List Registration} {name baseUrl : String}
    (traced : Traced fastHash r registrations name baseUrl) (session : ThinkingSession)
    (current : session.sessionId = r.currentSession) (reply : Reply) (now : Nat) :
    Traced fastHash (session.register fastHash r reply now)
      (registrations ++ reply.contents.map fun content => ⟨content, name, baseUrl⟩) name baseUrl := by
  rw [ThinkingSession.register_eq]
  refine ⟨fun hash info found => ?_, fun content live => ?_⟩
  · rw [ThinkingRegistry.registerBlocks_session]
    rw [ThinkingRegistry.registerBlocks_get] at found
    split at found
    · cases found
      rw [ThinkingRegistry.registeredInfo_session, current]
    · exact traced.bounded hash info found
  · rw [ThinkingRegistry.registerBlocks_live] at live
    refine List.mem_append.mpr ?_
    split at live
    · rename_i registered
      exact .inr (List.mem_map_of_mem ((List.mem_map_of_injective injective).mp registered))
    · exact .inl (traced.traced content live)

def Traces (p : Proxy H) : Prop :=
  Traced fastHash p.registry p.registrations p.registry.currentBackend p.upstream

theorem transform_backend (bodyBytes : List UInt8) (parsedBody : Option Json) (backend : Backend)
    (session : ThinkingSession) (r : ThinkingRegistry H) (now : Nat) :
    (transformBody fastHash serde bodyBytes parsedBody backend (some session) r now).1.currentBackend =
        r.currentBackend ∧
      (transformBody fastHash serde bodyBytes parsedBody backend (some session) r now).1.currentSession =
        r.currentSession := by
  cases parsedBody with
  | none => exact ⟨rfl, rfl⟩
  | some body =>
    rw [transformBody_some]
    exact ⟨ThinkingRegistry.filterRequest_backend fastHash r _ now,
      ThinkingRegistry.filterRequest_session fastHash r _ now⟩

theorem exchange_traces (injective : Function.Injective fastHash) {p : Proxy H} {backend : Backend}
    (req : MainRequest) (traces : p.Traces fastHash)
    (steady : p.registry.currentBackend = backend.name →
      p.upstream = backend.baseUrl ∨ ∀ hash, p.registry.live hash = false) :
    (p.exchange fastHash serde backend req).Traces fastHash := by
  have begun := traced_begin fastHash traces steady
  have forwarded := traced_transform fastHash serde begun req.bodyBytes (req.parsedBody serde) backend
    (p.registry.beginRequest backend.name).2 req.now
  obtain ⟨name, session⟩ := transform_backend fastHash serde req.bodyBytes (req.parsedBody serde) backend
    (p.registry.beginRequest backend.name).2 (p.registry.beginRequest backend.name).1 req.now
  have started : (p.registry.beginRequest backend.name).1.currentBackend = backend.name :=
    ThinkingRegistry.onBackendSwitch_backend p.registry backend.name
  unfold exchange Traces
  cases req.reply with
  | none =>
    dsimp only [forward]
    rw [name, started]
    exact forwarded
  | some reply =>
    obtain ⟨reply, later⟩ := reply
    dsimp only [forward]
    have registered := traced_register fastHash injective forwarded (p.registry.beginRequest backend.name).2
      session.symm reply later
    rw [ThinkingSession.register_eq] at registered ⊢
    rw [ThinkingRegistry.registerBlocks_backend, name, started]
    exact registered

theorem step_traces (injective : Function.Injective fastHash) {p : Proxy H} {action : Action}
    (traces : p.Traces fastHash) (steady : p.Steady fastHash serde action) :
    (p.step fastHash serde action).Traces fastHash := by
  cases action with
  | switchBackend backendId =>
    simp only [step]
    split <;> exact traces
  | updateConfig newConfig =>
    simp only [step]
    split <;> exact traces
  | request req =>
    simp only [step]
    split
    · rename_i backend resolved
      exact exchange_traces fastHash serde injective req traces (steady backend resolved).1
    · exact traces

theorem traceable_of_traces {p : Proxy H} {action : Action} (traces : p.Traces fastHash)
    (printable : p.Printable fastHash serde action) (steady : p.Steady fastHash serde action) :
    p.Traceable fastHash serde action := by
  cases action with
  | request req =>
    intro backend resolved body parsed value decoded item member
    obtain ⟨sameUrl, recorded⟩ := steady backend resolved
    have begun := traced_begin fastHash traces sameUrl
    have bytes : serde.fromSlice req.bodyBytes = some body := by
      unfold MainRequest.parsedBody at parsed
      split at parsed
      · exact parsed
      · cases parsed
    have full := fromSlice_transformBody fastHash bytes (printable backend resolved body parsed) (recorded body parsed)
    rw [forward, parsed, full] at decoded
    cases decoded
    have live := retained_of_mem_fullyTransformed fastHash member
    rw [ThinkingRegistry.retained, if_pos (mem_thinkingItems.mp member).2] at live
    obtain ⟨content, extracted, live⟩ := (Option.any_eq_true _ _).mp live
    exact ⟨content, extracted, begun.traced content live⟩
  | _ => trivial

/-- In every sequential run of requests, switches and configuration updates whose steps are
steady, every thinking block that is forwarded goes back to the upstream it came from. -/
theorem provenance_kept (injective : Function.Injective fastHash) (backends : BackendState) {actions : List Action}
    (printable : Along (step fastHash serde) (Printable fastHash serde) { backends := backends } actions)
    (steady : Along (step fastHash serde) (Steady fastHash serde) { backends := backends } actions) :
    Along (step fastHash serde) (Traceable fastHash serde) { backends := backends } actions :=
  along_of_invariant (I := Traces fastHash)
    (fun _ _ traces guarded => step_traces fastHash serde injective traces guarded.2)
    (fun _ _ traces guarded => traceable_of_traces fastHash serde traces guarded.1 guarded.2)
    (traced_initial fastHash [] _ _) ((along_and (P := Printable fastHash serde)).mpr ⟨printable, steady⟩)

/-! ### One backend, one block -/

/-- A serde for the empty body and for the echo of one block. -/
def echoSerde : Serde where
  fromSlice bytes :=
    if bytes = floodText 0 then some (flood 0)
    else if bytes = utf8 "\x7b\x7d".toList then some (.object [])
    else none
  toVec value := if (value.get "messages").isSome then some (floodText 0) else some (utf8 "\x7b\x7d".toList)

def claudeOnly : BackendState :=
  { activeBackend := "claude", config := ⟨"claude", [claude]⟩, switchLog := [⟨none, "claude"⟩] }

def firstRequest : MainRequest where
  target := none
  bodyBytes := utf8 "\x7b\x7d".toList
  isJson := true
  now := 0
  reply := some (.json (some (.object [("content", .array [thinkingBlock "a" ""])])), 0)

def echoingRequest : MainRequest where
  target := none
  bodyBytes := floodText 0
  isJson := true
  now := 2
  reply := none

theorem echoSerde_empty : echoSerde.fromSlice (utf8 "\x7b\x7d".toList) = some (.object []) := by
  have different : utf8 "\x7b\x7d".toList ≠ floodText 0 := by decide
  simp only [echoSerde, if_neg different, if_true]

theorem echoSerde_echo : echoSerde.fromSlice (floodText 0) = some (flood 0) := by
  simp only [echoSerde, if_true]

theorem resolve_claudeOnly : resolveBackend claudeOnly none = .ok claude := rfl

theorem step_firstRequest : step id echoSerde { backends := claudeOnly } (.request firstRequest) =
    { backends := claudeOnly, registry := floodRegistry, registrations := [⟨"a", claude.name, claude.baseUrl⟩],
      upstream := claude.baseUrl } := by
  have parsed : firstRequest.parsedBody echoSerde = some (.object []) := echoSerde_empty
  simp only [step, show firstRequest.target = none from rfl, resolve_claudeOnly, exchange, forward, parsed]
  rfl

theorem echoed_block_traceable :
    Along (step id echoSerde) (Traceable id echoSerde) { backends := claudeOnly }
      [.request firstRequest, .request echoingRequest] := by
  refine provenance_kept id echoSerde Function.injective_id claudeOnly ⟨?_, ?_, trivial⟩ ⟨?_, ?_, trivial⟩
  · intro backend found body parsed
    obtain rfl := Except.ok.inj (resolve_claudeOnly.symm.trans found)
    obtain rfl := Option.some.inj (echoSerde_empty.symm.trans parsed)
    exact ⟨utf8 "\x7b\x7d".toList, rfl, echoSerde_empty⟩
  · intro backend found body parsed
    obtain rfl := Except.ok.inj (resolve_claudeOnly.symm.trans found)
    obtain rfl := Option.some.inj (echoSerde_echo.symm.trans parsed)
    rw [step_firstRequest]
    exact ⟨floodText 0, rfl, echoSerde_echo⟩
  · intro backend found
    obtain rfl := Except.ok.inj (resolve_claudeOnly.symm.trans found)
    refine ⟨fun _ => .inr fun _ => rfl, fun body parsed unrecorded => ?_⟩
    obtain rfl := Option.some.inj (echoSerde_empty.symm.trans parsed)
    exact absurd unrecorded.removed (by decide)
  · intro backend found
    obtain rfl := Except.ok.inj (resolve_claudeOnly.symm.trans found)
    refine ⟨fun _ => .inl rfl, fun body parsed unrecorded => ?_⟩
    obtain rfl := Option.some.inj (echoSerde_echo.symm.trans parsed)
    have removed := unrecorded.removed
    have same : (floodRegistry.beginRequest claude.name).1 = floodRegistry := rfl
    rw [step_firstRequest, same, filteredItems_flood] at removed
    exact absurd removed (Nat.lt_irrefl 0)

def gateway : Backend := { name := "claude", baseUrl := "https://gateway.example" }

/-- The base URL behind the name is edited between the response and its echo. -/
theorem edited_upstream_not_traceable :
    ¬ Along (step id echoSerde) (Traceable id echoSerde) { backends := claudeOnly }
      [.request firstRequest, .updateConfig ⟨"claude", [gateway]⟩, .request echoingRequest] := by
  rintro ⟨_, _, last, _⟩
  rw [step_firstRequest] at last
  generalize reached : step id echoSerde _ (.updateConfig ⟨"claude", [gateway]⟩) = p at last
  have resolved : resolveBackend p.backends none = .ok gateway := by rw [← reached]; rfl
  have parsed : echoingRequest.parsedBody echoSerde = some (flood 0) := echoSerde_echo
  have bytes : (p.forward id echoSerde gateway echoingRequest).2.2.bytes = floodText 0 := by
    rw [← reached, forward, parsed]
    rfl
  obtain ⟨content, extracted, registered⟩ := last gateway resolved (flood 0) echoSerde_echo (flood 0)
    (by rw [bytes]; exact echoSerde_echo) (thinkingBlock "a" "") (List.mem_singleton.mpr rfl)
  rw [extract_thinkingBlock] at extracted
  cases extracted
  rw [← reached] at registered
  exact absurd registered (by decide)

end Proxy

end Anycode.Pipeline
