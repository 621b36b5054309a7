import Anycode.Thinking.LateRegistration
import Anycode.Thinking.Session

/-!
# Concurrent requests over one registry

Any number of requests share the registry; each call locks it, so a run is a sequence of whole
calls in any order. The world remembers, next to the registry, the handles that were given out
and what was registered under which session: this is history, no call reads it.
-/

namespace Anycode.Thinking
open Data

structure InFlight where
  session : ThinkingSession
  backend : String

structure World (H : Type) where
  registry : ThinkingRegistry H := .new
  requests : List InFlight := []
  /-- The backend each session id was started for. -/
  sessionBackend : Nat → String := fun _ => ""
  /-- The hashes registered so far, with the session each was registered under. -/
  registrations : List (Nat × H) := []

inductive Event where
  | beginRequest (backend : String)
  | notifyBackendSwitch (backend : String)
  | filter (request : Nat) (body : Json) (now : Nat)
  | registerFromSse (request : Nat) (events : List SseEvent) (now : Nat)
  | registerFromResponse (request : Nat) (response : Option Json) (now : Nat)

namespace World
variable {H : Type} [DecidableEq H] (fastHash : String → H)

omit [DecidableEq H] in
def switched (w : World H) (backend : String) : World H :=
  let registry := w.registry.onBackendSwitch backend
  { w with
    registry := registry
    sessionBackend := Function.update w.sessionBackend registry.currentSession backend }

def registered (w : World H) (session : ThinkingSession) (registry : ThinkingRegistry H)
    (contents : List String) : World H :=
  { w with
    registry := registry
    registrations := w.registrations ++ contents.map fun content => (session.sessionId, fastHash content) }

def step (w : World H) : Event → World H
  | .beginRequest backend =>
    let (registry, session) := w.registry.beginRequest backend
    { w.switched backend with
      registry := registry
      requests := w.requests ++ [{ session := session, backend := backend }] }
  | .notifyBackendSwitch backend =>
    { w.switched backend with registry := w.registry.notifyBackendSwitch backend }
  | .filter request body now =>
    match w.requests[request]? with
    | none => w
    | some inFlight => { w with registry := (inFlight.session.filter fastHash w.registry body now).registry }
  | .registerFromSse request events now =>
    match w.requests[request]? with
    | none => w
    | some inFlight =>
      w.registered fastHash inFlight.session
        (inFlight.session.registerFromSse fastHash w.registry events now) (ThinkingRegistry.sseContents events)
  | .registerFromResponse request response now =>
    match w.requests[request]? with
    | none => w
    | some inFlight =>
      w.registered fastHash inFlight.session
        (inFlight.session.registerFromResponse fastHash w.registry response now)
        (ThinkingRegistry.responseContents response)

/-- Every block that a filter call leaves in the body of a request is cached, by a
registration made, under the session that the request captured, which was started for the
backend the request is bound for. -/
def Isolated (w : World H) : Event → Prop
  | .filter request body now =>
    ∀ inFlight, w.requests[request]? = some inFlight →
      ∀ item ∈ thinkingItems (inFlight.session.filter fastHash w.registry body now).body,
        ∃ content info, extractThinkingContent item = some content ∧
          w.registry.blocks.get (fastHash content) = some info ∧
          info.session = inFlight.session.sessionId ∧
          (inFlight.session.sessionId, fastHash content) ∈ w.registrations ∧
          w.sessionBackend inFlight.session.sessionId = inFlight.backend
  | _ => True

/-- The filter call comes while the captured session is still the current one, or the body
carries no block that is cached under the current session. -/
def Undisturbed (w : World H) : Event → Prop
  | .filter request body _ =>
    ∀ inFlight, w.requests[request]? = some inFlight →
      inFlight.session.sessionId = w.registry.currentSession ∨
        ∀ content ∈ requestContents body, w.registry.live (fastHash content) = false
  | _ => True

/-- Cached sessions were registered, sessions belong to the backends they were started for,
and no handle is ahead of the registry. -/
structure Consistent (w : World H) : Prop where
  cached : ∀ hash info, w.registry.blocks.get hash = some info → (info.session, hash) ∈ w.registrations
  current : w.sessionBackend w.registry.currentSession = w.registry.currentBackend
  bound : ∀ inFlight ∈ w.requests, inFlight.session.sessionId ≤ w.registry.currentSession ∧
    w.sessionBackend inFlight.session.sessionId = inFlight.backend

omit [DecidableEq H] in
theorem consistent_initial : Consistent ({} : World H) where
  cached _ _ found := nomatch found
  current := rfl
  bound _ member := nomatch member

omit [DecidableEq H] in
theorem switched_consistent {w : World H} (consistent : w.Consistent) (backend : String) :
    (w.switched backend).Consistent := by
  obtain ⟨cached, current, bound⟩ := consistent
  by_cases same : w.registry.currentBackend = backend
  · have unchanged : Function.update w.sessionBackend w.registry.currentSession backend = w.sessionBackend := by
      rw [← same, ← current, Function.update_eq_self]
    simp only [switched, ThinkingRegistry.onBackendSwitch_same same, unchanged]
    exact ⟨cached, current, bound⟩
  · have advanced := ThinkingRegistry.onBackendSwitch_other same
    refine ⟨?_, ?_, ?_⟩
    · simpa [switched] using cached
    · simp [switched]
    · intro inFlight member
      obtain ⟨below, backendOf⟩ := bound inFlight member
      simp only [switched, advanced]
      refine ⟨by omega, ?_⟩
      rw [Function.update_of_ne (by omega)]
      exact backendOf

theorem registered_consistent {w : World H} (consistent : w.Consistent) (session : ThinkingSession)
    (contents : List String) (now : Nat) :
    (w.registered fastHash session
      (w.registry.registerBlocks fastHash contents session.sessionId now) contents).Consistent := by
  obtain ⟨cached, current, bound⟩ := consistent
  refine ⟨fun hash info found => ?_, by simpa [registered] using current, by simpa [registered] using bound⟩
  simp only [registered, List.mem_append, List.mem_map, Prod.mk.injEq] at found ⊢
  rw [ThinkingRegistry.registerBlocks_get] at found
  split at found
  · rename_i member
    cases found
    obtain ⟨content, listed, same⟩ := List.mem_map.mp member
    exact .inr ⟨content, listed, (ThinkingRegistry.registeredInfo_session _ _ _).symm, same⟩
  · exact .inl (cached hash info found)

theorem step_consistent {w : World H} (consistent : w.Consistent) (event : Event) :
    (w.step fastHash event).Consistent := by
  cases event with
  | beginRequest backend =>
    obtain ⟨cached, current, bound⟩ := switched_consistent consistent backend
    refine ⟨cached, current, fun inFlight member => ?_⟩
    rcases List.mem_append.mp member with earlier | new
    · exact bound inFlight earlier
    · rw [List.mem_singleton.mp new]
      exact ⟨Nat.le_refl _, Function.update_self ..⟩
  | notifyBackendSwitch backend => exact switched_consistent consistent backend
  | filter request body now =>
    simp only [step]
    split
    · exact consistent
    · obtain ⟨cached, current, bound⟩ := consistent
      refine ⟨fun hash info found => ?_, by simpa [ThinkingSession.filter] using current,
        by simpa [ThinkingSession.filter] using bound⟩
      simp only [ThinkingSession.filter, ThinkingRegistry.filterRequest_get] at found
      obtain ⟨old, present, kept⟩ := Option.bind_eq_some_iff.mp found
      obtain ⟨before, after⟩ := ThinkingRegistry.entryAfter_session fastHash kept
      rw [after, ← before]
      exact cached hash old present
  | registerFromSse request events now =>
    simp only [step]
    split
    · exact consistent
    · rw [ThinkingSession.registerFromSse, ThinkingRegistry.registerFromSseStream_eq]
      exact registered_consistent fastHash consistent _ _ now
  | registerFromResponse request response now =>
    simp only [step]
    split
    · exact consistent
    · exact registered_consistent fastHash consistent _ _ now

theorem isolated_iff {w : World H} (consistent : w.Consistent) (event : Event) :
    w.Isolated fastHash event ↔ w.Undisturbed fastHash event := by
  cases event with
  | filter request body now =>
    apply forall_congr'
    intro inFlight
    apply forall_congr'
    intro found
    constructor
    · intro isolated
      by_contra disturbed
      simp only [not_or, not_forall, Bool.not_eq_false] at disturbed
      obtain ⟨moved, content, carried, live⟩ := disturbed
      obtain ⟨item, member, extracted⟩ := mem_requestContents.mp carried
      have typed := isThinkingItem_of_extract extracted
      have kept : item ∈ thinkingItems (inFlight.session.filter fastHash w.registry body now).body := by
        rw [ThinkingSession.filter, ThinkingRegistry.mem_thinkingItems_filterRequest]
        exact ⟨mem_thinkingItems.mpr ⟨member, typed⟩, by simp [ThinkingRegistry.retained, typed, extracted, live]⟩
      obtain ⟨other, info, same, cached, captured, _⟩ := isolated item kept
      rw [extracted] at same
      cases same
      obtain ⟨entry, present, current⟩ := ThinkingRegistry.live_eq_true.mp live
      rw [cached] at present
      cases present
      exact moved (captured.symm.trans current)
    · intro undisturbed item kept
      rw [ThinkingSession.filter, ThinkingRegistry.mem_thinkingItems_filterRequest] at kept
      obtain ⟨member, typed⟩ := mem_thinkingItems.mp kept.1
      have retained := kept.2
      rw [ThinkingRegistry.retained, if_pos typed] at retained
      obtain ⟨content, extracted, live⟩ := (Option.any_eq_true _ _).mp retained
      obtain ⟨info, cached, current⟩ := ThinkingRegistry.live_eq_true.mp live
      rcases undisturbed with same | bare
      · refine ⟨content, info, extracted, cached, current.trans same.symm, ?_,
          (consistent.bound inFlight (List.mem_of_getElem? found)).2⟩
        rw [same, ← current]
        exact consistent.cached _ _ cached
      · rw [bare content (mem_requestContents.mpr ⟨item, member, extracted⟩)] at live
        cases live
  | _ => exact Iff.rfl

/-- In every run of any number of requests, every filter call is isolated exactly when each
one is undisturbed. -/
theorem requests_isolated_iff (events : List Event) :
    Along (step fastHash) (Isolated fastHash) ({} : World H) events ↔
      Along (step fastHash) (Undisturbed fastHash) ({} : World H) events :=
  along_congr_of_invariant (fun _ event consistent => step_consistent fastHash consistent event)
    (fun _ event consistent => isolated_iff fastHash consistent event) consistent_initial

/-- A request for another backend, and its response, come between `begin_request` and `filter`. -/
theorem overtaken_request_not_isolated :
    ¬ Along (step id) (Isolated id) ({} : World String)
      [.beginRequest "anthropic", .beginRequest "glm",
        .registerFromResponse 1 (some (.object [("content", .array [thinkingBlock "a" "glm"])])) 0,
        .filter 0 (echoRequest [thinkingBlock "a" "glm"]) 1] := by
  rintro ⟨_, _, _, last, _⟩
  generalize reached : step id (step id (step id _ _) _) _ = w at last
  have consistent : w.Consistent := by
    rw [← reached]
    exact step_consistent id (step_consistent id (step_consistent id consistent_initial _) _) _
  rcases (isolated_iff id consistent _).mp last ⟨⟨1⟩, "anthropic"⟩ (by rw [← reached]; rfl) with same | bare
  · rw [← reached] at same
    exact absurd same (by decide)
  · have unknown := bare "a" (by decide)
    rw [← reached] at unknown
    exact absurd unknown (by decide)

end World

end Anycode.Thinking
