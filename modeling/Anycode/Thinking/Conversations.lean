import Anycode.Thinking.Eviction
import Anycode.Thinking.Reassembly
import Anycode.Thinking.Session

/-!
# Conversations over one registry

The main agent and its in-process subagents send their requests through the same route, so
their turns interleave over one registry. `C` names the conversations; all of them go to one
backend. Next to the registry the state remembers which blocks were delivered to each
conversation, and what its last request echoed: history that no call reads.
-/

namespace Anycode.Thinking
open Data

/-- The contents of the thinking blocks that the client finds in a reply; those of a stream are what
its events say, index by index. -/
def Reply.delivered : Reply → List String
  | .json response => (response.map fun message => (contentOf message).filterMap extractThinkingContent).getD []
  | .sse events =>
    (events.filterMap SseEvent.index).flatMap (fun index => thinkingTexts (atIndex index events)) ++ redactedData events

theorem delivered_json (response : Option Json) : (Reply.json response).delivered = (Reply.json response).contents := by
  cases response with
  | none => rfl
  | some message =>
    simp only [Reply.delivered, Reply.contents, ThinkingRegistry.responseContents, contentOf, Option.map_some, Option.getD_some]
    cases message.arrayAt "content" <;> rfl

theorem mem_delivered_sse {events : List SseEvent} {content : String} :
    content ∈ (Reply.sse events).delivered ↔
      (∃ index, content ∈ thinkingTexts (atIndex index events)) ∨ content ∈ redactedData events := by
  rw [Reply.delivered, List.mem_append, List.mem_flatMap]
  refine or_congr_left ⟨fun ⟨index, _, said⟩ => ⟨index, said⟩, fun ⟨index, said⟩ => ⟨index, ?_, said⟩⟩
  cases own : atIndex index events with
  | nil =>
    rw [own] at said
    cases said
  | cons event rest =>
    have member : event ∈ atIndex index events := own ▸ List.mem_cons_self
    exact List.mem_filterMap.mpr ⟨event, (List.mem_filter.mp member).1, ThinkingRegistry.atIndex_index event member⟩

/-- A stream registers what it delivers, but for the empty texts of thinking blocks. -/
theorem mem_contents_sse {events : List SseEvent} (once : StartedOnce events) {content : String} :
    content ∈ (Reply.sse events).contents ↔
      content ∈ (Reply.sse events).delivered ∧ (content = "" → content ∈ redactedData events) := by
  rw [Reply.contents, ThinkingRegistry.mem_sseContents_iff once, Carries, mem_delivered_sse]
  by_cases empty : content = ""
  · simpa [empty] using fun redacted => .inr redacted
  · simp [empty]

inductive Turn (C : Type) where
  | request (c : C) (body : Json) (now : Nat)
  | respond (c : C) (reply : Reply) (now : Nat)

structure Shared (C H : Type) where
  registry : ThinkingRegistry H
  captured : C → Option ThinkingSession := fun _ => none
  received : C → List String := fun _ => []
  /-- The contents of the conversation's last request. -/
  echoed : C → List String := fun _ => []

namespace Shared
variable {C H : Type} [DecidableEq C] [DecidableEq H] (fastHash : String → H) (backend : String)

def step (s : Shared C H) : Turn C → Shared C H
  | .request c body now =>
    let (registry, session) := s.registry.beginRequest backend
    { s with
      registry := (session.filter fastHash registry body now).registry
      captured := Function.update s.captured c (some session)
      echoed := Function.update s.echoed c (requestContents body) }
  | .respond c reply now =>
    match s.captured c with
    | none => s
    | some session =>
      { s with
        registry := session.register fastHash s.registry reply now
        received := Function.update s.received c (s.received c ++ reply.delivered) }

/-- What the conversations do: a request echoes exactly the blocks its conversation received,
in a body with an assistant message if there are any, before an unconfirmed entry is too old; a
reply answers a request, and its stream starts no block twice before its stop. -/
def Echoes (s : Shared C H) : Turn C → Prop
  | .request c body now =>
    (∀ content, content ∈ requestContents body ↔ content ∈ s.received c) ∧
      (requestContents body ≠ [] → hasAssistantMessages body = true) ∧
      ∀ hash info, s.registry.blocks.get hash = some info → info.confirmed = false →
        now - info.registeredAt ≤ s.registry.orphanThreshold
  | .respond c (.sse events) _ => s.captured c ≠ none ∧ StartedOnce events
  | .respond c (.json _) _ => s.captured c ≠ none

/-- No request may lose a block to the filter in the conversation that received the block. -/
def NothingLost (s : Shared C H) : Prop :=
  ∀ c, ∀ content ∈ s.received c, ∀ body now,
    carrying content (s.registry.filterRequest fastHash body now).body = carrying content body

/-- A request that carries any block carries every block some conversation has echoed. An empty
thinking text is not streamed, unless its fingerprint is that of another block that the stream
registers, or that some conversation has received. -/
def Spares (s : Shared C H) : Turn C → Prop
  | .request _ body _ =>
    requestContents body = [] ∨
      ∀ d, ∀ content ∈ s.echoed d, fastHash content ∈ ThinkingRegistry.extractRequestHashes fastHash body
  | .respond _ (.sse events) _ =>
    (∃ index, "" ∈ thinkingTexts (atIndex index events)) →
      ∃ content, fastHash content = fastHash "" ∧
        ((content ≠ "" ∧ ∃ index, content ∈ thinkingTexts (atIndex index events)) ∨ content ∈ redactedData events ∨
          ∃ d, content ∈ s.received d)
  | .respond _ (.json _) _ => True

/-- The live blocks are those that were received, and the confirmed entries are those of the echoed
blocks. -/
structure Cached (s : Shared C H) : Prop where
  backend : s.registry.currentBackend = backend
  captured : ∀ c session, s.captured c = some session → session.sessionId = s.registry.currentSession
  live : ∀ c, ∀ content ∈ s.received c, s.registry.live (fastHash content) = true
  owned : ∀ hash, s.registry.live hash = true → ∃ c, ∃ content ∈ s.received c, fastHash content = hash
  echoed : ∀ c, ∀ content ∈ s.echoed c, content ∈ s.received c
  confirmed : ∀ c, ∀ content ∈ s.echoed c, ∀ info,
    s.registry.blocks.get (fastHash content) = some info → info.confirmed = true
  only : ∀ hash info, s.registry.blocks.get hash = some info → info.session = s.registry.currentSession →
    info.confirmed = true → ∃ c, ∃ content ∈ s.echoed c, fastHash content = hash

omit [DecidableEq C] [DecidableEq H] in
theorem cached_initial {r : ThinkingRegistry H} (bound : r.currentBackend = backend)
    (fresh : ∀ hash, r.live hash = false) : Cached fastHash backend ({ registry := r } : Shared C H) where
  backend := bound
  captured _ _ found := nomatch found
  live _ _ member := nomatch member
  owned hash live := absurd live (by rw [fresh hash]; exact Bool.false_ne_true)
  echoed _ _ member := nomatch member
  confirmed _ _ member := nomatch member
  only hash info found current _ := by
    have live := ThinkingRegistry.live_eq_true.mpr ⟨info, found, current⟩
    rw [fresh hash] at live
    cases live

omit [DecidableEq C] in
theorem Cached.nothingLost {s : Shared C H} (cached : s.Cached fastHash backend) : s.NothingLost fastHash :=
  fun c content member body now =>
    ThinkingRegistry.filterRequest_carrying fastHash body now (cached.live c content member)

theorem step_request {s : Shared C H} (cached : s.Cached fastHash backend) (c : C) (body : Json) (now : Nat) :
    s.step fastHash backend (.request c body now) =
      { s with
        registry := (s.registry.filterRequest fastHash body now).registry
        captured := Function.update s.captured c (some ⟨s.registry.currentSession⟩)
        echoed := Function.update s.echoed c (requestContents body) } := by
  simp only [step, ThinkingRegistry.beginRequest, ThinkingRegistry.onBackendSwitch_same cached.backend,
    ThinkingSession.filter]

omit [DecidableEq C] in
theorem request_live {s : Shared C H} (cached : s.Cached fastHash backend) {c : C} {body : Json} {now : Nat}
    (echoes : s.Echoes (.request c body now)) (spares : s.Spares fastHash (.request c body now))
    {hash : H} (live : s.registry.live hash = true) :
    (s.registry.filterRequest fastHash body now).registry.live hash = true := by
  obtain ⟨info, found, current⟩ := ThinkingRegistry.live_eq_true.mp live
  refine (ThinkingRegistry.filterRequest_live_iff fastHash).mpr ⟨info, found, current, ?_⟩
  rcases spares with bare | all
  · exact .inr (by simp [ThinkingRegistry.informative, bare])
  · cases confirmed : info.confirmed with
    | true =>
      obtain ⟨d, content, member, rfl⟩ := cached.only hash info found current confirmed
      exact .inl (all d content member)
    | false =>
      have young := echoes.2.2 hash info found confirmed
      exact .inr (by simp [ThinkingRegistry.evicted, confirmed, young])

/-- The confirmed entries that the filter leaves are those of the blocks echoed by now. -/
theorem request_only {s : Shared C H} (cached : s.Cached fastHash backend) {c : C} {body : Json} {now : Nat}
    (echoes : s.Echoes (.request c body now)) (spares : s.Spares fastHash (.request c body now)) {hash : H}
    {info : BlockInfo} (found : (s.registry.filterRequest fastHash body now).registry.blocks.get hash = some info)
    (current : info.session = s.registry.currentSession) (confirmed : info.confirmed = true) :
    ∃ d, ∃ content ∈ Function.update s.echoed c (requestContents body) d, fastHash content = hash := by
  rw [ThinkingRegistry.filterRequest_get] at found
  obtain ⟨old, present, kept⟩ := Option.bind_eq_some_iff.mp found
  by_cases carried : hash ∈ ThinkingRegistry.extractRequestHashes fastHash body
  · obtain ⟨content, member, rfl⟩ := List.mem_map.mp carried
    exact ⟨c, content, by simpa using member, rfl⟩
  · obtain rfl := ThinkingRegistry.entryAfter_other fastHash carried kept
    obtain ⟨d, content, member, rfl⟩ := cached.only hash _ present current confirmed
    rcases spares with bare | all
    -- A bare request empties its conversation's last echo, but then nothing was received.
    · refine ⟨d, content, ?_, rfl⟩
      rw [Function.update_apply]
      split
      · subst d
        have received := (echoes.1 content).mpr (cached.echoed c content member)
        rw [bare] at received
        cases received
      · exact member
    · exact absurd (all d content member) carried

theorem request_cached {s : Shared C H} (cached : s.Cached fastHash backend) {c : C} {body : Json} {now : Nat}
    (echoes : s.Echoes (.request c body now)) (spares : s.Spares fastHash (.request c body now)) :
    (s.step fastHash backend (.request c body now)).Cached fastHash backend := by
  rw [step_request fastHash backend cached]
  constructor <;> dsimp only
  case backend => rw [ThinkingRegistry.filterRequest_backend, cached.backend]
  case captured =>
    intro d session found
    rw [Function.update_apply] at found
    split at found
    · cases found
      simp
    · simpa using cached.captured d session found
  case live =>
    intro d content member
    exact request_live fastHash backend cached echoes spares (cached.live d content member)
  case owned =>
    intro hash live
    obtain ⟨info, found, current, _⟩ := (ThinkingRegistry.filterRequest_live_iff fastHash).mp live
    exact cached.owned hash (ThinkingRegistry.live_eq_true.mpr ⟨info, found, current⟩)
  case echoed =>
    intro d content member
    rw [Function.update_apply] at member
    split at member
    · subst d
      exact (echoes.1 content).mp member
    · exact cached.echoed d content member
  case confirmed =>
    intro d content member info found
    rw [ThinkingRegistry.filterRequest_get] at found
    obtain ⟨old, present, kept⟩ := Option.bind_eq_some_iff.mp found
    by_cases carried : fastHash content ∈ ThinkingRegistry.extractRequestHashes fastHash body
    · exact ThinkingRegistry.entryAfter_carried fastHash carried kept
    · rw [Function.update_apply] at member
      split at member
      · exact absurd (List.mem_map_of_mem member) carried
      · rw [ThinkingRegistry.entryAfter_other fastHash carried kept]
        exact cached.confirmed d content member old present
  case only =>
    intro hash info found current confirmed
    rw [ThinkingRegistry.filterRequest_session] at current
    exact request_only fastHash backend cached echoes spares found current confirmed

omit [DecidableEq C] [DecidableEq H] in
/-- The fingerprints that are live after a reply are those of what was received before and of what
the reply delivers. -/
theorem respond_live_iff {s : Shared C H} (cached : s.Cached fastHash backend) {c : C} {reply : Reply} {now : Nat}
    (echoes : s.Echoes (.respond c reply now)) (spares : s.Spares fastHash (.respond c reply now)) {hash : H} :
    (hash ∈ reply.contents.map fastHash ∨ s.registry.live hash = true) ↔
      hash ∈ reply.delivered.map fastHash ∨ s.registry.live hash = true := by
  cases reply with
  | json response => rw [delivered_json]
  | sse events =>
    have registered {content : String} := @mem_contents_sse events echoes.2 content
    constructor
    · rintro (listed | live)
      · obtain ⟨content, member, rfl⟩ := List.mem_map.mp listed
        exact .inl (List.mem_map_of_mem (registered.mp member).1)
      · exact .inr live
    · rintro (listed | live)
      · obtain ⟨content, member, rfl⟩ := List.mem_map.mp listed
        by_cases held : content = "" → content ∈ redactedData events
        · exact .inl (List.mem_map_of_mem (registered.mpr ⟨member, held⟩))
        · obtain ⟨rfl, unheld⟩ := Classical.not_imp.mp held
          obtain ⟨other, same, held⟩ := spares ((mem_delivered_sse.mp member).resolve_right unheld)
          rw [← same]
          rcases held with ⟨nonempty, said⟩ | redacted | ⟨d, before⟩
          · exact .inl (List.mem_map_of_mem (registered.mpr ⟨mem_delivered_sse.mpr (.inl said), fun empty => absurd empty nonempty⟩))
          · exact .inl (List.mem_map_of_mem (registered.mpr ⟨mem_delivered_sse.mpr (.inr redacted), fun _ => redacted⟩))
          · exact .inr (cached.live d other before)
      · exact .inr live

theorem step_respond {s : Shared C H} {c : C} {session : ThinkingSession} (captured : s.captured c = some session)
    (reply : Reply) (now : Nat) :
    s.step fastHash backend (.respond c reply now) =
      { s with
        registry := s.registry.registerBlocks fastHash reply.contents session.sessionId now
        received := Function.update s.received c (s.received c ++ reply.delivered) } := by
  simp only [step, captured, ThinkingSession.register_eq]

omit [DecidableEq C] [DecidableEq H] in
theorem captured_of_echoes {s : Shared C H} {c : C} {reply : Reply} {now : Nat} (echoes : s.Echoes (.respond c reply now)) :
    ∃ session, s.captured c = some session := by
  refine Option.ne_none_iff_exists'.mp ?_
  cases reply with
  | json response => exact echoes
  | sse events => exact echoes.1

omit [DecidableEq H] in
theorem mem_received {s : Shared C H} {c d : C} {reply : Reply} {content : String} :
    content ∈ Function.update s.received c (s.received c ++ reply.delivered) d ↔
      content ∈ s.received d ∨ d = c ∧ content ∈ reply.delivered := by
  rw [Function.update_apply]
  split
  · rename_i same
    rw [same, List.mem_append]
    simp
  · rename_i other
    simp [other]

theorem respond_cached {s : Shared C H} (cached : s.Cached fastHash backend) {c : C} {reply : Reply} {now : Nat}
    (echoes : s.Echoes (.respond c reply now)) (spares : s.Spares fastHash (.respond c reply now)) :
    (s.step fastHash backend (.respond c reply now)).Cached fastHash backend := by
  obtain ⟨session, captured⟩ := captured_of_echoes echoes
  have current := cached.captured c session captured
  have live {hash : H} : (s.registry.registerBlocks fastHash reply.contents session.sessionId now).live hash = true ↔
      hash ∈ reply.delivered.map fastHash ∨ s.registry.live hash = true := by
    rw [ThinkingRegistry.registerBlocks_live, ← respond_live_iff fastHash backend cached echoes spares, current]
    split
    · rename_i listed
      simp [listed]
    · rename_i absent
      simp [absent]
  rw [step_respond fastHash backend captured]
  constructor <;> dsimp only
  case backend => simpa using cached.backend
  case captured => simpa using cached.captured
  case live =>
    intro d content member
    rcases mem_received.mp member with old | ⟨_, new⟩
    · exact live.mpr (.inr (cached.live d content old))
    · exact live.mpr (.inl (List.mem_map_of_mem new))
  case owned =>
    intro hash held
    rcases live.mp held with listed | old
    · obtain ⟨content, member, rfl⟩ := List.mem_map.mp listed
      exact ⟨c, content, mem_received.mpr (.inr ⟨rfl, member⟩), rfl⟩
    · obtain ⟨d, content, member, same⟩ := cached.owned hash old
      exact ⟨d, content, mem_received.mpr (.inl member), same⟩
  case echoed => exact fun d content member => mem_received.mpr (.inl (cached.echoed d content member))
  case confirmed =>
    intro d content member info found
    obtain ⟨old, present, oldCurrent⟩ :=
      ThinkingRegistry.live_eq_true.mp (cached.live d content (cached.echoed d content member))
    rw [ThinkingRegistry.registerBlocks_get, present] at found
    rw [ThinkingRegistry.registeredInfo_own (oldCurrent.trans current.symm), ite_self] at found
    cases found
    exact cached.confirmed d content member info present
  case only =>
    intro hash info found sessionOf confirmed
    rw [ThinkingRegistry.registerBlocks_session] at sessionOf
    rw [ThinkingRegistry.registerBlocks_get] at found
    split at found
    · cases found
      exact cached.only hash _ (ThinkingRegistry.registeredInfo_confirmed confirmed) sessionOf confirmed
    · exact cached.only hash info found sessionOf confirmed

theorem step_cached {s : Shared C H} {turn : Turn C} (cached : s.Cached fastHash backend)
    (echoes : s.Echoes turn) (spares : s.Spares fastHash turn) :
    (s.step fastHash backend turn).Cached fastHash backend := by
  cases turn with
  | request c body now => exact request_cached fastHash backend cached echoes spares
  | respond c reply now => exact respond_cached fastHash backend cached echoes spares

theorem request_needs {s : Shared C H} {c : C} {body : Json} {now : Nat} (cached : s.Cached fastHash backend)
    (echoes : s.Echoes (.request c body now)) (kept : (s.step fastHash backend (.request c body now)).NothingLost fastHash) :
    s.Spares fastHash (.request c body now) := by
  rw [step_request fastHash backend cached] at kept
  apply or_iff_not_imp_left.mpr
  intro bears d content member
  have received := cached.echoed d content member
  have live := ThinkingRegistry.live_of_carrying fastHash (kept d content received _ 0)
  obtain ⟨info, found, _, verdict⟩ := (ThinkingRegistry.filterRequest_live_iff fastHash).mp live
  apply verdict.resolve_right
  intro spared
  have history := echoes.2.1 bears
  have confirmed := cached.confirmed d content member info found
  simp [ThinkingRegistry.informative, ThinkingRegistry.evicted, history, bears, confirmed] at spared

/-- An empty text that is delivered and kept is held by another block. -/
theorem respond_needs {s : Shared C H} {c : C} {events : List SseEvent} {now : Nat} (cached : s.Cached fastHash backend)
    (echoes : s.Echoes (.respond c (.sse events) now))
    (kept : (s.step fastHash backend (.respond c (.sse events) now)).NothingLost fastHash) :
    s.Spares fastHash (.respond c (.sse events) now) := by
  obtain ⟨session, captured⟩ := captured_of_echoes echoes
  rw [step_respond fastHash backend captured] at kept
  intro said
  have received := (mem_received (s := s) (c := c) (d := c)).mpr (.inr ⟨rfl, mem_delivered_sse.mpr (.inl said)⟩)
  have live := ThinkingRegistry.live_of_carrying fastHash (kept c "" received _ 0)
  rw [ThinkingRegistry.registerBlocks_live] at live
  split at live
  · rename_i listed
    obtain ⟨content, member, same⟩ := List.mem_map.mp listed
    obtain ⟨delivered, held⟩ := (mem_contents_sse echoes.2).mp member
    refine ⟨content, same, ?_⟩
    by_cases empty : content = ""
    · exact .inr (.inl (held empty))
    · exact (mem_delivered_sse.mp delivered).elim (fun said => .inl ⟨empty, said⟩) fun redacted => .inr (.inl redacted)
  · obtain ⟨d, content, member, same⟩ := cached.owned _ live
    exact ⟨content, same, .inr (.inr ⟨d, member⟩)⟩

theorem step_needs {s : Shared C H} {turn : Turn C} (cached : s.Cached fastHash backend)
    (echoes : s.Echoes turn) (kept : (s.step fastHash backend turn).NothingLost fastHash) :
    s.Spares fastHash turn := by
  cases turn with
  | request c body now => exact request_needs fastHash backend cached echoes kept
  | respond c reply now =>
    cases reply with
    | json response => trivial
    | sse events => exact respond_needs fastHash backend cached echoes kept

/-- Conversations that start with a session never lose a block to each other, in any state of
any interleaving of their turns, exactly when every request that carries a block carries
everything that some conversation has echoed, and no stream delivers an empty text that nothing
else registers. -/
theorem conversations_independent_iff {r : ThinkingRegistry H} (bound : r.currentBackend = backend)
    (fresh : ∀ hash, r.live hash = false) {turns : List (Turn C)}
    (echo : Along (step fastHash backend) Echoes { registry := r } turns) :
    Throughout (step fastHash backend) (NothingLost fastHash) { registry := r } turns ↔
      Along (step fastHash backend) (Spares fastHash) { registry := r } turns :=
  throughout_iff_along (I := Cached fastHash backend)
    (fun _ cached => cached.nothingLost)
    (fun _ _ cached echoes spares => step_cached fastHash backend cached echoes spares)
    (fun _ _ cached echoes kept => step_needs fastHash backend cached echoes kept)
    (cached_initial fastHash backend bound fresh) echo

def reply (text : String) : Reply := .json (some (.object [("content", .array [thinkingBlock text ""])]))

theorem one_conversation_independent :
    Throughout (step id "anthropic") (NothingLost id)
      ({ registry := (ThinkingRegistry.new).onBackendSwitch "anthropic" } : Shared Bool String)
      [.request false (echoRequest []) 0, .respond false (reply "a") 1,
        .request false (echoRequest [thinkingBlock "a" ""]) 2] := by
  refine (conversations_independent_iff id "anthropic" rfl (fun _ => rfl) ?_).mpr ?_
  · refine ⟨⟨fun _ => Iff.rfl, fun _ => rfl, fun _ _ _ _ => ?_⟩, Option.some_ne_none _,
      ⟨fun _ => Iff.rfl, fun _ => rfl, fun _ _ _ _ => ?_⟩, trivial⟩
    · exact Nat.le_trans (Nat.sub_le _ _) (by decide)
    · exact Nat.le_trans (Nat.sub_le _ _) (by decide)
  · refine ⟨.inl rfl, trivial, .inr ?_, trivial⟩
    intro d content member
    cases d <;> cases member

/-- The main agent's block is confirmed when a subagent sends a request with a block of its own. -/
theorem subagent_evicts_main_agent :
    let s : Shared Bool String := { registry := (ThinkingRegistry.new).onBackendSwitch "anthropic" }
    let turns : List (Turn Bool) :=
      [.request false (echoRequest []) 0, .respond false (reply "a") 1,
        .request true (echoRequest []) 2, .respond true (reply "b") 3,
        .request false (echoRequest [thinkingBlock "a" ""]) 4,
        .request true (echoRequest [thinkingBlock "b" ""]) 5]
    Along (step id "anthropic") Echoes s turns ∧
      ¬ Throughout (step id "anthropic") (NothingLost id) s turns := by
  intro s turns
  constructor
  · refine ⟨⟨fun _ => Iff.rfl, fun _ => rfl, fun _ _ _ _ => ?_⟩, Option.some_ne_none _,
      ⟨fun _ => Iff.rfl, fun _ => rfl, fun _ _ _ _ => ?_⟩, Option.some_ne_none _,
      ⟨fun _ => Iff.rfl, fun _ => rfl, fun _ _ _ _ => ?_⟩,
      ⟨fun _ => Iff.rfl, fun _ => rfl, fun _ _ _ _ => ?_⟩, trivial⟩ <;>
      exact Nat.le_trans (Nat.sub_le _ _) (by decide)
  · intro kept
    have last := throughout_iff.mp kept turns [] (List.append_nil _).symm
    have live := ThinkingRegistry.live_of_carrying id (last false "a" (by decide) _ 0)
    exact absurd live (by decide)

end Shared

end Anycode.Thinking
