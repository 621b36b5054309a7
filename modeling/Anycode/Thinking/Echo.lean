import Anycode.Thinking.Filter
import Anycode.Thinking.Stream

/-!
# The echo round trip

A response reaches the registry as one JSON body or as a stream; the client echoes its content
in the next request. This file says when the request passes the filter whole and both ways of
delivery are accepted alike.
-/

namespace Anycode.Thinking
open Data

/-- The body echoes the content as an assistant message; its other messages hold no thinking
blocks. -/
def Echoes (content : List ContentBlock) (body : Json) : Prop :=
  ∃ before message after, messages body = before ++ message :: after ∧
    message.strAt "role" = some "assistant" ∧ contentOf message = content.map ContentBlock.toJson ∧
    ∀ other ∈ before ++ after, ∀ item ∈ contentOf other, isThinkingItem item = false

theorem echoes_echoRequest (content : List ContentBlock) :
    Echoes content (echoRequest (content.map ContentBlock.toJson)) :=
  ⟨[], _, [], rfl, rfl, rfl, fun _ member => nomatch member⟩

theorem Echoes.thinking {content : List ContentBlock} {body item : Json} (echoes : Echoes content body)
    (member : item ∈ contentItems body) (typed : isThinkingItem item = true) :
    ∃ block ∈ content, block.toJson = item := by
  obtain ⟨before, message, after, split, _, echoed, bare⟩ := echoes
  rw [contentItems, split] at member
  obtain ⟨owner, listed, inside⟩ := List.mem_flatMap.mp member
  have other : owner ∉ before ++ after := fun elsewhere => by
    rw [bare owner elsewhere item inside] at typed
    cases typed
  rw [List.mem_append, not_or] at other
  have own : owner = message := by
    rcases List.mem_append.mp listed with early | rest
    · exact absurd early other.1
    · exact (List.mem_cons.mp rest).resolve_right other.2
  rw [own, echoed] at inside
  exact List.mem_map.mp inside

theorem mem_responseContents {response : Json} {content : List ContentBlock}
    (answered : response.arrayAt "content" = some (content.map ContentBlock.toJson)) {thought : String} :
    thought ∈ ThinkingRegistry.responseContents (some response) ↔
      ∃ block ∈ content, block.thought = some thought := by
  simp [ThinkingRegistry.responseContents, answered]

theorem mem_streamed {block : ContentBlock} {thought : String} :
    thought ∈ block.streamed ↔
      block.thought = some thought ∧ ∀ signature, block ≠ .thinking "" signature := by
  cases block with
  | thinking words signature =>
    by_cases empty : words = ""
    · simp [ContentBlock.streamed, ContentBlock.thought, empty]
    · simpa [ContentBlock.streamed, ContentBlock.thought, empty] using eq_comm
  | redactedThinking data => simpa [ContentBlock.streamed, ContentBlock.thought] using eq_comm
  | _ => simp [ContentBlock.streamed, ContentBlock.thought]

namespace ThinkingRegistry
variable {H : Type} [DecidableEq H] (fastHash : String → H)

/-! ### The calls between the response and its echo -/

def Between (backend : String) : Call → Prop
  | .onBackendSwitch newBackend => newBackend = backend
  | .filterRequest _ _ => False
  | _ => True

/-- The session under which the last of the calls that register `hash` does so. -/
def lastSession (hash : H) : List Call → Option Nat
  | [] => none
  | action :: rest =>
    (lastSession hash rest).or
      (action.registration.bind fun (sessionId, contents) =>
        if hash ∈ contents.map fastHash then some sessionId else none)

/-- The registrations between leave a hash live exactly when the last one is under the current
session; with none, it is live as before. -/
theorem run_between {r : ThinkingRegistry H} {calls : List Call}
    (between : ∀ action ∈ calls, Between r.currentBackend action) (hash : H) :
    (run (call fastHash) r calls).live hash =
      match lastSession fastHash hash calls with
      | none => r.live hash
      | some sessionId => sessionId == r.currentSession := by
  induction calls generalizing r with
  | nil => rfl
  | cons action rest ih =>
    have head := between action List.mem_cons_self
    have tail := fun later member => between later (List.mem_cons_of_mem _ member)
    cases registers : action.registration with
    | none =>
      have same : r.call fastHash action = r := by
        cases action with
        | onBackendSwitch newBackend => exact onBackendSwitch_same head.symm
        | filterRequest body now => cases head
        | _ => cases registers
      simp only [run_cons, same, lastSession, registers, Option.bind_none, Option.or_none]
      exact ih tail
    | some registration =>
      obtain ⟨sessionId, contents⟩ := registration
      rw [run_cons, call_registration fastHash registers,
        ih (by simpa only [registerBlocks_backend] using tail), registerBlocks_session]
      simp only [lastSession, registers, Option.bind_some]
      cases lastSession fastHash hash rest with
      | some later => rfl
      | none =>
        rw [registerBlocks_live, Option.none_or]
        by_cases own : hash ∈ contents.map fastHash <;> simp [own]

/-! ### Passing the filter -/

def Passes (content : List ContentBlock) (r : ThinkingRegistry H) : Prop :=
  ∀ body now, Echoes content body →
    (r.filterRequest fastHash body now).body = body ∧ (r.filterRequest fastHash body now).removed = 0

theorem filterRequest_self {r : ThinkingRegistry H} {body : Json} (now : Nat)
    (all : ∀ item ∈ contentItems body, r.retained fastHash item = true) :
    (r.filterRequest fastHash body now).body = body ∧ (r.filterRequest fastHash body now).removed = 0 := by
  have filtered := filterRequest_body fastHash r body now
  refine ⟨(congrArg Prod.fst filtered).trans (retainContent_self all), ?_⟩
  rw [filterRequest_removed, removedItems_eq_zero.mpr all]
  rfl

theorem passes_iff {r : ThinkingRegistry H} {content : List ContentBlock} :
    r.Passes fastHash content ↔
      ∀ block ∈ content, ∀ thought, block.thought = some thought → r.live (fastHash thought) = true := by
  constructor
  · intro passes block member thought found
    have whole := (passes _ 0 (echoes_echoRequest content)).1
    have items := (filterRequest_content fastHash r (echoRequest (content.map ContentBlock.toJson)) 0).contentItems
    rw [whole] at items
    have kept := List.filter_eq_self.mp items.symm block.toJson
      (by rw [contentItems_echoRequest]; exact List.mem_map_of_mem member)
    simpa [retained, ContentBlock.isThinkingItem_toJson, found] using kept
  · intro live body now echoes
    apply filterRequest_self fastHash now
    intro item member
    cases typed : isThinkingItem item with
    | false => simp [retained, typed]
    | true =>
      obtain ⟨block, listed, rfl⟩ := echoes.thinking member typed
      rw [ContentBlock.isThinkingItem_toJson] at typed
      obtain ⟨thought, found⟩ := Option.isSome_iff_exists.mp typed
      simp [retained, ContentBlock.isThinkingItem_toJson, found, live block listed thought found]

/-! ### The round trip -/

/-- Both ways of delivery accept the same blocks, and after either one an echo passes. -/
structure RoundTrip (r : ThinkingRegistry H) (content : List ContentBlock) (response : Json)
    (events : List SseEvent) (later : List Call) (now : Nat) : Prop where
  accepted : ∀ thought, thought ∈ responseContents (some response) ↔ thought ∈ sseContents events
  json : Passes fastHash content
    (run (call fastHash) (r.registerFromResponse fastHash (some response) r.currentSession now) later)
  sse : Passes fastHash content
    (run (call fastHash) (r.registerFromSseStream fastHash events r.currentSession now) later)

/-- Where a thinking text is empty some redacted data is too, and no later registration leaves
a block of the content under another session. -/
structure Echoable (r : ThinkingRegistry H) (content : List ContentBlock) (later : List Call) : Prop where
  texts : ∀ signature, ContentBlock.thinking "" signature ∈ content → ContentBlock.redactedThinking "" ∈ content
  sessions : ∀ block ∈ content, ∀ thought, block.thought = some thought →
    ∀ sessionId, lastSession fastHash (fastHash thought) later = some sessionId → sessionId = r.currentSession

theorem accepted_iff {content : List ContentBlock} {response : Json} {events : List SseEvent}
    (answered : response.arrayAt "content" = some (content.map ContentBlock.toJson))
    (streams : Streams content events) :
    (∀ thought, thought ∈ responseContents (some response) ↔ thought ∈ sseContents events) ↔
      ∀ signature, ContentBlock.thinking "" signature ∈ content → ContentBlock.redactedThinking "" ∈ content := by
  simp only [mem_responseContents answered, mem_sseContents streams, mem_streamed]
  constructor
  · intro same signature member
    obtain ⟨block, listed, found, accepted⟩ := (same "").mp ⟨_, member, rfl⟩
    cases block with
    | thinking words other =>
      cases found
      exact absurd rfl (accepted other)
    | redactedThinking data =>
      cases found
      exact listed
    | _ => cases found
  · refine fun texts thought => ⟨?_, fun ⟨block, listed, found, _⟩ => ⟨block, listed, found⟩⟩
    rintro ⟨block, listed, found⟩
    by_cases empty : ∃ signature, block = .thinking "" signature
    · obtain ⟨signature, rfl⟩ := empty
      cases found
      exact ⟨_, texts signature listed, rfl, fun _ same => nomatch same⟩
    · exact ⟨block, listed, found, fun signature same => empty ⟨signature, same⟩⟩

theorem passes_registered {r : ThinkingRegistry H} {content : List ContentBlock} {contents : List String}
    {later : List Call} {now : Nat} (between : ∀ action ∈ later, Between r.currentBackend action)
    (covers : ∀ block ∈ content, ∀ thought, block.thought = some thought → thought ∈ contents) :
    Passes fastHash content
        (run (call fastHash) (r.registerBlocks fastHash contents r.currentSession now) later) ↔
      ∀ block ∈ content, ∀ thought, block.thought = some thought →
        ∀ sessionId, lastSession fastHash (fastHash thought) later = some sessionId →
          sessionId = r.currentSession := by
  rw [passes_iff]
  apply forall₂_congr
  intro block member
  apply forall₂_congr
  intro thought found
  rw [run_between fastHash (by simpa only [registerBlocks_backend] using between), registerBlocks_session]
  cases lastSession fastHash (fastHash thought) later with
  | none => simp [registerBlocks_live, List.mem_map_of_mem (covers block member thought found)]
  | some sessionId => simp

/-- Whatever the content, its split into deltas and the interleaving of its indices, the round
trip works exactly when the content is echoable. -/
theorem echo_roundTrip_iff (r : ThinkingRegistry H) {content : List ContentBlock} {response : Json}
    {events : List SseEvent} {later : List Call} (now : Nat)
    (answered : response.arrayAt "content" = some (content.map ContentBlock.toJson))
    (streams : Streams content events) (between : ∀ action ∈ later, Between r.currentBackend action) :
    r.RoundTrip fastHash content response events later now ↔ r.Echoable fastHash content later := by
  have fromResponse : ∀ block ∈ content, ∀ thought, block.thought = some thought →
      thought ∈ responseContents (some response) :=
    fun block member thought found => (mem_responseContents answered).mpr ⟨block, member, found⟩
  constructor
  · rintro ⟨accepted, json, _⟩
    exact ⟨(accepted_iff answered streams).mp accepted,
      (passes_registered fastHash between fromResponse).mp json⟩
  · rintro ⟨texts, sessions⟩
    have accepted := (accepted_iff answered streams).mpr texts
    refine ⟨accepted, (passes_registered fastHash between fromResponse).mpr sessions, ?_⟩
    rw [registerFromSseStream_eq]
    exact (passes_registered fastHash between
      (fun block member thought found => (accepted thought).mp (fromResponse block member thought found))).mpr sessions

theorem interleaved_roundTrip :
    (new : ThinkingRegistry String).RoundTrip id [.thinking "ab" "s", .text "c"]
      (.object [("content", .array [thinkingBlock "ab" "s", (ContentBlock.text "c").toJson])])
      [⟨"message_start", .object []⟩, .start 0 (thinkingBlock "" ""), .start 1 (ContentBlock.text "").toJson,
        .delta 0 (.thinking "a"), .delta 1 (.text "c"), .delta 0 (.thinking "b"), .stop 1,
        .delta 0 (.signature "s"), .stop 0] [] 0 := by
  have first := @Delivers.thinking 0 "" "" [.thinking "a", .thinking "b", .signature "s"]
  have second := @Delivers.text 1 ["c"]
  rw [show "" ++ Delta.thinkingText [.thinking "a", .thinking "b", .signature "s"] = "ab" by decide,
    show "" ++ Delta.signatureText [.thinking "a", .thinking "b", .signature "s"] = "s" by decide] at first
  rw [show String.join ["c"] = "c" by decide] at second
  refine (echo_roundTrip_iff id new 0 rfl ⟨[(0, .thinking "ab" "s"), (1, .text "c")], rfl, ?_⟩
    (by simp)).mpr ⟨by simp, by simp [lastSession]⟩
  have bare : (⟨"message_start", .object []⟩ : SseEvent).index = none := rfl
  refine ⟨by decide, ?_, by simp [bare], by decide⟩
  simp only [List.mem_cons, Prod.mk.injEq, List.not_mem_nil, or_false]
  rintro index block (⟨rfl, rfl⟩ | ⟨rfl, rfl⟩)
  · exact first
  · exact second

/-- A block that carries only a signature is accepted from a JSON body and not from a stream. -/
theorem signature_only_roundTrip :
    let events := SseEvent.framed 0 (thinkingBlock "" "") [.signature "s"]
    Streams [.thinking "" "s"] events ∧
      ¬ (new : ThinkingRegistry String).RoundTrip id [.thinking "" "s"]
        (.object [("content", .array [thinkingBlock "" "s"])]) events [] 0 := by
  intro events
  constructor
  · have delivered := @Delivers.thinking 0 "" "" [.signature "s"]
    rw [show "" ++ Delta.signatureText [.signature "s"] = "s" by decide] at delivered
    refine ⟨[(0, .thinking "" "s")], rfl, by decide, ?_, by simp [events, SseEvent.framed], by decide⟩
    simp only [List.mem_cons, Prod.mk.injEq, List.not_mem_nil, or_false]
    rintro index block ⟨rfl, rfl⟩
    exact delivered
  · rintro ⟨accepted, _, _⟩
    exact absurd ((accepted "").mp (by decide)) (by decide)

end ThinkingRegistry

end Anycode.Thinking
