import Anycode.Thinking.Live

/-!
# Blocks delivered over a stream

An upstream delivers each content block under an index: a start event, the deltas, a stop
event. Events of different indices interleave freely. The registry's loop keeps one
accumulator an index, so what it reassembles under an index depends on the events of that
index alone.
-/

namespace Anycode.Thinking
open Data

/-! ### Content and its delivery -/

inductive ContentBlock where
  | text (text : String)
  | toolUse (id name : String) (input : Json)
  | thinking (text signature : String)
  | redactedThinking (data : String)

inductive Delta where
  | text (part : String)
  | inputJson (part : String)
  | thinking (part : String)
  | signature (part : String)

namespace ContentBlock

def toJson : ContentBlock → Json
  | .text words => .object [("text", .string words), ("type", .string "text")]
  | .toolUse id name input =>
    .object [("id", .string id), ("input", input), ("name", .string name), ("type", .string "tool_use")]
  | .thinking words signature => thinkingBlock words signature
  | .redactedThinking data => redactedThinkingBlock data

def thought : ContentBlock → Option String
  | .thinking words _ => some words
  | .redactedThinking data => some data
  | _ => none

/-- The contents that the stream path accepts of a block: it skips an empty thinking text. -/
def streamed : ContentBlock → List String
  | .thinking words _ => if words.isEmpty then [] else [words]
  | .redactedThinking data => [data]
  | _ => []

@[simp] theorem extract_toJson (block : ContentBlock) : extractThinkingContent block.toJson = block.thought := by
  cases block <;> rfl

theorem isThinkingItem_toJson (block : ContentBlock) : isThinkingItem block.toJson = block.thought.isSome := by
  cases block <;> rfl

end ContentBlock

namespace Delta

def toJson : Delta → Json
  | .text part => .object [("text", .string part), ("type", .string "text_delta")]
  | .inputJson part => .object [("partial_json", .string part), ("type", .string "input_json_delta")]
  | .thinking part => .object [("thinking", .string part), ("type", .string "thinking_delta")]
  | .signature part => .object [("signature", .string part), ("type", .string "signature_delta")]

def thinkingText : List Delta → String
  | [] => ""
  | .thinking part :: rest => part ++ thinkingText rest
  | _ :: rest => thinkingText rest

def signatureText : List Delta → String
  | [] => ""
  | .signature part :: rest => part ++ signatureText rest
  | _ :: rest => signatureText rest

end Delta

namespace SseEvent

def start (index : UInt64) (block : Json) : SseEvent :=
  ⟨"content_block_start", .object [("content_block", block), ("index", .number (.posInt index)),
    ("type", .string "content_block_start")]⟩

def delta (index : UInt64) (delta : Delta) : SseEvent :=
  ⟨"content_block_delta", .object [("delta", delta.toJson), ("index", .number (.posInt index)),
    ("type", .string "content_block_delta")]⟩

def stop (index : UInt64) : SseEvent :=
  ⟨"content_block_stop", .object [("index", .number (.posInt index)), ("type", .string "content_block_stop")]⟩

@[simp] theorem index_start (index : UInt64) (block : Json) : (start index block).index = some index := rfl

@[simp] theorem index_delta (index : UInt64) (part : Delta) : (delta index part).index = some index := rfl

@[simp] theorem index_stop (index : UInt64) : (stop index).index = some index := rfl

@[simp] theorem eventType_start (index : UInt64) (block : Json) :
    (start index block).eventType = "content_block_start" := rfl

@[simp] theorem eventType_delta (index : UInt64) (part : Delta) :
    (delta index part).eventType = "content_block_delta" := rfl

@[simp] theorem eventType_stop (index : UInt64) : (stop index).eventType = "content_block_stop" := rfl

def framed (index : UInt64) (block : Json) (deltas : List Delta) : List SseEvent :=
  start index block :: (deltas.map (delta index) ++ [stop index])

end SseEvent

/-- The events deliver the block under the index, its text split over the start event and any
deltas. -/
inductive Delivers (index : UInt64) : ContentBlock → List SseEvent → Prop
  | text (parts : List String) :
    Delivers index (.text (String.join parts))
      (SseEvent.framed index (ContentBlock.text "").toJson (parts.map .text))
  | toolUse (id name : String) (input : Json) (parts : List String) :
    Delivers index (.toolUse id name input)
      (SseEvent.framed index (ContentBlock.toolUse id name (.object [])).toJson (parts.map .inputJson))
  | thinking (text signature : String) (deltas : List Delta) :
    Delivers index (.thinking (text ++ Delta.thinkingText deltas) (signature ++ Delta.signatureText deltas))
      (SseEvent.framed index (thinkingBlock text signature) deltas)
  | redactedThinking (data : String) :
    Delivers index (.redactedThinking data) (SseEvent.framed index (redactedThinkingBlock data) [])

def atIndex (index : UInt64) (events : List SseEvent) : List SseEvent :=
  events.filter (fun event => event.index == some index)

/-- The events deliver each block under an index of its own, interleaved in any way, and the
events without an index start no block. -/
structure Delivery (blocks : List (UInt64 × ContentBlock)) (events : List SseEvent) : Prop where
  distinct : (blocks.map Prod.fst).Nodup
  delivers : ∀ index block, (index, block) ∈ blocks → Delivers index block (atIndex index events)
  indexed : ∀ event ∈ events, ∀ index, event.index = some index → index ∈ blocks.map Prod.fst
  envelope : ∀ event ∈ events, event.index = none → event.eventType ≠ "content_block_start"

def Streams (content : List ContentBlock) (events : List SseEvent) : Prop :=
  ∃ blocks, blocks.map Prod.snd = content ∧ Delivery blocks events

/-! ### One event -/

theorem sseEvent_other {event : SseEvent} {index : UInt64} (accumulators : Accumulators)
    (other : event.index ≠ some index) :
    (sseEvent accumulators event).1.find index = accumulators.find index := by
  unfold sseEvent
  split
  · split
    · rfl
    · split
      · split
        · rename_i found
          rw [Assoc.find_insert, if_neg (fun same => other (by rw [found, same]))]
        · rfl
      · split <;> rfl
  · split
    · split
      · rfl
      · split
        · split
          · rename_i found _
            rw [Assoc.find_modify, if_neg (fun same => other (by rw [found, same]))]
          · rfl
        · rfl
    · split
      · split
        · rfl
        · rename_i found
          split
          · rfl
          · rw [Assoc.find_erase, if_neg (fun same => other (by rw [found, same]))]
      · rfl

/-- What an event of an index does to that index depends on its accumulator alone. -/
theorem sseEvent_congr {event : SseEvent} {index : UInt64} {left right : Accumulators}
    (at_index : event.index = some index) (same : left.find index = right.find index) :
    (sseEvent left event).1.find index = (sseEvent right event).1.find index ∧
      (sseEvent left event).2 = (sseEvent right event).2 := by
  unfold sseEvent
  simp only [at_index]
  split
  · split
    · exact ⟨same, rfl⟩
    · split
      · simp only [Assoc.find_insert, if_true, and_self]
      · split <;> exact ⟨same, rfl⟩
  · split
    · split
      · exact ⟨same, rfl⟩
      · split
        · split
          · rename_i found _
            cases found
            simp only [Assoc.find_modify, if_true, same, and_self]
          · exact ⟨same, rfl⟩
        · exact ⟨same, rfl⟩
    · split
      · rw [same]
        split
        · exact ⟨same, rfl⟩
        · simp only [Assoc.find_erase, if_true, and_self]
      · exact ⟨same, rfl⟩

theorem sseEvent_envelope {event : SseEvent} (accumulators : Accumulators) (bare : event.index = none)
    (noStart : event.eventType ≠ "content_block_start") : (sseEvent accumulators event).2 = none := by
  unfold sseEvent
  simp only [bare, if_neg noStart]
  split
  · split
    · rfl
    · split <;> rfl
  · split <;> rfl

/-! ### A whole stream, index by index -/

namespace ThinkingRegistry

theorem sseBlocks_congr {index : UInt64} {left right : Accumulators} {events : List SseEvent}
    (same : left.find index = right.find index) (of_index : ∀ event ∈ events, event.index = some index) :
    (sseBlocks left events).2.find index = (sseBlocks right events).2.find index ∧
      (sseBlocks left events).1 = (sseBlocks right events).1 := by
  induction events generalizing left right with
  | nil => exact ⟨same, rfl⟩
  | cons event rest ih =>
    obtain ⟨finds, blocks⟩ := sseEvent_congr (of_index event List.mem_cons_self) same
    obtain ⟨final, later⟩ := ih finds (fun event member => of_index event (List.mem_cons_of_mem _ member))
    exact ⟨final, by simp only [sseBlocks, blocks, later]⟩

theorem atIndex_index {index : UInt64} {events : List SseEvent} :
    ∀ event ∈ atIndex index events, event.index = some index :=
  fun _ member => beq_iff_eq.mp (List.mem_filter.mp member).2

theorem atIndex_cons_same {index : UInt64} {event : SseEvent} (rest : List SseEvent)
    (found : event.index = some index) : atIndex index (event :: rest) = event :: atIndex index rest :=
  List.filter_cons_of_pos (beq_iff_eq.mpr found)

theorem atIndex_cons_other {index : UInt64} {event : SseEvent} (rest : List SseEvent)
    (other : event.index ≠ some index) : atIndex index (event :: rest) = atIndex index rest :=
  List.filter_cons_of_neg (fun found => other (beq_iff_eq.mp found))

theorem sseBlocks_final (index : UInt64) (accumulators : Accumulators) (events : List SseEvent) :
    (sseBlocks accumulators events).2.find index =
      (sseBlocks accumulators (atIndex index events)).2.find index := by
  induction events generalizing accumulators with
  | nil => rfl
  | cons event rest ih =>
    by_cases found : event.index = some index
    · rw [atIndex_cons_same rest found]
      exact ih _
    · rw [atIndex_cons_other rest found]
      exact (ih _).trans (sseBlocks_congr (sseEvent_other accumulators found) atIndex_index).1

theorem mem_sseBlocks {accumulators : Accumulators} {events : List SseEvent} {content : String}
    (envelope : ∀ event ∈ events, event.index = none → event.eventType ≠ "content_block_start") :
    content ∈ (sseBlocks accumulators events).1 ↔
      ∃ index, content ∈ (sseBlocks accumulators (atIndex index events)).1 := by
  induction events generalizing accumulators with
  | nil => simp [sseBlocks, atIndex]
  | cons event rest ih =>
    have later := @ih (sseEvent accumulators event).1
      (fun event member => envelope event (List.mem_cons_of_mem _ member))
    have others : ∀ index, event.index ≠ some index →
        (sseBlocks (sseEvent accumulators event).1 (atIndex index rest)).1 =
          (sseBlocks accumulators (atIndex index (event :: rest))).1 := by
      intro index other
      rw [atIndex_cons_other rest other]
      exact (sseBlocks_congr (sseEvent_other accumulators other) atIndex_index).2
    simp only [sseBlocks, List.mem_append, later]
    -- The event completes a block of its own index, or none.
    cases found : event.index with
    | none =>
      rw [sseEvent_envelope accumulators found (envelope event List.mem_cons_self found)]
      simp only [Option.toList_none, List.not_mem_nil, false_or]
      exact exists_congr fun index => by rw [others index (by simp [found])]
    | some own =>
      constructor
      · rintro (now | ⟨index, member⟩)
        · refine ⟨own, ?_⟩
          rw [atIndex_cons_same rest found]
          exact List.mem_append_left _ now
        · by_cases same : own = index
          · subst same
            refine ⟨own, ?_⟩
            rw [atIndex_cons_same rest found]
            exact List.mem_append_right _ member
          · exact ⟨index, others index (by simp [found, same]) ▸ member⟩
      · rintro ⟨index, member⟩
        by_cases same : own = index
        · subst same
          rw [atIndex_cons_same rest found] at member
          exact (List.mem_append.mp member).imp_right fun tail => ⟨own, tail⟩
        · exact .inr ⟨index, (others index (by simp [found, same])).symm ▸ member⟩

/-! ### What the events of a block register -/

theorem sseEvent_delta (index : UInt64) (accumulators : Accumulators) (delta : Delta) :
    sseEvent accumulators (.delta index delta) =
      (match delta with | .thinking part => accumulators.modify index (· ++ part) | _ => accumulators, none) := by
  cases delta <;> rfl

theorem sseEvent_stop (index : UInt64) (accumulators : Accumulators) :
    sseEvent accumulators (.stop index) =
      match accumulators.find index with
      | none => (accumulators, none)
      | some text => (accumulators.erase index, if text.isEmpty then none else some text) := rfl

theorem sseBlocks_thinking {index : UInt64} {accumulators : Accumulators} {text : String}
    (found : accumulators.find index = some text) (deltas : List Delta) :
    let blocks := sseBlocks accumulators (deltas.map (.delta index) ++ [.stop index])
    blocks.2.find index = none ∧
      blocks.1 = if (text ++ Delta.thinkingText deltas).isEmpty then [] else [text ++ Delta.thinkingText deltas] := by
  induction deltas generalizing accumulators text with
  | nil =>
    simp only [List.map_nil, List.nil_append, sseBlocks, sseEvent_stop, found, Delta.thinkingText,
      String.append_empty, Assoc.find_erase, if_true, List.append_nil, true_and]
    split <;> rfl
  | cons delta rest ih =>
    simp only [List.map_cons, List.cons_append, sseBlocks, sseEvent_delta]
    cases delta with
    | thinking part =>
      have pushed : (accumulators.modify index (· ++ part)).find index = some (text ++ part) := by
        rw [Assoc.find_modify, if_pos rfl, found, Option.map_some]
      have := ih pushed
      rwa [String.append_assoc] at this
    | _ => exact ih found

theorem sseBlocks_other {index : UInt64} {accumulators : Accumulators}
    (absent : accumulators.find index = none) (deltas : List Delta) :
    let blocks := sseBlocks accumulators (deltas.map (.delta index) ++ [.stop index])
    blocks.2.find index = none ∧ blocks.1 = [] := by
  induction deltas generalizing accumulators with
  | nil => simp only [List.map_nil, List.nil_append, sseBlocks, sseEvent_stop, absent, Option.toList_none, and_self]
  | cons delta rest ih =>
    simp only [List.map_cons, List.cons_append, sseBlocks, sseEvent_delta]
    cases delta with
    | thinking part =>
      refine ih ?_
      rw [Assoc.find_modify, if_pos rfl, absent, Option.map_none]
    | _ => exact ih absent

/-- The events of one block leave no accumulator and complete its thought, unless it is the
empty text of a thinking block. -/
theorem sseBlocks_delivers {index : UInt64} {block : ContentBlock} {events : List SseEvent}
    (delivers : Delivers index block events) :
    (sseBlocks [] events).2.find index = none ∧ (sseBlocks [] events).1 = block.streamed := by
  cases delivers with
  | text parts => exact sseBlocks_other rfl _
  | toolUse id name input parts => exact sseBlocks_other rfl _
  | thinking text signature deltas =>
    exact @sseBlocks_thinking index [(index, text)] text (if_pos rfl) deltas
  | redactedThinking data =>
    obtain ⟨final, _⟩ := @sseBlocks_other index [] rfl []
    exact ⟨final, rfl⟩

theorem mem_sseContents {content : List ContentBlock} {events : List SseEvent} (streams : Streams content events)
    {thought : String} : thought ∈ sseContents events ↔ ∃ block ∈ content, thought ∈ block.streamed := by
  obtain ⟨blocks, rfl, delivery⟩ := streams
  have unused : ∀ index, index ∉ blocks.map Prod.fst → atIndex index events = [] := by
    intro index absent
    refine List.filter_eq_nil_iff.mpr fun event member found => absent ?_
    exact delivery.indexed event member index (beq_iff_eq.mp found)
  have final : (sseBlocks [] events).2 = [] := by
    apply Assoc.eq_nil_of_find
    intro index
    rw [sseBlocks_final]
    by_cases used : index ∈ blocks.map Prod.fst
    · obtain ⟨⟨_, block⟩, member, rfl⟩ := List.mem_map.mp used
      exact (sseBlocks_delivers (delivery.delivers _ block member)).1
    · rw [unused index used]
      rfl
  rw [sseContents, final, remainingContents, List.map_nil, List.filter_nil, List.append_nil,
    mem_sseBlocks delivery.envelope]
  constructor
  · rintro ⟨index, member⟩
    by_cases used : index ∈ blocks.map Prod.fst
    · obtain ⟨⟨_, block⟩, listed, rfl⟩ := List.mem_map.mp used
      rw [(sseBlocks_delivers (delivery.delivers _ block listed)).2] at member
      exact ⟨block, List.mem_map_of_mem listed, member⟩
    · rw [unused index used] at member
      cases member
  · rintro ⟨block, listed, member⟩
    obtain ⟨⟨index, _⟩, entry, rfl⟩ := List.mem_map.mp listed
    refine ⟨index, ?_⟩
    rw [(sseBlocks_delivers (delivery.delivers index _ entry)).2]
    exact member

end ThinkingRegistry

end Anycode.Thinking
