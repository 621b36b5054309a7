import Anycode.Data.Json

/-!
# Thinking blocks in a request body

How the proxy walks `messages[*].content[*]` of a JSON body: which items are thinking blocks,
what a block's content is, and the `retain` loop that both the registry's filter and the
strip-all pass run over every content array.
-/

namespace Anycode.Thinking
open Data

def isThinkingItem (item : Json) : Bool :=
  item.strAt "type" == some "thinking" || item.strAt "type" == some "redacted_thinking"

def extractThinkingContent (item : Json) : Option String :=
  match item.strAt "type" with
  | none => none
  | some itemType =>
    if itemType = "thinking" then item.strAt "thinking"
    else if itemType = "redacted_thinking" then item.strAt "data"
    else none

def messages (body : Json) : List Json := (body.arrayAt "messages").getD []

def contentOf (message : Json) : List Json := (message.arrayAt "content").getD []

def contentItems (body : Json) : List Json := (messages body).flatMap contentOf

def thinkingItems (body : Json) : List Json := (contentItems body).filter isThinkingItem

def requestContents (body : Json) : List String := (contentItems body).filterMap extractThinkingContent

/-- The source's `has_history` of the registry and `has_assistant_messages` of the transform. -/
def hasAssistantMessages (body : Json) : Bool :=
  (messages body).any (fun message => message.strAt "role" == some "assistant")

/-! ### Blocks as the API spells them -/

def thinkingBlock (text signature : String) : Json :=
  .object [("signature", .string signature), ("thinking", .string text), ("type", .string "thinking")]

def redactedThinkingBlock (data : String) : Json :=
  .object [("data", .string data), ("type", .string "redacted_thinking")]

def echoRequest (content : List Json) : Json :=
  .object [("messages", .array [.object [("content", .array content), ("role", .string "assistant")]])]

/-! ### The retain loop -/

/-- `content.retain(keep)` on one message, with the removed count cast to `u32`. -/
def retainMessage (keep : Json → Bool) (message : Json) : Json × UInt32 :=
  match message.arrayAt "content" with
  | none => (message, 0)
  | some content =>
    let kept := content.filter keep
    (message.modify "content" (fun _ => .array kept), UInt32.ofNat (content.length - kept.length))

/-- The loop over the messages; `removed` is the `u32` accumulator, which wraps. -/
def retainMessages (keep : Json → Bool) : List Json → UInt32 → List Json × UInt32
  | [], removed => ([], removed)
  | message :: rest, removed =>
    let (kept, count) := retainMessage keep message
    let (others, total) := retainMessages keep rest (removed + count)
    (kept :: others, total)

def retainContent (keep : Json → Bool) (body : Json) : Json × UInt32 :=
  match body.arrayAt "messages" with
  | none => (body, 0)
  | some items =>
    let (kept, removed) := retainMessages keep items 0
    (body.modify "messages" (fun _ => .array kept), removed)

def removedItems (keep : Json → Bool) (body : Json) : Nat :=
  (contentItems body).countP (fun item => !keep item)

/-- `after` is `before` with its content array reduced to the items that satisfy `keep`. -/
structure MessageFiltered (keep : Json → Bool) (before after : Json) : Prop where
  content : ∀ items, before.get "content" = some (.array items) →
    after.get "content" = some (.array (items.filter keep))
  frame : ∀ key, key ≠ "content" → after.get key = before.get key
  untouched : (∀ items, before.get "content" ≠ some (.array items)) → after = before

/-- `after` is `before` with each message's content array reduced to the items that satisfy
`keep`, in order, and nothing else changed. -/
structure ContentFiltered (keep : Json → Bool) (before after : Json) : Prop where
  messages : ∀ items, before.get "messages" = some (.array items) →
    ∃ kept, after.get "messages" = some (.array kept) ∧ List.Forall₂ (MessageFiltered keep) items kept
  frame : ∀ key, key ≠ "messages" → after.get key = before.get key
  untouched : (∀ items, before.get "messages" ≠ some (.array items)) → after = before

/-! ### What the loop does -/

theorem retainMessage_filtered (keep : Json → Bool) (message : Json) :
    MessageFiltered keep message (retainMessage keep message).1 := by
  unfold retainMessage
  cases found : message.arrayAt "content" with
  | none =>
    have absent := Json.arrayAt_eq_none.mp found
    exact ⟨fun items present => absurd present (absent items), fun _ _ => rfl, fun _ => rfl⟩
  | some content =>
    have present := Json.arrayAt_eq_some.mp found
    refine ⟨fun items same => ?_, fun key different => Json.get_modify_other _ _ different,
      fun absent => absurd present (absent content)⟩
    rw [present] at same
    cases same
    simp [present]

theorem retainMessages_filtered (keep : Json → Bool) (items : List Json) (removed : UInt32) :
    List.Forall₂ (MessageFiltered keep) items (retainMessages keep items removed).1 := by
  induction items generalizing removed with
  | nil => exact .nil
  | cons message rest ih => exact .cons (retainMessage_filtered keep message) (ih _)

theorem retainContent_filtered (keep : Json → Bool) (body : Json) :
    ContentFiltered keep body (retainContent keep body).1 := by
  unfold retainContent
  cases found : body.arrayAt "messages" with
  | none =>
    have absent := Json.arrayAt_eq_none.mp found
    exact ⟨fun items present => absurd present (absent items), fun _ _ => rfl, fun _ => rfl⟩
  | some items =>
    have present := Json.arrayAt_eq_some.mp found
    refine ⟨fun others same => ?_, fun key different => Json.get_modify_other _ _ different,
      fun absent => absurd present (absent items)⟩
    rw [present] at same
    cases same
    exact ⟨_, by simp [present], retainMessages_filtered keep items 0⟩

theorem MessageFiltered.contentOf {keep : Json → Bool} {before after : Json}
    (filtered : MessageFiltered keep before after) : contentOf after = (contentOf before).filter keep := by
  unfold Thinking.contentOf
  cases found : before.arrayAt "content" with
  | none =>
    rw [filtered.untouched (Json.arrayAt_eq_none.mp found), found]
    rfl
  | some items =>
    have kept := filtered.content items (Json.arrayAt_eq_some.mp found)
    rw [Json.arrayAt_eq_some.mpr kept]
    rfl

theorem MessageFiltered.refl (message : Json) : MessageFiltered (fun _ => true) message message where
  content items present := by rw [present, List.filter_eq_self.mpr (fun _ _ => rfl)]
  frame _ _ := rfl
  untouched _ := rfl

theorem MessageFiltered.trans {first second : Json → Bool} {before between after : Json}
    (left : MessageFiltered first before between) (right : MessageFiltered second between after) :
    MessageFiltered (fun item => first item && second item) before after where
  content items present := by
    rw [right.content _ (left.content items present), List.filter_filter]
    simp only [Bool.and_comm]
  frame key different := (right.frame key different).trans (left.frame key different)
  untouched absent := by
    have same := left.untouched absent
    subst same
    exact right.untouched absent

theorem messageFiltered_trans {first second : Json → Bool} {before between after : List Json}
    (left : List.Forall₂ (MessageFiltered first) before between)
    (right : List.Forall₂ (MessageFiltered second) between after) :
    List.Forall₂ (MessageFiltered fun item => first item && second item) before after := by
  induction left generalizing after with
  | nil =>
    cases right
    exact .nil
  | cons head _ ih =>
    cases right with
    | cons next rest => exact .cons (head.trans next) (ih rest)

theorem ContentFiltered.messages_forall {keep : Json → Bool} {before after : Json}
    (filtered : ContentFiltered keep before after) :
    List.Forall₂ (MessageFiltered keep) (Thinking.messages before) (Thinking.messages after) := by
  unfold Thinking.messages
  cases found : before.arrayAt "messages" with
  | none =>
    rw [filtered.untouched (Json.arrayAt_eq_none.mp found), found]
    exact .nil
  | some items =>
    obtain ⟨kept, present, pairs⟩ := filtered.messages items (Json.arrayAt_eq_some.mp found)
    rw [Json.arrayAt_eq_some.mpr present]
    exact pairs

theorem flatMap_contentOf {keep : Json → Bool} {before after : List Json}
    (pairs : List.Forall₂ (MessageFiltered keep) before after) :
    after.flatMap contentOf = (before.flatMap contentOf).filter keep := by
  induction pairs with
  | nil => rfl
  | cons head _ ih => simp only [List.flatMap_cons, List.filter_append, head.contentOf, ih]

theorem ContentFiltered.contentItems {keep : Json → Bool} {before after : Json}
    (filtered : ContentFiltered keep before after) :
    contentItems after = (contentItems before).filter keep :=
  flatMap_contentOf filtered.messages_forall

theorem any_role {keep : Json → Bool} {before after : List Json}
    (pairs : List.Forall₂ (MessageFiltered keep) before after) :
    after.any (fun message => message.strAt "role" == some "assistant") =
      before.any (fun message => message.strAt "role" == some "assistant") := by
  induction pairs with
  | nil => rfl
  | cons head _ ih => simp only [List.any_cons, ih, Json.strAt_congr (head.frame "role" (by decide))]

theorem ContentFiltered.hasAssistantMessages {keep : Json → Bool} {before after : Json}
    (filtered : ContentFiltered keep before after) :
    hasAssistantMessages after = hasAssistantMessages before :=
  any_role filtered.messages_forall

/-! ### The removed count -/

theorem retainMessage_count (keep : Json → Bool) (message : Json) :
    (retainMessage keep message).2 =
      UInt32.ofNat ((contentOf message).countP (fun item => !keep item)) := by
  unfold retainMessage contentOf
  cases message.arrayAt "content" with
  | none => rfl
  | some content =>
    have total := List.length_eq_countP_add_countP keep (l := content)
    have failed : content.countP (fun item => decide ¬keep item = true) =
        content.countP (fun item => !keep item) :=
      List.countP_congr (fun item _ => by simp)
    simp only [Option.getD_some, ← List.countP_eq_length_filter]
    rw [failed] at total
    congr 1
    omega

theorem retainMessages_count (keep : Json → Bool) (items : List Json) (removed : UInt32) :
    (retainMessages keep items removed).2 =
      removed + UInt32.ofNat ((items.flatMap contentOf).countP (fun item => !keep item)) := by
  induction items generalizing removed with
  | nil => simp [retainMessages]
  | cons message rest ih =>
    simp only [retainMessages, ih, retainMessage_count, List.flatMap_cons, List.countP_append,
      UInt32.ofNat_add, UInt32.add_assoc]

/-- The loop's count is the number of removed items, as a `u32`. -/
theorem retainContent_count (keep : Json → Bool) (body : Json) :
    (retainContent keep body).2 = UInt32.ofNat (removedItems keep body) := by
  unfold retainContent removedItems contentItems messages
  cases body.arrayAt "messages" with
  | none => rfl
  | some items => simp [retainMessages_count]

/-! ### Only the verdicts on the body's own items matter -/

theorem retainMessage_congr {keep other : Json → Bool} {message : Json}
    (agree : ∀ item ∈ contentOf message, keep item = other item) :
    retainMessage keep message = retainMessage other message := by
  unfold retainMessage
  unfold contentOf at agree
  cases found : message.arrayAt "content" with
  | none => rfl
  | some content =>
    rw [found] at agree
    have same : content.filter keep = content.filter other := List.filter_congr agree
    simp only [same]

theorem retainMessages_congr {keep other : Json → Bool} {items : List Json} (removed : UInt32)
    (agree : ∀ item ∈ items.flatMap contentOf, keep item = other item) :
    retainMessages keep items removed = retainMessages other items removed := by
  induction items generalizing removed with
  | nil => rfl
  | cons message rest ih =>
    simp only [List.flatMap_cons, List.mem_append] at agree
    simp only [retainMessages, retainMessage_congr (fun item member => agree item (.inl member)),
      ih _ (fun item member => agree item (.inr member))]

theorem retainContent_congr {keep other : Json → Bool} {body : Json}
    (agree : ∀ item ∈ contentItems body, keep item = other item) :
    retainContent keep body = retainContent other body := by
  unfold retainContent
  unfold contentItems messages at agree
  cases found : body.arrayAt "messages" with
  | none => rfl
  | some items =>
    rw [found, Option.getD_some] at agree
    simp only [retainMessages_congr 0 agree]

theorem retainMessage_all (message : Json) : (retainMessage (fun _ => true) message).1 = message := by
  unfold retainMessage
  cases found : message.arrayAt "content" with
  | none => rfl
  | some content =>
    refine Json.modify_self ?_
    intro item present
    rw [Json.arrayAt_eq_some.mp found] at present
    cases present
    simp

theorem retainMessages_all (items : List Json) (removed : UInt32) :
    (retainMessages (fun _ => true) items removed).1 = items := by
  induction items generalizing removed with
  | nil => rfl
  | cons message rest ih => simp only [retainMessages, retainMessage_all, ih]

theorem retainContent_self {keep : Json → Bool} {body : Json}
    (all : ∀ item ∈ contentItems body, keep item = true) : (retainContent keep body).1 = body := by
  rw [retainContent_congr (all : ∀ item ∈ contentItems body, keep item = (fun _ => true) item)]
  unfold retainContent
  cases found : body.arrayAt "messages" with
  | none => rfl
  | some items =>
    refine Json.modify_self ?_
    intro item present
    rw [Json.arrayAt_eq_some.mp found] at present
    cases present
    exact congrArg Json.array (retainMessages_all items 0)

theorem removedItems_eq_zero {keep : Json → Bool} {body : Json} :
    removedItems keep body = 0 ↔ ∀ item ∈ contentItems body, keep item = true := by
  simp [removedItems, List.countP_eq_zero]

/-! ### Blocks and their contents -/

theorem isThinkingItem_of_extract {item : Json} {content : String}
    (found : extractThinkingContent item = some content) : isThinkingItem item = true := by
  unfold extractThinkingContent at found
  split at found
  · cases found
  · rename_i itemType typed
    split at found
    · simp_all [isThinkingItem]
    · split at found
      · simp_all [isThinkingItem]
      · cases found

@[simp] theorem extract_thinkingBlock (text signature : String) :
    extractThinkingContent (thinkingBlock text signature) = some text := rfl

@[simp] theorem contentItems_echoRequest (content : List Json) :
    contentItems (echoRequest content) = content := List.append_nil content

theorem messages_congr {left right : Json} (same : left.get "messages" = right.get "messages") :
    messages left = messages right := by
  rw [messages, Json.arrayAt_congr same, messages]

theorem hasAssistantMessages_congr {left right : Json} (same : left.get "messages" = right.get "messages") :
    hasAssistantMessages left = hasAssistantMessages right := by
  rw [hasAssistantMessages, messages_congr same, hasAssistantMessages]

theorem contentItems_congr {left right : Json} (same : left.get "messages" = right.get "messages") :
    contentItems left = contentItems right := by
  rw [contentItems, messages_congr same, contentItems]

theorem mem_requestContents {body : Json} {content : String} :
    content ∈ requestContents body ↔
      ∃ item ∈ contentItems body, extractThinkingContent item = some content :=
  List.mem_filterMap

theorem mem_thinkingItems {body item : Json} :
    item ∈ thinkingItems body ↔ item ∈ contentItems body ∧ isThinkingItem item = true :=
  List.mem_filter

end Anycode.Thinking
