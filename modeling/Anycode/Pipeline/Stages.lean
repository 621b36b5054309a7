import Mathlib.Data.List.Forall2
import Anycode.Pipeline.Transform

/-!
# What the stages do

Each stage of the transformation, described by the keys it leaves alone and by what it does to
the messages; then `transform_body` as the fully transformed body behind one decision.
-/

namespace Anycode.Pipeline
open Data Config Thinking

/-! ### Stages 4.1 and 4.2 -/

theorem rewriteModel_mapping (backend : Backend) (body : Json) :
    (rewriteModel backend body).2.isSome = ((body.strAt "model").bind backend.resolveModel).isSome := by
  unfold rewriteModel
  cases body.strAt "model" with
  | none => rfl
  | some model => cases resolved : backend.resolveModel model <;> simp [resolved]

theorem rewriteModel_frame {key : String} (backend : Backend) (body : Json) (different : key ≠ "model") :
    (rewriteModel backend body).1.get key = body.get key := by
  unfold rewriteModel
  split
  · rfl
  · split
    · rfl
    · exact Json.get_insert_other _ _ different

theorem rewriteModel_self {backend : Backend} {body : Json} (unmapped : (rewriteModel backend body).2 = none) :
    (rewriteModel backend body).1 = body := by
  unfold rewriteModel at unmapped ⊢
  split
  · rfl
  · split
    · rfl
    · simp_all

def adapted (backend : Backend) (body : Json) : Json :=
  if backend.needsThinkingCompat then
    (convertAdaptiveThinking (rewriteModel backend body).1 backend.thinkingBudgetTokens).1
  else (rewriteModel backend body).1

def converts (backend : Backend) (body : Json) : Bool := backend.needsThinkingCompat && isAdaptive body

theorem isAdaptive_rewriteModel (backend : Backend) (body : Json) :
    isAdaptive (rewriteModel backend body).1 = isAdaptive body := by
  rw [isAdaptive, rewriteModel_frame backend body (by decide), isAdaptive]

theorem thinking_of_isAdaptive {body : Json} (adaptive : isAdaptive body = true) :
    (body.get "thinking").isSome = true := by
  unfold isAdaptive at adaptive
  cases found : body.get "thinking" with
  | none => simp [found] at adaptive
  | some _ => rfl

theorem adapted_eq (backend : Backend) (body : Json) :
    adapted backend body =
      if converts backend body then
        (rewriteModel backend body).1.insert "thinking"
          (enabledThinking (thinkingBudget (rewriteModel backend body).1 backend.thinkingBudgetTokens))
      else (rewriteModel backend body).1 := by
  unfold adapted converts convertAdaptiveThinking
  rw [isAdaptive_rewriteModel]
  cases backend.needsThinkingCompat <;> cases isAdaptive body <;> rfl

theorem adapted_frame {key : String} (backend : Backend) (body : Json) (notModel : key ≠ "model")
    (notThinking : key ≠ "thinking") : (adapted backend body).get key = body.get key := by
  rw [adapted_eq]
  split
  · rw [Json.get_insert_other _ _ notThinking, rewriteModel_frame backend body notModel]
  · exact rewriteModel_frame backend body notModel

theorem adapted_thinking (backend : Backend) (body : Json) :
    ((adapted backend body).get "thinking").isSome = (body.get "thinking").isSome := by
  have remapped := rewriteModel_frame backend body (show "thinking" ≠ "model" by decide)
  rw [adapted_eq]
  split
  · rename_i converted
    have present := thinking_of_isAdaptive (Bool.and_eq_true_iff.mp converted).2
    obtain ⟨thinking, found⟩ := Option.isSome_iff_exists.mp present
    rw [Json.get_insert_same (Json.isObject_of_get (remapped.trans found)), found]
    rfl
  · rw [remapped]

/-! ### Stage 4.4 -/

theorem capOutputEffort_frame {key : String} (backend : Backend) (originalModel : String) (body : Json)
    (different : key ≠ "output_config") : (capOutputEffort backend originalModel body).1.get key = body.get key := by
  unfold capOutputEffort
  split
  · rfl
  · split
    · rfl
    · exact Json.get_modify_other _ _ different

theorem capOutputEffort_self {backend : Backend} {originalModel : String} {body : Json}
    (uncapped : (capOutputEffort backend originalModel body).2 = false) :
    (capOutputEffort backend originalModel body).1 = body := by
  unfold capOutputEffort at uncapped ⊢
  split
  · rfl
  · split
    · rfl
    · simp_all

/-- Whether stage 4.4 caps a body whose effort is that of `body`. -/
def capsEffort (backend : Backend) (originalModel : String) (body : Json) : Bool :=
  (((body.get "output_config").bind fun config => config.strAt "effort").bind
    fun effort => backend.capEffort effort originalModel).isSome

theorem capOutputEffort_capped {backend : Backend} {originalModel : String} {body before : Json}
    (same : body.get "output_config" = before.get "output_config") :
    (capOutputEffort backend originalModel body).2 = capsEffort backend originalModel before := by
  unfold capOutputEffort capsEffort
  rw [same]
  cases (before.get "output_config").bind fun config => config.strAt "effort" with
  | none => rfl
  | some effort => cases capped : backend.capEffort effort originalModel <;> simp [capped]

/-! ### Stage 4.3 -/

theorem hasRemainingThinkingBlocks_eq (body : Json) :
    hasRemainingThinkingBlocks body = (contentItems body).any isThinkingItem := by
  rw [hasRemainingThinkingBlocks, contentItems, List.any_flatMap]

theorem ofNat_pos_iff (n : Nat) : (0 < UInt32.ofNat n) ↔ ¬ UInt32.size ∣ n := by
  rw [UInt32.lt_iff_toNat_lt, UInt32.toNat_ofNat', Nat.dvd_iff_mod_eq_zero]
  exact Nat.pos_iff_ne_zero

section
variable {H : Type} [DecidableEq H] (fastHash : String → H)

def filteredItems (r : ThinkingRegistry H) (body : Json) : Nat := removedItems (r.retained fastHash) body

def someRemain (r : ThinkingRegistry H) (body : Json) : Bool :=
  (thinkingItems body).any (r.retained fastHash)

/-- Whether stage 4.3 strips every block: the source's `should_strip_all`. -/
def strips (r : ThinkingRegistry H) (body : Json) : Bool :=
  hasAssistantMessages body &&
    (decide (¬ UInt32.size ∣ filteredItems fastHash r body) || !someRemain fastHash r body)

omit [DecidableEq H] in
theorem strips_eq_false {r : ThinkingRegistry H} {body : Json} (wraps : UInt32.size ∣ filteredItems fastHash r body)
    (remain : hasAssistantMessages body = true → someRemain fastHash r body = true) :
    strips fastHash r body = false := by
  cases history : hasAssistantMessages body with
  | false => rw [strips, history, Bool.false_and]
  | true =>
    rw [strips, remain history, decide_eq_false (not_not.mpr wraps), Bool.not_true, Bool.or_false, Bool.and_false]

theorem filterThinking_strips (session : ThinkingSession) (r : ThinkingRegistry H) (body : Json) (now : Nat) :
    (hasAssistantMessages (session.filter fastHash r body now).body &&
      (decide (0 < (session.filter fastHash r body now).removed) ||
        !hasRemainingThinkingBlocks (session.filter fastHash r body now).body)) = strips fastHash r body := by
  have filtered := ThinkingRegistry.filterRequest_content fastHash r body now
  have remaining : hasRemainingThinkingBlocks (session.filter fastHash r body now).body = someRemain fastHash r body := by
    rw [hasRemainingThinkingBlocks_eq, ThinkingSession.filter, filtered.contentItems, someRemain, thinkingItems,
      List.any_filter, List.any_filter]
    simp only [Bool.and_comm]
  rw [remaining, ThinkingSession.filter, filtered.hasAssistantMessages, ThinkingRegistry.filterRequest_removed, strips,
    filteredItems]
  simp only [ofNat_pos_iff]

def downgraded (r : ThinkingRegistry H) (body : Json) (now : Nat) : Json :=
  let filtered := (r.filterRequest fastHash body now).body
  if strips fastHash r body then (stripAllThinkingBlocks filtered).1.erase "thinking" else filtered

theorem filterThinking_body (session : ThinkingSession) (r : ThinkingRegistry H) (body : Json)
    (thinkingConverted : Bool) (now : Nat) :
    (filterThinking fastHash session r body thinkingConverted now).body = downgraded fastHash r body now := by
  dsimp only [filterThinking, downgraded]
  rw [filterThinking_strips]
  cases strips fastHash r body <;> rfl

theorem filterThinking_registry (session : ThinkingSession) (r : ThinkingRegistry H) (body : Json)
    (thinkingConverted : Bool) (now : Nat) :
    (filterThinking fastHash session r body thinkingConverted now).registry =
      (r.filterRequest fastHash body now).registry := by
  dsimp only [filterThinking]
  rw [filterThinking_strips]
  cases strips fastHash r body <;> rfl

theorem filterThinking_kept (session : ThinkingSession) {r : ThinkingRegistry H} {body : Json}
    (thinkingConverted : Bool) (now : Nat) (kept : strips fastHash r body = false) :
    (filterThinking fastHash session r body thinkingConverted now).thinkingConverted = thinkingConverted ∧
      (filterThinking fastHash session r body thinkingConverted now).filteredCount =
        UInt32.ofNat (filteredItems fastHash r body) := by
  dsimp only [filterThinking]
  rw [filterThinking_strips, kept]
  exact ⟨rfl, ThinkingRegistry.filterRequest_removed fastHash r body now⟩

theorem downgraded_frame {key : String} (r : ThinkingRegistry H) (body : Json) (now : Nat)
    (notMessages : key ≠ "messages") (notThinking : key ≠ "thinking") :
    (downgraded fastHash r body now).get key = body.get key := by
  have filtered := (ThinkingRegistry.filterRequest_content fastHash r body now).frame key notMessages
  unfold downgraded
  dsimp only
  split
  · rw [Json.get_erase_other _ notThinking, stripAllThinkingBlocks,
      (retainContent_filtered _ _).frame key notMessages, filtered]
  · exact filtered

theorem downgraded_thinking (r : ThinkingRegistry H) (body : Json) (now : Nat) :
    (downgraded fastHash r body now).get "thinking" =
      if strips fastHash r body then none else body.get "thinking" := by
  have filtered := (ThinkingRegistry.filterRequest_content fastHash r body now).frame "thinking" (by decide)
  unfold downgraded
  dsimp only
  split
  · exact Json.get_erase_same _ _
  · exact filtered

def keptItem (r : ThinkingRegistry H) (body item : Json) : Bool :=
  if strips fastHash r body then !isThinkingItem item else r.retained fastHash item

omit [DecidableEq H] in
theorem keptItem_other (r : ThinkingRegistry H) (body : Json) {item : Json} (other : isThinkingItem item = false) :
    keptItem fastHash r body item = true := by
  unfold keptItem
  split
  · simp [other]
  · simp [ThinkingRegistry.retained, other]

theorem downgraded_messages (r : ThinkingRegistry H) (body : Json) (now : Nat) :
    List.Forall₂ (MessageFiltered (keptItem fastHash r body)) (messages body)
      (messages (downgraded fastHash r body now)) := by
  have filtered := (ThinkingRegistry.filterRequest_content fastHash r body now).messages_forall
  unfold downgraded keptItem
  dsimp only
  split
  · rw [messages_congr (Json.get_erase_other _ (by decide)), stripAllThinkingBlocks]
    have stripped := retainContent_filtered (fun item => !isThinkingItem item)
      (r.filterRequest fastHash body now).body
    have same : (fun item => r.retained fastHash item && !isThinkingItem item) = fun item => !isThinkingItem item := by
      funext item
      cases typed : isThinkingItem item <;> simp [ThinkingRegistry.retained, typed]
    have composed := messageFiltered_trans filtered stripped.messages_forall
    rwa [same] at composed
  · exact filtered

/-! ### The whole transformation -/

/-- The body after all four stages, whatever they recorded. -/
def fullyTransformed (backend : Backend) (thinking : Option ThinkingSession) (r : ThinkingRegistry H)
    (body : Json) (now : Nat) : Json :=
  (capOutputEffort backend ((body.strAt "model").getD "")
    (match thinking with
      | some session => (filterThinking fastHash session r (adapted backend body) false now).body
      | none => adapted backend body)).1

/-- What the source records as a change: the flags in the condition of the serialization. -/
def changed (backend : Backend) (thinking : Option ThinkingSession) (r : ThinkingRegistry H) (body : Json) : Bool :=
  ((body.strAt "model").bind backend.resolveModel).isSome || converts backend body ||
    (thinking.isSome && (strips fastHash r body || decide (¬ UInt32.size ∣ filteredItems fastHash r body))) ||
    capsEffort backend ((body.strAt "model").getD "") body || !(body.get "thinking").isSome

omit [DecidableEq H] in
theorem changed_eq_false {backend : Backend} {thinking : Option ThinkingSession} {r : ThinkingRegistry H}
    {body : Json} :
    changed fastHash backend thinking r body = false ↔
      (body.strAt "model").bind backend.resolveModel = none ∧ converts backend body = false ∧
        (thinking.isSome = true → UInt32.size ∣ filteredItems fastHash r body ∧
          (hasAssistantMessages body = true → someRemain fastHash r body = true)) ∧
        capsEffort backend ((body.strAt "model").getD "") body = false ∧ (body.get "thinking").isSome = true := by
  cases thinking with
  | none => simp [changed, and_assoc]
  | some session =>
    simp only [changed, strips, Option.isSome_some, Bool.true_and, Bool.or_eq_false_iff, Bool.and_eq_false_iff,
      Bool.not_eq_false', decide_eq_false_iff_not, not_not, Option.isSome_eq_false_iff, Option.isNone_iff_eq_none,
      forall_const, and_assoc]
    apply and_congr_right
    intro _
    apply and_congr_right
    intro _
    cases hasAssistantMessages body
    · simp
    · simp
      tauto

def registryAfter (backend : Backend) (thinking : Option ThinkingSession) (r : ThinkingRegistry H)
    (body : Json) (now : Nat) : ThinkingRegistry H :=
  match thinking with
  | some _ => (r.filterRequest fastHash (adapted backend body) now).registry
  | none => r

omit [DecidableEq H] in
theorem filteredItems_adapted (backend : Backend) (r : ThinkingRegistry H) (body : Json) :
    filteredItems fastHash r (adapted backend body) = filteredItems fastHash r body := by
  unfold filteredItems removedItems
  rw [contentItems_congr (adapted_frame backend body (by decide) (by decide))]

omit [DecidableEq H] in
theorem strips_adapted (backend : Backend) (r : ThinkingRegistry H) (body : Json) :
    strips fastHash r (adapted backend body) = strips fastHash r body := by
  have same := adapted_frame backend body (show "messages" ≠ "model" by decide) (by decide)
  unfold strips someRemain thinkingItems
  rw [hasAssistantMessages_congr same, filteredItems_adapted, contentItems_congr same]

theorem adaptation_eq (backend : Backend) (body : Json) :
    (if backend.needsThinkingCompat then
        convertAdaptiveThinking (rewriteModel backend body).1 backend.thinkingBudgetTokens
      else ((rewriteModel backend body).1, none)).1 = adapted backend body ∧
      ((if backend.needsThinkingCompat then
        convertAdaptiveThinking (rewriteModel backend body).1 backend.thinkingBudgetTokens
      else ((rewriteModel backend body).1, none)).2 == some true) = converts backend body := by
  unfold adapted converts convertAdaptiveThinking
  rw [isAdaptive_rewriteModel]
  cases backend.needsThinkingCompat with
  | false => exact ⟨rfl, rfl⟩
  | true =>
    cases isAdaptive body with
    | true => exact ⟨rfl, rfl⟩
    | false => cases (rewriteModel backend body).1.get "thinking" <;> exact ⟨rfl, rfl⟩

/-- `transform_body` on a parsed body: the fully transformed body is printed exactly when a
change was recorded. -/
theorem transformBody_some (serde : Serde) (bodyBytes : List UInt8) (body : Json) (backend : Backend)
    (thinking : Option ThinkingSession) (r : ThinkingRegistry H) (now : Nat) :
    transformBody fastHash serde bodyBytes (some body) backend thinking r now =
      (registryAfter fastHash backend thinking r body now,
        { bytes :=
            if changed fastHash backend thinking r body then
              (serde.toVec (fullyTransformed fastHash backend thinking r body now)).getD bodyBytes
            else bodyBytes
          isStreaming := ((body.get "stream").bind Json.asBool).getD false
          modelMapping := (rewriteModel backend body).2
          thinkingActive := ((fullyTransformed fastHash backend thinking r body now).get "thinking").isSome }) := by
  obtain ⟨body_eq, converted_eq⟩ := adaptation_eq backend body
  have effort := adapted_frame backend body (show "output_config" ≠ "model" by decide) (by decide)
  unfold transformBody registryAfter fullyTransformed changed
  dsimp only
  rw [body_eq, converted_eq, rewriteModel_mapping]
  cases thinking with
  | none =>
    rw [capOutputEffort_frame backend _ _ (show "thinking" ≠ "output_config" by decide),
      capOutputEffort_capped effort, adapted_thinking]
    simp
  | some session =>
    dsimp only
    rw [filterThinking_registry, filterThinking_body, filterThinking_body,
      capOutputEffort_frame backend _ _ (show "thinking" ≠ "output_config" by decide),
      capOutputEffort_capped ((downgraded_frame fastHash r _ now (by decide) (by decide)).trans effort),
      downgraded_thinking]
    cases stripped : strips fastHash r (adapted backend body) with
    | true =>
      rw [strips_adapted] at stripped
      simp [stripped]
    | false =>
      obtain ⟨flag, count⟩ := filterThinking_kept fastHash session (converts backend body) now stripped
      rw [flag, count, filteredItems_adapted]
      rw [strips_adapted] at stripped
      simp only [stripped, ofNat_pos_iff, Option.isSome_some, Bool.true_and, Bool.false_or, Bool.false_eq_true,
        if_false, adapted_thinking]

/-- What the bytes that are sent parse to. -/
theorem fromSlice_sent {serde : Serde} {bodyBytes : List UInt8} {body : Json} {backend : Backend}
    {thinking : Option ThinkingSession} {r : ThinkingRegistry H} {now : Nat}
    (parsed : serde.fromSlice bodyBytes = some body)
    (printed : serde.RoundTrips (fullyTransformed fastHash backend thinking r body now)) :
    serde.fromSlice (transformBody fastHash serde bodyBytes (some body) backend thinking r now).2.bytes =
      some (if changed fastHash backend thinking r body then fullyTransformed fastHash backend thinking r body now
        else body) := by
  rw [transformBody_some]
  dsimp only
  split
  · obtain ⟨bytes, print, parse⟩ := printed
    rw [print, Option.getD_some, parse]
  · exact parsed

def keptOverall (thinking : Option ThinkingSession) (r : ThinkingRegistry H) (body item : Json) : Bool :=
  !thinking.isSome || keptItem fastHash r body item

omit [DecidableEq H] in
theorem keptOverall_other (thinking : Option ThinkingSession) (r : ThinkingRegistry H) (body : Json) {item : Json}
    (other : isThinkingItem item = false) : keptOverall fastHash thinking r body item = true := by
  rw [keptOverall, keptItem_other fastHash r body other, Bool.or_true]

theorem fullyTransformed_messages (backend : Backend) (thinking : Option ThinkingSession) (r : ThinkingRegistry H)
    (body : Json) (now : Nat) :
    List.Forall₂ (MessageFiltered (keptOverall fastHash thinking r body)) (messages body)
      (messages (fullyTransformed fastHash backend thinking r body now)) := by
  have adaptedMessages := messages_congr (adapted_frame backend body (show "messages" ≠ "model" by decide) (by decide))
  unfold fullyTransformed
  rw [messages_congr (capOutputEffort_frame backend _ _ (by decide))]
  cases thinking with
  | none =>
    dsimp only
    rw [adaptedMessages]
    exact List.forall₂_same.mpr fun message _ => .refl message
  | some session =>
    have kept := downgraded_messages fastHash r (adapted backend body) now
    have same : keptItem fastHash r (adapted backend body) = keptOverall fastHash (some session) r body := by
      funext item
      rw [keptItem, strips_adapted]
      rfl
    rw [same, adaptedMessages] at kept
    dsimp only
    rw [filterThinking_body]
    exact kept

theorem fullyTransformed_contentItems (backend : Backend) (thinking : Option ThinkingSession)
    (r : ThinkingRegistry H) (body : Json) (now : Nat) :
    contentItems (fullyTransformed fastHash backend thinking r body now) =
      (contentItems body).filter (keptOverall fastHash thinking r body) :=
  flatMap_contentOf (fullyTransformed_messages fastHash backend thinking r body now)

theorem retained_of_mem_fullyTransformed {backend : Backend} {session : ThinkingSession} {r : ThinkingRegistry H}
    {body item : Json} {now : Nat}
    (member : item ∈ thinkingItems (fullyTransformed fastHash backend (some session) r body now)) :
    r.retained fastHash item = true := by
  obtain ⟨listed, typed⟩ := mem_thinkingItems.mp member
  rw [fullyTransformed_contentItems] at listed
  have kept : keptItem fastHash r body item = true := (List.mem_filter.mp listed).2
  unfold keptItem at kept
  split at kept
  · simp [typed] at kept
  · exact kept

theorem fullyTransformed_thinking (backend : Backend) (thinking : Option ThinkingSession) (r : ThinkingRegistry H)
    (body : Json) (now : Nat) :
    ((fullyTransformed fastHash backend thinking r body now).get "thinking").isSome =
      (!(thinking.isSome && strips fastHash r body) && (body.get "thinking").isSome) := by
  unfold fullyTransformed
  rw [capOutputEffort_frame backend _ _ (by decide)]
  cases thinking with
  | none => exact adapted_thinking backend body
  | some session =>
    dsimp only
    rw [filterThinking_body, downgraded_thinking, strips_adapted]
    cases strips fastHash r body with
    | true => rfl
    | false => exact adapted_thinking backend body

end

end Anycode.Pipeline
