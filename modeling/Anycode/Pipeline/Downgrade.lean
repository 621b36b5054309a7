import Anycode.Pipeline.FastPath

/-!
# The all-or-nothing downgrade

A strict backend rejects a history in which some assistant turns lost their thinking blocks and
others did not. This file says when the transformed body is one of the two consistent kinds.
-/

namespace Anycode.Pipeline
open Data Config Thinking

section
variable {H : Type} [DecidableEq H] (fastHash : String → H)

/-- What the transformation of `body` must make of its thinking blocks. -/
structure AllOrNothing (thinking : Option ThinkingSession) (r : ThinkingRegistry H) (body out : Json)
    (thinkingActive : Bool) : Prop where
  /-- When a block was removed, or none is left, no block and no top-level key is left. -/
  stripped : thinking.isSome = true → hasAssistantMessages body = true →
    0 < filteredItems fastHash r body ∨ someRemain fastHash r body = false →
      thinkingItems out = [] ∧ out.get "thinking" = none
  /-- Otherwise no item is removed and the key stays as it was. -/
  kept : thinking.isSome = false ∨ hasAssistantMessages body = true ∧ filteredItems fastHash r body = 0 ∧
      someRemain fastHash r body = true →
    contentItems out = contentItems body ∧ (out.get "thinking").isSome = (body.get "thinking").isSome
  firstTurn : hasAssistantMessages body = false →
    (out.get "thinking").isSome = (body.get "thinking").isSome
  flag : thinkingActive = (out.get "thinking").isSome
  others : ∃ keep : Json → Bool, (∀ item, isThinkingItem item = false → keep item = true) ∧
    List.Forall₂ (MessageFiltered keep) (messages body) (messages out)

/-- The filter removes a positive multiple of 2^32 blocks from a history and leaves others. -/
def Overlooked (thinking : Option ThinkingSession) (r : ThinkingRegistry H) (body : Json) : Prop :=
  thinking.isSome = true ∧ hasAssistantMessages body = true ∧ 0 < filteredItems fastHash r body ∧
    UInt32.size ∣ filteredItems fastHash r body ∧ someRemain fastHash r body = true

omit [DecidableEq H] in
theorem strips_of_inconsistent {thinking : Option ThinkingSession} {r : ThinkingRegistry H} {body : Json}
    (session : thinking.isSome = true) (history : hasAssistantMessages body = true)
    (inconsistent : 0 < filteredItems fastHash r body ∨ someRemain fastHash r body = false)
    (noticed : ¬ Overlooked fastHash thinking r body) : strips fastHash r body = true := by
  cases remain : someRemain fastHash r body with
  | false => simp [strips, history, remain]
  | true =>
    have removed := inconsistent.resolve_right (by simp [remain])
    have odd : ¬ UInt32.size ∣ filteredItems fastHash r body :=
      fun wraps => noticed ⟨session, history, removed, wraps, remain⟩
    rw [strips, history, decide_eq_true odd]
    rfl

omit [DecidableEq H] in
theorem Overlooked.not_strips {thinking : Option ThinkingSession} {r : ThinkingRegistry H} {body : Json}
    (overlooked : Overlooked fastHash thinking r body) : strips fastHash r body = false := by
  obtain ⟨_, _, _, wraps, remain⟩ := overlooked
  exact strips_eq_false fastHash wraps fun _ => remain

omit [DecidableEq H] in
theorem filteredItems_eq_zero {r : ThinkingRegistry H} {body : Json} :
    filteredItems fastHash r body = 0 ↔ ∀ item ∈ contentItems body, r.retained fastHash item = true :=
  removedItems_eq_zero

theorem fullyTransformed_allOrNothing (backend : Backend) (thinking : Option ThinkingSession)
    (r : ThinkingRegistry H) (body : Json) (now : Nat) :
    AllOrNothing fastHash thinking r body (fullyTransformed fastHash backend thinking r body now)
        ((fullyTransformed fastHash backend thinking r body now).get "thinking").isSome ↔
      ¬ Overlooked fastHash thinking r body := by
  have items := fullyTransformed_contentItems fastHash backend thinking r body now
  have key := fullyTransformed_thinking fastHash backend thinking r body now
  constructor
  · intro consistent overlooked
    have kept := overlooked.not_strips
    obtain ⟨session, history, removed, _, remain⟩ := overlooked
    have none := (consistent.stripped session history (.inl removed)).1
    rw [thinkingItems, items, List.filter_filter] at none
    obtain ⟨item, member, live⟩ := List.any_eq_true.mp remain
    obtain ⟨listed, typed⟩ := mem_thinkingItems.mp member
    have left := List.filter_eq_nil_iff.mp none item listed
    simp [keptOverall, keptItem, kept, typed, live] at left
  · intro noticed
    constructor
    case stripped =>
      intro session history inconsistent
      have all := strips_of_inconsistent fastHash session history inconsistent noticed
      constructor
      · rw [thinkingItems, items, List.filter_filter]
        apply List.filter_eq_nil_iff.mpr
        intro item _
        cases typed : isThinkingItem item <;> simp [keptOverall, keptItem, session, all, typed]
      · simpa [session, all] using key
    case kept =>
      rintro (absent | ⟨history, clean, remain⟩)
      · constructor
        · rw [items]
          apply List.filter_eq_self.mpr
          intro item _
          simp [keptOverall, absent]
        · simpa [absent] using key
      · have retained := (filteredItems_eq_zero fastHash).mp clean
        have none := strips_eq_false fastHash (clean ▸ Nat.dvd_zero _) fun _ => remain
        constructor
        · rw [items]
          apply List.filter_eq_self.mpr
          intro item member
          simp [keptOverall, keptItem, none, retained item member]
        · simpa [none] using key
    case firstTurn =>
      intro first
      have none : strips fastHash r body = false := by simp [strips, first]
      simpa [none] using key
    case flag => rfl
    case others =>
      exact ⟨_, fun _ => keptOverall_other fastHash thinking r body,
        fullyTransformed_messages fastHash backend thinking r body now⟩

/-- The body that `transform_body` returns is consistent exactly when the removed count
overlooks nothing. -/
theorem transformBody_allOrNothing_iff (serde : Serde) {bodyBytes : List UInt8} {body : Json} (backend : Backend)
    (thinking : Option ThinkingSession) (r : ThinkingRegistry H) (now : Nat)
    (parsed : serde.fromSlice bodyBytes = some body)
    (printed : serde.RoundTrips (fullyTransformed fastHash backend thinking r body now)) :
    let out := (transformBody fastHash serde bodyBytes (some body) backend thinking r now).2
    (∃ value, serde.fromSlice out.bytes = some value ∧
      AllOrNothing fastHash thinking r body value out.thinkingActive) ↔ ¬ Overlooked fastHash thinking r body := by
  have key := fullyTransformed_thinking fastHash backend thinking r body now
  dsimp only
  rw [fromSlice_sent fastHash parsed printed, transformBody_some]
  simp only [Option.some.injEq, exists_eq_left']
  cases recorded : changed fastHash backend thinking r body with
  | true => exact fullyTransformed_allOrNothing fastHash backend thinking r body now
  | false =>
    simp only [changed, Bool.or_eq_false_iff, Bool.and_or_distrib_left] at recorded
    obtain ⟨⟨⟨_, kept, _⟩, _⟩, _⟩ := recorded
    rw [kept, Bool.not_false, Bool.true_and] at key
    rw [if_neg Bool.false_ne_true]
    constructor
    · intro consistent overlooked
      obtain ⟨session, history, removed, _, remain⟩ := overlooked
      have none := (consistent.stripped session history (.inl removed)).1
      obtain ⟨item, member, _⟩ := List.any_eq_true.mp remain
      rw [none] at member
      cases member
    · intro noticed
      constructor
      case stripped =>
        intro session history inconsistent
        rw [session, strips_of_inconsistent fastHash session history inconsistent noticed] at kept
        cases kept
      case kept => exact fun _ => ⟨rfl, rfl⟩
      case firstTurn => exact fun _ => rfl
      case flag => exact key
      case others =>
        exact ⟨fun _ => true, fun _ _ => rfl, List.forall₂_same.mpr fun message _ => .refl message⟩

theorem transformBody_allOrNothing_firstTurn :
    let r : ThinkingRegistry String := ThinkingRegistry.new.onBackendSwitch "glm"
    let serde := Serde.ofTexts firstTurn firstTurnTransformed
    let out := (transformBody id serde firstTurn.1 (some firstTurn.2) glm (some ⟨1⟩) r 0).2
    ∃ value, serde.fromSlice out.bytes = some value ∧
      AllOrNothing id (some ⟨1⟩) r firstTurn.2 value out.thinkingActive := by
  refine (transformBody_allOrNothing_iff id _ glm (some ⟨1⟩) _ 0 (Serde.ofTexts_first _ _) ?_).mpr ?_
  · rw [fullyTransformed_firstTurn]
    exact roundTrips_firstTurn
  · intro contract
    obtain ⟨_, history, _⟩ := contract
    exact absurd history (by decide)

theorem flood_inconsistent {n : Nat} (unknown : 0 < n) (wraps : UInt32.size ∣ n) :
    let out := (transformBody id (floodSerde n) (floodText n) (some (flood n)) claude (some ⟨1⟩) floodRegistry 0).2
    (floodSerde n).fromSlice (floodText n) = some (flood n) ∧
      (floodSerde n).RoundTrips (fullyTransformed id claude (some ⟨1⟩) floodRegistry (flood n) 0) ∧
      ¬ ∃ value, (floodSerde n).fromSlice out.bytes = some value ∧
        AllOrNothing id (some ⟨1⟩) floodRegistry (flood n) value out.thinkingActive := by
  dsimp only
  rw [fullyTransformed_flood unknown wraps, transformBody_flood _ unknown wraps]
  refine ⟨floodSerde_parses n, floodSerde_roundTrips unknown, ?_⟩
  rintro ⟨value, decoded, consistent⟩
  rw [floodSerde_parses] at decoded
  cases decoded
  have none := (consistent.stripped rfl rfl (.inl (by rwa [filteredItems_flood]))).1
  have first : thinkingBlock "a" "" ∈ thinkingItems (flood n) :=
    mem_thinkingItems.mpr ⟨by rw [contentItems_flood]; exact List.mem_cons_self, rfl⟩
  rw [none] at first
  cases first

/-- 2^32 unknown blocks are filtered out of a history, and its thinking is left standing. -/
theorem transformBody_allOrNothing_flood :
    let body := flood (UInt32.size)
    let text := floodText (UInt32.size)
    let serde := floodSerde (UInt32.size)
    let out := (transformBody id serde text (some body) claude (some ⟨1⟩) floodRegistry 0).2
    serde.fromSlice text = some body ∧
      serde.RoundTrips (fullyTransformed id claude (some ⟨1⟩) floodRegistry body 0) ∧
      ¬ ∃ value, serde.fromSlice out.bytes = some value ∧
        AllOrNothing id (some ⟨1⟩) floodRegistry body value out.thinkingActive :=
  flood_inconsistent (by decide) (by decide)

end

end Anycode.Pipeline
