import Anycode.Thinking.Filter

/-!
# Late registrations

A response that completes after a backend switch is registered under the session captured for
it. This file says when such a registration leaves the current session's blocks alone.
-/

namespace Anycode.Thinking
open Data

namespace ThinkingRegistry
variable {H : Type} [DecidableEq H] (fastHash : String → H)

def Late (r : ThinkingRegistry H) (action : Call) : Prop :=
  ∃ sessionId contents, action.registration = some (sessionId, contents) ∧ sessionId < r.currentSession

/-- The call leaves the current session's entries as they are, and every request keeps after
it the blocks that it would have kept before. -/
structure Harmless (r : ThinkingRegistry H) (action : Call) : Prop where
  entries : ∀ hash info, r.blocks.get hash = some info → info.session = r.currentSession →
    (r.call fastHash action).blocks.get hash = some info
  kept : ∀ body now, thinkingItems (r.filterRequest fastHash body now).body ⊆
    thinkingItems ((r.call fastHash action).filterRequest fastHash body now).body

def Disjoint (r : ThinkingRegistry H) (action : Call) : Prop :=
  ∀ sessionId contents, action.registration = some (sessionId, contents) →
    ∀ content ∈ contents, r.live (fastHash content) = false

theorem mem_thinkingItems_filterRequest {r : ThinkingRegistry H} {body item : Json} {now : Nat} :
    item ∈ thinkingItems (r.filterRequest fastHash body now).body ↔
      item ∈ thinkingItems body ∧ r.retained fastHash item = true := by
  rw [mem_thinkingItems, (filterRequest_content fastHash r body now).contentItems, List.mem_filter,
    mem_thinkingItems]
  tauto

omit [DecidableEq H] in
theorem retained_thinkingBlock {r : ThinkingRegistry H} (text signature : String) :
    r.retained fastHash (thinkingBlock text signature) = r.live (fastHash text) := by
  simp [retained, isThinkingItem_of_extract (extract_thinkingBlock text signature)]

omit [DecidableEq H] in
theorem retained_mono {r later : ThinkingRegistry H} {item : Json}
    (grows : ∀ hash, r.live hash = true → later.live hash = true)
    (kept : r.retained fastHash item = true) : later.retained fastHash item = true := by
  unfold retained at kept ⊢
  split
  · rename_i typed
    rw [if_pos typed] at kept
    obtain ⟨content, found, live⟩ := (Option.any_eq_true _ _).mp kept
    exact (Option.any_eq_true _ _).mpr ⟨content, found, grows _ live⟩
  · rfl

theorem late_harmless_iff {r : ThinkingRegistry H} {action : Call} (late : r.Late action) :
    r.Harmless fastHash action ↔ r.Disjoint fastHash action := by
  obtain ⟨sessionId, contents, registers, older⟩ := late
  have stale : (sessionId == r.currentSession) = false := beq_eq_false_iff_ne.mpr (Nat.ne_of_lt older)
  have liveAfter : ∀ hash, (r.call fastHash action).live hash =
      if hash ∈ contents.map fastHash then false else r.live hash := by
    intro hash
    rw [call_registration fastHash registers, registerBlocks_live, stale]
  constructor
  · intro harmless _ _ same content listed
    rw [registers] at same
    cases same
    by_contra live
    rw [Bool.not_eq_false] at live
    have before : thinkingBlock content "" ∈
        thinkingItems (r.filterRequest fastHash (echoRequest [thinkingBlock content ""]) 0).body := by
      rw [mem_thinkingItems_filterRequest, retained_thinkingBlock]
      exact ⟨mem_thinkingItems.mpr ⟨by simp, isThinkingItem_of_extract (extract_thinkingBlock content "")⟩, live⟩
    have after := harmless.kept _ _ before
    rw [mem_thinkingItems_filterRequest, retained_thinkingBlock, liveAfter,
      if_pos (List.mem_map_of_mem listed)] at after
    cases after.2
  · intro disjoint
    have absent : ∀ hash, r.live hash = true → hash ∉ contents.map fastHash := by
      intro hash live member
      obtain ⟨content, listed, rfl⟩ := List.mem_map.mp member
      rw [disjoint _ _ registers content listed] at live
      cases live
    refine ⟨fun hash info found current => ?_, fun body now item member => ?_⟩
    · rw [call_registration fastHash registers, registerBlocks_get,
        if_neg (absent hash (live_eq_true.mpr ⟨info, found, current⟩))]
      exact found
    · rw [mem_thinkingItems_filterRequest] at member ⊢
      refine ⟨member.1, retained_mono fastHash (fun hash live => ?_) member.2⟩
      rw [liveAfter, if_neg (absent hash live)]
      exact live

/-- Over a whole run, every late registration is harmless exactly when each one repeats no
block that is cached under the session current at that moment. -/
theorem late_registrations_harmless_iff (r : ThinkingRegistry H) (calls : List Call) :
    Along (call fastHash) (fun r action => r.Late action → r.Harmless fastHash action) r calls ↔
      Along (call fastHash) (fun r action => r.Late action → r.Disjoint fastHash action) r calls :=
  along_congr fun _ _ => forall_congr' fun late => late_harmless_iff fastHash late

/-- Two backends answer with the same block; the older response completes last. -/
theorem late_registration_overwrites :
    ¬ Along (call id) (fun r action => r.Late action → r.Harmless id action)
      (new : ThinkingRegistry String)
      [.onBackendSwitch "anthropic", .onBackendSwitch "glm",
        .registerFromResponse (some (.object [("content", .array [thinkingBlock "a" "glm"])])) 2 0,
        .registerFromResponse (some (.object [("content", .array [thinkingBlock "a" "anthropic"])])) 1 1] := by
  intro harmless
  obtain ⟨_, _, _, last, _⟩ := harmless
  generalize registered : call id (call id (call id new _) _) _ = r at last
  have late : r.Late (.registerFromResponse
      (some (.object [("content", .array [thinkingBlock "a" "anthropic"])])) 1 1) :=
    ⟨1, ["a"], rfl, by rw [← registered]; decide⟩
  have live := (late_harmless_iff id late).mp (last late) 1 ["a"] rfl "a" (by simp)
  rw [← registered] at live
  exact absurd live (by decide)

end ThinkingRegistry

end Anycode.Thinking
