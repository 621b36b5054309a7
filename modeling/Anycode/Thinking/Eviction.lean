import Anycode.Thinking.Filter

/-!
# Eviction

While no backend switch happens, a registered block stays live until a filtered request that
says something about the history leaves it out, once the block is confirmed or too old.
-/

namespace Anycode.Thinking
open Data

def carrying (content : String) (body : Json) : List Json :=
  (contentItems body).filter (fun item => extractThinkingContent item == some content)

namespace ThinkingRegistry
variable {H : Type} [DecidableEq H] (fastHash : String → H)

/-- A call that neither switches the backend nor registers under another session. -/
def Quiet (r : ThinkingRegistry H) : Call → Prop
  | .onBackendSwitch newBackend => newBackend = r.currentBackend
  | .registerFromResponse _ sessionId _ => sessionId = r.currentSession
  | .registerFromSseStream _ sessionId _ => sessionId = r.currentSession
  | .filterRequest _ _ => True

/-- A filtered request with history and blocks that lacks `content` when its entry is confirmed
or older than the threshold. -/
def Evicts (content : String) (r : ThinkingRegistry H) : Call → Prop
  | .filterRequest body now =>
    hasAssistantMessages body = true ∧ requestContents body ≠ [] ∧ content ∉ requestContents body ∧
      ∃ info, r.blocks.get (fastHash content) = some info ∧
        (info.confirmed = true ∨ r.orphanThreshold < now - info.registeredAt)
  | _ => False

theorem registerBlocks_live_current {r : ThinkingRegistry H} {contents : List String} {sessionId now : Nat}
    {hash : H} (current : sessionId = r.currentSession) (live : r.live hash = true) :
    (r.registerBlocks fastHash contents sessionId now).live hash = true := by
  rw [registerBlocks_live]
  split
  · simpa using current
  · exact live

/-- The step lemma: the one quiet call that can end a block's life is an evicting filter. -/
theorem call_keeps_live {r : ThinkingRegistry H} {content : String} {action : Call}
    (live : r.live (fastHash content) = true) (quiet : r.Quiet action)
    (spared : ¬ Evicts fastHash content r action) :
    (r.call fastHash action).live (fastHash content) = true := by
  cases action with
  | onBackendSwitch newBackend =>
    rw [call, onBackendSwitch_same quiet.symm]
    exact live
  | registerFromResponse response sessionId now =>
    exact registerBlocks_live_current fastHash quiet live
  | registerFromSseStream events sessionId now =>
    rw [call, registerFromSseStream_eq]
    exact registerBlocks_live_current fastHash quiet live
  | filterRequest body now =>
    obtain ⟨info, found, current⟩ := live_eq_true.mp live
    refine (filterRequest_live_iff fastHash).mpr ⟨info, found, current, ?_⟩
    by_cases carried : fastHash content ∈ extractRequestHashes fastHash body
    · exact .inl carried
    · have lacks : content ∉ requestContents body := fun member => carried (List.mem_map_of_mem member)
      refine .inr (Bool.eq_false_iff.mpr fun evicting => spared ?_)
      simp only [informative, evicted, Bool.and_eq_true, Bool.or_eq_true, Bool.not_eq_true',
        decide_eq_true_eq, List.isEmpty_eq_false_iff] at evicting
      exact ⟨evicting.1.1, evicting.1.2, lacks, info, found, evicting.2⟩

theorem run_keeps_live {r : ThinkingRegistry H} {content : String} {calls : List Call}
    (live : r.live (fastHash content) = true) (quiet : Along (call fastHash) Quiet r calls)
    (spared : Along (call fastHash) (fun r action => ¬ Evicts fastHash content r action) r calls) :
    (run (call fastHash) r calls).live (fastHash content) = true :=
  run_invariant (I := fun r => r.live (fastHash content) = true)
    (fun _ _ live guarded => call_keeps_live fastHash live guarded.1 guarded.2) live
    ((along_and (P := Quiet)).mpr ⟨quiet, spared⟩)

theorem filterRequest_carrying {r : ThinkingRegistry H} {content : String} (body : Json) (now : Nat)
    (live : r.live (fastHash content) = true) :
    carrying content (r.filterRequest fastHash body now).body = carrying content body := by
  rw [carrying, (filterRequest_content fastHash r body now).contentItems, List.filter_filter, carrying]
  apply List.filter_congr
  intro item _
  by_cases carries : extractThinkingContent item = some content
  · simp [carries, retained, isThinkingItem_of_extract carries, live]
  · simp [carries]

theorem live_of_carrying {r : ThinkingRegistry H} {content : String} {now : Nat}
    (kept : carrying content (r.filterRequest fastHash (echoRequest [thinkingBlock content ""]) now).body =
      carrying content (echoRequest [thinkingBlock content ""])) : r.live (fastHash content) = true := by
  rw [carrying, (filterRequest_content fastHash r _ now).contentItems, carrying, contentItems_echoRequest,
    List.filter_filter] at kept
  by_contra dead
  simp [retained, isThinkingItem_of_extract (extract_thinkingBlock content ""), dead] at kept

theorem call_registers {r : ThinkingRegistry H} {content : String} {action : Call} {contents : List String}
    (registers : action.registration = some (r.currentSession, contents)) (listed : content ∈ contents) :
    (r.call fastHash action).live (fastHash content) = true := by
  rw [call_registration fastHash registers, registerBlocks_live, if_pos (List.mem_map_of_mem listed)]
  exact beq_self_eq_true _

/-- After a block is registered under the current session, with no switch and every later
registration under that session, a request that carries the block keeps it, unless some call
in between is an evicting filter. -/
theorem carried_block_kept (r : ThinkingRegistry H) {content : String} {registration : Call}
    {contents : List String} {calls : List Call} (body : Json) (now : Nat)
    (registers : registration.registration = some (r.currentSession, contents))
    (listed : content ∈ contents)
    (quiet : Along (call fastHash) Quiet (r.call fastHash registration) calls) :
    let before := run (call fastHash) (r.call fastHash registration) calls
    carrying content (before.filterRequest fastHash body now).body = carrying content body ∨
      ∃ earlier filter later, calls = earlier ++ filter :: later ∧
        Evicts fastHash content (run (call fastHash) (r.call fastHash registration) earlier) filter := by
  by_cases spared : Along (call fastHash) (fun r action => ¬ Evicts fastHash content r action)
      (r.call fastHash registration) calls
  · exact Or.inl (filterRequest_carrying fastHash body now
      (run_keeps_live fastHash (call_registers fastHash registers listed) quiet spared))
  · rw [along_iff] at spared
    simp only [not_forall, not_not] at spared
    obtain ⟨earlier, filter, later, split, evicts⟩ := spared
    exact Or.inr ⟨earlier, filter, later, split, evicts⟩

theorem carried_block_kept_after_bare_requests :
    let r : ThinkingRegistry String := new.onBackendSwitch "anthropic"
    let registration : Call :=
      .registerFromResponse (some (.object [("content", .array [thinkingBlock "a" ""])])) 1 0
    let calls : List Call :=
      [.filterRequest (echoRequest []) 1, .registerFromSseStream [] 1 2, .filterRequest (.object []) 900]
    let before := run (call id) (r.call id registration) calls
    carrying "a" (before.filterRequest id (echoRequest [thinkingBlock "a" ""]) 901).body =
        carrying "a" (echoRequest [thinkingBlock "a" ""]) ∨
      ∃ earlier filter later, calls = earlier ++ filter :: later ∧
        Evicts id "a" (run (call id) (r.call id registration) earlier) filter :=
  carried_block_kept id _ _ _ rfl (List.mem_singleton.mpr rfl) ⟨trivial, rfl, trivial, trivial⟩

end ThinkingRegistry

end Anycode.Thinking
