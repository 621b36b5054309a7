import Anycode.Thinking.Registry

/-!
# Live blocks

A block is live when the cache holds its hash under the current session. This file says what
each registry operation does to the cache and to the set of live hashes; every later result
about the registry goes through these lemmas.
-/

namespace Anycode.Thinking
open Data

namespace ThinkingRegistry
variable {H : Type}

/-- The cache holds `hash` under the current session. -/
def live (r : ThinkingRegistry H) (hash : H) : Bool :=
  (r.blocks.get hash).any (fun info => info.session == r.currentSession)

theorem live_eq_true {r : ThinkingRegistry H} {hash : H} :
    r.live hash = true ↔ ∃ info, r.blocks.get hash = some info ∧ info.session = r.currentSession := by
  simp [live, Option.any_eq_true]

variable [DecidableEq H] (fastHash : String → H)

/-- The items that a request may keep: those that are not thinking blocks, and live blocks. -/
def retained (r : ThinkingRegistry H) (item : Json) : Bool :=
  if isThinkingItem item then (extractThinkingContent item).any (fun content => r.live (fastHash content))
  else true

/-! ### Switching -/

omit [DecidableEq H] in
@[simp] theorem onBackendSwitch_blocks (r : ThinkingRegistry H) (newBackend : String) :
    (r.onBackendSwitch newBackend).blocks = r.blocks := by
  unfold onBackendSwitch
  split <;> rfl

omit [DecidableEq H] in
@[simp] theorem onBackendSwitch_backend (r : ThinkingRegistry H) (newBackend : String) :
    (r.onBackendSwitch newBackend).currentBackend = newBackend := by
  unfold onBackendSwitch
  split
  · rfl
  · rename_i same
    simpa using same

omit [DecidableEq H] in
theorem onBackendSwitch_same {r : ThinkingRegistry H} {newBackend : String}
    (same : r.currentBackend = newBackend) : r.onBackendSwitch newBackend = r := by
  simp [onBackendSwitch, same]

omit [DecidableEq H] in
theorem onBackendSwitch_other {r : ThinkingRegistry H} {newBackend : String}
    (different : r.currentBackend ≠ newBackend) :
    (r.onBackendSwitch newBackend).currentSession = r.currentSession + 1 := by
  simp [onBackendSwitch, different]

/-! ### Registration -/

theorem registerBlock_frame (r : ThinkingRegistry H) (content : String) (sessionId now : Nat) :
    ∃ blocks, r.registerBlock fastHash content sessionId now = { r with blocks := blocks } := by
  unfold registerBlock
  dsimp only
  split
  · split
    · exact ⟨_, rfl⟩
    · exact ⟨_, rfl⟩
  · exact ⟨_, rfl⟩

theorem registerBlocks_frame (r : ThinkingRegistry H) (contents : List String) (sessionId now : Nat) :
    ∃ blocks, r.registerBlocks fastHash contents sessionId now = { r with blocks := blocks } := by
  induction contents generalizing r with
  | nil => exact ⟨_, rfl⟩
  | cons content rest ih =>
    obtain ⟨_, head⟩ := registerBlock_frame fastHash r content sessionId now
    obtain ⟨blocks, tail⟩ := ih (r.registerBlock fastHash content sessionId now)
    exact ⟨blocks, tail.trans (by rw [head])⟩

@[simp] theorem registerBlocks_session (r : ThinkingRegistry H) (contents : List String) (sessionId now : Nat) :
    (r.registerBlocks fastHash contents sessionId now).currentSession = r.currentSession := by
  obtain ⟨_, frame⟩ := registerBlocks_frame fastHash r contents sessionId now
  rw [frame]

@[simp] theorem registerBlocks_backend (r : ThinkingRegistry H) (contents : List String) (sessionId now : Nat) :
    (r.registerBlocks fastHash contents sessionId now).currentBackend = r.currentBackend := by
  obtain ⟨_, frame⟩ := registerBlocks_frame fastHash r contents sessionId now
  rw [frame]

def registeredInfo (existing : Option BlockInfo) (sessionId now : Nat) : BlockInfo :=
  match existing with
  | some info => if info.session = sessionId then info else ⟨sessionId, false, now⟩
  | none => ⟨sessionId, false, now⟩

/-- An entry of the session is left as it is. -/
theorem registeredInfo_own {info : BlockInfo} {sessionId : Nat} (own : info.session = sessionId) (now : Nat) :
    registeredInfo (some info) sessionId now = info := if_pos own

/-- A confirmed entry was there before. -/
theorem registeredInfo_confirmed {existing : Option BlockInfo} {sessionId now : Nat}
    (confirmed : (registeredInfo existing sessionId now).confirmed = true) :
    existing = some (registeredInfo existing sessionId now) := by
  cases existing with
  | none => cases confirmed
  | some info =>
    by_cases own : info.session = sessionId
    · rw [registeredInfo_own own]
    · rw [registeredInfo, if_neg own] at confirmed
      cases confirmed

theorem registerBlock_get (r : ThinkingRegistry H) (content : String) (sessionId now : Nat) (hash : H) :
    (r.registerBlock fastHash content sessionId now).blocks.get hash =
      if hash = fastHash content then some (registeredInfo (r.blocks.get hash) sessionId now)
      else r.blocks.get hash := by
  unfold registerBlock
  dsimp only
  cases found : r.blocks.get (fastHash content) with
  | none =>
    rw [Table.get_insert]
    by_cases same : hash = fastHash content
    · simp [same, found, registeredInfo]
    · simp [same]
  | some existing =>
    by_cases skipped : existing.session = sessionId
    · by_cases same : hash = fastHash content
      · simp [same, found, registeredInfo, skipped]
      · simp [same, skipped]
    · simp only [skipped, if_false, Table.get_insert]
      by_cases same : hash = fastHash content
      · simp [same, found, registeredInfo, skipped]
      · simp [same]

theorem registeredInfo_session (existing : Option BlockInfo) (sessionId now : Nat) :
    (registeredInfo existing sessionId now).session = sessionId := by
  unfold registeredInfo
  split
  · split
    · assumption
    · rfl
  · rfl

theorem registeredInfo_idem (existing : Option BlockInfo) (sessionId now later : Nat) :
    registeredInfo (some (registeredInfo existing sessionId now)) sessionId later =
      registeredInfo existing sessionId now := by
  rw [registeredInfo, if_pos (registeredInfo_session existing sessionId now)]

theorem registerBlocks_get (r : ThinkingRegistry H) (contents : List String) (sessionId now : Nat) (hash : H) :
    (r.registerBlocks fastHash contents sessionId now).blocks.get hash =
      if hash ∈ contents.map fastHash then some (registeredInfo (r.blocks.get hash) sessionId now)
      else r.blocks.get hash := by
  induction contents generalizing r with
  | nil => rfl
  | cons content rest ih =>
    have unfolded : r.registerBlocks fastHash (content :: rest) sessionId now =
        (r.registerBlock fastHash content sessionId now).registerBlocks fastHash rest sessionId now := rfl
    rw [unfolded, ih, registerBlock_get]
    by_cases head : hash = fastHash content
    · by_cases tail : hash ∈ rest.map fastHash
      · rw [if_pos tail, if_pos head, if_pos (by simp [head]), registeredInfo_idem]
      · rw [if_neg tail, if_pos head, if_pos (by simp [head])]
    · simp only [head, if_false, List.map_cons, List.mem_cons, false_or]

theorem registerBlocks_live (r : ThinkingRegistry H) (contents : List String) (sessionId now : Nat) (hash : H) :
    (r.registerBlocks fastHash contents sessionId now).live hash =
      if hash ∈ contents.map fastHash then sessionId == r.currentSession else r.live hash := by
  unfold live
  rw [registerBlocks_get, registerBlocks_session]
  split
  · simp [registeredInfo_session]
  · rfl

theorem registerBlocks_append (r : ThinkingRegistry H) (first second : List String) (sessionId now : Nat) :
    r.registerBlocks fastHash (first ++ second) sessionId now =
      (r.registerBlocks fastHash first sessionId now).registerBlocks fastHash second sessionId now :=
  List.foldl_append

/-- The order in which one call registers its blocks does not matter: the source's loop over
the remaining accumulators runs in hash-map order. -/
theorem registerBlocks_congr {r : ThinkingRegistry H} {first second : List String} {sessionId now : Nat}
    (same : ∀ content, content ∈ first ↔ content ∈ second) :
    r.registerBlocks fastHash first sessionId now = r.registerBlocks fastHash second sessionId now := by
  have table : (r.registerBlocks fastHash first sessionId now).blocks =
      (r.registerBlocks fastHash second sessionId now).blocks := by
    apply Table.ext
    intro hash
    simp only [registerBlocks_get, List.mem_map, same]
  obtain ⟨_, left⟩ := registerBlocks_frame fastHash r first sessionId now
  obtain ⟨_, right⟩ := registerBlocks_frame fastHash r second sessionId now
  rw [left, right] at table ⊢
  exact congrArg (fun blocks => { r with blocks := blocks }) table

/-! ### Streams -/

/-- The contents that the loop registers, in order, and the accumulators it ends with. -/
def sseBlocks (accumulators : Accumulators) : List SseEvent → List String × Accumulators
  | [] => ([], accumulators)
  | event :: rest =>
    let (accumulators, block) := sseEvent accumulators event
    let (blocks, final) := sseBlocks accumulators rest
    (block.toList ++ blocks, final)

def sseContents (events : List SseEvent) : List String :=
  (sseBlocks [] events).1 ++ remainingContents (sseBlocks [] events).2

theorem sseLoop_eq (sessionId now : Nat) (r : ThinkingRegistry H) (accumulators : Accumulators)
    (events : List SseEvent) :
    sseLoop fastHash sessionId now r accumulators events =
      (r.registerBlocks fastHash (sseBlocks accumulators events).1 sessionId now,
        (sseBlocks accumulators events).2) := by
  induction events generalizing r accumulators with
  | nil => rfl
  | cons event rest ih =>
    simp only [sseLoop, sseBlocks]
    cases (sseEvent accumulators event).2 with
    | none => exact ih r _
    | some content => exact ih _ _

theorem registerFromSseStream_eq (r : ThinkingRegistry H) (events : List SseEvent) (sessionId now : Nat) :
    r.registerFromSseStream fastHash events sessionId now =
      r.registerBlocks fastHash (sseContents events) sessionId now := by
  unfold registerFromSseStream sseContents
  rw [sseLoop_eq, registerBlocks_append]

/-! ### Any registration call -/

def Call.registration : Call → Option (Nat × List String)
  | .registerFromResponse response sessionId _ => some (sessionId, responseContents response)
  | .registerFromSseStream events sessionId _ => some (sessionId, sseContents events)
  | _ => none

def Call.now : Call → Nat
  | .onBackendSwitch _ => 0
  | .registerFromResponse _ _ now | .registerFromSseStream _ _ now | .filterRequest _ now => now

theorem call_registration {r : ThinkingRegistry H} {action : Call} {sessionId : Nat} {contents : List String}
    (registers : action.registration = some (sessionId, contents)) :
    r.call fastHash action = r.registerBlocks fastHash contents sessionId action.now := by
  cases action with
  | registerFromResponse response _ _ =>
    cases registers
    rfl
  | registerFromSseStream events _ _ =>
    cases registers
    exact registerFromSseStream_eq fastHash r events _ _
  | _ => cases registers

/-! ### Filtering -/

/-- The eviction rules 2 and 3 on an entry of the current session that the request lacks. -/
def evicted (r : ThinkingRegistry H) (now : Nat) (info : BlockInfo) : Bool :=
  info.confirmed || decide (r.orphanThreshold < now - info.registeredAt)

/-- A request whose thinking blocks and history let the eviction rules 2 and 3 run. -/
def informative (body : Json) : Bool := hasAssistantMessages body && !(requestContents body).isEmpty

theorem filterRequest_frame (r : ThinkingRegistry H) (body : Json) (now : Nat) :
    ∃ blocks, (r.filterRequest fastHash body now).registry = { r with blocks := blocks } := by
  unfold filterRequest cleanupCache cleanupOldSessions
  dsimp only
  split
  · split
    · exact ⟨_, rfl⟩
    · exact ⟨_, rfl⟩
  · exact ⟨_, rfl⟩

@[simp] theorem filterRequest_session (r : ThinkingRegistry H) (body : Json) (now : Nat) :
    (r.filterRequest fastHash body now).registry.currentSession = r.currentSession := by
  obtain ⟨_, frame⟩ := filterRequest_frame fastHash r body now
  rw [frame]

@[simp] theorem filterRequest_backend (r : ThinkingRegistry H) (body : Json) (now : Nat) :
    (r.filterRequest fastHash body now).registry.currentBackend = r.currentBackend := by
  obtain ⟨_, frame⟩ := filterRequest_frame fastHash r body now
  rw [frame]

/-- What a filter call leaves of one cache entry. -/
def entryAfter (r : ThinkingRegistry H) (body : Json) (now : Nat) (hash : H) (info : BlockInfo) :
    Option BlockInfo :=
  if info.session ≠ r.currentSession then none
  else if hash ∈ extractRequestHashes fastHash body then some { info with confirmed := true }
  else if informative body && r.evicted now info then none
  else some info

theorem entryAfter_carried {r : ThinkingRegistry H} {body : Json} {now : Nat} {hash : H} {info after : BlockInfo}
    (carried : hash ∈ extractRequestHashes fastHash body)
    (kept : r.entryAfter fastHash body now hash info = some after) : after.confirmed = true := by
  rw [entryAfter, if_pos carried] at kept
  split at kept <;> cases kept
  rfl

theorem entryAfter_other {r : ThinkingRegistry H} {body : Json} {now : Nat} {hash : H} {info after : BlockInfo}
    (lacks : hash ∉ extractRequestHashes fastHash body)
    (kept : r.entryAfter fastHash body now hash info = some after) : after = info := by
  rw [entryAfter, if_neg lacks] at kept
  split at kept
  · cases kept
  · split at kept <;> cases kept
    rfl

theorem entryAfter_session {r : ThinkingRegistry H} {body : Json} {now : Nat} {hash : H} {info after : BlockInfo}
    (kept : r.entryAfter fastHash body now hash info = some after) :
    info.session = r.currentSession ∧ after.session = r.currentSession := by
  by_cases current : info.session = r.currentSession
  · refine ⟨current, ?_⟩
    by_cases carried : hash ∈ extractRequestHashes fastHash body
    · rw [entryAfter, if_neg (not_not.mpr current), if_pos carried] at kept
      cases kept
      exact current
    · rw [entryAfter_other fastHash carried kept]
      exact current
  · rw [entryAfter, if_pos current] at kept
    cases kept

theorem filterRequest_get (r : ThinkingRegistry H) (body : Json) (now : Nat) (hash : H) :
    (r.filterRequest fastHash body now).registry.blocks.get hash =
      (r.blocks.get hash).bind (r.entryAfter fastHash body now hash) := by
  unfold filterRequest cleanupCache cleanupOldSessions confirmBlocks entryAfter informative evicted
  have empty : (extractRequestHashes fastHash body).isEmpty = (requestContents body).isEmpty := by
    simp [extractRequestHashes]
  cases found : r.blocks.get hash with
  | none =>
    dsimp only
    split
    · split <;> simp [found]
    · simp [found]
  | some info =>
    obtain ⟨session, confirmed, registeredAt⟩ := info
    -- The confirm pass runs first, so an entry that the request carries is past rules 2 and 3.
    by_cases current : session = r.currentSession
    · by_cases carried : hash ∈ extractRequestHashes fastHash body
      · have nonempty : (extractRequestHashes fastHash body).isEmpty = false := by
          cases h : extractRequestHashes fastHash body with
          | nil => rw [h] at carried; cases carried
          | cons => rfl
        dsimp only
        split
        · cases confirmed <;> simp [found, current, carried, nonempty, Option.filter]
        · cases confirmed <;> simp [found, current, carried, Option.filter]
      · dsimp only
        cases history : hasAssistantMessages body with
        | false => simp [found, current, carried, Option.filter]
        | true =>
          cases bare : (requestContents body).isEmpty with
          | true => simp [found, current, carried, empty, bare, Option.filter]
          | false =>
            cases confirmed with
            | true => simp [found, current, carried, empty, bare, Option.filter]
            | false =>
              by_cases old : r.orphanThreshold < now - registeredAt
              · simp [found, current, carried, empty, bare, Option.filter, old]
              · simp [found, current, carried, empty, bare, Option.filter, old]
    · dsimp only
      split
      · split <;> simp [found, current, Option.filter]
      · simp [found, current, Option.filter]

theorem filterRequest_current {r : ThinkingRegistry H} {body : Json} {now : Nat} {hash : H} {info : BlockInfo}
    (found : (r.filterRequest fastHash body now).registry.blocks.get hash = some info) :
    info.session = r.currentSession := by
  rw [filterRequest_get] at found
  obtain ⟨_, _, kept⟩ := Option.bind_eq_some_iff.mp found
  exact (entryAfter_session fastHash kept).2

/-- No rule of a call drops an entry that the same request references. -/
theorem filterRequest_isSome {r : ThinkingRegistry H} {body : Json} {now : Nat} {hash : H}
    (carried : hash ∈ extractRequestHashes fastHash body) :
    ((r.filterRequest fastHash body now).registry.blocks.get hash).isSome = r.live hash := by
  rw [filterRequest_get, live]
  cases r.blocks.get hash with
  | none => rfl
  | some info =>
    by_cases current : info.session = r.currentSession
    · simp [entryAfter, current, carried]
    · simp [entryAfter, current]

theorem filterRequest_live (r : ThinkingRegistry H) (body : Json) (now : Nat) (hash : H) :
    (r.filterRequest fastHash body now).registry.live hash =
      ((r.filterRequest fastHash body now).registry.blocks.get hash).isSome := by
  unfold live
  rw [filterRequest_session]
  cases found : (r.filterRequest fastHash body now).registry.blocks.get hash with
  | none => rfl
  | some info => simp [filterRequest_current fastHash found]

/-- What is live after a filter call: what was live and either carried or not evicted. -/
theorem filterRequest_live_iff {r : ThinkingRegistry H} {body : Json} {now : Nat} {hash : H} :
    (r.filterRequest fastHash body now).registry.live hash = true ↔
      ∃ info, r.blocks.get hash = some info ∧ info.session = r.currentSession ∧
        (hash ∈ extractRequestHashes fastHash body ∨ (informative body && r.evicted now info) = false) := by
  rw [filterRequest_live, filterRequest_get]
  cases r.blocks.get hash with
  | none => simp
  | some info =>
    simp only [Option.bind_some, entryAfter, Option.some.injEq, exists_eq_left']
    by_cases current : info.session = r.currentSession
    · by_cases carried : hash ∈ extractRequestHashes fastHash body
      · simp [current, carried]
      · cases informative body && r.evicted now info <;> simp [current, carried]
    · simp [current]

theorem filterRequest_body (r : ThinkingRegistry H) (body : Json) (now : Nat) :
    ((r.filterRequest fastHash body now).body, (r.filterRequest fastHash body now).removed) =
      retainContent (r.retained fastHash) body := by
  refine (retainContent_congr ?_ : retainContent
    ((r.filterRequest fastHash body now).registry.keepsItem fastHash) body = _)
  intro item member
  unfold keepsItem retained
  split
  · cases content : extractThinkingContent item with
    | none => rfl
    | some text =>
      refine filterRequest_isSome fastHash ?_
      exact List.mem_map_of_mem (mem_requestContents.mpr ⟨item, member, content⟩)
  · rfl

end ThinkingRegistry

end Anycode.Thinking
