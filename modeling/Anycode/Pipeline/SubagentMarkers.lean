import Anycode.Pipeline.Routing

/-!
# The marker of a subagent

The hook writes a marker for the id that it registers; the request's first user message brings it
back, wrapped as the context of the hook, and routing looks the id up. The hook takes any id, the
scan takes some.
-/

namespace Anycode.Pipeline.Routing
open Data Config

/-- An id that the scan accepts. -/
structure Scannable (id : List Char) : Prop where
  nonempty : id ≠ []
  alphabet : ∀ c ∈ id, isIdChar c = true

/-- The text holds the hook's context behind the first occurrence of the prefix. -/
def HookContext (text context : List Char) : Prop :=
  ∃ before after, text = before ++ (hookContextPrefix ++ (' ' :: context ++ after)) ∧ ¬ hookContextPrefix <:+: before

/-- A user message with the hook's context, in the first of its texts that holds the prefix. -/
structure WrapsContext (msg : Json) (context : List Char) : Prop where
  role : msg.strAt "role" = some "user"
  texts : ∃ earlier text later, scannedTexts msg = earlier ++ text :: later ∧
    (∀ other ∈ earlier, ¬ hookContextPrefix <:+: other) ∧ HookContext text context

/-- The messages of a request whose first user message wraps the context, with those before it. -/
structure OpensWith (body : Json) (others : List Json) (context : List Char) : Prop where
  messages : ∃ msg rest, body.arrayAt "messages" = some (others ++ msg :: rest) ∧ WrapsContext msg context
  leading : ∀ other ∈ others, other.strAt "role" ≠ some "user"

/-! ### The scanner -/

theorem markerSuffix_not_idChar : isIdChar AgentRegistry.markerSuffix = false := by decide

theorem takeWhile_id {id : List Char} (alphabet : ∀ c ∈ id, isIdChar c = true) (after : List Char) :
    (id ++ AgentRegistry.markerSuffix :: after).takeWhile (fun c => c != AgentRegistry.markerSuffix) = id := by
  have inside : ∀ c ∈ id, (c != AgentRegistry.markerSuffix) = true := by
    intro c member
    rw [bne_iff_ne]
    rintro rfl
    have impossible := alphabet _ member
    rw [markerSuffix_not_idChar] at impossible
    cases impossible
  rw [List.takeWhile_append_of_pos inside, List.takeWhile_cons_of_neg (by simp), List.append_nil]

theorem parseMarker_formatMarker {id : List Char} (scannable : Scannable id) (after : List Char) :
    parseMarker (' ' :: AgentRegistry.formatMarker id ++ after) = some id := by
  have split : ' ' :: AgentRegistry.formatMarker id ++ after =
      [' '] ++ (AgentRegistry.markerPrefix ++ (id ++ AgentRegistry.markerSuffix :: after)) := by
    simp [AgentRegistry.formatMarker]
  have found : afterFirst AgentRegistry.markerPrefix (' ' :: AgentRegistry.formatMarker id ++ after) =
      some (id ++ AgentRegistry.markerSuffix :: after) := by
    rw [split]
    exact afterFirst_append (by decide) (by decide)
  have filled : id.isEmpty = false := List.isEmpty_eq_false_iff.mpr scannable.nonempty
  have accepted : id.all isIdChar = true := List.all_eq_true.mpr scannable.alphabet
  rw [parseMarker, found, Option.bind_some, if_pos (by simp), takeWhile_id scannable.alphabet]
  simp [filled, accepted]

/-- Whatever the scanner returns, it accepts. -/
theorem scannable_of_parseMarker {text id : List Char} (parsed : parseMarker text = some id) : Scannable id := by
  obtain ⟨rest, _, parsed⟩ := Option.bind_eq_some_iff.mp parsed
  split at parsed
  · dsimp only at parsed
    split at parsed
    · rename_i accepted
      obtain rfl := Option.some.inj parsed
      rw [Bool.and_eq_true, Bool.not_eq_true', List.isEmpty_eq_false_iff, List.all_eq_true] at accepted
      exact ⟨accepted.1, accepted.2⟩
    · cases parsed
  · cases parsed

theorem parseMarkerInHookContext_wrapped {text id : List Char} (scannable : Scannable id)
    (context : HookContext text (AgentRegistry.formatMarker id)) : parseMarkerInHookContext text = some id := by
  obtain ⟨before, after, rfl, absent⟩ := context
  rw [parseMarkerInHookContext, afterFirst_append (by decide +kernel) absent]
  exact parseMarker_formatMarker scannable after

theorem parseMarkerInHookContext_absent {text : List Char} (absent : ¬ hookContextPrefix <:+: text) :
    parseMarkerInHookContext text = none := by
  rw [← afterFirst_isSome, Option.not_isSome_iff_eq_none] at absent
  rw [parseMarkerInHookContext, absent]
  rfl

theorem scan_wrapsContext {msg : Json} {id : List Char} (scannable : Scannable id)
    (wraps : WrapsContext msg (AgentRegistry.formatMarker id)) :
    (scannedTexts msg).findSome? parseMarkerInHookContext = some id := by
  obtain ⟨earlier, text, later, texts, silent, context⟩ := wraps.texts
  have none_earlier : earlier.findSome? parseMarkerInHookContext = none :=
    List.findSome?_eq_none_iff.mpr fun other member => parseMarkerInHookContext_absent (silent other member)
  rw [texts, List.findSome?_append, none_earlier, Option.none_or, List.findSome?_cons,
    parseMarkerInHookContext_wrapped scannable context]

/-- A message that is no user's is not scanned. -/
theorem scan_other_role {msg : Json} (other : msg.strAt "role" ≠ some "user") :
    (scannedTexts msg).findSome? parseMarkerInHookContext = none := by
  rw [scannedTexts, if_pos (by simpa using other)]
  rfl

theorem scan_other_roles {others : List Json} (leading : ∀ other ∈ others, other.strAt "role" ≠ some "user") :
    others.findSome? (fun msg => (scannedTexts msg).findSome? parseMarkerInHookContext) = none :=
  List.findSome?_eq_none_iff.mpr fun other member => scan_other_role (leading other member)

/-! ### The request -/

theorem scannable_of_extractAcMarker {body : Json} {id : List Char} (extracted : extractAcMarker body = some id) :
    Scannable id := by
  obtain ⟨msg, _, scanned⟩ := List.exists_of_findSome?_eq_some extracted
  obtain ⟨text, _, parsed⟩ := List.exists_of_findSome?_eq_some scanned
  obtain ⟨rest, _, parsed⟩ := Option.bind_eq_some_iff.mp parsed
  exact scannable_of_parseMarker parsed

theorem extractAcMarker_iff {body : Json} {others : List Json} {id : List Char}
    (opens : OpensWith body others (AgentRegistry.formatMarker id)) :
    extractAcMarker body = some id ↔ Scannable id ∧ others.length < maxMessagesToScan := by
  obtain ⟨⟨msg, rest, messages, wraps⟩, leading⟩ := opens
  have scanned : extractAcMarker body = ((others ++ msg :: rest).take maxMessagesToScan).findSome?
      fun msg => (scannedTexts msg).findSome? parseMarkerInHookContext := by
    rw [extractAcMarker, messages]
    rfl
  constructor
  · intro extracted
    refine ⟨scannable_of_extractAcMarker extracted, ?_⟩
    by_contra late
    rw [scanned, List.take_append_of_le_length (by omega),
      scan_other_roles fun other member => leading other (List.mem_of_mem_take member)] at extracted
    cases extracted
  · rintro ⟨scannable, early⟩
    obtain ⟨room, count⟩ : ∃ room, maxMessagesToScan - others.length = room + 1 :=
      ⟨maxMessagesToScan - others.length - 1, by omega⟩
    rw [scanned, List.take_append, List.take_of_length_le (by omega), count, List.take_succ_cons,
      List.findSome?_append, scan_other_roles leading, Option.none_or, List.findSome?_cons,
      scan_wrapsContext scannable wraps]

/-- The id comes back, and the request goes to the backend that the hook registered it for. -/
def Recovered (state : HookState) (id : List Char) (body : Json) : Prop :=
  extractAcMarker body = some id ∧
    routingTarget state.backendState none none (some body) (state.handleSubagentStart (some id)).1.registry =
      .ok state.subagentBackend

theorem routingTarget_extracted {state : BackendState} {body : Json} {registry : AgentRegistry} {id : List Char}
    {backend : String} (extracted : extractAcMarker body = some id) (registered : registry.lookup id = some backend) :
    routingTarget state none none (some body) registry = .ok (some backend) := by
  simp [routingTarget, AgentRegistry.isEmpty_of_lookup registered, extracted, registered]

theorem handleSubagentStart_returns {state : HookState} {id context : List Char}
    (started : (state.handleSubagentStart (some id)).2.additionalContext = some context) :
    context = AgentRegistry.formatMarker id ∧
      ∃ backend, state.subagentBackend = some backend ∧
        (state.handleSubagentStart (some id)).1.registry.lookup id = some backend := by
  cases configured : state.subagentBackend with
  | none =>
    simp only [HookState.handleSubagentStart, configured] at started
    cases started
  | some backend =>
    refine ⟨?_, backend, rfl, ?_⟩
    · simp only [HookState.handleSubagentStart, configured] at started
      exact (Option.some.inj started).symm
    · rw [HookState.lookup_handleSubagentStart, if_pos rfl, configured]
      rfl

/-- A registered subagent is recovered exactly where the scan accepts its id and reaches its message. -/
theorem recovered_iff {state : HookState} {id context : List Char} {body : Json} {others : List Json}
    (started : (state.handleSubagentStart (some id)).2.additionalContext = some context)
    (opens : OpensWith body others context) :
    Recovered state id body ↔ Scannable id ∧ others.length < maxMessagesToScan := by
  obtain ⟨rfl, backend, configured, registered⟩ := handleSubagentStart_returns started
  rw [← extractAcMarker_iff opens, Recovered, configured]
  constructor
  · exact fun recovered => recovered.1
  · exact fun extracted => ⟨extracted, routingTarget_extracted extracted registered⟩

/-- A request whose only message has the hook's context as its content. -/
def hookRequest (context : String) : Json :=
  .object [("messages", .array [.object [
    ("content", .string ("<system-reminder>\nSubagentStart hook additional context: " ++ context ++
      "\n</system-reminder>")),
    ("role", .string "user")]])]

theorem hookRequest_opensWith (context : String) : OpensWith (hookRequest context) [] context.toList where
  messages := by
    refine ⟨_, [], rfl, rfl, [], _, [], rfl, List.forall_mem_nil _, "<system-reminder>\n".toList,
      "\n</system-reminder>".toList, ?_, by decide +kernel⟩
    have split : "<system-reminder>\nSubagentStart hook additional context: ".toList =
        "<system-reminder>\n".toList ++ (hookContextPrefix ++ [' ']) := by decide +kernel
    rw [String.toList_append, String.toList_append, split]
    simp only [List.append_assoc, List.cons_append, List.nil_append]
  leading := List.forall_mem_nil _

def routedHooks : HookState :=
  { backendState := { activeBackend := "claude", config := ⟨"claude", []⟩, switchLog := [] }
    subagentBackend := some "glm" }

theorem recovered_hexadecimal : Recovered routedHooks "a1b2-c3".toList (hookRequest "⟨AC:a1b2-c3⟩") := by
  have opens := hookRequest_opensWith "⟨AC:a1b2-c3⟩"
  exact (recovered_iff (by decide +kernel) opens).mpr ⟨⟨by decide, List.all_eq_true.mp (by decide)⟩, by decide⟩

/-- The hook registers `worker-1`, which the scan does not accept. -/
theorem named_worker_not_recovered :
    (routedHooks.handleSubagentStart (some "worker-1".toList)).2.additionalContext = some "⟨AC:worker-1⟩".toList ∧
      (routedHooks.handleSubagentStart (some "worker-1".toList)).1.registry.lookup "worker-1".toList = some "glm" ∧
      OpensWith (hookRequest "⟨AC:worker-1⟩") [] "⟨AC:worker-1⟩".toList ∧
      extractAcMarker (hookRequest "⟨AC:worker-1⟩") = none ∧
      ¬ Recovered routedHooks "worker-1".toList (hookRequest "⟨AC:worker-1⟩") := by
  have unread : extractAcMarker (hookRequest "⟨AC:worker-1⟩") = none := by decide +kernel
  refine ⟨by decide +kernel, by decide +kernel, hookRequest_opensWith _, unread, ?_⟩
  intro recovered
  have extracted := recovered.1
  rw [unread] at extracted
  cases extracted

end Anycode.Pipeline.Routing
