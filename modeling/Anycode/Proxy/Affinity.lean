import Anycode.Pipeline.SubagentMarkers
import Anycode.Proxy.Engine

/-!
# Birth-backend affinity

Which backend the requests of an agent are resolved to, from the start that recorded it to its
stop, whatever the other agents and the switches do in between.
-/

namespace Anycode.Proxy
open Data Config Pipeline Pipeline.Routing

/-- The hook context with the marker of the agent, inside one of the first messages of a user;
no text that is scanned before it has the prefix of a hook context. -/
structure CarriesMarker (id : List Char) (body : Json) : Prop where
  marked : ∃ messages earlierMessages msg laterMessages earlier before after later,
    body.arrayAt "messages" = some messages ∧
    messages.take maxMessagesToScan = earlierMessages ++ msg :: laterMessages ∧
    msg.strAt "role" = some "user" ∧
    scannedTexts msg =
      earlier ++ (before ++ (hookContextPrefix ++ (' ' :: AgentRegistry.formatMarker id ++ after))) :: later ∧
    ¬ hookContextPrefix <:+: before ∧
    ∀ text ∈ earlierMessages.flatMap scannedTexts ++ earlier, ¬ hookContextPrefix <:+: text

/-! ### Finding the marker -/

theorem extractAcMarker_marked {id : List Char} {body : Json} (valid : Scannable id) (carries : CarriesMarker id body) :
    extractAcMarker body = some id := by
  obtain ⟨messages, earlierMessages, msg, laterMessages, earlier, before, after, later, listed, first, _, texts,
    absent, unmarked⟩ := carries.marked
  have skipped : ∀ texts : List (List Char), (∀ text ∈ texts, ¬ hookContextPrefix <:+: text) →
      texts.findSome? parseMarkerInHookContext = none :=
    fun texts none => List.findSome?_eq_none_iff.mpr fun text member => parseMarkerInHookContext_absent (none text member)
  have earlierNone : earlierMessages.findSome? (fun msg => (scannedTexts msg).findSome? parseMarkerInHookContext) = none := by
    refine List.findSome?_eq_none_iff.mpr fun msg member => skipped _ fun text scanned => ?_
    exact unmarked text (List.mem_append_left _ (List.mem_flatMap.mpr ⟨msg, member, scanned⟩))
  have found : (scannedTexts msg).findSome? parseMarkerInHookContext = some id := by
    rw [texts, List.findSome?_append, skipped earlier fun text member => unmarked text (List.mem_append_right _ member),
      Option.none_or, List.findSome?_cons, parseMarkerInHookContext_wrapped valid ⟨before, after, rfl, absent⟩]
  rw [extractAcMarker, listed, Option.getD_some, first, List.findSome?_append, earlierNone, Option.none_or,
    List.findSome?_cons, found]

/-! ### The segment of a teammate -/

theorem stripPrefix_append (first rest : List Char) : stripPrefix first (first ++ rest) = some rest := by
  rw [stripPrefix, if_pos (List.isPrefixOf_iff_prefix.mpr (List.prefix_append _ _)), List.drop_left]

theorem agentCandidate_segment {id rest : List Char} (valid : Scannable id) (ends : rest = [] ∨ rest.head? = some '/') :
    agentCandidate ('/' :: id ++ rest) = some id := by
  have inside : ∀ c ∈ id, (c != '/') = true := by
    intro c member
    have allowed := valid.alphabet c member
    refine bne_iff_ne.mpr ?_
    rintro rfl
    exact absurd allowed (by decide)
  have stops : rest.takeWhile (fun c => c != '/') = [] := by
    rcases ends with rfl | slash
    · rfl
    · cases rest with
      | nil => rfl
      | cons c tail =>
        cases slash
        rfl
  have nonempty : id.isEmpty = false := by
    cases id with
    | nil => exact absurd rfl valid.nonempty
    | cons => rfl
  have stripped : stripPrefix ['/'] ('/' :: id ++ rest) = some (id ++ rest) := stripPrefix_append ['/'] (id ++ rest)
  rw [agentCandidate, stripped, Option.map_some, List.takeWhile_append_of_pos inside, stops, List.append_nil,
    Option.filter_some, nonempty]
  rfl

theorem withoutAgent_segment (id rest : List Char) :
    withoutAgent id ('/' :: id ++ rest) = if rest.isEmpty then ['/'] else rest := by
  rw [withoutAgent, stripPrefix_append ('/' :: id) rest, Option.getD_some]

/-! ### Recorded backends -/

namespace Engine
variable {H : Type} [DecidableEq H] (fastHash : String → H) (serde : Serde)

/-- The backend that the event, a start of the agent, records for it. -/
def recorded (e : Engine H) (id : List Char) : Event → Option String
  | .subagentStart agentId => if agentId = some id then e.hooks.subagentBackend else none
  | .teammateStart agentId =>
    if agentId = id then some (e.hooks.teammateBackend.getD e.hooks.backendState.activeBackend) else none
  | _ => none

/-- Neither a start that records a backend for the agent nor its stop. -/
def Keeps (id : List Char) (e : Engine H) (event : Event) : Prop :=
  e.recorded id event = none ∧ event ≠ .subagentStop (some id)

theorem lookup_step (e : Engine H) (id : List Char) (event : Event) :
    (e.step fastHash serde event).hooks.registry.lookup id =
      (e.recorded id event).or
        (match event with
          | .subagentStop agentId => if agentId = some id then none else e.hooks.registry.lookup id
          | _ => e.hooks.registry.lookup id) := by
  cases event with
  | subagentStart agentId => exact HookState.lookup_handleSubagentStart e.hooks agentId id
  | subagentStop agentId => exact HookState.lookup_handleSubagentStop e.hooks agentId id
  | teammateStart agentId =>
    rw [step, recorded, HookState.lookup_handleTeammateStart]
    by_cases same : id = agentId
    · rw [if_pos same, if_pos same.symm, Option.some_or]
    · rw [if_neg same, if_neg (Ne.symm same), Option.none_or]
  | setSubagentBackend => rfl
  | setTeammateBackend => rfl
  | switchBackend backendId =>
    rw [step]
    split <;> rfl
  | updateConfig newConfig =>
    rw [step]
    split <;> rfl
  | request req =>
    rw [step]
    split <;> rfl

theorem lookup_kept {e : Engine H} {id : List Char} {event : Event} {backend : String} (keeps : e.Keeps id event)
    (found : e.hooks.registry.lookup id = some backend) :
    (e.step fastHash serde event).hooks.registry.lookup id = some backend := by
  rw [lookup_step, keeps.1, Option.none_or]
  cases event with
  | subagentStop agentId =>
    dsimp only
    rw [if_neg (fun same => keeps.2 (congrArg Event.subagentStop same)), found]
  | _ => exact found

/-- The recorded backend is still the agent's after any run that neither restarts nor stops it. -/
theorem lookup_birth_backend {e : Engine H} {id : List Char} {start : Event} {between : List Event} {backend : String}
    (birth : e.recorded id start = some backend)
    (keeps : Along (step fastHash serde) (Keeps id) (e.step fastHash serde start) between) :
    (run (step fastHash serde) e (start :: between)).hooks.registry.lookup id = some backend := by
  have started : (e.step fastHash serde start).hooks.registry.lookup id = some backend := by
    rw [lookup_step, birth, Option.some_or]
  exact run_invariant (I := fun e => e.hooks.registry.lookup id = some backend)
    (fun _ _ found keeps => lookup_kept fastHash serde keeps found) started keeps

/-! ### Resolution -/

def ResolvedTo (e : Engine H) (req : ProxyRequest) (name : String) : Prop :=
  ∃ backend, e.resolved serde req = .ok backend ∧ backend.name = name

omit [DecidableEq H] in
theorem resolved_of_target {e : Engine H} {req : ProxyRequest} {name : String}
    (target : routingTarget e.hooks.backendState (teammateRoute e.hooks req).1 req.pluginOverride
      (req.parsedBody serde) e.hooks.registry = .ok (some name))
    (configured : e.hooks.backendState.config.hasBackend name = true) : e.ResolvedTo serde req name := by
  obtain ⟨backend, found, named⟩ := BackendState.getBackendConfig_of_hasBackend configured
  refine ⟨backend, ?_, named⟩
  rw [resolved, Routing.resolveBackend, target]
  dsimp only
  rw [Pipeline.resolveBackend, Option.getD_some, found]

omit [DecidableEq H] in
theorem subagent_resolved {e : Engine H} {req : ProxyRequest} {id : List Char} {name : String} {body : Json}
    (valid : Scannable id) (found : e.hooks.registry.lookup id = some name)
    (configured : e.hooks.backendState.config.hasBackend name = true) (main : req.isTeammate = false)
    (unplugged : req.pluginOverride = none) (parsed : req.parsedBody serde = some body)
    (carries : CarriesMarker id body) : e.ResolvedTo serde req name := by
  refine resolved_of_target serde ?_ configured
  have override : (teammateRoute e.hooks req).1 = none := by rw [teammateRoute, main, if_neg Bool.false_ne_true]
  unfold routingTarget
  rw [unplugged, override, parsed, AgentRegistry.isEmpty_of_lookup found, Option.bind_some,
    extractAcMarker_marked valid carries]
  dsimp only
  rw [if_neg Bool.false_ne_true]
  dsimp only
  rw [found]

omit [DecidableEq H] in
theorem teammate_resolved {e : Engine H} {req : ProxyRequest} {id rest : List Char} {name : String}
    (valid : Scannable id) (found : e.hooks.registry.lookup id = some name)
    (configured : e.hooks.backendState.config.hasBackend name = true) (teammate : req.isTeammate = true)
    (unplugged : req.pluginOverride = none) (path : req.uri.path = '/' :: id ++ rest)
    (ends : rest = [] ∨ rest.head? = some '/') :
    e.ResolvedTo serde req name ∧
      (teammateRoute e.hooks req).2 = ⟨if rest.isEmpty then ['/'] else rest, req.uri.query⟩ := by
  have candidate : agentCandidate req.uri.path = some id := by rw [path, agentCandidate_segment valid ends]
  have route := teammateRoute_registered teammate candidate found
  refine ⟨resolved_of_target serde ?_ configured, ?_⟩
  · unfold routingTarget
    rw [unplugged, route]
  · rw [route, path, withoutAgent_segment]

/-- After the latest start of an agent that recorded a backend, and before its stop, the agent's
requests are resolved to that backend: those of a subagent on the main route by their marker,
those of a teammate by the segment that is removed from their path. -/
theorem birth_backend_kept {e : Engine H} {id : List Char} (valid : Scannable id) {before between : List Event}
    {start : Event} {name : String}
    (birth : (run (step fastHash serde) e before).recorded id start = some name)
    (keeps : Along (step fastHash serde) (Keeps id)
      ((run (step fastHash serde) e before).step fastHash serde start) between)
    (configured : (run (step fastHash serde) e (before ++ start :: between)).hooks.backendState.config.hasBackend name =
      true) :
    let reached := run (step fastHash serde) e (before ++ start :: between)
    (∀ req body, req.isTeammate = false → req.pluginOverride = none → req.parsedBody serde = some body →
      CarriesMarker id body → reached.ResolvedTo serde req name) ∧
    ∀ req rest, req.isTeammate = true → req.pluginOverride = none → req.uri.path = '/' :: id ++ rest →
      rest = [] ∨ rest.head? = some '/' → reached.ResolvedTo serde req name ∧
        (teammateRoute reached.hooks req).2 = ⟨if rest.isEmpty then ['/'] else rest, req.uri.query⟩ := by
  intro reached
  have split : reached = run (step fastHash serde) (run (step fastHash serde) e before) (start :: between) :=
    run_append _ e before (start :: between)
  have found : reached.hooks.registry.lookup id = some name := by
    rw [split]
    exact lookup_birth_backend fastHash serde birth keeps
  refine ⟨fun req body main unplugged parsed carries => ?_, fun req rest teammate unplugged path ends => ?_⟩
  · exact subagent_resolved serde valid found configured main unplugged parsed carries
  · exact teammate_resolved serde valid found configured teammate unplugged path ends

/-! ### A subagent of a teammate -/

def twoBackends : BackendState :=
  { activeBackend := "glm", config := ⟨"glm", [BackendState.glm, BackendState.kimi]⟩, switchLog := [⟨none, "glm"⟩] }

def crew : Engine String :=
  { hooks := { backendState := twoBackends, subagentBackend := some "glm", teammateBackend := some "kimi" } }

def markedMessage : Json :=
  .object [("content", .string "SubagentStart hook additional context: ⟨AC:b2⟩"), ("role", .string "user")]

def markedBody : Json := .object [("messages", .array [markedMessage])]

def markedSerde : Serde := ⟨fun _ => some markedBody, fun _ => none⟩

theorem b2_valid : Scannable "b2".toList := ⟨by decide, List.all_eq_true.mp (by decide)⟩

theorem markedBody_carries : CarriesMarker "b2".toList markedBody :=
  ⟨[markedMessage], [], markedMessage, [], [], [], [], [], rfl, rfl, rfl, rfl, by decide, fun _ member => nomatch member⟩

theorem b2_birth_backend_kept :
    let reached := run (step id markedSerde) crew [.subagentStart (some "b2".toList), .switchBackend "kimi"]
    (∀ req body, req.isTeammate = false → req.pluginOverride = none → req.parsedBody markedSerde = some body →
      CarriesMarker "b2".toList body → reached.ResolvedTo markedSerde req "glm") ∧
    ∀ req rest, req.isTeammate = true → req.pluginOverride = none → req.uri.path = '/' :: "b2".toList ++ rest →
      rest = [] ∨ rest.head? = some '/' → reached.ResolvedTo markedSerde req "glm" ∧
        (teammateRoute reached.hooks req).2 = ⟨if rest.isEmpty then ['/'] else rest, req.uri.query⟩ := by
  have birth :
      (run (step id markedSerde) crew []).recorded "b2".toList (.subagentStart (some "b2".toList)) = some "glm" := by
    decide
  have keeps : Along (step id markedSerde) (Keeps "b2".toList)
      ((run (step id markedSerde) crew []).step id markedSerde (.subagentStart (some "b2".toList)))
      [.switchBackend "kimi"] :=
    ⟨⟨rfl, fun same => nomatch same⟩, trivial⟩
  have configured : (run (step id markedSerde) crew
      ([] ++ .subagentStart (some "b2".toList) :: [.switchBackend "kimi"])).hooks.backendState.config.hasBackend "glm" =
      true := by
    decide
  have kept := birth_backend_kept id markedSerde b2_valid birth keeps configured
  exact kept

/-- The override of a teammate route goes before the marker. -/
theorem subagent_of_teammate_not_kept :
    ¬ ∀ (serde : Serde) (e : Engine String) (agent : List Char), Scannable agent →
      ∀ before start between name, (run (step id serde) e before).recorded agent start = some name →
        Along (step id serde) (Keeps agent) ((run (step id serde) e before).step id serde start) between →
        (run (step id serde) e (before ++ start :: between)).hooks.backendState.config.hasBackend name = true →
        ∀ req body, req.pluginOverride = none → req.parsedBody serde = some body → CarriesMarker agent body →
          (run (step id serde) e (before ++ start :: between)).ResolvedTo serde req name := by
  intro kept
  obtain ⟨backend, resolved, named⟩ := kept markedSerde crew "b2".toList b2_valid [] (.subagentStart (some "b2".toList)) []
    "glm" (by decide) trivial (by decide) teammateRequest markedBody rfl rfl markedBody_carries
  have overridden : (run (step id markedSerde) crew ([] ++ [.subagentStart (some "b2".toList)])).resolved markedSerde
      teammateRequest = .ok BackendState.kimi := rfl
  rw [overridden] at resolved
  cases resolved
  exact absurd named (by decide)

end Engine

end Anycode.Proxy
