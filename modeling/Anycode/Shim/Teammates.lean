import Anycode.Data.JsonText
import Anycode.Proxy.Affinity
import Anycode.Proxy.Router
import Anycode.Shim.Commands

/-!
# Teammates behind the shim

From the arguments of `tmux` to the backend that the requests of the teammate are forwarded to.
-/

namespace Anycode.Shim
open Data Pipeline Proxy

/-! ### The loop of the script -/

namespace TmuxShim
variable (sed : Sed) (shim : TmuxShim)

/-- What the script may make of its arguments: nothing, or a replacement of the first argument
after `send-keys` that starts a teammate. -/
inductive Relays (args : List (List Char)) : List (List Char) × List (List Char) → Prop
  | unchanged (quiet : ∀ front back, sendKeys ∉ front → args = front ++ sendKeys :: back →
        ∀ arg ∈ back, spawns arg = false) : Relays args ([], args)
  | injected (front back : List (List Char)) (arg : List Char) (later : List (List Char)) (first : sendKeys ∉ front)
      (quiet : ∀ other ∈ back, spawns other = false) (starts : spawns arg = true)
      (whole : args = front ++ sendKeys :: (back ++ arg :: later)) :
      Relays args (register (extractAgentId arg), front ++ sendKeys :: (back ++ shim.inject sed arg :: later))

theorem sendKeys_quiet : spawns sendKeys = false := by decide

theorem step_idle {loop : Loop} {arg : List Char} (idle : (loop.hasSendKeys && !loop.injected && spawns arg) = false) :
    loop.step sed shim arg =
      { loop with hasSendKeys := loop.hasSendKeys || decide (arg = sendKeys), args := loop.args ++ [arg] } := by
  rw [Loop.step]
  split
  · rename_i same
    rw [decide_eq_true same, Bool.or_true]
  · rename_i other
    rw [if_neg (Bool.eq_false_iff.mp idle), decide_eq_false other, Bool.or_false]

theorem step_spawn {loop : Loop} {arg : List Char} (on : loop.hasSendKeys = true) (fresh : loop.injected = false)
    (starts : spawns arg = true) :
    loop.step sed shim arg =
      { loop with
        injected := true
        args := loop.args ++ [shim.inject sed arg]
        posted := loop.posted ++ register (extractAgentId arg) } := by
  have other : arg ≠ sendKeys := by
    rintro rfl
    rw [sendKeys_quiet] at starts
    cases starts
  rw [Loop.step, if_neg other, on, fresh, starts]
  rfl

theorem foldl_front {front : List (List Char)} (absent : sendKeys ∉ front) (loop : Loop) (off : loop.hasSendKeys = false) :
    front.foldl (Loop.step sed shim) loop = { loop with args := loop.args ++ front } := by
  induction front generalizing loop with
  | nil => rw [List.append_nil, List.foldl_nil]
  | cons arg front ih =>
    obtain ⟨other, later⟩ := List.ne_and_not_mem_of_not_mem_cons absent
    have idle : (loop.hasSendKeys && !loop.injected && spawns arg) = false := by rw [off]; rfl
    rw [List.foldl_cons, step_idle sed shim idle, decide_eq_false (Ne.symm other), Bool.or_false, ih later]
    · rw [List.append_assoc]
      rfl
    · exact off

theorem foldl_quiet {args : List (List Char)} (loop : Loop)
    (quiet : loop.injected = true ∨ ∀ arg ∈ args, spawns arg = false) :
    args.foldl (Loop.step sed shim) loop =
      { loop with hasSendKeys := loop.hasSendKeys || decide (sendKeys ∈ args), args := loop.args ++ args } := by
  induction args generalizing loop with
  | nil => rw [List.append_nil, List.foldl_nil, decide_eq_false List.not_mem_nil, Bool.or_false]
  | cons arg args ih =>
    have idle : (loop.hasSendKeys && !loop.injected && spawns arg) = false := by
      rcases quiet with done | quiet
      · rw [done, Bool.not_true, Bool.and_false, Bool.false_and]
      · rw [quiet arg List.mem_cons_self, Bool.and_false]
    have later : loop.injected = true ∨ ∀ arg ∈ args, spawns arg = false :=
      quiet.imp_right fun quiet arg member => quiet arg (List.mem_cons_of_mem _ member)
    have seen : (decide (arg = sendKeys) || decide (sendKeys ∈ args)) = decide (sendKeys ∈ arg :: args) := by
      simp only [List.mem_cons, Bool.decide_or, eq_comm]
    rw [List.foldl_cons, step_idle sed shim idle, ih]
    · rw [List.append_assoc, Bool.or_assoc, seen]
      rfl
    · exact later

theorem exec_quiet {args : List (List Char)}
    (quiet : ∀ front back, sendKeys ∉ front → args = front ++ sendKeys :: back → ∀ arg ∈ back, spawns arg = false) :
    shim.exec sed args = ([], args) := by
  by_cases listed : sendKeys ∈ args
  · obtain ⟨front, back, whole, first⟩ := List.eq_append_cons_of_mem listed
    have still : ∀ arg ∈ sendKeys :: back, spawns arg = false :=
      List.forall_mem_cons.mpr ⟨sendKeys_quiet, quiet front back first whole⟩
    rw [exec, whole, List.foldl_append, foldl_front sed shim first _ rfl, foldl_quiet sed shim _ (.inr still)]
    rfl
  · rw [exec, foldl_front sed shim listed _ rfl]
    rfl

theorem exec_injected {front back later : List (List Char)} {arg : List Char} (first : sendKeys ∉ front)
    (quiet : ∀ other ∈ back, spawns other = false) (starts : spawns arg = true) :
    shim.exec sed (front ++ sendKeys :: (back ++ arg :: later)) =
      (register (extractAgentId arg), front ++ sendKeys :: (back ++ shim.inject sed arg :: later)) := by
  have still : ∀ other ∈ sendKeys :: back, spawns other = false := List.forall_mem_cons.mpr ⟨sendKeys_quiet, quiet⟩
  have split : front ++ sendKeys :: (back ++ arg :: later) = front ++ (sendKeys :: back ++ arg :: later) := rfl
  rw [exec, split, List.foldl_append, foldl_front sed shim first _ rfl, List.foldl_append,
    foldl_quiet sed shim _ (.inr still), List.foldl_cons, step_spawn sed shim _ rfl starts, foldl_quiet sed shim _ (.inl rfl)]
  · simp only [List.nil_append, List.append_assoc, List.cons_append, if_true]
  · dsimp only
    rw [decide_eq_true List.mem_cons_self, Bool.or_true]

theorem exec_relays (args : List (List Char)) : Relays sed shim args (shim.exec sed args) := by
  by_cases quiet : ∀ front back, sendKeys ∉ front → args = front ++ sendKeys :: back → ∀ arg ∈ back, spawns arg = false
  · rw [exec_quiet sed shim quiet]
    exact .unchanged quiet
  · simp only [not_forall, Bool.not_eq_false] at quiet
    obtain ⟨front, behind, first, whole, arg, member, starts⟩ := quiet
    obtain ⟨found, is⟩ := Option.isSome_iff_exists.mp (List.find?_isSome.mpr ⟨arg, member, starts⟩)
    obtain ⟨spawning, back, later, rfl, quiet⟩ := List.find?_eq_some_iff_append.mp is
    have still : ∀ other ∈ back, spawns other = false := fun other inside => by
      simpa using quiet other inside
    rw [whole, exec_injected sed shim first still spawning]
    exact .injected front back found later first still spawning rfl

end TmuxShim

/-! ### Requests of the teammate -/

/-- The body is a document with the agent's id. -/
def Registers (body id : List Char) : Prop :=
  ∃ doc : Doc, doc.text = body ∧
    ∀ number depth, doc.value number (depth + 1) = some (.object [("agent_id", .string (String.ofList id))])

/-- The words assign the agent's base URL and the session token, and are otherwise those of the command. -/
structure Sent (shim : TmuxShim) (spawn : Spawn) (words : List (List Char)) : Prop where
  url : assigned baseUrlName words = [shim.proxyUrl ++ TmuxShim.teammatePath spawn.agentId]
  headers : assigned headersName words = [shim.tokenHeader]
  others : words.filter isOther = spawn.words.filter isOther
  separate : ([' '].intercalate words).splitOn ' ' = words

section
variable {H : Type} [DecidableEq H] (fastHash : String → H) (serde : Serde) (axum : WebRouter Layer Handler)

/-- A request for a path under the agent's base URL is forwarded to the backend with that path. -/
def ForwardedTo (e : Engine H) (id : List Char) (name : String) : Prop :=
  ∀ sessionToken method path headers, ∃ seen,
    answer axum sessionToken ⟨method, TmuxShim.teammatePath id ++ '/' :: path, headers⟩ = .handled .proxyHandler true seen ∧
    ∀ req, req.isTeammate = true → req.uri.path = seen → req.pluginOverride = none →
      (teammateRoute e.hooks req).2 = ⟨'/' :: path, req.uri.query⟩ ∧ e.ResolvedTo serde req name

theorem unescaped_of_plain {c : Char} (plain : isPlainChar c = true) : isUnescaped c = true := by
  have wide : 32 ≤ c.toNat := by
    have control : ∀ code < 32, isPlainChar (Char.ofNat code) = false := by decide
    by_contra narrow
    have refused := control c.toNat (Nat.lt_of_not_le narrow)
    rw [Char.ofNat_toNat, plain] at refused
    cases refused
  have quote : c ≠ '"' := by
    rintro rfl
    exact absurd plain (by decide)
  have slash : c ≠ '\\' := by
    rintro rfl
    exact absurd plain (by decide)
  rw [isUnescaped, decide_eq_true wide, bne_iff_ne.mpr quote, bne_iff_ne.mpr slash]
  rfl

theorem spelled_plainly {text : List Char} (plain : ∀ c ∈ text, isUnescaped c = true) :
    ∃ literal : Literal, literal.raw = text ∧ literal.value = text := by
  induction text with
  | nil => exact ⟨[], rfl, rfl⟩
  | cons c text ih =>
    obtain ⟨here, later⟩ := List.forall_mem_cons.mp plain
    obtain ⟨literal, raw, value⟩ := ih later
    exact ⟨.plain c here :: literal, congrArg (c :: ·) raw, congrArg (c :: ·) value⟩

theorem registration_eq (id : List Char) :
    TmuxShim.registration id = '\x7b' :: '"' :: ("agent_id".toList ++ '"' :: ':' :: '"' :: (id ++ ['"', '\x7d'])) := by
  have start : "\x7b\"agent_id\":\"".toList = '\x7b' :: '"' :: ("agent_id".toList ++ ['"', ':', '"']) := by decide
  have stop : "\"\x7d".toList = ['"', '\x7d'] := by decide
  refine (congrArg₂ (fun first last => first ++ id ++ last) start stop).trans ?_
  simp only [List.append_assoc, List.cons_append, List.nil_append]

theorem registration_registers {id : List Char} (plain : Plain id) : Registers (TmuxShim.registration id) id := by
  have unescaped : ∀ c ∈ "agent_id".toList, isUnescaped c = true := List.all_eq_true.mp (by decide +kernel)
  obtain ⟨key, keyRaw, keyValue⟩ := spelled_plainly unescaped
  obtain ⟨value, raw, read⟩ := spelled_plainly fun c member => unescaped_of_plain (plain c member)
  have keyIs : key.key = "agent_id" := by rw [Literal.key, keyValue, String.ofList_toList]
  refine ⟨.object [] (.cons [] key [] [] (.string value) [] .nil), ?_, fun number depth => ?_⟩
  · rw [registration_eq, ← keyRaw, ← raw]
    simp only [Doc.text, Members.text, Literal.text, comma, Spaces.text, List.map_nil, List.nil_append, List.append_assoc,
      List.cons_append, if_true]
  · rw [Doc.value, if_neg (Nat.succ_ne_zero depth), Members.fields, Doc.value, Members.fields, keyIs, Literal.key, read]
    rfl

omit [DecidableEq H] in
theorem agentCandidate_of_slashless {id : List Char} (named : id ≠ []) (slashless : '/' ∉ id) (path : List Char) :
    agentCandidate ('/' :: id ++ '/' :: path) = some id := by
  have inside : ∀ c ∈ id, (c != '/') = true := fun c member => bne_iff_ne.mpr fun same => slashless (same ▸ member)
  have nonempty : id.isEmpty = false := Bool.eq_false_iff.mpr fun empty => named (List.isEmpty_iff.mp empty)
  have stripped : stripPrefix ['/'] ('/' :: id ++ '/' :: path) = some (id ++ '/' :: path) :=
    stripPrefix_append ['/'] (id ++ '/' :: path)
  have stops : ('/' :: path).takeWhile (fun c => c != '/') = [] := rfl
  rw [agentCandidate, stripped, Option.map_some, List.takeWhile_append_of_pos inside, stops, List.append_nil,
    Option.filter_some, nonempty]
  rfl

theorem teammatePath_eq (id : List Char) : TmuxShim.teammatePath id = "/teammate".toList ++ '/' :: id := by
  have slash : "/teammate/".toList = "/teammate".toList ++ ['/'] := by decide
  exact (congrArg (· ++ id) slash).trans (List.append_assoc _ _ _)

theorem answer_teammate (sessionToken : Option (List Char)) (method : String) (headers : HeaderMap) (id path : List Char) :
    answer axum sessionToken ⟨method, TmuxShim.teammatePath id ++ '/' :: path, headers⟩ =
      .handled .proxyHandler true ('/' :: id ++ '/' :: path) := by
  have under : TmuxShim.teammatePath id ++ '/' :: path = "/teammate".toList ++ '/' :: (id ++ '/' :: path) := by
    rw [teammatePath_eq, List.append_assoc, List.cons_append]
  have stripped : axum.strip "/teammate".toList (TmuxShim.teammatePath id ++ '/' :: path) = some ('/' :: id ++ '/' :: path) := by
    rw [under]
    exact axum.strip_under _ _ (List.append_ne_nil_of_right_ne_nil _ (List.cons_ne_nil _ _))
  have unrouted : axum.routed (buildRouter axum) (TmuxShim.teammatePath id ++ '/' :: path) = none := by
    apply (buildRouter_routes axum).only
    intro listed
    have outside : ∀ path ∈ publicPaths ++ modelPaths, ¬ "/teammate".toList <+: path := by decide
    exact outside _ listed (axum.strip_prefix _ _ _ stripped)
  rw [answer, WebRouter.serve, unrouted, buildRouter_fallback, stripped]
  rfl

omit [DecidableEq H] in
theorem forwardedTo_of_lookup {e : Engine H} {id : List Char} {name : String} (named : id ≠ []) (slashless : '/' ∉ id)
    (found : e.hooks.registry.lookup id = some name) (configured : e.hooks.backendState.config.hasBackend name = true) :
    ForwardedTo serde axum e id name := by
  intro sessionToken method path headers
  refine ⟨_, answer_teammate axum sessionToken method headers id path, ?_⟩
  intro req teammate seen unplugged
  have candidate : agentCandidate req.uri.path = some id := by rw [seen, agentCandidate_of_slashless named slashless]
  have route := Engine.teammateRoute_registered teammate candidate found
  refine ⟨?_, Engine.resolved_of_target serde ?_ configured⟩
  · rw [route, seen, withoutAgent_segment]
    rfl
  · unfold Routing.routingTarget
    rw [unplugged, route]

/-- The script changes nothing but the first command after `send-keys` that starts a teammate. That
one is sent with the base URL of the teammate and registers it, and the teammate's requests are
forwarded to the backend that the registration recorded, while this backend is configured and until
the teammate is started or stopped again. -/
theorem teammate_reaches_backend (sed : Sed) {shim : TmuxShim} (token : Plain shim.sessionToken) (spawn : Spawn)
    {front back : List (List Char)} (first : sendKeys ∉ front) (quiet : ∀ other ∈ back, TmuxShim.spawns other = false)
    (later : List (List Char)) (e : Engine H) {between : List Event}
    (keeps : Along (Engine.step fastHash serde) (Engine.Keeps spawn.agentId)
      (e.step fastHash serde (.teammateStart spawn.agentId)) between)
    (configured : (run (Engine.step fastHash serde) e (.teammateStart spawn.agentId :: between)).hooks.backendState.config.hasBackend
      (e.hooks.teammateBackend.getD e.hooks.backendState.activeBackend) = true) :
    (∀ args, TmuxShim.Relays sed shim args (shim.exec sed args)) ∧ ∃ body words,
      shim.exec sed (front ++ sendKeys :: (back ++ spawn.text :: later)) =
        ([body], front ++ sendKeys :: (back ++ [' '].intercalate words :: later)) ∧
      Registers body spawn.agentId ∧ Sent shim spawn words ∧
      ForwardedTo serde axum (run (Engine.step fastHash serde) e (.teammateStart spawn.agentId :: between)) spawn.agentId
        (e.hooks.teammateBackend.getD e.hooks.backendState.activeBackend) := by
  have registered : TmuxShim.register spawn.agentId = [TmuxShim.registration spawn.agentId] :=
    if_neg fun empty => spawn.named (List.isEmpty_iff.mp empty)
  have sent : Sent shim spawn (spawn.command shim) :=
    ⟨spawn.assigned_url shim, spawn.assigned_headers shim, spawn.command_others shim, spawn.splitOn_command token⟩
  have birth : e.recorded spawn.agentId (.teammateStart spawn.agentId) =
      some (e.hooks.teammateBackend.getD e.hooks.backendState.activeBackend) := if_pos rfl
  have found := Engine.lookup_birth_backend fastHash serde birth keeps
  refine ⟨TmuxShim.exec_relays sed shim, TmuxShim.registration spawn.agentId, spawn.command shim, ?_,
    registration_registers spawn.plain, sent,
    forwardedTo_of_lookup serde axum spawn.named (Spawn.plain_not_mem spawn.plain (by decide)) found configured⟩
  rw [TmuxShim.exec_injected sed shim first quiet spawn.spawns_text, spawn.extractAgentId_text, registered,
    spawn.inject_text sed token]

end

/-! ### One teammate -/

def lineSed : Sed := ⟨replaceLines, fun _ _ _ _ => rfl⟩

def localShim : TmuxShim := ⟨4317, "5f0c-e1".toList⟩

def developer : Spawn where
  before := ["env".toList, "ANTHROPIC_BASE_URL=http://127.0.0.1:4317".toList, "claude".toList]
  agentId := "dev@crew".toList
  after := ["--agent-name".toList, "dev".toList]
  unbroken := by decide +kernel
  first := by decide +kernel
  named := by decide +kernel
  plain := List.all_eq_true.mp (by decide +kernel)
  url := ⟨by decide +kernel, by decide +kernel⟩
  headers := ⟨by decide +kernel, by decide +kernel⟩

theorem developer_reaches_backend :
    (∀ args, TmuxShim.Relays lineSed localShim args (localShim.exec lineSed args)) ∧ ∃ body words,
      localShim.exec lineSed (["-L".toList] ++ sendKeys :: (["-t".toList] ++ developer.text :: ["Enter".toList])) =
        ([body], ["-L".toList] ++ sendKeys :: (["-t".toList] ++ [' '].intercalate words :: ["Enter".toList])) ∧
      Registers body developer.agentId ∧ Sent localShim developer words ∧
      ForwardedTo Engine.markedSerde (WebRouter.tables Layer Handler)
        (run (Engine.step id Engine.markedSerde) Engine.crew [.teammateStart developer.agentId, .switchBackend "kimi"])
        developer.agentId "kimi" := by
  have token : Plain localShim.sessionToken := List.all_eq_true.mp (by decide +kernel)
  have first : sendKeys ∉ ["-L".toList] := by decide +kernel
  have quiet : ∀ other ∈ ["-t".toList], TmuxShim.spawns other = false := by decide +kernel
  have keeps : Along (Engine.step id Engine.markedSerde) (Engine.Keeps developer.agentId)
      (Engine.crew.step id Engine.markedSerde (.teammateStart developer.agentId)) [.switchBackend "kimi"] :=
    ⟨⟨rfl, fun same => nomatch same⟩, trivial⟩
  have configured : (run (Engine.step id Engine.markedSerde) Engine.crew
      [.teammateStart developer.agentId, .switchBackend "kimi"]).hooks.backendState.config.hasBackend "kimi" = true := by
    decide
  exact teammate_reaches_backend id Engine.markedSerde (WebRouter.tables Layer Handler) lineSed token developer first quiet
    ["Enter".toList] Engine.crew keeps configured

end Anycode.Shim
