import Anycode.Args.Pipeline
import Mathlib.Data.List.Infix

/-!
# Session selectors

Which options of an argument list select a session, and which of them the pipeline puts there:
its own one, and those that it forwards because it does not recognise them.
-/

namespace Anycode.Args
open Config Data

structure Selector where
  flag : String
  value : Option String
  deriving DecidableEq

def idFlags : List String := ["--session-id", "--resume", "-r"]

def selectorFlags : List String := idFlags ++ ["--continue", "-c"]

/-- The `--flag=value` spelling. -/
def EqualsSpelled (arg : String) : Prop := ∃ flag ∈ selectorFlags, (flag ++ "=").toList <+: arg.toList

def equalsSpelling (arg : String) : Option Selector :=
  selectorFlags.findSome? fun flag =>
    ((flag ++ "=").toList.isPrefixOf? arg.toList).map fun value => ⟨flag, some (String.ofList value)⟩

def readSelector (arg : String) (value : Option String) : Option Selector :=
  if arg ∈ selectorFlags then some ⟨arg, value⟩ else equalsSpelling arg

/-- The selectors of an argument list, in either spelling; a flag with an id takes the next
argument as its value. -/
def selectors (args : List String) : List Selector :=
  (scan (fun arg _ => decide (arg ∈ idFlags)) readSelector args).flatMap Option.toList

/-- The arguments select one session, and that once. -/
def SelectsOnce (args : List String) (sessionId : String) : Prop :=
  ∃ flag, selectors args = [⟨flag, some sessionId⟩]

/-- The process is told the session that the wrapper takes it to be in. -/
def SpawnParams.SelectsSession (spawn : SpawnParams) : Prop := SelectsOnce spawn.args spawn.sessionId

/-! ### Reading -/

theorem equalsSpelling_eq_none {arg : String} : equalsSpelling arg = none ↔ ¬ EqualsSpelled arg := by
  have absent : ∀ pattern text : List Char, pattern.isPrefixOf? text = none ↔ ¬ pattern <+: text := by
    intro pattern text
    rw [Option.eq_none_iff_forall_ne_some, List.IsPrefix, not_exists]
    simp only [ne_eq, List.isPrefixOf?_eq_some_iff_append_eq]
  simp only [equalsSpelling, List.findSome?_eq_none_iff, Option.map_eq_none_iff, absent, EqualsSpelled, not_exists,
    not_and]

theorem looksLikeFlag_of_mem {arg : String} (selector : arg ∈ selectorFlags) : looksLikeFlag arg = true := by
  revert arg
  decide

theorem looksLikeFlag_of_equalsSpelled {arg : String} (spelled : EqualsSpelled arg) : looksLikeFlag arg = true := by
  obtain ⟨flag, listed, value, split⟩ := spelled
  have dash : ∀ flag ∈ selectorFlags, (flag ++ "=").toList.head? = some '-' := by decide
  rw [looksLikeFlag, ← split, List.head?_append, dash flag listed]
  rfl

/-- An argument that no selector begins with. -/
structure Unselecting (arg : String) : Prop where
  flag : arg ∉ selectorFlags
  spelling : equalsSpelling arg = none

theorem unselecting_of_value {arg : String} (value : looksLikeFlag arg = false) : Unselecting arg where
  flag listed := Bool.eq_false_iff.mp value (looksLikeFlag_of_mem listed)
  spelling := by
    rw [equalsSpelling_eq_none]
    intro spelled
    exact Bool.eq_false_iff.mp value (looksLikeFlag_of_equalsSpelled spelled)

theorem readSelector_none {arg : String} (other : arg ∉ selectorFlags) : readSelector arg none = equalsSpelling arg :=
  if_neg other

theorem selectors_append {first : List String} (others : ∀ arg ∈ first, arg ∉ selectorFlags) (second : List String) :
    selectors (first ++ second) = first.flatMap (fun arg => (equalsSpelling arg).toList) ++ selectors second := by
  have alone : ∀ arg ∈ first, ∀ _ : String, decide (arg ∈ idFlags) = false := by
    intro arg listed _
    exact decide_eq_false fun id => others arg listed (List.mem_append_left _ id)
  rw [selectors, scan_append alone, List.flatMap_append, List.flatMap_map]
  congr 1
  refine List.flatMap_congr ?_
  intro arg listed
  rw [readSelector_none (others arg listed)]

theorem selectors_eq_nil {args : List String} (others : ∀ arg ∈ args, Unselecting arg) : selectors args = [] := by
  have read := selectors_append (fun arg listed => (others arg listed).flag) []
  rw [List.append_nil] at read
  rw [read, List.append_eq_nil_iff, List.flatMap_eq_nil_iff]
  refine ⟨?_, rfl⟩
  intro arg listed
  rw [(others arg listed).spelling]
  rfl

theorem selectors_pair {flag : String} (takes : flag ∈ idFlags) (id : String) (rest : List String) :
    selectors (flag :: id :: rest) = ⟨flag, some id⟩ :: selectors rest := by
  have read : readSelector flag (some id) = some ⟨flag, some id⟩ := if_pos (List.mem_append_left _ takes)
  rw [selectors, scan_cons_cons (decide_eq_true takes), List.flatMap_cons, read]
  rfl

/-! ### What is forwarded -/

theorem registry_knows : ∀ flag ∈ selectorFlags, (lookup flagRegistry flag).isSome = true := by decide

theorem registry_spells_no_value :
    ∀ flag ∈ flagRegistry, ∀ arg ∈ flag.spellings, equalsSpelling arg = none := by decide

theorem passthrough_selects_nothing :
    ∀ flag ∈ flagRegistry, flag.behavior = .passthrough → flag.long ∉ selectorFlags := by decide

/-- A known flag is not forwarded, or it is none of the session's. -/
theorem forwarded_known {flag : FlagDef} (known : flag ∈ flagRegistry) {value : Option String}
    (plain : ∀ v ∈ value, looksLikeFlag v = false) :
    ∀ arg ∈ (flag.behavior.classified flag.long value).forwarded, Unselecting arg := by
  cases behavior : flag.behavior with
  | wrapperOwned => exact List.forall_mem_nil _
  | intercepted => exact List.forall_mem_nil _
  | passthrough =>
    refine List.forall_mem_cons.mpr ⟨⟨passthrough_selects_nothing flag known behavior, ?_⟩, ?_⟩
    · exact registry_spells_no_value flag known flag.long List.mem_cons_self
    · intro arg listed
      exact unselecting_of_value (plain arg (Option.mem_toList.mp listed))

/-- What one round of the classifier forwards. -/
def ClassifyResult.forwarded (result : ClassifyResult) : List String := result.args.flatMap ClassifiedArg.forwarded

theorem fromPassthrough_classify (rawArgs : List String) :
    (ArgAssembler.fromPassthrough (classify rawArgs flagRegistry).args).args =
      (scan (takesValue flagRegistry) (classifyArg flagRegistry) rawArgs).flatMap ClassifyResult.forwarded :=
  List.flatMap_assoc

/-- An argument is known, or it is forwarded as it is, with its value. -/
theorem classifyArg_cases {arg : String} {value : Option String}
    (taken : ∀ v, value = some v → takesValue flagRegistry arg v = true) :
    (∃ flag ∈ flagRegistry, arg ∈ flag.spellings ∧
      (classifyArg flagRegistry arg value).args = [flag.behavior.classified flag.long value]) ∨
    (arg ∉ selectorFlags ∧ (classifyArg flagRegistry arg value).forwarded = arg :: value.toList) := by
  unfold ClassifyResult.forwarded classifyArg
  by_cases flagLike : looksLikeFlag arg = true
  · rw [if_pos flagLike]
    cases known : lookup flagRegistry arg with
    | some flag =>
      obtain ⟨listed, spelled⟩ := spelled_of_lookup known
      exact .inl ⟨flag, listed, spelled, rfl⟩
    | none =>
      refine .inr ⟨?_, by cases value <;> rfl⟩
      intro selector
      have found := registry_knows arg selector
      rw [known] at found
      cases found
  · rw [if_neg flagLike]
    cases value with
    | none => exact .inr ⟨fun selector => flagLike (looksLikeFlag_of_mem selector), rfl⟩
    | some v => exact absurd (looksLikeFlag_of_takesValue (taken v rfl)).1 flagLike

theorem plain_of_taken {arg : String} {value : Option String}
    (taken : ∀ v, value = some v → takesValue flagRegistry arg v = true) : ∀ v ∈ value, looksLikeFlag v = false :=
  fun v given => (looksLikeFlag_of_takesValue (taken v given)).2

theorem round_not_selector {arg : String} {value : Option String}
    (taken : ∀ v, value = some v → takesValue flagRegistry arg v = true) :
    ∀ out ∈ (classifyArg flagRegistry arg value).forwarded, out ∉ selectorFlags := by
  have plain := plain_of_taken taken
  intro out forwarded
  rcases classifyArg_cases taken with ⟨flag, known, _, args⟩ | ⟨other, same⟩
  · rw [ClassifyResult.forwarded, args, List.flatMap_singleton] at forwarded
    exact (forwarded_known known plain out forwarded).flag
  · rw [same] at forwarded
    rcases List.mem_cons.mp forwarded with rfl | given
    · exact other
    · exact (unselecting_of_value (plain out (Option.mem_toList.mp given))).flag

/-- The spelling with `=` passes through: no round adds or loses one. -/
theorem round_spellings {arg : String} {value : Option String}
    (taken : ∀ v, value = some v → takesValue flagRegistry arg v = true) :
    (classifyArg flagRegistry arg value).forwarded.flatMap (fun out => (equalsSpelling out).toList) =
      (equalsSpelling arg).toList := by
  have plain := plain_of_taken taken
  rcases classifyArg_cases taken with ⟨flag, known, spelled, args⟩ | ⟨_, same⟩
  · rw [registry_spells_no_value flag known arg spelled, ClassifyResult.forwarded, args, List.flatMap_singleton]
    refine List.flatMap_eq_nil_iff.mpr ?_
    intro out forwarded
    rw [(forwarded_known known plain out forwarded).spelling]
    rfl
  · rw [same, List.flatMap_cons]
    refine List.append_right_eq_self.mpr (List.flatMap_eq_nil_iff.mpr ?_)
    intro out given
    rw [(unselecting_of_value (plain out (Option.mem_toList.mp given))).spelling]
    rfl

theorem passthrough_not_selector (rawArgs : List String) :
    ∀ arg ∈ (ArgAssembler.fromPassthrough (classify rawArgs flagRegistry).args).args, arg ∉ selectorFlags := by
  rw [fromPassthrough_classify]
  intro arg forwarded
  obtain ⟨round, read, out⟩ := List.mem_flatMap.mp forwarded
  refine forall_mem_scan (P := fun result : ClassifyResult => ∀ out ∈ result.forwarded, out ∉ selectorFlags)
    (fun _ => round_not_selector nofun) ?_ rawArgs round read arg out
  intro item next taken
  refine round_not_selector ?_
  rintro _ ⟨⟩
  exact taken

theorem passthrough_spellings (rawArgs : List String) :
    (ArgAssembler.fromPassthrough (classify rawArgs flagRegistry).args).args.flatMap
      (fun arg => (equalsSpelling arg).toList) = rawArgs.flatMap fun arg => (equalsSpelling arg).toList := by
  rw [fromPassthrough_classify, List.flatMap_assoc]
  refine scan_flatMap ?_ ?_ rawArgs
  · intro arg
    exact round_spellings nofun
  · intro arg next taken
    have value := unselecting_of_value (looksLikeFlag_of_takesValue taken).2
    rw [value.spelling, Option.toList_none, List.append_nil]
    refine round_spellings ?_
    rintro _ ⟨⟩
    exact taken

/-! ### The whole list -/

theorem hooksJson_unselecting (proxyPort : UInt16) : Unselecting (hooksJson proxyPort) := by
  have opened : ∃ rest, hooksJson proxyPort = "\x7b\"hooks\":\x7b" ++ rest := by
    simp only [hooksJson, String.append_assoc]
    exact ⟨_, rfl⟩
  obtain ⟨rest, split⟩ := opened
  refine unselecting_of_value ?_
  rw [split, looksLikeFlag, String.toList_append, List.head?_append]
  rfl

/-- What the wrapper makes of forwarded arguments for Claude: its selector behind them, and then
arguments that select nothing. -/
structure Assembled (forwarded : List String) (sessionId : String) (assembler : ArgAssembler) : Prop where
  claude : assembler.copilotMode = false
  args : ∃ flag ∈ idFlags, ∃ extras, assembler.args = forwarded ++ flag :: sessionId :: extras ∧
    ∀ arg ∈ extras, Unselecting arg

section
variable {forwarded : List String} {sessionId : String} {assembler : ArgAssembler}

theorem Assembled.extend (assembled : Assembled forwarded sessionId assembler) {more : List String}
    (others : ∀ arg ∈ more, Unselecting arg) : Assembled forwarded sessionId (assembler.extend more) := by
  obtain ⟨claude, flag, takes, extras, args, before⟩ := assembled
  refine ⟨claude, flag, takes, extras ++ more, ?_, List.forall_mem_append.mpr ⟨before, others⟩⟩
  rw [ArgAssembler.extend, args, List.append_assoc]
  rfl

theorem Assembled.withSettings (assembled : Assembled forwarded sessionId assembler)
    (settings : ClaudeSettingsManager) : Assembled forwarded sessionId (assembler.withSettings settings) := by
  refine assembled.extend ?_
  rw [settings.toCliArgs_eq_nil]
  exact List.forall_mem_nil _

theorem Assembled.withTeammateMode (assembled : Assembled forwarded sessionId assembler)
    (shim : Option TeammateShim) : Assembled forwarded sessionId (assembler.withTeammateMode shim) := by
  rw [ArgAssembler.withTeammateMode, if_neg (Bool.eq_false_iff.mp assembled.claude)]
  split
  · exact assembled.extend fun arg listed => ⟨by revert arg; decide, by revert arg; decide⟩
  · exact assembled

theorem Assembled.withSubagentHooks (assembled : Assembled forwarded sessionId assembler) (proxyPort : UInt16) :
    Assembled forwarded sessionId (assembler.withSubagentHooks proxyPort) := by
  rw [ArgAssembler.withSubagentHooks, if_neg (Bool.eq_false_iff.mp assembled.claude)]
  refine assembled.extend (List.forall_mem_cons.mpr ⟨⟨by decide, by decide⟩, ?_⟩)
  exact List.forall_mem_singleton.mpr (hooksJson_unselecting proxyPort)

theorem selectors_of_assembled (assembled : Assembled forwarded sessionId assembler)
    (others : ∀ arg ∈ forwarded, arg ∉ selectorFlags) :
    ∃ flag, selectors assembler.args =
      forwarded.flatMap (fun arg => (equalsSpelling arg).toList) ++ [⟨flag, some sessionId⟩] := by
  obtain ⟨_, flag, takes, extras, args, silent⟩ := assembled
  refine ⟨flag, ?_⟩
  rw [args, selectors_append others, selectors_pair takes, selectors_eq_nil silent]

/-- The selector of the wrapper is the only one when none in the `=` spelling was forwarded. -/
theorem selectsOnce_of_assembled {rawArgs : List String}
    (assembled : Assembled (ArgAssembler.fromPassthrough (classify rawArgs flagRegistry).args).args sessionId assembler) :
    SelectsOnce assembler.args sessionId ↔ ∀ arg ∈ rawArgs, ¬ EqualsSpelled arg := by
  obtain ⟨flag, read⟩ := selectors_of_assembled assembled (passthrough_not_selector rawArgs)
  rw [passthrough_spellings] at read
  have none_spelled : rawArgs.flatMap (fun arg => (equalsSpelling arg).toList) = [] ↔
      ∀ arg ∈ rawArgs, ¬ EqualsSpelled arg := by
    simp only [List.flatMap_eq_nil_iff, Option.toList_eq_nil_iff, equalsSpelling_eq_none]
  rw [← none_spelled, SelectsOnce, read]
  constructor
  · intro once
    obtain ⟨other, once⟩ := once
    have counted := congrArg List.length once
    rw [List.length_append, List.length_singleton, List.length_singleton, Nat.add_eq_right] at counted
    exact List.length_eq_zero_iff.mp counted
  · intro none
    exact ⟨flag, by rw [none, List.nil_append]⟩

end

theorem assembled_withSession (forwarded : ArgAssembler) (claude : forwarded.copilotMode = false)
    (session : SessionResolution) (mode : SessionMode) :
    Assembled forwarded.args session.sessionId (forwarded.withSession session mode) := by
  unfold ArgAssembler.withSession
  rw [if_neg (Bool.eq_false_iff.mp claude)]
  cases mode with
  | initial => exact ⟨claude, "--session-id", by decide, [], rfl, List.forall_mem_nil _⟩
  | resume => exact ⟨claude, "--resume", by decide, [], rfl, List.forall_mem_nil _⟩

theorem assembled_withSessionResume (forwarded : ArgAssembler) (claude : forwarded.copilotMode = false)
    (sessionId : String) : Assembled forwarded.args sessionId (forwarded.withSessionResume sessionId) := by
  rw [ArgAssembler.withSessionResume, if_neg (Bool.eq_false_iff.mp claude)]
  exact ⟨claude, "--resume", by decide, [], rfl, List.forall_mem_nil _⟩

theorem selectsOnce_buildSpawnParams (host : Host) (rawArgs : List String) (proxyUrl command sessionToken : String)
    (settings : ClaudeSettingsManager) (shim : Option TeammateShim) (proxyPort : Option UInt16) (isPassthrough : Bool)
    (copilotProviderType : String) :
    (buildSpawnParams host rawArgs proxyUrl CliMode.claude.proxyEnvVar command sessionToken settings shim proxyPort
      isPassthrough copilotProviderType).SelectsSession ↔ ∀ arg ∈ rawArgs, ¬ EqualsSpelled arg := by
  let classified := (classify rawArgs flagRegistry).args
  let session := resolveSession host classified
  have selected := assembled_withSession (ArgAssembler.fromPassthrough classified) rfl session session.source.mode
  have assembled := (selected.withSettings settings).withTeammateMode shim
  cases proxyPort with
  | none => exact selectsOnce_of_assembled assembled
  | some port => exact selectsOnce_of_assembled (assembled.withSubagentHooks port)

end Anycode.Args
