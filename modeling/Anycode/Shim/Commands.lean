import Anycode.Shim.Tmux

/-!
# Commands that start a teammate

What the shim makes of a command in one line, in which the variables are words of their own.
-/

namespace Anycode.Shim
open Data Pipeline

/-- The characters of agent ids and session tokens. -/
def isPlainChar (c : Char) : Bool := c.isAlphanum || c == '-' || c == '_' || c == '@'

def Plain (text : List Char) : Prop := ∀ c ∈ text, isPlainChar c = true

/-- At most one word has the name, and begins with it. -/
structure AssignedOnce (name : List Char) (words : List (List Char)) : Prop where
  own : ∀ word ∈ words, name <:+: word → name <+: word
  once : (words.filter name.isPrefixOf).length ≤ 1

/-- A command in one line, with the flag and the agent's id as words of their own. -/
structure Spawn where
  before : List (List Char)
  agentId : List Char
  after : List (List Char)
  unbroken : ∀ word ∈ before ++ agentFlag :: agentId :: after, ' ' ∉ word ∧ '\n' ∉ word
  first : ∀ word ∈ before, ¬ agentFlag <:+: word
  named : agentId ≠ []
  plain : Plain agentId
  url : AssignedOnce baseUrlName (before ++ agentFlag :: agentId :: after)
  headers : AssignedOnce headersName (before ++ agentFlag :: agentId :: after)

namespace Spawn

def words (spawn : Spawn) : List (List Char) := spawn.before ++ agentFlag :: spawn.agentId :: spawn.after

def text (spawn : Spawn) : List Char := [' '].intercalate spawn.words

end Spawn

/-- The values that the words give to a variable. -/
def assigned (name : List Char) (words : List (List Char)) : List (List Char) := words.filterMap (stripPrefix name)

/-- A word that is neither empty nor an assignment of one of the two variables. -/
def isOther (word : List Char) : Bool := !word.isEmpty && !baseUrlName.isPrefixOf word && !headersName.isPrefixOf word

/-! ### Words and `sed` -/

/-- The words when those that begin with the name are replaced. -/
def replaced (name : List Char) (replacement words : List (List Char)) : List (List Char) :=
  words.flatMap fun word => if name.isPrefixOf word then replacement else [word]

theorem replaced_eq_self {name : List Char} {words : List (List Char)} (replacement : List (List Char))
    (absent : ∀ word ∈ words, name.isPrefixOf word = false) : replaced name replacement words = words := by
  induction words with
  | nil => rfl
  | cons word words ih =>
    obtain ⟨here, later⟩ := List.forall_mem_cons.mp absent
    rw [replaced, List.flatMap_cons, here, if_neg Bool.false_ne_true, ← replaced, ih later]
    rfl

theorem replaced_append (name : List Char) (replacement first second : List (List Char)) :
    replaced name replacement (first ++ second) = replaced name replacement first ++ replaced name replacement second :=
  List.flatMap_append

theorem prefix_of_cons {name word : List Char} (starts : name.isPrefixOf word = true) : ∃ value, word = name ++ value := by
  obtain ⟨value, rfl⟩ := List.isPrefixOf_iff_prefix.mp starts
  exact ⟨value, rfl⟩

theorem breakAt_start {name : List Char} (nonempty : name ≠ []) (value : List Char) :
    breakAt name (name ++ value) = some ([], value) := by
  obtain ⟨c, rest, rfl⟩ := List.exists_cons_of_ne_nil nonempty
  have starts : (c :: rest).isPrefixOf ((c :: rest) ++ value) = true :=
    List.isPrefixOf_iff_prefix.mpr (List.prefix_append _ _)
  rw [List.cons_append] at starts ⊢
  rw [breakAt, if_pos starts, ← List.cons_append, List.drop_left]

/-- What is left behind a value is the rest of the words. -/
theorem dropWhile_trail {value : List Char} (unspaced : ' ' ∉ value) (words : List (List Char)) :
    (value ++ trail ' ' words).dropWhile (· != ' ') = trail ' ' words := by
  have inside : ∀ c ∈ value, (c != ' ') = true := fun c member => bne_iff_ne.mpr fun same => unspaced (same ▸ member)
  rw [List.dropWhile_append_of_pos inside]
  cases words with
  | nil => rfl
  | cons word words => rfl

theorem AssignedOnce.others {name word : List Char} {before after : List (List Char)}
    (once : AssignedOnce name (before ++ word :: after)) (starts : name.isPrefixOf word = true) :
    ∀ other ∈ before ++ after, name.isPrefixOf other = false := by
  have few := once.once
  rw [List.filter_append, List.filter_cons_of_pos starts, List.length_append, List.length_cons] at few
  intro other member
  refine Bool.eq_false_iff.mpr fun same => ?_
  rcases List.mem_append.mp member with early | late
  · have := List.length_pos_of_mem (List.mem_filter.mpr ⟨early, same⟩)
    omega
  · have := List.length_pos_of_mem (List.mem_filter.mpr ⟨late, same⟩)
    omega

theorem infix_of_word {name word : List Char} {words : List (List Char)} (member : word ∈ words)
    (starts : name.isPrefixOf word = true) : name <:+: [' '].intercalate words := by
  obtain ⟨before, after, rfl⟩ := List.append_of_mem member
  rw [intercalate_append_cons]
  exact ((List.isPrefixOf_iff_prefix.mp starts).isInfix.trans (List.infix_append [] word _)).trans
    (List.suffix_append _ _).isInfix

/-- On a text of words with one assignment of the variable, its word is replaced. -/
theorem replaceFirst_words {name : List Char} {words : List (List Char)} {replacement : List (List Char)} (unspaced : ' ' ∉ name)
    (nonempty : name ≠ []) (once : AssignedOnce name words) (unbroken : ∀ word ∈ words, ' ' ∉ word)
    (new : replacement ≠ []) :
    replaceFirst ⟨name, true⟩ ([' '].intercalate replacement) ([' '].intercalate words) =
      [' '].intercalate (replaced name replacement words) := by
  by_cases found : ∃ word ∈ words, name.isPrefixOf word = true
  · obtain ⟨word, member, starts⟩ := found
    obtain ⟨before, after, rfl⟩ := List.append_of_mem member
    have others := once.others starts
    obtain ⟨early, late⟩ := List.forall_mem_append.mp others
    have absent : ∀ other ∈ before, ¬ name <:+: other := by
      intro other inside has
      have own := once.own other (List.mem_append_left _ inside) has
      exact absurd (List.isPrefixOf_iff_prefix.mpr own) (Bool.eq_false_iff.mp (early other inside))
    obtain ⟨value, rfl⟩ := prefix_of_cons starts
    have unspacedValue : ' ' ∉ value := fun inside => unbroken _ member (List.mem_append_right _ inside)
    have here : replaced name replacement ((name ++ value) :: after) = replacement ++ after := by
      rw [replaced, List.flatMap_cons, if_pos starts, ← replaced, replaced_eq_self replacement late]
    rw [replaceFirst, breakAt_word unspaced nonempty absent (breakAt_start nonempty value)]
    dsimp only
    rw [if_pos rfl, dropWhile_trail unspacedValue, replaced_append, replaced_eq_self replacement early, here,
      intercalate_append ' ' before new, List.append_nil, List.append_assoc]
  · have absent : ∀ word ∈ words, name.isPrefixOf word = false := by
      intro word member
      exact Bool.eq_false_iff.mpr fun starts => found ⟨word, member, starts⟩
    have nowhere : breakAt name ([' '].intercalate words) = none := by
      refine breakAt_eq_none fun inside => ?_
      obtain ⟨word, member, has⟩ := infix_intercalate unspaced nonempty inside
      exact found ⟨word, member, List.isPrefixOf_iff_prefix.mpr (once.own word member has)⟩
    rw [replaceFirst, nowhere, replaced_eq_self replacement absent]

/-! ### One line -/

theorem mem_replaceFirst {pattern : Pattern} {replacement line : List Char} {c : Char}
    (member : c ∈ replaceFirst pattern replacement line) : c ∈ line ∨ c ∈ replacement := by
  rw [replaceFirst] at member
  cases found : breakAt pattern.text line with
  | none =>
    rw [found] at member
    exact .inl member
  | some parts =>
    obtain ⟨before, after⟩ := parts
    rw [found] at member
    dsimp only at member
    rw [breakAt_eq_some found]
    rw [List.append_assoc, List.mem_append, List.mem_append] at member
    rcases member with early | new | late
    · exact .inl (List.mem_append_left _ early)
    · exact .inr new
    · refine .inl (List.mem_append_right _ (List.mem_append_right _ ?_))
      split at late
      · exact (List.dropWhile_suffix _).subset late
      · exact late

theorem commandOutput_line {text : List Char} (oneLine : '\n' ∉ text) : commandOutput text = text := by
  have first : text.reverse.dropWhile (· == '\n') = text.reverse := by
    cases reversed : text.reverse with
    | nil => rfl
    | cons c rest =>
      have other : ¬ (c == '\n') = true := by
        rw [beq_iff_eq]
        rintro rfl
        exact oneLine (List.mem_reverse.mp (reversed ▸ List.mem_cons_self))
      exact List.dropWhile_cons_of_neg other
  rw [commandOutput, first, List.reverse_reverse]

theorem sed_line (sed : Sed) (pattern : Pattern) {replacement text : List Char} (verbatim : Verbatim replacement)
    (oneLine : '\n' ∉ text) :
    commandOutput (sed.substitute pattern replacement text) = replaceFirst pattern replacement text := by
  have lines : replaceLines pattern replacement text = replaceFirst pattern replacement text := by
    rw [replaceLines, List.splitOn_eq_singleton oneLine, List.map_singleton, List.intercalate_singleton]
  rw [sed.verbatim pattern replacement text verbatim, lines]
  refine commandOutput_line fun member => ?_
  rcases mem_replaceFirst member with inside | new
  · exact oneLine inside
  · exact (verbatim _ new).2.2.2 rfl

/-! ### The words of the command -/

theorem mem_replaced {name word : List Char} {words : List (List Char)} (member : word ∈ replaced name [[]] words) :
    word = [] ∨ word ∈ words ∧ name.isPrefixOf word = false := by
  obtain ⟨old, inside, is⟩ := List.mem_flatMap.mp member
  cases starts : name.isPrefixOf old with
  | true =>
    rw [starts, if_pos rfl, List.mem_singleton] at is
    exact .inl is
  | false =>
    rw [starts, if_neg Bool.false_ne_true, List.mem_singleton] at is
    subst is
    exact .inr ⟨inside, starts⟩

theorem filter_replaced_length (other name : List Char) (nonempty : other ≠ []) (words : List (List Char)) :
    ((replaced name [[]] words).filter other.isPrefixOf).length ≤ (words.filter other.isPrefixOf).length := by
  obtain ⟨c, rest, rfl⟩ := List.exists_cons_of_ne_nil nonempty
  induction words with
  | nil => exact Nat.le_refl _
  | cons word words ih =>
    rw [replaced, List.flatMap_cons, ← replaced, List.filter_append, List.length_append]
    have here : ((if name.isPrefixOf word then [[]] else [word]).filter (c :: rest).isPrefixOf).length ≤
        ([word].filter (c :: rest).isPrefixOf).length := by
      split
      · exact Nat.zero_le _
      · exact Nat.le_refl _
    rw [show word :: words = [word] ++ words from rfl, List.filter_append, List.length_append]
    exact Nat.add_le_add here ih

theorem AssignedOnce.replaced {other : List Char} {words : List (List Char)} (once : AssignedOnce other words)
    (nonempty : other ≠ []) (name : List Char) : AssignedOnce other (replaced name [[]] words) where
  own word member has := by
    rcases mem_replaced member with rfl | ⟨inside, _⟩
    · exact absurd (List.infix_nil.mp has) nonempty
    · exact once.own word inside has
  once := Nat.le_trans (filter_replaced_length other name nonempty words) once.once

theorem assigned_append (name : List Char) (first second : List (List Char)) :
    assigned name (first ++ second) = assigned name first ++ assigned name second := List.filterMap_append

theorem assigned_other {name word : List Char} (other : name.isPrefixOf word = false) : stripPrefix name word = none := by
  rw [stripPrefix, other, if_neg Bool.false_ne_true]

/-- Where the variable is assigned by replaced words only, the replacements assign it. -/
theorem assigned_replaced {name other : List Char} {words : List (List Char)} (replacement : List (List Char))
    (silent : ∀ word ∈ words, other.isPrefixOf word = true → name.isPrefixOf word = true) :
    assigned other (replaced name replacement words) =
      (words.filter name.isPrefixOf).flatMap fun _ => assigned other replacement := by
  induction words with
  | nil => rfl
  | cons word words ih =>
    obtain ⟨here, later⟩ := List.forall_mem_cons.mp silent
    rw [replaced, List.flatMap_cons, ← replaced, assigned_append, ih later]
    cases starts : name.isPrefixOf word with
    | true => rw [if_pos rfl, List.filter_cons_of_pos starts, List.flatMap_cons]
    | false =>
      have unassigned : other.isPrefixOf word = false := by
        refine Bool.eq_false_iff.mpr fun same => ?_
        rw [here same] at starts
        cases starts
      rw [if_neg Bool.false_ne_true, List.filter_cons_of_neg (by rw [starts]; exact Bool.false_ne_true), assigned,
        List.filterMap_cons_none (assigned_other unassigned)]
      rfl

theorem filter_replaced {name : List Char} {keeps : List Char → Bool} {replacement : List (List Char)}
    (hidden : ∀ word, name.isPrefixOf word = true → keeps word = false) (new : replacement.filter keeps = [])
    (words : List (List Char)) : (replaced name replacement words).filter keeps = words.filter keeps := by
  induction words with
  | nil => rfl
  | cons word words ih =>
    rw [replaced, List.flatMap_cons, ← replaced, List.filter_append, ih]
    cases starts : name.isPrefixOf word with
    | true => rw [if_pos rfl, new, List.filter_cons_of_neg (by rw [hidden word starts]; exact Bool.false_ne_true), List.nil_append]
    | false => rw [if_neg Bool.false_ne_true, ← List.filter_append, List.singleton_append]

/-! ### The command that is sent -/

namespace Spawn
variable (spawn : Spawn)

/-- The words of the command that the real `tmux` gets. -/
def command (shim : TmuxShim) : List (List Char) :=
  let new := [shim.injectUrl spawn.agentId, shim.injectHeaders]
  if spawn.words.any baseUrlName.isPrefixOf then replaced baseUrlName new (replaced headersName [[]] spawn.words)
  else replaced headersName [[]] spawn.before ++ (new ++ agentFlag :: spawn.agentId :: replaced headersName [[]] spawn.after)

theorem verbatim_append {first second : List Char} (one : Verbatim first) (two : Verbatim second) : Verbatim (first ++ second) :=
  List.forall_mem_append.mpr ⟨one, two⟩

theorem plain_not_mem {text : List Char} (plain : Plain text) {c : Char} (special : isPlainChar c = false) : c ∉ text := by
  intro inside
  rw [plain c inside] at special
  cases special

theorem plain_verbatim {text : List Char} (plain : Plain text) : Verbatim text := by
  intro c member
  refine ⟨?_, ?_, ?_, ?_⟩
  all_goals
    rintro rfl
    exact plain_not_mem plain (by decide) member

theorem plain_toDigits (n : Nat) : Plain (Nat.toDigits 10 n) := by
  intro c member
  have digit : c.isDigit = true := Nat.isDigit_of_mem_toDigits (by decide) (by decide) member
  rw [isPlainChar, Char.isAlphanum, digit, Bool.or_true]
  rfl

theorem agentId_not_assignment {name : List Char} (assigns : '=' ∈ name) : name.isPrefixOf spawn.agentId = false := by
  refine Bool.eq_false_iff.mpr fun starts => ?_
  exact plain_not_mem spawn.plain (by decide) ((List.isPrefixOf_iff_prefix.mp starts).subset assigns)

theorem replaced_words : replaced headersName [[]] spawn.words =
    replaced headersName [[]] spawn.before ++ agentFlag :: spawn.agentId :: replaced headersName [[]] spawn.after := by
  rw [words, replaced_append]
  congr 1
  rw [replaced, List.flatMap_cons, List.flatMap_cons, agentId_not_assignment spawn (by decide)]
  rfl

theorem stripHeaders_text (sed : Sed) :
    TmuxShim.stripHeaders sed spawn.text = [' '].intercalate (replaced headersName [[]] spawn.words) := by
  have unspaced : ∀ word ∈ spawn.words, ' ' ∉ word := fun word member => (spawn.unbroken word member).1
  have oneLine : '\n' ∉ spawn.text := not_mem_intercalate (by decide) fun word member => (spawn.unbroken word member).2
  have nothing : [[]] ≠ ([] : List (List Char)) := List.cons_ne_nil _ _
  rw [TmuxShim.stripHeaders]
  split
  · rw [sed_line sed _ (fun _ member => absurd member List.not_mem_nil) oneLine]
    exact replaceFirst_words (by decide) (by decide) spawn.headers unspaced nothing
  · rename_i absent
    rw [replaced_eq_self, text]
    intro word member
    exact Bool.eq_false_iff.mpr fun starts => absent (infix_of_word member starts)

theorem injectUrl_verbatim (shim : TmuxShim) : Verbatim (shim.injectUrl spawn.agentId) :=
  verbatim_append (by decide +kernel) (verbatim_append (verbatim_append (by decide +kernel) (plain_verbatim (plain_toDigits shim.port)))
    (verbatim_append (by decide +kernel) (plain_verbatim spawn.plain)))

theorem injectHeaders_verbatim {shim : TmuxShim} (token : Plain shim.sessionToken) : Verbatim shim.injectHeaders :=
  verbatim_append (by decide +kernel) (verbatim_append (by decide +kernel) (plain_verbatim token))

theorem replaceUrl_text (sed : Sed) {shim : TmuxShim} (token : Plain shim.sessionToken) :
    shim.replaceUrl sed spawn.agentId ([' '].intercalate (replaced headersName [[]] spawn.words)) =
      [' '].intercalate (spawn.command shim) := by
  have injection : Verbatim (shim.injectUrl spawn.agentId ++ ' ' :: shim.injectHeaders) :=
    verbatim_append (injectUrl_verbatim spawn shim) (List.forall_mem_cons.mpr ⟨by decide, injectHeaders_verbatim token⟩)
  have unbroken : ∀ word ∈ replaced headersName [[]] spawn.words, ' ' ∉ word ∧ '\n' ∉ word := by
    intro word member
    rcases mem_replaced member with rfl | ⟨inside, _⟩
    · exact ⟨List.not_mem_nil, List.not_mem_nil⟩
    · exact spawn.unbroken word inside
  have oneLine : '\n' ∉ [' '].intercalate (replaced headersName [[]] spawn.words) :=
    not_mem_intercalate (by decide) fun word member => (unbroken word member).2
  have once : AssignedOnce baseUrlName (replaced headersName [[]] spawn.words) := spawn.url.replaced (by decide) headersName
  have nonempty : [shim.injectUrl spawn.agentId, shim.injectHeaders] ≠ [] := List.cons_ne_nil _ _
  have joined : shim.injectUrl spawn.agentId ++ ' ' :: shim.injectHeaders =
      [' '].intercalate [shim.injectUrl spawn.agentId, shim.injectHeaders] := by
    rw [intercalate_cons, trail_cons, trail_nil, List.append_nil]
  rw [TmuxShim.replaceUrl, command]
  by_cases listed : spawn.words.any baseUrlName.isPrefixOf = true
  · have inside : baseUrlName <:+: [' '].intercalate (replaced headersName [[]] spawn.words) := by
      obtain ⟨word, member, starts⟩ := List.any_eq_true.mp listed
      obtain ⟨value, rfl⟩ := prefix_of_cons starts
      refine infix_of_word (List.mem_flatMap.mpr ⟨_, member, ?_⟩) starts
      exact List.mem_singleton_self _
    rw [if_pos inside, if_pos listed, sed_line sed _ injection oneLine, joined]
    exact replaceFirst_words (by decide) (by decide) once (fun word member => (unbroken word member).1) nonempty
  · have absent : ¬ baseUrlName <:+: [' '].intercalate (replaced headersName [[]] spawn.words) := by
      intro inside
      obtain ⟨word, member, has⟩ := infix_intercalate (by decide) (by decide) inside
      have starts := once.own word member has
      rcases mem_replaced member with rfl | ⟨within, _⟩
      · exact absurd (List.prefix_nil.mp starts) (by decide)
      · exact listed (List.any_eq_true.mpr ⟨word, within, List.isPrefixOf_iff_prefix.mpr starts⟩)
    have unflagged : ∀ word ∈ replaced headersName [[]] spawn.before, ¬ agentFlag <:+: word := by
      intro word member
      rcases mem_replaced member with rfl | ⟨within, _⟩
      · exact fun has => absurd (List.infix_nil.mp has) (by decide)
      · exact spawn.first word within
    have flag : breakAt agentFlag agentFlag = some ([], []) := breakAt_start (by decide) []
    rw [if_neg absent, if_neg listed, sed_line sed _ (verbatim_append injection (by decide +kernel)) oneLine, replaced_words,
      replaceFirst, breakAt_word (by decide) (by decide) unflagged flag]
    dsimp only
    rw [if_neg Bool.false_ne_true, intercalate_append ' ' (replaced headersName [[]] spawn.before) nonempty, ← joined, trail_cons]
    simp only [trail_cons, List.append_assoc, List.cons_append, List.nil_append]

/-! ### The agent of the command -/

theorem extractAgentId_of_breakAt {text before after : List Char}
    (found : breakAt (agentFlag ++ [' ']) text = some (before, after))
    (named : after.takeWhile (fun c => c != ' ' && c != '\n') ≠ []) :
    extractAgentId text = after.takeWhile fun c => c != ' ' && c != '\n' := by
  induction text generalizing before with
  | nil =>
    rw [breakAt] at found
    split at found
    · rename_i empty
      exact absurd empty (by decide)
    · cases found
  | cons c rest ih =>
    rw [breakAt] at found
    rw [extractAgentId, stripPrefix]
    split at found
    · rename_i starts
      cases found
      rw [if_pos starts]
      dsimp only
      rw [if_neg (fun empty => named (List.isEmpty_iff.mp empty))]
    · rename_i elsewhere
      obtain ⟨parts, later, same⟩ := Option.map_eq_some_iff.mp found
      cases same
      rw [if_neg elsewhere]
      exact ih later

theorem takeWhile_trail {value : List Char} (unbroken : ' ' ∉ value ∧ '\n' ∉ value) (words : List (List Char)) :
    (value ++ trail ' ' words).takeWhile (fun c => c != ' ' && c != '\n') = value := by
  have inside : ∀ c ∈ value, (c != ' ' && c != '\n') = true := by
    intro c member
    rw [Bool.and_eq_true, bne_iff_ne, bne_iff_ne]
    exact ⟨fun same => unbroken.1 (same ▸ member), fun same => unbroken.2 (same ▸ member)⟩
  rw [List.takeWhile_append_of_pos inside]
  cases words with
  | nil => exact List.append_nil value
  | cons word words => exact List.append_nil value

theorem breakAt_text : breakAt (agentFlag ++ [' ']) spawn.text =
    some (lead ' ' spawn.before, spawn.agentId ++ trail ' ' spawn.after) := by
  have flag : breakAt agentFlag agentFlag = some ([], []) := breakAt_start (by decide) []
  have unspaced : ' ' ∉ agentFlag := by decide
  have found := breakAt_word unspaced (by decide) spawn.first flag (spawn.agentId :: spawn.after)
  rw [List.append_nil] at found
  exact breakAt_snoc found

theorem extractAgentId_text : extractAgentId spawn.text = spawn.agentId := by
  have unbroken : ' ' ∉ spawn.agentId ∧ '\n' ∉ spawn.agentId :=
    spawn.unbroken _ (List.mem_append_right _ (List.mem_cons_of_mem _ List.mem_cons_self))
  have whole := takeWhile_trail unbroken spawn.after
  rw [extractAgentId_of_breakAt spawn.breakAt_text (whole.symm ▸ spawn.named), whole]

theorem spawns_text : TmuxShim.spawns spawn.text = true := by
  rw [TmuxShim.spawns, decide_eq_true_iff, ← breakAt_isSome, spawn.breakAt_text]
  rfl

theorem inject_text (sed : Sed) {shim : TmuxShim} (token : Plain shim.sessionToken) :
    shim.inject sed spawn.text = [' '].intercalate (spawn.command shim) := by
  rw [TmuxShim.inject, extractAgentId_text, stripHeaders_text, replaceUrl_text spawn sed token]

/-! ### What the command assigns -/

theorem assigned_eq_nil {name : List Char} {words : List (List Char)} (absent : ∀ word ∈ words, name.isPrefixOf word = false) :
    assigned name words = [] :=
  List.filterMap_eq_nil_iff.mpr fun word member => assigned_other (absent word member)

/-- Where one word begins with the name, the replacement takes its place. -/
theorem flatMap_once {name : List Char} {words : List (List Char)} (once : AssignedOnce name words)
    (listed : words.any name.isPrefixOf = true) (values : List (List Char)) :
    ((words.filter name.isPrefixOf).flatMap fun _ => values) = values := by
  obtain ⟨word, member, starts⟩ := List.any_eq_true.mp listed
  have present : 0 < (words.filter name.isPrefixOf).length := List.length_pos_of_mem (List.mem_filter.mpr ⟨member, starts⟩)
  have one : (words.filter name.isPrefixOf).length = 1 := Nat.le_antisymm once.once present
  obtain ⟨only, is⟩ := List.length_eq_one_iff.mp one
  rw [is, List.flatMap_singleton]

theorem injected_url (shim : TmuxShim) : assigned baseUrlName [shim.injectUrl spawn.agentId, shim.injectHeaders] =
    [shim.proxyUrl ++ TmuxShim.teammatePath spawn.agentId] := rfl

theorem injected_headers (shim : TmuxShim) :
    assigned headersName [shim.injectUrl spawn.agentId, shim.injectHeaders] = [shim.tokenHeader] := rfl

theorem injected_others (shim : TmuxShim) : [shim.injectUrl spawn.agentId, shim.injectHeaders].filter isOther = [] := rfl

/-- The words without the headers, of which none assigns them. -/
theorem headers_removed (words : List (List Char)) :
    ∀ word ∈ replaced headersName [[]] words, headersName.isPrefixOf word = false := by
  intro word member
  rcases mem_replaced member with rfl | ⟨_, other⟩
  · decide
  · exact other

theorem url_removed {words : List (List Char)} (absent : ∀ word ∈ words, baseUrlName.isPrefixOf word = false) :
    ∀ word ∈ replaced headersName [[]] words, baseUrlName.isPrefixOf word = false := by
  intro word member
  rcases mem_replaced member with rfl | ⟨inside, _⟩
  · decide
  · exact absent word inside

theorem any_replaced (words : List (List Char)) (listed : words.any baseUrlName.isPrefixOf = true) :
    (replaced headersName [[]] words).any baseUrlName.isPrefixOf = true := by
  obtain ⟨word, member, starts⟩ := List.any_eq_true.mp listed
  obtain ⟨value, rfl⟩ := prefix_of_cons starts
  refine List.any_eq_true.mpr ⟨_, List.mem_flatMap.mpr ⟨_, member, ?_⟩, starts⟩
  exact List.mem_singleton_self _

/-- Without a base URL, the two variables stand before the flag, and no other word assigns the variable. -/
theorem assigned_command_fresh (shim : TmuxShim) {name : List Char} (assigns : '=' ∈ name)
    (early : ∀ word ∈ replaced headersName [[]] spawn.before, name.isPrefixOf word = false)
    (late : ∀ word ∈ replaced headersName [[]] spawn.after, name.isPrefixOf word = false) :
    assigned name (replaced headersName [[]] spawn.before ++ ([shim.injectUrl spawn.agentId, shim.injectHeaders] ++
      agentFlag :: spawn.agentId :: replaced headersName [[]] spawn.after)) =
        assigned name [shim.injectUrl spawn.agentId, shim.injectHeaders] := by
  have flag : name.isPrefixOf agentFlag = false := by
    refine Bool.eq_false_iff.mpr fun starts => ?_
    have inside : '=' ∈ agentFlag := (List.isPrefixOf_iff_prefix.mp starts).subset assigns
    exact absurd inside (by decide)
  have rest : ∀ word ∈ agentFlag :: spawn.agentId :: replaced headersName [[]] spawn.after, name.isPrefixOf word = false :=
    List.forall_mem_cons.mpr ⟨flag, List.forall_mem_cons.mpr ⟨agentId_not_assignment spawn assigns, late⟩⟩
  rw [assigned_append, assigned_append, assigned_eq_nil early, assigned_eq_nil rest, List.nil_append, List.append_nil]

theorem assigned_url (shim : TmuxShim) :
    assigned baseUrlName (spawn.command shim) = [shim.proxyUrl ++ TmuxShim.teammatePath spawn.agentId] := by
  rw [command]
  by_cases listed : spawn.words.any baseUrlName.isPrefixOf = true
  · have once : AssignedOnce baseUrlName (replaced headersName [[]] spawn.words) := spawn.url.replaced (by decide) headersName
    rw [if_pos listed, assigned_replaced _ (fun _ _ starts => starts), flatMap_once once (any_replaced _ listed), injected_url]
  · have absent : ∀ word ∈ spawn.words, baseUrlName.isPrefixOf word = false := fun word member =>
      Bool.eq_false_iff.mpr fun starts => listed (List.any_eq_true.mpr ⟨word, member, starts⟩)
    have early := url_removed fun word (member : word ∈ spawn.before) => absent word (List.mem_append_left _ member)
    have late := url_removed fun word (member : word ∈ spawn.after) =>
      absent word (List.mem_append_right _ (List.mem_cons_of_mem _ (List.mem_cons_of_mem _ member)))
    rw [if_neg listed, assigned_command_fresh spawn shim (by decide) early late, injected_url]

theorem assigned_headers (shim : TmuxShim) : assigned headersName (spawn.command shim) = [shim.tokenHeader] := by
  rw [command]
  by_cases listed : spawn.words.any baseUrlName.isPrefixOf = true
  · have once : AssignedOnce baseUrlName (replaced headersName [[]] spawn.words) := spawn.url.replaced (by decide) headersName
    have silent : ∀ word ∈ replaced headersName [[]] spawn.words, headersName.isPrefixOf word = true →
        baseUrlName.isPrefixOf word = true := by
      intro word member starts
      rw [headers_removed _ word member] at starts
      cases starts
    rw [if_pos listed, assigned_replaced _ silent, flatMap_once once (any_replaced _ listed), injected_headers]
  · rw [if_neg listed, assigned_command_fresh spawn shim (by decide) (headers_removed _) (headers_removed _), injected_headers]

/-- The command keeps every word that assigns neither variable, in order. -/
theorem command_others (shim : TmuxShim) : (spawn.command shim).filter isOther = spawn.words.filter isOther := by
  have url : ∀ word, baseUrlName.isPrefixOf word = true → isOther word = false := by
    intro word starts
    rw [isOther, starts, Bool.not_true, Bool.and_false, Bool.false_and]
  have headers : ∀ word, headersName.isPrefixOf word = true → isOther word = false := by
    intro word starts
    rw [isOther, starts, Bool.not_true, Bool.and_false]
  have removed : ∀ words, (replaced headersName [[]] words).filter isOther = words.filter isOther :=
    filter_replaced headers rfl
  rw [command]
  split
  · rw [filter_replaced url (injected_others spawn shim), removed]
  · rw [List.filter_append, List.filter_append, injected_others, List.nil_append, removed, ← removed spawn.words,
      replaced_words, List.filter_append, removed]

theorem command_unspaced {shim : TmuxShim} (token : Plain shim.sessionToken) : ∀ word ∈ spawn.command shim, ' ' ∉ word := by
  have plainUnspaced : ∀ {text : List Char}, Plain text → ' ' ∉ text := fun plain => plain_not_mem plain (by decide)
  have append : ∀ {first second : List Char}, ' ' ∉ first → ' ' ∉ second → ' ' ∉ first ++ second := by
    intro first second one two member
    exact (List.mem_append.mp member).elim one two
  have url : ' ' ∉ shim.injectUrl spawn.agentId :=
    append (by decide) (append (append (by decide) (plainUnspaced (plain_toDigits shim.port)))
      (append (by decide) (plainUnspaced spawn.plain)))
  have headers : ' ' ∉ shim.injectHeaders := append (by decide) (append (by decide) (plainUnspaced token))
  have kept : ∀ words, (∀ word ∈ words, ' ' ∉ word) → ∀ word ∈ replaced headersName [[]] words, ' ' ∉ word := by
    intro words unspaced word member
    rcases mem_replaced member with rfl | ⟨inside, _⟩
    · exact List.not_mem_nil
    · exact unspaced word inside
  have unbroken : ∀ word ∈ spawn.words, ' ' ∉ word := fun word member => (spawn.unbroken word member).1
  obtain ⟨early, flagged⟩ := List.forall_mem_append.mp unbroken
  obtain ⟨flag, named⟩ := List.forall_mem_cons.mp flagged
  obtain ⟨agent, late⟩ := List.forall_mem_cons.mp named
  have new : ∀ word ∈ [shim.injectUrl spawn.agentId, shim.injectHeaders], ' ' ∉ word :=
    List.forall_mem_cons.mpr ⟨url, List.forall_mem_singleton.mpr headers⟩
  rw [command]
  split
  · intro word member
    obtain ⟨old, inside, is⟩ := List.mem_flatMap.mp member
    split at is
    · exact new word is
    · rw [List.mem_singleton.mp is]
      exact kept _ unbroken old inside
  · exact List.forall_mem_append.mpr ⟨kept _ early, List.forall_mem_append.mpr ⟨new,
      List.forall_mem_cons.mpr ⟨flag, List.forall_mem_cons.mpr ⟨agent, kept _ late⟩⟩⟩⟩

/-- The text that is sent splits into these words. -/
theorem splitOn_command {shim : TmuxShim} (token : Plain shim.sessionToken) :
    ([' '].intercalate (spawn.command shim)).splitOn ' ' = spawn.command shim := by
  refine List.splitOn_intercalate ' ' (command_unspaced spawn token) ?_
  intro empty
  have url := assigned_url spawn shim
  rw [empty] at url
  cases url

end Spawn

end Anycode.Shim
