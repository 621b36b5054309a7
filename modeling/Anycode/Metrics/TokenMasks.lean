import Anycode.Data.Fields
import Anycode.Metrics.Preview

/-!
# Masked tokens

The tokens that a text has behind its markers, and when another text is that text with its tokens
masked: everything else stands as it was, and of a token at most its last four characters do.
-/

namespace Anycode.Metrics
open Data Pipeline

def tokenKeys : List String := ["api_key", "access_token", "refresh_token"]

def bearerWord : List Char := "Bearer".toList

theorem bearerMarker_text : bearerMarker.text = bearerWord ++ [' '] := rfl

/-- A bearer token begins here: the first word behind the marker, or nothing if only white space is left. -/
structure BearerAt (before text token : List Char) : Prop where
  marked : ∃ start gap, before = start ++ bearerMarker.text ++ gap ∧ ∀ c ∈ gap, isWhitespace c = true
  word : token = firstWord text
  here : token <+: text

structure KeyValueAt (before text token : List Char) : Prop where
  marked : ∃ key ∈ tokenKeys, (keyMarker key).text <:+ before
  value : token = upToSeparator text

def TokenAt (before text token : List Char) : Prop := BearerAt before text token ∨ KeyValueAt before text token

/-- The text's first character is one of such a token, and not among the token's last four. -/
def Inside (At : List Char → List Char → List Char → Prop) (before text : List Char) : Prop :=
  ∃ start passed token, before = start ++ passed ∧ At start (passed ++ text) token ∧ passed.length + 4 < token.length

/-- Behind `before`, the output is the text with its tokens masked: stars and at most the last
four characters stand in the place of a token. -/
inductive Redacted : List Char → List Char → List Char → Prop
  | done {before : List Char} : Redacted before [] []
  | keep {before text output : List Char} {c : Char} (outside : ¬ Inside TokenAt before (c :: text))
    (later : Redacted (before ++ [c]) text output) : Redacted before (c :: text) (c :: output)
  | mask {before token text output last : List Char} (stars : Nat) (found : TokenAt before (token ++ text) token)
    (ends : last <:+ token) (few : last.length ≤ 4) (later : Redacted (before ++ token) text output) :
    Redacted before (token ++ text) (List.replicate stars '*' ++ last ++ output)

/-! ### Words -/

theorem unbroken_stars (n : Nat) : Unbroken isWhitespace (List.replicate n '*') := by
  intro c member
  rw [List.eq_of_mem_replicate member]
  decide

theorem firstWord_blank_append {gap : List Char} (blank : ∀ c ∈ gap, isWhitespace c = true) (text : List Char) :
    firstWord (gap ++ text) = firstWord text := by
  rw [firstWord, firstWord, trimStart, trimStart, List.dropWhile_append_of_pos blank]

theorem firstWord_blank_cons {c : Char} (blank : isWhitespace c = true) (text : List Char) :
    firstWord (c :: text) = firstWord text := by
  rw [firstWord, firstWord, trimStart, trimStart, List.dropWhile_cons_of_pos blank]

theorem firstWord_append {word rest : List Char} (unbroken : Unbroken isWhitespace word) (nonempty : word ≠ [])
    (breaks : Breaks isWhitespace rest) : firstWord (word ++ rest) = word := by
  obtain ⟨c, word, rfl⟩ := List.exists_cons_of_ne_nil nonempty
  have start : trimStart (c :: word ++ rest) = c :: word ++ rest := by
    rw [trimStart, List.cons_append, List.dropWhile_cons_of_neg (by rw [unbroken.head]; exact Bool.false_ne_true)]
  rw [firstWord, start]
  exact field_append unbroken breaks

theorem firstWord_blank {text : List Char} (blank : ∀ c ∈ text, isWhitespace c = true) : firstWord text = [] := by
  have skipped := firstWord_blank_append blank []
  rwa [List.append_nil] at skipped

theorem unbroken_firstWord (text : List Char) : Unbroken isWhitespace (firstWord text) :=
  unbroken_field isWhitespace _

/-- White space, the first word and what comes behind it. -/
theorem firstWord_split (text : List Char) :
    ∃ gap rest, text = gap ++ firstWord text ++ rest ∧ (∀ c ∈ gap, isWhitespace c = true) ∧ Breaks isWhitespace rest := by
  obtain ⟨rest, split, breaks⟩ := field_append_drop isWhitespace (trimStart text)
  refine ⟨text.takeWhile isWhitespace, rest, ?_, ?_, breaks⟩
  · have whole : text.takeWhile isWhitespace ++ trimStart text = text := List.takeWhile_append_dropWhile
    rw [List.append_assoc, show firstWord text = field isWhitespace (trimStart text) from rfl, ← split, whole]
  · exact fun c member => List.all_eq_true.mp List.all_takeWhile c member

theorem breaks_of_firstWord_append {rest : List Char} {token : List Char} (word : token = firstWord (token ++ rest)) :
    Breaks isWhitespace rest := by
  obtain ⟨gap, behind, split, blank, breaks⟩ := firstWord_split (token ++ rest)
  rw [← word] at split
  cases gap with
  | nil =>
    rw [List.nil_append, List.append_cancel_left_eq] at split
    rwa [split]
  | cons c gap =>
    cases token with
    | nil =>
      rw [List.nil_append] at split
      rw [split]
      exact blank c List.mem_cons_self
    | cons d token =>
      have unbroken : Unbroken isWhitespace (d :: token) := by
        rw [word]
        exact unbroken_firstWord _
      obtain ⟨rfl, _⟩ := List.cons_eq_cons.mp split
      have dark := unbroken.head
      rw [blank d List.mem_cons_self] at dark
      cases dark

/-! ### Tokens -/

theorem BearerAt.unbroken {before text token : List Char} (found : BearerAt before text token) :
    Unbroken isWhitespace token := by
  rw [found.word]
  exact unbroken_firstWord text

def isSeparator (c : Char) : Bool := c == '&' || isWhitespace c

theorem upToSeparator_eq (text : List Char) : upToSeparator text = field isSeparator text := rfl

theorem unbroken_blank {text : List Char} (unbroken : Unbroken isSeparator text) : Unbroken isWhitespace text := by
  intro c member
  exact (Bool.or_eq_false_iff.mp (unbroken c member)).2

theorem KeyValueAt.unbroken {before text token : List Char} (found : KeyValueAt before text token) :
    Unbroken isSeparator token := by
  rw [found.value]
  exact unbroken_field isSeparator text

theorem TokenAt.unbroken {before text token : List Char} (found : TokenAt before text token) :
    Unbroken isWhitespace token := by
  rcases found with bearer | keyValue
  · exact bearer.unbroken
  · exact unbroken_blank keyValue.unbroken

theorem TokenAt.starts {before text token : List Char} (found : TokenAt before text token) : token <+: text := by
  rcases found with bearer | keyValue
  · exact bearer.here
  · rw [keyValue.value]
    exact List.takeWhile_prefix _

theorem inside_tokenAt {before text : List Char} :
    Inside TokenAt before text ↔ Inside BearerAt before text ∨ Inside KeyValueAt before text := by
  constructor
  · rintro ⟨start, passed, token, split, bearer | keyValue, long⟩
    · exact .inl ⟨start, passed, token, split, bearer, long⟩
    · exact .inr ⟨start, passed, token, split, keyValue, long⟩
  · rintro (⟨start, passed, token, split, bearer, long⟩ | ⟨start, passed, token, split, keyValue, long⟩)
    · exact ⟨start, passed, token, split, .inl bearer, long⟩
    · exact ⟨start, passed, token, split, .inr keyValue, long⟩

/-- A token that has a character before and the text's first character has both. -/
theorem unbroken_passed {sep : Char → Bool} {passed text token : List Char} {c : Char}
    (here : token <+: passed ++ c :: text)
    (unbroken : Unbroken sep token) (long : passed.length + 4 < token.length) : Unbroken sep (passed ++ [c]) := by
  have covered : passed ++ [c] <+: token := by
    refine List.prefix_of_prefix_length_le ?_ here (by rw [List.length_append, List.length_singleton]; omega)
    exact ⟨text, by rw [List.append_assoc]; rfl⟩
  exact unbroken.part covered.isInfix

/-- White space is in no token. -/
theorem not_inside_blank {before text : List Char} {c : Char} (blank : isWhitespace c = true) :
    ¬ Inside TokenAt before (c :: text) := by
  rintro ⟨start, passed, token, rfl, found, long⟩
  have unbroken := unbroken_passed found.starts found.unbroken long
  rw [unbroken c (List.mem_append_right _ List.mem_cons_self)] at blank
  cases blank

/-! ### What a redaction keeps -/

/-- Text outside tokens stands as it was. -/
theorem Redacted.keeps {before kept text output : List Char}
    (outside : ∀ first c rest, kept = first ++ c :: rest → ¬ Inside TokenAt (before ++ first) (c :: rest ++ text))
    (later : Redacted (before ++ kept) text output) : Redacted before (kept ++ text) (kept ++ output) := by
  induction kept generalizing before with
  | nil =>
    rw [List.append_nil] at later
    exact later
  | cons c kept ih =>
    have here := outside [] c kept rfl
    rw [List.append_nil] at here
    refine .keep here (ih ?_ (by rwa [List.append_assoc]))
    intro first d rest split
    rw [List.append_assoc]
    exact outside (c :: first) d rest (by rw [split]; rfl)

theorem Redacted.keeps_blank {before gap text output : List Char} (blank : ∀ c ∈ gap, isWhitespace c = true)
    (later : Redacted (before ++ gap) text output) : Redacted before (gap ++ text) (gap ++ output) := by
  refine .keeps ?_ later
  intro first c rest split
  exact not_inside_blank (blank c (by rw [split]; exact List.mem_append_right _ List.mem_cons_self))

/-- The white space of a redacted text is that of the text, at the same places. -/
theorem Redacted.behind_blank {before text output : List Char} (redacted : Redacted before text output)
    {first rest masked later : List Char} {c d : Char} (split : text = first ++ c :: rest) (blank : isWhitespace c = true)
    (result : output = masked ++ d :: later) (blank' : isWhitespace d = true)
    (same : masked.countP isWhitespace = first.countP isWhitespace) :
    d = c ∧ Redacted (before ++ first ++ [c]) rest later := by
  induction redacted generalizing first masked with
  | done => cases first <;> cases split
  | @keep before text output e _ tail ih =>
    cases first with
    | nil =>
      cases split
      cases masked with
      | nil =>
        cases result
        refine ⟨rfl, ?_⟩
        rwa [List.append_nil]
      | cons e masked =>
        cases result
        rw [List.countP_cons_of_pos blank] at same
        cases same
    | cons e first =>
      cases split
      cases masked with
      | nil =>
        cases result
        rw [List.countP_cons_of_pos blank'] at same
        cases same
      | cons e masked =>
        cases result
        rw [List.countP_cons, List.countP_cons, Nat.add_right_cancel_iff] at same
        obtain ⟨equal, behind⟩ := ih rfl rfl same
        rw [List.append_assoc] at behind
        exact ⟨equal, by simpa using behind⟩
  | @mask before token text output last stars found ends few tail ih =>
    have light : Unbroken isWhitespace (List.replicate stars '*' ++ last) :=
      unbroken_append.mpr ⟨unbroken_stars stars, found.unbroken.part ends.isInfix⟩
    obtain ⟨between, rfl, rfl⟩ := unbroken_prefix found.unbroken blank split
    obtain ⟨shown, rfl, rfl⟩ := unbroken_prefix light blank' result
    have none_ : ∀ {part : List Char}, Unbroken isWhitespace part → part.countP isWhitespace = 0 :=
      fun unbroken => List.countP_eq_zero.mpr fun e member => by rw [unbroken e member]; exact Bool.false_ne_true
    rw [List.countP_append, none_ light, List.countP_append, none_ found.unbroken, Nat.zero_add, Nat.zero_add] at same
    obtain ⟨equal, behind⟩ := ih rfl rfl same
    exact ⟨equal, by rwa [← List.append_assoc]⟩

theorem Redacted.behind_first {before text output : List Char} {c : Char} (redacted : Redacted before (c :: text) (c :: output))
    (blank : isWhitespace c = true) : Redacted (before ++ [c]) text output := by
  have same : ([] : List Char).countP isWhitespace = ([] : List Char).countP isWhitespace := rfl
  have behind := (redacted.behind_blank rfl blank rfl blank same).2
  rwa [List.append_nil] at behind

/-! ### What a redaction masks -/

theorem ends_of_blank {before gap : List Char} (blank : ∀ c ∈ gap, isWhitespace c = true) (nonempty : gap ≠ []) :
    Ends isWhitespace (before ++ gap) := by
  obtain ⟨first, c, rfl⟩ := (List.eq_nil_or_concat gap).resolve_left nonempty
  rw [List.concat_eq_append] at blank ⊢
  exact .inr ⟨_, c, (List.append_assoc _ _ _).symm, blank c (List.mem_append_right _ List.mem_cons_self)⟩

theorem BearerAt.ends {before text token : List Char} (found : BearerAt before text token) : Ends isWhitespace before := by
  obtain ⟨⟨start, gap, rfl, blank⟩, _, _⟩ := found
  rw [bearerMarker_text, List.append_assoc, List.append_assoc, ← List.append_assoc]
  exact ends_of_blank (List.forall_mem_cons.mpr ⟨by decide, blank⟩) (List.cons_ne_nil ' ' gap)

/-- What a marker of these keys has: letters, and the sign at its end. -/
theorem keyMarker_chars {key : String} (listed : key ∈ tokenKeys) :
    Unbroken isSeparator (keyMarker key).text ∧ '*' ∉ (keyMarker key).text ∧ 4 < (keyMarker key).text.length ∧
      '=' ∉ (keyMarker key).text.dropLast := by
  have all : ∀ key ∈ tokenKeys, (keyMarker key).text.any isSeparator = false ∧ '*' ∉ (keyMarker key).text ∧
      4 < (keyMarker key).text.length ∧ '=' ∉ (keyMarker key).text.dropLast := by decide
  obtain ⟨plain, rest⟩ := all key listed
  exact ⟨fun c member => Bool.eq_false_iff.mpr (List.any_eq_false.mp plain c member), rest⟩

theorem not_keyValueAt {before text token : List Char} (ends : Ends isWhitespace before) :
    ¬ KeyValueAt before text token := by
  rintro ⟨⟨key, listed, marked⟩, _⟩
  have light := unbroken_blank (keyMarker_chars listed).1
  exact (keyMarker key).nonempty (ends.suffix_eq_nil light marked)

/-- A long word behind a bearer marker is masked. -/
theorem Redacted.masks_word {before word rest output : List Char} (redacted : Redacted before (word ++ rest) output)
    (found : BearerAt before (word ++ rest) word) (long : 4 < word.length) :
    ∃ stars last later, output = List.replicate stars '*' ++ last ++ later ∧ last <:+ word ∧ last.length ≤ 4 ∧
      Redacted (before ++ word) rest later := by
  generalize whole : word ++ rest = text at redacted found
  cases redacted with
  | done =>
    rw [(List.append_eq_nil_iff.mp whole).1] at long
    cases long
  | keep outside => exact absurd ⟨before, [], word, (List.append_nil before).symm, .inl found, by simpa using long⟩ outside
  | @mask _ token tail later last stars other ends few behind =>
    rcases other with bearer | keyValue
    · have same : token = word := bearer.word.trans found.word.symm
      subst same
      obtain rfl : rest = tail := List.append_cancel_left whole
      exact ⟨stars, last, later, rfl, ends, few, behind⟩
    · exact absurd keyValue (not_keyValueAt found.ends)

theorem token_of_breaks {before token rest : List Char} (found : TokenAt before (token ++ rest) token)
    (breaks : Breaks isWhitespace (token ++ rest)) : token = [] := by
  cases token with
  | nil => rfl
  | cons c token =>
    rw [List.cons_append, Breaks, found.unbroken.head] at breaks
    cases breaks

/-- Where no token begins, white space follows at once. -/
theorem Redacted.breaks {before text output : List Char} (redacted : Redacted before text output)
    (breaks : Breaks isWhitespace text) (none_ : ¬ TokenAt before text []) : Breaks isWhitespace output := by
  cases redacted with
  | done => trivial
  | keep => exact breaks
  | mask stars found =>
    obtain rfl := token_of_breaks found breaks
    exact absurd found none_

/-- Before white space, only stars can be put in. -/
theorem Redacted.stars {before text output : List Char} (redacted : Redacted before text output)
    (breaks : Breaks isWhitespace text) : ∀ c ∈ field isWhitespace output, c = '*' := by
  induction redacted with
  | done => exact nofun
  | @keep before text output c =>
    rw [field_eq_nil (show Breaks isWhitespace (c :: output) from breaks)]
    exact nofun
  | @mask before token text output last stars found ends few later ih =>
    obtain rfl := token_of_breaks found breaks
    rw [List.suffix_nil.mp ends, List.append_nil, field, List.takeWhile_append_of_pos]
    · intro c member
      rcases List.mem_append.mp member with star | behind
      · exact List.eq_of_mem_replicate star
      · exact ih breaks c behind
    · intro c member
      rw [unbroken_stars stars c member]
      rfl

end Anycode.Metrics
