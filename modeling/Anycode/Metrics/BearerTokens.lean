import Anycode.Metrics.KeyValues

/-!
# Masking bearer tokens

The scan for bearer markers masks the word behind a marker but skips as many bytes from right behind
the marker. When what it leaves is the text with its tokens masked, and when not.
-/

namespace Anycode.Metrics
open Data Pipeline

/-- All but the last four characters are stars already. -/
def Starred (word : List Char) : Prop := ∀ c ∈ word.take (word.length - 4), c = '*'

/-- Each marker that the scan finds is followed at once by its token, or by nothing but white space;
and a marker that ends in such a token is followed by a word that needs no masking. -/
inductive BearersAdjacent : List Char → Prop
  | done {text : List Char} (absent : breakAt bearerMarker.text text = none) : BearersAdjacent text
  | blank {text before after : List Char} (found : breakAt bearerMarker.text text = some (before, after))
    (blank : ∀ c ∈ after, isWhitespace c = true) : BearersAdjacent text
  | next {text before token rest : List Char} (found : breakAt bearerMarker.text text = some (before, token ++ rest))
    (word : token = firstWord (token ++ rest)) (nonempty : token ≠ [])
    (hidden : bearerWord <:+ token → [' '] <+: rest → Starred (firstWord rest)) (later : BearersAdjacent rest) :
    BearersAdjacent text

/-! ### The scan -/

theorem space_blank : isWhitespace ' ' = true := by decide

theorem unbroken_bearerWord : Unbroken isWhitespace bearerWord := by
  have plain : bearerWord.all (fun c => !isWhitespace c) = true := by decide
  exact fun c member => (Bool.not_eq_true' _).mp (List.all_eq_true.mp plain c member)

theorem blank_no_bearer {text : List Char} (blank : ∀ c ∈ text, isWhitespace c = true) :
    ¬ bearerMarker.text <:+: text := by
  intro inside
  have letter := blank 'B' (inside.subset (by decide))
  revert letter
  decide

theorem split_of_found {text before after : List Char} (found : breakAt bearerMarker.text text = some (before, after)) :
    text = before ++ bearerWord ++ ' ' :: after := by
  rw [breakAt_eq_some found, bearerMarker_text]
  simp

theorem maskBearerTokens_none {text : List Char} (absent : breakAt bearerMarker.text text = none) :
    maskBearerTokens text = .ok text :=
  maskAfter_none absent

theorem maskBearerTokens_next {text before after rest masked : List Char}
    (found : breakAt bearerMarker.text text = some (before, after)) (split : after = firstWord after ++ rest)
    (later : maskBearerTokens rest = .ok masked) :
    maskBearerTokens text = .ok (before ++ bearerMarker.text ++ maskValue (firstWord after) ++ masked) := by
  have cut : sliceFrom after (byteLen (firstWord after)) = .ok rest := by
    have whole := sliceFrom_append (firstWord after) rest
    rwa [← split] at whole
  have masked : maskAfter bearerMarker firstWord rest = .ok masked := later
  rw [maskBearerTokens, maskAfter_some found, cut, Except.bind, masked]
  rfl

theorem maskBearerTokens_blank {text before after : List Char}
    (found : breakAt bearerMarker.text text = some (before, after)) (blank : ∀ c ∈ after, isWhitespace c = true) :
    maskBearerTokens text = .ok (before ++ bearerMarker.text ++ redacted ++ after) := by
  have none_ : firstWord after = [] := firstWord_blank blank
  have rest : maskBearerTokens after = .ok after := maskBearerTokens_none (breakAt_eq_none (blank_no_bearer blank))
  have same := maskBearerTokens_next found (by rw [none_]; rfl) rest
  rwa [none_] at same

theorem maskBearerTokens_cons {c : Char} (other : c ≠ 'B') (text : List Char) :
    maskBearerTokens (c :: text) = (maskBearerTokens text).map fun masked => c :: masked := by
  have elsewhere : ¬ bearerMarker.text.isPrefixOf (c :: text) = true := by
    rw [List.isPrefixOf_iff_prefix]
    exact fun starts => other (List.cons_prefix_cons.mp starts).1.symm
  have parts : breakAt bearerMarker.text (c :: text) =
      (breakAt bearerMarker.text text).map fun parts => (c :: parts.1, parts.2) := by
    rw [breakAt, if_neg elsewhere]
  cases found : breakAt bearerMarker.text text with
  | none =>
    rw [found] at parts
    rw [maskBearerTokens_none found, maskBearerTokens_none parts]
    rfl
  | some halves =>
    obtain ⟨before, after⟩ := halves
    rw [found] at parts
    rw [maskBearerTokens, maskBearerTokens, maskAfter_some found, maskAfter_some parts]
    cases sliceFrom after (byteLen (firstWord after)) with
    | error panic => rfl
    | ok rest =>
      dsimp only [Except.bind]
      cases maskAfter bearerMarker firstWord rest <;> rfl

/-- The scan copies the white space that a text begins with. -/
theorem maskBearerTokens_blank_cons {c : Char} {text output : List Char} (blank : isWhitespace c = true)
    (scanned : maskBearerTokens (c :: text) = .ok output) :
    ∃ masked, maskBearerTokens text = .ok masked ∧ output = c :: masked := by
  have other : c ≠ 'B' := by
    rintro rfl
    revert blank
    decide
  rw [maskBearerTokens_cons other] at scanned
  obtain ⟨masked, later, same⟩ := map_ok scanned
  exact ⟨masked, later, same.symm⟩

theorem maskBearerTokens_breaks {text output : List Char} (breaks : Breaks isWhitespace text)
    (scanned : maskBearerTokens text = .ok output) : Breaks isWhitespace output := by
  cases text with
  | nil =>
    rw [maskBearerTokens_none rfl] at scanned
    cases scanned
    trivial
  | cons c text =>
    obtain ⟨masked, _, rfl⟩ := maskBearerTokens_blank_cons breaks scanned
    exact breaks

/-! ### The passes for keys between words -/

theorem blank_separator {c : Char} (blank : isWhitespace c = true) : isSeparator c = true := by
  rw [isSeparator, blank, Bool.or_true]

theorem breaks_separator {text : List Char} (breaks : Breaks isWhitespace text) : Breaks isSeparator text := by
  cases text with
  | nil => trivial
  | cons c text => exact blank_separator breaks

theorem maskedKeys_nil : maskedKeys [] = [] :=
  maskedKeys_absent fun key _ inside => (keyMarker key).nonempty (List.infix_nil.mp inside)

theorem maskedKeys_blank_cons {c : Char} (blank : isWhitespace c = true) (text : List Char) :
    maskedKeys (c :: text) = c :: maskedKeys text := by
  have whole := maskedKeys_separator (blank_separator blank) [] text
  rwa [maskedKeys_nil] at whole

theorem maskedKeys_append {rest : List Char} (breaks : Breaks isWhitespace rest) (text : List Char) :
    maskedKeys (text ++ rest) = maskedKeys text ++ maskedKeys rest := by
  cases rest with
  | nil => rw [maskedKeys_nil, List.append_nil, List.append_nil]
  | cons c rest => rw [maskedKeys_separator (blank_separator breaks), maskedKeys_blank_cons breaks]

theorem maskedKeys_blank_append {gap : List Char} (blank : ∀ c ∈ gap, isWhitespace c = true) (text : List Char) :
    maskedKeys (gap ++ text) = gap ++ maskedKeys text := by
  induction gap with
  | nil => rfl
  | cons c gap ih =>
    rw [List.cons_append, maskedKeys_blank_cons (blank c List.mem_cons_self),
      ih fun d member => blank d (List.mem_cons_of_mem _ member)]
    rfl

theorem maskedKeys_stars (n : Nat) (text : List Char) :
    maskedKeys (List.replicate n '*' ++ text) = List.replicate n '*' ++ maskedKeys text := by
  induction n with
  | zero => rfl
  | succ n ih => rw [List.replicate_succ, List.cons_append, maskedKeys_star, ih, List.cons_append]

theorem maskedKeys_behind_marker (before rest : List Char) :
    maskedKeys (before ++ bearerMarker.text ++ rest) = maskedKeys (before ++ bearerWord) ++ ' ' :: maskedKeys rest := by
  rw [bearerMarker_text, ← List.append_assoc, List.append_assoc _ [' '], List.singleton_append,
    maskedKeys_separator (blank_separator space_blank)]

/-! ### Redacted words -/

/-- A word ends behind the text. -/
def Closes (text : List Char) : Prop := ∃ start c, text = start ++ [c] ∧ isWhitespace c = false

theorem closes_append {before word : List Char} (unbroken : Unbroken isWhitespace word) (nonempty : word ≠ []) :
    Closes (before ++ word) := by
  obtain ⟨start, c, rfl⟩ := (List.eq_nil_or_concat word).resolve_left nonempty
  rw [List.concat_eq_append] at unbroken ⊢
  exact ⟨before ++ start, c, by rw [List.append_assoc], unbroken c (List.mem_append_right _ List.mem_cons_self)⟩

theorem Closes.not_blank {before gap : List Char} (closes : Closes (before ++ gap))
    (blank : ∀ c ∈ gap, isWhitespace c = true) : gap = [] := by
  obtain ⟨start, c, split, dark⟩ := closes
  rcases List.eq_nil_or_concat gap with rfl | ⟨first, d, rfl⟩
  · rfl
  · rw [List.concat_eq_append] at split blank
    have lasts := congrArg List.getLast? split
    rw [← List.append_assoc, List.getLast?_append, List.getLast?_append] at lasts
    have same : d = c := by simpa using lasts
    have light := blank d (List.mem_append_right _ List.mem_cons_self)
    rw [same, dark] at light
    cases light

/-- Where the scan stands: at the start, or behind a word. A marker that ends there, hidden from
the scan, needs no mask behind it. -/
structure Settled (before text : List Char) : Prop where
  starts : before = [] ∨ Closes before ∧ Breaks isWhitespace text
  hidden : bearerWord <:+ before → [' '] <+: text → Starred (firstWord text)

/-- A marker's word that ends in a text either is in it or ends before it. -/
theorem nothing_beyond {origin before beyond : List Char} (ends : origin ++ bearerWord = before ++ beyond)
    (starts : before = [] ∨ Breaks isWhitespace beyond) (outside : ¬ bearerWord <:+ beyond) : beyond = [] := by
  cases beyond with
  | nil => rfl
  | cons c beyond =>
    exfalso
    rcases starts with rfl | breaks
    · exact outside ⟨origin, ends⟩
    · rcases List.suffix_or_suffix_of_suffix ⟨origin, ends⟩ (List.suffix_append before (c :: beyond)) with word | word
      · exact outside word
      · have dark := unbroken_bearerWord c (word.subset List.mem_cons_self)
        cases dark.symm.trans breaks

/-- Where white space follows a word, all of the white space before a later word does. -/
theorem nothing_between {start between gap first passed : List Char} {c : Char} (closes : Closes (start ++ between))
    (breaks : Breaks isWhitespace (first ++ [c])) (light : Unbroken isWhitespace (passed ++ [c]))
    (blank : ∀ d ∈ gap, isWhitespace d = true) (split : gap ++ passed = between ++ first) : between = [] := by
  have longer : gap ++ (passed ++ [c]) = between ++ (first ++ [c]) := by
    rw [← List.append_assoc, ← List.append_assoc, split]
  cases tail : first ++ [c] with
  | nil => exact absurd tail (List.append_ne_nil_of_right_ne_nil _ (List.cons_ne_nil c []))
  | cons e later =>
    rw [tail] at longer breaks
    obtain ⟨skipped, rfl⟩ := unbroken_suffix light breaks ⟨gap, longer⟩
    have shorter : gap = between ++ e :: skipped := by
      rw [← List.cons_append, ← List.append_assoc between] at longer
      exact List.append_cancel_right longer
    refine closes.not_blank ?_
    intro d member
    exact blank d (by rw [shorter]; exact List.mem_append_left _ member)

/-- A bearer token that reaches into a text without a marker has its marker's word right before the text. -/
theorem bearer_of_inside {before first text later : List Char} {c : Char}
    (inside : Inside BearerAt (before ++ first) (c :: later))
    (starts : before = [] ∨ Closes before ∧ Breaks isWhitespace (first ++ [c])) (leads : first ++ [c] <+: text)
    (absent : ¬ bearerMarker.text <:+: text) : bearerWord <:+ before ∧ [' '] <+: first := by
  obtain ⟨start, passed, token, split, found, long⟩ := inside
  have light := unbroken_passed found.here found.unbroken long
  obtain ⟨⟨origin, gap, marked, blank⟩, _, _⟩ := found
  have spaces : ∀ d ∈ ' ' :: gap, isWhitespace d = true := List.forall_mem_cons.mpr ⟨space_blank, blank⟩
  have shape : before ++ first = (origin ++ bearerWord) ++ (' ' :: gap ++ passed) := by
    rw [split, marked, bearerMarker_text]
    simp
  rcases List.append_eq_append_iff.mp shape with ⟨beyond, ends, rest⟩ | ⟨between, split, rest⟩
  · have outside : ¬ bearerWord <:+ beyond := by
      rintro ⟨skipped, rfl⟩
      refine absent (.trans ?_ ((List.prefix_append first [c]).isInfix.trans leads.isInfix))
      rw [rest, bearerMarker_text]
      exact ⟨skipped, gap ++ passed, by simp⟩
    have breaks : before = [] ∨ Breaks isWhitespace beyond := by
      refine starts.imp id fun both => ?_
      cases beyond with
      | nil => trivial
      | cons d beyond =>
        rw [rest] at both
        exact both.2
    obtain rfl := nothing_beyond ends breaks outside
    rw [List.append_nil] at ends
    rw [← ends, rest]
    exact ⟨List.suffix_append _ _, gap ++ passed, rfl⟩
  · have nonempty : before ≠ [] := by
      rw [split]
      exact List.append_ne_nil_of_left_ne_nil (List.append_ne_nil_of_right_ne_nil _ (by decide)) _
    obtain ⟨closes, breaks⟩ := starts.resolve_left nonempty
    rw [split] at closes
    obtain rfl := nothing_between closes breaks light spaces rest
    rw [List.append_nil] at split
    rw [split, show first = ' ' :: gap ++ passed from rest.symm]
    exact ⟨List.suffix_append _ _, gap ++ passed, rfl⟩

/-! ### The masks are right -/

theorem starred_split {word : List Char} (starred : Starred word) :
    ∃ stars last, word = List.replicate stars '*' ++ last ∧ last.length ≤ 4 := by
  refine ⟨(word.take (word.length - 4)).length, word.drop (word.length - 4), ?_, by rw [List.length_drop]; omega⟩
  rw [← List.eq_replicate_of_mem starred, List.take_append_drop]

theorem starred_not_bearer {word : List Char} (starred : Starred word) : ¬ bearerWord <:+ word := by
  rintro ⟨start, rfl⟩
  have letter : 'B' ∈ (start ++ bearerWord).take ((start ++ bearerWord).length - 4) := by
    have reach : (start ++ bearerWord).length - 4 = start.length + 2 := by
      rw [List.length_append, show bearerWord.length = 6 from rfl]
      omega
    rw [reach, List.take_length_add_append]
    exact List.mem_append_right _ (by decide)
  have star := starred 'B' letter
  revert star
  decide

theorem blank_of_firstWord {text : List Char} (none_ : firstWord text = []) : ∀ c ∈ text, isWhitespace c = true := by
  have start : trimStart text = [] := by
    by_contra nonempty
    have dark := List.head_dropWhile_not isWhitespace nonempty
    obtain ⟨c, rest, split⟩ := List.exists_cons_of_ne_nil nonempty
    rw [firstWord, split, List.takeWhile_cons_of_pos] at none_
    · cases none_
    · simp only [trimStart] at split
      simp only [split, List.head_cons] at dark
      rw [dark]
      rfl
  exact List.dropWhile_eq_nil_iff.mp start

variable {before text rest output : List Char}

theorem Redacted.unmarked (absent : ¬ bearerMarker.text <:+: text)
    (starts : before = [] ∨ Closes before ∧ Breaks isWhitespace (text ++ rest))
    (apart : ¬ (bearerWord <:+ before ∧ [' '] <+: text)) (breaks : Breaks isWhitespace rest)
    (later : Redacted (before ++ text) rest output) : Redacted before (text ++ rest) (maskedKeys text ++ output) := by
  refine .fields ?_ ?_ (breaks_separator breaks) later
  · rcases starts with rfl | ⟨_, starts⟩
    · exact .inr (.inl rfl)
    · cases text with
      | nil => exact .inl trivial
      | cons c text => exact .inl (blank_separator starts)
  · intro first c tail split inside
    have starts' : before = [] ∨ Closes before ∧ Breaks isWhitespace (first ++ [c]) := by
      refine starts.imp id (And.imp id ?_)
      rw [split]
      cases first <;> exact id
    have leads : first ++ [c] <+: text := ⟨tail, by rw [split, List.append_assoc]; rfl⟩
    obtain ⟨word, space⟩ := bearer_of_inside inside starts' leads absent
    exact apart ⟨word, space.trans ((List.prefix_append first [c]).trans leads)⟩

/-- A word behind a marker that ends the text before it. -/
theorem bearerAt_hidden {before gap word rest : List Char} (marked : bearerWord <:+ before) (spaced : [' '] <+: gap)
    (blank : ∀ c ∈ gap, isWhitespace c = true) (light : Unbroken isWhitespace word) (nonempty : word ≠ [])
    (breaks : Breaks isWhitespace rest) : BearerAt (before ++ gap) (word ++ rest) word := by
  obtain ⟨start, rfl⟩ := marked
  obtain ⟨gap, rfl⟩ := spaced
  refine ⟨⟨start, gap, ?_, fun c member => blank c (List.mem_append_right _ member)⟩,
    (firstWord_append light nonempty breaks).symm, List.prefix_append _ _⟩
  rw [bearerMarker_text]
  simp

/-- Such a word is a mask already, and what follows it has no hidden marker before it. -/
theorem Redacted.hidden_word {before gap word tail rest output : List Char} (marked : bearerWord <:+ before)
    (spaced : [' '] <+: gap) (blank : ∀ c ∈ gap, isWhitespace c = true) (light : Unbroken isWhitespace word)
    (nonempty : word ≠ []) (starred : Starred word) (breaks : Breaks isWhitespace tail) (breaks' : Breaks isWhitespace rest)
    (absent : ¬ bearerMarker.text <:+: tail) (later : Redacted (before ++ gap ++ word ++ tail) rest output) :
    Redacted before (gap ++ (word ++ (tail ++ rest))) (maskedKeys (gap ++ word ++ tail) ++ output) := by
  obtain ⟨stars, last, masked, few⟩ := starred_split starred
  have opens : Ends isWhitespace (before ++ gap) := ends_of_blank blank (fun empty => by
    rw [empty] at spaced
    cases List.prefix_nil.mp spaced)
  have apart : ¬ (bearerWord <:+ before ++ gap ++ word ∧ [' '] <+: tail) :=
    fun hidden => starred_not_bearer starred (opens.suffix unbroken_bearerWord hidden.1)
  have shown : maskedKeys (gap ++ word ++ tail) ++ output =
      gap ++ (List.replicate stars '*' ++ last ++ (maskedKeys tail ++ output)) := by
    rw [maskedKeys_append breaks, maskedKeys_blank_append blank, masked, maskedKeys_mask stars few]
    simp only [List.append_assoc]
  have ends : last <:+ word := ⟨_, masked.symm⟩
  have found := bearerAt_hidden marked spaced blank light nonempty (breaks.append breaks')
  have closes : Closes (before ++ gap ++ word) := closes_append light nonempty
  rw [shown]
  refine .keeps_blank blank (.mask stars (.inl found) ends few ?_)
  exact .unmarked absent (.inr ⟨closes, breaks.append breaks'⟩) apart breaks' later

/-- A text without a marker, whose first word may have a hidden one before it. -/
theorem Redacted.segment (settled : Settled before (text ++ rest)) (absent : ¬ bearerMarker.text <:+: text)
    (breaks : Breaks isWhitespace rest) (later : Redacted (before ++ text) rest output) :
    Redacted before (text ++ rest) (maskedKeys text ++ output) := by
  by_cases hidden : bearerWord <:+ before ∧ [' '] <+: text
  · obtain ⟨marked, space⟩ := hidden
    by_cases none_ : firstWord text = []
    · have blank := blank_of_firstWord none_
      have same := maskedKeys_blank_append blank []
      rw [maskedKeys_nil, List.append_nil] at same
      rw [same]
      exact .keeps_blank blank later
    · obtain ⟨gap, tail, split, blank, breaks'⟩ := firstWord_split text
      have light := unbroken_firstWord text
      have starred := settled.hidden marked (space.trans (List.prefix_append text rest))
      generalize firstWord text = word at none_ split light
      subst split
      rw [List.append_assoc, List.append_assoc, firstWord_blank_append blank,
        firstWord_append light none_ (breaks'.append breaks)] at starred
      have spaced : [' '] <+: gap := by
        cases gap with
        | nil =>
          exfalso
          obtain ⟨d, word, rfl⟩ := List.exists_cons_of_ne_nil none_
          obtain ⟨rfl, _⟩ := List.cons_prefix_cons.mp space
          cases light.head.symm.trans space_blank
        | cons d gap =>
          obtain ⟨rfl, _⟩ := List.cons_prefix_cons.mp space
          exact ⟨gap, rfl⟩
      have absent' : ¬ bearerMarker.text <:+: tail := fun inside => absent (inside.trans (List.suffix_append _ _).isInfix)
      have later' : Redacted (before ++ gap ++ word ++ tail) rest output := by simpa only [List.append_assoc] using later
      rw [List.append_assoc, List.append_assoc]
      exact .hidden_word marked spaced blank light none_ starred breaks' breaks absent' later'
  · exact .unmarked absent settled.starts hidden breaks later

theorem bearerWord_unmarked {before after : List Char} (found : breakAt bearerMarker.text text = some (before, after)) :
    ¬ bearerMarker.text <:+: before ++ bearerWord := by
  have first := breakAt_first bearerMarker.nonempty found
  rwa [bearerMarker_text, ← List.append_assoc, List.dropLast_concat, ← bearerMarker_text] at first

/-- The segment up to a marker that the scan finds, and the space that ends the marker. -/
theorem Redacted.up_to_marker {first after : List Char} (found : breakAt bearerMarker.text text = some (first, after))
    (settled : Settled before text) (later : Redacted (before ++ (first ++ bearerMarker.text)) after output) :
    Redacted before text (maskedKeys (first ++ bearerWord) ++ ' ' :: output) := by
  have unmarked := bearerWord_unmarked found
  obtain rfl := split_of_found found
  refine .segment settled unmarked space_blank (.keep (not_inside_blank space_blank) ?_)
  simpa only [bearerMarker_text, List.append_assoc] using later

theorem ends_marker (before first : List Char) : Ends isWhitespace (before ++ (first ++ bearerMarker.text)) := by
  rw [bearerMarker_text, ← List.append_assoc, ← List.append_assoc]
  exact .inr ⟨_, ' ', rfl, space_blank⟩

theorem bearerAt_marker {before first text token : List Char} (word : token = firstWord text) (here : token <+: text) :
    BearerAt (before ++ (first ++ bearerMarker.text)) text token :=
  ⟨⟨before ++ first, [], by rw [List.append_nil, List.append_assoc], List.forall_mem_nil _⟩, word, here⟩

theorem redacts_of_adjacent {text : List Char} (adjacent : BearersAdjacent text) {before : List Char}
    (settled : Settled before text) :
    ∃ output, maskBearerTokens text = .ok output ∧ Redacted before text (maskedKeys output) := by
  induction adjacent generalizing before with
  | @done text absent =>
    refine ⟨text, maskBearerTokens_none absent, ?_⟩
    have unmarked : ¬ bearerMarker.text <:+: text := by
      rw [← breakAt_isSome, absent]
      exact Bool.false_ne_true
    rw [← List.append_nil text] at settled
    have whole := Redacted.segment settled unmarked trivial .done
    rwa [List.append_nil, List.append_nil] at whole
  | @blank text first after found blank =>
    refine ⟨_, maskBearerTokens_blank found blank, ?_⟩
    have shown : maskedKeys (first ++ bearerMarker.text ++ redacted ++ after) =
        maskedKeys (first ++ bearerWord) ++ ' ' :: (List.replicate 4 '*' ++ [] ++ after) := by
      have copied := maskedKeys_blank_append blank []
      rw [maskedKeys_nil, List.append_nil] at copied
      rw [List.append_assoc _ redacted, maskedKeys_behind_marker, show redacted = List.replicate 4 '*' from rfl,
        maskedKeys_stars, copied, List.append_nil]
    rw [shown]
    refine .up_to_marker found settled ?_
    have here : BearerAt (before ++ (first ++ bearerMarker.text)) ([] ++ after) [] :=
      bearerAt_marker (firstWord_blank blank).symm List.nil_prefix
    refine .mask 4 (.inl here) List.suffix_rfl (Nat.zero_le 4) ?_
    rw [← List.append_nil after]
    exact .keeps_blank blank .done
  | @next text first token rest found word nonempty hidden later ih =>
    have light : Unbroken isWhitespace token := by
      rw [word]
      exact unbroken_firstWord _
    have breaks := breaks_of_firstWord_append word
    have settled' : Settled (before ++ (first ++ bearerMarker.text) ++ token) rest := by
      refine ⟨.inr ⟨closes_append light nonempty, breaks⟩, fun ends space => hidden ?_ space⟩
      exact (ends_marker before first).suffix unbroken_bearerWord ends
    obtain ⟨masked, scanned, redacted_⟩ := ih settled'
    obtain ⟨last, shape, ends, few⟩ := maskValue_shape light
    refine ⟨_, maskBearerTokens_next found (by rw [← word]) scanned, ?_⟩
    rw [← word, shape]
    have shown : maskedKeys (first ++ bearerMarker.text ++ (List.replicate 4 '*' ++ last) ++ masked) =
        maskedKeys (first ++ bearerWord) ++ ' ' :: (List.replicate 4 '*' ++ last ++ maskedKeys masked) := by
      rw [List.append_assoc (first ++ _), maskedKeys_behind_marker,
        maskedKeys_append (maskBearerTokens_breaks breaks scanned), maskedKeys_mask 4 few]
    rw [shown]
    refine .up_to_marker found settled (.mask 4 (.inl (bearerAt_marker word (List.prefix_append _ _))) ends few ?_)
    exact redacted_

/-! ### The condition is needed -/

theorem scanned_found {text first after output : List Char}
    (found : breakAt bearerMarker.text text = some (first, after)) (scanned : maskBearerTokens text = .ok output) :
    ∃ rest masked, sliceFrom after (byteLen (firstWord after)) = .ok rest ∧ maskBearerTokens rest = .ok masked ∧
      output = first ++ bearerMarker.text ++ maskValue (firstWord after) ++ masked := by
  rw [maskBearerTokens, maskAfter_some found] at scanned
  cases cut : sliceFrom after (byteLen (firstWord after)) with
  | error panic =>
    rw [cut] at scanned
    cases scanned
  | ok rest =>
    rw [cut, Except.bind] at scanned
    obtain ⟨masked, later, same⟩ := map_ok scanned
    exact ⟨rest, masked, rfl, later, same.symm⟩

/-- The scan copies the word that a text begins with. -/
theorem maskBearerTokens_word {word rest output : List Char} (light : Unbroken isWhitespace word)
    (breaks : Breaks isWhitespace rest) (scanned : maskBearerTokens (word ++ rest) = .ok output) :
    ∃ later, output = word ++ later ∧ Breaks isWhitespace later := by
  cases found : breakAt bearerMarker.text (word ++ rest) with
  | none =>
    rw [maskBearerTokens_none found] at scanned
    exact ⟨rest, (Except.ok.inj scanned).symm, breaks⟩
  | some parts =>
    obtain ⟨first, after⟩ := parts
    obtain ⟨_, masked, _, _, rfl⟩ := scanned_found found scanned
    obtain ⟨between, ends, rfl⟩ := unbroken_prefix light space_blank (split_of_found found)
    refine ⟨between ++ ' ' :: (maskValue (firstWord after) ++ masked), ?_, ?_⟩
    · rw [← List.append_assoc, ← ends, bearerMarker_text]
      simp
    · cases between with
      | nil => exact space_blank
      | cons c between => exact breaks

theorem starred_stars {stars : Nat} {last : List Char} (few : last.length ≤ 4) :
    Starred (List.replicate stars '*' ++ last) := by
  intro c member
  have within : stars + last.length - 4 ≤ (List.replicate stars '*').length := by
    rw [List.length_replicate]
    omega
  rw [List.length_append, List.length_replicate, List.take_append_of_le_length within] at member
  exact List.eq_of_mem_replicate (List.mem_of_mem_take member)

theorem unbroken_maskedKeys_word {word : List Char} (light : Unbroken isWhitespace word) :
    Unbroken isWhitespace (maskedKeys word) := by
  have none_ := countP_maskedKeys word
  rw [countP_unbroken light] at none_
  intro c member
  exact Bool.eq_false_iff.mpr (List.countP_eq_zero.mp none_ c member)

/-- A word behind a marker that is left as it is was redacted only if it needs no masking. -/
theorem starred_word {before word rest output : List Char} (light : Unbroken isWhitespace word)
    (breaks : Breaks isWhitespace rest) (found : BearerAt before (word ++ rest) word)
    (scanned : maskBearerTokens (word ++ rest) = .ok output)
    (redacted : Redacted before (word ++ rest) (maskedKeys output)) :
    Starred word := by
  by_cases long : 4 < word.length
  · obtain ⟨stars, last, shown, masked, ends, few, behind⟩ := redacted.masks_word found long
    obtain ⟨later, rfl, breaks'⟩ := maskBearerTokens_word light breaks scanned
    have mask : Unbroken isWhitespace (List.replicate stars '*' ++ last) :=
      unbroken_append.mpr ⟨unbroken_stars stars, light.part ends.isInfix⟩
    have keyed' : Breaks isWhitespace (maskedKeys later) := by
      cases later with
      | nil => rw [maskedKeys_nil]; trivial
      | cons c later => rw [maskedKeys_blank_cons breaks']; exact breaks'
    rw [maskedKeys_append breaks'] at masked
    by_cases keyed : ∃ key ∈ tokenKeys, (keyMarker key).text <:+: word
    · exfalso
      obtain ⟨key, listed, inside⟩ := keyed
      have many := countP_maskedKeys_marker listed inside
      -- Before the white space, the output has stars and the last characters of the word.
      have start : maskedKeys word = List.replicate stars '*' ++ last ++ field isWhitespace shown := by
        obtain ⟨rest', split, breaks''⟩ := field_append_drop isWhitespace shown
        rw [split, ← List.append_assoc] at masked
        exact (field_unique masked (unbroken_maskedKeys_word light) keyed'
          (unbroken_append.mpr ⟨mask, unbroken_field isWhitespace shown⟩) breaks'').1
      have none_ : (field isWhitespace shown).countP (fun c => c != '*') = 0 :=
        List.countP_eq_zero.mpr fun c member => by rw [behind.stars breaks c member]; decide
      rw [start, List.countP_append, none_] at many
      have short := countP_mask stars last
      omega
    · have same : maskedKeys word = word :=
        maskedKeys_absent fun key listed inside => keyed ⟨key, listed, inside⟩
      have nothing : ¬ TokenAt (before ++ word) rest [] := by
        rintro (bearer | keyValue)
        · rw [bearer.ends.suffix_eq_nil light (List.suffix_append _ _)] at long
          cases long
        · obtain ⟨⟨key, listed, marker⟩, _⟩ := keyValue
          have within := found.ends.suffix (unbroken_blank (keyMarker_chars listed).1) marker
          exact keyed ⟨key, listed, within.isInfix⟩
      rw [same] at masked
      rw [(field_unique masked light keyed' mask (behind.breaks breaks nothing)).1]
      exact starred_stars few
  · intro c member
    rw [show word.length - 4 = 0 by omega] at member
    cases member

/-- A word behind a marker that the scan misses is redacted only if it needs no masking. -/
theorem starred_of_redacted {text before output : List Char}
    (marked : ∃ start gap, before = start ++ bearerMarker.text ++ gap ∧ ∀ c ∈ gap, isWhitespace c = true)
    (scanned : maskBearerTokens text = .ok output) (redacted : Redacted before text (maskedKeys output)) :
    Starred (firstWord text) := by
  induction text generalizing before output with
  | nil => exact nofun
  | cons c text ih =>
    cases dark : isWhitespace c with
    | true =>
      obtain ⟨masked, later, rfl⟩ := maskBearerTokens_blank_cons dark scanned
      rw [maskedKeys_blank_cons dark] at redacted
      rw [firstWord_blank_cons dark]
      refine ih ?_ later (redacted.behind_first dark)
      obtain ⟨start, gap, rfl, blank⟩ := marked
      refine ⟨start, gap ++ [c], by simp, ?_⟩
      intro d member
      rcases List.mem_append.mp member with old | new
      · exact blank d old
      · rwa [List.mem_singleton.mp new]
    | false =>
      obtain ⟨rest, split, breaks⟩ := field_append_drop isWhitespace (c :: text)
      have light := unbroken_field isWhitespace (c :: text)
      have nonempty : field isWhitespace (c :: text) ≠ [] := by
        rw [field, List.takeWhile_cons_of_pos (by rw [dark]; rfl)]
        exact List.cons_ne_nil c _
      generalize field isWhitespace (c :: text) = word at split light nonempty
      rw [split, firstWord_append light nonempty breaks]
      rw [split] at scanned redacted
      exact starred_word light breaks ⟨marked, (firstWord_append light nonempty breaks).symm, List.prefix_append _ _⟩
        scanned redacted

/-- A mask right behind a marker stands for a word right behind it. -/
theorem word_of_mask {before after masked : List Char} (nonempty : firstWord after ≠ []) (ends : Ends isWhitespace before)
    (redacted : Redacted before after (maskedKeys (maskValue (firstWord after) ++ masked))) :
    ∃ rest, after = firstWord after ++ rest ∧ Breaks isWhitespace rest := by
  obtain ⟨gap, rest, split, blank, breaks⟩ := firstWord_split after
  cases gap with
  | nil => exact ⟨rest, split, breaks⟩
  | cons c gap =>
    exfalso
    have starts : Breaks isWhitespace after := by
      rw [split]
      exact blank c List.mem_cons_self
    have nothing : ¬ TokenAt before after [] := by
      rintro (bearer | keyValue)
      · exact nonempty bearer.word.symm
      · exact not_keyValueAt ends keyValue
    rw [maskValue_eq, List.append_assoc, List.replicate_succ, List.cons_append, maskedKeys_star] at redacted
    have star : isWhitespace '*' = true := redacted.breaks starts nothing
    revert star
    decide

/-- Behind a marker that the scan found, what it made of the rest redacts the rest. -/
theorem Redacted.behind_marker {first after masked : List Char}
    (found : breakAt bearerMarker.text text = some (first, after))
    (redacted : Redacted before text (maskedKeys (first ++ bearerMarker.text ++ masked))) :
    Redacted (before ++ (first ++ bearerMarker.text)) after (maskedKeys masked) := by
  rw [maskedKeys_behind_marker] at redacted
  have behind := (redacted.behind_blank (split_of_found found) space_blank rfl space_blank (countP_maskedKeys _)).2
  rwa [List.append_assoc before, List.append_assoc first, ← bearerMarker_text] at behind

theorem adjacent_of_redacted {text before output : List Char} (scanned : maskBearerTokens text = .ok output)
    (redacted : Redacted before text (maskedKeys output)) : BearersAdjacent text := by
  induction text using maskAfter.induct bearerMarker firstWord generalizing before output with
  | case1 text absent => exact .done absent
  | case2 text first after found panic cut =>
    obtain ⟨rest, _, cut', _⟩ := scanned_found found scanned
    cases cut.symm.trans cut'
  | case3 text first after found rest cut ih =>
    obtain ⟨_, masked, cut', later, rfl⟩ := scanned_found found scanned
    obtain rfl := Except.ok.inj (cut.symm.trans cut')
    by_cases none_ : firstWord after = []
    · exact .blank found (blank_of_firstWord none_)
    · rw [List.append_assoc (first ++ _)] at redacted
      have behind := redacted.behind_marker found
      have opens := ends_marker before first
      generalize before ++ (first ++ bearerMarker.text) = passed at behind opens
      obtain ⟨tail, split, breaks⟩ := word_of_mask none_ opens behind
      have light := unbroken_firstWord after
      have word : firstWord after = firstWord (firstWord after ++ tail) := by rw [← split]
      generalize firstWord after = token at cut split light none_ behind word
      subst split
      rw [sliceFrom_append] at cut
      cases cut
      obtain ⟨last, shape, ends, few⟩ := maskValue_shape light
      rw [maskedKeys_append (maskBearerTokens_breaks breaks later), shape, maskedKeys_mask 4 few] at behind
      have mask : Unbroken isWhitespace (List.replicate 4 '*' ++ last) :=
        unbroken_append.mpr ⟨unbroken_stars 4, light.part ends.isInfix⟩
      cases rest with
      | nil =>
        refine .next found word none_ ?_ (.done rfl)
        exact fun _ space => absurd (List.prefix_nil.mp space) (List.cons_ne_nil _ _)
      | cons c tail =>
        obtain ⟨copied, scanned', rfl⟩ := maskBearerTokens_blank_cons breaks later
        rw [maskedKeys_blank_cons breaks] at behind
        have next := (behind.behind_blank rfl breaks rfl breaks (by rw [countP_unbroken mask, countP_unbroken light])).2
        have kept : Redacted (passed ++ token) (c :: tail) (maskedKeys (c :: copied)) := by
          rw [maskedKeys_blank_cons breaks]
          exact .keep (not_inside_blank breaks) next
        refine .next found word none_ ?_ (ih later kept)
        rintro ⟨start, marked⟩ space
        obtain ⟨rfl, _⟩ := List.cons_prefix_cons.mp space
        rw [firstWord_blank_cons space_blank]
        refine starred_of_redacted ⟨passed ++ start, [], ?_, List.forall_mem_nil _⟩ scanned' next
        rw [← marked, bearerMarker_text]
        simp

/-- The output is the text with its tokens masked exactly when the bearer tokens stand right behind
their markers and no marker ends in such a token before another that needs masking. -/
theorem maskTokens_redacts_iff (input : List Char) :
    (∃ output, maskTokens input = .ok output ∧ Redacted [] input output) ↔ BearersAdjacent input := by
  rw [maskTokens_eq]
  constructor
  · rintro ⟨output, masked, redacted⟩
    obtain ⟨scanned, later, rfl⟩ := map_ok masked
    exact adjacent_of_redacted later redacted
  · intro adjacent
    have settled : Settled [] input := ⟨.inl rfl, fun marked => nomatch List.suffix_nil.mp marked⟩
    obtain ⟨output, scanned, redacted⟩ := redacts_of_adjacent adjacent settled
    exact ⟨maskedKeys output, by rw [scanned]; rfl, redacted⟩

theorem spaced_token_remains :
    maskTokens "Bearer       secret".toList = .ok "Bearer ****cretsecret".toList ∧
      ¬ ∃ output, maskTokens "Bearer       secret".toList = .ok output ∧
        Redacted [] "Bearer       secret".toList output := by
  have found : breakAt bearerMarker.text "Bearer       secret".toList = some ([], "      secret".toList) := by decide
  have rest : breakAt bearerMarker.text "secret".toList = none := by decide
  have plain : ∀ key ∈ tokenKeys, ¬ (keyMarker key).text <:+: "Bearer ****cretsecret".toList := by decide
  refine ⟨?_, ?_⟩
  · rw [maskTokens_eq, maskBearerTokens, maskAfter_some found,
      show sliceFrom "      secret".toList (byteLen (firstWord "      secret".toList)) = .ok "secret".toList by decide,
      Except.bind, maskAfter_none rest]
    exact congrArg Except.ok (maskedKeys_absent plain)
  · rw [maskTokens_eq]
    rintro ⟨output, masked, redacted⟩
    obtain ⟨scanned, later, rfl⟩ := map_ok masked
    cases adjacent_of_redacted later redacted with
    | done absent =>
      rw [found] at absent
      cases absent
    | blank found' blank =>
      rw [found] at found'
      cases found'
      exact absurd (blank 's' (by decide)) (by decide)
    | next found' word =>
      rw [found] at found'
      obtain ⟨_, split⟩ := Prod.mk.inj (Option.some.inj found')
      rw [← split, show firstWord "      secret".toList = "secret".toList by decide] at word
      rw [word] at split
      cases split

end Anycode.Metrics
