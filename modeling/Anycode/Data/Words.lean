import Anycode.Data.Fields

/-!
# Texts of words

A text that joins words with a separator, and the first occurrence of a pattern in it. The
pattern does not have the separator, so that it stands inside one of the words.
-/

namespace Anycode.Data
variable {C : Type}

/-- Words behind another one. -/
def trail (sep : C) (words : List (List C)) : List C := words.flatMap fun word => sep :: word

/-- Words before another one. -/
def lead (sep : C) (words : List (List C)) : List C := words.flatMap fun word => word ++ [sep]

@[simp] theorem trail_nil (sep : C) : trail sep [] = [] := rfl

@[simp] theorem trail_cons (sep : C) (word : List C) (words : List (List C)) :
    trail sep (word :: words) = sep :: (word ++ trail sep words) := rfl

@[simp] theorem lead_nil (sep : C) : lead sep [] = [] := rfl

@[simp] theorem lead_cons (sep : C) (word : List C) (words : List (List C)) :
    lead sep (word :: words) = word ++ sep :: lead sep words := by
  rw [lead, List.flatMap_cons, List.append_assoc]
  rfl

theorem intercalate_cons (sep : C) (word : List C) (words : List (List C)) :
    [sep].intercalate (word :: words) = word ++ trail sep words := by
  induction words generalizing word with
  | nil => rw [List.intercalate_singleton, trail_nil, List.append_nil]
  | cons next words ih => rw [List.intercalate_cons_cons, ih, List.append_assoc, trail_cons]; rfl

theorem intercalate_append_cons (sep : C) (before : List (List C)) (word : List C) (after : List (List C)) :
    [sep].intercalate (before ++ word :: after) = lead sep before ++ (word ++ trail sep after) := by
  induction before with
  | nil => exact intercalate_cons sep word after
  | cons first before ih =>
    rw [List.cons_append, List.intercalate_cons_of_ne_nil (List.append_ne_nil_of_right_ne_nil _ (List.cons_ne_nil _ _)), ih,
      lead_cons, List.append_assoc, List.append_assoc]
    rfl

/-- The words of the middle part are words of the whole. -/
theorem intercalate_append (sep : C) (before : List (List C)) {middle : List (List C)} (nonempty : middle ≠ [])
    (after : List (List C)) :
    [sep].intercalate (before ++ (middle ++ after)) = lead sep before ++ ([sep].intercalate middle ++ trail sep after) := by
  obtain ⟨word, rest, rfl⟩ := List.exists_cons_of_ne_nil nonempty
  rw [List.cons_append, intercalate_append_cons, intercalate_cons, trail, List.flatMap_append, List.append_assoc]
  rfl

variable [DecidableEq C] {pattern : List C} {sep : C}

theorem breakAt_lead (unspaced : sep ∉ pattern) (nonempty : pattern ≠ []) {before : List (List C)}
    (absent : ∀ word ∈ before, ¬ pattern <:+: word) (text : List C) :
    breakAt pattern (lead sep before ++ text) =
      (breakAt pattern text).map fun parts => (lead sep before ++ parts.1, parts.2) := by
  induction before with
  | nil => simp
  | cons word before ih =>
    obtain ⟨here, later⟩ := List.forall_mem_cons.mp absent
    rw [lead_cons, List.append_assoc, List.cons_append, breakAt_append_cons unspaced nonempty, breakAt_eq_none here,
      Option.map_none, Option.none_or, ih later, Option.map_map]
    congr 1
    funext parts
    simp

theorem breakAt_trail (unspaced : sep ∉ pattern) (nonempty : pattern ≠ []) {word before after : List C}
    (found : breakAt pattern word = some (before, after)) (words : List (List C)) :
    breakAt pattern (word ++ trail sep words) = some (before, after ++ trail sep words) := by
  cases words with
  | nil => rw [trail_nil, List.append_nil, List.append_nil, found]
  | cons next words =>
    rw [trail_cons, breakAt_append_cons unspaced nonempty, found]
    rfl

/-- The first occurrence in the text is that of the first word that has one. -/
theorem breakAt_word (unspaced : sep ∉ pattern) (nonempty : pattern ≠ []) {before : List (List C)}
    (absent : ∀ word ∈ before, ¬ pattern <:+: word) {word start rest : List C}
    (found : breakAt pattern word = some (start, rest)) (after : List (List C)) :
    breakAt pattern ([sep].intercalate (before ++ word :: after)) =
      some (lead sep before ++ start, rest ++ trail sep after) := by
  rw [intercalate_append_cons, breakAt_lead unspaced nonempty absent, breakAt_trail unspaced nonempty found]
  rfl

theorem infix_intercalate (unspaced : sep ∉ pattern) (nonempty : pattern ≠ []) {words : List (List C)}
    (inside : pattern <:+: [sep].intercalate words) : ∃ word ∈ words, pattern <:+: word := by
  induction words with
  | nil => exact absurd (List.infix_nil.mp inside) nonempty
  | cons word words ih =>
    cases words with
    | nil =>
      rw [List.intercalate_singleton] at inside
      exact ⟨word, List.mem_cons_self, inside⟩
    | cons next words =>
      rw [List.intercalate_cons_cons, List.append_assoc] at inside
      rcases infix_append_cons unspaced nonempty inside with here | later
      · exact ⟨word, List.mem_cons_self, here⟩
      · obtain ⟨found, member, has⟩ := ih later
        exact ⟨found, List.mem_cons_of_mem _ member, has⟩

/-- The first occurrence of a pattern and a further item, where the item follows the first occurrence
of the pattern. -/
theorem breakAt_snoc {text before after : List C} {c : C} (found : breakAt pattern text = some (before, c :: after)) :
    breakAt (pattern ++ [c]) text = some (before, after) := by
  induction text generalizing before with
  | nil =>
    rw [breakAt] at found
    split at found <;> cases found
  | cons first rest ih =>
    rw [breakAt] at found ⊢
    by_cases starts : pattern.isPrefixOf (first :: rest) = true
    · rw [if_pos starts] at found
      obtain ⟨tail, whole⟩ := List.isPrefixOf_iff_prefix.mp starts
      rw [← whole, List.drop_left] at found
      cases found
      have split : pattern ++ c :: after = (pattern ++ [c]) ++ after := (List.append_assoc _ [c] _).symm
      have longer : (pattern ++ [c]).isPrefixOf (first :: rest) = true := by
        rw [List.isPrefixOf_iff_prefix, ← whole, split]
        exact List.prefix_append _ _
      rw [if_pos longer, ← whole, split, List.drop_left]
    · rw [if_neg starts] at found
      obtain ⟨⟨skipped, behind⟩, later, same⟩ := Option.map_eq_some_iff.mp found
      cases same
      have elsewhere : ¬ (pattern ++ [c]).isPrefixOf (first :: rest) = true := fun more =>
        starts (List.isPrefixOf_iff_prefix.mpr ((List.prefix_append _ _).trans (List.isPrefixOf_iff_prefix.mp more)))
      rw [if_neg elsewhere, ih later]
      rfl

omit [DecidableEq C] in
theorem not_mem_intercalate {c : C} (other : c ≠ sep) {words : List (List C)} (absent : ∀ word ∈ words, c ∉ word) :
    c ∉ [sep].intercalate words := by
  cases words with
  | nil => exact List.not_mem_nil
  | cons word words =>
    rw [intercalate_cons, List.mem_append, trail, List.mem_flatMap, not_or]
    refine ⟨absent word List.mem_cons_self, ?_⟩
    rintro ⟨next, member, inside⟩
    rcases List.mem_cons.mp inside with same | inside
    · exact other same
    · exact absent next (List.mem_cons_of_mem _ member) inside

end Anycode.Data
