import Mathlib.Data.List.Infix

/-!
# First occurrences in a text

What follows the first occurrence of a pattern. A pattern that does not overlap itself is found
behind any text that does not contain it.
-/

namespace Anycode.Data
variable {C : Type} [DecidableEq C]

/-- The text behind the first occurrence of the pattern. -/
def afterFirst (pattern : List C) : List C → Option (List C)
  | [] => if pattern.isEmpty then some [] else none
  | c :: rest =>
    if pattern.isPrefixOf (c :: rest) then some ((c :: rest).drop pattern.length) else afterFirst pattern rest

/-- No proper end of the pattern is also its beginning. -/
def Unbordered (pattern : List C) : Prop :=
  ∀ tail ∈ pattern.tails, tail <+: pattern → tail = [] ∨ tail = pattern

instance (pattern : List C) : Decidable (Unbordered pattern) :=
  inferInstanceAs (Decidable (∀ tail ∈ pattern.tails, tail <+: pattern → tail = [] ∨ tail = pattern))

theorem afterFirst_here (pattern after : List C) : afterFirst pattern (pattern ++ after) = some after := by
  have starts : pattern.isPrefixOf (pattern ++ after) = true :=
    List.isPrefixOf_iff_prefix.mpr (List.prefix_append _ _)
  cases text : pattern ++ after with
  | nil =>
    obtain ⟨rfl, rfl⟩ := List.append_eq_nil_iff.mp text
    rfl
  | cons c rest =>
    rw [text] at starts
    rw [afterFirst, if_pos starts, ← text, List.drop_left]

omit [DecidableEq C] in
/-- An occurrence cannot begin in a text before an unbordered pattern that does not contain it. -/
theorem not_prefix_of_unbordered {pattern before after : List C} (unbordered : Unbordered pattern)
    (absent : ¬ pattern <:+: before) (nonempty : before ≠ []) : ¬ pattern <+: before ++ (pattern ++ after) := by
  intro starts
  rcases List.prefix_or_prefix_of_prefix starts (List.prefix_append before _) with inside | ⟨tail, split⟩
  · exact absent inside.isInfix
  · rw [← split, List.prefix_append_right_inj, split] at starts
    have shorter : tail.length ≤ pattern.length := by rw [← split, List.length_append]; exact Nat.le_add_left _ _
    have border : tail <+: pattern := List.prefix_of_prefix_length_le starts (List.prefix_append _ _) shorter
    rcases unbordered tail ((List.mem_tails _ _).mpr ⟨before, split⟩) border with rfl | rfl
    · rw [List.append_nil] at split
      exact absent (split ▸ List.infix_rfl)
    · exact nonempty (List.append_left_eq_self.mp split)

theorem afterFirst_append {pattern before after : List C} (unbordered : Unbordered pattern)
    (absent : ¬ pattern <:+: before) : afterFirst pattern (before ++ (pattern ++ after)) = some after := by
  induction before with
  | nil => exact afterFirst_here pattern after
  | cons c before ih =>
    have later : ¬ pattern <:+: before := fun found => absent (List.infix_cons found)
    have elsewhere : ¬ pattern <+: c :: before ++ (pattern ++ after) :=
      not_prefix_of_unbordered unbordered absent (List.cons_ne_nil c before)
    rw [List.cons_append] at elsewhere ⊢
    rw [afterFirst, if_neg (fun starts => elsewhere (List.isPrefixOf_iff_prefix.mp starts))]
    exact ih later

/-- The text before the first occurrence of the pattern, and the text behind it. -/
def breakAt (pattern : List C) : List C → Option (List C × List C)
  | [] => if pattern.isEmpty then some ([], []) else none
  | c :: rest =>
    if pattern.isPrefixOf (c :: rest) then some ([], (c :: rest).drop pattern.length)
    else (breakAt pattern rest).map fun parts => (c :: parts.1, parts.2)

theorem breakAt_afterFirst (pattern text : List C) : (breakAt pattern text).map Prod.snd = afterFirst pattern text := by
  induction text with
  | nil => cases pattern <;> rfl
  | cons c rest ih =>
    rw [breakAt, afterFirst]
    split
    · rfl
    · rw [← ih, Option.map_map]
      rfl

theorem breakAt_eq_some {pattern text before after : List C} (found : breakAt pattern text = some (before, after)) :
    text = before ++ (pattern ++ after) := by
  induction text generalizing before with
  | nil =>
    rw [breakAt] at found
    split at found
    · rename_i empty
      cases found
      rw [List.isEmpty_iff.mp empty]
      rfl
    · cases found
  | cons c rest ih =>
    rw [breakAt] at found
    split at found
    · rename_i starts
      cases found
      exact List.prefix_append_drop (List.isPrefixOf_iff_prefix.mp starts)
    · obtain ⟨parts, later, same⟩ := Option.map_eq_some_iff.mp found
      cases same
      rw [ih later, List.cons_append]

/-- The occurrence that is found is the first. -/
theorem breakAt_first {pattern text before after : List C} (nonempty : pattern ≠ [])
    (found : breakAt pattern text = some (before, after)) : ¬ pattern <:+: (before ++ pattern).dropLast := by
  have shorter : pattern.dropLast.length < pattern.length := by
    rw [List.length_dropLast]
    have := List.length_pos_iff.mpr nonempty
    omega
  induction text generalizing before with
  | nil =>
    rw [breakAt, if_neg (by rwa [List.isEmpty_iff])] at found
    cases found
  | cons c rest ih =>
    rw [breakAt] at found
    split at found
    · cases found
      intro inside
      exact absurd inside.length_le (by simpa using shorter)
    · rename_i elsewhere
      obtain ⟨parts, later, same⟩ := Option.map_eq_some_iff.mp found
      cases same
      rw [List.cons_append, List.dropLast_cons_of_ne_nil (List.append_ne_nil_of_right_ne_nil _ nonempty), List.infix_cons_iff]
      rintro (starts | inside)
      · have text := breakAt_eq_some later
        refine elsewhere (List.isPrefixOf_iff_prefix.mpr (starts.trans ?_))
        rw [text, ← List.append_assoc, List.cons_prefix_cons]
        exact ⟨rfl, (List.dropLast_prefix _).trans (List.prefix_append _ _)⟩
      · exact ih later inside

theorem afterFirst_isSome {pattern text : List C} : (afterFirst pattern text).isSome = true ↔ pattern <:+: text := by
  induction text with
  | nil => cases pattern <;> simp [afterFirst]
  | cons c rest ih =>
    rw [afterFirst, List.infix_cons_iff, ← ih, ← List.isPrefixOf_iff_prefix]
    split
    · rename_i starts
      exact iff_of_true rfl (.inl starts)
    · rename_i elsewhere
      rw [or_iff_right elsewhere]

theorem breakAt_isSome {pattern text : List C} : (breakAt pattern text).isSome = true ↔ pattern <:+: text := by
  rw [← afterFirst_isSome, ← breakAt_afterFirst, Option.isSome_map]

theorem breakAt_eq_none {pattern text : List C} (absent : ¬ pattern <:+: text) : breakAt pattern text = none := by
  rwa [← breakAt_isSome, Option.not_isSome_iff_eq_none] at absent

/-- The parts of a split hold no separator. -/
theorem not_mem_of_mem_splitOn {text part : List C} {sep : C} (member : part ∈ text.splitOn sep) :
    sep ∉ part := by
  induction text generalizing part with
  | nil =>
    rw [List.splitOn_nil, List.mem_singleton] at member
    rw [member]
    exact List.not_mem_nil
  | cons c text ih =>
    rw [List.splitOn_cons_eq_if_modifyHead] at member
    split at member
    · rcases List.mem_cons.mp member with rfl | later
      · exact List.not_mem_nil
      · exact ih later
    · rename_i different
      obtain ⟨first, rest, pieces⟩ := List.exists_cons_of_ne_nil (List.splitOn_ne_nil sep text)
      rw [pieces, List.modifyHead_cons] at member
      rcases List.mem_cons.mp member with rfl | later
      · have absent : sep ∉ first := ih (by rw [pieces]; exact List.mem_cons_self)
        intro found
        rcases List.mem_cons.mp found with rfl | inner
        · exact different (beq_self_eq_true _)
        · exact absent inner
      · exact ih (by rw [pieces]; exact List.mem_cons_of_mem _ later)

end Anycode.Data
