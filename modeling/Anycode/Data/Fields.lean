import Anycode.Data.Text

/-!
# Texts in fields

A text falls into fields at its separators. The first field and what comes behind it are unique,
and a pattern without a separator is found inside one field.
-/

namespace Anycode.Data
variable {C : Type} {sep : C → Bool}

/-- The text has no separator. -/
def Unbroken (sep : C → Bool) (text : List C) : Prop := ∀ c ∈ text, sep c = false

/-- The text is empty or begins with a separator. -/
def Breaks (sep : C → Bool) : List C → Prop
  | [] => True
  | c :: _ => sep c = true

/-- A field begins behind the text. -/
def Ends (sep : C → Bool) (text : List C) : Prop := text = [] ∨ ∃ start c, text = start ++ [c] ∧ sep c = true

/-- What stands before the first separator. -/
def field (sep : C → Bool) (text : List C) : List C := text.takeWhile fun c => !sep c

/-! ### The first field -/

theorem unbroken_nil : Unbroken sep [] := nofun

theorem unbroken_append {first second : List C} :
    Unbroken sep (first ++ second) ↔ Unbroken sep first ∧ Unbroken sep second :=
  List.forall_mem_append

theorem Unbroken.part {text part : List C} (unbroken : Unbroken sep text) (inside : part <:+: text) :
    Unbroken sep part :=
  fun c member => unbroken c (inside.subset member)

theorem Unbroken.head {c : C} {text : List C} (unbroken : Unbroken sep (c :: text)) : sep c = false :=
  unbroken c List.mem_cons_self

theorem Breaks.append {first second : List C} (breaks : Breaks sep first) (breaks' : Breaks sep second) :
    Breaks sep (first ++ second) := by
  cases first with
  | nil => exact breaks'
  | cons c first => exact breaks

theorem unbroken_field (sep : C → Bool) (text : List C) : Unbroken sep (field sep text) := by
  intro c member
  have light := List.all_eq_true.mp List.all_takeWhile c member
  rwa [Bool.not_eq_true'] at light

theorem field_append_drop (sep : C → Bool) (text : List C) :
    ∃ rest, text = field sep text ++ rest ∧ Breaks sep rest := by
  refine ⟨text.dropWhile fun c => !sep c, List.takeWhile_append_dropWhile.symm, ?_⟩
  cases dropped : text.dropWhile fun c => !sep c with
  | nil => trivial
  | cons c rest =>
    have nonempty : text.dropWhile (fun c => !sep c) ≠ [] := by
      rw [dropped]
      exact List.cons_ne_nil c rest
    have stopped := List.head_dropWhile_not (fun c => !sep c) nonempty
    simp only [dropped, List.head_cons, Bool.not_eq_false'] at stopped
    exact stopped

theorem field_append {first rest : List C} (unbroken : Unbroken sep first) (breaks : Breaks sep rest) :
    field sep (first ++ rest) = first := by
  have light : ∀ c ∈ first, (!sep c) = true := fun c member => by rw [unbroken c member]; rfl
  rw [field, List.takeWhile_append_of_pos light]
  cases rest with
  | nil => rw [List.takeWhile_nil, List.append_nil]
  | cons c rest =>
    have stops : sep c = true := breaks
    rw [List.takeWhile_cons_of_neg (by rw [stops]; exact Bool.false_ne_true), List.append_nil]

theorem Unbroken.field_eq {text : List C} (unbroken : Unbroken sep text) : field sep text = text := by
  have nothing : Breaks sep [] := trivial
  have whole := field_append unbroken nothing
  rwa [List.append_nil] at whole

theorem field_eq_nil {text : List C} (breaks : Breaks sep text) : field sep text = [] := by
  have none_ : Unbroken sep [] := unbroken_nil
  exact field_append none_ breaks

/-- The first field is unique, and so is what comes behind it. -/
theorem field_unique {first second rest rest' : List C} (same : first ++ rest = second ++ rest')
    (unbroken : Unbroken sep first) (breaks : Breaks sep rest) (unbroken' : Unbroken sep second)
    (breaks' : Breaks sep rest') :
    first = second ∧ rest = rest' := by
  have fields := congrArg (field sep) same
  rw [field_append unbroken breaks, field_append unbroken' breaks'] at fields
  subst fields
  exact ⟨rfl, List.append_cancel_left same⟩

/-- A separator behind an unbroken text is not in it. -/
theorem unbroken_prefix {unbroken rest before after : List C} {c : C} (light : Unbroken sep unbroken)
    (stops : sep c = true)
    (split : unbroken ++ rest = before ++ c :: after) :
    ∃ between, before = unbroken ++ between ∧ rest = between ++ c :: after := by
  rcases List.append_eq_append_iff.mp split with ⟨between, before, rest⟩ | ⟨between, within, later⟩
  · exact ⟨between, before, rest⟩
  · cases between with
    | nil => exact ⟨[], by rw [within, List.append_nil, List.append_nil], later.symm⟩
    | cons d between =>
      cases later
      rw [light c (by rw [within]; exact List.mem_append_right _ List.mem_cons_self)] at stops
      cases stops

theorem unbroken_suffix {unbroken before rest : List C} {c : C} (light : Unbroken sep unbroken) (stops : sep c = true)
    (ends : unbroken <:+ before ++ c :: rest) : unbroken <:+ rest := by
  have outside : c ∉ unbroken := by
    intro member
    rw [light c member] at stops
    cases stops
  rcases List.suffix_or_suffix_of_suffix ends (List.suffix_append before (c :: rest)) with within | within
  · rcases List.suffix_cons_iff.mp within with rfl | behind
    · exact absurd List.mem_cons_self outside
    · exact behind
  · exact absurd (within.subset List.mem_cons_self) outside

/-- An unbroken end of a text reaches no further than into its last field. -/
theorem Ends.suffix {before field unbroken : List C} (ends : Ends sep before) (light : Unbroken sep unbroken)
    (suffix : unbroken <:+ before ++ field) : unbroken <:+ field := by
  rcases ends with rfl | ⟨start, c, rfl, stops⟩
  · exact suffix
  · rw [List.append_assoc] at suffix
    exact unbroken_suffix light stops suffix

theorem Ends.suffix_eq_nil {before unbroken : List C} (ends : Ends sep before) (light : Unbroken sep unbroken)
    (suffix : unbroken <:+ before) : unbroken = [] := by
  rw [← List.append_nil before] at suffix
  exact List.suffix_nil.mp (ends.suffix light suffix)

/-- Texts are built of fields. -/
theorem fields_induction (sep : C → Bool) {motive : List C → Prop} (last : ∀ text, Unbroken sep text → motive text)
    (more : ∀ first c rest, Unbroken sep first → sep c = true → motive rest → motive (first ++ c :: rest))
    (text : List C) : motive text := by
  obtain ⟨rest, split, breaks⟩ := field_append_drop sep text
  cases rest with
  | nil =>
    rw [List.append_nil] at split
    rw [split]
    exact last _ (unbroken_field sep text)
  | cons c rest =>
    have shorter : rest.length < text.length := by
      have lengths := congrArg List.length split
      simp only [List.length_append, List.length_cons] at lengths
      omega
    rw [split]
    exact more _ c rest (unbroken_field sep text) breaks (fields_induction sep last more rest)
  termination_by text.length

/-! ### Patterns -/

variable [DecidableEq C] {pattern : List C}

/-- A character that the pattern does not have cannot stand inside an occurrence of it. -/
theorem breakAt_append_cons {c : C} (absent : c ∉ pattern) (nonempty : pattern ≠ []) (text rest : List C) :
    breakAt pattern (text ++ c :: rest) =
      ((breakAt pattern text).map fun parts => (parts.1, parts.2 ++ c :: rest)).or
        ((breakAt pattern rest).map fun parts => (text ++ c :: parts.1, parts.2)) := by
  induction text with
  | nil =>
    obtain ⟨d, pattern, rfl⟩ := List.exists_cons_of_ne_nil nonempty
    have elsewhere : ¬ (d :: pattern).isPrefixOf (c :: rest) = true := by
      rw [List.isPrefixOf_iff_prefix]
      intro starts
      obtain ⟨rfl, _⟩ := List.cons_prefix_cons.mp starts
      exact absent List.mem_cons_self
    rw [List.nil_append, show breakAt (d :: pattern) [] = none from rfl, breakAt, if_neg elsewhere]
    rfl
  | cons d text ih =>
    have shifted : pattern.isPrefixOf (d :: (text ++ c :: rest)) = pattern.isPrefixOf (d :: text) := by
      rw [Bool.eq_iff_iff, List.isPrefixOf_iff_prefix, List.isPrefixOf_iff_prefix, ← List.cons_append]
      constructor
      · intro starts
        rcases List.prefix_or_prefix_of_prefix starts (List.prefix_append (d :: text) _) with within | ⟨beyond, split⟩
        · exact within
        · rw [← split, List.prefix_append_right_inj] at starts
          cases beyond with
          | nil =>
            rw [← split, List.append_nil]
          | cons e beyond =>
            obtain ⟨rfl, _⟩ := List.cons_prefix_cons.mp starts
            exact absurd (by rw [← split]; exact List.mem_append_right _ List.mem_cons_self) absent
      · exact fun starts => starts.trans (List.prefix_append _ _)
    rw [List.cons_append, breakAt, breakAt, shifted]
    split
    · rename_i starts
      have long := (List.isPrefixOf_iff_prefix.mp starts).length_le
      rw [← List.cons_append, List.drop_append_of_le_length long]
      rfl
    · rw [ih]
      cases breakAt pattern text <;> cases breakAt pattern rest <;> rfl

theorem infix_append_cons {c : C} (absent : c ∉ pattern) (nonempty : pattern ≠ []) {text rest : List C}
    (inside : pattern <:+: text ++ c :: rest) : pattern <:+: text ∨ pattern <:+: rest := by
  rw [← breakAt_isSome, breakAt_append_cons absent nonempty] at inside
  rw [← breakAt_isSome, ← breakAt_isSome]
  cases first : breakAt pattern text with
  | some parts => exact .inl rfl
  | none =>
    rw [first] at inside
    simpa using inside

end Anycode.Data
