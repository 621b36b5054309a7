import Anycode.Data.StrSlice
import Mathlib.Data.List.Infix

/-!
# Windows on a text

The longest start and the longest end of a text within a number of bytes. A start or an end of
the list of characters is one that lies on character boundaries. Two windows that together are
as long as the text determine it.
-/

namespace Anycode.Data

instance (n : Nat) (text : List Char) : Decidable (IsCharBoundary n text) := decidable_of_iff _ isCharBoundary_iff.symm

theorem isCharBoundary_zero (text : List Char) : IsCharBoundary 0 text := ⟨[], List.nil_prefix, rfl⟩

theorem isCharBoundary_byteLen (text : List Char) : IsCharBoundary (byteLen text) text := ⟨text, List.prefix_rfl, rfl⟩

theorem byteLen_eq_zero {text : List Char} : byteLen text = 0 ↔ text = [] := by
  cases text with
  | nil => simp
  | cons c rest =>
    have wide := c.utf8Size_pos
    simp only [byteLen_cons, reduceCtorEq, iff_false]
    omega

theorem byteLen_le_of_prefix {start text : List Char} (starts : start <+: text) : byteLen start ≤ byteLen text := by
  obtain ⟨rest, rfl⟩ := starts
  rw [byteLen_append]
  omega

theorem byteLen_le_of_suffix {rest text : List Char} (ends : rest <:+ text) : byteLen rest ≤ byteLen text := by
  obtain ⟨start, rfl⟩ := ends
  rw [byteLen_append]
  omega

theorem suffix_of_byteLen_le {first second text : List Char} (firstEnds : first <:+ text) (secondEnds : second <:+ text)
    (shorter : byteLen first ≤ byteLen second) : first <:+ second := by
  rcases List.suffix_or_suffix_of_suffix firstEnds secondEnds with ends | ⟨extra, rfl⟩
  · exact ends
  · rw [byteLen_append] at shorter
    obtain rfl := byteLen_eq_zero.mp (show byteLen extra = 0 by omega)
    exact List.suffix_rfl

theorem suffix_eq_of_byteLen {first second text : List Char} (firstEnds : first <:+ text) (secondEnds : second <:+ text)
    (same : byteLen first = byteLen second) : first = second := by
  obtain ⟨extra, rfl⟩ := suffix_of_byteLen_le firstEnds secondEnds same.le
  rw [byteLen_append] at same
  rw [byteLen_eq_zero.mp (show byteLen extra = 0 by omega), List.nil_append]

structure LongestStart (n : Nat) (text kept : List Char) : Prop where
  starts : kept <+: text
  fits : byteLen kept ≤ n
  longest : ∀ start, start <+: text → byteLen start ≤ n → byteLen start ≤ byteLen kept

structure LongestEnd (n : Nat) (text kept : List Char) : Prop where
  ends : kept <:+ text
  fits : byteLen kept ≤ n
  longest : ∀ rest, rest <:+ text → byteLen rest ≤ n → byteLen rest ≤ byteLen kept

theorem longestStart_self {n : Nat} {text : List Char} (fits : byteLen text ≤ n) : LongestStart n text text :=
  ⟨List.prefix_rfl, fits, fun _ starts _ => byteLen_le_of_prefix starts⟩

theorem longestEnd_self {n : Nat} {text : List Char} (fits : byteLen text ≤ n) : LongestEnd n text text :=
  ⟨List.suffix_rfl, fits, fun _ ends _ => byteLen_le_of_suffix ends⟩

/-- A window falls short by less than one character. -/
theorem LongestStart.wide {n : Nat} {text kept : List Char} (window : LongestStart n text kept) :
    kept = text ∨ n < byteLen kept + 4 := by
  obtain ⟨rest, rfl⟩ := window.starts
  cases rest with
  | nil => exact .inl (List.append_nil kept).symm
  | cons c rest =>
    have small := c.utf8Size_le_four
    have positive := c.utf8Size_pos
    refine .inr (Nat.lt_of_not_le fun fits => ?_)
    have longer := window.longest (kept ++ [c]) ⟨rest, by simp⟩
    rw [byteLen_append, byteLen_cons, byteLen_nil] at longer
    have := longer (by omega)
    omega

theorem LongestEnd.wide {n : Nat} {text kept : List Char} (window : LongestEnd n text kept) :
    kept = text ∨ n < byteLen kept + 4 := by
  obtain ⟨start, rfl⟩ := window.ends
  cases start using List.reverseRecOn with
  | nil => exact .inl rfl
  | append_singleton start c =>
    have small := c.utf8Size_le_four
    have positive := c.utf8Size_pos
    refine .inr (Nat.lt_of_not_le fun fits => ?_)
    have longer := window.longest (c :: kept) ⟨start, by simp⟩
    rw [byteLen_cons] at longer
    have := longer (by omega)
    omega

/-- Two texts of one length that share a start and an end which overlap or meet are the same. -/
theorem eq_of_windows {text other start rest : List Char} (starts : start <+: text) (otherStarts : start <+: other)
    (ends : rest <:+ text) (otherEnds : rest <:+ other) (same : byteLen text = byteLen other)
    (meet : byteLen text ≤ byteLen start + byteLen rest) : text = other := by
  obtain ⟨tail, rfl⟩ := starts
  obtain ⟨otherTail, rfl⟩ := otherStarts
  rw [byteLen_append] at meet same
  rw [byteLen_append] at same
  have tailEnds : tail <:+ rest := suffix_of_byteLen_le (List.suffix_append start tail) ends (by omega)
  have otherTailEnds : otherTail <:+ rest :=
    suffix_of_byteLen_le (List.suffix_append start otherTail) otherEnds (by omega)
  rw [suffix_eq_of_byteLen tailEnds otherTailEnds (by omega)]

/-! ### Cuts at the nearest boundary -/

/-- The nearest boundary at or before a byte index, found by counting down. -/
def boundaryBefore (text : List Char) : Nat → Nat
  | 0 => 0
  | n + 1 => if IsCharBoundary (n + 1) text then n + 1 else boundaryBefore text n

/-- The nearest boundary at or after a byte index, found by counting up. -/
def boundaryAfter (text : List Char) (n : Nat) : Nat :=
  if n < byteLen text ∧ ¬ IsCharBoundary n text then boundaryAfter text (n + 1) else n
  termination_by byteLen text - n

theorem boundaryBefore_spec (text : List Char) (n : Nat) :
    IsCharBoundary (boundaryBefore text n) text ∧ boundaryBefore text n ≤ n ∧
      ∀ m ≤ n, IsCharBoundary m text → m ≤ boundaryBefore text n := by
  induction n with
  | zero => exact ⟨isCharBoundary_zero text, Nat.le_refl 0, fun _ small _ => small⟩
  | succ n ih =>
    rw [boundaryBefore]
    split
    · rename_i boundary
      exact ⟨boundary, Nat.le_refl _, fun _ small _ => small⟩
    · rename_i inside
      obtain ⟨boundary, below, greatest⟩ := ih
      refine ⟨boundary, by omega, fun m small here => greatest m ?_ here⟩
      have : m ≠ n + 1 := fun same => inside (same ▸ here)
      omega

theorem boundaryAfter_spec (text : List Char) (n : Nat) (fits : n ≤ byteLen text) :
    IsCharBoundary (boundaryAfter text n) text ∧ n ≤ boundaryAfter text n ∧
      ∀ m ≥ n, IsCharBoundary m text → boundaryAfter text n ≤ m := by
  induction n using boundaryAfter.induct text with
  | case1 n inside ih =>
    obtain ⟨boundary, above, least⟩ := ih (by omega)
    rw [boundaryAfter, if_pos inside]
    refine ⟨boundary, by omega, fun m large here => least m ?_ here⟩
    have : m ≠ n := fun same => inside.2 (same ▸ here)
    omega
  | case2 n stops =>
    rw [boundaryAfter, if_neg stops]
    refine ⟨?_, Nat.le_refl n, fun _ large _ => large⟩
    by_cases last : n = byteLen text
    · rw [last]
      exact isCharBoundary_byteLen text
    · exact Decidable.not_not.mp fun inside => stops ⟨by omega, inside⟩

theorem sliceTo_boundaryBefore (text : List Char) (n : Nat) :
    ∃ kept, sliceTo text (boundaryBefore text n) = .ok kept ∧ LongestStart n text kept := by
  obtain ⟨⟨kept, ⟨rest, whole⟩, size⟩, below, greatest⟩ := boundaryBefore_spec text n
  refine ⟨kept, ?_, ⟨rest, whole⟩, by omega, fun start starts fits => ?_⟩
  · rw [← size, ← whole, sliceTo_append]
  · rw [size]
    exact greatest _ fits ⟨start, starts, rfl⟩

theorem sliceFrom_boundaryAfter (text : List Char) (n : Nat) (fits : n ≤ byteLen text) :
    ∃ kept, sliceFrom text (boundaryAfter text (byteLen text - n)) = .ok kept ∧ LongestEnd n text kept := by
  obtain ⟨⟨start, ⟨kept, whole⟩, size⟩, above, least⟩ := boundaryAfter_spec text (byteLen text - n) (by omega)
  have sizes := congrArg byteLen whole
  rw [byteLen_append] at sizes
  refine ⟨kept, ?_, ⟨start, whole⟩, by omega, fun rest ends small => ?_⟩
  · rw [← size, ← whole, sliceFrom_append]
  · obtain ⟨front, split⟩ := ends
    have parts := congrArg byteLen split
    rw [byteLen_append] at parts
    have first := least (byteLen front) (by omega) ⟨front, ⟨rest, split⟩, rfl⟩
    omega

end Anycode.Data
