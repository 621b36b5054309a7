import Anycode.Data.Abort
import Anycode.Data.Utf8

/-!
# Slices of a text by byte index

`&s[..n]` and `&s[n..]` cut a text at a byte index, and panic when no character begins there.
-/

namespace Anycode.Data

def byteLen : List Char → Nat
  | [] => 0
  | c :: rest => c.utf8Size + byteLen rest

@[simp] theorem byteLen_nil : byteLen [] = 0 := rfl

@[simp] theorem byteLen_cons (c : Char) (rest : List Char) : byteLen (c :: rest) = c.utf8Size + byteLen rest := rfl

@[simp] theorem byteLen_append (first second : List Char) :
    byteLen (first ++ second) = byteLen first + byteLen second := by
  induction first with
  | nil => simp
  | cons c first ih =>
    rw [List.cons_append, byteLen_cons, byteLen_cons, ih]
    omega

theorem length_utf8 (text : List Char) : (utf8 text).length = byteLen text := by
  induction text with
  | nil => rfl
  | cons c rest ih =>
    rw [byteLen_cons, ← ih, utf8, List.flatMap_cons, List.length_append, String.length_utf8EncodeChar]
    rfl

theorem byteLen_replicate (n : Nat) (c : Char) : byteLen (List.replicate n c) = n * c.utf8Size := by
  induction n with
  | zero => simp
  | succ n ih =>
    rw [List.replicate_succ, byteLen_cons, ih, Nat.succ_mul]
    omega

/-- `split_at`: the text before a byte index, and from it on. -/
def splitAtByte : Nat → List Char → Except Panic (List Char × List Char)
  | 0, text => .ok ([], text)
  | _ + 1, [] => .error .charBoundary
  | n + 1, c :: rest =>
    if c.utf8Size ≤ n + 1 then (splitAtByte (n + 1 - c.utf8Size) rest).map fun parts => (c :: parts.1, parts.2)
    else .error .charBoundary
  termination_by structural _ text => text

def sliceTo (text : List Char) (n : Nat) : Except Panic (List Char) := (splitAtByte n text).map Prod.fst

def sliceFrom (text : List Char) (n : Nat) : Except Panic (List Char) := (splitAtByte n text).map Prod.snd

theorem splitAtByte_append (before after : List Char) :
    splitAtByte (byteLen before) (before ++ after) = .ok (before, after) := by
  induction before with
  | nil => cases after <;> rfl
  | cons c before ih =>
    have wide := c.utf8Size_pos
    obtain ⟨n, size⟩ : ∃ n, byteLen (c :: before) = n + 1 := ⟨c.utf8Size + byteLen before - 1, by simp; omega⟩
    have left : n + 1 - c.utf8Size = byteLen before := by rw [← size, byteLen_cons, Nat.add_sub_cancel_left]
    rw [size, List.cons_append, splitAtByte, if_pos (by rw [← size, byteLen_cons]; exact Nat.le_add_right _ _), left, ih]
    rfl

/-- A cut that succeeds is at the end of some of the text's characters. -/
theorem splitAtByte_eq_ok {n : Nat} {text before after : List Char} (cut : splitAtByte n text = .ok (before, after)) :
    text = before ++ after ∧ byteLen before = n := by
  induction text generalizing n before with
  | nil =>
    cases n with
    | zero =>
      cases cut
      exact ⟨rfl, rfl⟩
    | succ n => cases cut
  | cons c rest ih =>
    cases n with
    | zero =>
      cases cut
      exact ⟨rfl, rfl⟩
    | succ n =>
      rw [splitAtByte] at cut
      split at cut
      · rename_i fits
        obtain ⟨parts, tail, same⟩ := map_ok cut
        cases same
        obtain ⟨split, size⟩ := ih tail
        refine ⟨by rw [split, List.cons_append], ?_⟩
        rw [byteLen_cons, size]
        omega
      · cases cut

/-- Some character of the text begins at byte `n`, or the text ends there. -/
def IsCharBoundary (n : Nat) (text : List Char) : Prop := ∃ before, before <+: text ∧ byteLen before = n

theorem isCharBoundary_iff {n : Nat} {text : List Char} :
    IsCharBoundary n text ↔ (splitAtByte n text).isOk = true := by
  rw [isOk_iff]
  constructor
  · intro boundary
    obtain ⟨before, ⟨after, rfl⟩, rfl⟩ := boundary
    exact ⟨_, splitAtByte_append before after⟩
  · intro cut
    obtain ⟨⟨before, after⟩, cut⟩ := cut
    obtain ⟨rfl, size⟩ := splitAtByte_eq_ok cut
    exact ⟨before, List.prefix_append before after, size⟩

/-- No character begins inside another one. -/
theorem not_isCharBoundary_inside {n : Nat} {before after : List Char} {c : Char} (above : byteLen before < n)
    (below : n < byteLen before + c.utf8Size) : ¬ IsCharBoundary n (before ++ c :: after) := by
  intro boundary
  obtain ⟨start, starts, rfl⟩ := boundary
  rcases List.prefix_or_prefix_of_prefix starts (List.prefix_append before _) with ⟨rest, rfl⟩ | ⟨rest, rfl⟩
  · rw [byteLen_append] at above
    omega
  · rw [List.prefix_append_right_inj] at starts
    cases rest with
    | nil =>
      rw [List.append_nil] at above
      omega
    | cons d rest =>
      obtain ⟨rfl, _⟩ := List.cons_prefix_cons.mp starts
      rw [byteLen_append, byteLen_cons] at below
      omega

theorem sliceTo_isOk {n : Nat} {text : List Char} : (sliceTo text n).isOk = true ↔ IsCharBoundary n text := by
  rw [isCharBoundary_iff, sliceTo, isOk_map]

theorem sliceFrom_eq_ok {n : Nat} {text rest : List Char} (cut : sliceFrom text n = .ok rest) :
    ∃ before, text = before ++ rest ∧ byteLen before = n := by
  obtain ⟨parts, split, rfl⟩ := map_ok cut
  exact ⟨parts.1, splitAtByte_eq_ok split⟩

@[simp] theorem sliceTo_append (before after : List Char) :
    sliceTo (before ++ after) (byteLen before) = .ok before := by
  rw [sliceTo, splitAtByte_append]
  rfl

@[simp] theorem sliceFrom_append (before after : List Char) :
    sliceFrom (before ++ after) (byteLen before) = .ok after := by
  rw [sliceFrom, splitAtByte_append]
  rfl

example : sliceTo ['a', 'é'] 2 = .error .charBoundary := by decide

end Anycode.Data
