import Anycode.Data.Utf8
import Mathlib.Data.List.Infix

/-!
# ASCII in lossily decoded bytes

A decoding makes no ASCII character but from its byte, and every ASCII byte is one, so an ASCII
text occurs in the decoding exactly where its bytes occur.
-/

namespace Anycode.Data

/-- Bytes below 128 as characters. -/
def asciiText (bytes : List UInt8) : List Char := bytes.map fun byte => Char.ofNat byte.toNat

def IsAscii (bytes : List UInt8) : Prop := ∀ byte ∈ bytes, byte.toNat < 128

instance (bytes : List UInt8) : Decidable (IsAscii bytes) :=
  inferInstanceAs (Decidable (∀ byte ∈ bytes, byte.toNat < 128))

theorem toNat_ofNat_of_valid {n : Nat} (valid : n < 55296 ∨ 57343 < n ∧ n < 1114112) : (Char.ofNat n).toNat = n := by
  rw [Char.ofNat, dif_pos valid]
  rfl

theorem ascii_injective {first second : UInt8} (small : first.toNat < 128) (small' : second.toNat < 128)
    (same : Char.ofNat first.toNat = Char.ofNat second.toNat) : first = second := by
  have codes := congrArg Char.toNat same
  rw [toNat_ofNat_of_valid (.inl (by omega)), toNat_ofNat_of_valid (.inl (by omega))] at codes
  exact UInt8.toNat_inj.mp codes

/-- A character that is not ASCII, and the bytes it takes behind its first are not either. -/
def Wide (rest : List UInt8) (next : Char × Nat) : Prop :=
  128 ≤ next.1.toNat ∧ ∀ b ∈ rest.take (next.2 - 1), 128 ≤ b.toNat

theorem wide_of_reads {rest : List UInt8} {next : Char × Nat} (char : 128 ≤ next.1.toNat)
    (bytes : ∀ i < next.2 - 1, 128 ≤ (rest.getD i 0).toNat) : Wide rest next := by
  refine ⟨char, ?_⟩
  intro b member
  obtain ⟨i, small, rfl⟩ := List.mem_iff_getElem.mp member
  rw [List.length_take] at small
  have read := bytes i (by omega)
  rw [List.getD_eq_getElem?_getD, List.getElem?_eq_getElem (by omega), Option.getD_some] at read
  rwa [List.getElem_take]

theorem replacementChar_wide : 128 ≤ replacementChar.toNat := by decide

theorem wide_replacement (rest : List UInt8) : Wide rest (replacementChar, 1) :=
  wide_of_reads replacementChar_wide fun i small => absurd small (Nat.not_lt_zero i)

theorem le_of_isTail {b : UInt8} (tail : isTail b = true) : 128 ≤ b.toNat := (isTail_iff b).mp tail |>.1

theorem tail_of_second {a b : UInt8} (second : isSecondOfThree a b = true ∨ isSecondOfFour a b = true) :
    isTail b = true := by
  rcases second with three | four
  · simp only [isSecondOfThree, Bool.and_eq_true] at three
    exact three.1.1
  · simp only [isSecondOfFour, Bool.and_eq_true] at four
    exact four.1.1

theorem two_bits_wide {a b : UInt8} (lead : 194 ≤ a.toNat ∧ a.toNat ≤ 223) (tail : isTail b = true) :
    128 ≤ (Char.ofNat (appendBits (a.toNat % 32) b)).toNat := by
  have range := (isTail_iff b).mp tail
  rw [toNat_ofNat_of_valid (.inl (by rw [appendBits]; omega)), appendBits]
  omega

theorem three_bits_wide {a b c : UInt8} (lead : 224 ≤ a.toNat ∧ a.toNat ≤ 239) (second : isSecondOfThree a b = true)
    (tail : isTail c = true) : 128 ≤ (Char.ofNat (appendBits (appendBits (a.toNat % 16) b) c)).toNat := by
  have range := (isTail_iff c).mp tail
  simp only [isSecondOfThree, Bool.and_eq_true, Bool.or_eq_true, bne_iff_ne, ne_eq, decide_eq_true_eq,
    ← UInt8.toNat_inj, UInt8.le_iff_toNat_le, isTail_iff, UInt8.reduceToNat] at second
  rw [toNat_ofNat_of_valid (by simp only [appendBits]; omega)]
  simp only [appendBits]
  omega

theorem four_bits_wide {a b c d : UInt8} (lead : 240 ≤ a.toNat ∧ a.toNat ≤ 244) (second : isSecondOfFour a b = true)
    (third : isTail c = true) (tail : isTail d = true) :
    128 ≤ (Char.ofNat (appendBits (appendBits (appendBits (a.toNat % 8) b) c) d)).toNat := by
  have range := (isTail_iff d).mp tail
  have range' := (isTail_iff c).mp third
  simp only [isSecondOfFour, Bool.and_eq_true, Bool.or_eq_true, bne_iff_ne, ne_eq, decide_eq_true_eq,
    ← UInt8.toNat_inj, UInt8.le_iff_toNat_le, isTail_iff, UInt8.reduceToNat] at second
  rw [toNat_ofNat_of_valid (by simp only [appendBits]; omega)]
  simp only [appendBits]
  omega

theorem wide_two {a : UInt8} (rest : List UInt8) (lead : 194 ≤ a.toNat ∧ a.toNat ≤ 223) :
    Wide rest (if isTail (rest.getD 0 0) then (Char.ofNat (appendBits (a.toNat % 32) (rest.getD 0 0)), 2)
      else (replacementChar, 1)) := by
  split
  · rename_i tail
    refine wide_of_reads (two_bits_wide lead tail) ?_
    intro i small
    obtain rfl : i = 0 := by omega
    exact le_of_isTail tail
  · exact wide_replacement rest

theorem wide_three {a : UInt8} (rest : List UInt8) (lead : 224 ≤ a.toNat ∧ a.toNat ≤ 239) :
    Wide rest (if !isSecondOfThree a (rest.getD 0 0) then (replacementChar, 1)
      else if !isTail (rest.getD 1 0) then (replacementChar, 2)
      else (Char.ofNat (appendBits (appendBits (a.toNat % 16) (rest.getD 0 0)) (rest.getD 1 0)), 3)) := by
  cases second : isSecondOfThree a (rest.getD 0 0) with
  | false => exact wide_replacement rest
  | true =>
    have first := le_of_isTail (tail_of_second (.inl second))
    cases tail : isTail (rest.getD 1 0) with
    | false =>
      refine wide_of_reads replacementChar_wide ?_
      intro i small
      obtain rfl : i = 0 := Nat.lt_one_iff.mp small
      exact first
    | true =>
      refine wide_of_reads (three_bits_wide lead second tail) ?_
      intro i small
      obtain rfl | rfl : i = 0 ∨ i = 1 := Nat.le_one_iff_eq_zero_or_eq_one.mp (Nat.le_of_lt_succ small)
      · exact first
      · exact le_of_isTail tail

theorem wide_four {a : UInt8} (rest : List UInt8) (lead : 240 ≤ a.toNat ∧ a.toNat ≤ 244) :
    Wide rest (if !isSecondOfFour a (rest.getD 0 0) then (replacementChar, 1)
      else if !isTail (rest.getD 1 0) then (replacementChar, 2)
      else if !isTail (rest.getD 2 0) then (replacementChar, 3)
      else (Char.ofNat (appendBits (appendBits (appendBits (a.toNat % 8) (rest.getD 0 0)) (rest.getD 1 0))
        (rest.getD 2 0)), 4)) := by
  cases second : isSecondOfFour a (rest.getD 0 0) with
  | false => exact wide_replacement rest
  | true =>
    have first := le_of_isTail (tail_of_second (.inr second))
    cases third : isTail (rest.getD 1 0) with
    | false =>
      refine wide_of_reads replacementChar_wide ?_
      intro i small
      obtain rfl : i = 0 := Nat.lt_one_iff.mp small
      exact first
    | true =>
      have two : ∀ i < 2, 128 ≤ (rest.getD i 0).toNat := by
        intro i small
        obtain rfl | rfl : i = 0 ∨ i = 1 := by omega
        · exact first
        · exact le_of_isTail third
      cases tail : isTail (rest.getD 2 0) with
      | false => exact wide_of_reads replacementChar_wide two
      | true =>
        refine wide_of_reads (four_bits_wide lead second third tail) ?_
        intro i small
        rcases Nat.lt_succ_iff_lt_or_eq.mp small with before | rfl
        · exact two i before
        · exact le_of_isTail tail

/-- What a byte that is not ASCII begins is not ASCII, and takes no ASCII byte along. -/
theorem nextChar_wide {a : UInt8} (rest : List UInt8) (wide : 128 ≤ a.toNat) : Wide rest (nextChar (a :: rest)) := by
  obtain ⟨one, two, three, four⟩ := lead_ranges a
  simp only [nextChar, List.getD_cons_zero, List.getD_cons_succ, one, two, three, four, if_neg (Nat.not_lt.mpr wide)]
  split
  · rename_i lead
    exact wide_two rest lead
  · split
    · rename_i lead
      exact wide_three rest lead
    · split
      · rename_i lead
        exact wide_four rest lead
      · exact wide_replacement rest

/-! ### Occurrences -/

/-- A decoded text begins with an ASCII text exactly where its bytes do. -/
theorem asciiText_prefix_decodeLossy {word : List UInt8} (ascii : IsAscii word) (bytes : List UInt8) :
    asciiText word <+: decodeLossy 0 bytes ↔ word <+: bytes := by
  induction word generalizing bytes with
  | nil => simp [asciiText]
  | cons byte word ih =>
    obtain ⟨small, later⟩ := List.forall_mem_cons.mp ascii
    cases bytes with
    | nil => simp [asciiText, decodeLossy]
    | cons a rest =>
      rw [asciiText, List.map_cons, decodeLossy, List.cons_prefix_cons, List.cons_prefix_cons]
      by_cases narrow : a.toNat < 128
      · rw [nextChar_one rest narrow, Nat.sub_self, ← asciiText, ih later]
        exact and_congr_left fun _ => ⟨ascii_injective small narrow, fun same => by rw [same]⟩
      · have wide := (nextChar_wide rest (Nat.le_of_not_lt narrow)).1
        constructor
        · rintro ⟨same, _⟩
          rw [← same, toNat_ofNat_of_valid (.inl (by omega))] at wide
          omega
        · rintro ⟨rfl, _⟩
          exact absurd small narrow

/-- An ASCII text occurs in a decoding exactly where its bytes occur; `pending` bytes belong to the
character before. -/
theorem asciiText_infix_decodeLossy {word : List UInt8} (ascii : IsAscii word) (nonempty : word ≠ [])
    {pending : Nat} {bytes : List UInt8} (wide : ∀ b ∈ bytes.take pending, 128 ≤ b.toNat) :
    asciiText word <:+: decodeLossy pending bytes ↔ word <:+: bytes := by
  induction bytes generalizing pending with
  | nil =>
    cases word with
    | nil => exact absurd rfl nonempty
    | cons byte word => simp [asciiText, decodeLossy]
  | cons a rest ih =>
    cases pending with
    | zero =>
      have taken : ∀ b ∈ rest.take ((nextChar (a :: rest)).2 - 1), 128 ≤ b.toNat := by
        by_cases narrow : a.toNat < 128
        · rw [nextChar_one rest narrow]
          exact List.forall_mem_nil _
        · exact (nextChar_wide rest (Nat.le_of_not_lt narrow)).2
      have starts := asciiText_prefix_decodeLossy ascii (a :: rest)
      rw [decodeLossy] at starts ⊢
      rw [List.infix_cons_iff, List.infix_cons_iff, starts, ih taken]
    | succ pending =>
      obtain ⟨first, later⟩ := List.forall_mem_cons.mp wide
      have elsewhere : ¬ word <+: a :: rest := by
        intro starts
        cases word with
        | nil => exact nonempty rfl
        | cons byte word =>
          obtain ⟨same, _⟩ := List.cons_prefix_cons.mp starts
          have small := ascii byte List.mem_cons_self
          rw [same] at small
          omega
      rw [decodeLossy, List.infix_cons_iff, ih later, or_iff_right elsewhere]

theorem asciiText_infix_iff {word : List UInt8} (ascii : IsAscii word) (nonempty : word ≠ []) (bytes : List UInt8) :
    asciiText word <:+: fromUtf8Lossy bytes ↔ word <:+: bytes :=
  asciiText_infix_decodeLossy ascii nonempty (List.forall_mem_nil _)

theorem ascii_mem_iff {byte : UInt8} (small : byte.toNat < 128) (bytes : List UInt8) :
    Char.ofNat byte.toNat ∈ fromUtf8Lossy bytes ↔ byte ∈ bytes := by
  have occurs := asciiText_infix_iff (List.forall_mem_singleton.mpr small) (List.cons_ne_nil byte []) bytes
  rwa [asciiText, List.map_singleton, List.singleton_infix_iff, List.singleton_infix_iff] at occurs

end Anycode.Data
