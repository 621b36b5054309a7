import Mathlib.Data.List.Basic

/-!
# UTF-8 text as bytes

Encoding a text, and the lossy decoding that puts one replacement character in place of every
maximal malformed prefix. A byte past the end of the input reads as 0.
-/

namespace Anycode.Data

def utf8 (text : List Char) : List UInt8 := text.flatMap String.utf8EncodeChar

def replacementChar : Char := Char.ofNat 0xFFFD

def isTail (b : UInt8) : Bool := decide (0x80 ≤ b ∧ b ≤ 0xBF)

def isSecondOfThree (a b : UInt8) : Bool :=
  isTail b && (a != 0xE0 || decide (0xA0 ≤ b)) && (a != 0xED || decide (b ≤ 0x9F))

def isSecondOfFour (a b : UInt8) : Bool :=
  isTail b && (a != 0xF0 || decide (0x90 ≤ b)) && (a != 0xF4 || decide (b ≤ 0x8F))

def appendBits (bits : Nat) (b : UInt8) : Nat := bits * 64 + b.toNat % 64

/-- The character at the head of the bytes, and how many of them it takes. -/
def nextChar (bytes : List UInt8) : Char × Nat :=
  let a := bytes.getD 0 0
  let b := bytes.getD 1 0
  let c := bytes.getD 2 0
  let d := bytes.getD 3 0
  if a < 0x80 then (Char.ofNat a.toNat, 1)
  else if 0xC2 ≤ a ∧ a ≤ 0xDF then
    if isTail b then (Char.ofNat (appendBits (a.toNat % 32) b), 2) else (replacementChar, 1)
  else if 0xE0 ≤ a ∧ a ≤ 0xEF then
    if !isSecondOfThree a b then (replacementChar, 1)
    else if !isTail c then (replacementChar, 2)
    else (Char.ofNat (appendBits (appendBits (a.toNat % 16) b) c), 3)
  else if 0xF0 ≤ a ∧ a ≤ 0xF4 then
    if !isSecondOfFour a b then (replacementChar, 1)
    else if !isTail c then (replacementChar, 2)
    else if !isTail d then (replacementChar, 3)
    else (Char.ofNat (appendBits (appendBits (appendBits (a.toNat % 8) b) c) d), 4)
  else (replacementChar, 1)

/-- Decoding with the number of bytes that the last character still takes. -/
def decodeLossy : Nat → List UInt8 → List Char
  | _, [] => []
  | 0, byte :: rest => (nextChar (byte :: rest)).1 :: decodeLossy ((nextChar (byte :: rest)).2 - 1) rest
  | pending + 1, _ :: rest => decodeLossy pending rest

/-- `String::from_utf8_lossy`. -/
def fromUtf8Lossy (bytes : List UInt8) : List Char := decodeLossy 0 bytes

/-- `String::from_utf8`: malformed bytes are refused. -/
def fromUtf8 (bytes : List UInt8) : Option (List Char) := bytes.toByteArray.utf8Decode?.map Array.toList

@[simp] theorem fromUtf8_utf8 (text : List Char) : fromUtf8 (utf8 text) = some text := by
  have decoded : (utf8 text).toByteArray.utf8Decode? = some text.toArray := List.utf8Decode?_utf8Encode
  simp only [fromUtf8, decoded, Option.map_some]

theorem utf8_injective {text other : List Char} (same : utf8 text = utf8 other) : text = other := by
  have decoded := congrArg fromUtf8 same
  simpa only [fromUtf8_utf8, Option.some.injEq] using decoded

theorem utf8_of_fromUtf8 {bytes : List UInt8} {text : List Char} (decoded : fromUtf8 bytes = some text) :
    utf8 text = bytes := by
  obtain ⟨chars, read, rfl⟩ := Option.map_eq_some_iff.mp decoded
  have valid : bytes.toByteArray.utf8Decode?.isSome = true := by rw [read]; rfl
  have back := @ByteArray.utf8Encode_get_utf8Decode? bytes.toByteArray valid
  simp only [read, Option.get_some] at back
  have data := congrArg (fun array : ByteArray => array.data.toList) back
  simpa [List.utf8Encode, utf8] using data

/-! ### Reading an encoding back -/

theorem isTail_iff (b : UInt8) : isTail b = true ↔ 128 ≤ b.toNat ∧ b.toNat ≤ 191 := by
  simp [isTail, UInt8.le_iff_toNat_le]

theorem nextChar_one {a : UInt8} (rest : List UInt8) (small : a.toNat < 128) :
    nextChar (a :: rest) = (Char.ofNat a.toNat, 1) := by
  have one : a < 0x80 := UInt8.lt_iff_toNat_lt.mpr small
  simp only [nextChar, List.getD_cons_zero, one, if_true]

theorem lead_ranges (a : UInt8) :
    (a < 0x80 ↔ a.toNat < 128) ∧ (0xC2 ≤ a ∧ a ≤ 0xDF ↔ 194 ≤ a.toNat ∧ a.toNat ≤ 223) ∧
      (0xE0 ≤ a ∧ a ≤ 0xEF ↔ 224 ≤ a.toNat ∧ a.toNat ≤ 239) ∧
        (0xF0 ≤ a ∧ a ≤ 0xF4 ↔ 240 ≤ a.toNat ∧ a.toNat ≤ 244) := by
  simp only [UInt8.lt_iff_toNat_lt, UInt8.le_iff_toNat_le]
  exact ⟨Iff.rfl, Iff.rfl, Iff.rfl, Iff.rfl⟩

theorem nextChar_two {a b : UInt8} (rest : List UInt8) (lead : 194 ≤ a.toNat ∧ a.toNat ≤ 223) (tail : isTail b = true) :
    nextChar (a :: b :: rest) = (Char.ofNat (appendBits (a.toNat % 32) b), 2) := by
  obtain ⟨one, two, _, _⟩ := lead_ranges a
  have wide : ¬ a.toNat < 128 := by omega
  simp only [nextChar, List.getD_cons_zero, List.getD_cons_succ, one, two, wide, lead, tail, if_true, if_false, and_self]

theorem nextChar_three {a b c : UInt8} (rest : List UInt8) (lead : 224 ≤ a.toNat ∧ a.toNat ≤ 239)
    (second : isSecondOfThree a b = true) (tail : isTail c = true) :
    nextChar (a :: b :: c :: rest) = (Char.ofNat (appendBits (appendBits (a.toNat % 16) b) c), 3) := by
  obtain ⟨one, two, three, _⟩ := lead_ranges a
  have wide : ¬ a.toNat < 128 := by omega
  have longer : ¬ (194 ≤ a.toNat ∧ a.toNat ≤ 223) := by omega
  simp only [nextChar, List.getD_cons_zero, List.getD_cons_succ, one, two, three, wide, longer, lead, second, tail,
    if_true, if_false, and_self, Bool.not_true, Bool.false_eq_true]

theorem nextChar_four {a b c d : UInt8} (rest : List UInt8) (lead : 240 ≤ a.toNat ∧ a.toNat ≤ 244)
    (second : isSecondOfFour a b = true) (third : isTail c = true) (tail : isTail d = true) :
    nextChar (a :: b :: c :: d :: rest) =
      (Char.ofNat (appendBits (appendBits (appendBits (a.toNat % 8) b) c) d), 4) := by
  obtain ⟨one, two, three, four⟩ := lead_ranges a
  have wide : ¬ a.toNat < 128 := by omega
  have longer : ¬ (194 ≤ a.toNat ∧ a.toNat ≤ 223) := by omega
  have longest : ¬ (224 ≤ a.toNat ∧ a.toNat ≤ 239) := by omega
  simp only [nextChar, List.getD_cons_zero, List.getD_cons_succ, one, two, three, four, wide, longer, longest, lead,
    second, third, tail, if_true, if_false, and_self, Bool.not_true, Bool.false_eq_true]

theorem toNat_tailByte (n : Nat) : (UInt8.ofNat (n % 64 + 128)).toNat = n % 64 + 128 := by
  rw [UInt8.toNat_ofNat']
  omega

theorem isTail_tailByte (n : Nat) : isTail (UInt8.ofNat (n % 64 + 128)) = true := by
  rw [isTail_iff, toNat_tailByte]
  omega

theorem appendBits_tailByte (bits n : Nat) : appendBits bits (UInt8.ofNat (n % 64 + 128)) = bits * 64 + n % 64 := by
  rw [appendBits, toNat_tailByte]
  omega

theorem toNat_leadByte (n limit lead : Nat) (small : n < limit) (byte : limit + lead ≤ 256) :
    (UInt8.ofNat (n % limit + lead)).toNat = n + lead := by
  rw [UInt8.toNat_ofNat', Nat.mod_eq_of_lt small]
  omega

/-- The encoding of a character reads back as it, whatever follows. -/
theorem nextChar_utf8EncodeChar (c : Char) (rest : List UInt8) :
    nextChar (String.utf8EncodeChar c ++ rest) = (c, c.utf8Size) := by
  have valid : c.val.toNat < 55296 ∨ 57343 < c.val.toNat ∧ c.val.toNat < 1114112 := c.valid
  have back : ∀ n, n = c.val.toNat → Char.ofNat n = c := by
    intro n same
    rw [same]
    exact Char.ofNat_toNat c
  rw [← String.length_utf8EncodeChar]
  unfold String.utf8EncodeChar
  dsimp only
  split
  · have first : (UInt8.ofNat c.val.toNat).toNat = c.val.toNat := by
      rw [UInt8.toNat_ofNat']
      omega
    rw [List.singleton_append, nextChar_one _ (by omega), back _ first]
    rfl
  · split
    · have first := toNat_leadByte (c.val.toNat / 64) 32 192 (by omega) (by decide)
      rw [List.cons_append, List.singleton_append, nextChar_two _ (by omega) (isTail_tailByte _), first,
        appendBits_tailByte, back _ (by omega)]
      rfl
    · split
      · have first := toNat_leadByte (c.val.toNat / 4096) 16 224 (by omega) (by decide)
        have second : isSecondOfThree (UInt8.ofNat (c.val.toNat / 4096 % 16 + 224))
            (UInt8.ofNat (c.val.toNat / 64 % 64 + 128)) = true := by
          simp only [isSecondOfThree, isTail_tailByte, Bool.true_and, Bool.and_eq_true, Bool.or_eq_true, bne_iff_ne,
            ne_eq, decide_eq_true_eq, ← UInt8.toNat_inj, UInt8.le_iff_toNat_le, first, toNat_tailByte, UInt8.reduceToNat]
          omega
        rw [List.cons_append, List.cons_append, List.singleton_append,
          nextChar_three _ (by omega) second (isTail_tailByte _), first, appendBits_tailByte, appendBits_tailByte,
          back _ (by omega)]
        rfl
      · have first := toNat_leadByte (c.val.toNat / 262144) 8 240 (by omega) (by decide)
        have second : isSecondOfFour (UInt8.ofNat (c.val.toNat / 262144 % 8 + 240))
            (UInt8.ofNat (c.val.toNat / 4096 % 64 + 128)) = true := by
          simp only [isSecondOfFour, isTail_tailByte, Bool.true_and, Bool.and_eq_true, Bool.or_eq_true, bne_iff_ne,
            ne_eq, decide_eq_true_eq, ← UInt8.toNat_inj, UInt8.le_iff_toNat_le, first, toNat_tailByte, UInt8.reduceToNat]
          omega
        rw [List.cons_append, List.cons_append, List.cons_append, List.singleton_append,
          nextChar_four _ (by omega) second (isTail_tailByte _) (isTail_tailByte _), first, appendBits_tailByte,
          appendBits_tailByte, appendBits_tailByte, back _ (by omega)]
        rfl

/-- A byte by itself, or a lead byte that tells how many tail bytes follow. -/
theorem utf8EncodeChar_cases (c : Char) :
    (∃ a, String.utf8EncodeChar c = [a] ∧ a.toNat = c.toNat ∧ a.toNat < 128) ∨
      (∃ a b, String.utf8EncodeChar c = [a, b] ∧ 192 ≤ a.toNat ∧ a.toNat ≤ 223 ∧ isTail b = true) ∨
        (∃ a b d, String.utf8EncodeChar c = [a, b, d] ∧ 224 ≤ a.toNat ∧ a.toNat ≤ 239 ∧ isTail b = true ∧
          isTail d = true) ∨
          ∃ a b d e, String.utf8EncodeChar c = [a, b, d, e] ∧ 240 ≤ a.toNat ∧ a.toNat ≤ 247 ∧ isTail b = true ∧
            isTail d = true ∧ isTail e = true := by
  unfold String.utf8EncodeChar
  dsimp only
  split
  · have first : (UInt8.ofNat c.val.toNat).toNat = c.val.toNat := by
      rw [UInt8.toNat_ofNat']
      omega
    exact .inl ⟨_, rfl, first, by omega⟩
  · split
    · have first := toNat_leadByte (c.val.toNat / 64) 32 192 (by omega) (by decide)
      exact .inr (.inl ⟨_, _, rfl, by omega, by omega, isTail_tailByte _⟩)
    · split
      · have first := toNat_leadByte (c.val.toNat / 4096) 16 224 (by omega) (by decide)
        exact .inr (.inr (.inl ⟨_, _, _, rfl, by omega, by omega, isTail_tailByte _, isTail_tailByte _⟩))
      · have valid : c.val.toNat < 55296 ∨ 57343 < c.val.toNat ∧ c.val.toNat < 1114112 := c.valid
        have first := toNat_leadByte (c.val.toNat / 262144) 8 240 (by omega) (by decide)
        exact .inr (.inr (.inr ⟨_, _, _, _, rfl, by omega, by omega, isTail_tailByte _, isTail_tailByte _,
          isTail_tailByte _⟩))

theorem utf8EncodeChar_ascii {byte : UInt8} (small : byte.toNat < 128) :
    String.utf8EncodeChar (Char.ofNat byte.toNat) = [byte] := by
  have all : ∀ n : Fin 128, String.utf8EncodeChar (Char.ofNat n.val) = [UInt8.ofNat n.val] := by decide +kernel
  have one := all ⟨byte.toNat, small⟩
  rwa [UInt8.ofNat_toNat] at one

/-- No encoding begins inside another. -/
theorem utf8EncodeChar_head {c : Char} {lead : UInt8} {rest : List UInt8}
    (encoded : String.utf8EncodeChar c = lead :: rest) : isTail lead = false := by
  rw [Bool.eq_false_iff, ne_eq, isTail_iff]
  rcases utf8EncodeChar_cases c with ⟨a, one, _, _⟩ | ⟨a, b, two, _⟩ | ⟨a, b, d, three, _⟩ | ⟨a, b, d, e, four, _⟩
  · cases one.symm.trans encoded
    omega
  · cases two.symm.trans encoded
    omega
  · cases three.symm.trans encoded
    omega
  · cases four.symm.trans encoded
    omega

/-- Bytes of which all but the first are tail bytes are one character, if they are a text. -/
theorem eq_singleton_of_tails {lead : UInt8} {rest : List UInt8} {text : List Char}
    (encoded : utf8 text = lead :: rest) (tails : ∀ byte ∈ rest, isTail byte = true) : ∃ c, text = [c] := by
  match text with
  | [] => cases encoded
  | [c] => exact ⟨c, rfl⟩
  | c :: d :: text =>
    exfalso
    simp only [utf8, List.flatMap_cons] at encoded
    obtain ⟨first, more, one⟩ := List.exists_cons_of_ne_nil (String.utf8EncodeChar_ne_nil (c := c))
    obtain ⟨second, others, two⟩ := List.exists_cons_of_ne_nil (String.utf8EncodeChar_ne_nil (c := d))
    rw [one, two, List.cons_append, List.cons.injEq] at encoded
    have inside : second ∈ rest := by
      rw [← encoded.2]
      simp
    have head := utf8EncodeChar_head two
    rw [tails second inside] at head
    cases head

theorem decodeLossy_skip (skipped rest : List UInt8) : decodeLossy skipped.length (skipped ++ rest) = decodeLossy 0 rest := by
  induction skipped with
  | nil => rfl
  | cons byte skipped ih => exact ih

@[simp] theorem fromUtf8Lossy_utf8_append (text : List Char) (rest : List UInt8) :
    fromUtf8Lossy (utf8 text ++ rest) = text ++ fromUtf8Lossy rest := by
  induction text with
  | nil => rfl
  | cons c text ih =>
    have decoded := nextChar_utf8EncodeChar c (utf8 text ++ rest)
    have width := String.length_utf8EncodeChar c
    rw [utf8, List.flatMap_cons, List.append_assoc]
    cases encoded : String.utf8EncodeChar c with
    | nil => exact absurd encoded String.utf8EncodeChar_ne_nil
    | cons lead tail =>
      rw [encoded] at decoded width
      rw [List.length_cons] at width
      change decodeLossy 0 (lead :: (tail ++ (utf8 text ++ rest))) = _
      rw [List.cons_append] at decoded
      rw [decodeLossy, decoded, ← width, Nat.add_sub_cancel, decodeLossy_skip]
      exact congrArg (c :: ·) ih

@[simp] theorem fromUtf8Lossy_utf8 (text : List Char) : fromUtf8Lossy (utf8 text) = text := by
  have decoded := fromUtf8Lossy_utf8_append text []
  rwa [List.append_nil, show fromUtf8Lossy [] = [] from rfl, List.append_nil] at decoded

example : fromUtf8Lossy [0x61, 0xE2, 0x9F, 0x62] = ['a', replacementChar, 'b'] := by decide

end Anycode.Data
