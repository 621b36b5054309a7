import Anycode.Data.JsonText
import Mathlib.Data.List.Induction

/-!
# The escapes of a JSON text

A scan that knows only where strings begin and end and which escapes JSON has. It passes every
JSON text, so a text that it refuses is not JSON.
-/

namespace Anycode.Data

inductive Scan where
  | outside
  | inside
  | escape
  | unicode

def scanChar : Scan → Char → Option Scan
  | .outside, c => some (if c = '"' then .inside else .outside)
  | .inside, c => some (if c = '"' then .outside else if c = '\\' then .escape else .inside)
  | .escape, c =>
    if c = 'u' then some .unicode else if c ∈ ['"', '\\', '/', 'b', 'f', 'n', 'r', 't'] then some .inside else none
  | .unicode, c => if (hexDigit c).isSome then some .inside else none

def scanText (state : Scan) (text : List Char) : Option Scan := text.foldlM scanChar state

theorem scanText_append (state : Scan) (first second : List Char) :
    scanText state (first ++ second) = (scanText state first).bind fun state => scanText state second := List.foldlM_append

theorem scanText_cons (state : Scan) (c : Char) (rest : List Char) :
    scanText state (c :: rest) = (scanChar state c).bind fun state => scanText state rest := List.foldlM_cons

theorem scanText_outside_append {first second : List Char} (whole : scanText .outside first = some .outside) :
    scanText .outside (first ++ second) = scanText .outside second := by
  rw [scanText_append, whole, Option.bind_some]

theorem scanText_outside_cons {c : Char} {rest : List Char} (unquoted : c ≠ '"') :
    scanText .outside (c :: rest) = scanText .outside rest := by
  rw [scanText_cons, scanChar, if_neg unquoted, Option.bind_some]

theorem scanText_unquoted {text : List Char} (unquoted : '"' ∉ text) : scanText .outside text = some .outside := by
  induction text with
  | nil => rfl
  | cons c rest ih =>
    rw [List.mem_cons, not_or] at unquoted
    rw [scanText_outside_cons (fun same => unquoted.1 same.symm), ih unquoted.2]

/-! ### Strings -/

theorem hexNumber_isSome {digits : List Char} {n : Nat} (reads : hexNumber digits = some n) :
    ∀ c ∈ digits, (hexDigit c).isSome = true := by
  induction digits using List.reverseRecOn generalizing n with
  | nil => exact List.forall_mem_nil _
  | append_singleton front last ih =>
    rw [hexNumber, List.foldl_concat, Option.bind_eq_some_iff] at reads
    obtain ⟨sum, reads, ends⟩ := reads
    obtain ⟨digit, value, _⟩ := Option.map_eq_some_iff.mp ends
    intro c member
    rcases List.mem_append.mp member with inFront | atEnd
    · exact ih reads c inFront
    · rw [List.mem_singleton.mp atEnd, value]
      rfl

theorem scanText_hexDigit {c : Char} (hex : (hexDigit c).isSome = true) (rest : List Char) :
    scanText .inside (c :: rest) = scanText .inside rest := by
  have quote : c ≠ '"' := fun same => by
    subst same
    cases hex
  have backslash : c ≠ '\\' := fun same => by
    subst same
    cases hex
  rw [scanText_cons, scanChar, if_neg quote, if_neg backslash, Option.bind_some]

theorem scanText_unicode {a b c d : Char} (hex : ∀ digit ∈ [a, b, c, d], (hexDigit digit).isSome = true)
    (rest : List Char) :
    scanText .inside ('\\' :: 'u' :: a :: b :: c :: d :: rest) = scanText .inside rest := by
  simp only [List.forall_mem_cons] at hex
  obtain ⟨first, second, third, fourth, _⟩ := hex
  have opened : scanText .inside ('\\' :: 'u' :: a :: b :: c :: d :: rest) = scanText .inside (b :: c :: d :: rest) := by
    rw [scanText_cons, show scanChar .inside '\\' = some .escape from rfl, Option.bind_some, scanText_cons,
      show scanChar .escape 'u' = some .unicode from rfl, Option.bind_some, scanText_cons, scanChar, if_pos first,
      Option.bind_some]
  rw [opened, scanText_hexDigit second, scanText_hexDigit third, scanText_hexDigit fourth]

theorem scanText_readEscape {text : List Char} {c : Char} (reads : readEscape text = some c) :
    scanText .inside text = some .inside := by
  unfold readEscape at reads
  split at reads
  case h_9 a b c d =>
    obtain ⟨n, number, _⟩ := Option.bind_eq_some_iff.mp reads
    exact scanText_unicode (hexNumber_isSome number) []
  case h_10 a b c d e f g h =>
    obtain ⟨high, number, reads⟩ := Option.bind_eq_some_iff.mp reads
    obtain ⟨low, second, _⟩ := Option.bind_eq_some_iff.mp reads
    rw [scanText_unicode (hexNumber_isSome number), scanText_unicode (hexNumber_isSome second)]
    rfl
  case h_11 => cases reads
  all_goals rfl

theorem StrChar.scan_text (c : StrChar) : scanText .inside c.text = some .inside := by
  cases c with
  | plain c unescaped =>
    have quote : c ≠ '"' := fun same => by
      subst same
      cases unescaped
    have backslash : c ≠ '\\' := fun same => by
      subst same
      cases unescaped
    rw [StrChar.text, scanText_cons, scanChar, if_neg quote, if_neg backslash]
    rfl
  | escaped text c reads => exact scanText_readEscape reads

theorem Literal.scan_raw (literal : Literal) : scanText .inside literal.raw = some .inside := by
  induction literal with
  | nil => rfl
  | cons c rest ih =>
    rw [Literal.raw] at ih ⊢
    rw [List.flatMap_cons, scanText_append, c.scan_text, Option.bind_some, ih]

theorem Literal.scan_text (literal : Literal) : scanText .outside literal.text = some .outside := by
  rw [Literal.text, scanText_cons, show scanChar .outside '"' = some .inside from rfl, Option.bind_some, scanText_append,
    literal.scan_raw]
  rfl

/-! ### Numbers -/

theorem isDigits_unquoted {text : List Char} (digits : isDigits text = true) : '"' ∉ text := by
  rw [isDigits, Bool.and_eq_true] at digits
  intro quote
  cases List.all_eq_true.mp digits.2 _ quote

theorem isExponent_unquoted {text : List Char} (exponent : isExponent text = true) : '"' ∉ text := by
  cases text with
  | nil => exact List.not_mem_nil
  | cons c rest =>
    unfold isExponent at exponent
    dsimp only at exponent
    rw [Bool.and_eq_true] at exponent
    obtain ⟨letter, digits⟩ := exponent
    have head : '"' ≠ c := fun same => by
      subst same
      cases letter
    have tail : '"' ∉ rest := by
      split at digits
      · exact List.not_mem_cons_of_ne_of_not_mem (by decide) (isDigits_unquoted digits)
      · exact List.not_mem_cons_of_ne_of_not_mem (by decide) (isDigits_unquoted digits)
      · exact isDigits_unquoted digits
    exact List.not_mem_cons_of_ne_of_not_mem head tail

theorem unquoted_of_parts {text : List Char} (digits : isDigits (text.takeWhile Char.isDigit) = true)
    (rest : '"' ∉ text.dropWhile Char.isDigit) : '"' ∉ text := by
  rw [← List.takeWhile_append_dropWhile (p := Char.isDigit) (l := text), List.mem_append, not_or]
  exact ⟨isDigits_unquoted digits, rest⟩

theorem isFraction_unquoted {text : List Char} (fraction : isFraction text = true) : '"' ∉ text := by
  unfold isFraction at fraction
  split at fraction
  · rename_i rest
    rw [Bool.and_eq_true] at fraction
    exact List.not_mem_cons_of_ne_of_not_mem (by decide)
      (unquoted_of_parts fraction.1 (isExponent_unquoted fraction.2))
  · exact isExponent_unquoted fraction

theorem isUnsigned_unquoted {text : List Char} (unsigned : isUnsigned text = true) : '"' ∉ text := by
  simp only [isUnsigned, Bool.and_eq_true] at unsigned
  exact unquoted_of_parts unsigned.1.1 (isFraction_unquoted unsigned.2)

theorem isNumber_unquoted {text : List Char} (number : isNumber text = true) : '"' ∉ text := by
  unfold isNumber at number
  split at number
  · exact List.not_mem_cons_of_ne_of_not_mem (by decide) (isUnsigned_unquoted number)
  · exact isUnsigned_unquoted number

/-! ### Documents -/

theorem Spaces.scan_text (spaces : Spaces) : scanText .outside spaces.text = some .outside := by
  refine scanText_unquoted fun quote => ?_
  obtain ⟨space, _, char⟩ := List.mem_map.mp quote
  cases space <;> cases char

theorem scanText_comma (isFirst : Bool) : scanText .outside (comma isFirst) = some .outside := by
  cases isFirst <;> rfl

mutual

theorem Doc.scan_text : ∀ doc : Doc, scanText .outside doc.text = some .outside
  | .null => rfl
  | .bool b => by cases b <;> rfl
  | .number lexeme valid => scanText_unquoted (isNumber_unquoted valid)
  | .string literal => literal.scan_text
  | .array pad items => by
    rw [Doc.text, scanText_outside_cons (by decide), scanText_outside_append pad.scan_text,
      scanText_outside_append (items.scan_text true)]
    rfl
  | .object pad members => by
    rw [Doc.text, scanText_outside_cons (by decide), scanText_outside_append pad.scan_text,
      scanText_outside_append (members.scan_text true)]
    rfl

theorem Items.scan_text (isFirst : Bool) : ∀ items : Items, scanText .outside (items.text isFirst) = some .outside
  | .nil => rfl
  | .cons before item after rest => by
    rw [Items.text, scanText_outside_append (scanText_comma isFirst), scanText_outside_append before.scan_text,
      scanText_outside_append item.scan_text, scanText_outside_append after.scan_text, rest.scan_text false]

theorem Members.scan_text (isFirst : Bool) : ∀ members : Members, scanText .outside (members.text isFirst) = some .outside
  | .nil => rfl
  | .cons before key between pad value after rest => by
    rw [Members.text, scanText_outside_append (scanText_comma isFirst), scanText_outside_append before.scan_text,
      scanText_outside_append key.scan_text, scanText_outside_append between.scan_text, scanText_outside_cons (by decide),
      scanText_outside_append pad.scan_text, scanText_outside_append value.scan_text,
      scanText_outside_append after.scan_text, rest.scan_text false]

end

theorem JsonText.scan_text (json : JsonText) : scanText .outside json.text = some .outside := by
  rw [JsonText.text, scanText_outside_append json.before.scan_text, scanText_outside_append json.doc.scan_text,
    json.after.scan_text]

example : scanText .outside "\"\\0\"".toList = none := by decide

end Anycode.Data
