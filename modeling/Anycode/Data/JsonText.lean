import Mathlib.Data.List.Basic
import Anycode.Data.Json
import Anycode.Data.StrSlice

/-!
# JSON texts

The concrete syntax of JSON, with its white space and the spelling of every string, the text
of a document and the value that a parser with a nesting limit reads from it. Two documents
are twins when they differ only in strings that are values of secret keys.
-/

namespace Anycode.Data

/-! ### Tokens -/

inductive Space where
  | blank
  | tab
  | newline
  | carriageReturn

def Space.char : Space → Char
  | .blank => ' '
  | .tab => '\t'
  | .newline => '\n'
  | .carriageReturn => '\r'

abbrev Spaces := List Space

def Spaces.text (spaces : Spaces) : List Char := spaces.map Space.char

def hexDigit (c : Char) : Option Nat :=
  if '0' ≤ c ∧ c ≤ '9' then some (c.toNat - 48)
  else if 'a' ≤ c ∧ c ≤ 'f' then some (c.toNat - 87)
  else if 'A' ≤ c ∧ c ≤ 'F' then some (c.toNat - 55)
  else none

def hexNumber (digits : List Char) : Option Nat :=
  digits.foldl (fun sum c => sum.bind fun n => (hexDigit c).map fun digit => n * 16 + digit) (some 0)

/-- The character of an escape sequence; a pair of surrogates is one character. -/
def readEscape : List Char → Option Char
  | ['\\', '"'] => some '"'
  | ['\\', '\\'] => some '\\'
  | ['\\', '/'] => some '/'
  | ['\\', 'b'] => some (Char.ofNat 8)
  | ['\\', 'f'] => some (Char.ofNat 12)
  | ['\\', 'n'] => some '\n'
  | ['\\', 'r'] => some '\r'
  | ['\\', 't'] => some '\t'
  | ['\\', 'u', a, b, c, d] =>
    (hexNumber [a, b, c, d]).bind fun n => if n < 0xD800 ∨ 0xDFFF < n then some (Char.ofNat n) else none
  | ['\\', 'u', a, b, c, d, '\\', 'u', e, f, g, h] =>
    (hexNumber [a, b, c, d]).bind fun high => (hexNumber [e, f, g, h]).bind fun low =>
      if (0xD800 ≤ high ∧ high ≤ 0xDBFF) ∧ 0xDC00 ≤ low ∧ low ≤ 0xDFFF then
        some (Char.ofNat (0x10000 + (high - 0xD800) * 1024 + (low - 0xDC00)))
      else none
  | _ => none

def isUnescaped (c : Char) : Bool := decide (32 ≤ c.toNat) && c != '"' && c != '\\'

/-- A character of a string with its spelling. -/
inductive StrChar where
  | plain (c : Char) (unescaped : isUnescaped c = true)
  | escaped (text : List Char) (c : Char) (reads : readEscape text = some c)

namespace StrChar

def text : StrChar → List Char
  | plain c _ => [c]
  | escaped text _ _ => text

def char : StrChar → Char
  | plain c _ => c
  | escaped _ c _ => c

theorem text_ne_nil (c : StrChar) : c.text ≠ [] := by
  cases c with
  | plain c unescaped => exact List.cons_ne_nil _ _
  | escaped text c reads =>
    intro empty
    rw [StrChar.text] at empty
    rw [empty] at reads
    cases reads

end StrChar

abbrev Literal := List StrChar

namespace Literal

def raw (literal : Literal) : List Char := literal.flatMap StrChar.text

def value (literal : Literal) : List Char := literal.map StrChar.char

def key (literal : Literal) : String := String.ofList literal.value

def text (literal : Literal) : List Char := '"' :: (literal.raw ++ ['"'])

theorem length_le_byteLen_raw (literal : Literal) : literal.length ≤ byteLen literal.raw := by
  induction literal with
  | nil => exact Nat.zero_le _
  | cons c rest ih =>
    have spelled : 1 ≤ byteLen c.text := by
      cases spelling : c.text with
      | nil => exact absurd spelling c.text_ne_nil
      | cons first more =>
        have wide := first.utf8Size_pos
        rw [byteLen_cons]
        omega
    rw [raw, List.flatMap_cons, byteLen_append, List.length_cons]
    rw [raw] at ih
    omega

end Literal

def isDigits (text : List Char) : Bool := !text.isEmpty && text.all Char.isDigit

def isExponent : List Char → Bool
  | [] => true
  | c :: rest =>
    (c == 'e' || c == 'E') &&
      match rest with
      | '+' :: digits => isDigits digits
      | '-' :: digits => isDigits digits
      | digits => isDigits digits

def isFraction : List Char → Bool
  | '.' :: rest => isDigits (rest.takeWhile Char.isDigit) && isExponent (rest.dropWhile Char.isDigit)
  | rest => isExponent rest

def isUnsigned (text : List Char) : Bool :=
  let whole := text.takeWhile Char.isDigit
  isDigits whole && (whole.head? != some '0' || whole.length == 1) && isFraction (text.dropWhile Char.isDigit)

def isNumber : List Char → Bool
  | '-' :: rest => isUnsigned rest
  | text => isUnsigned text

/-! ### Documents -/

mutual

/-- A document; `pad` is the white space behind an opening bracket. -/
inductive Doc where
  | null
  | bool (b : Bool)
  | number (lexeme : List Char) (valid : isNumber lexeme = true)
  | string (literal : Literal)
  | array (pad : Spaces) (items : Items)
  | object (pad : Spaces) (members : Members)

inductive Items where
  | nil
  | cons (before : Spaces) (item : Doc) (after : Spaces) (rest : Items)

inductive Members where
  | nil
  | cons (before : Spaces) (key : Literal) (between pad : Spaces) (value : Doc) (after : Spaces) (rest : Members)

end

def comma (isFirst : Bool) : List Char := if isFirst then [] else [',']

mutual

def Doc.text : Doc → List Char
  | .null => "null".toList
  | .bool b => if b then "true".toList else "false".toList
  | .number lexeme _ => lexeme
  | .string literal => literal.text
  | .array pad items => '[' :: (pad.text ++ (items.text true ++ [']']))
  | .object pad members => '\x7b' :: (pad.text ++ (members.text true ++ ['\x7d']))

def Items.text (isFirst : Bool) : Items → List Char
  | .nil => []
  | .cons before item after rest =>
    comma isFirst ++ (before.text ++ (item.text ++ (after.text ++ rest.text false)))

def Members.text (isFirst : Bool) : Members → List Char
  | .nil => []
  | .cons before key between pad value after rest =>
    comma isFirst ++ (before.text ++ (key.text ++ (between.text ++
      (':' :: (pad.text ++ (value.text ++ (after.text ++ rest.text false)))))))

end

/-- Later entries of a key take the place of earlier ones. -/
def collect (fields : List (String × Json)) : List (String × Json) :=
  fields.foldl (fun entries field => Assoc.insert field.1 field.2 entries) []

mutual

/-- The value that is read with so many levels of nesting left. -/
def Doc.value (number : List Char → Option Number) (depth : Nat) : Doc → Option Json
  | .null => some .null
  | .bool b => some (.bool b)
  | .number lexeme _ => (number lexeme).map .number
  | .string literal => some (.string literal.key)
  | .array _ items => if depth = 0 then none else (items.values number (depth - 1)).map .array
  | .object _ members =>
    if depth = 0 then none else (members.fields number (depth - 1)).map fun fields => .object (collect fields)

def Items.values (number : List Char → Option Number) (depth : Nat) : Items → Option (List Json)
  | .nil => some []
  | .cons _ item _ rest =>
    (item.value number depth).bind fun item => (rest.values number depth).map fun rest => item :: rest

def Members.fields (number : List Char → Option Number) (depth : Nat) : Members → Option (List (String × Json))
  | .nil => some []
  | .cons _ key _ _ value _ rest =>
    (value.value number depth).bind fun value => (rest.fields number depth).map fun rest => (key.key, value) :: rest

end

/-- A whole text: a document between white space. -/
structure JsonText where
  before : Spaces
  doc : Doc
  after : Spaces

def JsonText.text (json : JsonText) : List Char := json.before.text ++ (json.doc.text ++ json.after.text)

def JsonText.bytes (json : JsonText) : List UInt8 := utf8 json.text

/-! ### Twins -/

section
variable (secret : String → Bool) (alike : List Char → List Char → Prop)

mutual

/-- Equal but for strings that are values of secret keys, and those are alike. -/
inductive Doc.Twins : Doc → Doc → Prop where
  | null : Doc.Twins .null .null
  | bool (b : Bool) : Doc.Twins (.bool b) (.bool b)
  | number {lexeme : List Char} {valid : isNumber lexeme = true} : Doc.Twins (.number lexeme valid) (.number lexeme valid)
  | string (literal : Literal) : Doc.Twins (.string literal) (.string literal)
  | array {pad : Spaces} {items others : Items} (inside : Items.Twins items others) :
      Doc.Twins (.array pad items) (.array pad others)
  | object {pad : Spaces} {members others : Members} (inside : Members.Twins members others) :
      Doc.Twins (.object pad members) (.object pad others)

inductive Items.Twins : Items → Items → Prop where
  | nil : Items.Twins .nil .nil
  | cons {before after : Spaces} {item other : Doc} {rest others : Items} (first : Doc.Twins item other)
      (later : Items.Twins rest others) : Items.Twins (.cons before item after rest) (.cons before other after others)

inductive Members.Twins : Members → Members → Prop where
  | nil : Members.Twins .nil .nil
  | cons {before between pad after : Spaces} {key : Literal} {value other : Doc} {rest others : Members}
      (first : Doc.Twins value other) (later : Members.Twins rest others) :
      Members.Twins (.cons before key between pad value after rest) (.cons before key between pad other after others)
  | secret {before between pad after : Spaces} {key value other : Literal} {rest others : Members}
      (hidden : secret key.key = true) (first : alike value.value other.value) (later : Members.Twins rest others) :
      Members.Twins (.cons before key between pad (.string value) after rest)
        (.cons before key between pad (.string other) after others)

end

structure JsonText.Twins (json other : JsonText) : Prop where
  before : json.before = other.before
  doc : Doc.Twins secret alike json.doc other.doc
  after : json.after = other.after

end

/-- The same text, or two texts that share a beginning of at least `n` bytes. -/
def Share (n : Nat) (text other : List Char) : Prop :=
  text = other ∨ ∃ common rest tail, text = common ++ rest ∧ other = common ++ tail ∧ n ≤ byteLen common

namespace Share
variable {n m : Nat} {text other : List Char}

theorem refl (n : Nat) (text : List Char) : Share n text text := .inl rfl

theorem append_left (start : List Char) (share : Share n text other) (enough : m ≤ byteLen start + n) :
    Share m (start ++ text) (start ++ other) := by
  rcases share with same | ⟨common, rest, tail, split, splitOther, long⟩
  · exact .inl (by rw [same])
  · refine .inr ⟨start ++ common, rest, tail, by rw [split, List.append_assoc], by rw [splitOther, List.append_assoc], ?_⟩
    rw [byteLen_append]
    omega

theorem extend (start : List Char) (share : Share n text other) : Share n (start ++ text) (start ++ other) :=
  share.append_left start (Nat.le_add_left _ _)

theorem append {after later : List Char} (share : Share n text other) (rest : Share m after later) (fewer : m ≤ n) :
    Share m (text ++ after) (other ++ later) := by
  rcases share with same | ⟨common, tail, otherTail, split, splitOther, long⟩
  · rw [same]
    exact rest.extend other
  · exact .inr ⟨common, tail ++ after, otherTail ++ later, by rw [split, List.append_assoc],
      by rw [splitOther, List.append_assoc], Nat.le_trans fewer long⟩

end Share

section
variable {secret : String → Bool} {alike : List Char → List Char → Prop} {shortest : Nat}

mutual

/-- Before the first difference stand a brace, a secret key in quotes, a colon and a quote. -/
theorem Doc.Twins.share (long : ∀ key : Literal, secret key.key = true → shortest ≤ key.length) {doc other : Doc} :
    Doc.Twins secret alike doc other → Share (shortest + 5) doc.text other.text
  | .null => .refl _ _
  | .bool _ => .refl _ _
  | .number => .refl _ _
  | .string _ => .refl _ _
  | .array inside => by
    have closed := (inside.share long true).append (.refl _ [']']) (Nat.le_refl _)
    exact (closed.extend _).extend ['[']
  | .object inside => by
    have closed := (inside.share long true).append (.refl _ ['\x7d']) (Nat.le_refl _)
    have brace : byteLen ['\x7b'] = 1 := rfl
    exact (closed.extend _).append_left ['\x7b'] (by omega)

theorem Items.Twins.share (long : ∀ key : Literal, secret key.key = true → shortest ≤ key.length) {items others : Items}
    (isFirst : Bool) : Items.Twins secret alike items others → Share (shortest + 5) (items.text isFirst) (others.text isFirst)
  | .nil => .refl _ _
  | .cons first later => by
    refine Share.extend (comma isFirst) (Share.extend _ ?_)
    exact (first.share long).append ((later.share long false).extend _) (Nat.le_refl _)

theorem Members.Twins.share (long : ∀ key : Literal, secret key.key = true → shortest ≤ key.length)
    {members others : Members} (isFirst : Bool) :
    Members.Twins secret alike members others → Share (shortest + 4) (members.text isFirst) (others.text isFirst)
  | .nil => .refl _ _
  | .cons first later => by
    refine Share.extend (comma isFirst) (Share.extend _ (Share.extend _ (Share.extend _ ?_)))
    refine Share.extend [':'] (Share.extend _ ?_)
    exact (first.share long).append ((later.share long false).extend _) (Nat.le_succ _)
  | .secret hidden _ _ => by
    rename_i key value other rest others _ _
    have name : shortest + 2 ≤ byteLen key.text := by
      have spelled := Nat.le_trans (long key hidden) key.length_le_byteLen_raw
      have quote : Char.utf8Size '"' = 1 := rfl
      rw [Literal.text, byteLen_cons, byteLen_append, byteLen_cons, quote]
      omega
    have colon : byteLen [':'] = 1 := rfl
    refine Share.extend (comma isFirst) (Share.extend _ (Share.append_left (n := 2) key.text ?_ (by omega)))
    refine Share.extend _ (Share.append_left (n := 1) [':'] (Share.extend _ ?_) (by omega))
    exact .inr ⟨['"'], _, _, rfl, rfl, Nat.le_refl 1⟩

end

end

end Anycode.Data
