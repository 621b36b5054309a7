import Anycode.Data.Utf8

/-!
# Header lists

Names in lower case with values of bytes, in the order in which a header map iterates.
-/

namespace Anycode.Data

def asciiLower (text : String) : List Char := text.toList.map Char.toLower

def eqIgnoreAsciiCase (a b : String) : Bool := asciiLower a == asciiLower b

structure HeaderName where
  text : String
  lower : asciiLower text = text.toList
  deriving DecidableEq

/-- No control byte but the tab. -/
structure HeaderValue where
  bytes : List UInt8
  valid : ∀ b ∈ bytes, b = 9 ∨ 32 ≤ b ∧ b ≠ 127
  deriving DecidableEq

abbrev Header := HeaderName × HeaderValue

abbrev HeaderMap := List Header

def isVisibleAscii (b : UInt8) : Bool := decide (32 ≤ b ∧ b < 127) || b == 9

/-- The text of a value that is all visible ASCII. -/
def HeaderValue.toStr (value : HeaderValue) : Option (List Char) :=
  if value.bytes.all isVisibleAscii then some (value.bytes.map fun b => Char.ofNat b.toNat) else none

/-- The first value of a name. -/
def HeaderMap.get (headers : HeaderMap) (name : String) : Option HeaderValue :=
  (headers.find? fun header => header.1.text == name).map fun header => header.2

def isVisibleChar (c : Char) : Bool := (32 ≤ c.toNat && c.toNat < 127) || c.toNat == 9

theorem toNat_ofNat_ascii {n : Nat} (ascii : n < 128) : (Char.ofNat n).toNat = n := by
  have valid : n.isValidChar := .inl (by omega)
  rw [Char.ofNat, dif_pos valid]
  rfl

theorem isVisibleChar_ofNat {b : UInt8} (visible : isVisibleAscii b = true) :
    isVisibleChar (Char.ofNat b.toNat) = true := by
  have range : 32 ≤ b.toNat ∧ b.toNat < 127 ∨ b.toNat = 9 := by
    simpa [isVisibleAscii, UInt8.le_iff_toNat_le, UInt8.lt_iff_toNat_lt, ← UInt8.toNat_inj] using visible
  rw [isVisibleChar, toNat_ofNat_ascii (by omega)]
  simpa using range

theorem visible_of_toStr {value : HeaderValue} {text : List Char} (read : value.toStr = some text) :
    ∀ c ∈ text, isVisibleChar c = true := by
  unfold HeaderValue.toStr at read
  split at read
  · rename_i visible
    cases read
    intro c member
    obtain ⟨b, present, rfl⟩ := List.mem_map.mp member
    exact isVisibleChar_ofNat (List.all_eq_true.mp visible b present)
  · cases read

theorem utf8EncodeChar_visible {c : Char} (visible : isVisibleChar c = true) :
    String.utf8EncodeChar c = [c.toUInt8] ∧ c.toUInt8.toNat = c.toNat ∧ isVisibleAscii c.toUInt8 = true := by
  have range : 32 ≤ c.toNat ∧ c.toNat < 127 ∨ c.toNat = 9 := by simpa [isVisibleChar] using visible
  have byte : c.toUInt8.toNat = c.toNat := by
    rw [Char.toUInt8, UInt32.toNat_toUInt8]
    exact Nat.mod_eq_of_lt (show c.toNat < 256 by omega)
  refine ⟨String.utf8EncodeChar_eq_singleton (Char.utf8Size_eq_one_iff.mpr ?_), byte, ?_⟩
  · rw [UInt32.le_iff_toNat_le]
    change c.toNat ≤ 127
    omega
  · simpa [isVisibleAscii, UInt8.le_iff_toNat_le, UInt8.lt_iff_toNat_lt, ← UInt8.toNat_inj, byte] using range

/-- The bytes of a visible text read back as it. -/
theorem toStr_of_visible {value : HeaderValue} {text : List Char} (visible : ∀ c ∈ text, isVisibleChar c = true)
    (bytes : value.bytes = utf8 text) : value.toStr = some text := by
  have encoded : value.bytes = text.map Char.toUInt8 := by
    rw [bytes, utf8, List.map_eq_flatMap]
    exact List.flatMap_congr fun c member => (utf8EncodeChar_visible (visible c member)).1
  unfold HeaderValue.toStr
  rw [encoded, if_pos, List.map_map]
  · congr 1
    refine (List.map_congr_left fun c member => ?_).trans (List.map_id text)
    rw [Function.comp_apply, (utf8EncodeChar_visible (visible c member)).2.1]
    exact Char.ofNat_toNat c
  · rw [List.all_map]
    exact List.all_eq_true.mpr fun c member => (utf8EncodeChar_visible (visible c member)).2.2

theorem eqIgnoreAsciiCase_text {name : HeaderName} {text : String} (lower : asciiLower text = text.toList) :
    eqIgnoreAsciiCase name.text text = (name.text == text) := by
  rw [eqIgnoreAsciiCase, name.lower, lower, Bool.eq_iff_iff, beq_iff_eq, beq_iff_eq, String.toList_inj]

end Anycode.Data
