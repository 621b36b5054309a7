import Anycode.Data.Windows
import Mathlib.Algebra.Ring.Nat

/-!
# The fingerprint of a thinking block

`fast_hash` feeds the hasher the first and the last 256 bytes of a block, both cut at character
boundaries, and its length. `siphash` stands for what `DefaultHasher` makes of the bytes written
to it.
-/

namespace Anycode.Thinking
open Data

def safeTruncate (s : List Char) (maxBytes : Nat) : Except Panic (List Char) :=
  if byteLen s ≤ maxBytes then .ok s else sliceTo s (boundaryBefore s maxBytes)

def safeSuffix (s : List Char) (maxBytes : Nat) : Except Panic (List Char) :=
  if byteLen s ≤ maxBytes then .ok s else sliceFrom s (boundaryAfter s (byteLen s - maxBytes))

theorem safeTruncate_spec (s : List Char) (maxBytes : Nat) :
    ∃ kept, safeTruncate s maxBytes = .ok kept ∧ LongestStart maxBytes s kept := by
  rw [safeTruncate]
  split
  · rename_i fits
    exact ⟨s, rfl, longestStart_self fits⟩
  · exact sliceTo_boundaryBefore s maxBytes

theorem safeSuffix_spec (s : List Char) (maxBytes : Nat) :
    ∃ kept, safeSuffix s maxBytes = .ok kept ∧ LongestEnd maxBytes s kept := by
  rw [safeSuffix]
  split
  · rename_i fits
    exact ⟨s, rfl, longestEnd_self fits⟩
  · rename_i longer
    exact sliceFrom_boundaryAfter s maxBytes (by omega)

/-- What `fast_hash` hashes: the prefix, the suffix and the length. -/
@[ext] structure Fingerprint where
  start : List Char
  rest : List Char
  length : Nat

def fingerprint (content : List Char) : Except Panic Fingerprint := do
  let start ← safeTruncate content 256
  let rest ← safeSuffix content 256
  pure ⟨start, rest, byteLen content⟩

theorem fingerprint_spec (content : List Char) :
    ∃ start rest, fingerprint content = .ok ⟨start, rest, byteLen content⟩ ∧ LongestStart 256 content start ∧
      LongestEnd 256 content rest := by
  obtain ⟨start, front, longestStart⟩ := safeTruncate_spec content 256
  obtain ⟨rest, back, longestEnd⟩ := safeSuffix_spec content 256
  refine ⟨start, rest, ?_, longestStart, longestEnd⟩
  rw [fingerprint, front, back]
  rfl

/-- Each window of a text of at most 506 bytes is the text itself or has at least 253 bytes of it. -/
theorem fingerprint_injective {content other : List Char} (short : byteLen content ≤ 506)
    (same : fingerprint content = fingerprint other) : content = other := by
  obtain ⟨start, rest, print, window, back⟩ := fingerprint_spec content
  obtain ⟨otherStart, otherRest, otherPrint, otherWindow, otherBack⟩ := fingerprint_spec other
  rw [print, otherPrint, Except.ok.injEq, Fingerprint.mk.injEq] at same
  obtain ⟨rfl, rfl, same⟩ := same
  refine eq_of_windows window.starts otherWindow.starts back.ends otherBack.ends same ?_
  rcases window.wide with rfl | frontWide
  · omega
  · rcases back.wide with rfl | backWide
    · omega
    · omega

/-! ### The bytes that reach the hasher -/

theorem ff_not_mem_utf8 (text : List Char) : (0xFF : UInt8) ∉ utf8 text := by
  intro inside
  obtain ⟨c, _, encoded⟩ := List.mem_flatMap.mp inside
  have tail : isTail 0xFF = false := by decide
  have big : (0xFF : UInt8).toNat = 255 := rfl
  rcases utf8EncodeChar_cases c with ⟨a, one, _, small⟩ | ⟨a, b, two, _, small, second⟩ |
    ⟨a, b, d, three, _, small, second, third⟩ | ⟨a, b, d, e, four, _, small, second, third, fourth⟩
  · rw [one, List.mem_singleton] at encoded
    subst encoded
    omega
  · rw [two, List.mem_cons, List.mem_singleton] at encoded
    rcases encoded with rfl | rfl
    · omega
    · rw [tail] at second
      cases second
  · rw [three, List.mem_cons, List.mem_cons, List.mem_singleton] at encoded
    rcases encoded with rfl | rfl | rfl
    · omega
    · rw [tail] at second
      cases second
    · rw [tail] at third
      cases third
  · rw [four, List.mem_cons, List.mem_cons, List.mem_cons, List.mem_singleton] at encoded
    rcases encoded with rfl | rfl | rfl | rfl
    · omega
    · rw [tail] at second
      cases second
    · rw [tail] at third
      cases third
    · rw [tail] at fourth
      cases fourth

/-- `str::hash`: the bytes of the text, and one that no text contains. -/
def strBytes (text : List Char) : List UInt8 := utf8 text ++ [0xFF]

theorem strBytes_append_inj {text other : List Char} {rest otherRest : List UInt8}
    (same : strBytes text ++ rest = strBytes other ++ otherRest) : text = other ∧ rest = otherRest := by
  simp only [strBytes, List.append_assoc, List.singleton_append] at same
  rcases List.append_eq_append_iff.mp same with ⟨between, longer, ends⟩ | ⟨between, longer, ends⟩
  · cases between with
    | nil =>
      rw [List.append_nil] at longer
      exact ⟨(utf8_injective longer).symm, (List.cons.inj ends).2⟩
    | cons byte between =>
      obtain ⟨rfl, _⟩ := List.cons.inj ends
      exact absurd (by simp [longer]) (ff_not_mem_utf8 other)
  · cases between with
    | nil =>
      rw [List.append_nil] at longer
      exact ⟨utf8_injective longer, (List.cons.inj ends).2.symm⟩
    | cons byte between =>
      obtain ⟨rfl, _⟩ := List.cons.inj ends
      exact absurd (by simp [longer]) (ff_not_mem_utf8 text)

/-- `usize::hash` on a 64-bit little-endian machine. -/
def usizeBytes (n : Nat) : List UInt8 := (List.range 8).map fun i => UInt8.ofNat (n / 256 ^ i)

theorem mod_eq_of_digits {n m : Nat} (base : Nat) {k : Nat}
    (digits : ∀ i < k, n / base ^ i % base = m / base ^ i % base) : n % base ^ k = m % base ^ k := by
  induction k with
  | zero => rw [pow_zero, Nat.mod_one, Nat.mod_one]
  | succ k ih =>
    have low := ih fun i small => digits i (Nat.lt_succ_of_lt small)
    rw [pow_succ, Nat.mod_mul, Nat.mod_mul, low, digits k (Nat.lt_succ_self k)]

theorem usizeBytes_inj {n m : Nat} (small : n < UInt64.size) (otherSmall : m < UInt64.size)
    (same : usizeBytes n = usizeBytes m) : n = m := by
  have digits : ∀ i < 8, n / 256 ^ i % 256 = m / 256 ^ i % 256 := fun i inside => by
    have digit := congrArg UInt8.toNat (List.map_inj_left.mp same i (List.mem_range.mpr inside))
    rwa [UInt8.toNat_ofNat', UInt8.toNat_ofNat'] at digit
  have size : UInt64.size = 256 ^ 8 := by decide
  rw [size] at small otherSmall
  rw [← Nat.mod_eq_of_lt small, ← Nat.mod_eq_of_lt otherSmall, mod_eq_of_digits 256 digits]

def Fingerprint.bytes (print : Fingerprint) : List UInt8 :=
  strBytes print.start ++ (strBytes print.rest ++ usizeBytes print.length)

theorem Fingerprint.bytes_inj {print other : Fingerprint} (small : print.length < UInt64.size)
    (otherSmall : other.length < UInt64.size) (same : print.bytes = other.bytes) : print = other := by
  obtain ⟨starts, same⟩ := strBytes_append_inj same
  obtain ⟨rests, same⟩ := strBytes_append_inj same
  exact Fingerprint.ext starts rests (usizeBytes_inj small otherSmall same)

section
variable (siphash : List UInt8 → UInt64)

def fastHash (content : List Char) : Except Panic UInt64 :=
  (fingerprint content).map fun print => siphash print.bytes

theorem fastHash_spec (content : List Char) :
    ∃ print, fingerprint content = .ok print ∧ print.length = byteLen content ∧
      fastHash siphash content = .ok (siphash print.bytes) := by
  obtain ⟨start, rest, taken, _, _⟩ := fingerprint_spec content
  refine ⟨_, taken, rfl, ?_⟩
  rw [fastHash, taken]
  rfl

/-- The hasher gives the same value for the different bytes that it is fed for the two blocks. -/
def Collision (content other : List Char) : Prop :=
  ∃ print otherPrint, fingerprint content = .ok print ∧ fingerprint other = .ok otherPrint ∧
    print.bytes ≠ otherPrint.bytes ∧ siphash print.bytes = siphash otherPrint.bytes

theorem fastHash_collision {content other : List Char} (short : byteLen content ≤ 506) (otherShort : byteLen other ≤ 506)
    (different : content ≠ other) (same : fastHash siphash content = fastHash siphash other) :
    Collision siphash content other := by
  have room : (506 : Nat) < UInt64.size := by decide
  obtain ⟨print, taken, length, hash⟩ := fastHash_spec siphash content
  obtain ⟨otherPrint, otherTaken, otherLength, otherHash⟩ := fastHash_spec siphash other
  refine ⟨print, otherPrint, taken, otherTaken, fun bytes => different ?_, ?_⟩
  · have prints := Fingerprint.bytes_inj (by omega) (by omega) bytes
    exact fingerprint_injective short (by rw [taken, otherTaken, prints])
  · rw [hash, otherHash] at same
    exact Except.ok.inj same

theorem shortBlocks_fingerprint :
    (∀ s maxBytes, (∃ kept, safeTruncate s maxBytes = .ok kept ∧ LongestStart maxBytes s kept) ∧
      ∃ kept, safeSuffix s maxBytes = .ok kept ∧ LongestEnd maxBytes s kept) ∧
    (∀ s other, byteLen s ≤ 506 → fingerprint s = fingerprint other → s = other) ∧
    ∀ s other, byteLen s ≤ 506 → byteLen other ≤ 506 → s ≠ other →
      fastHash siphash s = fastHash siphash other → Collision siphash s other :=
  ⟨fun s maxBytes => ⟨safeTruncate_spec s maxBytes, safeSuffix_spec s maxBytes⟩,
    fun _ _ short same => fingerprint_injective short same,
    fun _ _ short otherShort different same => fastHash_collision siphash short otherShort different same⟩

end

theorem shortBlocks_fingerprint_of_length :
    Collision (fun bytes => bytes.length.toUInt64) ['é'] ['è'] :=
  (shortBlocks_fingerprint fun bytes => bytes.length.toUInt64).2.2 ['é'] ['è'] (by decide) (by decide) (by decide) rfl

end Anycode.Thinking
