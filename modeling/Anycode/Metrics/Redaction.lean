import Anycode.Data.HeaderMap
import Anycode.Pipeline.ModelRewrite

/-!
# Redaction of logged headers

`redact_headers` of `metrics/redaction.rs`.
-/

namespace Anycode.Metrics
open Data Pipeline

def redacted : List Char := "****".toList

def maskValue (value : List Char) : List Char :=
  let trimmed := trim value
  if trimmed.isEmpty then redacted else redacted ++ (trimmed.reverse.take 4).reverse

def isSensitiveHeader (name : String) : Bool :=
  ["authorization", "proxy-authorization", "x-api-key", "cookie", "set-cookie"].any
    fun sensitive => asciiLower name == sensitive.toList

def loggedText (value : HeaderValue) : List Char := value.toStr.getD "<non-utf8>".toList

def redactHeader : Header → String × List Char
  | (name, value) =>
    if isSensitiveHeader name.text then (name.text, maskValue (loggedText value)) else (name.text, loggedText value)

def redactHeaders (headers : HeaderMap) : List (String × List Char) := headers.map redactHeader

theorem redactHeader_text (header : Header) :
    (redactHeader header).2 =
      if isSensitiveHeader header.1.text then maskValue (loggedText header.2) else loggedText header.2 := by
  obtain ⟨name, value⟩ := header
  unfold redactHeader
  dsimp only
  split <;> rfl

/-- The text contains more of the token's end than the four characters a mask leaves. -/
def Shows (token text : List Char) : Prop := ∃ tail, tail <:+ token ∧ 4 < tail.length ∧ tail <:+: text

def lastFour (value : List Char) : List Char := ((trim value).reverse.take 4).reverse

theorem maskValue_eq (value : List Char) : maskValue value = List.replicate 4 '*' ++ lastFour value := by
  unfold maskValue lastFour
  cases trim value <;> rfl

theorem lastFour_visible {text : List Char} (visible : ∀ c ∈ text, isWhitespace c = false) :
    lastFour text = text.drop (text.length - 4) := by
  rw [lastFour, trim_visible visible, List.take_reverse, List.reverse_reverse]

/-- The token ends in stars and the first of the value's last four characters, five in all. -/
def EndsInMask (token value : List Char) : Prop :=
  ∃ stars rest, stars ≤ 4 ∧ 4 < stars + rest.length ∧ List.replicate stars '*' ++ rest <:+ token ∧
    rest <+: lastFour value

theorem shows_maskValue_iff {token value : List Char} : Shows token (maskValue value) ↔ EndsInMask token value := by
  have short : (lastFour value).length ≤ 4 := by
    rw [lastFour, List.length_reverse]
    exact List.length_take_le 4 _
  rw [maskValue_eq]
  constructor
  · intro shows
    obtain ⟨tail, suffix, long, before, after, split⟩ := shows
    have lengths := congrArg List.length split
    simp only [List.length_append, List.length_replicate] at lengths
    -- The tail is longer than the last four characters, so it starts among the stars.
    have dropped : tail ++ after = List.replicate (4 - before.length) '*' ++ lastFour value := by
      have cut := congrArg (List.drop before.length) split
      rw [List.append_assoc, List.drop_left, List.drop_append_of_le_length (by rw [List.length_replicate]; omega),
        List.drop_replicate] at cut
      exact cut
    rcases List.append_eq_append_iff.mp dropped with ⟨excess, stars, _⟩ | ⟨rest, rfl, masked⟩
    · have counted := congrArg List.length stars
      rw [List.length_replicate, List.length_append] at counted
      omega
    · rw [List.length_append, List.length_replicate] at long
      exact ⟨4 - before.length, rest, Nat.sub_le _ _, long, suffix, after, masked.symm⟩
  · intro ends
    obtain ⟨stars, rest, few, long, suffix, after, masked⟩ := ends
    refine ⟨List.replicate stars '*' ++ rest, suffix, by simpa using long, List.replicate (4 - stars) '*', after, ?_⟩
    rw [← masked, ← List.append_assoc, ← List.append_assoc, List.replicate_append_replicate, Nat.sub_add_cancel few]

end Anycode.Metrics
