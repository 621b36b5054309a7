import Mathlib.Data.List.DropRight
import Anycode.Config.Backend
import Anycode.Data.Json
import Anycode.Data.Utf8

/-!
# Reverse model rewriting

`make_reverse_model_rewriter` puts the client's model name back into the chunks of a response
stream. The closure's one variable, `anthropic_done`, is passed as a state. A text is a list of
characters; log calls are left out.
-/

namespace Anycode.Pipeline
open Data Config

structure ModelMapping where
  backend : String
  original : String
  deriving DecidableEq

/-! ### Text -/

/-- `char::is_whitespace`: the Unicode property `White_Space`. -/
def isWhitespace (c : Char) : Bool :=
  let n := c.toNat
  (9 ≤ n && n ≤ 13) || n == 0x20 || n == 0x85 || n == 0xA0 || n == 0x1680 || (0x2000 ≤ n && n ≤ 0x200A) ||
    n == 0x2028 || n == 0x2029 || n == 0x202F || n == 0x205F || n == 0x3000

def trimStart (text : List Char) : List Char := text.dropWhile isWhitespace

def trim (text : List Char) : List Char := (trimStart text).rdropWhile isWhitespace

theorem trim_visible {text : List Char} (visible : ∀ c ∈ text, isWhitespace c = false) : trim text = text := by
  have start : trimStart text = text := by
    unfold trimStart
    cases text with
    | nil => rfl
    | cons c rest => rw [List.dropWhile_cons_of_neg (by rw [visible c List.mem_cons_self]; exact Bool.false_ne_true)]
  rw [trim, start, List.rdropWhile_eq_self_iff]
  intro nonempty
  rw [visible _ (List.getLast_mem nonempty)]
  exact Bool.false_ne_true

def stripPrefix (pattern text : List Char) : Option (List Char) :=
  if pattern.isPrefixOf text then some (text.drop pattern.length) else none

def containsBytes (haystack needle : List UInt8) : Bool := decide (needle <:+: haystack)

def fromStr (serde : Serde) (text : List Char) : Option Json := serde.fromSlice (utf8 text)

def toStr (serde : Serde) (value : Json) : Option (List Char) := (serde.toVec value).map fromUtf8Lossy

/-! ### One line -/

structure LineRewrite where
  text : List Char
  rewritten : Bool := false
  anthropicDone : Bool := false

def dataPayload (line : List Char) : Option (List Char) :=
  (stripPrefix "data:".toList (trim line)).map trimStart

def isMessageStart (json : Json) : Bool := json.strAt "type" == some "message_start"

def isOpenaiChunk (json : Json) : Bool :=
  (json.strAt "object").any fun object => "chat.completion".toList.isPrefixOf object.toList

/-- `message.model` of a `message_start` event, put back if it is the backend's. -/
def rewriteMessage (mapping : ModelMapping) (json : Json) : Json × Bool :=
  match (json.get "message").bind fun message => message.strAt "model" with
  | none => (json, false)
  | some model =>
    if model = mapping.backend then
      (json.modify "message" fun message => message.insert "model" (.string mapping.original), true)
    else (json, false)

/-- The top-level `model` of an OpenAI chunk, put back if it is the backend's. -/
def rewriteTopLevel (mapping : ModelMapping) (json : Json) : Json × Bool :=
  match json.strAt "model" with
  | none => (json, false)
  | some model =>
    if model = mapping.backend then (json.insert "model" (.string mapping.original), true) else (json, false)

def rewriteLine (serde : Serde) (mapping : ModelMapping) (line : List Char) : LineRewrite :=
  match dataPayload line with
  | none => { text := line }
  | some payload =>
    match fromStr serde payload with
    | none => { text := line }
    | some json =>
      if isMessageStart json then
        let (json, rewritten) := rewriteMessage mapping json
        { text := "data: ".toList ++ (toStr serde json).getD payload
          rewritten := rewritten
          anthropicDone := true }
      else if isOpenaiChunk json then
        let (json, rewritten) := rewriteTopLevel mapping json
        { text := "data: ".toList ++ (toStr serde json).getD payload, rewritten := rewritten }
      else { text := line }

/-! ### One chunk -/

structure Rebuild where
  result : List Char
  rewritten : Bool
  anthropicDone : Bool

/-- The loop separates lines only once something has been written. -/
def rebuildLines (serde : Serde) (mapping : ModelMapping) : Rebuild → List (List Char) → Rebuild
  | state, [] => state
  | state, line :: rest =>
    let result := if state.result.isEmpty then state.result else state.result ++ ['\n']
    let out := rewriteLine serde mapping line
    rebuildLines serde mapping
      { result := result ++ out.text
        rewritten := state.rewritten || out.rewritten
        anthropicDone := state.anthropicDone || out.anthropicDone } rest

def chunkLines (bytes : List UInt8) : List (List Char) := (fromUtf8Lossy bytes).splitOn '\n'

def hasMessageStart (bytes : List UInt8) : Bool := containsBytes bytes (utf8 "\"message_start\"".toList)

def hasOpenaiMarker (bytes : List UInt8) : Bool :=
  containsBytes bytes (utf8 "chat.completion".toList) && containsBytes bytes (utf8 "\"model\"".toList)

/-- The closure of `make_reverse_model_rewriter`, on one chunk. -/
def rewriteChunk (serde : Serde) (mapping : ModelMapping) (anthropicDone : Bool) (bytes : List UInt8) :
    Bool × List UInt8 :=
  let hasAnthropicMarker := !anthropicDone && hasMessageStart bytes
  if !hasAnthropicMarker && !hasOpenaiMarker bytes then (anthropicDone, bytes)
  else
    let rebuilt := rebuildLines serde mapping ⟨[], false, anthropicDone⟩ (chunkLines bytes)
    (rebuilt.anthropicDone, if rebuilt.rewritten then utf8 rebuilt.result else bytes)

/-! ### What it does to a chunk -/

/-- The line is the data of an event that names the backend's model. -/
def carriesBackendModel (serde : Serde) (mapping : ModelMapping) (line : List Char) : Bool :=
  ((dataPayload line).bind (fromStr serde)).any fun json =>
    if isMessageStart json then
      ((json.get "message").bind fun message => message.strAt "model") == some mapping.backend
    else isOpenaiChunk json && json.strAt "model" == some mapping.backend

theorem rewriteMessage_rewritten (mapping : ModelMapping) (json : Json) :
    (rewriteMessage mapping json).2 =
      (((json.get "message").bind fun message => message.strAt "model") == some mapping.backend) := by
  unfold rewriteMessage
  cases (json.get "message").bind fun message => message.strAt "model" with
  | none => rfl
  | some model => by_cases same : model = mapping.backend <;> simp [same]

theorem rewriteTopLevel_rewritten (mapping : ModelMapping) (json : Json) :
    (rewriteTopLevel mapping json).2 = (json.strAt "model" == some mapping.backend) := by
  unfold rewriteTopLevel
  cases json.strAt "model" with
  | none => rfl
  | some model => by_cases same : model = mapping.backend <;> simp [same]

theorem rewriteLine_rewritten (serde : Serde) (mapping : ModelMapping) (line : List Char) :
    (rewriteLine serde mapping line).rewritten = carriesBackendModel serde mapping line := by
  unfold rewriteLine carriesBackendModel
  cases dataPayload line with
  | none => rfl
  | some payload =>
    cases parsed : fromStr serde payload with
    | none => simp [parsed]
    | some json =>
      simp only [Option.bind_some, parsed, Option.any_some, ← rewriteMessage_rewritten, ← rewriteTopLevel_rewritten]
      cases isMessageStart json with
      | true => rfl
      | false => cases isOpenaiChunk json <;> rfl

theorem rebuildLines_result (serde : Serde) (mapping : ModelMapping) (result : List Char)
    (rewritten done other later : Bool) (lines : List (List Char)) :
    (rebuildLines serde mapping ⟨result, rewritten, done⟩ lines).result =
      (rebuildLines serde mapping ⟨result, other, later⟩ lines).result := by
  induction lines generalizing result rewritten done other later with
  | nil => rfl
  | cons line rest ih => exact ih _ _ _ _ _

theorem rebuildLines_rewritten (serde : Serde) (mapping : ModelMapping) (state : Rebuild)
    (lines : List (List Char)) :
    (rebuildLines serde mapping state lines).rewritten =
      (state.rewritten || lines.any (carriesBackendModel serde mapping)) := by
  induction lines generalizing state with
  | nil => simp [rebuildLines]
  | cons line rest ih => simp only [rebuildLines, ih, rewriteLine_rewritten, List.any_cons, Bool.or_assoc]

/-- The text of the chunk with every event of the two kinds printed anew. -/
def rebuiltText (serde : Serde) (mapping : ModelMapping) (bytes : List UInt8) : List Char :=
  (rebuildLines serde mapping ⟨[], false, false⟩ (chunkLines bytes)).result

theorem rewriteChunk_output (serde : Serde) (mapping : ModelMapping) (anthropicDone : Bool) (bytes : List UInt8) :
    (rewriteChunk serde mapping anthropicDone bytes).2 =
      if ((!anthropicDone && hasMessageStart bytes) || hasOpenaiMarker bytes) &&
          (chunkLines bytes).any (carriesBackendModel serde mapping) then
        utf8 (rebuiltText serde mapping bytes)
      else bytes := by
  unfold rewriteChunk rebuiltText
  rw [← rebuildLines_result serde mapping [] false anthropicDone false false]
  cases marked : (!anthropicDone && hasMessageStart bytes) || hasOpenaiMarker bytes with
  | false =>
    obtain ⟨noAnthropic, noOpenai⟩ := Bool.or_eq_false_iff.mp marked
    simp [noAnthropic, noOpenai]
  | true =>
    have marked' : (!(!anthropicDone && hasMessageStart bytes) && !hasOpenaiMarker bytes) = false := by
      rw [← Bool.not_or, marked]
      rfl
    simp only [marked', rebuildLines_rewritten, Bool.false_or, Bool.true_and, Bool.false_eq_true, if_false]

theorem rewriteChunk_reduces (serde : Serde) (mapping : ModelMapping) (anthropicDone : Bool) (part : List UInt8)
    (plain : (rewriteChunk serde mapping false part).2 = part) :
    (rewriteChunk serde mapping anthropicDone part).2 = part := by
  rw [rewriteChunk_output] at plain ⊢
  split
  · rename_i taken
    rw [if_pos] at plain
    · exact plain
    · cases anthropicDone <;> simp_all
  · rfl

theorem containsBytes_short {haystack needle : List UInt8} (short : haystack.length < needle.length) :
    containsBytes haystack needle = false :=
  decide_eq_false fun found => Nat.not_le_of_gt short found.length_le

theorem rewriteChunk_short (serde : Serde) (mapping : ModelMapping) (anthropicDone : Bool) {bytes : List UInt8}
    (short : bytes.length ≤ 1) : rewriteChunk serde mapping anthropicDone bytes = (anthropicDone, bytes) := by
  have noAnthropic : hasMessageStart bytes = false := containsBytes_short (Nat.lt_of_le_of_lt short (by decide))
  have noOpenai : hasOpenaiMarker bytes = false := by
    rw [hasOpenaiMarker, containsBytes_short (Nat.lt_of_le_of_lt short (by decide)), Bool.false_and]
  simp [rewriteChunk, noAnthropic, noOpenai]

end Anycode.Pipeline
