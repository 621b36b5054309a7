import Anycode.Data.StrSlice
import Anycode.Data.Text
import Anycode.Metrics.Redaction
import Anycode.Thinking.Registry

/-!
# Redacted previews of bodies

`redact_body` of `metrics/redaction.rs`, with `parse_sse_events` of `sse.rs`. A slice by byte
index that misses a character boundary is the error of `Except Panic`.
-/

namespace Anycode.Metrics
open Data Pipeline Thinking

/-! ### Parsed JSON -/

def isSensitiveKey (key : String) : Bool :=
  ["api_key", "authorization", "access_token", "refresh_token", "secret", "password"].any
    fun sensitive => asciiLower key == sensitive.toList

def maskedValue (value : Json) : Json := .string (String.ofList (maskValue (value.asStr.getD "").toList))

mutual

def redactJsonValue : Json → Json
  | .object fields => .object (redactFields fields)
  | .array items => .array (redactItems items)
  | value => value

def redactItems : List Json → List Json
  | [] => []
  | item :: rest => redactJsonValue item :: redactItems rest

def redactFields : List (String × Json) → List (String × Json)
  | [] => []
  | (key, value) :: rest =>
    (key, if isSensitiveKey key then maskedValue value else redactJsonValue value) :: redactFields rest

end

/-! ### Plain text -/

structure Marker where
  text : List Char
  nonempty : text ≠ []

/-- The loop of `mask_bearer_tokens` and `mask_key_value`: what `token` finds behind each marker
is masked, and as many bytes as it has are skipped. -/
def maskAfter (marker : Marker) (token : List Char → List Char) (input : List Char) : Except Panic (List Char) :=
  match _found : breakAt marker.text input with
  | none => .ok input
  | some (before, after) =>
    match _cut : sliceFrom after (byteLen (token after)) with
    | .error panic => .error panic
    | .ok rest =>
      (maskAfter marker token rest).map fun masked => before ++ marker.text ++ maskValue (token after) ++ masked
  termination_by input.length
  decreasing_by
    obtain ⟨skipped, split, _⟩ := sliceFrom_eq_ok _cut
    have shape := congrArg List.length (breakAt_eq_some _found)
    have nonempty := List.length_pos_iff.mpr marker.nonempty
    rw [split] at shape
    simp only [List.length_append] at shape
    omega

/-- Wherever the scan finds the marker, it skips whole characters. -/
inductive SkipsWhole (marker : Marker) (token : List Char → List Char) : List Char → Prop
  | done {text : List Char} (absent : breakAt marker.text text = none) : SkipsWhole marker token text
  | skip {text before skipped rest : List Char} (found : breakAt marker.text text = some (before, skipped ++ rest))
      (size : byteLen skipped = byteLen (token (skipped ++ rest))) (later : SkipsWhole marker token rest) :
      SkipsWhole marker token text

theorem maskAfter_none {marker : Marker} {token : List Char → List Char} {input : List Char}
    (absent : breakAt marker.text input = none) : maskAfter marker token input = .ok input := by
  rw [maskAfter]
  split
  · rfl
  · rename_i found
    rw [absent] at found
    cases found

theorem maskAfter_some {marker : Marker} {token : List Char → List Char} {input before after : List Char}
    (found : breakAt marker.text input = some (before, after)) :
    maskAfter marker token input =
      (sliceFrom after (byteLen (token after))).bind fun rest =>
        (maskAfter marker token rest).map fun masked => before ++ marker.text ++ maskValue (token after) ++ masked := by
  rw [maskAfter]
  split
  · rename_i absent
    rw [found] at absent
    cases absent
  · rename_i elsewhere
    rw [found] at elsewhere
    cases elsewhere
    split
    · rename_i cut
      rw [cut]
      rfl
    · rename_i cut
      rw [cut]
      rfl

theorem maskAfter_isOk {marker : Marker} {token : List Char → List Char} {input : List Char} :
    (maskAfter marker token input).isOk = true ↔ SkipsWhole marker token input := by
  constructor
  · intro ok
    induction input using maskAfter.induct marker token with
    | case1 input absent => exact .done absent
    | case2 input before after found panic cut =>
      rw [maskAfter_some found, cut] at ok
      cases ok
    | case3 input before after found rest cut ih =>
      rw [maskAfter_some found, cut] at ok
      have later := ih (by rwa [Except.bind, isOk_map] at ok)
      obtain ⟨skipped, rfl, size⟩ := sliceFrom_eq_ok cut
      exact .skip found size later
  · intro whole
    induction whole with
    | done absent =>
      rw [maskAfter_none absent]
      rfl
    | skip found size later ih =>
      rw [maskAfter_some found, ← size, sliceFrom_append, Except.bind, isOk_map]
      exact ih

theorem maskAfter_isOk_of_adjacent {marker : Marker} {token : List Char → List Char}
    (adjacent : ∀ after, token after <+: after) (input : List Char) : (maskAfter marker token input).isOk = true := by
  induction input using maskAfter.induct marker token with
  | case1 input absent =>
    rw [maskAfter_none absent]
    rfl
  | case2 input before after found panic cut =>
    obtain ⟨rest, split⟩ := adjacent after
    have cutsFine := sliceFrom_append (token after) rest
    rw [split, cut] at cutsFine
    cases cutsFine
  | case3 input before after found rest cut ih =>
    rw [maskAfter_some found, cut, Except.bind, isOk_map]
    exact ih

/-- `split_whitespace().next()`: leading white space is skipped. -/
def firstWord (text : List Char) : List Char := (trimStart text).takeWhile fun c => !isWhitespace c

def upToSeparator (text : List Char) : List Char := text.takeWhile fun c => !(c == '&' || isWhitespace c)

def bearerMarker : Marker := ⟨"Bearer ".toList, by decide⟩

def maskBearerTokens (input : List Char) : Except Panic (List Char) := maskAfter bearerMarker firstWord input

def keyMarker (key : String) : Marker := ⟨key.toList ++ ['='], by simp⟩

def maskKeyValue (input : List Char) (key : String) : Except Panic (List Char) :=
  maskAfter (keyMarker key) upToSeparator input

def maskTokens (input : List Char) : Except Panic (List Char) := do
  let output ← maskBearerTokens input
  let output ← maskKeyValue output "api_key"
  let output ← maskKeyValue output "access_token"
  maskKeyValue output "refresh_token"

theorem maskKeyValue_ok (input : List Char) (key : String) : ∃ output, maskKeyValue input key = .ok output :=
  isOk_iff.mp (maskAfter_isOk_of_adjacent (fun _ => List.takeWhile_prefix _) input)

/-- Only the scan for bearer tokens can miss a character boundary. -/
theorem maskTokens_isOk {input : List Char} :
    (maskTokens input).isOk = true ↔ SkipsWhole bearerMarker firstWord input := by
  rw [← maskAfter_isOk, maskTokens, maskBearerTokens]
  cases maskAfter bearerMarker firstWord input with
  | error panic => rfl
  | ok output =>
    refine iff_of_true ?_ rfl
    obtain ⟨first, masked⟩ := maskKeyValue_ok output "api_key"
    obtain ⟨second, maskedTwice⟩ := maskKeyValue_ok first "access_token"
    obtain ⟨third, maskedThrice⟩ := maskKeyValue_ok second "refresh_token"
    simp only [bind, Except.bind, masked, maskedTwice, maskedThrice]
    rfl

/-! ### Event streams -/

/-- `str::lines`: a carriage return before a line feed ends the line with it. -/
def lines (text : List Char) : List (List Char) :=
  let pieces := text.splitOn '\n'
  pieces.dropLast.map (fun line => if line.getLast? = some '\r' then line.dropLast else line) ++
    pieces.getLast?.toList.filter fun line => !line.isEmpty

variable (serde : SerdePretty)

def parseSseLine (line : List Char) : Option SseEvent :=
  let line := trim line
  if line.isEmpty then none
  else
    let json := (fromStr serde.toSerde line).orElse fun _ =>
      (stripPrefix "data:".toList line).bind fun data => fromStr serde.toSerde (trimStart data)
    json.bind fun json => (json.strAt "type").map fun eventType => ⟨eventType, json⟩

def parseSseEvents (bytes : List UInt8) : List SseEvent := (lines (fromUtf8Lossy bytes)).filterMap (parseSseLine serde)

structure SseSummary where
  eventCounts : Assoc String UInt32 := []
  lastMessageDelta : Option Json := none
  finalText : List Char := []
  errorEvent : Option Json := none

def textDelta (event : SseEvent) : List Char :=
  if event.eventType = "content_block_delta" then
    (((event.data.get "delta").bind fun delta => delta.strAt "text").getD "").toList
  else []

def SseSummary.add (summary : SseSummary) (event : SseEvent) : SseSummary where
  eventCounts :=
    summary.eventCounts.insert event.eventType ((summary.eventCounts.find event.eventType).getD 0 + 1)
  lastMessageDelta := if event.eventType = "message_delta" then some event.data else summary.lastMessageDelta
  finalText := summary.finalText ++ textDelta event
  errorEvent := if event.eventType = "error" then some event.data else summary.errorEvent

def count (n : UInt32) : Json := .number (.posInt n.toUInt64)

def textPreview (finalText : List Char) : Except Panic (List Char) :=
  if byteLen finalText > 500 then
    (sliceTo finalText 500).map fun start =>
      start ++ "...[truncated, total ".toList ++ (toString (byteLen finalText)).toList ++ " chars]".toList
  else .ok finalText

def insertIn (key : String) (item summary : Json) : Json :=
  summary.modify "sse_summary" fun fields => fields.insert key item

def insertOption (key : String) (item : Option Json) (summary : Json) : Json :=
  match item with
  | some item => insertIn key item summary
  | none => summary

def summaryJson (total : UInt32) (summary : SseSummary) : Except Panic Json := do
  let base := .object [("sse_summary", .object
    [("event_counts", .object (summary.eventCounts.map fun entry => (entry.1, count entry.2))),
      ("total_events", count total)])]
  let withText ←
    if summary.finalText.isEmpty then pure base
    else (textPreview summary.finalText).map fun preview => insertIn "text_preview" (.string (String.ofList preview)) base
  let delta := summary.lastMessageDelta
  let withUsage := insertOption "usage" (delta.bind fun delta => delta.get "usage") withText
  let withStop :=
    insertOption "stop_reason" (delta.bind fun delta => (delta.get "delta").bind fun delta => delta.get "stop_reason")
      withUsage
  pure (insertOption "error" summary.errorEvent withStop)

def print (pretty : Bool) (value : Json) : Option (List Char) :=
  if pretty then serde.toStringPretty value else toStr serde.toSerde value

def summarizeEvents (events : List SseEvent) (pretty : Bool) : Except Panic (List Char) :=
  let total := UInt32.ofNat events.length
  (summaryJson total (events.foldl SseSummary.add {})).map fun summary =>
    (print serde pretty summary).getD ("SSE stream: ".toList ++ (toString total.toNat).toList ++ " events".toList)

def summarizeSseStream (bytes : List UInt8) (pretty : Bool) : Except Panic (List Char) :=
  summarizeEvents serde (parseSseEvents serde bytes) pretty

/-! ### The preview of a body -/

def textContains (text pattern : List Char) : Bool := decide (pattern <:+: text)

def eventStream : List Char := "text/event-stream".toList

def applicationJson : List Char := "application/json".toList

def withinLimit (bytes : List UInt8) : Option Nat → List UInt8
  | some limit => if bytes.length > limit then bytes.take limit else bytes
  | none => bytes

def redactBody (bytes : List UInt8) (contentType : List Char) (limit : Option Nat) (pretty : Bool) :
    Except Panic (Option (List Char)) :=
  if bytes.isEmpty then .ok none
  else if textContains contentType eventStream then (summarizeSseStream serde bytes pretty).map some
  else if limit = some 0 then .ok none
  else
    let data := withinLimit bytes limit
    if textContains contentType applicationJson then
      match serde.fromSlice data with
      | some value => .ok (print serde pretty (redactJsonValue value))
      | none => (maskTokens (fromUtf8Lossy data)).map some
    else (maskTokens (fromUtf8Lossy data)).map some

end Anycode.Metrics
