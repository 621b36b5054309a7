import Anycode.Metrics.Preview

/-!
# Event streams read back

A list of JSON objects rendered as an event stream, with line ends of both kinds and lines that
carry no event between the data lines. `parse_sse_events` returns the objects.
-/

namespace Anycode.Metrics
open Data Pipeline Thinking

def opensJson (c : Char) : Bool := c.isDigit || "\x7b[\"-tfn \t\n\r".toList.contains c

/-- What the parser needs of JSON: how a text begins, and that `[DONE]` is none. -/
structure ReadsJson (serde : Serde) : Prop where
  opens : ∀ text value, fromStr serde text = some value → ∃ c rest, text = c :: rest ∧ opensJson c = true
  refusesDone : fromStr serde "[DONE]".toList = none

/-! ### Renderings -/

/-- An object with a string type, written on one line. -/
structure Payload (serde : Serde) where
  inner : List Char
  oneLine : '\n' ∉ inner
  event : SseEvent
  reads : fromStr serde ('\x7b' :: (inner ++ ['\x7d'])) = some event.data
  typed : event.data.strAt "type" = some event.eventType

def gap (space : Bool) : List Char := if space then [' '] else []

def Payload.line {serde : Serde} (payload : Payload serde) (space : Bool) : List Char :=
  "data:".toList ++ (gap space ++ '\x7b' :: (payload.inner ++ ['\x7d']))

theorem Payload.line_eq {serde : Serde} (payload : Payload serde) (space : Bool) :
    payload.line space = "data:".toList ++ (gap space ++ '\x7b' :: (payload.inner ++ ['\x7d'])) := rfl

/-- A line without an event. -/
inductive Ignored : List Char → Prop
  | blank (line : List Char) (white : ∀ c ∈ line, isWhitespace c = true) (oneLine : '\n' ∉ line) : Ignored line
  | comment (rest : List Char) (oneLine : '\n' ∉ rest) : Ignored (':' :: rest)
  | field (name : String) (known : name ∈ ["event:", "id:", "retry:"]) (rest : List Char) (oneLine : '\n' ∉ rest) :
      Ignored (name.toList ++ rest)
  | doneData (space : Bool) : Ignored ("data:".toList ++ (gap space ++ "[DONE]".toList))
  | done : Ignored "[DONE]".toList

inductive Ending where
  | lf
  | crlf

def Ending.carriage : Ending → List Char
  | .lf => []
  | .crlf => ['\r']

/-- The text is an event stream with these events; its last line may lack an end. -/
inductive Renders (serde : Serde) : List SseEvent → List Char → Prop
  | empty : Renders serde [] []
  | data (payload : Payload serde) (space : Bool) (ending : Ending) {events : List SseEvent} {rest : List Char}
      (later : Renders serde events rest) :
      Renders serde (payload.event :: events) (payload.line space ++ ending.carriage ++ '\n' :: rest)
  | ignored {line : List Char} (eventless : Ignored line) (ending : Ending) {events : List SseEvent} {rest : List Char}
      (later : Renders serde events rest) : Renders serde events (line ++ ending.carriage ++ '\n' :: rest)
  | lastData (payload : Payload serde) (space : Bool) : Renders serde [payload.event] (payload.line space)
  | lastIgnored {line : List Char} (eventless : Ignored line) : Renders serde [] line

/-! ### Trimmed lines -/

theorem trim_append_white {c : Char} (line : List Char) (white : isWhitespace c = true) :
    trim (line ++ [c]) = trim line := by
  rw [trim, trim, trimStart, trimStart, List.dropWhile_append]
  split
  · rename_i blank
    rw [List.isEmpty_iff] at blank
    rw [blank, List.dropWhile_cons_of_pos white]
    rfl
  · rw [List.rdropWhile_concat_pos _ _ _ white]

theorem trim_white {line : List Char} (white : ∀ c ∈ line, isWhitespace c = true) : trim line = [] := by
  rw [trim, trimStart, List.dropWhile_eq_nil_iff.mpr white]
  rfl

theorem trim_dark_cons {c : Char} (rest : List Char) (dark : isWhitespace c = false) :
    ∃ kept, trim (c :: rest) = c :: kept := by
  have start : trimStart (c :: rest) = c :: rest := List.dropWhile_cons_of_neg (by rw [dark]; exact Bool.false_ne_true)
  obtain ⟨trimmed, whole⟩ := List.rdropWhile_prefix isWhitespace (c :: rest)
  rw [trim, start]
  cases kept : (c :: rest).rdropWhile isWhitespace with
  | nil =>
    have all := List.rdropWhile_eq_nil_iff.mp kept c List.mem_cons_self
    rw [dark] at all
    cases all
  | cons d others =>
    rw [kept] at whole
    obtain ⟨rfl, _⟩ := List.cons.inj whole
    exact ⟨others, rfl⟩

theorem trim_dark_ends {c d : Char} (inner : List Char) (dark : isWhitespace c = false) (darkEnd : isWhitespace d = false) :
    trim (c :: (inner ++ [d])) = c :: (inner ++ [d]) := by
  have start : trimStart (c :: (inner ++ [d])) = (c :: inner) ++ [d] :=
    List.dropWhile_cons_of_neg (by rw [dark]; exact Bool.false_ne_true)
  rw [trim, start, List.rdropWhile_concat_neg _ _ _ (by rw [darkEnd]; exact Bool.false_ne_true)]
  rfl

/-! ### One line -/

section
variable {serde : SerdePretty}

theorem parseSseLine_trim {line other : List Char} (same : trim line = trim other) :
    parseSseLine serde line = parseSseLine serde other := by
  rw [parseSseLine, parseSseLine, same]

theorem fromStr_of_not_opens (json : ReadsJson serde.toSerde) {c : Char} (shut : opensJson c = false) (rest : List Char) :
    fromStr serde.toSerde (c :: rest) = none := by
  cases parsed : fromStr serde.toSerde (c :: rest) with
  | none => rfl
  | some value =>
    obtain ⟨d, others, same, opens⟩ := json.opens _ _ parsed
    obtain ⟨rfl, _⟩ := List.cons.inj same
    rw [shut] at opens
    cases opens

theorem dataMarker : "data:".toList = ['d', 'a', 't', 'a', ':'] := by decide

theorem parseSseLine_payload (json : ReadsJson serde.toSerde) (payload : Payload serde.toSerde) (space : Bool) :
    parseSseLine serde (payload.line space) = some payload.event := by
  have shape : ∃ inner, payload.line space = 'd' :: (inner ++ ['\x7d']) :=
    ⟨['a', 't', 'a', ':'] ++ (gap space ++ '\x7b' :: payload.inner), by
      simp only [payload.line_eq, dataMarker, List.cons_append, List.nil_append, List.append_assoc]⟩
  obtain ⟨inner, shape⟩ := shape
  have trimmed : trim (payload.line space) = payload.line space := by
    rw [shape]
    exact trim_dark_ends inner (by decide) (by decide)
  have direct : fromStr serde.toSerde (payload.line space) = none := by
    rw [shape]
    exact fromStr_of_not_opens json (by decide) _
  have stripped : stripPrefix "data:".toList (payload.line space) =
      some (gap space ++ '\x7b' :: (payload.inner ++ ['\x7d'])) := by
    rw [payload.line_eq, stripPrefix, if_pos (List.isPrefixOf_iff_prefix.mpr (List.prefix_append _ _)), List.drop_left]
  have opened : trimStart (gap space ++ '\x7b' :: (payload.inner ++ ['\x7d'])) = '\x7b' :: (payload.inner ++ ['\x7d']) := by
    cases space with
    | false => rfl
    | true => rfl
  have some_line : (payload.line space).isEmpty = false := by rw [shape]; rfl
  rw [parseSseLine, trimmed]
  simp only [some_line, Bool.false_eq_true, if_false, direct, Option.orElse_none, stripped, Option.bind_some, opened,
    payload.reads, payload.typed, Option.map_some]

/-- A line that begins with neither JSON nor `data:` has no event. -/
theorem parseSseLine_shut (json : ReadsJson serde.toSerde) {c : Char} (rest : List Char)
    (dark : isWhitespace c = false) (shut : opensJson c = false) (other : c ≠ 'd') :
    parseSseLine serde (c :: rest) = none := by
  obtain ⟨kept, trimmed⟩ := trim_dark_cons rest dark
  have stripped : stripPrefix "data:".toList (c :: kept) = none := by
    rw [stripPrefix, if_neg]
    intro starts
    exact other (List.cons_prefix_cons.mp (List.isPrefixOf_iff_prefix.mp starts)).1.symm
  rw [parseSseLine, trimmed]
  simp only [List.isEmpty_cons, Bool.false_eq_true, if_false, fromStr_of_not_opens json shut, Option.orElse_none, stripped,
    Option.bind_none]

theorem parseSseLine_ignored (json : ReadsJson serde.toSerde) {line : List Char} (eventless : Ignored line) :
    parseSseLine serde line = none := by
  cases eventless with
  | blank _ white _ =>
    rw [parseSseLine, trim_white white]
    rfl
  | comment rest _ => exact parseSseLine_shut json _ (by decide) (by decide) (by decide)
  | field name known rest _ =>
    simp only [List.mem_cons, List.not_mem_nil, or_false] at known
    rcases known with rfl | rfl | rfl
    · exact parseSseLine_shut json _ (by decide) (by decide) (by decide)
    · exact parseSseLine_shut json _ (by decide) (by decide) (by decide)
    · exact parseSseLine_shut json _ (by decide) (by decide) (by decide)
  | doneData space =>
    have trimmed : trim ("data:".toList ++ (gap space ++ "[DONE]".toList)) =
        "data:".toList ++ (gap space ++ "[DONE]".toList) := by
      cases space <;> decide
    have stripped : (stripPrefix "data:".toList ("data:".toList ++ (gap space ++ "[DONE]".toList))).map trimStart =
        some "[DONE]".toList := by
      cases space <;> decide
    have direct : fromStr serde.toSerde ("data:".toList ++ (gap space ++ "[DONE]".toList)) = none :=
      fromStr_of_not_opens json (by decide) _
    obtain ⟨data, strip, start⟩ := Option.map_eq_some_iff.mp stripped
    rw [parseSseLine, trimmed]
    simp only [direct, Option.orElse_none, strip, Option.bind_some, start, json.refusesDone, Option.bind_none, ite_self]
  | done =>
    have trimmed : trim "[DONE]".toList = "[DONE]".toList := by decide
    have stripped : stripPrefix "data:".toList "[DONE]".toList = none := by decide
    rw [parseSseLine, trimmed]
    simp only [json.refusesDone, Option.orElse_none, stripped, Option.bind_none, ite_self]

/-! ### The lines of a stream -/

/-- The carriage return that `lines` takes off a line would be trimmed anyway. -/
theorem parseSseLine_stripped (line : List Char) :
    parseSseLine serde (if line.getLast? = some '\r' then line.dropLast else line) = parseSseLine serde line := by
  split
  · rename_i last
    have whole := List.dropLast_append_getLast? '\r' last
    rw [← parseSseLine_trim (trim_append_white line.dropLast (show isWhitespace '\r' = true by decide)), whole]
  · rfl

theorem filterMap_lines (text : List Char) :
    (lines text).filterMap (parseSseLine serde) = (text.splitOn '\n').filterMap (parseSseLine serde) := by
  have blank : parseSseLine serde [] = none := rfl
  obtain ⟨first, last, pieces⟩ : ∃ first last, text.splitOn '\n' = first ++ [last] :=
    ⟨_, _, (List.dropLast_append_getLast (List.splitOn_ne_nil '\n' text)).symm⟩
  have tail : ([last].filter fun line => !line.isEmpty).filterMap (parseSseLine serde) =
      [last].filterMap (parseSseLine serde) := by
    cases last with
    | nil => simp [blank]
    | cons c rest => rfl
  rw [lines, pieces]
  simp only [List.dropLast_concat, List.getLast?_concat, Option.toList_some, List.filterMap_append, List.filterMap_map, tail]
  exact congrArg (· ++ _) (congrArg (fun parse => first.filterMap parse) (funext parseSseLine_stripped))

theorem filterMap_splitOn_cons {line : List Char} (oneLine : '\n' ∉ line) (ending : Ending) (rest : List Char) :
    ((line ++ ending.carriage ++ '\n' :: rest).splitOn '\n').filterMap (parseSseLine serde) =
      (parseSseLine serde line).toList ++ (rest.splitOn '\n').filterMap (parseSseLine serde) := by
  have wholeLine : '\n' ∉ line ++ ending.carriage := by
    rw [List.mem_append]
    rintro (inside | inside)
    · exact oneLine inside
    · cases ending <;> simp [Ending.carriage] at inside
  have parsed : parseSseLine serde (line ++ ending.carriage) = parseSseLine serde line := by
    cases ending with
    | lf => rw [Ending.carriage, List.append_nil]
    | crlf => exact parseSseLine_trim (trim_append_white line (by decide))
  rw [List.splitOn_append_cons_self, List.splitOn_eq_singleton wholeLine, List.filterMap_append, List.filterMap_cons,
    parsed]
  cases parseSseLine serde line <;> rfl

theorem Payload.line_oneLine {serde : Serde} (payload : Payload serde) (space : Bool) : '\n' ∉ payload.line space := by
  have inner := payload.oneLine
  cases space <;> simp [payload.line_eq, gap, inner]

theorem Ignored.oneLine {line : List Char} (eventless : Ignored line) : '\n' ∉ line := by
  cases eventless with
  | blank _ _ oneLine => exact oneLine
  | comment rest oneLine => simp [oneLine]
  | field name known rest oneLine =>
    simp only [List.mem_cons, List.not_mem_nil, or_false] at known
    rw [List.mem_append, not_or]
    refine ⟨?_, oneLine⟩
    rcases known with rfl | rfl | rfl <;> decide
  | doneData space => cases space <;> decide
  | done => decide

theorem splitOn_renders (json : ReadsJson serde.toSerde) {events : List SseEvent} {text : List Char}
    (renders : Renders serde.toSerde events text) : (text.splitOn '\n').filterMap (parseSseLine serde) = events := by
  induction renders with
  | empty => rfl
  | data payload space ending _ ih =>
    rw [filterMap_splitOn_cons (payload.line_oneLine space), parseSseLine_payload json payload, ih]
    rfl
  | ignored eventless ending _ ih =>
    rw [filterMap_splitOn_cons eventless.oneLine, parseSseLine_ignored json eventless, ih]
    rfl
  | lastData payload space =>
    rw [List.splitOn_eq_singleton (payload.line_oneLine space)]
    simp only [List.filterMap_cons, parseSseLine_payload json payload, List.filterMap_nil]
  | lastIgnored eventless =>
    rw [List.splitOn_eq_singleton eventless.oneLine]
    simp only [List.filterMap_cons, parseSseLine_ignored json eventless, List.filterMap_nil]

theorem parseSseEvents_renders (json : ReadsJson serde.toSerde) {events : List SseEvent} {text : List Char}
    (renders : Renders serde.toSerde events text) : parseSseEvents serde (utf8 text) = events := by
  rw [parseSseEvents, fromUtf8Lossy_utf8, filterMap_lines, splitOn_renders json renders]

end

def pingText : List Char := '\x7b' :: ("\"type\":\"ping\"".toList ++ ['\x7d'])

def ping : SseEvent := ⟨"ping", .object [("type", .string "ping")]⟩

/-- A parser that knows one text. -/
def pingSerde : SerdePretty where
  fromSlice bytes := if bytes = utf8 pingText then some ping.data else none
  toVec _ := none
  toStringPretty _ := none

theorem pingSerde_reads : ReadsJson pingSerde.toSerde where
  opens text value parsed := by
    by_cases same : utf8 text = utf8 pingText
    · exact ⟨'\x7b', _, utf8_injective same, by decide⟩
    · cases (show none = some value from (if_neg same).symm.trans parsed)
  refusesDone := by decide

def pingPayload : Payload pingSerde.toSerde where
  inner := "\"type\":\"ping\"".toList
  oneLine := by decide
  event := ping
  reads := show (if utf8 pingText = utf8 pingText then some ping.data else none) = some ping.data from if_pos rfl
  typed := by decide

theorem parseSseEvents_pings :
    parseSseEvents pingSerde (utf8
      (": open\nevent: ping\r\ndata: \x7b\"type\":\"ping\"\x7d\r\n\ndata:\x7b\"type\":\"ping\"\x7d\ndata: [DONE]".toList)) =
      [ping, ping] :=
  parseSseEvents_renders pingSerde_reads
    (.ignored (.comment " open".toList (by decide)) .lf
      (.ignored (.field "event:" (by decide) " ping".toList (by decide)) .crlf
        (.data pingPayload true .crlf (.ignored (.blank [] (List.forall_mem_nil _) (by decide)) .lf
          (.data pingPayload false .lf (.lastIgnored (.doneData true)))))))

end Anycode.Metrics
