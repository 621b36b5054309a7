import Mathlib.Data.List.Forall2
import Anycode.Pipeline.Headers

/-!
# What the model rewriter leaves alone

A chunk and what the rewriter makes of it, line by line: which lines stay as they are, which keep
their JSON value but for the model, and whether the line ends survive.
-/

namespace Anycode.Pipeline
open Data Config

/-! ### The frame -/

/-- The value of a data line of one of the two kinds. -/
def eventOf (serde : Serde) (line : List Char) : Option Json :=
  ((dataPayload line).bind (fromStr serde)).filter fun json => isMessageStart json || isOpenaiChunk json

def restoreModel (mapping : ModelMapping) (value : Json) : Json :=
  if value.strAt "model" = some mapping.backend then value.insert "model" (.string mapping.original) else value

/-- The event with the original model in the place of the backend's. -/
def restored (mapping : ModelMapping) (json : Json) : Json :=
  if isMessageStart json then json.modify "message" (restoreModel mapping) else restoreModel mapping json

/-- The chunk is searched for events: no `message_start` has come yet and it has its marker, or it
has the markers of the other kind. -/
def Searched (anthropicDone : Bool) (text : List Char) : Prop :=
  anthropicDone = false ∧ hasMessageStart (utf8 text) = true ∨ hasOpenaiMarker (utf8 text) = true

/-- A line and what becomes of it: it ends the same way, and only an event is changed, whose value
is the same but for the model, which is put back in a chunk that is searched. -/
structure KeepsLine (serde : Serde) (mapping : ModelMapping) (searched : Prop) (line out : List Char) : Prop where
  ending : line.getLast? = some '\r' ↔ out.getLast? = some '\r'
  other : eventOf serde line = none → out = line
  event : ∀ json, eventOf serde line = some json → ∃ payload after, dataPayload out = some payload ∧
    fromStr serde payload = some after ∧ (searched → after = restored mapping json) ∧ (¬ searched → after = json)

/-- The chunk keeps its lines, in order and as many as they are. -/
def KeepsLines (serde : Serde) (mapping : ModelMapping) (anthropicDone : Bool) (text : List Char) : Prop :=
  ∃ out, (rewriteChunk serde mapping anthropicDone (utf8 text)).2 = utf8 out ∧
    List.Forall₂ (KeepsLine serde mapping (Searched anthropicDone text)) (text.splitOn '\n') (out.splitOn '\n')

/-- The chunk is searched, and an event of it names the backend's model. -/
def Rewrites (serde : Serde) (mapping : ModelMapping) (anthropicDone : Bool) (text : List Char) : Prop :=
  Searched anthropicDone text ∧ ∃ line ∈ text.splitOn '\n', carriesBackendModel serde mapping line = true

/-- The chunk does not begin with an empty line, and none of its events ends in a carriage return. -/
structure Rebuildable (serde : Serde) (text : List Char) : Prop where
  begins : text.head? ≠ some '\n'
  ends : ∀ line ∈ text.splitOn '\n', (eventOf serde line).isSome = true → line.getLast? ≠ some '\r'

/-- An object prints on one line between its braces, and its text parses back to it. -/
def PrintsCompact (serde : Serde) (value : Json) : Prop :=
  ∃ inner, '\n' ∉ inner ∧ serde.toVec value = some (utf8 ('\x7b' :: (inner ++ ['\x7d']))) ∧
    serde.fromSlice (utf8 ('\x7b' :: (inner ++ ['\x7d']))) = some value

/-- So do the events of the chunk, once the model is put back. -/
def PrintsEvents (serde : Serde) (mapping : ModelMapping) (text : List Char) : Prop :=
  ∀ line ∈ text.splitOn '\n', ∀ json, eventOf serde line = some json → PrintsCompact serde (restored mapping json)

/-! ### One line -/

theorem rewriteMessage_eq (mapping : ModelMapping) (json : Json) :
    (rewriteMessage mapping json).1 = json.modify "message" (restoreModel mapping) := by
  by_cases named : ((json.get "message").bind fun message => message.strAt "model") = some mapping.backend
  · have rewritten : (rewriteMessage mapping json).1 =
        json.modify "message" fun message => message.insert "model" (.string mapping.original) := by
      rw [rewriteMessage, named]
      exact congrArg Prod.fst (if_pos rfl)
    rw [rewritten]
    refine Json.modify_congr fun message found => ?_
    rw [found, Option.bind_some] at named
    exact (if_pos named).symm
  · have kept : (rewriteMessage mapping json).1 = json := by
      unfold rewriteMessage
      split
      · rfl
      · rename_i model found
        rw [if_neg fun same => named (found.trans (congrArg some same))]
    rw [kept]
    refine (Json.modify_self fun message found => if_neg fun same => named ?_).symm
    rw [found, Option.bind_some, same]

theorem rewriteTopLevel_eq (mapping : ModelMapping) (json : Json) :
    (rewriteTopLevel mapping json).1 = restoreModel mapping json := by
  unfold rewriteTopLevel restoreModel
  cases json.strAt "model" with
  | none => rfl
  | some model => by_cases same : model = mapping.backend <;> simp [same]

theorem rewriteLine_other {serde : Serde} (mapping : ModelMapping) {line : List Char} (other : eventOf serde line = none) :
    (rewriteLine serde mapping line).text = line := by
  unfold rewriteLine
  unfold eventOf at other
  cases data : dataPayload line with
  | none => rfl
  | some payload =>
    dsimp only
    cases parsed : fromStr serde payload with
    | none => rfl
    | some json =>
      rw [data, Option.bind_some, parsed] at other
      have neither : isMessageStart json = false ∧ isOpenaiChunk json = false := by simpa [Option.filter] using other
      simp only [neither.1, neither.2, Bool.false_eq_true, if_false]

theorem rewriteLine_event {serde : Serde} {mapping : ModelMapping} {line text : List Char} {json : Json}
    (event : eventOf serde line = some json) (printed : toStr serde (restored mapping json) = some text) :
    (rewriteLine serde mapping line).text = "data: ".toList ++ text := by
  obtain ⟨parsed, kind⟩ := Option.filter_eq_some_iff.mp event
  obtain ⟨payload, data, parsed⟩ := Option.bind_eq_some_iff.mp parsed
  unfold rewriteLine
  simp only [data, parsed]
  unfold restored at printed
  split
  · rename_i start
    rw [if_pos start, ← rewriteMessage_eq] at printed
    rw [printed, Option.getD_some]
  · rename_i start
    rw [if_neg start, ← rewriteTopLevel_eq] at printed
    have chunk : isOpenaiChunk json = true := by
      rw [Bool.not_eq_true] at start
      simpa [start] using kind
    rw [if_pos chunk, printed, Option.getD_some]

theorem trimStart_of_head {c : Char} (rest : List Char) (dark : isWhitespace c = false) : trimStart (c :: rest) = c :: rest :=
  List.dropWhile_cons_of_neg (by rw [dark]; exact Bool.false_ne_true)

/-- The printed object is what the rewritten line has for data. -/
theorem dataPayload_printed (inner : List Char) :
    dataPayload ("data: ".toList ++ '\x7b' :: (inner ++ ['\x7d'])) = some ('\x7b' :: (inner ++ ['\x7d'])) := by
  have closed : isWhitespace '\x7d' = false := by decide
  have trimmed : trim ("data: ".toList ++ '\x7b' :: (inner ++ ['\x7d'])) =
      "data: ".toList ++ '\x7b' :: (inner ++ ['\x7d']) := by
    have start : trimStart ("data: ".toList ++ '\x7b' :: (inner ++ ['\x7d'])) =
        "data: \x7b".toList ++ inner ++ ['\x7d'] := trimStart_of_head _ (by decide)
    rw [trim, start, List.rdropWhile_concat_neg _ _ _ (by rw [closed]; exact Bool.false_ne_true)]
    rfl
  rw [dataPayload, trimmed]
  rfl

theorem toStr_printsCompact {serde : Serde} {value : Json} (prints : PrintsCompact serde value) :
    ∃ inner, '\n' ∉ inner ∧ toStr serde value = some ('\x7b' :: (inner ++ ['\x7d'])) ∧
      fromStr serde ('\x7b' :: (inner ++ ['\x7d'])) = some value := by
  obtain ⟨inner, oneLine, printed, parsed⟩ := prints
  exact ⟨inner, oneLine, by rw [toStr, printed, Option.map_some, fromUtf8Lossy_utf8], parsed⟩

/-- The rewritten line is kept but for an event that ends in a carriage return, which the trimming takes. -/
theorem keepsLine_rewriteLine_iff {serde : Serde} {mapping : ModelMapping} {searched : Prop} {line : List Char}
    (taken : searched)
    (printed : ∀ json, eventOf serde line = some json → PrintsCompact serde (restored mapping json)) :
    KeepsLine serde mapping searched line (rewriteLine serde mapping line).text ↔
      ((eventOf serde line).isSome = true → line.getLast? ≠ some '\r') := by
  cases event : eventOf serde line with
  | none =>
    refine iff_of_true ?_ nofun
    rw [rewriteLine_other mapping event]
    exact ⟨Iff.rfl, fun _ => rfl, fun json other => (nomatch event.symm.trans other)⟩
  | some json =>
    obtain ⟨inner, _, text, parsed⟩ := toStr_printsCompact (printed json event)
    rw [rewriteLine_event event text]
    have last : ("data: ".toList ++ '\x7b' :: (inner ++ ['\x7d'])).getLast? = some '\x7d' := by
      rw [← List.cons_append, ← List.append_assoc, List.getLast?_concat]
    constructor
    · intro keeps _ returned
      have ends := keeps.ending.mp returned
      rw [last] at ends
      cases ends
    · intro unreturned
      refine ⟨iff_of_false (unreturned rfl) (by rw [last]; nofun), fun other => (nomatch event.symm.trans other), ?_⟩
      intro again same
      cases event.symm.trans same
      exact ⟨_, _, dataPayload_printed inner, parsed, fun _ => rfl, fun untaken => absurd taken untaken⟩

/-- Nothing is put back in an event that does not name the backend's model. -/
theorem restored_of_not_carries {serde : Serde} {mapping : ModelMapping} {line : List Char} {json : Json}
    (event : eventOf serde line = some json) (foreign : carriesBackendModel serde mapping line = false) :
    restored mapping json = json := by
  obtain ⟨parsed, kind⟩ := Option.filter_eq_some_iff.mp event
  rw [carriesBackendModel, parsed, Option.any_some] at foreign
  unfold restored
  split
  · rename_i start
    rw [if_pos start, beq_eq_false_iff_ne] at foreign
    refine Json.modify_self fun message found => if_neg fun same => foreign ?_
    rw [found, Option.bind_some, same]
  · rename_i start
    rw [if_neg start] at foreign
    have chunk : isOpenaiChunk json = true := by
      rw [Bool.not_eq_true] at start
      simpa [start] using kind
    rw [chunk, Bool.true_and, beq_eq_false_iff_ne] at foreign
    exact if_neg foreign

theorem strAt_restoreModel {mapping : ModelMapping} {value : Json} (named : value.strAt "model" = some mapping.backend) :
    (restoreModel mapping value).strAt "model" = some mapping.original := by
  obtain ⟨model, found, _⟩ := Option.bind_eq_some_iff.mp named
  rw [restoreModel, if_pos named, Json.strAt, Json.get_insert_same (Json.isObject_of_get found)]
  rfl

/-- An event that names the backend's model is another one with another model. -/
theorem restored_of_carries {serde : Serde} {mapping : ModelMapping} {line : List Char} {json : Json}
    (distinct : mapping.original ≠ mapping.backend) (event : eventOf serde line = some json)
    (carries : carriesBackendModel serde mapping line = true) : restored mapping json ≠ json := by
  obtain ⟨parsed, _⟩ := Option.filter_eq_some_iff.mp event
  rw [carriesBackendModel, parsed, Option.any_some] at carries
  intro same
  unfold restored at same
  split at carries
  · rename_i start
    rw [if_pos start] at same
    rw [beq_iff_eq] at carries
    obtain ⟨message, found, named⟩ := Option.bind_eq_some_iff.mp carries
    have after := congrArg (Json.get · "message") same
    rw [Json.get_modify_same, found, Option.map_some, Option.some.injEq] at after
    have model := strAt_restoreModel named
    rw [after, named] at model
    exact distinct (Option.some.inj model).symm
  · rename_i start
    rw [if_neg start] at same
    rw [Bool.and_eq_true, beq_iff_eq] at carries
    have model := strAt_restoreModel carries.2
    rw [same, carries.2] at model
    exact distinct (Option.some.inj model).symm

theorem eventOf_of_carries {serde : Serde} {mapping : ModelMapping} {line : List Char}
    (carries : carriesBackendModel serde mapping line = true) : ∃ json, eventOf serde line = some json := by
  rw [carriesBackendModel] at carries
  obtain ⟨json, parsed, named⟩ := (Option.any_eq_true _ _).mp carries
  refine ⟨json, Option.filter_eq_some_iff.mpr ⟨parsed, ?_⟩⟩
  rw [Bool.or_eq_true]
  split at named
  · rename_i start
    exact .inl start
  · exact .inr (Bool.and_eq_true_iff.mp named).1

/-- A line that names the backend's model is rewritten to another one. -/
theorem rewriteLine_of_carries {serde : Serde} {mapping : ModelMapping} {line : List Char}
    (distinct : mapping.original ≠ mapping.backend) (carries : carriesBackendModel serde mapping line = true)
    (printed : ∀ json, eventOf serde line = some json → PrintsCompact serde (restored mapping json)) :
    (rewriteLine serde mapping line).text ≠ line := by
  obtain ⟨json, event⟩ := eventOf_of_carries carries
  obtain ⟨inner, _, text, parsed⟩ := toStr_printsCompact (printed json event)
  intro same
  rw [rewriteLine_event event text] at same
  have again := (Option.filter_eq_some_iff.mp event).1
  rw [← same, dataPayload_printed, Option.bind_some, parsed] at again
  exact restored_of_carries distinct event carries (Option.some.inj again)

/-- A line that is passed on is kept, unless the search would have put a model back in it. -/
theorem keepsLine_self {serde : Serde} {mapping : ModelMapping} {searched : Prop} {line : List Char}
    (foreign : searched → carriesBackendModel serde mapping line = false) :
    KeepsLine serde mapping searched line line where
  ending := Iff.rfl
  other _ := rfl
  event json event := by
    obtain ⟨payload, data, parsed⟩ := Option.bind_eq_some_iff.mp (Option.filter_eq_some_iff.mp event).1
    exact ⟨payload, json, data, parsed, fun taken => (restored_of_not_carries event (foreign taken)).symm, fun _ => rfl⟩

theorem rewriteLine_oneLine {serde : Serde} {mapping : ModelMapping} {line : List Char} (oneLine : '\n' ∉ line)
    (printed : ∀ json, eventOf serde line = some json → PrintsCompact serde (restored mapping json)) :
    '\n' ∉ (rewriteLine serde mapping line).text := by
  cases event : eventOf serde line with
  | none => rwa [rewriteLine_other mapping event]
  | some json =>
    obtain ⟨inner, flat, text, _⟩ := toStr_printsCompact (printed json event)
    rw [rewriteLine_event event text]
    simp [flat]

/-- Only an empty line is rewritten to an empty line. -/
theorem rewriteLine_isEmpty {serde : Serde} {mapping : ModelMapping} {line : List Char}
    (printed : ∀ json, eventOf serde line = some json → PrintsCompact serde (restored mapping json)) :
    (rewriteLine serde mapping line).text.isEmpty = line.isEmpty := by
  cases event : eventOf serde line with
  | none => rw [rewriteLine_other mapping event]
  | some json =>
    obtain ⟨inner, _, text, _⟩ := toStr_printsCompact (printed json event)
    rw [rewriteLine_event event text]
    cases line with
    | nil =>
      have bare : dataPayload [] = none := by decide
      rw [eventOf, bare] at event
      cases event
    | cons c rest => rfl

/-! ### The rebuilt chunk -/

theorem intercalate_append (separator before first : List Char) (rest : List (List Char)) :
    separator.intercalate ((before ++ first) :: rest) = before ++ separator.intercalate (first :: rest) := by
  cases rest <;> simp

theorem rebuildLines_begun (serde : Serde) (mapping : ModelMapping) {state : Rebuild} (begun : state.result ≠ [])
    (lines : List (List Char)) :
    (rebuildLines serde mapping state lines).result =
      ['\n'].intercalate (state.result :: lines.map fun line => (rewriteLine serde mapping line).text) := by
  induction lines generalizing state with
  | nil => exact List.intercalate_singleton.symm
  | cons line rest ih =>
    have separated : (if state.result.isEmpty then state.result else state.result ++ ['\n']) = state.result ++ ['\n'] :=
      if_neg fun empty => begun (List.isEmpty_iff.mp empty)
    rw [rebuildLines, separated, ih (by simp), List.map_cons, List.intercalate_cons_cons, intercalate_append]

/-- The lines are put together again without the empty ones at the beginning. -/
theorem rebuildLines_fresh (serde : Serde) (mapping : ModelMapping) (rewritten done : Bool) (lines : List (List Char)) :
    (rebuildLines serde mapping ⟨[], rewritten, done⟩ lines).result =
      ['\n'].intercalate ((lines.map fun line => (rewriteLine serde mapping line).text).dropWhile List.isEmpty) := by
  induction lines generalizing rewritten done with
  | nil => rfl
  | cons line rest ih =>
    have opened : rebuildLines serde mapping ⟨[], rewritten, done⟩ (line :: rest) =
        rebuildLines serde mapping ⟨(rewriteLine serde mapping line).text,
          rewritten || (rewriteLine serde mapping line).rewritten,
          done || (rewriteLine serde mapping line).anthropicDone⟩ rest := rfl
    rw [opened, List.map_cons, List.dropWhile_cons]
    split
    · rename_i empty
      rw [List.isEmpty_iff.mp empty]
      exact ih _ _
    · rename_i nonempty
      exact rebuildLines_begun serde mapping (fun empty => nonempty (List.isEmpty_iff.mpr empty)) rest

theorem head?_newline_iff (text : List Char) :
    text.head? = some '\n' ↔ ∃ line rest, text.splitOn '\n' = [] :: line :: rest := by
  cases text with
  | nil => simp
  | cons c text =>
    obtain ⟨first, rest, pieces⟩ := List.exists_cons_of_ne_nil (List.splitOn_ne_nil '\n' text)
    rw [List.splitOn_cons_eq_if_modifyHead, pieces]
    by_cases newline : c = '\n'
    · exact iff_of_true (congrArg some newline) ⟨first, rest, if_pos (beq_iff_eq.mpr newline)⟩
    · rw [if_neg fun same => newline (beq_iff_eq.mp same)]
      exact iff_of_false (fun same => newline (Option.some.inj same)) (by simp)

/-- The lines as they are printed. -/
def printedLines (serde : Serde) (mapping : ModelMapping) (text : List Char) : List (List Char) :=
  (text.splitOn '\n').map fun line => (rewriteLine serde mapping line).text

theorem rewrites_iff {serde : Serde} {mapping : ModelMapping} {anthropicDone : Bool} {text : List Char} :
    (((!anthropicDone && hasMessageStart (utf8 text)) || hasOpenaiMarker (utf8 text)) &&
      (chunkLines (utf8 text)).any (carriesBackendModel serde mapping)) = true ↔
        Rewrites serde mapping anthropicDone text := by
  rw [chunkLines, fromUtf8Lossy_utf8, Bool.and_eq_true, Bool.or_eq_true, Bool.and_eq_true, Bool.not_eq_true',
    List.any_eq_true, Rewrites, Searched]

theorem rewriteChunk_rewrites {serde : Serde} {mapping : ModelMapping} {anthropicDone : Bool} {text : List Char}
    (rewrites : Rewrites serde mapping anthropicDone text) :
    (rewriteChunk serde mapping anthropicDone (utf8 text)).2 =
      utf8 (['\n'].intercalate ((printedLines serde mapping text).dropWhile List.isEmpty)) := by
  rw [rewriteChunk_output, if_pos (rewrites_iff.mpr rewrites), rebuiltText, rebuildLines_fresh, chunkLines,
    fromUtf8Lossy_utf8]
  rfl

theorem rewriteChunk_passes {serde : Serde} {mapping : ModelMapping} {anthropicDone : Bool} {text : List Char}
    (passes : ¬ Rewrites serde mapping anthropicDone text) :
    (rewriteChunk serde mapping anthropicDone (utf8 text)).2 = utf8 text := by
  rw [rewriteChunk_output, if_neg fun taken => passes (rewrites_iff.mp taken)]

theorem ne_nil_of_carries {serde : Serde} {mapping : ModelMapping} {line : List Char}
    (carries : carriesBackendModel serde mapping line = true) : line ≠ [] := by
  rintro rfl
  have bare : dataPayload [] = none := by decide
  rw [carriesBackendModel, bare] at carries
  cases carries

/-- A list that loses nothing to `dropWhile` has nothing to lose. -/
theorem dropWhile_eq_self_of_length {α : Type} {p : α → Bool} {items : List α}
    (same : (items.dropWhile p).length = items.length) : items.dropWhile p = items :=
  (List.dropWhile_suffix p).eq_of_length same

section
variable {serde : Serde} {mapping : ModelMapping} {anthropicDone : Bool} {text : List Char}

/-- Only a chunk that begins with an empty line loses lines. -/
theorem printedLines_kept_iff (printed : PrintsEvents serde mapping text)
    (rewrites : Rewrites serde mapping anthropicDone text) :
    (printedLines serde mapping text).dropWhile List.isEmpty = printedLines serde mapping text ↔
      text.head? ≠ some '\n' := by
  obtain ⟨first, rest, pieces⟩ := List.exists_cons_of_ne_nil (List.splitOn_ne_nil '\n' text)
  have empty := rewriteLine_isEmpty (printed first (by rw [pieces]; exact List.mem_cons_self))
  rw [ne_eq, head?_newline_iff, printedLines, pieces, List.map_cons, List.dropWhile_cons, empty]
  cases first with
  | cons c first => exact iff_of_true (if_neg Bool.false_ne_true) (by simp)
  | nil =>
    cases rest with
    | nil =>
      obtain ⟨line, member, carries⟩ := rewrites.2
      rw [pieces, List.mem_singleton] at member
      exact absurd member (ne_nil_of_carries carries)
    | cons line rest =>
      rw [if_pos List.isEmpty_nil]
      refine iff_of_false (fun same => ?_) (fun kept => kept ⟨line, rest, rfl⟩)
      have shorter := (List.dropWhile_suffix (l := (line :: rest).map fun line => (rewriteLine serde mapping line).text)
        List.isEmpty).length_le
      rw [same, List.length_cons] at shorter
      omega

theorem splitOn_printedLines (printed : PrintsEvents serde mapping text)
    (rewrites : Rewrites serde mapping anthropicDone text) :
    (['\n'].intercalate ((printedLines serde mapping text).dropWhile List.isEmpty)).splitOn '\n' =
      (printedLines serde mapping text).dropWhile List.isEmpty := by
  refine List.splitOn_intercalate '\n' ?_ ?_
  · intro out listed
    obtain ⟨line, member, rfl⟩ := List.mem_map.mp ((List.dropWhile_suffix _).subset listed)
    exact rewriteLine_oneLine (not_mem_of_mem_splitOn member) (printed line member)
  · intro empty
    obtain ⟨line, member, carries⟩ := rewrites.2
    have blank := List.dropWhile_eq_nil_iff.mp empty _ (List.mem_map_of_mem member)
    rw [rewriteLine_isEmpty (printed line member)] at blank
    exact ne_nil_of_carries carries (List.isEmpty_iff.mp blank)

/-- A chunk with an event that names the backend's model is rewritten to another one. -/
theorem rewritten_ne (distinct : mapping.original ≠ mapping.backend) (printed : PrintsEvents serde mapping text)
    (rewrites : Rewrites serde mapping anthropicDone text) :
    ['\n'].intercalate ((printedLines serde mapping text).dropWhile List.isEmpty) ≠ text := by
  intro same
  have pieces := splitOn_printedLines printed rewrites
  rw [same] at pieces
  have whole : (printedLines serde mapping text).dropWhile List.isEmpty = printedLines serde mapping text := by
    refine dropWhile_eq_self_of_length ?_
    rw [← pieces, printedLines, List.length_map]
  rw [whole, printedLines] at pieces
  obtain ⟨line, member, carries⟩ := rewrites.2
  refine rewriteLine_of_carries distinct carries (printed line member) ?_
  exact List.map_eq_map_iff.mp (pieces.symm.trans (List.map_id _).symm) line member

theorem keepsLine_printedLines_iff {searched : Prop} (taken : searched) (printed : PrintsEvents serde mapping text) :
    List.Forall₂ (KeepsLine serde mapping searched) (text.splitOn '\n') (printedLines serde mapping text) ↔
      ∀ line ∈ text.splitOn '\n', (eventOf serde line).isSome = true → line.getLast? ≠ some '\r' := by
  rw [printedLines, List.forall₂_map_right_iff, List.forall₂_same]
  exact forall₂_congr fun line member => keepsLine_rewriteLine_iff taken (printed line member)

theorem rebuildable_of_keepsLines (printed : PrintsEvents serde mapping text)
    (rewrites : Rewrites serde mapping anthropicDone text) (keeps : KeepsLines serde mapping anthropicDone text) :
    Rebuildable serde text := by
  obtain ⟨out, output, pairs⟩ := keeps
  rw [rewriteChunk_rewrites rewrites] at output
  rw [← utf8_injective output, splitOn_printedLines printed rewrites] at pairs
  have whole : (printedLines serde mapping text).dropWhile List.isEmpty = printedLines serde mapping text := by
    refine dropWhile_eq_self_of_length (pairs.length_eq.symm.trans ?_)
    rw [printedLines, List.length_map]
  rw [whole] at pairs
  exact ⟨(printedLines_kept_iff printed rewrites).mp whole, (keepsLine_printedLines_iff rewrites.1 printed).mp pairs⟩

/-- A chunk keeps its lines exactly when it is passed on as it is, or does not begin with an empty
line and has no event that ends in a carriage return. -/
theorem keepsLines_iff (serde : Serde) (mapping : ModelMapping) (anthropicDone : Bool) (text : List Char)
    (printed : PrintsEvents serde mapping text) :
    KeepsLines serde mapping anthropicDone text ↔
      (Rewrites serde mapping anthropicDone text → Rebuildable serde text) := by
  by_cases rewrites : Rewrites serde mapping anthropicDone text
  · rw [imp_iff_right rewrites]
    refine ⟨rebuildable_of_keepsLines printed rewrites, fun rebuildable => ⟨_, rewriteChunk_rewrites rewrites, ?_⟩⟩
    rw [splitOn_printedLines printed rewrites, (printedLines_kept_iff printed rewrites).mpr rebuildable.begins]
    exact (keepsLine_printedLines_iff rewrites.1 printed).mpr rebuildable.ends
  · refine iff_of_true ⟨text, rewriteChunk_passes rewrites, ?_⟩ fun taken => absurd taken rewrites
    refine List.forall₂_same.mpr fun line member => keepsLine_self fun searched => ?_
    exact Bool.eq_false_iff.mpr fun carries => rewrites ⟨searched, line, member, carries⟩

end

/-! ### One event -/

def startEvent (model : String) : Json :=
  .object [("message", .object [("model", .string model)]), ("type", .string "message_start")]

/-- The event's text between the braces. -/
def startInner (model : String) : List Char :=
  ("\"message\":\x7b\"model\":\"" ++ model ++ "\"\x7d,\"type\":\"message_start\"").toList

def startText (model : String) : List Char := '\x7b' :: (startInner model ++ ['\x7d'])

def startSerde : Serde :=
  .ofTexts (utf8 (startText "glm-5"), startEvent "glm-5") (utf8 (startText "opus"), startEvent "opus")

def startMapping : ModelMapping := ⟨"glm-5", "opus"⟩

theorem startEvent_prints : PrintsCompact startSerde (restored startMapping (startEvent "glm-5")) :=
  ⟨startInner "opus", by decide +kernel, rfl, Serde.ofTexts_second (by decide +kernel)⟩

def startChunk : List Char := "event: message_start\ndata: ".toList ++ startText "glm-5" ++ "\n\n".toList

theorem startChunk_lines :
    startChunk.splitOn '\n' = ["event: message_start".toList, "data: ".toList ++ startText "glm-5", [], []] := by
  decide +kernel

theorem eventOf_startText : eventOf startSerde ("data: ".toList ++ startText "glm-5") = some (startEvent "glm-5") := by
  rfl

theorem startChunk_events : ∀ line ∈ startChunk.splitOn '\n',
    eventOf startSerde line = none ∨ line = "data: ".toList ++ startText "glm-5" := by
  have field : eventOf startSerde "event: message_start".toList = none := by rfl
  have blank : eventOf startSerde [] = none := by rfl
  rw [startChunk_lines]
  exact List.forall_mem_cons.mpr ⟨.inl field, List.forall_mem_cons.mpr ⟨.inr rfl,
    List.forall_mem_cons.mpr ⟨.inl blank, List.forall_mem_singleton.mpr (.inl blank)⟩⟩⟩

theorem startChunk_prints : PrintsEvents startSerde startMapping startChunk := by
  intro line listed json event
  obtain none | rfl := startChunk_events line listed
  · cases none.symm.trans event
  · cases eventOf_startText.symm.trans event
    exact startEvent_prints

theorem startChunk_keepsLines : KeepsLines startSerde startMapping false startChunk := by
  refine (keepsLines_iff startSerde startMapping false startChunk startChunk_prints).mpr fun _ => ⟨by decide +kernel, ?_⟩
  intro line listed event
  obtain none | rfl := startChunk_events line listed
  · rw [none] at event
    cases event
  · decide +kernel

/-- A blank line that begins a chunk, such as the second half of a separator, is swallowed. -/
theorem blank_line_swallowed :
    ¬ ∀ serde mapping anthropicDone text, PrintsEvents serde mapping text →
      KeepsLines serde mapping anthropicDone text := by
  intro keeps
  have lines : ('\n' :: startChunk).splitOn '\n' = [] :: startChunk.splitOn '\n' := by
    rw [List.splitOn_cons_eq_if_modifyHead, if_pos (beq_self_eq_true _)]
  have printed : PrintsEvents startSerde startMapping ('\n' :: startChunk) := by
    rw [PrintsEvents, lines]
    exact List.forall_mem_cons.mpr ⟨fun _ event => (nomatch event), startChunk_prints⟩
  have rewrites : Rewrites startSerde startMapping false ('\n' :: startChunk) := by
    refine ⟨.inl ⟨rfl, by decide +kernel⟩, "data: ".toList ++ startText "glm-5", ?_, by rfl⟩
    rw [lines, startChunk_lines]
    decide +kernel
  exact (rebuildable_of_keepsLines printed rewrites (keeps _ _ false _ printed)).begins rfl

end Anycode.Pipeline
