import Anycode.Thinking.Stream

/-!
# Reassembled blocks

What the blocks of a stream say, read off the events of each index by themselves, and that the
registry's loop over all of them registers exactly that.
-/

namespace Anycode.Thinking
open Data

/-! ### Reading one event -/

/-- What an event says about the blocks of the stream. -/
inductive Reading where
  | start (text : String)
  | redacted (data : String)
  | delta (part : String)
  | stop
  | other
  deriving DecidableEq

def readStart (block : Json) : Reading :=
  if block.strAt "type" = some "thinking" then .start ((block.strAt "thinking").getD "")
  else if block.strAt "type" = some "redacted_thinking" then ((block.strAt "data").map .redacted).getD .other
  else .other

def readDelta (delta : Json) : Reading :=
  if delta.strAt "type" = some "thinking_delta" then ((delta.strAt "thinking").map .delta).getD .other else .other

def SseEvent.reading (event : SseEvent) : Reading :=
  if event.eventType = "content_block_start" then ((event.data.get "content_block").map readStart).getD .other
  else if event.eventType = "content_block_delta" then ((event.data.get "delta").map readDelta).getD .other
  else if event.eventType = "content_block_stop" then .stop
  else .other

/-! ### The reference -/

/-- The thinking deltas up to the stop, put together; the events are those of one index. -/
def deltaText : List SseEvent → String
  | [] => ""
  | event :: rest =>
    match event.reading with
    | .stop => ""
    | .delta part => part ++ deltaText rest
    | _ => deltaText rest

/-- The texts of the thinking blocks of one index. -/
def thinkingTexts : List SseEvent → List String
  | [] => []
  | event :: rest =>
    match event.reading with
    | .start text => (text ++ deltaText rest) :: thinkingTexts rest
    | _ => thinkingTexts rest

def redactedData : List SseEvent → List String
  | [] => []
  | event :: rest =>
    match event.reading with
    | .redacted data => data :: redactedData rest
    | _ => redactedData rest

/-- The contents that the stream's blocks have: what each index says, whatever comes between, and
the redacted blocks. -/
def Carries (events : List SseEvent) (content : String) : Prop :=
  (content ≠ "" ∧ ∃ index, content ∈ thinkingTexts (atIndex index events)) ∨ content ∈ redactedData events

/-- No block of the index is started before a stop of the index. -/
def Unstarted (index : UInt64) (events : List SseEvent) : Prop :=
  ∀ before event after, events = before ++ event :: after → event.eventType = "content_block_start" →
    event.index = some index → ∃ stop ∈ before, stop.eventType = "content_block_stop" ∧ stop.index = some index

/-- Each index is started at most once before it is stopped. -/
def StartedOnce (events : List SseEvent) : Prop :=
  ∀ before event after index, events = before ++ event :: after → event.eventType = "content_block_start" →
    event.index = some index → Unstarted index after

theorem startedOnce_nil : StartedOnce [] := fun _ _ _ _ split => absurd split.symm (by simp)

theorem unstarted_nil (index : UInt64) : Unstarted index [] := fun _ _ _ split => absurd split.symm (by simp)

theorem startedOnce_cons {event : SseEvent} {rest : List SseEvent} :
    StartedOnce (event :: rest) ↔
      (∀ index, event.eventType = "content_block_start" → event.index = some index → Unstarted index rest) ∧
        StartedOnce rest := by
  constructor
  · intro once
    refine ⟨fun index => once [] event rest index rfl, ?_⟩
    intro before later after index split
    exact once (event :: before) later after index (by rw [split, List.cons_append])
  · rintro ⟨now, later⟩ before starter after index split
    cases before with
    | nil =>
      cases split
      exact now index
    | cons first before =>
      obtain ⟨rfl, tail⟩ := List.cons_eq_cons.mp (split.trans List.cons_append)
      exact later before starter after index tail

theorem unstarted_cons {event : SseEvent} {rest : List SseEvent} {index : UInt64} :
    Unstarted index (event :: rest) ↔
      (event.eventType = "content_block_start" → event.index ≠ some index) ∧
        (event.eventType = "content_block_stop" ∧ event.index = some index ∨ Unstarted index rest) := by
  constructor
  · intro unstarted
    constructor
    · intro starts found
      obtain ⟨stop, listed, _⟩ := unstarted [] event rest rfl starts found
      cases listed
    · by_cases stops : event.eventType = "content_block_stop" ∧ event.index = some index
      · exact .inl stops
      · refine .inr fun before starter after split starts found => ?_
        obtain ⟨stop, listed, ends⟩ := unstarted (event :: before) starter after
          (by rw [split, List.cons_append]) starts found
        obtain rfl | listed := List.mem_cons.mp listed
        · exact absurd ends stops
        · exact ⟨stop, listed, ends⟩
  · rintro ⟨now, later⟩ before starter after split starts found
    cases before with
    | nil =>
      cases split
      exact absurd found (now starts)
    | cons first before =>
      obtain ⟨rfl, tail⟩ := List.cons_eq_cons.mp (split.trans List.cons_append)
      obtain stops | later := later
      · exact ⟨event, List.mem_cons_self, stops⟩
      · obtain ⟨stop, listed, ends⟩ := later before starter after tail starts found
        exact ⟨stop, List.mem_cons_of_mem _ listed, ends⟩

/-! ### One event -/

theorem readDelta_cases (delta : Json) : readDelta delta = .other ∨ ∃ part, readDelta delta = .delta part := by
  unfold readDelta
  split
  · cases delta.strAt "thinking" with
    | none => exact .inl rfl
    | some part => exact .inr ⟨part, rfl⟩
  · exact .inl rfl

theorem eventType_of_start {event : SseEvent} {text : String} (read : event.reading = .start text) :
    event.eventType = "content_block_start" := by
  by_contra other
  rw [SseEvent.reading, if_neg other] at read
  split at read
  · cases found : event.data.get "delta" with
    | none =>
      rw [found] at read
      cases read
    | some delta =>
      rw [found, Option.map_some, Option.getD_some] at read
      obtain idle | ⟨part, said⟩ := readDelta_cases delta
      · cases idle.symm.trans read
      · cases said.symm.trans read
  · split at read <;> cases read

theorem reading_of_stop {event : SseEvent} (stops : event.eventType = "content_block_stop") : event.reading = .stop := by
  rw [SseEvent.reading, stops]
  rfl

/-- The loop's step, by what is read off the event. -/
theorem sseEvent_reading (accumulators : Accumulators) (event : SseEvent) :
    sseEvent accumulators event =
      match event.reading, event.index with
      | .redacted data, _ => (accumulators, some data)
      | .start text, some index => (accumulators.insert index text, none)
      | .delta part, some index => (accumulators.modify index (· ++ part), none)
      | .stop, some index =>
        match accumulators.find index with
        | none => (accumulators, none)
        | some text => (accumulators.erase index, if text.isEmpty then none else some text)
      | _, _ => (accumulators, none) := by
  unfold sseEvent SseEvent.reading
  by_cases start : event.eventType = "content_block_start"
  · simp only [if_pos start]
    cases event.data.get "content_block" with
    | none => rfl
    | some block =>
      simp only [Option.map_some, Option.getD_some, readStart]
      split
      · cases event.index <;> rfl
      · split
        · cases block.strAt "data" <;> rfl
        · rfl
  · simp only [if_neg start]
    by_cases delta : event.eventType = "content_block_delta"
    · simp only [if_pos delta]
      cases event.data.get "delta" with
      | none => rfl
      | some part =>
        simp only [Option.map_some, Option.getD_some, readDelta]
        split
        · cases event.index <;> cases part.strAt "thinking" <;> rfl
        · rfl
    · simp only [if_neg delta]
      split
      · cases event.index <;> rfl
      · rfl

/-! ### What a reading does to an index -/

theorem deltaText_quiet {event : SseEvent} {rest : List SseEvent} {index : UInt64}
    (quiet : event.index = some index → event.reading ≠ .stop ∧ ∀ part, event.reading ≠ .delta part) :
    deltaText (atIndex index (event :: rest)) = deltaText (atIndex index rest) := by
  by_cases found : event.index = some index
  · obtain ⟨runs, silent⟩ := quiet found
    rw [ThinkingRegistry.atIndex_cons_same rest found, deltaText]
    split
    · rename_i stops
      exact absurd stops runs
    · rename_i part spoken
      exact absurd spoken (silent part)
    · rfl
  · rw [ThinkingRegistry.atIndex_cons_other rest found]

theorem thinkingTexts_quiet {event : SseEvent} {rest : List SseEvent} {index : UInt64}
    (quiet : event.index = some index → ∀ text, event.reading ≠ .start text) :
    thinkingTexts (atIndex index (event :: rest)) = thinkingTexts (atIndex index rest) := by
  by_cases found : event.index = some index
  · rw [ThinkingRegistry.atIndex_cons_same rest found, thinkingTexts]
    split
    · rename_i text starts
      exact absurd starts (quiet found text)
    · rfl
  · rw [ThinkingRegistry.atIndex_cons_other rest found]

theorem redactedData_plain {event : SseEvent} {rest : List SseEvent} (plain : ∀ data, event.reading ≠ .redacted data) :
    redactedData (event :: rest) = redactedData rest := by
  rw [redactedData]
  split
  · rename_i data read
    exact absurd read (plain data)
  · rfl

/-- What the open block of an index comes to, if there is one. -/
def openText (accumulators : Accumulators) (events : List SseEvent) (index : UInt64) : Option String :=
  (accumulators.find index).map (· ++ deltaText (atIndex index events))

theorem openText_quiet {accumulators : Accumulators} {event : SseEvent} {rest : List SseEvent} {index : UInt64}
    (quiet : event.index = some index → event.reading ≠ .stop ∧ ∀ part, event.reading ≠ .delta part) :
    openText accumulators (event :: rest) index = openText accumulators rest index := by
  rw [openText, openText, deltaText_quiet quiet]

namespace ThinkingRegistry

/-- The contents that the loop registers from the accumulators on, and those it flushes at the end. -/
def contentsFrom (accumulators : Accumulators) (events : List SseEvent) : List String :=
  (sseBlocks accumulators events).1 ++ remainingContents (sseBlocks accumulators events).2

theorem contentsFrom_cons (accumulators : Accumulators) (event : SseEvent) (rest : List SseEvent) :
    contentsFrom accumulators (event :: rest) =
      (sseEvent accumulators event).2.toList ++ contentsFrom (sseEvent accumulators event).1 rest :=
  List.append_assoc _ _ _

theorem mem_remainingContents {accumulators : Accumulators} (distinct : accumulators.Distinct) {content : String} :
    content ∈ remainingContents accumulators ↔ content ≠ "" ∧ ∃ index, accumulators.find index = some content := by
  have nonempty : (!content.isEmpty) = true ↔ content ≠ "" := by simp
  simp only [remainingContents, List.mem_filter, nonempty, List.mem_map, Prod.exists, distinct.find_eq_some,
    exists_eq_right]
  exact and_comm

/-- What is registered from the accumulators on: the open blocks, the blocks still to come, and the
redacted ones. -/
def Remains (accumulators : Accumulators) (events : List SseEvent) (content : String) : Prop :=
  (content ≠ "" ∧ ((∃ index, openText accumulators events index = some content) ∨
      ∃ index, content ∈ thinkingTexts (atIndex index events))) ∨
    content ∈ redactedData events

theorem remains_idle {accumulators : Accumulators} {event : SseEvent} {rest : List SseEvent} {content : String}
    (idle : ∀ index, event.index = some index →
      event.reading ≠ .stop ∧ (∀ part, event.reading ≠ .delta part) ∧ ∀ text, event.reading ≠ .start text)
    (plain : ∀ data, event.reading ≠ .redacted data) :
    Remains accumulators (event :: rest) content ↔ Remains accumulators rest content := by
  have texts (index : UInt64) : thinkingTexts (atIndex index (event :: rest)) = thinkingTexts (atIndex index rest) :=
    thinkingTexts_quiet fun found => (idle index found).2.2
  have opened (index : UInt64) : openText accumulators (event :: rest) index = openText accumulators rest index :=
    openText_quiet fun found => ⟨(idle index found).1, (idle index found).2.1⟩
  simp only [Remains, texts, opened, redactedData_plain plain]

theorem remains_redacted {accumulators : Accumulators} {event : SseEvent} {rest : List SseEvent} {content data : String}
    (read : event.reading = .redacted data) :
    Remains accumulators (event :: rest) content ↔ content = data ∨ Remains accumulators rest content := by
  have texts (index : UInt64) : thinkingTexts (atIndex index (event :: rest)) = thinkingTexts (atIndex index rest) :=
    thinkingTexts_quiet fun _ => by rw [read]; nofun
  have opened (index : UInt64) : openText accumulators (event :: rest) index = openText accumulators rest index :=
    openText_quiet fun _ => by rw [read]; exact ⟨nofun, nofun⟩
  have redacted : redactedData (event :: rest) = data :: redactedData rest := by rw [redactedData, read]
  simp only [Remains, texts, opened, redacted, List.mem_cons, or_left_comm]

theorem remains_start {accumulators : Accumulators} {event : SseEvent} {rest : List SseEvent} {content text : String}
    {own : UInt64} (read : event.reading = .start text) (found : event.index = some own)
    (closed : accumulators.find own = none) :
    Remains accumulators (event :: rest) content ↔ Remains (accumulators.insert own text) rest content := by
  have plain : ∀ data, event.reading ≠ .redacted data := by rw [read]; nofun
  have opened (index : UInt64) : openText (accumulators.insert own text) rest index =
      if index = own then some (text ++ deltaText (atIndex own rest)) else openText accumulators (event :: rest) index := by
    rw [openText, Assoc.find_insert]
    split
    · rename_i same
      rw [same, Option.map_some]
    · exact (openText_quiet fun _ => by rw [read]; exact ⟨nofun, nofun⟩).symm
  have unopened : openText accumulators (event :: rest) own = none := by rw [openText, closed, Option.map_none]
  have own_texts : thinkingTexts (atIndex own (event :: rest)) =
      (text ++ deltaText (atIndex own rest)) :: thinkingTexts (atIndex own rest) := by
    rw [atIndex_cons_same rest found, thinkingTexts, read]
  have other_texts (index : UInt64) (other : index ≠ own) :
      thinkingTexts (atIndex index (event :: rest)) = thinkingTexts (atIndex index rest) :=
    thinkingTexts_quiet fun same => absurd (Option.some.inj (same.symm.trans found)) other
  rw [Remains, Remains, redactedData_plain plain]
  refine or_congr_left (and_congr_right fun _ => ⟨?_, ?_⟩)
  · rintro (⟨index, said⟩ | ⟨index, said⟩)
    · have other : index ≠ own := fun same => nomatch (same ▸ said).symm.trans unopened
      exact .inl ⟨index, by rw [opened, if_neg other, said]⟩
    · by_cases same : index = own
      · subst same
        rw [own_texts] at said
        obtain here | later := List.mem_cons.mp said
        · exact .inl ⟨index, by rw [opened, if_pos rfl, here]⟩
        · exact .inr ⟨index, later⟩
      · exact .inr ⟨index, other_texts index same ▸ said⟩
  · rintro (⟨index, said⟩ | ⟨index, said⟩)
    · rw [opened] at said
      split at said
      · exact .inr ⟨own, by rw [own_texts, ← Option.some.inj said]; exact List.mem_cons_self⟩
      · exact .inl ⟨index, said⟩
    · by_cases same : index = own
      · subst same
        exact .inr ⟨index, by rw [own_texts]; exact List.mem_cons_of_mem _ said⟩
      · exact .inr ⟨index, (other_texts index same).symm ▸ said⟩

theorem remains_delta {accumulators : Accumulators} {event : SseEvent} {rest : List SseEvent} {content part : String}
    {own : UInt64} (read : event.reading = .delta part) (found : event.index = some own) :
    Remains accumulators (event :: rest) content ↔ Remains (accumulators.modify own (· ++ part)) rest content := by
  have plain : ∀ data, event.reading ≠ .redacted data := by rw [read]; nofun
  have texts (index : UInt64) : thinkingTexts (atIndex index (event :: rest)) = thinkingTexts (atIndex index rest) :=
    thinkingTexts_quiet fun _ => by rw [read]; nofun
  have opened (index : UInt64) :
      openText (accumulators.modify own (· ++ part)) rest index = openText accumulators (event :: rest) index := by
    rw [openText, openText, Assoc.find_modify]
    split
    · rename_i same
      rw [same, atIndex_cons_same rest found, deltaText, read, Option.map_map]
      exact congrArg (fun f => Option.map f _) (funext fun text => String.append_assoc)
    · rename_i other
      rw [atIndex_cons_other rest fun same => other (Option.some.inj (same.symm.trans found))]
  simp only [Remains, texts, opened, redactedData_plain plain]

theorem remains_stop {accumulators : Accumulators} {event : SseEvent} {rest : List SseEvent} {content : String}
    {own : UInt64} (read : event.reading = .stop) (found : event.index = some own) :
    Remains accumulators (event :: rest) content ↔
      (content ≠ "" ∧ accumulators.find own = some content) ∨ Remains (accumulators.erase own) rest content := by
  have plain : ∀ data, event.reading ≠ .redacted data := by rw [read]; nofun
  have texts (index : UInt64) : thinkingTexts (atIndex index (event :: rest)) = thinkingTexts (atIndex index rest) :=
    thinkingTexts_quiet fun _ => by rw [read]; nofun
  have ended : openText accumulators (event :: rest) own = accumulators.find own := by
    rw [openText, atIndex_cons_same rest found, deltaText, read]
    simp
  have opened (index : UInt64) : openText (accumulators.erase own) rest index =
      if index = own then none else openText accumulators (event :: rest) index := by
    rw [openText, Assoc.find_erase]
    split
    · rfl
    · rename_i other
      rw [openText, atIndex_cons_other rest fun same => other (Option.some.inj (same.symm.trans found))]
  have split : (∃ index, openText accumulators (event :: rest) index = some content) ↔
      accumulators.find own = some content ∨ ∃ index, openText (accumulators.erase own) rest index = some content := by
    simp only [opened, ← ended]
    constructor
    · intro said
      obtain ⟨index, said⟩ := said
      by_cases same : index = own
      · exact .inl (same ▸ said)
      · exact .inr ⟨index, by rw [if_neg same, said]⟩
    · rintro (said | ⟨index, said⟩)
      · exact ⟨own, said⟩
      · split at said
        · cases said
        · exact ⟨index, said⟩
  simp only [Remains, texts, split, redactedData_plain plain, or_assoc, and_or_left]

/-- An event registers what it completes, and leaves the rest to the accumulators after it. -/
theorem remains_cons {accumulators : Accumulators} {event : SseEvent} {rest : List SseEvent} {content : String}
    (closed : ∀ text index, event.reading = .start text → event.index = some index → accumulators.find index = none) :
    Remains accumulators (event :: rest) content ↔
      content ∈ (sseEvent accumulators event).2.toList ∨ Remains (sseEvent accumulators event).1 rest content := by
  rw [sseEvent_reading]
  cases read : event.reading with
  | redacted data => simpa using remains_redacted read
  | other => simpa using remains_idle (fun _ _ => by rw [read]; exact ⟨nofun, nofun, nofun⟩) (by rw [read]; nofun)
  | start text =>
    cases found : event.index with
    | none => simpa using remains_idle (by rw [found]; nofun) (by rw [read]; nofun)
    | some own => simpa using remains_start read found (closed text own read found)
  | delta part =>
    cases found : event.index with
    | none => simpa using remains_idle (by rw [found]; nofun) (by rw [read]; nofun)
    | some own => simpa using remains_delta read found
  | stop =>
    cases found : event.index with
    | none => simpa using remains_idle (by rw [found]; nofun) (by rw [read]; nofun)
    | some own =>
      rw [remains_stop read found]
      dsimp only
      cases opened : accumulators.find own with
      | none => simp [Assoc.erase_absent opened]
      | some text =>
        have completed : content ∈ (if text.isEmpty then none else some text).toList ↔
            content ≠ "" ∧ some text = some content := by
          split
          · rename_i empty
            rw [String.isEmpty_iff.mp empty]
            exact iff_of_false (List.not_mem_nil) fun said => said.1 (Option.some.inj said.2).symm
          · rename_i nonempty
            rw [Option.mem_toList]
            refine ⟨fun same => ⟨?_, same⟩, fun said => said.2⟩
            rintro rfl
            exact nonempty (String.isEmpty_iff.mpr (Option.some.inj same))
        rw [completed]

theorem sseEvent_distinct {accumulators : Accumulators} {event : SseEvent} (distinct : accumulators.Distinct)
    (closed : ∀ text index, event.reading = .start text → event.index = some index → accumulators.find index = none) :
    (sseEvent accumulators event).1.Distinct := by
  rw [sseEvent_reading]
  split
  · exact distinct
  · rename_i text index read found
    exact distinct.insert (closed text index read found) text
  · exact distinct.modify _ _
  · split
    · exact distinct
    · exact distinct.erase _
  · exact distinct

/-- An index that has an open block after the event is not started again before its stop. -/
theorem sseEvent_unstarted {accumulators : Accumulators} {event : SseEvent} {rest : List SseEvent}
    (once : StartedOnce (event :: rest))
    (unstarted : ∀ index, accumulators.find index ≠ none → Unstarted index (event :: rest)) :
    ∀ index, (sseEvent accumulators event).1.find index ≠ none → Unstarted index rest := by
  intro index opened
  by_cases found : event.index = some index
  · have runs (going : event.reading ≠ .stop) (held : accumulators.find index ≠ none) : Unstarted index rest :=
      (unstarted_cons.mp (unstarted index held)).2.resolve_left fun stops => going (reading_of_stop stops.1)
    rw [sseEvent_reading, found] at opened
    cases read : event.reading with
    | start text => exact (startedOnce_cons.mp once).1 index (eventType_of_start read) found
    | stop =>
      rw [read] at opened
      dsimp only at opened
      cases ended : accumulators.find index with
      | none => simp [ended] at opened
      | some text => simp [ended, Assoc.find_erase] at opened
    | delta part =>
      rw [read] at opened
      refine runs (by rw [read]; nofun) fun closed => opened ?_
      rw [Assoc.find_modify, if_pos rfl, closed, Option.map_none]
    | redacted data =>
      rw [read] at opened
      exact runs (by rw [read]; nofun) opened
    | other =>
      rw [read] at opened
      exact runs (by rw [read]; nofun) opened
  · rw [sseEvent_other accumulators found] at opened
    exact (unstarted_cons.mp (unstarted index opened)).2.resolve_left fun stops => found stops.2

theorem mem_contentsFrom {accumulators : Accumulators} {events : List SseEvent} (distinct : accumulators.Distinct)
    (once : StartedOnce events)
    (unstarted : ∀ index, accumulators.find index ≠ none → Unstarted index events) {content : String} :
    content ∈ contentsFrom accumulators events ↔ Remains accumulators events content := by
  induction events generalizing accumulators with
  | nil =>
    have text (index : UInt64) : openText accumulators [] index = accumulators.find index := by
      simp [openText, atIndex, deltaText]
    simp [contentsFrom, sseBlocks, mem_remainingContents distinct, Remains, text, atIndex, thinkingTexts, redactedData]
  | cons event rest ih =>
    have closed : ∀ text index, event.reading = .start text → event.index = some index →
        accumulators.find index = none := by
      intro text index read found
      by_contra opened
      exact (unstarted_cons.mp (unstarted index opened)).1 (eventType_of_start read) found
    rw [contentsFrom_cons, List.mem_append, remains_cons closed,
      ih (sseEvent_distinct distinct closed) (startedOnce_cons.mp once).2 (sseEvent_unstarted once unstarted)]

theorem mem_sseContents_iff {events : List SseEvent} (once : StartedOnce events) {content : String} :
    content ∈ sseContents events ↔ Carries events content := by
  have empty : Assoc.Distinct ([] : Accumulators) := List.nodup_nil
  have remains := @mem_contentsFrom [] events empty once (fun _ opened => absurd rfl opened) content
  simp only [Remains, openText, Assoc.find, Option.map_none, reduceCtorEq, exists_const, false_or] at remains
  exact remains

variable {H : Type} [DecidableEq H] (fastHash : String → H)

/-- The cache holds what it held, and the carried contents under the session, which keeps the
entries that it had. -/
structure Registers (before : ThinkingRegistry H) (events : List SseEvent) (sessionId now : Nat)
    (after : ThinkingRegistry H) : Prop where
  added : ∀ content, Carries events content →
    (∀ info, before.blocks.get (fastHash content) = some info → info.session ≠ sessionId) →
      after.blocks.get (fastHash content) = some ⟨sessionId, false, now⟩
  kept : ∀ hash info, before.blocks.get hash = some info → info.session = sessionId →
    after.blocks.get hash = some info
  others : ∀ hash, (∀ content, Carries events content → fastHash content ≠ hash) →
    after.blocks.get hash = before.blocks.get hash
  frame : after = { before with blocks := after.blocks }

/-- Two streams whose blocks read the same, index by index, however they are split and interleaved. -/
structure SameBlocks (first second : List SseEvent) : Prop where
  thinking : ∀ index, thinkingTexts (atIndex index first) = thinkingTexts (atIndex index second)
  redacted : (redactedData first).Perm (redactedData second)

theorem registerFromSseStream_registers (r : ThinkingRegistry H) {events : List SseEvent} (once : StartedOnce events)
    (sessionId now : Nat) :
    Registers fastHash r events sessionId now (r.registerFromSseStream fastHash events sessionId now) := by
  rw [registerFromSseStream_eq]
  have looked (hash : H) := registerBlocks_get fastHash r (sseContents events) sessionId now hash
  constructor
  · intro content carried foreign
    rw [looked, if_pos (List.mem_map_of_mem ((mem_sseContents_iff once).mpr carried))]
    cases found : r.blocks.get (fastHash content) with
    | none => rfl
    | some info => rw [registeredInfo, if_neg (foreign info found)]
  · intro hash info found own
    rw [looked, found, registeredInfo_own own, ite_self]
  · intro hash uncarried
    rw [looked, if_neg]
    intro listed
    obtain ⟨content, carried, same⟩ := List.mem_map.mp listed
    exact uncarried content ((mem_sseContents_iff once).mp carried) same
  · obtain ⟨blocks, framed⟩ := registerBlocks_frame fastHash r (sseContents events) sessionId now
    rw [framed]

/-- A stream that starts each index at most once before its stop registers what its blocks say, and
what it registers is settled by what each index says. -/
theorem registerFromSseStream_eq_reference (r : ThinkingRegistry H) (sessionId now : Nat) {events : List SseEvent}
    (once : StartedOnce events) :
    Registers fastHash r events sessionId now (r.registerFromSseStream fastHash events sessionId now) ∧
      ∀ other, StartedOnce other → SameBlocks events other →
        r.registerFromSseStream fastHash other sessionId now = r.registerFromSseStream fastHash events sessionId now := by
  refine ⟨registerFromSseStream_registers fastHash r once sessionId now, ?_⟩
  intro other otherOnce same
  rw [registerFromSseStream_eq, registerFromSseStream_eq]
  refine registerBlocks_congr fastHash fun content => ?_
  simp only [mem_sseContents_iff otherOnce, mem_sseContents_iff once, Carries, same.thinking, same.redacted.mem_iff]

/-- Two interleaved blocks, the second of them cut off. -/
def cutOff : List SseEvent :=
  [.start 0 (thinkingBlock "a" ""), .start 1 (thinkingBlock "" ""), .delta 1 (.thinking "x"), .delta 0 (.thinking "b"),
    .delta 0 (.signature "s"), .stop 0, .delta 1 (.thinking "y")]

theorem cutOff_registers :
    (registerFromSseStream id new cutOff 7 3).blocks.get "xy" = some ⟨7, false, 3⟩ := by
  have once : StartedOnce cutOff := by
    simp [cutOff, startedOnce_cons, startedOnce_nil, unstarted_cons, unstarted_nil]
  have carried : Carries cutOff "xy" := .inl ⟨by decide, 1, by decide +kernel⟩
  exact (registerFromSseStream_eq_reference id new 7 3 once).1.added "xy" carried nofun

end ThinkingRegistry

end Anycode.Thinking
