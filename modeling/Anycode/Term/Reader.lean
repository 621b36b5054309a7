import Anycode.Data.Run
import Anycode.Term.Segmentation

/-!
# Reading from the terminal

`TtyReader::read` and the events thread that calls it. What the terminal answers is given: the
results of `select` and of `read`, one after another, each an error where it is `none`. A call
that finds no answer left blocks.
-/

namespace Anycode.Term
open Data InputParser

/-- Why a call returns no event and no timeout. -/
inductive Halt where
  | panicked (panic : Panic)
  | closed
  | failed
  | blocked

/-- The keys that macOS says are held; nowhere else are there any. -/
structure Modifiers where
  option : Bool := false
  shift : Bool := false
  deriving DecidableEq

/-- `taken` is what has been read so far. -/
structure TtyReader where
  parser : InputParser := {}
  pending : List InputEvent := []
  selects : List (Option Bool)
  reads : List (Option (List UInt8))
  taken : List UInt8 := []

def InputParser.hasPending (p : InputParser) : Bool :=
  match p.state with
  | .ground | .pasteBuf => false
  | _ => true

def InputParser.isInPaste (p : InputParser) : Bool :=
  match p.state with
  | .pasteBuf => true
  | _ => false

def enrichWithModifiers (modifiers : Modifiers) : InputEvent → InputEvent
  | .key ⟨raw, .backspace⟩ =>
    if modifiers.option then .key ⟨[esc, 0x7f], .alt .backspace⟩ else .key ⟨raw, .backspace⟩
  | .key ⟨raw, .enter⟩ =>
    if modifiers.shift then .key ⟨esc :: "[13;2u".toList.map Char.toUInt8, .enter⟩ else .key ⟨raw, .enter⟩
  | event => event

namespace TtyReader

/-- What a part of a call returns, and the reader it leaves. -/
abbrev Result (α : Type) := Except Halt α × TtyReader

def andThen {α β : Type} (result : Result α) (next : α → TtyReader → Result β) : Result β :=
  match result with
  | (.ok value, r) => next value r
  | (.error halt, r) => (.error halt, r)

def select (r : TtyReader) : Result Bool :=
  match r.selects with
  | [] => (.error .blocked, r)
  | none :: rest => (.error .failed, { r with selects := rest })
  | some ready :: rest => (.ok ready, { r with selects := rest })

def feed (r : TtyReader) (data : List UInt8) : Result Unit :=
  match r.parser.feed data with
  | .error panic => (.error (.panicked panic), r)
  | .ok (parser, events) => (.ok (), { r with parser := parser, pending := r.pending ++ events, taken := r.taken ++ data })

/-- No bytes are the end of the terminal, which only some calls look for. -/
def readAndFeed (r : TtyReader) (endFails : Bool) : Result Unit :=
  match r.reads with
  | [] => (.error .blocked, r)
  | none :: rest => (.error .failed, { r with reads := rest })
  | some [] :: rest => (if endFails then .error .closed else .ok (), { r with reads := rest })
  | some (byte :: data) :: rest => ({ r with reads := rest } : TtyReader).feed (byte :: data)

def flush (r : TtyReader) : TtyReader :=
  { r with parser := r.parser.flush.1, pending := r.pending ++ r.parser.flush.2 }

/-- A paste is read to its end, however long it takes. Each round takes one of the answers. -/
def readPaste : List (Option (List UInt8)) → TtyReader → Result Unit
  | [], r => if r.parser.isInPaste then r.readAndFeed true else (.ok (), r)
  | _ :: rest, r => if r.parser.isInPaste then andThen (r.readAndFeed true) fun _ r => readPaste rest r else (.ok (), r)

/-- A sequence that has begun goes on within two milliseconds, or it ends there. -/
def escTimeout (r : TtyReader) : Result Unit :=
  if r.parser.hasPending then andThen r.select fun more r => if more then r.readAndFeed false else (.ok (), r.flush)
  else (.ok (), r)

def popFront (r : TtyReader) : Result (Option InputEvent) :=
  match r.pending with
  | [] => (.ok none, r)
  | event :: rest => (.ok (some event), { r with pending := rest })

def readTty (r : TtyReader) (modifiers : Modifiers) : Result (Option InputEvent) :=
  andThen (r.readAndFeed true) fun _ r =>
  andThen (readPaste r.reads r) fun _ r =>
  andThen r.escTimeout fun _ r =>
  andThen r.popFront fun event r => (.ok (event.map (enrichWithModifiers modifiers)), r)

/-- Only an event that was read in the same call is enriched. -/
def read (r : TtyReader) (modifiers : Modifiers) : Result (Option InputEvent) :=
  if !r.pending.isEmpty then r.popFront
  else
    andThen r.select fun ready r =>
    if ready then r.readTty modifiers
    else if r.parser.hasPending then r.flush.popFront
    else (.ok none, r)

end TtyReader

/-- The events thread: what it has sent, and the error that ended it. -/
structure EventThread where
  reader : TtyReader
  sent : List InputEvent := []
  halted : Option Halt := none

def EventThread.step (s : EventThread) (modifiers : Modifiers) : EventThread :=
  match s.halted with
  | some _ => s
  | none =>
    match s.reader.read modifiers with
    | (.ok event, reader) => { s with reader := reader, sent := s.sent ++ event.toList }
    | (.error halt, reader) => { s with reader := reader, halted := some halt }

/-! ### Nothing is lost -/

namespace TtyReader

/-- The parser has put out what was handed on and what is pending, of the bytes that were taken. -/
def Accounted (handed : List InputEvent) (r : TtyReader) : Prop :=
  ∃ calls, serve calls = .ok (r.parser, handed ++ r.pending) ∧ calls.flatMap Call.fed = r.taken

/-- A part of a call that hands nothing on. -/
structure Keeps {α : Type} (handed : List InputEvent) (result : Result α) : Prop where
  accounted : Accounted handed result.2
  total : ∀ panic, result.1 ≠ .error (.panicked panic)

variable {handed : List InputEvent} {r : TtyReader}

theorem keeps_andThen {α β : Type} {result : Result α} {next : α → TtyReader → Result β} (keeps : Keeps handed result)
    (each : ∀ value r, Accounted handed r → Keeps handed (next value r)) : Keeps handed (andThen result next) := by
  obtain ⟨outcome, r⟩ := result
  cases outcome with
  | ok value => exact each value r keeps.accounted
  | error halt => exact ⟨keeps.accounted, fun panic same => keeps.total panic (congrArg Except.error (Except.error.inj same))⟩

theorem serve_concat (calls : List Call) (call : Call) {s : InputParser × List InputEvent} (served : serve calls = .ok s) :
    serve (calls ++ [call]) = perform s call := by
  rw [serve, List.foldlM_append]
  rw [serve] at served
  rw [served]
  show (perform s call >>= pure) = _
  cases perform s call <;> rfl

theorem served_ok (calls : List Call) : ∃ s, serve calls = .ok s := by
  have fresh : Idle ({}, []) [] := ⟨.ground, rfl⟩
  obtain ⟨next, _, done, _⟩ := foldlM_lossless perform_lossless calls fresh
  exact ⟨next, done⟩

theorem feed_keeps (accounted : Accounted handed r) (data : List UInt8) : Keeps handed (r.feed data) := by
  obtain ⟨calls, served, taken⟩ := accounted
  obtain ⟨next, done⟩ := served_ok (calls ++ [.feed data])
  have more := (serve_concat calls (.feed data) served).symm.trans done
  rw [TtyReader.feed]
  split
  · rename_i panic failed
    simp only [perform, failed] at more
    cases more
  · rename_i parser events fed
    simp only [perform, fed] at more
    refine ⟨⟨calls ++ [.feed data], ?_, ?_⟩, nofun⟩
    · rw [done, ← more]
      show Except.ok (parser, handed ++ r.pending ++ events) = _
      rw [List.append_assoc]
    · rw [List.flatMap_append, taken]
      simp [Call.fed]

theorem flush_accounted (accounted : Accounted handed r) : Accounted handed r.flush := by
  obtain ⟨calls, served, taken⟩ := accounted
  refine ⟨calls ++ [.flush], ?_, ?_⟩
  · rw [serve_concat calls .flush served, perform, TtyReader.flush, List.append_assoc]
  · rw [List.flatMap_append, taken]
    simp [Call.fed, TtyReader.flush]

theorem select_keeps (accounted : Accounted handed r) : Keeps handed r.select := by
  rw [select]
  split <;> exact ⟨accounted, nofun⟩

theorem readAndFeed_keeps (accounted : Accounted handed r) (endFails : Bool) : Keeps handed (r.readAndFeed endFails) := by
  rw [readAndFeed]
  split
  · exact ⟨accounted, nofun⟩
  · exact ⟨accounted, nofun⟩
  · exact ⟨accounted, by cases endFails <;> nofun⟩
  · rename_i rest _
    exact feed_keeps (r := { r with reads := rest }) accounted _

theorem readPaste_keeps (reads : List (Option (List UInt8))) {r : TtyReader} (accounted : Accounted handed r) :
    Keeps handed (readPaste reads r) := by
  induction reads generalizing r with
  | nil =>
    rw [readPaste]
    split
    · exact readAndFeed_keeps accounted true
    · exact ⟨accounted, nofun⟩
  | cons _ rest ih =>
    rw [readPaste]
    split
    · exact keeps_andThen (readAndFeed_keeps accounted true) fun _ _ next => ih next
    · exact ⟨accounted, nofun⟩

theorem escTimeout_keeps (accounted : Accounted handed r) : Keeps handed r.escTimeout := by
  rw [escTimeout]
  split
  · refine keeps_andThen (select_keeps accounted) fun more r next => ?_
    split
    · exact readAndFeed_keeps next false
    · exact ⟨flush_accounted next, nofun⟩
  · exact ⟨accounted, nofun⟩

/-- A call hands on one event of those that the parser put out, or none. -/
def HandsOn (modifiers : Modifiers) (handed : List InputEvent) (result : Result (Option InputEvent)) : Prop :=
  match result with
  | (.ok none, r) => Accounted handed r
  | (.ok (some sent), r) => ∃ event, Accounted (handed ++ [event]) r ∧ (sent = event ∨ sent = enrichWithModifiers modifiers event)
  | (.error halt, r) => Accounted handed r ∧ ∀ panic, halt ≠ .panicked panic

variable {modifiers : Modifiers}

theorem handsOn_andThen {α : Type} {result : Result α} {next : α → TtyReader → Result (Option InputEvent)} (keeps : Keeps handed result)
    (each : ∀ value r, Accounted handed r → HandsOn modifiers handed (next value r)) :
    HandsOn modifiers handed (andThen result next) := by
  obtain ⟨outcome, r⟩ := result
  cases outcome with
  | ok value => exact each value r keeps.accounted
  | error halt => exact ⟨keeps.accounted, fun panic same => keeps.total panic (congrArg Except.error same)⟩

theorem pop_accounted {event : InputEvent} {rest : List InputEvent} (front : r.pending = event :: rest)
    (accounted : Accounted handed r) : Accounted (handed ++ [event]) { r with pending := rest } := by
  obtain ⟨calls, served, taken⟩ := accounted
  refine ⟨calls, ?_, taken⟩
  rw [served, front, List.append_assoc]
  rfl

theorem popFront_handsOn (accounted : Accounted handed r) : HandsOn modifiers handed r.popFront := by
  rw [popFront]
  split
  · exact accounted
  · rename_i event rest front
    exact ⟨event, pop_accounted front accounted, .inl rfl⟩

theorem readTty_handsOn (accounted : Accounted handed r) : HandsOn modifiers handed (r.readTty modifiers) := by
  refine handsOn_andThen (readAndFeed_keeps accounted true) fun _ r first => ?_
  refine handsOn_andThen (readPaste_keeps r.reads first) fun _ r pasted => ?_
  refine handsOn_andThen (escTimeout_keeps pasted) fun _ r ended => ?_
  rw [popFront]
  split
  · exact ended
  · rename_i event rest front
    exact ⟨event, pop_accounted front ended, .inr rfl⟩

variable (modifiers) in
theorem read_handsOn (accounted : Accounted handed r) : HandsOn modifiers handed (r.read modifiers) := by
  rw [read]
  split
  · exact popFront_handsOn accounted
  · refine handsOn_andThen (select_keeps accounted) fun ready r selected => ?_
    split
    · exact readTty_handsOn selected
    · split
      · exact popFront_handsOn (flush_accounted selected)
      · exact selected

end TtyReader

/-- An event as the thread sends it: as it was put out, or enriched in one of the calls. -/
def SentAs (calls : List Modifiers) (event sent : InputEvent) : Prop :=
  sent = event ∨ ∃ modifiers ∈ calls, sent = enrichWithModifiers modifiers event

theorem enrichWithModifiers_none (event : InputEvent) : enrichWithModifiers {} event = event := by
  rcases event with ⟨raw, kind⟩ | mouse | text
  · cases kind <;> rfl
  · rfl
  · rfl

theorem sentAs_none {calls : List Modifiers} (none : ∀ modifiers ∈ calls, modifiers = {}) {events sent : List InputEvent}
    (are : List.Forall₂ (SentAs calls) events sent) : events = sent := by
  induction are with
  | nil => rfl
  | cons is _ ih =>
    rcases is with same | ⟨modifiers, member, same⟩
    · rw [same, ih]
    · rw [same, ih, none modifiers member, enrichWithModifiers_none]

/-- What the thread has sent, and that it has not panicked. -/
def EventThread.Accounted (calls : List Modifiers) (s : EventThread) : Prop :=
  ∃ handed, s.reader.Accounted handed ∧ List.Forall₂ (SentAs calls) handed s.sent ∧ ∀ panic, s.halted ≠ some (.panicked panic)

theorem EventThread.step_accounted {calls : List Modifiers} {s : EventThread} {modifiers : Modifiers} (member : modifiers ∈ calls)
    (accounted : s.Accounted calls) : (s.step modifiers).Accounted calls := by
  obtain ⟨handed, reader, sent, total⟩ := accounted
  rw [step]
  split
  · exact ⟨handed, reader, sent, total⟩
  · rename_i running
    have handsOn := TtyReader.read_handsOn modifiers reader
    split
    · rename_i event next returned
      rw [returned] at handsOn
      cases event with
      | none => exact ⟨handed, handsOn, by simpa using sent, total⟩
      | some event =>
        obtain ⟨raw, accounted, same⟩ := handsOn
        refine ⟨handed ++ [raw], accounted, List.rel_append sent (.cons ?_ .nil), total⟩
        exact same.imp id fun enriched => ⟨modifiers, member, enriched⟩
    · rename_i halt next returned
      rw [returned] at handsOn
      exact ⟨handed, handsOn.1, sent, fun panic same => handsOn.2 panic (Option.some.inj same)⟩

theorem EventThread.run_accounted {calls : List Modifiers} (made : List Modifiers) (members : ∀ modifiers ∈ made, modifiers ∈ calls)
    {s : EventThread} (accounted : s.Accounted calls) : (run step s made).Accounted calls := by
  induction made generalizing s with
  | nil => exact accounted
  | cons modifiers rest ih =>
    obtain ⟨first, later⟩ := List.forall_mem_cons.mp members
    exact ih later (step_accounted first accounted)

/-- The thread after some calls of `read`. -/
def eventThread (selects : List (Option Bool)) (reads : List (Option (List UInt8))) (calls : List Modifiers) : EventThread :=
  run EventThread.step { reader := { selects := selects, reads := reads } } calls

/-- Whatever the terminal answers, the events that the thread sends and those that are pending are
in order all that the bytes read so far stand for, but for what is still held, and nothing panics.
Where no modifier is held they are sent as they were read. -/
theorem input_delivered (selects : List (Option Bool)) (reads : List (Option (List UInt8))) (calls : List Modifiers) :
    ∃ handed segments held, List.Forall₂ (SentAs calls) handed (eventThread selects reads calls).sent ∧
      ((∀ modifiers ∈ calls, modifiers = {}) → handed = (eventThread selects reads calls).sent) ∧
      List.Forall₂ Segment (handed ++ (eventThread selects reads calls).reader.pending) segments ∧
      Held (eventThread selects reads calls).reader.parser held ∧
      (eventThread selects reads calls).reader.taken = segments.flatten ++ held ∧
      ∀ panic, (eventThread selects reads calls).halted ≠ some (.panicked panic) := by
  have start : EventThread.Accounted calls { reader := { selects := selects, reads := reads } } :=
    ⟨[], ⟨[], rfl, rfl⟩, .nil, nofun⟩
  obtain ⟨handed, ⟨fed, served, taken⟩, sent, total⟩ := EventThread.run_accounted calls (fun _ => id) start
  have fresh : Idle ({}, []) [] := ⟨.ground, rfl⟩
  obtain ⟨⟨parser, events⟩, outputs, done, collects, segments, held, are, ⟨holds, _⟩, split⟩ :=
    foldlM_lossless perform_lossless fed fresh
  cases served.symm.trans done
  have same : handed ++ _ = outputs := collects
  exact ⟨handed, segments, held, sent, fun none => sentAs_none none sent, same ▸ are, holds, taken.symm.trans split, total⟩

end Anycode.Term
