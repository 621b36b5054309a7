import Anycode.Data.Run
import Anycode.Metrics.DebugLog
import Mathlib.Data.List.Induction

/-!
# The logger and its writer

Threads offer events to a bounded channel after a look at the level, and the writer thread takes
them out one at a time, each with a snapshot of the settings. What a rotating file makes of the
lines that it gets is modelled in `Metrics.Rotation`.
-/

namespace Anycode.Metrics
open Config Data

def logChannelSize : Nat := 512

/-- An open rotating file, with the settings that it was made with. -/
structure FileWriter where
  path : String
  rotation : DebugLogRotation

/-- An event that the writer has taken up, and what it read for it. -/
structure Taken where
  event : LogEvent
  config : DebugLoggingConfig
  isTerminal : Bool

/-- `sending` holds the events between the look at the level and `try_send`, `received` the one that
the writer is at; `offered`, `accepted` and `taken` record the history, each offer with the number of
events that waited in the channel. -/
structure Logger where
  config : DebugLoggingConfig
  sending : List LogEvent := []
  queue : List LogEvent := []
  received : Option LogEvent := none
  fileWriter : Option FileWriter := none
  lastFilePath : Option String := none
  stderr : List (List Char) := []
  files : List (FileWriter × List Char) := []
  offered : List (LogEvent × Nat) := []
  accepted : List LogEvent := []
  taken : List Taken := []

inductive LogAct where
  | setConfig (config : DebugLoggingConfig)
  | postResponse (record : LoggedRecord) (now : Nat)
  | logAuxiliary (event : AuxiliaryLogEvent)
  | trySend (k : Nat)
  | recv
  | write (isTerminal : Bool)

def formatEvent (texts : LogTexts) (config : DebugLoggingConfig) (useColor : Bool) : LogEvent → List Char
  | .request event =>
    let level := event.level.min config.level
    match config.format with
    | .console => formatConsole texts event level useColor
    | .json => formatJson texts event level
  | .auxiliary event =>
    match config.format with
    | .console => formatAuxiliaryConsole texts event useColor
    | .json => formatAuxiliaryJson texts event

namespace Taken

def isLogged (taken : Taken) : Bool := taken.config.level != .off

def toStderr (taken : Taken) : Bool := taken.isLogged && taken.config.destination != .file

def toFile (taken : Taken) : Bool := taken.isLogged && taken.config.destination != .stderr

def lineConsole (texts : LogTexts) (taken : Taken) : List Char :=
  formatEvent texts taken.config (taken.isTerminal && taken.config.format == .console) taken.event

def lineFile (texts : LogTexts) (taken : Taken) : List Char := formatEvent texts taken.config false taken.event

end Taken

namespace Logger

/-- `sync_channel` refuses an event while it is full. -/
def trySend (k : Nat) (s : Logger) : Logger :=
  match s.sending[k]? with
  | none => s
  | some event =>
    let s := { s with sending := s.sending.eraseIdx k, offered := s.offered ++ [(event, s.queue.length)] }
    if s.queue.length < logChannelSize then { s with queue := s.queue ++ [event], accepted := s.accepted ++ [event] } else s

def recv (s : Logger) : Logger :=
  match s.received, s.queue with
  | none, event :: rest => { s with queue := rest, received := some event }
  | _, _ => s

/-- The writer is kept while the path stays, with the settings that it was made with. -/
def ensureFileWriter (config : DebugLoggingConfig) (s : Logger) : Logger :=
  if config.destination = .stderr then { s with fileWriter := none }
  else if s.lastFilePath = some config.filePath then s
  else { s with lastFilePath := some config.filePath, fileWriter := some ⟨config.filePath, config.rotation⟩ }

def writeStderr (line : List Char) (s : Logger) : Logger := { s with stderr := s.stderr ++ [line] }

def writeFile (config : DebugLoggingConfig) (line : List Char) (s : Logger) : Logger :=
  let s := s.ensureFileWriter config
  { s with files := s.files ++ (s.fileWriter.map fun writer => (writer, line)).toList }

variable (texts : LogTexts)

/-- The body of `writer_loop` after `recv`, with the snapshot of the settings. -/
def writeTaken (taken : Taken) (s : Logger) : Logger :=
  let s := { s with received := none, taken := s.taken ++ [taken] }
  if taken.config.level = .off then s
  else
    match taken.config.destination with
    | .stderr => s.writeStderr (taken.lineConsole texts)
    | .file => s.writeFile taken.config (taken.lineFile texts)
    | .both => (s.writeStderr (taken.lineConsole texts)).writeFile taken.config (taken.lineFile texts)

def write (isTerminal : Bool) (s : Logger) : Logger :=
  match s.received with
  | none => s
  | some event => s.writeTaken texts ⟨event, s.config, isTerminal⟩

def step (s : Logger) : LogAct → Logger
  | .setConfig config => { s with config := config }
  | .postResponse record now =>
    if s.config.level = .off then s
    else { s with sending := s.sending ++ [.request (.fromRecord record s.config.level now)] }
  | .logAuxiliary event => if s.config.level = .off then s else { s with sending := s.sending ++ [.auxiliary event] }
  | .trySend k => s.trySend k
  | .recv => s.recv
  | .write isTerminal => s.write texts isTerminal

/-! ### What the log shows of a run -/

/-- Event `i` of those that go to a file is written to the file that its snapshot names. The file
has the rotation of snapshot `j`, the first of those in a row that name it. -/
structure FiledAt (going : List Taken) (files : List (FileWriter × List Char)) (taken opener : Taken) (j i : Nat) : Prop where
  before : j ≤ i
  opens : going[j]? = some opener
  same : ∀ k between, j ≤ k → k ≤ i → going[k]? = some between → between.config.filePath = taken.config.filePath
  other : ∀ previous, 0 < j → going[j - 1]? = some previous → previous.config.filePath ≠ taken.config.filePath
  written : files[i]? = some (⟨taken.config.filePath, opener.config.rotation⟩, taken.lineFile texts)

def Filed (going : List Taken) (files : List (FileWriter × List Char)) : Prop :=
  files.length = going.length ∧
    ∀ i taken, going[i]? = some taken → ∃ j opener, FiledAt texts going files taken opener j i

structure Accounted (s : Logger) : Prop where
  order : s.accepted = s.taken.map Taken.event ++ (s.received.toList ++ s.queue)
  bounded : s.queue.length ≤ logChannelSize
  offers : ∀ offer ∈ s.offered, offer.2 ≤ logChannelSize
  once : s.accepted = (s.offered.filter fun offer => decide (offer.2 < logChannelSize)).map Prod.fst
  level : ∀ event, LogEvent.request event ∈ s.offered.map Prod.fst ++ s.sending → event.level ≠ .off
  stderr : s.stderr = (s.taken.filter Taken.toStderr).map (Taken.lineConsole texts)
  files : Filed texts (s.taken.filter Taken.toFile) s.files

/-- The writer that is kept is the one of the last line. -/
structure Kept (s : Logger) : Prop where
  writer : s.fileWriter = s.files.getLast?.map Prod.fst
  path : s.lastFilePath = s.fileWriter.map FileWriter.path

variable {texts}

theorem FiledAt.append {going : List Taken} {files : List (FileWriter × List Char)} {taken opener : Taken} {j i : Nat}
    (filed : FiledAt texts going files taken opener j i) (last : Taken) (line : FileWriter × List Char)
    (inside : i < going.length) (sized : files.length = going.length) :
    FiledAt texts (going ++ [last]) (files ++ [line]) taken opener j i where
  before := filed.before
  opens := by
    rw [List.getElem?_append_left (Nat.lt_of_le_of_lt filed.before inside)]
    exact filed.opens
  same k between above below found := by
    rw [List.getElem?_append_left (Nat.lt_of_le_of_lt below inside)] at found
    exact filed.same k between above below found
  other previous positive found := by
    rw [List.getElem?_append_left (by have := filed.before; omega)] at found
    exact filed.other previous positive found
  written := by
    rw [List.getElem?_append_left (sized ▸ inside)]
    exact filed.written

theorem filed_append {going : List Taken} {files : List (FileWriter × List Char)} {last : Taken}
    {line : FileWriter × List Char} (filed : Filed texts going files)
    (ends : ∃ j opener, FiledAt texts (going ++ [last]) (files ++ [line]) last opener j going.length) :
    Filed texts (going ++ [last]) (files ++ [line]) := by
  obtain ⟨sized, earlier⟩ := filed
  refine ⟨by rw [List.length_append, List.length_append, sized]; rfl, fun i taken found => ?_⟩
  by_cases inside : i < going.length
  · rw [List.getElem?_append_left inside] at found
    obtain ⟨j, opener, at_⟩ := earlier i taken found
    exact ⟨j, opener, at_.append last line inside sized⟩
  · obtain ⟨bound, _⟩ := List.getElem?_eq_some_iff.mp found
    rw [List.length_append, List.length_singleton] at bound
    obtain rfl : i = going.length := by omega
    rw [List.getElem?_concat_length] at found
    cases found
    exact ends

/-- The last line in the files, and the file that it is in. -/
theorem Filed.last {going : List Taken} {files : List (FileWriter × List Char)} (filed : Filed texts going files)
    {previous : Taken} (ended : going.getLast? = some previous) :
    ∃ j opener, FiledAt texts going files previous opener j (going.length - 1) ∧
      files.getLast? = some (⟨previous.config.filePath, opener.config.rotation⟩, previous.lineFile texts) := by
  rw [List.getLast?_eq_getElem?] at ended
  obtain ⟨j, opener, found⟩ := filed.2 _ previous ended
  refine ⟨j, opener, found, ?_⟩
  rw [List.getLast?_eq_getElem?, filed.1]
  exact found.written

theorem filed_opened {going : List Taken} {files : List (FileWriter × List Char)} (filed : Filed texts going files)
    (taken : Taken) (other : ∀ previous, going.getLast? = some previous → previous.config.filePath ≠ taken.config.filePath) :
    Filed texts (going ++ [taken])
      (files ++ [(⟨taken.config.filePath, taken.config.rotation⟩, taken.lineFile texts)]) := by
  refine filed_append filed ⟨going.length, taken, ⟨Nat.le_refl _, List.getElem?_concat_length, ?_, ?_, ?_⟩⟩
  · intro k between above below found
    obtain rfl := Nat.le_antisymm below above
    rw [List.getElem?_concat_length] at found
    cases found
    rfl
  · intro previous positive found
    rw [List.getElem?_append_left (Nat.sub_lt positive Nat.one_pos)] at found
    exact other previous (List.getLast?_eq_getElem? ▸ found)
  · rw [← filed.1]
    exact List.getElem?_concat_length

theorem filed_kept {going : List Taken} {files : List (FileWriter × List Char)} (filed : Filed texts going files)
    (taken previous : Taken) (ended : going.getLast? = some previous)
    (same : previous.config.filePath = taken.config.filePath) {writer : FileWriter}
    (last : files.getLast?.map Prod.fst = some writer) :
    Filed texts (going ++ [taken]) (files ++ [(writer, taken.lineFile texts)]) := by
  obtain ⟨j, opener, found, written⟩ := filed.last ended
  rw [written] at last
  cases last
  have inside : going.length - 1 < going.length := by
    rw [List.getLast?_eq_getElem?] at ended
    exact (List.getElem?_eq_some_iff.mp ended).1
  have kept := found.append taken (⟨previous.config.filePath, opener.config.rotation⟩, taken.lineFile texts) inside filed.1
  refine filed_append filed ⟨j, opener, ⟨by have := kept.before; omega, kept.opens, ?_, ?_, ?_⟩⟩
  · intro k between above below at_
    by_cases older : k ≤ going.length - 1
    · exact (kept.same k between above older at_).trans same
    · obtain rfl : k = going.length := by omega
      rw [List.getElem?_concat_length] at at_
      cases at_
      rfl
  · exact fun before positive at_ => same ▸ kept.other before positive at_
  · rw [← filed.1, List.getElem?_concat_length, same]

theorem writeFile_filed {s : Logger} {going : List Taken} {taken : Taken} (toFile : taken.config.destination ≠ .stderr)
    (filed : Filed texts going s.files) (kept : s.Kept) :
    Filed texts (going ++ [taken]) (s.writeFile taken.config (taken.lineFile texts)).files ∧
      (s.writeFile taken.config (taken.lineFile texts)).Kept := by
  obtain ⟨writer, path⟩ := kept
  unfold writeFile ensureFileWriter
  rw [if_neg toFile]
  dsimp only
  split
  · rename_i same
    rw [same] at path
    obtain ⟨open_, is, named⟩ := Option.map_eq_some_iff.mp path.symm
    rw [is]
    refine ⟨?_, ⟨by simp, by simp [same, named]⟩⟩
    rw [is] at writer
    cases ended : going.getLast? with
    | none =>
      have none_ : s.files = [] := by
        rw [List.getLast?_eq_none_iff] at ended
        exact List.length_eq_zero_iff.mp (by rw [filed.1, ended]; rfl)
      rw [none_] at writer
      cases writer
    | some previous =>
      refine filed_kept filed taken previous ended ?_ writer.symm
      obtain ⟨_, _, _, written⟩ := filed.last ended
      rw [written] at writer
      cases writer
      exact named
  · rename_i different
    refine ⟨filed_opened filed taken ?_, ⟨by simp, rfl⟩⟩
    intro previous ended same
    obtain ⟨_, _, _, written⟩ := filed.last ended
    apply different
    rw [path, writer, written, ← same]
    rfl

theorem writeFile_frame (config : DebugLoggingConfig) (line : List Char) (s : Logger) :
    ∃ files writer path, s.writeFile config line = { s with files := files, fileWriter := writer, lastFilePath := path } := by
  unfold writeFile ensureFileWriter
  dsimp only
  split
  · exact ⟨_, _, _, rfl⟩
  · split
    · exact ⟨_, _, _, rfl⟩
    · exact ⟨_, _, _, rfl⟩

theorem Accounted.take {s : Logger} (accounted : s.Accounted texts) {taken : Taken}
    (received : s.received = some taken.event) {stderr : List (List Char)} {files : List (FileWriter × List Char)}
    {writer : Option FileWriter} {path : Option String}
    (shown : stderr = ((s.taken ++ [taken]).filter Taken.toStderr).map (Taken.lineConsole texts))
    (filed : Filed texts ((s.taken ++ [taken]).filter Taken.toFile) files) :
    Accounted texts
      { s with received := none, taken := s.taken ++ [taken], stderr := stderr, files := files, fileWriter := writer,
               lastFilePath := path } where
  order := by
    have order := accounted.order
    rw [received] at order
    simpa using order
  bounded := accounted.bounded
  offers := accounted.offers
  once := accounted.once
  level := accounted.level
  stderr := shown
  files := filed

theorem filter_taken (shows : Taken → Bool) (earlier : List Taken) (taken : Taken) :
    (earlier ++ [taken]).filter shows = earlier.filter shows ++ if shows taken then [taken] else [] := by
  rw [List.filter_append, List.filter_singleton]
  cases shows taken <;> rfl

theorem Accounted.writeFile {s : Logger} (accounted : s.Accounted texts) (kept : s.Kept) {taken : Taken}
    (received : s.received = some taken.event) (filed : taken.toFile = true) {stderr : List (List Char)}
    (shown : stderr = ((s.taken ++ [taken]).filter Taken.toStderr).map (Taken.lineConsole texts)) :
    let next := Logger.writeFile taken.config (taken.lineFile texts)
      { s with received := none, taken := s.taken ++ [taken], stderr := stderr }
    next.Accounted texts ∧ next.Kept := by
  intro next
  have toFile : taken.config.destination ≠ .stderr := by
    intro elsewhere
    rw [Taken.toFile, elsewhere, Bool.and_eq_true] at filed
    cases filed.2
  have now : Kept { s with received := none, taken := s.taken ++ [taken], stderr := stderr } := ⟨kept.writer, kept.path⟩
  have going : (s.taken ++ [taken]).filter Taken.toFile = s.taken.filter Taken.toFile ++ [taken] := by
    rw [filter_taken, if_pos filed]
  obtain ⟨written, after⟩ := writeFile_filed
    (s := { s with received := none, taken := s.taken ++ [taken], stderr := stderr }) toFile accounted.files now
  obtain ⟨files, writer, path, same⟩ := writeFile_frame taken.config (taken.lineFile texts)
    { s with received := none, taken := s.taken ++ [taken], stderr := stderr }
  have next_eq : next = _ := same
  rw [← going] at written
  refine ⟨?_, after⟩
  rw [same] at written
  rw [next_eq]
  exact accounted.take received shown written

theorem writeTaken_accounted {s : Logger} {taken : Taken} (accounted : s.Accounted texts) (kept : s.Kept)
    (received : s.received = some taken.event) :
    (s.writeTaken texts taken).Accounted texts ∧ (s.writeTaken texts taken).Kept := by
  have silent (unlogged : taken.toStderr = false) :
      s.stderr = ((s.taken ++ [taken]).filter Taken.toStderr).map (Taken.lineConsole texts) := by
    rw [filter_taken, unlogged, if_neg Bool.false_ne_true, List.append_nil]
    exact accounted.stderr
  have shown (logged : taken.toStderr = true) :
      s.stderr ++ [taken.lineConsole texts] =
        ((s.taken ++ [taken]).filter Taken.toStderr).map (Taken.lineConsole texts) := by
    rw [filter_taken, if_pos logged, List.map_append, ← accounted.stderr]
    rfl
  have unfiled (elsewhere : taken.toFile = false) : Filed texts ((s.taken ++ [taken]).filter Taken.toFile) s.files := by
    rw [filter_taken, elsewhere, if_neg Bool.false_ne_true, List.append_nil]
    exact accounted.files
  unfold writeTaken
  dsimp only
  split
  · rename_i off
    exact ⟨accounted.take received (silent (by simp [Taken.toStderr, Taken.isLogged, off]))
      (unfiled (by simp [Taken.toFile, Taken.isLogged, off])), kept.writer, kept.path⟩
  · rename_i on
    have on : taken.isLogged = true := by simpa [Taken.isLogged] using on
    cases destination : taken.config.destination with
    | stderr =>
      exact ⟨accounted.take received (shown (by simp [Taken.toStderr, on, destination]))
        (unfiled (by simp [Taken.toFile, destination])), kept.writer, kept.path⟩
    | file =>
      exact accounted.writeFile kept received (by simp [Taken.toFile, on, destination])
        (silent (by simp [Taken.toStderr, destination]))
    | both =>
      exact accounted.writeFile kept received (by simp [Taken.toFile, on, destination])
        (shown (by simp [Taken.toStderr, on, destination]))

theorem trySend_accounted {s : Logger} (k : Nat) (accounted : s.Accounted texts) : (s.trySend k).Accounted texts := by
  unfold trySend
  cases found : s.sending[k]? with
  | none => exact accounted
  | some event =>
    have level : ∀ event', LogEvent.request event' ∈
        (s.offered ++ [(event, s.queue.length)]).map Prod.fst ++ s.sending.eraseIdx k → event'.level ≠ .off := by
      intro event' member
      apply accounted.level event'
      simp only [List.map_append, List.map_cons, List.map_nil, List.mem_append, List.mem_singleton] at member ⊢
      rcases member with (earlier | rfl) | later
      · exact .inl earlier
      · exact .inr (List.mem_of_getElem? found)
      · exact .inr (List.mem_of_mem_eraseIdx later)
    have offers : ∀ offer ∈ s.offered ++ [(event, s.queue.length)], offer.2 ≤ logChannelSize := by
      intro offer member
      rcases List.mem_append.mp member with earlier | last
      · exact accounted.offers offer earlier
      · rw [List.mem_singleton.mp last]
        exact accounted.bounded
    dsimp only
    split
    · rename_i room
      exact {
        order := by
          dsimp only
          rw [accounted.order]
          simp
        bounded := by rw [List.length_append]; exact room
        offers := offers
        once := by
          dsimp only
          rw [accounted.once, List.filter_append, List.map_append, List.filter_singleton, decide_eq_true room]
          rfl
        level := level
        stderr := accounted.stderr
        files := accounted.files }
    · rename_i full
      exact {
        order := accounted.order
        bounded := accounted.bounded
        offers := offers
        once := by
          dsimp only
          rw [accounted.once, List.filter_append, List.filter_singleton, decide_eq_false full]
          exact congrArg _ (List.append_nil _).symm
        level := level
        stderr := accounted.stderr
        files := accounted.files }

theorem recv_accounted {s : Logger} (accounted : s.Accounted texts) : s.recv.Accounted texts := by
  unfold recv
  split
  · rename_i event rest idle waiting
    have order := accounted.order
    have bounded := accounted.bounded
    rw [idle, waiting] at order
    rw [waiting] at bounded
    exact ⟨order, Nat.le_of_succ_le bounded, accounted.offers, accounted.once, accounted.level, accounted.stderr, accounted.files⟩
  · exact accounted

theorem accounted_sending {s : Logger} (accounted : s.Accounted texts) (event : LogEvent)
    (level : ∀ event', event = .request event' → event'.level ≠ .off) :
    Accounted texts { s with sending := s.sending ++ [event] } where
  order := accounted.order
  bounded := accounted.bounded
  offers := accounted.offers
  once := accounted.once
  level event' member := by
    rw [← List.append_assoc, List.mem_append, List.mem_singleton] at member
    exact member.elim (accounted.level event') fun same => level event' same.symm
  stderr := accounted.stderr
  files := accounted.files

theorem step_accounted (s : Logger) (act : LogAct) (inv : s.Accounted texts ∧ s.Kept) :
    (s.step texts act).Accounted texts ∧ (s.step texts act).Kept := by
  obtain ⟨accounted, kept⟩ := inv
  cases act with
  | setConfig config =>
    have same : Accounted texts { s with config := config } :=
      ⟨accounted.order, accounted.bounded, accounted.offers, accounted.once, accounted.level, accounted.stderr,
        accounted.files⟩
    exact ⟨same, kept.writer, kept.path⟩
  | postResponse record now =>
    unfold step
    dsimp only
    split
    · exact ⟨accounted, kept⟩
    · rename_i on
      refine ⟨accounted_sending accounted _ ?_, kept.writer, kept.path⟩
      rintro _ ⟨⟩
      exact on
  | logAuxiliary event =>
    unfold step
    dsimp only
    split
    · exact ⟨accounted, kept⟩
    · refine ⟨accounted_sending accounted _ ?_, kept.writer, kept.path⟩
      rintro _ ⟨⟩
  | trySend k =>
    refine ⟨trySend_accounted k accounted, ?_⟩
    unfold step trySend
    dsimp only
    split
    · exact kept
    · split
      · exact ⟨kept.writer, kept.path⟩
      · exact ⟨kept.writer, kept.path⟩
  | recv =>
    refine ⟨recv_accounted accounted, ?_⟩
    unfold step recv
    dsimp only
    split
    · exact ⟨kept.writer, kept.path⟩
    · exact kept
  | write isTerminal =>
    unfold step write
    dsimp only
    split
    · exact ⟨accounted, kept⟩
    · rename_i event received
      exact writeTaken_accounted accounted kept received

/-- In every run the accepted events are those of the offered ones that found fewer than 512 waiting,
and the lines that standard error and the rotating files are handed are, in that order, those of the
events that the writer has taken up, each formatted and placed by the settings of that moment. -/
theorem log_in_order (config : DebugLoggingConfig) (acts : List LogAct) :
    (run (step texts) { config := config } acts).Accounted texts := by
  have fresh : Accounted texts { config := config } ∧ Kept { config := config } := by
    refine ⟨⟨rfl, Nat.zero_le _, fun _ member => absurd member List.not_mem_nil, rfl, ?_, rfl, rfl, ?_⟩, rfl, rfl⟩
    · intro event member
      cases member
    · intro i taken found
      cases found
  exact (run_invariant (G := fun _ _ => True) (fun s act inv _ => step_accounted s act inv) fresh
    (along_iff.mpr fun _ _ _ _ => trivial)).1

end Logger

end Anycode.Metrics
