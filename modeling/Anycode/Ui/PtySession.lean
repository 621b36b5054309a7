import Anycode.Data.Run
import Anycode.Data.Utf8
import Anycode.Ui.Selection

/-!
# The reader of a PTY session

The thread of `pty/session.rs` that reads the child's output, and the end of that output which it
leaves in the startup log.
-/

namespace Anycode.Ui
open Data Pipeline

/-! ### Escape sequences -/

def escByte : UInt8 := 0x1b

def bel : UInt8 := 0x07

def backslash : UInt8 := 0x5c

def isFinal (b : UInt8) : Bool := decide (0x40 ≤ b ∧ b ≤ 0x7e)

def afterCsi : List UInt8 → List UInt8
  | [] => []
  | b :: rest => if isFinal b then rest else afterCsi rest

def afterOsc : List UInt8 → List UInt8
  | [] => []
  | b :: rest =>
    if b = bel then rest
    else if b = escByte ∧ rest.head? = some backslash then rest.tail
    else afterOsc rest

theorem afterCsi_suffix (bytes : List UInt8) : afterCsi bytes <:+ bytes := by
  induction bytes with
  | nil => exact List.suffix_refl _
  | cons b rest ih =>
    rw [afterCsi]
    split
    · exact List.suffix_cons b rest
    · exact ih.trans (List.suffix_cons b rest)

theorem afterOsc_suffix (bytes : List UInt8) : afterOsc bytes <:+ bytes := by
  induction bytes with
  | nil => exact List.suffix_refl _
  | cons b rest ih =>
    rw [afterOsc]
    split
    · exact List.suffix_cons b rest
    · split
      · exact (List.tail_suffix rest).trans (List.suffix_cons b rest)
      · exact ih.trans (List.suffix_cons b rest)

/-- Each byte that is kept becomes a character of its own. -/
def byteChar (b : UInt8) : Char := Char.ofNat b.toNat

def stripAnsi : List UInt8 → List Char
  | [] => []
  | [b] => [byteChar b]
  | b :: next :: rest =>
    if b = escByte then
      if next = 0x5b then stripAnsi (afterCsi rest)
      else if next = 0x5d then stripAnsi (afterOsc rest)
      else stripAnsi rest
    else byteChar b :: stripAnsi (next :: rest)
termination_by bytes => bytes.length
decreasing_by
  · exact Nat.lt_succ_of_le (Nat.le_succ_of_le (afterCsi_suffix rest).length_le)
  · exact Nat.lt_succ_of_le (Nat.le_succ_of_le (afterOsc_suffix rest).length_le)
  · exact Nat.lt_succ_of_le (Nat.le_succ _)
  · exact Nat.lt_succ_self _

/-! ### The thread -/

/-- An answer of `read`. -/
inductive PtyRead where
  | ok (bytes : List UInt8)
  | error

inductive PtyEvent where
  | ptyOutput
  | readError
  | processExit (ptyGeneration : Nat)
  deriving DecidableEq

/-- What `runtime_trace` is given when the child has exited. -/
structure ExitTrace where
  generation : Nat
  tailBytes : Nat
  cleaned : List Char

structure PtyReader where
  emulator : List UInt8 := []
  tail : List UInt8 := []
  sent : List PtyEvent := []
  trace : Option ExitTrace := none
  hasStopped : Bool := false

def tailSize : Nat := 4096

def appendTail (tail chunk : List UInt8) : List UInt8 :=
  if tailSize ≤ chunk.length then chunk.drop (chunk.length - tailSize)
  else
    let tail := tail ++ chunk
    if tailSize < tail.length then tail.drop (tail.length - tailSize) else tail

def exitTrace (generation : Nat) (tail : List UInt8) : ExitTrace where
  generation := generation
  tailBytes := tail.length
  cleaned := TextSelection.trimEnd (stripAnsi (utf8 (fromUtf8Lossy tail)))

def PtyReader.step (generation : Nat) (reader : PtyReader) : PtyRead → PtyReader
  | .ok [] =>
    if reader.hasStopped then reader
    else
      { reader with
        hasStopped := true
        trace := some (exitTrace generation reader.tail)
        sent := reader.sent ++ [.processExit generation] }
  | .ok (b :: rest) =>
    if reader.hasStopped then reader
    else
      { reader with
        emulator := reader.emulator ++ b :: rest
        tail := appendTail reader.tail (b :: rest)
        sent := reader.sent ++ [.ptyOutput] }
  | .error =>
    if reader.hasStopped then reader else { reader with hasStopped := true, sent := reader.sent ++ [.readError] }

/-! ### What is stripped -/

/-- A byte of a text, or an escape sequence with its end. -/
inductive Piece where
  | byte (b : UInt8) (plain : b ≠ escByte)
  | csi (parameters : List UInt8) (final : UInt8) (unended : ∀ b ∈ parameters, isFinal b = false) (ends : isFinal final = true)
  | osc (command : List UInt8) (isBell : Bool) (unrung : bel ∉ command) (unended : ¬ [escByte, backslash] <:+: command)
  | short (b : UInt8) (other : b ≠ 0x5b ∧ b ≠ 0x5d)

namespace Piece

def oscEnd (isBell : Bool) : List UInt8 := if isBell then [bel] else [escByte, backslash]

def bytes : Piece → List UInt8
  | byte b _ => [b]
  | csi parameters final _ _ => escByte :: 0x5b :: (parameters ++ [final])
  | osc command isBell _ _ => escByte :: 0x5d :: (command ++ oscEnd isBell)
  | short b _ => [escByte, b]

def shown : Piece → List Char
  | byte b _ => [byteChar b]
  | _ => []

end Piece

theorem afterCsi_append {parameters : List UInt8} (unended : ∀ b ∈ parameters, isFinal b = false) {final : UInt8}
    (ends : isFinal final = true) (rest : List UInt8) : afterCsi (parameters ++ final :: rest) = rest := by
  induction parameters with
  | nil => rw [List.nil_append, afterCsi, if_pos ends]
  | cons b parameters ih =>
    obtain ⟨here, later⟩ := List.forall_mem_cons.mp unended
    rw [List.cons_append, afterCsi, here, if_neg Bool.false_ne_true, ih later]

theorem afterOsc_append {command : List UInt8} (unrung : bel ∉ command) (unended : ¬ [escByte, backslash] <:+: command)
    (isBell : Bool) (rest : List UInt8) : afterOsc (command ++ (Piece.oscEnd isBell ++ rest)) = rest := by
  induction command with
  | nil => cases isBell <;> rfl
  | cons b command ih =>
    obtain ⟨other, later⟩ := List.ne_and_not_mem_of_not_mem_cons unrung
    have open_ : ¬ (b = escByte ∧ (command ++ (Piece.oscEnd isBell ++ rest)).head? = some backslash) := by
      rintro ⟨rfl, next⟩
      cases command with
      | nil => cases isBell <;> cases next
      | cons c command =>
        cases next
        exact unended ⟨[], command, rfl⟩
    rw [List.cons_append, afterOsc, if_neg (Ne.symm other), if_neg open_,
      ih later fun inside => unended (inside.trans (List.suffix_cons b command).isInfix)]

theorem stripAnsi_byte {b : UInt8} (plain : b ≠ escByte) (rest : List UInt8) :
    stripAnsi (b :: rest) = byteChar b :: stripAnsi rest := by
  cases rest with
  | nil => rw [stripAnsi, stripAnsi]
  | cons next rest => rw [stripAnsi, if_neg plain]

theorem stripAnsi_piece (piece : Piece) (rest : List UInt8) :
    stripAnsi (piece.bytes ++ rest) = piece.shown ++ stripAnsi rest := by
  cases piece with
  | byte b plain => exact stripAnsi_byte plain rest
  | csi parameters final unended ends =>
    rw [Piece.bytes, List.cons_append, List.cons_append, List.append_assoc, List.singleton_append, stripAnsi, if_pos rfl,
      if_pos rfl, afterCsi_append unended ends]
    rfl
  | osc command isBell unrung unended =>
    rw [Piece.bytes, List.cons_append, List.cons_append, List.append_assoc, stripAnsi, if_pos rfl, if_neg (by decide),
      if_pos rfl, afterOsc_append unrung unended]
    rfl
  | short b other =>
    rw [Piece.bytes, List.cons_append, List.singleton_append, stripAnsi, if_pos rfl, if_neg other.1, if_neg other.2]
    rfl

theorem stripAnsi_pieces (pieces : List Piece) : stripAnsi (pieces.flatMap Piece.bytes) = pieces.flatMap Piece.shown := by
  induction pieces with
  | nil => rw [List.flatMap_nil, List.flatMap_nil, stripAnsi]
  | cons piece pieces ih => rw [List.flatMap_cons, List.flatMap_cons, stripAnsi_piece, ih]

/-- The bytes that are kept, of which only the last may be an escape. -/
structure KeptOf (bytes kept : List UInt8) : Prop where
  sublist : kept.Sublist bytes
  clean : escByte ∉ kept.dropLast

theorem KeptOf.of_suffix {bytes rest kept : List UInt8} (inside : KeptOf rest kept) (suffix : rest <:+ bytes) :
    KeptOf bytes kept :=
  ⟨inside.sublist.trans suffix.sublist, inside.clean⟩

theorem stripAnsi_kept (bytes : List UInt8) : ∃ kept, KeptOf bytes kept ∧ stripAnsi bytes = kept.map byteChar := by
  induction bytes using stripAnsi.induct with
  | case1 => exact ⟨[], ⟨List.Sublist.refl _, List.not_mem_nil⟩, by rw [stripAnsi]; rfl⟩
  | case2 b => exact ⟨[b], ⟨List.Sublist.refl _, List.not_mem_nil⟩, by rw [stripAnsi]; rfl⟩
  | case3 rest ih =>
    obtain ⟨kept, inside, is⟩ := ih
    have suffix := (afterCsi_suffix rest).trans ((List.suffix_cons 0x5b rest).trans (List.suffix_cons escByte _))
    exact ⟨kept, inside.of_suffix suffix, by rw [stripAnsi, if_pos rfl, if_pos rfl, is]⟩
  | case4 rest other ih =>
    obtain ⟨kept, inside, is⟩ := ih
    have suffix := (afterOsc_suffix rest).trans ((List.suffix_cons 0x5d rest).trans (List.suffix_cons escByte _))
    exact ⟨kept, inside.of_suffix suffix, by rw [stripAnsi, if_pos rfl, if_neg other, if_pos rfl, is]⟩
  | case5 next rest csi osc ih =>
    obtain ⟨kept, inside, is⟩ := ih
    have suffix := (List.suffix_cons next rest).trans (List.suffix_cons escByte _)
    exact ⟨kept, inside.of_suffix suffix, by rw [stripAnsi, if_pos rfl, if_neg csi, if_neg osc, is]⟩
  | case6 b next rest plain ih =>
    obtain ⟨kept, inside, is⟩ := ih
    refine ⟨b :: kept, ⟨inside.sublist.cons_cons b, ?_⟩, by rw [stripAnsi_byte plain, is, List.map_cons]⟩
    cases kept with
    | nil => exact List.not_mem_nil
    | cons c kept =>
      rw [List.dropLast_cons_of_ne_nil (List.cons_ne_nil _ _)]
      exact fun member => (List.mem_cons.mp member).elim (fun same => plain same.symm) inside.clean

/-! ### What the thread reports -/

/-- The chunks before the first end of file or error. -/
def chunks : List PtyRead → List (List UInt8)
  | .ok (b :: rest) :: reads => (b :: rest) :: chunks reads
  | _ => []

/-- The event for the first end of file or error. -/
def ending (generation : Nat) : List PtyRead → List PtyEvent
  | .ok (_ :: _) :: reads => ending generation reads
  | .ok [] :: _ => [.processExit generation]
  | .error :: _ => [.readError]
  | [] => []

def lastBytes (bytes : List UInt8) : List UInt8 := bytes.drop (bytes.length - tailSize)

theorem length_lastBytes (bytes : List UInt8) : (lastBytes bytes).length = min bytes.length tailSize := by
  rw [lastBytes, List.length_drop]
  generalize tailSize = size
  omega

theorem lastBytes_of_fits {bytes : List UInt8} (fits : bytes.length ≤ tailSize) : lastBytes bytes = bytes := by
  rw [lastBytes, Nat.sub_eq_zero_of_le fits, List.drop_zero]

theorem appendTail_lastBytes (bytes chunk : List UInt8) : appendTail (lastBytes bytes) chunk = lastBytes (bytes ++ chunk) := by
  unfold appendTail lastBytes
  generalize tailSize = size
  have joined : bytes.drop (bytes.length - size) ++ chunk = (bytes ++ chunk).drop (bytes.length - size) := by
    rw [List.drop_append_of_le_length (Nat.sub_le _ _)]
  split
  · rename_i long
    have past : bytes.length ≤ (bytes ++ chunk).length - size := by
      rw [List.length_append]
      omega
    have left : chunk.length - size = (bytes ++ chunk).length - size - bytes.length := by
      rw [List.length_append]
      omega
    rw [List.drop_append, List.drop_eq_nil_of_le past, List.nil_append, left]
  · dsimp only
    rw [joined, List.drop_drop]
    split
    · rename_i longer
      have count : bytes.length - size + (((bytes ++ chunk).drop (bytes.length - size)).length - size) =
          (bytes ++ chunk).length - size := by
        rw [List.length_drop, List.length_append] at longer ⊢
        omega
      rw [count]
    · rename_i short
      have count : bytes.length - size = (bytes ++ chunk).length - size := by
        rw [List.length_drop, List.length_append] at short
        rw [List.length_append]
        omega
      rw [count]

theorem foldl_appendTail (bytes : List UInt8) (received : List (List UInt8)) :
    received.foldl appendTail (lastBytes bytes) = lastBytes (bytes ++ received.flatten) := by
  induction received generalizing bytes with
  | nil => rw [List.foldl_nil, List.flatten_nil, List.append_nil]
  | cons chunk received ih => rw [List.foldl_cons, appendTail_lastBytes, ih, List.flatten_cons, List.append_assoc]

namespace PtyReader

theorem run_stopped {generation : Nat} {reader : PtyReader} (stopped : reader.hasStopped = true) (reads : List PtyRead) :
    run (step generation) reader reads = reader := by
  induction reads with
  | nil => rfl
  | cons read reads ih =>
    have same : reader.step generation read = reader := by
      unfold step
      split
      · rw [if_pos stopped]
      · rw [if_pos stopped]
      · rw [if_pos stopped]
    rw [run_cons, same, ih]

theorem run_running (generation : Nat) {reader : PtyReader} (running : reader.hasStopped = false) (reads : List PtyRead) :
    run (step generation) reader reads =
      { emulator := reader.emulator ++ (chunks reads).flatten
        tail := (chunks reads).foldl appendTail reader.tail
        sent := reader.sent ++ ((chunks reads).map (fun _ => .ptyOutput) ++ ending generation reads)
        trace :=
          if .processExit generation ∈ ending generation reads then
            some (exitTrace generation ((chunks reads).foldl appendTail reader.tail))
          else reader.trace
        hasStopped := !(ending generation reads).isEmpty } := by
  induction reads generalizing reader with
  | nil =>
    obtain ⟨emulator, tail, sent, trace, hasStopped⟩ := reader
    simp [chunks, ending]
    exact running
  | cons read reads ih =>
    have going : ¬ reader.hasStopped = true := by rw [running]; exact Bool.false_ne_true
    match read with
    | .error =>
      have stopped : reader.step generation .error =
          { reader with hasStopped := true, sent := reader.sent ++ [.readError] } := if_neg going
      rw [run_cons, stopped, run_stopped rfl]
      simp [chunks, ending]
    | .ok [] =>
      have stopped : reader.step generation (.ok []) =
          { reader with
            hasStopped := true
            trace := some (exitTrace generation reader.tail)
            sent := reader.sent ++ [.processExit generation] } := if_neg going
      rw [run_cons, stopped, run_stopped rfl]
      simp [chunks, ending]
    | .ok (b :: rest) =>
      have next : reader.step generation (.ok (b :: rest)) =
          { reader with
            emulator := reader.emulator ++ b :: rest
            tail := appendTail reader.tail (b :: rest)
            sent := reader.sent ++ [.ptyOutput] } := if_neg going
      rw [run_cons, next, ih]
      · simp [chunks, ending]
        rfl
      · exact running

end PtyReader

/-- What the startup log gets: the last 4096 bytes of all output, decoded lossily. At most the last
byte that is kept of them is an escape, and none is part of a sequence if they are made of whole
sequences, as output in UTF-8 that is shorter may be. -/
structure Traced (generation : Nat) (output : List UInt8) (trace : ExitTrace) : Prop where
  generation : trace.generation = generation
  tailBytes : trace.tailBytes = min output.length tailSize
  kept : ∃ kept, KeptOf (utf8 (fromUtf8Lossy (lastBytes output))) kept ∧
    trace.cleaned = TextSelection.trimEnd (kept.map byteChar)
  whole : ∀ pieces : List Piece, utf8 (fromUtf8Lossy (lastBytes output)) = pieces.flatMap Piece.bytes →
    trace.cleaned = TextSelection.trimEnd (pieces.flatMap Piece.shown)
  short : ∀ (text : List Char) (pieces : List Piece), output = utf8 text → output.length ≤ tailSize →
    output = pieces.flatMap Piece.bytes → trace.cleaned = TextSelection.trimEnd (pieces.flatMap Piece.shown)

theorem exitTrace_tailBytes (generation : Nat) (tail : List UInt8) : (exitTrace generation tail).tailBytes = tail.length := rfl

theorem exitTrace_traced (generation : Nat) (output : List UInt8) :
    Traced generation output (exitTrace generation (lastBytes output)) := by
  obtain ⟨kept, inside, is⟩ := stripAnsi_kept (utf8 (fromUtf8Lossy (lastBytes output)))
  refine ⟨rfl, ?_, ⟨kept, inside, congrArg TextSelection.trimEnd is⟩, fun pieces same => ?_,
    fun text pieces encoded fits same => ?_⟩
  · rw [exitTrace_tailBytes, length_lastBytes]
  · rw [exitTrace, same, stripAnsi_pieces]
  · have all : utf8 (fromUtf8Lossy (lastBytes output)) = output := by
      rw [lastBytes_of_fits fits, encoded, fromUtf8Lossy_utf8]
    rw [exitTrace, all, same, stripAnsi_pieces]

/-- Whatever `read` answers: the emulator gets all bytes up to the first end of file or error, the
UI hears of every chunk and then of the end, once, and the end of the output is traced at end of
file only. -/
theorem reader_reports (generation : Nat) (reads : List PtyRead) :
    let reader := run (PtyReader.step generation) {} reads
    let output := (chunks reads).flatten
    reader.emulator = output ∧
      reader.sent = (chunks reads).map (fun _ => .ptyOutput) ++ ending generation reads ∧
      (reader.trace.isSome = true ↔ .processExit generation ∈ ending generation reads) ∧
      ∀ trace, reader.trace = some trace → Traced generation output trace := by
  intro reader output
  have closed : reader = _ := PtyReader.run_running generation rfl reads
  have tail : (chunks reads).foldl appendTail [] = lastBytes output := foldl_appendTail [] (chunks reads)
  dsimp only at closed
  rw [tail] at closed
  rw [closed]
  refine ⟨rfl, rfl, ?_, ?_⟩
  · dsimp only
    split
    · rename_i ended
      exact ⟨fun _ => ended, fun _ => rfl⟩
    · rename_i other
      exact ⟨fun traced => absurd traced Bool.false_ne_true, fun ended => absurd ended other⟩
  · intro trace found
    dsimp only at found
    split at found
    · cases found
      exact exitTrace_traced generation output
    · cases found

end Anycode.Ui
