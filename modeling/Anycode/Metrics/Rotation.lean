import Anycode.Data.Run
import Anycode.Data.StrSlice
import Mathlib.Data.List.Sort

/-!
# Rotation of the debug log

`RotatingFile` of `metrics/debug_logger.rs`. A rotation renames the active file after a reading
of the clock, opens a new one, and removes the oldest of the files whose names begin with the
log's until `max_files` are left, the active one included. Every file operation succeeds where
the file is there, times are in nanoseconds, and `u64` sizes are natural numbers.
-/

namespace Anycode.Metrics
open Data

inductive Origin where
  | active
  | rotated
  | foreign
  deriving DecidableEq

/-- What a file held when the log was opened, and the lines written to it since. -/
structure LogFile where
  held : List UInt8
  lines : List (List Char)
  mtime : Nat
  origin : Origin

structure DirEntry where
  name : List Char
  file : LogFile

/-- A removed file, and the entries that the same cleanup left. -/
structure Pruned where
  entry : DirEntry
  kept : List DirEntry

/-- The directory of the log: the file that the log has open, while it has a name, and the other files.
`pruned` and `written` record what was removed and what was written. -/
structure Disk where
  active : Option LogFile
  others : List DirEntry
  pruned : List Pruned := []
  written : List (List Char) := []

/-- An order in which `read_dir` lists entries. -/
structure Listing where
  order : List DirEntry → List DirEntry
  perm : ∀ entries, (order entries).Perm entries

inductive DebugLogRotationMode where
  | none
  | size
  | daily

structure RotatingFile where
  fileName : List Char
  rotationMode : DebugLogRotationMode
  maxBytes : Nat
  maxFiles : Nat
  currentSize : Nat
  currentDay : Option Nat := Option.none
  disk : Disk

/-- A call of `write_line`, with its readings of the clock: the day, the name of a rotated file, and the times
that the file system gives to a new file and to a written one. -/
structure WriteCall where
  line : List Char
  dayAt : Nat
  nameAt : Nat
  createdAt : Nat
  writtenAt : Nat
  listing : Listing

def WriteCall.readings (call : WriteCall) : List Nat := [call.dayAt, call.nameAt, call.createdAt, call.writtenAt]

def asSecs (nanos : Nat) : Nat := nanos / 1000000000

def dayOf (nanos : Nat) : Nat := asSecs nanos / 86400

def rotatedName (fileName : List Char) (nanos : Nat) : List Char :=
  fileName ++ '.' :: Nat.toDigits 10 (asSecs nanos)

/-! ### File operations -/

namespace Disk

/-- `rename` puts the active file in the place of whatever has the new name. -/
def renameActive (target : List Char) (disk : Disk) : Disk :=
  match disk.active with
  | none => disk
  | some file =>
    { disk with
      active := none
      others := disk.others.filter (fun entry => entry.name != target) ++ [⟨target, { file with origin := .rotated }⟩] }

def createActive (now : Nat) (disk : Disk) : Disk := { disk with active := some ⟨[], [], now, .active⟩ }

def entries (fileName : List Char) (disk : Disk) : List DirEntry :=
  (disk.active.map fun file => ⟨fileName, file⟩).toList ++ disk.others

/-- The entries that `cleanup_rotated` considers, oldest first. -/
def candidates (fileName : List Char) (listing : Listing) (disk : Disk) : List DirEntry :=
  ((listing.order (disk.entries fileName)).filter fun entry => fileName.isPrefixOf entry.name).insertionSort
    fun entry other => entry.file.mtime ≤ other.file.mtime

def remove (fileName : List Char) (removed : List DirEntry) (disk : Disk) : Disk :=
  { disk with
    active := if removed.any (fun entry => entry.name == fileName) then none else disk.active
    others := disk.others.filter fun entry => !removed.any fun gone => gone.name == entry.name }

/-- The candidates that are removed, `entries.len() - max_files` of them. -/
def excess (fileName : List Char) (maxFiles : Nat) (listing : Listing) (disk : Disk) : List DirEntry :=
  let candidates := disk.candidates fileName listing
  candidates.take (candidates.length - maxFiles)

def spared (fileName : List Char) (maxFiles : Nat) (listing : Listing) (disk : Disk) : List DirEntry :=
  let candidates := disk.candidates fileName listing
  candidates.drop (candidates.length - maxFiles)

def cleanupRotated (fileName : List Char) (maxFiles : Nat) (listing : Listing) (disk : Disk) : Disk :=
  if (disk.candidates fileName listing).length ≤ maxFiles then disk
  else
    { disk.remove fileName (disk.excess fileName maxFiles listing) with
      pruned := disk.pruned ++
        (disk.excess fileName maxFiles listing).map fun entry => ⟨entry, disk.spared fileName maxFiles listing⟩ }

/-- A line that is written to a file without a name is gone. -/
def append (call : WriteCall) (disk : Disk) : Disk :=
  { disk with
    active := disk.active.map fun file => { file with lines := file.lines ++ [call.line], mtime := call.writtenAt }
    written := disk.written ++ [call.line] }

end Disk

namespace RotatingFile

/-- The directory in which the log is opened: what the active file held, and the other files. -/
structure Directory (fileName : List Char) where
  held : List UInt8
  mtime : Nat
  others : List DirEntry
  distinct : (fileName :: others.map DirEntry.name).Nodup
  unwritten : ∀ entry ∈ others, entry.file.origin ≠ .active ∧ entry.file.lines = []

def new (fileName : List Char) (rotationMode : DebugLogRotationMode) (maxBytes maxFiles : Nat)
    (dir : Directory fileName) : RotatingFile where
  fileName := fileName
  rotationMode := rotationMode
  maxBytes := maxBytes
  maxFiles := maxFiles
  currentSize := dir.held.length
  disk := { active := some ⟨dir.held, [], dir.mtime, .active⟩, others := dir.others }

/-- The directory when `cleanup_rotated` is called. -/
def reopened (log : RotatingFile) (call : WriteCall) : Disk :=
  (log.disk.renameActive (rotatedName log.fileName call.nameAt)).createActive call.createdAt

def rotate (log : RotatingFile) (call : WriteCall) : RotatingFile :=
  { log with
    currentSize := 0
    disk := (log.reopened call).cleanupRotated log.fileName log.maxFiles call.listing }

def rotateIfNeeded (log : RotatingFile) (call : WriteCall) : RotatingFile :=
  match log.rotationMode with
  | .none => log
  | .size => if log.currentSize + byteLen call.line ≤ log.maxBytes then log else log.rotate call
  | .daily =>
    let day := dayOf call.dayAt
    match log.currentDay with
    | none => { log with currentDay := some day }
    | some current => if current = day then log else { log with currentDay := some day }.rotate call

def writeLine (log : RotatingFile) (call : WriteCall) : RotatingFile :=
  let log := log.rotateIfNeeded call
  { log with
    currentSize := min (UInt64.size - 1) (log.currentSize + (byteLen call.line + 1))
    disk := log.disk.append call }

def rotationDue (log : RotatingFile) (call : WriteCall) : Bool :=
  match log.rotationMode with
  | .none => false
  | .size => decide (log.maxBytes < log.currentSize + byteLen call.line)
  | .daily => log.currentDay.any fun current => current != dayOf call.dayAt

theorem writeLine_disk (log : RotatingFile) (call : WriteCall) :
    (log.writeLine call).disk =
      (if log.rotationDue call then (log.reopened call).cleanupRotated log.fileName log.maxFiles call.listing
        else log.disk).append call := by
  unfold writeLine rotateIfNeeded rotationDue
  dsimp only
  cases log.rotationMode with
  | none => rfl
  | size =>
    by_cases fits : log.currentSize + byteLen call.line ≤ log.maxBytes
    · simp only [if_pos fits, Nat.not_lt.mpr fits, decide_false, Bool.false_eq_true, if_false]
    · simp only [if_neg fits, Nat.lt_of_not_le fits, decide_true, if_true, rotate]
  | daily =>
    cases known : log.currentDay with
    | none => rfl
    | some current =>
      by_cases same : current = dayOf call.dayAt
      · simp [same]
      · simp [same, rotate, reopened]

theorem writeLine_config (log : RotatingFile) (call : WriteCall) :
    (log.writeLine call).fileName = log.fileName ∧ (log.writeLine call).maxFiles = log.maxFiles := by
  unfold writeLine rotateIfNeeded
  dsimp only
  cases log.rotationMode with
  | none => exact ⟨rfl, rfl⟩
  | size =>
    dsimp only
    split
    · exact ⟨rfl, rfl⟩
    · exact ⟨rfl, rfl⟩
  | daily =>
    dsimp only
    split
    · exact ⟨rfl, rfl⟩
    · split
      · exact ⟨rfl, rfl⟩
      · exact ⟨rfl, rfl⟩

end RotatingFile

end Anycode.Metrics
