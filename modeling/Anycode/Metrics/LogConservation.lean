import Anycode.Metrics.Rotation

/-!
# What rotation loses

Over every run of `write_line`, a line that was written is in the active file or in one rotated
file, or its file was removed as one of the oldest. A rotation breaks this when a file with lines
has the new name already, or when the cleanup counts files that are not the log's or removes the
active file.
-/

namespace Anycode.Metrics
open Data

/-! ### Lines in files -/

def DirEntry.carries (entry : DirEntry) : Bool := entry.file.origin == .rotated && !entry.file.lines.isEmpty

/-- The lines of the rotated files among the entries, file by file. -/
def carried (entries : List DirEntry) : List (List (List Char)) :=
  (entries.filter DirEntry.carries).map fun entry => entry.file.lines

theorem carried_append (first second : List DirEntry) : carried (first ++ second) = carried first ++ carried second := by
  rw [carried, List.filter_append, List.map_append]
  rfl

theorem carried_perm {entries other : List DirEntry} (perm : entries.Perm other) :
    (carried entries).Perm (carried other) := (perm.filter _).map _

theorem carried_filter {entries : List DirEntry} {p : DirEntry → Bool}
    (rest : ∀ entry ∈ entries, entry.carries = true → p entry = true) :
    carried (entries.filter p) = carried entries := by
  rw [carried, carried, List.filter_filter]
  congr 1
  refine List.filter_congr fun entry member => ?_
  cases carries : entry.carries with
  | false => rfl
  | true => rw [rest entry member carries]; rfl

namespace Disk

def activeLines (disk : Disk) : List (List Char) := (disk.active.map LogFile.lines).getD []

/-- The lines of the rotated files, of those that are there and of those that were removed. -/
def filed (disk : Disk) : List (List (List Char)) := carried disk.others ++ carried (disk.pruned.map Pruned.entry)

/-- The written lines are those of the rotated files, each file's in one piece, and those of the active file. -/
def Conserved (disk : Disk) : Prop :=
  ∃ pieces : List (List (List Char)), disk.written = pieces.flatten ++ disk.activeLines ∧ pieces.Perm disk.filed

theorem Conserved.length {disk : Disk} (conserved : disk.Conserved) :
    disk.written.length = disk.filed.flatten.length + disk.activeLines.length := by
  obtain ⟨pieces, written, perm⟩ := conserved
  rw [written, List.length_append, perm.flatten.length_eq]

end Disk

/-- The file was rotated, and no fewer than `maxFiles` files of the log stayed, none of them older. -/
structure Pruned.Oldest (maxFiles : Nat) (pruned : Pruned) : Prop where
  rotated : pruned.entry.file.origin = .rotated
  oldest : ∀ entry ∈ pruned.kept, pruned.entry.file.mtime ≤ entry.file.mtime
  beyond : maxFiles ≤ (pruned.kept.filter fun entry => entry.file.origin != .foreign).length

structure LosesNothing (maxFiles : Nat) (disk : Disk) : Prop where
  active : disk.active.isSome = true
  conserved : disk.Conserved
  pruned : ∀ pruned ∈ disk.pruned, pruned.Oldest maxFiles

/-- What every operation keeps, whatever is lost. -/
structure Shaped (fileName : List Char) (disk : Disk) : Prop where
  open_ : ∃ file, disk.active = some file ∧ file.origin = .active
  distinct : (fileName :: disk.others.map DirEntry.name).Nodup
  others : ∀ entry ∈ disk.others, entry.file.origin ≠ .active
  foreign : ∀ entry ∈ disk.others, entry.file.origin = .foreign → entry.file.lines = []

theorem Shaped.carries {fileName : List Char} {disk : Disk} (shaped : Shaped fileName disk) {entry : DirEntry}
    (member : entry ∈ disk.others) : entry.carries = true ↔ entry.file.lines ≠ [] := by
  have notActive := shaped.others entry member
  have foreign := shaped.foreign entry member
  rw [DirEntry.carries, Bool.and_eq_true, beq_iff_eq, Bool.not_eq_true', List.isEmpty_eq_false_iff]
  constructor
  · exact fun carries => carries.2
  · intro lines
    refine ⟨?_, lines⟩
    cases origin : entry.file.origin with
    | active => exact absurd origin notActive
    | rotated => rfl
    | foreign => exact absurd (foreign origin) lines

/-! ### Appending -/

theorem append_shaped {fileName : List Char} {disk : Disk} (shaped : Shaped fileName disk) (call : WriteCall) :
    Shaped fileName (disk.append call) := by
  obtain ⟨⟨file, active, origin⟩, distinct, others, foreign⟩ := shaped
  exact ⟨⟨{ file with lines := file.lines ++ [call.line], mtime := call.writtenAt }, by rw [Disk.append, active]; rfl,
    origin⟩, distinct, others, foreign⟩

theorem append_activeLines {fileName : List Char} {disk : Disk} (shaped : Shaped fileName disk) (call : WriteCall) :
    (disk.append call).activeLines = disk.activeLines ++ [call.line] := by
  obtain ⟨file, active, _⟩ := shaped.open_
  rw [Disk.activeLines, Disk.activeLines, Disk.append, active]
  rfl

theorem append_conserved {fileName : List Char} {disk : Disk} (shaped : Shaped fileName disk) (call : WriteCall)
    (conserved : disk.Conserved) : (disk.append call).Conserved := by
  obtain ⟨pieces, written, perm⟩ := conserved
  refine ⟨pieces, ?_, perm⟩
  rw [append_activeLines shaped, ← List.append_assoc, ← written]
  rfl

/-! ### Renaming and reopening -/

theorem rotatedName_ne (fileName : List Char) (nanos : Nat) : rotatedName fileName nanos ≠ fileName := by
  intro same
  have length := congrArg List.length same
  rw [rotatedName, List.length_append, List.length_cons] at length
  omega

section
variable {log : RotatingFile} (call : WriteCall)

theorem reopened_eq (shaped : Shaped log.fileName log.disk) :
    ∃ file, log.disk.active = some file ∧ log.disk.activeLines = file.lines ∧
      log.reopened call = { log.disk with
        active := some ⟨[], [], call.createdAt, .active⟩
        others := (log.disk.others.filter fun entry => entry.name != rotatedName log.fileName call.nameAt) ++
          [⟨rotatedName log.fileName call.nameAt, { file with origin := .rotated }⟩] } := by
  obtain ⟨file, active, _⟩ := shaped.open_
  refine ⟨file, active, by rw [Disk.activeLines, active]; rfl, ?_⟩
  rw [RotatingFile.reopened, Disk.renameActive, active]
  rfl

theorem reopened_shaped (shaped : Shaped log.fileName log.disk) : Shaped log.fileName (log.reopened call) := by
  obtain ⟨file, _, _, reopened⟩ := reopened_eq call shaped
  rw [reopened]
  obtain ⟨nameFree, distinct⟩ := List.nodup_cons.mp shaped.distinct
  refine ⟨⟨_, rfl, rfl⟩, List.nodup_cons.mpr ⟨?_, ?_⟩, ?_, ?_⟩
  · intro taken
    obtain ⟨entry, member, name⟩ := List.mem_map.mp taken
    rcases List.mem_append.mp member with kept | new
    · exact nameFree (List.mem_map.mpr ⟨entry, List.mem_of_mem_filter kept, name⟩)
    · rw [List.mem_singleton.mp new] at name
      exact rotatedName_ne _ _ name
  · rw [List.map_append, List.map_singleton]
    refine List.nodup_append.mpr ⟨distinct.sublist (List.filter_sublist.map _), List.nodup_singleton _, ?_⟩
    intro name taken other new
    obtain ⟨entry, member, rfl⟩ := List.mem_map.mp taken
    rw [List.mem_singleton.mp new]
    exact bne_iff_ne.mp (List.mem_filter.mp member).2
  · intro entry member
    rcases List.mem_append.mp member with kept | new
    · exact shaped.others entry (List.mem_of_mem_filter kept)
    · rw [List.mem_singleton.mp new]
      exact fun same => by cases same
  · intro entry member
    rcases List.mem_append.mp member with kept | new
    · exact shaped.foreign entry (List.mem_of_mem_filter kept)
    · rw [List.mem_singleton.mp new]
      exact fun same => by cases same

/-- No file that carries lines has the new name. -/
def NameFree (log : RotatingFile) (call : WriteCall) : Prop :=
  ∀ entry ∈ log.disk.others, entry.name = rotatedName log.fileName call.nameAt → entry.file.lines = []

theorem carried_moved (name : List Char) (file : LogFile) :
    carried [⟨name, { file with origin := .rotated }⟩] = if file.lines = [] then [] else [file.lines] := by
  cases file.lines with
  | nil => rfl
  | cons line rest => rfl

theorem flatten_carried_moved (name : List Char) (file : LogFile) :
    (carried [⟨name, { file with origin := .rotated }⟩]).flatten = file.lines := by
  rw [carried_moved]
  split
  · rename_i empty
    rw [empty]
    rfl
  · exact List.flatten_singleton

theorem reopened_conserved (shaped : Shaped log.fileName log.disk) (free : NameFree log call)
    (conserved : log.disk.Conserved) : (log.reopened call).Conserved := by
  obtain ⟨file, _, lines, reopened⟩ := reopened_eq call shaped
  obtain ⟨pieces, written, perm⟩ := conserved
  have kept : carried (log.disk.others.filter fun entry => entry.name != rotatedName log.fileName call.nameAt) =
      carried log.disk.others := by
    refine carried_filter fun entry member carries => bne_iff_ne.mpr fun name => ?_
    exact (shaped.carries member).mp carries (free entry member name)
  have moved := flatten_carried_moved (rotatedName log.fileName call.nameAt) file
  rw [reopened]
  refine ⟨pieces ++ carried [⟨rotatedName log.fileName call.nameAt, { file with origin := .rotated }⟩], ?_, ?_⟩
  · rw [written, lines, List.flatten_append, moved]
    exact (List.append_nil _).symm
  · rw [Disk.filed, carried_append, kept, List.append_assoc]
    refine (perm.append_right _).trans ?_
    rw [Disk.filed, List.append_assoc]
    exact List.perm_append_comm.append_left _

/-- The renaming files the lines of the active file, and loses those of a file that has the new name. -/
theorem reopened_filed (shaped : Shaped log.fileName log.disk) :
    (log.reopened call).filed.flatten.length +
        (carried (log.disk.others.filter fun entry => entry.name == rotatedName log.fileName call.nameAt)).flatten.length =
      log.disk.filed.flatten.length + log.disk.activeLines.length := by
  obtain ⟨file, _, lines, reopened⟩ := reopened_eq call shaped
  have moved := flatten_carried_moved (rotatedName log.fileName call.nameAt) file
  have parts : (carried (log.disk.others.filter fun entry => entry.name == rotatedName log.fileName call.nameAt) ++
      carried (log.disk.others.filter fun entry => entry.name != rotatedName log.fileName call.nameAt)).flatten.length =
        (carried log.disk.others).flatten.length := by
    rw [← carried_append]
    exact (carried_perm (List.filter_append_perm _ log.disk.others)).flatten.length_eq
  rw [List.flatten_append, List.length_append] at parts
  rw [reopened, lines, Disk.filed, Disk.filed, carried_append]
  simp only [List.flatten_append, List.length_append, moved]
  omega

theorem nameFree_of_length (shaped : Shaped log.fileName log.disk)
    (full : log.disk.filed.flatten.length + log.disk.activeLines.length ≤ (log.reopened call).filed.flatten.length) :
    NameFree log call := by
  intro entry member name
  by_contra lines
  have sizes := reopened_filed call shaped
  have inside : entry.file.lines ∈
      carried (log.disk.others.filter fun entry => entry.name == rotatedName log.fileName call.nameAt) := by
    refine List.mem_map.mpr ⟨entry, List.mem_filter.mpr ⟨List.mem_filter.mpr ⟨member, ?_⟩, ?_⟩, rfl⟩
    · exact beq_iff_eq.mpr name
    · exact (shaped.carries member).mpr lines
  have positive := List.length_pos_iff.mpr lines
  have larger := (List.sublist_flatten_of_mem inside).length_le
  omega

end

/-! ### Cleaning up -/

section
variable {fileName : List Char} {maxFiles : Nat} {listing : Listing} {disk : Disk}

theorem nodup_entries (shaped : Shaped fileName disk) : ((disk.entries fileName).map DirEntry.name).Nodup := by
  obtain ⟨file, active, _⟩ := shaped.open_
  rw [Disk.entries, active]
  exact shaped.distinct

theorem mem_candidates {entry : DirEntry} (member : entry ∈ disk.candidates fileName listing) :
    entry ∈ disk.entries fileName :=
  (listing.perm _).mem_iff.mp (List.mem_of_mem_filter ((List.mem_insertionSort _).mp member))

theorem nodup_candidates (shaped : Shaped fileName disk) :
    ((disk.candidates fileName listing).map DirEntry.name).Nodup := by
  have sorted := ((List.perm_insertionSort (fun entry other : DirEntry => entry.file.mtime ≤ other.file.mtime)
    ((listing.order (disk.entries fileName)).filter fun entry => fileName.isPrefixOf entry.name)).map DirEntry.name)
  refine sorted.nodup_iff.mpr (List.Nodup.sublist (List.filter_sublist.map _) ?_)
  exact ((listing.perm _).map _).nodup_iff.mpr (nodup_entries shaped)

theorem oldest_first {entry other : DirEntry} (removed : entry ∈ disk.excess fileName maxFiles listing)
    (kept : other ∈ disk.spared fileName maxFiles listing) : entry.file.mtime ≤ other.file.mtime := by
  have total : Std.Total fun entry other : DirEntry => entry.file.mtime ≤ other.file.mtime :=
    ⟨fun entry other => Nat.le_total entry.file.mtime other.file.mtime⟩
  have trans : IsTrans DirEntry fun entry other => entry.file.mtime ≤ other.file.mtime :=
    ⟨fun _ _ _ => Nat.le_trans⟩
  have sorted : (disk.candidates fileName listing).Pairwise fun entry other => entry.file.mtime ≤ other.file.mtime :=
    List.pairwise_insertionSort _ _
  rw [← List.take_append_drop ((disk.candidates fileName listing).length - maxFiles) (disk.candidates fileName listing),
    List.pairwise_append] at sorted
  exact sorted.2.2 entry removed other kept

/-- A candidate that is not the active file is one of the other files. -/
theorem candidate_others (shaped : Shaped fileName disk) {entry : DirEntry}
    (member : entry ∈ disk.candidates fileName listing) (passive : entry.file.origin ≠ .active) :
    entry ∈ disk.others := by
  obtain ⟨file, active, origin⟩ := shaped.open_
  have inside := mem_candidates member
  rw [Disk.entries, active] at inside
  rcases List.mem_cons.mp inside with rfl | other
  · exact absurd origin passive
  · exact other

theorem remove_active (shaped : Shaped fileName disk) {removed : List DirEntry}
    (others : ∀ entry ∈ removed, entry ∈ disk.others) : (disk.remove fileName removed).active = disk.active := by
  have nameFree := (List.nodup_cons.mp shaped.distinct).1
  have stays : removed.any (fun entry => entry.name == fileName) = false := by
    refine Bool.eq_false_iff.mpr fun gone => nameFree ?_
    obtain ⟨entry, member, name⟩ := List.any_eq_true.mp gone
    exact List.mem_map.mpr ⟨entry, others entry member, beq_iff_eq.mp name⟩
  rw [Disk.remove, stays, if_neg Bool.false_ne_true]

theorem remove_shaped (shaped : Shaped fileName disk) {removed : List DirEntry}
    (others : ∀ entry ∈ removed, entry ∈ disk.others) : Shaped fileName (disk.remove fileName removed) := by
  refine ⟨?_, ?_, fun entry member => shaped.others entry (List.mem_of_mem_filter member),
    fun entry member => shaped.foreign entry (List.mem_of_mem_filter member)⟩
  · rw [remove_active shaped others]
    exact shaped.open_
  · exact shaped.distinct.sublist ((List.filter_sublist.map _).cons_cons _)

/-- The removed files and those that stay are the files that were there. -/
theorem remove_perm (shaped : Shaped fileName disk) {removed : List DirEntry}
    (others : ∀ entry ∈ removed, entry ∈ disk.others) (distinct : (removed.map DirEntry.name).Nodup) :
    (removed ++ (disk.remove fileName removed).others).Perm disk.others := by
  have unique := (List.nodup_cons.mp shaped.distinct).2
  have gone : removed.Perm (disk.others.filter fun entry => removed.any fun gone => gone.name == entry.name) := by
    refine (List.perm_ext_iff_of_nodup distinct.of_map (unique.of_map.filter _)).mpr fun entry => ?_
    rw [List.mem_filter, List.any_eq_true]
    constructor
    · exact fun member => ⟨others entry member, entry, member, beq_self_eq_true entry.name⟩
    · rintro ⟨member, other, otherGone, name⟩
      rwa [List.inj_on_of_nodup_map unique member (others other otherGone) (beq_iff_eq.mp name).symm]
  exact (gone.append_right _).trans (List.filter_append_perm _ _)

theorem cleanupRotated_eq :
    disk.cleanupRotated fileName maxFiles listing =
      { disk.remove fileName (disk.excess fileName maxFiles listing) with
        pruned := disk.pruned ++
          (disk.excess fileName maxFiles listing).map fun entry => ⟨entry, disk.spared fileName maxFiles listing⟩ } := by
  rw [Disk.cleanupRotated]
  split
  · rename_i few
    have none : disk.excess fileName maxFiles listing = [] := by
      rw [Disk.excess, Nat.sub_eq_zero_of_le few, List.take_zero]
    rw [none]
    simp [Disk.remove]
  · rfl

/-- Where something is removed, all the candidates are the log's, and the active file is not removed. -/
def PrunesOwn (fileName : List Char) (maxFiles : Nat) (listing : Listing) (disk : Disk) : Prop :=
  ∀ entry ∈ disk.excess fileName maxFiles listing, entry.file.origin ≠ .active ∧
    ∀ candidate ∈ disk.candidates fileName listing, candidate.file.origin ≠ .foreign

theorem excess_others (shaped : Shaped fileName disk) (own : PrunesOwn fileName maxFiles listing disk) :
    ∀ entry ∈ disk.excess fileName maxFiles listing, entry ∈ disk.others :=
  fun entry removed => candidate_others shaped (List.mem_of_mem_take removed) (own entry removed).1

theorem cleanup_shaped (shaped : Shaped fileName disk) (own : PrunesOwn fileName maxFiles listing disk) :
    Shaped fileName (disk.cleanupRotated fileName maxFiles listing) := by
  obtain ⟨opened, distinct, others, foreign⟩ := remove_shaped shaped (excess_others shaped own)
  rw [cleanupRotated_eq]
  exact ⟨opened, distinct, others, foreign⟩

/-- A cleanup of rotated files keeps account of their lines. -/
theorem cleanup_filed (shaped : Shaped fileName disk) (own : PrunesOwn fileName maxFiles listing disk) :
    (disk.cleanupRotated fileName maxFiles listing).filed.Perm disk.filed := by
  have unique : ((disk.excess fileName maxFiles listing).map DirEntry.name).Nodup :=
    (nodup_candidates shaped).sublist ((List.take_sublist _ _).map _)
  have parts := carried_perm (remove_perm shaped (excess_others shaped own) unique)
  rw [carried_append] at parts
  have entries : ((disk.excess fileName maxFiles listing).map fun entry : DirEntry =>
      (⟨entry, disk.spared fileName maxFiles listing⟩ : Pruned)).map Pruned.entry =
        disk.excess fileName maxFiles listing := by
    rw [List.map_map]
    exact List.map_id _
  rw [cleanupRotated_eq, Disk.filed, Disk.filed]
  dsimp only
  rw [List.map_append, entries, carried_append]
  refine (List.perm_append_comm.append_left _).trans ?_
  rw [← List.append_assoc]
  exact (List.perm_append_comm.trans parts).append_right _

theorem cleanup_activeLines (shaped : Shaped fileName disk) (own : PrunesOwn fileName maxFiles listing disk) :
    (disk.cleanupRotated fileName maxFiles listing).activeLines = disk.activeLines := by
  rw [Disk.activeLines, Disk.activeLines, ← remove_active shaped (excess_others shaped own), cleanupRotated_eq]

theorem length_spared {entry : DirEntry} (removed : entry ∈ disk.excess fileName maxFiles listing) :
    (disk.spared fileName maxFiles listing).length = maxFiles := by
  have some := List.length_pos_of_mem removed
  rw [Disk.excess, List.length_take] at some
  rw [Disk.spared, List.length_drop]
  omega

theorem cleanup_conserved (shaped : Shaped fileName disk) (own : PrunesOwn fileName maxFiles listing disk)
    (conserved : disk.Conserved) : (disk.cleanupRotated fileName maxFiles listing).Conserved := by
  obtain ⟨pieces, written, perm⟩ := conserved
  refine ⟨pieces, ?_, perm.trans (cleanup_filed shaped own).symm⟩
  rw [cleanup_activeLines shaped own, cleanupRotated_eq]
  exact written

theorem cleanup_oldest (own : PrunesOwn fileName maxFiles listing disk)
    (earlier : ∀ pruned ∈ disk.pruned, pruned.Oldest maxFiles) :
    ∀ pruned ∈ (disk.cleanupRotated fileName maxFiles listing).pruned, pruned.Oldest maxFiles := by
  rw [cleanupRotated_eq]
  intro pruned member
  rcases List.mem_append.mp member with before | now
  · exact earlier pruned before
  · obtain ⟨entry, removed, rfl⟩ := List.mem_map.mp now
    obtain ⟨notActive, noneForeign⟩ := own entry removed
    refine ⟨?_, fun other kept => oldest_first removed kept, ?_⟩
    · have notForeign := noneForeign entry (List.mem_of_mem_take removed)
      dsimp only
      cases origin : entry.file.origin with
      | active => exact absurd origin notActive
      | rotated => rfl
      | foreign => exact absurd origin notForeign
    · have all : ∀ other ∈ disk.spared fileName maxFiles listing, (other.file.origin != .foreign) = true :=
        fun other kept => bne_iff_ne.mpr (noneForeign other (List.mem_of_mem_drop kept))
      rw [List.filter_eq_self.mpr all, length_spared removed]

/-- Removed files that were all rotated, in favour of enough of the log's own, leave no foreign candidate. -/
theorem prunesOwn_of_oldest
    (oldest : ∀ pruned ∈ (disk.cleanupRotated fileName maxFiles listing).pruned, pruned.Oldest maxFiles) :
    PrunesOwn fileName maxFiles listing disk := by
  rw [cleanupRotated_eq] at oldest
  have each : ∀ entry ∈ disk.excess fileName maxFiles listing,
      Pruned.Oldest maxFiles ⟨entry, disk.spared fileName maxFiles listing⟩ :=
    fun entry removed => oldest _ (List.mem_append_right _ (List.mem_map.mpr ⟨entry, removed, rfl⟩))
  intro entry removed
  refine ⟨?_, fun candidate member => ?_⟩
  · rw [(each entry removed).rotated]
    exact fun same => by cases same
  · rw [← List.take_append_drop ((disk.candidates fileName listing).length - maxFiles)
      (disk.candidates fileName listing)] at member
    rcases List.mem_append.mp member with gone | kept
    · rw [(each candidate gone).rotated]
      exact fun same => by cases same
    · have beyond := (each entry removed).beyond
      have whole := Nat.le_antisymm (List.length_filter_le _ _) (Nat.le_trans (length_spared removed).le beyond)
      exact bne_iff_ne.mp (List.length_filter_eq_length_iff.mp whole candidate kept)

end

/-! ### Runs -/

/-- A rotation in this call loses no lines and removes no file that it should keep. -/
def RotatesSafely (log : RotatingFile) (call : WriteCall) : Prop :=
  log.rotationDue call = true →
    NameFree log call ∧ PrunesOwn log.fileName log.maxFiles call.listing (log.reopened call)

structure Sound (log : RotatingFile) : Prop where
  shaped : Shaped log.fileName log.disk
  keeps : LosesNothing log.maxFiles log.disk

section
variable {log : RotatingFile} {call : WriteCall}

theorem reopened_records (shaped : Shaped log.fileName log.disk) :
    (log.reopened call).pruned = log.disk.pruned ∧ (log.reopened call).written = log.disk.written := by
  obtain ⟨file, _, _, reopened⟩ := reopened_eq call shaped
  rw [reopened]
  exact ⟨rfl, rfl⟩

theorem sound_append {disk : Disk} (shaped : Shaped log.fileName disk) (conserved : disk.Conserved)
    (oldest : ∀ pruned ∈ disk.pruned, pruned.Oldest log.maxFiles) (same : (log.writeLine call).disk = disk.append call) :
    Sound (log.writeLine call) := by
  obtain ⟨fileName, maxFiles⟩ := log.writeLine_config call
  have after := append_shaped shaped call
  obtain ⟨file, active, _⟩ := after.open_
  refine ⟨by rw [fileName, same]; exact after, ?_⟩
  rw [maxFiles, same]
  exact ⟨by rw [active]; rfl, append_conserved shaped call conserved, oldest⟩

theorem writeLine_sound (sound : Sound log) (safely : RotatesSafely log call) : Sound (log.writeLine call) := by
  obtain ⟨shaped, _, conserved, oldest⟩ := sound
  have disk := log.writeLine_disk call
  cases due : log.rotationDue call with
  | false =>
    rw [due, if_neg Bool.false_ne_true] at disk
    exact sound_append shaped conserved oldest disk
  | true =>
    obtain ⟨free, own⟩ := safely due
    have reshaped := reopened_shaped call shaped
    rw [due, if_pos rfl] at disk
    refine sound_append (cleanup_shaped reshaped own) ?_ ?_ disk
    · exact cleanup_conserved reshaped own (reopened_conserved call shaped free conserved)
    · exact cleanup_oldest own (by rwa [(reopened_records shaped).1])

/-- The lines in the files are as many as were written, so none was in a file that the renaming replaced. -/
theorem rotatesSafely_of_losesNothing (sound : Sound log)
    (keeps : LosesNothing (log.writeLine call).maxFiles (log.writeLine call).disk) : RotatesSafely log call := by
  intro due
  obtain ⟨shaped, _, conserved, _⟩ := sound
  obtain ⟨_, after, oldest⟩ := keeps
  have disk := log.writeLine_disk call
  rw [due, if_pos rfl] at disk
  rw [(log.writeLine_config call).2, disk] at oldest
  rw [disk] at after
  have own := prunesOwn_of_oldest oldest
  have reshaped := reopened_shaped call shaped
  refine ⟨nameFree_of_length call shaped ?_, own⟩
  have total := after.length
  rw [append_activeLines (cleanup_shaped reshaped own), cleanup_activeLines reshaped own] at total
  have written : (((log.reopened call).cleanupRotated log.fileName log.maxFiles call.listing).append call).written =
      log.disk.written ++ [call.line] := by
    rw [Disk.append, cleanupRotated_eq]
    exact congrArg (· ++ [call.line]) (reopened_records shaped).2
  have filed :
      (((log.reopened call).cleanupRotated log.fileName log.maxFiles call.listing).append call).filed.flatten.length =
        (log.reopened call).filed.flatten.length := (cleanup_filed reshaped own).flatten.length_eq
  have empty : (log.reopened call).activeLines = [] := rfl
  rw [written, filed, empty, List.length_append, conserved.length, List.nil_append] at total
  omega

/-- In every run, nothing is lost up to any of its states exactly when every rotation on the way is safe. -/
theorem rotation_losesNothing_iff (fileName : List Char) (rotationMode : DebugLogRotationMode) (maxBytes maxFiles : Nat)
    (dir : RotatingFile.Directory fileName) (calls : List WriteCall) :
    Throughout RotatingFile.writeLine (fun log => LosesNothing log.maxFiles log.disk)
        (.new fileName rotationMode maxBytes maxFiles dir) calls ↔
      Along RotatingFile.writeLine RotatesSafely (.new fileName rotationMode maxBytes maxFiles dir) calls := by
  refine throughout_iff_along (I := Sound) (G := fun _ _ => True) (fun _ sound => sound.keeps)
    (fun _ _ sound _ safely => writeLine_sound sound safely)
    (fun _ _ sound _ keeps => rotatesSafely_of_losesNothing sound keeps) ?_ (along_iff.mpr fun _ _ _ _ => trivial)
  have none : carried dir.others = [] := by
    refine List.map_eq_nil_iff.mpr (List.filter_eq_nil_iff.mpr fun entry member carries => ?_)
    rw [DirEntry.carries, (dir.unwritten entry member).2, Bool.and_eq_true] at carries
    cases carries.2
  refine ⟨⟨⟨_, rfl, rfl⟩, dir.distinct, fun entry member => (dir.unwritten entry member).1,
    fun entry member _ => (dir.unwritten entry member).2⟩, rfl, ⟨[], rfl, ?_⟩, List.forall_mem_nil _⟩
  rw [Disk.filed, RotatingFile.new, none]
  exact .refl _

end

/-! ### Two rotations in a second -/

def listed : Listing := ⟨id, fun _ => .refl _⟩

def smallLog : RotatingFile := .new ['l', 'o', 'g'] .size 3 5 ⟨[], 0, [], List.nodup_singleton _, List.forall_mem_nil _⟩

def callAt (nanos : Nat) (line : List Char) : WriteCall := ⟨line, nanos, nanos, nanos, nanos, listed⟩

def quickCalls : List WriteCall := [callAt 1 ['a', 'a'], callAt 2 ['b', 'b'], callAt 3 ['c', 'c']]

/-- The second rotation renames over the file of the first one. -/
theorem quickCalls_lose :
    (quickCalls.flatMap WriteCall.readings).Pairwise (· ≤ ·) ∧
      ¬ Throughout RotatingFile.writeLine (fun log => LosesNothing log.maxFiles log.disk) smallLog quickCalls := by
  refine ⟨by decide, fun keeps => ?_⟩
  have lengths := (throughout_iff.mp keeps quickCalls [] (List.append_nil _).symm).conserved.length
  revert lengths
  decide

end Anycode.Metrics
