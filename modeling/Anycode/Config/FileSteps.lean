import Mathlib.Logic.Function.Basic
import Anycode.Config.Loader
import Anycode.Data.Run
import Anycode.Data.RwLock

/-!
# Interleaved file operations

The steps that loads and saves of one existing file take at the file, in any order. A process
whose lock is not granted waits; reads, truncations and writes are single steps.
-/

namespace Anycode.Config
open Data

namespace FileSteps

inductive Operation where
  | loadFrom
  | saveConfig (config : RootConfig)
  | saveClaudeSettings (settings : Settings)
  | saveProfile (mode : CliMode) (profile : Profile)

/-- The last step that a process has taken at the file. -/
inductive Phase where
  | idle
  | loadOpened
  | loadLocked
  | loadRead (raw : List UInt8)
  | saveOpened (content : List UInt8)
  | saveLocked (content : List UInt8)
  | saveWritten (content : List UInt8)
  | updateOpened (update : RootConfig → RootConfig)
  | updateLocked (update : RootConfig → RootConfig)
  | updateRead (update : RootConfig → RootConfig) (raw : List UInt8)
  | updateTruncated (content : List UInt8)
  | updateWritten (content : List UInt8)

inductive Event (P : Type) where
  | start (p : P) (operation : Operation)
  | advance (p : P)

/-- The file, its lock, the processes, and what the file has held: the initial contents and those
of the saves that are completed. -/
structure State (P : Type) where
  content : List UInt8
  lock : RwLock P := .free
  phases : P → Phase := fun _ => .idle
  completed : List (List UInt8) := [content]

/-- A write at the start of the file keeps what is behind it. -/
def overwrite (content old : List UInt8) : List UInt8 := content ++ old.drop content.length

/-- What an update writes back, unless it fails on what it has read. -/
def updated (toml : Toml) (update : RootConfig → RootConfig) (raw : List UInt8) : Option (List UInt8) := do
  let text ← fromUtf8 raw
  let config ← (parseForUpdate toml text).toOption
  let content ← (toml.serialize (update config)).toOption
  return utf8 content

variable {P : Type} [DecidableEq P]

def State.setPhase (s : State P) (p : P) (phase : Phase) : State P :=
  { s with phases := Function.update s.phases p phase }

@[simp] theorem State.setPhase_self (s : State P) (p : P) (phase : Phase) : (s.setPhase p phase).phases p = phase :=
  Function.update_self _ _ _

theorem State.setPhase_other (s : State P) {p q : P} (phase : Phase) (other : q ≠ p) :
    (s.setPhase p phase).phases q = s.phases q :=
  Function.update_of_ne other _ _

/-- Opening the file: `save_config` truncates it, the others do not. -/
def start (toml : Toml) (s : State P) (p : P) : Operation → State P
  | .loadFrom => s.setPhase p .loadOpened
  | .saveConfig config =>
    match toml.serialize config with
    | .error _ => s
    | .ok content => { s with content := [] }.setPhase p (.saveOpened (utf8 content))
  | .saveClaudeSettings settings => s.setPhase p (.updateOpened (setClaudeSettings settings))
  | .saveProfile mode profile => s.setPhase p (.updateOpened fun config => config.setProfile mode profile)

def advance (toml : Toml) (s : State P) (p : P) : State P :=
  match s.phases p with
  | .idle => s
  | .loadOpened =>
    match s.lock.lockShared p with
    | none => s
    | some lock => { s with lock := lock }.setPhase p .loadLocked
  | .loadLocked => s.setPhase p (.loadRead s.content)
  | .loadRead _ => { s with lock := s.lock.release p }.setPhase p .idle
  | .saveOpened content =>
    match s.lock.lockExclusive p with
    | none => s
    | some lock => { s with lock := lock }.setPhase p (.saveLocked content)
  | .saveLocked content => { s with content := overwrite content s.content }.setPhase p (.saveWritten content)
  | .saveWritten content =>
    { s with lock := s.lock.release p, completed := content :: s.completed }.setPhase p .idle
  | .updateOpened update =>
    match s.lock.lockExclusive p with
    | none => s
    | some lock => { s with lock := lock }.setPhase p (.updateLocked update)
  | .updateLocked update => s.setPhase p (.updateRead update s.content)
  | .updateRead update raw =>
    match updated toml update raw with
    | none => { s with lock := s.lock.release p }.setPhase p .idle
    | some content => { s with content := [] }.setPhase p (.updateTruncated content)
  | .updateTruncated content =>
    { s with content := overwrite content s.content }.setPhase p (.updateWritten content)
  | .updateWritten content =>
    { s with lock := s.lock.release p, completed := content :: s.completed }.setPhase p .idle

def step (toml : Toml) (s : State P) : Event P → State P
  | .start p operation =>
    match s.phases p with
    | .idle => start toml s p operation
    | _ => s
  | .advance p => advance toml s p

/-- A load that returns a configuration, and every read of an update, sees complete contents. -/
def Sound (toml : Toml) (s : State P) : Event P → Prop
  | .start _ _ => True
  | .advance p =>
    match s.phases p with
    | .loadLocked => ∀ config, loadFrom toml (some s.content) = .ok config → s.content ∈ s.completed
    | .updateLocked _ => s.content ∈ s.completed
    | _ => True

namespace Phase

/-- Between the truncating open and the lock of `save_config`. -/
def opened : Phase → Bool
  | .saveOpened _ => true
  | _ => false

/-- Under the lock, with a read or a write still to come. -/
def pending : Phase → Bool
  | .loadLocked | .saveLocked _ | .updateLocked _ | .updateRead _ _ | .updateTruncated _ => true
  | _ => false

end Phase

/-- A `save_config` opens the file while no operation under the lock is still to read or write,
and is the next one that is granted the lock. -/
def Apart (toml : Toml) (s : State P) : Event P → Prop
  | .start p (.saveConfig config) =>
    (∃ content, toml.serialize config = .ok content) → (s.phases p matches .idle) = true →
      ∀ q, (s.phases q).pending = false
  | .start _ _ => True
  | .advance p =>
    match s.phases p with
    | .loadOpened => (s.lock.lockShared p).isSome = true → ∀ q, (s.phases q).opened = false
    | .saveOpened _ => (s.lock.lockExclusive p).isSome = true → ∀ q, q ≠ p → (s.phases q).opened = false
    | .updateOpened _ => (s.lock.lockExclusive p).isSome = true → ∀ q, (s.phases q).opened = false
    | _ => True

/-! ### The invariant -/

namespace Phase

def sharing : Phase → Bool
  | .loadLocked | .loadRead _ => true
  | _ => false

def excluding : Phase → Bool
  | .saveLocked _ | .saveWritten _ | .updateLocked _ | .updateRead _ _ | .updateTruncated _ | .updateWritten _ => true
  | _ => false

/-- The file is empty by this process. -/
def blanking : Phase → Bool
  | .saveOpened _ | .saveLocked _ | .updateTruncated _ => true
  | _ => false

def written : Phase → Option (List UInt8)
  | .saveWritten content | .updateWritten content => some content
  | _ => none

end Phase

theorem Phase.excluding_of_written {phase : Phase} {content : List UInt8} (written : phase.written = some content) :
    phase.excluding = true := by
  cases phase <;> first | rfl | cases written

theorem Phase.opened_or_excluding {phase : Phase} (blanking : phase.blanking = true) :
    phase.opened = true ∨ phase.excluding = true := by
  cases phase <;> first | exact .inl rfl | exact .inr rfl | cases blanking

theorem Phase.sharing_or_excluding {phase : Phase} (pending : phase.pending = true) :
    phase.sharing = true ∨ phase.excluding = true := by
  cases phase <;> first | exact .inl rfl | exact .inr rfl | cases pending

theorem Phase.not_opened_of_excluding {phase : Phase} (excluding : phase.excluding = true) : phase.opened = false := by
  cases phase <;> first | rfl | cases excluding

theorem Phase.blanking_of_opened {phase : Phase} (opened : phase.opened = true) : phase.blanking = true := by
  cases phase <;> first | rfl | cases opened

structure Fits (s : State P) (p : P) (phase : Phase) : Prop where
  sharing : phase.sharing = true → s.lock.SharedBy p
  excluding : phase.excluding = true → s.lock = .exclusive p
  blanking : phase.blanking = true → s.content = []
  written : ∀ content, phase.written = some content → s.content = content ∨ ∃ q, (s.phases q).opened = true

omit [DecidableEq P] in
theorem fits_of_unlocked {s : State P} {p : P} {phase : Phase} (sharing : phase.sharing = false)
    (excluding : phase.excluding = false) (truncated : phase.opened = true → s.content = []) : Fits s p phase := by
  refine ⟨fun h => ?_, fun h => ?_, fun blanking => ?_, fun content wrote => ?_⟩
  · rw [sharing] at h
    cases h
  · rw [excluding] at h
    cases h
  · rcases Phase.opened_or_excluding blanking with opened | h
    · exact truncated opened
    · rw [excluding] at h
      cases h
  · have h := Phase.excluding_of_written wrote
    rw [excluding] at h
    cases h

/-- While a `save_config` waits for its lock, nothing is read or written; and the contents that
nobody is about to replace are complete. -/
structure Inv (s : State P) : Prop where
  fits : ∀ p, Fits s p (s.phases p)
  waiting : ∀ p q, (s.phases p).opened = true → (s.phases q).pending = false
  settled : (∀ p, (s.phases p).blanking = false ∧ (s.phases p).written = none) → s.content ∈ s.completed

variable {toml : Toml} {s s' : State P} {p : P} {phase : Phase}

/-- A step moves one process: what it relies on afterwards is shown for it and for the others. -/
theorem Inv.move (inv : Inv s) (moved : s'.phases = Function.update s.phases p phase)
    (mine : Fits s' p phase) (others : ∀ q, q ≠ p → Fits s' q (s.phases q))
    (apart : (phase.opened && phase.pending) = false)
    (opens : phase.opened = true → ∀ q, q ≠ p → (s.phases q).pending = false)
    (pends : phase.pending = true → ∀ q, q ≠ p → (s.phases q).opened = false)
    (settled : phase.blanking = false → phase.written = none →
      (∀ q, q ≠ p → (s.phases q).blanking = false ∧ (s.phases q).written = none) → s'.content ∈ s'.completed) :
    Inv s' := by
  have here : s'.phases p = phase := by rw [moved, Function.update_self]
  have there : ∀ q, q ≠ p → s'.phases q = s.phases q := fun q other => by
    rw [moved, Function.update_of_ne other]
  refine ⟨fun q => ?_, fun q r opened => ?_, fun quiet => ?_⟩
  · by_cases same : q = p
    · rw [same, here]
      exact mine
    · rw [there q same]
      exact others q same
  · by_cases first : q = p
    · rw [first, here] at opened
      by_cases second : r = p
      · rw [second, here]
        simpa [opened] using apart
      · rw [there r second]
        exact opens opened r second
    · rw [there q first] at opened
      by_cases second : r = p
      · rw [second, here]
        cases pending : phase.pending with
        | false => rfl
        | true => exact absurd opened (Bool.eq_false_iff.mp (pends pending q first))
      · rw [there r second]
        exact inv.waiting q r opened
  · obtain ⟨blanking, written⟩ := quiet p
    rw [here] at blanking written
    refine settled blanking written fun q other => ?_
    rw [← there q other]
    exact quiet q

omit [DecidableEq P] in
theorem Inv.not_opened (inv : Inv s) {q : P} (pending : (s.phases q).pending = true) (r : P) :
    (s.phases r).opened = false := by
  cases opened : (s.phases r).opened with
  | false => rfl
  | true => exact absurd pending (Bool.eq_false_iff.mp (inv.waiting r q opened))

omit [DecidableEq P] in
/-- A process that has its lock alone is the only one with a lock. -/
theorem Inv.alone (inv : Inv s) (excluding : (s.phases p).excluding = true) {q : P} (other : q ≠ p) :
    (s.phases q).sharing = false ∧ (s.phases q).excluding = false := by
  have held := (inv.fits p).excluding excluding
  constructor
  · cases sharing : (s.phases q).sharing with
    | false => rfl
    | true => exact absurd held (RwLock.ne_exclusive_of_sharedBy ((inv.fits q).sharing sharing) p)
  · cases second : (s.phases q).excluding with
    | false => rfl
    | true =>
      have same := held.symm.trans ((inv.fits q).excluding second)
      cases same
      exact absurd rfl other

omit [DecidableEq P] in
theorem Inv.none_excluding (inv : Inv s) (shared : ∀ q, s.lock ≠ .exclusive q) (q : P) :
    (s.phases q).excluding = false := by
  cases excluding : (s.phases q).excluding with
  | false => rfl
  | true => exact absurd ((inv.fits q).excluding excluding) (shared q)

omit [DecidableEq P] in
theorem Inv.fits_shared (inv : Inv s) (shared : ∀ q, s.lock ≠ .exclusive q) {q : P}
    (sharing : s.lock.SharedBy q → s'.lock.SharedBy q) (same : s'.content = s.content) : Fits s' q (s.phases q) := by
  have kept := inv.fits q
  refine ⟨fun h => sharing (kept.sharing h), fun h => ?_, fun h => same.trans (kept.blanking h), fun content wrote => ?_⟩
  · rw [inv.none_excluding shared q] at h
    cases h
  · have excluding := Phase.excluding_of_written wrote
    rw [inv.none_excluding shared q] at excluding
    cases excluding

theorem Inv.settled_for (inv : Inv s) (mine : (s.phases p).blanking = false ∧ (s.phases p).written = none)
    (others : ∀ q, q ≠ p → (s.phases q).blanking = false ∧ (s.phases q).written = none) :
    s.content ∈ s.completed := by
  refine inv.settled fun q => ?_
  by_cases same : q = p
  · rw [same]
    exact mine
  · exact others q same

/-- What a process reads under its lock is complete. -/
theorem Inv.complete (inv : Inv s) (stood : s.phases p = phase) (pending : phase.pending = true)
    (blanking : phase.blanking = false) (written : phase.written = none) : s.content ∈ s.completed := by
  subst stood
  apply inv.settled_for ⟨blanking, written⟩
  intro q other
  have unheld : (s.phases q).excluding = false := by
    rcases Phase.sharing_or_excluding pending with sharing | excluding
    · exact inv.none_excluding (RwLock.ne_exclusive_of_sharedBy ((inv.fits p).sharing sharing)) q
    · exact (inv.alone excluding other).2
  constructor
  · cases blank : (s.phases q).blanking with
    | false => rfl
    | true =>
      rcases Phase.opened_or_excluding blank with opened | excluding
      · exact absurd opened (Bool.eq_false_iff.mp (inv.not_opened pending q))
      · exact absurd excluding (Bool.eq_false_iff.mp unheld)
  · cases wrote : (s.phases q).written with
    | none => rfl
    | some content => exact absurd (Phase.excluding_of_written wrote) (Bool.eq_false_iff.mp unheld)

/-! ### The steps -/

theorem inv_setPhase (inv : Inv s) {before : Phase} (stood : s.phases p = before)
    (opened : before.opened = false ∧ phase.opened = false)
    (pending : phase.pending = true → before.pending = true)
    (sharing : phase.sharing = true → before.sharing = true)
    (excluding : phase.excluding = true → before.excluding = true)
    (blanking : before.blanking = false ∧ phase.blanking = false)
    (written : before.written = none ∧ phase.written = none) : Inv (s.setPhase p phase) := by
  subst stood
  have fits := inv.fits p
  apply inv.move rfl
  · refine ⟨fun h => fits.sharing (sharing h), fun h => fits.excluding (excluding h), ?_, ?_⟩
    · rw [blanking.2]
      nofun
    · rw [written.2]
      nofun
  · intro q other
    have kept := inv.fits q
    refine ⟨kept.sharing, kept.excluding, kept.blanking, fun content wrote => ?_⟩
    rcases kept.written content wrote with same | ⟨r, waiting⟩
    · exact .inl same
    · refine .inr ⟨r, ?_⟩
      have apart : r ≠ p := by
        intro same
        rw [same, opened.1] at waiting
        cases waiting
      rw [State.setPhase_other _ _ apart]
      exact waiting
  · rw [opened.2, Bool.false_and]
  · rw [opened.2]
    nofun
  · exact fun h q _ => inv.not_opened (pending h) q
  · exact fun _ _ => inv.settled_for ⟨blanking.1, written.1⟩

theorem inv_truncate (inv : Inv s) (quiet : ∀ q, (s.phases q).pending = false)
    (content : List UInt8) : Inv ({ s with content := [] }.setPhase p (.saveOpened content)) := by
  have waits : (({ s with content := [] }.setPhase p (.saveOpened content)).phases p).opened = true := by
    rw [State.setPhase_self]
    rfl
  apply inv.move rfl
  · exact ⟨nofun, nofun, fun _ => rfl, nofun⟩
  · intro q other
    have kept := inv.fits q
    exact ⟨kept.sharing, kept.excluding, fun _ => rfl, fun _ _ => .inr ⟨p, waits⟩⟩
  · rfl
  · exact fun _ q _ => quiet q
  · nofun
  · nofun

theorem inv_lockShared (inv : Inv s) (opened : s.phases p = .loadOpened) (apart : ∀ q, (s.phases q).opened = false)
    {lock : RwLock P} (granted : s.lock.lockShared p = some lock) :
    Inv ({ s with lock := lock }.setPhase p .loadLocked) := by
  obtain ⟨shared, mine, others⟩ := RwLock.lockShared_eq_some granted
  apply inv.move rfl
  · exact ⟨fun _ => mine, nofun, nofun, nofun⟩
  · exact fun q _ => inv.fits_shared shared (others q) rfl
  · rfl
  · nofun
  · exact fun _ q _ => apart q
  · exact fun _ _ => inv.settled_for (by rw [opened]; exact ⟨rfl, rfl⟩)

/-- The lock is granted alone: nobody has had it, and only this process may have been waiting
behind a truncation. -/
theorem inv_lockExclusive (inv : Inv s) {before : Phase} (stood : s.phases p = before) (phase : Phase)
    (opened : phase.opened = false) (sharing : phase.sharing = false)
    (written : before.written = none ∧ phase.written = none) (blanking : phase.blanking = before.blanking)
    (apart : ∀ q, q ≠ p → (s.phases q).opened = false)
    {lock : RwLock P} (granted : s.lock.lockExclusive p = some lock) :
    Inv ({ s with lock := lock }.setPhase p phase) := by
  subst stood
  obtain ⟨free, rfl⟩ := RwLock.lockExclusive_eq_some granted
  have nobody : ∀ q, (s.phases q).sharing = false ∧ (s.phases q).excluding = false := by
    intro q
    constructor
    · cases h : (s.phases q).sharing with
      | false => rfl
      | true => exact absurd (free ▸ (inv.fits q).sharing h) (RwLock.not_sharedBy_free q)
    · exact inv.none_excluding (fun q held => RwLock.free_ne_exclusive q (free.symm.trans held)) q
  apply inv.move rfl
  · refine ⟨fun h => ?_, fun _ => rfl, fun h => (inv.fits p).blanking (blanking ▸ h), fun content wrote => ?_⟩
    · rw [sharing] at h
      cases h
    · rw [written.2] at wrote
      cases wrote
  · intro q other
    apply fits_of_unlocked (nobody q).1 (nobody q).2
    rw [apart q other]
    nofun
  · rw [opened, Bool.false_and]
  · rw [opened]
    nofun
  · exact fun _ => apart
  · intro blank _
    exact inv.settled_for ⟨blanking ▸ blank, written.1⟩

theorem inv_replace (inv : Inv s) (held : (s.phases p).excluding = true) (pending : (s.phases p).pending = true)
    (phase : Phase) (opened : phase.opened = false) (sharing : phase.sharing = false)
    {content : List UInt8} (blanking : phase.blanking = true → content = [])
    (written : ∀ text, phase.written = some text → content = text)
    (dirty : phase.blanking = true ∨ phase.written ≠ none) :
    Inv ({ s with content := content }.setPhase p phase) := by
  apply inv.move rfl
  · refine ⟨fun h => ?_, fun _ => (inv.fits p).excluding held, blanking, fun text wrote => .inl (written text wrote)⟩
    rw [sharing] at h
    cases h
  · intro q other
    apply fits_of_unlocked (inv.alone held other).1 (inv.alone held other).2
    rw [inv.not_opened pending q]
    nofun
  · rw [opened, Bool.false_and]
  · rw [opened]
    nofun
  · exact fun _ q _ => inv.not_opened pending q
  · intro blank clean
    rcases dirty with h | h
    · rw [blank] at h
      cases h
    · exact absurd clean h

theorem inv_releaseShared (inv : Inv s) {raw : List UInt8} (read : s.phases p = .loadRead raw) :
    Inv ({ s with lock := s.lock.release p }.setPhase p .idle) := by
  have shared : s.lock.SharedBy p := (inv.fits p).sharing (by rw [read]; rfl)
  apply inv.move rfl
  · exact ⟨nofun, nofun, nofun, nofun⟩
  · exact fun q other => inv.fits_shared (RwLock.ne_exclusive_of_sharedBy shared) (RwLock.sharedBy_release other) rfl
  · rfl
  · nofun
  · nofun
  · exact fun _ _ => inv.settled_for (by rw [read]; exact ⟨rfl, rfl⟩)

theorem inv_releaseExclusive (inv : Inv s) (held : (s.phases p).excluding = true)
    {completed : List (List UInt8)} (settled : (∀ q, q ≠ p → (s.phases q).opened = false) → s.content ∈ completed) :
    Inv ({ s with lock := s.lock.release p, completed := completed }.setPhase p .idle) := by
  apply inv.move rfl
  · exact ⟨nofun, nofun, nofun, nofun⟩
  · intro q other
    exact fits_of_unlocked (inv.alone held other).1 (inv.alone held other).2 fun opened =>
      (inv.fits q).blanking (Phase.blanking_of_opened opened)
  · rfl
  · nofun
  · nofun
  · intro _ _ quiet
    refine settled fun q other => ?_
    cases opened : (s.phases q).opened with
    | false => rfl
    | true => exact absurd (quiet q other).1 (Bool.eq_false_iff.mp · (Phase.blanking_of_opened opened))

theorem overwrite_nil (content : List UInt8) : overwrite content [] = content := by
  rw [overwrite, List.drop_nil, List.append_nil]

theorem start_inv (inv : Inv s) (idle : s.phases p = .idle) {operation : Operation}
    (apart : Apart toml s (.start p operation)) : Inv (start toml s p operation) := by
  cases operation with
  | loadFrom => exact inv_setPhase inv idle ⟨rfl, rfl⟩ nofun nofun nofun ⟨rfl, rfl⟩ ⟨rfl, rfl⟩
  | saveConfig config =>
    simp only [start]
    split
    · exact inv
    · rename_i content printed
      exact inv_truncate inv (apart ⟨content, printed⟩ (by rw [idle])) _
  | saveClaudeSettings settings => exact inv_setPhase inv idle ⟨rfl, rfl⟩ nofun nofun nofun ⟨rfl, rfl⟩ ⟨rfl, rfl⟩
  | saveProfile mode profile => exact inv_setPhase inv idle ⟨rfl, rfl⟩ nofun nofun nofun ⟨rfl, rfl⟩ ⟨rfl, rfl⟩

theorem inv_release_written (inv : Inv s) {content : List UInt8} (wrote : (s.phases p).written = some content) :
    Inv ({ s with lock := s.lock.release p, completed := content :: s.completed }.setPhase p .idle) := by
  have held := Phase.excluding_of_written wrote
  apply inv_releaseExclusive inv held
  intro quiet
  rcases (inv.fits p).written content wrote with same | ⟨q, opened⟩
  · rw [same]
    exact List.mem_cons_self
  · have other : q ≠ p := by
      rintro rfl
      rw [Phase.not_opened_of_excluding held] at opened
      cases opened
    rw [quiet q other] at opened
    cases opened

theorem advance_inv (inv : Inv s) (apart : Apart toml s (.advance p)) : Inv (advance toml s p) := by
  unfold advance
  unfold Apart at apart
  have fits := inv.fits p
  cases stood : s.phases p with
  | idle => exact inv
  | loadOpened =>
    simp only [stood] at apart ⊢
    split
    · exact inv
    · rename_i lock granted
      exact inv_lockShared inv stood (apart (by rw [granted]; rfl)) granted
  | loadLocked => exact inv_setPhase inv stood ⟨rfl, rfl⟩ nofun (fun _ => rfl) nofun ⟨rfl, rfl⟩ ⟨rfl, rfl⟩
  | loadRead raw => exact inv_releaseShared inv stood
  | saveOpened content =>
    simp only [stood] at apart ⊢
    split
    · exact inv
    · rename_i lock granted
      have alone := apart (by rw [granted]; rfl)
      exact inv_lockExclusive inv stood (.saveLocked content) rfl rfl ⟨rfl, rfl⟩ rfl alone granted
  | saveLocked content =>
    have blank := fits.blanking (by rw [stood]; rfl)
    simp only [blank, overwrite_nil]
    apply inv_replace inv (by rw [stood]; rfl) (by rw [stood]; rfl) (.saveWritten content) rfl rfl nofun
    · rintro text ⟨⟩
      rfl
    · exact .inr nofun
  | saveWritten content => exact inv_release_written inv (by rw [stood]; rfl)
  | updateOpened update =>
    simp only [stood] at apart ⊢
    split
    · exact inv
    · rename_i lock granted
      have alone := apart (by rw [granted]; rfl)
      exact inv_lockExclusive inv stood (.updateLocked update) rfl rfl ⟨rfl, rfl⟩ rfl (fun q _ => alone q) granted
  | updateLocked update =>
    exact inv_setPhase inv stood ⟨rfl, rfl⟩ (fun _ => rfl) nofun (fun _ => rfl) ⟨rfl, rfl⟩ ⟨rfl, rfl⟩
  | updateRead update raw =>
    dsimp only
    split
    · have held : (s.phases p).excluding = true := by rw [stood]; rfl
      exact inv_releaseExclusive inv held fun _ => inv.complete stood rfl rfl rfl
    · rename_i content printed
      apply inv_replace inv (by rw [stood]; rfl) (by rw [stood]; rfl) (.updateTruncated content) rfl rfl (fun _ => rfl) nofun
      exact .inl rfl
  | updateTruncated content =>
    have blank := fits.blanking (by rw [stood]; rfl)
    simp only [blank, overwrite_nil]
    apply inv_replace inv (by rw [stood]; rfl) (by rw [stood]; rfl) (.updateWritten content) rfl rfl nofun
    · rintro text ⟨⟩
      rfl
    · exact .inr nofun
  | updateWritten content => exact inv_release_written inv (by rw [stood]; rfl)

theorem step_inv {event : Event P} (inv : Inv s) (apart : Apart toml s event) : Inv (step toml s event) := by
  cases event with
  | advance p => exact advance_inv inv apart
  | start p operation =>
    unfold step
    dsimp only
    split
    · rename_i idle
      exact start_inv inv idle apart
    · exact inv

theorem sound_of_inv {event : Event P} (inv : Inv s) : Sound toml s event := by
  cases event with
  | start p operation => trivial
  | advance p =>
    cases stood : s.phases p with
    | loadLocked =>
      simp only [Sound, stood]
      exact fun _ _ => inv.complete stood rfl rfl rfl
    | updateLocked update =>
      simp only [Sound, stood]
      exact inv.complete stood rfl rfl rfl
    | _ => simp only [Sound, stood]

omit [DecidableEq P] in
theorem inv_initial (content : List UInt8) : Inv ({ content := content } : State P) :=
  ⟨fun _ => ⟨nofun, nofun, nofun, nofun⟩, nofun, fun _ => List.mem_singleton_self content⟩

/-- Every load that succeeds and every read of an update sees the complete contents of a save or
the initial ones, in a run whose `save_config`s are kept apart from the other operations. -/
theorem reads_complete (toml : Toml) (initial : List UInt8) (events : List (Event P))
    (apart : Along (step toml) (Apart toml) { content := initial } events) :
    Along (step toml) (Sound toml) { content := initial } events :=
  along_of_invariant (I := Inv) (fun _ _ => step_inv) (fun _ _ inv _ => sound_of_inv inv) (inv_initial initial) apart

def glmOnly : RootConfig :=
  { claude := { defaults := { active := "glm" },
                backends := [{ name := "glm", displayName := "GLM", baseUrl := "https://open.bigmodel.cn" }] } }

def glmOnlyText : List Char :=
  "[claude.defaults]\nactive = \"glm\"\n".toList ++
    ("[[claude.backends]]\nname = \"glm\"\ndisplay_name = \"GLM\"\n" ++
      "base_url = \"https://open.bigmodel.cn\"\nauth_type = \"passthrough\"\n").toList

theorem glmOnlyText_ne_nil : glmOnlyText ≠ [] := List.append_ne_nil_of_left_ne_nil (by decide) _

def glmOnlyToml : Toml := .ofDocuments [(glmOnly, glmOnlyText)] (List.pairwise_singleton _ _)

def waitingLoad : List (Event Bool) :=
  [.start true .loadFrom, .start false (.saveConfig glmOnly), .advance false, .advance true, .advance false,
    .advance false, .advance true, .advance true, .advance true]

theorem waitingLoad_apart {content : List Char} (printed : toml.serialize glmOnly = .ok content) (initial : List UInt8) :
    Along (step toml) (Apart toml) { content := initial } waitingLoad := by
  simp [waitingLoad, Apart, step, start, printed, advance, State.setPhase, RwLock.lockShared, RwLock.lockExclusive,
    RwLock.free, RwLock.release, Function.update, Phase.opened, Phase.pending]

theorem waitingLoad_complete :
    Along (step glmOnlyToml) (Sound glmOnlyToml) { content := utf8 glmOnlyText } waitingLoad :=
  reads_complete glmOnlyToml (utf8 glmOnlyText) waitingLoad (waitingLoad_apart rfl _)

/-- A load between the truncation and the lock of a save reads an empty file. -/
theorem truncated_not_sound {initial : List UInt8} {content : List Char} {config : RootConfig}
    (printed : toml.serialize glmOnly = .ok content) (blank : loadFrom toml (some []) = .ok config)
    (nonempty : initial ≠ []) :
    ¬ Along (step toml) (Sound toml) ({ content := initial } : State Bool)
      [.start false (.saveConfig glmOnly), .start true .loadFrom, .advance true, .advance true] := by
  intro sound
  simp [Sound, step, start, printed, advance, State.setPhase, RwLock.lockShared, RwLock.free, Function.update] at sound
  exact nonempty (sound config blank)

/-- An empty file parses, as a configuration of defaults. -/
theorem empty_file_loaded : ¬ ∀ (toml : Toml) (P : Type) [DecidableEq P] (initial : List UInt8)
    (events : List (Event P)), Along (step toml) (Sound toml) { content := initial } events := by
  intro sound
  have blank : loadFrom glmOnlyToml (some []) = .ok {} :=
    loadFrom_ofDocuments_empty _ (List.forall_mem_singleton.mpr glmOnlyText_ne_nil)
  have nonempty : utf8 glmOnlyText ≠ utf8 [] := fun same => glmOnlyText_ne_nil (utf8_injective same)
  exact truncated_not_sound rfl blank nonempty (sound glmOnlyToml Bool (utf8 glmOnlyText) _)

end FileSteps

end Anycode.Config
