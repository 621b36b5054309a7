import Anycode.Config.FileSteps

/-!
# Exact saves

The three saves of an existing file, with the file operation of them that fails: whether each has
its whole effect or none.
-/

namespace Anycode.Config
open Data Pipeline

inductive Save where
  | rootConfig (config : RootConfig)
  | claudeSettings (settings : Settings)
  | cliProfile (mode : CliMode) (profile : Profile)

/-- What the file loads to; a blank one counts as the default configuration. -/
def LoadsTo (toml : Toml) (bytes : List UInt8) (config : RootConfig) : Prop :=
  ∃ raw, fromUtf8 bytes = some raw ∧
    if (trim raw).isEmpty then config = .default else loadFrom toml (some bytes) = .ok config

namespace Save

def run (toml : Toml) : Save → Option Fault → File → Except ConfigError Unit × File
  | .rootConfig config => fun fault file => saveConfig toml fault file config
  | .claudeSettings settings => saveClaudeSettings toml settings
  | .cliProfile mode profile => saveProfile toml mode profile

/-- The configuration that the file is to load to. -/
def Target (toml : Toml) (bytes : List UInt8) : Save → RootConfig → Prop
  | .rootConfig config, target => target = config
  | .claudeSettings settings, target =>
    ∃ before, LoadsTo toml bytes before ∧
      target = { before with claude := { before.claude with claudeSettings := settings } }
  | .cliProfile mode profile, target => ∃ before, LoadsTo toml bytes before ∧ target = before.setProfile mode profile

/-- The file loads to the target, or it holds what it held. -/
def Exact (toml : Toml) (bytes : List UInt8) (save : Save) (fault : Option Fault) : Prop :=
  match (save.run toml fault (some bytes)).1 with
  | .ok _ => ∃ target, save.Target toml bytes target ∧ loadFrom toml (save.run toml fault (some bytes)).2 = .ok target
  | .error _ => (save.run toml fault (some bytes)).2 = some bytes

/-- How much of the new text is written when an operation fails behind the truncation. The file of
`save_config` is truncated before it is locked. -/
def torn : Save → Option Fault → Option Nat
  | .rootConfig _, fault => tornAt fault
  | _, some (.write written) => some written
  | _, _ => none

/-- No operation fails behind the truncation, or what is written until then is all that the file held. -/
def Unharmed (toml : Toml) (bytes : List UInt8) (save : Save) (fault : Option Fault) : Prop :=
  ∀ target content written, save.Target toml bytes target → toml.serialize target = .ok content →
    save.torn fault = some written → bytes = (utf8 content).take written

/-- The ways in which a save ends: it is done, it fails before the truncation or behind it. -/
inductive Ends (toml : Toml) (bytes : List UInt8) (save : Save) (fault : Option Fault) :
    Except ConfigError Unit × File → Prop
  | done {target : RootConfig} {content : List Char} (aims : save.Target toml bytes target)
      (printed : toml.serialize target = .ok content) (whole : save.torn fault = none) :
      Ends toml bytes save fault (.ok (), some (utf8 content))
  | refused {e : ConfigError}
      (early : ∀ target content, save.Target toml bytes target → toml.serialize target = .ok content →
        save.torn fault = none) :
      Ends toml bytes save fault (.error e, some bytes)
  | cut {target : RootConfig} {content : List Char} {written : Nat} (aims : save.Target toml bytes target)
      (printed : toml.serialize target = .ok content) (late : save.torn fault = some written) :
      Ends toml bytes save fault (.error .readError, some ((utf8 content).take written))

variable {toml : Toml} {bytes : List UInt8} {save : Save} {fault : Option Fault}

theorem loadsTo_iff {config : RootConfig} :
    LoadsTo toml bytes config ↔ ∃ raw, fromUtf8 bytes = some raw ∧ parseForUpdate toml raw = .ok config := by
  unfold LoadsTo
  refine exists_congr fun raw => and_congr_right fun decoded => ?_
  unfold parseForUpdate
  split
  · exact ⟨fun same => congrArg Except.ok same.symm, fun same => (Except.ok.inj same).symm⟩
  · simp only [loadFrom, decoded]
    cases toml.deserialize (migrateConfigContent toml raw) with
    | error e => simp
    | ok loaded => simp

theorem target_unique {first second : RootConfig} (one : save.Target toml bytes first)
    (other : save.Target toml bytes second) : first = second := by
  have loads {before after : RootConfig} (left : LoadsTo toml bytes before) (right : LoadsTo toml bytes after) :
      before = after := by
    obtain ⟨raw, decoded, parsed⟩ := loadsTo_iff.mp left
    obtain ⟨again, alsoDecoded, alsoParsed⟩ := loadsTo_iff.mp right
    cases decoded.symm.trans alsoDecoded
    exact Except.ok.inj (parsed.symm.trans alsoParsed)
  cases save with
  | rootConfig config => exact one.trans other.symm
  | claudeSettings settings =>
    obtain ⟨before, left, rfl⟩ := one
    obtain ⟨after, right, rfl⟩ := other
    rw [loads left right]
  | cliProfile mode profile =>
    obtain ⟨before, left, rfl⟩ := one
    obtain ⟨after, right, rfl⟩ := other
    rw [loads left right]

theorem saveConfig_ends (config : RootConfig) :
    Ends toml bytes (.rootConfig config) fault (saveConfig toml fault (some bytes) config) := by
  rcases saveConfig_cases toml fault (some bytes) config with
    ⟨content, printed, saves, done⟩ | ⟨e, early, _, done⟩ | ⟨content, written, printed, late, done⟩
  · have aims : (Save.rootConfig config).Target toml bytes config := rfl
    rw [done]
    exact .done aims printed saves.written
  · rw [done]
    refine .refused fun target content aims printed => ?_
    cases aims
    exact early content printed
  · have aims : (Save.rootConfig config).Target toml bytes config := rfl
    rw [done]
    exact .cut aims printed late

/-- Both updates end so, whatever they change. -/
theorem updateFile_ends {update : RootConfig → RootConfig}
    (aims : ∀ target, save.Target toml bytes target ↔ ∃ before, LoadsTo toml bytes before ∧ target = update before)
    (tears : save.torn fault = match fault with | some (.write written) => some written | _ => none) :
    Ends toml bytes save fault (updateFile toml update fault (some bytes)) := by
  unfold updateFile
  split
  · rename_i unopened
    refine .refused fun _ _ _ _ => ?_
    rw [tears]
    obtain rfl | rfl := unopened <;> rfl
  · rw [Option.getD_some]
    split
    · rename_i unread
      refine .refused fun _ _ _ _ => ?_
      rw [tears]
      obtain rfl | rfl := unread <;> rfl
    · dsimp only
      split
      · rename_i undecoded
        refine .refused fun target content aimed printed => ?_
        obtain ⟨before, loads, _⟩ := (aims target).mp aimed
        obtain ⟨raw, decoded, _⟩ := loads
        cases undecoded.symm.trans decoded
      · rename_i raw decoded
        split
        · rename_i e unparsed
          refine .refused fun target content aimed printed => ?_
          obtain ⟨before, loads, _⟩ := (aims target).mp aimed
          obtain ⟨_, again, parsed⟩ := loadsTo_iff.mp loads
          cases decoded.symm.trans again
          cases unparsed.symm.trans parsed
        · rename_i config parsed
          have aimed : save.Target toml bytes (update config) :=
            (aims _).mpr ⟨config, loadsTo_iff.mpr ⟨raw, decoded, parsed⟩, rfl⟩
          split
          · rename_i e unprinted
            refine .refused fun target content other printed => ?_
            cases target_unique aimed other
            cases unprinted.symm.trans printed
          · rename_i content printed
            split
            · rename_i untruncated
              refine .refused fun _ _ _ _ => ?_
              rw [tears]
              obtain rfl | rfl := untruncated <;> rfl
            · cases fault with
              | none => exact .done aimed printed tears
              | some operation =>
                cases operation with
                | write written => exact .cut aimed printed tears
                | _ => exact .done aimed printed tears

theorem run_ends (toml : Toml) (bytes : List UInt8) (save : Save) (fault : Option Fault) :
    Ends toml bytes save fault (save.run toml fault (some bytes)) := by
  cases save with
  | rootConfig config => exact saveConfig_ends config
  | claudeSettings settings =>
    refine updateFile_ends (fun _ => Iff.rfl) ?_
    cases fault with
    | none => rfl
    | some operation => cases operation <;> rfl
  | cliProfile mode profile =>
    refine updateFile_ends (fun _ => Iff.rfl) ?_
    cases fault with
    | none => rfl
    | some operation => cases operation <;> rfl

/-- A save is exact unless it fails behind the truncation, with something else in the file than
what it held. -/
theorem exact_iff (toml : Toml) (bytes : List UInt8) (save : Save) (fault : Option Fault) :
    save.Exact toml bytes fault ↔ save.Unharmed toml bytes fault := by
  have ends := run_ends toml bytes save fault
  unfold Exact
  generalize save.run toml fault (some bytes) = ended at ends ⊢
  cases ends with
  | done aims printed whole =>
    refine iff_of_true ⟨_, aims, loadFrom_serialize printed⟩ fun _ _ _ _ _ late => ?_
    rw [whole] at late
    cases late
  | refused early =>
    refine iff_of_true rfl fun target content written aims printed late => ?_
    rw [early target content aims printed] at late
    cases late
  | cut aims printed late =>
    constructor
    · intro same target content written aimed alsoPrinted torn
      obtain rfl := target_unique aims aimed
      cases printed.symm.trans alsoPrinted
      cases late.symm.trans torn
      exact (Option.some.inj same).symm
    · intro unharmed
      exact congrArg some (unharmed _ _ _ aims printed late).symm

/-- The lock of `save_config` fails, and the file is left empty. -/
theorem unlocked_save_not_exact : ¬ ∀ toml bytes save fault, Exact toml bytes save fault := by
  intro exact
  have same : some [] = some (utf8 FileSteps.glmOnlyText) :=
    exact FileSteps.glmOnlyToml (utf8 FileSteps.glmOnlyText) (.rootConfig FileSteps.glmOnly) (some .lock)
  exact FileSteps.glmOnlyText_ne_nil (utf8_injective (Option.some.inj same).symm)

end Save

end Anycode.Config
