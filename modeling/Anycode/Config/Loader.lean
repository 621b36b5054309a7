import Anycode.Config.Credentials
import Anycode.Config.Types
import Anycode.Data.Assoc
import Anycode.Pipeline.ModelRewrite

/-!
# The configuration file

Loading, migration, validation and the saves of `config/loader.rs`, with the in-memory copy of
`config/store.rs`. A save is given the file operation of it that fails.
-/

namespace Anycode.Config
open Data Pipeline

inductive ConfigError where
  | readError
  | parseError (source : String)
  | validationError (message : String)
  deriving DecidableEq

/-- What the program uses of the `toml` crate, the derived (de)serialization included. -/
structure Toml where
  Value : Type
  /-- A document is a table. -/
  fromStr : List Char → Option (Assoc String Value)
  toStringPretty : Assoc String Value → Option (List Char)
  table : Assoc String Value → Value
  deserialize : List Char → Except String RootConfig
  serialize : RootConfig → Except String (List Char)
  /-- A printed configuration is read back as it was. -/
  deserialize_serialize : ∀ config text, serialize config = .ok text → deserialize text = .ok config
  /-- Every field is printed, the `claude` profile with the others. -/
  claude_serialize : ∀ config text, serialize config = .ok text →
    ∃ root, fromStr text = some root ∧ (root.find "claude").isSome = true

/-- The bytes at a path, if a file is there. -/
abbrev File := Option (List UInt8)

/-- The file operation that fails. A failed write has written some bytes already. -/
inductive Fault where
  | createDir
  | openFile
  | lock
  | read
  | seek
  | setLen
  | write (written : Nat)
  | reload
  deriving DecidableEq

/-! ### Validation -/

def RootConfig.validateFor (config : RootConfig) (mode : CliMode) : Except ConfigError Unit :=
  let profile := config.profile mode
  if profile.backends.isEmpty then
    if mode = .copilot then .ok ()
    else .error (.validationError ("No backends configured for " ++ mode.profileKey ++ " profile"))
  else
    let active := profile.defaults.active
    match profile.backends.find? fun backend => backend.name == active with
    | none =>
      .error (.validationError
        ("[" ++ mode.profileKey ++ "] Active backend '" ++ active ++ "' not found in configured backends"))
    | some backend =>
      if !backend.isConfigured then
        .error (.validationError
          ("[" ++ mode.profileKey ++ "] Active backend '" ++ backend.name ++
            "' is not configured — set api_key in config"))
      else
        match profile.agents with
        | none => .ok ()
        | some agents =>
          if !profile.hasBackend agents.teammateBackend then
            .error (.validationError
              ("[" ++ mode.profileKey ++ "] agents.teammate_backend '" ++ agents.teammateBackend ++
                "' not found in configured backends"))
          else
            match agents.subagentBackend with
            | none => .ok ()
            | some subagent =>
              if !profile.hasBackend subagent then
                .error (.validationError
                  ("[" ++ mode.profileKey ++ "] agents.subagent_backend '" ++ subagent ++
                    "' not found in configured backends"))
              else .ok ()

theorem default_valid (mode : CliMode) : RootConfig.default.validateFor mode = .ok () := by
  cases mode <;> rfl

/-! ### Migration and loading -/

section
variable (toml : Toml)

/-- The old flat sections moved under `claude`; `none` if the document is not of the old form. -/
def migrateTomlValue (root : Assoc String toml.Value) : Option (Assoc String toml.Value) :=
  if (root.find "claude").isSome then none
  else if (root.find "backends").isNone && (root.find "defaults").isNone then none
  else
    let sections := ["defaults", "backends", "agents", "claude_settings"]
    let claudeTable := sections.foldl
      (fun claudeTable key =>
        match root.find key with
        | some value => Assoc.insert key value claudeTable
        | none => claudeTable) []
    some (Assoc.insert "claude" (toml.table claudeTable) (sections.foldl (fun root key => Assoc.erase key root) root))

def migrateConfigContent (content : List Char) : List Char :=
  match toml.fromStr content with
  | none => content
  | some value =>
    match migrateTomlValue toml value with
    | none => content
    | some migrated => (toml.toStringPretty migrated).getD content

def loadFrom (file : File) : Except ConfigError RootConfig :=
  match file with
  | none => .ok .default
  | some bytes =>
    match fromUtf8 bytes with
    | none => .error .readError
    | some content =>
      match toml.deserialize (migrateConfigContent toml content) with
      | .error source => .error (.parseError source)
      | .ok config => .ok config

/-- `Config::load`: a file of the old program is taken over where there is no other. -/
def load (legacy file : File) : Except ConfigError RootConfig × File :=
  let taken := file.or legacy
  (loadFrom toml taken, taken)

/-! ### Saving -/

/-- How much of the text is in the file when `save_config` fails behind the truncating open. -/
def tornAt : Option Fault → Option Nat
  | some .lock => some 0
  | some (.write written) => some written
  | _ => none

/-- The file is truncated when it is opened, before it is locked. -/
def saveConfig (fault : Option Fault) (file : File) (config : RootConfig) : Except ConfigError Unit × File :=
  if fault = some .createDir then (.error .readError, file)
  else
    match toml.serialize config with
    | .error e => (.error (.validationError ("Failed to serialize config: " ++ e)), file)
    | .ok content =>
      if fault = some .openFile then (.error .readError, file)
      else
        match tornAt fault with
        | some written => (.error .readError, some ((utf8 content).take written))
        | none => (.ok (), some (utf8 content))

def parseForUpdate (raw : List Char) : Except String RootConfig :=
  if (trim raw).isEmpty then .ok .default else toml.deserialize (migrateConfigContent toml raw)

/-- The common body of `save_claude_settings` and `save_profile`: the file is read, changed and
written back under one lock, and truncated just before it is written. -/
def updateFile (update : RootConfig → RootConfig) (fault : Option Fault) (file : File) :
    Except ConfigError Unit × File :=
  if fault = some .createDir ∨ fault = some .openFile then (.error .readError, file)
  else
    let opened := file.getD []
    if fault = some .lock ∨ fault = some .read then (.error .readError, some opened)
    else
      match fromUtf8 opened with
      | none => (.error .readError, some opened)
      | some raw =>
        match parseForUpdate toml raw with
        | .error e => (.error (.validationError ("Failed to parse config: " ++ e)), some opened)
        | .ok config =>
          match toml.serialize (update config) with
          | .error e => (.error (.validationError ("Failed to serialize config: " ++ e)), some opened)
          | .ok content =>
            if fault = some .seek ∨ fault = some .setLen then (.error .readError, some opened)
            else
              match fault with
              | some (.write written) => (.error .readError, some ((utf8 content).take written))
              | _ => (.ok (), some (utf8 content))

def setClaudeSettings (settings : Settings) (config : RootConfig) : RootConfig :=
  { config with claude := { config.claude with claudeSettings := settings } }

def saveClaudeSettings (settings : Settings) : Option Fault → File → Except ConfigError Unit × File :=
  updateFile toml (setClaudeSettings settings)

def saveProfile (mode : CliMode) (profile : Profile) : Option Fault → File → Except ConfigError Unit × File :=
  updateFile toml fun config => config.setProfile mode profile

/-! ### What a save leaves in the file -/

variable {toml}

theorem migrateConfigContent_serialize {config : RootConfig} {content : List Char}
    (printed : toml.serialize config = .ok content) : migrateConfigContent toml content = content := by
  obtain ⟨root, parsed, new⟩ := toml.claude_serialize config content printed
  simp only [migrateConfigContent, parsed, migrateTomlValue, new, if_true]

/-- The file is the document of the configuration. -/
def Holds (toml : Toml) (file : File) (config : RootConfig) : Prop :=
  ∃ content, toml.serialize config = .ok content ∧ file = some (utf8 content)

theorem loadFrom_serialize {config : RootConfig} {content : List Char}
    (printed : toml.serialize config = .ok content) : loadFrom toml (some (utf8 content)) = .ok config := by
  simp only [loadFrom, fromUtf8_utf8, migrateConfigContent_serialize printed,
    toml.deserialize_serialize config content printed]

/-- A saved configuration is loaded as it was. -/
theorem load_of_holds {legacy file : File} {config : RootConfig} (holds : Holds toml file config) :
    (load toml legacy file).1 = .ok config := by
  obtain ⟨content, printed, rfl⟩ := holds
  exact loadFrom_serialize printed

/-- The configuration can be printed, and no operation on the file fails. -/
structure Saves (toml : Toml) (fault : Option Fault) (config : RootConfig) : Prop where
  printed : ∃ content, toml.serialize config = .ok content
  created : fault ≠ some .createDir
  opened : fault ≠ some .openFile
  written : tornAt fault = none

theorem saveConfig_cases (toml : Toml) (fault : Option Fault) (file : File) (config : RootConfig) :
    (∃ content, toml.serialize config = .ok content ∧ Saves toml fault config ∧
        saveConfig toml fault file config = (.ok (), some (utf8 content))) ∨
      (∃ e, (∀ content, toml.serialize config = .ok content → tornAt fault = none) ∧ ¬ Saves toml fault config ∧
        saveConfig toml fault file config = (.error e, file)) ∨
      ∃ content written, toml.serialize config = .ok content ∧ tornAt fault = some written ∧
        saveConfig toml fault file config = (.error .readError, some ((utf8 content).take written)) := by
  unfold saveConfig
  split
  · rename_i missing
    exact .inr (.inl ⟨_, fun _ _ => by rw [missing]; rfl, fun saves => saves.created missing, rfl⟩)
  · rename_i created
    split
    · rename_i e failed
      refine .inr (.inl ⟨_, fun content printed => ?_, ?_, rfl⟩)
      · cases failed.symm.trans printed
      · intro saves
        obtain ⟨content, printed⟩ := saves.printed
        cases failed.symm.trans printed
    · rename_i content printed
      split
      · rename_i closed
        exact .inr (.inl ⟨_, fun _ _ => by rw [closed]; rfl, fun saves => saves.opened closed, rfl⟩)
      · rename_i opened
        cases torn : tornAt fault with
        | some written => exact .inr (.inr ⟨content, written, printed, rfl, rfl⟩)
        | none => exact .inl ⟨content, printed, ⟨⟨content, printed⟩, created, opened, torn⟩, rfl⟩

/-- What an attempt to save leaves: the edited configuration in the file or, when it is refused
without a failing operation, an existing file as it was. -/
inductive Outcome (toml : Toml) (fault : Option Fault) (before : File) (edited : Option RootConfig) : Bool → File → Prop
  | saved {config : RootConfig} {after : File} (is : edited = some config) (holds : Holds toml after config) :
    Outcome toml fault before edited true after
  | refused {after : File} (kept : fault = none → ∀ bytes, before = some bytes → after = some bytes) :
    Outcome toml fault before edited false after

theorem Outcome.untouched {fault : Option Fault} {before : File} {edited : Option RootConfig} :
    Outcome toml fault before edited false before :=
  .refused fun _ _ existing => existing

theorem saveConfig_outcome (fault : Option Fault) (file : File) (config : RootConfig) :
    Outcome toml fault file (some config) (saveConfig toml fault file config).1.toBool
      (saveConfig toml fault file config).2 := by
  rcases saveConfig_cases toml fault file config with
    ⟨content, printed, _, done⟩ | ⟨e, _, _, done⟩ | ⟨content, written, _, torn, done⟩
  · rw [done]
    exact .saved rfl ⟨content, printed, rfl⟩
  · rw [done]
    exact .untouched
  · rw [done]
    refine .refused fun sound => ?_
    rw [sound] at torn
    cases torn

theorem updateFile_outcome (update : RootConfig → RootConfig) (fault : Option Fault) (file : File) :
    Outcome toml fault file
      (((fromUtf8 (file.getD [])).bind fun raw => (parseForUpdate toml raw).toOption).bind fun config => some (update config))
      (updateFile toml update fault file).1.toBool (updateFile toml update fault file).2 := by
  have opened {edited : Option RootConfig} : Outcome toml fault file edited false (some (file.getD [])) := by
    refine .refused fun _ bytes existing => ?_
    rw [existing, Option.getD_some]
  unfold updateFile
  split
  · exact .untouched
  · split
    · exact opened
    · dsimp only
      split
      · exact opened
      · rename_i raw decoded
        split
        · exact opened
        · rename_i config parsed
          split
          · exact opened
          · rename_i content printed
            split
            · exact opened
            · split
              · exact .refused nofun
              · have holds : Holds toml (some (utf8 content)) (update config) := ⟨content, printed, rfl⟩
                refine .saved ?_ holds
                rw [decoded, Option.bind_some, parsed]
                rfl

theorem saveConfig_done {file : File} {config : RootConfig} {content : List Char}
    (printed : toml.serialize config = .ok content) :
    saveConfig toml none file config = (.ok (), some (utf8 content)) := by
  simp only [saveConfig, printed, reduceCtorEq, if_false, tornAt]

end

/-! ### The store -/

/-- The copy in memory, and the file at the store's path. -/
structure ConfigStore where
  inner : RootConfig
  file : File

/-- A reload that fails keeps the copy. -/
def ConfigStore.reload (toml : Toml) (fault : Option Fault) (store : ConfigStore) : ConfigStore :=
  if fault = some .reload then store
  else
    match loadFrom toml store.file with
    | .ok config => { store with inner := config }
    | .error _ => store

theorem ConfigStore.reload_file (toml : Toml) (fault : Option Fault) (store : ConfigStore) :
    (store.reload toml fault).file = store.file := by
  unfold ConfigStore.reload
  split
  · rfl
  · split <;> rfl

theorem ConfigStore.reload_saved {toml : Toml} (fault : Option Fault) (inner : RootConfig) {config : RootConfig}
    {content : List Char} (printed : toml.serialize config = .ok content) :
    (⟨inner, some (utf8 content)⟩ : ConfigStore).reload toml fault =
      ⟨if fault = some .reload then inner else config, some (utf8 content)⟩ := by
  unfold ConfigStore.reload
  split
  · rfl
  · rw [loadFrom_serialize printed]

/-! ### A crate -/

theorem find?_text {documents : List (RootConfig × List Char)} {document : RootConfig × List Char}
    (distinct : documents.Pairwise fun a b => a.2 ≠ b.2) (member : document ∈ documents) :
    documents.find? (fun other => other.2 = document.2) = some document := by
  induction distinct with
  | nil => cases member
  | @cons first rest different _ ih =>
    rcases List.mem_cons.mp member with rfl | later
    · rw [List.find?_cons_of_pos (by simp)]
    · rw [List.find?_cons_of_neg (by simpa using different document later)]
      exact ih later

/-- A crate that knows some documents, by their texts, and reads a blank one as all defaults. -/
def Toml.ofDocuments (documents : List (RootConfig × List Char))
    (distinct : documents.Pairwise fun a b => a.2 ≠ b.2) : Toml where
  Value := Unit
  fromStr text :=
    if documents.any fun document => document.2 = text then some [("claude", ())]
    else if (trim text).isEmpty then some []
    else none
  toStringPretty _ := none
  table _ := ()
  deserialize text :=
    match documents.find? fun document => document.2 = text with
    | some document => .ok document.1
    | none => if (trim text).isEmpty then .ok {} else .error "unknown document"
  serialize config :=
    match documents.find? fun document => document.1 = config with
    | some document => .ok document.2
    | none => .error "unknown configuration"
  deserialize_serialize config text printed := by
    split at printed
    · rename_i document found
      cases printed
      have member := List.mem_of_find?_eq_some found
      have same : document.1 = config := by simpa using List.find?_some found
      rw [find?_text distinct member]
      exact congrArg Except.ok same
    · cases printed
  claude_serialize config text printed := by
    split at printed
    · rename_i document found
      cases printed
      have listed : (documents.any fun other => other.2 = document.2) = true :=
        List.any_eq_true.mpr ⟨document, List.mem_of_find?_eq_some found, by simp⟩
      exact ⟨_, if_pos listed, rfl⟩
    · cases printed

theorem loadFrom_ofDocuments_empty {documents : List (RootConfig × List Char)}
    (distinct : documents.Pairwise fun a b => a.2 ≠ b.2) (nonempty : ∀ document ∈ documents, document.2 ≠ []) :
    loadFrom (.ofDocuments documents distinct) (some []) = .ok {} := by
  have unknown : documents.find? (fun document => document.2 = []) = none :=
    List.find?_eq_none.mpr fun document member => by simpa using nonempty document member
  have unlisted : (documents.any fun document => document.2 = []) = false :=
    List.any_eq_false.mpr fun document member => by simpa using nonempty document member
  have decoded : fromUtf8 [] = some [] := fromUtf8_utf8 []
  have same : migrateConfigContent (.ofDocuments documents distinct) [] = [] := by
    simp only [migrateConfigContent, Toml.ofDocuments, unlisted, Bool.false_eq_true, if_false]
    rfl
  have parsed : (Toml.ofDocuments documents distinct).deserialize [] = .ok {} := by
    simp only [Toml.ofDocuments, unknown]
    rfl
  simp only [loadFrom, decoded, same, parsed]

end Anycode.Config
