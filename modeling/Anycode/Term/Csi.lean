import Anycode.Term.Feeds

/-!
# Control sequences

`ESC [`, parameter bytes, intermediate bytes and a final byte. The parser knows digits and `;`
among the parameter bytes, and no intermediate byte.
-/

namespace Anycode.Term
open Data InputParser

/-- A sequence by the grammar of terminals. -/
structure CsiSequence where
  params : List UInt8
  intermediates : List UInt8
  finalByte : UInt8
  params_range : ∀ byte ∈ params, 0x30 ≤ byte ∧ byte ≤ 0x3f
  intermediates_range : ∀ byte ∈ intermediates, 0x20 ≤ byte ∧ byte ≤ 0x2f
  final_range : 0x40 ≤ finalByte ∧ finalByte ≤ 0x7e

namespace CsiSequence

def body (sequence : CsiSequence) : List UInt8 :=
  sequence.params ++ (sequence.intermediates ++ [sequence.finalByte])

def bytes (sequence : CsiSequence) : List UInt8 := esc :: '['.toUInt8 :: sequence.body

/-- `ESC [ M` and `ESC [ <`. -/
def IntroducesMouse (sequence : CsiSequence) : Prop :=
  sequence.body = ['M'.toUInt8] ∨ sequence.params.head? = some '<'.toUInt8

/-- `ESC [ 200 ~`. -/
def StartsPaste (sequence : CsiSequence) : Prop := sequence.body = utf8 "200~".toList

/-- However it is fed, the sequence is one key event with all its bytes, and not a character, and
nothing is pending behind it. -/
def IsOneKey (sequence : CsiSequence) : Prop :=
  ∃ kind, (∀ c, kind ≠ .char c) ∧ ∀ chunks : List (List UInt8), chunks.flatten = sequence.bytes →
    serve (chunks.map .feed) = .ok ({}, [.key ⟨sequence.bytes, kind⟩])

/-- Numbers, and a final byte behind them that starts no paste. -/
structure IsNumeric (sequence : CsiSequence) : Prop where
  numbers : ∀ byte ∈ sequence.params, isParamByte byte = true
  direct : sequence.intermediates = []
  typed : ¬ PasteStart sequence.bytes

end CsiSequence

/-! ### What the key stands for -/

theorem withModifier_ne_char {base : Option KeyKind} (special : ∀ c, base ≠ some (.char c)) (params : List UInt16)
    (c : Char) : withModifier base params ≠ .char c := by
  unfold withModifier
  split
  · exact nofun
  · unfold wrapModifier
    split
    · exact nofun
    · exact fun same => special c (congrArg some same)
  · exact fun same => special c (congrArg some same)

theorem ite_ne {α : Type} {p : Prop} [Decidable p] {a b c : α} (first : a ≠ c) (second : b ≠ c) :
    (if p then a else b) ≠ c := by
  split
  · exact first
  · exact second

theorem cursorKey_ne_char (finalByte : UInt8) (c : Char) : cursorKey finalByte ≠ some (.char c) := by
  unfold cursorKey
  iterate 6 refine ite_ne nofun ?_
  exact nofun

theorem tildeKey_ne_char (code : UInt16) (c : Char) : tildeKey code ≠ some (.char c) := by
  unfold tildeKey
  iterate 12 refine ite_ne nofun ?_
  exact nofun

/-! ### Reading a sequence -/

/-- The parser behind `ESC [` and some numbers. -/
def behindNumbers : List UInt8 → InputParser
  | [] => ⟨.csiEntry, [esc, '['.toUInt8], []⟩
  | number :: rest => ⟨.csiParam, esc :: '['.toUInt8 :: number :: rest, []⟩

theorem isParamByte_iff (byte : UInt8) :
    isParamByte byte = true ↔ 0x30 ≤ byte.toNat ∧ byte.toNat ≤ 0x39 ∨ byte.toNat = 0x3b := by
  simp only [isParamByte, isAsciiDigit, Bool.or_eq_true, decide_eq_true_eq, beq_iff_eq, UInt8.le_iff_toNat_le,
    ← UInt8.toNat_inj]
  exact Iff.rfl

theorem cursorKey_eq_none {byte : UInt8} (low : byte.toNat < 0x40) : cursorKey byte = none := by
  have other : ∀ key : UInt8, 0x40 ≤ key.toNat → byte ≠ key := by
    rintro key high rfl
    omega
  unfold cursorKey
  rw [if_neg (other _ (by decide)), if_neg (other _ (by decide)), if_neg (other _ (by decide)),
    if_neg (other _ (by decide)), if_neg (other _ (by decide)), if_neg (other _ (by decide))]

theorem csiEntry_low {byte : UInt8} (low : byte.toNat < 0x40) (other : byte ≠ '<'.toUInt8) :
    csiEntry ⟨.csiEntry, [esc, '['.toUInt8], []⟩ byte =
      if isParamByte byte then .ok ⟨.csiParam, [esc, '['.toUInt8, byte], []⟩
      else .ok ⟨.ground, [], [.key ⟨[esc, '['.toUInt8, byte], .unknown⟩]⟩ := by
  have noMouse : byte ≠ 'M'.toUInt8 := by
    rintro rfl
    exact absurd low (by decide)
  unfold csiEntry
  rw [if_neg noMouse, if_neg other, cursorKey_eq_none low]
  rfl

theorem numbers_run {nums : List UInt8} (numbers : ∀ byte ∈ nums, isParamByte byte = true) :
    (esc :: '['.toUInt8 :: nums).foldlM step {} = .ok (behindNumbers nums) := by
  induction nums using List.reverseRecOn with
  | nil => rfl
  | append_singleton nums number ih =>
    obtain ⟨before, last⟩ := List.forall_mem_append.mp numbers
    have digit := last number List.mem_cons_self
    rw [← List.cons_append, ← List.cons_append, List.foldlM_append, ih before]
    show ((behindNumbers nums).step number >>= pure) = _
    cases nums with
    | nil =>
      have range := (isParamByte_iff number).mp digit
      have other : number ≠ '<'.toUInt8 := by
        rintro rfl
        exact absurd range (by decide)
      show (csiEntry ⟨.csiEntry, [esc, '['.toUInt8], []⟩ number >>= pure) = _
      rw [csiEntry_low (by omega) other, if_pos digit]
      rfl
    | cons first rest =>
      show (csiParam _ number >>= _) = _
      unfold csiParam push
      dsimp only
      rw [if_pos digit]
      rfl

/-- Behind the numbers, one byte more decides. -/
theorem feed_numbers {nums : List UInt8} (numbers : ∀ byte ∈ nums, isParamByte byte = true) (byte : UInt8) :
    feed {} (esc :: '['.toUInt8 :: (nums ++ [byte])) = ((behindNumbers nums).step byte).map drain := by
  rw [feed, ← List.cons_append, ← List.cons_append, List.foldlM_append, numbers_run numbers]
  show (((behindNumbers nums).step byte >>= pure) >>= fun p => pure p.drain) = _
  cases (behindNumbers nums).step byte <;> rfl

/-- A byte that is neither a number nor a final byte ends the sequence. -/
theorem step_other {nums : List UInt8} {byte : UInt8} (low : byte.toNat < 0x40) (other : isParamByte byte = false)
    (noMouse : nums = [] → byte ≠ '<'.toUInt8) :
    (behindNumbers nums).step byte =
      .ok ⟨.ground, [], [.key ⟨esc :: '['.toUInt8 :: (nums ++ [byte]), .unknown⟩]⟩ := by
  have refused : ¬ isParamByte byte = true := by
    rw [other]
    exact Bool.false_ne_true
  cases nums with
  | nil =>
    show csiEntry ⟨.csiEntry, [esc, '['.toUInt8], []⟩ byte = _
    rw [csiEntry_low low (noMouse rfl), if_neg refused]
    rfl
  | cons number rest =>
    have noTilde : byte ≠ '~'.toUInt8 := by
      rintro rfl
      exact absurd low (by decide)
    have noFinal : ¬ (0x40 ≤ byte ∧ byte ≤ 0x7e) := by
      rw [UInt8.le_iff_toNat_le]
      exact fun range => absurd range.1 (Nat.not_le.mpr low)
    show csiParam _ byte = _
    unfold csiParam push
    dsimp only
    rw [if_neg refused, if_neg noTilde, if_neg noFinal]
    rfl

theorem isParamByte_final {byte : UInt8} (final : 0x40 ≤ byte ∧ byte ≤ 0x7e) : ¬ isParamByte byte = true := by
  rw [isParamByte_iff]
  simp only [UInt8.le_iff_toNat_le, UInt8.reduceToNat] at final
  omega

/-- The final byte is behind numbers that start a paste. -/
theorem step_paste {nums : List UInt8} {byte : UInt8} (final : 0x40 ≤ byte ∧ byte ≤ 0x7e)
    (starts : PasteStart (esc :: '['.toUInt8 :: (nums ++ [byte]))) :
    (behindNumbers nums).step byte = .ok ⟨.pasteBuf, [], []⟩ := by
  obtain ⟨⟨params, split, _⟩, values, read, pastes⟩ := starts
  obtain ⟨rfl, last⟩ := List.append_inj' (List.cons.inj (List.cons.inj split).2).2 rfl
  obtain rfl := (List.cons.inj last).1
  cases nums with
  | nil =>
    have nothing : extractCsiParams [esc, '['.toUInt8, '~'.toUInt8] = .ok [] := by decide
    cases nothing.symm.trans read
    cases pastes
  | cons number rest =>
    show csiParam ⟨.csiParam, esc :: '['.toUInt8 :: number :: rest, []⟩ '~'.toUInt8 = _
    unfold csiParam push
    dsimp only
    rw [if_neg (isParamByte_final final), if_pos rfl]
    show (extractCsiParams (esc :: '['.toUInt8 :: (number :: rest ++ ['~'.toUInt8])) >>= _) = _
    rw [read]
    show (if values.head? = some 200 then _ else _) = _
    rw [if_pos pastes]
    rfl

/-- Any other final byte completes a key. -/
theorem step_final {nums : List UInt8} {byte : UInt8} (final : 0x40 ≤ byte ∧ byte ≤ 0x7e)
    (numbers : ∀ number ∈ nums, isParamByte number = true) (noMouse : nums = [] → byte ≠ 'M'.toUInt8)
    (typed : ¬ PasteStart (esc :: '['.toUInt8 :: (nums ++ [byte]))) :
    ∃ kind, (∀ c, kind ≠ .char c) ∧ (behindNumbers nums).step byte =
      .ok ⟨.ground, [], [.key ⟨esc :: '['.toUInt8 :: (nums ++ [byte]), kind⟩]⟩ := by
  have noNumber := isParamByte_final final
  cases nums with
  | nil =>
    have noMouse' : byte ≠ '<'.toUInt8 := by
      rintro rfl
      exact absurd final (by decide)
    show ∃ kind, _ ∧ csiEntry ⟨.csiEntry, [esc, '['.toUInt8], []⟩ byte = _
    unfold csiEntry
    rw [if_neg (noMouse rfl), if_neg noMouse']
    split
    · exact ⟨_, withModifier_ne_char (cursorKey_ne_char byte) [], rfl⟩
    · exact ⟨.unknown, nofun, rfl⟩
  | cons number rest =>
    obtain ⟨values, read⟩ := extractCsiParams_ok (esc :: '['.toUInt8 :: (number :: rest ++ [byte]))
    show ∃ kind, _ ∧ csiParam ⟨.csiParam, esc :: '['.toUInt8 :: number :: rest, []⟩ byte = _
    unfold csiParam push
    dsimp only
    rw [if_neg noNumber]
    split
    · rename_i tilde
      subst tilde
      have noPaste : values.head? ≠ some 200 := fun pastes =>
        typed ⟨⟨number :: rest, rfl, numbers⟩, values, read, pastes⟩
      show ∃ kind, _ ∧ (extractCsiParams (esc :: '['.toUInt8 :: (number :: rest ++ ['~'.toUInt8])) >>= _) = _
      rw [read]
      show ∃ kind, _ ∧ (if values.head? = some 200 then _ else _) = _
      rw [if_neg noPaste]
      exact ⟨_, withModifier_ne_char (tildeKey_ne_char _) values, rfl⟩
    · show ∃ kind, _ ∧ (extractCsiParams (esc :: '['.toUInt8 :: (number :: rest ++ [byte])) >>= _) = _
      rw [read]
      exact ⟨_, withModifier_ne_char (cursorKey_ne_char byte) values, rfl⟩

namespace CsiSequence

theorem isOneKey_iff {sequence : CsiSequence} : sequence.IsOneKey ↔ ∃ kind, (∀ c, kind ≠ .char c) ∧
    feed {} sequence.bytes = .ok ({}, [.key ⟨sequence.bytes, kind⟩]) := by
  refine exists_congr fun kind => and_congr_right fun _ => ?_
  constructor
  · intro all
    have whole := all [sequence.bytes] (by simp)
    rwa [serve_feeds, List.flatten_cons, List.flatten_nil, List.append_nil] at whole
  · intro one chunks split
    rw [serve_feeds, split, one]

/-- Behind the byte that ends the sequence too early, the rest is read on its own. -/
theorem not_isOneKey_of_broken {sequence : CsiSequence} {nums rest : List UInt8} {byte : UInt8}
    (split : sequence.body = nums ++ byte :: rest) (more : rest ≠ [])
    (numbers : ∀ number ∈ nums, isParamByte number = true) (low : byte.toNat < 0x40)
    (other : isParamByte byte = false) (noMouse : nums = [] → byte ≠ '<'.toUInt8) : ¬ sequence.IsOneKey := by
  rw [isOneKey_iff]
  rintro ⟨kind, _, fed⟩
  have first : (esc :: '['.toUInt8 :: (nums ++ [byte])).foldlM step {} =
      .ok (behind [.key ⟨esc :: '['.toUInt8 :: (nums ++ [byte]), .unknown⟩] {}) := by
    rw [← List.cons_append, ← List.cons_append, List.foldlM_append, numbers_run numbers]
    show ((behindNumbers nums).step byte >>= pure) = _
    rw [step_other low other noMouse]
    rfl
  have bytes : sequence.bytes = esc :: '['.toUInt8 :: (nums ++ [byte]) ++ rest := by
    rw [CsiSequence.bytes, split]
    simp
  obtain ⟨last, ran, handed⟩ := bind_ok fed
  rw [bytes, List.foldlM_append, first] at ran
  change rest.foldlM step (behind _ {}) = _ at ran
  rw [foldlM_step_behind] at ran
  obtain ⟨q, _, rfl⟩ := map_ok ran
  have events := congrArg Prod.snd (Except.ok.inj handed)
  have raws := congrArg KeyInput.raw (InputEvent.key.inj (List.cons.inj events).1)
  rw [bytes] at raws
  exact more (List.self_eq_append_right.mp raws)

theorem bytes_of_direct {sequence : CsiSequence} (direct : sequence.intermediates = []) :
    sequence.bytes = esc :: '['.toUInt8 :: (sequence.params ++ [sequence.finalByte]) := by
  rw [bytes, body, direct, List.nil_append]

theorem isOneKey_of_isNumeric {sequence : CsiSequence} (noMouse : ¬ sequence.IntroducesMouse)
    (numeric : sequence.IsNumeric) : sequence.IsOneKey := by
  obtain ⟨numbers, direct, typed⟩ := numeric
  rw [bytes_of_direct direct] at typed
  have noX10 : sequence.params = [] → sequence.finalByte ≠ 'M'.toUInt8 := by
    intro bare final
    refine noMouse (.inl ?_)
    rw [body, direct, bare, final]
    rfl
  obtain ⟨kind, special, completed⟩ := step_final sequence.final_range numbers noX10 typed
  refine isOneKey_iff.mpr ⟨kind, special, ?_⟩
  rw [bytes_of_direct direct, feed_numbers numbers, completed]
  rfl

theorem not_isOneKey_of_starts {sequence : CsiSequence} (numbers : ∀ number ∈ sequence.params, isParamByte number = true)
    (direct : sequence.intermediates = []) (starts : PasteStart sequence.bytes) : ¬ sequence.IsOneKey := by
  rw [bytes_of_direct direct] at starts
  rw [isOneKey_iff]
  rintro ⟨kind, _, fed⟩
  rw [bytes_of_direct direct, feed_numbers numbers, step_paste sequence.final_range starts] at fed
  have silent := congrArg Prod.snd (Except.ok.inj fed)
  cases silent

theorem low_of_param {sequence : CsiSequence} {byte : UInt8} (member : byte ∈ sequence.params) : byte.toNat < 0x40 := by
  have range := sequence.params_range byte member
  simp only [UInt8.le_iff_toNat_le, UInt8.reduceToNat] at range
  omega

theorem intermediate_low {sequence : CsiSequence} {byte : UInt8} (member : byte ∈ sequence.intermediates) :
    byte.toNat ≤ 0x2f := by
  have range := sequence.intermediates_range byte member
  simp only [UInt8.le_iff_toNat_le, UInt8.reduceToNat] at range
  omega

/-- The first parameter byte that is no number would break the sequence. -/
theorem IsOneKey.numbers {sequence : CsiSequence} (one : sequence.IsOneKey) (noMouse : ¬ sequence.IntroducesMouse) :
    ∀ number ∈ sequence.params, isParamByte number = true := by
  have split : sequence.params = sequence.params.takeWhile isParamByte ++ sequence.params.dropWhile isParamByte :=
    List.takeWhile_append_dropWhile.symm
  have taken : ∀ number ∈ sequence.params.takeWhile isParamByte, isParamByte number = true :=
    List.all_eq_true.mp List.all_takeWhile
  cases dropped : sequence.params.dropWhile isParamByte with
  | nil =>
    rw [split, dropped, List.append_nil]
    exact taken
  | cons byte more =>
    have member : byte ∈ sequence.params := by
      rw [split, dropped]
      exact List.mem_append_right _ List.mem_cons_self
    have other : isParamByte byte = false := by
      have head := List.head?_dropWhile_not isParamByte sequence.params
      rw [dropped] at head
      simpa using head
    have noSgr : sequence.params.takeWhile isParamByte = [] → byte ≠ '<'.toUInt8 := by
      rintro bare rfl
      refine noMouse (.inr ?_)
      rw [split, bare, dropped]
      rfl
    have broken : sequence.body = sequence.params.takeWhile isParamByte ++
        byte :: (more ++ (sequence.intermediates ++ [sequence.finalByte])) := by
      rw [← List.cons_append, ← List.append_assoc, ← dropped, ← split, body]
    exact absurd one (not_isOneKey_of_broken broken (by simp) taken (low_of_param member) other noSgr)

/-- So would the first intermediate byte. -/
theorem IsOneKey.direct {sequence : CsiSequence} (one : sequence.IsOneKey)
    (numbers : ∀ number ∈ sequence.params, isParamByte number = true) : sequence.intermediates = [] := by
  cases between : sequence.intermediates with
  | nil => rfl
  | cons byte more =>
    have low : byte.toNat ≤ 0x2f := intermediate_low (by rw [between]; exact List.mem_cons_self)
    have other : isParamByte byte = false := by
      rw [Bool.eq_false_iff, ne_eq, isParamByte_iff]
      omega
    have noSgr : sequence.params = [] → byte ≠ '<'.toUInt8 := by
      rintro _ rfl
      exact absurd low (by decide)
    have broken : sequence.body = sequence.params ++ byte :: (more ++ [sequence.finalByte]) := by
      rw [body, between]
      rfl
    exact absurd one (not_isOneKey_of_broken broken (by simp) numbers (by omega) other noSgr)

/-- A sequence is one key exactly when it has numbers alone, and starts no paste. -/
theorem isOneKey_iff_isNumeric (sequence : CsiSequence) (noMouse : ¬ sequence.IntroducesMouse) :
    sequence.IsOneKey ↔ sequence.IsNumeric := by
  constructor
  · intro one
    have numbers := one.numbers noMouse
    have direct := one.direct numbers
    exact ⟨numbers, direct, fun starts => not_isOneKey_of_starts numbers direct starts one⟩
  · exact isOneKey_of_isNumeric noMouse

/-- `ESC [ 5 ; 2 R`, the place of the cursor. -/
def cursorReport : CsiSequence where
  params := utf8 "5;2".toList
  intermediates := []
  finalByte := 'R'.toUInt8
  params_range := by decide +kernel
  intermediates_range := nofun
  final_range := by decide

theorem cursorReport_isOneKey : cursorReport.IsOneKey := by
  refine (isOneKey_iff_isNumeric cursorReport ?_).mpr ⟨by decide +kernel, rfl, ?_⟩
  · rintro (x10 | sgr)
    · exact absurd x10 (by decide)
    · exact absurd sgr (by decide)
  · intro starts
    obtain ⟨params, read, pastes⟩ := starts.first
    have values : extractCsiParams cursorReport.bytes = .ok [5, 2] := by decide
    cases values.symm.trans read
    exact absurd pastes (by decide)

/-- `ESC [ ? 1 ; 2 c`, what a terminal says that it is. -/
def deviceReport : CsiSequence where
  params := utf8 "?1;2".toList
  intermediates := []
  finalByte := 'c'.toUInt8
  params_range := by decide +kernel
  intermediates_range := nofun
  final_range := by decide

/-- The reply of a terminal about itself is typed into the child. -/
theorem device_report_typed :
    ¬ ∀ sequence : CsiSequence, ¬ sequence.IntroducesMouse → ¬ sequence.StartsPaste → sequence.IsOneKey := by
  intro all
  have one := all deviceReport (by rintro (x10 | sgr) <;> [exact absurd x10 (by decide); exact absurd sgr (by decide)])
    (by unfold StartsPaste; decide)
  obtain ⟨kind, _, fed⟩ := isOneKey_iff.mp one
  have typed : feed {} deviceReport.bytes = .ok ({}, [.key ⟨[esc, '['.toUInt8, '?'.toUInt8], .unknown⟩,
      .key ⟨['1'.toUInt8], .char '1'⟩, .key ⟨[';'.toUInt8], .char ';'⟩, .key ⟨['2'.toUInt8], .char '2'⟩,
      .key ⟨['c'.toUInt8], .char 'c'⟩]) := by decide
  have events := congrArg Prod.snd (Except.ok.inj (typed.symm.trans fed))
  cases events

end CsiSequence

end Anycode.Term
