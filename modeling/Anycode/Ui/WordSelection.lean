import Anycode.Ui.Selection

/-!
# Word selection

A double click selects the word under the mouse. Alacritty stores a wide character in two cells,
the second one blank, and both scans of `select_word` stop at a blank before they ask whether it
continues a wide character.
-/

namespace Anycode.Ui
open Data Pipeline

/-! ### Rows of characters -/

/-- A character of a row with its combining marks. -/
inductive Glyph where
  | narrow (c : Char) (zerowidth : List Char)
  | wide (c : Char) (zerowidth : List Char)

namespace Glyph

def symbol : Glyph → List Char
  | narrow c zerowidth => c :: zerowidth
  | wide c zerowidth => c :: zerowidth

def isWide : Glyph → Bool
  | narrow _ _ => false
  | wide _ _ => true

def first : Glyph → StoredCell
  | narrow c zerowidth => { c, zerowidth }
  | wide c zerowidth => { c, zerowidth }

def continuation : StoredCell := { c := ' ', wideCharSpacer := true }

def cells : Glyph → List StoredCell
  | narrow c zerowidth => [{ c, zerowidth }]
  | wide c zerowidth => [{ c, zerowidth }, continuation]

end Glyph

def rowCells (glyphs : List Glyph) : List StoredCell := glyphs.flatMap Glyph.cells

/-! ### The scans -/

namespace TextSelection

def isBlank (cell : TermCell) : Bool := !cell.hasContents || (trim cell.symbol).isEmpty

def scanLeft (grid : Grid) (row : Nat) : Nat → Nat
  | 0 => 0
  | left + 1 =>
    match grid.cell row left with
    | none => left + 1
    | some cell => if isBlank cell || cell.isWideContinuation then left + 1 else scanLeft grid row left

def scanRight (grid : Grid) (row right : Nat) : Nat :=
  match _found : grid.cell row (right + 1) with
  | none => right
  | some cell =>
    if isBlank cell then right
    else if cell.isWideContinuation then scanRight grid row (right + 1)
    else scanRight grid row (right + 1)
  termination_by grid.columns - right
  decreasing_by
    all_goals
      have inside := Grid.lt_columns _found
      omega

def selectWord (grid : Grid) (pos : GridPos) : Option TextSelection :=
  (grid.cell pos.row pos.col).bind fun cell =>
    if isBlank cell then none
    else
      some {
        start := ⟨pos.row, scanLeft grid pos.row pos.col⟩
        endPos := ⟨pos.row, scanRight grid pos.row pos.col⟩
        active := false }

theorem scanRight_of_some {grid : Grid} {row right : Nat} {cell : TermCell} (found : grid.cell row (right + 1) = some cell) :
    scanRight grid row right = if isBlank cell then right else scanRight grid row (right + 1) := by
  rw [scanRight]
  split
  · rename_i edge
    rw [edge] at found
    cases found
  · rename_i other
    rw [other] at found
    cases found
    rw [ite_self]

theorem scanRight_of_none {grid : Grid} {row right : Nat} (edge : grid.cell row (right + 1) = none) :
    scanRight grid row right = right := by
  rw [scanRight]
  split
  · rfl
  · rename_i found
    rw [edge] at found
    cases found

/-- A part of a row in which both scans go on, between cells at which they stop. -/
structure Block (grid : Grid) (row : Nat) where
  before : List StoredCell
  cells : List StoredCell
  after : List StoredCell
  visible : row < grid.screenLines
  split : grid.row row = before ++ cells ++ after
  goesOn : ∀ cell ∈ cells, isBlank cell.report = false ∧ cell.report.isWideContinuation = false
  leftStop : ∀ cell, before.getLast? = some cell → isBlank cell.report = true
  rightStop : ∀ cell, after.head? = some cell → isBlank cell.report = true

namespace Block
variable {grid : Grid} {row : Nat} (block : Block grid row)

theorem cell_inside {k : Nat} (inside : k < block.cells.length) :
    grid.cell row (block.before.length + k) = some (block.cells[k].report) := by
  rw [Grid.cell_eq block.visible, block.split, List.append_assoc, List.getElem?_append_right (Nat.le_add_right _ _),
    Nat.add_sub_cancel_left, List.getElem?_append_left inside, List.getElem?_eq_getElem inside]
  rfl

theorem inside_goesOn {k : Nat} (inside : k < block.cells.length) :
    isBlank block.cells[k].report = false ∧ block.cells[k].report.isWideContinuation = false :=
  block.goesOn _ (List.getElem_mem inside)

theorem scanLeft_inside {k : Nat} (inside : k < block.cells.length) :
    scanLeft grid row (block.before.length + k) = block.before.length := by
  induction k with
  | zero =>
    rw [Nat.add_zero]
    cases front : block.before using List.reverseRecOn with
    | nil => rfl
    | append_singleton earlier last _ =>
      have blank := block.leftStop last (by rw [front, List.getLast?_concat])
      have found : grid.cell row earlier.length = some last.report := by
        rw [Grid.cell_eq block.visible, block.split, front]
        simp
      rw [List.length_append, List.length_singleton, scanLeft, found]
      simp only [blank, Bool.true_or, if_true]
  | succ k ih =>
    obtain ⟨dark, whole⟩ := block.inside_goesOn (k := k) (by omega)
    rw [← Nat.add_assoc, scanLeft, block.cell_inside (by omega)]
    simp only [dark, whole, Bool.or_self, Bool.false_eq_true, if_false]
    exact ih (by omega)

theorem scanRight_inside (k more : Nat) (size : k + more + 1 = block.cells.length) :
    scanRight grid row (block.before.length + k) = block.before.length + (k + more) := by
  induction more generalizing k with
  | zero =>
    cases tail : block.after with
    | nil =>
      refine scanRight_of_none ?_
      rw [Grid.cell_eq block.visible, block.split, tail, List.getElem?_eq_none (by simp; omega)]
      rfl
    | cons next rest =>
      have blank := block.rightStop next (by rw [tail, List.head?_cons])
      have found : grid.cell row (block.before.length + k + 1) = some next.report := by
        rw [Grid.cell_eq block.visible, block.split, tail, List.getElem?_append_right (by simp; omega)]
        simp [show block.before.length + k + 1 - (block.before.length + block.cells.length) = 0 by omega]
      rw [scanRight_of_some found, if_pos blank]
      rfl
  | succ more ih =>
    obtain ⟨dark, _⟩ := block.inside_goesOn (k := k + 1) (by omega)
    have found := block.cell_inside (k := k + 1) (by omega)
    rw [← Nat.add_assoc] at found
    rw [scanRight_of_some found, dark, if_neg Bool.false_ne_true, Nat.add_assoc, ih (k + 1) (by omega)]
    omega

theorem selectWord_inside {k : Nat} (inside : k < block.cells.length) :
    selectWord grid ⟨row, block.before.length + k⟩ = some {
      start := ⟨row, block.before.length⟩
      endPos := ⟨row, block.before.length + block.cells.length - 1⟩
      active := false } := by
  obtain ⟨dark, _⟩ := block.inside_goesOn inside
  have right := block.scanRight_inside k (block.cells.length - 1 - k) (by omega)
  rw [selectWord, block.cell_inside inside, Option.bind_some, dark, if_neg Bool.false_ne_true,
    block.scanLeft_inside inside, right]
  congr 3
  omega

theorem visitRow_inside {k more : Nat} (size : k + more = block.cells.length) (nonempty : block.cells ≠ []) :
    (visitRow grid row (block.before.length + block.cells.length - 1) (block.before.length + k)).map Prod.snd =
      (block.cells.drop k).map StoredCell.report := by
  have positive := List.length_pos_iff.mpr nonempty
  induction more generalizing k with
  | zero => rw [visitRow_of_gt (by omega), List.drop_of_length_le (by omega), List.map_nil, List.map_nil]
  | succ more ih =>
    have inside : k < block.cells.length := by omega
    rw [visitRow_of_some (by omega) (block.cell_inside inside), List.map_cons, Nat.add_assoc, ih (by omega),
      List.drop_eq_getElem_cons inside, List.map_cons]

theorem intercalate_line (line : List Char) : ['\n'].intercalate ([line].rdropWhile List.isEmpty) = line := by
  cases line with
  | nil => rfl
  | cons c rest => exact List.append_nil _

theorem extractText_block (nonempty : block.cells ≠ []) (active : Bool) :
    extractText ⟨⟨row, block.before.length⟩, ⟨row, block.before.length + block.cells.length - 1⟩, active⟩ grid =
      trimEnd (block.cells.flatMap fun cell => cellText cell.report) := by
  have positive := List.length_pos_iff.mpr nonempty
  have ordered : (⟨⟨row, block.before.length⟩, ⟨row, block.before.length + block.cells.length - 1⟩, active⟩ :
      TextSelection).ordered = (⟨row, block.before.length⟩, ⟨row, block.before.length + block.cells.length - 1⟩) :=
    if_pos (.inr ⟨rfl, by dsimp only; omega⟩)
  have cells := block.visitRow_inside (k := 0) (Nat.zero_add _) nonempty
  rw [Nat.add_zero, List.drop_zero] at cells
  rw [extractText, visits, ordered]
  dsimp only
  rw [Nat.add_sub_cancel_left, List.range'_one, List.map_singleton, List.map_singleton, if_pos rfl, if_pos rfl, lineText,
    ← List.flatMap_map, cells, List.flatMap_map, intercalate_line]

end Block

/-! ### Words -/

def isWord (glyph : Glyph) : Bool := !isBlank glyph.first.report

/-- A maximal run of characters that are not white space, on a visible row. -/
structure WordRun (grid : Grid) (row : Nat) where
  before : List Glyph
  glyphs : List Glyph
  after : List Glyph
  visible : row < grid.screenLines
  split : grid.row row = rowCells (before ++ glyphs ++ after)
  nonempty : glyphs ≠ []
  words : ∀ glyph ∈ glyphs, isWord glyph = true
  leftEdge : ∀ glyph, before.getLast? = some glyph → isWord glyph = false
  rightEdge : ∀ glyph, after.head? = some glyph → isWord glyph = false

namespace WordRun
variable {grid : Grid} {row : Nat} (run : WordRun grid row)

def startCol : Nat := (rowCells run.before).length

def width : Nat := (rowCells run.glyphs).length

def text : List Char := run.glyphs.flatMap Glyph.symbol

/-- Whichever two of its cells are clicked, the same selection results: it spans the run and copies its characters. -/
def Selected : Prop :=
  ∀ first second, (run.startCol ≤ first ∧ first < run.startCol + run.width) →
    (run.startCol ≤ second ∧ second < run.startCol + run.width) →
    ∃ sel, selectWord grid ⟨row, first⟩ = some sel ∧ selectWord grid ⟨row, second⟩ = some sel ∧
      sel.start = ⟨row, run.startCol⟩ ∧ sel.endPos = ⟨row, run.startCol + run.width - 1⟩ ∧
      sel.extractText grid = run.text

/-- No character is wide, and the last one does not end in a combining mark that is white space. -/
def Plain : Prop :=
  (∀ glyph ∈ run.glyphs, glyph.isWide = false) ∧ ∀ c, run.text.getLast? = some c → isWhitespace c = false

theorem rowCells_append (first second : List Glyph) : rowCells (first ++ second) = rowCells first ++ rowCells second :=
  List.flatMap_append

theorem rowCells_cons (glyph : Glyph) (rest : List Glyph) : rowCells (glyph :: rest) = glyph.cells ++ rowCells rest :=
  List.flatMap_cons

theorem continuation_blank : isBlank Glyph.continuation.report = true := by decide

theorem getLast_blank {before : List Glyph} (edge : ∀ glyph, before.getLast? = some glyph → isWord glyph = false)
    {cell : StoredCell} (last : (rowCells before).getLast? = some cell) : isBlank cell.report = true := by
  cases before using List.reverseRecOn with
  | nil => cases last
  | append_singleton earlier glyph _ =>
    have blank := edge glyph List.getLast?_concat
    rw [isWord, Bool.not_eq_false'] at blank
    rw [rowCells_append, List.getLast?_append] at last
    cases glyph with
    | narrow c zerowidth =>
      cases last
      exact blank
    | wide c zerowidth =>
      cases last
      exact continuation_blank

theorem head_blank {after : List Glyph} (edge : ∀ glyph, after.head? = some glyph → isWord glyph = false)
    {cell : StoredCell} (head : (rowCells after).head? = some cell) : isBlank cell.report = true := by
  cases after with
  | nil => cases head
  | cons glyph rest =>
    have blank := edge glyph List.head?_cons
    rw [isWord, Bool.not_eq_false'] at blank
    cases glyph with
    | narrow c zerowidth =>
      cases head
      exact blank
    | wide c zerowidth =>
      cases head
      exact blank

theorem rowCells_narrow {glyphs : List Glyph} (narrow : ∀ glyph ∈ glyphs, glyph.isWide = false) :
    rowCells glyphs = glyphs.map Glyph.first := by
  induction glyphs with
  | nil => rfl
  | cons glyph rest ih =>
    rw [rowCells_cons, ih fun other member => narrow other (List.mem_cons_of_mem _ member)]
    cases glyph with
    | narrow c zerowidth => rfl
    | wide c zerowidth => cases narrow _ List.mem_cons_self

theorem rowCells_ne_nil {glyphs : List Glyph} (nonempty : glyphs ≠ []) : rowCells glyphs ≠ [] := by
  obtain ⟨glyph, rest, rfl⟩ := List.exists_cons_of_ne_nil nonempty
  cases glyph <;> exact List.cons_ne_nil _ _

theorem cellText_word {glyph : Glyph} (narrow : glyph.isWide = false) (word : isWord glyph = true) :
    cellText glyph.first.report = glyph.symbol := by
  cases glyph with
  | wide c zerowidth => cases narrow
  | narrow c zerowidth =>
    have contents : (Glyph.narrow c zerowidth).first.report.hasContents = true := by
      rw [isWord, isBlank, Bool.not_or, Bool.not_not, Bool.and_eq_true] at word
      exact word.1
    have drawn : c ≠ '\x00' := by
      intro nul
      subst nul
      cases contents
    rw [cellText, contents]
    exact if_neg drawn

/-- Where no character of the run is wide, both scans go on over all of its cells. -/
def block (narrow : ∀ glyph ∈ run.glyphs, glyph.isWide = false) : Block grid row where
  before := rowCells run.before
  cells := rowCells run.glyphs
  after := rowCells run.after
  visible := run.visible
  split := by rw [run.split, rowCells_append, rowCells_append]
  goesOn cell member := by
    rw [rowCells_narrow narrow] at member
    obtain ⟨glyph, inside, rfl⟩ := List.mem_map.mp member
    have word := run.words glyph inside
    rw [isWord, Bool.not_eq_true'] at word
    cases glyph <;> exact ⟨word, rfl⟩
  leftStop _ last := getLast_blank run.leftEdge last
  rightStop _ head := head_blank run.rightEdge head

theorem selectWord_narrow (narrow : ∀ glyph ∈ run.glyphs, glyph.isWide = false) {col : Nat}
    (inside : run.startCol ≤ col ∧ col < run.startCol + run.width) :
    selectWord grid ⟨row, col⟩ = some ⟨⟨row, run.startCol⟩, ⟨row, run.startCol + run.width - 1⟩, false⟩ := by
  obtain ⟨k, rfl⟩ := Nat.exists_eq_add_of_le inside.1
  exact (run.block narrow).selectWord_inside (k := k) (Nat.lt_of_add_lt_add_left inside.2)

theorem extractText_narrow (narrow : ∀ glyph ∈ run.glyphs, glyph.isWide = false) (active : Bool) :
    extractText ⟨⟨row, run.startCol⟩, ⟨row, run.startCol + run.width - 1⟩, active⟩ grid = trimEnd run.text := by
  refine ((run.block narrow).extractText_block (rowCells_ne_nil run.nonempty) active).trans (congrArg trimEnd ?_)
  change (rowCells run.glyphs).flatMap _ = _
  rw [rowCells_narrow narrow, List.flatMap_map, text, List.flatMap_def, List.flatMap_def]
  exact congrArg List.flatten (List.map_congr_left fun glyph member =>
    cellText_word (narrow glyph member) (run.words glyph member))

theorem trimEnd_eq_self {text : List Char} :
    trimEnd text = text ↔ ∀ c, text.getLast? = some c → isWhitespace c = false := by
  rw [trimEnd, List.rdropWhile_eq_self_iff]
  cases text using List.reverseRecOn with
  | nil => exact iff_of_true (fun nonempty => absurd rfl nonempty) (fun _ last => by cases last)
  | append_singleton start last _ =>
    simp only [List.getLast_concat, List.getLast?_concat, Option.some.injEq, forall_eq', Bool.not_eq_true]
    exact ⟨fun dark => dark (by simp), fun dark _ => dark⟩

/-- A click on the second half of a wide character selects nothing. -/
theorem selectWord_continuation {first second : List Glyph} {c : Char} {zerowidth : List Char}
    (split : run.glyphs = first ++ Glyph.wide c zerowidth :: second) :
    selectWord grid ⟨row, run.startCol + (rowCells first).length + 1⟩ = none := by
  have cells : grid.row row = (rowCells run.before ++ rowCells first ++ [(Glyph.wide c zerowidth).first]) ++
      (Glyph.continuation :: (rowCells second ++ rowCells run.after)) := by
    rw [run.split, split]
    simp [rowCells, Glyph.cells, Glyph.first]
  have found : grid.cell row (run.startCol + (rowCells first).length + 1) = some Glyph.continuation.report := by
    have size : run.startCol + (rowCells first).length + 1 =
        (rowCells run.before ++ rowCells first ++ [(Glyph.wide c zerowidth).first]).length := by
      rw [List.length_append, List.length_append]
      rfl
    rw [Grid.cell_eq run.visible, cells, size, List.getElem?_append_right (Nat.le_refl _), Nat.sub_self]
    rfl
  rw [selectWord, found, Option.bind_some, if_pos continuation_blank]

theorem narrow_of_selected (selected : run.Selected) : ∀ glyph ∈ run.glyphs, glyph.isWide = false := by
  intro glyph member
  cases glyph with
  | narrow c zerowidth => rfl
  | wide c zerowidth =>
    obtain ⟨first, second, split⟩ := List.append_of_mem member
    have size : run.width = (rowCells first).length + (2 + (rowCells second).length) := by
      rw [width, split, rowCells_append, rowCells_cons, List.length_append, List.length_append]
      rfl
    have inside : run.startCol ≤ run.startCol + (rowCells first).length + 1 ∧
        run.startCol + (rowCells first).length + 1 < run.startCol + run.width := by omega
    obtain ⟨sel, clicked, _⟩ := selected _ _ inside inside
    rw [run.selectWord_continuation split] at clicked
    cases clicked

theorem selected_iff : run.Selected ↔ run.Plain := by
  have positive : 0 < run.width := List.length_pos_iff.mpr (rowCells_ne_nil run.nonempty)
  constructor
  · intro selected
    have narrow := run.narrow_of_selected selected
    refine ⟨narrow, trimEnd_eq_self.mp ?_⟩
    obtain ⟨sel, clicked, _, _, _, copied⟩ := selected run.startCol run.startCol (by omega) (by omega)
    rw [run.selectWord_narrow narrow (by omega)] at clicked
    cases clicked
    rw [← run.extractText_narrow narrow false, copied]
  · intro plain first second firstInside secondInside
    refine ⟨_, run.selectWord_narrow plain.1 firstInside, run.selectWord_narrow plain.1 secondInside, rfl, rfl, ?_⟩
    rw [run.extractText_narrow plain.1, trimEnd_eq_self.mpr plain.2]

end WordRun

def wideGrid : Grid where
  screenLines := 1
  columns := 4
  displayOffset := 0
  line _ := rowCells [.wide '世' [], .wide '界' []]
  full _ := rfl
  columnsFit := by decide

def wideRun : WordRun wideGrid 0 where
  before := []
  glyphs := [.wide '世' [], .wide '界' []]
  after := []
  visible := by decide
  split := rfl
  nonempty := List.cons_ne_nil _ _
  words := by decide
  leftEdge _ last := by cases last
  rightEdge _ head := by cases head

/-- On the row `世界`, a click on the second half of the first character selects nothing. -/
theorem wideRun_not_selected : selectWord wideGrid ⟨0, 1⟩ = none ∧ ¬ wideRun.Selected := by
  have click : selectWord wideGrid ⟨0, 1⟩ = none := by decide
  refine ⟨click, fun selected => ?_⟩
  obtain ⟨sel, clicked, _⟩ := selected 1 1 (by decide) (by decide)
  rw [click] at clicked
  cases clicked

end TextSelection

end Anycode.Ui
