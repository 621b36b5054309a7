import Anycode.Pipeline.ModelRewrite
import Mathlib.Data.List.Range

/-!
# Selections on the terminal grid

`TextSelection` of `ui/selection.rs` over the cells that the Alacritty emulator reports. Rows and
columns are `u16` in the source; a grid has no more columns than that, so no sum below leaves
the type.
-/

namespace Anycode.Ui
open Data Pipeline

/-! ### The emulator's cells -/

/-- A cell as Alacritty stores it, with the flag of the blank cell behind a wide character. -/
structure StoredCell where
  c : Char
  zerowidth : List Char := []
  wideCharSpacer : Bool := false

structure TermCell where
  symbol : List Char
  hasContents : Bool
  isWideContinuation : Bool

def u16Max : Nat := 65535

/-- The visible lines and the history above them, which has negative line numbers. -/
structure Grid where
  screenLines : Nat
  columns : Nat
  displayOffset : Nat
  line : Int → List StoredCell
  full : ∀ n, (line n).length = columns
  columnsFit : columns ≤ u16Max

def StoredCell.report (cell : StoredCell) : TermCell where
  symbol := if cell.c = '\x00' then [] else cell.c :: cell.zerowidth
  hasContents := cell.c != ' ' && cell.c != '\x00'
  isWideContinuation := cell.wideCharSpacer

namespace Grid

def row (grid : Grid) (row : Nat) : List StoredCell := grid.line ((row : Int) - grid.displayOffset)

def cell (grid : Grid) (row col : Nat) : Option TermCell :=
  if row ≥ grid.screenLines ∨ col ≥ grid.columns then none else (grid.row row)[col]?.map StoredCell.report

variable {grid : Grid} {row col : Nat}

theorem length_row (grid : Grid) (row : Nat) : (grid.row row).length = grid.columns := grid.full _

theorem cell_isSome : (grid.cell row col).isSome = true ↔ row < grid.screenLines ∧ col < grid.columns := by
  rw [cell]
  split
  · rename_i outside
    simp only [Option.isSome_none, Bool.false_eq_true, false_iff]
    omega
  · rename_i inside
    have stored : col < (grid.row row).length := by rw [length_row]; omega
    simp only [Option.isSome_map, List.getElem?_eq_getElem stored, Option.isSome_some, true_iff]
    omega

theorem lt_columns {cell : TermCell} (found : grid.cell row col = some cell) : col < grid.columns :=
  (cell_isSome.mp (by rw [found]; rfl)).2

theorem cell_eq (visible : row < grid.screenLines) : grid.cell row col = (grid.row row)[col]?.map StoredCell.report := by
  rw [cell]
  split
  · rename_i outside
    rw [List.getElem?_eq_none (by rw [length_row]; omega)]
    rfl
  · rfl

end Grid

/-! ### Selections -/

structure GridPos where
  row : Nat
  col : Nat
  deriving DecidableEq

structure TextSelection where
  start : GridPos
  endPos : GridPos
  active : Bool
  deriving DecidableEq

namespace TextSelection

def new (start : GridPos) : TextSelection := ⟨start, start, true⟩

def ordered (sel : TextSelection) : GridPos × GridPos :=
  if sel.start.row < sel.endPos.row ∨ (sel.start.row = sel.endPos.row ∧ sel.start.col ≤ sel.endPos.col) then
    (sel.start, sel.endPos)
  else (sel.endPos, sel.start)

def contains (sel : TextSelection) (row col : Nat) : Bool :=
  let (first, last) := sel.ordered
  if row < first.row ∨ row > last.row then false
  else if first.row = last.row then decide (col ≥ first.col ∧ col ≤ last.col)
  else if row = first.row then decide (col ≥ first.col)
  else if row = last.row then decide (col ≤ last.col)
  else true

/-- The inner loop of `extract_text`: the cells of a row up to `colEnd` or the edge of the grid. -/
def visitRow (grid : Grid) (row colEnd col : Nat) : List (GridPos × TermCell) :=
  if col > colEnd then []
  else
    match _found : grid.cell row col with
    | none => []
    | some cell => (⟨row, col⟩, cell) :: visitRow grid row colEnd (col + 1)
  termination_by grid.columns - col
  decreasing_by
    have inside := Grid.lt_columns _found
    omega

/-- What a visited cell adds to its line. -/
def cellText (cell : TermCell) : List Char :=
  if cell.isWideContinuation then [] else if cell.hasContents then cell.symbol else [' ']

def trimEnd (text : List Char) : List Char := text.rdropWhile isWhitespace

def lineText (visits : List (GridPos × TermCell)) : List Char := trimEnd (visits.flatMap fun visit => cellText visit.2)

/-- The rows `first.row..=last.row`, each with the cells visited on it. -/
def visits (sel : TextSelection) (grid : Grid) : List (List (GridPos × TermCell)) :=
  let (first, last) := sel.ordered
  (List.range' first.row (last.row + 1 - first.row)).map fun row =>
    visitRow grid row (if row = last.row then last.col else u16Max) (if row = first.row then first.col else 0)

def extractText (sel : TextSelection) (grid : Grid) : List Char :=
  ['\n'].intercalate (((sel.visits grid).map lineText).rdropWhile List.isEmpty)

def visited (sel : TextSelection) (grid : Grid) : List GridPos := ((sel.visits grid).flatten).map Prod.fst

/-! ### Highlighted and copied cells -/

def swap (sel : TextSelection) : TextSelection := { sel with start := sel.endPos, endPos := sel.start }

theorem visitRow_of_gt {grid : Grid} {row colEnd col : Nat} (beyond : col > colEnd) : visitRow grid row colEnd col = [] := by
  rw [visitRow, if_pos beyond]

theorem visitRow_of_none {grid : Grid} {row colEnd col : Nat} (edge : grid.cell row col = none) :
    visitRow grid row colEnd col = [] := by
  rw [visitRow]
  split
  · rfl
  · split
    · rfl
    · rename_i found
      rw [edge] at found
      cases found

theorem visitRow_of_some {grid : Grid} {row colEnd col : Nat} {cell : TermCell} (inside : col ≤ colEnd)
    (found : grid.cell row col = some cell) :
    visitRow grid row colEnd col = (⟨row, col⟩, cell) :: visitRow grid row colEnd (col + 1) := by
  rw [visitRow, if_neg (Nat.not_lt.mpr inside)]
  split
  · rename_i edge
    rw [edge] at found
    cases found
  · rename_i other
    rw [other] at found
    cases found
    rfl

theorem mem_visitRow {grid : Grid} {row colEnd col : Nat} {pos : GridPos} :
    pos ∈ (visitRow grid row colEnd col).map Prod.fst ↔
      pos.row = row ∧ col ≤ pos.col ∧ pos.col ≤ colEnd ∧ (grid.cell row pos.col).isSome = true := by
  induction col using visitRow.induct grid row colEnd with
  | case1 col beyond =>
    rw [visitRow_of_gt beyond, List.map_nil]
    simp only [List.not_mem_nil, false_iff]
    omega
  | case2 col inside edge =>
    rw [visitRow_of_none edge, List.map_nil]
    have outside : ¬ (row < grid.screenLines ∧ col < grid.columns) := by
      rw [← Grid.cell_isSome, edge]
      exact Bool.false_ne_true
    simp only [List.not_mem_nil, false_iff, Grid.cell_isSome]
    omega
  | case3 col inside cell found ih =>
    have here : (grid.cell row col).isSome = true := by rw [found]; rfl
    rw [visitRow_of_some (Nat.not_lt.mp inside) found, List.map_cons, List.mem_cons, ih]
    constructor
    · rintro (rfl | ⟨sameRow, after, fits, some⟩)
      · exact ⟨rfl, Nat.le_refl col, Nat.not_lt.mp inside, here⟩
      · exact ⟨sameRow, by omega, fits, some⟩
    · rintro ⟨sameRow, after, fits, some⟩
      by_cases first : pos.col = col
      · exact .inl (by cases pos; simp only [GridPos.mk.injEq] at *; exact ⟨sameRow, first⟩)
      · exact .inr ⟨sameRow, by omega, fits, some⟩

theorem mem_visited {sel : TextSelection} {grid : Grid} {pos : GridPos} :
    pos ∈ sel.visited grid ↔
      (sel.ordered.1.row ≤ pos.row ∧ pos.row ≤ sel.ordered.2.row) ∧
        (if pos.row = sel.ordered.1.row then sel.ordered.1.col else 0) ≤ pos.col ∧
          pos.col ≤ (if pos.row = sel.ordered.2.row then sel.ordered.2.col else u16Max) ∧
            (grid.cell pos.row pos.col).isSome = true := by
  have flat : sel.visited grid = (List.range' sel.ordered.1.row (sel.ordered.2.row + 1 - sel.ordered.1.row)).flatMap
      fun row => (visitRow grid row (if row = sel.ordered.2.row then sel.ordered.2.col else u16Max)
        (if row = sel.ordered.1.row then sel.ordered.1.col else 0)).map Prod.fst := by
    rw [visited, visits, List.map_flatten, List.map_map, List.flatMap_def]
    rfl
  rw [flat, List.mem_flatMap]
  simp only [mem_visitRow, List.mem_range'_1]
  constructor
  · rintro ⟨row, rows, rfl, inside⟩
    exact ⟨by omega, inside⟩
  · rintro ⟨rows, inside⟩
    exact ⟨pos.row, by omega, rfl, inside⟩

theorem contains_iff {sel : TextSelection} {row col : Nat} :
    sel.contains row col = true ↔
      (sel.ordered.1.row ≤ row ∧ row ≤ sel.ordered.2.row) ∧
        (row = sel.ordered.1.row → sel.ordered.1.col ≤ col) ∧
          (row = sel.ordered.2.row → col ≤ sel.ordered.2.col) := by
  rw [contains]
  dsimp only
  split
  · simp only [Bool.false_eq_true, false_iff]
    omega
  · split
    · rw [decide_eq_true_iff]
      omega
    · split
      · rw [decide_eq_true_iff]
        omega
      · split
        · rw [decide_eq_true_iff]
          omega
        · simp only [true_iff]
          omega

/-- A column of the grid is below the bound that stands for the end of a middle row. -/
theorem visited_iff_contains (sel : TextSelection) (grid : Grid) (pos : GridPos) :
    pos ∈ sel.visited grid ↔ (grid.cell pos.row pos.col).isSome = true ∧ sel.contains pos.row pos.col = true := by
  have fits := grid.columnsFit
  rw [mem_visited, contains_iff, Grid.cell_isSome]
  split <;> split <;> omega

theorem ordered_swap (sel : TextSelection) : sel.swap.ordered = sel.ordered := by
  obtain ⟨⟨startRow, startCol⟩, ⟨endRow, endCol⟩, active⟩ := sel
  unfold ordered swap
  dsimp only
  split <;> split <;> simp only [Prod.mk.injEq, GridPos.mk.injEq] <;> omega

theorem contains_swap (sel : TextSelection) (row col : Nat) : sel.swap.contains row col = sel.contains row col := by
  rw [contains, contains, ordered_swap]

theorem extractText_swap (sel : TextSelection) (grid : Grid) : sel.swap.extractText grid = sel.extractText grid := by
  rw [extractText, extractText, visits, visits, ordered_swap]

theorem highlighted_eq_copied (grid : Grid) (sel : TextSelection) :
    (∀ pos, pos ∈ sel.visited grid ↔
      (grid.cell pos.row pos.col).isSome = true ∧ sel.contains pos.row pos.col = true) ∧
    (∀ row col, sel.swap.contains row col = sel.contains row col) ∧
    sel.swap.extractText grid = sel.extractText grid :=
  ⟨visited_iff_contains sel grid, contains_swap sel, extractText_swap sel grid⟩

end TextSelection

end Anycode.Ui
