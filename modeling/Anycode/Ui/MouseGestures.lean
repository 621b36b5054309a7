import Anycode.Data.Run
import Anycode.Term.Mouse
import Anycode.Ui.WordSelection

/-!
# Mouse gestures

What the main loop of `ui/runtime.rs` does with the mouse: a press, a sweep over the grid and a
release copy what lies between, and a second press copies the word. Where the session id stands in
the header, and what the child's screen shows, is given with each event.
-/

namespace Anycode.Ui
open Data Term

/-! ### Regions of the screen -/

structure Rect where
  x : Nat
  y : Nat
  width : Nat
  height : Nat

/-- Header, body and footer. -/
def layoutRegions (area : Rect) : Rect × Rect × Rect :=
  let headerHeight := min area.height 3
  let footerHeight := min 3 (area.height - headerHeight)
  (⟨area.x, area.y, area.width, headerHeight⟩,
    ⟨area.x + 1, area.y + headerHeight, area.width - 2, area.height - (headerHeight + footerHeight)⟩,
    ⟨area.x, area.y + (area.height - footerHeight), area.width, footerHeight⟩)

def bodyRect (area : Rect) : Rect := (layoutRegions area).2.1

/-- The size is not known where the terminal does not tell it. -/
def screenToGrid (size : Option (Nat × Nat)) (col row : UInt16) : Option GridPos :=
  size.bind fun (cols, rows) =>
    let body := bodyRect ⟨0, 0, cols, rows⟩
    if col.toNat < body.x ∨ row.toNat < body.y ∨ col.toNat ≥ body.x + body.width ∨ row.toNat ≥ body.y + body.height then none
    else some ⟨row.toNat - body.y, col.toNat - body.x⟩

/-! ### The pointer -/

/-- What an event of the mouse finds: the grid of the attached PTY, the columns of the session id
in the header, and the time in milliseconds. -/
structure Scene where
  size : Option (Nat × Nat)
  grid : Option Grid
  mouseTracking : Bool := false
  sessionColRange : Nat × Nat := (0, 0)
  sessionId : List Char := []
  hasClipboard : Bool := true
  now : Nat

/-- `copied` are the texts that were given to the clipboard, `forwarded` the events for the child. -/
structure Pointer where
  selection : Option TextSelection := none
  mouseDownPos : Option GridPos := none
  lastClick : Option (Nat × GridPos) := none
  copied : List (List Char) := []
  forwarded : List MouseEvent := []

def doubleClickMs : Nat := 400

namespace Pointer

def setText (p : Pointer) (scene : Scene) (text : List Char) : Pointer :=
  if scene.hasClipboard then { p with copied := p.copied ++ [text] } else p

def clearSelection (p : Pointer) : Pointer := { p with selection := none }

/-- The text is not given where it is empty. -/
def selectWordAt (p : Pointer) (scene : Scene) (pos : GridPos) : Option (List Char) × Pointer :=
  match scene.grid with
  | none => (none, p)
  | some grid =>
    match TextSelection.selectWord grid pos with
    | none => (none, p)
    | some sel =>
      let text := sel.extractText grid
      (if text.isEmpty then none else some text, { p with selection := some sel })

def finishSelection (p : Pointer) (scene : Scene) : Option (List Char) × Pointer :=
  match p.selection with
  | none => (none, p)
  | some sel =>
    let sel := { sel with active := false }
    (scene.grid.map sel.extractText, { p with selection := some sel })

def isDouble (p : Pointer) (now : Nat) (pos : GridPos) : Bool :=
  p.lastClick.any fun (time, last) => last == pos && decide (now - time < doubleClickMs)

/-- A press with the left button. -/
def down (p : Pointer) (scene : Scene) (gridPos : Option GridPos) : Pointer :=
  match gridPos.filter (p.isDouble scene.now) with
  | some pos =>
    match { p with lastClick := none, mouseDownPos := none }.selectWordAt scene pos with
    | (some text, p) => p.setText scene text
    | (none, p) => p
  | none => { p.clearSelection with mouseDownPos := gridPos, lastClick := gridPos.map fun pos => (scene.now, pos) }

/-- The selection starts when the mouse is over another cell for the first time. -/
def drag (p : Pointer) (gridPos : Option GridPos) : Pointer :=
  match gridPos with
  | none => p
  | some pos =>
    match p.mouseDownPos with
    | some anchor =>
      if anchor = pos then p
      else { p with mouseDownPos := none, selection := some { TextSelection.new anchor with endPos := pos } }
    | none => { p with selection := p.selection.map fun sel => { sel with endPos := pos } }

def up (p : Pointer) (scene : Scene) : Pointer :=
  match { p with mouseDownPos := none }.finishSelection scene with
  | (some text, p) => if text.isEmpty then p else p.setText scene text
  | (none, p) => p

/-- In the header, a press on the session id copies it; with mouse tracking, the child gets the rest. -/
def onMouse (p : Pointer) (scene : Scene) (event : MouseEvent) : Pointer :=
  match event with
  | .scrollUp _ _ | .scrollDown _ _ => p.clearSelection
  | .down .left col row =>
    if row < 3 then
      if scene.sessionColRange.1 ≤ col.toNat ∧ col.toNat < scene.sessionColRange.2 then p.setText scene scene.sessionId else p
    else if scene.mouseTracking then { p with forwarded := p.forwarded ++ [event] }
    else p.down scene (screenToGrid scene.size col row)
  | .drag .left col row =>
    if scene.mouseTracking then { p with forwarded := p.forwarded ++ [event] }
    else p.drag (screenToGrid scene.size col row)
  | .up _ _ => if scene.mouseTracking then { p with forwarded := p.forwarded ++ [event] } else p.up scene
  | _ => if scene.mouseTracking then { p with forwarded := p.forwarded ++ [event] } else p

end Pointer

inductive PointerAct where
  | mouse (scene : Scene) (event : MouseEvent)
  | key
  /-- Any other event of the main loop. -/
  | other

def Pointer.step (p : Pointer) : PointerAct → Pointer
  | .mouse scene event => p.onMouse scene event
  | .key => p.clearSelection
  | .other => p

/-! ### A sweep -/

namespace PointerAct

/-- The cell that the mouse is swept to. -/
def target : PointerAct → Option GridPos
  | .mouse scene (.drag .left col row) => if scene.mouseTracking then none else screenToGrid scene.size col row
  | _ => none

/-- No key, no wheel, no press with the left button and no release. -/
def holds : PointerAct → Bool
  | .mouse _ (.scrollUp _ _) | .mouse _ (.scrollDown _ _) | .mouse _ (.down .left _ _) | .mouse _ (.up _ _) | .key => false
  | _ => true

def presses : PointerAct → Bool
  | .mouse _ (.down .left _ _) => true
  | _ => false

end PointerAct

/-- The selection from the cell of the press to the last one, once the mouse has left the first. -/
def swept (anchor : Option GridPos) (targets : List GridPos) : Option TextSelection :=
  anchor.bind fun anchor =>
    if targets.any (· != anchor) then targets.getLast?.map fun last => ⟨anchor, last, true⟩ else none

def wordAt (scene : Scene) (pos : GridPos) : Option TextSelection :=
  scene.grid.bind fun grid => TextSelection.selectWord grid pos

/-- The text of a selection on the grid, for a clipboard. -/
def copies (scene : Scene) (sel : Option TextSelection) : List (List Char) :=
  if scene.hasClipboard then
    (sel.bind fun sel => (scene.grid.map sel.extractText).filter fun text => !text.isEmpty).toList
  else []

theorem isSome_swept (anchor : GridPos) (targets : List GridPos) :
    (swept (some anchor) targets).isSome = targets.any (· != anchor) := by
  rw [swept, Option.bind_some]
  split
  · rename_i left
    obtain ⟨target, member, _⟩ := List.any_eq_true.mp left
    rw [left, Option.isSome_map, List.getLast?_isSome.mpr (List.ne_nil_of_mem member)]
  · rename_i still
    rw [Bool.eq_false_iff.mpr still]
    rfl

theorem swept_concat (anchor : GridPos) (targets : List GridPos) (pos : GridPos) :
    swept (some anchor) (targets ++ [pos]) =
      if targets.any (· != anchor) || pos != anchor then some ⟨anchor, pos, true⟩ else none := by
  rw [swept, Option.bind_some, List.any_append, List.any_cons, List.any_nil, Bool.or_false, List.getLast?_concat,
    Option.map_some]

namespace Pointer

/-- The pointer while a press is held. -/
structure Held (p : Pointer) (anchor : Option GridPos) (targets : List GridPos) (copied : List (List Char)) : Prop where
  selection : p.selection = swept anchor targets
  mouseDownPos : p.mouseDownPos = if (swept anchor targets).isSome then none else anchor
  copied : p.copied = copied

variable {p : Pointer} {anchor : Option GridPos} {targets : List GridPos} {copied : List (List Char)}

theorem drag_extends (free : p.mouseDownPos = none) (pos : GridPos) :
    p.drag (some pos) = { p with selection := p.selection.map fun sel => { sel with endPos := pos } } := by
  unfold drag
  rw [free]

theorem drag_stays {pos : GridPos} (down : p.mouseDownPos = some pos) : p.drag (some pos) = p := by
  unfold drag
  rw [down]
  exact if_pos rfl

theorem drag_starts {anchor pos : GridPos} (down : p.mouseDownPos = some anchor) (moved : anchor ≠ pos) :
    p.drag (some pos) = { p with mouseDownPos := none, selection := some ⟨anchor, pos, true⟩ } := by
  unfold drag
  rw [down]
  exact if_neg moved

theorem held_drag (held : p.Held anchor targets copied) (pos : GridPos) :
    (p.drag (some pos)).Held anchor (targets ++ [pos]) copied := by
  obtain ⟨selection, downPos, same⟩ := held
  cases anchor with
  | none =>
    rw [drag_extends downPos, selection]
    exact ⟨rfl, downPos, same⟩
  | some anchor =>
    have next := swept_concat anchor targets pos
    rw [isSome_swept] at downPos
    cases left : targets.any (· != anchor) with
    | true =>
      obtain ⟨target, member, _⟩ := List.any_eq_true.mp left
      obtain ⟨last, is⟩ := Option.isSome_iff_exists.mp (List.getLast?_isSome.mpr (List.ne_nil_of_mem member))
      rw [left, if_pos rfl] at downPos
      rw [swept, Option.bind_some, if_pos left, is, Option.map_some] at selection
      rw [left, Bool.true_or, if_pos rfl] at next
      rw [drag_extends downPos, selection]
      exact ⟨next.symm, by rw [next]; exact downPos, same⟩
    | false =>
      rw [left, if_neg Bool.false_ne_true] at downPos
      rw [left, Bool.false_or] at next
      have fresh : swept (some anchor) targets = none :=
        Option.isNone_iff_eq_none.mp (by rw [← Option.not_isSome, isSome_swept, left]; rfl)
      by_cases own : anchor = pos
      · subst own
        rw [bne_self_eq_false, if_neg Bool.false_ne_true] at next
        rw [drag_stays downPos]
        exact ⟨selection.trans (fresh.trans next.symm), by rw [next]; exact downPos, same⟩
      · rw [bne_iff_ne.mpr (Ne.symm own), if_pos rfl] at next
        rw [drag_starts downPos own]
        exact ⟨next.symm, by rw [next]; rfl, same⟩

theorem held_step (held : p.Held anchor targets copied) {act : PointerAct} (holds : act.holds = true) :
    (p.step act).Held anchor (targets ++ act.target.toList) copied := by
  have still : p.Held anchor (targets ++ []) copied := by
    rw [List.append_nil]
    exact held
  have passes (scene : Scene) (event : MouseEvent) :
      (if scene.mouseTracking then { p with forwarded := p.forwarded ++ [event] } else p).Held anchor (targets ++ []) copied := by
    split
    · exact ⟨still.selection, still.mouseDownPos, still.copied⟩
    · exact still
  cases act with
  | other => exact still
  | key => cases holds
  | mouse scene event =>
    cases event with
    | scrollUp | scrollDown | up => cases holds
    | move => exact passes scene _
    | down button col row =>
      cases button with
      | left => cases holds
      | middle | right => exact passes scene _
    | drag button col row =>
      cases button with
      | middle | right => exact passes scene _
      | left =>
        rw [step, onMouse, PointerAct.target]
        split
        · exact ⟨still.selection, still.mouseDownPos, still.copied⟩
        · cases screenToGrid scene.size col row with
          | none => exact still
          | some pos => exact held_drag held pos

theorem held_run (held : p.Held anchor targets copied) {acts : List PointerAct} (holds : ∀ act ∈ acts, act.holds = true) :
    (run step p acts).Held anchor (targets ++ acts.filterMap PointerAct.target) copied := by
  induction acts generalizing p targets with
  | nil => rwa [List.filterMap_nil, List.append_nil]
  | cons act rest ih =>
    obtain ⟨first, later⟩ := List.forall_mem_cons.mp holds
    have split : (act :: rest).filterMap PointerAct.target = act.target.toList ++ rest.filterMap PointerAct.target := by
      cases target : act.target with
      | none => rw [List.filterMap_cons_none target]; rfl
      | some pos => rw [List.filterMap_cons_some target]; rfl
    rw [split, ← List.append_assoc]
    exact ih (held_step held first) later

/-- A first press in the body. -/
theorem held_down (p : Pointer) {scene : Scene} {pos : Option GridPos} (single : pos.filter (p.isDouble scene.now) = none) :
    (p.down scene pos).Held pos [] p.copied := by
  have nothing : swept pos [] = none := by cases pos <;> rfl
  have pressed : p.down scene pos =
      { p.clearSelection with mouseDownPos := pos, lastClick := pos.map fun pos => (scene.now, pos) } := by
    unfold down
    rw [single]
  rw [pressed]
  exact ⟨nothing.symm, by rw [nothing]; rfl, rfl⟩

theorem copies_none (scene : Scene) : copies scene none = [] := by
  rw [copies]
  split <;> rfl

theorem copies_some (scene : Scene) {grid : Grid} (shown : scene.grid = some grid) (sel : TextSelection) :
    copies scene (some sel) =
      if scene.hasClipboard then if (sel.extractText grid).isEmpty then [] else [sel.extractText grid] else [] := by
  rw [copies, shown, Option.bind_some, Option.map_some, Option.filter_some]
  cases (sel.extractText grid).isEmpty <;> rfl

theorem up_held (held : p.Held anchor targets copied) (scene : Scene) :
    (p.up scene).selection = (swept anchor targets).map (fun sel => { sel with active := false }) ∧
      (p.up scene).mouseDownPos = none ∧ (p.up scene).copied = copied ++ copies scene (swept anchor targets) := by
  obtain ⟨selection, -, rfl⟩ := held
  cases chosen : swept anchor targets with
  | none =>
    have released : p.up scene = { p with mouseDownPos := none } := by
      unfold up finishSelection
      dsimp only
      rw [selection, chosen]
    rw [released, copies_none, List.append_nil]
    exact ⟨selection.trans chosen, rfl, rfl⟩
  | some sel =>
    rw [chosen] at selection
    let after : Pointer := { p with mouseDownPos := none, selection := some { sel with active := false } }
    cases shown : scene.grid with
    | none =>
      have released : p.up scene = after := by
        unfold up finishSelection
        dsimp only
        rw [selection, shown]
        rfl
      have nothing : copies scene (some sel) = [] := by
        rw [copies, shown]
        split <;> rfl
      rw [released, nothing, List.append_nil]
      exact ⟨rfl, rfl, rfl⟩
    | some grid =>
      have released : p.up scene = if (sel.extractText grid).isEmpty then after else after.setText scene (sel.extractText grid) := by
        unfold up finishSelection
        dsimp only
        rw [selection, shown]
        rfl
      rw [released, copies_some scene shown]
      cases empty : (sel.extractText grid).isEmpty with
      | true =>
        refine ⟨rfl, rfl, ?_⟩
        cases scene.hasClipboard <;> exact (List.append_nil _).symm
      | false =>
        rw [if_neg Bool.false_ne_true, setText]
        split
        · exact ⟨rfl, rfl, rfl⟩
        · exact ⟨rfl, rfl, (List.append_nil _).symm⟩

/-! ### A second press -/

theorem setText_lastClick (p : Pointer) (scene : Scene) (text : List Char) : (p.setText scene text).lastClick = p.lastClick := by
  unfold setText
  split <;> rfl

theorem up_lastClick (p : Pointer) (scene : Scene) : (p.up scene).lastClick = p.lastClick := by
  have finished : ({ p with mouseDownPos := none }.finishSelection scene).2.lastClick = p.lastClick := by
    unfold finishSelection
    split <;> rfl
  unfold up
  split
  · rename_i text after found
    rw [found] at finished
    split
    · exact finished
    · exact (setText_lastClick after scene text).trans finished
  · rename_i after found
    rw [found] at finished
    exact finished

theorem step_lastClick (p : Pointer) {act : PointerAct} (other : act.presses = false) : (p.step act).lastClick = p.lastClick := by
  cases act with
  | key | other => rfl
  | mouse scene event =>
    have passes : (if scene.mouseTracking then { p with forwarded := p.forwarded ++ [event] } else p).lastClick = p.lastClick := by
      split <;> rfl
    cases event with
    | scrollUp | scrollDown => rfl
    | move => exact passes
    | down button col row =>
      cases button with
      | left => cases other
      | middle | right => exact passes
    | drag button col row =>
      cases button with
      | middle | right => exact passes
      | left =>
        rw [step, onMouse]
        split
        · rfl
        · unfold drag
          split
          · rfl
          · split
            · split <;> rfl
            · rfl
    | up col row =>
      rw [step, onMouse]
      split
      · rfl
      · exact up_lastClick p scene

theorem run_lastClick (p : Pointer) {acts : List PointerAct} (quiet : ∀ act ∈ acts, act.presses = false) :
    (run step p acts).lastClick = p.lastClick := by
  induction acts generalizing p with
  | nil => rfl
  | cons act rest ih =>
    obtain ⟨first, later⟩ := List.forall_mem_cons.mp quiet
    exact (ih (p.step act) later).trans (step_lastClick p first)

theorem down_again {scene : Scene} {pos : GridPos} (double : p.isDouble scene.now pos = true) :
    (p.down scene (some pos)).selection = (wordAt scene pos).or p.selection ∧ (p.down scene (some pos)).lastClick = none ∧
      (p.down scene (some pos)).copied = p.copied ++ copies scene (wordAt scene pos) := by
  have again : (some pos).filter (p.isDouble scene.now) = some pos := by rw [Option.filter_some, double]; rfl
  have chosen : p.down scene (some pos) =
      match { p with lastClick := none, mouseDownPos := none }.selectWordAt scene pos with
      | (some text, p) => p.setText scene text
      | (none, p) => p := by
    unfold down
    rw [again]
  rw [chosen]
  unfold selectWordAt
  cases shown : scene.grid with
  | none =>
    have nothing : wordAt scene pos = none := by rw [wordAt, shown]; rfl
    rw [nothing, copies_none, List.append_nil]
    exact ⟨rfl, rfl, rfl⟩
  | some grid =>
    have is : wordAt scene pos = TextSelection.selectWord grid pos := by rw [wordAt, shown]; rfl
    dsimp only
    cases found : TextSelection.selectWord grid pos with
    | none =>
      rw [is, found, copies_none, List.append_nil]
      exact ⟨rfl, rfl, rfl⟩
    | some sel =>
      rw [is, found, copies_some scene shown]
      dsimp only
      cases empty : (sel.extractText grid).isEmpty with
      | true =>
        refine ⟨rfl, rfl, ?_⟩
        cases scene.hasClipboard <;> exact (List.append_nil _).symm
      | false =>
        simp only [Bool.false_eq_true, if_false]
        rw [setText]
        split
        · exact ⟨rfl, rfl, rfl⟩
        · exact ⟨rfl, rfl, (List.append_nil _).symm⟩

/-! ### Gestures -/

/-- Released after a sweep, the press selects from its cell to the last one, and the text is copied;
without leaving the cell nothing is. -/
def Sweeps (p : Pointer) (scene : Scene) (col row : UInt16) : Prop :=
  ∀ acts last upCol upRow, (∀ act ∈ acts, act.holds = true) → last.mouseTracking = false →
    let s := run step p (.mouse scene (.down .left col row) :: acts ++ [.mouse last (.up upCol upRow)])
    let sel := swept (screenToGrid scene.size col row) (acts.filterMap PointerAct.target)
    s.selection = sel.map (fun sel => { sel with active := false }) ∧ s.mouseDownPos = none ∧
      s.copied = p.copied ++ copies last sel

/-- The next press selects and copies the word, if it comes in time and to the same cell. -/
def SelectsWord (p : Pointer) (scene : Scene) (col row : UInt16) : Prop :=
  ∀ acts again pos againCol againRow, (∀ act ∈ acts, act.presses = false) → again.mouseTracking = false → ¬ againRow < 3 →
    screenToGrid scene.size col row = some pos → screenToGrid again.size againCol againRow = some pos →
    again.now - scene.now < doubleClickMs →
    let before := run step p (.mouse scene (.down .left col row) :: acts)
    let s := before.step (.mouse again (.down .left againCol againRow))
    s.selection = (wordAt again pos).or before.selection ∧ s.lastClick = none ∧
      s.copied = before.copied ++ copies again (wordAt again pos)

theorem step_press (p : Pointer) {scene : Scene} {col row : UInt16} (body : ¬ row < 3) (untracked : scene.mouseTracking = false) :
    p.step (.mouse scene (.down .left col row)) = p.down scene (screenToGrid scene.size col row) := by
  rw [step, onMouse, if_neg body, untracked]
  rfl

theorem step_release (p : Pointer) {scene : Scene} (col row : UInt16) (untracked : scene.mouseTracking = false) :
    p.step (.mouse scene (.up col row)) = p.up scene := by
  rw [step, onMouse, untracked]
  rfl

/-- A press below the header that is no second one, in any state and whatever the main loop handles
in between. -/
theorem press_selects (p : Pointer) {scene : Scene} {col row : UInt16} (body : ¬ row < 3)
    (untracked : scene.mouseTracking = false) (single : (screenToGrid scene.size col row).filter (p.isDouble scene.now) = none) :
    p.Sweeps scene col row ∧ p.SelectsWord scene col row := by
  constructor
  · intro acts last upCol upRow holds released
    have held := held_run (held_down p single) holds
    rw [List.nil_append] at held
    dsimp only
    rw [run_append, run_cons, run_cons, run_nil, step_release _ _ _ released, step_press p body untracked]
    exact up_held held last
  · intro acts again pos againCol againRow quiet released below first second soon
    dsimp only
    rw [step_press _ below released, second]
    refine down_again ?_
    rw [isDouble, run_cons, run_lastClick _ quiet, step_press p body untracked, first]
    rw [first] at single
    unfold down
    rw [single]
    have same : ((pos == pos) && decide (again.now - scene.now < doubleClickMs)) = true := by
      rw [beq_self_eq_true, decide_eq_true soon]
      rfl
    exact same

end Pointer

/-! ### On a screen -/

def helloGrid : Grid where
  screenLines := 2
  columns := 11
  displayOffset := 0
  line _ := "hello world".toList.map fun c => { c := c }
  full _ := by decide
  columnsFit := by decide

def helloScreen (now : Nat) : Scene := { size := some (80, 24), grid := some helloGrid, now := now }

/-- Something is selected and copied already, and the last press was elsewhere. -/
def busyPointer : Pointer where
  selection := some ⟨⟨1, 0⟩, ⟨1, 2⟩, false⟩
  lastClick := some (900, ⟨5, 5⟩)
  copied := ["old".toList]

/-- Four columns are swept over, or the first of them is pressed twice. -/
theorem hello_selected :
    let press : PointerAct := .mouse (helloScreen 1000) (.down .left 1 3)
    let sweep : List PointerAct := [.other, .mouse (helloScreen 1100) (.drag .left 4 3)]
    let click : List PointerAct := [.mouse (helloScreen 1100) (.up 1 3), .key]
    let swept := run Pointer.step busyPointer (press :: sweep ++ [.mouse (helloScreen 1200) (.up 4 3)])
    let clicked := (run Pointer.step busyPointer (press :: click)).step (.mouse (helloScreen 1200) (.down .left 1 3))
    (swept.selection = some ⟨⟨0, 0⟩, ⟨0, 3⟩, false⟩ ∧ swept.copied = ["old".toList, "hell".toList]) ∧
      clicked.selection = some ⟨⟨0, 0⟩, ⟨0, 4⟩, false⟩ ∧ clicked.copied = ["old".toList, "hello".toList] := by
  intro press sweep click swept clicked
  have pressed : busyPointer.Sweeps (helloScreen 1000) 1 3 ∧ busyPointer.SelectsWord (helloScreen 1000) 1 3 :=
    Pointer.press_selects busyPointer (by decide) rfl (by decide)
  obtain ⟨selection, -, copied⟩ := pressed.1 sweep (helloScreen 1200) 4 3 (by decide) rfl
  obtain ⟨word, -, again⟩ := pressed.2 click (helloScreen 1200) ⟨0, 0⟩ 1 3 (by decide) rfl (by decide) rfl rfl (by decide)
  have hell : copies (helloScreen 1200) (some ⟨⟨0, 0⟩, ⟨0, 3⟩, true⟩) = ["hell".toList] := by decide +kernel
  have hello : wordAt (helloScreen 1200) ⟨0, 0⟩ = some ⟨⟨0, 0⟩, ⟨0, 4⟩, false⟩ := by decide +kernel
  have shown : copies (helloScreen 1200) (some ⟨⟨0, 0⟩, ⟨0, 4⟩, false⟩) = ["hello".toList] := by decide +kernel
  rw [hello] at word again
  rw [shown] at again
  exact ⟨⟨selection, copied.trans (congrArg (["old".toList] ++ ·) hell)⟩, word, again⟩

end Anycode.Ui
