import Anycode.Config.ClaudeSettings

/-!
# The stores of the dialogs

The states of the history, settings and backend switch dialogs, and what their actors make of each
intent (`ui/history`, `ui/settings`, `ui/backend_switch`).
-/

namespace Anycode.Ui
open Config

/-! ### History -/

structure HistoryEntry where
  fromBackend : Option String
  toBackend : String
  deriving DecidableEq

inductive HistoryDialogState where
  | hidden
  | visible (entries : List HistoryEntry) (scrollOffset : Nat)
  deriving DecidableEq

inductive HistoryIntent where
  | load (entries : List HistoryEntry)
  | close
  | scrollUp
  | scrollDown

def maxVisibleRows : Nat := 14

namespace HistoryDialogState

def isVisible : HistoryDialogState → Bool
  | .hidden => false
  | .visible _ _ => true

def handle (state : HistoryDialogState) : HistoryIntent → HistoryDialogState
  | .load entries => .visible entries (entries.length - maxVisibleRows)
  | .close => .hidden
  | .scrollUp =>
    match state with
    | .visible entries scrollOffset => .visible entries (scrollOffset - 1)
    | .hidden => .hidden
  | .scrollDown =>
    match state with
    | .visible entries scrollOffset => .visible entries (min (scrollOffset + 1) (entries.length - maxVisibleRows))
    | .hidden => .hidden

end HistoryDialogState

/-! ### Settings -/

inductive SettingsDialogState where
  | hidden
  /-- With `confirmDiscard`, the next Escape discards the changes. -/
  | visible (fields : List SettingsFieldSnapshot) (focused : Nat) (dirty confirmDiscard : Bool)
  deriving DecidableEq

inductive SettingsIntent where
  | load (fields : List SettingsFieldSnapshot)
  | close
  | requestClose
  | moveUp
  | moveDown
  | toggle

namespace SettingsDialogState

def isVisible : SettingsDialogState → Bool
  | .hidden => false
  | .visible _ _ _ _ => true

def handle (state : SettingsDialogState) : SettingsIntent → SettingsDialogState
  | .load fields => .visible fields 0 false false
  | .close => .hidden
  | .requestClose =>
    match state with
    | .visible fields focused true false => .visible fields focused true true
    | _ => .hidden
  | .moveUp =>
    match state with
    | .visible fields focused dirty _ =>
      .visible fields (if focused = 0 then fields.length - 1 else focused - 1) dirty false
    | .hidden => .hidden
  | .moveDown =>
    match state with
    | .visible fields focused dirty _ =>
      .visible fields (if focused + 1 ≥ fields.length then 0 else focused + 1) dirty false
    | .hidden => .hidden
  | .toggle =>
    match state with
    | .visible fields focused _ _ =>
      .visible (fields.modify focused fun field => { field with value := !field.value }) focused true false
    | .hidden => .hidden

end SettingsDialogState

/-! ### Backend switch -/

inductive BackendPopupSection where
  | activeBackend
  | subagentBackend
  | teammateBackend
  deriving DecidableEq

/-- What the dialog shows: in the override sections, 0 is "Disabled". -/
structure BackendDialog where
  section_ : BackendPopupSection
  backendSelection : Nat
  subagentSelection : Nat
  teammateSelection : Nat
  backendsCount : Nat
  deriving DecidableEq

inductive BackendSwitchState where
  | hidden
  | visible (dialog : BackendDialog)
  deriving DecidableEq

inductive BackendSwitchIntent where
  | open_ (backendSelection subagentSelection teammateSelection backendsCount : Nat)
  | close
  | nextSection
  | moveUp
  | moveDown

def BackendPopupSection.next : BackendPopupSection → BackendPopupSection
  | .activeBackend => .subagentBackend
  | .subagentBackend => .teammateBackend
  | .teammateBackend => .activeBackend

/-- One step up or down, with wrap-around. -/
def wrapAround (current : Nat) (up : Bool) (len : Nat) : Nat :=
  if len = 0 then 0
  else
    let current := min current (len - 1)
    if up then if current = 0 then len - 1 else current - 1
    else if current + 1 ≥ len then 0
    else current + 1

def BackendDialog.navigate (dialog : BackendDialog) (up : Bool) : BackendDialog :=
  match dialog.section_ with
  | .activeBackend => { dialog with backendSelection := wrapAround dialog.backendSelection up dialog.backendsCount }
  | .subagentBackend =>
    { dialog with subagentSelection := wrapAround dialog.subagentSelection up (dialog.backendsCount + 1) }
  | .teammateBackend =>
    { dialog with teammateSelection := wrapAround dialog.teammateSelection up (dialog.backendsCount + 1) }

namespace BackendSwitchState

def isVisible : BackendSwitchState → Bool
  | .hidden => false
  | .visible _ => true

def handle (state : BackendSwitchState) : BackendSwitchIntent → BackendSwitchState
  | .open_ backendSelection subagentSelection teammateSelection backendsCount =>
    .visible ⟨.activeBackend, backendSelection, subagentSelection, teammateSelection, backendsCount⟩
  | .close => .hidden
  | .nextSection =>
    match state with
    | .visible dialog => .visible { dialog with section_ := dialog.section_.next }
    | .hidden => .hidden
  | .moveUp =>
    match state with
    | .visible dialog => .visible (dialog.navigate true)
    | .hidden => .hidden
  | .moveDown =>
    match state with
    | .visible dialog => .visible (dialog.navigate false)
    | .hidden => .hidden

end BackendSwitchState

end Anycode.Ui
