import Anycode.Data.Run
import Anycode.Ui.Input

/-!
# Focus and dialogs

What a key can do to the focus, to the dialogs and to the backend list; the focus is on the dialog
that is visible, in every run.
-/

namespace Anycode.Ui
open Data Config Term

/-- The part of the app that keys and dialogs are about. -/
structure View where
  focus : Focus
  history : HistoryDialogState
  settings : SettingsDialogState
  backendSwitch : BackendSwitchState
  backends : List BackendInfo

def DialogApp.view (app : DialogApp) : View :=
  ⟨app.focus, app.history, app.settings, app.backendSwitch, app.backends⟩

def View.visible (v : View) : PopupKind → Bool
  | .backendSwitch => v.backendSwitch.isVisible
  | .history => v.history.isVisible
  | .settings => v.settings.isVisible

/-- The selections that the backend dialog opens with. -/
structure OpensAt (backends : List BackendInfo) (dialog : BackendDialog) : Prop where
  count : dialog.backendsCount = backends.length
  active : backends = [] ∨ dialog.backendSelection < backends.length
  subagent : dialog.subagentSelection ≤ backends.length
  teammate : dialog.teammateSelection ≤ backends.length

/-- What a key can do. -/
inductive ViewStep (v : View) : View → Prop
  | stays : ViewStep v v
  | opensHistory (terminal : v.focus = .terminal) (entries : List HistoryEntry) :
    ViewStep v { v with history := v.history.handle (.load entries), focus := .popup .history }
  | scrolls (focused : v.focus = .popup .history) {intent : HistoryIntent}
    (keeps : (v.history.handle intent).isVisible = v.history.isVisible) :
    ViewStep v { v with history := v.history.handle intent }
  | closesHistory (focused : v.focus = .popup .history) : ViewStep v { v with history := .hidden, focus := .terminal }
  | opensSettings (terminal : v.focus = .terminal) (fields : List SettingsFieldSnapshot) :
    ViewStep v { v with settings := v.settings.handle (.load fields), focus := .popup .settings }
  | edits (focused : v.focus = .popup .settings) {intent : SettingsIntent}
    (keeps : (v.settings.handle intent).isVisible = v.settings.isVisible) :
    ViewStep v { v with settings := v.settings.handle intent }
  | closesSettings (focused : v.focus = .popup .settings) :
    ViewStep v { v with settings := .hidden, focus := .terminal }
  | opensBackends (terminal : v.focus = .terminal) {dialog : BackendDialog} (opens : OpensAt v.backends dialog) :
    ViewStep v { v with backendSwitch := .visible dialog, focus := .popup .backendSwitch }
  | nextSection (focused : v.focus = .popup .backendSwitch) :
    ViewStep v { v with backendSwitch := v.backendSwitch.handle .nextSection }
  | navigates (focused : v.focus = .popup .backendSwitch) (up : Bool) :
    ViewStep v { v with backendSwitch := v.backendSwitch.handle (if up then .moveUp else .moveDown) }
  | closesBackends (focused : v.focus = .popup .backendSwitch) :
    ViewStep v { v with backendSwitch := .hidden, focus := .terminal }

/-! ### The stores -/

theorem HistoryDialogState.isVisible_handle {intent : HistoryIntent}
    (scrolls : intent = .scrollUp ∨ intent = .scrollDown)
    (state : HistoryDialogState) : (state.handle intent).isVisible = state.isVisible := by
  obtain rfl | rfl := scrolls <;> cases state <;> rfl

theorem SettingsDialogState.isVisible_handle {intent : SettingsIntent}
    (edits : intent = .moveUp ∨ intent = .moveDown ∨ intent = .toggle) (state : SettingsDialogState) :
    (state.handle intent).isVisible = state.isVisible := by
  obtain rfl | rfl | rfl := edits <;> cases state <;> rfl

theorem SettingsDialogState.requestClose_cases (state : SettingsDialogState) :
    state.handle .requestClose = .hidden ∨
      (state.handle .requestClose).isVisible = true ∧ state.isVisible = true := by
  cases state with
  | hidden => exact .inl rfl
  | visible fields focused dirty confirmDiscard =>
    cases dirty with
    | false => exact .inl rfl
    | true =>
      cases confirmDiscard with
      | false => exact .inr ⟨rfl, rfl⟩
      | true => exact .inl rfl

theorem BackendSwitchState.isVisible_handle {intent : BackendSwitchIntent}
    (moves : intent = .nextSection ∨ intent = .moveUp ∨ intent = .moveDown) (state : BackendSwitchState) :
    (state.handle intent).isVisible = state.isVisible := by
  obtain rfl | rfl | rfl := moves <;> cases state <;> rfl

/-! ### Commands leave the dialogs alone -/

namespace DialogApp
variable (app : DialogApp)

@[simp] theorem view_send (command : UiCommand) : (app.send command).2.view = app.view := by
  unfold send
  split <;> rfl

@[simp] theorem view_sendRestart (command : UiCommand) : (app.sendRestart command).view = app.view := by
  have sent := view_send (app.dispatch .detach) command
  unfold sendRestart
  cases result : (app.dispatch .detach).send command with
  | mk ok next =>
    rw [result] at sent
    cases ok <;> exact sent

@[simp] theorem view_requestSwitchBackendByIndex (index : Nat) :
    (app.requestSwitchBackendByIndex index).2.view = app.view := by
  unfold requestSwitchBackendByIndex
  split
  · exact view_send app _
  · rfl

theorem view_closeBackendSwitchDialog :
    app.closeBackendSwitchDialog.view = { app.view with backendSwitch := .hidden, focus := .terminal } := rfl

variable {app}

theorem closes_of_view {other : DialogApp} (same : other.view = app.view)
    (focused : app.focus = .popup .backendSwitch) :
    ViewStep app.view other.closeBackendSwitchDialog.view := by
  rw [view_closeBackendSwitchDialog, same]
  exact .closesBackends focused

theorem stays_of_view {other : DialogApp} (same : other.view = app.view) : ViewStep app.view other.view := by
  rw [same]
  exact .stays

/-! ### Keys in a dialog -/

theorem scrolls_view {intent : HistoryIntent} (scrolls : intent = .scrollUp ∨ intent = .scrollDown)
    (focused : app.focus = .popup .history) : ViewStep app.view (app.dispatchHistory intent).view :=
  ViewStep.scrolls (v := app.view) focused (HistoryDialogState.isVisible_handle scrolls app.history)

theorem edits_view {intent : SettingsIntent} (keeps : (app.settings.handle intent).isVisible = app.settings.isVisible)
    (focused : app.focus = .popup .settings) : ViewStep app.view (app.dispatchSettings intent).view :=
  ViewStep.edits (v := app.view) focused keeps

theorem handleHistoryKey_view (kind : KeyKind) (focused : app.focus = .popup .history) :
    ViewStep app.view (app.handleHistoryKey kind).view := by
  unfold handleHistoryKey
  split
  · exact .closesHistory focused
  · exact .closesHistory focused
  · exact scrolls_view (.inl rfl) focused
  · exact scrolls_view (.inr rfl) focused
  · exact .stays

theorem requestCloseSettings_view (focused : app.focus = .popup .settings) :
    ViewStep app.view app.requestCloseSettings.view := by
  have asked : (app.dispatchSettings .requestClose).settings = app.settings.handle .requestClose := rfl
  unfold requestCloseSettings
  dsimp only
  rw [asked]
  obtain closed | ⟨open_, was⟩ := app.settings.requestClose_cases
  · rw [closed, if_pos (by decide)]
    exact .closesSettings focused
  · rw [open_, if_neg (by decide)]
    exact edits_view (open_.trans was.symm) focused

theorem applySettingsDialog_view (focused : app.focus = .popup .settings) :
    ViewStep app.view app.applySettingsDialog.view := by
  unfold applySettingsDialog
  split
  · exact .stays
  · dsimp only
    split
    · exact .closesSettings focused
    · rw [view_sendRestart]
      exact .closesSettings focused

theorem handleSettingsKey_view (kind : KeyKind) (focused : app.focus = .popup .settings) :
    ViewStep app.view (app.handleSettingsKey kind).view := by
  unfold handleSettingsKey
  split
  · exact requestCloseSettings_view focused
  · exact edits_view (SettingsDialogState.isVisible_handle (.inl rfl) app.settings) focused
  · exact edits_view (SettingsDialogState.isVisible_handle (.inr (.inl rfl)) app.settings) focused
  · exact edits_view (SettingsDialogState.isVisible_handle (.inr (.inr rfl)) app.settings) focused
  · exact applySettingsDialog_view focused
  · exact .closesSettings focused
  · exact .stays

/-- A switch closes the dialog if it could be sent. -/
theorem switch_view (index : Nat) (focused : app.focus = .popup .backendSwitch) :
    ViewStep app.view (match app.requestSwitchBackendByIndex index with
      | (true, next) => next.closeBackendSwitchDialog
      | (false, next) => next).view := by
  have same := view_requestSwitchBackendByIndex app index
  cases result : app.requestSwitchBackendByIndex index with
  | mk ok next =>
    rw [result] at same
    cases ok with
    | true => exact closes_of_view same focused
    | false => exact stays_of_view same

theorem confirmActiveBackend_view (index : Nat) (focused : app.focus = .popup .backendSwitch) :
    ViewStep app.view (app.confirmActiveBackend index).view := by
  unfold confirmActiveBackend
  split
  · exact .stays
  · split
    · exact .closesBackends focused
    · exact switch_view (index + 1) focused

theorem confirmOverrideBackend_view {setFn : DialogApp → Nat → DialogApp} {clearFn : DialogApp → DialogApp}
    (selection : Nat) (sets : ∀ index, (setFn app index).view = app.view) (clears : (clearFn app).view = app.view)
    (focused : app.focus = .popup .backendSwitch) :
    ViewStep app.view (app.confirmOverrideBackend selection setFn clearFn).view := by
  unfold confirmOverrideBackend
  refine closes_of_view ?_ focused
  split
  · exact clears
  · split
    · exact sets _
    · rfl

theorem handleBackendConfirm_view (focused : app.focus = .popup .backendSwitch) :
    ViewStep app.view app.handleBackendConfirm.view := by
  unfold handleBackendConfirm
  split
  · exact .stays
  · split
    · exact confirmActiveBackend_view _ focused
    · exact confirmOverrideBackend_view _ (fun _ => view_send app _) (view_send app _) focused
    · exact confirmOverrideBackend_view _ (fun _ => view_send app _) (view_send app _) focused

theorem handleBackendDelete_view (focused : app.focus = .popup .backendSwitch) :
    ViewStep app.view app.handleBackendDelete.view := by
  unfold handleBackendDelete
  split
  · exact .stays
  · split
    · exact closes_of_view (view_send app _) focused
    · exact closes_of_view (view_send app _) focused
    · exact .stays

theorem handleBackendDigit_view (index : Nat) (focused : app.focus = .popup .backendSwitch) :
    ViewStep app.view (app.handleBackendDigit index).view := by
  unfold handleBackendDigit
  split
  · exact .stays
  · split
    · split
      · exact .stays
      · split
        · exact .closesBackends focused
        · exact switch_view index focused
    · split
      · exact closes_of_view (view_send app _) focused
      · exact .stays
    · split
      · exact closes_of_view (view_send app _) focused
      · exact .stays

theorem handleBackendSwitchKey_view (kind : KeyKind) (focused : app.focus = .popup .backendSwitch) :
    ViewStep app.view (app.handleBackendSwitchKey kind).view := by
  unfold handleBackendSwitchKey
  split
  · exact .closesBackends focused
  · exact .closesBackends focused
  · exact .closesBackends focused
  · exact .nextSection focused
  · exact .navigates focused true
  · exact .navigates focused false
  · exact handleBackendConfirm_view focused
  · exact handleBackendDelete_view focused
  · exact handleBackendDelete_view focused
  · dsimp only
    split
    · exact handleBackendDigit_view _ focused
    · exact .stays
  · exact .stays

theorem handlePopupKey_view (kind : KeyKind) : ViewStep app.view (app.handlePopupKey kind).view := by
  unfold handlePopupKey
  split
  · exact .stays
  · rename_i focused
    exact handleHistoryKey_view kind focused
  · rename_i focused
    exact handleSettingsKey_view kind focused
  · rename_i focused
    exact handleBackendSwitchKey_view kind focused

/-! ### Any key -/

theorem opensAt (app : DialogApp) :
    OpensAt app.backends ⟨.activeBackend, app.activeBackendIndex.getD 0, app.overrideSelection app.subagentBackend,
      app.overrideSelection app.teammateBackend, app.backends.length⟩ := by
  have within : ∀ backendId : Option String, app.overrideSelection backendId ≤ app.backends.length := by
    intro backendId
    unfold overrideSelection
    cases found : backendId.bind fun name => app.backends.findIdx? fun backend => backend.id == name with
    | none => exact Nat.zero_le _
    | some index =>
      obtain ⟨name, _, listed⟩ := Option.bind_eq_some_iff.mp found
      exact (List.findIdx?_eq_some_iff_getElem.mp listed).1
  refine ⟨rfl, ?_, within _, within _⟩
  cases found : app.activeBackendIndex with
  | none =>
    cases backends : app.backends with
    | nil => exact .inl rfl
    | cons backend rest => exact .inr (Nat.zero_lt_succ _)
  | some index => exact .inr (List.findIdx?_eq_some_iff_getElem.mp found).1

theorem openBackends_view (terminal : app.focus = .terminal) : ViewStep app.view app.openBackends.view := by
  have toggled : app.togglePopup .backendSwitch =
      (true, { app with focus := .popup .backendSwitch }.openBackendSwitchDialog) := by
    simp [togglePopup, terminal, showPopup, openBackendSwitchDialog, dispatchBackendSwitch]
  unfold openBackends
  rw [toggled]
  dsimp only
  rw [requestBackendsRefresh, view_send]
  exact .opensBackends terminal (opensAt app)

theorem terminal_of_showPopup (hidden : app.showPopup = false) : app.focus = .terminal := by
  cases focus : app.focus with
  | terminal => rfl
  | popup kind =>
    rw [showPopup, focus] at hidden
    cases hidden

/-- A key either stays with the dialogs as they are, or does one of the steps. -/
theorem classifyKey_view (app : DialogApp) (key : KeyInput) : ViewStep app.view (app.classifyKey key).2.view := by
  unfold classifyKey
  split
  · exact .stays
  · exact .stays
  · split
    · exact handlePopupKey_view _
    · rename_i hidden
      have terminal := terminal_of_showPopup (Bool.eq_false_iff.mpr hidden)
      split
      · exact openBackends_view terminal
      · exact .opensHistory terminal app.historyEntries
      · exact .opensSettings terminal app.settingsManager.toSnapshots
      · exact stays_of_view (view_sendRestart app _)
      · exact .stays

end DialogApp

/-! ### Consistency -/

/-- The focused dialog is visible, and no other. -/
def View.Focused (v : View) : Prop := ∀ kind, v.visible kind = true ↔ v.focus = .popup kind

/-- A step that touches one dialog and moves the focus to it, or from it to the terminal. -/
theorem View.Focused.of_one {v w : View} (focused : v.Focused) (kind : PopupKind)
    (before : v.focus = .terminal ∨ v.focus = .popup kind) (after : w.focus = .terminal ∨ w.focus = .popup kind)
    (touched : w.visible kind = true ↔ w.focus = .popup kind)
    (others : ∀ other, other ≠ kind → w.visible other = v.visible other) :
    w.Focused := by
  intro other
  by_cases same : other = kind
  · rw [same]
    exact touched
  · have elsewhere : ∀ u : View, u.focus = .terminal ∨ u.focus = .popup kind → u.focus ≠ .popup other := by
      rintro u (terminal | popup) focus
      · cases terminal.symm.trans focus
      · cases popup.symm.trans focus
        exact same rfl
    rw [others other same, focused other]
    exact iff_of_false (elsewhere v before) (elsewhere w after)

section
variable {v w : View}

theorem others_history (settings : w.settings = v.settings) (backends : w.backendSwitch = v.backendSwitch)
    (other : PopupKind) (different : other ≠ .history) : w.visible other = v.visible other := by
  cases other with
  | backendSwitch => rw [View.visible, backends, View.visible]
  | history => exact absurd rfl different
  | settings => rw [View.visible, settings, View.visible]

theorem others_settings (history : w.history = v.history) (backends : w.backendSwitch = v.backendSwitch)
    (other : PopupKind) (different : other ≠ .settings) : w.visible other = v.visible other := by
  cases other with
  | backendSwitch => rw [View.visible, backends, View.visible]
  | history => rw [View.visible, history, View.visible]
  | settings => exact absurd rfl different

theorem others_backendSwitch (history : w.history = v.history) (settings : w.settings = v.settings)
    (other : PopupKind) (different : other ≠ .backendSwitch) : w.visible other = v.visible other := by
  cases other with
  | backendSwitch => exact absurd rfl different
  | history => rw [View.visible, history, View.visible]
  | settings => rw [View.visible, settings, View.visible]

/-- A dialog that is moved in stays visible, and focused. -/
theorem View.Focused.moved (focused : v.Focused) (intent : BackendSwitchIntent)
    (popup : v.focus = .popup .backendSwitch)
    (moves : intent = .nextSection ∨ intent = .moveUp ∨ intent = .moveDown) :
    View.Focused { v with backendSwitch := v.backendSwitch.handle intent } := by
  refine focused.of_one .backendSwitch (.inr popup) (.inr popup) ?_ (others_backendSwitch rfl rfl)
  exact (Bool.eq_iff_iff.mp (BackendSwitchState.isVisible_handle moves v.backendSwitch)).trans (focused .backendSwitch)

theorem ViewStep.focused (step : ViewStep v w) (focused : v.Focused) : w.Focused := by
  cases step with
  | stays => exact focused
  | opensHistory terminal entries =>
    exact focused.of_one .history (.inl terminal) (.inr rfl) (iff_of_true rfl rfl) (others_history rfl rfl)
  | scrolls popup keeps =>
    have touched := (Bool.eq_iff_iff.mp keeps).trans (focused .history)
    exact focused.of_one .history (.inr popup) (.inr popup) touched (others_history rfl rfl)
  | closesHistory popup =>
    exact focused.of_one .history (.inr popup) (.inl rfl) (by simp [View.visible, HistoryDialogState.isVisible])
      (others_history rfl rfl)
  | opensSettings terminal fields =>
    exact focused.of_one .settings (.inl terminal) (.inr rfl) (iff_of_true rfl rfl) (others_settings rfl rfl)
  | edits popup keeps =>
    have touched := (Bool.eq_iff_iff.mp keeps).trans (focused .settings)
    exact focused.of_one .settings (.inr popup) (.inr popup) touched (others_settings rfl rfl)
  | closesSettings popup =>
    exact focused.of_one .settings (.inr popup) (.inl rfl) (by simp [View.visible, SettingsDialogState.isVisible])
      (others_settings rfl rfl)
  | opensBackends terminal opens =>
    exact focused.of_one .backendSwitch (.inl terminal) (.inr rfl) (iff_of_true rfl rfl) (others_backendSwitch rfl rfl)
  | nextSection popup => exact focused.moved .nextSection popup (.inl rfl)
  | navigates popup up => exact focused.moved _ popup (.inr (by cases up <;> simp))
  | closesBackends popup =>
    exact focused.of_one .backendSwitch (.inr popup) (.inl rfl) (by simp [View.visible, BackendSwitchState.isVisible])
      (others_backendSwitch rfl rfl)

end

theorem step_focused (app : DialogApp) (event : UiEvent) (focused : app.view.Focused) :
    (app.step event).view.Focused := by
  cases event with
  | key input => exact (DialogApp.classifyKey_view app input).focused focused
  | _ => exact focused

theorem run_focused {app : DialogApp} (focused : app.view.Focused) (events : List UiEvent) :
    (run DialogApp.step app events).view.Focused := by
  induction events generalizing app with
  | nil => exact focused
  | cons event rest ih => exact ih (step_focused app event focused)

theorem new_focused (settings : ClaudeSettingsManager) (subagentBackend teammateBackend : Option String) :
    (DialogApp.new settings subagentBackend teammateBackend).view.Focused := by
  intro kind
  cases kind <;> simp [DialogApp.new, DialogApp.view, View.visible, HistoryDialogState.isVisible,
    SettingsDialogState.isVisible, BackendSwitchState.isVisible]

/-- The keys that the wrapper takes for itself while no dialog is open. -/
def wrapperHotkeys : List KeyKind := [.control 'q', .control 'b', .control 'h', .control 'e', .control 'r']

theorem View.Focused.terminal_iff {v : View} (focused : v.Focused) :
    v.focus = .terminal ↔ ∀ kind, v.visible kind = false := by
  constructor
  · intro terminal kind
    rw [Bool.eq_false_iff, ne_eq, focused kind, terminal]
    exact nofun
  · intro hidden
    cases focus : v.focus with
    | terminal => rfl
    | popup kind =>
      have visible := (focused kind).mpr focus
      rw [hidden kind] at visible
      cases visible

theorem View.Focused.popup_iff {v : View} (focused : v.Focused) (kind : PopupKind) :
    v.focus = .popup kind ↔ v.visible kind = true ∧ ∀ other, other ≠ kind → v.visible other = false := by
  rw [← focused kind]
  refine ⟨fun visible => ⟨visible, ?_⟩, fun only => only.1⟩
  intro other different
  rw [Bool.eq_false_iff, ne_eq, focused other, (focused kind).mp visible]
  rintro ⟨⟩
  exact different rfl

theorem classifyKey_forward_iff (app : DialogApp) (key : KeyInput) :
    (app.classifyKey key).1 = .forward ↔
      app.focus = .terminal ∧ key.kind ∉ wrapperHotkeys ∨ key.kind = .control 'v' := by
  unfold DialogApp.classifyKey
  split
  · rename_i quit
    simp [quit, wrapperHotkeys]
  · rename_i paste
    simp [paste]
  · rename_i notQuit notPaste
    cases focus : app.focus with
    | popup kind =>
      simp only [DialogApp.showPopup, focus, if_true]
      exact iff_of_false (by decide) (by rintro (⟨⟨⟩, _⟩ | paste); exact notPaste paste)
    | terminal =>
      simp only [DialogApp.showPopup, focus, Bool.false_eq_true, if_false, true_and]
      split
      · simp [*, wrapperHotkeys]
      · simp [*, wrapperHotkeys]
      · simp [*, wrapperHotkeys]
      · simp [*, wrapperHotkeys]
      · rename_i notBackends notHistory notSettings notRestart
        refine iff_of_true rfl (.inl ?_)
        simp only [wrapperHotkeys, List.mem_cons, List.not_mem_nil, or_false, not_or]
        exact ⟨notQuit, notBackends, notHistory, notSettings, notRestart⟩

/-- In every run the focus is on the dialog that is visible, no two are, and exactly the keys that
neither a dialog nor the wrapper takes are forwarded. -/
theorem focus_follows_dialogs (settings : ClaudeSettingsManager) (subagentBackend teammateBackend : Option String)
    (events : List UiEvent) :
    let app := run DialogApp.step (.new settings subagentBackend teammateBackend) events
    (∀ kind, app.focus = .popup kind ↔
        app.view.visible kind = true ∧ ∀ other, other ≠ kind → app.view.visible other = false) ∧
      (app.focus = .terminal ↔ ∀ kind, app.view.visible kind = false) ∧
        ∀ key : KeyInput, (app.classifyKey key).1 = .forward ↔
          (∀ kind, app.view.visible kind = false) ∧ key.kind ∉ wrapperHotkeys ∨ key.kind = .control 'v' := by
  intro app
  have focused : app.view.Focused := run_focused (new_focused settings subagentBackend teammateBackend) events
  refine ⟨focused.popup_iff, focused.terminal_iff, ?_⟩
  intro key
  rw [← focused.terminal_iff]
  exact classifyKey_forward_iff app key

end Anycode.Ui
