import Anycode.Ui.Focus
import Mathlib.Logic.Function.Iterate

/-!
# The backend dialog and the backend list

The dialog copies the number of backends when it opens. Along which runs that copy, and what the
dialog selects by it, still fit the list.
-/

namespace Anycode.Ui
open Data Config Term

/-! ### Moving in a section -/

theorem wrapAround_down {current len : Nat} (inside : current < len) :
    wrapAround current false len = (current + 1) % len := by
  have capped : min current (len - 1) = current := by omega
  simp only [wrapAround, capped, if_neg (show len ≠ 0 by omega), Bool.false_eq_true, if_false]
  by_cases last : current + 1 ≥ len
  · have whole : current + 1 = len := by omega
    rw [if_pos last, whole, Nat.mod_self]
  · rw [if_neg last, Nat.mod_eq_of_lt (by omega)]

theorem wrapAround_lt {len : Nat} (current : Nat) (up : Bool) (nonempty : 0 < len) :
    wrapAround current up len < len := by
  simp only [wrapAround, if_neg (show len ≠ 0 by omega)]
  split
  · split <;> omega
  · split <;> omega

/-- Moving down `n` times goes around. -/
theorem iterate_wrapAround {current len : Nat} (inside : current < len) (n : Nat) :
    (fun selection => wrapAround selection false len)^[n] current = (current + n) % len := by
  induction n with
  | zero => exact (Nat.mod_eq_of_lt inside).symm
  | succ n ih =>
    rw [Function.iterate_succ_apply', ih, wrapAround_down (Nat.mod_lt _ (by omega)), Nat.mod_add_mod, Nat.add_assoc]

theorem wrapAround_visits {current option len : Nat} (inside : current < len) (valid : option < len) :
    ∃ n, (fun selection => wrapAround selection false len)^[n] current = option := by
  refine ⟨option + (len - current), ?_⟩
  rw [iterate_wrapAround inside, show current + (option + (len - current)) = option + len by omega,
    Nat.add_mod_right, Nat.mod_eq_of_lt valid]

/-! ### The sections -/

namespace BackendDialog

def selection (dialog : BackendDialog) : BackendPopupSection → Nat
  | .activeBackend => dialog.backendSelection
  | .subagentBackend => dialog.subagentSelection
  | .teammateBackend => dialog.teammateSelection

def moveDown (dialog : BackendDialog) : BackendDialog := dialog.navigate false

end BackendDialog

/-- The options that a section has for a list: its backends, and "Disabled" for an override. -/
def optionCount (backends : List BackendInfo) : BackendPopupSection → Nat
  | .activeBackend => backends.length
  | .subagentBackend | .teammateBackend => backends.length + 1

/-- The options that the dialog goes through. -/
def BackendDialog.copiedCount (dialog : BackendDialog) : BackendPopupSection → Nat
  | .activeBackend => dialog.backendsCount
  | .subagentBackend | .teammateBackend => dialog.backendsCount + 1

/-- Repeating MoveDown in the section comes to every option of the list. -/
def Visits (dialog : BackendDialog) (backends : List BackendInfo) (sect : BackendPopupSection) : Prop :=
  ∀ option < optionCount backends sect, ∃ n,
    (BackendDialog.moveDown^[n] { dialog with section_ := sect }).selection sect = option

/-- The dialog is one of the list: its count, its selections and its ways through the options. -/
structure MatchesList (dialog : BackendDialog) (backends : List BackendInfo) : Prop where
  count : dialog.backendsCount = backends.length
  valid : ∀ sect, dialog.selection sect < optionCount backends sect
  visits : ∀ sect, Visits dialog backends sect

theorem navigate_iterate (dialog : BackendDialog) (sect : BackendPopupSection) (n : Nat) :
    (BackendDialog.moveDown^[n] { dialog with section_ := sect }).selection sect =
      (fun selection => wrapAround selection false (dialog.copiedCount sect))^[n] (dialog.selection sect) := by
  have steps : ∀ m, ∃ moved : BackendDialog,
      BackendDialog.moveDown^[m] { dialog with section_ := sect } = moved ∧ moved.section_ = sect ∧
        moved.backendsCount = dialog.backendsCount ∧
        moved.selection sect = (fun selection => wrapAround selection false (dialog.copiedCount sect))^[m]
          (dialog.selection sect) := by
    intro m
    induction m with
    | zero => exact ⟨_, rfl, rfl, rfl, by cases sect <;> rfl⟩
    | succ m ih =>
      obtain ⟨moved, iterated, here, count, selected⟩ := ih
      refine ⟨moved.moveDown, ?_, ?_, ?_, ?_⟩
      · rw [Function.iterate_succ_apply', iterated]
      · rw [← here]
        unfold BackendDialog.moveDown BackendDialog.navigate
        split <;> rfl
      · rw [← count]
        unfold BackendDialog.moveDown BackendDialog.navigate
        split <;> rfl
      · rw [Function.iterate_succ_apply', ← selected]
        unfold BackendDialog.moveDown BackendDialog.navigate
        rw [here]
        cases sect <;> simp only [BackendDialog.selection, BackendDialog.copiedCount, count]
  obtain ⟨moved, iterated, _, _, selected⟩ := steps n
  rw [iterated, selected]

/-! ### The invariant -/

/-- The dialog keeps to its own count, and that is the list's unless the list is empty. -/
structure Fits (dialog : BackendDialog) (backends : List BackendInfo) : Prop where
  count : backends = [] ∨ dialog.backendsCount = backends.length
  active : dialog.backendsCount = 0 ∨ dialog.backendSelection < dialog.backendsCount
  subagent : dialog.subagentSelection ≤ dialog.backendsCount
  teammate : dialog.teammateSelection ≤ dialog.backendsCount

def View.DialogFits (v : View) : Prop := ∀ dialog, v.backendSwitch = .visible dialog → Fits dialog v.backends

/-- In a state with the dialog visible and a list that is not empty, the two match. -/
def View.DialogMatches (v : View) : Prop :=
  ∀ dialog, v.backendSwitch = .visible dialog → v.backends ≠ [] → MatchesList dialog v.backends

theorem Fits.matches {dialog : BackendDialog} {backends : List BackendInfo} (fits : Fits dialog backends)
    (nonempty : backends ≠ []) : MatchesList dialog backends := by
  have count := fits.count.resolve_left nonempty
  have some_ : 0 < backends.length := List.length_pos_iff.mpr nonempty
  have options : ∀ sect, optionCount backends sect = dialog.copiedCount sect := by
    intro sect
    cases sect <;> simp [optionCount, BackendDialog.copiedCount, count]
  have valid : ∀ sect, dialog.selection sect < dialog.copiedCount sect := by
    intro sect
    cases sect with
    | activeBackend => exact fits.active.resolve_left (by omega)
    | subagentBackend => exact Nat.lt_succ_of_le fits.subagent
    | teammateBackend => exact Nat.lt_succ_of_le fits.teammate
  refine ⟨count, ?_, ?_⟩
  · intro sect
    rw [options]
    exact valid sect
  · intro sect option listed
    rw [options] at listed
    obtain ⟨n, visited⟩ := wrapAround_visits (valid sect) listed
    exact ⟨n, (navigate_iterate dialog sect n).trans visited⟩

theorem View.DialogFits.matches {v : View} (fits : v.DialogFits) : v.DialogMatches :=
  fun dialog visible nonempty => (fits dialog visible).matches nonempty

theorem OpensAt.fits {dialog : BackendDialog} {backends : List BackendInfo} (opens : OpensAt backends dialog) :
    Fits dialog backends where
  count := .inr opens.count
  active := by
    rw [opens.count]
    exact opens.active.imp (fun empty => by rw [empty]; rfl) id
  subagent := by
    rw [opens.count]
    exact opens.subagent
  teammate := by
    rw [opens.count]
    exact opens.teammate

theorem Fits.navigate {dialog : BackendDialog} {backends : List BackendInfo} (fits : Fits dialog backends) (up : Bool) :
    Fits (dialog.navigate up) backends := by
  obtain ⟨count, active, subagent, teammate⟩ := fits
  unfold BackendDialog.navigate
  split
  · refine ⟨count, ?_, subagent, teammate⟩
    rcases Nat.eq_zero_or_pos dialog.backendsCount with none_ | some_
    · exact .inl none_
    · exact .inr (wrapAround_lt _ up some_)
  · exact ⟨count, active, Nat.le_of_lt_succ (wrapAround_lt _ up (Nat.succ_pos _)), teammate⟩
  · exact ⟨count, active, subagent, Nat.le_of_lt_succ (wrapAround_lt _ up (Nat.succ_pos _))⟩

theorem ViewStep.dialogFits {v w : View} (step : ViewStep v w) (fits : v.DialogFits) : w.DialogFits := by
  have moved : ∀ (intent : BackendSwitchIntent), (∀ dialog, Fits dialog v.backends → ∀ next,
      (BackendSwitchState.visible dialog).handle intent = .visible next → Fits next v.backends) →
      (BackendSwitchState.hidden.handle intent = .hidden) →
      View.DialogFits { v with backendSwitch := v.backendSwitch.handle intent } := by
    intro intent keeps hidden next visible
    cases before : v.backendSwitch with
    | hidden =>
      rw [before, hidden] at visible
      cases visible
    | visible dialog =>
      rw [before] at visible
      exact keeps dialog (fits dialog before) next visible
  cases step with
  | stays => exact fits
  | opensHistory => exact fits
  | scrolls => exact fits
  | closesHistory => exact fits
  | opensSettings => exact fits
  | edits => exact fits
  | closesSettings => exact fits
  | opensBackends _ opens =>
    rintro _ ⟨⟩
    exact opens.fits
  | nextSection =>
    refine moved .nextSection ?_ rfl
    rintro dialog fits _ ⟨⟩
    exact ⟨fits.count, fits.active, fits.subagent, fits.teammate⟩
  | navigates _ up =>
    cases up with
    | true =>
      refine moved .moveUp ?_ rfl
      rintro dialog fits _ ⟨⟩
      exact fits.navigate true
    | false =>
      refine moved .moveDown ?_ rfl
      rintro dialog fits _ ⟨⟩
      exact fits.navigate false
  | closesBackends => exact nofun

/-! ### Runs -/

/-- A list that arrives while the dialog is visible is empty, or as long as the one that the dialog
was opened with. -/
def UpdateFits (app : DialogApp) : UiEvent → Prop
  | .updateBackends backends =>
    ∀ dialog, app.backendSwitch = .visible dialog → backends = [] ∨ backends.length = dialog.backendsCount
  | _ => True

theorem step_dialogFits {app : DialogApp} {event : UiEvent} (fits : app.view.DialogFits)
    (update : UpdateFits app event) :
    (app.step event).view.DialogFits := by
  cases event with
  | key input => exact (DialogApp.classifyKey_view app input).dialogFits fits
  | updateBackends backends =>
    intro dialog visible
    obtain ⟨_, active, subagent, teammate⟩ := fits dialog visible
    exact ⟨(update dialog visible).imp id Eq.symm, active, subagent, teammate⟩
  | _ => exact fits

theorem updateFits_of_matches {app : DialogApp} {event : UiEvent} (matches_ : (app.step event).view.DialogMatches) :
    UpdateFits app event := by
  cases event with
  | updateBackends backends =>
    intro dialog visible
    by_cases empty : backends = []
    · exact .inl empty
    · exact .inr (matches_ dialog visible empty).count.symm
  | _ => trivial

/-- The dialog matches the list in every state of a run exactly when every list that arrives while
it is visible is empty or as long as the one it was opened with. -/
theorem dialogMatches_iff_updateFits (settings : ClaudeSettingsManager)
    (subagentBackend teammateBackend : Option String) (events : List UiEvent) :
    Throughout DialogApp.step (fun app => app.view.DialogMatches) (.new settings subagentBackend teammateBackend) events ↔
      Along DialogApp.step UpdateFits (.new settings subagentBackend teammateBackend) events := by
  have initial : (DialogApp.new settings subagentBackend teammateBackend).view.DialogFits := nofun
  exact throughout_iff_along (I := fun app : DialogApp => app.view.DialogFits) (G := fun _ _ => True)
    (fun _ fits => fits.matches) (fun _ _ fits _ update => step_dialogFits fits update)
    (fun _ _ _ _ matches_ => updateFits_of_matches matches_) initial (along_iff.mpr fun _ _ _ _ => trivial)

/-- The list that Ctrl+B asks for arrives when the dialog is open. -/
theorem refreshed_list_unmatched :
    let backends : List BackendInfo := [⟨"claude", true⟩, ⟨"glm", false⟩, ⟨"kimi", false⟩]
    ¬ Throughout DialogApp.step (fun app => app.view.DialogMatches) (.new .new none none)
      [.key ⟨[0x02], .control 'b'⟩, .updateBackends backends] := by
  intro backends throughout
  have last := throughout_head throughout.2.2
  have count := (last ⟨.activeBackend, 0, 0, 0, 0⟩ rfl (List.cons_ne_nil _ _)).count
  cases count

end Anycode.Ui
