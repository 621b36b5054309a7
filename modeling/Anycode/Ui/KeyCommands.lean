import Anycode.Ui.Focus
import Anycode.Ui.Liveness

/-!
# Commands of a key

A key puts at most one command into the channel to the bridge, and what it names is on the list of
backends that is shown.
-/

namespace Anycode.Ui
open Config Term

/-- Backends that the command names are listed, and one that it switches to is not the active one. -/
def UiCommand.Names (backends : List BackendInfo) : UiCommand → Prop
  | .switchBackend id => ∃ backend ∈ backends, backend.id = id ∧ backend.isActive = false
  | .setSubagentBackend (some id) | .setTeammateBackend (some id) => ∃ backend ∈ backends, backend.id = id
  | _ => True

/-- At most one command goes into the channel. -/
inductive Sends (app next : DialogApp) : Prop
  | nothing (same : next.ipcSender = app.ipcSender)
  | command {channel : CommandChannel} (there : app.ipcSender = some channel) (command : UiCommand)
      (sent : next.ipcSender = some { channel with commands := channel.commands ++ [command] })
      (names : command.Names app.backends)

theorem Sends.closes {app next other : DialogApp} (sends : Sends app next) (same : other.ipcSender = next.ipcSender) :
    Sends app other := by
  cases sends with
  | nothing kept => exact .nothing (same.trans kept)
  | command there command sent names => exact .command there command (same.trans sent) names

theorem Sends.of_same {app other next : DialogApp} (sends : Sends other next) (sender : other.ipcSender = app.ipcSender)
    (backends : other.backends = app.backends) : Sends app next := by
  cases sends with
  | nothing kept => exact .nothing (kept.trans sender)
  | command there command sent names => exact .command (sender.symm.trans there) command sent (backends ▸ names)

namespace DialogApp
variable {app : DialogApp}

/-! ### Sending -/

theorem send_sends (app : DialogApp) {command : UiCommand} (names : command.Names app.backends) :
    Sends app (app.send command).2 := by
  rw [send]
  split
  · exact .nothing rfl
  · rename_i channel there
    unfold App.sendCommand
    by_cases accepts : channel.Accepts
    · rw [trySend_ok accepts command]
      exact .command there command rfl names
    · obtain ⟨e, refused⟩ := trySend_error accepts command
      rw [refused]
      exact .nothing there.symm

theorem sendRestart_sends (app : DialogApp) {command : UiCommand} (names : command.Names app.backends) :
    Sends app (app.sendRestart command) := by
  have sends : Sends app ((app.dispatch .detach).send command).2 :=
    (send_sends (app.dispatch .detach) names).of_same rfl rfl
  unfold sendRestart
  cases result : (app.dispatch .detach).send command with
  | mk ok next =>
    rw [result] at sends
    cases ok with
    | true => exact sends
    | false => exact sends.closes rfl

theorem request_sends {command : Option String → UiCommand}
    (override : command = .setSubagentBackend ∨ command = .setTeammateBackend) (index : Nat) :
    Sends app (app.send (command (app.backends[index]?.map (·.id)))).2 := by
  refine send_sends app ?_
  cases found : app.backends[index]? with
  | none => rcases override with rfl | rfl <;> trivial
  | some backend =>
    have listed : ∃ other ∈ app.backends, other.id = backend.id := ⟨backend, List.mem_of_getElem? found, rfl⟩
    rcases override with rfl | rfl <;> exact listed

theorem clear_sends {command : Option String → UiCommand}
    (override : command = .setSubagentBackend ∨ command = .setTeammateBackend) : Sends app (app.send (command none)).2 :=
  send_sends app (by rcases override with rfl | rfl <;> trivial)

/-- The backend at the index was looked at before, and is not active. -/
theorem switch_sends (index : Nat) {backend : BackendInfo} (found : app.backends[index - 1]? = some backend)
    (inactive : backend.isActive = false) :
    Sends app (match app.requestSwitchBackendByIndex index with
      | (true, next) => next.closeBackendSwitchDialog
      | (false, next) => next) := by
  have sends : Sends app (app.requestSwitchBackendByIndex index).2 := by
    rw [requestSwitchBackendByIndex, found]
    exact send_sends app ⟨backend, List.mem_of_getElem? found, rfl, inactive⟩
  cases result : app.requestSwitchBackendByIndex index with
  | mk ok next =>
    rw [result] at sends
    cases ok with
    | true => exact sends.closes rfl
    | false => exact sends

/-! ### Keys in a dialog -/

theorem handleSettingsKey_sends (kind : KeyKind) : Sends app (app.handleSettingsKey kind) := by
  have closes : Sends app app.requestCloseSettings := by
    unfold requestCloseSettings
    dsimp only
    split <;> exact .nothing rfl
  have applies : Sends app app.applySettingsDialog := by
    unfold applySettingsDialog
    split
    · exact .nothing rfl
    · dsimp only
      split
      · exact .nothing rfl
      · refine Sends.of_same (sendRestart_sends _ ?_) rfl rfl
        exact trivial
  unfold handleSettingsKey
  split
  · exact closes
  · exact .nothing rfl
  · exact .nothing rfl
  · exact .nothing rfl
  · exact applies
  · exact .nothing rfl
  · exact .nothing rfl

theorem confirmActiveBackend_sends (index : Nat) : Sends app (app.confirmActiveBackend index) := by
  unfold confirmActiveBackend
  split
  · exact .nothing rfl
  · rename_i backend found
    split
    · exact .nothing rfl
    · rename_i inactive
      exact switch_sends (index + 1) found (Bool.eq_false_iff.mpr inactive)

theorem confirmOverrideBackend_sends {setFn : DialogApp → Nat → DialogApp} {clearFn : DialogApp → DialogApp}
    (selection : Nat) (sets : ∀ index, Sends app (setFn app index)) (clears : Sends app (clearFn app)) :
    Sends app (app.confirmOverrideBackend selection setFn clearFn) := by
  unfold confirmOverrideBackend
  split
  · exact clears.closes rfl
  · split
    · exact (sets _).closes rfl
    · exact .nothing rfl

theorem handleBackendConfirm_sends : Sends app app.handleBackendConfirm := by
  unfold handleBackendConfirm
  split
  · exact .nothing rfl
  · split
    · exact confirmActiveBackend_sends _
    · exact confirmOverrideBackend_sends _ (request_sends (.inl rfl)) (clear_sends (.inl rfl))
    · exact confirmOverrideBackend_sends _ (request_sends (.inr rfl)) (clear_sends (.inr rfl))

theorem handleBackendDelete_sends : Sends app app.handleBackendDelete := by
  unfold handleBackendDelete
  split
  · exact .nothing rfl
  · split
    · exact (clear_sends (.inl rfl)).closes rfl
    · exact (clear_sends (.inr rfl)).closes rfl
    · exact .nothing rfl

theorem handleBackendDigit_sends (index : Nat) : Sends app (app.handleBackendDigit index) := by
  unfold handleBackendDigit
  split
  · exact .nothing rfl
  · split
    · split
      · exact .nothing rfl
      · rename_i backend found
        split
        · exact .nothing rfl
        · rename_i inactive
          exact switch_sends _ found (Bool.eq_false_iff.mpr inactive)
    · split
      · exact (request_sends (.inl rfl) _).closes rfl
      · exact .nothing rfl
    · split
      · exact (request_sends (.inr rfl) _).closes rfl
      · exact .nothing rfl

theorem handleBackendSwitchKey_sends (kind : KeyKind) : Sends app (app.handleBackendSwitchKey kind) := by
  unfold handleBackendSwitchKey
  split
  · exact .nothing rfl
  · exact .nothing rfl
  · exact .nothing rfl
  · exact .nothing rfl
  · exact .nothing rfl
  · exact .nothing rfl
  · exact handleBackendConfirm_sends
  · exact handleBackendDelete_sends
  · exact handleBackendDelete_sends
  · dsimp only
    split
    · exact handleBackendDigit_sends _
    · exact .nothing rfl
  · exact .nothing rfl

theorem handlePopupKey_sends (kind : KeyKind) : Sends app (app.handlePopupKey kind) := by
  unfold handlePopupKey
  split
  · exact .nothing rfl
  · unfold handleHistoryKey
    split <;> exact .nothing rfl
  · exact handleSettingsKey_sends kind
  · exact handleBackendSwitchKey_sends kind

/-! ### Any key -/

theorem openBackends_sends : Sends app app.openBackends := by
  have kept : (app.togglePopup .backendSwitch).2.ipcSender = app.ipcSender ∧
      (app.togglePopup .backendSwitch).2.backends = app.backends := by
    unfold togglePopup
    dsimp only
    split
    · split <;> exact ⟨rfl, rfl⟩
    · split <;> exact ⟨rfl, rfl⟩
  obtain ⟨sender, backends⟩ := kept
  unfold openBackends
  cases toggled : app.togglePopup .backendSwitch with
  | mk popup next =>
    rw [toggled] at sender backends
    cases popup with
    | false => exact .nothing sender
    | true =>
      have names : UiCommand.refreshBackends.Names next.backends := trivial
      exact (send_sends next names).of_same sender backends

theorem classifyKey_sends (app : DialogApp) (key : KeyInput) : Sends app (app.classifyKey key).2 := by
  unfold classifyKey
  split
  · exact .nothing rfl
  · exact .nothing rfl
  · split
    · exact handlePopupKey_sends _
    · split
      · exact openBackends_sends
      · exact .nothing rfl
      · exact .nothing rfl
      · exact sendRestart_sends app trivial
      · exact .nothing rfl

end DialogApp

/-- No key changes the list. -/
theorem DialogApp.classifyKey_backends (app : DialogApp) (key : KeyInput) : (app.classifyKey key).2.backends = app.backends := by
  have view := app.classifyKey_view key
  have same : (app.classifyKey key).2.view.backends = app.view.backends := by
    generalize (app.classifyKey key).2.view = after at view
    cases view <;> rfl
  exact same

end Anycode.Ui
