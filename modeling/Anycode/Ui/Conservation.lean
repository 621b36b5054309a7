import Anycode.Data.Run
import Anycode.Ui.App

/-!
# Input before the PTY is ready

What has been written to the PTYs, and what is still buffered, after any sequence of input,
attached handles and output.
-/

namespace Anycode.Ui
open Data

inductive StartupCall where
  | sendInput (bytes : List UInt8)
  | attachPty (pty : PtyHandle)
  | onPtyOutput (cursor : Cursor)

def StartupCall.payload : StartupCall → List UInt8
  | .sendInput bytes => bytes
  | .attachPty _ | .onPtyOutput _ => []

/-- The app, with what its handles have been written so far, whichever was attached. -/
structure Startup where
  app : App := {}
  delivered : List UInt8 := []

/-- What a call that attaches no handle has written. -/
def writes (before after : App) : List UInt8 :=
  match before.ptyHandle, after.ptyHandle with
  | some old, some new => new.written.drop old.written.length
  | _, _ => []

def startupStep (s : Startup) : StartupCall → Startup
  | .sendInput bytes => ⟨s.app.sendInput bytes, s.delivered ++ writes s.app (s.app.sendInput bytes)⟩
  | .attachPty pty => ⟨s.app.attachPty pty, s.delivered⟩
  | .onPtyOutput cursor =>
    ⟨(s.app.onPtyOutput cursor).2, s.delivered ++ writes s.app (s.app.onPtyOutput cursor).2⟩

def buffered : PtyLifecycleState → List UInt8
  | .pending buffer | .attached buffer => buffer.flatten
  | .ready | .restarting => []

/-- What a handle lets through. -/
def passed (bytes : List UInt8) : List UInt8 := bytes.filter fun byte => !isWrapperHotkey byte

@[simp] theorem passed_append (first second : List UInt8) : passed (first ++ second) = passed first ++ passed second :=
  List.filter_append _ _

@[simp] theorem written_sendInput (pty : PtyHandle) (bytes : List UInt8) :
    (pty.sendInput bytes).written = pty.written ++ passed bytes := rfl

theorem written_foldl_sendInput (pty : PtyHandle) (buffer : List (List UInt8)) :
    (buffer.foldl PtyHandle.sendInput pty).written = pty.written ++ passed buffer.flatten := by
  induction buffer generalizing pty with
  | nil => simp [passed]
  | cons bytes buffer ih => rw [List.foldl_cons, ih, written_sendInput, List.flatten_cons, passed_append, List.append_assoc]

theorem writes_of_written {before after : App} {old new : PtyHandle} {bytes : List UInt8}
    (was : before.ptyHandle = some old) (is : after.ptyHandle = some new) (grown : new.written = old.written ++ bytes) :
    writes before after = bytes := by
  simp [writes, was, is, grown]

theorem writes_of_same {before after : App} (same : after.ptyHandle = before.ptyHandle) : writes before after = [] := by
  cases was : before.ptyHandle with
  | none => simp [writes, was]
  | some pty => exact writes_of_written was (same.trans was) (List.append_nil _).symm

/-- The payloads are what the handles were given and what is buffered, in this order. -/
structure Conserves (s : Startup) (payloads : List UInt8) : Prop where
  split : ∃ sent, s.delivered = passed sent ∧ sent ++ buffered s.app.lifecycle = payloads
  running : s.app.lifecycle ≠ .restarting
  attached : s.app.ptyHandle = none → ∃ buffer, s.app.lifecycle = .pending buffer

section
variable {s : Startup} {payloads : List UInt8}

/-- A call moves bytes from the buffer, or from its own payload, to the handle. -/
theorem Conserves.move (conserves : Conserves s payloads) (next : App) (moved more : List UInt8)
    (wrote : writes s.app next = passed moved)
    (kept : moved ++ buffered next.lifecycle = buffered s.app.lifecycle ++ more)
    (running : next.lifecycle ≠ .restarting)
    (attached : next.ptyHandle = none → ∃ buffer, next.lifecycle = .pending buffer) :
    Conserves ⟨next, s.delivered ++ writes s.app next⟩ (payloads ++ more) := by
  obtain ⟨sent, delivered, split⟩ := conserves.split
  refine ⟨⟨sent ++ moved, ?_, ?_⟩, running, attached⟩
  · rw [wrote, delivered, passed_append]
  · rw [List.append_assoc, kept, ← List.append_assoc, split]

theorem Conserves.handle_of_not_pending (conserves : Conserves s payloads)
    (other : ∀ buffer, s.app.lifecycle ≠ .pending buffer) : ∃ pty, s.app.ptyHandle = some pty := by
  cases handle : s.app.ptyHandle with
  | none =>
    obtain ⟨buffer, pending⟩ := conserves.attached handle
    exact absurd pending (other buffer)
  | some pty => exact ⟨pty, rfl⟩

/-- Before the PTY is ready, a payload is appended to what is buffered. -/
theorem Conserves.buffers (conserves : Conserves s payloads) {bytes : List UInt8} {lifecycle : PtyLifecycleState}
    (sends : s.app.sendInput bytes = { s.app with lifecycle := lifecycle })
    (more : buffered lifecycle = buffered s.app.lifecycle ++ bytes) (running : lifecycle ≠ .restarting)
    (attached : s.app.ptyHandle = none → ∃ buffer, lifecycle = .pending buffer) :
    Conserves (startupStep s (.sendInput bytes)) (payloads ++ bytes) := by
  refine conserves.move (s.app.sendInput bytes) [] bytes ?_ ?_ ?_ ?_
  · exact writes_of_same (by rw [sends])
  · rw [sends, List.nil_append]
    exact more
  · rwa [sends]
  · rwa [sends]

theorem Conserves.sendInput (conserves : Conserves s payloads) (bytes : List UInt8) :
    Conserves (startupStep s (.sendInput bytes)) (payloads ++ bytes) := by
  cases lifecycle : s.app.lifecycle with
  | restarting => exact absurd lifecycle conserves.running
  | ready =>
    obtain ⟨pty, handle⟩ := conserves.handle_of_not_pending (by rw [lifecycle]; exact nofun)
    have sends : s.app.sendInput bytes = { s.app with ptyHandle := some (pty.sendInput bytes) } := by
      simp [App.sendInput, lifecycle, handle, PtyLifecycleState.isReady]
    refine conserves.move (s.app.sendInput bytes) bytes bytes ?_ ?_ ?_ ?_
    · rw [sends]
      exact writes_of_written handle rfl (written_sendInput pty bytes)
    · simp [sends, lifecycle, buffered]
    · simp [sends, lifecycle]
    · rw [sends]
      exact nofun
  | pending buffer =>
    have sends : s.app.sendInput bytes = { s.app with lifecycle := .pending (buffer ++ [bytes]) } := by
      simp [App.sendInput, App.dispatchPty, handleIntent, lifecycle, PtyLifecycleState.isReady]
    exact conserves.buffers sends (by simp [lifecycle, buffered]) nofun fun _ => ⟨_, rfl⟩
  | attached buffer =>
    obtain ⟨pty, handle⟩ := conserves.handle_of_not_pending (by rw [lifecycle]; exact nofun)
    have sends : s.app.sendInput bytes = { s.app with lifecycle := .attached (buffer ++ [bytes]) } := by
      simp [App.sendInput, App.dispatchPty, handleIntent, lifecycle, PtyLifecycleState.isReady]
    refine conserves.buffers sends (by simp [lifecycle, buffered]) nofun ?_
    rw [handle]
    exact nofun

theorem Conserves.attachPty (conserves : Conserves s payloads) (pty : PtyHandle) :
    Conserves (startupStep s (.attachPty pty)) payloads := by
  obtain ⟨split, running, _⟩ := conserves
  have kept : buffered (s.app.attachPty pty).lifecycle = buffered s.app.lifecycle ∧
      (s.app.attachPty pty).lifecycle ≠ .restarting := by
    cases lifecycle : s.app.lifecycle with
    | restarting => exact absurd lifecycle running
    | _ => simp [App.attachPty, App.dispatchPty, handleIntent, lifecycle, buffered]
  refine ⟨?_, kept.2, nofun⟩
  rw [startupStep, kept.1]
  exact split

theorem onPtyOutput_flushes {app : App} {pty : PtyHandle} {buffer : List (List UInt8)}
    (lifecycle : app.lifecycle = .attached buffer) (handle : app.ptyHandle = some pty) (cursor : Cursor) :
    (app.onPtyOutput cursor).2 = app ∨
      (app.onPtyOutput cursor).2 =
        { app with lifecycle := .ready, ptyHandle := some (buffer.foldl PtyHandle.sendInput pty) } := by
  by_cases waits : (cursor.visible || cursor.row == 0) = true
  · left
    simp [App.onPtyOutput, lifecycle, handle, PtyLifecycleState.isReady, waits]
  · right
    cases buffer with
    | nil => simp [App.onPtyOutput, lifecycle, handle, PtyLifecycleState.isReady, waits, handleIntent]
    | cons bytes buffer =>
      simp [App.onPtyOutput, lifecycle, handle, PtyLifecycleState.isReady, waits, handleIntent, App.flush]

theorem onPtyOutput_other {app : App} (other : ∀ buffer, app.lifecycle ≠ .attached buffer) (cursor : Cursor) :
    (app.onPtyOutput cursor).2 = app := by
  cases lifecycle : app.lifecycle with
  | attached buffer => exact absurd lifecycle (other buffer)
  | ready => simp [App.onPtyOutput, lifecycle, PtyLifecycleState.isReady]
  | _ =>
    unfold App.onPtyOutput
    rw [lifecycle]
    simp only [PtyLifecycleState.isReady, handleIntent, Bool.false_eq_true, if_false, List.foldl_nil]
    split
    · rfl
    · rw [← lifecycle]

theorem Conserves.onPtyOutput (conserves : Conserves s payloads) (cursor : Cursor) :
    Conserves (startupStep s (.onPtyOutput cursor)) payloads := by
  have unchanged (same : (s.app.onPtyOutput cursor).2 = s.app) :
      Conserves (startupStep s (.onPtyOutput cursor)) payloads := by
    rw [startupStep, same, writes_of_same rfl, List.append_nil]
    exact conserves
  by_cases attached : ∃ buffer, s.app.lifecycle = .attached buffer
  · obtain ⟨buffer, lifecycle⟩ := attached
    obtain ⟨pty, handle⟩ := conserves.handle_of_not_pending (by rw [lifecycle]; exact nofun)
    obtain same | flushed := onPtyOutput_flushes lifecycle handle cursor
    · exact unchanged same
    · have moved := conserves.move (s.app.onPtyOutput cursor).2 buffer.flatten [] (by
        rw [flushed]
        exact writes_of_written handle rfl (written_foldl_sendInput pty buffer)) (by
        simp [flushed, lifecycle, buffered]) (by simp [flushed]) (by simp [flushed])
      rwa [List.append_nil] at moved
  · exact unchanged (onPtyOutput_other (fun buffer lifecycle => attached ⟨buffer, lifecycle⟩) cursor)

theorem Conserves.step (conserves : Conserves s payloads) (call : StartupCall) :
    Conserves (startupStep s call) (payloads ++ call.payload) := by
  cases call with
  | sendInput bytes => exact conserves.sendInput bytes
  | attachPty pty =>
    rw [StartupCall.payload, List.append_nil]
    exact conserves.attachPty pty
  | onPtyOutput cursor =>
    rw [StartupCall.payload, List.append_nil]
    exact conserves.onPtyOutput cursor

theorem Conserves.run (conserves : Conserves s payloads) (calls : List StartupCall) :
    Conserves (Data.run startupStep s calls) (payloads ++ calls.flatMap StartupCall.payload) := by
  induction calls generalizing s payloads with
  | nil =>
    rw [List.flatMap_nil, List.append_nil]
    exact conserves
  | cons call rest ih =>
    rw [List.flatMap_cons, ← List.append_assoc]
    exact ih (conserves.step call)

end

/-- In every run, the handles were given a part of the payloads in order and let all but the hotkeys
through; the rest is buffered, and nothing is once the PTY is ready. -/
theorem startup_conserves (calls : List StartupCall) :
    (∃ sent, (run startupStep {} calls).delivered = passed sent ∧
        sent ++ buffered (run startupStep {} calls).app.lifecycle = calls.flatMap StartupCall.payload) ∧
      ((run startupStep {} calls).app.lifecycle = .ready → buffered (run startupStep {} calls).app.lifecycle = []) := by
  have fresh : Conserves {} [] := ⟨⟨[], rfl, rfl⟩, nofun, fun _ => ⟨[], rfl⟩⟩
  refine ⟨(fresh.run calls).split, ?_⟩
  intro ready
  rw [ready, buffered]

/-- A hotkey that is sent to a ready PTY is not delivered. -/
theorem hotkey_not_delivered :
    ¬ ∀ calls : List StartupCall,
      (run startupStep {} calls).delivered ++ buffered (run startupStep {} calls).app.lifecycle =
        calls.flatMap StartupCall.payload := by
  intro all
  exact absurd (all [.attachPty { generation := 0 }, .onPtyOutput ⟨false, 1⟩, .sendInput [0x02]]) (by decide)

end Anycode.Ui
