import Anycode.Data.Calls
import Anycode.Data.Notify

/-!
# Waiting for a shutdown

The handle of `shutdown.rs` subscribes to the notification before it looks at the flag, the
proxy's `ShutdownManager` looks first. Each call goes in steps, between which other threads run.
-/

namespace Anycode.Proxy
open Data

/-- The flag and the notification. `signalling` counts the signals that have raised the flag and
not yet notified. -/
structure Shutdown where
  shutdown : Bool := false
  notify : Notify := {}
  signalling : Nat := 0
  deriving DecidableEq

/-- A signal, in two steps. -/
inductive Signal where
  | raise
  | notifyWaiters
  deriving DecidableEq

namespace Shutdown

def notifyWaiters (s : Shutdown) : Shutdown :=
  if s.signalling = 0 then s else { s with notify := s.notify.notifyWaiters, signalling := s.signalling - 1 }

/-- Whoever notifies has raised the flag before. -/
structure Flagged (s : Shutdown) : Prop where
  signalling : 0 < s.signalling → s.shutdown = true
  notified : 0 < s.notify.calls → s.shutdown = true

theorem flagged_notifyWaiters {s : Shutdown} (flagged : s.Flagged) : s.notifyWaiters.Flagged := by
  rw [notifyWaiters]
  split
  · exact flagged
  · rename_i some
    have flag := flagged.signalling (Nat.pos_of_ne_zero some)
    exact ⟨fun _ => flag, fun _ => flag⟩

theorem calls_notifyWaiters (s : Shutdown) : s.notify.calls ≤ s.notifyWaiters.notify.calls := by
  rw [notifyWaiters]
  split
  · exact Nat.le_refl _
  · simp

theorem shutdown_notifyWaiters (s : Shutdown) : s.notifyWaiters.shutdown = s.shutdown := by
  rw [notifyWaiters]
  split <;> rfl

/-- Before the first notification the flag may be up or down, after it the flag is up. -/
theorem never_notified {s : Shutdown} (flagged : s.Flagged) (down : ¬ s.shutdown = true) : s.notify.calls = 0 :=
  Nat.eq_zero_of_not_pos fun some => down (flagged.notified some)

theorem ready_since_zero {s : Shutdown} {notified : Notified} (since : notified.since = 0) (signalled : 0 < s.notify.calls) :
    s.notify.isReady notified = true := Notify.isReady_iff.mpr (since ▸ signalled)

end Shutdown

/-! ### The handle -/

namespace ShutdownHandle

/-- How far a call of `wait` has come. -/
inductive Waiter where
  | started
  | enabled (notified : Notified)
  | awaiting (notified : Notified)
  | returned
  deriving DecidableEq

def signal (s : Shutdown) : Shutdown :=
  if s.shutdown then s else { s with shutdown := true, signalling := s.signalling + 1 }

def wait (s : Shutdown) : Waiter → Waiter
  | .started => .enabled s.notify.notified
  | .enabled notified => if s.shutdown then .returned else .awaiting notified
  | .awaiting notified => if s.notify.isReady notified then .returned else .awaiting notified
  | .returned => .returned

abbrev Act := Move Signal Unit Unit

def handles : CallSystem Shutdown Waiter Signal Unit Unit where
  event
    | s, .raise => signal s
    | s, .notifyWaiters => s.notifyWaiters
  begins _ := .started
  poll s _ waiter := (s, wait s waiter)

/-- The polls that a call needs before it returns, once a notification is out. -/
def Waiter.rank : Waiter → Nat
  | .started => 3
  | .enabled _ => 2
  | .awaiting _ => 1
  | .returned => 0

/-- A call awaits a notification only if it has found the flag down, and then there has been none
before it subscribed. -/
def Sound (s : Shutdown) : Waiter → Prop
  | .started => True
  | .enabled notified => notified.since ≤ s.notify.calls
  | .awaiting notified => notified.since = 0
  | .returned => s.shutdown = true

abbrev Invariant (s : Calls Shutdown Waiter) : Prop := CallSystem.Held Shutdown.Flagged Sound s

theorem sound_mono {s t : Shutdown} (calls : s.notify.calls ≤ t.notify.calls) (flag : s.shutdown = true → t.shutdown = true)
    {waiter : Waiter} (sound : Sound s waiter) : Sound t waiter := by
  cases waiter with
  | started => trivial
  | enabled notified => exact Nat.le_trans sound calls
  | awaiting notified => exact sound
  | returned => exact flag sound

theorem held_event (s : Calls Shutdown Waiter) (signal : Signal) (inv : Invariant s) :
    Invariant { s with shared := handles.event s.shared signal } := by
  obtain ⟨flagged, sound⟩ := inv
  cases signal with
  | raise =>
    simp only [handles, ShutdownHandle.signal]
    split
    · exact ⟨flagged, sound⟩
    · refine ⟨⟨fun _ => rfl, fun _ => rfl⟩, fun waiter member => ?_⟩
      apply sound_mono _ _ (sound waiter member)
      · exact Nat.le_refl _
      · exact fun _ => rfl
  | notifyWaiters =>
    refine ⟨Shutdown.flagged_notifyWaiters flagged, fun waiter member => ?_⟩
    apply sound_mono _ _ (sound waiter member)
    · exact Shutdown.calls_notifyWaiters _
    · exact fun up => (Shutdown.shutdown_notifyWaiters _).trans up

theorem wait_sound {s : Shutdown} (flagged : s.Flagged) {waiter : Waiter} (sound : Sound s waiter) : Sound s (wait s waiter) := by
  cases waiter with
  | started => exact Nat.le_refl _
  | enabled notified =>
    rw [wait]
    split
    · assumption
    · rename_i down
      have since : notified.since ≤ s.notify.calls := sound
      exact Nat.eq_zero_of_le_zero (Shutdown.never_notified flagged down ▸ since)
  | awaiting notified =>
    rw [wait]
    split
    · rename_i ready
      exact flagged.notified (Nat.lt_of_le_of_lt (Nat.zero_le _) (Notify.isReady_iff.mp ready))
    · exact sound
  | returned => exact sound

theorem step_invariant (s : Calls Shutdown Waiter) (act : Act) (inv : Invariant s) : Invariant (handles.step s act) := by
  refine CallSystem.held_step (G := fun _ _ => True) (fun s signal held _ => held_event s signal held) ?begun ?polled ?stable
    s act inv trivial
  case begun => exact fun _ _ _ => trivial
  case polled => exact fun _ _ _ flagged sound => ⟨flagged, wait_sound flagged sound⟩
  case stable => exact fun _ _ _ _ _ _ sound => sound

theorem run_invariant (acts : List Act) : Invariant (run handles.step ⟨{}, []⟩ acts) :=
  Data.run_invariant (G := fun _ _ => True) (fun s act inv _ => step_invariant s act inv) ⟨⟨nofun, nofun⟩, nofun⟩
    (along_iff.mpr fun _ _ _ _ => trivial)

theorem step_calls (s : Calls Shutdown Waiter) (act : Act) : s.shared.notify.calls ≤ (handles.step s act).shared.notify.calls := by
  cases act with
  | event signal =>
    cases signal with
    | raise =>
      simp only [CallSystem.step, handles, signal]
      split <;> exact Nat.le_refl _
    | notifyWaiters => exact Shutdown.calls_notifyWaiters _
  | start => exact Nat.le_refl _
  | poll i =>
    rw [CallSystem.step]
    split <;> exact Nat.le_refl _

/-- Once a notification has gone out, a poll brings a call one step nearer to its end. -/
theorem wait_rank {s : Shutdown} (flagged : s.Flagged) (signalled : 0 < s.notify.calls) {waiter : Waiter}
    (sound : Sound s waiter) : (wait s waiter).rank ≤ waiter.rank - 1 := by
  cases waiter with
  | started => exact Nat.le_refl _
  | enabled notified =>
    rw [wait, if_pos (flagged.notified signalled)]
    exact Nat.zero_le _
  | awaiting notified =>
    rw [wait, if_pos (Shutdown.ready_since_zero sound signalled)]
    exact Nat.zero_le _
  | returned => exact Nat.le_refl _

theorem rank_eq_zero {waiter : Waiter} (zero : waiter.rank = 0) : waiter = .returned := by
  cases waiter with
  | returned => rfl
  | started | enabled | awaiting => simp [Waiter.rank] at zero

theorem rank_le (waiter : Waiter) : waiter.rank ≤ 3 := by
  cases waiter <;> simp [Waiter.rank]

theorem wait_returns {s : Calls Shutdown Waiter} (inv : Invariant s) (signalled : 0 < s.shared.notify.calls) {i : Nat}
    {waiter : Waiter} (here : s.calls[i]? = some waiter) {acts : List Act} (polled : 3 ≤ acts.countP (Move.polls i)) :
    (run handles.step s acts).calls[i]? = some .returned := by
  obtain ⟨last, there, ended⟩ := CallSystem.call_ends (J := fun s => Invariant s ∧ 0 < s.shared.notify.calls) Waiter.rank
    (fun s act ⟨inv, signalled⟩ => ⟨step_invariant s act inv, Nat.lt_of_lt_of_le signalled (step_calls s act)⟩)
    (fun s _ waiter ⟨inv, signalled⟩ member => wait_rank inv.shared signalled (inv.calls waiter member))
    ⟨inv, signalled⟩ here (Nat.le_trans (rank_le waiter) polled)
  rw [there, rank_eq_zero ended]

/-- No wake-up is lost: in every run, `wait` returns only once a shutdown has been signalled, and
after a notification has gone out it returns with its third poll, whatever else happens between. -/
theorem no_lost_wakeup (acts : List Act) :
    (.returned ∈ (run handles.step ⟨{}, []⟩ acts).calls → (run handles.step ⟨{}, []⟩ acts).shared.shutdown = true) ∧
      (0 < (run handles.step ⟨{}, []⟩ acts).shared.notify.calls → ∀ i < (run handles.step ⟨{}, []⟩ acts).calls.length,
        ∀ more : List Act, 3 ≤ more.countP (Move.polls i) →
          (run handles.step (run handles.step ⟨{}, []⟩ acts) more).calls[i]? = some .returned) := by
  have inv := run_invariant acts
  exact ⟨fun member => inv.calls .returned member,
    fun signalled i inside more polled => wait_returns inv signalled (List.getElem?_eq_getElem inside) polled⟩

end ShutdownHandle

/-! ### The proxy's manager -/

namespace ShutdownManager

/-- How far a call of `wait_for_shutdown` has come: `checked` has found the flag down and not yet
subscribed, `woken` has left the `select` and not yet raised the flag. -/
inductive Waiter where
  | started
  | checked
  | selecting (notified : Notified)
  | woken
  | returned (ok : Bool)
  deriving DecidableEq

/-- What the operating system answers to a poll: whether SIGTERM can be listened to, and whether
an interrupt has come. -/
structure Os where
  registered : Bool
  interrupted : Bool
  deriving DecidableEq

def signalShutdown (s : Shutdown) : Shutdown := { s with shutdown := true, signalling := s.signalling + 1 }

def waitForShutdown (s : Shutdown) (os : Os) : Waiter → Shutdown × Waiter
  | .started => (s, if s.shutdown then .returned true else .checked)
  | .checked => (s, if os.registered then .selecting s.notify.notified else .returned false)
  | .selecting notified => (s, if os.interrupted || s.notify.isReady notified then .woken else .selecting notified)
  | .woken => ({ s with shutdown := true }, .returned true)
  | .returned ok => (s, .returned ok)

abbrev Act := Move Signal Unit Os

def manager : CallSystem Shutdown Waiter Signal Unit Os where
  event
    | s, .raise => signalShutdown s
    | s, .notifyWaiters => s.notifyWaiters
  begins _ := .started
  poll := waitForShutdown

def Waiter.rank : Waiter → Nat
  | .started => 4
  | .checked => 3
  | .selecting _ => 2
  | .woken => 1
  | .returned _ => 0

/-- No notification has missed the call: if it awaits one, it subscribed before the first. -/
def Sound (s : Shutdown) : Waiter → Prop
  | .started => True
  | .checked => s.notify.calls = 0
  | .selecting notified => notified.since = 0
  | .woken => True
  | .returned ok => ok = true → s.shutdown = true

abbrev Invariant (s : Calls Shutdown Waiter) : Prop := CallSystem.Held Shutdown.Flagged Sound s

/-- The step notifies nobody who has looked at the flag and not yet subscribed. -/
def Timely (s : Calls Shutdown Waiter) (act : Act) : Prop :=
  act = .event .notifyWaiters → 0 < s.shared.signalling → .checked ∉ s.calls

theorem sound_mono {s t : Shutdown} (calls : s.notify.calls = t.notify.calls) (flag : s.shutdown = true → t.shutdown = true)
    {waiter : Waiter} (sound : Sound s waiter) : Sound t waiter := by
  cases waiter with
  | started | woken => trivial
  | checked => exact calls.symm.trans sound
  | selecting => exact sound
  | returned => exact fun good => flag (sound good)

theorem held_event (s : Calls Shutdown Waiter) (signal : Signal) (inv : Invariant s) (timely : Timely s (.event signal)) :
    Invariant { s with shared := manager.event s.shared signal } := by
  obtain ⟨flagged, sound⟩ := inv
  cases signal with
  | raise =>
    refine ⟨⟨fun _ => rfl, fun _ => rfl⟩, fun waiter member => ?_⟩
    apply sound_mono _ _ (sound waiter member)
    · rfl
    · exact fun _ => rfl
  | notifyWaiters =>
    refine ⟨Shutdown.flagged_notifyWaiters flagged, fun waiter member => ?_⟩
    by_cases none : s.shared.signalling = 0
    · have same : manager.event s.shared .notifyWaiters = s.shared := if_pos none
      rw [same]
      exact sound waiter member
    · have before := sound waiter member
      cases waiter with
      | started | woken => trivial
      | checked => exact absurd member (timely rfl (Nat.pos_of_ne_zero none))
      | selecting => exact before
      | returned => exact fun good => (Shutdown.shutdown_notifyWaiters _).trans (before good)

theorem wait_flagged {s : Shutdown} (os : Os) (waiter : Waiter) (flagged : s.Flagged) : (waitForShutdown s os waiter).1.Flagged := by
  cases waiter with
  | started | checked | selecting | returned => exact flagged
  | woken => exact ⟨fun _ => rfl, fun _ => rfl⟩

theorem wait_sound {s : Shutdown} (flagged : s.Flagged) (os : Os) {waiter : Waiter} (sound : Sound s waiter) :
    Sound (waitForShutdown s os waiter).1 (waitForShutdown s os waiter).2 := by
  cases waiter with
  | started =>
    rw [waitForShutdown]
    split
    · rename_i up
      exact fun _ => up
    · rename_i down
      exact Shutdown.never_notified flagged down
  | checked =>
    rw [waitForShutdown]
    split
    · exact sound
    · exact nofun
  | selecting notified =>
    rw [waitForShutdown]
    split
    · trivial
    · exact sound
  | woken => exact fun _ => rfl
  | returned ok => exact sound

theorem wait_keeps {s : Shutdown} (os : Os) (waiter : Waiter) :
    s.notify.calls = (waitForShutdown s os waiter).1.notify.calls ∧
      (s.shutdown = true → (waitForShutdown s os waiter).1.shutdown = true) := by
  cases waiter with
  | started | checked | selecting | returned => exact ⟨rfl, id⟩
  | woken => exact ⟨rfl, fun _ => rfl⟩

theorem step_invariant (s : Calls Shutdown Waiter) (act : Act) (inv : Invariant s) (timely : Timely s act) :
    Invariant (manager.step s act) := by
  refine CallSystem.held_step (G := Timely) held_event ?begun ?polled ?stable s act inv timely
  case begun => exact fun _ _ _ => trivial
  case polled => exact fun _ os waiter flagged sound => ⟨wait_flagged os waiter flagged, wait_sound flagged os sound⟩
  case stable =>
    intro s os waiter other _ _ sound
    obtain ⟨calls, flag⟩ := wait_keeps (s := s) os waiter
    exact sound_mono calls flag sound

theorem step_calls (s : Calls Shutdown Waiter) (act : Act) : s.shared.notify.calls ≤ (manager.step s act).shared.notify.calls := by
  cases act with
  | event signal =>
    cases signal with
    | raise => exact Nat.le_refl _
    | notifyWaiters => exact Shutdown.calls_notifyWaiters _
  | start => exact Nat.le_refl _
  | poll i os =>
    rw [CallSystem.step]
    split
    · exact Nat.le_refl _
    · exact Nat.le_of_eq (wait_keeps os _).1

theorem wait_rank {s : Shutdown} (flagged : s.Flagged) (signalled : 0 < s.notify.calls) (os : Os) {waiter : Waiter}
    (sound : Sound s waiter) : (waitForShutdown s os waiter).2.rank ≤ waiter.rank - 1 := by
  cases waiter with
  | started =>
    rw [waitForShutdown, if_pos (flagged.notified signalled)]
    exact Nat.zero_le _
  | checked =>
    have never : s.notify.calls = 0 := sound
    omega
  | selecting notified =>
    rw [waitForShutdown, Shutdown.ready_since_zero sound signalled, Bool.or_true, if_pos rfl]
    exact Nat.le_refl _
  | woken => exact Nat.le_refl _
  | returned => exact Nat.le_refl _

theorem rank_eq_zero {waiter : Waiter} (zero : waiter.rank = 0) : ∃ ok, waiter = .returned ok := by
  cases waiter with
  | returned ok => exact ⟨ok, rfl⟩
  | started | checked | selecting | woken => simp [Waiter.rank] at zero

theorem rank_le (waiter : Waiter) : waiter.rank ≤ 4 := by
  cases waiter <;> simp [Waiter.rank]

/-- Once a notification has gone out, nobody is left between the flag and the subscription. -/
theorem timely_of_signalled {s : Calls Shutdown Waiter} (inv : Invariant s) (signalled : 0 < s.shared.notify.calls) (act : Act) :
    Timely s act := fun _ _ member => Nat.ne_of_gt signalled (inv.calls .checked member)

/-- Once a shutdown has been signalled and notified, every call returns with its fourth poll. -/
def Prompt (s : Calls Shutdown Waiter) : Prop :=
  0 < s.shared.notify.calls → ∀ i < s.calls.length, ∀ more : List Act, 4 ≤ more.countP (Move.polls i) →
    ∃ ok, (run manager.step s more).calls[i]? = some (.returned ok)

theorem prompt_of_invariant {s : Calls Shutdown Waiter} (inv : Invariant s) : Prompt s := by
  intro signalled i inside more polled
  obtain ⟨last, there, ended⟩ := CallSystem.call_ends (J := fun s => Invariant s ∧ 0 < s.shared.notify.calls) Waiter.rank
    (fun s act ⟨inv, signalled⟩ => ⟨step_invariant s act inv (timely_of_signalled inv signalled act),
      Nat.lt_of_lt_of_le signalled (step_calls s act)⟩)
    (fun s os waiter ⟨inv, signalled⟩ member => wait_rank inv.shared signalled os (inv.calls waiter member))
    ⟨inv, signalled⟩ (List.getElem?_eq_getElem inside) (Nat.le_trans (rank_le _) polled)
  obtain ⟨ok, rfl⟩ := rank_eq_zero ended
  exact ⟨ok, there⟩

/-- A call that subscribes after the last notification stays in its `select`. -/
theorem selecting_stays {s : Calls Shutdown Waiter} {i : Nat} {notified : Notified} (late : s.shared.notify.calls ≤ notified.since)
    (here : s.calls[i]? = some (.selecting notified)) (polls : Nat) :
    (run manager.step s (.replicate polls (.poll i ⟨true, false⟩))).calls[i]? = some (.selecting notified) := by
  induction polls generalizing s with
  | zero => exact here
  | succ polls ih =>
    have asleep : s.shared.notify.isReady notified = false :=
      Bool.eq_false_iff.mpr fun ready => absurd (Notify.isReady_iff.mp ready) (Nat.not_lt.mpr late)
    have stays : waitForShutdown s.shared ⟨true, false⟩ (.selecting notified) = (s.shared, .selecting notified) := by
      rw [waitForShutdown, asleep, Bool.or_false, if_neg Bool.false_ne_true]
    have moved := CallSystem.step_own (p := manager) ⟨true, false⟩ here
    rw [List.replicate_succ, run_cons]
    refine ih ?_ (moved.trans (congrArg (some ·.2) stays))
    rw [CallSystem.step_poll _ here]
    exact late

/-- A notification that goes out while a call is between the flag and the subscription leaves that
call waiting. -/
theorem not_prompt {s : Calls Shutdown Waiter} (some : 0 < s.shared.signalling) (member : .checked ∈ s.calls) :
    ¬ Prompt (manager.step s (.event .notifyWaiters)) := by
  obtain ⟨i, before⟩ := List.mem_iff_getElem?.mp member
  have here : (manager.step s (.event .notifyWaiters)).calls[i]? = Option.some .checked := CallSystem.step_other rfl before
  have notified : 0 < (manager.step s (.event .notifyWaiters)).shared.notify.calls := by
    show 0 < s.shared.notifyWaiters.notify.calls
    rw [Shutdown.notifyWaiters, if_neg (Nat.ne_of_gt some)]
    exact Nat.succ_pos _
  intro prompt
  obtain ⟨inside, -⟩ := List.getElem?_eq_some_iff.mp here
  obtain ⟨ok, returned⟩ := prompt notified i inside (.replicate 4 (.poll i ⟨true, false⟩)) (by simp [Move.polls])
  have subscribed := CallSystem.step_own (p := manager) ⟨true, false⟩ here
  have late := CallSystem.step_poll (p := manager) ⟨true, false⟩ here
  have stuck := selecting_stays (late ▸ Nat.le_refl _) subscribed 3
  cases stuck.symm.trans returned

/-- The proxy's manager loses a shutdown exactly when the notification goes out between some
call's look at the flag and its subscription. -/
theorem prompt_iff_timely (acts : List Act) :
    Throughout manager.step Prompt ⟨{}, []⟩ acts ↔ Along manager.step Timely ⟨{}, []⟩ acts := by
  refine throughout_iff_along (G := fun _ _ => True) (fun s => prompt_of_invariant)
    (fun s act inv _ timely => step_invariant s act inv timely) ?_ ⟨⟨nofun, nofun⟩, nofun⟩ (along_iff.mpr fun _ _ _ _ => trivial)
  intro s act _ _ prompt same some member
  exact not_prompt some member (same ▸ prompt)

end ShutdownManager

end Anycode.Proxy
