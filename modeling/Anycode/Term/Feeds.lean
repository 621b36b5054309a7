import Anycode.Term.Segmentation

/-!
# Feeding in pieces

What the parser has put out so far does not matter for what it does next, so the calls that feed
some bytes return together what one call returns.
-/

namespace Anycode.Term
open Data InputParser

namespace InputParser

/-- The same parser, with these events before its own. -/
def behind (events : List InputEvent) (p : InputParser) : InputParser := { p with out := events ++ p.out }

section
variable (events : List InputEvent) (p : InputParser)

theorem buf_behind : (p.behind events).buf = p.buf := rfl

theorem push_behind (byte : UInt8) : (p.behind events).push byte = (p.push byte).behind events := rfl

theorem goto_behind (state : State) : (p.behind events).goto state = (p.goto state).behind events := rfl

theorem startUtf8_behind (byte remaining : UInt8) :
    (p.behind events).startUtf8 byte remaining = (p.startUtf8 byte remaining).behind events := rfl

theorem emitKey_behind (raw : List UInt8) (kind : KeyKind) :
    (p.behind events).emitKey raw kind = (p.emitKey raw kind).behind events := by
  simp only [behind, emitKey, emit, List.append_assoc]

theorem finish_behind (event : InputEvent) : (p.behind events).finish event = (p.finish event).behind events := by
  simp only [behind, finish, emit, List.append_assoc]

theorem takeKey_behind (kind : KeyKind) : (p.behind events).takeKey kind = (p.takeKey kind).behind events :=
  finish_behind events p _

variable (byte : UInt8)

theorem ground_behind : (p.behind events).ground byte = (p.ground byte).map (behind events) := by
  simp only [ground, apply_ite (Except.map (behind events)), map_of_ok, map_of_bind, map_of_pure, emitKey_behind,
    startUtf8_behind]
  rfl

theorem escReceived_behind : (p.behind events).escReceived byte = (p.escReceived byte).map (behind events) := by
  simp only [escReceived, apply_ite (Except.map (behind events)), map_of_ok, map_of_bind, map_of_pure, emitKey_behind,
    push_behind, goto_behind, takeKey_behind]
  rfl

theorem csiEntry_behind : (p.behind events).csiEntry byte = (p.csiEntry byte).map (behind events) := by
  simp only [csiEntry, apply_ite (Except.map (behind events)), map_of_ok, push_behind, goto_behind, takeKey_behind]

theorem csiParam_behind : (p.behind events).csiParam byte = (p.csiParam byte).map (behind events) := by
  simp only [csiParam, apply_ite (Except.map (behind events)), map_of_ok, map_of_bind, map_of_pure, push_behind,
    takeKey_behind, buf_behind]
  rfl

theorem mouseX10_behind (count : UInt8) :
    (p.behind events).mouseX10 byte count = (p.mouseX10 byte count).map (behind events) := by
  simp only [mouseX10, apply_ite (Except.map (behind events)), map_of_bind, map_of_pure, push_behind, goto_behind,
    buf_behind, finish_behind]

theorem sgrMouse_behind : (p.behind events).sgrMouse byte = (p.sgrMouse byte).map (behind events) := by
  simp only [sgrMouse, apply_ite (Except.map (behind events)), map_of_ok, map_of_bind, push_behind, takeKey_behind,
    buf_behind, finish_behind]
  cases parseSgrMouse (p.push byte).buf (byte == 'm'.toUInt8) with
  | error e => rfl
  | ok event => cases event <;> rfl

theorem inPaste_behind : (p.behind events).inPaste byte = (p.inPaste byte).map (behind events) := by
  simp only [inPaste, apply_ite (Except.map (behind events)), map_of_bind, map_of_pure, push_behind, buf_behind,
    finish_behind]

theorem utf8Cont_behind (remaining : UInt8) :
    (p.behind events).utf8Cont byte remaining = (p.utf8Cont byte remaining).map (behind events) := by
  simp only [utf8Cont, apply_ite (Except.map (behind events)), map_of_bind, map_of_pure, push_behind, goto_behind,
    takeKey_behind, buf_behind, ground_behind]

theorem step_behind : (p.behind events).step byte = (p.step byte).map (behind events) := by
  obtain ⟨state, buf, out⟩ := p
  cases state with
  | ground => exact ground_behind events _ byte
  | escReceived => exact escReceived_behind events _ byte
  | csiEntry => exact csiEntry_behind events _ byte
  | csiParam => exact csiParam_behind events _ byte
  | ss3Pending => exact congrArg Except.ok (takeKey_behind events (push ⟨.ss3Pending, buf, out⟩ byte) (ss3Key byte))
  | mouseX10 count => exact mouseX10_behind events _ byte count
  | sgrMouse => exact sgrMouse_behind events _ byte
  | pasteBuf => exact inPaste_behind events _ byte
  | utf8 remaining => exact utf8Cont_behind events _ byte remaining

end

theorem foldlM_step_behind (events : List InputEvent) (p : InputParser) (data : List UInt8) :
    data.foldlM step (p.behind events) = (data.foldlM step p).map (behind events) :=
  foldlM_map (fun p byte => step_behind events p byte) p data

/-- Two calls return what one returns. -/
theorem feed_append (p : InputParser) (first second : List UInt8) :
    p.feed (first ++ second) = (do
      let (q, events) ← p.feed first
      let (q, later) ← q.feed second
      pure (q, events ++ later)) := by
  unfold feed
  rw [List.foldlM_append]
  cases first.foldlM step p with
  | error e => rfl
  | ok q =>
    have split : q = behind q.out { q with out := [] } := by simp [behind]
    have rest := foldlM_step_behind q.out { q with out := [] } second
    rw [← split] at rest
    show (second.foldlM step q >>= fun p => pure p.drain) =
      (second.foldlM step { q with out := [] } >>= fun r => pure r.drain) >>= fun fed => pure (fed.1, q.out ++ fed.2)
    rw [rest]
    cases second.foldlM step { q with out := [] } with
    | error e => rfl
    | ok r => rfl

end InputParser

theorem foldlM_feeds {p : InputParser} (drained : p.out = []) (events : List InputEvent) (chunks : List (List UInt8)) :
    (chunks.map Call.feed).foldlM perform (p, events) =
      (p.feed chunks.flatten).map fun fed => (fed.1, events ++ fed.2) := by
  induction chunks generalizing p events with
  | nil =>
    have same : { p with out := [] } = p := by rw [← drained]
    show Except.ok (p, events) = .ok ({ p with out := [] }, events ++ p.out)
    rw [same, drained, List.append_nil]
  | cons chunk rest ih =>
    rw [List.map_cons, List.foldlM_cons, List.flatten_cons, feed_append]
    cases fed : p.feed chunk with
    | error e => simp only [perform, fed]; rfl
    | ok result =>
      obtain ⟨q, first⟩ := result
      have emptied : q.out = [] := by
        obtain ⟨r, _, handed⟩ := bind_ok fed
        cases handed
        rfl
      have performed : perform (p, events) (.feed chunk) = .ok (q, events ++ first) := by
        simp only [perform, fed]
        rfl
      rw [performed]
      show (rest.map Call.feed).foldlM perform (q, events ++ first) = _
      rw [ih emptied]
      show _ = (q.feed rest.flatten >>= fun fed => pure (fed.1, first ++ fed.2)).map _
      cases q.feed rest.flatten with
      | error e => rfl
      | ok result =>
        show Except.ok (result.1, events ++ first ++ result.2) = .ok (result.1, events ++ (first ++ result.2))
        rw [List.append_assoc]

/-- From the start, only the bytes matter, and not the calls that feed them. -/
theorem serve_feeds (chunks : List (List UInt8)) : serve (chunks.map .feed) = feed {} chunks.flatten := by
  rw [serve, foldlM_feeds rfl]
  cases feed {} chunks.flatten <;> rfl

end Anycode.Term
