import Anycode.Data.Segmentation
import Anycode.Term.Parser
import Mathlib.Data.List.Infix

/-!
# Nothing typed is lost

Every byte fed to the parser is in the segment of one event, in order, or still held for the
pending state, and no call panics.
-/

namespace Anycode.Term
open Data InputParser

/-- A sequence that begins a paste: its first parameter is 200. -/
structure PasteStart (start : List UInt8) : Prop where
  sequence : ∃ params, start = esc :: '['.toUInt8 :: (params ++ ['~'.toUInt8]) ∧ ∀ byte ∈ params, isParamByte byte = true
  first : ∃ params, extractCsiParams start = .ok params ∧ params.head? = some 200

/-- The end marker behind the payload is the first one. -/
def FirstEnd (payload : List UInt8) : Prop :=
  ∀ before after, payload ++ endMarker = before ++ endMarker ++ after → after = []

inductive Segment : InputEvent → List UInt8 → Prop
  | key (raw : List UInt8) (kind : KeyKind) (nonempty : raw ≠ []) : Segment (.key ⟨raw, kind⟩) raw
  | x10Mouse (btn col row : UInt8) :
    Segment (.mouse (decodeX10Mouse (btn - 32) (col - 33).toUInt16 (row - 33).toUInt16))
      [esc, '['.toUInt8, 'M'.toUInt8, btn, col, row]
  | sgrMouse (params : List UInt8) (finalByte : UInt8) (event : MouseEvent)
    (numbers : ∀ byte ∈ params, isParamByte byte = true) (ends : finalByte = 'M'.toUInt8 ∨ finalByte = 'm'.toUInt8)
    (parsed : parseSgrMouse (esc :: '['.toUInt8 :: '<'.toUInt8 :: (params ++ [finalByte])) (finalByte == 'm'.toUInt8) =
      .ok (some event)) :
    Segment (.mouse event) (esc :: '['.toUInt8 :: '<'.toUInt8 :: (params ++ [finalByte]))
  | paste (start payload : List UInt8) (starts : PasteStart start) (first : FirstEnd payload) :
    Segment (.paste (fromUtf8Lossy payload)) (start ++ payload ++ endMarker)

/-- The state, its buffer, and the bytes that are held: the buffer, and in a paste the sequence
that began it. -/
inductive Pending : State → List UInt8 → List UInt8 → Prop
  | ground : Pending .ground [] []
  | escReceived : Pending .escReceived [esc] [esc]
  | csiEntry : Pending .csiEntry [esc, '['.toUInt8] [esc, '['.toUInt8]
  | csiParam (params : List UInt8) (numbers : ∀ byte ∈ params, isParamByte byte = true) :
    Pending .csiParam (esc :: '['.toUInt8 :: params) (esc :: '['.toUInt8 :: params)
  | ss3Pending : Pending .ss3Pending [esc, 'O'.toUInt8] [esc, 'O'.toUInt8]
  | mouseX10 (bytes : List UInt8) (short : bytes.length < 3) :
    Pending (.mouseX10 (.ofNat bytes.length)) (esc :: '['.toUInt8 :: 'M'.toUInt8 :: bytes)
      (esc :: '['.toUInt8 :: 'M'.toUInt8 :: bytes)
  | sgrMouse (params : List UInt8) (numbers : ∀ byte ∈ params, isParamByte byte = true) :
    Pending .sgrMouse (esc :: '['.toUInt8 :: '<'.toUInt8 :: params) (esc :: '['.toUInt8 :: '<'.toUInt8 :: params)
  | pasteBuf (start payload : List UInt8) (starts : PasteStart start) (unended : ¬ endMarker <:+: payload) :
    Pending .pasteBuf payload (start ++ payload)
  | utf8 (lead : UInt8) (rest : List UInt8) (remaining : UInt8) (needed : 0 < remaining) :
    Pending (.utf8 remaining) (lead :: rest) (lead :: rest)

def Held (p : InputParser) (held : List UInt8) : Prop := Pending p.state p.buf held

/-! ### Parameters are read -/

theorem pushDigit_ok (acc : UInt16) (byte : UInt8) : ∃ next, pushDigit acc byte = .ok next := by
  unfold pushDigit
  split
  · rename_i digit
    have low : '0'.toUInt8 ≤ byte := (of_decide_eq_true digit).1
    rw [subU8, if_pos low]
    exact ⟨_, rfl⟩
  · exact ⟨acc, rfl⟩

theorem parseParams_ok (paramsStr : List UInt8) : ∃ params, parseParams paramsStr = .ok params :=
  mapM_ok (fun part => foldlM_ok pushDigit_ok 0 part) _

theorem extractCsiParams_ok (buf : List UInt8) : ∃ params, extractCsiParams buf = .ok params := by
  unfold extractCsiParams
  dsimp only
  generalize (if [esc, '['.toUInt8].isPrefixOf buf then 2 else 0) = start
  split
  · exact ⟨[], rfl⟩
  · rename_i order
    rw [slice_isOk (by omega) (by omega)]
    exact parseParams_ok _

theorem parseSgrMouse_ok (params : List UInt8) (finalByte : UInt8) (isRelease : Bool) :
    ∃ event, parseSgrMouse (esc :: '['.toUInt8 :: '<'.toUInt8 :: (params ++ [finalByte])) isRelease = .ok event := by
  have found : (esc :: '['.toUInt8 :: '<'.toUInt8 :: (params ++ [finalByte])).findIdx?
      (fun byte => byte == '<'.toUInt8) = some 2 := rfl
  have stop : subUsize (esc :: '['.toUInt8 :: '<'.toUInt8 :: (params ++ [finalByte])).length 1 =
      .ok (params.length + 3) := by
    simp [subUsize]
  have inside : slice (esc :: '['.toUInt8 :: '<'.toUInt8 :: (params ++ [finalByte])) 3 (params.length + 3) = .ok params :=
    @slice_append _ [esc, '['.toUInt8, '<'.toUInt8] params [finalByte] _ _ rfl (Nat.add_comm _ _)
  obtain ⟨parts, parsed⟩ := parseParams_ok params
  unfold parseSgrMouse
  simp only [found, stop, inside, parsed, bind, Except.bind]
  split <;> exact ⟨_, rfl⟩

theorem controlLetter_ok {byte : UInt8} (control : 0x01 ≤ byte ∧ byte ≤ 0x1a) :
    ∃ letter, controlLetter byte = .ok letter := by
  obtain ⟨low, high⟩ := control
  rw [UInt8.le_iff_toNat_le] at low high
  have sum : addU8 'a'.toUInt8 byte = .ok ('a'.toUInt8 + byte) := by
    have small : 'a'.toUInt8.toNat + byte.toNat < 256 := by
      show 97 + byte.toNat < 256
      have : byte.toNat ≤ 26 := high
      omega
    exact if_pos small
  have code : subU8 ('a'.toUInt8 + byte) 1 = .ok ('a'.toUInt8 + byte - 1) := by
    have large : 1 ≤ 'a'.toUInt8 + byte := by
      rw [UInt8.le_iff_toNat_le, UInt8.toNat_add]
      show 1 ≤ (97 + byte.toNat) % 256
      have : byte.toNat ≤ 26 := high
      omega
    exact if_pos large
  unfold controlLetter
  rw [sum]
  show ∃ letter, (subU8 ('a'.toUInt8 + byte) 1 >>= fun code => pure (asChar code)) = .ok letter
  rw [code]
  exact ⟨_, rfl⟩

/-! ### What the ends of the handlers account for -/

section
variable {p q : InputParser} {held segment : List UInt8} {event : InputEvent}

abbrev Steps (p : InputParser) (input : List UInt8) (result : Except Panic InputParser) : Prop :=
  Lossless Segment Held InputParser.out p input result

theorem steps_collect (holds : Held q held) (silent : q.out = p.out) : Steps p held (.ok q) :=
  ⟨q, [], rfl, by rw [silent, List.append_nil], accounts_held holds⟩

theorem steps_finish (is : Segment event segment) (silent : q.out = p.out) : Steps p segment (.ok (q.finish event)) := by
  refine ⟨q.finish event, [event], rfl, by rw [← silent]; rfl, ?_⟩
  simpa using accounts_output is (show Held (q.finish event) [] from .ground)

theorem steps_takeKey {kind : KeyKind} (is : q.buf = segment) (nonempty : segment ≠ []) (silent : q.out = p.out) :
    Steps p segment (.ok (q.takeKey kind)) := by
  subst is
  exact steps_finish (.key q.buf kind nonempty) silent

theorem steps_emitKey {out : List InputEvent} {byte : UInt8} {kind : KeyKind} :
    Steps ⟨.ground, [], out⟩ [byte] (.ok (emitKey ⟨.ground, [], out⟩ [byte] kind)) :=
  steps_finish (.key [byte] kind (List.cons_ne_nil _ _)) rfl

end

/-! ### Each handler -/

section
variable (out : List InputEvent) (byte : UInt8)

theorem ground_steps : Steps ⟨.ground, [], out⟩ [byte] (ground ⟨.ground, [], out⟩ byte) := by
  unfold ground
  split
  · rename_i escape
    subst escape
    exact steps_collect .escReceived rfl
  split
  · exact steps_emitKey
  split
  · exact steps_emitKey
  split
  · exact steps_emitKey
  split
  · rename_i control
    obtain ⟨letter, read⟩ := controlLetter_ok control
    rw [read]
    exact steps_emitKey
  split
  · exact steps_emitKey
  split
  · exact steps_collect (.utf8 byte [] 1 (by decide)) rfl
  split
  · exact steps_collect (.utf8 byte [] 2 (by decide)) rfl
  split
  · exact steps_collect (.utf8 byte [] 3 (by decide)) rfl
  · exact steps_emitKey

theorem escReceived_steps :
    Steps ⟨.escReceived, [esc], out⟩ [esc, byte] (escReceived ⟨.escReceived, [esc], out⟩ byte) := by
  unfold escReceived
  split
  · rename_i bracket
    subst bracket
    exact steps_collect .csiEntry rfl
  split
  · rename_i letter
    subst letter
    exact steps_collect .ss3Pending rfl
  split
  · rename_i escape
    subst escape
    have emitted : Segment (.key ⟨[esc], .escape⟩) [esc] := .key [esc] .escape (List.cons_ne_nil _ _)
    exact ⟨_, [.key ⟨[esc], .escape⟩], rfl, rfl, accounts_output emitted .escReceived⟩
  split
  · exact steps_takeKey rfl (List.cons_ne_nil _ _) rfl
  split
  · rename_i control
    obtain ⟨letter, read⟩ := controlLetter_ok control
    rw [read]
    exact steps_takeKey rfl (List.cons_ne_nil _ _) rfl
  split
  · exact steps_takeKey rfl (List.cons_ne_nil _ _) rfl
  · exact steps_takeKey rfl (List.cons_ne_nil _ _) rfl

theorem csiEntry_steps :
    Steps ⟨.csiEntry, [esc, '['.toUInt8], out⟩ [esc, '['.toUInt8, byte]
      (csiEntry ⟨.csiEntry, [esc, '['.toUInt8], out⟩ byte) := by
  unfold csiEntry
  split
  · rename_i letter
    subst letter
    exact steps_collect (.mouseX10 [] (by decide)) rfl
  split
  · rename_i bracket
    subst bracket
    exact steps_collect (.sgrMouse [] nofun) rfl
  split
  · exact steps_takeKey rfl (List.cons_ne_nil _ _) rfl
  split
  · rename_i number
    exact steps_collect (.csiParam [byte] (by simpa using number)) rfl
  · exact steps_takeKey rfl (List.cons_ne_nil _ _) rfl

theorem csiParam_steps {params : List UInt8} (numbers : ∀ byte ∈ params, isParamByte byte = true) :
    Steps ⟨.csiParam, esc :: '['.toUInt8 :: params, out⟩ (esc :: '['.toUInt8 :: params ++ [byte])
      (csiParam ⟨.csiParam, esc :: '['.toUInt8 :: params, out⟩ byte) := by
  have pushed : esc :: '['.toUInt8 :: params ++ [byte] ≠ [] := List.cons_ne_nil _ _
  obtain ⟨values, read⟩ := extractCsiParams_ok (esc :: '['.toUInt8 :: params ++ [byte])
  unfold csiParam push
  dsimp only
  rw [read]
  split
  · rename_i number
    exact steps_collect (.csiParam (params ++ [byte]) (List.forall_mem_append.mpr ⟨numbers, by simpa using number⟩)) rfl
  split
  · rename_i tilde
    subst tilde
    by_cases pastes : values.head? = some 200
    · have starts : PasteStart (esc :: '['.toUInt8 :: params ++ ['~'.toUInt8]) :=
        ⟨⟨params, rfl, numbers⟩, ⟨values, read, pastes⟩⟩
      have holds : Held ⟨.pasteBuf, [], out⟩ (esc :: '['.toUInt8 :: params ++ ['~'.toUInt8] ++ []) :=
        .pasteBuf _ [] starts (by decide)
      rw [List.append_nil] at holds
      show Steps _ _ (if values.head? = some 200 then _ else _)
      rw [if_pos pastes]
      exact steps_collect holds rfl
    · show Steps _ _ (if values.head? = some 200 then _ else _)
      rw [if_neg pastes]
      exact steps_takeKey rfl pushed rfl
  split
  · exact steps_takeKey rfl pushed rfl
  · exact steps_takeKey rfl pushed rfl

theorem ss3Pending_steps :
    Steps ⟨.ss3Pending, [esc, 'O'.toUInt8], out⟩ [esc, 'O'.toUInt8, byte]
      (ss3Pending ⟨.ss3Pending, [esc, 'O'.toUInt8], out⟩ byte) :=
  steps_takeKey rfl (List.cons_ne_nil _ _) rfl

theorem mouseX10_steps {bytes : List UInt8} (short : bytes.length < 3) :
    Steps ⟨.mouseX10 (.ofNat bytes.length), esc :: '['.toUInt8 :: 'M'.toUInt8 :: bytes, out⟩
      (esc :: '['.toUInt8 :: 'M'.toUInt8 :: bytes ++ [byte])
      (mouseX10 ⟨.mouseX10 (.ofNat bytes.length), esc :: '['.toUInt8 :: 'M'.toUInt8 :: bytes, out⟩ byte
        (.ofNat bytes.length)) := by
  match bytes, short with
  | [], _ => exact steps_collect (q := ⟨.mouseX10 1, _, out⟩) (.mouseX10 [byte] (by simp)) rfl
  | [btn], _ => exact steps_collect (q := ⟨.mouseX10 2, _, out⟩) (.mouseX10 [btn, byte] (by simp)) rfl
  | [btn, col], _ => exact steps_finish (.x10Mouse btn col byte) rfl

theorem sgrMouse_steps {params : List UInt8} (numbers : ∀ byte ∈ params, isParamByte byte = true) :
    Steps ⟨.sgrMouse, esc :: '['.toUInt8 :: '<'.toUInt8 :: params, out⟩ (esc :: '['.toUInt8 :: '<'.toUInt8 :: params ++ [byte])
      (sgrMouse ⟨.sgrMouse, esc :: '['.toUInt8 :: '<'.toUInt8 :: params, out⟩ byte) := by
  have pushed : esc :: '['.toUInt8 :: '<'.toUInt8 :: params ++ [byte] ≠ [] := List.cons_ne_nil _ _
  unfold sgrMouse push
  dsimp only
  split
  · rename_i ends
    obtain ⟨event, parsed⟩ := parseSgrMouse_ok params byte (byte == 'm'.toUInt8)
    show Steps _ _ (parseSgrMouse (esc :: '['.toUInt8 :: '<'.toUInt8 :: (params ++ [byte])) _ >>= _)
    rw [parsed]
    cases event with
    | none => exact steps_takeKey rfl pushed rfl
    | some event => exact steps_finish (.sgrMouse params byte event numbers ends parsed) rfl
  split
  · rename_i number
    exact steps_collect (.sgrMouse (params ++ [byte]) (List.forall_mem_append.mpr ⟨numbers, by simpa using number⟩)) rfl
  · exact steps_takeKey rfl pushed rfl

/-- In a buffer without a marker, the next byte can complete the first one only. -/
theorem firstEnd_of_unended {payload rest : List UInt8} (unended : ¬ endMarker <:+: rest)
    (ends : rest ++ [byte] = payload ++ endMarker) : FirstEnd payload := by
  intro before after split
  induction after using List.reverseRecOn with
  | nil => rfl
  | append_singleton inner last _ =>
    rw [← ends, ← List.append_assoc] at split
    have same := (List.append_inj' split rfl).1
    exact absurd ⟨before, inner, same.symm⟩ unended

/-- A byte that completes a marker ends the paste. -/
theorem inPaste_ended {payload front : List UInt8} (ends : payload ++ [byte] = front ++ endMarker) :
    inPaste ⟨.pasteBuf, payload, out⟩ byte =
      .ok ((push ⟨.pasteBuf, payload, out⟩ byte).finish (.paste (fromUtf8Lossy front))) := by
  have long : endMarker.length ≤ (payload ++ [byte]).length := by
    rw [ends, List.length_append]
    exact Nat.le_add_left _ _
  have stop : subUsize (payload ++ [byte]).length endMarker.length = .ok front.length := by
    rw [subUsize, if_pos long, ends, List.length_append, Nat.add_sub_cancel]
  have last : slice (payload ++ [byte]) front.length (payload ++ [byte]).length = .ok endMarker := by
    have cut : slice (front ++ (endMarker ++ [])) front.length (front ++ endMarker).length = .ok endMarker :=
      slice_append rfl List.length_append
    rwa [List.append_nil, ← ends] at cut
  have first : slice (payload ++ [byte]) 0 front.length = .ok front := by
    rw [ends]
    exact @slice_append _ [] front endMarker _ _ rfl (Nat.zero_add _).symm
  unfold inPaste
  dsimp only
  rw [show (push ⟨.pasteBuf, payload, out⟩ byte).buf = payload ++ [byte] from rfl, if_pos long, stop]
  simp only [bind, Except.bind, last, first, if_true]
  rfl

theorem inPaste_collected {payload : List UInt8} (open_ : ¬ endMarker <:+ payload ++ [byte]) :
    inPaste ⟨.pasteBuf, payload, out⟩ byte = .ok (push ⟨.pasteBuf, payload, out⟩ byte) := by
  unfold inPaste
  dsimp only
  rw [show (push ⟨.pasteBuf, payload, out⟩ byte).buf = payload ++ [byte] from rfl]
  split
  · rename_i long
    have stop : subUsize (payload ++ [byte]).length endMarker.length =
        .ok ((payload ++ [byte]).length - endMarker.length) := if_pos long
    have last : slice (payload ++ [byte]) ((payload ++ [byte]).length - endMarker.length) (payload ++ [byte]).length =
        .ok ((payload ++ [byte]).drop ((payload ++ [byte]).length - endMarker.length)) := by
      rw [slice_isOk (Nat.sub_le _ _) le_rfl, List.take_length]
    have other : (payload ++ [byte]).drop ((payload ++ [byte]).length - endMarker.length) ≠ endMarker := by
      intro same
      have suffix := List.drop_suffix ((payload ++ [byte]).length - endMarker.length) (payload ++ [byte])
      rw [same] at suffix
      exact open_ suffix
    rw [stop]
    show (slice (payload ++ [byte]) ((payload ++ [byte]).length - endMarker.length) (payload ++ [byte]).length >>= _) = _
    rw [last]
    exact if_neg other
  · rfl

theorem inPaste_steps {start payload : List UInt8} (starts : PasteStart start) (unended : ¬ endMarker <:+: payload) :
    Steps ⟨.pasteBuf, payload, out⟩ (start ++ payload ++ [byte]) (inPaste ⟨.pasteBuf, payload, out⟩ byte) := by
  by_cases ended : endMarker <:+ payload ++ [byte]
  · obtain ⟨front, split⟩ := ended
    rw [inPaste_ended out byte split.symm, List.append_assoc, ← split, ← List.append_assoc]
    exact steps_finish (.paste start front starts (firstEnd_of_unended byte unended split.symm)) rfl
  · rw [inPaste_collected out byte ended, List.append_assoc]
    refine steps_collect (.pasteBuf start (payload ++ [byte]) starts ?_) rfl
    rw [List.infix_concat_iff]
    exact not_or.mpr ⟨ended, unended⟩

theorem utf8Cont_steps {lead : UInt8} {rest : List UInt8} {remaining : UInt8} (needed : 0 < remaining) :
    Steps ⟨.utf8 remaining, lead :: rest, out⟩ (lead :: rest ++ [byte])
      (utf8Cont ⟨.utf8 remaining, lead :: rest, out⟩ byte remaining) := by
  unfold utf8Cont
  split
  · obtain ⟨next, outputs, done, collects, accounts⟩ := ground_steps (out ++ [.key ⟨lead :: rest, .unknown⟩]) byte
    refine ⟨next, [.key ⟨lead :: rest, .unknown⟩] ++ outputs, done, ?_, ?_⟩
    · rw [collects, List.append_assoc]
    · have emitted : Segment (.key ⟨lead :: rest, .unknown⟩) (lead :: rest) := .key _ .unknown (List.cons_ne_nil _ _)
      have split : lead :: rest = [lead :: rest].flatten ++ [] := by simp
      exact Accounts.after (.cons emitted .nil) split accounts
  · have least : 1 ≤ remaining := by
      rw [UInt8.lt_iff_toNat_lt] at needed
      rw [UInt8.le_iff_toNat_le]
      exact needed
    have less : subU8 remaining 1 = .ok (remaining - 1) := if_pos least
    dsimp only
    rw [less]
    show Steps _ _ (if remaining - 1 > 0 then _ else _)
    split
    · rename_i more
      exact steps_collect (.utf8 lead (rest ++ [byte]) _ more) rfl
    · exact steps_takeKey rfl (List.cons_ne_nil _ _) rfl

end

/-! ### Calls -/

theorem step_steps (p : InputParser) (held : List UInt8) (byte : UInt8) (holds : Held p held) :
    Steps p (held ++ [byte]) (p.step byte) := by
  obtain ⟨state, buf, out⟩ := p
  cases holds with
  | ground => exact ground_steps out byte
  | escReceived => exact escReceived_steps out byte
  | csiEntry => exact csiEntry_steps out byte
  | csiParam params numbers => exact csiParam_steps out byte numbers
  | ss3Pending => exact ss3Pending_steps out byte
  | mouseX10 bytes short => exact mouseX10_steps out byte short
  | sgrMouse params numbers => exact sgrMouse_steps out byte numbers
  | pasteBuf start payload starts unended => exact inPaste_steps out byte starts unended
  | utf8 lead rest remaining needed => exact utf8Cont_steps out byte needed

inductive Call where
  | feed (data : List UInt8)
  | flush

def Call.fed : Call → List UInt8
  | .feed data => data
  | .flush => []

/-- A call, with the events that the calls so far have returned. -/
def perform (s : InputParser × List InputEvent) : Call → Except Panic (InputParser × List InputEvent)
  | .feed data => do
    let (p, events) ← s.1.feed data
    pure (p, s.2 ++ events)
  | .flush => .ok (s.1.flush.1, s.2 ++ s.1.flush.2)

def serve (calls : List Call) : Except Panic (InputParser × List InputEvent) := calls.foldlM perform ({}, [])

/-- Between calls nothing is left to hand over. -/
def Idle (s : InputParser × List InputEvent) (held : List UInt8) : Prop := Held s.1 held ∧ s.1.out = []

theorem feed_lossless {s : InputParser × List InputEvent} {held : List UInt8} (idle : Idle s held) (data : List UInt8) :
    Lossless Segment Idle Prod.snd s (held ++ data) (perform s (.feed data)) := by
  obtain ⟨holds, drained⟩ := idle
  obtain ⟨next, outputs, done, collects, accounts⟩ := foldlM_lossless step_steps data holds
  rw [drained, List.nil_append] at collects
  obtain ⟨segments, kept, are, keeps, split⟩ := accounts
  refine ⟨({ next with out := [] }, s.2 ++ outputs), outputs, ?_, rfl, segments, kept, are, ⟨keeps, rfl⟩, ?_⟩
  · show (s.1.feed data >>= _) = _
    rw [feed, done]
    show Except.ok ({ next with out := [] }, s.2 ++ next.out) = _
    rw [collects]
  · rw [← split]
    simp

theorem flush_lossless {s : InputParser × List InputEvent} {held : List UInt8} (idle : Idle s held) :
    Lossless Segment Idle Prod.snd s held (perform s .flush) := by
  obtain ⟨⟨state, buf, out⟩, events⟩ := s
  obtain ⟨holds, drained⟩ := idle
  subst drained
  have kept (same : perform (⟨state, buf, []⟩, events) .flush = .ok (⟨state, buf, []⟩, events ++ [])) :
      Lossless Segment Idle Prod.snd (⟨state, buf, []⟩, events) held (perform (⟨state, buf, []⟩, events) .flush) :=
    ⟨_, [], same, rfl, accounts_held ⟨holds, rfl⟩⟩
  have taken {kind : KeyKind} (nonempty : held ≠ [])
      (is : perform (⟨state, buf, []⟩, events) .flush = .ok (⟨.ground, [], []⟩, events ++ [.key ⟨held, kind⟩])) :
      Lossless Segment Idle Prod.snd (⟨state, buf, []⟩, events) held (perform (⟨state, buf, []⟩, events) .flush) := by
    refine ⟨_, [.key ⟨held, kind⟩], is, rfl, ?_⟩
    have emptied : Idle (⟨.ground, [], []⟩, events ++ [.key ⟨held, kind⟩]) [] := ⟨.ground, rfl⟩
    simpa only [List.append_nil] using accounts_output (.key held kind nonempty) emptied
  cases holds with
  | ground => exact kept rfl
  | pasteBuf => exact kept rfl
  | escReceived => exact taken (List.cons_ne_nil _ _) rfl
  | csiEntry => exact taken (List.cons_ne_nil _ _) rfl
  | csiParam => exact taken (List.cons_ne_nil _ _) rfl
  | ss3Pending => exact taken (List.cons_ne_nil _ _) rfl
  | mouseX10 => exact taken (List.cons_ne_nil _ _) rfl
  | sgrMouse => exact taken (List.cons_ne_nil _ _) rfl
  | utf8 => exact taken (List.cons_ne_nil _ _) rfl

theorem perform_lossless (s : InputParser × List InputEvent) (held : List UInt8) (call : Call) (idle : Idle s held) :
    Lossless Segment Idle Prod.snd s (held ++ call.fed) (perform s call) := by
  cases call with
  | feed data => exact feed_lossless idle data
  | flush =>
    rw [Call.fed, List.append_nil]
    exact flush_lossless idle

/-- Every byte is in the segment of one event, in order, or still held; and no call panics. -/
theorem calls_lossless (calls : List Call) :
    ∃ parser events, serve calls = .ok (parser, events) ∧ ∃ segments held,
      List.Forall₂ Segment events segments ∧ Pending parser.state parser.buf held ∧
        calls.flatMap Call.fed = segments.flatten ++ held := by
  have fresh : Idle ({}, []) [] := ⟨.ground, rfl⟩
  obtain ⟨⟨parser, events⟩, outputs, done, collects, accounts⟩ := foldlM_lossless perform_lossless calls fresh
  obtain ⟨segments, held, are, ⟨holds, _⟩, split⟩ := accounts
  have same : events = outputs := collects
  subst same
  exact ⟨parser, events, done, segments, held, are, holds, split⟩

end Anycode.Term
