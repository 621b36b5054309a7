import Anycode.Term.Csi

/-!
# Typed characters

A text that is fed comes out as its characters, and a character that comes out was fed as its
encoding. Bytes that are no character hide nothing that follows them.
-/

namespace Anycode.Term
open Data InputParser

/-- `char::is_control`: the general category `Cc`. -/
def isControl (c : Char) : Bool := c.toNat < 0x20 || (0x7f ≤ c.toNat && c.toNat ≤ 0x9f)

def charKey (c : Char) : InputEvent := .key ⟨String.utf8EncodeChar c, .char c⟩

/-- What a key event says of the bytes that it came from. -/
structure Truthful (input : KeyInput) : Prop where
  encoded : ∀ c, input.kind = .char c → input.raw = String.utf8EncodeChar c
  tails : ∀ lead rest, input.raw = lead :: rest → 0xc0 ≤ lead → ∀ byte ∈ rest, isTail byte = true

/-! ### One character -/

theorem continues_iff (byte : UInt8) : byte &&& 0xC0 = 0x80 ↔ isTail byte = true := by
  have all : ∀ n : Fin 256, (UInt8.ofNat n.val &&& 0xC0 = 0x80) ↔ isTail (UInt8.ofNat n.val) = true := by decide +kernel
  have same := all ⟨byte.toNat, byte.toNat_lt⟩
  rwa [UInt8.ofNat_toNat] at same

/-- A byte above the controls is printable, leads a character, or is nothing. -/
theorem ground_above {p : InputParser} {byte : UInt8} (above : 0x20 ≤ byte.toNat) (other : byte.toNat ≠ 0x7f) :
    p.ground byte =
      if byte.toNat ≤ 0x7e then .ok (p.emitKey [byte] (.char (asChar byte)))
      else if 0xc0 ≤ byte.toNat ∧ byte.toNat ≤ 0xdf then .ok (p.startUtf8 byte 1)
      else if 0xe0 ≤ byte.toNat ∧ byte.toNat ≤ 0xef then .ok (p.startUtf8 byte 2)
      else if 0xf0 ≤ byte.toNat ∧ byte.toNat ≤ 0xf7 then .ok (p.startUtf8 byte 3)
      else .ok (p.emitKey [byte] .unknown) := by
  have controls : ∀ key : UInt8, key.toNat < 0x20 ∨ key.toNat = 0x7f → byte ≠ key := by
    rintro key (low | delete) rfl
    · omega
    · exact other delete
  unfold ground
  rw [if_neg (controls _ (by decide)), if_neg (controls _ (by decide)), if_neg (controls _ (by decide)),
    if_neg (controls _ (by decide))]
  simp only [UInt8.le_iff_toNat_le, UInt8.reduceToNat]
  have noLetter : ¬ (1 ≤ byte.toNat ∧ byte.toNat ≤ 26) := by omega
  rw [if_neg noLetter]
  simp only [above, true_and]

theorem ground_lead {p : InputParser} {byte : UInt8} (lead : 0xc0 ≤ byte.toNat) :
    p.ground byte =
      if byte.toNat ≤ 0xdf then .ok (p.startUtf8 byte 1)
      else if byte.toNat ≤ 0xef then .ok (p.startUtf8 byte 2)
      else if byte.toNat ≤ 0xf7 then .ok (p.startUtf8 byte 3)
      else .ok (p.emitKey [byte] .unknown) := by
  rw [ground_above (by omega) (by omega), if_neg (by omega)]
  by_cases two : byte.toNat ≤ 0xdf
  · rw [if_pos ⟨lead, two⟩, if_pos two]
  · rw [if_neg (fun range => two range.2), if_neg two]
    by_cases three : byte.toNat ≤ 0xef
    · rw [if_pos ⟨by omega, three⟩, if_pos three]
    · rw [if_neg (fun range => three range.2), if_neg three]
      by_cases four : byte.toNat ≤ 0xf7
      · rw [if_pos ⟨by omega, four⟩, if_pos four]
      · rw [if_neg (fun range => four range.2), if_neg four]

theorem ground_printable {p : InputParser} {byte : UInt8} (printable : 0x20 ≤ byte.toNat ∧ byte.toNat ≤ 0x7e) :
    p.ground byte = .ok (p.emitKey [byte] (.char (asChar byte))) := by
  rw [ground_above printable.1 (by omega), if_pos printable.2]

theorem utf8Cont_tail {p : InputParser} {byte : UInt8} (remaining : UInt8) (tail : isTail byte = true) :
    p.utf8Cont byte remaining = (do
      let p := p.push byte
      let newRemaining ← subU8 remaining 1
      if newRemaining > 0 then pure (p.goto (.utf8 newRemaining))
      else pure (p.takeKey (utf8Key p.buf))) := by
  unfold utf8Cont
  rw [if_neg (not_not_intro ((continues_iff byte).mpr tail))]

theorem utf8Key_encoded (c : Char) : utf8Key (String.utf8EncodeChar c) = .char c := by
  have decoded := fromUtf8_utf8 [c]
  rw [utf8, List.flatMap_singleton] at decoded
  rw [utf8Key, decoded]
  rfl

/-- The encoding of a character that is not a control character is read as one key. -/
theorem foldlM_encoded {c : Char} (plain : isControl c = false) :
    (String.utf8EncodeChar c).foldlM step {} = .ok (behind [charKey c] {}) := by
  have key := utf8Key_encoded c
  rw [charKey]
  rcases utf8EncodeChar_cases c with ⟨a, one, same, small⟩ | ⟨a, b, two, low, high, second⟩ |
    ⟨a, b, d, three, low, high, second, third⟩ | ⟨a, b, d, e, four, low, high, second, third, fourth⟩
  · have printable : 0x20 ≤ a.toNat ∧ a.toNat ≤ 0x7e := by
      simp only [isControl, Bool.or_eq_false_iff, decide_eq_false_iff_not, Bool.and_eq_false_iff] at plain
      omega
    have char : asChar a = c := by
      rw [asChar, same]
      exact Char.ofNat_toNat c
    rw [one]
    show (ground {} a >>= pure) = _
    rw [ground_printable printable, char]
    rfl
  · rw [two] at key ⊢
    show (ground {} a >>= fun p => [b].foldlM step p) = _
    rw [ground_lead low, if_pos high]
    show (utf8Cont ⟨.utf8 1, [a], []⟩ b 1 >>= pure) = _
    rw [utf8Cont_tail 1 second, ← key]
    rfl
  · rw [three] at key ⊢
    show (ground {} a >>= fun p => [b, d].foldlM step p) = _
    rw [ground_lead (by omega), if_neg (by omega), if_pos high]
    show (utf8Cont ⟨.utf8 2, [a], []⟩ b 2 >>= fun p => [d].foldlM step p) = _
    rw [utf8Cont_tail 2 second]
    show (utf8Cont ⟨.utf8 1, [a, b], []⟩ d 1 >>= pure) = _
    rw [utf8Cont_tail 1 third, ← key]
    rfl
  · rw [four] at key ⊢
    show (ground {} a >>= fun p => [b, d, e].foldlM step p) = _
    rw [ground_lead (by omega), if_neg (by omega), if_neg (by omega), if_pos high]
    show (utf8Cont ⟨.utf8 3, [a], []⟩ b 3 >>= fun p => [d, e].foldlM step p) = _
    rw [utf8Cont_tail 3 second]
    show (utf8Cont ⟨.utf8 2, [a, b], []⟩ d 2 >>= fun p => [e].foldlM step p) = _
    rw [utf8Cont_tail 2 third]
    show (utf8Cont ⟨.utf8 1, [a, b, d], []⟩ e 1 >>= pure) = _
    rw [utf8Cont_tail 1 fourth, ← key]
    rfl

theorem feed_text {text : List Char} (plain : ∀ c ∈ text, isControl c = false) :
    feed {} (utf8 text) = .ok ({}, text.map charKey) := by
  induction text with
  | nil => rfl
  | cons c rest ih =>
    obtain ⟨first, later⟩ := List.forall_mem_cons.mp plain
    have one : feed {} (String.utf8EncodeChar c) = .ok ({}, [charKey c]) := by
      rw [feed, foldlM_encoded first]
      rfl
    rw [utf8, List.flatMap_cons, feed_append, one]
    show (feed {} (utf8 rest) >>= _) = _
    rw [ih later]
    rfl

/-! ### What key events say -/

/-- What the buffer holds: a multi-byte character so far, or an escape sequence. -/
def Collects : State → List UInt8 → Prop
  | .ground, _ | .pasteBuf, _ => True
  | .utf8 _, buf => ∃ lead rest, buf = lead :: rest ∧ 0xc0 ≤ lead ∧ ∀ byte ∈ rest, isTail byte = true
  | _, buf => ∃ rest, buf = esc :: rest

/-- Every key event so far is truthful. -/
structure Sincere (p : InputParser) : Prop where
  truthful : ∀ input, .key input ∈ p.out → Truthful input
  collects : Collects p.state p.buf

theorem truthful_byte (byte : UInt8) {kind : KeyKind} (special : ∀ c, kind ≠ .char c) : Truthful ⟨[byte], kind⟩ where
  encoded c char := absurd char (special c)
  tails lead rest single _ := by
    cases single
    exact List.forall_mem_nil _

theorem truthful_printable {byte : UInt8} (printable : 0x20 ≤ byte ∧ byte ≤ 0x7e) :
    Truthful ⟨[byte], .char (asChar byte)⟩ where
  encoded c char := by
    cases char
    simp only [UInt8.le_iff_toNat_le, UInt8.reduceToNat] at printable
    exact (utf8EncodeChar_ascii (by omega)).symm
  tails lead rest single _ := by
    cases single
    exact List.forall_mem_nil _

theorem truthful_escape (rest : List UInt8) {kind : KeyKind} (special : ∀ c, kind ≠ .char c) :
    Truthful ⟨esc :: rest, kind⟩ where
  encoded c char := absurd char (special c)
  tails lead tail split high := by
    cases split
    exact absurd high (by decide)

theorem truthful_collected {lead : UInt8} {rest : List UInt8} (tails : ∀ byte ∈ rest, isTail byte = true) :
    Truthful ⟨lead :: rest, .unknown⟩ ∧ Truthful ⟨lead :: rest, utf8Key (lead :: rest)⟩ := by
  have same : ∀ first tail, lead :: rest = first :: tail → 0xc0 ≤ first → ∀ byte ∈ tail, isTail byte = true := by
    intro first tail split _
    cases split
    exact tails
  refine ⟨⟨nofun, same⟩, ⟨fun c char => ?_, same⟩⟩
  unfold utf8Key at char
  cases decoded : fromUtf8 (lead :: rest) with
  | none =>
    rw [decoded] at char
    cases char
  | some text =>
    have encoded := utf8_of_fromUtf8 decoded
    obtain ⟨d, rfl⟩ := eq_singleton_of_tails encoded tails
    rw [decoded] at char
    cases char
    rw [utf8, List.flatMap_singleton] at encoded
    exact encoded.symm

theorem ss3Key_ne_char (byte : UInt8) (c : Char) : ss3Key byte ≠ .char c := by
  unfold ss3Key
  split
  · rename_i key found
    rintro rfl
    exact cursorKey_ne_char byte c found
  · iterate 4 refine ite_ne nofun ?_
    exact nofun

section
variable {out : List InputEvent} {q : InputParser} {buf : List UInt8} {byte : UInt8}

theorem sincere_emit {input : KeyInput} {state : State} (truthful : ∀ input, .key input ∈ out → Truthful input)
    (last : Truthful input) (collects : Collects state buf) : Sincere ⟨state, buf, out ++ [.key input]⟩ := by
  refine ⟨fun other member => ?_, collects⟩
  rcases List.mem_append.mp member with before | now
  · exact truthful other before
  · cases List.mem_singleton.mp now
    exact last

variable (truthful : ∀ input, .key input ∈ out → Truthful input)
include truthful

theorem sincere_emitted {event : InputEvent} (noKey : ∀ input, event ≠ .key input) :
    Sincere ⟨.ground, [], out ++ [event]⟩ := by
  refine ⟨fun other member => ?_, trivial⟩
  rcases List.mem_append.mp member with before | now
  · exact truthful other before
  · exact absurd (List.mem_singleton.mp now).symm (noKey other)

theorem ground_sincere (h : ground ⟨.ground, buf, out⟩ byte = .ok q) : Sincere q := by
  unfold ground at h
  split at h
  · cases h
    exact ⟨truthful, [], rfl⟩
  split at h
  · cases h
    exact sincere_emit truthful (truthful_byte byte nofun) trivial
  split at h
  · cases h
    exact sincere_emit truthful (truthful_byte byte nofun) trivial
  split at h
  · cases h
    exact sincere_emit truthful (truthful_byte byte nofun) trivial
  split at h
  · obtain ⟨letter, _, h⟩ := bind_ok h
    cases h
    exact sincere_emit truthful (truthful_byte byte nofun) trivial
  split at h
  · rename_i printable
    cases h
    exact sincere_emit truthful (truthful_printable printable) trivial
  have starts : ∀ remaining, 0xc0 ≤ byte → Sincere (startUtf8 ⟨.ground, buf, out⟩ byte remaining) :=
    fun remaining lead => ⟨truthful, byte, [], rfl, lead, List.forall_mem_nil _⟩
  split at h
  · rename_i lead
    cases h
    exact starts 1 lead.1
  split at h
  · rename_i lead
    cases h
    exact starts 2 (UInt8.le_trans (by decide) lead.1)
  split at h
  · rename_i lead
    cases h
    exact starts 3 (UInt8.le_trans (by decide) lead.1)
  · cases h
    exact sincere_emit truthful (truthful_byte byte nofun) trivial

theorem utf8Cont_sincere {remaining : UInt8} (collects : Collects (.utf8 remaining) buf)
    (h : utf8Cont ⟨.utf8 remaining, buf, out⟩ byte remaining = .ok q) : Sincere q := by
  obtain ⟨lead, rest, rfl, high, tails⟩ := collects
  unfold utf8Cont at h
  split at h
  · have before : Sincere ⟨.ground, [], out ++ [.key ⟨lead :: rest, .unknown⟩]⟩ :=
      sincere_emit truthful (truthful_collected tails).1 trivial
    exact ground_sincere before.truthful h
  · rename_i tail
    have more : ∀ b ∈ rest ++ [byte], isTail b = true := by
      refine List.forall_mem_append.mpr ⟨tails, ?_⟩
      simpa using (continues_iff byte).mp (Classical.not_not.mp tail)
    obtain ⟨left, _, h⟩ := bind_ok h
    split at h
    · cases h
      exact ⟨truthful, lead, rest ++ [byte], rfl, high, more⟩
    · cases h
      exact sincere_emit truthful (truthful_collected more).2 trivial

theorem escReceived_sincere (collects : Collects .escReceived buf)
    (h : escReceived ⟨.escReceived, buf, out⟩ byte = .ok q) : Sincere q := by
  obtain ⟨rest, rfl⟩ := collects
  unfold escReceived at h
  split at h
  · cases h
    exact ⟨truthful, _, rfl⟩
  split at h
  · cases h
    exact ⟨truthful, _, rfl⟩
  split at h
  · cases h
    exact sincere_emit truthful (truthful_escape [] nofun) ⟨[], rfl⟩
  split at h
  · cases h
    exact sincere_emit truthful (truthful_escape _ nofun) trivial
  split at h
  · obtain ⟨letter, _, h⟩ := bind_ok h
    cases h
    exact sincere_emit truthful (truthful_escape _ nofun) trivial
  split at h
  · cases h
    exact sincere_emit truthful (truthful_escape _ nofun) trivial
  · cases h
    exact sincere_emit truthful (truthful_escape _ nofun) trivial

theorem csiEntry_sincere (collects : Collects .csiEntry buf)
    (h : csiEntry ⟨.csiEntry, buf, out⟩ byte = .ok q) : Sincere q := by
  obtain ⟨rest, rfl⟩ := collects
  unfold csiEntry at h
  split at h
  · cases h
    exact ⟨truthful, _, rfl⟩
  split at h
  · cases h
    exact ⟨truthful, _, rfl⟩
  split at h
  · cases h
    exact sincere_emit truthful (truthful_escape _ (withModifier_ne_char (cursorKey_ne_char byte) [])) trivial
  split at h
  · cases h
    exact ⟨truthful, _, rfl⟩
  · cases h
    exact sincere_emit truthful (truthful_escape _ nofun) trivial

theorem csiParam_sincere (collects : Collects .csiParam buf)
    (h : csiParam ⟨.csiParam, buf, out⟩ byte = .ok q) : Sincere q := by
  obtain ⟨rest, rfl⟩ := collects
  unfold csiParam at h
  split at h
  · cases h
    exact ⟨truthful, _, rfl⟩
  split at h
  · obtain ⟨params, _, h⟩ := bind_ok h
    split at h
    · cases h
      exact ⟨truthful, trivial⟩
    · cases h
      exact sincere_emit truthful (truthful_escape _ (withModifier_ne_char (tildeKey_ne_char _) params)) trivial
  split at h
  · obtain ⟨params, _, h⟩ := bind_ok h
    cases h
    exact sincere_emit truthful (truthful_escape _ (withModifier_ne_char (cursorKey_ne_char byte) params)) trivial
  · cases h
    exact sincere_emit truthful (truthful_escape _ nofun) trivial

theorem mouseX10_sincere {count : UInt8} (collects : Collects (.mouseX10 count) buf)
    (h : mouseX10 ⟨.mouseX10 count, buf, out⟩ byte count = .ok q) : Sincere q := by
  obtain ⟨rest, rfl⟩ := collects
  obtain ⟨next, _, h⟩ := bind_ok h
  split at h
  · cases h
    exact ⟨truthful, _, rfl⟩
  · obtain ⟨_, _, h⟩ := bind_ok h
    obtain ⟨_, _, h⟩ := bind_ok h
    obtain ⟨_, _, h⟩ := bind_ok h
    obtain ⟨_, _, h⟩ := bind_ok h
    obtain ⟨_, _, h⟩ := bind_ok h
    obtain ⟨_, _, h⟩ := bind_ok h
    cases h
    exact sincere_emitted truthful nofun

theorem sgrMouse_sincere (collects : Collects .sgrMouse buf)
    (h : sgrMouse ⟨.sgrMouse, buf, out⟩ byte = .ok q) : Sincere q := by
  obtain ⟨rest, rfl⟩ := collects
  unfold sgrMouse at h
  split at h
  · obtain ⟨event, _, h⟩ := bind_ok h
    cases event with
    | some event =>
      cases h
      exact sincere_emitted truthful nofun
    | none =>
      cases h
      exact sincere_emit truthful (truthful_escape _ nofun) trivial
  split at h
  · cases h
    exact ⟨truthful, _, rfl⟩
  · cases h
    exact sincere_emit truthful (truthful_escape _ nofun) trivial

theorem inPaste_sincere (h : inPaste ⟨.pasteBuf, buf, out⟩ byte = .ok q) : Sincere q := by
  unfold inPaste at h
  dsimp only at h
  split at h
  · obtain ⟨_, _, h⟩ := bind_ok h
    obtain ⟨_, _, h⟩ := bind_ok h
    split at h
    · obtain ⟨_, _, h⟩ := bind_ok h
      cases h
      exact sincere_emitted truthful nofun
    · cases h
      exact ⟨truthful, trivial⟩
  · cases h
    exact ⟨truthful, trivial⟩

end

theorem step_sincere {p q : InputParser} {byte : UInt8} (sincere : Sincere p) (h : p.step byte = .ok q) : Sincere q := by
  obtain ⟨state, buf, out⟩ := p
  obtain ⟨truthful, collects⟩ := sincere
  cases state with
  | ground => exact ground_sincere truthful h
  | escReceived => exact escReceived_sincere truthful collects h
  | csiEntry => exact csiEntry_sincere truthful collects h
  | csiParam => exact csiParam_sincere truthful collects h
  | ss3Pending =>
    obtain ⟨rest, rfl⟩ := collects
    cases h
    exact sincere_emit truthful (truthful_escape _ (ss3Key_ne_char byte)) trivial
  | mouseX10 count => exact mouseX10_sincere truthful collects h
  | sgrMouse => exact sgrMouse_sincere truthful collects h
  | pasteBuf => exact inPaste_sincere truthful h
  | utf8 remaining => exact utf8Cont_sincere truthful collects h

theorem feed_sincere {p q : InputParser} {data : List UInt8} {later : List InputEvent} (sincere : Sincere p)
    (h : p.feed data = .ok (q, later)) :
    Sincere q ∧ ∀ input, .key input ∈ later → Truthful input := by
  obtain ⟨last, ran, handed⟩ := bind_ok h
  have kept : Sincere last := by
    clear h handed
    induction data generalizing p with
    | nil =>
      cases ran
      exact sincere
    | cons byte rest ih =>
      obtain ⟨next, stepped, ran⟩ := bind_ok ran
      exact ih (step_sincere sincere stepped) ran
  cases handed
  exact ⟨⟨nofun, kept.collects⟩, kept.truthful⟩

theorem flush_sincere {p : InputParser} (sincere : Sincere p) :
    Sincere p.flush.1 ∧ ∀ input, .key input ∈ p.flush.2 → Truthful input := by
  obtain ⟨state, buf, out⟩ := p
  obtain ⟨truthful, collects⟩ := sincere
  have handed {q : InputParser} (kept : Sincere q) :
      Sincere q.drain.1 ∧ ∀ input, .key input ∈ q.drain.2 → Truthful input :=
    ⟨⟨nofun, kept.collects⟩, kept.truthful⟩
  cases state with
  | ground => exact handed ⟨truthful, trivial⟩
  | pasteBuf => exact handed ⟨truthful, trivial⟩
  | escReceived => exact handed (sincere_emit truthful (truthful_escape [] nofun) trivial)
  | utf8 remaining =>
    obtain ⟨lead, rest, rfl, _, tails⟩ := collects
    exact handed (sincere_emit truthful (truthful_collected tails).1 trivial)
  | _ =>
    obtain ⟨rest, rfl⟩ := collects
    exact handed (sincere_emit truthful (truthful_escape rest nofun) trivial)

theorem calls_truthful {calls : List Call} {s t : InputParser × List InputEvent} (sincere : Sincere s.1)
    (truthful : ∀ input, .key input ∈ s.2 → Truthful input) (h : calls.foldlM perform s = .ok t) :
    ∀ input, .key input ∈ t.2 → Truthful input := by
  induction calls generalizing s with
  | nil =>
    cases h
    exact truthful
  | cons call rest ih =>
    obtain ⟨middle, performed, h⟩ := bind_ok h
    cases call with
    | feed data =>
      obtain ⟨⟨q, later⟩, fed, handed⟩ := bind_ok performed
      cases handed
      obtain ⟨kept, now⟩ := feed_sincere sincere fed
      refine ih kept (fun input member => ?_) h
      exact (List.mem_append.mp member).elim (truthful input) (now input)
    | flush =>
      cases performed
      obtain ⟨kept, now⟩ := flush_sincere sincere
      refine @ih (s.1.flush.1, s.2 ++ s.1.flush.2) kept (fun input member => ?_) h
      exact (List.mem_append.mp member).elim (truthful input) (now input)

/-! ### Bytes that are no character -/

/-- A byte that does not continue the character is read as if nothing were before it. -/
theorem feed_resynchronizes {p : InputParser} {remaining byte : UInt8} (waits : p.state = .utf8 remaining)
    (other : isTail byte = false) (rest : List UInt8) :
    p.feed (byte :: rest) =
      (feed {} (byte :: rest)).map fun fed => (fed.1, p.out ++ .key ⟨p.buf, .unknown⟩ :: fed.2) := by
  obtain ⟨state, buf, out⟩ := p
  cases waits
  have refused : byte &&& 0xC0 ≠ 0x80 := by
    rw [ne_eq, continues_iff, other]
    exact Bool.false_ne_true
  have again : step ⟨.utf8 remaining, buf, out⟩ byte = step (behind (out ++ [.key ⟨buf, .unknown⟩]) {}) byte := by
    show utf8Cont ⟨.utf8 remaining, buf, out⟩ byte remaining = _
    rw [utf8Cont, if_pos refused]
    show ground ⟨.ground, [], out ++ [.key ⟨buf, .unknown⟩]⟩ byte =
      ground ⟨.ground, [], out ++ [.key ⟨buf, .unknown⟩] ++ []⟩ byte
    rw [List.append_nil]
  have same : (byte :: rest).foldlM step ⟨.utf8 remaining, buf, out⟩ =
      (byte :: rest).foldlM step (behind (out ++ [.key ⟨buf, .unknown⟩]) {}) := by
    rw [List.foldlM_cons, List.foldlM_cons, again]
  rw [feed, feed, same, foldlM_step_behind]
  cases (byte :: rest).foldlM step {} with
  | error e => rfl
  | ok q =>
    show Except.ok ({ q with out := [] }, out ++ [.key ⟨buf, .unknown⟩] ++ q.out) =
      .ok ({ q with out := [] }, out ++ ([.key ⟨buf, .unknown⟩] ++ q.out))
    rw [List.append_assoc]

/-- A text is read as its characters, however it is fed; every character that is read is its
encoding; and a sequence that is broken off is an event of its own, with tail bytes alone behind
its first byte, after which the next byte is read afresh. -/
theorem typing_roundTrip :
    (∀ text : List Char, (∀ c ∈ text, isControl c = false) → ∀ chunks : List (List UInt8), chunks.flatten = utf8 text →
      serve (chunks.map .feed) = .ok ({}, text.map charKey)) ∧
    (∀ calls parser events, serve calls = .ok (parser, events) → ∀ input, .key input ∈ events → Truthful input) ∧
    ∀ (parser : InputParser) remaining byte, parser.state = .utf8 remaining → isTail byte = false → ∀ rest,
      parser.feed (byte :: rest) =
        (feed {} (byte :: rest)).map fun fed => (fed.1, parser.out ++ .key ⟨parser.buf, .unknown⟩ :: fed.2) := by
  refine ⟨?_, ?_, ?_⟩
  · intro text plain chunks split
    rw [serve_feeds, split, feed_text plain]
  · intro calls parser events served
    have fresh : Sincere {} := ⟨nofun, trivial⟩
    exact @calls_truthful calls ({}, []) (parser, events) fresh nofun served
  · exact fun parser remaining byte waits other rest => feed_resynchronizes waits other rest

end Anycode.Term
