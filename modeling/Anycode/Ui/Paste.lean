import Anycode.Term.Feeds
import Anycode.Term.Pastes
import Anycode.Ui.App

/-!
# Pasting into the child

`on_paste` brackets a text again for the child, through the handle that drops the wrapper's
hotkeys. What the parser makes of the bytes that reach the child.
-/

namespace Anycode.Ui
open Data Term

def bracketed (text : List Char) : List UInt8 := utf8 ("\x1b[200~".toList ++ text ++ "\x1b[201~".toList)

def App.onPaste (app : App) (text : List Char) : App := app.sendInput (bracketed text)

/-- A character that the handle drops, wherever it stands. -/
def isHotkeyChar (c : Char) : Bool := c.toNat == 0x02 || c.toNat == 0x05 || c.toNat == 0x13 || c.toNat == 0x11

/-- The bytes of the paste that the handle lets through. -/
def childBytes (text : List Char) : List UInt8 := (bracketed text).filter fun byte => !isWrapperHotkey byte

/-- Parsed from the ground state, the bytes are one paste of the text. -/
def ReadsAsPaste (bytes : List UInt8) (text : List Char) : Prop :=
  ∃ parser, InputParser.feed {} bytes = .ok (parser, [.paste text])

theorem bracketed_eq (text : List Char) : bracketed text = startMarker ++ utf8 text ++ endMarker := by
  rw [bracketed, utf8, List.flatMap_append, List.flatMap_append]
  rfl

theorem hotkey_small {byte : UInt8} (hotkey : isWrapperHotkey byte = true) : byte.toNat < 128 := by
  simp only [isWrapperHotkey, Bool.or_eq_true, beq_iff_eq] at hotkey
  obtain ((rfl | rfl) | rfl) | rfl := hotkey
  all_goals decide

theorem isHotkeyChar_ofNat {byte : UInt8} (small : byte.toNat < 128) :
    isHotkeyChar (Char.ofNat byte.toNat) = isWrapperHotkey byte := by
  rw [isHotkeyChar, toNat_ofNat_of_valid (.inl (by omega))]
  rw [Bool.eq_iff_iff]
  simp [isWrapperHotkey, ← UInt8.toNat_inj]

theorem isHotkeyChar_small {c : Char} (hotkey : isHotkeyChar c = true) : c.toNat < 128 := by
  simp only [isHotkeyChar, Bool.or_eq_true, beq_iff_eq] at hotkey
  omega

/-- A hotkey character is in decoded bytes exactly where its byte is. -/
theorem hotkeyChar_mem {bytes : List UInt8} {c : Char} (hotkey : isHotkeyChar c = true)
    (member : c ∈ fromUtf8Lossy bytes) : ∃ byte ∈ bytes, isWrapperHotkey byte = true := by
  have small := isHotkeyChar_small hotkey
  have value : (UInt8.ofNat c.toNat).toNat = c.toNat := by
    rw [UInt8.toNat_ofNat']
    omega
  have char : Char.ofNat (UInt8.ofNat c.toNat).toNat = c := by
    rw [value]
    exact Char.ofNat_toNat c
  refine ⟨UInt8.ofNat c.toNat, (ascii_mem_iff (by omega) bytes).mp (by rwa [char]), ?_⟩
  rw [← isHotkeyChar_ofNat (by omega), char]
  exact hotkey

theorem hotkey_of_mem_utf8 {text : List Char} {byte : UInt8} (hotkey : isWrapperHotkey byte = true)
    (member : byte ∈ utf8 text) : ∃ c ∈ text, isHotkeyChar c = true := by
  have small := hotkey_small hotkey
  refine ⟨Char.ofNat byte.toNat, ?_, by rw [isHotkeyChar_ofNat small, hotkey]⟩
  have decoded := (ascii_mem_iff small (utf8 text)).mpr member
  rwa [fromUtf8Lossy_utf8] at decoded

theorem marker_plain : ∀ byte ∈ startMarker ++ endMarker, isWrapperHotkey byte = false := by decide +kernel

/-- Without hotkeys in the text, all of the bytes reach the child. -/
theorem childBytes_of_plain {text : List Char} (plain : ∀ c ∈ text, isHotkeyChar c = false) :
    childBytes text = bracketed text := by
  refine List.filter_eq_self.mpr ?_
  intro byte member
  rw [Bool.not_eq_true']
  by_contra hotkey
  rw [Bool.not_eq_false] at hotkey
  rw [bracketed_eq, List.mem_append, List.mem_append] at member
  obtain (start | inside) | finish := member
  · rw [marker_plain byte (List.mem_append_left _ start)] at hotkey
    cases hotkey
  · obtain ⟨c, member, dropped⟩ := hotkey_of_mem_utf8 hotkey inside
    rw [plain c member] at dropped
    cases dropped
  · rw [marker_plain byte (List.mem_append_right _ finish)] at hotkey
    cases hotkey

/-- A text without an end marker reads as one paste exactly where it has no hotkey. -/
theorem readsAsPaste_iff {text : List Char} (unended : ¬ endText <:+: text) :
    ReadsAsPaste (childBytes text) text ↔ ∀ c ∈ text, isHotkeyChar c = false := by
  constructor
  · rintro ⟨parser, fed⟩ c member
    by_contra hotkey
    rw [Bool.not_eq_false] at hotkey
    have served : serve [.feed (childBytes text)] = .ok (parser, [.paste text]) := by
      have one := serve_feeds [childBytes text]
      rw [List.flatten_cons, List.flatten_nil, List.append_nil, fed] at one
      exact one
    obtain ⟨payload, decoded, _, inside⟩ := paste_payload served List.mem_cons_self
    rw [decoded] at member
    obtain ⟨byte, member, dropped⟩ := hotkeyChar_mem hotkey member
    have kept : byte ∈ childBytes text := by simpa [Call.fed] using inside.subset member
    have passed := (List.mem_filter.mp kept).2
    rw [dropped] at passed
    cases passed
  · intro plain
    have absent : ¬ endMarker <:+: utf8 text := by
      rw [← asciiText_infix_iff (by decide +kernel) (by decide +kernel), fromUtf8Lossy_utf8, asciiText_endMarker]
      exact unended
    refine ⟨{}, ?_⟩
    rw [childBytes_of_plain plain, bracketed_eq, feed_between_markers (firstEnd_iff.mpr absent), fromUtf8Lossy_utf8]

theorem onPaste_ready {app : App} {pty : PtyHandle} (ready : app.lifecycle = .ready) (attached : app.ptyHandle = some pty)
    (text : List Char) :
    (app.onPaste text).ptyHandle = some { pty with written := pty.written ++ childBytes text } := by
  have isReady : app.lifecycle.isReady = true := by rw [ready]; rfl
  rw [App.onPaste, App.sendInput, if_pos isReady, attached]
  rfl

/-- A paste holds no end marker, and what reaches the child reads as that paste exactly where the
text has no hotkey. -/
theorem onPaste_readsAsPaste_iff {calls : List Call} {parser : InputParser} {events : List InputEvent}
    {text : List Char} (served : serve calls = .ok (parser, events)) (emitted : .paste text ∈ events) :
    ¬ endText <:+: text ∧
      ∀ (app : App) (pty : PtyHandle), app.lifecycle = .ready → app.ptyHandle = some pty →
        (app.onPaste text).ptyHandle = some { pty with written := pty.written ++ childBytes text } ∧
          (ReadsAsPaste (childBytes text) text ↔ ∀ c ∈ text, isHotkeyChar c = false) := by
  have unended := paste_unended served emitted
  refine ⟨unended, ?_⟩
  intro app pty ready attached
  exact ⟨onPaste_ready ready attached text, readsAsPaste_iff unended⟩

/-- The app of a session that is running. -/
def readyApp : App := { lifecycle := .ready, ptyHandle := some { generation := 0 } }

/-- A plain text is pasted as it is. -/
theorem plain_paste_reads : ReadsAsPaste (childBytes "hi".toList) "hi".toList := by
  have served : serve [.feed (bracketed "hi".toList)] = .ok ({}, [.paste "hi".toList]) := by decide
  have pasted := (onPaste_readsAsPaste_iff served List.mem_cons_self).2 readyApp _ rfl rfl
  exact pasted.2.mpr fun c member => Bool.eq_false_iff.mpr (List.any_eq_false.mp (by decide) c member)

/-- A hotkey inside an end marker hides it from the parser; the handle drops the hotkey, and the
rest of the paste is typed. -/
theorem hotkey_types_paste :
    let text := "\x1b[20\x021~ls\r".toList
    serve [.feed (bracketed text)] = .ok ({}, [.paste text]) ∧
      (readyApp.onPaste text).ptyHandle = some { generation := 0, written := childBytes text } ∧
      InputParser.feed {} (childBytes text) = .ok ({}, [.paste [], .key ⟨utf8 ['l'], .char 'l'⟩,
        .key ⟨utf8 ['s'], .char 's'⟩, .key ⟨[0x0d], .enter⟩, .key ⟨endMarker, .unknown⟩]) ∧
      ¬ ReadsAsPaste (childBytes text) text := by
  intro text
  have typed : InputParser.feed {} (childBytes text) = .ok ({}, [.paste [], .key ⟨utf8 ['l'], .char 'l'⟩,
      .key ⟨utf8 ['s'], .char 's'⟩, .key ⟨[0x0d], .enter⟩, .key ⟨endMarker, .unknown⟩]) := by decide +kernel
  refine ⟨by decide +kernel, by decide +kernel, typed, ?_⟩
  rintro ⟨parser, fed⟩
  have events := congrArg (fun result => result.2.length) (Except.ok.inj (typed.symm.trans fed))
  cases events

end Anycode.Ui
