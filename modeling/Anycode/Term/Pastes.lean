import Anycode.Data.Ascii
import Anycode.Data.Text
import Anycode.Term.Segmentation

/-!
# Pastes

What a paste event can hold, and the bytes between two markers, parsed from the ground state.
-/

namespace Anycode.Term
open Data InputParser

def startMarker : List UInt8 := [esc, '['.toUInt8, '2'.toUInt8, '0'.toUInt8, '0'.toUInt8, '~'.toUInt8]

def endText : List Char := "\x1b[201~".toList

theorem asciiText_endMarker : asciiText endMarker = endText := by decide

theorem unbordered_endMarker : Unbordered endMarker := by decide

/-- The first end marker is the one behind the payload exactly where the payload holds none. -/
theorem firstEnd_iff {payload : List UInt8} : FirstEnd payload ↔ ¬ endMarker <:+: payload := by
  constructor
  · intro first inside
    obtain ⟨before, after, split⟩ := inside
    have whole : payload ++ endMarker = before ++ endMarker ++ (after ++ endMarker) := by
      rw [← split, List.append_assoc, List.append_assoc]
    exact absurd (List.append_eq_nil_iff.mp (first before _ whole)).2 (by decide)
  · intro absent before after split
    by_contra remains
    have shorter : before.length ≤ payload.length := by
      have lengths := congrArg List.length split
      simp only [List.length_append] at lengths
      omega
    obtain ⟨tail, rfl⟩ : before <+: payload :=
      List.prefix_of_prefix_length_le ⟨endMarker ++ after, by rw [split, List.append_assoc]⟩
        (List.prefix_append payload endMarker) shorter
    rw [List.append_assoc, List.append_assoc, List.append_right_inj] at split
    have nonempty : tail ≠ [] := by
      rintro rfl
      exact remains (List.append_right_eq_self.mp split.symm)
    have starts : endMarker <+: tail ++ (endMarker ++ []) := ⟨after, by rw [List.append_nil, split]⟩
    exact not_prefix_of_unbordered unbordered_endMarker (fun inner => absent (inner.trans ⟨before, [], by simp⟩))
      nonempty starts

/-- Without a marker everything is collected. -/
theorem foldlM_collected {payload rest : List UInt8} (out : List InputEvent) (unended : ¬ endMarker <:+: payload ++ rest) :
    rest.foldlM step ⟨.pasteBuf, payload, out⟩ = .ok ⟨.pasteBuf, payload ++ rest, out⟩ := by
  induction rest generalizing payload with
  | nil => rw [List.append_nil]; rfl
  | cons byte rest ih =>
    have together : payload ++ byte :: rest = payload ++ [byte] ++ rest := by simp
    rw [together] at unended
    have open_ : ¬ endMarker <:+ payload ++ [byte] := by
      rintro ⟨front, split⟩
      exact unended ⟨front, rest, by rw [← split]⟩
    have collected : step ⟨.pasteBuf, payload, out⟩ byte = .ok ⟨.pasteBuf, payload ++ [byte], out⟩ :=
      inPaste_collected out byte open_
    rw [List.foldlM_cons, collected, together]
    exact ih unended

/-- The bytes between two markers come back as one paste. -/
theorem feed_between_markers {payload : List UInt8} (first : FirstEnd payload) :
    feed {} (startMarker ++ payload ++ endMarker) = .ok ({}, [.paste (fromUtf8Lossy payload)]) := by
  have started : startMarker.foldlM step {} = .ok ⟨.pasteBuf, [], []⟩ := by decide
  have last : endMarker = endMarker.dropLast ++ ['~'.toUInt8] := by decide
  have unended : ¬ endMarker <:+: [] ++ (payload ++ endMarker.dropLast) := by
    rintro ⟨before, after, split⟩
    have whole : payload ++ endMarker = before ++ endMarker ++ (after ++ ['~'.toUInt8]) := by
      rw [List.nil_append] at split
      rw [← List.append_assoc, split, List.append_assoc, ← last]
    exact absurd (List.append_eq_nil_iff.mp (first before _ whole)).2 (by decide)
  have collected := foldlM_collected [] unended
  have ended : step ⟨.pasteBuf, payload ++ endMarker.dropLast, []⟩ '~'.toUInt8 =
      .ok ⟨.ground, [], [.paste (fromUtf8Lossy payload)]⟩ :=
    inPaste_ended [] '~'.toUInt8 (by rw [List.append_assoc, ← last])
  have split : startMarker ++ payload ++ endMarker =
      startMarker ++ ((payload ++ endMarker.dropLast) ++ ['~'.toUInt8]) := by
    rw [List.append_assoc, List.append_assoc, ← last]
  rw [feed, split, List.foldlM_append, started]
  show (((payload ++ endMarker.dropLast) ++ ['~'.toUInt8]).foldlM step ⟨.pasteBuf, [], []⟩ >>= _) = _
  rw [List.foldlM_append, collected]
  show ((step ⟨.pasteBuf, payload ++ endMarker.dropLast, []⟩ '~'.toUInt8 >>= pure) >>= _) = _
  rw [ended]
  rfl

theorem exists_segment {events : List InputEvent} {segments : List (List UInt8)} {event : InputEvent}
    (are : List.Forall₂ Segment events segments) (member : event ∈ events) : ∃ segment ∈ segments, Segment event segment := by
  induction are with
  | nil => cases member
  | cons is _ ih =>
    rcases List.mem_cons.mp member with rfl | later
    · exact ⟨_, List.mem_cons_self, is⟩
    · obtain ⟨segment, member, is⟩ := ih later
      exact ⟨segment, List.mem_cons_of_mem _ member, is⟩

/-- A paste event decodes the bytes before the first end marker. -/
theorem paste_payload {calls : List Call} {parser : InputParser} {events : List InputEvent} {text : List Char}
    (served : serve calls = .ok (parser, events)) (emitted : .paste text ∈ events) :
    ∃ payload, text = fromUtf8Lossy payload ∧ FirstEnd payload ∧ payload <:+: calls.flatMap Call.fed := by
  obtain ⟨_, _, again, segments, held, are, _, split⟩ := calls_lossless calls
  cases served.symm.trans again
  obtain ⟨segment, member, is⟩ := exists_segment are emitted
  cases is with
  | paste start payload _ first =>
    refine ⟨payload, rfl, first, ?_⟩
    obtain ⟨before, after, segments_eq⟩ := List.append_of_mem member
    rw [split, segments_eq, List.flatten_append, List.flatten_cons]
    exact ⟨before.flatten ++ start, endMarker ++ after.flatten ++ held, by simp⟩

/-- No paste holds the text of an end marker. -/
theorem paste_unended {calls : List Call} {parser : InputParser} {events : List InputEvent} {text : List Char}
    (served : serve calls = .ok (parser, events)) (emitted : .paste text ∈ events) : ¬ endText <:+: text := by
  obtain ⟨payload, rfl, first, _⟩ := paste_payload served emitted
  rw [← asciiText_endMarker, asciiText_infix_iff (by decide +kernel) (by decide +kernel)]
  exact firstEnd_iff.mp first

end Anycode.Term
