import Anycode.Term.Segmentation

/-!
# Mouse events for the child

`MouseEvent::to_x10_bytes` of `term_input/event.rs`, and which events the child reads as they were.
-/

namespace Anycode.Term
open Data InputParser

namespace MouseEvent

def position : MouseEvent → UInt16 × UInt16
  | .down _ col row | .up col row | .drag _ col row | .move col row | .scrollUp col row | .scrollDown col row =>
    (col, row)

def buttonCode : MouseEvent → UInt8
  | .down .left _ _ => 0
  | .down .middle _ _ => 1
  | .down .right _ _ => 2
  | .up _ _ => 3
  | .drag .left _ _ => 32
  | .drag .middle _ _ => 33
  | .drag .right _ _ => 34
  | .move _ _ => 35
  | .scrollUp _ _ => 64
  | .scrollDown _ _ => 65

/-- `ESC [ M`, and three bytes with an offset each; the two sums of `u16` are cut to a byte. -/
def toX10Bytes (event : MouseEvent) : Except Panic (List UInt8) := do
  let col ← addU16 event.position.1 33
  let row ← addU16 event.position.2 33
  pure [esc, '['.toUInt8, 'M'.toUInt8, event.buttonCode + 32, col.toUInt8, row.toUInt8]

/-- The same event at another place. -/
def at_ (event : MouseEvent) (col row : UInt16) : MouseEvent :=
  match event with
  | .down button _ _ => .down button col row
  | .up _ _ => .up col row
  | .drag button _ _ => .drag button col row
  | .move _ _ => .move col row
  | .scrollUp _ _ => .scrollUp col row
  | .scrollDown _ _ => .scrollDown col row

theorem at_eq_self_iff (event : MouseEvent) (col row : UInt16) : event.at_ col row = event ↔ event.position = (col, row) := by
  cases event <;> simp [at_, position, eq_comm]

/-- The two tables of buttons agree. -/
theorem decode_buttonCode (event : MouseEvent) (col row : UInt16) :
    decodeX10Mouse (event.buttonCode + 32 - 32) col row = event.at_ col row := by
  have code : event.buttonCode + 32 - 32 = event.buttonCode := by simp
  rw [code]
  cases event with
  | down button => cases button <;> simp +decide [decodeX10Mouse, buttonOf, buttonCode, at_]
  | drag button => cases button <;> simp +decide [decodeX10Mouse, buttonOf, buttonCode, at_]
  | _ => simp +decide [decodeX10Mouse, buttonCode, at_]

/-- Encoding succeeds, and the parser reads the event back. -/
def RoundTrips (event : MouseEvent) : Prop :=
  ∃ bytes, event.toX10Bytes = .ok bytes ∧ feed {} bytes = .ok ({}, [.mouse event])

end MouseEvent

theorem feed_x10 (btn col row : UInt8) : feed {} [esc, '['.toUInt8, 'M'.toUInt8, btn, col, row] =
    .ok ({}, [.mouse (decodeX10Mouse (btn - 32) (col - 33).toUInt16 (row - 33).toUInt16)]) := rfl

/-- A coordinate in a byte, with its offset put on and taken off again. -/
theorem cut_eq_iff (coordinate : UInt16) : ((coordinate + 33).toUInt8 - 33).toUInt16 = coordinate ↔ coordinate ≤ 255 := by
  rw [← UInt16.toNat_inj, UInt16.le_iff_toNat_le]
  have small := coordinate.toNat_lt
  simp only [UInt8.toNat_toUInt16, UInt8.toNat_sub, UInt16.toNat_toUInt8, UInt16.toNat_add, UInt16.reduceToNat, UInt8.reduceToNat]
  omega

namespace MouseEvent

/-- The child reads the event at the place that the two bytes name. -/
theorem roundTrips_iff_of_encoded {event : MouseEvent} {col row : UInt8}
    (encoded : event.toX10Bytes = .ok [esc, '['.toUInt8, 'M'.toUInt8, event.buttonCode + 32, col, row]) :
    event.RoundTrips ↔ event.position = ((col - 33).toUInt16, (row - 33).toUInt16) := by
  rw [← at_eq_self_iff, ← decode_buttonCode]
  constructor
  · intro h
    obtain ⟨bytes, same, parsed⟩ := h
    cases same.symm.trans encoded
    rw [feed_x10] at parsed
    have events := congrArg Prod.snd (Except.ok.inj parsed)
    exact InputEvent.mouse.inj (List.cons.inj events).1
  · intro same
    refine ⟨_, encoded, ?_⟩
    rw [feed_x10, same]

/-- The child sees an event where it happened exactly when both coordinates fit a byte. -/
theorem roundTrips_iff_fits (event : MouseEvent) : event.RoundTrips ↔ event.position.1 ≤ 255 ∧ event.position.2 ≤ 255 := by
  by_cases small : event.position.1.toNat + 33 < 65536 ∧ event.position.2.toNat + 33 < 65536
  · have col : addU16 event.position.1 33 = .ok (event.position.1 + 33) := if_pos small.1
    have row : addU16 event.position.2 33 = .ok (event.position.2 + 33) := if_pos small.2
    have encoded : event.toX10Bytes = .ok [esc, '['.toUInt8, 'M'.toUInt8, event.buttonCode + 32,
        (event.position.1 + 33).toUInt8, (event.position.2 + 33).toUInt8] := by
      rw [toX10Bytes, col, row]
      rfl
    rw [roundTrips_iff_of_encoded encoded, Prod.ext_iff, eq_comm, cut_eq_iff, @eq_comm _ event.position.2, cut_eq_iff]
  · refine iff_of_false ?_ ?_
    · intro h
      obtain ⟨bytes, encoded, _⟩ := h
      obtain ⟨col, first, later⟩ := bind_ok encoded
      obtain ⟨row, second, _⟩ := bind_ok later
      refine small ⟨?_, ?_⟩
      · unfold addU16 at first
        split at first
        · assumption
        · cases first
      · unfold addU16 at second
        split at second
        · assumption
        · cases second
    · intro fit
      simp only [UInt16.le_iff_toNat_le, UInt16.reduceToNat] at fit
      omega

/-- A click in column 300 is seen in column 44. -/
theorem wide_click_moves :
    ¬ ∀ calls parser events, serve calls = .ok (parser, events) → ∀ event, .mouse event ∈ events → event.RoundTrips := by
  intro all
  have clicked : serve [.feed (utf8 "\x1b[<0;300;5M".toList)] = .ok ({}, [.mouse (.down .left 299 4)]) := by decide
  have encoded : (down .left 299 4).toX10Bytes = .ok [esc, '['.toUInt8, 'M'.toUInt8, 32, 76, 37] := by decide
  have same := (roundTrips_iff_of_encoded encoded).mp (all _ _ _ clicked _ List.mem_cons_self)
  exact absurd same (by decide)

end MouseEvent

end Anycode.Term
