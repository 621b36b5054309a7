import Mathlib.Data.UInt

/-!
# Terminal input events

The events of `term_input/event.rs`.
-/

namespace Anycode.Term

inductive Direction where
  | up
  | down
  | right
  | left
  deriving DecidableEq

inductive NavKey where
  | home
  | end_
  | insert
  | delete
  | pageUp
  | pageDown
  deriving DecidableEq

inductive KeyKind where
  | char (c : Char)
  /-- Stores the lowercase letter. -/
  | control (letter : Char)
  | escape
  | enter
  | tab
  | backspace
  | arrow (direction : Direction)
  | nav (key : NavKey)
  | function (n : UInt8)
  | alt (key : KeyKind)
  | unknown
  deriving DecidableEq

/-- `raw` is what the terminal sent. -/
structure KeyInput where
  raw : List UInt8
  kind : KeyKind
  deriving DecidableEq

inductive MouseButton where
  | left
  | middle
  | right
  deriving DecidableEq

inductive MouseEvent where
  | down (button : MouseButton) (col row : UInt16)
  | up (col row : UInt16)
  | drag (button : MouseButton) (col row : UInt16)
  | move (col row : UInt16)
  | scrollUp (col row : UInt16)
  | scrollDown (col row : UInt16)
  deriving DecidableEq

inductive InputEvent where
  | key (input : KeyInput)
  | mouse (event : MouseEvent)
  | paste (text : List Char)
  deriving DecidableEq

end Anycode.Term
