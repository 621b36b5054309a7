import Anycode.Data.Checked
import Anycode.Data.Utf8
import Anycode.Term.Event

/-!
# The terminal input parser

The state machine of `term_input/parser.rs`, byte by byte.
-/

namespace Anycode.Term
open Data

inductive State where
  | ground
  | escReceived
  | csiEntry
  | csiParam
  | ss3Pending
  | mouseX10 (count : UInt8)
  | sgrMouse
  | pasteBuf
  /-- `remaining` continuation bytes are still needed. -/
  | utf8 (remaining : UInt8)
  deriving DecidableEq

structure InputParser where
  state : State := .ground
  buf : List UInt8 := []
  out : List InputEvent := []
  deriving DecidableEq

def esc : UInt8 := 0x1b

def endMarker : List UInt8 := [esc, '['.toUInt8, '2'.toUInt8, '0'.toUInt8, '1'.toUInt8, '~'.toUInt8]

def asChar (byte : UInt8) : Char := Char.ofNat byte.toNat

/-! ### Parameters -/

def isAsciiDigit (byte : UInt8) : Bool := decide ('0'.toUInt8 ≤ byte ∧ byte ≤ '9'.toUInt8)

def isParamByte (byte : UInt8) : Bool := isAsciiDigit byte || byte == ';'.toUInt8

def saturatingMul (a b : UInt16) : UInt16 := .ofNat (min 65535 (a.toNat * b.toNat))

def saturatingAdd (a b : UInt16) : UInt16 := .ofNat (min 65535 (a.toNat + b.toNat))

def saturatingSub (a b : UInt16) : UInt16 := .ofNat (a.toNat - b.toNat)

def pushDigit (acc : UInt16) (byte : UInt8) : Except Panic UInt16 :=
  if isAsciiDigit byte then do
    let digit ← subU8 byte '0'.toUInt8
    pure (saturatingAdd (saturatingMul acc 10) digit.toUInt16)
  else pure acc

def parseParams (paramsStr : List UInt8) : Except Panic (List UInt16) :=
  (paramsStr.splitOn ';'.toUInt8).mapM fun part => part.foldlM pushDigit 0

def extractCsiParams (buf : List UInt8) : Except Panic (List UInt16) :=
  let start := if [esc, '['.toUInt8].isPrefixOf buf then 2 else 0
  let stop := buf.length - 1
  if start ≥ stop then .ok []
  else do
    let paramsStr ← slice buf start stop
    parseParams paramsStr

/-! ### Keys -/

/-- Bit 1 of the parameter less one is Alt; Shift and Ctrl stay in the raw bytes. -/
def wrapModifier (base : KeyKind) (modifier : UInt16) : KeyKind :=
  if saturatingSub modifier 1 &&& 2 ≠ 0 then .alt base else base

def withModifier (base : Option KeyKind) (params : List UInt16) : KeyKind :=
  match base, params with
  | none, _ => .unknown
  | some base, _ :: modifier :: _ => wrapModifier base modifier
  | some base, _ => base

/-- The keys that a final byte stands for behind `ESC [` and behind `ESC O`. -/
def cursorKey (finalByte : UInt8) : Option KeyKind :=
  if finalByte = 'A'.toUInt8 then some (.arrow .up)
  else if finalByte = 'B'.toUInt8 then some (.arrow .down)
  else if finalByte = 'C'.toUInt8 then some (.arrow .right)
  else if finalByte = 'D'.toUInt8 then some (.arrow .left)
  else if finalByte = 'H'.toUInt8 then some (.nav .home)
  else if finalByte = 'F'.toUInt8 then some (.nav .end_)
  else none

def classifyCsiFinal (finalByte : UInt8) (params : List UInt16) : KeyKind := withModifier (cursorKey finalByte) params

def tildeKey (code : UInt16) : Option KeyKind :=
  if code = 2 then some (.nav .insert)
  else if code = 3 then some (.nav .delete)
  else if code = 5 then some (.nav .pageUp)
  else if code = 6 then some (.nav .pageDown)
  else if code = 15 then some (.function 5)
  else if code = 17 then some (.function 6)
  else if code = 18 then some (.function 7)
  else if code = 19 then some (.function 8)
  else if code = 20 then some (.function 9)
  else if code = 21 then some (.function 10)
  else if code = 23 then some (.function 11)
  else if code = 24 then some (.function 12)
  else none

def classifyTildeKey (params : List UInt16) : KeyKind := withModifier (tildeKey (params.headD 0)) params

def ss3Key (byte : UInt8) : KeyKind :=
  match cursorKey byte with
  | some key => key
  | none =>
    if byte = 'P'.toUInt8 then .function 1
    else if byte = 'Q'.toUInt8 then .function 2
    else if byte = 'R'.toUInt8 then .function 3
    else if byte = 'S'.toUInt8 then .function 4
    else .unknown

/-- `b'a' + byte - 1` -/
def controlLetter (byte : UInt8) : Except Panic Char := do
  let sum ← addU8 'a'.toUInt8 byte
  let code ← subU8 sum 1
  pure (asChar code)

def utf8Key (raw : List UInt8) : KeyKind :=
  match fromUtf8 raw with
  | some text => .char (text.head?.getD replacementChar)
  | none => .unknown

/-! ### The mouse -/

def buttonOf (lowBits : UInt8) : MouseButton :=
  if lowBits = 1 then .middle else if lowBits = 2 then .right else .left

def decodeX10Mouse (code : UInt8) (col row : UInt16) : MouseEvent :=
  let lowBits := code &&& 0x03
  if code &&& 64 ≠ 0 then if lowBits = 0 then .scrollUp col row else .scrollDown col row
  else if code &&& 32 ≠ 0 then if lowBits = 3 then .move col row else .drag (buttonOf lowBits) col row
  else if lowBits = 3 then .up col row
  else .down (buttonOf lowBits) col row

/-- A release is told by the final byte, not by the low bits. -/
def decodeSgrMouse (code col row : UInt16) (isRelease : Bool) : MouseEvent :=
  let lowBits := (code &&& 0x03).toUInt8
  if code &&& 64 ≠ 0 then if lowBits = 0 then .scrollUp col row else .scrollDown col row
  else if isRelease then .up col row
  else if code &&& 32 ≠ 0 then if lowBits = 3 then .move col row else .drag (buttonOf lowBits) col row
  else .down (buttonOf lowBits) col row

def parseSgrMouse (buf : List UInt8) (isRelease : Bool) : Except Panic (Option MouseEvent) :=
  match buf.findIdx? fun byte => byte == '<'.toUInt8 with
  | none => .ok none
  | some ltPos => do
    let paramsEnd ← subUsize buf.length 1
    let paramsStr ← slice buf (ltPos + 1) paramsEnd
    let parts ← parseParams paramsStr
    match parts with
    | code :: col :: row :: _ =>
      pure (some (decodeSgrMouse code (saturatingSub col 1) (saturatingSub row 1) isRelease))
    | _ => pure none

/-! ### The handlers -/

namespace InputParser

def emit (p : InputParser) (event : InputEvent) : InputParser := { p with out := p.out ++ [event] }

def emitKey (p : InputParser) (raw : List UInt8) (kind : KeyKind) : InputParser := p.emit (.key ⟨raw, kind⟩)

def push (p : InputParser) (byte : UInt8) : InputParser := { p with buf := p.buf ++ [byte] }

def goto (p : InputParser) (state : State) : InputParser := { p with state := state }

/-- An event takes the place of the buffer. -/
def finish (p : InputParser) (event : InputEvent) : InputParser := { p.emit event with state := .ground, buf := [] }

def takeKey (p : InputParser) (kind : KeyKind) : InputParser := p.finish (.key ⟨p.buf, kind⟩)

def startUtf8 (p : InputParser) (byte remaining : UInt8) : InputParser :=
  { p with state := .utf8 remaining, buf := [byte] }

def ground (p : InputParser) (byte : UInt8) : Except Panic InputParser :=
  if byte = esc then .ok { p with state := .escReceived, buf := [esc] }
  else if byte = 0x0d then .ok (p.emitKey [byte] .enter)
  else if byte = 0x09 then .ok (p.emitKey [byte] .tab)
  else if byte = 0x7f then .ok (p.emitKey [byte] .backspace)
  else if 0x01 ≤ byte ∧ byte ≤ 0x1a then do
    let letter ← controlLetter byte
    pure (p.emitKey [byte] (.control letter))
  else if 0x20 ≤ byte ∧ byte ≤ 0x7e then .ok (p.emitKey [byte] (.char (asChar byte)))
  else if 0xc0 ≤ byte ∧ byte ≤ 0xdf then .ok (p.startUtf8 byte 1)
  else if 0xe0 ≤ byte ∧ byte ≤ 0xef then .ok (p.startUtf8 byte 2)
  else if 0xf0 ≤ byte ∧ byte ≤ 0xf7 then .ok (p.startUtf8 byte 3)
  else .ok (p.emitKey [byte] .unknown)

/-- A byte that does not continue the character is handled again, in the ground state. -/
def utf8Cont (p : InputParser) (byte remaining : UInt8) : Except Panic InputParser :=
  if byte &&& 0xC0 ≠ 0x80 then (p.takeKey .unknown).ground byte
  else do
    let p := p.push byte
    let newRemaining ← subU8 remaining 1
    if newRemaining > 0 then pure (p.goto (.utf8 newRemaining))
    else pure (p.takeKey (utf8Key p.buf))

def escReceived (p : InputParser) (byte : UInt8) : Except Panic InputParser :=
  if byte = '['.toUInt8 then .ok ((p.push byte).goto .csiEntry)
  else if byte = 'O'.toUInt8 then .ok ((p.push byte).goto .ss3Pending)
  else if byte = esc then .ok { p.emitKey [esc] .escape with buf := [esc] }
  else if byte = 0x7f then .ok ((p.push byte).takeKey (.alt .backspace))
  else if 0x01 ≤ byte ∧ byte ≤ 0x1a then do
    let letter ← controlLetter byte
    pure ((p.push byte).takeKey (.alt (.control letter)))
  else if 0x20 ≤ byte ∧ byte ≤ 0x7e then .ok ((p.push byte).takeKey (.alt (.char (asChar byte))))
  else .ok ((p.push byte).takeKey .unknown)

def csiEntry (p : InputParser) (byte : UInt8) : Except Panic InputParser :=
  if byte = 'M'.toUInt8 then .ok ((p.push byte).goto (.mouseX10 0))
  else if byte = '<'.toUInt8 then .ok ((p.push byte).goto .sgrMouse)
  else if (cursorKey byte).isSome then .ok ((p.push byte).takeKey (classifyCsiFinal byte []))
  else if isParamByte byte then .ok ((p.push byte).goto .csiParam)
  else .ok ((p.push byte).takeKey .unknown)

def csiParam (p : InputParser) (byte : UInt8) : Except Panic InputParser :=
  let p := p.push byte
  if isParamByte byte then .ok p
  else if byte = '~'.toUInt8 then do
    let params ← extractCsiParams p.buf
    if params.head? = some 200 then pure { p with state := .pasteBuf, buf := [] }
    else pure (p.takeKey (classifyTildeKey params))
  else if 0x40 ≤ byte ∧ byte ≤ 0x7e then do
    let params ← extractCsiParams p.buf
    pure (p.takeKey (classifyCsiFinal byte params))
  else .ok (p.takeKey .unknown)

def ss3Pending (p : InputParser) (byte : UInt8) : Except Panic InputParser :=
  .ok ((p.push byte).takeKey (ss3Key byte))

/-- The three bytes are unsigned, and wrap below their offsets. -/
def mouseX10 (p : InputParser) (byte count : UInt8) : Except Panic InputParser := do
  let p := p.push byte
  let newCount ← addU8 count 1
  if newCount < 3 then pure (p.goto (.mouseX10 newCount))
  else
    let btnByte ← indexAt p.buf (← subUsize p.buf.length 3)
    let colByte ← indexAt p.buf (← subUsize p.buf.length 2)
    let rowByte ← indexAt p.buf (← subUsize p.buf.length 1)
    pure (p.finish (.mouse (decodeX10Mouse (btnByte - 32) (colByte - 33).toUInt16 (rowByte - 33).toUInt16)))

def sgrMouse (p : InputParser) (byte : UInt8) : Except Panic InputParser :=
  let p := p.push byte
  if byte = 'M'.toUInt8 ∨ byte = 'm'.toUInt8 then do
    match ← parseSgrMouse p.buf (byte == 'm'.toUInt8) with
    | some event => pure (p.finish (.mouse event))
    | none => pure (p.takeKey .unknown)
  else if isParamByte byte then .ok p
  else .ok (p.takeKey .unknown)

def inPaste (p : InputParser) (byte : UInt8) : Except Panic InputParser :=
  let p := p.push byte
  if p.buf.length ≥ endMarker.length then do
    let stop ← subUsize p.buf.length endMarker.length
    if (← slice p.buf stop p.buf.length) = endMarker then
      let pasteBytes ← slice p.buf 0 stop
      pure (p.finish (.paste (fromUtf8Lossy pasteBytes)))
    else pure p
  else pure p

def step (p : InputParser) (byte : UInt8) : Except Panic InputParser :=
  match p.state with
  | .ground => p.ground byte
  | .escReceived => p.escReceived byte
  | .csiEntry => p.csiEntry byte
  | .csiParam => p.csiParam byte
  | .ss3Pending => p.ss3Pending byte
  | .mouseX10 count => p.mouseX10 byte count
  | .sgrMouse => p.sgrMouse byte
  | .pasteBuf => p.inPaste byte
  | .utf8 remaining => p.utf8Cont byte remaining

/-! ### The calls -/

/-- The events so far are handed over. -/
def drain (p : InputParser) : InputParser × List InputEvent := ({ p with out := [] }, p.out)

def feed (p : InputParser) (data : List UInt8) : Except Panic (InputParser × List InputEvent) := do
  let p ← data.foldlM step p
  pure p.drain

/-- The timeout of an escape sequence; a paste waits for its end. -/
def flush (p : InputParser) : InputParser × List InputEvent :=
  match p.state with
  | .escReceived => { p.emitKey [esc] .escape with state := .ground, buf := [] }.drain
  | .csiEntry | .csiParam | .ss3Pending | .sgrMouse | .mouseX10 _ | .utf8 _ => (p.takeKey .unknown).drain
  | .pasteBuf | .ground => p.drain

end InputParser

end Anycode.Term
