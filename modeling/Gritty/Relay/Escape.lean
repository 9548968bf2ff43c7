import Gritty.Protocol.Frame

/-! The escapes a user types at the beginning of a line to control the client. -/

namespace Gritty

/-- The byte that starts an escape. -/
def tilde : UInt8 := 0x7e

inductive EscapeState where
  | normal
  | afterNewline
  /-- A tilde was read and is held back until the next byte tells what it means. -/
  | afterTilde
  deriving DecidableEq

inductive EscapeAction where
  /-- Input for the session. -/
  | data (bytes : Bytes)
  | detach
  | reconnect
  | pin
  | suspend
  | status
  | help
  deriving DecidableEq

/-- The relay ends with this action. -/
def EscapeAction.stops : EscapeAction → Bool
  | .detach | .reconnect => true
  | _ => false

/-- How far one read is processed. -/
structure EscapeReading where
  state : EscapeState
  actions : List EscapeAction
  /-- Input that is to go out before the next action. -/
  dataBuf : Bytes

namespace EscapeReading

/-- Input read so far goes out before the action that follows. -/
def flushPending (reading : EscapeReading) : EscapeReading :=
  if reading.dataBuf.isEmpty then reading
  else { reading with actions := reading.actions ++ [.data reading.dataBuf], dataBuf := [] }

/-- More input for the session. -/
def keep (reading : EscapeReading) (bytes : Bytes) (state : EscapeState) : EscapeReading :=
  { reading with state, dataBuf := reading.dataBuf ++ bytes }

/-- An action of the client itself. -/
def act (reading : EscapeReading) (action : EscapeAction) (state : EscapeState) : EscapeReading :=
  let flushed := reading.flushPending
  { flushed with state, actions := flushed.actions ++ [action] }

/-- One byte of input, and whether the rest of the read is given up. -/
def processByte (reading : EscapeReading) (byte : UInt8) : EscapeReading × Bool :=
  match reading.state with
  | .normal =>
    (reading.keep [byte] (if byte = 0x0a ∨ byte = 0x0d then .afterNewline else .normal), false)
  | .afterNewline =>
    if byte = tilde then ({ reading.flushPending with state := .afterTilde }, false)
    else if byte = 0x0a ∨ byte = 0x0d then (reading.keep [byte] .afterNewline, false)
    else (reading.keep [byte] .normal, false)
  | .afterTilde =>
    if byte = 0x2e then (reading.act .detach .afterTilde, true)
    else if byte = 0x52 then (reading.act .reconnect .normal, true)
    else if byte = 0x4b then (reading.act .pin .normal, false)
    else if byte = 0x1a then (reading.act .suspend .normal, false)
    else if byte = 0x23 then (reading.act .status .normal, false)
    else if byte = 0x3f then (reading.act .help .normal, false)
    else if byte = tilde then (reading.keep [tilde] .normal, false)
    else if byte = 0x0a ∨ byte = 0x0d then (reading.keep [tilde, byte] .afterNewline, false)
    else (reading.keep [tilde, byte] .normal, false)

/-- The rest of a read. -/
def processBytes (reading : EscapeReading) : Bytes → EscapeReading
  | [] => reading.flushPending
  | byte :: later =>
    let (next, stopped) := reading.processByte byte
    if stopped then next else next.processBytes later

end EscapeReading

/-- The part of the client that finds escapes in the user's input. -/
structure EscapeProcessor where
  state : EscapeState
  deriving DecidableEq

namespace EscapeProcessor

def new : EscapeProcessor := { state := .afterNewline }

/-- One read of the user's input. -/
def process (processor : EscapeProcessor) (input : Bytes) : EscapeProcessor × List EscapeAction :=
  let reading :=
    EscapeReading.processBytes { state := processor.state, actions := [], dataBuf := [] } input
  ({ state := reading.state }, reading.actions)

/-- Read after read, until an action ends the relay. -/
def processReads (processor : EscapeProcessor) : List Bytes → EscapeProcessor × List EscapeAction
  | [] => (processor, [])
  | read :: later =>
    let (next, actions) := processor.process read
    if actions.any EscapeAction.stops then (next, actions)
    else
      let (last, rest) := next.processReads later
      (last, actions ++ rest)

end EscapeProcessor

/-- An escape and a line of input, cut in the middle of the second escape. -/
example : (EscapeProcessor.new.processReads [[0x7e, 0x4b, 0x61, 0x0a, 0x7e], [0x2e, 0x62]]).2 =
    [.pin, .data [0x61, 0x0a], .detach] := by decide

end Gritty
