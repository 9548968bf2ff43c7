import Gritty.Protocol.Frame

/-! The last lines of a session's main screen, as context for a new viewer. -/

namespace Gritty

/-- Lines kept. -/
def defaultMaxLines : Nat := 50

/-- A longer line is cut. -/
def maxLineBytes : Nat := 4096

/-- Complete lines, oldest first, and the line in progress. -/
structure ScrollbackBuffer where
  lines : List Bytes
  partialLine : Bytes
  maxLines : Nat
  deriving DecidableEq

namespace ScrollbackBuffer

def new : ScrollbackBuffer := { lines := [], partialLine := [], maxLines := defaultMaxLines }

/-- The line in progress is complete. The oldest line goes once there are too many. -/
def flushPartial (buffer : ScrollbackBuffer) : ScrollbackBuffer :=
  let lines := buffer.lines ++ [buffer.partialLine]
  { buffer with
    lines := if buffer.maxLines < lines.length then lines.tail else lines
    partialLine := [] }

/-- One byte of output. -/
def pushByte (buffer : ScrollbackBuffer) (byte : UInt8) : ScrollbackBuffer :=
  let buffer := { buffer with partialLine := buffer.partialLine ++ [byte] }
  if byte = 0x0a ∨ maxLineBytes ≤ buffer.partialLine.length then buffer.flushPartial else buffer

/-- A chunk of output. -/
def push (buffer : ScrollbackBuffer) (data : Bytes) : ScrollbackBuffer := data.foldl pushByte buffer

/-- The complete lines, then the line in progress if there is one. -/
def linesAndPartial (buffer : ScrollbackBuffer) : List Bytes :=
  if buffer.partialLine.isEmpty then buffer.lines else buffer.lines ++ [buffer.partialLine]

/-- Forget the complete lines. -/
def clear (buffer : ScrollbackBuffer) : ScrollbackBuffer := { buffer with lines := [] }

end ScrollbackBuffer

end Gritty
