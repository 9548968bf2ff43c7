import Gritty.Protocol.Frame

/-! The frame decoder: header, length checks, and the payload of each kind of frame. -/

namespace Gritty

/-- What a decoder reports: a message of its own, or the standard library's UTF-8 error. -/
inductive DecodeError where
  | invalidData (message : String)
  | invalidUtf8
  deriving DecidableEq

/-- A decoding step. -/
abbrev Decode (α : Type) := Exec DecodeError α

namespace Decode

open Exec

/-- Refuse a payload shorter than the fixed fields of its frame. -/
def expectMinLen (payload : Bytes) (min : Nat) (name : String) : Decode Unit :=
  if payload.length < min then
    fail (.invalidData s!"{name} frame must be at least {min} bytes")
  else .ok ()

/-- Refuse a payload that ends before the position needed next. -/
def guardLen (need : Nat) (payload : Bytes) (message : String) : Decode Unit :=
  if need > payload.length then fail (.invalidData message) else .ok ()

/-- The string a byte sequence spells; invalid UTF-8 is an error. -/
def stringFrom (bytes : Bytes) : Decode String :=
  match fromUtf8 bytes with
  | some text => .ok text
  | none => fail .invalidUtf8

def readU16 (payload : Bytes) (offset : Nat) : Decode UInt16 := do
  return UInt16.ofNat (beValue (← indexes payload offset 2))

def readU32 (payload : Bytes) (offset : Nat) : Decode UInt32 := do
  return UInt32.ofNat (beValue (← indexes payload offset 4))

def readI32 (payload : Bytes) (offset : Nat) : Decode Int32 := do
  return (UInt32.ofNat (beValue (← indexes payload offset 4))).toInt32

def readU64 (payload : Bytes) (offset : Nat) : Decode UInt64 := do
  return UInt64.ofNat (beValue (← indexes payload offset 8))

/-- Reader of fixed fields that tracks its own offset. -/
structure PayloadReader where
  data : Bytes
  off : Nat

namespace PayloadReader

def new (data : Bytes) : PayloadReader := { data, off := 0 }

def u16 (reader : PayloadReader) : Decode (UInt16 × PayloadReader) := do
  let value ← readU16 reader.data reader.off
  return (value, { reader with off := ← addUsize reader.off 2 })

def u32 (reader : PayloadReader) : Decode (UInt32 × PayloadReader) := do
  let value ← readU32 reader.data reader.off
  return (value, { reader with off := ← addUsize reader.off 4 })

def i32 (reader : PayloadReader) : Decode (Int32 × PayloadReader) := do
  let value ← readI32 reader.data reader.off
  return (value, { reader with off := ← addUsize reader.off 4 })

def u64 (reader : PayloadReader) : Decode (UInt64 × PayloadReader) := do
  let value ← readU64 reader.data reader.off
  return (value, { reader with off := ← addUsize reader.off 8 })

end PayloadReader

/--
A string behind a 16-bit length, and the offset after it.

The payload must still hold the bytes the caller reads next without another check.
-/
def readStr (payload : Bytes) (off slack : Nat) (truncated : String) : Decode (String × Nat) := do
  let len := (← readU16 payload off).toNat
  let off ← addUsize off 2
  guardLen (← addUsize (← addUsize off len) slack) payload truncated
  let text ← stringFrom (← slice payload off (← addUsize off len))
  return (text, ← addUsize off len)

/-- A 64-bit number copied out of its eight-byte slice. -/
def sliceU64 (payload : Bytes) (off : Nat) : Decode UInt64 := do
  return UInt64.ofNat (beValue (← slice payload off (← addUsize off 8)))

/-- A frame whose only field is a 32-bit number. -/
def decodeU32 (payload : Bytes) (name : String) (build : UInt32 → Frame) : Decode Frame := do
  expectMinLen payload 4 name
  let (value, _) ← (PayloadReader.new payload).u32
  return build value

/-- A frame made of a channel id and the bytes after it. -/
def decodePrefixBlob (payload : Bytes) (name : String) (build : UInt32 → Bytes → Frame) :
    Decode Frame := do
  expectMinLen payload 4 name
  let (channelId, reader) ← (PayloadReader.new payload).u32
  return build channelId (← slice payload reader.off payload.length)

/-! ### The environment frame -/

/-- One turn of the environment loop, over the offset and the variables read so far. -/
def envEntry (payload : Bytes) (state : Nat × List (String × String)) :
    Decode (Nat × List (String × String)) := do
  let (off, vars) := state
  guardLen (← addUsize off 2) payload "env frame truncated"
  let (key, off) ← readStr payload off 2 "env frame truncated"
  let (value, off) ← readStr payload off 0 "env frame truncated"
  return (off, vars ++ [(key, value)])

def decodeEnv (payload : Bytes) : Decode Frame := do
  if payload.length < 4 then fail (.invalidData "env frame too short")
  else
    let count := (← readU32 payload 0).toNat
    let (_, vars) ← repeatM count (envEntry payload) (4, [])
    return .env vars

/-! ### The session info frame -/

/-- A string field of a session entry. -/
def readEntryStr (entry : Bytes) (eoff : Nat) : Decode (String × Nat) := do
  guardLen (← addUsize eoff 2) entry "session entry truncated"
  readStr entry eoff 0 "session entry truncated"

/-- A trailing flag that older servers do not send. -/
def trailingFlag (entry : Bytes) (eoff : Nat) : Decode (Bool × Nat) :=
  if eoff < entry.length then do
    let byte ← index entry eoff
    return (byte != 0, ← addUsize eoff 1)
  else .ok (false, eoff)

/-- A trailing 64-bit number that older servers do not send. -/
def trailingU64 (entry : Bytes) (eoff : Nat) : Decode (UInt64 × Nat) := do
  if (← addUsize eoff 8) ≤ entry.length then
    let value ← readU64 entry eoff
    return (value, ← addUsize eoff 8)
  else return (0, eoff)

/-- The fields of one session entry. -/
def sessionEntry (entry : Bytes) : Decode SessionEntry := do
  if entry.length < 4 then fail (.invalidData "session entry too short")
  else
    let id ← readU32 entry 0
    let eoff ← addUsize 0 4
    let (name, eoff) ← readEntryStr entry eoff
    let (ptyPath, eoff) ← readEntryStr entry eoff
    guardLen (← addUsize eoff 21) entry "session entry truncated"
    let shellPid ← readU32 entry eoff
    let eoff ← addUsize eoff 4
    let createdAt ← readU64 entry eoff
    let eoff ← addUsize eoff 8
    let attached := (← index entry eoff) != 0
    let eoff ← addUsize eoff 1
    let lastHeartbeat ← readU64 entry eoff
    let eoff ← addUsize eoff 8
    let (foregroundCmd, eoff) ← readEntryStr entry eoff
    let (cwd, eoff) ← readEntryStr entry eoff
    let (clientName, eoff) ← readEntryStr entry eoff
    let (agentForwardingActive, eoff) ← trailingFlag entry eoff
    let (isLastAttached, eoff) ← trailingFlag entry eoff
    let (lastActivity, eoff) ← trailingU64 entry eoff
    let (lingerSecs, _) ← trailingU64 entry eoff
    return { id, name, ptyPath, shellPid, createdAt, attached, lastHeartbeat, foregroundCmd, cwd,
             clientName, agentForwardingActive, isLastAttached, lastActivity, lingerSecs }

/-- One turn of the session loop, over the offset and the entries read so far. -/
def sessionInfoEntry (payload : Bytes) (state : Nat × List SessionEntry) :
    Decode (Nat × List SessionEntry) := do
  let (off, sessions) := state
  guardLen (← addUsize off 4) payload "session info truncated"
  let entryLen := (← readU32 payload off).toNat
  let off ← addUsize off 4
  guardLen (← addUsize off entryLen) payload "session info truncated"
  let entryEnd ← addUsize off entryLen
  let entry ← sessionEntry (← slice payload off entryEnd)
  return (entryEnd, sessions ++ [entry])

def decodeSessionInfo (payload : Bytes) : Decode Frame := do
  if payload.length < 4 then fail (.invalidData "session info frame too short")
  else
    let count := (← readU32 payload 0).toNat
    let (_, sessions) ← repeatM count (sessionInfoEntry payload) (4, [])
    return .sessionInfo sessions

/-! ### Structured frames -/

/-- The client name of a new session, absent from older clients. -/
def newSessionClientName (payload : Bytes) (off : Nat) : Decode (String × Nat) := do
  if (← addUsize off 2) ≤ payload.length then readStr payload off 0 "new session frame truncated"
  else return ("", off)

/-- A 64-bit number if the payload still holds one, else zero. -/
def u64OrZero (payload : Bytes) (off : Nat) (read : Bytes → Nat → Decode UInt64) :
    Decode UInt64 := do
  if (← addUsize off 8) ≤ payload.length then read payload off else return 0

/-- A 16-bit number if the payload still holds one, else zero. -/
def u16OrZero (payload : Bytes) (off : Nat) : Decode UInt16 := do
  if (← addUsize off 2) ≤ payload.length then readU16 payload off else return 0

/-- A flag byte if the payload still holds one, else unset. -/
def flagOrUnset (payload : Bytes) (off : Nat) : Bool := payload[off]?.getD 0 != 0

def decodeNewSession (payload : Bytes) : Decode Frame := do
  expectMinLen payload 12 "new session"
  let (name, off) ← readStr payload 0 2 "new session frame truncated"
  let (command, off) ← readStr payload off 2 "new session frame truncated"
  let (cwd, off) ← readStr payload off 4 "new session frame truncated"
  let cols ← readU16 payload off
  let off ← addUsize off 2
  let rows ← readU16 payload off
  let off ← addUsize off 2
  let (clientName, off) ← newSessionClientName payload off
  let lingerSecs ← u64OrZero payload off readU64
  return .newSession name command cwd cols rows clientName lingerSecs

def decodeAttach (payload : Bytes) : Decode Frame := do
  expectMinLen payload 5 "attach"
  let (session, off) ← readStr payload 0 2 "attach frame truncated"
  let (clientName, off) ← readStr payload off 1 "attach frame truncated"
  let force := (← index payload off) != 0
  let off ← addUsize off 1
  let noReplay := flagOrUnset payload off
  let off ← addUsize off 1
  -- Each later field has a fixed place, whether or not the client sent it.
  let cols ← u16OrZero payload off
  let off ← addUsize off 2
  let rows ← u16OrZero payload off
  let off ← addUsize off 2
  let attachToken ← u64OrZero payload off sliceU64
  let off ← addUsize off 8
  let renderedOffset ← u64OrZero payload off sliceU64
  let off ← addUsize off 8
  let lineDirty := flagOrUnset payload off
  return .attach session clientName force noReplay cols rows attachToken renderedOffset lineDirty

def decodeAttachAck (payload : Bytes) : Decode Frame := do
  expectMinLen payload 12 "attach_ack"
  let token := UInt64.ofNat (beValue (← slice payload 0 8))
  let sessionId := UInt32.ofNat (beValue (← slice payload 8 12))
  return .attachAck token sessionId

def decodeRenameSession (payload : Bytes) : Decode Frame := do
  if payload.length < 2 then fail (.invalidData "rename session frame too short")
  else
    let sessionLen := (← readU16 payload 0).toNat
    let past ← addUsize 2 sessionLen
    guardLen past payload "rename session frame truncated"
    let session ← stringFrom (← slice payload 2 past)
    let newName ← stringFrom (← slice payload past payload.length)
    return .renameSession session newName

def decodeSetLinger (payload : Bytes) : Decode Frame := do
  expectMinLen payload 10 "set linger"
  let sessionLen := (← readU16 payload 0).toNat
  let past ← addUsize 2 sessionLen
  guardLen (← addUsize past 8) payload "set linger frame truncated"
  let session ← stringFrom (← slice payload 2 past)
  let lingerSecs ← readU64 payload past
  return .setLinger session lingerSecs

def decodeError (payload : Bytes) : Decode Frame := do
  expectMinLen payload 2 "error"
  let code := ErrorCode.fromU16 (← readU16 payload 0)
  let message ← stringFrom (← slice payload 2 payload.length)
  return .error code message

/-! ### Diagnostics -/

/-- Is this a UTF-8 continuation byte? -/
def isContinuation (byte : UInt8) : Bool := 0x80 ≤ byte && byte ≤ 0xBF

/-- May the second byte follow this lead byte of a three- or four-byte character? -/
def secondAllowed (lead second : UInt8) : Bool :=
  if lead = 0xE0 then 0xA0 ≤ second && second ≤ 0xBF
  else if lead = 0xED then 0x80 ≤ second && second ≤ 0x9F
  else if lead = 0xF0 then 0x90 ≤ second && second ≤ 0xBF
  else if lead = 0xF4 then 0x80 ≤ second && second ≤ 0x8F
  else isContinuation second

/-- One character of a lossy reading, and the bytes left after it. -/
def lossyChar (lead : UInt8) (rest : Bytes) : Char × Bytes :=
  let replacement := '\uFFFD'
  let low (byte : UInt8) : Nat := byte.toNat % 64
  if lead < 0x80 then (Char.ofNat lead.toNat, rest)
  else if 0xC2 ≤ lead ∧ lead ≤ 0xDF then
    match rest with
    | second :: rest =>
      if isContinuation second then
        (Char.ofNat (lead.toNat % 32 * 64 + low second), rest)
      else (replacement, second :: rest)
    | [] => (replacement, [])
  else if 0xE0 ≤ lead ∧ lead ≤ 0xEF then
    match rest with
    | second :: rest =>
      if secondAllowed lead second then
        match rest with
        | third :: rest =>
          if isContinuation third then
            (Char.ofNat ((lead.toNat % 16 * 64 + low second) * 64 + low third), rest)
          else (replacement, third :: rest)
        | [] => (replacement, [])
      else (replacement, second :: rest)
    | [] => (replacement, [])
  else if 0xF0 ≤ lead ∧ lead ≤ 0xF4 then
    match rest with
    | second :: rest =>
      if secondAllowed lead second then
        match rest with
        | third :: rest =>
          if isContinuation third then
            match rest with
            | fourth :: rest =>
              if isContinuation fourth then
                (Char.ofNat (((lead.toNat % 8 * 64 + low second) * 64 + low third) * 64
                  + low fourth), rest)
              else (replacement, fourth :: rest)
            | [] => (replacement, [])
          else (replacement, third :: rest)
        | [] => (replacement, [])
      else (replacement, second :: rest)
    | [] => (replacement, [])
  else (replacement, rest)

/-- The characters of a lossy reading: each maximal invalid part becomes one replacement. -/
def lossyChars : Nat → Bytes → List Char
  | 0, _ => []
  | _ + 1, [] => []
  | fuel + 1, lead :: rest =>
    let (char, rest) := lossyChar lead rest
    char :: lossyChars fuel rest

/-- The text of a byte sequence, with invalid parts replaced. -/
def fromUtf8Lossy (bytes : Bytes) : String := String.ofList (lossyChars bytes.length bytes)

/-- The payload of a frame, by its kind. -/
def decodePayload (kind : FrameType) (payload : Bytes) : Decode Frame :=
  match kind with
  | .data => .ok (.data payload)
  | .notice => .ok (.notice payload)
  | .resume => do
    expectMinLen payload 8 "resume"
    let (offset, _) ← (PayloadReader.new payload).u64
    return .resume offset
  | .clipboardSet => .ok (.clipboardSet payload)
  | .clipboardData => .ok (.clipboardData payload)
  | .resize => do
    expectMinLen payload 4 "resize"
    let (cols, reader) ← (PayloadReader.new payload).u16
    let (rows, _) ← reader.u16
    return .resize cols rows
  | .exit => do
    expectMinLen payload 4 "exit"
    let (code, _) ← (PayloadReader.new payload).i32
    return .exit code
  | .hello => do
    expectMinLen payload 6 "hello"
    let (version, reader) ← (PayloadReader.new payload).u16
    let (capabilities, reader) ← reader.u32
    if (← subUsize payload.length reader.off) ≥ 8 then
      let (deviceId, _) ← reader.u64
      return .hello version capabilities deviceId
    else return .hello version capabilities 0
  | .helloAck => do
    expectMinLen payload 14 "hello ack"
    let (version, reader) ← (PayloadReader.new payload).u16
    let (capabilities, reader) ← reader.u32
    let (serverId, _) ← reader.u64
    return .helloAck version capabilities serverId
  | .agentOpen => decodeU32 payload "agent open" .agentOpen
  | .agentClose => decodeU32 payload "agent close" .agentClose
  | .tunnelListen => do
    expectMinLen payload 2 "tunnel listen"
    let (port, _) ← (PayloadReader.new payload).u16
    return .tunnelListen port
  | .tunnelOpen => decodeU32 payload "tunnel open" .tunnelOpen
  | .tunnelClose => decodeU32 payload "tunnel close" .tunnelClose
  | .sendOffer => do
    expectMinLen payload 12 "send offer"
    let (fileCount, reader) ← (PayloadReader.new payload).u32
    let (totalBytes, _) ← reader.u64
    return .sendOffer fileCount totalBytes
  | .portForwardListen => do
    expectMinLen payload 8 "port forward listen"
    let (forwardId, reader) ← (PayloadReader.new payload).u32
    let (listenPort, reader) ← reader.u16
    let (targetPort, _) ← reader.u16
    return .portForwardListen forwardId listenPort targetPort
  | .portForwardReady => decodeU32 payload "port forward ready" .portForwardReady
  | .portForwardOpen => do
    expectMinLen payload 10 "port forward open"
    let (forwardId, reader) ← (PayloadReader.new payload).u32
    let (channelId, reader) ← reader.u32
    let (targetPort, _) ← reader.u16
    return .portForwardOpen forwardId channelId targetPort
  | .portForwardClose => decodeU32 payload "port forward close" .portForwardClose
  | .portForwardStop => decodeU32 payload "port forward stop" .portForwardStop
  | .portForwardRequest => do
    expectMinLen payload 9 "port forward request"
    let forwardId ← readU32 payload 0
    let direction ← index payload 4
    let listenPort ← readU16 payload 5
    let targetPort ← readU16 payload 7
    return .portForwardRequest forwardId direction listenPort targetPort
  | .sessionCreated => decodeU32 payload "session created" .sessionCreated
  | .agentData => decodePrefixBlob payload "agent data" .agentData
  | .tunnelData => decodePrefixBlob payload "tunnel data" .tunnelData
  | .portForwardData => decodePrefixBlob payload "port forward data" .portForwardData
  | .detached => .ok .detached
  | .serverShutdown => .ok .serverShutdown
  | .ping => .ok .ping
  | .pong => .ok .pong
  | .agentForward => .ok .agentForward
  | .openForward => .ok .openForward
  | .clipboardGet => .ok .clipboardGet
  | .sendDone => .ok .sendDone
  | .listSessions => .ok .listSessions
  | .killServer => .ok .killServer
  | .ok => .ok .ok
  | .openUrl => return .openUrl (← stringFrom payload)
  | .sendCancel => return .sendCancel (← stringFrom payload)
  | .tail => return .tail (← stringFrom payload)
  | .killSession => return .killSession (← stringFrom payload)
  | .sendFile => return .sendFile (← stringFrom payload)
  | .newSession => decodeNewSession payload
  | .attach => decodeAttach payload
  | .attachAck => decodeAttachAck payload
  | .renameSession => decodeRenameSession payload
  | .setLinger => decodeSetLinger payload
  | .error => decodeError payload
  | .env => decodeEnv payload
  | .sessionInfo => decodeSessionInfo payload
  | .diagRequest => .ok .diagRequest
  | .diagResponse =>
    match fromUtf8 payload with
    | some text => .ok (.diagResponse text)
    | none => .ok (.diagResponse (fromUtf8Lossy payload))

/-- The type byte and the announced payload length. -/
def header (src : Bytes) : Decode (UInt8 × Nat) := do
  let frameType ← index src 0
  let length ← indexes src 1 4
  return (frameType, beValue length)

/-- Two lowercase hexadecimal digits. -/
def hexByte (byte : UInt8) : String :=
  String.ofList [Nat.digitChar (byte.toNat / 16), Nat.digitChar (byte.toNat % 16)]

/-- The frame a type byte and payload stand for. -/
def decodeFrame (frameType : UInt8) (payload : Bytes) : Decode Frame :=
  match FrameType.ofCode frameType with
  | some kind => decodePayload kind payload
  | none => fail (.invalidData s!"unknown frame type: 0x{hexByte frameType}")

/-- Drop bytes from the front of the buffer; more than it holds panics. -/
def advance (src : Bytes) (count : Nat) : Decode Bytes :=
  if count ≤ src.length then .ok (src.drop count) else panicked

/-- Split bytes off the front of the buffer; more than it holds panics. -/
def splitTo (src : Bytes) (count : Nat) : Decode (Bytes × Bytes) :=
  if count ≤ src.length then .ok (src.take count, src.drop count) else panicked

/-- Take the payload off the buffer, and decode it. -/
def consume (src : Bytes) (frameType : UInt8) (payloadLen : Nat) :
    Decode (Option Frame) × Bytes :=
  match (do splitTo (← advance src headerLen) payloadLen : Decode (Bytes × Bytes)) with
  | .ok (payload, rest) => (some <$> decodeFrame frameType payload, rest)
  | .error fault => (.error fault, src)

end Decode

open Exec Decode in
/-- One call of the decoder: its result, and the buffer it leaves behind. -/
def FrameCodec.decode (src : Bytes) : Decode (Option Frame) × Bytes :=
  if src.length < headerLen then (.ok none, src)
  else
    match header src with
    | .error fault => (.error fault, src)
    | .ok (frameType, payloadLen) =>
      if payloadLen > maxFrameSize then
        (fail (.invalidData
          s!"frame payload too large: {payloadLen} bytes (max {maxFrameSize})"), src)
      else
        match (addUsize headerLen payloadLen : Decode Nat) with
        | .error fault => (.error fault, src)
        | .ok frameLen =>
          if src.length < frameLen then
            -- The missing length is computed to reserve space for it.
            match (subUsize frameLen src.length : Decode Nat) with
            | .error fault => (.error fault, src)
            | .ok _ => (.ok none, src)
          else consume src frameType payloadLen

end Gritty
