import Gritty.Protocol.Frame

/-! The frame encoder: a type byte, a length, and the payload fields in order. -/

namespace Gritty

/-- A single byte. -/
def putU8 (value : UInt8) : Bytes := [value]

/-- A 16-bit number, most significant byte first. -/
def putU16 (value : UInt16) : Bytes := beBytes 2 value.toNat

/-- A 32-bit number, most significant byte first. -/
def putU32 (value : UInt32) : Bytes := beBytes 4 value.toNat

/-- A signed 32-bit number in two's complement, most significant byte first. -/
def putI32 (value : Int32) : Bytes := putU32 value.toUInt32

/-- A 64-bit number, most significant byte first. -/
def putU64 (value : UInt64) : Bytes := beBytes 8 value.toNat

/-- A flag byte. -/
def putBool (flag : Bool) : Bytes := putU8 (if flag then 1 else 0)

/-- Type byte and length field. The length is cast to 32 bits, so a larger one loses its high part. -/
def putHeader (kind : FrameType) (payloadLen : UInt32) : Bytes :=
  putU8 kind.code ++ putU32 payloadLen

/-- A string behind its length, which is cast to 16 bits. -/
def putStr (text : String) : Bytes :=
  putU16 (UInt16.ofNat (utf8 text).length) ++ utf8 text

/-- A frame with no payload. -/
def encodeEmpty (kind : FrameType) : Bytes := putHeader kind 0

/-- A frame whose payload is a string. -/
def encodeStr (kind : FrameType) (text : String) : Bytes :=
  putHeader kind (UInt32.ofNat (utf8 text).length) ++ utf8 text

/-- A frame whose payload is a byte string. -/
def encodeBlob (kind : FrameType) (data : Bytes) : Bytes :=
  putHeader kind (UInt32.ofNat data.length) ++ data

/-- A frame whose payload is a channel id followed by a byte string. -/
def encodePrefixBlob (kind : FrameType) (channel : UInt32) (data : Bytes) : Bytes :=
  -- The sum is taken in 32 bits, after the cast.
  putHeader kind (4 + UInt32.ofNat data.length) ++ putU32 channel ++ data

/-- A frame made of fixed-width fields, whose length is the sum of their widths. -/
def encodeFields (kind : FrameType) (fields : List Bytes) : Bytes :=
  putHeader kind (UInt32.ofNat (fields.map List.length).sum) ++ fields.flatten

/-- The environment frame. -/
def encodeEnv (vars : List (String × String)) : Bytes :=
  let bodyLen := 4 + (vars.map fun (key, value) =>
    2 + (utf8 key).length + 2 + (utf8 value).length).sum
  putHeader .env (UInt32.ofNat bodyLen) ++ putU32 (UInt32.ofNat vars.length)
    ++ vars.flatMap fun (key, value) => putStr key ++ putStr value

/-- Encoded length of one session entry, without its own length field. -/
def entryEncodedLen (entry : SessionEntry) : Nat :=
  4
    + 2 + (utf8 entry.name).length
    + 2 + (utf8 entry.ptyPath).length
    + 4
    + 8
    + 1
    + 8
    + 2 + (utf8 entry.foregroundCmd).length
    + 2 + (utf8 entry.cwd).length
    + 2 + (utf8 entry.clientName).length
    + 1
    + 1
    + 8
    + 8

/-- The fields of one session entry, behind the entry's length. -/
def encodeSessionEntry (entry : SessionEntry) : Bytes :=
  putU32 (UInt32.ofNat (entryEncodedLen entry))
    ++ (putU32 entry.id
      ++ putStr entry.name
      ++ putStr entry.ptyPath
      ++ putU32 entry.shellPid
      ++ putU64 entry.createdAt
      ++ putBool entry.attached
      ++ putU64 entry.lastHeartbeat
      ++ putStr entry.foregroundCmd
      ++ putStr entry.cwd
      ++ putStr entry.clientName
      ++ putBool entry.agentForwardingActive
      ++ putBool entry.isLastAttached
      ++ putU64 entry.lastActivity
      ++ putU64 entry.lingerSecs)

/-- The session info frame. -/
def encodeSessionInfo (sessions : List SessionEntry) : Bytes :=
  let bodyLen := 4 + (sessions.map fun entry => 4 + entryEncodedLen entry).sum
  putHeader .sessionInfo (UInt32.ofNat bodyLen) ++ putU32 (UInt32.ofNat sessions.length)
    ++ sessions.flatMap encodeSessionEntry

/-- The bytes one frame is written as. -/
def encodeFrame : Frame → Bytes
  | .data bytes => encodeBlob .data bytes
  | .notice bytes => encodeBlob .notice bytes
  | .resume offset => putHeader .resume 8 ++ putU64 offset
  | .clipboardSet data => encodeBlob .clipboardSet data
  | .clipboardData data => encodeBlob .clipboardData data
  | .resize cols rows => encodeFields .resize [putU16 cols, putU16 rows]
  | .exit code => encodeFields .exit [putI32 code]
  | .hello version capabilities deviceId =>
    encodeFields .hello [putU16 version, putU32 capabilities, putU64 deviceId]
  | .helloAck version capabilities serverId =>
    encodeFields .helloAck [putU16 version, putU32 capabilities, putU64 serverId]
  | .agentOpen channelId => encodeFields .agentOpen [putU32 channelId]
  | .agentClose channelId => encodeFields .agentClose [putU32 channelId]
  | .tunnelListen port => encodeFields .tunnelListen [putU16 port]
  | .tunnelOpen channelId => encodeFields .tunnelOpen [putU32 channelId]
  | .tunnelClose channelId => encodeFields .tunnelClose [putU32 channelId]
  | .sendOffer fileCount totalBytes =>
    encodeFields .sendOffer [putU32 fileCount, putU64 totalBytes]
  | .portForwardListen forwardId listenPort targetPort =>
    encodeFields .portForwardListen [putU32 forwardId, putU16 listenPort, putU16 targetPort]
  | .portForwardReady forwardId => encodeFields .portForwardReady [putU32 forwardId]
  | .portForwardOpen forwardId channelId targetPort =>
    encodeFields .portForwardOpen [putU32 forwardId, putU32 channelId, putU16 targetPort]
  | .portForwardClose channelId => encodeFields .portForwardClose [putU32 channelId]
  | .portForwardStop forwardId => encodeFields .portForwardStop [putU32 forwardId]
  | .portForwardRequest forwardId direction listenPort targetPort =>
    encodeFields .portForwardRequest
      [putU32 forwardId, putU8 direction, putU16 listenPort, putU16 targetPort]
  | .sessionCreated id => encodeFields .sessionCreated [putU32 id]
  | .agentData channelId data => encodePrefixBlob .agentData channelId data
  | .tunnelData channelId data => encodePrefixBlob .tunnelData channelId data
  | .portForwardData channelId data => encodePrefixBlob .portForwardData channelId data
  | .detached => encodeEmpty .detached
  | .serverShutdown => encodeEmpty .serverShutdown
  | .ping => encodeEmpty .ping
  | .pong => encodeEmpty .pong
  | .agentForward => encodeEmpty .agentForward
  | .openForward => encodeEmpty .openForward
  | .clipboardGet => encodeEmpty .clipboardGet
  | .sendDone => encodeEmpty .sendDone
  | .listSessions => encodeEmpty .listSessions
  | .killServer => encodeEmpty .killServer
  | .ok => encodeEmpty .ok
  | .openUrl url => encodeStr .openUrl url
  | .sendCancel reason => encodeStr .sendCancel reason
  | .tail session => encodeStr .tail session
  | .killSession session => encodeStr .killSession session
  | .sendFile session => encodeStr .sendFile session
  | .renameSession session newName =>
    let payloadLen := 2 + (utf8 session).length + (utf8 newName).length
    putHeader .renameSession (UInt32.ofNat payloadLen) ++ (putStr session ++ utf8 newName)
  | .setLinger session lingerSecs =>
    let payloadLen := 2 + (utf8 session).length + 8
    putHeader .setLinger (UInt32.ofNat payloadLen) ++ (putStr session ++ putU64 lingerSecs)
  | .newSession name command cwd cols rows clientName lingerSecs =>
    let payloadLen := 2 + (utf8 name).length + 2 + (utf8 command).length + 2 + (utf8 cwd).length
      + 2 + 2 + 2 + (utf8 clientName).length + 8
    putHeader .newSession (UInt32.ofNat payloadLen)
      ++ (putStr name ++ putStr command ++ putStr cwd ++ putU16 cols ++ putU16 rows
        ++ putStr clientName ++ putU64 lingerSecs)
  | .attach session clientName force noReplay cols rows attachToken renderedOffset lineDirty =>
    let payloadLen := 2 + (utf8 session).length + 2 + (utf8 clientName).length + 2 + 4 + 8 + 8 + 1
    putHeader .attach (UInt32.ofNat payloadLen)
      ++ (putStr session ++ putStr clientName ++ putBool force ++ putBool noReplay
        ++ putU16 cols ++ putU16 rows ++ putU64 attachToken ++ putU64 renderedOffset
        ++ putBool lineDirty)
  | .attachAck token sessionId => putHeader .attachAck 12 ++ putU64 token ++ putU32 sessionId
  | .error code message =>
    let payloadLen := 2 + (utf8 message).length
    putHeader .error (UInt32.ofNat payloadLen) ++ putU16 code.toU16 ++ utf8 message
  | .env vars => encodeEnv vars
  | .sessionInfo sessions => encodeSessionInfo sessions
  | .diagRequest => encodeEmpty .diagRequest
  | .diagResponse text => encodeStr .diagResponse text

/-- Encoding appends the frame's bytes to the output buffer and always succeeds. -/
def FrameCodec.encode (frame : Frame) (dst : Bytes) : Bytes := dst ++ encodeFrame frame

/-- The payload a frame is written with, without the header. -/
def Frame.payload : Frame → Bytes
  | .data bytes | .notice bytes | .clipboardSet bytes | .clipboardData bytes => bytes
  | .resume offset => putU64 offset
  | .resize cols rows => putU16 cols ++ putU16 rows
  | .exit code => putI32 code
  | .hello version capabilities id | .helloAck version capabilities id =>
    putU16 version ++ putU32 capabilities ++ putU64 id
  | .agentOpen id | .agentClose id | .tunnelOpen id | .tunnelClose id | .portForwardReady id
  | .portForwardClose id | .portForwardStop id | .sessionCreated id => putU32 id
  | .tunnelListen port => putU16 port
  | .sendOffer fileCount totalBytes => putU32 fileCount ++ putU64 totalBytes
  | .portForwardListen forwardId listenPort targetPort =>
    putU32 forwardId ++ putU16 listenPort ++ putU16 targetPort
  | .portForwardOpen forwardId channelId targetPort =>
    putU32 forwardId ++ putU32 channelId ++ putU16 targetPort
  | .portForwardRequest forwardId direction listenPort targetPort =>
    putU32 forwardId ++ putU8 direction ++ putU16 listenPort ++ putU16 targetPort
  | .agentData channelId bytes | .tunnelData channelId bytes | .portForwardData channelId bytes =>
    putU32 channelId ++ bytes
  | .detached | .serverShutdown | .ping | .pong | .agentForward | .openForward | .clipboardGet
  | .sendDone | .listSessions | .killServer | .ok | .diagRequest => []
  | .openUrl text | .sendCancel text | .tail text | .killSession text | .sendFile text
  | .diagResponse text => utf8 text
  | .renameSession session newName => putStr session ++ utf8 newName
  | .setLinger session lingerSecs => putStr session ++ putU64 lingerSecs
  | .newSession name command cwd cols rows clientName lingerSecs =>
    putStr name ++ putStr command ++ putStr cwd ++ putU16 cols ++ putU16 rows
      ++ putStr clientName ++ putU64 lingerSecs
  | .attach session clientName force noReplay cols rows attachToken renderedOffset lineDirty =>
    putStr session ++ putStr clientName ++ putBool force ++ putBool noReplay
      ++ putU16 cols ++ putU16 rows ++ putU64 attachToken ++ putU64 renderedOffset
      ++ putBool lineDirty
  | .attachAck token sessionId => putU64 token ++ putU32 sessionId
  | .error code message => putU16 code.toU16 ++ utf8 message
  | .env vars =>
    putU32 (UInt32.ofNat vars.length) ++ vars.flatMap fun (key, value) => putStr key ++ putStr value
  | .sessionInfo sessions =>
    putU32 (UInt32.ofNat sessions.length) ++ sessions.flatMap encodeSessionEntry

@[simp] theorem putU8_length (value : UInt8) : (putU8 value).length = 1 := rfl

@[simp] theorem putU16_length (value : UInt16) : (putU16 value).length = 2 := beBytes_length ..

@[simp] theorem putU32_length (value : UInt32) : (putU32 value).length = 4 := beBytes_length ..

@[simp] theorem putI32_length (value : Int32) : (putI32 value).length = 4 := beBytes_length ..

@[simp] theorem putU64_length (value : UInt64) : (putU64 value).length = 8 := beBytes_length ..

@[simp] theorem putBool_length (flag : Bool) : (putBool flag).length = 1 := rfl

@[simp] theorem putStr_length (text : String) : (putStr text).length = 2 + (utf8 text).length := by
  simp [putStr]

/-- The fields of an entry are as long as the entry's length field says. -/
theorem encodeSessionEntry_length (entry : SessionEntry) :
    (encodeSessionEntry entry).length = 4 + entryEncodedLen entry := by
  simp only [encodeSessionEntry, entryEncodedLen, List.length_append, putU32_length, putU64_length,
    putBool_length, putStr_length]
  omega

/-- Variables take the bytes that are counted for them. -/
private theorem envVars_length (vars : List (String × String)) :
    (vars.flatMap fun (key, value) => putStr key ++ putStr value).length =
      (vars.map fun (key, value) => 2 + (utf8 key).length + 2 + (utf8 value).length).sum := by
  induction vars with
  | nil => rfl
  | cons pair rest ih =>
    rw [List.flatMap_cons, List.length_append, ih, List.map_cons, List.sum_cons]
    simp only [List.length_append, putStr_length]
    omega

/-- Entries take the bytes that are counted for them. -/
private theorem sessionEntries_length (sessions : List SessionEntry) :
    (sessions.flatMap encodeSessionEntry).length =
      (sessions.map fun entry => 4 + entryEncodedLen entry).sum := by
  induction sessions with
  | nil => rfl
  | cons entry rest ih =>
    rw [List.flatMap_cons, List.length_append, ih, List.map_cons, List.sum_cons,
      encodeSessionEntry_length]

/-- Every frame is written as its type code, its payload length cast to 32 bits, and its payload. -/
theorem encodeFrame_eq (frame : Frame) :
    encodeFrame frame =
      putHeader frame.kind (UInt32.ofNat frame.payload.length) ++ frame.payload := by
  -- The length each arm computes is the length of what it writes; the fixed widths are constants.
  cases frame with
  | env vars =>
    simp only [encodeFrame, encodeEnv, Frame.kind, Frame.payload, List.length_append,
      putU32_length, envVars_length, List.append_assoc]
  | sessionInfo sessions =>
    simp only [encodeFrame, encodeSessionInfo, Frame.kind, Frame.payload, List.length_append,
      putU32_length, sessionEntries_length, List.append_assoc]
  | agentData channelId data =>
    simp [encodeFrame, encodePrefixBlob, Frame.kind, Frame.payload, UInt32.ofNat_add]
  | tunnelData channelId data =>
    simp [encodeFrame, encodePrefixBlob, Frame.kind, Frame.payload, UInt32.ofNat_add]
  | portForwardData channelId data =>
    simp [encodeFrame, encodePrefixBlob, Frame.kind, Frame.payload, UInt32.ofNat_add]
  | renameSession session newName =>
    simp only [encodeFrame, Frame.kind, Frame.payload, List.length_append, putStr_length]
  | setLinger session lingerSecs =>
    simp only [encodeFrame, Frame.kind, Frame.payload, List.length_append, putStr_length,
      putU64_length]
  | newSession name command cwd cols rows clientName lingerSecs =>
    simp only [encodeFrame, Frame.kind, Frame.payload, List.length_append, putStr_length,
      putU16_length, putU64_length]
    congr 3
    omega
  | attach session clientName force noReplay cols rows attachToken renderedOffset lineDirty =>
    simp only [encodeFrame, Frame.kind, Frame.payload, List.length_append, putStr_length,
      putU16_length, putU64_length, putBool_length]
    congr 3
    omega
  | _ =>
    simp [encodeFrame, encodeEmpty, encodeStr, encodeBlob, encodeFields, Frame.kind,
      Frame.payload]

end Gritty
