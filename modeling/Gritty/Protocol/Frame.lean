import Gritty.Lib.Exec

/-! The frames of the wire protocol, their type codes and the fields each one carries. -/

namespace Gritty

/-- Bytes before the payload: one type byte and a four-byte length. -/
def headerLen : Nat := 5

/-- Largest payload a decoder accepts. -/
def maxFrameSize : Nat := 1 <<< 20

/-- The bytes of a string. -/
def utf8 (text : String) : Bytes := text.toByteArray.data.toList

/-- The string a byte sequence spells, when it is valid UTF-8. -/
def fromUtf8 (bytes : Bytes) : Option String := String.fromUTF8? ⟨bytes.toArray⟩

/-- Structured error codes. -/
inductive ErrorCode where
  | noSuchSession
  | nameAlreadyExists
  | invalidName
  | emptyName
  | versionMismatch
  | unexpectedFrame
  | alreadyAttached
  | ownerChanged
  | unknown (code : UInt16)
  deriving DecidableEq

/-- The number an error code travels as. -/
def ErrorCode.toU16 : ErrorCode → UInt16
  | .noSuchSession => 1
  | .nameAlreadyExists => 2
  | .invalidName => 3
  | .emptyName => 4
  | .versionMismatch => 5
  | .unexpectedFrame => 6
  | .alreadyAttached => 7
  | .ownerChanged => 8
  | .unknown code => code

/-- The error code a number stands for. -/
def ErrorCode.fromU16 (code : UInt16) : ErrorCode :=
  if code = 1 then .noSuchSession
  else if code = 2 then .nameAlreadyExists
  else if code = 3 then .invalidName
  else if code = 4 then .emptyName
  else if code = 5 then .versionMismatch
  else if code = 6 then .unexpectedFrame
  else if code = 7 then .alreadyAttached
  else if code = 8 then .ownerChanged
  else .unknown code

/-- Metadata for one session, as listed in a session info frame. -/
structure SessionEntry where
  id : UInt32
  name : String
  ptyPath : String
  shellPid : UInt32
  createdAt : UInt64
  attached : Bool
  lastHeartbeat : UInt64
  foregroundCmd : String
  cwd : String
  clientName : String
  agentForwardingActive : Bool
  isLastAttached : Bool
  lastActivity : UInt64
  lingerSecs : UInt64
  deriving DecidableEq

/-- One protocol frame. -/
inductive Frame where
  | data (bytes : Bytes)
  | resize (cols rows : UInt16)
  | exit (code : Int32)
  | detached
  | ping
  | pong
  | env (vars : List (String × String))
  | diagRequest
  | diagResponse (text : String)
  | serverShutdown
  | resume (offset : UInt64)
  | notice (bytes : Bytes)
  | agentForward
  | agentOpen (channelId : UInt32)
  | agentData (channelId : UInt32) (data : Bytes)
  | agentClose (channelId : UInt32)
  | clipboardSet (data : Bytes)
  | clipboardGet
  | clipboardData (data : Bytes)
  | openForward
  | openUrl (url : String)
  | tunnelListen (port : UInt16)
  | tunnelOpen (channelId : UInt32)
  | tunnelData (channelId : UInt32) (data : Bytes)
  | tunnelClose (channelId : UInt32)
  | sendOffer (fileCount : UInt32) (totalBytes : UInt64)
  | sendDone
  | sendCancel (reason : String)
  | portForwardListen (forwardId : UInt32) (listenPort targetPort : UInt16)
  | portForwardReady (forwardId : UInt32)
  | portForwardOpen (forwardId channelId : UInt32) (targetPort : UInt16)
  | portForwardData (channelId : UInt32) (data : Bytes)
  | portForwardClose (channelId : UInt32)
  | portForwardStop (forwardId : UInt32)
  | portForwardRequest (forwardId : UInt32) (direction : UInt8) (listenPort targetPort : UInt16)
  | hello (version : UInt16) (capabilities : UInt32) (deviceId : UInt64)
  | helloAck (version : UInt16) (capabilities : UInt32) (serverId : UInt64)
  | sendFile (session : String)
  | newSession (name command cwd : String) (cols rows : UInt16) (clientName : String)
      (lingerSecs : UInt64)
  | attach (session clientName : String) (force noReplay : Bool) (cols rows : UInt16)
      (attachToken renderedOffset : UInt64) (lineDirty : Bool)
  | tail (session : String)
  | listSessions
  | killSession (session : String)
  | killServer
  | renameSession (session newName : String)
  | setLinger (session : String) (lingerSecs : UInt64)
  | sessionCreated (id : UInt32)
  | sessionInfo (sessions : List SessionEntry)
  | ok
  | attachAck (token : UInt64) (sessionId : UInt32)
  | error (code : ErrorCode) (message : String)
  deriving DecidableEq

/-- The kinds of frame that have a type code. -/
inductive FrameType where
  | hello | helloAck
  | data | resize | exit | detached | ping | pong | env | diagRequest | diagResponse
  | serverShutdown | resume | notice
  | agentForward | agentOpen | agentData | agentClose
  | openForward | openUrl
  | clipboardSet | clipboardGet | clipboardData
  | tunnelListen | tunnelOpen | tunnelData | tunnelClose
  | sendOffer | sendDone | sendCancel | sendFile
  | portForwardListen | portForwardReady | portForwardOpen | portForwardData
  | portForwardClose | portForwardStop | portForwardRequest
  | newSession | attach | listSessions | killSession | killServer | tail | renameSession
  | setLinger
  | sessionCreated | sessionInfo | ok | error | attachAck
  deriving DecidableEq

/-- The type code of a kind of frame. -/
def FrameType.code : FrameType → UInt8
  | .hello => 0x01
  | .helloAck => 0x02
  | .data => 0x10
  | .resize => 0x11
  | .exit => 0x12
  | .detached => 0x13
  | .ping => 0x14
  | .pong => 0x15
  | .env => 0x16
  | .diagRequest => 0x17
  | .diagResponse => 0x18
  | .serverShutdown => 0x19
  | .resume => 0x1A
  | .notice => 0x1B
  | .agentForward => 0x20
  | .agentOpen => 0x21
  | .agentData => 0x22
  | .agentClose => 0x23
  | .openForward => 0x28
  | .openUrl => 0x29
  | .clipboardSet => 0x2A
  | .clipboardGet => 0x2B
  | .clipboardData => 0x2C
  | .tunnelListen => 0x30
  | .tunnelOpen => 0x31
  | .tunnelData => 0x32
  | .tunnelClose => 0x33
  | .sendOffer => 0x38
  | .sendDone => 0x39
  | .sendCancel => 0x3A
  | .sendFile => 0x3B
  | .portForwardListen => 0x40
  | .portForwardReady => 0x41
  | .portForwardOpen => 0x42
  | .portForwardData => 0x43
  | .portForwardClose => 0x44
  | .portForwardStop => 0x45
  | .portForwardRequest => 0x46
  | .newSession => 0x50
  | .attach => 0x51
  | .listSessions => 0x52
  | .killSession => 0x53
  | .killServer => 0x54
  | .tail => 0x55
  | .renameSession => 0x56
  | .setLinger => 0x57
  | .sessionCreated => 0x60
  | .sessionInfo => 0x61
  | .ok => 0x62
  | .error => 0x63
  | .attachAck => 0x64

/-- Every kind of frame, in the order of the type codes. -/
def FrameType.all : List FrameType :=
  [.hello, .helloAck,
    .data, .resize, .exit, .detached, .ping, .pong, .env, .diagRequest, .diagResponse,
    .serverShutdown, .resume, .notice,
    .agentForward, .agentOpen, .agentData, .agentClose,
    .openForward, .openUrl,
    .clipboardSet, .clipboardGet, .clipboardData,
    .tunnelListen, .tunnelOpen, .tunnelData, .tunnelClose,
    .sendOffer, .sendDone, .sendCancel, .sendFile,
    .portForwardListen, .portForwardReady, .portForwardOpen, .portForwardData,
    .portForwardClose, .portForwardStop, .portForwardRequest,
    .newSession, .attach, .listSessions, .killSession, .killServer, .tail, .renameSession,
    .setLinger,
    .sessionCreated, .sessionInfo, .ok, .error, .attachAck]

/-- The kind of frame a type code announces; unassigned codes announce none. -/
def FrameType.ofCode (code : UInt8) : Option FrameType :=
  FrameType.all.find? fun kind => kind.code == code

/-- The kind of a frame. -/
def Frame.kind : Frame → FrameType
  | .data .. => .data
  | .resize .. => .resize
  | .exit .. => .exit
  | .detached => .detached
  | .ping => .ping
  | .pong => .pong
  | .env .. => .env
  | .diagRequest => .diagRequest
  | .diagResponse .. => .diagResponse
  | .serverShutdown => .serverShutdown
  | .resume .. => .resume
  | .notice .. => .notice
  | .agentForward => .agentForward
  | .agentOpen .. => .agentOpen
  | .agentData .. => .agentData
  | .agentClose .. => .agentClose
  | .clipboardSet .. => .clipboardSet
  | .clipboardGet => .clipboardGet
  | .clipboardData .. => .clipboardData
  | .openForward => .openForward
  | .openUrl .. => .openUrl
  | .tunnelListen .. => .tunnelListen
  | .tunnelOpen .. => .tunnelOpen
  | .tunnelData .. => .tunnelData
  | .tunnelClose .. => .tunnelClose
  | .sendOffer .. => .sendOffer
  | .sendDone => .sendDone
  | .sendCancel .. => .sendCancel
  | .portForwardListen .. => .portForwardListen
  | .portForwardReady .. => .portForwardReady
  | .portForwardOpen .. => .portForwardOpen
  | .portForwardData .. => .portForwardData
  | .portForwardClose .. => .portForwardClose
  | .portForwardStop .. => .portForwardStop
  | .portForwardRequest .. => .portForwardRequest
  | .hello .. => .hello
  | .helloAck .. => .helloAck
  | .sendFile .. => .sendFile
  | .newSession .. => .newSession
  | .attach .. => .attach
  | .tail .. => .tail
  | .listSessions => .listSessions
  | .killSession .. => .killSession
  | .killServer => .killServer
  | .renameSession .. => .renameSession
  | .setLinger .. => .setLinger
  | .sessionCreated .. => .sessionCreated
  | .sessionInfo .. => .sessionInfo
  | .ok => .ok
  | .attachAck .. => .attachAck
  | .error .. => .error

/-- A type code announces the kind of frame it was assigned to. -/
@[simp] theorem FrameType.ofCode_code (kind : FrameType) :
    FrameType.ofCode kind.code = some kind := by
  cases kind <;> rfl

/-- A string's bytes spell the string. -/
@[simp] theorem fromUtf8_utf8 (text : String) : fromUtf8 (utf8 text) = some text := by
  simp [fromUtf8, utf8, String.fromUTF8?, text.isValidUTF8, String.fromUTF8]

/-- The string a byte sequence spells has exactly these bytes. -/
theorem utf8_of_fromUtf8 {bytes : Bytes} {text : String} (spelled : fromUtf8 bytes = some text) :
    utf8 text = bytes := by
  unfold fromUtf8 String.fromUTF8? at spelled
  split at spelled
  · simp only [Option.some.injEq] at spelled
    rw [← spelled, utf8, String.fromUTF8]
  · simp at spelled

/-- Reading a code that is not one of the eight assigned numbers under the name unknown restores it. -/
theorem ErrorCode.fromU16_toU16 {code : ErrorCode}
    (assigned : ∀ number, code = .unknown number → number = 0 ∨ 8 < number) :
    ErrorCode.fromU16 code.toU16 = code := by
  cases code with
  | unknown number =>
    -- None of the eight guards of the reader fires on a number outside one to eight.
    have outside := assigned number rfl
    have apart : ∀ low : UInt16, 0 < low → low ≤ 8 → number ≠ low := by
      rintro low positive small rfl
      rcases outside with zero | large
      · exact absurd positive (by rw [zero]; decide)
      · exact absurd small (UInt16.not_le.mpr large)
    simp [toU16, fromU16, apart]
  | _ => rfl

end Gritty
