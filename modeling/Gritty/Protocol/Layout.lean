import Gritty.Protocol.Encode
import Gritty.Protocol.Decode

/-! The wire format: which byte strings are the payload of which frame. -/

namespace Gritty

/-- A string whose length a 16-bit length field can hold. -/
def FitsU16 (text : String) : Prop := (utf8 text).length < 2 ^ 16

/-- A flag byte, and the bytes after it. Any byte but zero sets the flag. -/
def FlagField (input : Bytes) (flag : Bool) (rest : Bytes) : Prop :=
  ∃ byte, input = byte :: rest ∧ flag = (byte != 0)

/-- A flag that older peers do not send. -/
def TrailingFlag (input : Bytes) (flag : Bool) (rest : Bytes) : Prop :=
  FlagField input flag rest ∨ input = [] ∧ flag = false ∧ rest = []

/-- A 64-bit number that older peers do not send. -/
def TrailingU64 (input : Bytes) (value : UInt64) (rest : Bytes) : Prop :=
  input = putU64 value ++ rest ∨ input.length < 8 ∧ value = 0 ∧ rest = input

/-- A string that older peers do not send. -/
def TrailingStr (input : Bytes) (text : String) (rest : Bytes) : Prop :=
  FitsU16 text ∧ input = putStr text ++ rest ∨ input.length < 2 ∧ text = "" ∧ rest = input

/-- A 16-bit number at a fixed place, zero when the bytes end before it. -/
def FixedU16 (input : Bytes) (place : Nat) (value : UInt16) : Prop :=
  putU16 value <+: input.drop place ∨ input.length < place + 2 ∧ value = 0

/-- A 64-bit number at a fixed place, zero when the bytes end before it. -/
def FixedU64 (input : Bytes) (place : Nat) (value : UInt64) : Prop :=
  putU64 value <+: input.drop place ∨ input.length < place + 8 ∧ value = 0

/-- A flag at a fixed place, unset when the bytes end before it. -/
def FixedFlag (input : Bytes) (place : Nat) (flag : Bool) : Prop :=
  flag = (input[place]?.getD 0 != 0)

/-- The bytes of one session entry. -/
def EntryLayout (input : Bytes) (entry : SessionEntry) : Prop :=
  (FitsU16 entry.name ∧ FitsU16 entry.ptyPath ∧ FitsU16 entry.foregroundCmd ∧ FitsU16 entry.cwd ∧
    FitsU16 entry.clientName) ∧
  ∃ flagged dated trailing afterAgent afterLast afterActivity rest : Bytes,
    input = putU32 entry.id ++ (putStr entry.name ++ (putStr entry.ptyPath
      ++ (putU32 entry.shellPid ++ (putU64 entry.createdAt ++ flagged)))) ∧
    FlagField flagged entry.attached dated ∧
    dated = putU64 entry.lastHeartbeat ++ (putStr entry.foregroundCmd ++ (putStr entry.cwd
      ++ (putStr entry.clientName ++ trailing))) ∧
    TrailingFlag trailing entry.agentForwardingActive afterAgent ∧
    TrailingFlag afterAgent entry.isLastAttached afterLast ∧
    TrailingU64 afterLast entry.lastActivity afterActivity ∧
    TrailingU64 afterActivity entry.lingerSecs rest

/-- Session entries one after the other, each behind its length, and the bytes after them. -/
def EntriesLayout : Bytes → List SessionEntry → Bytes → Prop
  | input, [], rest => input = rest
  | input, entry :: entries, rest =>
    ∃ bytes next : Bytes, bytes.length < 2 ^ 32 ∧
      input = putU32 (UInt32.ofNat bytes.length) ++ (bytes ++ next) ∧
      EntryLayout bytes entry ∧ EntriesLayout next entries rest

/-- Environment variables one after the other, and the bytes after them. -/
def EnvLayout : Bytes → List (String × String) → Bytes → Prop
  | input, [], rest => input = rest
  | input, (key, value) :: vars, rest =>
    ∃ next : Bytes, (FitsU16 key ∧ FitsU16 value) ∧ input = putStr key ++ (putStr value ++ next) ∧
      EnvLayout next vars rest

/--
The payloads of a frame.

Bytes after the last field are allowed, and the fields that older peers do not send may be missing.
-/
def Layout (payload : Bytes) : Frame → Prop
  | .data bytes | .notice bytes | .clipboardSet bytes | .clipboardData bytes => bytes = payload
  | .resume offset => putU64 offset <+: payload
  | .resize cols rows => putU16 cols ++ putU16 rows <+: payload
  | .exit code => putI32 code <+: payload
  | .hello version capabilities deviceId =>
    ∃ input rest : Bytes, payload = putU16 version ++ (putU32 capabilities ++ input) ∧
      TrailingU64 input deviceId rest
  | .helloAck version capabilities serverId =>
    putU16 version ++ (putU32 capabilities ++ putU64 serverId) <+: payload
  | .agentOpen id | .agentClose id | .tunnelOpen id | .tunnelClose id | .portForwardReady id
  | .portForwardClose id | .portForwardStop id | .sessionCreated id => putU32 id <+: payload
  | .tunnelListen port => putU16 port <+: payload
  | .sendOffer fileCount totalBytes => putU32 fileCount ++ putU64 totalBytes <+: payload
  | .portForwardListen forwardId listenPort targetPort =>
    putU32 forwardId ++ (putU16 listenPort ++ putU16 targetPort) <+: payload
  | .portForwardOpen forwardId channelId targetPort =>
    putU32 forwardId ++ (putU32 channelId ++ putU16 targetPort) <+: payload
  | .portForwardRequest forwardId direction listenPort targetPort =>
    putU32 forwardId ++ (putU8 direction ++ (putU16 listenPort ++ putU16 targetPort)) <+: payload
  | .agentData channelId bytes | .tunnelData channelId bytes | .portForwardData channelId bytes =>
    payload = putU32 channelId ++ bytes
  | .detached | .serverShutdown | .ping | .pong | .agentForward | .openForward | .clipboardGet
  | .sendDone | .listSessions | .killServer | .ok | .diagRequest => True
  | .openUrl text | .sendCancel text | .tail text | .killSession text | .sendFile text =>
    payload = utf8 text
  | .diagResponse text => text = (fromUtf8 payload).getD (Decode.fromUtf8Lossy payload)
  | .renameSession session newName =>
    FitsU16 session ∧ payload = putStr session ++ utf8 newName
  | .setLinger session lingerSecs =>
    FitsU16 session ∧ putStr session ++ putU64 lingerSecs <+: payload
  | .newSession name command cwd cols rows clientName lingerSecs =>
    12 ≤ payload.length ∧ (FitsU16 name ∧ FitsU16 command ∧ FitsU16 cwd) ∧
    ∃ trailing afterName rest : Bytes,
      payload = putStr name ++ (putStr command ++ (putStr cwd ++ (putU16 cols
        ++ (putU16 rows ++ trailing)))) ∧
      TrailingStr trailing clientName afterName ∧ TrailingU64 afterName lingerSecs rest
  | .attach session clientName force noReplay cols rows attachToken renderedOffset lineDirty =>
    (FitsU16 session ∧ FitsU16 clientName) ∧
    ∃ flagged trailing : Bytes,
      payload = putStr session ++ (putStr clientName ++ flagged) ∧
      FlagField flagged force trailing ∧ FixedFlag trailing 0 noReplay ∧
      FixedU16 trailing 1 cols ∧ FixedU16 trailing 3 rows ∧ FixedU64 trailing 5 attachToken ∧
      FixedU64 trailing 13 renderedOffset ∧ FixedFlag trailing 21 lineDirty
  | .attachAck token sessionId => putU64 token ++ putU32 sessionId <+: payload
  | .error code message =>
    ∃ number, code = ErrorCode.fromU16 number ∧ payload = putU16 number ++ utf8 message
  | .env vars =>
    vars.length < 2 ^ 32 ∧ ∃ input rest : Bytes,
      payload = putU32 (UInt32.ofNat vars.length) ++ input ∧ EnvLayout input vars rest
  | .sessionInfo sessions =>
    sessions.length < 2 ^ 32 ∧ ∃ input rest : Bytes,
      payload = putU32 (UInt32.ofNat sessions.length) ++ input ∧ EntriesLayout input sessions rest

/-! ### Lists on the wire -/

/-- One more variable behind a list of variables. -/
theorem EnvLayout.snoc {input middle next : Bytes} {vars : List (String × String)}
    {key value : String} (before : EnvLayout input vars middle) (fits : FitsU16 key ∧ FitsU16 value)
    (held : middle = putStr key ++ (putStr value ++ next)) :
    EnvLayout input (vars ++ [(key, value)]) next := by
  induction vars generalizing input with
  | nil =>
    subst before
    exact ⟨next, fits, held, rfl⟩
  | cons pair rest ih =>
    obtain ⟨after, ok, split, later⟩ := before
    exact ⟨after, ok, split, ih later⟩

/-- One more entry behind a list of entries. -/
theorem EntriesLayout.snoc {input middle next bytes : Bytes} {entries : List SessionEntry}
    {entry : SessionEntry} (before : EntriesLayout input entries middle)
    (small : bytes.length < 2 ^ 32)
    (held : middle = putU32 (UInt32.ofNat bytes.length) ++ (bytes ++ next))
    (layout : EntryLayout bytes entry) : EntriesLayout input (entries ++ [entry]) next := by
  induction entries generalizing input with
  | nil =>
    subst before
    exact ⟨bytes, next, small, held, layout, rfl⟩
  | cons other rest ih =>
    obtain ⟨part, after, ok, split, first, later⟩ := before
    exact ⟨part, after, ok, split, first, ih later⟩

/-! ### Numbers on the wire -/

/-- Two bytes are what their number is put as. -/
theorem putU16_ofNat {bytes : Bytes} (width : bytes.length = 2) :
    putU16 (UInt16.ofNat (beValue bytes)) = bytes := by
  have small := beValue_lt bytes
  have written := beBytes_beValue bytes
  rw [width] at small written
  rw [putU16, UInt16.toNat_ofNat_of_lt' (by omega), written]

/-- Four bytes are what their number is put as. -/
theorem putU32_ofNat {bytes : Bytes} (width : bytes.length = 4) :
    putU32 (UInt32.ofNat (beValue bytes)) = bytes := by
  have small := beValue_lt bytes
  have written := beBytes_beValue bytes
  rw [width] at small written
  rw [putU32, UInt32.toNat_ofNat_of_lt' (by omega), written]

/-- Eight bytes are what their number is put as. -/
theorem putU64_ofNat {bytes : Bytes} (width : bytes.length = 8) :
    putU64 (UInt64.ofNat (beValue bytes)) = bytes := by
  have small := beValue_lt bytes
  have written := beBytes_beValue bytes
  rw [width] at small written
  rw [putU64, UInt64.toNat_ofNat_of_lt' (by omega), written]

/-- Four bytes are what their signed number is put as. -/
theorem putI32_ofNat {bytes : Bytes} (width : bytes.length = 4) :
    putI32 (UInt32.ofNat (beValue bytes)).toInt32 = bytes := by
  rw [putI32]
  simpa using putU32_ofNat width

/-- A short number is that of the bytes it is put as. -/
@[simp] theorem ofNat_putU16 (value : UInt16) : UInt16.ofNat (beValue (putU16 value)) = value := by
  rw [putU16, beValue_beBytes_of_lt value.toNat_lt]
  simp

/-- A number is that of the bytes it is put as. -/
@[simp] theorem ofNat_putU32 (value : UInt32) : UInt32.ofNat (beValue (putU32 value)) = value := by
  rw [putU32, beValue_beBytes_of_lt value.toNat_lt]
  simp

/-- A long number is that of the bytes it is put as. -/
@[simp] theorem ofNat_putU64 (value : UInt64) : UInt64.ofNat (beValue (putU64 value)) = value := by
  rw [putU64, beValue_beBytes_of_lt value.toNat_lt]
  simp

/-- A signed number is that of the bytes it is put as. -/
@[simp] theorem ofNat_putI32 (value : Int32) :
    (UInt32.ofNat (beValue (putI32 value))).toInt32 = value := by
  rw [putI32, ofNat_putU32]
  simp

end Gritty
