import Gritty.Daemon.ControlPlane
import Gritty.Daemon.ReadyPipe

/-! The service socket of a session: what programs in it ask of the client that is attached. -/

namespace Gritty

inductive SvcRequest where
  | openUrl
  | send
  | receive
  | clipboard
  deriving DecidableEq

namespace SvcRequest

def fromByte (byte : UInt8) : Option SvcRequest :=
  if byte = 1 then some openUrl
  else if byte = 2 then some send
  else if byte = 3 then some receive
  else if byte = 5 then some clipboard
  else none

def toByte : SvcRequest → UInt8
  | openUrl => 1
  | send => 2
  | receive => 3
  | clipboard => 5

end SvcRequest

/-- The largest contents that can be copied. -/
def clipboardMaxBytes : Nat := 512 * 1024

def clipboardReplyDropped : UInt8 := 0x00
def clipboardReplyDelivered : UInt8 := 0x01
def clipboardReplyTooLarge : UInt8 := 0x02

/-- The longest address that is taken. -/
def urlMaxLen : Nat := 4096

/-! ### The programs -/

/-- A program on a connection to the service socket. -/
inductive SvcProgram where
  /-- Copies what it read from its input. -/
  | copy (data : Bytes)
  /-- Has an address opened. -/
  | openUrl (url : String)
  /-- Some other program, with all that it will write. -/
  | other (request : Bytes)
  deriving DecidableEq

/-- What a program writes. -/
def SvcProgram.request : SvcProgram → Bytes
  | copy data => [SvcRequest.clipboard.toByte, 0x01] ++ data
  | openUrl url => SvcRequest.openUrl.toByte :: (utf8 url ++ [10])
  | other request => request

/-- Contents that the program itself refuses. -/
def clipboardTooLarge (length : Nat) : Bool := decide (clipboardMaxBytes < length)

def SvcProgram.refused : SvcProgram → Bool
  | .copy data => clipboardTooLarge data.length
  | _ => false

/-- What a program tells its user. -/
inductive SvcOutcome where
  | done
  | tooLarge
  | notDone
  /-- No answer came in time, or none at all. -/
  | unconfirmed
  | failed
  deriving DecidableEq

/-- What a program makes of the byte that it is answered with. -/
def SvcProgram.told : SvcProgram → UInt8 → SvcOutcome
  | copy _, reply =>
    if reply = clipboardReplyDelivered then .done
    else if reply = clipboardReplyTooLarge then .tooLarge
    else .notDone
  | _, reply => if reply = 0x00 then .notDone else .done

/-! ### The tasks that read requests -/

/-- What a program asks of the session. -/
inductive SvcEvent where
  | copy (data : Bytes)
  | paste
  | url (url : String)
  deriving DecidableEq

/-- Read until a line ends, the buffer is full or nothing more comes. -/
def readUrl (shares : Shares) (buf : Bytes) (source : Source UInt8) : Bytes :=
  if buf.length < urlMaxLen then
    match _taken : source.read shares (urlMaxLen - buf.length) with
    | ([], _) => buf
    | (first :: more, source) =>
      let buf := buf ++ first :: more
      if buf.contains 10 then buf else readUrl shares buf source
  else buf
termination_by source.left.length
decreasing_by
  rename_i before _
  have size := congrArg (fun read => read.2.left.length) _taken
  have chunk := congrArg (fun read => read.1.length) _taken
  simp only [Source.read, List.length_take, List.length_drop, List.length_cons] at size chunk
  omega

/-- How far the task for a connection is. -/
inductive SvcTask where
  | accepted
  | readsUrl
  /-- The request is about the clipboard, which a client could do when its first byte came, or not. -/
  | clipboard (hasCap : Bool)
  | copying (hasCap : Bool)
  | asked (event : SvcEvent)
  /-- The connection is closed: what was asked, and what was written in answer. -/
  | closed (event : Option SvcEvent) (reply : Bytes)
  deriving DecidableEq

/-- A connection to the service socket. -/
structure SvcConnection where
  program : SvcProgram
  /-- What has been written of the request, and whether no more will be. -/
  arrived : Bytes
  eof : Bool
  task : SvcTask
  outcome : Option SvcOutcome
  deriving DecidableEq

/-- The client that is attached to the session. -/
structure SvcClient where
  openForward : Bool
  deriving DecidableEq

/-- A frame that is sent to the client for a connection, and whether that comes through in time. -/
structure SvcSend where
  id : Nat
  frame : Frame
  through : Bool
  deriving DecidableEq

/-- A session with its service socket. -/
structure SvcSession where
  connections : Nat → Option SvcConnection
  accepted : Nat
  client : Option SvcClient
  negotiatedCaps : UInt32
  pendingPaste : Option Nat
  pasteDeadline : Option Nat
  now : Nat
  sends : List SvcSend
  ended : Bool

inductive SvcAction where
  | connect (program : SvcProgram)
  /-- A program writes some more bytes. -/
  | writes (id bytes : Nat)
  /-- All is written, and a program that copies says so. -/
  | shuts (id : Nat)
  /-- A program is gone, whatever it has written. -/
  | dies (id : Nat)
  | taskStarts (id : Nat)
  | taskReads (id : Nat) (shares : Shares)
  /-- A program reads the answer, or waits no longer. -/
  | hears (id : Nat)
  | waitsNoLonger (id : Nat)
  | attach (capabilities : UInt32)
  | openForward
  | detach
  /-- The session takes a request, of all that wait for it, and what it sends comes through or not. -/
  | clipboardEvent (id : Nat) (through : Bool)
  | openEvent (id : Nat) (through : Bool)
  | clipboardData (data : Bytes)
  | passes (time : Nat)
  | pasteExpires
  | ends

namespace SvcSession

def new : SvcSession where
  connections := fun _ => none
  accepted := 0
  client := none
  negotiatedCaps := 0
  pendingPaste := none
  pasteDeadline := none
  now := 0
  sends := []
  ended := false

/-- What becomes of one connection. -/
def update (session : SvcSession) (id : Nat) (conn : SvcConnection) : SvcSession :=
  { session with connections := Function.update session.connections id (some conn) }

/-- The task of a connection is given its answer, writes it and is gone. -/
def resolve (session : SvcSession) (id : Nat) (reply : Bytes) : SvcSession :=
  match session.connections id with
  | some conn =>
    match conn.task with
    | .asked event => session.update id { conn with task := .closed (some event) reply }
    | _ => session
  | none => session

/-- The paste that waits for a client gets nothing. -/
def dropPaste (session : SvcSession) : SvcSession :=
  match session.pendingPaste with
  | some id => { session.resolve id [] with pendingPaste := none, pasteDeadline := none }
  | none => { session with pasteDeadline := none }

/-- The session is asked, unless it has ended. -/
def ask (session : SvcSession) (id : Nat) (conn : SvcConnection) (event : SvcEvent) : SvcSession :=
  if session.ended then
    session.update id { conn with
      task := .closed none (match event with
        | .copy _ => [clipboardReplyDropped]
        | .paste | .url _ => []) }
  else session.update id { conn with task := .asked event }

/-- The first byte of a request says what it is for, and the next one what to do with a clipboard. -/
def taskStarts (session : SvcSession) (id : Nat) (conn : SvcConnection) : Option SvcSession :=
  let goOn (task : SvcTask) := some (session.update id { conn with task })
  match conn.task, conn.arrived with
  | .accepted, [] => if conn.eof then goOn (.closed none []) else none
  | .accepted, disc :: _ =>
    match SvcRequest.fromByte disc with
    | some .openUrl => goOn .readsUrl
    | some .clipboard => goOn (.clipboard (decide (session.negotiatedCaps &&& capClipboard ≠ 0)))
    -- Transfers are met elsewhere.
    | some .send | some .receive | none => goOn (.closed none [])
  | .clipboard hasCap, _ :: op :: _ =>
    if op = 0x01 then goOn (.copying hasCap)
    else if op = 0x02 ∧ hasCap then some (session.ask id conn .paste)
    else goOn (.closed none [])
  | .clipboard _, _ => if conn.eof then goOn (.closed none []) else none
  | _, _ => none

/-- The rest of a request is read, as far as it came and in whatever pieces. -/
def taskReads (session : SvcSession) (id : Nat) (conn : SvcConnection) (shares : Shares) :
    Option SvcSession :=
  match conn.task with
  | .readsUrl =>
    let source := conn.arrived.drop 1
    if conn.eof ∨ 10 ∈ source ∨ urlMaxLen ≤ source.length then
      let url := trimmed (toStringLossy (readUrl shares [] { left := source, calls := 0 }))
      if url = "" then some (session.update id { conn with task := .closed none [] })
      else some (session.ask id conn (.url url))
    else none
  | .copying hasCap =>
    let source := (conn.arrived.drop 2).take (clipboardMaxBytes + 1)
    if conn.eof ∨ clipboardMaxBytes < source.length then
      let data := Source.readToEnd shares [] { left := source, calls := 0 }
      if clipboardMaxBytes < data.length then
        some (session.update id { conn with task := .closed none [clipboardReplyTooLarge] })
      else if !hasCap || data.isEmpty then
        some (session.update id { conn with task := .closed none [clipboardReplyDropped] })
      else some (session.ask id conn (.copy data))
    else none
  | _ => none

/-- The session takes a request about the clipboard. Whether a frame comes through is not looked at. -/
def clipboardEvent (session : SvcSession) (id : Nat) (through : Bool) (conn : SvcConnection) :
    Option SvcSession :=
  match conn.task with
  | .asked (.copy data) =>
    if session.client = none ∨ session.negotiatedCaps &&& capClipboard = 0 then
      some (session.resolve id [clipboardReplyDropped])
    else
      some { session.resolve id [clipboardReplyDelivered] with
        sends := session.sends ++ [{ id, frame := .clipboardSet data, through }] }
  | .asked .paste =>
    -- A paste that was taken already waits for the client.
    if session.pendingPaste = some id then none
    else if session.client = none ∨ session.negotiatedCaps &&& capClipboard = 0 then
      some (session.resolve id [])
    else
      some { session.dropPaste with
        pendingPaste := some id
        pasteDeadline := some (session.now + 5)
        sends := session.sends ++ [{ id, frame := .clipboardGet, through }] }
  | _ => none

/-- The session takes an address. -/
def openEvent (session : SvcSession) (id : Nat) (through : Bool) (conn : SvcConnection) :
    Option SvcSession :=
  match conn.task with
  | .asked (.url url) =>
    match session.client with
    | some { openForward := true } =>
      some { session.resolve id [0x01] with
        sends := session.sends ++ [{ id, frame := .openUrl url, through }] }
    | _ => some (session.resolve id [0x00])
  | _ => none

/-- What a connection is told when the session has ended: an address is not answered at all. -/
def told (conn : SvcConnection) : SvcConnection :=
  match conn.task with
  | .asked (.copy data) =>
    { conn with task := .closed (some (.copy data)) [clipboardReplyDropped] }
  | .asked event => { conn with task := .closed (some event) [] }
  | _ => conn

def ends (session : SvcSession) : SvcSession :=
  { session with
    connections := fun id => (session.connections id).map told
    client := none
    pendingPaste := none
    pasteDeadline := none
    ended := true }

/-- One step of a program. -/
def program (session : SvcSession) (id : Nat)
    (change : SvcConnection → Option SvcConnection) : Option SvcSession :=
  ((session.connections id).bind change).map (session.update id)

def step (session : SvcSession) : SvcAction → Option SvcSession
  | .connect program =>
    -- Contents that are too large are refused before a byte of them is written.
    some { session.update session.accepted {
        program, arrived := [], eof := program.refused, task := .accepted
        outcome := if program.refused then some .tooLarge else none } with
      accepted := session.accepted + 1 }
  | .writes id bytes =>
    session.program id fun conn =>
      if conn.eof then none
      else some { conn with
        arrived := conn.program.request.take (conn.arrived.length + bytes) }
  | .shuts id =>
    session.program id fun conn =>
      match conn.program with
      | .openUrl _ => none
      | _ => if conn.arrived = conn.program.request then some { conn with eof := true } else none
  | .dies id =>
    session.program id fun conn =>
      some { conn with eof := true, outcome := some (conn.outcome.getD .failed) }
  | .taskStarts id => (session.connections id).bind (session.taskStarts id)
  | .taskReads id shares => (session.connections id).bind (session.taskReads id · shares)
  | .hears id =>
    session.program id fun conn =>
      match conn.outcome, conn.task with
      | none, .closed _ (reply :: _) =>
        if conn.arrived = conn.program.request then
          some { conn with eof := true, outcome := some (conn.program.told reply) }
        else none
      | _, _ => none
  | .waitsNoLonger id =>
    session.program id fun conn =>
      if conn.outcome = none ∧ conn.arrived = conn.program.request then
        some { conn with eof := true, outcome := some .unconfirmed }
      else none
  | .attach capabilities =>
    -- A client that was attached is told to leave, and what was asked of it is dropped.
    if session.ended then none
    else some { session.dropPaste with
      client := some { openForward := false }, negotiatedCaps := capabilities }
  | .openForward =>
    match session.client with
    | some client => some { session with client := some { client with openForward := true } }
    | none => none
  | .detach =>
    if session.client = none then none else some { session.dropPaste with client := none }
  | .clipboardEvent id through =>
    (session.connections id).bind (session.clipboardEvent id through)
  | .openEvent id through => (session.connections id).bind (session.openEvent id through)
  | .clipboardData data =>
    if session.client = none then none
    else match session.pendingPaste with
      | some id => some { session.resolve id data with pendingPaste := none, pasteDeadline := none }
      | none => some { session with pasteDeadline := none }
  | .passes time => some { session with now := session.now + time }
  | .pasteExpires =>
    match session.pasteDeadline with
    | some deadline =>
      if session.client ≠ none ∧ deadline ≤ session.now then some session.dropPaste else none
    | none => none
  | .ends => if session.ended then none else some session.ends

end SvcSession

/-- A session from its start. -/
def svcMachine : Machine SvcSession SvcAction where
  init := .new
  step := SvcSession.step

end Gritty
