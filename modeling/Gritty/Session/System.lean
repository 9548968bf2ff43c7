import Gritty.Lib.Transition
import Gritty.Session.Replay

/-! A session, its clients, and the links between them, over attachments, takeovers and cuts. -/

namespace Gritty

/-- A client and the connection it has, or had last. -/
structure SessionClient where
  /-- How far it has rendered into the session's output. -/
  renderedOffset : Nat
  /-- The session output it has rendered, for the statements below. -/
  screen : Bytes
  /-- Frames sent on its connection and not yet delivered, oldest first. -/
  inFlight : List SessionFrame
  linkUp : Bool
  /-- It was told that another client has the session, and does not come back. -/
  exited : Bool
  deriving DecidableEq

namespace SessionClient

/-- A client on a new connection, before any frame. -/
def new : SessionClient :=
  { renderedOffset := 0, screen := [], inFlight := [], linkUp := true, exited := false }

/-- The client handles one frame of the server. -/
def handleServerFrame (client : SessionClient) : SessionFrame → SessionClient
  | .data bytes =>
    { client with
      renderedOffset := client.renderedOffset + bytes.length
      screen := client.screen ++ bytes }
  | .resume offset => { client with renderedOffset := offset }
  | .notice bytes replayed =>
    if replayed then { client with screen := client.screen ++ bytes } else client
  | .detached => { client with exited := true }

/-- Send frames to a client. On a cut link they are lost. -/
def send (client : SessionClient) (frames : List SessionFrame) : SessionClient :=
  if client.linkUp then { client with inFlight := client.inFlight ++ frames } else client

/-- The server lets go of the connection. What was sent before still arrives. -/
def close (client : SessionClient) : SessionClient := { client with linkUp := false }

/-- A client that was cut off asks for the stream from where it stands. -/
def request (client : SessionClient) (lineDirty : Bool) (cols rows : UInt16) : AttachRequest :=
  { renderedOffset := client.renderedOffset, lineDirty, isFresh := false, cols, rows }

end SessionClient

/-- A session and every client it has had. -/
structure Session where
  output : SessionOutput
  clients : List SessionClient
  /-- The client the session relays to. -/
  attached : Option Nat
  /-- The whole output of the session, for the statements below. -/
  stream : Bytes
  deriving DecidableEq

/-- What can happen next. -/
inductive SessionAction where
  /-- The program in the session writes. -/
  | output (chunk : Bytes)
  /-- A client reads the oldest frame on its connection. -/
  | deliver (client : Nat)
  /-- A link is cut: all but the oldest frames on it are lost. -/
  | cut (client kept : Nat)
  /-- The server finds the client gone. -/
  | clientGone
  /-- A client that was cut off attaches again. A repaint would make the program write the chunks. -/
  | reattach (client : Nat) (lineDirty : Bool) (cols rows : UInt16) (redraw : List Bytes)
  /-- A new client connects, and takes the session over if it is attached. -/
  | connect (cols rows : UInt16) (redraw : List Bytes)

namespace Session

/-- A new session, with the client that created it attached. -/
def new (cap : Nat) : Session :=
  { output := .new cap, clients := [.new], attached := some 0, stream := [] }

/-- Change one client. -/
def modifyClient (session : Session) (client : Nat) (change : SessionClient → SessionClient) :
    Session :=
  { session with clients := session.clients.modify client change }

/-- Change the attached client, if there is one. -/
def modifyAttached (session : Session) (change : SessionClient → SessionClient) : Session :=
  match session.attached with
  | some client => session.modifyClient client change
  | none => session

/-- Bring a client on a new connection in sync and relay to it from now on. -/
def attach (chrome : Chrome) (session : Session) (client : Nat) (request : AttachRequest)
    (redraw : List Bytes) : Session :=
  let displaced := session.modifyAttached fun old => (old.send [.detached]).close
  let replay := session.output.sendReconnectReplay chrome request redraw
  { displaced.modifyClient client fun connecting =>
      { connecting with inFlight := replay.2, linkUp := true } with
    output := replay.1
    attached := some client
    stream := session.stream ++ liveBytes replay.2 }

/-- One action, if it can be taken. -/
def step (chrome : Chrome) (session : Session) : SessionAction → Option Session
  | .output chunk =>
    if chunk.isEmpty then none
    else
      some { session.modifyAttached fun client => client.send [.data chunk] with
        output := session.output.capture chunk
        stream := session.stream ++ chunk }
  | .deliver client =>
    match session.clients[client]? with
    | some receiver =>
      match receiver.inFlight with
      | frame :: later =>
        if receiver.exited then none
        else
          some (session.modifyClient client fun receiver =>
            { receiver with inFlight := later }.handleServerFrame frame)
      | [] => none
    | none => none
  | .cut client kept =>
    match session.clients[client]? with
    | some victim =>
      if victim.linkUp then
        some (session.modifyClient client fun victim =>
          { victim with inFlight := victim.inFlight.take kept, linkUp := false })
      else none
    | none => none
  | .clientGone =>
    match session.attached with
    | some client => some { session.modifyClient client (·.close) with attached := none }
    | none => none
  | .reattach client lineDirty cols rows redraw =>
    match session.clients[client]? with
    | some returning =>
      -- The client has read what its last connection still delivered.
      if returning.linkUp || !returning.inFlight.isEmpty || returning.exited ||
          redraw.any (·.isEmpty) then none
      else some (session.attach chrome client (returning.request lineDirty cols rows) redraw)
    | none => none
  | .connect cols rows redraw =>
    if redraw.any (·.isEmpty) then none
    else
      let request :=
        { renderedOffset := 0, lineDirty := false, isFresh := true, cols, rows : AttachRequest }
      some ({ session with clients := session.clients ++ [SessionClient.new] }.attach chrome
        session.clients.length request redraw)

end Session

/-- The session from its creation, by how much output it retains. -/
def sessionMachine (chrome : Chrome) (cap : Nat) : Machine Session SessionAction where
  init := .new cap
  step := Session.step chrome

end Gritty
