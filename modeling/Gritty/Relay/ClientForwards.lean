import Gritty.Lib.KeyedTable
import Gritty.Lib.Transition
import Gritty.Relay.Tunnel

/-! The client's table of TCP port forwards over one connection, against any server. -/

namespace Gritty

/-- What the listeners, relay tasks and keepalive tasks of a client's forwards report. -/
inductive ClientPortForwardEvent where
  | accepted (forwardId channelId : UInt32) (conn : ConnId)
  | data (channelId : UInt32) (bytes : Bytes)
  | closed (channelId : UInt32)
  | forwardStopped (forwardId : UInt32)
  deriving DecidableEq

/-- One forward of a client. -/
structure ClientPortForwardState where
  /-- The forward has a listener here. -/
  listenerHandle : Bool
  /-- A task watches the process that asked for the forward. -/
  keepaliveHandle : Bool
  targetPort : UInt16
  deriving DecidableEq

/-- What a process that asks for a forward is told. -/
inductive ForwardAnswer where
  | established
  | bindFailed
  | serverBindFailed
  | connectionLost
  deriving DecidableEq

/-- What a connection's forwards went through. -/
inductive ForwardLog where
  /-- The local user asked for a forward, which got an id. -/
  | requested (forwardId : UInt32) (direction : UInt8) (targetPort : UInt16)
  /-- A forward was stopped from either end. -/
  | removed (forwardId : UInt32)
  /-- The client connected to a local port for the server. -/
  | connected (forwardId : UInt32) (port : UInt16)
  deriving DecidableEq

/-- The forwards of a client over one connection. -/
structure ClientForwards where
  forwards : ChannelMap ClientPortForwardState
  channels : ChannelMap (UInt32 × ConnId)
  /-- The next number for a forward or a connection accepted here. These are even. -/
  nextChannelId : UInt32
  /-- The processes whose forwards the server has not confirmed. -/
  pendingLf : ChannelMap Nat
  /-- The ports the server may have connections opened to, by their forwards. -/
  clientInitiatedForwards : ChannelMap UInt16
  /-- The forwards whose listener tasks were started. An abort may come too late for one. -/
  listeners : List UInt32
  /-- The forwards whose keepalive tasks have not reported. An abort may come too late for one. -/
  keepalives : List UInt32
  /-- The events that the relay loop has not handled, oldest first. -/
  queue : List ClientPortForwardEvent
  /-- The frames sent to the server, oldest first. -/
  sent : List Frame
  /-- What the local processes were told, oldest first. -/
  answers : List (Nat × ForwardAnswer)
  disconnected : Bool
  /-- How many numbers were given out. -/
  taken : Nat
  /-- What the forwards went through, newest first. -/
  log : List ForwardLog
  deriving DecidableEq

namespace ClientForwards

/-- A connection without forwards. -/
def new : ClientForwards where
  forwards := ∅
  channels := ∅
  nextChannelId := 2
  pendingLf := ∅
  clientInitiatedForwards := ∅
  listeners := []
  keepalives := []
  queue := []
  sent := []
  answers := []
  disconnected := false
  taken := 0
  log := []

/-- A number is given out. -/
def takeId (state : ClientForwards) : ClientForwards :=
  { state with nextChannelId := state.nextChannelId + 2, taken := state.taken + 1 }

/-- A frame is sent. -/
def send (state : ClientForwards) (frame : Frame) : ClientForwards :=
  { state with sent := state.sent ++ [frame] }

/-- A local process is told something. -/
def answer (state : ClientForwards) (process : Nat) (answer : ForwardAnswer) : ClientForwards :=
  { state with answers := state.answers ++ [(process, answer)] }

/-- Notes what a forward went through. -/
def note (state : ClientForwards) (entry : ForwardLog) : ClientForwards :=
  { state with log := entry :: state.log }

/-- Watches the process that asked for a forward, so that the forward ends with it. -/
def startPfKeepalive (state : ClientForwards) (forwardId : UInt32) (targetPort : UInt16) :
    ClientForwards :=
  let forward := (state.forwards.lookup forwardId).getD
    { listenerHandle := false, keepaliveHandle := false, targetPort }
  { state with
    forwards := state.forwards.insert forwardId { forward with keepaliveHandle := true }
    keepalives := state.keepalives ++ [forwardId] }

/-- The channels without those of a forward. -/
def withoutForward (channels : ChannelMap (UInt32 × ConnId)) (forwardId : UInt32) :
    ChannelMap (UInt32 × ConnId) :=
  removeWhere channels fun entry => entry.1 = forwardId

/-- A forward is gone, and its port is not the server's to open any more. -/
def stopForward (state : ClientForwards) (forwardId : UInt32) : ClientForwards :=
  { state with
    forwards := state.forwards.erase forwardId
    channels := withoutForward state.channels forwardId
    clientInitiatedForwards := state.clientInitiatedForwards.erase forwardId
    }.note (.removed forwardId)

/-- The server wants a connection opened: to the port of the forward, whatever port it names. -/
def portForwardOpen (state : ClientForwards) (forwardId channelId : UInt32) (_ : UInt16)
    (connected : Option ConnId) : ClientForwards :=
  match state.clientInitiatedForwards.lookup forwardId with
  | none => state.send (.portForwardClose channelId)
  | some expectedPort =>
    let state := state.note (.connected forwardId expectedPort)
    match connected with
    | some conn => { state with channels := state.channels.insert channelId (forwardId, conn) }
    | none => state.send (.portForwardClose channelId)

/-- The server has bytes for a channel; a full writer closes the channel. -/
def portForwardData (state : ClientForwards) (channelId : UInt32) (writerFull : Bool) :
    ClientForwards :=
  if (state.channels.lookup channelId).isSome && writerFull then
    { state with channels := state.channels.erase channelId }.send (.portForwardClose channelId)
  else state

/-- The server confirms that it listens for a forward. -/
def portForwardReady (state : ClientForwards) (forwardId : UInt32) : ClientForwards :=
  match state.pendingLf.lookup forwardId with
  | some process =>
    let state := { state with pendingLf := state.pendingLf.erase forwardId }
    let targetPort := (state.clientInitiatedForwards.lookup forwardId).getD 0
    (state.answer process .established).startPfKeepalive forwardId targetPort
  | none => state

/-- The server stops a forward, or refuses it. -/
def portForwardStop (state : ClientForwards) (forwardId : UInt32) : ClientForwards :=
  let state :=
    match state.pendingLf.lookup forwardId with
    | some process =>
      { state with pendingLf := state.pendingLf.erase forwardId }.answer process .serverBindFailed
    | none => state
  state.stopForward forwardId

/-- A frame of the server, with the result of a connect and whether the channel's writer is full. -/
def handleServerFrame (state : ClientForwards) (connected : Option ConnId) (writerFull : Bool) :
    Frame → ClientForwards
  | .portForwardListen forwardId _ _ => state.send (.portForwardStop forwardId)
  | .portForwardOpen forwardId channelId targetPort =>
    state.portForwardOpen forwardId channelId targetPort connected
  | .portForwardData channelId _ => state.portForwardData channelId writerFull
  | .portForwardClose channelId => { state with channels := state.channels.erase channelId }
  | .portForwardReady forwardId => state.portForwardReady forwardId
  | .portForwardStop forwardId => state.portForwardStop forwardId
  | _ => state

/-- Sends a frame without which the connection is given up. -/
def sendOrEnd (state : ClientForwards) (sends : Bool) (frame : Frame) : ClientForwards :=
  let state := state.send frame
  if sends then state else { state with disconnected := true }

/-- An event of a listener, a relay task or a keepalive task. -/
def handlePfEvent (state : ClientForwards) (sends : Bool) :
    ClientPortForwardEvent → ClientForwards
  | .accepted forwardId channelId conn =>
    match state.forwards.lookup forwardId with
    | some forward =>
      { state with channels := state.channels.insert channelId (forwardId, conn) }.sendOrEnd sends
        (.portForwardOpen forwardId channelId forward.targetPort)
    | none => state
  | .data channelId bytes =>
    if (state.channels.lookup channelId).isSome then
      state.sendOrEnd sends (.portForwardData channelId bytes)
    else state
  | .closed channelId =>
    if (state.channels.lookup channelId).isSome then
      { state with channels := state.channels.erase channelId }.sendOrEnd sends
        (.portForwardClose channelId)
    else state
  | .forwardStopped forwardId =>
    (state.stopForward forwardId).sendOrEnd sends (.portForwardStop forwardId)

/-- A local process asks for a forward, with whether its port can be bound here. -/
def handleFwdRequest (state : ClientForwards) (process : Nat) (direction : UInt8)
    (listenPort targetPort : UInt16) (binds sends : Bool) : ClientForwards :=
  let forwardId := state.nextChannelId
  let state := state.takeId.note (.requested forwardId direction targetPort)
  if direction = 1 && !binds then state.answer process .bindFailed
  else
    let state :=
      if direction = 1 then
        { state with
          forwards := state.forwards.insert forwardId
            { listenerHandle := true, keepaliveHandle := false, targetPort }
          listeners := state.listeners ++ [forwardId] }
      else state
    -- Only a forward that the server listens for is registered for the server to open.
    let state :=
      if direction = 0 then
        { state with
          clientInitiatedForwards := state.clientInitiatedForwards.insert forwardId targetPort }
      else state
    let state := state.send (.portForwardRequest forwardId direction listenPort targetPort)
    if !sends then state.answer process .connectionLost
    else if direction = 0 then
      { state with pendingLf := state.pendingLf.insert forwardId process }
    else (state.answer process .established).startPfKeepalive forwardId targetPort

end ClientForwards

/-- What happens at a client's forwards. -/
inductive ClientForwardAction where
  | serverFrame (frame : Frame) (connected : Option ConnId) (writerFull : Bool)
  | fwdRequest (process : Nat) (direction : UInt8) (listenPort targetPort : UInt16)
      (binds sends : Bool)
  /-- The relay loop handles the oldest event. -/
  | pfEvent (sends : Bool)
  /-- A listener accepts a connection. -/
  | accepts (forwardId : UInt32) (conn : ConnId)
  /-- A relay task reports bytes of a connection, or its end. -/
  | reports (channelId : UInt32) (bytes : Option Bytes)
  /-- The process that asked for a forward is gone. -/
  | keepaliveEnds (forwardId : UInt32)
  deriving DecidableEq

namespace ClientForwards

/-- An event waits for the relay loop. -/
def enqueue (state : ClientForwards) (event : ClientPortForwardEvent) : ClientForwards :=
  { state with queue := state.queue ++ [event] }

/-- One action. Nothing happens on a connection that is given up. -/
def step (state : ClientForwards) (action : ClientForwardAction) : Option ClientForwards :=
  if state.disconnected then none
  else
    match action with
    | .serverFrame frame connected writerFull =>
      some (state.handleServerFrame connected writerFull frame)
    | .fwdRequest process direction listenPort targetPort binds sends =>
      some (state.handleFwdRequest process direction listenPort targetPort binds sends)
    | .pfEvent sends =>
      match state.queue with
      | event :: later => some ({ state with queue := later }.handlePfEvent sends event)
      | [] => none
    | .accepts forwardId conn =>
      if forwardId ∈ state.listeners then
        some (state.takeId.enqueue (.accepted forwardId state.nextChannelId conn))
      else none
    | .reports channelId (some bytes) => some (state.enqueue (.data channelId bytes))
    | .reports channelId none => some (state.enqueue (.closed channelId))
    | .keepaliveEnds forwardId =>
      if forwardId ∈ state.keepalives then
        some ({ state with keepalives := state.keepalives.erase forwardId }.enqueue
          (.forwardStopped forwardId))
      else none

end ClientForwards

/-- The forwards of a client from the start of its connection. -/
def clientForwards : Machine ClientForwards ClientForwardAction where
  init := .new
  step := ClientForwards.step

end Gritty
