import Gritty.Lib.Handshake
import Gritty.Relay.ClientForwards
import Gritty.Relay.PortForward

/-! Port forwards at both ends of one client connection, in both directions. -/

namespace Gritty

/-- The channel that an event is to open. -/
def PortForwardEvent.opening : PortForwardEvent → Option UInt32
  | .accepted _ channelId _ => some channelId
  | _ => none

@[simp] theorem PortForwardEvent.opening_accepted (forwardId channelId : UInt32) (conn : ConnId) :
    (PortForwardEvent.accepted forwardId channelId conn).opening = some channelId := rfl

@[simp] theorem PortForwardEvent.opening_data (channelId : UInt32) (bytes : Bytes) :
    (PortForwardEvent.data channelId bytes).opening = none := rfl

@[simp] theorem PortForwardEvent.opening_closed (channelId : UInt32) :
    (PortForwardEvent.closed channelId).opening = none := rfl

/-- The channel that an event is to open. -/
def ClientPortForwardEvent.opening : ClientPortForwardEvent → Option UInt32
  | .accepted _ channelId _ => some channelId
  | _ => none

@[simp] theorem ClientPortForwardEvent.opening_accepted (forwardId channelId : UInt32)
    (conn : ConnId) :
    (ClientPortForwardEvent.accepted forwardId channelId conn).opening = some channelId := rfl

@[simp] theorem ClientPortForwardEvent.opening_data (channelId : UInt32) (bytes : Bytes) :
    (ClientPortForwardEvent.data channelId bytes).opening = none := rfl

@[simp] theorem ClientPortForwardEvent.opening_closed (channelId : UInt32) :
    (ClientPortForwardEvent.closed channelId).opening = none := rfl

@[simp] theorem ClientPortForwardEvent.opening_forwardStopped (forwardId : UInt32) :
    (ClientPortForwardEvent.forwardStopped forwardId).opening = none := rfl

/-- Both ends of the port forwards, and what is between them. The frames sent by the client are its link to the server. -/
structure ForwardSystem where
  table : PortForwardTable
  /-- The forwards whose listener tasks the server started. An abort may come too late for one. -/
  listeners : List UInt32
  /-- The events that the server has not handled, oldest first. -/
  events : List PortForwardEvent
  client : ClientForwards
  toClient : List Frame
  /-- The forward that each number was last given out for: what the run has done, for the statements below. -/
  owners : ChannelMap UInt32
  deriving DecidableEq

/-- What happens to the port forwards. -/
inductive ForwardAction where
  /-- The server takes the client's next frame, with the result of a connect or a bind. -/
  | clientFrame (connected : Option ConnId) (bound : Option AcceptorId) (writerFull : Bool)
  | pfEvent
  /-- A listener of the server accepts a connection. -/
  | accepts (forwardId : UInt32) (conn : ConnId)
  /-- A relay task of the server reports bytes of a connection, or its end. -/
  | reports (channelId : UInt32) (bytes : Option Bytes)
  /-- The client takes the server's next frame. -/
  | serverFrame (connected : Option ConnId) (writerFull : Bool)
  /-- Anything else that happens at the client. -/
  | client (action : ClientForwardAction)
  deriving DecidableEq

namespace ForwardSystem

/-- A client attaches to a server that has given out numbers before. The server's are odd. -/
def new (given : UInt32) : ForwardSystem where
  table := { PortForwardTable.new with nextChannelId := 2 * given + 1 }
  listeners := []
  events := []
  client := .new
  toClient := []
  owners := ∅

/-- The server handles a frame of the client. -/
def handleClientFrame (system : ForwardSystem) (frame : Frame) (connected : Option ConnId)
    (bound : Option AcceptorId) (writerFull : Bool) : ForwardSystem :=
  match frame with
  | .portForwardOpen forwardId channelId _ =>
    let (table, frames) := system.table.portForwardOpen forwardId channelId connected
    { system with table, toClient := system.toClient ++ frames }
  | .portForwardData channelId _ =>
    let (table, frames) := system.table.portForwardData channelId writerFull
    { system with table, toClient := system.toClient ++ frames }
  | .portForwardClose channelId => { system with table := system.table.close channelId }
  | .portForwardStop forwardId => { system with table := system.table.portForwardStop forwardId }
  | .portForwardRequest forwardId direction _ targetPort =>
    let (table, frames) := system.table.portForwardRequest forwardId direction targetPort bound
    { system with
      table
      listeners :=
        if direction = 0 && bound.isSome then system.listeners ++ [forwardId]
        else system.listeners
      toClient := system.toClient ++ frames }
  -- No forward waits for the client to be ready: the server asks for none.
  | _ => system

/-- One action. What is not there cannot be taken. -/
def step (system : ForwardSystem) : ForwardAction → Option ForwardSystem
  | .clientFrame connected bound writerFull =>
    match system.client.sent with
    | frame :: later =>
      some ({ system with client := { system.client with sent := later } }.handleClientFrame frame
        connected bound writerFull)
    | [] => none
  | .pfEvent =>
    match system.events with
    | event :: later =>
      let (table, frames) := system.table.handlePfEvent event
      some { system with table, events := later, toClient := system.toClient ++ frames }
    | [] => none
  | .accepts forwardId conn =>
    if forwardId ∈ system.listeners then
      let channelId := system.table.nextChannelId
      some { system with
        table := { system.table with nextChannelId := channelId + 2 }
        events := system.events ++ [.accepted forwardId channelId conn]
        owners := system.owners.insert channelId forwardId }
    else none
  | .reports channelId (some bytes) =>
    some { system with events := system.events ++ [.data channelId bytes] }
  | .reports channelId none =>
    some { system with events := system.events ++ [.closed channelId] }
  | .serverFrame connected writerFull =>
    match system.toClient with
    | frame :: later =>
      (system.client.step (.serverFrame frame connected writerFull)).map fun client =>
        { system with client, toClient := later }
    | [] => none
  | .client (.serverFrame _ _ _) => none
  | .client (.accepts forwardId conn) =>
    (system.client.step (.accepts forwardId conn)).map fun client =>
      { system with client, owners := system.owners.insert system.client.nextChannelId forwardId }
  | .client action =>
    (system.client.step action).map fun client => { system with client }

/-- What a frame says about a channel. The end of the forward it was opened for closes it. -/
def notice (owner : Option UInt32) (channelId : UInt32) : Frame → Option Notice
  | .portForwardOpen _ id _ => if id = channelId then some .opens else none
  | .portForwardClose id => if id = channelId then some .closes else none
  | .portForwardStop forwardId => if owner = some forwardId then some .closes else none
  | _ => none

@[simp] theorem notice_open (owner : Option UInt32) (channelId forwardId id : UInt32)
    (targetPort : UInt16) : notice owner channelId (.portForwardOpen forwardId id targetPort) =
      if id = channelId then some .opens else none := rfl

@[simp] theorem notice_close (owner : Option UInt32) (channelId id : UInt32) :
    notice owner channelId (.portForwardClose id) =
      if id = channelId then some .closes else none := rfl

@[simp] theorem notice_stop (owner : Option UInt32) (channelId forwardId : UInt32) :
    notice owner channelId (.portForwardStop forwardId) =
      if owner = some forwardId then some .closes else none := rfl

@[simp] theorem notice_data (owner : Option UInt32) (channelId id : UInt32) (bytes : Bytes) :
    notice owner channelId (.portForwardData id bytes) = none := rfl

@[simp] theorem notice_ready (owner : Option UInt32) (channelId forwardId : UInt32) :
    notice owner channelId (.portForwardReady forwardId) = none := rfl

@[simp] theorem notice_request (owner : Option UInt32) (channelId forwardId : UInt32)
    (direction : UInt8) (listenPort targetPort : UInt16) : notice owner channelId
      (.portForwardRequest forwardId direction listenPort targetPort) = none := rfl

/-- A channel that the server opens: its connections were accepted here, for a forward of direction zero. -/
def serverChannel (system : ForwardSystem) (channelId : UInt32) : Handshake where
  waiting := system.events.countP fun event => event.opening = some channelId
  opener := (system.table.channels.lookup channelId).isSome
  answerer := (system.client.channels.lookup channelId).isSome
  refusing := ((system.owners.lookup channelId).map fun forwardId =>
    (system.client.clientInitiatedForwards.lookup forwardId).isNone).getD false
  toAnswerer := system.toClient.filterMap (notice (system.owners.lookup channelId) channelId)
  toOpener :=
    (system.client.sent.filterMap (notice (system.owners.lookup channelId) channelId)).count .closes

/-- A channel that the client opens: its connections were accepted there, for a forward of direction one. -/
def clientChannel (system : ForwardSystem) (channelId : UInt32) : Handshake where
  waiting := system.client.queue.countP fun event => event.opening = some channelId
  opener := (system.client.channels.lookup channelId).isSome
  answerer := (system.table.channels.lookup channelId).isSome
  refusing := false
  toAnswerer := system.client.sent.filterMap (notice (system.owners.lookup channelId) channelId)
  toOpener :=
    (system.toClient.filterMap (notice (system.owners.lookup channelId) channelId)).count .closes

/-- The forward that a frame asks for. -/
def requested : Frame → Option UInt32
  | .portForwardRequest forwardId _ _ _ => some forwardId
  | _ => none

/-- Nothing is left of an earlier forward under a number. -/
def ForwardUnused (system : ForwardSystem) (forwardId : UInt32) : Prop :=
  forwardId ∉ system.listeners ∧ forwardId ∉ system.client.listeners ∧
    system.client.pendingLf.lookup forwardId = none ∧
    (system.table.forwards.lookup forwardId).isNone = true ∧
    forwardId ∉ system.client.sent.filterMap requested ∧
    .portForwardStop forwardId ∉ system.client.sent ∧ .portForwardStop forwardId ∉ system.toClient

/-- A number is given out only when nothing is left of an earlier channel or forward under it. -/
def FreshNumber (system : ForwardSystem) : ForwardAction → Prop
  | .accepts _ _ => (system.serverChannel system.table.nextChannelId).Unused
  | .client (.accepts _ _) => (system.clientChannel system.client.nextChannelId).Unused
  | .client (.fwdRequest _ _ _ _ _ _) => system.ForwardUnused system.client.nextChannelId
  | _ => True

end ForwardSystem

end Gritty
