import Gritty.Lib.Transition
import Gritty.Relay.ForwardSystem
import Gritty.Relay.StreamTurns

/-! One forwarded connection among all others of a client connection, with the sockets at both of its ends. -/

namespace Gritty

/-- An end of the client connection. -/
inductive StreamSide where
  | server
  | client
  deriving DecidableEq

def StreamSide.other : StreamSide → StreamSide
  | .server => .client
  | .client => .server

/-- What a frame says about a channel. -/
def Frame.about (channelId : UInt32) : Frame → Option ChannelMessage
  | .portForwardOpen _ id _ => if id = channelId then some .opens else none
  | .portForwardData id bytes => if id = channelId then some (.data bytes) else none
  | .portForwardClose id => if id = channelId then some .closes else none
  | _ => none

/-- What an event of the server says about a channel. -/
def PortForwardEvent.about (channelId : UInt32) : PortForwardEvent → Option ChannelMessage
  | .accepted _ id _ => if id = channelId then some .opens else none
  | .data id bytes => if id = channelId then some (.data bytes) else none
  | .closed id => if id = channelId then some .closes else none

/-- What an event of the client says about a channel. -/
def ClientPortForwardEvent.about (channelId : UInt32) :
    ClientPortForwardEvent → Option ChannelMessage
  | .accepted _ id _ => if id = channelId then some .opens else none
  | .data id bytes => if id = channelId then some (.data bytes) else none
  | .closed id => if id = channelId then some .closes else none
  | .forwardStopped _ => none

/-- The reports of a reader task, as events of the server. -/
def PortForwardEvent.reports (channelId : UInt32) (messages : List ChannelMessage) :
    List PortForwardEvent :=
  messages.filterMap fun
    | .opens => none
    | .data bytes => some (.data channelId bytes)
    | .closes => some (.closed channelId)

/-- The reports of a reader task, as events of the client. -/
def ClientPortForwardEvent.reports (channelId : UInt32) (messages : List ChannelMessage) :
    List ClientPortForwardEvent :=
  messages.filterMap fun
    | .opens => none
    | .data bytes => some (.data channelId bytes)
    | .closes => some (.closed channelId)

/-- The port forwards of a client connection, and the sockets of one channel of theirs. -/
structure ForwardedStreams where
  system : ForwardSystem
  server : Option RelaySocket
  client : Option RelaySocket
  /-- A writer queue of the channel refused a chunk. -/
  overflowed : Bool
  /-- The forward of the channel was stopped. -/
  stopped : Bool

/-- What happens to the port forwards, or at a socket of the channel. -/
inductive ForwardedAction where
  /-- The frames that come of it may be lost, if they cannot be sent in time. -/
  | forward (action : ForwardAction) (lost : Bool)
  | socket (side : StreamSide) (action : SocketAction)
  deriving DecidableEq

/-- What a message does to the socket of the end that takes it, and whether its queue refuses it. -/
def deliver (socket : Option RelaySocket) (connects registered : Bool) :
    ChannelMessage → Option RelaySocket × Bool
  | .opens => (if connects then some .new else socket, false)
  | .data bytes =>
    match socket with
    | some open_ =>
      if registered then
        if open_.writerFull then (socket, true) else (some (open_.enqueue bytes), false)
      else (socket, false)
    | none => (socket, false)
  | .closes => (socket, false)

namespace ForwardedStreams

variable (channelId : UInt32)

/-- A client attaches to a server that has given out numbers before. -/
def new (given : UInt32) : ForwardedStreams where
  system := .new given
  server := none
  client := none
  overflowed := false
  stopped := false

def socketAt (state : ForwardedStreams) : StreamSide → Option RelaySocket
  | .server => state.server
  | .client => state.client

/-- The server has the channel in its table. -/
def serverHas (state : ForwardedStreams) : Bool :=
  (state.system.table.channels.lookup channelId).isSome

/-- The client has the channel in its table. -/
def clientHas (state : ForwardedStreams) : Bool :=
  (state.system.client.channels.lookup channelId).isSome

/-- The server's end of the channel. A sender of the writer task is in the table, also under the forward, or in an event. -/
def serverEnd (state : ForwardedStreams) : StreamEnd where
  socket := state.server
  registered := state.serverHas channelId
  events := state.system.events.filterMap (·.about channelId)
  link := state.system.toClient.filterMap (·.about channelId)

/-- The client's end of the channel. -/
def clientEnd (state : ForwardedStreams) : StreamEnd where
  socket := state.client
  registered := state.clientHas channelId
  events := state.system.client.queue.filterMap (·.about channelId)
  link := state.system.client.sent.filterMap (·.about channelId)

/-- A frame makes the server connect a socket for the channel. -/
def serverConnects (state : ForwardedStreams) (connected : Option ConnId) : Frame → Bool
  | .portForwardOpen forwardId _ _ =>
    (state.system.table.forwards.lookup forwardId).isSome && connected.isSome
  | _ => false

/-- A frame makes the client connect a socket for the channel. -/
def clientConnects (state : ForwardedStreams) (connected : Option ConnId) : Frame → Bool
  | .portForwardOpen forwardId _ _ =>
    (state.system.client.clientInitiatedForwards.lookup forwardId).isSome && connected.isSome
  | _ => false

/-- What the server's next frame from the client does to its socket. -/
def serverTakes (state : ForwardedStreams) (connected : Option ConnId) :
    Option RelaySocket × Bool :=
  match state.system.client.sent.head? with
  | some frame =>
    match frame.about channelId with
    | some message =>
      deliver state.server (state.serverConnects connected frame) (state.serverHas channelId) message
    | none => (state.server, false)
  | none => (state.server, false)

/-- What the client's next frame from the server does to its socket. -/
def clientTakes (state : ForwardedStreams) (connected : Option ConnId) :
    Option RelaySocket × Bool :=
  match state.system.toClient.head? with
  | some frame =>
    match frame.about channelId with
    | some message =>
      deliver state.client (state.clientConnects connected frame) (state.clientHas channelId) message
    | none => (state.client, false)
  | none => (state.client, false)

/-- An action stops the forward of the channel, or finds it gone when the channel is to be opened. -/
def stops (state : ForwardedStreams) : ForwardAction → Bool
  | .clientFrame _ _ _ =>
    match state.system.client.sent.head? with
    | some (.portForwardStop forwardId) =>
      (state.system.table.channels.lookup channelId).any fun entry => entry.1 = forwardId
    | _ => false
  | .pfEvent =>
    match state.system.events.head? with
    | some (.accepted forwardId id _) =>
      id = channelId && (state.system.table.forwards.lookup forwardId).isNone
    | _ => false
  | .serverFrame _ _ =>
    match state.system.toClient.head? with
    | some (.portForwardStop forwardId) =>
      (state.system.client.channels.lookup channelId).any fun entry => entry.1 = forwardId
    | _ => false
  | .client (.pfEvent _) =>
    match state.system.client.queue.head? with
    | some (.accepted forwardId id _) =>
      id = channelId && (state.system.client.forwards.lookup forwardId).isNone
    | some (.forwardStopped forwardId) =>
      (state.system.client.channels.lookup channelId).any fun entry => entry.1 = forwardId
    | _ => false
  | _ => false

/-- What is said about the channel agrees with its sockets: its reports come from there, and so does whether a queue is full. -/
def agrees (state : ForwardedStreams) : ForwardAction → Bool
  | .reports id _ => id ≠ channelId
  | .client (.reports id _) => id ≠ channelId
  | .clientFrame _ _ writerFull =>
    match state.system.client.sent.head? with
    | some (.portForwardData id _) =>
      id ≠ channelId || writerFull = state.server.any (·.writerFull)
    | _ => true
  | .serverFrame _ writerFull =>
    match state.system.toClient.head? with
    | some (.portForwardData id _) =>
      id ≠ channelId || writerFull = state.client.any (·.writerFull)
    | _ => true
  | _ => true

/-- The frames that an end was to send are lost. -/
def unsent (before after : ForwardSystem) : ForwardAction → ForwardSystem
  | .clientFrame _ _ _ => { after with toClient := before.toClient }
  | .pfEvent => { after with toClient := before.toClient }
  | .serverFrame _ _ => { after with client := { after.client with sent := before.client.sent } }
  | _ => after

/-- The sockets after an action, and whether a queue refused a chunk. -/
def sockets (state : ForwardedStreams) :
    ForwardAction → Option RelaySocket × Option RelaySocket × Bool
  | .accepts _ _ =>
    (if state.system.table.nextChannelId = channelId then some .new else state.server,
      state.client, false)
  | .client (.accepts _ _) =>
    (state.server,
      if state.system.client.nextChannelId = channelId then some .new else state.client, false)
  | .clientFrame connected _ _ =>
    let (server, refused) := state.serverTakes channelId connected
    (server, state.client, refused)
  | .serverFrame connected _ =>
    let (client, refused) := state.clientTakes channelId connected
    (state.server, client, refused)
  | _ => (state.server, state.client, false)

/-- One action. -/
def step (state : ForwardedStreams) : ForwardedAction → Option ForwardedStreams
  | .forward action lost =>
    if state.agrees channelId action then
      (state.system.step action).map fun next =>
        let (server, client, refused) := state.sockets channelId action
        { system := if lost then unsent state.system next action else next
          server
          client
          overflowed := state.overflowed || refused
          stopped := state.stopped || state.stops channelId action }
    else none
  | .socket .server action =>
    state.server.bind fun socket =>
      (socket.step (state.serverEnd channelId).held action).map fun (next, reports) =>
        { state with
          server := some next
          system := { state.system with
            events := state.system.events ++ PortForwardEvent.reports channelId reports } }
  | .socket .client action =>
    state.client.bind fun socket =>
      (socket.step (state.clientEnd channelId).held action).map fun (next, reports) =>
        { state with
          client := some next
          system := { state.system with
            client := { state.system.client with
              queue := state.system.client.queue ++
                ClientPortForwardEvent.reports channelId reports } } }

end ForwardedStreams

/-- The port forwards of a client connection with the sockets of one channel, from the attach on. -/
def forwardedStreams (channelId given : UInt32) : Machine ForwardedStreams ForwardedAction where
  init := .new given
  step := ForwardedStreams.step channelId

end Gritty
