import Gritty.Relay.AgentChannels
import Gritty.Relay.ForwardChannels
import Gritty.Relay.TunnelChannels

/-! One client connection: its forwarded connections of all kinds, over two links that keep their order. -/

namespace Gritty

/-- The kinds of forwarded connections. -/
inductive ChannelKind where
  | agent
  | tunnel
  | portForward
  deriving DecidableEq

/-- An end of the connection. -/
inductive Receiver where
  | server
  | client
  deriving DecidableEq

/-- The end that takes a frame off its link. -/
def AgentAction.receiver : AgentAction → Option Receiver
  | .clientFrame _ _ => some .server
  | .serverFrame _ _ => some .client
  | _ => none

/-- The end that takes a frame off its link. -/
def CallbackAction.receiver : CallbackAction → Option Receiver
  | .clientFrame _ _ => some .server
  | .serverFrame _ _ => some .client
  | _ => none

/-- The end that takes a frame off its link. -/
def ForwardAction.receiver : ForwardAction → Option Receiver
  | .clientFrame _ _ _ => some .server
  | .serverFrame _ _ => some .client
  | _ => none

/-- Both ends of one client connection. A link is the order of the kinds of its frames, which are with their kinds. -/
structure AttachedClient where
  agent : AgentSystem
  tunnel : CallbackSystem
  forwards : ForwardSystem
  /-- The kinds of the frames on the way to the server, oldest first. -/
  toServer : List ChannelKind
  /-- The kinds of the frames on the way to the client, oldest first. -/
  toClient : List ChannelKind
  deriving DecidableEq

/-- Something happens to the connections of one kind. -/
inductive ConnectionAction where
  | agent (action : AgentAction)
  | tunnel (action : CallbackAction)
  | forwards (action : ForwardAction)
  deriving DecidableEq

namespace AttachedClient

/-- A client attaches, to a session that has given out numbers and has had callbacks before. -/
def start (agentNumber given : UInt32) (earlier : CallbackSystem)
    (forwardAgent openForward : Bool) : AttachedClient where
  agent := .new agentNumber forwardAgent
  tunnel := earlier.reattach openForward
  forwards := .new given
  toServer := (if forwardAgent then [.agent] else []) ++ (if openForward then [.tunnel] else [])
  toClient := []

/-- A link after an action: a frame that is taken is the first of all kinds, and new ones are the last. -/
def follow (link : List ChannelKind) (kind : ChannelKind) (taken : Bool) (before after : Nat) :
    Option (List ChannelKind) :=
  if taken then
    match link with
    | first :: later =>
      if first = kind then some (later ++ List.replicate (after + 1 - before) kind) else none
    | [] => none
  else some (link ++ List.replicate (after - before) kind)

/-- One action. The client stays. -/
def step (connection : AttachedClient) : ConnectionAction → Option AttachedClient
  | .agent action => do
    let agent ← connection.agent.step action
    let toServer ← follow connection.toServer .agent (action.receiver = some .server)
      connection.agent.toServer.length agent.toServer.length
    let toClient ← follow connection.toClient .agent (action.receiver = some .client)
      connection.agent.toClient.length agent.toClient.length
    some { connection with agent, toServer, toClient }
  | .tunnel (.reattach _) => none
  | .tunnel action => do
    let tunnel ← connection.tunnel.step action
    let toServer ← follow connection.toServer .tunnel (action.receiver = some .server)
      connection.tunnel.toServer.length tunnel.toServer.length
    let toClient ← follow connection.toClient .tunnel (action.receiver = some .client)
      connection.tunnel.toClient.length tunnel.toClient.length
    some { connection with tunnel, toServer, toClient }
  | .forwards action => do
    let forwards ← connection.forwards.step action
    let toServer ← follow connection.toServer .portForward (action.receiver = some .server)
      connection.forwards.client.sent.length forwards.client.sent.length
    let toClient ← follow connection.toClient .portForward (action.receiver = some .client)
      connection.forwards.toClient.length forwards.toClient.length
    some { connection with forwards, toServer, toClient }

/-- Whether the server's table of a kind has a channel. -/
def serverHas (connection : AttachedClient) (channelId : UInt32) : ChannelKind → Bool
  | .agent => (connection.agent.agent.channels.lookup channelId).isSome
  | .tunnel => (connection.tunnel.tunnel.channels.lookup channelId).isSome
  | .portForward => (connection.forwards.table.channels.lookup channelId).isSome

/-- Whether the client's table of a kind has a channel. -/
def clientHas (connection : AttachedClient) (channelId : UInt32) : ChannelKind → Bool
  | .agent => (connection.agent.client.channels.lookup channelId).isSome
  | .tunnel => connection.tunnel.client.channels.contains channelId
  | .portForward => (connection.forwards.client.channels.lookup channelId).isSome

/-- The frames of a kind on the way to the server. -/
def framesToServer (connection : AttachedClient) : ChannelKind → List Frame
  | .agent => connection.agent.toServer
  | .tunnel => connection.tunnel.toServer
  | .portForward => connection.forwards.client.sent

/-- The frames of a kind on the way to the client. -/
def framesToClient (connection : AttachedClient) : ChannelKind → List Frame
  | .agent => connection.agent.toClient
  | .tunnel => connection.tunnel.toClient
  | .portForward => connection.forwards.toClient

/-- No frame is in flight, and no event of a listener or a relay task waits to be handled. -/
def Quiet (connection : AttachedClient) : Prop :=
  connection.toServer = [] ∧ connection.toClient = [] ∧
    connection.agent.events = [] ∧ connection.agent.clientEvents = [] ∧
    connection.tunnel.events = [] ∧ connection.tunnel.clientEvents = [] ∧
    connection.forwards.events = [] ∧ connection.forwards.client.queue = []

/-- Once everything has arrived, both ends have the same channels. -/
def Mirrored (connection : AttachedClient) : Prop :=
  connection.Quiet → ∀ kind channelId,
    connection.serverHas channelId kind = connection.clientHas channelId kind

/-- The frame that closes a channel of a kind. -/
def closing (channelId : UInt32) : ChannelKind → Frame
  | .agent => .agentClose channelId
  | .tunnel => .tunnelClose channelId
  | .portForward => .portForwardClose channelId

/-- The channel that a frame asks to open, with its kind. -/
def opening : Frame → Option (ChannelKind × UInt32)
  | .agentOpen channelId => some (.agent, channelId)
  | .tunnelOpen channelId => some (.tunnel, channelId)
  | .portForwardOpen _ channelId _ => some (.portForward, channelId)
  | _ => none

/-- The frame that an action delivers, and the end that takes it. -/
def delivers (connection : AttachedClient) : ConnectionAction → Option (Receiver × Frame)
  | .agent action => action.receiver.bind fun
    | .server => connection.agent.toServer.head?.map (Receiver.server, ·)
    | .client => connection.agent.toClient.head?.map (Receiver.client, ·)
  | .tunnel action => action.receiver.bind fun
    | .server => connection.tunnel.toServer.head?.map (Receiver.server, ·)
    | .client => connection.tunnel.toClient.head?.map (Receiver.client, ·)
  | .forwards action => action.receiver.bind fun
    | .server => connection.forwards.client.sent.head?.map (Receiver.server, ·)
    | .client => connection.forwards.toClient.head?.map (Receiver.client, ·)

/-- A channel that an end was asked to open is in its table, or a close is on its way back. -/
def Settled (connection : AttachedClient) (channelId : UInt32) (kind : ChannelKind) :
    Receiver → Prop
  | .server => connection.serverHas channelId kind = true ∨
      closing channelId kind ∈ connection.framesToClient kind
  | .client => connection.clientHas channelId kind = true ∨
      closing channelId kind ∈ connection.framesToServer kind

/-- A request to open a channel that an action delivers is settled by it. -/
def OpensSettled (connection : AttachedClient) (action : ConnectionAction) : Prop :=
  ∀ next receiver frame kind channelId, connection.step action = some next →
    connection.delivers action = some (receiver, frame) → opening frame = some (kind, channelId) →
    next.Settled channelId kind receiver

/-- A number is given out only when nothing is left of an earlier channel or forward under it. -/
def FreshNumbers (connection : AttachedClient) : ConnectionAction → Prop
  | .agent action => connection.agent.FreshNumber action
  | .tunnel action => connection.tunnel.FreshNumber action
  | .forwards action => connection.forwards.FreshNumber action

/-- No request to open a tunnel channel is delivered to a tunnel that has no port. -/
def TunnelReady (connection : AttachedClient) (action : ConnectionAction) : Prop :=
  ∀ channelId, connection.delivers action = some (.server, .tunnelOpen channelId) →
    connection.toServer.head? = some .tunnel → connection.tunnel.tunnel.port.isSome = true

end AttachedClient

/-- A client connection from the moment that the client attaches. -/
def attachedClient (agentNumber given : UInt32) (earlier : CallbackSystem)
    (forwardAgent openForward : Bool) : Machine AttachedClient ConnectionAction where
  init := .start agentNumber given earlier forwardAgent openForward
  step := AttachedClient.step

end Gritty
