import Gritty.Lib.Transition
import Gritty.Relay.PortForward
import Gritty.Relay.Tasks

/-! The relays of a session across its client connections, and whether their streams stay apart. -/

namespace Gritty

/-- How many channel numbers of each kind a client connection has handed out. -/
structure ClientNumbers where
  tunnel : Nat
  portForward : Nat
  deriving DecidableEq

namespace ClientNumbers

/-- A client connection starts over. -/
def new : ClientNumbers := { tunnel := 0, portForward := 0 }

/-- Tunnel channels are numbered from one. -/
def tunnelIds (numbers : ClientNumbers) : List UInt32 :=
  (List.range numbers.tunnel).map fun count => UInt32.ofNat (1 + count)

/-- Forwards and their channels share the even numbers from two. -/
def portForwardIds (numbers : ClientNumbers) : List UInt32 :=
  (List.range numbers.portForward).map fun count => UInt32.ofNat (2 + 2 * count)

/-- A client sends only numbers it has handed out. -/
def allows (numbers : ClientNumbers) : Frame → Bool
  | .tunnelOpen channelId => numbers.tunnelIds.contains channelId
  | .portForwardOpen _ channelId _ => numbers.portForwardIds.contains channelId
  | .portForwardRequest forwardId _ _ _ => numbers.portForwardIds.contains forwardId
  | _ => true

end ClientNumbers

/-- The listener task of a forward. An aborted task runs on until the abort reaches it. -/
structure Acceptor where
  /-- The client connection that asked for the forward. -/
  owner : ClientId
  forwardId : UInt32
  aborted : Bool
  ended : Bool
  deriving DecidableEq

/-- What an event of a connection made the server do to its client. -/
inductive Effect where
  /-- Bytes of the connection went to a client connection. -/
  | sent (opener : Option ClientId) (receiver : ClientId)
  /-- The end of the connection closed a channel. -/
  | closed (opener holder : Option ClientId)
  deriving DecidableEq

/-- The connection and the client it had an effect on belong together. -/
def Effect.Own : Effect → Prop
  | .sent opener receiver => opener = some receiver
  | .closed opener holder => opener = holder

/-- The effect of a frame sent on behalf of a connection. -/
def Effect.ofFrame (opener holder : Option ClientId) (receiver : ClientId) : Frame → Option Effect
  | .tunnelData _ _ => some (.sent opener receiver)
  | .portForwardData _ _ => some (.sent opener receiver)
  | .tunnelClose _ => some (.closed opener holder)
  | .portForwardClose _ => some (.closed opener holder)
  | _ => none

/-- A session's relays, its attached client, and the tasks of every client it has had. -/
structure ForwardingState where
  client : ClientId
  attached : Bool
  numbers : ClientNumbers
  openForwardEnabled : Bool
  tunnel : TunnelRelayState
  pf : PortForwardTable
  tunnelTasks : RelayTasks TunnelEvent
  pfTasks : RelayTasks PortForwardEvent
  acceptors : List Acceptor
  /-- What the run has done on behalf of connections, for the statements below. -/
  effects : List Effect
  deriving DecidableEq

namespace ForwardingState

/-- A session before its first client. -/
def new : ForwardingState where
  client := 0
  attached := false
  numbers := .new
  openForwardEnabled := false
  tunnel := .new
  pf := .new
  tunnelTasks := .new
  pfTasks := .new
  acceptors := []
  effects := []

/-- Abort listener tasks. -/
def abort (acceptors : List Acceptor) (handles : List AcceptorId) : List Acceptor :=
  acceptors.zipIdx.map fun (acceptor, handle) =>
    if handles.contains handle then { acceptor with aborted := true } else acceptor

/-- The holder of a tunnel channel. -/
def tunnelHolder (state : ForwardingState) (channelId : UInt32) : Option ConnId :=
  state.tunnel.channels.lookup channelId

/-- The holder of a port forward channel. -/
def pfHolder (state : ForwardingState) (channelId : UInt32) : Option ConnId :=
  (state.pf.channels.lookup channelId).map (·.2)

/-- The client is gone: forget its channels and abort its listeners. The reader tasks live on. -/
def detach (state : ForwardingState) : ForwardingState :=
  { state with
    attached := false
    openForwardEnabled := false
    tunnel := state.tunnel.teardown
    pf := state.pf.teardown
    acceptors := abort state.acceptors
      (state.pf.forwards.entries.filterMap fun forward => forward.2.listenerHandle) }

/-- A client attaches, in place of the one attached before it, if any. -/
def attach (state : ForwardingState) : ForwardingState :=
  let state := if state.attached then state.detach else state
  { state with client := state.client + 1, attached := true, numbers := .new }

/-- The server handles one frame of its client. The environment says if a connection or a listener succeeds and if a writer is full. -/
def handleClientFrame (state : ForwardingState) (frame : Frame) (succeeds writerFull : Bool) :
    ForwardingState :=
  match frame with
  | .openForward => { state with openForwardEnabled := true }
  | .tunnelOpen channelId =>
    if state.tunnel.port.isSome && succeeds then
      { state with
        tunnel := (state.tunnel.tunnelOpen channelId (some state.tunnelTasks.next)).1
        tunnelTasks := state.tunnelTasks.spawn state.client channelId }
    else { state with tunnel := (state.tunnel.tunnelOpen channelId none).1 }
  | .tunnelData channelId _ =>
    { state with tunnel := (state.tunnel.tunnelData channelId writerFull).1 }
  | .tunnelClose channelId => { state with tunnel := state.tunnel.tunnelClose channelId }
  | .portForwardOpen forwardId channelId _ =>
    if (state.pf.forwards.lookup forwardId).isSome && succeeds then
      { state with
        pf := (state.pf.portForwardOpen forwardId channelId (some state.pfTasks.next)).1
        pfTasks := state.pfTasks.spawn state.client channelId }
    else { state with pf := (state.pf.portForwardOpen forwardId channelId none).1 }
  | .portForwardData channelId _ =>
    { state with pf := (state.pf.portForwardData channelId writerFull).1 }
  | .portForwardClose channelId => { state with pf := state.pf.close channelId }
  | .portForwardStop forwardId =>
    { state with
      pf := state.pf.portForwardStop forwardId
      acceptors := abort state.acceptors
        ((state.pf.forwards.lookup forwardId).bind (·.listenerHandle)).toList }
  | .portForwardRequest forwardId direction _ targetPort =>
    let bound := if succeeds then some state.acceptors.length else none
    { state with
      pf := (state.pf.portForwardRequest forwardId direction targetPort bound).1
      acceptors :=
        if direction = 0 && succeeds then
          state.acceptors ++
            [{ owner := state.client, forwardId, aborted := false, ended := false }]
        else state.acceptors }
  | _ => state

/-- A listener accepts a connection: the event is queued, and then its reader task starts. -/
def accept (state : ForwardingState) (acceptor : Acceptor) : ForwardingState :=
  let channelId := state.pf.nextChannelId
  let conn := state.pfTasks.next
  { state with
    pf := { state.pf with nextChannelId := channelId + 2 }
    pfTasks := (state.pfTasks.spawn acceptor.owner channelId).push conn
      (.accepted acceptor.forwardId channelId conn) }

/-- The server takes one event of a tunnel connection. Without a client it is thrown away. -/
def handleTunnelEvent (state : ForwardingState) (source : ConnId) (event : TunnelEvent) :
    ForwardingState :=
  if state.attached then
    let (tunnel, frames) := state.tunnel.handleTunnelEvent event
    let opener := state.tunnelTasks.ownerOf source
    let holder := (state.tunnelHolder event.channelId).bind state.tunnelTasks.ownerOf
    { state with
      tunnel
      effects := state.effects ++ frames.filterMap (Effect.ofFrame opener holder state.client) }
  else state

/-- The server takes one event of a port forward. Without a client it is thrown away. -/
def handlePfEvent (state : ForwardingState) (source : ConnId) (event : PortForwardEvent) :
    ForwardingState :=
  if state.attached then
    let (pf, frames) := state.pf.handlePfEvent event
    let opener := state.pfTasks.ownerOf source
    let holder := (state.pfHolder event.channelId).bind state.pfTasks.ownerOf
    { state with
      pf
      effects := state.effects ++ frames.filterMap (Effect.ofFrame opener holder state.client) }
  else state

end ForwardingState

/-- What can happen next. Tasks, frames and attachments may come in any order. -/
inductive ForwardingAction where
  | attach
  | detach
  | handOutTunnelId
  | handOutPortForwardId
  | clientFrame (frame : Frame) (succeeds writerFull : Bool)
  | openUrl (url : String) (redirectPort : Option UInt16)
  | idleDeadline
  | accept (acceptor : AcceptorId)
  | acceptorEnds (acceptor : AcceptorId)
  | tunnelRead (conn : ConnId) (bytes : Bytes)
  | tunnelReadEnd (conn : ConnId)
  | tunnelEvent
  | pfRead (conn : ConnId) (bytes : Bytes)
  | pfReadEnd (conn : ConnId)
  | pfEvent

namespace ForwardingState

/-- One action, if it can be taken. -/
def step (state : ForwardingState) : ForwardingAction → Option ForwardingState
  | .attach => some state.attach
  | .detach => if state.attached then some state.detach else none
  | .handOutTunnelId =>
    some { state with numbers := { state.numbers with tunnel := state.numbers.tunnel + 1 } }
  | .handOutPortForwardId =>
    some { state with numbers := { state.numbers with portForward := state.numbers.portForward + 1 } }
  | .clientFrame frame succeeds writerFull =>
    if state.attached && state.numbers.allows frame then
      some (state.handleClientFrame frame succeeds writerFull)
    else none
  | .openUrl url redirectPort =>
    if state.attached then
      some { state with
        tunnel := (state.tunnel.handleOpenEvent state.openForwardEnabled url redirectPort).1 }
    else none
  | .idleDeadline =>
    if state.attached && state.tunnel.idleDeadline then
      some { state with tunnel := state.tunnel.idleExpired }
    else none
  | .accept handle =>
    match state.acceptors[handle]? with
    | some acceptor => if acceptor.ended then none else some (state.accept acceptor)
    | none => none
  | .acceptorEnds handle =>
    match state.acceptors[handle]? with
    | some acceptor =>
      if acceptor.aborted then
        some { state with acceptors := state.acceptors.set handle { acceptor with ended := true } }
      else none
    | none => none
  | .tunnelRead conn bytes =>
    if bytes.isEmpty then none
    else
      (state.tunnelTasks.readData conn (.data · bytes)).map fun tunnelTasks =>
        { state with tunnelTasks }
  | .tunnelReadEnd conn =>
    (state.tunnelTasks.readEnd conn .closed).map fun tunnelTasks => { state with tunnelTasks }
  | .tunnelEvent =>
    match state.tunnelTasks.queue with
    | (source, event) :: queue =>
      some ({ state with tunnelTasks := { state.tunnelTasks with queue } }.handleTunnelEvent
        source event)
    | [] => none
  | .pfRead conn bytes =>
    if bytes.isEmpty then none
    else (state.pfTasks.readData conn (.data · bytes)).map fun pfTasks => { state with pfTasks }
  | .pfReadEnd conn =>
    (state.pfTasks.readEnd conn .closed).map fun pfTasks => { state with pfTasks }
  | .pfEvent =>
    match state.pfTasks.queue with
    | (source, event) :: queue =>
      some ({ state with pfTasks := { state.pfTasks with queue } }.handlePfEvent source event)
    | [] => none

/-- Every effect of a connection was on the client it was opened for. -/
def NeverMixed (state : ForwardingState) : Prop := ∀ effect ∈ state.effects, effect.Own

/-- A listener of an earlier client connection, or a connection it accepted, still waits under a forward. -/
def hasStaleListener (state : ForwardingState) (forwardId : UInt32) : Bool :=
  state.acceptors.any (fun acceptor =>
    acceptor.forwardId == forwardId && acceptor.owner != state.client && !acceptor.ended) ||
  state.pfTasks.queue.any fun
    | (conn, .accepted acceptedFor _ _) =>
      acceptedFor == forwardId && state.pfTasks.ownerOf conn != some state.client
    | _ => false

/-- No action gives a number to the client while a task of an earlier client still reports under it. -/
def NoStaleNumber (state : ForwardingState) : ForwardingAction → Prop
  | .clientFrame (.tunnelOpen channelId) succeeds _ =>
    (state.tunnel.port.isSome && succeeds) = true →
      state.tunnelTasks.hasStale state.client channelId = false
  | .clientFrame (.portForwardOpen forwardId channelId _) succeeds _ =>
    ((state.pf.forwards.lookup forwardId).isSome && succeeds) = true →
      state.pfTasks.hasStale state.client channelId = false
  | .clientFrame (.portForwardRequest forwardId direction _ _) succeeds _ =>
    (direction ≠ 0 ∨ succeeds = true) → state.hasStaleListener forwardId = false
  | .accept handle =>
    ∀ acceptor, state.acceptors[handle]? = some acceptor → acceptor.owner ≠ state.client →
      state.pfHolder state.pf.nextChannelId = none
  | .pfEvent =>
    ∀ source forwardId channelId conn,
      state.pfTasks.queue.head? = some (source, .accepted forwardId channelId conn) →
      (state.pf.forwards.lookup forwardId).isSome = true →
        state.pfTasks.hasStale state.client channelId = false
  | _ => True

end ForwardingState

/-- The session from its start. -/
def forwarding : Machine ForwardingState ForwardingAction where
  init := .new
  step := ForwardingState.step

end Gritty
