import Gritty.Lib.Transition
import Gritty.Relay.Tunnel

/-! Callback flows between a server and its client, and what may end one that is pending. -/

namespace Gritty

/-- The channel number of a declined listen request. Accepted connections start above it. -/
def tunnelDeclineChannel : UInt32 := 0

/-- What the client's listener and local sockets report. -/
inductive ClientTunnelEvent where
  | accepted (channelId : UInt32)
  | data (channelId : UInt32) (bytes : Bytes)
  | closed (channelId : UInt32)
  deriving DecidableEq

/-- The client's half of the tunnel. -/
structure ClientTunnelState where
  /-- A listener is bound to the callback port. -/
  listener : Bool
  /-- The channels that have a writer. -/
  channels : List UInt32
  nextChannelId : UInt32
  deriving DecidableEq

/-- A client that has just attached. -/
def ClientTunnelState.new : ClientTunnelState :=
  { listener := false, channels := [], nextChannelId := tunnelDeclineChannel + 1 }

/-- What has happened to a flow since its port was set. -/
structure CallbackFlow where
  /-- The channels opened since. -/
  opened : List UInt32
  /-- The client has declined since, or one of those channels has closed. -/
  ended : Bool
  deriving DecidableEq

/-- A server, its attached client, and everything in flight between them. -/
structure CallbackSystem where
  tunnel : TunnelRelayState
  openForwardEnabled : Bool
  /-- The server's connections: the channel each was opened for, and whether its reader still runs. -/
  conns : List (UInt32 × Bool)
  /-- Events of the server's readers, oldest first. -/
  events : List TunnelEvent
  client : ClientTunnelState
  /-- The channels whose local socket the client still reads. -/
  sockets : List UInt32
  /-- Events of the client's listener and sockets, oldest first. -/
  clientEvents : List ClientTunnelEvent
  toServer : List Frame
  toClient : List Frame
  /-- The latest flow of this attachment: what the run has done to it, for the statements below. -/
  flow : Option CallbackFlow
  deriving DecidableEq

namespace CallbackSystem

/-- A session before its first client. -/
def new : CallbackSystem where
  tunnel := .new
  openForwardEnabled := false
  conns := []
  events := []
  client := .new
  sockets := []
  clientEvents := []
  toServer := []
  toClient := []
  flow := none

/-- The flow has one more channel. -/
def noteOpened (flow : Option CallbackFlow) (channelId : UInt32) : Option CallbackFlow :=
  flow.map fun pending => { pending with opened := channelId :: pending.opened }

/-- A channel has closed: the flow is over if the channel was its own, or the client declined. -/
def noteClosed (flow : Option CallbackFlow) (channelId : UInt32) : Option CallbackFlow :=
  flow.map fun pending =>
    if channelId = tunnelDeclineChannel ∨ channelId ∈ pending.opened then
      { pending with ended := true }
    else pending

/-- The server handles one frame of the client. The environment says if a connection succeeds and if a writer is full. -/
def handleClientFrame (system : CallbackSystem) (frame : Frame) (connects writerFull : Bool) :
    CallbackSystem :=
  match frame with
  | .openForward => { system with openForwardEnabled := true }
  | .tunnelOpen channelId =>
    if system.tunnel.port.isSome then
      let conn := if connects then some system.conns.length else none
      let (tunnel, frames) := system.tunnel.tunnelOpen channelId conn
      { system with
        tunnel
        conns := if connects then system.conns ++ [(channelId, true)] else system.conns
        toClient := system.toClient ++ frames
        flow := noteOpened system.flow channelId }
    else system
  | .tunnelData channelId _ =>
    let (tunnel, frames) := system.tunnel.tunnelData channelId writerFull
    let closed := (system.tunnel.channels.lookup channelId).isSome && writerFull
    { system with
      tunnel
      toClient := system.toClient ++ frames
      flow := if closed then noteClosed system.flow channelId else system.flow }
  | .tunnelClose channelId =>
    { system with
      tunnel := system.tunnel.tunnelClose channelId
      flow := noteClosed system.flow channelId }
  | _ => system

/-- The server handles one event of its readers. -/
def handleTunnelEvent (system : CallbackSystem) (event : TunnelEvent) : CallbackSystem :=
  let (tunnel, frames) := system.tunnel.handleTunnelEvent event
  let system := { system with toClient := system.toClient ++ frames }
  match event with
  | .data _ _ => { system with tunnel }
  | .closed channelId =>
    let closed := (system.tunnel.channels.lookup channelId).isSome
    { system with
      tunnel
      flow := if closed then noteClosed system.flow channelId else system.flow }

/-- The server forwards a URL. A redirect port starts a new flow. -/
def handleOpenEvent (system : CallbackSystem) (url : String) (redirectPort : Option UInt16) :
    CallbackSystem :=
  let (tunnel, frames, _) :=
    system.tunnel.handleOpenEvent system.openForwardEnabled url redirectPort
  let starts := system.openForwardEnabled && redirectPort.isSome
  { system with
    tunnel
    toClient := system.toClient ++ frames
    flow := if starts then some { opened := [], ended := false } else system.flow }

/-- The client sends a frame. -/
def send (system : CallbackSystem) (frame : Frame) : CallbackSystem :=
  { system with toServer := system.toServer ++ [frame] }

/-- The client handles one frame of the server. The environment says if it can listen and if a writer is full. -/
def handleServerFrame (system : CallbackSystem) (frame : Frame) (listens writerFull : Bool) :
    CallbackSystem :=
  match frame with
  | .tunnelListen _ =>
    if listens then { system with client := { system.client with listener := true } }
    else system.send (.tunnelClose tunnelDeclineChannel)
  | .tunnelData channelId _ =>
    if channelId ∈ system.client.channels ∧ writerFull then
      { system with
        client := { system.client with channels := system.client.channels.erase channelId }
        }.send (.tunnelClose channelId)
    else system
  | .tunnelClose channelId =>
    { system with
      client := { system.client with channels := system.client.channels.erase channelId } }
  | _ => system

/-- The client handles one event of its listener or sockets. A closed socket is always reported. -/
def handleClientTunnelEvent (system : CallbackSystem) : ClientTunnelEvent → CallbackSystem
  | .accepted channelId =>
    { system with
      client := { system.client with channels := channelId :: system.client.channels }
      }.send (.tunnelOpen channelId)
  | .data channelId bytes => system.send (.tunnelData channelId bytes)
  | .closed channelId =>
    { system with
      client := { system.client with channels := system.client.channels.erase channelId }
      }.send (.tunnelClose channelId)

/-- The attached client is gone, and another one takes its place. -/
def reattach (system : CallbackSystem) (openForward : Bool) : CallbackSystem :=
  { system with
    tunnel := system.tunnel.teardown
    openForwardEnabled := false
    client := .new
    sockets := []
    clientEvents := []
    toServer := if openForward then [.openForward] else []
    toClient := []
    flow := none }

end CallbackSystem

/-- One thing that happens in the system. -/
inductive CallbackAction where
  /-- A program asks for a URL to be opened; its redirect port is in use, if there is one. -/
  | openUrl (url : String) (redirectPort : Option UInt16)
  /-- The server takes the client's next frame. -/
  | clientFrame (connects writerFull : Bool)
  /-- The server takes the next event of its readers. -/
  | tunnelEvent
  /-- A reader of the server gets bytes, or the end of its stream. -/
  | read (conn : ConnId) (bytes : Bytes)
  | readEnd (conn : ConnId)
  /-- The armed idle deadline passes. -/
  | deadline
  /-- The client takes the server's next frame. -/
  | serverFrame (listens writerFull : Bool)
  /-- The client takes the next event of its sockets. -/
  | clientEvent
  /-- The client's listener accepts a connection. -/
  | accept
  /-- A local socket of the client gets bytes, or reaches its end. -/
  | localRead (channelId : UInt32) (bytes : Bytes)
  | localEnd (channelId : UInt32)
  /-- The client goes, and another one attaches. -/
  | reattach (openForward : Bool)
  deriving DecidableEq

/-- What one action does. What is not there cannot be taken. -/
def CallbackSystem.step (system : CallbackSystem) : CallbackAction → Option CallbackSystem
  | .openUrl url redirectPort => some (system.handleOpenEvent url redirectPort)
  | .clientFrame connects writerFull =>
    match system.toServer with
    | frame :: later =>
      some ({ system with toServer := later }.handleClientFrame frame connects writerFull)
    | [] => none
  | .tunnelEvent =>
    match system.events with
    | event :: later => some ({ system with events := later }.handleTunnelEvent event)
    | [] => none
  | .read conn bytes =>
    match system.conns[conn]? with
    | some (channelId, true) =>
      some { system with events := system.events ++ [.data channelId bytes] }
    | _ => none
  | .readEnd conn =>
    match system.conns[conn]? with
    | some (channelId, true) =>
      some { system with
        conns := system.conns.set conn (channelId, false)
        events := system.events ++ [.closed channelId] }
    | _ => none
  | .deadline =>
    if system.tunnel.idleDeadline then some { system with tunnel := system.tunnel.idleExpired }
    else none
  | .serverFrame listens writerFull =>
    match system.toClient with
    | frame :: later =>
      some ({ system with toClient := later }.handleServerFrame frame listens writerFull)
    | [] => none
  | .clientEvent =>
    match system.clientEvents with
    | event :: later => some ({ system with clientEvents := later }.handleClientTunnelEvent event)
    | [] => none
  | .accept =>
    if system.client.listener then
      let channelId := system.client.nextChannelId
      some { system with
        client := { system.client with nextChannelId := channelId + 1 }
        sockets := channelId :: system.sockets
        clientEvents := system.clientEvents ++ [.accepted channelId] }
    else none
  | .localRead channelId bytes =>
    if channelId ∈ system.sockets then
      some { system with clientEvents := system.clientEvents ++ [.data channelId bytes] }
    else none
  | .localEnd channelId =>
    if channelId ∈ system.sockets then
      some { system with
        sockets := system.sockets.erase channelId
        clientEvents := system.clientEvents ++ [.closed channelId] }
    else none
  | .reattach openForward => some (system.reattach openForward)

/-- The system as a state machine. -/
def callbackSystem : Machine CallbackSystem CallbackAction where
  init := .new
  step := CallbackSystem.step

/-- A flow that is not over has its port set and no deadline armed. -/
def FlowKept (system : CallbackSystem) : Prop :=
  ∀ pending, system.flow = some pending → pending.ended = false →
    system.tunnel.port.isSome = true ∧ system.tunnel.idleDeadline = false

/-- The channel that the server closes in an action, if it closes one. -/
def closesChannel (system : CallbackSystem) : CallbackAction → Option UInt32
  | .clientFrame _ writerFull =>
    match system.toServer.head? with
    | some (.tunnelClose channelId) => some channelId
    | some (.tunnelData channelId _) =>
      if (system.tunnel.channels.lookup channelId).isSome && writerFull then some channelId
      else none
    | _ => none
  | .tunnelEvent =>
    match system.events.head? with
    | some (.closed channelId) =>
      if (system.tunnel.channels.lookup channelId).isSome then some channelId else none
    | _ => none
  | _ => none

/-- A close that is no business of the pending flow, and leaves the tunnel without a channel. -/
def LeftoverClose (system : CallbackSystem) (channelId : UInt32) : Prop :=
  ∃ pending, system.flow = some pending ∧ pending.ended = false ∧
    channelId ≠ tunnelDeclineChannel ∧ channelId ∉ pending.opened ∧
    (system.tunnel.channels.erase channelId).keys.isEmpty = true

/-- The condition under which a pending flow is left alone: no action closes such a channel. -/
def NoLeftoverClose (system : CallbackSystem) (action : CallbackAction) : Prop :=
  ∀ channelId, closesChannel system action = some channelId → ¬ LeftoverClose system channelId

section Steps

open CallbackSystem

/-- An action that changes neither the tunnel nor the flow keeps the flow. -/
theorem flowKept_of_same {system next : CallbackSystem} (kept : FlowKept system)
    (tunnel : next.tunnel = system.tunnel) (flow : next.flow = system.flow) : FlowKept next := by
  intro pending held alive
  rw [tunnel]
  exact kept pending (flow ▸ held) alive

/-- A close that is not a leftover keeps the flow, or is the end of it. -/
theorem flowKept_close {system next : CallbackSystem} (kept : FlowKept system) {channelId : UInt32}
    (own : ¬ LeftoverClose system channelId)
    (tunnel : next.tunnel = system.tunnel.close channelId)
    (flow : next.flow = noteClosed system.flow channelId) : FlowKept next := by
  intro pending held alive
  rw [flow] at held
  cases before : system.flow with
  | none => simp [noteClosed, before] at held
  | some earlier =>
    simp only [noteClosed, before, Option.map_some, Option.some.injEq] at held
    -- The flow's own channels and a decline end it, so a flow that goes on had another one closed.
    by_cases ends : channelId = tunnelDeclineChannel ∨ channelId ∈ earlier.opened
    · rw [if_pos ends] at held
      rw [← held] at alive
      simp at alive
    · rw [if_neg ends] at held
      subst held
      obtain ⟨port, deadline⟩ := kept earlier before alive
      have others : (system.tunnel.channels.erase channelId).keys.isEmpty = false := by
        cases left : (system.tunnel.channels.erase channelId).keys.isEmpty with
        | false => rfl
        | true =>
          have leftover : LeftoverClose system channelId :=
            ⟨earlier, before, alive, fun same => ends (Or.inl same),
              fun inside => ends (Or.inr inside), left⟩
          exact absurd leftover own
      -- Another channel is still open, so nothing is armed.
      rw [tunnel, TunnelRelayState.close_port, TunnelRelayState.close_idleDeadline, others,
        deadline]
      exact ⟨port, rfl⟩

/-- A leftover close arms the deadline under a flow that is still pending. -/
theorem leftover_breaks {system next : CallbackSystem} (kept : FlowKept system)
    {channelId : UInt32} (leftover : LeftoverClose system channelId)
    (tunnel : next.tunnel = system.tunnel.close channelId)
    (flow : next.flow = noteClosed system.flow channelId) : ¬ FlowKept next := by
  intro after
  obtain ⟨pending, before, alive, other, foreign, empty⟩ := leftover
  obtain ⟨port, _⟩ := kept pending before alive
  have same : next.flow = some pending := by
    simp [flow, noteClosed, before, other, foreign]
  have armed := (after pending same alive).2
  rw [tunnel, TunnelRelayState.close_idleDeadline, empty, port] at armed
  simp at armed

/-- A frame of the client keeps the flow, unless it is a leftover close. -/
theorem flowKept_clientFrame {system : CallbackSystem} (kept : FlowKept system) (frame : Frame)
    (connects writerFull : Bool)
    (own : ∀ channelId,
      (frame = .tunnelClose channelId ∨ (∃ bytes, frame = .tunnelData channelId bytes) ∧
        ((system.tunnel.channels.lookup channelId).isSome && writerFull) = true) →
      ¬ LeftoverClose system channelId) :
    FlowKept (system.handleClientFrame frame connects writerFull) := by
  cases frame with
  | tunnelOpen channelId =>
    simp only [handleClientFrame]
    cases set : system.tunnel.port with
    | none => exact kept
    | some port =>
      -- An opened channel clears the deadline, and the port stays as it was.
      intro pending held alive
      cases connects <;>
        simp [TunnelRelayState.tunnelOpen, set, TunnelRelayState.registerTunnelChannel]
  | tunnelData channelId bytes =>
    simp only [handleClientFrame, TunnelRelayState.tunnelData]
    cases full : (system.tunnel.channels.lookup channelId).isSome && writerFull with
    | true => exact flowKept_close kept (own channelId (Or.inr ⟨⟨bytes, rfl⟩, full⟩)) rfl rfl
    | false => exact flowKept_of_same kept rfl rfl
  | tunnelClose channelId => exact flowKept_close kept (own channelId (Or.inl rfl)) rfl rfl
  | openForward => exact flowKept_of_same kept rfl rfl
  | _ => exact kept

/-- An event of the server's readers keeps the flow, unless it is a leftover close. -/
theorem flowKept_tunnelEvent {system : CallbackSystem} (kept : FlowKept system)
    (event : TunnelEvent)
    (own : ∀ channelId, event = .closed channelId →
      (system.tunnel.channels.lookup channelId).isSome = true → ¬ LeftoverClose system channelId) :
    FlowKept (system.handleTunnelEvent event) := by
  cases event with
  | data channelId bytes =>
    simp only [handleTunnelEvent, TunnelRelayState.handleTunnelEvent]
    split <;> exact flowKept_of_same kept rfl rfl
  | closed channelId =>
    simp only [handleTunnelEvent, TunnelRelayState.handleTunnelEvent]
    cases here : (system.tunnel.channels.lookup channelId).isSome with
    | true => exact flowKept_close kept (own channelId rfl here) rfl rfl
    | false => exact flowKept_of_same kept rfl rfl

/-- A URL keeps the flow, or starts one with its port set and no deadline. -/
theorem flowKept_openEvent {system : CallbackSystem} (kept : FlowKept system) (url : String)
    (redirectPort : Option UInt16) : FlowKept (system.handleOpenEvent url redirectPort) := by
  simp only [handleOpenEvent, TunnelRelayState.handleOpenEvent]
  cases system.openForwardEnabled with
  | false => exact flowKept_of_same kept rfl rfl
  | true =>
    cases redirectPort with
    | none => exact flowKept_of_same kept rfl rfl
    | some port => exact fun pending held alive => ⟨rfl, rfl⟩

/-- A frame of the server, handled by the client, leaves the server as it is. -/
theorem flowKept_serverFrame {system : CallbackSystem} (kept : FlowKept system) (frame : Frame)
    (listens writerFull : Bool) :
    FlowKept (system.handleServerFrame frame listens writerFull) := by
  cases frame with
  | tunnelListen port =>
    simp only [handleServerFrame]
    split <;> exact flowKept_of_same kept rfl rfl
  | tunnelData channelId bytes =>
    simp only [handleServerFrame]
    split <;> exact flowKept_of_same kept rfl rfl
  | tunnelClose channelId => exact flowKept_of_same kept rfl rfl
  | _ => exact kept

/-- Every action that closes no leftover keeps the flow. -/
theorem flowKept_step (system : CallbackSystem) (action : CallbackAction) (next : CallbackSystem)
    (kept : FlowKept system) (met : NoLeftoverClose system action)
    (stepped : system.step action = some next) : FlowKept next := by
  cases action with
  | openUrl url redirectPort =>
    obtain rfl := Option.some.inj stepped
    exact flowKept_openEvent kept url redirectPort
  | clientFrame connects writerFull =>
    cases queued : system.toServer with
    | nil => simp [step, queued] at stepped
    | cons frame later =>
      simp only [step, queued, Option.some.injEq] at stepped
      rw [← stepped]
      have dequeued : FlowKept { system with toServer := later } := kept
      apply flowKept_clientFrame dequeued
      -- The condition speaks of the frame at the head of the link, which is this one.
      rintro channelId (rfl | ⟨⟨bytes, rfl⟩, full⟩)
      · exact met channelId (by simp [closesChannel, queued])
      · exact met channelId (by simp only [closesChannel, queued, List.head?_cons]; rw [if_pos full])
  | tunnelEvent =>
    cases queued : system.events with
    | nil => simp [step, queued] at stepped
    | cons event later =>
      simp only [step, queued, Option.some.injEq] at stepped
      rw [← stepped]
      have dequeued : FlowKept { system with events := later } := kept
      apply flowKept_tunnelEvent dequeued
      rintro channelId rfl here
      exact met channelId (by simp only [closesChannel, queued, List.head?_cons]; rw [if_pos here])
  | read conn bytes =>
    simp only [step] at stepped
    split at stepped
    · cases stepped
      exact flowKept_of_same kept rfl rfl
    · simp at stepped
  | readEnd conn =>
    simp only [step] at stepped
    split at stepped
    · cases stepped
      exact flowKept_of_same kept rfl rfl
    · simp at stepped
  | deadline =>
    cases armed : system.tunnel.idleDeadline with
    | false => simp [step, armed] at stepped
    | true =>
      simp only [step, armed, if_true, Option.some.injEq] at stepped
      rw [← stepped]
      -- An armed deadline says that no flow is pending.
      intro pending held alive
      exact absurd (kept pending held alive).2 (by simp [armed])
  | serverFrame listens writerFull =>
    cases queued : system.toClient with
    | nil => simp [step, queued] at stepped
    | cons frame later =>
      simp only [step, queued, Option.some.injEq] at stepped
      rw [← stepped]
      have dequeued : FlowKept { system with toClient := later } := kept
      exact flowKept_serverFrame dequeued frame listens writerFull
  | clientEvent =>
    cases queued : system.clientEvents with
    | nil => simp [step, queued] at stepped
    | cons event later =>
      simp only [step, queued, Option.some.injEq] at stepped
      rw [← stepped]
      cases event <;> exact flowKept_of_same kept rfl rfl
  | accept =>
    obtain ⟨-, rfl⟩ := of_guarded stepped
    exact flowKept_of_same kept rfl rfl
  | localRead channelId bytes =>
    obtain ⟨-, rfl⟩ := of_guarded stepped
    exact flowKept_of_same kept rfl rfl
  | localEnd channelId =>
    obtain ⟨-, rfl⟩ := of_guarded stepped
    exact flowKept_of_same kept rfl rfl
  | reattach openForward =>
    cases stepped
    intro pending held
    simp [reattach] at held

/-- An action that closes a leftover arms the deadline under a pending flow. -/
theorem flowKept_broken (system : CallbackSystem) (action : CallbackAction)
    (kept : FlowKept system) (unmet : ¬ NoLeftoverClose system action) :
    ∃ next, system.step action = some next ∧ ¬ FlowKept next := by
  simp only [NoLeftoverClose, not_forall, not_not] at unmet
  obtain ⟨channelId, closes, leftover⟩ := unmet
  cases action with
  | clientFrame connects writerFull =>
    cases queued : system.toServer with
    | nil => simp [closesChannel, queued] at closes
    | cons frame later =>
      refine ⟨_, by simp only [step, queued]; rfl, ?_⟩
      have dequeued : FlowKept { system with toServer := later } := kept
      simp only [closesChannel, queued, List.head?_cons] at closes
      -- Only two frames close a channel: a close, and data for a full writer.
      split at closes
      · next same =>
        cases same
        cases closes
        exact leftover_breaks dequeued leftover rfl rfl
      · next other bytes same =>
        cases same
        obtain ⟨full, rfl⟩ := of_guarded closes
        simp only [handleClientFrame, TunnelRelayState.tunnelData, full, if_true]
        exact leftover_breaks dequeued leftover rfl rfl
      · simp at closes
  | tunnelEvent =>
    cases queued : system.events with
    | nil => simp [closesChannel, queued] at closes
    | cons event later =>
      refine ⟨_, by simp only [step, queued]; rfl, ?_⟩
      have dequeued : FlowKept { system with events := later } := kept
      simp only [closesChannel, queued, List.head?_cons] at closes
      split at closes
      · next same =>
        cases same
        obtain ⟨here, rfl⟩ := of_guarded closes
        simp only [handleTunnelEvent, TunnelRelayState.handleTunnelEvent, here, if_true]
        exact leftover_breaks dequeued leftover rfl rfl
      · simp at closes
  | _ => simp [closesChannel] at closes

end Steps

/--
A pending callback flow is never torn down in any state of a run exactly when the run closes no leftover.

Pending means: its port was set, and since then the client has not declined or gone, and no channel opened since has closed.
-/
theorem flowKept_along_iff (actions : List CallbackAction) :
    callbackSystem.Along FlowKept callbackSystem.init actions ↔
      callbackSystem.Meets NoLeftoverClose callbackSystem.init actions := by
  have start : FlowKept callbackSystem.init := by
    intro pending held
    simp [callbackSystem, CallbackSystem.new] at held
  exact Machine.along_iff_meets (fun _ kept => kept) flowKept_step
    (fun system action kept unmet => flowKept_broken system action kept unmet) start actions

/-- A first callback ends on the server's side, a second flow starts, and the client's answer arrives. -/
def lateAnswer : List CallbackAction :=
  [.reattach true, .clientFrame false false,
    -- The first flow: listen, open channel 1, and the server's connection ends.
    .openUrl "first" (some 8080), .serverFrame true false, .serverFrame true false,
    .accept, .clientEvent, .clientFrame true false, .readEnd 0, .tunnelEvent, .serverFrame true false,
    -- The second flow is set up, and only now does the local socket of channel 1 reach its end.
    .openUrl "second" (some 8081), .localEnd 1, .clientEvent, .clientFrame true false,
    -- The deadline that the answer armed takes the port away.
    .deadline]

/-- After it, the second flow is pending and its port is gone. -/
theorem flow_lost_after_lateAnswer :
    ¬ ∀ actions last, callbackSystem.run callbackSystem.init actions = some last →
      FlowKept last := by
  intro always
  have kept := always lateAnswer _ rfl
  exact absurd (kept { opened := [], ended := false } rfl rfl).1 (by decide)

end Gritty
