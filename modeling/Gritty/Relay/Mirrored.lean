import Gritty.Relay.AttachedClient

/-! Both ends agree on their channels as long as no request to open one reaches a tunnel without a port. -/

namespace Gritty

/-- What an action does to a link: its first frame may be taken off, and frames that fit are added behind. -/
def Extends (fits : Frame → Prop) (taken : Bool) (before after : List Frame) : Prop :=
  ∃ sent, after = (if taken then before.tail else before) ++ sent ∧ ∀ frame ∈ sent, fits frame

namespace Extends

variable {fits : Frame → Prop} {taken : Bool} {before after : List Frame}

theorem nothing (fits : Frame → Prop) (frames : List Frame) : Extends fits false frames frames :=
  ⟨[], by simp, by simp⟩

theorem none (fits : Frame → Prop) (frames : List Frame) :
    Extends fits false frames (frames ++ []) :=
  ⟨[], by simp, by simp⟩

theorem rest (fits : Frame → Prop) {frame : Frame} {later : List Frame}
    (queued : before = frame :: later) : Extends fits true before later :=
  ⟨[], by simp [queued], by simp⟩

theorem one {frame : Frame} (frames : List Frame) (fit : fits frame) :
    Extends fits false frames (frames ++ [frame]) :=
  ⟨[frame], by simp, by simpa using fit⟩

theorem length (extended : Extends fits taken before after) :
    before.length ≤ after.length + if taken then 1 else 0 := by
  obtain ⟨sent, rfl, -⟩ := extended
  cases taken <;> simp
  omega

/-- A link of fitting frames stays one. -/
theorem all (extended : Extends fits taken before after) (fit : ∀ frame ∈ before, fits frame) :
    ∀ frame ∈ after, fits frame := by
  obtain ⟨sent, rfl, added⟩ := extended
  intro frame inside
  rcases List.mem_append.mp inside with old | new
  · cases taken with
    | true => exact fit frame (List.mem_of_mem_tail old)
    | false => exact fit frame old
  · exact added frame new

end Extends

/-- A frame that opens nothing. -/
def Unasking (frame : Frame) : Prop := AttachedClient.opening frame = none

/-- A frame that opens no channel of another kind. -/
def AsksOnly (kind : ChannelKind) (frame : Frame) : Prop :=
  ∀ other channelId, AttachedClient.opening frame = some (other, channelId) → other = kind

theorem Unasking.asksOnly {frame : Frame} (unasking : Unasking frame) (kind : ChannelKind) :
    AsksOnly kind frame :=
  fun _ _ opens => absurd (unasking.symm.trans opens) (by simp)

theorem Extends.unasking {frame : Frame} (kind : ChannelKind) (frames : List Frame)
    (unasking : AttachedClient.opening frame = Option.none) :
    Extends (AsksOnly kind) false frames (frames ++ [frame]) :=
  .one frames (Unasking.asksOnly unasking kind)

/-! ### What the actions do to the links -/

namespace AgentSystem

/-- Handling a frame of the client adds to the link to the client only. -/
private theorem clientFrame_links (system : AgentSystem) (frame : Frame)
    (binds writerFull : Bool) :
    (system.handleClientFrame frame binds writerFull).toServer = system.toServer ∧
      Extends (AsksOnly .agent) false system.toClient
        (system.handleClientFrame frame binds writerFull).toClient := by
  cases frame with
  | agentData channelId bytes =>
    refine ⟨rfl, ?_⟩
    simp only [handleClientFrame, AgentForwardState.agentData]
    split
    · exact .unasking _ _ (by rfl)
    · exact .none _ _
  | _ => exact ⟨rfl, .nothing _ _⟩

/-- Handling a frame of the server adds to the link to the server only. -/
private theorem serverFrame_links (system : AgentSystem) (frame : Frame)
    (connected : Option ConnId) (writerFull : Bool) :
    (system.handleServerFrame frame connected writerFull).toClient = system.toClient ∧
      Extends Unasking false system.toServer
        (system.handleServerFrame frame connected writerFull).toServer := by
  cases frame with
  | agentOpen channelId =>
    refine ⟨rfl, ?_⟩
    cases connected with
    | some conn => simpa [handleServerFrame, ClientAgentState.agentOpen] using .nothing _ _
    | none => exact .one _ rfl
  | agentData channelId bytes =>
    refine ⟨rfl, ?_⟩
    simp only [handleServerFrame, ClientAgentState.agentData]
    split
    · exact .one _ rfl
    · exact .none _ _
  | _ => exact ⟨rfl, .nothing _ _⟩

variable {system next : AgentSystem}

/-- The server asks for agent channels, the client for none. -/
theorem step_links {action : AgentAction} (stepped : system.step action = some next) :
    Extends Unasking (action.receiver = some .server) system.toServer next.toServer ∧
      Extends (AsksOnly .agent) (action.receiver = some .client) system.toClient
        next.toClient := by
  cases action with
  | clientFrame binds writerFull =>
    cases queued : system.toServer with
    | nil => simp [step, queued] at stepped
    | cons frame later =>
      simp only [step, queued, Option.some.injEq] at stepped
      subst stepped
      obtain ⟨same, more⟩ :=
        clientFrame_links { system with toServer := later } frame binds writerFull
      exact ⟨same ▸ Extends.rest _ rfl, more⟩
  | serverFrame connected writerFull =>
    cases queued : system.toClient with
    | nil => simp [step, queued] at stepped
    | cons frame later =>
      simp only [step, queued, Option.some.injEq] at stepped
      subst stepped
      obtain ⟨same, more⟩ :=
        serverFrame_links { system with toClient := later } frame connected writerFull
      exact ⟨more, same ▸ Extends.rest _ rfl⟩
  | agentEvent =>
    cases queued : system.events with
    | nil => simp [step, queued] at stepped
    | cons event later =>
      simp only [step, queued, Option.some.injEq] at stepped
      subst stepped
      refine ⟨.nothing _ _, ?_⟩
      cases event with
      | accepted channelId conn =>
        simp only [AgentForwardState.handleAgentEvent]
        split
        · refine .one _ fun other opened opens => ?_
          exact ((Option.some.inj opens).symm ▸ rfl : (other, opened).1 = ChannelKind.agent)
        · exact .none _ _
      | _ =>
        simp only [AgentForwardState.handleAgentEvent]
        split
        · exact .unasking _ _ (by rfl)
        · exact .none _ _
  | clientEvent =>
    cases queued : system.clientEvents with
    | nil => simp [step, queued] at stepped
    | cons event later =>
      simp only [step, queued, Option.some.injEq] at stepped
      subst stepped
      refine ⟨?_, .nothing _ _⟩
      cases event <;>
      · simp only [ClientAgentState.handleAgentEvent]
        split
        · exact .one _ rfl
        · exact .none _ _
  | accepts conn =>
    obtain ⟨-, rfl⟩ := of_guarded stepped
    exact ⟨.nothing _ _, .nothing _ _⟩
  | reports channelId bytes =>
    cases bytes <;> rw [← Option.some.inj stepped] <;> exact ⟨.nothing _ _, .nothing _ _⟩
  | clientReports channelId bytes =>
    cases bytes <;> rw [← Option.some.inj stepped] <;> exact ⟨.nothing _ _, .nothing _ _⟩

end AgentSystem

namespace CallbackSystem

/-- Handling a frame of the client adds to the link to the client only. -/
private theorem clientFrame_tunnelLinks (system : CallbackSystem) (frame : Frame)
    (connects writerFull : Bool) :
    (system.handleClientFrame frame connects writerFull).toServer = system.toServer ∧
      Extends Unasking false system.toClient
        (system.handleClientFrame frame connects writerFull).toClient := by
  cases frame with
  | tunnelOpen id =>
    simp only [handleClientFrame]
    split
    · refine ⟨rfl, ?_⟩
      cases connects <;> simp only [TunnelRelayState.tunnelOpen] <;> split <;>
        first
        | exact .one _ rfl
        | exact .none _ _
    · exact ⟨rfl, .nothing _ _⟩
  | tunnelData id bytes =>
    refine ⟨rfl, ?_⟩
    simp only [handleClientFrame, TunnelRelayState.tunnelData]
    split
    · exact .one _ rfl
    · exact .none _ _
  | _ => exact ⟨rfl, .nothing _ _⟩

/-- Handling a frame of the server adds to the link to the server only. -/
private theorem serverFrame_tunnelLinks (system : CallbackSystem) (frame : Frame)
    (listens writerFull : Bool) :
    (system.handleServerFrame frame listens writerFull).toClient = system.toClient ∧
      Extends (AsksOnly .tunnel) false system.toServer
        (system.handleServerFrame frame listens writerFull).toServer := by
  cases frame with
  | tunnelListen port =>
    simp only [handleServerFrame]
    split
    · exact ⟨rfl, .nothing _ _⟩
    · exact ⟨rfl, .unasking _ _ (by rfl)⟩
  | tunnelData id bytes =>
    simp only [handleServerFrame]
    split
    · exact ⟨rfl, .unasking _ _ (by rfl)⟩
    · exact ⟨rfl, .nothing _ _⟩
  | _ => exact ⟨rfl, .nothing _ _⟩

variable {system next : CallbackSystem}

/-- While the client stays, it asks for tunnel channels, and the server for none. -/
theorem step_links {action : CallbackAction} (stepped : system.step action = some next)
    (stays : ∀ openForward, action ≠ .reattach openForward) :
    Extends (AsksOnly .tunnel) (action.receiver = some .server) system.toServer next.toServer ∧
      Extends Unasking (action.receiver = some .client) system.toClient next.toClient := by
  cases action with
  | clientFrame connects writerFull =>
    cases queued : system.toServer with
    | nil => simp [step, queued] at stepped
    | cons frame later =>
      simp only [step, queued, Option.some.injEq] at stepped
      subst stepped
      obtain ⟨same, more⟩ :=
        clientFrame_tunnelLinks { system with toServer := later } frame connects writerFull
      exact ⟨same ▸ Extends.rest _ rfl, more⟩
  | serverFrame listens writerFull =>
    cases queued : system.toClient with
    | nil => simp [step, queued] at stepped
    | cons frame later =>
      simp only [step, queued, Option.some.injEq] at stepped
      subst stepped
      obtain ⟨same, more⟩ :=
        serverFrame_tunnelLinks { system with toClient := later } frame listens writerFull
      exact ⟨more, same ▸ Extends.rest _ rfl⟩
  | openUrl url redirectPort =>
    rw [← Option.some.inj stepped]
    refine ⟨.nothing _ _, ?_⟩
    simp only [handleOpenEvent, TunnelRelayState.handleOpenEvent]
    cases system.openForwardEnabled with
    | false => exact .none _ _
    | true =>
      cases redirectPort with
      | none => exact .one _ rfl
      | some port =>
        refine ⟨_, rfl, fun frame inside => ?_⟩
        rcases List.mem_pair.mp inside with rfl | rfl <;> rfl
  | tunnelEvent =>
    cases queued : system.events with
    | nil => simp [step, queued] at stepped
    | cons event later =>
      simp only [step, queued, Option.some.injEq] at stepped
      subst stepped
      cases event <;>
      · refine ⟨.nothing _ _, ?_⟩
        simp only [handleTunnelEvent, TunnelRelayState.handleTunnelEvent]
        split
        · exact .one _ rfl
        · exact .none _ _
  | clientEvent =>
    cases queued : system.clientEvents with
    | nil => simp [step, queued] at stepped
    | cons event later =>
      simp only [step, queued, Option.some.injEq] at stepped
      subst stepped
      cases event with
      | accepted id =>
        refine ⟨.one _ fun other opened opens => ?_, .nothing _ _⟩
        exact ((Option.some.inj opens).symm ▸ rfl : (other, opened).1 = ChannelKind.tunnel)
      | _ => exact ⟨.unasking _ _ (by rfl), .nothing _ _⟩
  | read conn bytes =>
    simp only [step] at stepped
    split at stepped
    · cases stepped
      exact ⟨.nothing _ _, .nothing _ _⟩
    · simp at stepped
  | readEnd conn =>
    simp only [step] at stepped
    split at stepped
    · cases stepped
      exact ⟨.nothing _ _, .nothing _ _⟩
    · simp at stepped
  | deadline =>
    obtain ⟨-, rfl⟩ := of_guarded stepped
    exact ⟨.nothing _ _, .nothing _ _⟩
  | accept =>
    obtain ⟨-, rfl⟩ := of_guarded stepped
    exact ⟨.nothing _ _, .nothing _ _⟩
  | localRead id bytes =>
    obtain ⟨-, rfl⟩ := of_guarded stepped
    exact ⟨.nothing _ _, .nothing _ _⟩
  | localEnd id =>
    obtain ⟨-, rfl⟩ := of_guarded stepped
    exact ⟨.nothing _ _, .nothing _ _⟩
  | reattach openForward => exact absurd rfl (stays openForward)

end CallbackSystem

namespace ForwardSystem

/-- Handling a frame of the client adds to the link to the client only. -/
private theorem clientFrame_forwardLinks (system : ForwardSystem) (frame : Frame)
    (connected : Option ConnId) (bound : Option AcceptorId) (writerFull : Bool) :
    (system.handleClientFrame frame connected bound writerFull).client = system.client ∧
      Extends (AsksOnly .portForward) false system.toClient
        (system.handleClientFrame frame connected bound writerFull).toClient := by
  cases frame with
  | portForwardOpen forwardId channelId targetPort =>
    refine ⟨rfl, ?_⟩
    simp only [handleClientFrame, PortForwardTable.portForwardOpen]
    split
    · cases connected with
      | some conn => exact .none _ _
      | none => exact .unasking _ _ (by rfl)
    · exact .none _ _
  | portForwardData channelId bytes =>
    refine ⟨rfl, ?_⟩
    simp only [handleClientFrame, PortForwardTable.portForwardData]
    split
    · exact .unasking _ _ (by rfl)
    · exact .none _ _
  | portForwardRequest forwardId direction listenPort targetPort =>
    refine ⟨rfl, ?_⟩
    simp only [handleClientFrame, PortForwardTable.portForwardRequest]
    split
    · cases bound with
      | some acceptor => exact .unasking _ _ (by rfl)
      | none => exact .unasking _ _ (by rfl)
    · exact .unasking _ _ (by rfl)
  | _ => exact ⟨rfl, .nothing _ _⟩

/-- The client opens nothing but forwarded connections. -/
private theorem handleServerFrame_sent (client : ClientForwards) (connected : Option ConnId)
    (writerFull : Bool) (frame : Frame) :
    Extends (AsksOnly .portForward) false client.sent
      (client.handleServerFrame connected writerFull frame).sent := by
  cases frame with
  | portForwardListen forwardId listenPort targetPort =>
    exact .unasking _ _ (by rfl)
  | portForwardOpen forwardId channelId targetPort =>
    simp only [ClientForwards.handleServerFrame, ClientForwards.portForwardOpen]
    split
    · exact .unasking _ _ (by rfl)
    · cases connected with
      | some conn => exact .nothing _ _
      | none => exact .unasking _ _ (by rfl)
  | portForwardData channelId bytes =>
    simp only [ClientForwards.handleServerFrame, ClientForwards.portForwardData]
    split
    · exact .unasking _ _ (by rfl)
    · exact .nothing _ _
  | portForwardReady forwardId =>
    simp only [ClientForwards.handleServerFrame, ClientForwards.portForwardReady]
    split <;> exact .nothing _ _
  | portForwardStop forwardId =>
    simp only [ClientForwards.handleServerFrame, ClientForwards.portForwardStop]
    split <;> exact .nothing _ _
  | _ => exact .nothing _ _

private theorem sendOrEnd_sent (client : ClientForwards) (sends : Bool) {frame : Frame}
    (fit : AsksOnly .portForward frame) :
    Extends (AsksOnly .portForward) false client.sent (client.sendOrEnd sends frame).sent := by
  cases sends <;> exact .one _ fit

/-- What the client sends for a forward's event opens forwarded channels only. -/
private theorem handlePfEvent_sent (client : ClientForwards) (sends : Bool)
    (event : ClientPortForwardEvent) :
    Extends (AsksOnly .portForward) false client.sent (client.handlePfEvent sends event).sent := by
  cases event with
  | forwardStopped forwardId =>
    exact sendOrEnd_sent (client.stopForward forwardId) sends (Unasking.asksOnly (by exact rfl) _)
  | accepted forwardId channelId conn =>
    simp only [ClientForwards.handlePfEvent]
    split
    · refine sendOrEnd_sent { client with channels := _ } sends fun other opened opens => ?_
      exact ((Option.some.inj opens).symm ▸ rfl : (other, opened).1 = ChannelKind.portForward)
    · exact .nothing _ _
  | data channelId bytes =>
    simp only [ClientForwards.handlePfEvent]
    split
    · exact sendOrEnd_sent client sends (Unasking.asksOnly (by exact rfl) _)
    · exact .nothing _ _
  | closed channelId =>
    simp only [ClientForwards.handlePfEvent]
    split
    · exact sendOrEnd_sent { client with channels := _ } sends (Unasking.asksOnly (by exact rfl) _)
    · exact .nothing _ _

/-- What the client sends for a forward's request opens forwarded channels only. -/
private theorem handleFwdRequest_sent (client : ClientForwards) (process : Nat)
    (direction : UInt8) (listenPort targetPort : UInt16) (binds sends : Bool) :
    Extends (AsksOnly .portForward) false client.sent (client.handleFwdRequest process direction
      listenPort targetPort binds sends).sent := by
  have asks : AsksOnly .portForward
      (.portForwardRequest client.nextChannelId direction listenPort targetPort) :=
    Unasking.asksOnly (by exact rfl) _
  by_cases remote : direction = 1
  · subst remote
    cases binds with
    | false => exact .nothing _ _
    | true => cases sends <;> exact .one _ asks
  · simp only [ClientForwards.handleFwdRequest, remote, decide_false, Bool.false_and,
      Bool.false_eq_true, if_false]
    by_cases here : direction = 0
    · subst here
      cases sends <;> exact .one _ asks
    · simp only [here, if_false]
      cases sends <;> exact .one _ asks

variable {system next : ForwardSystem}

/-- Neither end asks for anything but forwarded connections. -/
theorem step_links {action : ForwardAction} (stepped : system.step action = some next) :
    Extends (AsksOnly .portForward) (action.receiver = some .server) system.client.sent
        next.client.sent ∧
      Extends (AsksOnly .portForward) (action.receiver = some .client) system.toClient
        next.toClient := by
  cases action with
  | clientFrame connected bound writerFull =>
    cases queued : system.client.sent with
    | nil => simp [step, queued] at stepped
    | cons frame later =>
      simp only [step, queued, Option.some.injEq] at stepped
      subst stepped
      obtain ⟨same, more⟩ := clientFrame_forwardLinks
        { system with client := { system.client with sent := later } } frame connected bound
          writerFull
      exact ⟨same ▸ Extends.rest _ rfl, more⟩
  | pfEvent =>
    cases queued : system.events with
    | nil => simp [step, queued] at stepped
    | cons event later =>
      simp only [step, queued, Option.some.injEq] at stepped
      subst stepped
      refine ⟨.nothing _ _, ?_⟩
      cases event with
      | accepted forwardId channelId conn =>
        simp only [PortForwardTable.handlePfEvent]
        split
        · refine .one _ fun other opened opens => ?_
          exact ((Option.some.inj opens).symm ▸ rfl : (other, opened).1 = ChannelKind.portForward)
        · exact .none _ _
      | _ =>
        simp only [PortForwardTable.handlePfEvent]
        split
        · exact .unasking _ _ (by rfl)
        · exact .none _ _
  | accepts forwardId conn =>
    obtain ⟨-, rfl⟩ := of_guarded stepped
    exact ⟨.nothing _ _, .nothing _ _⟩
  | reports channelId bytes =>
    cases bytes <;> rw [← Option.some.inj stepped] <;> exact ⟨.nothing _ _, .nothing _ _⟩
  | serverFrame connected writerFull =>
    cases queued : system.toClient with
    | nil => simp [step, queued] at stepped
    | cons frame later =>
      simp only [step, queued, ClientForwards.step] at stepped
      split at stepped
      · simp at stepped
      · rw [Option.map_some, Option.some.injEq] at stepped
        subst stepped
        exact ⟨handleServerFrame_sent system.client connected writerFull frame, .rest _ rfl⟩
  | client action =>
    cases action with
    | serverFrame frame connected writerFull => exact absurd stepped (by simp [step])
    | fwdRequest process direction listenPort targetPort binds sends =>
      simp only [step, ClientForwards.step] at stepped
      split at stepped
      · simp at stepped
      · rw [Option.map_some, Option.some.injEq] at stepped
        subst stepped
        exact ⟨handleFwdRequest_sent system.client process direction listenPort targetPort binds
          sends, .nothing _ _⟩
    | pfEvent sends =>
      cases queued : system.client.queue with
      | nil => simp [step, ClientForwards.step, queued] at stepped
      | cons event later =>
        simp only [step, ClientForwards.step, queued] at stepped
        split at stepped
        · simp at stepped
        · rw [Option.map_some, Option.some.injEq] at stepped
          subst stepped
          exact ⟨handlePfEvent_sent { system.client with queue := later } sends event,
            .nothing _ _⟩
    | accepts forwardId conn =>
      simp only [step, ClientForwards.step] at stepped
      split at stepped
      · simp at stepped
      · split at stepped
        · rw [Option.map_some, Option.some.injEq] at stepped
          subst stepped
          exact ⟨.nothing _ _, .nothing _ _⟩
        · simp at stepped
    | reports channelId bytes =>
      simp only [step, ClientForwards.step] at stepped
      split at stepped
      · simp at stepped
      · cases bytes <;> rw [Option.map_some, Option.some.injEq] at stepped <;> subst stepped <;>
          exact ⟨.nothing _ _, .nothing _ _⟩
    | keepaliveEnds forwardId =>
      simp only [step, ClientForwards.step] at stepped
      split at stepped
      · simp at stepped
      · split at stepped
        · rw [Option.map_some, Option.some.injEq] at stepped
          subst stepped
          exact ⟨.nothing _ _, .nothing _ _⟩
        · simp at stepped

end ForwardSystem

namespace AttachedClient

/-! ### The order of a link has every frame of the kinds in it -/

/-- A frame that is taken off a link is the first one. -/
theorem follow_taken {link later : List ChannelKind} {kind : ChannelKind} {before after : Nat}
    (followed : follow link kind true before after = some later) : link.head? = some kind := by
  cases link with
  | nil => exact absurd followed (by simp [follow])
  | cons first rest =>
    simp only [follow, if_true] at followed
    split at followed
    · next same => rw [same, List.head?_cons]
    · simp at followed

/-- A link that has as many marks of each kind as there are frames has them after an action, too. -/
theorem follow_count {link later : List ChannelKind} {kind : ChannelKind} {taken : Bool}
    {before after : Nat} (followed : follow link kind taken before after = some later)
    (more : before ≤ after + if taken then 1 else 0) (counted : link.count kind = before) :
    later.count kind = after ∧ ∀ other, other ≠ kind → later.count other = link.count other := by
  cases taken with
  | false =>
    simp only [follow, Bool.false_eq_true, if_false, Option.some.injEq] at followed
    subst followed
    rw [if_neg Bool.false_ne_true] at more
    refine ⟨?_, fun other differs => ?_⟩
    · rw [List.count_append, List.count_replicate_self, counted]
      omega
    · rw [List.count_append, List.count_replicate, if_neg (by simpa using Ne.symm differs),
        Nat.add_zero]
  | true =>
    rw [if_pos rfl] at more
    cases link with
    | nil => exact absurd followed (by simp [follow])
    | cons first rest =>
      simp only [follow, if_true] at followed
      split at followed
      · next same =>
        subst same
        rw [Option.some.injEq] at followed
        subst followed
        rw [List.count_cons_self] at counted
        refine ⟨?_, fun other differs => ?_⟩
        · rw [List.count_append, List.count_replicate_self]
          omega
        · rw [List.count_append, List.count_replicate, if_neg (by simpa using Ne.symm differs),
            Nat.add_zero, List.count_cons_of_ne (Ne.symm differs)]
      · simp at followed

/-- A link has a mark for each frame. -/
def Marked (link : List ChannelKind) (frames : ChannelKind → List Frame) : Prop :=
  ∀ kind, link.count kind = (frames kind).length

/-- An action on the channels of one kind leaves the link marked. -/
theorem Marked.follow {link later : List ChannelKind} {kind : ChannelKind} {taken : Bool}
    {frames next : ChannelKind → List Frame} (marked : Marked link frames)
    (followed : follow link kind taken (frames kind).length (next kind).length = some later)
    (more : (frames kind).length ≤ (next kind).length + if taken then 1 else 0)
    (others : ∀ other, other ≠ kind → next other = frames other) : Marked later next := by
  obtain ⟨here, elsewhere⟩ := follow_count followed more (marked kind)
  intro other
  by_cases same : other = kind
  · exact same ▸ here
  · rw [elsewhere other same, others other same]
    exact marked other

/-- An empty link has no frames of any kind. -/
theorem Marked.empty {frames : ChannelKind → List Frame} (marked : Marked [] frames)
    (kind : ChannelKind) : frames kind = [] :=
  List.eq_nil_of_length_eq_zero (marked kind).symm

/-! ### The connections of each kind keep to the handshake -/

/-- What a frame of a kind may ask an end for: agent channels are opened by the server, tunnel channels by the client. -/
def Asks : Receiver → ChannelKind → Frame → Prop
  | .server, .agent => Unasking
  | .client, .tunnel => Unasking
  | .client, .agent => AsksOnly .agent
  | .server, .tunnel => AsksOnly .tunnel
  | _, .portForward => AsksOnly .portForward

/-- The channels of every kind keep to the handshake, and the links have their frames in order. -/
structure Sound (connection : AttachedClient) : Prop where
  agent : ∀ channelId, (connection.agent.channel channelId).Sound
  tunnel : connection.tunnel.ChannelsSound
  forwards : connection.forwards.ChannelsSound
  toServer : Marked connection.toServer connection.framesToServer
  toClient : Marked connection.toClient connection.framesToClient
  server : ∀ kind, ∀ frame ∈ connection.framesToServer kind, Asks .server kind frame
  client : ∀ kind, ∀ frame ∈ connection.framesToClient kind, Asks .client kind frame

/-- A client that has just attached starts with sound channels. -/
theorem start_sound (agentNumber given : UInt32) (earlier : CallbackSystem)
    (forwardAgent openForward : Bool) :
    (start agentNumber given earlier forwardAgent openForward).Sound where
  agent channelId := AgentSystem.new_sound agentNumber forwardAgent channelId
  tunnel := CallbackSystem.reattach_sound earlier openForward
  forwards := ForwardSystem.new_sound given
  toServer kind := by cases kind <;> cases forwardAgent <;> cases openForward <;> rfl
  toClient kind := by cases kind <;> rfl
  server kind frame inside := by
    cases kind with
    | agent =>
      cases forwardAgent with
      | true => exact List.mem_singleton.mp inside ▸ rfl
      | false => exact absurd inside List.not_mem_nil
    | tunnel =>
      cases openForward with
      | true => exact List.mem_singleton.mp inside ▸ Unasking.asksOnly (by exact rfl) _
      | false => exact absurd inside List.not_mem_nil
    | portForward => exact absurd inside List.not_mem_nil
  client kind frame inside := by cases kind <;> exact absurd inside List.not_mem_nil

variable {connection next : AttachedClient}

/-- Once nothing is on the way, both ends of a sound connection have the same channels. -/
theorem Sound.mirrored (sound : connection.Sound) : connection.Mirrored := by
  rintro ⟨noneToServer, noneToClient, -⟩ kind channelId
  have server := Marked.empty (noneToServer ▸ sound.toServer)
  have client := Marked.empty (noneToClient ▸ sound.toClient)
  cases kind with
  | agent =>
    have toServer : connection.agent.toServer = [] := server .agent
    have toClient : connection.agent.toClient = [] := client .agent
    exact (sound.agent channelId).agree (by simp [AgentSystem.channel, toClient])
      (by simp [AgentSystem.channel, toServer])
  | tunnel =>
    have toServer : connection.tunnel.toServer = [] := server .tunnel
    have toClient : connection.tunnel.toClient = [] := client .tunnel
    exact ((sound.tunnel.sound channelId).agree (by simp [CallbackSystem.channel, toServer])
      (by simp [CallbackSystem.channel, toClient])).symm
  | portForward =>
    have toServer : connection.forwards.client.sent = [] := server .portForward
    have toClient : connection.forwards.toClient = [] := client .portForward
    -- Odd numbers are opened by the server, even ones by the client.
    rcases Nat.mod_two_eq_zero_or_one channelId.toNat with even | odd
    · exact ((sound.forwards.client channelId even).agree
        (by simp [ForwardSystem.clientChannel, toServer])
        (by simp [ForwardSystem.clientChannel, toClient])).symm
    · exact (sound.forwards.server channelId odd).agree
        (by simp [ForwardSystem.serverChannel, toClient])
        (by simp [ForwardSystem.serverChannel, toServer])

/-- What an action on the agent channels does. -/
theorem step_agent {action : AgentAction} (stepped : connection.step (.agent action) = some next) :
    ∃ agent toServer toClient, connection.agent.step action = some agent ∧
      follow connection.toServer .agent (action.receiver = some .server)
        connection.agent.toServer.length agent.toServer.length = some toServer ∧
      follow connection.toClient .agent (action.receiver = some .client)
        connection.agent.toClient.length agent.toClient.length = some toClient ∧
      next = { connection with agent, toServer, toClient } := by
  simp only [step, Option.bind_eq_bind, Option.bind_eq_some_iff, Option.some.injEq] at stepped
  obtain ⟨agent, moved, toServer, server, toClient, client, rfl⟩ := stepped
  exact ⟨agent, toServer, toClient, moved, server, client, rfl⟩

/-- An action on the tunnel channels of a client that stays. -/
theorem step_staying {action : CallbackAction}
    (stays : ∀ openForward, action ≠ .reattach openForward) :
    connection.step (.tunnel action) = (do
      let tunnel ← connection.tunnel.step action
      let toServer ← follow connection.toServer .tunnel (action.receiver = some .server)
        connection.tunnel.toServer.length tunnel.toServer.length
      let toClient ← follow connection.toClient .tunnel (action.receiver = some .client)
        connection.tunnel.toClient.length tunnel.toClient.length
      some { connection with tunnel, toServer, toClient }) := by
  cases action with
  | reattach openForward => exact absurd rfl (stays openForward)
  | _ => rfl

/-- What an action on the tunnel channels does. The client stays. -/
theorem step_tunnel {action : CallbackAction}
    (stepped : connection.step (.tunnel action) = some next) :
    (∀ openForward, action ≠ .reattach openForward) ∧
    ∃ tunnel toServer toClient, connection.tunnel.step action = some tunnel ∧
      follow connection.toServer .tunnel (action.receiver = some .server)
        connection.tunnel.toServer.length tunnel.toServer.length = some toServer ∧
      follow connection.toClient .tunnel (action.receiver = some .client)
        connection.tunnel.toClient.length tunnel.toClient.length = some toClient ∧
      next = { connection with tunnel, toServer, toClient } := by
  have stays : ∀ openForward, action ≠ .reattach openForward := by
    rintro openForward rfl
    exact absurd stepped (by simp [step])
  rw [step_staying stays] at stepped
  simp only [Option.bind_eq_bind, Option.bind_eq_some_iff, Option.some.injEq] at stepped
  obtain ⟨tunnel, moved, toServer, server, toClient, client, rfl⟩ := stepped
  exact ⟨stays, tunnel, toServer, toClient, moved, server, client, rfl⟩

/-- What an action on the port forwards does. -/
theorem step_forwards {action : ForwardAction}
    (stepped : connection.step (.forwards action) = some next) :
    ∃ forwards toServer toClient, connection.forwards.step action = some forwards ∧
      follow connection.toServer .portForward (action.receiver = some .server)
        connection.forwards.client.sent.length forwards.client.sent.length = some toServer ∧
      follow connection.toClient .portForward (action.receiver = some .client)
        connection.forwards.toClient.length forwards.toClient.length = some toClient ∧
      next = { connection with forwards, toServer, toClient } := by
  simp only [step, Option.bind_eq_bind, Option.bind_eq_some_iff, Option.some.injEq] at stepped
  obtain ⟨forwards, moved, toServer, server, toClient, client, rfl⟩ := stepped
  exact ⟨forwards, toServer, toClient, moved, server, client, rfl⟩

/-- A tunnel that has a port whenever it is asked is asked with a port by an action that can be taken. -/
theorem TunnelReady.portSet {action : CallbackAction}
    (ready : connection.TunnelReady (.tunnel action))
    (stepped : connection.step (.tunnel action) = some next) :
    connection.tunnel.PortSet action := by
  obtain ⟨-, tunnel, toServer, toClient, -, server, -, -⟩ := step_tunnel stepped
  cases action with
  | clientFrame connects writerFull =>
    intro channelId queued
    refine ready channelId ?_ (follow_taken server)
    simp [delivers, CallbackAction.receiver, queued]
  | _ => trivial

/-- A step keeps the connection sound, if its numbers are fresh and a tunnel that is asked has a port. -/
theorem Sound.step {action : ConnectionAction} (sound : connection.Sound)
    (fresh : connection.FreshNumbers action) (ready : connection.TunnelReady action)
    (stepped : connection.step action = some next) : next.Sound := by
  cases action with
  | agent action =>
    obtain ⟨agent, toServer, toClient, moved, server, client, rfl⟩ := step_agent stepped
    obtain ⟨moreToServer, moreToClient⟩ := AgentSystem.step_links moved
    refine ⟨fun channelId => AgentSystem.step_sound (sound.agent channelId) fresh moved,
      sound.tunnel, sound.forwards, ?_, ?_, ?_, ?_⟩
    · refine sound.toServer.follow server moreToServer.length ?_
      rintro (_ | _ | _) differs
      · exact absurd rfl differs
      · rfl
      · rfl
    · refine sound.toClient.follow client moreToClient.length ?_
      rintro (_ | _ | _) differs
      · exact absurd rfl differs
      · rfl
      · rfl
    · rintro (_ | _ | _)
      · exact moreToServer.all (sound.server .agent)
      · exact sound.server .tunnel
      · exact sound.server .portForward
    · rintro (_ | _ | _)
      · exact moreToClient.all (sound.client .agent)
      · exact sound.client .tunnel
      · exact sound.client .portForward
  | tunnel action =>
    have set := ready.portSet stepped
    obtain ⟨stays, tunnel, toServer, toClient, moved, server, client, rfl⟩ := step_tunnel stepped
    obtain ⟨moreToServer, moreToClient⟩ := CallbackSystem.step_links moved stays
    refine ⟨sound.agent, CallbackSystem.step_sound sound.tunnel stays fresh set moved,
      sound.forwards, ?_, ?_, ?_, ?_⟩
    · refine sound.toServer.follow server moreToServer.length ?_
      rintro (_ | _ | _) differs
      · rfl
      · exact absurd rfl differs
      · rfl
    · refine sound.toClient.follow client moreToClient.length ?_
      rintro (_ | _ | _) differs
      · rfl
      · exact absurd rfl differs
      · rfl
    · rintro (_ | _ | _)
      · exact sound.server .agent
      · exact moreToServer.all (sound.server .tunnel)
      · exact sound.server .portForward
    · rintro (_ | _ | _)
      · exact sound.client .agent
      · exact moreToClient.all (sound.client .tunnel)
      · exact sound.client .portForward
  | forwards action =>
    obtain ⟨forwards, toServer, toClient, moved, server, client, rfl⟩ := step_forwards stepped
    obtain ⟨moreToServer, moreToClient⟩ := ForwardSystem.step_links moved
    refine ⟨sound.agent, sound.tunnel, ForwardSystem.step_sound sound.forwards fresh moved, ?_,
      ?_, ?_, ?_⟩
    · refine sound.toServer.follow server moreToServer.length ?_
      rintro (_ | _ | _) differs
      · rfl
      · rfl
      · exact absurd rfl differs
    · refine sound.toClient.follow client moreToClient.length ?_
      rintro (_ | _ | _) differs
      · rfl
      · rfl
      · exact absurd rfl differs
    · rintro (_ | _ | _)
      · exact sound.server .agent
      · exact sound.server .tunnel
      · exact moreToServer.all (sound.server .portForward)
    · rintro (_ | _ | _)
      · exact sound.client .agent
      · exact sound.client .tunnel
      · exact moreToClient.all (sound.client .portForward)

end AttachedClient

end Gritty
