import Gritty.Relay.Mirrored

/-! Every request to open a channel is answered, unless it reaches a tunnel that lost its port. -/

namespace Gritty

namespace AttachedClient

variable {connection next : AttachedClient}

/-! ### The frames that open a channel -/

theorem opening_agent {frame : Frame} {channelId : UInt32}
    (opens : opening frame = some (.agent, channelId)) : frame = .agentOpen channelId := by
  cases frame with
  | agentOpen id =>
    rw [opening, Option.some.injEq, Prod.mk.injEq] at opens
    rw [opens.2]
  | _ => simp [opening] at opens

theorem opening_tunnel {frame : Frame} {channelId : UInt32}
    (opens : opening frame = some (.tunnel, channelId)) : frame = .tunnelOpen channelId := by
  cases frame with
  | tunnelOpen id =>
    rw [opening, Option.some.injEq, Prod.mk.injEq] at opens
    rw [opens.2]
  | _ => simp [opening] at opens

/-- Only a forward's open opens a forwarded channel. -/
theorem opening_portForward {frame : Frame} {channelId : UInt32}
    (opens : opening frame = some (.portForward, channelId)) :
    ∃ forwardId targetPort, frame = .portForwardOpen forwardId channelId targetPort := by
  cases frame with
  | portForwardOpen forwardId id targetPort =>
    rw [opening, Option.some.injEq, Prod.mk.injEq] at opens
    exact ⟨forwardId, targetPort, by rw [opens.2]⟩
  | _ => simp [opening] at opens

/-- The frame that an end takes is the first on the link to it. -/
theorem first_of_taken {taker : Option Receiver} {toServer toClient : List Frame}
    {receiver : Receiver} {frame : Frame}
    (taken : (taker.bind fun
      | .server => toServer.head?.map (Receiver.server, ·)
      | .client => toClient.head?.map (Receiver.client, ·)) = some (receiver, frame)) :
    taker = some receiver ∧ (receiver = .server → toServer.head? = some frame) ∧
      (receiver = .client → toClient.head? = some frame) := by
  obtain ⟨end_, takes, headed⟩ := Option.bind_eq_some_iff.mp taken
  cases end_ with
  | server =>
    obtain ⟨first, there, same⟩ := Option.map_eq_some_iff.mp headed
    obtain ⟨rfl, rfl⟩ := Prod.mk.inj same
    exact ⟨takes, fun _ => there, nofun⟩
  | client =>
    obtain ⟨first, there, same⟩ := Option.map_eq_some_iff.mp headed
    obtain ⟨rfl, rfl⟩ := Prod.mk.inj same
    exact ⟨takes, nofun, fun _ => there⟩

/-- The frame that an action delivers is the first of its kind on the link to the end that takes it. -/
theorem delivers_agent {action : AgentAction} {receiver : Receiver} {frame : Frame}
    (delivered : connection.delivers (.agent action) = some (receiver, frame)) :
    action.receiver = some receiver ∧
      (receiver = .server → connection.agent.toServer.head? = some frame) ∧
      (receiver = .client → connection.agent.toClient.head? = some frame) :=
  first_of_taken delivered

/-- What is delivered on a tunnel is the oldest frame that was sent to its receiver. -/
theorem delivers_tunnel {action : CallbackAction} {receiver : Receiver} {frame : Frame}
    (delivered : connection.delivers (.tunnel action) = some (receiver, frame)) :
    action.receiver = some receiver ∧
      (receiver = .server → connection.tunnel.toServer.head? = some frame) ∧
      (receiver = .client → connection.tunnel.toClient.head? = some frame) :=
  first_of_taken delivered

/-- What is delivered on a forward is the oldest frame that was sent to its receiver. -/
theorem delivers_forwards {action : ForwardAction} {receiver : Receiver} {frame : Frame}
    (delivered : connection.delivers (.forwards action) = some (receiver, frame)) :
    action.receiver = some receiver ∧
      (receiver = .server → connection.forwards.client.sent.head? = some frame) ∧
      (receiver = .client → connection.forwards.toClient.head? = some frame) :=
  first_of_taken delivered

end AttachedClient

/-! ### What an end does when it is asked -/

/-- A client that is asked for an agent channel has it, or closes it. -/
theorem AgentSystem.open_answered {system next : AgentSystem} {channelId : UInt32}
    {connected : Option ConnId} {writerFull : Bool}
    (asked : system.toClient.head? = some (.agentOpen channelId))
    (stepped : system.step (.serverFrame connected writerFull) = some next) :
    (next.client.channels.lookup channelId).isSome = true ∨
      .agentClose channelId ∈ next.toServer := by
  obtain ⟨later, queued⟩ := List.head?_eq_some_iff.mp asked
  simp only [step, queued, Option.some.injEq] at stepped
  subst stepped
  cases connected with
  | some conn =>
    left
    simp [handleServerFrame, ClientAgentState.agentOpen]
  | none =>
    right
    simp [handleServerFrame, ClientAgentState.agentOpen]

/-- A server with a port that is asked for a tunnel channel has it, or closes it. -/
theorem CallbackSystem.open_answered {system next : CallbackSystem} {channelId : UInt32}
    {connects writerFull : Bool} (asked : system.toServer.head? = some (.tunnelOpen channelId))
    (port : system.tunnel.port.isSome = true)
    (stepped : system.step (.clientFrame connects writerFull) = some next) :
    (next.tunnel.channels.lookup channelId).isSome = true ∨
      .tunnelClose channelId ∈ next.toClient := by
  obtain ⟨later, queued⟩ := List.head?_eq_some_iff.mp asked
  obtain ⟨number, hasPort⟩ := Option.isSome_iff_exists.mp port
  simp only [step, queued, Option.some.injEq] at stepped
  subst stepped
  cases connects with
  | true =>
    left
    simp [handleClientFrame, TunnelRelayState.tunnelOpen, hasPort,
      TunnelRelayState.registerTunnelChannel]
  | false =>
    right
    simp [handleClientFrame, TunnelRelayState.tunnelOpen, hasPort]

/-- A server without a port does nothing about a tunnel channel that it is asked for. -/
theorem CallbackSystem.open_dropped {system : CallbackSystem} {channelId : UInt32}
    {connects writerFull : Bool} {later : List Frame}
    (queued : system.toServer = .tunnelOpen channelId :: later)
    (port : system.tunnel.port.isSome = false) :
    system.step (.clientFrame connects writerFull) = some { system with toServer := later } := by
  simp [step, queued, handleClientFrame, port]

/-- A server that is asked for a forwarded connection has it, or closes it. -/
theorem ForwardSystem.Orderly.server_answered {system next : ForwardSystem}
    (orderly : system.Orderly) {forwardId channelId : UInt32} {targetPort : UInt16}
    {connected : Option ConnId} {bound : Option AcceptorId} {writerFull : Bool}
    (asked : system.client.sent.head? = some (.portForwardOpen forwardId channelId targetPort))
    (stepped : system.step (.clientFrame connected bound writerFull) = some next) :
    (next.table.channels.lookup channelId).isSome = true ∨
      .portForwardClose channelId ∈ next.toClient := by
  obtain ⟨later, queued⟩ := List.head?_eq_some_iff.mp asked
  have known : (system.table.forwards.lookup forwardId).isSome = true := orderly.knows queued
  simp only [step, queued, Option.some.injEq] at stepped
  subst stepped
  cases connected with
  | some conn =>
    left
    simp [handleClientFrame, PortForwardTable.portForwardOpen, known, PortForwardTable.register]
  | none =>
    right
    simp [handleClientFrame, PortForwardTable.portForwardOpen, known]

/-- A client that is asked for a forwarded connection has it, or closes it. -/
theorem ForwardSystem.client_answered {system next : ForwardSystem}
    {forwardId channelId : UInt32} {targetPort : UInt16} {connected : Option ConnId}
    {writerFull : Bool}
    (asked : system.toClient.head? = some (.portForwardOpen forwardId channelId targetPort))
    (stepped : system.step (.serverFrame connected writerFull) = some next) :
    (next.client.channels.lookup channelId).isSome = true ∨
      .portForwardClose channelId ∈ next.client.sent := by
  obtain ⟨later, queued⟩ := List.head?_eq_some_iff.mp asked
  simp only [step, queued, ClientForwards.step] at stepped
  split at stepped
  · simp at stepped
  · rw [Option.map_some, Option.some.injEq] at stepped
    subst stepped
    simp only [ClientForwards.handleServerFrame, ClientForwards.portForwardOpen]
    split
    · right
      simp [ClientForwards.send]
    · cases connected with
      | some conn =>
        left
        simp
      | none =>
        right
        simp [ClientForwards.send]

namespace AttachedClient

variable {connection next : AttachedClient}

/-- A sound connection settles every request to open a channel, if a tunnel that is asked has a port. -/
theorem Sound.settles {action : ConnectionAction} (sound : connection.Sound)
    (ready : connection.TunnelReady action) : connection.OpensSettled action := by
  intro next receiver frame kind channelId stepped delivered opens
  cases action with
  | agent action =>
    obtain ⟨agent, toServer, toClient, moved, -, -, rfl⟩ := step_agent stepped
    obtain ⟨takes, fromClient, fromServer⟩ := delivers_agent delivered
    cases receiver with
    | server =>
      -- The client asks for no agent channels.
      have none := sound.server .agent frame (List.mem_of_mem_head? (fromClient rfl))
      exact absurd (none.symm.trans opens) (by simp)
    | client =>
      have first := fromServer rfl
      obtain rfl : kind = .agent :=
        sound.client .agent frame (List.mem_of_mem_head? first) kind channelId opens
      obtain rfl := opening_agent opens
      cases action with
      | serverFrame connected writerFull => exact AgentSystem.open_answered first moved
      | _ => exact absurd takes (by simp [AgentAction.receiver])
  | tunnel action =>
    have set := ready channelId
    have taken := step_tunnel stepped
    obtain ⟨-, tunnel, toServer, toClient, moved, followed, -, rfl⟩ := taken
    obtain ⟨takes, fromClient, fromServer⟩ := delivers_tunnel delivered
    cases receiver with
    | client =>
      -- The server asks for no tunnel channels.
      have none := sound.client .tunnel frame (List.mem_of_mem_head? (fromServer rfl))
      exact absurd (none.symm.trans opens) (by simp)
    | server =>
      have first := fromClient rfl
      obtain rfl : kind = .tunnel :=
        sound.server .tunnel frame (List.mem_of_mem_head? first) kind channelId opens
      obtain rfl := opening_tunnel opens
      cases action with
      | clientFrame connects writerFull =>
        have port := set delivered (follow_taken followed)
        exact CallbackSystem.open_answered first port moved
      | _ => exact absurd takes (by simp [CallbackAction.receiver])
  | forwards action =>
    obtain ⟨forwards, toServer, toClient, moved, -, -, rfl⟩ := step_forwards stepped
    obtain ⟨takes, fromClient, fromServer⟩ := delivers_forwards delivered
    cases receiver with
    | server =>
      have first := fromClient rfl
      obtain rfl : kind = .portForward :=
        sound.server .portForward frame (List.mem_of_mem_head? first) kind channelId opens
      obtain ⟨forwardId, targetPort, rfl⟩ := opening_portForward opens
      cases action with
      | clientFrame connected bound writerFull =>
        exact sound.forwards.orderly.server_answered first moved
      | _ => exact absurd takes (by simp [ForwardAction.receiver])
    | client =>
      have first := fromServer rfl
      obtain rfl : kind = .portForward :=
        sound.client .portForward frame (List.mem_of_mem_head? first) kind channelId opens
      obtain ⟨forwardId, targetPort, rfl⟩ := opening_portForward opens
      cases action with
      | serverFrame connected writerFull => exact ForwardSystem.client_answered first moved
      | _ => exact absurd takes (by simp [ForwardAction.receiver])

/-- A request to open a channel that reaches a tunnel without a port is never settled. -/
theorem Sound.unsettled {action : ConnectionAction} (sound : connection.Sound)
    (settled : connection.OpensSettled action) : connection.TunnelReady action := by
  intro channelId delivered marked
  by_contra noPort
  have port : connection.tunnel.tunnel.port.isSome = false := by simpa using noPort
  cases action with
  | agent action =>
    -- The server is not asked for tunnel channels over the agent's link.
    obtain ⟨-, fromClient, -⟩ := delivers_agent delivered
    have unasking := sound.server .agent _ (List.mem_of_mem_head? (fromClient rfl))
    exact absurd (show opening (.tunnelOpen channelId) = none from unasking) (by simp [opening])
  | forwards action =>
    obtain ⟨-, fromClient, -⟩ := delivers_forwards delivered
    have same := sound.server .portForward _ (List.mem_of_mem_head? (fromClient rfl)) .tunnel
      channelId rfl
    exact absurd same (by decide)
  | tunnel action =>
    obtain ⟨takes, fromClient, -⟩ := delivers_tunnel delivered
    obtain ⟨later, queued⟩ := List.head?_eq_some_iff.mp (fromClient rfl)
    obtain ⟨marks, first⟩ := List.head?_eq_some_iff.mp marked
    cases action with
    | clientFrame connects writerFull =>
      -- The server takes the request off the link, and that is all.
      have moved : connection.tunnel.step (.clientFrame connects writerFull) =
          some { connection.tunnel with toServer := later } :=
        CallbackSystem.open_dropped queued port
      obtain ⟨next, stepped, left⟩ : ∃ next : AttachedClient,
          connection.step (.tunnel (.clientFrame connects writerFull)) = some next ∧
            next.tunnel = { connection.tunnel with toServer := later } := by
        refine ⟨{ connection with
          tunnel := { connection.tunnel with toServer := later }
          toServer := marks }, ?_, rfl⟩
        rw [step_staying (by simp), moved]
        simp [follow, first, queued, CallbackAction.receiver]
      have channel := sound.tunnel.sound channelId
      have asked : Notice.opens ∈ (connection.tunnel.channel channelId).toAnswerer := by
        simp [CallbackSystem.channel, queued]
      rcases settled next _ _ _ _ stepped delivered rfl with held | closed
      · -- The server had no channel of a number that is still to be opened.
        have away : (connection.tunnel.tunnel.channels.lookup channelId).isSome = false :=
          channel.unopened asked
        rw [serverHas, left, away] at held
        exact absurd held (by decide)
      · -- And no close can be on the way back, since a willing end has nothing to close.
        rw [framesToClient, left] at closed
        have back : 0 < (connection.tunnel.channel channelId).toOpener := by
          refine List.count_pos_iff.mpr (List.mem_filterMap.mpr ⟨_, closed, ?_⟩)
          simp [closing]
        exact absurd ((channel.returning back).2 (Or.inr asked)) (by simp [CallbackSystem.channel])
    | _ => exact absurd takes (by simp [CallbackAction.receiver])

/-- Along a run with fresh numbers, every request to open a channel is settled exactly as long as none reaches a tunnel without a port. -/
theorem settled_iff {machine : Machine AttachedClient ConnectionAction}
    (steps : machine.step = AttachedClient.step) {connection : AttachedClient}
    (sound : connection.Sound) {actions : List ConnectionAction}
    (fresh : machine.Meets FreshNumbers connection actions) :
    machine.Meets OpensSettled connection actions ↔
      machine.Meets TunnelReady connection actions := by
  induction actions generalizing connection with
  | nil => exact Iff.rfl
  | cons action later ih =>
    -- Either way the tunnel was ready for this action, so the next state is sound, too.
    have onward (ready : connection.TunnelReady action) (next : AttachedClient)
        (stepped : machine.step connection action = some next) :
        machine.Meets OpensSettled next later ↔ machine.Meets TunnelReady next later := by
      rw [steps] at stepped
      exact ih (sound.step fresh.1 ready stepped) (fresh.2 next (steps ▸ stepped))
    constructor
    · rintro ⟨settled, after⟩
      have ready := sound.unsettled settled
      exact ⟨ready, fun next stepped => (onward ready next stepped).mp (after next stepped)⟩
    · rintro ⟨ready, after⟩
      exact ⟨sound.settles ready,
        fun next stepped => (onward ready next stepped).mpr (after next stepped)⟩

end AttachedClient

open AttachedClient

/--
Both ends agree on the open channels whenever nothing is on the way, and settle every request to open one,
exactly as long as no request reaches a tunnel without a port.
-/
theorem mirrored_along_iff (agentNumber given : UInt32) (earlier : CallbackSystem)
    (forwardAgent openForward : Bool) (actions : List ConnectionAction)
    (fresh : (attachedClient agentNumber given earlier forwardAgent openForward).Meets FreshNumbers
      (.start agentNumber given earlier forwardAgent openForward) actions) :
    ((attachedClient agentNumber given earlier forwardAgent openForward).Along Mirrored
        (.start agentNumber given earlier forwardAgent openForward) actions ∧
      (attachedClient agentNumber given earlier forwardAgent openForward).Meets OpensSettled
        (.start agentNumber given earlier forwardAgent openForward) actions) ↔
      (attachedClient agentNumber given earlier forwardAgent openForward).Meets TunnelReady
        (.start agentNumber given earlier forwardAgent openForward) actions := by
  have sound := start_sound agentNumber given earlier forwardAgent openForward
  rw [settled_iff rfl sound fresh]
  refine ⟨fun both => both.2, fun ready => ⟨?_, ready⟩⟩
  -- Fresh numbers and a ready tunnel keep the ends sound, and sound ends agree.
  have kept : ∀ state action next, AttachedClient.Sound state →
      FreshNumbers state action ∧ TunnelReady state action →
      (attachedClient agentNumber given earlier forwardAgent openForward).step state action =
        some next → AttachedClient.Sound next :=
    fun state action next holds met stepped => holds.step met.1 met.2 stepped
  exact Machine.along_of_meets (fun state holds => Sound.mirrored holds) kept sound
    (Machine.meets_and fresh ready)

instance (system : AgentSystem) : ∀ action, Decidable (system.FreshNumber action)
  | .accepts _ => inferInstanceAs (Decidable (Handshake.Unused _))
  | .clientFrame _ _ | .agentEvent | .reports _ _ | .serverFrame _ _ | .clientEvent
  | .clientReports _ _ => isTrue trivial

instance (system : CallbackSystem) : ∀ action, Decidable (system.FreshNumber action)
  | .accept => inferInstanceAs (Decidable (_ ∧ Handshake.Unused _))
  | .openUrl _ _ | .clientFrame _ _ | .tunnelEvent | .read _ _ | .readEnd _ | .deadline
  | .serverFrame _ _ | .clientEvent | .localRead _ _ | .localEnd _ | .reattach _ => isTrue trivial

instance (system : ForwardSystem) (forwardId : UInt32) :
    Decidable (system.ForwardUnused forwardId) :=
  inferInstanceAs (Decidable (_ ∧ _ ∧ _ ∧ _ ∧ _ ∧ _ ∧ _))

instance (system : ForwardSystem) : ∀ action, Decidable (system.FreshNumber action)
  | .accepts _ _ => inferInstanceAs (Decidable (Handshake.Unused _))
  | .client (.accepts _ _) => inferInstanceAs (Decidable (Handshake.Unused _))
  | .client (.fwdRequest _ _ _ _ _ _) => inferInstanceAs (Decidable (ForwardSystem.ForwardUnused _ _))
  | .client (.serverFrame _ _ _) | .client (.pfEvent _) | .client (.reports _ _)
  | .client (.keepaliveEnds _) | .clientFrame _ _ _ | .pfEvent | .reports _ _
  | .serverFrame _ _ => isTrue trivial

instance (connection : AttachedClient) : ∀ action, Decidable (connection.FreshNumbers action)
  | .agent action => inferInstanceAs (Decidable (connection.agent.FreshNumber action))
  | .tunnel action => inferInstanceAs (Decidable (connection.tunnel.FreshNumber action))
  | .forwards action => inferInstanceAs (Decidable (connection.forwards.FreshNumber action))

instance (connection : AttachedClient) : Decidable connection.Quiet :=
  inferInstanceAs (Decidable (_ ∧ _ ∧ _ ∧ _ ∧ _ ∧ _ ∧ _ ∧ _))

/-- A program of the session opens a URL whose callback comes to port 8080, and one browser connection comes and goes. -/
def callbackOnce : List ConnectionAction :=
  [.tunnel (.clientFrame true false), .tunnel (.openUrl "https://sso/?redirect" (some 8080)),
    .tunnel (.serverFrame true false), .tunnel (.serverFrame true false), .tunnel .accept,
    .tunnel .clientEvent, .tunnel (.clientFrame true false), .tunnel (.readEnd 0),
    .tunnel .tunnelEvent, .tunnel (.serverFrame true false)]

/-- The idle deadline takes the tunnel away, and then the browser connects once more. -/
def callbackTooLate : List ConnectionAction :=
  callbackOnce ++ [.tunnel .deadline, .tunnel .accept, .tunnel .clientEvent,
    .tunnel (.clientFrame true false)]

/-- A browser and a program that signs come while the tunnel has its port: both ends agree. -/
theorem mirrored_along_callback :
    ((attachedClient 0 0 .new true true).Along Mirrored (.start 0 0 .new true true)
        (.agent (.clientFrame true false) :: callbackOnce ++
          [.agent (.accepts 0), .agent .agentEvent, .agent (.serverFrame none false)]) ∧
      (attachedClient 0 0 .new true true).Meets OpensSettled (.start 0 0 .new true true)
        (.agent (.clientFrame true false) :: callbackOnce ++
          [.agent (.accepts 0), .agent .agentEvent, .agent (.serverFrame none false)])) ↔
      (attachedClient 0 0 .new true true).Meets TunnelReady (.start 0 0 .new true true)
        (.agent (.clientFrame true false) :: callbackOnce ++
          [.agent (.accepts 0), .agent .agentEvent, .agent (.serverFrame none false)]) :=
  mirrored_along_iff 0 0 .new true true _ (by decide +kernel)

/-- The browser's late connection is open at the client and nowhere else, and no close is on the way. -/
theorem callback_hangs :
    ¬ ∀ agentNumber given earlier forwardAgent openForward actions,
      (attachedClient agentNumber given earlier forwardAgent openForward).Meets FreshNumbers
          (.start agentNumber given earlier forwardAgent openForward) actions →
        (attachedClient agentNumber given earlier forwardAgent openForward).Along Mirrored
          (.start agentNumber given earlier forwardAgent openForward) actions := by
  intro always
  have along := always 0 0 .new false true callbackTooLate (by decide +kernel)
  have hangs : ((attachedClient 0 0 .new false true).run (.start 0 0 .new false true)
      callbackTooLate).any (fun last => decide last.Quiet && last.clientHas 2 .tunnel &&
        !last.serverHas 2 .tunnel) = true := by decide +kernel
  obtain ⟨last, ran, found⟩ := (Option.any_eq_true _ _).mp hangs
  simp only [Bool.and_eq_true, decide_eq_true_eq, Bool.not_eq_true'] at found
  obtain ⟨⟨quiet, client⟩, server⟩ := found
  have agree := along.last ran quiet .tunnel 2
  rw [server, client] at agree
  exact absurd agree (by decide)

end Gritty
