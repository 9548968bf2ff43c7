import Gritty.Relay.StreamViews

/-! What the client does with frames, events and connections is a turn of its end of the channel, or nothing. -/

namespace Gritty

namespace ForwardedStreams

variable {channelId : UInt32} {state next : ForwardedStreams}

section ServerFrames

variable {connected : Option ConnId} {writerFull lost : Bool} {frame : Frame} {later : List Frame}

/-- What the client answers to a frame. -/
def answered (client : ClientForwards) (connected : Option ConnId) (writerFull : Bool) :
    Frame → List Frame
  | .portForwardListen forwardId _ _ => [.portForwardStop forwardId]
  | .portForwardOpen forwardId id _ =>
    if (client.clientInitiatedForwards.lookup forwardId).isSome && connected.isSome then []
    else [.portForwardClose id]
  | .portForwardData id _ =>
    if (client.channels.lookup id).isSome && writerFull then [.portForwardClose id] else []
  | _ => []

/-- A frame changes the client's tables and what it sends, and leaves its events alone. -/
theorem handleServerFrame_fields (client : ClientForwards) (connected : Option ConnId)
    (writerFull : Bool) (frame : Frame) :
    (client.handleServerFrame connected writerFull frame).queue = client.queue ∧
      (client.handleServerFrame connected writerFull frame).sent =
        client.sent ++ answered client connected writerFull frame := by
  cases frame with
  | portForwardOpen forwardId id targetPort =>
    cases known : client.clientInitiatedForwards.lookup forwardId <;> cases connected <;>
      simp [ClientForwards.handleServerFrame, ClientForwards.portForwardOpen, answered, known,
        ClientForwards.send, ClientForwards.note]
  | portForwardData id bytes =>
    simp only [ClientForwards.handleServerFrame, ClientForwards.portForwardData, answered]
    split <;> simp [ClientForwards.send]
  | portForwardReady forwardId =>
    cases pending : client.pendingLf.lookup forwardId <;>
      simp [ClientForwards.handleServerFrame, ClientForwards.portForwardReady, answered, pending,
        ClientForwards.startPfKeepalive, ClientForwards.answer]
  | portForwardStop forwardId =>
    cases pending : client.pendingLf.lookup forwardId <;>
      simp [ClientForwards.handleServerFrame, ClientForwards.portForwardStop, answered, pending,
        ClientForwards.stopForward, ClientForwards.note, ClientForwards.answer]
  | _ => simp [ClientForwards.handleServerFrame, answered, ClientForwards.send]

/-- The client takes the server's next frame. -/
theorem ends_serverFrame
    (stepped : step channelId state (.forward (.serverFrame connected writerFull) lost) =
      some next) : ∃ frame later, state.system.toClient = frame :: later ∧
      next.ends channelId = {
        mine := { state.serverEnd channelId with link := later.filterMap (·.about channelId) }
        peer := {
          socket := (state.clientTakes channelId connected).1
          registered := ((state.system.client.handleServerFrame connected writerFull
            frame).channels.lookup channelId).isSome
          events := (state.clientEnd channelId).events
          link := (state.clientEnd channelId).link ++ kept lost ((answered state.system.client
            connected writerFull frame).filterMap (·.about channelId)) }
        overflowed := state.overflowed || (state.clientTakes channelId connected).2
        stopped := state.stopped || state.stops channelId (.serverFrame connected writerFull) } := by
  obtain ⟨-, after, went, rfl⟩ := step_forward stepped
  simp only [ForwardSystem.step] at went
  split at went
  · next frame later queued =>
    simp only [ClientForwards.step, Option.map_eq_some_iff, Option.ite_none_left_eq_some,
      Option.some.injEq] at went
    obtain ⟨client, ⟨-, rfl⟩, rfl⟩ := went
    obtain ⟨queue, sent⟩ :=
      handleServerFrame_fields state.system.client connected writerFull frame
    refine ⟨frame, later, queued, ?_⟩
    cases lost <;> simp [ends, serverEnd, clientEnd, serverHas, clientHas, sockets, unsent, kept,
      queue, sent]
  · cases went

/-- A socket takes what is not about the channel for nothing. -/
theorem clientTakes_other (queued : state.system.toClient = frame :: later)
    (other : frame.about channelId = none) :
    state.clientTakes channelId connected = (state.client, false) := by
  simp [clientTakes, queued, other]

/-- The message about the channel goes to its socket. -/
theorem clientTakes_about (queued : state.system.toClient = frame :: later)
    {message : ChannelMessage} (this : frame.about channelId = some message) :
    state.clientTakes channelId connected = deliver state.client
      (state.clientConnects connected frame) (state.clientHas channelId) message := by
  simp [clientTakes, queued, this]

/-- The frames that open a channel. -/
theorem moves_serverOpen {forwardId id : UInt32} {targetPort : UInt16}
    (queued : state.system.toClient = .portForwardOpen forwardId id targetPort :: later)
    (stepped : step channelId state (.forward (.serverFrame connected writerFull) lost) =
      some next) : (state.ends channelId).Moves (next.ends channelId) := by
  obtain ⟨frame, rest, queued', same⟩ := ends_serverFrame stepped
  obtain ⟨rfl, rfl⟩ := List.cons.inj (queued'.symm.trans queued)
  have unstopped : state.stops channelId (.serverFrame connected writerFull) = false := by
    simp [stops, queued]
  rw [same, unstopped, Bool.or_false]
  by_cases this : id = channelId
  · subst this
    have link : (state.ends id).swap.peer.link = .opens :: rest.filterMap (·.about id) := by
      simp [ends, ChannelEnds.swap, serverEnd, queued]
    have about : (Frame.portForwardOpen forwardId id targetPort).about id = some .opens := by simp
    rw [clientTakes_about queued about]
    right
    right
    have refuses := ChannelEnds.Turn.refuses link (kept_single lost .closes)
    have connects := ChannelEnds.Turn.connects link
    cases known : state.system.client.clientInitiatedForwards.lookup forwardId with
    | none =>
      simpa [ends, ChannelEnds.swap, clientEnd, clientHas, deliver, clientConnects, known, answered,
        ClientForwards.handleServerFrame, ClientForwards.portForwardOpen,
        ClientForwards.send] using refuses
    | some expectedPort =>
      cases connected with
      | none =>
        simpa [ends, ChannelEnds.swap, clientEnd, clientHas, deliver, clientConnects, known,
          answered, ClientForwards.handleServerFrame, ClientForwards.portForwardOpen,
          ClientForwards.send, ClientForwards.note] using refuses
      | some conn =>
        simpa [ends, ChannelEnds.swap, clientEnd, clientHas, deliver, clientConnects, known,
          answered, ClientForwards.handleServerFrame, ClientForwards.portForwardOpen,
          ClientForwards.note, isSome_lookup_insert] using connects
  · have other : (Frame.portForwardOpen forwardId id targetPort).about channelId = none := by
      simp [this]
    rw [clientTakes_other queued other, Bool.or_false]
    left
    have registered : ((state.system.client.portForwardOpen forwardId id targetPort
        connected).channels.lookup channelId).isSome = state.clientHas channelId := by
      unfold ClientForwards.portForwardOpen
      cases state.system.client.clientInitiatedForwards.lookup forwardId <;> cases connected <;>
        simp [clientHas, ClientForwards.send, ClientForwards.note, isSome_lookup_insert, this]
    have silent : (answered state.system.client connected writerFull
        (.portForwardOpen forwardId id targetPort)).filterMap (·.about channelId) = [] := by
      unfold answered
      dsimp only
      split <;> simp [this]
    simp [ends, serverEnd, clientEnd, ClientForwards.handleServerFrame, registered, silent, queued,
      this]

/-- The frames that carry bytes. -/
theorem moves_serverData (sound : (state.ends channelId).Sound) {id : UInt32} {bytes : Bytes}
    (queued : state.system.toClient = .portForwardData id bytes :: later)
    (stepped : step channelId state (.forward (.serverFrame connected writerFull) lost) =
      some next) : (state.ends channelId).Moves (next.ends channelId) := by
  have agrees := (step_forward stepped).1
  obtain ⟨frame, rest, queued', same⟩ := ends_serverFrame stepped
  obtain ⟨rfl, rfl⟩ := List.cons.inj (queued'.symm.trans queued)
  have unstopped : state.stops channelId (.serverFrame connected writerFull) = false := by
    simp [stops, queued]
  rw [same, unstopped, Bool.or_false]
  by_cases this : id = channelId
  · subst this
    have link : (state.ends id).swap.peer.link = .data bytes :: rest.filterMap (·.about id) := by
      simp [ends, ChannelEnds.swap, serverEnd, queued]
    have about : (Frame.portForwardData id bytes).about id = some (.data bytes) := by simp
    rw [clientTakes_about queued about]
    right
    right
    cases registered : state.clientHas id with
    | false =>
      have drops := ChannelEnds.Turn.drops link registered
      have unregistered : (state.system.client.channels.lookup id).isSome = false := registered
      cases there : state.client <;>
        simpa [ends, ChannelEnds.swap, clientEnd, clientHas, deliver, answered, there, unregistered,
          ClientForwards.handleServerFrame, ClientForwards.portForwardData] using drops
    | true =>
      obtain ⟨socket, there⟩ := sound.peer.socket_of_registered registered
      have open_ : state.client = some socket := there
      have inTable : (state.system.client.channels.lookup id).isSome = true := registered
      obtain rfl : writerFull = socket.writerFull := by
        simpa [ForwardedStreams.agrees, queued, open_] using agrees
      cases full : socket.writerFull with
      | false =>
        have queues := ChannelEnds.Turn.queues link registered there full
        simpa [ends, ChannelEnds.swap, clientEnd, clientHas, deliver, answered, open_, inTable, full,
          ClientForwards.handleServerFrame, ClientForwards.portForwardData] using queues
      | true =>
        have overflows := ChannelEnds.Turn.overflows link registered (kept_single lost .closes)
        simpa [ends, ChannelEnds.swap, clientEnd, clientHas, deliver, answered, open_, inTable, full,
          ClientForwards.handleServerFrame, ClientForwards.portForwardData, ClientForwards.send,
          isSome_lookup_erase] using overflows
  · have other : (Frame.portForwardData id bytes).about channelId = none := by simp [this]
    rw [clientTakes_other queued other, Bool.or_false]
    left
    simp only [ClientForwards.handleServerFrame, ClientForwards.portForwardData, answered]
    split <;> simp [ends, serverEnd, clientEnd, clientHas, ClientForwards.send, isSome_lookup_erase,
      queued, this]

/-- The frames that close a channel. -/
theorem moves_serverClose {id : UInt32}
    (queued : state.system.toClient = .portForwardClose id :: later)
    (stepped : step channelId state (.forward (.serverFrame connected writerFull) lost) =
      some next) : (state.ends channelId).Moves (next.ends channelId) := by
  obtain ⟨frame, rest, queued', same⟩ := ends_serverFrame stepped
  obtain ⟨rfl, rfl⟩ := List.cons.inj (queued'.symm.trans queued)
  have unstopped : state.stops channelId (.serverFrame connected writerFull) = false := by
    simp [stops, queued]
  rw [same, unstopped, Bool.or_false]
  by_cases this : id = channelId
  · subst this
    have link : (state.ends id).swap.peer.link = .closes :: rest.filterMap (·.about id) := by
      simp [ends, ChannelEnds.swap, serverEnd, queued]
    have about : (Frame.portForwardClose id).about id = some .closes := by simp
    rw [clientTakes_about queued about]
    have closes := ChannelEnds.Turn.closes link
    right
    right
    simpa [ends, ChannelEnds.swap, clientEnd, clientHas, deliver, answered,
      ClientForwards.handleServerFrame, isSome_lookup_erase] using closes
  · have other : (Frame.portForwardClose id).about channelId = none := by simp [this]
    rw [clientTakes_other queued other, Bool.or_false]
    left
    simp [ends, serverEnd, clientEnd, clientHas, answered, ClientForwards.handleServerFrame,
      isSome_lookup_erase, queued, this]

/-- The client's channels after a forward is stopped. -/
theorem withoutForward_lookup (client : ClientForwards) (forwardId : UInt32) :
    (ClientForwards.withoutForward client.channels forwardId).lookup channelId =
      (client.channels.lookup channelId).filter fun entry => !decide (entry.1 = forwardId) :=
  lookup_removeWhere client.channels _ channelId

/-- A stop at the client takes the channel off its table, or is of another forward. -/
theorem moves_clientStopped {after : ChannelEnds} (forwardId : UInt32)
    (same : after = {
      mine := state.serverEnd channelId
      peer := { state.clientEnd channelId with
        registered := ((ClientForwards.withoutForward state.system.client.channels
          forwardId).lookup channelId).isSome }
      overflowed := state.overflowed
      stopped := state.stopped || (state.system.client.channels.lookup channelId).any
        fun entry => entry.1 = forwardId }) : (state.ends channelId).Moves after := by
  rw [same, withoutForward_lookup]
  cases found : state.system.client.channels.lookup channelId with
  | none =>
    left
    simp [ends, clientEnd, clientHas, found]
  | some entry =>
    by_cases mine : entry.1 = forwardId
    · have less : false = true → (state.ends channelId).swap.mine.registered = true := nofun
      have stops := ChannelEnds.Turn.stops false less
      right
      right
      simpa [ends, ChannelEnds.swap, clientEnd, mine] using stops
    · left
      simp [ends, clientEnd, clientHas, found, mine]

/-- Whatever frame the client takes from the server. -/
theorem moves_serverFrame (sound : (state.ends channelId).Sound)
    (stepped : step channelId state (.forward (.serverFrame connected writerFull) lost) =
      some next) : (state.ends channelId).Moves (next.ends channelId) := by
  obtain ⟨frame, later, queued, same⟩ := ends_serverFrame stepped
  cases frame with
  | portForwardOpen forwardId id targetPort => exact moves_serverOpen queued stepped
  | portForwardData id bytes => exact moves_serverData sound queued stepped
  | portForwardClose id => exact moves_serverClose queued stepped
  | portForwardStop forwardId =>
    have other : (Frame.portForwardStop forwardId).about channelId = none := by simp
    rw [clientTakes_other queued other, Bool.or_false] at same
    refine moves_clientStopped forwardId (same.trans ?_)
    cases pending : state.system.client.pendingLf.lookup forwardId <;>
      simp [serverEnd, clientEnd, answered, stops, queued, ClientForwards.handleServerFrame,
        ClientForwards.portForwardStop, ClientForwards.stopForward, ClientForwards.note,
        ClientForwards.answer, pending, List.filterMap_cons]
  | portForwardReady forwardId =>
    left
    rw [same, clientTakes_other queued rfl]
    cases pending : state.system.client.pendingLf.lookup forwardId <;>
      simp [ends, serverEnd, clientEnd, clientHas, answered, stops, queued,
        ClientForwards.handleServerFrame, ClientForwards.portForwardReady,
        ClientForwards.startPfKeepalive, ClientForwards.answer, pending, List.filterMap_cons]
  | _ =>
    left
    rw [same, clientTakes_other queued rfl]
    simp [ends, serverEnd, clientEnd, clientHas, answered, stops, queued,
      ClientForwards.handleServerFrame, ClientForwards.send, Frame.about]

end ServerFrames

section ClientEvents

variable {lost : Bool} {sends : Bool}

/-- The client handles its next event. -/
theorem ends_clientEvent
    (stepped : step channelId state (.forward (.client (.pfEvent sends)) lost) = some next) :
    ∃ event later, state.system.client.queue = event :: later ∧
      next.ends channelId = {
        mine := state.serverEnd channelId
        peer := {
          socket := state.client
          registered := (({ state.system.client with queue := later }.handlePfEvent sends
            event).channels.lookup channelId).isSome
          events := ({ state.system.client with queue := later }.handlePfEvent sends
            event).queue.filterMap (ClientPortForwardEvent.about channelId)
          link := ({ state.system.client with queue := later }.handlePfEvent sends
            event).sent.filterMap (Frame.about channelId) }
        overflowed := state.overflowed
        stopped := state.stopped || state.stops channelId (.client (.pfEvent sends)) } := by
  obtain ⟨-, after, went, rfl⟩ := step_forward stepped
  simp only [ForwardSystem.step, ClientForwards.step, Option.map_eq_some_iff,
    Option.ite_none_left_eq_some] at went
  obtain ⟨client, ⟨-, handled⟩, rfl⟩ := went
  split at handled
  · next event later queued =>
    cases handled
    refine ⟨event, later, queued, ?_⟩
    cases lost <;> simp [ends, serverEnd, clientEnd, serverHas, clientHas, sockets, unsent]
  · cases handled

/-- Whatever event the client handles. -/
theorem moves_clientEvent
    (stepped : step channelId state (.forward (.client (.pfEvent sends)) lost) = some next) :
    (state.ends channelId).Moves (next.ends channelId) := by
  obtain ⟨event, later, queued, same⟩ := ends_clientEvent stepped
  cases event with
  | accepted forwardId id conn =>
    rw [same]
    by_cases this : id = channelId
    · subst this
      have events : (state.ends id).swap.mine.events = .opens :: later.filterMap (·.about id) := by
        simp [ends, ChannelEnds.swap, clientEnd, queued]
      right
      right
      cases known : state.system.client.forwards.lookup forwardId with
      | none =>
        have withdraws := ChannelEnds.Turn.withdraws events
        simpa [ends, ChannelEnds.swap, clientEnd, clientHas, stops, queued, known,
          ClientForwards.handlePfEvent] using withdraws
      | some forward =>
        have announces := ChannelEnds.Turn.announces events (Or.inl rfl)
        cases sends <;> simpa [ends, ChannelEnds.swap, clientEnd, clientHas, stops, queued, known,
          ClientForwards.handlePfEvent, ClientForwards.sendOrEnd, ClientForwards.send,
          isSome_lookup_insert] using announces
    · left
      cases known : state.system.client.forwards.lookup forwardId <;> cases sends <;>
        simp [ends, clientEnd, clientHas, stops, queued, known, this, ClientForwards.handlePfEvent,
          ClientForwards.sendOrEnd, ClientForwards.send, isSome_lookup_insert]
  | data id bytes =>
    have unstopped : state.stops channelId (.client (.pfEvent sends)) = false := by
      simp [stops, queued]
    rw [same, unstopped, Bool.or_false]
    by_cases this : id = channelId
    · subst this
      have events : (state.ends id).swap.mine.events =
          .data bytes :: later.filterMap (·.about id) := by
        simp [ends, ChannelEnds.swap, clientEnd, queued]
      right
      right
      cases registered : state.clientHas id with
      | false =>
        have ignores := ChannelEnds.Turn.ignores events (by simp) registered
        have unregistered : (state.system.client.channels.lookup id).isSome = false := registered
        simpa [ends, ChannelEnds.swap, clientEnd, clientHas, unregistered,
          ClientForwards.handlePfEvent] using ignores
      | true =>
        have forwards := ChannelEnds.Turn.forwards events registered
        have inTable : (state.system.client.channels.lookup id).isSome = true := registered
        cases sends <;> simpa [ends, ChannelEnds.swap, clientEnd, clientHas, inTable,
          ClientForwards.handlePfEvent, ClientForwards.sendOrEnd, ClientForwards.send] using forwards
    · left
      simp only [ClientForwards.handlePfEvent]
      split <;> cases sends <;> simp [ends, clientEnd, clientHas, ClientForwards.sendOrEnd,
        ClientForwards.send, queued, this]
  | closed id =>
    have unstopped : state.stops channelId (.client (.pfEvent sends)) = false := by
      simp [stops, queued]
    rw [same, unstopped, Bool.or_false]
    by_cases this : id = channelId
    · subst this
      have events : (state.ends id).swap.mine.events = .closes :: later.filterMap (·.about id) := by
        simp [ends, ChannelEnds.swap, clientEnd, queued]
      right
      right
      cases registered : state.clientHas id with
      | false =>
        have ignores := ChannelEnds.Turn.ignores events (by simp) registered
        have unregistered : (state.system.client.channels.lookup id).isSome = false := registered
        simpa [ends, ChannelEnds.swap, clientEnd, clientHas, unregistered,
          ClientForwards.handlePfEvent] using ignores
      | true =>
        have closes := ChannelEnds.Turn.reportsEnd events registered (Or.inl rfl)
        have inTable : (state.system.client.channels.lookup id).isSome = true := registered
        cases sends <;> simpa [ends, ChannelEnds.swap, clientEnd, clientHas, inTable,
          ClientForwards.handlePfEvent, ClientForwards.sendOrEnd, ClientForwards.send,
          isSome_lookup_erase] using closes
    · left
      simp only [ClientForwards.handlePfEvent]
      split <;> cases sends <;> simp [ends, clientEnd, clientHas, ClientForwards.sendOrEnd,
        ClientForwards.send, isSome_lookup_erase, queued, this]
  | forwardStopped forwardId =>
    refine moves_clientStopped forwardId (same.trans ?_)
    cases sends <;> simp [clientEnd, stops, queued, ClientForwards.handlePfEvent,
      ClientForwards.stopForward, ClientForwards.note, ClientForwards.sendOrEnd,
      ClientForwards.send, List.filterMap_cons]

/-- A listener of the client accepts a connection, of the channel or of another one. -/
theorem moves_clientAccepts {forwardId : UInt32} {conn : ConnId}
    (undisturbed : state.Undisturbed channelId (.forward (.client (.accepts forwardId conn)) lost))
    (stepped : step channelId state (.forward (.client (.accepts forwardId conn)) lost) =
      some next) : (state.ends channelId).Moves (next.ends channelId) := by
  obtain ⟨-, after, went, rfl⟩ := step_forward stepped
  simp only [ForwardSystem.step, ClientForwards.step, Option.map_eq_some_iff,
    Option.ite_none_left_eq_some, Option.ite_none_right_eq_some, Option.some.injEq] at went
  obtain ⟨client, ⟨-, -, rfl⟩, rfl⟩ := went
  by_cases this : state.system.client.nextChannelId = channelId
  · obtain ⟨unusedThere, unused⟩ := undisturbed this
    have accepts := ChannelEnds.Turn.accepts
      (show (state.ends channelId).swap.mine.socket = none from unused) unusedThere
    right
    right
    cases lost <;> simpa [ends, ChannelEnds.swap, serverEnd, clientEnd, serverHas, clientHas,
      sockets, unsent, stops, ClientForwards.enqueue, ClientForwards.takeId, this] using accepts
  · left
    cases lost <;> simp [ends, serverEnd, clientEnd, serverHas, clientHas, sockets, unsent, stops,
      ClientForwards.enqueue, ClientForwards.takeId, this]

/-- Whatever else happens at the client does not concern the channel. -/
theorem moves_clientRest {action : ClientForwardAction}
    (rest : (∃ process direction listenPort targetPort binds sends,
        action = .fwdRequest process direction listenPort targetPort binds sends) ∨
      (∃ id bytes, action = .reports id bytes) ∨ ∃ forwardId, action = .keepaliveEnds forwardId)
    (stepped : step channelId state (.forward (.client action) lost) = some next) :
    (state.ends channelId).Moves (next.ends channelId) := by
  obtain ⟨agrees, after, went, rfl⟩ := step_forward stepped
  left
  obtain ⟨process, direction, listenPort, targetPort, binds, sends, rfl⟩ | ⟨id, bytes, rfl⟩ |
    ⟨forwardId, rfl⟩ := rest
  · simp only [ForwardSystem.step, ClientForwards.step, Option.map_eq_some_iff,
      Option.ite_none_left_eq_some, Option.some.injEq] at went
    obtain ⟨client, ⟨-, rfl⟩, rfl⟩ := went
    obtain ⟨channels, queue, unseen, -⟩ := ForwardSystem.fwdRequest_rest state.system.client process
      direction listenPort targetPort binds sends
    have sent := unseen (Frame.about channelId) rfl
    cases lost <;> simp [ends, serverEnd, clientEnd, serverHas, clientHas, sockets, unsent, stops,
      channels, queue, sent]
  · have other : id ≠ channelId := by simpa [ForwardedStreams.agrees] using agrees
    cases bytes <;> simp only [ForwardSystem.step, ClientForwards.step, Option.map_eq_some_iff,
        Option.ite_none_left_eq_some, Option.some.injEq] at went <;>
      obtain ⟨client, ⟨-, rfl⟩, rfl⟩ := went <;> cases lost <;>
      simp [ends, serverEnd, clientEnd, serverHas, clientHas, sockets, unsent, stops,
        ClientForwards.enqueue, other]
  · simp only [ForwardSystem.step, ClientForwards.step, Option.map_eq_some_iff,
      Option.ite_none_left_eq_some, Option.ite_none_right_eq_some, Option.some.injEq] at went
    obtain ⟨client, ⟨-, -, rfl⟩, rfl⟩ := went
    cases lost <;> simp [ends, serverEnd, clientEnd, serverHas, clientHas, sockets, unsent, stops,
      ClientForwards.enqueue, List.filterMap_cons]

end ClientEvents

end ForwardedStreams

end Gritty
