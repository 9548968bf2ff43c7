import Gritty.Relay.StreamViews

/-! What the server does with frames, events and connections is a turn of its end of the channel, or nothing. -/

namespace Gritty

namespace ForwardedStreams

variable {channelId : UInt32} {state next : ForwardedStreams}

section ClientFrames

variable {connected : Option ConnId} {bound : Option AcceptorId} {writerFull lost : Bool}
  {frame : Frame} {later : List Frame}

/-- The server's table after a frame, and what it answers. -/
def handled (table : PortForwardTable) (connected : Option ConnId) (bound : Option AcceptorId)
    (writerFull : Bool) : Frame → PortForwardTable × List Frame
  | .portForwardOpen forwardId id _ => table.portForwardOpen forwardId id connected
  | .portForwardData id _ => table.portForwardData id writerFull
  | .portForwardClose id => (table.close id, [])
  | .portForwardStop forwardId => (table.portForwardStop forwardId, [])
  | .portForwardRequest forwardId direction _ targetPort =>
    table.portForwardRequest forwardId direction targetPort bound
  | _ => (table, [])

/-- A frame changes the table and the link, and leaves events and client alone. -/
theorem handleClientFrame_fields (system : ForwardSystem) (frame : Frame)
    (connected : Option ConnId) (bound : Option AcceptorId) (writerFull : Bool) :
    (system.handleClientFrame frame connected bound writerFull).table =
        (handled system.table connected bound writerFull frame).1 ∧
      (system.handleClientFrame frame connected bound writerFull).toClient =
        system.toClient ++ (handled system.table connected bound writerFull frame).2 ∧
      (system.handleClientFrame frame connected bound writerFull).events = system.events ∧
      (system.handleClientFrame frame connected bound writerFull).client = system.client := by
  cases frame <;> simp [ForwardSystem.handleClientFrame, handled]

/-- The server takes the client's next frame. -/
theorem ends_clientFrame
    (stepped : step channelId state (.forward (.clientFrame connected bound writerFull) lost) =
      some next) : ∃ frame later, state.system.client.sent = frame :: later ∧
      next.system.table =
        (handled state.system.table connected bound writerFull frame).1 ∧
      next.ends channelId = {
        mine := {
          socket := (state.serverTakes channelId connected).1
          registered := ((handled state.system.table connected bound writerFull
            frame).1.channels.lookup channelId).isSome
          events := (state.serverEnd channelId).events
          link := (state.serverEnd channelId).link ++ kept lost ((handled state.system.table connected
            bound writerFull frame).2.filterMap (·.about channelId)) }
        peer := { state.clientEnd channelId with link := later.filterMap (·.about channelId) }
        overflowed := state.overflowed || (state.serverTakes channelId connected).2
        stopped :=
          state.stopped || state.stops channelId (.clientFrame connected bound writerFull) } := by
  obtain ⟨-, after, went, rfl⟩ := step_forward stepped
  simp only [ForwardSystem.step] at went
  split at went
  · next frame later queued =>
    cases went
    obtain ⟨table, toClient, events, client⟩ := handleClientFrame_fields
      { state.system with client := { state.system.client with sent := later } } frame connected
      bound writerFull
    refine ⟨frame, later, queued, ?_, ?_⟩
    · cases lost <;> exact table
    · cases lost <;> simp [ends, serverEnd, clientEnd, serverHas, clientHas, sockets, unsent, kept,
        table, toClient, events, client]
  · cases went

/-- A socket takes what is not about the channel for nothing. -/
theorem serverTakes_other (queued : state.system.client.sent = frame :: later)
    (other : frame.about channelId = none) :
    state.serverTakes channelId connected = (state.server, false) := by
  simp [serverTakes, queued, other]

/-- The message about the channel goes to its socket. -/
theorem serverTakes_about (queued : state.system.client.sent = frame :: later)
    {message : ChannelMessage} (this : frame.about channelId = some message) :
    state.serverTakes channelId connected = deliver state.server
      (state.serverConnects connected frame) (state.serverHas channelId) message := by
  simp [serverTakes, queued, this]

/-- The frames that open a channel. -/
theorem moves_clientOpen {forwardId id : UInt32} {targetPort : UInt16}
    (queued : state.system.client.sent = .portForwardOpen forwardId id targetPort :: later)
    (stepped : step channelId state (.forward (.clientFrame connected bound writerFull) lost) =
      some next) : (state.ends channelId).Moves (next.ends channelId) := by
  obtain ⟨frame, rest, queued', -, same⟩ := ends_clientFrame stepped
  obtain ⟨rfl, rfl⟩ := List.cons.inj (queued'.symm.trans queued)
  have unstopped : state.stops channelId (.clientFrame connected bound writerFull) = false := by
    simp [stops, queued]
  rw [same, unstopped, Bool.or_false]
  by_cases this : id = channelId
  · subst this
    have link : (state.ends id).peer.link = .opens :: rest.filterMap (·.about id) := by
      simp [ends, clientEnd, queued]
    have about : (Frame.portForwardOpen forwardId id targetPort).about id = some .opens := by simp
    rw [serverTakes_about queued about]
    right
    left
    cases known : state.system.table.forwards.lookup forwardId with
    | none =>
      have ignored := ChannelEnds.Turn.refuses link (Or.inr rfl)
      simpa [ends, serverEnd, serverHas, deliver, serverConnects, known, handled,
        PortForwardTable.portForwardOpen] using ignored
    | some forward =>
      cases connected with
      | none =>
        have refused := ChannelEnds.Turn.refuses link (kept_single lost .closes)
        simpa [ends, serverEnd, serverHas, deliver, serverConnects, known, handled,
          PortForwardTable.portForwardOpen] using refused
      | some conn =>
        have connects := ChannelEnds.Turn.connects link
        simpa [ends, serverEnd, serverHas, deliver, serverConnects, known, handled,
          PortForwardTable.portForwardOpen, PortForwardTable.register_channels,
          isSome_lookup_insert] using connects
  · have other : (Frame.portForwardOpen forwardId id targetPort).about channelId = none := by
      simp [this]
    rw [serverTakes_other queued other, Bool.or_false]
    left
    have registered : ((state.system.table.portForwardOpen forwardId id connected).1.channels.lookup
        channelId).isSome = state.serverHas channelId := by
      unfold PortForwardTable.portForwardOpen
      split
      · cases connected <;> simp [serverHas, PortForwardTable.register_channels,
          isSome_lookup_insert, this]
      · rfl
    have silent : (state.system.table.portForwardOpen forwardId id connected).2.filterMap
        (·.about channelId) = [] := by
      unfold PortForwardTable.portForwardOpen
      split
      · cases connected <;> simp [this]
      · rfl
    simp [ends, serverEnd, clientEnd, handled, registered, silent, queued, this]

/-- The frames that carry bytes. -/
theorem moves_clientData (sound : (state.ends channelId).Sound) {id : UInt32} {bytes : Bytes}
    (queued : state.system.client.sent = .portForwardData id bytes :: later)
    (stepped : step channelId state (.forward (.clientFrame connected bound writerFull) lost) =
      some next) : (state.ends channelId).Moves (next.ends channelId) := by
  have agrees := (step_forward stepped).1
  obtain ⟨frame, rest, queued', -, same⟩ := ends_clientFrame stepped
  obtain ⟨rfl, rfl⟩ := List.cons.inj (queued'.symm.trans queued)
  have unstopped : state.stops channelId (.clientFrame connected bound writerFull) = false := by
    simp [stops, queued]
  rw [same, unstopped, Bool.or_false]
  by_cases this : id = channelId
  · subst this
    have link : (state.ends id).peer.link = .data bytes :: rest.filterMap (·.about id) := by
      simp [ends, clientEnd, queued]
    have about : (Frame.portForwardData id bytes).about id = some (.data bytes) := by simp
    rw [serverTakes_about queued about]
    right
    left
    cases registered : state.serverHas id with
    | false =>
      have drops := ChannelEnds.Turn.drops link registered
      have unregistered : (state.system.table.channels.lookup id).isSome = false := registered
      cases there : state.server <;>
        simpa [ends, serverEnd, serverHas, deliver, handled, there, unregistered,
          PortForwardTable.portForwardData] using drops
    | true =>
      obtain ⟨socket, there⟩ := sound.mine.socket_of_registered registered
      have open_ : state.server = some socket := there
      have inTable : (state.system.table.channels.lookup id).isSome = true := registered
      obtain rfl : writerFull = socket.writerFull := by
        simpa [ForwardedStreams.agrees, queued, open_] using agrees
      cases full : socket.writerFull with
      | false =>
        have queues := ChannelEnds.Turn.queues link registered there full
        simpa [ends, serverEnd, serverHas, deliver, handled, open_, inTable, full,
          PortForwardTable.portForwardData] using queues
      | true =>
        have overflows := ChannelEnds.Turn.overflows link registered (kept_single lost .closes)
        simpa [ends, serverEnd, serverHas, deliver, handled, open_, inTable, full,
          PortForwardTable.portForwardData, PortForwardTable.close_isSome_lookup] using overflows
  · have other : (Frame.portForwardData id bytes).about channelId = none := by simp [this]
    rw [serverTakes_other queued other, Bool.or_false]
    left
    unfold handled PortForwardTable.portForwardData
    dsimp only
    split <;> simp [ends, serverEnd, serverHas, clientEnd,
      PortForwardTable.close_isSome_lookup, queued, this]

/-- The frames that close a channel. -/
theorem moves_clientClose {id : UInt32}
    (queued : state.system.client.sent = .portForwardClose id :: later)
    (stepped : step channelId state (.forward (.clientFrame connected bound writerFull) lost) =
      some next) : (state.ends channelId).Moves (next.ends channelId) := by
  obtain ⟨frame, rest, queued', -, same⟩ := ends_clientFrame stepped
  obtain ⟨rfl, rfl⟩ := List.cons.inj (queued'.symm.trans queued)
  have unstopped : state.stops channelId (.clientFrame connected bound writerFull) = false := by
    simp [stops, queued]
  rw [same, unstopped, Bool.or_false]
  by_cases this : id = channelId
  · subst this
    have link : (state.ends id).peer.link = .closes :: rest.filterMap (·.about id) := by
      simp [ends, clientEnd, queued]
    have about : (Frame.portForwardClose id).about id = some .closes := by simp
    rw [serverTakes_about queued about]
    have closes := ChannelEnds.Turn.closes link
    right
    left
    simpa [ends, serverEnd, serverHas, deliver, handled,
      PortForwardTable.close_isSome_lookup] using closes
  · have other : (Frame.portForwardClose id).about channelId = none := by simp [this]
    rw [serverTakes_other queued other, Bool.or_false]
    left
    simp [ends, serverEnd, serverHas, clientEnd, handled,
      PortForwardTable.close_isSome_lookup, queued, this]

/-- The frames that stop a forward. -/
theorem moves_clientStop (lists : state.system.table.Lists channelId) {forwardId : UInt32}
    (queued : state.system.client.sent = .portForwardStop forwardId :: later)
    (stepped : step channelId state (.forward (.clientFrame connected bound writerFull) lost) =
      some next) : (state.ends channelId).Moves (next.ends channelId) := by
  obtain ⟨frame, rest, queued', -, same⟩ := ends_clientFrame stepped
  obtain ⟨rfl, rfl⟩ := List.cons.inj (queued'.symm.trans queued)
  have other : (Frame.portForwardStop forwardId).about channelId = none := by simp
  rw [same, serverTakes_other queued other, Bool.or_false]
  by_cases mine : (state.system.table.channels.lookup channelId).any
      fun entry => entry.1 = forwardId
  · have stopped : state.stops channelId (.clientFrame connected bound writerFull) = true := by
      simpa [stops, queued] using mine
    have less : ((state.system.table.portForwardStop forwardId).channels.lookup
        channelId).isSome = true → (state.ends channelId).mine.registered = true := by
      intro left_
      obtain ⟨entry, found⟩ := Option.isSome_iff_exists.mp left_
      exact Option.isSome_iff_exists.mpr
        ⟨entry, PortForwardTable.portForwardStop_lookup found⟩
    have stops := ChannelEnds.Turn.stops _ less
    right
    left
    simpa [ends, serverEnd, clientEnd, serverHas, handled, stopped, queued,
      List.filterMap_cons] using stops
  · have unstopped : state.stops channelId (.clientFrame connected bound writerFull) = false := by
      simpa [stops, queued] using mine
    have keeps : (state.system.table.portForwardStop forwardId).channels.lookup channelId =
        state.system.table.channels.lookup channelId := by
      refine lists.stop_keeps fun entry found isMine => ?_
      rw [found] at mine
      exact mine (by simpa using isMine)
    left
    simp [ends, serverEnd, clientEnd, serverHas, handled, unstopped, queued, keeps,
      List.filterMap_cons]

/-- Whatever frame the server takes from the client. -/
theorem moves_clientFrame (sound : (state.ends channelId).Sound)
    (lists : state.system.table.Lists channelId)
    (stepped : step channelId state (.forward (.clientFrame connected bound writerFull) lost) =
      some next) : (state.ends channelId).Moves (next.ends channelId) := by
  obtain ⟨frame, later, queued, -, same⟩ := ends_clientFrame stepped
  cases frame with
  | portForwardOpen forwardId id targetPort => exact moves_clientOpen queued stepped
  | portForwardData id bytes => exact moves_clientData sound queued stepped
  | portForwardClose id => exact moves_clientClose queued stepped
  | portForwardStop forwardId => exact moves_clientStop lists queued stepped
  | portForwardRequest forwardId direction listenPort targetPort =>
    -- A request is answered, and the channels stay what they are.
    have silent : (state.system.table.portForwardRequest forwardId direction targetPort
        bound).2.filterMap (·.about channelId) = [] := by
      unfold PortForwardTable.portForwardRequest
      split
      · cases bound <;> rfl
      · rfl
    left
    rw [same, serverTakes_other queued rfl]
    simp [ends, serverEnd, clientEnd, serverHas, handled, stops, queued, silent,
      PortForwardTable.portForwardRequest_channels, List.filterMap_cons]
  | _ =>
    left
    rw [same, serverTakes_other queued rfl]
    simp [ends, serverEnd, clientEnd, serverHas, handled, stops, queued, Frame.about]

end ClientFrames

section ServerEvents

variable {lost : Bool}

/-- The server handles its next event. -/
theorem ends_pfEvent (stepped : step channelId state (.forward .pfEvent lost) = some next) :
    ∃ event later, state.system.events = event :: later ∧
      next.system.table = (state.system.table.handlePfEvent event).1 ∧
      next.ends channelId = {
        mine := {
          socket := state.server
          registered := ((state.system.table.handlePfEvent event).1.channels.lookup channelId).isSome
          events := later.filterMap (·.about channelId)
          link := (state.serverEnd channelId).link ++ kept lost
            ((state.system.table.handlePfEvent event).2.filterMap (·.about channelId)) }
        peer := state.clientEnd channelId
        overflowed := state.overflowed
        stopped := state.stopped || state.stops channelId .pfEvent } := by
  obtain ⟨-, after, went, rfl⟩ := step_forward stepped
  simp only [ForwardSystem.step] at went
  split at went
  · next event later queued =>
    cases went
    refine ⟨event, later, queued, ?_, ?_⟩
    · cases lost <;> rfl
    · cases lost <;> simp [ends, serverEnd, clientEnd, serverHas, clientHas, sockets, unsent, kept]
  · cases went

/-- Whatever event the server handles. -/
theorem moves_pfEvent
    (undisturbed : state.Undisturbed channelId (.forward .pfEvent lost))
    (stepped : step channelId state (.forward .pfEvent lost) = some next) :
    (state.ends channelId).Moves (next.ends channelId) := by
  obtain ⟨event, later, queued, -, same⟩ := ends_pfEvent stepped
  rw [same]
  cases event with
  | accepted forwardId id conn =>
    by_cases this : id = channelId
    · subst this
      have events : (state.ends id).mine.events = .opens :: later.filterMap (·.about id) := by
        simp [ends, serverEnd, queued]
      right
      left
      cases known : state.system.table.forwards.lookup forwardId with
      | none =>
        have withdraws := ChannelEnds.Turn.withdraws events
        simpa [ends, serverEnd, serverHas, stops, queued, known,
          PortForwardTable.handlePfEvent] using withdraws
      | some forward =>
        have announces := ChannelEnds.Turn.announces events (kept_single lost .opens)
        simpa [ends, serverEnd, serverHas, stops, queued, known, PortForwardTable.handlePfEvent,
          PortForwardTable.register_channels, isSome_lookup_insert] using announces
    · left
      cases known : state.system.table.forwards.lookup forwardId <;>
        simp [ends, serverEnd, serverHas, stops, queued, known, this,
          PortForwardTable.handlePfEvent, PortForwardTable.register_channels,
          isSome_lookup_insert]
  | data id bytes =>
    have unstopped : state.stops channelId .pfEvent = false := by simp [stops, queued]
    rw [unstopped, Bool.or_false]
    by_cases this : id = channelId
    · subst this
      have events : (state.ends id).mine.events = .data bytes :: later.filterMap (·.about id) := by
        simp [ends, serverEnd, queued]
      -- The bytes of the channel are not lost.
      obtain rfl : lost = false := by
        rw [Bool.eq_false_iff]
        intro isLost
        have carried := undisturbed isLost
        simp [queued, ChannelMessage.carries] at carried
      right
      left
      cases registered : state.serverHas id with
      | false =>
        have ignores := ChannelEnds.Turn.ignores events (by simp) registered
        have unregistered : (state.system.table.channels.lookup id).isSome = false := registered
        simpa [ends, serverEnd, serverHas, unregistered,
          PortForwardTable.handlePfEvent] using ignores
      | true =>
        have forwards := ChannelEnds.Turn.forwards events registered
        have inTable : (state.system.table.channels.lookup id).isSome = true := registered
        simpa [ends, serverEnd, serverHas, inTable, kept,
          PortForwardTable.handlePfEvent] using forwards
    · left
      unfold PortForwardTable.handlePfEvent
      dsimp only
      split <;> simp [ends, serverEnd, serverHas, queued, this]
  | closed id =>
    have unstopped : state.stops channelId .pfEvent = false := by simp [stops, queued]
    rw [unstopped, Bool.or_false]
    by_cases this : id = channelId
    · subst this
      have events : (state.ends id).mine.events = .closes :: later.filterMap (·.about id) := by
        simp [ends, serverEnd, queued]
      right
      left
      cases registered : state.serverHas id with
      | false =>
        have ignores := ChannelEnds.Turn.ignores events (by simp) registered
        have unregistered : (state.system.table.channels.lookup id).isSome = false := registered
        simpa [ends, serverEnd, serverHas, unregistered,
          PortForwardTable.handlePfEvent] using ignores
      | true =>
        have closes := ChannelEnds.Turn.reportsEnd events registered (kept_single lost .closes)
        have inTable : (state.system.table.channels.lookup id).isSome = true := registered
        simpa [ends, serverEnd, serverHas, inTable, PortForwardTable.handlePfEvent,
          PortForwardTable.close_isSome_lookup] using closes
    · left
      unfold PortForwardTable.handlePfEvent
      dsimp only
      split <;>
        simp [ends, serverEnd, serverHas, PortForwardTable.close_isSome_lookup, queued, this]

/-- A listener of the server accepts a connection, of the channel or of another one. -/
theorem moves_accepts {forwardId : UInt32} {conn : ConnId}
    (undisturbed : state.Undisturbed channelId (.forward (.accepts forwardId conn) lost))
    (stepped : step channelId state (.forward (.accepts forwardId conn) lost) = some next) :
    (state.ends channelId).Moves (next.ends channelId) := by
  obtain ⟨-, after, went, rfl⟩ := step_forward stepped
  simp only [ForwardSystem.step, Option.ite_none_right_eq_some, Option.some.injEq] at went
  obtain ⟨-, rfl⟩ := went
  by_cases this : state.system.table.nextChannelId = channelId
  · obtain ⟨unused, unusedThere⟩ := undisturbed this
    have accepts := ChannelEnds.Turn.accepts (show (state.ends channelId).mine.socket = none from
      unused) unusedThere
    right
    left
    cases lost <;> simpa [ends, serverEnd, clientEnd, serverHas, clientHas, sockets, unsent, stops,
      this] using accepts
  · left
    cases lost <;> simp [ends, serverEnd, clientEnd, serverHas, clientHas, sockets, unsent, stops,
      this]

/-- What is reported of other channels does not concern this one. -/
theorem moves_reports {id : UInt32} {bytes : Option Bytes}
    (stepped : step channelId state (.forward (.reports id bytes) lost) = some next) :
    (state.ends channelId).Moves (next.ends channelId) := by
  obtain ⟨agrees, after, went, rfl⟩ := step_forward stepped
  have other : id ≠ channelId := by simpa [ForwardedStreams.agrees] using agrees
  left
  cases bytes <;> cases lost <;> simp only [ForwardSystem.step, Option.some.injEq] at went <;>
    subst went <;> simp [ends, serverEnd, clientEnd, serverHas, clientHas, sockets, unsent, stops,
      other]

end ServerEvents

end ForwardedStreams

end Gritty
