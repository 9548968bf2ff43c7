import Gritty.Relay.ForwardOrder

/-! Every forwarded channel keeps to the handshake, in either direction. -/

namespace Gritty

namespace PortForwardTable

/-- A channel is there after another one is closed, if it was before. -/
theorem close_isSome_lookup (table : PortForwardTable) (closed channelId : UInt32) :
    ((table.close closed).channels.lookup channelId).isSome =
      (!decide (closed = channelId) && (table.channels.lookup channelId).isSome) := by
  -- Closing touches the table only where the closed channel is listed.
  unfold close
  cases found : table.channels.lookup closed with
  | none =>
    by_cases same : closed = channelId
    · simp [same ▸ found]
    · simp [same]
  | some entry =>
    obtain ⟨forwardId, conn⟩ := entry
    simp only [updateForward_channels]
    exact isSome_lookup_erase table.channels closed channelId

end PortForwardTable

namespace ForwardSystem

open Handshake

/-- All channels of a connection's forwards are sound: the odd ones are opened by the server, the even ones by the client. -/
structure ChannelsSound (system : ForwardSystem) : Prop where
  orderly : system.Orderly
  server : ∀ channelId, channelId.toNat % 2 = 1 → (system.serverChannel channelId).Sound
  client : ∀ channelId, channelId.toNat % 2 = 0 → (system.clientChannel channelId).Sound

variable {system : ForwardSystem}

/-- The forward of a number is not one that the server could not listen for. -/
theorem Orderly.not_refused (orderly : system.Orderly) {channelId forwardId : UInt32}
    (stop : .portForwardStop forwardId ∈ system.toClient) :
    system.owners.lookup channelId ≠ some forwardId := by
  intro owned
  -- The stop on the link says that the server never listened for this forward.
  obtain ⟨unlistened, elsewhere, _⟩ := orderly.refused forwardId stop
  exact (orderly.listened channelId forwardId owned).elim unlistened elsewhere

/-- Once a forward is stopped, no channel of it is in the server's table. -/
theorem Orderly.stop_removes (orderly : system.Orderly) {channelId forwardId : UInt32}
    (owned : system.owners.lookup channelId = some forwardId) :
    ((system.table.portForwardStop forwardId).channels.lookup channelId).isSome = false := by
  -- What stays behind are the channels of other forwards, and this one has its own owner recorded.
  rw [orderly.kept.stop_lookup]
  cases found : system.table.channels.lookup channelId with
  | none => rfl
  | some entry =>
    have mine := orderly.holds channelId entry.1 entry.2 found
    rw [owned, Option.some.injEq] at mine
    rw [Option.filter_some, if_neg (by simp [mine])]
    rfl

/-- The channels of other forwards stay in the server's table. -/
theorem Orderly.stop_keeps (orderly : system.Orderly) {channelId forwardId : UInt32}
    (other : system.owners.lookup channelId ≠ some forwardId) :
    ((system.table.portForwardStop forwardId).channels.lookup channelId).isSome =
      (system.table.channels.lookup channelId).isSome := by
  rw [orderly.kept.stop_lookup]
  cases found : system.table.channels.lookup channelId with
  | none => rfl
  | some entry =>
    have differs : entry.1 ≠ forwardId := fun same =>
      other (same ▸ orderly.holds channelId entry.1 entry.2 found)
    rw [Option.filter_some, if_pos (by simpa using differs)]

/-- Without a forward, the client's table has no channel of it. -/
theorem Orderly.without_removes (orderly : system.Orderly) {channelId forwardId : UInt32}
    (owned : system.owners.lookup channelId = some forwardId) :
    ((ClientForwards.withoutForward system.client.channels forwardId).lookup channelId).isSome =
      false := by
  rw [ClientForwards.withoutForward, lookup_removeWhere]
  cases found : system.client.channels.lookup channelId with
  | none => rfl
  | some entry =>
    have mine := orderly.clientHolds channelId entry.1 entry.2 found
    rw [owned, Option.some.injEq] at mine
    rw [Option.filter_some, if_neg (by simp [mine])]
    rfl

/-- Without a forward, the client's table has the channels of the others. -/
theorem Orderly.without_keeps (orderly : system.Orderly) {channelId forwardId : UInt32}
    (other : system.owners.lookup channelId ≠ some forwardId) :
    ((ClientForwards.withoutForward system.client.channels forwardId).lookup channelId).isSome =
      (system.client.channels.lookup channelId).isSome := by
  rw [ClientForwards.withoutForward, lookup_removeWhere]
  cases found : system.client.channels.lookup channelId with
  | none => rfl
  | some entry =>
    have differs : entry.1 ≠ forwardId := fun same =>
      other (same ▸ orderly.clientHolds channelId entry.1 entry.2 found)
    rw [Option.filter_some, if_pos (by simpa using differs)]

/-- The notices of a link are those of its first frame and those behind it. -/
theorem notices_cons (owner : Option UInt32) (channelId : UInt32) (frame : Frame)
    (later : List Frame) :
    (frame :: later).filterMap (notice owner channelId) =
      (notice owner channelId frame).toList ++ later.filterMap (notice owner channelId) := by
  rw [List.filterMap_cons]
  cases notice owner channelId frame <;> rfl

/-- An opening on a link is a request to open the channel. -/
theorem opens_mem {owner : Option UInt32} {channelId : UInt32} {frames : List Frame} :
    .opens ∈ frames.filterMap (notice owner channelId) ↔
      ∃ forwardId targetPort, .portForwardOpen forwardId channelId targetPort ∈ frames := by
  -- No other frame of a link is read as a request to open a channel.
  rw [List.mem_filterMap]
  constructor
  · rintro ⟨frame, inside, opens⟩
    cases frame with
    | portForwardOpen forwardId id targetPort =>
      rw [notice_open] at opens
      split at opens
      · next same => exact ⟨forwardId, targetPort, same ▸ inside⟩
      · simp at opens
    | portForwardClose id =>
      rw [notice_close] at opens
      split at opens <;> simp at opens
    | portForwardStop id =>
      rw [notice_stop] at opens
      split at opens <;> simp at opens
    | _ => simp [notice] at opens
  · rintro ⟨forwardId, targetPort, inside⟩
    exact ⟨_, inside, by simp⟩

/-- A close on a link is about the channel or its forward. -/
theorem closes_mem {owner : Option UInt32} {channelId : UInt32} {frames : List Frame}
    (inside : .closes ∈ frames.filterMap (notice owner channelId)) :
    .portForwardClose channelId ∈ frames ∨
      ∃ forwardId, owner = some forwardId ∧ .portForwardStop forwardId ∈ frames := by
  -- A close is announced by a close of the channel itself, or by the stop of its forward.
  obtain ⟨frame, there, closes⟩ := List.mem_filterMap.mp inside
  cases frame with
  | portForwardOpen forwardId id targetPort =>
    rw [notice_open] at closes
    split at closes <;> simp at closes
  | portForwardClose id =>
    rw [notice_close] at closes
    split at closes
    · next same => exact Or.inl (same ▸ there)
    · simp at closes
  | portForwardStop forwardId =>
    rw [notice_stop] at closes
    split at closes
    · next owned => exact Or.inr ⟨forwardId, owned, there⟩
    · simp at closes
  | _ => simp [notice] at closes

/-- Without a close of its own on a link, a channel under a new forward is closed only by the forward's end. -/
theorem returning_anew {owner : Option UInt32} {channelId : UInt32} {frames : List Frame}
    (quiet : (frames.filterMap (notice owner channelId)).count .closes = 0) (forwardId : UInt32) :
    (frames.filterMap (notice (some forwardId) channelId)).count .closes = 0 ∨
      .portForwardStop forwardId ∈ frames := by
  by_cases stop : .portForwardStop forwardId ∈ frames
  · exact Or.inr stop
  · left
    rw [List.count_eq_zero] at quiet ⊢
    -- The close on the link names the channel, which was ruled out, or stops the forward.
    intro closes
    rcases closes_mem closes with own | ⟨other, same, stopped⟩
    · exact quiet (List.mem_filterMap.mpr ⟨_, own, by simp⟩)
    · rw [Option.some.injEq] at same
      exact stop (same ▸ stopped)

/-! ### Frames of the client -/

section ClientFrames

variable {frame : Frame} {later : List Frame}

/-- A frame of the client closes the channel of the server it is about, or leaves it alone. -/
theorem Orderly.clientFrame_server (orderly : system.Orderly) (connected : Option ConnId)
    (bound : Option AcceptorId) (writerFull : Bool)
    (queued : system.client.sent = frame :: later) {channelId : UInt32}
    (odd : channelId.toNat % 2 = 1) :
    Moves (system.serverChannel channelId)
      (({ system with client := { system.client with sent := later } }.handleClientFrame frame
        connected bound writerFull).serverChannel channelId) := by
  -- The closes that are on the way to the server are those of this frame and those behind it.
  have back : (system.serverChannel channelId).toOpener =
      (notice (system.owners.lookup channelId) channelId frame).toList.count .closes +
        (later.filterMap (notice (system.owners.lookup channelId) channelId)).count .closes := by
    rw [serverChannel, queued, notices_cons, List.count_append]
  have still := Moves.stays (system.serverChannel channelId)
  -- A frame without a close for the channel can be taken off the link unnoticed.
  have ignored
      (none : (notice (system.owners.lookup channelId) channelId frame).toList.count .closes = 0) :
      Moves (system.serverChannel channelId)
        ({ system with client := { system.client with sent := later } }.serverChannel
          channelId) := by
    rw [none, Nat.zero_add] at back
    simpa [serverChannel, ← back] using still
  -- Each kind of frame is one of the handshake's moves for the channel it names, and none for the others.
  cases frame with
  | portForwardOpen forwardId id targetPort =>
    -- The client opens even channels only.
    have even := (orderly.clientOpens forwardId id targetPort (by simp [queued])).2
    have other : id ≠ channelId := by rintro rfl; omega
    have unnoticed := ignored (by simp [other])
    simp only [handleClientFrame, PortForwardTable.portForwardOpen]
    split
    · cases connected with
      | none => simpa [serverChannel, List.filterMap_cons, other] using unnoticed
      | some conn =>
        simpa [serverChannel, PortForwardTable.register_channels, isSome_lookup_insert, other]
          using unnoticed
    · simpa [serverChannel] using unnoticed
  | portForwardData id bytes =>
    simp only [handleClientFrame, PortForwardTable.portForwardData]
    split
    -- The writer's queue is full, so the server gives up the channel that the data was for.
    · by_cases this : id = channelId
      · subst this
        have closed := Moves.closedByOpener (system.serverChannel id)
        have none : (notice (system.owners.lookup id) id
          (.portForwardData id bytes)).toList.count .closes = 0 := rfl
        rw [none, Nat.zero_add] at back
        simpa [serverChannel, PortForwardTable.close_isSome_lookup, List.filterMap_cons, ← back]
          using closed
      · simpa [serverChannel, PortForwardTable.close_isSome_lookup, List.filterMap_cons, this]
          using ignored rfl
    · simpa [serverChannel] using ignored rfl
  | portForwardClose id =>
    by_cases this : id = channelId
    -- The close is the client's answer to one of the server's, or finds the channel already gone.
    · subst this
      have returned := Moves.closeReturned (system.serverChannel id)
        ((later.filterMap (notice (system.owners.lookup id) id)).count .closes)
        (by simp [back, Nat.add_comm])
      simpa [handleClientFrame, serverChannel, PortForwardTable.close_isSome_lookup]
        using returned
    · have unnoticed := ignored (by simp [this])
      simpa [handleClientFrame, serverChannel, PortForwardTable.close_isSome_lookup, this]
        using unnoticed
  | portForwardStop forwardId =>
    by_cases owned : system.owners.lookup channelId = some forwardId
    · -- The channel belongs to the forward that is stopped, so it is not there any more.
      have returned := Moves.closeReturned (system.serverChannel channelId)
        ((later.filterMap (notice (system.owners.lookup channelId) channelId)).count .closes)
        (by simp [back, owned, Nat.add_comm])
      simpa [handleClientFrame, serverChannel, orderly.stop_removes owned] using returned
    · have unnoticed := ignored (by simp [owned])
      simpa [handleClientFrame, serverChannel, orderly.stop_keeps owned] using unnoticed
  | portForwardRequest forwardId direction listenPort targetPort =>
    have unnoticed := ignored rfl
    -- The request is for a number under which the server has not listened.
    obtain ⟨_, unlistened, elsewhere⟩ :=
      orderly.asked forwardId direction listenPort targetPort (by simp [queued])
    simp only [handleClientFrame, PortForwardTable.portForwardRequest]
    split
    · next here =>
      cases bound with
      | some acceptor => simpa [serverChannel, List.filterMap_cons] using unnoticed
      | none =>
        -- No channel belongs to a forward that has no listener.
        have other : system.owners.lookup channelId ≠ some forwardId := fun owned =>
          (orderly.listened channelId forwardId owned).elim unlistened (elsewhere here)
        simpa [serverChannel, List.filterMap_cons, other] using unnoticed
    · simpa [serverChannel, List.filterMap_cons] using unnoticed
  | _ => exact ignored rfl

/-- A frame of the client opens or closes the channel of the client it is about, or leaves it alone. -/
theorem Orderly.clientFrame_client (orderly : system.Orderly) (connected : Option ConnId)
    (bound : Option AcceptorId) (writerFull : Bool)
    (queued : system.client.sent = frame :: later) (channelId : UInt32) :
    Moves (system.clientChannel channelId)
      (({ system with client := { system.client with sent := later } }.handleClientFrame frame
        connected bound writerFull).clientChannel channelId) := by
  -- What the channel hears next is what this frame says of it, and then what is behind it.
  have first : (system.clientChannel channelId).toAnswerer =
      (notice (system.owners.lookup channelId) channelId frame).toList ++
        later.filterMap (notice (system.owners.lookup channelId) channelId) := by
    rw [clientChannel, queued, notices_cons]
  have still := Moves.stays (system.clientChannel channelId)
  -- A frame that says nothing of the channel is taken off the link unnoticed.
  have ignored (none : notice (system.owners.lookup channelId) channelId frame = none) :
      Moves (system.clientChannel channelId)
        ({ system with client := { system.client with sent := later } }.clientChannel
          channelId) := by
    rw [none, Option.toList_none, List.nil_append] at first
    simpa [clientChannel, ← first] using still
  cases frame with
  | portForwardOpen forwardId id targetPort =>
    -- The order of the links sees to it that the server knows the forward by now.
    have known : (system.table.forwards.lookup forwardId).isSome = true := orderly.knows queued
    simp only [handleClientFrame, PortForwardTable.portForwardOpen]
    rw [if_pos known]
    by_cases this : id = channelId
    · subst this
      -- The request is the first thing that the link says of the channel.
      have opens : (system.clientChannel id).toAnswerer =
          .opens :: later.filterMap (notice (system.owners.lookup id) id) := by
        simpa using first
      cases connected with
      | none =>
        have refused := Moves.refused (system.clientChannel id) _ opens
        simpa [clientChannel, List.filterMap_cons] using refused
      | some conn =>
        have registered := Moves.registered (system.clientChannel id) _ opens rfl
        simpa [clientChannel, PortForwardTable.register_channels, isSome_lookup_insert]
          using registered
    · have unnoticed := ignored (by simp [this])
      cases connected with
      | none => simpa [clientChannel, List.filterMap_cons, this] using unnoticed
      | some conn =>
        simpa [clientChannel, PortForwardTable.register_channels, isSome_lookup_insert, this]
          using unnoticed
  | portForwardData id bytes =>
    simp only [handleClientFrame, PortForwardTable.portForwardData]
    split
    -- The writer's queue is full, so the server gives up the channel, which it held.
    · next full =>
      by_cases this : id = channelId
      · subst this
        have held : (system.clientChannel id).answerer = true := (Bool.and_eq_true_iff.mp full).1
        have closed := Moves.closedByAnswerer (system.clientChannel id) held
        have none : notice (system.owners.lookup id) id (.portForwardData id bytes) = none := rfl
        rw [none, Option.toList_none, List.nil_append] at first
        simpa [clientChannel, PortForwardTable.close_isSome_lookup, List.filterMap_cons, ← first]
          using closed
      · simpa [clientChannel, PortForwardTable.close_isSome_lookup, List.filterMap_cons, this]
          using ignored rfl
    · simpa [clientChannel] using ignored rfl
  | portForwardClose id =>
    by_cases this : id = channelId
    · subst this
      -- The close is the next that the channel hears.
      have taken := Moves.closeTaken (system.clientChannel id)
        (later.filterMap (notice (system.owners.lookup id) id)) (by simpa using first)
      simpa [handleClientFrame, clientChannel, PortForwardTable.close_isSome_lookup] using taken
    · have unnoticed := ignored (by simp [this])
      simpa [handleClientFrame, clientChannel, PortForwardTable.close_isSome_lookup, this]
        using unnoticed
  | portForwardStop forwardId =>
    -- The stop closes the channel along with its forward, or is about another forward.
    by_cases owned : system.owners.lookup channelId = some forwardId
    · have taken := Moves.closeTaken (system.clientChannel channelId)
        (later.filterMap (notice (system.owners.lookup channelId) channelId))
        (by simpa [owned] using first)
      simpa [handleClientFrame, clientChannel, orderly.stop_removes owned] using taken
    · have unnoticed := ignored (by simp [owned])
      simpa [handleClientFrame, clientChannel, orderly.stop_keeps owned] using unnoticed
  | portForwardRequest forwardId direction listenPort targetPort =>
    have unnoticed := ignored rfl
    obtain ⟨_, unlistened, elsewhere⟩ :=
      orderly.asked forwardId direction listenPort targetPort (by simp [queued])
    simp only [handleClientFrame, PortForwardTable.portForwardRequest]
    split
    · next here =>
      cases bound with
      | some acceptor => simpa [clientChannel, List.filterMap_cons] using unnoticed
      | none =>
        -- The answer that refuses the request would close channels of the forward, and there are none.
        have other : system.owners.lookup channelId ≠ some forwardId := fun owned =>
          (orderly.listened channelId forwardId owned).elim unlistened (elsewhere here)
        simpa [clientChannel, List.filterMap_cons, other] using unnoticed
    · simpa [clientChannel, List.filterMap_cons] using unnoticed
  | _ => exact ignored rfl

end ClientFrames

/-! ### Events of the server -/

section ServerEvents

variable {event : PortForwardEvent} {later : List PortForwardEvent}

/-- An event of the server announces or closes its channel, or leaves it alone. -/
theorem pfEvent_server (queued : system.events = event :: later) (channelId : UInt32) :
    Moves (system.serverChannel channelId)
      ({ system with
        table := (system.table.handlePfEvent event).1
        events := later
        toClient := system.toClient ++ (system.table.handlePfEvent event).2 }.serverChannel
          channelId) := by
  -- An accepted connection waits in the queue of events until it is announced.
  have waits : (system.serverChannel channelId).waiting =
      later.countP (fun event => event.opening = some channelId) +
        if event.opening = some channelId then 1 else 0 := by
    simp only [serverChannel, queued, List.countP_cons, decide_eq_true_eq]
  have still := Moves.stays (system.serverChannel channelId)
  -- Another event leaves what waits for the channel where it is.
  have ignored (other : event.opening ≠ some channelId) :
      Moves (system.serverChannel channelId)
        ({ system with events := later }.serverChannel channelId) := by
    rw [if_neg other, Nat.add_zero] at waits
    simpa [serverChannel, ← waits] using still
  cases event with
  | accepted forwardId id conn =>
    simp only [PortForwardTable.handlePfEvent]
    by_cases this : id = channelId
    -- The forward may have been stopped while the connection waited.
    · subst this
      rw [PortForwardEvent.opening_accepted, if_pos rfl] at waits
      cases system.table.forwards.lookup forwardId with
      | none =>
        have withdrawn := Moves.withdrawn (system.serverChannel id) _ waits
        simpa [serverChannel] using withdrawn
      | some forward =>
        have announced := Moves.announced (system.serverChannel id) _ waits
        simpa [serverChannel, PortForwardTable.register_channels, isSome_lookup_insert,
          List.filterMap_cons] using announced
    · have unnoticed := ignored (by simpa using this)
      cases system.table.forwards.lookup forwardId with
      | none => simpa [serverChannel] using unnoticed
      | some forward =>
        simpa [serverChannel, PortForwardTable.register_channels, isSome_lookup_insert,
          List.filterMap_cons, this] using unnoticed
  | data id bytes =>
    have unnoticed := ignored (by simp)
    simp only [PortForwardTable.handlePfEvent]
    split <;> simpa [serverChannel, List.filterMap_cons] using unnoticed
  | closed id =>
    have unnoticed := ignored (by simp)
    simp only [PortForwardTable.handlePfEvent]
    split
    · by_cases this : id = channelId
      -- The connection has ended, and the server says so unless the channel is gone already.
      · subst this
        have unopened : (PortForwardEvent.closed id).opening ≠ some id := by simp
        rw [if_neg unopened, Nat.add_zero] at waits
        have closed := Moves.closedByOpener (system.serverChannel id)
        simpa [serverChannel, PortForwardTable.close_isSome_lookup, List.filterMap_cons, ← waits]
          using closed
      · simpa [serverChannel, PortForwardTable.close_isSome_lookup, List.filterMap_cons, this]
          using unnoticed
    · simpa [serverChannel] using unnoticed

/-- An event of the server closes a channel of the client, or leaves it alone. -/
theorem Orderly.pfEvent_client (orderly : system.Orderly) (queued : system.events = event :: later)
    {channelId : UInt32} (even : channelId.toNat % 2 = 0) :
    Moves (system.clientChannel channelId)
      ({ system with
        table := (system.table.handlePfEvent event).1
        events := later
        toClient := system.toClient ++ (system.table.handlePfEvent event).2 }.clientChannel
          channelId) := by
  have still := Moves.stays (system.clientChannel channelId)
  cases event with
  | accepted forwardId id conn =>
    -- The server's listeners give out odd numbers only.
    have odd := (orderly.waits forwardId id conn (by simp [queued])).2
    have other : id ≠ channelId := by rintro rfl; omega
    simp only [PortForwardTable.handlePfEvent]
    cases system.table.forwards.lookup forwardId with
    | none => simpa [clientChannel] using still
    | some forward =>
      simpa [clientChannel, PortForwardTable.register_channels, isSome_lookup_insert,
        List.filterMap_cons, other] using still
  | data id bytes =>
    simp only [PortForwardTable.handlePfEvent]
    split <;> simpa [clientChannel, List.filterMap_cons] using still
  -- The server's end of the channel is at its end, and is taken out of its table.
  | closed id =>
    simp only [PortForwardTable.handlePfEvent]
    split
    · next held =>
      by_cases this : id = channelId
      · subst this
        have closed := Moves.closedByAnswerer (system.clientChannel id) held
        simpa [clientChannel, PortForwardTable.close_isSome_lookup, List.filterMap_cons]
          using closed
      · simpa [clientChannel, PortForwardTable.close_isSome_lookup, List.filterMap_cons, this]
          using still
    · simpa [clientChannel] using still

end ServerEvents

/-! ### Frames of the server -/

section ServerFrames

variable {frame : Frame} {later : List Frame}

/-- A stop of the server takes nothing from the channels at the client. -/
private theorem Orderly.serverStop (orderly : system.Orderly) {forwardId : UInt32}
    (stop : .portForwardStop forwardId ∈ system.toClient) (channelId : UInt32) :
    ((system.client.portForwardStop forwardId).channels.lookup channelId).isSome =
        (system.client.channels.lookup channelId).isSome ∧
      (system.client.portForwardStop forwardId).sent = system.client.sent ∧
      (system.client.portForwardStop forwardId).queue = system.client.queue ∧
      ((system.owners.lookup channelId).map fun owner =>
        ((system.client.portForwardStop forwardId).clientInitiatedForwards.lookup owner).isNone) =
      (system.owners.lookup channelId).map fun owner =>
        (system.client.clientInitiatedForwards.lookup owner).isNone := by
  -- A stop on the link is for a forward that owns no channel.
  have other : system.owners.lookup channelId ≠ some forwardId := orderly.not_refused stop
  have kept := orderly.without_keeps other
  -- Erasing that forward leaves alone what the client thinks of the owners of channels.
  have willing : ((system.owners.lookup channelId).map fun owner =>
      ((system.client.clientInitiatedForwards.erase forwardId).lookup owner).isNone) =
      (system.owners.lookup channelId).map fun owner =>
        (system.client.clientInitiatedForwards.lookup owner).isNone := by
    cases owned : system.owners.lookup channelId with
    | none => rfl
    | some owner =>
      have differs : owner ≠ forwardId := fun same => other (same ▸ owned)
      rw [Option.map_some, AList.lookup_erase_ne differs, Option.map_some]
  -- The process that waited for the forward gets its answer, which is no channel's concern.
  unfold ClientForwards.portForwardStop
  cases system.client.pendingLf.lookup forwardId with
  | none => exact ⟨kept, rfl, rfl, willing⟩
  | some process => exact ⟨kept, rfl, rfl, willing⟩

/-- The answer to a process that waited for the server changes no channel. -/
private theorem ready_channels (client : ClientForwards) (forwardId : UInt32) :
    (client.portForwardReady forwardId).channels = client.channels ∧
      (client.portForwardReady forwardId).sent = client.sent ∧
      (client.portForwardReady forwardId).queue = client.queue ∧
      (client.portForwardReady forwardId).clientInitiatedForwards =
        client.clientInitiatedForwards := by
  unfold ClientForwards.portForwardReady
  cases client.pendingLf.lookup forwardId with
  | none => exact ⟨rfl, rfl, rfl, rfl⟩
  | some process => exact ⟨rfl, rfl, rfl, rfl⟩

/-- A frame of the server opens or closes the channel of the server it is about, or leaves it alone. -/
theorem Orderly.serverFrame_server (orderly : system.Orderly) (connected : Option ConnId)
    (writerFull : Bool) (queued : system.toClient = frame :: later) (channelId : UInt32) :
    Moves (system.serverChannel channelId)
      ({ system with
        client := system.client.handleServerFrame connected writerFull frame
        toClient := later }.serverChannel channelId) := by
  -- What the channel hears next is what this frame says of it, and then what is behind it.
  have first : (system.serverChannel channelId).toAnswerer =
      (notice (system.owners.lookup channelId) channelId frame).toList ++
        later.filterMap (notice (system.owners.lookup channelId) channelId) := by
    rw [serverChannel, queued, notices_cons]
  have still := Moves.stays (system.serverChannel channelId)
  have ignored (none : notice (system.owners.lookup channelId) channelId frame = none) :
      Moves (system.serverChannel channelId)
        ({ system with toClient := later }.serverChannel channelId) := by
    rw [none, Option.toList_none, List.nil_append] at first
    simpa [serverChannel, ← first] using still
  cases frame with
  | portForwardListen forwardId listenPort targetPort =>
    -- The server asks for no listener at the client.
    exact absurd (by simp [queued]) (orderly.unasked forwardId listenPort targetPort)
  | portForwardOpen forwardId id targetPort =>
    -- The request is about a channel of the forward that it names.
    have owned := (orderly.opens forwardId id targetPort (by simp [queued])).1
    simp only [ClientForwards.handleServerFrame, ClientForwards.portForwardOpen]
    by_cases this : id = channelId
    · subst this
      have opens : (system.serverChannel id).toAnswerer =
          .opens :: later.filterMap (notice (system.owners.lookup id) id) := by
        simpa using first
      have refused := Moves.refused (system.serverChannel id) _ opens
      -- The client connects only for forwards that were requested of it.
      cases allowed : system.client.clientInitiatedForwards.lookup forwardId with
      | none => simpa [serverChannel, ClientForwards.send, List.filterMap_cons] using refused
      | some expectedPort =>
        cases connected with
        | none =>
          simpa [serverChannel, ClientForwards.send, ClientForwards.note, List.filterMap_cons]
            using refused
        | some conn =>
          have willing : (system.serverChannel id).refusing = false := by
            simp [serverChannel, owned, allowed]
          have registered := Moves.registered (system.serverChannel id) _ opens willing
          simpa [serverChannel, ClientForwards.note, isSome_lookup_insert] using registered
    · have unnoticed := ignored (by simp [this])
      cases system.client.clientInitiatedForwards.lookup forwardId with
      | none =>
        simpa [serverChannel, ClientForwards.send, List.filterMap_cons, this] using unnoticed
      | some expectedPort =>
        cases connected with
        -- The request is for another channel, so it is only that one which changes.
        | none =>
          simpa [serverChannel, ClientForwards.send, ClientForwards.note, List.filterMap_cons,
            this] using unnoticed
        | some conn =>
          simpa [serverChannel, ClientForwards.note, isSome_lookup_insert, this] using unnoticed
  | portForwardData id bytes =>
    simp only [ClientForwards.handleServerFrame, ClientForwards.portForwardData]
    split
    -- The writer's queue is full, so the client gives up the channel, which it held.
    · next full =>
      by_cases this : id = channelId
      · subst this
        have held : (system.serverChannel id).answerer = true := (Bool.and_eq_true_iff.mp full).1
        have closed := Moves.closedByAnswerer (system.serverChannel id) held
        have none : notice (system.owners.lookup id) id (.portForwardData id bytes) = none := rfl
        rw [none, Option.toList_none, List.nil_append] at first
        simpa [serverChannel, ClientForwards.send, isSome_lookup_erase, List.filterMap_cons,
          ← first] using closed
      · simpa [serverChannel, ClientForwards.send, isSome_lookup_erase, List.filterMap_cons, this]
          using ignored rfl
    · exact ignored rfl
  | portForwardClose id =>
    by_cases this : id = channelId
    · subst this
      have taken := Moves.closeTaken (system.serverChannel id)
        (later.filterMap (notice (system.owners.lookup id) id)) (by simpa using first)
      simpa [ClientForwards.handleServerFrame, serverChannel, isSome_lookup_erase] using taken
    · have unnoticed := ignored (by simp [this])
      simpa [ClientForwards.handleServerFrame, serverChannel, isSome_lookup_erase, this]
        using unnoticed
  | portForwardReady forwardId =>
    have unnoticed := ignored rfl
    obtain ⟨channels, sent, _, initiated⟩ := ready_channels system.client forwardId
    simpa [ClientForwards.handleServerFrame, serverChannel, channels, sent, initiated]
      using unnoticed
  | portForwardStop forwardId =>
    -- The server stops a forward of its own accord only where it could not listen.
    have stop : .portForwardStop forwardId ∈ system.toClient := by simp [queued]
    have other : system.owners.lookup channelId ≠ some forwardId := orderly.not_refused stop
    have unnoticed := ignored (by simp [other])
    obtain ⟨channels, sent, _, willing⟩ := orderly.serverStop stop channelId
    simpa [ClientForwards.handleServerFrame, serverChannel, channels, sent, willing]
      using unnoticed
  | _ => exact ignored rfl

/-- A frame of the server closes the channel of the client it is about, or leaves it alone. -/
theorem Orderly.serverFrame_client (orderly : system.Orderly) (connected : Option ConnId)
    (writerFull : Bool) (queued : system.toClient = frame :: later) {channelId : UInt32}
    (even : channelId.toNat % 2 = 0) :
    Moves (system.clientChannel channelId)
      ({ system with
        client := system.client.handleServerFrame connected writerFull frame
        toClient := later }.clientChannel channelId) := by
  -- The closes that are on the way to the client are those of this frame and those behind it.
  have back : (system.clientChannel channelId).toOpener =
      (notice (system.owners.lookup channelId) channelId frame).toList.count .closes +
        (later.filterMap (notice (system.owners.lookup channelId) channelId)).count .closes := by
    rw [clientChannel, queued, notices_cons, List.count_append]
  have still := Moves.stays (system.clientChannel channelId)
  have ignored
      (none : (notice (system.owners.lookup channelId) channelId frame).toList.count .closes = 0) :
      Moves (system.clientChannel channelId)
        ({ system with toClient := later }.clientChannel channelId) := by
    rw [none, Nat.zero_add] at back
    simpa [clientChannel, ← back] using still
  cases frame with
  | portForwardListen forwardId listenPort targetPort =>
    exact absurd (by simp [queued]) (orderly.unasked forwardId listenPort targetPort)
  | portForwardOpen forwardId id targetPort =>
    -- The server opens odd channels only.
    have odd := (orderly.opens forwardId id targetPort (by simp [queued])).2
    have other : id ≠ channelId := by rintro rfl; omega
    have unnoticed := ignored (by simp [other])
    simp only [ClientForwards.handleServerFrame, ClientForwards.portForwardOpen]
    cases system.client.clientInitiatedForwards.lookup forwardId with
    | none =>
      simpa [clientChannel, ClientForwards.send, List.filterMap_cons, other] using unnoticed
    | some expectedPort =>
      cases connected with
      | none =>
        simpa [clientChannel, ClientForwards.send, ClientForwards.note, List.filterMap_cons,
          other] using unnoticed
      | some conn =>
        simpa [clientChannel, ClientForwards.note, isSome_lookup_insert, other] using unnoticed
  | portForwardData id bytes =>
    simp only [ClientForwards.handleServerFrame, ClientForwards.portForwardData]
    split
    -- The writer's queue is full, so the client gives up the channel that the data was for.
    · by_cases this : id = channelId
      · subst this
        have closed := Moves.closedByOpener (system.clientChannel id)
        have none : (notice (system.owners.lookup id) id
          (.portForwardData id bytes)).toList.count .closes = 0 := rfl
        rw [none, Nat.zero_add] at back
        simpa [clientChannel, ClientForwards.send, isSome_lookup_erase, List.filterMap_cons,
          ← back] using closed
      · simpa [clientChannel, ClientForwards.send, isSome_lookup_erase, List.filterMap_cons, this]
          using ignored rfl
    · exact ignored rfl
  | portForwardClose id =>
    by_cases this : id = channelId
    · subst this
      -- The close answers one of the client's, or comes first; either way the channel is gone at once.
      have returned := Moves.closeReturned (system.clientChannel id)
        ((later.filterMap (notice (system.owners.lookup id) id)).count .closes)
        (by simp [back, Nat.add_comm])
      simpa [ClientForwards.handleServerFrame, clientChannel, isSome_lookup_erase] using returned
    · have unnoticed := ignored (by simp [this])
      simpa [ClientForwards.handleServerFrame, clientChannel, isSome_lookup_erase, this]
        using unnoticed
  | portForwardReady forwardId =>
    have unnoticed := ignored rfl
    obtain ⟨channels, sent, queue, _⟩ := ready_channels system.client forwardId
    simpa [ClientForwards.handleServerFrame, clientChannel, channels, sent, queue]
      using unnoticed
  | portForwardStop forwardId =>
    have stop : .portForwardStop forwardId ∈ system.toClient := by simp [queued]
    have other : system.owners.lookup channelId ≠ some forwardId := orderly.not_refused stop
    have unnoticed := ignored (by simp [other])
    obtain ⟨channels, sent, queue, _⟩ := orderly.serverStop stop channelId
    simpa [ClientForwards.handleServerFrame, clientChannel, channels, sent, queue]
      using unnoticed
  | _ => exact ignored rfl

end ServerFrames

/-! ### Events of the client -/

section ClientEvents

variable {event : ClientPortForwardEvent} {later : List ClientPortForwardEvent}

/-- An event of the client closes a channel of the server, or leaves it alone. -/
theorem Orderly.clientEvent_server (orderly : system.Orderly) (sends : Bool)
    (queued : system.client.queue = event :: later) {channelId : UInt32}
    (odd : channelId.toNat % 2 = 1) :
    Moves (system.serverChannel channelId)
      ({ system with
        client := { system.client with queue := later }.handlePfEvent sends event
        }.serverChannel channelId) := by
  -- Whatever is sent on, the client's link to the server is not what this channel hears.
  have still := Moves.stays (system.serverChannel channelId)
  cases event with
  | accepted forwardId id conn =>
    -- The client's listeners give out even numbers only.
    have even := (orderly.clientWaits forwardId id conn (by simp [queued])).2.1
    have other : id ≠ channelId := by rintro rfl; omega
    simp only [ClientForwards.handlePfEvent]
    cases system.client.forwards.lookup forwardId with
    | none => exact still
    | some forward =>
      cases sends <;>
        simpa [serverChannel, ClientForwards.sendOrEnd, ClientForwards.send,
          isSome_lookup_insert, List.filterMap_cons, other] using still
  | data id bytes =>
    simp only [ClientForwards.handlePfEvent]
    split
    · cases sends <;>
        simpa [serverChannel, ClientForwards.sendOrEnd, ClientForwards.send,
          List.filterMap_cons] using still
    · exact still
  | closed id =>
    simp only [ClientForwards.handlePfEvent]
    split
    · next held =>
      by_cases this : id = channelId
      · subst this
        -- The client held the channel, and its close goes out to the server.
        have closed := Moves.closedByAnswerer (system.serverChannel id) held
        cases sends <;>
          simpa [serverChannel, ClientForwards.sendOrEnd, ClientForwards.send,
            isSome_lookup_erase, List.filterMap_cons] using closed
      · cases sends <;>
          simpa [serverChannel, ClientForwards.sendOrEnd, ClientForwards.send,
            isSome_lookup_erase, List.filterMap_cons, this] using still
    · exact still
  | forwardStopped forwardId =>
    by_cases owned : system.owners.lookup channelId = some forwardId
    · -- From now on the client turns down what the server opens for this forward.
      have barred := Moves.stopped (system.serverChannel channelId)
      have gone := orderly.without_removes owned
      cases sends <;>
        simpa [serverChannel, ClientForwards.handlePfEvent, ClientForwards.sendOrEnd,
          ClientForwards.send, ClientForwards.stopForward, ClientForwards.note,
          List.filterMap_cons, AList.lookup_erase, owned, gone] using barred
    -- The stop is another forward's, and leaves the channel and its owner alone.
    · have kept := orderly.without_keeps owned
      have willing : ((system.owners.lookup channelId).map fun owner =>
          ((system.client.clientInitiatedForwards.erase forwardId).lookup owner).isNone) =
          (system.owners.lookup channelId).map fun owner =>
            (system.client.clientInitiatedForwards.lookup owner).isNone := by
        cases known : system.owners.lookup channelId with
        | none => rfl
        | some owner =>
          have differs : owner ≠ forwardId := fun same => owned (same ▸ known)
          rw [Option.map_some, AList.lookup_erase_ne differs, Option.map_some]
      cases sends <;>
        simpa [serverChannel, ClientForwards.handlePfEvent, ClientForwards.sendOrEnd,
          ClientForwards.send, ClientForwards.stopForward, ClientForwards.note,
          List.filterMap_cons, owned, kept, willing] using still

/-- An event of the client announces or closes its channel, or leaves it alone. -/
theorem Orderly.clientEvent_client (orderly : system.Orderly) (sends : Bool)
    (queued : system.client.queue = event :: later) (channelId : UInt32) :
    Moves (system.clientChannel channelId)
      ({ system with
        client := { system.client with queue := later }.handlePfEvent sends event
        }.clientChannel channelId) := by
  -- An accepted connection waits in the queue until the client announces it.
  have waits : (system.clientChannel channelId).waiting =
      later.countP (fun event => event.opening = some channelId) +
        if event.opening = some channelId then 1 else 0 := by
    simp only [clientChannel, queued, List.countP_cons, decide_eq_true_eq]
  have still := Moves.stays (system.clientChannel channelId)
  have ignored (other : event.opening ≠ some channelId) :
      Moves (system.clientChannel channelId)
        ({ system with client := { system.client with queue := later } }.clientChannel
          channelId) := by
    rw [if_neg other, Nat.add_zero] at waits
    simpa [clientChannel, ← waits] using still
  cases event with
  | accepted forwardId id conn =>
    simp only [ClientForwards.handlePfEvent]
    by_cases this : id = channelId
    · subst this
      rw [ClientPortForwardEvent.opening_accepted, if_pos rfl] at waits
      -- The forward may have been stopped while the connection waited.
      cases system.client.forwards.lookup forwardId with
      | none =>
        have withdrawn := Moves.withdrawn (system.clientChannel id) _ waits
        simpa [clientChannel] using withdrawn
      | some forward =>
        have announced := Moves.announced (system.clientChannel id) _ waits
        cases sends <;>
          simpa [clientChannel, ClientForwards.sendOrEnd, ClientForwards.send,
            isSome_lookup_insert, List.filterMap_cons] using announced
    · have unnoticed := ignored (by simpa using this)
      cases system.client.forwards.lookup forwardId with
      | none => exact unnoticed
      | some forward =>
        cases sends <;>
          simpa [clientChannel, ClientForwards.sendOrEnd, ClientForwards.send,
            isSome_lookup_insert, List.filterMap_cons, this] using unnoticed
  | data id bytes =>
    have unnoticed := ignored (by simp)
    simp only [ClientForwards.handlePfEvent]
    split
    · cases sends <;>
        simpa [clientChannel, ClientForwards.sendOrEnd, ClientForwards.send,
          List.filterMap_cons] using unnoticed
    · exact unnoticed
  | closed id =>
    have unnoticed := ignored (by simp)
    simp only [ClientForwards.handlePfEvent]
    split
    · by_cases this : id = channelId
      · subst this
        have unopened : (ClientPortForwardEvent.closed id).opening ≠ some id := by simp
        rw [if_neg unopened, Nat.add_zero] at waits
        -- The connection has ended, and the client takes its channel away.
        have closed := Moves.closedByOpener (system.clientChannel id)
        cases sends <;>
          simpa [clientChannel, ClientForwards.sendOrEnd, ClientForwards.send,
            isSome_lookup_erase, List.filterMap_cons, ← waits] using closed
      · cases sends <;>
          simpa [clientChannel, ClientForwards.sendOrEnd, ClientForwards.send,
            isSome_lookup_erase, List.filterMap_cons, this] using unnoticed
    · exact unnoticed
  | forwardStopped forwardId =>
    have unnoticed := ignored (by simp)
    by_cases owned : system.owners.lookup channelId = some forwardId
    · have unopened : (ClientPortForwardEvent.forwardStopped forwardId).opening ≠ some channelId := by
        simp
      rw [if_neg unopened, Nat.add_zero] at waits
      have closed := Moves.closedByOpener (system.clientChannel channelId)
      -- Stopping a forward takes its channels out of the table, and so closes this one.
      have gone := orderly.without_removes owned
      cases sends <;>
        simpa [clientChannel, ClientForwards.handlePfEvent, ClientForwards.sendOrEnd,
          ClientForwards.send, ClientForwards.stopForward, ClientForwards.note,
          List.filterMap_cons, owned, gone, ← waits] using closed
    · have kept := orderly.without_keeps owned
      cases sends <;>
        simpa [clientChannel, ClientForwards.handlePfEvent, ClientForwards.sendOrEnd,
          ClientForwards.send, ClientForwards.stopForward, ClientForwards.note,
          List.filterMap_cons, owned, kept] using unnoticed

end ClientEvents

/-! ### Every step -/

section Steps

variable {next : ForwardSystem}

/-- A connection accepted by the server under an unused number starts a sound channel. -/
theorem Orderly.accepts_server (orderly : system.Orderly) (forwardId : UInt32) (conn : ConnId)
    (unused : (system.serverChannel system.table.nextChannelId).Unused) {channelId : UInt32}
    (sound : (system.serverChannel channelId).Sound) :
    ({ system with
      table := { system.table with nextChannelId := system.table.nextChannelId + 2 }
      events := system.events ++ [PortForwardEvent.accepted forwardId system.table.nextChannelId conn]
      owners := system.owners.insert system.table.nextChannelId forwardId }.serverChannel
        channelId).Sound := by
  by_cases this : system.table.nextChannelId = channelId
  · subst this
    obtain ⟨⟨waiting, opener, answerer, toAnswerer⟩, quiet⟩ := unused
    simp only [serverChannel] at waiting opener answerer toAnswerer quiet
    -- The number was used by nobody, so all that is said of it is what the new channel says.
    let fresh : Handshake :=
      { waiting := 0
        opener := (system.table.channels.lookup system.table.nextChannelId).isSome
        answerer := (system.client.channels.lookup system.table.nextChannelId).isSome
        refusing := (system.client.clientInitiatedForwards.lookup forwardId).isNone
        toAnswerer := system.toClient.filterMap
          (notice (some forwardId) system.table.nextChannelId)
        toOpener := (system.client.sent.filterMap
          (notice (some forwardId) system.table.nextChannelId)).count .closes }
    have free : fresh.Free := ⟨rfl, opener, answerer, by rwa [opens_mem] at toAnswerer ⊢⟩
    have returning : fresh.toOpener = 0 ∨ fresh.refusing = true := by
      refine (returning_anew quiet forwardId).imp_right fun stop => ?_
      -- The client has stopped the forward, and turns down what is opened for it.
      simp only [fresh, orderly.stopped forwardId stop, Option.isNone_none]
    have started := free.accepted returning
    simp only [fresh] at started
    simpa [serverChannel, AList.lookup_insert, waiting] using started
  · have other : (system.owners.insert system.table.nextChannelId forwardId).lookup channelId =
        system.owners.lookup channelId := AList.lookup_insert_ne (Ne.symm this)
    simpa [serverChannel, this, other] using sound

/-- A connection accepted by the client under an unused number starts a sound channel. -/
theorem Orderly.accepts_client (orderly : system.Orderly) {forwardId : UInt32}
    (listens : forwardId ∈ system.client.listeners) (conn : ConnId)
    (unused : (system.clientChannel system.client.nextChannelId).Unused) {channelId : UInt32}
    (sound : (system.clientChannel channelId).Sound) :
    ({ system with
      client := system.client.takeId.enqueue
        (.accepted forwardId system.client.nextChannelId conn)
      owners := system.owners.insert system.client.nextChannelId forwardId }.clientChannel
        channelId).Sound := by
  by_cases this : system.client.nextChannelId = channelId
  · subst this
    obtain ⟨⟨waiting, opener, answerer, toAnswerer⟩, quiet⟩ := unused
    simp only [clientChannel] at waiting opener answerer toAnswerer quiet
    -- As on the server's side, but the server turns nothing down that the client opens.
    let fresh : Handshake :=
      { waiting := 0
        opener := (system.client.channels.lookup system.client.nextChannelId).isSome
        answerer := (system.table.channels.lookup system.client.nextChannelId).isSome
        refusing := false
        toAnswerer := system.client.sent.filterMap
          (notice (some forwardId) system.client.nextChannelId)
        toOpener := (system.toClient.filterMap
          (notice (some forwardId) system.client.nextChannelId)).count .closes }
    -- Nothing anywhere says anything of the number, so the channel under it is a new one.
    have free : fresh.Free := ⟨rfl, opener, answerer, by rwa [opens_mem] at toAnswerer ⊢⟩
    have returning : fresh.toOpener = 0 := by
      refine (returning_anew quiet forwardId).resolve_right fun stop => ?_
      exact (orderly.refused forwardId stop).2.1 listens
    have started := free.accepted (Or.inl returning)
    simp only [fresh] at started
    simpa [clientChannel, ClientForwards.enqueue, ClientForwards.takeId, AList.lookup_insert,
      waiting] using started
  -- The other numbers and their owners are as they were.
  · have other : (system.owners.insert system.client.nextChannelId forwardId).lookup channelId =
        system.owners.lookup channelId := AList.lookup_insert_ne (Ne.symm this)
    simpa [clientChannel, ClientForwards.enqueue, ClientForwards.takeId, this, other] using sound

/-- A request for a forward opens no channel, says nothing about one, and allows only the new forward. -/
theorem fwdRequest_rest (client : ClientForwards) (process : Nat) (direction : UInt8)
    (listenPort targetPort : UInt16) (binds sends : Bool) :
    let next := client.handleFwdRequest process direction listenPort targetPort binds sends
    next.channels = client.channels ∧ next.queue = client.queue ∧
      (∀ {Message : Type} (view : Frame → Option Message),
        view (.portForwardRequest client.nextChannelId direction listenPort targetPort) = none →
          next.sent.filterMap view = client.sent.filterMap view) ∧
      ∀ forwardId ≠ client.nextChannelId, next.clientInitiatedForwards.lookup forwardId =
        client.clientInitiatedForwards.lookup forwardId := by
  intro next
  -- The request itself is no notice of any channel.
  have asks {Message : Type} (view : Frame → Option Message)
      (unseen : view (.portForwardRequest client.nextChannelId direction listenPort targetPort) =
        none) :
      (client.sent ++ [Frame.portForwardRequest client.nextChannelId direction listenPort
        targetPort]).filterMap view = client.sent.filterMap view := by
    simp [unseen]
  have inserted : ∀ forwardId ≠ client.nextChannelId,
      (client.clientInitiatedForwards.insert client.nextChannelId targetPort).lookup forwardId =
        client.clientInitiatedForwards.lookup forwardId :=
    fun forwardId differs => AList.lookup_insert_ne differs
  -- Only a request for a listener at the server leaves a forward to be connected for.
  by_cases remote : direction = 1
  · subst remote
    cases binds with
    | false => exact ⟨rfl, rfl, fun _ _ => rfl, fun _ _ => rfl⟩
    | true => cases sends <;> exact ⟨rfl, rfl, asks, fun _ _ => rfl⟩
  · simp only [next, ClientForwards.handleFwdRequest, remote, decide_false, Bool.false_and,
      Bool.false_eq_true, if_false]
    by_cases here : direction = 0
    · subst here
      cases sends <;> exact ⟨rfl, rfl, asks, inserted⟩
    · simp only [here, if_false]
      cases sends <;> exact ⟨rfl, rfl, asks, fun _ _ => rfl⟩

/-- A step keeps every channel sound, if the number it gives out is fresh. -/
theorem step_sound {action : ForwardAction} (kept : system.ChannelsSound)
    (fresh : system.FreshNumber action) (stepped : system.step action = some next) :
    next.ChannelsSound := by
  obtain ⟨orderly, server, client⟩ := kept
  -- Each step is a step of the order of the links, and a move of each channel or of none.
  cases action with
  | clientFrame connected bound writerFull =>
    cases queued : system.client.sent with
    | nil => simp [step, queued] at stepped
    | cons frame later =>
      simp only [step, queued, Option.some.injEq] at stepped
      subst stepped
      refine ⟨orderly.clientFrame connected bound writerFull queued ?_, fun channelId odd => ?_,
        fun channelId even => ?_⟩
      · -- A channel whose opening is still on the way is not in the server's table.
        rintro forwardId channelId targetPort rfl
        have even := (orderly.clientOpens forwardId channelId targetPort (by simp [queued])).2
        have away := (client channelId even).unopened
          (opens_mem.mpr ⟨forwardId, targetPort, by simp [queued]⟩)
        simpa [clientChannel] using away
      · exact (server channelId odd).moves
          (orderly.clientFrame_server connected bound writerFull queued odd)
      · exact (client channelId even).moves
          (orderly.clientFrame_client connected bound writerFull queued channelId)
  | pfEvent =>
    cases queued : system.events with
    | nil => simp [step, queued] at stepped
    | cons event later =>
      simp only [step, queued, Option.some.injEq] at stepped
      subst stepped
      refine ⟨orderly.pfEvent queued ?_, fun channelId odd => ?_, fun channelId even => ?_⟩
      · -- A connection that waits to be announced is not in the server's table.
        rintro forwardId channelId conn rfl
        have odd := (orderly.waits forwardId channelId conn (by simp [queued])).2
        have waits : 0 < (system.serverChannel channelId).waiting := by
          simp [serverChannel, queued]
        simpa [serverChannel] using ((server channelId odd).unannounced waits).1
      · exact (server channelId odd).moves (pfEvent_server queued channelId)
      · exact (client channelId even).moves (orderly.pfEvent_client queued even)
  -- The listener gives out the next odd number, which is new.
  | accepts forwardId conn =>
    obtain ⟨listens, rfl⟩ := of_guarded stepped
    refine ⟨orderly.accepts listens conn fresh, fun channelId odd => ?_, fun channelId even => ?_⟩
    · exact orderly.accepts_server forwardId conn fresh (server channelId odd)
    · -- The server's number is not the client's.
      have differs : channelId ≠ system.table.nextChannelId := by
        rintro rfl
        have odd := orderly.number
        omega
      have other : (system.owners.insert system.table.nextChannelId forwardId).lookup channelId =
          system.owners.lookup channelId := AList.lookup_insert_ne differs
      simpa [clientChannel, other] using client channelId even
  -- What a task reports about a channel goes behind everything else in its queue.
  | reports channelId bytes =>
    cases bytes <;> rw [← Option.some.inj stepped] <;>
      refine ⟨orderly.reports (by simp), fun channelId odd => ?_, client⟩ <;>
      simpa [serverChannel] using server channelId odd
  | serverFrame connected writerFull =>
    cases queued : system.toClient with
    | nil => simp [step, queued] at stepped
    | cons frame later =>
      simp only [step, queued, ClientForwards.step] at stepped
      split at stepped
      · simp at stepped
      · rw [Option.map_some, Option.some.injEq] at stepped
        subst stepped
        exact ⟨orderly.serverFrame connected writerFull queued,
          fun channelId odd => (server channelId odd).moves
            (orderly.serverFrame_server connected writerFull queued channelId),
          fun channelId even => (client channelId even).moves
            (orderly.serverFrame_client connected writerFull queued even)⟩
  -- The client's own steps change nothing of the server but what is on the way to it.
  | client action =>
    cases action with
    | serverFrame frame connected writerFull => exact absurd stepped (by simp [step])
    | fwdRequest process direction listenPort targetPort binds sends =>
      simp only [step, ClientForwards.step] at stepped
      split at stepped
      · simp at stepped
      · rw [Option.map_some, Option.some.injEq] at stepped
        subst stepped
        obtain ⟨channels, queue, unseen, initiated⟩ :=
          fwdRequest_rest system.client process direction listenPort targetPort binds sends
        have sent := fun owner channelId => unseen (notice owner channelId) rfl
        refine ⟨orderly.fwdRequest process direction listenPort targetPort binds sends fresh,
          fun channelId odd => ?_, fun channelId even => ?_⟩
        · -- No channel belongs to the forward that is new.
          have willing : ((system.owners.lookup channelId).map fun owner =>
              ((system.client.handleFwdRequest process direction listenPort targetPort binds
                sends).clientInitiatedForwards.lookup owner).isNone) =
              (system.owners.lookup channelId).map fun owner =>
                (system.client.clientInitiatedForwards.lookup owner).isNone := by
            cases owned : system.owners.lookup channelId with
            | none => rfl
            | some owner =>
              have differs : owner ≠ system.client.nextChannelId := by
                rintro rfl
                exact (orderly.listened channelId _ owned).elim fresh.1 fresh.2.1
              rw [Option.map_some, initiated owner differs, Option.map_some]
          simpa [serverChannel, channels, sent, willing] using server channelId odd
        · simpa [clientChannel, channels, queue, sent] using client channelId even
    -- The event that the client handles says the same of the client's channels and of the server's.
    | pfEvent sends =>
      cases queued : system.client.queue with
      | nil => simp [step, ClientForwards.step, queued] at stepped
      | cons event later =>
        simp only [step, ClientForwards.step, queued] at stepped
        split at stepped
        · simp at stepped
        · rw [Option.map_some, Option.some.injEq] at stepped
          subst stepped
          exact ⟨orderly.clientEvent sends queued,
            fun channelId odd => (server channelId odd).moves
              (orderly.clientEvent_server sends queued odd),
            fun channelId even => (client channelId even).moves
              (orderly.clientEvent_client sends queued channelId)⟩
    | accepts forwardId conn =>
      simp only [step, ClientForwards.step] at stepped
      split at stepped
      · simp at stepped
      · split at stepped
        · next listens =>
          rw [Option.map_some, Option.some.injEq] at stepped
          subst stepped
          refine ⟨orderly.clientAccepts listens conn fresh, fun channelId odd => ?_,
            fun channelId even => ?_⟩
          -- The client's number is not the server's.
          · have differs : channelId ≠ system.client.nextChannelId := by
              rintro rfl
              have even := orderly.clientNumber
              omega
            have other : (system.owners.insert system.client.nextChannelId forwardId).lookup
                channelId = system.owners.lookup channelId := AList.lookup_insert_ne differs
            simpa [serverChannel, ClientForwards.enqueue, ClientForwards.takeId, other]
              using server channelId odd
          · exact orderly.accepts_client listens conn fresh (client channelId even)
        · simp at stepped
    | reports channelId bytes =>
      simp only [step, ClientForwards.step] at stepped
      split at stepped
      · simp at stepped
      · cases bytes <;> rw [Option.map_some, Option.some.injEq] at stepped <;> subst stepped <;>
          refine ⟨orderly.clientReports system.client.keepalives (by simp), server,
            fun channelId even => ?_⟩ <;>
          simpa [clientChannel, ClientForwards.enqueue] using client channelId even
    -- The end of a process is an event that names no channel.
    | keepaliveEnds forwardId =>
      simp only [step, ClientForwards.step] at stepped
      split at stepped
      · simp at stepped
      · split at stepped
        · rw [Option.map_some, Option.some.injEq] at stepped
          subst stepped
          refine ⟨orderly.clientReports _ (by simp), server, fun channelId even => ?_⟩
          simpa [clientChannel, ClientForwards.enqueue] using client channelId even
        · simp at stepped

end Steps

/-- A client that has just attached has no forwards, and the numbers of the server are odd. -/
theorem new_sound (given : UInt32) : (new given).ChannelsSound where
  orderly :=
    { waits := fun _ _ _ inside => absurd inside List.not_mem_nil
      clientWaits := fun _ _ _ inside => absurd inside List.not_mem_nil
      opens := fun _ _ _ inside => absurd inside List.not_mem_nil
      clientOpens := fun _ _ _ inside => absurd inside List.not_mem_nil
      holds := fun _ _ _ found => by simp [new, PortForwardTable.new] at found
      clientHolds := fun _ _ _ found => by simp [new, ClientForwards.new] at found
      listened := fun _ _ owned => by simp [new] at owned
      -- The server starts at an odd number, whatever it was given to continue from.
      number := by
        have one : (1 : UInt32).toNat = 1 := rfl
        have two : (2 : UInt32).toNat = 2 := rfl
        simp only [new, UInt32.toNat_add, UInt32.toNat_mul, one, two]
        omega
      clientNumber := by
        have even : ClientForwards.new.nextChannelId.toNat % 2 = 0 := by decide
        exact even
      serves := fun _ inside => absurd inside List.not_mem_nil
      reaches := trivial
      pending := fun _ waiting => by simp [new, ClientForwards.new] at waiting
      asked := fun _ _ _ _ inside => absurd inside List.not_mem_nil
      once := List.nodup_nil
      refused := fun _ inside => absurd inside List.not_mem_nil
      stopped := fun _ inside => absurd inside List.not_mem_nil
      unasked := fun _ _ _ => List.not_mem_nil
      kept := PortForwardTable.new_kept _ }
  server channelId _ := by
    have free : ((new given).serverChannel channelId).Free := ⟨rfl, rfl, rfl, List.not_mem_nil⟩
    exact free.sound (Or.inl rfl)
  client channelId _ := by
    have free : ((new given).clientChannel channelId).Free := ⟨rfl, rfl, rfl, List.not_mem_nil⟩
    exact free.sound (Or.inl rfl)

end ForwardSystem

end Gritty
