import Gritty.Lib.KeyedTable
import Gritty.Relay.Tunnel

/-! The server's table of TCP port forwards: the forwards, their channels and its channel numbers. -/

namespace Gritty

/-- A listener task, by the order of binding. -/
abbrev AcceptorId := Nat

/-- What the listeners and relay tasks of port forwards report. -/
inductive PortForwardEvent where
  | accepted (forwardId channelId : UInt32) (conn : ConnId)
  | data (channelId : UInt32) (bytes : Bytes)
  | closed (channelId : UInt32)
  deriving DecidableEq

/-- The channel an event is about. -/
def PortForwardEvent.channelId : PortForwardEvent → UInt32
  | .accepted _ channelId _ => channelId
  | .data channelId _ => channelId
  | .closed channelId => channelId

/-- One forward. Its channels hold the writers of their connections. -/
structure PortForwardState where
  listenerHandle : Option AcceptorId
  channels : ChannelMap ConnId
  targetPort : UInt16
  deriving DecidableEq

/-- All forwards of a session, and all their channels under one numbering. -/
structure PortForwardTable where
  forwards : ChannelMap PortForwardState
  channels : ChannelMap (UInt32 × ConnId)
  /-- The next number for a connection accepted here. These are odd, and go on across clients. -/
  nextChannelId : UInt32
  deriving DecidableEq

namespace PortForwardTable

/-- A session before its first forward. -/
def new : PortForwardTable := { forwards := ∅, channels := ∅, nextChannelId := 1 }

/-- Forget the forwards and their channels. The numbering goes on. -/
def teardown (table : PortForwardTable) : PortForwardTable :=
  { table with forwards := ∅, channels := ∅ }

/-- Change the channels of one forward, if it is there. -/
def updateForward (table : PortForwardTable) (forwardId : UInt32)
    (update : ChannelMap ConnId → ChannelMap ConnId) : PortForwardTable :=
  match table.forwards.lookup forwardId with
  | some forward =>
    { table with
      forwards := table.forwards.insert forwardId
        { forward with channels := update forward.channels } }
  | none => table

/-- Insert the writer of a connection under its channel and its forward. -/
def register (table : PortForwardTable) (forwardId channelId : UInt32) (conn : ConnId) :
    PortForwardTable :=
  { table with channels := table.channels.insert channelId (forwardId, conn) }.updateForward
    forwardId (·.insert channelId conn)

/-- Remove a channel, also from its forward. -/
def close (table : PortForwardTable) (channelId : UInt32) : PortForwardTable :=
  match table.channels.lookup channelId with
  | some (forwardId, _) =>
    { table with channels := table.channels.erase channelId }.updateForward forwardId
      (·.erase channelId)
  | none => table

/-- A client frame that opens a channel of a forward: connect, or report the failure. -/
def portForwardOpen (table : PortForwardTable) (forwardId channelId : UInt32)
    (connected : Option ConnId) : PortForwardTable × List Frame :=
  if (table.forwards.lookup forwardId).isSome then
    match connected with
    | some conn => (table.register forwardId channelId conn, [])
    | none => (table, [.portForwardClose channelId])
  else (table, [])

/-- A client frame with bytes for a channel, queued for its writer; a full writer closes the channel. -/
def portForwardData (table : PortForwardTable) (channelId : UInt32) (writerFull : Bool) :
    PortForwardTable × List Frame :=
  if (table.channels.lookup channelId).isSome && writerFull then
    (table.close channelId, [.portForwardClose channelId])
  else (table, [])

/-- A client frame that stops a forward: its channels go with it. -/
def portForwardStop (table : PortForwardTable) (forwardId : UInt32) : PortForwardTable :=
  match table.forwards.lookup forwardId with
  | some forward =>
    { table with
      forwards := table.forwards.erase forwardId
      channels := forward.channels.keys.foldl (fun channels id => channels.erase id)
        table.channels }
  | none => table

/-- A client frame that asks for a forward. Direction zero listens here, if the port can be bound. -/
def portForwardRequest (table : PortForwardTable) (forwardId : UInt32) (direction : UInt8)
    (targetPort : UInt16) (bound : Option AcceptorId) : PortForwardTable × List Frame :=
  if direction = 0 then
    match bound with
    | some acceptor =>
      ({ table with
          forwards := table.forwards.insert forwardId
            { listenerHandle := some acceptor, channels := ∅, targetPort } },
        [.portForwardReady forwardId])
    | none => (table, [.portForwardStop forwardId])
  else
    ({ table with
        forwards := table.forwards.insert forwardId
          { listenerHandle := none, channels := ∅, targetPort } },
      [.portForwardReady forwardId])

/-- An event of a listener or a relay task. -/
def handlePfEvent (table : PortForwardTable) : PortForwardEvent → PortForwardTable × List Frame
  | .accepted forwardId channelId conn =>
    match table.forwards.lookup forwardId with
    | some forward =>
      (table.register forwardId channelId conn,
        [.portForwardOpen forwardId channelId forward.targetPort])
    | none => (table, [])
  | .data channelId bytes =>
    if (table.channels.lookup channelId).isSome then (table, [.portForwardData channelId bytes])
    else (table, [])
  | .closed channelId =>
    if (table.channels.lookup channelId).isSome then
      (table.close channelId, [.portForwardClose channelId])
    else (table, [])

/-! ### What the operations do to the channels -/

@[simp] theorem updateForward_channels (table : PortForwardTable) (forwardId : UInt32)
    (update : ChannelMap ConnId → ChannelMap ConnId) :
    (table.updateForward forwardId update).channels = table.channels := by
  unfold updateForward
  split <;> rfl

/-- Updating a forward neither adds nor removes one. -/
@[simp] theorem updateForward_isSome (table : PortForwardTable) (forwardId other : UInt32)
    (update : ChannelMap ConnId → ChannelMap ConnId) :
    ((table.updateForward forwardId update).forwards.lookup other).isSome =
      (table.forwards.lookup other).isSome := by
  unfold updateForward
  split
  · next forward found =>
    by_cases same : other = forwardId
    · rw [same, AList.lookup_insert, found]
      rfl
    · rw [AList.lookup_insert_ne same]
  · rfl

theorem register_channels (table : PortForwardTable) (forwardId channelId : UInt32)
    (conn : ConnId) : (table.register forwardId channelId conn).channels =
      table.channels.insert channelId (forwardId, conn) := by
  rw [register, updateForward_channels]

theorem register_isSome (table : PortForwardTable) (forwardId channelId other : UInt32)
    (conn : ConnId) : ((table.register forwardId channelId conn).forwards.lookup other).isSome =
      (table.forwards.lookup other).isSome := by
  rw [register, updateForward_isSome]

/-- Closing a channel only removes. -/
theorem close_lookup {table : PortForwardTable} {channelId other : UInt32}
    {entry : UInt32 × ConnId} (left : (table.close channelId).channels.lookup other = some entry) :
    table.channels.lookup other = some entry := by
  unfold close at left
  split at left
  · rw [updateForward_channels] at left
    by_cases same : other = channelId
    · rw [same, AList.lookup_erase] at left
      simp at left
    · rwa [AList.lookup_erase_ne same] at left
  · exact left

theorem close_isSome (table : PortForwardTable) (channelId other : UInt32) :
    ((table.close channelId).forwards.lookup other).isSome =
      (table.forwards.lookup other).isSome := by
  unfold close
  split
  · rw [updateForward_isSome]
  · rfl

/-- Stopping a forward only removes channels. -/
theorem portForwardStop_lookup {table : PortForwardTable} {forwardId other : UInt32}
    {entry : UInt32 × ConnId}
    (left : (table.portForwardStop forwardId).channels.lookup other = some entry) :
    table.channels.lookup other = some entry := by
  unfold portForwardStop at left
  split at left
  · -- Erasing the channels of the forward only removes.
    rw [lookup_foldl_erase] at left
    split at left
    · cases left
    · exact left
  · exact left

/-- Stopping a forward only removes forwards. -/
theorem portForwardStop_isSome {table : PortForwardTable} {forwardId other : UInt32}
    (left : ((table.portForwardStop forwardId).forwards.lookup other).isSome = true) :
    (table.forwards.lookup other).isSome = true := by
  unfold portForwardStop at left
  split at left
  · by_cases same : other = forwardId
    · rw [same, AList.lookup_erase] at left
      simp at left
    · rwa [AList.lookup_erase_ne same] at left
  · exact left

/-- A request to open a channel gives it to the new connection. -/
theorem register_lookup {table : PortForwardTable} {forwardId channelId other : UInt32}
    {conn : ConnId} {entry : UInt32 × ConnId}
    (found : (table.register forwardId channelId conn).channels.lookup other = some entry) :
    other = channelId ∧ entry.2 = conn ∨ table.channels.lookup other = some entry := by
  rw [register_channels] at found
  by_cases same : other = channelId
  · rw [same, AList.lookup_insert] at found
    exact Or.inl ⟨same, by rw [← Option.some.inj found]⟩
  · rw [AList.lookup_insert_ne same] at found
    exact Or.inr found

/-- Without a connection, a request to open a channel changes nothing. -/
theorem portForwardOpen_none (table : PortForwardTable) (forwardId channelId : UInt32) :
    (table.portForwardOpen forwardId channelId none).1 = table := by
  unfold portForwardOpen
  split <;> rfl

/-- Bytes for a channel close it or change nothing. -/
theorem portForwardData_cases (table : PortForwardTable) (channelId : UInt32)
    (writerFull : Bool) : (table.portForwardData channelId writerFull).1 = table.close channelId ∨
      (table.portForwardData channelId writerFull).1 = table := by
  unfold portForwardData
  split
  · exact Or.inl rfl
  · exact Or.inr rfl

/-- A request for a forward adds that forward or none, and no channel. -/
theorem portForwardRequest_isSome {table : PortForwardTable} {forwardId other : UInt32}
    {direction : UInt8} {targetPort : UInt16} {bound : Option AcceptorId}
    (found : ((table.portForwardRequest forwardId direction targetPort bound).1.forwards.lookup
      other).isSome = true) :
    (other = forwardId ∧ (direction ≠ 0 ∨ bound.isSome = true)) ∨
      (table.forwards.lookup other).isSome = true := by
  by_cases same : other = forwardId
  · by_cases here : direction = 0
    · cases bound with
      | none =>
        simp only [portForwardRequest, here, if_true] at found
        exact Or.inr found
      | some acceptor => exact Or.inl ⟨same, Or.inr rfl⟩
    · exact Or.inl ⟨same, Or.inl here⟩
  · right
    unfold portForwardRequest at found
    split at found
    · split at found
      · rwa [AList.lookup_insert_ne same] at found
      · exact found
    · rwa [AList.lookup_insert_ne same] at found

/-- A request leaves the channels. -/
theorem portForwardRequest_channels (table : PortForwardTable) (forwardId : UInt32)
    (direction : UInt8) (targetPort : UInt16) (bound : Option AcceptorId) :
    (table.portForwardRequest forwardId direction targetPort bound).1.channels =
      table.channels := by
  unfold portForwardRequest
  split
  · split <;> rfl
  · rfl

/-- Only an accepted connection makes a frame about a channel that is not open. -/
theorem handlePfEvent_frames {table : PortForwardTable} {event : PortForwardEvent} {frame : Frame}
    (sent : frame ∈ (table.handlePfEvent event).2) :
    (∃ forwardId channelId targetPort, frame = .portForwardOpen forwardId channelId targetPort) ∨
      (table.channels.lookup event.channelId).isSome = true := by
  cases event with
  | accepted forwardId channelId conn =>
    simp only [handlePfEvent] at sent
    split at sent
    · exact Or.inl ⟨_, _, _, List.mem_singleton.mp sent⟩
    · simp at sent
  | data channelId bytes =>
    simp only [handlePfEvent] at sent
    split at sent
    · next found => exact Or.inr found
    · simp at sent
  | closed channelId =>
    simp only [handlePfEvent] at sent
    split at sent
    · next found => exact Or.inr found
    · simp at sent

end PortForwardTable

end Gritty
