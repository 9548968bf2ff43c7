import Mathlib.Data.List.AList
import Gritty.Protocol.Frame

/-! The server's half of the callback tunnel: its port, its channels and its idle deadline. -/

namespace Gritty

/-- A map from channel numbers, as the relays keep it. -/
abbrev ChannelMap (α : Type) := AList fun _ : UInt32 => α

/-- A connected socket with a relay task, by the order of connection. -/
abbrev ConnId := Nat

/-- What the relay task of a tunnel connection reports. -/
inductive TunnelEvent where
  | data (channelId : UInt32) (bytes : Bytes)
  | closed (channelId : UInt32)
  deriving DecidableEq

/-- The channel an event is about. -/
def TunnelEvent.channelId : TunnelEvent → UInt32
  | .data channelId _ => channelId
  | .closed channelId => channelId

/-- The tunnel of a session. A channel holds the writer of its connection. -/
structure TunnelRelayState where
  port : Option UInt16
  channels : ChannelMap ConnId
  /-- The idle deadline is armed. -/
  idleDeadline : Bool
  deriving DecidableEq

namespace TunnelRelayState

/-- A session before its first callback. -/
def new : TunnelRelayState := { port := none, channels := ∅, idleDeadline := false }

/-- Forget the channels, the port and the deadline. -/
def teardown (_ : TunnelRelayState) : TunnelRelayState := new

/-- No channel is open. -/
def idle (tunnel : TunnelRelayState) : Bool := tunnel.channels.keys.isEmpty

/-- Arm the idle deadline once the last channel is gone. -/
def armWhenIdle (tunnel : TunnelRelayState) : TunnelRelayState :=
  if tunnel.idle && tunnel.port.isSome then { tunnel with idleDeadline := true } else tunnel

/-- Remove a channel, and arm the deadline if it was the last. -/
def close (tunnel : TunnelRelayState) (channelId : UInt32) : TunnelRelayState :=
  { tunnel with channels := tunnel.channels.erase channelId }.armWhenIdle

/-- Insert the writer of a connection under its channel. -/
def registerTunnelChannel (tunnel : TunnelRelayState) (channelId : UInt32) (conn : ConnId) :
    TunnelRelayState :=
  { tunnel with channels := tunnel.channels.insert channelId conn }

/-- A client frame that opens a channel: connect to the port, or report that nothing listens. -/
def tunnelOpen (tunnel : TunnelRelayState) (channelId : UInt32) (connected : Option ConnId) :
    TunnelRelayState × List Frame :=
  match tunnel.port with
  | none => (tunnel, [])
  | some _ =>
    let tunnel := { tunnel with idleDeadline := false }
    match connected with
    | some conn => (tunnel.registerTunnelChannel channelId conn, [])
    | none => (tunnel, [.tunnelClose channelId])

/-- A client frame with bytes for a channel, queued for its writer; a full writer closes the channel. -/
def tunnelData (tunnel : TunnelRelayState) (channelId : UInt32) (writerFull : Bool) :
    TunnelRelayState × List Frame :=
  if (tunnel.channels.lookup channelId).isSome && writerFull then
    (tunnel.close channelId, [.tunnelClose channelId])
  else (tunnel, [])

/-- A client frame that closes a channel, whether or not the channel is open. -/
def tunnelClose (tunnel : TunnelRelayState) (channelId : UInt32) : TunnelRelayState :=
  tunnel.close channelId

/--
A URL to open on the client, with the redirect port that something listens on, if any.

The last part is the byte written back to the program that asked.
-/
def handleOpenEvent (tunnel : TunnelRelayState) (openForwardEnabled : Bool) (url : String)
    (redirectPort : Option UInt16) : TunnelRelayState × List Frame × UInt8 :=
  if openForwardEnabled then
    match redirectPort with
    | some port =>
      -- A deadline left armed by an earlier flow must not fire during this one's setup.
      ({ tunnel with port := some port, idleDeadline := false },
        [.tunnelListen port, .openUrl url], 0x01)
    | none => (tunnel, [.openUrl url], 0x01)
  else (tunnel, [], 0x00)

/-- An event of a relay task. Only a channel that is still open is forwarded or closed. -/
def handleTunnelEvent (tunnel : TunnelRelayState) : TunnelEvent → TunnelRelayState × List Frame
  | .data channelId bytes =>
    if (tunnel.channels.lookup channelId).isSome then (tunnel, [.tunnelData channelId bytes])
    else (tunnel, [])
  | .closed channelId =>
    if (tunnel.channels.lookup channelId).isSome then
      (tunnel.close channelId, [.tunnelClose channelId])
    else (tunnel, [])

/-- The idle deadline has passed. -/
def idleExpired (tunnel : TunnelRelayState) : TunnelRelayState :=
  if tunnel.idle then tunnel.teardown else tunnel

/-- Closing a channel leaves the port alone. -/
@[simp] theorem close_port (tunnel : TunnelRelayState) (channelId : UInt32) :
    (tunnel.close channelId).port = tunnel.port := by
  unfold close armWhenIdle
  split <;> rfl

/-- Closing a channel removes it and no other. -/
@[simp] theorem close_channels (tunnel : TunnelRelayState) (channelId : UInt32) :
    (tunnel.close channelId).channels = tunnel.channels.erase channelId := by
  unfold close armWhenIdle
  split <;> rfl

/-- Closing a channel arms the deadline exactly when that leaves a set port without channels. -/
theorem close_idleDeadline (tunnel : TunnelRelayState) (channelId : UInt32) :
    (tunnel.close channelId).idleDeadline =
      (tunnel.idleDeadline ||
        ((tunnel.channels.erase channelId).keys.isEmpty && tunnel.port.isSome)) := by
  unfold close armWhenIdle idle
  split
  · next armed => simp only [armed, Bool.or_true]
  · next kept => simp only [kept, Bool.or_false]

/-- Closing a channel only removes. -/
theorem close_lookup {tunnel : TunnelRelayState} {channelId other : UInt32} {conn : ConnId}
    (left : (tunnel.close channelId).channels.lookup other = some conn) :
    tunnel.channels.lookup other = some conn := by
  rw [close_channels] at left
  by_cases same : other = channelId
  · rw [same, AList.lookup_erase] at left
    simp at left
  · rwa [AList.lookup_erase_ne same] at left

/-- Without a connection, a request to open a channel opens none. -/
theorem tunnelOpen_none_channels (tunnel : TunnelRelayState) (channelId : UInt32) :
    (tunnel.tunnelOpen channelId none).1.channels = tunnel.channels := by
  unfold tunnelOpen
  split <;> rfl

/-- A request to open a channel gives it to the new connection. -/
theorem tunnelOpen_some_lookup {tunnel : TunnelRelayState} {channelId other : UInt32}
    {conn holder : ConnId}
    (found : (tunnel.tunnelOpen channelId (some conn)).1.channels.lookup other = some holder) :
    other = channelId ∧ holder = conn ∨ tunnel.channels.lookup other = some holder := by
  unfold tunnelOpen at found
  split at found
  · exact Or.inr found
  · simp only [registerTunnelChannel] at found
    by_cases same : other = channelId
    · rw [same, AList.lookup_insert] at found
      exact Or.inl ⟨same, (Option.some.inj found).symm⟩
    · rw [AList.lookup_insert_ne same] at found
      exact Or.inr found

/-- Bytes for a channel only remove. -/
theorem tunnelData_lookup {tunnel : TunnelRelayState} {channelId other : UInt32}
    {writerFull : Bool} {conn : ConnId}
    (left : (tunnel.tunnelData channelId writerFull).1.channels.lookup other = some conn) :
    tunnel.channels.lookup other = some conn := by
  unfold tunnelData at left
  split at left
  · exact close_lookup left
  · exact left

/-- A URL leaves the channels alone. -/
theorem handleOpenEvent_channels (tunnel : TunnelRelayState) (openForwardEnabled : Bool)
    (url : String) (redirectPort : Option UInt16) :
    (tunnel.handleOpenEvent openForwardEnabled url redirectPort).1.channels = tunnel.channels := by
  unfold handleOpenEvent
  split
  · split <;> rfl
  · rfl

/-- An event of a relay task only removes. -/
theorem handleTunnelEvent_lookup {tunnel : TunnelRelayState} {event : TunnelEvent}
    {other : UInt32} {conn : ConnId}
    (left : (tunnel.handleTunnelEvent event).1.channels.lookup other = some conn) :
    tunnel.channels.lookup other = some conn := by
  cases event with
  | data channelId bytes =>
    simp only [handleTunnelEvent] at left
    split at left <;> exact left
  | closed channelId =>
    simp only [handleTunnelEvent] at left
    split at left
    · exact close_lookup left
    · exact left

/-- The idle deadline only removes. -/
theorem idleExpired_lookup {tunnel : TunnelRelayState} {other : UInt32} {conn : ConnId}
    (left : tunnel.idleExpired.channels.lookup other = some conn) :
    tunnel.channels.lookup other = some conn := by
  unfold idleExpired at left
  split at left
  · simp [teardown, new] at left
  · exact left

/-- A frame is made only about an open channel. -/
theorem handleTunnelEvent_frames {tunnel : TunnelRelayState} {event : TunnelEvent} {frame : Frame}
    (sent : frame ∈ (tunnel.handleTunnelEvent event).2) :
    (tunnel.channels.lookup event.channelId).isSome = true := by
  cases event with
  | data channelId bytes =>
    simp only [handleTunnelEvent] at sent
    split at sent
    · next found => exact found
    · simp at sent
  | closed channelId =>
    simp only [handleTunnelEvent] at sent
    split at sent
    · next found => exact found
    · simp at sent

end TunnelRelayState

end Gritty
