import Gritty.Lib.Handshake
import Gritty.Lib.KeyedTable
import Gritty.Relay.CallbackFlow

/-! Tunnel channels at both ends: the client accepts connections for a port of the server. -/

namespace Gritty

/-- The channel that an event is to open. -/
def ClientTunnelEvent.opening : ClientTunnelEvent → Option UInt32
  | .accepted channelId => some channelId
  | _ => none

@[simp] theorem ClientTunnelEvent.opening_accepted (channelId : UInt32) :
    (ClientTunnelEvent.accepted channelId).opening = some channelId := rfl

@[simp] theorem ClientTunnelEvent.opening_data (channelId : UInt32) (bytes : Bytes) :
    (ClientTunnelEvent.data channelId bytes).opening = none := rfl

@[simp] theorem ClientTunnelEvent.opening_closed (channelId : UInt32) :
    (ClientTunnelEvent.closed channelId).opening = none := rfl

namespace CallbackSystem

/-- What a frame says about a tunnel channel. -/
def notice (channelId : UInt32) : Frame → Option Notice
  | .tunnelOpen id => if id = channelId then some .opens else none
  | .tunnelClose id => if id = channelId then some .closes else none
  | _ => none

@[simp] theorem notice_open (channelId id : UInt32) :
    notice channelId (.tunnelOpen id) = if id = channelId then some .opens else none := rfl

@[simp] theorem notice_close (channelId id : UInt32) :
    notice channelId (.tunnelClose id) = if id = channelId then some .closes else none := rfl

@[simp] theorem notice_data (channelId id : UInt32) (bytes : Bytes) :
    notice channelId (.tunnelData id bytes) = none := rfl

@[simp] theorem notice_listen (channelId : UInt32) (port : UInt16) :
    notice channelId (.tunnelListen port) = none := rfl

@[simp] theorem notice_openUrl (channelId : UInt32) (url : String) :
    notice channelId (.openUrl url) = none := rfl

/-- One tunnel channel, which the client opens. -/
def channel (system : CallbackSystem) (channelId : UInt32) : Handshake where
  waiting := system.clientEvents.countP fun event => event.opening = some channelId
  opener := system.client.channels.contains channelId
  answerer := (system.tunnel.channels.lookup channelId).isSome
  refusing := false
  toAnswerer := system.toServer.filterMap (notice channelId)
  toOpener := (system.toClient.filterMap (notice channelId)).count .closes

/-- A number is given out only when nothing is left of an earlier channel under it, and never that of a decline. -/
def FreshNumber (system : CallbackSystem) : CallbackAction → Prop
  | .accept => system.client.nextChannelId ≠ tunnelDeclineChannel ∧
      (system.channel system.client.nextChannelId).Unused
  | _ => True

/-- No request to open a channel reaches a tunnel that has no port. -/
def PortSet (system : CallbackSystem) : CallbackAction → Prop
  | .clientFrame _ _ =>
    ∀ channelId, system.toServer.head? = some (.tunnelOpen channelId) →
      system.tunnel.port.isSome = true
  | _ => True

/-- The channels of a tunnel keep to the handshake. -/
structure ChannelsSound (system : CallbackSystem) : Prop where
  sound : ∀ channelId, (system.channel channelId).Sound
  nodup : system.client.channels.Nodup
  /-- The number of a decline is no channel's. -/
  decline : (system.channel tunnelDeclineChannel).waiting = 0 ∧
    (system.channel tunnelDeclineChannel).opener = false

/-! ### Every tunnel channel keeps to the handshake -/

section Moves

open Handshake

variable {system next : CallbackSystem}

/-- A frame of the client opens or closes the channel it is about, or leaves it alone. -/
theorem clientFrame_moves {frame : Frame} {later : List Frame} (connects writerFull : Bool)
    (channelId : UInt32) (queued : system.toServer = frame :: later)
    (set : ∀ id, frame = .tunnelOpen id → system.tunnel.port.isSome = true) :
    Moves (system.channel channelId)
      (({ system with toServer := later }.handleClientFrame frame connects writerFull).channel
        channelId) := by
  have first : (system.channel channelId).toAnswerer =
      (notice channelId frame).toList ++ later.filterMap (notice channelId) := by
    simp only [channel, queued, List.filterMap_cons]
    cases notice channelId frame <;> rfl
  have still := Moves.stays (system.channel channelId)
  -- A frame without a notice for the channel can be taken off the link unnoticed.
  have ignored : notice channelId frame = none →
      Moves (system.channel channelId) ({ system with toServer := later }.channel channelId) := by
    intro none
    rw [none, Option.toList_none, List.nil_append] at first
    simpa [channel, ← first] using still
  cases frame with
  | openForward => exact ignored rfl
  | tunnelOpen id =>
    obtain ⟨port, hasPort⟩ := Option.isSome_iff_exists.mp (set id rfl)
    simp only [handleClientFrame, TunnelRelayState.tunnelOpen, hasPort, Option.isSome_some, if_true]
    by_cases this : id = channelId
    · subst this
      have opens : (system.channel id).toAnswerer = .opens :: later.filterMap (notice id) := by
        simpa using first
      cases connects with
      | true =>
        have registered := Moves.registered (system.channel id) _ opens rfl
        simpa [channel, TunnelRelayState.registerTunnelChannel, isSome_lookup_insert]
          using registered
      | false =>
        have refused := Moves.refused (system.channel id) _ opens
        simpa [channel, List.filterMap_cons] using refused
    · have unnoticed := ignored (by simp [this])
      cases connects <;>
        simpa [channel, TunnelRelayState.registerTunnelChannel, isSome_lookup_insert,
          List.filterMap_cons, this] using unnoticed
  | tunnelData id bytes =>
    simp only [handleClientFrame, TunnelRelayState.tunnelData]
    split
    · next full =>
      by_cases this : id = channelId
      · subst this
        have held : (system.channel id).answerer = true := (Bool.and_eq_true_iff.mp full).1
        have closed := Moves.closedByAnswerer (system.channel id) held
        have unnoticed : notice id (.tunnelData id bytes) = none := rfl
        rw [unnoticed, Option.toList_none, List.nil_append] at first
        simpa [channel, isSome_lookup_erase, List.filterMap_cons, ← first] using closed
      · have unnoticed := ignored rfl
        simpa [channel, isSome_lookup_erase, this, List.filterMap_cons] using unnoticed
    · simpa [channel] using ignored rfl
  | tunnelClose id =>
    simp only [handleClientFrame, TunnelRelayState.tunnelClose]
    by_cases this : id = channelId
    · subst this
      have taken := Moves.closeTaken (system.channel id) (later.filterMap (notice id))
        (by simpa using first)
      simpa [channel, isSome_lookup_erase] using taken
    · have unnoticed := ignored (by simp [this])
      simpa [channel, isSome_lookup_erase, this] using unnoticed
  | _ => exact ignored rfl

/-- An event of the server's readers closes its channel, or leaves it alone. -/
theorem tunnelEvent_moves (event : TunnelEvent) (later : List TunnelEvent)
    (channelId : UInt32) :
    Moves (system.channel channelId)
      (({ system with events := later }.handleTunnelEvent event).channel channelId) := by
  have still := Moves.stays (system.channel channelId)
  cases event with
  | data id bytes =>
    simp only [handleTunnelEvent, TunnelRelayState.handleTunnelEvent]
    split <;> simpa [channel, List.filterMap_cons] using still
  | closed id =>
    simp only [handleTunnelEvent, TunnelRelayState.handleTunnelEvent]
    split
    · next held =>
      by_cases this : id = channelId
      · subst this
        have closed := Moves.closedByAnswerer (system.channel id) held
        simpa [channel, isSome_lookup_erase, List.filterMap_cons] using closed
      · simpa [channel, isSome_lookup_erase, List.filterMap_cons, this] using still
    · simpa [channel] using still

/-- The closes on the way back are those of the first frame and those behind it. -/
private theorem returning_tunnel {frame : Frame} {later : List Frame} (channelId : UInt32)
    (queued : system.toClient = frame :: later) :
    (system.channel channelId).toOpener = (notice channelId frame).toList.count .closes +
      (later.filterMap (notice channelId)).count .closes := by
  simp only [channel, queued, List.filterMap_cons]
  cases notice channelId frame <;> simp [List.count_cons, Nat.add_comm]

/-- A frame of the server closes the channel it is about, or leaves it alone. -/
theorem serverFrame_moves {frame : Frame} {later : List Frame} (listens writerFull : Bool)
    (kept : system.ChannelsSound) (channelId : UInt32) (queued : system.toClient = frame :: later) :
    Moves (system.channel channelId)
      (({ system with toClient := later }.handleServerFrame frame listens writerFull).channel
        channelId) := by
  have back := returning_tunnel channelId queued
  have still := Moves.stays (system.channel channelId)
  have ignored : (notice channelId frame).toList.count .closes = 0 →
      Moves (system.channel channelId) ({ system with toClient := later }.channel channelId) := by
    intro none
    rw [none, Nat.zero_add] at back
    simpa [channel, ← back] using still
  cases frame with
  | tunnelListen port =>
    have unnoticed := ignored rfl
    simp only [handleServerFrame]
    split
    · simpa [channel] using unnoticed
    · by_cases this : tunnelDeclineChannel = channelId
      · -- The decline closes a channel that was never open.
        subst this
        have closed := Moves.closedByOpener (system.channel tunnelDeclineChannel)
        have none : (notice tunnelDeclineChannel (.tunnelListen port)).toList.count .closes = 0 := rfl
        rw [none, Nat.zero_add] at back
        have never : tunnelDeclineChannel ∉ system.client.channels := by
          simpa [channel] using kept.decline.2
        simpa [channel, send, List.filterMap_cons, never, ← back] using closed
      · simpa [channel, send, List.filterMap_cons, this] using unnoticed
  | tunnelData id bytes =>
    simp only [handleServerFrame]
    split
    · next full =>
      by_cases this : id = channelId
      · subst this
        have closed := Moves.closedByOpener (system.channel id)
        have none : (notice id (.tunnelData id bytes)).toList.count .closes = 0 := rfl
        rw [none, Nat.zero_add] at back
        simpa [channel, send, List.filterMap_cons, kept.nodup.mem_erase_iff, ← back] using closed
      · have unnoticed := ignored rfl
        simpa [channel, send, List.filterMap_cons, kept.nodup.mem_erase_iff, this, Ne.symm this]
          using unnoticed
    · exact ignored rfl
  | tunnelClose id =>
    by_cases this : id = channelId
    · subst this
      have returned := Moves.closeReturned (system.channel id)
        ((later.filterMap (notice id)).count .closes) (by simp [back, Nat.add_comm])
      simpa [handleServerFrame, channel, kept.nodup.mem_erase_iff] using returned
    · have unnoticed := ignored (by simp [this])
      simpa [handleServerFrame, channel, kept.nodup.mem_erase_iff, Ne.symm this] using unnoticed
  | tunnelOpen id => exact ignored (by simp only [notice_open]; split <;> rfl)
  | _ => exact ignored rfl

/-- An event of the client announces or closes its channel, or leaves it alone. -/
theorem clientEvent_moves {event : ClientTunnelEvent} {later : List ClientTunnelEvent}
    (kept : system.ChannelsSound) (channelId : UInt32)
    (queued : system.clientEvents = event :: later) :
    Moves (system.channel channelId)
      (({ system with clientEvents := later }.handleClientTunnelEvent event).channel
        channelId) := by
  have waits : (system.channel channelId).waiting =
      later.countP (fun event => event.opening = some channelId) +
        if event.opening = some channelId then 1 else 0 := by
    simp only [channel, queued, List.countP_cons, decide_eq_true_eq]
  have still := Moves.stays (system.channel channelId)
  have ignored : event.opening ≠ some channelId →
      Moves (system.channel channelId) ({ system with clientEvents := later }.channel channelId) := by
    intro other
    rw [if_neg other, Nat.add_zero] at waits
    simpa [channel, ← waits] using still
  cases event with
  | accepted id =>
    by_cases this : id = channelId
    · subst this
      rw [ClientTunnelEvent.opening_accepted, if_pos rfl] at waits
      have announced := Moves.announced (system.channel id) _ waits
      simpa [handleClientTunnelEvent, channel, send, List.filterMap_cons] using announced
    · have unnoticed := ignored (by simpa using this)
      simpa [handleClientTunnelEvent, channel, send, List.filterMap_cons, this, Ne.symm this]
        using unnoticed
  | data id bytes =>
    have unnoticed := ignored (by simp)
    simpa [handleClientTunnelEvent, channel, send, List.filterMap_cons] using unnoticed
  | closed id =>
    have unnoticed := ignored (by simp)
    by_cases this : id = channelId
    · subst this
      have unopened : (ClientTunnelEvent.closed id).opening ≠ some id := by simp
      rw [if_neg unopened, Nat.add_zero] at waits
      -- The client reports the end of a local socket also for a channel it has closed before.
      have closed := Moves.closedByOpener (system.channel id)
      simpa [handleClientTunnelEvent, channel, send, List.filterMap_cons,
        kept.nodup.mem_erase_iff, ← waits] using closed
    · simpa [handleClientTunnelEvent, channel, send, List.filterMap_cons,
        kept.nodup.mem_erase_iff, this, Ne.symm this] using unnoticed

/-- Moves keep the channels sound, if they leave no channel twice in the client's table. -/
theorem ChannelsSound.moves (kept : system.ChannelsSound)
    (moved : ∀ channelId, Moves (system.channel channelId) (next.channel channelId))
    (nodup : next.client.channels.Nodup) : next.ChannelsSound where
  sound channelId := (kept.sound channelId).moves (moved channelId)
  nodup := nodup
  decline := (moved tunnelDeclineChannel).unopened kept.decline.1 kept.decline.2

/-- A connection that waits to be announced is not in the client's table. -/
theorem ChannelsSound.announced_once (kept : system.ChannelsSound) {channelId : UInt32}
    {later : List ClientTunnelEvent} (queued : system.clientEvents = .accepted channelId :: later) :
    channelId ∉ system.client.channels := by
  have waits : 0 < (system.channel channelId).waiting := by
    simp [channel, queued]
  have closed := ((kept.sound channelId).unannounced waits).1
  simpa [channel] using closed

/-- The client handles an event: its table names no channel twice. -/
private theorem clientEvent_nodup {event : ClientTunnelEvent} {later : List ClientTunnelEvent}
    (kept : system.ChannelsSound) (queued : system.clientEvents = event :: later) :
    ({ system with clientEvents := later }.handleClientTunnelEvent event).client.channels.Nodup := by
  cases event with
  | accepted id => exact List.nodup_cons.mpr ⟨kept.announced_once queued, kept.nodup⟩
  | data id bytes => exact kept.nodup
  | closed id => exact kept.nodup.erase id

/-- The client handles a frame: its table names no channel twice. -/
private theorem serverFrame_nodup (kept : system.ChannelsSound) (frame : Frame)
    (later : List Frame) (listens writerFull : Bool) :
    ({ system with toClient := later }.handleServerFrame frame listens
      writerFull).client.channels.Nodup := by
  cases frame with
  | tunnelListen port =>
    simp only [handleServerFrame]
    split <;> exact kept.nodup
  | tunnelData id bytes =>
    simp only [handleServerFrame]
    split
    · exact kept.nodup.erase id
    · exact kept.nodup
  | tunnelClose id => exact kept.nodup.erase id
  | _ => exact kept.nodup

/-- The server leaves the client as it is. -/
private theorem clientFrame_client (frame : Frame) (connects writerFull : Bool) :
    (system.handleClientFrame frame connects writerFull).client = system.client := by
  cases frame with
  | tunnelOpen id =>
    simp only [handleClientFrame]
    split <;> rfl
  | _ => rfl

/-- While the client stays, a step keeps its tunnel channels sound, if the number it gives out is fresh and a tunnel that is asked has a port. -/
theorem step_sound {action : CallbackAction} (kept : system.ChannelsSound)
    (stays : ∀ openForward, action ≠ .reattach openForward) (fresh : system.FreshNumber action)
    (set : system.PortSet action) (stepped : system.step action = some next) :
    next.ChannelsSound := by
  have same (later : CallbackSystem)
      (unmoved : ∀ channelId, later.channel channelId = system.channel channelId)
      (client : later.client.channels = system.client.channels) : later.ChannelsSound :=
    kept.moves (fun channelId => unmoved channelId ▸ Moves.stays _) (client ▸ kept.nodup)
  cases action with
  | openUrl url redirectPort =>
    obtain rfl := Option.some.inj stepped
    simp only [handleOpenEvent, TunnelRelayState.handleOpenEvent]
    cases system.openForwardEnabled <;> cases redirectPort <;>
      exact same _ (fun channelId => by simp [channel, List.filterMap_cons]) rfl
  | clientFrame connects writerFull =>
    cases queued : system.toServer with
    | nil => simp [step, queued] at stepped
    | cons frame later =>
      simp only [step, queued, Option.some.injEq] at stepped
      subst stepped
      refine kept.moves (fun channelId => ?_) (by rw [clientFrame_client]; exact kept.nodup)
      refine clientFrame_moves connects writerFull channelId queued fun id opens => ?_
      exact set id (by rw [queued, opens]; rfl)
  | tunnelEvent =>
    cases queued : system.events with
    | nil => simp [step, queued] at stepped
    | cons event later =>
      simp only [step, queued, Option.some.injEq] at stepped
      subst stepped
      refine kept.moves (tunnelEvent_moves event later) ?_
      cases event <;> exact kept.nodup
  | read conn bytes =>
    simp only [step] at stepped
    split at stepped
    · cases stepped
      exact same _ (fun _ => rfl) rfl
    · simp at stepped
  | readEnd conn =>
    simp only [step] at stepped
    split at stepped
    · cases stepped
      exact same _ (fun _ => rfl) rfl
    · simp at stepped
  | deadline =>
    obtain ⟨-, rfl⟩ := of_guarded stepped
    -- Only a tunnel without channels is torn down.
    refine same _ (fun channelId => ?_) rfl
    simp only [channel, TunnelRelayState.idleExpired]
    split
    · next idle =>
      have empty : system.tunnel.channels.lookup channelId = none := by
        rw [AList.lookup_eq_none, AList.mem_keys]
        simp only [TunnelRelayState.idle, List.isEmpty_iff] at idle
        simp [idle]
      rw [empty]
      rfl
    · rfl
  | serverFrame listens writerFull =>
    cases queued : system.toClient with
    | nil => simp [step, queued] at stepped
    | cons frame later =>
      simp only [step, queued, Option.some.injEq] at stepped
      subst stepped
      exact kept.moves (fun channelId => serverFrame_moves listens writerFull kept channelId queued)
        (serverFrame_nodup kept frame later listens writerFull)
  | clientEvent =>
    cases queued : system.clientEvents with
    | nil => simp [step, queued] at stepped
    | cons event later =>
      simp only [step, queued, Option.some.injEq] at stepped
      subst stepped
      exact kept.moves (fun channelId => clientEvent_moves kept channelId queued)
        (clientEvent_nodup kept queued)
  | accept =>
    obtain ⟨-, rfl⟩ := of_guarded stepped
    obtain ⟨apart, free, quiet⟩ := fresh
    refine ⟨fun channelId => ?_, kept.nodup, ?_⟩
    · by_cases this : system.client.nextChannelId = channelId
      · subst this
        have started := free.accepted (Or.inl quiet)
        have none := free.waiting
        simp only [channel] at started none ⊢
        simpa [none] using started
      · have unmoved := kept.sound channelId
        simpa [channel, this] using unmoved
    · have never := kept.decline
      simp only [channel] at never ⊢
      simpa [apart] using never
  | localRead id bytes =>
    obtain ⟨-, rfl⟩ := of_guarded stepped
    exact same _ (fun channelId => by simp [channel]) rfl
  | localEnd id =>
    obtain ⟨-, rfl⟩ := of_guarded stepped
    exact same _ (fun channelId => by simp [channel]) rfl
  | reattach openForward => exact absurd rfl (stays openForward)

/-- A client that has just attached has no tunnel channels, and neither has its server. -/
theorem reattach_sound (system : CallbackSystem) (openForward : Bool) :
    (system.reattach openForward).ChannelsSound where
  sound channelId := by
    have free : ((system.reattach openForward).channel channelId).Free := by
      refine ⟨rfl, rfl, ?_, ?_⟩
      · simp [channel, reattach, TunnelRelayState.teardown, TunnelRelayState.new]
      · cases openForward <;> simp [channel, reattach, List.filterMap_cons, notice]
    exact free.sound (Or.inl rfl)
  nodup := List.nodup_nil
  decline := ⟨rfl, rfl⟩

end Moves

end CallbackSystem

end Gritty
