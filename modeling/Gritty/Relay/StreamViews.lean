import Gritty.Relay.ForwardChannels
import Gritty.Relay.ForwardedStreams

/-! Both ends of one channel, as a client connection shows them. -/

namespace Gritty

/-- One end takes a turn, or nothing changes. -/
def ChannelEnds.Moves (before after : ChannelEnds) : Prop :=
  after = before ∨ before.Turn after ∨ before.swap.Turn after.swap

/-- Whatever moves, both ends stay sound. -/
theorem ChannelEnds.Sound.moves {before after : ChannelEnds} (sound : before.Sound)
    (moves : before.Moves after) : after.Sound := by
  rcases moves with rfl | turn | turn
  · exact sound
  · exact sound.turn turn
  · exact (sound.swap.turn turn).swap

section About

variable (channelId id : UInt32) (bytes : Bytes)

/-- An open opens its own channel. -/
@[simp] theorem Frame.about_open (forwardId : UInt32) (targetPort : UInt16) :
    (Frame.portForwardOpen forwardId id targetPort).about channelId =
      if id = channelId then some .opens else none := rfl

/-- Data is its own channel's. -/
@[simp] theorem Frame.about_data : (Frame.portForwardData id bytes).about channelId =
    if id = channelId then some (.data bytes) else none := rfl

/-- A close closes its own channel. -/
@[simp] theorem Frame.about_close : (Frame.portForwardClose id).about channelId =
    if id = channelId then some .closes else none := rfl

/-- A ready is about no channel. -/
@[simp] theorem Frame.about_ready : (Frame.portForwardReady id).about channelId = none := rfl

/-- A stop is about no channel by itself. -/
@[simp] theorem Frame.about_stop : (Frame.portForwardStop id).about channelId = none := rfl

/-- A request is about no channel. -/
@[simp] theorem Frame.about_request (direction : UInt8) (listenPort targetPort : UInt16) :
    (Frame.portForwardRequest id direction listenPort targetPort).about channelId = none := rfl

/-- An accepted connection opens its own channel. -/
@[simp] theorem PortForwardEvent.about_accepted (forwardId : UInt32) (conn : ConnId) :
    (PortForwardEvent.accepted forwardId id conn).about channelId =
      if id = channelId then some .opens else none := rfl

/-- The bytes that were read are their own channel's. -/
@[simp] theorem PortForwardEvent.about_data : (PortForwardEvent.data id bytes).about channelId =
    if id = channelId then some (.data bytes) else none := rfl

/-- The end of a connection closes its own channel. -/
@[simp] theorem PortForwardEvent.about_closed : (PortForwardEvent.closed id).about channelId =
    if id = channelId then some .closes else none := rfl

/-- On the client too, an accepted connection opens its own channel. -/
@[simp] theorem ClientPortForwardEvent.about_accepted (forwardId : UInt32) (conn : ConnId) :
    (ClientPortForwardEvent.accepted forwardId id conn).about channelId =
      if id = channelId then some .opens else none := rfl

/-- On the client too, the bytes that were read are their own channel's. -/
@[simp] theorem ClientPortForwardEvent.about_data :
    (ClientPortForwardEvent.data id bytes).about channelId =
      if id = channelId then some (.data bytes) else none := rfl

/-- On the client too, the end of a connection closes its own channel. -/
@[simp] theorem ClientPortForwardEvent.about_closed :
    (ClientPortForwardEvent.closed id).about channelId =
      if id = channelId then some .closes else none := rfl

/-- A stopped forward is about no channel by itself. -/
@[simp] theorem ClientPortForwardEvent.about_forwardStopped :
    (ClientPortForwardEvent.forwardStopped id).about channelId = none := rfl

/-- What a reader task reports is about its channel. -/
theorem PortForwardEvent.about_reports {messages : List ChannelMessage}
    (unopening : .opens ∉ messages) :
    (PortForwardEvent.reports channelId messages).filterMap (·.about channelId) = messages := by
  induction messages with
  | nil => rfl
  | cons message messages ih =>
    have rest := ih fun among => unopening (List.mem_cons_of_mem _ among)
    cases message with
    | opens => exact absurd List.mem_cons_self unopening
    | data bytes => simpa [PortForwardEvent.reports] using rest
    | closes => simpa [PortForwardEvent.reports] using rest

/-- What a channel's tasks report is read back as it was. -/
theorem ClientPortForwardEvent.about_reports {messages : List ChannelMessage}
    (unopening : .opens ∉ messages) :
    (ClientPortForwardEvent.reports channelId messages).filterMap (·.about channelId) =
      messages := by
  induction messages with
  | nil => rfl
  | cons message messages ih =>
    have rest := ih fun among => unopening (List.mem_cons_of_mem _ among)
    cases message with
    | opens => exact absurd List.mem_cons_self unopening
    | data bytes => simpa [ClientPortForwardEvent.reports] using rest
    | closes => simpa [ClientPortForwardEvent.reports] using rest

end About

namespace ForwardedStreams

/-- Both ends of a channel, the server's first. -/
def ends (channelId : UInt32) (state : ForwardedStreams) : ChannelEnds where
  mine := state.serverEnd channelId
  peer := state.clientEnd channelId
  overflowed := state.overflowed
  stopped := state.stopped

/-- The number of the channel is given out once, and bytes of it are not lost. -/
def Undisturbed (channelId : UInt32) (state : ForwardedStreams) : ForwardedAction → Prop
  | .forward (.accepts _ _) _ =>
    state.system.table.nextChannelId = channelId → state.server = none ∧ state.client = none
  | .forward (.client (.accepts _ _)) _ =>
    state.system.client.nextChannelId = channelId → state.server = none ∧ state.client = none
  | .forward .pfEvent lost =>
    lost = true →
      (state.system.events.head?.bind (·.about channelId)).any ChannelMessage.carries = false
  | _ => True

instance (channelId : UInt32) (state : ForwardedStreams) :
    ∀ action, Decidable (state.Undisturbed channelId action)
  | .forward (.accepts _ _) _ => inferInstanceAs (Decidable (_ = _ → _ ∧ _))
  | .forward (.client (.accepts _ _)) _ => inferInstanceAs (Decidable (_ = _ → _ ∧ _))
  | .forward .pfEvent _ => inferInstanceAs (Decidable (_ = _ → _ = _))
  | .forward (.clientFrame _ _ _) _ => isTrue trivial
  | .forward (.reports _ _) _ => isTrue trivial
  | .forward (.serverFrame _ _) _ => isTrue trivial
  | .forward (.client (.serverFrame _ _ _)) _ => isTrue trivial
  | .forward (.client (.fwdRequest _ _ _ _ _ _)) _ => isTrue trivial
  | .forward (.client (.pfEvent _)) _ => isTrue trivial
  | .forward (.client (.reports _ _)) _ => isTrue trivial
  | .forward (.client (.keepaliveEnds _)) _ => isTrue trivial
  | .socket _ _ => isTrue trivial

variable {channelId : UInt32} {state next : ForwardedStreams}

/-- What a forward's action comes to. -/
theorem step_forward {action : ForwardAction} {lost : Bool}
    (stepped : step channelId state (.forward action lost) = some next) :
    state.agrees channelId action = true ∧ ∃ after, state.system.step action = some after ∧
      next = {
        system := if lost then unsent state.system after action else after
        server := (state.sockets channelId action).1
        client := (state.sockets channelId action).2.1
        overflowed := state.overflowed || (state.sockets channelId action).2.2
        stopped := state.stopped || state.stops channelId action } := by
  simp only [step, Option.ite_none_right_eq_some, Option.map_eq_some_iff] at stepped
  obtain ⟨agrees, after, went, rfl⟩ := stepped
  exact ⟨agrees, after, went, rfl⟩

/-- What is sent, unless it is lost. -/
def kept (lost : Bool) (messages : List ChannelMessage) : List ChannelMessage :=
  if lost then [] else messages

/-- A single message is sent or lost. -/
theorem kept_single (lost : Bool) (message : ChannelMessage) :
    kept lost [message] = [message] ∨ kept lost [message] = [] := by
  cases lost
  · exact Or.inl rfl
  · exact Or.inr rfl

/-- Of nothing, nothing is kept. -/
@[simp] theorem kept_nil (lost : Bool) : kept lost [] = [] := by
  cases lost <;> rfl

end ForwardedStreams

end Gritty
