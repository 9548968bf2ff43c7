import Gritty.Lib.Handshake
import Gritty.Lib.KeyedTable
import Gritty.Lib.Transition
import Gritty.Relay.Tunnel

/-! Agent channels at both ends: the server accepts connections for the client's SSH agent. -/

namespace Gritty

/-- What the server's agent listener and its relay tasks report. -/
inductive AgentEvent where
  | accepted (channelId : UInt32) (conn : ConnId)
  | data (channelId : UInt32) (bytes : Bytes)
  | closed (channelId : UInt32)
  deriving DecidableEq

/-- The channel that an event is to open. -/
def AgentEvent.opening : AgentEvent → Option UInt32
  | .accepted channelId _ => some channelId
  | _ => none

@[simp] theorem AgentEvent.opening_accepted (channelId : UInt32) (conn : ConnId) :
    (AgentEvent.accepted channelId conn).opening = some channelId := rfl

@[simp] theorem AgentEvent.opening_data (channelId : UInt32) (bytes : Bytes) :
    (AgentEvent.data channelId bytes).opening = none := rfl

@[simp] theorem AgentEvent.opening_closed (channelId : UInt32) :
    (AgentEvent.closed channelId).opening = none := rfl

/-- What the client's connections to its agent report. -/
inductive ClientAgentEvent where
  | data (channelId : UInt32) (bytes : Bytes)
  | closed (channelId : UInt32)
  deriving DecidableEq

/-- Agent forwarding within a session. -/
structure AgentForwardState where
  enabled : Bool
  channels : ChannelMap ConnId
  /-- The listener's task runs. -/
  acceptor : Bool
  nextChannelId : UInt32
  deriving DecidableEq

namespace AgentForwardState

/-- The client wants its agent forwarded: listen, unless there is a listener or it cannot be bound. -/
def enable (agent : AgentForwardState) (binds : Bool) : AgentForwardState :=
  { agent with enabled := true, acceptor := agent.acceptor || binds }

/-- Bytes of the client for a channel; a full writer closes it. -/
def agentData (agent : AgentForwardState) (channelId : UInt32) (writerFull : Bool) :
    AgentForwardState × List Frame :=
  if (agent.channels.lookup channelId).isSome && writerFull then
    ({ agent with channels := agent.channels.erase channelId }, [.agentClose channelId])
  else (agent, [])

/-- An event of the listener or of a relay task. -/
def handleAgentEvent (agent : AgentForwardState) : AgentEvent → AgentForwardState × List Frame
  | .accepted channelId conn =>
    if agent.enabled then
      ({ agent with channels := agent.channels.insert channelId conn }, [.agentOpen channelId])
    else (agent, [])
  | .data channelId bytes =>
    if agent.enabled && (agent.channels.lookup channelId).isSome then
      (agent, [.agentData channelId bytes])
    else (agent, [])
  | .closed channelId =>
    if (agent.channels.lookup channelId).isSome then
      ({ agent with channels := agent.channels.erase channelId }, [.agentClose channelId])
    else (agent, [])

end AgentForwardState

/-- The client's channels to its agent. -/
structure ClientAgentState where
  channels : ChannelMap ConnId
  deriving DecidableEq

namespace ClientAgentState

/--
The server wants a channel to the agent.

There is no connection if the user was idle for too long, has no agent, asked too often, or the agent is gone.
-/
def agentOpen (agent : ClientAgentState) (channelId : UInt32) (connected : Option ConnId) :
    ClientAgentState × List Frame :=
  match connected with
  | some conn => ({ channels := agent.channels.insert channelId conn }, [])
  | none => (agent, [.agentClose channelId])

/-- Bytes of the server for a channel; a full writer closes it. -/
def agentData (agent : ClientAgentState) (channelId : UInt32) (writerFull : Bool) :
    ClientAgentState × List Frame :=
  if (agent.channels.lookup channelId).isSome && writerFull then
    ({ channels := agent.channels.erase channelId }, [.agentClose channelId])
  else (agent, [])

/-- An event of a connection to the agent. -/
def handleAgentEvent (agent : ClientAgentState) :
    ClientAgentEvent → ClientAgentState × List Frame
  | .data channelId bytes =>
    if (agent.channels.lookup channelId).isSome then (agent, [.agentData channelId bytes])
    else (agent, [])
  | .closed channelId =>
    if (agent.channels.lookup channelId).isSome then
      ({ channels := agent.channels.erase channelId }, [.agentClose channelId])
    else (agent, [])

end ClientAgentState

/-- Both ends of the agent channels, and what is between them. -/
structure AgentSystem where
  agent : AgentForwardState
  /-- The events that the server has not handled, oldest first. -/
  events : List AgentEvent
  client : ClientAgentState
  /-- The events that the client has not handled, oldest first. -/
  clientEvents : List ClientAgentEvent
  toServer : List Frame
  toClient : List Frame
  deriving DecidableEq

/-- What happens to the agent channels. -/
inductive AgentAction where
  /-- The server takes the client's next frame. -/
  | clientFrame (binds writerFull : Bool)
  | agentEvent
  /-- The server's listener accepts a connection. -/
  | accepts (conn : ConnId)
  /-- A relay task of the server reports bytes of a connection, or its end. -/
  | reports (channelId : UInt32) (bytes : Option Bytes)
  /-- The client takes the server's next frame. -/
  | serverFrame (connected : Option ConnId) (writerFull : Bool)
  | clientEvent
  /-- A relay task of the client reports bytes of a connection, or its end. -/
  | clientReports (channelId : UInt32) (bytes : Option Bytes)
  deriving DecidableEq

namespace AgentSystem

/-- A client attaches to a server that has given out numbers before. -/
def new (nextChannelId : UInt32) (forwardAgent : Bool) : AgentSystem where
  agent := { enabled := false, channels := ∅, acceptor := false, nextChannelId }
  events := []
  client := { channels := ∅ }
  clientEvents := []
  toServer := if forwardAgent then [.agentForward] else []
  toClient := []

/-- The server handles a frame of the client. -/
def handleClientFrame (system : AgentSystem) (frame : Frame) (binds writerFull : Bool) :
    AgentSystem :=
  match frame with
  | .agentForward => { system with agent := system.agent.enable binds }
  | .agentData channelId _ =>
    let (agent, frames) := system.agent.agentData channelId writerFull
    { system with agent, toClient := system.toClient ++ frames }
  | .agentClose channelId =>
    { system with
      agent := { system.agent with channels := system.agent.channels.erase channelId } }
  | _ => system

/-- The client handles a frame of the server. -/
def handleServerFrame (system : AgentSystem) (frame : Frame) (connected : Option ConnId)
    (writerFull : Bool) : AgentSystem :=
  match frame with
  | .agentOpen channelId =>
    let (client, frames) := system.client.agentOpen channelId connected
    { system with client, toServer := system.toServer ++ frames }
  | .agentData channelId _ =>
    let (client, frames) := system.client.agentData channelId writerFull
    { system with client, toServer := system.toServer ++ frames }
  | .agentClose channelId =>
    { system with client := { channels := system.client.channels.erase channelId } }
  | _ => system

/-- One action. What is not there cannot be taken. -/
def step (system : AgentSystem) : AgentAction → Option AgentSystem
  | .clientFrame binds writerFull =>
    match system.toServer with
    | frame :: later =>
      some ({ system with toServer := later }.handleClientFrame frame binds writerFull)
    | [] => none
  | .agentEvent =>
    match system.events with
    | event :: later =>
      let (agent, frames) := system.agent.handleAgentEvent event
      some { system with agent, events := later, toClient := system.toClient ++ frames }
    | [] => none
  | .accepts conn =>
    if system.agent.acceptor && system.agent.enabled then
      let channelId := system.agent.nextChannelId
      some { system with
        agent := { system.agent with nextChannelId := channelId + 1 }
        events := system.events ++ [.accepted channelId conn] }
    else none
  | .reports channelId (some bytes) =>
    some { system with events := system.events ++ [.data channelId bytes] }
  | .reports channelId none =>
    some { system with events := system.events ++ [.closed channelId] }
  | .serverFrame connected writerFull =>
    match system.toClient with
    | frame :: later =>
      some ({ system with toClient := later }.handleServerFrame frame connected writerFull)
    | [] => none
  | .clientEvent =>
    match system.clientEvents with
    | event :: later =>
      let (client, frames) := system.client.handleAgentEvent event
      some { system with client, clientEvents := later, toServer := system.toServer ++ frames }
    | [] => none
  | .clientReports channelId (some bytes) =>
    some { system with clientEvents := system.clientEvents ++ [.data channelId bytes] }
  | .clientReports channelId none =>
    some { system with clientEvents := system.clientEvents ++ [.closed channelId] }

/-- What a frame says about an agent channel. -/
def notice (channelId : UInt32) : Frame → Option Notice
  | .agentOpen id => if id = channelId then some .opens else none
  | .agentClose id => if id = channelId then some .closes else none
  | _ => none

@[simp] theorem notice_open (channelId id : UInt32) :
    notice channelId (.agentOpen id) = if id = channelId then some .opens else none := rfl

@[simp] theorem notice_close (channelId id : UInt32) :
    notice channelId (.agentClose id) = if id = channelId then some .closes else none := rfl

@[simp] theorem notice_data (channelId id : UInt32) (bytes : Bytes) :
    notice channelId (.agentData id bytes) = none := rfl

/-- One agent channel, which the server opens. -/
def channel (system : AgentSystem) (channelId : UInt32) : Handshake where
  waiting := system.events.countP fun event => event.opening = some channelId
  opener := (system.agent.channels.lookup channelId).isSome
  answerer := (system.client.channels.lookup channelId).isSome
  refusing := false
  toAnswerer := system.toClient.filterMap (notice channelId)
  toOpener := (system.toServer.filterMap (notice channelId)).count .closes

/-- A number is given out only when nothing is left of an earlier channel under it. -/
def FreshNumber (system : AgentSystem) : AgentAction → Prop
  | .accepts _ => (system.channel system.agent.nextChannelId).Unused
  | _ => True

/-! ### Every agent channel keeps to the handshake -/

section Moves

open Handshake

variable {system next : AgentSystem}

/-- The closes on the way back are those of the first frame and those behind it. -/
private theorem returning_cons {frame : Frame} {later : List Frame} (channelId : UInt32)
    (queued : system.toServer = frame :: later) :
    (system.channel channelId).toOpener = (notice channelId frame).toList.count .closes +
      (later.filterMap (notice channelId)).count .closes := by
  simp only [channel, queued, List.filterMap_cons]
  cases notice channelId frame <;> simp [List.count_cons, Nat.add_comm]

/-- A frame of the client closes the channel it is about, or leaves it alone. -/
theorem clientFrame_moves {frame : Frame} {later : List Frame} (binds writerFull : Bool)
    (channelId : UInt32) (queued : system.toServer = frame :: later) :
    Moves (system.channel channelId)
      (({ system with toServer := later }.handleClientFrame frame binds writerFull).channel
        channelId) := by
  have back := returning_cons channelId queued
  have still := Moves.stays (system.channel channelId)
  -- A frame without a close for the channel can be taken off the link unnoticed.
  have ignored : (notice channelId frame).toList.count .closes = 0 →
      Moves (system.channel channelId) ({ system with toServer := later }.channel channelId) := by
    intro none
    rw [none, Nat.zero_add] at back
    simpa [channel, ← back] using still
  cases frame with
  | agentForward =>
    have unnoticed := ignored rfl
    simpa [handleClientFrame, AgentForwardState.enable, channel] using unnoticed
  | agentData id bytes =>
    simp only [handleClientFrame, AgentForwardState.agentData]
    split
    · by_cases this : id = channelId
      · subst this
        have closed := Moves.closedByOpener (system.channel id)
        have unnoticed : (notice id (.agentData id bytes)).toList.count .closes = 0 := rfl
        rw [unnoticed, Nat.zero_add] at back
        simpa [channel, isSome_lookup_erase, List.filterMap_cons, ← back] using closed
      · have unnoticed := ignored rfl
        simpa [channel, isSome_lookup_erase, this, notice] using unnoticed
    · simpa using ignored rfl
  | agentClose id =>
    by_cases this : id = channelId
    · subst this
      have returned := Moves.closeReturned (system.channel id)
        ((later.filterMap (notice id)).count .closes) (by simp [back, Nat.add_comm])
      simpa [handleClientFrame, channel, isSome_lookup_erase] using returned
    · have unnoticed := ignored (by simp [this])
      simpa [handleClientFrame, channel, isSome_lookup_erase, this] using unnoticed
  | agentOpen id => exact ignored (by simp only [notice_open]; split <;> rfl)
  | _ => exact ignored rfl

/-- A frame of the server opens or closes the channel it is about, or leaves it alone. -/
theorem serverFrame_moves {frame : Frame} {later : List Frame} (connected : Option ConnId)
    (writerFull : Bool) (channelId : UInt32) (queued : system.toClient = frame :: later) :
    Moves (system.channel channelId)
      (({ system with toClient := later }.handleServerFrame frame connected writerFull).channel
        channelId) := by
  have first : (system.channel channelId).toAnswerer =
      (notice channelId frame).toList ++ later.filterMap (notice channelId) := by
    simp only [channel, queued, List.filterMap_cons]
    cases notice channelId frame <;> rfl
  have still := Moves.stays (system.channel channelId)
  have ignored : notice channelId frame = none →
      Moves (system.channel channelId) ({ system with toClient := later }.channel channelId) := by
    intro none
    rw [none, Option.toList_none, List.nil_append] at first
    simpa [channel, ← first] using still
  cases frame with
  | agentOpen id =>
    by_cases this : id = channelId
    · subst this
      have opens : (system.channel id).toAnswerer = .opens :: later.filterMap (notice id) := by
        simpa using first
      cases connected with
      | some conn =>
        have registered := Moves.registered (system.channel id) _ opens rfl
        simpa [handleServerFrame, ClientAgentState.agentOpen, channel, isSome_lookup_insert]
          using registered
      | none =>
        have refused := Moves.refused (system.channel id) _ opens
        simpa [handleServerFrame, ClientAgentState.agentOpen, channel, List.filterMap_cons] using refused
    · have unnoticed := ignored (by simp [this])
      cases connected <;>
        simpa [handleServerFrame, ClientAgentState.agentOpen, channel, isSome_lookup_insert,
          List.filterMap_cons, this] using unnoticed
  | agentData id bytes =>
    simp only [handleServerFrame, ClientAgentState.agentData]
    split
    · next full =>
      by_cases this : id = channelId
      · subst this
        have held : (system.channel id).answerer = true := (Bool.and_eq_true_iff.mp full).1
        have closed := Moves.closedByAnswerer (system.channel id) held
        have unnoticed : notice id (.agentData id bytes) = none := rfl
        rw [unnoticed, Option.toList_none, List.nil_append] at first
        simpa [channel, isSome_lookup_erase, List.filterMap_cons, ← first] using closed
      · have unnoticed := ignored rfl
        simpa [channel, isSome_lookup_erase, this, notice] using unnoticed
    · simpa using ignored rfl
  | agentClose id =>
    by_cases this : id = channelId
    · subst this
      have taken := Moves.closeTaken (system.channel id) (later.filterMap (notice id))
        (by simpa using first)
      simpa [handleServerFrame, channel, isSome_lookup_erase] using taken
    · have unnoticed := ignored (by simp [this])
      simpa [handleServerFrame, channel, isSome_lookup_erase, this] using unnoticed
  | _ => exact ignored rfl

/-- An event of the server announces or closes its channel, or leaves it alone. -/
theorem agentEvent_moves {event : AgentEvent} {later : List AgentEvent} (channelId : UInt32)
    (queued : system.events = event :: later) :
    Moves (system.channel channelId)
      ({ system with
        agent := (system.agent.handleAgentEvent event).1
        events := later
        toClient := system.toClient ++ (system.agent.handleAgentEvent event).2 }.channel
          channelId) := by
  have waits : (system.channel channelId).waiting = later.countP
      (fun event => event.opening = some channelId) + if event.opening = some channelId then 1 else 0 := by
    simp only [channel, queued, List.countP_cons, decide_eq_true_eq]
  have still := Moves.stays (system.channel channelId)
  have ignored : event.opening ≠ some channelId →
      Moves (system.channel channelId) ({ system with events := later }.channel channelId) := by
    intro other
    rw [if_neg other, Nat.add_zero] at waits
    simpa [channel, ← waits] using still
  cases event with
  | accepted id conn =>
    by_cases this : id = channelId
    · subst this
      rw [AgentEvent.opening_accepted, if_pos rfl] at waits
      simp only [AgentForwardState.handleAgentEvent]
      split
      · have announced := Moves.announced (system.channel id) _ waits
        simpa [channel, isSome_lookup_insert, List.filterMap_cons] using announced
      · have withdrawn := Moves.withdrawn (system.channel id) _ waits
        simpa [channel] using withdrawn
    · have unnoticed := ignored (by simpa using this)
      simp only [AgentForwardState.handleAgentEvent]
      split
      · simpa [channel, isSome_lookup_insert, List.filterMap_cons, this] using unnoticed
      · simpa using unnoticed
  | data id bytes =>
    have unnoticed := ignored (by simp)
    simp only [AgentForwardState.handleAgentEvent]
    split
    · simpa [channel, List.filterMap_cons] using unnoticed
    · simpa using unnoticed
  | closed id =>
    have unnoticed := ignored (by simp)
    simp only [AgentForwardState.handleAgentEvent]
    split
    · by_cases this : id = channelId
      · subst this
        have closed := Moves.closedByOpener (system.channel id)
        have unopened : (AgentEvent.closed id).opening ≠ some id := by simp
        rw [if_neg unopened, Nat.add_zero] at waits
        simpa [channel, isSome_lookup_erase, List.filterMap_cons, ← waits] using closed
      · simpa [channel, isSome_lookup_erase, List.filterMap_cons, this] using unnoticed
    · simpa using unnoticed

/-- An event of the client closes its channel, or leaves it alone. -/
theorem clientEvent_moves (event : ClientAgentEvent) (later : List ClientAgentEvent)
    (channelId : UInt32) :
    Moves (system.channel channelId)
      ({ system with
        client := (system.client.handleAgentEvent event).1
        clientEvents := later
        toServer := system.toServer ++ (system.client.handleAgentEvent event).2 }.channel
          channelId) := by
  have still := Moves.stays (system.channel channelId)
  cases event with
  | data id bytes =>
    simp only [ClientAgentState.handleAgentEvent]
    split <;> simpa [channel, List.filterMap_cons] using still
  | closed id =>
    simp only [ClientAgentState.handleAgentEvent]
    split
    · next held =>
      by_cases this : id = channelId
      · subst this
        have closed := Moves.closedByAnswerer (system.channel id) held
        simpa [channel, isSome_lookup_erase, List.filterMap_cons] using closed
      · simpa [channel, isSome_lookup_erase, List.filterMap_cons, this] using still
    · simpa [channel] using still

/-- A step keeps every agent channel sound, if the number it gives out is free. -/
theorem step_sound {action : AgentAction} {channelId : UInt32}
    (sound : (system.channel channelId).Sound) (fresh : system.FreshNumber action)
    (stepped : system.step action = some next) : (next.channel channelId).Sound := by
  have same {later : AgentSystem}
      (unmoved : later.channel channelId = system.channel channelId) :
      (later.channel channelId).Sound := unmoved ▸ sound
  cases action with
  | clientFrame binds writerFull =>
    cases queued : system.toServer with
    | nil => simp [step, queued] at stepped
    | cons frame later =>
      simp only [step, queued, Option.some.injEq] at stepped
      exact stepped ▸ sound.moves (clientFrame_moves binds writerFull channelId queued)
  | agentEvent =>
    cases queued : system.events with
    | nil => simp [step, queued] at stepped
    | cons event later =>
      simp only [step, queued, Option.some.injEq] at stepped
      exact stepped ▸ sound.moves (agentEvent_moves channelId queued)
  | accepts conn =>
    obtain ⟨-, rfl⟩ := of_guarded stepped
    by_cases this : system.agent.nextChannelId = channelId
    · -- The number is the new channel's, and nothing of another one is left under it.
      subst this
      obtain ⟨free, quiet⟩ := fresh
      have started := free.accepted (Or.inl quiet)
      have none := free.waiting
      simp only [channel] at started none ⊢
      simpa [none] using started
    · apply same
      simp [channel, this]
  | reports id bytes =>
    cases bytes <;> cases stepped <;> apply same <;> simp [channel]
  | serverFrame connected writerFull =>
    cases queued : system.toClient with
    | nil => simp [step, queued] at stepped
    | cons frame later =>
      simp only [step, queued, Option.some.injEq] at stepped
      exact stepped ▸ sound.moves (serverFrame_moves connected writerFull channelId queued)
  | clientEvent =>
    cases queued : system.clientEvents with
    | nil => simp [step, queued] at stepped
    | cons event later =>
      simp only [step, queued, Option.some.injEq] at stepped
      exact stepped ▸ sound.moves (clientEvent_moves event later channelId)
  | clientReports id bytes =>
    cases bytes <;> cases stepped <;> exact same rfl

/-- A client that has just attached has sound channels, all of them unused. -/
theorem new_sound (nextChannelId : UInt32) (forwardAgent : Bool) (channelId : UInt32) :
    ((new nextChannelId forwardAgent).channel channelId).Sound := by
  have free : ((new nextChannelId forwardAgent).channel channelId).Free :=
    ⟨rfl, rfl, rfl, by simp [channel, new]⟩
  apply free.sound
  left
  cases forwardAgent <;> rfl

end Moves

end AgentSystem

end Gritty
