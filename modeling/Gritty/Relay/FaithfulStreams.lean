import Gritty.Relay.ClientTurns
import Gritty.Relay.ServerTurns

/-! What a forwarded connection carries from one socket to the other, and when it ends one of them. -/

namespace Gritty

namespace ForwardedStreams

variable {channelId : UInt32} {state next : ForwardedStreams}

/-! ### Every step is a turn -/

/-- What happens at a socket is a turn of its end. -/
theorem moves_socket (sound : (state.ends channelId).Sound) {side : StreamSide}
    {action : SocketAction} (stepped : step channelId state (.socket side action) = some next) :
    (state.ends channelId).Moves (next.ends channelId) := by
  cases side with
  | server =>
    simp only [step, Option.bind_eq_some_iff, Option.map_eq_some_iff] at stepped
    obtain ⟨socket, there, ⟨after, reports⟩, went, rfl⟩ := stepped
    have turn := ChannelEnds.Turn.socket (show (state.ends channelId).mine.socket = some socket from
      there) went
    have unopening := ((sound.mine.sound socket there).step went).unopening
    right
    left
    simpa [ends, serverEnd, clientEnd, serverHas, clientHas,
      PortForwardEvent.about_reports channelId unopening] using turn
  | client =>
    simp only [step, Option.bind_eq_some_iff, Option.map_eq_some_iff] at stepped
    obtain ⟨socket, there, ⟨after, reports⟩, went, rfl⟩ := stepped
    have turn := ChannelEnds.Turn.socket
      (show (state.ends channelId).swap.mine.socket = some socket from there) went
    have unopening := ((sound.peer.sound socket there).step went).unopening
    right
    right
    simpa [ends, ChannelEnds.swap, serverEnd, clientEnd, serverHas, clientHas,
      ClientPortForwardEvent.about_reports channelId unopening] using turn

/-- Every step is a turn of one of the ends, or does not concern the channel. -/
theorem moves_step (sound : (state.ends channelId).Sound)
    (lists : state.system.table.Lists channelId) {action : ForwardedAction}
    (undisturbed : state.Undisturbed channelId action)
    (stepped : step channelId state action = some next) :
    (state.ends channelId).Moves (next.ends channelId) := by
  cases action with
  | socket side action => exact moves_socket sound stepped
  | forward action lost =>
    cases action with
    | clientFrame connected bound writerFull => exact moves_clientFrame sound lists stepped
    | pfEvent => exact moves_pfEvent undisturbed stepped
    | accepts forwardId conn => exact moves_accepts undisturbed stepped
    | reports id bytes => exact moves_reports stepped
    | serverFrame connected writerFull => exact moves_serverFrame sound stepped
    | client action =>
      cases action with
      | serverFrame frame connected writerFull =>
        -- The client takes frames from the link only.
        obtain ⟨-, after, went, -⟩ := step_forward stepped
        cases went
      | fwdRequest process direction listenPort targetPort binds sends =>
        exact moves_clientRest (Or.inl ⟨_, _, _, _, _, _, rfl⟩) stepped
      | pfEvent sends => exact moves_clientEvent stepped
      | accepts forwardId conn => exact moves_clientAccepts undisturbed stepped
      | reports id bytes => exact moves_clientRest (Or.inr (Or.inl ⟨id, bytes, rfl⟩)) stepped
      | keepaliveEnds forwardId =>
        exact moves_clientRest (Or.inr (Or.inr ⟨forwardId, rfl⟩)) stepped

/-- A frame of the client leaves the forwards listing the channel as the table has it. -/
theorem lists_handled (lists : state.system.table.Lists channelId)
    (sound : (state.ends channelId).Sound) {connected : Option ConnId} {bound : Option AcceptorId}
    {writerFull : Bool} {frame : Frame} {later : List Frame}
    (queued : state.system.client.sent = frame :: later) :
    (handled state.system.table connected bound writerFull frame).1.Lists channelId := by
  cases frame with
  | portForwardOpen forwardId id targetPort =>
    unfold handled PortForwardTable.portForwardOpen
    dsimp only
    split
    · cases connected with
      | none => exact lists
      | some conn =>
        refine lists.register conn fun this => ?_
        -- Whoever is told of the channel has not had it.
        have opens : .opens ∈ (state.ends channelId).peer.link := by
          simp [ends, clientEnd, queued, this]
        have unused := (sound.back.announced (Or.inr opens)).1
        have unregistered : state.serverHas channelId = false := (sound.mine.socketless unused).1
        rw [← this]
        exact Option.not_isSome_iff_eq_none.mp (by simpa [serverHas] using unregistered)
    · exact lists
  | portForwardData id bytes =>
    unfold handled PortForwardTable.portForwardData
    dsimp only
    split
    · exact lists.close id
    · exact lists
  | portForwardClose id => exact lists.close id
  | portForwardStop forwardId => exact lists.stop forwardId
  | portForwardRequest forwardId direction listenPort targetPort =>
    exact lists.request forwardId direction targetPort bound
  | _ => exact lists

/-- An event of the server leaves the forwards listing the channel as the table has it. -/
theorem lists_handlePfEvent (lists : state.system.table.Lists channelId)
    (sound : (state.ends channelId).Sound) {event : PortForwardEvent}
    {later : List PortForwardEvent} (queued : state.system.events = event :: later) :
    (state.system.table.handlePfEvent event).1.Lists channelId := by
  cases event with
  | accepted forwardId id conn =>
    unfold PortForwardTable.handlePfEvent
    dsimp only
    cases state.system.table.forwards.lookup forwardId with
    | none => exact lists
    | some forward =>
      refine lists.register conn fun this => ?_
      -- A channel that waits for its announcement is not in the table.
      have opens : .opens ∈ (state.ends channelId).mine.events := by
        simp [ends, serverEnd, queued, this]
      have unregistered : state.serverHas channelId = false := (sound.mine.unannounced opens).1
      rw [← this]
      exact Option.not_isSome_iff_eq_none.mp (by simpa [serverHas] using unregistered)
  | data id bytes =>
    unfold PortForwardTable.handlePfEvent
    dsimp only
    split <;> exact lists
  | closed id =>
    unfold PortForwardTable.handlePfEvent
    dsimp only
    split
    · exact lists.close id
    · exact lists

/-- Every step leaves the forwards listing the channel as the table has it. -/
theorem lists_step (sound : (state.ends channelId).Sound)
    (lists : state.system.table.Lists channelId) {action : ForwardedAction}
    (stepped : step channelId state action = some next) :
    next.system.table.Lists channelId := by
  cases action with
  | socket side action =>
    cases side <;> simp only [step, Option.bind_eq_some_iff, Option.map_eq_some_iff] at stepped <;>
      obtain ⟨socket, there, ⟨after, reports⟩, went, rfl⟩ := stepped <;> exact lists
  | forward action lost =>
    cases action with
    | clientFrame connected bound writerFull =>
      obtain ⟨frame, later, queued, table, -⟩ := ends_clientFrame stepped
      rw [table]
      exact lists_handled lists sound queued
    | pfEvent =>
      obtain ⟨event, later, queued, table, -⟩ := ends_pfEvent stepped
      rw [table]
      exact lists_handlePfEvent lists sound queued
    | accepts forwardId conn =>
      obtain ⟨-, after, went, rfl⟩ := step_forward stepped
      simp only [ForwardSystem.step, Option.ite_none_right_eq_some, Option.some.injEq] at went
      obtain ⟨-, rfl⟩ := went
      cases lost <;> exact lists
    | reports id bytes =>
      obtain ⟨-, after, went, rfl⟩ := step_forward stepped
      cases bytes <;> simp only [ForwardSystem.step, Option.some.injEq] at went <;> subst went <;>
        cases lost <;> exact lists
    | serverFrame connected writerFull =>
      obtain ⟨-, after, went, rfl⟩ := step_forward stepped
      simp only [ForwardSystem.step] at went
      split at went
      · obtain ⟨client, -, rfl⟩ := Option.map_eq_some_iff.mp went
        cases lost <;> exact lists
      · cases went
    | client action =>
      obtain ⟨-, after, went, rfl⟩ := step_forward stepped
      have same : after.table = state.system.table := by
        cases action with
        | serverFrame frame connected writerFull => cases went
        | _ =>
          obtain ⟨client, -, rfl⟩ := Option.map_eq_some_iff.mp went
          rfl
      rw [← same] at lists
      cases lost <;> exact lists

/-- What holds of a forwarded connection at every moment. -/
def Inv (channelId : UInt32) (state : ForwardedStreams) : Prop :=
  (state.ends channelId).Sound ∧ state.system.table.Lists channelId

theorem inv_new (channelId given : UInt32) : Inv channelId (new given) := by
  refine ⟨ChannelEnds.sound_new, fun forwardId forward there => ?_⟩
  cases there

theorem inv_step {action : ForwardedAction} (inv : Inv channelId state)
    (undisturbed : state.Undisturbed channelId action)
    (stepped : step channelId state action = some next) : Inv channelId next :=
  ⟨inv.1.moves (moves_step inv.1 inv.2 undisturbed stepped), lists_step inv.1 inv.2 stepped⟩

end ForwardedStreams

/-! ### What one direction carries -/

namespace ChannelEnds

variable {ends : ChannelEnds} {source destination : RelaySocket}

/-- What is written is the beginning of what was read. -/
theorem Sound.written_prefix (sound : ends.Sound) (here : ends.mine.socket = some source)
    (there : ends.peer.socket = some destination) :
    destination.written <+: source.readBytes := by
  have delivered := sound.out.delivered
  simp only [StreamEnd.received, StreamEnd.readBytes, here, there, Option.map_some,
    Option.getD_some] at delivered
  exact (List.prefix_append _ _).trans delivered

/-- Why a destination was given the end of the stream. -/
theorem Sound.finished_cases (sound : ends.Sound) (here : ends.mine.socket = some source)
    (there : ends.peer.socket = some destination) (finished : destination.finished = true) :
    ends.Excused ∨ destination.reading = false ∨ source.failed = true ∨ destination.failed = true ∨
      source.ended = true ∧ destination.written = source.sent := by
  rcases sound.peer.finished destination there finished with failed | unheld
  · exact Or.inr (Or.inr (Or.inr (Or.inl failed)))
  rcases (sound.peer.sound destination there).drained finished with failed | drained
  · exact Or.inr (Or.inr (Or.inr (Or.inl failed)))
  rcases sound.out.closed (by simp [there]) unheld with excused | all | ⟨none_, -⟩ | ⟨all, same⟩
  · exact Or.inl excused
  · obtain ⟨socket, found, ended⟩ := all
    obtain rfl := Option.some.inj (found.symm.trans there)
    exact Or.inr (Or.inl ended)
  · rw [here] at none_
    cases none_
  · obtain ⟨socket, found, ended⟩ := all
    obtain rfl := Option.some.inj (found.symm.trans here)
    rcases (sound.mine.sound socket here).read ended with failed | ⟨closed, whole⟩
    · exact Or.inr (Or.inr (Or.inl failed))
    · -- All was read, all of it was received, and nothing of it is left to write.
      refine Or.inr (Or.inr (Or.inr (Or.inr ⟨closed, ?_⟩)))
      simp only [StreamEnd.received, StreamEnd.readBytes, here, there, Option.map_some,
        Option.getD_some, RelaySocket.received, RelaySocket.readBytes, drained, List.append_nil,
        whole, List.take_length] at same
      exact same

end ChannelEnds

namespace ForwardedStreams

/-- A socket is given the end of a stream only after all that was sent to it, unless its forward was stopped. -/
structure Faithful (state : ForwardedStreams) : Prop where
  written : ∀ side source destination, state.socketAt side = some source →
    state.socketAt side.other = some destination → destination.written <+: source.readBytes
  finished : ∀ side source destination, state.socketAt side = some source →
    state.socketAt side.other = some destination → destination.finished = true →
      state.stopped = true ∨ destination.written = source.sent

/-- What a socket was written is a prefix of what was read for it, and there is a reason if it was given the end of the stream. -/
structure Explained (state : ForwardedStreams) : Prop where
  written : ∀ side source destination, state.socketAt side = some source →
    state.socketAt side.other = some destination → destination.written <+: source.readBytes
  /-- Unless one close ends both directions, a queue overflows or a socket fails, all that was sent has arrived. -/
  finished : ∀ side source destination, state.socketAt side = some source →
    state.socketAt side.other = some destination → destination.finished = true →
      state.stopped = true ∨ state.overflowed = true ∨ destination.reading = false ∨
        source.failed = true ∨ destination.failed = true ∨
        source.ended = true ∧ destination.written = source.sent

variable {channelId given : UInt32}

/-- A sound connection explains what its sockets were given. -/
theorem Inv.explained {state : ForwardedStreams} (inv : Inv channelId state) : state.Explained := by
  have both := inv.1
  constructor
  · intro side source destination here there
    cases side with
    | server => exact both.written_prefix here there
    | client => exact both.swap.written_prefix here there
  · intro side source destination here there finished
    have cases_ : (state.ends channelId).Excused ∨ destination.reading = false ∨
        source.failed = true ∨ destination.failed = true ∨
          source.ended = true ∧ destination.written = source.sent := by
      cases side with
      | server => exact both.finished_cases here there finished
      | client => exact both.swap.finished_cases here there finished
    rcases cases_ with (overflowed | stopped) | rest
    · exact Or.inr (Or.inl overflowed)
    · exact Or.inl stopped
    · exact Or.inr (Or.inr rest)

/-- Every forwarded connection, whichever end opened it, is explained in every state. -/
theorem explained_run {actions : List ForwardedAction} {last : ForwardedStreams}
    (undisturbed : (forwardedStreams channelId given).Meets (Undisturbed channelId) (new given)
      actions)
    (ran : (forwardedStreams channelId given).run (new given) actions = some last) :
    last.Explained := by
  have kept : ∀ state action next, Inv channelId state → state.Undisturbed channelId action →
      (forwardedStreams channelId given).step state action = some next → Inv channelId next :=
    fun state action next inv met stepped => inv_step inv met stepped
  have inv : Inv channelId last :=
    Machine.run_induction kept (inv_new channelId given) undisturbed ran
  exact inv.explained

/-- A remote forward is requested, and the server accepts the connection with channel 1. -/
def opened : List ForwardedAction :=
  [ .forward (.client (.fwdRequest 7 0 8080 80 true true)) false,
    .forward (.clientFrame none (some 0) false) false,
    .forward (.serverFrame none false) false,
    .forward (.accepts 2 0) false,
    .forward .pfEvent false,
    .forward (.serverFrame (some 0) false) false ]

/-- The client's application still sends when the server's has ended its own direction. -/
def halfClosed : List ForwardedAction :=
  opened ++
    [ .socket .client (.sends [1, 2]),
      .socket .server .ends,
      .socket .server .readsEnd,
      .forward .pfEvent false,
      .socket .server .shutsDown ]

/-- A half-closed connection explains what its sockets were given. -/
theorem explained_run_halfClosed : ∃ last,
    (forwardedStreams 1 0).run (new 0) halfClosed = some last ∧ last.Explained := by
  have ran : ((forwardedStreams 1 0).run (new 0) halfClosed).isSome := by decide +kernel
  obtain ⟨last, ran⟩ := Option.isSome_iff_exists.mp ran
  have undisturbed : (forwardedStreams 1 0).Meets (Undisturbed 1) (new 0) halfClosed := by
    decide +kernel
  exact ⟨last, ran, explained_run undisturbed ran⟩

/-- One close ends both directions, so a half-closed application misses what is still sent to it. -/
theorem halfClose_truncates : ¬ ∀ (channelId given : UInt32) (actions : List ForwardedAction)
    (last : ForwardedStreams),
    (forwardedStreams channelId given).Meets (Undisturbed channelId) (new given) actions →
      (forwardedStreams channelId given).run (new given) actions = some last → last.Faithful := by
  intro faithful
  have truncated : ∃ last, (forwardedStreams 1 0).run (new 0) halfClosed = some last ∧
      last.stopped = false ∧ ∃ source destination, last.client = some source ∧
        last.server = some destination ∧ destination.finished = true ∧
          destination.written ≠ source.sent := by
    refine ⟨_, rfl, rfl, _, _, rfl, rfl, rfl, ?_⟩
    decide
  obtain ⟨last, ran, unstopped, source, destination, here, there, finished, differ⟩ := truncated
  have undisturbed : (forwardedStreams 1 0).Meets (Undisturbed 1) (new 0) halfClosed := by
    decide +kernel
  have kept := faithful 1 0 halfClosed last undisturbed ran
  rcases kept.finished .client source destination here there finished with stopped | same
  · rw [unstopped] at stopped
    cases stopped
  · exact differ same

end ForwardedStreams

end Gritty
