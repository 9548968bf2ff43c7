import Gritty.Relay.Generations

/-! Streams of different client connections stay apart as long as no number is given out while a stale task reports under it. -/

namespace Gritty

namespace ForwardingState

/-- Every listener that may still accept was there before, under the same forward and owner. -/
def SameListeners (before after : List Acceptor) : Prop :=
  ∀ acceptor ∈ after, acceptor.ended = false → ∃ earlier ∈ before,
    earlier.ended = false ∧ earlier.forwardId = acceptor.forwardId ∧ earlier.owner = acceptor.owner

theorem sameListeners_refl (acceptors : List Acceptor) : SameListeners acceptors acceptors :=
  fun acceptor there running => ⟨acceptor, there, running, rfl, rfl⟩

/-- Aborting listeners adds none. -/
theorem sameListeners_abort (acceptors : List Acceptor) (handles : List AcceptorId) :
    SameListeners acceptors (abort acceptors handles) := by
  intro acceptor there running
  obtain ⟨⟨earlier, handle⟩, listed, rfl⟩ := List.mem_map.mp there
  have before : earlier ∈ acceptors :=
    List.mem_of_getElem? (List.mem_zipIdx_iff_getElem?.mp listed)
  -- An abort is only noted: owner, forward and end stay.
  refine ⟨earlier, before, ?_⟩
  by_cases aborted : handles.contains handle = true
  · simp only [aborted, if_true] at running ⊢
    exact ⟨running, trivial, trivial⟩
  · simp only [aborted] at running ⊢
    exact ⟨running, rfl, rfl⟩

/-- The end of a listener adds none. -/
theorem sameListeners_set {acceptors : List Acceptor} (handle : AcceptorId) (ended : Acceptor)
    (hasEnded : ended.ended = true) : SameListeners acceptors (acceptors.set handle ended) := by
  intro acceptor there running
  rcases List.mem_or_eq_of_mem_set there with before | rfl
  · exact ⟨acceptor, before, running, rfl, rfl⟩
  · rw [hasEnded] at running
    exact absurd running (by decide)

/-- The port forwards of the attached client are safe from the tasks and listeners of others. -/
structure PfSafe (client : ClientId) (pf : PortForwardTable)
    (tasks : RelayTasks PortForwardEvent) (acceptors : List Acceptor) : Prop where
  sound : tasks.Sound PortForwardEvent.channelId client fun channelId =>
    (pf.channels.lookup channelId).map (·.2)
  /-- A connection waiting under a forward of the client was accepted for the client. -/
  accepted : ∀ source forwardId channelId conn,
    (source, PortForwardEvent.accepted forwardId channelId conn) ∈ tasks.queue →
      conn = source ∧ ((pf.forwards.lookup forwardId).isSome = true →
        tasks.ownerOf source = some client)
  /-- A listener that may still accept under a forward of the client is the client's. -/
  listeners : ∀ acceptor ∈ acceptors, acceptor.ended = false →
    (pf.forwards.lookup acceptor.forwardId).isSome = true → acceptor.owner = client

namespace PfSafe

variable {client : ClientId} {pf pf' : PortForwardTable} {tasks : RelayTasks PortForwardEvent}
  {acceptors acceptors' : List Acceptor}

/-- Closing channels, stopping forwards and ending listeners is safe. -/
theorem release (safe : PfSafe client pf tasks acceptors)
    (channels : ∀ channelId entry, pf'.channels.lookup channelId = some entry →
      pf.channels.lookup channelId = some entry)
    (forwards : ∀ forwardId, (pf'.forwards.lookup forwardId).isSome = true →
      (pf.forwards.lookup forwardId).isSome = true)
    (same : SameListeners acceptors acceptors') : PfSafe client pf' tasks acceptors' where
  sound := by
    apply safe.sound.release
    intro channelId conn held
    obtain ⟨entry, found, rfl⟩ := Option.map_eq_some_iff.mp held
    rw [channels channelId entry found, Option.map_some]
  accepted := by
    intro source forwardId channelId conn queued
    obtain ⟨itself, owned⟩ := safe.accepted source forwardId channelId conn queued
    exact ⟨itself, fun found => owned (forwards forwardId found)⟩
  listeners := by
    intro acceptor there running found
    obtain ⟨earlier, before, ran, under, owner⟩ := same acceptor there running
    rw [← owner]
    apply safe.listeners earlier before ran
    rw [under]
    exact forwards acceptor.forwardId found

/-- With every forward and channel forgotten, any client may attach. -/
theorem teardown (safe : PfSafe client pf tasks acceptors) (other : ClientId)
    (acceptors' : List Acceptor) : PfSafe other pf.teardown tasks acceptors' where
  sound := safe.sound.teardown other
  accepted := by
    intro source forwardId channelId conn queued
    exact ⟨(safe.accepted source forwardId channelId conn queued).1, fun found =>
      absurd found (by simp [PortForwardTable.teardown])⟩
  listeners := fun _ _ _ found => absurd found (by simp [PortForwardTable.teardown])

/-- Tasks that queue no new accepted connection and keep their owners are safe for the rest. -/
theorem retask (safe : PfSafe client pf tasks acceptors) {after : RelayTasks PortForwardEvent}
    (sound : after.Sound PortForwardEvent.channelId client fun channelId =>
      (pf.channels.lookup channelId).map (·.2))
    (owners : ∀ conn owner, tasks.ownerOf conn = some owner → after.ownerOf conn = some owner)
    (fewer : ∀ source forwardId channelId conn,
      (source, PortForwardEvent.accepted forwardId channelId conn) ∈ after.queue →
        (source, PortForwardEvent.accepted forwardId channelId conn) ∈ tasks.queue) :
    PfSafe client pf after acceptors where
  sound := sound
  accepted := by
    intro source forwardId channelId conn queued
    obtain ⟨itself, owned⟩ :=
      safe.accepted source forwardId channelId conn (fewer _ _ _ _ queued)
    exact ⟨itself, fun found => owners source client (owned found)⟩
  listeners := safe.listeners

/-- The client starts a task of its own. -/
theorem spawn (safe : PfSafe client pf tasks acceptors) (channelId : UInt32) :
    PfSafe client pf (tasks.spawn client channelId) acceptors := by
  apply safe.retask (safe.sound.spawn (Or.inl rfl))
  · exact fun _ _ owned => RelayTasks.spawn_ownerOf owned
  · exact fun _ _ _ _ queued => queued

/-- Registering a channel of a forward for a connection of the client. -/
theorem register (safe : PfSafe client pf tasks acceptors) {forwardId channelId : UInt32}
    {conn : ConnId} (owned : tasks.ownerOf conn = some client)
    (fresh : tasks.hasStale client channelId = false) :
    PfSafe client (pf.register forwardId channelId conn) tasks acceptors where
  sound := by
    apply safe.sound.hold owned fresh
    intro other holder held
    obtain ⟨entry, found, rfl⟩ := Option.map_eq_some_iff.mp held
    rcases PortForwardTable.register_lookup found with given | before
    · exact Or.inl given
    · exact Or.inr (by rw [before, Option.map_some])
  accepted := by
    intro source other id holder queued
    obtain ⟨itself, owns⟩ := safe.accepted source other id holder queued
    exact ⟨itself, fun found => owns (by rwa [PortForwardTable.register_isSome] at found)⟩
  listeners := by
    intro acceptor there running found
    rw [PortForwardTable.register_isSome] at found
    exact safe.listeners acceptor there running found

/-- A new forward of the client, when no listener of another client waits under its number. -/
theorem request (safe : PfSafe client pf tasks acceptors) {forwardId : UInt32}
    (channels : pf'.channels = pf.channels)
    (forwards : ∀ other, (pf'.forwards.lookup other).isSome = true →
      other = forwardId ∨ (pf.forwards.lookup other).isSome = true)
    (ownAccepted : ∀ source channelId conn,
      (source, PortForwardEvent.accepted forwardId channelId conn) ∈ tasks.queue →
        tasks.ownerOf source = some client)
    (ownListeners : ∀ acceptor ∈ acceptors', acceptor.ended = false →
      acceptor.forwardId = forwardId → acceptor.owner = client)
    (others : ∀ acceptor ∈ acceptors', acceptor.forwardId ≠ forwardId → acceptor ∈ acceptors) :
    PfSafe client pf' tasks acceptors' where
  sound := by
    rw [channels]
    exact safe.sound
  accepted := by
    intro source other channelId conn queued
    obtain ⟨itself, owned⟩ := safe.accepted source other channelId conn queued
    refine ⟨itself, fun found => ?_⟩
    rcases forwards other found with rfl | before
    · exact ownAccepted source channelId conn queued
    · exact owned before
  listeners := by
    intro acceptor there running found
    by_cases same : acceptor.forwardId = forwardId
    · exact ownListeners acceptor there running same
    · -- A listener of another forward was there before, and so was its forward.
      rcases forwards acceptor.forwardId found with equal | before
      · exact absurd equal same
      · exact safe.listeners acceptor (others acceptor there same) running before

/-- A connection accepted by a listener that still runs. -/
theorem accept (safe : PfSafe client pf tasks acceptors) {acceptor : Acceptor}
    (there : acceptor ∈ acceptors) (running : acceptor.ended = false) {channelId : UInt32}
    (apart : acceptor.owner = client ∨ (pf.channels.lookup channelId).map (·.2) = none)
    (channels : pf'.channels = pf.channels) (forwards : pf'.forwards = pf.forwards) :
    PfSafe client pf' ((tasks.spawn acceptor.owner channelId).push tasks.next
      (.accepted acceptor.forwardId channelId tasks.next)) acceptors where
  sound := by
    rw [channels]
    have live : (tasks.spawn acceptor.owner channelId).Live tasks.next
        { owner := acceptor.owner, channelId, reading := true } := by
      refine ⟨?_, Or.inl rfl⟩
      simp [RelayTasks.spawn, RelayTasks.next]
    exact (safe.sound.spawn apart).push live rfl
  accepted := by
    intro source forwardId id conn queued
    rw [forwards]
    rcases List.mem_append.mp queued with before | last
    · obtain ⟨itself, owned⟩ := safe.accepted source forwardId id conn before
      exact ⟨itself, fun found => RelayTasks.spawn_ownerOf (owned found)⟩
    · -- The connection just accepted belongs to the listener's client.
      obtain ⟨rfl, same⟩ := Prod.mk.inj (List.mem_singleton.mp last)
      obtain ⟨rfl, rfl, rfl⟩ := PortForwardEvent.accepted.inj same
      refine ⟨rfl, fun found => ?_⟩
      rw [← safe.listeners acceptor there running found]
      exact RelayTasks.spawn_next_owner tasks acceptor.owner id
  listeners := by
    rw [forwards]
    exact safe.listeners

end PfSafe

/-- The streams of the attached client are safe from everything its predecessors left behind. -/
structure Separated (state : ForwardingState) : Prop where
  tunnel : state.tunnelTasks.Sound TunnelEvent.channelId state.client state.tunnelHolder
  pf : PfSafe state.client state.pf state.pfTasks state.acceptors
  /-- Without a client nothing is held. -/
  detached : state.attached = false → state.tunnel.channels = ∅ ∧ state.pf.teardown = state.pf
  neverMixed : NeverMixed state

/-- A frame sent for a connection of the client, about a channel the client holds, is its own. -/
theorem ofFrame_own {opener holder : Option ClientId} {receiver : ClientId} {frame : Frame}
    {effect : Effect} (opened : opener = some receiver) (held : holder = some receiver)
    (made : Effect.ofFrame opener holder receiver frame = some effect) : effect.Own := by
  subst opened held
  cases frame <;> simp only [Effect.ofFrame, Option.some.injEq, reduceCtorEq] at made
  all_goals subst made; rfl

/-- In a new relay all is separated. -/
theorem separated_new : Separated .new where
  tunnel :=
    { queued := fun _ _ queued => absurd queued (by simp [new, RelayTasks.new])
      held := fun _ _ held => absurd held (by simp [new, tunnelHolder, TunnelRelayState.new])
      live := fun _ _ live => absurd live.1 (by simp [new, RelayTasks.new]) }
  pf :=
    { sound :=
        { queued := fun _ _ queued => absurd queued (by simp [new, RelayTasks.new])
          held := fun _ _ held => absurd held (by simp [new, PortForwardTable.new])
          live := fun _ _ live => absurd live.1 (by simp [new, RelayTasks.new]) }
      accepted := fun _ _ _ _ queued => absurd queued (by simp [new, RelayTasks.new])
      listeners := fun _ there => absurd there (by simp [new]) }
  detached := fun _ => ⟨rfl, rfl⟩
  neverMixed := fun _ there => absurd there (by simp [new])

section Steps

variable {state : ForwardingState}

/-- The old client goes, whoever may come next. -/
theorem separated_detach (safe : Separated state) (client : ClientId) (attached : Bool)
    (numbers : ClientNumbers) :
    Separated { state.detach with client, attached, numbers } where
  tunnel := by
    apply (safe.tunnel.teardown client).release
    intro channelId conn held
    simp [detach, tunnelHolder, TunnelRelayState.teardown, TunnelRelayState.new] at held
  pf := safe.pf.teardown client _
  detached := fun _ => ⟨rfl, rfl⟩
  neverMixed := safe.neverMixed

/-- A client attaches, with or without one to take the session from. -/
theorem separated_attach (safe : Separated state) : Separated state.attach := by
  unfold attach
  by_cases attached : state.attached = true
  · rw [if_pos attached]
    exact separated_detach safe (state.client + 1) true .new
  · rw [if_neg attached]
    -- Nothing is held since the last client went.
    obtain ⟨noTunnels, noForwards⟩ := safe.detached (by simpa using attached)
    constructor
    · apply (safe.tunnel.teardown (state.client + 1)).release
      intro channelId conn held
      simp [tunnelHolder, noTunnels] at held
    · have emptied := safe.pf.teardown (state.client + 1) state.acceptors
      rwa [noForwards] at emptied
    · exact fun gone => absurd gone (by simp)
    · exact safe.neverMixed

/-- Tunnel channels may close, and nothing else changes. -/
theorem separated_release (safe : Separated state) (attached : state.attached = true)
    {tunnel : TunnelRelayState} (fewer : ∀ channelId conn,
      tunnel.channels.lookup channelId = some conn →
        state.tunnel.channels.lookup channelId = some conn) :
    Separated { state with tunnel } where
  tunnel := safe.tunnel.release fewer
  pf := safe.pf
  detached := fun gone => absurd gone (by simp [attached])
  neverMixed := safe.neverMixed

/-- The port forwards change in a way that is safe for the client, and nothing else changes. -/
theorem separated_pf (safe : Separated state) (attached : state.attached = true)
    {pf : PortForwardTable} {pfTasks : RelayTasks PortForwardEvent} {acceptors : List Acceptor}
    (pfSafe : PfSafe state.client pf pfTasks acceptors) :
    Separated { state with pf, pfTasks, acceptors } where
  tunnel := safe.tunnel
  pf := pfSafe
  detached := fun gone => absurd gone (by simp [attached])
  neverMixed := safe.neverMixed

/-- Closing a channel leaves the forwards safe. -/
theorem pfSafe_close (safe : Separated state) (channelId : UInt32) :
    PfSafe state.client (state.pf.close channelId) state.pfTasks state.acceptors := by
  apply safe.pf.release
  · exact fun _ _ left => PortForwardTable.close_lookup left
  · intro forwardId found
    rwa [PortForwardTable.close_isSome] at found
  · exact sameListeners_refl state.acceptors

/-- With no stale listener, a connection waiting under a forward is the client's. -/
theorem owner_of_fresh {forwardId channelId : UInt32} {source conn : ConnId}
    (fresh : state.hasStaleListener forwardId = false)
    (queued : (source, PortForwardEvent.accepted forwardId channelId conn) ∈ state.pfTasks.queue) :
    state.pfTasks.ownerOf source = some state.client := by
  rw [hasStaleListener, Bool.or_eq_false_iff] at fresh
  have counted := List.any_eq_false.mp fresh.2 _ queued
  simpa using counted

/-- With no stale listener, a listener that may still accept under a forward is the client's. -/
theorem listener_of_fresh {forwardId : UInt32} {acceptor : Acceptor}
    (fresh : state.hasStaleListener forwardId = false) (there : acceptor ∈ state.acceptors)
    (running : acceptor.ended = false) (under : acceptor.forwardId = forwardId) :
    acceptor.owner = state.client := by
  rw [hasStaleListener, Bool.or_eq_false_iff] at fresh
  have counted := List.any_eq_false.mp fresh.1 acceptor there
  simpa [running, under] using counted

/-- A client frame gives numbers to connections and forwards of that client. -/
theorem separated_clientFrame (safe : Separated state) (attached : state.attached = true)
    (frame : Frame) (succeeds writerFull : Bool)
    (met : NoStaleNumber state (.clientFrame frame succeeds writerFull)) :
    Separated (state.handleClientFrame frame succeeds writerFull) := by
  cases frame with
  | openForward => exact ⟨safe.tunnel, safe.pf, safe.detached, safe.neverMixed⟩
  | tunnelOpen channelId =>
    simp only [handleClientFrame]
    split
    · next opens =>
      -- The new connection is the client's, and nothing stale reports under its number.
      have fresh := met opens
      rw [← RelayTasks.spawn_hasStale state.tunnelTasks state.client channelId] at fresh
      refine ⟨?_, safe.pf, fun gone => absurd gone (by simp [attached]), safe.neverMixed⟩
      have started : (state.tunnelTasks.spawn state.client channelId).Sound
          TunnelEvent.channelId state.client state.tunnelHolder := safe.tunnel.spawn (Or.inl rfl)
      apply started.hold (RelayTasks.spawn_next_owner _ _ _) fresh
      exact fun _ _ found => TunnelRelayState.tunnelOpen_some_lookup found
    · apply separated_release safe attached
      intro other conn found
      rwa [TunnelRelayState.tunnelOpen_none_channels] at found
  | tunnelData channelId bytes =>
    exact separated_release safe attached fun _ _ left => TunnelRelayState.tunnelData_lookup left
  | tunnelClose channelId =>
    exact separated_release safe attached fun _ _ left => TunnelRelayState.close_lookup left
  | portForwardOpen forwardId channelId targetPort =>
    simp only [handleClientFrame]
    split
    · next opens =>
      have fresh := met opens
      rw [← RelayTasks.spawn_hasStale state.pfTasks state.client channelId] at fresh
      apply separated_pf safe attached
      have started := safe.pf.spawn channelId
      rw [Bool.and_eq_true] at opens
      rw [PortForwardTable.portForwardOpen, if_pos opens.1]
      exact started.register (RelayTasks.spawn_next_owner _ _ _) fresh
    · apply separated_pf safe attached
      rw [PortForwardTable.portForwardOpen_none]
      exact safe.pf
  | portForwardData channelId bytes =>
    apply separated_pf safe attached
    rcases PortForwardTable.portForwardData_cases state.pf channelId writerFull with
      closed | same
    · rw [closed]
      exact pfSafe_close safe channelId
    · rw [same]
      exact safe.pf
  | portForwardClose channelId =>
    exact separated_pf safe attached (pfSafe_close safe channelId)
  | portForwardStop forwardId =>
    apply separated_pf safe attached
    apply safe.pf.release
    · exact fun _ _ left => PortForwardTable.portForwardStop_lookup left
    · exact fun _ found => PortForwardTable.portForwardStop_isSome found
    · exact sameListeners_abort state.acceptors _
  | portForwardRequest forwardId direction listenPort targetPort =>
    simp only [handleClientFrame]
    apply separated_pf safe attached
    by_cases adds : direction ≠ 0 ∨ succeeds = true
    · -- The forward is new, and so is its listener if it has one.
      have fresh := met adds
      apply safe.pf.request (PortForwardTable.portForwardRequest_channels _ _ _ _ _)
      · intro other found
        exact (PortForwardTable.portForwardRequest_isSome found).imp And.left id
      · intro source channelId conn queued
        exact owner_of_fresh fresh queued
      · intro acceptor there running under
        split at there
        · rcases List.mem_append.mp there with before | last
          · exact listener_of_fresh fresh before running under
          · rw [List.mem_singleton.mp last]
        · exact listener_of_fresh fresh there running under
      · intro acceptor there other
        split at there
        · rcases List.mem_append.mp there with before | last
          · exact before
          · rw [List.mem_singleton.mp last] at other
            exact absurd rfl other
        · exact there
    · -- The port could not be bound.
      obtain ⟨here, fails⟩ := not_or.mp adds
      have refused : succeeds = false := by simpa using fails
      apply safe.pf.release
      · intro channelId entry found
        rwa [PortForwardTable.portForwardRequest_channels] at found
      · intro other found
        rcases PortForwardTable.portForwardRequest_isSome found with ⟨_, added⟩ | before
        · exact absurd added (by simpa [refused] using here)
        · exact before
      · rw [refused, Bool.and_false]
        exact sameListeners_refl state.acceptors
  | _ => exact safe

/-- The channels of the popped queue are still safe, and the event taken from it came from its source. -/
theorem separated_popTunnel (safe : Separated state) {entry : ConnId × TunnelEvent}
    {queue : List (ConnId × TunnelEvent)} (queued : state.tunnelTasks.queue = entry :: queue) :
    Separated { state with tunnelTasks := { state.tunnelTasks with queue } } where
  tunnel := safe.tunnel.pop fun other later => by
    rw [queued]
    exact List.mem_cons_of_mem entry later
  pf := safe.pf
  detached := safe.detached
  neverMixed := safe.neverMixed

/-- An event that is taken off the queue leaves all separated. -/
theorem separated_popPf (safe : Separated state) {entry : ConnId × PortForwardEvent}
    {queue : List (ConnId × PortForwardEvent)} (queued : state.pfTasks.queue = entry :: queue) :
    Separated { state with pfTasks := { state.pfTasks with queue } } where
  tunnel := safe.tunnel
  pf := by
    have fewer : ∀ other ∈ queue, other ∈ state.pfTasks.queue := by
      intro other later
      rw [queued]
      exact List.mem_cons_of_mem entry later
    apply safe.pf.retask (safe.pf.sound.pop fewer)
    · exact fun _ _ owned => owned
    · exact fun _ _ _ _ later => fewer _ later
  detached := safe.detached
  neverMixed := safe.neverMixed

/-- An event of a tunnel connection has an effect only on the client of that connection. -/
theorem separated_tunnelEvent (safe : Separated state) {source : ConnId} {event : TunnelEvent}
    (own : (state.tunnelHolder event.channelId).isSome = true →
      state.tunnelTasks.ownerOf source = some state.client) :
    Separated (state.handleTunnelEvent source event) := by
  unfold handleTunnelEvent
  split
  · next attached =>
    refine ⟨?_, safe.pf, fun gone => absurd gone (by simp [attached]), ?_⟩
    · exact safe.tunnel.release fun _ _ left => TunnelRelayState.handleTunnelEvent_lookup left
    · intro effect there
      rcases List.mem_append.mp there with before | made
      · exact safe.neverMixed effect before
      · -- A frame was made, so the channel is held, and its holder is the client's.
        obtain ⟨frame, sent, makes⟩ := List.mem_filterMap.mp made
        have found := TunnelRelayState.handleTunnelEvent_frames sent
        obtain ⟨target, held⟩ := Option.isSome_iff_exists.mp found
        apply ofFrame_own (own found) _ makes
        rw [tunnelHolder, held, Option.bind_some]
        exact safe.tunnel.held event.channelId target held
  · exact safe

/-- An event of a port forward has an effect only on the client of its connection. -/
theorem separated_pfEvent (safe : Separated state) {source : ConnId} {event : PortForwardEvent}
    (own : (state.pfHolder event.channelId).isSome = true →
      state.pfTasks.ownerOf source = some state.client)
    (accepts : ∀ forwardId channelId conn, event = .accepted forwardId channelId conn →
      (state.pf.forwards.lookup forwardId).isSome = true →
        state.pfTasks.ownerOf conn = some state.client ∧
          state.pfTasks.hasStale state.client channelId = false) :
    Separated (state.handlePfEvent source event) := by
  unfold handlePfEvent
  split
  · next attached =>
    refine ⟨safe.tunnel, ?_, fun gone => absurd gone (by simp [attached]), ?_⟩
    · cases event with
      | accepted forwardId channelId conn =>
        simp only [PortForwardTable.handlePfEvent]
        split
        · next forward found =>
          obtain ⟨owned, fresh⟩ := accepts forwardId channelId conn rfl (by rw [found]; rfl)
          exact safe.pf.register owned fresh
        · exact safe.pf
      | data channelId bytes =>
        simp only [PortForwardTable.handlePfEvent]
        split <;> exact safe.pf
      | closed channelId =>
        simp only [PortForwardTable.handlePfEvent]
        split
        · exact pfSafe_close safe channelId
        · exact safe.pf
    · intro effect there
      rcases List.mem_append.mp there with before | made
      · exact safe.neverMixed effect before
      · obtain ⟨frame, sent, makes⟩ := List.mem_filterMap.mp made
        rcases PortForwardTable.handlePfEvent_frames sent with ⟨_, _, _, rfl⟩ | found
        · -- Announcing an accepted connection carries none of its bytes.
          exact absurd makes (by simp [Effect.ofFrame])
        · obtain ⟨entry, held⟩ := Option.isSome_iff_exists.mp found
          have holds : state.pfHolder event.channelId = some entry.2 := by
            rw [pfHolder, held, Option.map_some]
          apply ofFrame_own (own (by rw [holds, Option.isSome_some])) _ makes
          rw [holds, Option.bind_some]
          exact safe.pf.sound.held event.channelId entry.2 holds
  · exact safe

/-- No action that gives out no stale number mixes streams, now or later. -/
theorem separated_step (state : ForwardingState) (action : ForwardingAction)
    (next : ForwardingState) (safe : Separated state) (met : NoStaleNumber state action)
    (stepped : state.step action = some next) : Separated next := by
  cases action with
  | attach =>
    cases stepped
    exact separated_attach safe
  | detach =>
    obtain ⟨-, rfl⟩ := of_guarded stepped
    exact separated_detach safe state.client false state.numbers
  | handOutTunnelId =>
    cases stepped
    exact ⟨safe.tunnel, safe.pf, safe.detached, safe.neverMixed⟩
  | handOutPortForwardId =>
    cases stepped
    exact ⟨safe.tunnel, safe.pf, safe.detached, safe.neverMixed⟩
  | clientFrame frame succeeds writerFull =>
    obtain ⟨taken, rfl⟩ := of_guarded stepped
    rw [Bool.and_eq_true] at taken
    exact separated_clientFrame safe taken.1 frame succeeds writerFull met
  | openUrl url redirectPort =>
    obtain ⟨attached, rfl⟩ := of_guarded stepped
    apply separated_release safe attached
    intro channelId conn found
    rwa [TunnelRelayState.handleOpenEvent_channels] at found
  | idleDeadline =>
    obtain ⟨taken, rfl⟩ := of_guarded stepped
    rw [Bool.and_eq_true] at taken
    exact separated_release safe taken.1 fun _ _ left => TunnelRelayState.idleExpired_lookup left
  | accept handle =>
    simp only [step] at stepped
    split at stepped
    · next acceptor found =>
      split at stepped
      · simp at stepped
      · next running =>
        cases stepped
        refine ⟨safe.tunnel, ?_, ?_, safe.neverMixed⟩
        · -- A stale listener may only take a number that nobody holds.
          have apart : acceptor.owner = state.client ∨
              state.pfHolder state.pf.nextChannelId = none := by
            by_cases own : acceptor.owner = state.client
            · exact Or.inl own
            · exact Or.inr (met acceptor found own)
          exact safe.pf.accept (List.mem_of_getElem? found) (by simpa using running) apart rfl rfl
        · intro gone
          obtain ⟨noTunnels, noForwards⟩ := safe.detached gone
          refine ⟨noTunnels, ?_⟩
          simp only [accept, PortForwardTable.teardown] at noForwards ⊢
          rw [← noForwards]
    · simp at stepped
  | acceptorEnds handle =>
    simp only [step] at stepped
    split at stepped
    · next acceptor found =>
      obtain ⟨-, rfl⟩ := of_guarded stepped
      refine ⟨safe.tunnel, ?_, safe.detached, safe.neverMixed⟩
      apply safe.pf.release (fun _ _ left => left) (fun _ found => found)
      exact sameListeners_set handle { acceptor with ended := true } rfl
    · simp at stepped
  | tunnelRead conn bytes =>
    simp only [step] at stepped
    split at stepped
    · simp at stepped
    · obtain ⟨tunnelTasks, read, rfl⟩ := Option.map_eq_some_iff.mp stepped
      exact ⟨safe.tunnel.readData (fun _ => rfl) read, safe.pf, safe.detached, safe.neverMixed⟩
  | tunnelReadEnd conn =>
    obtain ⟨tunnelTasks, read, rfl⟩ := Option.map_eq_some_iff.mp stepped
    exact ⟨safe.tunnel.readEnd (fun _ => rfl) read, safe.pf, safe.detached, safe.neverMixed⟩
  | tunnelEvent =>
    simp only [step] at stepped
    split at stepped
    · next source event queue queued =>
      cases stepped
      apply separated_tunnelEvent (separated_popTunnel safe queued)
      intro held
      exact safe.tunnel.source_owner (by rw [queued]; exact List.mem_cons_self) held
    · simp at stepped
  | pfRead conn bytes =>
    simp only [step] at stepped
    split at stepped
    · simp at stepped
    · obtain ⟨pfTasks, read, rfl⟩ := Option.map_eq_some_iff.mp stepped
      refine ⟨safe.tunnel, ?_, safe.detached, safe.neverMixed⟩
      apply safe.pf.retask (safe.pf.sound.readData (fun _ => rfl) read)
      · obtain ⟨_, rfl⟩ := RelayTasks.readData_eq read
        exact fun _ _ owned => owned
      · obtain ⟨_, rfl⟩ := RelayTasks.readData_eq read
        intro source forwardId channelId accepted queued
        exact (List.mem_append.mp queued).resolve_right (by simp)
  | pfReadEnd conn =>
    obtain ⟨pfTasks, read, rfl⟩ := Option.map_eq_some_iff.mp stepped
    refine ⟨safe.tunnel, ?_, safe.detached, safe.neverMixed⟩
    apply safe.pf.retask (safe.pf.sound.readEnd (fun _ => rfl) read)
    · intro other owner owned
      rwa [RelayTasks.readEnd_ownerOf read]
    · obtain ⟨_, queue⟩ := RelayTasks.readEnd_queue read
      intro source forwardId channelId accepted queued
      rw [queue] at queued
      exact (List.mem_append.mp queued).resolve_right (by simp)
  | pfEvent =>
    simp only [step] at stepped
    split at stepped
    · next source event queue queued =>
      cases stepped
      have first : (source, event) ∈ state.pfTasks.queue := by
        rw [queued]
        exact List.mem_cons_self
      apply separated_pfEvent (separated_popPf safe queued)
      · exact fun held => safe.pf.sound.source_owner first held
      · rintro forwardId channelId conn rfl found
        obtain ⟨rfl, owned⟩ := safe.pf.accepted source forwardId channelId conn first
        refine ⟨owned found, ?_⟩
        have fresh := met conn forwardId channelId conn (by rw [queued]; rfl) found
        apply RelayTasks.pop_hasStale fresh
        intro entry later
        rw [queued]
        exact List.mem_cons_of_mem _ later
    · simp at stepped

end Steps

end ForwardingState

open ForwardingState

/--
In every run that gives out no stale number, streams of different client connections never mix.

A number is stale while a task of an earlier client connection still reports under it.
-/
theorem neverMixed_along (actions : List ForwardingAction)
    (meets : forwarding.Meets NoStaleNumber forwarding.init actions) :
    forwarding.Along NeverMixed forwarding.init actions := by
  apply Machine.along_of_meets _ separated_step separated_new meets
  exact fun state safe => safe.neverMixed

/-- A callback of the first client ends before the second client reuses its channel number. -/
theorem neverMixed_along_two :
    forwarding.Along NeverMixed forwarding.init
      [.attach, .handOutTunnelId, .clientFrame .openForward true false,
        .openUrl "first" (some 8080), .clientFrame (.tunnelOpen 1) true false,
        .tunnelReadEnd 0, .tunnelEvent, .attach, .handOutTunnelId,
        .clientFrame .openForward true false, .openUrl "second" (some 8081),
        .clientFrame (.tunnelOpen 1) true false, .tunnelRead 1 [7], .tunnelEvent] := by
  apply neverMixed_along
  -- Only the two opens ask for anything, and the task of the first one is over at the second.
  repeat' first
    | exact trivial
    | refine Machine.meets_cons trivial rfl ?_
    | refine Machine.meets_cons (fun _ => rfl) rfl ?_

/-- A callback of the first client still runs when the second client reuses its channel number. -/
def staleCallback : List ForwardingAction :=
  [.attach, .handOutTunnelId, .clientFrame .openForward true false,
    .openUrl "first" (some 8080), .clientFrame (.tunnelOpen 1) true false,
    -- The second client takes over, with a callback and a channel of its own.
    .attach, .handOutTunnelId, .clientFrame .openForward true false,
    .openUrl "second" (some 8081), .clientFrame (.tunnelOpen 1) true false,
    -- The first connection answers and ends.
    .tunnelRead 0 [7], .tunnelEvent, .tunnelReadEnd 0, .tunnelEvent]

/-- The answer goes to the second client, and its end closes the second client's channel. -/
theorem streams_mixed_after_staleCallback :
    (∃ last, forwarding.run forwarding.init staleCallback = some last ∧
      last.effects = [.sent (some 1) 2, .closed (some 1) (some 2)]) ∧
    ¬ ∀ actions last, forwarding.run forwarding.init actions = some last → NeverMixed last := by
  refine ⟨⟨_, rfl, rfl⟩, fun always => ?_⟩
  have apart := always staleCallback _ rfl (.sent (some 1) 2) (by decide)
  exact absurd apart (by simp [Effect.Own])

end Gritty
