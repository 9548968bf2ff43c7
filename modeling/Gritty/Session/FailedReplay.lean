import Gritty.Session.Rendered
import Gritty.Session.Service

/-! A replay that fails midway, and what its connection is sent afterwards. -/

namespace Gritty

/-- Live output follows only a complete replay, and that is the planned one with its repaint. -/
structure ClientConnection.NoGap (connection : ClientConnection) : Prop where
  live : connection.synced ≠ some true → liveBytes connection.live = []
  replay : connection.synced = some true →
    ∃ redrawn : List Bytes, connection.replay = connection.planned ++ redrawn.map .data

/-- A send that fails while a client is brought in sync. -/
def TaskAction.failsReplay : TaskAction → Bool
  | .replaySend (.failed _) => true
  | .redraw _ (.failed _) => true
  | _ => false

/-- A client is brought in sync that has taken the session over. -/
def TaskPhase.isTakeover : TaskPhase → Bool
  | .replaying _ takeover _ _ => takeover
  | _ => false

/-- No send fails in the replay of a takeover. -/
def SessionTask.SparesTakeover (task : SessionTask) (action : TaskAction) : Prop :=
  -- The replays of clients that find nobody attached may fail anywhere.
  task.phase.isTakeover = true → action.failsReplay = false

namespace SessionTask

/-- How the connection that is served stands, by what the task is doing. -/
def PhaseFits (connections : List ClientConnection) : TaskPhase → Prop
  | .relaying client =>
    ∃ connection, connections[client]? = some connection ∧ connection.synced = some true
  | .replaying client _ pending _ =>
    -- What is still to be sent completes the plan; a repaint starts only after it.
    ∃ connection, connections[client]? = some connection ∧ connection.synced = none ∧
      ∃ redrawn : List Bytes,
        connection.replay ++ pending = connection.planned ++ redrawn.map .data
  | .draining client _ _ =>
    ∃ connection, connections[client]? = some connection ∧ connection.synced = some true
  | _ => True

/-- No connection has a gap, and the served one stands as it should. -/
structure Gapless (task : SessionTask) : Prop where
  noGap : ∀ (index : Nat) (connection : ClientConnection),
    task.connections[index]? = some connection → connection.NoGap
  fits : PhaseFits task.connections task.phase

/-- The connection that is changed is found changed. -/
theorem modify_found {connections : List ClientConnection} {client : Nat}
    {connection : ClientConnection} (change : ClientConnection → ClientConnection)
    (found : connections[client]? = some connection) :
    (connections.modify client change)[client]? = some (change connection) := by
  -- The changed place is the one that is looked up.
  rw [List.getElem?_modify, found]
  simp

/-- A change that leaves no gap in its connection leaves none in any. -/
theorem noGap_modify {connections : List ClientConnection} {client : Nat}
    {change : ClientConnection → ClientConnection}
    (noGap : ∀ (index : Nat) (connection : ClientConnection),
      connections[index]? = some connection → connection.NoGap)
    (kept : ∀ connection, connections[client]? = some connection → (change connection).NoGap)
    (index : Nat) (connection : ClientConnection)
    (found : (connections.modify client change)[index]? = some connection) :
    connection.NoGap := by
  rw [List.getElem?_modify] at found
  obtain ⟨before, there, same⟩ := Option.map_eq_some_iff.mp found
  -- The connection is the changed one, or one that was there before.
  by_cases here : client = index
  · subst here
    rw [if_pos rfl] at same
    exact same ▸ kept before there
  · rw [if_neg here] at same
    exact same ▸ noGap index before there

/-- What is written to a connection that is in sync, or is no live output, leaves no gap. -/
theorem noGap_live {connection : ClientConnection} (noGap : connection.NoGap)
    {frames : List SessionFrame}
    (inSync : connection.synced = some true ∨ liveBytes frames = []) :
    ClientConnection.NoGap { connection with live := connection.live ++ frames } := by
  refine ⟨fun out => ?_, noGap.replay⟩
  show liveBytes (connection.live ++ frames) = []
  rw [SessionOutput.liveBytes_append, noGap.live out, inSync.resolve_left out, List.append_nil]

/-- A connection that is still being brought in sync has been sent no live output. -/
theorem noGap_replay {connection : ClientConnection} (noGap : connection.NoGap)
    (syncing : connection.synced = none) (frames : List SessionFrame) :
    ClientConnection.NoGap { connection with replay := connection.replay ++ frames } := by
  refine ⟨noGap.live, fun inSync => ?_⟩
  -- It is not in sync yet.
  rw [syncing] at inSync
  simp at inSync

/-- A connection that is given up before it is in sync has been sent no live output. -/
theorem noGap_failed {connection : ClientConnection} (noGap : connection.NoGap)
    (syncing : connection.synced = none) :
    ClientConnection.NoGap { connection with synced := some false } := by
  refine ⟨fun _ => noGap.live (by simp [syncing]), fun inSync => ?_⟩
  simp at inSync

@[simp] theorem foldl_readOutput_connections (task : SessionTask) (chunks : List Bytes) :
    (chunks.foldl readOutput task).connections = task.connections := by
  -- Reading output touches no connection, chunk by chunk.
  induction chunks generalizing task with
  | nil => rfl
  | cons chunk later ih => rw [List.foldl_cons, ih, readOutput_connections]

section Steps

variable {task : SessionTask}

/-- Live output on a connection in sync leaves no gap, and the connection in sync. -/
theorem Gapless.relayed (gapless : Gapless task) {client : Nat}
    (served : ∃ connection, task.connections[client]? = some connection ∧
      connection.synced = some true) (frames : List SessionFrame) :
    (∀ (index : Nat) (connection : ClientConnection),
      (task.writeLive client frames).connections[index]? = some connection → connection.NoGap) ∧
    ∃ connection, (task.writeLive client frames).connections[client]? = some connection ∧
      connection.synced = some true := by
  obtain ⟨connection, found, inSync⟩ := served
  constructor
  · apply noGap_modify gapless.noGap
    intro other there
    obtain rfl := Option.some.inj (found.symm.trans there)
    exact noGap_live (gapless.noGap client connection found) (Or.inl inSync)
  · exact ⟨_, modify_found _ found, inSync⟩

/-- A new connection starts without a gap, with its whole plan before it. -/
theorem Gapless.startReplay (chrome : Chrome)
    (noGap : ∀ (index : Nat) (connection : ClientConnection),
      task.connections[index]? = some connection → connection.NoGap)
    (request : AttachRequest) (takeover : Bool) :
    Gapless (task.startReplay chrome request takeover) := by
  constructor
  · intro index connection found
    -- It is one of the earlier connections, or the new one.
    rcases List.mem_append.mp (List.mem_of_getElem? found) with before | new
    · obtain ⟨place, there⟩ := List.mem_iff_getElem?.mp before
      exact noGap place connection there
    · obtain rfl := List.mem_singleton.mp new
      exact ⟨fun _ => rfl, fun inSync => absurd inSync (by simp)⟩
  · refine ⟨_, List.getElem?_concat_length, rfl, [], ?_⟩
    rw [List.map_nil, List.append_nil, List.nil_append]

/-- The next part of a replay is written, and the rest is still to be sent. -/
theorem Gapless.replayed (gapless : Gapless task) {client : Nat} {connection : ClientConnection}
    (found : task.connections[client]? = some connection) (syncing : connection.synced = none)
    (frames : List SessionFrame) :
    (∀ (index : Nat) (connection : ClientConnection),
      (task.writeReplay client frames).connections[index]? = some connection →
        connection.NoGap) ∧
    (task.writeReplay client frames).connections[client]? =
      some { connection with replay := connection.replay ++ frames } := by
  constructor
  · apply noGap_modify gapless.noGap
    intro other there
    obtain rfl := Option.some.inj (found.symm.trans there)
    exact noGap_replay (gapless.noGap client connection found) syncing frames
  · exact modify_found _ found

/-- A replay that fails while nobody else was served leaves its connection without live output. -/
theorem Gapless.replayFailed (gapless : Gapless task) {client : Nat}
    {connection : ClientConnection} (found : task.connections[client]? = some connection)
    (syncing : connection.synced = none) (frames : List SessionFrame) :
    Gapless ((task.writeReplay client frames).replayFailed client false) := by
  obtain ⟨noGap, there⟩ := gapless.replayed found syncing frames
  constructor
  · apply noGap_modify noGap
    intro other also
    obtain rfl := Option.some.inj (there.symm.trans also)
    exact noGap_failed (noGap client _ there) syncing
  · trivial

/-- What is done between the sends changes no connection. -/
theorem Gapless.congr (gapless : Gapless task) {other : SessionTask}
    (connections : other.connections = task.connections)
    (fits : PhaseFits task.connections task.phase → PhaseFits task.connections other.phase) :
    Gapless other := by
  refine ⟨?_, ?_⟩
  · rw [connections]
    exact gapless.noGap
  · rw [connections]
    exact fits gapless.fits

theorem gapless_new (cap : Nat) : Gapless (.new cap) where
  noGap := by
    intro index connection found
    -- The first client needs no replay.
    obtain rfl := List.mem_singleton.mp (List.mem_of_getElem? found)
    exact ⟨fun out => absurd rfl out, fun _ => ⟨[], rfl⟩⟩
  fits := ⟨_, rfl, rfl⟩

/-- As long as the replays of takeovers do not fail, no step leaves a gap. -/
theorem gapless_step {chrome : Chrome} {next : SessionTask} {action : TaskAction}
    (gapless : Gapless task) (spared : task.SparesTakeover action)
    (stepped : task.step chrome action = some next) : Gapless next := by
  have fits := gapless.fits
  cases step_change stepped with
  | heard nonempty awaiting =>
    exact gapless.congr (readOutput_connections _ _) fun fits => by rwa [readOutput_phase]
  | @relayed chunk client nonempty relaying =>
    rw [relaying] at fits
    have read : Gapless (task.readOutput chunk) :=
      gapless.congr (readOutput_connections _ _) fun fits => by rwa [readOutput_phase]
    have served : ∃ connection, (task.readOutput chunk).connections[client]? = some connection ∧
        connection.synced = some true := by rwa [readOutput_connections]
    obtain ⟨noGap, inSync⟩ := read.relayed served [.data chunk]
    refine ⟨noGap, ?_⟩
    show PhaseFits _ (task.readOutput chunk).phase
    rw [readOutput_phase, relaying]
    exact inSync
  | @relayFailed chunk client buffered nonempty relaying =>
    rw [relaying] at fits
    have read : Gapless (task.readOutput chunk) :=
      gapless.congr (readOutput_connections _ _) fun fits => by rwa [readOutput_phase]
    have served : ∃ connection, (task.readOutput chunk).connections[client]? = some connection ∧
        connection.synced = some true := by rwa [readOutput_connections]
    exact ⟨(read.relayed served _).1, trivial⟩
  | left relaying => exact gapless.congr rfl fun _ => trivial
  | pickedUp awaiting => exact Gapless.startReplay chrome gapless.noGap _ false
  | @tookOver request old relaying =>
    apply Gapless.startReplay chrome
    -- The displaced client is told so, which is no output.
    apply noGap_modify gapless.noGap
    intro connection found
    exact noGap_live (gapless.noGap old connection found) (Or.inr rfl)
  | @replayed client takeover frame later after replaying =>
    rw [replaying] at fits
    obtain ⟨connection, found, syncing, redrawn, plan⟩ := fits
    obtain ⟨noGap, there⟩ := gapless.replayed found syncing [frame]
    refine ⟨noGap, _, there, syncing, redrawn, ?_⟩
    rw [← plan, List.append_assoc, List.singleton_append]
  | @replayFailed client takeover buffered frame later after replaying =>
    rw [replaying] at fits
    obtain ⟨connection, found, syncing, -⟩ := fits
    cases takeover with
    | true =>
      have taking : task.phase.isTakeover = true := by rw [replaying]; rfl
      exact absurd (spared taking) (by simp [TaskAction.failsReplay])
    | false => exact gapless.replayFailed found syncing _
  | @redrawn client takeover chunk nonempty replaying =>
    rw [replaying] at fits
    obtain ⟨connection, found, syncing, redrawn, plan⟩ := fits
    have read : Gapless (task.readOutput chunk) :=
      gapless.congr (readOutput_connections _ _) fun fits => by rwa [readOutput_phase]
    have foundRead : (task.readOutput chunk).connections[client]? = some connection := by
      rwa [readOutput_connections]
    obtain ⟨noGap, there⟩ := read.replayed foundRead syncing [.data chunk]
    refine ⟨noGap, ?_⟩
    show PhaseFits _ (task.readOutput chunk).phase
    rw [readOutput_phase, replaying]
    refine ⟨_, there, syncing, redrawn ++ [chunk], ?_⟩
    rw [List.append_nil] at plan ⊢
    rw [plan, List.map_append, List.append_assoc]
    rfl
  | @redrawFailed client takeover buffered chunk nonempty replaying =>
    rw [replaying] at fits
    obtain ⟨connection, found, syncing, -⟩ := fits
    have read : Gapless (task.readOutput chunk) :=
      gapless.congr (readOutput_connections _ _) fun fits => by rwa [readOutput_phase]
    have foundRead : (task.readOutput chunk).connections[client]? = some connection := by
      rwa [readOutput_connections]
    cases takeover with
    | true =>
      have taking : task.phase.isTakeover = true := by rw [replaying]; rfl
      exact absurd (spared taking) (by simp [TaskAction.failsReplay])
    | false => exact read.replayFailed foundRead syncing _
  | @synced client takeover after scrollback replaying =>
    rw [replaying] at fits
    obtain ⟨connection, found, syncing, redrawn, plan⟩ := fits
    rw [List.append_nil] at plan
    refine ⟨?_, ⟨_, modify_found _ found, rfl⟩⟩
    -- The whole plan is out, and so is what the repaint wrote.
    apply noGap_modify gapless.noGap
    intro other there
    obtain rfl := Option.some.inj (found.symm.trans there)
    exact ⟨fun out => absurd rfl out, fun _ => ⟨redrawn, plan⟩⟩
  | exitedDetached awaiting =>
    exact gapless.congr (foldl_readOutput_connections _ _) fun _ => trivial
  | exitedAttached relaying =>
    rw [relaying] at fits
    exact gapless.congr rfl fun _ => fits
  | @drained outcome client chunk later code draining =>
    rw [draining] at fits
    have told : Gapless (task.broadcast (.data chunk)) :=
      gapless.congr (broadcast_connections _ _) fun fits => by rwa [broadcast_phase]
    have served : ∃ connection,
        (task.broadcast (.data chunk)).connections[client]? = some connection ∧
          connection.synced = some true := by rwa [broadcast_connections]
    exact told.relayed served _ |>.elim fun noGap inSync => ⟨noGap, inSync⟩
  | announced complete => exact gapless.congr (broadcast_connections _ _) fun _ => trivial
  | shutDown idle => exact gapless.congr (broadcast_connections _ _) fun _ => trivial
  | subscribed idle => exact gapless.congr rfl id
  | tailSent found up follows => exact gapless.congr rfl id
  | tailLeft found => exact gapless.congr rfl id

end Steps

end SessionTask

/-- In every run in which no takeover's replay fails, no client is sent live output after less than
a complete replay. -/
theorem noGap_along (chrome : Chrome) (cap : Nat) {actions : List TaskAction}
    (spared : (sessionTask chrome cap).Meets SessionTask.SparesTakeover
      (sessionTask chrome cap).init actions) :
    (sessionTask chrome cap).Along
      (fun task => ∀ connection ∈ task.connections, connection.NoGap)
      (sessionTask chrome cap).init actions := by
  have holds : ∀ task : SessionTask, task.Gapless →
      ∀ connection ∈ task.connections, connection.NoGap := by
    intro task gapless connection member
    obtain ⟨index, found⟩ := List.mem_iff_getElem?.mp member
    exact gapless.noGap index connection found
  have preserved : ∀ task action next, SessionTask.Gapless task → task.SparesTakeover action →
      (sessionTask chrome cap).step task action = some next → SessionTask.Gapless next :=
    fun task action next gapless met stepped => SessionTask.gapless_step gapless met stepped
  exact Machine.along_of_meets holds preserved (SessionTask.gapless_new cap) spared

/-- A client that missed the first byte comes back. -/
def comingBack : AttachRequest :=
  { renderedOffset := 0, lineDirty := false, isFresh := false, cols := 80, rows := 24 }

/-- It finds nobody attached, and its replay fails after the new position. Then the program writes. -/
def failedPickup : List TaskAction :=
  [.output [0x61] .sent, .clientGone, .attach comingBack, .replaySend .sent,
    .replaySend (.failed false), .output [0x62] .sent]

/-- A pickup that fails leaves no gap. -/
theorem noGap_along_failedPickup :
    (sessionTask shortChrome 16).Along
      (fun task => ∀ connection ∈ task.connections, connection.NoGap)
      (sessionTask shortChrome 16).init failedPickup := by
  have outside {task : SessionTask} {action : TaskAction} (other : task.phase.isTakeover = false) :
      task.SparesTakeover action := fun taking => absurd (other.symm.trans taking) (by decide)
  exact noGap_along shortChrome 16
    (Machine.meets_cons (outside rfl) rfl (Machine.meets_cons (outside rfl) rfl
      (Machine.meets_cons (outside rfl) rfl (Machine.meets_cons (outside rfl) rfl
        (Machine.meets_cons (outside rfl) rfl (Machine.meets_cons (outside rfl) rfl trivial))))))

/-- It takes the session over instead, and its replay fails in the same place. -/
def failedTakeover : List TaskAction :=
  [.output [0x61] .sent, .attach comingBack, .replaySend .sent, .replaySend (.failed false),
    .output [0x62] .sent]

/-- Then it is sent what the program writes, without what it missed. -/
theorem gap_after_failedTakeover :
    ¬ ∀ (chrome : Chrome) (cap : Nat) (actions : List TaskAction),
      (sessionTask chrome cap).Along
        (fun task => ∀ connection ∈ task.connections, connection.NoGap)
        (sessionTask chrome cap).init actions := by
  intro always
  have along := always shortChrome 16 failedTakeover
  have last := along.last rfl
  have gap := last _ (List.mem_of_getElem? (rfl : _[1]? = some _))
  exact absurd (gap.live (by decide)) (by decide)

end Gritty
