import Gritty.Lib.Broadcast
import Gritty.Session.Offsets

/-! The task of a session, send by send: replays that fail midway, tail clients, and the shell's exit. -/

namespace Gritty

/-- Output events that tail clients can fall behind before they lose some. -/
def tailCapacity : Nat := 256

/-- How a timed send ends. -/
inductive SendOutcome where
  | sent
  /-- It fails or times out. What timed out may stay in the connection's buffer and go out later. -/
  | failed (buffered : Bool)
  deriving DecidableEq

/-- What a send leaves on a connection, now or later. -/
def SendOutcome.written {α : Type} (outcome : SendOutcome) (frame : α) : List α :=
  match outcome with
  | .sent => [frame]
  | .failed buffered => if buffered then [frame] else []

/-- What tail clients are told. -/
inductive TailEvent where
  | data (chunk : Bytes)
  | exit (code : Int32)
  | shutdown
  deriving DecidableEq

/-- A connection of the client the session serves, or served. -/
structure ClientConnection where
  /-- The frames its replay was to send first, for the statements below. -/
  planned : List SessionFrame
  /-- What the replay has written. -/
  replay : List SessionFrame
  /-- Whether the replay is complete, once it has ended. -/
  synced : Option Bool
  /-- What was written to it after its replay. -/
  live : List SessionFrame
  deriving DecidableEq

/-- A client that watches the output. -/
structure TailClient where
  /-- What of the retained output it is still to be sent. -/
  snapshot : List Bytes
  /-- The next event it reads. -/
  position : Nat
  /-- What was written to it. -/
  sent : List Frame
  up : Bool
  deriving DecidableEq

/-- What the session task is doing. -/
inductive TaskPhase where
  /-- No client is attached. -/
  | awaitingClient
  | relaying (client : Nat)
  /-- A client is brought in sync. A takeover happens while another client is relayed to. -/
  | replaying (client : Nat) (takeover : Bool) (pending : List SessionFrame) (after : AfterSends)
  /-- The shell has exited while a client was attached: the last output is handed on. -/
  | draining (client : Nat) (chunks : List Bytes) (code : Int32)
  /-- The shell has exited while no client was attached, and all its output is handed on. -/
  | exiting (code : Int32)
  | ended
  deriving DecidableEq

/-- A session's task, with its clients. -/
structure SessionTask where
  output : SessionOutput
  /-- All output that was read, for the statements below. -/
  stream : Bytes
  phase : TaskPhase
  connections : List ClientConnection
  /-- Everything that was broadcast to tail clients. -/
  events : List TailEvent
  tails : List TailClient
  deriving DecidableEq

/-- What can happen next. -/
inductive TaskAction where
  /-- A chunk of output is read. An attached client is sent it. -/
  | output (chunk : Bytes) (outcome : SendOutcome)
  /-- The attached client closes its connection, sends an error, or falls silent. -/
  | clientGone
  /-- A client attaches, and takes the session over if another one is attached. -/
  | attach (request : AttachRequest)
  /-- The next frame of a replay is sent. -/
  | replaySend (outcome : SendOutcome)
  /-- The repaint writes while its replay waits for it. -/
  | redraw (chunk : Bytes) (outcome : SendOutcome)
  /-- Everything a replay had to send is out. -/
  | replayEnd
  /-- The shell exits, or closes its terminal. What it wrote last is read. -/
  | shellExit (chunks : List Bytes) (code : Int32)
  /-- The next chunk of the last output is handed on. -/
  | drain (outcome : SendOutcome)
  /-- Tail clients are told of the exit. -/
  | announceExit
  | shutdown
  /-- A tail client subscribes. -/
  | subscribe
  /-- A tail client is sent the next chunk it is owed, or the next event. -/
  | tailSend (tail : Nat) (outcome : SendOutcome)
  /-- A tail client closes its connection. -/
  | tailGone (tail : Nat)

/-- The text a tail client is shown in place of events it missed. -/
def tailMarker (dropped : Nat) : Bytes :=
  [0x0d, 0x0a, escByte] ++ ascii "[2m" ++ utf8 "\u25b8 tail fell behind \u00b7 " ++
    ascii (toString dropped) ++ ascii " events dropped" ++ escByte :: ascii "[0m" ++ [0x0d, 0x0a]

/-- The frame a tail client is sent for what it received. -/
def tailFrame : Received TailEvent → Frame
  | .event (.data chunk) => .data chunk
  | .event (.exit code) => .exit code
  | .event .shutdown => .serverShutdown
  | .lagged dropped => .data (tailMarker dropped)

/-- After these a tail client is done. -/
def endsTail : Received TailEvent → Bool
  | .event (.exit _) => true
  | .event .shutdown => true
  | _ => false

namespace SessionTask

/-- A session whose first client is attached. -/
def new (cap : Nat) : SessionTask where
  output := .new cap
  stream := []
  phase := .relaying 0
  -- The first client has nothing to be brought in sync with.
  connections := [{ planned := [], replay := [], synced := some true, live := [] }]
  events := []
  tails := []

/-- Tail clients whose task still listens. -/
def receiverCount (task : SessionTask) : Nat := task.tails.countP (·.up)

/-- Broadcast to tail clients, if there is one. -/
def broadcast (task : SessionTask) (event : TailEvent) : SessionTask :=
  if 0 < task.receiverCount then { task with events := task.events ++ [event] } else task

/-- A chunk of output is read: it is captured, and broadcast. -/
def readOutput (task : SessionTask) (chunk : Bytes) : SessionTask :=
  { task with
    output := task.output.capture chunk
    stream := task.stream ++ chunk }.broadcast (.data chunk)

/-- Change one connection. -/
def modifyConnection (task : SessionTask) (client : Nat)
    (change : ClientConnection → ClientConnection) : SessionTask :=
  { task with connections := task.connections.modify client change }

/-- Frames that a connection takes as part of its replay. -/
def writeReplay (task : SessionTask) (client : Nat) (frames : List SessionFrame) : SessionTask :=
  task.modifyConnection client fun connection =>
    { connection with replay := connection.replay ++ frames }

/-- Frames that a connection takes after its replay. -/
def writeLive (task : SessionTask) (client : Nat) (frames : List SessionFrame) : SessionTask :=
  task.modifyConnection client fun connection =>
    { connection with live := connection.live ++ frames }

/-- A replay has ended, complete or not. -/
def endReplay (task : SessionTask) (client : Nat) (complete : Bool) : SessionTask :=
  task.modifyConnection client fun connection => { connection with synced := some complete }

/-- A send inside a replay failed. Only while no client was attached does this end the attachment. -/
def replayFailed (task : SessionTask) (client : Nat) (takeover : Bool) : SessionTask :=
  { task.endReplay client false with
    -- A takeover drops the result of the replay, and relays to the client all the same.
    phase := if takeover then .relaying client else .awaitingClient }

/-- A client on a new connection, and what it is to be sent first. -/
def startReplay (chrome : Chrome) (task : SessionTask) (request : AttachRequest)
    (takeover : Bool) : SessionTask :=
  let sends := task.output.replaySends chrome request
  { task with
    connections := task.connections ++
      [{ planned := sends.frames, replay := [], synced := none, live := [] }]
    phase := .replaying task.connections.length takeover sends.frames sends.after }

/-- A new tail client is to be sent the retained output, and then what is broadcast from now on. -/
def subscribe (task : SessionTask) : SessionTask :=
  { task with
    tails := task.tails ++
      [{ snapshot := task.output.history.chunks
         position := task.events.length
         sent := []
         up := true }] }

end SessionTask

/-- What a tail client does next: the retained output comes first, then the events. -/
def TailClient.next (tail : TailClient) (events : List TailEvent) :
    Option (Frame × Bool × TailClient) :=
  match tail.snapshot with
  | chunk :: later => some (.data chunk, false, { tail with snapshot := later })
  | [] =>
    match receive tailCapacity events tail.position with
    | some (item, position) => some (tailFrame item, endsTail item, { tail with position })
    | none => none

namespace SessionTask

/-- Send a tail client its next frame. After a failed send, or the last event, its task ends. -/
def tailSend (task : SessionTask) (index : Nat) (outcome : SendOutcome) : Option SessionTask :=
  match task.tails[index]? with
  | some tail =>
    if tail.up then
      match tail.next task.events with
      | some (frame, ends, next) =>
        let written :=
          { next with
            sent := next.sent ++ outcome.written frame
            up := !ends && outcome = .sent }
        some { task with tails := task.tails.set index written }
      | none => none
    else none
  | none => none

/-- One action, if it can be taken. -/
def step (chrome : Chrome) (task : SessionTask) : TaskAction → Option SessionTask
  | .output chunk outcome =>
    if chunk.isEmpty then none
    else
      match task.phase with
      | .awaitingClient => some (task.readOutput chunk)
      | .relaying client =>
        let written := (task.readOutput chunk).writeLive client (outcome.written (.data chunk))
        -- A client that does not take its output is detached.
        some (if outcome = .sent then written else { written with phase := .awaitingClient })
      | _ => none
  | .clientGone =>
    match task.phase with
    | .relaying _ => some { task with phase := .awaitingClient }
    | _ => none
  | .attach request =>
    match task.phase with
    | .awaitingClient => some (task.startReplay chrome request false)
    | .relaying old =>
      -- The displaced client is told, whether or not that arrives.
      some ((task.writeLive old [.detached]).startReplay chrome request true)
    | _ => none
  | .replaySend outcome =>
    match task.phase with
    | .replaying client takeover (frame :: later) after =>
      let written := task.writeReplay client (outcome.written frame)
      some (if outcome = .sent then { written with phase := .replaying client takeover later after }
        else written.replayFailed client takeover)
    | _ => none
  | .redraw chunk outcome =>
    if chunk.isEmpty then none
    else
      match task.phase with
      | .replaying client takeover [] .redraw =>
        let written := (task.readOutput chunk).writeReplay client (outcome.written (.data chunk))
        some (if outcome = .sent then written else written.replayFailed client takeover)
      | _ => none
  | .replayEnd =>
    match task.phase with
    | .replaying client _ [] after =>
      let ended := { task.endReplay client true with phase := .relaying client }
      some (if after = .clearScrollback then
          { ended with
            output := { ended.output with scrollback := ended.output.scrollback.clear } }
        else ended)
    | _ => none
  | .shellExit chunks code =>
    if chunks.any (·.isEmpty) then none
    else
      match task.phase with
      | .awaitingClient =>
        some { chunks.foldl readOutput task with phase := .exiting code }
      | .relaying client =>
        -- What is read now is not captured: nobody attaches any more.
        some { task with
          stream := task.stream ++ chunks.flatten
          phase := .draining client chunks code }
      | _ => none
  | .drain outcome =>
    match task.phase with
    | .draining client (chunk :: later) code =>
      some { (task.broadcast (.data chunk)).writeLive client (outcome.written (.data chunk)) with
        phase := .draining client later code }
    | _ => none
  | .announceExit =>
    match task.phase with
    | .draining _ [] code => some { task.broadcast (.exit code) with phase := .ended }
    | .exiting code => some { task.broadcast (.exit code) with phase := .ended }
    | _ => none
  | .shutdown =>
    match task.phase with
    | .awaitingClient => some { task.broadcast .shutdown with phase := .ended }
    | .relaying _ => some { task.broadcast .shutdown with phase := .ended }
    | _ => none
  | .subscribe =>
    match task.phase with
    | .awaitingClient => some task.subscribe
    | .relaying _ => some task.subscribe
    | _ => none
  | .tailSend tail outcome => task.tailSend tail outcome
  | .tailGone tail =>
    match task.tails[tail]? with
    | some leaving => some { task with tails := task.tails.set tail { leaving with up := false } }
    | none => none

section Frames

variable (task : SessionTask)

/-! What the pieces of a step leave alone. -/

@[simp] theorem broadcast_connections (event : TailEvent) :
    (task.broadcast event).connections = task.connections := by
  unfold broadcast
  split <;> rfl

@[simp] theorem broadcast_phase (event : TailEvent) :
    (task.broadcast event).phase = task.phase := by
  unfold broadcast
  split <;> rfl

@[simp] theorem broadcast_tails (event : TailEvent) :
    (task.broadcast event).tails = task.tails := by
  unfold broadcast
  split <;> rfl

@[simp] theorem broadcast_stream (event : TailEvent) :
    (task.broadcast event).stream = task.stream := by
  unfold broadcast
  split <;> rfl

@[simp] theorem broadcast_output (event : TailEvent) :
    (task.broadcast event).output = task.output := by
  unfold broadcast
  split <;> rfl

@[simp] theorem readOutput_connections (chunk : Bytes) :
    (task.readOutput chunk).connections = task.connections := broadcast_connections _ _

@[simp] theorem readOutput_phase (chunk : Bytes) :
    (task.readOutput chunk).phase = task.phase := broadcast_phase _ _

@[simp] theorem readOutput_tails (chunk : Bytes) :
    (task.readOutput chunk).tails = task.tails := broadcast_tails _ _

@[simp] theorem readOutput_stream (chunk : Bytes) :
    (task.readOutput chunk).stream = task.stream ++ chunk := broadcast_stream _ _

@[simp] theorem readOutput_output (chunk : Bytes) :
    (task.readOutput chunk).output = task.output.capture chunk := broadcast_output _ _

end Frames

/-- What each action does, where it can be taken. -/
inductive TaskChange (chrome : Chrome) (task : SessionTask) : TaskAction → SessionTask → Prop where
  | heard {chunk : Bytes} {outcome : SendOutcome} (nonempty : chunk ≠ [])
      (awaiting : task.phase = .awaitingClient) :
      TaskChange chrome task (.output chunk outcome) (task.readOutput chunk)
  | relayed {chunk : Bytes} {client : Nat} (nonempty : chunk ≠ [])
      (relaying : task.phase = .relaying client) :
      TaskChange chrome task (.output chunk .sent)
        ((task.readOutput chunk).writeLive client [.data chunk])
  | relayFailed {chunk : Bytes} {client : Nat} {buffered : Bool} (nonempty : chunk ≠ [])
      (relaying : task.phase = .relaying client) :
      TaskChange chrome task (.output chunk (.failed buffered))
        { (task.readOutput chunk).writeLive client
            (SendOutcome.written (.failed buffered) (.data chunk)) with phase := .awaitingClient }
  | left {client : Nat} (relaying : task.phase = .relaying client) :
      TaskChange chrome task .clientGone { task with phase := .awaitingClient }
  | pickedUp {request : AttachRequest} (awaiting : task.phase = .awaitingClient) :
      TaskChange chrome task (.attach request) (task.startReplay chrome request false)
  | tookOver {request : AttachRequest} {old : Nat} (relaying : task.phase = .relaying old) :
      TaskChange chrome task (.attach request)
        ((task.writeLive old [.detached]).startReplay chrome request true)
  | replayed {client : Nat} {takeover : Bool} {frame : SessionFrame} {later : List SessionFrame}
      {after : AfterSends} (replaying : task.phase = .replaying client takeover (frame :: later) after) :
      TaskChange chrome task (.replaySend .sent)
        { task.writeReplay client [frame] with phase := .replaying client takeover later after }
  | replayFailed {client : Nat} {takeover buffered : Bool} {frame : SessionFrame}
      {later : List SessionFrame} {after : AfterSends}
      (replaying : task.phase = .replaying client takeover (frame :: later) after) :
      TaskChange chrome task (.replaySend (.failed buffered))
        ((task.writeReplay client (SendOutcome.written (.failed buffered) frame)).replayFailed client
          takeover)
  | redrawn {client : Nat} {takeover : Bool} {chunk : Bytes} (nonempty : chunk ≠ [])
      (replaying : task.phase = .replaying client takeover [] .redraw) :
      TaskChange chrome task (.redraw chunk .sent)
        ((task.readOutput chunk).writeReplay client [.data chunk])
  | redrawFailed {client : Nat} {takeover buffered : Bool} {chunk : Bytes} (nonempty : chunk ≠ [])
      (replaying : task.phase = .replaying client takeover [] .redraw) :
      TaskChange chrome task (.redraw chunk (.failed buffered))
        (((task.readOutput chunk).writeReplay client
          (SendOutcome.written (.failed buffered) (.data chunk))).replayFailed client takeover)
  | synced {client : Nat} {takeover : Bool} {after : AfterSends} {scrollback : ScrollbackBuffer}
      (replaying : task.phase = .replaying client takeover [] after) :
      TaskChange chrome task .replayEnd
        { task.endReplay client true with
          phase := .relaying client
          output := { task.output with scrollback } }
  | exitedDetached {chunks : List Bytes} {code : Int32} (awaiting : task.phase = .awaitingClient) :
      TaskChange chrome task (.shellExit chunks code)
        { chunks.foldl readOutput task with phase := .exiting code }
  | exitedAttached {chunks : List Bytes} {code : Int32} {client : Nat}
      (relaying : task.phase = .relaying client) :
      TaskChange chrome task (.shellExit chunks code)
        { task with stream := task.stream ++ chunks.flatten, phase := .draining client chunks code }
  | drained {outcome : SendOutcome} {client : Nat} {chunk : Bytes} {later : List Bytes}
      {code : Int32} (draining : task.phase = .draining client (chunk :: later) code) :
      TaskChange chrome task (.drain outcome)
        { (task.broadcast (.data chunk)).writeLive client (outcome.written (.data chunk)) with
          phase := .draining client later code }
  | announced {code : Int32}
      (complete : (∃ client, task.phase = .draining client [] code) ∨ task.phase = .exiting code) :
      TaskChange chrome task .announceExit { task.broadcast (.exit code) with phase := .ended }
  | shutDown (idle : task.phase = .awaitingClient ∨ ∃ client, task.phase = .relaying client) :
      TaskChange chrome task .shutdown { task.broadcast .shutdown with phase := .ended }
  | subscribed (idle : task.phase = .awaitingClient ∨ ∃ client, task.phase = .relaying client) :
      TaskChange chrome task .subscribe task.subscribe
  | tailSent {index : Nat} {outcome : SendOutcome} {tail next : TailClient} {frame : Frame}
      {ends : Bool} (found : task.tails[index]? = some tail) (up : tail.up = true)
      (follows : tail.next task.events = some (frame, ends, next)) :
      TaskChange chrome task (.tailSend index outcome)
        { task with
          tails := task.tails.set index
            { next with
              sent := next.sent ++ outcome.written frame
              up := !ends && outcome = .sent } }
  | tailLeft {index : Nat} {tail : TailClient} (found : task.tails[index]? = some tail) :
      TaskChange chrome task (.tailGone index)
        { task with tails := task.tails.set index { tail with up := false } }

/-- A step does what its action does. -/
theorem step_change {chrome : Chrome} {task next : SessionTask} {action : TaskAction}
    (stepped : task.step chrome action = some next) : TaskChange chrome task action next := by
  -- The action and the phase decide; every other pair is disabled.
  cases action with
  | output chunk outcome =>
    simp only [step] at stepped
    split at stepped
    · simp at stepped
    · next filled =>
      have nonempty : chunk ≠ [] := by simpa using filled
      split at stepped
      · next awaiting =>
        cases stepped
        exact TaskChange.heard nonempty awaiting
      · next client relaying =>
        cases stepped
        cases outcome with
        | sent => exact TaskChange.relayed nonempty relaying
        | failed buffered => exact TaskChange.relayFailed nonempty relaying
      · simp at stepped
  | clientGone =>
    simp only [step] at stepped
    split at stepped
    · next client relaying =>
      cases stepped
      exact TaskChange.left relaying
    · simp at stepped
  | attach request =>
    simp only [step] at stepped
    split at stepped
    · next awaiting =>
      cases stepped
      exact TaskChange.pickedUp awaiting
    · next old relaying =>
      cases stepped
      exact TaskChange.tookOver relaying
    · simp at stepped
  | replaySend outcome =>
    simp only [step] at stepped
    split at stepped
    · next client takeover frame later after replaying =>
      cases stepped
      cases outcome with
      | sent => exact TaskChange.replayed replaying
      | failed buffered => exact TaskChange.replayFailed replaying
    · simp at stepped
  | redraw chunk outcome =>
    simp only [step] at stepped
    split at stepped
    · simp at stepped
    · next filled =>
      have nonempty : chunk ≠ [] := by simpa using filled
      split at stepped
      · next client takeover replaying =>
        cases stepped
        cases outcome with
        | sent => exact TaskChange.redrawn nonempty replaying
        | failed buffered => exact TaskChange.redrawFailed nonempty replaying
      · simp at stepped
  | replayEnd =>
    simp only [step] at stepped
    split at stepped
    · next client takeover after replaying =>
      cases stepped
      split
      · exact TaskChange.synced replaying
      · exact TaskChange.synced replaying
    · simp at stepped
  | shellExit chunks code =>
    simp only [step] at stepped
    split at stepped
    · simp at stepped
    · split at stepped
      · next awaiting =>
        cases stepped
        exact TaskChange.exitedDetached awaiting
      · next client relaying =>
        cases stepped
        exact TaskChange.exitedAttached relaying
      · simp at stepped
  | drain outcome =>
    simp only [step] at stepped
    split at stepped
    · next client chunk later code draining =>
      cases stepped
      exact TaskChange.drained draining
    · simp at stepped
  | announceExit =>
    simp only [step] at stepped
    split at stepped
    · next client code draining =>
      cases stepped
      exact TaskChange.announced (Or.inl ⟨client, draining⟩)
    · next code exiting =>
      cases stepped
      exact TaskChange.announced (Or.inr exiting)
    · simp at stepped
  | shutdown =>
    simp only [step] at stepped
    split at stepped
    · next awaiting =>
      cases stepped
      exact TaskChange.shutDown (Or.inl awaiting)
    · next client relaying =>
      cases stepped
      exact TaskChange.shutDown (Or.inr ⟨client, relaying⟩)
    · simp at stepped
  | subscribe =>
    simp only [step] at stepped
    split at stepped
    · next awaiting =>
      cases stepped
      exact TaskChange.subscribed (Or.inl awaiting)
    · next client relaying =>
      cases stepped
      exact TaskChange.subscribed (Or.inr ⟨client, relaying⟩)
    · simp at stepped
  | tailSend index outcome =>
    simp only [step, SessionTask.tailSend] at stepped
    split at stepped
    · next tail found =>
      split at stepped
      · next up =>
        split at stepped
        · next frame ends follower follows =>
          cases stepped
          exact TaskChange.tailSent found up follows
        · simp at stepped
      · simp at stepped
    · simp at stepped
  | tailGone index =>
    simp only [step] at stepped
    split at stepped
    · next tail found =>
      cases stepped
      exact TaskChange.tailLeft found
    · simp at stepped

end SessionTask

/-- The task of a session, by how much output the session retains. -/
def sessionTask (chrome : Chrome) (cap : Nat) : Machine SessionTask TaskAction where
  init := .new cap
  step := SessionTask.step chrome

end Gritty
