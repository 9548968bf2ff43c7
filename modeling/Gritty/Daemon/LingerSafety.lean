import Gritty.Daemon.AgentStatus

/-! Whom the reaper of lingering sessions aborts, whatever the daemon's steps and a session's own come between. -/

namespace Gritty

/-- How far a session's task is with its clients and what it writes about them. -/
inductive TaskStage where
  /-- The metadata is not published. -/
  | unpublished
  /-- Nobody has come yet. -/
  | awaiting
  /-- A client is taken from the queue. -/
  | arriving
  /-- The client counts as attached, and its presence is not recorded. -/
  | greeted
  /-- The client is sent what it missed, and relayed. -/
  | serving
  /-- The client is gone, and nothing is recorded of it. -/
  | lost
  /-- The end of its presence is recorded, and it still counts as attached. -/
  | detaching
  | detached
  | ended
  deriving DecidableEq

/-- The task has published its metadata and has not ended. -/
def TaskStage.runs : TaskStage → Bool
  | .unpublished | .ended => false
  | _ => true

/-- The task has a client, or has yet to record that it is gone. -/
def TaskStage.hasClient : TaskStage → Bool
  | .arriving | .greeted | .serving | .lost | .detaching => true
  | _ => false

/-- The task reads its queue. -/
def TaskStage.receives : TaskStage → Bool
  | .awaiting | .detached | .serving => true
  | _ => false

/-- The client that is taken gets the place that is free, or that of the client that is served. -/
def TaskStage.welcomed : TaskStage → TaskStage
  | .serving => .greeted
  | _ => .arriving

/-- What the daemon's loop is doing about a session. -/
inductive LoopStage where
  /-- The session is created for a client that is not handed to it. -/
  | creating
  /-- The client that is handed over counts as attached. -/
  | handing
  /-- Its presence is recorded too, and all that is left is to send it. -/
  | handed
  | idle
  /-- The sessions are looked through as of some time. -/
  | reaping (asOf : UInt64)
  /-- The session lingers for some seconds. -/
  | lingers (asOf secs : UInt64)
  /-- Besides, nobody counts as attached. -/
  | vacant (asOf secs : UInt64)
  /-- The session is to be aborted. -/
  | condemned
  | gone
  deriving DecidableEq

/-- A client is on its way to the session's queue. -/
def LoopStage.hands : LoopStage → Bool
  | .handing | .handed => true
  | _ => false

/-- The reaper reads how long a session lingers, whether anybody is attached, and since when nobody is. -/
def LoopStage.read (metadata : SessionMetadata) : LoopStage → Option LoopStage
  | .reaping asOf =>
    some (if metadata.lingerSecs = 0 then .idle else .lingers asOf metadata.lingerSecs)
  | .lingers asOf secs => some (if metadata.attached then .idle else .vacant asOf secs)
  | .vacant asOf secs =>
    some (if secs.toNat ≤ asOf.toNat - metadata.lingerBaseline.toNat then .condemned else .idle)
  | _ => none

/-- A session between its task and the daemon's loop. -/
structure LingerRun where
  session : SessionState
  task : TaskStage
  loop : LoopStage
  /-- What the wall clock shows. -/
  now : UInt64
  /-- When the session was created, or when last a client attached, sent a ping or detached. -/
  presence : UInt64
  deriving DecidableEq

inductive LingerAction where
  | tick (later : UInt64)
  /-- The daemon marks a new session attached, whose task published its metadata in time. -/
  | markAttachedWhenReady
  /-- The daemon does not wait any longer for the metadata of a new session. -/
  | giveUp
  /-- The daemon answers an attach that it allows, and marks the session attached. -/
  | attach
  | touchPresence
  /-- The daemon sends the client to the session's task. -/
  | handOff (conn : ClientConn)
  | handOther (conn : ClientConn)
  | setLinger (secs : UInt64)
  | kill
  /-- The reaper reads the clock. -/
  | reapLingering
  /-- The reaper reads another field of the session. -/
  | readField
  | abort
  | publish (ptyPath : String)
  /-- The task takes what was handed to it first. -/
  | receive
  | markArrived
  | touchArrived
  | ping
  /-- The client changes how long its session lingers. -/
  | pin (secs : UInt64)
  /-- The client is gone, or takes nothing of what it missed. -/
  | lose
  | touchDetached
  | markDetached
  | finish

namespace LingerRun

/-- A session whose task has been spawned and has done nothing. -/
def new (handle : Nat) (config : SessionConfig) (name : Option String) (now : UInt64) :
    LingerRun where
  session :=
    { handle, finished := false, closed := false, metadata := none, config, inbox := [], name }
  task := .unpublished
  loop := .creating
  now
  presence := now

/-- Change what the session publishes about itself, if it has published anything. -/
def writes (run : LingerRun) (change : SessionMetadata → SessionMetadata) : LingerRun :=
  { run with session := { run.session with metadata := run.session.metadata.map change } }

/-- Whether a client counts as attached. -/
def flag (run : LingerRun) (attached : Bool) : LingerRun := run.writes ({ · with attached })

/-- A client is present now. -/
def touch (run : LingerRun) : LingerRun :=
  { run.writes ({ · with lastHeartbeat := run.now }) with presence := run.now }

/-- The task ends, and its queue goes with it. -/
def finishes (run : LingerRun) : LingerRun :=
  { run with
    session := { run.session with finished := true, closed := true, inbox := [] }
    task := .ended }

/-- A client waits in the session's queue. -/
def waiting (run : LingerRun) : Bool := run.session.inbox.any (·.isActive)

/-- A client waits in the session's queue, or is about to. -/
def expected (run : LingerRun) : Bool := run.waiting || run.loop.hands

/-- One step of the session's task or, about the session, of the daemon. -/
def step (run : LingerRun) (action : LingerAction) : Option LingerRun :=
  if run.loop = .gone then none
  else
    match action with
    | .tick later => if run.now ≤ later then some { run with now := later } else none
    | .markAttachedWhenReady =>
      if run.loop = .creating ∧ run.session.metadata.isSome then
        some { run.flag true with loop := .handing }
      else none
    -- Three seconds went by, and the client is handed over to a session that is not marked.
    | .giveUp => if run.loop = .creating then some { run with loop := .handed } else none
    | .attach =>
      -- Who may attach was decided before, from a flag that the task may have changed since.
      if run.loop = .idle ∧ run.session.metadata.isSome then
        some { run.flag true with loop := .handing }
      else none
    | .touchPresence =>
      if run.loop = .handing then some { run.touch with loop := .handed } else none
    | .handOff conn =>
      if run.loop = .handed ∧ conn.isActive then
        some { run with
          session := run.session.send conn
          loop := .idle
          -- A task that takes nobody any more does not let the client attach.
          presence := if run.session.closed then run.presence else run.now }
      else none
    | .handOther conn =>
      if run.loop = .idle ∧ conn.isActive = false then
        some { run with session := run.session.send conn }
      else none
    | .setLinger secs =>
      if run.loop = .idle then some (run.writes ({ · with lingerSecs := secs })) else none
    | .kill =>
      if run.loop = .creating ∨ run.loop = .idle then some { run with loop := .gone } else none
    -- The reaper asks for the metadata first, and passes over a session that has none.
    | .reapLingering =>
      if run.loop = .idle ∧ run.session.metadata.isSome then
        some { run with loop := .reaping run.now }
      else none
    | .readField =>
      -- Every field is read on its own, so that the task may write between two of them.
      (run.session.metadata.bind (run.loop.read ·)).map fun loop => { run with loop }
    | .abort => if run.loop = .condemned then some { run with loop := .gone } else none
    | .publish ptyPath =>
      if run.task = .unpublished then
        some { run with
          session := run.session.initialized true ptyPath run.now
          task := .awaiting
          presence := run.now }
      else none
    | .receive =>
      -- A client that is sent to a task at anything else waits in the queue.
      if run.task.receives then
        match run.session.inbox with
        | [] => none
        | conn :: later =>
          let run := { run with session := { run.session with inbox := later } }
          match conn with
          | .active .. => some { run with task := run.task.welcomed }
          | .tail _ | .send _ => some run
          | .shutdown => some run.finishes
      else none
    | .markArrived =>
      if run.task = .arriving then some { run.flag true with task := .greeted } else none
    | .touchArrived =>
      if run.task = .greeted then some { run.touch with task := .serving } else none
    | .ping => if run.task = .serving then some run.touch else none
    | .pin secs =>
      if run.task = .serving then some (run.writes ({ · with lingerSecs := secs })) else none
    | .lose => if run.task = .serving then some { run with task := .lost } else none
    | .touchDetached =>
      if run.task = .lost then some { run.touch with task := .detaching } else none
    | .markDetached =>
      -- The flag goes down, whichever client it was set for last.
      if run.task = .detaching then some { run.flag false with task := .detached } else none
    | .finish => if run.task = .ended then none else some run.finishes

/-- Whoever is to be aborted lingers, is used by nobody, and was used by nobody for that long. -/
def Rightful (run : LingerRun) : Prop :=
  -- What is to be aborted is settled as soon as the heartbeat has been read.
  run.loop = .condemned →
    ∃ metadata, run.session.metadata = some metadata ∧ metadata.lingerSecs ≠ 0 ∧
      run.task ∉ [.arriving, .greeted, .serving] ∧ run.waiting = false ∧
      metadata.lingerSecs.toNat ≤ run.now.toNat - run.presence.toNat

/-- The session stops counting as attached while a client is on its way, or never starts to. -/
def Disturbs (run : LingerRun) : LingerAction → Bool
  -- The flag was set for the client that is on its way, and is cleared for the one that left.
  | .markDetached => run.task = .detaching && run.expected
  -- The task sets the flag itself only after it took the client, and started the shell for it.
  | .giveUp => run.loop = .creating && run.task ≠ .ended
  | _ => false

/-- A session that does not count as attached has no client, and none is on its way to it. -/
structure Deserted (run : LingerRun) (metadata : SessionMetadata) : Prop where
  presence : run.presence.toNat ≤ metadata.lingerBaseline.toNat
  free : run.task.hasClient = false
  unexpected : run.task ≠ .ended → run.expected = false

/--
What the reaper has read is so still, or else it will read a presence that is recent enough.

Only a client that is served changes for how long its session lingers, and it will detach later.
-/
def Reads (now : UInt64) (task : TaskStage) (published : Option SessionMetadata) :
    LoopStage → Prop
  | .reaping asOf => asOf.toNat ≤ now.toNat ∧ published.isSome
  | .lingers asOf secs => asOf.toNat ≤ now.toNat ∧ secs ≠ 0 ∧
    ∃ metadata, published = some metadata ∧
      (metadata.lingerSecs = secs ∨ asOf.toNat ≤ metadata.lastHeartbeat.toNat ∨
        -- A client that is served records its end before it stops counting as attached.
        metadata.attached = true ∧ task ≠ .detaching)
  | .vacant asOf secs => asOf.toNat ≤ now.toNat ∧ secs ≠ 0 ∧
    ∃ metadata, published = some metadata ∧ metadata.attached = false ∧
      (metadata.lingerSecs = secs ∨ asOf.toNat ≤ metadata.lastHeartbeat.toNat)
  | .condemned => ∃ metadata, published = some metadata ∧ metadata.attached = false ∧
    metadata.lingerSecs ≠ 0 ∧
    metadata.lingerSecs.toNat ≤ now.toNat - metadata.lingerBaseline.toNat
  | _ => True

/-- What holds of a session as long as none of its clients is forgotten. -/
structure Inv (run : LingerRun) : Prop where
  early : run.task = .unpublished →
    run.session.metadata = none ∧ run.session.inbox = [] ∧ run.loop.hands = false ∧
      run.loop ≠ .idle
  published : run.session.metadata = none → run.task = .unpublished ∨ run.task = .ended
  closed : run.session.closed = true ↔ run.task = .ended
  drained : run.task = .ended → run.session.inbox = []
  present : run.presence.toNat ≤ run.now.toNat
  past : ∀ metadata ∈ run.session.metadata, metadata.lingerBaseline.toNat ≤ run.now.toNat
  deserted : ∀ metadata ∈ run.session.metadata, metadata.attached = false → run.Deserted metadata
  leaving : ∀ metadata ∈ run.session.metadata, run.task = .detaching → run.expected = false →
    run.presence.toNat ≤ metadata.lastHeartbeat.toNat
  reads : Reads run.now run.task run.session.metadata run.loop

variable {run next : LingerRun}

/-- The baseline is the later one of the last heartbeat and the creation. -/
theorem lingerBaseline_toNat (metadata : SessionMetadata) :
    metadata.lingerBaseline.toNat = max metadata.lastHeartbeat.toNat metadata.createdAt.toNat := by
  have either : metadata.lingerBaseline =
      if metadata.lastHeartbeat ≤ metadata.createdAt then metadata.createdAt
      else metadata.lastHeartbeat := rfl
  -- The maximum of words is the one that the comparison picks.
  rw [either, max_def]
  simp only [UInt64.le_iff_toNat_le]
  split_ifs <;> rfl

/-! ### What the reaper has read -/

section

variable {now : UInt64} {task : TaskStage} {published : Option SessionMetadata} {loop : LoopStage}

/-- What was read stays justified while time goes on. -/
theorem Reads.tick (reads : Reads now task published loop) {later : UInt64}
    (forward : now.toNat ≤ later.toNat) : Reads later task published loop := by
  -- Later, all that was read is as far back, or further.
  cases loop with
  | reaping asOf => exact ⟨reads.1.trans forward, reads.2⟩
  | lingers asOf secs => exact ⟨reads.1.trans forward, reads.2⟩
  | vacant asOf secs => exact ⟨reads.1.trans forward, reads.2⟩
  | condemned =>
    obtain ⟨metadata, there, cleared, lingers, long⟩ := reads
    exact ⟨metadata, there, cleared, lingers, by omega⟩
  | creating | handing | handed | idle | gone => trivial

/-- A presence that is recorded now is recent enough. -/
theorem Reads.touch (reads : Reads now task published loop) (free : loop ≠ .condemned)
    (later : TaskStage) : Reads now later (published.map ({ · with lastHeartbeat := now })) loop := by
  cases loop with
  -- Nothing but the time was read of the session yet.
  | reaping asOf => exact ⟨reads.1, by rw [Option.isSome_map]; exact reads.2⟩
  | lingers asOf secs =>
    obtain ⟨past, lingers, metadata, rfl, -⟩ := reads
    -- Whatever the linger is now, the presence is not earlier than the reaping.
    refine ⟨past, lingers, _, rfl, Or.inr (Or.inl past)⟩
  | vacant asOf secs =>
    obtain ⟨past, lingers, metadata, rfl, cleared, -⟩ := reads
    exact ⟨past, lingers, _, rfl, cleared, Or.inr past⟩
  -- Whoever is present now is not in a session that is to be aborted.
  | condemned => exact absurd rfl free
  | creating | handing | handed | idle | gone => trivial

/-- A client that begins to count as attached is no news to a reaper that has not read that nobody does. -/
theorem Reads.attach (reads : Reads now task published loop)
    (free : loop ≠ .condemned ∧ ∀ asOf secs, loop ≠ .vacant asOf secs) :
    Reads now task (published.map ({ · with attached := true })) loop := by
  cases loop with
  | reaping asOf => exact ⟨reads.1, by rw [Option.isSome_map]; exact reads.2⟩
  | lingers asOf secs =>
    obtain ⟨past, lingers, metadata, rfl, same | recent | attached⟩ := reads
    -- Neither the linger nor the heartbeat is changed.
    · exact ⟨past, lingers, _, rfl, Or.inl same⟩
    · exact ⟨past, lingers, _, rfl, Or.inr (Or.inl recent)⟩
    · exact ⟨past, lingers, _, rfl, Or.inr (Or.inr ⟨rfl, attached.2⟩)⟩
  -- Once the reaper has found the flag down, nobody is marked without the daemon's loop.
  | vacant asOf secs => exact absurd rfl (free.2 asOf secs)
  | condemned => exact absurd rfl free.1
  | creating | handing | handed | idle | gone => trivial

/-- Who detaches has recorded it before. -/
theorem Reads.detach (reads : Reads now .detaching published loop) :
    Reads now .detached (published.map ({ · with attached := false })) loop := by
  cases loop with
  | reaping asOf => exact ⟨reads.1, by rw [Option.isSome_map]; exact reads.2⟩
  | lingers asOf secs =>
    obtain ⟨past, lingers, metadata, rfl, same | recent | attached⟩ := reads
    · exact ⟨past, lingers, _, rfl, Or.inl same⟩
    · exact ⟨past, lingers, _, rfl, Or.inr (Or.inl recent)⟩
    -- A client at that point has recorded its end already, so it is one of the first two cases.
    · exact absurd rfl attached.2
  | vacant asOf secs =>
    -- The flag was down before.
    obtain ⟨past, lingers, metadata, rfl, cleared, read⟩ := reads
    exact ⟨past, lingers, _, rfl, rfl, read⟩
  | condemned =>
    obtain ⟨metadata, rfl, cleared, lingers, long⟩ := reads
    exact ⟨_, rfl, rfl, lingers, long⟩
  | creating | handing | handed | idle | gone => trivial

/-- A client that is attached may change how long its session lingers, since it will detach later. -/
theorem Reads.pin (reads : Reads now task published loop) (secs : UInt64)
    (attached : ∀ metadata ∈ published, metadata.attached = true) (stays : task ≠ .detaching) :
    Reads now task (published.map ({ · with lingerSecs := secs })) loop := by
  cases loop with
  | reaping asOf => exact ⟨reads.1, by rw [Option.isSome_map]; exact reads.2⟩
  | lingers asOf secs =>
    obtain ⟨past, lingers, metadata, rfl, -⟩ := reads
    -- The client that is attached will record its end after the reaping.
    exact ⟨past, lingers, _, rfl, Or.inr (Or.inr ⟨attached metadata rfl, stays⟩)⟩
  | vacant asOf secs =>
    obtain ⟨-, -, metadata, rfl, cleared, -⟩ := reads
    -- A client that could change it would be attached, and the reaper found nobody attached.
    rw [attached metadata rfl] at cleared
    cases cleared
  | condemned =>
    obtain ⟨metadata, rfl, cleared, -⟩ := reads
    rw [attached metadata rfl] at cleared
    cases cleared
  | creating | handing | handed | idle | gone => trivial

/-- The task goes on, but not to a client that is about to stop counting as attached. -/
theorem Reads.goes (reads : Reads now task published loop) {later : TaskStage}
    (stays : later = .detaching → task = .detaching) : Reads now later published loop := by
  cases loop with
  | reaping asOf => exact reads
  | lingers asOf secs =>
    obtain ⟨past, lingers, metadata, there, same | recent | attached⟩ := reads
    · exact ⟨past, lingers, metadata, there, Or.inl same⟩
    · exact ⟨past, lingers, metadata, there, Or.inr (Or.inl recent)⟩
    -- The client is attached as before, and has yet to record its end.
    · refine ⟨past, lingers, metadata, there, Or.inr (Or.inr ⟨attached.1, ?_⟩)⟩
      exact fun leaves => attached.2 (stays leaves)
  | vacant asOf secs => exact reads
  | condemned => exact reads
  | creating | handing | handed | idle | gone => trivial

/-- The reaper has read nothing of a session that has published nothing. -/
theorem Reads.of_none (reads : Reads now task none loop) (now' : UInt64) (task' : TaskStage) :
    Reads now' task' published loop := by
  cases loop with
  -- There was metadata to read from.
  | reaping asOf => exact nomatch reads.2
  | lingers asOf secs =>
    obtain ⟨-, -, metadata, there, -⟩ := reads
    cases there
  | vacant asOf secs =>
    obtain ⟨-, -, metadata, there, -⟩ := reads
    cases there
  | condemned =>
    obtain ⟨metadata, there, -⟩ := reads
    cases there
  | creating | handing | handed | idle | gone => trivial

/-- The next field agrees with what was read before, or spares the session. -/
theorem Reads.read {metadata : SessionMetadata} (reads : Reads now task (some metadata) loop)
    {next : LoopStage} (read : loop.read metadata = some next) :
    Reads now task (some metadata) next := by
  cases loop with
  | reaping asOf =>
    cases read
    split_ifs with forever
    · trivial
    -- The linger is the one that was read just now.
    · exact ⟨reads.1, forever, metadata, rfl, Or.inl rfl⟩
  | lingers asOf secs =>
    cases read
    obtain ⟨past, lingers, _, ⟨⟩, same⟩ := reads
    split_ifs with attached
    · trivial
    · refine ⟨past, lingers, metadata, rfl, Bool.eq_false_of_not_eq_true attached, ?_⟩
      -- The flag was down, so nobody is left who could have changed the linger.
      rcases same with same | recent | held
      · exact Or.inl same
      · exact Or.inr recent
      · exact absurd held.1 attached
  | vacant asOf secs =>
    cases read
    obtain ⟨past, lingers, _, ⟨⟩, cleared, same⟩ := reads
    split_ifs with long
    -- A linger that is not zero takes time.
    · have positive : secs.toNat ≠ 0 := fun zero => lingers (UInt64.toNat_inj.mp zero)
      rw [lingerBaseline_toNat] at long
      -- A presence as late as the reaping would have spared the session.
      have same : metadata.lingerSecs = secs := by
        rcases same with same | recent
        · exact same
        · omega
      refine ⟨metadata, rfl, cleared, same ▸ lingers, ?_⟩
      rw [same, lingerBaseline_toNat]
      omega
    · trivial
  | creating | handing | handed | idle | condemned | gone => cases read

/-- The reaper hands nobody over. -/
theorem hands_of_read {metadata : SessionMetadata} {next : LoopStage}
    (read : loop.read metadata = some next) : loop.hands = false ∧ next.hands = false := by
  unfold LoopStage.read at read
  split at read
  · cases read
    split_ifs <;> exact ⟨rfl, rfl⟩
  · cases read
    split_ifs <;> exact ⟨rfl, rfl⟩
  · cases read
    split_ifs <;> exact ⟨rfl, rfl⟩
  · cases read

end

theorem runs_iff (task : TaskStage) :
    task.runs = true ↔ task ≠ .unpublished ∧ task ≠ .ended := by
  cases task <;> simp [TaskStage.runs]

theorem runs_of_receives {task : TaskStage} (receives : task.receives = true) :
    task.runs = true := by
  cases task <;> first | rfl | cases receives

theorem runs_of_hasClient {task : TaskStage} (busy : task.hasClient = true) :
    task.runs = true := by
  cases task <;> first | rfl | cases busy

/-! ### What each step keeps -/

/-- A new session is in order. -/
theorem Inv.new (handle : Nat) (config : SessionConfig) (name : Option String) (now : UInt64) :
    (LingerRun.new handle config name now).Inv where
  early _ := ⟨rfl, rfl, rfl, LoopStage.noConfusion⟩
  published _ := Or.inl rfl
  closed := by simp [LingerRun.new]
  drained _ := rfl
  present := le_rfl
  past metadata there := nomatch there
  deserted metadata there := nomatch there
  leaving metadata there := nomatch there
  reads := trivial

/-- A session that has a client counts as attached. -/
theorem Inv.attached (inv : run.Inv) (busy : run.task.hasClient = true) :
    ∀ metadata ∈ run.session.metadata, metadata.attached = true := by
  intro metadata there
  -- Otherwise nobody would be served.
  by_contra cleared
  have free := (inv.deserted metadata there (Bool.eq_false_of_not_eq_true cleared)).free
  rw [busy] at free
  cases free

/-- A session that has a client is not found vacant. -/
theorem Inv.spared (inv : run.Inv) (busy : run.task.hasClient = true) :
    run.loop ≠ .condemned ∧ ∀ asOf secs, run.loop ≠ .vacant asOf secs := by
  have reads := inv.reads
  -- Either finding says that the flag was down.
  constructor
  · intro condemned
    rw [condemned] at reads
    obtain ⟨metadata, there, cleared, -⟩ := reads
    rw [inv.attached busy metadata there] at cleared
    cases cleared
  · intro asOf secs vacant
    rw [vacant] at reads
    obtain ⟨-, -, metadata, there, cleared, -⟩ := reads
    rw [inv.attached busy metadata there] at cleared
    cases cleared

/-- Time that goes on leaves all in order. -/
theorem Inv.tick (inv : run.Inv) {later : UInt64} (forward : run.now.toNat ≤ later.toNat) :
    { run with now := later }.Inv where
  early := inv.early
  published := inv.published
  closed := inv.closed
  drained := inv.drained
  present := inv.present.trans forward
  past metadata there := (inv.past metadata there).trans forward
  -- Time passing makes nobody come or go.
  deserted metadata there cleared := by
    have deserted := inv.deserted metadata there cleared
    exact ⟨deserted.presence, deserted.free, deserted.unexpected⟩
  leaving := inv.leaving
  reads := inv.reads.tick forward

/-- What is published is changed, and the presence with it. -/
theorem Inv.writes (inv : run.Inv) {change : SessionMetadata → SessionMetadata} {presence : UInt64}
    (present : presence.toNat ≤ run.now.toNat)
    (each : ∀ metadata ∈ run.session.metadata,
      (change metadata).lingerBaseline.toNat ≤ run.now.toNat ∧
      ((change metadata).attached = false →
        metadata.attached = false ∧ presence.toNat ≤ (change metadata).lingerBaseline.toNat) ∧
      (run.task = .detaching → run.expected = false →
        presence.toNat ≤ (change metadata).lastHeartbeat.toNat))
    (reads : Reads run.now run.task (run.session.metadata.map change) run.loop) :
    { run.writes change with presence }.Inv where
  early fresh := by
    obtain ⟨missing, rest⟩ := inv.early fresh
    exact ⟨Option.map_eq_none_iff.mpr missing, rest⟩
  published missing := inv.published (Option.map_eq_none_iff.mp missing)
  closed := inv.closed
  drained := inv.drained
  present
  past metadata there := by
    -- What is published now was published before, with another value in it.
    obtain ⟨before, was, rfl⟩ := Option.map_eq_some_iff.mp there
    exact (each before was).1
  deserted metadata there cleared := by
    obtain ⟨before, was, rfl⟩ := Option.map_eq_some_iff.mp there
    obtain ⟨already, recorded⟩ := (each before was).2.1 cleared
    have deserted := inv.deserted before was already
    exact ⟨recorded, deserted.free, deserted.unexpected⟩
  leaving metadata there := by
    obtain ⟨before, was, rfl⟩ := Option.map_eq_some_iff.mp there
    exact (each before was).2.2
  reads

/-- A client that is present is recorded, unless the session is to be aborted already. -/
theorem Inv.touch (inv : run.Inv) (free : run.loop ≠ .condemned) : run.touch.Inv := by
  refine inv.writes le_rfl (fun metadata there => ⟨?_, fun cleared => ⟨cleared, ?_⟩, ?_⟩)
    (inv.reads.touch free run.task)
  -- A session was not created later than now.
  · have past := inv.past metadata there
    rw [lingerBaseline_toNat] at past ⊢
    exact max_le le_rfl ((le_max_right _ _).trans past)
  · rw [lingerBaseline_toNat]
    exact le_max_left _ _
  · exact fun _ _ => le_rfl

/-- A client begins to count as attached. -/
theorem Inv.attach (inv : run.Inv)
    (free : run.loop ≠ .condemned ∧ ∀ asOf secs, run.loop ≠ .vacant asOf secs) :
    (run.flag true).Inv := by
  refine inv.writes inv.present (fun metadata there => ⟨?_, ?_, ?_⟩) (inv.reads.attach free)
  · exact inv.past metadata there
  · exact fun cleared => nomatch cleared
  · exact inv.leaving metadata there

/-- The time that a session lingers is changed, whatever the reaper makes of it. -/
theorem Inv.linger (inv : run.Inv) {secs : UInt64}
    (reads : Reads run.now run.task (run.session.metadata.map ({ · with lingerSecs := secs }))
      run.loop) : (run.writes ({ · with lingerSecs := secs })).Inv := by
  refine inv.writes inv.present (fun metadata there => ⟨?_, fun cleared => ?_, ?_⟩) reads
  · exact inv.past metadata there
  · exact ⟨cleared, (inv.deserted metadata there cleared).presence⟩
  · exact inv.leaving metadata there

/-- The last client stops counting as attached. -/
theorem Inv.detach (inv : run.Inv) (leaving : run.task = .detaching)
    (unexpected : run.expected = false) : { run.flag false with task := .detached }.Inv where
  early fresh := nomatch fresh
  -- Who is about to detach has published the metadata.
  published missing := by
    have none_ := inv.published (Option.map_eq_none_iff.mp missing)
    rw [leaving] at none_
    rcases none_ with fresh | ended
    · cases fresh
    · cases ended
  closed := by
    refine Iff.trans inv.closed ?_
    simp [leaving]
  drained ended := nomatch ended
  present := inv.present
  past metadata there := by
    obtain ⟨before, was, rfl⟩ := Option.map_eq_some_iff.mp there
    exact inv.past before was
  deserted metadata there _ := by
    obtain ⟨before, was, rfl⟩ := Option.map_eq_some_iff.mp there
    refine ⟨?_, rfl, fun _ => unexpected⟩
    rw [lingerBaseline_toNat]
    -- The heartbeat that was recorded on leaving is the last presence: nobody came since.
    exact (inv.leaving before was leaving unexpected).trans (le_max_left _ _)
  leaving _ _ wrong := nomatch wrong
  reads := by
    have reads := inv.reads
    rw [leaving] at reads
    exact reads.detach

/-- The daemon's loop goes on. It hands over a client only to a session that counts as attached. -/
theorem Inv.turn (inv : run.Inv) {loop : LoopStage}
    (late : run.task = .unpublished → loop.hands = false ∧ loop ≠ .idle)
    (keeps : run.loop.hands = true → loop.hands = true)
    (met : loop.hands = true → run.loop.hands = true ∨ run.task = .ended ∨
      ∀ metadata ∈ run.session.metadata, metadata.attached = true)
    (reads : Reads run.now run.task run.session.metadata loop) : { run with loop }.Inv where
  early fresh := by
    obtain ⟨missing, empty, -⟩ := inv.early fresh
    exact ⟨missing, empty, late fresh⟩
  published := inv.published
  closed := inv.closed
  drained := inv.drained
  present := inv.present
  past := inv.past
  deserted metadata there cleared := by
    have deserted := inv.deserted metadata there cleared
    refine ⟨deserted.presence, deserted.free, fun running => ?_⟩
    -- Nobody was on the way before, and the loop is not about to bring anybody.
    have before := deserted.unexpected running
    unfold expected at before ⊢
    rw [Bool.or_eq_false_iff] at before ⊢
    refine ⟨before.1, Bool.eq_false_iff.mpr fun hands => ?_⟩
    rcases met hands with already | ended | attached
    · rw [already] at before
      cases before.2
    · exact running ended
    · rw [attached metadata there] at cleared
      cases cleared
  leaving metadata there leaves unexpected := by
    refine inv.leaving metadata there leaves ?_
    unfold expected at unexpected ⊢
    rw [Bool.or_eq_false_iff] at unexpected ⊢
    -- A hand-over that was going on goes on.
    refine ⟨unexpected.1, Bool.eq_false_iff.mpr fun hands => ?_⟩
    rw [show ({ run with loop } : LingerRun).loop.hands = true from keeps hands] at unexpected
    cases unexpected.2
  reads

/-- The task goes on to another stage, with what it published. -/
theorem Inv.goes (inv : run.Inv) {task : TaskStage} (runs : run.task.runs = true)
    (goesOn : task.runs = true)
    (attached : task.hasClient = true →
      ∀ metadata ∈ run.session.metadata, metadata.attached = true)
    (leaving : task = .detaching → ∀ metadata ∈ run.session.metadata,
      run.presence.toNat ≤ metadata.lastHeartbeat.toNat)
    (reads : Reads run.now task run.session.metadata run.loop) : { run with task }.Inv where
  early fresh := by
    rw [show task = .unpublished from fresh] at goesOn
    cases goesOn
  published missing := by
    -- A task that has published nothing has not begun, or has ended.
    rcases inv.published missing with fresh | ended
    · rw [fresh] at runs
      cases runs
    · rw [ended] at runs
      cases runs
  closed := by
    refine inv.closed.trans (iff_of_false (fun ended => ?_) fun ended => ?_)
    · rw [ended] at runs
      cases runs
    · rw [show task = .ended from ended] at goesOn
      cases goesOn
  drained ended := by
    rw [show task = .ended from ended] at goesOn
    cases goesOn
  present := inv.present
  past := inv.past
  deserted metadata there cleared := by
    have deserted := inv.deserted metadata there cleared
    refine ⟨deserted.presence, Bool.eq_false_iff.mpr fun busy => ?_, fun _ => ?_⟩
    · rw [attached busy metadata there] at cleared
      cases cleared
    -- The queue is what it was.
    · refine deserted.unexpected fun ended => ?_
      rw [ended] at runs
      cases runs
  leaving metadata there leaves _ := leaving leaves metadata there
  reads

/-- The task ends, whatever it was at. -/
theorem Inv.finishes (inv : run.Inv) : run.finishes.Inv where
  early fresh := nomatch fresh
  published _ := Or.inr rfl
  closed := iff_of_true rfl rfl
  drained _ := rfl
  present := inv.present
  past := inv.past
  -- What has ended serves nobody, and nothing waits in it.
  deserted metadata there cleared :=
    ⟨(inv.deserted metadata there cleared).presence, rfl, fun runs => absurd rfl runs⟩
  leaving _ _ leaves := nomatch leaves
  reads := inv.reads.goes fun leaves => nomatch leaves

/-- What waits in the queue changes. Where no client waited, none does now but one that was handed over. -/
theorem Inv.queue (inv : run.Inv) {inbox : List ClientConn} (begun : run.task ≠ .unpublished)
    (runs : run.task ≠ .ended)
    (waits : inbox.any (·.isActive) = true → run.expected = true)
    (kept : run.task = .detaching → inbox.any (·.isActive) = run.waiting) :
    { run with session := { run.session with inbox } }.Inv where
  early fresh := absurd fresh begun
  published := inv.published
  closed := inv.closed
  drained ended := absurd ended runs
  present := inv.present
  past := inv.past
  deserted metadata there cleared := by
    have deserted := inv.deserted metadata there cleared
    refine ⟨deserted.presence, deserted.free, fun runs => ?_⟩
    have before := deserted.unexpected runs
    have hands := before
    unfold expected at hands ⊢
    rw [Bool.or_eq_false_iff] at hands ⊢
    -- A client that waits now was expected before.
    refine ⟨Bool.eq_false_iff.mpr fun waiting => ?_, hands.2⟩
    rw [waits waiting] at before
    cases before
  leaving metadata there leaves unexpected := by
    refine inv.leaving metadata there leaves ?_
    unfold expected at unexpected ⊢
    rw [← kept leaves]
    exact unexpected
  reads := inv.reads

/-- A client that is handed over waits in the queue, unless the task takes nobody any more. -/
theorem Inv.handOff (inv : run.Inv) (handed : run.loop = .handed) {conn : ClientConn}
    (client : conn.isActive = true) :
    Inv { run with
      session := run.session.send conn
      loop := .idle
      presence := if run.session.closed then run.presence else run.now } := by
  -- A session is handed to only after its creation was answered.
  have begun : run.task ≠ .unpublished := by
    intro fresh
    obtain ⟨-, -, hands, -⟩ := inv.early fresh
    rw [handed] at hands
    cases hands
  unfold SessionState.send
  cases closed : run.session.closed with
  | true =>
    -- The queue is gone with the task, so the client is turned away, and was not present.
    have ended := inv.closed.mp closed
    rw [if_pos rfl, if_pos rfl]
    refine ⟨fun fresh => absurd fresh begun, inv.published, inv.closed, inv.drained, inv.present,
      inv.past, fun metadata there cleared => ?_, fun _ _ leaves => ?_, trivial⟩
    · have deserted := inv.deserted metadata there cleared
      exact ⟨deserted.presence, deserted.free, fun runs => absurd ended runs⟩
    · exact nomatch ended.symm.trans leaves
  | false =>
    have runs : run.task ≠ .ended := fun ended => by
      rw [inv.closed.mpr ended] at closed
      cases closed
    -- Now the client waits that was on its way, so one is expected before and after.
    have expected : run.expected = true := by
      unfold LingerRun.expected
      rw [handed]
      exact Bool.or_true _
    rw [if_neg Bool.false_ne_true, if_neg Bool.false_ne_true]
    refine ⟨fun fresh => absurd fresh begun, inv.published,
      iff_of_false Bool.false_ne_true runs, fun ended => absurd ended runs,
      le_rfl, inv.past, fun metadata there cleared => ?_, fun metadata there leaves waits => ?_,
      trivial⟩
    · -- While a client was handed over, the session counted as attached.
      have never := (inv.deserted metadata there cleared).unexpected runs
      rw [expected] at never
      cases never
    · simp [LingerRun.expected, waiting, client] at waits

/-- A session's metadata is published before anybody is handed to it. -/
theorem Inv.publish (inv : run.Inv) (fresh : run.task = .unpublished) (ptyPath : String) :
    Inv { run with
      session := run.session.initialized true ptyPath run.now
      task := .awaiting
      presence := run.now } := by
  obtain ⟨missing, empty, hands, busy⟩ := inv.early fresh
  have runs : ¬ run.session.closed = true := by
    rw [inv.closed, fresh]
    exact TaskStage.noConfusion
  -- The slot was free.
  have first : run.session.initialized true ptyPath run.now =
      { run.session with metadata := some (.publish run.session.config ptyPath run.now) } := by
    unfold SessionState.initialized
    rw [missing]
    rfl
  rw [first]
  refine ⟨TaskStage.noConfusion, (nomatch ·), iff_of_false runs TaskStage.noConfusion,
    TaskStage.noConfusion, le_rfl, ?_, ?_, fun _ _ => TaskStage.noConfusion, ?_⟩
  -- Created now, and no heartbeat yet.
  · rintro metadata ⟨⟩
    rw [lingerBaseline_toNat]
    exact max_le (Nat.zero_le _) le_rfl
  · rintro metadata ⟨⟩ -
    refine ⟨?_, rfl, fun _ => ?_⟩
    · rw [lingerBaseline_toNat]
      exact le_max_right _ _
    · unfold expected waiting
      rw [hands]
      simp [empty]
  -- The reaper has not read anything of it.
  · have reads := inv.reads
    rw [missing] at reads
    exact reads.of_none run.now .awaiting

/-- The reaper reads on. -/
theorem Inv.read (inv : run.Inv) {metadata : SessionMetadata}
    (there : run.session.metadata = some metadata) {loop : LoopStage}
    (read : run.loop.read metadata = some loop) : { run with loop }.Inv := by
  have reads := inv.reads
  have free := hands_of_read read
  refine inv.turn (fun fresh => ?_) (fun hands => ?_) (fun hands => ?_) ?_
  · have missing := (inv.early fresh).1
    rw [there] at missing
    cases missing
  -- Before and after a read, the loop is not handing anybody over.
  · exact absurd (free.1.symm.trans hands) Bool.false_ne_true
  · exact absurd (free.2.symm.trans hands) Bool.false_ne_true
  · rw [there] at reads ⊢
    exact reads.read read

/-- A client is about to be handed over. -/
theorem Inv.hands (inv : run.Inv) (free : run.loop = .creating ∨ run.loop = .idle)
    (published : run.session.metadata.isSome = true) :
    Inv { run.flag true with loop := .handing } := by
  -- The loop was not reaping, so it is free to set the flag.
  have flagged : (run.flag true).Inv := by
    refine inv.attach ⟨?_, fun asOf secs => ?_⟩ <;>
      rcases free with creating | idle <;> simp [*]
  refine flagged.turn (fun fresh => ?_) (fun _ => rfl) (fun _ => Or.inr (Or.inr ?_)) trivial
  · rw [(inv.early fresh).1] at published
    cases published
  · intro metadata there
    -- The flag was just set.
    obtain ⟨before, -, rfl⟩ := Option.map_eq_some_iff.mp there
    rfl

/-- The loop goes on to something else than a hand-over. -/
theorem Inv.rest (inv : run.Inv) {loop : LoopStage} (late : run.task = .unpublished → loop ≠ .idle)
    (before : run.loop.hands = false) (after : loop.hands = false)
    (reads : Reads run.now run.task run.session.metadata loop) : { run with loop }.Inv :=
  inv.turn (fun fresh => ⟨after, late fresh⟩)
    (fun hands => absurd (before.symm.trans hands) Bool.false_ne_true)
    (fun hands => absurd (after.symm.trans hands) Bool.false_ne_true) reads

/-- The task takes what was handed to it first. -/
theorem Inv.receive (inv : run.Inv) (free : run.task.receives = true) {conn : ClientConn}
    {later : List ClientConn} (inbox : run.session.inbox = conn :: later) :
    Inv { run with session := { run.session with inbox := later } } ∧
      (conn.isActive = true →
        Inv { run with
          session := { run.session with inbox := later }
          task := run.task.welcomed }) := by
  have goesOn := runs_of_receives free
  obtain ⟨begun, runs⟩ := (runs_iff run.task).mp goesOn
  have stays : run.task ≠ .detaching := fun leaves => by
    rw [leaves] at free
    cases free
  have popped : Inv { run with session := { run.session with inbox := later } } := by
    refine inv.queue begun runs (fun waits => ?_) fun leaves => absurd leaves stays
    unfold expected waiting
    rw [inbox, List.any_cons, waits]
    simp
  refine ⟨popped, fun client => ?_⟩
  have welcome : run.task.welcomed.runs = true ∧ run.task.welcomed ≠ .detaching := by
    -- Nobody is taken by a task that is about to record the end of another client.
    cases run.task <;> exact ⟨rfl, TaskStage.noConfusion⟩
  refine popped.goes goesOn welcome.1 (fun _ metadata there => ?_)
    (fun leaves => absurd leaves welcome.2) (inv.reads.goes fun leaves => absurd leaves welcome.2)
  by_contra cleared
  -- A client that waited would have been expected.
  have never := (inv.deserted metadata there (Bool.eq_false_of_not_eq_true cleared)).unexpected runs
  simp [expected, waiting, inbox, client] at never

/-- The task goes on with its client. -/
theorem Inv.serves (inv : run.Inv) {task : TaskStage} (busy : run.task.hasClient = true)
    (goesOn : task.runs = true) (stays : task ≠ .detaching) : { run with task }.Inv :=
  inv.goes (runs_of_hasClient busy) goesOn (fun _ => inv.attached busy)
    (fun leaves => absurd leaves stays) (inv.reads.goes fun leaves => absurd leaves stays)

/-- The end of a client's presence is recorded. -/
theorem Inv.leaves (inv : run.Inv) (busy : run.task.hasClient = true) :
    Inv { run.touch with task := .detaching } := by
  have free := (inv.spared busy).1
  refine (inv.touch free).goes (runs_of_hasClient busy) rfl (fun _ => ?_) (fun _ => ?_)
    (inv.reads.touch free .detaching)
  -- The client counts as attached until after its end is recorded.
  · intro metadata there
    obtain ⟨before, was, rfl⟩ := Option.map_eq_some_iff.mp there
    exact inv.attached busy before was
  · intro metadata there
    obtain ⟨before, -, rfl⟩ := Option.map_eq_some_iff.mp there
    exact le_rfl

theorem step_present {action : LingerAction} (stepped : run.step action = some next) :
    run.loop ≠ .gone := by
  intro gone
  unfold step at stepped
  rw [if_pos gone] at stepped
  cases stepped

/-- A step that disturbs nothing keeps what is invariant. -/
theorem inv_step {action : LingerAction} (inv : run.Inv) (quiet : run.Disturbs action = false)
    (stepped : run.step action = some next) : next.Inv := by
  have here := step_present stepped
  unfold step at stepped
  rw [if_neg here] at stepped
  -- One case for every action, in the order of the daemon's and then of the task's.
  cases action with
  | tick later =>
    dsimp only at stepped
    split_ifs at stepped with forward
    cases stepped
    exact inv.tick (UInt64.le_iff_toNat_le.mp forward)
  | markAttachedWhenReady =>
    dsimp only at stepped
    split_ifs at stepped with creating
    cases stepped
    exact inv.hands (Or.inl creating.1) creating.2
  | giveUp =>
    dsimp only at stepped
    split_ifs at stepped with creating
    cases stepped
    -- A hand-over without the mark disturbs every task but one that has ended.
    have ended : run.task = .ended := by simpa [Disturbs, creating] using quiet
    refine inv.turn (fun fresh => ?_) (fun _ => rfl) (fun _ => Or.inr (Or.inl ended)) trivial
    exact nomatch ended.symm.trans fresh
  | attach =>
    dsimp only at stepped
    split_ifs at stepped with idle
    cases stepped
    exact inv.hands (Or.inr idle.1) idle.2
  | touchPresence =>
    dsimp only at stepped
    split_ifs at stepped with handing
    cases stepped
    -- The loop is handing a client over, so it has condemned nobody.
    have touched : run.touch.Inv := inv.touch (by rw [handing]; exact LoopStage.noConfusion)
    have hands : run.touch.loop.hands = true := by
      rw [show run.touch.loop = .handing from handing]
      rfl
    refine touched.turn (fun fresh => ?_) (fun _ => rfl) (fun _ => Or.inl hands) trivial
    exact absurd ((touched.early fresh).2.2.1.symm.trans hands) Bool.false_ne_true
  | handOff conn =>
    obtain ⟨handed, same⟩ := Option.ite_none_right_eq_some.mp stepped
    cases same
    exact inv.handOff handed.1 handed.2
  | handOther conn =>
    dsimp only at stepped
    split_ifs at stepped with idle
    cases stepped
    have begun : run.task ≠ .unpublished := fun fresh => (inv.early fresh).2.2.2 idle.1
    unfold SessionState.send
    split_ifs with closed
    · exact inv
    -- What is not a client does not change whether one waits.
    · have same : (run.session.inbox ++ [conn]).any (·.isActive) = run.waiting := by
        simp [waiting, idle.2]
      refine inv.queue begun (fun ended => closed (inv.closed.mpr ended)) (fun waits => ?_)
        fun _ => same
      rw [same] at waits
      unfold expected
      rw [waits]
      rfl
  | setLinger secs =>
    dsimp only at stepped
    split_ifs at stepped with idle
    cases stepped
    -- The reaper is not reading while the loop answers a request.
    exact inv.linger (by rw [idle]; trivial)
  | kill =>
    dsimp only at stepped
    split_ifs at stepped with free
    cases stepped
    refine inv.rest (fun _ => LoopStage.noConfusion) ?_ rfl trivial
    rcases free with creating | idle
    · rw [creating]
      rfl
    · rw [idle]
      rfl
  | reapLingering =>
    dsimp only at stepped
    split_ifs at stepped with idle
    cases stepped
    exact inv.rest (fun _ => LoopStage.noConfusion) (by rw [idle.1]; rfl) rfl ⟨le_rfl, idle.2⟩
  | readField =>
    dsimp only at stepped
    obtain ⟨loop, read, rfl⟩ := Option.map_eq_some_iff.mp stepped
    obtain ⟨metadata, there, read⟩ := Option.bind_eq_some_iff.mp read
    exact inv.read there read
  | abort =>
    dsimp only at stepped
    split_ifs at stepped with condemned
    cases stepped
    exact inv.rest (fun _ => LoopStage.noConfusion) (by rw [condemned]; rfl) rfl trivial
  | publish ptyPath =>
    dsimp only at stepped
    split_ifs at stepped with fresh
    cases stepped
    exact inv.publish fresh ptyPath
  | receive =>
    dsimp only at stepped
    split_ifs at stepped with free
    split at stepped
    · cases stepped
    · next conn later inbox =>
      -- Whatever was first in the queue, the rest waits as before.
      obtain ⟨popped, welcomes⟩ := inv.receive free inbox
      split at stepped
      · cases stepped
        exact welcomes rfl
      · cases stepped
        exact popped
      · cases stepped
        exact popped
      · cases stepped
        exact popped.finishes
  | markArrived =>
    dsimp only at stepped
    split_ifs at stepped with arriving
    cases stepped
    -- The client that was taken counts as attached already, by its hand-over.
    have busy : run.task.hasClient = true := by
      rw [arriving]
      rfl
    have flagged : (run.flag true).Inv := inv.attach (inv.spared busy)
    exact flagged.serves busy rfl TaskStage.noConfusion
  | touchArrived =>
    dsimp only at stepped
    split_ifs at stepped with greeted
    cases stepped
    have busy : run.task.hasClient = true := by
      rw [greeted]
      rfl
    have touched : run.touch.Inv := inv.touch (inv.spared busy).1
    exact touched.serves busy rfl TaskStage.noConfusion
  | ping =>
    dsimp only at stepped
    split_ifs at stepped with serving
    cases stepped
    exact inv.touch (inv.spared (by rw [serving]; rfl)).1
  | pin secs =>
    dsimp only at stepped
    split_ifs at stepped with serving
    cases stepped
    -- Only a client that is served gets here, and it is attached.
    refine inv.linger (inv.reads.pin secs (inv.attached (by rw [serving]; rfl)) ?_)
    rw [serving]
    exact TaskStage.noConfusion
  | lose =>
    dsimp only at stepped
    split_ifs at stepped with serving
    cases stepped
    exact inv.serves (by rw [serving]; rfl) rfl TaskStage.noConfusion
  | touchDetached =>
    dsimp only at stepped
    split_ifs at stepped with lost
    cases stepped
    exact inv.leaves (by rw [lost]; rfl)
  | markDetached =>
    dsimp only at stepped
    split_ifs at stepped with leaving
    cases stepped
    refine inv.detach leaving ?_
    -- The condition leaves only the case where nobody is on the way.
    simpa [Disturbs, leaving] using quiet
  | finish =>
    dsimp only at stepped
    split_ifs at stepped
    cases stepped
    exact inv.finishes

/-- Where all is in order, whoever was reaped was so rightfully. -/
theorem Inv.rightful (inv : run.Inv) : run.Rightful := by
  intro condemned
  have reads := inv.reads
  rw [condemned] at reads
  obtain ⟨metadata, there, cleared, lingers, long⟩ := reads
  have deserted := inv.deserted metadata there cleared
  have recorded := deserted.presence
  refine ⟨metadata, there, lingers, ?_, ?_, by omega⟩
  · have free := deserted.free
    -- A session that was found vacant is at a stage without a client.
    revert free
    cases run.task <;> simp [TaskStage.hasClient]
  -- The queue of a task that has ended is gone.
  · by_cases ended : run.task = .ended
    · unfold waiting
      rw [inv.drained ended]
      rfl
    · exact (Bool.or_eq_false_iff.mp (deserted.unexpected ended)).1

end LingerRun

/-- A session with its clients and the daemon that reaps it. -/
def lingerMachine (handle : Nat) (config : SessionConfig) (name : Option String) (now : UInt64) :
    Machine LingerRun LingerAction where
  init := .new handle config name now
  step := LingerRun.step

section

variable {handle : Nat} {config : SessionConfig} {name : Option String} {now : UInt64}

/-- A reaper that nothing comes between aborts the sessions whose linger has expired. -/
theorem reads_eq_lingerExpired {run : LingerRun} (idle : run.loop = .idle)
    {metadata : SessionMetadata} (there : run.session.metadata = some metadata) :
    ((lingerMachine handle config name now).run run
        [.reapLingering, .readField, .readField, .readField]).any (·.loop = .condemned) =
      metadata.lingerExpired run.now := by
  have reaps : run.step .reapLingering = some { run with loop := .reaping run.now } := by
    simp [LingerRun.step, idle, there]
  have reads : ∀ loop : LoopStage, loop ≠ .gone →
      { run with loop }.step .readField =
        (loop.read metadata).map fun later => { run with loop := later } := by
    intro loop here
    simp [LingerRun.step, here, there]
  unfold SessionMetadata.lingerExpired
  simp only [Machine.run, lingerMachine, reaps]
  by_cases forever : metadata.lingerSecs = 0
  · simp [forever, reads, LoopStage.read]
  · cases attached : metadata.attached with
    | true => simp [forever, reads, LoopStage.read, attached]
    | false =>
      by_cases long : metadata.lingerSecs.toNat ≤ run.now.toNat - metadata.lingerBaseline.toNat
      · simp [forever, reads, LoopStage.read, attached, long]
      · simp [forever, reads, LoopStage.read, attached, long]

/--
A session is aborted for its linger only when it lingers, is not in use, and was not for that long.

This is so all along a run in which no session stops counting as attached while another client is on its way to it, and no creator is handed over before the metadata is there to mark.
-/
theorem reaper_rightful {actions : List LingerAction}
    (quiet : (lingerMachine handle config name now).Meets
      (fun run action => run.Disturbs action = false) (.new handle config name now) actions) :
    (lingerMachine handle config name now).Along LingerRun.Rightful (.new handle config name now)
      actions := by
  have preserved : ∀ run action next, LingerRun.Inv run → run.Disturbs action = false →
      (lingerMachine handle config name now).step run action = some next → next.Inv :=
    fun run action next inv quiet stepped => LingerRun.inv_step inv quiet stepped
  exact Machine.along_of_meets (fun run inv => LingerRun.Inv.rightful inv) preserved
    (LingerRun.Inv.new handle config name now) quiet

end

/-- A client leaves a session that lingers for a minute, and nobody comes for a minute. -/
theorem reaper_rightful_minute :
    ∃ actions, ((lingerMachine 0 ⟨7, 60⟩ none 1000).run (.new 0 ⟨7, 60⟩ none 1000) actions).any
        (·.loop = .condemned) ∧
      (lingerMachine 0 ⟨7, 60⟩ none 1000).Along LingerRun.Rightful (.new 0 ⟨7, 60⟩ none 1000)
        actions := by
  refine ⟨[.publish "/dev/pts/1", .markAttachedWhenReady, .touchPresence,
    .handOff (.active 1 "laptop" 0 0 0 0 false true), .receive, .markArrived, .touchArrived,
    .tick 1010, .ping, .lose, .touchDetached, .markDetached, .tick 1070, .reapLingering,
    .readField, .readField, .readField], rfl, reaper_rightful ?_⟩
  decide

/--
A client that waits in the queue is aborted with its session, since an earlier one's end was recorded after it came.

So is a creator that is served, where its session was not marked attached in time.
-/
theorem clients_reaped :
    (∃ run, (lingerMachine 0 ⟨7, 1⟩ none 1000).run (.new 0 ⟨7, 1⟩ none 1000)
        [.publish "/dev/pts/1", .markAttachedWhenReady, .touchPresence,
          .handOff (.active 1 "laptop" 0 0 0 0 false true), .receive, .markArrived, .touchArrived,
          .lose, .attach, .touchPresence, .handOff (.active 2 "desktop" 0 0 0 0 false true),
          .touchDetached, .markDetached, .tick 1001, .reapLingering, .readField, .readField,
          .readField] = some run ∧ ¬ run.Rightful) ∧
    ∃ run, (lingerMachine 0 ⟨7, 1⟩ none 1000).run (.new 0 ⟨7, 1⟩ none 1000)
        [.tick 1003, .giveUp, .handOff (.active 1 "laptop" 0 0 0 0 false true),
          .publish "/dev/pts/1", .receive, .tick 1004, .reapLingering, .readField, .readField,
          .readField] = some run ∧ ¬ run.Rightful := by
  refine ⟨⟨_, rfl, fun rightful => ?_⟩, _, rfl, fun rightful => ?_⟩
  · obtain ⟨-, -, -, -, waiting, -⟩ := rightful rfl
    cases waiting
  · obtain ⟨-, -, -, served, -⟩ := rightful rfl
    exact served List.mem_cons_self

end Gritty
