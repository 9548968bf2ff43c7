import Gritty.Lib.Transition
import Mathlib.Data.List.Basic
import Gritty.Relay.Tunnel

/-! Reader tasks, the events they leave in a queue, and who may hold the channel they report on. -/

namespace Gritty

/-- A client connection, by the order of attachment. -/
abbrev ClientId := Nat

/-- A TCP connection with a reader task. -/
structure Connection where
  /-- The client connection it was opened for. -/
  owner : ClientId
  channelId : UInt32
  /-- The reader task has not seen the end of the stream. -/
  reading : Bool
  deriving DecidableEq

/-- The reader tasks of one kind, and their events, oldest first, each with the connection it came from. -/
structure RelayTasks (Event : Type) where
  conns : List Connection
  queue : List (ConnId × Event)
  deriving DecidableEq

namespace RelayTasks

variable {Event : Type}

/-- No connections yet. -/
def new : RelayTasks Event := { conns := [], queue := [] }

/-- The number the next connection gets. -/
def next (tasks : RelayTasks Event) : ConnId := tasks.conns.length

/-- Start a reader task. -/
def spawn (tasks : RelayTasks Event) (owner : ClientId) (channelId : UInt32) : RelayTasks Event :=
  { tasks with conns := tasks.conns ++ [{ owner, channelId, reading := true }] }

/-- Queue an event of a connection. -/
def push (tasks : RelayTasks Event) (conn : ConnId) (event : Event) : RelayTasks Event :=
  { tasks with queue := tasks.queue ++ [(conn, event)] }

/-- A reader task reads bytes and reports them under its channel. -/
def readData (tasks : RelayTasks Event) (conn : ConnId) (report : UInt32 → Event) :
    Option (RelayTasks Event) :=
  match tasks.conns[conn]? with
  | some connection =>
    if connection.reading then some (tasks.push conn (report connection.channelId)) else none
  | none => none

/-- A reader task sees the end of the stream, reports it and ends. -/
def readEnd (tasks : RelayTasks Event) (conn : ConnId) (report : UInt32 → Event) :
    Option (RelayTasks Event) :=
  match tasks.conns[conn]? with
  | some connection =>
    if connection.reading then
      some ({ tasks with conns := tasks.conns.set conn { connection with reading := false } }.push
        conn (report connection.channelId))
    else none
  | none => none

/-- The client connection that a connection was opened for. -/
def ownerOf (tasks : RelayTasks Event) (conn : ConnId) : Option ClientId :=
  tasks.conns[conn]?.map (·.owner)

/-- A connection whose reader still runs, or whose events are still queued. -/
def Live (tasks : RelayTasks Event) (conn : ConnId) (connection : Connection) : Prop :=
  tasks.conns[conn]? = some connection ∧
    (connection.reading = true ∨ ∃ event, (conn, event) ∈ tasks.queue)

/-- A live connection of another client connection reports under a channel number. -/
def hasStale (tasks : RelayTasks Event) (client : ClientId) (channelId : UInt32) : Bool :=
  tasks.conns.zipIdx.any fun (connection, conn) =>
    connection.channelId == channelId && connection.owner != client &&
      (connection.reading || tasks.queue.any (·.1 == conn))

/-- Where no stale task holds a channel, a live one of its number is the client's own. -/
theorem live_owner {tasks : RelayTasks Event} {client : ClientId} {channelId : UInt32}
    (fresh : tasks.hasStale client channelId = false) {conn : ConnId} {connection : Connection}
    (live : tasks.Live conn connection) (same : connection.channelId = channelId) :
    connection.owner = client := by
  -- A live connection of another owner would have been counted.
  by_contra other
  obtain ⟨found, alive⟩ := live
  have counted : tasks.hasStale client channelId = true := by
    apply List.any_eq_true.mpr
    refine ⟨(connection, conn), List.mem_zipIdx_iff_getElem?.mpr found, ?_⟩
    have running : (connection.reading || tasks.queue.any (·.1 == conn)) = true := by
      rcases alive with reading | ⟨event, queued⟩
      · rw [reading, Bool.true_or]
      · rw [List.any_eq_true.mpr ⟨(conn, event), queued, by simp⟩, Bool.or_true]
    simp only [same, other, running, beq_self_eq_true, bne_iff_ne, ne_eq, not_false_iff,
      Bool.and_true, Bool.true_and]
  rw [counted] at fresh
  exact absurd fresh (by decide)

/--
The channels of the attached client are safe from the tasks of others.

The holder of a channel number is the connection whose writer the channel map keeps under it.
-/
structure Sound (tasks : RelayTasks Event) (channelOf : Event → UInt32) (client : ClientId)
    (holder : UInt32 → Option ConnId) : Prop where
  /-- A queued event is about the channel of the connection it came from. -/
  queued : ∀ conn event, (conn, event) ∈ tasks.queue →
    ∃ connection, tasks.conns[conn]? = some connection ∧ connection.channelId = channelOf event
  /-- Every channel held is held for the attached client. -/
  held : ∀ channelId conn, holder channelId = some conn → tasks.ownerOf conn = some client
  /-- What still reports under a held number belongs to the attached client. -/
  live : ∀ conn connection, tasks.Live conn connection → (holder connection.channelId).isSome →
    connection.owner = client

/-- A connection found before another was started is found after it. -/
theorem spawn_getElem? {tasks : RelayTasks Event} {owner : ClientId} {channelId : UInt32}
    {conn : ConnId} {connection : Connection} (found : tasks.conns[conn]? = some connection) :
    (tasks.spawn owner channelId).conns[conn]? = some connection := by
  have within : conn < tasks.conns.length := (List.getElem?_eq_some_iff.mp found).1
  rw [spawn, List.getElem?_append_left within, found]

/-- A connection found after a start was there before, or is the one that was started. -/
theorem getElem?_of_spawn {tasks : RelayTasks Event} {owner : ClientId} {channelId : UInt32}
    {conn : ConnId} {connection : Connection}
    (found : (tasks.spawn owner channelId).conns[conn]? = some connection) :
    tasks.conns[conn]? = some connection ∨
      (conn = tasks.next ∧ connection = { owner, channelId, reading := true }) := by
  rw [spawn, List.getElem?_append] at found
  split at found
  · exact Or.inl found
  · next beyond =>
    right
    rw [List.getElem?_singleton] at found
    split at found
    · next zero =>
      have last : conn = tasks.conns.length :=
        Nat.le_antisymm (Nat.sub_eq_zero_iff_le.mp zero) (Nat.not_lt.mp beyond)
      exact ⟨last, (Option.some.inj found).symm⟩
    · simp at found

@[simp] theorem spawn_next_owner (tasks : RelayTasks Event) (owner : ClientId)
    (channelId : UInt32) : (tasks.spawn owner channelId).ownerOf tasks.next = some owner := by
  simp [spawn, next, ownerOf]

/-- A new task leaves who owns the others. -/
theorem spawn_ownerOf {tasks : RelayTasks Event} {owner client : ClientId} {channelId : UInt32}
    {conn : ConnId} (owned : tasks.ownerOf conn = some client) :
    (tasks.spawn owner channelId).ownerOf conn = some client := by
  obtain ⟨connection, found, rfl⟩ := Option.map_eq_some_iff.mp owned
  rw [ownerOf, spawn_getElem? found, Option.map_some]

/-- A task of the client itself is never stale. -/
theorem spawn_hasStale (tasks : RelayTasks Event) (client : ClientId) (channelId other : UInt32) :
    (tasks.spawn client channelId).hasStale client other = tasks.hasStale client other := by
  simp [hasStale, spawn, List.zipIdx_append]

/-- Taking events from the queue makes nothing stale. -/
theorem pop_hasStale {tasks : RelayTasks Event} {client : ClientId} {channelId : UInt32}
    {queue : List (ConnId × Event)} (fresh : tasks.hasStale client channelId = false)
    (fewer : ∀ entry ∈ queue, entry ∈ tasks.queue) :
    { tasks with queue }.hasStale client channelId = false := by
  apply List.any_eq_false.mpr
  rintro ⟨connection, conn⟩ listed counted
  apply List.any_eq_false.mp fresh _ listed
  simp only [Bool.and_eq_true, Bool.or_eq_true] at counted ⊢
  refine ⟨counted.1, counted.2.imp id fun queued => ?_⟩
  obtain ⟨entry, there, same⟩ := List.any_eq_true.mp queued
  exact List.any_eq_true.mpr ⟨entry, fewer entry there, same⟩

/-- Reading bytes queues one report. -/
theorem readData_eq {tasks after : RelayTasks Event} {conn : ConnId} {report : UInt32 → Event}
    (read : tasks.readData conn report = some after) :
    ∃ channelId, after = tasks.push conn (report channelId) := by
  unfold readData at read
  split at read
  · next connection found =>
    split at read
    · exact ⟨connection.channelId, (Option.some.inj read).symm⟩
    · simp at read
  · simp at read

/-- Reading the end queues one report. -/
theorem readEnd_queue {tasks after : RelayTasks Event} {conn : ConnId} {report : UInt32 → Event}
    (read : tasks.readEnd conn report = some after) :
    ∃ channelId, after.queue = tasks.queue ++ [(conn, report channelId)] := by
  unfold readEnd at read
  split at read
  · next connection found =>
    obtain ⟨-, rfl⟩ := of_guarded read
    exact ⟨connection.channelId, rfl⟩
  · simp at read

/-- Reading the end leaves every connection to its owner. -/
theorem readEnd_ownerOf {tasks after : RelayTasks Event} {conn : ConnId} {report : UInt32 → Event}
    (read : tasks.readEnd conn report = some after) (other : ConnId) :
    after.ownerOf other = tasks.ownerOf other := by
  unfold readEnd at read
  split at read
  · next connection found =>
    obtain ⟨-, rfl⟩ := of_guarded read
    simp only [push, ownerOf]
    by_cases same : conn = other
    · subst same
      rw [List.getElem?_set_self (List.getElem?_eq_some_iff.mp found).1, found]
      rfl
    · rw [List.getElem?_set_ne same]
  · simp at read

namespace Sound

variable {tasks : RelayTasks Event} {channelOf : Event → UInt32} {client : ClientId}
  {holder holder' : UInt32 → Option ConnId}

/-- With no channel held, any client may attach. -/
theorem teardown (sound : tasks.Sound channelOf client holder) (other : ClientId) :
    tasks.Sound channelOf other fun _ => none where
  queued := sound.queued
  held := fun _ _ found => absurd found (by simp)
  live := fun _ _ _ found => absurd found (by simp)

/-- Letting go of channels is safe. -/
theorem release (sound : tasks.Sound channelOf client holder)
    (fewer : ∀ channelId conn, holder' channelId = some conn → holder channelId = some conn) :
    tasks.Sound channelOf client holder' where
  queued := sound.queued
  held := fun channelId conn found => sound.held channelId conn (fewer channelId conn found)
  live := by
    intro conn connection live found
    obtain ⟨target, held⟩ := Option.isSome_iff_exists.mp found
    apply sound.live conn connection live
    rw [fewer _ _ held, Option.isSome_some]

/-- Giving a channel number to a connection of the client is safe when nothing else reports under it. -/
theorem hold (sound : tasks.Sound channelOf client holder) {channelId : UInt32} {target : ConnId}
    (owned : tasks.ownerOf target = some client)
    (fresh : tasks.hasStale client channelId = false)
    (given : ∀ other conn, holder' other = some conn →
      other = channelId ∧ conn = target ∨ holder other = some conn) :
    tasks.Sound channelOf client holder' where
  queued := sound.queued
  held := by
    intro other conn found
    rcases given other conn found with ⟨rfl, rfl⟩ | before
    · exact owned
    · exact sound.held other conn before
  live := by
    intro conn connection live found
    obtain ⟨holding, held⟩ := Option.isSome_iff_exists.mp found
    -- The number is the one just given, or was held before.
    rcases given _ _ held with ⟨same, _⟩ | before
    · exact live_owner fresh live same
    · apply sound.live conn connection live
      rw [before, Option.isSome_some]

/-- Starting a task is safe when it is the client's, or when nobody holds its number. -/
theorem spawn (sound : tasks.Sound channelOf client holder) {owner : ClientId} {channelId : UInt32}
    (apart : owner = client ∨ holder channelId = none) :
    (tasks.spawn owner channelId).Sound channelOf client holder where
  queued := by
    intro conn event queued
    obtain ⟨connection, found, same⟩ := sound.queued conn event queued
    exact ⟨connection, spawn_getElem? found, same⟩
  held := fun other conn found => spawn_ownerOf (sound.held other conn found)
  live := by
    intro conn connection live found
    obtain ⟨there, alive⟩ := live
    rcases getElem?_of_spawn there with before | ⟨_, rfl⟩
    · exact sound.live conn connection ⟨before, alive⟩ found
    · -- The new task itself.
      rcases apart with same | free
      · exact same
      · rw [free] at found
        simp at found

/-- Queueing an event of a live connection about its own channel is safe. -/
theorem push (sound : tasks.Sound channelOf client holder) {conn : ConnId}
    {connection : Connection} {event : Event} (live : tasks.Live conn connection)
    (same : connection.channelId = channelOf event) :
    (tasks.push conn event).Sound channelOf client holder where
  queued := by
    intro other queuedEvent queued
    rcases List.mem_append.mp queued with before | last
    · exact sound.queued other queuedEvent before
    · obtain ⟨rfl, rfl⟩ := Prod.mk.inj (List.mem_singleton.mp last)
      exact ⟨connection, live.1, same⟩
  held := sound.held
  live := by
    intro other otherConnection alive found
    apply sound.live other otherConnection _ found
    refine ⟨alive.1, ?_⟩
    rcases alive.2 with reading | ⟨queuedEvent, queued⟩
    · exact Or.inl reading
    · rcases List.mem_append.mp queued with before | last
      · exact Or.inr ⟨queuedEvent, before⟩
      · -- The event just queued came from a connection that was live before.
        obtain ⟨rfl, -⟩ := Prod.mk.inj (List.mem_singleton.mp last)
        obtain rfl : connection = otherConnection :=
          Option.some.inj (live.1.symm.trans alive.1)
        exact live.2

/-- Taking events from the queue is safe. -/
theorem pop (sound : tasks.Sound channelOf client holder) {queue : List (ConnId × Event)}
    (fewer : ∀ entry ∈ queue, entry ∈ tasks.queue) :
    { tasks with queue }.Sound channelOf client holder where
  queued := fun conn event queued => sound.queued conn event (fewer _ queued)
  held := sound.held
  live := by
    intro conn connection live found
    apply sound.live conn connection _ found
    exact ⟨live.1, live.2.imp id fun ⟨event, queued⟩ => ⟨event, fewer _ queued⟩⟩

/-- A task that reads bytes leaves all tasks sound. -/
theorem readData {after : RelayTasks Event} {conn : ConnId} {report : UInt32 → Event}
    (sound : tasks.Sound channelOf client holder) (about : ∀ id, channelOf (report id) = id)
    (read : tasks.readData conn report = some after) : after.Sound channelOf client holder := by
  unfold RelayTasks.readData at read
  split at read
  · next connection found =>
    obtain ⟨reading, rfl⟩ := of_guarded read
    exact sound.push ⟨found, Or.inl reading⟩ (about connection.channelId).symm
  · simp at read

/-- Ending a reader task is safe: every connection keeps its owner and its channel, and none becomes live. -/
theorem finish (sound : tasks.Sound channelOf client holder) {conn : ConnId}
    {connection : Connection} (found : tasks.conns[conn]? = some connection) :
    { tasks with conns := tasks.conns.set conn { connection with reading := false } }.Sound
      channelOf client holder := by
  have within : conn < tasks.conns.length := (List.getElem?_eq_some_iff.mp found).1
  have kept : ∀ (other : ConnId) (started : Connection), tasks.conns[other]? = some started →
      ∃ ended : Connection,
        (tasks.conns.set conn { connection with reading := false })[other]? = some ended ∧
          ended.owner = started.owner ∧ ended.channelId = started.channelId := by
    intro other started there
    by_cases same : conn = other
    · subst same
      obtain rfl := Option.some.inj (found.symm.trans there)
      exact ⟨_, List.getElem?_set_self within, rfl, rfl⟩
    · exact ⟨started, by rw [List.getElem?_set_ne same, there], rfl, rfl⟩
  constructor
  · intro other event queued
    obtain ⟨started, there, about⟩ := sound.queued other event queued
    obtain ⟨ended, still, _, channel⟩ := kept other started there
    exact ⟨ended, still, channel.trans about⟩
  · intro channelId other holds
    obtain ⟨started, there, owned⟩ := Option.map_eq_some_iff.mp (sound.held channelId other holds)
    obtain ⟨ended, still, owner, _⟩ := kept other started there
    exact Option.map_eq_some_iff.mpr ⟨ended, still, owner.trans owned⟩
  · rintro other ended ⟨there, alive⟩ holds
    by_cases same : conn = other
    · -- The reader that ended can only be live through its events.
      subst same
      rw [List.getElem?_set_self within] at there
      cases there
      rcases alive with reading | queued
      · simp at reading
      · exact sound.live conn connection ⟨found, Or.inr queued⟩ holds
    · rw [List.getElem?_set_ne same] at there
      exact sound.live other ended ⟨there, alive⟩ holds

/-- A task that reads the end leaves all tasks sound. -/
theorem readEnd {after : RelayTasks Event} {conn : ConnId} {report : UInt32 → Event}
    (sound : tasks.Sound channelOf client holder) (about : ∀ id, channelOf (report id) = id)
    (read : tasks.readEnd conn report = some after) : after.Sound channelOf client holder := by
  unfold RelayTasks.readEnd at read
  split at read
  · next connection found =>
    obtain ⟨reading, rfl⟩ := of_guarded read
    -- The report of a running reader comes first, then the end of that reader.
    have reported : (tasks.push conn (report connection.channelId)).Sound channelOf client holder :=
      sound.push ⟨found, Or.inl reading⟩ (about connection.channelId).symm
    exact reported.finish found
  · simp at read

/-- An event about a held channel came from a connection of the attached client. -/
theorem source_owner (sound : tasks.Sound channelOf client holder) {conn : ConnId} {event : Event}
    (queued : (conn, event) ∈ tasks.queue) (found : (holder (channelOf event)).isSome) :
    tasks.ownerOf conn = some client := by
  obtain ⟨connection, there, same⟩ := sound.queued conn event queued
  have owned : connection.owner = client := by
    apply sound.live conn connection ⟨there, Or.inr ⟨event, queued⟩⟩
    rw [same]
    exact found
  rw [ownerOf, there, Option.map_some, owned]

end Sound

end RelayTasks

end Gritty
