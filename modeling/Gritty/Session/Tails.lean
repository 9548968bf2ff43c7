import Gritty.Lib.Simulation
import Gritty.Session.Service

/-! What tail clients are sent: the retained output, and then everything that is read. -/

namespace Gritty

/-- The output that events carry. -/
def eventBytes (events : List TailEvent) : Bytes :=
  -- The shell's exit and a shutdown carry none.
  events.flatMap fun event =>
    match event with
    | .data chunk => chunk
    | _ => []

/-- No event comes after this one. -/
def TailEvent.isLast : TailEvent → Bool
  | .data _ => false
  | _ => true

/-- Output that was read and is still to be handed on. -/
def TaskPhase.pending : TaskPhase → Bytes
  | .draining _ chunks _ => chunks.flatten
  | _ => []

/-- The shell has not exited yet. -/
def TaskPhase.isOpen : TaskPhase → Bool
  | .awaitingClient => true
  | .relaying _ => true
  | .replaying _ _ _ _ => true
  | _ => false

/-- The output that an action reads from the terminal. -/
def TaskAction.reads : TaskAction → Bytes
  | .output chunk _ => chunk
  | .redraw chunk _ => chunk
  | .shellExit chunks _ => chunks.flatten
  | _ => []

/--
What a tail client was sent, by the task in which it subscribed and the output that was read since.

It was sent some retained chunks, and then what it received, which accounts for events.
-/
structure TailClient.Follows (opened : SessionTask) (later : Bytes) (tail : TailClient)
    (played : List Bytes) (items : List (Received TailEvent)) (seen : List TailEvent) : Prop where
  sent : tail.sent = played.map .data ++ items.map tailFrame
  /-- The retained output comes in order, and all of it before anything else. -/
  retained : played <+: opened.output.history.chunks
  whole : items ≠ [] → played = opened.output.history.chunks
  /-- Every event was received in turn or is counted in a marker. -/
  accounts : Accounts items seen
  /-- The events carry what was read since, in its order. -/
  live : eventBytes seen <+: later
  /-- The exit is the last thing it is sent, after everything. -/
  exit : ∀ code, .exit code ∈ tail.sent →
    played = opened.output.history.chunks ∧ eventBytes seen = later ∧
      items.getLast? = some (.event (.exit code))

/-- It was sent all the retained output, and everything that was handed on since. -/
def TailClient.UpToDate (opened task : SessionTask) (later : Bytes) (tail : TailClient) : Prop :=
  ∃ items seen,
    tail.sent = opened.output.history.chunks.map .data ++ items.map tailFrame ∧
      Accounts items seen ∧ eventBytes seen ++ task.phase.pending = later

/-- How a tail client stands with the events and the stream, by how far it was sent the events. -/
structure TailClient.Kept (opened : SessionTask) (events : List TailEvent) (stream : Bytes)
    (phase : TaskPhase) (tail : TailClient) (played rest : List Bytes)
    (items : List (Received TailEvent)) (reached : Nat) : Prop where
  sent : tail.sent = played.map .data ++ items.map tailFrame
  retained : opened.output.history.chunks = played ++ rest
  whole : items ≠ [] → rest = []
  within : opened.stream.length ≤ stream.length
  started : opened.events.length ≤ reached
  reaches : reached ≤ events.length
  accounts : Accounts items (between events opened.events.length reached)
  live : eventBytes (between events opened.events.length reached) <+:
    stream.drop opened.stream.length
  /-- While it is up, every event since its subscription is there to be read. -/
  current : tail.up = true →
    rest = tail.snapshot ∧ reached = tail.position ∧ (∀ item ∈ items, endsTail item = false) ∧
      eventBytes (events.drop opened.events.length) ++ phase.pending =
        stream.drop opened.stream.length
  ended : ∀ item ∈ items, endsTail item = true →
    phase = .ended ∧ rest = [] ∧
      eventBytes (between events opened.events.length reached) =
        stream.drop opened.stream.length ∧
        items.getLast? = some item

/--
The history is current, the last event is the last one, and every tail client is in step.

The tasks are those in which the tail clients subscribed, in turn.
-/
structure SessionTask.Watched (task : SessionTask) (subscriptions : List SessionTask) : Prop where
  retains : task.phase.isOpen = true → task.output.history.Retains task.stream
  last : ∀ (index : Nat) (event : TailEvent), task.events[index]? = some event →
    event.isLast = true → task.phase = .ended ∧ index + 1 = task.events.length
  subscribed : subscriptions.length = task.tails.length
  tails : ∀ (index : Nat) (opened : SessionTask) (tail : TailClient),
    subscriptions[index]? = some opened → task.tails[index]? = some tail →
      ∃ played rest items reached,
        tail.Kept opened task.events task.stream task.phase played rest items reached

@[simp] theorem eventBytes_append (events more : List TailEvent) :
    eventBytes (events ++ more) = eventBytes events ++ eventBytes more := List.flatMap_append

/-- Events up to a position carry less than all of them. -/
theorem eventBytes_between (events : List TailEvent) (start reached : Nat) :
    eventBytes (between events start reached) <+: eventBytes (events.drop start) := by
  -- The events after the position carry the rest.
  obtain ⟨later, split⟩ : between events start reached <+: events.drop start := by
    unfold between
    rw [List.drop_take]
    exact List.take_prefix _ _
  exact ⟨eventBytes later, by rw [← split, eventBytes_append]⟩

/-- A send writes its frame, or it failed. -/
theorem SendOutcome.written_cases (outcome : SendOutcome) {α : Type} (frame : α) :
    outcome.written frame = [frame] ∨ (outcome.written frame = [] ∧ outcome ≠ .sent) := by
  cases outcome with
  | sent => exact Or.inl rfl
  | failed buffered =>
    cases buffered with
    | true => exact Or.inl rfl
    | false => exact Or.inr ⟨rfl, by decide⟩

/-- A tail client is sent the exit only when it receives the exit. -/
theorem eq_of_tailFrame_exit {item : Received TailEvent} {code : Int32}
    (sent : tailFrame item = .exit code) : item = .event (.exit code) := by
  -- Everything else is sent as data, or as the shutdown.
  cases item with
  | lagged dropped => exact absurd sent (by simp [tailFrame])
  | event event =>
    cases event with
    | data chunk => exact absurd sent (by simp [tailFrame])
    | exit other => rw [Frame.exit.inj sent]
    | shutdown => exact absurd sent (by simp [tailFrame])

/-- A tail client is done with the last event. -/
theorem endsTail_event {item : Received TailEvent} (ends : endsTail item = true) :
    ∃ event, item = .event event ∧ event.isLast = true := by
  cases item with
  | lagged dropped => cases ends
  | event event =>
    cases event with
    | data chunk => cases ends
    | exit code => exact ⟨_, rfl, rfl⟩
    | shutdown => exact ⟨_, rfl, rfl⟩

/-- What looks like a last event is one. -/
theorem endsTail_of_tailFrame {item other : Received TailEvent} (ends : endsTail item = true)
    (same : tailFrame other = tailFrame item) : endsTail other = true := by
  obtain ⟨event, rfl, isLast⟩ := endsTail_event ends
  cases other with
  | lagged dropped =>
    -- A marker is data.
    cases event with
    | data chunk => cases isLast
    | exit code => exact absurd same (by simp [tailFrame])
    | shutdown => exact absurd same (by simp [tailFrame])
  | event other =>
    cases event with
    | data chunk => cases isLast
    | exit code => cases other <;> first | rfl | cases same
    | shutdown => cases other <;> first | rfl | cases same

namespace TailClient

variable {opened : SessionTask}

/-- What the session reads and broadcasts extends the account of a tail client. -/
theorem Kept.grow {events : List TailEvent} {stream : Bytes} {phase later : TaskPhase}
    {tail : TailClient} {played rest : List Bytes} {items : List (Received TailEvent)}
    {reached : Nat} (kept : tail.Kept opened events stream phase played rest items reached)
    (going : phase ≠ .ended) {more : List TailEvent} {bytes : Bytes}
    (carries : tail.up = true → eventBytes more ++ later.pending = phase.pending ++ bytes) :
    tail.Kept opened (events ++ more) (stream ++ bytes) later played rest items reached where
  sent := kept.sent
  retained := kept.retained
  whole := kept.whole
  within := by
    rw [List.length_append]
    exact Nat.le_add_right_of_le kept.within
  started := kept.started
  reaches := by
    rw [List.length_append]
    exact Nat.le_add_right_of_le kept.reaches
  accounts := by
    rw [between_more events more kept.reaches]
    exact kept.accounts
  live := by
    rw [between_more events more kept.reaches, List.drop_append_of_le_length kept.within]
    exact kept.live.trans (List.prefix_append _ _)
  current := by
    intro up
    obtain ⟨owed, at_, unended, complete⟩ := kept.current up
    refine ⟨owed, at_, unended, ?_⟩
    -- The events so far carry the stream so far, and the new ones what is new.
    have started : opened.events.length ≤ events.length := Nat.le_trans kept.started kept.reaches
    rw [List.drop_append_of_le_length started, eventBytes_append, List.append_assoc, carries up,
      ← List.append_assoc, complete, List.drop_append_of_le_length kept.within]
  ended := by
    intro item member ends
    -- Nothing is read or broadcast after the last event.
    exact absurd (kept.ended item member ends).1 going

/-- What is kept along a run says what the client was sent. -/
theorem Kept.follows {task : SessionTask} {tail : TailClient} {played rest : List Bytes}
    {items : List (Received TailEvent)} {reached : Nat} {later : Bytes}
    (kept : tail.Kept opened task.events task.stream task.phase played rest items reached)
    (read : task.stream = opened.stream ++ later) :
    tail.Follows opened later played items
      (between task.events opened.events.length reached) := by
  have rest_ : task.stream.drop opened.stream.length = later := by rw [read, List.drop_left]
  refine ⟨kept.sent, ⟨rest, kept.retained.symm⟩, fun something => ?_, kept.accounts, ?_, ?_⟩
  · rw [kept.retained, kept.whole something, List.append_nil]
  · rw [← rest_]
    exact kept.live
  · intro code exited
    -- It was sent for the exit itself, which is the last event.
    rw [kept.sent] at exited
    rcases List.mem_append.mp exited with retained | received
    · obtain ⟨chunk, -, is⟩ := List.mem_map.mp retained
      cases is
    · obtain ⟨item, member, is⟩ := List.mem_map.mp received
      obtain rfl := eq_of_tailFrame_exit is
      obtain ⟨-, none, everything, last⟩ := kept.ended _ member rfl
      rw [kept.retained, none, List.append_nil, ← rest_]
      exact ⟨rfl, everything, last⟩

/-- A client that is done was sent everything. -/
theorem Kept.upToDate_of_ended {task : SessionTask} {tail : TailClient} {played rest : List Bytes}
    {items : List (Received TailEvent)} {reached : Nat} {later : Bytes}
    (kept : tail.Kept opened task.events task.stream task.phase played rest items reached)
    (read : task.stream = opened.stream ++ later) {item : Received TailEvent} (member : item ∈ items)
    (ends : endsTail item = true) : tail.UpToDate opened task later := by
  obtain ⟨ended, none, everything, -⟩ := kept.ended item member ends
  refine ⟨items, _, ?_, kept.accounts, ?_⟩
  · rw [kept.retained, none, List.append_nil, kept.sent]
  · rw [everything, read, List.drop_left, ended]
    exact List.append_nil later

/-- A client that is up and has nothing more to do was sent everything. -/
theorem Kept.upToDate_of_idle {task : SessionTask} {tail : TailClient} {played rest : List Bytes}
    {items : List (Received TailEvent)} {reached : Nat} {later : Bytes}
    (kept : tail.Kept opened task.events task.stream task.phase played rest items reached)
    (read : task.stream = opened.stream ++ later) (up : tail.up = true)
    (nothing : tail.snapshot = []) (place : tail.position = task.events.length) :
    tail.UpToDate opened task later := by
  obtain ⟨same, rfl, -, complete⟩ := kept.current up
  refine ⟨items, _, ?_, kept.accounts, ?_⟩
  · rw [kept.retained, same, nothing, List.append_nil, kept.sent]
  -- The position is the end of the events.
  · rw [place, between_end, complete, read, List.drop_left]

/-- Where a last event was sent, it was received. -/
theorem Kept.mem_of_sent {events : List TailEvent} {stream : Bytes} {phase : TaskPhase}
    {tail : TailClient} {played rest : List Bytes} {items : List (Received TailEvent)}
    {reached : Nat} (kept : tail.Kept opened events stream phase played rest items reached)
    {item : Received TailEvent} (ends : endsTail item = true) (sent : tailFrame item ∈ tail.sent) :
    ∃ other ∈ items, endsTail other = true := by
  rw [kept.sent] at sent
  rcases List.mem_append.mp sent with retained | received
  -- A retained chunk is sent as data, and no last event is.
  · obtain ⟨chunk, -, is⟩ := List.mem_map.mp retained
    obtain ⟨event, rfl, isLast⟩ := endsTail_event ends
    cases event with
    | data chunk => cases isLast
    | exit code => cases is
    | shutdown => cases is
  · obtain ⟨other, member, is⟩ := List.mem_map.mp received
    exact ⟨other, member, endsTail_of_tailFrame ends is⟩

/-- The next retained chunk is sent, or the connection is lost. -/
theorem Kept.sendRetained {events : List TailEvent} {stream : Bytes} {phase : TaskPhase}
    {tail : TailClient} {played rest : List Bytes} {items : List (Received TailEvent)}
    {reached : Nat} (kept : tail.Kept opened events stream phase played rest items reached)
    (up : tail.up = true) {chunk : Bytes} {later : List Bytes}
    (owed : tail.snapshot = chunk :: later) (outcome : SendOutcome) :
    ∃ played rest, TailClient.Kept opened events stream phase
      { tail with
        snapshot := later
        sent := tail.sent ++ outcome.written (.data chunk)
        up := outcome = .sent } played rest items reached := by
  obtain ⟨rfl, place, unended, complete⟩ := kept.current up
  rw [owed] at kept
  -- As long as retained output is owed, nothing else was sent.
  have nothing : items = [] := by
    by_contra something
    exact absurd (kept.whole something) (by simp)
  subst nothing
  rcases outcome.written_cases (Frame.data chunk) with written | ⟨written, failed⟩
  · refine ⟨played ++ [chunk], later, ?_⟩
    rw [written]
    exact
      { sent := by
          show tail.sent ++ [Frame.data chunk] = _
          rw [kept.sent]
          simp
        retained := by
          rw [kept.retained, List.append_assoc, List.singleton_append]
        whole := fun something => absurd rfl something
        within := kept.within
        started := kept.started
        reaches := kept.reaches
        accounts := kept.accounts
        live := kept.live
        current := fun _ => ⟨rfl, place, unended, complete⟩
        ended := fun item none => absurd none List.not_mem_nil }
  · refine ⟨played, chunk :: later, ?_⟩
    rw [written, List.append_nil]
    exact
      { kept with
        current := fun up => absurd (of_decide_eq_true up) failed }

/-- The next event is sent, or its loss, or the connection is lost. -/
theorem Kept.sendEvent {events : List TailEvent} {stream : Bytes} {phase : TaskPhase}
    {tail : TailClient} {played rest : List Bytes} {items : List (Received TailEvent)}
    {reached position : Nat} {item : Received TailEvent}
    (kept : tail.Kept opened events stream phase played rest items reached)
    (last : ∀ (index : Nat) (event : TailEvent), events[index]? = some event →
      event.isLast = true → phase = .ended ∧ index + 1 = events.length)
    (up : tail.up = true) (owed : tail.snapshot = [])
    (received : receive tailCapacity events tail.position = some (item, position))
    (outcome : SendOutcome) :
    ∃ items reached, TailClient.Kept opened events stream phase
      { tail with
        position
        sent := tail.sent ++ outcome.written (tailFrame item)
        up := !endsTail item && outcome = .sent } played rest items reached := by
  obtain ⟨none, rfl, unended, complete⟩ := kept.current up
  rw [owed] at none
  subst none
  obtain ⟨forward, within, -⟩ := receive_accounts received
  -- What has been sent of the events is still the beginning of what is to follow.
  have live : eventBytes (between events opened.events.length position) <+: stream.drop opened.stream.length := by
    rw [← complete]
    exact (eventBytes_between events opened.events.length position).trans (List.prefix_append _ _)
  rcases outcome.written_cases (tailFrame item) with written | ⟨written, failed⟩
  · refine ⟨items ++ [item], position, ?_⟩
    rw [written]
    exact
      { sent := by
          show tail.sent ++ [tailFrame item] = _
          rw [kept.sent, List.map_append, List.map_singleton, List.append_assoc]
        retained := kept.retained
        whole := fun _ => rfl
        within := kept.within
        started := Nat.le_trans kept.started (Nat.le_of_lt forward)
        reaches := within
        accounts := kept.accounts.receive kept.started received
        live := live
        current := by
          intro stays
          obtain ⟨goesOn, -⟩ := Bool.and_eq_true_iff.mp stays
          refine ⟨owed.symm, rfl, ?_, complete⟩
          -- A tail client that receives its last event is done.
          refine List.forall_mem_append.mpr ⟨unended, List.forall_mem_singleton.mpr ?_⟩
          simpa using goesOn
        ended := by
          intro other member ends
          rcases List.mem_append.mp member with before | new
          · exact absurd ends (by rw [unended other before]; exact Bool.false_ne_true)
          · obtain rfl := List.mem_singleton.mp new
            -- It is the last event, and nothing is pending any more.
            obtain ⟨event, rfl, isLast⟩ := endsTail_event ends
            obtain ⟨there, rfl⟩ := receive_event received
            obtain ⟨ended, length⟩ := last _ _ there isLast
            refine ⟨ended, rfl, ?_, List.getLast?_concat⟩
            have everything : eventBytes (events.drop opened.events.length) =
                stream.drop opened.stream.length := by
              rw [← complete, ended]
              exact (List.append_nil _).symm
            rw [length, between_end]
            exact everything }
  · refine ⟨items, tail.position, ?_⟩
    rw [written, List.append_nil]
    exact
      { kept with
        current := fun stays =>
          absurd (of_decide_eq_true (Bool.and_eq_true_iff.mp stays).2) failed }

end TailClient

namespace SessionTask

/-- A broadcast adds its event, unless there is no tail client to tell. -/
theorem broadcast_events (task : SessionTask) (event : TailEvent) :
    ∃ more, (task.broadcast event).events = task.events ++ more ∧ (more = [event] ∨ more = []) ∧
      ∀ tail ∈ task.tails, tail.up = true → more = [event] := by
  by_cases told : 0 < task.receiverCount
  · refine ⟨[event], ?_, Or.inl rfl, fun _ _ _ => rfl⟩
    rw [broadcast, if_pos told]
  · refine ⟨[], ?_, Or.inr rfl, ?_⟩
    · rw [broadcast, if_neg told, List.append_nil]
    · -- A tail client whose task still listens is a receiver.
      intro tail member up
      exact absurd (List.countP_pos_iff.mpr ⟨tail, member, up⟩) told

/-- What is read is broadcast to the same tail clients as before. -/
theorem readOutput_events (task : SessionTask) (chunk : Bytes) :
    (task.readOutput chunk).events = (task.broadcast (.data chunk)).events := by
  -- Capturing the chunk changes neither the tail clients nor the events.
  unfold readOutput broadcast
  show (if 0 < task.receiverCount then _ else _ : SessionTask).events = _
  split <;> rfl

section Steps

variable {task : SessionTask} {subscriptions : List SessionTask}

/-- What is read goes to the history and to the tail clients, or waits to be handed on. -/
theorem Watched.grow (watched : Watched task subscriptions) (going : task.phase ≠ .ended) {next : SessionTask}
    {more : List TailEvent} {bytes : Bytes} (events : next.events = task.events ++ more)
    (stream : next.stream = task.stream ++ bytes) (tails : next.tails = task.tails)
    (carries : ∀ tail ∈ task.tails, tail.up = true →
      eventBytes more ++ next.phase.pending = task.phase.pending ++ bytes)
    (retains : next.phase.isOpen = true → next.output.history.Retains next.stream)
    (last : ∀ (index : Nat) (event : TailEvent), more[index]? = some event →
      event.isLast = true → next.phase = .ended ∧ index + 1 = more.length) : Watched next subscriptions where
  retains := retains
  last := by
    intro index event found isLast
    rw [events] at found ⊢
    by_cases before : index < task.events.length
    · -- No earlier event was the last one, since the session still went on.
      rw [List.getElem?_append_left before] at found
      exact absurd (watched.last index event found isLast).1 going
    · rw [List.getElem?_append_right (by omega)] at found
      obtain ⟨ended, length⟩ := last _ event found isLast
      refine ⟨ended, ?_⟩
      rw [List.length_append]
      omega
  subscribed := by rw [tails, watched.subscribed]
  tails := by
    rw [tails, events, stream]
    intro index opened tail subscribed found
    obtain ⟨played, rest, items, reached, kept⟩ := watched.tails index opened tail subscribed found
    exact ⟨played, rest, items, reached,
      kept.grow going (carries tail (List.mem_of_getElem? found))⟩

/-- An event is broadcast. -/
theorem Watched.tell (watched : Watched task subscriptions) (going : task.phase ≠ .ended) {next : SessionTask}
    {event : TailEvent} {bytes : Bytes} (events : next.events = (task.broadcast event).events)
    (stream : next.stream = task.stream ++ bytes) (tails : next.tails = task.tails)
    (carries : eventBytes [event] ++ next.phase.pending = task.phase.pending ++ bytes)
    (retains : next.phase.isOpen = true → next.output.history.Retains next.stream)
    (last : event.isLast = true → next.phase = .ended) : Watched next subscriptions := by
  obtain ⟨more, added, single, told⟩ := task.broadcast_events event
  refine watched.grow going (events.trans added) stream tails ?_ retains ?_
  · intro tail member up
    rw [told tail member up]
    exact carries
  · intro index other found isLast
    rcases single with rfl | rfl
    · -- The event is the only new one.
      obtain ⟨rfl, rfl⟩ : index = 0 ∧ event = other := by
        cases index with
        | zero => exact ⟨rfl, Option.some.inj found⟩
        | succ index => simp at found
      exact ⟨last isLast, rfl⟩
    · simp at found

/-- An event is broadcast by a session that takes no clients any more, and nothing is read. -/
theorem Watched.announce (watched : Watched task subscriptions) (going : task.phase ≠ .ended)
    (event : TailEvent) {next : SessionTask} (events : next.events = (task.broadcast event).events)
    (stream : next.stream = (task.broadcast event).stream)
    (tails : next.tails = (task.broadcast event).tails)
    (carries : eventBytes [event] ++ next.phase.pending = task.phase.pending)
    (closed : next.phase.isOpen = false) (last : event.isLast = true → next.phase = .ended) :
    Watched next subscriptions := by
  have unread : next.stream = task.stream ++ [] := by
    rw [stream, broadcast_stream, List.append_nil]
  refine watched.tell going events unread (tails.trans (broadcast_tails _ _)) ?_ ?_ last
  · rw [carries, List.append_nil]
  · intro isOpen
    exact absurd (closed.symm.trans isOpen) (by simp)

/-- Nothing is broadcast. -/
theorem Watched.quiet (watched : Watched task subscriptions) (going : task.phase ≠ .ended) {next : SessionTask}
    {bytes : Bytes} (events : next.events = task.events)
    (stream : next.stream = task.stream ++ bytes) (tails : next.tails = task.tails)
    (carries : next.phase.pending = task.phase.pending ++ bytes)
    (retains : next.phase.isOpen = true → next.output.history.Retains next.stream) :
    Watched next subscriptions := by
  have unchanged : next.events = task.events ++ [] := by rw [events, List.append_nil]
  refine watched.grow going unchanged stream tails (fun _ _ _ => carries) retains ?_
  intro index event found
  simp at found

/-- An open session waits for its shell. -/
theorem isOpen_going {phase : TaskPhase} (isOpen : phase.isOpen = true) :
    phase ≠ .ended ∧ phase.pending = [] := by
  cases phase with
  | awaitingClient => exact ⟨by simp, rfl⟩
  | relaying client => exact ⟨by simp, rfl⟩
  | replaying client takeover pending after => exact ⟨by simp, rfl⟩
  | draining client chunks code => exact absurd isOpen (by simp [TaskPhase.isOpen])
  | exiting code => exact absurd isOpen (by simp [TaskPhase.isOpen])
  | ended => exact absurd isOpen (by simp [TaskPhase.isOpen])

/-- A step of an open session that reads nothing. -/
theorem Watched.idle (watched : Watched task subscriptions) (isOpen : task.phase.isOpen = true)
    {next : SessionTask} (events : next.events = task.events) (stream : next.stream = task.stream)
    (tails : next.tails = task.tails) (history : next.output.history = task.output.history)
    (stays : next.phase.isOpen = true) : Watched next subscriptions := by
  obtain ⟨going, nothing⟩ := isOpen_going isOpen
  refine watched.quiet going events (stream.trans (List.append_nil _).symm) tails ?_ ?_
  · rw [nothing, (isOpen_going stays).2]
    rfl
  · intro _
    rw [history, stream]
    exact watched.retains isOpen

/-- A chunk is read in an open session. -/
theorem Watched.read (watched : Watched task subscriptions) (isOpen : task.phase.isOpen = true) (chunk : Bytes) :
    Watched (task.readOutput chunk) subscriptions := by
  obtain ⟨going, nothing⟩ := isOpen_going isOpen
  refine watched.tell going (readOutput_events task chunk) (readOutput_stream _ _)
    (readOutput_tails _ _) ?_ ?_ (fun isLast => absurd isLast (by simp [TailEvent.isLast]))
  · rw [readOutput_phase, nothing]
    simp [eventBytes]
  · intro _
    rw [readOutput_output, readOutput_stream, SessionOutput.capture_history]
    exact (watched.retains isOpen).push chunk

/-- Chunk after chunk is read in an open session. -/
theorem Watched.readAll (watched : Watched task subscriptions) (isOpen : task.phase.isOpen = true)
    (chunks : List Bytes) :
    Watched (chunks.foldl readOutput task) subscriptions ∧
      (chunks.foldl readOutput task).phase = task.phase := by
  -- The induction follows the chunks; each is read in the phase the last one left.
  induction chunks generalizing task with
  | nil => exact ⟨watched, rfl⟩
  | cons chunk later ih =>
    have still : (task.readOutput chunk).phase.isOpen = true := by rwa [readOutput_phase]
    obtain ⟨after, phase⟩ := ih (watched.read isOpen chunk) still
    exact ⟨after, phase.trans (readOutput_phase _ _)⟩

end Steps

end SessionTask

namespace SessionTask

section Steps

variable {task : SessionTask} {subscriptions : List SessionTask}

/-- A new tail client is owed all the retained output. -/
theorem Watched.subscribe (watched : Watched task subscriptions) (isOpen : task.phase.isOpen = true) :
    Watched task.subscribe (subscriptions ++ [task]) where
  retains := watched.retains
  last := watched.last
  subscribed := by
    show _ = (task.tails ++ [_]).length
    rw [List.length_append, List.length_append, watched.subscribed]
    rfl
  tails := by
    intro index opened tail subscribed found
    replace found : (task.tails ++ [_])[index]? = some tail := found
    by_cases before : index < task.tails.length
    · rw [List.getElem?_append_left before] at found
      rw [List.getElem?_append_left (watched.subscribed ▸ before)] at subscribed
      exact watched.tails index opened tail subscribed found
    -- It is the one that subscribes now.
    · obtain rfl : index = task.tails.length := by
        have within := (List.getElem?_eq_some_iff.mp found).1
        rw [List.length_append, List.length_singleton] at within
        omega
      rw [List.getElem?_concat_length] at found
      rw [← watched.subscribed, List.getElem?_concat_length] at subscribed
      cases found
      cases subscribed
      refine ⟨[], task.output.history.chunks, [], task.events.length, ?_⟩
      exact
        { sent := rfl
          retained := rfl
          whole := fun something => absurd rfl something
          within := Nat.le_refl _
          started := Nat.le_refl _
          reaches := Nat.le_refl _
          accounts := by
            rw [between_self]
            exact Accounts.nil
          live := by
            rw [between_self]
            exact List.nil_prefix
          current := by
            intro _
            refine ⟨rfl, rfl, fun _ none => absurd none List.not_mem_nil, ?_⟩
            -- Nothing was read or broadcast since.
            show eventBytes (task.events.drop task.events.length) ++ task.phase.pending =
              task.stream.drop task.stream.length
            rw [List.drop_length, List.drop_length, (isOpen_going isOpen).2]
            rfl
          ended := fun _ none => absurd none List.not_mem_nil }

/-- One tail client is sent something, or leaves. -/
theorem Watched.setTail (watched : Watched task subscriptions) (index : Nat) {tail : TailClient}
    (kept : ∀ opened, subscriptions[index]? = some opened → ∃ played rest items reached,
      tail.Kept opened task.events task.stream task.phase played rest items reached) :
    Watched { task with tails := task.tails.set index tail } subscriptions where
  retains := watched.retains
  last := watched.last
  subscribed := by
    show _ = (task.tails.set index tail).length
    rw [List.length_set, watched.subscribed]
  tails := by
    intro place opened other subscribed found
    replace found : (task.tails.set index tail)[place]? = some other := found
    -- It is the changed one, or one of the others.
    by_cases same : index = place
    · subst same
      have within := (List.getElem?_eq_some_iff.mp found).1
      rw [List.length_set] at within
      rw [List.getElem?_set_self within] at found
      cases found
      exact kept opened subscribed
    · rw [List.getElem?_set_ne same] at found
      exact watched.tails place opened other subscribed found

/-- A session that nobody has subscribed to. -/
theorem watched_new (cap : Nat) : Watched (.new cap) [] where
  retains := fun _ => History.retains_new cap
  last := fun index event found => absurd found (by simp [new])
  subscribed := rfl
  tails := fun index opened tail none => absurd none (by simp)

/-- Who subscribes in a step: the task it is, to be looked back at. -/
def subscriptionsIn (task : SessionTask) : TaskAction → List SessionTask
  | .subscribe => [task]
  | _ => []

/-- Only a session whose shell has not exited takes tail clients. -/
theorem subscribe_isOpen (chrome : Chrome) {next : SessionTask}
    (stepped : task.step chrome .subscribe = some next) : task.phase.isOpen = true := by
  cases step_change stepped with
  | subscribed idle =>
    rcases idle with awaiting | ⟨client, relaying⟩
    · rw [awaiting]; rfl
    · rw [relaying]; rfl

/-- No step loses a tail client any output. -/
theorem watched_step {chrome : Chrome} {next : SessionTask} {action : TaskAction}
    (watched : Watched task subscriptions) (stepped : task.step chrome action = some next) :
    Watched next (subscriptions ++ task.subscriptionsIn action) := by
  -- Only one action subscribes; all the others keep the subscriptions as they are.
  by_cases subscribes : action = .subscribe
  · subst subscribes
    cases step_change stepped with
    | subscribed => exact watched.subscribe (subscribe_isOpen _ stepped)
  have same : subscriptions ++ task.subscriptionsIn action = subscriptions := by
    cases action <;> first | exact List.append_nil _ | exact absurd rfl subscribes
  rw [same]
  cases step_change stepped with
  | heard nonempty awaiting => exact watched.read (by rw [awaiting]; rfl) _
  | @relayed chunk client nonempty relaying =>
    have isOpen : task.phase.isOpen = true := by rw [relaying]; rfl
    have after := watched.read isOpen chunk
    have still : (task.readOutput chunk).phase.isOpen = true := by rwa [readOutput_phase]
    exact after.idle still rfl rfl rfl rfl still
  | @relayFailed chunk client buffered nonempty relaying =>
    have isOpen : task.phase.isOpen = true := by rw [relaying]; rfl
    have after := watched.read isOpen chunk
    have still : (task.readOutput chunk).phase.isOpen = true := by rwa [readOutput_phase]
    exact after.idle still rfl rfl rfl rfl rfl
  | left relaying => exact watched.idle (by rw [relaying]; rfl) rfl rfl rfl rfl rfl
  | pickedUp awaiting => exact watched.idle (by rw [awaiting]; rfl) rfl rfl rfl rfl rfl
  | tookOver relaying => exact watched.idle (by rw [relaying]; rfl) rfl rfl rfl rfl rfl
  | replayed replaying => exact watched.idle (by rw [replaying]; rfl) rfl rfl rfl rfl rfl
  | @replayFailed client takeover buffered frame later after replaying =>
    refine watched.idle (by rw [replaying]; rfl) rfl rfl rfl rfl ?_
    -- The client is relayed to, or detached: either way the shell goes on.
    cases takeover <;> rfl
  | @redrawn client takeover chunk nonempty replaying =>
    have isOpen : task.phase.isOpen = true := by rw [replaying]; rfl
    have after := watched.read isOpen chunk
    have still : (task.readOutput chunk).phase.isOpen = true := by rwa [readOutput_phase]
    exact after.idle still rfl rfl rfl rfl still
  | @redrawFailed client takeover buffered chunk nonempty replaying =>
    have isOpen : task.phase.isOpen = true := by rw [replaying]; rfl
    have after := watched.read isOpen chunk
    have still : (task.readOutput chunk).phase.isOpen = true := by rwa [readOutput_phase]
    refine after.idle still rfl rfl rfl rfl ?_
    cases takeover <;> rfl
  | synced replaying => exact watched.idle (by rw [replaying]; rfl) rfl rfl rfl rfl rfl
  | @exitedDetached chunks code awaiting =>
    have isOpen : task.phase.isOpen = true := by rw [awaiting]; rfl
    obtain ⟨after, phase⟩ := watched.readAll isOpen chunks
    have going : (chunks.foldl readOutput task).phase ≠ .ended := by
      rw [phase]
      exact (isOpen_going isOpen).1
    refine after.quiet going rfl (List.append_nil _).symm rfl ?_ (fun closed => absurd closed ?_)
    · rw [phase, awaiting]
      rfl
    · simp [TaskPhase.isOpen]
  | @exitedAttached chunks code client relaying =>
    refine watched.quiet (by simp [relaying]) rfl rfl rfl ?_ (fun closed => absurd closed ?_)
    · -- All of the last output is still to be handed on.
      rw [relaying]
      rfl
    · simp [TaskPhase.isOpen]
  | @drained outcome client chunk later code draining =>
    refine watched.announce (by simp [draining]) (.data chunk) rfl rfl rfl ?_ rfl
      (fun isLast => absurd isLast (by simp [TailEvent.isLast]))
    rw [draining]
    simp [TaskPhase.pending, eventBytes]
  | @announced code complete =>
    obtain ⟨going, nothing⟩ : task.phase ≠ .ended ∧ task.phase.pending = [] := by
      rcases complete with ⟨client, draining⟩ | exiting
      · rw [draining]
        exact ⟨by simp, rfl⟩
      · rw [exiting]
        exact ⟨by simp, rfl⟩
    refine watched.announce going (.exit code) rfl rfl rfl ?_ rfl (fun _ => rfl)
    rw [nothing]
    rfl
  | shutDown idle =>
    have isOpen : task.phase.isOpen = true := by
      rcases idle with awaiting | ⟨client, relaying⟩
      · rw [awaiting]; rfl
      · rw [relaying]; rfl
    obtain ⟨going, nothing⟩ := isOpen_going isOpen
    refine watched.announce going .shutdown rfl rfl rfl ?_ rfl (fun _ => rfl)
    rw [nothing]
    rfl
  | subscribed idle => exact absurd rfl subscribes
  | @tailSent index outcome tail next frame ends found up follows =>
    apply watched.setTail index
    intro opened subscribed
    obtain ⟨played, rest, items, reached, kept⟩ := watched.tails index opened tail subscribed found
    unfold TailClient.next at follows
    split at follows
    · next chunk later owed =>
      obtain ⟨rfl, rfl, rfl⟩ := by simpa using follows
      obtain ⟨played, rest, kept⟩ := kept.sendRetained up owed outcome
      refine ⟨played, rest, items, reached, ?_⟩
      simpa using kept
    · next owed =>
      split at follows
      · next item position received =>
        obtain ⟨rfl, rfl, rfl⟩ := by simpa using follows
        obtain ⟨items, reached, kept⟩ := kept.sendEvent watched.last up owed received outcome
        exact ⟨played, rest, items, reached, kept⟩
      · simp at follows
  | @tailLeft index tail found =>
    apply watched.setTail index
    intro opened subscribed
    obtain ⟨played, rest, items, reached, kept⟩ := watched.tails index opened tail subscribed found
    exact ⟨played, rest, items, reached, { kept with current := fun up => absurd up (by simp) }⟩

/-- The stream grows by what is read. -/
theorem step_reads {chrome : Chrome} {next : SessionTask} {action : TaskAction}
    (stepped : task.step chrome action = some next) :
    next.stream = task.stream ++ action.reads := by
  have folded (chunks : List Bytes) : ∀ task : SessionTask,
      (chunks.foldl readOutput task).stream = task.stream ++ chunks.flatten := by
    induction chunks with
    | nil => exact fun task => (List.append_nil _).symm
    | cons chunk later ih =>
      intro task
      rw [List.foldl_cons, ih, readOutput_stream, List.flatten_cons, List.append_assoc]
  -- An action that reads nothing leaves the stream as it is.
  cases step_change stepped with
  | heard | relayed | relayFailed | redrawn => exact readOutput_stream _ _
  | @redrawFailed client takeover buffered chunk =>
    cases takeover <;> exact readOutput_stream _ _
  | exitedDetached => exact folded _ task
  | exitedAttached => rfl
  | drained => exact (broadcast_stream _ _).trans (List.append_nil _).symm
  | announced => exact (broadcast_stream _ _).trans (List.append_nil _).symm
  | shutDown => exact (broadcast_stream _ _).trans (List.append_nil _).symm
  | @replayFailed client takeover =>
    cases takeover <;> exact (List.append_nil _).symm
  | _ => exact (List.append_nil _).symm

/-- The stream is what the actions have read in turn. -/
theorem run_reads {chrome : Chrome} {cap : Nat} {last : SessionTask} {actions : List TaskAction}
    (ran : (sessionTask chrome cap).run task actions = some last) :
    last.stream = task.stream ++ actions.flatMap TaskAction.reads := by
  induction actions generalizing task with
  | nil =>
    obtain rfl : task = last := Option.some.inj ran
    exact (List.append_nil _).symm
  | cons action later ih =>
    cases stepped : (sessionTask chrome cap).step task action with
    | none => simp [Machine.run, stepped] at ran
    | some next =>
      rw [Machine.run_cons stepped] at ran
      rw [ih ran, step_reads stepped, List.flatMap_cons, List.append_assoc]

/-- How much a tail client is still to be sent. -/
def owedTo (task : SessionTask) (tail : TailClient) : Nat :=
  tail.snapshot.length + (task.events.length - tail.position)

/-- A tail client that is up and is owed something can be sent some of it. -/
theorem tailSend_owed (chrome : Chrome) {index : Nat} {tail : TailClient}
    (found : task.tails[index]? = some tail) (up : tail.up = true) (owed : 0 < task.owedTo tail) :
    ∃ next follower, task.step chrome (.tailSend index .sent) = some next ∧
      next.tails[index]? = some follower ∧ next.phase = task.phase ∧
        next.owedTo follower < task.owedTo tail ∧
        (follower.up = true ∨ ∃ item, endsTail item = true ∧ tailFrame item ∈ follower.sent) := by
  have within := (List.getElem?_eq_some_iff.mp found).1
  have set (other : TailClient) : (task.tails.set index other)[index]? = some other :=
    List.getElem?_set_self within
  unfold owedTo at owed ⊢
  cases snapshot : tail.snapshot with
  -- The retained output comes first.
  | cons chunk later =>
    have stepped : task.step chrome (.tailSend index .sent) =
        some { task with
          tails := task.tails.set index
            { tail with snapshot := later, sent := tail.sent ++ [.data chunk], up := true } } := by
      simp only [step, tailSend, found, if_pos up, TailClient.next, snapshot]
      rfl
    refine ⟨_, _, stepped, set _, rfl, ?_, Or.inl rfl⟩
    show later.length + _ < (chunk :: later).length + _
    rw [List.length_cons]
    exact Nat.add_lt_add_right (Nat.lt_succ_self _) _
  | nil =>
    rw [snapshot, List.length_nil, Nat.zero_add] at owed
    -- There is an event at its position, or it has fallen too far behind for that.
    obtain ⟨item, position, received⟩ := receive_some tailCapacity (Nat.lt_of_sub_pos owed)
    have stepped : task.step chrome (.tailSend index .sent) =
        some { task with
          tails := task.tails.set index
            { tail with
              position
              sent := tail.sent ++ [tailFrame item]
              up := !endsTail item && decide (SendOutcome.sent = .sent) } } := by
      simp only [step, tailSend, found, if_pos up, TailClient.next, snapshot, received]
      rfl
    refine ⟨_, _, stepped, set _, rfl, ?_, ?_⟩
    · obtain ⟨forward, -, -⟩ := receive_accounts received
      show tail.snapshot.length + (task.events.length - position) <
        ([] : List Bytes).length + (task.events.length - tail.position)
      rw [snapshot, List.length_nil]
      omega
    · cases ends : endsTail item with
      | false => exact Or.inl (by simp)
      | true => exact Or.inr ⟨item, ends, List.mem_append_right _ List.mem_cons_self⟩

/-- A tail client that is up is soon sent everything there is, if it takes it. -/
theorem Watched.drains {chrome : Chrome} {cap index owed : Nat} {opened : SessionTask}
    {tail : TailClient} {later : Bytes} (watched : Watched task subscriptions)
    (subscribed : subscriptions[index]? = some opened) (found : task.tails[index]? = some tail)
    (up : tail.up = true) (read : task.stream = opened.stream ++ later)
    (most : task.owedTo tail = owed) :
    ∃ count final follower,
      (sessionTask chrome cap).run task (List.replicate count (.tailSend index .sent)) =
          some final ∧
        final.tails[index]? = some follower ∧ follower.UpToDate opened task later := by
  -- The induction is on what it is owed, of which every send takes something off.
  induction owed using Nat.strong_induction_on generalizing task tail subscriptions with
  | _ owed ih =>
    obtain ⟨played, rest, items, reached, kept⟩ := watched.tails index opened tail subscribed found
    by_cases nothing : task.owedTo tail = 0
    · obtain ⟨none, place⟩ := Nat.add_eq_zero_iff.mp nothing
      obtain ⟨-, at_, -, -⟩ := kept.current up
      have end_ : tail.position = task.events.length := by
        have before := kept.reaches
        omega
      exact ⟨0, task, tail, rfl, found,
        kept.upToDate_of_idle read up (List.length_eq_zero_iff.mp none) end_⟩
    obtain ⟨next, follower, stepped, there, phase, less, goesOn⟩ :=
      tailSend_owed chrome found up (Nat.pos_of_ne_zero nothing)
    have after := watched_step watched stepped
    have readNext : next.stream = opened.stream ++ later := by
      rw [step_reads stepped, read]
      exact List.append_nil _
    replace subscribed : (subscriptions ++ task.subscriptionsIn (.tailSend index .sent))[index]? =
        some opened := by
      rw [← subscribed]
      exact congrArg (·[index]?) (List.append_nil _)
    have same : follower.UpToDate opened next later → follower.UpToDate opened task later := by
      unfold TailClient.UpToDate
      rw [phase]
      exact id
    rcases goesOn with stays | ⟨item, ends, sent⟩
    · obtain ⟨count, final, last, ran, foundLast, complete⟩ :=
        ih _ (most ▸ less) after subscribed there stays readNext rfl
      refine ⟨count + 1, final, last, ?_, foundLast, ?_⟩
      · rw [List.replicate_succ, Machine.run_cons stepped]
        exact ran
      · unfold TailClient.UpToDate at complete ⊢
        rwa [phase] at complete
    -- It was sent the last event, which comes after everything else.
    · obtain ⟨played, rest, items, reached, kept⟩ :=
        after.tails index opened follower subscribed there
      obtain ⟨other, member, isLast⟩ := kept.mem_of_sent ends sent
      exact ⟨1, next, follower, Machine.run_cons stepped, there,
        same (kept.upToDate_of_ended readNext member isLast)⟩

end Steps

end SessionTask

/-- What a tail client is sent from its subscription on, where some output was read before and some since. -/
structure TailClient.SentAlong (chrome : Chrome) (cap : Nat) (opened last : SessionTask)
    (earlier later : Bytes) : Prop where
  /-- The history at the subscription retains the end of what was read until then. -/
  retains : opened.output.history.chunks.flatten = earlier.drop opened.output.history.base
  /-- Whatever it was sent until now is the retained output and then what was read since. -/
  follows : ∃ tail played items seen, last.tails[opened.tails.length]? = some tail ∧
    tail.Follows opened later played items seen
  /-- Where nothing more can be sent to it on a connection that is up, it was sent everything. -/
  idle : ∀ tail, last.tails[opened.tails.length]? = some tail → tail.up = true →
    last.step chrome (.tailSend opened.tails.length .sent) = none → tail.UpToDate opened last later
  /-- If it takes what it is sent, it is sent everything. -/
  drains : ∀ tail, last.tails[opened.tails.length]? = some tail → tail.up = true →
    ∃ count final follower,
      (sessionTask chrome cap).run last
          (List.replicate count (.tailSend opened.tails.length .sent)) = some final ∧
        final.tails[opened.tails.length]? = some follower ∧ follower.UpToDate opened last later

/-- A screen without a status line. -/
def plainChrome : Chrome := { cursorRestore := fun _ _ => [], formatSize := toString }

/-- A client that saw everything takes the session over, and then the shell exits. -/
def watchedTakeover : List TaskAction :=
  [.tailSend 0 .sent, .output [2] .sent, .clientGone, .output [3] .sent,
    .attach { renderedOffset := 3, lineDirty := false, isFresh := false, cols := 80, rows := 24 },
    .replaySend .sent, .replaySend .sent, .replayEnd, .shellExit [[4], [5]] 7, .drain .sent,
    .tailSend 0 .sent, .drain (.failed false), .announceExit, .tailSend 0 .sent, .tailSend 0 .sent,
    .tailSend 0 .sent, .tailSend 0 .sent]

/-- It was sent every byte, and then the exit. -/
example : ((sessionTask plainChrome 16).run (sessionTask plainChrome 16).init
    (.output [1] .sent :: .subscribe :: watchedTakeover)).map (fun last =>
      last.tails.map (·.sent)) =
    some [[.data [1], .data [2], .data [3], .data [4], .data [5], .exit 7]] := by
  decide +kernel

end Gritty
