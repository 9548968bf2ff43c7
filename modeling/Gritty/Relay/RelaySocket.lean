import Gritty.Protocol.Frame

/-! A connected socket of a forwarded channel, with the application at its far end and the two tasks that relay it. -/

namespace Gritty

/-- How many chunks may wait for a writer task. -/
def channelRelayBuffer : Nat := 64

/-- How much a reader task reads at once. -/
def channelRelayReadSize : Nat := 32 * 1024

/-- What is said about one channel, by the events of an end and by the frames between the ends. -/
inductive ChannelMessage where
  | opens
  | data (bytes : Bytes)
  | closes
  deriving DecidableEq

/-- A message brings bytes. -/
def ChannelMessage.carries : ChannelMessage → Bool
  | .data _ => true
  | _ => false

/-- The bytes in some messages, in their order. -/
def bytesOf (messages : List ChannelMessage) : Bytes :=
  messages.flatMap fun
    | .data bytes => bytes
    | _ => []

@[simp] theorem bytesOf_nil : bytesOf [] = [] := rfl

@[simp] theorem bytesOf_cons_opens (messages : List ChannelMessage) :
    bytesOf (.opens :: messages) = bytesOf messages := rfl

@[simp] theorem bytesOf_cons_data (bytes : Bytes) (messages : List ChannelMessage) :
    bytesOf (.data bytes :: messages) = bytes ++ bytesOf messages := rfl

@[simp] theorem bytesOf_cons_closes (messages : List ChannelMessage) :
    bytesOf (.closes :: messages) = bytesOf messages := rfl

@[simp] theorem bytesOf_append (first second : List ChannelMessage) :
    bytesOf (first ++ second) = bytesOf first ++ bytesOf second :=
  List.flatMap_append

/-- A socket as its application, its reader task and its writer task have left it. -/
structure RelaySocket where
  /-- All that the application has sent. -/
  sent : Bytes
  /-- The application has closed or half-closed its side. -/
  ended : Bool
  /-- How much of it the reader task has read. -/
  read : Nat
  /-- The reader task goes on. -/
  reading : Bool
  /-- The chunks that wait for the writer task. -/
  queue : List Bytes
  /-- What is left to write of the chunk that the writer task took. -/
  current : Bytes
  /-- All that was written to the application. -/
  written : Bytes
  /-- The writer task goes on. -/
  writing : Bool
  /-- The application was given the end of the stream. -/
  finished : Bool
  /-- Reading or writing failed. -/
  failed : Bool
  deriving DecidableEq

/-- What happens at a socket. -/
inductive SocketAction where
  /-- The application sends. -/
  | sends (bytes : Bytes)
  /-- The application closes or half-closes its side. -/
  | ends
  /-- The reader task reads so many bytes. -/
  | reads (count : Nat)
  /-- The reader task reads the end of the stream. -/
  | readsEnd
  | readFails
  /-- The writer task takes a chunk. -/
  | takes
  /-- The writer task writes so many bytes of its chunk. -/
  | writes (count : Nat)
  | writeFails
  /-- The writer task gives the application the end of the stream. -/
  | shutsDown
  deriving DecidableEq

namespace RelaySocket

/-- A socket that was just connected. -/
def new : RelaySocket where
  sent := []
  ended := false
  read := 0
  reading := true
  queue := []
  current := []
  written := []
  writing := true
  finished := false
  failed := false

/-- What the reader task has read. -/
def readBytes (socket : RelaySocket) : Bytes := socket.sent.take socket.read

/-- What the writer task has still to write. -/
def pending (socket : RelaySocket) : Bytes := socket.current ++ socket.queue.flatten

/-- The queue of the writer task takes no chunk. -/
def writerFull (socket : RelaySocket) : Bool :=
  decide (channelRelayBuffer ≤ socket.queue.length) || !socket.writing

/-- A chunk for the writer task. -/
def enqueue (socket : RelaySocket) (bytes : Bytes) : RelaySocket :=
  { socket with queue := socket.queue ++ [bytes] }

/-- One action, and what the reader task reports. The writer task goes on while somebody may send it chunks. -/
def step (held : Bool) (socket : RelaySocket) :
    SocketAction → Option (RelaySocket × List ChannelMessage)
  | .sends bytes =>
    if socket.ended then none else some ({ socket with sent := socket.sent ++ bytes }, [])
  | .ends => if socket.ended then none else some ({ socket with ended := true }, [])
  | .reads count =>
    if socket.reading ∧ 0 < count ∧ count ≤ channelRelayReadSize ∧
        socket.read + count ≤ socket.sent.length then
      some ({ socket with read := socket.read + count },
        [.data ((socket.sent.drop socket.read).take count)])
    else none
  | .readsEnd =>
    if socket.reading ∧ socket.ended ∧ socket.read = socket.sent.length then
      some ({ socket with reading := false }, [.closes])
    else none
  | .readFails =>
    if socket.reading then some ({ socket with reading := false, failed := true }, [.closes])
    else none
  | .takes =>
    match socket.queue with
    | chunk :: later =>
      if socket.writing ∧ socket.current = [] then
        some ({ socket with current := chunk, queue := later }, [])
      else none
    | [] => none
  | .writes count =>
    if socket.writing ∧ 0 < count ∧ count ≤ socket.current.length then
      some ({ socket with
        written := socket.written ++ socket.current.take count
        current := socket.current.drop count }, [])
    else none
  | .writeFails =>
    if socket.writing ∧ socket.current ≠ [] then
      some ({ socket with writing := false, finished := true, failed := true }, [])
    else none
  | .shutsDown =>
    -- The channel to the writer task is closed and empty.
    if socket.writing ∧ socket.current = [] ∧ socket.queue = [] ∧ held = false then
      some ({ socket with writing := false, finished := true }, [])
    else none

/-- All that the writer task was given, written or not. -/
def received (socket : RelaySocket) : Bytes := socket.written ++ socket.pending

/-- What the tasks of a socket agree on. -/
structure Sound (socket : RelaySocket) : Prop where
  within : socket.read ≤ socket.sent.length
  /-- The reader task ends at the end of the stream, or because reading failed. -/
  read : socket.reading = false →
    socket.failed = true ∨ socket.ended = true ∧ socket.read = socket.sent.length
  /-- The writer task gives the end of the stream last, and after all chunks. -/
  writing : socket.finished = true → socket.writing = false
  drained : socket.finished = true → socket.failed = true ∨ socket.pending = []

theorem sound_new : new.Sound where
  within := Nat.le_refl _
  read := nofun
  writing := nofun
  drained := nofun

@[simp] theorem received_new : new.received = [] := rfl

@[simp] theorem readBytes_new : new.readBytes = [] := rfl

@[simp] theorem received_enqueue (socket : RelaySocket) (bytes : Bytes) :
    (socket.enqueue bytes).received = socket.received ++ bytes := by
  simp [enqueue, received, pending]

/-- A queue that takes a chunk is that of a writer task that goes on. -/
theorem Sound.enqueue {socket : RelaySocket} (sound : socket.Sound)
    (room : socket.writerFull = false) (bytes : Bytes) : (socket.enqueue bytes).Sound := by
  have writing : socket.writing = true := by
    rw [writerFull, Bool.or_eq_false_iff, Bool.not_eq_false'] at room
    exact room.2
  have unfinished : socket.finished = false := by
    rw [Bool.eq_false_iff]
    intro finished
    rw [sound.writing finished] at writing
    cases writing
  refine ⟨sound.within, sound.read, fun finished => ?_, fun finished => ?_⟩
  all_goals
    have same : socket.finished = true := finished
    rw [unfinished] at same
    cases same

/-- What an action does to a socket, as far as the other end can notice. -/
inductive Effect (socket next : RelaySocket) : List ChannelMessage → Prop where
  | quiet (read : next.readBytes = socket.readBytes) (reading : next.reading = socket.reading) :
      Effect socket next []
  /-- The reader task has read a chunk. -/
  | reads (chunk : Bytes) (read : next.readBytes = socket.readBytes ++ chunk)
      (going : socket.reading = true) (reading : next.reading = true) :
      Effect socket next [.data chunk]
  /-- The reader task has come to its end. -/
  | ends (read : next.readBytes = socket.readBytes) (going : socket.reading = true)
      (reading : next.reading = false) : Effect socket next [.closes]

/-- What an action keeps, and what it does. -/
structure Stepped (held : Bool) (socket next : RelaySocket) (reports : List ChannelMessage) :
    Prop where
  sound : next.Sound
  effect : Effect socket next reports
  received : next.received = socket.received
  /-- The end of the stream is given when nobody may send chunks any more. -/
  finished : next.finished = true → socket.finished = true ∨ next.failed = true ∨ held = false
  failed : socket.failed = true → next.failed = true

variable {held : Bool} {socket next : RelaySocket} {reports : List ChannelMessage}

/-- A reader task reports bytes and its end only. -/
theorem Stepped.unopening (stepped : Stepped held socket next reports) : .opens ∉ reports := by
  cases stepped.effect <;> simp

/-- An action of the application does not reach the tasks. -/
theorem Sound.application (sound : socket.Sound) (more : Bytes) (ended : Bool)
    (open_ : socket.ended = false) :
    Stepped held socket { socket with sent := socket.sent ++ more, ended } [] where
  sound := by
    refine ⟨?_, fun stopped => Or.inl ?_, sound.writing, sound.drained⟩
    · show socket.read ≤ (socket.sent ++ more).length
      rw [List.length_append]
      exact Nat.le_add_right_of_le sound.within
    · -- The reader task cannot have seen the end.
      rcases sound.read stopped with failed | ⟨ended, -⟩
      · exact failed
      · rw [open_] at ended
        cases ended
  effect := .quiet (List.take_append_of_le_length sound.within) rfl
  received := rfl
  finished := Or.inl
  failed := id

/-- One action does one thing at a time. -/
theorem Sound.step (sound : socket.Sound) {action : SocketAction}
    (stepped : socket.step held action = some (next, reports)) :
    Stepped held socket next reports := by
  cases action with
  | sends bytes =>
    simp only [RelaySocket.step, Option.ite_none_left_eq_some, Option.some.injEq, Prod.mk.injEq,
      Bool.not_eq_true] at stepped
    obtain ⟨open_, rfl, rfl⟩ := stepped
    exact sound.application bytes socket.ended open_
  | ends =>
    simp only [RelaySocket.step, Option.ite_none_left_eq_some, Option.some.injEq, Prod.mk.injEq,
      Bool.not_eq_true] at stepped
    obtain ⟨open_, rfl, rfl⟩ := stepped
    have same : Stepped held socket { socket with sent := socket.sent ++ [], ended := true } [] :=
      sound.application [] true open_
    rwa [List.append_nil] at same
  | reads count =>
    simp only [RelaySocket.step, Option.ite_none_right_eq_some, Option.some.injEq,
      Prod.mk.injEq] at stepped
    obtain ⟨⟨going, positive, -, within⟩, rfl, rfl⟩ := stepped
    refine ⟨⟨within, fun stopped => ?_, sound.writing, sound.drained⟩,
      .reads _ ?_ going going, rfl, Or.inl, id⟩
    · rw [going] at stopped
      cases stopped
    · exact List.take_add
  | readsEnd =>
    simp only [RelaySocket.step, Option.ite_none_right_eq_some, Option.some.injEq,
      Prod.mk.injEq] at stepped
    obtain ⟨⟨going, ended, all⟩, rfl, rfl⟩ := stepped
    exact ⟨⟨sound.within, fun _ => Or.inr ⟨ended, all⟩, sound.writing, sound.drained⟩,
      .ends rfl going rfl, rfl, Or.inl, id⟩
  | readFails =>
    simp only [RelaySocket.step, Option.ite_none_right_eq_some, Option.some.injEq,
      Prod.mk.injEq] at stepped
    obtain ⟨going, rfl, rfl⟩ := stepped
    exact ⟨⟨sound.within, fun _ => Or.inl rfl, sound.writing, fun _ => Or.inl rfl⟩,
      .ends rfl going rfl, rfl, Or.inl, fun _ => rfl⟩
  | takes =>
    simp only [RelaySocket.step] at stepped
    split at stepped
    · next chunk later queued =>
      simp only [Option.ite_none_right_eq_some, Option.some.injEq, Prod.mk.injEq] at stepped
      obtain ⟨⟨writing, none_⟩, rfl, rfl⟩ := stepped
      have same : chunk ++ later.flatten = socket.pending := by
        rw [pending, none_, queued]
        rfl
      refine ⟨⟨sound.within, sound.read, sound.writing, fun finished => ?_⟩, .quiet rfl rfl, ?_,
        Or.inl, id⟩
      · rw [sound.writing finished] at writing
        cases writing
      · exact congrArg (socket.written ++ ·) same
    · cases stepped
  | writes count =>
    simp only [RelaySocket.step, Option.ite_none_right_eq_some, Option.some.injEq,
      Prod.mk.injEq] at stepped
    obtain ⟨⟨writing, -, -⟩, rfl, rfl⟩ := stepped
    refine ⟨⟨sound.within, sound.read, sound.writing, fun finished => ?_⟩, .quiet rfl rfl, ?_,
      Or.inl, id⟩
    · rw [sound.writing finished] at writing
      cases writing
    · simp only [received, pending, ← List.append_assoc]
      rw [List.append_assoc socket.written, List.take_append_drop]
  | writeFails =>
    simp only [RelaySocket.step, Option.ite_none_right_eq_some, Option.some.injEq,
      Prod.mk.injEq] at stepped
    obtain ⟨-, rfl, rfl⟩ := stepped
    exact ⟨⟨sound.within, fun _ => Or.inl rfl, fun _ => rfl, fun _ => Or.inl rfl⟩,
      .quiet rfl rfl, rfl, fun _ => Or.inr (Or.inl rfl), fun _ => rfl⟩
  | shutsDown =>
    simp only [RelaySocket.step, Option.ite_none_right_eq_some, Option.some.injEq,
      Prod.mk.injEq] at stepped
    obtain ⟨⟨-, noChunk, noQueue, unheld⟩, rfl, rfl⟩ := stepped
    have drained : socket.pending = [] := by
      rw [pending, noChunk, noQueue]
      rfl
    exact ⟨⟨sound.within, sound.read, fun _ => rfl, fun _ => Or.inr drained⟩, .quiet rfl rfl, rfl,
      fun _ => Or.inr (Or.inr unheld), id⟩

end RelaySocket

end Gritty
