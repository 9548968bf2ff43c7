import Gritty.Relay.RelaySocket

/-! Two ends that relay the bytes of one channel in both directions, with one close for both of them. -/

namespace Gritty

/-- What one end of a channel consists of. -/
structure StreamEnd where
  socket : Option RelaySocket
  /-- The channel is in the table of the end. -/
  registered : Bool
  /-- What the tasks of the end have reported, oldest first. -/
  events : List ChannelMessage
  /-- What is on its way to the other end, oldest first. -/
  link : List ChannelMessage

namespace StreamEnd

/-- Somebody may send chunks to the writer task: the table, or the event that announces the socket. -/
def held (one : StreamEnd) : Bool := one.registered || one.events.contains .opens

def readBytes (one : StreamEnd) : Bytes := (one.socket.map RelaySocket.readBytes).getD []

def received (one : StreamEnd) : Bytes := (one.socket.map RelaySocket.received).getD []

/-- The reader task has come to its end. -/
def readAll (one : StreamEnd) : Prop := ∃ socket, one.socket = some socket ∧ socket.reading = false

/-- An end before its first socket. -/
def new : StreamEnd := { socket := none, registered := false, events := [], link := [] }

end StreamEnd

/-- Both ends of a channel, seen from the one that is about to do something. -/
structure ChannelEnds where
  mine : StreamEnd
  peer : StreamEnd
  /-- A queue of the channel refused a chunk. -/
  overflowed : Bool
  /-- The forward of the channel was stopped. -/
  stopped : Bool

namespace ChannelEnds

/-- The ends as seen from the other one. -/
def swap (ends : ChannelEnds) : ChannelEnds := { ends with mine := ends.peer, peer := ends.mine }

/-- What an end can do. A message that cannot be sent is lost, but for bytes. -/
inductive Turn (ends : ChannelEnds) : ChannelEnds → Prop where
  | accepts (unused : ends.mine.socket = none) (unusedThere : ends.peer.socket = none) :
      Turn ends { ends with
        mine := { ends.mine with
          socket := some .new
          events := ends.mine.events ++ [.opens] } }
  | announces {later sent : List ChannelMessage} (events : ends.mine.events = .opens :: later)
      (sends : sent = [.opens] ∨ sent = []) :
      Turn ends { ends with
        mine := { ends.mine with
          registered := true
          events := later
          link := ends.mine.link ++ sent } }
  /-- The forward is not there any more. -/
  | withdraws {later : List ChannelMessage} (events : ends.mine.events = .opens :: later) :
      Turn ends { ends with mine := { ends.mine with events := later }, stopped := true }
  | forwards {later : List ChannelMessage} {bytes : Bytes}
      (events : ends.mine.events = .data bytes :: later) (registered : ends.mine.registered = true) :
      Turn ends { ends with
        mine := { ends.mine with events := later, link := ends.mine.link ++ [.data bytes] } }
  | reportsEnd {later sent : List ChannelMessage} (events : ends.mine.events = .closes :: later)
      (registered : ends.mine.registered = true) (sends : sent = [.closes] ∨ sent = []) :
      Turn ends { ends with
        mine := { ends.mine with
          registered := false
          events := later
          link := ends.mine.link ++ sent } }
  /-- An event of a channel that is not in the table. -/
  | ignores {later : List ChannelMessage} {message : ChannelMessage}
      (events : ends.mine.events = message :: later) (other : message ≠ .opens)
      (unregistered : ends.mine.registered = false) :
      Turn ends { ends with mine := { ends.mine with events := later } }
  | connects {later : List ChannelMessage} (link : ends.peer.link = .opens :: later) :
      Turn ends { ends with
        mine := { ends.mine with socket := some .new, registered := true }
        peer := { ends.peer with link := later } }
  | refuses {later sent : List ChannelMessage} (link : ends.peer.link = .opens :: later)
      (sends : sent = [.closes] ∨ sent = []) :
      Turn ends { ends with
        mine := { ends.mine with link := ends.mine.link ++ sent }
        peer := { ends.peer with link := later } }
  | queues {later : List ChannelMessage} {bytes : Bytes} {socket : RelaySocket}
      (link : ends.peer.link = .data bytes :: later) (registered : ends.mine.registered = true)
      (there : ends.mine.socket = some socket) (room : socket.writerFull = false) :
      Turn ends { ends with
        mine := { ends.mine with socket := some (socket.enqueue bytes) }
        peer := { ends.peer with link := later } }
  | overflows {later sent : List ChannelMessage} {bytes : Bytes}
      (link : ends.peer.link = .data bytes :: later) (registered : ends.mine.registered = true)
      (sends : sent = [.closes] ∨ sent = []) :
      Turn ends { ends with
        mine := { ends.mine with registered := false, link := ends.mine.link ++ sent }
        peer := { ends.peer with link := later }
        overflowed := true }
  /-- Bytes for a channel that is not in the table. -/
  | drops {later : List ChannelMessage} {bytes : Bytes}
      (link : ends.peer.link = .data bytes :: later) (unregistered : ends.mine.registered = false) :
      Turn ends { ends with peer := { ends.peer with link := later } }
  | closes {later : List ChannelMessage} (link : ends.peer.link = .closes :: later) :
      Turn ends { ends with
        mine := { ends.mine with registered := false }
        peer := { ends.peer with link := later } }
  | stops (registered : Bool) (less : registered = true → ends.mine.registered = true) :
      Turn ends { ends with mine := { ends.mine with registered }, stopped := true }
  | socket {action : SocketAction} {socket next : RelaySocket} {reports : List ChannelMessage}
      (there : ends.mine.socket = some socket)
      (stepped : socket.step ends.mine.held action = some (next, reports)) :
      Turn ends { ends with
        mine := { ends.mine with socket := some next, events := ends.mine.events ++ reports } }

end ChannelEnds

/-! ### What an end keeps -/

/-- A channel opens first and closes last. -/
structure InOrder (messages : List ChannelMessage) : Prop where
  opens : .opens ∉ messages.tail
  closes : .closes ∉ messages.dropLast

namespace InOrder

variable {messages later : List ChannelMessage} {message : ChannelMessage}

theorem nil : InOrder [] := ⟨List.not_mem_nil, List.not_mem_nil⟩

/-- What is left after the first message is in order, and opens nothing. -/
theorem pop (order : InOrder (message :: later)) : InOrder later ∧ .opens ∉ later := by
  refine ⟨⟨fun among => order.opens (List.mem_of_mem_tail among), fun among => order.closes ?_⟩,
    order.opens⟩
  cases later with
  | nil => cases among
  | cons next later =>
    rw [List.dropLast_cons_of_ne_nil (List.cons_ne_nil _ _)]
    exact List.mem_cons_of_mem message among

/-- Nothing comes after a close. -/
theorem last (order : InOrder (.closes :: later)) : later = [] := by
  by_contra more
  have first : .closes ∈ (ChannelMessage.closes :: later).dropLast := by
    rw [List.dropLast_cons_of_ne_nil more]
    exact List.mem_cons_self
  exact order.closes first

/-- One more message is in order where nothing was closed, and only the first may open. -/
theorem push (order : InOrder messages) (unclosed : .closes ∉ messages)
    (first : message = .opens → messages = []) : InOrder (messages ++ [message]) where
  opens among := by
    cases messages with
    | nil => cases among
    | cons head messages =>
      rcases List.mem_append.mp among with earlier | now
      · exact order.opens earlier
      · cases first (List.mem_singleton.mp now).symm
  closes among := by
    rw [List.dropLast_concat] at among
    exact unclosed among

end InOrder

namespace StreamEnd

/-- What holds of an end by itself. -/
structure Orderly (one : StreamEnd) : Prop where
  /-- An end without a socket can only have refused one. -/
  socketless : one.socket = none →
    one.registered = false ∧ one.events = [] ∧ ∀ message ∈ one.link, message = .closes
  events : InOrder one.events
  link : InOrder one.link
  /-- Before its announcement there is nothing of the channel. -/
  unannounced : .opens ∈ one.events → one.registered = false ∧ one.link = []
  closed : .closes ∈ one.link → one.held = false
  ended : .closes ∈ one.events → one.readAll
  sound : ∀ socket, one.socket = some socket → socket.Sound
  finished : ∀ socket, one.socket = some socket → socket.finished = true →
    socket.failed = true ∨ one.held = false

/-- A new end is orderly. -/
theorem orderly_new : new.Orderly where
  socketless _ := ⟨rfl, rfl, fun _ among => absurd among List.not_mem_nil⟩
  events := .nil
  link := .nil
  unannounced among := absurd among List.not_mem_nil
  closed among := absurd among List.not_mem_nil
  ended among := absurd among List.not_mem_nil
  sound _ there := by cases there
  finished _ there := by cases there

variable {one : StreamEnd}

/-- The table or the announcement holds the writer task. -/
theorem held_eq_true : one.held = true ↔ one.registered = true ∨ .opens ∈ one.events := by
  rw [held, Bool.or_eq_true, List.contains_iff_mem]

theorem held_eq_false : one.held = false ↔ one.registered = false ∧ .opens ∉ one.events := by
  rw [← Bool.not_eq_true, held_eq_true, not_or, Bool.not_eq_true]

/-- A channel in the table has a socket. -/
theorem Orderly.socket_of_registered (orderly : one.Orderly) (registered : one.registered = true) :
    ∃ socket, one.socket = some socket := by
  cases there : one.socket with
  | some socket => exact ⟨socket, rfl⟩
  | none =>
    rw [(orderly.socketless there).1] at registered
    cases registered

/-- Taking a message off the link leaves an end in order. -/
theorem Orderly.popLink (orderly : one.Orderly) {message : ChannelMessage}
    {later : List ChannelMessage} (link : one.link = message :: later) :
    { one with link := later }.Orderly where
  socketless none_ := by
    obtain ⟨unregistered, noEvents, closes⟩ := orderly.socketless none_
    refine ⟨unregistered, noEvents, fun other among => closes other ?_⟩
    rw [link]
    exact List.mem_cons_of_mem message among
  events := orderly.events
  link := (link ▸ orderly.link).pop.1
  unannounced among := by
    have none_ := (orderly.unannounced among).2
    rw [link] at none_
    cases none_
  closed among := orderly.closed (link ▸ List.mem_cons_of_mem message among)
  ended := orderly.ended
  sound := orderly.sound
  finished := orderly.finished

/-- A socket is accepted where there was none. -/
theorem Orderly.accepts (orderly : one.Orderly) (unused : one.socket = none)
    (quiet : one.link = []) :
    { one with socket := some .new, events := one.events ++ [ChannelMessage.opens] }.Orderly := by
  obtain ⟨unregistered, noEvents, -⟩ := orderly.socketless unused
  rw [noEvents]
  exact {
    socketless := fun none_ => absurd none_ (Option.some_ne_none _)
    events := ⟨List.not_mem_nil, List.not_mem_nil⟩
    link := orderly.link
    unannounced := fun _ => ⟨unregistered, quiet⟩
    closed := fun among => absurd (quiet ▸ among) List.not_mem_nil
    ended := fun among => absurd (List.mem_singleton.mp among) (by simp)
    sound := fun socket there => Option.some.inj there ▸ RelaySocket.sound_new
    finished := fun socket there done => by
      rw [← Option.some.inj there] at done
      cases done }

/-- The socket that was accepted is announced, unless the announcement is lost. -/
theorem Orderly.announces (orderly : one.Orderly) {later sent : List ChannelMessage}
    (events : one.events = .opens :: later) (sends : sent = [.opens] ∨ sent = []) :
    { one with registered := true, events := later, link := one.link ++ sent }.Orderly := by
  have opens : .opens ∈ one.events := events ▸ List.mem_cons_self
  obtain ⟨unregistered, quiet⟩ := orderly.unannounced opens
  obtain ⟨order, unopened⟩ := (events ▸ orderly.events).pop
  rw [quiet, List.nil_append]
  have unclosed : .closes ∉ sent := by
    rcases sends with rfl | rfl <;> simp
  refine ⟨fun none_ => ?_, order, ?_, fun among => absurd among unopened,
    fun among => absurd among unclosed,
    fun among => orderly.ended (events ▸ List.mem_cons_of_mem _ among), orderly.sound,
    fun socket there done => ?_⟩
  · have noEvents := (orderly.socketless none_).2.1
    rw [events] at noEvents
    cases noEvents
  · rcases sends with rfl | rfl
    · exact ⟨List.not_mem_nil, List.not_mem_nil⟩
    · exact .nil
  · -- The announcement has held the writer task up to now.
    rcases orderly.finished socket there done with failed | unheld
    · exact Or.inl failed
    · exact absurd opens (held_eq_false.mp unheld).2

/-- An event that is not sent on leaves an end in order. -/
theorem Orderly.popEvent (orderly : one.Orderly) {message : ChannelMessage}
    {later : List ChannelMessage} (events : one.events = message :: later)
    (unregistered : one.registered = false) : { one with events := later }.Orderly := by
  obtain ⟨order, unopened⟩ := (events ▸ orderly.events).pop
  have unheld : { one with events := later }.held = false := held_eq_false.mpr ⟨unregistered, unopened⟩
  exact {
    socketless := fun none_ => by
      have noEvents := (orderly.socketless none_).2.1
      rw [events] at noEvents
      cases noEvents
    events := order
    link := orderly.link
    unannounced := fun among => absurd among unopened
    closed := fun _ => unheld
    ended := fun among => orderly.ended (events ▸ List.mem_cons_of_mem _ among)
    sound := orderly.sound
    finished := fun _ _ _ => Or.inr unheld }

/-- Bytes are sent on. -/
theorem Orderly.forwards (orderly : one.Orderly) {bytes : Bytes} {later : List ChannelMessage}
    (events : one.events = .data bytes :: later) (registered : one.registered = true) :
    { one with events := later, link := one.link ++ [ChannelMessage.data bytes] }.Orderly := by
  obtain ⟨order, unopened⟩ := (events ▸ orderly.events).pop
  have held : one.held = true := held_eq_true.mpr (Or.inl registered)
  have unclosed : .closes ∉ one.link := fun among => by
    rw [orderly.closed among] at held
    cases held
  refine ⟨fun none_ => ?_, order, orderly.link.push unclosed (by simp),
    fun among => absurd among unopened, fun among => ?_,
    fun among => orderly.ended (events ▸ List.mem_cons_of_mem _ among), orderly.sound,
    fun socket there done => ?_⟩
  · rw [(orderly.socketless none_).1] at registered
    cases registered
  · rcases List.mem_append.mp among with earlier | now
    · exact absurd earlier unclosed
    · exact absurd (List.mem_singleton.mp now) (by simp)
  · rcases orderly.finished socket there done with failed | unheld
    · exact Or.inl failed
    · rw [unheld] at held
      cases held

/-- A channel leaves the table, and the other end is told or not. -/
theorem Orderly.leaves (orderly : one.Orderly) (registered : one.registered = true)
    {sent : List ChannelMessage} (sends : sent = [.closes] ∨ sent = []) :
    { one with registered := false, link := one.link ++ sent }.Orderly := by
  have held : one.held = true := held_eq_true.mpr (Or.inl registered)
  have unclosed : .closes ∉ one.link := fun among => by
    rw [orderly.closed among] at held
    cases held
  have unopened : .opens ∉ one.events := fun among => by
    rw [(orderly.unannounced among).1] at registered
    cases registered
  have unheld : { one with registered := false, link := one.link ++ sent }.held = false :=
    held_eq_false.mpr ⟨rfl, unopened⟩
  refine ⟨fun none_ => ?_, orderly.events, ?_, fun among => absurd among unopened, fun _ => unheld,
    orderly.ended, orderly.sound, fun _ _ _ => Or.inr unheld⟩
  · rw [(orderly.socketless none_).1] at registered
    cases registered
  · rcases sends with rfl | rfl
    · exact orderly.link.push unclosed (by simp)
    · rw [List.append_nil]
      exact orderly.link

/-- A channel may leave the table at any time. -/
theorem Orderly.unregister (orderly : one.Orderly) (registered : Bool)
    (less : registered = true → one.registered = true) : { one with registered }.Orderly := by
  cases registered with
  | true =>
    have same : { one with registered := true } = one := by rw [← less rfl]
    rw [same]
    exact orderly
  | false =>
    have held : { one with registered := false }.held = true → one.held = true := fun held =>
      held_eq_true.mpr (Or.inr ((held_eq_true.mp held).resolve_left (by simp)))
    have unheld : one.held = false → { one with registered := false }.held = false := by
      rw [← Bool.not_eq_true, ← Bool.not_eq_true]
      exact mt held
    exact {
      socketless := fun none_ => ⟨rfl, (orderly.socketless none_).2⟩
      events := orderly.events
      link := orderly.link
      unannounced := fun among => ⟨rfl, (orderly.unannounced among).2⟩
      closed := fun among => unheld (orderly.closed among)
      ended := orderly.ended
      sound := orderly.sound
      finished := fun socket there done => (orderly.finished socket there done).imp id unheld }

/-- A channel is opened where nothing was of it. -/
theorem Orderly.connects (orderly : one.Orderly) (unused : one.socket = none)
    (quiet : one.link = []) : { one with socket := some .new, registered := true }.Orderly := by
  obtain ⟨-, noEvents, -⟩ := orderly.socketless unused
  exact {
    socketless := fun none_ => absurd none_ (Option.some_ne_none _)
    events := orderly.events
    link := orderly.link
    unannounced := fun among => absurd (noEvents ▸ among) List.not_mem_nil
    closed := fun among => absurd (quiet ▸ among) List.not_mem_nil
    ended := fun among => absurd (noEvents ▸ among) List.not_mem_nil
    sound := fun socket there => Option.some.inj there ▸ RelaySocket.sound_new
    finished := fun socket there done => by
      rw [← Option.some.inj there] at done
      cases done }

/-- A channel that is not opened leaves nothing but a close. -/
theorem Orderly.refuses (orderly : one.Orderly) (unused : one.socket = none) (quiet : one.link = [])
    {sent : List ChannelMessage} (sends : sent = [.closes] ∨ sent = []) :
    { one with link := one.link ++ sent }.Orderly := by
  obtain ⟨unregistered, noEvents, -⟩ := orderly.socketless unused
  have unopened : .opens ∉ one.events := noEvents ▸ List.not_mem_nil
  rw [quiet, List.nil_append]
  refine ⟨fun _ => ⟨unregistered, noEvents, ?_⟩, orderly.events, ?_,
    fun among => absurd among unopened, fun _ => held_eq_false.mpr ⟨unregistered, unopened⟩,
    orderly.ended, orderly.sound, orderly.finished⟩
  · rcases sends with rfl | rfl <;> simp
  · rcases sends with rfl | rfl
    · exact ⟨List.not_mem_nil, List.not_mem_nil⟩
    · exact .nil

/-- A chunk is queued for the writer task. -/
theorem Orderly.queues (orderly : one.Orderly) {socket : RelaySocket}
    (there : one.socket = some socket) (room : socket.writerFull = false) (bytes : Bytes) :
    { one with socket := some (socket.enqueue bytes) }.Orderly where
  socketless := fun none_ => absurd none_ (Option.some_ne_none _)
  events := orderly.events
  link := orderly.link
  unannounced := orderly.unannounced
  closed := orderly.closed
  ended among := by
    obtain ⟨same, found, all⟩ := orderly.ended among
    obtain rfl := Option.some.inj (found.symm.trans there)
    exact ⟨_, rfl, all⟩
  sound other found := Option.some.inj found ▸ (orderly.sound socket there).enqueue room bytes
  finished other found done := by
    cases found
    exact orderly.finished socket there done

/-- The reports of a reader task come last. -/
theorem Orderly.steps (orderly : one.Orderly) {action : SocketAction} {socket next : RelaySocket}
    {reports : List ChannelMessage} (there : one.socket = some socket)
    (stepped : socket.step one.held action = some (next, reports)) :
    { one with socket := some next, events := one.events ++ reports }.Orderly := by
  have step := (orderly.sound socket there).step stepped
  -- A reader task that goes on has not reported its end.
  have going : socket.reading = true → .closes ∉ one.events := by
    intro reading among
    obtain ⟨same, found, all⟩ := orderly.ended among
    obtain rfl := Option.some.inj (found.symm.trans there)
    rw [reading] at all
    cases all
  have unopening := step.unopening
  have opens : .opens ∈ one.events ++ reports ↔ .opens ∈ one.events := by
    rw [List.mem_append, or_iff_left unopening]
  have held : { one with socket := some next, events := one.events ++ reports }.held = one.held := by
    rw [Bool.eq_iff_iff, held_eq_true, held_eq_true, opens]
  refine ⟨fun none_ => absurd none_ (Option.some_ne_none _), ?_, orderly.link,
    fun among => orderly.unannounced (opens.mp among),
    fun among => held ▸ orderly.closed among, fun among => ⟨next, rfl, ?_⟩,
    fun other found => Option.some.inj found ▸ step.sound, fun other found done => ?_⟩
  · cases step.effect with
    | quiet => simpa using orderly.events
    | reads _ _ reading => exact orderly.events.push (going reading) (by simp)
    | ends _ reading => exact orderly.events.push (going reading) (by simp)
  · cases step.effect with
    | quiet _ same =>
      rw [List.append_nil] at among
      obtain ⟨other, found, all⟩ := orderly.ended among
      obtain rfl := Option.some.inj (found.symm.trans there)
      exact same.trans all
    | reads _ _ reading =>
      rcases List.mem_append.mp among with earlier | now
      · exact absurd earlier (going reading)
      · exact absurd (List.mem_singleton.mp now) (by simp)
    | ends _ _ stopped => exact stopped
  · cases found
    rw [held]
    rcases step.finished done with before | failed | unheld
    · exact (orderly.finished socket there before).imp step.failed id
    · exact Or.inl failed
    · exact Or.inr unheld

end StreamEnd

end Gritty
