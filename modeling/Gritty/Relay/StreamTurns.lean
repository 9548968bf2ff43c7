import Gritty.Relay.StreamFlow

/-! Every turn of an end keeps the bytes of a channel flowing in both directions. -/

namespace Gritty

open StreamEnd

namespace ChannelEnds

/-- A chunk was refused, or the forward was stopped. -/
def Excused (ends : ChannelEnds) : Prop := ends.overflowed = true ∨ ends.stopped = true

/-- What holds of both ends. -/
structure Sound (ends : ChannelEnds) : Prop where
  mine : ends.mine.Orderly
  peer : ends.peer.Orderly
  out : Flow ends.mine ends.peer ends.Excused
  back : Flow ends.peer ends.mine ends.Excused

/-- Sound ends are so from the other side. -/
theorem Sound.swap {ends : ChannelEnds} (sound : ends.Sound) : ends.swap.Sound :=
  ⟨sound.peer, sound.mine, sound.back, sound.out⟩

/-- Both ends before the first socket. -/
def new : ChannelEnds := { mine := .new, peer := .new, overflowed := false, stopped := false }

/-- New ends are sound. -/
theorem sound_new : new.Sound := ⟨orderly_new, orderly_new, flow_new _, flow_new _⟩

section Turns

variable {ends : ChannelEnds} {later sent : List ChannelMessage} {bytes : Bytes}

/-! ### The events of an end -/

/-- A socket is accepted where there is none at either end. -/
theorem Sound.accepts (sound : ends.Sound) (unused : ends.mine.socket = none)
    (unusedThere : ends.peer.socket = none) :
    Sound { ends with
      mine := { ends.mine with
        socket := some .new
        events := ends.mine.events ++ [.opens] } } := by
  have quiet := sound.out.unused unused unusedThere
  have quietThere := sound.back.unused unusedThere unused
  obtain ⟨unregistered, noEvents, -⟩ := sound.mine.socketless unused
  have opens : .opens ∈ ends.mine.events ++ [.opens] := List.mem_append_right _ List.mem_cons_self
  refine ⟨sound.mine.accepts unused quiet, sound.peer, ?_, ?_⟩
  · have received := sound.out.unread unused
    exact {
      unread := fun none_ => absurd none_ (Option.some_ne_none _)
      unused := fun none_ => absurd none_ (Option.some_ne_none _)
      announced := fun _ => ⟨unusedThere, quietThere⟩
      delivered := by rw [received]; exact List.nil_prefix
      linked := fun _ => by
        show ends.peer.received ++ bytesOf ends.mine.link <+: _
        rw [received, quiet]
        exact List.nil_prefix
      whole := fun _ _ => by
        show ends.peer.received ++ bytesOf ends.mine.link ++
          bytesOf (ends.mine.events ++ [.opens]) = []
        rw [received, quiet, noEvents]
        rfl
      closing := fun among => absurd (quiet ▸ among) List.not_mem_nil
      closed := fun some_ => absurd unusedThere some_ }
  · refine .of_unused sound.peer unusedThere quietThere rfl fun unheld => ?_
    exact absurd opens (held_eq_false.mp unheld).2

/-- The accepted socket is entered into the table and announced. -/
theorem Sound.announces (sound : ends.Sound) (events : ends.mine.events = .opens :: later)
    (sends : sent = [.opens] ∨ sent = []) :
    Sound { ends with
      mine := { ends.mine with
        registered := true
        events := later
        link := ends.mine.link ++ sent } } := by
  have opens : .opens ∈ ends.mine.events := events ▸ List.mem_cons_self
  have quiet := (sound.mine.unannounced opens).2
  obtain ⟨unusedThere, quietThere⟩ := sound.out.announced (Or.inl opens)
  have received := sound.back.unread unusedThere
  have unregisteredThere := (sound.peer.socketless unusedThere).1
  have silent : bytesOf sent = [] := by
    rcases sends with rfl | rfl <;> rfl
  -- All bytes that were read are among the events.
  have all := sound.out.whole (Or.inr (Or.inl opens)) (held_eq_true.mpr (Or.inr opens))
  rw [quiet, events] at all
  refine ⟨sound.mine.announces events sends, sound.peer, ?_, ?_⟩
  · exact {
      unread := sound.out.unread
      unused := fun none_ => by
        have noEvents := (sound.mine.socketless none_).2.1
        rw [events] at noEvents
        cases noEvents
      announced := fun _ => ⟨unusedThere, quietThere⟩
      delivered := sound.out.delivered
      linked := fun _ => by
        show ends.peer.received ++ bytesOf (ends.mine.link ++ sent) <+: _
        rw [quiet, List.nil_append, silent, List.append_nil]
        exact sound.out.delivered
      whole := fun _ _ => by
        show ends.peer.received ++ bytesOf (ends.mine.link ++ sent) ++ bytesOf later = _
        rw [quiet, List.nil_append, silent]
        exact all
      closing := fun among => by
        have unclosed : .closes ∉ ends.mine.link ++ sent := by
          rw [quiet]
          rcases sends with rfl | rfl <;> simp
        exact absurd among unclosed
      closed := fun some_ => absurd unusedThere some_ }
  · refine .of_unused sound.peer unusedThere quietThere received fun unheld => ?_
    exact absurd (held_eq_true.mpr (Or.inl rfl)) (Bool.eq_false_iff.mp unheld)

/-- The accepted socket is of a forward that is gone. -/
theorem Sound.withdraws (sound : ends.Sound) (events : ends.mine.events = .opens :: later) :
    Sound { ends with mine := { ends.mine with events := later }, stopped := true } := by
  have opens : .opens ∈ ends.mine.events := events ▸ List.mem_cons_self
  obtain ⟨unregistered, quiet⟩ := sound.mine.unannounced opens
  obtain ⟨unusedThere, quietThere⟩ := sound.out.announced (Or.inl opens)
  have received := sound.back.unread unusedThere
  have unregisteredThere := (sound.peer.socketless unusedThere).1
  obtain ⟨-, unopened⟩ := (events ▸ sound.mine.events).pop
  -- The other end will not hear of the channel.
  have unawaited : ¬ Awaits { ends.mine with events := later } ends.peer := by
    rintro (registered | among | among)
    · rw [unregisteredThere] at registered
      cases registered
    · exact unopened among
    · exact absurd (quiet ▸ among) List.not_mem_nil
  refine ⟨sound.mine.popEvent events unregistered, sound.peer, ?_, ?_⟩
  · exact {
      unread := sound.out.unread
      unused := fun _ _ => quiet
      announced := fun _ => ⟨unusedThere, quietThere⟩
      delivered := sound.out.delivered
      linked := fun awaits => absurd awaits unawaited
      whole := fun awaits => absurd awaits unawaited
      closing := fun _ awaits => absurd awaits unawaited
      closed := fun some_ => absurd unusedThere some_ }
  · exact .of_unused sound.peer unusedThere quietThere received fun _ => Or.inr rfl

/-- Bytes that were read go on to the other end. -/
theorem Sound.forwards (sound : ends.Sound) (events : ends.mine.events = .data bytes :: later)
    (registered : ends.mine.registered = true) :
    Sound { ends with
      mine := { ends.mine with events := later, link := ends.mine.link ++ [.data bytes] } } := by
  have held : ends.mine.held = true := held_eq_true.mpr (Or.inl registered)
  have linked : ∀ {message : ChannelMessage}, message ≠ .data bytes →
      message ∈ ends.mine.link ++ [.data bytes] → message ∈ ends.mine.link := by
    intro message other among
    exact (List.mem_append.mp among).resolve_right fun now => other (List.mem_singleton.mp now)
  have announced : .opens ∈ later ∨ .opens ∈ ends.mine.link ++ [.data bytes] →
      .opens ∈ ends.mine.events ∨ .opens ∈ ends.mine.link := by
    rw [events]
    exact Or.imp (List.mem_cons_of_mem _) (linked (by simp))
  have awaited : Awaits { ends.mine with events := later, link := ends.mine.link ++ [.data bytes] }
      ends.peer → Awaits ends.mine ends.peer := Or.imp id announced
  refine ⟨sound.mine.forwards events registered, sound.peer, ?_, ?_⟩
  · -- The bytes move from the events to the link.
    have whole : Awaits ends.mine ends.peer → ends.peer.received ++
        bytesOf (ends.mine.link ++ [.data bytes]) ++ bytesOf later = ends.mine.readBytes := by
      intro awaits
      have all := sound.out.whole awaits held
      rw [events] at all
      simpa using all
    exact {
      unread := sound.out.unread
      unused := fun none_ => by
        have noEvents := (sound.mine.socketless none_).2.1
        rw [events] at noEvents
        cases noEvents
      announced := fun among => sound.out.announced (announced among)
      delivered := sound.out.delivered
      linked := fun awaits => ⟨_, whole (awaited awaits)⟩
      whole := fun awaits _ => whole (awaited awaits)
      closing := fun among => by
        rw [sound.mine.closed (linked (by simp) among)] at held
        cases held
      closed := sound.out.closed }
  · have stillHeld : { ends.mine with
        events := later, link := ends.mine.link ++ [ChannelMessage.data bytes] }.held = true :=
      held_eq_true.mpr (Or.inl registered)
    refine sound.back.destination_congr rfl rfl (stillHeld.trans held.symm) Iff.rfl
      (fun none_ => ?_) (linked (by simp)) id
    rw [(sound.mine.socketless none_).1] at registered
    cases registered

/-- The end of the stream takes the channel off the table. -/
theorem Sound.reportsEnd (sound : ends.Sound) (events : ends.mine.events = .closes :: later)
    (registered : ends.mine.registered = true) (sends : sent = [.closes] ∨ sent = []) :
    Sound { ends with
      mine := { ends.mine with
        registered := false
        events := later
        link := ends.mine.link ++ sent } } := by
  obtain rfl : later = [] := (events ▸ sound.mine.events).last
  have held : ends.mine.held = true := held_eq_true.mpr (Or.inl registered)
  have all : ends.mine.readAll := sound.mine.ended (events ▸ List.mem_cons_self)
  obtain ⟨socket, there⟩ := sound.mine.socket_of_registered registered
  have linked : .opens ∈ ends.mine.link ++ sent → .opens ∈ ends.mine.link := by
    rcases sends with rfl | rfl <;> simp
  have silent : bytesOf (ends.mine.link ++ sent) = bytesOf ends.mine.link := by
    rcases sends with rfl | rfl <;> simp
  have awaited : Awaits { ends.mine with
      registered := false, events := [], link := ends.mine.link ++ sent } ends.peer →
      Awaits ends.mine ends.peer :=
    Or.imp id fun among => Or.inr (linked (among.resolve_left List.not_mem_nil))
  have leaves := sound.mine.leaves registered sends
  have orderly : { ends.mine with
      registered := false, events := [], link := ends.mine.link ++ sent }.Orderly :=
    leaves.popEvent events rfl
  refine ⟨orderly, sound.peer, ?_, ?_⟩
  · exact {
      unread := sound.out.unread
      unused := fun none_ => by
        have missing : ends.mine.socket = none := none_
        rw [there] at missing
        cases missing
      announced := fun among =>
        sound.out.announced (Or.inr (linked (among.resolve_left List.not_mem_nil)))
      delivered := sound.out.delivered
      linked := fun awaits => by
        show ends.peer.received ++ bytesOf (ends.mine.link ++ sent) <+: _
        rw [silent]
        exact sound.out.linked (awaited awaits)
      whole := fun _ holds => by
        have unheld : { ends.mine with
            registered := false, events := [], link := ends.mine.link ++ sent }.held = false := rfl
        rw [unheld] at holds
        cases holds
      closing := fun _ awaits => by
        refine Or.inr (Or.inr ⟨all, ?_⟩)
        show ends.peer.received ++ bytesOf (ends.mine.link ++ sent) = ends.mine.readBytes
        have whole := sound.out.whole (awaited awaits) held
        rw [events] at whole
        rw [silent]
        simpa using whole
      closed := sound.out.closed }
  · exact sound.back.leaves (by simp [there]) rfl rfl rfl (fun _ => id) (fun _ => id)
      fun _ => Or.inr (Or.inl all)

/-- An event of a channel that is not in the table says nothing. -/
theorem Sound.ignores (sound : ends.Sound) {message : ChannelMessage}
    (events : ends.mine.events = message :: later) (other : message ≠ .opens)
    (unregistered : ends.mine.registered = false) :
    Sound { ends with mine := { ends.mine with events := later } } := by
  obtain ⟨-, unopened⟩ := (events ▸ sound.mine.events).pop
  have unheld : ends.mine.held = false := by
    refine held_eq_false.mpr ⟨unregistered, ?_⟩
    rw [events, List.mem_cons, not_or]
    exact ⟨other.symm, unopened⟩
  have unheldAfter : { ends.mine with events := later }.held = false :=
    held_eq_false.mpr ⟨unregistered, unopened⟩
  have awaited : Awaits { ends.mine with events := later } ends.peer →
      Awaits ends.mine ends.peer :=
    Or.imp id (Or.imp (fun among => absurd among unopened) id)
  refine ⟨sound.mine.popEvent events unregistered, sound.peer, ?_, ?_⟩
  · exact {
      unread := sound.out.unread
      unused := sound.out.unused
      announced := fun among => sound.out.announced (among.imp (fun now => absurd now unopened) id)
      delivered := sound.out.delivered
      linked := fun awaits => sound.out.linked (awaited awaits)
      whole := fun _ holds => by
        rw [unheldAfter] at holds
        cases holds
      closing := fun among awaits => sound.out.closing among (awaited awaits)
      closed := sound.out.closed }
  · exact sound.back.destination_congr rfl rfl (unheldAfter.trans unheld.symm) Iff.rfl
      (fun _ quiet => quiet) id id

/-! ### The frames of the other end -/

/-- The other end's messages get fewer, and nothing else of it changes for this one. -/
theorem Sound.popped (sound : ends.Sound) {message : ChannelMessage}
    (link : ends.peer.link = message :: later) :
    Flow ends.mine { ends.peer with link := later } ends.Excused := by
  refine sound.out.destination_congr rfl rfl rfl Iff.rfl (fun _ quiet => ?_) (fun among => ?_) id
  · rw [link] at quiet
    cases quiet
  · rw [link]
    exact List.mem_cons_of_mem message among

/-- While there is something of a channel on its way, its announcement is not still waiting. -/
theorem Sound.announced_there (sound : ends.Sound) {message : ChannelMessage}
    (link : ends.peer.link = message :: later) : .opens ∉ ends.peer.events := by
  intro among
  have quiet := (sound.peer.unannounced among).2
  rw [link] at quiet
  cases quiet

/-- Who has sent more than a close has a socket. -/
theorem Sound.socket_there (sound : ends.Sound) {message : ChannelMessage}
    (link : ends.peer.link = message :: later) (other : message ≠ .closes) :
    ends.peer.socket ≠ none := by
  intro none_
  exact other ((sound.peer.socketless none_).2.2 message (link ▸ List.mem_cons_self))

/-- A channel is opened, and a socket connected for it. -/
theorem Sound.connects (sound : ends.Sound) (link : ends.peer.link = .opens :: later) :
    Sound { ends with
      mine := { ends.mine with socket := some .new, registered := true }
      peer := { ends.peer with link := later } } := by
  have opens : .opens ∈ ends.peer.link := link ▸ List.mem_cons_self
  obtain ⟨unused, quiet⟩ := sound.back.announced (Or.inr opens)
  obtain ⟨-, noEvents, -⟩ := sound.mine.socketless unused
  have unheard := sound.out.unread unused
  have received : ends.mine.received = [] := by
    rw [StreamEnd.received, unused]
    rfl
  obtain ⟨-, unopened⟩ := (link ▸ sound.peer.link).pop
  have awaited : Awaits ends.peer ends.mine := Or.inr (Or.inr opens)
  have silent : bytesOf later = bytesOf ends.peer.link := by rw [link]; rfl
  refine ⟨sound.mine.connects unused quiet, sound.peer.popLink link, ?_, ?_⟩
  · -- Nothing was read from the new socket.
    exact {
      unread := fun none_ => absurd none_ (Option.some_ne_none _)
      unused := fun none_ => absurd none_ (Option.some_ne_none _)
      announced := fun among => by
        rcases among with among | among
        · exact absurd (noEvents ▸ among) List.not_mem_nil
        · exact absurd (quiet ▸ among) List.not_mem_nil
      delivered := by
        show ends.peer.received <+: _
        rw [unheard]
        exact List.nil_prefix
      linked := fun _ => by
        show ends.peer.received ++ bytesOf ends.mine.link <+: _
        rw [unheard, quiet]
        exact List.nil_prefix
      whole := fun _ _ => by
        show ends.peer.received ++ bytesOf ends.mine.link ++ bytesOf ends.mine.events = []
        rw [unheard, quiet, noEvents]
        rfl
      closing := fun among => absurd (quiet ▸ among) List.not_mem_nil
      closed := fun some_ unheld => by
        rcases sound.out.closed some_ unheld with excused | all | ⟨-, unopened⟩ | ⟨all, -⟩
        · exact Or.inl excused
        · exact Or.inr (Or.inl all)
        · exact absurd opens unopened
        · obtain ⟨socket, there, -⟩ := all
          rw [unused] at there
          cases there }
  · exact {
      unread := fun _ => rfl
      unused := fun _ none_ => absurd none_ (Option.some_ne_none _)
      announced := fun among => by
        rcases among with among | among
        · exact absurd among (sound.announced_there link)
        · exact absurd among unopened
      delivered := List.nil_prefix
      linked := fun _ => by
        have linked := sound.back.linked awaited
        rw [received, ← silent] at linked
        exact linked
      whole := fun _ holds => by
        have whole := sound.back.whole awaited holds
        rw [received, ← silent] at whole
        exact whole
      closing := fun among _ => by
        have closing := sound.back.closing (link ▸ List.mem_cons_of_mem _ among) awaited
        rw [received, ← silent] at closing
        exact closing
      closed := fun _ unheld => by
        have registered := (held_eq_false.mp unheld).1
        cases registered }

/-- A channel is not opened, and the other end is told or not. -/
theorem Sound.refuses (sound : ends.Sound) (link : ends.peer.link = .opens :: later)
    (sends : sent = [.closes] ∨ sent = []) :
    Sound { ends with
      mine := { ends.mine with link := ends.mine.link ++ sent }
      peer := { ends.peer with link := later } } := by
  have opens : .opens ∈ ends.peer.link := link ▸ List.mem_cons_self
  obtain ⟨unused, quiet⟩ := sound.back.announced (Or.inr opens)
  obtain ⟨unregistered, noEvents, -⟩ := sound.mine.socketless unused
  have unheard := sound.out.unread unused
  have there := sound.socket_there link (by simp)
  obtain ⟨-, unopened⟩ := (link ▸ sound.peer.link).pop
  have silent : bytesOf (ends.mine.link ++ sent) = [] := by
    rw [quiet]
    rcases sends with rfl | rfl <;> rfl
  have unannounced : .opens ∉ ends.mine.link ++ sent := by
    rw [quiet]
    rcases sends with rfl | rfl <;> simp
  have unawaited : ¬ Awaits { ends.peer with link := later }
      { ends.mine with link := ends.mine.link ++ sent } := by
    rintro (registered | among | among)
    · rw [unregistered] at registered
      cases registered
    · exact sound.announced_there link among
    · exact unopened among
  refine ⟨sound.mine.refuses unused quiet sends, sound.peer.popLink link, ?_, ?_⟩
  · exact {
      unread := fun _ => unheard
      unused := fun _ none_ => absurd none_ there
      announced := fun among => by
        rcases among with among | among
        · exact absurd (noEvents ▸ among) List.not_mem_nil
        · exact absurd among unannounced
      delivered := sound.out.delivered
      linked := fun _ => by
        show ends.peer.received ++ bytesOf (ends.mine.link ++ sent) <+: _
        rw [unheard, silent]
        exact List.nil_prefix
      whole := fun _ holds => by
        rcases held_eq_true.mp holds with registered | among
        · rw [unregistered] at registered
          cases registered
        · exact absurd (noEvents ▸ among) List.not_mem_nil
      closing := fun _ _ => Or.inr (Or.inl unused)
      closed := fun some_ unheld =>
        (sound.out.closed some_ unheld).imp id (Or.imp id (Or.imp (And.imp id fun _ => unopened) id)) }
  · exact {
      unread := sound.back.unread
      unused := fun none_ => absurd none_ there
      announced := fun among => by
        rcases among with among | among
        · exact absurd among (sound.announced_there link)
        · exact absurd among unopened
      delivered := sound.back.delivered
      linked := fun awaits => absurd awaits unawaited
      whole := fun awaits => absurd awaits unawaited
      closing := fun _ awaits => absurd awaits unawaited
      closed := fun some_ => absurd unused some_ }

/-- Bytes are queued for the writer task. -/
theorem Sound.queues (sound : ends.Sound) {socket : RelaySocket}
    (link : ends.peer.link = .data bytes :: later) (registered : ends.mine.registered = true)
    (there : ends.mine.socket = some socket) (room : socket.writerFull = false) :
    Sound { ends with
      mine := { ends.mine with socket := some (socket.enqueue bytes) }
      peer := { ends.peer with link := later } } := by
  have awaited : Awaits ends.peer ends.mine := Or.inl registered
  have received : { ends.mine with socket := some (socket.enqueue bytes) }.received =
      ends.mine.received ++ bytes := by
    rw [StreamEnd.received, StreamEnd.received, there]
    exact socket.received_enqueue bytes
  -- The bytes move from the link to the queue.
  have moved : { ends.mine with socket := some (socket.enqueue bytes) }.received ++ bytesOf later =
      ends.mine.received ++ bytesOf ends.peer.link := by
    rw [received, link, bytesOf_cons_data, List.append_assoc]
  obtain ⟨-, unopened⟩ := (link ▸ sound.peer.link).pop
  refine ⟨sound.mine.queues there room bytes, sound.peer.popLink link, ?_, ?_⟩
  · refine (sound.popped link).source_congr (by simp [there]) rfl rfl ?_ id ?_
    · rw [StreamEnd.readBytes, StreamEnd.readBytes, there]
      rfl
    · rintro ⟨same, found, all⟩
      obtain rfl := Option.some.inj (found.symm.trans there)
      exact ⟨_, rfl, all⟩
  · exact {
      unread := fun none_ => absurd none_ (sound.socket_there link (by simp))
      unused := fun _ none_ => absurd none_ (Option.some_ne_none _)
      announced := fun among => by
        rcases among with among | among
        · exact absurd among (sound.announced_there link)
        · exact absurd among unopened
      delivered := by
        have linked := sound.back.linked awaited
        rw [← moved] at linked
        exact (List.prefix_append _ _).trans linked
      linked := fun _ => by
        show { ends.mine with socket := some (socket.enqueue bytes) }.received ++ bytesOf later <+: _
        rw [moved]
        exact sound.back.linked awaited
      whole := fun _ holds => by
        show { ends.mine with socket := some (socket.enqueue bytes) }.received ++ bytesOf later ++
          bytesOf ends.peer.events = _
        rw [moved]
        exact sound.back.whole awaited holds
      closing := fun among _ => by
        have closing := sound.back.closing (link ▸ List.mem_cons_of_mem _ among) awaited
        rw [← moved] at closing
        exact closing
      closed := fun _ unheld => by
        rw [(held_eq_false.mp unheld).1] at registered
        cases registered }

/-- A queue that refuses a chunk takes the channel off the table. -/
theorem Sound.overflows (sound : ends.Sound) (link : ends.peer.link = .data bytes :: later)
    (registered : ends.mine.registered = true) (sends : sent = [.closes] ∨ sent = []) :
    Sound { ends with
      mine := { ends.mine with registered := false, link := ends.mine.link ++ sent }
      peer := { ends.peer with link := later }
      overflowed := true } := by
  obtain ⟨socket, there⟩ := sound.mine.socket_of_registered registered
  have there' := sound.socket_there link (by simp)
  have linked : .opens ∈ ends.mine.link ++ sent → .opens ∈ ends.mine.link := by
    rcases sends with rfl | rfl <;> simp
  have silent : bytesOf (ends.mine.link ++ sent) = bytesOf ends.mine.link := by
    rcases sends with rfl | rfl <;> simp
  have unannounced : ¬ (.opens ∈ ends.mine.events ∨ .opens ∈ ends.mine.link ++ sent) :=
    fun among => there' (sound.out.announced (among.imp id linked)).1
  have popped := sound.popped link
  refine ⟨sound.mine.leaves registered sends, sound.peer.popLink link, ?_, ?_⟩
  · exact {
      unread := popped.unread
      unused := fun _ none_ => absurd none_ there'
      announced := fun among => absurd among unannounced
      delivered := popped.delivered
      linked := fun awaits => by
        show ends.peer.received ++ bytesOf (ends.mine.link ++ sent) <+: _
        rw [silent]
        exact popped.linked (awaits.imp id fun among => absurd among unannounced)
      whole := fun _ holds => by
        rcases held_eq_true.mp holds with again | among
        · cases again
        · exact absurd (Or.inl among) unannounced
      closing := fun _ _ => Or.inl (Or.inl rfl)
      closed := fun _ _ => Or.inl (Or.inl rfl) }
  · refine sound.back.leaves (by simp [there]) rfl rfl rfl (fun _ => id) (fun message among => ?_)
      fun _ => Or.inl (Or.inl rfl)
    rw [link]
    exact List.mem_cons_of_mem _ among

/-- Bytes for a channel that is not in the table are dropped. -/
theorem Sound.drops (sound : ends.Sound) (link : ends.peer.link = .data bytes :: later)
    (unregistered : ends.mine.registered = false) :
    Sound { ends with peer := { ends.peer with link := later } } := by
  obtain ⟨-, unopened⟩ := (link ▸ sound.peer.link).pop
  have there := sound.socket_there link (by simp)
  have unannounced : ¬ (.opens ∈ ends.peer.events ∨ .opens ∈ later) := by
    rintro (among | among)
    · exact sound.announced_there link among
    · exact unopened among
  have unawaited : ¬ Awaits { ends.peer with link := later } ends.mine := by
    rintro (registered | among)
    · rw [unregistered] at registered
      cases registered
    · exact unannounced among
  refine ⟨sound.mine, sound.peer.popLink link, sound.popped link, ?_⟩
  exact {
    unread := sound.back.unread
    unused := fun none_ => absurd none_ there
    announced := fun among => absurd among unannounced
    delivered := sound.back.delivered
    linked := fun awaits => absurd awaits unawaited
    whole := fun awaits => absurd awaits unawaited
    closing := fun _ awaits => absurd awaits unawaited
    closed := sound.back.closed }

/-- A close takes the channel off the table. -/
theorem Sound.closes (sound : ends.Sound) (link : ends.peer.link = .closes :: later) :
    Sound { ends with
      mine := { ends.mine with registered := false }
      peer := { ends.peer with link := later } } := by
  obtain rfl : later = [] := (link ▸ sound.peer.link).last
  have closes : .closes ∈ ends.peer.link := link ▸ List.mem_cons_self
  refine ⟨sound.mine.unregister false fun true_ => absurd true_ Bool.false_ne_true,
    sound.peer.popLink link, ?_, ?_⟩
  · refine (sound.popped link).source_congr Iff.rfl rfl rfl rfl (fun holds => ?_) id
    exact held_eq_true.mpr (Or.inr ((held_eq_true.mp holds).resolve_left (by simp)))
  · cases registered : ends.mine.registered with
    | false =>
      -- The channel was not in the table.
      have same : { ends.mine with registered := false } = ends.mine := by rw [← registered]
      have unannounced : .opens ∉ ends.peer.events := sound.announced_there link
      have unawaited : ¬ Awaits { ends.peer with link := [] } ends.mine := by
        rintro (again | among | among)
        · rw [registered] at again
          cases again
        · exact unannounced among
        · exact absurd among List.not_mem_nil
      rw [same]
      exact {
        unread := sound.back.unread
        unused := fun _ _ => rfl
        announced := fun among => by
          rcases among with among | among
          · exact absurd among unannounced
          · exact absurd among List.not_mem_nil
        delivered := sound.back.delivered
        linked := fun awaits => absurd awaits unawaited
        whole := fun awaits => absurd awaits unawaited
        closing := fun _ awaits => absurd awaits unawaited
        closed := sound.back.closed }
    | true =>
      obtain ⟨socket, there⟩ := sound.mine.socket_of_registered registered
      refine sound.back.leaves (by simp [there]) rfl rfl rfl (fun _ => id)
        (fun _ among => absurd among List.not_mem_nil) fun _ => ?_
      rcases sound.back.closing closes (Or.inl registered) with excused | none_ | ⟨all, same⟩
      · exact Or.inl excused
      · -- The other end has refused, so it was told of the channel.
        refine Or.inr (Or.inr (Or.inl ⟨none_, fun among => ?_⟩))
        have quiet := (sound.out.announced (Or.inr among)).2
        rw [link] at quiet
        cases quiet
      · rw [link, bytesOf_cons_closes, bytesOf_nil, List.append_nil] at same
        exact Or.inr (Or.inr (Or.inr ⟨all, same⟩))

/-! ### Stops and sockets -/

/-- The forward of the channel is stopped. -/
theorem Sound.stops (sound : ends.Sound) (registered : Bool)
    (less : registered = true → ends.mine.registered = true) :
    Sound { ends with mine := { ends.mine with registered }, stopped := true } := by
  have held : { ends.mine with registered }.held = true → ends.mine.held = true := fun holds =>
    held_eq_true.mpr ((held_eq_true.mp holds).imp less id)
  have excused : ends.Excused →
      Excused { ends with mine := { ends.mine with registered }, stopped := true } :=
    fun _ => Or.inr rfl
  refine ⟨sound.mine.unregister registered less, sound.peer, ?_, ?_⟩
  · have out : Flow { ends.mine with registered } ends.peer ends.Excused :=
      sound.out.source_congr Iff.rfl rfl rfl rfl held id
    exact out.excuse excused
  · by_cases same : registered = ends.mine.registered
    · have unchanged : { ends.mine with registered } = ends.mine := by rw [same]
      rw [unchanged]
      exact sound.back.excuse excused
    · have before : ends.mine.registered = true := by
        cases registered with
        | true => exact less rfl
        | false => simpa using same
      have now : registered = false := by
        rw [before] at same
        simpa using same
      obtain ⟨socket, there⟩ := sound.mine.socket_of_registered before
      exact sound.back.leaves (by simp [there]) rfl now rfl (fun _ => id) (fun _ => id)
        fun _ => Or.inl (Or.inr rfl)

/-- The application or a task of a socket does something. -/
theorem Sound.socket (sound : ends.Sound) {action : SocketAction} {socket next : RelaySocket}
    {reports : List ChannelMessage} (there : ends.mine.socket = some socket)
    (stepped : socket.step ends.mine.held action = some (next, reports)) :
    Sound { ends with
      mine := { ends.mine with socket := some next, events := ends.mine.events ++ reports } } := by
  have step := (sound.mine.sound socket there).step stepped
  have unopening := step.unopening
  have opens : .opens ∈ ends.mine.events ++ reports ↔ .opens ∈ ends.mine.events := by
    rw [List.mem_append, or_iff_left unopening]
  have held : { ends.mine with
      socket := some next, events := ends.mine.events ++ reports }.held = ends.mine.held := by
    rw [Bool.eq_iff_iff, held_eq_true, held_eq_true, opens]
  have received : { ends.mine with
      socket := some next, events := ends.mine.events ++ reports }.received =
        ends.mine.received := by
    rw [StreamEnd.received, StreamEnd.received, there]
    exact step.received
  have read : ends.mine.readBytes = socket.readBytes := by
    rw [StreamEnd.readBytes, there]
    rfl
  -- The reader task has reported what it read, and nothing else has changed.
  have readMore : next.readBytes = socket.readBytes ++ bytesOf reports := by
    cases step.effect with
    | quiet same => rw [same, bytesOf_nil, List.append_nil]
    | reads chunk more => rw [more, bytesOf_cons_data, bytesOf_nil, List.append_nil]
    | ends same => rw [same, bytesOf_cons_closes, bytesOf_nil, List.append_nil]
  have allRead : ends.mine.readAll → next.reading = false ∧ bytesOf reports = [] := by
    rintro ⟨same, found, all⟩
    obtain rfl := Option.some.inj (found.symm.trans there)
    cases step.effect with
    | quiet _ reading => exact ⟨reading.trans all, rfl⟩
    | reads _ _ going =>
      rw [all] at going
      cases going
    | ends _ going =>
      rw [all] at going
      cases going
  have grows : ends.mine.readBytes <+: next.readBytes := by
    rw [read, readMore]
    exact List.prefix_append _ _
  have awaited : Awaits { ends.mine with
      socket := some next, events := ends.mine.events ++ reports } ends.peer →
      Awaits ends.mine ends.peer := Or.imp id (Or.imp opens.mp id)
  have stays : ends.mine.readAll → next.readBytes = ends.mine.readBytes := by
    intro all
    rw [readMore, (allRead all).2, List.append_nil, read]
  refine ⟨sound.mine.steps there stepped, sound.peer, ?_, ?_⟩
  · exact {
      unread := fun none_ => absurd none_ (Option.some_ne_none _)
      unused := fun none_ => absurd none_ (Option.some_ne_none _)
      announced := fun among => sound.out.announced (among.imp opens.mp id)
      delivered := sound.out.delivered.trans grows
      linked := fun awaits => (sound.out.linked (awaited awaits)).trans grows
      whole := fun awaits holds => by
        have whole := sound.out.whole (awaited awaits) (held ▸ holds)
        show ends.peer.received ++ bytesOf ends.mine.link ++
          bytesOf (ends.mine.events ++ reports) = next.readBytes
        rw [bytesOf_append, ← List.append_assoc, whole, read, readMore]
      closing := fun among awaits => by
        rcases sound.out.closing among (awaited awaits) with excused | none_ | ⟨all, same⟩
        · exact Or.inl excused
        · rw [there] at none_
          cases none_
        · exact Or.inr (Or.inr ⟨⟨next, rfl, (allRead all).1⟩, same.trans (stays all).symm⟩)
      closed := fun some_ unheld => by
        rcases sound.out.closed some_ unheld with excused | all | ⟨none_, -⟩ | ⟨all, same⟩
        · exact Or.inl excused
        · exact Or.inr (Or.inl all)
        · rw [there] at none_
          cases none_
        · exact Or.inr (Or.inr (Or.inr ⟨⟨next, rfl, (allRead all).1⟩, same.trans (stays all).symm⟩)) }
  · exact sound.back.destination_congr received rfl held (by simp [there]) (fun _ quiet => quiet) id
      fun all => ⟨next, rfl, (allRead all).1⟩

end Turns

/-- Whatever an end does, both ends stay sound. -/
theorem Sound.turn {ends next : ChannelEnds} (sound : ends.Sound) (turn : ends.Turn next) :
    next.Sound := by
  cases turn with
  | accepts unused unusedThere => exact sound.accepts unused unusedThere
  | announces events sends => exact sound.announces events sends
  | withdraws events => exact sound.withdraws events
  | forwards events registered => exact sound.forwards events registered
  | reportsEnd events registered sends => exact sound.reportsEnd events registered sends
  | ignores events other unregistered => exact sound.ignores events other unregistered
  | connects link => exact sound.connects link
  | refuses link sends => exact sound.refuses link sends
  | queues link registered there room => exact sound.queues link registered there room
  | overflows link registered sends => exact sound.overflows link registered sends
  | drops link unregistered => exact sound.drops link unregistered
  | closes link => exact sound.closes link
  | stops registered less => exact sound.stops registered less
  | socket there stepped => exact sound.socket there stepped

end ChannelEnds

end Gritty
