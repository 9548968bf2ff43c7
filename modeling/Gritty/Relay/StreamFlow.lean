import Gritty.Relay.ByteStreams

/-! What is written at one end of a channel is a prefix of what was read at the other, whatever both ends do. -/

namespace Gritty

open StreamEnd

/-- The destination takes bytes of the source, or will do so once it has taken the announcement. -/
def Awaits (source destination : StreamEnd) : Prop :=
  destination.registered = true ∨ .opens ∈ source.events ∨ .opens ∈ source.link

/-- The bytes of one direction, from the socket of the source to that of the destination. -/
structure Flow (source destination : StreamEnd) (excused : Prop) : Prop where
  unread : source.socket = none → destination.received = []
  unused : source.socket = none → destination.socket = none → source.link = []
  /-- An announcement is for an end without a socket. -/
  announced : .opens ∈ source.events ∨ .opens ∈ source.link →
    destination.socket = none ∧ destination.link = []
  delivered : destination.received <+: source.readBytes
  linked : Awaits source destination →
    destination.received ++ bytesOf source.link <+: source.readBytes
  /-- Nothing is missing between ends that both have the channel. -/
  whole : Awaits source destination → source.held = true →
    destination.received ++ bytesOf source.link ++ bytesOf source.events = source.readBytes
  /-- What a close on its way means. -/
  closing : .closes ∈ source.link → Awaits source destination →
    excused ∨ source.socket = none ∨
      source.readAll ∧ destination.received ++ bytesOf source.link = source.readBytes
  /-- Why the destination has the channel no more. -/
  closed : destination.socket ≠ none → destination.held = false →
    excused ∨ destination.readAll ∨ source.socket = none ∧ .opens ∉ destination.link ∨
      source.readAll ∧ destination.received = source.readBytes

/-- Between two new ends all has flowed. -/
theorem flow_new (excused : Prop) : Flow .new .new excused where
  unread _ := rfl
  unused _ _ := rfl
  announced among := by
    rcases among with among | among <;> exact absurd among List.not_mem_nil
  delivered := List.prefix_refl []
  linked _ := List.prefix_refl []
  whole _ _ := rfl
  closing among := absurd among List.not_mem_nil
  closed some_ := absurd rfl some_

namespace Flow

variable {source destination : StreamEnd} {excused : Prop}

/-- A weaker excuse excuses as well. -/
theorem excuse (flow : Flow source destination excused) {more : Prop} (weaker : excused → more) :
    Flow source destination more where
  unread := flow.unread
  unused := flow.unused
  announced := flow.announced
  delivered := flow.delivered
  linked := flow.linked
  whole := flow.whole
  closing among awaits := (flow.closing among awaits).imp weaker id
  closed some_ unheld := (flow.closed some_ unheld).imp weaker id

/-- Of a destination only these things matter. -/
theorem destination_congr (flow : Flow source destination excused) {next : StreamEnd}
    (received : next.received = destination.received)
    (registered : next.registered = destination.registered) (held : next.held = destination.held)
    (socket : next.socket = none ↔ destination.socket = none)
    (link : destination.socket = none → destination.link = [] → next.link = [])
    (opens : .opens ∈ next.link → .opens ∈ destination.link)
    (readAll : destination.readAll → next.readAll) : Flow source next excused where
  unread none_ := received ▸ flow.unread none_
  unused none_ noneThere := flow.unused none_ (socket.mp noneThere)
  announced among := by
    obtain ⟨none_, quiet⟩ := flow.announced among
    exact ⟨socket.mpr none_, link none_ quiet⟩
  delivered := received ▸ flow.delivered
  linked awaits := by
    rw [received]
    exact flow.linked (by rwa [Awaits, ← registered])
  whole awaits := by
    rw [received]
    exact flow.whole (by rwa [Awaits, ← registered])
  closing among awaits := by
    rw [received]
    exact flow.closing among (by rwa [Awaits, ← registered])
  closed some_ unheld := by
    rw [received]
    exact (flow.closed (mt socket.mpr some_) (held ▸ unheld)).imp id
      (Or.imp readAll (Or.imp (And.imp id (mt opens)) id))

/-- Of a source only these things matter. -/
theorem source_congr (flow : Flow source destination excused) {next : StreamEnd}
    (socket : next.socket = none ↔ source.socket = none)
    (events : next.events = source.events) (link : next.link = source.link)
    (read : next.readBytes = source.readBytes) (held : next.held = true → source.held = true)
    (readAll : source.readAll → next.readAll) : Flow next destination excused := by
  have same : Awaits next destination ↔ Awaits source destination := by
    rw [Awaits, Awaits, events, link]
  constructor
  · exact fun none_ => flow.unread (socket.mp none_)
  · rw [link]
    exact fun none_ => flow.unused (socket.mp none_)
  · rw [events, link]
    exact flow.announced
  · rw [read]
    exact flow.delivered
  · rw [same, link, read]
    exact flow.linked
  · rw [same, events, link, read]
    exact fun awaits holds => flow.whole awaits (held holds)
  · rw [same, link, read, socket]
    exact fun among awaits => (flow.closing among awaits).imp id (Or.imp id (And.imp readAll id))
  · rw [read, socket]
    exact fun some_ unheld =>
      (flow.closed some_ unheld).imp id (Or.imp id (Or.imp id (And.imp readAll id)))

/-- A destination that leaves its table takes nothing more. -/
theorem leaves (flow : Flow source destination excused) {after next : StreamEnd} {more : Prop}
    (there : destination.socket ≠ none)
    (socket : next.socket = destination.socket) (unregistered : next.registered = false)
    (source_ : after.socket = source.socket)
    (events : ∀ message ∈ after.events, message ∈ source.events)
    (link : ∀ message ∈ after.link, message ∈ source.link)
    (reason : next.held = false → more ∨ next.readAll ∨
      source.socket = none ∧ .opens ∉ next.link ∨
        source.readAll ∧ destination.received = source.readBytes) : Flow after next more := by
  have received : next.received = destination.received := by rw [StreamEnd.received, socket]; rfl
  have read : after.readBytes = source.readBytes := by rw [StreamEnd.readBytes, source_]; rfl
  have unannounced : ¬ (.opens ∈ after.events ∨ .opens ∈ after.link) := fun among =>
    there (flow.announced (among.imp (events _) (link _))).1
  have unawaited : ¬ Awaits after next := by
    rintro (registered | among)
    · rw [unregistered] at registered
      cases registered
    · exact unannounced among
  exact {
    unread := fun none_ => received ▸ flow.unread (source_ ▸ none_)
    unused := fun _ none_ => absurd (socket ▸ none_) there
    announced := fun among => absurd among unannounced
    delivered := by rw [received, read]; exact flow.delivered
    linked := fun awaits => absurd awaits unawaited
    whole := fun awaits => absurd awaits unawaited
    closing := fun _ awaits => absurd awaits unawaited
    closed := fun _ unheld => by
      rw [received, read, source_]
      simp only [StreamEnd.readAll, source_]
      exact reason unheld }

/-- Nothing flows from an end that never had a socket. -/
theorem of_unused (orderly : source.Orderly) (unused : source.socket = none)
    (quiet : source.link = []) (received : destination.received = [])
    (reason : destination.held = false → excused) : Flow source destination excused := by
  obtain ⟨unregistered, noEvents, -⟩ := orderly.socketless unused
  have unheld : source.held = false :=
    held_eq_false.mpr ⟨unregistered, noEvents ▸ List.not_mem_nil⟩
  constructor
  · exact fun _ => received
  · exact fun _ _ => quiet
  · rw [noEvents, quiet]
    rintro (among | among) <;> exact absurd among List.not_mem_nil
  · rw [received]
    exact List.nil_prefix
  · rw [received, quiet]
    exact fun _ => List.nil_prefix
  · rw [unheld]
    exact nofun
  · rw [quiet]
    exact fun among => absurd among List.not_mem_nil
  · exact fun _ unheld => Or.inl (reason unheld)

end Flow

end Gritty
