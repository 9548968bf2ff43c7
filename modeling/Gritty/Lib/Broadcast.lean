import Mathlib.Data.List.Basic
import Mathlib.Tactic.Common

/-! A bounded broadcast channel, whose slow readers lose the oldest events and are told how many. -/

namespace Gritty

universe u

variable {Event : Type u}

/-- What a reader gets. -/
inductive Received (Event : Type u) where
  | event (event : Event)
  /-- So many events were overwritten before they were read. -/
  | lagged (dropped : Nat)
  deriving DecidableEq

/-- The next thing a reader gets that has read up to a position, and its position after it. -/
def receive (capacity : Nat) (events : List Event) (position : Nat) :
    Option (Received Event × Nat) :=
  -- Only the newest events are kept: a reader further behind skips to the oldest of them.
  if position + capacity < events.length then
    some (.lagged (events.length - capacity - position), events.length - capacity)
  else
    match events[position]? with
    | some event => some (.event event, position + 1)
    | none => none

/-- The events between two positions. -/
def between (events : List Event) (first last : Nat) : List Event := (events.take last).drop first

/-- What was received accounts for a list of events: each was read in turn, or is counted as dropped. -/
inductive Accounts : List (Received Event) → List Event → Prop where
  | nil : Accounts [] []
  | event {items : List (Received Event)} {events : List Event} (event : Event)
      (rest : Accounts items events) : Accounts (.event event :: items) (event :: events)
  | lagged {items : List (Received Event)} {events dropped : List Event} (nonempty : dropped ≠ [])
      (rest : Accounts items events) :
      Accounts (.lagged dropped.length :: items) (dropped ++ events)

/-- Two accounts one after the other account for the events one after the other. -/
theorem Accounts.append {first second : List (Received Event)} {before after : List Event}
    (one : Accounts first before) (other : Accounts second after) :
    Accounts (first ++ second) (before ++ after) := by
  -- The induction follows the first account.
  induction one with
  | nil => exact other
  | event event rest ih => exact Accounts.event event ih
  | lagged nonempty rest ih =>
    rw [List.append_assoc]
    exact Accounts.lagged nonempty ih

/-- Events up to a position, and those from there to another one. -/
theorem between_append (events : List Event) {first middle last : Nat} (ordered : first ≤ middle)
    (reaches : middle ≤ last) :
    between events first last = between events first middle ++ between events middle last := by
  -- The events from the first position on are taken in two portions.
  have shape (start stop : Nat) : between events start stop =
      (events.drop start).take (stop - start) := List.drop_take
  have portions : last - first = (middle - first) + (last - middle) := by omega
  have there : first + (middle - first) = middle := by omega
  rw [shape, shape, shape, portions, List.take_add, List.drop_drop, there]

/-- New events change nothing between earlier positions. -/
theorem between_more (events more : List Event) {first last : Nat} (within : last ≤ events.length) :
    between (events ++ more) first last = between events first last := by
  unfold between
  rw [List.take_append_of_le_length within]

@[simp] theorem between_self (events : List Event) (position : Nat) :
    between events position position = [] := by
  unfold between
  rw [List.drop_eq_nil_iff, List.length_take]
  exact Nat.min_le_left _ _

/-- Up to the end of the channel, the events from a position on are left. -/
theorem between_end (events : List Event) (position : Nat) :
    between events position events.length = events.drop position := by
  unfold between
  rw [List.take_length]

/-- A reader that has not read all events gets something. -/
theorem receive_some (capacity : Nat) {events : List Event} {position : Nat}
    (behind : position < events.length) :
    ∃ item next, receive capacity events position = some (item, next) := by
  unfold receive
  split
  · exact ⟨_, _, rfl⟩
  · rw [List.getElem?_eq_getElem behind]
    exact ⟨_, _, rfl⟩

/-- A reader moves forward, stays within the channel, and accounts for what it moved over. -/
theorem receive_accounts {capacity : Nat} {events : List Event} {position next : Nat}
    {item : Received Event} (received : receive capacity events position = some (item, next)) :
    position < next ∧ next ≤ events.length ∧
      Accounts [item] (between events position next) := by
  unfold receive at received
  split at received
  · next behind =>
    -- The skipped events are those from the position to the oldest one kept.
    obtain ⟨rfl, rfl⟩ := Prod.mk.inj (Option.some.inj received)
    have length : (between events position (events.length - capacity)).length =
        events.length - capacity - position := by
      unfold between
      rw [List.length_drop, List.length_take]
      omega
    refine ⟨by omega, by omega, ?_⟩
    have nonempty : between events position (events.length - capacity) ≠ [] := by
      intro empty
      rw [empty, List.length_nil] at length
      omega
    have account := Accounts.lagged nonempty Accounts.nil
    rwa [length, List.append_nil] at account
  · split at received
    · next event found =>
      obtain ⟨rfl, rfl⟩ := Prod.mk.inj (Option.some.inj received)
      obtain ⟨within, is⟩ := List.getElem?_eq_some_iff.mp found
      refine ⟨Nat.lt_succ_self _, within, ?_⟩
      have single : between events position (position + 1) = [event] := by
        unfold between
        rw [← List.take_append_getElem within, is, List.drop_append, List.length_take,
          Nat.min_eq_left (Nat.le_of_lt within), Nat.sub_self, List.drop_zero,
          List.drop_eq_nil_of_le (by rw [List.length_take]; omega), List.nil_append]
      rw [single]
      exact Accounts.event event Accounts.nil
    · simp at received

/-- A reader that has accounted for all events up to its position still has after the next one. -/
theorem Accounts.receive {capacity : Nat} {events : List Event} {start position next : Nat}
    {items : List (Received Event)} {item : Received Event}
    (account : Accounts items (between events start position)) (started : start ≤ position)
    (received : receive capacity events position = some (item, next)) :
    Accounts (items ++ [item]) (between events start next) := by
  obtain ⟨forward, -, last⟩ := receive_accounts received
  rw [between_append events started (Nat.le_of_lt forward)]
  exact account.append last

/-- An event that a reader gets is the one at its position. -/
theorem receive_event {capacity : Nat} {events : List Event} {position next : Nat} {event : Event}
    (received : receive capacity events position = some (.event event, next)) :
    events[position]? = some event ∧ next = position + 1 := by
  unfold receive at received
  split at received
  · -- A reader that fell behind is told so first.
    simp at received
  · split at received
    · next found there =>
      obtain ⟨same, rfl⟩ := Prod.mk.inj (Option.some.inj received)
      exact ⟨Received.event.inj same ▸ there, rfl⟩
    · simp at received

end Gritty
