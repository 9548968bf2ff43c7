import Gritty.Terminal.Queries

/-! The query filter over chunks: nothing but queries is deleted, and little is held back at any time. -/

namespace Gritty

namespace QueryFilter

/-- How much a filter may hold back between two bytes. -/
def Bounded (filter : QueryFilter) : Prop :=
  match filter.state with
  | .ground => filter.pending = []
  | .esc => filter.pending.length = 1
  | .csi => filter.pending.length ≤ maxCsiBytes
  | .stringBody => filter.pending.length ≤ maxStringBytes
  | .stringEsc => filter.pending ≠ [] ∧ filter.pending.length ≤ maxStringBytes + 1

/-- Together with the byte that is read next, no more than the terminator of a string is held back on top. -/
theorem Bounded.length_le {filter : QueryFilter} (bounded : filter.Bounded) :
    filter.pending.length + 1 ≤ maxStringBytes + 2 := by
  unfold Bounded at bounded
  unfold maxStringBytes maxCsiBytes at *
  split at bounded
  · rw [bounded]
    decide
  all_goals omega

theorem bounded_new : new.Bounded := rfl

theorem bounded_stepGround (byte : UInt8) : (stepGround byte).1.Bounded := by
  unfold stepGround
  split_ifs
  · rfl
  · exact bounded_new

/-- A sequence that was let through is not held back. -/
theorem bounded_flushAndStep (pending : Bytes) (byte : UInt8) :
    (flushAndStep pending byte).1.Bounded :=
  bounded_stepGround byte

/-- A complete string is no longer held back. -/
theorem bounded_endString (kind : Option StringKind) (pending : Bytes) :
    (endString kind pending).1.Bounded := by
  unfold endString
  split_ifs
  · exact bounded_new
  · exact bounded_new

/-- After an escape little is held back. -/
theorem bounded_stepEsc {pending : Bytes} (single : pending.length = 1) (byte : UInt8) :
    (stepEsc pending byte).1.Bounded := by
  have two : (pending ++ [byte]).length = 2 := by
    rw [List.length_append, single]
    rfl
  have short : (pending ++ [byte]).length ≤ maxCsiBytes := two ▸ by decide
  have small : (pending ++ [byte]).length ≤ maxStringBytes := two ▸ by decide
  unfold stepEsc
  split_ifs
  · exact short
  · exact small
  · exact small
  · exact small
  · exact bounded_new
  · exact bounded_flushAndStep pending byte

/-- Within a control sequence no more is held back than its limit. -/
theorem bounded_stepCsi (pending : Bytes) (byte : UInt8) : (stepCsi pending byte).1.Bounded := by
  unfold stepCsi
  split_ifs with long
  · exact bounded_flushAndStep pending byte
  · -- There was room for one more byte.
    show (pending ++ [byte]).length ≤ maxCsiBytes
    rw [List.length_append, List.length_singleton]
    exact Nat.lt_of_not_le long
  · exact bounded_new
  · exact bounded_new
  · exact bounded_flushAndStep pending byte

/-- Within a string no more is held back than its limit. -/
theorem bounded_stepStringBody {kind : Option StringKind} {pending : Bytes}
    (small : pending.length ≤ maxStringBytes) (byte : UInt8) :
    (stepStringBody kind pending byte).1.Bounded := by
  unfold stepStringBody
  dsimp only
  split_ifs with escape bell given
  · refine ⟨List.append_ne_nil_of_right_ne_nil pending (List.cons_ne_nil byte []), ?_⟩
    show (pending ++ [byte]).length ≤ maxStringBytes + 1
    rw [List.length_append, List.length_singleton]
    exact Nat.succ_le_succ small
  · exact bounded_endString kind (pending ++ [byte])
  · exact bounded_new
  · -- A longer body would have been let through.
    show (pending ++ [byte]).length ≤ maxStringBytes
    rw [Bool.or_eq_true, not_or, decide_eq_true_eq] at given
    exact Nat.le_of_not_lt given.1

/-- At an escape within a string no more is held back than its limit. -/
theorem bounded_stepStringEsc {kind : Option StringKind} {pending : Bytes} (some_ : pending ≠ [])
    (byte : UInt8) : (stepStringEsc kind pending byte).1.Bounded := by
  unfold stepStringEsc
  split_ifs
  · exact bounded_endString kind (pending ++ [byte])
  · -- The body is let through, and only its last byte is left.
    have single : (pending.drop (pending.length - 1)).length = 1 := by
      have positive := List.length_pos_iff.mpr some_
      rw [List.length_drop]
      omega
    exact bounded_stepEsc single byte

/-- No byte makes a filter hold back too much. -/
theorem Bounded.step {filter : QueryFilter} (bounded : filter.Bounded) (byte : UInt8) :
    (filter.step byte).1.Bounded := by
  unfold Bounded at bounded
  unfold QueryFilter.step
  cases state : filter.state <;> simp only [state] at bounded ⊢
  case ground => exact bounded_stepGround byte
  case esc => exact bounded_stepEsc bounded byte
  case csi => exact bounded_stepCsi filter.pending byte
  case stringBody => exact bounded_stepStringBody bounded byte
  case stringEsc => exact bounded_stepStringEsc bounded.1 byte

/-- A body that is let through early is the beginning of no query, whatever would have followed. -/
theorem stringIsQuery_of_released {kind : Option StringKind} {body : Bytes}
    (released : stringMayBeQuery kind body = false) (rest : Bytes) :
    stringIsQuery kind (body ++ rest) = false := by
  cases kind with
  | none => rfl
  | some kind =>
    rw [Bool.eq_false_iff]
    intro asks
    have may := stringMayBeQuery_of_prefix asks (List.prefix_append body rest)
    rw [released] at may
    cases may

end QueryFilter

/-- What the filter does to a stream, however it is cut into chunks. -/
structure DeletesOnlyQueries : Prop where
  /-- The stream is what is let through, with whole queries put into it. -/
  stuffed : ∀ chunks : List Bytes, Stuffed TerminalQuery
    ((queryFilter.runChunks .new chunks).2.flatten ++ (queryFilter.runChunks .new chunks).1.finish)
    chunks.flatten
  /-- Only a body that cannot become a query is let through before it ends. -/
  released : ∀ kind body rest, QueryFilter.stringMayBeQuery kind body = false →
    QueryFilter.stringIsQuery kind (body ++ rest) = false
  /-- What is held back is short, the byte that is read next included. -/
  heldBack : ∀ chunks : List Bytes,
    (queryFilter.runChunks .new chunks).1.pending.length + 1 ≤ maxStringBytes + 2

/-- The filter deletes whole queries and nothing else. -/
theorem queryFilter_deletesOnlyQueries : DeletesOnlyQueries where
  stuffed chunks := by
    obtain ⟨sameState, sameOutput⟩ := queryFilter.runChunks_flatten .new chunks
    rw [sameState, sameOutput]
    exact stripQueries_erases.stuffed_self terminalQuery_apart.nonempty chunks.flatten
  released _ _ rest released := QueryFilter.stringIsQuery_of_released released rest
  heldBack chunks := by
    rw [(queryFilter.runChunks_flatten .new chunks).1]
    apply QueryFilter.Bounded.length_le
    apply Transducer.run_keeps _ QueryFilter.bounded_new
    exact fun filter byte bounded => bounded.step byte

end Gritty
