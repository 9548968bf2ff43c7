import Gritty.Session.History

/-! The counters of a history, kept one by one as the code keeps them, never part from the retained chunks. -/

namespace Gritty

/-- A difference that may not go below zero. -/
def checkedSub (whole part : Nat) : Option Nat := if part ≤ whole then some (whole - part) else none

/-- The fields of a history, with nothing said about how they agree. -/
structure HistoryFields where
  chunks : List Bytes
  size : Nat
  cap : Nat
  totalOut : Nat
  deriving DecidableEq

namespace HistoryFields

def new (cap : Nat) : HistoryFields := { chunks := [], size := 0, cap := max cap 1, totalOut := 0 }

/-- Take chunks from the front while the size is past the cap. There is none if the size underflows. -/
def popPast (cap : Nat) : Nat → List Bytes → Option (Nat × List Bytes)
  | size, [] => some (size, [])
  | size, old :: later =>
    if cap < size then (checkedSub size old.length).bind fun size => popPast cap size later
    else some (size, old :: later)

/-- Append a chunk of output and evict the oldest chunks past the cap. -/
def push (fields : HistoryFields) (chunk : Bytes) : Option HistoryFields :=
  if chunk.isEmpty then some fields
  else
    (popPast fields.cap (fields.size + chunk.length) (fields.chunks ++ [chunk])).map
      fun (size, chunks) => { fields with chunks, size, totalOut := fields.totalOut + chunk.length }

/-- The length of the whole stream. -/
def total (fields : HistoryFields) : Nat := fields.totalOut

/-- The offset of the oldest byte retained. -/
def base (fields : HistoryFields) : Option Nat := checkedSub fields.totalOut fields.size

/-- The retained chunks from an offset on. -/
def sliceFrom (fields : HistoryFields) (offset : Nat) : Option (List Bytes) :=
  fields.base.map fun base => History.skipBytes (offset - base) fields.chunks

end HistoryFields

namespace History

/-- The fields of a history. -/
def fields (history : History) : HistoryFields where
  chunks := history.chunks
  size := history.size
  cap := history.cap
  totalOut := history.totalOut

/-- A size that is that of the chunks stays so while chunks are taken from the front. -/
theorem popPast_eq_evict (cap : Nat) (chunks : List Bytes) :
    HistoryFields.popPast cap chunks.flatten.length chunks =
      some ((evict cap chunks).flatten.length, evict cap chunks) := by
  -- Each turn takes one chunk off the list and its length off the size.
  induction chunks with
  | nil => rfl
  | cons old later ih =>
    rw [HistoryFields.popPast, evict]
    split
    · have fits : old.length ≤ (old :: later).flatten.length := by
        rw [List.flatten_cons, List.length_append]
        exact Nat.le_add_right _ _
      have rest : (old :: later).flatten.length - old.length = later.flatten.length := by
        rw [List.flatten_cons, List.length_append, Nat.add_sub_cancel_left]
      rw [checkedSub, if_pos fits, rest, Option.bind_some, ih]
    · rfl

/-- Counters that start out right are kept right by every push. -/
theorem fields_push (history : History) (chunk : Bytes) :
    history.fields.push chunk = some (history.push chunk).fields := by
  unfold HistoryFields.push History.push
  split
  · rfl
  -- The size in the field is that of the chunks, the new one included.
  · have size : history.fields.size + chunk.length = (history.chunks ++ [chunk]).flatten.length := by
      rw [List.flatten_append, List.length_append, List.flatten_singleton, ← history.sized]
      rfl
    rw [size]
    show (HistoryFields.popPast history.cap _ (history.chunks ++ [chunk])).map _ = _
    rw [popPast_eq_evict]
    rfl

/-- No more is retained than was ever pushed, so the base is never below zero. -/
theorem fields_base (history : History) : history.fields.base = some history.base :=
  if_pos history.within

theorem fields_sliceFrom (history : History) (offset : Nat) :
    history.fields.sliceFrom offset = some (history.sliceFrom offset) := by
  -- The base is not below zero, so the slice is that of the history.
  rw [HistoryFields.sliceFrom, fields_base]
  rfl

/-! ### How much is evicted -/

/-- Eviction takes the fewest chunks from the front that leave no more than the cap. -/
theorem evict_eq_drop (cap : Nat) (chunks : List Bytes) :
    ∃ evicted, evict cap chunks = chunks.drop evicted ∧ (evict cap chunks).flatten.length ≤ cap ∧
      ∀ fewer < evicted, cap < (chunks.drop fewer).flatten.length := by
  induction chunks with
  | nil => exact ⟨0, rfl, Nat.zero_le _, fun _ none_ => absurd none_ (Nat.not_lt_zero _)⟩
  | cons old later ih =>
    rw [evict]
    split
    · next past =>
      obtain ⟨evicted, same, fits, least⟩ := ih
      refine ⟨evicted + 1, same, fits, fun fewer less => ?_⟩
      -- Nothing evicted leaves too much, and the rest is the induction hypothesis.
      cases fewer with
      | zero => exact past
      | succ fewer => exact least fewer (Nat.lt_of_succ_lt_succ less)
    · next within =>
      exact ⟨0, rfl, Nat.le_of_not_lt within, fun _ none_ => absurd none_ (Nat.not_lt_zero _)⟩

/-- Of the chunks that were pushed, the fewest are gone that leave no more than the cap. -/
structure Trimmed (history : History) (pushed : List Bytes) : Prop where
  fits : history.chunks.flatten.length ≤ history.cap
  least : ∃ evicted, history.chunks = pushed.drop evicted ∧
    ∀ fewer < evicted, history.cap < (pushed.drop fewer).flatten.length

theorem trimmed_new (cap : Nat) : (new cap).Trimmed [] :=
  ⟨Nat.zero_le _, 0, rfl, fun _ none_ => absurd none_ (Nat.not_lt_zero _)⟩

@[simp] theorem push_cap (history : History) (chunk : Bytes) :
    (history.push chunk).cap = history.cap := by
  unfold push
  split <;> rfl

/-- Whatever was evicted earlier would have to be evicted now. -/
theorem Trimmed.push {history : History} {pushed : List Bytes} (trimmed : history.Trimmed pushed)
    {chunk : Bytes} (some_ : chunk.isEmpty = false) :
    (history.push chunk).Trimmed (pushed ++ [chunk]) := by
  -- The chunks evicted so far, and those that the new one pushes out.
  obtain ⟨before, retained, least⟩ := trimmed.least
  obtain ⟨now, left, fits, leastNow⟩ := evict_eq_drop history.cap (history.chunks ++ [chunk])
  have chunks : (history.push chunk).chunks = evict history.cap (history.chunks ++ [chunk]) := by
    unfold History.push
    rw [if_neg (by simp [some_])]
  refine ⟨by rwa [chunks, push_cap], ?_⟩
  -- Chunks evicted earlier left too much then, and there is more now.
  rw [chunks, push_cap]
  by_cases all : before ≤ pushed.length
  · -- The chunks that are left were pushed after those evicted earlier and those evicted now.
    have joined : history.chunks ++ [chunk] = (pushed ++ [chunk]).drop before := by
      rw [retained, List.drop_append_of_le_length all]
    refine ⟨before + now, by rw [left, joined, List.drop_drop], fun fewer less => ?_⟩
    by_cases earlier : fewer < before
    · have past := least fewer earlier
      have more : (pushed.drop fewer).flatten.length ≤
          ((pushed ++ [chunk]).drop fewer).flatten.length := by
        rw [List.drop_append_of_le_length (Nat.le_trans (Nat.le_of_lt earlier) all),
          List.flatten_append, List.length_append]
        exact Nat.le_add_right _ _
      exact Nat.lt_of_lt_of_le past more
    -- The others are evicted now, counted from what was retained.
    · have past := leastNow (fewer - before) (by omega)
      rwa [joined, List.drop_drop, Nat.add_sub_cancel' (Nat.le_of_not_lt earlier)] at past
  · -- No more chunks are evicted than were pushed, for without any the size is zero.
    exfalso
    have past := least pushed.length (Nat.lt_of_not_le all)
    rw [List.drop_length, List.flatten_nil, List.length_nil] at past
    exact Nat.not_lt_zero _ past

end History

/-! ### The window on a stream -/

/-- What the fields of a history say after some chunks were pushed. -/
structure HistoryFields.Window (fields : HistoryFields) (cap : Nat) (pushed : List Bytes) : Prop where
  total : fields.total = pushed.flatten.length
  size : fields.size = fields.chunks.flatten.length
  small : fields.size ≤ max cap 1
  /-- The base does not underflow, and what is retained is the stream from there to its end. -/
  retained : ∃ base, fields.base = some base ∧ base ≤ fields.total ∧
    fields.chunks.flatten = pushed.flatten.drop base ∧
    ∀ offset, ∃ slice, fields.sliceFrom offset = some slice ∧
      slice.flatten = pushed.flatten.drop (max offset base)
  /-- Whole chunks were evicted from the front, and no more of them than necessary. -/
  evicted : ∃ evicted, fields.chunks = (pushed.filter (!·.isEmpty)).drop evicted ∧
    ∀ fewer < evicted, max cap 1 < ((pushed.filter (!·.isEmpty)).drop fewer).flatten.length

namespace History

/-- An offset before the oldest byte counts as that of the oldest byte. -/
theorem Retains.sliceFrom_max {history : History} {stream : Bytes}
    (retains : history.Retains stream) (offset : Nat) :
    (history.sliceFrom offset).flatten = stream.drop (max offset history.base) := by
  -- Before the base nothing is skipped, and after it the difference is.
  rcases Nat.le_total history.base offset with kept | evicted
  · rw [Nat.max_eq_left kept, retains.sliceFrom kept]
  · rw [Nat.max_eq_right evicted, History.sliceFrom, Nat.sub_eq_zero_of_le evicted,
      skipBytes_flatten, List.drop_zero, retains.chunks]

/-- The cap of a history and the chunks that were pushed to it. -/
structure Pushed (history : History) (cap : Nat) (chunks : List Bytes) : Prop where
  cap : history.cap = max cap 1
  retains : history.Retains chunks.flatten
  trimmed : history.Trimmed (chunks.filter (!·.isEmpty))

theorem pushed_new (cap : Nat) : (new cap).Pushed cap [] := ⟨rfl, retains_new cap, trimmed_new cap⟩

/-- A push gives what comes of one chunk more. -/
theorem Pushed.push {history : History} {cap : Nat} {chunks : List Bytes}
    (pushed : history.Pushed cap chunks) (chunk : Bytes) :
    (history.push chunk).Pushed cap (chunks ++ [chunk]) where
  cap := by rw [push_cap, pushed.cap]
  retains := by
    rw [List.flatten_append, List.flatten_singleton]
    exact pushed.retains.push chunk
  trimmed := by
    rw [List.filter_append]
    cases empty : chunk.isEmpty with
    | true =>
      -- An empty chunk is not stored.
      have same : history.push chunk = history := if_pos empty
      rw [same]
      simpa [empty] using pushed.trimmed
    | false =>
      have stored : [chunk].filter (!·.isEmpty) = [chunk] := by simp [empty]
      rw [stored]
      exact pushed.trimmed.push empty

/-- What was pushed can be read off the fields. -/
theorem Pushed.window {history : History} {cap : Nat} {chunks : List Bytes}
    (pushed : history.Pushed cap chunks) : history.fields.Window cap chunks where
  total := pushed.retains.total
  size := history.sized
  small := by
    show history.size ≤ max cap 1
    rw [history.sized, ← pushed.cap]
    exact pushed.trimmed.fits
  retained := ⟨history.base, history.fields_base, history.base_le_total, pushed.retains.chunks,
    fun offset => ⟨_, history.fields_sliceFrom offset, pushed.retains.sliceFrom_max offset⟩⟩
  evicted := by
    rw [← pushed.cap]
    exact pushed.trimmed.least

end History

/-- Whatever is pushed, nothing underflows, and the fields stay a window on the stream. -/
theorem historyFields_window (cap : Nat) (chunks : List Bytes) :
    ∃ fields, chunks.foldlM HistoryFields.push (HistoryFields.new cap) = some fields ∧
      fields.Window cap chunks := by
  -- The induction takes off the last push, so that the first chunks are the stream so far.
  suffices kept : ∃ history : History,
      chunks.foldlM HistoryFields.push (HistoryFields.new cap) = some history.fields ∧
        history.Pushed cap chunks by
    obtain ⟨history, ran, pushed⟩ := kept
    exact ⟨history.fields, ran, pushed.window⟩
  induction chunks using List.reverseRecOn with
  | nil => exact ⟨History.new cap, rfl, History.pushed_new cap⟩
  | append_singleton chunks chunk ih =>
    obtain ⟨history, ran, pushed⟩ := ih
    refine ⟨history.push chunk, ?_, pushed.push chunk⟩
    rw [List.foldlM_append, ran]
    show [chunk].foldlM HistoryFields.push history.fields = _
    rw [List.foldlM_cons, History.fields_push]
    rfl

/-- A chunk longer than the cap evicts everything, itself included. -/
example : [[1, 2], [3, 4, 5, 6, 7], [], [8]].foldlM HistoryFields.push (HistoryFields.new 4) =
    some { chunks := [[8]], size := 1, cap := 4, totalOut := 8 } := by decide

end Gritty
