import Gritty.Protocol.Frame

/-! The retained tail of a session's output, addressed by offsets into the whole stream. -/

namespace Gritty

/-- The trailing chunks of a stream, at most `cap` bytes of them, and the length of the whole stream. -/
structure History where
  chunks : List Bytes
  size : Nat
  cap : Nat
  totalOut : Nat
  /-- The size is that of the chunks. -/
  sized : size = chunks.flatten.length
  /-- No more is retained than was pushed. -/
  within : size ≤ totalOut
  deriving DecidableEq

namespace History

/-- Drop the oldest chunks until the rest fits. -/
def evict (cap : Nat) : List Bytes → List Bytes
  | [] => []
  | old :: later =>
    if cap < (old :: later).flatten.length then evict cap later else old :: later

/-- Eviction only shortens. -/
theorem evict_length (cap : Nat) (chunks : List Bytes) :
    (evict cap chunks).flatten.length ≤ chunks.flatten.length := by
  induction chunks with
  | nil => exact Nat.le_refl 0
  | cons old later ih =>
    rw [evict]
    split
    · rw [List.flatten_cons, List.length_append]
      omega
    · exact Nat.le_refl _

/-- An empty history. -/
def new (cap : Nat) : History where
  chunks := []
  size := 0
  cap := max cap 1
  totalOut := 0
  sized := rfl
  within := Nat.le_refl 0

/-- Append a chunk of output, evicting the oldest chunks past the cap. -/
def push (history : History) (chunk : Bytes) : History :=
  if chunk.isEmpty then history
  else
    let chunks := evict history.cap (history.chunks ++ [chunk])
    { history with
      chunks
      size := chunks.flatten.length
      totalOut := history.totalOut + chunk.length
      sized := rfl
      within := by
        -- Before the eviction the retained bytes were the old ones and the chunk.
        have shorter := evict_length history.cap (history.chunks ++ [chunk])
        rw [List.flatten_append, List.length_append, ← history.sized, List.flatten_singleton]
          at shorter
        exact Nat.le_trans shorter (Nat.add_le_add_right history.within chunk.length) }

/-- The length of the whole stream. -/
def total (history : History) : Nat := history.totalOut

/-- The offset of the oldest byte retained. -/
def base (history : History) : Nat := history.totalOut - history.size

/-- The chunks that are left after a number of bytes. -/
def skipBytes : Nat → List Bytes → List Bytes
  | _, [] => []
  | skip, chunk :: later =>
    if chunk.length ≤ skip then skipBytes (skip - chunk.length) later
    else chunk.drop skip :: skipBytes 0 later

/-- The retained chunks from an offset on, or from the oldest byte if that is later. -/
def sliceFrom (history : History) (offset : Nat) : List Bytes :=
  skipBytes (offset - history.base) history.chunks

/-- The history is the tail of a stream. -/
structure Retains (history : History) (stream : Bytes) : Prop where
  total : history.total = stream.length
  chunks : history.chunks.flatten = stream.drop history.base

theorem base_le_total (history : History) : history.base ≤ history.total :=
  Nat.sub_le _ _

theorem total_push (history : History) (chunk : Bytes) :
    (history.push chunk).total = history.total + chunk.length := by
  unfold push
  split
  · next empty => rw [List.isEmpty_iff.mp empty, List.length_nil, Nat.add_zero]
  · rfl

/-- What eviction keeps is a tail of what there was. -/
theorem evict_suffix (cap : Nat) (chunks : List Bytes) :
    ∃ dropped, chunks.flatten = dropped ++ (evict cap chunks).flatten := by
  induction chunks with
  | nil => exact ⟨[], rfl⟩
  | cons old later ih =>
    rw [evict]
    split
    · obtain ⟨dropped, split⟩ := ih
      refine ⟨old ++ dropped, ?_⟩
      rw [List.flatten_cons, split, List.append_assoc]
    · exact ⟨[], rfl⟩

theorem retains_new (cap : Nat) : (new cap).Retains [] := ⟨rfl, rfl⟩

/-- Whatever is pushed or evicted, the history stays the tail of the stream. -/
theorem Retains.push {history : History} {stream : Bytes} (retains : history.Retains stream)
    (chunk : Bytes) : (history.push chunk).Retains (stream ++ chunk) := by
  refine ⟨by rw [total_push, retains.total, List.length_append], ?_⟩
  unfold History.push
  split
  · next empty =>
    rw [List.isEmpty_iff.mp empty, List.append_nil]
    exact retains.chunks
  · -- The retained bytes are a suffix of the stream, and their number says which.
    obtain ⟨dropped, split⟩ := evict_suffix history.cap (history.chunks ++ [chunk])
    have before : stream = stream.take history.base ++ history.chunks.flatten := by
      rw [retains.chunks, List.take_append_drop]
    have whole : stream ++ chunk = (stream.take history.base ++ dropped) ++
        (evict history.cap (history.chunks ++ [chunk])).flatten := by
      rw [List.append_assoc, ← split, List.flatten_append, List.flatten_singleton,
        ← List.append_assoc, ← before]
    have length := congrArg List.length whole
    rw [List.length_append, List.length_append, ← retains.total] at length
    simp only [base]
    rw [show history.totalOut + chunk.length -
        (evict history.cap (history.chunks ++ [chunk])).flatten.length =
        (stream.take history.base ++ dropped).length by
          unfold History.total at length
          omega]
    rw [whole, List.drop_left]

/-- Skipping bytes of the chunks is skipping them in the bytes the chunks make up. -/
theorem skipBytes_flatten (skip : Nat) (chunks : List Bytes) :
    (skipBytes skip chunks).flatten = chunks.flatten.drop skip := by
  induction chunks generalizing skip with
  | nil => simp [skipBytes]
  | cons chunk later ih =>
    rw [skipBytes]
    split
    · next whole =>
      rw [ih, List.flatten_cons, List.drop_append, List.drop_eq_nil_of_le whole, List.nil_append]
    · next part =>
      rw [List.flatten_cons, List.flatten_cons, ih, List.drop_zero, List.drop_append,
        Nat.sub_eq_zero_of_le (by omega), List.drop_zero]

/-- From a retained offset on, exactly the rest of the stream is replayed. -/
theorem Retains.sliceFrom {history : History} {stream : Bytes} (retains : history.Retains stream)
    {offset : Nat} (retained : history.base ≤ offset) :
    (history.sliceFrom offset).flatten = stream.drop offset := by
  rw [History.sliceFrom, skipBytes_flatten, retains.chunks, List.drop_drop]
  congr 1
  omega

end History

end Gritty
