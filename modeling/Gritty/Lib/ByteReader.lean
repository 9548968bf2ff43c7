import Gritty.Lib.BigEndian

/-! Readers that take bytes off the front of a stream, and rules for composing them. -/

namespace Gritty

/-- The two ways reading stops: the stream ends too soon, or what was read is refused. -/
inductive ReadError (ε : Type) where
  | unexpectedEof
  | refused (reason : ε)
  deriving DecidableEq, Repr

/-- A reader takes bytes off the front of a stream and leaves the rest. -/
abbrev ByteReader (ε α : Type) := EStateM (ReadError ε) Bytes α

/-- A way to cut a number of bytes into chunks: how many come next when so many remain. -/
structure Chunking where
  next : Nat → Nat
  positive : ∀ remaining, remaining ≠ 0 → 0 < next remaining
  within : ∀ remaining, next remaining ≤ remaining

/-- Chunks that fill a buffer of a given size. -/
def Chunking.full (limit : Nat) [NeZero limit] : Chunking where
  next := fun remaining => min remaining limit
  positive := by
    intro remaining more
    have room := NeZero.pos limit
    omega
  within := fun remaining => Nat.min_le_left remaining limit

/-- A chunk leaves less to go. -/
theorem Chunking.sub_lt (chunking : Chunking) {remaining : Nat} (more : remaining ≠ 0) :
    remaining - chunking.next remaining < remaining := by
  have positive := chunking.positive remaining more
  omega

namespace ByteReader

variable {ε α β σ : Type}

/-- Stop because of what was read. -/
def refuse (reason : ε) : ByteReader ε α := throw (.refused reason)

/-- Take an exact number of bytes. A stream that is too short is read to its end. -/
def readExact (count : Nat) : ByteReader ε Bytes := fun stream =>
  if count ≤ stream.length then .ok (stream.take count) (stream.drop count)
  else .error .unexpectedEof []

/-- What a reader makes of a stream, if it can read it. -/
def valueOf (reader : ByteReader ε α) (stream : Bytes) : Option α :=
  match reader stream with
  | .ok value _ => some value
  | .error _ _ => none

/-- Read a given number of elements with one reader. -/
def readN (reader : ByteReader ε α) : Nat → ByteReader ε (List α)
  | 0 => return []
  | count + 1 => do
    let first ← reader
    let rest ← readN reader count
    return first :: rest

/-- Take an exact number of bytes, one chunk at a time. -/
def readInChunks (chunking : Chunking) (remaining : Nat) : ByteReader ε Bytes :=
  if remaining = 0 then return []
  else do
    let chunk ← readExact (chunking.next remaining)
    let later ← readInChunks chunking (remaining - chunking.next remaining)
    return chunk ++ later
termination_by remaining
decreasing_by exact chunking.sub_lt ‹_›

/-- A reader that takes at least one byte whenever it returns an element. -/
def Consumes (reader : ByteReader ε (Option α)) : Prop :=
  ∀ stream value left, reader stream = .ok (some value) left → left.length < stream.length

/-- Carry a state from element to element until the reader finds none. -/
def untilNone (step : σ → ByteReader ε (Option σ)) (consumes : ∀ state, Consumes (step state))
    (state : σ) : ByteReader ε σ := fun stream =>
  match _ : step state stream with
  | .error reason left => .error reason left
  | .ok none left => .ok state left
  | .ok (some next) left => untilNone step consumes next left
termination_by stream => stream.length
decreasing_by exact consumes state _ _ _ ‹_›

/-! ### What a sequence of readers does -/

/-- A reader that returns says what it read. -/
theorem valueOf_of_ok {reader : ByteReader ε α} {stream left : Bytes} {value : α}
    (returned : reader stream = .ok value left) : reader.valueOf stream = some value := by
  unfold valueOf
  rw [returned]

/-- A sequence returns exactly when its parts return one after the other. -/
theorem bind_eq_ok {reader : ByteReader ε α} {next : α → ByteReader ε β} {stream left : Bytes}
    {value : β} :
    (reader >>= next) stream = .ok value left ↔
      ∃ middle between, reader stream = .ok middle between ∧
        next middle between = .ok value left := by
  show EStateM.bind reader next stream = .ok value left ↔ _
  unfold EStateM.bind
  cases reader stream with
  | ok middle between => simp
  | error reason between => simp

/-- A part that returns hands over to what follows it. -/
theorem bind_of_ok {reader : ByteReader ε α} {next : α → ByteReader ε β} {stream left : Bytes}
    {value : α} (returned : reader stream = .ok value left) :
    (reader >>= next) stream = next value left := by
  show EStateM.bind reader next stream = _
  unfold EStateM.bind
  rw [returned]

/-- A part that stops stops the sequence. -/
theorem bind_of_error {reader : ByteReader ε α} {next : α → ByteReader ε β} {stream left : Bytes}
    {reason : ReadError ε} (stopped : reader stream = .error reason left) :
    (reader >>= next) stream = .error reason left := by
  show EStateM.bind reader next stream = _
  unfold EStateM.bind
  rw [stopped]

theorem refuse_eq_error (reason : ε) (stream : Bytes) :
    (refuse reason : ByteReader ε α) stream = .error (.refused reason) stream := rfl

theorem pure_eq_ok {stream left : Bytes} {value result : α} :
    (pure value : ByteReader ε α) stream = .ok result left ↔ value = result ∧ stream = left := by
  show EStateM.Result.ok value stream = .ok result left ↔ _
  simp

theorem refuse_ne_ok {reason : ε} {stream left : Bytes} {value : α} :
    (refuse reason : ByteReader ε α) stream ≠ .ok value left := by
  show EStateM.Result.error _ _ ≠ _
  simp

/-- An exact read returns exactly when the stream begins with bytes of that number. -/
theorem readExact_eq_ok {count : Nat} {stream left bytes : Bytes} :
    (readExact count : ByteReader ε Bytes) stream = .ok bytes left ↔
      stream = bytes ++ left ∧ bytes.length = count := by
  unfold readExact
  constructor
  · intro read
    split at read
    · next enough =>
      cases read
      refine ⟨(List.take_append_drop count stream).symm, ?_⟩
      rw [List.length_take]
      omega
    · cases read
  · rintro ⟨rfl, rfl⟩
    rw [if_pos (by rw [List.length_append]; omega), List.take_left, List.drop_left]

/-- Every element that was read satisfies what the reader guarantees of one. -/
theorem readN_eq_ok {reader : ByteReader ε α} {Good : α → Prop}
    (good : ∀ stream value left, reader stream = .ok value left → Good value)
    {count : Nat} {stream left : Bytes} {values : List α}
    (read : readN reader count stream = .ok values left) :
    values.length = count ∧ ∀ value ∈ values, Good value := by
  induction count generalizing stream left values with
  | zero =>
    obtain ⟨rfl, -⟩ := pure_eq_ok.mp read
    simp
  | succ count ih =>
    rw [readN, bind_eq_ok] at read
    obtain ⟨first, between, readFirst, read⟩ := read
    obtain ⟨rest, after, readRest, read⟩ := bind_eq_ok.mp read
    obtain ⟨rfl, -⟩ := pure_eq_ok.mp read
    obtain ⟨counted, others⟩ := ih readRest
    refine ⟨by rw [List.length_cons, counted], ?_⟩
    -- The first element by the reader's own guarantee, the others by induction.
    intro value among
    rcases List.mem_cons.mp among with rfl | later
    · exact good _ _ _ readFirst
    · exact others value later

/-! ### What is left of the stream -/

/-- A reader that puts nothing back. -/
def NeverGrows (reader : ByteReader ε α) : Prop :=
  ∀ stream value left, reader stream = .ok value left → left.length ≤ stream.length

theorem NeverGrows.pure (value : α) : NeverGrows (pure value : ByteReader ε α) := by
  intro stream result left returned
  obtain ⟨-, rfl⟩ := pure_eq_ok.mp returned
  exact Nat.le_refl _

theorem NeverGrows.refuse (reason : ε) : NeverGrows (refuse reason : ByteReader ε α) :=
  fun _ _ _ returned => absurd returned refuse_ne_ok

/-- Two readers of which neither makes the stream longer do not do so together. -/
theorem NeverGrows.bind {reader : ByteReader ε α} {next : α → ByteReader ε β}
    (first : NeverGrows reader) (second : ∀ middle, NeverGrows (next middle)) :
    NeverGrows (reader >>= next) := by
  intro stream value left returned
  obtain ⟨middle, between, readFirst, readSecond⟩ := bind_eq_ok.mp returned
  exact Nat.le_trans (second middle _ _ _ readSecond) (first _ _ _ readFirst)

theorem NeverGrows.readExact (count : Nat) :
    NeverGrows (readExact count : ByteReader ε Bytes) := by
  intro stream bytes left returned
  obtain ⟨rfl, -⟩ := readExact_eq_ok.mp returned
  rw [List.length_append]
  omega

/-- Reading in chunks takes from the stream. -/
theorem NeverGrows.readInChunks (chunking : Chunking) (remaining : Nat) :
    NeverGrows (readInChunks chunking remaining : ByteReader ε Bytes) := by
  induction remaining using Nat.strong_induction_on with
  | _ remaining ih =>
    unfold ByteReader.readInChunks
    split
    · exact NeverGrows.pure []
    · next more =>
      apply (NeverGrows.readExact _).bind
      intro chunk
      apply (ih _ (chunking.sub_lt more)).bind
      intro later
      exact NeverGrows.pure _

/-- A reader that takes at least one byte. -/
def Shrinks (reader : ByteReader ε α) : Prop :=
  ∀ stream value left, reader stream = .ok value left → left.length < stream.length

theorem Shrinks.consumes {reader : ByteReader ε (Option α)} (shrinks : Shrinks reader) :
    Consumes reader := fun stream value left returned => shrinks stream (some value) left returned

/-- What was taken first stays taken, whatever is read after it. -/
theorem Shrinks.bind {reader : ByteReader ε α} {next : α → ByteReader ε β}
    (first : Shrinks reader) (second : ∀ middle, NeverGrows (next middle)) :
    Shrinks (reader >>= next) := by
  intro stream value left returned
  obtain ⟨middle, between, readFirst, readSecond⟩ := bind_eq_ok.mp returned
  exact Nat.lt_of_le_of_lt (second middle _ _ _ readSecond) (first _ _ _ readFirst)

theorem Shrinks.readExact {count : Nat} (positive : 0 < count) :
    Shrinks (readExact count : ByteReader ε Bytes) := by
  intro stream bytes left returned
  obtain ⟨rfl, sized⟩ := readExact_eq_ok.mp returned
  rw [List.length_append]
  omega

/-! ### Reading back what was written -/

/-- A reader returns a value from what was written for it, whatever follows on the stream. -/
def Reads (reader : ByteReader ε α) (written : Bytes) (value : α) : Prop :=
  ∀ rest, reader (written ++ rest) = .ok value rest

theorem Reads.pure (value : α) : Reads (pure value : ByteReader ε α) [] value := fun _ => rfl

/-- Parts written one after the other are read one after the other. -/
theorem Reads.bind {reader : ByteReader ε α} {next : α → ByteReader ε β} {front back : Bytes}
    {middle : α} {value : β} (first : Reads reader front middle)
    (second : Reads (next middle) back value) : Reads (reader >>= next) (front ++ back) value := by
  intro rest
  rw [List.append_assoc, bind_eq_ok]
  exact ⟨middle, back ++ rest, first _, second _⟩

/-- A last step that takes nothing changes only the value. -/
theorem Reads.bind_pure {reader : ByteReader ε α} {next : α → ByteReader ε β} {written : Bytes}
    {middle : α} {value : β} (first : Reads reader written middle)
    (second : Reads (next middle) [] value) : Reads (reader >>= next) written value := by
  have both := first.bind second
  rwa [List.append_nil] at both

theorem Reads.readExact {count : Nat} {bytes : Bytes} (sized : bytes.length = count) :
    Reads (readExact count : ByteReader ε Bytes) bytes bytes := by
  intro rest
  exact readExact_eq_ok.mpr ⟨rfl, sized⟩

/-- A field of fixed width that is decoded at once. -/
theorem Reads.field {width : Nat} {decode : Bytes → α} {bytes : Bytes} {value : α}
    (sized : bytes.length = width) (decoded : decode bytes = value) :
    Reads (do return decode (← ByteReader.readExact width) : ByteReader ε α) bytes value := by
  apply (Reads.readExact sized).bind_pure
  rw [← decoded]
  exact Reads.pure _

/-- Reading in chunks gives what one read would give. -/
theorem Reads.readInChunks {chunking : Chunking} {remaining : Nat} {bytes : Bytes}
    (sized : bytes.length = remaining) :
    Reads (readInChunks chunking remaining : ByteReader ε Bytes) bytes bytes := by
  induction remaining using Nat.strong_induction_on generalizing bytes with
  | _ remaining ih =>
    unfold ByteReader.readInChunks
    by_cases done : remaining = 0
    · subst done
      rw [if_pos rfl, List.eq_nil_of_length_eq_zero sized]
      exact Reads.pure []
    · rw [if_neg done]
      have within := chunking.within remaining
      -- The first chunk is the front of the bytes, and the loop goes on with the others.
      have front : (bytes.take (chunking.next remaining)).length = chunking.next remaining := by
        rw [List.length_take]
        omega
      have back : (bytes.drop (chunking.next remaining)).length =
          remaining - chunking.next remaining := by
        rw [List.length_drop]
        omega
      have both : Reads (ByteReader.readExact (chunking.next remaining) >>= fun chunk =>
            ByteReader.readInChunks chunking (remaining - chunking.next remaining) >>=
              fun later => (Pure.pure (chunk ++ later) : ByteReader ε Bytes))
          (bytes.take (chunking.next remaining) ++ bytes.drop (chunking.next remaining))
          (bytes.take (chunking.next remaining) ++ bytes.drop (chunking.next remaining)) := by
        apply (Reads.readExact front).bind
        apply (ih _ (chunking.sub_lt done) back).bind_pure
        exact Reads.pure _
      rwa [List.take_append_drop] at both

/-- Elements written one after the other are read back in their order. -/
theorem Reads.readN {reader : ByteReader ε α} {write : α → Bytes} {values : List α}
    (each : ∀ value ∈ values, Reads reader (write value) value) :
    Reads (readN reader values.length) (values.flatMap write) values := by
  induction values with
  | nil => exact Reads.pure []
  | cons first rest ih =>
    rw [List.flatMap_cons, List.length_cons]
    apply (each first List.mem_cons_self).bind
    apply (ih fun value later => each value (List.mem_cons_of_mem first later)).bind_pure
    exact Reads.pure _

/-- A sequence that ends in a sentinel carries the state over all of it and stops there. -/
theorem Reads.untilNone {step : σ → ByteReader ε (Option σ)}
    {consumes : ∀ state, Consumes (step state)} {write : α → Bytes} {advance : σ → α → σ}
    {sentinel : Bytes} {values : List α}
    (each : ∀ value ∈ values, ∀ state,
      Reads (step state) (write value) (some (advance state value)))
    (last : ∀ state, Reads (step state) sentinel none) (state : σ) :
    Reads (untilNone step consumes state) (values.flatMap write ++ sentinel)
      (values.foldl advance state) := by
  induction values generalizing state with
  | nil =>
    intro rest
    have ended : step state (sentinel ++ rest) = .ok none rest := last state rest
    rw [List.flatMap_nil, List.nil_append]
    unfold ByteReader.untilNone
    split
    · next found => rw [ended] at found; cases found
    · next found => rw [ended] at found; cases found; rfl
    · next found => rw [ended] at found; cases found
  | cons first others ih =>
    intro rest
    have found : step state (write first ++ (others.flatMap write ++ sentinel ++ rest)) =
        .ok (some (advance state first)) (others.flatMap write ++ sentinel ++ rest) :=
      each first List.mem_cons_self state _
    have later := ih (fun value among => each value (List.mem_cons_of_mem first among))
      (advance state first) rest
    rw [List.flatMap_cons, List.append_assoc, List.append_assoc,
      ← List.append_assoc (List.flatMap _ _)]
    unfold ByteReader.untilNone
    split
    · next other => rw [found] at other; cases other
    · next other => rw [found] at other; cases other
    · next other =>
      rw [found] at other
      cases other
      exact later

/-! ### Loops over a number of bytes -/

/-- Run a body on one chunk after the other until a number of bytes is used up. -/
def inChunks {ρ : Type} (chunking : Chunking) (body : Nat → EStateM ρ σ Unit)
    (remaining : Nat) : EStateM ρ σ Unit :=
  if remaining = 0 then return ()
  else do
    body (chunking.next remaining)
    inChunks chunking body (remaining - chunking.next remaining)
termination_by remaining
decreasing_by exact chunking.sub_lt ‹_›

/-- A loop in chunks keeps what each chunk of it keeps, down to nothing left. -/
theorem inChunks_run {ρ : Type} {chunking : Chunking} {body : Nat → EStateM ρ σ Unit}
    {Inv : Nat → σ → Prop}
    (chunk : ∀ remaining state, remaining ≠ 0 → Inv remaining state →
      ∃ next, body (chunking.next remaining) state = .ok () next ∧
        Inv (remaining - chunking.next remaining) next)
    (remaining : Nat) (state : σ) (inv : Inv remaining state) :
    ∃ last, inChunks chunking body remaining state = .ok () last ∧ Inv 0 last := by
  induction remaining using Nat.strong_induction_on generalizing state with
  | _ remaining ih =>
    unfold inChunks
    by_cases done : remaining = 0
    · subst done
      exact ⟨state, rfl, inv⟩
    · obtain ⟨next, ran, kept⟩ := chunk remaining state done inv
      obtain ⟨last, finished, ended⟩ := ih _ (chunking.sub_lt done) next kept
      refine ⟨last, ?_, ended⟩
      rw [if_neg done]
      show EStateM.bind _ _ state = _
      simp only [EStateM.bind, ran, finished]

end ByteReader

end Gritty
