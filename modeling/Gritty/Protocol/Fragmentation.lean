import Gritty.Protocol.RoundTrip

/-! A stream of frames cut into chunks anywhere, and decoded as the chunks arrive. -/

namespace Gritty

open Exec Decode

/-- The bytes a list of frames is written as. -/
def stream (frames : List Frame) : Bytes := frames.flatMap encodeFrame

theorem stream_append (front back : List Frame) :
    stream (front ++ back) = stream front ++ stream back := List.flatMap_append

/-- Run the decode loop on a buffer until it waits or fails. -/
def drainAll (src : Bytes) : Option Drained := drain (src.length / headerLen + 1) src

/-- Append each chunk to what the decode loop left, and run the loop again; a fault ends the stream. -/
def feed : Bytes → List Bytes → Option Drained
  | buffer, [] => some { frames := [], fault := none, rest := buffer }
  | buffer, chunk :: chunks =>
    match drainAll (buffer ++ chunk) with
    | some { frames, fault := none, rest } =>
      (feed rest chunks).map fun later => { later with frames := frames ++ later.frames }
    | stopped => stopped

/-- A buffer that holds the beginning of the next frame of a list, or nothing at all. -/
def Incomplete (buffer : Bytes) (next : List Frame) : Prop :=
  buffer = [] ∨ ∃ frame later, next = frame :: later ∧ buffer <+: encodeFrame frame ∧
    buffer.length < (encodeFrame frame).length

/-- A frame is written as a header and its payload. -/
theorem encodeFrame_length (frame : Frame) :
    (encodeFrame frame).length = headerLen + frame.payload.length := by
  rw [encodeFrame_eq, List.length_append, putHeader_length]

/-- The header at the front of a buffer announces the payload length of the frame begun there. -/
theorem announcedLen_of_prefix {buffer : Bytes} {frame : Frame}
    (begun : buffer <+: encodeFrame frame) (whole : headerLen ≤ buffer.length)
    (small : frame.payload.length < 2 ^ 32) : announcedLen buffer = frame.payload.length := by
  obtain ⟨missing, split⟩ := begun
  -- The four length bytes lie inside the part that has arrived.
  have same : announcedLen (buffer ++ missing) = announcedLen buffer := by
    unfold headerLen at whole
    have front : 1 ≤ buffer.length := by omega
    have field : 4 ≤ (buffer.drop 1).length := by
      rw [List.length_drop]
      omega
    rw [announcedLen, announcedLen, List.drop_append_of_le_length front,
      List.take_append_of_le_length field]
  rw [← same, split, encodeFrame_eq, announcedLen_putHeader, UInt32.toNat_ofNat_of_lt' small]

/-- A buffer without a whole frame is left unchanged, and yields nothing. -/
theorem decode_of_incomplete {buffer : Bytes} {next : List Frame}
    (inRange : ∀ frame ∈ next, frame.InRange) (begun : Incomplete buffer next) :
    FrameCodec.decode buffer = (.ok none, buffer) := by
  have size := maxFrameSize_lt
  rcases begun with rfl | ⟨frame, later, rfl, begun, short⟩
  · exact decode_short (by decide)
  · have bounded := (inRange frame (List.mem_cons_self ..)).size
    rw [encodeFrame_length] at short
    by_cases whole : headerLen ≤ buffer.length
    · have announced := announcedLen_of_prefix begun whole (by omega)
      exact decode_incomplete whole (announced ▸ bounded) (announced ▸ short)
    · exact decode_short (Nat.lt_of_not_le whole)

/-- One run of the decode loop over the front of a stream of frames. -/
theorem drain_stream {fuel : Nat} {buffer future : Bytes} {frames : List Frame}
    (inRange : ∀ frame ∈ frames, frame.InRange) (enough : buffer.length / headerLen < fuel)
    (arrived : buffer ++ future = stream frames) :
    ∃ done next rest, drain fuel buffer = some { frames := done, fault := none, rest } ∧
      frames = done ++ next ∧ buffer = stream done ++ rest ∧ Incomplete rest next := by
  induction fuel generalizing buffer frames with
  | zero => exact absurd enough (Nat.not_lt_zero _)
  | succ fuel ih =>
    -- Either the next frame has arrived in full, or the loop ends here.
    have waits : Incomplete buffer frames →
        ∃ done next rest, drain (fuel + 1) buffer = some { frames := done, fault := none, rest } ∧
          frames = done ++ next ∧ buffer = stream done ++ rest ∧ Incomplete rest next := by
      intro begun
      refine ⟨[], frames, buffer, ?_, rfl, rfl, begun⟩
      rw [drain, decode_of_incomplete inRange begun]
    cases frames with
    | nil =>
      have none_ : buffer = [] := (List.append_eq_nil_iff.mp arrived).1
      exact waits (Or.inl none_)
    | cons frame frames =>
      have first := inRange frame (List.mem_cons_self ..)
      have others : ∀ other ∈ frames, other.InRange :=
        fun other inside => inRange other (List.mem_cons_of_mem _ inside)
      have split : buffer ++ future = encodeFrame frame ++ stream frames := arrived
      by_cases whole : (encodeFrame frame).length ≤ buffer.length
      · obtain ⟨rest, rfl⟩ : encodeFrame frame <+: buffer :=
          List.prefix_of_prefix_length_le ⟨_, split.symm⟩ (List.prefix_append ..) whole
        rw [List.append_assoc, List.append_cancel_left_eq] at split
        have paid : rest.length / headerLen < fuel := by
          rw [List.length_append, encodeFrame_length] at enough
          unfold headerLen at enough ⊢
          omega
        obtain ⟨done, next, left, ran, listed, held, begun⟩ := ih others paid split
        refine ⟨frame :: done, next, left, ?_, by rw [listed]; rfl, ?_, begun⟩
        · rw [drain, decode_encode first]
          simp only [ran, Option.map_some]
        · rw [held, ← List.append_assoc]
          rfl
      · have short := Nat.lt_of_not_le whole
        have begun : buffer <+: encodeFrame frame :=
          List.prefix_of_prefix_length_le ⟨_, split⟩ (List.prefix_append ..) (Nat.le_of_lt short)
        exact waits (Or.inr ⟨frame, frames, rfl, begun, short⟩)

/-- Chunk by chunk, the decode loop returns exactly the frames that have arrived in full. -/
theorem feed_stream {chunks : List Bytes} {buffer future : Bytes} {frames : List Frame}
    (inRange : ∀ frame ∈ frames, frame.InRange) (begun : Incomplete buffer frames)
    (arrived : buffer ++ chunks.flatten ++ future = stream frames) :
    ∃ done next rest, feed buffer chunks = some { frames := done, fault := none, rest } ∧
      frames = done ++ next ∧ buffer ++ chunks.flatten = stream done ++ rest ∧
      Incomplete rest next := by
  induction chunks generalizing buffer frames with
  | nil => exact ⟨[], frames, buffer, rfl, rfl, by simp [stream], begun⟩
  | cons chunk chunks ih =>
    rw [List.flatten_cons, ← List.append_assoc, List.append_assoc (buffer ++ chunk)] at arrived
    obtain ⟨done, next, rest, ran, rfl, held, begun⟩ :=
      drain_stream inRange (Nat.lt_succ_self _) arrived
    -- What the loop left is again the beginning of the remaining frames.
    have later : rest ++ chunks.flatten ++ future = stream next := by
      rw [held, stream_append, List.append_assoc] at arrived
      rw [List.append_assoc]
      exact List.append_cancel_left arrived
    obtain ⟨done', next', rest', ran', rfl, held', begun'⟩ :=
      ih (fun frame inside => inRange frame (List.mem_append_right _ inside)) begun later
    refine ⟨done ++ done', next', rest', ?_, (List.append_assoc ..).symm, ?_, begun'⟩
    · rw [feed, drainAll, ran]
      simp only [ran', Option.map_some]
    · rw [List.flatten_cons, ← List.append_assoc, held, List.append_assoc, held', stream_append,
        List.append_assoc]

/--
A stream of frames the wire can carry survives any fragmentation.

However the bytes that have arrived were cut, the decoder has returned the frames that arrived in full, without an error.
It waits only for the rest of the next frame, and then leaves the buffer unchanged.
When the whole stream has arrived it has returned every frame, and the buffer is empty.
-/
theorem feed_fragmented (frames : List Frame) (inRange : ∀ frame ∈ frames, frame.InRange)
    (chunks : List Bytes) (arrived : chunks.flatten <+: stream frames) :
    (∃ done next rest, feed [] chunks = some { frames := done, fault := none, rest } ∧
      frames = done ++ next ∧ chunks.flatten = stream done ++ rest ∧ Incomplete rest next ∧
      FrameCodec.decode rest = (.ok none, rest)) ∧
    (chunks.flatten = stream frames →
      feed [] chunks = some { frames, fault := none, rest := [] }) := by
  obtain ⟨future, split⟩ := arrived
  obtain ⟨done, next, rest, ran, rfl, held, begun⟩ :=
    feed_stream inRange (Or.inl rfl) (by simpa using split : [] ++ chunks.flatten ++ future = _)
  have quiet := decode_of_incomplete
    (fun frame inside => inRange frame (List.mem_append_right _ inside)) begun
  refine ⟨⟨done, next, rest, ran, rfl, held, begun, quiet⟩, fun complete => ?_⟩
  -- Nothing of the stream is missing, so no frame can have been begun and not finished.
  rw [List.nil_append, complete, stream_append] at held
  have tail : stream next = rest := List.append_cancel_left held
  rcases begun with rfl | ⟨frame, later, rfl, _, short⟩
  · cases next with
    | nil => rw [ran, List.append_nil]
    | cons frame later =>
      have size := congrArg List.length tail
      simp [stream, encodeFrame_length, headerLen] at size
  · have size := congrArg List.length tail
    rw [stream, List.flatMap_cons, List.length_append] at size
    omega

/-- A ping, a resume offset and an error of an unassigned code, cut inside two of the headers. -/
theorem feed_fragmented_three :
    feed [] [[0x14, 0], [0, 0, 0, 0x1A, 0, 0, 0, 8, 0, 0, 0, 0, 0, 0, 1], [],
      [2, 0x63, 0, 0], [0, 3, 0, 9, 33]] =
      some { frames := [.ping, .resume 258, .error (.unknown 9) "!"], fault := none, rest := [] } :=
  (feed_fragmented [.ping, .resume 258, .error (.unknown 9) "!"]
    (by
      simp only [List.forall_mem_cons, List.not_mem_nil, false_implies, implies_true, and_true]
      refine ⟨⟨by simp [Frame.prefixedStrings], by decide, by simp⟩,
        ⟨by simp [Frame.prefixedStrings], by decide, by simp⟩,
        ⟨by simp [Frame.prefixedStrings], by decide, ?_⟩⟩
      rintro number message same
      obtain rfl : (9 : UInt16) = number := by simpa using (Frame.error.inj same).1
      exact Or.inr (by decide))
    _ ⟨[], by decide⟩).2 (by decide)

end Gritty
