import Gritty.Protocol.DecodeSafety

/-! One call of the decoder on any buffer, and the decode loop that calls it until it stops. -/

namespace Gritty

open Exec Decode

/-- The type byte at the front of a buffer. -/
def typeByte (src : Bytes) : UInt8 := src.headD 0

/-- The payload length a buffer's header announces. -/
def announcedLen (src : Bytes) : Nat := beValue ((src.drop 1).take 4)

/-- The refusal of an oversize announcement. -/
def oversizeError (payloadLen : Nat) : DecodeError :=
  .invalidData s!"frame payload too large: {payloadLen} bytes (max {maxFrameSize})"

/-- A whole header is read as its type byte and its announced length. -/
theorem header_eq {src : Bytes} (whole : headerLen ≤ src.length) :
    header src = .ok (typeByte src, announcedLen src) := by
  unfold headerLen at whole
  have first : (index src 0 : Decode UInt8) = .ok (typeByte src) := by
    cases src with
    | nil => exact absurd whole (by decide)
    | cons byte rest => rfl
  have length : (indexes src 1 4 : Decode Bytes) = .ok ((src.drop 1).take 4) :=
    indexes_of_le (by omega)
  simp only [header, first, length, ok_bind, pure_eq_ok, announcedLen]

/-- The announced length is a number of four bytes. -/
theorem announcedLen_lt (src : Bytes) : announcedLen src < 2 ^ 32 := by
  have digits := beValue_lt ((src.drop 1).take 4)
  have width : ((src.drop 1).take 4).length ≤ 4 := List.length_take_le ..
  calc announcedLen src < 256 ^ ((src.drop 1).take 4).length := digits
    _ ≤ 256 ^ 4 := Nat.pow_le_pow_right (by decide) width
    _ = 2 ^ 32 := by decide

/-- A buffer without a whole header is left to grow. -/
theorem decode_short {src : Bytes} (short : src.length < headerLen) :
    FrameCodec.decode src = (.ok none, src) := by
  simp only [FrameCodec.decode, if_pos short]

/-- An announcement over the limit is refused, and the buffer is left alone. -/
theorem decode_oversize {src : Bytes} (whole : headerLen ≤ src.length)
    (oversize : maxFrameSize < announcedLen src) :
    FrameCodec.decode src = (fail (oversizeError (announcedLen src)), src) := by
  simp only [FrameCodec.decode, if_neg (Nat.not_lt.mpr whole), header_eq whole, gt_iff_lt,
    if_pos oversize, oversizeError]

/-- A frame that has not arrived in full is left to grow. -/
theorem decode_incomplete {src : Bytes} (whole : headerLen ≤ src.length)
    (allowed : announcedLen src ≤ maxFrameSize)
    (missing : src.length < headerLen + announcedLen src) :
    FrameCodec.decode src = (.ok none, src) := by
  have small := maxFrameSize_lt
  have sum : (addUsize headerLen (announcedLen src) : Decode Nat) =
      .ok (headerLen + announcedLen src) := addUsize_of_lt (by unfold headerLen; omega)
  have gap : (subUsize (headerLen + announcedLen src) src.length : Decode Nat) =
      .ok (headerLen + announcedLen src - src.length) := subUsize_of_le (Nat.le_of_lt missing)
  simp only [FrameCodec.decode, if_neg (Nat.not_lt.mpr whole), header_eq whole, gt_iff_lt,
    if_neg (Nat.not_lt.mpr allowed), sum, if_pos missing, gap]

/-- A frame that has arrived is taken off the buffer whole and decoded. -/
theorem decode_complete {src : Bytes} (whole : headerLen ≤ src.length)
    (allowed : announcedLen src ≤ maxFrameSize)
    (arrived : headerLen + announcedLen src ≤ src.length) :
    FrameCodec.decode src =
      (some <$> decodeFrame (typeByte src)
          ((src.drop headerLen).take (announcedLen src)),
        src.drop (headerLen + announcedLen src)) := by
  have small := maxFrameSize_lt
  have sum : (addUsize headerLen (announcedLen src) : Decode Nat) =
      .ok (headerLen + announcedLen src) := addUsize_of_lt (by unfold headerLen; omega)
  have payload : announcedLen src ≤ (src.drop headerLen).length := by
    rw [List.length_drop]
    omega
  simp only [FrameCodec.decode, if_neg (Nat.not_lt.mpr whole), header_eq whole, gt_iff_lt,
    if_neg (Nat.not_lt.mpr allowed), sum, if_neg (Nat.not_lt.mpr arrived), consume, advance,
    if_pos whole, splitTo, ok_bind, if_pos payload, List.drop_drop]

/-- Decoding a payload within the limit never panics, and returns a frame the payload spells. -/
theorem decodeFrame_safe {payload : Bytes} (bounded : payload.length ≤ maxFrameSize)
    (frameType : UInt8) :
    Safe (decodeFrame frameType payload) fun frame =>
      FrameType.ofCode frameType = some frame.kind ∧ Layout payload frame := by
  unfold decodeFrame
  cases FrameType.ofCode frameType with
  | none => exact Safe.fail
  | some kind =>
    refine (decodePayload_safe bounded kind).mono ?_
    rintro frame ⟨rfl, layout⟩
    exact ⟨rfl, layout⟩

/-- Decoding a payload within the limit returns a frame or reports an error. -/
theorem decodeFrame_result {payload : Bytes} (bounded : payload.length ≤ maxFrameSize)
    (frameType : UInt8) :
    (∃ frame, decodeFrame frameType payload = .ok frame) ∨
      ∃ reason, decodeFrame frameType payload = fail reason := by
  have safe := decodeFrame_safe bounded frameType
  cases result : decodeFrame frameType payload with
  | ok frame => exact Or.inl ⟨frame, rfl⟩
  | error fault =>
    cases fault with
    | error reason => exact Or.inr ⟨reason, rfl⟩
    | panic => exact absurd result safe.not_panicked

/-- What one call of the decoder did: waited, refused an oversize frame, or consumed a frame. -/
inductive DecodeStep (src : Bytes) : Decode (Option Frame) × Bytes → Prop where
  | waited (missing : src.length < headerLen ∨ announcedLen src ≤ maxFrameSize ∧
      src.length < headerLen + announcedLen src) : DecodeStep src (.ok none, src)
  | refused (whole : headerLen ≤ src.length) (oversize : maxFrameSize < announcedLen src) :
      DecodeStep src (fail (oversizeError (announcedLen src)), src)
  | decoded (allowed : announcedLen src ≤ maxFrameSize)
      (arrived : headerLen + announcedLen src ≤ src.length) (frame : Frame) :
      DecodeStep src (.ok (some frame), src.drop (headerLen + announcedLen src))
  | rejected (allowed : announcedLen src ≤ maxFrameSize)
      (arrived : headerLen + announcedLen src ≤ src.length) (reason : DecodeError) :
      DecodeStep src (fail reason, src.drop (headerLen + announcedLen src))

/-- Every call of the decoder is one of the four steps; none of them is a panic. -/
theorem decode_step (src : Bytes) : DecodeStep src (FrameCodec.decode src) := by
  by_cases whole : headerLen ≤ src.length
  · by_cases allowed : announcedLen src ≤ maxFrameSize
    · by_cases arrived : headerLen + announcedLen src ≤ src.length
      · rw [decode_complete whole allowed arrived]
        have bounded : ((src.drop headerLen).take (announcedLen src)).length ≤ maxFrameSize :=
          Nat.le_trans (List.length_take_le ..) allowed
        rcases decodeFrame_result bounded (typeByte src) with ⟨frame, result⟩ | ⟨reason, result⟩
        · rw [result]
          exact .decoded allowed arrived frame
        · rw [result]
          exact .rejected allowed arrived reason
      · rw [decode_incomplete whole allowed (Nat.lt_of_not_le arrived)]
        exact .waited (Or.inr ⟨allowed, Nat.lt_of_not_le arrived⟩)
    · rw [decode_oversize whole (Nat.lt_of_not_le allowed)]
      exact .refused whole (Nat.lt_of_not_le allowed)
  · rw [decode_short (Nat.lt_of_not_le whole)]
    exact .waited (Or.inl (Nat.lt_of_not_le whole))

/-- The environment loop is entered at most once for every four bytes of payload, and once more. -/
theorem envEntry_iterations {payload : Bytes} (bounded : payload.length ≤ maxFrameSize)
    (count : Nat) :
    iterations count (envEntry payload) (4, []) ≤ payload.length / 4 + 1 := by
  by_cases enough : 4 ≤ payload.length
  · -- The budget is what is left of the payload; each finished turn takes two length fields.
    have bound := iterations_le (envEntry payload) (fun state => state.1 ≤ payload.length)
      (fun state => payload.length - state.1) (by decide : 0 < 4)
      (fun state next within turned => by
        have after := (envEntry_safe bounded state within).value turned
        exact ⟨after.1.1, by have := after.1; omega⟩)
      count (4, []) enough
    simp only at bound
    omega
  · -- A payload without a count is never looped over, and a first turn would already fail.
    cases count with
    | zero => simp [iterations]
    | succ count =>
      have need : (addUsize 4 2 : Decode Nat) = .ok 6 := addUsize_of_lt (by decide)
      have short : 6 > payload.length := by omega
      simp [iterations, envEntry, need, guardLen, short, Exec.fail, Bind.bind, Except.bind]

/-- The session loop is entered at most once for every four bytes of payload, and once more. -/
theorem sessionInfoEntry_iterations {payload : Bytes} (bounded : payload.length ≤ maxFrameSize)
    (count : Nat) :
    iterations count (sessionInfoEntry payload) (4, []) ≤ payload.length / 4 + 1 := by
  by_cases enough : 4 ≤ payload.length
  · have bound := iterations_le (sessionInfoEntry payload) (fun state => state.1 ≤ payload.length)
      (fun state => payload.length - state.1) (by decide : 0 < 4)
      (fun state next within turned => by
        have after := (sessionInfoEntry_safe bounded state within).value turned
        exact ⟨after.1.1, by have := after.1; omega⟩)
      count (4, []) enough
    simp only at bound
    omega
  · cases count with
    | zero => simp [iterations]
    | succ count =>
      have need : (addUsize 4 4 : Decode Nat) = .ok 8 := addUsize_of_lt (by decide)
      have short : 8 > payload.length := by omega
      simp [iterations, sessionInfoEntry, need, guardLen, short, Exec.fail, Bind.bind, Except.bind]

/-! ### The decode loop -/

/-- What the decode loop over a buffer ends with. -/
structure Drained where
  frames : List Frame
  /-- The fault that ended the loop, or none when it waits for more bytes. -/
  fault : Option (Fault DecodeError)
  rest : Bytes

/-- Call the decoder until it waits or fails; running out of fuel gives no result. -/
def drain : Nat → Bytes → Option Drained
  | 0, _ => none
  | fuel + 1, src =>
    match FrameCodec.decode src with
    | (.ok none, rest) => some { frames := [], fault := none, rest }
    | (.error fault, rest) => some { frames := [], fault := some fault, rest }
    | (.ok (some frame), rest) =>
      (drain fuel rest).map fun later => { later with frames := frame :: later.frames }

/-- Every decoded frame takes at least a header off the buffer. -/
theorem decode_some_shrinks {src rest : Bytes} {frame : Frame}
    (decoded : FrameCodec.decode src = (.ok (some frame), rest)) :
    rest.length + headerLen ≤ src.length := by
  have step := decode_step src
  rw [decoded] at step
  cases step with
  | decoded allowed arrived =>
    rw [List.length_drop]
    omega

/-- The decode loop ends on every buffer, without a panic. -/
theorem drain_ends (fuel : Nat) (src : Bytes) (enough : src.length / headerLen < fuel) :
    ∃ result, drain fuel src = some result ∧ result.fault ≠ some .panic := by
  induction fuel generalizing src with
  | zero => exact absurd enough (Nat.not_lt_zero _)
  | succ fuel ih =>
    have step := decode_step src
    rw [drain]
    generalize called : FrameCodec.decode src = outcome at step
    cases step with
    | waited missing => exact ⟨_, rfl, by simp⟩
    | refused whole oversize => exact ⟨_, rfl, by simp⟩
    | rejected allowed arrived reason => exact ⟨_, rfl, by simp⟩
    | decoded allowed arrived frame =>
      -- The rest is shorter by at least a header, so one unit of fuel less is enough for it.
      have shrunk := decode_some_shrinks called
      obtain ⟨later, ended, quiet⟩ := ih (src.drop (headerLen + announcedLen src)) (by
        unfold headerLen at shrunk enough ⊢
        omega)
      simp only [ended, Option.map_some]
      exact ⟨_, rfl, quiet⟩

/--
The decoder is safe and makes progress on every buffer.

One call never panics: it waits and changes nothing, refuses an oversize frame and changes nothing, or takes the announced frame off and returns it or an error.
Its two counted loops turn at most payload/4 + 1 times whatever count the payload announces, and the loop of calls ends.
-/
theorem decode_safe_and_progresses (src : Bytes) :
    (FrameCodec.decode src).1 ≠ panicked ∧
    DecodeStep src (FrameCodec.decode src) ∧
    (∀ payload : Bytes, payload.length ≤ maxFrameSize → ∀ count : Nat,
      iterations count (envEntry payload) (4, []) ≤ payload.length / 4 + 1 ∧
      iterations count (sessionInfoEntry payload) (4, []) ≤ payload.length / 4 + 1) ∧
    ∃ result, drain (src.length / headerLen + 1) src = some result ∧
      result.fault ≠ some .panic := by
  refine ⟨?_, decode_step src, ?_, drain_ends _ src (Nat.lt_succ_self _)⟩
  · have step := decode_step src
    generalize FrameCodec.decode src = outcome at step
    cases step <;> simp [Exec.fail, panicked]
  · exact fun payload bounded count =>
      ⟨envEntry_iterations bounded count, sessionInfoEntry_iterations bounded count⟩

end Gritty
