import Gritty.Protocol.RoundTrip

/-! Which frames the codec can turn into other frames, and which it cannot. -/

namespace Gritty

open Exec Decode

/-- Where a byte string begins with a frame of the wire format, and what follows the frame. -/
def StartsFrame (bytes : Bytes) (frame : Frame) (tail : Bytes) : Prop :=
  ∃ (len : UInt32) (payload : Bytes), bytes = putHeader frame.kind len ++ (payload ++ tail) ∧
    len.toNat = payload.length ∧ payload.length ≤ maxFrameSize ∧ Layout payload frame

/-- Only the code of a kind announces it. -/
theorem FrameType.code_of_ofCode {code : UInt8} {kind : FrameType}
    (announced : FrameType.ofCode code = some kind) : code = kind.code := by
  have found := List.find?_some announced
  exact (eq_of_beq found).symm

/-- A buffer with a whole header is that header and the bytes after it. -/
theorem eq_header_append {src : Bytes} {kind : FrameType} (whole : headerLen ≤ src.length)
    (typed : typeByte src = kind.code) :
    src = putHeader kind (UInt32.ofNat (announcedLen src)) ++ src.drop headerLen := by
  unfold headerLen at whole
  have width : ((src.drop 1).take 4).length = 4 := by
    rw [List.length_take, List.length_drop]
    omega
  have first : src = typeByte src :: src.drop 1 := by
    cases src with
    | nil => exact absurd whole (by decide)
    | cons byte rest => rfl
  have rest : src.drop headerLen = (src.drop 1).drop 4 := by
    rw [List.drop_drop]
    rfl
  rw [putHeader, announcedLen, putU32_ofNat width, ← typed, List.append_assoc, rest,
    List.take_append_drop]
  exact first

/-- One call of the decoder returns a frame exactly when the buffer begins with that frame. -/
theorem decode_eq_some_iff {src tail : Bytes} {frame : Frame} :
    FrameCodec.decode src = (.ok (some frame), tail) ↔ StartsFrame src frame tail := by
  constructor
  · intro decoded
    have step := decode_step src
    rw [decoded] at step
    cases step with
    | decoded allowed arrived =>
      have whole : headerLen ≤ src.length := by omega
      have bounded : ((src.drop headerLen).take (announcedLen src)).length ≤ maxFrameSize :=
        Nat.le_trans (List.length_take_le ..) allowed
      rw [decode_complete whole allowed arrived, Prod.mk.injEq] at decoded
      have inner : decodeFrame (typeByte src)
          ((src.drop headerLen).take (announcedLen src)) = .ok frame := by
        cases result : decodeFrame (typeByte src)
            ((src.drop headerLen).take (announcedLen src)) with
        | error fault => simp [result] at decoded
        | ok other => simpa [result] using decoded
      obtain ⟨kind, layout⟩ := (decodeFrame_safe bounded _).value inner
      have width : ((src.drop headerLen).take (announcedLen src)).length = announcedLen src := by
        rw [List.length_take, List.length_drop]
        omega
      refine ⟨UInt32.ofNat (announcedLen src), (src.drop headerLen).take (announcedLen src), ?_, ?_,
        bounded, layout⟩
      · rw [← List.drop_drop, List.take_append_drop]
        exact eq_header_append whole (FrameType.code_of_ofCode kind)
      · rw [width]
        exact UInt32.toNat_ofNat_of_lt' (announcedLen_lt src)
  · rintro ⟨len, payload, rfl, counted, bounded, layout⟩
    rw [decode_putHeader (counted ▸ bounded) (by rw [counted, List.length_append]; omega), counted,
      List.take_left' rfl, List.drop_left' rfl, decodePayload_held bounded layout]
    rfl

/--
The encoding of a frame is never taken for anything else.

Decoding it returns that frame with nothing left over, or reports an error and leaves nothing that could be read as a frame.
-/
def Faithful (frame : Frame) : Prop :=
  FrameCodec.decode (encodeFrame frame) = (.ok (some frame), []) ∨
    ∃ reason rest, FrameCodec.decode (encodeFrame frame) = (fail reason, rest) ∧
      ∀ other tail, FrameCodec.decode rest ≠ (.ok (some other), tail)

/-- The payload length the header of an encoded frame announces: the low 32 bits of the true one. -/
def Frame.announced (frame : Frame) : Nat := (UInt32.ofNat frame.payload.length).toNat

/--
The frames whose encoding cannot be taken for another frame.

The wire can carry the frame, or its header announces too much, or the bytes a decoder takes for its payload are no payload of such a frame and those it leaves begin no frame.
-/
def Frame.Unambiguous (frame : Frame) : Prop :=
  frame.InRange ∨ maxFrameSize < frame.announced ∨
    (∀ other, other.kind = frame.kind → ¬ Layout (frame.payload.take frame.announced) other) ∧
      ∀ other tail, ¬ StartsFrame (frame.payload.drop frame.announced) other tail

theorem Frame.announced_le (frame : Frame) : frame.announced ≤ frame.payload.length := by
  rw [announced, UInt32.toNat_ofNat']
  exact Nat.mod_le ..

/-- Encoded variables that are laid out fit their length fields. -/
theorem fits_of_envLayout {vars : List (String × String)} {input rest : Bytes}
    (layout : EnvLayout input vars rest) : ∀ pair ∈ vars, FitsU16 pair.1 ∧ FitsU16 pair.2 := by
  induction vars generalizing input with
  | nil => simp
  | cons pair vars ih =>
    obtain ⟨next, fits, _, later⟩ := layout
    exact List.forall_mem_cons.mpr ⟨fits, ih later⟩

/-- Session entries that are laid out fit their length fields. -/
theorem fits_of_entriesLayout {sessions : List SessionEntry} {input rest : Bytes}
    (layout : EntriesLayout input sessions rest) : ∀ entry ∈ sessions, EntryFits entry := by
  induction sessions generalizing input with
  | nil => simp
  | cons entry sessions ih =>
    obtain ⟨bytes, next, _, _, shape, later⟩ := layout
    exact List.forall_mem_cons.mpr ⟨shape.1, ih later⟩

/-- A frame that is laid out by its own payload is one the wire can carry. -/
theorem inRange_of_layout {frame : Frame} (size : frame.payload.length ≤ maxFrameSize)
    (layout : Layout frame.payload frame) : frame.InRange := by
  refine ⟨fun text inside => fitsU16_iff.mp ?_, size, ?_⟩
  · cases frame with
    | renameSession session newName =>
      obtain rfl : text = session := by simpa [Frame.prefixedStrings] using inside
      exact layout.1
    | setLinger session lingerSecs =>
      obtain rfl : text = session := by simpa [Frame.prefixedStrings] using inside
      exact layout.1
    | newSession name command cwd cols rows clientName lingerSecs =>
      obtain ⟨_, ⟨nameFits, commandFits, cwdFits⟩, trailing, afterName, rest, front, client, _⟩ :=
        layout
      -- The client name is written in full, so it is not one that was left out.
      have held : trailing = putStr clientName ++ putU64 lingerSecs := by
        simpa [Frame.payload, List.append_assoc] using front.symm
      have clientFits : FitsU16 clientName := by
        rcases client with ⟨fits, _⟩ | ⟨_, rfl, _⟩
        · exact fits
        · exact fitsU16_iff.mpr (by decide)
      simp only [Frame.prefixedStrings, List.mem_cons, List.not_mem_nil, or_false] at inside
      rcases inside with rfl | rfl | rfl | rfl <;> assumption
    | attach session clientName force noReplay cols rows attachToken renderedOffset lineDirty =>
      obtain ⟨⟨sessionFits, clientFits⟩, _⟩ := layout
      simp only [Frame.prefixedStrings, List.mem_cons, List.not_mem_nil, or_false] at inside
      rcases inside with rfl | rfl <;> assumption
    | env vars =>
      obtain ⟨_, input, rest, _, listed⟩ := layout
      obtain ⟨pair, among, part⟩ := List.mem_flatMap.mp inside
      have fits := fits_of_envLayout listed pair among
      simp only [List.mem_cons, List.not_mem_nil, or_false] at part
      rcases part with rfl | rfl
      · exact fits.1
      · exact fits.2
    | sessionInfo sessions =>
      obtain ⟨_, input, rest, _, listed⟩ := layout
      obtain ⟨entry, among, part⟩ := List.mem_flatMap.mp inside
      obtain ⟨name, path, command, cwd, client⟩ := fits_of_entriesLayout listed entry among
      simp only [List.mem_cons, List.not_mem_nil, or_false] at part
      rcases part with rfl | rfl | rfl | rfl | rfl <;> assumption
    | _ => simp [Frame.prefixedStrings] at inside
  · rintro number message rfl
    obtain ⟨code, restored, whole⟩ := layout
    -- The number on the wire is the unknown one, and reading it back keeps it unknown.
    have same : putU16 number = putU16 code := (List.append_inj whole (by simp)).1
    have number_eq : number = code := by
      rw [← ofNat_putU16 number, same, ofNat_putU16]
    subst number_eq
    by_contra assigned
    have inside : number ∈ [1, 2, 3, 4, 5, 6, 7, (8 : UInt16)] := by
      have low : number ≠ 0 := fun zero => assigned (Or.inl zero)
      have high : number ≤ 8 := UInt16.not_lt.mp fun large => assigned (Or.inr large)
      simp only [List.mem_cons, List.not_mem_nil, or_false, ← UInt16.toNat_inj, UInt16.le_iff_toNat_le,
        ne_eq] at low high ⊢
      simp at low high ⊢
      omega
    simp only [List.mem_cons, List.not_mem_nil, or_false] at inside
    rcases inside with rfl | rfl | rfl | rfl | rfl | rfl | rfl | rfl <;>
      simp [ErrorCode.fromU16] at restored

/-- The wire can carry a frame exactly when its payload is within the limit and its encoding is decoded to it. -/
theorem inRange_iff_decode_encode {frame : Frame} :
    frame.InRange ↔ frame.payload.length ≤ maxFrameSize ∧
      FrameCodec.decode (encodeFrame frame) = (.ok (some frame), []) := by
  constructor
  · intro inRange
    have decoded := decode_encode inRange []
    rw [List.append_nil] at decoded
    exact ⟨inRange.size, decoded⟩
  · rintro ⟨size, decoded⟩
    -- What was decoded is laid out by the bytes after the header, which are the frame's payload.
    obtain ⟨len, payload, whole, -, -, layout⟩ := decode_eq_some_iff.mp decoded
    rw [encodeFrame_eq, List.append_nil] at whole
    have same : frame.payload = payload := (List.append_inj whole (by simp)).2
    exact inRange_of_layout size (same ▸ layout)

/-- What the decoder takes for the payload of an encoded frame, when the announcement is allowed. -/
theorem decode_encodeFrame {frame : Frame} (allowed : frame.announced ≤ maxFrameSize) :
    FrameCodec.decode (encodeFrame frame) =
      (some <$> decodePayload frame.kind (frame.payload.take frame.announced),
        frame.payload.drop frame.announced) := by
  rw [encodeFrame_eq]
  exact decode_putHeader allowed frame.announced_le

/-- An announcement over the limit is refused for good. -/
theorem faithful_of_oversize {frame : Frame} (oversize : maxFrameSize < frame.announced) :
    Faithful frame := by
  have whole : headerLen ≤ (encodeFrame frame).length := by
    rw [encodeFrame_eq, List.length_append, putHeader_length]
    omega
  have announced : announcedLen (encodeFrame frame) = frame.announced := by
    rw [encodeFrame_eq, announcedLen_putHeader, Frame.announced]
  have refused := decode_oversize whole (announced ▸ oversize)
  refine Or.inr ⟨_, _, refused, fun other tail decoded => ?_⟩
  rw [refused] at decoded
  simp [fail] at decoded

/-- Within the limit, the encoding is faithful exactly when it is read back or read as nothing. -/
theorem faithful_iff_of_allowed {frame : Frame} (allowed : frame.announced ≤ maxFrameSize) :
    Faithful frame ↔ frame.InRange ∨
      (∀ other, other.kind = frame.kind → ¬ Layout (frame.payload.take frame.announced) other) ∧
        ∀ other tail, ¬ StartsFrame (frame.payload.drop frame.announced) other tail := by
  have bounded : (frame.payload.take frame.announced).length ≤ maxFrameSize :=
    Nat.le_trans (List.length_take_le ..) allowed
  have called := decode_encodeFrame allowed
  constructor
  · rintro (exact_ | ⟨reason, rest, failed, blocked⟩)
    · -- The decoder returned the frame itself, so its payload was whole and laid out as such.
      rw [called, Prod.mk.injEq] at exact_
      have whole : frame.payload.length ≤ frame.announced := List.drop_eq_nil_iff.mp exact_.2
      have read : decodePayload frame.kind (frame.payload.take frame.announced) = .ok frame := by
        cases result : decodePayload frame.kind (frame.payload.take frame.announced) with
        | error fault => simp [result] at exact_
        | ok other => simpa [result] using exact_.1
      have layout := ((decodePayload_eq_ok bounded).mp read).2
      rw [List.take_of_length_le whole] at layout
      exact Or.inl (inRange_of_layout (Nat.le_trans whole allowed) layout)
    · rw [called, Prod.mk.injEq] at failed
      refine Or.inr ⟨fun other kind layout => ?_, fun other tail begun => ?_⟩
      · rw [(decodePayload_eq_ok bounded).mpr ⟨kind, layout⟩] at failed
        simp [fail] at failed
      · rw [← failed.2] at blocked
        exact blocked other tail (decode_eq_some_iff.mpr begun)
  · rintro (inRange | ⟨unread, blocked⟩)
    · have read := decode_encode inRange []
      rw [List.append_nil] at read
      exact Or.inl read
    · have safe := decodePayload_safe bounded frame.kind
      refine Or.inr ?_
      cases result : decodePayload frame.kind (frame.payload.take frame.announced) with
      | ok other =>
        obtain ⟨kind, layout⟩ := (decodePayload_eq_ok bounded).mp result
        exact absurd layout (unread other kind)
      | error fault =>
        cases fault with
        | panic => exact absurd result safe.not_panicked
        | error reason =>
          rw [result] at called
          refine ⟨reason, _, called, fun other tail decoded => ?_⟩
          exact blocked other tail (decode_eq_some_iff.mp decoded)

/-- The codec is faithful exactly on the frames whose encoding cannot be taken for another frame. -/
theorem encode_faithful_iff (frame : Frame) : Faithful frame ↔ frame.Unambiguous := by
  unfold Frame.Unambiguous
  by_cases allowed : frame.announced ≤ maxFrameSize
  · rw [faithful_iff_of_allowed allowed]
    have small : ¬ maxFrameSize < frame.announced := Nat.not_lt.mpr allowed
    simp only [small, false_or]
  · have oversize := Nat.lt_of_not_le allowed
    exact ⟨fun _ => Or.inr (Or.inl oversize), fun _ => faithful_of_oversize oversize⟩

/-! ### A command of 64 KiB -/

/-- A text of the letter a. -/
def repeated (count : Nat) : String := String.ofList (List.replicate count 'a')

/-- The bytes of a repeated letter. -/
theorem utf8_repeated (count : Nat) : utf8 (repeated count) = List.replicate count 97 := by
  have bytes : utf8 (repeated count) =
      (List.replicate count 'a').flatMap String.utf8EncodeChar := by
    simp [utf8, repeated, List.utf8Encode]
  rw [bytes]
  induction count with
  | zero => rfl
  | succ count ih =>
    rw [List.replicate_succ, List.flatMap_cons, ih, List.replicate_succ]
    · rfl
    · simp [utf8, repeated, List.utf8Encode]

/-- A new session whose command is one byte longer than its length field can say. -/
def longCommand : Frame := .newSession "" (repeated 65536) "" 80 24 "" 0

/-- The session the decoder makes of it: no command, and the command's letters as other fields. -/
def misread : Frame :=
  .newSession "" "" (repeated 24929) 0x6161 0x6161 (repeated 24929) 0x6161616161616161

/-- The payload of the long command is a payload of the misread frame. -/
theorem layout_longCommand : Layout longCommand.payload misread := by
  have fits : FitsU16 (repeated 24929) := by
    rw [fitsU16_iff, utf8_repeated, List.length_replicate]
    decide
  have none_ : FitsU16 "" := fitsU16_iff.mpr (by decide)
  -- The letters fill a working directory, a size, a client name and a linger time, and some remain.
  have letters : List.replicate 65536 (97 : UInt8) = [97, 97] ++ (List.replicate 24929 97
      ++ ([97, 97] ++ ([97, 97] ++ ([97, 97] ++ (List.replicate 24929 97
        ++ ([97, 97, 97, 97, 97, 97, 97, 97] ++ List.replicate 15662 97)))))) := by
    rw [show 65536 = 2 + (24929 + (2 + (2 + (2 + (24929 + (8 + 15662)))))) from rfl]
    simp only [List.replicate_add]
    rfl
  have text : putStr (repeated 24929) = [97, 97] ++ List.replicate 24929 97 := by
    rw [putStr, utf8_repeated, List.length_replicate]
    rfl
  have command : putStr (repeated 65536) = putStr "" ++ List.replicate 65536 97 := by
    rw [putStr, utf8_repeated, List.length_replicate]
    rfl
  have number : putU16 0x6161 = [97, 97] := rfl
  have wide : putU64 0x6161616161616161 = [97, 97, 97, 97, 97, 97, 97, 97] := rfl
  refine ⟨?_, ⟨none_, none_, fits⟩, _, _, List.replicate 15662 97 ++ (putStr "" ++ (putU16 80
    ++ (putU16 24 ++ (putStr "" ++ putU64 0)))), ?_, Or.inl ⟨fits, rfl⟩, Or.inl rfl⟩
  · simp only [longCommand, Frame.payload, List.length_append, putStr_length, putU16_length,
      putU64_length]
    omega
  · generalize List.replicate 65536 (97 : UInt8) = all at letters command
    generalize List.replicate 24929 (97 : UInt8) = block at letters text
    generalize List.replicate 15662 (97 : UInt8) = left at letters ⊢
    simp only [longCommand, Frame.payload, command, letters, text, number, wide, List.append_assoc]

/-- The encoding of the long command is decoded as another session, without an error. -/
theorem longCommand_not_faithful : ¬ Faithful longCommand := by
  have none_ : (utf8 "").length = 0 := rfl
  have size : longCommand.payload.length = 65556 := by
    simp only [longCommand, Frame.payload, List.length_append, putStr_length, putU16_length,
      putU64_length, utf8_repeated, List.length_replicate, none_, Nat.reduceAdd]
  have announced : longCommand.announced = 65556 := by
    rw [Frame.announced, size]
    rfl
  have kind : longCommand.kind = .newSession := rfl
  have kind' : misread.kind = .newSession := rfl
  have bounded : longCommand.payload.length ≤ maxFrameSize := by
    rw [size]
    decide
  have held := decodePayload_held bounded layout_longCommand
  have read : FrameCodec.decode (encodeFrame longCommand) = (.ok (some misread), []) := by
    rw [decode_encodeFrame (by rw [announced]; decide), announced, kind, ← kind',
      List.take_of_length_le (Nat.le_of_eq size), List.drop_of_length_le (Nat.le_of_eq size), held]
    rfl
  have different : misread ≠ longCommand := by
    intro same
    have cols : (0x6161 : UInt16) = 80 := (Frame.newSession.inj same).2.2.2.1
    exact absurd cols (by decide)
  rintro (exact_ | ⟨reason, rest, failed, _⟩)
  · rw [read] at exact_
    exact different (by simpa using exact_)
  · rw [read] at failed
    simp [fail] at failed

end Gritty
