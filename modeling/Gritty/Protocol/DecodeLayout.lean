import Gritty.Protocol.DecodeSafety

/-! The decoder accepts the whole wire format: every payload of a frame is read as that frame. -/

namespace Gritty

namespace Decode

open Exec

/-- The bytes after a field stand at the offset after it. -/
theorem drop_next {payload field rest : Bytes} {off width : Nat}
    (held : payload.drop off = field ++ rest) (size : field.length = width) :
    payload.drop (off + width) = rest := by
  rw [← List.drop_drop, held, ← size, List.drop_left]

/-- The bytes after a single byte stand at the next offset. -/
theorem drop_tail {payload rest : Bytes} {off : Nat} {byte : UInt8}
    (held : payload.drop off = byte :: rest) : payload.drop (off + 1) = rest := by
  have split : payload.drop off = [byte] ++ rest := held
  exact drop_next split rfl

/-- A field found at an offset, and the bytes after it, end where the payload ends. -/
theorem drop_within {payload input : Bytes} {off : Nat} (held : payload.drop off = input)
    (some_ : 0 < input.length) : off + input.length = payload.length := by
  rw [← held, List.length_drop] at some_ ⊢
  omega

theorem expectMinLen_of_le {payload : Bytes} {min : Nat} {name : String}
    (enough : min ≤ payload.length) : expectMinLen payload min name = .ok () := by
  rw [expectMinLen, if_neg (Nat.not_lt.mpr enough)]

theorem guardLen_of_le {payload : Bytes} {need : Nat} {message : String}
    (enough : need ≤ payload.length) : guardLen need payload message = .ok () := by
  rw [guardLen, if_neg (Nat.not_lt.mpr enough)]

@[simp] theorem stringFrom_utf8 (text : String) : stringFrom (utf8 text) = .ok text := by
  rw [stringFrom, fromUtf8_utf8]

/-- A field that stands at an offset is the range read there. -/
theorem indexes_held {payload field rest : Bytes} {off width : Nat}
    (held : payload.drop off = field ++ rest) (size : field.length = width) (wide : 0 < width) :
    (indexes payload off width : Decode Bytes) = .ok field := by
  have ended := drop_within held (by rw [List.length_append]; omega)
  rw [List.length_append] at ended
  rw [indexes_of_le (by omega), held, ← size, List.take_left]

/-- A field that stands at an offset is the slice cut there. -/
theorem slice_held {payload field rest : Bytes} {off past : Nat}
    (held : payload.drop off = field ++ rest) (size : past = off + field.length)
    (within : past ≤ payload.length) : (slice payload off past : Decode Bytes) = .ok field := by
  rw [slice_of_le (by omega) within, held, size, Nat.add_sub_cancel_left, List.take_left]

theorem readU16_held {payload rest : Bytes} {off : Nat} {value : UInt16}
    (held : payload.drop off = putU16 value ++ rest) : readU16 payload off = .ok value := by
  rw [readU16, indexes_held held (putU16_length value) (by decide), ok_bind, ofNat_putU16,
    pure_eq_ok]

theorem readU32_held {payload rest : Bytes} {off : Nat} {value : UInt32}
    (held : payload.drop off = putU32 value ++ rest) : readU32 payload off = .ok value := by
  rw [readU32, indexes_held held (putU32_length value) (by decide), ok_bind, ofNat_putU32,
    pure_eq_ok]

theorem readI32_held {payload rest : Bytes} {off : Nat} {value : Int32}
    (held : payload.drop off = putI32 value ++ rest) : readI32 payload off = .ok value := by
  rw [readI32, indexes_held held (putI32_length value) (by decide), ok_bind, ofNat_putI32,
    pure_eq_ok]

theorem readU64_held {payload rest : Bytes} {off : Nat} {value : UInt64}
    (held : payload.drop off = putU64 value ++ rest) : readU64 payload off = .ok value := by
  rw [readU64, indexes_held held (putU64_length value) (by decide), ok_bind, ofNat_putU64,
    pure_eq_ok]

/-- The byte at the front of the rest is the one at the offset. -/
theorem index_held {payload rest : Bytes} {off : Nat} {byte : UInt8}
    (held : payload.drop off = byte :: rest) : (index payload off : Decode UInt8) = .ok byte := by
  have within : off < payload.length := by
    have ended := drop_within held (by simp)
    rw [List.length_cons] at ended
    omega
  rw [List.drop_eq_getElem_cons within, List.cons.injEq] at held
  rw [index_of_lt within, held.1]

section Payload

variable {payload : Bytes} (bounded : payload.length ≤ maxFrameSize)

include bounded

/-- An offset inside a payload can be moved by a small step. -/
theorem addOffset_of_le (offset step : Nat) (within : offset ≤ payload.length)
    (small : step ≤ 2 ^ 33) : (addUsize offset step : Decode Nat) = .ok (offset + step) := by
  have := maxFrameSize_lt
  exact addUsize_of_lt (by omega)

/-- A reader takes a number of two bytes and stands behind it. -/
theorem reader_u16_held {off : Nat} {rest : Bytes} {value : UInt16}
    (held : payload.drop off = putU16 value ++ rest) :
    PayloadReader.u16 { data := payload, off } = .ok (value, { data := payload, off := off + 2 }) := by
  have ended := drop_within held (by simp)
  simp only [PayloadReader.u16, readU16_held held, ok_bind, pure_eq_ok,
    addOffset_of_le bounded off 2 (by omega) (by decide)]

/-- A reader takes a number of four bytes and stands behind it. -/
theorem reader_u32_held {off : Nat} {rest : Bytes} {value : UInt32}
    (held : payload.drop off = putU32 value ++ rest) :
    PayloadReader.u32 { data := payload, off } = .ok (value, { data := payload, off := off + 4 }) := by
  have ended := drop_within held (by simp)
  simp only [PayloadReader.u32, readU32_held held, ok_bind, pure_eq_ok,
    addOffset_of_le bounded off 4 (by omega) (by decide)]

/-- A reader takes a signed number and stands behind it. -/
theorem reader_i32_held {off : Nat} {rest : Bytes} {value : Int32}
    (held : payload.drop off = putI32 value ++ rest) :
    PayloadReader.i32 { data := payload, off } = .ok (value, { data := payload, off := off + 4 }) := by
  have ended := drop_within held (by simp)
  simp only [PayloadReader.i32, readI32_held held, ok_bind, pure_eq_ok,
    addOffset_of_le bounded off 4 (by omega) (by decide)]

/-- A reader takes a number of eight bytes and stands behind it. -/
theorem reader_u64_held {off : Nat} {rest : Bytes} {value : UInt64}
    (held : payload.drop off = putU64 value ++ rest) :
    PayloadReader.u64 { data := payload, off } = .ok (value, { data := payload, off := off + 8 }) := by
  have ended := drop_within held (by simp)
  simp only [PayloadReader.u64, readU64_held held, ok_bind, pure_eq_ok,
    addOffset_of_le bounded off 8 (by omega) (by decide)]

/-- A string field that stands at an offset is read there, and the reader moves past it. -/
theorem readStr_held {off : Nat} (slack : Nat) {rest : Bytes} {text : String} (truncated : String)
    (held : payload.drop off = putStr text ++ rest) (fits : FitsU16 text)
    (room : slack ≤ rest.length) :
    readStr payload off slack truncated = .ok (text, off + 2 + (utf8 text).length) ∧
      payload.drop (off + 2 + (utf8 text).length) = rest ∧
      off + 2 + (utf8 text).length + rest.length = payload.length := by
  have size := maxFrameSize_lt
  have ended := drop_within held (by simp)
  rw [List.length_append, putStr_length] at ended
  have after : payload.drop (off + 2 + (utf8 text).length) = rest := by
    rw [Nat.add_assoc]
    exact drop_next held (putStr_length text)
  rw [putStr, List.append_assoc] at held
  have body := drop_next held (putU16_length _)
  -- The length was not truncated, so the field counts the whole text.
  have counted : (UInt16.ofNat (utf8 text).length).toNat = (utf8 text).length :=
    UInt16.toNat_ofNat_of_lt' fits
  have first := addOffset_of_le bounded off 2 (by omega) (by decide)
  have second := addOffset_of_le bounded (off + 2) (utf8 text).length
    (by omega) (by omega)
  have third : (addUsize (off + 2 + (utf8 text).length) slack : Decode Nat) =
      .ok (off + 2 + (utf8 text).length + slack) := addUsize_of_lt (by omega)
  have enough : guardLen (off + 2 + (utf8 text).length + slack) payload truncated = .ok () :=
    guardLen_of_le (by omega)
  refine ⟨?_, after, by omega⟩
  simp only [readStr, readU16_held held, ok_bind, counted, first, second, third, enough,
    slice_held body rfl (by omega), stringFrom_utf8, pure_eq_ok]

/-- A frame of one number is read from any payload that begins with it. -/
theorem decodeU32_held {name : String} {build : UInt32 → Frame} {value : UInt32}
    (held : putU32 value <+: payload) : decodeU32 payload name build = .ok (build value) := by
  obtain ⟨rest, whole⟩ := held
  have size : 4 ≤ payload.length := by simp [← whole]
  have start : payload.drop 0 = putU32 value ++ rest := whole.symm
  simp only [decodeU32, PayloadReader.new, expectMinLen_of_le size, reader_u32_held bounded start,
    ok_bind, pure_eq_ok]

/-- A frame of a channel and bytes is read from the channel's number and the bytes. -/
theorem decodePrefixBlob_held {name : String} {build : UInt32 → Bytes → Frame}
    {channelId : UInt32} {bytes : Bytes} (whole : payload = putU32 channelId ++ bytes) :
    decodePrefixBlob payload name build = .ok (build channelId bytes) := by
  have size : payload.length = 4 + bytes.length := by simp [whole]
  have start : payload.drop 0 = putU32 channelId ++ bytes := whole
  have tail : payload.drop 4 = bytes ++ [] := by simp [whole]
  simp only [decodePrefixBlob, PayloadReader.new, expectMinLen_of_le (by omega : 4 ≤ payload.length),
    reader_u32_held bounded start, Nat.zero_add, slice_held tail size (Nat.le_refl _), ok_bind,
    pure_eq_ok]

/-! ### The environment frame -/

/-- One variable of the environment is read, and the reading goes on behind it. -/
theorem envEntry_held {off : Nat} {key value : String} {next : Bytes}
    (vars : List (String × String)) (fits : FitsU16 key ∧ FitsU16 value)
    (held : payload.drop off = putStr key ++ (putStr value ++ next)) :
    ∃ past, envEntry payload (off, vars) = .ok (past, vars ++ [(key, value)]) ∧
      payload.drop past = next := by
  have ended := drop_within held (by simp)
  rw [List.length_append, List.length_append, putStr_length, putStr_length] at ended
  obtain ⟨readKey, after, _⟩ := readStr_held bounded 2 "env frame truncated"
    held fits.1 (by simp; omega)
  obtain ⟨readValue, last, _⟩ := readStr_held bounded 0 "env frame truncated"
    after fits.2 (by simp)
  refine ⟨_, ?_, last⟩
  have need := addOffset_of_le bounded off 2 (by omega) (by decide)
  have enough : guardLen (off + 2) payload "env frame truncated" = .ok () :=
    guardLen_of_le (by omega)
  simp only [envEntry, need, enough, readKey, readValue, ok_bind, pure_eq_ok]

/-- The environment loop reads every variable that is laid out. -/
theorem envLoop_held (before : List (String × String)) {vars : List (String × String)} {off : Nat}
    {rest : Bytes}
    (layout : EnvLayout (payload.drop off) vars rest) :
    ∃ past, Exec.repeatM vars.length (envEntry payload) (off, before) = .ok (past, before ++ vars) := by
  induction vars generalizing off before with
  | nil => exact ⟨off, by simp [Exec.repeatM]⟩
  | cons pair vars ih =>
    obtain ⟨next, fits, held, later⟩ := layout
    obtain ⟨middle, turned, after⟩ := envEntry_held bounded before fits held
    obtain ⟨past, rest⟩ := ih (before ++ [pair]) (after ▸ later)
    exact ⟨past, by simpa [Exec.repeatM, turned] using rest⟩

/-- An environment that is laid out in a payload is decoded from it. -/
theorem decodeEnv_held {vars : List (String × String)} (layout : Layout payload (.env vars)) :
    decodeEnv payload = .ok (.env vars) := by
  obtain ⟨small, input, rest, whole, inside⟩ := layout
  have size : ¬ payload.length < 4 := by simp [whole]
  have start : payload.drop 0 = putU32 (UInt32.ofNat vars.length) ++ input := whole
  have counted : (UInt32.ofNat vars.length).toNat = vars.length := UInt32.toNat_ofNat_of_lt' small
  have body : payload.drop 4 = input := drop_next start (putU32_length _)
  obtain ⟨past, loop⟩ := envLoop_held bounded [] (body ▸ inside)
  simp only [decodeEnv, if_neg size, readU32_held start, counted, loop, ok_bind, pure_eq_ok,
    List.nil_append]

/-! ### The session info frame -/

/-- A text of a session's entry is read, and the entry still has its length. -/
theorem readEntryStr_held {eoff : Nat} {rest : Bytes} {text : String}
    (held : payload.drop eoff = putStr text ++ rest) (fits : FitsU16 text) :
    readEntryStr payload eoff = .ok (text, eoff + 2 + (utf8 text).length) ∧
      payload.drop (eoff + 2 + (utf8 text).length) = rest ∧
      eoff + 2 + (utf8 text).length + rest.length = payload.length := by
  obtain ⟨read, after, ended⟩ := readStr_held bounded 0 "session entry truncated"
    held fits (Nat.zero_le _)
  refine ⟨?_, after, ended⟩
  have need := addOffset_of_le bounded eoff 2 (by omega) (by decide)
  have enough : guardLen (eoff + 2) payload "session entry truncated" = .ok () :=
    guardLen_of_le (by omega)
  simp only [readEntryStr, need, enough, read, ok_bind]

/-- A flag at the end of an entry is read, or is unset where the entry ends before it. -/
theorem trailingFlag_held {eoff : Nat} {flag : Bool} {rest : Bytes}
    (within : eoff ≤ payload.length) (held : TrailingFlag (payload.drop eoff) flag rest) :
    ∃ past, trailingFlag payload eoff = .ok (flag, past) ∧ payload.drop past = rest ∧
      past ≤ payload.length := by
  rcases held with ⟨byte, split, rfl⟩ | ⟨ended, rfl, rfl⟩
  · have some_ := drop_within split (by simp)
    rw [List.length_cons] at some_
    have next := addOffset_of_le bounded eoff 1 within (by decide)
    refine ⟨eoff + 1, ?_, ?_, by omega⟩
    · simp only [trailingFlag, if_pos (by omega : eoff < payload.length), index_held split, next,
        ok_bind, pure_eq_ok]
    · exact drop_tail split
  · have none_ : ¬ eoff < payload.length := Nat.not_lt.mpr (List.drop_eq_nil_iff.mp ended)
    exact ⟨eoff, by simp only [trailingFlag, if_neg none_], ended, within⟩

/-- A number at the end of an entry is read, or is zero where the entry ends before it. -/
theorem trailingU64_held {eoff : Nat} {value : UInt64} {rest : Bytes}
    (within : eoff ≤ payload.length) (held : TrailingU64 (payload.drop eoff) value rest) :
    ∃ past, trailingU64 payload eoff = .ok (value, past) ∧ payload.drop past = rest ∧
      past ≤ payload.length := by
  have need := addOffset_of_le bounded eoff 8 within (by decide)
  rcases held with split | ⟨short, rfl, rfl⟩
  · have some_ := drop_within split (by simp)
    rw [List.length_append, putU64_length] at some_
    refine ⟨eoff + 8, ?_, drop_next split (putU64_length value), by omega⟩
    simp only [trailingU64, need, if_pos (by omega : eoff + 8 ≤ payload.length),
      readU64_held split, ok_bind, pure_eq_ok]
  · rw [List.length_drop] at short
    refine ⟨eoff, ?_, rfl, within⟩
    simp only [trailingU64, need, if_neg (by omega : ¬ eoff + 8 ≤ payload.length), ok_bind,
      pure_eq_ok]

/-- An entry that is laid out in its bytes is decoded from them. -/
theorem sessionEntry_held {entry : SessionEntry} (layout : EntryLayout payload entry) :
    sessionEntry payload = .ok entry := by
  obtain ⟨⟨nameFits, pathFits, commandFits, cwdFits, clientFits⟩, flagged, dated, trailing,
    afterAgent, afterLast, afterActivity, rest, front, ⟨byte, split, attached⟩, middle, agent, last,
    activity, linger⟩ := layout
  -- The required fields, read from left to right.
  have at0 : payload.drop 0 = _ := front
  have at1 : payload.drop 4 = _ := drop_next at0 (putU32_length _)
  obtain ⟨readName, at2, _⟩ := readEntryStr_held bounded at1 nameFits
  obtain ⟨readPath, at3, _⟩ := readEntryStr_held bounded at2 pathFits
  have at4 := drop_next at3 (putU32_length _)
  have at5 := drop_next at4 (putU64_length _)
  rw [split] at at5
  have at6 := drop_tail at5
  rw [middle] at at6
  have at7 := drop_next at6 (putU64_length _)
  obtain ⟨readCommand, at8, _⟩ := readEntryStr_held bounded at7 commandFits
  obtain ⟨readCwd, at9, _⟩ := readEntryStr_held bounded at8 cwdFits
  obtain ⟨readClient, at10, ended⟩ := readEntryStr_held bounded at9 clientFits
  -- The trailing fields, each read only if the entry still holds it.
  obtain ⟨off11, readAgent, at11, in11⟩ := trailingFlag_held bounded (by omega) (at10 ▸ agent)
  obtain ⟨off12, readLast, at12, in12⟩ := trailingFlag_held bounded in11 (at11 ▸ last)
  obtain ⟨off13, readActivity, at13, in13⟩ := trailingU64_held bounded in12 (at12 ▸ activity)
  obtain ⟨off14, readLinger, _, _⟩ := trailingU64_held bounded in13 (at13 ▸ linger)
  have size := maxFrameSize_lt
  have enough : ¬ payload.length < 4 := by omega
  simp (disch := omega) only [sessionEntry, if_neg enough, readU32_held at0, addUsize_of_lt,
    Nat.zero_add, readName, readPath, guardLen_of_le, readU32_held at3, readU64_held at4,
    index_held at5, readU64_held at6, readCommand, readCwd, readClient, readAgent, readLast,
    readActivity, readLinger, ok_bind, pure_eq_ok, ← attached]

/-- One entry of the list is read by its length, and the reading goes on behind it. -/
theorem sessionInfoEntry_held {off : Nat} {bytes next : Bytes} {entry : SessionEntry}
    (sessions : List SessionEntry) (small : bytes.length < 2 ^ 32)
    (held : payload.drop off = putU32 (UInt32.ofNat bytes.length) ++ (bytes ++ next))
    (layout : EntryLayout bytes entry) :
    ∃ past, sessionInfoEntry payload (off, sessions) = .ok (past, sessions ++ [entry]) ∧
      payload.drop past = next := by
  have size := maxFrameSize_lt
  have ended := drop_within held (by simp)
  rw [List.length_append, List.length_append, putU32_length] at ended
  have body := drop_next held (putU32_length _)
  have counted : (UInt32.ofNat bytes.length).toNat = bytes.length := UInt32.toNat_ofNat_of_lt' small
  have cut : (slice payload (off + 4) (off + 4 + bytes.length) : Decode Bytes) = .ok bytes :=
    slice_held body rfl (by omega)
  refine ⟨off + 4 + bytes.length, ?_, drop_next body rfl⟩
  simp (disch := omega) only [sessionInfoEntry, addUsize_of_lt, guardLen_of_le, readU32_held held,
    counted, cut, sessionEntry_held (by omega) layout, ok_bind, pure_eq_ok]

/-- The session loop reads every entry that is laid out. -/
theorem sessionsLoop_held (before : List SessionEntry) {entries : List SessionEntry} {off : Nat}
    {rest : Bytes}
    (layout : EntriesLayout (payload.drop off) entries rest) :
    ∃ past, Exec.repeatM entries.length (sessionInfoEntry payload) (off, before) =
      .ok (past, before ++ entries) := by
  induction entries generalizing off before with
  | nil => exact ⟨off, by simp [Exec.repeatM]⟩
  | cons entry entries ih =>
    obtain ⟨bytes, next, small, held, shape, later⟩ := layout
    obtain ⟨middle, turned, after⟩ :=
      sessionInfoEntry_held bounded before small held shape
    obtain ⟨past, rest⟩ := ih (before ++ [entry]) (after ▸ later)
    exact ⟨past, by simpa [Exec.repeatM, turned] using rest⟩

/-- A list of sessions that is laid out in a payload is decoded from it. -/
theorem decodeSessionInfo_held {sessions : List SessionEntry}
    (layout : Layout payload (.sessionInfo sessions)) :
    decodeSessionInfo payload = .ok (.sessionInfo sessions) := by
  obtain ⟨small, input, rest, whole, inside⟩ := layout
  have size : ¬ payload.length < 4 := by simp [whole]
  have start : payload.drop 0 = putU32 (UInt32.ofNat sessions.length) ++ input := whole
  have counted : (UInt32.ofNat sessions.length).toNat = sessions.length :=
    UInt32.toNat_ofNat_of_lt' small
  have body : payload.drop 4 = input := drop_next start (putU32_length _)
  obtain ⟨past, loop⟩ := sessionsLoop_held bounded [] (body ▸ inside)
  simp only [decodeSessionInfo, if_neg size, readU32_held start, counted, loop, ok_bind, pure_eq_ok,
    List.nil_append]

/-! ### Structured frames -/

/-- The client's name is read, or is empty where the payload ends before it. -/
theorem newSessionClientName_held {off : Nat} {text : String} {rest : Bytes}
    (within : off ≤ payload.length) (held : TrailingStr (payload.drop off) text rest) :
    ∃ past, newSessionClientName payload off = .ok (text, past) ∧ payload.drop past = rest ∧
      past ≤ payload.length := by
  have need := addOffset_of_le bounded off 2 within (by decide)
  rcases held with ⟨fits, split⟩ | ⟨short, rfl, rfl⟩
  · obtain ⟨read, after, ended⟩ := readStr_held bounded 0 "new session frame truncated"
      split fits (Nat.zero_le _)
    refine ⟨_, ?_, after, by omega⟩
    simp only [newSessionClientName, need, if_pos (by omega : off + 2 ≤ payload.length), read,
      ok_bind]
  · rw [List.length_drop] at short
    refine ⟨off, ?_, rfl, within⟩
    simp only [newSessionClientName, need, if_neg (by omega : ¬ off + 2 ≤ payload.length), ok_bind,
      pure_eq_ok]

/-- A number at the end is read, or is zero where the payload ends before it. -/
theorem u64OrZero_held {off : Nat} {value : UInt64} {rest : Bytes}
    (within : off ≤ payload.length) (held : TrailingU64 (payload.drop off) value rest) :
    u64OrZero payload off readU64 = .ok value := by
  have need := addOffset_of_le bounded off 8 within (by decide)
  rcases held with split | ⟨short, rfl, rfl⟩
  · have some_ := drop_within split (by simp)
    rw [List.length_append, putU64_length] at some_
    simp only [u64OrZero, need, if_pos (by omega : off + 8 ≤ payload.length), readU64_held split,
      ok_bind]
  · rw [List.length_drop] at short
    simp only [u64OrZero, need, if_neg (by omega : ¬ off + 8 ≤ payload.length), ok_bind,
      pure_eq_ok]

/-- A request for a new session that is laid out in a payload is decoded from it. -/
theorem decodeNewSession_held {name command cwd clientName : String} {cols rows : UInt16}
    {lingerSecs : UInt64}
    (layout : Layout payload (.newSession name command cwd cols rows clientName lingerSecs)) :
    decodeNewSession payload =
      .ok (.newSession name command cwd cols rows clientName lingerSecs) := by
  obtain ⟨enough, ⟨nameFits, commandFits, cwdFits⟩, trailing, afterName, rest, front, client,
    linger⟩ := layout
  have size := maxFrameSize_lt
  have at0 : payload.drop 0 = _ := front
  obtain ⟨readName, at1, _⟩ := readStr_held bounded 2 "new session frame truncated"
    at0 nameFits (by simp; omega)
  obtain ⟨readCommand, at2, _⟩ := readStr_held bounded 2 "new session frame truncated"
    at1 commandFits (by simp; omega)
  obtain ⟨readCwd, at3, ended⟩ := readStr_held bounded 4 "new session frame truncated"
    at2 cwdFits (by simp; omega)
  have at4 := drop_next at3 (putU16_length _)
  have at5 := drop_next at4 (putU16_length _)
  rw [List.length_append, List.length_append, putU16_length, putU16_length] at ended
  obtain ⟨off6, readClient, at6, in6⟩ :=
    newSessionClientName_held bounded (by omega) (at5 ▸ client)
  have readLinger := u64OrZero_held bounded in6 (at6 ▸ linger)
  simp (disch := omega) only [decodeNewSession, expectMinLen_of_le enough, readName, readCommand,
    readCwd, readU16_held at3, addUsize_of_lt, readU16_held at4, readClient, readLinger, ok_bind,
    pure_eq_ok]

omit bounded in
/-- A number at a fixed place is read there, or is zero when the payload ends before it. -/
theorem u16OrZero_held (off place : Nat) {value : UInt16} (small : off + place < 2 ^ 33)
    (held : FixedU16 (payload.drop off) place value) (within : off ≤ payload.length) :
    u16OrZero payload (off + place) = .ok value := by
  have need : (addUsize (off + place) 2 : Decode Nat) = .ok (off + place + 2) :=
    addUsize_of_lt (by omega)
  rcases held with ⟨rest, split⟩ | ⟨short, rfl⟩
  · rw [List.drop_drop] at split
    have some_ := drop_within split.symm (by simp)
    rw [List.length_append, putU16_length] at some_
    simp only [u16OrZero, need, if_pos (by omega : off + place + 2 ≤ payload.length),
      readU16_held split.symm, ok_bind]
  · rw [List.length_drop] at short
    simp only [u16OrZero, need, if_neg (by omega : ¬ off + place + 2 ≤ payload.length), ok_bind,
      pure_eq_ok]

omit bounded in
/-- A number is read from a slice of eight bytes. -/
theorem sliceU64_held {off : Nat} {value : UInt64} {rest : Bytes} (small : off < 2 ^ 33)
    (held : payload.drop off = putU64 value ++ rest) : sliceU64 payload off = .ok value := by
  have some_ := drop_within held (by simp)
  rw [List.length_append, putU64_length] at some_
  have past : (addUsize off 8 : Decode Nat) = .ok (off + 8) := addUsize_of_lt (by omega)
  simp only [sliceU64, past, slice_held held (by rw [putU64_length]) (by omega), ok_bind,
    ofNat_putU64, pure_eq_ok]

omit bounded in
/-- A number at its fixed place is read, or is zero where the payload ends before it. -/
theorem sliceU64OrZero_held (off place : Nat) {value : UInt64} (small : off + place < 2 ^ 33)
    (held : FixedU64 (payload.drop off) place value) (within : off ≤ payload.length) :
    u64OrZero payload (off + place) sliceU64 = .ok value := by
  have need : (addUsize (off + place) 8 : Decode Nat) = .ok (off + place + 8) :=
    addUsize_of_lt (by omega)
  rcases held with ⟨rest, split⟩ | ⟨short, rfl⟩
  · rw [List.drop_drop] at split
    have some_ := drop_within split.symm (by simp)
    rw [List.length_append, putU64_length] at some_
    simp only [u64OrZero, need, if_pos (by omega : off + place + 8 ≤ payload.length),
      sliceU64_held small split.symm, ok_bind]
  · rw [List.length_drop] at short
    simp only [u64OrZero, need, if_neg (by omega : ¬ off + place + 8 ≤ payload.length), ok_bind,
      pure_eq_ok]

omit bounded in
theorem flagOrUnset_held (off place : Nat) {flag : Bool}
    (held : FixedFlag (payload.drop off) place flag) : flagOrUnset payload (off + place) = flag := by
  rw [held, flagOrUnset, List.getElem?_drop]

/-- An attach that is laid out in a payload is decoded from it. -/
theorem decodeAttach_held {session clientName : String} {force noReplay lineDirty : Bool}
    {cols rows : UInt16} {attachToken renderedOffset : UInt64}
    (layout : Layout payload (.attach session clientName force noReplay cols rows attachToken
      renderedOffset lineDirty)) :
    decodeAttach payload = .ok (.attach session clientName force noReplay cols rows attachToken
      renderedOffset lineDirty) := by
  obtain ⟨⟨sessionFits, clientFits⟩, flagged, trailing, front, ⟨byte, split, rfl⟩, replay, width,
    height, token, offset, dirty⟩ := layout
  have size := maxFrameSize_lt
  rw [split] at front
  have at0 : payload.drop 0 = _ := front
  obtain ⟨readSession, at1, _⟩ := readStr_held bounded 2 "attach frame truncated"
    at0 sessionFits (by simp; omega)
  obtain ⟨readClient, at2, ended⟩ := readStr_held bounded 1 "attach frame truncated"
    at1 clientFits (by simp)
  have at3 := drop_tail at2
  rw [List.length_cons] at ended
  generalize past : 0 + 2 + (utf8 session).length + 2 + (utf8 clientName).length = off at *
  have within : off + 1 ≤ payload.length := by omega
  rw [← at3] at replay width height token offset dirty
  -- Each later field is read at its own distance from the force flag.
  have readReplay : flagOrUnset payload (off + 1) = noReplay := flagOrUnset_held (off + 1) 0 replay
  have readCols := u16OrZero_held (off + 1) 1 (by omega) width within
  have readRows : u16OrZero payload (off + 1 + 1 + 2) = .ok rows :=
    u16OrZero_held (off + 1) 3 (by omega) height within
  have readToken : u64OrZero payload (off + 1 + 1 + 2 + 2) sliceU64 = .ok attachToken :=
    sliceU64OrZero_held (off + 1) 5 (by omega) token within
  have readOffset : u64OrZero payload (off + 1 + 1 + 2 + 2 + 8) sliceU64 = .ok renderedOffset :=
    sliceU64OrZero_held (off + 1) 13 (by omega) offset within
  have readDirty : flagOrUnset payload (off + 1 + 1 + 2 + 2 + 8 + 8) = lineDirty :=
    flagOrUnset_held (off + 1) 21 dirty
  simp (disch := omega) only [decodeAttach, expectMinLen_of_le, readSession, readClient,
    index_held at2, addUsize_of_lt, readReplay, readCols, readRows, readToken, readOffset,
    readDirty, ok_bind, pure_eq_ok]

/-- A rename that is laid out in a payload is decoded from it. -/
theorem decodeRenameSession_held {session newName : String}
    (layout : Layout payload (.renameSession session newName)) :
    decodeRenameSession payload = .ok (.renameSession session newName) := by
  obtain ⟨fits, whole⟩ := layout
  have size := maxFrameSize_lt
  have length : payload.length = 2 + (utf8 session).length + (utf8 newName).length := by
    simp [whole]
  rw [putStr, List.append_assoc] at whole
  have at0 : payload.drop 0 = _ := whole
  have at1 : payload.drop 2 = _ := drop_next at0 (putU16_length _)
  have at2 : payload.drop (2 + (utf8 session).length) = utf8 newName ++ [] := by
    rw [drop_next at1 rfl, List.append_nil]
  have counted : (UInt16.ofNat (utf8 session).length).toNat = (utf8 session).length :=
    UInt16.toNat_ofNat_of_lt' fits
  simp (disch := omega) only [decodeRenameSession, if_neg (by omega : ¬ payload.length < 2),
    readU16_held at0, counted, addUsize_of_lt, guardLen_of_le, slice_held at1 rfl, stringFrom_utf8,
    slice_held at2 length (Nat.le_refl _), ok_bind, pure_eq_ok]

/-- A change of the lingering that is laid out in a payload is decoded from it. -/
theorem decodeSetLinger_held {session : String} {lingerSecs : UInt64}
    (layout : Layout payload (.setLinger session lingerSecs)) :
    decodeSetLinger payload = .ok (.setLinger session lingerSecs) := by
  obtain ⟨fits, rest, whole⟩ := layout
  have size := maxFrameSize_lt
  have length : payload.length = 2 + (utf8 session).length + 8 + rest.length := by
    simp [← whole]
    omega
  rw [putStr, List.append_assoc, List.append_assoc] at whole
  have at0 : payload.drop 0 = _ := whole.symm
  have at1 : payload.drop 2 = _ := drop_next at0 (putU16_length _)
  have at2 := drop_next at1 rfl
  have counted : (UInt16.ofNat (utf8 session).length).toNat = (utf8 session).length :=
    UInt16.toNat_ofNat_of_lt' fits
  simp (disch := omega) only [decodeSetLinger, expectMinLen_of_le, readU16_held at0, counted,
    addUsize_of_lt, guardLen_of_le, slice_held at1 rfl, stringFrom_utf8, readU64_held at2, ok_bind,
    pure_eq_ok]

/-- Decoding a payload of the wire format returns the frame it spells. -/
theorem decodePayload_held {frame : Frame} (layout : Layout payload frame) :
    decodePayload frame.kind payload = .ok frame := by
  have start : payload.drop 0 = payload := rfl
  cases frame with
  | resume offset =>
    obtain ⟨rest, whole⟩ := layout
    have size : 8 ≤ payload.length := by simp [← whole]
    simp only [decodePayload, Frame.kind, PayloadReader.new, expectMinLen_of_le size,
      reader_u64_held bounded (start.trans whole.symm), ok_bind, pure_eq_ok]
  | exit code =>
    obtain ⟨rest, whole⟩ := layout
    have size : 4 ≤ payload.length := by simp [← whole]
    simp only [decodePayload, Frame.kind, PayloadReader.new, expectMinLen_of_le size,
      reader_i32_held bounded (start.trans whole.symm), ok_bind, pure_eq_ok]
  | tunnelListen port =>
    obtain ⟨rest, whole⟩ := layout
    have size : 2 ≤ payload.length := by simp [← whole]
    simp only [decodePayload, Frame.kind, PayloadReader.new, expectMinLen_of_le size,
      reader_u16_held bounded (start.trans whole.symm), ok_bind, pure_eq_ok]
  | resize cols rows =>
    obtain ⟨rest, whole⟩ := layout
    have size : 4 ≤ payload.length := by
      simp [← whole]
      omega
    rw [List.append_assoc] at whole
    have at0 := start.trans whole.symm
    have at1 := drop_next at0 (putU16_length _)
    simp only [decodePayload, Frame.kind, PayloadReader.new, expectMinLen_of_le size,
      reader_u16_held bounded at0, reader_u16_held bounded at1, ok_bind, pure_eq_ok]
  | hello version capabilities deviceId =>
    obtain ⟨input, rest, whole, trailing⟩ := layout
    have length : payload.length = 6 + input.length := by
      simp [whole]
      omega
    have at0 := start.trans whole
    have at1 := drop_next at0 (putU16_length _)
    have at2 := drop_next at1 (putU32_length _)
    have left : (subUsize payload.length (0 + 2 + 4) : Decode Nat) =
        .ok (payload.length - (0 + 2 + 4)) := subUsize_of_le (by omega)
    rcases trailing with split | ⟨short, rfl, _⟩
    · have size : 8 ≤ input.length := by simp [split]
      rw [split] at at2
      simp only [decodePayload, Frame.kind, PayloadReader.new, ge_iff_le,
        expectMinLen_of_le (by omega : 6 ≤ payload.length), reader_u16_held bounded at0,
        reader_u32_held bounded at1, left, if_pos (by omega : 8 ≤ payload.length - (0 + 2 + 4)),
        reader_u64_held bounded at2, ok_bind, pure_eq_ok]
    · simp only [decodePayload, Frame.kind, PayloadReader.new, ge_iff_le,
        expectMinLen_of_le (by omega : 6 ≤ payload.length), reader_u16_held bounded at0,
        reader_u32_held bounded at1, left, if_neg (by omega : ¬ 8 ≤ payload.length - (0 + 2 + 4)),
        ok_bind, pure_eq_ok]
  | helloAck version capabilities serverId =>
    obtain ⟨rest, whole⟩ := layout
    have size : 14 ≤ payload.length := by
      simp [← whole]
      omega
    rw [List.append_assoc, List.append_assoc] at whole
    have at0 := start.trans whole.symm
    have at1 := drop_next at0 (putU16_length _)
    have at2 := drop_next at1 (putU32_length _)
    simp only [decodePayload, Frame.kind, PayloadReader.new, expectMinLen_of_le size,
      reader_u16_held bounded at0, reader_u32_held bounded at1, reader_u64_held bounded at2,
      ok_bind, pure_eq_ok]
  | sendOffer fileCount totalBytes =>
    obtain ⟨rest, whole⟩ := layout
    have size : 12 ≤ payload.length := by
      simp [← whole]
      omega
    rw [List.append_assoc] at whole
    have at0 := start.trans whole.symm
    have at1 := drop_next at0 (putU32_length _)
    simp only [decodePayload, Frame.kind, PayloadReader.new, expectMinLen_of_le size,
      reader_u32_held bounded at0, reader_u64_held bounded at1, ok_bind, pure_eq_ok]
  | portForwardListen forwardId listenPort targetPort =>
    obtain ⟨rest, whole⟩ := layout
    have size : 8 ≤ payload.length := by
      simp [← whole]
      omega
    rw [List.append_assoc, List.append_assoc] at whole
    have at0 := start.trans whole.symm
    have at1 := drop_next at0 (putU32_length _)
    have at2 := drop_next at1 (putU16_length _)
    simp only [decodePayload, Frame.kind, PayloadReader.new, expectMinLen_of_le size,
      reader_u32_held bounded at0, reader_u16_held bounded at1, reader_u16_held bounded at2,
      ok_bind, pure_eq_ok]
  | portForwardOpen forwardId channelId targetPort =>
    obtain ⟨rest, whole⟩ := layout
    have size : 10 ≤ payload.length := by
      simp [← whole]
      omega
    rw [List.append_assoc, List.append_assoc] at whole
    have at0 := start.trans whole.symm
    have at1 := drop_next at0 (putU32_length _)
    have at2 := drop_next at1 (putU32_length _)
    simp only [decodePayload, Frame.kind, PayloadReader.new, expectMinLen_of_le size,
      reader_u32_held bounded at0, reader_u32_held bounded at1, reader_u16_held bounded at2,
      ok_bind, pure_eq_ok]
  | portForwardRequest forwardId direction listenPort targetPort =>
    obtain ⟨rest, whole⟩ := layout
    have size : 9 ≤ payload.length := by
      simp [← whole]
      omega
    simp only [putU8, List.append_assoc, List.cons_append, List.nil_append] at whole
    have at0 := start.trans whole.symm
    have at1 : payload.drop 4 = _ := drop_next at0 (putU32_length _)
    have at2 : payload.drop 5 = _ := drop_tail at1
    have at3 : payload.drop 7 = _ := drop_next at2 (putU16_length _)
    simp only [decodePayload, Frame.kind, expectMinLen_of_le size, readU32_held at0,
      index_held at1, readU16_held at2, readU16_held at3, ok_bind, pure_eq_ok]
  | attachAck token sessionId =>
    obtain ⟨rest, whole⟩ := layout
    have size : 12 ≤ payload.length := by
      simp [← whole]
      omega
    rw [List.append_assoc] at whole
    have at0 := start.trans whole.symm
    have at1 : payload.drop 8 = _ := drop_next at0 (putU64_length _)
    have cut : (slice payload 0 8 : Decode Bytes) = .ok (putU64 token) :=
      slice_held at0 (by rw [putU64_length]) (by omega)
    have cut' : (slice payload 8 12 : Decode Bytes) = .ok (putU32 sessionId) :=
      slice_held at1 (by rw [putU32_length]) size
    simp only [decodePayload, decodeAttachAck, Frame.kind, expectMinLen_of_le size, cut, cut',
      ofNat_putU64, ofNat_putU32, ok_bind, pure_eq_ok]
  | error code message =>
    obtain ⟨number, rfl, whole⟩ := layout
    have size : payload.length = 2 + (utf8 message).length := by simp [whole]
    have at0 := start.trans whole
    have at1 : payload.drop 2 = utf8 message ++ [] := by
      rw [List.append_nil]
      exact drop_next at0 (putU16_length _)
    simp only [decodePayload, decodeError, Frame.kind,
      expectMinLen_of_le (by omega : 2 ≤ payload.length), readU16_held at0,
      slice_held at1 size (Nat.le_refl _), stringFrom_utf8, ok_bind, pure_eq_ok]
  | env vars => exact decodeEnv_held bounded layout
  | sessionInfo sessions => exact decodeSessionInfo_held bounded layout
  | newSession => exact decodeNewSession_held bounded layout
  | attach => exact decodeAttach_held bounded layout
  | renameSession => exact decodeRenameSession_held bounded layout
  | setLinger => exact decodeSetLinger_held bounded layout
  | agentData | tunnelData | portForwardData => exact decodePrefixBlob_held bounded layout
  | agentOpen | agentClose | tunnelOpen | tunnelClose | portForwardReady | portForwardClose
  | portForwardStop | sessionCreated => exact decodeU32_held bounded layout
  | openUrl text | sendCancel text | tail text | killSession text | sendFile text =>
    obtain rfl : payload = utf8 text := layout
    simp only [decodePayload, Frame.kind, stringFrom_utf8, ok_bind, pure_eq_ok]
  | diagResponse text =>
    obtain rfl : text = _ := layout
    unfold decodePayload
    cases fromUtf8 payload <;> rfl
  | data bytes | notice bytes | clipboardSet bytes | clipboardData bytes =>
    obtain rfl : bytes = payload := layout
    rfl
  | detached | serverShutdown | ping | pong | agentForward | openForward | clipboardGet | sendDone
  | listSessions | killServer | ok | diagRequest => rfl

/-- The decoder reads a payload as a frame exactly when the wire format says it is that frame's. -/
theorem decodePayload_eq_ok {kind : FrameType} {frame : Frame} :
    decodePayload kind payload = .ok frame ↔ frame.kind = kind ∧ Layout payload frame := by
  constructor
  · exact (decodePayload_safe bounded kind).value
  · rintro ⟨rfl, layout⟩
    exact decodePayload_held bounded layout

end Payload

end Decode

end Gritty
