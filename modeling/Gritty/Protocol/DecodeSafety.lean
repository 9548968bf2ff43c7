import Gritty.Protocol.Layout

/-! The decoder never reads outside its buffer, never overflows, and accepts only the wire format. -/

namespace Gritty

namespace Decode

open Exec

theorem expectMinLen_safe (payload : Bytes) (min : Nat) (name : String) :
    Safe (expectMinLen payload min name) fun _ => min ≤ payload.length := by
  unfold expectMinLen
  exact Safe.ite (fun _ => Safe.fail) fun enough => Safe.ok (Nat.le_of_not_lt enough)

theorem guardLen_safe (need : Nat) (payload : Bytes) (message : String) :
    Safe (guardLen need payload message) fun _ => need ≤ payload.length := by
  unfold guardLen
  exact Safe.ite (fun _ => Safe.fail) fun enough => Safe.ok (Nat.le_of_not_lt enough)

theorem stringFrom_safe (bytes : Bytes) : Safe (stringFrom bytes) fun text => bytes = utf8 text := by
  unfold stringFrom
  cases spelled : fromUtf8 bytes with
  | some text => exact Safe.ok (utf8_of_fromUtf8 spelled).symm
  | none => exact Safe.fail

/-- The bytes of a read range stand in front of the bytes after it. -/
theorem drop_eq_take_append (payload : Bytes) (offset width : Nat) :
    payload.drop offset = (payload.drop offset).take width ++ payload.drop (offset + width) := by
  rw [← List.drop_drop, List.take_append_drop]

/-- Two bytes that are there are read as the number they spell. -/
theorem readU16_safe {payload : Bytes} {offset : Nat} (within : offset + 2 ≤ payload.length) :
    Safe (readU16 payload offset) fun value =>
      payload.drop offset = putU16 value ++ payload.drop (offset + 2) := by
  rw [readU16, indexes_of_le within]
  refine Safe.ok ?_
  rw [putU16_ofNat (by rw [List.length_take, List.length_drop]; omega)]
  exact drop_eq_take_append payload offset 2

/-- Four bytes that are there are read as the number they spell. -/
theorem readU32_safe {payload : Bytes} {offset : Nat} (within : offset + 4 ≤ payload.length) :
    Safe (readU32 payload offset) fun value =>
      payload.drop offset = putU32 value ++ payload.drop (offset + 4) := by
  rw [readU32, indexes_of_le within]
  refine Safe.ok ?_
  rw [putU32_ofNat (by rw [List.length_take, List.length_drop]; omega)]
  exact drop_eq_take_append payload offset 4

/-- Four bytes that are there are read as the signed number they spell. -/
theorem readI32_safe {payload : Bytes} {offset : Nat} (within : offset + 4 ≤ payload.length) :
    Safe (readI32 payload offset) fun value =>
      payload.drop offset = putI32 value ++ payload.drop (offset + 4) := by
  rw [readI32, indexes_of_le within]
  refine Safe.ok ?_
  rw [putI32_ofNat (by rw [List.length_take, List.length_drop]; omega)]
  exact drop_eq_take_append payload offset 4

/-- Eight bytes that are there are read as the number they spell. -/
theorem readU64_safe {payload : Bytes} {offset : Nat} (within : offset + 8 ≤ payload.length) :
    Safe (readU64 payload offset) fun value =>
      payload.drop offset = putU64 value ++ payload.drop (offset + 8) := by
  rw [readU64, indexes_of_le within]
  refine Safe.ok ?_
  rw [putU64_ofNat (by rw [List.length_take, List.length_drop]; omega)]
  exact drop_eq_take_append payload offset 8

/-- The byte read at a position is the next byte there. -/
theorem index_reads {payload : Bytes} {offset : Nat} (within : offset < payload.length) :
    Safe (index payload offset : Decode UInt8) fun byte =>
      payload.drop offset = byte :: payload.drop (offset + 1) := by
  rw [index_of_lt within]
  exact Safe.ok (List.drop_eq_getElem_cons within)

/-- A slice stands in front of the bytes after it. -/
theorem slice_reads {payload : Bytes} {first past : Nat} (ordered : first ≤ past)
    (within : past ≤ payload.length) :
    Safe (slice payload first past : Decode Bytes) fun part =>
      payload.drop first = part ++ payload.drop past ∧ part.length = past - first := by
  rw [slice_of_le ordered within]
  have size : ((payload.drop first).take (past - first)).length = past - first := by
    rw [List.length_take, List.length_drop]
    omega
  refine Safe.ok ⟨?_, size⟩
  have split := drop_eq_take_append payload first (past - first)
  rwa [Nat.add_sub_cancel' ordered] at split

/-- What a string reader leaves: the field it read, its bound, and the room after it. -/
structure StrRead (payload : Bytes) (off slack : Nat) (read : String × Nat) : Prop where
  held : payload.drop off = putStr read.1 ++ payload.drop read.2
  fits : FitsU16 read.1
  past : off + 2 ≤ read.2
  room : read.2 + slack ≤ payload.length

theorem StrRead.within {payload : Bytes} {off : Nat} {read : String × Nat}
    (done : StrRead payload off 0 read) : read.2 ≤ payload.length := done.room

/-- Payloads stay far below the range of a 64-bit size. -/
theorem maxFrameSize_lt : maxFrameSize < 2 ^ 32 := by decide

section Payload

variable {payload : Bytes} (bounded : payload.length ≤ maxFrameSize)

include bounded

/-- An offset into a payload can be moved by a small step. -/
theorem addOffset_safe {offset step : Nat} (within : offset ≤ payload.length)
    (small : step ≤ 2 ^ 33) :
    Safe (addUsize offset step : Decode Nat) fun sum => sum = offset + step := by
  have := maxFrameSize_lt
  exact addUsize_safe (by omega)

/-- A reader with two bytes before it takes the number they spell. -/
theorem reader_u16_safe {reader : PayloadReader} (owned : reader.data = payload)
    (within : reader.off + 2 ≤ payload.length) :
    Safe reader.u16 fun read =>
      (read.2.data = payload ∧ read.2.off = reader.off + 2) ∧
      payload.drop reader.off = putU16 read.1 ++ payload.drop (reader.off + 2) := by
  subst owned
  refine (readU16_safe within).bind fun value held => ?_
  refine (addOffset_safe bounded (by omega) (by decide)).bind fun off moved => ?_
  exact Safe.ok ⟨⟨rfl, moved⟩, held⟩

/-- A reader with four bytes before it takes the number they spell. -/
theorem reader_u32_safe {reader : PayloadReader} (owned : reader.data = payload)
    (within : reader.off + 4 ≤ payload.length) :
    Safe reader.u32 fun read =>
      (read.2.data = payload ∧ read.2.off = reader.off + 4) ∧
      payload.drop reader.off = putU32 read.1 ++ payload.drop (reader.off + 4) := by
  subst owned
  refine (readU32_safe within).bind fun value held => ?_
  refine (addOffset_safe bounded (by omega) (by decide)).bind fun off moved => ?_
  exact Safe.ok ⟨⟨rfl, moved⟩, held⟩

/-- A reader with four bytes before it takes the signed number they spell. -/
theorem reader_i32_safe {reader : PayloadReader} (owned : reader.data = payload)
    (within : reader.off + 4 ≤ payload.length) :
    Safe reader.i32 fun read =>
      (read.2.data = payload ∧ read.2.off = reader.off + 4) ∧
      payload.drop reader.off = putI32 read.1 ++ payload.drop (reader.off + 4) := by
  subst owned
  refine (readI32_safe within).bind fun value held => ?_
  refine (addOffset_safe bounded (by omega) (by decide)).bind fun off moved => ?_
  exact Safe.ok ⟨⟨rfl, moved⟩, held⟩

/-- A reader with eight bytes before it takes the number they spell. -/
theorem reader_u64_safe {reader : PayloadReader} (owned : reader.data = payload)
    (within : reader.off + 8 ≤ payload.length) :
    Safe reader.u64 fun read =>
      (read.2.data = payload ∧ read.2.off = reader.off + 8) ∧
      payload.drop reader.off = putU64 read.1 ++ payload.drop (reader.off + 8) := by
  subst owned
  refine (readU64_safe within).bind fun value held => ?_
  refine (addOffset_safe bounded (by omega) (by decide)).bind fun off moved => ?_
  exact Safe.ok ⟨⟨rfl, moved⟩, held⟩

/-- A string field is read inside the payload, and leaves the slack the caller asked for. -/
theorem readStr_safe {off slack : Nat} {truncated : String} (within : off + 2 ≤ payload.length)
    (small : slack ≤ 8) :
    Safe (readStr payload off slack truncated) (StrRead payload off slack) := by
  have size := maxFrameSize_lt
  refine (readU16_safe within).bind fun len counted => ?_
  have width : len.toNat < 2 ^ 16 := len.toNat_lt
  refine (addOffset_safe bounded (by omega) (by decide)).bind fun start started => ?_
  refine (addOffset_safe bounded (by omega) (by omega)).bind fun past passed => ?_
  refine (addUsize_safe (by omega)).bind fun need needed => ?_
  refine (guardLen_safe need payload truncated).bind fun _ enough => ?_
  refine (addOffset_safe bounded (by omega) (by omega)).bind fun past' passed' => ?_
  refine (slice_reads (by omega) (by omega)).bind fun part cut => ?_
  refine (stringFrom_safe part).bind fun text spelled => ?_
  refine (addOffset_safe bounded (by omega) (by omega)).bind fun next moved => ?_
  subst started passed' moved
  -- The length field counts exactly the bytes of the text.
  have size : (utf8 text).length = len.toNat := by
    rw [← spelled, cut.2]
    omega
  have fits : FitsU16 text := by
    unfold FitsU16
    omega
  refine Safe.ok ⟨?_, fits, by simp only; omega, by simp only; omega⟩
  rw [counted, cut.1, spelled, putStr, size]
  simp

/-- A frame of one number comes from a payload that begins with the number. -/
theorem decodeU32_safe (name : String) (build : UInt32 → Frame) :
    Safe (decodeU32 payload name build) fun frame =>
      ∃ value, frame = build value ∧ putU32 value <+: payload := by
  refine (expectMinLen_safe payload 4 name).bind fun _ enough => ?_
  refine (reader_u32_safe bounded rfl (by simpa [PayloadReader.new] using enough)).bind
    fun read held => ?_
  exact Safe.ok ⟨read.1, rfl, _, held.2.symm⟩

/-- A frame of a channel and bytes comes from a payload that is exactly these. -/
theorem decodePrefixBlob_safe (name : String) (build : UInt32 → Bytes → Frame) :
    Safe (decodePrefixBlob payload name build) fun frame =>
      ∃ channelId bytes, frame = build channelId bytes ∧ payload = putU32 channelId ++ bytes := by
  refine (expectMinLen_safe payload 4 name).bind fun _ enough => ?_
  refine (reader_u32_safe bounded rfl (by simpa [PayloadReader.new] using enough)).bind
    fun read held => ?_
  have start : read.2.off = 4 := held.1.2
  refine (slice_reads (by omega) (Nat.le_refl _)).bind fun part cut => ?_
  refine Safe.ok ⟨read.1, part, rfl, ?_⟩
  have whole : payload.drop 0 = putU32 read.1 ++ payload.drop 4 := held.2
  have rest := cut.1
  rw [start, List.drop_length, List.append_nil] at rest
  rw [← rest, ← whole, List.drop_zero]

/-! ### The environment frame -/

/-- What the environment loop knows after some turns. -/
def EnvRead (payload : Bytes) (turn : Nat) (state : Nat × List (String × String)) : Prop :=
  state.1 ≤ payload.length ∧ state.2.length = turn ∧
    EnvLayout (payload.drop 4) state.2 (payload.drop state.1)

/-- A turn of the environment loop stays inside the payload and takes at least four bytes. -/
theorem envEntry_safe (state : Nat × List (String × String)) (within : state.1 ≤ payload.length) :
    Safe (envEntry payload state) fun next =>
      (next.1 ≤ payload.length ∧ state.1 + 4 ≤ next.1) ∧
      ∃ key value, next.2 = state.2 ++ [(key, value)] ∧ (FitsU16 key ∧ FitsU16 value) ∧
        payload.drop state.1 = putStr key ++ (putStr value ++ payload.drop next.1) := by
  obtain ⟨off, vars⟩ := state
  refine (addOffset_safe bounded within (by decide)).bind fun need needed => ?_
  refine (guardLen_safe need payload _).bind fun _ enough => ?_
  refine (readStr_safe bounded (by omega) (by decide)).bind fun key after => ?_
  refine (readStr_safe bounded after.room (by decide)).bind fun value last => ?_
  refine Safe.ok ⟨⟨by simpa using last.room, ?_⟩, key.1, value.1, rfl, ⟨after.fits, last.fits⟩, ?_⟩
  · have := after.past
    have := last.past
    simp only at *
    omega
  · rw [after.held, last.held]

/-- A turn of the environment loop adds one variable to those already read. -/
theorem envEntry_read (turn : Nat) (state : Nat × List (String × String))
    (before : EnvRead payload turn state) :
    Safe (envEntry payload state) (EnvRead payload (turn + 1)) := by
  obtain ⟨within, counted, layout⟩ := before
  refine (envEntry_safe bounded state within).mono ?_
  rintro ⟨off, vars⟩ ⟨⟨inside, _⟩, key, value, added, fits, held⟩
  subst added
  exact ⟨inside, by rw [List.length_append, counted]; rfl, layout.snoc fits held⟩

/-- An environment is decoded without a fault, and is laid out in the payload. -/
theorem decodeEnv_safe :
    Safe (decodeEnv payload) fun frame => frame.kind = .env ∧ Layout payload frame := by
  unfold decodeEnv
  refine Safe.ite (fun _ => Safe.fail) fun enough => ?_
  refine (readU32_safe (by omega)).bind fun count counted => ?_
  have start : EnvRead payload 0 (4, []) := ⟨by simpa using enough, rfl, rfl⟩
  refine (repeatM_safe (envEntry_read bounded) count.toNat 0 (4, []) start).bind ?_
  rintro ⟨off, vars⟩ ⟨_, turns, layout⟩
  have turns : vars.length = count.toNat := by simpa using turns
  refine Safe.ok ⟨rfl, turns ▸ count.toNat_lt, payload.drop 4, payload.drop off, ?_, layout⟩
  rw [turns]
  simpa using counted

/-! ### The session info frame -/

/-- A text of an entry is read within the entry, or refused. -/
theorem readEntryStr_safe {eoff : Nat} (within : eoff ≤ payload.length) :
    Safe (readEntryStr payload eoff) (StrRead payload eoff 0) := by
  refine (addOffset_safe bounded within (by decide)).bind fun need needed => ?_
  refine (guardLen_safe need payload _).bind fun _ enough => ?_
  exact readStr_safe bounded (by omega) (by decide)

/-- The flag at the end of an entry is read within the entry. -/
theorem trailingFlag_safe {eoff : Nat} (within : eoff ≤ payload.length) :
    Safe (trailingFlag payload eoff) fun read =>
      read.2 ≤ payload.length ∧
        TrailingFlag (payload.drop eoff) read.1 (payload.drop read.2) := by
  unfold trailingFlag
  refine Safe.ite (fun more => ?_) fun none_ => ?_
  · refine (index_reads more).bind fun byte held => ?_
    refine (addOffset_safe bounded within (by decide)).bind fun next moved => ?_
    subst moved
    exact Safe.ok ⟨more, Or.inl ⟨byte, held, rfl⟩⟩
  · have ended : payload.drop eoff = [] := List.drop_eq_nil_of_le (Nat.le_of_not_lt none_)
    exact Safe.ok ⟨within, Or.inr ⟨ended, rfl, ended⟩⟩

/-- The number at the end of an entry is read within the entry. -/
theorem trailingU64_safe {eoff : Nat} (within : eoff ≤ payload.length) :
    Safe (trailingU64 payload eoff) fun read =>
      read.2 ≤ payload.length ∧
        TrailingU64 (payload.drop eoff) read.1 (payload.drop read.2) := by
  refine (addOffset_safe bounded within (by decide)).bind fun need needed => ?_
  refine Safe.ite (fun enough => ?_) fun short => ?_
  · refine (readU64_safe (by omega)).bind fun value held => ?_
    refine (addOffset_safe bounded within (by decide)).bind fun next moved => ?_
    subst moved needed
    exact Safe.ok ⟨enough, Or.inl held⟩
  · have few : (payload.drop eoff).length < 8 := by
      rw [List.length_drop]
      omega
    exact Safe.ok ⟨within, Or.inr ⟨few, rfl, rfl⟩⟩

/-- An entry is decoded without a fault, and is laid out in its bytes. -/
theorem sessionEntry_safe : Safe (sessionEntry payload) (EntryLayout payload) := by
  unfold sessionEntry
  refine Safe.ite (fun _ => Safe.fail) fun enough => ?_
  refine (readU32_safe (by omega)).bind fun id identified => ?_
  refine (addOffset_safe bounded (Nat.zero_le _) (by decide)).bind fun eoff first => ?_
  refine (readEntryStr_safe bounded (by omega)).bind fun name named => ?_
  refine (readEntryStr_safe bounded named.within).bind fun ptyPath pathed => ?_
  have located := pathed.within
  refine (addOffset_safe bounded located (by decide)).bind fun need needed => ?_
  refine (guardLen_safe need payload _).bind fun _ fixed => ?_
  -- The four fixed fields take exactly the twenty-one bytes the guard found.
  refine (readU32_safe (by omega)).bind fun shellPid shelled => ?_
  refine (addOffset_safe bounded (by omega) (by decide)).bind fun afterPid second => ?_
  refine (readU64_safe (by omega)).bind fun createdAt created => ?_
  refine (addOffset_safe bounded (by omega) (by decide)).bind fun afterCreated third => ?_
  refine (index_reads (by omega)).bind fun attached flagged => ?_
  refine (addOffset_safe bounded (by omega) (by decide)).bind fun afterFlag fourth => ?_
  refine (readU64_safe (by omega)).bind fun lastHeartbeat beaten => ?_
  refine (addOffset_safe bounded (by omega) (by decide)).bind fun afterBeat fifth => ?_
  refine (readEntryStr_safe bounded (by omega)).bind fun foregroundCmd commanded => ?_
  refine (readEntryStr_safe bounded commanded.within).bind fun cwd placed => ?_
  refine (readEntryStr_safe bounded placed.within).bind fun clientName owned => ?_
  -- Each trailing field is read only when the entry still holds it.
  refine (trailingFlag_safe bounded owned.within).bind fun agent agented => ?_
  refine (trailingFlag_safe bounded agented.1).bind fun last lasted => ?_
  refine (trailingU64_safe bounded lasted.1).bind fun activity active => ?_
  refine (trailingU64_safe bounded active.1).bind fun linger lingered => ?_
  subst first second third fourth fifth
  refine Safe.ok ⟨⟨named.fits, pathed.fits, commanded.fits, placed.fits, owned.fits⟩, _, _, _, _, _,
    _, _, ?_, ⟨attached, flagged, rfl⟩, ?_, agented.2, lasted.2, active.2, lingered.2⟩
  · have start : payload = putU32 id ++ payload.drop 4 := by simpa using identified
    rw [← created, ← shelled, ← pathed.held, ← named.held]
    exact start
  · rw [← owned.held, ← placed.held, ← commanded.held]
    exact beaten

/-- What the session loop knows after some turns. -/
def SessionsRead (payload : Bytes) (turn : Nat) (state : Nat × List SessionEntry) : Prop :=
  state.1 ≤ payload.length ∧ state.2.length = turn ∧
    EntriesLayout (payload.drop 4) state.2 (payload.drop state.1)

/-- A turn of the session loop stays inside the payload and takes at least four bytes. -/
theorem sessionInfoEntry_safe (state : Nat × List SessionEntry)
    (within : state.1 ≤ payload.length) :
    Safe (sessionInfoEntry payload state) fun next =>
      (next.1 ≤ payload.length ∧ state.1 + 4 ≤ next.1) ∧
      ∃ (bytes : Bytes) (entry : SessionEntry), next.2 = state.2 ++ [entry] ∧
        bytes.length < 2 ^ 32 ∧ EntryLayout bytes entry ∧
        payload.drop state.1 =
          putU32 (UInt32.ofNat bytes.length) ++ (bytes ++ payload.drop next.1) := by
  obtain ⟨off, sessions⟩ := state
  have size := maxFrameSize_lt
  refine (addOffset_safe bounded within (by decide)).bind fun need needed => ?_
  refine (guardLen_safe need payload _).bind fun _ enough => ?_
  refine (readU32_safe (by omega)).bind fun entryLen counted => ?_
  have width : entryLen.toNat < 2 ^ 32 := entryLen.toNat_lt
  refine (addOffset_safe bounded within (by decide)).bind fun start started => ?_
  refine (addOffset_safe bounded (by omega) (by omega)).bind fun past passed => ?_
  refine (guardLen_safe past payload _).bind fun _ inside => ?_
  refine (addOffset_safe bounded (by omega) (by omega)).bind fun entryEnd ended => ?_
  refine (slice_reads (by omega) (by omega)).bind fun bytes cut => ?_
  have short : bytes.length ≤ maxFrameSize := by omega
  refine (sessionEntry_safe short).bind fun session layout => ?_
  subst started ended
  refine Safe.ok ⟨⟨show off + 4 + entryLen.toNat ≤ payload.length by omega,
    show off + 4 ≤ off + 4 + entryLen.toNat by omega⟩, bytes, session, rfl, by omega, layout, ?_⟩
  have length : bytes.length = entryLen.toNat := by omega
  rw [length, UInt32.ofNat_toNat, ← cut.1]
  exact counted

/-- A turn of the session loop adds one entry to those already read. -/
theorem sessionInfoEntry_read (turn : Nat) (state : Nat × List SessionEntry)
    (before : SessionsRead payload turn state) :
    Safe (sessionInfoEntry payload state) (SessionsRead payload (turn + 1)) := by
  obtain ⟨within, counted, layout⟩ := before
  refine (sessionInfoEntry_safe bounded state within).mono ?_
  rintro ⟨off, sessions⟩ ⟨⟨inside, _⟩, bytes, entry, added, small, shape, held⟩
  subst added
  exact ⟨inside, by rw [List.length_append, counted]; rfl, layout.snoc small held shape⟩

/-- A list of sessions is decoded without a fault, and is laid out in the payload. -/
theorem decodeSessionInfo_safe :
    Safe (decodeSessionInfo payload) fun frame =>
      frame.kind = .sessionInfo ∧ Layout payload frame := by
  unfold decodeSessionInfo
  refine Safe.ite (fun _ => Safe.fail) fun enough => ?_
  refine (readU32_safe (by omega)).bind fun count counted => ?_
  have start : SessionsRead payload 0 (4, []) := ⟨by simpa using enough, rfl, rfl⟩
  refine (repeatM_safe (sessionInfoEntry_read bounded) count.toNat 0 (4, []) start).bind ?_
  rintro ⟨off, sessions⟩ ⟨_, turns, layout⟩
  have turns : sessions.length = count.toNat := by simpa using turns
  refine Safe.ok ⟨rfl, turns ▸ count.toNat_lt, payload.drop 4, payload.drop off, ?_, layout⟩
  rw [turns]
  simpa using counted

/-! ### Structured frames -/

/-- The client's name is read within the payload, or taken as empty. -/
theorem newSessionClientName_safe {off : Nat} (within : off ≤ payload.length) :
    Safe (newSessionClientName payload off) fun read =>
      read.2 ≤ payload.length ∧
        TrailingStr (payload.drop off) read.1 (payload.drop read.2) := by
  refine (addOffset_safe bounded within (by decide)).bind fun need needed => ?_
  refine Safe.ite (fun enough => ?_) fun short => ?_
  · refine (readStr_safe bounded (by omega) (by decide)).mono fun read after => ?_
    exact ⟨by simpa using after.room, Or.inl ⟨after.fits, after.held⟩⟩
  · have few : (payload.drop off).length < 2 := by
      rw [List.length_drop]
      omega
    exact Safe.ok ⟨within, Or.inr ⟨few, rfl, rfl⟩⟩

/-- The number at the end is read within the payload, or taken as zero. -/
theorem u64OrZero_safe {off : Nat} (within : off ≤ payload.length) :
    Safe (u64OrZero payload off readU64) fun value =>
      ∃ rest, TrailingU64 (payload.drop off) value rest := by
  refine (addOffset_safe bounded within (by decide)).bind fun need needed => ?_
  refine Safe.ite (fun more => ?_) fun short => ?_
  · exact (readU64_safe (by omega)).mono fun value held => ⟨_, Or.inl held⟩
  · have few : (payload.drop off).length < 8 := by
      rw [List.length_drop]
      omega
    exact Safe.ok ⟨_, Or.inr ⟨few, rfl, rfl⟩⟩

/-- A request for a new session is decoded without a fault, and is laid out in the payload. -/
theorem decodeNewSession_safe :
    Safe (decodeNewSession payload) fun frame =>
      frame.kind = .newSession ∧ Layout payload frame := by
  refine (expectMinLen_safe payload 12 _).bind fun _ enough => ?_
  refine (readStr_safe bounded (by omega) (by decide)).bind fun name named => ?_
  refine (readStr_safe bounded named.room (by decide)).bind fun command commanded => ?_
  have room := commanded.room
  refine (readStr_safe bounded room (by decide)).bind fun cwd placed => ?_
  have room := placed.room
  refine (readU16_safe (by omega)).bind fun cols held => ?_
  refine (addOffset_safe bounded (by omega) (by decide)).bind fun afterCols first => ?_
  refine (readU16_safe (by omega)).bind fun rows held' => ?_
  refine (addOffset_safe bounded (by omega) (by decide)).bind fun afterRows second => ?_
  refine (newSessionClientName_safe bounded (by omega)).bind fun client after => ?_
  refine (u64OrZero_safe bounded after.1).bind fun linger ⟨rest, lingered⟩ => ?_
  subst first second
  refine Safe.ok ⟨rfl, enough, ⟨named.fits, commanded.fits, placed.fits⟩, _, _, rest, ?_, after.2,
    lingered⟩
  rw [← held', ← held, ← placed.held, ← commanded.held, ← named.held, List.drop_zero]

omit bounded in
/-- An offset past the end is never read: the optional field is then zero. -/
theorem u16OrZero_safe {off place : Nat} (small : off + place < 2 ^ 33) :
    Safe (u16OrZero payload (off + place)) (FixedU16 (payload.drop off) place) := by
  refine (addUsize_safe (by omega)).bind fun need needed => ?_
  refine Safe.ite (fun more => ?_) fun short => ?_
  · refine (readU16_safe (by omega)).mono fun value held => Or.inl ?_
    rw [List.drop_drop, held]
    exact List.prefix_append ..
  · refine Safe.ok (Or.inr ⟨?_, rfl⟩)
    rw [List.length_drop]
    omega

omit bounded in
/-- A slice of eight bytes that are there gives the number they spell. -/
theorem sliceU64_safe {off : Nat} (within : off + 8 ≤ payload.length) (small : off < 2 ^ 33) :
    Safe (sliceU64 payload off) fun value =>
      payload.drop off = putU64 value ++ payload.drop (off + 8) := by
  refine (addUsize_safe (by omega)).bind fun past passed => ?_
  refine (slice_reads (by omega) (by omega)).bind fun part cut => ?_
  subst passed
  refine Safe.ok ?_
  rw [putU64_ofNat (by omega)]
  exact cut.1

omit bounded in
/-- A number at its fixed place is read within the payload, or taken as zero. -/
theorem sliceU64OrZero_safe {off place : Nat} (small : off + place < 2 ^ 33) :
    Safe (u64OrZero payload (off + place) sliceU64) (FixedU64 (payload.drop off) place) := by
  refine (addUsize_safe (by omega)).bind fun need needed => ?_
  refine Safe.ite (fun more => ?_) fun short => ?_
  · refine (sliceU64_safe (by omega) small).mono fun value held => Or.inl ?_
    rw [List.drop_drop, held]
    exact List.prefix_append ..
  · refine Safe.ok (Or.inr ⟨?_, rfl⟩)
    rw [List.length_drop]
    omega

omit bounded in
theorem flagOrUnset_fixed (off place : Nat) :
    FixedFlag (payload.drop off) place (flagOrUnset payload (off + place)) := by
  rw [FixedFlag, flagOrUnset, List.getElem?_drop]

/-- An attach is decoded without a fault, and is laid out in the payload. -/
theorem decodeAttach_safe :
    Safe (decodeAttach payload) fun frame => frame.kind = .attach ∧ Layout payload frame := by
  have size := maxFrameSize_lt
  refine (expectMinLen_safe payload 5 _).bind fun _ enough => ?_
  refine (readStr_safe bounded (by omega) (by decide)).bind fun session named => ?_
  refine (readStr_safe bounded named.room (by decide)).bind fun client owned => ?_
  have room := owned.room
  refine (index_reads (by omega)).bind fun force flagged => ?_
  -- From here on the offset moves past the end without being read there.
  refine (addUsize_safe (by omega)).bind fun off moved => ?_
  refine (addUsize_safe (by omega)).bind fun afterReplay first => ?_
  subst first
  refine (u16OrZero_safe (by omega)).bind fun cols sized => ?_
  refine (addUsize_safe (by omega)).bind fun afterCols second => ?_
  obtain rfl : afterCols = off + 3 := second
  refine (u16OrZero_safe (by omega)).bind fun rows sized' => ?_
  refine (addUsize_safe (by omega)).bind fun afterRows third => ?_
  obtain rfl : afterRows = off + 5 := third
  refine (sliceU64OrZero_safe (by omega)).bind fun token known => ?_
  refine (addUsize_safe (by omega)).bind fun afterToken fourth => ?_
  obtain rfl : afterToken = off + 13 := fourth
  refine (sliceU64OrZero_safe (by omega)).bind fun offset rendered => ?_
  refine (addUsize_safe (by omega)).bind fun afterOffset fifth => ?_
  obtain rfl : afterOffset = off + 21 := fifth
  subst moved
  refine Safe.ok ⟨rfl, ⟨named.fits, owned.fits⟩, _, _, ?_, ⟨force, flagged, rfl⟩,
    flagOrUnset_fixed _ 0, sized, sized', known, rendered, flagOrUnset_fixed _ 21⟩
  rw [← owned.held, ← named.held, List.drop_zero]

omit bounded in
/-- A rename is decoded without a fault, and is laid out in the payload. -/
theorem decodeRenameSession_safe :
    Safe (decodeRenameSession payload) fun frame =>
      frame.kind = .renameSession ∧ Layout payload frame := by
  unfold decodeRenameSession
  refine Safe.ite (fun _ => Safe.fail) fun enough => ?_
  refine (readU16_safe (by omega)).bind fun len counted => ?_
  have width : len.toNat < 2 ^ 16 := len.toNat_lt
  refine (addUsize_safe (by omega)).bind fun past passed => ?_
  refine (guardLen_safe past payload _).bind fun _ inside => ?_
  refine (slice_reads (by omega) inside).bind fun front cut => ?_
  refine (stringFrom_safe front).bind fun session spelled => ?_
  refine (slice_reads inside (Nat.le_refl _)).bind fun back cut' => ?_
  refine (stringFrom_safe back).bind fun newName spelled' => ?_
  have size : (utf8 session).length = len.toNat := by
    rw [← spelled, cut.2]
    omega
  refine Safe.ok ⟨rfl, by unfold FitsU16; omega, ?_⟩
  rw [putStr, size, UInt16.ofNat_toNat, ← spelled, ← spelled', List.append_assoc]
  have last : payload.drop past = back := by simpa using cut'.1
  rw [← last, ← cut.1, ← counted, List.drop_zero]

omit bounded in
/-- A change of the lingering is decoded without a fault, and is laid out in the payload. -/
theorem decodeSetLinger_safe :
    Safe (decodeSetLinger payload) fun frame =>
      frame.kind = .setLinger ∧ Layout payload frame := by
  refine (expectMinLen_safe payload 10 _).bind fun _ enough => ?_
  refine (readU16_safe (by omega)).bind fun len counted => ?_
  have width : len.toNat < 2 ^ 16 := len.toNat_lt
  refine (addUsize_safe (by omega)).bind fun past passed => ?_
  refine (addUsize_safe (by omega)).bind fun need needed => ?_
  refine (guardLen_safe need payload _).bind fun _ inside => ?_
  refine (slice_reads (by omega) (by omega)).bind fun front cut => ?_
  refine (stringFrom_safe front).bind fun session spelled => ?_
  refine (readU64_safe (by omega)).bind fun linger held => ?_
  have size : (utf8 session).length = len.toNat := by
    rw [← spelled, cut.2]
    omega
  refine Safe.ok ⟨rfl, by unfold FitsU16; omega, payload.drop (past + 8), ?_⟩
  rw [putStr, size, UInt16.ofNat_toNat, ← spelled, List.append_assoc, List.append_assoc, ← held,
    ← cut.1, ← counted, List.drop_zero]

/-- A decoded payload is a payload of the decoded frame, and decoding it never panics. -/
theorem decodePayload_safe (kind : FrameType) :
    Safe (decodePayload kind payload) fun frame => frame.kind = kind ∧ Layout payload frame := by
  have start : (PayloadReader.new payload).off = 0 := rfl
  cases kind with
  | resume =>
    refine (expectMinLen_safe payload 8 _).bind fun _ enough => ?_
    exact (reader_u64_safe bounded rfl (by omega)).bind fun _ held => Safe.ok ⟨rfl, _, held.2.symm⟩
  | resize =>
    refine (expectMinLen_safe payload 4 _).bind fun _ enough => ?_
    refine (reader_u16_safe bounded rfl (by omega)).bind fun cols after => ?_
    have next := after.1.2
    refine (reader_u16_safe bounded after.1.1 (by omega)).bind fun rows last => ?_
    refine Safe.ok ⟨rfl, payload.drop 4, ?_⟩
    have held := last.2
    rw [next, start] at held
    rw [List.append_assoc, ← held]
    exact after.2.symm
  | exit =>
    refine (expectMinLen_safe payload 4 _).bind fun _ enough => ?_
    exact (reader_i32_safe bounded rfl (by omega)).bind fun _ held => Safe.ok ⟨rfl, _, held.2.symm⟩
  | hello =>
    refine (expectMinLen_safe payload 6 _).bind fun _ enough => ?_
    refine (reader_u16_safe bounded rfl (by omega)).bind fun version after => ?_
    have next := after.1.2
    refine (reader_u32_safe bounded after.1.1 (by omega)).bind fun capabilities last => ?_
    have held := last.2
    rw [next, start] at held
    have front : payload = putU16 version.1 ++ (putU32 capabilities.1 ++ payload.drop 6) := by
      rw [← held]
      exact after.2
    refine (subUsize_safe (by omega)).bind fun left remaining => ?_
    refine Safe.ite (fun more => ?_) fun short => ?_
    · refine (reader_u64_safe bounded last.1.1 (by omega)).bind fun id tail => ?_
      have ended := tail.2
      rw [last.1.2, next, start] at ended
      exact Safe.ok ⟨rfl, _, _, front, Or.inl ended⟩
    · refine Safe.ok ⟨rfl, _, _, front, Or.inr ⟨?_, rfl, rfl⟩⟩
      rw [List.length_drop]
      omega
  | helloAck =>
    refine (expectMinLen_safe payload 14 _).bind fun _ enough => ?_
    refine (reader_u16_safe bounded rfl (by omega)).bind fun version after => ?_
    have next := after.1.2
    refine (reader_u32_safe bounded after.1.1 (by omega)).bind fun capabilities last => ?_
    have next' := last.1.2
    refine (reader_u64_safe bounded last.1.1 (by omega)).bind fun id tail => ?_
    have held := last.2
    have held' := tail.2
    rw [next', next, start] at held'
    rw [next, start] at held
    refine Safe.ok ⟨rfl, payload.drop 14, ?_⟩
    rw [List.append_assoc, List.append_assoc, ← held', ← held]
    exact after.2.symm
  | tunnelListen =>
    refine (expectMinLen_safe payload 2 _).bind fun _ enough => ?_
    exact (reader_u16_safe bounded rfl (by omega)).bind fun _ held => Safe.ok ⟨rfl, _, held.2.symm⟩
  | sendOffer =>
    refine (expectMinLen_safe payload 12 _).bind fun _ enough => ?_
    refine (reader_u32_safe bounded rfl (by omega)).bind fun count after => ?_
    have next := after.1.2
    refine (reader_u64_safe bounded after.1.1 (by omega)).bind fun total last => ?_
    have held := last.2
    rw [next, start] at held
    refine Safe.ok ⟨rfl, payload.drop 12, ?_⟩
    rw [List.append_assoc, ← held]
    exact after.2.symm
  | portForwardListen =>
    refine (expectMinLen_safe payload 8 _).bind fun _ enough => ?_
    refine (reader_u32_safe bounded rfl (by omega)).bind fun forward after => ?_
    have next := after.1.2
    refine (reader_u16_safe bounded after.1.1 (by omega)).bind fun listen last => ?_
    have next' := last.1.2
    refine (reader_u16_safe bounded last.1.1 (by omega)).bind fun target tail => ?_
    have held := last.2
    have held' := tail.2
    rw [next', next, start] at held'
    rw [next, start] at held
    refine Safe.ok ⟨rfl, payload.drop 8, ?_⟩
    rw [List.append_assoc, List.append_assoc, ← held', ← held]
    exact after.2.symm
  | portForwardOpen =>
    refine (expectMinLen_safe payload 10 _).bind fun _ enough => ?_
    refine (reader_u32_safe bounded rfl (by omega)).bind fun forward after => ?_
    have next := after.1.2
    refine (reader_u32_safe bounded after.1.1 (by omega)).bind fun channel last => ?_
    have next' := last.1.2
    refine (reader_u16_safe bounded last.1.1 (by omega)).bind fun target tail => ?_
    have held := last.2
    have held' := tail.2
    rw [next', next, start] at held'
    rw [next, start] at held
    refine Safe.ok ⟨rfl, payload.drop 10, ?_⟩
    rw [List.append_assoc, List.append_assoc, ← held', ← held]
    exact after.2.symm
  | portForwardRequest =>
    refine (expectMinLen_safe payload 9 _).bind fun _ enough => ?_
    refine (readU32_safe (by omega)).bind fun forward heldForward => ?_
    refine (index_reads (by omega)).bind fun direction heldDirection => ?_
    refine (readU16_safe (by omega)).bind fun listen heldListen => ?_
    refine (readU16_safe (by omega)).bind fun target heldTarget => ?_
    refine Safe.ok ⟨rfl, payload.drop 9, ?_⟩
    simp only [putU8, List.append_assoc, List.cons_append, List.nil_append]
    rw [← heldTarget, ← heldListen, ← heldDirection, ← heldForward, List.drop_zero]
  | attachAck =>
    refine (expectMinLen_safe payload 12 _).bind fun _ enough => ?_
    refine (slice_reads (by decide) (by omega)).bind fun token cut => ?_
    refine (slice_reads (by decide) enough).bind fun id cut' => ?_
    refine Safe.ok ⟨rfl, payload.drop 12, ?_⟩
    rw [putU64_ofNat (by omega), putU32_ofNat (by omega), List.append_assoc, ← cut'.1, ← cut.1,
      List.drop_zero]
  | error =>
    refine (expectMinLen_safe payload 2 _).bind fun _ enough => ?_
    refine (readU16_safe (by omega)).bind fun code held => ?_
    refine (slice_reads enough (Nat.le_refl _)).bind fun rest cut => ?_
    refine (stringFrom_safe rest).bind fun message spelled => ?_
    have last : payload.drop 2 = rest := by simpa using cut.1
    refine Safe.ok ⟨rfl, code, rfl, ?_⟩
    rw [← spelled, ← last, ← held, List.drop_zero]
  | env => exact decodeEnv_safe bounded
  | sessionInfo => exact decodeSessionInfo_safe bounded
  | newSession => exact decodeNewSession_safe bounded
  | attach => exact decodeAttach_safe bounded
  | renameSession => exact decodeRenameSession_safe
  | setLinger => exact decodeSetLinger_safe
  | agentData | tunnelData | portForwardData =>
    refine (decodePrefixBlob_safe bounded _ _).mono ?_
    rintro _ ⟨channelId, bytes, rfl, held⟩
    exact ⟨rfl, held⟩
  | agentOpen | agentClose | tunnelOpen | tunnelClose | portForwardReady | portForwardClose
  | portForwardStop | sessionCreated =>
    refine (decodeU32_safe bounded _ _).mono ?_
    rintro _ ⟨value, rfl, held⟩
    exact ⟨rfl, held⟩
  | openUrl | sendCancel | tail | killSession | sendFile =>
    exact (stringFrom_safe payload).bind fun _ spelled => Safe.ok ⟨rfl, spelled⟩
  | diagResponse =>
    unfold decodePayload
    cases spelled : fromUtf8 payload with
    | some text => exact Safe.ok ⟨rfl, by rw [Layout, spelled]; rfl⟩
    | none => exact Safe.ok ⟨rfl, by rw [Layout, spelled]; rfl⟩
  | data | notice | clipboardSet | clipboardData => exact Safe.ok ⟨rfl, rfl⟩
  | detached | serverShutdown | ping | pong | agentForward | openForward | clipboardGet | sendDone
  | listSessions | killServer | ok | diagRequest => exact Safe.ok ⟨rfl, trivial⟩

end Payload

end Decode

end Gritty
