import Gritty.Protocol.DecodeLayout
import Gritty.Protocol.Stream

/-! Encoding a frame the wire can carry, and decoding it back, alone or at the front of a stream. -/

namespace Gritty

open Exec Decode

/-- The strings of a frame that travel behind a 16-bit length. -/
def Frame.prefixedStrings : Frame → List String
  | .renameSession session _ => [session]
  | .setLinger session _ => [session]
  | .newSession name command cwd _ _ clientName _ => [name, command, cwd, clientName]
  | .attach session clientName .. => [session, clientName]
  | .env vars => vars.flatMap fun (key, value) => [key, value]
  | .sessionInfo sessions => sessions.flatMap fun entry =>
    [entry.name, entry.ptyPath, entry.foregroundCmd, entry.cwd, entry.clientName]
  | _ => []

/--
The frames the wire can carry.

A payload within the limit leaves no room for a count or an entry length that does not fit its field.
-/
structure Frame.InRange (frame : Frame) : Prop where
  strings : ∀ text ∈ frame.prefixedStrings, (utf8 text).length ≤ 65535
  size : frame.payload.length ≤ maxFrameSize
  code : ∀ number message, frame = .error (.unknown number) message → number = 0 ∨ 8 < number

theorem fitsU16_iff {text : String} : FitsU16 text ↔ (utf8 text).length ≤ 65535 := by
  unfold FitsU16
  omega

/-- A written flag is a flag field. -/
theorem flagField_putBool (flag : Bool) (rest : Bytes) : FlagField (putBool flag ++ rest) flag rest := by
  cases flag with
  | true => exact ⟨1, rfl, rfl⟩
  | false => exact ⟨0, rfl, rfl⟩

/-- Encoded variables are laid out one after the other. -/
theorem envLayout_encode {vars : List (String × String)}
    (fits : ∀ pair ∈ vars, FitsU16 pair.1 ∧ FitsU16 pair.2) :
    EnvLayout (vars.flatMap fun (key, value) => putStr key ++ putStr value) vars [] := by
  induction vars with
  | nil => rfl
  | cons pair vars ih =>
    refine ⟨_, fits pair (List.mem_cons_self ..), ?_,
      ih fun other inside => fits other (List.mem_cons_of_mem _ inside)⟩
    rw [List.flatMap_cons, List.append_assoc]

/-- The five strings of a session entry fit their length fields. -/
def EntryFits (entry : SessionEntry) : Prop :=
  FitsU16 entry.name ∧ FitsU16 entry.ptyPath ∧ FitsU16 entry.foregroundCmd ∧ FitsU16 entry.cwd ∧
    FitsU16 entry.clientName

/-- An encoded session entry is its length and a laid out entry. -/
theorem entryLayout_encode {entry : SessionEntry} (fits : EntryFits entry) :
    ∃ bytes, encodeSessionEntry entry = putU32 (UInt32.ofNat bytes.length) ++ bytes ∧
      EntryLayout bytes entry := by
  have split := encodeSessionEntry_length entry
  unfold encodeSessionEntry at split ⊢
  rw [List.length_append, putU32_length] at split
  refine ⟨_, by rw [Nat.add_left_cancel split], fits, _, _, _, _, _, _, [], ?_,
    flagField_putBool entry.attached _, rfl, Or.inl (flagField_putBool entry.agentForwardingActive _),
    Or.inl (flagField_putBool entry.isLastAttached _), Or.inl rfl,
    Or.inl (List.append_nil _).symm⟩
  simp only [List.append_assoc]

/-- Encoded session entries are laid out one after the other. -/
theorem entriesLayout_encode {sessions : List SessionEntry}
    (fits : ∀ entry ∈ sessions, EntryFits entry)
    (small : (sessions.flatMap encodeSessionEntry).length < 2 ^ 32) :
    EntriesLayout (sessions.flatMap encodeSessionEntry) sessions [] := by
  induction sessions with
  | nil => rfl
  | cons entry sessions ih =>
    obtain ⟨bytes, whole, layout⟩ := entryLayout_encode (fits entry (List.mem_cons_self ..))
    rw [List.flatMap_cons, List.length_append] at small
    have inside : bytes.length < 2 ^ 32 := by
      rw [whole, List.length_append] at small
      omega
    refine ⟨bytes, _, inside, ?_, layout,
      ih (fun other inside => fits other (List.mem_cons_of_mem _ inside)) (by omega)⟩
    rw [List.flatMap_cons, whole, List.append_assoc]

/-- Variables and entries take at least one byte each, so their number is below the payload length. -/
theorem length_le_flatMap {α : Type} {items : List α} {encode : α → Bytes}
    (some_ : ∀ item, 0 < (encode item).length) : items.length ≤ (items.flatMap encode).length := by
  induction items with
  | nil => exact Nat.le_refl _
  | cons item items ih =>
    have first := some_ item
    rw [List.flatMap_cons, List.length_append, List.length_cons]
    omega

/-- A frame the wire can carry is written as one of its payloads. -/
theorem layout_payload {frame : Frame} (inRange : frame.InRange) : Layout frame.payload frame := by
  have size := maxFrameSize_lt
  have bounded := inRange.size
  have strings : ∀ text ∈ frame.prefixedStrings, FitsU16 text :=
    fun text inside => fitsU16_iff.mpr (inRange.strings text inside)
  cases frame with
  | hello version capabilities deviceId =>
    refine ⟨putU64 deviceId, [], ?_, Or.inl (List.append_nil _).symm⟩
    simp only [Frame.payload, List.append_assoc]
  | renameSession session newName => exact ⟨strings session (by simp [Frame.prefixedStrings]), rfl⟩
  | setLinger session lingerSecs =>
    exact ⟨strings session (by simp [Frame.prefixedStrings]), List.prefix_refl _⟩
  | newSession name command cwd cols rows clientName lingerSecs =>
    simp only [Frame.prefixedStrings, List.forall_mem_cons] at strings
    obtain ⟨nameFits, commandFits, cwdFits, clientFits, _⟩ := strings
    refine ⟨?_, ⟨nameFits, commandFits, cwdFits⟩, putStr clientName ++ putU64 lingerSecs,
      putU64 lingerSecs, [], ?_, Or.inl ⟨clientFits, rfl⟩, Or.inl (List.append_nil _).symm⟩
    · simp only [Frame.payload, List.length_append, putStr_length, putU16_length, putU64_length]
      omega
    · simp only [Frame.payload, List.append_assoc]
  | attach session clientName force noReplay cols rows attachToken renderedOffset lineDirty =>
    simp only [Frame.prefixedStrings, List.forall_mem_cons] at strings
    obtain ⟨sessionFits, clientFits, _⟩ := strings
    -- The seven later fields are written in full, each at its fixed place.
    refine ⟨⟨sessionFits, clientFits⟩, _, putBool noReplay ++ (putU16 cols ++ (putU16 rows
      ++ (putU64 attachToken ++ (putU64 renderedOffset ++ putBool lineDirty)))), ?_,
      flagField_putBool force _, ?_, Or.inl ?_, Or.inl ?_, Or.inl ?_, Or.inl ?_, ?_⟩
    · simp only [Frame.payload, List.append_assoc]
    · cases noReplay <;> rfl
    · exact List.prefix_append ..
    · exact List.prefix_append ..
    · exact List.prefix_append ..
    · exact List.prefix_append ..
    · cases lineDirty <;> rfl
  | error code message =>
    exact ⟨code.toU16, (ErrorCode.fromU16_toU16 fun number unknown =>
      inRange.code number message (by rw [unknown])).symm, rfl⟩
  | env vars =>
    have counted : vars.length ≤ (Frame.env vars).payload.length := by
      rw [Frame.payload, List.length_append]
      exact Nat.le_add_left_of_le (length_le_flatMap fun pair => by simp)
    refine ⟨by omega, _, [], rfl, envLayout_encode fun pair inside => ?_⟩
    have listed : ∀ text ∈ [pair.1, pair.2], FitsU16 text := fun text part =>
      strings text (List.mem_flatMap.mpr ⟨pair, inside, part⟩)
    exact ⟨listed _ (by simp), listed _ (by simp)⟩
  | sessionInfo sessions =>
    have counted : sessions.length ≤ (sessions.flatMap encodeSessionEntry).length :=
      length_le_flatMap fun entry => by simp [encodeSessionEntry_length]
    simp only [Frame.payload, List.length_append, putU32_length] at bounded
    refine ⟨by omega, _, [], rfl, entriesLayout_encode (fun entry inside => ?_) (by omega)⟩
    have listed : ∀ text ∈ [entry.name, entry.ptyPath, entry.foregroundCmd, entry.cwd,
        entry.clientName], FitsU16 text := fun text part =>
      strings text (List.mem_flatMap.mpr ⟨entry, inside, part⟩)
    simpa only [EntryFits, List.forall_mem_cons, List.not_mem_nil, false_implies, implies_true,
      and_true] using listed
  | diagResponse text => simp [Layout, Frame.payload]
  | helloAck | portForwardListen | portForwardOpen | portForwardRequest =>
    simp only [Layout, Frame.payload, List.append_assoc]
    exact List.prefix_refl _
  | resume | resize | exit | agentOpen | agentClose | tunnelOpen | tunnelClose | portForwardReady
  | portForwardClose | portForwardStop | sessionCreated | tunnelListen | sendOffer | attachAck =>
    exact List.prefix_refl _
  | data | notice | clipboardSet | clipboardData | openUrl | sendCancel | tail | killSession
  | sendFile | agentData | tunnelData | portForwardData => rfl
  | detached | serverShutdown | ping | pong | agentForward | openForward | clipboardGet | sendDone
  | listSessions | killServer | ok | diagRequest => trivial

/-! ### A frame at the front of a stream -/

@[simp] theorem putHeader_length (kind : FrameType) (len : UInt32) :
    (putHeader kind len).length = headerLen := by
  simp [putHeader, headerLen]

/-- A header announces the length it was written with. -/
theorem announcedLen_putHeader (kind : FrameType) (len : UInt32) (tail : Bytes) :
    announcedLen (putHeader kind len ++ tail) = len.toNat := by
  have field : ((putHeader kind len ++ tail).drop 1).take 4 = putU32 len := by
    simp only [putHeader, putU8, List.cons_append, List.nil_append, List.drop_succ_cons,
      List.drop_zero]
    exact List.take_left' (putU32_length len)
  rw [announcedLen, field, putU32, beValue_beBytes_of_lt len.toNat_lt]

/-- A header and what it announces are taken off the buffer, and the payload is decoded. -/
theorem decode_putHeader {kind : FrameType} {len : UInt32} {body : Bytes}
    (allowed : len.toNat ≤ maxFrameSize) (arrived : len.toNat ≤ body.length) :
    FrameCodec.decode (putHeader kind len ++ body) =
      (some <$> decodePayload kind (body.take len.toNat), body.drop len.toNat) := by
  have announced := announcedLen_putHeader kind len body
  have whole : headerLen ≤ (putHeader kind len ++ body).length := by simp
  have code : decodeFrame kind.code = decodePayload kind := by
    funext payload
    rw [decodeFrame, FrameType.ofCode_code]
  rw [decode_complete whole (announced ▸ allowed) (by simp [announced, arrived]), announced,
    List.drop_left' (putHeader_length kind len), ← List.drop_drop,
    List.drop_left' (putHeader_length kind len)]
  exact congrArg (fun read => (some <$> read, body.drop len.toNat)) (congrFun code _)

/-- A frame the wire can carry is decoded from the front of any stream, and exactly it is removed. -/
theorem decode_encode {frame : Frame} (inRange : frame.InRange) (tail : Bytes) :
    FrameCodec.decode (encodeFrame frame ++ tail) = (.ok (some frame), tail) := by
  have size := maxFrameSize_lt
  have bounded := inRange.size
  have counted : (UInt32.ofNat frame.payload.length).toNat = frame.payload.length :=
    UInt32.toNat_ofNat_of_lt' (Nat.lt_of_le_of_lt bounded size)
  rw [encodeFrame_eq, List.append_assoc, decode_putHeader (by rw [counted]; exact bounded)
    (by rw [counted, List.length_append]; omega), counted, List.take_left' rfl, List.drop_left' rfl, decodePayload_held bounded (layout_payload inRange)]
  rfl

end Gritty
