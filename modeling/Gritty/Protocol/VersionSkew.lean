import Gritty.Protocol.RoundTrip

/-! Frames between peers of different ages: longer and shorter payloads, and what is read from them. -/

namespace Gritty

open Exec Decode

/-- How a peer of another version writes one session entry. -/
inductive EntrySkew where
  /-- A newer peer has more fields behind the entry. -/
  | longer (extra : Bytes)
  /-- An older peer ends the entry after a number of bytes. -/
  | shorter (cut : Nat)
  deriving DecidableEq

namespace EntrySkew

/-- The bytes of an entry, without its length. -/
def fields (entry : SessionEntry) : Bytes := (encodeSessionEntry entry).drop 4

/-- The bytes of an entry up to the client name, which every version sends. -/
def mandatory (entry : SessionEntry) : Nat := entryEncodedLen entry - (1 + 1 + 8 + 8)

/-- The bytes the peer writes for an entry, without their length. -/
def bytes (entry : SessionEntry) : EntrySkew → Bytes
  | .longer extra => fields entry ++ extra
  | .shorter cut => (fields entry).take cut

/-- The mandatory fields are there. -/
def Allowed (entry : SessionEntry) : EntrySkew → Prop
  | .longer _ => True
  | .shorter cut => mandatory entry ≤ cut

/-- The entry to read: a field that is there in full is kept, a later one has its default. -/
def read (entry : SessionEntry) : EntrySkew → SessionEntry
  | .longer _ => entry
  | .shorter cut =>
    let left := cut - mandatory entry
    { entry with
      agentForwardingActive := entry.agentForwardingActive && 1 ≤ left
      isLastAttached := entry.isLastAttached && 2 ≤ left
      lastActivity := if 10 ≤ left then entry.lastActivity else 0
      lingerSecs := if 18 ≤ left then entry.lingerSecs else 0 }

end EntrySkew

/-- How a peer of another version writes a payload. -/
inductive Skew where
  | longer (extra : Bytes)
  | shorter (cut : Nat)
  /-- Each session entry in a way of its own. -/
  | entries (skews : List EntrySkew)
  deriving DecidableEq

namespace Skew

/-- The bytes of an attach request up to the force flag. -/
def attachMandatory (session clientName : String) : Nat :=
  2 + (utf8 session).length + 2 + (utf8 clientName).length + 1

/-- The bytes of a new session request before the client name. -/
def newSessionMandatory (name command cwd : String) : Nat :=
  2 + (utf8 name).length + 2 + (utf8 command).length + 2 + (utf8 cwd).length + 2 + 2

/-- The payload the peer writes for a frame. -/
def payload : Frame → Skew → Bytes
  | .sessionInfo sessions, .entries skews =>
    putU32 (UInt32.ofNat sessions.length) ++
      (List.zipWith EntrySkew.bytes sessions skews).flatMap fun bytes =>
        putU32 (UInt32.ofNat bytes.length) ++ bytes
  | frame, .longer extra => frame.payload ++ extra
  | frame, .shorter cut => frame.payload.take cut
  | frame, .entries _ => frame.payload

/-- The changes between versions that a frame has to survive. -/
def Allowed : Frame → Skew → Prop
  | .hello .., .longer _ | .newSession .., .longer _ | .attach .., .longer _ => True
  | .hello .., .shorter cut => 2 + 4 ≤ cut
  | .attach session clientName .., .shorter cut => attachMandatory session clientName ≤ cut
  | .newSession name command cwd _ _ clientName _, .shorter cut =>
    cut = newSessionMandatory name command cwd ∨
      newSessionMandatory name command cwd + 2 + (utf8 clientName).length ≤ cut
  | .sessionInfo sessions, .entries skews =>
    List.Forall₂ (fun entry skew => EntrySkew.Allowed entry skew) sessions skews
  | _, _ => False

/-- The frame to read: a field that is there in full is kept, a later one has its default. -/
def read : Frame → Skew → Frame
  | .hello version capabilities deviceId, .shorter cut =>
    .hello version capabilities (if 2 + 4 + 8 ≤ cut then deviceId else 0)
  | .attach session clientName force noReplay cols rows attachToken renderedOffset lineDirty,
      .shorter cut =>
    let left := cut - attachMandatory session clientName
    .attach session clientName force (noReplay && 1 ≤ left) (if 3 ≤ left then cols else 0)
      (if 5 ≤ left then rows else 0) (if 13 ≤ left then attachToken else 0)
      (if 21 ≤ left then renderedOffset else 0) (lineDirty && 22 ≤ left)
  | .newSession name command cwd cols rows clientName lingerSecs, .shorter cut =>
    let named := newSessionMandatory name command cwd + 2 + (utf8 clientName).length
    .newSession name command cwd cols rows (if named ≤ cut then clientName else "")
      (if named + 8 ≤ cut then lingerSecs else 0)
  | .sessionInfo sessions, .entries skews => .sessionInfo (List.zipWith EntrySkew.read sessions skews)
  | frame, _ => frame

end Skew

/-! ### Fields of a payload that ends early -/

/-- A payload cut after a whole field keeps the field. -/
theorem take_append_field {field later : Bytes} {cut width : Nat} (size : field.length = width)
    (whole : width ≤ cut) : (field ++ later).take cut = field ++ later.take (cut - width) := by
  rw [List.take_append, size, List.take_of_length_le (size ▸ whole)]

theorem flagField_take (flag : Bool) (later : Bytes) {cut : Nat} (some_ : 1 ≤ cut) :
    FlagField ((putBool flag ++ later).take cut) flag (later.take (cut - 1)) := by
  rw [take_append_field (putBool_length flag) some_]
  exact flagField_putBool flag _

/-- A flag at the end is read as unset where the cut is before it. -/
theorem trailingFlag_take (flag : Bool) (later : Bytes) (cut : Nat) :
    TrailingFlag ((putBool flag ++ later).take cut) (flag && 1 ≤ cut) (later.take (cut - 1)) := by
  by_cases whole : 1 ≤ cut
  · rw [decide_eq_true whole, Bool.and_true]
    exact Or.inl (flagField_take flag later whole)
  · have none : cut = 0 := by omega
    subst none
    exact Or.inr ⟨rfl, Bool.and_false flag, rfl⟩

/-- A number at the end is read as zero where the cut goes through it. -/
theorem trailingU64_take (value : UInt64) (later : Bytes) (cut : Nat) :
    TrailingU64 ((putU64 value ++ later).take cut) (if 8 ≤ cut then value else 0)
      (if 8 ≤ cut then later.take (cut - 8) else (putU64 value ++ later).take cut) := by
  by_cases whole : 8 ≤ cut
  · rw [if_pos whole, if_pos whole, take_append_field (putU64_length value) whole]
    exact Or.inl rfl
  · rw [if_neg whole, if_neg whole]
    refine Or.inr ⟨?_, rfl, rfl⟩
    rw [List.length_take]
    omega

/-- A number of two bytes at its fixed place is read as zero where the cut goes through it. -/
theorem fixedU16_take (before later : Bytes) (cut : Nat) {place : Nat}
    (size : before.length = place) (value : UInt16) :
    FixedU16 ((before ++ (putU16 value ++ later)).take cut) place
      (if place + 2 ≤ cut then value else 0) := by
  by_cases whole : place + 2 ≤ cut
  · rw [if_pos whole, take_append_field size (by omega), ← size, FixedU16, List.drop_left,
      take_append_field (putU16_length value) (by omega)]
    exact Or.inl (List.prefix_append _ _)
  · rw [if_neg whole]
    refine Or.inr ⟨?_, rfl⟩
    rw [List.length_take]
    omega

/-- A number of eight bytes at its fixed place is read as zero where the cut goes through it. -/
theorem fixedU64_take (before later : Bytes) (cut : Nat) {place : Nat}
    (size : before.length = place) (value : UInt64) :
    FixedU64 ((before ++ (putU64 value ++ later)).take cut) place
      (if place + 8 ≤ cut then value else 0) := by
  by_cases whole : place + 8 ≤ cut
  · rw [if_pos whole, take_append_field size (by omega), ← size, FixedU64, List.drop_left,
      take_append_field (putU64_length value) (by omega)]
    exact Or.inl (List.prefix_append _ _)
  · rw [if_neg whole]
    refine Or.inr ⟨?_, rfl⟩
    rw [List.length_take]
    omega

/-- A flag at its fixed place is read as unset where the cut is before it. -/
theorem fixedFlag_take (before later : Bytes) (cut : Nat) {place : Nat}
    (size : before.length = place) (flag : Bool) :
    FixedFlag ((before ++ (putBool flag ++ later)).take cut) place (flag && place + 1 ≤ cut) := by
  unfold FixedFlag
  by_cases whole : place + 1 ≤ cut
  · rw [decide_eq_true whole, Bool.and_true, List.getElem?_take_of_lt (by omega),
      List.getElem?_append_right (by omega), size, Nat.sub_self]
    cases flag <;> rfl
  · rw [decide_eq_false whole, Bool.and_false, List.getElem?_eq_none]
    · rfl
    · rw [List.length_take]
      omega

/-! ### Skewed payloads in the wire format -/

namespace EntrySkew

/-- The fields of an entry that every version sends, and the bytes after them. -/
def mandatoryFields (entry : SessionEntry) (trailing : Bytes) : Bytes :=
  putU32 entry.id ++ (putStr entry.name ++ (putStr entry.ptyPath ++ (putU32 entry.shellPid
    ++ (putU64 entry.createdAt ++ (putBool entry.attached ++ (putU64 entry.lastHeartbeat
    ++ (putStr entry.foregroundCmd ++ (putStr entry.cwd ++ (putStr entry.clientName
    ++ trailing)))))))))

/-- The fields of an entry that older peers do not send. -/
def optionalFields (entry : SessionEntry) : Bytes :=
  putBool entry.agentForwardingActive ++ (putBool entry.isLastAttached
    ++ (putU64 entry.lastActivity ++ (putU64 entry.lingerSecs ++ [])))

theorem fields_eq (entry : SessionEntry) :
    fields entry = mandatoryFields entry (optionalFields entry) := by
  unfold fields encodeSessionEntry mandatoryFields optionalFields
  rw [List.drop_left' (putU32_length _)]
  simp only [List.append_assoc, List.append_nil]

theorem mandatoryFields_append (entry : SessionEntry) (trailing later : Bytes) :
    mandatoryFields entry trailing ++ later = mandatoryFields entry (trailing ++ later) := by
  unfold mandatoryFields
  simp only [List.append_assoc]

theorem mandatoryFields_length (entry : SessionEntry) (trailing : Bytes) :
    (mandatoryFields entry trailing).length = mandatory entry + trailing.length := by
  unfold mandatoryFields mandatory entryEncodedLen
  simp only [List.length_append, putU32_length, putU64_length, putStr_length, putBool_length]
  omega

/-- A cut behind the client name keeps all fields up to there. -/
theorem mandatoryFields_take (entry : SessionEntry) (trailing : Bytes) (left : Nat) :
    (mandatoryFields entry trailing).take (mandatory entry + left) =
      mandatoryFields entry (trailing.take left) := by
  have size : (mandatoryFields entry []).length = mandatory entry :=
    mandatoryFields_length entry []
  have split := mandatoryFields_append entry [] trailing
  have splitCut := mandatoryFields_append entry [] (trailing.take left)
  rw [List.nil_append] at split splitCut
  rw [← split, ← splitCut, take_append_field size (Nat.le_add_right _ _), Nat.add_sub_cancel_left]

/-- A skewed entry is laid out as the entry that is read from it. -/
theorem layout {entry : SessionEntry} {skew : EntrySkew} (fits : EntryFits entry)
    (allowed : skew.Allowed entry) : EntryLayout (skew.bytes entry) (skew.read entry) := by
  cases skew with
  | longer extra =>
    show EntryLayout (fields entry ++ extra) entry
    rw [fields_eq, mandatoryFields_append]
    simp only [optionalFields, List.append_assoc, List.nil_append]
    exact ⟨fits, _, _, _, _, _, _, extra, rfl, flagField_putBool entry.attached _, rfl,
      Or.inl (flagField_putBool entry.agentForwardingActive _),
      Or.inl (flagField_putBool entry.isLastAttached _), Or.inl rfl, Or.inl rfl⟩
  | shorter cut =>
    -- The cut falls behind the client name, and each later field is there in full or not read.
    have whole : mandatory entry ≤ cut := allowed
    obtain ⟨left, rfl⟩ := Nat.exists_eq_add_of_le whole
    show EntryLayout ((fields entry).take (mandatory entry + left)) _
    rw [fields_eq, mandatoryFields_take]
    simp only [read, Nat.add_sub_cancel_left]
    have agent := trailingFlag_take entry.agentForwardingActive (putBool entry.isLastAttached
      ++ (putU64 entry.lastActivity ++ (putU64 entry.lingerSecs ++ []))) left
    have last := trailingFlag_take entry.isLastAttached
      (putU64 entry.lastActivity ++ (putU64 entry.lingerSecs ++ [])) (left - 1)
    have activity := trailingU64_take entry.lastActivity (putU64 entry.lingerSecs ++ [])
      (left - 1 - 1)
    have linger : ∃ rest, TrailingU64 (if 8 ≤ left - 1 - 1 then
        (putU64 entry.lingerSecs ++ []).take (left - 1 - 1 - 8)
        else (putU64 entry.lastActivity ++ (putU64 entry.lingerSecs ++ [])).take (left - 1 - 1))
        (if 18 ≤ left then entry.lingerSecs else 0) rest := by
      by_cases dated : 8 ≤ left - 1 - 1
      · have here := trailingU64_take entry.lingerSecs [] (left - 1 - 1 - 8)
        have same : (8 ≤ left - 1 - 1 - 8) ↔ 18 ≤ left := by omega
        simp only [same] at here
        rw [if_pos dated]
        exact ⟨_, here⟩
      · -- The number before it is incomplete, and what is there of it is too short for this one.
        rw [if_neg dated, if_neg (by omega)]
        refine ⟨_, Or.inr ⟨?_, rfl, rfl⟩⟩
        rw [List.length_take]
        omega
    have lastPlace : (1 ≤ left - 1) ↔ 2 ≤ left := by omega
    have activityPlace : (8 ≤ left - 1 - 1) ↔ 10 ≤ left := by omega
    obtain ⟨rest, linger⟩ := linger
    simp only [lastPlace] at last
    simp only [activityPlace] at activity linger
    exact ⟨fits, _, _, _, _, _, _, rest, rfl, flagField_putBool entry.attached _, rfl, agent, last,
      activity, linger⟩

/-- Skewed entries behind their lengths are laid out as the entries that are read from them. -/
theorem entriesLayout {sessions : List SessionEntry} {skews : List EntrySkew}
    (fits : ∀ entry ∈ sessions, EntryFits entry)
    (allowed : List.Forall₂ (fun entry skew => Allowed entry skew) sessions skews)
    (small : ((List.zipWith bytes sessions skews).flatMap fun entry =>
      putU32 (UInt32.ofNat entry.length) ++ entry).length < 2 ^ 32) :
    EntriesLayout ((List.zipWith bytes sessions skews).flatMap fun entry =>
      putU32 (UInt32.ofNat entry.length) ++ entry) (List.zipWith read sessions skews) [] := by
  induction allowed with
  | nil => rfl
  | @cons entry skew sessions skews first _ ih =>
    simp only [List.zipWith_cons_cons, List.flatMap_cons, List.length_append] at small ⊢
    refine ⟨bytes entry skew, _, by omega, List.append_assoc _ _ _,
      layout (fits entry List.mem_cons_self) first, ?_⟩
    exact ih (fun other member => fits other (List.mem_cons_of_mem _ member)) (by omega)

end EntrySkew

/-- A payload cut some bytes after a field keeps the field and these bytes. -/
theorem take_add_field {field later : Bytes} {width : Nat} (size : field.length = width) (left : Nat) :
    (field ++ later).take (width + left) = field ++ later.take left := by
  rw [take_append_field size (Nat.le_add_right _ _), Nat.add_sub_cancel_left]

namespace Skew

/-- A greeting may end before or inside the device id, and may go on behind it. -/
theorem hello_layout (version : UInt16) (capabilities : UInt32) (deviceId : UInt64) {skew : Skew}
    (allowed : skew.Allowed (.hello version capabilities deviceId)) :
    Layout (skew.payload (.hello version capabilities deviceId))
      (skew.read (.hello version capabilities deviceId)) := by
  cases skew with
  | longer extra =>
    show Layout (putU16 version ++ putU32 capabilities ++ putU64 deviceId ++ extra) _
    rw [List.append_assoc, List.append_assoc]
    exact ⟨_, extra, rfl, Or.inl rfl⟩
  | shorter cut =>
    obtain ⟨left, rfl⟩ := Nat.exists_eq_add_of_le (show 2 + 4 ≤ cut from allowed)
    have kept : (putU16 version ++ putU32 capabilities ++ putU64 deviceId).take (2 + 4 + left) =
        putU16 version ++ (putU32 capabilities ++ (putU64 deviceId ++ []).take left) := by
      rw [List.append_nil, List.append_assoc, Nat.add_assoc, take_add_field (putU16_length version),
        take_add_field (putU32_length capabilities)]
    have place : (2 + 4 + 8 ≤ 2 + 4 + left) ↔ 8 ≤ left := by omega
    have device := trailingU64_take deviceId [] left
    simp only [← place] at device
    show Layout ((putU16 version ++ putU32 capabilities ++ putU64 deviceId).take (2 + 4 + left)) _
    rw [kept]
    exact ⟨_, _, rfl, device⟩
  | entries skews => exact allowed.elim

/-- The fields of a new session request that every version sends, and the bytes after them. -/
def newSessionFields (name command cwd : String) (cols rows : UInt16) (trailing : Bytes) : Bytes :=
  putStr name ++ (putStr command ++ (putStr cwd ++ (putU16 cols ++ (putU16 rows ++ trailing))))

/-- A cut behind the mandatory fields of a new session cuts what follows them. -/
theorem newSessionFields_take (name command cwd : String) (cols rows : UInt16) (trailing : Bytes)
    (left : Nat) :
    (newSessionFields name command cwd cols rows trailing).take
        (newSessionMandatory name command cwd + left) =
      newSessionFields name command cwd cols rows (trailing.take left) := by
  have places : newSessionMandatory name command cwd + left = 2 + (utf8 name).length
      + (2 + (utf8 command).length + (2 + (utf8 cwd).length + (2 + (2 + left)))) := by
    unfold newSessionMandatory
    omega
  unfold newSessionFields
  rw [places, take_add_field (putStr_length name), take_add_field (putStr_length command),
    take_add_field (putStr_length cwd), take_add_field (putU16_length cols),
    take_add_field (putU16_length rows)]

/-- A new session request may end before the client name or anywhere behind it, and may go on. -/
theorem newSession_layout {name command cwd clientName : String} (cols rows : UInt16)
    (lingerSecs : UInt64) {skew : Skew} (named : FitsU16 name ∧ FitsU16 command ∧ FitsU16 cwd)
    (client : FitsU16 clientName)
    (allowed : skew.Allowed (.newSession name command cwd cols rows clientName lingerSecs))
    (long : 12 ≤ (skew.payload (.newSession name command cwd cols rows clientName lingerSecs)).length) :
    Layout (skew.payload (.newSession name command cwd cols rows clientName lingerSecs))
      (skew.read (.newSession name command cwd cols rows clientName lingerSecs)) := by
  have whole : (Frame.newSession name command cwd cols rows clientName lingerSecs).payload =
      newSessionFields name command cwd cols rows
        (putStr clientName ++ (putU64 lingerSecs ++ [])) := by
    unfold newSessionFields Frame.payload
    simp only [List.append_assoc, List.append_nil]
  cases skew with
  | longer extra =>
    refine ⟨long, named, putStr clientName ++ (putU64 lingerSecs ++ extra), _, extra, ?_,
      Or.inl ⟨client, rfl⟩, Or.inl rfl⟩
    show Frame.payload _ ++ extra = _
    rw [whole]
    unfold newSessionFields
    simp only [List.append_assoc, List.nil_append]
  | shorter cut =>
    rcases allowed with rfl | behind
    · -- Nothing is left for the name.
      have kept := newSessionFields_take name command cwd cols rows
        (putStr clientName ++ (putU64 lingerSecs ++ [])) 0
      rw [Nat.add_zero, List.take_zero] at kept
      refine ⟨long, named, [], [], [], ?_, Or.inr ⟨by decide, if_neg (by omega), rfl⟩,
        Or.inr ⟨by decide, if_neg (by omega), rfl⟩⟩
      show (Frame.payload _).take _ = _
      rw [whole, kept]
      rfl
    · obtain ⟨left, rfl⟩ := Nat.exists_eq_add_of_le behind
      have kept := newSessionFields_take name command cwd cols rows
        (putStr clientName ++ (putU64 lingerSecs ++ [])) (2 + (utf8 clientName).length + left)
      rw [take_add_field (putStr_length clientName)] at kept
      have linger := trailingU64_take lingerSecs [] left
      have place : (newSessionMandatory name command cwd + 2 + (utf8 clientName).length + 8 ≤
          newSessionMandatory name command cwd + 2 + (utf8 clientName).length + left) ↔ 8 ≤ left := by
        omega
      simp only [← place] at linger
      refine ⟨long, named, putStr clientName ++ (putU64 lingerSecs ++ []).take left, _, _, ?_,
        Or.inl ⟨?_, ?_⟩, linger⟩
      · show (Frame.payload _).take _ = _
        rw [whole, Nat.add_assoc (newSessionMandatory name command cwd), Nat.add_assoc
          (newSessionMandatory name command cwd), kept]
        rfl
      · rw [if_pos (Nat.le_add_right _ _)]
        exact client
      · rw [if_pos (Nat.le_add_right _ _)]
  | entries skews => exact allowed.elim

/-- The fields of an attach request that older peers do not send. -/
def attachOptional (noReplay : Bool) (cols rows : UInt16) (attachToken renderedOffset : UInt64)
    (lineDirty : Bool) : Bytes :=
  putBool noReplay ++ (putU16 cols ++ (putU16 rows ++ (putU64 attachToken
    ++ (putU64 renderedOffset ++ putBool lineDirty))))

/-- Each field behind the force flag has its place, whether or not the fields around it are there. -/
theorem attachTrailing_layout {session clientName : String} (force noReplay : Bool)
    (cols rows : UInt16) (attachToken renderedOffset : UInt64) (lineDirty : Bool) (extra : Bytes)
    (left : Nat) (named : FitsU16 session ∧ FitsU16 clientName) :
    Layout (putStr session ++ (putStr clientName ++ (putBool force
        ++ (attachOptional noReplay cols rows attachToken renderedOffset lineDirty
          ++ extra).take left)))
      (.attach session clientName force (noReplay && 1 ≤ left) (if 3 ≤ left then cols else 0)
        (if 5 ≤ left then rows else 0) (if 13 ≤ left then attachToken else 0)
        (if 21 ≤ left then renderedOffset else 0) (lineDirty && 22 ≤ left)) := by
  refine ⟨named, _, _, rfl, flagField_putBool force _, ?_⟩
  unfold attachOptional
  -- The bytes before each field are as many as its place.
  have replay := fixedFlag_take [] (putU16 cols ++ (putU16 rows ++ (putU64 attachToken
    ++ (putU64 renderedOffset ++ (putBool lineDirty ++ extra))))) left rfl noReplay
  have width := fixedU16_take (putBool noReplay) (putU16 rows ++ (putU64 attachToken
    ++ (putU64 renderedOffset ++ (putBool lineDirty ++ extra)))) left rfl cols
  have height := fixedU16_take (putBool noReplay ++ putU16 cols) (putU64 attachToken
    ++ (putU64 renderedOffset ++ (putBool lineDirty ++ extra))) left rfl rows
  have token := fixedU64_take (putBool noReplay ++ (putU16 cols ++ putU16 rows))
    (putU64 renderedOffset ++ (putBool lineDirty ++ extra)) left rfl attachToken
  have offset := fixedU64_take (putBool noReplay ++ (putU16 cols ++ (putU16 rows
    ++ putU64 attachToken))) (putBool lineDirty ++ extra) left rfl renderedOffset
  have dirty := fixedFlag_take (putBool noReplay ++ (putU16 cols ++ (putU16 rows
    ++ (putU64 attachToken ++ putU64 renderedOffset)))) extra left rfl lineDirty
  simp only [List.append_assoc, List.nil_append] at replay width height token offset dirty ⊢
  exact ⟨replay, width, height, token, offset, dirty⟩

/-- An attach request may end anywhere behind the force flag, and may go on behind its last field. -/
theorem attach_layout {session clientName : String} (force noReplay : Bool) (cols rows : UInt16)
    (attachToken renderedOffset : UInt64) (lineDirty : Bool) {skew : Skew}
    (named : FitsU16 session ∧ FitsU16 clientName)
    (allowed : skew.Allowed (.attach session clientName force noReplay cols rows attachToken
      renderedOffset lineDirty)) :
    Layout (skew.payload (.attach session clientName force noReplay cols rows attachToken
        renderedOffset lineDirty))
      (skew.read (.attach session clientName force noReplay cols rows attachToken renderedOffset
        lineDirty)) := by
  have trailing (extra : Bytes) (left : Nat) := attachTrailing_layout force noReplay cols rows
    attachToken renderedOffset lineDirty extra left named
  cases skew with
  | longer extra =>
    -- With every field there, each of them is kept.
    have optional : (attachOptional noReplay cols rows attachToken renderedOffset lineDirty ++
        extra).length = 22 + extra.length := by
      simp [attachOptional]
      omega
    have layout := trailing extra (22 + extra.length)
    have first : 1 ≤ 22 + extra.length := by omega
    have second : 3 ≤ 22 + extra.length := by omega
    have third : 5 ≤ 22 + extra.length := by omega
    have fourth : 13 ≤ 22 + extra.length := by omega
    have fifth : 21 ≤ 22 + extra.length := by omega
    have last : 22 ≤ 22 + extra.length := by omega
    rw [← optional, List.take_length, optional, if_pos second, if_pos third, if_pos fourth,
      if_pos fifth, decide_eq_true first, decide_eq_true last, Bool.and_true, Bool.and_true] at layout
    simpa only [payload, read, Frame.payload, attachOptional, List.append_assoc] using layout
  | shorter cut =>
    obtain ⟨left, rfl⟩ := Nat.exists_eq_add_of_le
      (show attachMandatory session clientName ≤ cut from allowed)
    have places : attachMandatory session clientName + left =
        2 + (utf8 session).length + (2 + (utf8 clientName).length + (1 + left)) := by
      unfold attachMandatory
      omega
    have layout := trailing [] left
    rw [List.append_nil] at layout
    simp only [payload, read, Frame.payload, Nat.add_sub_cancel_left, List.append_assoc]
    rw [places, take_add_field (putStr_length session), take_add_field (putStr_length clientName),
      take_add_field (putBool_length force)]
    exact layout
  | entries skews => exact allowed.elim

/-- Session entries may each be longer or shorter. -/
theorem sessionInfo_layout {sessions : List SessionEntry} {skew : Skew}
    (fits : ∀ entry ∈ sessions, EntryFits entry) (allowed : skew.Allowed (.sessionInfo sessions))
    (bounded : (skew.payload (.sessionInfo sessions)).length ≤ maxFrameSize) :
    Layout (skew.payload (.sessionInfo sessions)) (skew.read (.sessionInfo sessions)) := by
  have size := maxFrameSize_lt
  cases skew with
  | entries skews =>
    have paired : List.Forall₂ (fun entry skew => EntrySkew.Allowed entry skew) sessions skews :=
      allowed
    have counted : (List.zipWith EntrySkew.read sessions skews).length = sessions.length := by
      rw [List.length_zipWith, ← paired.length_eq, Nat.min_self]
    have written : (List.zipWith EntrySkew.bytes sessions skews).length = sessions.length := by
      rw [List.length_zipWith, ← paired.length_eq, Nat.min_self]
    simp only [payload, List.length_append, putU32_length] at bounded
    -- Each entry takes the four bytes of its length at least, so their number fits its field.
    have number : sessions.length ≤ ((List.zipWith EntrySkew.bytes sessions skews).flatMap
        fun bytes => putU32 (UInt32.ofNat bytes.length) ++ bytes).length := by
      rw [← written]
      apply length_le_flatMap
      intro bytes
      rw [List.length_append, putU32_length]
      omega
    refine ⟨by rw [counted]; omega, _, [], ?_, EntrySkew.entriesLayout fits paired (by omega)⟩
    rw [counted]
    rfl
  | longer extra => exact allowed.elim
  | shorter cut => exact allowed.elim

/-- A skewed payload is one of the frame that is read, unless it is too short for a new session. -/
theorem layout {frame : Frame} {skew : Skew}
    (strings : ∀ text ∈ frame.prefixedStrings, (utf8 text).length ≤ 65535)
    (allowed : skew.Allowed frame) (bounded : (skew.payload frame).length ≤ maxFrameSize)
    (long : frame.kind = .newSession → 12 ≤ (skew.payload frame).length) :
    Layout (skew.payload frame) (skew.read frame) := by
  have fits : ∀ text ∈ frame.prefixedStrings, FitsU16 text :=
    fun text member => fitsU16_iff.mpr (strings text member)
  cases frame with
  | hello version capabilities deviceId => exact hello_layout version capabilities deviceId allowed
  | newSession name command cwd cols rows clientName lingerSecs =>
    simp only [Frame.prefixedStrings, List.forall_mem_cons] at fits
    obtain ⟨name, command, cwd, clientName, -⟩ := fits
    exact newSession_layout cols rows lingerSecs ⟨name, command, cwd⟩ clientName allowed (long rfl)
  | attach session clientName force noReplay cols rows attachToken renderedOffset lineDirty =>
    simp only [Frame.prefixedStrings, List.forall_mem_cons] at fits
    obtain ⟨session, clientName, -⟩ := fits
    exact attach_layout force noReplay cols rows attachToken renderedOffset lineDirty
      ⟨session, clientName⟩ allowed
  | sessionInfo sessions =>
    apply sessionInfo_layout _ allowed bounded
    intro entry member
    have inside : ∀ text ∈ [entry.name, entry.ptyPath, entry.foregroundCmd, entry.cwd,
        entry.clientName], FitsU16 text :=
      fun text inside => fits text (List.mem_flatMap.mpr ⟨entry, member, inside⟩)
    simp only [List.forall_mem_cons] at inside
    obtain ⟨name, ptyPath, foregroundCmd, cwd, clientName, -⟩ := inside
    exact ⟨name, ptyPath, foregroundCmd, cwd, clientName⟩
  | _ => exact allowed.elim

/-- The frame read from a skewed payload is of the same kind. -/
theorem read_kind (frame : Frame) (skew : Skew) : (skew.read frame).kind = frame.kind := by
  cases frame <;> cases skew <;> rfl

end Skew

/-- What a peer of another version sends for a frame. -/
def Frame.encodeSkewed (frame : Frame) (skew : Skew) : Bytes :=
  putHeader frame.kind (UInt32.ofNat (skew.payload frame).length) ++ skew.payload frame

/--
Between versions a frame is read as it was sent, field by field, exactly when its payload is not
that of a new session shorter than twelve bytes.
-/
theorem decode_skewed_iff {frame : Frame} {skew : Skew}
    (strings : ∀ text ∈ frame.prefixedStrings, (utf8 text).length ≤ 65535)
    (allowed : skew.Allowed frame) (bounded : (skew.payload frame).length ≤ maxFrameSize)
    (tail : Bytes) :
    FrameCodec.decode (frame.encodeSkewed skew ++ tail) = (.ok (some (skew.read frame)), tail) ↔
      (frame.kind = .newSession → 12 ≤ (skew.payload frame).length) := by
  have counted : (UInt32.ofNat (skew.payload frame).length).toNat = (skew.payload frame).length :=
    UInt32.toNat_ofNat_of_lt' (Nat.lt_of_le_of_lt bounded maxFrameSize_lt)
  have decoded : FrameCodec.decode (frame.encodeSkewed skew ++ tail) =
      (some <$> decodePayload frame.kind (skew.payload frame), tail) := by
    unfold Frame.encodeSkewed
    rw [List.append_assoc, decode_putHeader (by rw [counted]; exact bounded)
      (by rw [counted, List.length_append]; omega), counted, List.take_left' rfl,
      List.drop_left' rfl]
  rw [decoded]
  constructor
  · intro read isNew
    -- The length check comes before every field.
    by_contra short
    have refused : decodePayload frame.kind (skew.payload frame) =
        fail (.invalidData "new session frame must be at least 12 bytes") := by
      rw [isNew]
      simp only [decodePayload, decodeNewSession, expectMinLen,
        if_pos (Nat.lt_of_not_le short)]
      rfl
    rw [refused] at read
    exact absurd (congrArg Prod.fst read) (fail_ne_ok _ _)
  · intro long
    have layout := Skew.layout strings allowed bounded long
    have kept := decodePayload_held bounded layout
    rw [Skew.read_kind] at kept
    rw [kept]
    rfl

/-- An attach request that ends inside its token is read without the fields from the token on. -/
theorem decode_skewed_attach :
    FrameCodec.decode ((Frame.attach "1" "pc" true true 80 24 7 9 true).encodeSkewed (.shorter 17)) =
      (.ok (some (.attach "1" "pc" true true 80 24 0 0 false)), []) := by
  have strings : ∀ text ∈ (Frame.attach "1" "pc" true true 80 24 7 9 true).prefixedStrings,
      (utf8 text).length ≤ 65535 := by decide
  have allowed : (Skew.shorter 17).Allowed (.attach "1" "pc" true true 80 24 7 9 true) :=
    show Skew.attachMandatory "1" "pc" ≤ 17 by decide
  have read := (decode_skewed_iff strings allowed (by decide) []).mpr (by decide)
  exact read

/-- A request for a nameless session of an older peer, which ends before the client name, is refused. -/
theorem bare_newSession_refused :
    ¬ ∀ (frame : Frame) (skew : Skew), frame.InRange → skew.Allowed frame →
      (skew.payload frame).length ≤ maxFrameSize → ∀ tail,
        FrameCodec.decode (frame.encodeSkewed skew ++ tail) = (.ok (some (skew.read frame)), tail) := by
  intro harmless
  have read := harmless (.newSession "" "" "" 80 24 "" 0) (.shorter 10)
    ⟨by decide, by decide, nofun⟩ (Or.inl (by decide)) (by decide) []
  exact absurd read (by decide)

end Gritty
