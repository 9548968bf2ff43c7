import Gritty.Lib.LossyUtf8
import Gritty.Transfer.Paths

/-! The names that files travel under: components of their disk paths, read as text. -/

namespace Gritty

/-! ### ASCII in the bytes of a text -/

theorem utf8_eq (text : String) : utf8 text = text.toList.flatMap String.utf8EncodeChar := by
  rw [utf8, ← String.utf8Encode_toList]
  simp [List.utf8Encode]

theorem utf8_injective {first second : String} (same : utf8 first = utf8 second) :
    first = second := by
  have back : fromUtf8 (utf8 first) = fromUtf8 (utf8 second) := by rw [same]
  rw [fromUtf8_utf8, fromUtf8_utf8] at back
  exact Option.some.inj back

/-- A character is encoded as itself when it is in ASCII, and without ASCII bytes otherwise. -/
theorem utf8EncodeChar_cases (char : Char) :
    char.toNat < 0x80 ∧ String.utf8EncodeChar char = [UInt8.ofNat char.toNat] ∨
      0x80 ≤ char.toNat ∧ ∀ byte ∈ String.utf8EncodeChar char, 0x80 ≤ byte.toNat := by
  have valid : char.val.toNat < 0xD800 ∨ 0xDFFF < char.val.toNat ∧ char.val.toNat < 0x110000 :=
    char.valid
  show char.val.toNat < 0x80 ∧ _ = [UInt8.ofNat char.val.toNat] ∨ 0x80 ≤ char.val.toNat ∧ _
  unfold String.utf8EncodeChar
  generalize char.val.toNat = value at *
  dsimp only
  by_cases small : value ≤ 127
  · rw [if_pos small]
    exact Or.inl ⟨by omega, rfl⟩
  · rw [if_neg small]
    refine Or.inr ⟨by omega, ?_⟩
    -- Every byte of a longer encoding has its high bit set.
    split_ifs
    all_goals
      intro byte among
      simp only [List.mem_cons, List.not_mem_nil, or_false] at among
      rcases among with rfl | rfl | rfl | rfl <;> rw [UInt8.toNat_ofNat'] <;> omega

/-- An ASCII byte of a text is a character of it. -/
theorem mem_of_mem_utf8 {text : String} {byte : UInt8} (ascii : byte.toNat < 0x80)
    (among : byte ∈ utf8 text) : Char.ofNat byte.toNat ∈ text.toList := by
  rw [utf8_eq, List.mem_flatMap] at among
  obtain ⟨char, there, encoded⟩ := among
  rcases utf8EncodeChar_cases char with ⟨low, single⟩ | ⟨-, high⟩
  · rw [single, List.mem_singleton] at encoded
    have same : byte.toNat = char.toNat := by
      rw [encoded, UInt8.toNat_ofNat']
      omega
    rwa [same, Char.ofNat_toNat]
  · have outside := high byte encoded
    omega

/-! ### Disk names as text -/

/-- Different bytes are different characters. -/
theorem charOfByte_injective : Function.Injective fun byte : UInt8 => Char.ofNat byte.toNat := by
  intro first second same
  have values := congrArg Char.toNat same
  have small := first.toNat_lt
  have small' := second.toNat_lt
  dsimp only at values
  rw [toNat_ofNat_of_valid (Or.inl (by omega)), toNat_ofNat_of_valid (Or.inl (by omega))] at values
  exact UInt8.toNat_inj.mp values

/-- Only an ASCII text itself reads as it. -/
theorem eq_of_toStringLossy {name plain : Bytes} {text : String}
    (ascii : ∀ byte ∈ plain, byte.toNat < 0x80)
    (spelled : text.toList = plain.map fun byte => Char.ofNat byte.toNat)
    (same : toStringLossy name = text) : name = plain := by
  have chars : lossyChars name = plain.map fun byte => Char.ofNat byte.toNat := by
    rw [← spelled, ← same, toStringLossy, String.toList_ofList]
  have allAscii : ∀ char ∈ lossyChars name, char.toNat < 0x80 := by
    intro char among
    rw [chars] at among
    obtain ⟨byte, there, rfl⟩ := List.mem_map.mp among
    rw [toNat_ofNat_of_valid (Or.inl (by have low := ascii byte there; omega))]
    exact ascii byte there
  have read := lossyChars_ascii allAscii
  rw [chars] at read
  exact List.map_injective_iff.mpr charOfByte_injective read

/-- An ASCII byte of the text of a name is a byte of the name. -/
theorem mem_of_mem_toStringLossy {name : Bytes} {byte : UInt8} (ascii : byte.toNat < 0x80)
    (among : Char.ofNat byte.toNat ∈ (toStringLossy name).toList) : byte ∈ name := by
  rw [toStringLossy, String.toList_ofList] at among
  have value : (Char.ofNat byte.toNat).toNat = byte.toNat :=
    toNat_ofNat_of_valid (Or.inl (by omega))
  obtain ⟨other, there, same⟩ := lossyChars_ascii_of_mem among (by rw [value]; exact ascii)
  rw [value] at same
  rwa [← UInt8.toNat_inj.mp same]

/-- The bytes of a name on disk after it was read as text. -/
def textOf (name : Bytes) : Bytes := utf8 (toStringLossy name)

/-- A text in ASCII is read from its own bytes and from nothing else. -/
theorem textOf_eq_iff {name plain : Bytes} {text : String}
    (ascii : ∀ byte ∈ plain, byte.toNat < 0x80)
    (spelled : text.toList = plain.map fun byte => Char.ofNat byte.toNat)
    (written : utf8 text = plain) (kept : textOf plain = plain) :
    textOf name = plain ↔ name = plain := by
  constructor
  · intro same
    rw [← written] at same
    exact eq_of_toStringLossy ascii spelled (utf8_injective same)
  · rintro rfl
    exact kept

theorem textOf_eq_nil {name : Bytes} : textOf name = [] ↔ name = [] :=
  textOf_eq_iff (by simp) (show "".toList = _ from rfl) rfl rfl

theorem textOf_eq_dot {name : Bytes} : textOf name = [dot] ↔ name = [dot] := by
  have ascii : ∀ byte ∈ [dot], byte.toNat < 0x80 := by
    intro byte among
    rw [List.mem_singleton.mp among]
    decide
  exact textOf_eq_iff ascii (show ".".toList = _ from rfl) (by decide) (by decide)

/-- A name reads as two dots exactly if it is these. -/
theorem textOf_eq_dots {name : Bytes} : textOf name = [dot, dot] ↔ name = [dot, dot] := by
  have ascii : ∀ byte ∈ [dot, dot], byte.toNat < 0x80 := by
    intro byte among
    have same : byte = dot := by simpa using among
    rw [same]
    decide
  exact textOf_eq_iff ascii (show "..".toList = _ from rfl) (by decide) (by decide)

/-- Reading as text makes no separators. -/
theorem noSlash_textOf {name : Bytes} (noSlash : slash ∉ name) : slash ∉ textOf name := by
  intro among
  have there := mem_of_mem_utf8 (by decide) among
  exact noSlash (mem_of_mem_toStringLossy (by decide) there)

/-- A name on disk is still a name when it is read as text. -/
theorem isName_textOf {name : Bytes} (isName : IsName name) : IsName (textOf name) where
  nonempty := fun empty => isName.nonempty (textOf_eq_nil.mp empty)
  noSlash := noSlash_textOf isName.noSlash
  notDot := fun single => isName.notDot (textOf_eq_dot.mp single)
  notDots := fun double => isName.notDots (textOf_eq_dots.mp double)

/-- A component of a wire name. -/
structure PlainName (text : String) : Prop where
  isName : IsName (utf8 text)
  noNul : '\x00' ∉ text.toList

theorem plainName_toStringLossy {name : Bytes} (isName : IsName name) (noNul : 0 ∉ name) :
    PlainName (toStringLossy name) where
  isName := isName_textOf isName
  noNul := by
    intro among
    exact noNul (mem_of_mem_toStringLossy (show (0 : UInt8).toNat < 0x80 by decide) among)

/-! ### Wire names -/

/-- The wire name that a list of components makes up. -/
def joinNames (parts : List String) : String := "/".intercalate parts

/-- A name made of plain components, as senders use them. -/
def WireName (name : String) : Prop :=
  ∃ parts, parts ≠ [] ∧ (∀ part ∈ parts, PlainName part) ∧ name = joinNames parts

/-- The bytes of a joined list are the joined bytes of its elements. -/
theorem flatMap_intercalate {α β : Type} (encode : α → List β) (separator : α) (separated : β)
    (alone : encode separator = [separated]) (pieces : List (List α)) :
    ([separator].intercalate pieces).flatMap encode =
      [separated].intercalate (pieces.map (·.flatMap encode)) := by
  induction pieces with
  | nil => rfl
  | cons first others ih =>
    cases others with
    | nil => simp
    | cons second others =>
      rw [List.intercalate_cons_cons, List.flatMap_append, List.flatMap_append, ih]
      simp [alone]

/-- The bytes of joined names are those of the names, joined. -/
theorem utf8_joinNames (parts : List String) :
    utf8 (joinNames parts) = [slash].intercalate (parts.map utf8) := by
  have joined : (joinNames parts).toList = ['/'].intercalate (parts.map String.toList) :=
    String.toList_intercalate
  rw [utf8_eq, joined, flatMap_intercalate String.utf8EncodeChar '/' slash (by decide),
    List.map_map]
  congr 1
  apply List.map_congr_left
  intro part _
  exact (utf8_eq part).symm

/-- Joined plain names hold no byte of zero. -/
theorem noNul_joinNames {parts : List String} (plain : ∀ part ∈ parts, PlainName part) :
    '\x00' ∉ (joinNames parts).toList := by
  have joined : (joinNames parts).toList = ['/'].intercalate (parts.map String.toList) :=
    String.toList_intercalate
  rw [joined]
  clear joined
  induction parts with
  | nil => exact List.not_mem_nil
  | cons first others ih =>
    have here := (plain first List.mem_cons_self).noNul
    have later := ih fun part among => plain part (List.mem_cons_of_mem first among)
    cases others with
    | nil => simpa using here
    | cons second others =>
      rw [List.map_cons, List.map_cons, List.intercalate_cons_cons, ← List.map_cons]
      simp only [List.mem_append, List.mem_singleton, not_or]
      exact ⟨⟨here, by decide⟩, later⟩

/-- Of the server's checks of a wire name only the one against backslashes can fail. -/
theorem WireName.sanitizeFilename {name : String} (wire : WireName name)
    (noBackslash : '\\' ∉ name.toList) : sanitizeFilename name = some name := by
  obtain ⟨parts, some_, plain, rfl⟩ := wire
  have areNames : ∀ piece ∈ parts.map utf8, IsName piece := by
    intro piece among
    obtain ⟨part, there, rfl⟩ := List.mem_map.mp among
    exact (plain part there).isName
  have cut : components (utf8 (joinNames parts)) = (parts.map utf8).map .normal := by
    rw [utf8_joinNames]
    exact components_intercalate (by simpa using some_) areNames
  refine sanitizeFilename_eq_some.mpr ⟨rfl, ?_, noNul_joinNames plain, noBackslash, ?_, ?_⟩
  · -- The empty name has no components.
    intro empty
    rw [empty] at cut
    have none_ : (parts.map utf8).map Component.normal = [] := cut.symm
    simp only [List.map_eq_nil_iff] at none_
    exact some_ none_
  · rw [cut]
    simpa using some_
  · intro part among
    rw [cut] at among
    obtain ⟨piece, -, rfl⟩ := List.mem_map.mp among
    rfl

/-! ### The components of a path read as text -/

/-- A component of a path after the path was read as text. -/
def Component.asText : Component → Component
  | .normal name => .normal (textOf name)
  | other => other

/-- Reading as text treats the pieces of a path one by one. -/
theorem lossyChars_intercalate (pieces : List Bytes) :
    lossyChars ([slash].intercalate pieces) = ['/'].intercalate (pieces.map lossyChars) := by
  induction pieces with
  | nil => rfl
  | cons first others ih =>
    cases others with
    | nil => simp
    | cons second others =>
      rw [List.intercalate_cons_cons, List.append_assoc, List.singleton_append,
        lossyChars_append_ascii first _ (by decide), ih]
      simp only [List.map_cons, List.intercalate_cons_cons, List.append_assoc,
        List.singleton_append]
      rfl

/-- A path that is read is split where its bytes are. -/
theorem splitOn_textOf (path : Bytes) :
    (textOf path).splitOn slash = (path.splitOn slash).map textOf := by
  have joined : textOf path = [slash].intercalate ((path.splitOn slash).map textOf) := by
    have whole : [slash].intercalate (path.splitOn slash) = path := List.intercalate_splitOn slash
    rw [← whole]
    unfold textOf
    rw [utf8_eq, toStringLossy, String.toList_ofList, lossyChars_intercalate,
      flatMap_intercalate String.utf8EncodeChar '/' slash (by decide), List.map_map, whole]
    congr 1
    apply List.map_congr_left
    intro piece _
    rw [utf8_eq, toStringLossy, String.toList_ofList]
    rfl
  rw [joined]
  apply List.splitOn_intercalate
  · intro piece among
    obtain ⟨original, cut, rfl⟩ := List.mem_map.mp among
    exact noSlash_textOf (noSlash_of_mem_splitOn cut)
  · simp

/-- A path read as text has the same components, its names read as text. -/
theorem components_textOf (path : Bytes) :
    components (textOf path) = (components path).map Component.asText := by
  have eachPiece : ∀ piece, componentOf (textOf piece) = (componentOf piece).map Component.asText := by
    intro piece
    unfold componentOf
    simp only [textOf_eq_nil, textOf_eq_dot, textOf_eq_dots]
    split_ifs <;> rfl
  have front : ∀ pieces : List Bytes, leadingComponent (pieces.map textOf) =
      (leadingComponent pieces).map Component.asText := by
    intro pieces
    cases pieces with
    | nil => rfl
    | cons first others =>
      simp only [List.map_cons, leadingComponent, textOf_eq_nil, textOf_eq_dot, ne_eq,
        List.map_eq_nil_iff]
      split_ifs <;> rfl
  unfold components componentsOf
  rw [splitOn_textOf, front, List.map_append]
  congr 1
  induction path.splitOn slash with
  | nil => rfl
  | cons piece others ih =>
    rw [List.map_cons, List.filterMap_cons, List.filterMap_cons, eachPiece, ih]
    cases componentOf piece with
    | none => rfl
    | some part => rfl

/-- The file name of a path read as text is its file name read as text. -/
theorem fileName_textOf (path : Bytes) : fileName (textOf path) = (fileName path).map textOf := by
  unfold fileName
  rw [components_textOf, List.getLast?_map]
  cases (components path).getLast? with
  | none => rfl
  | some part => cases part <;> rfl

end Gritty
