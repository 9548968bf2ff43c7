import Gritty.Lib.ByteReader
import Gritty.Protocol.Layout
import Gritty.Transfer.Paths
import Gritty.Transfer.Rendezvous

/-! The manifest a sender writes, and the server's reading of it. -/

namespace Gritty

open ByteReader

/-- One file queued for sending. -/
structure SendEntry where
  name : String
  size : UInt64
  mode : UInt32
  /-- The disk path. -/
  path : Bytes
  deriving DecidableEq

/-- What an entry says about its file on the wire. -/
def SendEntry.announced (entry : SendEntry) : String × UInt64 × UInt32 :=
  (entry.name, entry.size, entry.mode)

/-- Why a transfer stream is refused. -/
inductive TransferError where
  | invalidData (message : String)
  | invalidUtf8
  /-- A name the receiver does not write to. -/
  | badName (message : String)
  deriving DecidableEq

/-- A reader of a transfer stream. -/
abbrev TransferReader (α : Type) := ByteReader TransferError α

/-- The name, size and mode of one file. -/
def putFile : String × UInt64 × UInt32 → Bytes
  | (name, size, mode) =>
    putU16 (UInt16.ofNat (utf8 name).length) ++ (utf8 name ++ (putU64 size ++ putU32 mode))

def writeSendManifest (entries : List SendEntry) : Bytes :=
  putU32 (UInt32.ofNat entries.length) ++ entries.flatMap fun entry => putFile entry.announced

def readU16 : TransferReader UInt16 := do
  return UInt16.ofNat (beValue (← readExact 2))

def readU32 : TransferReader UInt32 := do
  return UInt32.ofNat (beValue (← readExact 4))

def readU64 : TransferReader UInt64 := do
  return UInt64.ofNat (beValue (← readExact 8))

/-- The string in the next bytes of the stream. -/
def readText (length : Nat) : TransferReader String := do
  match fromUtf8 (← readExact length) with
  | some text => return text
  | none => refuse .invalidUtf8

/-- Most files one transfer may hold. -/
def maxManifestFiles : Nat := 10000

/-- Longest name a manifest may hold. -/
def maxNameLen : Nat := 4096

/-- One turn of the manifest loop. -/
def parseManifestFile : TransferReader (String × UInt64 × UInt32) := do
  let nameLen := (← readU16).toNat
  if nameLen = 0 ∨ nameLen > maxNameLen then refuse (.invalidData "invalid filename length")
  else
    let name ← readText nameLen
    match sanitizeFilename name with
    | none => refuse (.invalidData "invalid filename")
    | some name =>
      let fileSize ← readU64
      let mode ← readU32
      return (name, fileSize, mode)

def parseSenderManifest : TransferReader FileManifest := do
  let fileCount := (← readU32).toNat
  if fileCount = 0 ∨ fileCount > maxManifestFiles then
    refuse (.invalidData "invalid file count")
  else
    let files ← readN parseManifestFile fileCount
    return { files }

/-! ### Reading the manifest back -/

theorem reads_readU16 (value : UInt16) : Reads readU16 (putU16 value) value :=
  Reads.field (putU16_length value) (ofNat_putU16 value)

theorem reads_readU32 (value : UInt32) : Reads readU32 (putU32 value) value :=
  Reads.field (putU32_length value) (ofNat_putU32 value)

theorem reads_readU64 (value : UInt64) : Reads readU64 (putU64 value) value :=
  Reads.field (putU64_length value) (ofNat_putU64 value)

theorem reads_readText {length : Nat} {text : String} (sized : (utf8 text).length = length) :
    Reads (readText length) (utf8 text) text := by
  apply (Reads.readExact sized).bind_pure
  rw [fromUtf8_utf8]
  exact Reads.pure text

/-- A name the server takes: short enough, and accepted by its check. -/
structure Nameable (name : String) : Prop where
  short : (utf8 name).length ≤ maxNameLen
  accepted : sanitizeFilename name = some name

/-- A name the server takes is not empty. -/
theorem Nameable.positive {name : String} (nameable : Nameable name) :
    (utf8 name).length ≠ 0 := by
  intro empty
  have blank : components (utf8 name) = [] := by
    rw [List.eq_nil_of_length_eq_zero empty]
    decide
  exact (sanitizeFilename_eq_some.mp nameable.accepted).2.2.2.2.1 blank

/-- The length of a name the server takes fits its field. -/
theorem Nameable.toNat_ofNat {name : String} (nameable : Nameable name) :
    (UInt16.ofNat (utf8 name).length).toNat = (utf8 name).length := by
  apply UInt16.toNat_ofNat_of_lt'
  have short := nameable.short
  unfold maxNameLen at short
  exact Nat.lt_of_le_of_lt short (by decide)

/-- A file whose name the server takes is parsed as it was announced. -/
theorem reads_parseManifestFile {file : String × UInt64 × UInt32} (nameable : Nameable file.1) :
    Reads parseManifestFile (putFile file) file := by
  obtain ⟨name, size, mode⟩ := file
  unfold parseManifestFile putFile
  apply (reads_readU16 _).bind
  have inBounds : ¬((utf8 name).length = 0 ∨ (utf8 name).length > maxNameLen) := by
    rintro (empty | long)
    · exact nameable.positive empty
    · exact absurd nameable.short (Nat.not_le.mpr long)
  rw [nameable.toNat_ofNat, if_neg inBounds]
  apply (reads_readText rfl).bind
  rw [nameable.accepted]
  -- The two numbers behind the name.
  apply (reads_readU64 size).bind
  apply (reads_readU32 mode).bind_pure
  exact Reads.pure _

/-- A manifest the server has room for is parsed as the sender wrote it. -/
theorem reads_parseSenderManifest {entries : List SendEntry} (some_ : entries ≠ [])
    (few : entries.length ≤ maxManifestFiles) (named : ∀ entry ∈ entries, Nameable entry.name) :
    Reads parseSenderManifest (writeSendManifest entries)
      { files := entries.map SendEntry.announced } := by
  have counted : (UInt32.ofNat entries.length).toNat = entries.length := by
    apply UInt32.toNat_ofNat_of_lt'
    unfold maxManifestFiles at few
    exact Nat.lt_of_le_of_lt few (by decide)
  have inBounds : ¬(entries.length = 0 ∨ entries.length > maxManifestFiles) := by
    rintro (empty | many)
    · exact some_ (List.eq_nil_of_length_eq_zero empty)
    · exact absurd few (Nat.not_le.mpr many)
  have files : Reads (readN parseManifestFile entries.length)
      (entries.flatMap fun entry => putFile entry.announced)
      (entries.map SendEntry.announced) := by
    have each : ∀ file ∈ entries.map SendEntry.announced,
        Reads parseManifestFile (putFile file) file := by
      intro file among
      obtain ⟨entry, offered, rfl⟩ := List.mem_map.mp among
      exact reads_parseManifestFile (named entry offered)
    have all := Reads.readN each
    rwa [List.length_map, List.flatMap_map] at all
  unfold parseSenderManifest writeSendManifest
  apply (reads_readU32 _).bind
  rw [counted, if_neg inBounds]
  apply files.bind_pure
  exact Reads.pure _

/-! ### What the server takes is well formed -/

/-- A file that was parsed carries a name the server takes. -/
theorem nameable_of_parseManifestFile {stream left : Bytes} {file : String × UInt64 × UInt32}
    (parsed : parseManifestFile stream = .ok file left) : Nameable file.1 := by
  unfold parseManifestFile at parsed
  obtain ⟨nameLen, afterLen, -, parsed⟩ := bind_eq_ok.mp parsed
  split at parsed
  · exact absurd parsed refuse_ne_ok
  · next inBounds =>
    push Not at inBounds
    obtain ⟨name, afterName, readName, parsed⟩ := bind_eq_ok.mp parsed
    cases allowed : sanitizeFilename name with
    | none =>
      rw [allowed] at parsed
      exact absurd parsed refuse_ne_ok
    | some accepted =>
      rw [allowed] at parsed
      obtain ⟨size, afterSize, -, parsed⟩ := bind_eq_ok.mp parsed
      obtain ⟨mode, afterMode, -, parsed⟩ := bind_eq_ok.mp parsed
      obtain ⟨rfl, -⟩ := pure_eq_ok.mp parsed
      obtain ⟨rfl, -⟩ := sanitizeFilename_eq_some.mp allowed
      refine ⟨?_, allowed⟩
      -- The name was spelled by as many bytes as its length field says.
      unfold readText at readName
      obtain ⟨bytes, between, readBytes, spelled⟩ := bind_eq_ok.mp readName
      cases text : fromUtf8 bytes with
      | none =>
        rw [text] at spelled
        exact absurd spelled refuse_ne_ok
      | some decoded =>
        rw [text] at spelled
        obtain ⟨rfl, -⟩ := pure_eq_ok.mp spelled
        show (utf8 decoded).length ≤ maxNameLen
        rw [utf8_of_fromUtf8 text, (readExact_eq_ok.mp readBytes).2]
        exact inBounds.2

/-- A manifest that was parsed holds some files, not too many, under names the server takes. -/
theorem wellFormed_of_parseSenderManifest {stream left : Bytes} {manifest : FileManifest}
    (parsed : parseSenderManifest stream = .ok manifest left) :
    manifest.files ≠ [] ∧ manifest.files.length ≤ maxManifestFiles ∧
      ∀ file ∈ manifest.files, Nameable file.1 := by
  unfold parseSenderManifest at parsed
  obtain ⟨fileCount, afterCount, -, parsed⟩ := bind_eq_ok.mp parsed
  split at parsed
  · exact absurd parsed refuse_ne_ok
  · next inBounds =>
    push Not at inBounds
    obtain ⟨files, afterFiles, readFiles, parsed⟩ := bind_eq_ok.mp parsed
    obtain ⟨rfl, -⟩ := pure_eq_ok.mp parsed
    obtain ⟨counted, named⟩ :=
      readN_eq_ok (fun _ _ _ read => nameable_of_parseManifestFile read) readFiles
    refine ⟨?_, ?_, named⟩
    · intro empty
      have blank : files = [] := empty
      rw [blank, List.length_nil] at counted
      exact inBounds.1 counted.symm
    · show files.length ≤ maxManifestFiles
      rw [counted]
      exact inBounds.2

/-- The server takes a manifest as offered exactly when its count and its names pass the checks. -/
theorem parseSenderManifest_iff {entries : List SendEntry} {rest : Bytes} :
    parseSenderManifest (writeSendManifest entries ++ rest) =
        .ok { files := entries.map SendEntry.announced } rest ↔
      entries ≠ [] ∧ entries.length ≤ maxManifestFiles ∧
        ∀ entry ∈ entries, Nameable entry.name := by
  constructor
  · intro parsed
    obtain ⟨some_, few, named⟩ := wellFormed_of_parseSenderManifest parsed
    rw [List.length_map] at few
    refine ⟨fun empty => some_ (by rw [empty]; rfl), few, ?_⟩
    intro entry offered
    exact named _ (List.mem_map_of_mem offered)
  · rintro ⟨some_, few, named⟩
    exact reads_parseSenderManifest some_ few named rest

/-! ### A manifest is taken as written, or dropped -/

/-- A file whose name the server does not take is reported, wherever it stands. -/
theorem parseManifestFile_refuses {file : String × UInt64 × UInt32}
    (fits : (utf8 file.1).length < 2 ^ 16) (bad : ¬Nameable file.1) (rest : Bytes) :
    ∃ reason left, parseManifestFile (putFile file ++ rest) = .error reason left := by
  obtain ⟨name, size, mode⟩ := file
  have counted : (UInt16.ofNat (utf8 name).length).toNat = (utf8 name).length :=
    UInt16.toNat_ofNat_of_lt' fits
  cases parsed : parseManifestFile (putFile (name, size, mode) ++ rest) with
  | error reason left => exact ⟨reason, left, rfl⟩
  | ok value left =>
    exfalso
    apply bad
    unfold parseManifestFile putFile at parsed
    rw [List.append_assoc] at parsed
    -- The reader finds the length, then the name it belongs to.
    obtain ⟨nameLen, afterLen, readLen, parsed⟩ := bind_eq_ok.mp parsed
    rw [reads_readU16 (UInt16.ofNat (utf8 name).length)] at readLen
    obtain ⟨rfl, rfl⟩ := EStateM.Result.ok.inj readLen
    rw [counted] at parsed
    split at parsed
    · exact absurd parsed refuse_ne_ok
    · next inBounds =>
      push Not at inBounds
      obtain ⟨text, afterName, readName, parsed⟩ := bind_eq_ok.mp parsed
      rw [List.append_assoc, reads_readText rfl] at readName
      obtain ⟨rfl, rfl⟩ := EStateM.Result.ok.inj readName
      cases allowed : sanitizeFilename name with
      | none =>
        rw [allowed] at parsed
        exact absurd parsed refuse_ne_ok
      | some accepted =>
        obtain ⟨rfl, -⟩ := sanitizeFilename_eq_some.mp allowed
        exact ⟨inBounds.2, allowed⟩

/-- One bad name among the files of a manifest is enough. -/
theorem readFiles_refuses {files : List (String × UInt64 × UInt32)}
    (fits : ∀ file ∈ files, (utf8 file.1).length < 2 ^ 16)
    (bad : ∃ file ∈ files, ¬Nameable file.1) (rest : Bytes) :
    ∃ reason left,
      readN parseManifestFile files.length (files.flatMap putFile ++ rest) = .error reason left := by
  induction files with
  | nil =>
    obtain ⟨file, none_, -⟩ := bad
    exact absurd none_ List.not_mem_nil
  | cons first others ih =>
    rw [List.flatMap_cons, List.append_assoc, List.length_cons, readN]
    by_cases nameable : Nameable first.1
    · -- The first file is read, and the bad one is among the others.
      have later : ∃ file ∈ others, ¬Nameable file.1 := by
        obtain ⟨file, among, unnamed⟩ := bad
        rcases List.mem_cons.mp among with rfl | there
        · exact absurd nameable unnamed
        · exact ⟨file, there, unnamed⟩
      obtain ⟨reason, left, refused⟩ :=
        ih (fun file among => fits file (List.mem_cons_of_mem first among)) later
      refine ⟨reason, left, ?_⟩
      rw [bind_of_ok (reads_parseManifestFile nameable _)]
      exact bind_of_error refused
    · obtain ⟨reason, left, refused⟩ :=
        parseManifestFile_refuses (fits first List.mem_cons_self) nameable
          (others.flatMap putFile ++ rest)
      exact ⟨reason, left, bind_of_error refused⟩

/--
A manifest is parsed as it was written, or it is refused.

The count and the lengths only have to fit their fields.
-/
theorem parseSenderManifest_dichotomy {entries : List SendEntry}
    (counted : entries.length < 2 ^ 32)
    (fits : ∀ entry ∈ entries, (utf8 entry.name).length < 2 ^ 16) (rest : Bytes) :
    parseSenderManifest (writeSendManifest entries ++ rest) =
        .ok { files := entries.map SendEntry.announced } rest ∨
      ∃ reason left,
        parseSenderManifest (writeSendManifest entries ++ rest) = .error reason left := by
  by_cases good : entries ≠ [] ∧ entries.length ≤ maxManifestFiles ∧
      ∀ entry ∈ entries, Nameable entry.name
  · exact Or.inl (parseSenderManifest_iff.mpr good)
  · refine Or.inr ?_
    have count : (UInt32.ofNat entries.length).toNat = entries.length := by
      rw [UInt32.toNat_ofNat', Nat.mod_eq_of_lt counted]
    unfold parseSenderManifest writeSendManifest
    rw [List.append_assoc, bind_of_ok (reads_readU32 (UInt32.ofNat entries.length) _),
      count]
    split
    · exact ⟨_, _, refuse_eq_error _ _⟩
    · next inBounds =>
      -- The count passes, so that a name does not.
      push Not at inBounds
      have some_ : entries ≠ [] := by
        rintro rfl
        exact inBounds.1 rfl
      have bad : ∃ file ∈ entries.map SendEntry.announced, ¬Nameable file.1 := by
        by_contra none_
        push Not at none_
        exact good ⟨some_, inBounds.2, fun entry among =>
          none_ entry.announced (List.mem_map_of_mem among)⟩
      have allFit : ∀ file ∈ entries.map SendEntry.announced, (utf8 file.1).length < 2 ^ 16 := by
        intro file among
        obtain ⟨entry, there, rfl⟩ := List.mem_map.mp among
        exact fits entry there
      obtain ⟨reason, left, refused⟩ := readFiles_refuses allFit bad rest
      rw [List.length_map, List.flatMap_map] at refused
      exact ⟨reason, left, bind_of_error refused⟩

end Gritty
