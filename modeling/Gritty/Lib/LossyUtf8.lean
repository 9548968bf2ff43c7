import Mathlib.Tactic
import Gritty.Lib.BigEndian
import Gritty.Lib.Transducer

/-! Bytes read as UTF-8, with a replacement character for whatever is not valid. -/

namespace Gritty

/-- An encoded character whose first bytes have been read. -/
structure PartialChar where
  /-- The bits read so far. -/
  value : Nat
  /-- How many continuation bytes are owed after the next one. -/
  more : Nat
  /-- The least and the greatest byte that may come next. -/
  low : Nat
  high : Nat
  deriving DecidableEq

/-- What stands for a malformed sequence. -/
def replacementChar : Char := Char.ofNat 0xFFFD

/-- The character that a byte outside ASCII begins, if any does. -/
def leading (byte : Nat) : Option PartialChar :=
  if 0xC2 ≤ byte ∧ byte ≤ 0xDF then some ⟨byte - 0xC0, 0, 0x80, 0xBF⟩
  else if byte = 0xE0 then some ⟨0, 1, 0xA0, 0xBF⟩
  else if byte = 0xED then some ⟨0xD, 1, 0x80, 0x9F⟩
  else if 0xE1 ≤ byte ∧ byte ≤ 0xEF then some ⟨byte - 0xE0, 1, 0x80, 0xBF⟩
  else if byte = 0xF0 then some ⟨0, 2, 0x90, 0xBF⟩
  else if 0xF1 ≤ byte ∧ byte ≤ 0xF3 then some ⟨byte - 0xF0, 2, 0x80, 0xBF⟩
  else if byte = 0xF4 then some ⟨4, 2, 0x80, 0x8F⟩
  else none

/-- Read a byte between characters. -/
def startChar (byte : UInt8) : Option PartialChar × List Char :=
  if byte.toNat < 0x80 then (none, [Char.ofNat byte.toNat])
  else match leading byte.toNat with
    | some part => (some part, [])
    | none => (none, [replacementChar])

/-- Read a byte inside a character. A byte that does not belong there starts the next one. -/
def continueChar (part : PartialChar) (byte : UInt8) : Option PartialChar × List Char :=
  if part.low ≤ byte.toNat ∧ byte.toNat ≤ part.high then
    let value := part.value * 64 + (byte.toNat - 0x80)
    match part.more with
    | 0 => (none, [Char.ofNat value])
    | more + 1 => (some { value, more, low := 0x80, high := 0xBF }, [])
  else
    let (next, written) := startChar byte
    (next, replacementChar :: written)

/-- The decoder. -/
def lossyDecoder : Transducer (Option PartialChar) UInt8 Char where
  step
    | none, byte => startChar byte
    | some part, byte => continueChar part byte

/-- What the end of the input makes of a character that is not complete. -/
def flushChar : Option PartialChar → List Char
  | none => []
  | some _ => [replacementChar]

/-- The characters a byte string reads as, from the middle of a character. -/
def lossyFrom (state : Option PartialChar) (bytes : Bytes) : List Char :=
  (lossyDecoder.run state bytes).2 ++ flushChar (lossyDecoder.run state bytes).1

/-- The characters a byte string reads as. -/
def lossyChars (bytes : Bytes) : List Char := lossyFrom none bytes

def toStringLossy (bytes : Bytes) : String := String.ofList (lossyChars bytes)

theorem lossyFrom_cons (state : Option PartialChar) (byte : UInt8) (rest : Bytes) :
    lossyFrom state (byte :: rest) =
      (lossyDecoder.step state byte).2 ++ lossyFrom (lossyDecoder.step state byte).1 rest := by
  simp only [lossyFrom, Transducer.run_cons, List.append_assoc]

/-! ### Characters in progress -/

/-- The least character that can come of the bytes read so far. -/
def PartialChar.least (part : PartialChar) : Nat :=
  part.value * 64 ^ (part.more + 1) + (part.low - 0x80) * 64 ^ part.more

/-- The greatest character that can come of the bytes read so far. -/
def PartialChar.greatest (part : PartialChar) : Nat :=
  part.value * 64 ^ (part.more + 1) + (part.high - 0x80) * 64 ^ part.more + (64 ^ part.more - 1)

/-- A character in progress ends as a scalar value outside ASCII. -/
structure PartialChar.Proper (part : PartialChar) : Prop where
  short : part.more ≤ 2
  low : 0x80 ≤ part.low
  high : part.high ≤ 0xBF
  notAscii : 0x80 ≤ part.least
  scalar : part.greatest < 0xD800 ∨ 0xDFFF < part.least
  bounded : part.greatest < 0x110000

/-- A first byte begins a proper character. -/
theorem leading_proper {byte : Nat} {part : PartialChar} (begins : leading byte = some part) :
    part.Proper := by
  unfold leading at begins
  -- Seven ranges of first bytes, each with its own bounds on the second one.
  split_ifs at begins
  all_goals first
    | contradiction
    | obtain rfl := Option.some.inj begins
      constructor <;> simp only [PartialChar.least, PartialChar.greatest] <;> omega

/-- A byte that begins a character leaves a proper part of one. -/
theorem startChar_proper {byte : UInt8} {part : PartialChar}
    (begins : (startChar byte).1 = some part) : part.Proper := by
  unfold startChar at begins
  split at begins
  · cases begins
  · cases first : leading byte.toNat with
    | none =>
      rw [first] at begins
      cases begins
    | some other =>
      rw [first] at begins
      cases begins
      exact leading_proper first

/-- A further byte keeps a character proper. -/
theorem continueChar_proper {part next : PartialChar} (proper : part.Proper) {byte : UInt8}
    (goes : (continueChar part byte).1 = some next) : next.Proper := by
  obtain ⟨value, more, low, high⟩ := part
  obtain ⟨short, above, below, notAscii, scalar, bounded⟩ := proper
  simp only [PartialChar.least, PartialChar.greatest] at *
  unfold continueChar at goes
  split at goes
  · next inside =>
    dsimp only at inside
    cases more with
    | zero => cases goes
    | succ more =>
      obtain rfl := Option.some.inj goes
      -- The interval of characters that are still possible only shrinks.
      have few : more = 0 ∨ more = 1 := by omega
      have least : low - 0x80 ≤ byte.toNat - 0x80 := Nat.sub_le_sub_right inside.1 _
      have greatest : byte.toNat - 0x80 ≤ high - 0x80 := Nat.sub_le_sub_right inside.2 _
      clear goes inside above below
      generalize byte.toNat - 0x80 = read at *
      generalize low - 0x80 = low at *
      generalize high - 0x80 = high at *
      rcases few with rfl | rfl
      all_goals
        norm_num at notAscii scalar bounded
        constructor <;> norm_num [PartialChar.least, PartialChar.greatest]
        · linarith
        · exact scalar.imp (fun below => by linarith) (fun above => by linarith)
        · linarith
  · exact startChar_proper goes

/-- A state of the decoder between or inside proper characters. -/
def ProperState (state : Option PartialChar) : Prop :=
  ∀ part, state = some part → part.Proper

theorem properState_none : ProperState none := by
  intro part inside
  cases inside

theorem step_proper {state : Option PartialChar} (proper : ProperState state) (byte : UInt8) :
    ProperState (lossyDecoder.step state byte).1 := by
  intro next goes
  cases state with
  | none => exact startChar_proper goes
  | some part => exact continueChar_proper (proper part rfl) goes

/-! ### ASCII passes through, and comes from nothing else -/

theorem toNat_ofNat_of_valid {value : Nat} (valid : value.isValidChar) :
    (Char.ofNat value).toNat = value := by
  unfold Char.ofNat
  rw [dif_pos valid]
  rfl

theorem toNat_replacementChar : replacementChar.toNat = 0xFFFD := by decide

/-- An ASCII byte ends whatever came before it and stands for itself. -/
theorem step_ascii {state : Option PartialChar} (proper : ProperState state) {byte : UInt8}
    (ascii : byte.toNat < 0x80) :
    lossyDecoder.step state byte = (none, flushChar state ++ [Char.ofNat byte.toNat]) := by
  have starts : startChar byte = (none, [Char.ofNat byte.toNat]) := by
    rw [startChar, if_pos ascii]
  cases state with
  | none => exact starts
  | some part =>
    -- No continuation byte is in the ASCII range.
    have outside : ¬(part.low ≤ byte.toNat ∧ byte.toNat ≤ part.high) := by
      have low := (proper part rfl).low
      omega
    show continueChar part byte = _
    unfold continueChar
    rw [if_neg outside, starts]
    rfl

/-- An ASCII byte is read as itself, and ends what was begun before it. -/
theorem lossyFrom_append_ascii {state : Option PartialChar} (proper : ProperState state)
    (front back : Bytes) {byte : UInt8} (ascii : byte.toNat < 0x80) :
    lossyFrom state (front ++ byte :: back) =
      lossyFrom state front ++ Char.ofNat byte.toNat :: lossyChars back := by
  induction front generalizing state with
  | nil =>
    rw [List.nil_append, lossyFrom_cons, step_ascii proper ascii]
    simp only [lossyFrom, lossyChars, Transducer.run_nil, List.nil_append, List.append_assoc,
      List.singleton_append]
  | cons first front ih =>
    rw [List.cons_append, lossyFrom_cons, lossyFrom_cons, ih (step_proper proper first),
      List.append_assoc]

/-- An ASCII byte splits the text where it stands. -/
theorem lossyChars_append_ascii (front back : Bytes) {byte : UInt8} (ascii : byte.toNat < 0x80) :
    lossyChars (front ++ byte :: back) =
      lossyChars front ++ Char.ofNat byte.toNat :: lossyChars back :=
  lossyFrom_append_ascii properState_none front back ascii

/-- What a first byte writes at once is that byte, or not ASCII. -/
theorem startChar_ascii {byte : UInt8} {char : Char} (written : char ∈ (startChar byte).2)
    (ascii : char.toNat < 0x80) : char.toNat = byte.toNat := by
  unfold startChar at written
  split at written
  · next low =>
    rw [List.mem_singleton.mp written]
    exact toNat_ofNat_of_valid (Or.inl (by omega))
  · cases first : leading byte.toNat with
    | some part =>
      rw [first] at written
      exact absurd written List.not_mem_nil
    | none =>
      rw [first] at written
      rw [List.mem_singleton.mp written, toNat_replacementChar] at ascii
      omega

/-- A byte inside a proper character writes nothing in ASCII but itself. -/
theorem continueChar_ascii {part : PartialChar} (proper : part.Proper) {byte : UInt8} {char : Char}
    (written : char ∈ (continueChar part byte).2) (ascii : char.toNat < 0x80) :
    char.toNat = byte.toNat := by
  unfold continueChar at written
  split at written
  · next inside =>
    obtain ⟨value, more, low, high⟩ := part
    cases more with
    | succ more => exact absurd written List.not_mem_nil
    | zero =>
      -- The finished character lies between the least and the greatest possible one.
      obtain ⟨-, -, -, notAscii, scalar, bounded⟩ := proper
      norm_num [PartialChar.least, PartialChar.greatest] at notAscii scalar bounded inside
      have finished := List.mem_singleton.mp written
      have above : value * 64 + (low - 0x80) ≤ value * 64 + (byte.toNat - 0x80) := by omega
      have below : value * 64 + (byte.toNat - 0x80) ≤ value * 64 + (high - 0x80) := by omega
      have valid : (value * 64 + (byte.toNat - 0x80)).isValidChar := by
        rcases scalar with low | high
        · exact Or.inl (by omega)
        · exact Or.inr ⟨by omega, by omega⟩
      rw [finished, toNat_ofNat_of_valid valid] at ascii
      omega
  · rcases List.mem_cons.mp written with same | later
    · rw [same, toNat_replacementChar] at ascii
      omega
    · exact startChar_ascii later ascii

/-- A byte is read as an ASCII character only if it is that character's. -/
theorem step_ascii_of_mem {state : Option PartialChar} (proper : ProperState state) {byte : UInt8}
    {char : Char} (written : char ∈ (lossyDecoder.step state byte).2)
    (ascii : char.toNat < 0x80) : char.toNat = byte.toNat := by
  cases state with
  | none => exact startChar_ascii written ascii
  | some part => exact continueChar_ascii (proper part rfl) written ascii

/-- An ASCII character of the text is a byte that was read. -/
theorem lossyFrom_ascii_of_mem {state : Option PartialChar} (proper : ProperState state)
    {bytes : Bytes} {char : Char} (among : char ∈ lossyFrom state bytes)
    (ascii : char.toNat < 0x80) : ∃ byte ∈ bytes, byte.toNat = char.toNat := by
  induction bytes generalizing state with
  | nil =>
    cases state with
    | none => exact absurd among List.not_mem_nil
    | some part =>
      have same : char = replacementChar := List.mem_singleton.mp among
      rw [same, toNat_replacementChar] at ascii
      omega
  | cons first rest ih =>
    rw [lossyFrom_cons] at among
    rcases List.mem_append.mp among with now | later
    · exact ⟨first, List.mem_cons_self, (step_ascii_of_mem proper now ascii).symm⟩
    · obtain ⟨byte, there, same⟩ := ih (step_proper proper first) later
      exact ⟨byte, List.mem_cons_of_mem first there, same⟩

theorem lossyChars_ascii_of_mem {bytes : Bytes} {char : Char} (among : char ∈ lossyChars bytes)
    (ascii : char.toNat < 0x80) : ∃ byte ∈ bytes, byte.toNat = char.toNat :=
  lossyFrom_ascii_of_mem properState_none among ascii

/-- A byte that writes nothing leaves a character in progress. -/
theorem step_progresses (state : Option PartialChar) (byte : UInt8) :
    (lossyDecoder.step state byte).2 ≠ [] ∨ flushChar (lossyDecoder.step state byte).1 ≠ [] := by
  have starts : (startChar byte).2 ≠ [] ∨ flushChar (startChar byte).1 ≠ [] := by
    unfold startChar
    split
    · exact Or.inl (List.cons_ne_nil _ _)
    · cases leading byte.toNat with
      | some part => exact Or.inr (List.cons_ne_nil _ _)
      | none => exact Or.inl (List.cons_ne_nil _ _)
  cases state with
  | none => exact starts
  | some part =>
    show (continueChar part byte).2 ≠ [] ∨ flushChar (continueChar part byte).1 ≠ []
    unfold continueChar
    split
    · cases part.more with
      | zero => exact Or.inl (List.cons_ne_nil _ _)
      | succ more => exact Or.inr (List.cons_ne_nil _ _)
    · exact Or.inl (List.cons_ne_nil _ _)

/-- Only the empty byte string reads as the empty text. -/
theorem lossyChars_eq_nil {bytes : Bytes} : lossyChars bytes = [] ↔ bytes = [] := by
  -- A text that was begun, or a character in progress, never comes to nothing.
  have begun : ∀ (bytes : Bytes) (state : Option PartialChar), flushChar state ≠ [] →
      lossyFrom state bytes ≠ [] := by
    intro bytes
    induction bytes with
    | nil => exact fun state pending => pending
    | cons byte rest ih =>
      intro state pending
      rw [lossyFrom_cons]
      rcases step_progresses state byte with wrote | inside
      · exact fun empty => wrote (List.append_eq_nil_iff.mp empty).1
      · exact fun empty => ih _ inside (List.append_eq_nil_iff.mp empty).2
  constructor
  · intro empty
    cases bytes with
    | nil => rfl
    | cons byte rest =>
      rw [lossyChars, lossyFrom_cons] at empty
      obtain ⟨wroteNothing, nothingLater⟩ := List.append_eq_nil_iff.mp empty
      rcases step_progresses none byte with wrote | inside
      · exact absurd wroteNothing wrote
      · exact absurd nothingLater (begun rest _ inside)
  · rintro rfl
    rfl

/-- A text in ASCII is the bytes it was read from. -/
theorem lossyChars_ascii {bytes : Bytes} (ascii : ∀ char ∈ lossyChars bytes, char.toNat < 0x80) :
    bytes.map (fun byte => Char.ofNat byte.toNat) = lossyChars bytes := by
  -- Split at any character of the text, and go on with the two shorter sides.
  generalize size : bytes.length = length
  induction length using Nat.strong_induction_on generalizing bytes with
  | _ length ih =>
    cases text : lossyChars bytes with
    | nil => rw [lossyChars_eq_nil.mp text]; rfl
    | cons char others =>
      have among : char ∈ lossyChars bytes := by rw [text]; exact List.mem_cons_self
      obtain ⟨byte, there, same⟩ := lossyChars_ascii_of_mem among (ascii char among)
      have low : byte.toNat < 0x80 := by
        rw [same]
        exact ascii char among
      obtain ⟨front, back, rfl⟩ := List.append_of_mem there
      rw [lossyChars_append_ascii front back low] at ascii text
      rw [List.length_append, List.length_cons] at size
      have left := ih front.length (by omega)
        (fun other found => ascii other (List.mem_append_left _ found)) rfl
      have right := ih back.length (by omega)
        (fun other found => ascii other
          (List.mem_append_right _ (List.mem_cons_of_mem _ found))) rfl
      rw [List.map_append, List.map_cons, left, right, text]

/-! ### Well-formed text -/

theorem toNat_ofNat_byte {value : Nat} (small : value < 256) :
    (UInt8.ofNat value).toNat = value := by
  rw [UInt8.toNat_ofNat']
  omega

/-- A byte that begins a character of several bytes. -/
theorem run_leading {value : Nat} {part : PartialChar} (small : value < 256)
    (begins : leading value = some part) (rest : Bytes) :
    lossyDecoder.run none (UInt8.ofNat value :: rest) = lossyDecoder.run (some part) rest := by
  have notAscii : ¬ value < 0x80 := by
    intro ascii
    unfold leading at begins
    split_ifs at begins <;> omega
  have read : lossyDecoder.step none (UInt8.ofNat value) = (some part, []) := by
    show startChar _ = _
    rw [startChar, toNat_ofNat_byte small, if_neg notAscii, begins]
  rw [Transducer.run_cons, read, List.nil_append]

/-- A byte that continues a character and does not end it. -/
theorem run_continues {bits more low high value : Nat} (small : value < 256)
    (least : low ≤ value) (greatest : value ≤ high) (rest : Bytes) :
    lossyDecoder.run (some ⟨bits, more + 1, low, high⟩) (UInt8.ofNat value :: rest) =
      lossyDecoder.run (some ⟨bits * 64 + (value - 0x80), more, 0x80, 0xBF⟩) rest := by
  have read : lossyDecoder.step (some ⟨bits, more + 1, low, high⟩) (UInt8.ofNat value) =
      (some ⟨bits * 64 + (value - 0x80), more, 0x80, 0xBF⟩, []) := by
    show continueChar _ _ = _
    rw [continueChar, toNat_ofNat_byte small, if_pos ⟨least, greatest⟩]
  rw [Transducer.run_cons, read, List.nil_append]

/-- The byte that ends a character. -/
theorem run_ends {bits low high value : Nat} (small : value < 256) (least : low ≤ value)
    (greatest : value ≤ high) :
    lossyDecoder.run (some ⟨bits, 0, low, high⟩) [UInt8.ofNat value] =
      (none, [Char.ofNat (bits * 64 + (value - 0x80))]) := by
  rw [Transducer.run_singleton]
  show continueChar _ _ = _
  rw [continueChar, toNat_ofNat_byte small, if_pos ⟨least, greatest⟩]

/-- The first byte of two. -/
theorem leading_two {bits : Nat} (least : 2 ≤ bits) (greatest : bits < 32) :
    leading (bits + 0xC0) = some ⟨bits, 0, 0x80, 0xBF⟩ := by
  rw [leading, if_pos (by omega), Nat.add_sub_cancel]

/-- The first byte of three. At the edges it bounds the byte that follows. -/
theorem leading_three {bits : Nat} (small : bits < 16) :
    leading (bits + 0xE0) = some ⟨bits, 1, if bits = 0 then 0xA0 else 0x80,
      if bits = 0xD then 0x9F else 0xBF⟩ := by
  interval_cases bits <;> rfl

/-- The first byte of four. At the edges it bounds the byte that follows. -/
theorem leading_four {bits : Nat} (small : bits < 5) :
    leading (bits + 0xF0) = some ⟨bits, 2, if bits = 0 then 0x90 else 0x80,
      if bits = 4 then 0x8F else 0xBF⟩ := by
  interval_cases bits <;> rfl

/-- A character is read back from its own encoding. -/
theorem run_utf8EncodeChar (char : Char) :
    lossyDecoder.run none (String.utf8EncodeChar char) = (none, [char]) := by
  have valid : char.val.toNat < 0xD800 ∨ 0xDFFF < char.val.toNat ∧ char.val.toNat < 0x110000 :=
    char.valid
  have back : Char.ofNat char.val.toNat = char := Char.ofNat_toNat char
  -- Characters of one, two, three and four bytes.
  unfold String.utf8EncodeChar
  generalize char.val.toNat = value at *
  dsimp only
  split_ifs with one two three
  · rw [Transducer.run_singleton]
    show startChar _ = _
    rw [startChar, toNat_ofNat_byte (by omega), if_pos (by omega), back]
  · rw [run_leading (by omega) (leading_two (by omega) (by omega)),
      run_ends (by omega) (by omega) (by omega), ← back]
    refine congrArg (fun code => (none, [Char.ofNat code])) ?_
    omega
  · rw [run_leading (by omega) (leading_three (by omega)),
      run_continues (by omega) (by split_ifs <;> omega) (by split_ifs <;> omega),
      run_ends (by omega) (by omega) (by omega), ← back]
    refine congrArg (fun code => (none, [Char.ofNat code])) ?_
    omega
  · rw [run_leading (by omega) (leading_four (by omega)),
      run_continues (by omega) (by split_ifs <;> omega) (by split_ifs <;> omega),
      run_continues (by omega) (by omega) (by omega),
      run_ends (by omega) (by omega) (by omega), ← back]
    refine congrArg (fun code => (none, [Char.ofNat code])) ?_
    omega

/-- A text is read back from its encoding. -/
theorem lossyChars_flatMap (text : List Char) :
    lossyChars (text.flatMap String.utf8EncodeChar) = text := by
  have read : lossyDecoder.run none (text.flatMap String.utf8EncodeChar) = (none, text) := by
    induction text with
    | nil => rfl
    | cons char later ih =>
      rw [List.flatMap_cons, Transducer.run_append, run_utf8EncodeChar, ih]
      rfl
  rw [lossyChars, lossyFrom, read]
  exact List.append_nil text

end Gritty
