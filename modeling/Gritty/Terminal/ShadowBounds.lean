import Gritty.Lib.Transition
import Gritty.Terminal.CursorMoves

/-! The arithmetic of the cursor's shadow, over every output of a session. -/

namespace Gritty

/-! ### Attributes -/

theorem pushSgr_length (sgr : List Bytes) (segment : Bytes) :
    (pushSgr sgr segment).length ≤ maxSgrSegments := by
  unfold pushSgr
  split
  · exact Nat.succ_le_of_lt (by decide)
  · next few =>
    rw [List.length_append, List.length_singleton]
    exact Nat.lt_of_not_le few

/-- No sequence leaves too many attributes. -/
theorem applyTokens_length {sgr : List Bytes} (few : sgr.length ≤ maxSgrSegments)
    (tokens : List Bytes) : (applyTokens sgr tokens).length ≤ maxSgrSegments := by
  induction sgr, tokens using applyTokens.induct with
  | case1 sgr => rwa [applyTokens]
  | case2 sgr token later none_ ih =>
    rw [applyTokens, none_]
    exact ih few
  | case3 sgr token later zero ih =>
    rw [applyTokens, zero]
    exact ih (Nat.zero_le _)
  | case4 sgr token later number found nonzero colour others ih =>
    rw [applyTokens, found]
    simp only [if_neg nonzero, if_pos colour]
    exact ih (pushSgr_length sgr _)
  | case5 sgr token later number found nonzero colour ih =>
    rw [applyTokens, found]
    simp only [if_neg nonzero, if_neg colour]
    exact ih (pushSgr_length sgr token)

theorem applySgr_length {sgr : List Bytes} (few : sgr.length ≤ maxSgrSegments) (params : Bytes) :
    (applySgr sgr params).length ≤ maxSgrSegments := by
  unfold applySgr
  split
  · exact Nat.zero_le _
  · exact applyTokens_length few _

/-! ### Buffers -/

/-- The buffers of a parser hold no more than there is room for. -/
structure OutputParser.Bounded (parser : OutputParser) : Prop where
  utf8 : parser.utf8.length + parser.utf8Need ≤ 4
  csi : parser.csi.length ≤ maxCsiBytes

namespace OutputParser

variable {width : Char → Option (Fin 3)} {parser : OutputParser}

theorem bounded_new : new.Bounded := ⟨Nat.zero_le _, Nat.zero_le _⟩

/-- The first byte of a character keeps the parser's buffers bounded. -/
theorem Bounded.freshGlyph (bounded : parser.Bounded) (byte : UInt8) :
    (parser.freshGlyph byte).1.Bounded := by
  -- The longest characters have four bytes, the first one included.
  have room : ∀ need ≤ 3, [byte].length + need ≤ 4 := by
    intro need few
    rw [List.length_singleton]
    omega
  unfold OutputParser.freshGlyph
  split_ifs
  · exact bounded
  · exact ⟨room 1 (by decide), bounded.csi⟩
  · exact ⟨room 2 (by decide), bounded.csi⟩
  · exact ⟨room 3 (by decide), bounded.csi⟩
  · exact bounded

/-- A printed byte keeps the parser's buffers bounded. -/
theorem Bounded.printable (bounded : parser.Bounded) (byte : UInt8) :
    (parser.printable width byte).1.Bounded := by
  have emptied : ({ parser with utf8 := [], utf8Need := 0 } : OutputParser).Bounded :=
    ⟨Nat.zero_le _, bounded.csi⟩
  unfold OutputParser.printable
  -- A character is under way, or the byte stands by itself.
  split_ifs with inside continues last
  · exact emptied
  · -- A byte goes from those needed to those read.
    refine ⟨?_, bounded.csi⟩
    have room := bounded.utf8
    show (parser.utf8 ++ [byte]).length + (parser.utf8Need - 1) ≤ 4
    rw [List.length_append, List.length_singleton]
    omega
  · exact emptied.freshGlyph byte
  · exact bounded.freshGlyph byte

theorem Bounded.ground (bounded : parser.Bounded) (byte : UInt8) :
    (parser.ground width byte).1.Bounded := by
  unfold OutputParser.ground
  dsimp only
  split_ifs
  all_goals first
    | exact ⟨Nat.zero_le _, bounded.csi⟩
    | exact bounded.printable byte

theorem Bounded.esc (bounded : parser.Bounded) (byte : UInt8) : (parser.esc byte).1.Bounded := by
  unfold OutputParser.esc
  dsimp only
  split_ifs
  all_goals first
    | exact ⟨bounded.utf8, bounded.csi⟩
    | exact ⟨bounded.utf8, Nat.zero_le _⟩

/-- A byte within a sequence keeps the parser's buffers bounded. -/
theorem Bounded.csiByte (bounded : parser.Bounded) (byte : UInt8) :
    (parser.csiByte byte).1.Bounded := by
  unfold OutputParser.csiByte
  -- A parameter byte is added only while there is room.
  split_ifs with parameter room
  · refine ⟨bounded.utf8, ?_⟩
    show (parser.csi ++ [byte]).length ≤ maxCsiBytes
    rw [List.length_append, List.length_singleton]
    exact room
  all_goals first
    | exact ⟨bounded.utf8, bounded.csi⟩
    | exact ⟨bounded.utf8, Nat.zero_le _⟩

/-- No byte of output overflows a buffer. -/
theorem Bounded.step (bounded : parser.Bounded) (byte : UInt8) :
    (parser.step width byte).1.Bounded := by
  unfold OutputParser.step
  split
  · exact bounded.ground byte
  · exact bounded.esc byte
  · exact ⟨bounded.utf8, bounded.csi⟩
  · exact bounded.csiByte byte
  · split_ifs <;> exact ⟨bounded.utf8, bounded.csi⟩
  · exact ⟨bounded.utf8, bounded.csi⟩

end OutputParser

/-! ### Columns -/

namespace LineShadow

/-- The greatest column there can be: one past the last one, or the last one that has a number. -/
def greatestCol (cols : Nat) : Nat := if cols = 0 then 2 ^ 64 - 2 else cols

/-- Columns and attributes stay within their limits. -/
structure Bounded (shadow : LineShadow) : Prop where
  parser : shadow.parser.Bounded
  cols : shadow.cols < 2 ^ 16
  col : shadow.col ≤ greatestCol shadow.cols
  sgr : shadow.sgr.length ≤ maxSgrSegments
  saved : ∀ col sgr, shadow.saved = some (col, sgr) →
    col ≤ greatestCol shadow.cols ∧ sgr.length ≤ maxSgrSegments

/-- On a terminal of known width, the cursor is at most one past the last column. -/
theorem Bounded.col_le {shadow : LineShadow} (bounded : shadow.Bounded) (known : shadow.cols ≠ 0) :
    shadow.col ≤ shadow.cols := by
  have limit := bounded.col
  rwa [greatestCol, if_neg known] at limit

/-- Where a move would take the cursor on a line that never ends. -/
def reach (shadow : LineShadow) : CursorMove → Nat
  | .print width => shadow.col + width
  | .column col => col
  | .forward count => shadow.col + count
  | .tab => shadow.col / 8 * 8 + 8
  | _ => 0

variable {shadow : LineShadow}

theorem bounded_new (cols : UInt16) : (new cols).Bounded where
  parser := OutputParser.bounded_new
  cols := cols.toNat_lt
  col := Nat.zero_le _
  sgr := Nat.zero_le _
  saved _ _ none_ := by cases none_

/-- A shadow within its limits can be restored. -/
theorem Bounded.restores (bounded : shadow.Bounded) : shadow.restoreSequence.isSome = true := by
  have limit := bounded.col
  have narrow := bounded.cols
  unfold greatestCol at limit
  -- The column is one of the terminal's, or as far as there are numbers.
  have fits : shadow.restoreCol + 1 < 2 ^ 64 := by
    unfold restoreCol
    split_ifs at limit ⊢ <;> omega
  unfold restoreSequence checkedAdd
  rw [if_pos fits]
  split <;> rfl

/-- A column within the limits keeps a shadow within them. -/
theorem Bounded.withCol (bounded : shadow.Bounded) {col : Nat}
    (limit : col ≤ greatestCol shadow.cols) : { shadow with col }.Bounded :=
  ⟨bounded.parser, bounded.cols, limit, bounded.sgr, bounded.saved⟩

theorem Bounded.setCol (bounded : shadow.Bounded) {col : Nat}
    (below : shadow.cols ≠ 0 ∨ col < 2 ^ 64 - 1) : (shadow.setCol col).Bounded := by
  apply bounded.withCol
  unfold greatestCol
  split_ifs <;> omega

/-- A sum below the limit is the sum. -/
theorem checkedAdd_of_lt {one other : Nat} (small : one + other < 2 ^ 64) :
    checkedAdd one other = some (one + other) := if_pos small

/-- A printed character moves the cursor without an overflow. -/
theorem Bounded.advance (bounded : shadow.Bounded) {width : Nat} (narrow : width ≤ 2)
    (below : shadow.cols ≠ 0 ∨ shadow.col + width < 2 ^ 64 - 1) :
    ∃ next, shadow.advance width = some next ∧ next.Bounded := by
  -- The column is within its limit, and the width of the terminal is small.
  have limit := bounded.col
  have cols := bounded.cols
  unfold greatestCol at limit
  unfold LineShadow.advance
  by_cases zero : width = 0
  · rw [if_pos zero]
    exact ⟨shadow, rfl, bounded⟩
  rw [if_neg zero]
  by_cases unknown : shadow.cols = 0
  · -- Nothing wraps, and the column grows as far as it was said to.
    have small := below.resolve_left (not_not.mpr unknown)
    rw [if_pos unknown] at limit ⊢
    rw [checkedAdd_of_lt (by omega)]
    refine ⟨_, rfl, bounded.withCol ?_⟩
    rw [greatestCol, if_pos unknown]
    omega
  · -- The column is at most the width, which has 16 bits.
    rw [if_neg unknown] at limit ⊢
    rw [checkedAdd_of_lt (show shadow.col + width < 2 ^ 64 by omega)]
    have last : ∀ col, min col shadow.cols ≤ greatestCol shadow.cols := by
      intro col
      rw [greatestCol, if_neg unknown]
      exact Nat.min_le_right _ _
    split_ifs with wraps
    · rw [Option.bind_some, checkedAdd_of_lt (by split_ifs <;> omega)]
      exact ⟨_, rfl, bounded.withCol (last _)⟩
    · refine ⟨_, rfl, bounded.withCol ?_⟩
      rw [greatestCol, if_neg unknown]
      omega

/-- A tab moves the cursor without an overflow. -/
theorem Bounded.tab (bounded : shadow.Bounded)
    (below : shadow.cols ≠ 0 ∨ shadow.col / 8 * 8 + 8 < 2 ^ 64 - 1) :
    ∃ next, shadow.tab = some next ∧ next.Bounded := by
  have limit := bounded.col
  have cols := bounded.cols
  unfold greatestCol at limit
  -- A column below the limit has its tab stop below the end of the numbers.
  have small : shadow.col / 8 * 8 + 8 < 2 ^ 64 := by
    split_ifs at limit <;> omega
  unfold LineShadow.tab
  rw [checkedAdd_of_lt small]
  refine ⟨_, rfl, bounded.withCol ?_⟩
  unfold greatestCol
  split_ifs <;> omega

/-- A move that stays before the end of the numbers overflows nothing. -/
theorem Bounded.move (bounded : shadow.Bounded) {move : CursorMove}
    (below : shadow.cols ≠ 0 ∨ shadow.reach move < 2 ^ 64 - 1) :
    ∃ next, shadow.move move = some next ∧ next.Bounded := by
  cases move with
  | stay => exact ⟨shadow, rfl, bounded⟩
  | print width => exact bounded.advance (Nat.le_of_lt_succ width.isLt) below
  | column col => exact ⟨_, rfl, bounded.setCol below⟩
  | forward count =>
    refine ⟨_, rfl, bounded.setCol (below.imp_right fun small => ?_)⟩
    exact Nat.lt_of_le_of_lt (Nat.min_le_left _ _) small
  | back count => exact ⟨_, rfl, bounded.withCol (Nat.le_trans (Nat.sub_le _ _) bounded.col)⟩
  | tab => exact bounded.tab below
  -- What is saved is what the shadow has now.
  | save =>
    refine ⟨_, rfl, bounded.parser, bounded.cols, bounded.col, bounded.sgr, ?_⟩
    rintro col sgr ⟨⟩
    exact ⟨bounded.col, bounded.sgr⟩
  -- What comes back was saved within the limits.
  | restore =>
    rcases kept : shadow.saved with _ | ⟨col, sgr⟩
    · exact ⟨shadow, by simp only [LineShadow.move, kept], bounded⟩
    · obtain ⟨limit, few⟩ := bounded.saved col sgr kept
      refine ⟨{ shadow with col, sgr }, by simp only [LineShadow.move, kept], ?_⟩
      exact ⟨bounded.parser, bounded.cols, limit, few, bounded.saved⟩
  | reset =>
    refine ⟨_, rfl, bounded.parser, bounded.cols, Nat.zero_le _, Nat.zero_le _, ?_⟩
    rintro col sgr ⟨⟩
  | wrapMode on =>
    exact ⟨_, rfl, bounded.parser, bounded.cols, bounded.col, bounded.sgr, bounded.saved⟩
  | attributes params =>
    exact ⟨_, rfl, bounded.parser, bounded.cols, bounded.col,
      applySgr_length bounded.sgr params, bounded.saved⟩

end LineShadow

/-! ### Over every output -/

namespace LineShadow

variable {shadow : LineShadow}

/-- On a terminal of unknown width, the last column of all has no number to go back to. -/
theorem restoreSequence_far (unknown : shadow.cols = 0) (far : 2 ^ 64 - 1 ≤ shadow.col) :
    shadow.restoreSequence = none := by
  have here : shadow.restoreCol = shadow.col := by
    rw [restoreCol, unknown, if_neg (Nat.lt_irrefl 0)]
  have past : ¬ shadow.col + 1 < 2 ^ 64 := by omega
  have some_ : ¬ shadow.col = 0 := by omega
  unfold restoreSequence checkedAdd
  rw [here, if_neg some_, if_neg past]
  rfl

/-- A sum is the sum, or past the end of the numbers. -/
theorem checkedAdd_cases (one other : Nat) :
    checkedAdd one other = some (one + other) ∨ checkedAdd one other = none := by
  unfold checkedAdd
  split
  · exact Or.inl rfl
  · exact Or.inr rfl

/-- A move to the end of the numbers overflows, at the latest when the cursor is restored. -/
theorem Bounded.move_far (bounded : shadow.Bounded) {move : CursorMove}
    (unknown : shadow.cols = 0) (far : 2 ^ 64 - 1 ≤ shadow.reach move) :
    shadow.move move = none ∨
      ∃ next, shadow.move move = some next ∧ next.restoreSequence = none := by
  -- A column that has a number is below the last one.
  have limit : shadow.col ≤ 2 ^ 64 - 2 := by
    have limit := bounded.col
    rwa [greatestCol, if_pos unknown] at limit
  have notKnown : ¬ 0 < shadow.cols := by omega
  -- Wherever the move leads, it leads to the end of the numbers.
  have ended : ∀ col, 2 ^ 64 - 1 ≤ col → ({ shadow with col } : LineShadow).restoreSequence = none :=
    fun col past => restoreSequence_far unknown past
  have gone : ∀ col, 2 ^ 64 - 1 ≤ col → (shadow.setCol col).restoreSequence = none := by
    intro col past
    rw [LineShadow.setCol, if_neg notKnown]
    exact ended col past
  -- Only four moves lead forward.
  cases move with
  | print width =>
    have positive : ¬ (width : Nat) = 0 := by
      intro zero
      simp only [reach, zero] at far
      omega
    show shadow.advance width = none ∨ _
    simp only [LineShadow.move, LineShadow.advance, if_neg positive, if_pos unknown]
    rcases checkedAdd_cases shadow.col width with added | overflow
    · rw [added]
      exact Or.inr ⟨_, rfl, ended _ far⟩
    · rw [overflow]
      exact Or.inl rfl
  -- A column that is given is not limited by anything.
  | column col => exact Or.inr ⟨_, rfl, gone col far⟩
  | forward count =>
    -- The sum stops at the greatest number.
    refine Or.inr ⟨_, rfl, gone _ (Nat.le_min.mpr ⟨far, Nat.le_refl _⟩)⟩
  | tab =>
    show shadow.tab = none ∨ _
    simp only [LineShadow.move, LineShadow.tab, if_neg notKnown]
    rcases checkedAdd_cases (shadow.col / 8 * 8) 8 with added | overflow
    · rw [added]
      exact Or.inr ⟨_, rfl, ended _ far⟩
    · rw [overflow]
      exact Or.inl rfl
  | _ => exact absurd far (Nat.not_le_of_lt (show 0 < 2 ^ 64 - 1 by decide))

end LineShadow

/-- A shadow that follows the output of a terminal. It is gone once its arithmetic overflows. -/
def shadowing (width : Char → Option (Fin 3)) (cols : UInt16) :
    Machine (Option LineShadow) UInt8 where
  init := some (.new cols)
  step
    | some shadow, byte => some (shadow.step width byte)
    | none, _ => none

/-- Nothing has overflowed, nor does it when the cursor is restored, and all buffers have room. -/
def NothingOverflows : Option LineShadow → Prop
  | none => False
  | some shadow =>
    shadow.restoreSequence.isSome = true ∧
      shadow.utf8.length + shadow.utf8Need ≤ 4 ∧ shadow.csi.length ≤ maxCsiBytes ∧
      shadow.sgr.length ≤ maxSgrSegments ∧
      (∀ col sgr, shadow.saved = some (col, sgr) → sgr.length ≤ maxSgrSegments) ∧
      (1 ≤ shadow.cols → shadow.col ≤ shadow.cols)

/-- The width of the terminal is known, or the byte does not take the cursor to the end of the numbers. -/
def StaysBeforeEnd (width : Char → Option (Fin 3)) : Option LineShadow → UInt8 → Prop
  | none, _ => True
  | some shadow, byte =>
    shadow.cols ≠ 0 ∨ shadow.reach (shadow.parser.step width byte).2 < 2 ^ 64 - 1

section

variable {width : Char → Option (Fin 3)}

/-- Where the shadow is bounded, nothing has overflowed. -/
theorem LineShadow.Bounded.nothingOverflows {shadow : LineShadow} (bounded : shadow.Bounded) :
    NothingOverflows (some shadow) := by
  refine ⟨bounded.restores, bounded.parser.utf8, bounded.parser.csi, bounded.sgr,
    fun col sgr kept => (bounded.saved col sgr kept).2, fun known => ?_⟩
  exact bounded.col_le (Nat.ne_of_gt known)

/-- The parser of a shadow moves on with every byte. -/
theorem LineShadow.Bounded.withParser {shadow : LineShadow} (bounded : shadow.Bounded)
    (byte : UInt8) : (shadow.withParser (shadow.parser.step width byte).1).Bounded :=
  ⟨bounded.parser.step byte, bounded.cols, bounded.col, bounded.sgr, bounded.saved⟩

/-- A byte that stays before the end of the numbers keeps a shadow within its limits. -/
theorem LineShadow.Bounded.step {shadow : LineShadow} (bounded : shadow.Bounded) {byte : UInt8}
    (below : shadow.cols ≠ 0 ∨ shadow.reach (shadow.parser.step width byte).2 < 2 ^ 64 - 1) :
    ∃ next, shadow.step width byte = some next ∧ next.Bounded := by
  rw [step_eq bounded.parser.utf8 byte]
  exact (bounded.withParser byte).move below

/-- On a terminal of known width every byte is followed. -/
theorem LineShadow.Bounded.step_known {shadow : LineShadow} (bounded : shadow.Bounded)
    (known : shadow.cols ≠ 0) (byte : UInt8) :
    ∃ next, shadow.step width byte = some next ∧ next.Bounded ∧ next.cols = shadow.cols := by
  have below : shadow.cols ≠ 0 ∨ shadow.reach (shadow.parser.step width byte).2 < 2 ^ 64 - 1 :=
    Or.inl known
  -- The width is known, so no byte leads to the end of the numbers.
  obtain ⟨next, stepped, kept⟩ := bounded.step below
  refine ⟨next, stepped, kept, ?_⟩
  rw [step_eq bounded.parser.utf8] at stepped
  have same := (move_keeps stepped).1
  exact same

/-- On a terminal of known width every output is followed to its end. -/
theorem LineShadow.Bounded.scan {shadow : LineShadow} (bounded : shadow.Bounded)
    (known : shadow.cols ≠ 0) (output : Bytes) :
    ∃ last, shadow.scan width output = some last ∧ last.Bounded ∧ last.cols = shadow.cols := by
  unfold LineShadow.scan
  induction output generalizing shadow with
  | nil => exact ⟨shadow, rfl, bounded, rfl⟩
  | cons byte output ih =>
    obtain ⟨next, stepped, kept, same⟩ := bounded.step_known known byte
    obtain ⟨last, scanned, ended, cols⟩ := ih kept (same ▸ known)
    refine ⟨last, ?_, ended, cols.trans same⟩
    rw [List.foldlM_cons, stepped]
    exact scanned

/-- Nothing overflows exactly as long as no byte takes the cursor of an unlimited line to its end. -/
theorem nothingOverflows_along (cols : UInt16) (output : Bytes) :
    (shadowing width cols).Along NothingOverflows (some (.new cols)) output ↔
      (shadowing width cols).Meets (StaysBeforeEnd width) (some (.new cols)) output := by
  -- A shadow that is still there is within its limits.
  have holds : ∀ state : Option LineShadow, (∃ shadow, state = some shadow ∧ shadow.Bounded) →
      NothingOverflows state := by
    rintro _ ⟨shadow, rfl, bounded⟩
    exact bounded.nothingOverflows
  have preserved : ∀ (state : Option LineShadow) (byte : UInt8) (next : Option LineShadow),
      (∃ shadow, state = some shadow ∧ shadow.Bounded) → StaysBeforeEnd width state byte →
        (shadowing width cols).step state byte = some next →
          ∃ shadow, next = some shadow ∧ shadow.Bounded := by
    rintro _ byte next ⟨shadow, rfl, bounded⟩ below stepped
    obtain ⟨after, moved, kept⟩ := bounded.step below
    cases stepped
    exact ⟨after, moved, kept⟩
  -- A byte that leads to the end overflows, now or when the cursor is restored.
  have broken : ∀ (state : Option LineShadow) (byte : UInt8),
      (∃ shadow, state = some shadow ∧ shadow.Bounded) → ¬ StaysBeforeEnd width state byte →
        ∃ next, (shadowing width cols).step state byte = some next ∧ ¬ NothingOverflows next := by
    rintro _ byte ⟨shadow, rfl, bounded⟩ far
    obtain ⟨unknown, reached⟩ := not_or.mp far
    refine ⟨shadow.step width byte, rfl, fun fine => ?_⟩
    rw [LineShadow.step_eq bounded.parser.utf8 byte] at fine
    rcases (bounded.withParser byte).move_far (not_not.mp unknown) (not_lt.mp reached) with
      overflow | ⟨next, moved, gone⟩
    · rw [overflow] at fine
      exact fine
    · rw [moved] at fine
      have restores := fine.1
      rw [gone] at restores
      cases restores
  exact Machine.along_iff_meets holds preserved broken ⟨_, rfl, LineShadow.bounded_new cols⟩ output

/-- Numbers of 64 bits in a control sequence of a terminal of unknown width, and two glyphs. -/
def farOutput : Bytes :=
  [0x1b, 0x5b] ++ ascii "18446744073709551615G" ++ ascii "ab"

/-- Two glyphs past the last column that has a number overflow. -/
theorem column_overflows :
    ¬ (shadowing (fun _ => some 1) 0).Along NothingOverflows (some (.new 0)) farOutput := by
  intro along
  have overflowed : (shadowing (fun _ => some 1) 0).run (some (.new 0)) farOutput = some none := by
    decide +kernel
  exact along.last overflowed

end

end Gritty
