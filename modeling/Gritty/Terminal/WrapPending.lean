import Gritty.Terminal.ShadowBounds

/-! A terminal that keeps a pending wrap apart from the column, and the shadow that keeps them as one number. -/

namespace Gritty

/-- The cursor of a terminal. -/
structure ReferenceCursor where
  cols : Nat
  /-- Always one of the columns there are. -/
  col : Nat
  /-- The next glyph wraps. -/
  pending : Bool
  autowrap : Bool
  saved : Option (Nat × Bool)
  deriving DecidableEq

namespace ReferenceCursor

/-- Print a glyph. One without a width joins the glyph before it. -/
def print (cursor : ReferenceCursor) (width : Nat) : ReferenceCursor :=
  if width = 0 then cursor
  else if cursor.autowrap then
    let col := if cursor.pending || cursor.cols < cursor.col + width then 0 else cursor.col
    -- The last column is never left by printing: the wrap waits for the next glyph.
    if col + width < cursor.cols then { cursor with col := col + width, pending := false }
    else { cursor with col := cursor.cols - 1, pending := true }
  else { cursor with col := min (cursor.col + width) (cursor.cols - 1), pending := false }

/-- Go to a column, or to the last one. -/
def goTo (cursor : ReferenceCursor) (col : Nat) : ReferenceCursor :=
  { cursor with col := min col (cursor.cols - 1), pending := false }

/-- Where a move takes a cursor. -/
def move (cursor : ReferenceCursor) : CursorMove → ReferenceCursor
  | .stay => cursor
  | .print width => cursor.print width
  | .column col => cursor.goTo col
  | .forward count => cursor.goTo (cursor.col + count)
  | .back count => { cursor with col := cursor.col - count, pending := false }
  | .tab => cursor.goTo (cursor.col / 8 * 8 + 8)
  | .save => { cursor with saved := some (cursor.col, cursor.pending) }
  | .restore =>
    match cursor.saved with
    | some (col, pending) => { cursor with col, pending }
    | none => cursor
  | .reset => { cursor with col := 0, pending := false, autowrap := true, saved := none }
  | .wrapMode on => { cursor with autowrap := on }
  | .attributes _ => cursor

end ReferenceCursor

/-- A terminal, as far as its cursor is concerned. -/
structure ReferenceTerminal where
  parser : OutputParser
  cursor : ReferenceCursor
  deriving DecidableEq

namespace ReferenceTerminal

/-- A terminal of a width, before any output. -/
def new (cols : UInt16) : ReferenceTerminal where
  parser := .new
  cursor := { cols := cols.toNat, col := 0, pending := false, autowrap := true, saved := none }

/-- One byte of output. -/
def step (width : Char → Option (Fin 3)) (terminal : ReferenceTerminal) (byte : UInt8) :
    ReferenceTerminal :=
  let (parser, move) := terminal.parser.step width byte
  { parser, cursor := terminal.cursor.move move }

end ReferenceTerminal

namespace LineShadow

/-- A column of a shadow, as column and pending wrap of a terminal. -/
def splitCol (cols col : Nat) : Nat × Bool := (min col (cols - 1), col = cols)

/-- The terminal that a shadow stands for. -/
def cursor (shadow : LineShadow) : ReferenceCursor where
  cols := shadow.cols
  col := (splitCol shadow.cols shadow.col).1
  pending := (splitCol shadow.cols shadow.col).2
  autowrap := shadow.autowrap
  saved := shadow.saved.map fun (col, _) => splitCol shadow.cols col

variable {shadow : LineShadow}

/-- On a terminal of known width, the shadow goes back to the terminal's column. -/
theorem restoreCol_eq (known : shadow.cols ≠ 0) : shadow.restoreCol = shadow.cursor.col :=
  if_pos (Nat.pos_of_ne_zero known)

/-- A shadow at one of the columns there are has no wrap pending. -/
theorem cursor_withCol {col : Nat} (inside : col < shadow.cols) :
    ({ shadow with col } : LineShadow).cursor =
      { shadow.cursor with col := col, pending := false } := by
  have there : min col (shadow.cols - 1) = col := by omega
  have short : decide (col = shadow.cols) = false := decide_eq_false (Nat.ne_of_lt inside)
  simp only [cursor, splitCol, there, short]

/-- A shadow past the last column has a wrap pending at the last column. -/
theorem cursor_full :
    ({ shadow with col := shadow.cols } : LineShadow).cursor =
      { shadow.cursor with col := shadow.cols - 1, pending := true } := by
  have last : min shadow.cols (shadow.cols - 1) = shadow.cols - 1 := by omega
  simp only [cursor, splitCol, last, decide_true]

/-- Setting the column moves the cursor there. -/
theorem setCol_cursor (known : shadow.cols ≠ 0) (col : Nat) :
    (shadow.setCol col).cursor = shadow.cursor.goTo col := by
  unfold setCol ReferenceCursor.goTo
  rw [if_pos (Nat.pos_of_ne_zero known)]
  exact cursor_withCol (by omega)

/-- A glyph goes where the terminal prints it. -/
theorem advance_cursor (bounded : shadow.Bounded) (known : shadow.cols ≠ 0) {width : Nat}
    (narrow : width ≤ 2) {next : LineShadow} (advanced : shadow.advance width = some next) :
    next.cursor = shadow.cursor.print width := by
  have limit := bounded.col_le known
  have cols := bounded.cols
  unfold advance at advanced
  unfold ReferenceCursor.print
  by_cases zero : width = 0
  -- A glyph without a width moves neither.
  · rw [if_pos zero] at advanced ⊢
    rw [Option.some.inj advanced]
  rw [if_neg zero, if_neg known, checkedAdd_of_lt (by omega)] at advanced
  rw [if_neg zero]
  have mode : shadow.cursor.autowrap = shadow.autowrap := rfl
  have size : shadow.cursor.cols = shadow.cols := rfl
  rw [mode, size]
  by_cases wraps : shadow.autowrap = true
  · rw [if_pos wraps, Option.bind_some, checkedAdd_of_lt (by split_ifs <;> omega)] at advanced
    cases advanced
    rw [if_pos wraps]
    -- The shadow's number is past the last column exactly when the terminal's wrap is pending.
    have start : (if (shadow.cursor.pending || decide (shadow.cols < shadow.cursor.col + width)) = true
        then 0 else shadow.cursor.col) =
        if shadow.cols < shadow.col + width then 0 else shadow.col := by
      have pending : shadow.cursor.pending = decide (shadow.col = shadow.cols) := rfl
      have col : shadow.cursor.col = min shadow.col (shadow.cols - 1) := rfl
      rw [pending, col]
      simp only [Bool.or_eq_true, decide_eq_true_eq]
      split_ifs <;> omega
    rw [start]
    -- From the column the glyph starts in, both do the same.
    generalize (if shadow.cols < shadow.col + width then 0 else shadow.col) = col
    dsimp only
    by_cases fits : col + width < shadow.cols
    · rw [if_pos fits, Nat.min_eq_left (Nat.le_of_lt fits)]
      exact cursor_withCol fits
    · rw [if_neg fits, Nat.min_eq_right (Nat.le_of_not_lt fits)]
      exact cursor_full
  -- Without wrapping, both stop at the last column.
  · rw [if_neg wraps] at advanced
    cases advanced
    rw [if_neg wraps]
    have same : min (shadow.col + width) (shadow.cols - 1) =
        min (shadow.cursor.col + width) (shadow.cols - 1) := by
      show _ = min (min shadow.col (shadow.cols - 1) + width) _
      omega
    rw [← same]
    exact cursor_withCol (by omega)

/-- A move takes the shadow where it takes the terminal, unless it leads back from a pending wrap. -/
theorem move_cursor (bounded : shadow.Bounded) (known : shadow.cols ≠ 0) {move : CursorMove}
    (still : ∀ count, move = .back count → shadow.col = shadow.cols → shadow.cols ≤ count)
    {next : LineShadow} (moved : shadow.move move = some next) :
    next.cursor = shadow.cursor.move move := by
  have limit := bounded.col_le known
  have narrow := bounded.cols
  -- Every move is one of the cases below, and only one of them is critical.
  cases move with
  | stay => rw [← Option.some.inj moved]; rfl
  | print width => exact advance_cursor bounded known (Nat.le_of_lt_succ width.isLt) moved
  | column col =>
    rw [← Option.some.inj moved]
    exact setCol_cursor known col
  | forward count =>
    -- Any number of columns from a pending wrap leads to the last column.
    have reached : shadow.cursor.goTo (saturatingAdd shadow.col count) =
        shadow.cursor.goTo (shadow.cursor.col + count) := by
      unfold ReferenceCursor.goTo saturatingAdd
      have size : shadow.cursor.cols = shadow.cols := rfl
      have col : shadow.cursor.col = min shadow.col (shadow.cols - 1) := rfl
      rw [size, col]
      have last : min (min (shadow.col + count) (2 ^ 64 - 1)) (shadow.cols - 1) =
          min (min shadow.col (shadow.cols - 1) + count) (shadow.cols - 1) := by omega
      rw [last]
    rw [← Option.some.inj moved, setCol_cursor known, reached]
    rfl
  | back count =>
    have inside : shadow.col - count < shadow.cols := by
      by_cases full : shadow.col = shadow.cols
      · have far := still count rfl full
        omega
      · omega
    have same : shadow.col - count = shadow.cursor.col - count := by
      show _ = min shadow.col (shadow.cols - 1) - count
      by_cases full : shadow.col = shadow.cols
      · -- So far back, both are at the first column.
        have far := still count rfl full
        omega
      · omega
    rw [← Option.some.inj moved, cursor_withCol inside, same]
    rfl
  | tab =>
    -- The next stop is the same for both, or the last column for both.
    obtain ⟨stop, added, rfl⟩ := Option.map_eq_some_iff.mp moved
    have sum : stop = shadow.col / 8 * 8 + 8 := by
      rw [checkedAdd_of_lt (by omega)] at added
      exact (Option.some.inj added).symm
    have reached : min stop (shadow.cols - 1) =
        min (shadow.cursor.col / 8 * 8 + 8) (shadow.cols - 1) := by
      show _ = min (min shadow.col (shadow.cols - 1) / 8 * 8 + 8) _
      omega
    rw [if_pos (Nat.pos_of_ne_zero known), reached]
    exact cursor_withCol (by omega)
  | save =>
    rw [← Option.some.inj moved]
    rfl
  | restore =>
    -- What was saved stands for what the terminal has saved.
    rcases saved : shadow.saved with _ | ⟨col, sgr⟩
    · simp only [LineShadow.move, saved, Option.some.injEq] at moved
      rw [← moved]
      simp only [ReferenceCursor.move, cursor, saved, Option.map_none]
    · simp only [LineShadow.move, saved, Option.some.injEq] at moved
      rw [← moved]
      simp only [ReferenceCursor.move, cursor, saved, Option.map_some]
  | reset =>
    rw [← Option.some.inj moved]
    have first : decide (0 = shadow.cols) = false := decide_eq_false (Ne.symm known)
    simp only [ReferenceCursor.move, cursor, splitCol, Nat.zero_min, first, Option.map_none]
  | wrapMode on =>
    rw [← Option.some.inj moved]
    rfl
  | attributes params =>
    rw [← Option.some.inj moved]
    rfl

end LineShadow

/-! ### Moves back go at least one column -/

namespace OutputParser

variable {width : Char → Option (Fin 3)} {parser : OutputParser} {byte : UInt8} {count : Nat}

/-- A move back by a sequence is by one column at least. -/
theorem controlMove_back {raw : Bytes} (back : controlMove raw byte = .back count) : 0 < count := by
  unfold controlMove at back
  split_ifs at back
  -- Every other sequence is no move back, and a move back counts from one.
  all_goals first
    | exact CursorMove.noConfusion back
    | obtain rfl := CursorMove.back.inj back
      exact Nat.lt_of_lt_of_le Nat.one_pos (Nat.le_max_right _ _)

/-- A move back is by one column at least. -/
theorem step_back (back : (parser.step width byte).2 = .back count) : 0 < count := by
  -- Only a backspace moves back outside of a sequence.
  rcases step_move_cases parser byte with plain | control
  · rw [back] at plain
    exact Nat.lt_of_lt_of_eq Nat.one_pos (Eq.symm plain)
  · exact controlMove_back (control.symm.trans back)

end OutputParser

/-! ### Over every output -/

/-- A shadow and a terminal that get the same output. -/
structure Rendering where
  shadow : LineShadow
  terminal : ReferenceTerminal
  deriving DecidableEq

namespace Rendering

def new (cols : UInt16) : Rendering := { shadow := .new cols, terminal := .new cols }

/-- One byte of output. -/
def step (width : Char → Option (Fin 3)) (rendering : Rendering) (byte : UInt8) :
    Option Rendering :=
  (rendering.shadow.step width byte).map fun shadow =>
    { shadow, terminal := rendering.terminal.step width byte }

/-- The shadow goes back to the column where the cursor of the terminal is. -/
def SameColumn (rendering : Rendering) : Prop :=
  rendering.shadow.restoreCol = rendering.terminal.cursor.col

/-- From a pending wrap, the byte leads back by as many columns as there are, or it does not lead back. -/
def NotBackFromWrap (width : Char → Option (Fin 3)) (rendering : Rendering) (byte : UInt8) : Prop :=
  ∀ count, (rendering.terminal.parser.step width byte).2 = .back count →
    rendering.terminal.cursor.pending = true → rendering.terminal.cursor.cols ≤ count

end Rendering

/-- By how many columns a move leads back, if it does. -/
def CursorMove.backBy : CursorMove → Option Nat
  | .back count => some count
  | _ => none

/-- Only a move back leads back. -/
theorem CursorMove.backBy_eq_some {move : CursorMove} {count : Nat} :
    move.backBy = some count ↔ move = .back count := by
  cases move <;> simp [backBy]

/-- Whether a byte leads back from a pending wrap is seen from the move it makes. -/
instance (width : Char → Option (Fin 3)) (rendering : Rendering) (byte : UInt8) :
    Decidable (rendering.NotBackFromWrap width byte) :=
  decidable_of_iff (∀ count ∈ (rendering.terminal.parser.step width byte).2.backBy,
      rendering.terminal.cursor.pending = true → rendering.terminal.cursor.cols ≤ count) (by
    unfold Rendering.NotBackFromWrap
    simp only [Option.mem_def, CursorMove.backBy_eq_some])

/-- A terminal of a width and its shadow. -/
def rendering (width : Char → Option (Fin 3)) (cols : UInt16) : Machine Rendering UInt8 where
  init := .new cols
  step := Rendering.step width

namespace Rendering

variable {width : Char → Option (Fin 3)}

/-- The terminal is the one that the shadow stands for. -/
structure InStep (rendering : Rendering) : Prop where
  bounded : rendering.shadow.Bounded
  known : rendering.shadow.cols ≠ 0
  parser : rendering.terminal.parser = rendering.shadow.parser
  cursor : rendering.terminal.cursor = rendering.shadow.cursor

/-- A new terminal and a new shadow are in step. -/
theorem inStep_new {cols : UInt16} (known : cols ≠ 0) : (new cols).InStep where
  bounded := LineShadow.bounded_new cols
  known zero := known (UInt16.toNat_inj.mp zero)
  parser := rfl
  cursor := by
    have positive : 0 < cols.toNat := Nat.pos_of_ne_zero fun zero => known (UInt16.toNat_inj.mp zero)
    exact (@LineShadow.cursor_withCol (.new cols) 0 positive).symm

/-- Where the two are in step, they are in the same column. -/
theorem InStep.sameColumn {rendering : Rendering} (inStep : rendering.InStep) :
    rendering.SameColumn := by
  rw [SameColumn, inStep.cursor]
  exact LineShadow.restoreCol_eq inStep.known

/-- A byte that does not lead back from a pending wrap keeps terminal and shadow in step. -/
theorem InStep.step {rendering next : Rendering} (inStep : rendering.InStep) {byte : UInt8}
    (still : rendering.NotBackFromWrap width byte)
    (stepped : rendering.step width byte = some next) : next.InStep := by
  obtain ⟨shadow, terminal⟩ := rendering
  obtain ⟨bounded, known, parser, cursor⟩ := inStep
  dsimp only at bounded known parser cursor
  -- The shadow takes the step, and stays bounded by it.
  obtain ⟨shadow', moved, rfl⟩ := Option.map_eq_some_iff.mp stepped
  obtain ⟨other, again, fine, size⟩ := bounded.step_known known byte
  obtain rfl : other = shadow' := Option.some.inj (again.symm.trans moved)
  rw [LineShadow.step_eq bounded.parser.utf8] at moved
  obtain ⟨-, read⟩ := LineShadow.move_keeps moved
  refine ⟨fine, fun zero => known (size.symm.trans zero), ?_, ?_⟩
  -- Both have read the same.
  · show (terminal.parser.step width byte).1 = other.parser
    rw [read, parser]
    rfl
  · show terminal.cursor.move (terminal.parser.step width byte).2 = other.cursor
    have reached := LineShadow.move_cursor (bounded.withParser byte) known ?_ moved
    · rw [reached, cursor, parser]
      rfl
    -- The terminal's pending wrap is the shadow's full row.
    · intro count back full
      unfold NotBackFromWrap at still
      dsimp only at still
      rw [parser, cursor] at still
      exact still count back (decide_eq_true full)

/-- A byte that leads back from a pending wrap parts terminal and shadow. -/
theorem InStep.parts {rendering : Rendering} (inStep : rendering.InStep) {byte : UInt8}
    (back : ¬ rendering.NotBackFromWrap width byte) :
    ∃ next, rendering.step width byte = some next ∧ ¬ next.SameColumn := by
  obtain ⟨shadow, terminal⟩ := rendering
  obtain ⟨bounded, known, parser, cursor⟩ := inStep
  dsimp only at bounded known parser cursor
  unfold NotBackFromWrap at back
  push Not at back
  obtain ⟨count, move, pending, few⟩ := back
  dsimp only at move pending few
  have positive := OutputParser.step_back move
  -- The pending wrap of the terminal is a full row of the shadow.
  rw [cursor] at pending few
  have full : shadow.col = shadow.cols := of_decide_eq_true pending
  have few : count < shadow.cols := few
  obtain ⟨next, stepped, -, -⟩ := bounded.step_known known byte
  refine ⟨_, congrArg (Option.map _) stepped, ?_⟩
  rw [LineShadow.step_eq bounded.parser.utf8, ← parser, move] at stepped
  cases stepped
  -- The shadow goes back from one past the last column, the terminal from the last one.
  unfold SameColumn
  show (if 0 < shadow.cols then min (shadow.col - count) (shadow.cols - 1)
    else shadow.col - count) ≠ (terminal.cursor.move (terminal.parser.step width byte).2).col
  rw [move, cursor]
  show _ ≠ min shadow.col (shadow.cols - 1) - count
  rw [if_pos (Nat.pos_of_ne_zero known)]
  omega

/-- Shadow and terminal have the same column exactly as long as no byte leads back from a pending wrap. -/
theorem sameColumn_along {cols : UInt16} (known : cols ≠ 0) (output : Bytes) :
    (rendering width cols).Along SameColumn (.new cols) output ↔
      (rendering width cols).Meets (NotBackFromWrap width) (.new cols) output := by
  have holds : ∀ state : Rendering, state.InStep → state.SameColumn :=
    fun _ inStep => inStep.sameColumn
  have preserved : ∀ (state : Rendering) (byte : UInt8) (next : Rendering), state.InStep →
      state.NotBackFromWrap width byte → (rendering width cols).step state byte = some next →
        next.InStep :=
    fun _ _ _ inStep still stepped => inStep.step still stepped
  have broken : ∀ (state : Rendering) (byte : UInt8), state.InStep →
      ¬ state.NotBackFromWrap width byte →
        ∃ next, (rendering width cols).step state byte = some next ∧ ¬ next.SameColumn :=
    fun _ _ inStep back => inStep.parts back
  exact Machine.along_iff_meets holds preserved broken (inStep_new known) output

/-- Characters of an ideographic script take two columns, and all others one. -/
def eastAsianWidth (char : Char) : Option (Fin 3) :=
  some (if 0x2E80 ≤ char.toNat then Fin.last 2 else (Fin.last 1).castSucc)

/-- A row that wraps, a step back within the next one, a character of two columns, and a full row that is
left for its beginning. -/
def wrappedRows : Bytes :=
  ascii "0123456" ++ escByte :: ascii "[2D" ++ utf8 "\u6f22" ++ ascii "\t\r\n" ++ ascii "abcde" ++
    escByte :: ascii "[9D" ++ ascii "f"

/-- Rows that are filled, and left forward or for their beginning, keep terminal and shadow alike. -/
theorem sameColumn_wrappedRows :
    (rendering eastAsianWidth 5).Along SameColumn (.new 5) wrappedRows :=
  (sameColumn_along (by decide) wrappedRows).mpr (by decide +kernel)

/-- A row that is exactly filled, and a backspace. -/
theorem backspace_after_full_row :
    ¬ (rendering (fun _ => some 1) 5).Along SameColumn (.new 5) (ascii "01234" ++ [0x08]) := by
  intro along
  -- The shadow is one column behind: it went back from past the end of the row.
  have ran : ((rendering (fun _ => some 1) 5).run (.new 5) (ascii "01234" ++ [0x08])).any
      (fun last => last.shadow.restoreCol == 4 && last.terminal.cursor.col == 3) = true := by
    decide +kernel
  obtain ⟨last, there, apart⟩ := (Option.any_eq_true _ _).mp ran
  have same := along.last there
  rw [Bool.and_eq_true, beq_iff_eq, beq_iff_eq] at apart
  rw [SameColumn, apart.1, apart.2] at same
  cases same

end Rendering

end Gritty
