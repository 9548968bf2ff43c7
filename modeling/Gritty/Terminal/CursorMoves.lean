import Gritty.Terminal.LineShadow

/-! The moves of the cursor that a terminal reads in its output, apart from where they take it. -/

namespace Gritty

/-- What a byte of output does to the cursor and its attributes. -/
inductive CursorMove where
  | stay
  | print (width : Fin 3)
  | column (col : Nat)
  | forward (count : Nat)
  | back (count : Nat)
  | tab
  | save
  | restore
  | reset
  | wrapMode (on : Bool)
  | attributes (params : Bytes)
  deriving DecidableEq

/-- A move that one byte outside of control sequences stands for. -/
def CursorMove.IsPlain : CursorMove → Prop
  | .column col => col = 0
  | .back count => count = 1
  | .forward _ => False
  | .wrapMode _ => False
  | .attributes _ => False
  | _ => True

/-- How far the output was read. -/
structure OutputParser where
  state : ShadowState
  csi : Bytes
  csiOverflow : Bool
  utf8 : Bytes
  utf8Need : Nat
  deriving DecidableEq

namespace OutputParser

/-- A terminal that has read nothing. -/
def new : OutputParser :=
  { state := .ground, csi := [], csiOverflow := false, utf8 := [], utf8Need := 0 }

variable (width : Char → Option (Fin 3))

/-- A byte of text that continues no character. -/
def freshGlyph (parser : OutputParser) (byte : UInt8) : OutputParser × CursorMove :=
  if 0x20 ≤ byte ∧ byte ≤ 0x7e then (parser, .print ⟨1, by decide⟩)
  else if 0xc2 ≤ byte ∧ byte ≤ 0xdf then ({ parser with utf8 := [byte], utf8Need := 1 }, .stay)
  else if 0xe0 ≤ byte ∧ byte ≤ 0xef then ({ parser with utf8 := [byte], utf8Need := 2 }, .stay)
  else if 0xf0 ≤ byte ∧ byte ≤ 0xf4 then ({ parser with utf8 := [byte], utf8Need := 3 }, .stay)
  else (parser, .print ⟨1, by decide⟩)

/-- A byte of text. -/
def printable (parser : OutputParser) (byte : UInt8) : OutputParser × CursorMove :=
  if 0 < parser.utf8Need then
    if byte &&& 0xc0 = 0x80 then
      if parser.utf8Need = 1 then
        ({ parser with utf8 := [], utf8Need := 0 },
          .print (LineShadow.glyphWidth width (parser.utf8 ++ [byte])))
      else ({ parser with utf8 := parser.utf8 ++ [byte], utf8Need := parser.utf8Need - 1 }, .stay)
    else { parser with utf8 := [], utf8Need := 0 }.freshGlyph byte
  else parser.freshGlyph byte

/-- A byte outside of sequences. -/
def ground (parser : OutputParser) (byte : UInt8) : OutputParser × CursorMove :=
  if byte < 0x20 ∨ byte = 0x7f then
    let parser := { parser with utf8 := [], utf8Need := 0 }
    if byte = escByte then ({ parser with state := .esc }, .stay)
    else if byte = 0x0d then (parser, .column 0)
    else if byte = 0x08 then (parser, .back 1)
    else if byte = 0x09 then (parser, .tab)
    else (parser, .stay)
  else parser.printable width byte

/-- The byte after an escape byte. -/
def esc (parser : OutputParser) (byte : UInt8) : OutputParser × CursorMove :=
  let parser := { parser with state := .ground }
  if byte = 0x5b then ({ parser with csi := [], csiOverflow := false, state := .csi }, .stay)
  else if byte = 0x5d || byte = 0x50 || byte = 0x58 || byte = 0x5e || byte = 0x5f then
    ({ parser with state := .stringBody }, .stay)
  else if byte = 0x37 then (parser, .save)
  else if byte = 0x38 then (parser, .restore)
  else if byte = 0x63 then (parser, .reset)
  else if byte = 0x45 then (parser, .column 0)
  else if byte = 0x28 || byte = 0x29 || byte = 0x2a || byte = 0x2b || byte = 0x23 ||
      byte = 0x25 || byte = 0x20 then
    ({ parser with state := .escIntermediate }, .stay)
  else (parser, .stay)

/-- What a control sequence does, by the bytes inside it and its final byte. -/
def controlMove (raw : Bytes) (finalByte : UInt8) : CursorMove :=
  if raw.any isIntermediate then .stay
  else if raw.head?.any fun byte => 0x3c ≤ byte && byte ≤ 0x3f then
    if (finalByte = 0x68 || finalByte = 0x6c) && raw.head? = some 0x3f &&
        (splitFields 0x3b raw.tail).contains [0x37] then
      .wrapMode (finalByte = 0x68)
    else .stay
  else if finalByte = 0x6d then .attributes raw
  else if finalByte = 0x47 || finalByte = 0x60 then .column (nthParam raw 0 1 - 1)
  else if finalByte = 0x43 || finalByte = 0x61 then .forward (max (nthParam raw 0 1) 1)
  else if finalByte = 0x44 then .back (max (nthParam raw 0 1) 1)
  else if finalByte = 0x48 || finalByte = 0x66 then .column (nthParam raw 1 1 - 1)
  else if finalByte = 0x45 || finalByte = 0x46 then .column 0
  else .stay

/-- A byte inside a control sequence. -/
def csiByte (parser : OutputParser) (byte : UInt8) : OutputParser × CursorMove :=
  if 0x20 ≤ byte ∧ byte ≤ 0x3f then
    if parser.csi.length < maxCsiBytes then ({ parser with csi := parser.csi ++ [byte] }, .stay)
    else ({ parser with csiOverflow := true }, .stay)
  else if 0x40 ≤ byte ∧ byte ≤ 0x7e then
    if parser.csiOverflow then ({ parser with state := .ground }, .stay)
    else ({ parser with csi := [], state := .ground }, controlMove parser.csi byte)
  else if byte = escByte then ({ parser with state := .esc }, .stay)
  else (parser, .stay)

/-- One byte of output. -/
def step (parser : OutputParser) (byte : UInt8) : OutputParser × CursorMove :=
  match parser.state with
  | .ground => parser.ground width byte
  | .esc => parser.esc byte
  | .escIntermediate => ({ parser with state := .ground }, .stay)
  | .csi => parser.csiByte byte
  | .stringBody =>
    if byte = 0x07 then ({ parser with state := .ground }, .stay)
    else if byte = escByte then ({ parser with state := .stringEsc }, .stay)
    else (parser, .stay)
  | .stringEsc => ({ parser with state := if byte = 0x5c then .ground else .stringBody }, .stay)

variable {width} {parser : OutputParser}

theorem freshGlyph_plain (byte : UInt8) : (parser.freshGlyph byte).2.IsPlain := by
  unfold freshGlyph
  split_ifs <;> trivial

theorem printable_plain (byte : UInt8) : (parser.printable width byte).2.IsPlain := by
  unfold printable
  split_ifs
  · trivial
  · trivial
  · exact freshGlyph_plain byte
  · exact freshGlyph_plain byte

theorem ground_plain (byte : UInt8) : (parser.ground width byte).2.IsPlain := by
  unfold ground
  dsimp only
  split_ifs
  all_goals first
    | exact printable_plain byte
    | trivial

theorem esc_plain (byte : UInt8) : (parser.esc byte).2.IsPlain := by
  unfold esc
  dsimp only
  split_ifs <;> trivial

/-- A move is that of one byte, or that of a control sequence. -/
theorem step_move_cases (parser : OutputParser) (byte : UInt8) :
    (parser.step width byte).2.IsPlain ∨
      (parser.step width byte).2 = controlMove parser.csi byte := by
  -- Outside of control sequences only single bytes move the cursor.
  unfold step
  split
  · exact Or.inl (ground_plain byte)
  · exact Or.inl (esc_plain byte)
  · exact Or.inl trivial
  -- Only a byte that ends a control sequence moves it.
  · unfold csiByte
    split_ifs
    all_goals first
      | exact Or.inr rfl
      | exact Or.inl trivial
  · split_ifs <;> exact Or.inl trivial
  · exact Or.inl trivial

end OutputParser

namespace LineShadow

/-- How far a shadow has read the output. -/
def parser (shadow : LineShadow) : OutputParser where
  state := shadow.state
  csi := shadow.csi
  csiOverflow := shadow.csiOverflow
  utf8 := shadow.utf8
  utf8Need := shadow.utf8Need

/-- A shadow that has read so far. -/
def withParser (shadow : LineShadow) (parser : OutputParser) : LineShadow :=
  { shadow with
    state := parser.state
    csi := parser.csi
    csiOverflow := parser.csiOverflow
    utf8 := parser.utf8
    utf8Need := parser.utf8Need }

/-- Where a move takes a shadow. -/
def move (shadow : LineShadow) : CursorMove → Option LineShadow
  | .stay => some shadow
  | .print width => shadow.advance width
  | .column col => some (shadow.setCol col)
  | .forward count => some (shadow.setCol (saturatingAdd shadow.col count))
  | .back count => some { shadow with col := shadow.col - count }
  | .tab => shadow.tab
  | .save => some { shadow with saved := some (shadow.col, shadow.sgr) }
  | .restore =>
    match shadow.saved with
    | some (col, sgr) => some { shadow with col, sgr }
    | none => some shadow
  | .reset => some { shadow with col := 0, autowrap := true, sgr := [], saved := none }
  | .wrapMode on => some { shadow with autowrap := on }
  | .attributes params => some { shadow with sgr := applySgr shadow.sgr params }

variable {width : Char → Option (Fin 3)} {shadow : LineShadow}

/-- The first column is the first column of any width. -/
theorem setCol_zero (shadow : LineShadow) : shadow.setCol 0 = { shadow with col := 0 } := by
  unfold setCol
  rw [Nat.zero_min, ite_self]

theorem freshGlyph_eq (byte : UInt8) : shadow.freshGlyph byte =
    (shadow.withParser (shadow.parser.freshGlyph byte).1).move (shadow.parser.freshGlyph byte).2 := by
  -- Both make the same distinctions, so they agree case by case.
  unfold freshGlyph OutputParser.freshGlyph
  split_ifs <;> rfl

/-- A printed byte is read by the parser, and then moves the cursor. -/
theorem printable_eq (room : shadow.utf8.length + shadow.utf8Need ≤ 4) (byte : UInt8) :
    shadow.printable width byte =
      (shadow.withParser (shadow.parser.printable width byte).1).move
        (shadow.parser.printable width byte).2 := by
  unfold printable OutputParser.printable
  by_cases inside : 0 < shadow.utf8Need
  · have inside' : 0 < shadow.parser.utf8Need := inside
    rw [if_pos inside, if_pos inside']
    by_cases continues : byte &&& 0xc0 = 0x80
    · -- The buffer has room for every byte that is still needed.
      have fits : shadow.utf8.length < 4 := by omega
      rw [if_pos continues, if_pos continues, if_pos fits]
      by_cases last : shadow.utf8Need = 1
      · have last' : shadow.parser.utf8Need = 1 := last
        rw [if_pos last, if_pos last']
        rfl
      · have last' : ¬ shadow.parser.utf8Need = 1 := last
        rw [if_neg last, if_neg last']
        rfl
    · rw [if_neg continues, if_neg continues, freshGlyph_eq]
      rfl
  · have inside' : ¬ 0 < shadow.parser.utf8Need := inside
    rw [if_neg inside, if_neg inside', freshGlyph_eq]

/-- A byte outside sequences is read by the parser, and then moves the cursor. -/
theorem ground_eq (room : shadow.utf8.length + shadow.utf8Need ≤ 4) (byte : UInt8) :
    shadow.ground width byte =
      (shadow.withParser (shadow.parser.ground width byte).1).move
        (shadow.parser.ground width byte).2 := by
  unfold ground OutputParser.ground
  by_cases control : byte < 0x20 ∨ byte = 0x7f
  · have isControl : (decide (byte < 0x20) || decide (byte = 0x7f)) = true := by simpa using control
    -- The line feed and the other control bytes leave the cursor, the rest moves it.
    simp only [isControl, if_true, if_pos control]
    split_ifs
    · rfl
    · show some _ = some (setCol _ 0)
      rw [setCol_zero]
      rfl
    · rfl
    · rfl
    · rfl
  · -- None of the control bytes is a byte of text.
    have isControl : (decide (byte < 0x20) || decide (byte = 0x7f)) = false := by simpa using control
    have other : ∀ special : UInt8, special < 0x20 → byte ≠ special :=
      fun special low same => control (Or.inl (same ▸ low))
    simp only [isControl, if_neg control, if_neg (other escByte (by decide)),
      if_neg (other 0x0d (by decide)), if_neg (other 0x08 (by decide)),
      if_neg (other 0x09 (by decide)), Bool.false_eq_true, if_false]
    exact printable_eq room byte

/-- A byte after an escape is read by the parser, and then moves the cursor. -/
theorem esc_eq (byte : UInt8) : some (shadow.esc byte) =
    (shadow.withParser (shadow.parser.esc byte).1).move (shadow.parser.esc byte).2 := by
  unfold esc OutputParser.esc
  dsimp only
  split_ifs
  · rfl
  · rfl
  · rfl
  · -- A cursor that was never saved stays where it is.
    cases saved : shadow.saved with
    | none => simp [move, withParser, parser, saved]
    | some kept => simp [move, withParser, parser, saved]
  · rfl
  · show some _ = some (setCol _ 0)
    rw [setCol_zero]
    rfl
  · rfl
  · rfl

/-- A control sequence does what its bytes say, and leaves nothing of itself. -/
theorem csiDispatch_eq (finalByte : UInt8) : some (shadow.csiDispatch finalByte) =
    { shadow with csi := [] }.move (OutputParser.controlMove shadow.csi finalByte) := by
  -- The branches correspond one by one.
  unfold csiDispatch OutputParser.controlMove
  dsimp only
  split_ifs
  · rfl
  · rfl
  · rfl
  · rfl
  · rfl
  · rfl
  · rfl
  · rfl
  · show some _ = some (setCol _ 0)
    rw [setCol_zero]
  · rfl

theorem csiDispatch_read (finalByte : UInt8) :
    (shadow.csiDispatch finalByte).parser = { shadow.parser with csi := [] } := by
  unfold csiDispatch
  dsimp only
  split_ifs <;> rfl

/-- Moves leave alone how far the output was read. -/
theorem move_withParser (parser : OutputParser) (move : CursorMove) :
    (shadow.withParser parser).move move = (shadow.move move).map (·.withParser parser) := by
  -- Glyphs, tabs and what is restored look at the shadow, all others set a field.
  cases move with
  | print count =>
    show advance _ _ = (advance _ _).map _
    unfold advance
    have cols : (shadow.withParser parser).cols = shadow.cols := rfl
    have col : (shadow.withParser parser).col = shadow.col := rfl
    have wraps : (shadow.withParser parser).autowrap = shadow.autowrap := rfl
    rw [cols, col, wraps]
    split_ifs
    · rfl
    · rw [Option.map_map]
      rfl
    · rw [Option.map_bind]
      simp only [Function.comp_def, Option.map_map]
      rfl
    · rw [Option.map_map]
      rfl
  | tab =>
    show LineShadow.tab _ = (LineShadow.tab _).map _
    unfold LineShadow.tab
    rw [Option.map_map]
    rfl
  -- What was saved is no part of the parser.
  | restore =>
    rcases saved : shadow.saved with _ | ⟨col, sgr⟩
    · simp [LineShadow.move, withParser, saved]
    · simp [LineShadow.move, withParser, saved]
  | _ => rfl

/-- A byte within a sequence is read by the parser, and then moves the cursor. -/
theorem csiByte_eq (byte : UInt8) : some (shadow.csiByte byte) =
    (shadow.withParser (shadow.parser.csiByte byte).1).move (shadow.parser.csiByte byte).2 := by
  unfold csiByte OutputParser.csiByte
  -- A parameter is collected, and what follows it ends the sequence or is dropped.
  by_cases parameter : 0x20 ≤ byte ∧ byte ≤ 0x3f
  · rw [if_pos parameter, if_pos parameter]
    have size : shadow.parser.csi = shadow.csi := rfl
    rw [size]
    split_ifs <;> rfl
  · rw [if_neg parameter, if_neg parameter]
    by_cases final : 0x40 ≤ byte ∧ byte ≤ 0x7e
    · rw [if_pos final, if_pos final]
      have overflow : shadow.parser.csiOverflow = shadow.csiOverflow := rfl
      rw [overflow]
      -- A sequence that was too long is forgotten.
      by_cases long : shadow.csiOverflow = true
      · rw [if_pos long, if_pos long]
        rfl
      · rw [if_neg long, if_neg long]
        -- The sequence is dispatched first, and its state is left after that.
        have after : { shadow.csiDispatch byte with state := .ground } =
            (shadow.csiDispatch byte).withParser
              { shadow.parser with csi := [], state := .ground } := by
          have read : (shadow.csiDispatch byte).parser = { shadow.parser with csi := [] } :=
            csiDispatch_read byte
          show (shadow.csiDispatch byte).withParser
            { (shadow.csiDispatch byte).parser with state := .ground } = _
          rw [read]
        have dispatched := @move_withParser { shadow with csi := [] }
          { shadow.parser with csi := [], state := .ground }
          (OutputParser.controlMove shadow.csi byte)
        rw [← csiDispatch_eq, Option.map_some, ← after] at dispatched
        exact dispatched.symm
    · rw [if_neg final, if_neg final]
      split_ifs <;> rfl

/-- A byte of output is read, and moves the cursor. -/
theorem step_eq (room : shadow.utf8.length + shadow.utf8Need ≤ 4) (byte : UInt8) :
    shadow.step width byte = (shadow.withParser (shadow.parser.step width byte).1).move
      (shadow.parser.step width byte).2 := by
  unfold step OutputParser.step
  have same : shadow.parser.state = shadow.state := rfl
  rw [same]
  -- The states are the same, so each has its own equation.
  cases shadow.state with
  | ground => exact ground_eq room byte
  | esc => exact esc_eq byte
  | escIntermediate => rfl
  | csi => exact csiByte_eq byte
  | stringBody =>
    dsimp only
    split_ifs <;> rfl
  | stringEsc => rfl

/-- A glyph moves the cursor and does nothing else. -/
theorem advance_withCol {next : LineShadow} {count : Nat}
    (advanced : shadow.advance count = some next) : ∃ col, next = { shadow with col } := by
  -- The branches are those of a glyph: without a width, unlimited, wrapping and not wrapping.
  unfold advance at advanced
  split_ifs at advanced
  · cases advanced
    exact ⟨_, rfl⟩
  · obtain ⟨col, -, rfl⟩ := Option.map_eq_some_iff.mp advanced
    exact ⟨col, rfl⟩
  · obtain ⟨reached, -, moved⟩ := Option.bind_eq_some_iff.mp advanced
    obtain ⟨col, -, rfl⟩ := Option.map_eq_some_iff.mp moved
    exact ⟨_, rfl⟩
  · obtain ⟨col, -, rfl⟩ := Option.map_eq_some_iff.mp advanced
    exact ⟨_, rfl⟩

/-- A move changes neither the width of the terminal nor how far the output was read. -/
theorem move_keeps {next : LineShadow} {move : CursorMove} (moved : shadow.move move = some next) :
    next.cols = shadow.cols ∧ next.parser = shadow.parser := by
  -- Only a glyph, a tab and what is restored can fail or depend on the shadow.
  cases move with
  | print count =>
    obtain ⟨col, rfl⟩ := advance_withCol moved
    exact ⟨rfl, rfl⟩
  | tab =>
    obtain ⟨stop, -, rfl⟩ := Option.map_eq_some_iff.mp moved
    exact ⟨rfl, rfl⟩
  | restore =>
    rcases saved : shadow.saved with _ | ⟨col, sgr⟩
    · simp only [LineShadow.move, saved, Option.some.injEq] at moved
      exact moved ▸ ⟨rfl, rfl⟩
    · simp only [LineShadow.move, saved, Option.some.injEq] at moved
      exact moved ▸ ⟨rfl, rfl⟩
  | _ => exact Option.some.inj moved ▸ ⟨rfl, rfl⟩

end LineShadow

end Gritty
