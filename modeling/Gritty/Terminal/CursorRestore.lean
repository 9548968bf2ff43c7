import Gritty.Session.History
import Gritty.Terminal.Attributes

/-! A terminal that gets the restore sequence of a shadow ends up in the state the shadow stands for. -/

namespace Gritty

namespace LineShadow

variable {width : Char → Option (Fin 3)} {shadow : LineShadow}

theorem scan_nil (shadow : LineShadow) : shadow.scan width [] = some shadow := rfl

theorem scan_cons {next : LineShadow} {byte : UInt8} (stepped : shadow.step width byte = some next)
    (later : Bytes) : shadow.scan width (byte :: later) = next.scan width later := by
  rw [scan, List.foldlM_cons, stepped]
  rfl

theorem scan_append (first second : Bytes) :
    shadow.scan width (first ++ second) =
      (shadow.scan width first).bind fun middle => middle.scan width second :=
  List.foldlM_append

/-- Outside of sequences, and inside a control sequence with these bytes. -/
def insideControl (shadow : LineShadow) (raw : Bytes) : LineShadow :=
  { shadow with state := .csi, csi := raw, csiOverflow := false, utf8 := [], utf8Need := 0 }

/-- Parameter bytes are collected as long as there is room. -/
theorem scan_parameters {raw more : Bytes} (parameters : ∀ byte ∈ more, 0x20 ≤ byte ∧ byte ≤ 0x3f)
    (room : raw.length + more.length ≤ maxCsiBytes) (later : Bytes) :
    (shadow.insideControl raw).scan width (more ++ later) =
      (shadow.insideControl (raw ++ more)).scan width later := by
  -- The induction collects one byte, and the rest is collected behind it.
  induction more generalizing raw with
  | nil => rw [List.append_nil, List.nil_append]
  | cons byte more ih =>
    obtain ⟨parameter, rest⟩ := List.forall_mem_cons.mp parameters
    rw [List.length_cons] at room
    have fits : (shadow.insideControl raw).csi.length < maxCsiBytes := by
      show raw.length < maxCsiBytes
      omega
    have stepped : (shadow.insideControl raw).step width byte =
        some (shadow.insideControl (raw ++ [byte])) := by
      show some ((shadow.insideControl raw).csiByte byte) = _
      unfold csiByte
      rw [if_pos parameter, if_pos fits]
      rfl
    have size : (raw ++ [byte]).length + more.length ≤ maxCsiBytes := by
      rw [List.length_append, List.length_singleton]
      omega
    rw [List.cons_append, scan_cons stepped, ih rest size, List.append_assoc, List.singleton_append]

/-- A control sequence does what its bytes say. -/
theorem scan_controlSequence (outside : shadow.state = .ground) {params : Bytes}
    (parameters : ∀ byte ∈ params, 0x20 ≤ byte ∧ byte ≤ 0x3f) (short : params.length ≤ maxCsiBytes)
    {finalByte : UInt8} (final : 0x40 ≤ finalByte ∧ finalByte ≤ 0x7e) (later : Bytes) :
    shadow.scan width (controlSequence params finalByte ++ later) =
      LineShadow.scan width { (shadow.insideControl params).csiDispatch finalByte with
        state := .ground } later := by
  -- The escape byte and the bracket open the sequence.
  have escaped : shadow.step width escByte =
      some { shadow with state := .esc, utf8 := [], utf8Need := 0 } := by
    unfold step
    rw [outside]
    rfl
  have opened : LineShadow.step width
      { shadow with state := .esc, utf8 := [], utf8Need := 0 } 0x5b =
        some (shadow.insideControl []) := rfl
  -- The final byte is no parameter and dispatches what was collected.
  have ended : (shadow.insideControl params).step width finalByte =
      some { (shadow.insideControl params).csiDispatch finalByte with state := .ground } := by
    show some ((shadow.insideControl params).csiByte finalByte) = _
    have notParameter : ¬ (0x20 ≤ finalByte ∧ finalByte ≤ 0x3f) := by
      rintro ⟨-, below⟩
      exact absurd (UInt8.le_trans final.1 below) (by decide)
    unfold csiByte
    rw [if_neg notParameter, if_pos final]
    rfl
  have room : ([] : Bytes).length + params.length ≤ maxCsiBytes := by
    rw [List.length_nil, Nat.zero_add]
    exact short
  show shadow.scan width (escByte :: 0x5b :: (params ++ [finalByte] ++ later)) = _
  rw [scan_cons escaped, scan_cons opened, List.append_assoc, scan_parameters parameters room,
    List.nil_append, List.singleton_append, scan_cons ended]

/-- The bytes of an attribute are neither intermediate nor a mark of a private sequence. -/
theorem public_attributes {params : Bytes} (plain : ∀ byte ∈ params, IsAttributeByte byte)
    (unmarked : ∀ byte, params.head? = some byte → byte < 0x3c) :
    ¬ params.any isIntermediate = true ∧
      ¬ (params.head?.any fun byte => 0x3c ≤ byte && byte ≤ 0x3f) = true := by
  constructor
  · intro found
    obtain ⟨byte, inside, low⟩ := List.any_eq_true.mp found
    have high := (plain byte inside).1
    unfold isIntermediate at low
    rw [Bool.and_eq_true, decide_eq_true_eq, decide_eq_true_eq] at low
    exact absurd (UInt8.le_trans high low.2) (by decide)
  · intro found
    obtain ⟨byte, head, marked⟩ := (Option.any_eq_true _ _).mp found
    have low := unmarked byte head
    rw [Bool.and_eq_true, decide_eq_true_eq] at marked
    exact absurd marked.1 (UInt8.not_le.mpr low)

/-- A sequence of attributes is applied to those before. -/
theorem csiDispatch_attributes {params : Bytes} (plain : ∀ byte ∈ params, IsAttributeByte byte)
    (unmarked : ∀ byte, params.head? = some byte → byte < 0x3c) :
    (shadow.insideControl params).csiDispatch 0x6d =
      { shadow.insideControl [] with sgr := applySgr shadow.sgr params } := by
  obtain ⟨noIntermediate, notPrivate⟩ := public_attributes plain unmarked
  unfold csiDispatch
  have raw : (shadow.insideControl params).csi = params := rfl
  dsimp only
  rw [raw, if_neg noIntermediate, if_neg notPrivate]
  rfl

end LineShadow

/-! ### Column numbers -/

/-- A decimal digit is a character between zero and nine. -/
theorem digit_range {number : Nat} {digit : Char} (among : digit ∈ Nat.toDigits 10 number) :
    48 ≤ digit.toNat ∧ digit.toNat ≤ 57 :=
  Char.isDigit_iff_toNat.mp (Nat.isDigit_of_mem_toDigits (by decide) (by decide) among)

/-- The digits of a number, as bytes. -/
theorem mem_ascii_repr {number : Nat} {byte : UInt8} (inside : byte ∈ ascii number.repr) :
    0x30 ≤ byte ∧ byte ≤ 0x39 ∧ ∃ digit ∈ Nat.toDigits 10 number, byte = UInt8.ofNat digit.toNat := by
  unfold ascii at inside
  rw [Nat.toList_repr] at inside
  obtain ⟨digit, among, rfl⟩ := List.mem_map.mp inside
  have range := digit_range among
  have value : (UInt8.ofNat digit.toNat).toNat = digit.toNat := by
    rw [UInt8.toNat_ofNat']
    exact Nat.mod_eq_of_lt (by omega)
  refine ⟨?_, ?_, digit, among, rfl⟩
  · show 0x30 ≤ (UInt8.ofNat digit.toNat).toNat
    rw [value]
    exact range.1
  · show (UInt8.ofNat digit.toNat).toNat ≤ 0x39
    rw [value]
    exact range.2

/-- The bytes of a number are read as its digits. -/
theorem chars_ascii_repr (number : Nat) :
    (ascii number.repr).map (fun byte => Char.ofNat byte.toNat) = Nat.toDigits 10 number := by
  unfold ascii
  rw [Nat.toList_repr, List.map_map]
  conv_rhs => rw [← List.map_id (Nat.toDigits 10 number)]
  refine List.map_congr_left fun digit among => ?_
  have range := digit_range among
  show Char.ofNat (UInt8.ofNat digit.toNat).toNat = digit
  rw [UInt8.toNat_ofNat', Nat.mod_eq_of_lt (by omega), Char.ofNat_toNat]

/-- A number that is written as the only parameter is read back. -/
theorem nthParam_repr {number : Nat} (small : number < 2 ^ 64) (default : Nat) :
    nthParam (ascii number.repr) 0 default = number := by
  -- A number has no separators, so it is one field.
  have clean : ∀ separator : UInt8, 0x39 < separator → separator ∉ ascii number.repr :=
    fun separator high inside => absurd (mem_ascii_repr inside).2.1 (UInt8.not_le.mpr high)
  have nonempty : (ascii number.repr).isEmpty = false := by
    cases empty : ascii number.repr with
    | nil =>
      have digits := chars_ascii_repr number
      rw [empty] at digits
      exact absurd digits.symm Nat.toDigits_ne_nil
    | cons first rest => rfl
  -- Its digits are read as the number they were written for.
  have parsed : parseNumber (2 ^ 64) (ascii number.repr) = some number := by
    rw [parseNumber, chars_ascii_repr, parseBelow_toDigits small]
  have kept : (some (ascii number.repr)).filter (fun field => !field.isEmpty) =
      some (ascii number.repr) := by
    rw [Option.filter_some, nonempty]
    rfl
  unfold nthParam
  rw [splitFields_single (clean 0x3b (by decide)), List.getElem?_cons_zero, kept, Option.bind_some,
    splitFields_single (clean 0x3a (by decide))]
  show (parseNumber (2 ^ 64) (ascii number.repr)).getD default = number
  rw [parsed]
  rfl

namespace LineShadow

variable {width : Char → Option (Fin 3)} {shadow : LineShadow}

/-- A sequence of digits is not private, and moves to the column they name. -/
theorem csiDispatch_column {number : Nat} (small : number < 2 ^ 64) :
    (shadow.insideControl (ascii number.repr)).csiDispatch 0x47 =
      (shadow.insideControl []).setCol (number - 1) := by
  have plain : ∀ byte ∈ ascii number.repr, IsAttributeByte byte := fun byte inside =>
    ⟨(mem_ascii_repr inside).1, UInt8.le_trans (mem_ascii_repr inside).2.1 (by decide)⟩
  have unmarked : ∀ byte, (ascii number.repr).head? = some byte → byte < 0x3c := fun byte head =>
    UInt8.lt_of_le_of_lt (mem_ascii_repr (List.mem_of_mem_head? head)).2.1 (by decide)
  obtain ⟨noIntermediate, notPrivate⟩ := public_attributes plain unmarked
  have column := nthParam_repr small 1
  unfold csiDispatch
  have raw : (shadow.insideControl (ascii number.repr)).csi = ascii number.repr := rfl
  dsimp only
  rw [raw, if_neg noIntermediate, if_neg notPrivate]
  simp only [column]
  rfl

/-- A shadow between sequences, as far as its cursor is concerned. -/
structure At (shadow : LineShadow) (cols col : Nat) (sgr : List Bytes) : Prop where
  state : shadow.state = .ground
  cols : shadow.cols = cols
  col : shadow.col = col
  sgr : shadow.sgr = sgr

/-- Segments add themselves one after the other. -/
theorem At.segments {cols col : Nat} {sgr segments : List Bytes} (here : shadow.At cols col sgr)
    (all : ∀ segment ∈ segments, IsSegment segment)
    (few : sgr.length + segments.length ≤ maxSgrSegments) :
    ∃ last, shadow.scan width (segments.flatMap fun segment => controlSequence segment 0x6d) =
      some last ∧ last.At cols col (sgr ++ segments) := by
  -- The induction adds the first segment, and the others to what it left.
  induction segments generalizing shadow sgr with
  | nil => exact ⟨shadow, rfl, (List.append_nil sgr).symm ▸ here⟩
  | cons segment others ih =>
    obtain ⟨isSegment, rest⟩ := List.forall_mem_cons.mp all
    rw [List.length_cons] at few
    have parameters : ∀ byte ∈ segment, 0x20 ≤ byte ∧ byte ≤ 0x3f := fun byte inside =>
      ⟨UInt8.le_trans (by decide) (isSegment.plain byte inside).1, (isSegment.plain byte inside).2⟩
    have final : (0x40 : UInt8) ≤ 0x6d ∧ (0x6d : UInt8) ≤ 0x7e := by decide
    -- There is still room for the segment, so nothing is dropped.
    have added : applySgr shadow.sgr segment = sgr ++ [segment] := by
      rw [isSegment.adds, here.sgr, pushSgr, if_neg (by omega)]
    have after : LineShadow.At { (shadow.insideControl segment).csiDispatch 0x6d with
        state := .ground } cols col (sgr ++ [segment]) := by
      rw [csiDispatch_attributes isSegment.plain isSegment.unmarked]
      exact ⟨rfl, here.cols, here.col, added⟩
    have fits : (sgr ++ [segment]).length + others.length ≤ maxSgrSegments := by
      rw [List.length_append, List.length_singleton]
      omega
    obtain ⟨last, scanned, there⟩ := ih after rest fits
    rw [List.append_assoc, List.singleton_append] at there
    refine ⟨last, ?_, there⟩
    rw [List.flatMap_cons, scan_controlSequence here.state parameters isSegment.short final, scanned]

/-- A reset drops all attributes. -/
theorem applySgr_reset (sgr : List Bytes) : applySgr sgr [0x30] = [] := by
  have fields : splitFields 0x3b [0x30] = [[0x30]] := by decide
  have number : attributeNumber [0x30] = some 0 := by decide
  rw [applySgr, if_neg (by decide), fields, applyTokens, number]
  simp only [if_true]
  rw [applyTokens]

/-- A reset of the attributes leaves the cursor, and no attributes. -/
theorem At.reset {cols col : Nat} {sgr : List Bytes} (here : shadow.At cols col sgr) :
    LineShadow.At { (shadow.insideControl [0x30]).csiDispatch 0x6d with state := .ground }
      cols col [] := by
  have plain : ∀ byte ∈ ([0x30] : Bytes), IsAttributeByte byte := by
    intro byte inside
    rw [List.mem_singleton.mp inside]
    exact ⟨by decide, by decide⟩
  have unmarked : ∀ byte, ([0x30] : Bytes).head? = some byte → byte < 0x3c := by
    rintro byte ⟨⟩
    decide
  rw [csiDispatch_attributes plain unmarked]
  exact ⟨rfl, here.cols, here.col, applySgr_reset shadow.sgr⟩

/-- What moves the cursor from the first column of a line. -/
def restoreMove (col : Nat) : Bytes :=
  if col = 0 then [0x0d] else controlSequence (ascii (col + 1).repr) 0x47

/-- The first part of a restore sequence moves to the column, and the second one drops the attributes. -/
theorem scan_restoreMove {cols : UInt16} {col : Nat} (inside : col < cols.toNat) :
    ∃ moved : LineShadow, moved.At cols.toNat col [] ∧ ∀ later, (new cols).scan width
      (restoreMove col ++ controlSequence [0x30] 0x6d ++ later) = moved.scan width later := by
  have parameters : ∀ byte ∈ ([0x30] : Bytes), 0x20 ≤ byte ∧ byte ≤ 0x3f := by
    intro byte member
    rw [List.mem_singleton.mp member]
    exact ⟨by decide, by decide⟩
  have final : (0x40 : UInt8) ≤ 0x6d ∧ (0x6d : UInt8) ≤ 0x7e := by decide
  have short : ([0x30] : Bytes).length ≤ maxCsiBytes := by decide
  -- Whatever the column, the second part of the sequence leaves it.
  have reset : ∀ shadow : LineShadow, shadow.At cols.toNat col [] →
      ∃ moved : LineShadow, moved.At cols.toNat col [] ∧ ∀ later,
        shadow.scan width (controlSequence [0x30] 0x6d ++ later) = moved.scan width later :=
    fun shadow here => ⟨_, here.reset, fun later =>
      scan_controlSequence here.state parameters short final later⟩
  by_cases first : col = 0
  -- From the first column on, only the line is returned to.
  · obtain ⟨moved, there, scanned⟩ := reset (new cols) ⟨rfl, rfl, first.symm, rfl⟩
    refine ⟨moved, there, fun later => ?_⟩
    have returned : (new cols).step width 0x0d = some (new cols) := rfl
    rw [restoreMove, if_pos first, List.append_assoc, List.singleton_append, scan_cons returned,
      scanned]
  · -- The number of a column is one more, and it has at most five digits.
    have narrow := cols.toNat_lt
    have small : col + 1 < 2 ^ 64 := by omega
    have digits : ∀ byte ∈ ascii (col + 1).repr, 0x20 ≤ byte ∧ byte ≤ 0x3f := fun byte member =>
      ⟨UInt8.le_trans (by decide) (mem_ascii_repr member).1,
        UInt8.le_trans (mem_ascii_repr member).2.1 (by decide)⟩
    have few : (ascii (col + 1).repr).length ≤ maxCsiBytes := by
      have five := Nat.repr_length (col + 1) 5 (by decide) (by omega)
      rw [ascii, List.length_map]
      exact Nat.le_trans five (by decide)
    have letter : (0x40 : UInt8) ≤ 0x47 ∧ (0x47 : UInt8) ≤ 0x7e := by decide
    have arrived : LineShadow.At
        { ((new cols).insideControl (ascii (col + 1).repr)).csiDispatch 0x47 with
          state := .ground } cols.toNat col [] := by
      rw [csiDispatch_column small, Nat.add_sub_cancel]
      refine ⟨rfl, rfl, ?_, rfl⟩
      show (if 0 < cols.toNat then min col (cols.toNat - 1) else col) = col
      rw [if_pos (Nat.lt_of_le_of_lt (Nat.zero_le _) inside)]
      omega
    obtain ⟨moved, there, scanned⟩ := reset _ arrived
    refine ⟨moved, there, fun later => ?_⟩
    rw [restoreMove, if_neg first, List.append_assoc, scan_controlSequence rfl digits few letter,
      scanned]

/-- A restore sequence moves the cursor, drops all attributes and adds the segments again. -/
theorem restoreSequence_eq (small : shadow.restoreCol + 1 < 2 ^ 64) :
    shadow.restoreSequence = some (restoreMove shadow.restoreCol ++ controlSequence [0x30] 0x6d ++
      shadow.sgr.flatMap fun segment => controlSequence segment 0x6d) := by
  unfold restoreSequence restoreMove
  rw [checkedAdd_of_lt small]
  split_ifs <;> rfl

/-- Every segment takes at most 67 bytes. -/
theorem flatMap_segments_length {segments : List Bytes}
    (all : ∀ segment ∈ segments, IsSegment segment) :
    (segments.flatMap fun segment => controlSequence segment 0x6d).length ≤ segments.length * 67 := by
  -- Every segment takes an escape byte, a bracket and a final byte more than its own.
  induction segments with
  | nil => exact Nat.le_refl 0
  | cons segment others ih =>
    obtain ⟨first, rest⟩ := List.forall_mem_cons.mp all
    have short := first.short
    have later := ih rest
    have size : (controlSequence segment 0x6d).length = segment.length + 3 := by
      simp [controlSequence]
    unfold maxCsiBytes at short
    rw [List.flatMap_cons, List.length_append, size, List.length_cons]
    omega

/-- The move back to a column is a short text. -/
theorem restoreMove_length {col : Nat} (narrow : col < 2 ^ 16) : (restoreMove col).length ≤ 8 := by
  unfold restoreMove
  split_ifs
  · decide
  · have five := Nat.repr_length (col + 1) 5 (by decide) (by omega)
    have size : (controlSequence (ascii (col + 1).repr) 0x47).length = (col + 1).repr.length + 3 := by
      rw [controlSequence, List.length_cons, List.length_cons, List.length_append,
        List.length_singleton, ascii, List.length_map]
      rfl
    omega

/-- A fresh shadow that gets the restore sequence has the column and the segments it came from. -/
theorem restoreSequence_roundTrip (bounded : shadow.Bounded) (segmented : shadow.Segmented)
    {cols : UInt16} (known : cols ≠ 0) (size : shadow.cols = cols.toNat) :
    ∃ sequence last, shadow.restoreSequence = some sequence ∧
      (new cols).scan width sequence = some last ∧ last.col = min shadow.col (cols.toNat - 1) ∧
      last.sgr = shadow.sgr ∧ sequence.length ≤ 64 * 67 + 16 + 24 := by
  have positive : 0 < cols.toNat := Nat.pos_of_ne_zero fun zero => known (UInt16.toNat_inj.mp zero)
  -- The column is within the terminal, so the sequence names it.
  have back : shadow.restoreCol = min shadow.col (cols.toNat - 1) := by
    rw [restoreCol, size, if_pos positive]
  have narrow := cols.toNat_lt
  have inside : shadow.restoreCol < cols.toNat := by omega
  obtain ⟨moved, here, scanned⟩ := @scan_restoreMove width _ _ inside
  have few : ([] : List Bytes).length + shadow.sgr.length ≤ maxSgrSegments := by
    rw [List.length_nil, Nat.zero_add]
    exact bounded.sgr
  -- The segments are added to none, so all of them fit.
  obtain ⟨last, added, there⟩ := here.segments segmented.sgr few
  refine ⟨_, last, restoreSequence_eq (by omega), (scanned _).trans added, there.col.trans back,
    there.sgr, ?_⟩
  -- The sizes of the three parts add up.
  have move := restoreMove_length (show shadow.restoreCol < 2 ^ 16 by omega)
  have segments := flatMap_segments_length segmented.sgr
  have count := bounded.sgr
  have drop : (controlSequence [0x30] 0x6d).length = 4 := rfl
  unfold maxSgrSegments at count
  rw [List.length_append, List.length_append, drop]
  omega

/-- Scan the first bytes of some chunks. -/
def scanFirst (width : Char → Option (Fin 3)) : Nat → LineShadow → List Bytes → Option LineShadow
  | _, shadow, [] => some shadow
  | remaining, shadow, chunk :: later =>
    if remaining = 0 then some shadow
    else
      let take := min remaining chunk.length
      (shadow.scan width (chunk.take take)).bind fun shadow =>
        scanFirst width (remaining - take) shadow later

/-- The chunks make no difference. -/
theorem scanFirst_eq (remaining : Nat) (chunks : List Bytes) :
    scanFirst width remaining shadow chunks =
      shadow.scan width (chunks.flatten.take remaining) := by
  induction chunks generalizing remaining shadow with
  | nil => rw [scanFirst, List.flatten_nil, List.take_nil, scan_nil]
  | cons chunk later ih =>
    -- The first chunk gives what it has, and the others the rest.
    rw [scanFirst]
    by_cases done : remaining = 0
    · rw [if_pos done, done, List.take_zero, scan_nil]
    · have whole : (chunk :: later).flatten.take remaining =
          chunk.take (min remaining chunk.length) ++
            later.flatten.take (remaining - min remaining chunk.length) := by
        rw [List.flatten_cons, List.take_append]
        rcases Nat.le_total remaining chunk.length with short | long
        · rw [Nat.min_eq_left short, Nat.sub_self, Nat.sub_eq_zero_of_le short]
        · rw [Nat.min_eq_right long, List.take_of_length_le long,
            List.take_of_length_le (Nat.le_refl _)]
      rw [if_neg done, whole, scan_append]
      simp only [ih]

end LineShadow

/-- What moves a client's cursor to where it was at an offset, as far as the history goes back. -/
def History.cursorRestore (width : Char → Option (Fin 3)) (history : History) (upto : Nat)
    (cols : UInt16) : Option Bytes :=
  (LineShadow.scanFirst width (min (upto - history.base) history.size) (.new cols)
    history.chunks).bind (·.restoreSequence)

/-- Restore sequences do what they are for, and fit a frame. -/
structure RestoresCursor (width : Char → Option (Fin 3)) (cols : UInt16) : Prop where
  roundTrip : ∀ output : Bytes, ∃ shadow sequence last,
    (LineShadow.new cols).scan width output = some shadow ∧
      shadow.restoreSequence = some sequence ∧
      (LineShadow.new cols).scan width sequence = some last ∧
      last.col = min shadow.col (cols.toNat - 1) ∧ last.sgr = shadow.sgr ∧
      sequence.length ≤ 64 * 67 + 16 + 24
  frame : ∀ (history : History) (upto : Nat), ∃ sequence,
    history.cursorRestore width upto cols = some sequence ∧ sequence.length ≤ maxFrameSize

/-- On a terminal of known width, every state of a shadow can be restored. -/
theorem restoresCursor {width : Char → Option (Fin 3)} {cols : UInt16} (known : cols ≠ 0) :
    RestoresCursor width cols := by
  have positive : (LineShadow.new cols).cols ≠ 0 := fun zero => known (UInt16.toNat_inj.mp zero)
  have trip : ∀ output : Bytes, ∃ shadow sequence last,
      (LineShadow.new cols).scan width output = some shadow ∧
        shadow.restoreSequence = some sequence ∧
        (LineShadow.new cols).scan width sequence = some last ∧
        last.col = min shadow.col (cols.toNat - 1) ∧ last.sgr = shadow.sgr ∧
        sequence.length ≤ 64 * 67 + 16 + 24 := by
    -- The shadow follows the output, and its sequence is scanned from the beginning.
    intro output
    obtain ⟨shadow, scanned, bounded, size⟩ :=
      @LineShadow.Bounded.scan width _ (LineShadow.bounded_new cols) positive output
    have segmented :=
      (LineShadow.segmented_new cols).scan (LineShadow.bounded_new cols) positive scanned
    obtain ⟨sequence, last, restored⟩ :=
      @LineShadow.restoreSequence_roundTrip width _ bounded segmented _ known size
    exact ⟨shadow, sequence, last, scanned, restored⟩
  -- What is retained of the output is an output, too.
  refine ⟨trip, fun history upto => ?_⟩
  obtain ⟨shadow, sequence, last, scanned, restored, -, -, -, short⟩ :=
    trip (history.chunks.flatten.take (min (upto - history.base) history.size))
  refine ⟨sequence, ?_, Nat.le_trans short (by decide)⟩
  rw [History.cursorRestore, LineShadow.scanFirst_eq, scanned]
  exact restored

/-- Restore sequences for a terminal of eighty columns. -/
theorem restoresCursor_eighty : RestoresCursor (fun _ => some 1) 80 := restoresCursor (by decide)

end Gritty
