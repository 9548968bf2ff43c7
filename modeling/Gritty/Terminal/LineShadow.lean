import Gritty.Lib.Decimal
import Gritty.Terminal.QueryFilter

/-! A shadow of the terminal's cursor: its column and its attributes, followed through the output. -/

namespace Gritty

/-- With more attribute segments than these, all are dropped. -/
def maxSgrSegments : Nat := 64

/-- A sum that has to fit 64 bits. -/
def checkedAdd (one other : Nat) : Option Nat :=
  if one + other < 2 ^ 64 then some (one + other) else none

/-- A sum that stays at the greatest number of 64 bits. -/
def saturatingAdd (one other : Nat) : Nat := min (one + other) (2 ^ 64 - 1)

inductive ShadowState where
  | ground
  | esc
  /-- One more byte belongs to the sequence. -/
  | escIntermediate
  | csi
  /-- Inside a string, up to its terminator. -/
  | stringBody
  /-- After an escape byte inside a string. -/
  | stringEsc
  deriving DecidableEq

/-- What is known of the cursor, and how far the sequence at hand was read. -/
structure LineShadow where
  /-- The width of the terminal, and zero when it is not known. -/
  cols : Nat
  /-- The column, and the width itself when the next glyph will wrap. -/
  col : Nat
  autowrap : Bool
  /-- The attributes since the last reset, one parameter segment each. -/
  sgr : List Bytes
  /-- What was saved of column and attributes. -/
  saved : Option (Nat × List Bytes)
  state : ShadowState
  csi : Bytes
  csiOverflow : Bool
  /-- The bytes read so far of a character in progress, at most four. -/
  utf8 : Bytes
  /-- How many more bytes the character needs. -/
  utf8Need : Nat
  deriving DecidableEq

/-- The number a text of digits stands for, if it is below a limit. -/
def parseNumber (limit : Nat) (text : Bytes) : Option Nat :=
  parseBelow limit (text.map fun byte => Char.ofNat byte.toNat)

/-- A parameter that is absent, empty or no number counts as the given one. -/
def nthParam (params : Bytes) (index default : Nat) : Nat :=
  ((((splitFields 0x3b params)[index]?).filter fun field => !field.isEmpty).bind fun field =>
    parseNumber (2 ^ 64) ((splitFields 0x3a field).headD [])).getD default

/-- The fields of a text joined by semicolons. -/
def joinFields (fields : List Bytes) : Bytes := [0x3b].intercalate fields

/-- The number an attribute starts with. An empty attribute is a reset. -/
def attributeNumber (token : Bytes) : Option Nat :=
  if token.isEmpty then some 0 else parseNumber (2 ^ 32) ((splitFields 0x3a token).headD [])

/-- How many tokens a colour takes, by the one after its number. -/
def colourTokens (later : List Bytes) : Nat :=
  if later.head? = some [0x35] then 3 else if later.head? = some [0x32] then 5 else 1

/-- Keep one more attribute. -/
def pushSgr (sgr : List Bytes) (segment : Bytes) : List Bytes :=
  if maxSgrSegments ≤ sgr.length then [segment] else sgr ++ [segment]

/-- The numbers that start a colour of several tokens. -/
def isColour (number : Nat) : Bool := number = 38 || number = 48 || number = 58

/-- The attributes after the tokens of a sequence. -/
def applyTokens (sgr : List Bytes) : List Bytes → List Bytes
  | [] => sgr
  | token :: later =>
    match attributeNumber token with
    | none => applyTokens sgr later
    | some number =>
      if number = 0 then applyTokens [] later
      else if isColour number && !token.contains 0x3a then
        let others := colourTokens later - 1
        -- A colour takes its own tokens along.
        applyTokens (pushSgr sgr (joinFields (token :: later.take others))) (later.drop others)
      else applyTokens (pushSgr sgr token) later
termination_by tokens => tokens.length

/-- The attributes after a sequence with these parameters. -/
def applySgr (sgr : List Bytes) (params : Bytes) : List Bytes :=
  if params.isEmpty then [] else applyTokens sgr (splitFields 0x3b params)

namespace LineShadow

/-- A shadow of an empty line. -/
def new (cols : UInt16) : LineShadow where
  cols := cols.toNat
  col := 0
  autowrap := true
  sgr := []
  saved := none
  state := .ground
  csi := []
  csiOverflow := false
  utf8 := []
  utf8Need := 0

/-- Go to a column, or to the last one. -/
def setCol (shadow : LineShadow) (col : Nat) : LineShadow :=
  { shadow with col := if 0 < shadow.cols then min col (shadow.cols - 1) else col }

/-- Advance by the width of a glyph, wrapping after the last column. -/
def advance (shadow : LineShadow) (width : Nat) : Option LineShadow :=
  if width = 0 then some shadow
  else if shadow.cols = 0 then
    (checkedAdd shadow.col width).map fun col => { shadow with col }
  else if shadow.autowrap then
    (checkedAdd shadow.col width).bind fun reached =>
      -- A glyph that does not fit goes to the next line.
      (checkedAdd (if shadow.cols < reached then 0 else shadow.col) width).map fun col =>
        { shadow with col := min col shadow.cols }
  else
    (checkedAdd shadow.col width).map fun col =>
      { shadow with col := min col (shadow.cols - 1) }

/-- The first byte of a character of several. -/
def startUtf8 (shadow : LineShadow) (byte : UInt8) (need : Nat) : LineShadow :=
  { shadow with utf8 := [byte], utf8Need := need }

variable (width : Char → Option (Fin 3))

/-- The width of the character that some bytes encode. -/
def glyphWidth (utf8 : Bytes) : Fin 3 :=
  (((fromUtf8 utf8).bind (·.toList.head?)).bind width).getD 1

/-- A byte of text outside a character. -/
def freshGlyph (shadow : LineShadow) (byte : UInt8) : Option LineShadow :=
  if 0x20 ≤ byte ∧ byte ≤ 0x7e then shadow.advance 1
  else if 0xc2 ≤ byte ∧ byte ≤ 0xdf then some (shadow.startUtf8 byte 1)
  else if 0xe0 ≤ byte ∧ byte ≤ 0xef then some (shadow.startUtf8 byte 2)
  else if 0xf0 ≤ byte ∧ byte ≤ 0xf4 then some (shadow.startUtf8 byte 3)
  else shadow.advance 1

/-- A byte of text. There is no next shadow if the buffer of a character overflows. -/
def printable (shadow : LineShadow) (byte : UInt8) : Option LineShadow :=
  if 0 < shadow.utf8Need then
    if byte &&& 0xc0 = 0x80 then
      if shadow.utf8.length < 4 then
        let utf8 := shadow.utf8 ++ [byte]
        if shadow.utf8Need = 1 then
          -- The character is complete.
          { shadow with utf8 := [], utf8Need := 0 }.advance (glyphWidth width utf8)
        else some { shadow with utf8, utf8Need := shadow.utf8Need - 1 }
      else none
    -- No continuation, so the character was broken off.
    else { shadow with utf8 := [], utf8Need := 0 }.freshGlyph byte
  else shadow.freshGlyph byte

/-- Go to the next of the columns at every eighth. -/
def tab (shadow : LineShadow) : Option LineShadow :=
  (checkedAdd (shadow.col / 8 * 8) 8).map fun nextStop =>
    { shadow with col := if 0 < shadow.cols then min nextStop (shadow.cols - 1) else nextStop }

/-- A byte outside of sequences. -/
def ground (shadow : LineShadow) (byte : UInt8) : Option LineShadow :=
  -- A control byte ends a character in progress.
  let isControl := byte < 0x20 || byte = 0x7f
  let shadow := if isControl then { shadow with utf8 := [], utf8Need := 0 } else shadow
  if byte = escByte then some { shadow with state := .esc }
  else if byte = 0x0d then some { shadow with col := 0 }
  else if byte = 0x08 then some { shadow with col := shadow.col - 1 }
  else if byte = 0x09 then shadow.tab
  else if isControl then some shadow
  else shadow.printable width byte

/-- The byte after an escape byte. -/
def esc (shadow : LineShadow) (byte : UInt8) : LineShadow :=
  let shadow := { shadow with state := .ground }
  -- The start of a control sequence.
  if byte = 0x5b then { shadow with csi := [], csiOverflow := false, state := .csi }
  -- The start of a string.
  else if byte = 0x5d || byte = 0x50 || byte = 0x58 || byte = 0x5e || byte = 0x5f then
    { shadow with state := .stringBody }
  -- The cursor is saved.
  else if byte = 0x37 then { shadow with saved := some (shadow.col, shadow.sgr) }
  -- The cursor is restored, if it was saved.
  else if byte = 0x38 then
    match shadow.saved with
    | some (col, sgr) => { shadow with col, sgr }
    | none => shadow
  -- A full reset.
  else if byte = 0x63 then { shadow with col := 0, autowrap := true, sgr := [], saved := none }
  -- The next line.
  else if byte = 0x45 then { shadow with col := 0 }
  -- One more byte selects a character set.
  else if byte = 0x28 || byte = 0x29 || byte = 0x2a || byte = 0x2b || byte = 0x23 ||
      byte = 0x25 || byte = 0x20 then
    { shadow with state := .escIntermediate }
  else shadow

/-- A complete control sequence. -/
def csiDispatch (shadow : LineShadow) (finalByte : UInt8) : LineShadow :=
  let raw := shadow.csi
  let shadow := { shadow with csi := [] }
  let isPrivate := raw.head?.any fun byte => 0x3c ≤ byte && byte ≤ 0x3f
  if raw.any isIntermediate then shadow
  else if isPrivate then
    -- The only private mode that matters is the wrapping.
    if (finalByte = 0x68 || finalByte = 0x6c) && raw.head? = some 0x3f &&
        (splitFields 0x3b raw.tail).contains [0x37] then
      { shadow with autowrap := finalByte = 0x68 }
    else shadow
  -- Attributes.
  else if finalByte = 0x6d then { shadow with sgr := applySgr shadow.sgr raw }
  -- To a column.
  else if finalByte = 0x47 || finalByte = 0x60 then shadow.setCol (nthParam raw 0 1 - 1)
  -- To the right.
  else if finalByte = 0x43 || finalByte = 0x61 then
    shadow.setCol (saturatingAdd shadow.col (max (nthParam raw 0 1) 1))
  -- To the left.
  else if finalByte = 0x44 then { shadow with col := shadow.col - max (nthParam raw 0 1) 1 }
  -- To a row and a column.
  else if finalByte = 0x48 || finalByte = 0x66 then shadow.setCol (nthParam raw 1 1 - 1)
  -- To another line.
  else if finalByte = 0x45 || finalByte = 0x46 then { shadow with col := 0 }
  else shadow

/-- A byte inside a control sequence. -/
def csiByte (shadow : LineShadow) (byte : UInt8) : LineShadow :=
  if 0x20 ≤ byte ∧ byte ≤ 0x3f then
    -- Parameters that are too long are dropped, and the sequence with them.
    if shadow.csi.length < maxCsiBytes then { shadow with csi := shadow.csi ++ [byte] }
    else { shadow with csiOverflow := true }
  else if 0x40 ≤ byte ∧ byte ≤ 0x7e then
    let dispatched := if shadow.csiOverflow then shadow else shadow.csiDispatch byte
    { dispatched with state := .ground }
  else if byte = escByte then { shadow with state := .esc }
  else shadow

/-- One byte of output. There is no next shadow if the arithmetic overflows. -/
def step (shadow : LineShadow) (byte : UInt8) : Option LineShadow :=
  match shadow.state with
  | .ground => shadow.ground width byte
  | .esc => some (shadow.esc byte)
  | .escIntermediate => some { shadow with state := .ground }
  | .csi => some (shadow.csiByte byte)
  | .stringBody =>
    if byte = 0x07 then some { shadow with state := .ground }
    else if byte = escByte then some { shadow with state := .stringEsc }
    else some shadow
  | .stringEsc => some { shadow with state := if byte = 0x5c then .ground else .stringBody }

/-- A chunk of output. -/
def scan (shadow : LineShadow) (data : Bytes) : Option LineShadow := data.foldlM (step width) shadow

/-- The column to go back to. -/
def restoreCol (shadow : LineShadow) : Nat :=
  if 0 < shadow.cols then min shadow.col (shadow.cols - 1) else shadow.col

/-- A control sequence. -/
def controlSequence (params : Bytes) (finalByte : UInt8) : Bytes :=
  escByte :: 0x5b :: (params ++ [finalByte])

/-- What takes the cursor from the first column back to where it was, with its attributes. -/
def restoreSequence (shadow : LineShadow) : Option Bytes :=
  let move := if shadow.restoreCol = 0 then some [0x0d]
    else (checkedAdd shadow.restoreCol 1).map fun number =>
      controlSequence (ascii number.repr) 0x47
  move.map fun move =>
    move ++ controlSequence [0x30] 0x6d ++
      shadow.sgr.flatMap fun segment => controlSequence segment 0x6d

end LineShadow

/-- A prompt, text, two columns back and one more glyph end in the eighth column. -/
example : ((LineShadow.new 80).scan (fun _ => some 1)
    ([escByte] ++ ascii "[1;32m$" ++ [escByte] ++ ascii "[0m echo hi" ++ [escByte] ++
      ascii "[2D" ++ [escByte] ++ ascii "[@X")).bind (·.restoreSequence) =
    some ([escByte] ++ ascii "[9G" ++ [escByte] ++ ascii "[0m") := by
  decide +kernel

end Gritty
