import Gritty.Lib.Transducer
import Gritty.Protocol.Frame

/-! The DEC private modes a byte stream switches on the terminal, and the alternate screen. -/

namespace Gritty

/-- The byte that starts every escape sequence. -/
def escByte : UInt8 := 0x1b

/-- The ASCII bytes of a text. -/
def ascii (text : String) : Bytes := text.toList.map fun letter => UInt8.ofNat letter.toNat

/-- Most mode numbers accepted in one sequence. -/
def maxModesPerSequence : Nat := 16

/-- A terminal state change found in a byte stream. -/
inductive ModeEvent where
  /-- One mode number of a sequence that sets or resets its modes. -/
  | changed (mode : UInt16) (isSet : Bool)
  /-- Every mode returns to its default. -/
  | fullReset
  deriving DecidableEq

inductive ScanState where
  | ground
  | esc
  | csi
  | params
  deriving DecidableEq

/-- A parser for private-mode changes. -/
structure PrivateModeScanner where
  state : ScanState
  /-- The mode numbers read so far of the sequence being parsed. -/
  modes : List UInt16
  /-- The digits of the mode number being read. -/
  partialMode : Option UInt16
  deriving DecidableEq

namespace PrivateModeScanner

/-- A parser between sequences. -/
def new : PrivateModeScanner := { state := .ground, modes := [], partialMode := none }

/-- One more digit of a mode number. A number above sixteen bits drops the sequence. -/
def pushDigit (scanner : PrivateModeScanner) (digit : UInt8) : PrivateModeScanner :=
  let widened := (scanner.partialMode.getD 0).toNat * 10 + digit.toNat
  if widened < 2 ^ 16 then
    { scanner with state := .params, partialMode := some (UInt16.ofNat widened) }
  else { scanner with state := .ground, partialMode := none }

/-- The end of a mode number. One number too many drops the sequence. -/
def endModeNumber (scanner : PrivateModeScanner) : PrivateModeScanner :=
  match scanner.partialMode with
  | none => { scanner with state := .params }
  | some mode =>
    if scanner.modes.length = maxModesPerSequence then
      { scanner with state := .ground, partialMode := none }
    else { state := .params, modes := scanner.modes ++ [mode], partialMode := none }

/-- The end of a sequence reports its modes, unless it was dropped. -/
def endSequence (scanner : PrivateModeScanner) (isSet : Bool) :
    PrivateModeScanner × List ModeEvent :=
  let ended := scanner.endModeNumber
  ({ ended with state := .ground },
    if ended.state = .params then ended.modes.map fun mode => .changed mode isSet else [])

/-- One byte of terminal output. -/
def step (scanner : PrivateModeScanner) (byte : UInt8) : PrivateModeScanner × List ModeEvent :=
  if byte = escByte then ({ scanner with state := .esc }, [])
  else
    match scanner.state with
    | .ground => (scanner, [])
    | .esc =>
      if byte = 0x5b then ({ scanner with state := .csi }, [])
      else if byte = 0x63 then ({ scanner with state := .ground }, [.fullReset])
      else ({ scanner with state := .ground }, [])
    | .csi =>
      if byte = 0x3f then ({ state := .params, modes := [], partialMode := none }, [])
      else ({ scanner with state := .ground }, [])
    | .params =>
      if 0x30 ≤ byte ∧ byte ≤ 0x39 then (scanner.pushDigit (byte - 0x30), [])
      else if byte = 0x3b then (scanner.endModeNumber, [])
      else if byte = 0x68 then scanner.endSequence true
      else if byte = 0x6c then scanner.endSequence false
      else ({ scanner with state := .ground }, [])

end PrivateModeScanner

/-- The parser over whole streams. -/
def modeScanner : Transducer PrivateModeScanner UInt8 ModeEvent where
  step := PrivateModeScanner.step

/-- A private mode that is kept in sync. -/
structure TrackedMode where
  number : UInt16
  isSetByDefault : Bool
  deriving DecidableEq

/-- A mode that is off unless a program switches it on. -/
def offByDefault (number : UInt16) : TrackedMode := { number, isSetByDefault := false }

/-- A mode that is on unless a program switches it off. -/
def onByDefault (number : UInt16) : TrackedMode := { number, isSetByDefault := true }

/-- The modes kept in sync, in ascending order. -/
def trackedModes : List TrackedMode :=
  [offByDefault 1, onByDefault 7, offByDefault 9, onByDefault 25, offByDefault 1000,
    offByDefault 1002, offByDefault 1003, offByDefault 1004, offByDefault 1005,
    offByDefault 1006, offByDefault 1015, offByDefault 1016, offByDefault 2004,
    offByDefault 2026, offByDefault 2031, offByDefault 2048]

/-- Which modes of a terminal are set, for the tracked modes in their order. -/
abbrev ModeStates := List Bool

/-- The defaults. -/
def defaultModeStates : ModeStates := trackedModes.map (·.isSetByDefault)

/-- The modes after one change. A mode that is not tracked changes nothing. -/
def applyMode (isSet : ModeStates) : ModeEvent → ModeStates
  | .fullReset => defaultModeStates
  | .changed mode isModeSet =>
    match trackedModes.findIdx? fun tracked => tracked.number == mode with
    | some index => isSet.set index isModeSet
    | none => isSet

/-- The tracked modes of a terminal that renders a byte stream. -/
structure TermModeTracker where
  scanner : PrivateModeScanner
  isSet : ModeStates
  deriving DecidableEq

namespace TermModeTracker

def new : TermModeTracker := { scanner := .new, isSet := defaultModeStates }

/-- Scan a chunk of output. -/
def scan (tracker : TermModeTracker) (data : Bytes) : TermModeTracker :=
  let (scanner, events) := modeScanner.run tracker.scanner data
  { scanner, isSet := events.foldl applyMode tracker.isSet }

/-- One sequence that sets or resets a list of modes, or nothing for no modes. -/
def modeSequence (numbers : List UInt16) (terminator : String) : Bytes :=
  if numbers.isEmpty then []
  else
    escByte :: ascii "[?" ++ ascii (";".intercalate (numbers.map fun number => toString number.toNat))
      ++ ascii terminator

/-- The numbers of the tracked modes that are in a given state. -/
def numbersIn (tracker : TermModeTracker) (wanted : Bool) : List UInt16 :=
  ((trackedModes.zip tracker.isSet).filter fun entry => entry.2 == wanted).map (·.1.number)

/-- The bytes that put any terminal into the tracked state: every tracked mode is reset or set. -/
def syncSequence (tracker : TermModeTracker) : Bytes :=
  modeSequence (tracker.numbersIn false) "l" ++ modeSequence (tracker.numbersIn true) "h"

end TermModeTracker

/-- The alternate screen after one change: the standard mode and its two predecessors switch it. -/
def applyAltScreen (inAlt : Bool) : ModeEvent → Bool
  | .changed mode entering => if mode = 1049 ∨ mode = 1047 ∨ mode = 47 then entering else inAlt
  | .fullReset => inAlt

/-- Whether a terminal that renders a byte stream shows its alternate screen. -/
structure AltScreenTracker where
  scanner : PrivateModeScanner
  inAlt : Bool
  deriving DecidableEq

namespace AltScreenTracker

def new : AltScreenTracker := { scanner := .new, inAlt := false }

def inAlternateScreen (tracker : AltScreenTracker) : Bool := tracker.inAlt

/-- Scan a chunk of output. -/
def scan (tracker : AltScreenTracker) (data : Bytes) : AltScreenTracker :=
  let (scanner, events) := modeScanner.run tracker.scanner data
  { scanner, inAlt := events.foldl applyAltScreen tracker.inAlt }

end AltScreenTracker

theorem AltScreenTracker.scan_nil (tracker : AltScreenTracker) : tracker.scan [] = tracker := rfl

/-- The alternate screen does not depend on how the output is cut into chunks. -/
theorem AltScreenTracker.scan_append (tracker : AltScreenTracker) (first second : Bytes) :
    tracker.scan (first ++ second) = (tracker.scan first).scan second := by
  simp only [AltScreenTracker.scan, Transducer.run_append, List.foldl_append]

/-- The modes do not depend on how the output is cut into chunks. -/
theorem TermModeTracker.scan_append (tracker : TermModeTracker) (first second : Bytes) :
    tracker.scan (first ++ second) = (tracker.scan first).scan second := by
  simp only [TermModeTracker.scan, Transducer.run_append, List.foldl_append]

/-- Between sequences, bytes other than the escape byte change nothing. -/
theorem modeScanner_plain {scanner : PrivateModeScanner} (ground : scanner.state = .ground)
    {bytes : Bytes} (plain : escByte ∉ bytes) : modeScanner.run scanner bytes = (scanner, []) := by
  induction bytes with
  | nil => rfl
  | cons byte later ih =>
    obtain ⟨first, rest⟩ := not_or.mp (List.mem_cons.not.mp plain)
    have stepped : modeScanner.step scanner byte = (scanner, []) := by
      simp only [modeScanner, PrivateModeScanner.step, ground]
      rw [if_neg (Ne.symm first)]
    rw [Transducer.run_cons, stepped, ih rest]
    rfl

/-- Bytes without an escape byte leave a terminal on the screen it shows. -/
theorem AltScreenTracker.scan_plain {tracker : AltScreenTracker}
    (ground : tracker.scanner.state = .ground) {bytes : Bytes} (plain : escByte ∉ bytes) :
    tracker.scan bytes = tracker := by
  unfold AltScreenTracker.scan
  rw [modeScanner_plain ground plain]
  rfl

/-- The sequence that leaves the modes of a terminal as they are by default. -/
example : TermModeTracker.new.syncSequence =
    escByte :: ascii "[?1;9;1000;1002;1003;1004;1005;1006;1015;1016;2004;2026;2031;2048l" ++
      escByte :: ascii "[?7;25h" := by decide

end Gritty
