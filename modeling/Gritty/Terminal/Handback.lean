import Gritty.Terminal.FullResets
import Gritty.Terminal.Painted
import Gritty.Terminal.SyncAnywhere

/-! A terminal that was lent to a session goes back to the shell as the shell knows it. -/

namespace Gritty

/-- What leaves the alternate screen. -/
def leaveAlternate : Bytes := escByte :: ascii "[?1049l"

/-- What gritty writes when it hands the terminal back to the local shell. -/
def terminalHandbackSequence (inAltScreen : Bool) : Bytes :=
  (if inAltScreen then leaveAlternate else []) ++
    (Sgr.reset ++ TermModeTracker.defaultModeSequence)

/-- Record a leave that gritty itself writes. A sequence that was cut short is forgotten. -/
def AltScreenTracker.noteLeft (_ : AltScreenTracker) : AltScreenTracker := .new

/-- The tracker of a client and the flag that its last writer reads. -/
structure AltScreenState where
  tracker : AltScreenTracker
  active : Bool
  deriving DecidableEq

namespace AltScreenState

def new : AltScreenState := { tracker := .new, active := false }

def scan (state : AltScreenState) (data : Bytes) : AltScreenState :=
  { tracker := state.tracker.scan data, active := (state.tracker.scan data).inAlternateScreen }

/-- What to write before a message that belongs on the main screen. -/
def leavePrefix (state : AltScreenState) : AltScreenState × Bytes :=
  if state.tracker.inAlternateScreen then
    ({ tracker := state.tracker.noteLeft, active := false }, leaveAlternate)
  else (state, [])

end AltScreenState

/-- One write while the session has the terminal: its own output, or a message between. -/
inductive RelayWrite where
  | output (data : Bytes)
  | message (message : Message)

/-- The terminal of a client: all that was written to it, and what the client made of it. -/
structure SessionTerminal where
  written : Bytes
  altScreen : AltScreenState

namespace SessionTerminal

def start : SessionTerminal := { written := [], altScreen := .new }

/-- Output is scanned before it is written. Messages are written only. -/
def write (painter : Painter) (terminal : SessionTerminal) : RelayWrite → SessionTerminal
  | .output data => { written := terminal.written ++ data, altScreen := terminal.altScreen.scan data }
  | .message message => { terminal with written := terminal.written ++ message.bytes painter }

def relay (painter : Painter) (writes : List RelayWrite) : SessionTerminal :=
  writes.foldl (write painter) start

/-- What is written when the client ends, with a last message or without one. -/
def handback (painter : Painter) (terminal : SessionTerminal) : Option Message → Bytes
  | none => terminalHandbackSequence terminal.altScreen.active
  | some farewell =>
    let (left, lead) := terminal.altScreen.leavePrefix
    lead ++ (farewell.bytes painter ++ terminalHandbackSequence left.active)

/-- No message was written inside of a sequence of the output. -/
def Unbroken (painter : Painter) (terminal : SessionTerminal) : List RelayWrite → Prop
  | [] => True
  | .output data :: later => Unbroken painter (terminal.write painter (.output data)) later
  | .message message :: later =>
    terminal.altScreen.tracker.scanner.state = .ground ∧
      Unbroken painter (terminal.write painter (.message message)) later

end SessionTerminal

/-! ### What the terminal reads -/

/-- Scanners that read alike are alike after every text. -/
theorem PrivateModeScanner.Alike.after {first second : PrivateModeScanner}
    (alike : Alike first second) (text : Bytes) :
    Alike (modeScanner.run first text).1 (modeScanner.run second text).1 := by
  induction text generalizing first second with
  | nil => exact alike
  | cons byte text ih => exact ih (alike.step byte).1

/-- Text after text, from where the first one left the terminal. -/
theorem changesOf_append (first second : Bytes) :
    changesOf (first ++ second) =
      changesOf first ++ (modeScanner.run (modeScanner.run .new first).1 second).2 := by
  unfold changesOf
  rw [Transducer.run_append]

/-- The leave is read as what it says wherever it stands. -/
theorem run_leaveAlternate (scanner : PrivateModeScanner) :
    (modeScanner.run scanner leaveAlternate).1.state = .ground ∧
      (modeScanner.run scanner leaveAlternate).2 = [.changed 1049 false] := by
  have written : leaveAlternate =
      TermModeTracker.modeSequence [1049] (terminator false) := by decide
  obtain ⟨changes, ground⟩ := run_modeSequence scanner
    (by decide : ([1049] : List UInt16).length ≤ maxModesPerSequence) false
  rw [written]
  exact ⟨ground (Or.inl (by decide)), changes⟩

/-- The end of every handback: the default attributes and the default modes. -/
def defaults : Bytes := Sgr.reset ++ TermModeTracker.defaultModeSequence

/-- The reset of the colors changes no mode, and leaves nothing begun. -/
theorem sgrReset_run (scanner : PrivateModeScanner) :
    (modeScanner.run scanner Sgr.reset).1.state = .ground ∧
      (modeScanner.run scanner Sgr.reset).2 = [] := by
  -- The escape byte forgets what was read before.
  have started : modeScanner.run scanner Sgr.reset =
      ((modeScanner.run { scanner with state := .esc } (ascii "[0m")).1,
        (modeScanner.run { scanner with state := .esc } (ascii "[0m")).2) := rfl
  rw [started]
  exact ⟨rfl, rfl⟩

/-- The defaults change the modes to those of a new terminal. -/
theorem run_defaults (scanner : PrivateModeScanner) :
    (modeScanner.run scanner defaults).1.state = .ground ∧
      (modeScanner.run scanner defaults).2 = TermModeTracker.new.syncChanges := by
  obtain ⟨ground, changes⟩ := TermModeTracker.run_syncSequence
    (modeScanner.run scanner Sgr.reset).1 (rfl : TermModeTracker.new.isSet.length = _)
  unfold defaults
  rw [Transducer.run_append, (sgrReset_run scanner).2]
  exact ⟨ground, changes⟩

/-- The defaults leave the terminal on the screen it shows. -/
theorem screen_defaults (scanner : PrivateModeScanner) :
    latest screenEffect (modeScanner.run scanner defaults).2 = none := by
  have untracked := TermModeTracker.altScreen_syncChanges TermModeTracker.new
  have calm : ∀ event ∈ TermModeTracker.new.syncChanges, altScreenEffect event = none :=
    List.filterMap_eq_nil_iff.mp (List.getLast?_eq_none_iff.mp untracked)
  -- Among the changes of modes there is no full reset.
  have modesOnly : ModeEvent.fullReset ∉ TermModeTracker.new.syncChanges := by
    simp [TermModeTracker.syncChanges]
  rw [(run_defaults scanner).2, latest_screenEffect calm, if_neg modesOnly]

namespace SessionTerminal

variable {painter : Painter}

/-! ### What the client knows of the terminal -/

/-- The flag is what the tracker says. -/
def Mirrored (terminal : SessionTerminal) : Prop :=
  terminal.altScreen.active = terminal.altScreen.tracker.inAlt

theorem Mirrored.write {terminal : SessionTerminal} (mirrored : terminal.Mirrored)
    (write : RelayWrite) : (terminal.write painter write).Mirrored := by
  cases write with
  | output data => rfl
  | message message => exact mirrored

/-- Whatever the relay writes, the trackers and the terminal are alike. -/
theorem mirrored_relay (writes : List RelayWrite) : (relay painter writes).Mirrored := by
  have kept : ∀ terminal : SessionTerminal, terminal.Mirrored →
      (writes.foldl (SessionTerminal.write painter) terminal).Mirrored := by
    induction writes with
    | nil => exact fun _ mirrored => mirrored
    | cons write writes ih => exact fun terminal mirrored => ih _ (mirrored.write write)
  exact kept start rfl

/-- The tracker stands where the terminal stands, as far as the tracker's changes go. -/
structure Followed (terminal : SessionTerminal) : Prop where
  scanner : PrivateModeScanner.Alike terminal.altScreen.tracker.scanner
    (modeScanner.run .new terminal.written).1
  screen : terminal.altScreen.tracker.inAlt =
    (latest altScreenEffect (changesOf terminal.written)).getD false

theorem followed_start : start.Followed where
  scanner := PrivateModeScanner.Alike.refl _
  screen := rfl

/-- Output leaves the terminal following the tracker. -/
theorem Followed.output {terminal : SessionTerminal} (followed : terminal.Followed) (data : Bytes) :
    (terminal.write painter (.output data)).Followed where
  scanner := by
    show PrivateModeScanner.Alike (modeScanner.run terminal.altScreen.tracker.scanner data).1
      (modeScanner.run .new (terminal.written ++ data)).1
    rw [Transducer.run_append]
    exact followed.scanner.after data
  screen := by
    show (modeScanner.run terminal.altScreen.tracker.scanner data).2.foldl applyAltScreen
      terminal.altScreen.tracker.inAlt = (latest altScreenEffect (changesOf (terminal.written ++ data))).getD false
    -- Scanner and terminal find the same changes in the output.
    rw [foldl_applyAltScreen, followed.scanner.run data, changesOf_append, latest_append,
      followed.screen]
    cases latest altScreenEffect
      (modeScanner.run (modeScanner.run .new terminal.written).1 data).2 <;> rfl

/-- A message between sequences leaves the terminal following the tracker. -/
theorem Followed.message {terminal : SessionTerminal} (followed : terminal.Followed)
    (between : terminal.altScreen.tracker.scanner.state = .ground) (message : Message) :
    (terminal.write painter (.message message)).Followed where
  scanner := by
    show PrivateModeScanner.Alike terminal.altScreen.tracker.scanner
      (modeScanner.run .new (terminal.written ++ message.bytes painter)).1
    rw [Transducer.run_append]
    have ground := (message.isQuiet painter (modeScanner.run .new terminal.written).1).1
    exact PrivateModeScanner.alike_of_state (between.trans ground.symm) (by simp [between])
  screen := by
    show terminal.altScreen.tracker.inAlt =
      (latest altScreenEffect (changesOf (terminal.written ++ message.bytes painter))).getD false
    have nothing := (message.isQuiet painter (modeScanner.run .new terminal.written).1).2
    rw [changesOf_append, nothing, List.append_nil, followed.screen]

/-- As long as messages stand between sequences, the tracker keeps up with the terminal. -/
theorem Followed.foldl {writes : List RelayWrite} {terminal : SessionTerminal}
    (followed : terminal.Followed) (unbroken : terminal.Unbroken painter writes) :
    (writes.foldl (SessionTerminal.write painter) terminal).Followed := by
  induction writes generalizing terminal with
  | nil => exact followed
  | cons write writes ih =>
    cases write with
    | output data => exact ih (followed.output data) unbroken
    | message message => exact ih (followed.message unbroken.1 message) unbroken.2

/-- The terminal shows the alternate screen only if the tracker says so. -/
theorem Followed.main {terminal : SessionTerminal} (followed : terminal.Followed)
    (main : terminal.altScreen.tracker.inAlt = false) :
    latest screenEffect (changesOf terminal.written) ≠ some true := by
  intro shown
  have tracked := followed.screen
  rw [main] at tracked
  -- The last change of the screen would have been seen, unless a full reset came after it.
  rcases latest_screen_cases (changesOf terminal.written) with ⟨-, blank | left⟩ |
    ⟨_, _, state, after, -, -, -, last, effect⟩
  · rw [blank] at shown
    cases shown
  · rw [left] at shown
    cases shown
  · rw [last] at tracked
    rw [effect] at shown
    have left : state = false := tracked.symm
    split at shown
    · cases shown
    · rw [left] at shown
      cases shown

/-! ### The end of a client -/

/-- The last message of a client, if it has one. -/
def farewellText (painter : Painter) : Option Message → Bytes
  | none => []
  | some farewell => farewell.bytes painter

theorem farewellText_quiet (farewell : Option Message) (scanner : PrivateModeScanner) :
    (modeScanner.run scanner (farewellText painter farewell)).2 = [] := by
  cases farewell with
  | none => rfl
  | some farewell => exact (farewell.isQuiet painter scanner).2

/-- With or without a last message, the alternate screen is left once, and before anything else. -/
theorem Mirrored.handback_eq {terminal : SessionTerminal} (mirrored : terminal.Mirrored)
    (farewell : Option Message) :
    terminal.handback painter farewell =
      (if terminal.altScreen.tracker.inAlt then leaveAlternate else []) ++
        (farewellText painter farewell ++ defaults) := by
  have flag : terminal.altScreen.active = terminal.altScreen.tracker.inAlt := mirrored
  cases farewell with
  | none =>
    show terminalHandbackSequence terminal.altScreen.active = _
    rw [flag]
    rfl
  | some farewell =>
    unfold handback AltScreenState.leavePrefix AltScreenTracker.inAlternateScreen
    cases inAlt : terminal.altScreen.tracker.inAlt with
    | true => rfl
    | false =>
      show [] ++ (farewell.bytes painter ++ terminalHandbackSequence terminal.altScreen.active) = _
      rw [flag, inAlt]
      rfl

/-- What a client ends with leaves the terminal on its main screen. -/
theorem Followed.handback_main {terminal : SessionTerminal} (followed : terminal.Followed)
    (mirrored : terminal.Mirrored) (farewell : Option Message) :
    latest screenEffect (changesOf (terminal.written ++ terminal.handback painter farewell)) ≠
      some true := by
  -- Behind the leave, nothing that is written has to do with the screen.
  have calm (scanner : PrivateModeScanner) : latest screenEffect
      (modeScanner.run scanner (farewellText painter farewell ++ defaults)).2 = none := by
    rw [Transducer.run_append]
    simp only [farewellText_quiet, List.nil_append]
    exact screen_defaults _
  rw [changesOf_append, mirrored.handback_eq, latest_append]
  cases inAlt : terminal.altScreen.tracker.inAlt with
  | true =>
    rw [if_pos rfl, Transducer.run_append, latest_append, calm, (run_leaveAlternate _).2]
    have left : latest screenEffect [.changed 1049 false] = some false := rfl
    rw [left, Option.none_or, Option.some_or]
    exact fun same => absurd (Option.some.inj same) (by decide)
  | false =>
    rw [if_neg (by decide), List.nil_append, calm, Option.none_or]
    exact followed.main inAlt

end SessionTerminal

open SessionTerminal in
/-- How the local shell finds the terminal that a session had. -/
structure HandsBack (painter : Painter) (writes : List RelayWrite) (farewell : Option Message) :
    Prop where
  /-- The modes are the defaults, whatever went before and wherever it was cut off. -/
  modes : ∀ earlier : Bytes,
    (TermModeTracker.new.scan (earlier ++ ((relay painter writes).written ++
      (relay painter writes).handback painter farewell))).isSet = defaultModeStates
  ground : ∀ earlier : Bytes,
    (TermModeTracker.new.scan (earlier ++ ((relay painter writes).written ++
      (relay painter writes).handback painter farewell))).scanner.state = .ground
  /-- A terminal that was on its main screen is there again. -/
  main : ∀ earlier : Bytes, (TermModeTracker.new.scan earlier).scanner.state = .ground →
    showsAlternate (changesOf earlier) = false → start.Unbroken painter writes →
    showsAlternate (changesOf (earlier ++ ((relay painter writes).written ++
      (relay painter writes).handback painter farewell))) = false
  /-- The alternate screen is left once, before the last message, and only where it is shown. -/
  leave : start.Unbroken painter writes →
    ¬ ResetInAlternate (changesOf (relay painter writes).written) →
    (relay painter writes).handback painter farewell =
      (if showsAlternate (changesOf (relay painter writes).written) then leaveAlternate else []) ++
        (farewellText painter farewell ++ defaults)

/-- A terminal without colours. -/
def plainPainter : Painter where
  isColored := false
  isUtf8 := true
  stripStr text := text.filter (· ≠ escByte)
  stripped _ := fun inside => absurd rfl (of_decide_eq_true (List.mem_filter.mp inside).2)

/-- A message that splits the sequence that leaves the alternate screen keeps the shell there. -/
example :
    let terminal := SessionTerminal.relay plainPainter
      [.output (escByte :: ascii "[?1049h" ++ escByte :: ascii "[?10"), .message .freshLine,
        .output (ascii "49l")]
    showsAlternate (changesOf (terminal.written ++ terminal.handback plainPainter none)) = true := by
  decide +kernel

end Gritty
