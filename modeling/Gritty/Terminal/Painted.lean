import Gritty.Protocol.Frame
import Gritty.Terminal.CursorRestore
import Gritty.Terminal.ModeSync

/-! What gritty itself paints on a session's terminal. It changes no mode of the terminal. -/

namespace Gritty

/-- A text without an escape byte. -/
structure PlainText where
  bytes : Bytes
  plain : escByte ∉ bytes

/-- What kind of message a line is. -/
inductive Level where
  | success
  | status
  | detail
  | warn
  | error
  deriving DecidableEq

/-- How a message ends. -/
inductive LineEnding where
  | none
  | lf
  | crLf
  deriving DecidableEq

namespace Sgr

def green : Bytes := escByte :: ascii "[32m"
def dimYellow : Bytes := escByte :: ascii "[2;33m"
def yellow : Bytes := escByte :: ascii "[33m"
def red : Bytes := escByte :: ascii "[31m"
def dim : Bytes := escByte :: ascii "[2m"
def reset : Bytes := escByte :: ascii "[0m"

end Sgr

/-- What clears the rest of a line, and what moves the cursor up by one. -/
def clearLine : Bytes := escByte :: ascii "[K"
def cursorUp : Bytes := escByte :: ascii "[A"

/-- The glyph in front of a message: a triangle where the locale has one. -/
def markerFor (isUtf8 : Bool) : Bytes := if isUtf8 then utf8 "\u25b8" else ascii ">"

def LineEnding.bytes : LineEnding → Bytes
  | .none => []
  | .lf => ascii "\n"
  | .crLf => ascii "\r\n"

/-- The attribute of a message, and what stands in front of its text. -/
def Level.style (marker : Bytes) : Level → Bytes × Bytes
  | .success => (Sgr.green, marker ++ ascii " ")
  | .status => (Sgr.dimYellow, marker ++ ascii " ")
  | .detail => (Sgr.dim, marker ++ ascii " ")
  | .warn => (Sgr.yellow, ascii "warning: ")
  | .error => (Sgr.red, ascii "error: ")

/-- Render one message. -/
def render (level : Level) (text marker : Bytes) (ending : LineEnding) : Bytes :=
  (level.style marker).1 ++ ((level.style marker).2 ++ (text ++ (Sgr.reset ++ ending.bytes)))

/-- How the terminal of a client is painted. -/
structure Painter where
  isColored : Bool
  isUtf8 : Bool
  /-- Takes the escape sequences out of a text. -/
  stripStr : Bytes → Bytes
  stripped : ∀ text, escByte ∉ stripStr text

namespace Painter

variable (painter : Painter)

def stripUnlessColored (text : Bytes) : Bytes :=
  if painter.isColored then text else painter.stripStr text

def terminalBody (level : Level) (text : Bytes) : Bytes :=
  painter.stripUnlessColored (render level text (markerFor painter.isUtf8) .none)

def terminalLine (level : Level) (text : Bytes) : Bytes :=
  painter.stripUnlessColored (render level text (markerFor painter.isUtf8) .crLf)

/-- Messages open a row of their own: the session may have left the cursor anywhere. -/
def statusMsg (text : Bytes) : Bytes := ascii "\r\n" ++ painter.terminalLine .status text
def successMsg (text : Bytes) : Bytes := ascii "\r\n" ++ painter.terminalLine .success text
def errorMsg (text : Bytes) : Bytes := ascii "\r\n" ++ painter.terminalLine .error text

/-- The last line of a failed client. It takes the row of the reconnect status line, if there is one. -/
def terminalErrLine (text : Bytes) (chromeShown : Bool) : Bytes :=
  (if chromeShown then [] else ascii "\r\n") ++
    (ascii "\r" ++ (painter.terminalBody .error text ++ (clearLine ++ ascii "\r\n")))

end Painter

/-- What a reconnect is waiting for. -/
inductive ReconnectPhase where
  | retrying
  | waitingForNetwork
  | retryNow
  deriving DecidableEq

def spinner : List String := ["⠋", "⠙", "⠹", "⠸", "⠼", "⠴", "⠦", "⠧", "⠇", "⠏"]

def ReconnectPhase.body (elapsed : Nat) : ReconnectPhase → Bytes
  | .retrying => ascii "reconnecting " ++ (ascii elapsed.repr ++ ascii "s")
  | .waitingForNetwork => ascii "waiting for network"
  | .retryNow => ascii "retrying now"

/-- The status line of a reconnect, painted in place. -/
def reconnectStatusLine (spin elapsed : Nat) (phase : ReconnectPhase) (keysRetry : Bool) : Bytes :=
  let hint := if keysRetry ∧ phase ≠ .retryNow then utf8 " \u00b7 any key retries" else []
  ascii "\r" ++ (Sgr.dim ++ (utf8 (spinner.getD (spin % spinner.length) "") ++ (ascii " " ++
    (phase.body elapsed ++ (hint ++ (utf8 " \u00b7 ^C aborts" ++ (Sgr.reset ++ clearLine)))))))

/-- A report in dim text under a title. -/
def reportMsg (title : Bytes) (lines : List Bytes) : Bytes :=
  ascii "\r\n" ++ (Sgr.dimYellow ++ (ascii "[" ++ (title ++ (ascii "]\r\n" ++
    ((lines.flatMap fun line => Sgr.reset ++ (Sgr.dim ++ (line ++ ascii "\r\n"))) ++ Sgr.reset)))))

def escapeHelpLines : List String :=
  ["Supported escape sequences:",
    "    ~.  - detach from session",
    "    ~R  - force reconnect",
    "    ~K  - pin session (set linger to never)",
    "    ~^Z - suspend client",
    "    ~#  - session status and RTT",
    "    ~?  - this message",
    "    ~~  - send the escape character by typing it twice",
    "(Note that escapes are only recognized immediately after newline.)"]

def escapeHelp : Bytes :=
  ascii "\r\n" ++ escapeHelpLines.flatMap fun line => ascii line ++ ascii "\r\n"

/-- What gritty paints while a session has the terminal, or at its end. -/
inductive Message where
  | status (text : PlainText)
  | success (text : PlainText)
  | error (text : PlainText)
  | failure (text : PlainText) (chromeShown : Bool)
  | freshLine
  | reconnecting (spin elapsed : Nat) (phase : ReconnectPhase) (keysRetry : Bool)
  /-- Erases the reconnect status line and goes back to the line above it. -/
  | reclaimLine
  | report (title : PlainText) (lines : List PlainText)
  | help

def Message.bytes (painter : Painter) : Message → Bytes
  | .status text => painter.statusMsg text.bytes
  | .success text => painter.successMsg text.bytes
  | .error text => painter.errorMsg text.bytes
  | .failure text chromeShown => painter.terminalErrLine text.bytes chromeShown
  | .freshLine => ascii "\r\n"
  | .reconnecting spin elapsed phase keysRetry => reconnectStatusLine spin elapsed phase keysRetry
  | .reclaimLine => ascii "\r" ++ (clearLine ++ cursorUp)
  | .report title lines => reportMsg title.bytes (lines.map (·.bytes))
  | .help => escapeHelp

/-! ### Texts between sequences -/

/-- Between sequences, the text changes nothing and ends between sequences again. -/
def PassesBy (text : Bytes) : Prop :=
  ∀ scanner : PrivateModeScanner, scanner.state = .ground →
    (modeScanner.run scanner text).1.state = .ground ∧ (modeScanner.run scanner text).2 = []

/-- The text changes nothing even where it interrupts a sequence, and ends between sequences. -/
def IsQuiet (text : Bytes) : Prop :=
  ∀ scanner : PrivateModeScanner,
    (modeScanner.run scanner text).1.state = .ground ∧ (modeScanner.run scanner text).2 = []

/-- Two texts that pass by do so one after the other. -/
theorem PassesBy.append {first second : Bytes} (passes : PassesBy first) (later : PassesBy second) :
    PassesBy (first ++ second) := by
  intro scanner ground
  obtain ⟨between, nothing⟩ := passes scanner ground
  obtain ⟨after, still⟩ := later _ between
  rw [Transducer.run_append]
  exact ⟨after, by rw [nothing, still]; rfl⟩

theorem passesBy_nil : PassesBy [] := fun _ ground => ⟨ground, rfl⟩

theorem passesBy_plain {text : Bytes} (plain : escByte ∉ text) : PassesBy text := by
  intro scanner ground
  rw [modeScanner_plain ground plain]
  exact ⟨ground, rfl⟩

/-- A control sequence that does not start like one for private modes. -/
theorem passesBy_control {first : UInt8} {inner : Bytes} (public_ : first ≠ 0x3f)
    (plain : escByte ∉ first :: inner) : PassesBy (escByte :: 0x5b :: first :: inner) := by
  intro scanner ground
  obtain ⟨head, rest⟩ := not_or.mp (List.mem_cons.not.mp plain)
  -- The first byte inside ends what the scanner looks for, and the rest is plain text to it.
  have ends : ∀ inside : PrivateModeScanner, inside.state = .csi →
      modeScanner.step inside first = ({ inside with state := .ground }, []) := by
    intro inside state
    simp only [modeScanner, PrivateModeScanner.step, state]
    rw [if_neg (Ne.symm head), if_neg public_]
  rw [Transducer.run_cons, Transducer.run_cons, Transducer.run_cons]
  have started : modeScanner.step scanner escByte = ({ scanner with state := .esc }, []) := rfl
  have opened : modeScanner.step { scanner with state := .esc } 0x5b =
      ({ scanner with state := .csi }, []) := rfl
  rw [started, opened, ends _ rfl, modeScanner_plain rfl rest]
  exact ⟨rfl, rfl⟩

/-- A text that opens with a return interrupts every sequence before it can change anything. -/
theorem isQuiet_return {text : Bytes} (passes : PassesBy text) : IsQuiet (0x0d :: text) := by
  intro scanner
  have interrupted : (modeScanner.step scanner 0x0d).1.state = .ground ∧
      (modeScanner.step scanner 0x0d).2 = [] := by
    cases state : scanner.state <;>
      simp [modeScanner, PrivateModeScanner.step, state, escByte, UInt8.le_iff_toNat_le]
  obtain ⟨ground, nothing⟩ := passes _ interrupted.1
  rw [Transducer.run_cons]
  exact ⟨ground, by rw [interrupted.2, nothing]; rfl⟩

/-! ### Every message is quiet -/

theorem passesBy_sgr (level : Level) (marker : Bytes) : PassesBy (level.style marker).1 := by
  cases level <;> exact passesBy_control (by decide) (by decide)

theorem passesBy_reset : PassesBy Sgr.reset := passesBy_control (by decide) (by decide)

theorem passesBy_dim : PassesBy Sgr.dim := passesBy_control (by decide) (by decide)

theorem passesBy_clearLine : PassesBy clearLine := passesBy_control (by decide) (by decide)

theorem markerFor_plain (isUtf8 : Bool) : escByte ∉ markerFor isUtf8 := by
  cases isUtf8 <;> decide

/-- The marker of a level's style holds no escape. -/
theorem style_plain (level : Level) (isUtf8 : Bool) :
    escByte ∉ (level.style (markerFor isUtf8)).2 := by
  have spaced : escByte ∉ markerFor isUtf8 ++ ascii " " := by
    intro inside
    rcases List.mem_append.mp inside with marker | space
    · exact markerFor_plain isUtf8 marker
    · exact absurd space (by decide)
  cases level with
  | success => exact spaced
  | status => exact spaced
  | detail => exact spaced
  | warn => exact (by decide : escByte ∉ ascii "warning: ")
  | error => exact (by decide : escByte ∉ ascii "error: ")

/-- A rendered message passes by, whatever its level and its ending. -/
theorem passesBy_render (level : Level) (text : PlainText) (isUtf8 : Bool) (ending : LineEnding) :
    PassesBy (render level text.bytes (markerFor isUtf8) ending) := by
  have ended : PassesBy ending.bytes := by
    cases ending <;> exact passesBy_plain (by decide)
  refine (passesBy_sgr level _).append ((passesBy_plain (style_plain level isUtf8)).append ?_)
  exact (passesBy_plain text.plain).append (passesBy_reset.append ended)

theorem Painter.passesBy_strip (painter : Painter) {text : Bytes} (passes : PassesBy text) :
    PassesBy (painter.stripUnlessColored text) := by
  unfold Painter.stripUnlessColored
  split
  · exact passes
  -- Without colours nothing of a sequence is left.
  · exact passesBy_plain (painter.stripped text)

/-- The spinner passes by. -/
theorem passesBy_spinner (spin : Nat) :
    PassesBy (utf8 (spinner.getD (spin % spinner.length) "")) := by
  have plain : ∀ glyph ∈ spinner, escByte ∉ utf8 glyph := by decide
  have inside : spin % spinner.length < spinner.length := Nat.mod_lt _ (by decide)
  rw [List.getD_eq_getElem?_getD, List.getElem?_eq_getElem inside, Option.getD_some]
  exact passesBy_plain (plain _ (List.getElem_mem inside))

/-- The body of the status line passes by, in every phase. -/
theorem passesBy_body (elapsed : Nat) (phase : ReconnectPhase) : PassesBy (phase.body elapsed) := by
  cases phase with
  | retrying =>
    have digits : escByte ∉ ascii elapsed.repr := fun inside =>
      absurd (mem_ascii_repr inside).1 (by decide)
    exact (passesBy_plain (by decide)).append
      ((passesBy_plain digits).append (passesBy_plain (by decide)))
  | waitingForNetwork => exact passesBy_plain (by decide : escByte ∉ ascii "waiting for network")
  | retryNow => exact passesBy_plain (by decide : escByte ∉ ascii "retrying now")

/-- The lines of a report pass by. -/
theorem passesBy_reportLines (lines : List PlainText) :
    PassesBy ((lines.map (·.bytes)).flatMap fun line =>
      Sgr.reset ++ (Sgr.dim ++ (line ++ ascii "\r\n"))) := by
  induction lines with
  | nil => exact passesBy_nil
  | cons line lines ih =>
    rw [List.map_cons, List.flatMap_cons]
    refine PassesBy.append (passesBy_reset.append (passesBy_dim.append ?_)) ih
    exact (passesBy_plain line.plain).append (passesBy_plain (by decide))

/-- The help for the escapes passes by. -/
theorem passesBy_escapeHelp :
    PassesBy (escapeHelpLines.flatMap fun line => ascii line ++ ascii "\r\n") := by
  have plain : ∀ line ∈ escapeHelpLines, escByte ∉ ascii line := by decide
  refine passesBy_plain fun inside => ?_
  obtain ⟨line, among, there⟩ := List.mem_flatMap.mp inside
  rcases List.mem_append.mp there with text | ending
  · exact plain line among text
  · exact absurd ending (by decide)

/-- Whatever a message says and whatever sequence of the session it interrupts, no mode changes. -/
theorem Message.isQuiet (painter : Painter) (message : Message) :
    IsQuiet (message.bytes painter) := by
  have newLine : PassesBy [0x0a] := passesBy_plain (by decide)
  have returned : PassesBy (ascii "\r\n") := passesBy_plain (by decide)
  -- A message in a row of its own opens with a return and a line feed.
  have ownRow : ∀ (level : Level) (text : PlainText),
      IsQuiet (ascii "\r\n" ++ painter.terminalLine level text.bytes) := fun level text =>
    isQuiet_return (newLine.append (painter.passesBy_strip (passesBy_render level text _ _)))
  cases message with
  | status text => exact ownRow .status text
  | success text => exact ownRow .success text
  | error text => exact ownRow .error text
  | failure text chromeShown =>
    have row : PassesBy (painter.terminalBody .error text.bytes ++ (clearLine ++ ascii "\r\n")) :=
      (painter.passesBy_strip (passesBy_render .error text _ _)).append
        (passesBy_clearLine.append returned)
    cases chromeShown with
    | true => exact isQuiet_return row
    | false =>
      have lead : PassesBy [0x0a, 0x0d] := passesBy_plain (by decide)
      exact isQuiet_return (lead.append row)
  | freshLine => exact isQuiet_return newLine
  | reconnecting spin elapsed phase keysRetry =>
    refine isQuiet_return (passesBy_dim.append ((passesBy_spinner spin).append ?_))
    refine (passesBy_plain (by decide)).append ((passesBy_body elapsed phase).append ?_)
    refine PassesBy.append ?_ ((passesBy_plain (by decide)).append
      (passesBy_reset.append passesBy_clearLine))
    -- The hint is a plain text where it is given.
    split
    · exact passesBy_plain (by decide)
    · exact passesBy_nil
  | reclaimLine =>
    have up : PassesBy cursorUp := passesBy_control (by decide) (by decide)
    exact isQuiet_return (passesBy_clearLine.append up)
  | report title lines =>
    have yellow : PassesBy Sgr.dimYellow := passesBy_control (by decide) (by decide)
    refine isQuiet_return (newLine.append (yellow.append ?_))
    refine (passesBy_plain (by decide)).append ((passesBy_plain title.plain).append ?_)
    exact (passesBy_plain (by decide)).append ((passesBy_reportLines lines).append passesBy_reset)
  | help => exact isQuiet_return (newLine.append passesBy_escapeHelp)

end Gritty
