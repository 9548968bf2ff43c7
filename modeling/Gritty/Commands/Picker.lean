import Gritty.Commands.NameInput

/-! The picker of `connect`: the user picks a session, names a new one, or renames or kills one. -/

namespace Gritty

/-- What a key does in the list, if anything. -/
inductive PickKey where
  | up | down | enter
  | hotkey (index : Nat)
  | new | create | kill | rename | takeOver | leave
  deriving DecidableEq

def pickKey (key : KeyEvent) : Option PickKey :=
  if key.isPlain .up || key.isPlain (.char 'k') then some .up
  else if key.isPlain .down || key.isPlain (.char 'j') then some .down
  else if key.code = .enter then some .enter
  else
    match key.hotkey with
    | some index => some (.hotkey index)
    | none =>
      if key.isPlain (.char 'n') then some .new
      else if key.isPlain (.char 'c') then some .create
      else if key.isPlain (.char 'x') || key.isPlain .delete then some .kill
      else if key.isPlain (.char 'r') then some .rename
      else if key.isPlain (.char 'f') then some .takeOver
      else if key.isPlain .esc || key.isPlain (.char 'q') then some .leave
      else if key.isControl 'c' || key.isControl 'g' then some .leave
      else none

inductive PickerMode where
  | pick
  /-- A name is edited: that of a new session, or the new one of a session. -/
  | input (name : NameInput)
  /-- The user is asked whether to kill a session. -/
  | confirmKill
  deriving DecidableEq

/-- A row of the list is highlighted. -/
def PickerMode.picking : PickerMode → Bool
  | .pick | .confirmKill => true
  | .input _ => false

/-- Which mode it is, whatever is edited. -/
def PickerMode.same : PickerMode → PickerMode → Bool
  | .pick, .pick | .input _, .input _ | .confirmKill, .confirmKill => true
  | _, _ => false

structure Picker where
  rows : List Row
  /-- The row that is highlighted. The one for a new session comes after the last. -/
  cursor : Nat
  mode : PickerMode
  /-- The server's last error. -/
  status : Option String
  deriving DecidableEq

/-- What a request to the server comes to. -/
abbrev ServerReply := Except String Frame

/-- What the picker is told once. -/
structure PickerEnv where
  host : String
  clientName : String
  displayWidth : String → Nat
  /-- A reply that is neither of those that were expected. -/
  debug : ServerReply → String

/-- What the picker waits for: an event, unless it cannot be read, and the replies to what the event makes it ask for. -/
structure PickerInput where
  event : Option TermEvent
  answer : ServerReply
  list : ServerReply
  now : UInt64

/-- What comes of an event. -/
inductive PickerTurn where
  /-- Nothing, and the screen stays. -/
  | ignored
  /-- The picker goes on, and has sent requests. -/
  | goes (picker : Picker) (requests : List Frame)
  /-- The picker is left, with a session and whether to take it over. -/
  | leaves (result : Option (String × Bool))

variable {ε : Type}

/-! ### Events -/

namespace Picker

/-- The row that is highlighted, unless it is the one for a new session. -/
def highlighted (picker : Picker) : Option Row :=
  if picker.mode.picking then picker.rows[picker.cursor]? else none

/-- An event in the list. -/
def pick (env : PickerEnv) (picker : Picker) : PickKey → Exec ε PickerTurn
  -- The first row is the end of the way up.
  | .up => .ok (.goes { picker with cursor := picker.cursor - 1 } [])
  | .down =>
    .ok (.goes
      -- The row for a new session is the last one that can be reached.
      (if picker.cursor < picker.rows.length then { picker with cursor := picker.cursor + 1 }
        else picker) [])
  | .enter =>
    if picker.cursor < picker.rows.length then do
      -- A row is attached to under its wire name.
      let row ← Exec.element picker.rows picker.cursor
      return .leaves (some (row.name, false))
    else do
      -- On the row for a new session, one is made at once.
      let name ← suggestFrom picker.rows env.clientName
      return .leaves (some (name, false))
  | .hotkey index =>
    if index < picker.rows.length then do
      let row ← Exec.element picker.rows index
      return .leaves (some (row.name, false))
    else .ok (.goes picker [])
  | .new => do
    let name ← suggestFrom picker.rows env.clientName
    return .leaves (some (name, false))
  | .create => do
    let suggested ← suggestFrom picker.rows env.clientName
    -- The user edits the part of the name behind the prefix.
    let buf := (displaySessionName suggested env.clientName).toList
    return .goes
      { picker with
        cursor := picker.rows.length
        status := none
        mode := .input { buf, cursorPos := Utf8Text.len buf, renameOf := none } } []
  | .kill =>
    .ok (.goes
      (if picker.cursor < picker.rows.length then
        { picker with status := none, mode := .confirmKill }
        else picker) [])
  | .rename =>
    if picker.cursor < picker.rows.length then do
      let row ← Exec.element picker.rows picker.cursor
      -- The name is edited as it is shown, while the session is kept by its wire name.
      let buf := row.display.toList
      return .goes
        { picker with
          status := none
          mode := .input { buf, cursorPos := Utf8Text.len buf, renameOf := some row.name } } []
    else .ok (.goes picker [])
  | .takeOver =>
    if picker.cursor < picker.rows.length then do
      let row ← Exec.element picker.rows picker.cursor
      return .leaves (some (row.name, true))
    else .ok (.goes picker [])
  | .leave => .ok (.leaves none)

/-- The rows are those of the list that the server answers with, and the cursor stays on one of them. -/
def refresh (env : PickerEnv) (picker : Picker) (input : PickerInput) : Exec ε Picker :=
  match input.list with
  | .ok (.sessionInfo fresh) => do
    -- Some row stays highlighted as long as there is one.
    let rows ← buildRows input.now env.clientName fresh
    return { picker with rows, cursor := min picker.cursor (rows.length - 1) }
  | _ => .ok picker

/-- An event at the question whether to kill a session. -/
def confirm (env : PickerEnv) (picker : Picker) (yes : Bool) (input : PickerInput) :
    Exec ε PickerTurn :=
  if yes then do
    -- The request is for the row at the cursor, whatever list is shown after it.
    let row ← Exec.element picker.rows picker.cursor
    let status :=
      match input.answer with
      | .ok .ok => none
      | .ok (.error _ message) => some s!"kill failed: {message}"
      | other => some s!"kill failed: unexpected response {env.debug other}"
    -- The list is asked for whether or not the session was killed.
    let picker ← { picker with status }.refresh env input
    return .goes { picker with mode := .pick } [.killSession row.name, .listSessions]
  else .ok (.goes { picker with mode := .pick } [])

/-- The name that was edited is to be the one of a new session, or of the session that is renamed. -/
def submit (env : PickerEnv) (picker : Picker) (name : NameInput) (input : PickerInput) :
    Exec ε PickerTurn :=
  let userInput := String.ofList (trim name.buf)
  let newWire := resolveSessionName userInput env.clientName
  match name.renameOf with
  | some oldName =>
    -- An empty name, or the old one, renames nothing.
    if userInput = "" ∨ newWire = oldName then .ok (.goes { picker with mode := .pick } [])
    else
      match input.answer with
      | .ok .ok => do
        let picker ← { picker with status := none }.refresh env input
        return .goes { picker with mode := .pick } [.renameSession oldName newWire, .listSessions]
      -- The user may try another name.
      | .ok (.error _ message) =>
        .ok (.goes { picker with status := some s!"rename failed: {message}" }
          [.renameSession oldName newWire])
      | other =>
        .ok (.goes
          { picker with
            status := some s!"rename failed: unexpected response {env.debug other}" }
          [.renameSession oldName newWire])
  | none =>
    if userInput = "" then
      -- Without a name, the list is shown again with the row for a new session highlighted.
      .ok (.goes { picker with mode := .pick, cursor := picker.rows.length } [])
    else .ok (.leaves (some (newWire, false)))

/-- The name is not to be edited any more. -/
def cancel (picker : Picker) (name : NameInput) : Picker :=
  { picker with
    status := none
    mode := .pick
    -- A session that was to be renamed stays highlighted.
    cursor := if name.renameOf.isNone then picker.rows.length else picker.cursor }

/-- One turn of the loop. -/
def turn (env : PickerEnv) (picker : Picker) (input : PickerInput) : Exec ε PickerTurn :=
  match input.event with
  -- The terminal cannot be read any more.
  | none => .ok (.leaves none)
  | some event =>
    match picker.mode, event with
    | .pick, .key key =>
      match pickKey key with
      | some key => picker.pick env key
      | none => .ok .ignored
    | .pick, .other => .ok .ignored
    | .confirmKill, .key key => picker.confirm env (key.code = .char 'y') input
    -- Whatever is not a yes takes the question back.
    | .confirmKill, .other => picker.confirm env false input
    | .input name, .key key =>
      match nameKey key with
      | some .submit => picker.submit env name input
      | some .cancel => .ok (.goes (picker.cancel name) [])
      | some (.edit key) => do
        let name ← name.edit key
        return .goes { picker with mode := .input name } []
      | none => .ok .ignored
    | .input _, .other => .ok .ignored

end Picker

/-! ### The screen -/

/-- A row on the screen, with the pointer in front of it or not. -/
structure PickerLine where
  row : Row
  pointed : Bool
  text : String

structure Screen where
  title : String
  header : Option String
  lines : List PickerLine
  /-- The row for a new session, or the line that is edited. -/
  last : String
  hints : String
  status : Option String
  /-- The terminal's own cursor is visible. -/
  textCursor : Bool

/-- The row that the pointer is in front of. -/
def Screen.highlighted (screen : Screen) : Option Row :=
  (screen.lines.find? (·.pointed)).map (·.row)

namespace Picker

/-- A line of the list. -/
def line (picker : Picker) (position : Nat) (row : Row) (body : String) : PickerLine :=
  -- No row is highlighted while a name is edited.
  let pointed := picker.mode.picking && position = picker.cursor
  let pointer := if pointed then pickerPointer else " "
  let styled := stylePickerLine body pointed row.attached
  { row, pointed, text := s!"{pointer} \x1b[2m{hotkeyLabel row}\x1b[0m {styled}" }

/-- The row for a new session doubles as the line that is edited. -/
def lastLine (picker : Picker) (suggested : String) : Exec ε String :=
  match picker.mode with
  | .pick | .confirmKill =>
    -- The suggestion is shown whether or not the row is highlighted.
    .ok (if picker.cursor = picker.rows.length then
        s!"{pickerPointer} \x1b[2mn)\x1b[0m \x1b[32;1mnew session \x1b[2m({suggested})\x1b[0m"
      else s!"  \x1b[2mn) new session ({suggested})\x1b[0m")
  | .input name => do
    let kind := if name.renameOf.isSome then "r)" else "c)"
    let (before, after) ← Utf8Text.splitAt name.buf name.cursorPos
    -- At the end of the text, a blank stands for the character at the cursor.
    let cursorCh := after.head?.getD ' '
    let (_, rest) ← (if after = [] then .ok ([], []) else Utf8Text.splitAt after cursorCh.utf8Size)
    return s!"{pickerPointer} \x1b[2m{kind}\x1b[0m \x1b[32;1m{String.ofList before}\x1b[7m" ++
      s!"{String.ofList [cursorCh]}\x1b[27m{String.ofList rest}\x1b[0m"

/-- What the keys do, or what the user is asked. -/
def hints (picker : Picker) : Exec ε String :=
  match picker.mode with
  | .pick =>
    -- Without sessions, there is nothing to move to or to act on.
    .ok (if picker.rows = [] then "enter/n new session  c new (named)  q quit"
      else "\u2191\u2193 move  enter/1-9 attach  f take over  n new  c new (named)  " ++
        "r rename  x kill  q quit")
  | .input name => .ok (if name.renameOf.isSome then "enter rename  esc back" else "enter create  esc back")
  | .confirmKill => do
    let row ← Exec.element picker.rows picker.cursor
    return s!"kill {row.display}? y/n"

/-- What the picker shows. -/
def render (env : PickerEnv) (picker : Picker) : Exec ε Screen := do
  let (header, lines) ← pickerLines env.displayWidth picker.rows
  let suggestedWire ← suggestFrom picker.rows env.clientName
  let last ← picker.lastLine (displaySessionName suggestedWire env.clientName)
  let hints ← picker.hints
  return {
    title := s!"\x1b[36;1mPick a session on {env.host}:\x1b[0m"
    -- A header without rows is not shown.
    header := if picker.rows = [] then none else some s!"     \x1b[2m{header}\x1b[0m"
    lines := (picker.rows.zip lines).mapIdx fun position shown =>
      picker.line position shown.1 shown.2
    last
    hints := s!"\x1b[2m  {hints}\x1b[0m"
    status := picker.status.map fun message => s!"\x1b[31m  {message}\x1b[0m"
    textCursor := !picker.mode.picking }

/-- The picker before the first event, and what it shows. -/
def opened (env : PickerEnv) (sessions : List SessionEntry) (now : UInt64) :
    Exec ε (Picker × Screen) := do
  let rows ← buildRows now env.clientName sessions
  -- Nothing has gone wrong yet.
  let picker : Picker := { rows, cursor := initialCursor rows, mode := .pick, status := none }
  let screen ← picker.render env
  return (picker, screen)

end Picker

/-! ### Runs -/

/-- What the user has in front of him. -/
inductive PickerStage where
  | shown (picker : Picker) (screen : Screen)
  | left (result : Option (String × Bool))
  | panicked

/-- A request that was sent, with what was highlighted when the mode was entered, and the list it was in. -/
structure PickerRequest where
  frame : Frame
  entered : Option Row
  listed : List SessionEntry

/-- A picker, and what the statements below are about. -/
structure PickerRun where
  stage : PickerStage
  /-- The sessions that the server listed last. -/
  listed : List SessionEntry
  /-- The row that was highlighted on the screen when the mode was entered. -/
  entered : Option Row
  requests : List PickerRequest

/-- The sessions that were listed last, after some requests. -/
def listedAfter (listed : List SessionEntry) (requests : List Frame) (reply : ServerReply) :
    List SessionEntry :=
  match reply with
  -- The reply counts only if the list was asked for.
  | .ok (.sessionInfo fresh) => if .listSessions ∈ requests then fresh else listed
  | _ => listed

namespace PickerRun

/-- The picker is opened on a list of sessions. -/
def new (env : PickerEnv) (sessions : List SessionEntry) (now : UInt64) : PickerRun where
  stage :=
    match (Picker.opened env sessions now : Exec Empty (Picker × Screen)) with
    | .ok (picker, screen) => .shown picker screen
    | .error _ => .panicked
  listed := sessions
  entered := none
  requests := []

/-- One turn of the loop, and what is rendered after it. -/
def step (env : PickerEnv) (run : PickerRun) (input : PickerInput) : Option PickerRun :=
  match run.stage with
  | .shown picker screen =>
    match (picker.turn env input : Exec Empty PickerTurn) with
    | .error _ => some { run with stage := .panicked }
    | .ok .ignored => some run
    | .ok (.leaves result) => some { run with stage := .left result }
    | .ok (.goes next frames) =>
      some
        { stage :=
            match (next.render env : Exec Empty Screen) with
            | .ok screen => .shown next screen
            | .error _ => .panicked
          listed := listedAfter run.listed frames input.list
          entered := if next.mode.same picker.mode then run.entered else screen.highlighted
          requests := run.requests ++
            frames.map fun frame => { frame, entered := run.entered, listed := run.listed } }
  | _ => none

end PickerRun

/-- A picker that is opened on a list of sessions. -/
def pickerMachine (env : PickerEnv) (sessions : List SessionEntry) (now : UInt64) :
    Machine PickerRun PickerInput where
  init := .new env sessions now
  step := PickerRun.step env

end Gritty
