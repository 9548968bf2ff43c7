import Gritty.Commands.DisplayNames
import Gritty.Commands.OwnSessions
import Gritty.Commands.Table
import Gritty.Lib.Utf8Text

/-! What the pickers of sessions have in common: the keys, and the rows that they show. -/

namespace Gritty

/-! ### Keys -/

inductive KeyCode where
  | backspace | enter | left | right | up | down | home | end_ | delete | esc
  | char (char : Char)
  /-- Any other key. -/
  | other
  deriving DecidableEq

/-- The modifiers that are held with a key, one bit for each. -/
abbrev KeyModifiers := UInt8

namespace KeyModifiers

def none : KeyModifiers := 0

def shift : KeyModifiers := 1

def control : KeyModifiers := 2

end KeyModifiers

structure KeyEvent where
  code : KeyCode
  modifiers : KeyModifiers
  deriving DecidableEq

/-- The key is pressed without modifiers. -/
def KeyEvent.isPlain (key : KeyEvent) (code : KeyCode) : Bool :=
  key.code = code && key.modifiers = .none

/-- The character's key is pressed with control alone. -/
def KeyEvent.isControl (key : KeyEvent) (char : Char) : Bool :=
  key.code = .char char && key.modifiers = .control

/-- Which of the rows with a hotkey is asked for. -/
def KeyEvent.hotkey (key : KeyEvent) : Option Nat :=
  match key.code with
  | .char digit =>
    if '1' ≤ digit ∧ digit ≤ '9' ∧ key.modifiers = .none then some (digit.toNat - '1'.toNat)
    else none
  | _ => none

/-- What the terminal reports. -/
inductive TermEvent where
  | key (key : KeyEvent)
  /-- A resize, for instance. -/
  | other
  deriving DecidableEq

/-! ### Rows -/

/-- A session as it is shown. -/
structure Row where
  id : UInt32
  /-- The wire name, which every action sends. -/
  name : String
  /-- What the user sees and edits. -/
  display : String
  attached : Bool
  idle : String
  cmd : String
  cwd : String
  client : String
  hotkey : Option Char
  deriving DecidableEq

def formatDuration (secs : Nat) : String :=
  if secs < 60 then s!"{secs}s"
  else if secs < 3600 then s!"{secs / 60}m"
  else if secs < 86400 then s!"{secs / 3600}h"
  else s!"{secs / 86400}d"

def formatIdle (now lastActivity : UInt64) : String :=
  if lastActivity = 0 then "-" else formatDuration (now.toNat - lastActivity.toNat)

section

variable {ε : Type}

/-- How many bytes of a path are a home directory, if it is below one. -/
def homeLen (path : List Char) : Option Nat :=
  match (path.dropPrefix? "/home/".toList).or (path.dropPrefix? "/Users/".toList) with
  | some rest =>
    let user := rest.takeWhile (· ≠ '/')
    if user ≠ [] then
      some (Utf8Text.len path - Utf8Text.len rest + Utf8Text.len user)
    else none
  | none =>
    (["/var/root".toList, "/root".toList].find? (·.isPrefixOf path)).map Utf8Text.len

/-- A directory, written from the home directory that it is in. -/
def shortenHome (path : String) : Exec ε String :=
  match homeLen path.toList with
  | none => .ok path
  | some homeLen => do
    let (_, rest) ← Utf8Text.splitAt path.toList homeLen
    return if rest = [] ∨ rest.head? = some '/' then String.ofList ('~' :: rest) else path

/-- The row for a session. -/
def rowOf (now : UInt64) (clientName : String) (position : Nat) (entry : SessionEntry) :
    Exec ε Row := do
  let cwd ← shortenHome entry.cwd
  return {
    id := entry.id
    name := sessionWireName entry
    display := displaySessionName (sessionWireName entry) clientName
    attached := entry.attached
    idle := formatIdle now entry.lastActivity
    cmd := entry.foregroundCmd
    cwd
    client := entry.clientName
    hotkey := if position < 9 then some (Char.ofNat ('1'.toNat + position)) else none }

/-- The session is one of the client's own. -/
def isOwn (clientName : String) (entry : SessionEntry) : Bool :=
  s!"{clientName}/".toList.isPrefixOf entry.name.toList

/-- The rows for a list of sessions: a client's own sessions first, otherwise in the order they have. -/
def buildRows (now : UInt64) (clientName : String) (sessions : List SessionEntry) :
    Exec ε (List Row) :=
  let ordered := sessions.mergeSort fun first second =>
    isOwn clientName first || !isOwn clientName second
  ordered.zipIdx.mapM fun (entry, position) => rowOf now clientName position entry

/-- The lowest slot of a client that no row has. -/
def suggestFrom (rows : List Row) (clientName : String) : Exec ε String :=
  match ((List.range (rows.length + 1)).map (slotName clientName)).find? fun candidate =>
      !rows.any fun row => row.name == candidate with
  | some name => .ok name
  | none => Exec.panicked

/-- The first row that nobody is attached to, or else the row for a new session. -/
def initialCursor (rows : List Row) : Nat := rows.findIdx fun row => !row.attached

/-! ### Lines -/

/-- The header and a line for each row, as `ls` shows them, without a gutter or a style. -/
def pickerLines (displayWidth : String → Nat) (rows : List Row) : Exec ε (String × List String) := do
  let tagged := rows.any (·.attached)
  let headers := ["Name"] ++ (if tagged then [""] else []) ++ ["Idle", "Cmd", "Client", "CWD"]
  let cells := rows.map fun row =>
    [row.display] ++ (if tagged then [if row.attached then "(attached)" else ""] else []) ++
      [row.idle, row.cmd, row.client, row.cwd]
  match ← formatTable displayWidth headers cells with
  | [] => return ("", [])
  | header :: lines => return (header, lines)

/-- A line as it is styled: the one the cursor is at stands out, and those somebody is attached to recede. -/
def stylePickerLine (line : String) (atCursor attached : Bool) : String :=
  if atCursor then s!"\x1b[32;1m{line}\x1b[0m"
  else if attached then s!"\x1b[2m{line}\x1b[0m"
  else line

def hotkeyLabel (row : Row) : String :=
  match row.hotkey with
  | some char => String.ofList [char, ')']
  | none => "  "

def pickerPointer : String := "\x1b[32;1m\u25b8\x1b[0m"

end

/-! ### What does not panic -/

section

variable {ε : Type}

/-- A home directory is a beginning of the path. -/
theorem boundary_homeLen {path : List Char} {bytes : Nat} (home : homeLen path = some bytes) :
    Utf8Text.Boundary path bytes := by
  unfold homeLen at home
  split at home
  · next rest isHome =>
    -- The layout is a beginning, and the user that is named behind it is the next part.
    obtain ⟨layout, whole⟩ : ∃ layout, path = layout ++ rest := by
      rcases Option.or_eq_some_iff.mp isHome with linux | ⟨-, mac⟩
      · obtain ⟨layout, whole, -⟩ := List.dropPrefix?_eq_some_iff.mp linux
        exact ⟨layout, whole⟩
      · obtain ⟨layout, whole, -⟩ := List.dropPrefix?_eq_some_iff.mp mac
        exact ⟨layout, whole⟩
    dsimp only at home
    split_ifs at home
    cases home
    refine ⟨layout ++ rest.takeWhile (· ≠ '/'), rest.dropWhile (· ≠ '/'), ?_, ?_⟩
    · rw [whole, List.append_assoc, List.takeWhile_append_dropWhile]
    · rw [whole, Utf8Text.len_append, Utf8Text.len_append]
      omega
  · obtain ⟨root, found, rfl⟩ := Option.map_eq_some_iff.mp home
    have isPrefix := List.find?_some found
    obtain ⟨rest, whole⟩ := List.isPrefixOf_iff_prefix.mp isPrefix
    exact ⟨root, rest, whole.symm, rfl⟩

theorem shortenHome_safe (path : String) :
    Exec.Safe (shortenHome path : Exec ε String) fun _ => True := by
  unfold shortenHome
  split
  · exact Exec.Safe.ok trivial
  · next bytes home =>
    refine (Utf8Text.splitAt_safe (boundary_homeLen home)).bind fun _ _ => ?_
    exact Exec.Safe.ok trivial

/-- The rows are for the sessions of a list, in whatever order. -/
def Shows (sessions : List SessionEntry) (rows : List Row) : Prop :=
  (rows.map fun row => (row.id, row.name)).Perm
    (sessions.map fun entry => (entry.id, sessionWireName entry))

/-- The rows can be built without a fault, and show the sessions. -/
theorem buildRows_safe (now : UInt64) (clientName : String) (sessions : List SessionEntry) :
    Exec.Safe (buildRows now clientName sessions : Exec ε (List Row)) (Shows sessions) := by
  unfold buildRows
  generalize ordered : (sessions.mergeSort fun first second =>
    isOwn clientName first || !isOwn clientName second) = inOrder
  have each : ∀ place ∈ inOrder.zipIdx,
      Exec.Safe (rowOf now clientName place.2 place.1 : Exec ε Row) fun row =>
        (place.1.id, sessionWireName place.1) = (row.id, row.name) := by
    intro place _
    refine (shortenHome_safe place.1.cwd).bind fun _ _ => ?_
    exact Exec.Safe.ok rfl
  refine (Exec.mapM_safe each).mono fun rows stand => ?_
  have same : (inOrder.map fun entry => (entry.id, sessionWireName entry)) =
      rows.map fun row => (row.id, row.name) := by
    rw [← List.forall₂_eq_eq_eq, List.forall₂_map_right_iff]
    rw [← List.zipIdx_map_fst 0 inOrder, List.map_map, List.forall₂_map_left_iff]
    exact stand
  unfold Shows
  rw [← same, ← ordered]
  exact (List.mergeSort_perm sessions _).map _

section

variable {sessions : List SessionEntry} {rows : List Row}

theorem Shows.length (shows_ : Shows sessions rows) : rows.length = sessions.length := by
  have length := List.Perm.length_eq shows_
  rwa [List.length_map, List.length_map] at length

/-- Every row is for a session that was listed. -/
theorem Shows.entry (shows_ : Shows sessions rows) {row : Row} (member : row ∈ rows) :
    ∃ entry ∈ sessions, entry.id = row.id ∧ sessionWireName entry = row.name := by
  have listed := (List.Perm.mem_iff shows_).mp (List.mem_map.mpr ⟨row, member, rfl⟩)
  obtain ⟨entry, member, same⟩ := List.mem_map.mp listed
  exact ⟨entry, member, congrArg Prod.fst same, congrArg Prod.snd same⟩

/-- Every session that was listed has a row. -/
theorem Shows.row (shows_ : Shows sessions rows) {entry : SessionEntry} (member : entry ∈ sessions) :
    ∃ row ∈ rows, row.id = entry.id ∧ row.name = sessionWireName entry := by
  have listed := (List.Perm.mem_iff shows_).mpr (List.mem_map.mpr ⟨entry, member, rfl⟩)
  obtain ⟨row, member, same⟩ := List.mem_map.mp listed
  exact ⟨row, member, congrArg Prod.fst same, congrArg Prod.snd same⟩

/-- The name that is suggested from the rows is the one that is suggested from the list. -/
theorem suggestFrom_safe (shows_ : Shows sessions rows) (clientName : String) :
    Exec.Safe (suggestFrom rows clientName : Exec ε String) fun name =>
      suggestName sessions clientName = some name := by
  obtain ⟨name, suggested, -⟩ := suggestName_free sessions clientName
  have same : ∀ candidate, (rows.any fun row => row.name == candidate) =
      sessions.any fun entry => sessionWireName entry == candidate := by
    intro candidate
    rw [Bool.eq_iff_iff, List.any_eq_true, List.any_eq_true]
    constructor
    · rintro ⟨row, member, taken⟩
      obtain ⟨entry, listed, -, name⟩ := shows_.entry member
      exact ⟨entry, listed, by rw [name]; exact taken⟩
    · rintro ⟨entry, listed, taken⟩
      obtain ⟨row, member, -, name⟩ := shows_.row listed
      exact ⟨row, member, by rw [name]; exact taken⟩
  unfold suggestFrom
  simp only [shows_.length, same]
  unfold suggestName at suggested ⊢
  rw [suggested]
  exact Exec.Safe.ok rfl

end

/-- There is a line for every row. -/
theorem pickerLines_safe (displayWidth : String → Nat) (rows : List Row) :
    Exec.Safe (pickerLines displayWidth rows : Exec ε (String × List String)) fun lines =>
      lines.2.length = rows.length := by
  unfold pickerLines
  refine (formatTable_safe fun cells member => ?_).bind fun lines count => ?_
  · obtain ⟨row, -, rfl⟩ := List.mem_map.mp member
    split_ifs <;> rfl
  · rw [List.length_map, if_congr List.map_eq_nil_iff rfl rfl] at count
    cases lines with
    | nil =>
      refine Exec.Safe.ok ?_
      split_ifs at count with empty
      rw [empty]
      rfl
    | cons header lines =>
      refine Exec.Safe.ok ?_
      split_ifs at count with empty
      exact Nat.succ.inj count

end

end Gritty
