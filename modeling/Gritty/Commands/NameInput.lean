import Gritty.Commands.PickerRows

/-! The line on which a picker lets the user edit the name of a session. -/

namespace Gritty

/-- What a key does to the text. -/
inductive EditKey where
  | home | end_ | killLine | killWord | backspace | delete | left | right
  | type (char : Char)
  deriving DecidableEq

inductive NameKey where
  | submit
  | cancel
  | edit (key : EditKey)
  deriving DecidableEq

/-- What a key does on the line, if anything. -/
def nameKey (key : KeyEvent) : Option NameKey :=
  if key.code = .enter then some .submit
  else if key.code = .esc then some .cancel
  else if key.isControl 'c' || key.isControl 'g' then some .cancel
  else if key.isControl 'a' || key.code = .home then some (.edit .home)
  else if key.isControl 'e' || key.code = .end_ then some (.edit .end_)
  else if key.isControl 'u' then some (.edit .killLine)
  else if key.isControl 'w' then some (.edit .killWord)
  else if key.code = .backspace then some (.edit .backspace)
  else if key.code = .delete then some (.edit .delete)
  else if key.code = .left || key.isControl 'b' then some (.edit .left)
  else if key.code = .right || key.isControl 'f' then some (.edit .right)
  else
    -- Any other character is typed, in upper case with shift held.
    match key.code with
    | .char char =>
      if key.modifiers = .none || key.modifiers = .shift then some (.edit (.type char)) else none
    | _ => none

/-- The text, where in it the cursor is, and the session that is to be renamed, if one is. -/
structure NameInput where
  buf : List Char
  cursorPos : Nat
  renameOf : Option String
  deriving DecidableEq

open Utf8Text (Boundary)

variable {ε : Type}

/-- The position before the character that ends at a position. -/
def prevCharBoundary (text : List Char) : Nat → Nat
  | 0 => 0
  -- A position inside of a character is passed over.
  | position + 1 =>
    if Utf8Text.isCharBoundary text position then position else prevCharBoundary text position

/-- The position behind the character that begins at a position. -/
def nextCharBoundary (text : List Char) (position : Nat) : Exec ε Nat := do
  let (_, after) ← Utf8Text.splitAt text position
  -- At the end there is nothing to pass.
  match after with
  | [] => return position
  | char :: _ => return position + char.utf8Size

/-- Where the last word of a text begins. -/
def wordStart (text : List Char) : Nat :=
  match Utf8Text.rfind ' ' (text.rdropWhile isWhitespace) with
  -- A space takes one byte.
  | some position => position + 1
  | none => 0

namespace NameInput

/-- The text after a key. -/
def edit (input : NameInput) : EditKey → Exec ε NameInput
  | .home => .ok { input with cursorPos := 0 }
  | .end_ => .ok { input with cursorPos := Utf8Text.len input.buf }
  | .killLine => do
    -- Everything before the cursor is deleted.
    let buf ← Utf8Text.drain input.buf 0 input.cursorPos
    return { input with buf, cursorPos := 0 }
  | .killWord => do
    let (before, _) ← Utf8Text.splitAt input.buf input.cursorPos
    -- Blanks at the end belong to the word that is deleted.
    let buf ← Utf8Text.drain input.buf (wordStart before) input.cursorPos
    return { input with buf, cursorPos := wordStart before }
  | .backspace =>
    -- There is nothing to delete before the start.
    if 0 < input.cursorPos then do
      let prev := prevCharBoundary input.buf input.cursorPos
      let buf ← Utf8Text.remove input.buf prev
      return { input with buf, cursorPos := prev }
    else .ok input
  | .delete =>
    -- There is nothing to delete behind the end.
    if input.cursorPos < Utf8Text.len input.buf then do
      let buf ← Utf8Text.remove input.buf input.cursorPos
      return { input with buf }
    else .ok input
  | .left => .ok { input with cursorPos := prevCharBoundary input.buf input.cursorPos }
  | .right => do
    let cursorPos ← nextCharBoundary input.buf input.cursorPos
    return { input with cursorPos }
  | .type char => do
    let buf ← Utf8Text.insert input.buf input.cursorPos char
    -- The cursor goes behind the character.
    return { input with buf, cursorPos := input.cursorPos + char.utf8Size }

/-- The cursor is between two characters, or at an end. -/
def Sound (input : NameInput) : Prop := Boundary input.buf input.cursorPos

end NameInput

/-- There is a position before, unless it is the first one. -/
theorem prevCharBoundary_spec (text : List Char) (position : Nat) :
    Boundary text (prevCharBoundary text position) ∧
      (0 < position → prevCharBoundary text position < position) := by
  induction position with
  | zero => exact ⟨Boundary.zero, fun never => absurd never (lt_irrefl 0)⟩
  | succ position ih =>
    rw [prevCharBoundary]
    split_ifs with here
    · exact ⟨Utf8Text.isCharBoundary_iff.mp here, fun _ => Nat.lt_succ_self position⟩
    · refine ⟨ih.1, fun _ => ?_⟩
      -- The start is a position, so the walk does not stop before it.
      have later : 0 < position := by
        rcases Nat.eq_zero_or_pos position with rfl | later
        · exact absurd (Utf8Text.isCharBoundary_iff.mpr Boundary.zero) here
        · exact later
      exact (ih.2 later).trans (Nat.lt_succ_self position)

/-- The next boundary is found without a fault. -/
theorem nextCharBoundary_safe {text : List Char} {position : Nat}
    (boundary : Boundary text position) :
    Exec.Safe (nextCharBoundary text position : Exec ε Nat) (Boundary text) := by
  refine (Utf8Text.splitAt_safe boundary).bind fun parts split => ?_
  obtain ⟨before, after⟩ := parts
  obtain ⟨whole, here⟩ := split
  cases after with
  | nil => exact Exec.Safe.ok boundary
  | cons char rest =>
    refine Exec.Safe.ok ⟨before ++ [char], rest, ?_, ?_⟩
    · rw [List.append_assoc, List.singleton_append]
      exact whole
    · rw [here, Utf8Text.len_append, Utf8Text.len_cons, Utf8Text.len_nil, Nat.add_zero]

/-- The start of the last word is a boundary. -/
theorem boundary_wordStart (text : List Char) : Boundary text (wordStart text) := by
  obtain ⟨blanks, whole⟩ := List.rdropWhile_prefix isWhitespace text
  unfold wordStart
  split
  · next position found =>
    -- A space takes one byte, and what is behind it is a position of the whole text as well.
    have behind := (Utf8Text.boundary_of_rfind found).2.append blanks
    rwa [whole] at behind
  · exact Boundary.zero

/-- Every key leaves the cursor between characters, and edits the name of the same session. -/
theorem NameInput.edit_safe {input : NameInput} (sound : input.Sound) (key : EditKey) :
    Exec.Safe (input.edit key : Exec ε NameInput) fun edited =>
      edited.Sound ∧ edited.renameOf = input.renameOf := by
  unfold Sound at sound
  cases key with
  | home => exact Exec.Safe.ok ⟨Boundary.zero, rfl⟩
  | end_ => exact Exec.Safe.ok ⟨Boundary.len, rfl⟩
  | killLine =>
    refine (Utf8Text.drain_safe Boundary.zero sound (Nat.zero_le _)).bind fun buf kept => ?_
    exact Exec.Safe.ok ⟨kept, rfl⟩
  | killWord =>
    refine (Utf8Text.splitAt_safe sound).bind fun parts split => ?_
    have start : Boundary input.buf (wordStart parts.1) := by
      rw [split.1]
      exact (boundary_wordStart parts.1).append parts.2
    have ordered : wordStart parts.1 ≤ input.cursorPos := by
      rw [split.2]
      exact (boundary_wordStart parts.1).le
    refine (Utf8Text.drain_safe start sound ordered).bind fun buf kept => ?_
    exact Exec.Safe.ok ⟨kept, rfl⟩
  | backspace =>
    refine Exec.Safe.ite (fun inside => ?_) fun _ => Exec.Safe.ok ⟨sound, rfl⟩
    obtain ⟨prev, less⟩ := prevCharBoundary_spec input.buf input.cursorPos
    have before := (less inside).trans_le sound.le
    refine (Utf8Text.remove_safe prev before).bind fun buf kept => ?_
    exact Exec.Safe.ok ⟨kept, rfl⟩
  | delete =>
    refine Exec.Safe.ite (fun inside => ?_) fun _ => Exec.Safe.ok ⟨sound, rfl⟩
    refine (Utf8Text.remove_safe sound inside).bind fun buf kept => ?_
    exact Exec.Safe.ok ⟨kept, rfl⟩
  | left => exact Exec.Safe.ok ⟨(prevCharBoundary_spec input.buf input.cursorPos).1, rfl⟩
  | right =>
    refine (nextCharBoundary_safe sound).bind fun position boundary => ?_
    exact Exec.Safe.ok ⟨boundary, rfl⟩
  | type char =>
    refine (Utf8Text.insert_safe sound char).bind fun buf kept => ?_
    exact Exec.Safe.ok ⟨kept, rfl⟩

end Gritty
