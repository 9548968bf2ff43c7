import Mathlib.Data.List.DropRight
import Gritty.Lib.Exec

/-! Texts whose positions are counted in bytes of UTF-8. A position inside of a character is a panic. -/

namespace Gritty

namespace Utf8Text

variable {ε : Type}

/-- How many bytes a text takes. -/
def len (text : List Char) : Nat := (text.map Char.utf8Size).sum

/-- The text before a position, and the text after it. -/
def splitAt : List Char → Nat → Exec ε (List Char × List Char)
  | text, 0 => .ok ([], text)
  | [], _ + 1 => Exec.panicked
  | first :: rest, position + 1 =>
    if first.utf8Size ≤ position + 1 then do
      let (before, after) ← splitAt rest (position + 1 - first.utf8Size)
      return (first :: before, after)
    else Exec.panicked

/-- Characters begin or end at a position. -/
def isCharBoundary (text : List Char) (position : Nat) : Bool :=
  match (splitAt text position : Exec Empty _) with
  | .ok _ => true
  | .error _ => false

/-- A character is put into the text. -/
def insert (text : List Char) (position : Nat) (char : Char) : Exec ε (List Char) := do
  let (before, after) ← splitAt text position
  return before ++ char :: after

/-- The character after a position is taken out. -/
def remove (text : List Char) (position : Nat) : Exec ε (List Char) := do
  let (before, after) ← splitAt text position
  match after with
  | [] => Exec.panicked
  | _ :: rest => return before ++ rest

/-- What is between two positions is taken out. -/
def drain (text : List Char) (first past : Nat) : Exec ε (List Char) :=
  if first ≤ past then do
    let (before, _) ← splitAt text first
    let (_, after) ← splitAt text past
    return before ++ after
  else Exec.panicked

/-- Where a character is for the last time. -/
def rfind (char : Char) : List Char → Option Nat
  | [] => none
  | first :: rest =>
    match rfind char rest with
    | some position => some (first.utf8Size + position)
    | none => if first = char then some 0 else none

/-- A position between two characters, or at an end. -/
def Boundary (text : List Char) (position : Nat) : Prop :=
  ∃ before after, text = before ++ after ∧ position = len before

@[simp] theorem len_nil : len [] = 0 := rfl

@[simp] theorem len_cons (first : Char) (rest : List Char) :
    len (first :: rest) = first.utf8Size + len rest := by
  simp [len]

@[simp] theorem len_append (before after : List Char) :
    len (before ++ after) = len before + len after := by
  simp [len]

/-- A text is split between two parts of it. -/
theorem splitAt_append (before after : List Char) :
    (splitAt (before ++ after) (len before) : Exec ε _) = .ok (before, after) := by
  -- The induction takes the characters off the front, one by one.
  induction before with
  | nil => rw [List.nil_append, len_nil, splitAt]
  | cons first rest ih =>
    -- The position behind a character is not zero.
    have positive := first.utf8Size_pos
    obtain ⟨bytes, size⟩ : ∃ bytes, len (first :: rest) = bytes + 1 :=
      ⟨len (first :: rest) - 1, by rw [len_cons]; omega⟩
    rw [List.cons_append, size, splitAt]
    -- The character fits before the position, and the rest of the way is inside of the others.
    have fits : first.utf8Size ≤ bytes + 1 := by
      rw [← size, len_cons]
      omega
    have left : bytes + 1 - first.utf8Size = len rest := by
      rw [← size, len_cons]
      omega
    rw [if_pos fits, left, ih]
    rfl

/-- The parts that a text is split into make it up. -/
theorem splitAt_eq_ok {text : List Char} {position : Nat} {before after : List Char} :
    (splitAt text position : Exec ε _) = .ok (before, after) ↔
      text = before ++ after ∧ position = len before := by
  refine ⟨fun split => ?_, fun ⟨whole, here⟩ => by rw [whole, here, splitAt_append]⟩
  -- The split is followed from the front, with the part that is taken getting longer.
  induction text generalizing position before with
  | nil =>
    cases position with
    -- A split at the start takes nothing.
    | zero =>
      rw [splitAt] at split
      cases split
      exact ⟨rfl, rfl⟩
    -- An empty text has no other position.
    | succ position => cases split
  | cons first rest ih =>
    cases position with
    | zero =>
      rw [splitAt] at split
      cases split
      exact ⟨rfl, rfl⟩
    | succ position =>
      rw [splitAt] at split
      split_ifs at split with fits
      -- The position is behind the first character: the rest is split where it is reached.
      · cases inner : (splitAt rest (position + 1 - first.utf8Size) : Exec ε _) with
        | error fault =>
          rw [inner] at split
          cases split
        | ok parts =>
          rw [inner] at split
          cases split
          obtain ⟨whole, here⟩ := ih inner
          refine ⟨by rw [whole, List.cons_append], ?_⟩
          rw [len_cons]
          omega
      -- It is inside of the first character.
      · cases split

/-! ### Positions between characters -/

section

variable {text : List Char} {position : Nat}

theorem Boundary.zero : Boundary text 0 := ⟨[], text, rfl, rfl⟩

theorem Boundary.len : Boundary text (len text) := ⟨text, [], by rw [List.append_nil], rfl⟩

/-- A position is not behind the end. -/
theorem Boundary.le (boundary : Boundary text position) : position ≤ Utf8Text.len text := by
  obtain ⟨before, after, rfl, rfl⟩ := boundary
  rw [len_append]
  exact Nat.le_add_right _ _

/-- What is between the characters of a beginning is between those of the whole. -/
theorem Boundary.append {before : List Char} (boundary : Boundary before position)
    (after : List Char) : Boundary (before ++ after) position := by
  obtain ⟨first, rest, rfl, rfl⟩ := boundary
  exact ⟨first, rest ++ after, List.append_assoc first rest after, rfl⟩

/-- A position is found to be a boundary exactly if it is one. -/
theorem isCharBoundary_iff : isCharBoundary text position = true ↔ Boundary text position := by
  unfold isCharBoundary
  split
  · next parts split =>
    obtain ⟨whole, here⟩ := splitAt_eq_ok.mp split
    exact iff_of_true rfl ⟨parts.1, parts.2, whole, here⟩
  · next fault failed =>
    refine iff_of_false Bool.false_ne_true fun boundary => ?_
    obtain ⟨before, after, whole, here⟩ := boundary
    rw [splitAt_eq_ok.mpr ⟨whole, here⟩] at failed
    cases failed

/-- What is found has a position before it and one behind it. -/
theorem boundary_of_rfind {char : Char} (found : rfind char text = some position) :
    Boundary text position ∧ Boundary text (position + char.utf8Size) := by
  induction text generalizing position with
  | nil => cases found
  | cons first rest ih =>
    rw [rfind] at found
    split at found
    · next inner later =>
      cases found
      obtain ⟨⟨before, after, whole, here⟩, ⟨past, others, same, there⟩⟩ := ih later
      refine ⟨⟨first :: before, after, ?_, ?_⟩, ⟨first :: past, others, ?_, ?_⟩⟩
      · rw [whole, List.cons_append]
      · rw [here, len_cons]
      · rw [same, List.cons_append]
      · rw [Nat.add_assoc, there, len_cons]
    · split_ifs at found with same
      · cases found
        refine ⟨Boundary.zero, [first], rest, rfl, ?_⟩
        rw [← same, len_cons, len_nil, Nat.zero_add, Nat.add_zero]

end

/-! ### What does not panic -/

section

variable {text : List Char} {position : Nat}

theorem splitAt_safe (boundary : Boundary text position) :
    Exec.Safe (splitAt text position : Exec ε _) fun parts =>
      text = parts.1 ++ parts.2 ∧ position = len parts.1 := by
  obtain ⟨before, after, whole, here⟩ := boundary
  rw [splitAt_eq_ok.mpr ⟨whole, here⟩]
  exact Exec.Safe.ok ⟨whole, here⟩

/-- Behind the character that is put in there is a position. -/
theorem insert_safe (boundary : Boundary text position) (char : Char) :
    Exec.Safe (insert text position char : Exec ε _) fun changed =>
      Boundary changed (position + char.utf8Size) := by
  refine (splitAt_safe boundary).bind fun parts split => ?_
  refine Exec.Safe.ok ⟨parts.1 ++ [char], parts.2, ?_, ?_⟩
  · rw [List.append_assoc, List.singleton_append]
  · rw [split.2, len_append, len_cons, len_nil, Nat.add_zero]

/-- Where a character is taken out there stays a position. -/
theorem remove_safe (boundary : Boundary text position) (inside : position < len text) :
    Exec.Safe (remove text position : Exec ε _) fun changed => Boundary changed position := by
  refine (splitAt_safe boundary).bind fun parts split => ?_
  obtain ⟨before, after⟩ := parts
  obtain ⟨whole, here⟩ := split
  cases after with
  | nil =>
    -- There is a character: the position is not that of the end.
    rw [whole, len_append, len_nil, here] at inside
    omega
  | cons first rest => exact Exec.Safe.ok ⟨before, rest, rfl, here⟩

/-- Where a part is taken out there stays a position. -/
theorem drain_safe {past : Nat} (boundary : Boundary text position) (end_ : Boundary text past)
    (ordered : position ≤ past) :
    Exec.Safe (drain text position past : Exec ε _) fun changed => Boundary changed position := by
  unfold drain
  rw [if_pos ordered]
  refine (splitAt_safe boundary).bind fun parts split => ?_
  refine (splitAt_safe end_).bind fun others _ => ?_
  exact Exec.Safe.ok ⟨parts.1, others.2, rfl, split.2⟩

end

end Utf8Text

end Gritty
