import Mathlib.Data.List.TakeWhile
import Mathlib.Tactic

/-! Blocks of literal text in Markdown, between two lines of tildes. -/

namespace Gritty

/-- How many of a character a line begins with. -/
def leads (char : Char) (line : List Char) : Nat := (line.takeWhile (· = char)).length

/-- A line ends a block that was begun with a number of tildes: it has no fewer, up to three blanks
in front of them and only blanks behind. -/
def closesBlock (opened : Nat) (line : List Char) : Bool :=
  let marked := line.drop (leads ' ' line)
  leads ' ' line ≤ 3 && opened ≤ leads '~' marked &&
    (marked.drop (leads '~' marked)).all fun char => char = ' ' || char = '\t'

/-- The tildes of a line that begins a block. -/
def opensBlock (line : List Char) : Option Nat :=
  let marked := line.drop (leads ' ' line)
  if leads ' ' line ≤ 3 ∧ 3 ≤ leads '~' marked then some (leads '~' marked) else none

/-- The literal lines of the block that a document begins with, and the lines behind it. A block that
nothing ends goes on to the end. -/
def readBlock : List (List Char) → Option (List (List Char) × List (List Char))
  | [] => none
  | first :: rest =>
    (opensBlock first).map fun opened =>
      let inside := rest.takeWhile fun line => !closesBlock opened line
      (inside, rest.drop (inside.length + 1))

/-- A block, as it is written. -/
def writeBlock (opened : Nat) (inside : List (List Char)) : List (List Char) :=
  List.replicate opened '~' :: inside ++ [List.replicate opened '~']

section

variable {opened : Nat} {line : List Char} {inside after : List (List Char)}

theorem leads_replicate (char : Char) (count : Nat) : leads char (List.replicate count char) = count := by
  unfold leads
  rw [List.takeWhile_replicate]
  simp only [decide_true, if_true, List.length_replicate]

theorem leads_tildes (count : Nat) : leads ' ' (List.replicate count '~') = 0 := by
  unfold leads
  rw [List.takeWhile_replicate]
  rfl

theorem opensBlock_tildes (enough : 3 ≤ opened) :
    opensBlock (List.replicate opened '~') = some opened := by
  simp only [opensBlock, leads_tildes, List.drop_zero, leads_replicate]
  exact if_pos ⟨Nat.zero_le 3, enough⟩

theorem closesBlock_tildes : closesBlock opened (List.replicate opened '~') = true := by
  simp only [closesBlock, leads_tildes, leads_replicate, List.drop_replicate, Nat.sub_self]
  simp

/-- A line at the margin with fewer tildes does not end a block. -/
theorem closesBlock_margin (margin : leads ' ' line = 0) (fewer : leads '~' line < opened) :
    closesBlock opened line = false := by
  simp only [closesBlock, margin, List.drop_zero, decide_eq_false (Nat.not_le.mpr fewer),
    Bool.and_false, Bool.false_and]

/-- A block is read as it was written exactly when no line of it would end it. -/
theorem readBlock_write (enough : 3 ≤ opened) (inside after : List (List Char)) :
    readBlock (writeBlock opened inside ++ after) = some (inside, after) ↔
      ∀ line ∈ inside, closesBlock opened line = false := by
  simp only [writeBlock, List.cons_append, readBlock, opensBlock_tildes enough, Option.map_some,
    Option.some.injEq, Prod.mk.injEq, List.append_assoc, List.nil_append]
  constructor
  · intro read line among
    -- What is read holds no such line.
    rw [← read.1] at among
    have kept := List.mem_takeWhile_imp among
    rwa [Bool.not_eq_true'] at kept
  · intro open_
    have whole : (inside ++ List.replicate opened '~' :: after).takeWhile
        (fun line => !closesBlock opened line) = inside := by
      rw [List.takeWhile_append_of_pos fun line among => by rw [open_ line among]; rfl,
        List.takeWhile_cons_of_neg (by rw [closesBlock_tildes]; decide), List.append_nil]
    rw [whole]
    refine ⟨rfl, ?_⟩
    rw [List.drop_append, List.drop_eq_nil_of_le (by omega), List.nil_append]
    simp

end

end Gritty
