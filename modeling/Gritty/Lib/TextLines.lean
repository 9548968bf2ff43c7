import Gritty.Lib.Words

/-! A text cut into lines, each with its line end taken off. -/

namespace Gritty

/-- A line that a line end closed, without the carriage return before it. -/
def withoutReturn (line : List Char) : List Char :=
  if line.getLast? = some '\r' then line.dropLast else line

/-- What is left behind the last line end: one more line, if it is anything. -/
def openLine (line : List Char) : List (List Char) := if line = [] then [] else [line]

/-- The lines of a text. -/
def textLines (text : List Char) : List (List Char) :=
  let pieces := text.splitOn '\n'
  pieces.dropLast.map withoutReturn ++ openLine (pieces.getLast?.getD [])

@[simp] theorem textLines_nil : textLines [] = [] := rfl

/-- A line end closes a line, and what follows it has lines of its own. -/
theorem textLines_append_cons (front back : List Char) :
    textLines (front ++ '\n' :: back) =
      (front.splitOn '\n').map withoutReturn ++ textLines back := by
  have pieces : back.splitOn '\n' ≠ [] := List.splitOn_ne_nil '\n' back
  simp only [textLines]
  rw [List.splitOn_append_cons_self, List.dropLast_append_of_ne_nil pieces, List.map_append,
    List.append_assoc, List.getLast?_append_of_ne_nil _ pieces]

theorem withoutReturn_of_solid {line : List Char} (solid : line.getLast? ≠ some '\r') :
    withoutReturn line = line := if_neg solid

/-- A line with a line end behind it is read back. -/
theorem textLines_line {line : List Char} (unbroken : '\n' ∉ line) (solid : line.getLast? ≠ some '\r')
    (back : List Char) : textLines (line ++ '\n' :: back) = line :: textLines back := by
  rw [textLines_append_cons, List.splitOn_eq_singleton unbroken, List.map_singleton,
    withoutReturn_of_solid solid, List.singleton_append]

/-- Lines that are each closed by a line end are read back. -/
theorem textLines_flatMap {lines : List (List Char)} (unbroken : ∀ line ∈ lines, '\n' ∉ line)
    (solid : ∀ line ∈ lines, line.getLast? ≠ some '\r') :
    textLines (lines.flatMap (· ++ ['\n'])) = lines := by
  induction lines with
  | nil => rfl
  | cons line others ih =>
    rw [List.flatMap_cons, List.append_assoc, List.singleton_append,
      textLines_line (unbroken line List.mem_cons_self) (solid line List.mem_cons_self),
      ih (fun later among => unbroken later (List.mem_cons_of_mem line among))
        (fun later among => solid later (List.mem_cons_of_mem line among))]

/-- A line that is not empty is a text with that line alone. -/
theorem textLines_open {line : List Char} (unbroken : '\n' ∉ line) :
    textLines line = openLine line := by
  unfold textLines
  rw [List.splitOn_eq_singleton unbroken]
  rfl

/-- Lines written with line ends between them are read back, if the last is not empty. -/
theorem textLines_intercalate {lines : List (List Char)} (unbroken : ∀ line ∈ lines, '\n' ∉ line)
    (solid : ∀ line ∈ lines, line.getLast? ≠ some '\r') (some_ : ∀ line ∈ lines, line ≠ []) :
    textLines (['\n'].intercalate lines) = lines := by
  induction lines with
  | nil => rfl
  | cons line others ih =>
    cases others with
    | nil =>
      rw [List.intercalate_singleton, textLines_open (unbroken line List.mem_cons_self), openLine,
        if_neg (some_ line List.mem_cons_self)]
    | cons second rest =>
      rw [List.intercalate_cons_cons, List.append_assoc, List.singleton_append,
        textLines_line (unbroken line List.mem_cons_self) (solid line List.mem_cons_self),
        ih (fun later among => unbroken later (List.mem_cons_of_mem line among))
          (fun later among => solid later (List.mem_cons_of_mem line among))
          (fun later among => some_ later (List.mem_cons_of_mem line among))]

/-- Pieces between separators hold no separator. -/
theorem notMem_of_mem_splitOn {α : Type} [BEq α] [LawfulBEq α] {stop : α} {text piece : List α}
    (among : piece ∈ text.splitOn stop) : stop ∉ piece := by
  induction text generalizing piece with
  | nil =>
    rw [List.mem_singleton.mp among]
    exact List.not_mem_nil
  | cons first rest ih =>
    obtain ⟨front, others, pieces⟩ := List.exists_cons_of_ne_nil (List.splitOn_ne_nil stop rest)
    rw [List.splitOn_cons_eq_if_modifyHead, pieces] at among
    rw [pieces] at ih
    split at among
    · rcases List.mem_cons.mp among with rfl | later
      · exact List.not_mem_nil
      · exact ih later
    · next other =>
      rcases List.mem_cons.mp among with rfl | later
      -- The first piece grows by what is no separator.
      · intro found
        rcases List.mem_cons.mp found with same | inside
        · exact other (beq_iff_eq.mpr same.symm)
        · exact ih List.mem_cons_self inside
      · exact ih (List.mem_cons_of_mem front later)

/-- No line of a text holds a line end. -/
theorem notMem_textLines {text line : List Char} (among : line ∈ textLines text) : '\n' ∉ line := by
  unfold textLines at among
  rcases List.mem_append.mp among with closed | last
  · obtain ⟨piece, cut, rfl⟩ := List.mem_map.mp closed
    have whole := notMem_of_mem_splitOn (List.dropLast_subset _ cut)
    unfold withoutReturn
    split
    · exact fun broken => whole (List.dropLast_subset _ broken)
    · exact whole
  · unfold openLine at last
    split at last
    · exact absurd last List.not_mem_nil
    · rw [List.mem_singleton.mp last]
      cases ends : (text.splitOn '\n').getLast? with
      | none => exact List.not_mem_nil
      | some piece => exact notMem_of_mem_splitOn (List.mem_of_getLast? ends)

end Gritty
