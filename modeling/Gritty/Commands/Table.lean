import Gritty.Lib.Exec

/-! Tables of texts: what is printed, column by column, when every column is as wide as its widest cell. -/

namespace Gritty

section

-- How many columns of the terminal a text takes.
variable (displayWidth : String → Nat) {ε : Type}

/-- The cells of a line from a column on. The last column is never padded. -/
def formatCells (widths : List Nat) : Nat → List String → Exec ε String
  | _, [] => .ok ""
  | column, cell :: more => do
    let width ← (if column + 1 < widths.length then Exec.element widths column else .ok 0)
    let pad := String.ofList (List.replicate (width - displayWidth cell) ' ')
    let rest ← formatCells widths (column + 1) more
    return (if 0 < column then "  " else "") ++ cell ++ pad ++ rest

def formatRow (cells : List String) (widths : List Nat) : Exec ε String :=
  formatCells displayWidth widths 0 cells

/-- How wide a column is. -/
def columnWidth (headers : List String) (rows : List (List String)) (column : Nat) : Exec ε Nat := do
  let cells ← rows.mapM (Exec.element · column)
  let header ← Exec.element headers column
  return max ((cells.map displayWidth).foldr max 0) (displayWidth header)

/-- The lines of a table, the header first. There are none without rows. -/
def formatTable (headers : List String) (rows : List (List String)) : Exec ε (List String) :=
  if rows = [] then .ok []
  else do
    let widths ← (List.range headers.length).mapM (columnWidth displayWidth headers rows)
    let header ← formatRow displayWidth headers widths
    let lines ← rows.mapM (formatRow displayWidth · widths)
    return header :: lines

variable {displayWidth}

/-- The cells of a row can be formatted without a fault. -/
theorem formatCells_safe (widths : List Nat) (column : Nat) (cells : List String) :
    Exec.Safe (formatCells displayWidth widths column cells : Exec ε String) fun _ => True := by
  induction cells generalizing column with
  | nil => exact Exec.Safe.ok trivial
  | cons cell more ih =>
    have width : Exec.Safe
        (if column + 1 < widths.length then Exec.element widths column else .ok 0 : Exec ε Nat)
        fun _ => True := by
      refine Exec.Safe.ite (fun inner => ?_) fun _ => Exec.Safe.ok trivial
      exact (Exec.element_safe (by omega)).mono fun _ _ => trivial
    refine width.bind fun _ _ => ?_
    refine (ih (column + 1)).bind fun _ _ => ?_
    exact Exec.Safe.ok trivial

/-- A column that every row has, and the header, has a width. -/
theorem columnWidth_safe {headers : List String} {rows : List (List String)} {column : Nat}
    (header : column < headers.length) (cells : ∀ row ∈ rows, column < row.length) :
    Exec.Safe (columnWidth displayWidth headers rows column : Exec ε Nat) fun _ => True := by
  have each : ∀ row ∈ rows, Exec.Safe (Exec.element row column : Exec ε String)
      fun cell => row[column]? = some cell :=
    fun row member => Exec.element_safe (cells row member)
  refine (Exec.mapM_safe each).bind fun _ _ => ?_
  refine (Exec.element_safe header).bind fun _ _ => ?_
  exact Exec.Safe.ok trivial

/-- A table whose rows have all the columns has a line for each of them, after that of the header. -/
theorem formatTable_safe {headers : List String} {rows : List (List String)}
    (cells : ∀ row ∈ rows, row.length = headers.length) :
    Exec.Safe (formatTable displayWidth headers rows : Exec ε (List String)) fun lines =>
      lines.length = if rows = [] then 0 else rows.length + 1 := by
  unfold formatTable
  split_ifs with empty
  · exact Exec.Safe.ok rfl
  have widths : Exec.Safe
      ((List.range headers.length).mapM (columnWidth displayWidth headers rows) : Exec ε _)
      (List.Forall₂ (fun _ _ => True) (List.range headers.length)) := by
    refine Exec.mapM_safe fun column inside => ?_
    have within := List.mem_range.mp inside
    exact columnWidth_safe within fun row member => by rw [cells row member]; exact within
  refine widths.bind fun widths _ => ?_
  refine (formatCells_safe widths 0 headers).bind fun header _ => ?_
  have lines : Exec.Safe (rows.mapM (formatRow displayWidth · widths) : Exec ε _)
      (List.Forall₂ (fun _ _ => True) rows) :=
    Exec.mapM_safe fun row _ => formatCells_safe widths 0 row
  refine lines.bind fun lines each => ?_
  refine Exec.Safe.ok ?_
  rw [List.length_cons, each.length_eq]

end

end Gritty
