import Mathlib.Tactic

/-! Reading from a source that may return less than it was asked for. -/

namespace Gritty

universe u

/-- A source that is read from the front: what is left of it, and how often it was asked. -/
structure Source (α : Type u) where
  left : List α
  calls : Nat

/-- What the source and the reader's memory decide. -/
structure Shares where
  /-- How many symbols beyond the first one a call may return. -/
  most : Nat → Nat
  /-- How much room beyond one symbol a buffer that holds so many has left. -/
  room : Nat → Nat

section

variable {α : Type u} (shares : Shares)

/-- One call. It returns nothing only when nothing is left, or nothing was asked for. -/
def Source.read (limit : Nat) (source : Source α) : List α × Source α :=
  let size := min limit (shares.most source.calls + 1)
  (source.left.take size, { left := source.left.drop size, calls := source.calls + 1 })

/-- Fill a buffer of a given size, or fail at the end of the source. -/
def Source.readExact (size : Nat) (source : Source α) : Option (List α) × Source α :=
  if size = 0 then (some [], source)
  else match source.read shares size with
    | ([], source) => (none, source)
    | (first :: more, source) =>
      let (rest, source) := source.readExact (size - (more.length + 1))
      (rest.map (first :: more ++ ·), source)
termination_by size

/-- Append everything that is left to a message. -/
def Source.readToEnd (message : List α) (source : Source α) : List α :=
  match _taken : source.read shares (shares.room message.length + 1) with
  | ([], _) => message
  | (first :: more, source) => source.readToEnd (message ++ first :: more)
termination_by source.left.length
decreasing_by
  rename_i before
  have size := congrArg (fun read => read.2.left.length) _taken
  have chunk := congrArg (fun read => read.1.length) _taken
  simp only [Source.read, List.length_take, List.length_drop, List.length_cons] at size chunk
  omega

theorem Source.read_fst_append (limit : Nat) (source : Source α) :
    (source.read shares limit).1 ++ (source.read shares limit).2.left = source.left :=
  List.take_append_drop ..

theorem Source.read_length_le (limit : Nat) (source : Source α) :
    (source.read shares limit).1.length ≤ limit := by
  simp only [Source.read, List.length_take]
  omega

theorem Source.read_eq_nil {limit : Nat} (source : Source α) (asked : limit ≠ 0)
    (nothing : (source.read shares limit).1 = []) : source.left = [] := by
  have length := congrArg List.length nothing
  simp only [Source.read, List.length_take, List.length_nil] at length
  exact List.length_eq_zero_iff.mp (by omega)

/-- The symbols asked for arrive in order, in however many calls. -/
theorem Source.readExact_of_le {size : Nat} (source : Source α)
    (enough : size ≤ source.left.length) :
    (source.readExact shares size).1 = some (source.left.take size) ∧
      (source.readExact shares size).2.left = source.left.drop size := by
  induction size using Nat.strong_induction_on generalizing source with
  | _ size ih =>
    rw [Source.readExact]
    split_ifs with none_
    · subst none_
      exact ⟨by rw [List.take_zero], by rw [List.drop_zero]⟩
    · have whole := source.read_fst_append shares size
      have bounded := source.read_length_le shares size
      cases taken : source.read shares size with
      | mk chunk later =>
        rw [taken] at whole bounded
        dsimp only at whole bounded
        cases chunk with
        | nil =>
          have empty := source.read_eq_nil shares none_ (by rw [taken])
          rw [empty, List.length_nil] at enough
          omega
        | cons first more =>
          -- What this call returned is the front of the buffer, and the rest follows it.
          rw [← whole, List.length_append, List.length_cons] at enough
          obtain ⟨filled, after⟩ := ih (size - (more.length + 1)) (by omega) later (by omega)
          have front : (first :: more).length ≤ size := bounded
          have shown := List.take_of_length_le front
          have used := List.drop_of_length_le front
          dsimp only
          rw [filled, after, ← whole, List.take_append, List.drop_append, shown, used]
          exact ⟨rfl, rfl⟩

/-- What is at the front of the source fills a buffer of its size. -/
theorem Source.readExact_append {size : Nat} (source : Source α) {front rest : List α}
    (left : source.left = front ++ rest) (length : front.length = size) :
    ∃ later, source.readExact shares size = (some front, later) ∧ later.left = rest := by
  have enough : size ≤ source.left.length := by
    rw [left, List.length_append]
    omega
  obtain ⟨filled, after⟩ := source.readExact_of_le shares enough
  rw [left, ← length] at filled after
  rw [List.take_left] at filled
  rw [List.drop_left] at after
  subst length
  exact ⟨_, Prod.ext filled rfl, after⟩

/-- A source that ends too soon leaves the buffer unfilled. -/
theorem Source.readExact_of_lt {size : Nat} (source : Source α)
    (short : source.left.length < size) :
    ∃ later, source.readExact shares size = (none, later) := by
  suffices unfilled : (source.readExact shares size).1 = none from ⟨_, Prod.ext unfilled rfl⟩
  induction size using Nat.strong_induction_on generalizing source with
  | _ size ih =>
    rw [Source.readExact, if_neg (by omega)]
    have whole := congrArg List.length (source.read_fst_append shares size)
    cases taken : source.read shares size with
    | mk chunk later =>
      rw [taken] at whole
      cases chunk with
      | nil => rfl
      | cons first more =>
        rw [List.length_append, List.length_cons] at whole
        dsimp only at whole
        have unfilled := ih (size - (more.length + 1)) (by omega) later (by omega)
        dsimp only
        rw [unfilled, Option.map_none]

/-- Reading goes on from the end of what was read, whether or not it was enough. -/
theorem Source.readExact_left_le (size : Nat) (source : Source α) :
    (source.readExact shares size).2.left.length ≤ source.left.length := by
  induction size using Nat.strong_induction_on generalizing source with
  | _ size ih =>
    rw [Source.readExact]
    split_ifs with none_
    · exact Nat.le_refl _
    · have whole := congrArg List.length (source.read_fst_append shares size)
      cases taken : source.read shares size with
      | mk chunk later =>
        rw [taken, List.length_append] at whole
        cases chunk with
        | nil => exact Nat.le_of_add_left_le (Nat.le_of_eq whole)
        | cons first more =>
          have rest := ih (size - (more.length + 1)) (by omega) later
          dsimp only at whole ⊢
          omega

/-- Nothing is missed at the end. -/
theorem Source.readToEnd_eq (message : List α) (source : Source α) :
    source.readToEnd shares message = message ++ source.left := by
  induction remaining : source.left.length using Nat.strong_induction_on
    generalizing message source with
  | _ remaining ih =>
    have whole := source.read_fst_append shares (shares.room message.length + 1)
    rw [Source.readToEnd]
    split
    · rename_i later taken
      have empty := source.read_eq_nil shares (Nat.succ_ne_zero _)
        (congrArg Prod.fst taken)
      rw [empty, List.append_nil]
    · rename_i first more later taken
      rw [taken] at whole
      have length := congrArg List.length whole
      rw [List.length_append, List.length_cons] at length
      dsimp only at length
      rw [ih later.left.length (by omega) _ later rfl, ← whole, List.append_assoc]

end

end Gritty
