import Mathlib.Tactic
import Mathlib.Data.List.Basic

/-! Streaks in a log: how long the newest entries have all met one condition. -/

namespace Gritty

universe u

variable {Entry : Type u} (held : Entry → Bool) (time : Entry → Nat)

/-- When the current streak of a log, newest entry first, began. -/
def streakStart : List Entry → Option Nat
  | [] => none
  | entry :: older =>
    if held entry then some ((streakStart older).getD (time entry)) else none

/-- The newest entries of a log all meet a condition, over at least a span of time. -/
def HeldFor (span : Nat) (log : List Entry) : Prop :=
  ∃ last recent first older, log = last :: recent ++ first :: older ∧
    (∀ entry ∈ last :: recent ++ [first], held entry = true) ∧ time first + span ≤ time last

variable {held time}

/-- An entry that does not meet the condition ends the streak. -/
theorem streakStart_other {entry : Entry} {older : List Entry} (other : held entry = false) :
    streakStart held time (entry :: older) = none := by
  simp [streakStart, other]

/-- An entry that meets the condition keeps a streak, and starts one where there was none. -/
theorem streakStart_held {entry : Entry} {older : List Entry} (holds : held entry = true) :
    streakStart held time (entry :: older) =
      some ((streakStart held time older).getD (time entry)) := by
  simp [streakStart, holds]

/-- A streak reaches back to an entry of its starting time, and every entry since meets the condition. -/
theorem streakStart_eq_some {log : List Entry} {since : Nat}
    (streaking : streakStart held time log = some since) :
    ∃ recent first older, log = recent ++ first :: older ∧
      (∀ entry ∈ recent ++ [first], held entry = true) ∧ time first = since := by
  -- The induction follows the log back in time to the first entry of the streak.
  induction log with
  | nil => simp [streakStart] at streaking
  | cons entry older ih =>
    cases holds : held entry with
    | false => simp [streakStart_other holds] at streaking
    | true =>
      rw [streakStart_held holds, Option.some.injEq] at streaking
      cases before : streakStart held time older with
      | none =>
        -- The streak starts at this entry.
        rw [before, Option.getD_none] at streaking
        exact ⟨[], entry, older, rfl, by simp [holds], streaking⟩
      | some start =>
        rw [before, Option.getD_some] at streaking
        obtain ⟨recent, first, oldest, rfl, all, began⟩ := ih (before.trans (congrArg some streaking))
        refine ⟨entry :: recent, first, oldest, rfl, ?_, began⟩
        intro each member
        rcases List.mem_cons.mp member with rfl | later
        · exact holds
        · exact all each later

/-- A streak that started long enough before the entry that continues it has held for that long. -/
theorem heldFor_of_streakStart {span : Nat} {last : Entry} {log : List Entry} {since : Nat}
    (holds : held last = true) (streaking : streakStart held time log = some since)
    (long : since + span ≤ time last) : HeldFor held time span (last :: log) := by
  obtain ⟨recent, first, older, rfl, all, began⟩ := streakStart_eq_some streaking
  refine ⟨last, recent, first, older, rfl, ?_, by omega⟩
  intro entry member
  rcases List.mem_cons.mp member with rfl | later
  · exact holds
  · exact all entry later

/-- A condition that has held for a while held at the last but one entry. -/
theorem HeldFor.last_but_one {span : Nat} {last second : Entry} {older : List Entry}
    (long : HeldFor held time span (last :: second :: older)) : held second = true := by
  obtain ⟨_, recent, first, oldest, split, all, _⟩ := long
  -- The second entry is the first of the streak, or lies within it.
  have behind : second :: older = recent ++ first :: oldest := (List.cons.inj split).2
  cases recent with
  | nil =>
    obtain rfl : second = first := (List.cons.inj behind).1
    exact all second (by simp)
  | cons entry recent =>
    obtain rfl : second = entry := (List.cons.inj behind).1
    exact all second (by simp)

end Gritty
