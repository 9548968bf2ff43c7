import Mathlib.Data.List.Basic

/-! Machines that read a list of symbols one at a time and write a list of outputs. -/

namespace Gritty

universe u v w

/-- A machine that turns one symbol into a next state and some outputs. -/
structure Transducer (State : Type u) (Input : Type v) (Output : Type w) where
  step : State → Input → State × List Output

namespace Transducer

variable {State : Type u} {Input : Type v} {Output : Type w}
  (machine : Transducer State Input Output)

/-- The state after a list of symbols, and everything written on the way. -/
def run (state : State) : List Input → State × List Output
  | [] => (state, [])
  | symbol :: later =>
    let (next, written) := machine.step state symbol
    let (last, rest) := run next later
    (last, written ++ rest)

/-- The state after a list of chunks, and what each of them wrote. -/
def runChunks (state : State) : List (List Input) → State × List (List Output)
  | [] => (state, [])
  | chunk :: later =>
    let (next, written) := machine.run state chunk
    let (last, rest) := runChunks next later
    (last, written :: rest)

variable {machine}

@[simp] theorem run_nil (state : State) : machine.run state [] = (state, []) := rfl

theorem run_cons (state : State) (symbol : Input) (later : List Input) :
    machine.run state (symbol :: later) =
      ((machine.run (machine.step state symbol).1 later).1,
        (machine.step state symbol).2 ++ (machine.run (machine.step state symbol).1 later).2) :=
  rfl

theorem run_singleton (state : State) (symbol : Input) :
    machine.run state [symbol] = machine.step state symbol := by
  rw [run_cons, run_nil, List.append_nil]

/-- Reading two lists is reading the second from where the first one ended. -/
theorem run_append (state : State) (first second : List Input) :
    machine.run state (first ++ second) =
      ((machine.run (machine.run state first).1 second).1,
        (machine.run state first).2 ++ (machine.run (machine.run state first).1 second).2) := by
  -- The induction follows the first list and keeps what it wrote in front.
  induction first generalizing state with
  | nil => rfl
  | cons symbol first ih =>
    rw [List.cons_append, run_cons, run_cons, ih, List.append_assoc]

/-- What is written does not depend on how the symbols are cut into chunks. -/
theorem runChunks_flatten (state : State) (chunks : List (List Input)) :
    (machine.runChunks state chunks).1 = (machine.run state chunks.flatten).1 ∧
      (machine.runChunks state chunks).2.flatten = (machine.run state chunks.flatten).2 := by
  induction chunks generalizing state with
  | nil => exact ⟨rfl, rfl⟩
  | cons chunk chunks ih =>
    obtain ⟨sameState, sameOutput⟩ := ih (machine.run state chunk).1
    rw [List.flatten_cons, run_append]
    refine ⟨sameState, ?_⟩
    rw [runChunks, List.flatten_cons, sameOutput]

/-- What every symbol keeps of the state, a list of symbols keeps. -/
theorem run_keeps {inv : State → Prop}
    (kept : ∀ state symbol, inv state → inv (machine.step state symbol).1) {state : State}
    (holds : inv state) (symbols : List Input) : inv (machine.run state symbols).1 := by
  induction symbols generalizing state with
  | nil => exact holds
  | cons symbol later ih => exact ih (kept state symbol holds)

end Transducer

end Gritty
