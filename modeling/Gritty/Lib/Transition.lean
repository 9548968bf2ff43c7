import Mathlib.Tactic
import Mathlib.Data.List.Basic

/-! State machines with partial actions, their runs, and rules for what holds along a run. -/

namespace Gritty

universe u v

/-- A guarded choice that has an outcome was allowed, and has the one outcome it can have. -/
theorem of_guarded {α : Type u} {guard : Prop} [Decidable guard] {after next : α}
    (taken : (if guard then some after else none) = some next) : guard ∧ after = next :=
  (Option.ite_none_right_eq_some.mp taken).imp_right Option.some.inj

/-- A state machine. An action that is not enabled in a state has no next state. -/
structure Machine (State : Type u) (Action : Type v) where
  init : State
  step : State → Action → Option State

namespace Machine

variable {State : Type u} {Action : Type v} (machine : Machine State Action)

/-- The state after a list of actions, when every one of them was enabled in turn. -/
def run (state : State) : List Action → Option State
  | [] => some state
  | action :: later =>
    match machine.step state action with
    | some next => run next later
    | none => none

/-- A run whose actions all meet a condition on the state they are taken in. -/
def Meets (condition : State → Action → Prop) (state : State) : List Action → Prop
  | [] => True
  | action :: later =>
    condition state action ∧ ∀ next, machine.step state action = some next →
      Meets condition next later

/-- A property holds in every state a run passes through, the first and the last included. -/
def Along (property : State → Prop) (state : State) : List Action → Prop
  | [] => property state
  | action :: later =>
    property state ∧ ∀ next, machine.step state action = some next →
      Along property next later

variable {machine}

theorem run_cons {state next : State} {action : Action} {later : List Action}
    (stepped : machine.step state action = some next) :
    machine.run state (action :: later) = machine.run next later := by
  rw [run, stepped]

/-- A run of two lists of actions is the run of the second from where the first one ended. -/
theorem run_append (state : State) (first second : List Action) :
    machine.run state (first ++ second) =
      (machine.run state first).bind fun middle => machine.run middle second := by
  -- The induction follows the first list; a disabled action ends both sides.
  induction first generalizing state with
  | nil => rfl
  | cons action first ih =>
    cases stepped : machine.step state action with
    | none => simp only [List.cons_append, run, stepped, Option.bind_none]
    | some next =>
      rw [List.cons_append, run_cons stepped, run_cons stepped, ih next]

/-- A property that holds at the start of a run and at each of its steps holds where the run ends. -/
theorem run_induction {condition : State → Action → Prop} {inv : State → Prop}
    (preserved : ∀ state action next, inv state → condition state action →
      machine.step state action = some next → inv next)
    {state last : State} {actions : List Action} (start : inv state)
    (meets : machine.Meets condition state actions)
    (ran : machine.run state actions = some last) : inv last := by
  induction actions generalizing state with
  | nil =>
    -- Nothing was done, so the run ends where it started.
    obtain rfl : state = last := Option.some.inj ran
    exact start
  | cons action later ih =>
    cases stepped : machine.step state action with
    | none => simp [run, stepped] at ran
    | some next =>
      rw [run_cons stepped] at ran
      exact ih (preserved state action next start meets.1 stepped) (meets.2 next stepped) ran

/-- A run is no longer than what each of its steps takes something off. -/
theorem length_le_of_decreases {condition : State → Action → Prop} {inv : State → Prop}
    (weight : State → Nat)
    (preserved : ∀ state action next, inv state → condition state action →
      machine.step state action = some next → inv next)
    (decreases : ∀ state action next, inv state → condition state action →
      machine.step state action = some next → weight next < weight state)
    {state last : State} {actions : List Action} (start : inv state)
    (meets : machine.Meets condition state actions)
    (ran : machine.run state actions = some last) : actions.length ≤ weight state := by
  induction actions generalizing state with
  | nil => exact Nat.zero_le _
  | cons action later ih =>
    cases stepped : machine.step state action with
    | none => simp [run, stepped] at ran
    | some next =>
      rw [run_cons stepped] at ran
      have less := decreases state action next start meets.1 stepped
      have rest := ih (preserved state action next start meets.1 stepped) (meets.2 next stepped) ran
      rw [List.length_cons]
      omega

/-- Every run meets the condition that asks for nothing. -/
theorem meets_true (state : State) (actions : List Action) :
    machine.Meets (fun _ _ => True) state actions := by
  induction actions generalizing state with
  | nil => trivial
  | cons action later ih => exact ⟨trivial, fun next _ => ih next⟩

/-- A property that holds at the start and is kept by every action holds wherever a run ends. -/
theorem run_invariant {inv : State → Prop}
    (preserved : ∀ state action next, inv state → machine.step state action = some next → inv next)
    {state last : State} {actions : List Action} (start : inv state)
    (ran : machine.run state actions = some last) : inv last := by
  -- The unguarded rule is the guarded one under the empty condition.
  refine run_induction ?_ start (meets_true state actions) ran
  intro state action next holds _ stepped
  exact preserved state action next holds stepped

/-- A run meets a condition when its first action does and the rest does from the next state. -/
theorem meets_cons {condition : State → Action → Prop} {state next : State} {action : Action}
    {later : List Action} (met : condition state action)
    (stepped : machine.step state action = some next)
    (after : machine.Meets condition next later) :
    machine.Meets condition state (action :: later) := by
  refine ⟨met, fun other steppedTo => ?_⟩
  rw [stepped] at steppedTo
  rwa [← Option.some.inj steppedTo]

/-- A run that meets two conditions meets both at each of its steps. -/
theorem meets_and {first second : State → Action → Prop} {state : State} {actions : List Action}
    (one : machine.Meets first state actions) (other : machine.Meets second state actions) :
    machine.Meets (fun state action => first state action ∧ second state action) state actions := by
  induction actions generalizing state with
  | nil => trivial
  | cons action later ih =>
    exact ⟨⟨one.1, other.1⟩, fun next stepped => ih (one.2 next stepped) (other.2 next stepped)⟩

/-- Whether a run meets a condition can be found out by running it. -/
instance decidableMeets (condition : State → Action → Prop)
    [decidable : ∀ state action, Decidable (condition state action)] :
    ∀ (state : State) (actions : List Action), Decidable (machine.Meets condition state actions)
  | _, [] => isTrue trivial
  | state, action :: later =>
    match decidable state action with
    | isFalse unmet => isFalse fun meets => unmet meets.1
    | isTrue met =>
      match stepped : machine.step state action with
      | none =>
        isTrue ⟨met, fun next there => absurd (stepped.symm.trans there) (Option.some_ne_none next).symm⟩
      | some next =>
        match decidableMeets condition next later with
        | isTrue after => isTrue (meets_cons met stepped after)
        | isFalse broken => isFalse fun meets => broken (meets.2 next stepped)

/-- What is proved of the next state along a run of a step is proved of the start of the run. -/
theorem Along.first {property : State → Prop} {state : State} {actions : List Action}
    (along : machine.Along property state actions) : property state := by
  cases actions with
  | nil => exact along
  | cons action later => exact along.1

/-- What holds all along a run holds where it ends. -/
theorem Along.last {property : State → Prop} {state last : State} {actions : List Action}
    (along : machine.Along property state actions)
    (ran : machine.run state actions = some last) : property last := by
  induction actions generalizing state with
  | nil => exact Option.some.inj ran ▸ along
  | cons action later ih =>
    cases stepped : machine.step state action with
    | none => simp [run, stepped] at ran
    | some next =>
      rw [run_cons stepped] at ran
      exact ih (along.2 next stepped) ran

/-- A safety property holds all along a run whose actions meet the condition its invariant needs. -/
theorem along_of_meets {condition : State → Action → Prop} {inv property : State → Prop}
    (holds : ∀ state, inv state → property state)
    (preserved : ∀ state action next, inv state → condition state action →
      machine.step state action = some next → inv next)
    {state : State} (start : inv state) {actions : List Action}
    (meets : machine.Meets condition state actions) : machine.Along property state actions := by
  induction actions generalizing state with
  | nil => exact holds state start
  | cons action later ih =>
    obtain ⟨met, after⟩ := meets
    refine ⟨holds state start, fun next stepped => ?_⟩
    exact ih (preserved state action next start met stepped) (after next stepped)

/--
A run ends well exactly when every action of it met its condition.

A step that meets the condition keeps the good invariant, any other step leads to the bad one, and nothing leads back.
-/
theorem run_dichotomy {domain condition : State → Action → Prop} {good bad : State → Prop}
    (kept : ∀ state action next, good state → domain state action → condition state action →
      machine.step state action = some next → good next)
    (broken : ∀ state action next, good state → domain state action → ¬ condition state action →
      machine.step state action = some next → bad next)
    (stays : ∀ state action next, bad state → domain state action →
      machine.step state action = some next → bad next)
    {state last : State} {actions : List Action} (start : good state)
    (inside : machine.Meets domain state actions)
    (ran : machine.run state actions = some last) :
    (machine.Meets condition state actions ∧ good last) ∨
      (¬ machine.Meets condition state actions ∧ bad last) := by
  induction actions generalizing state with
  | nil =>
    obtain rfl : state = last := Option.some.inj ran
    exact Or.inl ⟨trivial, start⟩
  | cons action later ih =>
    cases stepped : machine.step state action with
    | none => simp [run, stepped] at ran
    | some next =>
      rw [run_cons stepped] at ran
      by_cases met : condition state action
      · -- So far so good: the rest of the run decides.
        have after := kept state action next start inside.1 met stepped
        rcases ih after (inside.2 next stepped) ran with ⟨rest, ended⟩ | ⟨rest, ended⟩
        · exact Or.inl ⟨meets_cons met stepped rest, ended⟩
        · exact Or.inr ⟨fun all => rest (all.2 next stepped), ended⟩
      · have after := broken state action next start inside.1 met stepped
        refine Or.inr ⟨fun all => met all.1, ?_⟩
        refine run_induction ?_ after (inside.2 next stepped) ran
        exact fun state action next holds within stepped =>
          stays state action next holds within stepped

/--
A safety property holds all along a run exactly when every action of the run meets its condition.

Under the invariant, a step that meets the condition keeps property and invariant, and a step that does not meet it is enabled and breaks the property.
-/
theorem along_iff_meets {condition : State → Action → Prop} {inv property : State → Prop}
    (holds : ∀ state, inv state → property state)
    (preserved : ∀ state action next, inv state → condition state action →
      machine.step state action = some next → inv next)
    (broken : ∀ state action, inv state → ¬ condition state action →
      ∃ next, machine.step state action = some next ∧ ¬ property next)
    {state : State} (start : inv state) (actions : List Action) :
    machine.Along property state actions ↔ machine.Meets condition state actions := by
  refine ⟨fun along => ?_, along_of_meets holds preserved start⟩
  induction actions generalizing state with
  | nil => trivial
  | cons action later ih =>
    obtain ⟨_, after⟩ := along
    -- A step that broke its condition would break the property right after it.
    have met : condition state action := by
      by_contra unmet
      obtain ⟨next, stepped, failed⟩ := broken state action start unmet
      exact failed (after next stepped).first
    refine ⟨met, fun next stepped => ?_⟩
    exact ih (preserved state action next start met stepped) (after next stepped)

end Machine

end Gritty
