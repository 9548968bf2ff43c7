import Gritty.Lib.Transition

/-! What is observed of a run, and machines whose runs show nothing that runs of another machine do not. -/

namespace Gritty

universe u v

namespace Machine

variable {State Action Abstract Step Event : Type}

/-- What an observer sees of a run, in order. A run ends at an action that is not enabled. -/
def trace (machine : Machine State Action) (events : State → Action → List Event) :
    State → List Action → List Event
  | _, [] => []
  | state, action :: later =>
    match machine.step state action with
    | some next => events state action ++ trace machine events next later
    | none => []

/-- A trace begins with the events of its first step. -/
theorem trace_cons {machine : Machine State Action} {events : State → Action → List Event}
    {state next : State} {action : Action} {later : List Action}
    (stepped : machine.step state action = some next) :
    machine.trace events state (action :: later) =
      events state action ++ machine.trace events next later := by
  rw [trace, stepped]

/-- What is seen of a run and of the run that continues it. -/
theorem trace_append {machine : Machine State Action} {events : State → Action → List Event}
    {state middle : State} {first second : List Action}
    (ran : machine.run state first = some middle) :
    machine.trace events state (first ++ second) =
      machine.trace events state first ++ machine.trace events middle second := by
  -- The induction follows the first list, whose actions were all enabled.
  induction first generalizing state with
  | nil =>
    obtain rfl : state = middle := Option.some.inj ran
    rfl
  | cons action first ih =>
    cases stepped : machine.step state action with
    | none => simp [run, stepped] at ran
    | some next =>
      rw [run_cons stepped] at ran
      rw [List.cons_append, trace_cons stepped, trace_cons stepped, ih ran, List.append_assoc]

/-- What holds at the start with nothing seen, and is kept by every step with what is seen of it, holds of every run. -/
theorem trace_induction {machine : Machine State Action} {events : State → Action → List Event}
    (inv : State → List Event → Prop)
    (preserved : ∀ state seen action next, inv state seen →
      machine.step state action = some next → inv next (seen ++ events state action))
    {state last : State} {actions : List Action} (start : inv state [])
    (ran : machine.run state actions = some last) :
    inv last (machine.trace events state actions) := by
  -- What was seen before the run is kept in front of it.
  suffices after : ∀ seen, inv state seen → inv last (seen ++ machine.trace events state actions) from
    after [] start
  clear start
  induction actions generalizing state with
  | nil =>
    obtain rfl : state = last := Option.some.inj ran
    intro seen holds
    rwa [trace, List.append_nil]
  | cons action later ih =>
    cases stepped : machine.step state action with
    | none => simp [run, stepped] at ran
    | some next =>
      rw [run_cons stepped] at ran
      intro seen holds
      rw [trace_cons stepped, ← List.append_assoc]
      exact ih ran _ (preserved state seen action next holds stepped)

/-- A run whose actions all meet a condition on their state and on what was seen before them. -/
def MeetsSeen (machine : Machine State Action) (events : State → Action → List Event)
    (condition : State → List Event → Action → Prop) (state : State) (seen : List Event) :
    List Action → Prop
  | [] => True
  | action :: later =>
    condition state seen action ∧ ∀ next, machine.step state action = some next →
      MeetsSeen machine events condition next (seen ++ events state action) later

/-- Whether a run meets a condition on what was seen can be found out by running it. -/
instance decidableMeetsSeen (machine : Machine State Action) (events : State → Action → List Event)
    (condition : State → List Event → Action → Prop)
    [decidable : ∀ state seen action, Decidable (condition state seen action)] :
    ∀ (state : State) (seen : List Event) (actions : List Action),
      Decidable (machine.MeetsSeen events condition state seen actions)
  | _, _, [] => isTrue trivial
  | state, seen, action :: later =>
    match decidable state seen action with
    | isFalse unmet => isFalse fun meets => unmet meets.1
    | isTrue met =>
      match stepped : machine.step state action with
      | none =>
        isTrue ⟨met, fun next there => absurd (stepped.symm.trans there) (Option.some_ne_none next).symm⟩
      | some next =>
        match decidableMeetsSeen machine events condition next (seen ++ events state action) later with
        | isTrue after =>
          isTrue ⟨met, fun _ there => Option.some.inj (stepped.symm.trans there) ▸ after⟩
        | isFalse broken => isFalse fun meets => broken (meets.2 next stepped)

/-- A safety property holds all along a run whose actions meet the condition that its invariant needs, where both
may look back at what was seen. -/
theorem along_of_meetsSeen {machine : Machine State Action} {events : State → Action → List Event}
    {condition : State → List Event → Action → Prop} {inv : State → List Event → Prop}
    {property : State → Prop} (holds : ∀ state seen, inv state seen → property state)
    (preserved : ∀ state seen action next, inv state seen → condition state seen action →
      machine.step state action = some next → inv next (seen ++ events state action))
    {state : State} {seen : List Event} (start : inv state seen) {actions : List Action}
    (meets : machine.MeetsSeen events condition state seen actions) :
    machine.Along property state actions := by
  -- The induction follows the actions, and what was seen grows with them.
  induction actions generalizing state seen with
  | nil => exact holds state seen start
  | cons action later ih =>
    obtain ⟨met, after⟩ := meets
    refine ⟨holds state seen start, fun next stepped => ?_⟩
    exact ih (preserved state seen action next start met stepped) (after next stepped)

/--
A forward simulation between two machines.

Each step of the concrete one that meets the condition is matched by a run of the abstract one that looks the same.
-/
structure Simulates (concrete : Machine State Action) (abstract : Machine Abstract Step)
    (condition : State → Action → Prop) (seen : State → Action → List Event)
    (shown : Abstract → Step → List Event) (related : State → Abstract → Prop) : Prop where
  matched : ∀ {state next : State} {image : Abstract} {action : Action}, related state image →
    condition state action → concrete.step state action = some next →
    ∃ steps after, abstract.run image steps = some after ∧ related next after ∧
      abstract.trace shown image steps = seen state action

/-- Under a simulation every run is matched by a run that looks the same. -/
theorem Simulates.run {concrete : Machine State Action} {abstract : Machine Abstract Step}
    {condition : State → Action → Prop} {seen : State → Action → List Event}
    {shown : Abstract → Step → List Event} {related : State → Abstract → Prop}
    (simulates : Simulates concrete abstract condition seen shown related)
    {state last : State} {image : Abstract} {actions : List Action}
    (start : related state image) (meets : concrete.Meets condition state actions)
    (ran : concrete.run state actions = some last) :
    ∃ steps after, abstract.run image steps = some after ∧ related last after ∧
      abstract.trace shown image steps = concrete.trace seen state actions := by
  induction actions generalizing state image with
  | nil =>
    obtain rfl : state = last := Option.some.inj ran
    exact ⟨[], image, rfl, start, rfl⟩
  | cons action later ih =>
    cases stepped : concrete.step state action with
    | none => simp [Machine.run, stepped] at ran
    | some next =>
      rw [run_cons stepped] at ran
      obtain ⟨first, middle, ranFirst, holds, same⟩ := simulates.matched start meets.1 stepped
      obtain ⟨rest, after, ranRest, ended, sameRest⟩ := ih holds (meets.2 next stepped) ran
      refine ⟨first ++ rest, after, ?_, ended, ?_⟩
      · rw [run_append, ranFirst]
        exact ranRest
      · rw [trace_append ranFirst, trace_cons stepped, same, sameRest]

end Machine

end Gritty
