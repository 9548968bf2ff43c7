import Gritty.Lib.Transition
import Gritty.Transfer.UniqueNames
import Mathlib.Data.List.DropRight

/-! The rounds of the disambiguation one by one, in whatever order a hash map gives the groups of one name. -/

namespace Gritty

/-- A disambiguation under way, or its result. -/
inductive UniquifyState where
  | working (work : List Work) (dropped : List (Bytes × Bytes))
  | returned (result : Except String Uniquified)

namespace UniquifyState

/-- Names without a conflict are left alone. -/
def start (entries : List SendEntry) : UniquifyState :=
  if namesConflict (entries.map (·.name)) then .working (entries.map Work.new) []
  else .returned (.ok { entries, renames := [], dropped := [] })

/-- One turn of the loop, with the groups of one name in some order. -/
def step (canonicalize : Bytes → Option Bytes) :
    UniquifyState → List (List Member) → Option UniquifyState
  | .working work dropped, groups =>
    if groups.isPerm (eqGroups work) then
      if eqGroups work = [] ∧ prefixGroups work = [] then
        some (.returned (.ok (finish work dropped)))
      else
        match runRoundIn canonicalize groups work with
        | .error message => some (.returned (.error message))
        | .ok round => some (.working (round.apply work) (dropped ++ round.dropped))
    else none
  | .returned _, _ => none

/-- How many turns there can still be. -/
def turnsLeft : UniquifyState → Nat
  | .working work _ => totalSize work + 1
  | .returned _ => 0

end UniquifyState

/-- The disambiguation of a list of entries. -/
def uniquification (canonicalize : Bytes → Option Bytes) (entries : List SendEntry) :
    Machine UniquifyState (List (List Member)) where
  init := .start entries
  step := UniquifyState.step canonicalize

namespace UniquifyState

variable {canonicalize : Bytes → Option Bytes} {work : List Work} {dropped : List (Bytes × Bytes)}
  {groups : List (List Member)} {next : UniquifyState}

/-- What can come of a turn. -/
theorem step_cases (stepped : step canonicalize (.working work dropped) groups = some next) :
    groups.Perm (eqGroups work) ∧
      (((eqGroups work = [] ∧ prefixGroups work = []) ∧
          next = .returned (.ok (finish work dropped))) ∨
        ((eqGroups work ≠ [] ∨ prefixGroups work ≠ []) ∧
          ((∃ message, runRoundIn canonicalize groups work = .error message ∧
              next = .returned (.error message)) ∨
            ∃ round, runRoundIn canonicalize groups work = .ok round ∧
              next = .working (round.apply work) (dropped ++ round.dropped)))) := by
  -- The order given has to be an order of the groups there are.
  rw [step] at stepped
  by_cases perm : groups.isPerm (eqGroups work) = true
  swap
  · rw [if_neg perm] at stepped
    cases stepped
  rw [if_pos perm] at stepped
  refine ⟨List.isPerm_iff.mp perm, ?_⟩
  by_cases settled : eqGroups work = [] ∧ prefixGroups work = []
  · rw [if_pos settled, Option.some.injEq] at stepped
    exact Or.inl ⟨settled, stepped.symm⟩
  rw [if_neg settled] at stepped
  refine Or.inr ⟨not_and_or.mp settled, ?_⟩
  cases ran : runRoundIn canonicalize groups work with
  | error message =>
    simp only [ran, Option.some.injEq] at stepped
    exact Or.inl ⟨message, rfl, stepped.symm⟩
  | ok round =>
    simp only [ran, Option.some.injEq] at stepped
    exact Or.inr ⟨round, rfl, stepped.symm⟩

/-- Every turn takes something off. -/
theorem turnsLeft_decreases {state : UniquifyState} (stepped : step canonicalize state groups = some next) :
    next.turnsLeft < state.turnsLeft := by
  cases state with
  | returned result => simp [step] at stepped
  | working work dropped =>
    obtain ⟨perm, ⟨_, rfl⟩ | ⟨conflict, ⟨message, _, rfl⟩ | ⟨round, ran, rfl⟩⟩⟩ :=
      step_cases stepped
    · exact Nat.succ_pos _
    · exact Nat.succ_pos _
    -- A round that goes through uses up a parent or an entry.
    · obtain ⟨sound, decided⟩ := runRoundIn_sound perm ran
      exact Nat.succ_lt_succ (round_decreases sound (decided conflict))

/-- As long as nothing is returned there is a turn to take. -/
theorem exists_step (canonicalize : Bytes → Option Bytes) (work : List Work)
    (dropped : List (Bytes × Bytes)) :
    ∃ groups next, step canonicalize (.working work dropped) groups = some next := by
  -- The groups are always an order of themselves.
  have perm : (eqGroups work).isPerm (eqGroups work) = true := List.isPerm_iff.mpr (List.Perm.refl _)
  refine ⟨eqGroups work, ?_⟩
  rw [step, if_pos perm]
  by_cases settled : eqGroups work = [] ∧ prefixGroups work = []
  · rw [if_pos settled]
    exact ⟨_, rfl⟩
  · rw [if_neg settled]
    cases runRoundIn canonicalize (eqGroups work) work with
    | error message => exact ⟨_, rfl⟩
    | ok round => exact ⟨_, rfl⟩

/-- Whatever the order of the groups, there are only so many turns, and the last one returns. -/
theorem run_ends {entries : List SendEntry} {actions : List (List (List Member))}
    {last : UniquifyState}
    (ran : (uniquification canonicalize entries).run (.start entries) actions = some last) :
    actions.length ≤ (start entries).turnsLeft ∧
      ((∃ result, last = .returned result) ∨
        ∃ groups next, (uniquification canonicalize entries).step last groups = some next) := by
  constructor
  -- No invariant is needed: the measure alone bounds the number of turns.
  · have always : (uniquification canonicalize entries).Meets (fun _ _ => True) (.start entries)
        actions := Machine.meets_true _ _
    have kept : ∀ state action next, True → True →
        (uniquification canonicalize entries).step state action = some next → True :=
      fun _ _ _ _ _ _ => trivial
    have decreases : ∀ state action next, True → True →
        (uniquification canonicalize entries).step state action = some next →
          next.turnsLeft < state.turnsLeft :=
      fun state action next _ _ stepped => turnsLeft_decreases stepped
    exact Machine.length_le_of_decreases turnsLeft kept decreases trivial always ran
  · cases last with
    | returned result => exact Or.inl ⟨result, rfl⟩
    | working work dropped => exact Or.inr (exists_step canonicalize work dropped)

/-- The disambiguation that takes the groups in the order of the names is one of the runs. -/
theorem run_uniquifyLoop (entries : List SendEntry) (work : List Work)
    (dropped : List (Bytes × Bytes)) :
    ∃ actions, (uniquification canonicalize entries).run (.working work dropped) actions =
      some (.returned (uniquifyLoop canonicalize work dropped)) := by
  have perm : ∀ work, (eqGroups work).isPerm (eqGroups work) = true :=
    fun work => List.isPerm_iff.mpr (List.Perm.refl _)
  -- The loop takes the groups as they come, which is one order among those a hash map may give.
  induction work, dropped using uniquifyLoop.induct canonicalize with
  | case1 work dropped settled =>
    refine ⟨[eqGroups work], ?_⟩
    have stepped : (uniquification canonicalize entries).step (.working work dropped)
        (eqGroups work) = some (.returned (.ok (finish work dropped))) := by
      simp only [uniquification, step, if_pos (perm work), if_pos settled]
    rw [Machine.run_cons stepped, uniquifyLoop, dif_pos settled]
    rfl
  | case2 work dropped unsettled message failed =>
    refine ⟨[eqGroups work], ?_⟩
    have same : runRoundIn canonicalize (eqGroups work) work = .error message := failed
    have stepped : (uniquification canonicalize entries).step (.working work dropped)
        (eqGroups work) = some (.returned (.error message)) := by
      simp only [uniquification, step, if_pos (perm work), if_neg unsettled, same]
    rw [Machine.run_cons stepped, uniquifyLoop, dif_neg unsettled]
    split
    · next other there =>
      rw [failed] at there
      obtain rfl := Except.error.inj there
      rfl
    · next other there =>
      rw [failed] at there
      cases there
  | case3 work dropped unsettled round settledRound ih =>
    obtain ⟨actions, ran⟩ := ih
    refine ⟨eqGroups work :: actions, ?_⟩
    have same : runRoundIn canonicalize (eqGroups work) work = .ok round := settledRound
    have stepped : (uniquification canonicalize entries).step (.working work dropped)
        (eqGroups work) = some (.working (round.apply work) (dropped ++ round.dropped)) := by
      simp only [uniquification, step, if_pos (perm work), if_neg unsettled, same]
    have goesOn : uniquifyLoop canonicalize work dropped =
        uniquifyLoop canonicalize (round.apply work) (dropped ++ round.dropped) := by
      rw [uniquifyLoop.eq_def canonicalize work dropped, dif_neg unsettled]
      split
      · next other there =>
        rw [settledRound] at there
        cases there
      · next other there =>
        rw [settledRound] at there
        obtain rfl := Except.ok.inj there
        rfl
    rw [Machine.run_cons stepped, ran, goesOn]

end UniquifyState

end Gritty
