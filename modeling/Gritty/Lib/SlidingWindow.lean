import Mathlib.Data.List.Basic
import Mathlib.Tactic

/-! Requests that are granted while fewer than a limit were granted in a window of time before them. -/

namespace Gritty

/-- The times that are at most a window ago. -/
def recent (window : Nat) (times : List Nat) (now : Nat) : List Nat :=
  times.filter fun time => decide (now ≤ time + window)

/-- Decide about requests in the order they come in, after some others were granted. -/
def decisions (limit window : Nat) (granted : List Nat) : List Nat → List (Nat × Bool)
  | [] => []
  | now :: later =>
    if (recent window granted now).length < limit then
      (now, true) :: decisions limit window (granted ++ [now]) later
    else (now, false) :: decisions limit window granted later

/-- The times of the requests that were granted. -/
def grantedTimes (decided : List (Nat × Bool)) : List Nat := (decided.filter (·.2)).map (·.1)

/-- How many of some times are in an interval, its ends included. -/
def countWithin (times : List Nat) (start stop : Nat) : Nat :=
  times.countP fun time => decide (start ≤ time ∧ time ≤ stop)

/-- No interval as long as the window has more times than the limit. -/
def NeverMore (limit window : Nat) (times : List Nat) : Prop :=
  ∀ start stop, stop ≤ start + window → countWithin times start stop ≤ limit

variable {limit window : Nat}

theorem decisions_granted {granted : List Nat} {now : Nat}
    (room : (recent window granted now).length < limit) (later : List Nat) :
    decisions limit window granted (now :: later) =
      (now, true) :: decisions limit window (granted ++ [now]) later := if_pos room

theorem decisions_refused {granted : List Nat} {now : Nat}
    (full : ¬ (recent window granted now).length < limit) (later : List Nat) :
    decisions limit window granted (now :: later) =
      (now, false) :: decisions limit window granted later := if_neg full

/-- Requests after requests are decided with those in mind that were granted before. -/
theorem decisions_append (granted first second : List Nat) :
    decisions limit window granted (first ++ second) =
      decisions limit window granted first ++
        decisions limit window
          (granted ++ grantedTimes (decisions limit window granted first)) second := by
  induction first generalizing granted with
  | nil =>
    rw [List.nil_append]
    exact congrArg (decisions limit window · second) (List.append_nil granted).symm
  | cons now first ih =>
    -- The request is decided as it was, and what it grants counts for all later ones.
    rw [List.cons_append]
    by_cases room : (recent window granted now).length < limit
    · rw [decisions_granted room, decisions_granted room, ih, List.append_assoc]
      rfl
    · rw [decisions_refused room, decisions_refused room, ih]
      rfl

/-- Every request is decided about, in order. -/
theorem decisions_times (granted times : List Nat) :
    (decisions limit window granted times).map (·.1) = times := by
  induction times generalizing granted with
  | nil => rfl
  | cons now later ih =>
    by_cases room : (recent window granted now).length < limit
    · rw [decisions_granted room, List.map_cons, ih]
    · rw [decisions_refused room, List.map_cons, ih]

/-- What was decided until some point, and what after it. -/
theorem decisions_split {granted times : List Nat} {before after : List (Nat × Bool)}
    (split : decisions limit window granted times = before ++ after) :
    before = decisions limit window granted (before.map (·.1)) ∧
      after = decisions limit window (granted ++ grantedTimes before) (after.map (·.1)) := by
  -- The decisions name their times, so they tell where the times are split.
  have all : times = before.map (·.1) ++ after.map (·.1) := by
    rw [← List.map_append, ← split, decisions_times]
  rw [all, decisions_append] at split
  have length : (decisions limit window granted (before.map (·.1))).length = before.length := by
    rw [← List.length_map (·.1), decisions_times, List.length_map]
  obtain ⟨front, rest⟩ := List.append_inj split length
  rw [front] at rest
  exact ⟨front.symm, rest.symm⟩

/-- One more time that has room in the window behind it keeps to the limit. -/
theorem NeverMore.append {times : List Nat} (never : NeverMore limit window times) {now : Nat}
    (room : (recent window times now).length < limit) : NeverMore limit window (times ++ [now]) := by
  -- Either the new time is in the interval, or nothing has changed for it.
  intro start stop short
  have split : countWithin (times ++ [now]) start stop =
      countWithin times start stop + countWithin [now] start stop := List.countP_append
  rw [split]
  by_cases inside : start ≤ now ∧ now ≤ stop
  · have one : countWithin [now] start stop = 1 := by simp [countWithin, inside]
    -- Whatever else is in the interval is at most a window ago.
    have others : countWithin times start stop ≤ (recent window times now).length := by
      unfold countWithin recent
      rw [← List.countP_eq_length_filter]
      refine List.countP_mono_left fun time _ within => ?_
      have ends := of_decide_eq_true within
      exact decide_eq_true (by omega)
    omega
  · have none : countWithin [now] start stop = 0 := by simp [countWithin, inside]
    rw [none, Nat.add_zero]
    exact never start stop short

/-- The limit is kept in every interval as long as the window. -/
theorem decisions_neverMore {granted : List Nat} (never : NeverMore limit window granted)
    (times : List Nat) :
    NeverMore limit window (granted ++ grantedTimes (decisions limit window granted times)) := by
  induction times generalizing granted with
  | nil =>
    show NeverMore limit window (granted ++ [])
    rwa [List.append_nil]
  | cons now later ih =>
    by_cases room : (recent window granted now).length < limit
    -- What is granted comes to the times before.
    · have rest := ih (never.append room)
      rw [decisions_granted room]
      rwa [List.append_assoc] at rest
    -- What is refused changes nothing.
    · rw [decisions_refused room]
      exact ih never

/-- A request is refused only if the window behind it is full. -/
theorem refused_full {granted times : List Nat} {before after : List (Nat × Bool)} {now : Nat}
    (split : decisions limit window granted times = before ++ (now, false) :: after) :
    limit ≤ (recent window (granted ++ grantedTimes before) now).length := by
  obtain ⟨-, rest⟩ := decisions_split split
  rw [List.map_cons] at rest
  -- With room in the window, the request would have been granted.
  by_contra room
  rw [decisions_granted (Nat.lt_of_not_le room)] at rest
  cases rest

/-- Without a request that was refused, the others are decided as they were. -/
theorem decisions_erase_refused {granted times : List Nat} {before after : List (Nat × Bool)}
    {now : Nat} (split : decisions limit window granted times = before ++ (now, false) :: after) :
    decisions limit window granted ((before ++ after).map (·.1)) = before ++ after := by
  -- A request that was refused leaves the times granted as they were.
  have full := Nat.not_lt.mpr (refused_full split)
  obtain ⟨front, rest⟩ := decisions_split split
  rw [List.map_cons, decisions_refused full] at rest
  have same := (List.cons.inj rest).2
  rw [List.map_append, decisions_append, ← front, ← same]

end Gritty
