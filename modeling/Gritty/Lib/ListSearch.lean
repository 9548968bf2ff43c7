import Mathlib.Data.List.Basic

/-! Lists that are searched by a mark, and what is seen of them wherever their elements stand. -/

namespace Gritty

variable {α β γ : Type}

/-- A search by a test that only one value passes finds it, if it is there. -/
theorem map_find?_of_unique {list : List α} {test : α → Bool} {image : α → β}
    {value : β} (there : ∃ element ∈ list, test element = true)
    (unique : ∀ element ∈ list, test element = true → image element = value) :
    (list.find? test).map image = some value := by
  obtain ⟨element, inside, passes⟩ := there
  have found : (list.find? test).isSome = true := List.find?_isSome.mpr ⟨element, inside, passes⟩
  obtain ⟨first, is⟩ := Option.isSome_iff_exists.mp found
  rw [is, Option.map_some,
    unique first (List.mem_of_find?_eq_some is) (by simpa using List.find?_some is)]

/-- The one element at a position, found by the position. -/
theorem find?_mapIdx_position (list : List α) (image : Nat → α → β)
    (position : Nat) (marked : β → Bool)
    (marks : ∀ index value, marked (image index value) = decide (index = position)) :
    (list.mapIdx image).find? marked = list[position]?.map (image position) := by
  -- The induction moves the position along with the list.
  induction list generalizing position image with
  | nil => rfl
  | cons first rest ih =>
    rw [List.mapIdx_cons, List.find?_cons, marks]
    cases position with
    -- The first element is the one at position zero.
    | zero => rfl
    | succ position =>
      -- Later ones are found by their position in the rest.
      rw [decide_eq_false (by omega)]
      refine (ih (fun index => image (index + 1)) position fun index value => ?_).trans ?_
      · rw [marks]
        simp
      · rfl

/-- What is seen of a list wherever its elements are. -/
theorem map_mapIdx (list : List α) (image : Nat → α → β) (view : β → γ)
    (seen : α → γ) (same : ∀ index value, view (image index value) = seen value) :
    (list.mapIdx image).map view = list.map seen := by
  -- What is seen does not depend on the position, so the positions may be shifted.
  induction list generalizing image with
  | nil => rfl
  -- The elements behind the first are at one position more.
  | cons first rest ih =>
    rw [List.mapIdx_cons, List.map_cons, List.map_cons, same]
    rw [ih (fun index => image (index + 1)) fun index => same (index + 1)]

end Gritty
