import Mathlib.Tactic
import Mathlib.Data.List.AList

/-! Removing the entries of a table by a test on their values. -/

namespace Gritty

universe u v

variable {Key : Type u} {Value : Type v} [DecidableEq Key]

/-- Removes every entry whose value a test selects. -/
def removeWhere (table : AList fun _ : Key => Value) (selected : Value → Bool) :
    AList fun _ : Key => Value :=
  ((table.entries.filter fun entry => selected entry.2).map Sigma.fst).foldl
    (fun left key => left.erase key) table

/-- Erasing many keys leaves the others as they are. -/
theorem lookup_foldl_erase (keys : List Key) (table : AList fun _ : Key => Value) (key : Key) :
    (keys.foldl (fun left key => left.erase key) table).lookup key =
      if key ∈ keys then none else table.lookup key := by
  -- The induction follows the keys that are erased.
  induction keys generalizing table with
  | nil => simp
  | cons first keys ih =>
    rw [List.foldl_cons, ih]
    by_cases same : key = first
    · subst same
      simp [AList.lookup_erase]
    · simp [AList.lookup_erase_ne same, same]

/-- A key is there after an insertion if it was inserted or was there before. -/
theorem isSome_lookup_insert (table : AList fun _ : Key => Value) (inserted key : Key)
    (value : Value) : ((table.insert inserted value).lookup key).isSome =
      (decide (inserted = key) || (table.lookup key).isSome) := by
  by_cases same : inserted = key
  · subst same
    simp [AList.lookup_insert]
  · simp [AList.lookup_insert_ne (Ne.symm same), same]

/-- A key is there after an erasure if it is another one that was there before. -/
theorem isSome_lookup_erase (table : AList fun _ : Key => Value) (erased key : Key) :
    ((table.erase erased).lookup key).isSome =
      (!decide (erased = key) && (table.lookup key).isSome) := by
  by_cases same : erased = key
  · subst same
    simp [AList.lookup_erase]
  · simp [AList.lookup_erase_ne (Ne.symm same), same]

/-- An entry of a table is what its key is looked up to. -/
theorem mem_entries_iff {table : AList fun _ : Key => Value} {key : Key} {value : Value} :
    (⟨key, value⟩ : Sigma fun _ : Key => Value) ∈ table.entries ↔
      table.lookup key = some value :=
  AList.mem_lookup_iff.symm

/-- An entry is left exactly when the test does not select its value. -/
theorem lookup_removeWhere (table : AList fun _ : Key => Value) (selected : Value → Bool)
    (key : Key) :
    (removeWhere table selected).lookup key =
      (table.lookup key).filter fun value => !selected value := by
  unfold removeWhere
  rw [lookup_foldl_erase]
  cases found : table.lookup key with
  | none => simp
  | some value =>
    -- The key is among the removed ones exactly when its own value is selected.
    have removed : key ∈ (table.entries.filter fun entry => selected entry.2).map Sigma.fst ↔
        selected value = true := by
      simp only [List.mem_map, List.mem_filter]
      constructor
      · rintro ⟨⟨other, stored⟩, ⟨member, chosen⟩, rfl⟩
        rw [mem_entries_iff, found, Option.some.injEq] at member
        rwa [member]
      · intro chosen
        exact ⟨⟨key, value⟩, ⟨mem_entries_iff.mpr found, chosen⟩, rfl⟩
    by_cases chosen : selected value = true
    · rw [if_pos (removed.mpr chosen), Option.filter_some, chosen]
      rfl
    · rw [if_neg fun member => chosen (removed.mp member), Option.filter_some]
      simp [chosen]

end Gritty
