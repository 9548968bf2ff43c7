import Mathlib.Tactic

/-! Items brought together by a key that some of them have, in the order in which they come; and items
sorted so that equals keep their order. -/

namespace Gritty

universe u v

variable {α : Type u} {κ : Type v} [DecidableEq κ] (key : α → Option κ)

/-- The key of a group is that of its first item. -/
def keyOf (group : List α) : Option κ := group.head?.bind key

/-- An item goes into the group of its key, if there is one, and else begins a group. -/
def addToGroup (item : α) : List (List α) → List (List α)
  | [] => [[item]]
  | group :: rest =>
    if key item ≠ none ∧ keyOf key group = key item then (group ++ [item]) :: rest
    else group :: addToGroup item rest

/-- The groups of some items. -/
def groupByKey (items : List α) : List (List α) :=
  items.foldl (fun groups item => addToGroup key item groups) []

/-- The groups have all items: those of one key together, and those of none each alone. -/
structure Grouped (items : List α) (groups : List (List α)) : Prop where
  all : groups.flatten.Perm items
  begun : ∀ group ∈ groups, group ≠ []
  /-- The groups come in the order of their first items. -/
  leaders : (groups.filterMap List.head?).Sublist items
  together : ∀ group ∈ groups, ∀ shared, keyOf key group = some shared →
    group = items.filter fun item => key item = some shared
  alone : ∀ group ∈ groups, keyOf key group = none → ∃ item, group = [item]
  apart : groups.Pairwise fun first second =>
    ∀ shared, keyOf key first = some shared → keyOf key second ≠ some shared

section

variable {key} {item : α} {items : List α} {groups : List (List α)}

/-- Either the item is behind all groups, as none has its key, or it is in the first that has. -/
theorem addToGroup_cases (key : α → Option κ) (item : α) (groups : List (List α)) :
    (∀ group ∈ groups, key item ≠ none → keyOf key group ≠ key item) ∧
        addToGroup key item groups = groups ++ [[item]] ∨
      ∃ before group after, groups = before ++ group :: after ∧ key item ≠ none ∧
        keyOf key group = key item ∧
          addToGroup key item groups = before ++ (group ++ [item]) :: after := by
  induction groups with
  | nil => exact .inl ⟨fun group among => absurd among List.not_mem_nil, rfl⟩
  | cons group rest ih =>
    rw [addToGroup]
    split
    · next same => exact .inr ⟨[], group, rest, rfl, same.1, same.2, rfl⟩
    · next other =>
      rcases ih with ⟨none_, later⟩ | ⟨before, found, after, rfl, keyed, same, later⟩
      · refine .inl ⟨fun other_ among keyed same => ?_, by rw [later, List.cons_append]⟩
        rcases List.mem_cons.mp among with rfl | inside
        · exact other ⟨keyed, same⟩
        · exact none_ other_ inside keyed same
      · exact .inr ⟨group :: before, found, after, rfl, keyed, same, by rw [later, List.cons_append]⟩

omit [DecidableEq κ] in
theorem keyOf_append (key : α → Option κ) (group : List α) (begun : group ≠ []) (item : α) :
    keyOf key (group ++ [item]) = keyOf key group := by
  unfold keyOf
  rw [List.head?_append_of_ne_nil _ begun]

/-- Of the items and one more, those of a key are the ones before, and the new one if it has the key. -/
theorem filter_concat (shared : κ) (items : List α) (item : α) :
    ((items ++ [item]).filter fun each => key each = some shared) =
      (items.filter fun each => key each = some shared) ++
        if key item = some shared then [item] else [] := by
  rw [List.filter_append]
  by_cases has : key item = some shared
  · rw [if_pos has, List.filter_cons_of_pos (by simpa using has), List.filter_nil]
  · rw [if_neg has, List.filter_cons_of_neg (by simpa using has), List.filter_nil]

/-- An item has the key of its group. -/
theorem Grouped.keyOf_eq (grouped : Grouped key items groups) {group : List α} (among : group ∈ groups)
    (inside : item ∈ group) : keyOf key group = key item := by
  cases has : keyOf key group with
  | none =>
    obtain ⟨single, rfl⟩ := grouped.alone group among has
    rw [List.mem_singleton.mp inside, ← has]
    rfl
  | some shared =>
    rw [grouped.together group among shared has] at inside
    exact (of_decide_eq_true (List.mem_filter.mp inside).2).symm

/-- A further item keeps the groups right. -/
theorem Grouped.add (grouped : Grouped key items groups) (item : α) :
    Grouped key (items ++ [item]) (addToGroup key item groups) := by
  rcases addToGroup_cases key item groups with
    ⟨new, added⟩ | ⟨before, group, after, rfl, keyed, same, added⟩
  · rw [added]
    have fresh : ∀ shared, key item = some shared →
        (items.filter fun each => key each = some shared) = [] := by
      intro shared has
      rw [List.filter_eq_nil_iff]
      intro each among keyed
      -- Such an item would have a group, and that group would have the key.
      obtain ⟨group, isGroup, inside⟩ := List.mem_flatten.mp (grouped.all.mem_iff.mpr among)
      have named := grouped.keyOf_eq isGroup inside
      rw [of_decide_eq_true keyed] at named
      exact new group isGroup (by rw [has]; exact Option.some_ne_none shared) (named.trans has.symm)
    constructor
    · rw [List.flatten_append]
      exact grouped.all.append_right _
    · intro group among
      rcases List.mem_append.mp among with old | here
      · exact grouped.begun group old
      · rw [List.mem_singleton.mp here]
        exact List.cons_ne_nil _ _
    · rw [List.filterMap_append]
      exact grouped.leaders.append (List.Sublist.refl _)
    · intro group among shared has
      rw [filter_concat]
      rcases List.mem_append.mp among with old | here
      · have other : key item ≠ some shared := fun same =>
          new group old (by rw [same]; exact Option.some_ne_none shared) (has.trans same.symm)
        rw [if_neg other, List.append_nil]
        exact grouped.together group old shared has
      · rw [List.mem_singleton.mp here] at has ⊢
        have named : key item = some shared := has
        rw [fresh shared named, if_pos named, List.nil_append]
    · intro group among has
      rcases List.mem_append.mp among with old | here
      · exact grouped.alone group old has
      · exact ⟨item, List.mem_singleton.mp here⟩
    · refine List.pairwise_append.mpr ⟨grouped.apart, List.pairwise_singleton _ _, ?_⟩
      intro group old last here shared has named
      rw [List.mem_singleton.mp here] at named
      have keyed : key item = some shared := named
      exact new group old (by rw [keyed]; exact Option.some_ne_none shared) (has.trans keyed.symm)
  · rw [added]
    have isGroup : group ∈ before ++ group :: after := List.mem_append_right _ List.mem_cons_self
    have begun := grouped.begun group isGroup
    have kept := keyOf_append key group begun item
    obtain ⟨apartBefore, apartFrom, apartAcross⟩ := List.pairwise_append.mp grouped.apart
    obtain ⟨apartGroup, apartAfter⟩ := List.pairwise_cons.mp apartFrom
    -- No other group has the key.
    have others : ∀ other ∈ before ++ after, ∀ shared, keyOf key other = some shared →
        key item ≠ some shared := by
      intro other among shared has named
      rcases List.mem_append.mp among with early | late
      · exact apartAcross other early group List.mem_cons_self shared has (same.trans named)
      · exact apartGroup other late shared (same.trans named) has
    have split_ : ∀ other, other ∈ before ++ (group ++ [item]) :: after →
        other = group ++ [item] ∨ other ∈ before ++ after ∧ other ∈ before ++ group :: after := by
      intro other among
      rcases List.mem_append.mp among with early | late
      · exact .inr ⟨List.mem_append_left _ early, List.mem_append_left _ early⟩
      · rcases List.mem_cons.mp late with here | later
        · exact .inl here
        · exact .inr ⟨List.mem_append_right _ later,
            List.mem_append_right _ (List.mem_cons_of_mem _ later)⟩
    constructor
    · refine List.Perm.trans ?_ (grouped.all.append_right [item])
      simp only [List.flatten_append, List.flatten_cons, List.append_assoc]
      exact ((List.perm_append_comm).append_left group).append_left before.flatten
    · intro other among
      rcases split_ other among with rfl | ⟨-, old⟩
      · exact List.append_ne_nil_of_left_ne_nil begun _
      · exact grouped.begun other old
    · have leaders := grouped.leaders
      simp only [List.filterMap_append, List.filterMap_cons, List.head?_append_of_ne_nil _ begun]
        at leaders ⊢
      exact leaders.trans (List.sublist_append_left _ _)
    · intro other among shared has
      rw [filter_concat]
      rcases split_ other among with rfl | ⟨apart, old⟩
      · rw [kept] at has
        rw [if_pos (same.symm.trans has), ← grouped.together group isGroup shared has]
      · rw [if_neg (others other apart shared has), List.append_nil]
        exact grouped.together other old shared has
    · intro other among has
      rcases split_ other among with rfl | ⟨-, old⟩
      · rw [kept, same] at has
        exact absurd has keyed
      · exact grouped.alone other old has
    · refine List.pairwise_append.mpr ⟨apartBefore, List.pairwise_cons.mpr ⟨?_, apartAfter⟩, ?_⟩
      · intro other late shared has
        rw [kept] at has
        exact apartGroup other late shared has
      · intro first early second late shared has
        rcases List.mem_cons.mp late with rfl | later
        · rw [kept]
          exact apartAcross first early group List.mem_cons_self shared has
        · exact apartAcross first early second (List.mem_cons_of_mem _ later) shared has

theorem groupByKey_concat (items : List α) (item : α) :
    groupByKey key (items ++ [item]) = addToGroup key item (groupByKey key items) := by
  rw [groupByKey, List.foldl_append]
  rfl

/-- The groups of any items are right. -/
theorem grouped_groupByKey (key : α → Option κ) (items : List α) : Grouped key items (groupByKey key items) := by
  -- From the left, each item is added to the groups of those before it.
  induction items using List.reverseRecOn with
  | nil =>
    exact ⟨List.Perm.refl _, fun _ among => absurd among List.not_mem_nil, List.Sublist.refl _,
      fun _ among => absurd among List.not_mem_nil, fun _ among => absurd among List.not_mem_nil,
      List.Pairwise.nil⟩
  | append_singleton items item ih =>
    rw [groupByKey_concat]
    exact ih.add item

end

/-! ### Sorting -/

/-- Items that are equal in the order they are sorted by keep the order they had. -/
theorem filter_mergeSort {le : α → α → Bool} (trans : ∀ a b c, le a b → le b c → le a c)
    (total : ∀ a b, le a b || le b a) {equal : α → Bool} {items : List α}
    (tied : ∀ a ∈ items, ∀ b ∈ items, equal a = true → equal b = true → le a b = true) :
    (items.mergeSort le).filter equal = items.filter equal := by
  have tiedList : (items.filter equal).Pairwise fun a b => le a b = true := by
    rw [List.pairwise_iff_forall_sublist]
    intro a b inside
    obtain ⟨isFirst, equalFirst⟩ := List.mem_filter.mp (inside.subset List.mem_cons_self)
    obtain ⟨isSecond, equalSecond⟩ :=
      List.mem_filter.mp (inside.subset (List.mem_cons_of_mem _ List.mem_cons_self))
    exact tied a isFirst b isSecond equalFirst equalSecond
  have kept := (List.sublist_mergeSort trans total tiedList List.filter_sublist).filter equal
  simp only [List.filter_filter, Bool.and_self] at kept
  have size : (items.filter equal).length = ((items.mergeSort le).filter equal).length :=
    ((List.mergeSort_perm items le).filter equal).length_eq.symm
  exact (kept.eq_of_length size).symm

end Gritty
