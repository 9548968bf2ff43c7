import Mathlib.Data.List.Infix
import Mathlib.Logic.Function.Basic
import Mathlib.Tactic

/-! A tree of files that several users share, and what one of them can do to the files of another. -/

namespace Gritty

universe u

/-- The owner of a directory, and who may do what in it. -/
structure DirAttrs where
  owner : Nat
  mode : Nat
  deriving DecidableEq

namespace DirAttrs

/-- Users other than the owner can put entries into the directory. -/
def OthersWrite (attrs : DirAttrs) : Prop := attrs.mode &&& 0o022 ≠ 0

/-- Entries can be taken out by their owners only, and by the owner of the directory. -/
def Sticky (attrs : DirAttrs) : Prop := attrs.mode &&& 0o1000 ≠ 0

/-- Nobody but the owner can use the directory. -/
def Private (attrs : DirAttrs) : Prop := attrs.mode &&& 0o077 = 0

instance (attrs : DirAttrs) : Decidable attrs.OthersWrite := inferInstanceAs (Decidable (_ ≠ _))
instance (attrs : DirAttrs) : Decidable attrs.Sticky := inferInstanceAs (Decidable (_ ≠ _))
instance (attrs : DirAttrs) : Decidable attrs.Private := inferInstanceAs (Decidable (_ = _))

/-- Others do not write to what is private. -/
theorem Private.not_othersWrite {attrs : DirAttrs} (isPrivate : attrs.Private) :
    ¬ attrs.OthersWrite := by
  -- The bits for writing are among those that a private directory has cleared.
  have among : (0o022 : Nat) = 0o077 &&& 0o022 := by decide
  have cleared : attrs.mode &&& 0o077 = 0 := isPrivate
  intro writable
  apply writable
  rw [among, ← Nat.and_assoc, cleared, Nat.zero_and]

end DirAttrs

/-- What there is at a path. A link comes with the directory that it leads to, if it leads to one. -/
inductive TreeEntry where
  | directory (attrs : DirAttrs)
  | link (owner : Nat) (target : Option DirAttrs)
  | other (owner : Nat)
  deriving DecidableEq

namespace TreeEntry

def owner : TreeEntry → Nat
  | directory attrs => attrs.owner
  | link owner _ => owner
  | other owner => owner

/-- The directory that one is in behind the entry. -/
def inside : TreeEntry → Option DirAttrs
  | directory attrs => some attrs
  | link _ target => target
  | other _ => none

/-- A new mode for the directory behind the entry. -/
def withMode (mode : Nat) : TreeEntry → TreeEntry
  | directory attrs => directory { attrs with mode }
  | link owner target => link owner (target.map fun attrs => { attrs with mode })
  | other owner => other owner

theorem withMode_owner (mode : Nat) (entry : TreeEntry) : (entry.withMode mode).owner = entry.owner := by
  cases entry <;> rfl

end TreeEntry

/-- The entries of a tree by their paths from the root. -/
abbrev SharedTree (Name : Type u) := List Name → Option TreeEntry

/-- What a user does to a tree. -/
inductive UserAction (Name : Type u) where
  | create (dir : List Name) (name : Name) (entry : TreeEntry)
  /-- Removes an entry with all below it, or moves it out of sight. -/
  | take (dir : List Name) (name : Name)
  | move (dir : List Name) (name : Name) (newDir : List Name) (newName : Name)
  | chmod (path : List Name) (mode : Nat)

namespace SharedTree

variable {Name : Type u} [DecidableEq Name]

/-- The directory behind a path. -/
def inside (tree : SharedTree Name) (path : List Name) : Option DirAttrs :=
  (tree path).bind TreeEntry.inside

/-- A user may put entries into a directory. Its owner can make that possible. -/
def canWrite (user : Nat) (attrs : DirAttrs) : Bool :=
  decide (attrs.owner = user ∨ attrs.OthersWrite)

/-- A user may put an entry where none is. -/
def canCreate (tree : SharedTree Name) (user : Nat) (dir : List Name) (name : Name) : Bool :=
  match tree.inside dir, tree (dir ++ [name]) with
  | some attrs, none => canWrite user attrs
  | _, _ => false

/-- A user may take an entry away. -/
def canTake (tree : SharedTree Name) (user : Nat) (dir : List Name) (name : Name) : Bool :=
  match tree.inside dir, tree (dir ++ [name]) with
  | some attrs, some entry =>
    canWrite user attrs && decide (attrs.Sticky → attrs.owner = user ∨ entry.owner = user)
  | _, _ => false

/-- The tree without an entry and all below it. -/
def without (tree : SharedTree Name) (path : List Name) : SharedTree Name :=
  fun other => if path.isPrefixOf other then none else tree other

/-- The tree after an entry was moved with all below it, in place of what was there. -/
def moved (tree : SharedTree Name) (path newPath : List Name) : SharedTree Name :=
  fun other =>
    match newPath.isPrefixOf? other with
    | some rest => tree (path ++ rest)
    | none => tree.without path other

/-- The tree with another mode of the directory behind a path. -/
def withMode (tree : SharedTree Name) (path : List Name) (mode : Nat) : SharedTree Name :=
  Function.update tree path ((tree path).map (TreeEntry.withMode mode))

/-- One action of a user, if the modes allow it. -/
def act (tree : SharedTree Name) (user : Nat) : UserAction Name → Option (SharedTree Name)
  | .create dir name entry =>
    if tree.canCreate user dir name ∧ entry.owner = user then
      some (Function.update tree (dir ++ [name]) (some entry))
    else none
  | .take dir name => if tree.canTake user dir name then some (tree.without (dir ++ [name])) else none
  | .move dir name newDir newName =>
    if tree.canTake user dir name ∧
        (tree.canCreate user newDir newName ∨ tree.canTake user newDir newName) then
      some (tree.moved (dir ++ [name]) (newDir ++ [newName]))
    else none
  | .chmod path mode =>
    match tree.inside path with
    | some attrs => if attrs.owner = user then some (tree.withMode path mode) else none
    | none => none

/-! ### What other users cannot change -/

/-- A directory of one's own or of the system's, out of which others can take nothing that is not theirs. -/
def Guarded (owner : Nat) (attrs : DirAttrs) : Prop :=
  (attrs.owner = 0 ∨ attrs.owner = owner) ∧ (attrs.OthersWrite → attrs.Sticky)

/-- A path that leads into a guarded directory. -/
def Held (owner : Nat) (tree : SharedTree Name) (path : List Name) : Prop :=
  ∃ entry attrs, tree path = some entry ∧ entry.inside = some attrs ∧
    (entry.owner = 0 ∨ entry.owner = owner) ∧ Guarded owner attrs

/-- Whatever is the system's, its links among it, leads into directories of the system's, and these are guarded. -/
def Managed (tree : SharedTree Name) : Prop :=
  ∀ path entry, tree path = some entry → entry.owner = 0 → ∀ attrs, entry.inside = some attrs →
    attrs.owner = 0 ∧ (attrs.OthersWrite → attrs.Sticky)

section

variable {tree next : SharedTree Name} {owner user : Nat}

omit [DecidableEq Name] in
/-- No other user takes an entry of one's own, or of the system's, out of a guarded directory. -/
theorem not_canTake {dir : List Name} {name : Name} {entry : TreeEntry} (notSystem : user ≠ 0)
    (notOwner : user ≠ owner) (held : Held owner tree dir) (there : tree (dir ++ [name]) = some entry)
    (owned : entry.owner = 0 ∨ entry.owner = owner) : tree.canTake user dir name = false := by
  obtain ⟨above, attrs, found, behind, -, guardedOwner, sticky⟩ := held
  have inside : tree.inside dir = some attrs := by
    unfold SharedTree.inside
    rw [found, Option.bind_some, behind]
  have stranger : attrs.owner ≠ user := by
    rcases guardedOwner with system | own
    · exact fun same => notSystem (same.symm.trans system)
    · exact fun same => notOwner (same.symm.trans own)
  have entryStranger : entry.owner ≠ user := by
    rcases owned with system | own
    · exact fun same => notSystem (same.symm.trans system)
    · exact fun same => notOwner (same.symm.trans own)
  rw [Bool.eq_false_iff]
  intro takes
  unfold canTake canWrite at takes
  rw [inside, there] at takes
  simp only [Bool.and_eq_true, decide_eq_true_eq] at takes
  -- A stranger writes only where others may, and there the sticky bit keeps the entry.
  obtain ⟨writes, stuck⟩ := takes
  have open_ := writes.resolve_left stranger
  exact (stuck (sticky open_)).elim stranger entryStranger

omit [DecidableEq Name] in
/-- What lies under an entry lies under the directory the entry is in. -/
theorem held_above {dir path : List Name} {name : Name} (above : dir ++ [name] <+: path)
    (held : ∀ other, other <+: path → other ≠ path → Held owner tree other) : Held owner tree dir := by
  refine held dir ((List.prefix_append dir [name]).trans above) fun same => ?_
  have longer := above.length_le
  rw [← same, List.length_append, List.length_singleton] at longer
  omega

/-- An entry on the way to a path, or at its end, is one's own or the system's. -/
theorem owned_above {path other : List Name} {entry : TreeEntry} (above : other <+: path)
    (held : ∀ other, other <+: path → other ≠ path → Held owner tree other)
    (there : tree path = some entry) (owned : entry.owner = 0 ∨ entry.owner = owner) :
    ∃ found, tree other = some found ∧ (found.owner = 0 ∨ found.owner = owner) := by
  by_cases same : other = path
  · exact ⟨entry, same ▸ there, owned⟩
  · obtain ⟨found, _, isThere, -, foundOwned, -⟩ := held other above same
    exact ⟨found, isThere, foundOwned⟩

/-- Behind guarded directories, an entry of one's own or of the system's stays as it is. -/
theorem act_keeps {action : UserAction Name} {path : List Name} {entry : TreeEntry}
    (notSystem : user ≠ 0) (notOwner : user ≠ owner)
    (held : ∀ other, other <+: path → other ≠ path → Held owner tree other)
    (there : tree path = some entry) (owned : entry.owner = 0 ∨ entry.owner = owner)
    (behind : ∀ attrs, entry.inside = some attrs → attrs.owner = 0 ∨ attrs.owner = owner)
    (acted : tree.act user action = some next) : next path = some entry := by
  -- Nobody else takes away what the path goes through.
  have untaken : ∀ dir name, dir ++ [name] <+: path → tree.canTake user dir name = false := by
    intro dir name above
    obtain ⟨found, isThere, foundOwned⟩ := owned_above above held there owned
    exact not_canTake notSystem notOwner (held_above above held) isThere foundOwned
  cases action with
  | create dir name created =>
    rw [act] at acted
    split_ifs at acted with allowed
    cases acted
    -- Something is at the path already.
    have elsewhere : path ≠ dir ++ [name] := by
      rintro rfl
      have creates := allowed.1
      unfold canCreate at creates
      rw [there] at creates
      split at creates
      · next none_ => cases none_
      · cases creates
    rw [Function.update_of_ne elsewhere, there]
  | take dir name =>
    rw [act] at acted
    split_ifs at acted with allowed
    cases acted
    have elsewhere : ¬ (dir ++ [name]).isPrefixOf path = true := by
      intro above
      rw [untaken dir name (List.isPrefixOf_iff_prefix.mp above)] at allowed
      cases allowed
    unfold without
    rw [if_neg elsewhere, there]
  | move dir name newDir newName =>
    rw [act] at acted
    split_ifs at acted with allowed
    cases acted
    obtain ⟨takes, replaces⟩ := allowed
    have notFrom : ¬ (dir ++ [name]).isPrefixOf path = true := by
      intro above
      rw [untaken dir name (List.isPrefixOf_iff_prefix.mp above)] at takes
      cases takes
    have notOnto : (newDir ++ [newName]).isPrefixOf? path = none := by
      refine Option.eq_none_iff_forall_ne_some.mpr fun rest found => ?_
      have above : newDir ++ [newName] <+: path :=
        ⟨rest, List.isPrefixOf?_eq_some_iff_append_eq.mp found⟩
      rcases replaces with creates | takes
      · obtain ⟨inPlace, isThere, -⟩ := owned_above above held there owned
        unfold canCreate at creates
        rw [isThere] at creates
        split at creates
        · next none_ => cases none_
        · cases creates
      · rw [untaken newDir newName above] at takes
        cases takes
    unfold moved without
    rw [notOnto]
    simp only
    rw [if_neg notFrom, there]
  | chmod other mode =>
    rw [act] at acted
    split at acted
    · next attrs inside =>
      split_ifs at acted with own
      cases acted
      -- The directory behind the path is not the user's.
      have elsewhere : path ≠ other := by
        rintro rfl
        unfold SharedTree.inside at inside
        rw [there, Option.bind_some] at inside
        rcases behind attrs inside with system | mine
        · exact notSystem (own.symm.trans system)
        · exact notOwner (own.symm.trans mine)
      unfold withMode
      rw [Function.update_of_ne elsewhere, there]
    · cases acted

/-- Guarded directories stay guarded, all the way down a path. -/
theorem act_keeps_held {action : UserAction Name} {path : List Name} (notSystem : user ≠ 0)
    (notOwner : user ≠ owner) (held : ∀ other, other <+: path → Held owner tree other)
    (acted : tree.act user action = some next) : Held owner next path := by
  obtain ⟨entry, attrs, there, behind, owned, guarded⟩ := held path List.prefix_rfl
  refine ⟨entry, attrs, ?_, behind, owned, guarded⟩
  refine act_keeps notSystem notOwner (fun other above _ => held other above) there owned ?_ acted
  intro other isBehind
  rw [behind, Option.some.injEq] at isBehind
  exact isBehind ▸ guarded.1

/-- Behind guarded directories, nothing comes to be where others cannot write. -/
theorem act_keeps_absent {action : UserAction Name} {dir : List Name} {name : Name} {attrs : DirAttrs}
    (notSystem : user ≠ 0) (notOwner : user ≠ owner)
    (held : ∀ other, other <+: dir → Held owner tree other) (inside : tree.inside dir = some attrs)
    (closed : canWrite user attrs = false) (absent : tree (dir ++ [name]) = none)
    (acted : tree.act user action = some next) : next (dir ++ [name]) = none := by
  -- Nobody else puts anything into the directory, or onto the way to it.
  have unplaced : ∀ newDir newName, newDir ++ [newName] <+: dir ++ [name] →
      tree.canCreate user newDir newName = false ∧ tree.canTake user newDir newName = false := by
    intro newDir newName above
    rcases List.prefix_concat_iff.mp above with same | onWay
    · obtain ⟨rfl, sameName⟩ := List.append_inj' same rfl
      obtain rfl := List.head_eq_of_cons_eq sameName
      unfold canCreate canTake
      rw [inside, absent]
      exact ⟨closed, rfl⟩
    · obtain ⟨entry, _, there, -, owned, -⟩ := held _ onWay
      refine ⟨?_, ?_⟩
      · unfold canCreate
        rw [there]
        split
        · next none_ => cases none_
        · rfl
      · refine not_canTake notSystem notOwner (held_above onWay fun other above _ => ?_) there owned
        exact held other above
  cases action with
  | create newDir newName created =>
    rw [act] at acted
    split_ifs at acted with allowed
    cases acted
    have elsewhere : dir ++ [name] ≠ newDir ++ [newName] := by
      intro same
      rw [(unplaced newDir newName (same ▸ List.prefix_rfl)).1] at allowed
      exact Bool.false_ne_true allowed.1
    rw [Function.update_of_ne elsewhere, absent]
  | take oldDir oldName =>
    rw [act] at acted
    split_ifs at acted with allowed
    cases acted
    unfold without
    rw [absent, ite_self]
  | move oldDir oldName newDir newName =>
    rw [act] at acted
    split_ifs at acted with allowed
    cases acted
    have notOnto : (newDir ++ [newName]).isPrefixOf? (dir ++ [name]) = none := by
      refine Option.eq_none_iff_forall_ne_some.mpr fun rest found => ?_
      have above : newDir ++ [newName] <+: dir ++ [name] :=
        ⟨rest, List.isPrefixOf?_eq_some_iff_append_eq.mp found⟩
      obtain ⟨creates, takes⟩ := unplaced newDir newName above
      rw [creates, takes] at allowed
      exact allowed.2.elim Bool.false_ne_true Bool.false_ne_true
    unfold moved without
    rw [notOnto]
    simp only
    rw [absent, ite_self]
  | chmod other mode =>
    rw [act] at acted
    split at acted
    · next found behind =>
      split_ifs at acted with own
      cases acted
      have elsewhere : dir ++ [name] ≠ other := by
        rintro rfl
        unfold SharedTree.inside at behind
        rw [absent] at behind
        cases behind
      unfold withMode
      rw [Function.update_of_ne elsewhere, absent]
    · cases acted

/-- No other user makes anything the system's, or takes it over. -/
theorem Managed.act {action : UserAction Name} (managed : Managed tree) (notSystem : user ≠ 0)
    (acted : tree.act user action = some next) : Managed next := by
  intro path entry there system attrs behind
  cases action with
  | create dir name created =>
    rw [SharedTree.act] at acted
    split_ifs at acted with allowed
    cases acted
    by_cases same : path = dir ++ [name]
    · rw [same, Function.update_self, Option.some.injEq] at there
      exact absurd (allowed.2.symm.trans (there ▸ system)) notSystem
    · rw [Function.update_of_ne same] at there
      exact managed path entry there system attrs behind
  | take dir name =>
    rw [SharedTree.act] at acted
    split_ifs at acted with allowed
    cases acted
    unfold without at there
    split at there
    · cases there
    · exact managed path entry there system attrs behind
  | move dir name newDir newName =>
    rw [SharedTree.act] at acted
    split_ifs at acted with allowed
    cases acted
    unfold moved without at there
    split at there
    · exact managed _ entry there system attrs behind
    · split at there
      · cases there
      · exact managed path entry there system attrs behind
  | chmod other mode =>
    rw [SharedTree.act] at acted
    split at acted
    · next found inside =>
      split_ifs at acted with own
      cases acted
      by_cases same : path = other
      · subst same
        unfold withMode at there
        rw [Function.update_self, Option.map_eq_some_iff] at there
        obtain ⟨before, wasThere, rfl⟩ := there
        unfold SharedTree.inside at inside
        rw [wasThere, Option.bind_some] at inside
        -- The system's entries lead into directories of the system's, which are not the user's.
        rw [TreeEntry.withMode_owner] at system
        have own' := (managed path before wasThere system found inside).1
        exact absurd (own.symm.trans own') notSystem
      · unfold withMode at there
        rw [Function.update_of_ne same] at there
        exact managed path entry there system attrs behind
    · cases acted

end

end SharedTree

end Gritty
