import Gritty.Security.SecureDir

/-! A socket directory that was accepted belongs to its user alone, whatever others do meanwhile. -/

namespace Gritty

open SharedTree

/-- A directory that may be used: the system's, or one's own that nobody else gets into. -/
def AcceptedDir (uid : Nat) (tree : SharedTree Text) (path : DirPath) : Prop :=
  ∃ entry, tree path = some entry ∧
    ((entry.owner = 0 ∧ ∃ attrs, entry.inside = some attrs) ∨
      ∃ attrs : DirAttrs, entry = .directory attrs ∧ attrs.owner = uid ∧ attrs.Private)

/-- A path is above a trusted root that is on the way, or is that root. -/
def AboveRoot (isTrusted : DirPath → Bool) (path other : DirPath) : Prop :=
  ∃ base, (isTrusted base = true ∨ base = []) ∧ other <+: base ∧ base <+: path

/-! ### The directories on the way -/

/-- Every directory on the way is done, or is above a trusted root. -/
theorem secureDirs_covers (isTrusted : DirPath → Bool) (components : List Text) {other : DirPath}
    (above : other <+: components.reverse) :
    other ∈ secureDirs isTrusted components ∨ AboveRoot isTrusted components.reverse other := by
  induction components with
  | nil => exact Or.inr ⟨[], Or.inr rfl, above, List.prefix_rfl⟩
  | cons name components ih =>
    rw [List.reverse_cons] at above ⊢
    rw [secureDirs]
    split_ifs with trusted
    · exact Or.inr ⟨_, Or.inl trusted, above, List.prefix_rfl⟩
    · rw [List.mem_append, List.mem_singleton]
      rcases List.prefix_concat_iff.mp above with whole | shorter
      · exact Or.inl (Or.inr whole)
      · rcases ih shorter with among | ⟨base, isRoot, below, onWay⟩
        · exact Or.inl (Or.inl among)
        · exact Or.inr ⟨base, isRoot, below, onWay.trans (List.prefix_append _ _)⟩

/-- What is above a directory comes before it, unless a trusted root is below. -/
theorem secureDirs_split {isTrusted : DirPath → Bool} {components : List Text}
    {before later : List DirPath} {path : DirPath}
    (split : secureDirs isTrusted components = before ++ path :: later) :
    ∀ other, other <+: path → other ≠ path →
      other ∈ before ∨ AboveRoot isTrusted components.reverse other := by
  induction components generalizing before later path with
  | nil => exact absurd split.symm (List.append_ne_nil_of_right_ne_nil _ (List.cons_ne_nil _ _))
  | cons name components ih =>
    rw [secureDirs] at split
    split_ifs at split with trusted
    · exact absurd split.symm (List.append_ne_nil_of_right_ne_nil _ (List.cons_ne_nil _ _))
    · intro other above notWhole
      rcases List.eq_nil_or_concat later with rfl | ⟨rest, last, rfl⟩
      · -- The last directory is the path, and those before it cover what is above.
        obtain ⟨rfl, same⟩ := List.append_inj' split rfl
        obtain rfl := List.head_eq_of_cons_eq same
        rw [List.reverse_cons]
        rcases List.prefix_concat_iff.mp above with whole | shorter
        · exact absurd whole notWhole
        · rcases secureDirs_covers isTrusted components shorter with among | ⟨base, isRoot, below, onWay⟩
          · exact Or.inl among
          · exact Or.inr ⟨base, isRoot, below, onWay.trans (List.prefix_append _ _)⟩
      · have shape : before ++ path :: (rest.concat last) = (before ++ path :: rest) ++ [last] := by
          simp
        rw [shape] at split
        obtain ⟨earlier, -⟩ := List.append_inj' split rfl
        rw [List.reverse_cons]
        rcases ih earlier other above notWhole with among | ⟨base, isRoot, below, onWay⟩
        · exact Or.inl among
        · exact Or.inr ⟨base, isRoot, below, onWay.trans (List.prefix_append _ _)⟩

/-- What one call of the process can come to. -/
inductive SecureDirMove (uid umask : Nat) (state : SecureDirState) : SecureDirState → Prop where
  | allDone (phase : state.call.phase = .creating) (todo : state.call.todo = []) :
    SecureDirMove uid umask state
      { state with call := { state.call with phase := .finished (.ok ()) } }
  | found {current : DirPath} {later : List DirPath} (todo : state.call.todo = current :: later) :
    SecureDirMove uid umask state { state with call := { state.call with phase := .inspecting } }
  | made {current : DirPath} {later : List DirPath} (todo : state.call.todo = current :: later)
      (absent : state.tree current = none) :
    SecureDirMove uid umask state {
      tree := Function.update state.tree current
        (some (.directory { owner := uid, mode := SecureDirState.createdMode umask }))
      call := { state.call with phase := .tightening } }
  | failed (error : SecureDirError) :
    SecureDirMove uid umask state { state with call := state.call.fail error }
  | tightened {current : DirPath} {later : List DirPath} (phase : state.call.phase = .tightening)
      (todo : state.call.todo = current :: later) :
    SecureDirMove uid umask state {
      tree := state.tree.withMode current 0o700, call := state.call.pass current later }
  | systems {current : DirPath} {later : List DirPath} {entry : TreeEntry}
      (todo : state.call.todo = current :: later) (there : state.tree current = some entry)
      (system : entry.owner = 0) :
    SecureDirMove uid umask state { state with call := { state.call with phase := .resolving } }
  | loose {current : DirPath} {later : List DirPath} {attrs : DirAttrs}
      (todo : state.call.todo = current :: later)
      (there : state.tree current = some (.directory attrs)) (own : attrs.owner = uid) :
    SecureDirMove uid umask state { state with call := { state.call with phase := .tightening } }
  | fine {current : DirPath} {later : List DirPath} {attrs : DirAttrs}
      (todo : state.call.todo = current :: later)
      (there : state.tree current = some (.directory attrs)) (own : attrs.owner = uid)
      (isPrivate : attrs.Private) :
    SecureDirMove uid umask state { state with call := state.call.pass current later }
  | resolved {current : DirPath} {later : List DirPath} {attrs : DirAttrs}
      (phase : state.call.phase = .resolving) (todo : state.call.todo = current :: later)
      (inside : state.tree.inside current = some attrs) :
    SecureDirMove uid umask state { state with call := state.call.pass current later }

section

variable {uid umask : Nat} {isTrusted : DirPath → Bool} {path : DirPath}
  {state next : SecureDirState}

/-- What is found in place of a directory: it is in order, can be put in order, or is refused. -/
theorem validateDir_moves {current : DirPath} {later : List DirPath}
    (todo : state.call.todo = current :: later) :
    SecureDirMove uid umask state
      { state with call := state.validateDir uid current later } := by
  unfold SecureDirState.validateDir
  cases there : state.tree current with
  | none => exact .failed .system
  | some entry =>
    simp only
    split_ifs with system
    · exact .systems todo there system
    · cases entry with
      | link owner target => exact .failed (.symlink current)
      | other owner => exact .failed (.notDirectory current)
      | directory attrs =>
        simp only
        split_ifs with foreign open_
        · exact .failed (.foreign current attrs.owner uid)
        · exact .loose todo there (not_not.mp foreign)
        · exact .fine todo there (not_not.mp foreign) (not_not.mp open_)

/-- A step of the call is a move of the file system. -/
theorem advance_moves (stepped : state.advance uid umask = some next) :
    SecureDirMove uid umask state next := by
  unfold SecureDirState.advance at stepped
  split at stepped
  -- Nothing is left to be done.
  · next phase todo =>
    cases stepped
    exact .allDone phase todo
  -- A directory is there already, or is made, or neither.
  · next current later phase todo =>
    split at stepped
    · cases stepped
      exact .found todo
    · next attrs absent inside =>
      split_ifs at stepped with writable
      · cases stepped
        exact .made todo absent
      · cases stepped
        exact .failed .system
    · cases stepped
      exact .failed .system
  -- What was made is restricted to its owner.
  · next current later phase todo =>
    split at stepped
    · split_ifs at stepped with own
      · cases stepped
        exact .tightened phase todo
      · cases stepped
        exact .failed .system
    · cases stepped
      exact .failed .system
  · next current later phase todo =>
    cases stepped
    exact validateDir_moves todo
  -- A link of the system's is followed once.
  · next current later phase todo =>
    split_ifs at stepped with resolves
    · cases stepped
      obtain ⟨attrs, inside⟩ := Option.isSome_iff_exists.mp resolves
      exact .resolved phase todo inside
    · cases stepped
      exact .failed (.notResolving current)
  · cases stepped

/-- An accepted directory is guarded. -/
theorem AcceptedDir.held {tree : SharedTree Text} {dir : DirPath}
    (accepted : AcceptedDir uid tree dir) (managed : Managed tree) : Held uid tree dir := by
  obtain ⟨entry, there, ⟨system, attrs, behind⟩ | ⟨attrs, rfl, own, isPrivate⟩⟩ := accepted
  · obtain ⟨systems, sticky⟩ := managed dir entry there system attrs behind
    exact ⟨entry, attrs, there, behind, Or.inl system, Or.inl systems, sticky⟩
  · exact ⟨_, attrs, there, rfl, Or.inr own, Or.inr own,
      fun writable => absurd writable isPrivate.not_othersWrite⟩

/-- What holds between any two calls of the process. -/
structure SecureDirInv (uid : Nat) (isTrusted : DirPath → Bool) (path : DirPath)
    (state : SecureDirState) : Prop where
  split : secureDirs isTrusted path.reverse = state.call.done ++ state.call.todo
  managed : Managed state.tree
  roots : ∀ other, AboveRoot isTrusted path other → Held uid state.tree other
  done : ∀ dir ∈ state.call.done, AcceptedDir uid state.tree dir
  tightening : state.call.phase = .tightening → ∀ current later,
    state.call.todo = current :: later →
    ∃ attrs : DirAttrs, state.tree current = some (.directory attrs) ∧ attrs.owner = uid
  resolving : state.call.phase = .resolving → ∀ current later,
    state.call.todo = current :: later →
    ∃ entry, state.tree current = some entry ∧ entry.owner = 0
  finished : state.call.phase = .finished (.ok ()) → state.call.todo = []

namespace SecureDirInv

variable (inv : SecureDirInv uid isTrusted path state)

include inv

/-- What is above a directory that was secured is held. -/
theorem held_of_split {before later : List DirPath} {dir : DirPath}
    (split : secureDirs isTrusted path.reverse = before ++ dir :: later)
    (done : ∀ other ∈ before, other ∈ state.call.done) {other : DirPath} (above : other <+: dir)
    (notWhole : other ≠ dir) : Held uid state.tree other := by
  rcases secureDirs_split split other above notWhole with among | isAbove
  · exact (inv.done other (done other among)).held inv.managed
  · rw [List.reverse_reverse] at isAbove
    exact inv.roots other isAbove

/-- All that is above the current directory is guarded. -/
theorem held_current {current : DirPath} {later : List DirPath}
    (todo : state.call.todo = current :: later) :
    ∀ other, other <+: current → other ≠ current → Held uid state.tree other := fun _ above =>
  inv.held_of_split (by rw [inv.split, todo]) (fun _ among => among) above

/-- All that is above a directory that is done is guarded. -/
theorem held_done {dir : DirPath} (among : dir ∈ state.call.done) :
    ∀ other, other <+: dir → other ≠ dir → Held uid state.tree other := by
  obtain ⟨before, after, shape⟩ := List.append_of_mem among
  have split : secureDirs isTrusted path.reverse = before ++ dir :: (after ++ state.call.todo) := by
    rw [inv.split, shape, List.append_assoc, List.cons_append]
  intro other above
  refine inv.held_of_split split (fun earlier there => ?_) above
  rw [shape]
  exact List.mem_append_left _ there

/-- Whatever another user does, nothing that was accepted is lost. -/
theorem user {user : Nat} {action : UserAction Text} {tree : SharedTree Text} (notSystem : user ≠ 0)
    (notOwner : user ≠ uid) (acted : state.tree.act user action = some tree) :
    SecureDirInv uid isTrusted path { state with tree } where
  split := inv.split
  managed := inv.managed.act notSystem acted
  roots other above := by
    refine act_keeps_held notSystem notOwner (fun upper isAbove => inv.roots upper ?_) acted
    obtain ⟨base, isRoot, below, onWay⟩ := above
    exact ⟨base, isRoot, isAbove.trans below, onWay⟩
  done dir among := by
    obtain ⟨entry, there, kind⟩ := inv.done dir among
    refine ⟨entry, act_keeps notSystem notOwner (inv.held_done among) there ?_ ?_ acted, kind⟩
    -- Others take nothing that is the system's or one's own.
    · rcases kind with ⟨system, -⟩ | ⟨attrs, rfl, own, -⟩
      · exact Or.inl system
      · exact Or.inr own
    · rcases kind with ⟨system, -⟩ | ⟨attrs, rfl, own, -⟩
      · exact fun attrs behind => Or.inl (inv.managed dir entry there system attrs behind).1
      · exact fun _ behind => Or.inr (Option.some.inj behind ▸ own)
  tightening phase current later todo := by
    obtain ⟨attrs, there, own⟩ := inv.tightening phase current later todo
    refine ⟨attrs, act_keeps notSystem notOwner (inv.held_current todo) there (Or.inr own) ?_ acted,
      own⟩
    exact fun _ behind => Or.inr (Option.some.inj behind ▸ own)
  resolving phase current later todo := by
    obtain ⟨entry, there, system⟩ := inv.resolving phase current later todo
    refine ⟨entry, act_keeps notSystem notOwner (inv.held_current todo) there (Or.inl system) ?_ acted,
      system⟩
    exact fun attrs behind => Or.inl (inv.managed current entry there system attrs behind).1
  finished := inv.finished

/-- A call that was refused leaves everything as it is. -/
theorem fail (error : SecureDirError) :
    SecureDirInv uid isTrusted path { state with call := state.call.fail error } where
  split := inv.split
  managed := inv.managed
  roots := inv.roots
  done := inv.done
  tightening := fun phase => by cases phase
  resolving := fun phase => by cases phase
  finished := fun phase => by cases phase

/-- A directory that may be used is done. -/
theorem pass {current : DirPath} {later : List DirPath} (todo : state.call.todo = current :: later)
    (accepted : AcceptedDir uid state.tree current) :
    SecureDirInv uid isTrusted path { state with call := state.call.pass current later } where
  split := by
    show secureDirs isTrusted path.reverse = (state.call.done ++ [current]) ++ later
    rw [inv.split, todo, List.append_assoc, List.singleton_append]
  managed := inv.managed
  roots := inv.roots
  done dir among := by
    rcases List.mem_append.mp among with earlier | last
    · exact inv.done dir earlier
    · rwa [List.mem_singleton.mp last]
  tightening := fun phase => by cases phase
  resolving := fun phase => by cases phase
  finished := fun phase => by cases phase

omit inv in
/-- A directory of the user's own, in place of what it was or of nothing, changes no other directory. -/
theorem replace (current : DirPath) (attrs : DirAttrs) {call : SecureDirCall} (notRoot : uid ≠ 0)
    (inv : SecureDirInv uid isTrusted path { state with call }) (own : attrs.owner = uid)
    (tight : attrs.Private ∨ state.tree current = none)
    (phase : call.phase = .tightening → call.todo.head? = some current)
    (notResolving : call.phase ≠ .resolving) :
    SecureDirInv uid isTrusted path {
      tree := Function.update state.tree current (some (.directory attrs)), call } where
  split := inv.split
  managed other entry there system := by
    have there' : Function.update state.tree current (some (.directory attrs)) other = some entry := there
    -- What was put there is one's own, so it is not the system's.
    by_cases same : other = current
    · rw [same, Function.update_self, Option.some.injEq] at there'
      subst there'
      exact absurd (own.symm.trans system) notRoot
    · rw [Function.update_of_ne same] at there'
      exact inv.managed other entry there' system
  roots other above := by
    obtain ⟨entry, old, there, behind, owned, guarded⟩ := inv.roots other above
    by_cases same : other = current
    -- A trusted root was there before, so what was put there is private.
    · subst same
      rcases tight with isPrivate | absent
      · exact ⟨_, attrs, Function.update_self .., rfl, Or.inr own, Or.inr own,
          fun writable => absurd writable isPrivate.not_othersWrite⟩
      · exact absurd (absent.symm.trans there) (Option.some_ne_none entry).symm
    · exact ⟨entry, old, (Function.update_of_ne same ..).trans there, behind, owned, guarded⟩
  done dir among := by
    obtain ⟨entry, there, kind⟩ := inv.done dir among
    by_cases same : dir = current
    · subst same
      rcases tight with isPrivate | absent
      · exact ⟨_, Function.update_self .., Or.inr ⟨attrs, rfl, own, isPrivate⟩⟩
      · exact absurd (absent.symm.trans there) (Option.some_ne_none entry).symm
    · exact ⟨entry, (Function.update_of_ne same ..).trans there, kind⟩
  tightening isTightening other later todo := by
    have first := phase isTightening
    have shape : call.todo = other :: later := todo
    rw [shape, List.head?_cons, Option.some.injEq] at first
    subst first
    exact ⟨attrs, Function.update_self .., own⟩
  resolving isResolving := absurd isResolving notResolving
  finished := inv.finished

omit inv in
/-- On to another call for the same directory. -/
theorem enter {phase : SecureDirPhase} (inv : SecureDirInv uid isTrusted path state)
    (tightening : phase = .tightening → ∀ current later, state.call.todo = current :: later →
      ∃ attrs : DirAttrs, state.tree current = some (.directory attrs) ∧ attrs.owner = uid)
    (resolving : phase = .resolving → ∀ current later, state.call.todo = current :: later →
      ∃ entry, state.tree current = some entry ∧ entry.owner = 0)
    (finished : phase = .finished (.ok ()) → state.call.todo = []) :
    SecureDirInv uid isTrusted path { state with call := { state.call with phase } } :=
  { inv with tightening, resolving, finished }

/-- Every call of the process keeps what holds between two calls. -/
theorem move (notRoot : uid ≠ 0) (moved : SecureDirMove uid umask state next) :
    SecureDirInv uid isTrusted path next := by
  cases moved with
  | allDone phase todo =>
    exact inv.enter (fun same => by cases same) (fun same => by cases same) fun _ => todo
  | found todo =>
    exact inv.enter (fun same => by cases same) (fun same => by cases same) fun same => by cases same
  | @made current later todo absent =>
    -- The new directory is one's own, and nothing that was checked can have been there.
    have creating : SecureDirInv uid isTrusted path
        { state with call := { state.call with phase := .creating } } :=
      inv.enter (fun same => by cases same) (fun same => by cases same) fun same => by cases same
    have placed := creating.replace current ⟨uid, SecureDirState.createdMode umask⟩ notRoot rfl
      (Or.inr absent) (fun same => by cases same) fun same => by cases same
    refine placed.enter ?_ (fun same => by cases same) fun same => by cases same
    intro _ other rest isTodo
    have shape : state.call.todo = other :: rest := isTodo
    obtain rfl := List.head_eq_of_cons_eq (todo.symm.trans shape)
    exact ⟨_, Function.update_self .., rfl⟩
  | failed error => exact inv.fail error
  | @tightened current later phase todo =>
    -- What is there is still the directory that was made or looked at.
    obtain ⟨attrs, there, own⟩ := inv.tightening phase current later todo
    have isPrivate : DirAttrs.Private { attrs with mode := 0o700 } := by
      show (0o700 : Nat) &&& 0o077 = 0
      decide
    have same : state.tree.withMode current 0o700 =
        Function.update state.tree current (some (.directory { attrs with mode := 0o700 })) := by
      unfold SharedTree.withMode
      rw [there]
      rfl
    rw [same]
    have placed := replace current { attrs with mode := 0o700 } notRoot inv own (Or.inl isPrivate)
      (fun _ => by rw [todo]; rfl) (fun resolving => by cases phase.symm.trans resolving)
    exact placed.pass todo ⟨_, Function.update_self .., Or.inr ⟨_, rfl, own, isPrivate⟩⟩
  | @systems current later entry todo there system =>
    refine inv.enter (fun same => by cases same) ?_ fun same => by cases same
    intro _ other rest isTodo
    obtain rfl := List.head_eq_of_cons_eq (todo.symm.trans isTodo)
    exact ⟨entry, there, system⟩
  | @loose current later attrs todo there own =>
    refine inv.enter ?_ (fun same => by cases same) fun same => by cases same
    intro _ other rest isTodo
    obtain rfl := List.head_eq_of_cons_eq (todo.symm.trans isTodo)
    exact ⟨attrs, there, own⟩
  | @fine current later attrs todo there own isPrivate =>
    exact inv.pass todo ⟨_, there, Or.inr ⟨attrs, rfl, own, isPrivate⟩⟩
  | @resolved current later attrs phase todo inside =>
    obtain ⟨entry, there, system⟩ := inv.resolving phase current later todo
    unfold SharedTree.inside at inside
    rw [there, Option.bind_some] at inside
    exact inv.pass todo ⟨entry, there, Or.inl ⟨system, attrs, inside⟩⟩

omit inv in
/-- What holds between two calls holds after any action, of the process or of anybody. -/
theorem step {action : SecureDirAction} (notRoot : uid ≠ 0)
    (inv : SecureDirInv uid isTrusted path state)
    (stepped : state.step uid umask action = some next) : SecureDirInv uid isTrusted path next := by
  cases action with
  | advance => exact inv.move notRoot (advance_moves stepped)
  | fault =>
    simp only [SecureDirState.step] at stepped
    split at stepped
    · cases stepped
    · cases stepped
      exact inv.fail .system
  | user user action =>
    simp only [SecureDirState.step] at stepped
    split_ifs at stepped with stranger
    obtain ⟨tree, acted, rfl⟩ := Option.map_eq_some_iff.mp stepped
    exact inv.user stranger.1 stranger.2 acted

/-- When the process is through, every directory is done. -/
theorem all_done (ended : state.call.phase = .finished (.ok ())) :
    state.call.done = secureDirs isTrusted path.reverse := by
  rw [inv.split, inv.finished ended, List.append_nil]

/-- Nobody else puts anything into a directory that was found private, or takes anything out of it. -/
theorem closed {user : Nat} {action : UserAction Text} {tree : SharedTree Text} {dir : DirPath}
    {attrs : DirAttrs} (notSystem : user ≠ 0) (notOwner : user ≠ uid) (among : dir ∈ state.call.done)
    (there : state.tree dir = some (.directory attrs)) (own : attrs.owner = uid)
    (isPrivate : attrs.Private) (acted : state.tree.act user action = some tree) (name : Text) :
    (state.tree (dir ++ [name]) = none → tree (dir ++ [name]) = none) ∧
      (state.tree (dir ++ [name]) = some (.other uid) →
        tree (dir ++ [name]) = some (.other uid)) := by
  -- All that leads to the directory is held, and the directory itself is closed.
  have held : ∀ other, other <+: dir → Held uid state.tree other := by
    intro other above
    by_cases whole : other = dir
    · rw [whole]
      exact (inv.done dir among).held inv.managed
    · exact inv.held_done among other above whole
  refine ⟨fun absent => ?_, fun mine => ?_⟩
  · have inside : state.tree.inside dir = some attrs := by
      unfold SharedTree.inside
      rw [there]
      rfl
    have shut : canWrite user attrs = false := by
      unfold canWrite
      rw [decide_eq_false_iff_not]
      rintro (same | writable)
      · exact notOwner (same.symm.trans own)
      · exact isPrivate.not_othersWrite writable
    exact act_keeps_absent notSystem notOwner held inside shut absent acted
  · refine act_keeps notSystem notOwner (fun other above notWhole => ?_) mine (Or.inr rfl)
      (fun attrs behind => by cases behind) acted
    rcases List.prefix_concat_iff.mp above with whole | shorter
    · exact absurd whole notWhole
    · exact held other shorter

end SecureDirInv

/-- A call of the process changes nothing but directories of the user's own, on the way it goes. -/
theorem SecureDirMove.changes {other : DirPath} (inv : SecureDirInv uid isTrusted path state)
    (moved : SecureDirMove uid umask state next) (changed : next.tree other ≠ state.tree other) :
    other ∈ secureDirs isTrusted path.reverse ∧
      (state.tree other = none ∨
        ∃ attrs : DirAttrs, state.tree other = some (.directory attrs) ∧ attrs.owner = uid) ∧
      ∃ attrs : DirAttrs, next.tree other = some (.directory attrs) ∧ attrs.owner = uid := by
  have onWay : ∀ {current later}, state.call.todo = current :: later →
      current ∈ secureDirs isTrusted path.reverse := by
    intro current later todo
    rw [inv.split, todo]
    exact List.mem_append_right _ (List.mem_cons_self ..)
  cases moved with
  | allDone | found | failed | systems | loose | fine | resolved => exact absurd rfl changed
  | @made current later todo absent =>
    obtain rfl : other = current :=
      not_not.mp fun elsewhere => changed (Function.update_of_ne elsewhere ..)
    exact ⟨onWay todo, Or.inl absent, _, Function.update_self .., rfl⟩
  | @tightened current later phase todo =>
    obtain rfl : other = current :=
      not_not.mp fun elsewhere => changed (Function.update_of_ne elsewhere ..)
    obtain ⟨attrs, there, own⟩ := inv.tightening phase other later todo
    refine ⟨onWay todo, Or.inr ⟨attrs, there, own⟩, { attrs with mode := 0o700 }, ?_, own⟩
    show state.tree.withMode other 0o700 other = _
    unfold SharedTree.withMode
    rw [Function.update_self, there]
    rfl

end

/-- What a user gets who has a directory made for sockets. -/
structure MakesSecure (uid umask : Nat) (isTrusted : DirPath → Bool) (path : DirPath)
    (tree : SharedTree Text) : Prop where
  /-- After a success, and ever after it, all that was made or checked may be used. -/
  accepted : ∀ actions state,
    (secureCreateDirAll uid umask isTrusted path tree).run
      (secureCreateDirAll uid umask isTrusted path tree).init actions = some state →
    state.call.phase = .finished (.ok ()) → ∀ dir ∈ secureDirs isTrusted path.reverse,
      AcceptedDir uid state.tree dir
  /-- Nothing can be planted in a directory of one's own any more, and no socket replaced in it. -/
  closed : ∀ actions state user action next,
    (secureCreateDirAll uid umask isTrusted path tree).run
      (secureCreateDirAll uid umask isTrusted path tree).init actions = some state →
    state.call.phase = .finished (.ok ()) →
    state.step uid umask (.user user action) = some next →
    ∀ dir ∈ secureDirs isTrusted path.reverse, ∀ attrs : DirAttrs,
      state.tree dir = some (.directory attrs) → attrs.owner = uid → ∀ name,
        (state.tree (dir ++ [name]) = none → next.tree (dir ++ [name]) = none) ∧
        (state.tree (dir ++ [name]) = some (.other uid) →
          next.tree (dir ++ [name]) = some (.other uid))
  /-- On the way nothing is changed but directories of one's own, and none of them through a link in its place. -/
  own : ∀ actions state next,
    (secureCreateDirAll uid umask isTrusted path tree).run
      (secureCreateDirAll uid umask isTrusted path tree).init actions = some state →
    state.step uid umask .advance = some next → ∀ other, next.tree other ≠ state.tree other →
      other ∈ secureDirs isTrusted path.reverse ∧
      (state.tree other = none ∨
        ∃ attrs : DirAttrs, state.tree other = some (.directory attrs) ∧ attrs.owner = uid) ∧
      ∃ attrs : DirAttrs, next.tree other = some (.directory attrs) ∧ attrs.owner = uid

/-- Between any two of its calls other users may do whatever the modes let them: a directory that was
made or accepted stays its user's alone, and nothing of theirs is ever changed for them. -/
theorem makesSecure {uid umask : Nat} {isTrusted : DirPath → Bool} {path : DirPath}
    {tree : SharedTree Text} (notRoot : uid ≠ 0) (managed : Managed tree)
    (roots : ∀ other, AboveRoot isTrusted path other → Held uid tree other) :
    MakesSecure uid umask isTrusted path tree := by
  have init : SecureDirInv uid isTrusted path
      (secureCreateDirAll uid umask isTrusted path tree).init :=
    { split := rfl
      managed
      roots
      done := fun dir among => absurd among (List.not_mem_nil)
      tightening := fun phase => by cases phase
      resolving := fun phase => by cases phase
      finished := fun phase => by cases phase }
  have reached : ∀ {actions state},
      (secureCreateDirAll uid umask isTrusted path tree).run
        (secureCreateDirAll uid umask isTrusted path tree).init actions = some state →
      SecureDirInv uid isTrusted path state := by
    intro actions state ran
    refine Machine.run_invariant (fun before action after inv stepped => ?_) init ran
    have stepped' : before.step uid umask action = some after := stepped
    exact inv.step notRoot stepped'
  refine ⟨?_, ?_, ?_⟩
  · intro actions state ran ended dir among
    have inv := reached ran
    rw [← inv.all_done ended] at among
    exact inv.done dir among
  · intro actions state user action next ran ended stepped dir among attrs there own
    have inv := reached ran
    rw [← inv.all_done ended] at among
    simp only [SecureDirState.step] at stepped
    split_ifs at stepped with stranger
    obtain ⟨after, acted, rfl⟩ := Option.map_eq_some_iff.mp stepped
    -- A directory of one's own was accepted only if it was private.
    have isPrivate : attrs.Private := by
      obtain ⟨entry, found, ⟨system, -⟩ | ⟨found', rfl, -, isPrivate⟩⟩ := inv.done dir among
      · obtain rfl := Option.some.inj (there.symm.trans found)
        exact absurd (own.symm.trans system) notRoot
      · cases Option.some.inj (there.symm.trans found)
        exact isPrivate
    exact inv.closed stranger.1 stranger.2 among there own isPrivate acted
  · intro actions state next ran stepped other changed
    exact SecureDirMove.changes (reached ran) (advance_moves stepped) changed

/-- The root of a file system with a directory for everybody's files. -/
def sharedTmp : SharedTree Text := fun path =>
  if path = [] then some (.directory { owner := 0, mode := 0o755 })
  else if path = ["tmp".toList] then some (.directory { owner := 0, mode := 0o1777 })
  else none

/-- The directory is made there, unless somebody is in the way. -/
example :
    let machine := secureCreateDirAll 1000 0o022 (isTrustedRoot none none)
      ["tmp".toList, "gritty-1000".toList] sharedTmp
    (machine.run machine.init [.advance, .advance, .advance]).map
      (fun state => state.call.phase matches .finished (.ok ())) = some true := rfl

/-- What there is in a shared temporary directory. -/
theorem sharedTmp_cases {path : DirPath} {entry : TreeEntry} (there : sharedTmp path = some entry) :
    entry = .directory { owner := 0, mode := 0o755 } ∨
      entry = .directory { owner := 0, mode := 0o1777 } := by
  unfold sharedTmp at there
  split_ifs at there
  · exact Or.inl (Option.some.inj there).symm
  · exact Or.inr (Option.some.inj there).symm

/-- A directory below the shared temporary one is made secure. -/
theorem makesSecure_tmp : MakesSecure 1000 0o022 (isTrustedRoot none none)
    ["tmp".toList, "gritty-1000".toList] sharedTmp := by
  refine makesSecure (by decide) ?_ ?_
  · intro path entry there system attrs behind
    rcases sharedTmp_cases there with rfl | rfl
    · cases behind
      exact ⟨rfl, by decide⟩
    · cases behind
      exact ⟨rfl, by decide⟩
  · rintro other ⟨base, isRoot, above, onWay⟩
    -- The trusted roots on the way are the root and the directory for everybody.
    have short : base = [] ∨ base = ["tmp".toList] := by
      have onWay' : base <+: ["tmp".toList] ++ ["gritty-1000".toList] := onWay
      rcases List.prefix_concat_iff.mp onWay' with rfl | shorter
      · exact absurd isRoot (by decide)
      · have shorter' : base <+: [] ++ ["tmp".toList] := shorter
        rcases List.prefix_concat_iff.mp shorter' with rfl | none_
        · exact Or.inr rfl
        · exact Or.inl (List.prefix_nil.mp none_)
    have among : other = [] ∨ other = ["tmp".toList] := by
      rcases short with rfl | rfl
      · exact Or.inl (List.prefix_nil.mp above)
      · have above' : other <+: [] ++ ["tmp".toList] := above
        rcases List.prefix_concat_iff.mp above' with rfl | none_
        · exact Or.inr rfl
        · exact Or.inl (List.prefix_nil.mp none_)
    rcases among with rfl | rfl
    · exact ⟨_, _, rfl, rfl, Or.inl rfl, Or.inl rfl, by decide⟩
    · exact ⟨_, _, rfl, rfl, Or.inl rfl, Or.inl rfl, by decide⟩

end Gritty
