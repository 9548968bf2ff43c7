import Gritty.Daemon.SoleHolder

/-! When a stopping daemon removes its own files only. -/

namespace Gritty

/-- The registration file that a daemon is about to remove. -/
def DaemonStage.removes : DaemonStage → Option DirFile
  | .removingCtl => some .ctl
  | .removingPid => some .pid
  | .removingInfo => some .info
  | _ => none

namespace SocketDir

/-- Whatever a stopping daemon has removed was its own. -/
def SparesOthers (dir : SocketDir) : Prop :=
  ∀ removal ∈ dir.removals, removal.author = removal.daemon

/--
A stopping daemon removes the registration only if nobody else had bound the control socket when it
last did, or has since, and it removes a session's socket only if no other daemon's session of the
same number listens on one of that name.
-/
def StopsAlone (dir : SocketDir) : SocketDirAction → Prop
  | .advance daemon => (dir.daemons daemon).stage.removes.isSome = true → dir.sole = some daemon
  | .advanceTask daemon id =>
    (dir.daemons daemon).stage.stopping = true →
      ∀ task ∈ (dir.daemons daemon).sessions.lookup id, ∀ name ∈ task.removes id,
        ∀ other, other ≠ daemon → ∀ task ∈ (dir.daemons other).sessions.lookup id,
          task.holds name = false
  | _ => True

section Spared

variable {dir next : SocketDir} {daemon id : Nat}

/-- What holds along every run in which daemons stop alone. -/
structure Attributed (dir : SocketDir) : Prop where
  spares : dir.SparesOthers
  sockets : dir.SocketsHeld
  numbered : dir.Numbered
  registered : dir.Registered

/-- A removal spares others where the daemon is not stopping, or the file is its own. -/
theorem SparesOthers.remove {name : DirFile} (spares : dir.SparesOthers)
    (own : (dir.daemons daemon).stage.stopping = true →
      ∀ file ∈ dir.disk name, file.author = daemon) :
    (dir.remove daemon name).SparesOthers := by
  unfold SocketDir.remove
  split
  · next file present =>
    split
    · next stopping =>
      intro removal among
      rcases List.mem_append.mp among with older | newest
      · exact spares removal older
      · rw [List.mem_singleton.mp newest]
        exact own stopping file present
    · exact spares
  · exact spares

theorem SparesOthers.exit (spares : dir.SparesOthers) : (dir.exit daemon).SparesOthers := by
  have same : (dir.exit daemon).removals = dir.removals := by
    simp [SocketDir.exit, moveTo, SocketDir.update]
  exact fun removal among => spares removal (same ▸ among)

theorem SparesOthers.giveUp {recovering : Bool} (spares : dir.SparesOthers) :
    (dir.giveUp daemon recovering).SparesOthers := by
  unfold SocketDir.giveUp
  split
  · intro removal among
    refine spares removal ?_
    simpa [moveTo, SocketDir.update] using among
  · exact spares.exit

/-- The registration that a daemon removes alone is its own. -/
theorem Registered.own {name : DirFile} (registered : dir.Registered)
    (removes : (dir.daemons daemon).stage.removes = some name) (sole : dir.sole = some daemon) :
    ∀ file ∈ dir.disk name, file.author = daemon := by
  intro file present
  cases stage : (dir.daemons daemon).stage with
  | removingCtl =>
    rw [stage] at removes
    cases removes
    exact registered.ctl file present daemon sole
  | removingPid =>
    rw [stage] at removes
    cases removes
    exact registered.pid file present daemon sole (by rw [stage]; rfl)
  | removingInfo =>
    rw [stage] at removes
    cases removes
    exact registered.info file present daemon sole (by rw [stage]; rfl)
  | _ =>
    rw [stage] at removes
    cases removes

/-- Every stage of a daemon keeps the files attributed, as long as it stops alone. -/
theorem Attributed.advance {stage : DaemonStage} (attributed : dir.Attributed)
    (current : (dir.daemons daemon).stage = stage)
    (alone : stage.removes.isSome = true → dir.sole = some daemon)
    (stepped : dir.advance daemon stage = some next) : next.Attributed := by
  have same := SameSessions.advance stepped
  refine ⟨?_, attributed.sockets.same same, attributed.numbered.same same,
    attributed.registered.advance current stepped⟩
  have spares := attributed.spares
  have removed (name : DirFile) (removes : stage.removes = some name) :
      (dir.remove daemon name).SparesOthers :=
    spares.remove fun _ => attributed.registered.own (current ▸ removes)
      (alone (by rw [removes]; rfl))
  cases stage with
  | bindingCtl recovering stage =>
    cases stepped
    unfold SocketDir.bindCtl
    cases dir.bindNext .ctl stage with
    | failed => exact spares.giveUp
    | _ => exact spares
  | identifying recovering bound =>
    simp only [SocketDir.advance, Option.some.injEq] at stepped
    subst stepped
    unfold identify
    split
    · intro removal among
      refine spares removal ?_
      simpa [SocketDir.update] using among
    · exact spares.giveUp
  | writingPid why =>
    cases stepped
    exact fun removal among => spares removal (write_removals dir daemon .pid ▸ among)
  | writingInfo why =>
    cases stepped
    exact fun removal among => spares removal (write_removals dir daemon .info ▸ among)
  | checking =>
    simp only [SocketDir.advance, Option.some.injEq] at stepped
    subst stepped
    unfold ensureRegistration
    split <;> exact spares
  | draining lost =>
    cases stepped
    exact spares
  | removingCtl =>
    cases stepped
    exact removed .ctl rfl
  | removingPid =>
    cases stepped
    exact removed .pid rfl
  | removingInfo =>
    cases stepped
    exact removed .info rfl
  | leaving =>
    simp only [SocketDir.advance, Option.ite_none_right_eq_some, Option.some.injEq] at stepped
    obtain ⟨-, rfl⟩ := stepped
    exact spares.exit
  | absent => cases stepped
  | running => cases stepped
  | gone => cases stepped

/-- A socket that no other daemon's session listens on is the daemon's own. -/
theorem SocketsHeld.own {name : DirFile} (sockets : dir.SocketsHeld)
    (session : name.session = some id)
    (alone : ∀ other, other ≠ daemon → ∀ task ∈ (dir.daemons other).sessions.lookup id,
      task.holds name = false) :
    ∀ file ∈ dir.disk name, file.author = daemon := by
  intro file present
  obtain ⟨task, look, holds⟩ := sockets name id file session present
  by_contra other
  exact absurd ((alone file.author other task look).symm.trans holds) (by decide)

/-- Every stage of a session's task keeps the files attributed, as long as its daemon stops alone. -/
theorem Attributed.advanceTask {task : SocketTask} (attributed : dir.Attributed)
    (current : (dir.daemons daemon).sessions.lookup id = some task)
    (alone : (dir.daemons daemon).stage.stopping = true → ∀ name ∈ task.removes id,
      ∀ other, other ≠ daemon → ∀ task ∈ (dir.daemons other).sessions.lookup id,
        task.holds name = false)
    (stepped : dir.advanceTask daemon id task = some next) : next.Attributed := by
  refine ⟨?_, attributed.sockets.advanceTask current stepped,
    attributed.numbered.advanceTask current stepped,
    attributed.registered.same (.advanceTask stepped)⟩
  have spares := attributed.spares
  have removed (name : DirFile) (socket : Option Nat) (session : name.session = some id)
      (removes : task.removes id = some name) :
      ((dir.remove daemon name).close socket).SparesOthers := by
    have own : (dir.remove daemon name).SparesOthers := spares.remove fun stopping =>
      attributed.sockets.own session (alone stopping name removes)
    exact fun removal among => own removal (close_removals _ socket ▸ among)
  have bound {name : DirFile} {stage : BindStage} {during : BindStage → SocketTask}
      {after : Option Nat → SocketTask} :
      (dir.bindTask daemon id name stage during after).SparesOthers := by
    unfold SocketDir.bindTask
    cases dir.bindNext name stage with
    | failed => exact fun removal among => spares removal (close_removals dir _ ▸ among)
    | _ => exact spares
  cases task with
  | spawned =>
    cases stepped
    exact spares
  | bindingSvc stage =>
    cases stepped
    exact bound
  | serving svc agent => cases stepped
  | bindingAgent svc stage =>
    cases stepped
    exact bound
  | disabling svc agent =>
    cases stepped
    exact removed (.agent id) agent rfl rfl
  | droppingSvc svc agent =>
    cases stepped
    exact removed (.svc id) svc rfl rfl
  | droppingAgent agent =>
    cases stepped
    exact removed (.agent id) agent rfl rfl

/-- A session that changes its stage without touching its sockets. -/
theorem Attributed.retask {task new : SocketTask} (attributed : dir.Attributed)
    (current : (dir.daemons daemon).sessions.lookup id = some task)
    (same : ∀ name, task.holds name = new.holds name) :
    (dir.setTask daemon id new).Attributed where
  spares := attributed.spares
  sockets := attributed.sockets.setTask rfl current (fun _ _ present => Or.inl present)
    fun name _ _ holds => same name ▸ holds
  numbered := attributed.numbered.setTask rfl (by rw [current]; rfl)
  registered := attributed.registered.same (.update rfl)

/-- A daemon that goes on without touching a file. -/
theorem Attributed.restage {old stage : DaemonStage} (attributed : dir.Attributed)
    (current : (dir.daemons daemon).stage = old)
    (held : stage.holding = true → old.holding = true)
    (pid : stage.hasWrittenPid = true → old.hasWrittenPid = true)
    (info : stage.hasWrittenInfo = true → old.hasWrittenInfo = true) :
    (dir.moveTo daemon stage).Attributed where
  spares := attributed.spares
  sockets := attributed.sockets.same (.moveTo dir daemon stage)
  numbered := attributed.numbered.same (.moveTo dir daemon stage)
  registered := attributed.registered.keep current held pid info

/-- A file that somebody else takes off the disk leaves the others attributed. -/
theorem Attributed.wipe (attributed : dir.Attributed) (name : DirFile) :
    (dir.unlink name).Attributed where
  spares := attributed.spares
  sockets := by
    intro other id file session present
    refine attributed.sockets other id file session ?_
    by_cases it : other = name
    · simp [unlink, it] at present
    · simpa [unlink, it] using present
  numbered := attributed.numbered
  registered := attributed.registered.same (.unlink dir name)

theorem Attributed.exit (attributed : dir.Attributed) : (dir.exit daemon).Attributed where
  spares := attributed.spares.exit
  sockets := attributed.sockets.same (.exit dir daemon)
  numbered := attributed.numbered.same (.exit dir daemon)
  registered := attributed.registered.exit daemon

/-- A new session has a number that no session had before. -/
theorem Attributed.newSession (attributed : dir.Attributed) :
    (dir.update daemon
      { dir.daemons daemon with
        sessions := (dir.daemons daemon).sessions.insert (dir.daemons daemon).nextId .spawned
        nextId := (dir.daemons daemon).nextId + 1 }).Attributed where
  spares := attributed.spares
  sockets := by
    intro name id file session present
    obtain ⟨task, look, holds⟩ := attributed.sockets name id file session present
    refine ⟨task, ?_, holds⟩
    by_cases it : file.author = daemon
    · have fresh := attributed.numbered file.author id (by rw [look]; rfl)
      rw [it] at look fresh ⊢
      rw [update_daemons_self, AList.lookup_insert_ne (Nat.ne_of_lt fresh), look]
    · rw [update_daemons_of_ne dir daemon _ it, look]
  numbered := by
    intro other id there
    by_cases it : other = daemon
    · rw [it, update_daemons_self] at there ⊢
      rw [isSome_lookup_insert, Bool.or_eq_true, decide_eq_true_eq] at there
      rcases there with rfl | older
      · exact Nat.lt_succ_self _
      · exact Nat.lt_succ_of_lt (attributed.numbered daemon id older)
    · rw [update_daemons_of_ne dir daemon _ it] at there ⊢
      exact attributed.numbered other id there
  registered := attributed.registered.same (.update rfl)

/-- A step in which daemons stop alone keeps everything attributed. -/
theorem Attributed.step {action : SocketDirAction} (attributed : dir.Attributed)
    (alone : dir.StopsAlone action) (stepped : dir.step action = some next) :
    next.Attributed := by
  cases action with
  | wipe name =>
    cases stepped
    exact attributed.wipe name
  | start daemon =>
    simp only [SocketDir.step] at stepped
    split at stepped
    · next absent =>
      cases stepped
      exact attributed.restage absent id id id
    · cases stepped
  | advance daemon => exact attributed.advance rfl alone stepped
  | selfCheck daemon =>
    simp only [SocketDir.step] at stepped
    split at stepped
    · next running =>
      cases stepped
      unfold checkSocket
      split
      · split
        · exact attributed.restage running (fun _ => rfl) (fun _ => rfl) (fun _ => rfl)
        · exact attributed.restage running (fun _ => rfl) (fun _ => rfl) (fun _ => rfl)
      · exact attributed.restage running (fun _ => rfl) (fun _ => rfl) (fun _ => rfl)
    · cases stepped
  | shutdown daemon =>
    simp only [SocketDir.step] at stepped
    split at stepped
    · cases stepped
      exact attributed.exit
    · split at stepped
      · next running =>
        cases stepped
        exact attributed.restage running (fun _ => rfl) (fun _ => rfl) (fun _ => rfl)
      · cases stepped
  | newSession daemon =>
    simp only [SocketDir.step] at stepped
    split at stepped
    · cases stepped
      exact attributed.newSession
    · cases stepped
  | advanceTask daemon id =>
    simp only [SocketDir.step] at stepped
    split at stepped
    · next task current =>
      exact attributed.advanceTask current (fun stopping => alone stopping task current) stepped
    · cases stepped
  | enableAgent daemon id =>
    simp only [SocketDir.step] at stepped
    split at stepped
    · next current =>
      cases stepped
      exact attributed.retask current fun name => by cases name <;> rfl
    · cases stepped
  | disableAgent daemon id =>
    simp only [SocketDir.step] at stepped
    split at stepped
    · next current =>
      cases stepped
      exact attributed.retask current fun name => by cases name <;> rfl
    · cases stepped
  | endSession daemon id =>
    simp only [SocketDir.step] at stepped
    split at stepped
    · next current =>
      -- A task that was never started has no guards to run.
      cases stepped
      refine ⟨attributed.spares, ?_, attributed.numbered.dropTask rfl,
        attributed.registered.same (.update rfl)⟩
      refine attributed.sockets.dropTask rfl current (fun _ _ present => present) ?_
      intro name _ holds
      cases name <;> exact absurd holds Bool.false_ne_true
    · next current =>
      cases stepped
      exact attributed.retask current fun name => by cases name <;> rfl
    · cases stepped

/-- An empty directory has nothing to attribute. -/
theorem Attributed.new : SocketDir.new.Attributed where
  spares := fun _ among => absurd among List.not_mem_nil
  sockets := fun _ _ _ _ present => absurd present (by simp [SocketDir.new])
  numbered := fun _ _ there => absurd there (by simp [SocketDir.new, DaemonRun.new])
  registered :=
    { ctl := by simp [SocketDir.new]
      pid := by simp [SocketDir.new]
      info := by simp [SocketDir.new]
      held := fun _ holding => absurd holding Bool.false_ne_true
      alone := by simp [SocketDir.new] }

end Spared

end SocketDir

/-! ### Runs -/

/-- A daemon starts and registers itself. -/
def startUp (daemon : Nat) : List SocketDirAction :=
  .start daemon :: List.replicate 5 (.advance daemon)

/-- A daemon that is told to shut down removes the socket that a newer one has bound. -/
theorem newer_socket_removed :
    ¬ ∀ actions, socketDir.Along SocketDir.SparesOthers socketDir.init actions := by
  intro all
  have removed : (socketDir.run socketDir.init
      (startUp 0 ++ .wipe .ctl :: startUp 1 ++ [.shutdown 0, .advance 0, .advance 0])).any
        (fun last => last.removals.any fun removal => removal.author ≠ removal.daemon) = true := by
    decide +kernel
  obtain ⟨last, ran, other⟩ := (Option.any_eq_true _ _).mp removed
  obtain ⟨removal, among, different⟩ := List.any_eq_true.mp other
  exact absurd ((all _).last ran removal among) (of_decide_eq_true different)

/-- Daemons that stop alone remove no other daemon's files. -/
theorem sparesOthers_along {actions : List SocketDirAction}
    (alone : socketDir.Meets SocketDir.StopsAlone socketDir.init actions) :
    socketDir.Along SocketDir.SparesOthers socketDir.init actions := by
  have kept : ∀ (dir : SocketDir) (action : SocketDirAction) (next : SocketDir),
      dir.Attributed → dir.StopsAlone action → socketDir.step dir action = some next →
        next.Attributed :=
    fun _ _ _ attributed alone stepped => attributed.step alone stepped
  exact Machine.along_of_meets (fun _ attributed => attributed.spares) kept
    SocketDir.Attributed.new alone

/-- A session of a daemon comes to serve. -/
def serveSession (daemon : Nat) : List SocketDirAction :=
  .newSession daemon :: List.replicate 3 (.advanceTask daemon 0)

/-- The session of a daemon ends. -/
def finishSession (daemon : Nat) : List SocketDirAction :=
  .endSession daemon 0 :: List.replicate 2 (.advanceTask daemon 0)

/-- A daemon loses its socket to a second one and leaves. That one has a session of the same number,
binds its socket again when that is gone, too, and is told to shut down. -/
def secondDaemon : List SocketDirAction :=
  startUp 0 ++ serveSession 0 ++ .wipe .ctl :: startUp 1 ++
    .selfCheck 0 :: List.replicate 2 (.advance 0) ++ finishSession 0 ++
    List.replicate 2 (.advance 0) ++ serveSession 1 ++
    .wipe .ctl :: .selfCheck 1 :: List.replicate 5 (.advance 1) ++
    .shutdown 1 :: finishSession 1 ++ List.replicate 5 (.advance 1)

/-- The second daemon of the run below is alone when it stops. -/
theorem meets_secondDaemon :
    socketDir.Meets SocketDir.StopsAlone socketDir.init secondDaemon := by
  have alone {dir : SocketDir} {daemon id : Nat}
      (others : ∀ other, other ≠ daemon → (dir.daemons other).sessions.lookup id = none) :
      dir.StopsAlone (.advanceTask daemon id) := by
    intro _ task _ name _ other different task' look
    rw [others other different] at look
    cases look
  have first {dir : SocketDir} (second : (dir.daemons 1).sessions.lookup 0 = none)
      (others : ∀ other, (dir.daemons (other + 2)).sessions.lookup 0 = none) :
      dir.StopsAlone (.advanceTask 0 0) :=
    alone fun
      | 0, same => absurd rfl same
      | 1, _ => second
      | other + 2, _ => others other
  have second {dir : SocketDir} (first : (dir.daemons 0).sessions.lookup 0 = none)
      (others : ∀ other, (dir.daemons (other + 2)).sessions.lookup 0 = none) :
      dir.StopsAlone (.advanceTask 1 0) :=
    alone fun
      | 0, _ => first
      | 1, same => absurd rfl same
      | other + 2, _ => others other
  have fitting {dir : SocketDir} {daemon : Nat}
      (removes : (dir.daemons daemon).stage.removes.isSome = false ∨ dir.sole = some daemon) :
      dir.StopsAlone (.advance daemon) := by
    intro removing
    rcases removes with nothing | sole
    · exact absurd (nothing.symm.trans removing) (by decide)
    · exact sole
  have on {dir next : SocketDir} {action : SocketDirAction} {later : List SocketDirAction}
      (met : dir.StopsAlone action) (stepped : socketDir.step dir action = some next)
      (after : socketDir.Meets SocketDir.StopsAlone next later) :
      socketDir.Meets SocketDir.StopsAlone dir (action :: later) :=
    Machine.meets_cons met stepped after
  -- The first one starts and serves a session.
  refine on trivial rfl ?_
  iterate 5 refine on (fitting (Or.inl rfl)) rfl ?_
  refine on trivial rfl ?_
  iterate 3 refine on (first rfl fun _ => rfl) rfl ?_
  -- Its socket is deleted, and the second one starts.
  iterate 2 refine on trivial rfl ?_
  iterate 5 refine on (fitting (Or.inl rfl)) rfl ?_
  -- The first one finds its socket lost, lets its session end, and leaves.
  refine on trivial rfl ?_
  iterate 2 refine on (fitting (Or.inl rfl)) rfl ?_
  refine on trivial rfl ?_
  iterate 2 refine on (first rfl fun _ => rfl) rfl ?_
  iterate 2 refine on (fitting (Or.inl rfl)) rfl ?_
  -- The second one serves a session of the same number, and binds its socket again.
  refine on trivial rfl ?_
  iterate 3 refine on (second rfl fun _ => rfl) rfl ?_
  iterate 2 refine on trivial rfl ?_
  iterate 5 refine on (fitting (Or.inl rfl)) rfl ?_
  -- It is told to stop, lets the session end, and takes its registration away.
  iterate 2 refine on trivial rfl ?_
  iterate 2 refine on (second rfl fun _ => rfl) rfl ?_
  refine on (fitting (Or.inl rfl)) rfl ?_
  iterate 3 refine on (fitting (Or.inr rfl)) rfl ?_
  exact on (fitting (Or.inl rfl)) rfl trivial

theorem sparesOthers_along_secondDaemon :
    socketDir.Along SocketDir.SparesOthers socketDir.init secondDaemon :=
  sparesOthers_along meets_secondDaemon

end Gritty
