import Gritty.Daemon.SocketFiles

/-! Each session's socket on disk belongs to a session that listens on it. -/

namespace Gritty

/-- The session that a socket belongs to. -/
def DirFile.session : DirFile → Option Nat
  | .svc id | .agent id => some id
  | .ctl | .pid | .info => none

/-- A session's file is its service socket or its agent socket. -/
theorem DirFile.session_eq {name : DirFile} {id : Nat} (session : name.session = some id) :
    name = .svc id ∨ name = .agent id := by
  cases name with
  | svc other => exact Or.inl (congrArg DirFile.svc (Option.some.inj session))
  | agent other => exact Or.inr (congrArg DirFile.agent (Option.some.inj session))
  | ctl => cases session
  | pid => cases session
  | info => cases session

namespace SocketTask

/-- The session listens on the socket of this name. -/
def holds (task : SocketTask) : DirFile → Bool
  | .svc _ => task.svc.isSome
  | .agent _ => task.agent.isSome
  | .ctl | .pid | .info => false

/-- The socket that a session is about to remove. -/
def removes (id : Nat) : SocketTask → Option DirFile
  | .droppingSvc _ _ => some (.svc id)
  | .disabling _ _ | .droppingAgent _ => some (.agent id)
  | .spawned | .bindingSvc _ | .serving _ _ | .bindingAgent _ _ => none

end SocketTask

namespace SocketDir

/-- A session's socket on disk is one that a session of its author listens on. -/
def SocketsHeld (dir : SocketDir) : Prop :=
  ∀ name id file, name.session = some id → dir.disk name = some file →
    ∃ task, (dir.daemons file.author).sessions.lookup id = some task ∧ task.holds name = true

/-- The numbers of the sessions are given out in turn. -/
def Numbered (dir : SocketDir) : Prop :=
  ∀ daemon id, ((dir.daemons daemon).sessions.lookup id).isSome = true →
    id < (dir.daemons daemon).nextId

/-! ### What the operations leave alone -/

section Fields

variable (dir : SocketDir) (daemon : Nat) (name : DirFile)

@[simp] theorem close_disk (socket : Option Nat) : (dir.close socket).disk = dir.disk := by
  cases socket <;> rfl

@[simp] theorem close_daemons (socket : Option Nat) :
    (dir.close socket).daemons = dir.daemons := by
  cases socket <;> rfl

@[simp] theorem close_holders (socket : Option Nat) :
    (dir.close socket).holders = dir.holders := by
  cases socket <;> rfl

@[simp] theorem close_sole (socket : Option Nat) : (dir.close socket).sole = dir.sole := by
  cases socket <;> rfl

@[simp] theorem close_removals (socket : Option Nat) :
    (dir.close socket).removals = dir.removals := by
  cases socket <;> rfl

@[simp] theorem remove_disk :
    (dir.remove daemon name).disk = Function.update dir.disk name none := by
  unfold remove
  cases there : dir.disk name with
  | some file => dsimp only; split <;> rfl
  | none => exact (Function.update_eq_self_iff.mpr there.symm).symm

@[simp] theorem remove_daemons : (dir.remove daemon name).daemons = dir.daemons := by
  unfold remove
  split
  · split <;> rfl
  · rfl

@[simp] theorem remove_holders : (dir.remove daemon name).holders = dir.holders := by
  unfold remove
  split
  · split <;> rfl
  · rfl

@[simp] theorem remove_sole : (dir.remove daemon name).sole = dir.sole := by
  unfold remove
  split
  · split <;> rfl
  · rfl

@[simp] theorem write_daemons : (dir.write daemon name).daemons = dir.daemons := by
  unfold write
  split <;> rfl

@[simp] theorem write_holders : (dir.write daemon name).holders = dir.holders := by
  unfold write
  split <;> rfl

@[simp] theorem write_sole : (dir.write daemon name).sole = dir.sole := by
  unfold write
  split <;> rfl

@[simp] theorem write_removals : (dir.write daemon name).removals = dir.removals := by
  unfold write
  split <;> rfl

@[simp] theorem update_daemons_self (process : DaemonRun) :
    (dir.update daemon process).daemons daemon = process := by
  simp [SocketDir.update]

theorem update_daemons_of_ne {other : Nat} (process : DaemonRun) (different : other ≠ daemon) :
    (dir.update daemon process).daemons other = dir.daemons other := by
  simp [SocketDir.update, different]

/-- What is written is the writer's. -/
theorem write_disk : ∃ file : WrittenFile, file.author = daemon ∧
    (dir.write daemon name).disk = Function.update dir.disk name (some file) := by
  unfold write
  split
  · next file _ => exact ⟨{ file with author := daemon }, rfl, rfl⟩
  · exact ⟨⟨dir.inodes, daemon⟩, rfl, rfl⟩

end Fields

/-! ### The sockets of the sessions -/

/-- Neither a session nor a session's socket has changed. -/
structure SameSessions (dir next : SocketDir) : Prop where
  tasks : ∀ daemon, (next.daemons daemon).sessions = (dir.daemons daemon).sessions
  ids : ∀ daemon, (next.daemons daemon).nextId = (dir.daemons daemon).nextId
  disk : ∀ name id, name.session = some id → next.disk name = dir.disk name

namespace SameSessions

variable {dir middle next : SocketDir}

/-- What leaves the sessions alone does so step after step. -/
theorem trans (first : SameSessions dir middle) (second : SameSessions middle next) :
    SameSessions dir next where
  tasks daemon := (second.tasks daemon).trans (first.tasks daemon)
  ids daemon := (second.ids daemon).trans (first.ids daemon)
  disk name id session := (second.disk name id session).trans (first.disk name id session)

/-- A change of a daemon that leaves its own sessions and numbers leaves all sessions alone. -/
theorem update (dir : SocketDir) {daemon : Nat} {process : DaemonRun}
    (same : process.sessions = (dir.daemons daemon).sessions)
    (ids : process.nextId = (dir.daemons daemon).nextId) :
    SameSessions dir (dir.update daemon process) where
  tasks other := by
    by_cases it : other = daemon
    · subst it
      simpa [SocketDir.update] using same
    · simp [SocketDir.update, it]
  ids other := by
    by_cases it : other = daemon
    · subst it
      simpa [SocketDir.update] using ids
    · simp [SocketDir.update, it]
  disk _ _ _ := rfl

theorem moveTo (dir : SocketDir) (daemon : Nat) (stage : DaemonStage) :
    SameSessions dir (dir.moveTo daemon stage) := update dir rfl rfl

theorem close (dir : SocketDir) (socket : Option Nat) : SameSessions dir (dir.close socket) where
  tasks _ := by rw [close_daemons]
  ids _ := by rw [close_daemons]
  disk _ _ _ := by rw [close_disk]

/-- A file of a daemon is none of a session's. -/
theorem ofDisk {name : DirFile} (own : name.session = none)
    (daemons : next.daemons = dir.daemons) {file : Option WrittenFile}
    (disk : next.disk = Function.update dir.disk name file) : SameSessions dir next where
  tasks _ := by rw [daemons]
  ids _ := by rw [daemons]
  disk other id session := by
    have different : other ≠ name := by
      rintro rfl
      rw [own] at session
      cases session
    rw [disk, Function.update_of_ne different]

theorem unlink (dir : SocketDir) {name : DirFile} (own : name.session = none) :
    SameSessions dir (dir.unlink name) := ofDisk own rfl rfl

theorem remove (dir : SocketDir) (daemon : Nat) {name : DirFile} (own : name.session = none) :
    SameSessions dir (dir.remove daemon name) :=
  ofDisk own (remove_daemons dir daemon name) (remove_disk dir daemon name)

theorem write (dir : SocketDir) (daemon : Nat) {name : DirFile} (own : name.session = none) :
    SameSessions dir (dir.write daemon name) := by
  obtain ⟨file, -, disk⟩ := write_disk dir daemon name
  exact ofDisk own (write_daemons dir daemon name) disk

theorem exit (dir : SocketDir) (daemon : Nat) : SameSessions dir (dir.exit daemon) := by
  have closed := (close dir (dir.daemons daemon).listener).trans
    (close _ (dir.daemons daemon).stage.socket)
  have moved := closed.trans (moveTo _ daemon .gone)
  exact ⟨moved.tasks, moved.ids, moved.disk⟩

theorem giveUp (dir : SocketDir) (daemon : Nat) (recovering : Bool) :
    SameSessions dir (dir.giveUp daemon recovering) := by
  unfold SocketDir.giveUp
  split
  · exact (close _ _).trans (moveTo _ _ _)
  · exact exit dir daemon

/-- Whatever a daemon's main task does, it leaves the sessions to their tasks. -/
theorem advance {daemon : Nat} {stage : DaemonStage}
    (stepped : dir.advance daemon stage = some next) : SameSessions dir next := by
  cases stage with
  | bindingCtl recovering stage =>
    simp only [SocketDir.advance, Option.some.injEq] at stepped
    subst stepped
    unfold bindCtl
    split
    · have created : SameSessions dir ((dir.bindSocket daemon .ctl).claim daemon) :=
        ofDisk (show DirFile.ctl.session = none from rfl) rfl rfl
      exact created.trans (moveTo _ _ _)
    · exact moveTo _ _ _
    · exact giveUp _ _ _
    · exact moveTo _ _ _
    · exact (unlink dir rfl).trans (moveTo _ _ _)
  | identifying recovering bound =>
    simp only [SocketDir.advance, Option.some.injEq] at stepped
    subst stepped
    unfold identify
    split
    · refine (close dir (dir.daemons daemon).listener).trans (update _ ?_ ?_)
      · rw [close_daemons]
      · rw [close_daemons]
    · exact giveUp _ _ _
  | writingPid why =>
    cases stepped
    exact (write dir daemon rfl).trans (moveTo _ _ _)
  | writingInfo why =>
    cases stepped
    exact (write dir daemon rfl).trans (moveTo _ _ _)
  | checking =>
    simp only [SocketDir.advance, Option.some.injEq] at stepped
    subst stepped
    unfold ensureRegistration
    split <;> exact moveTo _ _ _
  | draining lost =>
    cases stepped
    exact moveTo _ _ _
  | removingCtl =>
    cases stepped
    exact (remove dir daemon rfl).trans (moveTo _ _ _)
  | removingPid =>
    cases stepped
    exact (remove dir daemon rfl).trans (moveTo _ _ _)
  | removingInfo =>
    cases stepped
    exact (remove dir daemon rfl).trans (moveTo _ _ _)
  | leaving =>
    simp only [SocketDir.advance, Option.ite_none_right_eq_some, Option.some.injEq] at stepped
    obtain ⟨-, rfl⟩ := stepped
    exact exit dir daemon
  | absent => cases stepped
  | running => cases stepped
  | gone => cases stepped

end SameSessions

section Sockets

variable {dir base next : SocketDir} {daemon id : Nat}

theorem SocketsHeld.same (sockets : dir.SocketsHeld) (same : SameSessions dir next) :
    next.SocketsHeld := by
  intro name id file session present
  rw [same.disk name id session] at present
  rw [same.tasks]
  exact sockets name id file session present

/-- A session keeps its sockets, and holds those it makes. -/
theorem SocketsHeld.setTask {task new : SocketTask} (sockets : dir.SocketsHeld)
    (same : base.daemons = dir.daemons)
    (current : (dir.daemons daemon).sessions.lookup id = some task)
    (disk : ∀ name file, base.disk name = some file →
      dir.disk name = some file ∨ file.author = daemon ∧ name.session = some id ∧
        new.holds name = true)
    (kept : ∀ name, name.session = some id → (base.disk name).isSome = true →
      task.holds name = true → new.holds name = true) :
    (base.setTask daemon id new).SocketsHeld := by
  intro name other file session present
  -- The author of the file is this session, or its session is as it was.
  have here (author : file.author = daemon) (same_ : other = id) (holds : new.holds name = true) :
      ∃ task, ((base.setTask daemon id new).daemons file.author).sessions.lookup other =
        some task ∧ task.holds name = true := by
    subst same_
    refine ⟨new, ?_, holds⟩
    simp [SocketDir.setTask, SocketDir.update, author]
  rcases disk name file present with older | ⟨author, session', holds⟩
  · obtain ⟨found, look, holds⟩ := sockets name other file session older
    by_cases own : file.author = daemon ∧ other = id
    · obtain ⟨author, rfl⟩ := own
      rw [author, current] at look
      cases look
      have there : (base.disk name).isSome = true := Option.isSome_iff_exists.mpr ⟨file, present⟩
      exact here author rfl (kept name session there holds)
    · refine ⟨found, ?_, holds⟩
      by_cases author : file.author = daemon
      · have different : other ≠ id := fun same_ => own ⟨author, same_⟩
        rw [author] at look ⊢
        simp [SocketDir.setTask, SocketDir.update, same, AList.lookup_insert_ne different, look]
      · simp [SocketDir.setTask, SocketDir.update, same, author, look]
  · rw [session] at session'
    exact here author (Option.some.inj session') holds

/-- A session that is dropped holds nothing any more. -/
theorem SocketsHeld.dropTask {task : SocketTask} (sockets : dir.SocketsHeld)
    (same : base.daemons = dir.daemons)
    (current : (dir.daemons daemon).sessions.lookup id = some task)
    (disk : ∀ name file, base.disk name = some file → dir.disk name = some file)
    (dropped : ∀ name, name.session = some id → task.holds name = true → base.disk name = none) :
    (base.dropTask daemon id).SocketsHeld := by
  intro name other file session present
  obtain ⟨found, look, holds⟩ := sockets name other file session (disk name file present)
  refine ⟨found, ?_, holds⟩
  by_cases author : file.author = daemon
  · rw [author] at look ⊢
    have different : other ≠ id := by
      rintro rfl
      rw [current] at look
      cases look
      have gone := dropped name session holds
      exact absurd (gone.symm.trans present) (by simp)
    simp [SocketDir.dropTask, SocketDir.update, same, AList.lookup_erase_ne different, look]
  · simp [SocketDir.dropTask, SocketDir.update, same, author, look]

end Sockets

section Tasks

variable {dir next : SocketDir} {daemon id : Nat}

/-- A call that binds a session's socket keeps what the session has, and holds what it makes. -/
theorem SocketsHeld.bindTask {task : SocketTask} {name : DirFile} {stage : BindStage}
    {during : BindStage → SocketTask} {after : Option Nat → SocketTask}
    (sockets : dir.SocketsHeld) (own : name.session = some id)
    (current : (dir.daemons daemon).sessions.lookup id = some task)
    (others : ∀ other, other.session = some id → other ≠ name → task.holds other = true →
      (∀ stage, (during stage).holds other = true) ∧ ∀ socket, (after socket).holds other = true)
    (making : ∀ stage, (during stage).holds name = stage.socket.isSome)
    (made : ∀ socket, (after socket).holds name = socket.isSome)
    (was : task.holds name = stage.socket.isSome) :
    (dir.bindTask daemon id name stage during after).SocketsHeld := by
  unfold SocketDir.bindTask
  cases outcome : dir.bindNext name stage with
  | created =>
    refine sockets.setTask rfl current ?_ ?_
    · intro other file present
      by_cases it : other = name
      · subst it
        obtain rfl : (⟨dir.inodes, daemon⟩ : WrittenFile) = file := by
          simpa [bindSocket, put] using present
        exact Or.inr ⟨rfl, own, (making _).trans rfl⟩
      · exact Or.inl (by simpa [bindSocket, put, it] using present)
    · intro other session _ holds
      by_cases it : other = name
      · subst it
        exact (making _).trans rfl
      · exact (others other session it holds).1 _
  | bound inode =>
    refine sockets.setTask rfl current (fun _ _ present => Or.inl present) ?_
    intro other session _ holds
    by_cases it : other = name
    · subst it
      exact (made _).trans rfl
    · exact (others other session it holds).2 _
  | failed =>
    refine sockets.setTask (close_daemons dir stage.socket) current ?_ ?_
    · intro other file present
      rw [close_disk] at present
      exact Or.inl present
    · intro other session there holds
      rw [close_disk] at there
      by_cases it : other = name
      · -- The call only fails with a socket of its own when that is no longer there.
        subst it
        rw [was] at holds
        cases stage with
        | granting inode => simp [bindNext, BindStage.next, there] at outcome
        | binding => exact absurd holds (by decide)
        | probing => exact absurd holds (by decide)
        | unlinking => exact absurd holds (by decide)
        | rebinding => exact absurd holds (by decide)
      · exact (others other session it holds).2 _
  | goOn later =>
    refine sockets.setTask rfl current (fun _ _ present => Or.inl present) ?_
    intro other session there holds
    by_cases it : other = name
    · subst it
      rw [was] at holds
      cases stage with
      | granting inode => simp [bindNext, BindStage.next, there] at outcome
      | binding => exact absurd holds (by decide)
      | probing => exact absurd holds (by decide)
      | unlinking => exact absurd holds (by decide)
      | rebinding => exact absurd holds (by decide)
    · exact (others other session it holds).1 _
  | unlinked =>
    have less (other : DirFile) (file : WrittenFile)
        (present : (dir.unlink name).disk other = some file) :
        other ≠ name ∧ dir.disk other = some file := by
      by_cases it : other = name
      · subst it
        simp [unlink] at present
      · exact ⟨it, by simpa [unlink, it] using present⟩
    refine sockets.setTask (show (dir.unlink name).daemons = dir.daemons from rfl) current
      (fun other file present => Or.inl (less other file present).2) ?_
    intro other session there holds
    obtain ⟨file, present⟩ := Option.isSome_iff_exists.mp there
    exact (others other session (less other file present).1 holds).1 _

/-- A session that has removed one of its sockets holds the other one still. -/
theorem SocketsHeld.removed {task new : SocketTask} {name : DirFile} {socket : Option Nat}
    (sockets : dir.SocketsHeld) (current : (dir.daemons daemon).sessions.lookup id = some task)
    (others : ∀ other, other.session = some id → other ≠ name → task.holds other = true →
      new.holds other = true) :
    (((dir.remove daemon name).close socket).setTask daemon id new).SocketsHeld := by
  refine sockets.setTask (by simp) current ?_ ?_
  · intro other file present
    rw [close_disk, remove_disk] at present
    by_cases it : other = name
    · simp [it] at present
    · exact Or.inl (by simpa [it] using present)
  · intro other session there holds
    rw [close_disk, remove_disk] at there
    refine others other session ?_ holds
    rintro rfl
    simp at there

/-- The next operation of a session's task keeps the sockets with those that hold them. -/
theorem SocketsHeld.advanceTask {task : SocketTask} (sockets : dir.SocketsHeld)
    (current : (dir.daemons daemon).sessions.lookup id = some task)
    (stepped : dir.advanceTask daemon id task = some next) : next.SocketsHeld := by
  cases task with
  | spawned =>
    cases stepped
    refine sockets.setTask rfl current (fun _ _ present => Or.inl present) ?_
    intro name session _ holds
    rcases DirFile.session_eq session with rfl | rfl <;> exact absurd holds Bool.false_ne_true
  | bindingSvc stage =>
    cases stepped
    refine sockets.bindTask rfl current ?_ (fun _ => rfl) (fun _ => rfl) rfl
    intro other session different holds
    rcases DirFile.session_eq session with rfl | rfl
    · exact absurd rfl different
    · exact absurd holds Bool.false_ne_true
  | serving svc agent => cases stepped
  | bindingAgent svc stage =>
    cases stepped
    refine sockets.bindTask rfl current ?_ (fun _ => rfl) (fun _ => rfl) rfl
    intro other session different holds
    rcases DirFile.session_eq session with rfl | rfl
    · exact ⟨fun _ => holds, fun _ => holds⟩
    · exact absurd rfl different
  | disabling svc agent =>
    cases stepped
    refine sockets.removed current ?_
    intro other session different holds
    rcases DirFile.session_eq session with rfl | rfl
    · exact holds
    · exact absurd rfl different
  | droppingSvc svc agent =>
    cases stepped
    refine sockets.removed current ?_
    intro other session different holds
    rcases DirFile.session_eq session with rfl | rfl
    · exact absurd rfl different
    · exact holds
  | droppingAgent agent =>
    cases stepped
    refine sockets.dropTask (by simp) current ?_ ?_
    · intro name file present
      rw [close_disk, remove_disk] at present
      by_cases it : name = .agent id
      · simp [it] at present
      · simpa [it] using present
    · intro name session holds
      rcases DirFile.session_eq session with rfl | rfl
      · exact absurd holds Bool.false_ne_true
      · simp

end Tasks

section Numbers

variable {dir base next : SocketDir} {daemon id : Nat}

theorem Numbered.same (numbered : dir.Numbered) (same : SameSessions dir next) :
    next.Numbered := by
  intro other id there
  rw [same.tasks] at there
  rw [same.ids]
  exact numbered other id there

/-- A session that goes on has its number already. -/
theorem Numbered.setTask {task : SocketTask} (numbered : dir.Numbered)
    (same : base.daemons = dir.daemons)
    (current : ((dir.daemons daemon).sessions.lookup id).isSome = true) :
    (base.setTask daemon id task).Numbered := by
  intro other number there
  by_cases it : other = daemon
  · subst it
    simp only [SocketDir.setTask, SocketDir.update, Function.update_self, same,
      isSome_lookup_insert, Bool.or_eq_true, decide_eq_true_eq] at there ⊢
    rcases there with rfl | older
    · exact numbered other id current
    · exact numbered other number older
  · simp only [SocketDir.setTask, SocketDir.update, Function.update_of_ne it, same] at there ⊢
    exact numbered other number there

/-- Dropping a session's task keeps the sessions numbered. -/
theorem Numbered.dropTask (numbered : dir.Numbered) (same : base.daemons = dir.daemons) :
    (base.dropTask daemon id).Numbered := by
  intro other number there
  by_cases it : other = daemon
  · subst it
    simp only [SocketDir.dropTask, SocketDir.update, Function.update_self, same,
      isSome_lookup_erase, Bool.and_eq_true] at there ⊢
    exact numbered other number there.2
  · simp only [SocketDir.dropTask, SocketDir.update, Function.update_of_ne it, same] at there ⊢
    exact numbered other number there

/-- Every step of a session's task keeps the sessions numbered. -/
theorem Numbered.advanceTask {task : SocketTask} (numbered : dir.Numbered)
    (current : (dir.daemons daemon).sessions.lookup id = some task)
    (stepped : dir.advanceTask daemon id task = some next) : next.Numbered := by
  have there : ((dir.daemons daemon).sessions.lookup id).isSome = true := by rw [current]; rfl
  have bound {name : DirFile} {stage : BindStage} {during : BindStage → SocketTask}
      {after : Option Nat → SocketTask} :
      (dir.bindTask daemon id name stage during after).Numbered := by
    unfold SocketDir.bindTask
    cases dir.bindNext name stage with
    | failed => exact numbered.setTask (close_daemons dir _) there
    | _ => exact numbered.setTask rfl there
  cases task with
  | spawned =>
    cases stepped
    exact numbered.setTask rfl there
  | bindingSvc stage =>
    cases stepped
    exact bound
  | serving svc agent => cases stepped
  | bindingAgent svc stage =>
    cases stepped
    exact bound
  | disabling svc agent =>
    cases stepped
    exact numbered.setTask (by simp) there
  | droppingSvc svc agent =>
    cases stepped
    exact numbered.setTask (by simp) there
  | droppingAgent agent =>
    cases stepped
    exact numbered.dropTask (by simp)

end Numbers

end SocketDir

end Gritty
