import Gritty.Daemon.HeldSockets

/-! The registration in the socket directory, and whose it is. -/

namespace Gritty

namespace DaemonStage

/-- It has bound the control socket and has not exited. -/
def holding : DaemonStage → Bool
  | .absent | .gone => false
  | .bindingCtl recovering stage => recovering || stage.socket.isSome
  | _ => true

/-- It has written the pid file since it last bound its socket, and may still remove it. -/
def hasWrittenPid : DaemonStage → Bool
  | .writingPid why => why = .repairing
  | .writingInfo _ | .running | .checking | .removingCtl | .removingPid | .removingInfo => true
  | .draining lost => !lost
  | .absent | .bindingCtl _ _ | .identifying _ _ | .leaving | .gone => false

/-- The same for the info file. -/
def hasWrittenInfo : DaemonStage → Bool
  | .writingPid why | .writingInfo why => why = .repairing
  | .running | .checking | .removingCtl | .removingPid | .removingInfo => true
  | .draining lost => !lost
  | .absent | .bindingCtl _ _ | .identifying _ _ | .leaving | .gone => false

end DaemonStage

namespace BindStage

/-- A binding that goes on has let go of its socket. -/
theorem socket_of_goOn {stage later : BindStage} {present answers : Bool}
    (goes : stage.next present answers = .goOn later) : later.socket = none := by
  cases stage with
  | binding =>
    cases present with
    | false => cases goes
    | true =>
      obtain rfl := BindOutcome.goOn.inj goes
      rfl
  | probing =>
    simp only [BindStage.next] at goes
    split at goes
    · cases goes
    · obtain rfl := BindOutcome.goOn.inj goes
      rfl
  | unlinking => cases present <;> cases goes
  | rebinding => cases present <;> cases goes
  | granting inode => cases present <;> cases goes

/-- A socket is bound only by the last stage, in which its rights are set. -/
theorem eq_granting {stage : BindStage} {present answers : Bool} {inode : Nat}
    (bound : stage.next present answers = .bound inode) : stage = .granting inode := by
  cases stage with
  | granting other =>
    cases present with
    | false => cases bound
    | true => exact congrArg BindStage.granting (BindOutcome.bound.inj bound)
  | probing =>
    simp only [BindStage.next] at bound
    split at bound <;> cases bound
  | binding => cases present <;> cases bound
  | unlinking => cases present <;> cases bound
  | rebinding => cases present <;> cases bound

end BindStage

namespace SocketDir

/-- The registration is that of the only holder, if there is one and it has registered. -/
structure Registered (dir : SocketDir) : Prop where
  ctl : ∀ file ∈ dir.disk .ctl, ∀ daemon ∈ dir.sole, file.author = daemon
  pid : ∀ file ∈ dir.disk .pid, ∀ daemon ∈ dir.sole,
    (dir.daemons daemon).stage.hasWrittenPid = true → file.author = daemon
  info : ∀ file ∈ dir.disk .info, ∀ daemon ∈ dir.sole,
    (dir.daemons daemon).stage.hasWrittenInfo = true → file.author = daemon
  held : ∀ daemon, (dir.daemons daemon).stage.holding = true → daemon ∈ dir.holders
  alone : ∀ daemon ∈ dir.sole, ∀ holder ∈ dir.holders, holder = daemon

section Registration

variable {dir base next : SocketDir} {daemon : Nat}

/-- Nothing that concerns the registration has changed. -/
structure SameRegistration (dir next : SocketDir) : Prop where
  stages : ∀ daemon, (next.daemons daemon).stage = (dir.daemons daemon).stage
  disk : ∀ name, name.session = none → ∀ file ∈ next.disk name, file ∈ dir.disk name
  holders : next.holders = dir.holders
  sole : next.sole = dir.sole

/-- What leaves the registration alone leaves it in order. -/
theorem Registered.same (registered : dir.Registered) (same : SameRegistration dir next) :
    next.Registered where
  ctl file present daemon isSole := by
    rw [same.sole] at isSole
    exact registered.ctl file (same.disk .ctl rfl file present) daemon isSole
  pid file present daemon isSole written := by
    rw [same.sole] at isSole
    rw [same.stages] at written
    exact registered.pid file (same.disk .pid rfl file present) daemon isSole written
  info file present daemon isSole written := by
    rw [same.sole] at isSole
    rw [same.stages] at written
    exact registered.info file (same.disk .info rfl file present) daemon isSole written
  held daemon holding := by
    rw [same.stages] at holding
    rw [same.holders]
    exact registered.held daemon holding
  alone daemon isSole holder among := by
    rw [same.sole] at isSole
    rw [same.holders] at among
    exact registered.alone daemon isSole holder among

/-- A daemon goes on, and what it claims to have written by then is its own if it is alone. -/
theorem Registered.update {process : DaemonRun} (registered : dir.Registered)
    (held : process.stage.holding = true → daemon ∈ dir.holders)
    (pid : process.stage.hasWrittenPid = true → daemon ∈ dir.sole →
      ∀ file ∈ dir.disk .pid, file.author = daemon)
    (info : process.stage.hasWrittenInfo = true → daemon ∈ dir.sole →
      ∀ file ∈ dir.disk .info, file.author = daemon) :
    (dir.update daemon process).Registered where
  ctl := registered.ctl
  pid file present other isSole written := by
    by_cases it : other = daemon
    · subst it
      rw [update_daemons_self] at written
      exact pid written isSole file present
    · rw [update_daemons_of_ne dir daemon process it] at written
      exact registered.pid file present other isSole written
  info file present other isSole written := by
    by_cases it : other = daemon
    · subst it
      rw [update_daemons_self] at written
      exact info written isSole file present
    · rw [update_daemons_of_ne dir daemon process it] at written
      exact registered.info file present other isSole written
  held other holding := by
    by_cases it : other = daemon
    · subst it
      rw [update_daemons_self] at holding
      exact held holding
    · rw [update_daemons_of_ne dir daemon process it] at holding
      exact registered.held other holding
  alone := registered.alone

/-- A daemon goes on to a stage that claims no more than the last one. -/
theorem Registered.keep {process : DaemonRun} {old : DaemonStage} (registered : dir.Registered)
    (current : (dir.daemons daemon).stage = old)
    (held : process.stage.holding = true → old.holding = true)
    (pid : process.stage.hasWrittenPid = true → old.hasWrittenPid = true)
    (info : process.stage.hasWrittenInfo = true → old.hasWrittenInfo = true) :
    (dir.update daemon process).Registered := by
  refine registered.update ?_ ?_ ?_
  · exact fun holding => registered.held daemon (current ▸ held holding)
  · exact fun written isSole file present =>
      registered.pid file present daemon isSole (current ▸ pid written)
  · exact fun written isSole file present =>
      registered.info file present daemon isSole (current ▸ info written)

/-- Files that are gone are nobody's. -/
theorem SameRegistration.less (daemons : next.daemons = dir.daemons)
    (holders : next.holders = dir.holders) (sole : next.sole = dir.sole)
    (disk : ∀ name, ∀ file ∈ next.disk name, file ∈ dir.disk name) :
    SameRegistration dir next :=
  ⟨fun _ => by rw [daemons], fun name _ => disk name, holders, sole⟩

theorem SameRegistration.unlink (dir : SocketDir) (name : DirFile) :
    SameRegistration dir (dir.unlink name) := by
  refine .less rfl rfl rfl ?_
  intro other file present
  by_cases it : other = name
  · simp [SocketDir.unlink, it] at present
  · simpa [SocketDir.unlink, it] using present

theorem SameRegistration.remove (dir : SocketDir) (daemon : Nat) (name : DirFile) :
    SameRegistration dir (dir.remove daemon name) := by
  refine .less (by simp) (by simp) (by simp) ?_
  intro other file present
  rw [remove_disk] at present
  by_cases it : other = name
  · simp [it] at present
  · simpa [it] using present

theorem SameRegistration.close (dir : SocketDir) (socket : Option Nat) :
    SameRegistration dir (dir.close socket) :=
  .less (by simp) (by simp) (by simp) (by simp)

/-- What a holder writes is its own, and nobody else is alone then. -/
theorem Registered.write (registered : dir.Registered) (holder : daemon ∈ dir.holders)
    (name : DirFile) (other : name ≠ .ctl) :
    (dir.write daemon name).Registered ∧
      (daemon ∈ dir.sole → ∀ file ∈ (dir.write daemon name).disk name, file.author = daemon) := by
  obtain ⟨file, author, disk⟩ := write_disk dir daemon name
  have written (found : WrittenFile) (present : found ∈ (dir.write daemon name).disk name) :
      found.author = daemon := by
    rw [disk, Function.update_self] at present
    rw [← Option.some.inj present, author]
  have elsewhere {other : DirFile} (different : other ≠ name) :
      (dir.write daemon name).disk other = dir.disk other := by
    rw [disk, Function.update_of_ne different]
  refine ⟨⟨?_, ?_, ?_, ?_, ?_⟩, fun _ => written⟩
  · intro found present
    rw [elsewhere other.symm] at present
    rw [write_sole]
    exact registered.ctl found present
  · intro found present someone isSole wrote
    rw [write_sole] at isSole
    rw [write_daemons] at wrote
    by_cases it : name = .pid
    · subst it
      rw [written found present]
      exact registered.alone someone isSole daemon holder
    · rw [elsewhere (Ne.symm it)] at present
      exact registered.pid found present someone isSole wrote
  · intro found present someone isSole wrote
    rw [write_sole] at isSole
    rw [write_daemons] at wrote
    by_cases it : name = .info
    · subst it
      rw [written found present]
      exact registered.alone someone isSole daemon holder
    · rw [elsewhere (Ne.symm it)] at present
      exact registered.info found present someone isSole wrote
  · intro someone holding
    rw [write_daemons] at holding
    rw [write_holders]
    exact registered.held someone holding
  · intro someone isSole
    rw [write_sole] at isSole
    rw [write_holders]
    exact registered.alone someone isSole

/-- A daemon that holds nothing is no holder. -/
theorem Registered.depart (registered : dir.Registered) {left : List Nat}
    (left_eq : left = dir.holders.erase daemon)
    (gone : (dir.daemons daemon).stage.holding = false) :
    Registered { dir with holders := left } where
  ctl := registered.ctl
  pid := registered.pid
  info := registered.info
  held other holding := by
    have different : other ≠ daemon := by
      rintro rfl
      exact absurd (gone.symm.trans holding) (by decide)
    rw [left_eq]
    exact (List.mem_erase_of_ne different).mpr (registered.held other holding)
  alone other isSole holder among := by
    rw [left_eq] at among
    exact registered.alone other isSole holder (List.mem_of_mem_erase among)

/-- A daemon that is gone claims nothing. -/
theorem Registered.exit (registered : dir.Registered) (daemon : Nat) :
    (dir.exit daemon).Registered := by
  have closed := (registered.same (.close dir (dir.daemons daemon).listener)).same
    (.close _ (dir.daemons daemon).stage.socket)
  have moved := @Registered.update _ daemon
    { (((dir.close (dir.daemons daemon).listener).close
      (dir.daemons daemon).stage.socket).daemons daemon) with stage := .gone } closed
    (by simp [DaemonStage.holding]) (by simp [DaemonStage.hasWrittenPid])
    (by simp [DaemonStage.hasWrittenInfo])
  refine @Registered.depart _ daemon moved _ ?_ ?_
  · simp [SocketDir.update]
  · simp [DaemonStage.holding]

/-- Who has bound the control socket is the only holder, or nobody is. -/
theorem Registered.claim (registered : dir.Registered) (recovering : Bool)
    (pid : (dir.daemons daemon).stage.hasWrittenPid = false)
    (info : (dir.daemons daemon).stage.hasWrittenInfo = false) :
    (((dir.bindSocket daemon .ctl).claim daemon).moveTo daemon
      (.bindingCtl recovering (.granting dir.inodes))).Registered := by
  have claimed : ((dir.bindSocket daemon .ctl).claim daemon).Registered := by
    have mine {other : Nat} (isSole : other ∈ ((dir.bindSocket daemon .ctl).claim daemon).sole) :
        other = daemon ∧ ∀ holder ∈ dir.holders, holder = daemon := by
      have decided : (if dir.holders.all fun holder => holder = daemon then some daemon else none) =
          some other := isSole
      split at decided
      · next all => exact ⟨(Option.some.inj decided).symm, by simpa using all⟩
      · cases decided
    refine ⟨?_, ?_, ?_, ?_, ?_⟩
    · intro file present other isSole
      have made : (⟨dir.inodes, daemon⟩ : WrittenFile) = file := by
        simpa [SocketDir.claim, bindSocket, put] using present
      rw [← made, (mine isSole).1]
    · intro file _ other isSole written
      rw [(mine isSole).1] at written
      exact absurd (pid.symm.trans written) (by decide)
    · intro file _ other isSole written
      rw [(mine isSole).1] at written
      exact absurd (info.symm.trans written) (by decide)
    · intro other holding
      by_cases it : other = daemon
      · exact it ▸ List.mem_cons_self
      · have before := registered.held other holding
        exact List.mem_cons_of_mem daemon ((List.mem_erase_of_ne it).mpr before)
    · intro other isSole holder among
      obtain ⟨rfl, all⟩ := mine isSole
      rcases List.mem_cons.mp among with rfl | older
      · rfl
      · exact all holder (List.mem_of_mem_erase older)
  refine claimed.update (fun _ => List.mem_cons_self) ?_ ?_
  · exact fun written => absurd written (by simp [DaemonStage.hasWrittenPid])
  · exact fun written => absurd written (by simp [DaemonStage.hasWrittenInfo])

end Registration

section Advance

variable {dir next : SocketDir} {daemon : Nat}

/-- A daemon that gives up its start, or its repair, leaves the registration in order. -/
theorem Registered.giveUp {recovering : Bool} (registered : dir.Registered)
    (held : recovering = true → (dir.daemons daemon).stage.holding = true) :
    (dir.giveUp daemon recovering).Registered := by
  unfold SocketDir.giveUp
  split
  · next recovers =>
    have closed := registered.same (.close dir (dir.daemons daemon).stage.socket)
    refine closed.keep (show _ = (dir.daemons daemon).stage by rw [close_daemons]) ?_ ?_ ?_
    · exact fun _ => held recovers
    · exact fun written => absurd written (by simp [DaemonStage.hasWrittenPid])
    · exact fun written => absurd written (by simp [DaemonStage.hasWrittenInfo])
  · exact registered.exit daemon

/-- Every stage of binding the control socket leaves the registration in order. -/
theorem Registered.bindCtl {recovering : Bool} {stage : BindStage} (registered : dir.Registered)
    (current : (dir.daemons daemon).stage = .bindingCtl recovering stage) :
    (dir.bindCtl daemon recovering stage).Registered := by
  have recovers (isSo : recovering = true) : (dir.daemons daemon).stage.holding = true := by
    rw [current, isSo]
    rfl
  unfold SocketDir.bindCtl
  cases outcome : dir.bindNext .ctl stage with
  | created => exact registered.claim recovering (by rw [current]; rfl) (by rw [current]; rfl)
  | bound inode =>
    -- Only a call that has made its socket ends well.
    obtain rfl := BindStage.eq_granting outcome
    exact registered.keep current (by simp [DaemonStage.holding, BindStage.socket])
      (by simp [DaemonStage.hasWrittenPid]) (by simp [DaemonStage.hasWrittenInfo])
  | failed => exact registered.giveUp recovers
  | goOn later =>
    have none_ := BindStage.socket_of_goOn outcome
    refine registered.keep current ?_ (by simp [DaemonStage.hasWrittenPid])
      (by simp [DaemonStage.hasWrittenInfo])
    simp only [DaemonStage.holding, none_, Option.isSome_none, Bool.or_false]
    exact fun isSo => by simp [isSo]
  | unlinked =>
    have unlinked := registered.same (.unlink dir .ctl)
    refine unlinked.keep (show _ = (dir.daemons daemon).stage from rfl) ?_
      (by simp [DaemonStage.hasWrittenPid]) (by simp [DaemonStage.hasWrittenInfo])
    simp only [DaemonStage.holding, BindStage.socket, Option.isSome_none, Bool.or_false]
    exact recovers

/-- Each step of a daemon's main task keeps the registration that of the only holder. -/
theorem Registered.advance {stage : DaemonStage} (registered : dir.Registered)
    (current : (dir.daemons daemon).stage = stage)
    (stepped : dir.advance daemon stage = some next) : next.Registered := by
  have removed (name : DirFile) {later : DaemonStage}
      (held : later.holding = true → stage.holding = true)
      (pid : later.hasWrittenPid = true → stage.hasWrittenPid = true)
      (info : later.hasWrittenInfo = true → stage.hasWrittenInfo = true) :
      ((dir.remove daemon name).moveTo daemon later).Registered :=
    (registered.same (.remove dir daemon name)).keep (by rw [remove_daemons, current]) held pid info
  cases stage with
  | bindingCtl recovering stage =>
    cases stepped
    exact registered.bindCtl current
  | identifying recovering bound =>
    simp only [SocketDir.advance, Option.some.injEq] at stepped
    subst stepped
    unfold identify
    split
    · have closed := registered.same (.close dir (dir.daemons daemon).listener)
      refine closed.keep (show _ = DaemonStage.identifying recovering bound by
        rw [close_daemons, current]) (fun _ => rfl) ?_ ?_
      · cases recovering <;> exact fun written => absurd written Bool.false_ne_true
      · cases recovering <;> exact fun written => absurd written Bool.false_ne_true
    · exact registered.giveUp fun _ => by rw [current]; rfl
  | writingPid why =>
    cases stepped
    have holder := registered.held daemon (by rw [current]; rfl)
    obtain ⟨written, own⟩ := registered.write holder .pid (by simp)
    refine written.update (fun _ => by rwa [write_holders]) ?_ ?_
    · intro _ isSole
      rw [write_sole] at isSole
      exact own isSole
    · intro again isSole file present
      refine written.info file present daemon isSole ?_
      rw [write_daemons, current]
      exact again
  | writingInfo why =>
    cases stepped
    have holder := registered.held daemon (by rw [current]; rfl)
    obtain ⟨written, own⟩ := registered.write holder .info (by simp)
    refine written.update (fun _ => by rwa [write_holders]) ?_ ?_
    · intro _ isSole file present
      refine written.pid file present daemon isSole ?_
      rw [write_daemons, current]
      rfl
    · intro _ isSole
      rw [write_sole] at isSole
      exact own isSole
  | checking =>
    simp only [SocketDir.advance, Option.some.injEq] at stepped
    subst stepped
    unfold ensureRegistration
    split
    · exact registered.keep current (fun _ => rfl) (fun _ => rfl) (fun _ => rfl)
    · exact registered.keep current (fun _ => rfl) (fun _ => rfl) (fun _ => rfl)
  | draining lost =>
    cases stepped
    cases lost
    · exact registered.keep current (fun _ => rfl) (fun _ => rfl) (fun _ => rfl)
    · exact registered.keep current (fun _ => rfl) (fun written => written) (fun written => written)
  | removingCtl =>
    cases stepped
    exact removed .ctl (fun _ => rfl) (fun _ => rfl) (fun _ => rfl)
  | removingPid =>
    cases stepped
    exact removed .pid (fun _ => rfl) (fun _ => rfl) (fun _ => rfl)
  | removingInfo =>
    cases stepped
    exact removed .info (fun _ => rfl) (fun _ => rfl) (fun _ => rfl)
  | leaving =>
    simp only [SocketDir.advance, Option.ite_none_right_eq_some, Option.some.injEq] at stepped
    obtain ⟨-, rfl⟩ := stepped
    exact registered.exit daemon
  | absent => cases stepped
  | running => cases stepped
  | gone => cases stepped

end Advance

/-! ### Sessions and the registration -/

section Apart

variable {dir base next : SocketDir} {daemon id : Nat}

namespace SameRegistration

/-- What leaves the registration alone does so step after step. -/
theorem trans {middle : SocketDir} (first : SameRegistration dir middle)
    (second : SameRegistration middle next) : SameRegistration dir next where
  stages other := (second.stages other).trans (first.stages other)
  disk name own file present := first.disk name own file (second.disk name own file present)
  holders := second.holders.trans first.holders
  sole := second.sole.trans first.sole

/-- A change of a daemon that leaves its stage leaves the registration alone. -/
theorem update {process : DaemonRun} (same : process.stage = (dir.daemons daemon).stage) :
    SameRegistration dir (dir.update daemon process) where
  stages other := by
    by_cases it : other = daemon
    · rw [it, update_daemons_self, same]
    · rw [update_daemons_of_ne dir daemon process it]
  disk _ _ _ present := present
  holders := rfl
  sole := rfl

/-- Binding a session's socket leaves the registration alone. -/
theorem bindSocket {name : DirFile} (session : name.session.isSome = true) :
    SameRegistration dir (dir.bindSocket daemon name) where
  stages _ := rfl
  disk other own file present := by
    have different : other ≠ name := by
      rintro rfl
      rw [own] at session
      cases session
    simpa [SocketDir.bindSocket, put, different] using present
  holders := rfl
  sole := rfl

/-- Every stage of binding a session's socket leaves the registration alone. -/
theorem bindTask {name : DirFile} {stage : BindStage} {during : BindStage → SocketTask}
    {after : Option Nat → SocketTask} (session : name.session.isSome = true) :
    SameRegistration dir (dir.bindTask daemon id name stage during after) := by
  unfold SocketDir.bindTask
  cases dir.bindNext name stage with
  | created => exact (bindSocket session).trans (update rfl)
  | bound inode => exact update rfl
  | failed => exact (close dir stage.socket).trans (update rfl)
  | goOn later => exact update rfl
  | unlinked => exact (unlink dir name).trans (update rfl)

/-- Whatever a session does, it leaves the registration to its daemon. -/
theorem advanceTask {task : SocketTask} (stepped : dir.advanceTask daemon id task = some next) :
    SameRegistration dir next := by
  have removed (name : DirFile) (socket : Option Nat) :
      SameRegistration dir ((dir.remove daemon name).close socket) :=
    (remove dir daemon name).trans (close _ socket)
  cases task with
  | spawned =>
    cases stepped
    exact update rfl
  | bindingSvc stage =>
    cases stepped
    exact bindTask rfl
  | serving svc agent => cases stepped
  | bindingAgent svc stage =>
    cases stepped
    exact bindTask rfl
  | disabling svc agent =>
    cases stepped
    exact (removed _ _).trans (update rfl)
  | droppingSvc svc agent =>
    cases stepped
    exact (removed _ _).trans (update rfl)
  | droppingAgent agent =>
    cases stepped
    exact (removed _ _).trans (update rfl)

end SameRegistration

end Apart

end SocketDir

end Gritty
