import Gritty.Connect.LockFile

/-! A tunnel name has one supervisor, and nobody else touches its files. -/

namespace Gritty

/-- A process is about to work on the files its lock stands for. -/
def Stage.owns : Stage → Option Nat
  | .removing _ inode _ => some inode
  | .writingInfo inode => some inode
  | .supervising inode => some inode
  | .leaving inode _ => some inode
  | _ => none

theorem Stage.holds_of_owns {stage : Stage} {inode : Nat} (owns : stage.owns = some inode) :
    stage.holds = some inode := by
  cases stage <;> first | exact owns | exact absurd owns (by simp [Stage.owns])

/-- A supervisor owns the files. -/
theorem Stage.owns_of_inRole {stage : Stage} (inRole : stage.inRole = true) :
    ∃ inode, stage.owns = some inode := by
  cases stage <;> first | exact ⟨_, rfl⟩ | exact absurd inRole (by simp [Stage.inRole])

namespace TunnelName

/-- At most one supervisor, and no file is touched while another process is one. -/
structure OneSupervisor (name : TunnelName) : Prop where
  single : ∀ (first second : Nat) (one other : Stage), name.processes[first]? = some one →
    name.processes[second]? = some other → one.inRole = true → other.inRole = true →
      first = second
  undisturbed : ∀ another, .touched another ∈ name.reports → another = false

/-- A process that gets the lock has the file open that is still at the lock's path. -/
def locksInPlace (name : TunnelName) : TunnelAction → Bool
  | .advance process =>
    match name.processes[process]? with
    -- A probe lets go of the lock before it could do any harm.
    | some (.opened (.probe _) _) => true
    | some (.opened _ inode) => (name.holder inode).isSome || name.lock = some inode
    | _ => true
  | _ => true

/-- The file at the lock's path stands for the files, and every lock is held once. -/
structure Owned (name : TunnelName) : Prop where
  owner : ∀ (process : Nat) (stage : Stage) (inode : Nat),
    name.processes[process]? = some stage → stage.owns = some inode → name.lock = some inode
  held : ∀ (first second : Nat) (one other : Stage) (inode : Nat),
    name.processes[first]? = some one → name.processes[second]? = some other →
      one.holds = some inode → other.holds = some inode → first = second
  undisturbed : ∀ another, .touched another ∈ name.reports → another = false

section Owned

variable {name next : TunnelName} {process : Nat} {before after : Stage}

/-- Every process is the one that went on, or it is where it was. -/
theorem moved_cases (processes : next.processes = name.processes.set process after) {other : Nat}
    {stage : Stage} (there : next.processes[other]? = some stage) :
    (other = process ∧ stage = after) ∨
      (other ≠ process ∧ name.processes[other]? = some stage) := by
  rw [processes, List.getElem?_set] at there
  split at there
  · next same =>
    split at there
    · exact Or.inl ⟨same.symm, (Option.some.inj there).symm⟩
    · simp at there
  · next different => exact Or.inr ⟨fun same => different same.symm, there⟩

/-- Only one process owns the files. -/
theorem Owned.alone (owned : Owned name) {inode : Nat}
    (found : name.processes[process]? = some before) (owns : before.owns = some inode)
    {other : Nat} {stage : Stage} (there : name.processes[other]? = some stage)
    (also : stage.owns.isSome = true) : process = other := by
  obtain ⟨second, ownsToo⟩ := Option.isSome_iff_exists.mp also
  -- Both own the file at the path, so both hold the same lock.
  have same := (owned.owner process before inode found owns).symm.trans
    (owned.owner other stage second there ownsToo)
  cases same
  exact owned.held process other before stage inode found there (Stage.holds_of_owns owns)
    (Stage.holds_of_owns ownsToo)

/-- An owner touches a file when nobody else is a supervisor. -/
theorem Owned.touch (owned : Owned name) {inode : Nat}
    (found : name.processes[process]? = some before) (owns : before.owns = some inode) :
    ∀ another, .touched another ∈ (name.touch process).reports → another = false := by
  intro another member
  rcases List.mem_append.mp member with earlier | new
  · exact owned.undisturbed another earlier
  · obtain rfl := Report.touched.inj (List.mem_singleton.mp new)
    rw [List.any_eq_false]
    intro other _
    -- Any other supervisor would own the files as well.
    rw [Bool.and_eq_true, decide_eq_true_eq, not_and, supervised]
    intro different
    cases there : name.processes[other]? with
    | none => simp
    | some stage =>
      rw [Option.any_some]
      intro inRole
      obtain ⟨second, ownsToo⟩ := Stage.owns_of_inRole inRole
      exact different (owned.alone found owns there (by rw [ownsToo]; rfl)).symm

/-- One process goes on, and the file at the lock's path may change. -/
theorem Owned.move (owned : Owned name) (found : name.processes[process]? = some before)
    (processes : next.processes = name.processes.set process after)
    (undisturbed : ∀ another, .touched another ∈ next.reports → another = false)
    (holds : ∀ inode, after.holds = some inode →
      before.holds = some inode ∨ name.holder inode = none)
    (owns : ∀ inode, after.owns = some inode → next.lock = some inode)
    (others : ∀ (other : Nat) (stage : Stage) (inode : Nat), other ≠ process →
      name.processes[other]? = some stage → stage.owns = some inode → next.lock = some inode) :
    Owned next := by
  -- What the process holds now, no other process holds.
  have apart (other : Nat) (stage : Stage) (inode : Nat) (different : other ≠ process)
      (there : name.processes[other]? = some stage) (now : after.holds = some inode) :
      stage.holds ≠ some inode := by
    intro also
    rcases holds inode now with held | free
    · exact different (owned.held other process stage before inode there found also held)
    · have none := List.findIdx?_eq_none_iff.mp free stage (List.mem_of_getElem? there)
      exact absurd also (by simpa using none)
  refine ⟨?_, ?_, undisturbed⟩
  · intro other stage inode there owns'
    rcases moved_cases processes there with ⟨rfl, rfl⟩ | ⟨different, there⟩
    · exact owns inode owns'
    · exact others other stage inode different there owns'
  · intro first second one other inode there also holdsOne holdsOther
    rcases moved_cases processes there with ⟨rfl, rfl⟩ | ⟨different, there⟩
    · rcases moved_cases processes also with ⟨rfl, -⟩ | ⟨apartFrom, also⟩
      · rfl
      · exact absurd holdsOther (apart second other inode apartFrom also holdsOne)
    · rcases moved_cases processes also with ⟨rfl, rfl⟩ | ⟨-, also⟩
      · exact absurd holdsOne (apart first one inode different there holdsOther)
      · exact owned.held first second one other inode there also holdsOne holdsOther

/-- One process goes on with no more than it had, and the lock's path is left alone. -/
theorem Owned.keep (owned : Owned name) (found : name.processes[process]? = some before)
    (processes : next.processes = name.processes.set process after)
    (undisturbed : ∀ another, .touched another ∈ next.reports → another = false)
    (lock : next.lock = name.lock)
    (holds : ∀ inode, after.holds = some inode → before.holds = some inode)
    (owns : ∀ inode, after.owns = some inode → before.owns = some inode) : Owned next := by
  refine owned.move found processes undisturbed (fun inode now => Or.inl (holds inode now)) ?_ ?_
  · intro inode now
    rw [lock]
    exact owned.owner process before inode found (owns inode now)
  · intro other stage inode _ there ownsToo
    rw [lock]
    exact owned.owner other stage inode there ownsToo

/-- An owner removes the lock file, and then only has its lock to release. -/
theorem Owned.giveUp (owned : Owned name) {inode : Nat}
    (found : name.processes[process]? = some before) (owns : before.owns = some inode)
    (purpose : Purpose) :
    Owned ((name.removeLock process).move process (.releasing purpose inode)) := by
  have holds := Stage.holds_of_owns owns
  refine owned.move found rfl (owned.touch found owns) ?_ ?_ ?_
  · intro other now
    exact Or.inl (holds.trans now)
  · intro other now
    exact absurd now (by simp [Stage.owns])
  · -- Nobody else owned the files it stood for.
    intro other stage second different there ownsToo
    exact absurd (owned.alone found owns there (by rw [ownsToo]; rfl)).symm different

/-- A report that touches nothing touches no tunnel of others. -/
theorem reports_quiet (owned : Owned name) {report : Report}
    (quiet : ∀ another, report ≠ .touched another) :
    ∀ another, .touched another ∈ (name.report report).reports → another = false := by
  intro another member
  rcases List.mem_append.mp member with earlier | new
  · exact owned.undisturbed another earlier
  · exact absurd (List.mem_singleton.mp new).symm (quiet another)

end Owned

end TunnelName

/-- Where a command goes on after a cleanup or a probe, it holds nothing. -/
theorem Caller.cleanedUp_holds (caller : Caller) (cleaned : Bool) :
    (caller.cleanedUp cleaned).holds = none := by
  unfold Caller.cleanedUp
  split
  · rfl
  · cases caller <;> rfl

theorem Caller.probed_holds (caller : Caller) (held : Bool) :
    (caller.probed held).holds = none := by
  unfold Caller.probed
  split
  · split <;> rfl
  · rfl

namespace TunnelName

section Steps

variable {name next : TunnelName} {process : Nat} {before after : Stage}

/-- A process goes on that has nothing now, and no file is touched. -/
theorem Owned.drop (owned : Owned name) (found : name.processes[process]? = some before)
    (processes : next.processes = name.processes.set process after)
    (undisturbed : ∀ another, .touched another ∈ next.reports → another = false)
    (lock : next.lock = name.lock) (nothing : after.holds = none) : Owned next := by
  refine owned.keep found processes undisturbed lock ?_ ?_
  · intro inode now
    exact absurd (nothing.symm.trans now) (by simp)
  · intro inode now
    exact absurd (nothing.symm.trans (Stage.holds_of_owns now)) (by simp)

/-- An owner does the next of its work. -/
theorem Owned.work (owned : Owned name) {inode : Nat}
    (found : name.processes[process]? = some before) (owns : before.owns = some inode)
    (processes : next.processes = name.processes.set process after)
    (reports : next.reports = (name.touch process).reports) (lock : next.lock = name.lock)
    (holds : after.holds = some inode) : Owned next := by
  refine owned.keep found processes ?_ lock ?_ ?_
  · rw [reports]
    exact owned.touch found owns
  · intro other now
    obtain rfl := Option.some.inj (holds.symm.trans now)
    exact Stage.holds_of_owns owns
  · intro other now
    obtain rfl := Option.some.inj (holds.symm.trans (Stage.holds_of_owns now))
    exact owns

/-- Opening the lock file may create it, but then nobody owned the files. -/
theorem Owned.openLock (owned : Owned name) (purpose : Purpose)
    (found : name.processes[process]? = some (.opening purpose)) :
    Owned (name.openLock process purpose) := by
  unfold TunnelName.openLock
  split
  · exact owned.drop found rfl owned.undisturbed rfl rfl
  · next caller missing => exact owned.drop found rfl owned.undisturbed rfl (caller.probed_holds _)
  · next missing _ =>
    refine owned.move found rfl owned.undisturbed ?_ ?_ ?_
    · intro inode now
      exact absurd now (by simp [Stage.holds])
    · intro inode now
      exact absurd now (by simp [Stage.owns])
    · intro other stage inode _ there owns
      have present := owned.owner other stage inode there owns
      exact absurd (missing.symm.trans present) (by simp)

/-- A lock is got on the file at the lock's path, or by a probe. -/
theorem Owned.tryLock (owned : Owned name) {purpose : Purpose} {inode : Nat}
    (found : name.processes[process]? = some (.opened purpose inode))
    (inPlace : name.locksInPlace (.advance process) = true) :
    Owned (name.tryLock process inode purpose) := by
  -- A lock that is got was free, and what others own stays at the lock's path.
  have gets {after : Stage} (free : name.holder inode = none) (holds : after.holds = some inode)
      (owns : ∀ other, after.owns = some other → name.lock = some other) :
      Owned (name.move process after) := by
    refine owned.move found rfl owned.undisturbed ?_ owns ?_
    · intro other now
      obtain rfl := Option.some.inj (holds.symm.trans now)
      exact Or.inr free
    · exact fun other stage second _ there ownsToo => owned.owner other stage second there ownsToo
  unfold TunnelName.tryLock
  cases held : name.holder inode with
  | some holder =>
    cases purpose with
    | create => exact owned.drop found rfl (reports_quiet owned (by simp)) rfl rfl
    | clean caller => exact owned.drop found rfl owned.undisturbed rfl (caller.cleanedUp_holds _)
    | probe caller =>
      exact owned.drop found rfl (reports_quiet owned (by simp)) rfl (caller.probed_holds _)
  | none =>
    cases purpose with
    | create =>
      refine gets held rfl fun other now => ?_
      cases now
      -- It is here that the file might not be the one at the path any more.
      simpa [locksInPlace, found, held] using inPlace
    | clean caller =>
      refine gets held rfl fun other now => ?_
      cases now
      simpa [locksInPlace, found, held] using inPlace
    | probe caller => exact gets held rfl fun other now => absurd now (by simp [Stage.owns])

/-- Every operation of a process keeps the lock meaning what it should. -/
theorem Owned.advance (owned : Owned name) {stage : Stage}
    (found : name.processes[process]? = some stage)
    (inPlace : name.locksInPlace (.advance process) = true)
    (advanced : name.advance process stage = some next) : Owned next := by
  cases stage with
  | opening purpose =>
    cases advanced
    exact owned.openLock purpose found
  | opened purpose inode =>
    cases advanced
    exact owned.tryLock found inPlace
  | removing purpose inode left =>
    cases left with
    | cons file left =>
      cases advanced
      exact owned.work found rfl rfl rfl rfl rfl
    | nil =>
      cases purpose with
      | create =>
        cases advanced
        exact owned.work found rfl rfl rfl rfl rfl
      | clean caller =>
        cases advanced
        exact owned.giveUp found rfl _
      | probe caller =>
        cases advanced
        exact owned.giveUp found rfl _
  | writingInfo inode =>
    cases advanced
    exact owned.work found rfl rfl rfl rfl rfl
  | supervising inode => exact absurd advanced (by simp [TunnelName.advance])
  | leaving inode left =>
    cases left with
    | cons file left =>
      cases advanced
      exact owned.work found rfl rfl rfl rfl rfl
    | nil =>
      cases advanced
      exact owned.giveUp found rfl _
  | releasing purpose inode =>
    cases advanced
    refine owned.drop found rfl owned.undisturbed rfl ?_
    cases purpose with
    | create => rfl
    | clean caller => exact caller.cleanedUp_holds _
    | probe caller => exact caller.probed_holds _
  | readingPid =>
    simp only [TunnelName.advance] at advanced
    split at advanced
    · cases advanced
      exact owned.drop found rfl owned.undisturbed rfl rfl
    · cases advanced
      exact owned.drop found rfl owned.undisturbed rfl rfl
  | signalling pid =>
    cases advanced
    exact owned.drop found rfl (reports_quiet owned (by simp)) rfl rfl
  | pausing pid =>
    cases advanced
    exact owned.drop found rfl owned.undisturbed rfl rfl
  | killing pid =>
    cases advanced
    exact owned.drop found rfl (reports_quiet owned (by simp)) rfl rfl
  | done => exact absurd advanced (by simp [TunnelName.advance])

theorem owned_new : Owned .new where
  owner := fun process stage inode found => absurd found (by simp [new])
  held := fun first second one other inode found => absurd found (by simp [new])
  undisturbed := fun another member => absurd member (by simp [new])

/-- A command that starts holds nothing. -/
theorem Owned.spawn (owned : Owned name) (command : Command) :
    Owned { name with processes := name.processes ++ [command.start] } := by
  have nothing : command.start.holds = none := by cases command <;> rfl
  -- What holds something was there before.
  have place (process : Nat) (stage : Stage) (inode : Nat)
      (there : (name.processes ++ [command.start])[process]? = some stage)
      (holds : stage.holds = some inode) : name.processes[process]? = some stage := by
    rw [List.getElem?_append] at there
    split at there
    · exact there
    · obtain rfl := List.mem_singleton.mp (List.mem_of_getElem? there)
      exact absurd (nothing.symm.trans holds) (by simp)
  refine ⟨?_, ?_, owned.undisturbed⟩
  · intro process stage inode there owns
    exact owned.owner process stage inode (place process stage inode there
      (Stage.holds_of_owns owns)) owns
  · intro first second one other inode there also holdsOne holdsOther
    exact owned.held first second one other inode (place first one inode there holdsOne)
      (place second other inode also holdsOther) holdsOne holdsOther

/-- As long as locks are got in place, no step takes the files from their owner. -/
theorem owned_step {action : TunnelAction} (owned : Owned name)
    (inPlace : name.locksInPlace action = true) (stepped : name.step action = some next) :
    Owned next := by
  cases action with
  | spawn command =>
    cases stepped
    exact owned.spawn command
  | advance process =>
    simp only [step] at stepped
    split at stepped
    · next stage found => exact owned.advance found inPlace stepped
    · simp at stepped
  | leave process =>
    simp only [step] at stepped
    split at stepped
    · next inode found =>
      cases stepped
      split
      · exact owned.keep found rfl owned.undisturbed rfl (fun _ => id) (fun _ => id)
      · refine owned.keep found rfl owned.undisturbed rfl (fun _ => id) ?_
        exact fun other now => absurd now (by simp [Stage.owns])
    · simp at stepped
  | maintain process =>
    simp only [step] at stepped
    split at stepped
    · next inode found =>
      cases stepped
      exact ⟨owned.owner, owned.held, owned.touch found rfl⟩
    · simp at stepped
  | escalate process =>
    simp only [step] at stepped
    split at stepped
    · next pid found =>
      cases stepped
      exact owned.drop found rfl owned.undisturbed rfl rfl
    · simp at stepped
  | crash process =>
    simp only [step] at stepped
    split at stepped
    · next stage found =>
      cases stepped
      exact owned.drop found rfl owned.undisturbed rfl rfl
    · simp at stepped

end Steps

/-- Where the lock means what it should, there is one supervisor. -/
theorem Owned.oneSupervisor {name : TunnelName} (owned : Owned name) : name.OneSupervisor where
  single := by
    intro first second one other there also supervises supervisesToo
    obtain ⟨inode, owns⟩ := Stage.owns_of_inRole supervises
    obtain ⟨second, ownsToo⟩ := Stage.owns_of_inRole supervisesToo
    exact owned.alone there owns also (by rw [ownsToo]; rfl)
  undisturbed := owned.undisturbed

end TunnelName

/-- In every run in which each lock is got on the file that is still at the lock's path, a tunnel
name has at most one supervisor, and nobody touches its files meanwhile. -/
theorem oneSupervisor_along {actions : List TunnelAction}
    (inPlace : tunnelName.Meets (fun name action => name.locksInPlace action = true)
      tunnelName.init actions) :
    tunnelName.Along TunnelName.OneSupervisor tunnelName.init actions := by
  have preserved : ∀ name action next, TunnelName.Owned name → name.locksInPlace action = true →
      tunnelName.step name action = some next → TunnelName.Owned next :=
    fun name action next owned met stepped => TunnelName.owned_step owned met stepped
  exact Machine.along_of_meets (fun name owned => TunnelName.Owned.oneSupervisor owned) preserved
    TunnelName.owned_new inPlace

/-- A process does so many operations. -/
def operations (process count : Nat) : List TunnelAction :=
  List.replicate count (.advance process)

/-- A tunnel is created, a second one refused, and the first is stopped and leaves. -/
def stoppedTunnel : List TunnelAction :=
  [.spawn .tunnelCreate] ++ operations 0 8 ++ [.spawn .tunnelCreate] ++ operations 1 2 ++
    [.spawn .disconnect] ++ operations 2 4 ++ [.leave 0] ++ operations 0 6 ++ operations 2 9

theorem oneSupervisor_along_stoppedTunnel :
    tunnelName.Along TunnelName.OneSupervisor tunnelName.init stoppedTunnel :=
  oneSupervisor_along (by decide)

/-- A second process has the lock file open when the supervisor removes it and leaves. A third one
makes a new file and locks it, and then the second locks the old one. -/
def lateLock : List TunnelAction :=
  [.spawn .tunnelCreate] ++ operations 0 8 ++ [.spawn .tunnelCreate] ++ operations 1 1 ++
    [.leave 0] ++ operations 0 6 ++ [.spawn .tunnelCreate] ++ operations 2 2 ++ operations 1 1

/-- Then there are two supervisors. -/
theorem two_supervisors_after_lateLock :
    ¬ ∀ actions : List TunnelAction,
      tunnelName.Along TunnelName.OneSupervisor tunnelName.init actions := by
  intro always
  have last := (always lateLock).last rfl
  exact absurd (last.single 1 2 _ _ rfl rfl rfl rfl) (by decide)

end Gritty
