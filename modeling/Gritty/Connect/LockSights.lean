import Gritty.Connect.OneSupervisor

/-! What is seen of the processes of a tunnel name, and what can be told from it. -/

namespace Gritty

namespace Stage

/-- It holds a lock only for a moment: to look, to clean up, or because its files are gone. -/
def isShort : Stage → Bool
  | .removing purpose _ _ => purpose ≠ .create
  | .releasing _ _ => true
  | _ => false

/-- A supervisor that has written its pid. -/
def wrote : Stage → Bool
  | .writingInfo _ | .supervising _ | .leaving _ _ => true
  | _ => false

/-- A lock that is not held for a moment is a supervisor's. -/
theorem inRole_of_holds {stage : Stage} {inode : Nat} (holds : stage.holds = some inode)
    (lasting : stage.isShort = false) : stage.inRole = true := by
  cases stage with
  | removing purpose other left => simpa [isShort, inRole] using lasting
  | writingInfo other => rfl
  | supervising other => rfl
  | leaving other left => rfl
  | releasing purpose other => exact absurd lasting (by simp [isShort])
  | _ => exact absurd holds (by simp [Stage.holds])

/-- What has written its pid is a supervisor. -/
theorem inRole_of_wrote {stage : Stage} (written : stage.wrote = true) : stage.inRole = true := by
  cases stage <;> first | rfl | exact absurd written (by simp [wrote])

end Stage

/-- The pid that a disconnect has signalled. -/
def Caller.pursues : Caller → Option Nat
  | .polling pid | .escalating pid => some pid
  | _ => none

def Purpose.pursues : Purpose → Option Nat
  | .create => none
  | .clean caller | .probe caller => caller.pursues

def Stage.pursues : Stage → Option Nat
  | .opening purpose => purpose.pursues
  | .opened purpose _ => purpose.pursues
  | .removing purpose _ _ => purpose.pursues
  | .releasing purpose _ => purpose.pursues
  | .pausing pid | .killing pid => some pid
  | _ => none

/-- What is seen of a process. -/
inductive LockSight where
  /-- It tries to lock the file that it has open. -/
  | attempts (process : Nat)
  /-- It has a lock that it holds only for a moment. -/
  | borrows (process inode : Nat)
  /-- It has released that lock. -/
  | returns (process : Nat)
  /-- It has become the supervisor. -/
  | begins (process : Nat)
  | writesPid (process : Nat)
  /-- The supervisor has crashed, or has given up its lock file. -/
  | ends (process : Nat)
  | readsPid (process : Nat)
  | signals (process : Nat)

/-- What an action shows. -/
def TunnelName.sights (name : TunnelName) : TunnelAction → List LockSight
  | .advance process =>
    match name.processes[process]? with
    | some (.opened purpose inode) =>
      .attempts process ::
        if (name.holder inode).isSome then []
        else if purpose = .create then [.begins process]
        else [.borrows process inode]
    | some (.removing .create _ []) => [.writesPid process]
    | some (.leaving inode []) => [.ends process, .borrows process inode]
    | some (.releasing _ _) => [.returns process]
    | some .readingPid => [.readsPid process]
    | some (.signalling _) => [.signals process]
    | _ => []
  | .leave process =>
    match name.processes[process]? with
    | some (.supervising inode) =>
      if name.lock = some inode then [] else [.ends process, .borrows process inode]
    | _ => []
  | .crash process =>
    if name.supervised process then [.ends process] else [.returns process]
  | _ => []

/-- What can be told of the processes from what was seen. -/
structure LockView where
  /-- The files that are locked for a moment, and by whom. -/
  borrowed : List (Nat × Nat)
  /-- The supervisors that have written their pid and have not ended. -/
  standing : List Nat
  /-- Those that have tried the lock, or have read the pid of a supervisor, and no supervisor has ended since. -/
  informed : List Nat
  /-- Those that have sent a signal, and no supervisor has begun since. -/
  unsucceeded : List Nat

namespace LockView

/-- Nothing was seen. -/
def new : LockView := { borrowed := [], standing := [], informed := [], unsucceeded := [] }

/-- What can be told after one more sight. -/
def see (view : LockView) : LockSight → LockView
  | .attempts process => { view with informed := process :: view.informed }
  | .borrows process inode => { view with borrowed := (process, inode) :: view.borrowed }
  | .returns process => { view with borrowed := view.borrowed.filter (·.1 ≠ process) }
  | .begins _ => { view with unsucceeded := [] }
  | .writesPid process => { view with standing := process :: view.standing }
  | .ends process => { view with standing := view.standing.filter (· ≠ process), informed := [] }
  -- What was read is a supervisor's only if one has written it.
  | .readsPid process =>
    { view with
      informed := if view.standing = [] then view.informed.filter (· ≠ process)
        else process :: view.informed }
  | .signals process => { view with unsucceeded := process :: view.unsucceeded }

/-- A file is locked for a moment. -/
def isBorrowed (view : LockView) (inode : Nat) : Bool := view.borrowed.any (·.2 = inode)

end LockView

/-- What can be told from all that was seen. -/
def lockView (seen : List LockSight) : LockView := seen.foldl LockView.see .new

theorem lockView_append (seen more : List LockSight) :
    lockView (seen ++ more) = more.foldl LockView.see (lockView seen) := List.foldl_append ..

namespace TunnelName

/--
By what was seen, nobody gets in between.

Whoever creates a tunnel or probes a lock does not meet a lock that is held for a moment only. When a disconnect reads
a pid, a supervisor has written it, and no supervisor ends before the signal. Before it kills, no other supervisor has
begun since the signal, and none has ended since the probe.
-/
def undisturbed (name : TunnelName) (view : LockView) : TunnelAction → Bool
  | .advance process =>
    match name.processes[process]? with
    -- A cleanup may find it held: what matters is which pid is read and signalled then.
    | some (.opened (.clean _) _) => true
    | some (.opened _ inode) => !view.isBorrowed inode
    | some (.signalling _) => view.informed.contains process
    | some (.killing _) => view.informed.contains process && view.unsucceeded.contains process
    | _ => true
  | _ => true

/-- Locks are got in place, since two supervisors would write over each other's pid, and nobody gets in between. -/
def probesApart (name : TunnelName) (seen : List LockSight) (action : TunnelAction) : Bool :=
  name.locksInPlace action && name.undisturbed (lockView seen) action

/-- A process is a supervisor if its stage is in the role. -/
theorem supervised_iff {name : TunnelName} {process : Nat} :
    name.supervised process = true ↔
      ∃ stage, name.processes[process]? = some stage ∧ stage.inRole = true := by
  unfold supervised
  cases name.processes[process]? <;> simp

/-- What is told of the processes is true. -/
structure Watched (name : TunnelName) (view : LockView) : Prop where
  borrowed : ∀ (process : Nat) (stage : Stage) (inode : Nat),
    name.processes[process]? = some stage → stage.isShort = true → stage.holds = some inode →
      (process, inode) ∈ view.borrowed
  standing : ∀ process ∈ view.standing, ∃ stage,
    name.processes[process]? = some stage ∧ stage.wrote = true
  /-- A disconnect that is informed is about to signal a supervisor. -/
  signalling : ∀ (process pid : Nat), name.processes[process]? = some (.signalling pid) →
    process ∈ view.informed → name.supervised pid = true
  /-- A disconnect that is informed is about to kill where there is a supervisor. -/
  killing : ∀ (process pid : Nat), name.processes[process]? = some (.killing pid) →
    process ∈ view.informed → ∃ supervisor, name.supervised supervisor = true
  /-- While no supervisor begins, there is none but the one that was signalled. -/
  pursued : ∀ (process : Nat) (stage : Stage) (pid : Nat), name.processes[process]? = some stage →
    stage.pursues = some pid → process ∈ view.unsucceeded →
      ∀ supervisor, name.supervised supervisor = true → supervisor = pid

/-- Before anything was seen there are no processes. -/
theorem watched_new : Watched .new (lockView []) where
  borrowed process stage inode found := absurd found (by simp [new])
  standing process member := absurd member (by simp [lockView, LockView.new])
  signalling process pid found := absurd found (by simp [new])
  killing process pid found := absurd found (by simp [new])
  pursued process stage pid found := absurd found (by simp [new])

section Steps

variable {name next : TunnelName} {view later : LockView} {process : Nat} {before after : Stage}

/-- The supervisors are those from before, except for the process that went on. -/
theorem supervised_moved (found : name.processes[process]? = some before)
    (processes : next.processes = name.processes.set process after) (other : Nat) :
    next.supervised other = if other = process then after.inRole else name.supervised other := by
  unfold supervised
  rw [processes, List.getElem?_set]
  by_cases same : process = other
  · have within : process < name.processes.length := (List.getElem?_eq_some_iff.mp found).1
    rw [if_pos same, if_pos (same ▸ within), if_pos same.symm, Option.any_some]
  · rw [if_neg same, if_neg (Ne.symm same)]

/-- A process goes on, and what is told of it and of the others stays true. -/
theorem Watched.move (watched : Watched name view)
    (found : name.processes[process]? = some before)
    (processes : next.processes = name.processes.set process after)
    (short : ∀ inode, after.isShort = true → after.holds = some inode →
      (process, inode) ∈ later.borrowed)
    (borrowed : ∀ pair ∈ view.borrowed, pair.1 ≠ process → pair ∈ later.borrowed)
    (standing : ∀ other ∈ later.standing,
      if other = process then after.wrote = true else other ∈ view.standing)
    (kept : ∀ other ∈ later.informed,
      (other ≠ process → other ∈ view.informed) ∧ (before.inRole = true → after.inRole = true))
    (gained : ∀ other ∈ later.unsucceeded,
      (other ≠ process → other ∈ view.unsucceeded) ∧ (after.inRole = true → before.inRole = true))
    (signalling : ∀ pid, after = .signalling pid → process ∈ later.informed →
      next.supervised pid = true)
    (killing : ∀ pid, after = .killing pid → process ∈ later.informed →
      ∃ supervisor, next.supervised supervisor = true)
    (pursued : ∀ pid, after.pursues = some pid → process ∈ later.unsucceeded →
      ∀ supervisor, next.supervised supervisor = true → supervisor = pid) : Watched next later := by
  have wasInRole (inRole : name.supervised process = true) : before.inRole = true := by
    obtain ⟨stage, there, inRole⟩ := supervised_iff.mp inRole
    exact Option.some.inj (found.symm.trans there) ▸ inRole
  have isInRole (inRole : before.inRole = true) : name.supervised process = true :=
    supervised_iff.mpr ⟨before, found, inRole⟩
  -- Whoever is informed still sees the supervisors of before, and unsucceeded ones see no new one.
  have persists {other : Nat} (informed : other ∈ later.informed) {supervisor : Nat}
      (was : name.supervised supervisor = true) : next.supervised supervisor = true := by
    rw [supervised_moved found processes]
    split
    · next same =>
      subst same
      exact (kept other informed).2 (wasInRole was)
    · exact was
  have noNew {other : Nat} (unsucceeded : other ∈ later.unsucceeded) {supervisor : Nat}
      (now : next.supervised supervisor = true) : name.supervised supervisor = true := by
    rw [supervised_moved found processes] at now
    split at now
    · next same =>
      subst same
      exact isInRole ((gained other unsucceeded).2 now)
    · exact now
  refine ⟨?_, ?_, ?_, ?_, ?_⟩
  · intro other stage inode there isShort holds
    rcases moved_cases processes there with ⟨rfl, rfl⟩ | ⟨different, there⟩
    · exact short inode isShort holds
    · exact borrowed _ (watched.borrowed other stage inode there isShort holds) different
  · intro other member
    have stands := standing other member
    split at stands
    · next same =>
      subst same
      have within : other < name.processes.length := (List.getElem?_eq_some_iff.mp found).1
      exact ⟨after, by rw [processes, List.getElem?_set_self within], stands⟩
    · next different =>
      obtain ⟨stage, there, wrote⟩ := watched.standing other stands
      exact ⟨stage, by rw [processes, List.getElem?_set_ne (Ne.symm different), there], wrote⟩
  · intro other pid there informed
    rcases moved_cases processes there with ⟨rfl, same⟩ | ⟨different, there⟩
    · exact signalling pid same.symm informed
    · exact persists informed
        (watched.signalling other pid there ((kept other informed).1 different))
  · intro other pid there informed
    rcases moved_cases processes there with ⟨rfl, same⟩ | ⟨different, there⟩
    · exact killing pid same.symm informed
    · obtain ⟨supervisor, was⟩ :=
        watched.killing other pid there ((kept other informed).1 different)
      exact ⟨supervisor, persists informed was⟩
  · intro other stage pid there pursues unsucceeded supervisor now
    rcases moved_cases processes there with ⟨rfl, rfl⟩ | ⟨different, there⟩
    · exact pursued pid pursues unsucceeded supervisor now
    · exact watched.pursued other stage pid there pursues ((gained other unsucceeded).1 different)
        supervisor (noNew unsucceeded now)

/-- A process that stays in its role changes no supervisors. -/
theorem supervised_same (found : name.processes[process]? = some before)
    (processes : next.processes = name.processes.set process after)
    (role : after.inRole = before.inRole) (other : Nat) :
    next.supervised other = name.supervised other := by
  rw [supervised_moved found processes]
  split
  · next same =>
    subst same
    rw [supervised, found, Option.any_some, role]
  · rfl

/-- A process goes on in the same role. -/
theorem Watched.keep (watched : Watched name view)
    (found : name.processes[process]? = some before)
    (processes : next.processes = name.processes.set process after)
    (short : ∀ inode, after.isShort = true → after.holds = some inode →
      (process, inode) ∈ later.borrowed)
    (borrowed : ∀ pair ∈ view.borrowed, pair.1 ≠ process → pair ∈ later.borrowed)
    (standing : later.standing = view.standing)
    (informed : ∀ other ∈ later.informed, other ≠ process → other ∈ view.informed)
    (unsucceeded : later.unsucceeded = view.unsucceeded)
    (role : after.inRole = before.inRole ∧ after.wrote = before.wrote)
    (signalling : ∀ pid, after = .signalling pid → process ∈ later.informed →
      name.supervised pid = true)
    (killing : ∀ pid, after = .killing pid → process ∈ later.informed →
      ∃ supervisor, name.supervised supervisor = true)
    (pursues : ∀ pid, after.pursues = some pid → before.pursues = some pid) :
    Watched next later := by
  have same := supervised_same found processes role.1
  refine watched.move found processes short borrowed ?_ ?_ ?_ ?_ ?_ ?_
  · intro other member
    rw [standing] at member
    split
    · next same =>
      subst same
      obtain ⟨stage, there, wrote⟩ := watched.standing other member
      obtain rfl := Option.some.inj (found.symm.trans there)
      rw [role.2, wrote]
    · exact member
  · exact fun other member => ⟨informed other member, role.1.trans⟩
  · exact fun other member => ⟨fun _ => unsucceeded ▸ member, role.1.symm.trans⟩
  · intro pid now member
    rw [same]
    exact signalling pid now member
  · intro pid now member
    obtain ⟨supervisor, supervised⟩ := killing pid now member
    exact ⟨supervisor, (same supervisor).trans supervised⟩
  · intro pid now member supervisor supervised
    exact watched.pursued process before pid found (pursues pid now) (unsucceeded ▸ member)
      supervisor ((same supervisor).symm.trans supervised)

/-- A process that shows nothing goes on in the same role, with the lock it had. -/
theorem Watched.quiet (watched : Watched name view)
    (found : name.processes[process]? = some before)
    (processes : next.processes = name.processes.set process after)
    (short : ∀ inode, after.isShort = true → after.holds = some inode →
      before.isShort = true ∧ before.holds = some inode)
    (role : after.inRole = before.inRole ∧ after.wrote = before.wrote)
    (calm : ∀ pid, after ≠ .signalling pid ∧ after ≠ .killing pid)
    (pursues : ∀ pid, after.pursues = some pid → before.pursues = some pid) :
    Watched next view := by
  refine watched.keep found processes ?_ (fun _ member _ => member) rfl (fun _ member _ => member)
    rfl role (fun pid now => absurd now (calm pid).1) (fun pid now => absurd now (calm pid).2) pursues
  intro inode isShort holds
  obtain ⟨was, held⟩ := short inode isShort holds
  exact watched.borrowed process before inode found was held

/-- A supervisor ends, and may keep its lock for a moment. -/
theorem Watched.end (watched : Watched name view)
    (found : name.processes[process]? = some before)
    (processes : next.processes = name.processes.set process after)
    (short : ∀ inode, after.isShort = true → after.holds = some inode →
      (process, inode) ∈ later.borrowed)
    (borrowed : ∀ pair ∈ view.borrowed, pair ∈ later.borrowed)
    (standing : later.standing = view.standing.filter (· ≠ process))
    (informed : later.informed = [])
    (unsucceeded : later.unsucceeded = view.unsucceeded)
    (idle : after.inRole = false ∧ after.pursues = none) : Watched next later := by
  have notInRole : ¬ after.inRole = true := by simp [idle.1]
  refine watched.move found processes short (fun pair member _ => borrowed pair member) ?_ ?_ ?_
    ?_ ?_ ?_
  · intro other member
    rw [standing, List.mem_filter, decide_eq_true_eq] at member
    rw [if_neg member.2]
    exact member.1
  · exact fun other member => absurd member (by simp [informed])
  · exact fun other member => ⟨fun _ => unsucceeded ▸ member, fun inRole => absurd inRole notInRole⟩
  · exact fun pid _ member => absurd member (by simp [informed])
  · exact fun pid _ member => absurd member (by simp [informed])
  · exact fun pid now => absurd (idle.2.symm.trans now) (by simp)

end Steps

end TunnelName

end Gritty
