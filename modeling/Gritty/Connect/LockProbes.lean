import Gritty.Connect.LockSights
import Gritty.Lib.Simulation

/-! A lock that looks held is held by a supervisor, and signals go to supervisors only. -/

namespace Gritty

/-- A supervisor was there where one was seen, refused a lock, or was signalled. -/
def Report.Truthful : Report → Prop
  | .touched _ => True
  | .held supervised => supervised = true
  | .refused supervised => supervised = true
  | .signalled supervised => supervised = true

/-- Where a disconnect goes on after a cleanup, it is after the same pid. -/
theorem Caller.cleanedUp_pursues {caller : Caller} {cleaned : Bool} {pid : Nat}
    (pursues : (caller.cleanedUp cleaned).pursues = some pid) : caller.pursues = some pid := by
  unfold Caller.cleanedUp at pursues
  split at pursues
  · exact absurd pursues (by simp [Stage.pursues])
  · cases caller <;> first | exact pursues | exact absurd pursues (by simp [Stage.pursues])

/-- Where a disconnect goes on after a probe, it is after the same pid. -/
theorem Caller.probed_pursues {caller : Caller} {held : Bool} {pid : Nat}
    (pursues : (caller.probed held).pursues = some pid) : caller.pursues = some pid := by
  unfold Caller.probed at pursues
  split at pursues
  · split at pursues
    · exact pursues
    · exact absurd pursues (by simp [Stage.pursues, Purpose.pursues, Caller.pursues])
  · exact absurd pursues (by simp [Stage.pursues])

/-- A process that has no role, no lock, and nobody to signal yet. -/
structure Stage.Idle (stage : Stage) : Prop where
  role : stage.inRole = false
  wrote : stage.wrote = false
  short : stage.isShort = false
  calm : ∀ pid, stage ≠ .signalling pid ∧ stage ≠ .killing pid

/-- A command goes on after a cleanup with no role, no lock and nobody to signal. -/
theorem Caller.cleanedUp_idle (caller : Caller) (cleaned : Bool) :
    (caller.cleanedUp cleaned).Idle := by
  unfold Caller.cleanedUp
  split
  · exact ⟨rfl, rfl, rfl, fun pid => by simp⟩
  · cases caller <;> exact ⟨rfl, rfl, rfl, fun pid => by simp⟩

/-- After a probe that found the lock free nobody is killed. -/
theorem Caller.probed_idle (caller : Caller) : (caller.probed false).Idle := by
  unfold Caller.probed
  split <;> exact ⟨rfl, rfl, rfl, fun pid => by simp⟩

/-- After a probe that found the lock held a disconnect kills, and it has no role and no lock. -/
theorem Caller.probed_held (caller : Caller) :
    (caller.probed true).inRole = false ∧ (caller.probed true).wrote = false ∧
      (caller.probed true).isShort = false ∧ ∀ pid, caller.probed true ≠ .signalling pid := by
  unfold Caller.probed
  split <;> exact ⟨rfl, rfl, rfl, fun pid => by simp⟩

namespace TunnelName

/-- Whoever found the lock held, was refused it, or sent a signal, met a supervisor. -/
def ProbesTruthful (name : TunnelName) : Prop := ∀ report ∈ name.reports, report.Truthful

/-- What the pid file says, if anything, is the pid of the supervisor that has written it. -/
def PidsTrue (name : TunnelName) : Prop :=
  ∀ (process : Nat) (stage : Stage) (pid : Nat), name.processes[process]? = some stage →
    stage.wrote = true → name.pidFile = some pid → pid = process

/-- What is removed may be the pid file. -/
theorem remove_pidFile (name : TunnelName) (process : Nat) (file : Sidecar) :
    (name.remove process file).pidFile = name.pidFile ∨
      (name.remove process file).pidFile = none := by
  cases file <;> simp [remove, touch, TunnelName.report]

/-- Whoever opens the lock file goes on with no role and no lock. -/
theorem openLock_moves (name : TunnelName) (process : Nat) (purpose : Purpose) :
    ∃ after, (name.openLock process purpose).processes = name.processes.set process after ∧
      after.Idle ∧ ∀ pid, after.pursues = some pid → purpose.pursues = some pid := by
  have opened (inode : Nat) : (Stage.opened purpose inode).Idle :=
    ⟨rfl, rfl, rfl, fun pid => by simp⟩
  unfold openLock
  split
  · next inode _ => exact ⟨_, rfl, opened inode, fun _ => id⟩
  · next caller _ => exact ⟨_, rfl, caller.probed_idle, fun _ => Caller.probed_pursues⟩
  · exact ⟨_, rfl, opened name.inodes, fun _ => id⟩

section Steps

variable {name next : TunnelName} {process : Nat} {before after : Stage}

/-- Whoever goes on without writing its pid leaves the pid file as true as it was. -/
theorem PidsTrue.move (pids : PidsTrue name) (found : name.processes[process]? = some before)
    (processes : next.processes = name.processes.set process after)
    (pidFile : next.pidFile = name.pidFile ∨ next.pidFile = none)
    (wrote : after.wrote = true → before.wrote = true) : PidsTrue next := by
  intro other stage pid there written read
  rcases pidFile with same | none
  · rw [same] at read
    rcases moved_cases processes there with ⟨rfl, rfl⟩ | ⟨_, there⟩
    · exact pids other before pid found (wrote written) read
    · exact pids other stage pid there written read
  · exact absurd (none.symm.trans read) (by simp)

/-- Every operation of a process keeps the pid file true. -/
theorem PidsTrue.advance (pids : PidsTrue name) (owned : Owned name)
    (found : name.processes[process]? = some before)
    (advanced : name.advance process before = some next) : PidsTrue next := by
  have nobody {stage : Stage} (no : stage.wrote = false) (yes : stage.wrote = true) :
      before.wrote = true := absurd (no.symm.trans yes) (by simp)
  cases before with
  | opening purpose =>
    cases advanced
    unfold openLock
    split
    · exact pids.move found rfl (Or.inl rfl) (nobody rfl)
    · next caller _ => exact pids.move found rfl (Or.inl rfl) (nobody caller.probed_idle.wrote)
    · exact pids.move found rfl (Or.inl rfl) (nobody rfl)
  | opened purpose inode =>
    cases advanced
    unfold tryLock
    split
    · exact pids.move found rfl (Or.inl rfl) (nobody rfl)
    · next caller _ =>
      exact pids.move found rfl (Or.inl rfl) (nobody (caller.cleanedUp_idle _).wrote)
    · next caller _ =>
      refine pids.move found rfl (Or.inl rfl) (nobody ?_)
      unfold Caller.probed
      split <;> rfl
    · exact pids.move found rfl (Or.inl rfl) (nobody rfl)
    · exact pids.move found rfl (Or.inl rfl) (nobody rfl)
  | removing purpose inode left =>
    cases left with
    | cons file left =>
      cases advanced
      exact pids.move found rfl (name.remove_pidFile process file) (nobody rfl)
    | nil =>
      cases purpose with
      | create =>
        -- It alone owns the files, so no other supervisor has written.
        cases advanced
        intro other stage pid there written read
        rcases moved_cases rfl there with ⟨rfl, rfl⟩ | ⟨different, there⟩
        · exact (Option.some.inj read).symm
        · obtain ⟨second, owns⟩ := Stage.owns_of_inRole (Stage.inRole_of_wrote written)
          exact absurd (owned.alone found rfl there (by rw [owns]; rfl)).symm different
      | clean caller =>
        cases advanced
        exact pids.move found rfl (Or.inl rfl) (nobody rfl)
      | probe caller =>
        cases advanced
        exact pids.move found rfl (Or.inl rfl) (nobody rfl)
  | writingInfo inode =>
    cases advanced
    exact pids.move found rfl (Or.inl rfl) id
  | supervising inode => exact absurd advanced (by simp [TunnelName.advance])
  | leaving inode left =>
    cases left with
    | cons file left =>
      cases advanced
      exact pids.move found rfl (name.remove_pidFile process file) id
    | nil =>
      cases advanced
      exact pids.move found rfl (Or.inl rfl) (nobody rfl)
  | releasing purpose inode =>
    cases advanced
    refine pids.move found rfl (Or.inl rfl) (nobody ?_)
    cases purpose with
    | create => rfl
    | clean caller => exact (caller.cleanedUp_idle _).wrote
    | probe caller => exact caller.probed_idle.wrote
  | readingPid =>
    simp only [TunnelName.advance] at advanced
    split at advanced
    · cases advanced
      exact pids.move found rfl (Or.inl rfl) (nobody rfl)
    · cases advanced
      exact pids.move found rfl (Or.inl rfl) (nobody rfl)
  | signalling pid =>
    cases advanced
    exact pids.move found rfl (Or.inl rfl) (nobody rfl)
  | pausing pid =>
    cases advanced
    exact pids.move found rfl (Or.inl rfl) (nobody rfl)
  | killing pid =>
    cases advanced
    exact pids.move found rfl (Or.inl rfl) (nobody rfl)
  | done => exact absurd advanced (by simp [TunnelName.advance])

/-- One more true report. -/
theorem ProbesTruthful.report (truthful : ProbesTruthful name) {report : Report}
    (new : report.Truthful) : ProbesTruthful (name.report report) := by
  intro other member
  rcases List.mem_append.mp member with earlier | last
  · exact truthful other earlier
  · exact List.mem_singleton.mp last ▸ new

/-- Who holds a lock that nobody has for a moment only is a supervisor. -/
theorem Watched.supervised_holder {view : LockView} (watched : Watched name view)
    {inode holder : Nat} (held : name.holder inode = some holder)
    (lasting : view.isBorrowed inode = false) : name.supervised holder = true := by
  obtain ⟨within, holds, -⟩ := List.findIdx?_eq_some_iff_getElem.mp held
  have there : name.processes[holder]? = some name.processes[holder] :=
    List.getElem?_eq_getElem within
  have holds : name.processes[holder].holds = some inode := by simpa using holds
  refine supervised_iff.mpr ⟨_, there, Stage.inRole_of_holds holds ?_⟩
  by_contra short
  have borrowed := watched.borrowed holder _ inode there (by simpa using short) holds
  rw [LockView.isBorrowed, List.any_eq_false] at lasting
  exact lasting _ borrowed (decide_eq_true rfl)

/-- A process that tries the lock is seen to, and so is what it gets. -/
theorem Watched.tryLock {view : LockView} (watched : Watched name view) {purpose : Purpose}
    {inode : Nat} (found : name.processes[process]? = some (.opened purpose inode))
    (undisturbed : name.undisturbed view (.advance process) = true) :
    Watched (name.tryLock process inode purpose)
      ((name.sights (.advance process)).foldl LockView.see view) := by
  have others : ∀ other ∈ process :: view.informed, other ≠ process → other ∈ view.informed :=
    fun other member different => (List.mem_cons.mp member).resolve_left different
  rw [sights, found]
  unfold TunnelName.tryLock
  cases held : name.holder inode with
  | some holder =>
    simp only [held, Option.isSome_some, if_true, List.foldl_cons, List.foldl_nil, LockView.see]
    cases purpose with
    | create =>
      exact watched.keep found rfl (fun _ short => absurd short (by simp [Stage.isShort]))
        (fun _ member _ => member) rfl others rfl ⟨rfl, rfl⟩ (fun pid now => by cases now)
        (fun pid now => by cases now) (fun pid pursues => absurd pursues (by simp [Stage.pursues]))
    | clean caller =>
      have idle := caller.cleanedUp_idle false
      exact watched.keep found rfl (fun _ short => absurd (idle.short.symm.trans short) (by simp))
        (fun _ member _ => member) rfl others rfl ⟨idle.role, idle.wrote⟩
        (fun pid now => absurd now (idle.calm pid).1) (fun pid now => absurd now (idle.calm pid).2)
        (fun pid => Caller.cleanedUp_pursues)
    | probe caller =>
      -- The lock is a supervisor's, so a disconnect that kills finds one.
      have lasting : view.isBorrowed inode = false := by
        simpa [TunnelName.undisturbed, found] using undisturbed
      have supervised := watched.supervised_holder held lasting
      obtain ⟨role, wrote, short, calm⟩ := caller.probed_held
      exact watched.keep found rfl (fun _ shortly => absurd (short.symm.trans shortly) (by simp))
        (fun _ member _ => member) rfl others rfl ⟨role, wrote⟩
        (fun pid now => absurd now (calm pid)) (fun _ _ _ => ⟨holder, supervised⟩)
        (fun pid => Caller.probed_pursues)
  | none =>
    simp only [held, Option.isSome_none, Bool.false_eq_true, if_false]
    -- A lock that is got only for a moment is seen to be borrowed.
    have borrows {after : Stage} (unlike : purpose ≠ .create)
        (processes : (name.tryLock process inode purpose).processes = name.processes.set process after)
        (holds : after.holds = some inode) (role : after.inRole = false ∧ after.wrote = false)
        (calm : ∀ pid, after ≠ .signalling pid ∧ after ≠ .killing pid)
        (pursues : ∀ pid, after.pursues = some pid → purpose.pursues = some pid) :
        Watched (name.tryLock process inode purpose)
          (view.see (.attempts process) |>.see (.borrows process inode)) := by
      refine watched.keep found processes ?_ (fun pair member _ => List.mem_cons_of_mem _ member) rfl
        others rfl role (fun pid now => absurd now (calm pid).1)
        (fun pid now => absurd now (calm pid).2) pursues
      intro other _ now
      obtain rfl := Option.some.inj (holds.symm.trans now)
      exact List.mem_cons_self
    unfold TunnelName.tryLock at borrows
    rw [held] at borrows
    cases purpose with
    | create =>
      -- It has become the supervisor, and whoever has signalled another one does not know.
      refine watched.move found rfl (fun _ short => absurd short (by simp [Stage.isShort]))
        (fun _ member _ => member) ?_ ?_ ?_ ?_ ?_ ?_
      · intro other member
        split
        · next same =>
          subst same
          obtain ⟨stage, there, wrote⟩ := watched.standing other member
          obtain rfl := Option.some.inj (found.symm.trans there)
          exact absurd wrote (by simp [Stage.wrote])
        · exact member
      · exact fun other member => ⟨others other member, fun inRole => absurd inRole (by simp [Stage.inRole])⟩
      · exact fun other member => absurd member List.not_mem_nil
      · exact fun pid now => by cases now
      · exact fun pid now => by cases now
      · exact fun pid pursues => absurd pursues (by simp [Stage.pursues, Purpose.pursues])
    | clean caller => exact borrows (by simp) rfl rfl ⟨rfl, rfl⟩ (fun pid => by simp) (fun pid => id)
    | probe caller => exact borrows (by simp) rfl rfl ⟨rfl, rfl⟩ (fun pid => by simp) (fun pid => id)

/-- Every operation of a process keeps what is told of the processes true. -/
theorem Watched.advance {view : LockView} (watched : Watched name view) (owned : Owned name)
    (pids : PidsTrue name) (found : name.processes[process]? = some before)
    (undisturbed : name.undisturbed view (.advance process) = true)
    (advanced : name.advance process before = some next) :
    Watched next ((name.sights (.advance process)).foldl LockView.see view) := by
  have lasting {stage : Stage} {held : Nat → Prop} (long : stage.isShort = false) : ∀ inode,
      stage.isShort = true → stage.holds = some inode → held inode :=
    fun _ short => absurd (long.symm.trans short) (by simp)
  -- A process that is in no role, and is to signal nobody, goes on like that.
  have idle {after : Stage} (silent : name.sights (.advance process) = [])
      (processes : next.processes = name.processes.set process after)
      (unlike : before.inRole = false ∧ before.wrote = false) (now : after.Idle)
      (pursues : ∀ pid, after.pursues = some pid → before.pursues = some pid) :
      Watched next ((name.sights (.advance process)).foldl LockView.see view) := by
    rw [silent]
    exact watched.quiet found processes (lasting now.short)
      ⟨now.role.trans unlike.1.symm, now.wrote.trans unlike.2.symm⟩ now.calm pursues
  cases before with
  | opening purpose =>
    have silent : name.sights (.advance process) = [] := by rw [sights, found]
    cases advanced
    obtain ⟨after, processes, now, pursues⟩ := name.openLock_moves process purpose
    exact idle silent processes ⟨rfl, rfl⟩ now pursues
  | opened purpose inode =>
    cases advanced
    exact watched.tryLock found undisturbed
  | removing purpose inode left =>
    cases left with
    | cons file left =>
      have silent : name.sights (.advance process) = [] := by
        rw [sights, found]
        cases purpose <;> rfl
      cases advanced
      rw [silent]
      exact watched.quiet found rfl (fun _ short holds => ⟨short, holds⟩) ⟨rfl, rfl⟩
        (fun pid => by simp) (fun _ => id)
    | nil =>
      -- A cleanup keeps its lock for a moment, after it has removed the file.
      have clean {purpose : Purpose} (unlike : purpose ≠ .create)
          (found : name.processes[process]? = some (.removing purpose inode [])) :
          Watched ((name.removeLock process).move process (.releasing purpose inode))
            ((name.sights (.advance process)).foldl LockView.see view) := by
        have silent : name.sights (.advance process) = [] := by
          rw [sights, found]
          cases purpose <;> first | rfl | exact absurd rfl unlike
        rw [silent]
        exact watched.quiet found rfl
          (fun _ _ holds => ⟨by simpa [Stage.isShort] using unlike, holds⟩)
          ⟨by simpa [Stage.inRole] using unlike, rfl⟩ (fun pid => by simp) (fun _ => id)
      cases purpose with
      | create =>
        -- It has written its pid, and stays the supervisor that it was.
        have shown : name.sights (.advance process) = [.writesPid process] := by rw [sights, found]
        cases advanced
        rw [shown]
        refine watched.move found rfl (lasting rfl) (fun _ member _ => member) ?_ ?_ ?_ ?_ ?_ ?_
        · intro other member
          split
          · rfl
          · next different => exact (List.mem_cons.mp member).resolve_left different
        · exact fun other member => ⟨fun _ => member, fun _ => rfl⟩
        · exact fun other member => ⟨fun _ => member, fun _ => rfl⟩
        · exact fun pid now => by cases now
        · exact fun pid now => by cases now
        · exact fun pid pursues => absurd pursues (by simp [Stage.pursues])
      | clean caller =>
        cases advanced
        exact clean (by simp) found
      | probe caller =>
        cases advanced
        exact clean (by simp) found
  | writingInfo inode =>
    have silent : name.sights (.advance process) = [] := by rw [sights, found]
    cases advanced
    rw [silent]
    exact watched.quiet found rfl (lasting rfl) ⟨rfl, rfl⟩ (fun pid => by simp) (fun _ => id)
  | supervising inode => exact absurd advanced (by simp [TunnelName.advance])
  | leaving inode left =>
    cases left with
    | cons file left =>
      have silent : name.sights (.advance process) = [] := by rw [sights, found]
      cases advanced
      rw [silent]
      exact watched.quiet found rfl (lasting rfl) ⟨rfl, rfl⟩ (fun pid => by simp) (fun _ => id)
    | nil =>
      have shown : name.sights (.advance process) = [.ends process, .borrows process inode] := by
        rw [sights, found]
      cases advanced
      rw [shown]
      exact watched.end found rfl
        (fun other _ holds => by obtain rfl := Option.some.inj holds; exact List.mem_cons_self)
        (fun pair member => List.mem_cons_of_mem _ member) rfl rfl rfl ⟨rfl, rfl⟩
  | releasing purpose inode =>
    have shown : name.sights (.advance process) = [.returns process] := by rw [sights, found]
    cases advanced
    rw [shown]
    -- Whatever it was for, the lock is released.
    have freed : ∀ pair ∈ view.borrowed, pair.1 ≠ process →
        pair ∈ (view.see (.returns process)).borrowed := fun pair member different =>
      List.mem_filter.mpr ⟨member, decide_eq_true different⟩
    have returns {after : Stage} (now : after.Idle)
        (pursues : ∀ pid, after.pursues = some pid → purpose.pursues = some pid) :
        Watched (name.move process after) (view.see (.returns process)) :=
      watched.keep found rfl (lasting now.short) freed rfl (fun _ member _ => member) rfl
        ⟨now.role, now.wrote⟩ (fun pid same => absurd same (now.calm pid).1)
        (fun pid same => absurd same (now.calm pid).2) pursues
    cases purpose with
    | create => exact returns ⟨rfl, rfl, rfl, fun pid => by simp⟩ (fun _ => id)
    | clean caller => exact returns (caller.cleanedUp_idle _) (fun _ => Caller.cleanedUp_pursues)
    | probe caller => exact returns caller.probed_idle (fun _ => Caller.probed_pursues)
  | readingPid =>
    have shown : name.sights (.advance process) = [.readsPid process] := by rw [sights, found]
    rw [shown]
    have others : ∀ other ∈ (view.see (.readsPid process)).informed, other ≠ process →
        other ∈ view.informed := by
      intro other member different
      simp only [LockView.see] at member
      split at member
      · exact List.mem_of_mem_filter member
      · exact (List.mem_cons.mp member).resolve_left different
    simp only [TunnelName.advance] at advanced
    split at advanced
    · next pid read =>
      cases advanced
      refine watched.keep found rfl (lasting rfl) (fun _ member _ => member) rfl others rfl
        ⟨rfl, rfl⟩ ?_ (fun pid now => by cases now)
        (fun pid pursues => absurd pursues (by simp [Stage.pursues]))
      -- What is read is the pid of the supervisor that stands.
      intro other now informed
      obtain rfl := Stage.signalling.inj now
      replace informed : process ∈ (if view.standing = [] then view.informed.filter (· ≠ process)
        else process :: view.informed) := informed
      split at informed
      · exact absurd rfl (of_decide_eq_true (List.mem_filter.mp informed).2)
      · next stands =>
        obtain ⟨supervisor, member⟩ := List.exists_mem_of_ne_nil _ stands
        obtain ⟨stage, there, wrote⟩ := watched.standing supervisor member
        obtain rfl := pids supervisor stage pid there wrote read
        exact supervised_iff.mpr ⟨stage, there, Stage.inRole_of_wrote wrote⟩
    · cases advanced
      exact watched.keep found rfl (lasting rfl) (fun _ member _ => member) rfl others rfl
        ⟨rfl, rfl⟩ (fun pid now => by cases now) (fun pid now => by cases now)
        (fun pid pursues => absurd pursues (by simp [Stage.pursues]))
  | signalling pid =>
    have shown : name.sights (.advance process) = [.signals process] := by rw [sights, found]
    cases advanced
    rw [shown]
    have informed : process ∈ view.informed := by
      simpa [TunnelName.undisturbed, found] using undisturbed
    obtain ⟨stage, there, inRole⟩ :=
      supervised_iff.mp (watched.signalling process pid found informed)
    obtain ⟨inode, owns⟩ := Stage.owns_of_inRole inRole
    refine watched.move found rfl (lasting rfl) (fun _ member _ => member) ?_ ?_ ?_ ?_ ?_ ?_
    · intro other member
      split
      · next same =>
        subst same
        obtain ⟨own, mine, wrote⟩ := watched.standing other member
        obtain rfl := Option.some.inj (found.symm.trans mine)
        exact absurd wrote (by simp [Stage.wrote])
      · exact member
    · exact fun other member => ⟨fun _ => member, fun inRole => absurd inRole (by simp [Stage.inRole])⟩
    · exact fun other member => ⟨fun different => (List.mem_cons.mp member).resolve_left different,
        fun inRole => absurd inRole (by simp [Stage.inRole])⟩
    · exact fun pid now => by cases now
    · exact fun pid now => by cases now
    · -- There is one supervisor, and it is the one that was signalled.
      intro other pursues _ supervisor now
      cases pursues
      rw [supervised_moved found rfl] at now
      split at now
      · exact absurd now (by simp [Stage.inRole])
      · obtain ⟨standing, stands, alsoInRole⟩ := supervised_iff.mp now
        obtain ⟨second, ownsToo⟩ := Stage.owns_of_inRole alsoInRole
        exact (owned.alone there owns stands (by rw [ownsToo]; rfl)).symm
  | pausing pid =>
    have silent : name.sights (.advance process) = [] := by rw [sights, found]
    cases advanced
    exact idle silent rfl ⟨rfl, rfl⟩ ⟨rfl, rfl, rfl, fun pid => by simp⟩ (fun _ => id)
  | killing pid =>
    have silent : name.sights (.advance process) = [] := by rw [sights, found]
    cases advanced
    exact idle silent rfl ⟨rfl, rfl⟩ ⟨rfl, rfl, rfl, fun pid => by simp⟩
      (fun pid pursues => absurd pursues (by simp [Stage.pursues, Purpose.pursues, Caller.pursues]))
  | done => exact absurd advanced (by simp [TunnelName.advance])

/-- An operation reports a supervisor only where there is one. -/
theorem ProbesTruthful.advance {view : LockView} (truthful : ProbesTruthful name)
    (watched : Watched name view) (found : name.processes[process]? = some before)
    (undisturbed : name.undisturbed view (.advance process) = true)
    (advanced : name.advance process before = some next) : ProbesTruthful next := by
  have touched : ProbesTruthful (name.touch process) := truthful.report trivial
  cases before with
  | opening purpose =>
    cases advanced
    unfold openLock
    split <;> exact truthful
  | opened purpose inode =>
    cases advanced
    unfold tryLock
    split
    · next holder held =>
      refine truthful.report (watched.supervised_holder held ?_)
      simpa [TunnelName.undisturbed, found] using undisturbed
    · exact truthful
    · next holder caller held =>
      refine truthful.report (watched.supervised_holder held ?_)
      simpa [TunnelName.undisturbed, found] using undisturbed
    · exact truthful
    · exact truthful
  | removing purpose inode left =>
    cases left with
    | cons file left =>
      cases advanced
      exact touched
    | nil =>
      cases purpose with
      | _ =>
        cases advanced
        exact touched
  | writingInfo inode =>
    cases advanced
    exact touched
  | supervising inode => exact absurd advanced (by simp [TunnelName.advance])
  | leaving inode left =>
    cases left with
    | _ =>
      cases advanced
      exact touched
  | releasing purpose inode =>
    cases advanced
    exact truthful
  | readingPid =>
    simp only [TunnelName.advance] at advanced
    split at advanced <;>
      · cases advanced
        exact truthful
  | signalling pid =>
    cases advanced
    refine truthful.report (watched.signalling process pid found ?_)
    simpa [TunnelName.undisturbed, found] using undisturbed
  | pausing pid =>
    cases advanced
    exact truthful
  | killing pid =>
    cases advanced
    refine truthful.report ?_
    have informed : process ∈ view.informed ∧ process ∈ view.unsucceeded := by
      simpa [TunnelName.undisturbed, found] using undisturbed
    -- There is a supervisor, and none has begun since this one was signalled.
    obtain ⟨supervisor, supervised⟩ := watched.killing process pid found informed.1
    obtain rfl := watched.pursued process _ pid found rfl informed.2 supervisor supervised
    exact supervised
  | done => exact absurd advanced (by simp [TunnelName.advance])

end Steps

/-- What is known while nobody gets in between: one supervisor at most, its pid in the file, and what was seen. -/
structure Settled (name : TunnelName) (seen : List LockSight) : Prop where
  owned : Owned name
  pids : PidsTrue name
  watched : Watched name (lockView seen)
  truthful : ProbesTruthful name

/-- Nothing has happened, so nothing is wrong. -/
theorem settled_new : Settled .new [] where
  owned := owned_new
  pids process stage pid found := absurd found (by simp [new])
  watched := watched_new
  truthful report member := absurd member (by simp [new])

section Runs

variable {name next : TunnelName} {seen : List LockSight} {process : Nat}

/-- A command that starts is in no role, and has nobody to signal. -/
theorem Settled.spawn (settled : Settled name seen) (command : Command) :
    Settled { name with processes := name.processes ++ [command.start] } seen := by
  have idle : command.start.Idle ∧ command.start.pursues = none := by
    cases command <;> exact ⟨⟨rfl, rfl, rfl, fun pid => by simp [Command.start]⟩, rfl⟩
  -- Whoever is anything was there before.
  have place {process : Nat} {stage : Stage}
      (there : (name.processes ++ [command.start])[process]? = some stage) :
      name.processes[process]? = some stage ∨ stage = command.start := by
    rw [List.getElem?_append] at there
    split at there
    · exact Or.inl there
    · exact Or.inr (List.mem_singleton.mp (List.mem_of_getElem? there))
  have stays {process : Nat} {stage : Stage} (there : name.processes[process]? = some stage) :
      (name.processes ++ [command.start])[process]? = some stage := by
    rw [List.getElem?_append_left (List.getElem?_eq_some_iff.mp there).1, there]
  have same (other : Nat) : TunnelName.supervised
      { name with processes := name.processes ++ [command.start] } other = true ↔
        name.supervised other = true := by
    rw [supervised_iff, supervised_iff]
    constructor
    · rintro ⟨stage, there, inRole⟩
      rcases place there with before | rfl
      · exact ⟨stage, before, inRole⟩
      · exact absurd (idle.1.role.symm.trans inRole) (by simp)
    · exact fun ⟨stage, there, inRole⟩ => ⟨stage, stays there, inRole⟩
  refine ⟨settled.owned.spawn command, ?_, ⟨?_, ?_, ?_, ?_, ?_⟩, settled.truthful⟩
  · intro process stage pid there wrote
    rcases place there with before | rfl
    · exact settled.pids process stage pid before wrote
    · exact absurd (idle.1.wrote.symm.trans wrote) (by simp)
  · intro process stage inode there short
    rcases place there with before | rfl
    · exact settled.watched.borrowed process stage inode before short
    · exact absurd (idle.1.short.symm.trans short) (by simp)
  · intro process member
    obtain ⟨stage, there, wrote⟩ := settled.watched.standing process member
    exact ⟨stage, stays there, wrote⟩
  · intro process pid there informed
    rcases place there with before | new
    · exact (same pid).mpr (settled.watched.signalling process pid before informed)
    · exact absurd new.symm (idle.1.calm pid).1
  · intro process pid there informed
    rcases place there with before | new
    · obtain ⟨supervisor, supervised⟩ := settled.watched.killing process pid before informed
      exact ⟨supervisor, (same supervisor).mpr supervised⟩
    · exact absurd new.symm (idle.1.calm pid).2
  · intro process stage pid there pursues unsucceeded supervisor supervised
    rcases place there with before | rfl
    · exact settled.watched.pursued process stage pid before pursues unsucceeded supervisor
        ((same supervisor).mp supervised)
    · exact absurd (idle.2.symm.trans pursues) (by simp)

/-- A process that crashes ends as what it was. -/
theorem Settled.crash (settled : Settled name seen) {stage : Stage} (owned : Owned (name.move process .done))
    (found : name.processes[process]? = some stage) :
    Settled (name.move process .done) (seen ++ name.sights (.crash process)) := by
  refine ⟨owned, settled.pids.move found rfl (Or.inl rfl) (fun wrote => by cases wrote), ?_,
    settled.truthful⟩
  rw [lockView_append, sights]
  split
  · exact settled.watched.end found rfl (fun _ short => by cases short) (fun pair member => member) rfl rfl
      rfl ⟨rfl, rfl⟩
  · next unsupervised =>
    -- Whoever is no supervisor may have held a lock for a moment.
    have role : stage.inRole = false := by
      simpa [supervised, found] using unsupervised
    have wrote : stage.wrote = false := by
      by_contra written
      exact absurd (role.symm.trans (Stage.inRole_of_wrote (by simpa using written))) (by simp)
    exact settled.watched.keep found rfl (fun _ short => by cases short)
      (fun pair member different => List.mem_filter.mpr ⟨member, decide_eq_true different⟩) rfl
      (fun _ member _ => member) rfl ⟨role.symm, wrote.symm⟩ (fun pid now => by cases now)
      (fun pid now => by cases now) (fun pid pursues => by cases pursues)

/-- As long as nobody gets in between, every report is true, and so is what is seen. -/
theorem settled_step {action : TunnelAction} (settled : Settled name seen)
    (apart : name.probesApart seen action = true) (stepped : name.step action = some next) :
    Settled next (seen ++ name.sights action) := by
  obtain ⟨inPlace, undisturbed⟩ := Bool.and_eq_true_iff.mp apart
  have owned := owned_step settled.owned inPlace stepped
  have silent {action : TunnelAction} (shown : name.sights action = []) :
      seen ++ name.sights action = seen := by rw [shown, List.append_nil]
  cases action with
  | spawn command =>
    cases stepped
    rw [silent rfl]
    exact settled.spawn command
  | advance process =>
    simp only [step] at stepped
    split at stepped
    · next stage found =>
      refine ⟨owned, settled.pids.advance settled.owned found stepped, ?_,
        settled.truthful.advance settled.watched found undisturbed stepped⟩
      rw [lockView_append]
      exact settled.watched.advance settled.owned settled.pids found undisturbed stepped
    · simp at stepped
  | leave process =>
    simp only [step] at stepped
    split at stepped
    · next inode found =>
      cases stepped
      by_cases same : name.lock = some inode
      · rw [if_pos same] at owned ⊢
        rw [silent (by rw [sights, found]; exact if_pos same)]
        exact ⟨owned, settled.pids.move found rfl (Or.inl rfl) (fun _ => rfl),
          settled.watched.quiet found rfl (fun _ short => by cases short) ⟨rfl, rfl⟩
            (fun pid => by simp) (fun pid pursues => by cases pursues), settled.truthful⟩
      · rw [if_neg same] at owned ⊢
        have shown : name.sights (.leave process) = [.ends process, .borrows process inode] := by
          rw [sights, found]
          exact if_neg same
        refine ⟨owned, settled.pids.move found rfl (Or.inl rfl) (fun wrote => by cases wrote), ?_,
          settled.truthful⟩
        rw [shown, lockView_append]
        exact settled.watched.end found rfl
          (fun other _ holds => by obtain rfl := Option.some.inj holds; exact List.mem_cons_self)
          (fun pair member => List.mem_cons_of_mem _ member) rfl rfl rfl ⟨rfl, rfl⟩
    · simp at stepped
  | maintain process =>
    simp only [step] at stepped
    split at stepped
    · next inode found =>
      cases stepped
      rw [silent rfl]
      have watched := settled.watched
      exact ⟨owned, settled.pids, ⟨watched.borrowed, watched.standing, watched.signalling,
        watched.killing, watched.pursued⟩, settled.truthful.report trivial⟩
    · simp at stepped
  | escalate process =>
    simp only [step] at stepped
    split at stepped
    · next pid found =>
      cases stepped
      rw [silent rfl]
      exact ⟨owned, settled.pids.move found rfl (Or.inl rfl) (fun wrote => by cases wrote),
        settled.watched.quiet found rfl (fun _ short => by cases short) ⟨rfl, rfl⟩
          (fun pid => by simp) (fun _ => id), settled.truthful⟩
    · simp at stepped
  | crash process =>
    simp only [step] at stepped
    split at stepped
    · next stage found =>
      cases stepped
      exact settled.crash owned found
    · simp at stepped

end Runs

end TunnelName

/--
In every run in which nobody gets in between, probes tell the truth and only supervisors are signalled.

Nobody gets in between if locks are got in place, if no probe and no tunnel that is created meets a lock that is held
for a moment only, if a disconnect reads the pid of a supervisor that does not end before the signal, and if no other
supervisor begins between its signal and its kill, and none ends between its last probe and its kill.
-/
theorem probesTruthful_along {actions : List TunnelAction}
    (apart : tunnelName.MeetsSeen TunnelName.sights
      (fun name seen action => name.probesApart seen action = true) tunnelName.init [] actions) :
    tunnelName.Along TunnelName.ProbesTruthful tunnelName.init actions := by
  -- What is settled follows the run with what was seen of it.
  have preserved : ∀ name seen action next, TunnelName.Settled name seen →
      name.probesApart seen action = true → tunnelName.step name action = some next →
        TunnelName.Settled next (seen ++ name.sights action) :=
    fun name seen action next settled met stepped => TunnelName.settled_step settled met stepped
  exact Machine.along_of_meetsSeen (fun name seen settled => settled.truthful) preserved
    TunnelName.settled_new apart

/-- A tunnel is created and found alive, and a disconnect signals it twice, since it does not leave. -/
def stubbornTunnel : List TunnelAction :=
  [.spawn .tunnelCreate] ++ operations 0 8 ++ [.spawn .probe] ++ operations 1 2 ++
    [.spawn .disconnect] ++ operations 2 4 ++ [.escalate 2] ++ operations 2 3 ++ [.crash 0] ++
      operations 2 8

theorem probesTruthful_along_stubbornTunnel :
    tunnelName.Along TunnelName.ProbesTruthful tunnelName.init stubbornTunnel :=
  probesTruthful_along (by decide)

/-- A supervisor crashed and left its pid file. A probe looks at the lock, and meanwhile a
disconnect finds it held and reads the pid. -/
def probedLeftovers : List TunnelAction :=
  [.spawn .tunnelCreate] ++ operations 0 8 ++ [.crash 0, .spawn .probe] ++ operations 1 2 ++
    [.spawn .disconnect] ++ operations 2 4

/-- It signals a process that is long gone. -/
theorem signalled_after_probedLeftovers :
    ¬ ∀ actions : List TunnelAction,
      tunnelName.Along TunnelName.ProbesTruthful tunnelName.init actions := by
  intro always
  have last := (always probedLeftovers).last rfl
  exact absurd (last (.signalled false) (by decide)) (by simp [Report.Truthful])

end Gritty
