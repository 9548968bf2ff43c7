import Gritty.Connect.TunnelMonitor

/-! When the supervisor kills its ssh child, and when it must not. -/

namespace Gritty

/-- How many probes of the current child have failed in a row. -/
def failuresInARow : List MonitorNote → Nat
  | [] => 0
  | note :: earlier =>
    match note with
    | .probed _ alive => if alive then 0 else failuresInARow earlier + 1
    | .spawned => 0
    | .path _ | .killed _ _ | .died _ | .attempted _ _ => failuresInARow earlier

/-- Whether the path was unsatisfied since the last successful probe. -/
def unsatisfiedSince : List MonitorNote → Bool
  | [] => false
  | note :: earlier =>
    match note with
    | .probed _ alive => !alive && unsatisfiedSince earlier
    | .path status => status = .unsatisfied || unsatisfiedSince earlier
    | .spawned | .killed _ _ | .died _ | .attempted _ _ => unsatisfiedSince earlier

/-! A death, a kill and an attempt are no probes, and neither are they news of the path. -/

section Notes

variable (earlier : List MonitorNote)

/-- A probe that is answered ends the row of failures; another one lengthens it. -/
@[simp] theorem failuresInARow_probed (debounced alive : Bool) :
    failuresInARow (.probed debounced alive :: earlier) =
      if alive then 0 else failuresInARow earlier + 1 := rfl

/-- A change of the network leaves the row of failures. -/
@[simp] theorem failuresInARow_path (status : PathStatus) :
    failuresInARow (.path status :: earlier) = failuresInARow earlier := rfl

/-- A kill leaves the row of failures. -/
@[simp] theorem failuresInARow_killed (uptime : Nat) (reason : KillReason) :
    failuresInARow (.killed uptime reason :: earlier) = failuresInARow earlier := rfl

/-- Only a probe that fails leaves it standing that the network was gone. -/
@[simp] theorem unsatisfiedSince_probed (debounced alive : Bool) :
    unsatisfiedSince (.probed debounced alive :: earlier) =
      (!alive && unsatisfiedSince earlier) := rfl

/-- That the network is gone is remembered. -/
@[simp] theorem unsatisfiedSince_path (status : PathStatus) :
    unsatisfiedSince (.path status :: earlier) =
      (status = .unsatisfied || unsatisfiedSince earlier) := rfl

/-- A spawn leaves what is known of the network. -/
@[simp] theorem unsatisfiedSince_spawned :
    unsatisfiedSince (.spawned :: earlier) = unsatisfiedSince earlier := rfl

/-- A kill leaves what is known of the network. -/
@[simp] theorem unsatisfiedSince_killed (uptime : Nat) (reason : KillReason) :
    unsatisfiedSince (.killed uptime reason :: earlier) = unsatisfiedSince earlier := rfl

/-- A death leaves what is known of the network. -/
@[simp] theorem unsatisfiedSince_died (uptime : Nat) :
    unsatisfiedSince (.died uptime :: earlier) = unsatisfiedSince earlier := rfl

/-- An attempt leaves what is known of the network. -/
@[simp] theorem unsatisfiedSince_attempted (waited : Option WaitOutcome) (backoff : Nat) :
    unsatisfiedSince (.attempted waited backoff :: earlier) = unsatisfiedSince earlier := rfl

end Notes

/-- Whether a probe after a changed path has just failed, and the path was unsatisfied before it. -/
def failedDebounced : List MonitorNote → Bool
  | .probed true false :: earlier => unsatisfiedSince earlier
  | _ => false

/-- A kill that is neither a shutdown nor a lost lock is of a child that had time to start, and for a reason. -/
def KillJustified : MonitorNote → List MonitorNote → Prop
  | .killed uptime reason, earlier =>
    reason = .shutdown ∨ reason = .lockLost ∨ spawnGrace ≤ uptime ∧
      (reason = .tick false ∨ probeFailuresBeforeRespawn ≤ failuresInARow earlier ∨
        failedDebounced earlier = true)
  | .spawned, _ | .path _, _ | .probed _ _, _ | .died _, _ | .attempted _ _, _ => True

namespace TunnelMonitor

/-- Every kill so far was justified when it was made. -/
def KillsJustified (monitor : TunnelMonitor) : Prop := EachFits KillJustified monitor.history

/-- A probe tick fires for a child that had no time to bind its socket, and has not bound it. -/
def ticksEarly (monitor : TunnelMonitor) (action : MonitorAction) : Bool :=
  match monitor.phase, action with
  | .watching child, .probeTick true false =>
    monitor.tickAt ≤ monitor.now && !child.pastSpawnGrace monitor.now
  | _, _ => false

/-- What the supervisor counts of its child is what has happened, and the ticks are far apart. -/
structure Counted (now tickAt : Nat) (history : List MonitorNote) (child : ChildState) : Prop where
  spawned : child.spawnedAt ≤ now
  failures : child.probeFailures ≤ failuresInARow history
  apart : 0 < child.probeFailures → child.spawnedAt + probeInterval ≤ tickAt + tickTolerance

/-- What holds of the child in each phase. -/
def PhaseFits (monitor : TunnelMonitor) : MonitorPhase → Prop
  | .watching child => Counted monitor.now monitor.tickAt monitor.history child
  | .probing child debounced =>
    Counted monitor.now monitor.tickAt monitor.history child ∧
      if debounced then monitor.ms.sawUnsatisfied = true
      else child.spawnedAt + probeInterval ≤ monitor.tickAt + tickTolerance ∧
        (0 < child.probeFailures → spawnGrace ≤ child.uptime monitor.now)
  | .respawning _ | .waiting _ _ | .attempting _ | .spawning _ | .exited => True

/-- What the supervisor keeps, so that every kill is justified. -/
structure Watchful (monitor : TunnelMonitor) : Prop where
  justified : monitor.KillsJustified
  unsatisfied : monitor.ms.sawUnsatisfied = true → unsatisfiedSince monitor.history = true
  fits : monitor.PhaseFits monitor.phase

/-- A tick is due a whole interval after the last one, but for the tolerance. -/
theorem nextTick_apart (due now period : Nat) :
    now + period ≤ nextTick due now period + tickTolerance := by
  unfold nextTick
  split <;> omega

/-- Two ticks are further apart than a child needs to start. -/
theorem spawnGrace_le : spawnGrace + tickTolerance ≤ probeInterval := by decide

variable {monitor next : TunnelMonitor} {child : ChildState}

/-- A child that a probe at an earlier tick failed for has had the time to start. -/
theorem Counted.past {now tickAt : Nat} {history : List MonitorNote}
    (counted : Counted now tickAt history child) (failed : 0 < child.probeFailures)
    (due : tickAt ≤ now) : spawnGrace ≤ child.uptime now := by
  have apart := counted.apart failed
  have grace := spawnGrace_le
  unfold ChildState.uptime
  omega

/-- The child of a watching supervisor. -/
theorem Watchful.counted (watchful : monitor.Watchful) (here : monitor.phase = .watching child) :
    Counted monitor.now monitor.tickAt monitor.history child := by
  have fits := watchful.fits
  rwa [here] at fits

/-- A note that is no probe and no new child leaves what is counted. -/
theorem Counted.noted {now tickAt : Nat} {history : List MonitorNote} {entry : MonitorNote}
    (counted : Counted now tickAt history child)
    (same : failuresInARow (entry :: history) = failuresInARow history) :
    Counted now tickAt (entry :: history) child :=
  ⟨counted.spawned, same ▸ counted.failures, counted.apart⟩

/-- A change of the path is seen. -/
theorem Watchful.netChanged (watchful : monitor.Watchful) (status : PathStatus)
    (here : monitor.phase = .watching child) : (monitor.netChanged status).Watchful := by
  have counted := watchful.counted here
  refine ⟨⟨trivial, watchful.justified⟩, fun saw => ?_, ?_⟩
  · simp only [TunnelMonitor.netChanged, Bool.or_eq_true, decide_eq_true_eq] at saw
    simp only [TunnelMonitor.netChanged, note, unsatisfiedSince_path, Bool.or_eq_true,
      decide_eq_true_eq]
    exact saw.imp id watchful.unsatisfied
  · simp only [TunnelMonitor.netChanged, note, here, PhaseFits]
    exact counted.noted (failuresInARow_path _ status)

/-- A probe after a changed path starts only if the path was unsatisfied. -/
theorem Watchful.netProbe (watchful : monitor.Watchful) (here : monitor.phase = .watching child) :
    (monitor.netProbe child).Watchful := by
  have counted := watchful.counted here
  simp only [TunnelMonitor.netProbe]
  split
  · next saw => exact ⟨watchful.justified, watchful.unsatisfied, counted, saw⟩
  · refine ⟨watchful.justified, watchful.unsatisfied, ?_⟩
    simp only [here, PhaseFits]
    exact counted

/-- A kill that is justified, of a child that is still to be waited for. -/
theorem Watchful.killToRespawn {reason : KillReason} (earlier : monitor.KillsJustified)
    (unsatisfied : monitor.ms.sawUnsatisfied = true → unsatisfiedSince monitor.history = true)
    (counted : Counted monitor.now monitor.tickAt monitor.history child)
    (justified : KillJustified (.killed (child.uptime monitor.now) reason) monitor.history) :
    (monitor.killToRespawn child reason).Watchful where
  justified := ⟨justified, earlier⟩
  unsatisfied saw := (unsatisfiedSince_killed _ _ _).trans (unsatisfied saw)
  fits := counted.noted (failuresInARow_killed _ _ _)

/-- Whatever tick is next, a supervisor that lost its lock kills its child and is done. -/
theorem Watchful.lostLock (watchful : monitor.Watchful) (child : ChildState) (tickAt : Nat) :
    Watchful { { monitor with tickAt }.kill child .lockLost with phase := .exited } :=
  ⟨⟨Or.inr (Or.inl rfl), watchful.justified⟩,
    fun saw => (unsatisfiedSince_killed _ _ _).trans (watchful.unsatisfied saw), trivial⟩

/-- If the next tick is far away, a child that had time to start may be killed for its missing socket. -/
theorem Watchful.socketGone (watchful : monitor.Watchful) (here : monitor.phase = .watching child)
    {tickAt : Nat} (apart : child.spawnedAt + probeInterval ≤ tickAt + tickTolerance)
    (started : spawnGrace ≤ child.uptime monitor.now) :
    ({ monitor with tickAt }.killToRespawn child (.tick false)).Watchful := by
  have counted := watchful.counted here
  exact Watchful.killToRespawn watchful.justified watchful.unsatisfied
    ⟨counted.spawned, counted.failures, fun _ => apart⟩ (Or.inr (Or.inr ⟨started, Or.inl rfl⟩))

/-- If this tick and the next one are far apart, the tunnel may be probed. -/
theorem Watchful.startProbe (watchful : monitor.Watchful) (here : monitor.phase = .watching child)
    {tickAt : Nat} (apart : child.spawnedAt + probeInterval ≤ tickAt + tickTolerance)
    (due : monitor.tickAt ≤ monitor.now) :
    Watchful { monitor with tickAt, phase := .probing child false } := by
  have counted := watchful.counted here
  exact ⟨watchful.justified, watchful.unsatisfied,
    ⟨counted.spawned, counted.failures, fun _ => apart⟩, apart,
    fun failed => counted.past failed due⟩

/-- A tick that fires for a child with its socket, or with time to bind it, kills with reason. -/
theorem Watchful.probeTick (watchful : monitor.Watchful) (here : monitor.phase = .watching child)
    (due : monitor.tickAt ≤ monitor.now) {owned socketFileExists : Bool}
    (timely : monitor.ticksEarly (.probeTick owned socketFileExists) = false) :
    (monitor.probeTick child owned socketFileExists).Watchful := by
  have apart : child.spawnedAt + probeInterval ≤
      nextTick monitor.tickAt monitor.now probeInterval + tickTolerance := by
    have whole := nextTick_apart monitor.tickAt monitor.now probeInterval
    have spawned := (watchful.counted here).spawned
    omega
  cases owned with
  | false =>
    rw [probeTick_lost]
    exact watchful.lostLock child _
  | true =>
    cases socketFileExists with
    | false =>
      have started : spawnGrace ≤ child.uptime monitor.now := by
        simpa [ticksEarly, here, due, ChildState.pastSpawnGrace] using timely
      rw [probeTick_gone]
      exact watchful.socketGone here apart started
    | true =>
      rw [probeTick_there]
      exact watchful.startProbe here apart due

/-- The tunnel is seen alive: what was counted is cleared. -/
theorem Watchful.healthy (earlier : monitor.KillsJustified) (child : ChildState)
    (spawned : child.spawnedAt ≤ monitor.now) :
    (monitor.healthy { child with probeFailures := 0 }).Watchful where
  justified := earlier
  unsatisfied saw := absurd saw Bool.false_ne_true
  fits := ⟨spawned, Nat.zero_le _, fun failed => absurd failed (Nat.lt_irrefl 0)⟩

/-- A probe after a changed path ends: if it failed, the path was unsatisfied before it. -/
theorem Watchful.netProbed (watchful : monitor.Watchful)
    (here : monitor.phase = .probing child true) (alive : Bool) :
    (monitor.netProbed child alive).Watchful := by
  have fits := watchful.fits
  rw [here] at fits
  obtain ⟨counted, saw⟩ := fits
  have since := watchful.unsatisfied (by simpa using saw)
  have noted : (monitor.note (.probed true alive)).KillsJustified := ⟨trivial, watchful.justified⟩
  cases alive with
  | true => exact Watchful.healthy noted child counted.spawned
  | false =>
    have still (_ : monitor.ms.sawUnsatisfied = true) :
        unsatisfiedSince (.probed true false :: monitor.history) = true := by simpa using since
    have more : Counted monitor.now monitor.tickAt (.probed true false :: monitor.history) child :=
      ⟨counted.spawned, by simpa using Nat.le_succ_of_le counted.failures, counted.apart⟩
    simp only [TunnelMonitor.netProbed, Bool.false_eq_true, if_false]
    split
    · next past =>
      have started : spawnGrace ≤ child.uptime monitor.now := of_decide_eq_true past
      exact Watchful.killToRespawn noted still more
        (Or.inr (Or.inr ⟨started, Or.inr (Or.inr since)⟩))
    · exact ⟨noted, still, more⟩

/-- A probe at a tick ends: the second failure in a row is of a child that was up for an interval. -/
theorem Watchful.tickProbed (watchful : monitor.Watchful)
    (here : monitor.phase = .probing child false) (alive : Bool) :
    (monitor.tickProbed child alive).Watchful := by
  have fits := watchful.fits
  rw [here] at fits
  obtain ⟨counted, apart, past⟩ := fits
  have noted : (monitor.note (.probed false alive)).KillsJustified := ⟨trivial, watchful.justified⟩
  cases alive with
  | true => exact Watchful.healthy noted child counted.spawned
  | false =>
    have still (saw : monitor.ms.sawUnsatisfied = true) :
        unsatisfiedSince (.probed false false :: monitor.history) = true := by
      simpa using watchful.unsatisfied saw
    have failed : child.probeFailures + 1 ≤
        failuresInARow (.probed false false :: monitor.history) := by
      simpa using counted.failures
    have more : Counted monitor.now monitor.tickAt (.probed false false :: monitor.history)
        { child with probeFailures := child.probeFailures + 1 } :=
      ⟨counted.spawned, failed, fun _ => apart⟩
    simp only [TunnelMonitor.tickProbed, Bool.false_eq_true, if_false]
    split
    · next kills =>
      have twice : probeFailuresBeforeRespawn ≤ child.probeFailures + 1 := by
        simpa [respawnNow] using kills
      have started : spawnGrace ≤ child.uptime monitor.now := by
        apply past
        unfold probeFailuresBeforeRespawn at twice
        omega
      exact Watchful.killToRespawn noted still more
        (Or.inr (Or.inr ⟨started, Or.inr (Or.inl (twice.trans failed))⟩))
    · exact ⟨noted, still, more⟩

/-- A dead child leaves nothing behind that could justify a kill of the next one. -/
theorem Watchful.childExits (watchful : monitor.Watchful) (child : ChildState)
    (code : Option Nat) : (monitor.childExits child code).Watchful := by
  have away (saw : false = true) (history : List MonitorNote) :
      unsatisfiedSince history = true := absurd saw Bool.false_ne_true
  simp only [TunnelMonitor.childExits]
  split
  · exact ⟨watchful.justified, watchful.unsatisfied, trivial⟩
  · cases classifyExit code with
    | nonTransient => exact ⟨watchful.justified, fun saw => away saw _, trivial⟩
    | transient =>
      exact ⟨⟨trivial, watchful.justified⟩, fun saw => away saw _, trivial⟩

/-- Another attempt kills nothing. -/
theorem Watchful.attempt (watchful : monitor.Watchful) (respawn : Respawn)
    (waited : Option WaitOutcome) : (monitor.attempt respawn waited).Watchful :=
  ⟨⟨trivial, watchful.justified⟩,
    fun saw => (unsatisfiedSince_attempted _ _ _).trans (watchful.unsatisfied saw), trivial⟩

/-- The turn of the loop that begins a respawn keeps the monitor watchful. -/
theorem Watchful.turn (watchful : monitor.Watchful) (respawn : Respawn) (owned : Bool) :
    (monitor.turn respawn owned).Watchful := by
  simp only [TunnelMonitor.turn]
  split
  · exact ⟨watchful.justified, watchful.unsatisfied, trivial⟩
  · split
    · exact watchful.attempt respawn none
    · exact ⟨watchful.justified, watchful.unsatisfied, trivial⟩

/-- However the wait ended, the monitor stays watchful. -/
theorem Watchful.waited (watchful : monitor.Watchful) (respawn : Respawn)
    (outcome : WaitOutcome) : (monitor.waited respawn outcome).Watchful := by
  cases outcome with
  | cancelled => exact ⟨watchful.justified, watchful.unsatisfied, trivial⟩
  | _ => exact watchful.attempt _ _

/-- Looking at the file of a kick while waiting keeps the monitor watchful. -/
theorem Watchful.waitPoll (watchful : monitor.Watchful) (respawn : Respawn) (wait : BackoffWait)
    (kick : Bool) : (monitor.waitPoll respawn wait kick).Watchful := by
  simp only [TunnelMonitor.waitPoll]
  split
  · exact watchful.waited respawn .kicked
  · split
    · exact watchful.waited respawn .wake
    · exact ⟨watchful.justified, watchful.unsatisfied, trivial⟩

/-- News of the path during a wait are about no child. -/
theorem Watchful.waitNetChanged (watchful : monitor.Watchful) (respawn : Respawn)
    (wait : BackoffWait) (status : PathStatus) (here : monitor.phase = .waiting respawn wait) :
    (monitor.waitNetChanged respawn wait status).Watchful := by
  have still (saw : monitor.ms.sawUnsatisfied = true) :
      unsatisfiedSince (.path status :: monitor.history) = true := by
    simp [watchful.unsatisfied saw]
  have noted : (monitor.note (.path status)).Watchful := by
    refine ⟨⟨trivial, watchful.justified⟩, still, ?_⟩
    simp only [note, here, PhaseFits]
  simp only [TunnelMonitor.waitNetChanged]
  split
  · exact ⟨noted.justified, still, trivial⟩
  · split
    · exact noted.waited _ .netRecovered
    · exact ⟨noted.justified, still, trivial⟩

/-- Bringing the remote up, or failing to, keeps the monitor watchful. -/
theorem Watchful.ensureRemote (watchful : monitor.Watchful) (sawUnsatisfied : Bool)
    (result : Option String) : (monitor.ensureRemote sawUnsatisfied result).Watchful := by
  simp only [TunnelMonitor.ensureRemote]
  split
  · exact ⟨watchful.justified, watchful.unsatisfied, trivial⟩
  · cases result <;> exact ⟨watchful.justified, watchful.unsatisfied, trivial⟩

/-- A new child starts with nothing counted. -/
theorem Watchful.spawnTunnel (watchful : monitor.Watchful) (sawUnsatisfied spawns : Bool) :
    (monitor.spawnTunnel sawUnsatisfied spawns).Watchful := by
  simp only [TunnelMonitor.spawnTunnel]
  split
  · refine ⟨⟨trivial, watchful.justified⟩,
      fun saw => (unsatisfiedSince_spawned _).trans (watchful.unsatisfied saw), ?_⟩
    exact ⟨Nat.le_refl _, Nat.zero_le _, fun failed => absurd failed (Nat.lt_irrefl 0)⟩
  · exact ⟨watchful.justified, watchful.unsatisfied, trivial⟩

/-- The child only gets older. -/
theorem Watchful.pass (watchful : monitor.Watchful) (elapsed wall : Nat) :
    Watchful { monitor with now := monitor.now + elapsed, wall } := by
  have older {child : ChildState}
      (counted : Counted monitor.now monitor.tickAt monitor.history child) :
      Counted (monitor.now + elapsed) monitor.tickAt monitor.history child :=
    ⟨Nat.le_add_right_of_le counted.spawned, counted.failures, counted.apart⟩
  refine ⟨watchful.justified, watchful.unsatisfied, ?_⟩
  have fits := watchful.fits
  cases here : monitor.phase with
  | watching child =>
    rw [here] at fits
    exact older fits
  | probing child debounced =>
    rw [here] at fits
    obtain ⟨counted, rest⟩ := fits
    refine ⟨older counted, ?_⟩
    cases debounced with
    | true => exact rest
    | false =>
      refine ⟨rest.1, fun failed => (rest.2 failed).trans ?_⟩
      exact Nat.sub_le_sub_right (Nat.le_add_right _ _) _
  | _ => trivial

/-- A step keeps every kill justified, unless a probe tick is early. -/
theorem Watchful.step {action : MonitorAction} (watchful : monitor.Watchful)
    (timely : monitor.ticksEarly action = false)
    (stepped : monitor.step action = some next) : next.Watchful := by
  cases stepped_of_step stepped with
  | pass elapsed wall => exact watchful.pass elapsed wall
  | cancel => exact ⟨watchful.justified, watchful.unsatisfied, watchful.fits⟩
  | stopped child here =>
    exact ⟨⟨Or.inl rfl, watchful.justified⟩,
      fun saw => (unsatisfiedSince_killed _ _ _).trans (watchful.unsatisfied saw), trivial⟩
  | netChanged child status here => exact watchful.netChanged status here
  | netProbe child here => exact watchful.netProbe here
  | probeTick child owned socketFileExists here due => exact watchful.probeTick here due timely
  | netProbed child alive here => exact watchful.netProbed here alive
  | tickProbed child alive here => exact watchful.tickProbed here alive
  | childExits child code here => exact watchful.childExits child code
  | turn respawn owned here => exact watchful.turn respawn owned
  | waitElapsed respawn wait here => exact watchful.waited respawn .elapsed
  | waitPoll respawn wait kick here => exact watchful.waitPoll respawn wait kick
  | waitNetChanged respawn wait status here =>
    exact watchful.waitNetChanged respawn wait status here
  | waitCancelled respawn wait here => exact watchful.waited respawn .cancelled
  | ensureRemote sawUnsatisfied result here => exact watchful.ensureRemote sawUnsatisfied result
  | spawnTunnel sawUnsatisfied spawns here => exact watchful.spawnTunnel sawUnsatisfied spawns

/-- A supervisor that has just got its child has killed none. -/
theorem start_watchful (wall : Nat) (remoteSock : String) : (start wall remoteSock).Watchful :=
  ⟨⟨trivial, trivial⟩, fun saw => absurd saw Bool.false_ne_true,
    Nat.le_refl _, Nat.zero_le _, fun failed => absurd failed (Nat.lt_irrefl 0)⟩

/-- An early probe tick kills a child that may still be starting. -/
theorem early_kills {action : MonitorAction} (early : monitor.ticksEarly action = true) :
    ∃ next, monitor.step action = some next ∧ ¬ next.KillsJustified := by
  unfold ticksEarly at early
  split at early
  · next child here =>
    simp only [Bool.and_eq_true, decide_eq_true_eq, Bool.not_eq_true', ChildState.pastSpawnGrace,
      decide_eq_false_iff_not] at early
    obtain ⟨due, young⟩ := early
    refine ⟨monitor.probeTick child true false, by simp only [TunnelMonitor.step, here, if_pos due], ?_⟩
    rw [probeTick_gone]
    rintro ⟨justified, -⟩
    rcases justified with shutdown | lost | ⟨old, -⟩
    · simp at shutdown
    · simp at lost
    · exact young old
  · exact absurd early Bool.false_ne_true

end TunnelMonitor

open TunnelMonitor

/--
Along a run of the supervisor, every kill but those of a shutdown and a lost lock is of a child past the spawn grace, and for a reason,
exactly as long as no probe tick finds the socket file missing while the child is within the grace.
-/
theorem killsJustified_along_iff (wall : Nat) (remoteSock : String)
    (actions : List MonitorAction) :
    (tunnelMonitor wall remoteSock).Along KillsJustified (.start wall remoteSock) actions ↔
      (tunnelMonitor wall remoteSock).Meets
        (fun monitor action => monitor.ticksEarly action = false)
        (.start wall remoteSock) actions := by
  have holds : ∀ monitor : TunnelMonitor, monitor.Watchful → monitor.KillsJustified :=
    fun _ watchful => watchful.justified
  have preserved : ∀ (monitor : TunnelMonitor) action next, monitor.Watchful →
      monitor.ticksEarly action = false →
      (tunnelMonitor wall remoteSock).step monitor action = some next → next.Watchful :=
    fun _ _ _ watchful timely stepped => watchful.step timely stepped
  have broken : ∀ (monitor : TunnelMonitor) action, monitor.Watchful →
      ¬ monitor.ticksEarly action = false →
      ∃ next, (tunnelMonitor wall remoteSock).step monitor action = some next ∧
        ¬ next.KillsJustified :=
    fun _ _ _ early => early_kills (by simpa using early)
  exact Machine.along_iff_meets holds preserved broken (start_watchful wall remoteSock) actions

/-- A child dies after 27 seconds and is replaced a second later: the tick after 30 seconds finds the new one without its socket. -/
def replacedBeforeTick : List MonitorAction :=
  [.pass (27 * second) (27 * second), .childExits (some 255), .turn true,
    .pass (1 * second) (28 * second), .waitElapsed, .ensureRemote none, .spawnTunnel true,
    .pass (2 * second) (30 * second), .probeTick true false]

/-- The new child is killed two seconds after it was spawned. -/
theorem starting_child_killed : ¬ ∀ wall remoteSock actions,
    (tunnelMonitor wall remoteSock).Along KillsJustified (.start wall remoteSock) actions := by
  intro always
  have along := always 0 "/run/ctl.sock" replacedBeforeTick
  have killed : ((tunnelMonitor 0 "/run/ctl.sock").run (.start 0 "/run/ctl.sock")
      replacedBeforeTick).any (fun last =>
        last.history.head? = some (.killed (2 * second) (.tick false))) = true := by
    decide +kernel
  obtain ⟨last, ran, newest⟩ := (Option.any_eq_true _ _).mp killed
  obtain ⟨earlier, history⟩ := List.head?_eq_some_iff.mp (of_decide_eq_true newest)
  have justified : last.KillsJustified := along.last ran
  rw [KillsJustified, history, eachFits_cons] at justified
  rcases justified.1 with shutdown | lost | ⟨old, -⟩
  · exact absurd shutdown (by decide)
  · exact absurd lost (by decide)
  · exact absurd old (by decide)

end Gritty
