import Gritty.Connect.TunnelMonitor

/-! The climb of the respawn backoff, and what lowers it. -/

namespace Gritty

/-- The backoff after the latest attempt. -/
def lastBackoff : List MonitorNote → Option Nat
  | [] => none
  | note :: earlier =>
    match note with
    | .attempted _ backoff => some backoff
    | .spawned | .path _ | .probed _ _ | .killed _ _ | .died _ => lastBackoff earlier

/-- How long the children were up that died since the latest attempt. -/
def diedSince : List MonitorNote → List Nat
  | [] => []
  | note :: earlier =>
    match note with
    | .attempted _ _ => []
    | .died uptime => uptime :: diedSince earlier
    | .spawned | .path _ | .probed _ _ | .killed _ _ => diedSince earlier

section Notes

variable (earlier : List MonitorNote)

@[simp] theorem lastBackoff_attempted (waited : Option WaitOutcome) (backoff : Nat) :
    lastBackoff (.attempted waited backoff :: earlier) = some backoff := rfl

@[simp] theorem lastBackoff_died (uptime : Nat) :
    lastBackoff (.died uptime :: earlier) = lastBackoff earlier := rfl

@[simp] theorem diedSince_died (uptime : Nat) :
    diedSince (.died uptime :: earlier) = uptime :: diedSince earlier := rfl

end Notes

/-- A note about neither an attempt nor a death. -/
def MonitorNote.aside : MonitorNote → Bool
  | .spawned | .path _ | .probed _ _ | .killed _ _ => true
  | .attempted _ _ | .died _ => false

theorem lastBackoff_aside {note : MonitorNote} (aside : note.aside = true)
    (earlier : List MonitorNote) : lastBackoff (note :: earlier) = lastBackoff earlier := by
  cases note with
  | attempted waited backoff => exact absurd aside Bool.false_ne_true
  | _ => rfl

theorem diedSince_aside {note : MonitorNote} (aside : note.aside = true)
    (earlier : List MonitorNote) : diedSince (note :: earlier) = diedSince earlier := by
  cases note with
  | attempted waited backoff => exact absurd aside Bool.false_ne_true
  | died uptime => exact absurd aside Bool.false_ne_true
  | _ => rfl

/-- An attempt has a lower backoff than the one before it only after a healthy child or a recovered network. -/
def NeverLowered : MonitorNote → List MonitorNote → Prop
  | .attempted waited backoff, earlier =>
    ∀ previous, lastBackoff earlier = some previous → backoff < previous →
      waited = some .netRecovered ∨ ∃ uptime ∈ diedSince earlier, healthyChildThreshold ≤ uptime
  | .spawned, _ | .path _, _ | .probed _ _, _ | .killed _ _, _ | .died _, _ => True

theorem neverLowered_aside {note : MonitorNote} (aside : note.aside = true)
    (earlier : List MonitorNote) : NeverLowered note earlier := by
  cases note with
  | attempted waited backoff => exact absurd aside Bool.false_ne_true
  | _ => trivial

/-! ### The doubling rule -/

theorem doubleBackoff_bounds (cur : Nat) :
    minRespawnBackoff ≤ doubleBackoff cur ∧ doubleBackoff cur ≤ maxRespawnBackoff := by
  unfold doubleBackoff minRespawnBackoff maxRespawnBackoff second
  omega

/-- Doubling a backoff does not lower it. -/
theorem le_doubleBackoff {cur : Nat} (bounded : cur ≤ maxRespawnBackoff) :
    cur ≤ doubleBackoff cur := by
  unfold doubleBackoff
  unfold maxRespawnBackoff at *
  omega

namespace TunnelMonitor

/-- The climb of the backoff is in order. -/
structure BackoffKept (monitor : TunnelMonitor) : Prop where
  least : minRespawnBackoff ≤ monitor.ms.backoff
  most : monitor.ms.backoff ≤ maxRespawnBackoff
  /-- A wait is no longer than the current backoff. -/
  waits : ∀ respawn wait, monitor.phase = .waiting respawn wait →
    wait.deadline ≤ wait.monoAnchor + monitor.ms.backoff
  /-- The backoff is the one after the latest attempt. -/
  latest : ∀ backoff, lastBackoff monitor.history = some backoff → monitor.ms.backoff = backoff
  climbs : EachFits NeverLowered monitor.history

/-- A child that the supervisor killed young dies while the backoff is above what an attempt without a sleep leaves. -/
def forgetsClimb (monitor : TunnelMonitor) (action : MonitorAction) : Bool :=
  match monitor.phase, action with
  | .watching child, .childExits code =>
    !monitor.cancelled && classifyExit code = .transient && monitor.ms.weKilled &&
      child.uptime monitor.now < healthyChildThreshold && doubleBackoff 0 < monitor.ms.backoff
  | _, _ => false

/-- The sleep of an episode follows the backoff, or comes from a healthy child. -/
structure Follows (monitor : TunnelMonitor) (sleep : Nat) : Prop where
  bounded : sleep ≤ monitor.ms.backoff
  healthy : doubleBackoff sleep < monitor.ms.backoff →
    ∃ uptime ∈ diedSince monitor.history, healthyChildThreshold ≤ uptime

/-- The climb is in order, and the episode that may be going on keeps it so. -/
structure Climbing (monitor : TunnelMonitor) : Prop extends BackoffKept monitor where
  respawning : ∀ respawn, monitor.phase = .respawning respawn → monitor.Follows respawn.sleep
  waiting : ∀ respawn wait, monitor.phase = .waiting respawn wait →
    monitor.Follows respawn.sleep ∧ wait.deadline = wait.monoAnchor + respawn.sleep

variable {monitor next : TunnelMonitor} {child : ChildState}

/-- A step that leaves backoff and climb alone, and is not within an episode afterwards. -/
theorem Climbing.outside (climbing : monitor.Climbing)
    (backoff : next.ms.backoff = monitor.ms.backoff)
    (latest : lastBackoff next.history = lastBackoff monitor.history)
    (climbs : EachFits NeverLowered next.history)
    (phase : ∀ respawn, next.phase ≠ .respawning respawn)
    (waiting : ∀ respawn wait, next.phase ≠ .waiting respawn wait) : next.Climbing where
  least := backoff ▸ climbing.least
  most := backoff ▸ climbing.most
  waits respawn wait here := absurd here (waiting respawn wait)
  latest value is := by rw [backoff]; exact climbing.latest value (latest ▸ is)
  climbs := climbs
  respawning respawn here := absurd here (phase respawn)
  waiting respawn wait here := absurd here (waiting respawn wait)

/-- A step that changes nothing of an episode that may be going on. -/
theorem Climbing.same (climbing : monitor.Climbing) (phase : next.phase = monitor.phase)
    (backoff : next.ms.backoff = monitor.ms.backoff)
    (latest : lastBackoff next.history = lastBackoff monitor.history)
    (died : diedSince next.history = diedSince monitor.history)
    (climbs : EachFits NeverLowered next.history) : next.Climbing where
  least := backoff ▸ climbing.least
  most := backoff ▸ climbing.most
  waits respawn wait here := by
    rw [backoff]
    exact climbing.waits respawn wait (phase ▸ here)
  latest value is := by
    rw [backoff]
    exact climbing.latest value (latest ▸ is)
  climbs := climbs
  respawning respawn here := by
    obtain ⟨bounded, healthy⟩ := climbing.respawning respawn (phase ▸ here)
    exact ⟨backoff ▸ bounded, by rw [backoff, died]; exact healthy⟩
  waiting respawn wait here := by
    obtain ⟨⟨bounded, healthy⟩, deadline⟩ := climbing.waiting respawn wait (phase ▸ here)
    exact ⟨⟨backoff ▸ bounded, by rw [backoff, died]; exact healthy⟩, deadline⟩

/-- A note about neither an attempt nor a death. -/
theorem Climbing.noted (climbing : monitor.Climbing) {entry : MonitorNote}
    (aside : entry.aside = true) : (monitor.note entry).Climbing :=
  climbing.same rfl rfl (lastBackoff_aside aside _) (diedSince_aside aside _)
    ⟨neverLowered_aside aside _, climbing.climbs⟩

/-- The supervisor is watching or probing its child again, or is done. -/
theorem Climbing.moved (climbing : monitor.Climbing) {phase : MonitorPhase} {ms : MonitorState}
    (backoff : ms.backoff = monitor.ms.backoff)
    (apart : ∀ respawn, phase ≠ .respawning respawn)
    (idle : ∀ respawn wait, phase ≠ .waiting respawn wait) :
    Climbing { monitor with ms, phase } :=
  climbing.outside backoff rfl climbing.climbs apart idle

/-- The backoff advances from a sleep that follows it, or from a recovered network. -/
theorem Climbing.attempt (climbing : monitor.Climbing) (respawn : Respawn)
    {waited : Option WaitOutcome}
    (fine : waited = some .netRecovered ∨ monitor.Follows respawn.sleep) :
    (monitor.attempt respawn waited).Climbing where
  least := (doubleBackoff_bounds respawn.sleep).1
  most := (doubleBackoff_bounds respawn.sleep).2
  waits respawn wait here := absurd here (by simp [TunnelMonitor.attempt])
  latest value is := Option.some.inj is
  climbs := by
    refine ⟨fun previous is lower => ?_, climbing.climbs⟩
    rcases fine with recovered | follows
    · exact Or.inl recovered
    · rw [← climbing.latest previous is] at lower
      exact Or.inr (follows.healthy lower)
  respawning respawn here := absurd here (by simp [TunnelMonitor.attempt])
  waiting respawn wait here := absurd here (by simp [TunnelMonitor.attempt])

/-- An episode starts or goes on with a sleep that follows the backoff. -/
theorem Climbing.respawn (climbing : monitor.Climbing) {respawn : Respawn}
    (follows : monitor.Follows respawn.sleep) :
    Climbing { monitor with phase := .respawning respawn } where
  least := climbing.least
  most := climbing.most
  waits _ _ here := absurd here (by simp)
  latest := climbing.latest
  climbs := climbing.climbs
  respawning other here := by
    obtain rfl : respawn = other := MonitorPhase.respawning.inj here
    exact ⟨follows.bounded, follows.healthy⟩
  waiting _ _ here := absurd here (by simp)

/-- After a failed attempt the sleep is the backoff itself. -/
theorem Climbing.retry (climbing : monitor.Climbing) (sawUnsatisfied : Bool) :
    (monitor.retry sawUnsatisfied).Climbing := by
  refine climbing.respawn ⟨Nat.le_refl _, fun lower => ?_⟩
  exact absurd (le_doubleBackoff climbing.most) (Nat.not_le.mpr lower)

/-- An episode waits for as long as its sleep. -/
theorem Climbing.wait (climbing : monitor.Climbing) {respawn : Respawn} {wait : BackoffWait}
    (follows : monitor.Follows respawn.sleep) (deadline : wait.deadline = wait.monoAnchor + respawn.sleep) :
    Climbing { monitor with phase := .waiting respawn wait } where
  least := climbing.least
  most := climbing.most
  waits other otherWait here := by
    obtain ⟨rfl, rfl⟩ := MonitorPhase.waiting.inj here
    have bounded := follows.bounded
    show wait.deadline ≤ wait.monoAnchor + monitor.ms.backoff
    omega
  latest := climbing.latest
  climbs := climbing.climbs
  respawning _ here := absurd here (by simp)
  waiting other otherWait here := by
    obtain ⟨rfl, rfl⟩ := MonitorPhase.waiting.inj here
    exact ⟨⟨follows.bounded, follows.healthy⟩, deadline⟩

/-- The turn of the loop that begins a respawn keeps the climb. -/
theorem Climbing.turn (climbing : monitor.Climbing) {respawn : Respawn}
    (here : monitor.phase = .respawning respawn) (owned : Bool) :
    (monitor.turn respawn owned).Climbing := by
  have follows := climbing.respawning respawn here
  simp only [TunnelMonitor.turn]
  split
  · exact climbing.moved rfl (by simp) (by simp)
  · split
    · exact climbing.attempt respawn (Or.inr follows)
    · exact climbing.wait follows rfl

/-- However the wait ended, the climb is kept. -/
theorem Climbing.waited (climbing : monitor.Climbing) {respawn : Respawn}
    (follows : monitor.Follows respawn.sleep) (outcome : WaitOutcome) :
    (monitor.waited respawn outcome).Climbing := by
  cases outcome with
  | cancelled => exact climbing.moved rfl (by simp) (by simp)
  | netRecovered => exact climbing.attempt _ (Or.inl rfl)
  | elapsed => exact climbing.attempt respawn (Or.inr follows)
  | wake => exact climbing.attempt respawn (Or.inr follows)
  | kicked => exact climbing.attempt respawn (Or.inr follows)

/-- Looking at the file of a kick while waiting keeps the climb. -/
theorem Climbing.waitPoll (climbing : monitor.Climbing) {respawn : Respawn} {wait : BackoffWait}
    (here : monitor.phase = .waiting respawn wait) (kick : Bool) :
    (monitor.waitPoll respawn wait kick).Climbing := by
  obtain ⟨follows, deadline⟩ := climbing.waiting respawn wait here
  simp only [TunnelMonitor.waitPoll]
  split
  · exact climbing.waited follows .kicked
  · split
    · exact climbing.waited follows .wake
    · exact climbing.wait follows deadline

/-- A change of the network while waiting keeps the climb. -/
theorem Climbing.waitNetChanged (climbing : monitor.Climbing) {respawn : Respawn}
    {wait : BackoffWait} (here : monitor.phase = .waiting respawn wait) (status : PathStatus) :
    (monitor.waitNetChanged respawn wait status).Climbing := by
  have noted : (monitor.note (.path status)).Climbing := climbing.noted rfl
  obtain ⟨follows, deadline⟩ := noted.waiting respawn wait here
  simp only [TunnelMonitor.waitNetChanged]
  split
  · have still : (monitor.note (.path status)).Follows
        { respawn with sawUnsatisfied := true }.sleep :=
      ⟨follows.bounded, follows.healthy⟩
    exact noted.wait still deadline
  · split
    · exact noted.attempt _ (Or.inl rfl)
    · exact noted.wait follows deadline

/-- A kill is no attempt, and the child is still to be waited for. -/
theorem Climbing.killToRespawn (climbing : monitor.Climbing) (child : ChildState)
    (reason : KillReason) : (monitor.killToRespawn child reason).Climbing := by
  have noted : (monitor.kill child reason).Climbing := climbing.noted rfl
  exact noted.moved rfl (by simp) (by simp)

/-- A tick of the probe keeps the climb. -/
theorem Climbing.probeTick (climbing : monitor.Climbing) (child : ChildState)
    (owned socketFileExists : Bool) :
    (monitor.probeTick child owned socketFileExists).Climbing := by
  have ticked (tickAt : Nat) : Climbing { monitor with tickAt } :=
    climbing.same rfl rfl rfl rfl climbing.climbs
  cases owned with
  | false =>
    rw [probeTick_lost]
    have noted : (TunnelMonitor.kill { monitor with
        tickAt := nextTick monitor.tickAt monitor.now probeInterval } child .lockLost).Climbing :=
      (ticked _).noted rfl
    exact noted.moved rfl (by simp) (by simp)
  | true =>
    cases socketFileExists with
    | false =>
      rw [probeTick_gone]
      exact (ticked _).killToRespawn child _
    | true =>
      rw [probeTick_there]
      have probing (tickAt : Nat) :
          Climbing { monitor with tickAt, phase := .probing child false } :=
        (ticked tickAt).moved rfl (by simp) (by simp)
      exact probing _

/-- The answer of a probe after a change of the network keeps the climb. -/
theorem Climbing.netProbed (climbing : monitor.Climbing) (child : ChildState) (alive : Bool) :
    (monitor.netProbed child alive).Climbing := by
  have noted : (monitor.note (.probed true alive)).Climbing := climbing.noted rfl
  cases alive with
  | true => exact noted.moved rfl (by simp) (by simp)
  | false =>
    simp only [TunnelMonitor.netProbed, Bool.false_eq_true, if_false]
    split
    · exact noted.killToRespawn child _
    · exact noted.moved rfl (by simp) (by simp)

/-- The answer of a probe at a tick keeps the climb. -/
theorem Climbing.tickProbed (climbing : monitor.Climbing) (child : ChildState) (alive : Bool) :
    (monitor.tickProbed child alive).Climbing := by
  have noted : (monitor.note (.probed false alive)).Climbing := climbing.noted rfl
  cases alive with
  | true => exact noted.moved rfl (by simp) (by simp)
  | false =>
    have watching : Climbing { monitor.note (.probed false false) with
        phase := .watching { child with probeFailures := child.probeFailures + 1 } } :=
      noted.moved rfl (by simp) (by simp)
    simp only [TunnelMonitor.tickProbed, Bool.false_eq_true, if_false]
    split
    · exact watching.killToRespawn _ _
    · exact watching

/-- A respawn episode starts with a sleep that follows the backoff, unless the climb is forgotten. -/
theorem Climbing.childExits (climbing : monitor.Climbing) (here : monitor.phase = .watching child)
    {code : Option Nat} (mild : monitor.forgetsClimb (.childExits code) = false) :
    (monitor.childExits child code).Climbing := by
  have calm : Climbing { monitor with ms := { monitor.ms with sawUnsatisfied := false } } :=
    climbing.same rfl rfl rfl rfl climbing.climbs
  simp only [TunnelMonitor.childExits]
  split
  · exact climbing.moved rfl (by simp) (by simp)
  · next going =>
    cases kind : classifyExit code with
    | nonTransient => exact calm.moved rfl (by simp) (by simp)
    | transient =>
      have died : Climbing { monitor with
          ms := { monitor.ms with sawUnsatisfied := false, weKilled := false }
          phase := .exited
          history := .died (child.uptime monitor.now) :: monitor.history } :=
        climbing.outside rfl (lastBackoff_died _ _) ⟨trivial, climbing.climbs⟩ (by simp) (by simp)
      have follows (sleep : Nat) (first : sleep = if monitor.ms.weKilled then 0
          else respawnSleep monitor.ms.backoff (child.uptime monitor.now)) :
          Follows { monitor with
            ms := { monitor.ms with sawUnsatisfied := false, weKilled := false }
            phase := .exited
            history := .died (child.uptime monitor.now) :: monitor.history } sleep := by
        subst first
        cases killed : monitor.ms.weKilled with
        | true =>
          -- The supervisor killed the child: there is no sleep.
          refine ⟨Nat.zero_le _, fun lower => ⟨_, List.mem_cons_self, ?_⟩⟩
          by_contra young
          have forgets : monitor.forgetsClimb (.childExits code) = true := by
            simp only [forgetsClimb, here, going, kind, killed, Bool.not_false, decide_true,
              Bool.and_true, Bool.and_eq_true, decide_eq_true_eq]
            exact ⟨⟨trivial, Nat.not_le.mp young⟩, lower⟩
          rw [mild] at forgets
          exact absurd forgets Bool.false_ne_true
        | false =>
          simp only [Bool.false_eq_true, if_false, respawnSleep]
          split
          · next old => exact ⟨climbing.least, fun _ => ⟨_, List.mem_cons_self, old⟩⟩
          · refine ⟨Nat.le_refl _, fun lower => ?_⟩
            exact absurd (le_doubleBackoff climbing.most) (Nat.not_le.mpr lower)
      exact died.respawn (follows _ rfl)

/-- A step keeps the climb, unless it is forgotten. -/
theorem Climbing.step {action : MonitorAction} (climbing : monitor.Climbing)
    (mild : monitor.forgetsClimb action = false)
    (stepped : monitor.step action = some next) : next.Climbing := by
  cases stepped_of_step stepped with
  | pass elapsed wall => exact climbing.same rfl rfl rfl rfl climbing.climbs
  | cancel => exact climbing.same rfl rfl rfl rfl climbing.climbs
  | stopped child here =>
    have noted : (monitor.kill child .shutdown).Climbing := climbing.noted rfl
    exact noted.moved rfl (by simp) (by simp)
  | netChanged child status here =>
    have noted : (monitor.note (.path status)).Climbing := climbing.noted rfl
    exact noted.same rfl rfl rfl rfl noted.climbs
  | netProbe child here =>
    simp only [TunnelMonitor.netProbe]
    split
    · exact climbing.moved rfl (by simp) (by simp)
    · exact climbing.same rfl rfl rfl rfl climbing.climbs
  | probeTick child owned socketFileExists here due =>
    exact climbing.probeTick child owned socketFileExists
  | netProbed child alive here => exact climbing.netProbed child alive
  | tickProbed child alive here => exact climbing.tickProbed child alive
  | childExits child code here => exact climbing.childExits here mild
  | turn respawn owned here => exact climbing.turn here owned
  | waitElapsed respawn wait here =>
    exact climbing.waited (climbing.waiting respawn wait here).1 .elapsed
  | waitPoll respawn wait kick here => exact climbing.waitPoll here kick
  | waitNetChanged respawn wait status here => exact climbing.waitNetChanged here status
  | waitCancelled respawn wait here =>
    exact climbing.waited (climbing.waiting respawn wait here).1 .cancelled
  | ensureRemote sawUnsatisfied result here =>
    simp only [TunnelMonitor.ensureRemote]
    split
    · exact climbing.moved rfl (by simp) (by simp)
    · cases result with
      | none => exact climbing.retry sawUnsatisfied
      | some sock => exact climbing.moved rfl (by simp) (by simp)
  | spawnTunnel sawUnsatisfied spawns here =>
    have noted : (monitor.note .spawned).Climbing := climbing.noted rfl
    simp only [TunnelMonitor.spawnTunnel]
    split
    · exact noted.moved rfl (by simp) (by simp)
    · exact climbing.retry sawUnsatisfied

/-- A supervisor that has just got its child has made no attempt. -/
theorem start_climbing (wall : Nat) (remoteSock : String) : (start wall remoteSock).Climbing where
  least := Nat.le_refl _
  most := by
    show minRespawnBackoff ≤ maxRespawnBackoff
    decide
  waits _ _ here := absurd here (by simp [start])
  latest _ is := absurd is (by simp [start, lastBackoff])
  climbs := ⟨trivial, trivial⟩
  respawning _ here := absurd here (by simp [start])
  waiting _ _ here := absurd here (by simp [start])

end TunnelMonitor

open TunnelMonitor

/--
The backoff stays between its bounds, no wait is longer than the backoff, and only a healthy child or a recovered network lowers it,
in every run in which no child that the supervisor killed young dies under a backoff above two seconds.
-/
theorem backoffKept_along (wall : Nat) (remoteSock : String) (actions : List MonitorAction)
    (mild : (tunnelMonitor wall remoteSock).Meets
      (fun monitor action => monitor.forgetsClimb action = false)
      (.start wall remoteSock) actions) :
    (tunnelMonitor wall remoteSock).Along BackoffKept (.start wall remoteSock) actions := by
  have holds : ∀ monitor : TunnelMonitor, monitor.Climbing → monitor.BackoffKept :=
    fun _ climbing => climbing.toBackoffKept
  have preserved : ∀ (monitor : TunnelMonitor) action next, monitor.Climbing →
      monitor.forgetsClimb action = false →
      (tunnelMonitor wall remoteSock).step monitor action = some next → next.Climbing :=
    fun _ _ _ climbing mild stepped => climbing.step mild stepped
  exact Machine.along_of_meets holds preserved (start_climbing wall remoteSock) mild

/-- A child dies at once, and its successor after six seconds: the backoff has climbed to four. -/
def climbTwice : List MonitorAction :=
  [.childExits (some 255), .turn true, .pass (1 * second) (1 * second), .waitElapsed,
    .ensureRemote none, .spawnTunnel true, .childExits (some 255), .turn true,
    .pass (2 * second) (3 * second), .waitElapsed, .ensureRemote none, .spawnTunnel true]

/-- The path is unsatisfied for a moment, and the third child is killed after six seconds for a failed probe. -/
def killedAfterPathChange : List MonitorAction :=
  climbTwice ++ [.pass (6 * second) (9 * second), .netChanged .unsatisfied,
    .pass (1 * second) (10 * second), .netProbe, .probed false, .childExits none, .turn true,
    .waitElapsed]

theorem backoffKept_along_climbTwice :
    (tunnelMonitor 0 "/run/ctl.sock").Along BackoffKept (.start 0 "/run/ctl.sock") climbTwice :=
  backoffKept_along 0 "/run/ctl.sock" climbTwice (by decide +kernel)

/-- The backoff falls from four seconds to two, though the child was young and the network did not recover. -/
theorem climb_forgotten : ¬ ∀ wall remoteSock actions,
    (tunnelMonitor wall remoteSock).Along BackoffKept (.start wall remoteSock) actions := by
  intro always
  have along := always 0 "/run/ctl.sock" killedAfterPathChange
  have lowered : ((tunnelMonitor 0 "/run/ctl.sock").run (.start 0 "/run/ctl.sock")
      killedAfterPathChange).any (fun last =>
        last.history.head? = some (.attempted (some .elapsed) (2 * second)) &&
          lastBackoff last.history.tail = some (4 * second) &&
          (diedSince last.history.tail).all fun uptime => uptime < healthyChildThreshold) = true := by
    decide +kernel
  obtain ⟨last, ran, found⟩ := (Option.any_eq_true _ _).mp lowered
  simp only [Bool.and_eq_true, decide_eq_true_eq, List.all_eq_true] at found
  obtain ⟨⟨newest, before⟩, young⟩ := found
  obtain ⟨earlier, history⟩ := List.head?_eq_some_iff.mp newest
  rw [history, List.tail_cons] at before young
  have kept : last.BackoffKept := along.last ran
  have climbs := kept.climbs
  rw [history, eachFits_cons] at climbs
  rcases climbs.1 (4 * second) before (by decide) with recovered | ⟨uptime, died, old⟩
  · exact absurd recovered (by decide)
  · exact absurd old (Nat.not_le.mpr (young uptime died))

end Gritty
