import Gritty.Commands.Durations
import Gritty.Commands.Targets
import Gritty.Daemon.Untouched

/-! The linger column of a listing, and what the reaper makes of it. -/

namespace Gritty

namespace SessionEntry

/-- When the linger clock of a listed session started. -/
def lingerBaseline (entry : SessionEntry) : UInt64 := max entry.lastHeartbeat entry.createdAt

/-- How many seconds a listed session that nobody is attached to still lingers. -/
def lingerLeft (entry : SessionEntry) (now : UInt64) : Nat :=
  entry.lingerSecs.toNat - (now.toNat - entry.lingerBaseline.toNat)

/-- The linger column of a listing. -/
def formatLinger (entry : SessionEntry) (now : UInt64) : String :=
  if entry.lingerSecs = 0 then "-"
  else if entry.attached then formatDuration entry.lingerSecs.toNat
  else formatDuration (entry.lingerLeft now)

end SessionEntry

/-- Only nothing is shown as no seconds. -/
theorem formatDuration_zero_iff {secs : Nat} (small : secs < 2 ^ 64) :
    formatDuration secs = "0s" ↔ secs = 0 := by
  constructor
  · intro shown
    have read := parse_formatDuration small
    rw [shown, show parseDuration "0s" = .ok 0 by rfl, Except.ok.injEq] at read
    -- What has no whole unit is below a second.
    have above := lt_wholeUnits_add secs
    rw [← read] at above
    unfold durationUnit at above
    split_ifs at above <;> omega
  · rintro rfl
    rfl

variable {daemon last : Daemon} {processes : UInt32 → String × String} {id : UInt32}
  {session : SessionState} {metadata : SessionMetadata}

/-- A session's linger has expired at a later time exactly when what was left of it is over. -/
theorem lingerExpired_iff {entry : SessionEntry} {now later : UInt64}
    (listed : entry = Sessions.sessionEntry processes daemon.lastAttached id session)
    (published : session.metadata = some metadata) (lingers : metadata.lingerSecs ≠ 0)
    (deserted : metadata.attached = false) (past : metadata.lingerBaseline.toNat ≤ now.toNat)
    (onward : now.toNat ≤ later.toNat) :
    metadata.lingerExpired later = true ↔ now.toNat + entry.lingerLeft now ≤ later.toNat := by
  have baseline : entry.lingerBaseline = metadata.lingerBaseline := by
    rw [listed]
    simp only [Sessions.sessionEntry, published]
    rfl
  have secs : entry.lingerSecs = metadata.lingerSecs := by
    rw [listed]
    simp only [Sessions.sessionEntry, published]
  simp only [SessionMetadata.lingerExpired, lingers, deserted, ne_eq, not_false_eq_true,
    decide_true, Bool.not_false, Bool.and_self, Bool.true_and, decide_eq_true_eq]
  rw [SessionEntry.lingerLeft, baseline, secs]
  omega

/--
The linger column tells when the reaper will take a session.

A listing shows what is left of the linger of a session that nobody is attached to. As long as no request and no event is about the session, it is there after any run exactly if no round of the reaper fell on or after the end of that time; and if nothing is left, which alone is shown as no seconds, the next round takes it.
-/
theorem linger_column_holds {now : UInt64} {entry : SessionEntry}
    {earlier actions : List DaemonAction} {start : Watched} (is : start.daemon = daemon)
    (below : watchedDaemon.Meets NextIdBelowMax watchedDaemon.init earlier)
    (reached : watchedDaemon.run watchedDaemon.init earlier = some start)
    (found : daemon.sessions.lookup id = some session) (goesOn : session.finished = false)
    (published : session.metadata = some metadata)
    (lingers : metadata.lingerSecs ≠ 0) (deserted : metadata.attached = false)
    (past : metadata.lingerBaseline.toNat ≤ now.toNat)
    (listed : entry = Sessions.sessionEntry processes daemon.lastAttached id session)
    (onward : ∀ later, .round later ∈ actions → now.toNat ≤ later.toNat)
    (alone : daemonMachine.Meets (Daemon.LeavesAlone id) daemon actions)
    (ran : daemonMachine.run daemon actions = some last) :
    entry ∈ daemon.listing processes ∧
    entry.formatLinger now = formatDuration (entry.lingerLeft now) ∧
    (entry.formatLinger now = "0s" ↔ metadata.lingerExpired now = true) ∧
    (last.sessions.lookup id = some session ↔
      ∀ later, .round later ∈ actions → later.toNat < now.toNat + entry.lingerLeft now) ∧
    (last.sessions.lookup id = none ↔
      ∃ later, .round later ∈ actions ∧ now.toNat + entry.lingerLeft now ≤ later.toNat) := by
  have secs : entry.lingerSecs = metadata.lingerSecs := by
    rw [listed]
    simp only [Sessions.sessionEntry, published]
  have attached : entry.attached = false := by
    rw [listed]
    simp only [Sessions.sessionEntry, published, deserted]
  have column : entry.formatLinger now = formatDuration (entry.lingerLeft now) := by
    rw [SessionEntry.formatLinger, secs, if_neg lingers, attached]
    rfl
  -- Of all actions, only the rounds at or after the end of the linger take the session.
  have expires : actions.any session.expires = true ↔
      ∃ later, .round later ∈ actions ∧ now.toNat + entry.lingerLeft now ≤ later.toNat := by
    rw [List.any_eq_true]
    constructor
    · rintro ⟨action, inside, expired⟩
      cases action with
      | round later =>
        rw [SessionState.expires, published, Option.any_some] at expired
        exact ⟨later, inside, (lingerExpired_iff listed published lingers deserted past
          (onward later inside)).mp expired⟩
      | _ => exact absurd expired (by simp [SessionState.expires])
    · rintro ⟨later, inside, due⟩
      refine ⟨.round later, inside, ?_⟩
      rw [SessionState.expires, published, Option.any_some]
      exact (lingerExpired_iff listed published lingers deserted past
        (onward later inside)).mpr due
  -- The session's id is below the next one, so no action gives it out again.
  have well : WellNamed start :=
    Machine.run_induction (fun _ _ _ well met stepped => step_wellNamed well met stepped)
      new_wellNamed below reached
  subst is
  have after := Daemon.run_spares found goesOn (well.below id session found) alone ran
  refine ⟨?_, column, ?_, ?_, ?_⟩
  · exact Sessions.mem_buildSessionEntries.mpr
      ⟨id, session, Sessions.lookup_reapSessions found goesOn, listed⟩
  -- Seconds that are left are shown as none only if there are none.
  · have small : entry.lingerLeft now < 2 ^ 64 :=
      Nat.lt_of_le_of_lt (Nat.sub_le ..) entry.lingerSecs.toNat_lt
    rw [column, formatDuration_zero_iff small,
      lingerExpired_iff listed published lingers deserted past (Nat.le_refl _)]
    omega
  · rw [after]
    by_cases some_ : actions.any session.expires = true
    · rw [if_pos some_]
      obtain ⟨later, inside, due⟩ := expires.mp some_
      refine ⟨fun none_ => absurd none_ (by simp), fun early => ?_⟩
      have before := early later inside
      omega
    · rw [if_neg some_]
      refine ⟨fun _ later inside => ?_, fun _ => rfl⟩
      by_contra due
      exact some_ (expires.mpr ⟨later, inside, Nat.le_of_not_lt due⟩)
  · rw [after, ← expires]
    by_cases some_ : actions.any session.expires = true
    · simp [some_]
    · simp [some_]

/-- A session of a minute's linger is created, and its client leaves. -/
def leftForAMinute : List DaemonAction :=
  [.control (steadyConn 0 7) (.newSession "laptop/work" "" "" 80 24 "laptop" 60),
    .task 0 (.writes 0 false 1000 1000 "" false 60)]

/-- What is kept of the session then. -/
def leftMetadata : SessionMetadata :=
  { SessionMetadata.publish { initialDeviceId := 7, lingerSecs := 60 } "/dev/pts/1" 1000 with
    attached := false
    lastHeartbeat := 1000 }

def leftSession : SessionState where
  handle := 0
  finished := false
  closed := false
  metadata := some leftMetadata
  config := { initialDeviceId := 7, lingerSecs := 60 }
  inbox := [.active 0 "laptop" 0 0 0 0 false true]
  name := some "laptop/work"

def leftDaemon : Daemon where
  sessions := AList.insert 0 leftSession ∅
  nextId := 1
  lastAttached := some 0
  spawned := 1
  stopped := false

/-- A session that is shown with a minute left is gone after a minute. -/
theorem linger_column_holds_minute :
    (leftDaemon.sessions.reapSessions.lookup 0 = some leftSession) ∧
    ∃ last, daemonMachine.run leftDaemon [.round 1030, .round 1060] = some last ∧
      last.sessions.lookup 0 = none := by
  have reached : watchedDaemon.run watchedDaemon.init leftForAMinute =
      some { daemon := leftDaemon, lastServed := some 0 } := rfl
  have below : watchedDaemon.Meets NextIdBelowMax watchedDaemon.init leftForAMinute :=
    Machine.meets_cons (by decide) rfl (Machine.meets_cons (by decide) rfl trivial)
  have alone : daemonMachine.Meets (Daemon.LeavesAlone 0) leftDaemon [.round 1030, .round 1060] :=
    Machine.meets_cons ⟨id, by decide⟩ rfl (Machine.meets_cons ⟨id, by decide⟩ rfl trivial)
  have found : leftDaemon.sessions.lookup 0 = some leftSession := rfl
  have past : leftMetadata.lingerBaseline.toNat ≤ (1010 : UInt64).toNat := by decide
  have ran : daemonMachine.run leftDaemon [.round 1030, .round 1060] =
      some { leftDaemon with sessions := ∅ } := rfl
  have listed : Sessions.sessionEntry (fun _ => ("-", "")) leftDaemon.lastAttached 0 leftSession =
      Sessions.sessionEntry (fun _ => ("-", "")) leftDaemon.lastAttached 0 leftSession := rfl
  have holds := linger_column_holds rfl below reached found rfl rfl (by decide) rfl past listed
    (by simp) alone ran
  exact ⟨rfl, _, ran, holds.2.2.2.2.mpr ⟨1060, by simp, by decide⟩⟩

end Gritty
