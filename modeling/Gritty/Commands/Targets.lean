import Gritty.Commands.DisplayNames
import Gritty.Daemon.Listing
import Gritty.Lib.ListSearch

/-! What a typed target stands for, by a listing and by the daemon that was listed. -/

namespace Gritty

/-- A session that is found is one of the listing. -/
theorem mem_of_findSession {sessions : List SessionEntry} {target : String} {entry : SessionEntry}
    (found : findSession sessions target = some entry) : entry ∈ sessions := by
  unfold findSession at found
  split at found
  · exact List.mem_of_find?_eq_some found
  · exact List.mem_of_find?_eq_some found

/-- No number has a separator in it. -/
theorem parseU32_slashed {text : String} (slashed : '/' ∈ text.toList) : parseU32 text = none := by
  rw [parseU32_eq, Option.map_eq_none_iff]
  by_contra read
  obtain ⟨number, parsed⟩ := Option.ne_none_iff_exists'.mp read
  have inside : '/' ∈ unsigned text.toList := by
    unfold unsigned
    split
    · next signed => exact (List.mem_cons.mp (signed ▸ slashed)).resolve_left (by decide)
    · exact slashed
  exact absurd (isDigit_of_parseBelow parsed '/' inside) (by decide)

namespace Sessions

variable {sessions : Sessions} {processes : UInt32 → String × String}
  {lastAttached : Option UInt32} {target : String}

@[simp] theorem sessionEntry_id (id : UInt32) (session : SessionState) :
    (sessionEntry processes lastAttached id session).id = id := by
  unfold sessionEntry
  split <;> rfl

@[simp] theorem sessionEntry_name (id : UInt32) (session : SessionState) :
    (sessionEntry processes lastAttached id session).name = session.name.getD "" := by
  unfold sessionEntry
  split <;> rfl

@[simp] theorem sessionEntry_isLastAttached (id : UInt32) (session : SessionState) :
    (sessionEntry processes lastAttached id session).isLastAttached =
      decide (lastAttached = some id) := by
  unfold sessionEntry
  split <;> rfl

/-- What is listed is a session that is there. -/
theorem mem_buildSessionEntries {entry : SessionEntry} :
    entry ∈ sessions.buildSessionEntries processes lastAttached ↔ ∃ id session,
      sessions.lookup id = some session ∧
        entry = sessionEntry processes lastAttached id session := by
  rw [(buildSessionEntries_perm sessions).mem_iff, List.mem_map]
  constructor
  · rintro ⟨⟨id, session⟩, inside, rfl⟩
    exact ⟨id, session, mem_entries_iff.mp inside, rfl⟩
  · rintro ⟨id, session, found, rfl⟩
    exact ⟨⟨id, session⟩, mem_entries_iff.mpr found, rfl⟩

/-- The dash stands for the same session in a listing as at the daemon. -/
theorem findSession_dash :
    (findSession (sessions.buildSessionEntries processes lastAttached) "-").map (·.id) =
      sessions.resolveSession "-" lastAttached := by
  have marked {entry : SessionEntry}
      (inside : entry ∈ sessions.buildSessionEntries processes lastAttached)
      (last : entry.isLastAttached = true) :
      sessions.resolveSession "-" lastAttached = some entry.id := by
    obtain ⟨id, session, found, rfl⟩ := mem_buildSessionEntries.mp inside
    rw [sessionEntry_isLastAttached, decide_eq_true_eq] at last
    simp [resolveSession, last, found]
  rw [findSession, if_pos rfl]
  cases resolved : sessions.resolveSession "-" lastAttached with
  | none =>
    rw [Option.map_eq_none_iff, List.find?_eq_none]
    intro entry inside flagged
    exact absurd ((marked inside flagged).symm.trans resolved) (by simp)
  | some id =>
    obtain ⟨session, found, ⟨_, last⟩ | ⟨notDash, _⟩⟩ := resolveSession_eq_some resolved
    · refine map_find?_of_unique ⟨sessionEntry processes lastAttached id session, ?_, ?_⟩ ?_
      · exact mem_buildSessionEntries.mpr ⟨id, session, found, rfl⟩
      · simpa using last
      · intro entry inside flagged
        exact Option.some.inj ((marked inside flagged).symm.trans resolved)
    · exact absurd rfl notDash

/-- A wire name stands for the same session in a listing as at the daemon. -/
theorem findSession_wireName (named : Named sessions) (slashed : '/' ∈ target.toList) :
    (findSession (sessions.buildSessionEntries processes lastAttached) target).map (·.id) =
      sessions.resolveSession target lastAttached := by
  have notDash : target ≠ "-" := by
    rintro rfl
    exact absurd slashed (by decide)
  have notEmpty : target ≠ "" := by
    rintro rfl
    exact absurd slashed (by decide)
  have listed {entry : SessionEntry}
      (inside : entry ∈ sessions.buildSessionEntries processes lastAttached)
      (same : entry.name = target) :
      ∃ session, sessions.lookup entry.id = some session ∧ session.name = some target := by
    obtain ⟨id, session, found, rfl⟩ := mem_buildSessionEntries.mp inside
    rw [sessionEntry_name] at same
    rw [sessionEntry_id]
    -- An unnamed session is listed under the empty name, which no target is.
    cases given : session.name with
    | none => exact absurd same.symm (by simpa [given] using notEmpty)
    | some name => exact ⟨session, found, by simpa [given] using same⟩
  rw [findSession, if_neg notDash]
  by_cases used : ∃ id session, sessions.lookup id = some session ∧ session.name = some target
  · obtain ⟨id, session, found, given⟩ := used
    rw [resolveSession_name named found given]
    refine map_find?_of_unique ⟨sessionEntry processes lastAttached id session, ?_, ?_⟩ ?_
    · exact mem_buildSessionEntries.mpr ⟨id, session, found, rfl⟩
    · simp [given]
    · intro entry inside same
      obtain ⟨other, there, name⟩ := listed inside (by simpa using same)
      exact named.distinct entry.id id other session target there found name given
  · have unused : ∀ id session, sessions.lookup id = some session → session.name ≠ some target :=
      fun id session found given => used ⟨id, session, found, given⟩
    rw [resolveSession_number notDash unused, parseU32_slashed slashed, Option.filter_none,
      Option.map_eq_none_iff, List.find?_eq_none]
    intro entry inside same
    obtain ⟨session, there, name⟩ := listed inside (by simpa using same)
    exact unused entry.id session there name

/-- The number of a listed session stands for it at the daemon. -/
theorem resolveSession_listed (named : Named sessions) {entry : SessionEntry}
    (inside : entry ∈ sessions.buildSessionEntries processes lastAttached) :
    sessions.resolveSession (decimal entry.id) lastAttached = some entry.id := by
  obtain ⟨id, session, found, rfl⟩ := mem_buildSessionEntries.mp inside
  rw [sessionEntry_id]
  exact resolveSession_id named found

end Sessions

/-- The sessions a daemon lists when it is asked. -/
def Daemon.listing (daemon : Daemon) (processes : UInt32 → String × String) : List SessionEntry :=
  daemon.sessions.reapSessions.buildSessionEntries processes daemon.lastAttached

/-- Every state reached below the largest id is well named. -/
theorem wellNamed_reached {actions : List DaemonAction} {last : Watched}
    (below : watchedDaemon.Meets NextIdBelowMax watchedDaemon.init actions)
    (ran : watchedDaemon.run watchedDaemon.init actions = some last) : WellNamed last := by
  refine Machine.run_induction ?_ new_wellNamed below ran
  intro state action next well small stepped
  exact step_wellNamed well small stepped

/--
A client that looks a target up in a listing and the daemon that gave the listing mean the same session.

Whatever is typed, on a client of whatever name, the listing has a session for it exactly when the daemon does, and it is that session; its number, which the commands send from then on, stands for it too.
-/
theorem listing_resolves_as_daemon {actions : List DaemonAction} {last : Watched}
    (below : watchedDaemon.Meets NextIdBelowMax watchedDaemon.init actions)
    (ran : watchedDaemon.run watchedDaemon.init actions = some last)
    (typed clientName : String) (processes : UInt32 → String × String) :
    (findSession (last.daemon.listing processes) (resolveSessionName typed clientName)).map (·.id) =
        last.daemon.sessions.reapSessions.resolveSession (resolveSessionName typed clientName)
          last.daemon.lastAttached ∧
      ∀ entry, findSession (last.daemon.listing processes)
          (resolveSessionName typed clientName) = some entry →
        last.daemon.sessions.reapSessions.resolveSession (decimal entry.id)
          last.daemon.lastAttached = some entry.id := by
  have named : Named last.daemon.sessions.reapSessions :=
    (Sessions.reapSessions_within _).carries.named (wellNamed_reached below ran).unambiguous.names
  have numbers : ∀ entry,
      findSession (last.daemon.listing processes) (resolveSessionName typed clientName) = some entry →
      last.daemon.sessions.reapSessions.resolveSession (decimal entry.id) last.daemon.lastAttached =
        some entry.id := by
    intro entry found
    have inside : entry ∈ last.daemon.listing processes := mem_of_findSession found
    exact Sessions.resolveSession_listed named inside
  refine ⟨?_, numbers⟩
  by_cases marker : typed = "-"
  · have same : resolveSessionName typed clientName = "-" := by
      rw [marker]
      rfl
    rw [same]
    exact Sessions.findSession_dash
  · exact Sessions.findSession_wireName named (slash_mem_resolveSessionName marker)

/-- A session that was renamed is found under its new name, in the list as by the daemon. -/
theorem listing_resolves_as_daemon_renamed :
    ∃ last, watchedDaemon.run watchedDaemon.init createAndRename = some last ∧
      (findSession (last.daemon.listing fun _ => ("-", ""))
          (resolveSessionName "play" "laptop")).map (·.id) =
        last.daemon.sessions.reapSessions.resolveSession (resolveSessionName "play" "laptop")
          last.daemon.lastAttached := by
  have below : watchedDaemon.Meets NextIdBelowMax watchedDaemon.init createAndRename :=
    Machine.meets_cons (by decide) rfl (Machine.meets_cons (by decide) rfl trivial)
  exact ⟨_, rfl, (listing_resolves_as_daemon below rfl "play" "laptop" fun _ => ("-", "")).1⟩

end Gritty
