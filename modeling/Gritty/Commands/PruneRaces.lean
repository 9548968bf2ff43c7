import Gritty.Commands.Prune
import Gritty.Lib.Simulation

/-! What `prune` kills, whatever others do at the daemon while it lists, asks and kills. -/

namespace Gritty

/-- The filters of a `prune` are met by a session as it is listed. -/
structure MeetsFilters (clients : List String) (idleSecs : Option UInt64) (now : UInt64)
    (entry : SessionEntry) : Prop where
  client : clients ≠ [] → ∃ name ∈ clients, entry.namespace? = some name
  idle : ∀ min, idleSecs = some min →
    entry.lastActivity ≠ 0 ∧ min.toNat ≤ now.toNat - entry.lastActivity.toNat

/-- What is selected was listed with nobody attached, and meets the filters unless there are none. -/
theorem mem_pruneSelection {sessions : List SessionEntry} {now : UInt64} {clients : List String}
    {idleSecs : Option UInt64} {all : Bool} {entry : SessionEntry}
    (member : entry ∈ pruneSelection sessions now clients idleSecs all) :
    entry ∈ sessions ∧ entry.attached = false ∧
      (all = true ∨ MeetsFilters clients idleSecs now entry) := by
  simp only [pruneSelection, List.mem_filter, Bool.not_eq_true'] at member
  obtain ⟨⟨listed, detached⟩, passes⟩ := member
  refine ⟨listed, detached, ?_⟩
  by_cases every : all = true
  · exact Or.inl every
  rw [if_neg every] at passes
  by_cases foreign :
      (clients ≠ [] && !entry.namespace?.any fun name => clients.any (· == name)) = true
  · simp only [foreign, if_true, Bool.false_eq_true] at passes
  rw [if_neg foreign] at passes
  refine Or.inr ⟨fun filtered => ?_, fun min asked => ?_⟩
  · simp only [ne_eq, filtered, not_false_eq_true, decide_true, Bool.true_and, Bool.not_eq_true',
      Bool.not_eq_false, Option.any_eq_true, List.any_eq_true, beq_iff_eq] at foreign
    obtain ⟨name, created, known, member, rfl⟩ := foreign
    exact ⟨known, member, created⟩
  · simp only [asked, Bool.not_eq_true', Bool.or_eq_false_iff, decide_eq_false_iff_not, not_lt]
      at passes
    exact passes

/-- A candidate was listed with nobody attached, and meets every filter that was given. -/
theorem PruneOptions.mem_candidates {options : PruneOptions} {sessions : List SessionEntry}
    {now : UInt64} {entry : SessionEntry} (member : entry ∈ options.candidates sessions now) :
    entry ∈ sessions ∧ entry.attached = false ∧
      MeetsFilters options.clients options.idleSecs now entry := by
  obtain ⟨listed, detached, every | meets⟩ := mem_pruneSelection member
  swap
  · exact ⟨listed, detached, meets⟩
  -- All are offered only where there are no filters.
  obtain ⟨noClients, noIdle⟩ : options.clients = [] ∧ options.idleSecs = none := by
    simp only [Bool.or_eq_true, Bool.and_eq_true, decide_eq_true_eq, Option.isNone_iff_eq_none]
      at every
    rcases every with all | ⟨⟨_, noClients⟩, noIdle⟩
    · exact options.exclusive all
    · exact ⟨noClients, noIdle⟩
  exact ⟨listed, detached, fun filtered => absurd noClients filtered,
    fun min asked => by simp [noIdle] at asked⟩

namespace PruneRun

/-- A kill is of a session that was listed, of the same daemon and the same task, that the user selected, and that has no client. -/
structure Rightful (options : PruneOptions) (run : PruneRun) (kill : Killed) (listed : Listed)
    (entry : SessionEntry) : Prop where
  selected : entry ∈ run.selected
  offered : entry ∈ listed.entries ∧ entry.attached = false
  filters : MeetsFilters options.clients options.idleSecs listed.now entry
  process : kill.process = listed.process
  id : kill.id = entry.id
  task : ∃ before, listed.daemon.sessions.lookup entry.id = some before ∧
    before.handle = kill.session.handle
  deserted : kill.session.hasClient = false

/-- Every session that was killed was rightly killed. -/
def KillsRightly (options : PruneOptions) (run : PruneRun) : Prop :=
  ∀ kill ∈ run.kills, ∃ listed entry, run.listed = some listed ∧
    run.Rightful options kill listed entry

/-- The session that the next request kills, if any, was there when the daemon was asked for its list, and has no client. -/
def stillStale (run : PruneRun) : PruneAction → Bool
  | .kill conn =>
    match run.stage with
    | .killing (victim :: _) =>
      (run.daemon.killedBy conn (decimal victim.id)).all fun (_, session) =>
        !session.hasClient && run.listed.any fun listed =>
          listed.process = run.process && session.handle < listed.daemon.spawned
    | _ => true
  | _ => true

/-- The sessions that are still there of those that were listed are the same tasks. -/
structure Remembers (run : PruneRun) (listed : Listed) : Prop where
  process : listed.process ≤ run.process
  tasks : ∀ id before, listed.daemon.sessions.lookup id = some before →
    before.handle < listed.daemon.spawned
  spawned : listed.process = run.process → listed.daemon.spawned ≤ run.daemon.spawned
  older : listed.process = run.process → ∀ id session,
    run.daemon.sessions.lookup id = some session → session.handle < listed.daemon.spawned →
      ∃ before, listed.daemon.sessions.lookup id = some before ∧ before.handle = session.handle

/-- What can still be killed was listed, with nobody attached and all filters met. -/
def Offered (options : PruneOptions) (run : PruneRun) (entries : List SessionEntry) : Prop :=
  ∀ entry ∈ entries, ∃ listed, run.listed = some listed ∧ (entry ∈ listed.entries ∧ entry.attached = false) ∧
    MeetsFilters options.clients options.idleSecs listed.now entry

/-- What every run keeps. -/
structure Careful (options : PruneOptions) (run : PruneRun) : Prop where
  named : Named run.daemon.sessions
  tasks : Daemon.TasksApart run.daemon
  remembers : ∀ listed, run.listed = some listed → run.Remembers listed
  offered : run.Offered options run.selected
  marking : ∀ candidates, run.stage = .marking candidates → run.Offered options candidates
  victims : ∀ victims, run.stage = .killing victims → ∀ victim ∈ victims, victim ∈ run.selected
  untouched : run.stage = .listing → run.kills = [] ∧ run.selected = []
  unharmed : ∀ candidates, run.stage = .marking candidates → run.kills = []
  rightly : run.KillsRightly options

variable {options : PruneOptions} {run next : PruneRun}

/-- What was rightly killed stays so while nothing else is listed, chosen or killed. -/
theorem KillsRightly.later (rightly : run.KillsRightly options) (listed : next.listed = run.listed)
    (selected : next.selected = run.selected) (kills : next.kills = run.kills) :
    next.KillsRightly options := by
  intro kill member
  obtain ⟨before, entry, there, rightful⟩ := rightly kill (kills ▸ member)
  exact ⟨before, entry, listed.trans there, { rightful with selected := selected ▸ rightful.selected }⟩

/-- A run that has just begun has killed nothing. -/
theorem new_careful : Careful options .new where
  named :=
    ⟨fun id session name found => by simp [new, Daemon.new] at found,
      fun first second one other name found => by simp [new, Daemon.new] at found⟩
  tasks := Daemon.new_tasksApart
  remembers listed there := by simp [new] at there
  offered entry member := by simp [new] at member
  marking candidates stage := by simp [new] at stage
  victims victims stage := by simp [new] at stage
  untouched _ := ⟨rfl, rfl⟩
  unharmed candidates stage := by simp [new] at stage
  rightly kill member := by simp [new] at member

/-- Whatever the daemon does, sessions that were listed stay the tasks they were. -/
theorem Remembers.daemon {listed : Listed} {action : DaemonAction} {daemon : Daemon}
    (remembers : run.Remembers listed) (stepped : run.daemon.step action = some daemon) :
    Remembers { run with daemon } listed := by
  -- A session of the daemon's is as old as it was, or it is the newest of all.
  have origin : run.daemon.spawned ≤ daemon.spawned ∧ ∀ id after,
      daemon.sessions.lookup id = some after → run.daemon.spawned ≤ after.handle ∨
        ∃ before, run.daemon.sessions.lookup id = some before ∧ after.handle = before.handle := by
    rcases Daemon.step_cases stepped with ⟨conn, frame, rfl, rfl⟩ | ⟨_, carries, _, spawned, _⟩
    · obtain ⟨more, origin⟩ := (Daemon.control_cases run.daemon conn frame).origin
      refine ⟨more, fun id after found => ?_⟩
      rcases origin id after found with ⟨_, handle, _⟩ | old
      · exact Or.inl handle.ge
      · exact Or.inr old
    · refine ⟨spawned.ge, fun id after found => Or.inr ?_⟩
      obtain ⟨before, looked, kept⟩ := carries id after found
      exact ⟨before, looked, kept.handle⟩
  refine ⟨remembers.process, remembers.tasks, fun same => ?_, fun same id session found old => ?_⟩
  · exact (remembers.spawned same).trans origin.1
  · rcases origin.2 id session found with new | ⟨before, looked, handle⟩
    · have grown := remembers.spawned same
      omega
    · rw [handle] at old ⊢
      exact remembers.older same id before looked old

/-- The daemon goes on, and the run stays careful. -/
theorem Careful.daemon {action : DaemonAction} {daemon : Daemon} (careful : Careful options run)
    (stepped : run.daemon.step action = some daemon) : Careful options { run with daemon } where
  named := Daemon.step_named careful.named stepped
  tasks := Daemon.step_tasksApart careful.tasks stepped
  remembers listed there := (careful.remembers listed there).daemon stepped
  offered := careful.offered
  marking := careful.marking
  victims := careful.victims
  untouched := careful.untouched
  unharmed := careful.unharmed
  rightly := careful.rightly.later rfl rfl rfl

/-- What a request to kill by number kills is the daemon's session of that number. -/
theorem killedBy_number {daemon : Daemon} {conn : ControlConn} {number id : UInt32}
    {session : SessionState} (named : Named daemon.sessions)
    (killed : daemon.killedBy conn (decimal number) = some (id, session)) :
    id = number ∧ daemon.sessions.lookup id = some session ∧ daemon.stopped = false := by
  unfold Daemon.killedBy at killed
  by_cases refused : daemon.stopped = true ∨ conn.clientVersion ≠ protocolVersion
  · rw [if_pos refused] at killed
    cases killed
  rw [if_neg refused] at killed
  cases resolved : daemon.sessions.resolveLiveSession (decimal number) daemon.lastAttached with
  | mk left result =>
    cases result with
    | error answer => simp [resolved] at killed
    | ok found =>
      simp only [resolved, Option.some.injEq] at killed
      subst killed
      obtain ⟨rfl, looked, stood, _⟩ := Sessions.resolveLiveSession_ok resolved
      have within := Sessions.reapSessions_within daemon.sessions
      refine ⟨Sessions.id_of_resolveSession (within.carries.named named) stood,
        within id session looked, ?_⟩
      simpa using (not_or.mp refused).1

/-- Victims that were offered may be chosen, as long as nothing was killed. -/
theorem Careful.choose {victims : List SessionEntry} (careful : Careful options run)
    (unharmed : run.kills = []) (offered : run.Offered options victims) :
    Careful options (run.choose victims) where
  named := careful.named
  tasks := careful.tasks
  remembers listed there :=
    have before := careful.remembers listed there
    { before with }
  offered := offered
  marking candidates stage := by simp [PruneRun.choose] at stage
  victims chosen stage victim member := by
    obtain rfl : victims = chosen := by simpa [PruneRun.choose] using stage
    exact member
  untouched stage := by simp [PruneRun.choose] at stage
  unharmed candidates stage := by simp [PruneRun.choose] at stage
  rightly kill member := by simp [PruneRun.choose, unharmed] at member

/-- A run that is over stays as careful as it was. -/
theorem Careful.finished (careful : Careful options run) :
    Careful options { run with stage := .finished } where
  named := careful.named
  tasks := careful.tasks
  remembers listed there :=
    have before := careful.remembers listed there
    { before with }
  offered := careful.offered
  marking candidates stage := by simp at stage
  victims victims stage := by simp at stage
  untouched stage := by simp at stage
  unharmed candidates stage := by simp at stage
  rightly := careful.rightly.later rfl rfl rfl

/-- What a run is offered is of what was listed. -/
theorem Careful.onSessions {entries : List SessionEntry} {now : UInt64}
    (careful : Careful options run) (stage : run.stage = .listing) :
    Careful options (run.onSessions options entries now) := by
  obtain ⟨unharmed, unselected⟩ := careful.untouched stage
  -- Right after the list was made nothing has changed.
  have listed : Careful options { run with
      stage := .finished
      listed := some { process := run.process, daemon := run.daemon, entries, now } } := by
    refine ⟨careful.named, careful.tasks, ?_, by simp [Offered, unselected], by simp, by simp,
      by simp, by simp, fun kill member => by simp [unharmed] at member⟩
    rintro _ ⟨rfl⟩
    exact ⟨Nat.le_refl _, careful.tasks.spawned, fun _ => Nat.le_refl _,
      fun _ id session found _ => ⟨session, found, rfl⟩⟩
  have offered : Offered options { run with
      stage := .finished
      listed := some { process := run.process, daemon := run.daemon, entries, now } }
      (options.candidates entries now) := by
    intro entry member
    obtain ⟨there, detached, meets⟩ := PruneOptions.mem_candidates member
    exact ⟨_, rfl, ⟨there, detached⟩, meets⟩
  unfold PruneRun.onSessions
  simp only
  by_cases nothing : options.candidates entries now = []
  · rw [if_pos nothing]
    exact listed
  rw [if_neg nothing]
  by_cases pick : options.pick = true
  · rw [if_pos pick]
    refine { listed with
      remembers := fun _ there => { listed.remembers _ there with }
      marking := fun candidates stage => ?_
      victims := by simp
      untouched := by simp
      unharmed := fun _ _ => unharmed
      rightly := fun kill member => by simp [unharmed] at member }
    obtain rfl : options.candidates entries now = candidates := by simpa using stage
    exact offered
  rw [if_neg pick]
  by_cases dry : (!options.yes) = true
  · rw [if_pos dry]
    exact listed
  · rw [if_neg dry]
    exact listed.choose unharmed offered

/-- A kill of a session that is still stale is right, and no other is. -/
theorem rightful_iff {kill : Killed} {victim : SessionEntry} {listed : Listed}
    (remembers : run.Remembers listed) (there : run.listed = some listed)
    (found : run.daemon.sessions.lookup kill.id = some kill.session)
    (process : kill.process = run.process) (id : kill.id = victim.id)
    (selected : victim ∈ run.selected)
    (offered : (victim ∈ listed.entries ∧ victim.attached = false) ∧
      MeetsFilters options.clients options.idleSecs listed.now victim) :
    (∃ listed entry, run.listed = some listed ∧ run.Rightful options kill listed entry) ↔
      kill.session.hasClient = false ∧ listed.process = run.process ∧
        kill.session.handle < listed.daemon.spawned := by
  constructor
  · rintro ⟨other, entry, same, rightful⟩
    obtain rfl : listed = other := Option.some.inj (there.symm.trans same)
    obtain ⟨before, looked, handle⟩ := rightful.task
    exact ⟨rightful.deserted, rightful.process.symm.trans process,
      handle ▸ remembers.tasks entry.id before looked⟩
  · rintro ⟨deserted, same, old⟩
    obtain ⟨before, looked, handle⟩ := remembers.older same kill.id kill.session found old
    exact ⟨listed, victim, there,
      { selected, offered := offered.1, filters := offered.2, id, deserted
        process := process.trans same.symm
        task := ⟨before, id ▸ looked, handle⟩ }⟩

/-- Whatever happens while the sessions that are killed are still stale, the run stays careful. -/
theorem step_careful {action : PruneAction} (careful : Careful options run)
    (stale : run.stillStale action = true) (stepped : run.step options action = some next) :
    Careful options next := by
  cases action with
  | daemon action =>
    simp only [PruneRun.step, Option.map_eq_some_iff] at stepped
    obtain ⟨daemon, went, rfl⟩ := stepped
    exact careful.daemon went
  | restart =>
    cases stepped
    have fresh : Careful options .new := new_careful
    refine { careful with
      named := fresh.named
      tasks := fresh.tasks
      remembers := fun listed there => ?_
      rightly := careful.rightly.later rfl rfl rfl }
    · -- The daemon that was listed is gone for good.
      have before := careful.remembers listed there
      have apart : listed.process ≠ run.process + 1 := by
        have older := before.process
        omega
      exact ⟨Nat.le_succ_of_le before.process, before.tasks, fun same => absurd same apart,
        fun same => absurd same apart⟩
  | list conn now =>
    cases stage : run.stage with
    | listing =>
      simp only [PruneRun.step, stage, Option.map_eq_some_iff] at stepped
      obtain ⟨daemon, went, rfl⟩ := stepped
      split
      · exact (careful.daemon went).onSessions stage
      · exact (careful.daemon went).finished
    | _ => simp [PruneRun.step, stage] at stepped
  | mark ids =>
    cases stage : run.stage with
    | marking candidates =>
      simp only [PruneRun.step, stage, Option.some.injEq] at stepped
      subst stepped
      refine careful.choose (careful.unharmed candidates stage) fun entry member => ?_
      exact careful.marking candidates stage entry (List.mem_of_mem_filter member)
    | _ => simp [PruneRun.step, stage] at stepped
  | kill conn =>
    cases stage : run.stage with
    | killing victims =>
      cases victims with
      | nil => simp [PruneRun.step, stage] at stepped
      | cons victim rest =>
        simp only [PruneRun.step, stage, Option.map_eq_some_iff] at stepped
        obtain ⟨daemon, went, rfl⟩ := stepped
        have selected := careful.victims _ stage
        obtain ⟨listed, there, offered⟩ := careful.offered victim (selected victim List.mem_cons_self)
        have after := careful.daemon went
        refine { after with
          remembers := fun listed there => { after.remembers listed there with }
          marking := by simp
          untouched := by simp
          unharmed := by simp
          victims := fun left same other member => ?_
          rightly := fun kill member => ?_ }
        · obtain rfl : rest = left := by simpa using same
          exact selected other (List.mem_cons_of_mem _ member)
        · have right : ∃ listed entry, run.listed = some listed ∧
              run.Rightful options kill listed entry := by
            rcases List.mem_append.mp member with old | new
            · exact careful.rightly kill old
            · -- The kill is the one that was just made, of a session that is still stale.
              obtain ⟨⟨id, session⟩, killed, rfl⟩ := List.mem_map.mp new
              rw [Option.mem_toList] at killed
              obtain ⟨same, found, _⟩ := killedBy_number careful.named killed
              refine (rightful_iff (careful.remembers listed there) there found rfl same
                (selected victim List.mem_cons_self) offered).mpr ?_
              simpa [stillStale, stage, Option.mem_def.mp killed, there] using stale
          obtain ⟨listed, entry, there, rightful⟩ := right
          exact ⟨listed, entry, there, { rightful with }⟩
    | _ => simp [PruneRun.step, stage] at stepped
  | skip =>
    cases stage : run.stage with
    | killing victims =>
      cases victims with
      | nil => simp [PruneRun.step, stage] at stepped
      | cons victim rest =>
        simp only [PruneRun.step, stage, Option.some.injEq] at stepped
        subst stepped
        refine { careful with
          remembers := fun listed there => { careful.remembers listed there with }
          marking := by simp
          untouched := by simp
          unharmed := by simp
          victims := fun left same other member => ?_
          rightly := careful.rightly.later rfl rfl rfl }
        · obtain rfl : rest = left := by simpa using same
          exact careful.victims _ stage other (List.mem_cons_of_mem _ member)
    | _ => simp [PruneRun.step, stage] at stepped
  | abandon =>
    cases stepped
    exact careful.finished

/-- What was seen tells who is at the sessions, and which of them are newer than the list. -/
structure Watching (run : PruneRun) (seen : List PruneSight) : Prop where
  attended : ∀ id session, run.daemon.sessions.lookup id = some session →
    session.hasClient = true → attended id seen = true
  unlisted : run.stage = .listing → run.listed = none
  older : ∀ listed, run.listed = some listed → ∀ id session,
    run.daemon.sessions.lookup id = some session → replaced id seen = false →
      listed.process = run.process ∧ session.handle < listed.daemon.spawned

/-- Before anything was seen there are no sessions. -/
theorem new_watching : Watching .new [] where
  attended id session found := by simp [new, Daemon.new] at found
  unlisted _ := rfl
  older listed there := by simp [new] at there

/-- What is seen of visitors alone is counted as they come and leave. -/
theorem attended_visits (id : UInt32) (seen : List PruneSight) (visits : List Visit) :
    Gritty.attended id (seen ++ visits.map .visit) =
      visits.foldl (Visit.apply id) (Gritty.attended id seen) := by
  rw [Gritty.attended, List.foldl_append, List.foldl_map]
  rfl

/-- A session that was created is seen to replace what had its id. -/
theorem replaced_visits {id : UInt32} {seen : List PruneSight} {visits : List Visit}
    (unreplaced : replaced id (seen ++ visits.map .visit) = false) :
    replaced id seen = false ∧ .created id ∉ visits := by
  unfold replaced at unreplaced ⊢
  rw [List.foldl_append, List.foldl_map] at unreplaced
  generalize List.foldl _ false seen = again at unreplaced ⊢
  -- Once it was replaced it stays so.
  induction visits generalizing again with
  | nil => exact ⟨unreplaced, List.not_mem_nil⟩
  | cons visit later ih =>
    obtain ⟨before, after⟩ := ih _ unreplaced
    cases visit with
    | created other =>
      simp only [Bool.or_eq_false_iff, decide_eq_false_iff_not] at before
      exact ⟨before.1, by simpa using ⟨fun same => before.2 same.symm, after⟩⟩
    | comes other => exact ⟨before, by simpa using after⟩
    | leaves other => exact ⟨before, by simpa using after⟩

/-- What the daemon does is seen as far as it concerns the sessions' clients. -/
theorem Watching.daemon {seen : List PruneSight} {action : DaemonAction} {daemon : Daemon}
    (watching : run.Watching seen) (stepped : run.daemon.step action = some daemon) :
    Watching { run with daemon } (seen ++ (run.daemon.visits action).map .visit) where
  attended id session found client := by
    rw [attended_visits]
    exact Daemon.step_visited (fun id session => watching.attended id session) stepped id session
      found client
  unlisted := watching.unlisted
  older listed there id session found unreplaced := by
    obtain ⟨before, quiet⟩ := replaced_visits unreplaced
    obtain ⟨old, looked, handle⟩ := (Daemon.step_created stepped found).resolve_left quiet
    rw [handle]
    exact watching.older listed there id old looked before

/-- A mark of the list changes nobody's visits. -/
theorem attended_listed (id : UInt32) (seen : List PruneSight) :
    Gritty.attended id (seen ++ [.listed]) = Gritty.attended id seen := by
  rw [Gritty.attended, List.foldl_append]
  rfl

/-- What is chosen, killed or given up makes no difference to what was seen. -/
theorem Watching.same {seen : List PruneSight} (watching : run.Watching seen)
    (daemon : next.daemon = run.daemon) (process : next.process = run.process)
    (listed : next.listed = run.listed) (stage : next.stage ≠ .listing) : next.Watching seen where
  attended := by
    rw [daemon]
    exact watching.attended
  unlisted still := absurd still stage
  older := by
    rw [daemon, process, listed]
    exact watching.older

/-- Right after the list no session is newer than it. -/
theorem Watching.listed {seen : List PruneSight} (watching : run.Watching seen)
    (tasks : Daemon.TasksApart run.daemon) (daemon : next.daemon = run.daemon)
    (process : next.process = run.process) (stage : next.stage ≠ .listing)
    (listed : next.listed = none ∨ ∃ entries now,
      next.listed = some { process := run.process, daemon := run.daemon, entries, now }) :
    next.Watching (seen ++ [.listed]) where
  attended id session found client := by
    rw [daemon] at found
    rw [attended_listed]
    exact watching.attended id session found client
  unlisted still := absurd still stage
  older known there id session found unreplaced := by
    rw [daemon] at found
    rcases listed with none | ⟨entries, now, same⟩
    · exact absurd (none.symm.trans there) (Option.some_ne_none known).symm
    · obtain rfl := Option.some.inj (same.symm.trans there)
      exact ⟨process.symm, tasks.spawned id session found⟩

/-- A list is followed by marks, by kills, or by nothing more. -/
theorem onSessions_cases (run : PruneRun) (options : PruneOptions) (entries : List SessionEntry)
    (now : UInt64) :
    (run.onSessions options entries now).daemon = run.daemon ∧
      (run.onSessions options entries now).process = run.process ∧
      (run.onSessions options entries now).stage ≠ .listing ∧
      (run.onSessions options entries now).listed =
        some { process := run.process, daemon := run.daemon, entries, now } := by
  unfold PruneRun.onSessions
  simp only
  split
  · exact ⟨rfl, rfl, by simp, rfl⟩
  split
  · exact ⟨rfl, rfl, by simp, rfl⟩
  split
  · exact ⟨rfl, rfl, by simp, rfl⟩
  · exact ⟨rfl, rfl, by simp [PruneRun.choose], rfl⟩

/-- Every action keeps what is seen true of the sessions. -/
theorem step_watching {seen : List PruneSight} {action : PruneAction}
    (careful : Careful options run) (watching : run.Watching seen)
    (stepped : run.step options action = some next) :
    next.Watching (seen ++ run.sights action) := by
  -- An action that has the daemon do nothing shows nothing.
  have quiet (action : PruneAction) (shown : run.sights action = []) :
      seen ++ run.sights action = seen := by
    rw [shown, List.append_nil]
  cases action with
  | daemon action =>
    simp only [PruneRun.step, Option.map_eq_some_iff] at stepped
    obtain ⟨daemon, went, rfl⟩ := stepped
    simpa [sights, requests] using watching.daemon went
  | restart =>
    -- The new daemon has no sessions.
    cases stepped
    exact ⟨fun id session found => by simp [Daemon.new] at found, watching.unlisted,
      fun listed there id session found => by simp [Daemon.new] at found⟩
  | list conn now =>
    cases stage : run.stage with
    | listing =>
      simp only [PruneRun.step, stage, Option.map_eq_some_iff] at stepped
      obtain ⟨daemon, went, rfl⟩ := stepped
      have tasks := (careful.daemon went).tasks
      have after := watching.daemon went
      have shown : run.sights (.list conn now) =
          (run.daemon.visits (.control conn .listSessions)).map .visit ++ [.listed] := by
        simp [sights, requests]
      rw [shown, ← List.append_assoc]
      split
      · next entries _ =>
        obtain ⟨same, process, ended, listed⟩ :=
          onSessions_cases { run with daemon } options entries now
        exact after.listed tasks same process ended (Or.inr ⟨entries, now, listed⟩)
      · exact after.listed tasks rfl rfl (by simp) (Or.inl (watching.unlisted stage))
    | _ => simp [PruneRun.step, stage] at stepped
  | mark ids =>
    cases stage : run.stage with
    | marking candidates =>
      simp only [PruneRun.step, stage, Option.some.injEq] at stepped
      subst stepped
      rw [quiet _ rfl]
      exact watching.same rfl rfl rfl (by simp [PruneRun.choose])
    | _ => simp [PruneRun.step, stage] at stepped
  | kill conn =>
    cases stage : run.stage with
    | killing victims =>
      cases victims with
      | nil => simp [PruneRun.step, stage] at stepped
      | cons victim rest =>
        simp only [PruneRun.step, stage, Option.map_eq_some_iff] at stepped
        obtain ⟨daemon, went, rfl⟩ := stepped
        have shown : run.sights (.kill conn) =
            (run.daemon.visits (.control conn (.killSession (decimal victim.id)))).map .visit := by
          simp [sights, requests, stage]
        rw [shown]
        exact (watching.daemon went).same rfl rfl rfl (by simp)
    | _ => simp [PruneRun.step, stage] at stepped
  | skip =>
    cases stage : run.stage with
    | killing victims =>
      cases victims with
      | nil => simp [PruneRun.step, stage] at stepped
      | cons victim rest =>
        simp only [PruneRun.step, stage, Option.some.injEq] at stepped
        subst stepped
        rw [quiet _ rfl]
        exact watching.same rfl rfl rfl (by simp)
    | _ => simp [PruneRun.step, stage] at stepped
  | abandon =>
    cases stepped
    rw [quiet _ rfl]
    exact watching.same rfl rfl rfl (by simp)

/-- Where nobody came to the victim, and no other session got its id, what is killed is what was listed. -/
theorem Watching.stillStale {seen : List PruneSight} {action : PruneAction}
    (careful : Careful options run) (watching : run.Watching seen)
    (undisturbed : run.undisturbed seen action = true) : run.stillStale action = true := by
  cases action with
  | kill conn =>
    cases stage : run.stage with
    | killing victims =>
      cases victims with
      | nil => simp [PruneRun.stillStale, stage]
      | cons victim rest =>
        cases killed : run.daemon.killedBy conn (decimal victim.id) with
        | none => simp [PruneRun.stillStale, stage, killed]
        | some pair =>
          obtain ⟨id, session⟩ := pair
          obtain ⟨rfl, found, _⟩ := killedBy_number careful.named killed
          have selected := careful.victims _ stage victim List.mem_cons_self
          obtain ⟨listed, there, _⟩ := careful.offered victim selected
          simp only [PruneRun.undisturbed, stage, killed, Option.isNone_some, Bool.false_or,
            Bool.and_eq_true, Bool.not_eq_true'] at undisturbed
          -- Whoever had come would have been seen.
          have deserted : session.hasClient = false := by
            by_contra client
            have seen := watching.attended victim.id session found (by simpa using client)
            exact Bool.false_ne_true (undisturbed.1.symm.trans seen)
          obtain ⟨process, old⟩ := watching.older listed there victim.id session found undisturbed.2
          simp [PruneRun.stillStale, stage, killed, there, deserted, process, old]
    | _ => simp [PruneRun.stillStale, stage]
  | _ => rfl

/--
Along every run `prune` kills rightly if, whenever it kills a session, whoever came to that session had left it again,
and no other session got its id since the list was made.
-/
theorem killsRightly_along (options : PruneOptions) (actions : List PruneAction)
    (undisturbed : (pruneMachine options).MeetsSeen sights
      (fun run seen action => run.undisturbed seen action = true) .new [] actions) :
    (pruneMachine options).Along (KillsRightly options) .new actions := by
  -- The invariant joins what the run remembers to what was seen of it.
  have preserved : ∀ (run : PruneRun) seen action next, Careful options run ∧ run.Watching seen →
      run.undisturbed seen action = true → (pruneMachine options).step run action = some next →
        Careful options next ∧ next.Watching (seen ++ run.sights action) :=
    fun run seen action next holds met stepped =>
      ⟨step_careful holds.1 (holds.2.stillStale holds.1 met) stepped,
        step_watching holds.1 holds.2 stepped⟩
  exact Machine.along_of_meetsSeen (fun run seen holds => holds.1.rightly) preserved
    ⟨new_careful, new_watching⟩ undisturbed

/-- A connection on which everything comes through, of a client that is up to date. -/
private def promptConn (connection : Nat) : ControlConn where
  connection
  clientVersion := protocolVersion
  capabilities := 0
  deviceId := 1
  delivers := 2
  publishes := true
  ptyPath := "/dev/pts/1"
  now := 100
  processes := fun _ => ("bash", "/")

/-- `prune --pick` without filters. -/
private def pickAny : PruneOptions where
  clients := []
  idleSecs := none
  all := false
  pick := true
  yes := false
  exclusive := by simp

/-- While the user looks at the marks, somebody comes to the session and leaves it again, and another is created. -/
private def leftDuringPrompt : List PruneAction :=
  [.daemon (.control (promptConn 0) (.newSession "pc/0" "" "" 80 24 "pc" 0)),
    .daemon (.task 0 .takes), .daemon (.task 0 (.writes 7 true 100 100 "pc" false 0)),
    .daemon (.task 0 (.writes 7 false 100 100 "pc" false 0)),
    .list (promptConn 1) 200,
    .daemon (.control (promptConn 2) (.attach "pc/0" "pc" false false 80 24 0 0 false)),
    .daemon (.control (promptConn 3) (.newSession "pc/1" "" "" 80 24 "pc" 0)),
    .mark [0], .daemon (.task 0 .takes), .daemon (.task 0 (.writes 7 true 210 210 "pc" false 0)),
    .daemon (.task 0 (.writes 7 false 210 210 "pc" false 0)), .kill (promptConn 4)]

theorem killsRightly_along_leftAgain :
    (((pruneMachine pickAny).run .new leftDuringPrompt).any fun last => last.kills ≠ []) = true ∧
      (pruneMachine pickAny).Along (KillsRightly pickAny) .new leftDuringPrompt :=
  ⟨by decide +kernel, killsRightly_along pickAny leftDuringPrompt (by decide +kernel)⟩

/-- Somebody attaches to a session while the user who is to prune it looks at the marks. -/
private def returnedDuringPrompt : List PruneAction :=
  [.daemon (.control (promptConn 0) (.newSession "pc/0" "" "" 80 24 "pc" 0)),
    .daemon (.task 0 .takes), .daemon (.task 0 (.writes 7 false 100 100 "pc" false 0)),
    .list (promptConn 1) 200,
    .daemon (.control (promptConn 2) (.attach "pc/0" "pc" false false 80 24 0 0 false)),
    .mark [0], .kill (promptConn 3)]

/-- A session is killed while somebody is attached to it. -/
theorem attached_session_killed : ¬ ∀ (options : PruneOptions) (actions : List PruneAction),
    (pruneMachine options).Along (KillsRightly options) .new actions := by
  intro all
  have killed : ((pruneMachine pickAny).run .new returnedDuringPrompt).any (fun last =>
      last.kills.any fun kill => kill.session.hasClient) = true := by
    decide +kernel
  obtain ⟨last, ran, ended⟩ := (Option.any_eq_true _ _).mp killed
  obtain ⟨kill, member, attached⟩ := List.any_eq_true.mp ended
  obtain ⟨listed, entry, _, rightful⟩ := (all pickAny returnedDuringPrompt).last ran kill member
  rw [rightful.deserted] at attached
  exact Bool.false_ne_true attached

end PruneRun

end Gritty
