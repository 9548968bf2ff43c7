import Gritty.Commands.Targets
import Gritty.Daemon.Return

/-! `tail`: a target is looked up once, and one session is followed by its number from then on. -/

namespace Gritty

/-- What a tail keeps of the stream it opened. -/
structure TailHome where
  expectedServerId : UInt64
  sessionId : UInt32

/-- How far a tail has got. -/
inductive TailStage where
  /-- The target is to be looked up. -/
  | resolving
  /-- The session is known; its stream is to be opened on a connection of its own. -/
  | resolved (sessionId : UInt32)
  | tailing (home : TailHome)
  | reconnecting (home : TailHome)
  | exited

/-- A tail, and the daemons that its control socket may ever lead to. -/
structure TailRun where
  /-- The daemons, beside another client of theirs. -/
  fleet : Fleet
  stage : TailStage
  /-- What its target stood for when it was looked up, for the statements below. -/
  listed : Option Return
  /-- The streams that it read from, for the statements below. -/
  streams : List Return

/-- What can happen next. -/
inductive TailAction where
  /-- The daemons and their other clients go on. -/
  | fleet (action : FleetAction)
  /-- The socket leads to a process, which is asked for its sessions. The answer may be lost. -/
  | list (process : Nat) (conn : ControlConn) (received : Bool)
  /-- The socket leads to a process, which is asked for the stream. -/
  | opens (process : Nat) (conn : ControlConn) (received : Bool)
  /-- The link is lost, or found dead. -/
  | disconnected
  /-- One attempt to get the stream back. -/
  | attempt (process : Nat) (conn : ControlConn) (received : Bool)
  /-- The session's end is read, a signal arrives, or the socket stays away for too long. -/
  | exits

namespace TailRun

/-- Nothing has started. -/
def new : TailRun := { fleet := .new, stage := .resolving, listed := none, streams := [] }

/-- The first frame of an answer that comes back, if the versions match and it is not lost. -/
def answer (out : Dispatched) (conn : ControlConn) (received : Bool) : Option Frame :=
  if conn.clientVersion ≠ protocolVersion ∨ !received then none
  else (out.sent.take conn.delivers).head?

/-- The request for a session's stream, by number. -/
def tailRequest (sessionId : UInt32) : Frame := .tail (decimal sessionId)

/-- The stream that a request by number opens. -/
def stream (process : Nat) (daemon : Daemon) (sessionId : UInt32) : Return :=
  { process, task := daemon.liveTask (decimal sessionId) }

/-- One action, if it can be taken. -/
def step (target : String) (run : TailRun) : TailAction → Option TailRun
  | .fleet action => (run.fleet.step action).map fun fleet => { run with fleet }
  | .list process conn received =>
    match run.stage, run.fleet.processes[process]? with
    | .resolving, some there =>
      match there.daemon.step (.control conn .listSessions) with
      | some daemon =>
        let listing := { run with fleet := run.fleet.update process daemon }
        match answer (there.daemon.control conn .listSessions) conn received with
        | some (.sessionInfo sessions) =>
          match findSession sessions target with
          | some entry =>
            some { listing with
              stage := .resolved entry.id
              listed := some { process, task := daemon.taskOf entry.id } }
          | none => some { listing with stage := .exited }
        | _ => some { listing with stage := .exited }
      | none => none
    | _, _ => none
  | .opens process conn received =>
    match run.stage, run.fleet.processes[process]? with
    | .resolved sessionId, some there =>
      match there.daemon.step (.control conn (tailRequest sessionId)) with
      | some daemon =>
        let asked := { run with fleet := run.fleet.update process daemon }
        match answer (there.daemon.control conn (tailRequest sessionId)) conn received with
        | some .ok =>
          some { asked with
            stage := .tailing { expectedServerId := there.serverId, sessionId }
            streams := run.streams ++ [stream process there.daemon sessionId] }
        | _ => some { asked with stage := .exited }
      | none => none
    | _, _ => none
  | .disconnected =>
    match run.stage with
    | .tailing home => some { run with stage := .reconnecting home }
    | _ => none
  | .attempt process conn received =>
    match run.stage, run.fleet.processes[process]? with
    | .reconnecting home, some there =>
      -- Another process than the expected one, or another version, ends the tail.
      if there.serverId ≠ home.expectedServerId ∨ conn.clientVersion ≠ protocolVersion then
        some { run with stage := .exited }
      else
        match there.daemon.step (.control conn (tailRequest home.sessionId)) with
        | some daemon =>
          let asked := { run with fleet := run.fleet.update process daemon }
          match answer (there.daemon.control conn (tailRequest home.sessionId)) conn received with
          | some .ok =>
            some { asked with
              stage := .tailing home
              streams := run.streams ++ [stream process there.daemon home.sessionId] }
          | some (.error _ _) => some { asked with stage := .exited }
          | _ => some asked
        | none => none
    | _, _ => none
  | .exits => some { run with stage := .exited }

/-- The process that an action is for has not run out of ids, and no two pick the same server id. -/
def idsUnique (run : TailRun) : TailAction → Bool
  | .fleet action => run.fleet.idsUnique action
  | .list process _ _ => run.fleet.idsLeft process
  | .opens process _ _ => run.fleet.idsLeft process
  | .attempt process _ _ => run.fleet.idsLeft process
  | .disconnected => true
  | .exits => true

/--
A tail follows one session.

All its streams are of one task of one process. It is the task that the target stood for in the listing, if the process that opened the first stream is the one that was listed.
-/
structure FollowsOne (run : TailRun) : Prop where
  one : ∀ first ∈ run.streams, ∀ second ∈ run.streams, first = second
  meant : ∀ listed, run.listed = some listed → ∀ stream ∈ run.streams,
    stream.process = listed.process → stream = listed

end TailRun

/-- A tail of a target, from its start. -/
def tailMachine (target : String) : Machine TailRun TailAction where
  init := .new
  step := TailRun.step target

namespace Fleet

variable {fleet next : Fleet} {process other : Nat} {there now : DaemonProcess} {daemon : Daemon}

/-- A process of a fleet, under the server id it picked, has an id stand for a task. -/
def Holds (fleet : Fleet) (process : Nat) (serverId : UInt64) (id : UInt32) (task : Nat) : Prop :=
  ∃ there, fleet.processes[process]? = some there ∧ there.serverId = serverId ∧
    there.daemon.StandsFor id task

variable {serverId : UInt64} {id : UInt32} {task : Nat}

/-- A step of one process leaves every id with its task. -/
theorem Holds.update (holds : fleet.Holds process serverId id task)
    (found : fleet.processes[other]? = some there) (left : fleet.idsLeft other = true)
    {action : DaemonAction} (stepped : there.daemon.step action = some daemon) :
    (fleet.update other daemon).Holds process serverId id task := by
  obtain ⟨was, looked, same, stands⟩ := holds
  by_cases here : process = other
  · subst here
    obtain rfl := Option.some.inj (found.symm.trans looked)
    have below : there.daemon.nextId.toNat < 2 ^ 32 - 1 := by
      simpa [idsLeft, found] using left
    exact ⟨_, update_found found, same, stands.step below stepped⟩
  · refine ⟨was, ?_, same, stands⟩
    rw [Fleet.update, List.getElem?_modify, looked]
    simp [Ne.symm here]

/-- No step of a fleet takes an id from its task. -/
theorem Holds.step (holds : fleet.Holds process serverId id task) {action : FleetAction}
    (unique : fleet.idsUnique action = true) (stepped : fleet.step action = some next) :
    next.Holds process serverId id task := by
  cases action with
  | start serverId' =>
    cases stepped
    obtain ⟨was, looked, rest⟩ := holds
    -- A further process changes nothing for those that are there.
    have within : process < fleet.processes.length := (List.getElem?_eq_some_iff.mp looked).1
    exact ⟨was, (List.getElem?_append_left within).trans looked, rest⟩
  | daemon other action =>
    simp only [Fleet.step] at stepped
    split at stepped
    · next there found =>
      obtain ⟨daemon, went, rfl⟩ := Option.map_eq_some_iff.mp stepped
      exact holds.update found unique went
    · simp at stepped
  | attach other conn request =>
    simp only [Fleet.step] at stepped
    split at stepped
    · next there found away =>
      split at stepped
      · next daemon went =>
        -- Whether the client is let in or not, the daemon has only taken a step.
        have updated := holds.update found unique went
        split at stepped
        · cases stepped
          exact updated
        · cases stepped
          exact updated
      · simp at stepped
    · simp at stepped
  | reconnect other conn clientName cols rows renderedOffset lineDirty received =>
    simp only [Fleet.step] at stepped
    split at stepped
    · next there home found is =>
      split at stepped
      · simp at stepped
      · split at stepped
        · cases stepped
          exact holds
        · split at stepped
          · next daemon went =>
            have updated := holds.update found unique went
            split at stepped
            · cases stepped
              exact updated
            · cases stepped
              exact updated
          · simp at stepped
    · simp at stepped

/-- An id that a process lists stands for the task it has there. -/
theorem Settled.holds (settled : Settled fleet) (found : fleet.processes[process]? = some there)
    {session : SessionState} (looked : there.daemon.sessions.lookup id = some session) :
    fleet.Holds process there.serverId id session.handle := by
  obtain ⟨lastServed, well⟩ := settled.wellNamed process there found
  refine ⟨there, found, rfl, well.below id session looked, fun other lookedOther => ?_⟩
  rw [Option.some.inj (looked.symm.trans lookedOther)]

end Fleet

namespace Daemon

variable {daemon next : Daemon} {conn : ControlConn} {received : Bool}

/-- A control frame that is served leaves what serving it leaves. -/
theorem eq_of_step_control {frame : Frame}
    (stepped : daemon.step (.control conn frame) = some next) :
    next = (daemon.control conn frame).daemon := by
  rcases step_cases stepped with ⟨_, _, same, rfl⟩ | ⟨other, -⟩
  · obtain ⟨rfl, rfl⟩ := DaemonAction.control.inj same
    rfl
  · exact absurd rfl (other conn frame)

/-- What comes back is the first frame that was sent, on a connection of the right version. -/
theorem answer_eq_some {out : Dispatched} {frame : Frame}
    (answered : TailRun.answer out conn received = some frame) :
    conn.clientVersion = protocolVersion ∧ out.sent.head? = some frame := by
  unfold TailRun.answer at answered
  split at answered
  · simp at answered
  · next through =>
    refine ⟨not_not.mp (not_or.mp through).1, ?_⟩
    rw [List.head?_take] at answered
    split at answered
    · simp at answered
    · exact answered

/-- A stream that is opened by number is that of the session of the number. -/
theorem tail_answered (named : Named daemon.sessions) {id : UInt32}
    (answered : TailRun.answer (daemon.control conn (TailRun.tailRequest id)) conn received =
      some .ok) :
    ∃ session, daemon.sessions.lookup id = some session ∧
      daemon.liveTask (decimal id) = some session.handle := by
  obtain ⟨version, first⟩ := answer_eq_some answered
  rw [control, if_neg fun mismatch => mismatch.1 version] at first
  simp only [TailRun.tailRequest, dispatchControl, tail, withSession] at first
  cases resolved : daemon.sessions.resolveLiveSession (decimal id) daemon.lastAttached with
  | mk left result =>
    rw [resolved] at first
    cases result with
    | error frame =>
      -- The only error there is says that there is no such session.
      obtain ⟨_, rfl⟩ := Sessions.resolveLiveSession_error resolved
      exact absurd first (by simp [reply, Sessions.noSuchSession])
    | ok live =>
      obtain ⟨here, session⟩ := live
      obtain ⟨rfl, looked, stood, _⟩ := Sessions.resolveLiveSession_ok resolved
      have within := Sessions.reapSessions_within daemon.sessions
      obtain rfl := Sessions.id_of_resolveSession (within.carries.named named) stood
      refine ⟨session, within here session looked, ?_⟩
      rw [liveTask, resolved]

/-- A session that is found in the answer to a list request is there, under the number it is listed with. -/
theorem list_answered {sessions : List SessionEntry} {entry : SessionEntry} {target : String}
    (answered : TailRun.answer (daemon.control conn .listSessions) conn received =
      some (.sessionInfo sessions)) (chosen : findSession sessions target = some entry) :
    ∃ session, (daemon.control conn .listSessions).daemon.sessions.lookup entry.id = some session := by
  obtain ⟨version, first⟩ := answer_eq_some answered
  rw [control, if_neg fun mismatch => mismatch.1 version] at first ⊢
  simp only [dispatchControl, listSessions, reply, List.head?_cons, Option.some.injEq,
    Frame.sessionInfo.injEq] at first ⊢
  have inside : entry ∈ sessions := mem_of_findSession chosen
  rw [← first] at inside
  obtain ⟨id, session, looked, rfl⟩ := Sessions.mem_buildSessionEntries.mp inside
  exact ⟨session, by rwa [Sessions.sessionEntry_id]⟩

end Daemon

namespace TailRun

variable {target : String} {run next : TailRun}

/-- The streams are all of the task that an id stands for at one process, and so is the listing if it was that process's. -/
structure Anchored (run : TailRun) (serverId : UInt64) (id : UInt32) (process task : Nat) : Prop where
  holds : run.fleet.Holds process serverId id task
  streams : ∀ stream ∈ run.streams, stream = { process, task := some task }
  listed : ∀ listed, run.listed = some listed → listed.process = process →
    listed = { process, task := some task }

/-- What each stage has come to. -/
def Grounded (run : TailRun) : TailStage → Prop
  | .resolving => run.listed = none ∧ run.streams = []
  | .resolved id => run.streams = [] ∧ ∃ process task serverId,
      run.listed = some { process, task := some task } ∧ run.fleet.Holds process serverId id task
  | .tailing home => ∃ process task, run.Anchored home.expectedServerId home.sessionId process task
  | .reconnecting home =>
      ∃ process task, run.Anchored home.expectedServerId home.sessionId process task
  | .exited => run.FollowsOne

/-- What every run keeps. -/
structure Steady (run : TailRun) : Prop where
  settled : run.fleet.Settled
  grounded : run.Grounded run.stage

/-- A tail that is anchored follows one session. -/
theorem Anchored.followsOne {serverId : UInt64} {id : UInt32} {process task : Nat}
    (anchored : run.Anchored serverId id process task) : run.FollowsOne where
  one first inside second other :=
    (anchored.streams first inside).trans (anchored.streams second other).symm
  meant listed is stream inside same := by
    have there := anchored.streams stream inside
    rw [there] at same
    rw [there, anchored.listed listed is same.symm]

/-- At every stage a tail follows one session. -/
theorem Steady.followsOne (steady : run.Steady) : run.FollowsOne := by
  have grounded := steady.grounded
  cases stage : run.stage with
  | resolving =>
    rw [stage] at grounded
    exact ⟨by simp [grounded.2], by simp [grounded.1]⟩
  | resolved id =>
    rw [stage] at grounded
    exact ⟨by simp [grounded.1], by simp [grounded.1]⟩
  | tailing home =>
    rw [stage] at grounded
    obtain ⟨process, task, anchored⟩ := grounded
    exact anchored.followsOne
  | reconnecting home =>
    rw [stage] at grounded
    obtain ⟨process, task, anchored⟩ := grounded
    exact anchored.followsOne
  | exited =>
    rw [stage] at grounded
    exact grounded

/-- While an id keeps its task, what a stage has come to stays. -/
theorem Grounded.fleet {fleet : Fleet} (grounded : run.Grounded run.stage)
    (kept : ∀ {process task : Nat} {serverId : UInt64} {id : UInt32},
      run.fleet.Holds process serverId id task → fleet.Holds process serverId id task) :
    Grounded { run with fleet } run.stage := by
  cases stage : run.stage with
  | resolving =>
    rw [stage] at grounded
    exact grounded
  | resolved id =>
    rw [stage] at grounded
    obtain ⟨none_, process, task, serverId, listed, holds⟩ := grounded
    exact ⟨none_, process, task, serverId, listed, kept holds⟩
  | tailing home =>
    rw [stage] at grounded
    obtain ⟨process, task, anchored⟩ := grounded
    exact ⟨process, task, kept anchored.holds, anchored.streams, anchored.listed⟩
  | reconnecting home =>
    rw [stage] at grounded
    obtain ⟨process, task, anchored⟩ := grounded
    exact ⟨process, task, kept anchored.holds, anchored.streams, anchored.listed⟩
  | exited =>
    rw [stage] at grounded
    exact ⟨grounded.one, grounded.meant⟩

/-- A tail that exits has followed one session up to then. -/
theorem Steady.exited (steady : run.Steady) {fleet : Fleet} (settled : fleet.Settled) :
    Steady { run with fleet, stage := .exited } where
  settled := settled
  grounded := ⟨steady.followsOne.one, steady.followsOne.meant⟩

/-- A request of the tail is a step of the process that it is for. -/
theorem Steady.asked (steady : run.Steady) {process : Nat} {there : DaemonProcess}
    {daemon : Daemon} {action : DaemonAction}
    (found : run.fleet.processes[process]? = some there)
    (left : run.fleet.idsLeft process = true)
    (stepped : there.daemon.step action = some daemon) :
    Steady { run with fleet := run.fleet.update process daemon } where
  settled := steady.settled.update found left stepped
  grounded := steady.grounded.fleet fun holds => holds.update found left stepped

/-- What an id stands for at a process is what a stream by number is of. -/
theorem stream_of_holds {process : Nat} {there : DaemonProcess} {conn : ControlConn}
    {received : Bool} {serverId : UInt64} {id : UInt32} {task : Nat}
    (settled : run.fleet.Settled) (found : run.fleet.processes[process]? = some there)
    (holds : run.fleet.Holds process serverId id task)
    (answered : answer (there.daemon.control conn (tailRequest id)) conn received = some .ok) :
    stream process there.daemon id = { process, task := some task } := by
  obtain ⟨_, well⟩ := settled.wellNamed process there found
  obtain ⟨session, looked, live⟩ := Daemon.tail_answered well.named answered
  obtain ⟨was, lookedWas, _, stands⟩ := holds
  obtain rfl := Option.some.inj (found.symm.trans lookedWas)
  rw [stream, live, stands.task session looked]

/-- Every step keeps a tail with the session it follows. -/
theorem steady_step {action : TailAction} (steady : run.Steady)
    (unique : run.idsUnique action = true) (stepped : run.step target action = some next) :
    next.Steady := by
  cases action with
  | fleet action =>
    obtain ⟨fleet, went, rfl⟩ := Option.map_eq_some_iff.mp stepped
    exact ⟨Fleet.settled_step steady.settled unique went,
      steady.grounded.fleet fun holds => holds.step unique went⟩
  | list process conn received =>
    simp only [step] at stepped
    split at stepped
    · next there stage found =>
      split at stepped
      · next daemon went =>
        have asked := steady.asked found unique went
        have grounded := steady.grounded
        rw [stage] at grounded
        split at stepped
        · next sessions answered =>
          split at stepped
          · next entry chosen =>
            cases stepped
            obtain rfl := Daemon.eq_of_step_control went
            -- The number of the entry stands for the task it has when it is listed.
            obtain ⟨session, looked⟩ := Daemon.list_answered answered chosen
            have holds := asked.settled.holds (Fleet.update_found found) looked
            refine ⟨asked.settled, grounded.2, process, session.handle, there.serverId, ?_, holds⟩
            rw [Daemon.taskOf, looked]
            rfl
          · cases stepped
            exact steady.exited asked.settled
        · cases stepped
          exact steady.exited asked.settled
      · simp at stepped
    · simp at stepped
  | opens process conn received =>
    simp only [step] at stepped
    split at stepped
    · next id there stage found =>
      split at stepped
      · next daemon went =>
        have asked := steady.asked found unique went
        have grounded := steady.grounded
        rw [stage] at grounded
        obtain ⟨none_, listing, task, serverId, listed, holds⟩ := grounded
        split at stepped
        · next answered =>
          cases stepped
          -- The stream is anchored where it was opened, whatever process that is.
          obtain ⟨_, well⟩ := steady.settled.wellNamed process there found
          obtain ⟨session, looked, live⟩ := Daemon.tail_answered well.named answered
          have here := steady.settled.holds found looked
          have same := stream_of_holds steady.settled found here answered
          refine ⟨asked.settled, process, session.handle, here.update found unique went, ?_, ?_⟩
          · intro stream inside
            rw [none_, List.nil_append, List.mem_singleton] at inside
            rw [inside, same]
          · intro other is at_
            obtain rfl := Option.some.inj (listed.symm.trans is)
            subst at_
            rw [← same, stream_of_holds steady.settled found holds answered]
        · cases stepped
          exact steady.exited asked.settled
      · simp at stepped
    · simp at stepped
  | disconnected =>
    simp only [step] at stepped
    split at stepped
    · next home stage =>
      cases stepped
      have grounded := steady.grounded
      rw [stage] at grounded
      obtain ⟨process, task, anchored⟩ := grounded
      exact ⟨steady.settled, process, task, anchored.holds, anchored.streams, anchored.listed⟩
    · simp at stepped
  | attempt process conn received =>
    simp only [step] at stepped
    split at stepped
    · next home there stage found =>
      split at stepped
      · cases stepped
        exact steady.exited steady.settled
      · next expected =>
        split at stepped
        · next daemon went =>
          have asked := steady.asked found unique went
          have grounded := steady.grounded
          rw [stage] at grounded
          obtain ⟨home_, task, anchored⟩ := grounded
          split at stepped
          · next answered =>
            cases stepped
            -- The server id says that this is the process the stream was opened at.
            obtain ⟨was, looked, serverId, stands⟩ := anchored.holds
            have serverIds : there.serverId = was.serverId :=
              (not_not.mp (not_or.mp expected).1).trans serverId.symm
            obtain rfl := steady.settled.distinct _ _ there was found looked serverIds
            have same := stream_of_holds steady.settled found anchored.holds answered
            refine ⟨asked.settled, process, task, anchored.holds.update found unique went, ?_,
              anchored.listed⟩
            intro stream inside
            rcases List.mem_append.mp inside with before | new
            · exact anchored.streams stream before
            · rw [List.mem_singleton.mp new, same]
          · cases stepped
            exact steady.exited asked.settled
          · cases stepped
            exact asked
        · simp at stepped
    · simp at stepped
  | exits =>
    cases stepped
    exact steady.exited steady.settled

end TailRun

/--
A tail follows one session, through every reconnect.

In every run in which no two daemon processes pick the same server id and none runs out of session ids, whatever is created, renamed, killed and restarted, all streams a tail reads are of one session task; it is the one its target stood for, unless another process was listed than opened the first stream.
-/
theorem followsOne_along (typed clientName : String) {actions : List TailAction}
    (unique : (tailMachine (resolveSessionName typed clientName)).Meets
      (fun run action => run.idsUnique action = true) .new actions) :
    (tailMachine (resolveSessionName typed clientName)).Along TailRun.FollowsOne .new actions := by
  have start : TailRun.Steady .new := ⟨Fleet.settled_new, rfl, rfl⟩
  have preserved : ∀ run action next, TailRun.Steady run → run.idsUnique action = true →
      (tailMachine (resolveSessionName typed clientName)).step run action = some next →
        next.Steady :=
    fun run action next steady met stepped => TailRun.steady_step steady met stepped
  exact Machine.along_of_meets (fun run steady => steady.followsOne) preserved start unique

/-- A session is created, looked up and followed; it is renamed while the link is down. -/
def followedAcrossRename : List TailAction :=
  [.fleet (.start 1),
    .fleet (.attach 0 (steadyConn 0 7) (.newSession "laptop/work" "" "" 80 24 "laptop" 0)),
    .list 0 (steadyConn 1 7) true, .opens 0 (steadyConn 2 7) true, .disconnected,
    .fleet (.daemon 0 (.control (steadyConn 3 7) (.renameSession "laptop/work" "laptop/play"))),
    .attempt 0 (steadyConn 4 7) true]

theorem followsOne_along_rename :
    (tailMachine (resolveSessionName "work" "laptop")).Along TailRun.FollowsOne .new
      followedAcrossRename :=
  followsOne_along "work" "laptop" (by decide +kernel)

-- Both streams of the run are of the one task.
example : ((tailMachine (resolveSessionName "work" "laptop")).run .new followedAcrossRename).map
    (·.streams.map fun stream => (stream.process, stream.task)) =
      some [(0, some 0), (0, some 0)] := by
  decide +kernel

end Gritty
