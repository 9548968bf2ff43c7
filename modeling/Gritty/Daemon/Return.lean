import Gritty.Daemon.Naming

/-! A client that reconnects on its own gets back to the session it left, or nowhere. -/

namespace Gritty

/-- A daemon process, on whatever host. -/
structure DaemonProcess where
  /-- What it picked at its start, and tells every client. -/
  serverId : UInt64
  daemon : Daemon

/-- What a client keeps of its first attach. -/
structure Home where
  expectedServerId : UInt64
  sessionId : UInt32
  /-- The process it was attached by, and the session's task, for the statements below. -/
  process : Nat
  task : Nat

/-- An acknowledgement that the client accepted: by which process, and of which session task. -/
structure Return where
  process : Nat
  task : Option Nat

/-- A client, and every daemon process that its control socket may ever lead to. -/
structure Fleet where
  processes : List DaemonProcess
  /-- What the client remembers, once it is attached. -/
  home : Option Home
  exited : Bool
  /-- The reconnects that it took for successful, for the statements below. -/
  returns : List Return

/-- What can happen next. -/
inductive FleetAction where
  /-- A daemon process starts: again, on another host, or at the same path as another one. -/
  | start (serverId : UInt64)
  /-- A daemon process does something, for this client's neighbours or on its own. -/
  | daemon (process : Nat) (action : DaemonAction)
  /-- The client asks to create a session or to be attached to one. -/
  | attach (process : Nat) (conn : ControlConn) (request : Frame)
  /-- The client's socket leads to a process, and it asks to be taken back. The answer may be lost. -/
  | reconnect (process : Nat) (conn : ControlConn) (clientName : String) (cols rows : UInt16)
      (renderedOffset : UInt64) (lineDirty received : Bool)

namespace Fleet

/-- No daemon has started, and the client neither. -/
def new : Fleet := { processes := [], home := none, exited := false, returns := [] }

/-- One process has come to another state. -/
def update (fleet : Fleet) (process : Nat) (daemon : Daemon) : Fleet :=
  { fleet with processes := fleet.processes.modify process fun it => { it with daemon } }

/-- The request of a reconnect: by number, by force, and as the device it is on. -/
def returnRequest (home : Home) (conn : ControlConn) (clientName : String) (cols rows : UInt16)
    (renderedOffset : UInt64) (lineDirty : Bool) : Frame :=
  .attach (decimal home.sessionId) clientName true false cols rows conn.deviceId renderedOffset
    lineDirty

/-- The task of the session that an answer acknowledges. -/
def ackedTask (conn : ControlConn) (out : Dispatched) : Option (UInt32 × Option Nat) :=
  (ackedId (out.sent.take conn.delivers)).map fun id =>
    (id, (out.daemon.sessions.lookup id).map (·.handle))

/-- One action, if it can be taken. -/
def step (fleet : Fleet) : FleetAction → Option Fleet
  | .start serverId =>
    some { fleet with processes := fleet.processes ++ [{ serverId, daemon := .new }] }
  | .daemon process action =>
    match fleet.processes[process]? with
    | some there => (there.daemon.step action).map (fleet.update process)
    | none => none
  | .attach process conn request =>
    match fleet.processes[process]?, fleet.home with
    | some there, none =>
      match there.daemon.step (.control conn request) with
      | some daemon =>
        match ackedTask conn (there.daemon.control conn request) with
        | some (sessionId, some task) =>
          some { fleet.update process daemon with
            home := some { expectedServerId := there.serverId, sessionId, process, task } }
        -- It was not attached, and may try again.
        | _ => some (fleet.update process daemon)
      | none => none
    | _, _ => none
  | .reconnect process conn clientName cols rows renderedOffset lineDirty received =>
    match fleet.processes[process]?, fleet.home with
    | some there, some home =>
      if fleet.exited then none
      -- Another process than the expected one ends the client.
      else if there.serverId ≠ home.expectedServerId then some { fleet with exited := true }
      else
        let request := returnRequest home conn clientName cols rows renderedOffset lineDirty
        match there.daemon.step (.control conn request) with
        | some daemon =>
          match ackedTask conn (there.daemon.control conn request) with
          | some (_, task) =>
            some { fleet.update process daemon with
              returns := if received then fleet.returns ++ [{ process, task }] else fleet.returns }
          | none => some (fleet.update process daemon)
        | none => none
    | _, _ => none

/-- Every reconnect that succeeded led to the process and the session task of the first attach. -/
def ReturnsHome (fleet : Fleet) : Prop :=
  ∀ back ∈ fleet.returns, ∃ home, fleet.home = some home ∧ back.process = home.process ∧
    back.task = some home.task

/-- The process that an action is for has not run out of ids. -/
def idsLeft (fleet : Fleet) (process : Nat) : Bool :=
  fleet.processes[process]?.all fun there => there.daemon.nextId.toNat < 2 ^ 32 - 1

/-- No two processes pick the same server id, and no process runs out of session ids. -/
def idsUnique (fleet : Fleet) : FleetAction → Bool
  | .start serverId => fleet.processes.all fun there => there.serverId ≠ serverId
  | .daemon process _ => fleet.idsLeft process
  | .attach process _ _ => fleet.idsLeft process
  | .reconnect process _ _ _ _ _ _ _ => fleet.idsLeft process

end Fleet

/-- A client and the daemons it may meet. -/
def clientFleet : Machine Fleet FleetAction where
  init := .new
  step := Fleet.step

namespace Daemon

variable {daemon next : Daemon} {conn : ControlConn}

/-- An id that was given out stands for one task, as long as it stands for any. -/
structure StandsFor (daemon : Daemon) (id : UInt32) (task : Nat) : Prop where
  given : id < daemon.nextId
  task : ∀ session, daemon.sessions.lookup id = some session → session.handle = task

/-- Ids are only given out. -/
theorem Controlled.nextId {frame : Frame} {out : Dispatched}
    (controlled : Controlled daemon conn frame out) :
    out.daemon.nextId = daemon.nextId ∨ out.daemon.nextId = daemon.nextId + 1 := by
  cases controlled with
  | created reaped session name command cwd clientName cols rows lingerSecs asked within named
      handle sessions nextId => exact Or.inr nextId
  | attached reaped here before after session clientName force cols rows attachToken renderedOffset
      lineDirty asked claim within looked handle name owner sessions nextId => exact Or.inl nextId
  | renamed reaped here before name within looked valid sessions nextId => exact Or.inl nextId
  | kept carries nextId => exact nextId

/-- No step makes an id stand for another task. -/
theorem StandsFor.step {id : UInt32} {task : Nat} {action : DaemonAction}
    (stands : daemon.StandsFor id task) (below : daemon.nextId.toNat < 2 ^ 32 - 1)
    (stepped : daemon.step action = some next) : next.StandsFor id task := by
  rcases step_cases stepped with ⟨conn, frame, rfl, rfl⟩ | ⟨-, carries, nextId, -⟩
  · have controlled := control_cases daemon conn frame
    refine ⟨lt_grown below stands.given controlled.nextId, ?_⟩
    intro session found
    rcases controlled.origin.2 id session found with ⟨rfl, -⟩ | ⟨before, looked, handle⟩
    · -- A new session has an id that was not given out before.
      exact absurd stands.given (UInt32.lt_irrefl _)
    · exact handle.trans (stands.task before looked)
  · refine ⟨nextId ▸ stands.given, ?_⟩
    intro session found
    obtain ⟨before, looked, kept⟩ := carries id session found
    exact kept.handle.trans (stands.task before looked)

/-- What is acknowledged is there. -/
theorem Controlled.acked {frame : Frame} {out : Dispatched}
    (controlled : Controlled daemon conn frame out) {id : UInt32} (acks : Acks conn out id) :
    ∃ session, out.daemon.sessions.lookup id = some session := by
  obtain ⟨device, member⟩ := acks
  cases controlled with
  | created reaped session name command cwd clientName cols rows lingerSecs asked within named
      handle sessions nextId spawned lastAttached sent delivered =>
    have told := List.mem_of_mem_take member
    rw [sent] at told
    obtain ⟨-, rfl⟩ : conn.deviceId = device ∧ daemon.nextId = id := by
      simpa [eq_comm] using told
    rw [sessions]
    exact ⟨session, AList.lookup_insert _⟩
  | attached reaped here before after session clientName force cols rows attachToken renderedOffset
      lineDirty asked claim within looked handle name owner sessions nextId spawned lastAttached
      sent delivered =>
    have told := List.mem_of_mem_take member
    rw [sent] at told
    obtain ⟨-, rfl⟩ : conn.deviceId = device ∧ here = id := by simpa [eq_comm] using told
    rw [sessions]
    exact ⟨after, AList.lookup_insert _⟩
  | renamed reaped here before name within looked valid sessions nextId spawned lastAttached quiet =>
    exact absurd ⟨device, member⟩ (quiet id)
  | kept carries nextId spawned lastAttached quiet => exact absurd ⟨device, member⟩ (quiet id)

end Daemon

namespace Daemon

variable {daemon : Daemon} {conn : ControlConn}

/-- What is acknowledged was delivered as an acknowledgement. -/
theorem acks_of_ackedId {out : Dispatched} {id : UInt32}
    (acked : ackedId (out.sent.take conn.delivers) = some id) : Acks conn out id := by
  obtain ⟨frame, member, same⟩ := List.exists_of_findSome?_eq_some acked
  -- Only an acknowledgement has an id.
  cases frame with
  | attachAck device other =>
    cases same
    exact ⟨device, member⟩
  | _ => simp at same

/-- An attach acknowledges the session that its target stands for. -/
theorem attach_acks {session clientName : String} {force noReplay : Bool} {cols rows : UInt16}
    {attachToken renderedOffset : UInt64} {lineDirty : Bool} {id : UInt32}
    (acks : Acks conn (daemon.attach conn session clientName force noReplay cols rows attachToken
      renderedOffset lineDirty) id) :
    ∃ left state, daemon.sessions.resolveLiveSession session daemon.lastAttached =
      (left, .ok (id, state)) := by
  have errors {other : Daemon} {frame : Frame} (none : ∀ device id, frame ≠ .attachAck device id)
      (acked : Acks conn (other.reply frame) id) : False := reply_quiet none id acked
  unfold attach at acks
  cases resolved : daemon.sessions.resolveLiveSession session daemon.lastAttached with
  | mk left result =>
    rw [resolved] at acks
    cases result with
    | error answer =>
      obtain ⟨-, rfl⟩ := Sessions.resolveLiveSession_error resolved
      exact (errors (by simp [Sessions.noSuchSession]) acks).elim
    | ok live =>
      obtain ⟨here, state⟩ := live
      simp only at acks
      -- The guards are taken in the order of the source; each of them answers with an error.
      split at acks
      · exact (errors (by simp) acks).elim
      · split at acks
        · exact (errors (by simp [ownerChanged]) acks).elim
        · split at acks
          · exact (errors (by simp [alreadyAttached]) acks).elim
          · split at acks
            · exact (errors (by simp) acks).elim
            · have told : id = here := by
                split at acks
                · obtain ⟨device, member⟩ := acks
                  have sent := List.mem_of_mem_take member
                  exact (by simpa [reply] using sent : device = conn.deviceId ∧ id = here).2
                · obtain ⟨device, member⟩ := acks
                  have sent := List.mem_of_mem_take member
                  exact (by simpa [reply] using sent : device = conn.deviceId ∧ id = here).2
              exact ⟨left, state, told ▸ rfl⟩

/-- A client that asks for a session by its number is attached to the session of that number. -/
theorem acked_by_number (named : Named daemon.sessions) {number id : UInt32} {home : Home}
    (is : home.sessionId = number) {clientName : String} {cols rows : UInt16}
    {renderedOffset : UInt64} {lineDirty : Bool}
    (acks : Acks conn (daemon.control conn
      (Fleet.returnRequest home conn clientName cols rows renderedOffset lineDirty)) id) :
    id = number := by
  unfold control Fleet.returnRequest at acks
  split at acks
  · exact absurd acks (reply_quiet (by simp) id)
  · obtain ⟨left, state, resolved⟩ := attach_acks acks
    obtain ⟨rfl, found, stood, -⟩ := Sessions.resolveLiveSession_ok resolved
    have reaped : Named daemon.sessions.reapSessions :=
      (Sessions.reapSessions_within daemon.sessions).carries.named named
    rw [is] at stood
    exact Sessions.id_of_resolveSession reaped stood

end Daemon

namespace Fleet

/-- The processes are told apart, each keeps names and ids apart, and home is where it was. -/
structure Settled (fleet : Fleet) : Prop where
  distinct : ∀ (first second : Nat) (one other : DaemonProcess),
    fleet.processes[first]? = some one → fleet.processes[second]? = some other →
      one.serverId = other.serverId → first = second
  wellNamed : ∀ (process : Nat) (there : DaemonProcess), fleet.processes[process]? = some there →
    ∃ lastServed, WellNamed { daemon := there.daemon, lastServed }
  home : ∀ home, fleet.home = some home → ∃ there, fleet.processes[home.process]? = some there ∧
    there.serverId = home.expectedServerId ∧ there.daemon.StandsFor home.sessionId home.task
  returned : fleet.ReturnsHome

section Steps

variable {fleet next : Fleet} {process : Nat} {there : DaemonProcess} {daemon : Daemon}

/-- The process that went on is found where it was; the others are as they were. -/
theorem update_cases (found : fleet.processes[process]? = some there) {other : Nat}
    {now : DaemonProcess} (looked : (fleet.update process daemon).processes[other]? = some now) :
    (other = process ∧ now = { there with daemon }) ∨
      (other ≠ process ∧ fleet.processes[other]? = some now) := by
  unfold update at looked
  rw [List.getElem?_modify] at looked
  obtain ⟨before, was, same⟩ := Option.map_eq_some_iff.mp looked
  by_cases here : process = other
  · subst here
    obtain rfl := Option.some.inj (found.symm.trans was)
    rw [if_pos rfl] at same
    exact Or.inl ⟨rfl, same.symm⟩
  · rw [if_neg here] at same
    exact Or.inr ⟨fun back => here back.symm, same ▸ was⟩

theorem update_found (found : fleet.processes[process]? = some there) :
    (fleet.update process daemon).processes[process]? = some { there with daemon } := by
  unfold update
  rw [List.getElem?_modify, found]
  simp

/-- A step of a process keeps it in order. -/
theorem Settled.wellNamed_step (settled : Settled fleet)
    (found : fleet.processes[process]? = some there) (left : fleet.idsLeft process = true)
    {action : DaemonAction} (stepped : there.daemon.step action = some daemon) :
    ∃ lastServed, WellNamed { daemon, lastServed } := by
  obtain ⟨lastServed, well⟩ := settled.wellNamed process there found
  have below : there.daemon.nextId.toNat < 2 ^ 32 - 1 := by
    simpa [idsLeft, found] using left
  have watched : watchedDaemon.step { daemon := there.daemon, lastServed } action =
      some { daemon, lastServed := Watched.served { daemon := there.daemon, lastServed } daemon action } := by
    simp only [watchedDaemon, stepped, Option.map_some]
  exact ⟨_, step_wellNamed well below watched⟩

/-- A step of a process leaves everything in order, and home where it was. -/
theorem Settled.update (settled : Settled fleet)
    (found : fleet.processes[process]? = some there) (left : fleet.idsLeft process = true)
    {action : DaemonAction} (stepped : there.daemon.step action = some daemon) :
    Settled (fleet.update process daemon) where
  distinct := by
    intro first second one other lookedOne lookedOther same
    -- Every process has the server id that it had.
    have before {place : Nat} {now : DaemonProcess}
        (looked : (fleet.update process daemon).processes[place]? = some now) :
        ∃ was, fleet.processes[place]? = some was ∧ was.serverId = now.serverId := by
      rcases update_cases found looked with ⟨rfl, rfl⟩ | ⟨-, was⟩
      · exact ⟨there, found, rfl⟩
      · exact ⟨now, was, rfl⟩
    obtain ⟨was, lookedWas, sameOne⟩ := before lookedOne
    obtain ⟨wasOther, lookedWasOther, sameOther⟩ := before lookedOther
    exact settled.distinct first second was wasOther lookedWas lookedWasOther
      (sameOne.trans (same.trans sameOther.symm))
  wellNamed := by
    intro other now looked
    rcases update_cases found looked with ⟨rfl, rfl⟩ | ⟨-, was⟩
    · exact settled.wellNamed_step found left stepped
    · exact settled.wellNamed other now was
  home := by
    intro home is
    obtain ⟨was, looked, serverId, stands⟩ := settled.home home is
    by_cases here : home.process = process
    · rw [here] at looked ⊢
      obtain rfl := Option.some.inj (found.symm.trans looked)
      have below : there.daemon.nextId.toNat < 2 ^ 32 - 1 := by
        simpa [idsLeft, found] using left
      exact ⟨_, update_found found, serverId, stands.step below stepped⟩
    · refine ⟨was, ?_, serverId, stands⟩
      unfold Fleet.update
      rw [List.getElem?_modify, looked]
      simp [Ne.symm here]
  returned := settled.returned

/-- A session that is acknowledged is there, under an id that was given out. -/
theorem Settled.acked (settled : Settled fleet)
    (found : fleet.processes[process]? = some there) (left : fleet.idsLeft process = true)
    {conn : ControlConn} {frame : Frame}
    (stepped : there.daemon.step (.control conn frame) = some daemon) {id : UInt32}
    {task : Option Nat} (acked : ackedTask conn (there.daemon.control conn frame) = some (id, task)) :
    daemon = (there.daemon.control conn frame).daemon ∧
      Daemon.Acks conn (there.daemon.control conn frame) id ∧
        ∃ session, daemon.sessions.lookup id = some session ∧ task = some session.handle ∧
          daemon.StandsFor id session.handle := by
  rcases Daemon.step_cases stepped with ⟨_, _, same, rfl⟩ | ⟨other, -⟩
  · obtain ⟨rfl, rfl⟩ := DaemonAction.control.inj same
    obtain ⟨told, is, pair⟩ := Option.map_eq_some_iff.mp acked
    obtain ⟨rfl, rfl⟩ := Prod.mk.inj pair
    have acks := Daemon.acks_of_ackedId is
    obtain ⟨session, looked⟩ := (Daemon.control_cases there.daemon conn frame).acked acks
    obtain ⟨lastServed, well⟩ := settled.wellNamed_step found left stepped
    refine ⟨rfl, acks, session, looked, by rw [looked]; rfl, well.below told session looked, ?_⟩
    intro now lookedNow
    rw [Option.some.inj (looked.symm.trans lookedNow)]
  · exact absurd rfl (other conn frame)

theorem settled_new : Settled .new where
  distinct := fun first second one other looked => absurd looked (by simp [new])
  wellNamed := fun process there looked => absurd looked (by simp [new])
  home := fun home is => absurd is (by simp [new])
  returned := fun back member => absurd member (by simp [new])

/-- A daemon that starts is told apart from the others, and has nothing to name. -/
theorem Settled.start (settled : Settled fleet) {serverId : UInt64}
    (unique : fleet.processes.all (fun there => there.serverId ≠ serverId) = true) :
    Settled { fleet with processes := fleet.processes ++ [{ serverId, daemon := .new }] } := by
  -- Every process was there before, or is the new one.
  have place {process : Nat} {now : DaemonProcess}
      (looked : (fleet.processes ++ [{ serverId, daemon := .new }])[process]? = some now) :
      fleet.processes[process]? = some now ∨
        (process = fleet.processes.length ∧ now = { serverId, daemon := .new }) := by
    rw [List.getElem?_append] at looked
    split at looked
    · exact Or.inl looked
    · have single := looked
      rw [List.getElem?_singleton] at single
      split at single
      · exact Or.inr ⟨by omega, (Option.some.inj single).symm⟩
      · simp at single
  have other {process : Nat} {now : DaemonProcess} (looked : fleet.processes[process]? = some now) :
      now.serverId ≠ serverId := by
    have all := List.all_eq_true.mp unique now (List.mem_of_getElem? looked)
    simpa using all
  refine ⟨?_, ?_, ?_, settled.returned⟩
  · intro first second one another lookedOne lookedOther same
    rcases place lookedOne with one | ⟨rfl, rfl⟩
    · rcases place lookedOther with two | ⟨rfl, rfl⟩
      · exact settled.distinct first second _ _ one two same
      · exact absurd same (other one)
    · rcases place lookedOther with two | ⟨rfl, rfl⟩
      · exact absurd same.symm (other two)
      · rfl
  · intro process now looked
    rcases place looked with before | ⟨rfl, rfl⟩
    · exact settled.wellNamed process now before
    · exact ⟨none, new_wellNamed⟩
  · intro home is
    obtain ⟨was, looked, rest⟩ := settled.home home is
    refine ⟨was, ?_, rest⟩
    have within : home.process < fleet.processes.length := (List.getElem?_eq_some_iff.mp looked).1
    exact (List.getElem?_append_left within).trans looked

/-- No step takes a reconnect anywhere but home. -/
theorem settled_step {action : FleetAction} (settled : Settled fleet)
    (unique : fleet.idsUnique action = true) (stepped : fleet.step action = some next) :
    Settled next := by
  cases action with
  | start serverId =>
    cases stepped
    exact settled.start unique
  | daemon process action =>
    simp only [step] at stepped
    split at stepped
    · next there found =>
      obtain ⟨daemon, went, rfl⟩ := Option.map_eq_some_iff.mp stepped
      exact settled.update found unique went
    · simp at stepped
  | attach process conn request =>
    simp only [step] at stepped
    split at stepped
    · next there found away =>
      split at stepped
      · next daemon went =>
        have updated := settled.update found unique went
        split at stepped
        · next sessionId task acked =>
          cases stepped
          obtain ⟨rfl, -, session, looked, same, stands⟩ := settled.acked found unique went acked
          cases same
          refine ⟨updated.distinct, updated.wellNamed, ?_, ?_⟩
          · intro home is
            cases is
            exact ⟨_, update_found found, rfl, stands⟩
          · -- Without a home nothing was returned to.
            intro back member
            obtain ⟨home, is, -⟩ := settled.returned back member
            exact absurd (away.symm.trans is) (by simp)
        · cases stepped
          exact updated
      · simp at stepped
    · simp at stepped
  | reconnect process conn clientName cols rows renderedOffset lineDirty received =>
    simp only [step] at stepped
    split at stepped
    · next there home found is =>
      split at stepped
      · simp at stepped
      · split at stepped
        · cases stepped
          exact ⟨settled.distinct, settled.wellNamed, settled.home, settled.returned⟩
        · next expected =>
          split at stepped
          · next daemon went =>
            have updated := settled.update found unique went
            split at stepped
            · next id task acked =>
              cases stepped
              refine ⟨updated.distinct, updated.wellNamed, updated.home, ?_⟩
              cases received with
              | false => exact updated.returned
              | true =>
                intro back member
                rcases List.mem_append.mp member with before | new
                · exact updated.returned back before
                · obtain rfl := List.mem_singleton.mp new
                  -- The server id says which process it is, and the number which session.
                  obtain ⟨was, looked, serverId, stands⟩ := settled.home home is
                  have serverIds : there.serverId = was.serverId := by
                    rw [serverId]
                    exact not_not.mp expected
                  obtain rfl := settled.distinct _ _ there was found looked serverIds
                  obtain rfl := Option.some.inj (found.symm.trans looked)
                  obtain ⟨rfl, acks, session, sessionFound, rfl, -⟩ :=
                    settled.acked found unique went acked
                  obtain ⟨lastServed, well⟩ := settled.wellNamed _ there found
                  obtain rfl := Daemon.acked_by_number well.named rfl acks
                  have below : there.daemon.nextId.toNat < 2 ^ 32 - 1 := by
                    simpa [idsUnique, idsLeft, found] using unique
                  have task := (stands.step below went).task session sessionFound
                  exact ⟨home, is, rfl, congrArg some task⟩
            · cases stepped
              exact updated
          · simp at stepped
    · simp at stepped

end Steps

end Fleet

/-- In every run in which no two daemon processes pick the same server id and none runs out of
session ids, a client that reconnects on its own is attached to the session it left. -/
theorem returnsHome_along {actions : List FleetAction}
    (unique : clientFleet.Meets (fun fleet action => fleet.idsUnique action = true)
      clientFleet.init actions) :
    clientFleet.Along Fleet.ReturnsHome clientFleet.init actions := by
  have preserved : ∀ fleet action next, Fleet.Settled fleet → fleet.idsUnique action = true →
      clientFleet.step fleet action = some next → Fleet.Settled next :=
    fun fleet action next settled met stepped => Fleet.settled_step settled met stepped
  exact Machine.along_of_meets (fun fleet settled => settled.returned) preserved Fleet.settled_new
    unique

/-- A client creates a session, which is renamed, and returns to it twice: first the socket leads to
its daemon, and then to another one. -/
def renamedAndBack : List FleetAction :=
  [.start 1, .attach 0 (steadyConn 0 7) (.newSession "work" "" "" 80 24 "laptop" 0),
    .daemon 0 (.control (steadyConn 1 7) (.renameSession "work" "play")),
    .reconnect 0 (steadyConn 2 7) "laptop" 80 24 0 false true, .start 2,
    .reconnect 1 (steadyConn 3 7) "laptop" 80 24 0 false true]

/-- A client whose session was renamed, there and back, returns to it. -/
theorem returnsHome_along_renamedAndBack :
    clientFleet.Along Fleet.ReturnsHome clientFleet.init renamedAndBack :=
  returnsHome_along (Machine.meets_cons (by decide) rfl (Machine.meets_cons (by decide) rfl
    (Machine.meets_cons (by decide) rfl (Machine.meets_cons (by decide) rfl
      (Machine.meets_cons (by decide) rfl (Machine.meets_cons (by decide) rfl trivial))))))

end Gritty
