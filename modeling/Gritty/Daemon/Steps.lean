import Gritty.Daemon.Dispatch
import Gritty.Daemon.SessionLaws

/-! Everything a control frame or a session's task can do to the daemon's sessions. -/

namespace Gritty

/-- The device that owns a session, once its metadata is there. -/
def SessionState.owner (session : SessionState) : Option UInt64 :=
  session.metadata.map (·.ownerDeviceId)

/-- A session is still the same task, under the same name, of the same owner. -/
structure SessionState.Kept (before after : SessionState) : Prop where
  handle : after.handle = before.handle
  name : after.name = before.name
  owner : ∀ device, before.owner = some device → after.owner = some device

/-- One table of sessions holds nothing but sessions of another, each of them kept. -/
def Sessions.Carries (left sessions : Sessions) : Prop :=
  ∀ id after, left.lookup id = some after →
    ∃ before, sessions.lookup id = some before ∧ before.Kept after

/-- A session is kept by leaving it alone. -/
theorem SessionState.Kept.refl (session : SessionState) : session.Kept session :=
  ⟨rfl, rfl, fun _ owned => owned⟩

/-- The metadata a session gets late changes nothing that it had. -/
theorem SessionState.initialized_kept (session : SessionState) (publishes : Bool)
    (ptyPath : String) (now : UInt64) :
    session.Kept (session.initialized publishes ptyPath now) := by
  unfold SessionState.initialized
  cases metadata : session.metadata with
  | some published => exact .refl session
  | none =>
    cases publishes with
    | false => exact .refl session
    | true => exact ⟨rfl, rfl, fun device owned => by simp [SessionState.owner, metadata] at owned⟩

/-- A connection handed to a session changes nothing of it. -/
@[simp] theorem SessionState.send_handle (session : SessionState) (conn : ClientConn) :
    (session.send conn).handle = session.handle := by
  unfold SessionState.send
  split <;> rfl

@[simp] theorem SessionState.send_name (session : SessionState) (conn : ClientConn) :
    (session.send conn).name = session.name := by
  unfold SessionState.send
  split <;> rfl

@[simp] theorem SessionState.send_metadata (session : SessionState) (conn : ClientConn) :
    (session.send conn).metadata = session.metadata := by
  unfold SessionState.send
  split <;> rfl

/-- A session that takes a connection is kept. -/
theorem SessionState.send_kept (session : SessionState) (conn : ClientConn) :
    session.Kept (session.send conn) :=
  ⟨session.send_handle conn, session.send_name conn, by simp [SessionState.owner]⟩

/-- Whatever a session's task does, the session is kept. -/
theorem SessionState.after_kept (session : SessionState) (event : TaskEvent) :
    session.Kept (session.after event) := by
  cases event with
  | publishes ptyPath now => exact session.initialized_kept true ptyPath now
  | writes shellPid attached lastHeartbeat lastActivity clientName wantsAgent lingerSecs =>
    exact ⟨rfl, rfl, by simp [SessionState.owner, SessionState.after]⟩
  | takes => exact ⟨rfl, rfl, fun _ owned => owned⟩
  | closes => exact ⟨rfl, rfl, fun _ owned => owned⟩
  | finishes => exact ⟨rfl, rfl, fun _ owned => owned⟩

namespace Sessions

variable {sessions left : Sessions}

/-- Sessions that are left as they were are kept. -/
theorem Within.carries (within : left.Within sessions) : left.Carries sessions :=
  fun id session found => ⟨session, within id session found, .refl session⟩

/-- A session that is kept in its place keeps the table. -/
theorem carries_insert {id : UInt32} {before after : SessionState} (within : left.Within sessions)
    (found : left.lookup id = some before) (kept : before.Kept after) :
    Carries (left.insert id after) sessions := by
  intro other session looked
  by_cases same : other = id
  · subst same
    rw [AList.lookup_insert, Option.some.injEq] at looked
    exact ⟨before, within other before found, looked ▸ kept⟩
  · rw [AList.lookup_insert_ne same] at looked
    exact ⟨session, within other session looked, .refl session⟩

/-- A change that keeps every session keeps the table. -/
theorem carries_modify (within : left.Within sessions) (id : UInt32)
    {change : SessionState → SessionState}
    (keeps : ∀ session : SessionState, session.Kept (change session)) :
    Carries (left.modify id change) sessions := by
  unfold modify
  cases found : left.lookup id with
  | none => exact within.carries
  | some session => exact carries_insert within found (keeps session)

end Sessions

namespace Daemon

variable {daemon : Daemon} {conn : ControlConn}

/-- An answer tells the connection that it is attached. -/
def Acks (conn : ControlConn) (out : Dispatched) (id : UInt32) : Prop :=
  ∃ device, .attachAck device id ∈ out.sent.take conn.delivers

/-- What can come of a control frame. -/
inductive Controlled (daemon : Daemon) (conn : ControlConn) (frame : Frame) (out : Dispatched) :
    Prop where
  /-- A session was created and its creator handed to it. -/
  | created (reaped : Sessions) (session : SessionState)
      (name command cwd clientName : String) (cols rows : UInt16) (lingerSecs : UInt64)
      (asked : frame = .newSession name command cwd cols rows clientName lingerSecs)
      (within : reaped.Within daemon.sessions)
      (named : ∀ name, session.name = some name →
        name ≠ "" ∧ reaped.validateSessionName name = .ok ())
      (handle : session.handle = daemon.spawned)
      (sessions : out.daemon.sessions = reaped.insert daemon.nextId session)
      (nextId : out.daemon.nextId = daemon.nextId + 1)
      (spawned : out.daemon.spawned = daemon.spawned + 1)
      (lastAttached : out.daemon.lastAttached = some daemon.nextId)
      (sent : out.sent = [.sessionCreated daemon.nextId, .attachAck conn.deviceId daemon.nextId])
      (delivered : 2 ≤ conn.delivers)
  /-- The connection was attached to a session, whose owner is its device now. -/
  | attached (reaped : Sessions) (id : UInt32) (before after : SessionState)
      (session clientName : String) (force : Bool) (cols rows : UInt16)
      (attachToken renderedOffset : UInt64) (lineDirty : Bool)
      (asked : frame =
        .attach session clientName force false cols rows attachToken renderedOffset lineDirty)
      (claim : attachToken = 0 ∨ before.owner.getD 0 = conn.deviceId)
      (within : reaped.Within daemon.sessions)
      (found : reaped.lookup id = some before)
      (handle : after.handle = before.handle)
      (name : after.name = before.name)
      (owner : after.owner = some conn.deviceId)
      (sessions : out.daemon.sessions = reaped.insert id after)
      (nextId : out.daemon.nextId = daemon.nextId)
      (spawned : out.daemon.spawned = daemon.spawned)
      (lastAttached : out.daemon.lastAttached = some id)
      (sent : out.sent = [.attachAck conn.deviceId id])
      (delivered : 1 ≤ conn.delivers)
  /-- A session got another name. -/
  | renamed (reaped : Sessions) (id : UInt32) (before : SessionState) (name : String)
      (within : reaped.Within daemon.sessions)
      (found : reaped.lookup id = some before)
      (valid : name ≠ "" ∧ reaped.validateSessionName name = .ok ())
      (sessions : out.daemon.sessions = reaped.insert id { before with name := some name })
      (nextId : out.daemon.nextId = daemon.nextId)
      (spawned : out.daemon.spawned = daemon.spawned)
      (lastAttached : out.daemon.lastAttached = daemon.lastAttached)
      (quiet : ∀ id, ¬ Acks conn out id)
  /-- The sessions that are left were kept, and nobody was attached. -/
  | kept (carries : out.daemon.sessions.Carries daemon.sessions)
      (nextId : out.daemon.nextId = daemon.nextId ∨ out.daemon.nextId = daemon.nextId + 1)
      (spawned : daemon.spawned ≤ out.daemon.spawned)
      (lastAttached : out.daemon.lastAttached = daemon.lastAttached)
      (quiet : ∀ id, ¬ Acks conn out id)

/-- An answer of one frame acknowledges no attach that it is not itself. -/
theorem reply_quiet {frame : Frame} (other : ∀ device id, frame ≠ .attachAck device id)
    (id : UInt32) : ¬ Acks conn (daemon.reply frame) id := by
  rintro ⟨device, member⟩
  have sent := List.mem_of_mem_take member
  rw [reply, List.mem_singleton] at sent
  exact other device id sent.symm

/-- A frame that only sweeps sessions away before it is answered keeps the others. -/
theorem controlled_reply {frame answer : Frame} {sessions : Sessions}
    (carries : sessions.Carries daemon.sessions)
    (other : ∀ device id, answer ≠ .attachAck device id) :
    Controlled daemon conn frame ({ daemon with sessions }.reply answer) :=
  .kept carries (Or.inl rfl) (Nat.le_refl _) rfl (reply_quiet other)

/-- A frame that serves a live session does what serving it does. -/
theorem controlled_withSession {frame : Frame} {target : String}
    {serve : Daemon → UInt32 → SessionState → Dispatched}
    (served : ∀ left id state, left.Within daemon.sessions → left.lookup id = some state →
      Controlled daemon conn frame (serve { daemon with sessions := left } id state)) :
    Controlled daemon conn frame (daemon.withSession target serve) := by
  unfold withSession
  cases resolved : daemon.sessions.resolveLiveSession target daemon.lastAttached with
  | mk left result =>
    cases result with
    | error answer =>
      obtain ⟨within, rfl⟩ := Sessions.resolveLiveSession_error resolved
      exact controlled_reply within.carries (by simp [Sessions.noSuchSession])
    | ok live =>
      obtain ⟨id, state⟩ := live
      obtain ⟨rfl, found, _⟩ := Sessions.resolveLiveSession_ok resolved
      exact served _ id state (Sessions.reapSessions_within _) found

/-- Handing a connection to a session keeps the sessions. -/
theorem controlled_handOver {frame : Frame} {left : Sessions} (within : left.Within daemon.sessions)
    (id : UInt32) (client : ClientConn) :
    Controlled daemon conn frame
      ({ daemon with sessions := left }.handOver conn id client) := by
  unfold handOver
  by_cases none : conn.delivers = 0
  · rw [if_pos none]
    exact controlled_reply within.carries (by simp)
  · rw [if_neg none]
    exact controlled_reply
      (Sessions.carries_modify within id fun session => session.send_kept client) (by simp)

/-- The name a new session gets is empty for none, and valid otherwise. -/
private theorem named_of_validated {sessions : Sessions} {name : String}
    (validated : (if name = "" then none else some name).elim (.ok ())
      (fun given => Sessions.validateSessionName given sessions) = .ok ()) :
    ∀ given, (if name = "" then none else some name) = some given →
      given ≠ "" ∧ sessions.validateSessionName given = .ok () := by
  intro given named
  by_cases empty : name = ""
  · simp [empty] at named
  · rw [if_neg empty] at named validated
    obtain rfl : name = given := Option.some.inj named
    exact ⟨empty, validated⟩

/-- A rejected name is answered with an error. -/
private theorem validateSessionName_error {sessions : Sessions} {name : String} {frame : Frame}
    (rejected : sessions.validateSessionName name = .error frame) (device : UInt64)
    (id : UInt32) : frame ≠ .attachAck device id := by
  unfold Sessions.validateSessionName at rejected
  rintro rfl
  split at rejected
  · simp at rejected
  · split at rejected
    · simp at rejected
    · split at rejected
      · simp at rejected
      · split at rejected <;> simp at rejected

/-- A session is created and handed to its creator, or it leaves nothing but its id behind. -/
theorem newSession_cases (daemon : Daemon) (conn : ControlConn)
    (name command cwd clientName : String) (cols rows : UInt16) (lingerSecs : UInt64) :
    Controlled daemon conn (.newSession name command cwd cols rows clientName lingerSecs)
      (daemon.newSession conn name clientName lingerSecs) := by
  have within := Sessions.reapSessions_within daemon.sessions
  unfold newSession
  cases validated : (if name = "" then none else some name).elim (.ok ())
      (fun given => Sessions.validateSessionName given daemon.sessions.reapSessions) with
  | error answer =>
    simp only [validated]
    refine controlled_reply within.carries ?_
    -- Only a given name can be rejected.
    by_cases empty : name = ""
    · simp [empty] at validated
    · rw [if_neg empty] at validated
      exact fun device id => validateSessionName_error validated device id
  | ok valid =>
    simp only [validated]
    by_cases gone : conn.delivers < 2
    · rw [if_pos gone]
      refine .kept ?_ (Or.inr rfl) (Nat.le_succ _) rfl ?_
      · -- The new session is erased again.
        intro id after found
        by_cases same : id = daemon.nextId
        · subst same
          simp [AList.lookup_erase] at found
        · rw [AList.lookup_erase_ne same, AList.lookup_insert_ne same] at found
          exact within.carries id after found
      · rintro id ⟨device, member⟩
        have few : conn.delivers = 0 ∨ conn.delivers = 1 := by omega
        rcases few with none | one
        · simp [none] at member
        · simp [one] at member
    · rw [if_neg gone]
      refine .created daemon.sessions.reapSessions _ name command cwd clientName cols rows
        lingerSecs rfl within ?_ ?_ (AList.insert_insert _) rfl rfl rfl rfl (by omega)
      · -- Neither the metadata nor the hand-off touches the name.
        have named := named_of_validated validated
        intro given
        simpa [spawn, (SessionState.initialized_kept _ _ _ _).name] using named given
      · simp [spawn, (SessionState.initialized_kept _ _ _ _).handle]

/-- An attach is turned away, goes unanswered, or makes the connection's device the owner. -/
theorem attach_cases (daemon : Daemon) (conn : ControlConn) (session clientName : String)
    (force noReplay : Bool) (cols rows : UInt16) (attachToken renderedOffset : UInt64)
    (lineDirty : Bool) :
    Controlled daemon conn
      (.attach session clientName force noReplay cols rows attachToken renderedOffset lineDirty)
      (daemon.attach conn session clientName force noReplay cols rows attachToken renderedOffset
        lineDirty) := by
  unfold attach
  cases resolved : daemon.sessions.resolveLiveSession session daemon.lastAttached with
  | mk left result =>
    cases result with
    | error answer =>
      obtain ⟨within, rfl⟩ := Sessions.resolveLiveSession_error resolved
      exact controlled_reply within.carries (by simp [Sessions.noSuchSession])
    | ok live =>
      obtain ⟨id, before⟩ := live
      obtain ⟨rfl, found, _⟩ := Sessions.resolveLiveSession_ok resolved
      have within := Sessions.reapSessions_within daemon.sessions
      simp only
      -- The guards are taken in the order of the source.
      by_cases probe : noReplay = true
      · rw [if_pos probe]
        exact controlled_reply within.carries (by simp)
      rw [if_neg probe]
      by_cases displaced :
          attachToken ≠ 0 ∧ conn.deviceId ≠ (before.metadata.map (·.ownerDeviceId)).getD 0
      · rw [if_pos displaced]
        exact controlled_reply within.carries (by simp [ownerChanged])
      rw [if_neg displaced]
      by_cases busy : (before.metadata.any (·.attached) && !force) = true
      · rw [if_pos busy]
        exact controlled_reply within.carries (by simp [alreadyAttached])
      rw [if_neg busy]
      have kept := before.initialized_kept conn.publishes conn.ptyPath conn.now
      cases published : (before.initialized conn.publishes conn.ptyPath conn.now).metadata with
      | none => exact controlled_reply within.carries (by simp)
      | some metadata =>
        simp only
        by_cases gone : conn.delivers = 0
        · rw [if_pos gone]
          refine .kept (Sessions.carries_insert within found kept) (Or.inl rfl) (Nat.le_refl _)
            rfl ?_
          rintro other ⟨device, member⟩
          simp [gone] at member
        · rw [if_neg gone]
          have claim : attachToken = 0 ∨ before.owner.getD 0 = conn.deviceId := by
            by_cases explicit : attachToken = 0
            · exact Or.inl explicit
            · have owned := not_and.mp displaced explicit
              exact Or.inr (not_not.mp owned).symm
          obtain rfl : noReplay = false := by simpa using probe
          refine .attached _ id before _ session clientName force cols rows attachToken
            renderedOffset lineDirty rfl claim within found ?_ ?_ ?_ (AList.insert_insert _) rfl rfl
            rfl rfl (by omega)
          · rw [SessionState.send_handle]
            exact kept.handle
          · rw [SessionState.send_name]
            exact kept.name
          · simp [SessionState.owner]

/-- A session is renamed only to a name that is valid beside the others. -/
theorem renameSession_cases (daemon : Daemon) (conn : ControlConn) (session newName : String)
    (frame : Frame) : Controlled daemon conn frame (daemon.renameSession session newName) := by
  refine controlled_withSession fun left id before within found => ?_
  by_cases empty : newName = ""
  · rw [if_pos empty]
    exact controlled_reply within.carries (by simp)
  rw [if_neg empty]
  cases validated : left.validateSessionName newName with
  | error answer =>
    exact controlled_reply within.carries fun device id =>
      validateSessionName_error validated device id
  | ok valid =>
    refine .renamed left id before newName within found ⟨empty, validated⟩ ?_ rfl rfl rfl
      (reply_quiet (by simp))
    simp [reply, Sessions.modify, found]

/-- Setting how long a session lingers keeps it. -/
theorem setLinger_cases (daemon : Daemon) (conn : ControlConn) (session : String)
    (lingerSecs : UInt64) (frame : Frame) :
    Controlled daemon conn frame (daemon.setLinger session lingerSecs) := by
  refine controlled_withSession fun left id before within found => ?_
  cases metadata : before.metadata with
  | none => exact controlled_reply within.carries (by simp)
  | some published =>
    refine controlled_reply (Sessions.carries_insert within found ⟨rfl, rfl, ?_⟩) (by simp)
    simp [SessionState.owner, metadata]

/-- A connection that only reads the output, or transfers files, keeps the sessions. -/
theorem tail_cases (daemon : Daemon) (conn : ControlConn) (session : String) (frame : Frame) :
    Controlled daemon conn frame (daemon.tail conn session) :=
  controlled_withSession fun _ id _ within _ => controlled_handOver within id _

theorem sendFile_cases (daemon : Daemon) (conn : ControlConn) (session : String)
    (frame : Frame) : Controlled daemon conn frame (daemon.sendFile conn session) :=
  controlled_withSession fun _ id _ within _ => controlled_handOver within id _

/-- Killing a session leaves the others as they are. -/
theorem killSession_cases (daemon : Daemon) (conn : ControlConn) (session : String)
    (frame : Frame) : Controlled daemon conn frame (daemon.killSession session) := by
  refine controlled_withSession fun left id _ within _ => ?_
  exact controlled_reply ((Sessions.erase_within left id).trans within).carries (by simp)

/-- Every control frame comes to one of the four. -/
theorem dispatchControl_cases (daemon : Daemon) (conn : ControlConn) (frame : Frame) :
    Controlled daemon conn frame (daemon.dispatchControl conn frame) := by
  -- The frames that are no requests have one answer.
  have unexpected : Controlled daemon conn frame
      (daemon.reply (.error .unexpectedFrame "unexpected frame type")) :=
    controlled_reply (Sessions.Within.refl _).carries (by simp)
  cases frame with
  | newSession name command cwd cols rows clientName lingerSecs =>
    exact newSession_cases daemon conn name command cwd clientName cols rows lingerSecs
  | attach session clientName force noReplay cols rows attachToken renderedOffset lineDirty =>
    exact attach_cases daemon conn session clientName force noReplay cols rows attachToken
      renderedOffset lineDirty
  | tail session => exact tail_cases daemon conn session _
  | sendFile session => exact sendFile_cases daemon conn session _
  | listSessions =>
    exact controlled_reply (Sessions.reapSessions_within _).carries (by simp)
  | killSession session => exact killSession_cases daemon conn session _
  | renameSession session newName => exact renameSession_cases daemon conn session newName _
  | setLinger session lingerSecs => exact setLinger_cases daemon conn session lingerSecs _
  | killServer =>
    have quiet : ∀ id, ¬ Acks conn (daemon.shutdown.reply .ok) id := reply_quiet (by simp)
    refine .kept ?_ (Or.inl rfl) (Nat.le_refl _) rfl quiet
    intro id after found
    simp [dispatchControl, shutdown] at found
  | _ => exact unexpected

/-- A frame of another version is turned away, and any other is dispatched. -/
theorem control_cases (daemon : Daemon) (conn : ControlConn) (frame : Frame) :
    Controlled daemon conn frame (daemon.control conn frame) := by
  unfold control
  by_cases mismatched : conn.clientVersion ≠ protocolVersion ∧ frame ≠ .killServer
  · rw [if_pos mismatched]
    exact controlled_reply (Sessions.Within.refl _).carries (by simp)
  · rw [if_neg mismatched]
    exact dispatchControl_cases daemon conn frame

/-- A step that is no control frame keeps the sessions that are left, and everything else. -/
theorem step_cases {next : Daemon} {action : DaemonAction}
    (stepped : daemon.step action = some next) :
    (∃ conn frame, action = .control conn frame ∧ next = (daemon.control conn frame).daemon) ∨
      ((∀ conn frame, action ≠ .control conn frame) ∧
        next.sessions.Carries daemon.sessions ∧ next.nextId = daemon.nextId ∧
        next.spawned = daemon.spawned ∧ next.lastAttached = daemon.lastAttached) := by
  unfold step at stepped
  by_cases stopped : daemon.stopped = true
  · simp [stopped] at stopped stepped
  rw [if_neg stopped] at stepped
  cases action with
  | control conn frame =>
    cases stepped
    exact Or.inl ⟨conn, frame, rfl, rfl⟩
  | round now =>
    cases stepped
    have within := (Sessions.reapSessions_within (daemon.sessions.reapLingering now)).trans
      (Sessions.removeWhere_within daemon.sessions _)
    exact Or.inr ⟨by simp, within.carries, rfl, rfl, rfl⟩
  | task id event =>
    cases stepped
    exact Or.inr ⟨by simp, Sessions.carries_modify (Sessions.Within.refl _) id
      fun session => session.after_kept event, rfl, rfl, rfl⟩
  | terminate =>
    cases stepped
    refine Or.inr ⟨by simp, fun id after found => ?_, rfl, rfl, rfl⟩
    simp [shutdown] at found

/-- Every session is its own task, of those that were spawned. -/
structure TasksApart (daemon : Daemon) : Prop where
  spawned : ∀ id session, daemon.sessions.lookup id = some session →
    session.handle < daemon.spawned
  apart : ∀ first second one other, daemon.sessions.lookup first = some one →
    daemon.sessions.lookup second = some other → one.handle = other.handle → first = second

/-- Every session after a control frame was spawned by it, or is the same task as before. -/
theorem Controlled.origin {frame : Frame} {out : Dispatched}
    (controlled : Controlled daemon conn frame out) :
    daemon.spawned ≤ out.daemon.spawned ∧
      ∀ id after, out.daemon.sessions.lookup id = some after →
        (id = daemon.nextId ∧ after.handle = daemon.spawned ∧
          daemon.spawned < out.daemon.spawned) ∨
        ∃ before, daemon.sessions.lookup id = some before ∧ after.handle = before.handle := by
  cases controlled with
  | created reaped session name command cwd clientName cols rows lingerSecs asked within named
      handle sessions nextId spawned =>
    refine ⟨by omega, fun id after found => ?_⟩
    rw [sessions] at found
    by_cases same : id = daemon.nextId
    · rw [same, AList.lookup_insert, Option.some.injEq] at found
      exact Or.inl ⟨same, found ▸ handle, by omega⟩
    · rw [AList.lookup_insert_ne same] at found
      exact Or.inr ⟨after, within id after found, rfl⟩
  | attached reaped here before changed session clientName force cols rows attachToken
      renderedOffset lineDirty asked claim within looked handle name owner sessions nextId spawned =>
    refine ⟨by omega, fun id after found => Or.inr ?_⟩
    rw [sessions] at found
    by_cases same : id = here
    · rw [same, AList.lookup_insert, Option.some.injEq] at found
      exact ⟨before, same ▸ within here before looked, found ▸ handle⟩
    · rw [AList.lookup_insert_ne same] at found
      exact ⟨after, within id after found, rfl⟩
  | renamed reaped here before name within looked valid sessions nextId spawned =>
    refine ⟨by omega, fun id after found => Or.inr ?_⟩
    rw [sessions] at found
    by_cases same : id = here
    · rw [same, AList.lookup_insert, Option.some.injEq] at found
      exact ⟨before, same ▸ within here before looked, found ▸ rfl⟩
    · rw [AList.lookup_insert_ne same] at found
      exact ⟨after, within id after found, rfl⟩
  | kept carries nextId spawned =>
    refine ⟨spawned, fun id after found => Or.inr ?_⟩
    obtain ⟨before, looked, same⟩ := carries id after found
    exact ⟨before, looked, same.handle⟩

/-- A daemon that has just started has no task twice. -/
theorem new_tasksApart : TasksApart .new :=
  ⟨fun id session found => by simp [Daemon.new] at found,
    fun first second one other found => by simp [Daemon.new] at found⟩

/-- No step makes two sessions of one task. -/
theorem step_tasksApart {next : Daemon} {action : DaemonAction} (tasks : TasksApart daemon)
    (stepped : daemon.step action = some next) : TasksApart next := by
  rcases step_cases stepped with ⟨conn, frame, _, rfl⟩ | ⟨_, carries, _, spawned, _⟩
  · obtain ⟨more, origin⟩ := (control_cases daemon conn frame).origin
    constructor
    · intro id after found
      rcases origin id after found with ⟨_, handle, grown⟩ | ⟨before, looked, handle⟩
      · omega
      · have old := tasks.spawned id before looked
        omega
    · intro first second one other foundOne foundOther same
      -- The new session's task is none of the older ones.
      rcases origin first one foundOne with ⟨here, newOne, _⟩ | ⟨oneBefore, lookedOne, handleOne⟩ <;>
      rcases origin second other foundOther with
        ⟨there, newOther, _⟩ | ⟨otherBefore, lookedOther, handleOther⟩
      · exact here.trans there.symm
      · have old := tasks.spawned second otherBefore lookedOther
        omega
      · have old := tasks.spawned first oneBefore lookedOne
        omega
      · exact tasks.apart first second oneBefore otherBefore lookedOne lookedOther (by omega)
  · constructor
    · intro id after found
      obtain ⟨before, looked, kept⟩ := carries id after found
      rw [kept.handle, spawned]
      exact tasks.spawned id before looked
    · intro first second one other foundOne foundOther same
      obtain ⟨oneBefore, lookedOne, keptOne⟩ := carries first one foundOne
      obtain ⟨otherBefore, lookedOther, keptOther⟩ := carries second other foundOther
      refine tasks.apart first second oneBefore otherBefore lookedOne lookedOther ?_
      rw [← keptOne.handle, ← keptOther.handle, same]

/-- No daemon has two sessions of one task. -/
theorem run_tasksApart {actions : List DaemonAction} {last : Daemon}
    (ran : daemonMachine.run .new actions = some last) : TasksApart last :=
  Machine.run_invariant
    (fun state _ _ (tasks : TasksApart state) stepped => step_tasksApart tasks stepped)
    new_tasksApart ran

end Daemon

end Gritty
