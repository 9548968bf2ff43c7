import Gritty.Daemon.Naming

/-! Who comes to the sessions of a daemon and leaves them again, as it can be seen from outside. -/

namespace Gritty

namespace SessionState

/-- A client was handed to the session whose task has not taken it. -/
def isAwaited (session : SessionState) : Bool :=
  session.inbox.any fun conn =>
    match conn with
    | .active .. => true
    | _ => false

/-- A client is attached to the session, or was handed to it and is about to be. -/
def hasClient (session : SessionState) : Bool :=
  session.metadata.any (·.attached) || session.isAwaited

end SessionState

/-- What is seen of the clients of a session. -/
inductive Visit where
  /-- The session was created for a client. -/
  | created (id : UInt32)
  /-- A client is told that it is attached, or the session's task says that one is. -/
  | comes (id : UInt32)
  /-- The session's task says that nobody is attached, and nobody is on the way. -/
  | leaves (id : UInt32)
  deriving DecidableEq

/-- The sessions that a connection is told to be attached to. -/
def toldAttached (conn : ControlConn) (out : Dispatched) : List UInt32 :=
  (out.sent.take conn.delivers).filterMap fun frame =>
    match frame with
    | .attachAck _ id => some id
    | _ => none

/-- What is seen when an attach frame or another one is served. -/
def Visit.ofFrame : Frame → UInt32 → Visit
  | .newSession .., id => .created id
  | _, id => .comes id

/-- What an action at a daemon shows of the clients of its sessions. -/
def Daemon.visits (daemon : Daemon) : DaemonAction → List Visit
  | .control conn frame =>
    (toldAttached conn (daemon.control conn frame)).map (Visit.ofFrame frame)
  | .task id (.writes _ attached _ _ _ _ _) =>
    if attached then [.comes id]
    -- The client that has left may have been displaced by one that the task has not taken yet.
    else if (daemon.sessions.lookup id).any (·.isAwaited) then []
    else [.leaves id]
  | _ => []

/-- Whether somebody came to a session and has not left it, after a visit. -/
def Visit.apply (id : UInt32) (present : Bool) : Visit → Bool
  | .created other | .comes other => present || other = id
  | .leaves other => present && other ≠ id

section Visits

variable {id : UInt32}

/-- Where nobody is seen to leave, whoever was there still is. -/
theorem foldl_apply_ofFrame (frame : Frame) (ids : List UInt32) (present : Bool) :
    (ids.map (Visit.ofFrame frame)).foldl (Visit.apply id) present =
      (present || decide (id ∈ ids)) := by
  have applied (other : UInt32) (present : Bool) :
      Visit.apply id present (Visit.ofFrame frame other) = (present || other = id) := by
    unfold Visit.ofFrame
    split <;> rfl
  induction ids generalizing present with
  | nil => simp
  | cons other later ih =>
    rw [List.map_cons, List.foldl_cons, ih, applied, Bool.or_assoc]
    simp [eq_comm, Bool.decide_or]

end Visits

namespace SessionState

/-- A connection that is no client's brings none. -/
theorem hasClient_send {session : SessionState} {conn : ClientConn}
    (other : ∀ connection name capabilities cols rows offset dirty fresh,
      conn ≠ .active connection name capabilities cols rows offset dirty fresh) :
    (session.send conn).hasClient = session.hasClient := by
  unfold send
  split
  · rfl
  · unfold hasClient isAwaited
    rw [List.any_append]
    cases conn with
    | active connection name capabilities cols rows offset dirty fresh =>
      exact absurd rfl (other connection name capabilities cols rows offset dirty fresh)
    | tail connection => simp
    | send connection => simp
    | shutdown => simp

/-- The metadata that a session gets late say that nobody is attached. -/
theorem hasClient_initialized (session : SessionState) (publishes : Bool) (ptyPath : String)
    (now : UInt64) : (session.initialized publishes ptyPath now).hasClient = session.hasClient := by
  unfold initialized
  cases known : session.metadata with
  | some metadata => rfl
  | none =>
    cases publishes with
    | false => rfl
    | true => simp [hasClient, isAwaited, known, SessionMetadata.publish]

/-- After the task says that nobody is attached, a session has a client only if one waits for the task. -/
theorem hasClient_writes (session : SessionState) (shellPid : UInt32)
    (lastHeartbeat lastActivity : UInt64) (clientName : String) (wantsAgent : Bool)
    (lingerSecs : UInt64) :
    (session.after (.writes shellPid false lastHeartbeat lastActivity clientName wantsAgent
      lingerSecs)).hasClient = session.isAwaited := by
  unfold hasClient after
  cases session.metadata <;> rfl

end SessionState

namespace Daemon

variable {daemon : Daemon} {conn : ControlConn}

/-- Whoever is at a session after a frame was there before, or is the connection itself. -/
def Brings (daemon : Daemon) (conn : ControlConn) (out : Dispatched) : Prop :=
  ∀ id after, out.daemon.sessions.lookup id = some after → after.hasClient = true →
    id ∈ toldAttached conn out ∨
      ∃ before, daemon.sessions.lookup id = some before ∧ before.hasClient = true

/-- An acknowledgement that comes through tells the connection. -/
theorem mem_toldAttached {out : Dispatched} (device : UInt64) {id : UInt32}
    (sent : .attachAck device id ∈ out.sent.take conn.delivers) : id ∈ toldAttached conn out :=
  List.mem_filterMap.mpr ⟨_, sent, rfl⟩

/-- Sessions that are some of those before bring nobody. -/
theorem brings_within {out : Dispatched} (within : out.daemon.sessions.Within daemon.sessions) :
    Brings daemon conn out :=
  fun id after found client => Or.inr ⟨after, within id after found, client⟩

/-- A session that is changed without a client brings nobody. -/
theorem brings_insert {out : Dispatched} {left : Sessions} {id : UInt32}
    {before after : SessionState} (within : left.Within daemon.sessions)
    (found : left.lookup id = some before) (same : after.hasClient = before.hasClient)
    (sessions : out.daemon.sessions = left.insert id after) : Brings daemon conn out := by
  intro other session looked client
  rw [sessions] at looked
  by_cases here : other = id
  · subst here
    rw [AList.lookup_insert, Option.some.injEq] at looked
    exact Or.inr ⟨before, within other before found, by rw [← same, looked, client]⟩
  · rw [AList.lookup_insert_ne here] at looked
    exact Or.inr ⟨session, within other session looked, client⟩

/-- Serving a live session brings whom serving it brings. -/
theorem brings_withSession {target : String} {serve : Daemon → UInt32 → SessionState → Dispatched}
    (served : ∀ left id state, left.Within daemon.sessions → left.lookup id = some state →
      Brings daemon conn (serve { daemon with sessions := left } id state)) :
    Brings daemon conn (daemon.withSession target serve) := by
  unfold withSession
  cases resolved : daemon.sessions.resolveLiveSession target daemon.lastAttached with
  | mk left result =>
    cases result with
    | error answer => exact brings_within (Sessions.resolveLiveSession_error resolved).1
    | ok live =>
      obtain ⟨id, state⟩ := live
      obtain ⟨rfl, found, _⟩ := Sessions.resolveLiveSession_ok resolved
      exact served _ id state (Sessions.reapSessions_within _) found

/-- A connection that reads or transfers is handed over as no client. -/
theorem brings_handOver {left : Sessions} (within : left.Within daemon.sessions) {id : UInt32}
    {state : SessionState} (found : left.lookup id = some state) {client : ClientConn}
    (other : ∀ connection name capabilities cols rows offset dirty fresh,
      client ≠ .active connection name capabilities cols rows offset dirty fresh) :
    Brings daemon conn ({ daemon with sessions := left }.handOver conn id client) := by
  unfold handOver
  split
  · exact brings_within within
  · refine brings_insert within found (SessionState.hasClient_send other) ?_
    show left.modify id _ = _
    rw [Sessions.modify, found]

/-- A new session has its creator, who is told so, or it is gone again. -/
theorem newSession_brings (name clientName : String) (lingerSecs : UInt64) :
    Brings daemon conn (daemon.newSession conn name clientName lingerSecs) := by
  have within := Sessions.reapSessions_within daemon.sessions
  unfold newSession
  cases validated : (if name = "" then none else some name).elim (.ok ())
      (fun given => Sessions.validateSessionName given daemon.sessions.reapSessions) with
  | error answer =>
    simp only [validated]
    exact brings_within within
  | ok valid =>
    simp only [validated]
    split
    -- The session is erased with the creator who is gone.
    · refine brings_within fun id after found => ?_
      by_cases same : id = daemon.nextId
      · subst same
        simp [AList.lookup_erase] at found
      · rw [AList.lookup_erase_ne same, AList.lookup_insert_ne same] at found
        exact within id after found
    · next enough =>
      intro id after found client
      by_cases same : id = daemon.nextId
      · subst same
        refine Or.inl (mem_toldAttached conn.deviceId ?_)
        show _ ∈ List.take conn.delivers [_, _]
        rw [List.take_of_length_le (by simpa using Nat.le_of_not_lt enough)]
        exact List.mem_cons_of_mem _ (List.mem_singleton_self _)
      · replace found : ((daemon.sessions.reapSessions.insert daemon.nextId _).insert
            daemon.nextId _).lookup id = some after := found
        rw [AList.lookup_insert_ne same, AList.lookup_insert_ne same] at found
        exact Or.inr ⟨after, within id after found, client⟩

/-- An attach brings the connection that it tells so, and otherwise nobody. -/
theorem attach_brings (session clientName : String) (force noReplay : Bool) (cols rows : UInt16)
    (attachToken renderedOffset : UInt64) (lineDirty : Bool) :
    Brings daemon conn (daemon.attach conn session clientName force noReplay cols rows attachToken
      renderedOffset lineDirty) := by
  unfold attach
  cases resolved : daemon.sessions.resolveLiveSession session daemon.lastAttached with
  | mk left result =>
    cases result with
    | error answer => exact brings_within (Sessions.resolveLiveSession_error resolved).1
    | ok live =>
      obtain ⟨id, before⟩ := live
      obtain ⟨rfl, found, _⟩ := Sessions.resolveLiveSession_ok resolved
      have within := Sessions.reapSessions_within daemon.sessions
      simp only
      -- The guards are those of the source, in its order.
      split
      · exact brings_within within
      split
      · exact brings_within within
      split
      · exact brings_within within
      split
      · exact brings_within within
      split
      · exact brings_insert within found (before.hasClient_initialized _ _ _) rfl
      · next gone =>
        intro other after looked client
        by_cases same : other = id
        · subst same
          refine Or.inl (mem_toldAttached conn.deviceId ?_)
          show _ ∈ List.take conn.delivers [_]
          rw [List.take_of_length_le (Nat.one_le_iff_ne_zero.mpr gone)]
          exact List.mem_singleton_self _
        · replace looked : ((daemon.sessions.reapSessions.insert id _).insert id _).lookup other =
              some after := looked
          rw [AList.lookup_insert_ne same, AList.lookup_insert_ne same] at looked
          exact Or.inr ⟨after, within other after looked, client⟩

/-- Every frame brings at most the connection that it came on. -/
theorem control_brings (daemon : Daemon) (conn : ControlConn) (frame : Frame) :
    Brings daemon conn (daemon.control conn frame) := by
  have unchanged : ∀ answer, Brings daemon conn (daemon.reply answer) :=
    fun _ => brings_within (Sessions.Within.refl _)
  unfold control
  split
  · exact unchanged _
  cases frame with
  | newSession name command cwd cols rows clientName lingerSecs =>
    exact newSession_brings name clientName lingerSecs
  | attach session clientName force noReplay cols rows attachToken renderedOffset lineDirty =>
    exact attach_brings session clientName force noReplay cols rows attachToken renderedOffset
      lineDirty
  | tail session =>
    exact brings_withSession fun _ _ _ within found => brings_handOver within found (by simp)
  | sendFile session =>
    exact brings_withSession fun _ _ _ within found => brings_handOver within found (by simp)
  | listSessions => exact brings_within (Sessions.reapSessions_within _)
  | killSession session =>
    exact brings_withSession fun left id _ within _ =>
      brings_within ((Sessions.erase_within left id).trans within)
  | renameSession session newName =>
    refine brings_withSession fun left id before within found => ?_
    split
    · exact brings_within within
    split
    · exact brings_within within
    -- A name brings no client.
    · have named : ({ before with name := some newName } : SessionState).hasClient =
          before.hasClient := rfl
      refine brings_insert within found named ?_
      show left.modify id _ = _
      rw [Sessions.modify, found]
  | setLinger session lingerSecs =>
    refine brings_withSession fun left id before within found => ?_
    split
    · next metadata known =>
      exact brings_insert within found (by simp [SessionState.hasClient, SessionState.isAwaited,
        known]) rfl
    · exact brings_within within
  | killServer =>
    refine brings_within fun id after found => ?_
    simp [dispatchControl, shutdown] at found
  | _ => exact unchanged _

/-- Whoever is at a session was seen there before, or is seen to come, and is not seen to leave. -/
theorem step_visited {next : Daemon} {action : DaemonAction} {present : UInt32 → Bool}
    (known : ∀ id session, daemon.sessions.lookup id = some session →
      session.hasClient = true → present id = true)
    (stepped : daemon.step action = some next) :
    ∀ id session, next.sessions.lookup id = some session → session.hasClient = true →
      (daemon.visits action).foldl (Visit.apply id) (present id) = true := by
  unfold step at stepped
  split at stepped
  · cases stepped
  intro id session found client
  cases action with
  | control conn frame =>
    cases stepped
    rw [visits, foldl_apply_ofFrame, Bool.or_eq_true, decide_eq_true_eq]
    rcases control_brings daemon conn frame id session found client with told | ⟨before, was, there⟩
    · exact Or.inr told
    · exact Or.inl (known id before was there)
  | round now =>
    cases stepped
    have within := (Sessions.reapSessions_within (daemon.sessions.reapLingering now)).trans
      (Sessions.removeWhere_within daemon.sessions _)
    exact known id session (within id session found) client
  | terminate =>
    cases stepped
    simp [shutdown] at found
  | task other event =>
    cases stepped
    replace found : (daemon.sessions.modify other (·.after event)).lookup id = some session := found
    unfold Sessions.modify at found
    cases there : daemon.sessions.lookup other with
    | none =>
      rw [there] at found
      have before := known id session found client
      cases event with
      | writes shellPid attached lastHeartbeat lastActivity clientName wantsAgent lingerSecs =>
        rw [visits, there, before]
        -- There is no such session, and it is not the one that has a client.
        have apart : other ≠ id := by
          rintro rfl
          rw [there] at found
          cases found
        cases attached <;> simp [Visit.apply, apart]
      | _ => exact before
    | some before =>
      rw [there] at found
      by_cases same : id = other
      swap
      -- Another session's task says nothing of this one.
      · rw [AList.lookup_insert_ne same] at found
        have there := known id session found client
        cases event with
        | writes shellPid attached lastHeartbeat lastActivity clientName wantsAgent lingerSecs =>
          rw [visits, there]
          cases attached with
          | true => simp [Visit.apply]
          | false =>
            simp only [Bool.false_eq_true, if_false]
            split
            · rfl
            · simp [Visit.apply, Ne.symm same]
        | _ => exact there
      · subst same
        rw [AList.lookup_insert, Option.some.injEq] at found
        subst found
        cases event with
        | publishes ptyPath now =>
          exact known id before there (before.hasClient_initialized true ptyPath now ▸ client)
        | writes shellPid attached lastHeartbeat lastActivity clientName wantsAgent lingerSecs =>
          rw [visits, there]
          cases attached with
          | true => simp [Visit.apply]
          -- The task says that nobody is there, so somebody is on the way.
          | false =>
            have awaited : before.isAwaited = true := by
              rwa [← before.hasClient_writes shellPid lastHeartbeat lastActivity clientName wantsAgent
                lingerSecs]
            rw [if_neg Bool.false_ne_true, Option.any_some, if_pos awaited]
            exact known id before there (by simp [SessionState.hasClient, awaited])
        | takes =>
          refine known id before there ?_
          -- What is left in the inbox was there before.
          simp only [SessionState.after, SessionState.hasClient, SessionState.isAwaited,
            Bool.or_eq_true] at client ⊢
          refine client.imp_right fun waits => ?_
          obtain ⟨conn, left, active⟩ := List.any_eq_true.mp waits
          exact List.any_eq_true.mpr ⟨conn, List.mem_of_mem_tail left, active⟩
        | closes =>
          exact known id before there client
        | finishes =>
          exact known id before there client

/-- A session is the same task as before, or it was just seen to be created. -/
theorem step_created {next : Daemon} {action : DaemonAction}
    (stepped : daemon.step action = some next) {id : UInt32} {after : SessionState}
    (found : next.sessions.lookup id = some after) :
    .created id ∈ daemon.visits action ∨
      ∃ before, daemon.sessions.lookup id = some before ∧ after.handle = before.handle := by
  rcases step_cases stepped with ⟨conn, frame, rfl, rfl⟩ | ⟨_, carries, _, _, _⟩
  swap
  · obtain ⟨before, looked, kept⟩ := carries id after found
    exact Or.inr ⟨before, looked, kept.handle⟩
  have controlled := control_cases daemon conn frame
  have origin := controlled.origin.2 id after found
  cases controlled with
  -- Only a request for a session makes one, and its creator is told so.
  | created reaped session name command cwd clientName cols rows lingerSecs asked within named
      handle sessions nextId spawned lastAttached sent delivered =>
    by_cases here : id = daemon.nextId
    · subst asked here
      refine Or.inl (List.mem_map.mpr ⟨daemon.nextId, mem_toldAttached conn.deviceId ?_, rfl⟩)
      rw [sent, List.take_of_length_le (by simpa using delivered)]
      exact List.mem_cons_of_mem _ (List.mem_singleton_self _)
    · rw [sessions, AList.lookup_insert_ne here] at found
      exact Or.inr ⟨after, within id after found, rfl⟩
  | attached reaped here before changed session clientName force cols rows attachToken
      renderedOffset lineDirty asked claim within looked handle name owner sessions nextId spawned =>
    exact Or.inr (origin.resolve_left fun new => absurd new.2.2 (by omega))
  | renamed reaped here before name within looked valid sessions nextId spawned =>
    exact Or.inr (origin.resolve_left fun new => absurd new.2.2 (by omega))
  | kept carries nextId spawned =>
    obtain ⟨before, looked, kept⟩ := carries id after found
    exact Or.inr ⟨before, looked, kept.handle⟩

end Daemon

end Gritty
