import Gritty.Lib.Transition
import Gritty.Daemon.Sessions

/-! The daemon's control loop: what each control frame does to the sessions, and what it is answered with. -/

namespace Gritty

/-- The version of the wire protocol. -/
def protocolVersion : UInt16 := 23

/-- The daemon's state between two rounds of its loop. -/
structure Daemon where
  sessions : Sessions
  nextId : UInt32
  lastAttached : Option UInt32
  /-- How many session tasks were ever spawned. -/
  spawned : Nat
  stopped : Bool
  deriving DecidableEq

/-- A control connection after its handshake, with everything that the frame on it runs into. -/
structure ControlConn where
  connection : Nat
  clientVersion : UInt16
  capabilities : UInt32
  deviceId : UInt64
  /-- How many frames can be sent to it before a send fails or times out. -/
  delivers : Nat
  /-- A session's task that has not published its metadata does so within the time it is given. -/
  publishes : Bool
  ptyPath : String
  now : UInt64
  /-- The foreground command and the directory of a shell. -/
  processes : UInt32 → String × String

/-- What came of a control frame: the frames that were to be sent in answer, in order. -/
structure Dispatched where
  daemon : Daemon
  sent : List Frame
  exit : Bool

namespace Daemon

/-- A daemon that has just started. -/
def new : Daemon where
  sessions := ∅
  nextId := 0
  lastAttached := none
  spawned := 0
  stopped := false

/-- The frame has one answer, and the daemon goes on. -/
def reply (daemon : Daemon) (frame : Frame) : Dispatched :=
  { daemon, sent := [frame], exit := false }

/-- A new session that its creator has not been handed to. -/
def spawn (daemon : Daemon) (conn : ControlConn) (name : Option String) (lingerSecs : UInt64) :
    SessionState where
  handle := daemon.spawned
  finished := false
  closed := false
  metadata := none
  config := { initialDeviceId := conn.deviceId, lingerSecs }
  inbox := []
  name

/-- Creates a session and hands its creator to it. -/
def newSession (daemon : Daemon) (conn : ControlConn) (name clientName : String)
    (lingerSecs : UInt64) : Dispatched :=
  let sessions := daemon.sessions.reapSessions
  let name := if name = "" then none else some name
  match name.elim (.ok ()) fun given => Sessions.validateSessionName given sessions with
  | .error frame => { daemon with sessions }.reply frame
  | .ok () =>
    let id := daemon.nextId
    let session := daemon.spawn conn name lingerSecs
    let daemon :=
      { daemon with
        sessions := sessions.insert id session
        nextId := daemon.nextId + 1
        spawned := daemon.spawned + 1 }
    let created := [.sessionCreated id, .attachAck conn.deviceId id]
    if conn.delivers < 2 then
      -- The creator is gone before the hand-off, and its session with it.
      { daemon := { daemon with sessions := daemon.sessions.erase id }
        sent   := created.take (conn.delivers + 1)
        exit   := false }
    else
      let session : SessionState := session.initialized conn.publishes conn.ptyPath conn.now
      let session :=
        { session with
          metadata := session.metadata.map fun metadata : SessionMetadata =>
            metadata.markAttached conn.now }
      { daemon :=
          { daemon with
            sessions := daemon.sessions.insert id
              (session.send (.active conn.connection clientName conn.capabilities 0 0 0 false true))
            lastAttached := some id }
        sent := created
        exit := false }

/-- The error for an automatic reconnect of a device that does not own the session. -/
def ownerChanged (session : String) : Frame :=
  .error .ownerChanged s!"session {session} was taken over by another client"

/-- The error for a session that somebody is attached to. -/
def alreadyAttached (session current : String) : Frame :=
  .error .alreadyAttached
    (if current = "" then s!"session {session} is already attached"
      else s!"session {session} is already attached by {current}")

/-- Attaches the connection to a session, where it may. -/
def attach (daemon : Daemon) (conn : ControlConn) (session clientName : String)
    (force noReplay : Bool) (cols rows : UInt16) (attachToken renderedOffset : UInt64)
    (lineDirty : Bool) : Dispatched :=
  match daemon.sessions.resolveLiveSession session daemon.lastAttached with
  | (sessions, .error frame) => { daemon with sessions }.reply frame
  | (sessions, .ok (id, state)) =>
    let daemon := { daemon with sessions }
    -- A probe claims nothing.
    if noReplay then daemon.reply .ok
    else
      let currentOwner := (state.metadata.map (·.ownerDeviceId)).getD 0
      if attachToken ≠ 0 ∧ conn.deviceId ≠ currentOwner then daemon.reply (ownerChanged session)
      else if state.metadata.any (·.attached) && !force then
        daemon.reply (alreadyAttached session ((state.metadata.map (·.clientName)).getD ""))
      else
        let state := state.initialized conn.publishes conn.ptyPath conn.now
        match state.metadata with
        | none =>
          daemon.reply (.error .noSuchSession s!"session {session} is still initializing")
        | some metadata =>
          let daemon := { daemon with sessions := sessions.insert id state }
          if conn.delivers = 0 then daemon.reply (.attachAck conn.deviceId id)
          else
            let owned := { metadata.markAttached conn.now with ownerDeviceId := conn.deviceId }
            { daemon with
              sessions := daemon.sessions.insert id
                ({ state with metadata := some owned }.send
                  (.active conn.connection clientName conn.capabilities cols rows renderedOffset
                    lineDirty (attachToken == 0)))
              lastAttached := some id }.reply (.attachAck conn.deviceId id)

/-- Does what a frame asks for to the live session that its target stands for. -/
def withSession (daemon : Daemon) (target : String)
    (serve : Daemon → UInt32 → SessionState → Dispatched) : Dispatched :=
  match daemon.sessions.resolveLiveSession target daemon.lastAttached with
  | (sessions, .error frame) => { daemon with sessions }.reply frame
  | (sessions, .ok (id, state)) => serve { daemon with sessions } id state

/-- Tells the connection that it is through, and hands it to the session's task. -/
def handOver (daemon : Daemon) (conn : ControlConn) (id : UInt32) (client : ClientConn) :
    Dispatched :=
  if conn.delivers = 0 then daemon.reply .ok
  else { daemon with sessions := daemon.sessions.modify id (·.send client) }.reply .ok

/-- Hands the connection to a session as one that only reads its output. -/
def tail (daemon : Daemon) (conn : ControlConn) (session : String) : Dispatched :=
  daemon.withSession session fun daemon id _ => daemon.handOver conn id (.tail conn.connection)

/-- Hands the connection to a session as one that transfers files. -/
def sendFile (daemon : Daemon) (conn : ControlConn) (session : String) : Dispatched :=
  daemon.withSession session fun daemon id _ => daemon.handOver conn id (.send conn.connection)

/-- Lists the sessions. -/
def listSessions (daemon : Daemon) (conn : ControlConn) : Dispatched :=
  let sessions := daemon.sessions.reapSessions
  { daemon with sessions }.reply
    (.sessionInfo (sessions.buildSessionEntries conn.processes daemon.lastAttached))

/-- Aborts a session. -/
def killSession (daemon : Daemon) (session : String) : Dispatched :=
  daemon.withSession session fun daemon id _ =>
    { daemon with sessions := daemon.sessions.erase id }.reply .ok

/-- Gives a session another name. -/
def renameSession (daemon : Daemon) (session newName : String) : Dispatched :=
  daemon.withSession session fun daemon id _ =>
    if newName = "" then daemon.reply (.error .emptyName "new name must not be empty")
    else
      match daemon.sessions.validateSessionName newName with
      | .error frame => daemon.reply frame
      | .ok () =>
        { daemon with
          sessions := daemon.sessions.modify id fun state => { state with name := some newName }
          }.reply .ok

/-- Sets how long a session lingers. -/
def setLinger (daemon : Daemon) (session : String) (lingerSecs : UInt64) : Dispatched :=
  daemon.withSession session fun daemon id state =>
    match state.metadata with
    | some metadata =>
      { daemon with
        sessions := daemon.sessions.insert id
          { state with metadata := some { metadata with lingerSecs } } }.reply .ok
    | none => daemon.reply (.error .noSuchSession "session not yet initialized")

/-- Ends all sessions, and the daemon with them. -/
def shutdown (daemon : Daemon) : Daemon := { daemon with sessions := ∅, stopped := true }

/-- Serves one control frame. -/
def dispatchControl (daemon : Daemon) (conn : ControlConn) : Frame → Dispatched
  | .newSession name _ _ _ _ clientName lingerSecs =>
    daemon.newSession conn name clientName lingerSecs
  | .attach session clientName force noReplay cols rows attachToken renderedOffset lineDirty =>
    daemon.attach conn session clientName force noReplay cols rows attachToken renderedOffset
      lineDirty
  | .tail session => daemon.tail conn session
  | .listSessions => daemon.listSessions conn
  | .killSession session => daemon.killSession session
  | .sendFile session => daemon.sendFile conn session
  | .renameSession session newName => daemon.renameSession session newName
  | .setLinger session lingerSecs => daemon.setLinger session lingerSecs
  | .killServer => { daemon := daemon.shutdown, sent := [.ok], exit := true }
  | _ => daemon.reply (.error .unexpectedFrame "unexpected frame type")

/-- Serves the frame of a connection, if the connection's version allows it. -/
def control (daemon : Daemon) (conn : ControlConn) (frame : Frame) : Dispatched :=
  if conn.clientVersion ≠ protocolVersion ∧ frame ≠ .killServer then
    daemon.reply (.error .versionMismatch
      (s!"protocol version mismatch: client={conn.clientVersion} server={protocolVersion}; " ++
        "only KillServer is accepted -- run `gritty refresh` to upgrade"))
  else daemon.dispatchControl conn frame

end Daemon

/-- What a session's task does on its own. -/
inductive TaskEvent where
  | publishes (ptyPath : String) (now : UInt64)
  /-- The task updates the metadata it shares; the owner is not its to write. -/
  | writes (shellPid : UInt32) (attached : Bool) (lastHeartbeat lastActivity : UInt64)
      (clientName : String) (wantsAgent : Bool) (lingerSecs : UInt64)
  /-- The task takes the oldest connection that was handed to it. -/
  | takes
  | closes
  | finishes
  deriving DecidableEq

/-- A session after its task did something. -/
def SessionState.after (session : SessionState) : TaskEvent → SessionState
  | .publishes ptyPath now => session.initialized true ptyPath now
  | .writes shellPid attached lastHeartbeat lastActivity clientName wantsAgent lingerSecs =>
    { session with
      metadata := session.metadata.map fun metadata =>
        { metadata with
          shellPid, attached, lastHeartbeat, lastActivity, clientName, wantsAgent, lingerSecs } }
  | .takes => { session with inbox := session.inbox.tail }
  | .closes => { session with closed := true }
  | .finishes => { session with closed := true, finished := true }

/-- What happens at the daemon. -/
inductive DaemonAction where
  /-- The sessions are reaped, as before every round of the loop. -/
  | round (now : UInt64)
  | control (conn : ControlConn) (frame : Frame)
  | task (id : UInt32) (event : TaskEvent)
  /-- A signal ends the daemon. -/
  | terminate

/-- One action. A daemon that has stopped does nothing. -/
def Daemon.step (daemon : Daemon) (action : DaemonAction) : Option Daemon :=
  if daemon.stopped then none
  else
    match action with
    | .round now =>
      some { daemon with sessions := (daemon.sessions.reapLingering now).reapSessions }
    | .control conn frame => some (daemon.control conn frame).daemon
    | .task id event => some { daemon with sessions := daemon.sessions.modify id (·.after event) }
    | .terminate => some daemon.shutdown

/-- A daemon from its start. -/
def daemonMachine : Machine Daemon DaemonAction where
  init := .new
  step := Daemon.step

end Gritty
