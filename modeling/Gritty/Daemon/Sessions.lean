import Gritty.Lib.Decimal
import Gritty.Protocol.Frame
import Gritty.Lib.KeyedTable

/-! The daemon's sessions: what it keeps of each one, and how it resolves, names and reaps them. -/

namespace Gritty

/-- What a session's task publishes about it, and shares with the daemon from then on. -/
structure SessionMetadata where
  ptyPath : String
  shellPid : UInt32
  createdAt : UInt64
  attached : Bool
  lastHeartbeat : UInt64
  lastActivity : UInt64
  clientName : String
  wantsAgent : Bool
  ownerDeviceId : UInt64
  lingerSecs : UInt64
  deriving DecidableEq

/-- A connection that is handed to a session's task. -/
inductive ClientConn where
  | active (connection : Nat) (clientName : String) (capabilities : UInt32) (cols rows : UInt16)
      (renderedOffset : UInt64) (lineDirty isFresh : Bool)
  | tail (connection : Nat)
  | send (connection : Nat)
  | shutdown
  deriving DecidableEq

/-- The part of a new session's configuration that its metadata starts from. -/
structure SessionConfig where
  initialDeviceId : UInt64
  lingerSecs : UInt64
  deriving DecidableEq

/-- A session as the daemon keeps it. -/
structure SessionState where
  /-- Which task the session is, of all that were ever spawned. -/
  handle : Nat
  /-- The task has ended. -/
  finished : Bool
  /-- The task takes no connections any more. -/
  closed : Bool
  metadata : Option SessionMetadata
  config : SessionConfig
  /-- The connections that the task has not taken. -/
  inbox : List ClientConn
  name : Option String
  deriving DecidableEq

/-- The sessions by their ids. -/
abbrev Sessions := AList fun _ : UInt32 => SessionState

/-- Any control character of ASCII. -/
def isAsciiControl (byte : UInt8) : Bool := byte < 32 || byte = 127

namespace SessionMetadata

/-- The metadata that a task publishes when it starts. -/
def publish (config : SessionConfig) (ptyPath : String) (now : UInt64) : SessionMetadata where
  ptyPath
  shellPid := 0
  createdAt := now
  attached := false
  lastHeartbeat := 0
  lastActivity := now
  clientName := ""
  wantsAgent := false
  ownerDeviceId := config.initialDeviceId
  lingerSecs := config.lingerSecs

/-- A client is attached as of now. -/
def markAttached (metadata : SessionMetadata) (now : UInt64) : SessionMetadata :=
  { metadata with attached := true, lastHeartbeat := now }

/-- When the linger clock started: the last time a client was present, or the session's creation. -/
def lingerBaseline (metadata : SessionMetadata) : UInt64 :=
  max metadata.lastHeartbeat metadata.createdAt

/-- Nobody is attached, and nobody was for as long as the session lingers. -/
def lingerExpired (metadata : SessionMetadata) (now : UInt64) : Bool :=
  metadata.lingerSecs ≠ 0 && !metadata.attached &&
    metadata.lingerSecs.toNat ≤ now.toNat - metadata.lingerBaseline.toNat

end SessionMetadata

namespace SessionState

/-- The session's metadata, once its task had time to publish it. -/
def initialized (session : SessionState) (publishes : Bool) (ptyPath : String) (now : UInt64) :
    SessionState :=
  match session.metadata with
  | some _ => session
  | none =>
    if publishes then { session with metadata := some (.publish session.config ptyPath now) }
    else session

/-- A connection is handed to the session's task, unless it takes none any more. -/
def send (session : SessionState) (conn : ClientConn) : SessionState :=
  if session.closed then session else { session with inbox := session.inbox ++ [conn] }

end SessionState

namespace Sessions

/-- Aborts the sessions whose linger has expired. -/
def reapLingering (sessions : Sessions) (now : UInt64) : Sessions :=
  removeWhere sessions fun session => session.metadata.any (·.lingerExpired now)

/-- Removes the sessions whose task has ended. -/
def reapSessions (sessions : Sessions) : Sessions := removeWhere sessions (·.finished)

/-- Changes a session that is there. -/
def modify (sessions : Sessions) (id : UInt32) (change : SessionState → SessionState) : Sessions :=
  match sessions.lookup id with
  | some session => sessions.insert id (change session)
  | none => sessions

/-- The session a target stands for: the last one attached, one of that name, or one of that id. -/
def resolveSession (sessions : Sessions) (target : String) (lastAttached : Option UInt32) :
    Option UInt32 :=
  if target = "-" then lastAttached.filter fun id => (sessions.lookup id).isSome
  else
    match sessions.entries.find? fun entry => entry.2.name = some target with
    | some entry => some entry.1
    | none => (parseU32 target).filter fun id => (sessions.lookup id).isSome

/-- The error for a name that a session cannot get, if it cannot. -/
def validateSessionName (name : String) (sessions : Sessions) : Except Frame Unit :=
  if (utf8 name).any isAsciiControl then
    .error (.error .invalidName "session name must not contain control characters")
  else if (parseU32 name).isSome then
    .error (.error .invalidName
      "session name must not be purely numeric (ambiguous with session IDs)")
  else if name = "-" then
    .error (.error .invalidName "session name must not be '-' (reserved for last-attached)")
  else if sessions.entries.any fun entry => entry.2.name = some name then
    .error (.error .nameAlreadyExists s!"session name already exists: {name}")
  else .ok ()

/-- The error for a target that stands for no session. -/
def noSuchSession (session : String) : Frame :=
  .error .noSuchSession s!"no such session: {session}"

/-- The sessions without the ended ones, and the one of them that a target stands for. -/
def resolveLiveSession (sessions : Sessions) (session : String) (lastAttached : Option UInt32) :
    Sessions × Except Frame (UInt32 × SessionState) :=
  let sessions := reapSessions sessions
  match resolveSession sessions session lastAttached with
  | none => (sessions, .error (noSuchSession session))
  | some id =>
    match sessions.lookup id with
    | none => (sessions, .error (noSuchSession session))
    | some state =>
      if state.closed then (sessions.erase id, .error (noSuchSession session))
      else (sessions, .ok (id, state))

/-- A session as it is listed. -/
def sessionEntry (processes : UInt32 → String × String) (lastAttached : Option UInt32)
    (id : UInt32) (session : SessionState) : SessionEntry :=
  match session.metadata with
  | some metadata =>
    { id
      name                  := session.name.getD ""
      ptyPath               := metadata.ptyPath
      shellPid              := metadata.shellPid
      createdAt             := metadata.createdAt
      attached              := metadata.attached
      lastHeartbeat         := metadata.lastHeartbeat
      foregroundCmd         := (processes metadata.shellPid).1
      cwd                   := (processes metadata.shellPid).2
      clientName            := metadata.clientName
      agentForwardingActive := metadata.wantsAgent
      isLastAttached        := lastAttached = some id
      lastActivity          := metadata.lastActivity
      lingerSecs            := metadata.lingerSecs }
  | none =>
    { id
      name                  := session.name.getD ""
      ptyPath               := ""
      shellPid              := 0
      createdAt             := 0
      attached              := false
      lastHeartbeat         := 0
      foregroundCmd         := "-"
      cwd                   := ""
      clientName            := ""
      agentForwardingActive := false
      isLastAttached        := lastAttached = some id
      lastActivity          := 0
      lingerSecs            := 0 }

/-- The sessions as they are listed, in the order of their ids. -/
def buildSessionEntries (sessions : Sessions) (processes : UInt32 → String × String)
    (lastAttached : Option UInt32) : List SessionEntry :=
  (sessions.entries.map fun entry => sessionEntry processes lastAttached entry.1 entry.2).mergeSort
    fun first second => first.id ≤ second.id

end Sessions

end Gritty
