import Gritty.Daemon.Steps

/-! `connect` that is to make a new session: what it asks the daemon for, and what it makes of the answers. -/

namespace Gritty

/-- The wire name of what a user typed. -/
def resolveSessionName (name clientName : String) : String :=
  if name = "-" then "-"
  else if '/' ∈ name.toList then name
  else s!"{clientName}/{name}"

/-- The wire name of a listed session. -/
def sessionWireName (entry : SessionEntry) : String :=
  if entry.name = "" then decimal entry.id else entry.name

/-- The session of a listing that a target stands for. -/
def findSession (sessions : List SessionEntry) (target : String) : Option SessionEntry :=
  if target = "-" then sessions.find? (·.isLastAttached)
  else sessions.find? fun entry => entry.name = target

/-- The name of a client's session of a number. -/
def slotName (clientName : String) (number : Nat) : String :=
  resolveSessionName (toString number) clientName

/-- The lowest slot of a client that no listed session has. -/
def suggestName (sessions : List SessionEntry) (clientName : String) : Option String :=
  ((List.range (sessions.length + 1)).map (slotName clientName)).find? fun candidate =>
    !sessions.any fun entry => sessionWireName entry == candidate

/-- The name that a new session is to have, from what the daemon answered when it was asked for its sessions. -/
def autoNewSessionName (clientName : String) : Option Frame → Option String
  | some (.sessionInfo sessions) => suggestName sessions clientName
  -- The list is not to be had: the first slot it is.
  | _ => some (resolveSessionName "0" clientName)

/-- The name of the session that was attached last, from the same answer. -/
def resolveLastAttached : Option Frame → Option String
  | some (.sessionInfo sessions) => (findSession sessions "-").map sessionWireName
  | _ => none

/-- How `connect` was called, and the name that the settings give the client. -/
structure ConnectFlags where
  /-- The wire name of the session that was typed. -/
  session : Option String
  newSession : Bool
  detach : Bool
  noPick : Bool
  noCreate : Bool
  force : Bool
  command : String
  lingerSecs : UInt64
  clientName : String
  deriving DecidableEq

namespace ConnectFlags

/-- The session is to be a new one: `-n`, or `-d` without a name and without `--no-pick`. -/
def wantsNew (flags : ConnectFlags) : Bool :=
  flags.newSession || (flags.session.isNone && flags.detach && !flags.noPick)

/-- The session is to be the one attached last. -/
def fromDash (flags : ConnectFlags) : Bool := flags.session = some "-"

/-- No session is to be created: there is no last one to create. -/
def neverCreates (flags : ConnectFlags) : Bool := flags.noCreate || flags.fromDash

end ConnectFlags

/-- How far a `connect` has come. -/
inductive ConnectStage where
  /-- The daemon is to be asked for its sessions, and the name is not settled yet. -/
  | listing
  /-- The name is settled, and the session is tried before it is created. -/
  | attaching (name : String) (force : Bool)
  /-- Somebody is attached, and the user is asked whether to take over. -/
  | confirming (name : String)
  | creating (name : String)
  /-- It was told that it is attached, or that its session is there: the session's task, for the statements below. -/
  | succeeded (task : Option Nat)
  | failed
  deriving DecidableEq

/-- A `connect` that is under way. -/
structure ConnectClient where
  flags : ConnectFlags
  stage : ConnectStage
  /-- The session task that was spawned for its own request and the command it was given, for the statements below. -/
  created : Option (Nat × String)
  deriving DecidableEq

namespace ConnectClient

/-- A `connect` at its start. A name that was typed is settled, and `-n` counts no more. -/
def launched (flags : ConnectFlags) : ConnectClient where
  flags
  stage :=
    match flags.session with
    | some name => if flags.fromDash then .listing else .attaching name flags.force
    | none => .listing
  created := none

/-- The name, from what the daemon answered when it was asked for its sessions. -/
def settledName (client : ConnectClient) (answer : Option Frame) : Option String :=
  if client.flags.fromDash then resolveLastAttached answer
  else autoNewSessionName client.flags.clientName answer

/-- The name is settled, and the session is tried first. -/
def named (client : ConnectClient) : Option String → ConnectClient
  | some name => { client with stage := .attaching name client.flags.force }
  | none => { client with stage := .failed }

/-- The first request for the session: to attach to it, or to find out whether it is there. -/
def attachFrame (client : ConnectClient) (name : String) (force : Bool) (cols rows : UInt16) :
    Frame :=
  let (attachCols, attachRows) := if client.flags.detach then (0, 0) else (cols, rows)
  .attach name client.flags.clientName force client.flags.detach attachCols attachRows 0 0 false

/-- The request for a session that was not there. -/
def newSessionFrame (client : ConnectClient) (name : String) (cols rows : UInt16) : Frame :=
  .newSession name client.flags.command "" cols rows client.flags.clientName client.flags.lingerSecs

/-- The client after the answer to its attach. `probed` is the session that it found, `attached` the one of an id. -/
def onAttachResponse (client : ConnectClient) (name : String) (force : Bool)
    (probed : Option Nat) (attached : UInt32 → Option Nat) : Option Frame → ConnectClient
  | some .ok =>
    if client.flags.detach then { client with stage := .succeeded probed }
    else { client with stage := .failed }
  | some (.attachAck _ id) => { client with stage := .succeeded (attached id) }
  | some (.error code _) =>
    match code with
    | .noSuchSession =>
      if client.flags.neverCreates then { client with stage := .failed }
      else { client with stage := .creating name }
    | .alreadyAttached =>
      if force then { client with stage := .failed } else { client with stage := .confirming name }
    | _ => { client with stage := .failed }
  | _ => { client with stage := .failed }

/-- The client after the answers to its request for a new session. -/
def onNewSessionResponse (client : ConnectClient) (attached : UInt32 → Option Nat) :
    List Frame → ConnectClient
  | .sessionCreated id :: .attachAck _ _ :: _ => { client with stage := .succeeded (attached id) }
  | _ => { client with stage := .failed }

end ConnectClient

/-- The task of the live session that a name stands for. -/
def Daemon.liveTask (daemon : Daemon) (name : String) : Option Nat :=
  match daemon.sessions.resolveLiveSession name daemon.lastAttached with
  | (_, .ok (_, session)) => some session.handle
  | (_, .error _) => none

/-- The task of the session of an id. -/
def Daemon.taskOf (daemon : Daemon) (id : UInt32) : Option Nat :=
  (daemon.sessions.lookup id).map (·.handle)

/-- The task that a request had spawned, and the command it was to run. -/
def Daemon.spawnedFor (daemon : Daemon) (out : Dispatched) : Frame → Option (Nat × String)
  | .newSession _ command _ _ _ _ _ =>
    if daemon.spawned < out.daemon.spawned then some (daemon.spawned, command) else none
  | _ => none

/-- What a `connect` does next, or what becomes of it. -/
inductive ConnectMove where
  /-- The daemon is asked for its sessions. -/
  | list (conn : ControlConn)
  /-- It could not be asked, or did not answer in time. -/
  | listFails
  | attach (conn : ControlConn) (cols rows : UInt16)
  | confirm (takeOver : Bool)
  | create (conn : ControlConn) (cols rows : UInt16)
  | abandon

namespace ConnectClient

/-- The frames of a connection that come back to the client. -/
def received (daemon : Daemon) (conn : ControlConn) (request : Frame) : List Frame :=
  (daemon.control conn request).sent.take conn.delivers

/-- One move of a client. Every request is served by the daemon at one moment. -/
def move (client : ConnectClient) (daemon : Daemon) : ConnectMove → Option (Daemon × ConnectClient)
  | .list conn =>
    match client.stage with
    | .listing =>
      (daemon.step (.control conn .listSessions)).map fun next =>
        (next, client.named (client.settledName (received daemon conn .listSessions).head?))
    | _ => none
  | .listFails =>
    match client.stage with
    | .listing => some (daemon, client.named (client.settledName none))
    | _ => none
  | .attach conn cols rows =>
    match client.stage with
    | .attaching name force =>
      let request := client.attachFrame name force cols rows
      (daemon.step (.control conn request)).map fun next =>
        (next, client.onAttachResponse name force (daemon.liveTask name) next.taskOf
          (received daemon conn request).head?)
    | _ => none
  | .confirm takeOver =>
    match client.stage with
    | .confirming name =>
      some (daemon, { client with stage := if takeOver then .attaching name true else .failed })
    | _ => none
  | .create conn cols rows =>
    match client.stage with
    | .creating name =>
      let request := client.newSessionFrame name cols rows
      let spawned := daemon.spawnedFor (daemon.control conn request) request
      (daemon.step (.control conn request)).map fun next =>
        (next, { client with created := spawned }.onNewSessionResponse next.taskOf
          (received daemon conn request))
    | _ => none
  | .abandon =>
    match client.stage with
    | .succeeded _ | .failed => none
    | _ => some (daemon, { client with stage := .failed })

end ConnectClient

/-- A daemon and every `connect` that was ever to make a new session there. -/
structure ConnectGroup where
  daemon : Daemon
  clients : List ConnectClient
  deriving DecidableEq

/-- What can happen next. -/
inductive ConnectAction where
  /-- Anything else happens at the daemon. -/
  | daemon (action : DaemonAction)
  | launch (flags : ConnectFlags)
  | client (place : Nat) (move : ConnectMove)

namespace ConnectGroup

/-- One action, if it can be taken. -/
def step (group : ConnectGroup) : ConnectAction → Option ConnectGroup
  | .daemon action => (group.daemon.step action).map fun daemon => { group with daemon }
  | .launch flags =>
    if flags.wantsNew then
      some { group with clients := group.clients ++ [.launched flags] }
    else none
  | .client place move =>
    (group.clients[place]?).bind fun client =>
      (client.move group.daemon move).map fun (daemon, next) =>
        { daemon, clients := group.clients.set place next }

end ConnectGroup

/-- A daemon from its start, and the clients that come to it. -/
def connectGroup : Machine ConnectGroup ConnectAction where
  init := { daemon := .new, clients := [] }
  step := ConnectGroup.step

end Gritty
