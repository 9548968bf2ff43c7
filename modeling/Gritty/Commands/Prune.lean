import Gritty.Daemon.Visits

/-! `prune`: it lists the sessions of a host, selects some of those nobody is attached to, and has them killed one by one. -/

namespace Gritty

/-- The client that a session's name says it was created by. -/
def SessionEntry.namespace? (entry : SessionEntry) : Option String :=
  if '/' ∈ entry.name.toList then some (String.ofList (entry.name.toList.takeWhile (· ≠ '/')))
  else none

/-- The detached sessions that pass every filter there is. -/
def pruneSelection (sessions : List SessionEntry) (now : UInt64) (clients : List String)
    (idleSecs : Option UInt64) (all : Bool) : List SessionEntry :=
  (sessions.filter fun entry => !entry.attached).filter fun entry =>
    if all then true
    else if clients ≠ [] && !entry.namespace?.any (fun name => clients.any (· == name)) then false
    else
      match idleSecs with
      | some min =>
        -- Unknown is not the same as idle.
        !(entry.lastActivity = 0 || now.toNat - entry.lastActivity.toNat < min.toNat)
      | none => true

/-- How `prune` was called. -/
structure PruneOptions where
  clients : List String
  idleSecs : Option UInt64
  all : Bool
  pick : Bool
  yes : Bool
  /-- The command line refuses `--all` beside a filter. -/
  exclusive : all = true → clients = [] ∧ idleSecs = none

/-- The sessions that may be killed. To pick from all of them no filter is needed. -/
def PruneOptions.candidates (options : PruneOptions) (sessions : List SessionEntry)
    (now : UInt64) : List SessionEntry :=
  let offerAll := options.all || (options.pick && options.clients = [] && options.idleSecs.isNone)
  pruneSelection sessions now options.clients options.idleSecs offerAll

/-- How far a `prune` has come. -/
inductive PruneStage where
  | listing
  /-- The user marks some of the candidates, and takes as long as it takes. -/
  | marking (candidates : List SessionEntry)
  | killing (victims : List SessionEntry)
  | finished

/-- What the daemon listed, for the statements below. -/
structure Listed where
  /-- Which of the daemons at the socket it was. -/
  process : Nat
  daemon : Daemon
  entries : List SessionEntry
  now : UInt64

/-- A session that was killed: by which daemon, under which id, and as it was when it was killed. -/
structure Killed where
  process : Nat
  id : UInt32
  session : SessionState

/-- A `prune`, and the daemon at the socket that it goes to. -/
structure PruneRun where
  daemon : Daemon
  /-- How many daemons were at the socket before. -/
  process : Nat
  stage : PruneStage
  /-- What was listed, chosen and killed, for the statements below. -/
  listed : Option Listed
  selected : List SessionEntry
  kills : List Killed

/-- What can happen next. -/
inductive PruneAction where
  /-- Anything else happens at the daemon. -/
  | daemon (action : DaemonAction)
  /-- Another daemon comes to the socket. -/
  | restart
  | list (conn : ControlConn) (now : UInt64)
  /-- The user confirms what is marked. -/
  | mark (ids : List UInt32)
  | kill (conn : ControlConn)
  /-- The request for the next victim does not get to the daemon. -/
  | skip
  | abandon

/-- What is seen at the socket while a `prune` runs. -/
inductive PruneSight where
  | visit (visit : Visit)
  | listed
  | restarted
  deriving DecidableEq

/-- Somebody came to a session of the daemon and has not left it again. -/
def attended (id : UInt32) (seen : List PruneSight) : Bool :=
  seen.foldl (fun present sight =>
    match sight with
    | .visit visit => visit.apply id present
    | .listed => present
    | .restarted => false) false

/-- A session was created under the id since the sessions were listed. -/
def replaced (id : UInt32) (seen : List PruneSight) : Bool :=
  seen.foldl (fun again sight =>
    match sight with
    | .visit (.created other) => again || other = id
    | .visit _ | .restarted => again
    | .listed => false) false

/-- The session that a request to kill kills. -/
def Daemon.killedBy (daemon : Daemon) (conn : ControlConn) (target : String) :
    Option (UInt32 × SessionState) :=
  if daemon.stopped ∨ conn.clientVersion ≠ protocolVersion then none
  else
    match daemon.sessions.resolveLiveSession target daemon.lastAttached with
    | (_, .ok found) => some found
    | (_, .error _) => none

namespace PruneRun

/-- A daemon was started, and `prune` was called. -/
def new : PruneRun where
  daemon := .new
  process := 0
  stage := .listing
  listed := none
  selected := []
  kills := []

/-- The victims are settled. -/
def choose (run : PruneRun) (victims : List SessionEntry) : PruneRun :=
  { run with stage := .killing victims, selected := victims }

/-- The sessions are listed: there is nothing to prune, something to pick from, or something to kill. -/
def onSessions (run : PruneRun) (options : PruneOptions) (entries : List SessionEntry)
    (now : UInt64) : PruneRun :=
  let run := { run with listed := some { process := run.process, daemon := run.daemon, entries, now } }
  let candidates := options.candidates entries now
  if candidates = [] then { run with stage := .finished }
  else if options.pick then { run with stage := .marking candidates }
  -- Without `-y` the candidates are shown, and that is it.
  else if !options.yes then { run with stage := .finished }
  else run.choose candidates

/-- One action, if it can be taken. -/
def step (options : PruneOptions) (run : PruneRun) : PruneAction → Option PruneRun
  | .daemon action => (run.daemon.step action).map fun daemon => { run with daemon }
  | .restart => some { run with daemon := .new, process := run.process + 1 }
  | .list conn now =>
    match run.stage with
    | .listing =>
      let answer := ((run.daemon.control conn .listSessions).sent.take conn.delivers).head?
      (run.daemon.step (.control conn .listSessions)).map fun daemon =>
        match answer with
        | some (.sessionInfo entries) => { run with daemon }.onSessions options entries now
        | _ => { run with daemon, stage := .finished }
    | _ => none
  | .mark ids =>
    match run.stage with
    | .marking candidates => some (run.choose (candidates.filter fun entry => ids.contains entry.id))
    | _ => none
  | .kill conn =>
    match run.stage with
    | .killing (victim :: rest) =>
      (run.daemon.step (.control conn (.killSession (decimal victim.id)))).map fun daemon =>
        { run with
          daemon
          stage := .killing rest
          kills := run.kills ++ ((run.daemon.killedBy conn (decimal victim.id)).toList.map
            fun (id, session) => { process := run.process, id, session }) }
    | _ => none
  | .skip =>
    match run.stage with
    | .killing (_ :: rest) => some { run with stage := .killing rest }
    | _ => none
  | .abandon => some { run with stage := .finished }

/-- What a `prune` and the others have the daemon do. -/
def requests (run : PruneRun) : PruneAction → List DaemonAction
  | .daemon action => [action]
  | .list conn _ => [.control conn .listSessions]
  | .kill conn =>
    match run.stage with
    | .killing (victim :: _) => [.control conn (.killSession (decimal victim.id))]
    | _ => []
  | _ => []

/-- What an action shows to who watches the socket. -/
def sights (run : PruneRun) (action : PruneAction) : List PruneSight :=
  (run.requests action).flatMap (fun request => (run.daemon.visits request).map .visit) ++
    match action with
    | .list .. => [.listed]
    | .restart => [.restarted]
    | _ => []

/-- Nobody came to the victim and stayed, and no other session got its id since the list, or there is nothing to kill. -/
def undisturbed (run : PruneRun) (seen : List PruneSight) : PruneAction → Bool
  | .kill conn =>
    match run.stage with
    | .killing (victim :: _) =>
      (run.daemon.killedBy conn (decimal victim.id)).isNone ||
        (!attended victim.id seen && !replaced victim.id seen)
    | _ => true
  | _ => true

end PruneRun

/-- A `prune` that was called with options. -/
def pruneMachine (options : PruneOptions) : Machine PruneRun PruneAction where
  init := .new
  step := PruneRun.step options

end Gritty
