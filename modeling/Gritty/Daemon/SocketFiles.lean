import Gritty.Lib.KeyedTable
import Gritty.Lib.Transition

/-! The files that daemons keep in their socket directory, and who removes them. -/

namespace Gritty

/-- A file of the socket directory. -/
inductive DirFile where
  | ctl
  | pid
  | info
  | svc (id : Nat)
  | agent (id : Nat)
  deriving DecidableEq

/-- What is on disk under a name, and the daemon that wrote it. -/
structure WrittenFile where
  inode : Nat
  author : Nat
  deriving DecidableEq

/-- How far a call that binds a socket has come. -/
inductive BindStage where
  | binding
  /-- The address is in use, and the socket there is probed. -/
  | probing
  /-- Nobody answered, and the socket is removed. -/
  | unlinking
  | rebinding
  /-- The socket is there, and its permissions are set. -/
  | granting (inode : Nat)
  deriving DecidableEq

/-- What one operation of such a call leads to. -/
inductive BindOutcome where
  | created
  | bound (inode : Nat)
  | failed
  | goOn (stage : BindStage)
  | unlinked
  deriving DecidableEq

namespace BindStage

/-- The socket the call has created. -/
def socket : BindStage → Option Nat
  | .granting inode => some inode
  | .binding | .probing | .unlinking | .rebinding => none

/-- The next operation of a call, by what is at the path and whether somebody listens there. -/
def next (stage : BindStage) (present answers : Bool) : BindOutcome :=
  match stage with
  | .binding => if present then .goOn .probing else .created
  | .probing => if present && answers then .failed else .goOn .unlinking
  | .unlinking => if present then .unlinked else .failed
  | .rebinding => if present then .failed else .created
  | .granting inode => if present then .bound inode else .failed

end BindStage

/-- The task of one session, with the sockets it listens on. -/
inductive SocketTask where
  | spawned
  | bindingSvc (stage : BindStage)
  | serving (svc agent : Option Nat)
  | bindingAgent (svc : Option Nat) (stage : BindStage)
  /-- The client is gone, and the agent's socket is taken away. -/
  | disabling (svc agent : Option Nat)
  /-- The task is over, and its drop guards run. -/
  | droppingSvc (svc agent : Option Nat)
  | droppingAgent (agent : Option Nat)
  deriving DecidableEq

namespace SocketTask

/-- The service socket the session listens on. -/
def svc : SocketTask → Option Nat
  | .bindingSvc stage => stage.socket
  | .serving svc _ | .bindingAgent svc _ | .disabling svc _ | .droppingSvc svc _ => svc
  | .spawned | .droppingAgent _ => none

/-- The agent socket the session listens on. -/
def agent : SocketTask → Option Nat
  | .bindingAgent _ stage => stage.socket
  | .serving _ agent | .disabling _ agent | .droppingSvc _ agent | .droppingAgent agent => agent
  | .spawned | .bindingSvc _ => none

end SocketTask

/-- Why a daemon registers itself. -/
inductive Registering where
  | starting
  /-- It has bound its socket again. -/
  | recovering
  /-- The pid file did not name it. -/
  | repairing
  deriving DecidableEq

/-- What a daemon does next. -/
inductive DaemonStage where
  | absent
  | bindingCtl (recovering : Bool) (stage : BindStage)
  /-- It has bound the socket, and looks which inode that is. -/
  | identifying (recovering : Bool) (bound : Nat)
  | writingPid (why : Registering)
  | writingInfo (why : Registering)
  | running
  /-- Its socket is intact, and it reads the pid file. -/
  | checking
  /-- It lets go of its sessions, to shut down or because its socket is lost. -/
  | draining (lost : Bool)
  | removingCtl
  | removingPid
  | removingInfo
  /-- It is done but for the tasks that are left. -/
  | leaving
  | gone
  deriving DecidableEq

namespace DaemonStage

/-- The socket it has bound and does not listen on yet. -/
def socket : DaemonStage → Option Nat
  | .bindingCtl _ stage => stage.socket
  | .identifying _ bound => some bound
  | _ => none

/-- It is on its way out. -/
def stopping : DaemonStage → Bool
  | .draining _ | .removingCtl | .removingPid | .removingInfo | .leaving => true
  | _ => false

/-- A signal that comes while it starts ends it at once. -/
def startingUp : DaemonStage → Bool
  | .bindingCtl recovering _ => !recovering
  | .identifying recovering _ => !recovering
  | .writingPid why | .writingInfo why => why = .starting
  | _ => false

end DaemonStage

/-- One daemon that was started for the socket directory. -/
structure DaemonRun where
  stage : DaemonStage
  /-- The inode it takes for its control socket. -/
  identity : Option Nat
  /-- The inode it listens on. -/
  listener : Option Nat
  sessions : AList fun _ : Nat => SocketTask
  nextId : Nat

/-- A removal by name, made by a daemon that was stopping. -/
structure Removal where
  daemon : Nat
  author : Nat
  deriving DecidableEq

/-- The socket directory and the daemons that were started for it. -/
structure SocketDir where
  disk : DirFile → Option WrittenFile
  inodes : Nat
  /-- The sockets that answer. -/
  listening : List Nat
  daemons : Nat → DaemonRun
  /-- The daemons that have bound the control socket and have not exited. -/
  holders : List Nat
  /-- Who bound the control socket last, if no other holder was there. -/
  sole : Option Nat
  removals : List Removal

namespace DaemonRun

/-- A daemon that was not started. -/
def new : DaemonRun where
  stage := .absent
  identity := none
  listener := none
  sessions := ∅
  nextId := 0

end DaemonRun

namespace SocketDir

/-- An empty directory. -/
def new : SocketDir where
  disk _ := none
  inodes := 0
  listening := []
  daemons _ := .new
  holders := []
  sole := none
  removals := []

/-- A daemon goes on. -/
def update (dir : SocketDir) (daemon : Nat) (process : DaemonRun) : SocketDir :=
  { dir with daemons := Function.update dir.daemons daemon process }

def moveTo (dir : SocketDir) (daemon : Nat) (stage : DaemonStage) : SocketDir :=
  dir.update daemon { dir.daemons daemon with stage }

/-- Somebody writes a file. -/
def put (dir : SocketDir) (name : DirFile) (file : WrittenFile) : SocketDir :=
  { dir with disk := Function.update dir.disk name (some file) }

/-- A file is removed by its name. -/
def unlink (dir : SocketDir) (name : DirFile) : SocketDir :=
  { dir with disk := Function.update dir.disk name none }

/-- A daemon removes a file by its name, which is noted if the daemon is stopping. -/
def remove (dir : SocketDir) (daemon : Nat) (name : DirFile) : SocketDir :=
  match dir.disk name with
  | some file =>
    if (dir.daemons daemon).stage.stopping then
      { dir.unlink name with removals := dir.removals ++ [⟨daemon, file.author⟩] }
    else dir.unlink name
  | none => dir

/-- A file is written: its inode stays if there was one. -/
def write (dir : SocketDir) (daemon : Nat) (name : DirFile) : SocketDir :=
  match dir.disk name with
  | some file => dir.put name { file with author := daemon }
  | none => { dir.put name ⟨dir.inodes, daemon⟩ with inodes := dir.inodes + 1 }

/-- A socket is created, which answers from now on. -/
def bindSocket (dir : SocketDir) (daemon : Nat) (name : DirFile) : SocketDir :=
  { dir.put name ⟨dir.inodes, daemon⟩ with
    inodes := dir.inodes + 1
    listening := dir.inodes :: dir.listening }

/-- Sockets stop answering. -/
def close (dir : SocketDir) (socket : Option Nat) : SocketDir :=
  match socket with
  | some inode => { dir with listening := dir.listening.erase inode }
  | none => dir

/-- The control socket was bound. -/
def claim (dir : SocketDir) (daemon : Nat) : SocketDir :=
  { dir with
    holders := daemon :: dir.holders.erase daemon
    sole := if dir.holders.all fun holder => holder = daemon then some daemon else none }

/-- A process is gone, and its sockets with it. -/
def exit (dir : SocketDir) (daemon : Nat) : SocketDir :=
  let process := dir.daemons daemon
  { ((dir.close process.listener).close process.stage.socket).moveTo daemon .gone with
    holders := dir.holders.erase daemon }

/-- Somebody listens at a path. -/
def answers (dir : SocketDir) (name : DirFile) : Bool :=
  (dir.disk name).any fun file => dir.listening.contains file.inode

/-- What the next operation of a bind leads to. -/
def bindNext (dir : SocketDir) (name : DirFile) (stage : BindStage) : BindOutcome :=
  stage.next (dir.disk name).isSome (dir.answers name)

/-- The control socket cannot be had: a starting daemon gives up, a running one has lost it. -/
def giveUp (dir : SocketDir) (daemon : Nat) (recovering : Bool) : SocketDir :=
  if recovering then
    (dir.close (dir.daemons daemon).stage.socket).moveTo daemon (.draining true)
  else dir.exit daemon

/-- The next operation of a bind of the control socket. -/
def bindCtl (dir : SocketDir) (daemon : Nat) (recovering : Bool) (stage : BindStage) : SocketDir :=
  match dir.bindNext .ctl stage with
  | .created =>
    ((dir.bindSocket daemon .ctl).claim daemon).moveTo daemon
      (.bindingCtl recovering (.granting dir.inodes))
  | .bound inode => dir.moveTo daemon (.identifying recovering inode)
  | .failed => dir.giveUp daemon recovering
  | .goOn stage => dir.moveTo daemon (.bindingCtl recovering stage)
  | .unlinked => (dir.unlink .ctl).moveTo daemon (.bindingCtl recovering .rebinding)

/-- It looks which inode it has bound, and adopts the new listener. -/
def identify (dir : SocketDir) (daemon : Nat) (recovering : Bool) (bound : Nat) : SocketDir :=
  let process := dir.daemons daemon
  match dir.disk .ctl with
  | some file =>
    (dir.close process.listener).update daemon
      { process with
        identity := some file.inode
        listener := some bound
        stage := .writingPid (if recovering then .recovering else .starting) }
  | none => dir.giveUp daemon recovering

/-- The periodic check of the control socket. -/
def checkSocket (dir : SocketDir) (daemon : Nat) : SocketDir :=
  match dir.disk .ctl with
  | some file =>
    if (dir.daemons daemon).identity = some file.inode then dir.moveTo daemon .checking
    else dir.moveTo daemon (.bindingCtl true .binding)
  | none => dir.moveTo daemon (.bindingCtl true .binding)

/-- The registration is repaired when it does not name the daemon. -/
def ensureRegistration (dir : SocketDir) (daemon : Nat) : SocketDir :=
  if (dir.disk .pid).any fun file => file.author = daemon then dir.moveTo daemon .running
  else dir.moveTo daemon (.writingPid .repairing)

/-- The next operation of a daemon's main task. -/
def advance (dir : SocketDir) (daemon : Nat) : DaemonStage → Option SocketDir
  | .bindingCtl recovering stage => some (dir.bindCtl daemon recovering stage)
  | .identifying recovering bound => some (dir.identify daemon recovering bound)
  | .writingPid why => some ((dir.write daemon .pid).moveTo daemon (.writingInfo why))
  | .writingInfo _ => some ((dir.write daemon .info).moveTo daemon .running)
  | .checking => some (dir.ensureRegistration daemon)
  -- The sessions have had their time, whether they used it or not.
  | .draining lost => some (dir.moveTo daemon (if lost then .leaving else .removingCtl))
  | .removingCtl => some ((dir.remove daemon .ctl).moveTo daemon .removingPid)
  | .removingPid => some ((dir.remove daemon .pid).moveTo daemon .removingInfo)
  | .removingInfo => some ((dir.remove daemon .info).moveTo daemon .leaving)
  -- The tasks that are left are dropped before the process ends.
  | .leaving => if (dir.daemons daemon).sessions.keys = [] then some (dir.exit daemon) else none
  | .absent | .running | .gone => none

/-- A session goes on. -/
def setTask (dir : SocketDir) (daemon id : Nat) (task : SocketTask) : SocketDir :=
  dir.update daemon
    { dir.daemons daemon with sessions := (dir.daemons daemon).sessions.insert id task }

def dropTask (dir : SocketDir) (daemon id : Nat) : SocketDir :=
  dir.update daemon
    { dir.daemons daemon with sessions := (dir.daemons daemon).sessions.erase id }

/-- The next operation of a session's bind of one of its sockets. -/
def bindTask (dir : SocketDir) (daemon id : Nat) (name : DirFile) (stage : BindStage)
    (during : BindStage → SocketTask) (after : Option Nat → SocketTask) : SocketDir :=
  match dir.bindNext name stage with
  | .created => (dir.bindSocket daemon name).setTask daemon id (during (.granting dir.inodes))
  | .bound inode => dir.setTask daemon id (after (some inode))
  | .failed => (dir.close stage.socket).setTask daemon id (after none)
  | .goOn stage => dir.setTask daemon id (during stage)
  | .unlinked => (dir.unlink name).setTask daemon id (during .rebinding)

/-- The next operation of a session's task. -/
def advanceTask (dir : SocketDir) (daemon id : Nat) : SocketTask → Option SocketDir
  | .spawned => some (dir.setTask daemon id (.bindingSvc .binding))
  | .bindingSvc stage =>
    some (dir.bindTask daemon id (.svc id) stage .bindingSvc fun svc => .serving svc none)
  | .bindingAgent svc stage =>
    some (dir.bindTask daemon id (.agent id) stage (.bindingAgent svc) (.serving svc))
  | .disabling svc agent =>
    some (((dir.remove daemon (.agent id)).close agent).setTask daemon id (.serving svc none))
  | .droppingSvc svc agent =>
    some (((dir.remove daemon (.svc id)).close svc).setTask daemon id (.droppingAgent agent))
  | .droppingAgent agent =>
    some (((dir.remove daemon (.agent id)).close agent).dropTask daemon id)
  | .serving _ _ => none

end SocketDir

/-- What can happen next. -/
inductive SocketDirAction where
  /-- A file is deleted from outside. -/
  | wipe (name : DirFile)
  | start (daemon : Nat)
  /-- A daemon's main task does its next operation. -/
  | advance (daemon : Nat)
  | selfCheck (daemon : Nat)
  /-- SIGTERM, SIGINT or a kill-server request. -/
  | shutdown (daemon : Nat)
  | newSession (daemon : Nat)
  /-- A session's task does its next operation. -/
  | advanceTask (daemon id : Nat)
  /-- A client with agent forwarding attaches, or it leaves. -/
  | enableAgent (daemon id : Nat)
  | disableAgent (daemon id : Nat)
  /-- A session's task ends, or is aborted. -/
  | endSession (daemon id : Nat)

namespace SocketDir

/-- One action, if it can be taken. -/
def step (dir : SocketDir) : SocketDirAction → Option SocketDir
  | .wipe name => some (dir.unlink name)
  | .start daemon =>
    match (dir.daemons daemon).stage with
    | .absent => some (dir.moveTo daemon (.bindingCtl false .binding))
    | _ => none
  | .advance daemon => dir.advance daemon (dir.daemons daemon).stage
  | .selfCheck daemon =>
    match (dir.daemons daemon).stage with
    | .running => some (dir.checkSocket daemon)
    | _ => none
  | .shutdown daemon =>
    if (dir.daemons daemon).stage.startingUp then some (dir.exit daemon)
    else
      match (dir.daemons daemon).stage with
      | .running => some (dir.moveTo daemon (.draining false))
      | _ => none
  | .newSession daemon =>
    match (dir.daemons daemon).stage with
    | .running =>
      let process := dir.daemons daemon
      some (dir.update daemon
        { process with
          sessions := process.sessions.insert process.nextId .spawned
          nextId := process.nextId + 1 })
    | _ => none
  | .advanceTask daemon id =>
    match (dir.daemons daemon).sessions.lookup id with
    | some task => dir.advanceTask daemon id task
    | none => none
  | .enableAgent daemon id =>
    match (dir.daemons daemon).sessions.lookup id with
    | some (.serving svc none) =>
      some (dir.setTask daemon id (.bindingAgent svc .binding))
    | _ => none
  | .disableAgent daemon id =>
    match (dir.daemons daemon).sessions.lookup id with
    | some (.serving svc agent) => some (dir.setTask daemon id (.disabling svc agent))
    | _ => none
  | .endSession daemon id =>
    match (dir.daemons daemon).sessions.lookup id with
    | some .spawned => some (dir.dropTask daemon id)
    | some (.serving svc agent) => some (dir.setTask daemon id (.droppingSvc svc agent))
    | _ => none

end SocketDir

/-- The socket directory, from before any daemon was started. -/
def socketDir : Machine SocketDir SocketDirAction where
  init := .new
  step := SocketDir.step

end Gritty
