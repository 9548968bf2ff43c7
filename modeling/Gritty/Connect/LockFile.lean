import Gritty.Lib.Transition

/-! The lock file of a tunnel name, its sidecar files, and the processes that work on them. -/

namespace Gritty

/-- The files beside a tunnel's lock that describe its supervisor. -/
inductive Sidecar where
  | sock
  | pid
  | info
  | kick
  deriving DecidableEq

/-- The order in which they are removed. -/
def Sidecar.all : List Sidecar := [.sock, .pid, .info, .kick]

/-- Where a command goes on once a cleanup or a probe has answered. -/
inductive Caller where
  /-- The answer is all that was wanted. -/
  | alone
  /-- A disconnect looks whether there is anything to stop. -/
  | stopping
  /-- It has sent SIGTERM, and looks whether the supervisor is gone. -/
  | polling (pid : Nat)
  /-- Its patience is over, and it asks whether the lock is still held. -/
  | escalating (pid : Nat)
  /-- It has done what it could, and cleans up. -/
  | finishing
  deriving DecidableEq

/-- What a lock file is opened for. -/
inductive Purpose where
  | create
  /-- Remove what is left of a supervisor that is gone. -/
  | clean (caller : Caller)
  /-- Find out whether the lock is held. -/
  | probe (caller : Caller)
  deriving DecidableEq

/-- What a process does next. -/
inductive Stage where
  | opening (purpose : Purpose)
  /-- It has the lock file open, and tries to lock that file. -/
  | opened (purpose : Purpose) (inode : Nat)
  /-- It has locked the file, and removes what it finds. -/
  | removing (purpose : Purpose) (inode : Nat) (left : List Sidecar)
  /-- It has written its pid. -/
  | writingInfo (inode : Nat)
  | supervising (inode : Nat)
  /-- It found the lock file to be its own, and removes its files. -/
  | leaving (inode : Nat) (left : List Sidecar)
  /-- Only the lock is left to be released. -/
  | releasing (purpose : Purpose) (inode : Nat)
  | readingPid
  /-- It has read a pid. -/
  | signalling (pid : Nat)
  | pausing (pid : Nat)
  | killing (pid : Nat)
  | done
  deriving DecidableEq

namespace Stage

/-- It got the lock as a supervisor, and has not given its lock file up. -/
def inRole : Stage → Bool
  | .removing purpose _ _ => purpose = .create
  | .writingInfo _ => true
  | .supervising _ => true
  | .leaving _ _ => true
  | _ => false

/-- The file it holds a lock on. The lock goes with the process. -/
def holds : Stage → Option Nat
  | .removing _ inode _ => some inode
  | .writingInfo inode => some inode
  | .supervising inode => some inode
  | .leaving inode _ => some inode
  | .releasing _ inode => some inode
  | _ => none

end Stage

namespace Caller

/-- A disconnect is done once a cleanup ran, and otherwise goes on. -/
def cleanedUp (caller : Caller) (cleaned : Bool) : Stage :=
  if cleaned then .done
  else
    match caller with
    | .stopping => .readingPid
    | .polling pid => .pausing pid
    | _ => .done

/-- A disconnect kills what still holds the lock. -/
def probed (caller : Caller) (held : Bool) : Stage :=
  match caller with
  | .escalating pid => if held then .killing pid else .opening (.clean .finishing)
  | _ => .done

end Caller

/-- What is noted for the statements below, each with whether a supervisor was there. -/
inductive Report where
  /-- A file was removed or written, while another process was in the supervisor's role or not. -/
  | touched (another : Bool)
  /-- A probe said that the lock is held. -/
  | held (supervised : Bool)
  /-- A process did not become the supervisor because the lock was held. -/
  | refused (supervised : Bool)
  /-- A process was sent a signal. -/
  | signalled (supervised : Bool)
  deriving DecidableEq

/-- The files of a tunnel name, and the processes that work on them. -/
structure TunnelName where
  /-- The file at the lock's path. -/
  lock : Option Nat
  /-- Lock files created so far. -/
  inodes : Nat
  pidFile : Option Nat
  /-- The pid of a process is its place here. -/
  processes : List Stage
  reports : List Report
  deriving DecidableEq

/-- The commands that work on a tunnel name. -/
inductive Command where
  | tunnelCreate
  | cleanup
  | probe
  | disconnect

/-- What can happen next. -/
inductive TunnelAction where
  | spawn (command : Command)
  /-- A process does its next operation. -/
  | advance (process : Nat)
  /-- A supervisor is told to end, or its setup or its tunnel fails. -/
  | leave (process : Nat)
  /-- A supervisor removes a kick file or a socket while it works. -/
  | maintain (process : Nat)
  /-- A disconnect has waited long enough. -/
  | escalate (process : Nat)
  | crash (process : Nat)

/-- What a command does first. -/
def Command.start : Command → Stage
  | .tunnelCreate => .opening .create
  | .cleanup => .opening (.clean .alone)
  | .probe => .opening (.probe .alone)
  | .disconnect => .opening (.clean .stopping)

namespace TunnelName

/-- A name nobody has used. -/
def new : TunnelName :=
  { lock := none, inodes := 0, pidFile := none, processes := [], reports := [] }

/-- The process that holds a lock on a file. -/
def holder (name : TunnelName) (inode : Nat) : Option Nat :=
  name.processes.findIdx? fun stage => stage.holds = some inode

/-- A process is in the supervisor's role. -/
def supervised (name : TunnelName) (process : Nat) : Bool :=
  name.processes[process]?.any Stage.inRole

/-- A process goes on. -/
def move (name : TunnelName) (process : Nat) (stage : Stage) : TunnelName :=
  { name with processes := name.processes.set process stage }

def report (name : TunnelName) (report : Report) : TunnelName :=
  { name with reports := name.reports ++ [report] }

/-- A process removes or writes a file. -/
def touch (name : TunnelName) (process : Nat) : TunnelName :=
  name.report (.touched ((List.range name.processes.length).any fun other =>
    other ≠ process && name.supervised other))

/-- A process removes a sidecar file. -/
def remove (name : TunnelName) (process : Nat) (file : Sidecar) : TunnelName :=
  { name.touch process with pidFile := if file = .pid then none else name.pidFile }

/-- A process removes what is at the lock's path. -/
def removeLock (name : TunnelName) (process : Nat) : TunnelName :=
  { name.touch process with lock := none }

/-- A process opens the lock file. Only a probe does not create it. -/
def openLock (name : TunnelName) (process : Nat) (purpose : Purpose) : TunnelName :=
  match name.lock, purpose with
  | some inode, _ => name.move process (.opened purpose inode)
  | none, .probe caller => name.move process (caller.probed false)
  | none, _ =>
    { name with lock := some name.inodes, inodes := name.inodes + 1 }.move process
      (.opened purpose name.inodes)

/-- A process tries to lock the file it has open, without waiting. -/
def tryLock (name : TunnelName) (process inode : Nat) (purpose : Purpose) : TunnelName :=
  match name.holder inode, purpose with
  | some holder, .create =>
    (name.report (.refused (name.supervised holder))).move process .done
  | some _, .clean caller => name.move process (caller.cleanedUp false)
  | some holder, .probe caller =>
    (name.report (.held (name.supervised holder))).move process (caller.probed true)
  -- A probe lets go of the lock at once.
  | none, .probe caller => name.move process (.releasing (.probe caller) inode)
  | none, _ => name.move process (.removing purpose inode Sidecar.all)

/-- The next operation of a process. -/
def advance (name : TunnelName) (process : Nat) : Stage → Option TunnelName
  | .opening purpose => some (name.openLock process purpose)
  | .opened purpose inode => some (name.tryLock process inode purpose)
  | .removing purpose inode (file :: left) =>
    some ((name.remove process file).move process (.removing purpose inode left))
  | .removing .create inode [] =>
    some ({ name.touch process with pidFile := some process }.move process (.writingInfo inode))
  | .removing purpose inode [] =>
    some ((name.removeLock process).move process (.releasing purpose inode))
  | .writingInfo inode => some ((name.touch process).move process (.supervising inode))
  | .supervising _ => none
  | .leaving inode (file :: left) =>
    some ((name.remove process file).move process (.leaving inode left))
  | .leaving inode [] =>
    some ((name.removeLock process).move process (.releasing .create inode))
  | .releasing purpose _ =>
    some (name.move process
      (match purpose with
      | .create => .done
      | .clean caller => caller.cleanedUp true
      | .probe caller => caller.probed false))
  | .readingPid =>
    match name.pidFile with
    | some pid => some (name.move process (.signalling pid))
    | none => some (name.move process .done)
  | .signalling pid =>
    some ((name.report (.signalled (name.supervised pid))).move process (.pausing pid))
  | .pausing pid => some (name.move process (.opening (.clean (.polling pid))))
  | .killing pid =>
    some ((name.report (.signalled (name.supervised pid))).move process
      (.opening (.clean .finishing)))
  | .done => none

/-- One action, if it can be taken. -/
def step (name : TunnelName) : TunnelAction → Option TunnelName
  | .spawn command => some { name with processes := name.processes ++ [command.start] }
  | .advance process =>
    match name.processes[process]? with
    | some stage => name.advance process stage
    | none => none
  | .leave process =>
    match name.processes[process]? with
    | some (.supervising inode) =>
      -- The files of another supervisor are left alone.
      some (name.move process
        (if name.lock = some inode then .leaving inode Sidecar.all
          else .releasing .create inode))
    | _ => none
  | .maintain process =>
    match name.processes[process]? with
    | some (.supervising _) => some (name.touch process)
    | _ => none
  | .escalate process =>
    match name.processes[process]? with
    | some (.pausing pid) => some (name.move process (.opening (.probe (.escalating pid))))
    | _ => none
  | .crash process =>
    match name.processes[process]? with
    | some _ => some (name.move process .done)
    | none => none

end TunnelName

/-- A tunnel name and the commands that are run for it. -/
def tunnelName : Machine TunnelName TunnelAction where
  init := .new
  step := TunnelName.step

end Gritty
