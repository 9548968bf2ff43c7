import Gritty.Lib.PathLock
import Gritty.Lib.Transition

/-! The calls that bind a socket at one path, and the lock file they are serialized with. -/

namespace Gritty

/-- How far a process has come with its socket. -/
inductive BindCall where
  | opening
  /-- It has the lock file open, and tries to lock it. -/
  | locking (lock : Nat)
  | binding (lock : Nat)
  /-- The address is in use, and the socket there is probed. -/
  | probing (lock : Nat)
  /-- Nobody answered, and the socket is removed. -/
  | unlinking (lock : Nat)
  | rebinding (lock : Nat)
  /-- It has bound a socket that does not listen yet. -/
  | bound (lock socket : Nat)
  /-- The socket listens, and its permissions are set. -/
  | granting (lock socket : Nat)
  /-- The call returns, and only its lock is left to be released. -/
  | releasing (lock : Nat) (socket : Option Nat)
  /-- The caller has its listener. -/
  | serving (socket : Nat)
  /-- It has removed its socket, and cleans up the lock file. -/
  | cleaning
  | cleanLocking (lock : Nat)
  | cleanUnlinking (lock : Nat)
  | cleanReleasing (lock : Nat)
  | done
  deriving DecidableEq

namespace BindCall

/-- The lock file it holds a lock on. -/
def holds : BindCall → Option Nat
  | .binding lock | .probing lock | .unlinking lock | .rebinding lock => some lock
  | .bound lock _ | .granting lock _ | .releasing lock _ => some lock
  | .cleanUnlinking lock | .cleanReleasing lock => some lock
  | .opening | .locking _ | .serving _ | .cleaning | .cleanLocking _ | .done => none

/-- The socket it has bound, or is about to return the listener of. -/
def socket : BindCall → Option Nat
  | .bound _ socket | .granting _ socket | .serving socket => some socket
  | .releasing _ socket => socket
  | _ => none

/-- The socket that answers for it. -/
def listens : BindCall → Option Nat
  | .granting _ socket | .serving socket => some socket
  | .releasing _ socket => socket
  | _ => none

end BindCall

/-- One path, with its lock file and the processes that bind sockets there. -/
structure BindPath where
  /-- The lock file beside the path. -/
  lock : Option Nat
  lockFiles : Nat
  /-- The socket file at the path. -/
  file : Option Nat
  socketFiles : Nat
  calls : List BindCall
  /-- A call has removed the socket of a process that was alive and had it bound. -/
  stolen : Bool
  deriving DecidableEq

/-- What can happen next. -/
inductive BindAction where
  | spawn
  /-- A process does its next operation. -/
  | advance (process : Nat)
  /-- A call has waited too long for the lock. -/
  | timeout (process : Nat)
  /-- A process removes its socket, to clean up. -/
  | retire (process : Nat)
  /-- A process closes its listener. -/
  | close (process : Nat)
  | crash (process : Nat)

namespace BindPath

/-- A path nobody has used. -/
def new : BindPath :=
  { lock := none, lockFiles := 0, file := none, socketFiles := 0, calls := [], stolen := false }

def move (path : BindPath) (process : Nat) (call : BindCall) : BindPath :=
  { path with calls := path.calls.set process call }

/-- Some process holds a lock on a file. -/
def locked (path : BindPath) (lock : Nat) : Bool :=
  path.calls.any fun call => call.holds = some lock

/-- A connect to the path reaches a listener. -/
def answers (path : BindPath) : Bool :=
  path.file.any fun socket => path.calls.any fun call => call.listens = some socket

/-- The socket at the path belongs to a process that has not given it up. -/
def alive (path : BindPath) : Bool :=
  path.file.any fun socket => path.calls.any fun call => call.socket = some socket

/-- A process binds a new socket at the path. -/
def bind (path : BindPath) (process lock : Nat) : BindPath :=
  { path with file := some path.socketFiles, socketFiles := path.socketFiles + 1 }.move process
    (.bound lock path.socketFiles)

/-- The next operation of a process. -/
def advance (path : BindPath) (process : Nat) : BindCall → Option BindPath
  | .opening =>
    match path.lock with
    | some lock => some (path.move process (.locking lock))
    | none =>
      some ({ path with lock := some path.lockFiles, lockFiles := path.lockFiles + 1 }.move process
        (.locking path.lockFiles))
  -- A lock that is held is tried again a little later.
  | .locking lock =>
    if path.locked lock then none else some (path.move process (.binding lock))
  | .binding lock =>
    match path.file with
    | some _ => some (path.move process (.probing lock))
    | none => some (path.bind process lock)
  | .probing lock =>
    some (path.move process (if path.answers then .releasing lock none else .unlinking lock))
  | .unlinking lock =>
    match path.file with
    | some _ =>
      some ({ path with file := none, stolen := path.stolen || path.alive }.move process
        (.rebinding lock))
    | none => some (path.move process (.releasing lock none))
  | .rebinding lock =>
    match path.file with
    | some _ => some (path.move process (.releasing lock none))
    | none => some (path.bind process lock)
  | .bound lock socket => some (path.move process (.granting lock socket))
  | .granting lock socket =>
    some (path.move process (.releasing lock (if path.file.isSome then some socket else none)))
  | .releasing _ socket =>
    some (path.move process (match socket with
      | some socket => .serving socket
      | none => .done))
  | .serving _ => none
  | .cleaning =>
    some (path.move process (match path.lock with
      | some lock => .cleanLocking lock
      | none => .done))
  | .cleanLocking lock =>
    some (path.move process (if path.locked lock then .done else .cleanUnlinking lock))
  | .cleanUnlinking lock => some ({ path with lock := none }.move process (.cleanReleasing lock))
  | .cleanReleasing _ => some (path.move process .done)
  | .done => none

/-- One action, if it can be taken. -/
def step (path : BindPath) : BindAction → Option BindPath
  | .spawn => some { path with calls := path.calls ++ [.opening] }
  | .advance process =>
    match path.calls[process]? with
    | some call => path.advance process call
    | none => none
  | .timeout process =>
    match path.calls[process]? with
    | some (.locking _) => some (path.move process .done)
    | _ => none
  | .retire process =>
    match path.calls[process]? with
    | some (.serving _) => some ({ path with file := none }.move process .cleaning)
    | _ => none
  | .close process =>
    match path.calls[process]? with
    | some (.serving _) => some (path.move process .done)
    | _ => none
  | .crash process =>
    match path.calls[process]? with
    | some _ => some (path.move process .done)
    | none => none

end BindPath

/-- The path and the processes that bind sockets there. -/
def bindPath : Machine BindPath BindAction where
  init := .new
  step := BindPath.step

end Gritty
