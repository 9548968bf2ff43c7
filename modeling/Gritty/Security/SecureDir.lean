import Gritty.Lib.CommandLine
import Gritty.Lib.SharedTree
import Gritty.Lib.Transition

/-! The socket directory is made and checked step by step, while other users do what they can. -/

namespace Gritty

/-- A path from the root of the file system, by its components. -/
abbrev DirPath := List Text

/-- Where directories are accepted without a check. -/
def isTrustedRoot (xdgRuntimeDir tmpDir : Option DirPath) (path : DirPath) : Bool :=
  path == [] || path == ["tmp".toList] || path == ["run".toList] ||
    some path == xdgRuntimeDir || some path == tmpDir

/-- The directories above a path that are made or checked, and the path itself, from the top down.
The components are given from the last to the first. -/
def secureDirs (isTrusted : DirPath → Bool) : List Text → List DirPath
  | [] => []
  | name :: above =>
    if isTrusted (above.reverse ++ [name]) then []
    else secureDirs isTrusted above ++ [above.reverse ++ [name]]

/-- Why a directory is refused. -/
inductive SecureDirError where
  | notResolving (path : DirPath)
  | symlink (path : DirPath)
  | notDirectory (path : DirPath)
  | foreign (path : DirPath) (owner expected : Nat)
  /-- A call to the system failed. -/
  | system
  deriving DecidableEq

/-- The next call to the system for a directory. -/
inductive SecureDirPhase where
  | creating
  /-- The directory is one's own, and its mode is about to be set. -/
  | tightening
  /-- Something was there already. -/
  | inspecting
  /-- What is there is the system's. -/
  | resolving
  | finished (result : Except SecureDirError Unit)

/-- A run of the function: the directories that are done, those to come, and the next call. -/
structure SecureDirCall where
  done : List DirPath
  todo : List DirPath
  phase : SecureDirPhase

namespace SecureDirCall

def start (dirs : List DirPath) : SecureDirCall := { done := [], todo := dirs, phase := .creating }

/-- On to the next directory. -/
def pass (call : SecureDirCall) (path : DirPath) (later : List DirPath) : SecureDirCall :=
  { done := call.done ++ [path], todo := later, phase := .creating }

def fail (call : SecureDirCall) (error : SecureDirError) : SecureDirCall :=
  { call with phase := .finished (.error error) }

end SecureDirCall

/-- The file system, and the process that makes its directory. -/
structure SecureDirState where
  tree : SharedTree Text
  call : SecureDirCall

namespace SecureDirState

variable (uid umask : Nat)

/-- The mode of a directory that was just made. -/
def createdMode : Nat := 0o777 &&& (0o777 ^^^ umask)

/-- What is found in place of a directory that could not be made. -/
def validateDir (state : SecureDirState) (path : DirPath) (later : List DirPath) : SecureDirCall :=
  match state.tree path with
  | none => state.call.fail .system
  | some entry =>
    if entry.owner = 0 then { state.call with phase := .resolving }
    else match entry with
      | .link _ _ => state.call.fail (.symlink path)
      | .other _ => state.call.fail (.notDirectory path)
      | .directory attrs =>
        if attrs.owner ≠ uid then state.call.fail (.foreign path attrs.owner uid)
        else if attrs.mode &&& 0o077 ≠ 0 then { state.call with phase := .tightening }
        else state.call.pass path later

/-- The next call of the process. -/
def advance (state : SecureDirState) : Option SecureDirState :=
  match state.call.phase, state.call.todo with
  | .creating, [] => some { state with call := { state.call with phase := .finished (.ok ()) } }
  | .creating, path :: _ =>
    match state.tree path, state.tree.inside path.dropLast with
    | some _, _ => some { state with call := { state.call with phase := .inspecting } }
    | none, some attrs =>
      if SharedTree.canWrite uid attrs then
        some {
          tree := Function.update state.tree path
            (some (.directory { owner := uid, mode := createdMode umask }))
          call := { state.call with phase := .tightening } }
      else some { state with call := state.call.fail .system }
    | none, none => some { state with call := state.call.fail .system }
  | .tightening, path :: later =>
    match state.tree.inside path with
    | some attrs =>
      if attrs.owner = uid then
        some { tree := state.tree.withMode path 0o700, call := state.call.pass path later }
      else some { state with call := state.call.fail .system }
    | none => some { state with call := state.call.fail .system }
  | .inspecting, path :: later => some { state with call := state.validateDir uid path later }
  | .resolving, path :: later =>
    if (state.tree.inside path).isSome then some { state with call := state.call.pass path later }
    else some { state with call := state.call.fail (.notResolving path) }
  | _, _ => none

end SecureDirState

/-- The process does its next call or is refused it, or another user does something. -/
inductive SecureDirAction where
  | advance
  | fault
  | user (user : Nat) (action : UserAction Text)

def SecureDirState.step (uid umask : Nat) (state : SecureDirState) :
    SecureDirAction → Option SecureDirState
  | .advance => state.advance uid umask
  | .fault =>
    match state.call.phase with
    | .finished _ => none
    | _ => some { state with call := state.call.fail .system }
  | .user user action =>
    if user ≠ 0 ∧ user ≠ uid then
      (state.tree.act user action).map fun tree => { state with tree }
    else none

/-- The process of a user that makes a directory in a given tree. -/
def secureCreateDirAll (uid umask : Nat) (isTrusted : DirPath → Bool) (path : DirPath)
    (tree : SharedTree Text) : Machine SecureDirState SecureDirAction where
  init := { tree, call := .start (secureDirs isTrusted path.reverse) }
  step := SecureDirState.step uid umask

end Gritty
