import Gritty.Lib.FileTree
import Gritty.Transfer.Delivery

/-! A receiver that writes what it is sent into a directory, each file beside its place first. -/

namespace Gritty

/-- A file as it is stored. -/
structure StoredFile where
  mode : UInt32
  contents : Bytes
  deriving DecidableEq

/-- The directory that a receiver writes to. -/
abbrev DestDir := FileTree Bytes StoredFile

/-- A place below the directory: the names that lead to it, and its own. -/
structure Target where
  dir : List Bytes
  base : Bytes
  deriving DecidableEq

/-- The name of a path component, if it has one. -/
def Component.name? : Component → Option Bytes
  | .normal name => some name
  | _ => none

/-- Where a file of a name goes. A name that ends in a separator or a dot is no file's. -/
def targetOf (name : String) : Option Target :=
  match ((utf8 name).splitOn slash).getLast?.bind componentOf with
  | some (.normal base) =>
    some { dir := ((components (utf8 name)).filterMap Component.name?).dropLast, base }
  | _ => none

/-- What a file is called while it is received. -/
def partialName (base : Bytes) : Bytes := dot :: (base ++ utf8 ".gritty-partial")

namespace Target

def path (target : Target) : List Bytes := target.dir ++ [target.base]

/-- Where a file is while it is received. -/
def tmpPath (target : Target) : List Bytes := target.dir ++ [partialName target.base]

end Target

/-- Why a file is not received. -/
inductive ReceiveError where
  | badTarget (name : String)
  | parentIsFile (name : String)
  | cannotOpen (name : String)
  /-- The stream ended before the file did. -/
  | interrupted (name : String) (transferred size : Nat)
  | cannotReplace (name : String)
  deriving DecidableEq

/-- What is stored of a file that was received: the sender's mode, or the usual one. -/
def storedAs (mode : UInt32) (contents : Bytes) : StoredFile where
  mode := if mode = 0 then 0o644 else mode &&& 0o7777
  contents

/--
One file of a transfer, its contents as far as they came, and the directory after it.

It is written under a name of its own and moved to its place when it is complete.
A failure leaves a directory, too, without the temporary.
-/
def receiveFileToDir (tree : DestDir) (file : String × UInt64 × UInt32) (contents : Bytes) :
    Except (ReceiveError × DestDir) DestDir :=
  match targetOf file.1 with
  | none => .error (.badTarget file.1, tree)
  | some target =>
    match tree.createDirAll target.dir with
    | none => .error (.parentIsFile file.1, tree)
    | some tree =>
      -- Whatever is at the temporary's place is opened, and truncated.
      match tree.write target.dir (partialName target.base) (storedAs file.2.2 contents) with
      | none => .error (.cannotOpen file.1, tree)
      | some staged =>
        if contents.length < file.2.1.toNat then
          .error (.interrupted file.1 contents.length file.2.1.toNat, staged.remove target.tmpPath)
        else
          match staged.rename target.tmpPath target.dir target.base with
          | none => .error (.cannotReplace file.1, staged.remove target.tmpPath)
          | some next => .ok next

/-- The files of a transfer, one after the other. -/
def receiveToDir (files : List ReceivedFile) (tree : DestDir) :
    Except (ReceiveError × DestDir) DestDir :=
  files.foldlM (fun tree file => receiveFileToDir tree file.1 file.2) tree

/-- A stream of files is received into the directory in the order of the stream. -/
theorem reads_receiveToDir (arrival : Except (ReceiveError × DestDir) DestDir → Chunking)
    {files : List (SendEntry × Bytes)} (named : ∀ file ∈ files, Nameable file.1.name)
    (sized : ∀ file ∈ files, file.2.length = file.1.size.toNat) (tree : DestDir) :
    ByteReader.Reads (receiveFiles arrival
        (fun state file contents => state.bind fun tree => receiveFileToDir tree file contents)
        (.ok tree))
      ((files.flatMap fun file => putDelivered (file.1.announced, file.2)) ++ [0, 0])
      (receiveToDir (files.map fun file => (file.1.announced, file.2)) tree) := by
  have folded : ∀ state : Except (ReceiveError × DestDir) DestDir,
      files.foldl (fun state file =>
          state.bind fun tree => receiveFileToDir tree file.1.announced file.2) state =
        state.bind (receiveToDir (files.map fun file => (file.1.announced, file.2))) := by
    clear named sized
    induction files with
    | nil => intro state; cases state <;> rfl
    | cons file others ih =>
      intro state
      rw [List.foldl_cons, ih]
      cases state <;> rfl
  have read := reads_receiveFiles arrival
    (fun (state : Except (ReceiveError × DestDir) DestDir) file contents =>
      state.bind fun tree => receiveFileToDir tree file contents) named sized (.ok tree)
  rw [folded] at read
  exact read

end Gritty
