import Gritty.Procscan.ProcNetUnix

/-! The scan of the process table for daemons that are no longer registered. -/

namespace Gritty

/-- One process of the system. -/
structure Process where
  pid : Nat
  positive : 0 < pid
  small : pid < 2 ^ 22
  uid : Nat
  argv : List Bytes
  noNul : ∀ arg ∈ argv, 0 ∉ arg
  /-- What its open file descriptors link to. -/
  links : List Bytes

/-- The arguments of a process, as the kernel gives them out. -/
def Process.cmdline (process : Process) : Bytes := process.argv.flatMap (· ++ [0])

/-- The processes and sockets of one moment. -/
structure ProcessTable where
  processes : List Process
  sockets : List KernelSocket
  distinct : (processes.map Process.pid).Nodup
  distinctSockets : (sockets.map KernelSocket.inode).Nodup

/-- The files beside the sockets at one moment. -/
structure SocketDirs where
  /-- What is in a pid file. -/
  pidFile : PathBuf → Option Bytes
  socketFile : PathBuf → Bool

/-- An order for the paths in each process's hash set. -/
structure SetOrder where
  visit : Nat → List PathBuf → List PathBuf
  perm : ∀ pid paths, (visit pid paths).Perm paths

/-- What one scan runs over. -/
structure Scan where
  table : ProcessTable
  dirs : SocketDirs
  order : SetOrder

/-- The process that scans. -/
structure Scanner where
  pid : Nat
  uid : Nat

/-! ### Reading a process -/

/-- The arguments as they are read back. -/
def readArgv (raw : Bytes) : List String :=
  ((raw.splitOn 0).filter fun arg => !arg.isEmpty).map toStringLossy

def isGrittyServerCmdline : List String → Bool
  | [] => false
  | argv0 :: args =>
    (fileName (utf8 argv0)).getD [] = utf8 "gritty" ∧ args.any fun arg => arg = "server"

/-- The inode of the socket that a file descriptor links to. -/
def socketInode (link : Bytes) : Option Nat :=
  (fromUtf8 link).bind fun target =>
    (target.toList.dropPrefix? "socket:[".toList).bind fun rest =>
      (rest.dropSuffix? "]".toList).bind (parseBelow (2 ^ 64))

def boundUnixPaths (process : Process) (inodeToPath : List (Nat × PathBuf)) : List PathBuf :=
  (process.links.filterMap fun link => (socketInode link).bind (List.lookup · inodeToPath)).dedup

/-! ### Classifying it -/

/-- A path with another last component. -/
def withFileName (path : PathBuf) (name : Bytes) : PathBuf :=
  match path.getLast? with
  | some (.normal _) => path.dropLast ++ [.normal name]
  | _ => path ++ [.normal name]

def pidFilePath (ctlPath : PathBuf) : PathBuf := withFileName ctlPath (utf8 "daemon.pid")

/-- The pid that the file beside a socket names. -/
def SocketDirs.registered (dirs : SocketDirs) (path : PathBuf) : Option Nat :=
  (dirs.pidFile (pidFilePath path)).bind fun contents =>
    (fromUtf8 contents).bind fun text => parseBelow (2 ^ 32) (trim text.toList)

inductive OrphanReason where
  | socketFileGone
  | registrationMissing
  | registrationStolen (currentPid : Nat)
  deriving DecidableEq

structure OrphanDaemon where
  pid : Nat
  boundPath : PathBuf
  reason : OrphanReason
  deriving DecidableEq

def orphanReason (dirs : SocketDirs) (path : PathBuf) : OrphanReason :=
  if dirs.socketFile path then
    match dirs.registered path with
    | some currentPid => .registrationStolen currentPid
    | none => .registrationMissing
  else .socketFileGone

def isCtl (path : PathBuf) : Bool := path.getLast? = some (.normal (utf8 "ctl.sock"))

/-- The rest of the loop over the bound paths. -/
def classifyFrom (dirs : SocketDirs) (pid : Nat) :
    Option OrphanDaemon → List PathBuf → Option OrphanDaemon
  | best, [] => best
  | best, path :: paths =>
    if dirs.registered path = some pid then none
    else classifyFrom dirs pid
      (if best = none ∨ isCtl path then some ⟨pid, path, orphanReason dirs path⟩ else best) paths

def classify (dirs : SocketDirs) (pid : Nat) (boundPaths : List PathBuf) : Option OrphanDaemon :=
  classifyFrom dirs pid none boundPaths

/-! ### The two scans -/

/-- The paths that a scan finds a process to have bound. -/
def ProcessTable.seenPaths (table : ProcessTable) (process : Process) : List PathBuf :=
  boundUnixPaths process (parseProcNetUnix (readToString (procNetUnix table.sockets)))

/-- A process that a scan looks at more closely. -/
def Scanner.considers (me : Scanner) (process : Process) : Bool :=
  process.pid ≠ me.pid && process.uid = me.uid && isGrittyServerCmdline (readArgv process.cmdline)

def findOrphanDaemons (me : Scanner) (scan : Scan) : List OrphanDaemon :=
  scan.table.processes.filterMap fun process =>
    if me.considers process then
      classify scan.dirs process.pid
        (scan.order.visit process.pid (scan.table.seenPaths process))
    else none

/-- The suspects of the first scan that the second one confirms. They are killed. -/
def confirmAndReap (suspects confirmed : List OrphanDaemon) : List OrphanDaemon :=
  suspects.filter fun suspect => confirmed.any fun orphan =>
    orphan.pid = suspect.pid ∧ orphan.boundPath = suspect.boundPath

/-- The pids that are sent SIGKILL after two scans. -/
def reaped (me : Scanner) (first second : Scan) : List Nat :=
  (confirmAndReap (findOrphanDaemons me first) (findOrphanDaemons me second)).map
    OrphanDaemon.pid

/-! ### What a scan reports -/

/-- The paths among which a scan chooses the one it reports. -/
def reportable (paths : List PathBuf) : List PathBuf :=
  if paths.any isCtl then paths.filter isCtl else paths

/-- The order of the paths does not matter to which of them may be reported. -/
theorem mem_reportable_perm {paths visited : List PathBuf} (perm : visited.Perm paths)
    (path : PathBuf) : path ∈ reportable visited ↔ path ∈ reportable paths := by
  unfold reportable
  rw [perm.any_eq]
  split
  · exact (perm.filter isCtl).mem_iff
  · exact perm.mem_iff

section

variable {dirs : SocketDirs} {pid : Nat}

/-- Who is accused is registered beside none of the paths. -/
theorem classifyFrom_unregistered {best : Option OrphanDaemon} {paths : List PathBuf}
    {orphan : OrphanDaemon} (accused : classifyFrom dirs pid best paths = some orphan) :
    ∀ path ∈ paths, dirs.registered path ≠ some pid := by
  induction paths generalizing best with
  | nil => exact fun path among => absurd among List.not_mem_nil
  | cons first others ih =>
    rw [classifyFrom] at accused
    split at accused
    · cases accused
    · next other =>
      intro path among
      rcases List.mem_cons.mp among with rfl | later
      · exact other
      · exact ih accused path later

/-- An accusation is about the process itself. -/
theorem classifyFrom_pid {best : Option OrphanDaemon} {paths : List PathBuf}
    {orphan : OrphanDaemon} (so : ∀ found ∈ best, found.pid = pid)
    (accused : classifyFrom dirs pid best paths = some orphan) : orphan.pid = pid := by
  induction paths generalizing best with
  | nil => exact so orphan accused
  | cons first others ih =>
    rw [classifyFrom] at accused
    split at accused
    · cases accused
    · refine ih ?_ accused
      intro found isBest
      split at isBest
      · cases isBest
        rfl
      · exact so found isBest

/-- With a control socket in hand, a control socket is reported. -/
theorem classifyFrom_path {best : Option OrphanDaemon} {paths : List PathBuf}
    {orphan : OrphanDaemon} (accused : classifyFrom dirs pid best paths = some orphan) :
    (∃ path ∈ paths, isCtl path = true ∧ orphan.boundPath = path) ∨
      (∀ path ∈ paths, isCtl path = false) ∧
        (best = some orphan ∨ best = none ∧ ∃ path ∈ paths, orphan.boundPath = path) := by
  induction paths generalizing best with
  | nil => exact Or.inr ⟨fun path among => absurd among List.not_mem_nil, Or.inl accused⟩
  | cons first others ih =>
    rw [classifyFrom] at accused
    split at accused
    · cases accused
    · rcases ih accused with ⟨path, among, ctl, same⟩ | ⟨plain, reported⟩
      · exact Or.inl ⟨path, List.mem_cons_of_mem first among, ctl, same⟩
      · cases named : isCtl first with
        | true =>
          rw [if_pos (Or.inr named)] at reported
          obtain rfl : ⟨pid, first, orphanReason dirs first⟩ = orphan := by simpa using reported
          exact Or.inl ⟨first, List.mem_cons_self, named, rfl⟩
        | false =>
          have none_ : ∀ path ∈ first :: others, isCtl path = false := by
            intro path among
            rcases List.mem_cons.mp among with rfl | later
            · exact named
            · exact plain path later
          refine Or.inr ⟨none_, ?_⟩
          cases best with
          | none =>
            rw [if_pos (Or.inl rfl)] at reported
            obtain rfl : ⟨pid, first, orphanReason dirs first⟩ = orphan := by
              simpa using reported
            exact Or.inr ⟨rfl, first, List.mem_cons_self, rfl⟩
          | some found =>
            rw [if_neg (by simp [named])] at reported
            exact Or.inl (by simpa using reported)

/-- What is reported of a process that is accused. -/
theorem classify_eq_some {paths : List PathBuf} {orphan : OrphanDaemon}
    (accused : classify dirs pid paths = some orphan) :
    orphan.pid = pid ∧ orphan.boundPath ∈ reportable paths ∧
      ∀ path ∈ paths, dirs.registered path ≠ some pid := by
  refine ⟨classifyFrom_pid (by simp) accused, ?_, classifyFrom_unregistered accused⟩
  unfold reportable
  rcases classifyFrom_path accused with ⟨path, among, ctl, same⟩ | ⟨plain, reported⟩
  · rw [if_pos (List.any_eq_true.mpr ⟨path, among, ctl⟩), same]
    exact List.mem_filter.mpr ⟨among, ctl⟩
  · have noCtl : ¬ paths.any isCtl = true := by
      simpa using plain
    obtain ⟨path, among, same⟩ : ∃ path ∈ paths, orphan.boundPath = path := by
      simpa using reported
    rw [if_neg noCtl, same]
    exact among

/-- The last control socket is reported. -/
theorem classifyFrom_ctl {best : Option OrphanDaemon} {paths : List PathBuf} {path : PathBuf}
    (unregistered : ∀ seen ∈ paths ++ [path], dirs.registered seen ≠ some pid)
    (ctl : isCtl path = true) :
    classifyFrom dirs pid best (paths ++ [path]) = some ⟨pid, path, orphanReason dirs path⟩ := by
  induction paths generalizing best with
  | nil =>
    rw [List.nil_append, classifyFrom, if_neg (unregistered path List.mem_cons_self),
      if_pos (Or.inr ctl), classifyFrom]
  | cons first others ih =>
    rw [List.cons_append, classifyFrom, if_neg (unregistered first List.mem_cons_self)]
    exact ih fun seen among => unregistered seen (List.mem_cons_of_mem first among)

/-- Without control sockets what is in hand stays there. -/
theorem classifyFrom_plain {found : OrphanDaemon} {paths : List PathBuf}
    (unregistered : ∀ seen ∈ paths, dirs.registered seen ≠ some pid)
    (plain : ∀ seen ∈ paths, isCtl seen = false) :
    classifyFrom dirs pid (some found) paths = some found := by
  induction paths with
  | nil => rfl
  | cons first others ih =>
    have other : ¬ (some found = none ∨ isCtl first = true) := by
      simp [plain first List.mem_cons_self]
    rw [classifyFrom, if_neg (unregistered first List.mem_cons_self), if_neg other]
    exact ih (fun seen among => unregistered seen (List.mem_cons_of_mem first among))
      (fun seen among => plain seen (List.mem_cons_of_mem first among))

end

/-- The order that has a path reported. -/
def SetOrder.reporting (path : PathBuf) : SetOrder where
  visit _ paths :=
    if path ∈ paths then
      if isCtl path then paths.erase path ++ [path] else path :: paths.erase path
    else paths
  perm _ paths := by
    split
    · next among =>
      have moved := (List.perm_cons_erase among).symm
      split
      · exact (List.perm_append_singleton path (paths.erase path)).trans moved
      · exact moved
    · exact List.Perm.refl paths

/-- A process that is registered nowhere can be reported under any path that may be reported. -/
theorem classify_reporting {dirs : SocketDirs} {pid : Nat} {paths : List PathBuf} {path : PathBuf}
    (mayBe : path ∈ reportable paths)
    (unregistered : ∀ seen ∈ paths, dirs.registered seen ≠ some pid) :
    classify dirs pid ((SetOrder.reporting path).visit pid paths) =
      some ⟨pid, path, orphanReason dirs path⟩ := by
  have among : path ∈ paths := by
    unfold reportable at mayBe
    split at mayBe
    · exact List.mem_of_mem_filter mayBe
    · exact mayBe
  have visited : ∀ seen ∈ (SetOrder.reporting path).visit pid paths,
      dirs.registered seen ≠ some pid :=
    fun seen there => unregistered seen
      (((SetOrder.reporting path).perm pid paths).mem_iff.mp there)
  unfold classify
  simp only [SetOrder.reporting, if_pos among] at visited ⊢
  cases ctl : isCtl path with
  | true =>
    rw [ctl, if_pos rfl] at visited
    exact classifyFrom_ctl visited ctl
  | false =>
    have plain : ∀ seen ∈ paths, isCtl seen = false := by
      unfold reportable at mayBe
      split at mayBe
      · exact absurd (List.mem_filter.mp mayBe).2 (by simp [ctl])
      · next none_ => simpa using none_
    rw [if_neg (by decide), classifyFrom, if_neg (unregistered path among), if_pos (Or.inl rfl)]
    exact classifyFrom_plain
      (fun seen there => unregistered seen (List.mem_of_mem_erase there))
      (fun seen there => plain seen (List.mem_of_mem_erase there))

end Gritty
