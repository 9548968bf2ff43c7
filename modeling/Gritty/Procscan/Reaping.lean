import Gritty.Procscan.Orphans

/-! Which processes the scan for orphaned daemons kills, and which it should. -/

namespace Gritty

/-! ### What should be killed -/

/-- Options that the next argument belongs to. -/
def takesValue (arg : String) : Bool := arg = "--ctl-socket" ∨ arg = "--color"

def isOption (arg : String) : Bool := arg.toList.head? = some '-' ∧ arg ≠ "-"

/-- The first argument that is no option, and whether the next one belongs to an option. -/
def subcommandFrom : Bool → List String → Option String
  | _, [] => none
  | true, _ :: rest => subcommandFrom false rest
  | false, arg :: rest =>
    if takesValue arg then subcommandFrom true rest
    else if isOption arg then subcommandFrom false rest
    else some arg

/-- A process that was started as a server. -/
def Process.runsServer (process : Process) : Bool :=
  match subcommandFrom false ((process.argv.drop 1).map toStringLossy) with
  | some name => name = "server" ∨ name = "s"
  | none => false

/-- The socket that a link of a process leads to. -/
def ProcessTable.socketOf (table : ProcessTable) (link : Bytes) : Option KernelSocket :=
  (socketInode link).bind fun inode => table.sockets.find? fun socket => socket.inode = inode

/-- The paths that a process has bound. -/
def ProcessTable.truePaths (table : ProcessTable) (process : Process) : List PathBuf :=
  process.links.filterMap fun link => (table.socketOf link).bind KernelSocket.boundPath

/-- A pid is that of a server that is registered beside none of the paths it has bound. -/
def Scan.Unregistered (scan : Scan) (pid : Nat) : Prop :=
  ∃ process ∈ scan.table.processes, process.pid = pid ∧ process.runsServer = true ∧
    ∀ path ∈ scan.table.truePaths process, scan.dirs.registered path ≠ some pid

/-- Whatever the files are and whatever the order, only unregistered servers are killed. -/
def ReapsOnlyOrphans (me : Scanner) (first second : ProcessTable) : Prop :=
  ∀ (dirs dirs' : SocketDirs) (order order' : SetOrder),
    ∀ pid ∈ reaped me ⟨first, dirs, order⟩ ⟨second, dirs', order'⟩,
      (⟨first, dirs, order⟩ : Scan).Unregistered pid ∧
        (⟨second, dirs', order'⟩ : Scan).Unregistered pid

/-! ### When it is so -/

/-- A process is what it looks like to the scan. -/
structure ProcessTable.Recognised (table : ProcessTable) (process : Process) : Prop where
  server : process.runsServer = true
  /-- Each pid file it may be registered in is looked at. -/
  located : ∀ path ∈ table.truePaths process,
    ∃ seen ∈ table.seenPaths process, pidFilePath seen = pidFilePath path

/-- Every process that both scans may report under one path is what it looks like. -/
def TablesRecognised (me : Scanner) (first second : ProcessTable) : Prop :=
  ∀ process ∈ first.processes, ∀ later ∈ second.processes,
    me.considers process = true → me.considers later = true → process.pid = later.pid →
      (∃ path ∈ reportable (first.seenPaths process), path ∈ reportable (second.seenPaths later)) →
        first.Recognised process ∧ second.Recognised later

/-- An accused process comes from the table. -/
theorem mem_findOrphanDaemons {me : Scanner} {scan : Scan} {orphan : OrphanDaemon}
    (accused : orphan ∈ findOrphanDaemons me scan) :
    ∃ process ∈ scan.table.processes, me.considers process = true ∧ orphan.pid = process.pid ∧
      orphan.boundPath ∈ reportable (scan.table.seenPaths process) ∧
        ∀ path ∈ scan.table.seenPaths process, scan.dirs.registered path ≠ some process.pid := by
  obtain ⟨process, among, result⟩ := List.mem_filterMap.mp accused
  split at result
  · next considered =>
    obtain ⟨same, path, unregistered⟩ := classify_eq_some result
    have visited := scan.order.perm process.pid (scan.table.seenPaths process)
    refine ⟨process, among, considered, same, ?_, ?_⟩
    · exact (mem_reportable_perm visited orphan.boundPath).mp path
    · exact fun path seen => unregistered path (visited.mem_iff.mpr seen)
  · cases result

/-- A process that is what it looks like is not registered anywhere if no seen path says so. -/
theorem ProcessTable.Recognised.unregistered {table : ProcessTable} {process : Process}
    (recognised : table.Recognised process) (among : process ∈ table.processes)
    {dirs : SocketDirs} (order : SetOrder)
    (unregistered : ∀ path ∈ table.seenPaths process, dirs.registered path ≠ some process.pid) :
    (⟨table, dirs, order⟩ : Scan).Unregistered process.pid := by
  refine ⟨process, among, rfl, recognised.server, ?_⟩
  intro path bound registered
  obtain ⟨seen, there, same⟩ := recognised.located path bound
  refine unregistered seen there ?_
  rw [← registered, SocketDirs.registered, same]
  rfl

/-- Where all daemons of both tables are recognised, only orphans are reaped. -/
theorem reapsOnlyOrphans_of_recognised {me : Scanner} {first second : ProcessTable}
    (recognised : TablesRecognised me first second) : ReapsOnlyOrphans me first second := by
  intro dirs dirs' order order' pid killed
  obtain ⟨suspect, confirmed, rfl⟩ := List.mem_map.mp killed
  obtain ⟨suspected, again⟩ := List.mem_filter.mp confirmed
  obtain ⟨orphan, accused, same⟩ := List.any_eq_true.mp again
  obtain ⟨samePid, samePath⟩ := of_decide_eq_true same
  obtain ⟨process, among, considered, named, path, unregistered⟩ := mem_findOrphanDaemons suspected
  obtain ⟨later, among', considered', named', path', unregistered'⟩ := mem_findOrphanDaemons accused
  have one : process.pid = later.pid := by rw [← named, ← named', samePid]
  obtain ⟨here, there⟩ := recognised process among later among' considered considered' one
    ⟨suspect.boundPath, path, samePath ▸ path'⟩
  constructor
  · rw [named]
    exact here.unregistered among order unregistered
  · rw [named, one]
    exact there.unregistered among' order' unregistered'

/-- A process that is registered nowhere is accused under the path that is to be reported. -/
theorem accused_of_reportable {me : Scanner} {table : ProcessTable} {dirs : SocketDirs}
    {process : Process} {path : PathBuf} (among : process ∈ table.processes)
    (considered : me.considers process = true)
    (mayBe : path ∈ reportable (table.seenPaths process))
    (unregistered : ∀ seen ∈ table.seenPaths process, dirs.registered seen ≠ some process.pid) :
    ⟨process.pid, path, orphanReason dirs path⟩ ∈
      findOrphanDaemons me ⟨table, dirs, .reporting path⟩ := by
  refine List.mem_filterMap.mpr ⟨process, among, ?_⟩
  rw [if_pos considered]
  exact classify_reporting mayBe unregistered

/-- The pid of a process leads to no other process. -/
theorem ProcessTable.eq_of_pid {table : ProcessTable} {process other : Process}
    (among : process ∈ table.processes) (there : other ∈ table.processes)
    (same : process.pid = other.pid) : process = other :=
  List.inj_on_of_nodup_map table.distinct among there same

/-- Pid files of which only one has contents. -/
def SocketDirs.only (path : PathBuf) (pid : Nat) : SocketDirs where
  pidFile file :=
    if file = pidFilePath path then some (utf8 (String.ofList (Nat.toDigits 10 pid))) else none
  socketFile _ := false

/-- A word has no blanks to trim. -/
theorem IsWord.trim {text : List Char} (isWord : IsWord isWhitespace text) :
    trim text = text := by
  have kept : ∀ other : List Char, (∀ char ∈ other, isWhitespace char = false) →
      other.dropWhile isWhitespace = other := by
    intro other solid
    cases other with
    | nil => rfl
    | cons first rest => exact List.dropWhile_cons_of_neg (by simp [solid first List.mem_cons_self])
  unfold Gritty.trim
  rw [kept text isWord.solid, kept, List.reverse_reverse]
  intro char among
  exact isWord.solid char (List.mem_reverse.mp among)

/-- The one daemon that is registered is found under its path. -/
theorem SocketDirs.registered_only (path : PathBuf) {pid : Nat} (small : pid < 2 ^ 22) :
    (SocketDirs.only path pid).registered path = some pid := by
  have below : pid < 2 ^ 32 := by omega
  have written : (only path pid).pidFile (pidFilePath path) =
      some (utf8 (String.ofList (Nat.toDigits 10 pid))) := if_pos rfl
  rw [registered, written, Option.bind_some, fromUtf8_utf8, Option.bind_some, String.toList_ofList,
    (isWord_toDigits pid).trim]
  exact parseBelow_toDigits below

theorem SocketDirs.registered_only_of_ne {path other : PathBuf} {pid : Nat}
    (elsewhere : pidFilePath other ≠ pidFilePath path) :
    (SocketDirs.only path pid).registered other = none := by
  simp [registered, only, elsewhere]

/-- No files at all. -/
def SocketDirs.empty : SocketDirs where
  pidFile _ := none
  socketFile _ := false

theorem SocketDirs.registered_empty (path : PathBuf) :
    SocketDirs.empty.registered path = none := rfl

/-- A process that is a suspect in both scans, under one path, is killed. -/
theorem reaped_of_reportable {me : Scanner} {first second : ProcessTable} {dirs dirs' : SocketDirs}
    {process later : Process} {path : PathBuf} (among : process ∈ first.processes)
    (there : later ∈ second.processes) (considered : me.considers process = true)
    (considered' : me.considers later = true) (one : process.pid = later.pid)
    (mayBe : path ∈ reportable (first.seenPaths process))
    (mayBe' : path ∈ reportable (second.seenPaths later))
    (unregistered : ∀ seen ∈ first.seenPaths process, dirs.registered seen ≠ some process.pid)
    (unregistered' : ∀ seen ∈ second.seenPaths later, dirs'.registered seen ≠ some later.pid) :
    process.pid ∈
      reaped me ⟨first, dirs, .reporting path⟩ ⟨second, dirs', .reporting path⟩ := by
  have suspected := accused_of_reportable among considered mayBe unregistered
  have confirmed := accused_of_reportable there considered' mayBe' unregistered'
  refine List.mem_map.mpr ⟨_, List.mem_filter.mpr ⟨suspected, ?_⟩, rfl⟩
  exact List.any_eq_true.mpr ⟨_, confirmed, decide_eq_true ⟨one.symm, rfl⟩⟩

/-- What a scan says of a pid, it says of the process that has it. -/
theorem Scan.Unregistered.of_process {scan : Scan} {process : Process}
    (among : process ∈ scan.table.processes) (unregistered : scan.Unregistered process.pid) :
    process.runsServer = true ∧
      ∀ path ∈ scan.table.truePaths process, scan.dirs.registered path ≠ some process.pid := by
  obtain ⟨other, there, same, server, nowhere⟩ := unregistered
  obtain rfl := scan.table.eq_of_pid there among same
  exact ⟨server, nowhere⟩

/-- Where only orphans are reaped, all daemons of both tables are recognised. -/
theorem recognised_of_reapsOnlyOrphans {me : Scanner} {first second : ProcessTable}
    (only : ReapsOnlyOrphans me first second) : TablesRecognised me first second := by
  rintro process among later there considered considered' one ⟨path, mayBe, mayBe'⟩
  have killed (dirs dirs' : SocketDirs)
      (unregistered : ∀ seen ∈ first.seenPaths process, dirs.registered seen ≠ some process.pid)
      (unregistered' : ∀ seen ∈ second.seenPaths later, dirs'.registered seen ≠ some later.pid) :=
    only dirs dirs' _ _ process.pid (reaped_of_reportable among there considered considered' one
      mayBe mayBe' unregistered unregistered')
  have nowhere (pid : Nat) (paths : List PathBuf) :
      ∀ seen ∈ paths, SocketDirs.empty.registered seen ≠ some pid := by
    intro seen _
    simp [SocketDirs.registered_empty]
  -- A pid file that no path leads the scan to does not save the process it names.
  have missed {path : PathBuf} {pid : Nat} {paths : List PathBuf}
      (none_ : ¬ ∃ seen ∈ paths, pidFilePath seen = pidFilePath path) :
      ∀ seen ∈ paths, (SocketDirs.only path pid).registered seen ≠ some pid := by
    intro seen listed
    simp [SocketDirs.registered_only_of_ne fun same => none_ ⟨seen, listed, same⟩]
  obtain ⟨here, again⟩ := killed .empty .empty (nowhere _ _) (nowhere _ _)
  rw [one] at again
  constructor
  · refine ⟨(here.of_process among).1, ?_⟩
    intro bound isBound
    by_contra none_
    obtain ⟨spared, -⟩ := killed (.only bound process.pid) .empty (missed none_) (nowhere _ _)
    exact (spared.of_process among).2 bound isBound
      (SocketDirs.registered_only bound process.small)
  · refine ⟨(again.of_process there).1, ?_⟩
    intro bound isBound
    by_contra none_
    obtain ⟨-, spared⟩ := killed .empty (.only bound later.pid) (nowhere _ _) (missed none_)
    rw [one] at spared
    exact (spared.of_process there).2 bound isBound (SocketDirs.registered_only bound later.small)

/-- Only orphans are killed, whatever the files are, when the tables show what they mean. -/
theorem reapsOnlyOrphans_iff (me : Scanner) (first second : ProcessTable) :
    ReapsOnlyOrphans me first second ↔ TablesRecognised me first second :=
  ⟨recognised_of_reapsOnlyOrphans, reapsOnlyOrphans_of_recognised⟩

/-! ### Tables that are read as they are -/

/-- A path is looked up under its inode, where each inode stands once. -/
theorem lookup_of_mem {table : List (Nat × PathBuf)} (distinct : (table.map Prod.fst).Nodup)
    {inode : Nat} {path : PathBuf} (among : (inode, path) ∈ table) :
    table.lookup inode = some path := by
  induction table with
  | nil => exact absurd among List.not_mem_nil
  | cons entry others ih =>
    rw [List.map_cons, List.nodup_cons] at distinct
    rcases List.mem_cons.mp among with rfl | later
    · exact List.lookup_cons_self
    · have other : inode ≠ entry.1 := by
        rintro rfl
        exact distinct.1 (List.mem_map.mpr ⟨_, later, rfl⟩)
      rw [List.lookup_cons, beq_false_of_ne other]
      exact ih distinct.2 later

/-- Without blanks and relative addresses in its table, a scan sees each path that was bound. -/
theorem ProcessTable.mem_seenPaths {table : ProcessTable} {process : Process} {path : PathBuf}
    (legible : ∀ socket ∈ table.sockets, socket.address.Legible)
    (absolute : ∀ socket ∈ table.sockets, socket.absolutePath = socket.boundPath)
    (bound : path ∈ table.truePaths process) : path ∈ table.seenPaths process := by
  obtain ⟨link, linked, leads⟩ := List.mem_filterMap.mp bound
  obtain ⟨socket, opened, isBound⟩ := Option.bind_eq_some_iff.mp leads
  obtain ⟨inode, read, found⟩ := Option.bind_eq_some_iff.mp opened
  have among := List.mem_of_find?_eq_some found
  have same : socket.inode = inode := by simpa using List.find?_some found
  have named : socket.absolutePath = some path := (absolute socket among).trans isBound
  have listed : (inode, path) ∈ table.sockets.filterMap fun socket =>
      socket.absolutePath.map fun path => (socket.inode, path) := by
    refine List.mem_filterMap.mpr ⟨socket, among, ?_⟩
    rw [named, Option.map_some, same]
  -- The inodes in what was read are inodes of the table.
  have inodes : ((table.sockets.filterMap fun socket =>
      socket.absolutePath.map fun path => (socket.inode, path)).map Prod.fst).Sublist
        (table.sockets.map KernelSocket.inode) := by
    rw [List.map_filterMap, ← List.filterMap_eq_map]
    generalize table.sockets = sockets
    induction sockets with
    | nil => exact List.Sublist.refl []
    | cons first others ih =>
      cases path : first.absolutePath with
      | none => simpa [path] using ih.cons first.inode
      | some here => simpa [path] using ih
  have distinct := (List.nodup_reverse.mpr (inodes.nodup table.distinctSockets))
  rw [← List.map_reverse] at distinct
  rw [seenPaths, parseProcNetUnix_legible legible, boundUnixPaths, List.mem_dedup]
  refine List.mem_filterMap.mpr ⟨link, linked, ?_⟩
  rw [read, Option.bind_some]
  exact lookup_of_mem distinct (List.mem_reverse.mpr listed)

/-- Where no address has blanks and no other command is called server, only orphans are killed. -/
theorem reapsOnlyOrphans_of_legible {me : Scanner} {first second : ProcessTable}
    (plain : ∀ table ∈ [first, second],
      (∀ socket ∈ table.sockets, socket.address.Legible) ∧
        ∀ socket ∈ table.sockets, socket.absolutePath = socket.boundPath)
    (servers : ∀ table ∈ [first, second], ∀ process ∈ table.processes,
      me.considers process = true → process.runsServer = true) :
    ReapsOnlyOrphans me first second := by
  have recognised (table : ProcessTable) (which : table ∈ [first, second]) (process : Process)
      (among : process ∈ table.processes) (considered : me.considers process = true) :
      table.Recognised process := by
    refine ⟨servers table which process among considered, fun path bound => ⟨path, ?_, rfl⟩⟩
    exact ProcessTable.mem_seenPaths (plain table which).1 (plain table which).2 bound
  apply reapsOnlyOrphans_of_recognised
  intro process among later there considered considered' _ _
  exact ⟨recognised first (by simp) process among considered,
    recognised second (by simp) later there considered'⟩

/-! ### Who is killed without being an orphan -/

/-- A table of one process and its one socket. -/
def loneTable (process : Process) (socket : KernelSocket) : ProcessTable where
  processes := [process]
  sockets := [socket]
  distinct := List.nodup_singleton process.pid
  distinctSockets := List.nodup_singleton socket.inode

/-- A listening socket. -/
def listeningSocket (name : String) : KernelSocket where
  columns := ["0000000000000000:", "00000002", "00000000", "00010000", "0001", "01"]
  six := rfl
  plain := by
    intro column among
    have checked : (["0000000000000000:", "00000002", "00000000", "00010000", "0001", "01"].all
        fun column => !column.toList.isEmpty && column.toList.all (!isWhitespace ·)) = true := by
      decide
    have both := List.all_eq_true.mp checked column among
    rw [Bool.and_eq_true, List.all_eq_true] at both
    exact ⟨by simpa using both.1, by simpa using both.2⟩
  inode := 31337
  small := by decide
  address := .path (utf8 name)
  workDir := []

/-- A client that is connected to a host called server, and forwards a port. -/
def connectedClient : Process where
  pid := 4242
  positive := by decide
  small := by decide
  uid := 1000
  argv := [utf8 "gritty", utf8 "connect", utf8 "server"]
  noNul := by decide
  links := [utf8 "socket:[31337]"]

/-- A daemon. -/
def registeredDaemon : Process where
  pid := 4242
  positive := by decide
  small := by decide
  uid := 1000
  argv := [utf8 "gritty", utf8 "server"]
  noNul := by decide
  links := [utf8 "socket:[31337]"]

/-- The client of a host called server and a daemon in a directory with a blank are killed. -/
theorem bystanders_killed :
    ¬ ReapsOnlyOrphans ⟨1, 1000⟩
        (loneTable connectedClient (listeningSocket "/run/user/1000/gritty/fwd-server-0.sock"))
        (loneTable connectedClient (listeningSocket "/run/user/1000/gritty/fwd-server-0.sock")) ∧
      ¬ ReapsOnlyOrphans ⟨1, 1000⟩
        (loneTable registeredDaemon (listeningSocket "/home/u/my sockets/ctl.sock"))
        (loneTable registeredDaemon (listeningSocket "/home/u/my sockets/ctl.sock")) := by
  constructor
  · intro only
    have killed : 4242 ∈ reaped ⟨1, 1000⟩
        ⟨loneTable connectedClient (listeningSocket "/run/user/1000/gritty/fwd-server-0.sock"),
          .empty, .reporting []⟩
        ⟨loneTable connectedClient (listeningSocket "/run/user/1000/gritty/fwd-server-0.sock"),
          .empty, .reporting []⟩ := by decide +kernel
    obtain ⟨⟨process, among, -, server, -⟩, -⟩ := only _ _ _ _ 4242 killed
    obtain rfl : process = connectedClient := List.mem_singleton.mp among
    exact absurd server (by decide +kernel)
  · intro only
    -- The pid file is where it belongs, but the scan looks for it beside the first word.
    have killed : 4242 ∈ reaped ⟨1, 1000⟩
        ⟨loneTable registeredDaemon (listeningSocket "/home/u/my sockets/ctl.sock"),
          .only (components (utf8 "/home/u/my sockets/ctl.sock")) 4242, .reporting []⟩
        ⟨loneTable registeredDaemon (listeningSocket "/home/u/my sockets/ctl.sock"),
          .only (components (utf8 "/home/u/my sockets/ctl.sock")) 4242, .reporting []⟩ := by
      decide +kernel
    obtain ⟨⟨process, among, -, -, nowhere⟩, -⟩ := only _ _ _ _ 4242 killed
    obtain rfl : process = registeredDaemon := List.mem_singleton.mp among
    exact nowhere (components (utf8 "/home/u/my sockets/ctl.sock")) (by decide +kernel)
      (by decide +kernel)

end Gritty
