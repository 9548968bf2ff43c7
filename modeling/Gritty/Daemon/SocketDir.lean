import Mathlib.Data.Char
import Mathlib.Data.List.Lex
import Gritty.Lib.CommandLine
import Gritty.Lib.Decimal

/-! The names of the files in the socket directory, and what is read back from them. -/

namespace Gritty

/-- What a file of a tunnel is for. -/
inductive SidecarKind where
  | sock
  | pid
  | info
  | lock
  | dest
  | sshOpts
  | remoteSock
  | log
  | out
  | kick
  deriving DecidableEq

/-- The ending of its name. -/
def SidecarKind.ext : SidecarKind → Text
  | .sock => "sock".toList
  | .pid => "pid".toList
  | .info => "info".toList
  | .lock => "lock".toList
  | .dest => "dest".toList
  | .sshOpts => "ssh-opts".toList
  | .remoteSock => "remote-sock".toList
  | .log => "log".toList
  | .out => "out".toList
  | .kick => "kick".toList

/-- The file of a tunnel with a given ending. -/
def connectSidecarPath (connectionName ext : Text) : Text :=
  "connect-".toList ++ (connectionName ++ '.' :: ext)

/-- The number of a session in a file name. -/
def idText (id : UInt32) : Text := Nat.toDigits 10 id.toNat

/-- A file that gritty writes to its socket directory. -/
inductive Artifact where
  | ctl
  | daemonPid
  | daemonInfo
  | daemonLog
  | daemonOut
  | clientLog
  | grittyOpen
  | agent (id : UInt32)
  | svc (id : UInt32)
  | forward (host : Text) (id : UInt32)
  | sidecar (connectionName : Text) (kind : SidecarKind)
  deriving DecidableEq

def Artifact.name : Artifact → Text
  | .ctl => "ctl.sock".toList
  | .daemonPid => "daemon.pid".toList
  | .daemonInfo => "daemon.info".toList
  | .daemonLog => "daemon.log".toList
  | .daemonOut => "daemon.out".toList
  | .clientLog => "client.log".toList
  | .grittyOpen => "gritty-open".toList
  | .agent id => "agent-".toList ++ (idText id ++ ".sock".toList)
  | .svc id => "svc-".toList ++ (idText id ++ ".sock".toList)
  | .forward host id => "fwd-".toList ++ (host ++ '-' :: idText id ++ ".sock".toList)
  | .sidecar connectionName kind => connectSidecarPath connectionName kind.ext

/-- The sockets that are bound under a lock, which is a file of its own. -/
def Artifact.IsBound : Artifact → Prop
  | .ctl | .agent _ | .svc _ | .forward _ _ => True
  | _ => False

/-- The lock of a socket that is bound. -/
def bindLockPath (socket : Text) : Text := socket ++ ".bindlock".toList

/-- A file of the directory: an artifact, or the lock of one. -/
inductive StateFile where
  | artifact (file : Artifact)
  | bindLock (socket : Artifact) (bound : socket.IsBound)

def StateFile.name : StateFile → Text
  | .artifact file => file.name
  | .bindLock socket _ => bindLockPath socket.name

/-! ### Reading names -/

/-- The tunnel that a control socket belongs to. -/
def ctlSocketTunnelName (file : Text) : Option Text :=
  ("connect-".toList.isPrefixOf? file).bind fun rest => ".sock".toList.isSuffixOf? rest

/-- A file name without its ending. A name that starts with its only dot has none. -/
def fileStem (file : Text) : Text :=
  match splitAtLast '.' file with
  | some ([], _) => file
  | some (stem, _) => stem
  | none => file

/-- The host that a control socket belongs to, as it is shown. -/
def hostFromCtlPath (file : Text) : Text :=
  ("connect-".toList.isPrefixOf? (fileStem file)).getD "local".toList

/-- The socket of the client that is attached to a session through a control socket. -/
def forwardSocketPath (ctl : Text) (sessionId : UInt32) : Text :=
  let host := if fileStem ctl = "ctl".toList then "local".toList
    else ("connect-".toList.isPrefixOf? (fileStem ctl)).getD (fileStem ctl)
  (Artifact.forward host sessionId).name

/-- The host and the session of a forward socket. -/
def parseForwardSocketName (file : Text) : Option (Text × UInt32) := do
  let rest ← "fwd-".toList.isPrefixOf? file
  let stem ← ".sock".toList.isSuffixOf? rest
  let (host, id) ← splitAtLast '-' stem
  let number ← parseBelow (2 ^ 32) id
  return (host, UInt32.ofNat number)

/-- The control socket of a host. -/
def resolveCtlPath (host : Text) : Text :=
  if host = "local".toList then Artifact.ctl.name
  else connectSidecarPath host SidecarKind.sock.ext

/-- The name of a tunnel by its lock. -/
def lockName (file : Text) : Option Text :=
  ("connect-".toList.isPrefixOf? file).bind fun rest => ".lock".toList.isSuffixOf? rest

/-- The tunnels that have a lock, in the order of their names. -/
def enumerateTunnels (files : List Text) : List Text :=
  (files.filterMap lockName).mergeSort fun first second => decide (first ≤ second)

/-- Whether any file is about a tunnel of this name. -/
def hasSidecarsIn (files : List Text) (connectionName : Text) : Bool :=
  files.any fun file =>
    match ("connect-".toList ++ (connectionName ++ ['.'])).isPrefixOf? file with
    | some ext => !ext.contains '.'
    | none => false

/-! ### Names and their endings -/

/-- A name is cut at its last dot in one way only. -/
theorem ext_unique {stem other ext last : Text} (plain : '.' ∉ ext) (plainLast : '.' ∉ last)
    (same : stem ++ '.' :: ext = other ++ '.' :: last) : stem = other ∧ ext = last := by
  have one : splitAtLast '.' (stem ++ '.' :: ext) = some (stem, ext) :=
    splitAtLast_eq_some.mpr ⟨rfl, plain⟩
  have two : splitAtLast '.' (stem ++ '.' :: ext) = some (other, last) :=
    splitAtLast_eq_some.mpr ⟨same, plainLast⟩
  rw [one, Option.some.injEq, Prod.mk.injEq] at two
  exact two

theorem isDigit_of_mem_idText {id : UInt32} {char : Char} (among : char ∈ idText id) :
    char.isDigit = true :=
  Nat.isDigit_of_mem_toDigits (by decide) (by decide) among

theorem parseBelow_idText (id : UInt32) : parseBelow (2 ^ 32) (idText id) = some id.toNat :=
  parseBelow_toDigits id.toNat_lt

theorem SidecarKind.ext_plain (kind : SidecarKind) : '.' ∉ kind.ext := by
  cases kind <;> decide

theorem sock_dotted : ".sock".toList = '.' :: SidecarKind.sock.ext := rfl

/-- The ending of an artifact, and what stands before it. -/
theorem Artifact.name_cases (artifact : Artifact) :
    artifact = .grittyOpen ∨
      ∃ (stem : Text) (kind : SidecarKind), artifact.name = stem ++ '.' :: kind.ext := by
  cases artifact with
  | grittyOpen => exact Or.inl rfl
  | ctl => exact Or.inr ⟨"ctl".toList, .sock, rfl⟩
  | daemonPid => exact Or.inr ⟨"daemon".toList, .pid, rfl⟩
  | daemonInfo => exact Or.inr ⟨"daemon".toList, .info, rfl⟩
  | daemonLog => exact Or.inr ⟨"daemon".toList, .log, rfl⟩
  | daemonOut => exact Or.inr ⟨"daemon".toList, .out, rfl⟩
  | clientLog => exact Or.inr ⟨"client".toList, .log, rfl⟩
  | agent id =>
    refine Or.inr ⟨"agent-".toList ++ idText id, .sock, ?_⟩
    show "agent-".toList ++ (idText id ++ ".sock".toList) = _
    rw [sock_dotted, List.append_assoc]
  | svc id =>
    refine Or.inr ⟨"svc-".toList ++ idText id, .sock, ?_⟩
    show "svc-".toList ++ (idText id ++ ".sock".toList) = _
    rw [sock_dotted, List.append_assoc]
  | forward host id =>
    refine Or.inr ⟨"fwd-".toList ++ (host ++ '-' :: idText id), .sock, ?_⟩
    show "fwd-".toList ++ (host ++ '-' :: idText id ++ ".sock".toList) = _
    rw [sock_dotted]
    exact (List.append_assoc _ _ _).symm
  | sidecar connectionName kind =>
    refine Or.inr ⟨"connect-".toList ++ connectionName, kind, ?_⟩
    show "connect-".toList ++ (connectionName ++ '.' :: kind.ext) = _
    rw [List.append_assoc]

/-- No artifact is named like a lock. -/
theorem Artifact.not_bindLock (artifact : Artifact) (stem : Text) :
    artifact.name ≠ bindLockPath stem := by
  intro same
  rcases artifact.name_cases with rfl | ⟨front, kind, split⟩
  · -- It has no dot at all.
    have dot : '.' ∈ bindLockPath stem := List.mem_append_right stem (by decide)
    rw [← same] at dot
    exact absurd dot (by decide)
  · have locked : bindLockPath stem = stem ++ '.' :: "bindlock".toList := rfl
    rw [split, locked] at same
    obtain ⟨-, ext⟩ := ext_unique kind.ext_plain (by decide) same
    cases kind <;> exact absurd ext (by decide)

/-! ### The artifact of a name -/

/-- The kind of a file of a tunnel, by its ending. -/
def SidecarKind.ofExt (ext : Text) : Option SidecarKind :=
  [.sock, .pid, .info, .lock, .dest, .sshOpts, .remoteSock, .log, .out, .kick].find? fun kind =>
    kind.ext == ext

theorem SidecarKind.ofExt_ext (kind : SidecarKind) : ofExt kind.ext = some kind := by
  cases kind <;> decide

/-- The session whose socket of one kind has this name. -/
def readSessionSocket (front file : Text) : Option UInt32 := do
  let rest ← front.isPrefixOf? file
  let digits ← ".sock".toList.isSuffixOf? rest
  let number ← parseBelow (2 ^ 32) digits
  return UInt32.ofNat number

/-- The name of a session's socket is read as the session's number. -/
theorem readSessionSocket_name (front : Text) (id : UInt32) :
    readSessionSocket front (front ++ (idText id ++ ".sock".toList)) = some id := by
  have rest : front.isPrefixOf? (front ++ (idText id ++ ".sock".toList)) =
      some (idText id ++ ".sock".toList) := List.isPrefixOf?_eq_some_iff_append_eq.mpr rfl
  have digits : ".sock".toList.isSuffixOf? (idText id ++ ".sock".toList) = some (idText id) :=
    List.isSuffixOf?_eq_some_iff_append_eq.mpr rfl
  unfold readSessionSocket
  rw [rest, Option.bind_eq_bind, Option.bind_some, digits, Option.bind_eq_bind, Option.bind_some,
    parseBelow_idText]
  simp

/-- The name of a forward socket is read back, whatever the host is called. -/
theorem parseForwardSocketName_name (host : Text) (id : UInt32) :
    parseForwardSocketName (Artifact.forward host id).name = some (host, id) := by
  have rest : "fwd-".toList.isPrefixOf? (Artifact.forward host id).name =
      some (host ++ '-' :: idText id ++ ".sock".toList) :=
    List.isPrefixOf?_eq_some_iff_append_eq.mpr rfl
  have stem : ".sock".toList.isSuffixOf? (host ++ '-' :: idText id ++ ".sock".toList) =
      some (host ++ '-' :: idText id) := List.isSuffixOf?_eq_some_iff_append_eq.mpr rfl
  -- The number has no dash in it, so the last dash is the one before it.
  have plain : '-' ∉ idText id := fun among =>
    absurd (isDigit_of_mem_idText among) (by decide)
  have split : splitAtLast '-' (host ++ '-' :: idText id) = some (host, idText id) :=
    splitAtLast_eq_some.mpr ⟨rfl, plain⟩
  unfold parseForwardSocketName
  rw [rest, Option.bind_eq_bind, Option.bind_some, stem, Option.bind_eq_bind, Option.bind_some,
    split, Option.bind_eq_bind, Option.bind_some]
  show (parseBelow (2 ^ 32) (idText id)).bind _ = _
  rw [parseBelow_idText]
  simp

/-- The file of a tunnel that has this name. -/
def readSidecar (file : Text) : Option (Text × SidecarKind) := do
  let rest ← "connect-".toList.isPrefixOf? file
  let (connectionName, ext) ← splitAtLast '.' rest
  let kind ← SidecarKind.ofExt ext
  return (connectionName, kind)

/-- The name of a tunnel's file is read as the tunnel and the kind. -/
theorem readSidecar_name (connectionName : Text) (kind : SidecarKind) :
    readSidecar (Artifact.sidecar connectionName kind).name = some (connectionName, kind) := by
  have rest : "connect-".toList.isPrefixOf? (Artifact.sidecar connectionName kind).name =
      some (connectionName ++ '.' :: kind.ext) := List.isPrefixOf?_eq_some_iff_append_eq.mpr rfl
  have split : splitAtLast '.' (connectionName ++ '.' :: kind.ext) =
      some (connectionName, kind.ext) := splitAtLast_eq_some.mpr ⟨rfl, kind.ext_plain⟩
  unfold readSidecar
  rw [rest, Option.bind_eq_bind, Option.bind_some, split, Option.bind_eq_bind, Option.bind_some]
  show (SidecarKind.ofExt kind.ext).bind _ = _
  rw [kind.ofExt_ext]
  rfl

/-- The artifact that has a name, if one does. -/
def Artifact.ofName (file : Text) : Option Artifact :=
  if file = Artifact.ctl.name then some .ctl
  else if file = Artifact.daemonPid.name then some .daemonPid
  else if file = Artifact.daemonInfo.name then some .daemonInfo
  else if file = Artifact.daemonLog.name then some .daemonLog
  else if file = Artifact.daemonOut.name then some .daemonOut
  else if file = Artifact.clientLog.name then some .clientLog
  else if file = Artifact.grittyOpen.name then some .grittyOpen
  else match file with
    | 'a' :: _ => (readSessionSocket "agent-".toList file).map .agent
    | 's' :: _ => (readSessionSocket "svc-".toList file).map .svc
    | 'f' :: _ => (parseForwardSocketName file).map fun (host, id) => .forward host id
    | 'c' :: _ => (readSidecar file).map fun (connectionName, kind) => .sidecar connectionName kind
    | _ => none

/-- Every artifact is read back from its name. -/
theorem Artifact.ofName_name (artifact : Artifact) : ofName artifact.name = some artifact := by
  cases artifact with
  | ctl => rfl
  | daemonPid => rfl
  | daemonInfo => rfl
  | daemonLog => rfl
  | daemonOut => rfl
  | clientLog => rfl
  | grittyOpen => rfl
  | agent id =>
    show (readSessionSocket "agent-".toList ("agent-".toList ++ (idText id ++ ".sock".toList))).map
      Artifact.agent = _
    rw [readSessionSocket_name]
    rfl
  | svc id =>
    show (readSessionSocket "svc-".toList ("svc-".toList ++ (idText id ++ ".sock".toList))).map
      Artifact.svc = _
    rw [readSessionSocket_name]
    rfl
  | forward host id =>
    show (parseForwardSocketName (Artifact.forward host id).name).map _ = _
    rw [parseForwardSocketName_name]
    rfl
  | sidecar connectionName kind =>
    show (readSidecar (Artifact.sidecar connectionName kind).name).map _ = _
    rw [readSidecar_name]
    rfl

theorem Artifact.name_injective {artifact other : Artifact} (same : artifact.name = other.name) :
    artifact = other := by
  have read := artifact.ofName_name
  rw [same, other.ofName_name] at read
  exact (Option.some.inj read).symm

/-- No two files of the directory have the same name. -/
theorem StateFile.name_injective {file other : StateFile} (same : file.name = other.name) :
    file = other := by
  cases file with
  | artifact one =>
    cases other with
    | artifact two => rw [Artifact.name_injective same]
    | bindLock two => exact absurd same (one.not_bindLock two.name)
  | bindLock one =>
    cases other with
    | artifact two => exact absurd same.symm (two.not_bindLock one.name)
    | bindLock two =>
      obtain rfl : one = two := Artifact.name_injective (List.append_cancel_right same)
      rfl

/-! ### Hosts -/

/-- The stem of a tunnel's file is the front and the tunnel's name. -/
theorem fileStem_sidecar (connectionName : Text) (kind : SidecarKind) :
    fileStem (connectSidecarPath connectionName kind.ext) = "connect-".toList ++ connectionName := by
  have split : splitAtLast '.' (connectSidecarPath connectionName kind.ext) =
      some ("connect-".toList ++ connectionName, kind.ext) :=
    splitAtLast_eq_some.mpr ⟨(List.append_assoc _ _ _).symm, kind.ext_plain⟩
  unfold fileStem
  rw [split]
  rfl

/-- The control socket of a host is the host's, whatever it is called. -/
theorem hostFromCtlPath_resolve (host : Text) : hostFromCtlPath (resolveCtlPath host) = host := by
  unfold resolveCtlPath
  split
  · next isLocal =>
    rw [isLocal]
    rfl
  · have front : "connect-".toList.isPrefixOf? ("connect-".toList ++ host) = some host :=
      List.isPrefixOf?_eq_some_iff_append_eq.mpr rfl
    unfold hostFromCtlPath
    rw [fileStem_sidecar, front]
    rfl

/-- A client is found through the host it was started with. -/
theorem forwardSocketPath_resolve (host : Text) (id : UInt32) :
    forwardSocketPath (resolveCtlPath host) id = (Artifact.forward host id).name := by
  unfold resolveCtlPath
  split
  · next isLocal =>
    rw [isLocal]
    rfl
  · have front : "connect-".toList.isPrefixOf? ("connect-".toList ++ host) = some host :=
      List.isPrefixOf?_eq_some_iff_append_eq.mpr rfl
    have notCtl : "connect-".toList ++ host ≠ "ctl".toList := by
      intro same
      have letters : (['c', 'o'] : Text) = ['c', 't'] := congrArg (List.take 2) same
      exact absurd letters (by decide)
    unfold forwardSocketPath
    rw [fileStem_sidecar, front, if_neg notCtl]
    rfl

/-! ### Tunnels -/

/-- What stands between a front and an ending. -/
theorem cut_eq_some {front ending file middle : Text} :
    ((front.isPrefixOf? file).bind fun rest => ending.isSuffixOf? rest) = some middle ↔
      file = front ++ (middle ++ ending) := by
  rw [Option.bind_eq_some_iff]
  constructor
  · rintro ⟨rest, started, ended⟩
    rw [← List.isPrefixOf?_eq_some_iff_append_eq.mp started,
      ← List.isSuffixOf?_eq_some_iff_append_eq.mp ended]
  · intro whole
    exact ⟨middle ++ ending, List.isPrefixOf?_eq_some_iff_append_eq.mpr whole.symm,
      List.isSuffixOf?_eq_some_iff_append_eq.mpr rfl⟩

/-- Only the lock of a tunnel is read as one. -/
theorem lockName_eq_some {file : StateFile} {connectionName : Text} :
    lockName file.name = some connectionName ↔
      file = .artifact (.sidecar connectionName .lock) := by
  unfold lockName
  rw [cut_eq_some]
  constructor
  · exact fun same => StateFile.name_injective same
  · rintro rfl
    rfl

/-- Only the control socket of a tunnel is read as one. -/
theorem ctlSocketTunnelName_eq_some {file : StateFile} {connectionName : Text} :
    ctlSocketTunnelName file.name = some connectionName ↔
      file = .artifact (.sidecar connectionName .sock) := by
  unfold ctlSocketTunnelName
  rw [cut_eq_some]
  constructor
  · exact fun same => StateFile.name_injective same
  · rintro rfl
    rfl

/-- The tunnels that are enumerated are exactly those with a lock in the directory. -/
theorem mem_enumerateTunnels {files : List StateFile} {connectionName : Text} :
    connectionName ∈ enumerateTunnels (files.map (·.name)) ↔
      StateFile.artifact (.sidecar connectionName .lock) ∈ files := by
  unfold enumerateTunnels
  rw [List.mem_mergeSort, List.mem_filterMap]
  constructor
  · rintro ⟨file, among, read⟩
    obtain ⟨one, there, rfl⟩ := List.mem_map.mp among
    rwa [← lockName_eq_some.mp read]
  · exact fun there => ⟨_, List.mem_map_of_mem there, lockName_eq_some.mpr rfl⟩

/-- A tunnel is listed as often as its lock. -/
theorem enumerateTunnels_nodup {files : List StateFile} (distinct : files.Nodup) :
    (enumerateTunnels (files.map (·.name))).Nodup := by
  have single : (files.filterMap fun file => lockName file.name).Nodup := by
    refine distinct.filterMap ?_
    intro one two connectionName first second
    rw [lockName_eq_some.mp first, lockName_eq_some.mp second]
  unfold enumerateTunnels
  rw [(List.mergeSort_perm _ _).nodup_iff, List.filterMap_map]
  exact single

/-- The files whose names begin like those of a tunnel are those of tunnels. -/
theorem StateFile.connect_cases {file : StateFile} {rest : Text}
    (starts : file.name = "connect-".toList ++ rest) :
    ∃ connectionName kind, file = .artifact (.sidecar connectionName kind) := by
  have front : file.name.take 2 = ['c', 'o'] := by
    rw [starts]
    rfl
  cases file with
  | artifact file =>
    cases file with
    | sidecar connectionName kind => exact ⟨connectionName, kind, rfl⟩
    | _ => exact absurd front (by first | decide | (intro same; cases same))
  | bindLock socket bound =>
    cases socket with
    | ctl =>
      have other : (bindLockPath Artifact.ctl.name).take 2 = ['c', 't'] := rfl
      exact absurd (other.symm.trans front) (by decide)
    | agent id =>
      have other : (bindLockPath (Artifact.agent id).name).take 2 = ['a', 'g'] := rfl
      exact absurd (other.symm.trans front) (by decide)
    | svc id =>
      have other : (bindLockPath (Artifact.svc id).name).take 2 = ['s', 'v'] := rfl
      exact absurd (other.symm.trans front) (by decide)
    | forward host id =>
      have other : (bindLockPath (Artifact.forward host id).name).take 2 = ['f', 'w'] := rfl
      exact absurd (other.symm.trans front) (by decide)
    | _ => exact bound.elim

/-- A tunnel is known exactly by files of its own, also where its name begins like another's. -/
theorem hasSidecarsIn_iff {files : List StateFile} {connectionName : Text} :
    hasSidecarsIn (files.map (·.name)) connectionName = true ↔
      ∃ kind, StateFile.artifact (.sidecar connectionName kind) ∈ files := by
  have around (ext : Text) : "connect-".toList ++ (connectionName ++ ['.']) ++ ext =
      "connect-".toList ++ (connectionName ++ '.' :: ext) := by
    rw [List.append_assoc, List.append_assoc]
    rfl
  unfold hasSidecarsIn
  rw [List.any_eq_true]
  constructor
  · rintro ⟨file, among, found⟩
    obtain ⟨one, there, rfl⟩ := List.mem_map.mp among
    split at found
    · next ext read =>
      have shape := List.isPrefixOf?_eq_some_iff_append_eq.mp read
      rw [around] at shape
      obtain ⟨other, kind, rfl⟩ := StateFile.connect_cases shape.symm
      -- The rest has no dot, so the name of the tunnel ends where the file's does.
      have plain : '.' ∉ ext := by simpa using found
      obtain ⟨same, -⟩ := ext_unique plain kind.ext_plain (List.append_cancel_left shape)
      exact ⟨kind, same ▸ there⟩
    · exact absurd found (by decide)
  · rintro ⟨kind, there⟩
    have read : ("connect-".toList ++ (connectionName ++ ['.'])).isPrefixOf?
        (StateFile.artifact (.sidecar connectionName kind)).name = some kind.ext :=
      List.isPrefixOf?_eq_some_iff_append_eq.mpr (around kind.ext)
    refine ⟨_, List.mem_map_of_mem there, ?_⟩
    rw [read]
    simpa using kind.ext_plain

/-- Every file of the socket directory has a name of its own, and is found by what the name says. -/
structure OneNameSpace : Prop where
  distinct : ∀ file other : StateFile, file.name = other.name → file = other
  /-- A forward socket names the host and the session, also where the host has dashes in it. -/
  forward : ∀ (host : Text) (id : UInt32),
    parseForwardSocketName (forwardSocketPath (resolveCtlPath host) id) = some (host, id)
  host : ∀ host : Text, hostFromCtlPath (resolveCtlPath host) = host
  tunnelName : ∀ (file : StateFile) (connectionName : Text),
    ctlSocketTunnelName file.name = some connectionName ↔
      file = .artifact (.sidecar connectionName .sock)
  /-- The tunnels that are listed are those with a lock. -/
  tunnels : ∀ (files : List StateFile) (connectionName : Text),
    connectionName ∈ enumerateTunnels (files.map (·.name)) ↔
      StateFile.artifact (.sidecar connectionName .lock) ∈ files
  once : ∀ files : List StateFile, files.Nodup → (enumerateTunnels (files.map (·.name))).Nodup
  /-- A tunnel is known if any file is about it, and by no file of another tunnel. -/
  sidecars : ∀ (files : List StateFile) (connectionName : Text),
    hasSidecarsIn (files.map (·.name)) connectionName = true ↔
      ∃ kind, StateFile.artifact (.sidecar connectionName kind) ∈ files

/-- The files of the socket directory share one space of names without getting in each other's way. -/
theorem oneNameSpace : OneNameSpace where
  distinct _ _ := StateFile.name_injective
  forward host id := by rw [forwardSocketPath_resolve, parseForwardSocketName_name]
  host := hostFromCtlPath_resolve
  tunnelName _ _ := ctlSocketTunnelName_eq_some
  tunnels _ _ := mem_enumerateTunnels
  once _ := enumerateTunnels_nodup
  sidecars _ _ := hasSidecarsIn_iff

end Gritty
