import Gritty.Config.Layers
import Gritty.Daemon.SocketDir
import Gritty.Lib.Grouping
import Gritty.Protocol.Frame
import Mathlib.Data.Prod.Lex
import Mathlib.Data.String.Basic

/-! All sessions within reach, listed by the daemons that have them. -/

namespace Gritty

/-! ### Endpoints -/

inductive TunnelStatus where
  | healthy
  | reconnecting
  | stale
  deriving DecidableEq

def TunnelStatus.text : TunnelStatus → Text
  | healthy => "healthy".toList
  | reconnecting => "reconnecting".toList
  | stale => "stale".toList

/-- What is shown of a tunnel: where it goes, and how it does. -/
structure TunnelInfo where
  name : Text
  destination : Text
  status : Text
  deriving DecidableEq

/-- What is found of tunnels, one after the other: how each does, where it goes, and whether its lock
is free when a dead one's files are to be removed. -/
structure TunnelSights where
  status : Text → TunnelStatus
  dest : Text → Option Text
  unheld : Text → Bool

/-- The directory without the state that a dead tunnel left. What it can be made again from stays. -/
def cleanupStaleFiles (name : Text) (files : List Text) : List Text :=
  files.filter fun file => decide (file ∉ [SidecarKind.sock, .pid, .info, .kick].map fun kind =>
    connectSidecarPath name kind.ext)

/-- The same under the lock, which goes last, unless somebody holds that again. -/
def cleanupIfUnheld (sights : TunnelSights) (name : Text) (files : List Text) : List Text :=
  if sights.unheld name then
    (cleanupStaleFiles name files).filter fun file =>
      decide (file ≠ connectSidecarPath name SidecarKind.lock.ext)
  else files

def tunnelInfo (sights : TunnelSights) (name : Text) : TunnelInfo where
  name
  destination := trim ((sights.dest name).getD "-".toList)
  status := (sights.status name).text

/-- One more tunnel, shown or, if it is dead, swept away. -/
def gatherTunnel (sights : TunnelSights) (gcStale : Bool) (gathered : List TunnelInfo × List Text)
    (name : Text) : List TunnelInfo × List Text :=
  if sights.status name = .stale && gcStale then
    (gathered.1, cleanupIfUnheld sights name gathered.2)
  else (gathered.1 ++ [tunnelInfo sights name], gathered.2)

/-- What is shown of the tunnels, and the directory afterwards. -/
def gatherTunnelInfo (sights : TunnelSights) (files : List Text) (gcStale : Bool) :
    List TunnelInfo × List Text :=
  (enumerateTunnels files).foldl (gatherTunnel sights gcStale) ([], files)

/-- The tunnels that somebody looks after. -/
def getTunnelInfo (sights : TunnelSights) (files : List Text) : List TunnelInfo × List Text :=
  gatherTunnelInfo sights files true

/-- A place where a daemon may be. The socket is a file of the socket directory. -/
structure DaemonProbe where
  host : Text
  socket : Text
  tunnel : Option (Text × Text)
  deriving DecidableEq

def localProbe : DaemonProbe :=
  { host := "local".toList, socket := resolveCtlPath "local".toList, tunnel := none }

def tunnelProbe (info : TunnelInfo) : DaemonProbe :=
  { host := info.name, socket := connectSidecarPath info.name SidecarKind.sock.ext,
    tunnel := some (info.destination, info.status) }

def socketProbe (host : Text) : DaemonProbe :=
  { host, socket := connectSidecarPath host SidecarKind.sock.ext, tunnel := none }

/-- One more endpoint, unless its host was seen. -/
def seeProbe (remote : List DaemonProbe) (probe : DaemonProbe) : List DaemonProbe :=
  if probe.host ∈ remote.map (·.host) then remote else remote ++ [probe]

/-- The endpoints: this machine first, then tunnels and left sockets by their names. -/
def discoverDaemonProbes (sights : TunnelSights) (files : List Text) : List DaemonProbe :=
  let (tunnels, left) := getTunnelInfo sights files
  let remote := (tunnels.map tunnelProbe ++ (left.filterMap ctlSocketTunnelName).map socketProbe).foldl
    seeProbe []
  (if resolveCtlPath "local".toList ∈ files then [localProbe] else []) ++
    remote.mergeSort fun first second => decide (first.host ≤ second.host)

/-- An endpoint and its answer: which daemon it is, and its sessions. -/
structure ProbedHost where
  host : Text
  tunnel : Option (Text × Text)
  outcome : Except String (UInt64 × List SessionEntry)

def isListable (probed : ProbedHost) : Bool :=
  probed.host = "local".toList || probed.tunnel.isSome ||
    match probed.outcome with
    | .ok _ => true
    | .error _ => false

/-! ### Sections -/

/-- Endpoints of one daemon, and its sessions. -/
structure HostGroup where
  members : List (Text × Option (Text × Text))
  result : Except String (List SessionEntry)

def ProbedHost.member (probed : ProbedHost) : Text × Option (Text × Text) :=
  (probed.host, probed.tunnel)

/-- One more member of the group of a daemon, if there is one. -/
def pushMember (serverId : UInt64) (member : Text × Option (Text × Text)) :
    List (Option UInt64 × HostGroup) → Option (List (Option UInt64 × HostGroup))
  | [] => none
  | (id, group) :: rest =>
    if id = some serverId then some ((id, { group with members := group.members ++ [member] }) :: rest)
    else (pushMember serverId member rest).map ((id, group) :: ·)

/-- An endpoint that answered goes with the others of its daemon, and any other stays alone. -/
def joinDaemon (keyed : List (Option UInt64 × HostGroup)) (probed : ProbedHost) :
    List (Option UInt64 × HostGroup) :=
  match probed.outcome with
  | .ok (serverId, sessions) =>
    (pushMember serverId probed.member keyed).getD
      (keyed ++ [(some serverId, { members := [probed.member], result := .ok sessions })])
  | .error error => keyed ++ [(none, { members := [probed.member], result := .error error })]

def groupByDaemon (probed : List ProbedHost) : List HostGroup :=
  (probed.foldl joinDaemon []).map Prod.snd

/-! ### Rows -/

/-- What stands before the first slash of a name. -/
def namespaceOf (name : String) : Option String :=
  (splitAtFirst '/' name.toList).map fun parts => String.ofList parts.1

/-- The session is shown as one of the viewer's own. -/
def isOwnRow (ambientClientName : String) (session : SessionEntry) : Bool :=
  ambientClientName ≠ "" && (ambientClientName.toList ++ ['/']).isPrefixOf session.name.toList

/-- What rows are sorted by: own ones first, those without a namespace last. -/
def rowKey (row : SessionEntry × Bool) : Bool ×ₗ Bool ×ₗ String :=
  toLex (!row.2, toLex ((namespaceOf row.1.name).isNone, (namespaceOf row.1.name).getD ""))

/-- The sessions in the order of their rows, each with whether it is the viewer's own. -/
def orderSessions (sessions : List SessionEntry) (ambientClientName : String) :
    List (SessionEntry × Bool) :=
  (sessions.map fun session => (session, isOwnRow ambientClientName session)).mergeSort
    fun first second => decide (rowKey first ≤ rowKey second)

/-- A section of the listing. -/
structure Section where
  members : List (Text × Option (Text × Text))
  rows : Except String (List (SessionEntry × Bool))

/-- The name that sessions of a group's host are shown for. -/
def HostGroup.clientName (config : ConfigFile) (hostname : String) (group : HostGroup) : String :=
  (config.resolveSession hostname
    (group.members.head?.map fun member => String.ofList member.1)).1.clientName

/-- The listing of what was probed. -/
def renderGroups (config : ConfigFile) (hostname : String) (groups : List HostGroup) : List Section :=
  groups.map fun group =>
    { members := group.members,
      rows := group.result.map fun sessions => orderSessions sessions (group.clientName config hostname) }

def listAllSessions (config : ConfigFile) (hostname : String) (probed : List ProbedHost) :
    List Section :=
  renderGroups config hostname (groupByDaemon (probed.filter isListable))

end Gritty
