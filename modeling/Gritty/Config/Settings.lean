import Gritty.Commands.DisplayNames
import Gritty.Commands.Durations
import Gritty.Link.ClampHeartbeat

/-! The configuration file: what it says by default, what it says of a host, and what comes of both. -/

namespace Gritty

/-- Why a value in the configuration is not used. -/
inductive LayerError where
  | duration (error : InvalidDuration)
  | zeroLinger
  | zeroAgentIdleTimeout
  deriving DecidableEq

/-- The word that turns a limit off, however it is capitalized. -/
def isNever (text : String) : Bool := text.toList.map Char.toLower == "never".toList

/-- How long a session is kept. Zero is for ever. -/
def parseLinger (text : String) : Except LayerError Nat :=
  if isNever text then .ok 0
  else match parseDuration text with
    | .error error => .error (.duration error)
    | .ok 0 => .error .zeroLinger
    | .ok secs => .ok secs

def parseAgentIdleTimeout (text : String) : Except LayerError (Option Nat) :=
  if isNever text then .ok none
  else match parseDuration text with
    | .error error => .error (.duration error)
    | .ok 0 => .error .zeroAgentIdleTimeout
    | .ok secs => .ok (some secs)

/-- A warning for the user of a configuration. -/
inductive ConfigWarning where
  | heartbeat (message : String)
  | ignored (key raw : String) (error : LayerError)
  | clientName (candidate reason : String)
  deriving DecidableEq

/-- What one layer says, and the warning if that is not used. -/
def parseLayer {α : Type} (key : String) (raw : Option String)
    (parse : String → Except LayerError α) : Option α × List ConfigWarning :=
  match raw with
  | none => (none, [])
  | some raw =>
    match parse raw with
    | .ok value => (some value, [])
    | .error error => (none, [.ignored key raw error])

structure TunnelDefaults where
  sshOptions : Option (List String)
  noServerStart : Option Bool
  isolateControlPath : Option Bool
  connectTimeout : Option Nat
  deriving DecidableEq

/-- What the file says by default, or of one host. -/
structure Defaults where
  forwardAgent : Option Bool
  agentIdleTimeout : Option String
  forwardOpen : Option Bool
  noEscape : Option Bool
  oauthRedirect : Option Bool
  oauthTimeout : Option Nat
  heartbeatInterval : Option Nat
  heartbeatTimeout : Option Nat
  ringBufferSize : Option Nat
  oauthTunnelIdleTimeout : Option Nat
  clientName : Option String
  linger : Option String
  lingerUnnamed : Option String
  aliases : Option (List String)
  tunnel : Option TunnelDefaults
  deriving DecidableEq

/-- A configuration. The hosts come in no particular order, each once. -/
structure ConfigFile where
  defaults : Defaults
  host : List (String × Defaults)
  once : (host.map Prod.fst).Nodup

structure SessionSettings where
  forwardAgent : Bool
  agentIdleTimeout : Option Nat
  forwardOpen : Bool
  noEscape : Bool
  oauthRedirect : Bool
  oauthTimeout : Nat
  heartbeat : Heartbeat
  ringBufferSize : Nat
  oauthTunnelIdleTimeout : Nat
  clientName : String
  linger : Nat
  lingerUnnamed : Nat
  deriving DecidableEq

structure TunnelSettings where
  session : SessionSettings
  sshOptions : List String
  noServerStart : Bool
  isolateControlPath : Bool
  connectTimeout : Nat
  deriving DecidableEq

/-- A name that sessions can be prefixed with, and the warning if it is not the one given. -/
def sanitizeClientName (candidate : String) : String × List ConfigWarning :=
  match validateClientName candidate with
  | .ok () => (candidate, [])
  | .error reason => ("unknown", [.clientName candidate reason])

namespace ConfigFile

/-- What the file says of a host. -/
def get (config : ConfigFile) (name : String) : Option Defaults := config.host.lookup name

/-- The more specific of two values, or the built-in one. -/
def pick {α : Type} (host default : Option α) (builtIn : α) : α := (host.or default).getD builtIn

variable (config : ConfigFile) (hostname : String)

/-- The settings of sessions on a host, or here, on a machine with a name, and what is warned of. -/
def resolveSessionInner (host : Option String) (warn : Bool) :
    SessionSettings × List ConfigWarning :=
  let d := config.defaults
  let h := host.bind config.get
  let rawInterval := pick (h.bind (·.heartbeatInterval)) d.heartbeatInterval 10
  let rawTimeout := pick (h.bind (·.heartbeatTimeout)) d.heartbeatTimeout 60
  let hLinger := parseLayer "linger" (h.bind (·.linger)) parseLinger
  let hUnnamed := parseLayer "linger-unnamed" (h.bind (·.lingerUnnamed)) parseLinger
  let dLinger := parseLayer "linger" d.linger parseLinger
  let dUnnamed := parseLayer "linger-unnamed" d.lingerUnnamed parseLinger
  let hAgentIdle :=
    parseLayer "agent-idle-timeout" (h.bind (·.agentIdleTimeout)) parseAgentIdleTimeout
  let dAgentIdle := parseLayer "agent-idle-timeout" d.agentIdleTimeout parseAgentIdleTimeout
  let warnings := (clampHeartbeat rawInterval rawTimeout).2.2.map .heartbeat ++ hLinger.2 ++
    hUnnamed.2 ++ dLinger.2 ++ dUnnamed.2 ++ hAgentIdle.2 ++ dAgentIdle.2
  let clientName := sanitizeClientName (pick (h.bind (·.clientName)) d.clientName hostname)
  ({
    forwardAgent := pick (h.bind (·.forwardAgent)) d.forwardAgent false
    agentIdleTimeout := pick hAgentIdle.1 dAgentIdle.1 none
    forwardOpen := pick (h.bind (·.forwardOpen)) d.forwardOpen true
    noEscape := pick (h.bind (·.noEscape)) d.noEscape false
    oauthRedirect := pick (h.bind (·.oauthRedirect)) d.oauthRedirect true
    oauthTimeout := pick (h.bind (·.oauthTimeout)) d.oauthTimeout 180
    heartbeat := resolveHeartbeat rawInterval rawTimeout
    ringBufferSize := pick (h.bind (·.ringBufferSize)) d.ringBufferSize (2 ^ 20)
    oauthTunnelIdleTimeout :=
      pick (h.bind (·.oauthTunnelIdleTimeout)) d.oauthTunnelIdleTimeout 5
    clientName := clientName.1
    linger := pick hLinger.1 dLinger.1 0
    -- What a host says of all its sessions counts before what is said of unnamed ones elsewhere.
    lingerUnnamed := pick (hUnnamed.1.or hLinger.1) (dUnnamed.1.or dLinger.1) 0 },
   -- A name that is not used is told of in any case.
   (if warn then warnings else []) ++ clientName.2)

/-- The settings of sessions, all warnings told. -/
def resolveSession (host : Option String) : SessionSettings × List ConfigWarning :=
  config.resolveSessionInner hostname host true

/-- The settings of the tunnel to a host, and what is warned of. -/
def resolveTunnel (host : String) : TunnelSettings × List ConfigWarning :=
  let dc := config.defaults.tunnel
  let hc := (config.get host).bind (·.tunnel)
  let session := config.resolveSessionInner hostname (some host) false
  ({
    session := session.1
    -- What comes first counts.
    sshOptions := (hc.bind (·.sshOptions)).getD [] ++ (dc.bind (·.sshOptions)).getD []
    noServerStart := pick (hc.bind (·.noServerStart)) (dc.bind (·.noServerStart)) false
    isolateControlPath :=
      pick (hc.bind (·.isolateControlPath)) (dc.bind (·.isolateControlPath)) true
    connectTimeout := pick (hc.bind (·.connectTimeout)) (dc.bind (·.connectTimeout)) 30 },
   session.2)

/-- The hosts that claim a name as another name of theirs. -/
def owners (typed : String) : List String :=
  (config.host.filter fun entry => (entry.2.aliases.getD []).contains typed).map Prod.fst

/-- The host that a typed name stands for. -/
def canonicalHost (typed : String) : String :=
  if typed = "local" ∨ (config.get typed).isSome then typed
  else match config.owners typed with
    | [name] => name
    | _ => typed

/-- Where a host is reached that no tunnel was made to before. -/
def aliasDestination (host : String) : Option String :=
  (config.get host).bind fun entry => entry.aliases.bind List.head?

end ConfigFile

end Gritty
