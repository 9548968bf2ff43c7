import Gritty.Lib.Chronicle
import Gritty.Lib.Transition
import Gritty.Link.Heartbeat

/-! The supervisor of a tunnel: it watches its ssh child, probes the tunnel through it, and respawns it. -/

namespace Gritty

/-- A millisecond, in nanoseconds. -/
def millisecond : Nat := 1000000

def minRespawnBackoff : Nat := 1 * second
def maxRespawnBackoff : Nat := 60 * second
def healthyChildThreshold : Nat := 30 * second
def probeInterval : Nat := 30 * second
def probeFailuresBeforeRespawn : Nat := 2
def netProbeDebounce : Nat := 500 * millisecond
def spawnGrace : Nat := 5 * second
def suspendJumpThreshold : Nat := 5 * second
def suspendPoll : Nat := 2 * second
def skipEnsureRemoteThreshold : Nat := 60 * second

/-- A tick of an interval may be this late and still keep to the interval's times. -/
def tickTolerance : Nat := 5 * millisecond

/-- When the next tick of an interval is due after one that fires now, under the delay behaviour. -/
def nextTick (due now period : Nat) : Nat :=
  if due + tickTolerance < now then now + period else due + period

/-- Whether a probe tick kills ssh so that it is respawned. -/
def respawnNow (socketFileExists : Bool) (consecutiveFailures : Nat) : Bool :=
  !socketFileExists || probeFailuresBeforeRespawn ≤ consecutiveFailures

/-- The retry policy for an exit of ssh. -/
inductive ExitClass where
  | transient
  | nonTransient
  deriving DecidableEq

/-- No code is a death by a local signal. -/
def classifyExit : Option Nat → ExitClass
  | none => .transient
  | some code => if code = 255 ∨ 128 ≤ code ∧ code ≤ 159 then .transient else .nonTransient

/-- How long to wait before a respawn, given the last backoff and how long the dead child was up. -/
def respawnSleep (prev priorUptime : Nat) : Nat :=
  if healthyChildThreshold ≤ priorUptime then minRespawnBackoff else prev

/-- The machine was suspended: the wall clock has gone further than the monotonic one. -/
def suspendJump (mono wall : Nat) : Bool := mono + suspendJumpThreshold < wall

/-- The next backoff, between the least and the greatest. -/
def doubleBackoff (cur : Nat) : Nat := min (max cur minRespawnBackoff * 2) maxRespawnBackoff

/-- What the operating system says about the network path. -/
inductive PathStatus where
  | unknown
  | satisfied
  | unsatisfied
  deriving DecidableEq

/-- A supervised ssh child. -/
structure ChildState where
  spawnedAt : Nat
  spawnedAtWall : Nat
  probeFailures : Nat
  deriving DecidableEq

namespace ChildState

def new (now wall : Nat) : ChildState where
  spawnedAt := now
  spawnedAtWall := wall
  probeFailures := 0

def uptime (child : ChildState) (now : Nat) : Nat := now - child.spawnedAt

/-- The child has had the time to bind its socket. -/
def pastSpawnGrace (child : ChildState) (now : Nat) : Bool := spawnGrace ≤ child.uptime now

end ChildState

/-- What the supervisor remembers from one child to the next. -/
structure MonitorState where
  remoteSock : String
  backoff : Nat
  /-- When the remote daemon was last seen alive, on the wall clock. -/
  lastHealthy : Option Nat
  /-- When the armed probe of a changed network path is due. -/
  netProbeAt : Option Nat
  /-- The supervisor killed the child itself. -/
  weKilled : Bool
  /-- The path was reported unsatisfied since the last successful probe. -/
  sawUnsatisfied : Bool
  deriving DecidableEq

/-- Why a wait for the next respawn ended. -/
inductive WaitOutcome where
  | elapsed
  | wake
  | kicked
  | netRecovered
  | cancelled
  deriving DecidableEq

/-- One episode of respawning. -/
structure Respawn where
  sleep : Nat
  skipWait : Bool
  sawUnsatisfied : Bool
  deriving DecidableEq

/-- A wait for the next respawn. Its deadline is fixed when it starts. -/
structure BackoffWait where
  deadline : Nat
  wallAnchor : Nat
  monoAnchor : Nat
  /-- When the next look for a kick or a suspension is due. -/
  pollAt : Nat
  deriving DecidableEq

/-- Where the supervisor is. -/
inductive MonitorPhase where
  /-- At its main loop. -/
  | watching (child : ChildState)
  /-- Within a probe, after a changed path or at a tick. -/
  | probing (child : ChildState) (debounced : Bool)
  /-- At the head of the respawn loop. -/
  | respawning (respawn : Respawn)
  | waiting (respawn : Respawn) (wait : BackoffWait)
  /-- Before the remote is made ready. -/
  | attempting (sawUnsatisfied : Bool)
  /-- Before ssh is spawned. -/
  | spawning (sawUnsatisfied : Bool)
  | exited
  deriving DecidableEq

/-- Why the supervisor killed a child. -/
inductive KillReason where
  | shutdown
  | lockLost
  | tick (socketFileExists : Bool)
  | pathProbe
  deriving DecidableEq

/-- What the supervisor and the world around it went through. -/
inductive MonitorNote where
  | spawned
  | path (status : PathStatus)
  | probed (debounced alive : Bool)
  | killed (uptime : Nat) (reason : KillReason)
  | died (uptime : Nat)
  /-- An attempt to respawn, with the end of the wait before it, if there was one, and the backoff after it. -/
  | attempted (waited : Option WaitOutcome) (backoff : Nat)
  deriving DecidableEq

/-- A supervisor, with its clocks. -/
structure TunnelMonitor where
  now : Nat
  wall : Nat
  /-- When the next probe tick is due. -/
  tickAt : Nat
  cancelled : Bool
  ms : MonitorState
  phase : MonitorPhase
  /-- What has happened, newest first. -/
  history : List MonitorNote
  deriving DecidableEq

/-- What happens at a supervisor. -/
inductive MonitorAction where
  /-- Time passes, and the wall clock shows anything. -/
  | pass (elapsed wall : Nat)
  /-- A shutdown is requested. -/
  | cancel
  | stopped
  | netChanged (status : PathStatus)
  | netProbe
  | probeTick (owned socketFileExists : Bool)
  /-- A probe ends. -/
  | probed (alive : Bool)
  | childExits (code : Option Nat)
  /-- The respawn loop starts a turn. -/
  | turn (owned : Bool)
  | waitElapsed
  | waitPoll (kick : Bool)
  | waitNetChanged (status : PathStatus)
  | waitCancelled
  /-- The remote is made ready, at the path given, or is not. -/
  | ensureRemote (result : Option String)
  | spawnTunnel (spawns : Bool)
  deriving DecidableEq

namespace TunnelMonitor

/-- A supervisor that has just got its child. -/
def start (wall : Nat) (remoteSock : String) : TunnelMonitor where
  now := 0
  wall
  tickAt := probeInterval
  cancelled := false
  ms :=
    { remoteSock
      backoff := minRespawnBackoff
      lastHealthy := if remoteSock = "" then none else some wall
      netProbeAt := none
      weKilled := false
      sawUnsatisfied := false }
  phase := .watching (.new 0 wall)
  history := [.spawned]

def note (monitor : TunnelMonitor) (entry : MonitorNote) : TunnelMonitor :=
  { monitor with history := entry :: monitor.history }

/-- The child is killed. Its exit is seen later. -/
def kill (monitor : TunnelMonitor) (child : ChildState) (reason : KillReason) : TunnelMonitor :=
  monitor.note (.killed (child.uptime monitor.now) reason)

/-- The supervisor kills the child so that it is respawned. -/
def killToRespawn (monitor : TunnelMonitor) (child : ChildState) (reason : KillReason) :
    TunnelMonitor :=
  { monitor.kill child reason with
    ms := { monitor.ms with weKilled := true }
    phase := .watching child }

/-- The operating system reports a change of the network path: a probe is armed. -/
def netChanged (monitor : TunnelMonitor) (status : PathStatus) : TunnelMonitor :=
  { monitor.note (.path status) with
    ms := { monitor.ms with
      sawUnsatisfied := status = .unsatisfied || monitor.ms.sawUnsatisfied
      netProbeAt := some (monitor.now + netProbeDebounce) } }

/-- The armed probe is due. A path that was never unsatisfied is not probed. -/
def netProbe (monitor : TunnelMonitor) (child : ChildState) : TunnelMonitor :=
  let ms := { monitor.ms with netProbeAt := none }
  if ms.sawUnsatisfied then { monitor with ms, phase := .probing child true }
  else { monitor with ms }

/-- A probe tick: whoever lost the lock exits, and a tunnel without its socket file is not probed. -/
def probeTick (monitor : TunnelMonitor) (child : ChildState) (owned socketFileExists : Bool) :
    TunnelMonitor :=
  let monitor :=
    { monitor with tickAt := nextTick monitor.tickAt monitor.now probeInterval }
  if !owned then { monitor.kill child .lockLost with phase := .exited }
  else if !socketFileExists then
    if respawnNow socketFileExists child.probeFailures then
      monitor.killToRespawn child (.tick socketFileExists)
    else monitor
  else { monitor with phase := .probing child false }

/-- A tick that finds the lock lost ends the tunnel. -/
theorem probeTick_lost (monitor : TunnelMonitor) (child : ChildState) (socketFileExists : Bool) :
    monitor.probeTick child false socketFileExists =
      { { monitor with tickAt := nextTick monitor.tickAt monitor.now probeInterval }.kill child
        .lockLost with phase := .exited } := rfl

/-- A tick that finds the socket gone kills the child for a respawn. -/
theorem probeTick_gone (monitor : TunnelMonitor) (child : ChildState) :
    monitor.probeTick child true false =
      { monitor with tickAt := nextTick monitor.tickAt monitor.now probeInterval }.killToRespawn
        child (.tick false) := rfl

/-- A tick that finds lock and socket probes the child. -/
theorem probeTick_there (monitor : TunnelMonitor) (child : ChildState) :
    monitor.probeTick child true true =
      { monitor with
        tickAt := nextTick monitor.tickAt monitor.now probeInterval
        phase := .probing child false } := rfl

/-- The tunnel was seen alive. -/
def healthy (monitor : TunnelMonitor) (child : ChildState) : TunnelMonitor :=
  { monitor with
    ms := { monitor.ms with lastHealthy := some monitor.wall, sawUnsatisfied := false }
    phase := .watching { child with probeFailures := 0 } }

/-- A probe after a changed path ends. One failure is enough, if the child had time to start. -/
def netProbed (monitor : TunnelMonitor) (child : ChildState) (alive : Bool) : TunnelMonitor :=
  let monitor := monitor.note (.probed true alive)
  if alive then monitor.healthy child
  else if child.pastSpawnGrace monitor.now then monitor.killToRespawn child .pathProbe
  else { monitor with phase := .watching child }

/-- A probe at a tick ends. -/
def tickProbed (monitor : TunnelMonitor) (child : ChildState) (alive : Bool) : TunnelMonitor :=
  let monitor := monitor.note (.probed false alive)
  let child := { child with probeFailures := if alive then 0 else child.probeFailures + 1 }
  let monitor := if alive then monitor.healthy child else { monitor with phase := .watching child }
  if respawnNow true child.probeFailures then monitor.killToRespawn child (.tick true)
  else monitor

/-- How long the dead child was up on the wall clock. -/
def diedWall (monitor : TunnelMonitor) (child : ChildState) : Nat :=
  if child.spawnedAtWall ≤ monitor.wall then monitor.wall - child.spawnedAtWall
  else child.uptime monitor.now

/-- The respawn loop is entered. A child that the supervisor killed is respawned without a wait. -/
def respawnTunnel (monitor : TunnelMonitor) (diedUptime : Nat) (wokeFromSuspend : Bool) :
    TunnelMonitor :=
  let sleep := if monitor.ms.weKilled then 0 else respawnSleep monitor.ms.backoff diedUptime
  { monitor with
    ms := { monitor.ms with weKilled := false }
    phase := .respawning
      { sleep, skipWait := wokeFromSuspend && sleep ≠ 0, sawUnsatisfied := false } }

/-- The child has exited. -/
def childExits (monitor : TunnelMonitor) (child : ChildState) (code : Option Nat) :
    TunnelMonitor :=
  if monitor.cancelled then { monitor with phase := .exited }
  else
    let monitor := { monitor with ms := { monitor.ms with sawUnsatisfied := false } }
    match classifyExit code with
    | .nonTransient => { monitor with phase := .exited }
    | .transient =>
      let diedUptime := child.uptime monitor.now
      let woke := suspendJump diedUptime (monitor.diedWall child)
      (monitor.note (.died diedUptime)).respawnTunnel diedUptime woke

/-- The backoff advances, and another attempt is made. -/
def attempt (monitor : TunnelMonitor) (respawn : Respawn) (waited : Option WaitOutcome) :
    TunnelMonitor :=
  { monitor.note (.attempted waited (doubleBackoff respawn.sleep)) with
    ms := { monitor.ms with backoff := doubleBackoff respawn.sleep }
    phase := .attempting respawn.sawUnsatisfied }

/-- A turn of the respawn loop. -/
def turn (monitor : TunnelMonitor) (respawn : Respawn) (owned : Bool) : TunnelMonitor :=
  if !owned then { monitor with phase := .exited }
  else if respawn.skipWait then monitor.attempt respawn none
  else
    { monitor with
      phase := .waiting respawn
        { deadline := monitor.now + respawn.sleep
          wallAnchor := monitor.wall
          monoAnchor := monitor.now
          pollAt := monitor.now + suspendPoll } }

/-- A wait has ended. Only a recovered network starts the climb anew. -/
def waited (monitor : TunnelMonitor) (respawn : Respawn) : WaitOutcome → TunnelMonitor
  | .cancelled => { monitor with phase := .exited }
  | .netRecovered =>
    monitor.attempt { respawn with sleep := minRespawnBackoff } (some .netRecovered)
  | .elapsed => monitor.attempt respawn (some .elapsed)
  | .wake => monitor.attempt respawn (some .wake)
  | .kicked => monitor.attempt respawn (some .kicked)

/-- The look for a kick or a suspension within a wait. -/
def waitPoll (monitor : TunnelMonitor) (respawn : Respawn) (wait : BackoffWait) (kick : Bool) :
    TunnelMonitor :=
  if kick then monitor.waited respawn .kicked
  else if suspendJump (monitor.now - wait.monoAnchor) (monitor.wall - wait.wallAnchor) then
    monitor.waited respawn .wake
  else { monitor with phase := .waiting respawn { wait with pollAt := monitor.now + suspendPoll } }

/-- A change of the network path within a wait. Only a recovery ends the wait. -/
def waitNetChanged (monitor : TunnelMonitor) (respawn : Respawn) (wait : BackoffWait)
    (status : PathStatus) : TunnelMonitor :=
  let monitor := monitor.note (.path status)
  let wait := { wait with pollAt := monitor.now + suspendPoll }
  if status = .unsatisfied then
    { monitor with phase := .waiting { respawn with sawUnsatisfied := true } wait }
  else if respawn.sawUnsatisfied then
    monitor.waited { respawn with sawUnsatisfied := false } .netRecovered
  else { monitor with phase := .waiting respawn wait }

/-- An attempt has failed: the loop goes on with the backoff as its sleep. -/
def retry (monitor : TunnelMonitor) (sawUnsatisfied : Bool) : TunnelMonitor :=
  { monitor with
    phase := .respawning { sleep := monitor.ms.backoff, skipWait := false, sawUnsatisfied } }

/-- The remote was seen alive less than a minute ago. -/
def recentlyHealthy (ms : MonitorState) (wall : Nat) : Bool :=
  match ms.lastHealthy with
  | some seen => wall - seen < skipEnsureRemoteThreshold
  | none => false

/-- The remote is made ready, unless it was just seen alive. -/
def ensureRemote (monitor : TunnelMonitor) (sawUnsatisfied : Bool) (result : Option String) :
    TunnelMonitor :=
  if recentlyHealthy monitor.ms monitor.wall && monitor.ms.remoteSock ≠ "" then
    { monitor with phase := .spawning sawUnsatisfied }
  else
    match result with
    | some sock =>
      { monitor with
        ms := { monitor.ms with remoteSock := sock }
        phase := .spawning sawUnsatisfied }
    | none => monitor.retry sawUnsatisfied

/-- A new child, unless it cannot be spawned. No forward is built to a path that is not absolute. -/
def spawnTunnel (monitor : TunnelMonitor) (sawUnsatisfied spawns : Bool) : TunnelMonitor :=
  if monitor.ms.remoteSock.startsWith '/' && spawns then
    { monitor.note .spawned with
      ms := { monitor.ms with netProbeAt := none }
      phase := .watching (.new monitor.now monitor.wall) }
  else monitor.retry sawUnsatisfied

/-- One action. Nothing fires before it is due. -/
def step (monitor : TunnelMonitor) : MonitorAction → Option TunnelMonitor
  | .pass elapsed wall => some { monitor with now := monitor.now + elapsed, wall }
  | .cancel => some { monitor with cancelled := true }
  | .stopped =>
    match monitor.phase with
    | .watching child =>
      if monitor.cancelled then some { monitor.kill child .shutdown with phase := .exited }
      else none
    | _ => none
  | .netChanged status =>
    match monitor.phase with
    | .watching _ => some (monitor.netChanged status)
    | _ => none
  | .netProbe =>
    match monitor.phase, monitor.ms.netProbeAt with
    | .watching child, some due => if due ≤ monitor.now then some (monitor.netProbe child) else none
    | _, _ => none
  | .probeTick owned socketFileExists =>
    match monitor.phase with
    | .watching child =>
      if monitor.tickAt ≤ monitor.now then some (monitor.probeTick child owned socketFileExists)
      else none
    | _ => none
  | .probed alive =>
    match monitor.phase with
    | .probing child true => some (monitor.netProbed child alive)
    | .probing child false => some (monitor.tickProbed child alive)
    | _ => none
  | .childExits code =>
    match monitor.phase with
    | .watching child => some (monitor.childExits child code)
    | _ => none
  | .turn owned =>
    match monitor.phase with
    | .respawning respawn => some (monitor.turn respawn owned)
    | _ => none
  | .waitElapsed =>
    match monitor.phase with
    | .waiting respawn wait =>
      if wait.deadline ≤ monitor.now then some (monitor.waited respawn .elapsed) else none
    | _ => none
  | .waitPoll kick =>
    match monitor.phase with
    | .waiting respawn wait =>
      if wait.pollAt ≤ monitor.now then some (monitor.waitPoll respawn wait kick) else none
    | _ => none
  | .waitNetChanged status =>
    match monitor.phase with
    | .waiting respawn wait => some (monitor.waitNetChanged respawn wait status)
    | _ => none
  | .waitCancelled =>
    match monitor.phase with
    | .waiting respawn _ =>
      if monitor.cancelled then some (monitor.waited respawn .cancelled) else none
    | _ => none
  | .ensureRemote result =>
    match monitor.phase with
    | .attempting sawUnsatisfied => some (monitor.ensureRemote sawUnsatisfied result)
    | _ => none
  | .spawnTunnel spawns =>
    match monitor.phase with
    | .spawning sawUnsatisfied => some (monitor.spawnTunnel sawUnsatisfied spawns)
    | _ => none

/-- What each action does where it can be taken. -/
inductive Stepped (monitor : TunnelMonitor) : MonitorAction → TunnelMonitor → Prop where
  | pass (elapsed wall : Nat) :
    Stepped monitor (.pass elapsed wall) { monitor with now := monitor.now + elapsed, wall }
  | cancel : Stepped monitor .cancel { monitor with cancelled := true }
  | stopped (child : ChildState) (here : monitor.phase = .watching child) :
    Stepped monitor .stopped { monitor.kill child .shutdown with phase := .exited }
  | netChanged (child : ChildState) (status : PathStatus)
      (here : monitor.phase = .watching child) :
    Stepped monitor (.netChanged status) (monitor.netChanged status)
  | netProbe (child : ChildState) (here : monitor.phase = .watching child) :
    Stepped monitor .netProbe (monitor.netProbe child)
  | probeTick (child : ChildState) (owned socketFileExists : Bool)
      (here : monitor.phase = .watching child) (due : monitor.tickAt ≤ monitor.now) :
    Stepped monitor (.probeTick owned socketFileExists)
      (monitor.probeTick child owned socketFileExists)
  | netProbed (child : ChildState) (alive : Bool) (here : monitor.phase = .probing child true) :
    Stepped monitor (.probed alive) (monitor.netProbed child alive)
  | tickProbed (child : ChildState) (alive : Bool) (here : monitor.phase = .probing child false) :
    Stepped monitor (.probed alive) (monitor.tickProbed child alive)
  | childExits (child : ChildState) (code : Option Nat)
      (here : monitor.phase = .watching child) :
    Stepped monitor (.childExits code) (monitor.childExits child code)
  | turn (respawn : Respawn) (owned : Bool) (here : monitor.phase = .respawning respawn) :
    Stepped monitor (.turn owned) (monitor.turn respawn owned)
  | waitElapsed (respawn : Respawn) (wait : BackoffWait)
      (here : monitor.phase = .waiting respawn wait) :
    Stepped monitor .waitElapsed (monitor.waited respawn .elapsed)
  | waitPoll (respawn : Respawn) (wait : BackoffWait) (kick : Bool)
      (here : monitor.phase = .waiting respawn wait) :
    Stepped monitor (.waitPoll kick) (monitor.waitPoll respawn wait kick)
  | waitNetChanged (respawn : Respawn) (wait : BackoffWait) (status : PathStatus)
      (here : monitor.phase = .waiting respawn wait) :
    Stepped monitor (.waitNetChanged status) (monitor.waitNetChanged respawn wait status)
  | waitCancelled (respawn : Respawn) (wait : BackoffWait)
      (here : monitor.phase = .waiting respawn wait) :
    Stepped monitor .waitCancelled (monitor.waited respawn .cancelled)
  | ensureRemote (sawUnsatisfied : Bool) (result : Option String)
      (here : monitor.phase = .attempting sawUnsatisfied) :
    Stepped monitor (.ensureRemote result) (monitor.ensureRemote sawUnsatisfied result)
  | spawnTunnel (sawUnsatisfied spawns : Bool) (here : monitor.phase = .spawning sawUnsatisfied) :
    Stepped monitor (.spawnTunnel spawns) (monitor.spawnTunnel sawUnsatisfied spawns)

/-- Every step is one of these. -/
theorem stepped_of_step {monitor next : TunnelMonitor} {action : MonitorAction}
    (stepped : monitor.step action = some next) : Stepped monitor action next := by
  cases action with
  | pass elapsed wall => exact Option.some.inj stepped ▸ .pass elapsed wall
  | cancel => exact Option.some.inj stepped ▸ .cancel
  | stopped =>
    simp only [step] at stepped
    split at stepped
    · next child here =>
      split at stepped
      · exact Option.some.inj stepped ▸ .stopped child here
      · simp at stepped
    · simp at stepped
  | netChanged status =>
    simp only [step] at stepped
    split at stepped
    · next child here => exact Option.some.inj stepped ▸ .netChanged child status here
    · simp at stepped
  | netProbe =>
    simp only [step] at stepped
    split at stepped
    · next child due here armed =>
      split at stepped
      · exact Option.some.inj stepped ▸ .netProbe child here
      · simp at stepped
    · simp at stepped
  | probeTick owned socketFileExists =>
    simp only [step] at stepped
    split at stepped
    · next child here =>
      split at stepped
      · next due => exact Option.some.inj stepped ▸ .probeTick child owned socketFileExists here due
      · simp at stepped
    · simp at stepped
  | probed alive =>
    simp only [step] at stepped
    split at stepped
    · next child here => exact Option.some.inj stepped ▸ .netProbed child alive here
    · next child here => exact Option.some.inj stepped ▸ .tickProbed child alive here
    · simp at stepped
  | childExits code =>
    simp only [step] at stepped
    split at stepped
    · next child here => exact Option.some.inj stepped ▸ .childExits child code here
    · simp at stepped
  | turn owned =>
    simp only [step] at stepped
    split at stepped
    · next respawn here => exact Option.some.inj stepped ▸ .turn respawn owned here
    · simp at stepped
  | waitElapsed =>
    simp only [step] at stepped
    split at stepped
    · next respawn wait here =>
      split at stepped
      · exact Option.some.inj stepped ▸ .waitElapsed respawn wait here
      · simp at stepped
    · simp at stepped
  | waitPoll kick =>
    simp only [step] at stepped
    split at stepped
    · next respawn wait here =>
      split at stepped
      · exact Option.some.inj stepped ▸ .waitPoll respawn wait kick here
      · simp at stepped
    · simp at stepped
  | waitNetChanged status =>
    simp only [step] at stepped
    split at stepped
    · next respawn wait here =>
      exact Option.some.inj stepped ▸ .waitNetChanged respawn wait status here
    · simp at stepped
  | waitCancelled =>
    simp only [step] at stepped
    split at stepped
    · next respawn wait here =>
      split at stepped
      · exact Option.some.inj stepped ▸ .waitCancelled respawn wait here
      · simp at stepped
    · simp at stepped
  | ensureRemote result =>
    simp only [step] at stepped
    split at stepped
    · next sawUnsatisfied here =>
      exact Option.some.inj stepped ▸ .ensureRemote sawUnsatisfied result here
    · simp at stepped
  | spawnTunnel spawns =>
    simp only [step] at stepped
    split at stepped
    · next sawUnsatisfied here =>
      exact Option.some.inj stepped ▸ .spawnTunnel sawUnsatisfied spawns here
    · simp at stepped

end TunnelMonitor

/-- The supervisor of a tunnel as a state machine. -/
def tunnelMonitor (wall : Nat) (remoteSock : String) : Machine TunnelMonitor MonitorAction where
  init := .start wall remoteSock
  step := TunnelMonitor.step

end Gritty
