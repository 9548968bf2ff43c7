import Gritty.Lib.Transition
import Gritty.Lib.Streak
import Gritty.Link.Heartbeat
import Gritty.Protocol.Frame

/-! The interactive client's reconnect loop, one pass at a time, with its backoff and its two persistence gates. -/

namespace Gritty

/-- The delay that the backoff schedule starts with. -/
def reconnectBackoffInitial : Nat := 1 * second

/-- The delay that the backoff schedule stops at. -/
def reconnectBackoffMax : Nat := 10 * second

/-- How long a missing socket without a supervisor has to last. -/
def socketGoneGrace : Nat := 3 * second

/-- How long a refusing socket without a supervisor has to last. -/
def daemonGoneGrace : Nat := 5 * second

/-- How long an outage stays invisible, and keys stay input. -/
def reconnectChromeDelay : Nat := 1 * second

/-- The next delay of the backoff schedule. -/
def nextReconnectDelay (prev : Nat) : Nat :=
  if prev < reconnectBackoffInitial then reconnectBackoffInitial
  else min (prev * 2) reconnectBackoffMax

/-- How long a condition that looks final has persisted. -/
structure PersistenceGate where
  grace : Nat
  since : Option Nat
  deriving DecidableEq

namespace PersistenceGate

/-- A gate that has seen nothing. -/
def new (grace : Nat) : PersistenceGate := { grace, since := none }

/-- The gate after an observation, and whether the condition has persisted for its grace. -/
def exceeded (gate : PersistenceGate) (present : Bool) (now : Nat) : Bool × PersistenceGate :=
  if !present then (false, { gate with since := none })
  else
    let since := gate.since.getD now
    (gate.grace ≤ now - since, { gate with since := some since })

/-- The gate forgets what it saw. -/
def reset (gate : PersistenceGate) : PersistenceGate := { gate with since := none }

/-- How long the condition has persisted, if it was seen last. -/
def streak (gate : PersistenceGate) (now : Nat) : Option Nat := gate.since.map (now - ·)

/-- The time left until the gate is exceeded, if the condition was seen last. -/
def remaining (gate : PersistenceGate) (now : Nat) : Option Nat :=
  (gate.streak now).map (gate.grace - ·)

end PersistenceGate

/-- The delay that is slept: no longer than any gate that has seen its condition needs. -/
def capBackoff (sleepFor : Nat) (gates : List PersistenceGate) (now : Nat) : Nat :=
  (gates.filterMap (·.remaining now)).foldl min sleepFor

/-- How the client's attempt to reconnect ended. -/
inductive Attempt where
  | connected
  | sessionGone (message : String)
  | serverRestarted
  | ownerChanged
  | versionMismatch
  | handshakeErr (message : String)
  | daemonGone
  | retry
  deriving DecidableEq

/-- What the attempt's Attach was answered with. -/
inductive AttachReply where
  | attachAck
  | error (code : ErrorCode) (message : String)
  /-- It could not be sent, or no frame or another frame came back. -/
  | other
  deriving DecidableEq

/-- What an attempt runs into. -/
inductive Probe where
  | connectErr (refused : Bool)
  | handshakeErr (message : String)
  | handshake (sameServer sameVersion : Bool) (reply : AttachReply)
  /-- The attempt's time is up. -/
  | timeout
  deriving DecidableEq

/-- How an attempt ends, unless its time is up. -/
def Probe.attempt (tunnelSupervisorAlive : Bool) : Probe → Option Attempt
  | .connectErr refused => some (if refused && !tunnelSupervisorAlive then .daemonGone else .retry)
  | .handshakeErr message => some (.handshakeErr message)
  | .handshake sameServer sameVersion reply =>
    if !sameServer then some .serverRestarted
    else if !sameVersion then some .versionMismatch
    else
      match reply with
      | .attachAck => some .connected
      | .error .alreadyAttached _ => some .retry
      | .error .ownerChanged _ => some .ownerChanged
      | .error _ message => some (.sessionGone message)
      | .other => some .retry
  | .timeout => none

/-- Whether a handshake error ends the loop. -/
def isTerminalHandshakeErr (message : String) (tunnelSupervisorAlive : Bool) : Bool :=
  if message.startsWith "handshake rejected" then true
  else if tunnelSupervisorAlive then false
  else message.startsWith "daemon closed connection" || message.startsWith "daemon protocol error"

/-- What ends the wait of a pass. -/
inductive Wake where
  | timer
  /-- The network path changed. -/
  | netChanged
  | signal
  /-- A key was pressed, and not the one that quits. -/
  | key
  /-- The key that quits was pressed, or the input has ended. -/
  | quit
  deriving DecidableEq

/-- Everything a pass of the loop observes, and when. -/
structure PassInput where
  /-- When the wait is computed. -/
  top : Nat
  /-- When the wait ends. -/
  woken : Nat
  /-- When the socket is looked for. -/
  checked : Nat
  /-- When the attempt ends. -/
  ended : Nat
  wake : Wake
  /-- The operating system says that there is no route. -/
  unsatisfied : Bool
  lockHeld : Bool
  socketExists : Bool
  probe : Probe
  deriving DecidableEq

/-- How the reconnect loop ends. -/
inductive ReconnectExit where
  | interrupted
  | socketGone
  | daemonGone
  | connected
  | bailed (attempt : Attempt)
  deriving DecidableEq

/-- What a pass came to. -/
inductive PassOutcome where
  | interrupted
  | parked
  | socketGone
  /-- The attempt found a refusing socket and no supervisor. -/
  | daemonGone
  | attempted
  deriving DecidableEq

/-- A pass that is over: when it came to its outcome, and the wait before it. -/
structure PassRecord where
  time : Nat
  wait : Nat
  wake : Wake
  outcome : PassOutcome
  /-- The pass ended the loop. -/
  exits : Bool
  deriving DecidableEq

/-- The state of the reconnect loop at its top. -/
structure ReconnectLoop where
  now : Nat
  reconnectStarted : Nat
  socketGone : PersistenceGate
  daemonGone : PersistenceGate
  backoff : Nat
  wasOffline : Bool
  exit : Option ReconnectExit
  /-- The passes so far, newest first. -/
  log : List PassRecord
  deriving DecidableEq

namespace PassInput

/-- The wait ends with the loop. -/
def interrupts (input : PassInput) : Bool := input.wake = .signal ∨ input.wake = .quit

/-- A tunnel's supervisor holds its lock. -/
def tunnelSupervisorAlive (isRemote : Bool) (input : PassInput) : Bool := isRemote && input.lockHeld

/-- There is no route to the tunnel's host. -/
def offlineNow (isRemote : Bool) (input : PassInput) : Bool := isRemote && input.unsatisfied

/-- The pass goes back to the top for want of a route. -/
def parks (isRemote : Bool) (input : PassInput) : Bool :=
  !input.interrupts && input.offlineNow isRemote && input.wake ≠ .key

/-- The socket is missing, and nobody is bringing it back. -/
def socketGoneNow (isRemote : Bool) (input : PassInput) : Bool :=
  !input.socketExists && !input.tunnelSupervisorAlive isRemote

/-- The pass gets to look for the socket, and does not find it. -/
def findsSocketGone (isRemote : Bool) (input : PassInput) : Bool :=
  !input.interrupts && !input.parks isRemote && input.socketGoneNow isRemote

end PassInput

namespace ReconnectLoop

/-- The loop as it is entered. -/
def new (now : Nat) : ReconnectLoop where
  now
  reconnectStarted := now
  socketGone := .new socketGoneGrace
  daemonGone := .new daemonGoneGrace
  backoff := 0
  wasOffline := false
  exit := none
  log := []

/-- How long the pass that starts now sleeps. -/
def wait (state : ReconnectLoop) (top : Nat) : Nat :=
  capBackoff (nextReconnectDelay state.backoff) [state.socketGone, state.daemonGone] top

/-- The pass is over, with an outcome at a time. -/
def finish (state : ReconnectLoop) (input : PassInput) (wait time : Nat) (outcome : PassOutcome)
    (exit : Option ReconnectExit) : ReconnectLoop :=
  { state with
    now := time
    exit
    log := { time, wait, wake := input.wake, outcome, exits := exit.isSome } :: state.log }

/-- The path status and the backoff, for a pass that does not park. -/
def schedule (isRemote : Bool) (state : ReconnectLoop) (input : PassInput) : ReconnectLoop :=
  let sleepFor := nextReconnectDelay state.backoff
  let resumed := !input.offlineNow isRemote && state.wasOffline
  { state with
    wasOffline := if resumed then false else state.wasOffline
    reconnectStarted := if resumed then input.woken else state.reconnectStarted
    backoff :=
      if input.wake = .netChanged || resumed then 0
      else if input.wake = .key then state.backoff else sleepFor }

/-- An attempt that may go better the next time. -/
def retry (isRemote : Bool) (state : ReconnectLoop) (input : PassInput) (wait : Nat) :
    ReconnectLoop :=
  { state with
    daemonGone := state.daemonGone.reset
    backoff := if input.tunnelSupervisorAlive isRemote then 0 else state.backoff
    }.finish input wait input.ended .attempted none

/-- What follows from an attempt. -/
def settle (isRemote : Bool) (state : ReconnectLoop) (input : PassInput) (wait : Nat) :
    ReconnectLoop :=
  let alive := input.tunnelSupervisorAlive isRemote
  match input.probe.attempt alive with
  | some .connected => state.finish input wait input.ended .attempted (some .connected)
  | some (.handshakeErr message) =>
    if isTerminalHandshakeErr message alive then
      state.finish input wait input.ended .attempted (some (.bailed (.handshakeErr message)))
    else state.retry isRemote input wait
  | some .daemonGone =>
    let (tripped, daemonGone) := state.daemonGone.exceeded true input.ended
    { state with daemonGone }.finish input wait input.ended .daemonGone
      (if tripped then some .daemonGone else none)
  | some .retry | none => state.retry isRemote input wait
  | some attempt => state.finish input wait input.ended .attempted (some (.bailed attempt))

/-- One pass of the loop. -/
def pass (isRemote : Bool) (state : ReconnectLoop) (input : PassInput) : ReconnectLoop :=
  let wait := state.wait input.top
  if input.interrupts then
    state.finish input wait input.woken .interrupted (some .interrupted)
  else if input.parks isRemote then
    { state with wasOffline := true }.finish input wait input.woken .parked none
  else
    let state := state.schedule isRemote input
    let (tripped, socketGone) :=
      state.socketGone.exceeded (input.socketGoneNow isRemote) input.checked
    let state := { state with socketGone }
    if tripped then state.finish input wait input.checked .socketGone (some .socketGone)
    else if input.socketGoneNow isRemote then
      state.finish input wait input.checked .socketGone none
    else state.settle isRemote input wait

/-- A pass can go this way: time does not go back, no timer is early, and keys wait for the chrome. -/
def Enabled (state : ReconnectLoop) (input : PassInput) : Prop :=
  state.exit = none ∧ state.now ≤ input.top ∧ input.top ≤ input.woken ∧
    input.woken ≤ input.checked ∧ input.checked ≤ input.ended ∧
    (input.wake = .timer → input.top + state.wait input.top ≤ input.woken) ∧
    (input.wake = .key ∨ input.wake = .quit →
      state.reconnectStarted + reconnectChromeDelay ≤ input.woken)

instance (state : ReconnectLoop) (input : PassInput) : Decidable (state.Enabled input) := by
  unfold Enabled
  infer_instance

/-- One pass, where it can go this way. -/
def step (isRemote : Bool) (state : ReconnectLoop) (input : PassInput) : Option ReconnectLoop :=
  if state.Enabled input then some (state.pass isRemote input) else none

end ReconnectLoop

/-- The reconnect loop from the moment it is entered. -/
def reconnect (isRemote : Bool) (entered : Nat) : Machine ReconnectLoop PassInput where
  init := .new entered
  step := ReconnectLoop.step isRemote

end Gritty
