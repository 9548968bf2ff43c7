import Gritty.Lib.Transition
import Gritty.Protocol.Frame

/-! Pairing of file senders with receivers, and the relays that the pairs run on. -/

namespace Gritty

/-- A connected socket, by the order of connection. -/
abbrev StreamId := Nat

/-- The one byte written to a sender whose pair is complete. -/
def transferGoPaired : UInt8 := 0x01

/-- The one byte written to a waiting sender that a newer one displaces. -/
def transferGoSuperseded : UInt8 := 0x02

/-- The one byte written to a sender that arrives while a relay is running. -/
def transferGoBusy : UInt8 := 0x03

/-- The files a sender announces: base name, size and mode. -/
structure FileManifest where
  files : List (String × UInt64 × UInt32)
  deriving DecidableEq

def FileManifest.totalBytes (manifest : FileManifest) : UInt64 :=
  (manifest.files.map fun (_, size, _) => size).foldl (· + ·) 0

/-- What the acceptor of transfer sockets reports to the session. -/
inductive SendEvent where
  | senderArrived (stream : StreamId) (manifest : FileManifest)
  | receiverArrived (stream : StreamId)
  deriving DecidableEq

/-- The rendezvous of a session. An active transfer holds the handle of its relay task. -/
inductive TransferState where
  | idle
  | waitingForReceiver (senderStream : StreamId) (manifest : FileManifest)
  | waitingForSender (receiverStream : StreamId)
  | active (relayHandle : Nat)
  deriving DecidableEq

/-- How far a relay task has come. Its last notification is queued before it finishes. -/
inductive RelayPhase where
  | spawned
  | offered
  | concluded
  | finished
  deriving DecidableEq

/-- A spawned relay task. Dropping its handle does not stop it. -/
structure TransferRelay where
  sender : StreamId
  receiver : StreamId
  manifest : FileManifest
  phase : RelayPhase
  deriving DecidableEq

/-- The transfer side of a session. A relay's handle is its place in the order of spawning. -/
structure Rendezvous where
  state : TransferState
  relays : List TransferRelay
  /-- Frames the relays have queued for the client, oldest first. -/
  notifications : List Frame
  /-- Bytes written to senders that were not paired, oldest first. -/
  answers : List (StreamId × UInt8)
  deriving DecidableEq

namespace Rendezvous

/-- A session before its first transfer. -/
def new : Rendezvous := { state := .idle, relays := [], notifications := [], answers := [] }

/-- The relay behind a handle has finished. -/
def isFinished (session : Rendezvous) (handle : Nat) : Bool :=
  match session.relays[handle]? with
  | some relay => relay.phase = .finished
  | none => true

/-- Start a relay between a sender and a receiver. -/
def spawnTransferRelay (session : Rendezvous) (sender receiver : StreamId)
    (manifest : FileManifest) : Rendezvous :=
  { session with
    state := .active session.relays.length
    relays := session.relays ++ [{ sender, receiver, manifest, phase := .spawned }] }

/-- Answer a sender with one byte. -/
def answer (session : Rendezvous) (stream : StreamId) (byte : UInt8) : Rendezvous :=
  { session with answers := session.answers ++ [(stream, byte)] }

/-- Is a relay still running on the rendezvous? -/
def relayRunning (session : Rendezvous) : Bool :=
  match session.state with
  | .active handle => !session.isFinished handle
  | _ => false

/-- A newcomer that a running relay wins over: its stream is dropped. -/
def dropExtra (session : Rendezvous) : SendEvent → Rendezvous
  | .senderArrived stream _ => session.answer stream transferGoBusy
  | .receiverArrived _ => session

/-- Pair a newcomer with whoever waits for it, or let it wait. -/
def handleSendEvent (session : Rendezvous) (event : SendEvent) (streamIsDead : StreamId → Bool) :
    Rendezvous :=
  if session.relayRunning then session.dropExtra event
  else
    match event with
    | .senderArrived stream manifest =>
      match session.state with
      | .waitingForSender receiverStream =>
        if streamIsDead receiverStream then
          { session with state := .waitingForReceiver stream manifest }
        else session.spawnTransferRelay stream receiverStream manifest
      | .waitingForReceiver senderStream _ =>
        -- The earlier sender is told why its offer ends before its stream drops.
        { session.answer senderStream transferGoSuperseded with
          state := .waitingForReceiver stream manifest }
      | _ => { session with state := .waitingForReceiver stream manifest }
    | .receiverArrived stream =>
      match session.state with
      | .waitingForReceiver senderStream manifest =>
        if streamIsDead senderStream then { session with state := .waitingForSender stream }
        else session.spawnTransferRelay senderStream stream manifest
      | _ => { session with state := .waitingForSender stream }

/-- The frames that end a transfer. -/
def endsTransfer : Frame → Bool
  | .sendDone => true
  | .sendCancel _ => true
  | _ => false

/-- Take a relay's notification: the end of a transfer clears an active one. -/
def handleSendNotification (session : Rendezvous) (frame : Frame) : Rendezvous :=
  match session.state with
  | .active _ => if endsTransfer frame then { session with state := .idle } else session
  | _ => session

/-- A relay moves on to another phase. -/
def setPhase (session : Rendezvous) (handle : Nat) (relay : TransferRelay) (phase : RelayPhase) :
    Rendezvous :=
  { session with relays := session.relays.set handle { relay with phase } }

/-- Queue a frame for the client. -/
def notify (session : Rendezvous) (frame : Frame) : Rendezvous :=
  { session with notifications := session.notifications ++ [frame] }

end Rendezvous

/-- One thing that happens to the rendezvous. -/
inductive TransferAction where
  /-- The session takes an arrival from its queue; the waiting streams may have died by then. -/
  | sendEvent (event : SendEvent) (streamIsDead : StreamId → Bool)
  /-- A relay task runs for the first time. -/
  | offer (handle : Nat)
  /-- A relay task has come to its end: the transfer is done, or was cancelled for a reason. -/
  | conclude (handle : Nat) (cancelled : Option String)
  /-- A relay task returns. -/
  | finish (handle : Nat)
  /-- The session takes a notification from its queue. -/
  | sendNotification

/-- The frame a relay ends with. -/
def lastNotification : Option String → Frame
  | none => .sendDone
  | some reason => .sendCancel reason

/-- What one action does. A task that is not at the right point cannot take the action. -/
def Rendezvous.step (session : Rendezvous) : TransferAction → Option Rendezvous
  | .sendEvent event streamIsDead => some (session.handleSendEvent event streamIsDead)
  | .offer handle =>
    match session.relays[handle]? with
    | some relay =>
      if relay.phase = .spawned then
        let offer := Frame.sendOffer (UInt32.ofNat relay.manifest.files.length)
          relay.manifest.totalBytes
        some ((session.setPhase handle relay .offered).notify offer)
      else none
    | none => none
  | .conclude handle cancelled =>
    match session.relays[handle]? with
    | some relay =>
      if relay.phase = .offered then
        some ((session.setPhase handle relay .concluded).notify (lastNotification cancelled))
      else none
    | none => none
  | .finish handle =>
    match session.relays[handle]? with
    | some relay =>
      if relay.phase = .concluded then some (session.setPhase handle relay .finished) else none
    | none => none
  | .sendNotification =>
    match session.notifications with
    | frame :: later => some ({ session with notifications := later }.handleSendNotification frame)
    | [] => none

/-- The rendezvous as a state machine. -/
def rendezvous : Machine Rendezvous TransferAction where
  init := .new
  step := Rendezvous.step

/-- Every relay that has not finished is the one the active transfer holds. -/
def OneRelay (session : Rendezvous) : Prop :=
  ∀ handle relay, session.relays[handle]? = some relay → relay.phase ≠ .finished →
    session.state = .active handle

/--
The condition under which the end of a transfer is not mistaken.

When the session takes the end of some transfer while a transfer is active, the active relay has finished.
-/
def EndsOwnTransfer (session : Rendezvous) : TransferAction → Prop
  | .sendNotification =>
    ∀ frame handle, session.notifications.head? = some frame → Rendezvous.endsTransfer frame = true →
      session.state = .active handle → session.isFinished handle = true
  | _ => True

section Steps

open Rendezvous

/-- While no relay runs on the rendezvous, no relay runs at all. -/
theorem finished_of_not_running {session : Rendezvous} (one : OneRelay session)
    (quiet : session.relayRunning = false) {handle : Nat} {relay : TransferRelay}
    (spawned : session.relays[handle]? = some relay) : relay.phase = .finished := by
  -- An unfinished relay would be the active one, and the active one is known to have finished.
  by_contra unfinished
  have active := one handle relay spawned unfinished
  simp [relayRunning, active, isFinished, spawned, unfinished] at quiet

/-- The state may change in any way while no relay runs. -/
theorem oneRelay_of_quiet {session next : Rendezvous} (one : OneRelay session)
    (quiet : session.relayRunning = false) (same : next.relays = session.relays) :
    OneRelay next := by
  intro handle relay spawned unfinished
  rw [same] at spawned
  exact absurd (finished_of_not_running one quiet spawned) unfinished

/-- A pair starts its relay alone. -/
theorem oneRelay_spawn {session : Rendezvous} (one : OneRelay session)
    (quiet : session.relayRunning = false) (sender receiver : StreamId) (manifest : FileManifest) :
    OneRelay (session.spawnTransferRelay sender receiver manifest) := by
  intro handle relay spawned unfinished
  simp only [spawnTransferRelay] at spawned ⊢
  -- The relay is an earlier one, which has finished, or the one just spawned.
  by_cases earlier : handle < session.relays.length
  · rw [List.getElem?_append_left earlier] at spawned
    exact absurd (finished_of_not_running one quiet spawned) unfinished
  · have last : handle = session.relays.length := by
      have within := (List.getElem?_eq_some_iff.mp spawned).1
      rw [List.length_append, List.length_singleton] at within
      omega
    rw [last]

/-- An arrival never starts a relay beside a running one. -/
theorem oneRelay_sendEvent {session : Rendezvous} (one : OneRelay session) (event : SendEvent)
    (streamIsDead : StreamId → Bool) : OneRelay (session.handleSendEvent event streamIsDead) := by
  by_cases running : session.relayRunning = true
  · -- A running relay wins: neither the state nor the relays change.
    unfold handleSendEvent
    rw [if_pos running]
    cases event with
    | senderArrived stream manifest => exact one
    | receiverArrived stream => exact one
  · have quiet : session.relayRunning = false := by simpa using running
    unfold handleSendEvent
    rw [if_neg running]
    cases event with
    | senderArrived stream manifest =>
      cases waiting : session.state with
      | waitingForSender receiverStream =>
        by_cases dead : streamIsDead receiverStream = true
        · simp only [dead, if_true]
          exact oneRelay_of_quiet one quiet rfl
        · simp only [dead]
          exact oneRelay_spawn one quiet stream receiverStream manifest
      | idle => exact oneRelay_of_quiet one quiet rfl
      | waitingForReceiver senderStream other => exact oneRelay_of_quiet one quiet rfl
      | active handle => exact oneRelay_of_quiet one quiet rfl
    | receiverArrived stream =>
      cases waiting : session.state with
      | waitingForReceiver senderStream manifest =>
        by_cases dead : streamIsDead senderStream = true
        · simp only [dead, if_true]
          exact oneRelay_of_quiet one quiet rfl
        · simp only [dead]
          exact oneRelay_spawn one quiet senderStream stream manifest
      | idle => exact oneRelay_of_quiet one quiet rfl
      | waitingForSender receiverStream => exact oneRelay_of_quiet one quiet rfl
      | active handle => exact oneRelay_of_quiet one quiet rfl

/-- A relay that moves on was not finished before. -/
theorem oneRelay_setPhase {session : Rendezvous} (one : OneRelay session) {handle : Nat}
    {relay : TransferRelay} (spawned : session.relays[handle]? = some relay)
    (unfinished : relay.phase ≠ .finished) (phase : RelayPhase) :
    OneRelay (session.setPhase handle relay phase) := by
  intro other moved found running
  -- Only the relay that moved has another phase, and it was the active one already.
  by_cases same : other = handle
  · rw [same]
    exact one handle relay spawned unfinished
  · have kept : session.relays[other]? = some moved := by
      rwa [setPhase, List.getElem?_set_ne (Ne.symm same)] at found
    exact one other moved kept running

/-- Taking the end of a transfer is harmless when the active relay has finished. -/
theorem oneRelay_sendNotification {session : Rendezvous} (one : OneRelay session)
    {frame : Frame} (harmless : endsTransfer frame = true → ∀ handle,
      session.state = .active handle → session.isFinished handle = true) :
    OneRelay (session.handleSendNotification frame) := by
  unfold handleSendNotification
  cases current : session.state with
  | active handle =>
    by_cases ends : endsTransfer frame = true
    · simp only [ends, if_true]
      have quiet : session.relayRunning = false := by
        simp [relayRunning, current, harmless ends handle current]
      exact oneRelay_of_quiet one quiet rfl
    · simp only [ends]
      exact one
  | idle => exact one
  | waitingForReceiver senderStream manifest => exact one
  | waitingForSender receiverStream => exact one

/-- Every action that meets the condition keeps at most one relay running. -/
theorem oneRelay_step (session : Rendezvous) (action : TransferAction) (next : Rendezvous)
    (one : OneRelay session) (met : EndsOwnTransfer session action)
    (stepped : session.step action = some next) : OneRelay next := by
  cases action with
  | sendEvent event streamIsDead =>
    cases stepped
    exact oneRelay_sendEvent one event streamIsDead
  | offer handle =>
    cases spawned : session.relays[handle]? with
    | none => simp [step, spawned] at stepped
    | some relay =>
      by_cases ready : relay.phase = .spawned
      · simp only [step, spawned, ready, if_true, Option.some.injEq] at stepped
        rw [← stepped]
        exact oneRelay_setPhase one spawned (by simp [ready]) .offered
      · simp [step, spawned, ready] at stepped
  | conclude handle cancelled =>
    cases spawned : session.relays[handle]? with
    | none => simp [step, spawned] at stepped
    | some relay =>
      by_cases ready : relay.phase = .offered
      · simp only [step, spawned, ready, if_true, Option.some.injEq] at stepped
        rw [← stepped]
        exact oneRelay_setPhase one spawned (by simp [ready]) .concluded
      · simp [step, spawned, ready] at stepped
  | finish handle =>
    cases spawned : session.relays[handle]? with
    | none => simp [step, spawned] at stepped
    | some relay =>
      by_cases ready : relay.phase = .concluded
      · simp only [step, spawned, ready, if_true, Option.some.injEq] at stepped
        rw [← stepped]
        exact oneRelay_setPhase one spawned (by simp [ready]) .finished
      · simp [step, spawned, ready] at stepped
  | sendNotification =>
    cases queued : session.notifications with
    | nil => simp [step, queued] at stepped
    | cons frame later =>
      simp only [step, queued, Option.some.injEq] at stepped
      rw [← stepped]
      -- The queue is no part of what the relays and the state say.
      have dequeued : OneRelay { session with notifications := later } := one
      apply oneRelay_sendNotification dequeued
      intro ends handle active
      exact met frame handle (by rw [queued]; rfl) ends active

/-- An action that does not meet the condition leaves a running relay that nothing holds. -/
theorem oneRelay_broken (session : Rendezvous) (action : TransferAction)
    (unmet : ¬ EndsOwnTransfer session action) :
    ∃ next, session.step action = some next ∧ ¬ OneRelay next := by
  cases action with
  | sendNotification =>
    simp only [EndsOwnTransfer, not_forall] at unmet
    obtain ⟨frame, handle, queued, ends, active, unfinished⟩ := unmet
    cases waiting : session.notifications with
    | nil => simp [waiting] at queued
    | cons first later =>
      obtain rfl : first = frame := by simpa [waiting] using queued
      refine ⟨{ session with notifications := later, state := .idle }, ?_, ?_⟩
      · simp [step, waiting, handleSendNotification, active, ends]
      · -- The active relay is still running, but the state has forgotten it.
        intro one
        cases spawned : session.relays[handle]? with
        | none => simp [isFinished, spawned] at unfinished
        | some relay =>
          have running : relay.phase ≠ .finished := by simpa [isFinished, spawned] using unfinished
          exact absurd (one handle relay spawned running) (by simp)
  | sendEvent event streamIsDead => exact absurd trivial unmet
  | offer handle => exact absurd trivial unmet
  | conclude handle cancelled => exact absurd trivial unmet
  | finish handle => exact absurd trivial unmet

end Steps

/--
At most one relay runs in every state of a run exactly when the run meets the condition.

Every end of a transfer that the session takes while a transfer is active must find the active relay finished.
-/
theorem oneRelay_along_iff (actions : List TransferAction) :
    rendezvous.Along OneRelay rendezvous.init actions ↔
      rendezvous.Meets EndsOwnTransfer rendezvous.init actions := by
  have start : OneRelay rendezvous.init := by
    intro handle relay spawned
    simp [rendezvous, Rendezvous.new] at spawned
  exact Machine.along_iff_meets (fun _ one => one) oneRelay_step
    (fun session action _ unmet => oneRelay_broken session action unmet) start actions

/-- No stream has died. -/
private def allAlive : StreamId → Bool := fun _ => false

/-- A transfer ends, and its end is still queued when two more pairs arrive. -/
def staleEnd : List TransferAction :=
  [.sendEvent (.senderArrived 0 ⟨[("a", 1, 420)]⟩) allAlive,
    .sendEvent (.receiverArrived 1) allAlive,
    .offer 0, .sendNotification, .conclude 0 none, .finish 0,
    -- The finished relay is replaceable, so the second pair starts; then the first end is taken.
    .sendEvent (.senderArrived 2 ⟨[("b", 1, 420)]⟩) allAlive,
    .sendEvent (.receiverArrived 3) allAlive,
    .offer 1, .sendNotification,
    -- The rendezvous looks idle while the second relay runs, so a third relay starts beside it.
    .sendEvent (.senderArrived 4 ⟨[("c", 1, 420)]⟩) allAlive,
    .sendEvent (.receiverArrived 5) allAlive]

/-- After it, the second and the third relay run at once, and the state holds only the third. -/
theorem two_relays_after_staleEnd :
    ¬ ∀ actions last, rendezvous.run rendezvous.init actions = some last → OneRelay last := by
  intro always
  have one := always staleEnd _ rfl
  have second := one 1 ⟨2, 3, ⟨[("b", 1, 420)]⟩, .offered⟩ rfl (by decide)
  exact absurd second (by decide)

end Gritty
