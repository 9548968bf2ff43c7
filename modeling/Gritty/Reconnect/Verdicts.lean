import Gritty.Reconnect.Loop

/-! When the reconnect loop gives up on a socket or a daemon. -/

namespace Gritty

namespace PersistenceGate

/-- A gate that sees its condition keeps the start of its streak, and trips when the grace is over. -/
theorem exceeded_true (gate : PersistenceGate) (now : Nat) :
    gate.exceeded true now =
      (decide (gate.grace ≤ now - gate.since.getD now),
        { gate with since := some (gate.since.getD now) }) := rfl

/-- A gate that does not see its condition forgets its streak, and never trips. -/
theorem exceeded_false (gate : PersistenceGate) (now : Nat) :
    gate.exceeded false now = (false, gate.reset) := rfl

/-- An observation leaves the grace of a gate alone. -/
@[simp] theorem exceeded_grace (gate : PersistenceGate) (present : Bool) (now : Nat) :
    (gate.exceeded present now).2.grace = gate.grace := by
  cases present <;> rfl

@[simp] theorem reset_grace (gate : PersistenceGate) : gate.reset.grace = gate.grace := rfl

@[simp] theorem reset_since (gate : PersistenceGate) : gate.reset.since = none := rfl

/-- A gate's time is up. -/
def Due (gate : PersistenceGate) (now : Nat) : Prop := gate.remaining now = some 0

/-- A gate is due when its streak began at least its grace ago. -/
theorem due_iff (gate : PersistenceGate) (now : Nat) :
    gate.Due now ↔ ∃ since, gate.since = some since ∧ gate.grace ≤ now - since := by
  unfold Due remaining streak
  cases gate.since with
  | none => simp
  | some since => simp [Nat.sub_eq_zero_iff_le]

/-- A gate that sees its condition trips when it is due, and no gate trips at its first sight of it. -/
theorem tripped_iff_due {gate : PersistenceGate} (positive : 0 < gate.grace) (now : Nat) :
    (gate.exceeded true now).1 = true ↔ gate.Due now := by
  rw [exceeded_true, due_iff]
  cases gate.since with
  | none => simp; omega
  | some since => simp

end PersistenceGate

/-- A pass came to an outcome. -/
def PassRecord.observes (outcome : PassOutcome) (record : PassRecord) : Bool :=
  record.outcome = outcome

/-- When the current streak of passes with an outcome began. -/
def seenSince (outcome : PassOutcome) (log : List PassRecord) : Option Nat :=
  streakStart (PassRecord.observes outcome) PassRecord.time log

/-- The last passes all came to an outcome, the first of them at least a grace before the last. -/
def SeenThroughout (outcome : PassOutcome) (grace : Nat) (log : List PassRecord) : Prop :=
  HeldFor (PassRecord.observes outcome) PassRecord.time grace log

/--
The loop gives up on a gone socket or daemon only after it saw nothing else for the grace.

While it goes on, each gate counts from the start of the current streak: any other outcome starts the grace afresh.
-/
def GivesUpFairly (state : ReconnectLoop) : Prop :=
  match state.exit with
  | none => state.socketGone.since = seenSince .socketGone state.log ∧
      state.daemonGone.since = seenSince .daemonGone state.log
  | some .socketGone => SeenThroughout .socketGone socketGoneGrace state.log
  | some .daemonGone => SeenThroughout .daemonGone daemonGoneGrace state.log
  | some _ => True

/-- No pass leaves a running gate aside. -/
def NothingSkipped (isRemote : Bool) (state : ReconnectLoop) (input : PassInput) : Prop :=
  state.Enabled input →
    (input.parks isRemote = true →
      state.socketGone.since = none ∧ state.daemonGone.since = none) ∧
    (input.findsSocketGone isRemote = true → state.daemonGone.since = none)

namespace ReconnectLoop

variable {isRemote : Bool} {state next : ReconnectLoop} {input : PassInput}

/-- What a pass can do to the gates, the log and the exit. -/
inductive Passed (isRemote : Bool) (state : ReconnectLoop) (input : PassInput) :
    ReconnectLoop → Prop where
  | interrupted {next : ReconnectLoop} (time : Nat) (interrupts : input.interrupts = true)
      (exit : next.exit = some .interrupted)
      (log : next.log = ⟨time, state.wait input.top, input.wake, .interrupted, true⟩ :: state.log)
      (socketGone : next.socketGone = state.socketGone)
      (daemonGone : next.daemonGone = state.daemonGone) : Passed isRemote state input next
  | parked {next : ReconnectLoop} (time : Nat) (parks : input.parks isRemote = true)
      (exit : next.exit = none)
      (log : next.log = ⟨time, state.wait input.top, input.wake, .parked, false⟩ :: state.log)
      (socketGone : next.socketGone = state.socketGone)
      (daemonGone : next.daemonGone = state.daemonGone) : Passed isRemote state input next
  | socketGone {next : ReconnectLoop} (tripped : Bool)
      (finds : input.findsSocketGone isRemote = true)
      (observed : state.socketGone.exceeded true input.checked = (tripped, next.socketGone))
      (exit : next.exit = if tripped then some .socketGone else none)
      (log : next.log =
        ⟨input.checked, state.wait input.top, input.wake, .socketGone, tripped⟩ :: state.log)
      (daemonGone : next.daemonGone = state.daemonGone) : Passed isRemote state input next
  | daemonGone {next : ReconnectLoop} (tripped : Bool)
      (present : input.parks isRemote = false ∧ input.findsSocketGone isRemote = false)
      (observed : state.daemonGone.exceeded true input.ended = (tripped, next.daemonGone))
      (exit : next.exit = if tripped then some .daemonGone else none)
      (log : next.log =
        ⟨input.ended, state.wait input.top, input.wake, .daemonGone, tripped⟩ :: state.log)
      (socketGone : next.socketGone = state.socketGone.reset) : Passed isRemote state input next
  | attempted {next : ReconnectLoop} (exits : Bool)
      (present : input.parks isRemote = false ∧ input.findsSocketGone isRemote = false)
      (exit : next.exit = none ∧ exits = false ∨
        exits = true ∧ (next.exit = some .connected ∨ ∃ attempt, next.exit = some (.bailed attempt)))
      (log : next.log =
        ⟨input.ended, state.wait input.top, input.wake, .attempted, exits⟩ :: state.log)
      (socketGone : next.socketGone = state.socketGone.reset)
      (daemonGone : next.daemonGone = if exits then state.daemonGone else state.daemonGone.reset) :
      Passed isRemote state input next

/-- An attempt retries, ends the loop, or observes the daemon gone. -/
theorem settle_cases (isRemote : Bool) (state : ReconnectLoop) (input : PassInput) (wait : Nat) :
    (∃ tripped, (state.daemonGone.exceeded true input.ended).1 = tripped ∧
      state.settle isRemote input wait =
        { state with daemonGone := (state.daemonGone.exceeded true input.ended).2 }.finish
          input wait input.ended .daemonGone (if tripped then some .daemonGone else none)) ∨
    state.settle isRemote input wait = state.retry isRemote input wait ∨
    (∃ exit, (exit = .connected ∨ ∃ attempt, exit = .bailed attempt) ∧
      state.settle isRemote input wait =
        state.finish input wait input.ended .attempted (some exit)) := by
  -- The cases are those of the match on the attempt, in its order.
  simp only [settle]
  cases input.probe.attempt (input.tunnelSupervisorAlive isRemote) with
  | none => exact Or.inr (Or.inl rfl)
  | some attempt =>
    cases attempt with
    | connected => exact Or.inr (Or.inr ⟨_, Or.inl rfl, rfl⟩)
    | handshakeErr message =>
      by_cases terminal :
          isTerminalHandshakeErr message (input.tunnelSupervisorAlive isRemote) = true
      · exact Or.inr (Or.inr ⟨_, Or.inr ⟨_, rfl⟩, if_pos terminal⟩)
      · exact Or.inr (Or.inl (if_neg terminal))
    | daemonGone => exact Or.inl ⟨_, rfl, rfl⟩
    | retry => exact Or.inr (Or.inl rfl)
    | sessionGone message => exact Or.inr (Or.inr ⟨_, Or.inr ⟨_, rfl⟩, rfl⟩)
    | serverRestarted => exact Or.inr (Or.inr ⟨_, Or.inr ⟨_, rfl⟩, rfl⟩)
    | ownerChanged => exact Or.inr (Or.inr ⟨_, Or.inr ⟨_, rfl⟩, rfl⟩)
    | versionMismatch => exact Or.inr (Or.inr ⟨_, Or.inr ⟨_, rfl⟩, rfl⟩)

/-- Every pass is one of the five. -/
theorem pass_cases (isRemote : Bool) (state : ReconnectLoop) (input : PassInput) :
    Passed isRemote state input (state.pass isRemote input) := by
  unfold pass
  cases interrupts : input.interrupts with
  | true => exact .interrupted input.woken interrupts rfl rfl rfl rfl
  | false =>
    cases parks : input.parks isRemote with
    | true => exact .parked input.woken parks rfl rfl rfl rfl
    | false =>
      cases gone : input.socketGoneNow isRemote with
      | true =>
        have finds : input.findsSocketGone isRemote = true := by
          simp [PassInput.findsSocketGone, interrupts, parks, gone]
        -- Whether the gate trips is all that is left open.
        cases tripped : (state.socketGone.exceeded true input.checked).1 with
        | true =>
          refine .socketGone true finds ?_ ?_ ?_ ?_ <;>
            simp [schedule, finish, tripped, Prod.ext_iff]
        | false =>
          refine .socketGone false finds ?_ ?_ ?_ ?_ <;>
            simp [schedule, finish, tripped, Prod.ext_iff]
      | false =>
        have present : input.parks isRemote = false ∧ input.findsSocketGone isRemote = false :=
          ⟨parks, by simp [PassInput.findsSocketGone, gone]⟩
        simp only [Bool.false_eq_true, if_false, PersistenceGate.exceeded_false]
        -- The socket's gate is reset before the attempt.
        rcases settle_cases isRemote
            { state.schedule isRemote input with
              socketGone := (state.schedule isRemote input).socketGone.reset }
            input (state.wait input.top) with ⟨tripped, trips, ended⟩ | ended | ⟨exit, kind, ended⟩
        · rw [ended]
          exact .daemonGone tripped present (Prod.ext trips rfl) rfl
            (by cases tripped <;> rfl) rfl
        · rw [ended]
          exact .attempted false present (Or.inl ⟨rfl, rfl⟩) rfl rfl rfl
        · rw [ended]
          refine .attempted true present (Or.inr ⟨rfl, ?_⟩) rfl rfl rfl
          rcases kind with rfl | ⟨attempt, rfl⟩
          · exact Or.inl rfl
          · exact Or.inr ⟨attempt, rfl⟩

/-- No pass changes the graces. -/
theorem Passed.graces (passed : Passed isRemote state input next) :
    next.socketGone.grace = state.socketGone.grace ∧
      next.daemonGone.grace = state.daemonGone.grace := by
  cases passed with
  | interrupted time interrupts exit log socketGone daemonGone => rw [socketGone, daemonGone]; simp
  | parked time parks exit log socketGone daemonGone => rw [socketGone, daemonGone]; simp
  | socketGone tripped finds observed exit log daemonGone =>
    have kept := state.socketGone.exceeded_grace true input.checked
    rw [observed] at kept
    exact ⟨kept, by rw [daemonGone]⟩
  | daemonGone tripped present observed exit log socketGone =>
    have kept := state.daemonGone.exceeded_grace true input.ended
    rw [observed] at kept
    exact ⟨by rw [socketGone, PersistenceGate.reset_grace], kept⟩
  | attempted exits present exit log socketGone daemonGone =>
    rw [socketGone, daemonGone]
    cases exits <;> simp

/-- A step is an enabled pass. -/
theorem step_cases (stepped : state.step isRemote input = some next) :
    state.Enabled input ∧ Passed isRemote state input next := by
  unfold step at stepped
  by_cases enabled : state.Enabled input
  · rw [if_pos enabled] at stepped
    cases stepped
    exact ⟨enabled, pass_cases isRemote state input⟩
  · rw [if_neg enabled] at stepped
    cases stepped

/-- An enabled pass is a step. -/
theorem step_of_enabled (isRemote : Bool) (enabled : state.Enabled input) :
    ∃ next, state.step isRemote input = some next ∧ Passed isRemote state input next :=
  ⟨state.pass isRemote input, if_pos enabled, pass_cases isRemote state input⟩

end ReconnectLoop

/-- The gates have their graces. -/
structure Graced (state : ReconnectLoop) : Prop where
  socketGone : state.socketGone.grace = socketGoneGrace
  daemonGone : state.daemonGone.grace = daemonGoneGrace

/-- The gates of a loop that is entered have their graces. -/
theorem new_graced (entered : Nat) : Graced (.new entered) := ⟨rfl, rfl⟩

/-- The socket's gate needs time to trip. -/
theorem Graced.socket_positive {state : ReconnectLoop} (graced : Graced state) :
    0 < state.socketGone.grace := by
  rw [graced.socketGone]
  decide

/-- The daemon's gate needs time to trip. -/
theorem Graced.daemon_positive {state : ReconnectLoop} (graced : Graced state) :
    0 < state.daemonGone.grace := by
  rw [graced.daemonGone]
  decide

/-- The graces last. -/
theorem Graced.passed {isRemote : Bool} {state next : ReconnectLoop} {input : PassInput}
    (graced : Graced state) (passed : ReconnectLoop.Passed isRemote state input next) :
    Graced next :=
  ⟨passed.graces.1.trans graced.socketGone, passed.graces.2.trans graced.daemonGone⟩

/-- The gates have their graces, and the loop gives up fairly. -/
structure GatesFollow (state : ReconnectLoop) : Prop where
  graced : Graced state
  fair : GivesUpFairly state

/-- A gate that follows the log, and sees its condition, follows the log with the pass that saw it. -/
private theorem follows_observed {gate gate' : PersistenceGate} {outcome : PassOutcome}
    {log : List PassRecord} {record : PassRecord} {tripped : Bool}
    (follows : gate.since = seenSince outcome log) (seen : record.outcome = outcome)
    (observed : gate.exceeded true record.time = (tripped, gate')) :
    gate'.since = seenSince outcome (record :: log) := by
  have held : record.observes outcome = true := by simp [PassRecord.observes, seen]
  rw [PersistenceGate.exceeded_true] at observed
  rw [← (Prod.mk.inj observed).2, seenSince, streakStart_held held, follows]
  rfl

/-- A gate that follows the log trips only over a streak that lasted its grace. -/
private theorem tripped_seenThroughout {gate gate' : PersistenceGate} {outcome : PassOutcome}
    {log : List PassRecord} (record : PassRecord) (positive : 0 < gate.grace)
    (follows : gate.since = seenSince outcome log) (seen : record.outcome = outcome)
    (observed : gate.exceeded true record.time = (true, gate')) :
    SeenThroughout outcome gate.grace (record :: log) := by
  have held : record.observes outcome = true := by simp [PassRecord.observes, seen]
  have due : gate.Due record.time := by
    rw [← PersistenceGate.tripped_iff_due positive, observed]
  obtain ⟨since, streaking, long⟩ := (gate.due_iff record.time).mp due
  -- A positive grace leaves no room for a start after the observation.
  exact heldFor_of_streakStart held (follows.symm.trans streaking) (by omega)

/-- A pass that came to something else has no streak behind it. -/
private theorem seenSince_other {outcome : PassOutcome} {log : List PassRecord}
    {record : PassRecord} (other : record.outcome ≠ outcome) :
    seenSince outcome (record :: log) = none :=
  streakStart_other (by simpa [PassRecord.observes] using other)

/-- The passes cannot have come to two outcomes at once. -/
private theorem seenSince_exclusive {first second : PassOutcome} {log : List PassRecord}
    (different : first ≠ second) (streaking : seenSince first log ≠ none) :
    seenSince second log = none := by
  cases log with
  | nil => rfl
  | cons record older =>
    by_cases seen : record.outcome = second
    · exact absurd (seenSince_other (by rw [seen]; exact different.symm)) streaking
    · exact seenSince_other seen

/-- The loop goes on fairly when both gates follow the log. -/
private theorem fair_going {state : ReconnectLoop} (going : state.exit = none) :
    GivesUpFairly state ↔ state.socketGone.since = seenSince .socketGone state.log ∧
      state.daemonGone.since = seenSince .daemonGone state.log := by
  unfold GivesUpFairly
  rw [going]

/-- A loop that is entered has seen nothing. -/
theorem new_gatesFollow (entered : Nat) : GatesFollow (.new entered) :=
  ⟨new_graced entered, rfl, rfl⟩

/-- A pass that leaves no running gate aside keeps the gates at the log. -/
theorem step_gatesFollow {isRemote : Bool} {state next : ReconnectLoop} {input : PassInput}
    (follow : GatesFollow state) (skipped : NothingSkipped isRemote state input)
    (stepped : state.step isRemote input = some next) : GatesFollow next := by
  obtain ⟨graced, fair⟩ := follow
  obtain ⟨enabled, passed⟩ := ReconnectLoop.step_cases stepped
  obtain ⟨idleAtPark, idleAtGone⟩ := skipped enabled
  obtain ⟨socketFollows, daemonFollows⟩ := (fair_going enabled.1).mp fair
  refine ⟨graced.passed passed, ?_⟩
  cases passed with
  | interrupted time interrupts exit log socketGone daemonGone => simp [GivesUpFairly, exit]
  | parked time parks exit log socketGone daemonGone =>
    -- Both gates are idle, and the log has no streak either.
    obtain ⟨socketIdle, daemonIdle⟩ := idleAtPark parks
    rw [fair_going exit, socketGone, daemonGone, log, socketIdle, daemonIdle]
    exact ⟨(seenSince_other (by simp)).symm, (seenSince_other (by simp)).symm⟩
  | socketGone tripped finds observed exit log daemonGone =>
    cases tripped with
    | true =>
      have throughout := tripped_seenThroughout
        ⟨input.checked, state.wait input.top, input.wake, .socketGone, true⟩
        graced.socket_positive socketFollows rfl observed
      simpa [GivesUpFairly, exit, log, graced.socketGone] using throughout
    | false =>
      -- The socket's gate goes on, and the daemon's was idle.
      rw [fair_going exit, log, daemonGone, idleAtGone finds]
      exact ⟨follows_observed socketFollows rfl observed, (seenSince_other (by simp)).symm⟩
  | daemonGone tripped present observed exit log socketGone =>
    cases tripped with
    | true =>
      have throughout := tripped_seenThroughout
        ⟨input.ended, state.wait input.top, input.wake, .daemonGone, true⟩
        graced.daemon_positive daemonFollows rfl observed
      simpa [GivesUpFairly, exit, log, graced.daemonGone] using throughout
    | false =>
      -- The daemon's gate goes on, and the socket's is reset.
      rw [fair_going exit, log, socketGone]
      exact ⟨(seenSince_other (by simp)).symm, follows_observed daemonFollows rfl observed⟩
  | attempted exits present exit log socketGone daemonGone =>
    rcases exit with ⟨going, rfl⟩ | ⟨_, connected | ⟨attempt, bailed⟩⟩
    · -- Both gates are reset, and the log has no streak either.
      rw [fair_going going, log, socketGone, daemonGone]
      exact ⟨(seenSince_other (by simp)).symm, (seenSince_other (by simp)).symm⟩
    · simp [GivesUpFairly, connected]
    · simp [GivesUpFairly, bailed]

/-- A pass that leaves a running gate aside goes back to the top with a gate that does not follow the log. -/
theorem skipped_unfair {isRemote : Bool} {state : ReconnectLoop} {input : PassInput}
    (follow : GatesFollow state) (skipped : ¬ NothingSkipped isRemote state input) :
    ∃ next, state.step isRemote input = some next ∧ ¬ GivesUpFairly next := by
  obtain ⟨graced, fair⟩ := follow
  have enabled : state.Enabled input := by
    by_contra disabled
    exact skipped fun enabled => absurd enabled disabled
  obtain ⟨socketFollows, daemonFollows⟩ := (fair_going enabled.1).mp fair
  obtain ⟨next, stepped, passed⟩ := ReconnectLoop.step_of_enabled isRemote enabled
  refine ⟨next, stepped, fun fairNext => skipped fun _ => ?_⟩
  cases passed with
  | interrupted time interrupts exit log socketGone daemonGone =>
    exact ⟨fun parks => by simp [PassInput.parks, interrupts] at parks,
      fun finds => by simp [PassInput.findsSocketGone, interrupts] at finds⟩
  | parked time parks exit log socketGone daemonGone =>
    rw [fair_going exit, socketGone, daemonGone, log, seenSince_other (by simp),
      seenSince_other (by simp)] at fairNext
    exact ⟨fun _ => fairNext, fun _ => fairNext.2⟩
  | socketGone tripped finds observed exit log daemonGone =>
    refine ⟨fun parks => by simp [PassInput.findsSocketGone, parks] at finds, fun _ => ?_⟩
    by_contra running
    -- The last pass saw the daemon gone, so the socket's gate is idle and cannot trip.
    have idle : state.socketGone.since = none := by
      rw [socketFollows]
      have streaking : seenSince .daemonGone state.log ≠ none := daemonFollows ▸ running
      exact seenSince_exclusive (by simp) streaking
    have going : tripped = false := by
      have due := PersistenceGate.tripped_iff_due graced.socket_positive input.checked
      rw [observed, PersistenceGate.due_iff, idle] at due
      simpa using due
    subst going
    rw [fair_going exit, daemonGone, log] at fairNext
    exact running (fairNext.2.trans (seenSince_other (by simp)))
  | daemonGone tripped present observed exit log socketGone =>
    exact ⟨fun parks => by simp [present.1] at parks, fun finds => by simp [present.2] at finds⟩
  | attempted exits present exit log socketGone daemonGone =>
    exact ⟨fun parks => by simp [present.1] at parks, fun finds => by simp [present.2] at finds⟩

/-- The reconnect loop gives up fairly all along a run exactly when no pass of it leaves a running gate aside. -/
theorem gives_up_fairly_iff (isRemote : Bool) (entered : Nat) (inputs : List PassInput) :
    (reconnect isRemote entered).Along GivesUpFairly (.new entered) inputs ↔
      (reconnect isRemote entered).Meets (NothingSkipped isRemote) (.new entered) inputs := by
  -- Following the log is the invariant, and skipping a gate is the only way out of it.
  refine Machine.along_iff_meets (fun state (follow : GatesFollow state) => follow.fair) ?_ ?_
    (new_gatesFollow entered) inputs
  · intro state input next follow skipped stepped
    exact step_gatesFollow follow skipped stepped
  · intro state input follow skipped
    exact skipped_unfair follow skipped

/-- A refused connection that leaves the daemon's gate running, then a park, then one more refusal after it. -/
def parkedBetweenRefusals : List PassInput :=
  let refused : PassInput :=
    { top          := 0
      woken        := 1 * second
      checked      := 1 * second
      ended        := 1 * second
      wake         := .timer
      unsatisfied  := false
      lockHeld     := false
      socketExists := true
      probe        := .connectErr true }
  [refused,
    { refused with
      top         := 1 * second
      woken       := 3 * second
      checked     := 3 * second
      ended       := 3 * second
      unsatisfied := true },
    { refused with
      top     := 3 * second
      woken   := 5 * second
      checked := 5 * second
      ended   := 6 * second
      wake    := .netChanged }]

/-- One refusal before a park and one after it make the loop give up on the daemon. -/
theorem parked_daemon_given_up :
    ∃ last, (reconnect true 0).run (.new 0) parkedBetweenRefusals = some last ∧
      last.exit = some .daemonGone ∧
      ¬ SeenThroughout .daemonGone daemonGoneGrace last.log := by
  refine ⟨_, rfl, by decide, ?_⟩
  intro throughout
  -- The pass before the last one parked, so no streak reaches back over it.
  have observed := HeldFor.last_but_one throughout
  exact absurd observed (by decide)

end Gritty
