import Gritty.Reconnect.Verdicts

/-! When the reconnect loop goes around without a wait and without an attempt. -/

namespace Gritty

/-- No pass without an attempt follows a wait of zero, unless a network hint or a key ended the wait. -/
def NeverSpins (state : ReconnectLoop) : Prop :=
  ∀ record ∈ state.log, record.wait = 0 → record.wake ≠ .netChanged → record.wake ≠ .key →
    record.outcome = .attempted ∨ record.outcome = .daemonGone ∨ record.exits = true

/-- A pass that a due gate made wait for nothing does not park, and trips the socket's gate where the socket is gone. -/
def DueIsDecided (isRemote : Bool) (state : ReconnectLoop) (input : PassInput) : Prop :=
  state.Enabled input → state.socketGone.Due input.top ∨ state.daemonGone.Due input.top →
    input.wake = .timer →
    input.parks isRemote = false ∧
      (input.findsSocketGone isRemote = true → state.socketGone.Due input.checked)

/-- The schedule always has a delay. -/
theorem nextReconnectDelay_pos (prev : Nat) : 0 < nextReconnectDelay prev := by
  unfold nextReconnectDelay reconnectBackoffInitial reconnectBackoffMax second
  split <;> omega

/-- A wait is nothing exactly when nothing was scheduled or a gate is due. -/
theorem capBackoff_eq_zero (sleepFor : Nat) (gates : List PersistenceGate) (now : Nat) :
    capBackoff sleepFor gates now = 0 ↔ sleepFor = 0 ∨ ∃ gate ∈ gates, gate.Due now := by
  -- The induction follows the gates; each one that runs may shorten the wait that is left.
  induction gates generalizing sleepFor with
  | nil => simp [capBackoff]
  | cons gate gates ih =>
    cases left : gate.remaining now with
    | none =>
      have idle : ¬ gate.Due now := by simp [PersistenceGate.Due, left]
      have same : capBackoff sleepFor (gate :: gates) now = capBackoff sleepFor gates now := by
        simp [capBackoff, left]
      rw [same, ih]
      simp [idle]
    | some time =>
      have due : gate.Due now ↔ time = 0 := by simp [PersistenceGate.Due, left]
      have shorter : capBackoff sleepFor (gate :: gates) now =
          capBackoff (min sleepFor time) gates now := by
        simp [capBackoff, left]
      have either : min sleepFor time = 0 ↔ sleepFor = 0 ∨ time = 0 := by omega
      rw [shorter, ih, either]
      simp only [List.mem_cons, exists_eq_or_imp, due, or_assoc]

/-- The wait at the top of the loop is nothing exactly when a gate is due. -/
theorem wait_eq_zero (state : ReconnectLoop) (top : Nat) :
    state.wait top = 0 ↔ state.socketGone.Due top ∨ state.daemonGone.Due top := by
  have scheduled : nextReconnectDelay state.backoff ≠ 0 :=
    (nextReconnectDelay_pos state.backoff).ne'
  unfold ReconnectLoop.wait
  rw [capBackoff_eq_zero]
  simp [scheduled]

/-- A park that no hint and no key ended was ended by the timer. -/
private theorem parks_by_timer {isRemote : Bool} {input : PassInput}
    (parks : input.parks isRemote = true) (noHint : input.wake ≠ .netChanged) :
    input.wake = .timer := by
  cases wake : input.wake <;> simp_all [PassInput.parks, PassInput.interrupts]

/-- A look for the socket that no hint and no key led to was led to by the timer. -/
private theorem finds_by_timer {isRemote : Bool} {input : PassInput}
    (finds : input.findsSocketGone isRemote = true) (noHint : input.wake ≠ .netChanged)
    (noKey : input.wake ≠ .key) : input.wake = .timer := by
  cases wake : input.wake <;> simp_all [PassInput.findsSocketGone, PassInput.interrupts]

/-- A pass that looks for the socket does not park. -/
private theorem finds_not_parks {isRemote : Bool} {input : PassInput}
    (finds : input.findsSocketGone isRemote = true) : input.parks isRemote = false := by
  by_contra parks
  simp [PassInput.findsSocketGone, parks] at finds

/-- The gates have their graces, and no pass spun. -/
structure Unspun (state : ReconnectLoop) : Prop where
  graced : Graced state
  calm : NeverSpins state

/-- One more pass did not spin either. -/
private theorem neverSpins_cons {state next : ReconnectLoop} {record : PassRecord}
    (log : next.log = record :: state.log) (calm : NeverSpins state) :
    NeverSpins next ↔ (record.wait = 0 → record.wake ≠ .netChanged → record.wake ≠ .key →
      record.outcome = .attempted ∨ record.outcome = .daemonGone ∨ record.exits = true) := by
  unfold NeverSpins
  rw [log]
  simp only [List.forall_mem_cons]
  exact and_iff_left calm

/-- A pass whose wait a due gate did not waste keeps the loop calm. -/
theorem step_unspun {isRemote : Bool} {state next : ReconnectLoop} {input : PassInput}
    (unspun : Unspun state) (decided : DueIsDecided isRemote state input)
    (stepped : state.step isRemote input = some next) : Unspun next := by
  obtain ⟨graced, calm⟩ := unspun
  obtain ⟨enabled, passed⟩ := ReconnectLoop.step_cases stepped
  refine ⟨graced.passed passed, ?_⟩
  -- A wait of nothing comes from a due gate, and only the timer is left to end it.
  have dueAt := (wait_eq_zero state input.top).mp
  cases passed with
  | interrupted time interrupts exit log socketGone daemonGone =>
    rw [neverSpins_cons log calm]
    simp
  | parked time parks exit log socketGone daemonGone =>
    rw [neverSpins_cons log calm]
    intro zero noHint _
    have timer := parks_by_timer parks noHint
    exact absurd parks (by simp [(decided enabled (dueAt zero) timer).1])
  | socketGone tripped finds observed exit log daemonGone =>
    rw [neverSpins_cons log calm]
    intro zero noHint noKey
    have timer := finds_by_timer finds noHint noKey
    have due := (decided enabled (dueAt zero) timer).2 finds
    have trips := (PersistenceGate.tripped_iff_due graced.socket_positive input.checked).mpr due
    rw [observed] at trips
    exact Or.inr (Or.inr trips)
  | daemonGone tripped present observed exit log socketGone =>
    rw [neverSpins_cons log calm]
    simp
  | attempted exits present exit log socketGone daemonGone =>
    rw [neverSpins_cons log calm]
    simp

/-- A pass whose wait a due gate wasted spins. -/
theorem undecided_spins {isRemote : Bool} {state : ReconnectLoop} {input : PassInput}
    (unspun : Unspun state) (undecided : ¬ DueIsDecided isRemote state input) :
    ∃ next, state.step isRemote input = some next ∧ ¬ NeverSpins next := by
  obtain ⟨graced, calm⟩ := unspun
  have enabled : state.Enabled input := by
    by_contra disabled
    exact undecided fun enabled => absurd enabled disabled
  obtain ⟨next, stepped, passed⟩ := ReconnectLoop.step_of_enabled isRemote enabled
  refine ⟨next, stepped, fun calmNext => undecided fun _ due timer => ?_⟩
  have zero : state.wait input.top = 0 := (wait_eq_zero state input.top).mpr due
  have noHint : input.wake ≠ .netChanged := by simp [timer]
  have noKey : input.wake ≠ .key := by simp [timer]
  cases passed with
  | interrupted time interrupts exit log socketGone daemonGone =>
    simp [PassInput.interrupts, timer] at interrupts
  | parked time parks exit log socketGone daemonGone =>
    -- A park without a wait is a spin.
    rw [neverSpins_cons log calm] at calmNext
    simpa using calmNext zero noHint noKey
  | socketGone tripped finds observed exit log daemonGone =>
    rw [neverSpins_cons log calm] at calmNext
    have trips : tripped = true := by simpa using calmNext zero noHint noKey
    refine ⟨finds_not_parks finds, fun _ => ?_⟩
    rw [← PersistenceGate.tripped_iff_due graced.socket_positive, observed]
    exact trips
  | daemonGone tripped present observed exit log socketGone =>
    exact ⟨present.1, fun finds => by simp [present.2] at finds⟩
  | attempted exits present exit log socketGone daemonGone =>
    exact ⟨present.1, fun finds => by simp [present.2] at finds⟩

/-- The reconnect loop never spins along a run exactly when every gate that is due at the top is decided in the pass. -/
theorem never_spins_iff (isRemote : Bool) (entered : Nat) (inputs : List PassInput) :
    (reconnect isRemote entered).Along NeverSpins (.new entered) inputs ↔
      (reconnect isRemote entered).Meets (DueIsDecided isRemote) (.new entered) inputs := by
  -- No pass has been made where the loop is entered.
  have start : Unspun (.new entered) := ⟨new_graced entered, by simp [NeverSpins, ReconnectLoop.new]⟩
  refine Machine.along_iff_meets (fun state (unspun : Unspun state) => unspun.calm) ?_ ?_ start
    inputs
  · intro state input next unspun decided stepped
    exact step_unspun unspun decided stepped
  · intro state input unspun undecided
    exact undecided_spins unspun undecided

/-- A refused connection that starts the daemon's gate, and then passes that find no route. -/
def parkedOverDueGate : List PassInput :=
  let refused : PassInput :=
    { top          := 0
      woken        := 1 * second
      checked      := 1 * second
      ended        := 1 * second
      wake         := .timer
      unsatisfied  := false
      lockHeld     := false
      socketExists := true
      probe        := .connectErr true }
  let offline (top woken : Nat) : PassInput :=
    { refused with
      top         := top * second
      woken       := woken * second
      checked     := woken * second
      ended       := woken * second
      unsatisfied := true }
  [refused, offline 1 3, offline 3 5, offline 5 6, offline 6 6, offline 6 6]

/-- Without a route, the loop goes around at once as soon as the daemon's gate is due. -/
theorem due_gate_spins :
    ∃ last, (reconnect true 0).run (.new 0) parkedOverDueGate = some last ∧
      last.exit = none ∧ last.now = 6 * second ∧
      (⟨6 * second, 0, .timer, .parked, false⟩ : PassRecord) ∈ last.log ∧ ¬ NeverSpins last := by
  refine ⟨_, rfl, by decide, by decide, by decide, ?_⟩
  intro calm
  exact absurd (calm ⟨6 * second, 0, .timer, .parked, false⟩ (by decide)) (by decide)

end Gritty
