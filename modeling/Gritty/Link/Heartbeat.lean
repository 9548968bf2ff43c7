import Gritty.Lib.Transition
import Gritty.Link.ClampHeartbeat

/-! A client's heartbeat and the server's idle timer, over every timing of the frames between them. -/

namespace Gritty

/-- A second, in nanoseconds. All times are in nanoseconds since the connection started. -/
def second : Nat := 1000000000

/-- Why a relay gives its link up without a failed send. -/
inductive LinkExit where
  | heartbeatTimeout
  | staleKeystroke
  deriving DecidableEq

/-- What happens on a link. -/
inductive LinkEvent where
  /-- A frame of the server arrives. A pong answers the oldest ping. -/
  | serverFrame (pong : Bool)
  /-- The client sends any frame. -/
  | clientFrame
  /-- The user types, which sends a frame if the link is not stale. -/
  | keystroke
  /-- The network path changed, which sends a ping. -/
  | networkChanged
  /-- The client returns from a suspension, and sends its size. -/
  | resumed
  | tick
  /-- The server reads the oldest frame of the client. -/
  | serverReads
  | serverEvicts
  deriving DecidableEq

/-- An event at a moment. -/
structure LinkAction where
  time : Nat
  event : LinkEvent
  deriving DecidableEq

/-- A client and its server, by the clocks they keep on their link. -/
structure LinkState where
  now : Nat
  /-- When the client last got a frame. -/
  lastActivity : Nat
  /-- When the client last sent a frame. -/
  lastOutboundAt : Nat
  nextTick : Nat
  exit : Option LinkExit
  /-- When the pings without an answer were sent, oldest first. -/
  unanswered : List Nat
  /-- When the connection started and every frame of the client was sent, newest first. -/
  sent : List Nat
  /-- When the frames that the server has not read were sent, oldest first. -/
  inFlight : List Nat
  /-- When the server last read a frame. -/
  lastClientFrameAt : Nat
  evicted : Bool
  deriving DecidableEq

/-- Time that has passed, and none if the clock went backward. -/
def wallElapsed (since now : Nat) : Nat := now - since

/-- More than the timeout has passed since the server was last heard. -/
def linkIsStale (lastActivity timeout now : Nat) : Bool := timeout < wallElapsed lastActivity now

namespace LinkState

/-- A connection that has just started. -/
def new (heartbeat : Heartbeat) : LinkState where
  now := 0
  lastActivity := 0
  lastOutboundAt := 0
  nextTick := heartbeat.interval * second
  exit := none
  unanswered := []
  sent := [0]
  inFlight := []
  lastClientFrameAt := 0
  evicted := false

/-- The client sends a frame. -/
def timedSend (state : LinkState) : LinkState :=
  { state with
    lastOutboundAt := state.now
    sent := state.now :: state.sent
    inFlight := state.inFlight ++ [state.now] }

/-- The client sends a ping. -/
def ping (state : LinkState) : LinkState :=
  { state.timedSend with unanswered := state.unanswered ++ [state.now] }

/-- The heartbeat tick gives the link up, or sends a ping after silence either way. -/
def heartbeatTick (heartbeat : Heartbeat) (state : LinkState) : LinkState :=
  let interval := heartbeat.interval * second
  if linkIsStale state.lastActivity (heartbeat.timeout * second) state.now then
    { state with exit := some .heartbeatTimeout }
  else
    let inboundIdle := interval ≤ wallElapsed state.lastActivity state.now
    if interval ≤ state.now - state.lastOutboundAt ∨ inboundIdle then state.ping else state

/-- The interval's tick fires, and the next one is due an interval later whatever is done now. -/
def intervalTick (heartbeat : Heartbeat) (state : LinkState) : LinkState :=
  { state.heartbeatTick heartbeat with nextTick := state.now + heartbeat.interval * second }

/-- The event happens now. -/
def handle (heartbeat : Heartbeat) (state : LinkState) : LinkEvent → Option LinkState
  | .serverFrame pong =>
    some { state with
      lastActivity := state.now
      unanswered := if pong then state.unanswered.tail else state.unanswered }
  | .clientFrame => some state.timedSend
  | .keystroke =>
    if linkIsStale state.lastActivity (heartbeat.timeout * second) state.now then
      some { state with exit := some .staleKeystroke }
    else some state.timedSend
  | .networkChanged => some state.ping
  | .resumed =>
    some { state.timedSend with
      nextTick := state.now + heartbeat.interval * second
      lastActivity := state.now }
  | .tick => if state.now = state.nextTick then some (state.intervalTick heartbeat) else none
  | .serverReads =>
    match state.inFlight with
    | _ :: later => some { state with inFlight := later, lastClientFrameAt := state.now }
    | [] => none
  | .serverEvicts =>
    if state.lastClientFrameAt + idleEvictTimeoutSecs * second ≤ state.now then
      some { state with evicted := true }
    else none

/-- One event. Time does not go back, no tick is late, and a relay that is over does nothing. -/
def step (heartbeat : Heartbeat) (state : LinkState) (action : LinkAction) : Option LinkState :=
  if state.exit.isSome ∨ action.time < state.now ∨ state.nextTick < action.time then none
  else { state with now := action.time }.handle heartbeat action.event

end LinkState

/-- A link from its start. -/
def link (heartbeat : Heartbeat) : Machine LinkState LinkAction where
  init := .new heartbeat
  step := LinkState.step heartbeat

/-- The server answers every ping within less than a second. -/
def AnswersPings (state : LinkState) (action : LinkAction) : Prop :=
  ∀ sentAt ∈ state.unanswered, action.time < sentAt + second

/-- Every frame of the client is read within the safety margin. -/
def DeliversInTime (state : LinkState) (action : LinkAction) : Prop :=
  ∀ sentAt ∈ state.inFlight, action.time ≤ sentAt + idleEvictSafetyMarginSecs * second

namespace LinkState

variable {heartbeat : Heartbeat}

/-- What a step asks for, and the state its event is handled in. -/
theorem step_handle {state next : LinkState} {action : LinkAction}
    (stepped : state.step heartbeat action = some next) :
    state.exit = none ∧ state.now ≤ action.time ∧ action.time ≤ state.nextTick ∧
      { state with now := action.time }.handle heartbeat action.event = some next := by
  unfold step at stepped
  split at stepped
  · exact absurd stepped nofun
  · next allowed =>
    simp only [not_or, Nat.not_lt, Bool.not_eq_true, Option.isSome_eq_false_iff,
      Option.isNone_iff_eq_none] at allowed
    exact ⟨allowed.1, allowed.2.1, allowed.2.2, stepped⟩

/-- The tick of a link that is not stale sends a ping after silence either way. -/
theorem heartbeatTick_alive {state : LinkState}
    (alive : state.now ≤ state.lastActivity + heartbeat.timeout * second) :
    state.heartbeatTick heartbeat =
      if heartbeat.interval * second ≤ state.now - state.lastOutboundAt ∨
          heartbeat.interval * second ≤ state.now - state.lastActivity then state.ping
      else state := by
  have within : ¬ heartbeat.timeout * second < state.now - state.lastActivity := by omega
  have notStale : linkIsStale state.lastActivity (heartbeat.timeout * second) state.now = false :=
    decide_eq_false within
  unfold heartbeatTick
  rw [notStale, if_neg Bool.false_ne_true]
  rfl

/-- The tick of a stale link gives it up. -/
theorem heartbeatTick_stale {state : LinkState}
    (stale : state.lastActivity + heartbeat.timeout * second < state.now) :
    state.heartbeatTick heartbeat = { state with exit := some .heartbeatTimeout } := by
  have past : heartbeat.timeout * second < state.now - state.lastActivity := by omega
  have isStale : linkIsStale state.lastActivity (heartbeat.timeout * second) state.now = true :=
    decide_eq_true past
  unfold heartbeatTick
  rw [isStale, if_pos rfl]

/--
The server has been heard since the tick before the last one, or a ping was sent at the last one.

Every tick is an interval after the one before it.
-/
structure Heard (heartbeat : Heartbeat) (state : LinkState) : Prop where
  ticking : state.nextTick ≤ state.now + heartbeat.interval * second
  heard : state.nextTick < state.lastActivity + 2 * (heartbeat.interval * second) ∨
    ∃ sentAt ∈ state.unanswered, state.nextTick = sentAt + heartbeat.interval * second
  alive : state.exit ≠ some .heartbeatTimeout

/-- A new heartbeat counts as heard. -/
theorem heard_new (heartbeat : Heartbeat) : Heard heartbeat (new heartbeat) := by
  have positive := heartbeat.positive
  have some_ : 0 < heartbeat.interval * second := Nat.mul_pos positive (by decide)
  refine ⟨Nat.le_add_left _ _, Or.inl ?_, nofun⟩
  show heartbeat.interval * second < 0 + 2 * (heartbeat.interval * second)
  omega

/-- With a timeout of two intervals, no event makes a link whose pings are answered look stale. -/
theorem Heard.step {state next : LinkState} {action : LinkAction}
    (long : 2 * heartbeat.interval ≤ heartbeat.timeout) (heard : Heard heartbeat state)
    (answered : AnswersPings state action) (stepped : state.step heartbeat action = some next) :
    Heard heartbeat next := by
  obtain ⟨running, forward, punctual, handled⟩ := step_handle stepped
  obtain ⟨ticking, recent, alive⟩ := heard
  have some_ : 0 < heartbeat.interval * second := Nat.mul_pos heartbeat.positive (by decide)
  have longer : 2 * (heartbeat.interval * second) ≤ heartbeat.timeout * second := by
    rw [← Nat.mul_assoc]
    exact Nat.mul_le_mul_right second long
  have still : state.nextTick ≤ action.time + heartbeat.interval * second := by omega
  cases event : action.event with
  | serverFrame pong =>
    rw [event] at handled
    cases handled
    exact ⟨still, Or.inl (by show state.nextTick < action.time + _; omega), alive⟩
  | clientFrame =>
    rw [event] at handled
    cases handled
    exact ⟨still, recent, alive⟩
  | keystroke =>
    rw [event] at handled
    simp only [handle] at handled
    split at handled
    · cases handled
      exact ⟨still, recent, nofun⟩
    · cases handled
      exact ⟨still, recent, alive⟩
  | networkChanged =>
    rw [event] at handled
    cases handled
    refine ⟨still, recent.imp_right ?_, alive⟩
    rintro ⟨sentAt, waiting, due⟩
    exact ⟨sentAt, List.mem_append_left _ waiting, due⟩
  | resumed =>
    rw [event] at handled
    cases handled
    exact ⟨Nat.le_refl _, Or.inl (by show action.time + _ < action.time + _; omega), alive⟩
  | tick =>
    rw [event] at handled
    simp only [handle] at handled
    split at handled
    · next onTime =>
      cases handled
      -- The answer to a ping of the last tick came in within a second, which an interval lasts.
      have lately : state.nextTick < state.lastActivity + 2 * (heartbeat.interval * second) := by
        rcases recent with lately | ⟨sentAt, waiting, due⟩
        · exact lately
        · have inTime := answered sentAt waiting
          have lasts : 1 * second ≤ heartbeat.interval * second :=
            Nat.mul_le_mul_right second heartbeat.positive
          omega
      unfold intervalTick
      rw [heartbeatTick_alive (by show action.time ≤ state.lastActivity + _; omega)]
      split
      · refine ⟨Nat.le_refl _, Or.inr ⟨action.time, ?_, rfl⟩, alive⟩
        exact List.mem_append_right _ (List.mem_singleton_self _)
      · next busy =>
        refine ⟨Nat.le_refl _, Or.inl ?_, alive⟩
        have inbound : ¬ heartbeat.interval * second ≤ action.time - state.lastActivity :=
          (not_or.mp busy).2
        show action.time + _ < state.lastActivity + _
        omega
    · exact absurd handled nofun
  | serverReads =>
    rw [event] at handled
    simp only [handle] at handled
    split at handled
    · cases handled
      exact ⟨still, recent, alive⟩
    · exact absurd handled nofun
  | serverEvicts =>
    rw [event] at handled
    simp only [handle] at handled
    split at handled
    · cases handled
      exact ⟨still, recent, alive⟩
    · exact absurd handled nofun

/-- Frames of the client follow each other within two intervals, and the server reads them in order. -/
structure Sending (heartbeat : Heartbeat) (state : LinkState) : Prop where
  ticking : state.nextTick ≤ state.now + heartbeat.interval * second
  punctual : state.now ≤ state.nextTick
  recent : state.now < state.lastOutboundAt + 2 * (heartbeat.interval * second)
  /-- The next tick comes soon enough, if the relay lives to see it. -/
  sending : state.exit = none →
    state.nextTick < state.lastOutboundAt + 2 * (heartbeat.interval * second)
  newest : state.sent.head? = some state.lastOutboundAt
  started : state.sent.getLast? = some 0
  gaps : state.sent.IsChain fun later earlier => later < earlier + 2 * (heartbeat.interval * second)
  past : ∀ sentAt ∈ state.inFlight, sentAt ≤ state.now
  /-- What the server read last, and what it has still to read. -/
  reading : ∃ lastRead, lastRead ≤ state.lastClientFrameAt ∧
    (lastRead :: state.inFlight).IsChain
      (fun earlier later => later < earlier + 2 * (heartbeat.interval * second)) ∧
    (lastRead :: state.inFlight).getLast? = some state.lastOutboundAt

/-- A new heartbeat has not missed a sending. -/
theorem sending_new (heartbeat : Heartbeat) : Sending heartbeat (new heartbeat) := by
  have some_ : 0 < heartbeat.interval * second := Nat.mul_pos heartbeat.positive (by decide)
  refine ⟨Nat.le_add_left _ _, Nat.zero_le _, ?_, fun _ => ?_, rfl, rfl, List.isChain_singleton _,
    nofun, 0, Nat.le_refl 0, List.isChain_singleton _, rfl⟩
  · show 0 < 0 + 2 * (heartbeat.interval * second)
    omega
  · show heartbeat.interval * second < 0 + 2 * (heartbeat.interval * second)
    omega

/-- Time passes until the next tick. -/
theorem Sending.wait {state : LinkState} (sending : Sending heartbeat state) {time : Nat}
    (running : state.exit = none) (forward : state.now ≤ time) (punctual : time ≤ state.nextTick) :
    Sending heartbeat { state with now := time } := by
  refine { sending with
    ticking := Nat.le_trans sending.ticking (Nat.add_le_add_right forward _)
    punctual
    recent := Nat.lt_of_le_of_lt punctual (sending.sending running)
    past := fun sentAt waiting => Nat.le_trans (sending.past sentAt waiting) forward }

/-- A frame is sent. -/
theorem Sending.timedSend {state : LinkState} (sending : Sending heartbeat state) :
    Sending heartbeat state.timedSend := by
  obtain ⟨ticking, punctual, close, soon, newest, started, gaps, past, lastRead, before, chain, last⟩ :=
    sending
  have some_ : 0 < heartbeat.interval * second := Nat.mul_pos heartbeat.positive (by decide)
  refine ⟨ticking, punctual, ?_, fun _ => ?_, rfl, ?_, ?_, ?_, lastRead, before, ?_, ?_⟩
  · show state.now < state.now + 2 * (heartbeat.interval * second)
    omega
  · show state.nextTick < state.now + 2 * (heartbeat.interval * second)
    omega
  · show (state.now :: state.sent).getLast? = some 0
    rw [List.getLast?_cons, started]
    rfl
  · -- The newest frame so far is the last one sent.
    apply List.isChain_cons.mpr ⟨?_, gaps⟩
    intro earlier found
    rw [newest] at found
    cases found
    exact close
  · intro sentAt waiting
    rcases List.mem_append.mp waiting with old | new
    · exact past sentAt old
    · exact Nat.le_of_eq (List.mem_singleton.mp new)
  · show (lastRead :: (state.inFlight ++ [state.now])).IsChain _
    rw [← List.cons_append]
    apply List.isChain_append.mpr ⟨chain, List.isChain_singleton _, ?_⟩
    intro earlier found later new
    rw [last] at found
    cases found
    cases new
    exact close
  · show (lastRead :: (state.inFlight ++ [state.now])).getLast? = some state.now
    rw [← List.cons_append, List.getLast?_concat]

/-- No event lets the client fall silent for two intervals. -/
theorem Sending.step {state next : LinkState} {action : LinkAction}
    (sending : Sending heartbeat state) (stepped : state.step heartbeat action = some next) :
    Sending heartbeat next := by
  obtain ⟨running, forward, punctual, handled⟩ := step_handle stepped
  have waited := sending.wait running forward punctual
  have some_ : 0 < heartbeat.interval * second := Nat.mul_pos heartbeat.positive (by decide)
  have sent := waited.timedSend
  cases event : action.event with
  | serverFrame pong =>
    rw [event] at handled
    cases handled
    exact { waited with }
  | clientFrame =>
    rw [event] at handled
    cases handled
    exact sent
  | keystroke =>
    rw [event] at handled
    simp only [handle] at handled
    split at handled
    · cases handled
      exact { waited with sending := nofun }
    · cases handled
      exact sent
  | networkChanged =>
    rw [event] at handled
    cases handled
    exact { sent with }
  | resumed =>
    rw [event] at handled
    cases handled
    refine { sent with
      ticking := Nat.le_refl _
      punctual := Nat.le_add_right _ _
      sending := fun _ => ?_ }
    show action.time + _ < action.time + _
    omega
  | tick =>
    rw [event] at handled
    simp only [handle] at handled
    split at handled
    · next onTime =>
      cases handled
      unfold intervalTick
      by_cases alive : action.time ≤ state.lastActivity + heartbeat.timeout * second
      · rw [heartbeatTick_alive alive]
        split
        · -- After a ping the next tick is one interval away.
          refine { sent with
            ticking := Nat.le_refl _
            punctual := Nat.le_add_right _ _
            sending := fun _ => ?_ }
          show action.time + _ < action.time + _
          omega
        · next busy =>
          have outbound : ¬ heartbeat.interval * second ≤ action.time - state.lastOutboundAt :=
            (not_or.mp busy).1
          refine { waited with
            ticking := Nat.le_refl _
            punctual := Nat.le_add_right _ _
            sending := fun _ => ?_ }
          show action.time + _ < state.lastOutboundAt + _
          omega
      · rw [heartbeatTick_stale (Nat.lt_of_not_le alive)]
        exact { waited with
          ticking := Nat.le_refl _
          punctual := Nat.le_add_right _ _
          sending := nofun }
    · exact absurd handled nofun
  | serverReads =>
    rw [event] at handled
    simp only [handle] at handled
    split at handled
    · next first later held =>
      cases handled
      obtain ⟨lastRead, before, chain, last⟩ := waited.reading
      rw [held] at chain last
      have waiting : first ∈ state.inFlight := held ▸ List.mem_cons_self
      have inside : ∀ sentAt ∈ later, sentAt ∈ state.inFlight := by
        intro sentAt member
        rw [show state.inFlight = first :: later from held]
        exact List.mem_cons_of_mem _ member
      refine { waited with
        past := fun sentAt member => waited.past sentAt (inside sentAt member)
        reading := ⟨first, waited.past first waiting, chain.tail, ?_⟩ }
      rw [← last, List.getLast?_cons_cons]
    · exact absurd handled nofun
  | serverEvicts =>
    rw [event] at handled
    simp only [handle] at handled
    split at handled
    · cases handled
      exact { waited with }
    · exact absurd handled nofun

/-- Two intervals and the safety margin are less than the server waits. -/
theorem patience (heartbeat : Heartbeat) :
    2 * (heartbeat.interval * second) + idleEvictSafetyMarginSecs * second <
      idleEvictTimeoutSecs * second := by
  have exceeds := heartbeat.exceeds
  have bounded := heartbeat.bounded
  have ceiling : idleEvictCeilingSecs = 80 := rfl
  unfold idleEvictSafetyMarginSecs idleEvictTimeoutSecs second
  omega

/-- A frame read after a bounded silence is in time for a longer window. -/
theorem not_silent {lastRead lastClientFrameAt now silence window : Nat}
    (before : lastRead ≤ lastClientFrameAt) (soon : now < lastRead + silence)
    (long : silence < window) : ¬ lastClientFrameAt + window ≤ now := by
  omega

/-- The server evicts only after a silence as long as its window. -/
theorem handle_serverEvicts {state next : LinkState}
    (handled : state.handle heartbeat .serverEvicts = some next) :
    state.lastClientFrameAt + idleEvictTimeoutSecs * second ≤ state.now := by
  unfold handle at handled
  by_contra early
  rw [if_neg early] at handled
  exact absurd handled nofun

/-- Nothing but an eviction evicts. -/
theorem handle_evicted {state next : LinkState} {event : LinkEvent} (other : event ≠ .serverEvicts)
    (handled : state.handle heartbeat event = some next) : next.evicted = state.evicted := by
  cases event with
  | serverEvicts => exact absurd rfl other
  | keystroke =>
    simp only [handle] at handled
    split at handled <;> (obtain rfl := Option.some.inj handled; rfl)
  | tick =>
    simp only [handle] at handled
    split at handled
    · cases handled
      unfold intervalTick
      by_cases alive : state.now ≤ state.lastActivity + heartbeat.timeout * second
      · rw [heartbeatTick_alive alive]
        split <;> rfl
      · rw [heartbeatTick_stale (Nat.lt_of_not_le alive)]
    · exact absurd handled nofun
  | serverReads =>
    simp only [handle] at handled
    split at handled
    · cases handled
      rfl
    · exact absurd handled nofun
  | _ =>
    cases handled
    rfl

/-- With frames delivered in time, the server never runs out of patience. -/
theorem Sending.kept {state next : LinkState} {action : LinkAction}
    (sending : Sending heartbeat state) (delivers : DeliversInTime state action)
    (stepped : state.step heartbeat action = some next) (present : state.evicted = false) :
    next.evicted = false := by
  obtain ⟨running, forward, punctual, handled⟩ := step_handle stepped
  by_cases evicts : action.event = .serverEvicts
  · exfalso
    rw [evicts] at handled
    have silent := handle_serverEvicts handled
    obtain ⟨lastRead, before, chain, last⟩ := sending.reading
    refine not_silent before ?_ (patience heartbeat) silent
    -- The oldest frame on its way is not late, or the client has not been silent for two intervals.
    show action.time < _
    cases waiting : state.inFlight with
    | nil =>
      rw [waiting] at last
      cases last
      have soon := sending.sending running
      exact Nat.lt_of_le_of_lt punctual
        (Nat.lt_of_lt_of_le soon (Nat.add_le_add_left (Nat.le_add_right _ _) _))
    | cons first later =>
      rw [waiting] at chain
      have next_ : first < lastRead + 2 * (heartbeat.interval * second) :=
        (List.isChain_cons_cons.mp chain).1
      have inTime := delivers first (waiting ▸ List.mem_cons_self)
      rw [← Nat.add_assoc]
      exact Nat.lt_of_le_of_lt inTime (Nat.add_lt_add_right next_ _)
  · rw [handle_evicted evicts handled]
    exact present

/-- An event that is allowed is handled at its time. -/
theorem step_eq {state : LinkState} {action : LinkAction} (running : state.exit = none)
    (forward : state.now ≤ action.time) (punctual : action.time ≤ state.nextTick) :
    state.step heartbeat action = { state with now := action.time }.handle heartbeat action.event := by
  unfold step
  rw [if_neg]
  simp [running, Nat.not_lt.mpr forward, Nat.not_lt.mpr punctual]

/-- Everything that was sent either way has come in, and the next tick is an interval away. -/
structure Rested (heartbeat : Heartbeat) (state : LinkState) : Prop where
  running : state.exit = none
  heard : state.lastActivity = state.now
  spoken : state.lastOutboundAt = state.now
  due : state.nextTick = state.now + heartbeat.interval * second
  answered : state.unanswered = []
  read : state.inFlight = []

/-- A tick after a silent interval, and the ping of it that is read and answered. -/
def quietRound (time : Nat) : List LinkAction :=
  [⟨time, .tick⟩, ⟨time, .serverReads⟩, ⟨time, .serverFrame true⟩]

/-- So many intervals in which nobody says anything else. -/
def quietRounds (heartbeat : Heartbeat) (start : Nat) : Nat → List LinkAction
  | 0 => []
  | rounds + 1 =>
    quietRound (start + heartbeat.interval * second) ++
      quietRounds heartbeat (start + heartbeat.interval * second) rounds

/-- A quiet round brings a link at rest past its next tick, to rest again. -/
theorem Rested.round {state : LinkState} (rested : Rested heartbeat state) :
    ∃ next, (link heartbeat).run state (quietRound (state.now + heartbeat.interval * second)) =
        some next ∧ Rested heartbeat next ∧ next.now = state.now + heartbeat.interval * second ∧
      ∀ later, (link heartbeat).Meets DeliversInTime next later →
        (link heartbeat).Meets DeliversInTime state
          (quietRound (state.now + heartbeat.interval * second) ++ later) := by
  obtain ⟨now, lastActivity, lastOutboundAt, nextTick, exit, unanswered, sent, inFlight, readAt,
    evicted⟩ := state
  obtain ⟨running, heard, spoken, due, answered, read⟩ := rested
  dsimp only at running heard spoken due answered read
  subst running heard spoken due answered read
  let time := lastOutboundAt + heartbeat.interval * second
  -- The ping of the tick is the only frame on its way.
  let waited : LinkState :=
    ⟨time, lastOutboundAt, lastOutboundAt, time, none, [], sent, [], readAt, evicted⟩
  let ticked : LinkState := { waited.ping with nextTick := time + heartbeat.interval * second }
  let read : LinkState := { ticked with inFlight := [], lastClientFrameAt := time }
  let answered : LinkState := { read with lastActivity := time, unanswered := [] }
  have ticks : LinkState.step heartbeat
      ⟨lastOutboundAt, lastOutboundAt, lastOutboundAt, time, none, [], sent, [], readAt, evicted⟩
      ⟨time, .tick⟩ = some ticked := by
    have exceeds : heartbeat.interval * second ≤ heartbeat.timeout * second :=
      Nat.mul_le_mul_right second (Nat.le_of_lt heartbeat.exceeds)
    have alive : waited.now ≤ waited.lastActivity + heartbeat.timeout * second :=
      Nat.add_le_add_left exceeds _
    have silent : heartbeat.interval * second ≤ waited.now - waited.lastOutboundAt :=
      Nat.le_of_eq (Nat.add_sub_cancel_left ..).symm
    rw [step_eq rfl (Nat.le_add_right _ _) (Nat.le_refl _)]
    show (if time = time then some (waited.intervalTick heartbeat) else none) = some ticked
    rw [if_pos rfl, intervalTick, heartbeatTick_alive alive, if_pos (Or.inl silent)]
  have soon : time ≤ time + heartbeat.interval * second := Nat.le_add_right _ _
  have reads : ticked.step heartbeat ⟨time, .serverReads⟩ = some read :=
    step_eq rfl (Nat.le_refl _) soon
  have answers : read.step heartbeat ⟨time, .serverFrame true⟩ = some answered :=
    step_eq rfl (Nat.le_refl _) soon
  refine ⟨answered, ?_, ⟨rfl, rfl, rfl, rfl, rfl, rfl⟩, rfl, fun later delivers => ?_⟩
  · unfold quietRound
    rw [Machine.run_cons ticks, Machine.run_cons reads, Machine.run_cons answers]
    rfl
  · refine Machine.meets_cons nofun ticks (Machine.meets_cons ?_ reads
      (Machine.meets_cons nofun answers delivers))
    intro sentAt waiting
    rw [List.mem_singleton.mp waiting]
    exact Nat.le_add_right _ _

/-- Time gets past any number of ticks on a link on which pings are read and answered. -/
theorem Rested.rounds {state : LinkState} (rested : Rested heartbeat state) (rounds : Nat) :
    (link heartbeat).Meets DeliversInTime state (quietRounds heartbeat state.now rounds) ∧
      ∃ last, (link heartbeat).run state (quietRounds heartbeat state.now rounds) = some last ∧
        Rested heartbeat last ∧ last.now = state.now + rounds * (heartbeat.interval * second) := by
  -- The induction goes from one round to the next, each of which ends at rest.
  induction rounds generalizing state with
  | zero => exact ⟨trivial, state, rfl, rested, by rw [Nat.zero_mul, Nat.add_zero]⟩
  | succ rounds ih =>
    obtain ⟨next, ran, again, reached, meets⟩ := rested.round
    obtain ⟨delivers, last, ranOn, rests, there⟩ := ih again
    rw [reached] at delivers ranOn there
    refine ⟨meets _ delivers, last, ?_, rests, ?_⟩
    · rw [quietRounds, Machine.run_append, ran]
      exact ranOn
    · rw [there, Nat.succ_mul, Nat.add_assoc, Nat.add_comm (rounds * _)]

/-- A frame either way right after the start, and then nothing but ticks. -/
def busyThenSilent (heartbeat : Heartbeat) : List LinkAction :=
  [⟨1, .serverFrame false⟩, ⟨1, .clientFrame⟩, ⟨heartbeat.interval * second, .tick⟩,
    ⟨2 * (heartbeat.interval * second), .tick⟩]

/-- With a timeout below two intervals, a tick gives the link up before any ping was sent. -/
theorem busyThenSilent_stale (short : heartbeat.timeout < 2 * heartbeat.interval) :
    ∃ last, (link heartbeat).Meets AnswersPings (new heartbeat) (busyThenSilent heartbeat) ∧
      (link heartbeat).run (new heartbeat) (busyThenSilent heartbeat) = some last ∧
      last.exit = some .heartbeatTimeout := by
  have lasts : 1 * second ≤ heartbeat.interval * second :=
    Nat.mul_le_mul_right second heartbeat.positive
  have exceeds : heartbeat.interval * second ≤ heartbeat.timeout * second :=
    Nat.mul_le_mul_right second (Nat.le_of_lt heartbeat.exceeds)
  have shorter : heartbeat.timeout * second + second ≤ 2 * (heartbeat.interval * second) := by
    rw [← Nat.mul_assoc, ← Nat.succ_mul]
    exact Nat.mul_le_mul_right second short
  have tiny : 1 < second := by decide
  -- The frame of the server, and the frame of the client.
  let heard : LinkState := { new heartbeat with now := 1, lastActivity := 1 }
  have first : (new heartbeat).step heartbeat ⟨1, .serverFrame false⟩ = some heard :=
    step_eq rfl (Nat.zero_le _) (by show 1 ≤ heartbeat.interval * second; omega)
  have second_ : heard.step heartbeat ⟨1, .clientFrame⟩ = some heard.timedSend :=
    step_eq rfl (Nat.le_refl _) (by show 1 ≤ heartbeat.interval * second; omega)
  -- One nanosecond is missing to a whole interval of silence at the first tick.
  let waited : LinkState := { heard.timedSend with now := heartbeat.interval * second }
  let ticked : LinkState :=
    { waited with nextTick := heartbeat.interval * second + heartbeat.interval * second }
  have third : heard.timedSend.step heartbeat ⟨heartbeat.interval * second, .tick⟩ =
      some ticked := by
    have alive : waited.now ≤ waited.lastActivity + heartbeat.timeout * second := by
      show heartbeat.interval * second ≤ 1 + heartbeat.timeout * second
      omega
    have busy : ¬ (heartbeat.interval * second ≤ waited.now - waited.lastOutboundAt ∨
        heartbeat.interval * second ≤ waited.now - waited.lastActivity) := by
      show ¬ (heartbeat.interval * second ≤ heartbeat.interval * second - 1 ∨
        heartbeat.interval * second ≤ heartbeat.interval * second - 1)
      omega
    have quiet := heartbeatTick_alive alive
    rw [if_neg busy] at quiet
    rw [step_eq rfl (show 1 ≤ heartbeat.interval * second by omega) (Nat.le_refl _)]
    show (if heartbeat.interval * second = heartbeat.interval * second then
      some (waited.intervalTick heartbeat) else none) = some ticked
    rw [if_pos rfl, intervalTick, quiet]
  -- At the second tick the silence is longer than the timeout.
  let late : LinkState := { ticked with now := 2 * (heartbeat.interval * second) }
  let dropped : LinkState := { late with
    exit := some .heartbeatTimeout
    nextTick := 2 * (heartbeat.interval * second) + heartbeat.interval * second }
  have fourth : ticked.step heartbeat ⟨2 * (heartbeat.interval * second), .tick⟩ = some dropped := by
    have stale : late.lastActivity + heartbeat.timeout * second < late.now := by
      show 1 + heartbeat.timeout * second < 2 * (heartbeat.interval * second)
      omega
    have due : 2 * (heartbeat.interval * second) =
        heartbeat.interval * second + heartbeat.interval * second := Nat.two_mul _
    rw [step_eq rfl (Nat.le_mul_of_pos_left _ (by decide)) (Nat.le_of_eq due)]
    show (if 2 * (heartbeat.interval * second) = heartbeat.interval * second +
      heartbeat.interval * second then some (late.intervalTick heartbeat) else none) = _
    rw [if_pos due, intervalTick, heartbeatTick_stale stale]
  refine ⟨dropped, ?_, ?_, rfl⟩
  · -- No ping is ever waiting for an answer.
    refine Machine.meets_cons nofun first (Machine.meets_cons nofun second_
      (Machine.meets_cons nofun third (Machine.meets_cons nofun fourth trivial)))
  · unfold busyThenSilent
    rw [Machine.run_cons first, Machine.run_cons second_, Machine.run_cons third,
      Machine.run_cons fourth]
    rfl

end LinkState

/--
The tick never gives up a link whose pings are answered, in any run, exactly when the timeout is at
least two intervals.
-/
theorem never_stale_iff (rawInterval rawTimeout : Nat) :
    (∀ actions last, (link (resolveHeartbeat rawInterval rawTimeout)).Meets AnswersPings
        (.new (resolveHeartbeat rawInterval rawTimeout)) actions →
      (link (resolveHeartbeat rawInterval rawTimeout)).run
        (.new (resolveHeartbeat rawInterval rawTimeout)) actions = some last →
      last.exit ≠ some .heartbeatTimeout) ↔
      2 * (resolveHeartbeat rawInterval rawTimeout).interval ≤
        (resolveHeartbeat rawInterval rawTimeout).timeout := by
  generalize resolveHeartbeat rawInterval rawTimeout = heartbeat
  constructor
  · intro never
    by_contra short
    obtain ⟨last, answers, ran, exited⟩ :=
      LinkState.busyThenSilent_stale (Nat.lt_of_not_le short)
    exact never _ last answers ran exited
  · intro long actions last answers ran
    have heard : LinkState.Heard heartbeat last := by
      refine Machine.run_induction ?_ (LinkState.heard_new heartbeat) answers ran
      intro state action next heard answered stepped
      exact heard.step long answered stepped
    exact heard.alive

/--
The clamped settings keep their bounds, and with them the client never falls silent for as long as
the server waits; with its frames read within the safety margin, the server never evicts it.
-/
theorem never_evicted (rawInterval rawTimeout : Nat) :
    (1 ≤ (clampHeartbeat rawInterval rawTimeout).1 ∧
      (clampHeartbeat rawInterval rawTimeout).1 < (clampHeartbeat rawInterval rawTimeout).2.1 ∧
      (clampHeartbeat rawInterval rawTimeout).1 + (clampHeartbeat rawInterval rawTimeout).2.1 ≤
        idleEvictTimeoutSecs - idleEvictSafetyMarginSecs) ∧
    ∀ actions last, (link (resolveHeartbeat rawInterval rawTimeout)).run
        (.new (resolveHeartbeat rawInterval rawTimeout)) actions = some last →
      (last.sent.getLast? = some 0 ∧
        last.sent.IsChain (fun later earlier => later < earlier + idleEvictTimeoutSecs * second) ∧
        last.now < last.lastOutboundAt + idleEvictTimeoutSecs * second) ∧
      ((link (resolveHeartbeat rawInterval rawTimeout)).Meets DeliversInTime
        (.new (resolveHeartbeat rawInterval rawTimeout)) actions → last.evicted = false) := by
  refine ⟨clampHeartbeat_bounds rawInterval rawTimeout, ?_⟩
  generalize resolveHeartbeat rawInterval rawTimeout = heartbeat
  intro actions last ran
  have long := LinkState.patience heartbeat
  have two : 2 * (heartbeat.interval * second) ≤ idleEvictTimeoutSecs * second :=
    Nat.le_trans (Nat.le_add_right _ _) (Nat.le_of_lt long)
  have sending : LinkState.Sending heartbeat last := by
    refine Machine.run_invariant ?_ (LinkState.sending_new heartbeat) ran
    intro state action next sending stepped
    exact sending.step stepped
  refine ⟨⟨sending.started, ?_, ?_⟩, ?_⟩
  · exact sending.gaps.imp fun later earlier close =>
      Nat.lt_of_lt_of_le close (Nat.add_le_add_left two _)
  · exact Nat.lt_of_lt_of_le sending.recent (Nat.add_le_add_left two _)
  · intro delivers
    let kept (state : LinkState) : Prop := LinkState.Sending heartbeat state ∧ state.evicted = false
    have start : kept (.new heartbeat) := ⟨LinkState.sending_new heartbeat, rfl⟩
    have ended : kept last := by
      refine Machine.run_induction ?_ start delivers ran
      intro state action next ⟨sending, present⟩ delivered stepped
      exact ⟨sending.step stepped, sending.kept delivered stepped present⟩
    exact ended.2

/-- Over an hour in which nobody says anything, a client with the usual settings is kept. -/
theorem never_evicted_quietHour :
    ∃ last, (link (resolveHeartbeat 10 60)).run (.new (resolveHeartbeat 10 60))
        (LinkState.quietRounds (resolveHeartbeat 10 60) 0 360) = some last ∧
      last.now = 3600 * second ∧ last.exit = none ∧ last.evicted = false := by
  have rested : LinkState.Rested (resolveHeartbeat 10 60) (.new (resolveHeartbeat 10 60)) :=
    ⟨rfl, rfl, rfl, (Nat.zero_add _).symm, rfl, rfl⟩
  obtain ⟨delivers, last, ran, rests, reached⟩ := rested.rounds 360
  refine ⟨last, ran, ?_, rests.running, ((never_evicted 10 60).2 _ last ran).2 delivers⟩
  rw [reached]
  decide

/-- With an interval of ten seconds and a timeout of eleven, a tick gives up a link without a lost frame. -/
theorem healthy_link_given_up :
    ¬ ∀ rawInterval rawTimeout actions last,
      (link (resolveHeartbeat rawInterval rawTimeout)).Meets AnswersPings
        (.new (resolveHeartbeat rawInterval rawTimeout)) actions →
      (link (resolveHeartbeat rawInterval rawTimeout)).run
        (.new (resolveHeartbeat rawInterval rawTimeout)) actions = some last →
      last.exit ≠ some .heartbeatTimeout := by
  intro never
  have short : (resolveHeartbeat 10 11).timeout < 2 * (resolveHeartbeat 10 11).interval := by decide
  obtain ⟨last, answers, ran, exited⟩ := LinkState.busyThenSilent_stale short
  exact never 10 11 _ last answers ran exited

end Gritty
