import Gritty.Link.Heartbeat
import Gritty.Relay.AgentChannels

/-! The client's guard before its SSH agent: how often, and how long after the last keystroke, the server may use it. -/

namespace Gritty

/-- The user has not typed for longer than the timeout, if there is one. -/
def isAgentIdle (lastInputAt : Nat) (idleTimeout : Option Nat) (now : Nat) : Bool :=
  idleTimeout.any fun timeout => timeout < wallElapsed lastInputAt now

/-- How often something may happen within a window of time. -/
structure RateLimiter where
  timestamps : List Nat
  maxCount : Nat
  window : Nat
  deriving DecidableEq

/-- Whether it may happen once more, by the monotonic clock. -/
def RateLimiter.check (limiter : RateLimiter) (now : Nat) : RateLimiter × Bool :=
  let timestamps := limiter.timestamps.dropWhile fun stamp => limiter.window < now - stamp
  if limiter.maxCount ≤ timestamps.length then ({ limiter with timestamps }, false)
  else ({ limiter with timestamps := timestamps ++ [now] }, true)

/-- What the settings say about the agent. -/
structure AgentConfig where
  /-- There is an agent, and it is forwarded. -/
  agentSocket : Bool
  agentIdleTimeout : Option Nat
  deriving DecidableEq

/-- What the server was let do with the agent. -/
inductive AgentUseKind where
  | opened (channelId : UInt32) (conn : ConnId)
  | passed (channelId : UInt32) (bytes : Bytes)
  deriving DecidableEq

/-- A use of the agent, when it was, and when the user had typed last. -/
structure AgentUse where
  kind : AgentUseKind
  time : Nat
  lastKeystroke : Nat
  deriving DecidableEq

/-- A client, as far as it guards its agent. -/
structure AgentGate where
  now : Nat
  /-- The monotonic clock, which stands still while the machine sleeps. -/
  instant : Nat
  /-- The client relays; otherwise it is about to reconnect. -/
  relaying : Bool
  lastInputAt : Nat
  agent : ClientAgentState
  agentOpenLimiter : RateLimiter
  /-- When the user typed last, and how the agent was used, for the statements below. -/
  lastKeystroke : Nat
  uses : List AgentUse
  deriving DecidableEq

/-- What can happen next. -/
inductive GateAction where
  /-- Time goes by. -/
  | elapse (wall monotonic : Nat)
  | keystroke
  | disconnect
  | reconnect
  /-- A frame of the server. The agent answers, or not, and a full writer takes nothing. -/
  | serverFrame (frame : Frame) (connects : Option ConnId) (writerFull : Bool)
  /-- A connection to the agent has something to report. -/
  | agentEvent (event : ClientAgentEvent)
  deriving DecidableEq

namespace AgentGate

/-- A client that was just launched: typing the command is the first keystroke. -/
def new (launchedAt : Nat) : AgentGate where
  now := launchedAt
  instant := 0
  relaying := true
  lastInputAt := launchedAt
  agent := { channels := ∅ }
  agentOpenLimiter := { timestamps := [], maxCount := 10, window := 30 * 10 ^ 9 }
  lastKeystroke := launchedAt
  uses := []

/-- The agent is used now. -/
def note (gate : AgentGate) (kind : AgentUseKind) : AgentGate :=
  { gate with
    uses := gate.uses ++ [{ kind, time := gate.now, lastKeystroke := gate.lastKeystroke }] }

/-- The server wants a channel to the agent. -/
def agentOpen (gate : AgentGate) (config : AgentConfig) (channelId : UInt32)
    (connects : Option ConnId) : AgentGate × List Frame :=
  let refused := (gate.agent.agentOpen channelId none).2
  if isAgentIdle gate.lastInputAt config.agentIdleTimeout gate.now then (gate, refused)
  else if config.agentSocket then
    let (agentOpenLimiter, allowed) := gate.agentOpenLimiter.check gate.instant
    let gate := { gate with agentOpenLimiter }
    if allowed then
      let (agent, frames) := gate.agent.agentOpen channelId connects
      match connects with
      | some conn => ({ gate with agent }.note (.opened channelId conn), frames)
      | none => ({ gate with agent }, frames)
    else (gate, refused)
  else (gate, refused)

/-- Whether bytes for a channel get to the channel's writer. -/
def passes (gate : AgentGate) (channelId : UInt32) (bytes : Bytes) (writerFull : Bool) : Bool :=
  (gate.agent.channels.lookup channelId).isSome && !writerFull && bytes ≠ []

/-- Bytes of the server for a channel, which its writer gets unless it is full. -/
def agentData (gate : AgentGate) (channelId : UInt32) (bytes : Bytes) (writerFull : Bool) :
    AgentGate × List Frame :=
  let (agent, frames) := gate.agent.agentData channelId writerFull
  if gate.passes channelId bytes writerFull then
    ({ gate with agent }.note (.passed channelId bytes), frames)
  else ({ gate with agent }, frames)

/-- A frame of the server, and the frames it is answered with. -/
def handleServerFrame (gate : AgentGate) (config : AgentConfig) (frame : Frame)
    (connects : Option ConnId) (writerFull : Bool) : AgentGate × List Frame :=
  match frame with
  | .agentOpen channelId => gate.agentOpen config channelId connects
  | .agentData channelId bytes => gate.agentData channelId bytes writerFull
  | .agentClose channelId =>
    ({ gate with agent := { channels := gate.agent.channels.erase channelId } }, [])
  -- No other frame gets to the agent.
  | _ => (gate, [])

/-- One action, if it can be taken. -/
def step (config : AgentConfig) (gate : AgentGate) : GateAction → Option AgentGate
  | .elapse wall monotonic =>
    some { gate with now := gate.now + wall, instant := gate.instant + monotonic }
  | .keystroke =>
    -- While the client reconnects, what is typed is not counted as input.
    if gate.relaying then some { gate with lastInputAt := gate.now, lastKeystroke := gate.now }
    else some { gate with lastKeystroke := gate.now }
  | .disconnect =>
    if gate.relaying then some { gate with relaying := false, agent := { channels := ∅ } } else none
  | .reconnect => if gate.relaying then none else some { gate with relaying := true }
  | .serverFrame frame connects writerFull =>
    if gate.relaying then some (gate.handleServerFrame config frame connects writerFull).1 else none
  | .agentEvent event =>
    if gate.relaying then some { gate with agent := (gate.agent.handleAgentEvent event).1 } else none

end AgentGate

/-- A client from its launch. -/
def agentGate (config : AgentConfig) (launchedAt : Nat) : Machine AgentGate GateAction where
  init := .new launchedAt
  step := AgentGate.step config

namespace AgentGate

variable {config : AgentConfig} {gate next : AgentGate}

/-- The server never used the agent when the user was idle. -/
def OnlyWhileActive (config : AgentConfig) (gate : AgentGate) : Prop :=
  ∀ timeout, config.agentIdleTimeout = some timeout →
    ∀ use ∈ gate.uses, use.time - use.lastKeystroke ≤ timeout

/-- The server has no bytes for a channel that takes them while the user is idle. -/
def quietWhileIdle (config : AgentConfig) (gate : AgentGate) : GateAction → Bool
  | .serverFrame (.agentData channelId bytes) _ writerFull =>
    !(gate.relaying && gate.passes channelId bytes writerFull &&
      isAgentIdle gate.lastKeystroke config.agentIdleTimeout gate.now)
  | _ => true

/-- What every run keeps: input that was counted was typed. -/
structure Guarded (config : AgentConfig) (gate : AgentGate) : Prop where
  counted : gate.lastInputAt ≤ gate.lastKeystroke
  past : gate.lastInputAt ≤ gate.now
  active : gate.OnlyWhileActive config

/-- Whoever has a timeout is idle after it. -/
theorem isAgentIdle_some {since timeout now : Nat} :
    isAgentIdle since (some timeout) now = true ↔ timeout < now - since := by
  rw [isAgentIdle, Option.any_some, decide_eq_true_eq, wallElapsed]

/-- The user is idle by what was typed only if by what was counted, too. -/
theorem isAgentIdle_mono {typed counted now : Nat} {idleTimeout : Option Nat}
    (older : counted ≤ typed) (idle : isAgentIdle typed idleTimeout now = true) :
    isAgentIdle counted idleTimeout now = true := by
  cases idleTimeout with
  | none => exact idle
  | some timeout =>
    rw [isAgentIdle_some] at idle ⊢
    omega

/-- One more use of the agent is right exactly if the user is not idle. -/
theorem note_active_iff (active : gate.OnlyWhileActive config) (kind : AgentUseKind) :
    (gate.note kind).OnlyWhileActive config ↔
      ¬ isAgentIdle gate.lastKeystroke config.agentIdleTimeout gate.now = true := by
  cases set : config.agentIdleTimeout with
  | none => simp [OnlyWhileActive, set, isAgentIdle]
  | some timeout =>
    have before := active timeout set
    simp only [OnlyWhileActive, set, Option.some.injEq, forall_eq', note, List.forall_mem_append,
      List.forall_mem_singleton]
    rw [isAgentIdle_some, not_lt]
    exact ⟨fun both => both.2, fun last => ⟨before, last⟩⟩

/-- A channel is opened only while the user is not idle. -/
theorem agentOpen_guarded (guarded : gate.Guarded config) (channelId : UInt32)
    (connects : Option ConnId) : (gate.agentOpen config channelId connects).1.Guarded config := by
  unfold agentOpen
  by_cases idle : isAgentIdle gate.lastInputAt config.agentIdleTimeout gate.now = true
  · rw [if_pos idle]
    exact guarded
  have typed : ¬ isAgentIdle gate.lastKeystroke config.agentIdleTimeout gate.now = true :=
    fun typed => idle (isAgentIdle_mono guarded.counted typed)
  rw [if_neg idle]
  by_cases there : config.agentSocket = true
  swap
  · rw [if_neg there]
    exact guarded
  rw [if_pos there]
  by_cases allowed : (gate.agentOpenLimiter.check gate.instant).2 = true
  swap
  · simp only [if_neg allowed]
    exact ⟨guarded.counted, guarded.past, guarded.active⟩
  simp only [if_pos allowed]
  cases connects with
  | none => exact ⟨guarded.counted, guarded.past, guarded.active⟩
  | some conn =>
    have before : OnlyWhileActive config { gate with
        agentOpenLimiter := (gate.agentOpenLimiter.check gate.instant).1
        agent := (gate.agent.agentOpen channelId (some conn)).1 } := guarded.active
    exact ⟨guarded.counted, guarded.past, (note_active_iff before _).mpr typed⟩

/-- Bytes that come while the user is idle are passed on, to a channel that takes them. -/
theorem agentData_active_iff (active : gate.OnlyWhileActive config) (channelId : UInt32)
    (bytes : Bytes) (writerFull : Bool) :
    (gate.agentData channelId bytes writerFull).1.OnlyWhileActive config ↔
      ¬ (gate.passes channelId bytes writerFull = true ∧
        isAgentIdle gate.lastKeystroke config.agentIdleTimeout gate.now = true) := by
  have before : OnlyWhileActive config
      { gate with agent := (gate.agent.agentData channelId writerFull).1 } := active
  unfold agentData
  by_cases passed : gate.passes channelId bytes writerFull = true
  · simp only [passed, if_true, true_and]
    exact note_active_iff before _
  · simp only [if_neg passed]
    exact ⟨fun _ both => passed both.1, fun _ => before⟩

/-- Bytes of the server are no input, and take no time. -/
theorem agentData_clocks (gate : AgentGate) (channelId : UInt32) (bytes : Bytes)
    (writerFull : Bool) :
    (gate.agentData channelId bytes writerFull).1.lastInputAt = gate.lastInputAt ∧
      (gate.agentData channelId bytes writerFull).1.lastKeystroke = gate.lastKeystroke ∧
        (gate.agentData channelId bytes writerFull).1.now = gate.now := by
  unfold agentData
  by_cases passed : gate.passes channelId bytes writerFull = true
  · simp [passed, note]
  · simp [passed]

/-- Whatever happens while the server is quiet when the user is idle, the agent is guarded. -/
theorem step_guarded {action : GateAction} (guarded : gate.Guarded config)
    (quiet : gate.quietWhileIdle config action = true) (stepped : gate.step config action = some next) :
    next.Guarded config := by
  cases action with
  | elapse wall monotonic =>
    cases stepped
    exact ⟨guarded.counted, Nat.le_add_right_of_le guarded.past, guarded.active⟩
  | keystroke =>
    by_cases relaying : gate.relaying = true
    · simp only [AgentGate.step, if_pos relaying, Option.some.injEq] at stepped
      subst stepped
      exact ⟨Nat.le_refl _, Nat.le_refl _, guarded.active⟩
    · simp only [AgentGate.step, if_neg relaying, Option.some.injEq] at stepped
      subst stepped
      exact ⟨guarded.past, guarded.past, guarded.active⟩
  | disconnect =>
    by_cases relaying : gate.relaying = true
    · simp only [AgentGate.step, if_pos relaying, Option.some.injEq] at stepped
      subst stepped
      exact ⟨guarded.counted, guarded.past, guarded.active⟩
    · simp [AgentGate.step, relaying] at stepped
  | reconnect =>
    by_cases relaying : gate.relaying = true
    · simp [AgentGate.step, relaying] at stepped
    · simp only [AgentGate.step, if_neg relaying, Option.some.injEq] at stepped
      subst stepped
      exact ⟨guarded.counted, guarded.past, guarded.active⟩
  | agentEvent event =>
    by_cases relaying : gate.relaying = true
    · simp only [AgentGate.step, if_pos relaying, Option.some.injEq] at stepped
      subst stepped
      exact ⟨guarded.counted, guarded.past, guarded.active⟩
    · simp [AgentGate.step, relaying] at stepped
  | serverFrame frame connects writerFull =>
    by_cases relaying : gate.relaying = true
    swap
    · simp [AgentGate.step, relaying] at stepped
    simp only [AgentGate.step, if_pos relaying, Option.some.injEq] at stepped
    subst stepped
    cases frame with
    | agentOpen channelId => exact agentOpen_guarded guarded channelId connects
    | agentData channelId bytes =>
      simp only [quietWhileIdle, relaying, Bool.true_and, Bool.not_eq_true', Bool.and_eq_false_iff]
        at quiet
      have active := (agentData_active_iff guarded.active channelId bytes writerFull).mpr
        fun ⟨passed, idle⟩ => quiet.elim (by simp [passed]) (by simp [idle])
      obtain ⟨input, typed, now⟩ := agentData_clocks gate channelId bytes writerFull
      exact ⟨by rw [handleServerFrame, input, typed]; exact guarded.counted,
        by rw [handleServerFrame, input, now]; exact guarded.past, active⟩
    | agentClose channelId => exact ⟨guarded.counted, guarded.past, guarded.active⟩
    | _ => exact guarded

/-- Bytes that come for a channel while the user is idle get to the agent. -/
theorem step_unguarded {action : GateAction} (guarded : gate.Guarded config)
    (loud : ¬ gate.quietWhileIdle config action = true) :
    ∃ next, gate.step config action = some next ∧ ¬ next.OnlyWhileActive config := by
  cases action with
  | serverFrame frame connects writerFull =>
    cases frame with
    | agentData channelId bytes =>
      simp only [quietWhileIdle, Bool.not_eq_true', Bool.not_eq_false, Bool.and_eq_true] at loud
      obtain ⟨⟨relaying, passed⟩, idle⟩ := loud
      refine ⟨_, if_pos relaying, fun active => ?_⟩
      exact (agentData_active_iff guarded.active channelId bytes writerFull).mp active ⟨passed, idle⟩
    | _ => simp [quietWhileIdle] at loud
  | _ => simp [quietWhileIdle] at loud

/-- Along every run, the server uses the agent only while the user is not idle, exactly if it sends nothing for an open channel while the user is. -/
theorem onlyWhileActive_along (config : AgentConfig) (launchedAt : Nat) (actions : List GateAction) :
    (agentGate config launchedAt).Along (OnlyWhileActive config) (.new launchedAt) actions ↔
      (agentGate config launchedAt).Meets
        (fun gate action => gate.quietWhileIdle config action = true) (.new launchedAt) actions := by
  have preserved : ∀ gate action next, Guarded config gate →
      gate.quietWhileIdle config action = true →
        (agentGate config launchedAt).step gate action = some next → Guarded config next :=
    fun gate action next guarded quiet stepped => step_guarded guarded quiet stepped
  have broken : ∀ gate action, Guarded config gate → ¬ gate.quietWhileIdle config action = true →
      ∃ next, (agentGate config launchedAt).step gate action = some next ∧
        ¬ next.OnlyWhileActive config :=
    fun gate action guarded loud => step_unguarded guarded loud
  refine Machine.along_iff_meets (fun gate guarded => guarded.active) preserved broken ?_ actions
  exact ⟨Nat.le_refl _, Nat.le_refl _, fun timeout _ use member => by simp [new] at member⟩

/-- The agent is forwarded, with a timeout of ten minutes. -/
private def tenMinutes : AgentConfig where
  agentSocket := true
  agentIdleTimeout := some (600 * 10 ^ 9)

/-- The server opens a channel while the user types, and has something signed over it an hour later. -/
private def keptChannel : List GateAction :=
  [.keystroke, .serverFrame (.agentOpen 1) (some 7) false, .elapse (3600 * 10 ^ 9) (3600 * 10 ^ 9),
    .serverFrame (.agentData 1 [13]) none false]

/-- A channel that was opened in time serves the remote host however long the user is gone. -/
theorem idle_agent_used : ¬ ∀ (config : AgentConfig) (launchedAt : Nat) (actions : List GateAction),
    (agentGate config launchedAt).Along (OnlyWhileActive config) (.new launchedAt) actions := by
  intro all
  have served : ((agentGate tenMinutes 0).run (.new 0) keptChannel).any (fun last =>
      last.uses.any fun use => 600 * 10 ^ 9 < use.time - use.lastKeystroke) = true := by
    decide +kernel
  obtain ⟨last, ran, ended⟩ := (Option.any_eq_true _ _).mp served
  obtain ⟨use, member, late⟩ := List.any_eq_true.mp ended
  have soon := (all tenMinutes 0 keptChannel).last ran (600 * 10 ^ 9) rfl use member
  exact absurd (of_decide_eq_true late) (Nat.not_lt.mpr soon)

end AgentGate

end Gritty
