import Gritty.Daemon.Dispatch
import Gritty.Relay.AgentChannels

/-! Whether a session is listed as forwarding an agent, and whether it does forward one. -/

namespace Gritty

/-- Stop forwarding: the channels, the listener and the socket go. The numbering goes on. -/
def AgentForwardState.disable (agent : AgentForwardState) : AgentForwardState :=
  { agent with enabled := false, channels := ∅, acceptor := false }

/-- How far a session's task is with its clients. -/
inductive ClientStage where
  /-- The metadata is not published. -/
  | unpublished
  /-- Nobody has come yet. -/
  | awaiting
  /-- The first client is here, and the shell is started for it. -/
  | starting
  | relaying
  | detached
  /-- A later client is here, and the output it missed is sent to it. -/
  | replaying
  deriving DecidableEq

/-- A session with the agent forwarding of its task. -/
structure AgentRun where
  session : SessionState
  agent : AgentForwardState
  stage : ClientStage

inductive AgentStep where
  | publish (ptyPath : String) (now : UInt64)
  /-- The daemon hands a connection to the session, and marks the session attached for a client. -/
  | handOff (conn : ClientConn) (now : UInt64)
  /-- The task takes what was handed to it first. -/
  | receive
  /-- The shell of the first client runs, or a later client has been sent what it missed. -/
  | ready (now : UInt64)
  /-- A later client is gone before it has been sent what it missed. -/
  | replayFails (now : UInt64)
  | agentForward (binds : Bool)
  | agentEvent (event : AgentEvent)
  | ping (now : UInt64)
  /-- The client is gone: it left, broke the protocol, was silent for too long, or takes no output. -/
  | leave (now : UInt64)
  | finish

/-- The connection is a client, not one that only reads or transfers. -/
def ClientConn.isActive : ClientConn → Bool
  | .active .. => true
  | _ => false

/-- The session's client is gone as of now. -/
def SessionMetadata.markDetached (metadata : SessionMetadata) (now : UInt64) : SessionMetadata :=
  { metadata with lastHeartbeat := now, attached := false }

namespace AgentRun

/-- A session whose task has been spawned and has done nothing. -/
def new (handle : Nat) (config : SessionConfig) (name : Option String) : AgentRun where
  session :=
    { handle, finished := false, closed := false, metadata := none, config, inbox := [], name }
  agent := { enabled := false, channels := ∅, acceptor := false, nextChannelId := 0 }
  stage := .unpublished

/-- Change what the session publishes about itself, if it has published anything. -/
def writes (run : AgentRun) (change : SessionMetadata → SessionMetadata) : AgentRun :=
  { run with session := { run.session with metadata := run.session.metadata.map change } }

/-- The task ends, and its agent forwarding with it. -/
def finishes (run : AgentRun) : AgentRun :=
  { run with
    session := { run.session with finished := true, closed := true }
    agent := run.agent.disable }

/-- A client takes the place that is free, or that of the client that is served. -/
def welcome (run : AgentRun) : AgentRun :=
  match run.stage with
  | .awaiting => { run with stage := .starting }
  | .detached => { run with stage := .replaying }
  | .relaying => { run with agent := run.agent.disable }
  | _ => run

/-- The task reads what is handed to it. -/
def receives : ClientStage → Bool
  | .awaiting | .detached | .relaying => true
  | .unpublished | .starting | .replaying => false

/-- One step of the session or, about the session, of the daemon. -/
def step (run : AgentRun) (action : AgentStep) : Option AgentRun :=
  -- A task that has ended takes part in nothing; its session is only waiting to be reaped.
  if run.session.finished then none
  else
    match action with
    | .publish ptyPath now =>
      -- The task fills in what is listed about it, before any client is handed to it.
      if run.stage = .unpublished then
        some { run with
          session := run.session.initialized true ptyPath now
          stage := .awaiting }
      else none
    | .handOff conn now =>
      -- The daemon counts a client as attached as soon as it hands the client over.
      let run := if conn.isActive then run.writes (·.markAttached now) else run
      some { run with session := run.session.send conn }
    | .receive =>
      if receives run.stage then
        match run.session.inbox with
        | [] => none
        | conn :: later =>
          let run := { run with session := { run.session with inbox := later } }
          match conn with
          -- The takeover of a relaying client turns its forwarding off, but not its flag.
          | .active .. => some run.welcome
          | .tail _ | .send _ => some run
          | .shutdown => some run.finishes
      else none
    | .ready now =>
      if run.stage = .starting ∨ run.stage = .replaying then
        some { run.writes (·.markAttached now) with stage := .relaying }
      else none
    | .replayFails now =>
      if run.stage = .replaying then
        some { run.writes (·.markDetached now) with stage := .detached }
      else none
    | .agentForward binds =>
      if run.stage = .relaying then
        -- The flag goes up with the acceptor, whether or not the socket could be bound.
        some { run.writes ({ · with wantsAgent := true }) with agent := run.agent.enable binds }
      else none
    | .agentEvent event => some { run with agent := (run.agent.handleAgentEvent event).1 }
    | .ping now =>
      if run.stage = .relaying then some (run.writes ({ · with lastHeartbeat := now })) else none
    | .leave now =>
      if run.stage = .relaying then
        some { run.writes (·.markDetached now) with
          -- The client's forwarding ends with it, and its flag is left where it is.
          agent := run.agent.disable
          stage := .detached }
      else none
    | .finish => some run.finishes

/-- The entry of a session that runs says whether the client that is attached forwards its agent. -/
def Advertised (run : AgentRun) : Prop :=
  run.session.finished = false →
    ∀ processes lastAttached id,
      (Sessions.sessionEntry processes lastAttached id run.session).agentForwardingActive =
        run.agent.enabled

/-- The client that forwards its agent goes, or another client takes its place. -/
def Abandons (run : AgentRun) : AgentStep → Bool
  | .leave _ => !run.session.finished && run.agent.enabled && run.stage = .relaying
  | .receive =>
    !run.session.finished && run.agent.enabled && run.stage = .relaying &&
      run.session.inbox.head?.any (·.isActive)
  | _ => false

/-- What is published is what is so. -/
structure InStep (run : AgentRun) : Prop where
  published : run.stage ≠ .unpublished → run.session.metadata.isSome = true
  agrees : run.session.finished = false →
    run.session.metadata.any (·.wantsAgent) = run.agent.enabled

end AgentRun

/-- A session with its clients and its agent forwarding. -/
def agentStatusMachine (handle : Nat) (config : SessionConfig) (name : Option String) :
    Machine AgentRun AgentStep where
  init := .new handle config name
  step := AgentRun.step

namespace AgentRun

variable {run next : AgentRun}

/-- The listed status is what the session's metadata say. -/
theorem entry_agentForwardingActive (processes : UInt32 → String × String)
    (lastAttached : Option UInt32) (id : UInt32) (session : SessionState) :
    (Sessions.sessionEntry processes lastAttached id session).agentForwardingActive =
      session.metadata.any (·.wantsAgent) := by
  unfold Sessions.sessionEntry
  -- Nothing published is listed as the default entry, whose flag is off.
  cases session.metadata <;> rfl

/-- The status is advertised exactly if a session that runs has it in its metadata as it is. -/
theorem advertised_iff : run.Advertised ↔
    (run.session.finished = false → run.session.metadata.any (·.wantsAgent) = run.agent.enabled) := by
  constructor
  · intro advertised running
    -- Any environment of the listing shows the flag, so one that is easy to name will do.
    rw [← advertised running (fun _ => ("", "")) none 0, entry_agentForwardingActive]
  · intro agrees running processes lastAttached id
    rw [entry_agentForwardingActive, agrees running]

/-- Writes that leave the flag alone leave it as it is. -/
theorem writes_wantsAgent {change : SessionMetadata → SessionMetadata}
    (alone : ∀ metadata, (change metadata).wantsAgent = metadata.wantsAgent) :
    (run.writes change).session.metadata.any (·.wantsAgent) =
      run.session.metadata.any (·.wantsAgent) := by
  unfold writes
  cases run.session.metadata with
  | none => rfl
  | some metadata => exact alone metadata

theorem writes_isSome {change : SessionMetadata → SessionMetadata} :
    (run.writes change).session.metadata.isSome = run.session.metadata.isSome :=
  Option.isSome_map

theorem InStep.new (handle : Nat) (config : SessionConfig) (name : Option String) :
    (AgentRun.new handle config name).InStep where
  published early := absurd rfl early
  agrees _ := rfl

/-- The end of the task leaves nothing to be listed. -/
theorem InStep.finishes (inStep : run.InStep) : run.finishes.InStep where
  published := inStep.published
  agrees ended := nomatch ended

/-- A write that leaves the agent's field alone keeps the two in step. -/
theorem InStep.writes (inStep : run.InStep) {change : SessionMetadata → SessionMetadata}
    (alone : ∀ metadata, (change metadata).wantsAgent = metadata.wantsAgent) :
    (run.writes change).InStep where
  published later := by
    rw [writes_isSome]
    exact inStep.published later
  agrees running := by
    rw [writes_wantsAgent alone]
    exact inStep.agrees running

/-- The flag and the forwarding stay as they are when the task goes on to another stage. -/
theorem InStep.goes (inStep : run.InStep) {stage : ClientStage} (early : run.stage ≠ .unpublished) :
    { run with stage }.InStep where
  published _ := inStep.published early
  agrees := inStep.agrees

theorem handleAgentEvent_enabled (agent : AgentForwardState) (event : AgentEvent) :
    (agent.handleAgentEvent event).1.enabled = agent.enabled := by
  -- Whatever the channels do, no event of theirs turns forwarding on or off.
  unfold AgentForwardState.handleAgentEvent
  split <;> split_ifs <;> rfl

/-- Nothing is lost when nothing is forwarded. -/
theorem InStep.disable (inStep : run.InStep) (off : run.agent.enabled = false) :
    { run with agent := run.agent.disable }.InStep where
  published := inStep.published
  agrees running := (inStep.agrees running).trans off

/-- Other connections than clients do not count as attached. -/
theorem InStep.handOff (inStep : run.InStep) (conn : ClientConn) (now : UInt64) :
    InStep { (if conn.isActive then run.writes (·.markAttached now) else run) with
      session := (if conn.isActive then run.writes (·.markAttached now) else run).session.send
        conn } := by
  -- The write that counts the client as attached does not touch the flag.
  have marked : (if conn.isActive then run.writes (·.markAttached now) else run).InStep := by
    split_ifs
    · exact inStep.writes fun _ => rfl
    · exact inStep
  generalize (if conn.isActive then run.writes (·.markAttached now) else run) = before at marked ⊢
  unfold SessionState.send
  split_ifs
  · exact marked
  · exact ⟨marked.published, marked.agrees⟩

/-- A client is welcomed without harm where no other one forwards its agent. -/
theorem InStep.welcome (inStep : run.InStep)
    (free : run.stage = .relaying → run.agent.enabled = false) : run.welcome.InStep := by
  unfold AgentRun.welcome
  -- Only the takeover of a relaying client touches the forwarding.
  split
  · next stage => exact inStep.goes (by rw [stage]; decide)
  · next stage => exact inStep.goes (by rw [stage]; decide)
  · next stage => exact inStep.disable (free stage)
  · exact inStep

theorem step_running {action : AgentStep} (stepped : run.step action = some next) :
    run.session.finished = false := by
  cases ended : run.session.finished with
  | false => rfl
  | true =>
    unfold step at stepped
    rw [if_pos ended] at stepped
    cases stepped

/-- What is published stays what is so, unless a client is gone whose agent was forwarded. -/
theorem inStep_step {action : AgentStep} (inStep : run.InStep)
    (keeps : run.Abandons action = false) (stepped : run.step action = some next) :
    next.InStep := by
  have running := step_running stepped
  unfold step at stepped
  rw [if_neg (Bool.eq_false_iff.mp running)] at stepped
  -- Each step writes to the flag or to the forwarding, or to neither; only two of them write to one alone.
  cases action with
  | publish ptyPath now =>
    dsimp only at stepped
    split_ifs at stepped with early
    cases stepped
    unfold SessionState.initialized
    split
    · next metadata there => exact ⟨fun _ => by rw [there]; rfl, inStep.agrees⟩
    · next missing =>
      -- Nothing was published, so nothing was forwarded.
      have off := inStep.agrees running
      rw [missing] at off
      exact ⟨fun _ => rfl, fun _ => off⟩
  | handOff conn now =>
    cases stepped
    exact inStep.handOff conn now
  | receive =>
    dsimp only at stepped
    split_ifs at stepped with reads
    split at stepped
    · cases stepped
    · next conn later inbox =>
      have popped : InStep { run with session := { run.session with inbox := later } } :=
        ⟨inStep.published, inStep.agrees⟩
      split at stepped
      · cases stepped
        refine popped.welcome fun served => ?_
        -- Only a welcome while relaying disables, and then the step would be one that abandons.
        have relaying : run.stage = .relaying := served
        simp only [Abandons, running, inbox, relaying, ClientConn.isActive, Bool.not_false,
          Bool.true_and, decide_true, Bool.and_true, List.head?_cons, Option.any_some] at keeps
        exact keeps
      · cases stepped
        exact popped
      · cases stepped
        exact popped
      · cases stepped
        exact popped.finishes
  | ready now =>
    dsimp only at stepped
    split_ifs at stepped with before
    cases stepped
    have marked : (run.writes (·.markAttached now)).InStep := inStep.writes fun _ => rfl
    refine marked.goes fun early => ?_
    rcases before with starting | replaying
    · exact absurd (starting.symm.trans early) (by decide)
    · exact absurd (replaying.symm.trans early) (by decide)
  | replayFails now =>
    dsimp only at stepped
    split_ifs at stepped with before
    cases stepped
    have marked : (run.writes (·.markDetached now)).InStep := inStep.writes fun _ => rfl
    exact marked.goes fun early => absurd (before.symm.trans early) (by decide)
  | agentForward binds =>
    dsimp only at stepped
    split_ifs at stepped with relaying
    cases stepped
    obtain ⟨metadata, there⟩ := Option.isSome_iff_exists.mp
      -- The flag is written into what was published, which there has to be by now.
      (inStep.published (by rw [relaying]; decide))
    refine ⟨fun later => ?_, fun _ => ?_⟩
    · rw [writes_isSome]
      exact inStep.published later
    · rw [writes, there]
      rfl
  | agentEvent event =>
    cases stepped
    refine ⟨inStep.published, fun going => (inStep.agrees going).trans ?_⟩
    exact (handleAgentEvent_enabled run.agent event).symm
  | ping now =>
    dsimp only at stepped
    split_ifs at stepped with relaying
    cases stepped
    exact inStep.writes fun _ => rfl
  | leave now =>
    dsimp only at stepped
    split_ifs at stepped with relaying
    cases stepped
    -- The step does not abandon, so nothing was forwarded when the client left.
    simp only [Abandons, running, relaying, Bool.not_false, Bool.true_and, decide_true,
      Bool.and_true] at keeps
    have marked : (run.writes (·.markDetached now)).InStep := inStep.writes fun _ => rfl
    exact (marked.disable keeps).goes fun early => absurd (relaying.symm.trans early) (by decide)
  | finish =>
    cases stepped
    exact inStep.finishes

/-- A session is not listed truly while its flag is set and nothing is forwarded. -/
theorem not_advertised (running : run.session.finished = false)
    (flag : run.session.metadata.any (·.wantsAgent) = true) (off : run.agent.enabled = false) :
    ¬ run.Advertised := by
  -- The listing agrees with the forwarding, and here the two differ.
  intro advertised
  have agrees := advertised_iff.mp advertised running
  rw [flag, off] at agrees
  cases agrees

/-- Once its client is gone, the session is still listed as forwarding an agent. -/
theorem abandons_breaks {action : AgentStep} (inStep : run.InStep)
    (abandons : run.Abandons action = true) :
    ∃ next, run.step action = some next ∧ ¬ next.Advertised := by
  -- There are two ways to abandon: the client leaves, or the next one takes over.
  unfold Abandons at abandons
  split at abandons
  · next now =>
    simp only [Bool.and_eq_true, Bool.not_eq_true', decide_eq_true_eq] at abandons
    obtain ⟨⟨running, enabled⟩, relaying⟩ := abandons
    refine ⟨{ run.writes (·.markDetached now) with
        agent := run.agent.disable
        stage := .detached }, ?_, not_advertised running ?_ rfl⟩
    · unfold step
      rw [if_neg (Bool.eq_false_iff.mp running)]
      exact if_pos relaying
    · have marked : (run.writes (·.markDetached now)).InStep := inStep.writes fun _ => rfl
      exact (marked.agrees running).trans enabled
  -- The flag stayed up, and the forwarding went down with the client.
  · simp only [Bool.and_eq_true, Bool.not_eq_true', decide_eq_true_eq] at abandons
    obtain ⟨⟨⟨running, enabled⟩, relaying⟩, client⟩ := abandons
    -- What is at the head of the inbox is a client, and the task is about to welcome it.
    cases inbox : run.session.inbox with
    | nil =>
      rw [inbox] at client
      cases client
    | cons conn later =>
      rw [inbox] at client
      cases conn with
      | active connection clientName capabilities cols rows renderedOffset lineDirty isFresh =>
        refine ⟨{ run with
            session := { run.session with inbox := later }
            agent := run.agent.disable }, ?_, not_advertised running ?_ rfl⟩
        · unfold step
          rw [if_neg (Bool.eq_false_iff.mp running)]
          dsimp only
          rw [if_pos (by rw [relaying]; rfl), inbox]
          dsimp only
          rw [welcome]
          dsimp only
          rw [relaying]
        · exact (inStep.agrees running).trans enabled
      | tail connection => cases client
      | send connection => cases client
      | shutdown => cases client
  · cases abandons

end AgentRun

section

variable (handle : Nat) (config : SessionConfig) (name : Option String)

/--
A session is listed as forwarding an agent exactly while it does forward one, all along a run.

That is so if and only if no client goes, or gives up its place, that forwards its agent.
-/
theorem agent_advertised_iff (actions : List AgentStep) :
    (agentStatusMachine handle config name).Along AgentRun.Advertised
        (.new handle config name) actions ↔
      (agentStatusMachine handle config name).Meets
        (fun run action => run.Abandons action = false) (.new handle config name) actions := by
  have holds : ∀ run, AgentRun.InStep run → run.Advertised :=
    fun run inStep => AgentRun.advertised_iff.mpr inStep.agrees
  have preserved : ∀ run action next, AgentRun.InStep run → run.Abandons action = false →
      (agentStatusMachine handle config name).step run action = some next → next.InStep :=
    fun run action next inStep keeps stepped => AgentRun.inStep_step inStep keeps stepped
  have broken : ∀ run action, AgentRun.InStep run → ¬ run.Abandons action = false →
      ∃ next, (agentStatusMachine handle config name).step run action = some next ∧
        ¬ next.Advertised :=
    fun run action inStep abandons =>
      AgentRun.abandons_breaks inStep (Bool.eq_true_of_not_eq_false abandons)
  exact Machine.along_iff_meets holds preserved broken (AgentRun.InStep.new handle config name)
    actions

end

/-- A client forwards its agent and leaves; the session is still listed as forwarding it. -/
theorem agent_stillAdvertised :
    ∃ run, (agentStatusMachine 0 ⟨7, 0⟩ none).run (.new 0 ⟨7, 0⟩ none)
        [.publish "/dev/pts/1" 100, .handOff (.active 1 "laptop" 0 0 0 0 false true) 100, .receive,
          .ready 101, .agentForward true, .leave 200] = some run ∧ ¬ run.Advertised := by
  refine ⟨_, rfl, ?_⟩
  exact AgentRun.not_advertised rfl rfl rfl

end Gritty
