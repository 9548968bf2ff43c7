import Gritty.Lib.Transition
import Gritty.Relay.Tunnel

/-! When the callback tunnel is scheduled for teardown, and the one way in which it is forgotten. -/

namespace Gritty

/-- The tunnel of a session across its clients. -/
structure IdleRun where
  tunnel : TunnelRelayState
  attached : Bool
  openForwardEnabled : Bool
  /-- A channel was registered since the port was last set. -/
  registered : Bool

inductive IdleAction where
  /-- A client is handed over. It takes the place of the one that is served, if there is one. -/
  | attach
  /-- The client is gone, silent for too long, or breaks the protocol. -/
  | leave
  | openForward
  | openEvent (url : String) (redirectPort : Option UInt16)
  | tunnelOpen (channelId : UInt32) (connected : Option ConnId)
  | tunnelData (channelId : UInt32) (writerFull : Bool)
  | tunnelClose (channelId : UInt32)
  | event (event : TunnelEvent)
  /-- The idle deadline has passed. -/
  | expired

namespace IdleRun

def new : IdleRun :=
  { tunnel := .new, attached := false, openForwardEnabled := false, registered := false }

/-- One step of the session. Without a client, what the relay tasks report is thrown away. -/
def step (run : IdleRun) : IdleAction → Option IdleRun
  | .attach =>
    some { run with
      tunnel := if run.attached then run.tunnel.teardown else run.tunnel
      openForwardEnabled := !run.attached && run.openForwardEnabled
      attached := true }
  | .leave =>
    if run.attached then
      some { run with
        tunnel := run.tunnel.teardown, openForwardEnabled := false, attached := false }
    else none
  | .openForward => if run.attached then some { run with openForwardEnabled := true } else none
  | .openEvent url redirectPort =>
    if run.attached then
      some { run with
        tunnel := (run.tunnel.handleOpenEvent run.openForwardEnabled url redirectPort).1
        registered := run.registered && !(run.openForwardEnabled && redirectPort.isSome) }
    else some run
  | .tunnelOpen channelId connected =>
    if run.attached then
      some { run with
        tunnel := (run.tunnel.tunnelOpen channelId connected).1
        registered := run.registered || (run.tunnel.port.isSome && connected.isSome) }
    else none
  | .tunnelData channelId writerFull =>
    if run.attached then
      some { run with tunnel := (run.tunnel.tunnelData channelId writerFull).1 }
    else none
  | .tunnelClose channelId =>
    if run.attached then some { run with tunnel := run.tunnel.tunnelClose channelId } else none
  | .event event =>
    if run.attached then some { run with tunnel := (run.tunnel.handleTunnelEvent event).1 }
    else some run
  | .expired =>
    if run.attached && run.tunnel.idleDeadline then
      some { run with tunnel := run.tunnel.idleExpired }
    else none

/-- An armed deadline belongs to a tunnel without channels, and ends it when it passes. -/
structure Armed (run : IdleRun) : Prop where
  port : run.tunnel.idleDeadline = true → run.tunnel.port.isSome = true
  idle : run.tunnel.idleDeadline = true → run.tunnel.idle = true
  ends : ∀ next, run.step .expired = some next →
    next.tunnel.port = none ∧ next.tunnel.idleDeadline = false

/-- A tunnel that was used and is used no more has its deadline armed. -/
def Scheduled (run : IdleRun) : Prop :=
  run.tunnel.port.isSome = true → run.tunnel.idle = true → run.registered = true →
    run.tunnel.idleDeadline = true

/-- Nothing listens any more where the tunnel leads, just when its last channel is closed. -/
def Forgets (run : IdleRun) : IdleAction → Bool
  | .tunnelOpen _ none =>
    run.attached && run.tunnel.port.isSome && run.tunnel.idle && run.registered
  | _ => false

end IdleRun

/-- The callback tunnel of a session. -/
def idleMachine : Machine IdleRun IdleAction where
  init := .new
  step := IdleRun.step

namespace TunnelRelayState

/-! ### The deadline on its own -/

/-- The deadline is armed only without channels, for a port that is set. -/
-- The task's timer only runs while the deadline is set, so this is what its firing may rely on.
def Tidy (tunnel : TunnelRelayState) : Prop :=
  tunnel.idleDeadline = true → tunnel.port.isSome = true ∧ tunnel.idle = true

variable {tunnel : TunnelRelayState}

theorem new_tidy : new.Tidy := fun armed => absurd armed (by decide)

/-- The last channel stays the last when it is closed again. -/
theorem idle_erase (idle : tunnel.idle = true) (channelId : UInt32) :
    (tunnel.channels.erase channelId).keys.isEmpty = true := by
  -- A table without channels has none to erase.
  rw [TunnelRelayState.idle, List.isEmpty_iff] at idle
  rw [AList.keys_erase, idle, List.erase_nil]
  rfl

theorem idle_close (tunnel : TunnelRelayState) (channelId : UInt32) :
    (tunnel.close channelId).idle = (tunnel.channels.erase channelId).keys.isEmpty := by
  rw [idle, close_channels]

/-- A close leaves the tunnel tidy. -/
theorem Tidy.close (tidy : tunnel.Tidy) (channelId : UInt32) : (tunnel.close channelId).Tidy := by
  intro armed
  rw [close_idleDeadline, Bool.or_eq_true, Bool.and_eq_true] at armed
  rw [close_port, idle_close]
  -- The deadline was armed before, or it is armed by this very close.
  rcases armed with before | ⟨idle, port⟩
  · obtain ⟨port, idle⟩ := tidy before
    exact ⟨port, idle_erase idle channelId⟩
  · exact ⟨port, idle⟩

/-- A deadline that is not armed is tidy. -/
theorem tidy_of_unarmed (unarmed : tunnel.idleDeadline = false) : tunnel.Tidy :=
  fun armed => absurd armed (by rw [unarmed]; decide)

/-- An open leaves the tunnel tidy. -/
theorem Tidy.tunnelOpen (tidy : tunnel.Tidy) (channelId : UInt32) (connected : Option ConnId) :
    (tunnel.tunnelOpen channelId connected).1.Tidy := by
  -- Whoever opens a channel switches the deadline off, even when the connect fails.
  unfold TunnelRelayState.tunnelOpen
  split
  · exact tidy
  · cases connected with
    | none => exact tidy_of_unarmed rfl
    | some conn => exact tidy_of_unarmed rfl

theorem Tidy.tunnelData (tidy : tunnel.Tidy) (channelId : UInt32) (writerFull : Bool) :
    (tunnel.tunnelData channelId writerFull).1.Tidy := by
  unfold TunnelRelayState.tunnelData
  split
  · exact tidy.close channelId
  · exact tidy

/-- The opening of a URL leaves the tunnel tidy. -/
theorem Tidy.handleOpenEvent (tidy : tunnel.Tidy) (enabled : Bool) (url : String)
    (redirectPort : Option UInt16) : (tunnel.handleOpenEvent enabled url redirectPort).1.Tidy := by
  -- A new port starts without a deadline, and its channels are those of the old one no more.
  unfold TunnelRelayState.handleOpenEvent
  split
  · split
    · exact tidy_of_unarmed rfl
    · exact tidy
  · exact tidy

/-- An event of a channel's task leaves the tunnel tidy. -/
theorem Tidy.handleTunnelEvent (tidy : tunnel.Tidy) (event : TunnelEvent) :
    (tunnel.handleTunnelEvent event).1.Tidy := by
  cases event with
  | data channelId bytes =>
    simp only [TunnelRelayState.handleTunnelEvent]
    split_ifs <;> exact tidy
  | closed channelId =>
    simp only [TunnelRelayState.handleTunnelEvent]
    split_ifs
    · exact tidy.close channelId
    · exact tidy

/-- The deadline of a tidy tunnel passes once: the tunnel is gone. -/
theorem Tidy.idleExpired (tidy : tunnel.Tidy) (armed : tunnel.idleDeadline = true) :
    tunnel.idleExpired = new := by
  rw [TunnelRelayState.idleExpired, if_pos (tidy armed).2, teardown]

/-! ### A tunnel that is no longer used -/

/-- A tunnel that was used before is used, or its deadline is armed. -/
def Owed (tunnel : TunnelRelayState) (registered : Bool) : Prop :=
  tunnel.port.isSome = true → tunnel.idle = true → registered = true → tunnel.idleDeadline = true

/-- Whatever closes the last channel arms the deadline. -/
theorem close_owed (tunnel : TunnelRelayState) (channelId : UInt32) (registered : Bool) :
    (tunnel.close channelId).Owed registered := by
  -- The close arms the deadline by itself whenever it leaves a port without channels.
  intro port idle _
  rw [close_port] at port
  rw [idle_close] at idle
  rw [close_idleDeadline, idle, port, Bool.and_true, Bool.or_true]

theorem new_owed (registered : Bool) : new.Owed registered := fun port => absurd port (by decide)

/-- A channel that was just registered is open. -/
theorem registerTunnelChannel_idle (tunnel : TunnelRelayState) (channelId : UInt32)
    (conn : ConnId) : (tunnel.registerTunnelChannel channelId conn).idle = false := by
  -- The channel is in the table, so the table is not empty.
  have inside : channelId ∈ (tunnel.registerTunnelChannel channelId conn).channels.keys := by
    rw [registerTunnelChannel, AList.keys_insert]
    exact List.mem_cons_self
  cases idle : (tunnel.registerTunnelChannel channelId conn).idle with
  | false => rfl
  | true =>
    rw [TunnelRelayState.idle, List.isEmpty_iff] at idle
    rw [idle] at inside
    exact absurd inside List.not_mem_nil

end TunnelRelayState

namespace IdleRun

variable {run next : IdleRun}

/-- Every step leaves the tunnel tidy. -/
theorem tidy_step {action : IdleAction} (tidy : run.tunnel.Tidy)
    (stepped : run.step action = some next) : next.tunnel.Tidy := by
  -- Each action is one operation of the tunnel, or none while nobody is attached.
  cases action with
  | attach =>
    cases stepped
    dsimp only
    split_ifs
    · exact TunnelRelayState.new_tidy
    · exact tidy
  | leave =>
    simp only [step] at stepped
    split_ifs at stepped
    cases stepped
    exact TunnelRelayState.new_tidy
  | openForward =>
    simp only [step] at stepped
    split_ifs at stepped
    cases stepped
    exact tidy
  | openEvent url redirectPort =>
    simp only [step] at stepped
    split_ifs at stepped <;> cases stepped
    · exact tidy.handleOpenEvent _ url redirectPort
    · exact tidy
  | tunnelOpen channelId connected =>
    simp only [step] at stepped
    split_ifs at stepped
    cases stepped
    exact tidy.tunnelOpen channelId connected
  | tunnelData channelId writerFull =>
    simp only [step] at stepped
    split_ifs at stepped
    cases stepped
    exact tidy.tunnelData channelId writerFull
  | tunnelClose channelId =>
    simp only [step] at stepped
    split_ifs at stepped
    cases stepped
    exact tidy.close channelId
  | event event =>
    simp only [step] at stepped
    split_ifs at stepped <;> cases stepped
    · exact tidy.handleTunnelEvent event
    · exact tidy
  | expired =>
    simp only [step] at stepped
    split_ifs at stepped with due
    cases stepped
    rw [tidy.idleExpired (Bool.and_eq_true _ _ ▸ due).2]
    exact TunnelRelayState.new_tidy

/-- Whatever does not forget the tunnel leaves it used, gone or scheduled. -/
theorem owed_step {action : IdleAction} (tidy : run.tunnel.Tidy)
    (owed : run.tunnel.Owed run.registered) (remembers : run.Forgets action = false)
    (stepped : run.step action = some next) : next.tunnel.Owed next.registered := by
  -- As above, but what was registered with the tunnel has to be followed as well.
  cases action with
  | attach =>
    cases stepped
    dsimp only
    split_ifs
    · exact TunnelRelayState.new_owed _
    · exact owed
  | leave =>
    simp only [step] at stepped
    split_ifs at stepped
    cases stepped
    exact TunnelRelayState.new_owed _
  | openForward =>
    simp only [step] at stepped
    split_ifs at stepped
    cases stepped
    exact owed
  | openEvent url redirectPort =>
    simp only [step] at stepped
    split_ifs at stepped <;> cases stepped
    · unfold TunnelRelayState.handleOpenEvent
      cases enabled : run.openForwardEnabled with
      | false =>
        rw [if_neg Bool.false_ne_true, Bool.false_and, Bool.not_false, Bool.and_true]
        exact owed
      | true =>
        cases redirectPort with
        | none =>
          rw [if_pos rfl, Option.isSome_none, Bool.and_false, Bool.not_false, Bool.and_true]
          exact owed
        | some port =>
          -- The port is set anew, and nothing has been registered since.
          intro _ _ used
          simp only [Option.isSome_some, Bool.and_self, Bool.not_true, Bool.and_false,
            Bool.false_eq_true] at used
    · exact owed
  | tunnelOpen channelId connected =>
    simp only [step] at stepped
    split_ifs at stepped with attached
    cases stepped
    unfold TunnelRelayState.tunnelOpen
    cases port : run.tunnel.port with
    | none =>
      simp only [Option.isSome_none, Bool.false_and, Bool.or_false]
      exact owed
    | some number =>
      cases connected with
      | none =>
        -- The deadline is off now, so the tunnel is in use, or it never was.
        intro _ idle used
        simp only [Option.isSome_none, Bool.and_false, Bool.or_false] at used
        simp only [Forgets, attached, port, Option.isSome_some, Bool.true_and, used, Bool.and_true]
          at remembers
        exact absurd (idle.symm.trans remembers) (by decide)
      | some conn =>
        -- The channel that was opened keeps the tunnel in use.
        intro _ idle _
        dsimp only at idle
        rw [TunnelRelayState.registerTunnelChannel_idle] at idle
        cases idle
  | tunnelData channelId writerFull =>
    simp only [step] at stepped
    split_ifs at stepped
    cases stepped
    dsimp only
    unfold TunnelRelayState.tunnelData
    split_ifs
    -- A writer that is full closes its channel, and a close arms the deadline.
    · exact TunnelRelayState.close_owed _ _ _
    · exact owed
  | tunnelClose channelId =>
    simp only [step] at stepped
    split_ifs at stepped
    cases stepped
    exact TunnelRelayState.close_owed _ _ _
  | event event =>
    simp only [step] at stepped
    split_ifs at stepped <;> cases stepped
    · cases event with
      | data channelId bytes =>
        simp only [TunnelRelayState.handleTunnelEvent]
        split_ifs <;> exact owed
      | closed channelId =>
        simp only [TunnelRelayState.handleTunnelEvent]
        split_ifs
        · exact TunnelRelayState.close_owed _ _ _
        · exact owed
    · exact owed
  | expired =>
    simp only [step] at stepped
    split_ifs at stepped with due
    cases stepped
    rw [tidy.idleExpired (Bool.and_eq_true _ _ ▸ due).2]
    exact TunnelRelayState.new_owed _

/-- A failed connect on behalf of an idle tunnel leaves it without a deadline. -/
theorem forgotten {action : IdleAction} (forgets : run.Forgets action = true) :
    ∃ next, run.step action = some next ∧ ¬ next.Scheduled := by
  unfold Forgets at forgets
  split at forgets
  · rename_i channelId
    simp only [Bool.and_eq_true] at forgets
    obtain ⟨⟨⟨attached, port⟩, idle⟩, used⟩ := forgets
    obtain ⟨number, set⟩ := Option.isSome_iff_exists.mp port
    -- The connect failed: the deadline is off, and nothing else of the tunnel has changed.
    have opened : (run.tunnel.tunnelOpen channelId none).1 =
        { run.tunnel with idleDeadline := false } := by
      simp only [TunnelRelayState.tunnelOpen, set]
    refine ⟨_, by rw [step, if_pos attached], fun scheduled => ?_⟩
    rw [Scheduled, opened, used] at scheduled
    exact Bool.false_ne_true (scheduled port idle rfl)
  · cases forgets

theorem armed_of_tidy (tidy : run.tunnel.Tidy) : run.Armed where
  port armed := (tidy armed).1
  idle armed := (tidy armed).2
  ends next stepped := by
    simp only [step] at stepped
    split_ifs at stepped with due
    cases stepped
    rw [tidy.idleExpired (Bool.and_eq_true _ _ ▸ due).2]
    exact ⟨rfl, rfl⟩

end IdleRun

/--
The deadline is armed only for an idle tunnel, which it ends, in every run.

An idle tunnel that was used has its deadline armed all along a run exactly if none of the run's connects fails while the tunnel is idle after use.
-/
theorem tunnel_scheduled_iff (actions : List IdleAction) :
    idleMachine.Along IdleRun.Armed idleMachine.init actions ∧
      (idleMachine.Along (fun run => run.Armed ∧ run.Scheduled) idleMachine.init actions ↔
        idleMachine.Meets (fun run action => run.Forgets action = false) idleMachine.init
          actions) := by
  constructor
  -- No hypothesis on the actions is needed for the deadline itself.
  · refine Machine.along_of_meets (fun run tidy => IdleRun.armed_of_tidy tidy)
      (fun run action next tidy _ stepped => IdleRun.tidy_step tidy stepped)
      TunnelRelayState.new_tidy (Machine.meets_true _ actions)
  · have start : IdleRun.new.tunnel.Tidy ∧ IdleRun.new.tunnel.Owed false :=
      ⟨TunnelRelayState.new_tidy, TunnelRelayState.new_owed false⟩
    have good : ∀ run : IdleRun, run.tunnel.Tidy ∧ run.tunnel.Owed run.registered →
        run.Armed ∧ run.Scheduled :=
      fun run kept => ⟨IdleRun.armed_of_tidy kept.1, kept.2⟩
    refine Machine.along_iff_meets good ?_ ?_ start actions
    · intro run action next good remembers stepped
      exact ⟨IdleRun.tidy_step good.1 stepped, IdleRun.owed_step good.1 good.2 remembers stepped⟩
    · intro run action good forgets
      obtain ⟨next, stepped, forgotten⟩ := IdleRun.forgotten (Bool.not_eq_false _ ▸ forgets)
      exact ⟨next, stepped, fun both => forgotten both.2⟩

/-- The program that waits for the callback closes its port between two connections. -/
theorem tunnel_forgotten :
    ∃ run, idleMachine.run idleMachine.init
        [.attach, .openForward, .openEvent "https://login" (some 8400), .tunnelOpen 0 (some 0),
          .event (.closed 0), .tunnelOpen 2 none] = some run ∧ ¬ run.Scheduled := by
  refine ⟨_, rfl, fun scheduled => ?_⟩
  exact absurd (scheduled (by decide +kernel) (by decide +kernel) (by decide +kernel))
    (by decide +kernel)

end Gritty
