import Gritty.Lib.Simulation
import Gritty.Session.HistoryWindow

/-! The input that a session holds back for its terminal: how it is queued, drained and counted. -/

namespace Gritty

/-- The most bytes of input that are held back. -/
def pendingInputCap : Nat := 2 ^ 20

/-- Input held back for the terminal, with its bytes counted beside it. -/
structure PendingInput where
  chunks : List Bytes
  bytes : Nat
  deriving DecidableEq

/-- What comes of one write to the terminal. -/
inductive WriteOutcome where
  | wrote (count : Nat)
  | wouldBlock
  /-- The shell has torn down its end. -/
  | eio
  | fails
  deriving DecidableEq

/-- How a call to drain the input ends. -/
inductive DrainEnd where
  | stopped
  | dropped
  | failed
  /-- More was written than had been counted. -/
  | underflowed
  deriving DecidableEq

/-- What a call to drain the input leaves, and what it wrote. -/
structure Drain where
  pending : PendingInput
  written : Bytes
  ended : DrainEnd
  deriving DecidableEq

/-- A write accepts something of what it is offered, unless it is offered nothing. -/
def WriteOutcome.Fits (front : Bytes) : WriteOutcome → Prop
  | .wrote count => count ≤ front.length ∧ (count = 0 → front = [])
  | _ => True

/-- How much a write put into the terminal. -/
def WriteOutcome.count : WriteOutcome → Nat
  | .wrote count => count
  | .wouldBlock | .eio | .fails => 0

instance (front : Bytes) : ∀ outcome : WriteOutcome, Decidable (outcome.Fits front)
  | .wrote _ => inferInstanceAs (Decidable (_ ∧ (_ → _)))
  | .wouldBlock => isTrue trivial
  | .eio => isTrue trivial
  | .fails => isTrue trivial

namespace PendingInput

def new : PendingInput := { chunks := [], bytes := 0 }

/-- The bytes that are queued. -/
def queued (pending : PendingInput) : Bytes := pending.chunks.flatten

/-- A client's frame of input is queued, unless that would be too much. -/
def push (pending : PendingInput) (data : Bytes) : Option PendingInput :=
  if pendingInputCap < pending.bytes + data.length then none
  else some { chunks := pending.chunks ++ [data], bytes := pending.bytes + data.length }

/-- One call to drain the input, by what its writes come to. A call makes no more writes than it has to. -/
def drain : PendingInput → List WriteOutcome → Option Drain
  | ⟨[], bytes⟩, [] => some ⟨⟨[], bytes⟩, [], .stopped⟩
  | ⟨front :: rest, bytes⟩, outcome :: later =>
    if outcome.Fits front then
      match outcome with
      | .wrote count =>
        match checkedSub bytes count with
        | none => if later = [] then some ⟨⟨front :: rest, bytes⟩, front.take count, .underflowed⟩ else none
        | some bytes =>
          -- A chunk that was written in part stays in front with its rest.
          let chunks := if count = front.length then rest else front.drop count :: rest
          (drain ⟨chunks, bytes⟩ later).map fun drained =>
            { drained with written := front.take count ++ drained.written }
      | .wouldBlock => if later = [] then some ⟨⟨front :: rest, bytes⟩, [], .stopped⟩ else none
      -- The shell has torn down its end, so what is queued has nowhere to go.
      | .eio => if later = [] then some ⟨.new, [], .dropped⟩ else none
      | .fails => if later = [] then some ⟨⟨front :: rest, bytes⟩, [], .failed⟩ else none
    else none
  | _, _ => none

/-- The count is that of the bytes queued. -/
structure Counted (pending : PendingInput) : Prop where
  bytes : pending.bytes = (pending.chunks.map List.length).sum
  capped : pending.bytes ≤ pendingInputCap

theorem new_counted : new.Counted where
  bytes := rfl
  capped := Nat.zero_le _

variable {pending next : PendingInput}

/-- A frame that is accepted is counted and queued last. -/
theorem Counted.push (counted : pending.Counted) {data : Bytes}
    (pushed : pending.push data = some next) :
    next.Counted ∧ next.queued = pending.queued ++ data := by
  unfold PendingInput.push at pushed
  split at pushed
  · cases pushed
  · next room =>
    cases pushed
    refine ⟨⟨?_, Nat.le_of_not_lt room⟩, ?_⟩
    · simp [counted.bytes]
    · simp [queued]

/-- Draining keeps the count, and nothing is lost or written twice before the shell is gone. -/
theorem Counted.drain {outcomes : List WriteOutcome} (counted : pending.Counted)
    {drained : Drain} (ran : pending.drain outcomes = some drained) :
    drained.pending.Counted ∧ drained.ended ≠ .underflowed ∧
      drained.written.length = (outcomes.map WriteOutcome.count).sum ∧
      (.eio ∉ outcomes → drained.written ++ drained.pending.queued = pending.queued) := by
  -- The induction follows the writes of the call.
  induction outcomes generalizing pending drained with
  | nil =>
    -- Without a write there was nothing to write.
    obtain ⟨chunks, bytes⟩ := pending
    cases chunks with
    | nil =>
      cases ran
      exact ⟨counted, by simp, rfl, fun _ => rfl⟩
    | cons front rest => cases ran
  | cons outcome later ih =>
    obtain ⟨chunks, bytes⟩ := pending
    cases chunks with
    | nil => cases ran
    | cons front rest =>
      simp only [PendingInput.drain, Option.ite_none_right_eq_some] at ran
      obtain ⟨fits, ran⟩ := ran
      cases outcome with
      | wrote count =>
        -- What is counted are the front chunk and the others.
        have total : bytes = front.length + (rest.map List.length).sum := by
          simpa using counted.bytes
        have within : count ≤ front.length := fits.1
        have enough : count ≤ bytes := by omega
        simp only [checkedSub, if_pos enough, Option.map_eq_some_iff] at ran
        obtain ⟨after, ran, rfl⟩ := ran
        -- The write takes as much off the front of the queue as off the count.
        have kept : (⟨if count = front.length then rest else front.drop count :: rest,
            bytes - count⟩ : PendingInput).Counted := by
          refine ⟨?_, le_trans (Nat.sub_le _ _) counted.capped⟩
          split
          · show bytes - count = (rest.map List.length).sum
            omega
          · simp only [List.map_cons, List.sum_cons, List.length_drop]
            omega
        obtain ⟨countedAfter, sound, length, same⟩ := ih kept ran
        refine ⟨countedAfter, sound, ?_, fun alive => ?_⟩
        · rw [List.map_cons, List.sum_cons, ← length]
          show (front.take count ++ after.written).length = count + after.written.length
          rw [List.length_append, List.length_take_of_le within]
        show front.take count ++ after.written ++ after.pending.queued = front ++ rest.flatten
        -- What the write took and what is behind it in the chunk make up the chunk.
        rw [List.append_assoc, same fun gone => alive (List.mem_cons_of_mem _ gone), queued]
        split
        · next all => rw [all, List.take_length]
        · rw [List.flatten_cons, ← List.append_assoc, List.take_append_drop]
      | wouldBlock =>
        simp only [Option.ite_none_right_eq_some] at ran
        obtain ⟨rfl, ran⟩ := ran
        cases ran
        exact ⟨counted, by simp, rfl, fun _ => rfl⟩
      | eio =>
        simp only [Option.ite_none_right_eq_some] at ran
        obtain ⟨rfl, ran⟩ := ran
        cases ran
        -- Nothing is queued any more, and nothing is promised of what was.
        exact ⟨new_counted, by simp, rfl, fun alive => absurd List.mem_cons_self alive⟩
      | fails =>
        simp only [Option.ite_none_right_eq_some] at ran
        obtain ⟨rfl, ran⟩ := ran
        cases ran
        exact ⟨counted, by simp, rfl, fun _ => rfl⟩

/-- A counted queue takes a frame for which there is room. -/
theorem Counted.push_room (counted : pending.Counted) {data : Bytes}
    (room : pending.queued.length + data.length ≤ pendingInputCap) :
    pending.push data =
      some { chunks := pending.chunks ++ [data], bytes := pending.bytes + data.length } := by
  -- The count is the length of what is queued.
  rw [queued, List.length_flatten, ← counted.bytes] at room
  exact if_neg (Nat.not_lt.mpr room)

/-- A counted queue takes no frame for which there is no room. -/
theorem Counted.push_full (counted : pending.Counted) {data : Bytes}
    (full : ¬ pending.queued.length + data.length ≤ pendingInputCap) : pending.push data = none := by
  rw [queued, List.length_flatten, ← counted.bytes] at full
  exact if_pos (Nat.lt_of_not_le full)

end PendingInput

/-! ### A session's input over all its clients -/

/-- The input of a session. -/
structure TerminalInput where
  pending : PendingInput
  /-- A client is attached. -/
  attached : Bool
  /-- What the terminal was given so far. -/
  written : Bytes
  /-- A write failed, and the session ended. -/
  failed : Bool
  /-- The count ran below zero. -/
  underflowed : Bool
  deriving DecidableEq

/-- What happens to the input of a session. -/
inductive InputAction where
  | attaches
  | leaves
  /-- A client's frame of input. -/
  | data (data : Bytes)
  /-- The terminal can take input, with a client or without. -/
  | writable (outcomes : List WriteOutcome)
  deriving DecidableEq

/-- The writes to the terminal that are made. -/
def InputAction.outcomes : InputAction → List WriteOutcome
  | .writable outcomes => outcomes
  | .attaches | .leaves | .data _ => []

namespace TerminalInput

def new : TerminalInput where
  pending := .new
  attached := true
  written := []
  failed := false
  underflowed := false

/-- One action. A session that ended does nothing. -/
def step (input : TerminalInput) (action : InputAction) : Option TerminalInput :=
  if input.failed || input.underflowed then none
  else
    match action with
    | .attaches => some { input with attached := true }
    | .leaves => some { input with attached := false }
    | .data data =>
      if input.attached then
        match input.pending.push data with
        | some pending => some { input with pending }
        -- The frame is dropped, and the client is not told.
        | none => some input
      else none
    | .writable outcomes =>
      if input.pending.chunks = [] then none
      else
        (input.pending.drain outcomes).map fun drained =>
          { input with
            pending := drained.pending
            written := input.written ++ drained.written
            failed := drained.ended = .failed
            underflowed := drained.ended = .underflowed }

/-- The bytes of an action that are to reach the terminal: those of a frame for which there is room. -/
def accepts (input : TerminalInput) : InputAction → Bytes
  | .data data => if input.pending.queued.length + data.length ≤ pendingInputCap then data else []
  | .attaches | .leaves | .writable _ => []

end TerminalInput

/-- The input of a session from its first client on. -/
def terminalInput : Machine TerminalInput InputAction where
  init := .new
  step := TerminalInput.step

namespace TerminalInput

/-- What a run made of the frames that clients sent and of the writes that were made. -/
structure KeepsOrder (actions : List InputAction) (last : TerminalInput) : Prop where
  counted : last.pending.bytes = (last.pending.chunks.map List.length).sum
  capped : last.pending.bytes ≤ pendingInputCap
  positive : last.underflowed = false
  /-- Every write put into the terminal what it said, and nothing else did. -/
  wrote : last.written.length = ((actions.flatMap InputAction.outcomes).map WriteOutcome.count).sum
  /-- Until the shell is gone, every frame with room in the queue is written or waits, in its order. -/
  order : .eio ∉ actions.flatMap InputAction.outcomes →
    last.written ++ last.pending.queued = terminalInput.trace accepts new actions
  /-- Only a frame that would be too much is not queued, whatever happened before it. -/
  refused : ∀ before data later state next, actions = before ++ .data data :: later →
    terminalInput.run new before = some state → state.step (.data data) = some next →
      next.pending.chunks = state.pending.chunks ++ [data] ∨
        pendingInputCap < (state.pending.chunks.map List.length).sum + data.length

/-- What some writes and some accepted bytes have made of an input. -/
structure Moves (before after : TerminalInput) (outcomes : List WriteOutcome) (accepted : Bytes) :
    Prop where
  counted : after.pending.Counted
  positive : after.underflowed = false
  wrote : after.written.length = before.written.length + (outcomes.map WriteOutcome.count).sum
  order : .eio ∉ outcomes →
    after.written ++ after.pending.queued = before.written ++ before.pending.queued ++ accepted

/-- Moves in turn are moves by all the writes and all the bytes. -/
theorem Moves.trans {first second third : TerminalInput} {outcomes more : List WriteOutcome}
    {accepted others : Bytes} (now : Moves first second outcomes accepted)
    (later : Moves second third more others) :
    Moves first third (outcomes ++ more) (accepted ++ others) where
  counted := later.counted
  positive := later.positive
  wrote := by rw [later.wrote, now.wrote, List.map_append, List.sum_append, Nat.add_assoc]
  order alive := by
    obtain ⟨here, behind⟩ := not_or.mp (List.mem_append.not.mp alive)
    rw [later.order behind, now.order here, List.append_assoc]

/-- Every action moves what it was given. -/
theorem step_moves {input next : TerminalInput} (counted : input.pending.Counted)
    (positive : input.underflowed = false) {action : InputAction}
    (stepped : input.step action = some next) :
    Moves input next action.outcomes (input.accepts action) := by
  simp only [TerminalInput.step, Option.ite_none_left_eq_some] at stepped
  obtain ⟨-, stepped⟩ := stepped
  cases action with
  -- Who is attached does not count for the input.
  | attaches =>
    cases stepped
    exact ⟨counted, positive, rfl, fun _ => (List.append_nil _).symm⟩
  | leaves =>
    cases stepped
    exact ⟨counted, positive, rfl, fun _ => (List.append_nil _).symm⟩
  | data data =>
    simp only [Option.ite_none_right_eq_some] at stepped
    obtain ⟨-, stepped⟩ := stepped
    by_cases room : input.pending.queued.length + data.length ≤ pendingInputCap
    -- The frame is behind whatever was accepted before it.
    · have pushed := counted.push_room room
      rw [pushed] at stepped
      cases stepped
      obtain ⟨countedNext, queued⟩ := counted.push pushed
      refine ⟨countedNext, positive, rfl, fun _ => ?_⟩
      rw [accepts, if_pos room, List.append_assoc, ← queued]
    · rw [counted.push_full room] at stepped
      cases stepped
      refine ⟨counted, positive, rfl, fun _ => ?_⟩
      rw [accepts, if_neg room, List.append_nil]
  | writable outcomes =>
    simp only [Option.ite_none_left_eq_some, Option.map_eq_some_iff] at stepped
    obtain ⟨-, drained, ran, rfl⟩ := stepped
    -- The call moves bytes from the queue to the terminal, in their order.
    obtain ⟨countedNext, sound, length, same⟩ := counted.drain ran
    refine ⟨countedNext, decide_eq_false sound, ?_, fun alive => ?_⟩
    · show (input.written ++ drained.written).length = _
      rw [List.length_append, length]
      rfl
    · show input.written ++ drained.written ++ drained.pending.queued = _
      rw [List.append_assoc, same alive]
      exact (List.append_nil _).symm

/-- A run moves what its frames and its writes have moved in turn. -/
theorem run_moves {input last : TerminalInput} (counted : input.pending.Counted)
    (positive : input.underflowed = false) {actions : List InputAction}
    (ran : terminalInput.run input actions = some last) :
    Moves input last (actions.flatMap InputAction.outcomes)
      (terminalInput.trace accepts input actions) := by
  -- The induction follows the actions, each of which keeps the count that the next one needs.
  induction actions generalizing input with
  | nil =>
    obtain rfl : input = last := Option.some.inj ran
    exact ⟨counted, positive, rfl, fun _ => (List.append_nil _).symm⟩
  | cons action later ih =>
    cases stepped : terminalInput.step input action with
    | none => simp [Machine.run, stepped] at ran
    | some next =>
      rw [Machine.run_cons stepped] at ran
      have now := step_moves counted positive stepped
      rw [Machine.trace_cons stepped, List.flatMap_cons]
      exact now.trans (ih now.counted now.positive ran)

/-- A frame is queued last, unless it would be too much. -/
theorem data_queued {input next : TerminalInput} (counted : input.pending.Counted) {data : Bytes}
    (stepped : input.step (.data data) = some next) :
    next.pending.chunks = input.pending.chunks ++ [data] ∨
      pendingInputCap < (input.pending.chunks.map List.length).sum + data.length := by
  simp only [TerminalInput.step, Option.ite_none_left_eq_some,
    Option.ite_none_right_eq_some] at stepped
  obtain ⟨-, -, stepped⟩ := stepped
  by_cases room : input.pending.queued.length + data.length ≤ pendingInputCap
  · rw [counted.push_room room] at stepped
    cases stepped
    exact Or.inl rfl
  · rw [PendingInput.queued, List.length_flatten] at room
    exact Or.inr (Nat.lt_of_not_le room)

/-- Whatever clients send and the terminal takes, across any number of clients. -/
theorem keepsOrder_run {actions : List InputAction} {last : TerminalInput}
    (ran : terminalInput.run new actions = some last) : KeepsOrder actions last := by
  have moves := run_moves PendingInput.new_counted rfl ran
  refine ⟨moves.counted.bytes, moves.counted.capped, moves.positive, ?_, moves.order, ?_⟩
  -- Nothing was written before the first client.
  · exact moves.wrote.trans (Nat.zero_add _)
  -- The queue was counted when the frame came.
  · intro before data later state next _ reached stepped
    exact data_queued (run_moves PendingInput.new_counted rfl reached).counted stepped

/-- An empty frame, a write in part, and the rest for the next client. -/
def twoClients : List InputAction :=
  [ .data [],
    .data [1, 2, 3],
    .writable [.wrote 0, .wrote 2, .wouldBlock],
    .leaves,
    .writable [.wouldBlock],
    .attaches,
    .data [4],
    .writable [.wrote 1, .wrote 1] ]

theorem keepsOrder_run_twoClients :
    ∃ last, terminalInput.run new twoClients = some last ∧ KeepsOrder twoClients last := by
  have ran : (terminalInput.run new twoClients).isSome := by decide
  obtain ⟨last, ran⟩ := Option.isSome_iff_exists.mp ran
  exact ⟨last, ran, keepsOrder_run ran⟩

/-- The terminal was given all of it. -/
example : (terminalInput.run new twoClients).map (·.written) = some [1, 2, 3, 4] := by decide

end TerminalInput

end Gritty
