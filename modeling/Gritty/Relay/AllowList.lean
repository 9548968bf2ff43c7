import Gritty.Relay.ClientForwards

/-! The ports a client connects to for its server are those its user asked for. -/

namespace Gritty

/-- The port of the last request for a forward that the server listens for, while nothing stopped it. -/
def liveTarget (forwardId : UInt32) : List ForwardLog → Option UInt16
  | [] => none
  | .requested id direction targetPort :: older =>
    if id = forwardId ∧ direction = 0 then some targetPort else liveTarget forwardId older
  | .removed id :: older => if id = forwardId then none else liveTarget forwardId older
  | .connected _ _ :: older => liveTarget forwardId older

/-- A live port is that of a request which nothing stopped since. -/
theorem liveTarget_eq_some {forwardId : UInt32} {log : List ForwardLog} {port : UInt16}
    (live : liveTarget forwardId log = some port) :
    ∃ since before, log = since ++ .requested forwardId 0 port :: before ∧
      .removed forwardId ∉ since := by
  -- The induction follows the log back to the request.
  induction log with
  | nil => simp [liveTarget] at live
  | cons entry older ih =>
    have further (other : entry ≠ .removed forwardId)
        (later : liveTarget forwardId older = some port) :
        ∃ since before, entry :: older = since ++ .requested forwardId 0 port :: before ∧
          .removed forwardId ∉ since := by
      obtain ⟨since, before, rfl, kept⟩ := ih later
      exact ⟨entry :: since, before, rfl, by simp [other.symm, kept]⟩
    cases entry with
    | requested id direction targetPort =>
      by_cases this : id = forwardId ∧ direction = 0
      · obtain ⟨rfl, rfl⟩ := this
        simp only [liveTarget, and_self, if_true, Option.some.injEq] at live
        exact ⟨[], older, by rw [live]; rfl, by simp⟩
      · rw [liveTarget, if_neg this] at live
        exact further (by simp) live
    | removed id =>
      by_cases this : id = forwardId
      · simp [liveTarget, this] at live
      · rw [liveTarget, if_neg this] at live
        exact further (by simp [this]) live
    | connected id target => exact further (by simp) live

/-- The ids that forwards got, newest first. -/
def requestedIds : List ForwardLog → List UInt32 :=
  List.filterMap fun entry =>
    match entry with
    | .requested id _ _ => some id
    | _ => none

namespace ClientForwards

/-- What one action does to the numbers, the allowed ports and the log. -/
inductive Moves (state next : ClientForwards) : Prop where
  | quiet (log : next.log = state.log)
      (allowed : next.clientInitiatedForwards = state.clientInitiatedForwards)
      (numbers : next.nextChannelId = state.nextChannelId ∧ next.taken = state.taken ∨
        next.nextChannelId = state.nextChannelId + 2 ∧ next.taken = state.taken + 1)
  | connected (forwardId : UInt32) (port : UInt16)
      (found : state.clientInitiatedForwards.lookup forwardId = some port)
      (log : next.log = .connected forwardId port :: state.log)
      (allowed : next.clientInitiatedForwards = state.clientInitiatedForwards)
      (numbers : next.nextChannelId = state.nextChannelId ∧ next.taken = state.taken)
  | removed (forwardId : UInt32)
      (log : next.log = .removed forwardId :: state.log)
      (allowed : next.clientInitiatedForwards = state.clientInitiatedForwards.erase forwardId)
      (numbers : next.nextChannelId = state.nextChannelId ∧ next.taken = state.taken)
  | requested (direction : UInt8) (targetPort : UInt16)
      (log : next.log = .requested state.nextChannelId direction targetPort :: state.log)
      (allowed : next.clientInitiatedForwards =
        if direction = 0 then state.clientInitiatedForwards.insert state.nextChannelId targetPort
        else state.clientInitiatedForwards)
      (numbers : next.nextChannelId = state.nextChannelId + 2 ∧ next.taken = state.taken + 1)

variable {state next : ClientForwards}

/-- A frame of the server opens only what is allowed, and can only take ports away. -/
theorem handleServerFrame_moves (state : ClientForwards) (connected : Option ConnId)
    (writerFull : Bool) (frame : Frame) :
    Moves state (state.handleServerFrame connected writerFull frame) := by
  have still : Moves state state := .quiet rfl rfl (Or.inl ⟨rfl, rfl⟩)
  cases frame with
  | portForwardListen forwardId listenPort targetPort => exact .quiet rfl rfl (Or.inl ⟨rfl, rfl⟩)
  | portForwardOpen forwardId channelId targetPort =>
    simp only [handleServerFrame, portForwardOpen]
    cases found : state.clientInitiatedForwards.lookup forwardId with
    | none => exact .quiet rfl rfl (Or.inl ⟨rfl, rfl⟩)
    | some port => cases connected <;> exact .connected forwardId port found rfl rfl ⟨rfl, rfl⟩
  | portForwardData channelId bytes =>
    simp only [handleServerFrame, portForwardData]
    split
    · exact .quiet rfl rfl (Or.inl ⟨rfl, rfl⟩)
    · exact still
  | portForwardClose channelId => exact .quiet rfl rfl (Or.inl ⟨rfl, rfl⟩)
  | portForwardReady forwardId =>
    simp only [handleServerFrame, portForwardReady]
    split
    · exact .quiet rfl rfl (Or.inl ⟨rfl, rfl⟩)
    · exact still
  | portForwardStop forwardId =>
    simp only [handleServerFrame, portForwardStop]
    split <;> exact .removed forwardId rfl rfl ⟨rfl, rfl⟩
  | _ => exact still

/-- Sending a frame moves nothing but the frame. -/
theorem sendOrEnd_moves {middle : ClientForwards} (moves : Moves state middle) (sends : Bool)
    (frame : Frame) : Moves state (middle.sendOrEnd sends frame) := by
  unfold sendOrEnd
  cases sends <;> cases moves with
  | quiet log allowed numbers => exact .quiet log allowed numbers
  | connected forwardId port found log allowed numbers =>
    exact .connected forwardId port found log allowed numbers
  | removed forwardId log allowed numbers => exact .removed forwardId log allowed numbers
  | requested direction targetPort log allowed numbers =>
    exact .requested direction targetPort log allowed numbers

/-- Opening and closing channels moves nothing else. -/
theorem channels_moves (state : ClientForwards) (channels : ChannelMap (UInt32 × ConnId)) :
    Moves state { state with channels } := .quiet rfl rfl (Or.inl ⟨rfl, rfl⟩)

/-- Stopping a forward takes its port away. -/
theorem stopForward_moves (state : ClientForwards) (forwardId : UInt32) :
    Moves state (state.stopForward forwardId) := .removed forwardId rfl rfl ⟨rfl, rfl⟩

/-- An event of a task can only take ports away. -/
theorem handlePfEvent_moves (state : ClientForwards) (sends : Bool)
    (event : ClientPortForwardEvent) : Moves state (state.handlePfEvent sends event) := by
  have still : Moves state state := .quiet rfl rfl (Or.inl ⟨rfl, rfl⟩)
  cases event with
  | accepted forwardId channelId conn =>
    simp only [handlePfEvent]
    split
    · exact sendOrEnd_moves (channels_moves state _) sends _
    · exact still
  | data channelId bytes =>
    simp only [handlePfEvent]
    split
    · exact sendOrEnd_moves still sends _
    · exact still
  | closed channelId =>
    simp only [handlePfEvent]
    split
    · exact sendOrEnd_moves (channels_moves state _) sends _
    · exact still
  | forwardStopped forwardId => exact sendOrEnd_moves (stopForward_moves state forwardId) sends _

/-- A request allows its own port, and only if the server is to listen for it. -/
theorem handleFwdRequest_moves (state : ClientForwards) (process : Nat) (direction : UInt8)
    (listenPort targetPort : UInt16) (binds sends : Bool) :
    Moves state (state.handleFwdRequest process direction listenPort targetPort binds sends) := by
  unfold handleFwdRequest
  by_cases here : direction = 0
  · subst here
    cases sends <;> exact .requested 0 targetPort rfl rfl ⟨rfl, rfl⟩
  · by_cases there : direction = 1
    · subst there
      cases binds <;> cases sends <;> exact .requested 1 targetPort rfl rfl ⟨rfl, rfl⟩
    · -- Any other direction is passed on to the server as it is.
      have allowed : (if direction = 0 then
          state.clientInitiatedForwards.insert state.nextChannelId targetPort
        else state.clientInitiatedForwards) = state.clientInitiatedForwards := if_neg here
      cases sends <;>
        refine .requested direction targetPort ?_ (Eq.trans ?_ allowed.symm) ⟨?_, ?_⟩ <;>
        simp [here, there, send, answer, startPfKeepalive, note, takeId]

/-- Every action moves in one of the four ways. -/
theorem step_moves {action : ClientForwardAction} (stepped : state.step action = some next) :
    Moves state next := by
  unfold step at stepped
  by_cases over' : state.disconnected = true
  · simp [over'] at stepped
  rw [if_neg over'] at stepped
  cases action with
  | serverFrame frame connected writerFull =>
    cases stepped
    exact handleServerFrame_moves state connected writerFull frame
  | fwdRequest process direction listenPort targetPort binds sends =>
    cases stepped
    exact handleFwdRequest_moves state process direction listenPort targetPort binds sends
  | pfEvent sends =>
    cases waiting : state.queue with
    | nil => simp [waiting] at stepped
    | cons event later =>
      simp only [waiting, Option.some.injEq] at stepped
      subst stepped
      -- Taking the event off the queue moves nothing else.
      cases handlePfEvent_moves { state with queue := later } sends event with
      | quiet log allowed numbers => exact .quiet log allowed numbers
      | connected forwardId port found log allowed numbers =>
        exact .connected forwardId port found log allowed numbers
      | removed forwardId log allowed numbers => exact .removed forwardId log allowed numbers
      | requested direction targetPort log allowed numbers =>
        exact .requested direction targetPort log allowed numbers
  | accepts forwardId conn =>
    by_cases listens : forwardId ∈ state.listeners
    · simp only [if_pos listens, Option.some.injEq] at stepped
      subst stepped
      exact .quiet rfl rfl (Or.inr ⟨rfl, rfl⟩)
    · simp [listens] at stepped
  | reports channelId bytes =>
    cases bytes <;> cases stepped <;> exact .quiet rfl rfl (Or.inl ⟨rfl, rfl⟩)
  | keepaliveEnds forwardId =>
    by_cases watches : forwardId ∈ state.keepalives
    · simp only [if_pos watches, Option.some.injEq] at stepped
      subst stepped
      exact .quiet rfl rfl (Or.inl ⟨rfl, rfl⟩)
    · simp [watches] at stepped

end ClientForwards

/-- The server names another port in the frames that open connections. -/
def ClientForwardAction.retarget (change : UInt16 → UInt16) :
    ClientForwardAction → ClientForwardAction
  | .serverFrame (.portForwardOpen forwardId channelId targetPort) connected writerFull =>
    .serverFrame (.portForwardOpen forwardId channelId (change targetPort)) connected writerFull
  | action => action

/-- The server opens no port but those the user asked for. -/
structure OnlyAskedPorts (actions : List ClientForwardAction) (last : ClientForwards) : Prop where
  /-- Every connect goes to the port of a request, under its id, that nothing stopped since. -/
  asked : ∀ newer forwardId port older, last.log = newer ++ .connected forwardId port :: older →
    ∃ since before, older = since ++ .requested forwardId 0 port :: before ∧
      .removed forwardId ∉ since
  /-- The id of a forward that the client listens for leads to no connect, before ids come around again. -/
  elsewhere : ∀ forwardId direction targetPort port, direction ≠ 0 → last.taken ≤ 2 ^ 31 →
    .requested forwardId direction targetPort ∈ last.log → .connected forwardId port ∉ last.log
  /-- The ports that the server names make no difference. -/
  unsteered : ∀ change : UInt16 → UInt16,
    clientForwards.run .new (actions.map (.retarget change)) = some last

/-- What the allowed ports, the numbers and the log have to do with each other. -/
structure AllowListed (state : ClientForwards) : Prop where
  allowed : ∀ forwardId,
    state.clientInitiatedForwards.lookup forwardId = liveTarget forwardId state.log
  connects : ∀ newer forwardId port older,
    state.log = newer ++ .connected forwardId port :: older →
      liveTarget forwardId older = some port
  next : state.nextChannelId = UInt32.ofNat (2 + 2 * state.taken)
  given : ∀ forwardId ∈ requestedIds state.log,
    ∃ count < state.taken, forwardId = UInt32.ofNat (2 + 2 * count)
  apart : state.taken ≤ 2 ^ 31 → (requestedIds state.log).Nodup

/-- A connection without forwards allows nothing. -/
theorem new_allowListed : AllowListed .new where
  allowed _ := rfl
  connects newer forwardId port older split := by simp [ClientForwards.new] at split
  next := rfl
  given forwardId member := by simp [ClientForwards.new, requestedIds] at member
  apart _ := by simp [ClientForwards.new, requestedIds]

/-- Different counts below the turn of the numbers make different ids. -/
private theorem ids_differ {first second : Nat} (less : first < second) (small : second < 2 ^ 31) :
    UInt32.ofNat (2 + 2 * first) ≠ UInt32.ofNat (2 + 2 * second) := by
  intro same
  have numbers := congrArg UInt32.toNat same
  simp only [UInt32.toNat_ofNat'] at numbers
  omega

/-- The next number comes two after the last one. -/
private theorem next_number (taken : Nat) :
    UInt32.ofNat (2 + 2 * taken) + 2 = UInt32.ofNat (2 + 2 * (taken + 1)) := by
  apply UInt32.toNat_inj.mp
  have two : (2 : UInt32).toNat = 2 := rfl
  rw [UInt32.toNat_add, UInt32.toNat_ofNat', UInt32.toNat_ofNat', two]
  omega

/-- A connect behind the newest entry is a connect of the log before it. -/
private theorem connect_behind {entry : ForwardLog} {log newer older : List ForwardLog}
    {forwardId : UInt32} {port : UInt16}
    (split : entry :: log = newer ++ .connected forwardId port :: older) :
    (entry = .connected forwardId port ∧ log = older) ∨
      ∃ newer', log = newer' ++ .connected forwardId port :: older := by
  cases newer with
  | nil =>
    obtain ⟨same, rest⟩ := List.cons.inj split
    exact Or.inl ⟨same, rest⟩
  | cons first newer => exact Or.inr ⟨newer, (List.cons.inj split).2⟩

/-- Every move keeps the allowed ports at what the log allows. -/
theorem step_allowListed {state next : ClientForwards} {action : ClientForwardAction}
    (listed : AllowListed state) (stepped : clientForwards.step state action = some next) :
    AllowListed next := by
  obtain ⟨allowed, connects, number, given, apart⟩ := listed
  -- Whatever is only noted keeps the ids that were given.
  have more : ∀ count, count < state.taken → count < state.taken + 1 := fun _ => Nat.lt_succ_of_lt
  cases ClientForwards.step_moves stepped with
  | quiet log same numbers =>
    refine ⟨by simpa [log, same] using allowed, by simpa [log] using connects, ?_, ?_, ?_⟩
    · rcases numbers with ⟨id, taken⟩ | ⟨id, taken⟩
      · rw [id, taken, number]
      · rw [id, taken, number, next_number]
    · intro forwardId member
      obtain ⟨count, small, rfl⟩ := given forwardId (log ▸ member)
      exact ⟨count, by omega, rfl⟩
    · intro small
      rw [log]
      exact apart (by omega)
  | connected forwardId port found log same numbers =>
    refine ⟨?_, ?_, by rw [numbers.1, numbers.2, number], ?_, ?_⟩
    · intro other
      rw [same, log, allowed]
      rfl
    · intro newer other target older split
      rw [log] at split
      rcases connect_behind split with ⟨this, rfl⟩ | ⟨newer', behind⟩
      · -- The new connect went to an allowed port.
        cases this
        rw [← allowed, found]
      · exact connects newer' other target older behind
    · rw [log, numbers.2]
      exact given
    · rw [log, numbers.2]
      exact apart
  | removed forwardId log same numbers =>
    refine ⟨?_, ?_, by rw [numbers.1, numbers.2, number], ?_, ?_⟩
    · intro other
      rw [same, log, liveTarget]
      by_cases this : other = forwardId
      · rw [this, AList.lookup_erase, if_pos rfl]
      · rw [AList.lookup_erase_ne this, if_neg (Ne.symm this), allowed]
    · intro newer other target older split
      rw [log] at split
      rcases connect_behind split with ⟨this, _⟩ | ⟨newer', behind⟩
      · cases this
      · exact connects newer' other target older behind
    · rw [log, numbers.2]
      exact given
    · rw [log, numbers.2]
      exact apart
  | requested direction targetPort log same numbers =>
    refine ⟨?_, ?_, by rw [numbers.1, numbers.2, number, next_number], ?_, ?_⟩
    · intro other
      rw [same, log, liveTarget]
      by_cases here : direction = 0
      · rw [if_pos here]
        by_cases this : other = state.nextChannelId
        · rw [this, AList.lookup_insert, if_pos ⟨rfl, here⟩]
        · rw [AList.lookup_insert_ne this, if_neg fun both => this both.1.symm, allowed]
      · rw [if_neg here, if_neg fun both => here both.2, allowed]
    · intro newer other target older split
      rw [log] at split
      rcases connect_behind split with ⟨this, _⟩ | ⟨newer', behind⟩
      · cases this
      · exact connects newer' other target older behind
    · intro other member
      rw [log, requestedIds, List.filterMap_cons] at member
      rcases List.mem_cons.mp member with rfl | before
      · exact ⟨state.taken, by omega, number⟩
      · obtain ⟨count, small, rfl⟩ := given other before
        exact ⟨count, by omega, rfl⟩
    · intro small
      rw [log, requestedIds, List.filterMap_cons]
      refine List.nodup_cons.mpr ⟨fun member => ?_, apart (by omega)⟩
      -- The id was given before, with a smaller count.
      obtain ⟨count, less, same'⟩ := given state.nextChannelId member
      exact ids_differ less (by omega) (same'.symm.trans number)

/-- The ports that the server names do not change an action. -/
theorem step_retarget (state : ClientForwards) (change : UInt16 → UInt16)
    (action : ClientForwardAction) :
    clientForwards.step state (action.retarget change) = clientForwards.step state action := by
  cases action with
  | serverFrame frame connected writerFull => cases frame <;> rfl
  | _ => rfl

/-- The ports that the server names do not change a run. -/
theorem run_retarget (state : ClientForwards) (change : UInt16 → UInt16)
    (actions : List ClientForwardAction) :
    clientForwards.run state (actions.map (.retarget change)) =
      clientForwards.run state actions := by
  induction actions generalizing state with
  | nil => rfl
  | cons action later ih =>
    simp only [List.map_cons, Machine.run, step_retarget]
    cases clientForwards.step state action with
    | none => rfl
    | some next => exact ih next

/-- A request is among those whose ids are kept apart. -/
private theorem requested_twice {log : List ForwardLog} (apart : (requestedIds log).Nodup)
    {forwardId : UInt32} {first second : UInt8} {one other : UInt16}
    (there : .requested forwardId first one ∈ log)
    (again : .requested forwardId second other ∈ log) : first = second := by
  induction log with
  | nil => simp at there
  | cons entry older ih =>
    have mem : ∀ {direction port}, .requested forwardId direction port ∈ older →
        forwardId ∈ requestedIds older :=
      fun found => List.mem_filterMap.mpr ⟨_, found, rfl⟩
    cases entry with
    | requested id direction port =>
      rw [requestedIds, List.filterMap_cons] at apart
      obtain ⟨fresh, apart⟩ := List.nodup_cons.mp apart
      simp only [List.mem_cons, ForwardLog.requested.injEq] at there again
      rcases there with ⟨rfl, rfl, rfl⟩ | there <;> rcases again with ⟨same, rfl, rfl⟩ | again
      · rfl
      · exact absurd (mem again) fresh
      · exact absurd (same ▸ mem there) fresh
      · exact ih apart there again
    | removed id => exact ih apart (by simpa using there) (by simpa using again)
    | connected id port => exact ih apart (by simpa using there) (by simpa using again)

/-- Against any server, a client connects only to ports that its user asked for. -/
theorem only_asked_ports {actions : List ClientForwardAction} {last : ClientForwards}
    (ran : clientForwards.run .new actions = some last) : OnlyAskedPorts actions last := by
  have listed : AllowListed last :=
    Machine.run_invariant
      (fun state _ _ (listed : AllowListed state) stepped => step_allowListed listed stepped)
      new_allowListed ran
  have asked : ∀ newer forwardId port older,
      last.log = newer ++ .connected forwardId port :: older →
      ∃ since before, older = since ++ .requested forwardId 0 port :: before ∧
        .removed forwardId ∉ since :=
    fun newer forwardId port older split =>
      liveTarget_eq_some (listed.connects newer forwardId port older split)
  refine ⟨asked, ?_, fun change => (run_retarget .new change actions).trans ran⟩
  intro forwardId direction targetPort port elsewhere few requested connected
  -- A connect comes from a request of direction zero, which would have the same id.
  obtain ⟨newer, older, split⟩ := List.append_of_mem connected
  obtain ⟨since, before, rfl, _⟩ := asked newer forwardId port older split
  have also : .requested forwardId 0 port ∈ last.log := by simp [split]
  exact elsewhere (requested_twice (listed.apart few) requested also)

/-- The server of a client with one forward wants another port, gets the forward's, and nothing after the forward's end. -/
theorem only_asked_ports_ssh :
    ∃ last, clientForwards.run .new
        [.fwdRequest 0 0 8000 8080 true true,
          .serverFrame (.portForwardReady 2) none false,
          .serverFrame (.portForwardOpen 2 1 22) (some 0) false,
          .keepaliveEnds 2, .pfEvent true,
          .serverFrame (.portForwardOpen 2 3 22) (some 1) false] = some last ∧
      last.log = [.removed 2, .connected 2 8080, .requested 2 0 8080] ∧
      OnlyAskedPorts
        [.fwdRequest 0 0 8000 8080 true true,
          .serverFrame (.portForwardReady 2) none false,
          .serverFrame (.portForwardOpen 2 1 22) (some 0) false,
          .keepaliveEnds 2, .pfEvent true,
          .serverFrame (.portForwardOpen 2 3 22) (some 1) false] last :=
  ⟨_, rfl, by decide, only_asked_ports rfl⟩

end Gritty
