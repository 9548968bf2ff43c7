import Gritty.Commands.ConnectNew

/-! When a client that was told to make a new session ends up in one of its own. -/

namespace Gritty

/-- The slots of a client are apart. -/
theorem slotName_injective (clientName : String) : Function.Injective (slotName clientName) := by
  have plain : ∀ number : Nat, slotName clientName number = s!"{clientName}/{toString number}" := by
    intro number
    have digits : ∀ digit ∈ (toString number).toList, digit.isDigit = true := fun digit member =>
      Nat.isDigit_of_mem_toDigits (by decide) (by decide) (Nat.toList_repr ▸ member)
    have dash : toString number ≠ "-" := fun same => by
      have := digits '-' (by simp [same])
      exact absurd this (by decide)
    have slash : '/' ∉ (toString number).toList := fun member =>
      absurd (digits '/' member) (by decide)
    unfold slotName resolveSessionName
    rw [if_neg dash, if_neg slash]
  intro first second same
  rw [plain, plain] at same
  -- Behind the prefix there are the digits, from which the number can be read back.
  have texts := congrArg String.toList same
  simp only [String.toList_append, List.append_cancel_left_eq] at texts
  have digits : Nat.toDigits 10 first = Nat.toDigits 10 second := by
    rw [← Nat.toList_repr, ← Nat.toList_repr]
    exact texts
  rw [← Nat.ofDigitChars_ten_toDigits (n := first), digits, Nat.ofDigitChars_ten_toDigits]

/-- Some slot is free: there is one more of them than there are sessions. -/
theorem suggestName_free (sessions : List SessionEntry) (clientName : String) :
    ∃ name, suggestName sessions clientName = some name ∧
      ∀ entry ∈ sessions, sessionWireName entry ≠ name := by
  cases found : suggestName sessions clientName with
  | some name =>
    have free := List.find?_some found
    refine ⟨name, rfl, fun entry member same => ?_⟩
    simp only [Bool.not_eq_true', List.any_eq_false, beq_iff_eq] at free
    exact free entry member same
  | none =>
    -- Otherwise the slots that were tried would all be among the names of fewer sessions.
    have taken : (List.range (sessions.length + 1)).map (slotName clientName) ⊆
        sessions.map sessionWireName := by
      intro candidate member
      have busy := List.find?_eq_none.mp found candidate member
      rw [Bool.not_eq_true', Bool.not_eq_false, List.any_eq_true] at busy
      simp only [beq_iff_eq] at busy
      obtain ⟨entry, listed, same⟩ := busy
      exact List.mem_map.mpr ⟨entry, listed, same⟩
    have apart : ((List.range (sessions.length + 1)).map (slotName clientName)).Nodup :=
      List.nodup_range.map (slotName_injective clientName)
    have most := (apart.subperm taken).length_le
    simp at most

namespace ConnectClient

variable {client next : ConnectClient} {daemon after : Daemon}

/-- Where it succeeds, it is in the session that was created for it, with its command. -/
def InOwn (client : ConnectClient) : Prop :=
  ∀ task, client.stage = .succeeded task →
    ∃ own, task = some own ∧ client.created = some (own, client.flags.command)

/-- Nothing was created for it before it got to that, and what it is in is its own. -/
def Honest (client : ConnectClient) : Prop :=
  match client.stage with
  | .listing | .attaching _ _ | .confirming _ | .creating _ => client.created = none
  | .succeeded task => ∃ own, task = some own ∧ client.created = some (own, client.flags.command)
  | .failed => True

/-- A client that was just launched has created nothing, and is in no session. -/
theorem launched_honest (flags : ConnectFlags) : (launched flags).Honest := by
  unfold launched Honest
  -- It either asks for a list or has settled on the name that was typed.
  cases flags.session with
  | none => rfl
  | some name => cases flags.fromDash <;> rfl

/-- A client that is honest is in a session of its own, if in any. -/
theorem Honest.inOwn (honest : client.Honest) : client.InOwn := by
  intro task stage
  simpa [Honest, stage] using honest

/-- A session stands for the name, and the daemon takes the request for it and says so. -/
def taken (client : ConnectClient) (daemon : Daemon) (name : String) (force : Bool)
    (conn : ControlConn) : Bool :=
  !daemon.stopped && conn.clientVersion = protocolVersion && conn.delivers ≠ 0 &&
    match daemon.sessions.resolveLiveSession name daemon.lastAttached with
    | (_, .error _) => false
    | (_, .ok (_, session)) =>
      client.flags.detach ||
        ((force || !session.metadata.any (·.attached)) &&
          (session.metadata.isSome || conn.publishes))

/-- The name that the client tries is free when the daemon comes to the request. -/
def nameFree (client : ConnectClient) (daemon : Daemon) : ConnectMove → Bool
  | .attach conn _ _ =>
    match client.stage with
    | .attaching name force => !client.taken daemon name force conn
    | _ => true
  | _ => true

/-- The first frame that comes back is the first that was sent, if any comes back. -/
theorem head_received (conn : ControlConn) (request : Frame) :
    (received daemon conn request).head? =
      if conn.delivers = 0 then none else (daemon.control conn request).sent.head? :=
  List.head?_take

/-- The answer to a client that finds a session is that the session is there, or that it is attached. -/
theorem head_received_of_taken {name : String} {force : Bool} {conn : ControlConn}
    (taken : client.taken daemon name force conn = true) (cols rows : UInt16) :
    ∃ answer,
      (received daemon conn (client.attachFrame name force cols rows)).head? = some answer ∧
        ((client.flags.detach = true ∧ answer = .ok) ∨ ∃ id, answer = .attachAck conn.deviceId id) := by
  simp only [ConnectClient.taken, Bool.and_eq_true, Bool.not_eq_true', decide_eq_true_eq] at taken
  obtain ⟨⟨⟨_, matched⟩, delivered⟩, found⟩ := taken
  rw [head_received, if_neg delivered, Daemon.control,
    if_neg (not_and_of_not_left _ (not_not.mpr matched))]
  cases resolved : daemon.sessions.resolveLiveSession name daemon.lastAttached with
  | mk left result =>
    cases result with
    | error answer => simp [resolved] at found
    | ok live =>
      obtain ⟨id, session⟩ := live
      simp only [resolved, Bool.or_eq_true, Bool.and_eq_true, Bool.not_eq_true'] at found
      by_cases detach : client.flags.detach = true
      · refine ⟨.ok, ?_, Or.inl ⟨detach, rfl⟩⟩
        simp [attachFrame, detach, Daemon.dispatchControl, Daemon.attach, resolved, Daemon.reply]
      · refine ⟨.attachAck conn.deviceId id, ?_, Or.inr ⟨id, rfl⟩⟩
        obtain ⟨idle, published⟩ := found.resolve_left detach
        -- Neither the owner nor anybody attached keeps the client out.
        have willing : ¬ (session.metadata.any (·.attached) && !force) = true := by
          rcases idle with forced | idle
          · simp [forced]
          · simp [idle]
        have initialized : ∃ metadata,
            (session.initialized conn.publishes conn.ptyPath conn.now).metadata = some metadata := by
          unfold SessionState.initialized
          cases known : session.metadata with
          | some metadata => exact ⟨metadata, known⟩
          | none => simp [published.resolve_left (by simp [known])]
        obtain ⟨metadata, known⟩ := initialized
        simp only [attachFrame, Daemon.dispatchControl, Daemon.attach, resolved, if_neg detach,
          ne_eq, not_true_eq_false, false_and, if_false, if_neg willing, known, if_neg delivered]
        rfl

/-- The answer to a client that finds none is an error, if there is one. -/
theorem head_received_of_free {name : String} {force : Bool} {conn : ControlConn}
    (free : client.taken daemon name force conn = false) (running : daemon.stopped = false)
    (cols rows : UInt16) {answer : Frame}
    (received : (received daemon conn (client.attachFrame name force cols rows)).head? =
      some answer) : ∃ code message, answer = .error code message := by
  rw [head_received] at received
  by_cases lost : conn.delivers = 0
  · simp [lost] at received
  rw [if_neg lost, Daemon.control] at received
  by_cases matched : conn.clientVersion = protocolVersion
  swap
  · rw [if_pos ⟨matched, by simp [attachFrame]⟩] at received
    exact ⟨_, _, (Option.some.inj received).symm⟩
  rw [if_neg (not_and_of_not_left _ (not_not.mpr matched))] at received
  simp only [ConnectClient.taken, running, matched, decide_true, Bool.not_false, Bool.and_self,
    Bool.true_and, ne_eq, lost, not_false_eq_true] at free
  cases resolved : daemon.sessions.resolveLiveSession name daemon.lastAttached with
  | mk left result =>
    cases result with
    | error answer =>
      obtain ⟨_, rfl⟩ := Sessions.resolveLiveSession_error resolved
      simp only [attachFrame, Daemon.dispatchControl, Daemon.attach, resolved, Daemon.reply,
        List.head?_cons, Option.some.injEq] at received
      exact ⟨_, _, received.symm⟩
    | ok live =>
      obtain ⟨id, session⟩ := live
      simp only [resolved, Bool.or_eq_false_iff] at free
      obtain ⟨attaches, kept⟩ := free
      have entering : ¬ client.flags.detach = true := by simp [attaches]
      simp only [attachFrame, Daemon.dispatchControl, Daemon.attach, resolved, if_neg entering,
        ne_eq, not_true_eq_false, false_and, if_false] at received
      by_cases busy : (session.metadata.any (·.attached) && !force) = true
      · rw [if_pos busy] at received
        exact ⟨_, _, (Option.some.inj received).symm⟩
      rw [if_neg busy] at received
      -- Nobody is in the way, so the session is one that has not come up yet.
      have unhindered : (force || !session.metadata.any (·.attached)) = true := by
        revert busy
        cases force <;> simp
      rw [unhindered, Bool.true_and, Bool.or_eq_false_iff] at kept
      obtain ⟨unknown, silent⟩ := kept
      have uninitialized :
          (session.initialized conn.publishes conn.ptyPath conn.now).metadata = none := by
        rw [Option.isSome_eq_false_iff, Option.isNone_iff_eq_none] at unknown
        simp [SessionState.initialized, unknown, silent]
      simp only [uninitialized] at received
      exact ⟨_, _, (Option.some.inj received).symm⟩

/-- A daemon that serves a request was running, and has served it. -/
theorem step_control {conn : ControlConn} {request : Frame}
    (stepped : daemon.step (.control conn request) = some after) :
    daemon.stopped = false ∧ after = (daemon.control conn request).daemon := by
  unfold Daemon.step at stepped
  by_cases stopped : daemon.stopped = true
  · simp [stopped] at stepped
  · rw [if_neg stopped] at stepped
    exact ⟨by simpa using stopped, (Option.some.inj stepped).symm⟩

/-- A client whose request for a new session succeeds is in the session that the request created. -/
theorem onNewSessionResponse_honest {name : String} {conn : ControlConn} {cols rows : UInt16} :
    let request := client.newSessionFrame name cols rows
    let spawned := daemon.spawnedFor (daemon.control conn request) request
    ({ client with created := spawned }.onNewSessionResponse
      (daemon.control conn request).daemon.taskOf (received daemon conn request)).Honest := by
  intro request spawned
  unfold onNewSessionResponse
  split
  · rename_i id device other rest answered
    have acked : Daemon.Acks conn (daemon.control conn request) other :=
      ⟨device, by
        unfold received at answered
        simp [answered]⟩
    have controlled := Daemon.control_cases daemon conn request
    cases controlled with
    | created reaped session name command cwd clientName cols rows lingerSecs asked within named
        handle sessions nextId grown lastAttached sent delivered =>
      -- Both frames came through, so the id is the one that was just given out.
      obtain ⟨rfl, _⟩ : id = daemon.nextId ∧ other = daemon.nextId := by
        rw [received, sent, List.take_of_length_le (by simpa using delivered)] at answered
        simp only [List.cons.injEq, Frame.sessionCreated.injEq, Frame.attachAck.injEq] at answered
        exact ⟨answered.1.symm, answered.2.1.2.symm⟩
      refine ⟨daemon.spawned, ?_, ?_⟩
      · rw [Daemon.taskOf, sessions, AList.lookup_insert, Option.map_some, handle]
      · show (if daemon.spawned < (daemon.control conn request).daemon.spawned then
            some (daemon.spawned, client.flags.command) else none) = _
        rw [grown, if_pos (Nat.lt_succ_self _)]
    | attached reaped id before after session clientName force cols rows attachToken renderedOffset
        lineDirty asked => simp [request, newSessionFrame] at asked
    | renamed reaped id before name within found valid sessions nextId spawned lastAttached quiet =>
      exact absurd acked (quiet other)
    | kept carries nextId spawned lastAttached quiet => exact absurd acked (quiet other)
  · exact trivial

/-- Whatever name is settled on, nothing is created by it. -/
theorem named_honest (free : client.created = none) (name : Option String) :
    (client.named name).Honest := by
  cases name with
  | some name => exact free
  | none => exact trivial

/-- An error sends the client on to create its session, to ask, or to give up. -/
theorem onAttachResponse_honest (free : client.created = none) (name : String) (force : Bool)
    (probed : Option Nat) (attached : UInt32 → Option Nat) {answer : Option Frame}
    (errors : ∀ frame, answer = some frame → ∃ code message, frame = .error code message) :
    (client.onAttachResponse name force probed attached answer).Honest := by
  cases answer with
  | none => exact trivial
  | some frame =>
    obtain ⟨code, message, rfl⟩ := errors frame rfl
    unfold onAttachResponse
    cases code with
    | noSuchSession => by_cases stop : client.flags.neverCreates = true <;> simp [Honest, stop, free]
    | alreadyAttached => by_cases forced : force = true <;> simp [Honest, forced, free]
    | _ => exact trivial

/-- A move while the name is free leaves the client honest. -/
theorem move_honest {move : ConnectMove} (honest : client.Honest)
    (free : client.nameFree daemon move = true)
    (moved : client.move daemon move = some (after, next)) : next.Honest := by
  cases move with
  | list conn =>
    cases stage : client.stage with
    | listing =>
      simp only [ConnectClient.move, stage, Option.map_eq_some_iff, Prod.mk.injEq] at moved
      obtain ⟨_, _, _, rfl⟩ := moved
      exact named_honest (by simpa [Honest, stage] using honest) _
    | _ => simp [ConnectClient.move, stage] at moved
  | listFails =>
    cases stage : client.stage with
    | listing =>
      simp only [ConnectClient.move, stage, Option.some.injEq, Prod.mk.injEq] at moved
      obtain ⟨_, rfl⟩ := moved
      exact named_honest (by simpa [Honest, stage] using honest) _
    | _ => simp [ConnectClient.move, stage] at moved
  | attach conn cols rows =>
    cases stage : client.stage with
    | attaching name force =>
      simp only [ConnectClient.move, stage, Option.map_eq_some_iff, Prod.mk.injEq] at moved
      obtain ⟨_, stepped, _, rfl⟩ := moved
      obtain ⟨running, _⟩ := step_control stepped
      simp only [nameFree, stage, Bool.not_eq_true'] at free
      refine onAttachResponse_honest (by simpa [Honest, stage] using honest) _ _ _ _ ?_
      exact fun frame answered => head_received_of_free free running cols rows answered
    | _ => simp [ConnectClient.move, stage] at moved
  | confirm takeOver =>
    cases stage : client.stage with
    | confirming name =>
      simp only [ConnectClient.move, stage, Option.some.injEq, Prod.mk.injEq] at moved
      obtain ⟨_, rfl⟩ := moved
      have uncreated : client.created = none := by simpa [Honest, stage] using honest
      cases takeOver <;> simp [Honest, uncreated]
    | _ => simp [ConnectClient.move, stage] at moved
  | create conn cols rows =>
    cases stage : client.stage with
    | creating name =>
      simp only [ConnectClient.move, stage, Option.map_eq_some_iff, Prod.mk.injEq] at moved
      obtain ⟨_, stepped, _, rfl⟩ := moved
      obtain ⟨_, rfl⟩ := step_control stepped
      exact onNewSessionResponse_honest
    | _ => simp [ConnectClient.move, stage] at moved
  | abandon =>
    cases stage : client.stage with
    | succeeded task => simp [ConnectClient.move, stage] at moved
    | failed => simp [ConnectClient.move, stage] at moved
    | _ =>
      simp only [ConnectClient.move, stage, Option.some.injEq, Prod.mk.injEq] at moved
      obtain ⟨_, rfl⟩ := moved
      exact trivial

/-- A move while the name is taken can be made, and takes the client into a session that is not its own. -/
theorem move_foreign {move : ConnectMove} (honest : client.Honest)
    (taken : ¬ client.nameFree daemon move = true) :
    ∃ after next, client.move daemon move = some (after, next) ∧ ¬ next.InOwn := by
  cases move with
  | attach conn cols rows =>
    cases stage : client.stage with
    | attaching name force =>
      simp only [nameFree, stage, Bool.not_eq_true', Bool.not_eq_false] at taken
      have uncreated : client.created = none := by simpa [Honest, stage] using honest
      have running : daemon.stopped = false := by
        simp only [ConnectClient.taken, Bool.and_eq_true, Bool.not_eq_true'] at taken
        exact taken.1.1.1
      obtain ⟨answer, answered, lands⟩ := head_received_of_taken taken cols rows
      refine ⟨_, _, by simp only [ConnectClient.move, stage, Daemon.step, running,
        Bool.false_eq_true, if_false, Option.map_some, answered]; rfl, ?_⟩
      intro own
      rcases lands with ⟨detach, rfl⟩ | ⟨id, rfl⟩
      · obtain ⟨task, _, created⟩ :=
          own (daemon.liveTask name) (by simp [onAttachResponse, detach])
        simp [onAttachResponse, detach, uncreated] at created
      · obtain ⟨task, _, created⟩ := own _ rfl
        simp [onAttachResponse, uncreated] at created
    | _ => simp [nameFree, stage] at taken
  | _ => simp [nameFree] at taken

end ConnectClient

namespace ConnectGroup

/-- Whoever succeeded is in a session that was created for its own request, with its own command. -/
def OwnSessions (group : ConnectGroup) : Prop := ∀ client ∈ group.clients, client.InOwn

/-- The name that a client tries is free when the daemon comes to its request. -/
def nameFree (group : ConnectGroup) : ConnectAction → Bool
  | .client place move =>
    (group.clients[place]?).all fun client => client.nameFree group.daemon move
  | _ => true

/-- Whatever happens while the names that are tried are free, all clients stay honest. -/
theorem step_honest {group next : ConnectGroup} {action : ConnectAction}
    (honest : ∀ client ∈ group.clients, client.Honest) (free : group.nameFree action = true)
    (stepped : group.step action = some next) : ∀ client ∈ next.clients, client.Honest := by
  cases action with
  | daemon action =>
    simp only [ConnectGroup.step, Option.map_eq_some_iff] at stepped
    obtain ⟨_, _, rfl⟩ := stepped
    exact honest
  | launch flags =>
    by_cases new : flags.wantsNew = true
    · simp only [ConnectGroup.step, if_pos new, Option.some.injEq] at stepped
      subst stepped
      intro client member
      rcases List.mem_append.mp member with old | fresh
      · exact honest client old
      · obtain rfl := List.mem_singleton.mp fresh
        exact ConnectClient.launched_honest flags
    · simp [ConnectGroup.step, new] at stepped
  | client place move =>
    simp only [ConnectGroup.step, Option.bind_eq_some_iff, Option.map_eq_some_iff] at stepped
    obtain ⟨mover, found, ⟨after, moved⟩, took, rfl⟩ := stepped
    rw [nameFree, found, Option.all_some] at free
    intro client member
    rcases List.mem_or_eq_of_mem_set member with old | rfl
    · exact honest client old
    · exact ConnectClient.move_honest (honest mover (List.mem_of_getElem? found)) free took

/-- A name that is taken when it is tried puts its client into somebody else's session. -/
theorem step_foreign {group : ConnectGroup} {action : ConnectAction}
    (honest : ∀ client ∈ group.clients, client.Honest) (taken : ¬ group.nameFree action = true) :
    ∃ next, group.step action = some next ∧ ¬ next.OwnSessions := by
  cases action with
  | client place move =>
    cases found : group.clients[place]? with
    | none => simp [nameFree, found] at taken
    | some mover =>
      rw [nameFree, found, Option.all_some] at taken
      obtain ⟨after, moved, took, foreign⟩ :=
        ConnectClient.move_foreign (honest mover (List.mem_of_getElem? found)) taken
      refine ⟨{ daemon := after, clients := group.clients.set place moved }, ?_, fun own => ?_⟩
      · simp [ConnectGroup.step, found, took]
      · have inside : place < group.clients.length := (List.getElem?_eq_some_iff.mp found).1
        exact foreign (own moved (List.mem_set inside moved))
  | _ => simp [nameFree] at taken

/-- Along every run, clients that want a new session end up in their own exactly if every name they try is free when the daemon comes to it. -/
theorem ownSessions_along (actions : List ConnectAction) :
    connectGroup.Along OwnSessions connectGroup.init actions ↔
      connectGroup.Meets (fun group action => group.nameFree action = true)
        connectGroup.init actions := by
  -- The invariant is about clients that have not succeeded, too: nothing was created for them.
  have holds : ∀ group : ConnectGroup, (∀ client ∈ group.clients, client.Honest) →
      group.OwnSessions :=
    fun group honest client member => (honest client member).inOwn
  have preserved : ∀ (group : ConnectGroup) action next,
      (∀ client ∈ group.clients, client.Honest) → group.nameFree action = true →
        connectGroup.step group action = some next → ∀ client ∈ next.clients, client.Honest :=
    fun group action next honest free stepped => step_honest honest free stepped
  have broken : ∀ (group : ConnectGroup) action, (∀ client ∈ group.clients, client.Honest) →
      ¬ group.nameFree action = true →
        ∃ next, connectGroup.step group action = some next ∧ ¬ next.OwnSessions :=
    fun group action honest taken => step_foreign honest taken
  exact Machine.along_iff_meets holds preserved broken
    (by simp [connectGroup]) actions

/-- A connection on which everything comes through, of a client that is up to date. -/
private def soundConn (connection : Nat) : ControlConn where
  connection
  clientVersion := protocolVersion
  capabilities := 0
  deviceId := 1
  delivers := 2
  publishes := true
  ptyPath := "/dev/pts/1"
  now := 100
  processes := fun _ => ("bash", "/")

/-- `connect -d -c` with a command. -/
private def backgroundJob (command : String) : ConnectFlags where
  session := none
  newSession := false
  detach := true
  noPick := false
  noCreate := false
  force := false
  command
  lingerSecs := 0
  clientName := "pc"

/-- `connect -n -d` with a command and the name of a session. -/
private def namedJob (command : String) : ConnectFlags :=
  { backgroundJob command with session := some "pc/work", newSession := true }

/-- Two clients ask for the list before either asks for a session. -/
private def slotRace : List ConnectAction :=
  [.launch (backgroundJob "make"), .launch (backgroundJob "deploy"),
    .client 0 (.list (soundConn 0)), .client 1 (.list (soundConn 1)),
    .client 0 (.attach (soundConn 2) 0 0), .client 0 (.create (soundConn 3) 80 24),
    .client 1 (.attach (soundConn 4) 0 0)]

/-- One client makes the session that was named, and another is to make a new one of that name. -/
private def namedTwice : List ConnectAction :=
  [.launch (namedJob "make"), .client 0 (.attach (soundConn 0) 0 0),
    .client 0 (.create (soundConn 1) 80 24), .launch (namedJob "deploy"),
    .client 1 (.attach (soundConn 2) 0 0)]

/-- Two clients are told of the same free slot, and the one whose turn comes second takes the other's session for its own. -/
theorem slot_shared :
    ¬ ∀ actions, connectGroup.Along OwnSessions connectGroup.init actions := by
  intro all
  have shared : (connectGroup.run connectGroup.init slotRace).any (fun last =>
      last.clients.any fun client =>
        client.stage = .succeeded (some 0) && client.created = none) = true := by
    decide +kernel
  obtain ⟨last, ran, ended⟩ := (Option.any_eq_true _ _).mp shared
  obtain ⟨client, member, stands⟩ := List.any_eq_true.mp ended
  simp only [Bool.and_eq_true, decide_eq_true_eq] at stands
  obtain ⟨own, _, created⟩ := (all slotRace).last ran client member (some 0) stands.1
  rw [stands.2] at created
  simp at created

/-- With a name, nothing is raced: the second client succeeds in the session of the first, and makes none. -/
example : (connectGroup.run connectGroup.init namedTwice).map (fun last =>
    last.clients.map fun client => (client.stage, client.created)) =
      some [(.succeeded (some 0), some (0, "make")), (.succeeded (some 0), none)] := by
  decide +kernel

end ConnectGroup

end Gritty
