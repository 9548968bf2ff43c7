import Gritty.Daemon.ControlPlane

/-! The daemon serves one request of a connection, as its peer made it, and only to peers of its own version. -/

namespace Gritty

/-- What a client of this build learns from a daemon of this build. -/
def ownHandshake (serverId : UInt64) : HandshakeInfo :=
  { version := protocolVersion, capabilities := capClipboard, serverId }

/-- A request that the daemon looks at, whatever its answer will be. -/
def ControlHandover.admitted (handover : ControlHandover) : Bool :=
  handover.check.version == protocolVersion || handover.frame == .killServer

/-- What a frame that was served looks like to the daemon. -/
def ControlHandover.seen (handover : ControlHandover) : Nat × UInt16 × UInt32 × UInt64 × Frame :=
  (handover.connection, handover.check.version, handover.negotiated, handover.deviceId,
    handover.frame)

def DaemonAction.seen : DaemonAction → Option (Nat × UInt16 × UInt32 × UInt64 × Frame)
  | .control conn frame =>
    some (conn.connection, conn.clientVersion, conn.capabilities, conn.deviceId, frame)
  | _ => none

/-- A client of this build is where it is because of what it sent and was answered. -/
def ClientStands (serverId : UInt64) (request : ControlRequest) (conn : ControlConnection) :
    ControlClient → Prop
  | .connected => conn.sent = [] ∧ conn.toClient = conn.answers
  | .greeted => conn.sent = [request.greeting] ∧ conn.toClient = conn.answers
  | .acknowledged info => conn.sent = [request.greeting] ∧ info = ownHandshake serverId
  | .asked info =>
    conn.sent = [request.greeting, request.frame] ∧ info = ownHandshake serverId
  | .gaveUp error => conn.sent <+: [request.greeting, request.frame] ∧ error = .lost

/-- The task of a connection is where it is because of what came and what it answered. -/
def TaskStands (serverId : UInt64) (conn : ControlConnection) : ControlTask → Prop
  | .awaitsHello => conn.sent = conn.toDaemon ∧ conn.answers = []
  | .awaitsRequest check negotiated deviceId =>
    ∃ version capabilities, conn.sent = .hello version capabilities deviceId :: conn.toDaemon ∧
      negotiate version capabilities = (check, negotiated) ∧ conn.answers = [helloAck serverId]
  | .handedOn => ∃ later, conn.answers = helloAck serverId :: later
  | .closed =>
    conn.answers = [] ∨ conn.answers = [helloAck serverId] ∨
      conn.answers = [expectedHello] ∧ ∃ first later, conn.sent = first :: later ∧
        ∀ version capabilities deviceId, first ≠ .hello version capabilities deviceId

/-- A connection bears out a request of it: its peer greeted the daemon, made the request, and got the
answers to this one. -/
structure Vouches (serverId : UInt64) (conn : ControlConnection) (handover : ControlHandover)
    (answers : List Frame) : Prop where
  task : conn.task = .handedOn
  sent : ∃ version capabilities, [.hello version capabilities handover.deviceId, handover.frame] <+:
      conn.sent ∧ negotiate version capabilities = (handover.check, handover.negotiated)
  answered : conn.answers = helloAck serverId :: answers

/-- The requests that were handed on, with the answers that each has had. -/
def ControlPlane.handovers (plane : ControlPlane) : List (ControlHandover × List Frame) :=
  plane.served ++ plane.waiting.map fun handover => (handover, [])

/-- Both ends of every connection are where they may be. -/
structure ConnectionsStand (serverId : UInt64) (plane : ControlPlane) : Prop where
  server : plane.serverId = serverId
  fresh : ∀ id conn, plane.connections id = some conn → id < plane.accepted
  tasks : ∀ id conn, plane.connections id = some conn → TaskStands serverId conn conn.task
  clients : ∀ id conn request, plane.connections id = some conn → conn.request = some request →
    ClientStands serverId request conn conn.client

/-- What holds of all connections together. -/
structure ControlInv (serverId : UInt64) (plane : ControlPlane) : Prop
    extends ConnectionsStand serverId plane where
  once : (plane.handovers.map fun record => record.1.connection).Nodup
  vouched : ∀ record ∈ plane.handovers, ∃ conn,
    plane.connections record.1.connection = some conn ∧ Vouches serverId conn record.1 record.2
  handed : ∀ id conn, plane.connections id = some conn → conn.task = .handedOn →
    ∃ record ∈ plane.handovers, record.1.connection = id

section

variable {serverId : UInt64} {conn : ControlConnection} {request : ControlRequest}

/-- More answers change nothing for a client that has not read them. -/
theorem ClientStands.answer {client : ControlClient}
    (stands : ClientStands serverId request conn client) (frames : List Frame) :
    ClientStands serverId request (conn.answer frames) client := by
  cases client with
  | connected => exact ⟨stands.1, congrArg (· ++ frames) stands.2⟩
  | greeted => exact ⟨stands.1, congrArg (· ++ frames) stands.2⟩
  | acknowledged info => exact stands
  | asked info => exact stands
  | gaveUp error => exact stands

/-- What more is sent on a connection waits for its task. -/
theorem TaskStands.send {task : ControlTask} (stands : TaskStands serverId conn task)
    (frame : Frame) : TaskStands serverId (conn.send frame) task := by
  cases task with
  | awaitsHello => exact ⟨congrArg (· ++ [frame]) stands.1, stands.2⟩
  | awaitsRequest check negotiated deviceId =>
    obtain ⟨version, capabilities, sent, agreed, answered⟩ := stands
    exact ⟨version, capabilities, congrArg (· ++ [frame]) sent, agreed, answered⟩
  | handedOn => exact stands
  | closed =>
    rcases stands with silent | acknowledged | ⟨refused, first, later, sent, noHello⟩
    · exact Or.inl silent
    · exact Or.inr (Or.inl acknowledged)
    · exact Or.inr (Or.inr ⟨refused, first, later ++ [frame], congrArg (· ++ [frame]) sent, noHello⟩)

/-- A frame that is sent leaves what a connection is vouched for. -/
theorem Vouches.send {handover : ControlHandover} {answers : List Frame}
    (vouches : Vouches serverId conn handover answers) (frame : Frame) :
    Vouches serverId (conn.send frame) handover answers where
  task := vouches.task
  sent := by
    obtain ⟨version, capabilities, above, agreed⟩ := vouches.sent
    exact ⟨version, capabilities, above.trans (List.prefix_append ..), agreed⟩
  answered := vouches.answered

/-- How far the client is does not matter to what is borne out. -/
theorem Vouches.of_eq {after : ControlConnection} {handover : ControlHandover} {answers : List Frame}
    (vouches : Vouches serverId conn handover answers) (task : after.task = conn.task)
    (sent : after.sent = conn.sent) (answered : after.answers = conn.answers) :
    Vouches serverId after handover answers :=
  ⟨task.trans vouches.task, sent ▸ vouches.sent, answered.trans vouches.answered⟩

/-- A daemon of this build is told apart from one that turned the client down. -/
theorem handshake_first {reply : Frame} {later : List Frame} (task : TaskStands serverId conn conn.task)
    (sent : conn.sent = [request.greeting]) (answers : conn.answers = reply :: later) :
    handshake reply = .ok (ownHandshake serverId) := by
  have acknowledged : reply = helloAck serverId := by
    cases stage : conn.task <;> rw [stage] at task
    · exact absurd (answers.symm.trans task.2) (List.cons_ne_nil _ _)
    · obtain ⟨_, _, -, -, answered⟩ := task
      exact List.head_eq_of_cons_eq (answers.symm.trans answered)
    · obtain ⟨_, answered⟩ := task
      exact List.head_eq_of_cons_eq (answers.symm.trans answered)
    · rcases task with silent | acknowledged | ⟨refused, first, rest, same, noHello⟩
      · exact absurd (answers.symm.trans silent) (List.cons_ne_nil _ _)
      · exact List.head_eq_of_cons_eq (answers.symm.trans acknowledged)
      · -- Only a peer that did not greet the daemon is turned down.
        have first_ := List.head_eq_of_cons_eq (sent.symm.trans same)
        exact absurd first_.symm (noHello _ _ _)
  rw [acknowledged]
  rfl

/-- What a client of this build does keeps it where it may be. -/
theorem ClientStands.acts {after : ControlConnection} (wanted : conn.request = some request)
    (stands : ClientStands serverId request conn conn.client)
    (task : TaskStands serverId conn conn.task) (acted : conn.clientActs = some after) :
    ClientStands serverId request after after.client ∧ TaskStands serverId after after.task ∧
      after.request = some request ∧ (∀ handover answers, Vouches serverId conn handover answers →
        Vouches serverId after handover answers) ∧ after.task = conn.task := by
  unfold ControlConnection.clientActs at acted
  rw [wanted] at acted
  simp only at acted
  split at acted
  · next stage =>
    rw [stage] at stands
    cases acted
    refine ⟨⟨congrArg (· ++ [request.greeting]) stands.1, stands.2⟩, task.send _, wanted, ?_, rfl⟩
    exact fun _ _ borne => (borne.send request.greeting).of_eq rfl rfl rfl
  · next stage =>
    rw [stage] at stands
    obtain ⟨sent, same⟩ := stands
    split at acted
    · cases acted
    · next reply later arrived =>
      rw [handshake_first task sent (same.symm.trans arrived)] at acted
      cases acted
      exact ⟨⟨sent, rfl⟩, task, rfl, fun _ _ borne => borne.of_eq rfl rfl rfl, rfl⟩
  · next info stage =>
    rw [stage] at stands
    obtain ⟨sent, rfl⟩ := stands
    -- A daemon of this build has the version that is asked for.
    have asked : after = { conn.send request.frame with client := .asked (ownHandshake serverId) } := by
      split_ifs at acted
      · exact (Option.some.inj acted).symm
      · exact (Option.some.inj acted).symm
    subst asked
    refine ⟨⟨congrArg (· ++ [request.frame]) sent, rfl⟩, task.send _, wanted, ?_, rfl⟩
    exact fun _ _ borne => (borne.send request.frame).of_eq rfl rfl rfl
  · cases acted
  · cases acted

/-- A client that fails has lost its connection. -/
theorem ClientStands.fails {error : HandshakeError}
    (stands : ClientStands serverId request conn conn.client) (lost : error = .lost) :
    ClientStands serverId request { conn with client := .gaveUp error } (.gaveUp error) := by
  refine ⟨?_, lost⟩
  cases stage : conn.client <;> rw [stage] at stands
  · exact stands.1 ▸ List.nil_prefix
  · exact stands.1 ▸ List.prefix_append [request.greeting] [request.frame]
  · exact stands.1 ▸ List.prefix_append [request.greeting] [request.frame]
  · exact stands.1 ▸ List.prefix_rfl
  · exact stands.1

end

/-! ### One connection changes -/

section

variable {serverId : UInt64} {plane next : ControlPlane} {id : Nat}
  {conn : ControlConnection}

/-- A connection that changes as its task allows leaves all connections in order. -/
theorem ConnectionsStand.change (inv : ConnectionsStand serverId plane) (after : ControlConnection)
    (found : plane.connections id = some conn)
    (task : TaskStands serverId after after.task)
    (client : ∀ request, after.request = some request →
      ClientStands serverId request after after.client) :
    ConnectionsStand serverId
      { plane with connections := Function.update plane.connections id (some after) } where
  server := inv.server
  fresh other found' there := by
    have there' : Function.update plane.connections id (some after) other = some found' := there
    by_cases same : other = id
    · exact same ▸ inv.fresh id conn found
    · rw [Function.update_of_ne same] at there'
      exact inv.fresh other found' there'
  tasks other found' there := by
    have there' : Function.update plane.connections id (some after) other = some found' := there
    by_cases same : other = id
    · rw [same, Function.update_self] at there'
      exact Option.some.inj there' ▸ task
    · rw [Function.update_of_ne same] at there'
      exact inv.tasks other found' there'
  clients other found' request there wanted := by
    have there' : Function.update plane.connections id (some after) other = some found' := there
    by_cases same : other = id
    · rw [same, Function.update_self] at there'
      obtain rfl := Option.some.inj there'
      exact client request wanted
    · rw [Function.update_of_ne same] at there'
      exact inv.clients other found' request there' wanted

/-- What becomes of one connection that has made no request, or makes no other. -/
theorem ControlInv.change (inv : ControlInv serverId plane) (after : ControlConnection)
    (found : plane.connections id = some conn)
    (task : TaskStands serverId after after.task)
    (client : ∀ request, after.request = some request →
      ClientStands serverId request after after.client)
    (vouches : ∀ handover answers, Vouches serverId conn handover answers →
      Vouches serverId after handover answers)
    (still : after.task = .handedOn → conn.task = .handedOn) :
    ControlInv serverId
      { plane with connections := Function.update plane.connections id (some after) } where
  toConnectionsStand := inv.toConnectionsStand.change after found task client
  once := inv.once
  vouched record among := by
    obtain ⟨found', there, borne⟩ := inv.vouched record among
    by_cases same : record.1.connection = id
    · rw [same, found, Option.some.injEq] at there
      subst there
      refine ⟨after, ?_, vouches _ _ borne⟩
      show Function.update plane.connections id (some after) record.1.connection = some after
      rw [same, Function.update_self]
    · exact ⟨found', (Function.update_of_ne same ..).trans there, borne⟩
  handed other found' there isHanded := by
    have there' : Function.update plane.connections id (some after) other = some found' := there
    by_cases same : other = id
    · rw [same, Function.update_self] at there'
      obtain rfl := Option.some.inj there'
      exact same ▸ inv.handed id conn found (still isHanded)
    · rw [Function.update_of_ne same] at there'
      exact inv.handed other found' there' isHanded

/-- An update changes one connection, and that as it says. -/
theorem ControlPlane.update_cases {change : ControlConnection → Option ControlConnection}
    (updated : plane.update id change = some next) : ∃ conn after,
    plane.connections id = some conn ∧ change conn = some after ∧
      next = { plane with connections := Function.update plane.connections id (some after) } := by
  obtain ⟨after, changed, rfl⟩ := Option.map_eq_some_iff.mp updated
  obtain ⟨conn, found, changes⟩ := Option.bind_eq_some_iff.mp changed
  exact ⟨conn, after, found, changes, rfl⟩

/-- The first frame is a greeting, or the peer is turned down. -/
theorem connectionHandshake_stands {frame : Frame} {later : List Frame}
    (sent : conn.sent = frame :: later) (silent : conn.answers = []) :
    TaskStands serverId
      { conn.answer [(connectionHandshake serverId frame).2] with
        task := (connectionHandshake serverId frame).1, toDaemon := later }
      (connectionHandshake serverId frame).1 := by
  by_cases hello : ∃ version capabilities deviceId, frame = .hello version capabilities deviceId
  · obtain ⟨version, capabilities, deviceId, rfl⟩ := hello
    refine ⟨version, capabilities, sent, rfl, ?_⟩
    exact congrArg (· ++ [helloAck serverId]) silent
  · have refused : connectionHandshake serverId frame = (.closed, expectedHello) := by
      unfold connectionHandshake
      split
      · exact absurd ⟨_, _, _, rfl⟩ hello
      · rfl
    rw [refused]
    refine Or.inr (Or.inr ⟨congrArg (· ++ [expectedHello]) silent, frame, later, sent, ?_⟩)
    exact fun version capabilities deviceId same => hello ⟨version, capabilities, deviceId, same⟩

theorem connectionHandshake_waits (serverId : UInt64) (frame : Frame) :
    (connectionHandshake serverId frame).1 ≠ .handedOn := by
  unfold connectionHandshake
  split
  · exact fun same => by cases same
  · exact fun same => by cases same

namespace ControlInv

variable (inv : ControlInv serverId plane)

include inv

/-- Accepting a connection keeps the gate. -/
theorem accept (request : Option ControlRequest) :
    ControlInv serverId
      { plane with
        accepted := plane.accepted + 1
        connections := Function.update plane.connections plane.accepted (some (.new request)) } where
  server := inv.server
  fresh id conn there := by
    have there' : Function.update plane.connections plane.accepted (some (.new request)) id =
      some conn := there
    show id < plane.accepted + 1
    -- The new connection is the last one, and the others were there before.
    by_cases same : id = plane.accepted
    · omega
    · rw [Function.update_of_ne same] at there'
      have := inv.fresh id conn there'
      omega
  tasks id conn there := by
    have there' : Function.update plane.connections plane.accepted (some (.new request)) id =
      some conn := there
    by_cases same : id = plane.accepted
    · rw [same, Function.update_self] at there'
      obtain rfl := Option.some.inj there'
      exact ⟨rfl, rfl⟩
    · rw [Function.update_of_ne same] at there'
      exact inv.tasks id conn there'
  clients id conn wanted there isWanted := by
    have there' : Function.update plane.connections plane.accepted (some (.new request)) id =
      some conn := there
    by_cases same : id = plane.accepted
    · rw [same, Function.update_self] at there'
      obtain rfl := Option.some.inj there'
      exact ⟨rfl, rfl⟩
    · rw [Function.update_of_ne same] at there'
      exact inv.clients id conn wanted there' isWanted
  once := inv.once
  vouched record among := by
    obtain ⟨conn, there, borne⟩ := inv.vouched record among
    have early := inv.fresh _ conn there
    exact ⟨conn, (Function.update_of_ne (by omega) ..).trans there, borne⟩
  -- No connection is handed over before it was greeted.
  handed id conn there isHanded := by
    have there' : Function.update plane.connections plane.accepted (some (.new request)) id =
      some conn := there
    by_cases same : id = plane.accepted
    · rw [same, Function.update_self] at there'
      obtain rfl := Option.some.inj there'
      cases isHanded
    · rw [Function.update_of_ne same] at there'
      exact inv.handed id conn there' isHanded

/-- A connection is handed on once: as long as its task waits, none of its requests are known. -/
theorem unheard (found : plane.connections id = some conn) (waits : conn.task ≠ .handedOn)
    {record : ControlHandover × List Frame} (among : record ∈ plane.handovers) :
    record.1.connection ≠ id := by
  intro same
  obtain ⟨conn', there, borne⟩ := inv.vouched record among
  rw [same, found, Option.some.injEq] at there
  exact waits (there ▸ borne.task)

/-- A task that reads from its connection keeps the gate. -/
theorem taskReads (found : plane.connections id = some conn)
    (reads : plane.taskReads id conn = some next) : ControlInv serverId next := by
  have task := inv.tasks id conn found
  have notHanded : ∀ {stage : ControlTask}, conn.task = stage → stage ≠ .handedOn →
      ∀ after handover answers, Vouches serverId conn handover answers →
        Vouches serverId after handover answers := by
    intro stage same notHanded after handover answers borne
    exact absurd (same.symm.trans borne.task) notHanded
  unfold ControlPlane.taskReads at reads
  split at reads
  · next frame later stage arrived =>
    cases reads
    rw [stage] at task
    obtain ⟨sent, silent⟩ := task
    obtain rfl := inv.server
    refine inv.change _ found (connectionHandshake_stands (sent.trans arrived) silent) ?_
      (notHanded stage (fun same => by cases same) _) fun isHanded => ?_
    · exact fun request wanted => (inv.clients id conn request found wanted).answer _
    · exact absurd isHanded (connectionHandshake_waits _ frame)
  · next check negotiated deviceId frame later stage arrived =>
    split_ifs at reads with room
    cases reads
    rw [stage] at task
    obtain ⟨version, capabilities, sent, agreed, answered⟩ := task
    have changed := inv.toConnectionsStand.change { conn with task := .handedOn, toDaemon := later }
      found ⟨[], answered⟩ (inv.clients id conn · found)
    -- The new request comes after the others, and is the only one of its connection.
    have shape : ControlPlane.handovers
        { plane with
          connections := Function.update plane.connections id
            (some { conn with task := .handedOn, toDaemon := later })
          waiting := plane.waiting ++ [{ connection := id, frame, check, negotiated, deviceId }] } =
        plane.handovers ++ [({ connection := id, frame, check, negotiated, deviceId }, [])] := by
      unfold ControlPlane.handovers
      rw [List.map_append, ← List.append_assoc]
      rfl
    refine ⟨{ changed with }, ?_, ?_, ?_⟩
    · rw [shape, List.map_append, List.nodup_append]
      refine ⟨inv.once, List.nodup_singleton _, ?_⟩
      intro earlier known last isLast same
      obtain ⟨record, among, rfl⟩ := List.mem_map.mp known
      rw [List.map_singleton, List.mem_singleton] at isLast
      exact inv.unheard found (by rw [stage]; exact fun same => by cases same) among
        (same.trans isLast)
    · intro record among
      rw [shape] at among
      rcases List.mem_append.mp among with earlier | last
      · obtain ⟨found', there, borne⟩ := inv.vouched record earlier
        have apart := inv.unheard found (by rw [stage]; exact fun same => by cases same) earlier
        exact ⟨found', (Function.update_of_ne apart ..).trans there, borne⟩
      · obtain rfl := List.mem_singleton.mp last
        refine ⟨_, Function.update_self .., rfl, ⟨version, capabilities, ?_, agreed⟩, answered⟩
        show _ <+: conn.sent
        rw [sent, arrived]
        exact ⟨later, rfl⟩
    · intro other found' there isHanded
      rw [shape]
      by_cases same : other = id
      · exact ⟨_, List.mem_append_right _ (List.mem_singleton_self _), same.symm⟩
      · obtain ⟨record, among, isOf⟩ := inv.handed other found'
          ((Function.update_of_ne same ..).symm.trans there) isHanded
        exact ⟨record, List.mem_append_left _ among, isOf⟩
  · cases reads

/-- A request that is served gets its answers, and nobody else does. -/
theorem serve {circumstances : ControlConn} (served : plane.serve circumstances = some next) :
    ControlInv serverId next := by
  unfold ControlPlane.serve at served
  split at served
  · cases served
  · next handover later waits =>
    split at served
    · cases served
    · next conn found =>
      split_ifs at served with stopped
      cases served
      have among : (handover, []) ∈ plane.handovers := by
        unfold ControlPlane.handovers
        rw [waits]
        exact List.mem_append_right _ (List.mem_cons_self ..)
      obtain ⟨conn', there, borne⟩ := inv.vouched _ among
      obtain rfl := Option.some.inj (found.symm.trans there)
      obtain ⟨sent, isSent⟩ : ∃ sent, sent =
        (plane.daemon.control (handover.conn circumstances) handover.frame).sent := ⟨_, rfl⟩
      rw [← isSent]
      -- Its record was the first that waited, and is the last that was served.
      have before : plane.handovers =
          plane.served ++ (handover, []) :: later.map fun handover => (handover, []) := by
        unfold ControlPlane.handovers
        rw [waits, List.map_cons]
      have once := inv.once
      rw [before, List.map_append, List.map_cons] at once
      have others := (List.nodup_cons.mp (List.nodup_middle.mp once)).1
      rw [List.mem_append, not_or] at others
      have stands : TaskStands serverId (conn.answer sent) (conn.answer sent).task := by
        have task : (conn.answer sent).task = .handedOn := borne.task
        rw [task]
        exact ⟨sent, congrArg (· ++ sent) borne.answered⟩
      have changed := inv.toConnectionsStand.change (conn.answer sent) found stands
        fun request wanted => (inv.clients _ conn request found wanted).answer sent
      have after : ControlPlane.handovers
          { plane with
            daemon := (plane.daemon.control (handover.conn circumstances) handover.frame).daemon
            connections := Function.update plane.connections handover.connection
              (some (conn.answer sent))
            waiting := later
            served := plane.served ++ [(handover, sent)] } =
          plane.served ++ (handover, sent) :: later.map fun handover => (handover, []) := by
        unfold ControlPlane.handovers
        rw [List.append_assoc, List.singleton_append]
      refine ⟨{ changed with }, ?_, ?_, ?_⟩
      · rw [after, List.map_append, List.map_cons]
        exact once
      · intro record recorded
        rw [after, List.mem_append, List.mem_cons] at recorded
        have elsewhere : ∀ record ∈ plane.handovers, record.1.connection ≠ handover.connection →
            ∃ conn', Function.update plane.connections handover.connection (some (conn.answer sent))
              record.1.connection = some conn' ∧ Vouches serverId conn' record.1 record.2 := by
          intro record known apart
          obtain ⟨conn', there, vouches⟩ := inv.vouched record known
          exact ⟨conn', (Function.update_of_ne apart ..).trans there, vouches⟩
        rcases recorded with earlier | rfl | waiting
        · refine elsewhere record (before ▸ List.mem_append_left _ earlier) fun same => others.1 ?_
          exact List.mem_map.mpr ⟨record, earlier, same⟩
        · refine ⟨_, Function.update_self .., borne.task, borne.sent, ?_⟩
          exact congrArg (· ++ sent) borne.answered
        · refine elsewhere record (before ▸ List.mem_append_right _ (List.mem_cons_of_mem _ waiting))
            fun same => others.2 ?_
          exact List.mem_map.mpr ⟨record, waiting, same⟩
      · intro other found' there isHanded
        -- The records are of the same connections as before.
        have known : ∃ record ∈ plane.handovers, record.1.connection = other := by
          by_cases same : other = handover.connection
          · exact ⟨_, among, same.symm⟩
          · exact inv.handed other found' ((Function.update_of_ne same ..).symm.trans there) isHanded
        obtain ⟨record, among, isOf⟩ := known
        rw [before, List.mem_append, List.mem_cons] at among
        rw [after]
        rcases among with earlier | rfl | waiting
        · exact ⟨record, List.mem_append_left _ earlier, isOf⟩
        · exact ⟨_, List.mem_append_right _ (List.mem_cons_self ..), isOf⟩
        · exact ⟨record, List.mem_append_right _ (List.mem_cons_of_mem _ waiting), isOf⟩

/-- Every step keeps the gate. -/
theorem step {action : ControlAction} (stepped : plane.step action = some next) :
    ControlInv serverId next := by
  cases action with
  | accept request =>
    simp only [ControlPlane.step] at stepped
    split_ifs at stepped
    cases stepped
    exact inv.accept request
  | peerSends id frame =>
    obtain ⟨conn, after, found, changes, rfl⟩ := ControlPlane.update_cases stepped
    -- A peer of its own sends what it likes.
    split_ifs at changes with unknown
    cases changes
    refine inv.change _ found ((inv.tasks id conn found).send frame) (fun request wanted => ?_)
      (fun _ _ borne => borne.send frame) fun isHanded => isHanded
    exact absurd (unknown.symm.trans wanted) (Option.some_ne_none request).symm
  | clientActs id =>
    obtain ⟨conn, after, found, changes, rfl⟩ := ControlPlane.update_cases stepped
    -- Only a client of this build acts by itself.
    cases wanted : conn.request with
    | none =>
      unfold ControlConnection.clientActs at changes
      rw [wanted] at changes
      cases changes
    | some request =>
      obtain ⟨client, task, same, vouches, still⟩ := (inv.clients id conn request found wanted).acts wanted
        (inv.tasks id conn found) changes
      refine inv.change after found task (fun other wanted' => ?_) vouches fun isHanded =>
        still.symm.trans isHanded
      rwa [Option.some.inj (wanted'.symm.trans same)]
  | clientFails id =>
    obtain ⟨conn, after, found, changes, rfl⟩ := ControlPlane.update_cases stepped
    have failed : after = { conn with client := .gaveUp .lost } := by
      split at changes
      · cases changes
      · exact (Option.some.inj changes).symm
    subst failed
    refine inv.change _ found (inv.tasks id conn found) (fun request wanted => ?_)
      (fun _ _ borne => borne.of_eq rfl rfl rfl) fun isHanded => isHanded
    exact (inv.clients id conn request found wanted).fails rfl
  | taskReads id =>
    obtain ⟨conn, found, reads⟩ := Option.bind_eq_some_iff.mp stepped
    exact inv.taskReads found reads
  | taskFails id =>
    obtain ⟨conn, after, found, changes, rfl⟩ := ControlPlane.update_cases stepped
    have task := inv.tasks id conn found
    -- The task fails while it reads the greeting, or after it.
    split at changes
    · next stage =>
      cases changes
      rw [stage] at task
      refine inv.change _ found (Or.inl task.2) (inv.clients id conn · found) (fun _ _ borne => ?_)
        fun isHanded => by cases isHanded
      cases stage.symm.trans borne.task
    · next check negotiated deviceId stage =>
      cases changes
      rw [stage] at task
      obtain ⟨_, _, -, -, answered⟩ := task
      refine inv.change _ found (Or.inr (Or.inl answered)) (inv.clients id conn · found)
        (fun _ _ borne => ?_) fun isHanded => by cases isHanded
      cases stage.symm.trans borne.task
    · cases changes
    · cases changes
  | serve circumstances => exact inv.serve stepped
  | other action =>
    -- Everything else changes the daemon alone.
    have changed : ∃ daemon, next = { plane with daemon } := by
      cases action with
      | control => cases stepped
      | round | task | terminate =>
        obtain ⟨daemon, -, rfl⟩ := Option.map_eq_some_iff.mp stepped
        exact ⟨daemon, rfl⟩
    obtain ⟨daemon, rfl⟩ := changed
    exact { inv with }

end ControlInv

/-- The requests that were let in are what the daemon served, and nothing came of the others. -/
structure ServedRuns (plane : ControlPlane) : Prop where
  runs : ∃ actions, daemonMachine.run daemonMachine.init actions = some plane.daemon ∧
    actions.filterMap DaemonAction.seen =
      (plane.served.filter fun record => record.1.admitted).map fun record => record.1.seen
  refused : ∀ record ∈ plane.served, record.1.admitted = false → ∃ message,
    record.2 = [.error .versionMismatch message]

/-- A request from another version is refused and changes nothing, unless it asks the daemon to end. -/
theorem control_refused {handover : ControlHandover} (circumstances : ControlConn) (daemon : Daemon)
    (refused : handover.admitted = false) : ∃ message,
      daemon.control (handover.conn circumstances) handover.frame =
        daemon.reply (.error .versionMismatch message) := by
  unfold ControlHandover.admitted at refused
  rw [Bool.or_eq_false_iff, beq_eq_false_iff_ne, beq_eq_false_iff_ne] at refused
  exact ⟨_, if_pos refused⟩

namespace ServedRuns

variable (runs : ServedRuns plane)

include runs

/-- Something happens at the daemon that is no request. -/
theorem other {action : DaemonAction} {daemon : Daemon} (noRequest : action.seen = none)
    (stepped : plane.daemon.step action = some daemon) : ServedRuns { plane with daemon } where
  runs := by
    obtain ⟨actions, ran, seen⟩ := runs.runs
    refine ⟨actions ++ [action], ?_, ?_⟩
    · rw [Machine.run_append, ran, Option.bind_some]
      exact Machine.run_cons stepped
    · rw [List.filterMap_append, seen, List.filterMap_cons, noRequest, List.filterMap_nil,
        List.append_nil]
  refused := runs.refused

/-- Serving a request keeps what was served a run of the daemon. -/
theorem serve {circumstances : ControlConn} (served : plane.serve circumstances = some next) :
    ServedRuns next := by
  unfold ControlPlane.serve at served
  split at served
  · cases served
  · next handover later waits =>
    split at served
    · cases served
    · next conn found =>
      split_ifs at served with stopped
      cases served
      obtain ⟨actions, ran, seen⟩ := runs.runs
      cases isAdmitted : handover.admitted with
      | true =>
        refine ⟨⟨actions ++ [.control (handover.conn circumstances) handover.frame], ?_, ?_⟩, ?_⟩
        -- A request that is let in is served as the daemon's own step.
        · have stepped : plane.daemon.step (.control (handover.conn circumstances) handover.frame) =
              some (plane.daemon.control (handover.conn circumstances) handover.frame).daemon := by
            unfold Daemon.step
            rw [if_neg stopped]
          rw [Machine.run_append, ran, Option.bind_some]
          exact Machine.run_cons stepped
        · rw [List.filterMap_append, seen, List.filter_append, List.map_append]
          have last : ([(handover, (plane.daemon.control (handover.conn circumstances)
              handover.frame).sent)].filter fun record => record.1.admitted).map
              (fun record => record.1.seen) = [handover.seen] := by
            simp [isAdmitted]
          exact congrArg (_ ++ ·) last.symm
        · intro record among refused
          rcases List.mem_append.mp among with earlier | last
          · exact runs.refused record earlier refused
          · rw [List.mem_singleton.mp last, isAdmitted] at refused
            cases refused
      | false =>
        -- A request that is refused leaves the daemon as it is.
        obtain ⟨message, answer⟩ := control_refused circumstances plane.daemon isAdmitted
        rw [answer]
        refine ⟨⟨actions, ran, ?_⟩, ?_⟩
        · have last : ([(handover, (plane.daemon.reply (.error .versionMismatch message)).sent)].filter
              fun record => record.1.admitted) = [] := by
            simp [isAdmitted]
          rw [List.filter_append, last, List.append_nil, seen]
        · intro record among refused
          rcases List.mem_append.mp among with earlier | last
          · exact runs.refused record earlier refused
          · exact ⟨message, by rw [List.mem_singleton.mp last]; rfl⟩

/-- Every step keeps what was served a run of the daemon. -/
theorem step {action : ControlAction} (stepped : plane.step action = some next) :
    ServedRuns next := by
  cases action with
  | accept request =>
    simp only [ControlPlane.step] at stepped
    split_ifs at stepped
    cases stepped
    exact ⟨runs.runs, runs.refused⟩
  | peerSends | clientActs | clientFails | taskFails =>
    obtain ⟨conn, after, -, -, rfl⟩ := ControlPlane.update_cases stepped
    exact ⟨runs.runs, runs.refused⟩
  | taskReads id =>
    obtain ⟨conn, -, reads⟩ := Option.bind_eq_some_iff.mp stepped
    unfold ControlPlane.taskReads at reads
    split at reads
    · cases reads
      exact ⟨runs.runs, runs.refused⟩
    · split_ifs at reads
      cases reads
      exact ⟨runs.runs, runs.refused⟩
    · cases reads
  | serve circumstances => exact runs.serve stepped
  | other action =>
    cases action with
    | control => cases stepped
    | round | task | terminate =>
      obtain ⟨daemon, happened, rfl⟩ := Option.map_eq_some_iff.mp stepped
      exact runs.other rfl happened

end ServedRuns

/-- What a client of this build has sent is the beginning of its greeting and its request. -/
theorem ClientStands.sent_prefix {request : ControlRequest} {client : ControlClient}
    (stands : ClientStands serverId request conn client) :
    conn.sent <+: [request.greeting, request.frame] := by
  cases client with
  | connected => exact stands.1 ▸ List.nil_prefix
  | greeted => exact stands.1 ▸ List.prefix_append [request.greeting] [request.frame]
  | acknowledged info => exact stands.1 ▸ List.prefix_append [request.greeting] [request.frame]
  | asked info => exact stands.1 ▸ List.prefix_rfl
  | gaveUp error => exact stands.1

/-- The daemon serves a client of this build what it wanted, on the terms that it learned. -/
theorem Vouches.agreed {request : ControlRequest} {handover : ControlHandover} {answers : List Frame}
    (vouches : Vouches serverId conn handover answers)
    (stands : ClientStands serverId request conn conn.client) :
    handover.frame = request.frame ∧ handover.deviceId = request.deviceId ∧
      handover.check = .matched ∧ handover.negotiated = (ownHandshake serverId).capabilities := by
  obtain ⟨version, capabilities, above, agreed⟩ := vouches.sent
  have same := (above.trans stands.sent_prefix).eq_of_length rfl
  rw [List.cons.injEq, List.cons.injEq] at same
  obtain ⟨greeting, frame, -⟩ := same
  have parts : version = protocolVersion ∧ capabilities = capClipboard ∧
      handover.deviceId = request.deviceId := by
    unfold ControlRequest.greeting at greeting
    injection greeting with isVersion isCapabilities isDevice
    exact ⟨isVersion, isCapabilities, isDevice⟩
  obtain ⟨rfl, rfl, device⟩ := parts
  have terms : negotiate protocolVersion capClipboard = (.matched, capClipboard) := by decide
  rw [terms, Prod.mk.injEq] at agreed
  exact ⟨frame, device, agreed.1.symm, agreed.2.symm⟩

/-- What the handshake is for, wherever the daemon and its peers come to. -/
structure ControlGated (serverId : UInt64) (plane : ControlPlane) : Prop where
  /-- A connection has one request served, and no more. -/
  once : (plane.served.map fun record => record.1.connection).Nodup
  /-- What is served was asked for after a greeting, and its answers are those its connection got. -/
  vouched : ∀ record ∈ plane.served, ∃ conn,
    plane.connections record.1.connection = some conn ∧ Vouches serverId conn record.1 record.2
  /-- Any other connection got at most one answer, to its first frame. -/
  unserved : ∀ id conn, plane.connections id = some conn →
    (∀ record ∈ plane.served, record.1.connection ≠ id) →
    conn.answers = [] ∨ conn.answers = [helloAck serverId] ∨ conn.answers = [expectedHello]
  /-- Both ends have the same idea of what they agreed on. -/
  agreed : ∀ record ∈ plane.served, ∀ conn request,
    plane.connections record.1.connection = some conn → conn.request = some request →
    record.1.frame = request.frame ∧ record.1.deviceId = request.deviceId ∧
      record.1.check = .matched ∧ record.1.negotiated = (ownHandshake serverId).capabilities
  learned : ∀ id conn request, plane.connections id = some conn → conn.request = some request →
    ∀ info, conn.client = .acknowledged info ∨ conn.client = .asked info →
      info = ownHandshake serverId
  /-- A client of this build gives up when its connection is gone, and for no other reason. -/
  welcome : ∀ id conn request error, plane.connections id = some conn →
    conn.request = some request → conn.client = .gaveUp error → error = .lost
  /-- The daemon is where the requests that were let in have brought it, and the others were refused. -/
  runs : ServedRuns plane

/-- However greetings, requests and answers of any number of peers interleave, the daemon serves at most
one request of each connection, as its peer made it, on terms that both know, and only from its own version. -/
theorem control_gated (serverId : UInt64) {actions : List ControlAction} {plane : ControlPlane}
    (ran : (controlPlane serverId).run (controlPlane serverId).init actions = some plane) :
    ControlGated serverId plane := by
  have init : ControlInv serverId (controlPlane serverId).init ∧
      ServedRuns (controlPlane serverId).init := by
    refine ⟨⟨⟨rfl, ?_, ?_, ?_⟩, List.nodup_nil, ?_, ?_⟩, ⟨[], rfl, rfl⟩, ?_⟩
    · exact fun _ _ there => by cases there
    · exact fun _ _ there => by cases there
    · exact fun _ _ _ there => by cases there
    · exact fun _ among => by cases among
    · exact fun _ _ there => by cases there
    · exact fun _ among => by cases among
  have kept : ∀ before action after, ControlInv serverId before ∧ ServedRuns before →
      (controlPlane serverId).step before action = some after →
      ControlInv serverId after ∧ ServedRuns after :=
    fun before action after both stepped => ⟨both.1.step stepped, both.2.step stepped⟩
  obtain ⟨inv, runs⟩ := Machine.run_invariant kept init ran
  have served : ∀ record ∈ plane.served, record ∈ plane.handovers := fun _ among =>
    List.mem_append_left _ among
  refine ⟨?_, fun record among => inv.vouched record (served record among), ?_, ?_, ?_, ?_, runs⟩
  · have once := inv.once
    unfold ControlPlane.handovers at once
    rw [List.map_append] at once
    exact once.of_append_left
  · intro id conn found unserved
    have task := inv.tasks id conn found
    cases stage : conn.task with
    | awaitsHello =>
      rw [stage] at task
      exact Or.inl task.2
    | awaitsRequest =>
      rw [stage] at task
      obtain ⟨_, _, -, -, answered⟩ := task
      exact Or.inr (Or.inl answered)
    | handedOn =>
      -- Its request still waits.
      obtain ⟨record, among, isOf⟩ := inv.handed id conn found stage
      obtain ⟨conn', found', borne⟩ := inv.vouched record among
      rw [isOf, found, Option.some.injEq] at found'
      subst found'
      rcases List.mem_append.mp among with isServed | waiting
      · exact absurd isOf (unserved record isServed)
      · obtain ⟨handover, -, rfl⟩ := List.mem_map.mp waiting
        exact Or.inr (Or.inl borne.answered)
    | closed =>
      rw [stage] at task
      rcases task with silent | acknowledged | ⟨refused, -⟩
      · exact Or.inl silent
      · exact Or.inr (Or.inl acknowledged)
      · exact Or.inr (Or.inr refused)
  · intro record among conn request found wanted
    obtain ⟨conn', found', borne⟩ := inv.vouched record (served record among)
    obtain rfl := Option.some.inj (found.symm.trans found')
    exact borne.agreed (inv.clients _ conn request found wanted)
  · intro id conn request found wanted info stage
    have stands := inv.clients id conn request found wanted
    rcases stage with stage | stage
    · rw [stage] at stands
      exact stands.2
    · rw [stage] at stands
      exact stands.2
  · intro id conn request error found wanted stage
    have stands := inv.clients id conn request found wanted
    rw [stage] at stands
    exact stands.2

end

/-- A daemon that nothing keeps from answering. -/
def exampleCircumstances : ControlConn where
  connection := 0
  clientVersion := 0
  capabilities := 0
  deviceId := 0
  delivers := 8
  publishes := true
  ptyPath := "/dev/pts/3"
  now := 1700000000
  processes := fun _ => ("", "")

/-- A client that ends the daemon, from the greeting to the answer, and a peer of another version. -/
def endsDaemon : List ControlAction :=
  [.accept (some { frame := .killServer, deviceId := 9, anyVersion := true }), .accept none,
    .clientActs 0, .peerSends 1 (.hello 22 1 5), .taskReads 1, .peerSends 1 .listSessions,
    .taskReads 0, .taskReads 1, .clientActs 0, .clientActs 0, .taskReads 0,
    .serve exampleCircumstances, .serve exampleCircumstances]

theorem control_gated_endsDaemon :
    ((controlPlane 7).run (controlPlane 7).init endsDaemon).map (·.served.length) = some 2 ∧
      ∀ plane, (controlPlane 7).run (controlPlane 7).init endsDaemon = some plane →
        ControlGated 7 plane :=
  ⟨rfl, fun _ ran => control_gated 7 ran⟩

end Gritty
