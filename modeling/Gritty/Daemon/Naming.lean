import Gritty.Daemon.Steps

/-! Session names and ids in every state the daemon reaches, and what targets stand for. -/

namespace Gritty

/-- A name that a session can get. -/
structure ValidName (name : String) : Prop where
  notEmpty : name ≠ ""
  notNumeric : parseU32 name = none
  notDash : name ≠ "-"
  noControl : (utf8 name).any isAsciiControl = false

/-- The named sessions have valid names, no two of them the same. -/
structure Named (sessions : Sessions) : Prop where
  valid : ∀ id session name, sessions.lookup id = some session → session.name = some name →
    ValidName name
  distinct : ∀ first second one other name, sessions.lookup first = some one →
    sessions.lookup second = some other → one.name = some name → other.name = some name →
      first = second

namespace Sessions

variable {sessions left : Sessions}

/-- A name that passes the check is valid, and no session has it. -/
theorem validateSessionName_ok {name : String} (notEmpty : name ≠ "")
    (validated : sessions.validateSessionName name = .ok ()) :
    ValidName name ∧ ∀ id session, sessions.lookup id = some session → session.name ≠ some name := by
  unfold validateSessionName at validated
  by_cases control : (utf8 name).any isAsciiControl = true
  · simp [control] at validated
  rw [if_neg control] at validated
  by_cases numeric : (parseU32 name).isSome = true
  · simp [numeric] at validated
  rw [if_neg numeric] at validated
  by_cases dash : name = "-"
  · simp [dash] at validated
  rw [if_neg dash] at validated
  by_cases taken : (sessions.entries.any fun entry => entry.2.name = some name) = true
  · simp only [taken, if_true] at validated
    cases validated
  refine ⟨⟨notEmpty, by simpa using numeric, dash, by simpa using control⟩, ?_⟩
  intro id session found named
  refine taken (List.any_eq_true.mpr ⟨⟨id, session⟩, mem_entries_iff.mpr found, ?_⟩)
  simpa using named

/-- Sessions that are kept keep their names. -/
theorem Carries.named (carries : left.Carries sessions) (named : Named sessions) : Named left where
  valid id after name found given := by
    obtain ⟨before, looked, kept⟩ := carries id after found
    exact named.valid id before name looked (kept.name.symm.trans given)
  distinct first second one other name foundOne foundOther givenOne givenOther := by
    obtain ⟨oneBefore, lookedOne, keptOne⟩ := carries first one foundOne
    obtain ⟨otherBefore, lookedOther, keptOther⟩ := carries second other foundOther
    exact named.distinct first second oneBefore otherBefore name lookedOne lookedOther
      (keptOne.name.symm.trans givenOne) (keptOther.name.symm.trans givenOther)

/-- A session without a name, or with a valid one that no other session has, can be put anywhere. -/
theorem named_insert {id : UInt32} {session : SessionState} (named : Named sessions)
    (fresh : ∀ name, session.name = some name → ValidName name ∧
      ∀ other state, sessions.lookup other = some state → other ≠ id → state.name ≠ some name) :
    Named (sessions.insert id session) where
  valid other state name found given := by
    by_cases same : other = id
    · subst same
      rw [AList.lookup_insert, Option.some.injEq] at found
      subst found
      exact (fresh name given).1
    · rw [AList.lookup_insert_ne same] at found
      exact named.valid other state name found given
  distinct first second one other name foundOne foundOther givenOne givenOther := by
    -- Only the session that is put there can clash, and its name is new.
    by_cases here : first = id
    · by_cases there : second = id
      · exact here.trans there.symm
      · subst here
        rw [AList.lookup_insert, Option.some.injEq] at foundOne
        rw [AList.lookup_insert_ne there] at foundOther
        subst foundOne
        exact absurd givenOther ((fresh name givenOne).2 second other foundOther there)
    · rw [AList.lookup_insert_ne here] at foundOne
      by_cases there : second = id
      · subst there
        rw [AList.lookup_insert, Option.some.injEq] at foundOther
        subst foundOther
        exact absurd givenOne ((fresh name givenOther).2 first one foundOne here)
      · rw [AList.lookup_insert_ne there] at foundOther
        exact named.distinct first second one other name foundOne foundOther givenOne givenOther

/-- What has a session's name stands for the session. -/
theorem resolveSession_name (named : Named sessions) {lastAttached : Option UInt32} {id : UInt32}
    {session : SessionState} {name : String} (found : sessions.lookup id = some session)
    (given : session.name = some name) :
    sessions.resolveSession name lastAttached = some id := by
  unfold resolveSession
  rw [if_neg (named.valid id session name found given).notDash]
  cases first : sessions.entries.find? fun entry => entry.2.name = some name with
  | none =>
    rw [List.find?_eq_none] at first
    exact absurd given (by simpa using first ⟨id, session⟩ (mem_entries_iff.mpr found))
  | some entry =>
    -- Whichever session of the name is met first, there is only the one.
    obtain ⟨other, state⟩ := entry
    have looked := mem_entries_iff.mp (List.mem_of_find?_eq_some first)
    have matched : state.name = some name := by simpa using List.find?_some first
    exact congrArg some (named.distinct other id state session name looked found matched given)

/-- A target that is no session's name stands for the session of its number. -/
theorem resolveSession_number {target : String} {lastAttached : Option UInt32}
    (notDash : target ≠ "-")
    (unused : ∀ id session, sessions.lookup id = some session → session.name ≠ some target) :
    sessions.resolveSession target lastAttached =
      (parseU32 target).filter fun id => (sessions.lookup id).isSome := by
  unfold resolveSession
  have none : sessions.entries.find? (fun entry => entry.2.name = some target) = none := by
    rw [List.find?_eq_none]
    rintro ⟨id, session⟩ member
    simpa using unused id session (mem_entries_iff.mp member)
  rw [if_neg notDash, none]

/-- The dash is not a number. -/
theorem decimal_ne_dash (id : UInt32) : decimal id ≠ "-" := by
  intro dash
  have read := parseU32_decimal id
  rw [dash] at read
  exact absurd read (by rw [show parseU32 "-" = none by decide]; simp)

/-- A session's id, in decimal form, stands for the session. -/
theorem resolveSession_id (named : Named sessions) {lastAttached : Option UInt32} {id : UInt32}
    {session : SessionState} (found : sessions.lookup id = some session) :
    sessions.resolveSession (decimal id) lastAttached = some id := by
  have unused : ∀ other state, sessions.lookup other = some state →
      state.name ≠ some (decimal id) := by
    intro other state looked given
    have valid := named.valid other state (decimal id) looked given
    simpa using valid.notNumeric
  rw [resolveSession_number (decimal_ne_dash id) unused, parseU32_decimal]
  simp [found]

/-- What a number stands for is the session of that id. -/
theorem id_of_resolveSession (named : Named sessions) {lastAttached : Option UInt32}
    {number id : UInt32} (resolved : sessions.resolveSession (decimal number) lastAttached = some id) :
    id = number := by
  obtain ⟨session, found, ⟨dash, -⟩ | ⟨-, byName | byNumber⟩⟩ := resolveSession_eq_some resolved
  · exact absurd dash (decimal_ne_dash number)
  · -- No session is named by a number.
    have valid := (named.valid id session (decimal number) found byName).notNumeric
    rw [parseU32_decimal] at valid
    simp at valid
  · rw [parseU32_decimal] at byNumber
    exact (Option.some.inj byNumber).symm

/-- The same sessions in another order are named alike, and resolve every target alike. -/
theorem resolveSession_perm (named : Named sessions) {order : Sessions}
    (perm : order.entries.Perm sessions.entries) (target : String) (lastAttached : Option UInt32) :
    order.resolveSession target lastAttached = sessions.resolveSession target lastAttached := by
  have same : ∀ id, order.lookup id = sessions.lookup id := fun _ => AList.perm_lookup perm
  have namedOrder : Named order := by
    refine Carries.named (fun id session found => ⟨session, ?_, .refl session⟩) named
    rwa [← same]
  by_cases dash : target = "-"
  · simp [resolveSession, dash, same]
  · by_cases used : ∃ id session, sessions.lookup id = some session ∧ session.name = some target
    · obtain ⟨id, session, found, given⟩ := used
      rw [resolveSession_name named found given,
        resolveSession_name namedOrder ((same id).trans found) given]
    · have unused : ∀ id session, sessions.lookup id = some session →
          session.name ≠ some target :=
        fun id session found given => used ⟨id, session, found, given⟩
      rw [resolveSession_number dash unused, resolveSession_number dash (by simpa [same] using unused)]
      simp [same]

end Sessions

/-- The session that an attach was acknowledged for, among frames that were delivered. -/
def ackedId (delivered : List Frame) : Option UInt32 :=
  delivered.findSome? fun frame =>
    match frame with
    | .attachAck _ id => some id
    | _ => none

/-- A daemon, beside the task of the session that a client was last attached to. -/
structure Watched where
  daemon : Daemon
  lastServed : Option Nat
  deriving DecidableEq

/-- The task that a client was last attached to, by what the client was told. -/
def Watched.served (watched : Watched) (next : Daemon) : DaemonAction → Option Nat
  | .control conn frame =>
    match ackedId ((watched.daemon.control conn frame).sent.take conn.delivers) with
    | some id => (next.sessions.lookup id).map (·.handle)
    | none => watched.lastServed
  | _ => watched.lastServed

/-- A daemon that is watched from its start. -/
def watchedDaemon : Machine Watched DaemonAction where
  init := { daemon := .new, lastServed := none }
  step watched action := (watched.daemon.step action).map fun next =>
    { daemon := next, lastServed := watched.served next action }

/-- The next id of the daemon is below the largest one. -/
def NextIdBelowMax (watched : Watched) (_ : DaemonAction) : Prop :=
  watched.daemon.nextId.toNat < 2 ^ 32 - 1

instance (watched : Watched) (action : DaemonAction) : Decidable (NextIdBelowMax watched action) :=
  inferInstanceAs (Decidable (watched.daemon.nextId.toNat < 2 ^ 32 - 1))

/-- Every target has at most one answer, and the right one. -/
structure Unambiguous (watched : Watched) : Prop where
  ids : watched.daemon.sessions.keys.Nodup
  tasks : Daemon.TasksApart watched.daemon
  names : Named watched.daemon.sessions
  /-- The order in which the sessions are met makes no difference. -/
  order : ∀ order : Sessions, order.entries.Perm watched.daemon.sessions.entries → ∀ target,
    order.resolveSession target watched.daemon.lastAttached =
      watched.daemon.sessions.resolveSession target watched.daemon.lastAttached
  byId : ∀ id session, watched.daemon.sessions.lookup id = some session →
    watched.daemon.sessions.resolveSession (decimal id) watched.daemon.lastAttached = some id
  byName : ∀ id session name, watched.daemon.sessions.lookup id = some session →
    session.name = some name →
      watched.daemon.sessions.resolveSession name watched.daemon.lastAttached = some id
  /-- The dash stands for the session that a client was last attached to, or for nothing. -/
  byDash : ∀ id,
    watched.daemon.sessions.resolveSession "-" watched.daemon.lastAttached = some id →
      ∃ session, watched.daemon.sessions.lookup id = some session ∧
        watched.lastServed = some session.handle

/-- What makes names and ids unambiguous, kept by every step. -/
structure WellNamed (watched : Watched) : Prop where
  tasks : Daemon.TasksApart watched.daemon
  named : Named watched.daemon.sessions
  below : ∀ id session, watched.daemon.sessions.lookup id = some session →
    id < watched.daemon.nextId
  lastBelow : ∀ id, watched.daemon.lastAttached = some id → id < watched.daemon.nextId
  lastServed : ∀ id session, watched.daemon.lastAttached = some id →
    watched.daemon.sessions.lookup id = some session → watched.lastServed = some session.handle

/-- Names that are kept apart leave every target one answer. -/
theorem WellNamed.unambiguous {watched : Watched} (well : WellNamed watched) :
    Unambiguous watched where
  ids := watched.daemon.sessions.keys_nodup
  tasks := well.tasks
  names := well.named
  order order perm target := Sessions.resolveSession_perm well.named perm target _
  byId id session found := Sessions.resolveSession_id well.named found
  byName id session name found given := Sessions.resolveSession_name well.named found given
  byDash id resolved := by
    obtain ⟨session, found, ⟨_, last⟩ | ⟨notDash, _⟩⟩ := Sessions.resolveSession_eq_some resolved
    · exact ⟨session, found, well.lastServed id session last found⟩
    · exact absurd rfl notDash

/-- A daemon that has just started has nothing to name. -/
theorem new_wellNamed : WellNamed watchedDaemon.init where
  tasks := Daemon.new_tasksApart
  named :=
    ⟨fun id session name found => by simp [watchedDaemon, Daemon.new] at found,
      fun first second one other name found => by simp [watchedDaemon, Daemon.new] at found⟩
  below id session found := by simp [watchedDaemon, Daemon.new] at found
  lastBelow id last := by simp [watchedDaemon, Daemon.new] at last
  lastServed id session last := by simp [watchedDaemon, Daemon.new] at last

/-- Nothing is acknowledged where no acknowledgement was delivered. -/
private theorem ackedId_quiet {conn : ControlConn} {out : Dispatched}
    (quiet : ∀ id, ¬ Daemon.Acks conn out id) : ackedId (out.sent.take conn.delivers) = none := by
  unfold ackedId
  rw [List.findSome?_eq_none_iff]
  intro frame member
  cases frame with
  | attachAck device id => exact absurd ⟨device, member⟩ (quiet id)
  | _ => rfl

/-- Below the largest id, the next one is larger. -/
theorem lt_next {id : UInt32} (below : id.toNat < 2 ^ 32 - 1) : id < id + 1 := by
  have one : (1 : UInt32).toNat = 1 := rfl
  rw [UInt32.lt_iff_toNat_lt, UInt32.toNat_add, one]
  omega

/-- Everything stays below the next id when that grows. -/
theorem lt_grown {id next grown : UInt32} (below : next.toNat < 2 ^ 32 - 1)
    (small : id < next) (grows : grown = next ∨ grown = next + 1) : id < grown := by
  rcases grows with rfl | rfl
  · exact small
  · exact UInt32.lt_trans small (lt_next below)

/-- Whatever comes of a control frame, names stay valid and apart. -/
theorem Daemon.Controlled.named {daemon : Daemon} {conn : ControlConn} {frame : Frame}
    {out : Dispatched} (controlled : Daemon.Controlled daemon conn frame out)
    (named : Named daemon.sessions) : Named out.daemon.sessions := by
  cases controlled with
  | created reaped session given command cwd clientName cols rows lingerSecs asked within names
      handle sessions nextId spawned lastAttached sent delivered =>
    rw [sessions]
    refine Sessions.named_insert (Sessions.Carries.named within.carries named) ?_
    intro name given
    obtain ⟨notEmpty, validated⟩ := names name given
    obtain ⟨valid, unused⟩ := Sessions.validateSessionName_ok notEmpty validated
    exact ⟨valid, fun other state found _ => unused other state found⟩
  | attached reaped here before after session clientName force cols rows attachToken renderedOffset
      lineDirty asked claim within looked handle name owner sessions nextId spawned lastAttached
      sent delivered =>
    have found := within here before looked
    -- The session keeps its name, which no other one has.
    rw [sessions]
    refine Sessions.named_insert (Sessions.Carries.named within.carries named) ?_
    intro given named'
    rw [name] at named'
    refine ⟨named.valid here before given found named', fun other state lookedUp apart clash => ?_⟩
    exact apart (named.distinct other here state before given (within other state lookedUp) found
      clash named')
  | renamed reaped here before name within looked valid sessions nextId spawned lastAttached quiet =>
    rw [sessions]
    refine Sessions.named_insert (Sessions.Carries.named within.carries named) ?_
    intro given same
    obtain rfl : name = given := Option.some.inj same
    obtain ⟨valid, unused⟩ := Sessions.validateSessionName_ok valid.1 valid.2
    exact ⟨valid, fun other state lookedUp _ => unused other state lookedUp⟩
  | kept carries nextId spawned lastAttached quiet => exact carries.named named

/-- Every step of a daemon keeps names valid and apart. -/
theorem Daemon.step_named {daemon next : Daemon} {action : DaemonAction}
    (named : Named daemon.sessions) (stepped : daemon.step action = some next) :
    Named next.sessions := by
  rcases Daemon.step_cases stepped with ⟨conn, frame, rfl, rfl⟩ | ⟨_, carries, _⟩
  · exact (Daemon.control_cases daemon conn frame).named named
  · exact carries.named named

/-- A control frame keeps names and ids unambiguous. -/
theorem control_wellNamed {watched : Watched} (well : WellNamed watched)
    (below : watched.daemon.nextId.toNat < 2 ^ 32 - 1) (conn : ControlConn) (frame : Frame)
    (tasks : Daemon.TasksApart (watched.daemon.control conn frame).daemon) :
    WellNamed
      { daemon := (watched.daemon.control conn frame).daemon
        lastServed :=
          watched.served (watched.daemon.control conn frame).daemon (.control conn frame) } := by
  obtain ⟨_, named, small, lastBelow, lastServed⟩ := well
  have controlled := Daemon.control_cases watched.daemon conn frame
  have keptNames := controlled.named named
  simp only [Watched.served]
  generalize watched.daemon.control conn frame = out at *
  cases controlled with
  | created reaped session given command cwd clientName cols rows lingerSecs asked within names
      handle sessions nextId spawned lastAttached sent delivered =>
    -- The new id is free, so nothing else is found under it.
    have acked : ackedId (out.sent.take conn.delivers) = some watched.daemon.nextId := by
      rw [sent, List.take_of_length_le (by simpa using delivered)]
      rfl
    refine ⟨tasks, keptNames, ?_, ?_, ?_⟩
    · intro id state found
      simp only [sessions, nextId] at found ⊢
      by_cases same : id = watched.daemon.nextId
      · rw [same]
        exact lt_next below
      · rw [AList.lookup_insert_ne same] at found
        exact lt_grown below (small id state (within id state found)) (Or.inr rfl)
    · intro id last
      simp only [lastAttached, Option.some.injEq, nextId] at last ⊢
      rw [← last]
      exact lt_next below
    · intro id state last found
      simp only [lastAttached, Option.some.injEq, sessions] at last found
      subst last
      simp only [acked, sessions, found, Option.map_some]
  | attached reaped here before after session clientName force cols rows attachToken renderedOffset
      lineDirty asked claim within looked handle name owner sessions nextId spawned lastAttached
      sent delivered =>
    have acked : ackedId (out.sent.take conn.delivers) = some here := by
      rw [sent, List.take_of_length_le (by simpa using delivered)]
      rfl
    have found := within here before looked
    refine ⟨tasks, keptNames, ?_, ?_, ?_⟩
    · intro id state lookedUp
      simp only [sessions, nextId] at lookedUp ⊢
      by_cases same : id = here
      · exact same ▸ small here before found
      · rw [AList.lookup_insert_ne same] at lookedUp
        exact small id state (within id state lookedUp)
    · intro id last
      simp only [lastAttached, Option.some.injEq, nextId] at last ⊢
      exact last ▸ small here before found
    · intro id state last lookedUp
      simp only [lastAttached, Option.some.injEq, sessions] at last lookedUp
      subst last
      simp only [acked, sessions, lookedUp, Option.map_some]
  | renamed reaped here before name within looked valid sessions nextId spawned lastAttached quiet =>
    have found := within here before looked
    refine ⟨tasks, keptNames, ?_, ?_, ?_⟩
    · intro id state lookedUp
      simp only [sessions, nextId] at lookedUp ⊢
      by_cases same : id = here
      · exact same ▸ small here before found
      · rw [AList.lookup_insert_ne same] at lookedUp
        exact small id state (within id state lookedUp)
    · intro id last
      simp only [lastAttached, nextId] at last ⊢
      exact lastBelow id last
    · intro id state last lookedUp
      simp only [lastAttached, sessions] at last lookedUp
      simp only [ackedId_quiet quiet]
      by_cases same : id = here
      · -- The renamed session is still the same task.
        subst same
        rw [AList.lookup_insert, Option.some.injEq] at lookedUp
        rw [lastServed id before last found, ← lookedUp]
      · rw [AList.lookup_insert_ne same] at lookedUp
        exact lastServed id state last (within id state lookedUp)
  | kept carries nextId spawned lastAttached quiet =>
    refine ⟨tasks, keptNames, ?_, ?_, ?_⟩
    · intro id state lookedUp
      obtain ⟨before, looked, _⟩ := carries id state lookedUp
      exact lt_grown below (small id before looked) nextId
    · intro id last
      simp only [lastAttached] at last
      exact lt_grown below (lastBelow id last) nextId
    · intro id state last lookedUp
      obtain ⟨before, looked, same⟩ := carries id state lookedUp
      simp only [lastAttached] at last
      simp only [ackedId_quiet quiet]
      rw [lastServed id before last looked, same.handle]

/-- Every step of the daemon keeps names and ids unambiguous. -/
theorem step_wellNamed {watched next : Watched} {action : DaemonAction} (well : WellNamed watched)
    (below : NextIdBelowMax watched action)
    (stepped : watchedDaemon.step watched action = some next) : WellNamed next := by
  simp only [watchedDaemon, Option.map_eq_some_iff] at stepped
  obtain ⟨daemon, went, rfl⟩ := stepped
  have tasks := Daemon.step_tasksApart well.tasks went
  rcases Daemon.step_cases went with ⟨conn, frame, rfl, rfl⟩ | ⟨other, carries, nextId, _, last⟩
  · exact control_wellNamed well below conn frame tasks
  · -- Nobody is attached by any other step.
    have quiet : watched.served daemon action = watched.lastServed := by
      cases action with
      | control conn frame => exact absurd rfl (other conn frame)
      | _ => rfl
    refine ⟨tasks, carries.named well.named, ?_, ?_, ?_⟩
    · intro id state lookedUp
      obtain ⟨before, looked, _⟩ := carries id state lookedUp
      simp only [nextId]
      exact well.below id before looked
    · intro id same
      simp only [last, nextId] at same ⊢
      exact well.lastBelow id same
    · intro id state same lookedUp
      obtain ⟨before, looked, kept⟩ := carries id state lookedUp
      simp only [last] at same
      simp only [quiet]
      rw [well.lastServed id before same looked, kept.handle]

/-- In every state the daemon reaches below the largest id, every target has at most one answer, and the right one. -/
theorem targets_unambiguous {actions : List DaemonAction} {last : Watched}
    (below : watchedDaemon.Meets NextIdBelowMax watchedDaemon.init actions)
    (ran : watchedDaemon.run watchedDaemon.init actions = some last) : Unambiguous last := by
  have well : WellNamed last :=
    Machine.run_induction (fun _ _ _ well below stepped => step_wellNamed well below stepped)
      new_wellNamed below ran
  exact well.unambiguous

/-- A connection of the current version, for a device, on which every frame can be sent. -/
def steadyConn (connection : Nat) (deviceId : UInt64) : ControlConn where
  connection
  clientVersion := protocolVersion
  capabilities := 0
  deviceId
  delivers := 2
  publishes := true
  ptyPath := "/dev/pts/1"
  now := 1000
  processes := fun _ => ("-", "")

/-- A session is created under a name, and gets another. -/
def createAndRename : List DaemonAction :=
  [.control (steadyConn 0 7) (.newSession "work" "" "" 80 24 "laptop" 0),
    .control (steadyConn 1 7) (.renameSession "work" "play")]

/-- A session that was made and renamed is the only one of its names. -/
theorem targets_unambiguous_renamed :
    ∃ last, watchedDaemon.run watchedDaemon.init createAndRename = some last ∧
      Unambiguous last := by
  have below : watchedDaemon.Meets NextIdBelowMax watchedDaemon.init createAndRename :=
    Machine.meets_cons (by decide) rfl (Machine.meets_cons (by decide) rfl trivial)
  exact ⟨_, rfl, targets_unambiguous below rfl⟩

end Gritty
