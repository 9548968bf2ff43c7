import Gritty.Daemon.Naming

/-! Who may reconnect to a session on its own: the device that last attached to it explicitly. -/

namespace Gritty

/-- A client on a device attaches explicitly to a session, and is told so. -/
def AttachesExplicitly (device : UInt64) (id : UInt32) (daemon : Daemon) (action : DaemonAction) :
    Prop :=
  ∃ (conn : ControlConn) (session clientName : String) (force : Bool) (cols rows : UInt16)
    (renderedOffset : UInt64) (lineDirty : Bool),
    action = .control conn
      (.attach session clientName force false cols rows 0 renderedOffset lineDirty) ∧
    conn.deviceId = device ∧
    Daemon.Acks conn (daemon.control conn
      (.attach session clientName force false cols rows 0 renderedOffset lineDirty)) id

/-- A session's task is there under its id only, and a device does not own it. -/
structure OwnedByOther (device : UInt64) (id : UInt32) (handle : Nat) (daemon : Daemon) : Prop where
  spawned : handle < daemon.spawned
  owned : ∀ other session, daemon.sessions.lookup other = some session →
    session.handle = handle → other = id ∧ ∃ owner, session.owner = some owner ∧ owner ≠ device

namespace Daemon

variable {daemon : Daemon} {conn : ControlConn}

/-- Where no attach is acknowledged, no session gets another owner. -/
theorem owner_kept {frame : Frame} {out : Dispatched} (controlled : Controlled daemon conn frame out)
    (quiet : ∀ id, ¬ Acks conn out id) {id : UInt32} {before after : SessionState}
    {owner : UInt64} (looked : daemon.sessions.lookup id = some before)
    (owned : before.owner = some owner) (found : out.daemon.sessions.lookup id = some after) :
    after.owner = some owner := by
  cases controlled with
  | created reaped session name command cwd clientName cols rows lingerSecs asked within named
      handle sessions nextId spawned lastAttached sent delivered =>
    have acks : Acks conn out daemon.nextId := by
      refine ⟨conn.deviceId, ?_⟩
      rw [sent, List.take_of_length_le (by simpa using delivered)]
      simp
    exact absurd acks (quiet daemon.nextId)
  | attached reaped here was changed session clientName force cols rows attachToken renderedOffset
      lineDirty asked claim within there handle name ownedNow sessions nextId spawned lastAttached
      sent delivered =>
    have acks : Acks conn out here := by
      refine ⟨conn.deviceId, ?_⟩
      rw [sent, List.take_of_length_le (by simpa using delivered)]
      simp
    exact absurd acks (quiet here)
  | renamed reaped here was name within there valid sessions =>
    rw [sessions] at found
    by_cases same : id = here
    · -- A renamed session has the metadata it had.
      subst same
      rw [AList.lookup_insert, Option.some.injEq] at found
      have looked' := within id was there
      rw [looked, Option.some.injEq] at looked'
      subst looked' found
      exact owned
    · rw [AList.lookup_insert_ne same] at found
      have kept := within id after found
      rw [looked, Option.some.injEq] at kept
      exact kept ▸ owned
  | kept carries =>
    obtain ⟨was, there, same⟩ := carries id after found
    rw [looked, Option.some.injEq] at there
    subst there
    exact same.owner owner owned

/-- An automatic reconnect of a device that does not own the session changes nothing, and is told so. -/
theorem attach_displaced {session : String} {left : Sessions} {id : UInt32} {state : SessionState}
    (resolved :
      daemon.sessions.resolveLiveSession session daemon.lastAttached = (left, .ok (id, state)))
    {attachToken : UInt64} (claims : attachToken ≠ 0) {owner : UInt64}
    (owned : state.owner = some owner) (other : owner ≠ conn.deviceId) (clientName : String)
    (force : Bool) (cols rows : UInt16) (renderedOffset : UInt64) (lineDirty : Bool) :
    daemon.attach conn session clientName force false cols rows attachToken renderedOffset
      lineDirty = { daemon with sessions := left }.reply (ownerChanged session) := by
  have current : (state.metadata.map (·.ownerDeviceId)).getD 0 = owner := by
    rw [SessionState.owner] at owned
    simp [owned]
  unfold attach
  rw [resolved]
  simp only [Bool.false_eq_true, if_false, current]
  rw [if_pos ⟨claims, other.symm⟩]

/-- A control frame gives the session to the device only if it attaches explicitly from there. -/
theorem control_ownedByOther {device : UInt64} {id : UInt32} {handle : Nat} {frame : Frame}
    {out : Dispatched} (other : OwnedByOther device id handle daemon)
    (controlled : Controlled daemon conn frame out)
    (elsewhere : ∀ (session clientName : String) (force : Bool) (cols rows : UInt16)
      (renderedOffset : UInt64) (lineDirty : Bool),
      frame = .attach session clientName force false cols rows 0 renderedOffset lineDirty →
        conn.deviceId = device → ¬ Acks conn out id) :
    OwnedByOther device id handle out.daemon := by
  obtain ⟨below, owned⟩ := other
  refine ⟨Nat.lt_of_lt_of_le below controlled.origin.1, ?_⟩
  intro there after found same
  cases controlled with
  | created reaped session name command cwd clientName cols rows lingerSecs asked within named
      fresh sessions =>
    rw [sessions] at found
    by_cases new : there = daemon.nextId
    · -- The new session is another task.
      rw [new, AList.lookup_insert, Option.some.injEq] at found
      subst found
      omega
    · rw [AList.lookup_insert_ne new] at found
      exact owned there after (within there after found) same
  | attached reaped here before changed session clientName force cols rows attachToken
      renderedOffset lineDirty asked claim within looked kept name ownedNow sessions nextId spawned
      lastAttached sent delivered =>
    rw [sessions] at found
    by_cases served : there = here
    · subst served
      rw [AList.lookup_insert, Option.some.injEq] at found
      subst found
      obtain ⟨rfl, owner, had, notDevice⟩ :=
        owned there before (within there before looked) (kept.symm.trans same)
      refine ⟨rfl, conn.deviceId, ownedNow, fun back => ?_⟩
      -- The device itself gets the session neither by a claim nor, as assumed, explicitly.
      rcases claim with rfl | claimed
      · refine elsewhere session clientName force cols rows renderedOffset lineDirty asked back ?_
        refine ⟨conn.deviceId, ?_⟩
        rw [sent, List.take_of_length_le (by simpa using delivered)]
        simp
      · rw [had, Option.getD_some] at claimed
        exact notDevice (claimed.trans back)
    · rw [AList.lookup_insert_ne served] at found
      exact owned there after (within there after found) same
  | renamed reaped here before name within looked valid sessions =>
    rw [sessions] at found
    by_cases served : there = here
    · subst served
      rw [AList.lookup_insert, Option.some.injEq] at found
      subst found
      exact owned there before (within there before looked) same
    · rw [AList.lookup_insert_ne served] at found
      exact owned there after (within there after found) same
  | kept carries =>
    obtain ⟨before, looked, unchanged⟩ := carries there after found
    obtain ⟨rfl, owner, had, notDevice⟩ := owned there before looked (unchanged.handle.symm.trans same)
    exact ⟨rfl, owner, unchanged.owner owner had, notDevice⟩

end Daemon

/-- A step gives the session to the device only if a client attaches explicitly from there. -/
theorem step_ownedByOther {device : UInt64} {id : UInt32} {handle : Nat} {daemon next : Daemon}
    {action : DaemonAction} (other : OwnedByOther device id handle daemon)
    (elsewhere : ¬ AttachesExplicitly device id daemon action)
    (stepped : daemon.step action = some next) : OwnedByOther device id handle next := by
  rcases Daemon.step_cases stepped with ⟨conn, frame, rfl, rfl⟩ | ⟨_, carries, _, spawned, _⟩
  · refine Daemon.control_ownedByOther other (Daemon.control_cases daemon conn frame) ?_
    rintro session clientName force cols rows renderedOffset lineDirty rfl here acks
    exact elsewhere ⟨conn, session, clientName, force, cols, rows, renderedOffset, lineDirty, rfl,
      here, acks⟩
  · refine ⟨spawned ▸ other.spawned, ?_⟩
    intro there after found same
    obtain ⟨before, looked, kept⟩ := carries there after found
    obtain ⟨rfl, owner, had, notDevice⟩ := other.owned there before looked (kept.handle.symm.trans same)
    exact ⟨rfl, owner, kept.owner owner had, notDevice⟩

/--
An automatic reconnect of a device to a session is turned away.

The session stays as it is, its owner and the clients handed to it included.
-/
def StaysOut (device : UInt64) (handle : Nat) (daemon : Daemon) : Prop :=
  ∀ (conn : ControlConn) (session clientName : String) (force : Bool) (cols rows : UInt16)
    (attachToken renderedOffset : UInt64) (lineDirty : Bool) (left : Sessions) (id : UInt32)
    (state : SessionState),
    conn.deviceId = device → attachToken ≠ 0 →
    daemon.sessions.resolveLiveSession session daemon.lastAttached = (left, .ok (id, state)) →
    state.handle = handle →
      daemon.dispatchControl conn
          (.attach session clientName force false cols rows attachToken renderedOffset lineDirty) =
        { daemon with sessions := left }.reply (Daemon.ownerChanged session) ∧
      left.Within daemon.sessions ∧ left.lookup id = some state

/-- A device that does not own a session stays out of it. -/
theorem OwnedByOther.staysOut {device : UInt64} {id : UInt32} {handle : Nat} {daemon : Daemon}
    (other : OwnedByOther device id handle daemon) : StaysOut device handle daemon := by
  intro conn session clientName force cols rows attachToken renderedOffset lineDirty left there
    state here claims resolved same
  obtain ⟨swept, found, _⟩ := Sessions.resolveLiveSession_ok resolved
  have within : left.Within daemon.sessions := by
    rw [swept]
    exact Sessions.reapSessions_within _
  obtain ⟨_, owner, owned, notDevice⟩ := other.owned there state (within there state found) same
  exact ⟨Daemon.attach_displaced resolved claims owned (here ▸ notDevice) clientName force cols rows
    renderedOffset lineDirty, within, found⟩

/-- After an explicit attach from another device, a device does not own the session. -/
theorem attachesExplicitly_ownedByOther {device taker : UInt64} (different : device ≠ taker)
    {daemon taken : Daemon} {action : DaemonAction} {id : UInt32} {session : SessionState}
    (tasks : Daemon.TasksApart taken) (attaches : AttachesExplicitly taker id daemon action)
    (stepped : daemon.step action = some taken)
    (found : taken.sessions.lookup id = some session) :
    OwnedByOther device id session.handle taken := by
  refine ⟨tasks.spawned id session found, ?_⟩
  intro other state looked same
  obtain rfl : other = id := tasks.apart other id state session looked found same
  obtain rfl : state = session := Option.some.inj (looked.symm.trans found)
  refine ⟨rfl, taker, ?_, different.symm⟩
  obtain ⟨conn, target, clientName, force, cols, rows, renderedOffset, lineDirty, rfl, rfl, acks⟩ :=
    attaches
  rcases Daemon.step_cases stepped with ⟨asked, frame, same, rfl⟩ | ⟨noControl, _⟩
  · cases same
    -- Only an attach acknowledges one, and it makes the connection's device the owner.
    cases Daemon.control_cases daemon conn
        (.attach target clientName force false cols rows 0 renderedOffset lineDirty) with
    | created reaped created name command cwd client width height lingerSecs asked =>
      cases asked
    | attached reaped here before after session clientName force cols rows attachToken
        renderedOffset lineDirty asked claim within looked' handle name owner sessions nextId
        spawned lastAttached sent =>
      obtain ⟨device, member⟩ := acks
      have delivered := List.mem_of_mem_take member
      rw [sent, List.mem_singleton] at delivered
      cases delivered
      rw [sessions, AList.lookup_insert, Option.some.injEq] at looked
      exact looked ▸ owner
    | renamed reaped here before name within looked' valid sessions nextId spawned lastAttached
        quiet => exact absurd acks (quiet other)
    | kept carries nextId spawned lastAttached quiet => exact absurd acks (quiet other)
  · exact absurd rfl (noControl conn _)

/-- An attach without a delivered acknowledgement leaves every owner as it was. -/
def UnacknowledgedKeepsOwners (daemon : Daemon) : Prop :=
  ∀ (conn : ControlConn) (session clientName : String) (force noReplay : Bool)
    (cols rows : UInt16) (attachToken renderedOffset : UInt64) (lineDirty : Bool)
    (out : Dispatched),
    daemon.dispatchControl conn
      (.attach session clientName force noReplay cols rows attachToken renderedOffset lineDirty) =
        out →
    (∀ id, ¬ Daemon.Acks conn out id) →
      ∀ id before after owner, daemon.sessions.lookup id = some before →
        before.owner = some owner → out.daemon.sessions.lookup id = some after →
          after.owner = some owner

/-- No unacknowledged attach changes an owner. -/
theorem unacknowledged_keeps_owners (daemon : Daemon) : UnacknowledgedKeepsOwners daemon := by
  rintro conn session clientName force noReplay cols rows attachToken renderedOffset lineDirty out
    rfl quiet id before after owner looked owned found
  exact Daemon.owner_kept (Daemon.dispatchControl_cases daemon conn _) quiet looked owned found

/--
A device that lost a session to an explicit attach from another device cannot reconnect to it on its own.

That lasts until a client on the device attaches explicitly again.
-/
theorem displaced_stays_out {device taker : UInt64} (different : device ≠ taker)
    {before later : List DaemonAction} {daemon taken last : Daemon} {action : DaemonAction}
    {id : UInt32} {session : SessionState}
    (reached : daemonMachine.run .new before = some daemon)
    (attaches : AttachesExplicitly taker id daemon action)
    (stepped : daemonMachine.step daemon action = some taken)
    (found : taken.sessions.lookup id = some session)
    (elsewhere : daemonMachine.Meets (fun state action => ¬ AttachesExplicitly device id state action)
      taken later)
    (ran : daemonMachine.run taken later = some last) :
    StaysOut device session.handle last ∧ UnacknowledgedKeepsOwners last := by
  -- The tasks are told apart in every state that is reached.
  have tasks := Daemon.run_tasksApart reached
  have taken' := attachesExplicitly_ownedByOther different (Daemon.step_tasksApart tasks stepped)
    attaches stepped found
  -- From the takeover on, the device does not own the session.
  have other : OwnedByOther device id session.handle last := by
    refine Machine.run_induction ?_ taken' elsewhere ran
    intro state action next other elsewhere stepped
    exact step_ownedByOther other elsewhere stepped
  exact ⟨other.staysOut, unacknowledged_keeps_owners last⟩

/-- A client on a device attaches explicitly, by force. -/
def takeOver (connection : Nat) (deviceId : UInt64) : DaemonAction :=
  .control (steadyConn connection deviceId) (.attach "work" "desk" true false 80 24 0 0 false)

/-- A client creates a session. -/
def createWork (connection : Nat) (deviceId : UInt64) : DaemonAction :=
  .control (steadyConn connection deviceId) (.newSession "work" "" "" 80 24 "laptop" 0)

/-- A daemon with one session, created by device 7. -/
def working : Daemon := (Daemon.step .new (createWork 0 7)).getD .new

/-- Device 9 takes the session of device 7 over, and device 7 stays out. -/
theorem displaced_stays_out_laptop :
    ∃ last, daemonMachine.run .new [createWork 0 7, takeOver 1 9, .round 1100] = some last ∧
      StaysOut 7 0 last := by
  have attaches : AttachesExplicitly 9 0 working (takeOver 1 9) :=
    ⟨steadyConn 1 9, "work", "desk", true, 80, 24, 0, false, rfl, rfl, 9, by decide⟩
  have reached : daemonMachine.run .new [createWork 0 7] = some working := rfl
  have elsewhere : daemonMachine.Meets
      (fun state action => ¬ AttachesExplicitly 7 0 state action)
      (working.control (steadyConn 1 9)
        (.attach "work" "desk" true false 80 24 0 0 false)).daemon [.round 1100] := by
    refine Machine.meets_cons ?_ rfl trivial
    rintro ⟨_, _, _, _, _, _, _, _, isControl, _⟩
    cases isControl
  exact ⟨_, rfl, (displaced_stays_out (by decide) reached attaches rfl rfl elsewhere rfl).1⟩

/-- The automatic reconnect of a client. -/
def autoReconnect (deviceId : UInt64) : Frame :=
  .attach "0" "laptop" true false 80 24 deviceId 0 false

/-- A client that lost its session to another one on the same device takes it back by its automatic reconnect. -/
theorem same_device_steals_back :
    ∃ taken, daemonMachine.run .new [createWork 0 7, takeOver 1 7] = some taken ∧
      Daemon.Acks (steadyConn 1 7)
        (working.control (steadyConn 1 7) (.attach "work" "desk" true false 80 24 0 0 false)) 0 ∧
      (taken.dispatchControl (steadyConn 2 7) (autoReconnect 7)).sent = [.attachAck 7 0] ∧
      ((taken.dispatchControl (steadyConn 2 7) (autoReconnect 7)).daemon.sessions.lookup 0).map
          (·.inbox) =
        some [.active 0 "laptop" 0 0 0 0 false true, .active 1 "desk" 0 80 24 0 false true,
          .active 2 "laptop" 0 80 24 0 false false] := by
  exact ⟨_, rfl, ⟨7, by decide⟩, by decide, by decide⟩

end Gritty
