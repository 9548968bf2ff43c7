import Gritty.Daemon.Return

/-! What the daemon does to a session that no request is about. -/

namespace Gritty

/-- The target of a frame that is about one session. -/
def Frame.target? : Frame → Option String
  | .attach session .. => some session
  | .tail session => some session
  | .killSession session => some session
  | .sendFile session => some session
  | .renameSession session _ => some session
  | .setLinger session _ => some session
  | _ => none

namespace Sessions

variable {sessions : Sessions} {id other : UInt32} {session : SessionState} {target : String}
  {lastAttached : Option UInt32}

/-- A session whose task has not ended is not reaped. -/
theorem lookup_reapSessions (found : sessions.lookup id = some session)
    (goesOn : session.finished = false) : sessions.reapSessions.lookup id = some session := by
  rw [reapSessions, lookup_removeWhere, found, Option.filter_some, goesOn]
  rfl

/-- A session is reaped for its linger exactly when that has expired. -/
theorem lookup_reapLingering (found : sessions.lookup id = some session) (now : UInt64) :
    (sessions.reapLingering now).lookup id =
      if session.metadata.any (·.lingerExpired now) then none else some session := by
  rw [reapLingering, lookup_removeWhere, found, Option.filter_some]
  cases session.metadata.any (·.lingerExpired now) <;> rfl

theorem lookup_modify_ne (apart : id ≠ other) (change : SessionState → SessionState) :
    (sessions.modify other change).lookup id = sessions.lookup id := by
  unfold modify
  split
  · rw [AList.lookup_insert_ne apart]
  · rfl

/-- Looking for another session leaves this one where it is. -/
theorem resolveLiveSession_spares (found : sessions.lookup id = some session)
    (goesOn : session.finished = false)
    (apart : sessions.reapSessions.resolveSession target lastAttached ≠ some id) :
    (sessions.resolveLiveSession target lastAttached).1.lookup id = some session ∧
      ∀ here state, (sessions.resolveLiveSession target lastAttached).2 = .ok (here, state) →
        id ≠ here := by
  have reaped := lookup_reapSessions found goesOn
  unfold resolveLiveSession
  cases resolved : sessions.reapSessions.resolveSession target lastAttached with
  | none =>
    simp only [resolved]
    exact ⟨reaped, by simp⟩
  | some here =>
    have distinct : id ≠ here := fun same => apart (same ▸ resolved)
    simp only [resolved]
    cases sessions.reapSessions.lookup here with
    | none => exact ⟨reaped, by simp⟩
    | some state =>
      dsimp only
      split
      · -- The other session has ended, and is swept away.
        refine ⟨?_, by simp⟩
        exact (AList.lookup_erase_ne distinct).trans reaped
      · refine ⟨reaped, fun there _ same => ?_⟩
        rw [Except.ok.injEq, Prod.mk.injEq] at same
        exact same.1 ▸ distinct

end Sessions

namespace Daemon

variable {daemon next : Daemon} {conn : ControlConn} {id : UInt32} {session : SessionState}

/-- An action is about a session: its task does something, a request's target stands for it, or the daemon ends. -/
def Concerns (daemon : Daemon) (id : UInt32) : DaemonAction → Prop
  | .round _ => False
  | .control _ frame => frame = .killServer ∨ ∃ target, frame.target? = some target ∧
      daemon.sessions.reapSessions.resolveSession target daemon.lastAttached = some id
  | .task other _ => other = id
  | .terminate => True

/-- A request about another session leaves this one as it is, if serving it does. -/
theorem withSession_spares {target : String} {serve : Daemon → UInt32 → SessionState → Dispatched}
    (found : daemon.sessions.lookup id = some session) (goesOn : session.finished = false)
    (apart : daemon.sessions.reapSessions.resolveSession target daemon.lastAttached ≠ some id)
    (spares : ∀ (left : Daemon) (here : UInt32) (state : SessionState), id ≠ here →
      left.sessions.lookup id = some session →
        (serve left here state).daemon.sessions.lookup id = some session) :
    (daemon.withSession target serve).daemon.sessions.lookup id = some session := by
  obtain ⟨kept, others⟩ := Sessions.resolveLiveSession_spares found goesOn apart
  unfold withSession
  cases resolved : daemon.sessions.resolveLiveSession target daemon.lastAttached with
  | mk left result =>
    rw [resolved] at kept others
    cases result with
    | error frame => exact kept
    | ok live => exact spares _ live.1 live.2 (others live.1 live.2 rfl) kept

theorem handOver_spares {here : UInt32} {client : ClientConn} (apart : id ≠ here)
    (found : daemon.sessions.lookup id = some session) :
    (daemon.handOver conn here client).daemon.sessions.lookup id = some session := by
  unfold handOver
  split
  · exact found
  · exact (Sessions.lookup_modify_ne apart _).trans found

/-- An attach leaves every session that it does not resolve to. -/
theorem attach_spares {target clientName : String} {force noReplay : Bool} {cols rows : UInt16}
    {attachToken renderedOffset : UInt64} {lineDirty : Bool}
    (found : daemon.sessions.lookup id = some session) (goesOn : session.finished = false)
    (apart : daemon.sessions.reapSessions.resolveSession target daemon.lastAttached ≠ some id) :
    (daemon.attach conn target clientName force noReplay cols rows attachToken renderedOffset
      lineDirty).daemon.sessions.lookup id = some session := by
  obtain ⟨kept, others⟩ := Sessions.resolveLiveSession_spares found goesOn apart
  unfold attach
  cases resolved : daemon.sessions.resolveLiveSession target daemon.lastAttached with
  | mk left result =>
    rw [resolved] at kept others
    cases result with
    | error frame => exact kept
    | ok live =>
      obtain ⟨here, state⟩ := live
      have distinct := others here state rfl
      simp only
      -- The guards leave the sessions alone; behind them only the target is written.
      split
      · exact kept
      · split
        · exact kept
        · split
          · exact kept
          · split
            · exact kept
            · split
              · simpa only [reply, AList.lookup_insert_ne distinct] using kept
              · simpa only [reply, AList.lookup_insert_ne distinct] using kept

/-- A new session leaves the ones that are there. -/
theorem newSession_spares {name clientName : String} {lingerSecs : UInt64}
    (found : daemon.sessions.lookup id = some session) (goesOn : session.finished = false)
    (apart : id ≠ daemon.nextId) :
    (daemon.newSession conn name clientName lingerSecs).daemon.sessions.lookup id =
      some session := by
  have reaped := Sessions.lookup_reapSessions found goesOn
  unfold newSession
  simp only
  split
  · exact reaped
  · split
    · simpa only [AList.lookup_erase_ne apart, AList.lookup_insert_ne apart] using reaped
    · simpa only [AList.lookup_insert_ne apart] using reaped

/-- A frame that is not about a session leaves it as it is. -/
theorem control_spares {frame : Frame} (found : daemon.sessions.lookup id = some session)
    (goesOn : session.finished = false) (given : id < daemon.nextId)
    (apart : ¬ daemon.Concerns id (.control conn frame)) :
    (daemon.control conn frame).daemon.sessions.lookup id = some session := by
  -- A request that is not about the session does not stand for it.
  have elsewhere : ∀ target, frame.target? = some target →
      daemon.sessions.reapSessions.resolveSession target daemon.lastAttached ≠ some id :=
    fun target about stands => apart (Or.inr ⟨target, about, stands⟩)
  unfold control
  split
  · exact found
  · cases frame with
    | newSession name command cwd cols rows clientName lingerSecs =>
      exact newSession_spares found goesOn (UInt32.ne_of_lt given)
    | attach target clientName force noReplay cols rows attachToken renderedOffset lineDirty =>
      exact attach_spares found goesOn (elsewhere target rfl)
    | tail target =>
      exact withSession_spares found goesOn (elsewhere target rfl)
        fun left here state distinct kept => handOver_spares distinct kept
    | sendFile target =>
      exact withSession_spares found goesOn (elsewhere target rfl)
        fun left here state distinct kept => handOver_spares distinct kept
    | killSession target =>
      exact withSession_spares found goesOn (elsewhere target rfl)
        fun left here state distinct kept => (AList.lookup_erase_ne distinct).trans kept
    | renameSession target newName =>
      refine withSession_spares found goesOn (elsewhere target rfl) ?_
      intro left here state distinct kept
      split
      · exact kept
      · split
        · exact kept
        · exact (Sessions.lookup_modify_ne distinct _).trans kept
    | setLinger target lingerSecs =>
      refine withSession_spares found goesOn (elsewhere target rfl) ?_
      intro left here state distinct kept
      split
      · exact (AList.lookup_insert_ne distinct).trans kept
      · exact kept
    | listSessions => exact Sessions.lookup_reapSessions found goesOn
    | killServer => exact absurd (Or.inl rfl) apart
    | _ => exact found

end Daemon

/-- An action is a round of the reaper at a time when the session's linger has expired. -/
def SessionState.expires (session : SessionState) : DaemonAction → Bool
  | .round now => session.metadata.any (·.lingerExpired now)
  | _ => false

namespace Daemon

variable {daemon next : Daemon} {id : UInt32} {session : SessionState}

/-- A session that no action is about is taken away by the reaper, when its linger has expired, and otherwise stays as it is. -/
theorem step_spares {action : DaemonAction} (found : daemon.sessions.lookup id = some session)
    (goesOn : session.finished = false) (given : id < daemon.nextId)
    (apart : ¬ daemon.Concerns id action) (stepped : daemon.step action = some next) :
    next.sessions.lookup id = if session.expires action then none else some session := by
  simp only [step] at stepped
  split at stepped
  · simp at stepped
  · cases action with
    | round now =>
      cases stepped
      have reaped := Sessions.lookup_reapLingering found now
      -- The reaper takes a session exactly when its linger has expired.
      by_cases expired : session.metadata.any (·.lingerExpired now) = true
      · rw [if_pos expired] at reaped
        rw [SessionState.expires, if_pos expired, Sessions.reapSessions, lookup_removeWhere, reaped,
          Option.filter_none]
      · rw [if_neg expired] at reaped
        rw [SessionState.expires, if_neg expired]
        exact Sessions.lookup_reapSessions reaped goesOn
    | control conn frame =>
      cases stepped
      exact control_spares found goesOn given apart
    | task other event =>
      cases stepped
      -- An event is of a session's own task.
      have distinct : id ≠ other := fun same => apart same.symm
      exact (Sessions.lookup_modify_ne distinct _).trans found
    | terminate => exact absurd trivial apart

/-- Ids are only given out, and never to a session that was there before. -/
theorem step_given {action : DaemonAction} (given : id < daemon.nextId)
    (below : daemon.nextId.toNat < 2 ^ 32 - 1) (stepped : daemon.step action = some next) :
    id < next.nextId ∧
      (daemon.sessions.lookup id = none → next.sessions.lookup id = none) := by
  rcases step_cases stepped with ⟨conn, frame, rfl, rfl⟩ | ⟨-, carries, nextId, -⟩
  · have controlled := control_cases daemon conn frame
    refine ⟨lt_grown below given controlled.nextId, fun gone => ?_⟩
    rw [Option.eq_none_iff_forall_ne_some]
    intro after looked
    rcases controlled.origin.2 id after looked with ⟨rfl, -⟩ | ⟨before, was, -⟩
    · exact absurd given (UInt32.lt_irrefl _)
    · exact absurd (gone.symm.trans was) (by simp)
  · refine ⟨nextId ▸ given, fun gone => ?_⟩
    rw [Option.eq_none_iff_forall_ne_some]
    intro after looked
    obtain ⟨before, was, -⟩ := carries id after looked
    exact absurd (gone.symm.trans was) (by simp)

/-- Along a run the session is left alone, and the daemon does not run out of ids. -/
def LeavesAlone (id : UInt32) (daemon : Daemon) (action : DaemonAction) : Prop :=
  ¬ daemon.Concerns id action ∧ daemon.nextId.toNat < 2 ^ 32 - 1

/-- A session that a whole run leaves alone is there after it unless some round found its linger expired. -/
theorem run_spares {actions : List DaemonAction} {last : Daemon}
    (found : daemon.sessions.lookup id = some session) (goesOn : session.finished = false)
    (given : id < daemon.nextId) (alone : daemonMachine.Meets (LeavesAlone id) daemon actions)
    (ran : daemonMachine.run daemon actions = some last) :
    last.sessions.lookup id = if actions.any session.expires then none else some session := by
  -- Once it is gone, no step brings it back.
  have stays {actions : List DaemonAction} {daemon : Daemon} (gone : daemon.sessions.lookup id = none)
      (given : id < daemon.nextId) (alone : daemonMachine.Meets (LeavesAlone id) daemon actions)
      (ran : daemonMachine.run daemon actions = some last) : last.sessions.lookup id = none := by
    have preserved : ∀ (state : Daemon) action next,
        state.sessions.lookup id = none ∧ id < state.nextId → LeavesAlone id state action →
        daemonMachine.step state action = some next →
        next.sessions.lookup id = none ∧ id < next.nextId := by
      intro state action next holds met stepped
      obtain ⟨later, keeps⟩ := step_given holds.2 met.2 stepped
      exact ⟨keeps holds.1, later⟩
    exact (Machine.run_induction preserved ⟨gone, given⟩ alone ran).1
  induction actions generalizing daemon with
  | nil =>
    obtain rfl : daemon = last := Option.some.inj ran
    exact found
  | cons action later ih =>
    cases stepped : daemonMachine.step daemon action with
    | none => simp [Machine.run, stepped] at ran
    | some next =>
      rw [Machine.run_cons stepped] at ran
      obtain ⟨⟨apart, below⟩, rest⟩ := alone
      have after := step_spares found goesOn given apart stepped
      have known := (step_given given below stepped).1
      rw [List.any_cons]
      by_cases expired : session.expires action = true
      · rw [if_pos expired] at after
        rw [expired, Bool.true_or, if_pos rfl]
        exact stays after known (rest next stepped) ran
      · rw [if_neg expired] at after
        rw [Bool.eq_false_iff.mpr expired, Bool.false_or]
        exact ih after known (rest next stepped) ran

end Daemon

end Gritty
