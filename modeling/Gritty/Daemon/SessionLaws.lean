import Gritty.Daemon.Sessions

/-! What the operations on the daemon's sessions leave of each of them. -/

namespace Gritty

/-- One table of sessions holds nothing but sessions of another, unchanged. -/
def Sessions.Within (left sessions : Sessions) : Prop :=
  ∀ id session, left.lookup id = some session → sessions.lookup id = some session

namespace Sessions

variable {sessions left : Sessions}

/-- Removing nothing leaves the sessions as they are. -/
theorem Within.refl (sessions : Sessions) : sessions.Within sessions := fun _ _ found => found

/-- Removing some of what is left removes it from all. -/
theorem Within.trans {fewer : Sessions} (first : fewer.Within left) (second : left.Within sessions) :
    fewer.Within sessions := fun id session found => second id session (first id session found)

/-- Erasing a session leaves the others as they are. -/
theorem erase_within (sessions : Sessions) (id : UInt32) :
    Within (sessions.erase id) sessions := by
  intro other session found
  by_cases same : other = id
  · rw [same, AList.lookup_erase] at found
    cases found
  · rwa [AList.lookup_erase_ne same] at found

/-- Removing the selected sessions leaves the others as they are. -/
theorem removeWhere_within (sessions : Sessions) (selected : SessionState → Bool) :
    Within (removeWhere sessions selected) sessions := by
  intro id session found
  rw [lookup_removeWhere, Option.filter_eq_some_iff] at found
  exact found.1

/-- Reaping leaves the sessions that go on as they are. -/
theorem reapSessions_within (sessions : Sessions) : sessions.reapSessions.Within sessions :=
  removeWhere_within sessions _

/-- A target stands for a session that is there, by the dash, its name or its id. -/
theorem resolveSession_eq_some {target : String} {lastAttached : Option UInt32} {id : UInt32}
    (resolved : sessions.resolveSession target lastAttached = some id) :
    ∃ session, sessions.lookup id = some session ∧
      ((target = "-" ∧ lastAttached = some id) ∨
        (target ≠ "-" ∧ (session.name = some target ∨ parseU32 target = some id))) := by
  unfold resolveSession at resolved
  by_cases dash : target = "-"
  · rw [if_pos dash, Option.filter_eq_some_iff, Option.isSome_iff_exists] at resolved
    obtain ⟨last, session, found⟩ := resolved
    exact ⟨session, found, Or.inl ⟨dash, last⟩⟩
  · rw [if_neg dash] at resolved
    cases named : sessions.entries.find? fun entry => entry.2.name = some target with
    | some entry =>
      obtain ⟨named', session⟩ := entry
      rw [named, Option.some.injEq] at resolved
      subst resolved
      have member := mem_entries_iff.mp (List.mem_of_find?_eq_some named)
      have matched := List.find?_some named
      exact ⟨session, member, Or.inr ⟨dash, Or.inl (by simpa using matched)⟩⟩
    | none =>
      rw [named, Option.filter_eq_some_iff, Option.isSome_iff_exists] at resolved
      obtain ⟨numeric, session, found⟩ := resolved
      exact ⟨session, found, Or.inr ⟨dash, Or.inr numeric⟩⟩

/-- A target without a live session is answered with an error, and at most sweeps ended sessions away. -/
theorem resolveLiveSession_error {session : String} {lastAttached : Option UInt32} {frame : Frame}
    (resolved : sessions.resolveLiveSession session lastAttached = (left, .error frame)) :
    left.Within sessions ∧ frame = noSuchSession session := by
  unfold resolveLiveSession at resolved
  cases target : sessions.reapSessions.resolveSession session lastAttached with
  | none =>
    simp only [target, Prod.mk.injEq, Except.error.injEq] at resolved
    obtain ⟨rfl, rfl⟩ := resolved
    exact ⟨reapSessions_within sessions, rfl⟩
  | some id =>
    cases found : sessions.reapSessions.lookup id with
    | none =>
      simp only [target, found, Prod.mk.injEq, Except.error.injEq] at resolved
      obtain ⟨rfl, rfl⟩ := resolved
      exact ⟨reapSessions_within sessions, rfl⟩
    | some state =>
      simp only [target, found] at resolved
      by_cases closed : state.closed = true
      · simp only [closed, if_true, Prod.mk.injEq, Except.error.injEq] at resolved
        obtain ⟨rfl, rfl⟩ := resolved
        exact ⟨(erase_within _ id).trans (reapSessions_within sessions), rfl⟩
      · simp [closed] at resolved

/-- A target with a live session is resolved among the sessions that go on. -/
theorem resolveLiveSession_ok {session : String} {lastAttached : Option UInt32} {id : UInt32}
    {state : SessionState}
    (resolved : sessions.resolveLiveSession session lastAttached = (left, .ok (id, state))) :
    left = sessions.reapSessions ∧ left.lookup id = some state ∧
      left.resolveSession session lastAttached = some id ∧ state.closed = false := by
  unfold resolveLiveSession at resolved
  cases target : sessions.reapSessions.resolveSession session lastAttached with
  | none => simp [target] at resolved
  | some other =>
    cases found : sessions.reapSessions.lookup other with
    | none => simp [target, found] at resolved
    | some live =>
      simp only [target, found] at resolved
      by_cases closed : live.closed = true
      · simp [closed] at resolved
      · simp only [closed, Bool.false_eq_true, if_false, Prod.mk.injEq, Except.ok.injEq] at resolved
        obtain ⟨rfl, rfl, rfl⟩ := resolved
        exact ⟨rfl, found, target, by simpa using closed⟩

end Sessions

end Gritty
