import Gritty.Security.BindLock

/-! Calls that lock the lock file at its path never remove a socket that is in use. -/

namespace Gritty

/-- The lock file that stands for what a process is doing at the path. -/
def BindCall.owns : BindCall → Option Nat
  | .binding lock | .probing lock | .unlinking lock | .rebinding lock => some lock
  | .bound lock _ | .granting lock _ | .releasing lock _ => some lock
  | .cleanUnlinking lock => some lock
  | .opening | .locking _ | .serving _ | .cleaning | .cleanLocking _ => none
  | .cleanReleasing _ | .done => none

/-- A lock that is owned is held. -/
theorem BindCall.holds_of_owns (call : BindCall) (lock : Nat) (owns : call.owns = some lock) :
    call.holds = some lock := by
  cases call <;> first | exact owns | exact absurd owns (by simp [BindCall.owns])

namespace BindPath

/-- No socket in use was removed, and the one listener there may be is where the path leads. -/
structure NothingStolen (path : BindPath) : Prop where
  kept : path.stolen = false
  reached : ∀ (process socket : Nat), path.calls[process]? = some (.serving socket) →
    path.file = some socket
  single : ∀ (first second one other : Nat), path.calls[first]? = some (.serving one) →
    path.calls[second]? = some (.serving other) → first = second

/-- A process that gets the lock has the file open that is still at the lock's path. -/
def locksInPlace (path : BindPath) : BindAction → Bool
  | .advance process =>
    match path.calls[process]? with
    | some (.locking lock) | some (.cleanLocking lock) => path.locked lock || path.lock = some lock
    | _ => true
  | _ => true

/-- The calls are serialized, and the socket file is that of the one process that has a socket. -/
structure Serialized (path : BindPath) : Prop where
  kept : path.stolen = false
  locked : PathLocked BindCall.holds BindCall.owns path.lock path.calls
  file : ∀ (process socket : Nat) (call : BindCall), path.calls[process]? = some call →
    call.socket = some socket → path.file = some socket
  single : ∀ (first second socket other : Nat) (one two : BindCall),
    path.calls[first]? = some one → path.calls[second]? = some two →
      one.socket = some socket → two.socket = some other → first = second
  /-- A call that is about to remove a socket has found that nobody uses it. -/
  dead : ∀ (process lock : Nat), path.calls[process]? = some (.unlinking lock) →
    ∀ call ∈ path.calls, call.socket = none

section Serialized

variable {path next : BindPath} {process : Nat} {before after : BindCall}

/-- Where the calls are serialized, nothing is stolen. -/
theorem Serialized.nothingStolen (serialized : path.Serialized) : path.NothingStolen where
  kept := serialized.kept
  reached process socket there := serialized.file process socket _ there rfl
  single first second one other there also :=
    serialized.single first second one other _ _ there also rfl rfl

/-- Only one process owns the path. -/
theorem Serialized.alone (serialized : path.Serialized) {other lock second : Nat}
    {call : BindCall} (found : path.calls[process]? = some before)
    (here : before.owns = some lock) (there : path.calls[other]? = some call)
    (also : call.owns = some second) : process = other :=
  serialized.locked.alone BindCall.holds_of_owns found here there also

/-- A process goes on with no socket that it did not have, and the socket file is left alone. -/
theorem Serialized.go (serialized : path.Serialized)
    (found : path.calls[process]? = some before)
    (calls : next.calls = path.calls.set process after) (file : next.file = path.file)
    (kept : next.stolen = path.stolen)
    (locked : PathLocked BindCall.holds BindCall.owns next.lock next.calls)
    (socket : ∀ socket, after.socket = some socket → before.socket = some socket)
    (dead : ∀ lock, after = .unlinking lock → ∀ call ∈ path.calls, call.socket = none) :
    next.Serialized where
  kept := kept.trans serialized.kept
  locked := locked
  file other number call there has := by
    rw [file]
    rw [calls] at there
    rcases getElem?_set_cases there with ⟨-, rfl⟩ | ⟨-, there⟩
    · exact serialized.file process number before found (socket number has)
    · exact serialized.file other number call there has
  single first second one other call two there also hasOne hasOther := by
    rw [calls] at there also
    -- Whoever has a socket now had it before.
    have was {place number : Nat} {stage : BindCall}
        (now : (path.calls.set process after)[place]? = some stage)
        (has : stage.socket = some number) :
        ∃ older, path.calls[place]? = some older ∧ older.socket = some number := by
      rcases getElem?_set_cases now with ⟨rfl, rfl⟩ | ⟨-, before⟩
      · exact ⟨before, found, socket number has⟩
      · exact ⟨stage, before, has⟩
    obtain ⟨_, thereBefore, hadOne⟩ := was there hasOne
    obtain ⟨_, alsoBefore, hadOther⟩ := was also hasOther
    exact serialized.single first second one other _ _ thereBefore alsoBefore hadOne hadOther
  dead other lock there call among := by
    rw [calls] at there among
    have none_ : ∀ call ∈ path.calls, call.socket = none := by
      rcases getElem?_set_cases there with ⟨-, unlinking⟩ | ⟨-, there⟩
      · exact dead lock unlinking.symm
      · exact serialized.dead other lock there
    rcases List.mem_or_eq_of_mem_set among with older | rfl
    · exact none_ call older
    · -- It would have had its socket before.
      cases has : call.socket with
      | none => rfl
      | some number =>
        have had := socket number has
        rw [none_ before (List.mem_of_getElem? found)] at had
        cases had

/-- A process goes on with nothing that it did not have, and leaves the path alone. -/
theorem Serialized.keep (serialized : path.Serialized)
    (found : path.calls[process]? = some before)
    (holds : ∀ lock, after.holds = some lock → before.holds = some lock)
    (owns : ∀ lock, after.owns = some lock → before.owns = some lock)
    (socket : ∀ socket, after.socket = some socket → before.socket = some socket)
    (dead : ∀ lock, after = .unlinking lock → ∀ call ∈ path.calls, call.socket = none) :
    (path.move process after).Serialized :=
  serialized.go found rfl rfl rfl (serialized.locked.keep found holds owns) socket dead

/-- A process that lets go of everything. -/
theorem Serialized.drop (serialized : path.Serialized)
    (found : path.calls[process]? = some before) (holds : after.holds = none)
    (socket : after.socket = none) : (path.move process after).Serialized := by
  refine serialized.keep found ?_ ?_ ?_ ?_
  · exact fun lock now => absurd (holds.symm.trans now) (by simp)
  · exact fun lock now =>
      absurd (holds.symm.trans (BindCall.holds_of_owns after lock now)) (by simp)
  · exact fun number now => absurd (socket.symm.trans now) (by simp)
  · rintro lock rfl
    exact absurd holds (by simp [BindCall.holds])

/-- With no socket file nobody has a socket. -/
theorem Serialized.nobody (serialized : path.Serialized) (missing : path.file = none) :
    ∀ call ∈ path.calls, call.socket = none := by
  intro call among
  obtain ⟨place, there⟩ := List.getElem?_of_mem among
  cases has : call.socket with
  | none => rfl
  | some socket =>
    have present := serialized.file place socket call there has
    exact absurd (missing.symm.trans present) (by simp)

/-- An owner binds a socket where there is none. -/
theorem Serialized.bind {lock : Nat} (serialized : path.Serialized)
    (found : path.calls[process]? = some before) (owns : before.owns = some lock)
    (missing : path.file = none) :
    (path.bind process lock).Serialized := by
  have nobody := serialized.nobody missing
  have mine {place number : Nat} {call : BindCall}
      (there : (path.calls.set process (.bound lock path.socketFiles))[place]? = some call)
      (has : call.socket = some number) : place = process ∧ number = path.socketFiles := by
    rcases getElem?_set_cases there with ⟨rfl, rfl⟩ | ⟨-, older⟩
    · exact ⟨rfl, (Option.some.inj has).symm⟩
    · rw [nobody call (List.mem_of_getElem? older)] at has
      cases has
  refine ⟨serialized.kept, ?_, ?_, ?_, ?_⟩
  · refine serialized.locked.keep found ?_ fun _ now => owns.trans now
    exact fun _ now => (BindCall.holds_of_owns before lock owns).trans now
  · intro place number call there has
    exact congrArg some (mine there has).2.symm
  · intro first second one other call two there also hasOne hasOther
    exact (mine there hasOne).1.trans (mine also hasOther).1.symm
  · -- Whoever were about to remove a socket would own the path as well.
    intro place other there
    rcases getElem?_set_cases there with ⟨-, same⟩ | ⟨different, older⟩
    · cases same
    · exact absurd (serialized.alone found owns older rfl).symm different

/-- A probe that nobody answers finds a socket that nobody uses. -/
theorem Serialized.dead_of_probe {lock : Nat} (serialized : path.Serialized)
    (found : path.calls[process]? = some (.probing lock)) (silent : path.answers = false) :
    ∀ call ∈ path.calls, call.socket = none := by
  intro call among
  obtain ⟨place, there⟩ := List.getElem?_of_mem among
  cases has : call.socket with
  | none => rfl
  | some socket =>
    exfalso
    have present := serialized.file place socket call there has
    have deaf : call.listens ≠ some socket := by
      rw [answers, present, Option.any_some, List.any_eq_false] at silent
      simpa using silent call among
    -- Only a socket that is just being bound does not listen, and its maker owns the path.
    cases call with
    | bound other number =>
      obtain rfl := serialized.alone found rfl there rfl
      cases found.symm.trans there
    | granting other number => exact deaf has
    | releasing other number => exact deaf has
    | serving number => exact deaf has
    | _ => cases has

end Serialized

section Steps

variable {path next : BindPath} {process : Nat} {before after : BindCall}

/-- An owner goes on with what it has. -/
theorem Serialized.work {lock : Nat} (serialized : path.Serialized)
    (found : path.calls[process]? = some before) (owns : before.owns = some lock)
    (holds : after.holds = some lock)
    (socket : ∀ socket, after.socket = some socket → before.socket = some socket)
    (dead : ∀ lock, after = .unlinking lock → ∀ call ∈ path.calls, call.socket = none) :
    (path.move process after).Serialized := by
  refine serialized.keep found ?_ ?_ socket dead
  · exact fun other now => (BindCall.holds_of_owns before lock owns).trans (holds.symm.trans now)
  · exact fun other now =>
      owns.trans (holds.symm.trans (BindCall.holds_of_owns after other now))

/-- A lock is got on the file at the lock's path. -/
theorem Serialized.lock {lock : Nat} (serialized : path.Serialized)
    (found : path.calls[process]? = some before) (free : path.locked lock = false)
    (inPlace : path.lock = some lock) (holds : after.holds = some lock)
    (socket : after.socket = none) (calm : ∀ lock, after ≠ .unlinking lock) :
    (path.move process after).Serialized := by
  have unheld : ∀ call ∈ path.calls, call.holds ≠ some lock := by
    rw [BindPath.locked, List.any_eq_false] at free
    simpa using free
  refine serialized.go found rfl rfl rfl ?_ ?_ ?_
  · refine serialized.locked.move found ?_ ?_ ?_
    · intro other now
      obtain rfl := Option.some.inj (holds.symm.trans now)
      exact Or.inr unheld
    · intro other now
      have same := BindCall.holds_of_owns after other now
      exact inPlace.trans (holds.symm.trans same)
    · exact fun other call number _ there also =>
        serialized.locked.owner other call number there also
  · exact fun number now => absurd (socket.symm.trans now) (by simp)
  · exact fun other same => absurd same (calm other)

/-- Opening the lock file may create it, but then nobody owned the path. -/
theorem Serialized.create (serialized : path.Serialized) {lock : Nat}
    (found : path.calls[process]? = some .opening) (missing : path.lock = none) (lockFiles : Nat) :
    ({ path with lock := some lock, lockFiles }.move process (.locking lock)).Serialized := by
  refine serialized.go found rfl rfl rfl ?_ ?_ ?_
  · refine serialized.locked.move found ?_ ?_ ?_
    · exact fun other now => absurd now (by simp [BindCall.holds])
    · exact fun other now => absurd now (by simp [BindCall.owns])
    · intro other call number _ there owns
      have present := serialized.locked.owner other call number there owns
      exact absurd (missing.symm.trans present) (by simp)
  · exact fun number now => absurd now (by simp [BindCall.socket])
  · exact fun other same => absurd same (by simp)

/-- The lock file is removed by the one process that owns the path. -/
theorem Serialized.removeLock {lock : Nat} (serialized : path.Serialized)
    (found : path.calls[process]? = some (.cleanUnlinking lock)) :
    ({ path with lock := none }.move process (.cleanReleasing lock)).Serialized := by
  refine serialized.go found rfl rfl rfl ?_ ?_ ?_
  · refine serialized.locked.move found (fun other now => Or.inl now) ?_ ?_
    · exact fun other now => absurd now (by simp [BindCall.owns])
    · intro other call number different there owns
      exact absurd (serialized.alone found rfl there owns).symm different
  · exact fun number now => absurd now (by simp [BindCall.socket])
  · exact fun other same => absurd same (by simp)

/-- The socket file goes, and nobody else had a socket. -/
theorem serialized_of_unlink {stolen : Bool} (kept : stolen = false)
    (locked : PathLocked BindCall.holds BindCall.owns path.lock
      (path.calls.set process after))
    (others : ∀ (place : Nat) (call : BindCall), place ≠ process →
      path.calls[place]? = some call → call.socket = none)
    (socket : after.socket = none) (calm : ∀ lock, after ≠ .unlinking lock) :
    ({ path with file := none, stolen }.move process after).Serialized := by
  have nobody {place : Nat} {call : BindCall}
      (there : (path.calls.set process after)[place]? = some call) : call.socket = none := by
    rcases getElem?_set_cases there with ⟨-, rfl⟩ | ⟨different, older⟩
    · exact socket
    · exact others place call different older
  refine ⟨kept, locked, ?_, ?_, ?_⟩
  · intro place number call there has
    exact absurd ((nobody there).symm.trans has) (by simp)
  · intro first second one other call two there _ has
    exact absurd ((nobody there).symm.trans has) (by simp)
  · intro place lock there call among
    obtain ⟨other, found⟩ := List.getElem?_of_mem among
    exact nobody found

/-- A call removes a socket that it has found dead. -/
theorem Serialized.unlink {lock : Nat} (serialized : path.Serialized)
    (found : path.calls[process]? = some (.unlinking lock)) :
    ({ path with file := none, stolen := path.stolen || path.alive }.move process
      (.rebinding lock)).Serialized := by
  have dead := serialized.dead process lock found
  have unused : path.alive = false := by
    unfold alive
    cases path.file with
    | none => rfl
    | some socket =>
      rw [Option.any_some, List.any_eq_false]
      intro call among
      simp [dead call among]
  refine serialized_of_unlink ?_ ?_ ?_ rfl (by simp)
  · rw [serialized.kept, unused]
    rfl
  · exact serialized.locked.keep found (fun _ now => now) (fun _ now => now)
  · exact fun place call _ there => dead call (List.mem_of_getElem? there)

/-- A process removes its own socket. -/
theorem Serialized.retire {socket : Nat} (serialized : path.Serialized)
    (found : path.calls[process]? = some (.serving socket)) :
    ({ path with file := none }.move process .cleaning).Serialized := by
  refine serialized_of_unlink serialized.kept ?_ ?_ rfl (by simp)
  · refine serialized.locked.keep found ?_ ?_
    · exact fun lock now => absurd now (by simp [BindCall.holds])
    · exact fun lock now => absurd now (by simp [BindCall.owns])
  · intro place call different there
    cases has : call.socket with
    | none => rfl
    | some number =>
      exact absurd (serialized.single place process number socket call _ there found has rfl)
        different

/-- Every operation of a process keeps the calls serialized. -/
theorem Serialized.advance {call : BindCall} (serialized : path.Serialized)
    (found : path.calls[process]? = some call)
    (inPlace : path.locksInPlace (.advance process) = true)
    (advanced : path.advance process call = some next) : next.Serialized := by
  cases call with
  | opening =>
    simp only [BindPath.advance] at advanced
    split at advanced
    · obtain rfl := Option.some.inj advanced
      exact serialized.drop found rfl rfl
    · next missing =>
      obtain rfl := Option.some.inj advanced
      exact serialized.create found missing _
  | locking lock =>
    simp only [BindPath.advance] at advanced
    split at advanced
    · cases advanced
    · next free =>
      obtain rfl := Option.some.inj advanced
      have unheld : path.locked lock = false := by simpa using free
      have there : path.lock = some lock := by simpa [locksInPlace, found, unheld] using inPlace
      exact serialized.lock found unheld there rfl rfl (by simp)
  | binding lock =>
    simp only [BindPath.advance] at advanced
    split at advanced
    · obtain rfl := Option.some.inj advanced
      exact serialized.work found rfl rfl (fun _ now => now) (by simp)
    · next missing =>
      obtain rfl := Option.some.inj advanced
      exact serialized.bind found rfl missing
  | probing lock =>
    obtain rfl := Option.some.inj advanced
    cases answer : path.answers with
    | true =>
      rw [if_pos rfl]
      exact serialized.work found rfl rfl (fun _ now => now) (by simp)
    | false =>
      rw [if_neg (by decide)]
      exact serialized.work found rfl rfl (fun _ now => now)
        fun _ _ => serialized.dead_of_probe found answer
  | unlinking lock =>
    simp only [BindPath.advance] at advanced
    split at advanced
    · obtain rfl := Option.some.inj advanced
      exact serialized.unlink found
    · obtain rfl := Option.some.inj advanced
      exact serialized.work found rfl rfl (fun _ now => now) (by simp)
  | rebinding lock =>
    simp only [BindPath.advance] at advanced
    split at advanced
    · obtain rfl := Option.some.inj advanced
      exact serialized.work found rfl rfl (fun _ now => now) (by simp)
    · next missing =>
      obtain rfl := Option.some.inj advanced
      exact serialized.bind found rfl missing
  | bound lock socket =>
    obtain rfl := Option.some.inj advanced
    exact serialized.work found rfl rfl (fun _ now => now) (by simp)
  | granting lock socket =>
    obtain rfl := Option.some.inj advanced
    refine serialized.work found rfl rfl ?_ (by simp)
    intro number now
    simp only [BindCall.socket] at now ⊢
    split at now
    · exact now
    · cases now
  | releasing lock socket =>
    obtain rfl := Option.some.inj advanced
    cases socket with
    | none => exact serialized.drop found rfl rfl
    | some socket =>
      refine serialized.keep found ?_ ?_ (fun _ now => now) (by simp)
      · exact fun lock now => absurd now (by simp [BindCall.holds])
      · exact fun lock now => absurd now (by simp [BindCall.owns])
  | serving socket => cases advanced
  | cleaning =>
    obtain rfl := Option.some.inj advanced
    cases path.lock with
    | none => exact serialized.drop found rfl rfl
    | some lock => exact serialized.drop found rfl rfl
  | cleanLocking lock =>
    obtain rfl := Option.some.inj advanced
    cases free : path.locked lock with
    | true =>
      rw [if_pos rfl]
      exact serialized.drop found rfl rfl
    | false =>
      have there : path.lock = some lock := by simpa [locksInPlace, found, free] using inPlace
      rw [if_neg (by decide)]
      exact serialized.lock found free there rfl rfl (by simp)
  | cleanUnlinking lock =>
    obtain rfl := Option.some.inj advanced
    exact serialized.removeLock found
  | cleanReleasing lock =>
    obtain rfl := Option.some.inj advanced
    exact serialized.drop found rfl rfl
  | done => cases advanced

/-- A process that is new has nothing. -/
theorem Serialized.spawn (serialized : path.Serialized) :
    Serialized { path with calls := path.calls ++ [.opening] } := by
  have older {place : Nat} {call : BindCall}
      (there : (path.calls ++ [.opening])[place]? = some call) (known : call ≠ .opening) :
      path.calls[place]? = some call := by
    rcases Nat.lt_or_ge place path.calls.length with inside | outside
    · rwa [List.getElem?_append_left inside] at there
    · rw [List.getElem?_append_right outside] at there
      exact absurd (List.mem_singleton.mp (List.mem_of_getElem? there)) known
  have known {call : BindCall} {socket : Nat} (has : call.socket = some socket) :
      call ≠ .opening := by
    rintro rfl
    cases has
  refine ⟨serialized.kept, serialized.locked.append rfl rfl, ?_, ?_, ?_⟩
  · exact fun place socket call there has =>
      serialized.file place socket call (older there (known has)) has
  · exact fun first second one other call two there also hasOne hasOther =>
      serialized.single first second one other call two (older there (known hasOne))
        (older also (known hasOther)) hasOne hasOther
  · intro place lock there call among
    have dead := serialized.dead place lock (older there (by simp))
    rcases List.mem_append.mp among with before | newest
    · exact dead call before
    · rw [List.mem_singleton.mp newest]
      rfl

/-- A step in which locks are got in place keeps the calls serialized. -/
theorem Serialized.step {action : BindAction} (serialized : path.Serialized)
    (inPlace : path.locksInPlace action = true) (stepped : path.step action = some next) :
    next.Serialized := by
  cases action with
  | spawn =>
    obtain rfl := Option.some.inj stepped
    exact serialized.spawn
  | advance process =>
    simp only [BindPath.step] at stepped
    split at stepped
    · next call found => exact serialized.advance found inPlace stepped
    · cases stepped
  | timeout process =>
    simp only [BindPath.step] at stepped
    split at stepped
    · next found =>
      obtain rfl := Option.some.inj stepped
      exact serialized.drop found rfl rfl
    · cases stepped
  | retire process =>
    simp only [BindPath.step] at stepped
    split at stepped
    · next found =>
      obtain rfl := Option.some.inj stepped
      exact serialized.retire found
    · cases stepped
  | close process =>
    simp only [BindPath.step] at stepped
    split at stepped
    · next found =>
      obtain rfl := Option.some.inj stepped
      exact serialized.drop found rfl rfl
    · cases stepped
  | crash process =>
    simp only [BindPath.step] at stepped
    split at stepped
    · next found =>
      obtain rfl := Option.some.inj stepped
      exact serialized.drop found rfl rfl
    · cases stepped

/-- Before any call all is serialized. -/
theorem Serialized.new : BindPath.new.Serialized where
  kept := rfl
  locked := .nil
  file _ _ _ there := absurd there (by simp [BindPath.new])
  single _ _ _ _ _ _ there := absurd there (by simp [BindPath.new])
  dead _ _ there := absurd there (by simp [BindPath.new])

end Steps

end BindPath

/-- A call gets the lock on a file that a cleanup has just removed, and a third one on its successor. -/
theorem live_socket_stolen :
    ¬ ∀ actions, bindPath.Along BindPath.NothingStolen bindPath.init actions := by
  intro all
  -- The first process binds and retires; its cleanup removes the lock file that the second one has
  -- open, and the third one makes another.
  have stolen : (bindPath.run bindPath.init
      (.spawn :: List.replicate 6 (.advance 0) ++ [.retire 0, .advance 0, .spawn, .advance 1,
        .advance 0, .advance 0, .advance 0, .spawn, .advance 2, .advance 1, .advance 2,
        .advance 1, .advance 2, .advance 2, .advance 2])).any (fun last => last.stolen) = true := by
    decide +kernel
  obtain ⟨last, ran, taken⟩ := (Option.any_eq_true _ _).mp stolen
  exact absurd ((all _).last ran).kept (by simp [taken])

/-- If every lock is got on the file at the lock's path, no socket in use is ever removed. -/
theorem nothingStolen_along {actions : List BindAction}
    (inPlace : bindPath.Meets (fun path action => path.locksInPlace action = true) bindPath.init
      actions) :
    bindPath.Along BindPath.NothingStolen bindPath.init actions := by
  have kept : ∀ (path : BindPath) (action : BindAction) (next : BindPath), path.Serialized →
      path.locksInPlace action = true → bindPath.step path action = some next →
        next.Serialized :=
    fun _ _ _ serialized inPlace stepped => serialized.step inPlace stepped
  exact Machine.along_of_meets (fun _ serialized => serialized.nothingStolen) kept
    BindPath.Serialized.new inPlace

/-- A process takes over the path of one that has crashed. -/
theorem nothingStolen_along_takeover :
    bindPath.Along BindPath.NothingStolen bindPath.init
      (.spawn :: List.replicate 6 (.advance 0) ++ .crash 0 :: .spawn ::
        List.replicate 9 (.advance 1) ++ [.retire 1] ++ List.replicate 4 (.advance 1)) :=
  nothingStolen_along (by decide +kernel)

end Gritty
