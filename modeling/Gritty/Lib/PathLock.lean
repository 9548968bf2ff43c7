import Mathlib.Tactic

/-!
Processes that lock a file and take the lock for the files at the path they opened it by.

A process holds a lock on an inode. It owns what the path stands for as long as that is the inode at
the path.
-/

namespace Gritty

universe u

variable {Stage : Type u}

/-- What a process is after one of a list of processes has gone on. -/
theorem getElem?_set_cases {processes : List Stage} {process other : Nat} {after stage : Stage}
    (there : (processes.set process after)[other]? = some stage) :
    (other = process ∧ stage = after) ∨
      (other ≠ process ∧ processes[other]? = some stage) := by
  rw [List.getElem?_set] at there
  split at there
  · next same =>
    split at there
    · exact Or.inl ⟨same.symm, (Option.some.inj there).symm⟩
    · simp at there
  · next different => exact Or.inr ⟨fun same => different same.symm, there⟩

variable (holds owns : Stage → Option Nat)

/-- Who owns what the path stands for has locked the inode at the path, and every lock is held once. -/
structure PathLocked (lock : Option Nat) (processes : List Stage) : Prop where
  owner : ∀ (process : Nat) (stage : Stage) (inode : Nat),
    processes[process]? = some stage → owns stage = some inode → lock = some inode
  held : ∀ (first second : Nat) (one other : Stage) (inode : Nat),
    processes[first]? = some one → processes[second]? = some other →
      holds one = some inode → holds other = some inode → first = second

namespace PathLocked

variable {holds owns} {lock : Option Nat} {processes : List Stage} {process : Nat}
  {before after : Stage}

/-- Without processes nothing is locked. -/
theorem nil : PathLocked holds owns lock [] :=
  ⟨fun _ _ _ there => absurd there (by simp), fun _ _ _ _ _ there => absurd there (by simp)⟩

/-- Only one process owns what the path stands for. -/
theorem alone (locked : PathLocked holds owns lock processes)
    (holds_of_owns : ∀ stage inode, owns stage = some inode → holds stage = some inode)
    {other inode second : Nat} {stage : Stage} (found : processes[process]? = some before)
    (here : owns before = some inode) (there : processes[other]? = some stage)
    (also : owns stage = some second) : process = other := by
  -- Both own what the path stands for, so both hold the same lock.
  have same := (locked.owner process before inode found here).symm.trans
    (locked.owner other stage second there also)
  cases same
  exact locked.held process other before stage inode found there (holds_of_owns _ _ here)
    (holds_of_owns _ _ also)

/-- One process goes on, and the file at the path may change. -/
theorem move (locked : PathLocked holds owns lock processes) {next : Option Nat}
    (found : processes[process]? = some before)
    (keeps : ∀ inode, holds after = some inode →
      holds before = some inode ∨ ∀ stage ∈ processes, holds stage ≠ some inode)
    (own : ∀ inode, owns after = some inode → next = some inode)
    (others : ∀ (other : Nat) (stage : Stage) (inode : Nat), other ≠ process →
      processes[other]? = some stage → owns stage = some inode → next = some inode) :
    PathLocked holds owns next (processes.set process after) := by
  -- What the process holds now, no other process holds.
  have apart (other : Nat) (stage : Stage) (inode : Nat) (different : other ≠ process)
      (there : processes[other]? = some stage) (now : holds after = some inode) :
      holds stage ≠ some inode := by
    intro also
    rcases keeps inode now with held | free
    · exact different (locked.held other process stage before inode there found also held)
    · exact free stage (List.mem_of_getElem? there) also
  refine ⟨?_, ?_⟩
  · intro other stage inode there owns'
    rcases getElem?_set_cases there with ⟨rfl, rfl⟩ | ⟨different, there⟩
    · exact own inode owns'
    · exact others other stage inode different there owns'
  · intro first second one other inode there also holdsOne holdsOther
    rcases getElem?_set_cases there with ⟨rfl, rfl⟩ | ⟨different, wasOne⟩
    · rcases getElem?_set_cases also with ⟨rfl, -⟩ | ⟨apartFrom, wasOther⟩
      · rfl
      · exact absurd holdsOther (apart second other inode apartFrom wasOther holdsOne)
    · rcases getElem?_set_cases also with ⟨rfl, rfl⟩ | ⟨-, wasOther⟩
      · exact absurd holdsOne (apart first one inode different wasOne holdsOther)
      · exact locked.held first second one other inode wasOne wasOther holdsOne holdsOther

/-- One process goes on with no more than it had, and the path is left alone. -/
theorem keep (locked : PathLocked holds owns lock processes)
    (found : processes[process]? = some before)
    (keeps : ∀ inode, holds after = some inode → holds before = some inode)
    (own : ∀ inode, owns after = some inode → owns before = some inode) :
    PathLocked holds owns lock (processes.set process after) := by
  refine locked.move found (fun inode now => Or.inl (keeps inode now)) ?_ ?_
  · exact fun inode now => locked.owner process before inode found (own inode now)
  · exact fun other stage inode _ there also => locked.owner other stage inode there also

/-- A process that is new holds nothing. -/
theorem append (locked : PathLocked holds owns lock processes) {stage : Stage}
    (nothing : holds stage = none) (ownsNothing : owns stage = none) :
    PathLocked holds owns lock (processes ++ [stage]) := by
  have older {process : Nat} {other : Stage} {inode : Nat}
      (there : (processes ++ [stage])[process]? = some other)
      (holder : holds other = some inode ∨ owns other = some inode) :
      processes[process]? = some other := by
    rcases Nat.lt_or_ge process processes.length with inside | outside
    · rwa [List.getElem?_append_left inside] at there
    · rw [List.getElem?_append_right outside] at there
      obtain rfl := List.mem_singleton.mp (List.mem_of_getElem? there)
      rcases holder with held | owned
      · exact absurd (nothing.symm.trans held) (by simp)
      · exact absurd (ownsNothing.symm.trans owned) (by simp)
  refine ⟨?_, ?_⟩
  · intro process other inode there also
    exact locked.owner process other inode (older there (Or.inr also)) also
  · intro first second one other inode there also holdsOne holdsOther
    exact locked.held first second one other inode (older there (Or.inl holdsOne))
      (older also (Or.inl holdsOther)) holdsOne holdsOther

end PathLocked

end Gritty
