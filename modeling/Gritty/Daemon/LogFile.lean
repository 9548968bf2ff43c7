import Gritty.Lib.BigEndian
import Gritty.Lib.Transition

/-! The daemon's log is opened anew after its file was moved away, while signals come at any time. -/

namespace Gritty

/-- Where a write to the log is. It holds the writer's lock from its beginning to its end. -/
inductive LogPhase where
  | idle
  /-- A request to open the file anew was seen. -/
  | opening (buf : Bytes)
  /-- The new file is open, and not yet the writer's. -/
  | opened (newFile : Nat) (buf : Bytes)
  /-- The new file is the writer's, and the request still stands. -/
  | clearing (buf : Bytes)
  | writing (buf : Bytes)
  deriving DecidableEq

/-- A log that is written to a file with a path. Files are told apart by their numbers. -/
structure ReopenableWriter where
  file : Nat
  reopen : Bool
  phase : LogPhase
  /-- The file at the path, if there is one, and whether its directory is there. -/
  path : Option Nat
  dir : Bool
  /-- The disk takes a new file. -/
  room : Bool
  /-- The daemon may have one more file open. -/
  descriptors : Bool
  /-- How many files there were at the path so far. -/
  files : Nat
  /-- The file was moved away, and nobody has asked for a new one since. -/
  owed : Bool
  /-- What was written, piece by piece, with the file that each piece went to. -/
  written : List (Nat × Bytes)
  deriving DecidableEq

inductive LogAction where
  | write (buf : Bytes)
  /-- The write goes on. At its end it takes so many bytes. -/
  | advance (taken : Nat)
  /-- A signal to the daemon, or the repair of its directory, asks for a new file. -/
  | requestReopen
  /-- The file is moved or removed. -/
  | moveAway
  | loseDirectory
  | makeDirectory
  /-- Whoever moved the file puts an empty one in its place. -/
  | createFile
  /-- The disk fills up, or is cleared. -/
  | setRoom (room : Bool)
  /-- The daemon comes to its limit of open files, or gets away from it. -/
  | setDescriptors (left : Bool)

namespace ReopenableWriter

/-- A writer with a file that was opened at its path. -/
def new : ReopenableWriter where
  file := 0
  reopen := false
  phase := .idle
  path := some 0
  dir := true
  room := true
  descriptors := true
  files := 1
  owed := false
  written := []

/-- An empty file at the path, where one can be made. -/
def makeFile (log : ReopenableWriter) : Option ReopenableWriter :=
  if log.path = none ∧ log.dir ∧ log.room then
    some { log with path := some log.files, files := log.files + 1 }
  else none

/-- The file that an opening gives: the one at the path, or an empty one. -/
def openLogFile (log : ReopenableWriter) : Option (Nat × ReopenableWriter) :=
  if log.descriptors then
    match log.path with
    | some file => some (file, log)
    -- A new file needs its directory, and room on the disk.
    | none => log.makeFile.map (log.files, ·)
  else none

/-- The next step of a write. -/
def advance (log : ReopenableWriter) (taken : Nat) : Option ReopenableWriter :=
  match log.phase with
  | .idle => none
  | .opening buf =>
    match log.openLogFile with
    | some (newFile, log) => some { log with phase := .opened newFile buf }
    | none => some { log with phase := .writing buf }
  | .opened newFile buf => some { log with file := newFile, phase := .clearing buf }
  | .clearing buf => some { log with reopen := false, phase := .writing buf }
  | .writing buf =>
    some { log with phase := .idle, written := log.written ++ [(log.file, buf.take taken)] }

def step (log : ReopenableWriter) : LogAction → Option ReopenableWriter
  | .write buf =>
    if log.phase = .idle then
      some { log with phase := if log.reopen then .opening buf else .writing buf }
    else none
  | .advance taken => log.advance taken
  | .requestReopen => some { log with reopen := true, owed := false }
  | .moveAway => if log.path = none then none else some { log with path := none, owed := true }
  | .loseDirectory => some { log with path := none, dir := false, owed := true }
  | .makeDirectory => some { log with dir := true }
  | .createFile => log.makeFile
  | .setRoom room => some { log with room }
  | .setDescriptors left => some { log with descriptors := left }

end ReopenableWriter

def logMachine : Machine ReopenableWriter LogAction where
  init := .new
  step := ReopenableWriter.step

/-! ### Requests that are heard -/

/-- The file that is being exchanged for the writer's, and after which the request will be forgotten. -/
def LogPhase.swapping (file : Nat) : LogPhase → Option Nat
  | .opened newFile _ => some newFile
  | .clearing _ => some file
  | .idle | .opening _ | .writing _ => none

/-- The log goes to its path, or a request for that is standing, or somebody has yet to make one. -/
def ReopenableWriter.Heard (log : ReopenableWriter) : Prop :=
  log.owed = true ∨
    match log.phase.swapping log.file with
    | some newFile => log.path = some newFile
    | none => log.path = some log.file ∨ log.reopen = true

/-- A request does not come while a file is exchanged that was itself moved away by then. -/
def LogAction.Timely (log : ReopenableWriter) (action : LogAction) : Prop :=
  action = .requestReopen → ∀ newFile, log.phase.swapping log.file = some newFile →
    log.path = some newFile

/-- The daemon may open one more file, and the log's is there or can be made. -/
def ReopenableWriter.CanOpen (log : ReopenableWriter) : Prop :=
  log.descriptors = true ∧ (log.path.isSome = true ∨ log.dir = true ∧ log.room = true)

section

variable {log next : ReopenableWriter}

/-- What making a file needs, and what it leaves. -/
theorem makeFile_eq_some :
    log.makeFile = some next ↔ (log.path = none ∧ log.dir = true ∧ log.room = true) ∧
      { log with path := some log.files, files := log.files + 1 } = next := by
  simp [ReopenableWriter.makeFile]

/-- An opened file is at the path. -/
theorem openLogFile_path {newFile : Nat} (opened : log.openLogFile = some (newFile, next)) :
    next.path = some newFile ∧ next.file = log.file := by
  unfold ReopenableWriter.openLogFile at opened
  split_ifs at opened
  split at opened
  · next file there =>
    obtain ⟨rfl, rfl⟩ := Prod.mk.inj (Option.some.inj opened)
    exact ⟨there, rfl⟩
  · -- The file is a new one, which was made at the path.
    obtain ⟨after, made, opened⟩ := Option.map_eq_some_iff.mp opened
    obtain ⟨rfl, rfl⟩ := Prod.mk.inj opened
    obtain ⟨-, rfl⟩ := makeFile_eq_some.mp made
    exact ⟨rfl, rfl⟩

/-- An opening that can be done gives the file at the path, and writes nothing. -/
theorem openLogFile_of_canOpen (possible : log.CanOpen) : ∃ file after,
    log.openLogFile = some (file, after) ∧ after.path = some file ∧
      after.written = log.written := by
  obtain ⟨descriptors, there | ⟨dir, room⟩⟩ := possible
  · obtain ⟨file, there⟩ := Option.isSome_iff_exists.mp there
    exact ⟨file, log, by simp [ReopenableWriter.openLogFile, descriptors, there], there, rfl⟩
  · cases there : log.path with
    | some file =>
      exact ⟨file, log, by simp [ReopenableWriter.openLogFile, descriptors, there], there, rfl⟩
    | none =>
      have made := makeFile_eq_some.mpr ⟨⟨there, dir, room⟩, rfl⟩
      refine ⟨log.files, { log with path := some log.files, files := log.files + 1 }, ?_, rfl, rfl⟩
      simp [ReopenableWriter.openLogFile, descriptors, there, made]

/-- An opening that cannot be done fails. -/
theorem openLogFile_of_not_canOpen (impossible : ¬ log.CanOpen) : log.openLogFile = none := by
  unfold ReopenableWriter.openLogFile
  split_ifs with descriptors
  · have missing : ¬ (log.path.isSome = true ∨ log.dir = true ∧ log.room = true) :=
      fun there => impossible ⟨descriptors, there⟩
    cases there : log.path with
    | some file => simp [there] at missing
    | none =>
      -- Nothing is there, and nothing can be made.
      have unmade : log.makeFile = none := by
        simp only [there, Option.isSome_none, Bool.false_eq_true, false_or] at missing
        simp [ReopenableWriter.makeFile, there, missing]
      simp [unmade]
  · rfl

/-- Opening the file again, or failing to, leaves a request standing until it has been met. -/
theorem ReopenableWriter.Heard.advance {taken : Nat} (heard : log.Heard)
    (advanced : log.advance taken = some next) : next.Heard := by
  unfold ReopenableWriter.advance at advanced
  unfold ReopenableWriter.Heard at heard
  split at advanced
  · cases advanced
  · next buf phase =>
    rw [phase] at heard
    split at advanced
    · next newFile after opened =>
      cases advanced
      exact Or.inr (openLogFile_path opened).1
    · cases advanced
      exact heard
  · next newFile buf phase =>
    rw [phase] at heard
    cases advanced
    exact heard
  · next buf phase =>
    -- The request was for the file that is now the writer's.
    rw [phase] at heard
    cases advanced
    exact heard.imp_right Or.inl
  · next buf phase =>
    rw [phase] at heard
    cases advanced
    exact heard

/-- Every step of a writer leaves it heard, unless it is a request that comes at the wrong time. -/
theorem ReopenableWriter.Heard.step {action : LogAction} (heard : log.Heard)
    (timely : action.Timely log) (stepped : log.step action = some next) : next.Heard := by
  cases action with
  | write buf =>
    simp only [ReopenableWriter.step] at stepped
    unfold ReopenableWriter.Heard at heard ⊢
    split_ifs at stepped with idle
    · cases stepped
      rw [idle] at heard
      exact heard
    · cases stepped
      rw [idle] at heard
      exact heard
  | advance taken => exact heard.advance stepped
  | requestReopen =>
    cases stepped
    right
    cases swap : log.phase.swapping log.file with
    | none => simp
    | some newFile => simpa [swap] using timely rfl newFile swap
  | moveAway =>
    -- Where the file is moved away, a request is owed.
    simp only [ReopenableWriter.step] at stepped
    split_ifs at stepped
    cases stepped
    exact Or.inl rfl
  | loseDirectory =>
    cases stepped
    exact Or.inl rfl
  | makeDirectory =>
    cases stepped
    exact heard
  | setRoom room =>
    cases stepped
    exact heard
  | setDescriptors left =>
    cases stepped
    exact heard
  | createFile =>
    obtain ⟨free, rfl⟩ := makeFile_eq_some.mp stepped
    rcases heard with owed | heard
    · exact Or.inl owed
    · -- Nothing was at the path, so a request stands.
      right
      cases swap : log.phase.swapping log.file with
      | none =>
        rw [swap] at heard
        have standing := heard.resolve_left fun there => by rw [free.1] at there; cases there
        simp [standing]
      | some newFile =>
        rw [swap] at heard
        have there : log.path = some newFile := heard
        rw [free.1] at there
        cases there

/-- A request that comes while its file is already gone is forgotten with the one before it. -/
theorem not_heard_of_untimely {action : LogAction} (untimely : ¬ action.Timely log) :
    ∃ next, log.step action = some next ∧ ¬ next.Heard := by
  obtain ⟨request, lost⟩ := not_forall.mp untimely
  obtain ⟨newFile, lost⟩ := not_forall.mp lost
  obtain ⟨swap, elsewhere⟩ := not_forall.mp lost
  subst request
  refine ⟨_, rfl, ?_⟩
  rintro (owed | heard)
  · cases owed
  · rw [show ({ log with reopen := true, owed := false } : ReopenableWriter).phase.swapping
      ({ log with reopen := true, owed := false } : ReopenableWriter).file = some newFile from swap]
      at heard
    exact elsewhere heard

end

/-- What a request to open the log anew comes to. -/
structure LogReopens : Prop where
  /-- The log is never left to a file that nobody can find, but for requests that come while another is met. -/
  heard : ∀ actions, logMachine.Along ReopenableWriter.Heard logMachine.init actions ↔
    logMachine.Meets (fun log action => action.Timely log) logMachine.init actions
  /-- After a request, the next write that begins goes to the file at the path, which is made if need be. -/
  next : ∀ (log : ReopenableWriter) buf taken, log.phase = .idle → log.reopen = true →
    log.CanOpen → ∃ last file, logMachine.run log
        [.write buf, .advance taken, .advance taken, .advance taken, .advance taken] = some last ∧
      last.path = some file ∧ last.reopen = false ∧
      last.written = log.written ++ [(file, buf.take taken)]
  /-- As long as no file can be opened, for whatever reason, the old one is written to and the request stands. -/
  stands : ∀ (log : ReopenableWriter) buf taken, log.phase = .idle → log.reopen = true →
    ¬ log.CanOpen → logMachine.run log
        [.write buf, .advance taken, .advance taken] =
      some { log with written := log.written ++ [(log.file, buf.take taken)] }

/-- Whatever signals, writes and moves of the file interleave, a request is met by the next write that can. -/
theorem logReopens : LogReopens where
  heard actions := by
    have start : logMachine.init.Heard := Or.inr (Or.inl rfl)
    refine Machine.along_iff_meets (fun _ heard => heard) ?_ ?_ start actions
    · exact fun log action next heard timely stepped => heard.step timely stepped
    · exact fun log action _ untimely => not_heard_of_untimely untimely
  next log buf taken idle standing possible := by
    -- The write begins with the request, opens a file, takes it, and goes to it.
    have begins : log.step (.write buf) = some { log with phase := .opening buf } := by
      simp [ReopenableWriter.step, idle, standing]
    obtain ⟨file, after, opened, there, written⟩ := openLogFile_of_canOpen
      (show ({ log with phase := .opening buf } : ReopenableWriter).CanOpen from possible)
    refine ⟨{ after with
      file, reopen := false, phase := .idle, written := after.written ++ [(file, buf.take taken)] },
      file, ?_, there, rfl, by rw [written]⟩
    have takes : ({ log with phase := .opening buf } : ReopenableWriter).advance taken =
        some { after with phase := .opened file buf } := by
      unfold ReopenableWriter.advance
      simp only [opened]
    rw [Machine.run_cons begins, Machine.run_cons takes]
    rfl
  stands log buf taken idle standing impossible := by
    -- The request is seen, and the opening fails.
    have begins : log.step (.write buf) = some { log with phase := .opening buf } := by
      simp [ReopenableWriter.step, idle, standing]
    have unopened := openLogFile_of_not_canOpen
      (show ¬ ({ log with phase := .opening buf } : ReopenableWriter).CanOpen from impossible)
    have fails : ({ log with phase := .opening buf } : ReopenableWriter).advance taken =
        some { log with phase := .writing buf } := by
      unfold ReopenableWriter.advance
      simp only [unopened]
    rw [Machine.run_cons begins, Machine.run_cons fails, Machine.run_cons rfl, Machine.run, ← idle]

end Gritty
