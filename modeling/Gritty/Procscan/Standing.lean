import Gritty.Procscan.Reaping

/-! Whether a daemon that stays unregistered from one scan to the next is killed, whatever the order its sockets are visited in. -/

namespace Gritty

/-! ### What a scan says of a process -/

section

variable {dirs : SocketDirs} {pid : Nat}

/-- Who is registered beside a path is not accused. -/
theorem classifyFrom_registered {best : Option OrphanDaemon} {paths : List PathBuf}
    {path : PathBuf} (among : path ∈ paths) (registered : dirs.registered path = some pid) :
    classifyFrom dirs pid best paths = none := by
  -- The walk ends at the first path that the process is registered beside.
  induction paths generalizing best with
  | nil => exact absurd among List.not_mem_nil
  | cons first others ih =>
    rw [classifyFrom]
    split
    · rfl
    · next other =>
      rcases List.mem_cons.mp among with rfl | later
      · exact absurd registered other
      · exact ih later

/-- What is reported follows from the path that it is reported under. -/
theorem classifyFrom_reported {best : Option OrphanDaemon} {paths : List PathBuf}
    {orphan : OrphanDaemon}
    (so : ∀ found ∈ best, found = ⟨pid, found.boundPath, orphanReason dirs found.boundPath⟩)
    (accused : classifyFrom dirs pid best paths = some orphan) :
    orphan = ⟨pid, orphan.boundPath, orphanReason dirs orphan.boundPath⟩ := by
  -- The best find so far has its reason from the path it was found under, and so has each new one.
  induction paths generalizing best with
  | nil => exact so orphan accused
  | cons first others ih =>
    rw [classifyFrom] at accused
    split at accused
    · cases accused
    · refine ih ?_ accused
      intro found isBest
      split at isBest
      · cases isBest
        rfl
      · exact so found isBest

/-- Who is registered nowhere is accused as soon as there is something in hand. -/
theorem classifyFrom_isSome {best : Option OrphanDaemon} {paths : List PathBuf}
    (unregistered : ∀ path ∈ paths, dirs.registered path ≠ some pid)
    (some_ : best.isSome = true ∨ paths ≠ []) : (classifyFrom dirs pid best paths).isSome = true := by
  -- Each path leaves something in hand, and nothing ends the walk early.
  induction paths generalizing best with
  | nil => simpa [classifyFrom] using some_
  | cons first others ih =>
    rw [classifyFrom, if_neg (unregistered first List.mem_cons_self)]
    refine ih (fun path among => unregistered path (List.mem_cons_of_mem first among)) (Or.inl ?_)
    split
    · rfl
    · next kept =>
      push Not at kept
      exact Option.isSome_iff_ne_none.mpr kept.1

/-- Who is registered nowhere is reported under one of the paths that may be reported. -/
theorem classify_of_unregistered {paths : List PathBuf} (bound : paths ≠ [])
    (unregistered : ∀ path ∈ paths, dirs.registered path ≠ some pid) :
    ∃ path ∈ reportable paths, classify dirs pid paths = some ⟨pid, path, orphanReason dirs path⟩ := by
  have accused : (classify dirs pid paths).isSome = true :=
    classifyFrom_isSome unregistered (Or.inr bound)
  obtain ⟨orphan, accused⟩ := Option.isSome_iff_exists.mp accused
  -- The walk reports one of the paths it may report.
  obtain ⟨-, mayBe, -⟩ := classify_eq_some accused
  refine ⟨orphan.boundPath, mayBe, ?_⟩
  rw [accused, Option.some.injEq]
  exact classifyFrom_reported (fun found none_ => by cases none_) accused

end

/-- A list of one element at most has no two. -/
theorem eq_of_mem_of_length_le_one {α : Type} {list : List α} (short : list.length ≤ 1)
    {first second : α} (one : first ∈ list) (other : second ∈ list) : first = second := by
  match list, short with
  | [only], _ => rw [List.mem_singleton.mp one, List.mem_singleton.mp other]

/-- A list of several elements without repetition has two that differ. -/
theorem exists_ne_of_one_lt_length {α : Type} {list : List α} (distinct : list.Nodup)
    (several : 1 < list.length) : ∃ first ∈ list, ∃ second ∈ list, first ≠ second := by
  match list, several with
  | first :: second :: rest, _ =>
    have apart := (List.nodup_cons.mp distinct).1
    refine ⟨first, List.mem_cons_self, second, by simp, ?_⟩
    rintro rfl
    exact apart List.mem_cons_self

/-! ### Two scans of the same process -/

/-- A process is in two scans, and neither what it has bound nor the files beside it changes. -/
structure Standing (me : Scanner) (before after : Process) (first second : Scan) : Prop where
  here : before ∈ first.table.processes
  there : after ∈ second.table.processes
  pid : after.pid = before.pid
  considered : me.considers after = me.considers before
  paths : (second.table.seenPaths after).Perm (first.table.seenPaths before)
  pidFile : ∀ path ∈ first.table.seenPaths before,
    second.dirs.pidFile (pidFilePath path) = first.dirs.pidFile (pidFilePath path)
  socketFile : ∀ path ∈ first.table.seenPaths before,
    second.dirs.socketFile path = first.dirs.socketFile path

/-- A scan with another order of the paths. -/
def Scan.inOrder (scan : Scan) (order : SetOrder) : Scan := { scan with order }

/-- What a scan makes of a process. -/
def Scan.verdict (scan : Scan) (process : Process) : Option OrphanDaemon :=
  classify scan.dirs process.pid (scan.order.visit process.pid (scan.table.seenPaths process))

/-- Whatever the two orders are, both scans say the same of the process, and it is killed if the first reports it. -/
def AlwaysReaped (me : Scanner) (before after : Process) (first second : Scan) : Prop :=
  ∀ one other : SetOrder,
    (second.inOrder other).verdict after = (first.inOrder one).verdict before ∧
      (before.pid ∈ (findOrphanDaemons me (first.inOrder one)).map OrphanDaemon.pid →
        before.pid ∈ reaped me (first.inOrder one) (second.inOrder other))

/-- There is no choice of what to report: the process is registered, or one path comes first in every order. -/
def Unmistakable (scan : Scan) (process : Process) : Prop :=
  (∃ path ∈ scan.table.seenPaths process, scan.dirs.registered path = some process.pid) ∨
    (reportable (scan.table.seenPaths process)).length ≤ 1

variable {me : Scanner} {before after : Process} {first second : Scan}

/-- What a scan reports of a process of its table. -/
theorem mem_findOrphanDaemons_iff {scan : Scan} {process : Process} {orphan : OrphanDaemon}
    (among : process ∈ scan.table.processes) (named : orphan.pid = process.pid) :
    orphan ∈ findOrphanDaemons me scan ↔
      me.considers process = true ∧ scan.verdict process = some orphan := by
  constructor
  · intro accused
    -- The scan goes through the processes of the table, and the number singles this one out.
    obtain ⟨other, there, result⟩ := List.mem_filterMap.mp accused
    split at result
    · next considered =>
      have same : other = process := by
        refine scan.table.eq_of_pid there among ?_
        rw [← named, (classify_eq_some result).1]
      subst same
      exact ⟨considered, result⟩
    · cases result
  · rintro ⟨considered, result⟩
    exact List.mem_filterMap.mpr ⟨process, among, by rw [if_pos considered]; exact result⟩

namespace Standing

/-- The files beside the sockets say the same in both scans. -/
theorem registered (standing : Standing me before after first second) {path : PathBuf}
    (among : path ∈ first.table.seenPaths before) :
    second.dirs.registered path = first.dirs.registered path := by
  rw [SocketDirs.registered, SocketDirs.registered, standing.pidFile path among]

theorem reason (standing : Standing me before after first second) {path : PathBuf}
    (among : path ∈ first.table.seenPaths before) :
    orphanReason second.dirs path = orphanReason first.dirs path := by
  rw [orphanReason, orphanReason, standing.registered among, standing.socketFile path among]

/-- A process that is registered nowhere at the first scan is registered nowhere at the second. -/
theorem unregistered (standing : Standing me before after first second)
    (nowhere : ∀ path ∈ first.table.seenPaths before,
      first.dirs.registered path ≠ some before.pid) :
    ∀ path ∈ second.table.seenPaths after, second.dirs.registered path ≠ some after.pid := by
  intro path among
  -- The paths that were seen in both scans are the same ones in another order.
  have among := standing.paths.mem_iff.mp among
  rw [standing.registered among, standing.pid]
  exact nowhere path among

/-- The second scan finds the paths of the first. -/
theorem mem_visit (standing : Standing me before after first second) (order : SetOrder)
    {path : PathBuf} :
    path ∈ order.visit after.pid (second.table.seenPaths after) ↔
      path ∈ first.table.seenPaths before :=
  ((order.perm _ _).trans standing.paths).mem_iff

/-- A process that is registered is not accused by the second scan either. -/
theorem verdict_registered (standing : Standing me before after first second) {path : PathBuf}
    (among : path ∈ first.table.seenPaths before)
    (registered : first.dirs.registered path = some before.pid) (one other : SetOrder) :
    (first.inOrder one).verdict before = none ∧ (second.inOrder other).verdict after = none := by
  constructor
  -- Being registered beside one path is enough, wherever the order puts that path.
  · exact classifyFrom_registered ((one.perm _ _).mem_iff.mpr among) registered
  · refine classifyFrom_registered ((standing.mem_visit other).mpr among) ?_
    rw [show (second.inOrder other).dirs = second.dirs from rfl, standing.registered among,
      registered, standing.pid]

/-- A process that is registered nowhere is reported under one of the paths that may be reported. -/
theorem verdict_unregistered {scan : Scan} {process : Process}
    (bound : scan.table.seenPaths process ≠ [])
    (unregistered : ∀ path ∈ scan.table.seenPaths process,
      scan.dirs.registered path ≠ some process.pid) (order : SetOrder) :
    ∃ path ∈ reportable (scan.table.seenPaths process),
      (scan.inOrder order).verdict process = some ⟨process.pid, path, orphanReason scan.dirs path⟩ := by
  -- An order of the paths loses none of them and adds none.
  have perm := order.perm process.pid (scan.table.seenPaths process)
  have visited : order.visit process.pid (scan.table.seenPaths process) ≠ [] := fun none_ =>
    bound (List.nil_perm.mp (none_ ▸ perm))
  obtain ⟨path, mayBe, accused⟩ := classify_of_unregistered visited
    fun path among => unregistered path (perm.mem_iff.mp among)
  exact ⟨path, (mem_reportable_perm perm path).mp mayBe, accused⟩

/-- Where there is no choice, both scans say the same. -/
theorem verdict_eq (standing : Standing me before after first second)
    (unmistakable : Unmistakable first before) (one other : SetOrder) :
    (second.inOrder other).verdict after = (first.inOrder one).verdict before := by
  -- Whoever is registered is never reported; the others are, unless they have bound nothing.
  by_cases registered : ∃ path ∈ first.table.seenPaths before,
      first.dirs.registered path = some before.pid
  · obtain ⟨path, among, named⟩ := registered
    obtain ⟨left, right⟩ := standing.verdict_registered among named one other
    rw [left, right]
  have short := unmistakable.resolve_left registered
  have unregistered : ∀ path ∈ first.table.seenPaths before,
      first.dirs.registered path ≠ some before.pid :=
    fun path among named => registered ⟨path, among, named⟩
  by_cases bound : first.table.seenPaths before = []
  · -- Nothing is bound, and nobody is accused.
    have none_ : ∀ (order : SetOrder) (pid : Nat), order.visit pid [] = [] := fun order pid =>
      List.perm_nil.mp (order.perm pid [])
    have bound' : second.table.seenPaths after = [] := by
      have perm := standing.paths
      rw [bound] at perm
      exact List.perm_nil.mp perm
    simp [Scan.verdict, Scan.inOrder, bound, bound', none_, classify, classifyFrom]
  · have bound' : second.table.seenPaths after ≠ [] := fun none_ =>
      bound (List.nil_perm.mp (none_ ▸ standing.paths))
    obtain ⟨path, mayBe, reported⟩ := verdict_unregistered bound unregistered one
    obtain ⟨path', mayBe', reported'⟩ :=
      verdict_unregistered bound' (standing.unregistered unregistered) other
    have mayBe' := (mem_reportable_perm standing.paths path').mp mayBe'
    -- There is one path to report at most, so both scans come to the same one.
    obtain rfl : path' = path := eq_of_mem_of_length_le_one short mayBe' mayBe
    have among : path' ∈ first.table.seenPaths before := by
      unfold reportable at mayBe
      split at mayBe
      · exact List.mem_of_mem_filter mayBe
      · exact mayBe
    rw [reported, reported', standing.reason among, standing.pid]

/-- Where both scans say the same, the second confirms the first. -/
theorem reaped_of_verdict_eq (standing : Standing me before after first second)
    {one other : SetOrder}
    (same : (second.inOrder other).verdict after = (first.inOrder one).verdict before)
    (suspected : before.pid ∈ (findOrphanDaemons me (first.inOrder one)).map OrphanDaemon.pid) :
    before.pid ∈ reaped me (first.inOrder one) (second.inOrder other) := by
  obtain ⟨orphan, accused, named⟩ := List.mem_map.mp suspected
  have suspect : before ∈ (first.inOrder one).table.processes := standing.here
  obtain ⟨considered, reported⟩ := (mem_findOrphanDaemons_iff suspect named).mp accused
  -- The second scan considers the process as well, and says the same of it.
  have again : orphan ∈ findOrphanDaemons me (second.inOrder other) := by
    have considered' : me.considers after = true := standing.considered.trans considered
    have among : after ∈ (second.inOrder other).table.processes := standing.there
    exact (mem_findOrphanDaemons_iff among (named.trans standing.pid.symm)).mpr
      ⟨considered', same.trans reported⟩
  refine List.mem_map.mpr ⟨orphan, List.mem_filter.mpr ⟨accused, ?_⟩, named⟩
  exact List.any_eq_true.mpr ⟨orphan, again, by simp⟩

/-- A process that stays unregistered is always killed exactly where there is no choice of what to report. -/
theorem alwaysReaped_iff (standing : Standing me before after first second) :
    AlwaysReaped me before after first second ↔ Unmistakable first before := by
  constructor
  · intro always
    by_contra mistakable
    rw [Unmistakable, not_or] at mistakable
    obtain ⟨registered, several⟩ := mistakable
    -- The process is not registered, so every order makes it a suspect.
    have unregistered : ∀ path ∈ first.table.seenPaths before,
        first.dirs.registered path ≠ some before.pid :=
      fun path among named => registered ⟨path, among, named⟩
    -- Two paths may be reported, and each scan can come to another one of them.
    have distinct : (reportable (first.table.seenPaths before)).Nodup := by
      have seen : (first.table.seenPaths before).Nodup := List.nodup_dedup _
      unfold reportable
      split
      · exact seen.filter _
      · exact seen
    obtain ⟨path, mayBe, other, mayBe', differ⟩ := exists_ne_of_one_lt_length distinct
      (Nat.lt_of_not_le several)
    have reported := classify_reporting mayBe unregistered
    have reported' := classify_reporting ((mem_reportable_perm standing.paths other).mpr mayBe')
      (standing.unregistered unregistered)
    -- With one order for the first scan and another for the second, both would have to report the same path.
    have same := (always (.reporting path) (.reporting other)).1
    have both := (reported'.symm.trans same).trans reported
    exact differ (OrphanDaemon.mk.inj (Option.some.inj both)).2.1.symm
  · intro unmistakable one other
    have same := standing.verdict_eq unmistakable one other
    exact ⟨same, standing.reaped_of_verdict_eq same⟩

/-- A daemon under a control socket of its own choosing, with one session. -/
def customDaemon : Process :=
  { registeredDaemon with links := [utf8 "socket:[31337]", utf8 "socket:[31338]"] }

/-- Its two sockets in the kernel's table. -/
def customTable : ProcessTable where
  processes := [customDaemon]
  sockets :=
    [ listeningSocket "/g/work.sock",
      { listeningSocket "/g/svc-0.sock" with inode := 31338, small := by decide } ]
  distinct := List.nodup_singleton customDaemon.pid
  distinctSockets := by decide

-- The table is small enough to be evaluated.
theorem customTable_seenPaths : customTable.seenPaths customDaemon =
    [components (utf8 "/g/work.sock"), components (utf8 "/g/svc-0.sock")] := by decide +kernel

/-- A scan of that table when the daemon is registered nowhere. -/
def customScan : Scan := ⟨customTable, .empty, .reporting []⟩

theorem refl (me : Scanner) {process : Process} {scan : Scan}
    (among : process ∈ scan.table.processes) : Standing me process process scan scan where
  here := among
  there := among
  pid := rfl
  considered := rfl
  paths := List.Perm.refl _
  pidFile _ _ := rfl
  socketFile _ _ := rfl

theorem alwaysReaped_iff_customDaemon :
    AlwaysReaped ⟨1, 1000⟩ customDaemon customDaemon customScan customScan ↔
      Unmistakable customScan customDaemon :=
  alwaysReaped_iff (refl ⟨1, 1000⟩ List.mem_cons_self)

/-- A daemon that stays unregistered is reported under one socket by one scan and under the other by the next. -/
theorem customDaemon_spared : ¬ ∀ (me : Scanner) (before after : Process) (first second : Scan),
    Standing me before after first second → AlwaysReaped me before after first second := by
  intro always
  have standing : Standing ⟨1, 1000⟩ customDaemon customDaemon customScan customScan :=
    refl ⟨1, 1000⟩ List.mem_cons_self
  -- Neither socket is in the place where the daemon's control socket would be looked for.
  have mayBe : ∀ path ∈ [components (utf8 "/g/work.sock"), components (utf8 "/g/svc-0.sock")],
      path ∈ reportable (customTable.seenPaths customDaemon) := by
    rw [customTable_seenPaths]
    decide +kernel
  have unregistered : ∀ seen ∈ customTable.seenPaths customDaemon,
      SocketDirs.empty.registered seen ≠ some customDaemon.pid :=
    fun seen _ => by simp [SocketDirs.registered_empty]
  have reported := classify_reporting (mayBe _ List.mem_cons_self) unregistered
  have reported' := classify_reporting (mayBe (components (utf8 "/g/svc-0.sock")) (by simp))
    unregistered
  have same := (always _ _ _ _ _ standing (.reporting (components (utf8 "/g/work.sock")))
    (.reporting (components (utf8 "/g/svc-0.sock")))).1
  -- The two reports differ in the path, although the process is the same.
  have both := (reported'.symm.trans same).trans reported
  exact absurd (OrphanDaemon.mk.inj (Option.some.inj both)).2.1 (by decide +kernel)

end Standing

end Gritty
