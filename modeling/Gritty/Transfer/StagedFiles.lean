import Gritty.Transfer.ReceiveDir
import Gritty.Transfer.UniqueNames

/-! What a transfer leaves in the directory it is received in, and when the files' temporaries get in its way. -/

namespace Gritty

/-- Where a file of a transfer goes. -/
def ReceivedFile.storedAt (file : ReceivedFile) : List Bytes := (targetOf file.1.1).elim [] Target.path

/-- Where a file of a transfer is while it is received. -/
def ReceivedFile.stagedAt (file : ReceivedFile) : List Bytes :=
  (targetOf file.1.1).elim [] Target.tmpPath

/-- What is stored of a file of a transfer. -/
def ReceivedFile.stored (file : ReceivedFile) : StoredFile := storedAs file.1.2.2 file.2

/-- The files of a directory after one more was received: its temporary is gone, and it is in its place. -/
def ReceivedFile.putInto (files : List Bytes → Option StoredFile) (file : ReceivedFile) :
    List Bytes → Option StoredFile :=
  Function.update (Function.update files file.stagedAt none) file.storedAt (some file.stored)

/-- A temporary is not called like its file. -/
theorem Target.tmpPath_ne_path (target : Target) : target.tmpPath ≠ target.path := by
  intro same
  have last := List.append_cancel_left same
  have lengths := congrArg List.length (List.singleton_injective last)
  simp only [partialName, List.length_cons, List.length_append] at lengths
  omega

/-- A file that is received is put into the directory, and its name is one of a file. -/
theorem receiveFileToDir_files {tree next : DestDir} {file : ReceivedFile}
    (received : receiveFileToDir tree file.1 file.2 = .ok next) :
    next.files = ReceivedFile.putInto tree.files file ∧ file.stagedAt ≠ file.storedAt := by
  unfold receiveFileToDir at received
  cases goal : targetOf file.1.1 with
  | none => simp [goal] at received
  | some target =>
    simp only [goal] at received
    cases made : tree.createDirAll target.dir with
    | none => simp [made] at received
    | some roomy =>
      simp only [made] at received
      cases opened : roomy.write target.dir (partialName target.base)
          (storedAs file.1.2.2 file.2) with
      | none => simp [opened] at received
      | some staged =>
        simp only [opened] at received
        by_cases short : file.2.length < file.1.2.1.toNat
        · simp [short] at received
        rw [if_neg short] at received
        cases moved : staged.rename target.tmpPath target.dir target.base with
        | none => simp [moved] at received
        | some last =>
          simp only [moved, Except.ok.injEq] at received
          subst received
          have storedAt : file.storedAt = target.path := by simp [ReceivedFile.storedAt, goal]
          have stagedAt : file.stagedAt = target.tmpPath := by simp [ReceivedFile.stagedAt, goal]
          refine ⟨?_, by rw [storedAt, stagedAt]; exact target.tmpPath_ne_path⟩
          -- What is moved is what was just written, over all that was there.
          obtain ⟨there, found, files⟩ := FileTree.rename_files moved
          have written := FileTree.write_files opened
          have same : Target.tmpPath target = target.dir ++ [partialName target.base] := rfl
          rw [written, same, Function.update_self, Option.some.injEq] at found
          rw [files, written, same, Function.update_idem, FileTree.createDirAll_files made,
            ReceivedFile.putInto, storedAt, stagedAt, same, ← found]
          rfl

/-- A transfer that succeeds puts its files into the directory one after the other. -/
theorem receiveToDir_files {files : List ReceivedFile} {tree final : DestDir}
    (received : receiveToDir files tree = .ok final) :
    final.files = files.foldl ReceivedFile.putInto tree.files ∧
      ∀ file ∈ files, file.stagedAt ≠ file.storedAt := by
  unfold receiveToDir at received
  induction files generalizing tree with
  | nil =>
    obtain rfl : tree = final := Except.ok.inj received
    exact ⟨rfl, by simp⟩
  | cons file later ih =>
    rw [List.foldlM_cons] at received
    cases first : receiveFileToDir tree file.1 file.2 with
    | error failure => simp [first, bind, Except.bind] at received
    | ok middle =>
      obtain ⟨put, apart⟩ := receiveFileToDir_files first
      obtain ⟨rest, restApart⟩ := ih (by simpa [first, bind, Except.bind] using received)
      exact ⟨by rw [rest, put, List.foldl_cons], List.forall_mem_cons.mpr ⟨apart, restApart⟩⟩

/-- The directory holds exactly what was offered, and otherwise what it held. -/
structure ReceivesExactly (files : List ReceivedFile) (before after : DestDir) : Prop where
  present : ∀ file ∈ files, after.files file.storedAt = some file.stored
  untouched : ∀ path, (∀ file ∈ files, file.storedAt ≠ path) → after.files path = before.files path

/-- Every file that is received makes no use of a name that is another's: a later one may still take it, or nobody has it. -/
def TemporariesClear (before : List Bytes → Option StoredFile) (all : List ReceivedFile) :
    List ReceivedFile → Prop
  | [] => True
  | file :: later =>
    ((∃ other ∈ later, other.storedAt = file.stagedAt) ∨
      ((∀ other ∈ all, other.storedAt ≠ file.stagedAt) ∧ before file.stagedAt = none)) ∧
        TemporariesClear before all later

/-- Two files that go to the same place are the same. -/
def PlacesApart (files : List ReceivedFile) : Prop :=
  ∀ one ∈ files, ∀ other ∈ files, one.storedAt = other.storedAt → one.stored = other.stored

section Paths

variable {files later : List ReceivedFile} {file : ReceivedFile}
  {before : List Bytes → Option StoredFile} {path : List Bytes}

/-- A file changes its own place and its temporary's, and nothing else. -/
theorem putInto_other (notStored : file.storedAt ≠ path) (notStaged : file.stagedAt ≠ path) :
    ReceivedFile.putInto before file path = before path := by
  rw [ReceivedFile.putInto, Function.update_of_ne notStored.symm, Function.update_of_ne notStaged.symm]

/-- Where nothing is, and no file goes, nothing is after the transfer. -/
theorem foldl_putInto_none (empty : before path = none)
    (notStored : ∀ file ∈ files, file.storedAt ≠ path) :
    files.foldl ReceivedFile.putInto before path = none := by
  induction files generalizing before with
  | nil => exact empty
  | cons file later ih =>
    refine ih ?_ fun other member => notStored other (List.mem_cons_of_mem _ member)
    have here := notStored file List.mem_cons_self
    by_cases staged : file.stagedAt = path
    · rw [ReceivedFile.putInto, Function.update_of_ne here.symm, staged, Function.update_self]
    · rw [putInto_other here staged, empty]

/-- Where no file goes, not even for a while, the directory is as it was. -/
theorem foldl_putInto_other (notStored : ∀ file ∈ files, file.storedAt ≠ path)
    (notStaged : ∀ file ∈ files, file.stagedAt ≠ path) :
    files.foldl ReceivedFile.putInto before path = before path := by
  induction files generalizing before with
  | nil => rfl
  | cons file later ih =>
    rw [List.foldl_cons, ih (fun other member => notStored other (List.mem_cons_of_mem _ member))
      fun other member => notStaged other (List.mem_cons_of_mem _ member)]
    exact putInto_other (notStored file List.mem_cons_self) (notStaged file List.mem_cons_self)

/-- After a file's temporary was at a place that no later file goes to, nothing is there. -/
theorem foldl_putInto_staged (staged : file.stagedAt = path) (apart : file.stagedAt ≠ file.storedAt)
    (notStored : ∀ other ∈ later, other.storedAt ≠ path) :
    (file :: later).foldl ReceivedFile.putInto before path = none := by
  rw [List.foldl_cons]
  refine foldl_putInto_none ?_ notStored
  rw [ReceivedFile.putInto, Function.update_of_ne (staged ▸ apart), staged, Function.update_self]

/-- A place that some file goes to, and where every temporary makes way for a later file, has one of the files. -/
theorem foldl_putInto_stored (apart : ∀ file ∈ files, file.stagedAt ≠ file.storedAt)
    (goes : ∃ file ∈ files, file.storedAt = path)
    (yields : ∀ first file later, files = first ++ file :: later → file.stagedAt = path →
      ∃ other ∈ later, other.storedAt = path) :
    ∃ file ∈ files, file.storedAt = path ∧
      files.foldl ReceivedFile.putInto before path = some file.stored := by
  induction files generalizing before with
  | nil => simp at goes
  | cons file later ih =>
    by_cases again : ∃ other ∈ later, other.storedAt = path
    · obtain ⟨other, member, there, final⟩ := @ih (ReceivedFile.putInto before file)
        (fun other member => apart other (List.mem_cons_of_mem _ member)) again
        fun first other rest same => yields (file :: first) other rest (by rw [same]; rfl)
      exact ⟨other, List.mem_cons_of_mem _ member, there, final⟩
    · -- The first file is the last one to go there, and no temporary comes after it.
      have here : file.storedAt = path := by
        obtain ⟨other, member, there⟩ := goes
        rcases List.mem_cons.mp member with rfl | inside
        · exact there
        · exact absurd ⟨other, inside, there⟩ again
      have notStored : ∀ other ∈ later, other.storedAt ≠ path :=
        fun other member there => again ⟨other, member, there⟩
      have notStaged : ∀ other ∈ later, other.stagedAt ≠ path := by
        intro other member there
        obtain ⟨first, rest, rfl⟩ := List.append_of_mem member
        obtain ⟨last, inside, stored⟩ := yields (file :: first) other rest rfl there
        exact notStored last (by simp [inside]) stored
      refine ⟨file, List.mem_cons_self, here, ?_⟩
      rw [List.foldl_cons, foldl_putInto_other notStored notStaged, ReceivedFile.putInto, here,
        Function.update_self]

end Paths

/-- The place of a file with a wire name has the name's components. -/
theorem storedAt_joinNames {file : ReceivedFile} {parts : List String} (some_ : parts ≠ [])
    (plain : ∀ part ∈ parts, PlainName part) (named : file.1.1 = joinNames parts) :
    file.storedAt = parts.map utf8 := by
  have areNames : ∀ name ∈ parts.map utf8, IsName name := by
    intro name among
    obtain ⟨part, there, rfl⟩ := List.mem_map.mp among
    exact (plain part there).isName
  have nonempty : parts.map utf8 ≠ [] := by simpa using some_
  have cut : components (utf8 (joinNames parts)) = (parts.map utf8).map .normal := by
    rw [utf8_joinNames]
    exact components_intercalate nonempty areNames
  have pieces : (utf8 (joinNames parts)).splitOn slash = parts.map utf8 := by
    rw [utf8_joinNames]
    exact List.splitOn_intercalate slash (fun name among => (areNames name among).noSlash) nonempty
  have last := areNames _ (List.getLast_mem nonempty)
  have names : ((parts.map utf8).map Component.normal).filterMap Component.name? =
      parts.map utf8 := by
    rw [List.filterMap_map]
    exact List.filterMap_some
  have goal : targetOf file.1.1 =
      some { dir := (parts.map utf8).dropLast, base := (parts.map utf8).getLast nonempty } := by
    rw [targetOf, named, pieces, List.getLast?_eq_some_getLast nonempty, Option.bind_some,
      last.componentOf, cut, names]
  rw [ReceivedFile.storedAt, goal]
  exact List.dropLast_append_getLast nonempty

/-- Files with wire names of their own go to places of their own. -/
theorem placesApart_of_wireNames {files : List ReceivedFile}
    (wire : ∀ file ∈ files, WireName file.1.1) (distinct : (files.map (·.1.1)).Nodup) :
    PlacesApart files := by
  intro one here other there same
  obtain ⟨parts, some_, plain, named⟩ := wire one here
  obtain ⟨others, someOthers, plainOthers, namedOther⟩ := wire other there
  rw [storedAt_joinNames some_ plain named, storedAt_joinNames someOthers plainOthers namedOther]
    at same
  have parted : parts = others := List.map_injective_iff.mpr (fun _ _ => utf8_injective) same
  have names : one.1.1 = other.1.1 := by rw [named, namedOther, parted]
  rw [List.inj_on_of_nodup_map distinct here there names]

/-- Temporaries are clear if they are at every file of the transfer. -/
theorem temporariesClear_iff {before : List Bytes → Option StoredFile}
    {all files : List ReceivedFile} :
    TemporariesClear before all files ↔ ∀ first file later, files = first ++ file :: later →
      (∃ other ∈ later, other.storedAt = file.stagedAt) ∨
        ((∀ other ∈ all, other.storedAt ≠ file.stagedAt) ∧ before file.stagedAt = none) := by
  induction files with
  | nil => simp [TemporariesClear]
  | cons head rest ih =>
    rw [TemporariesClear, ih]
    constructor
    · rintro ⟨here, others⟩ first file later same
      cases first with
      | nil =>
        obtain ⟨rfl, rfl⟩ := List.cons.inj same
        exact here
      | cons front first =>
        exact others first file later (List.cons.inj same).2
    · intro every
      exact ⟨every [] head rest rfl,
        fun first file later same => every (head :: first) file later (by rw [same]; rfl)⟩

/-- A transfer that succeeds changes the directory exactly as offered if and only if every temporary is clear, and no two of its files go to one place. -/
theorem receivesExactly_iff {files : List ReceivedFile} {before after : DestDir}
    (received : receiveToDir files before = .ok after) :
    ReceivesExactly files before after ↔
      TemporariesClear before.files files files ∧ PlacesApart files := by
  obtain ⟨final, apart⟩ := receiveToDir_files received
  constructor
  · intro exactly
    refine ⟨temporariesClear_iff.mpr fun first file later same => ?_, fun one here other there same => ?_⟩
    · by_cases yields : ∃ other ∈ later, other.storedAt = file.stagedAt
      · exact Or.inl yields
      -- The temporary is moved away, and nothing comes to its place any more.
      have gone : after.files file.stagedAt = none := by
        rw [final, same, List.foldl_append]
        exact foldl_putInto_staged rfl (apart file (by simp [same]))
          fun other member stored => yields ⟨other, member, stored⟩
      have unused : ∀ other ∈ files, other.storedAt ≠ file.stagedAt := by
        intro other member stored
        have present := exactly.present other member
        rw [stored, gone] at present
        cases present
      exact Or.inr ⟨unused, exactly.untouched file.stagedAt unused ▸ gone⟩
    · have first := exactly.present one here
      rw [same, exactly.present other there] at first
      exact (Option.some.inj first).symm
  · rintro ⟨clear, places⟩
    have clear := temporariesClear_iff.mp clear
    refine ⟨fun file member => ?_, fun path unused => ?_⟩
    · -- Whatever comes to the file's place last is the file, or one like it.
      have yields : ∀ first other later, files = first ++ other :: later →
          other.stagedAt = file.storedAt → ∃ last ∈ later, last.storedAt = file.storedAt := by
        intro first other later same staged
        rcases clear first other later same with later | ⟨unused, _⟩
        · exact staged ▸ later
        · exact absurd staged.symm (unused file member)
      obtain ⟨last, among, there, stored⟩ :=
        @foldl_putInto_stored _ before.files _ apart ⟨file, member, rfl⟩ yields
      rw [final, stored, places last among file member there]
    · rw [final]
      by_cases staged : ∃ file ∈ files, file.stagedAt = path
      · obtain ⟨file, member, rfl⟩ := staged
        obtain ⟨first, later, same⟩ := List.append_of_mem member
        rcases clear first file later same with ⟨other, inside, stored⟩ | ⟨_, empty⟩
        · exact absurd stored (unused other (by simp [same, inside]))
        · rw [empty]
          exact foldl_putInto_none empty unused
      · exact foldl_putInto_other unused fun file member there => staged ⟨file, member, there⟩

/-- A nested file and another one beside its directory are received as offered. -/
theorem receivesExactly_nested : ∃ after,
    receiveToDir [(("d/a", 1, 0o600), [7]), (("b", 2, 0), [8, 9])] .empty = .ok after ∧
      ReceivesExactly [(("d/a", 1, 0o600), [7]), (("b", 2, 0), [8, 9])] .empty after := by
  cases received : receiveToDir [(("d/a", 1, 0o600), [7]), (("b", 2, 0), [8, 9])] .empty with
  | error failure =>
    have succeeds :
        (receiveToDir [(("d/a", 1, 0o600), [7]), (("b", 2, 0), [8, 9])] .empty).isOk = true := by
      decide +kernel
    rw [received] at succeeds
    cases succeeds
  | ok after =>
    refine ⟨after, rfl, (receivesExactly_iff received).mpr ⟨⟨?_, ?_, trivial⟩, ?_⟩⟩
    · exact Or.inr ⟨by decide +kernel, rfl⟩
    · exact Or.inr ⟨by decide +kernel, rfl⟩
    · unfold PlacesApart
      decide +kernel

/-- A file that is called like the temporary of a later one is lost. -/
theorem staged_file_lost : ¬ ∀ (files : List ReceivedFile) (before after : DestDir),
    namesConflict (files.map (·.1.1)) = false → receiveToDir files before = .ok after →
      ReceivesExactly files before after := by
  intro all
  have lost : (receiveToDir [((".x.gritty-partial", 1, 0), [1]), (("x", 1, 0), [2])] .empty).toOption.any
      (fun after => (after.files [utf8 ".x.gritty-partial"]).isNone) = true := by
    decide +kernel
  obtain ⟨after, ran, gone⟩ := (Option.any_eq_true _ _).mp lost
  cases received :
      receiveToDir [((".x.gritty-partial", 1, 0), [1]), (("x", 1, 0), [2])] .empty with
  | error failure =>
    rw [received] at ran
    cases ran
  | ok final =>
    rw [received] at ran
    obtain rfl : final = after := Option.some.inj ran
    have exactly := all _ _ _ (by decide +kernel) received
    have there := exactly.present ((".x.gritty-partial", 1, 0), [1]) List.mem_cons_self
    have place : ReceivedFile.storedAt ((".x.gritty-partial", 1, 0), [1]) =
        [utf8 ".x.gritty-partial"] := by decide +kernel
    rw [place] at there
    rw [there] at gone
    cases gone

end Gritty
