import Gritty.Transfer.UniqueNames

/-! What a sender offers: the files it finds, under the names it gives them. -/

namespace Gritty

mutual

/-- A node of a directory tree, as the directory's listing shows it. -/
inductive FsNode where
  | file (size : UInt64) (mode : UInt32)
  | dir (listing : FsListing)
  /-- A directory that cannot be opened. -/
  | unreadable (reason : String)
  | symlink
  /-- A device, a socket or a pipe. -/
  | other

/-- The entries of a directory, in the order the system lists them. -/
inductive FsListing where
  | done
  /-- The rest of the listing cannot be read. -/
  | failed (reason : String)
  | entry (name : Bytes) (isName : IsName name) (noNul : 0 ∉ name) (node : FsNode)
      (later : FsListing)

end

/-- What the system says about paths. -/
structure FileSystem where
  /-- What a path names once symbolic links are followed, or why that cannot be told. -/
  metadata : Bytes → Except String FsNode
  canonicalize : Bytes → Option Bytes
  /-- No path with a NUL byte names anything. -/
  noNul : ∀ path node, metadata path = .ok node → 0 ∉ path
  /-- The path of a regular file ends in a name. -/
  fileNamed : ∀ path size mode, metadata path = .ok (.file size mode) → (fileName path).isSome

/-- The wire name of a file below a base directory. -/
def relativeName (base : List Component) (path : Bytes) : String :=
  joinNames ((stripPrefix base (components path)).filterMap Component.text)

mutual

/-- What one entry of a directory adds to the files that are found. Links are not followed. -/
def walkEntry (path : Bytes) (base : List Component) : FsNode → Except String (List SendEntry)
  | .file size mode => .ok [{ name := relativeName base path, size, mode, path }]
  | .dir listing => walkDir path base listing
  | .unreadable reason => .error s!"{toStringLossy path}: {reason}"
  | .symlink => .ok []
  | .other => .ok []

/-- Collect the regular files of a directory, with paths relative to a base. -/
def walkDir (dir : Bytes) (base : List Component) : FsListing → Except String (List SendEntry)
  | .done => .ok []
  | .failed reason => .error reason
  | .entry name _ _ node later => do
    let here ← walkEntry (joinPath dir name) base node
    let rest ← walkDir dir base later
    return here ++ rest

end

/-- The entries for one argument. -/
def gatherPath (fs : FileSystem) (recursive : Bool) (path : Bytes) :
    Except String (List SendEntry) :=
  match fs.metadata path with
  | .error reason => .error s!"{toStringLossy path}: {reason}"
  | .ok (.file size mode) => do
    let basename ← sanitizeBasename (toStringLossy path)
    return [{ name := basename, size, mode, path }]
  | .ok (.dir listing) => gatherDir (.dir listing)
  | .ok (.unreadable reason) => gatherDir (.unreadable reason)
  | .ok _ => .error s!"{toStringLossy path}: not a regular file"
where
  /-- A directory is walked when that was asked for. -/
  gatherDir (node : FsNode) : Except String (List SendEntry) :=
    if recursive then walkEntry path ((parentPath path).getD []) node
    else .error (s!"{toStringLossy path}: is a directory (use -r to send recursively, " ++
      "or tar: tar czf - dir | gritty send -)")

/-- The entries for all arguments, in their order. -/
def gatherEntries (fs : FileSystem) (recursive : Bool) :
    List Bytes → Except String (List SendEntry)
  | [] => .ok []
  | path :: later => do
    let here ← gatherPath fs recursive path
    let rest ← gatherEntries fs recursive later
    return here ++ rest

/-- What `send` offers for a list of files. -/
def sendEntries (fs : FileSystem) (recursive : Bool) (files : List Bytes) :
    Except String (List SendEntry) := do
  if files.isEmpty then .error "provide files to send (use - for stdin)"
  else
    let entries ← gatherEntries fs recursive files
    if entries.isEmpty then .error "no files to send"
    else
      let uniq ← uniquifyWireNames fs.canonicalize entries
      return uniq.entries

/-! ### Everything found has a wire name -/

/-- An entry under a wire name, for a path the system knows. -/
def WellNamedEntry (entry : SendEntry) : Prop := WireName entry.name ∧ 0 ∉ entry.path

/-- A path that is joined of names without zero has no zero. -/
theorem noNul_joinPath {dir name : Bytes} (dirNoNul : 0 ∉ dir) (noNul : 0 ∉ name) :
    0 ∉ joinPath dir name := by
  unfold joinPath
  split_ifs
  · exact noNul
  · intro among
    rcases List.mem_append.mp among with inDir | inName
    · exact dirNoNul inDir
    · exact noNul inName
  · intro among
    rcases List.mem_append.mp among with inDir | later
    · exact dirNoNul inDir
    · rcases List.mem_cons.mp later with separator | inName
      · exact absurd separator (by decide)
      · exact noNul inName

/-- A file below a directory has a wire name relative to anything above it. -/
theorem wireName_relativeName {dir name : Bytes} {base : List Component} (isName : IsName name)
    (dirNoNul : 0 ∉ dir) (noNul : 0 ∉ name) (above : base.length ≤ (components dir).length) :
    WireName (relativeName base (joinPath dir name)) := by
  have cut := components_joinPath dir isName
  refine ⟨_, ?_, ?_, rfl⟩
  · -- Its own name is always among the components that are left.
    have kept : Component.normal name ∈ stripPrefix base (components (joinPath dir name)) := by
      rw [cut]
      unfold stripPrefix
      split_ifs
      · rw [List.drop_append_of_le_length above]
        exact List.mem_append_right _ List.mem_cons_self
      · exact List.mem_append_right _ List.mem_cons_self
    intro none_
    have gone := List.filterMap_eq_nil_iff.mp none_ _ kept
    cases gone
  · intro part among
    obtain ⟨component, there, text⟩ := List.mem_filterMap.mp among
    apply plain_text (noNul_joinPath dirNoNul noNul) _ text
    unfold stripPrefix at there
    split_ifs at there
    · exact List.mem_of_mem_drop there
    · exact there

theorem bind_eq_ok_of_except {α β : Type} {first : Except String α} {next : α → Except String β}
    {value : β} (ran : (first >>= next) = .ok value) :
    ∃ middle, first = .ok middle ∧ next middle = .ok value := by
  cases first with
  | error message => cases ran
  | ok middle => exact ⟨middle, rfl, ran⟩

mutual

/-- Every file at or below a path that is no file itself is found under a wire name. -/
theorem walkEntry_named (node : FsNode) (path : Bytes) (base : List Component)
    (entries : List SendEntry) (noNul : 0 ∉ path) (above : base.length ≤ (components path).length)
    (own : ∀ size mode, node = .file size mode → WireName (relativeName base path))
    (walked : walkEntry path base node = .ok entries) :
    ∀ entry ∈ entries, WellNamedEntry entry := by
  cases node with
  | file size mode =>
    obtain rfl := Except.ok.inj walked
    intro entry among
    rw [List.mem_singleton.mp among]
    exact ⟨own size mode rfl, noNul⟩
  | dir listing =>
    rw [walkEntry] at walked
    exact walkDir_named listing path base entries noNul above walked
  | unreadable reason =>
    rw [walkEntry] at walked
    cases walked
  | symlink =>
    obtain rfl := Except.ok.inj walked
    exact fun entry among => absurd among List.not_mem_nil
  | other =>
    obtain rfl := Except.ok.inj walked
    exact fun entry among => absurd among List.not_mem_nil

/-- Every file below a directory is found under a wire name. -/
theorem walkDir_named (listing : FsListing) (dir : Bytes) (base : List Component)
    (entries : List SendEntry) (dirNoNul : 0 ∉ dir) (above : base.length ≤ (components dir).length)
    (walked : walkDir dir base listing = .ok entries) :
    ∀ entry ∈ entries, WellNamedEntry entry := by
  cases listing with
  | done =>
    obtain rfl := Except.ok.inj walked
    exact fun entry among => absurd among List.not_mem_nil
  | failed reason =>
    rw [walkDir] at walked
    cases walked
  | entry name isName noNul node later =>
    rw [walkDir] at walked
    obtain ⟨here, found, walked⟩ := bind_eq_ok_of_except walked
    obtain ⟨rest, walkedRest, walked⟩ := bind_eq_ok_of_except walked
    obtain rfl := Except.ok.inj walked
    -- One level deeper the base is still above.
    have pathAbove : base.length ≤ (components (joinPath dir name)).length := by
      rw [components_joinPath dir isName, List.length_append]
      exact Nat.le_add_right_of_le above
    have hereNamed := walkEntry_named node (joinPath dir name) base here
      (noNul_joinPath dirNoNul noNul) pathAbove
      (fun _ _ _ => wireName_relativeName isName dirNoNul noNul above) found
    intro entry among
    rcases List.mem_append.mp among with first | others
    · exact hereNamed entry first
    · exact walkDir_named later dir base rest dirNoNul above walkedRest entry others

end

/-- The parent of a path has no more components than the path. -/
theorem parentPath_above (path : Bytes) :
    ((parentPath path).getD []).length ≤ (components path).length := by
  unfold parentPath
  split
  · exact Nat.zero_le _
  · rw [Option.getD_some, List.length_dropLast]
    exact Nat.sub_le _ _
  · exact Nat.zero_le _

/-- A regular file that was named as an argument travels under its file name. -/
theorem sanitizeBasename_of_fileName {path name : Bytes} {basename : String}
    (named : fileName path = some name)
    (sanitized : sanitizeBasename (toStringLossy path) = .ok basename) :
    basename = toStringLossy name := by
  have asText : fileName (utf8 (toStringLossy path)) = some (utf8 (toStringLossy name)) := by
    have moved := fileName_textOf path
    rw [named] at moved
    exact moved
  unfold sanitizeBasename at sanitized
  rw [asText] at sanitized
  dsimp only [Option.bind_some] at sanitized
  rw [fromUtf8_utf8, Option.getD_some] at sanitized
  split at sanitized
  · cases sanitized
  · exact (Except.ok.inj sanitized).symm

/-- Every file that an argument leads to is found under a wire name. -/
theorem gatherPath_named (fs : FileSystem) {recursive : Bool} {path : Bytes}
    {entries : List SendEntry} (gathered : gatherPath fs recursive path = .ok entries) :
    ∀ entry ∈ entries, WellNamedEntry entry := by
  -- A directory is walked from its own parent.
  have ofDir : ∀ node, fs.metadata path = .ok node → (∀ size mode, node ≠ .file size mode) →
      gatherPath.gatherDir recursive path node = .ok entries →
      ∀ entry ∈ entries, WellNamedEntry entry := by
    intro node found notFile walked
    unfold gatherPath.gatherDir at walked
    split at walked
    · exact walkEntry_named node path _ entries (fs.noNul path node found) (parentPath_above path)
        (fun size mode same => absurd same (notFile size mode)) walked
    · cases walked
  unfold gatherPath at gathered
  cases found : fs.metadata path with
  | error reason =>
    rw [found] at gathered
    cases gathered
  | ok node =>
    rw [found] at gathered
    cases node with
    | file size mode =>
      obtain ⟨basename, sanitized, gathered⟩ := bind_eq_ok_of_except gathered
      obtain rfl := Except.ok.inj gathered
      obtain ⟨name, named⟩ := Option.isSome_iff_exists.mp (fs.fileNamed path size mode found)
      have noNul := fs.noNul path _ found
      intro entry among
      rw [List.mem_singleton.mp among]
      refine ⟨⟨[toStringLossy name], List.cons_ne_nil _ _, ?_, ?_⟩, noNul⟩
      · intro part one
        rw [List.mem_singleton.mp one]
        have there : Component.normal name ∈ components path := by
          unfold fileName at named
          split at named
          · next last =>
            cases named
            exact List.mem_of_getLast? last
          · cases named
        exact plain_text noNul there rfl
      · rw [sanitizeBasename_of_fileName named sanitized]
        rfl
    | dir listing => exact ofDir _ found nofun gathered
    | unreadable reason => exact ofDir _ found nofun gathered
    | symlink => cases gathered
    | other => cases gathered

/-- Every entry that was gathered is well named. -/
theorem gatherEntries_named (fs : FileSystem) {recursive : Bool} {files : List Bytes}
    {entries : List SendEntry} (gathered : gatherEntries fs recursive files = .ok entries) :
    ∀ entry ∈ entries, WellNamedEntry entry := by
  induction files generalizing entries with
  | nil =>
    obtain rfl := Except.ok.inj gathered
    exact fun entry among => absurd among List.not_mem_nil
  | cons path later ih =>
    rw [gatherEntries] at gathered
    obtain ⟨here, found, gathered⟩ := bind_eq_ok_of_except gathered
    obtain ⟨rest, foundRest, gathered⟩ := bind_eq_ok_of_except gathered
    obtain rfl := Except.ok.inj gathered
    intro entry among
    rcases List.mem_append.mp among with first | others
    · exact gatherPath_named fs found entry first
    · exact ih foundRest entry others

/-- What is offered was found, and its names were made unique. -/
theorem sendEntries_eq_ok {fs : FileSystem} {recursive : Bool} {files : List Bytes}
    {entries : List SendEntry} (offered : sendEntries fs recursive files = .ok entries) :
    ∃ found uniq, gatherEntries fs recursive files = .ok found ∧ found ≠ [] ∧
      uniquifyWireNames fs.canonicalize found = .ok uniq ∧ uniq.entries = entries := by
  unfold sendEntries at offered
  split at offered
  · cases offered
  · obtain ⟨found, gathered, offered⟩ := bind_eq_ok_of_except offered
    split at offered
    · cases offered
    · next some_ =>
      obtain ⟨uniq, unique, offered⟩ := bind_eq_ok_of_except offered
      refine ⟨found, uniq, gathered, ?_, unique, Except.ok.inj offered⟩
      rintro rfl
      exact some_ rfl

/-- What is offered is not nothing, and goes under wire names. -/
theorem sendEntries_named {fs : FileSystem} {recursive : Bool} {files : List Bytes}
    {entries : List SendEntry} (offered : sendEntries fs recursive files = .ok entries) :
    entries ≠ [] ∧ ∀ entry ∈ entries, WireName entry.name := by
  obtain ⟨found, uniq, gathered, some_, unique, rfl⟩ := sendEntries_eq_ok offered
  exact uniquifyWireNames_named some_ (gatherEntries_named fs gathered) unique

/-! ### What the server takes of it -/

/-- The server parses the manifest of a list of entries as it was written, to its end. -/
def Taken (entries : List SendEntry) : Prop :=
  parseSenderManifest (writeSendManifest entries) =
    .ok { files := entries.map SendEntry.announced } []

/--
The server takes an offer exactly when it is not too large and its names are short and hold no
backslash.

Everything else that the server checks holds of every offer. Where the names that the files were
found under do not conflict, the offer is those files. An offer that is not taken is dropped with
an error, as long as its count and its lengths fit their fields.
-/
theorem offer_taken_iff {fs : FileSystem} {recursive : Bool} {files : List Bytes}
    {entries : List SendEntry} (offered : sendEntries fs recursive files = .ok entries) :
    (Taken entries ↔ entries.length ≤ 10000 ∧
      ∀ entry ∈ entries, (utf8 entry.name).length ≤ 4096 ∧ '\\' ∉ entry.name.toList) ∧
    (∃ found, gatherEntries fs recursive files = .ok found ∧
      (namesConflict (found.map (·.name)) = false → entries = found)) ∧
    (entries.length < 2 ^ 32 → (∀ entry ∈ entries, (utf8 entry.name).length < 2 ^ 16) →
      ¬Taken entries →
        ∃ reason left, parseSenderManifest (writeSendManifest entries) = .error reason left) := by
  obtain ⟨some_, wired⟩ := sendEntries_named offered
  have whole : writeSendManifest entries = writeSendManifest entries ++ [] :=
    (List.append_nil _).symm
  refine ⟨?_, ?_, ?_⟩
  · unfold Taken
    rw [whole, parseSenderManifest_iff]
    constructor
    · rintro ⟨-, few, nameable⟩
      refine ⟨few, ?_⟩
      intro entry among
      obtain ⟨short, accepted⟩ := nameable entry among
      exact ⟨short, (sanitizeFilename_eq_some.mp accepted).2.2.2.1⟩
    · rintro ⟨few, allowed⟩
      refine ⟨some_, few, ?_⟩
      intro entry among
      obtain ⟨short, noBackslash⟩ := allowed entry among
      exact ⟨short, (wired entry among).sanitizeFilename noBackslash⟩
  · obtain ⟨found, uniq, gathered, -, unique, rfl⟩ := sendEntries_eq_ok offered
    refine ⟨found, gathered, ?_⟩
    intro noConflict
    unfold uniquifyWireNames at unique
    rw [noConflict] at unique
    cases unique
    rfl
  · intro counted fits dropped
    rcases parseSenderManifest_dichotomy counted fits [] with parsed | refused
    · rw [← whole] at parsed
      exact absurd parsed dropped
    · rwa [← whole] at refused

/-- A directory with a file, a link and a further directory, and a file of the same name elsewhere. -/
def sourceTree : FileSystem where
  metadata := fun asked =>
    if asked = utf8 "src" then
      .ok (.dir (.entry (utf8 "a") ⟨by decide, by decide, by decide, by decide⟩ (by decide) (.file 2 0o644)
        (.entry (utf8 "link") ⟨by decide, by decide, by decide, by decide⟩ (by decide) .symlink
          (.entry (utf8 "lib") ⟨by decide, by decide, by decide, by decide⟩ (by decide)
            (.dir (.entry (utf8 "a") ⟨by decide, by decide, by decide, by decide⟩ (by decide) (.file 0 0o755) .done)) .done))))
    else if asked = utf8 "other/a" then .ok (.file 7 0o600)
    else if asked = utf8 "src/a" then .ok (.file 2 0o644)
    else .error "No such file or directory (os error 2)"
  canonicalize := fun asked => some (slash :: asked)
  noNul := by
    intro asked node found
    split_ifs at found with first second third
    · subst first; decide
    · subst second; decide
    · subst third; decide
  fileNamed := by
    intro asked size mode found
    split_ifs at found with dir file known
    · cases found
    · subst file; decide
    · subst known; decide

/-- The files of a directory and one from elsewhere are offered under their names and taken. -/
theorem offer_taken_sourceTree :
    Taken [⟨"src/a", 2, 0o644, utf8 "src/a"⟩, ⟨"src/lib/a", 0, 0o755, utf8 "src/lib/a"⟩,
      ⟨"a", 7, 0o600, utf8 "other/a"⟩] := by
  -- The link is passed over, and no two names are the same.
  have offered : sendEntries sourceTree true [utf8 "src", utf8 "other/a"] =
      .ok [⟨"src/a", 2, 0o644, utf8 "src/a"⟩, ⟨"src/lib/a", 0, 0o755, utf8 "src/lib/a"⟩,
        ⟨"a", 7, 0o600, utf8 "other/a"⟩] := by rfl
  exact (offer_taken_iff offered).1.mpr (by decide)

/-- A file system with one regular file. -/
def soleFile (path : Bytes) (named : (fileName path).isSome) (noNul : 0 ∉ path) : FileSystem where
  metadata := fun asked =>
    if asked = path then .ok (.file 1 0o644) else .error "No such file or directory (os error 2)"
  canonicalize := fun asked => if asked = path then some (slash :: path) else none
  noNul := by
    intro asked node found
    split at found
    · next same => rwa [same]
    · cases found
  fileNamed := by
    intro asked size mode found
    split at found
    · next same => rwa [same]
    · cases found

/-- A file whose name holds a backslash is offered under that name, and the server drops it. -/
theorem backslash_dropped :
    ¬ ∀ (fs : FileSystem) (recursive : Bool) (files : List Bytes) (entries : List SendEntry),
      sendEntries fs recursive files = .ok entries →
        ∃ manifest left, parseSenderManifest (writeSendManifest entries) = .ok manifest left := by
  intro taken
  obtain ⟨manifest, left, parsed⟩ := taken (soleFile [97, 92, 98] (by decide) (by decide)) false
    [[97, 92, 98]] [⟨"a\\b", 1, 0o644, [97, 92, 98]⟩] (by rfl)
  have refused : parseSenderManifest (writeSendManifest [⟨"a\\b", 1, 0o644, [97, 92, 98]⟩]) =
      .error (.refused (.invalidData "invalid filename")) [0, 0, 0, 0, 0, 0, 0, 1, 0, 0, 1, 164] := by
    rfl
  rw [refused] at parsed
  cases parsed

end Gritty
