import Gritty.Daemon.SocketDir

/-! What the doctor makes of the files in the socket directory, and which of them it removes. -/

namespace Gritty

/-- How a check went. -/
inductive CheckStatus where
  | ok
  | warn
  | fail
  deriving DecidableEq

/-- A finding of the doctor. -/
structure Check where
  status : CheckStatus
  message : Text
  hint : Option Text := none
  deriving DecidableEq

def Check.ok (message : Text) : Check := { status := .ok, message }

def Check.warn (message : Text) : Check := { status := .warn, message }

def Check.withHint (check : Check) (hint : Text) : Check := { check with hint := some hint }

/-- Names that are in the directory once, as they are. -/
def fixedNames : List Text :=
  ["ctl.sock".toList, "daemon.pid".toList, "daemon.info".toList, "gritty-open".toList]

/-- The endings of the files of a tunnel. -/
def sidecarExts : List Text :=
  ["sock".toList, "pid".toList, "info".toList, "lock".toList, "dest".toList, "ssh-opts".toList,
    "remote-sock".toList, "log".toList, "out".toList, "kick".toList]

/-- Whether one text is a part of another. -/
def containsText (text part : Text) : Bool := text.tails.any fun rest => part.isPrefixOf rest

/-- The name of the socket that a lock goes with, or the name itself. -/
def lockedName (name : Text) : Text := (".bindlock".toList.isSuffixOf? name).getD name

/-- Whether this version of gritty writes files of a name that is no lock's. -/
def isKnownBase (name : Text) : Bool :=
  if fixedNames.contains name then true
  else if "daemon.log".toList.isPrefixOf name || "daemon.out".toList.isPrefixOf name then true
  else if "client.log".toList.isPrefixOf name then true
  else match (("agent-".toList.isPrefixOf? name).or ("svc-".toList.isPrefixOf? name)).bind fun rest =>
      ".sock".toList.isSuffixOf? rest with
    | some id => !id.isEmpty && id.all (·.isDigit)
    | none =>
      if "fwd-".toList.isPrefixOf name && ".sock".toList.isSuffixOf name then true
      else match "connect-".toList.isPrefixOf? name with
        | some rest =>
          ((splitAtLast '.' rest).any fun parts => sidecarExts.contains parts.2) ||
            (containsText rest ".log".toList || containsText rest ".out".toList)
        | none => false

/-- Whether this version of gritty writes files of that name. -/
def isKnownArtifact (name : Text) : Bool := isKnownBase (lockedName name)

/-- What there is under a name: a socket is in use if something accepts connections on it. -/
inductive FileKind where
  | directory
  | socket (inUse : Bool)
  | other
  deriving DecidableEq

/-- What the doctor finds under the names, and how removing a file ends. -/
structure FileProbe where
  stat : Text → Option FileKind
  removeError : Text → Option Text

/-- One file of an unknown name: what is said about it, and whether it is removed. -/
def checkUnknownFile (probe : FileProbe) (clean : Bool) (name : Text) : List Check × List Text :=
  match probe.stat name with
  | none => ([], [])
  | some .directory =>
    ([.warn ("unknown directory: ".toList ++ name ++ " (not removing)".toList)], [])
  | some (.socket true) =>
    ([.warn ("unknown socket in use: ".toList ++ name ++ " (not removing)".toList)], [])
  | some _ =>
    if !clean then
      ([(Check.warn ("unknown file: ".toList ++ name)).withHint
        "gritty doctor --clean removes it".toList], [])
    else match probe.removeError name with
      | none => ([.ok ("removed unknown file: ".toList ++ name)], [name])
      | some error =>
        ([.warn ("could not remove ".toList ++ name ++ ": ".toList ++ error)], [])

/-- The names that no version of gritty is known to write, and that are not the control socket's. -/
def unknownNames (ctlName : Option Text) (names : List Text) : List Text :=
  (names.filter fun name => some (lockedName name) != ctlName && !isKnownArtifact name).mergeSort
    fun first second => decide (first ≤ second)

/-- The scan for unknown files: the findings, and the files that were removed. -/
def checkUnknownFiles (probe : FileProbe) (ctlName : Option Text) (clean : Bool)
    (names : List Text) : List Check × List Text :=
  let found := (unknownNames ctlName names).map (checkUnknownFile probe clean)
  (found.flatMap (·.1), found.flatMap (·.2))

/-- Whether a socket is one that nothing uses any more. -/
def isOrphaned (liveIds : List UInt32) (inUse : Text → Bool) (name : Text) : Bool :=
  if !".sock".toList.isSuffixOf name then false
  else if name = "ctl.sock".toList ∨ "connect-".toList.isPrefixOf name then false
  else match (("agent-".toList.isPrefixOf? name).or ("svc-".toList.isPrefixOf? name)).bind fun rest =>
      ".sock".toList.isSuffixOf? rest with
    | some id =>
      match parseBelow (2 ^ 32) id with
      | some number => !liveIds.contains (UInt32.ofNat number)
      | none => false
    | none => "fwd-".toList.isPrefixOf name && !inUse name

/-- The sockets that are reported as left over. -/
def checkSockets (liveIds : List UInt32) (inUse : Text → Bool) (names : List Text) : List Text :=
  (names.filter (isOrphaned liveIds inUse)).mergeSort fun first second => decide (first ≤ second)

/-! ### Known names -/

/-- The artifact that a file is, or that it is the lock of. -/
def StateFile.base : StateFile → Artifact
  | .artifact file => file
  | .bindLock socket _ => socket

/-- The name that a lock goes with is that of its file's base. -/
theorem lockedName_name (file : StateFile) : lockedName file.name = file.base.name := by
  unfold lockedName
  cases file with
  | artifact file =>
    have none_ : ".bindlock".toList.isSuffixOf? file.name = none := by
      refine Option.eq_none_iff_forall_ne_some.mpr fun stem found => ?_
      exact file.not_bindLock stem (List.isSuffixOf?_eq_some_iff_append_eq.mp found).symm
    show (".bindlock".toList.isSuffixOf? file.name).getD file.name = file.name
    rw [none_, Option.getD_none]
  | bindLock socket bound =>
    have base : ".bindlock".toList.isSuffixOf? (StateFile.bindLock socket bound).name =
        some socket.name := List.isSuffixOf?_eq_some_iff_append_eq.mpr rfl
    rw [base, Option.getD_some]
    rfl

/-- What is left of the name of a session's socket. -/
theorem sessionSocket_digits (front : Text) (id : UInt32) :
    (front.isPrefixOf? (front ++ (idText id ++ ".sock".toList))).bind
      (fun rest => ".sock".toList.isSuffixOf? rest) = some (idText id) :=
  cut_eq_some.mpr rfl

theorem idText_known (id : UInt32) : (!(idText id).isEmpty && (idText id).all (·.isDigit)) = true := by
  rw [Bool.and_eq_true, List.all_eq_true]
  refine ⟨?_, fun char among => isDigit_of_mem_idText among⟩
  rw [Bool.not_eq_true', List.isEmpty_eq_false_iff]
  exact Nat.toDigits_ne_nil

theorem SidecarKind.ext_listed (kind : SidecarKind) : sidecarExts.contains kind.ext = true := by
  cases kind <;> decide

/-- Every file of the directory has a known name. -/
theorem isKnownBase_name (artifact : Artifact) : isKnownBase artifact.name = true := by
  cases artifact with
  | ctl => rfl
  | daemonPid => rfl
  | daemonInfo => rfl
  | daemonLog => rfl
  | daemonOut => rfl
  | clientLog => rfl
  | grittyOpen => rfl
  | agent id =>
    -- The number between the prefix and the ending is read as one.
    have digits : (("agent-".toList.isPrefixOf? (Artifact.agent id).name).or
        ("svc-".toList.isPrefixOf? (Artifact.agent id).name)).bind
          (fun rest => ".sock".toList.isSuffixOf? rest) = some (idText id) :=
      sessionSocket_digits "agent-".toList id
    unfold isKnownBase
    rw [digits]
    simp only [idText_known]
    split_ifs <;> rfl
  | svc id =>
    have digits : (("agent-".toList.isPrefixOf? (Artifact.svc id).name).or
        ("svc-".toList.isPrefixOf? (Artifact.svc id).name)).bind
          (fun rest => ".sock".toList.isSuffixOf? rest) = some (idText id) :=
      sessionSocket_digits "svc-".toList id
    unfold isKnownBase
    rw [digits]
    simp only [idText_known]
    split_ifs <;> rfl
  | forward host id =>
    -- The name has neither prefix of a session's sockets.
    have other : (("agent-".toList.isPrefixOf? (Artifact.forward host id).name).or
        ("svc-".toList.isPrefixOf? (Artifact.forward host id).name)).bind
          (fun rest => ".sock".toList.isSuffixOf? rest) = none := rfl
    have fits : ("fwd-".toList.isPrefixOf (Artifact.forward host id).name &&
        ".sock".toList.isSuffixOf (Artifact.forward host id).name) = true := by
      rw [Bool.and_eq_true, List.isPrefixOf_iff_prefix, List.isSuffixOf_iff_suffix]
      exact ⟨⟨_, rfl⟩, "fwd-".toList ++ (host ++ '-' :: idText id), by
        show _ = "fwd-".toList ++ (host ++ '-' :: idText id ++ ".sock".toList)
        simp only [List.append_assoc]⟩
    unfold isKnownBase
    rw [other]
    simp only [fits, if_true]
    split_ifs <;> rfl
  | sidecar connectionName kind =>
    have other : (("agent-".toList.isPrefixOf? (Artifact.sidecar connectionName kind).name).or
        ("svc-".toList.isPrefixOf? (Artifact.sidecar connectionName kind).name)).bind
          (fun rest => ".sock".toList.isSuffixOf? rest) = none := rfl
    -- Behind the prefix, what follows the last dot is the kind of the file.
    have rest : "connect-".toList.isPrefixOf? (Artifact.sidecar connectionName kind).name =
        some (connectionName ++ '.' :: kind.ext) := List.isPrefixOf?_eq_some_iff_append_eq.mpr rfl
    have split : splitAtLast '.' (connectionName ++ '.' :: kind.ext) =
        some (connectionName, kind.ext) := splitAtLast_eq_some.mpr ⟨rfl, kind.ext_plain⟩
    unfold isKnownBase
    rw [other]
    simp only [rest, split, Option.any_some, kind.ext_listed, Bool.true_or]
    split_ifs <;> rfl

/-- Every file gritty writes is known to it. -/
theorem isKnownArtifact_name (file : StateFile) : isKnownArtifact file.name = true := by
  unfold isKnownArtifact
  rw [lockedName_name]
  exact isKnownBase_name file.base

/-- The logs that something outside of gritty may rotate. -/
inductive IsLog : Text → Prop where
  | daemon : IsLog Artifact.daemonLog.name
  | daemonOut : IsLog Artifact.daemonOut.name
  | client : IsLog Artifact.clientLog.name
  | tunnel (connectionName : Text) : IsLog (Artifact.sidecar connectionName .log).name
  | tunnelOut (connectionName : Text) : IsLog (Artifact.sidecar connectionName .out).name

theorem containsText_middle (front part back : Text) :
    containsText (front ++ (part ++ back)) part = true := by
  unfold containsText
  rw [List.any_eq_true]
  refine ⟨part ++ back, (List.mem_tails _ _).mpr ⟨front, rfl⟩, ?_⟩
  rw [List.isPrefixOf_iff_prefix]
  exact List.prefix_append part back

/-- A name in a tunnel's files that has an ending of a log in the middle. -/
theorem isKnownBase_rotated (connectionName ext : Text) {part : Text}
    (isLog : part = ".log".toList ∨ part = ".out".toList) :
    isKnownBase ("connect-".toList ++ (connectionName ++ (part ++ ext))) = true := by
  have other : (("agent-".toList.isPrefixOf?
      ("connect-".toList ++ (connectionName ++ (part ++ ext)))).or
      ("svc-".toList.isPrefixOf? ("connect-".toList ++ (connectionName ++ (part ++ ext))))).bind
        (fun rest => ".sock".toList.isSuffixOf? rest) = none := rfl
  have rest : "connect-".toList.isPrefixOf?
      ("connect-".toList ++ (connectionName ++ (part ++ ext))) =
        some (connectionName ++ (part ++ ext)) := List.isPrefixOf?_eq_some_iff_append_eq.mpr rfl
  have found : (containsText (connectionName ++ (part ++ ext)) ".log".toList ||
      containsText (connectionName ++ (part ++ ext)) ".out".toList) = true := by
    rcases isLog with rfl | rfl
    · rw [containsText_middle, Bool.true_or]
    · rw [containsText_middle connectionName ".out".toList ext, Bool.or_true]
  unfold isKnownBase
  rw [other]
  simp only [rest, found, Bool.or_true]
  split_ifs <;> rfl

/-- The last letter of a log's name, which is in no ending of a lock. -/
theorem IsLog.getLast {log : Text} (isLog : IsLog log) :
    log.getLast? = some 'g' ∨ log.getLast? = some 't' := by
  have ending (front name part : Text) (last : Char) (ends : part.getLast? = some last) :
      (front ++ (name ++ part)).getLast? = some last := by
    rw [List.getLast?_append, List.getLast?_append, ends]
    rfl
  cases isLog with
  | daemon => exact Or.inl rfl
  | daemonOut => exact Or.inr rfl
  | client => exact Or.inl rfl
  | tunnel connectionName => exact Or.inl (ending "connect-".toList connectionName ".log".toList 'g' rfl)
  | tunnelOut connectionName =>
    exact Or.inr (ending "connect-".toList connectionName ".out".toList 't' rfl)

/-- Without the ending of a lock, what is behind a log's name is still behind it. -/
theorem IsLog.lockedName {log : Text} (isLog : IsLog log) (ext : Text) :
    ∃ rest, Gritty.lockedName (log ++ ext) = log ++ rest := by
  unfold Gritty.lockedName
  cases found : ".bindlock".toList.isSuffixOf? (log ++ ext) with
  | none => exact ⟨ext, rfl⟩
  | some stem =>
    have same : stem ++ ".bindlock".toList = log ++ ext := List.isSuffixOf?_eq_some_iff_append_eq.mp found
    rcases List.append_eq_append_iff.mp same with ⟨middle, cut, ending⟩ | ⟨rest, behind, -⟩
    · -- The ending begins behind the name, since no letter of it ends the name.
      rcases List.eq_nil_or_concat middle with rfl | ⟨front, last, rfl⟩
      · exact ⟨[], by rw [cut, List.append_nil, Option.getD_some, List.append_nil]⟩
      · have among : last ∈ ".bindlock".toList := by
          rw [ending]
          simp
        have ends : log.getLast? = some last := by
          rw [cut, List.concat_eq_append, ← List.append_assoc, List.getLast?_concat]
        rcases isLog.getLast with letter | letter
        · obtain rfl := Option.some.inj (ends.symm.trans letter)
          exact absurd among (by decide)
        · obtain rfl := Option.some.inj (ends.symm.trans letter)
          exact absurd among (by decide)
    · exact ⟨rest, behind⟩

/-- What a rotation makes of a log is known too, whatever it puts behind the name. -/
theorem isKnownArtifact_rotated {log : Text} (isLog : IsLog log) (ext : Text) :
    isKnownArtifact (log ++ ext) = true := by
  obtain ⟨rest, base⟩ := isLog.lockedName ext
  unfold isKnownArtifact
  rw [base]
  cases isLog with
  | daemon => rfl
  | daemonOut => rfl
  | client => rfl
  | tunnel connectionName =>
    have shape : (Artifact.sidecar connectionName .log).name ++ rest =
        "connect-".toList ++ (connectionName ++ (".log".toList ++ rest)) := by
      show "connect-".toList ++ (connectionName ++ ".log".toList) ++ rest = _
      simp only [List.append_assoc]
    rw [shape]
    exact isKnownBase_rotated connectionName _ (Or.inl rfl)
  | tunnelOut connectionName =>
    have shape : (Artifact.sidecar connectionName .out).name ++ rest =
        "connect-".toList ++ (connectionName ++ (".out".toList ++ rest)) := by
      show "connect-".toList ++ (connectionName ++ ".out".toList) ++ rest = _
      simp only [List.append_assoc]
    rw [shape]
    exact isKnownBase_rotated connectionName _ (Or.inr rfl)

/-! ### What is removed -/

/-- A name is unknown exactly if it is in the directory, is not the control socket's, and is no known file's. -/
theorem mem_unknownNames {ctlName : Option Text} {names : List Text} {name : Text} :
    name ∈ unknownNames ctlName names ↔
      name ∈ names ∧ some (lockedName name) ≠ ctlName ∧ isKnownArtifact name = false := by
  unfold unknownNames
  rw [List.mem_mergeSort, List.mem_filter, Bool.and_eq_true, bne_iff_ne, Bool.not_eq_true']

/-- A file is removed only by a scan that cleans, and never a directory or a socket in use. -/
theorem removed_cases {probe : FileProbe} {clean : Bool} {name removed : Text}
    (gone : removed ∈ (checkUnknownFile probe clean name).2) :
    removed = name ∧ clean = true ∧
      (probe.stat name = some .other ∨ probe.stat name = some (.socket false)) := by
  unfold checkUnknownFile at gone
  split at gone
  · cases gone
  · cases gone
  · cases gone
  · next kind notDirectory notUsed found =>
    split at gone
    · cases gone
    · next cleans =>
      split at gone
      · have cleaning : clean = true := by simpa using cleans
        refine ⟨List.mem_singleton.mp gone, cleaning, ?_⟩
        -- What is neither a directory nor a socket in use is one of the two other kinds.
        cases kind with
        | directory => exact absurd rfl notDirectory
        | socket inUse =>
          cases inUse with
          | true => exact absurd rfl notUsed
          | false => exact Or.inr found
        | other => exact Or.inl found
      · cases gone

/-- A file is removed only if it is unknown, cleaning was asked for, and it is no socket that answers. -/
theorem mem_removed {probe : FileProbe} {ctlName : Option Text} {clean : Bool} {names : List Text}
    {name : Text} (gone : name ∈ (checkUnknownFiles probe ctlName clean names).2) :
    name ∈ unknownNames ctlName names ∧ clean = true ∧
      (probe.stat name = some .other ∨ probe.stat name = some (.socket false)) := by
  obtain ⟨found, among, there⟩ := List.mem_flatMap.mp gone
  obtain ⟨one, unknown, rfl⟩ := List.mem_map.mp among
  obtain ⟨rfl, rest⟩ := removed_cases there
  exact ⟨unknown, rest⟩

/-! ### Sockets that are left over -/

/-- A name with another ending is no socket's. -/
theorem sockSuffix_false {stem ext : Text} (plain : '.' ∉ ext) (other : ext ≠ "sock".toList) :
    ".sock".toList.isSuffixOf (stem ++ '.' :: ext) = false := by
  rw [Bool.eq_false_iff]
  intro ends
  obtain ⟨front, same⟩ := List.isSuffixOf_iff_suffix.mp ends
  have cut : front ++ '.' :: "sock".toList = stem ++ '.' :: ext := same
  exact other (ext_unique (by decide) plain cut).2.symm

theorem isOrphaned_of_not_socket {liveIds : List UInt32} {inUse : Text → Bool} {name : Text}
    (notSocket : ".sock".toList.isSuffixOf name = false) :
    isOrphaned liveIds inUse name = false := by
  unfold isOrphaned
  rw [notSocket]
  rfl

/-- A name that starts otherwise is that of no control socket. -/
theorem not_control {name : Text} {first : Char} (starts : name.head? = some first)
    (other : first ≠ 'c') :
    ¬ (name = "ctl.sock".toList ∨ "connect-".toList.isPrefixOf name = true) := by
  rintro (rfl | connects)
  · exact other (Option.some.inj starts).symm
  · obtain ⟨rest, rfl⟩ := List.isPrefixOf_iff_prefix.mp connects
    exact other (Option.some.inj starts).symm

/-- The socket of a session is left over exactly if the session is not there. -/
theorem isOrphaned_session {liveIds : List UInt32} {inUse : Text → Bool} {name : Text} {id : UInt32}
    (sock : ".sock".toList.isSuffixOf name = true)
    (other : ¬ (name = "ctl.sock".toList ∨ "connect-".toList.isPrefixOf name = true))
    (digits : (("agent-".toList.isPrefixOf? name).or ("svc-".toList.isPrefixOf? name)).bind
      (fun rest => ".sock".toList.isSuffixOf? rest) = some (idText id)) :
    isOrphaned liveIds inUse name = true ↔ id ∉ liveIds := by
  have read : (match parseBelow (2 ^ 32) (idText id) with
      | some number => !liveIds.contains (UInt32.ofNat number)
      | none => false) = !liveIds.contains id := by
    rw [parseBelow_idText]
    simp
  unfold isOrphaned
  rw [sock, if_neg (by decide), if_neg other, digits]
  show (match parseBelow (2 ^ 32) (idText id) with
    | some number => !liveIds.contains (UInt32.ofNat number)
    | none => false) = true ↔ _
  rw [read, Bool.not_eq_true', ← Bool.not_eq_true, List.contains_iff_mem]

/-- Of the files in the directory, only the sockets of sessions and clients that ended are left over. -/
theorem isOrphaned_name (liveIds : List UInt32) (inUse : Text → Bool) (file : StateFile) :
    isOrphaned liveIds inUse file.name = true ↔
      (∃ id, (file = .artifact (.agent id) ∨ file = .artifact (.svc id)) ∧ id ∉ liveIds) ∨
        ∃ host id, file = .artifact (.forward host id) ∧ inUse file.name = false := by
  have sockEnd (front middle : Text) :
      ".sock".toList.isSuffixOf (front ++ (middle ++ ".sock".toList)) = true := by
    rw [List.isSuffixOf_iff_suffix, ← List.append_assoc]
    exact List.suffix_append _ _
  cases file with
  | bindLock socket bound =>
    have no : isOrphaned liveIds inUse (StateFile.bindLock socket bound).name = false :=
      isOrphaned_of_not_socket (sockSuffix_false (by decide : '.' ∉ "bindlock".toList) (by decide))
    rw [no]
    simp
  | artifact file =>
    cases file with
    | agent id =>
      have first : (Artifact.agent id).name.head? = some 'a' := rfl
      have session : isOrphaned liveIds inUse (StateFile.artifact (.agent id)).name = true ↔
          id ∉ liveIds :=
        isOrphaned_session (sockEnd _ _) (not_control first (by decide))
          (sessionSocket_digits "agent-".toList id)
      rw [session]
      simp
    | svc id =>
      have first : (Artifact.svc id).name.head? = some 's' := rfl
      have session : isOrphaned liveIds inUse (StateFile.artifact (.svc id)).name = true ↔
          id ∉ liveIds :=
        isOrphaned_session (sockEnd _ _) (not_control first (by decide))
          (sessionSocket_digits "svc-".toList id)
      rw [session]
      simp
    | forward host id =>
      have ends : ".sock".toList.isSuffixOf (Artifact.forward host id).name = true := by
        have shape : (Artifact.forward host id).name =
            "fwd-".toList ++ ((host ++ '-' :: idText id) ++ ".sock".toList) := rfl
        rw [shape]
        exact sockEnd _ _
      have first : (Artifact.forward host id).name.head? = some 'f' := rfl
      have reads : isOrphaned liveIds inUse (Artifact.forward host id).name =
          !inUse (Artifact.forward host id).name := by
        unfold isOrphaned
        rw [ends, if_neg (by decide), if_neg (not_control first (by decide))]
        rfl
      have name : (StateFile.artifact (.forward host id)).name = (Artifact.forward host id).name := rfl
      rw [name, reads]
      simp
    | sidecar connectionName kind =>
      -- A socket of a tunnel is the supervisor's business.
      have no : isOrphaned liveIds inUse (Artifact.sidecar connectionName kind).name = false := by
        unfold isOrphaned
        split
        · rfl
        · exact if_pos (Or.inr rfl)
      have name : (StateFile.artifact (.sidecar connectionName kind)).name =
        (Artifact.sidecar connectionName kind).name := rfl
      rw [name, no]
      simp
    | _ =>
      refine ⟨fun orphaned => absurd (show false = true from orphaned) (by decide), ?_⟩
      rintro (⟨id, same | same, -⟩ | ⟨host, id, same, -⟩) <;> cases same

/-- The doctor takes nothing away that gritty wrote or that something uses. -/
structure DoctorSpares : Prop where
  /-- No scan removes a file of gritty, or so much as mentions it. -/
  known : ∀ (file : StateFile) (ctlName : Option Text) (names : List Text),
    file.name ∉ unknownNames ctlName names
  /-- A log may have been rotated, whatever was put behind its name. -/
  rotated : ∀ (log ext : Text) (ctlName : Option Text) (names : List Text), IsLog log →
    log ++ ext ∉ unknownNames ctlName names
  /-- The socket that was named on the command line is spared with its lock. -/
  override : ∀ ctl : Text, lockedName ctl = ctl → ∀ names : List Text,
    ctl ∉ unknownNames (some ctl) names ∧ bindLockPath ctl ∉ unknownNames (some ctl) names
  /-- What is removed is removed by request, is of an unknown name, and is in nobody's use. -/
  removed : ∀ (probe : FileProbe) (ctlName : Option Text) (clean : Bool) (names : List Text),
    ∀ name ∈ (checkUnknownFiles probe ctlName clean names).2,
      name ∈ unknownNames ctlName names ∧ clean = true ∧
        (probe.stat name = some .other ∨ probe.stat name = some (.socket false))
  /-- Sockets are reported as left over exactly if their session or their client is gone. -/
  orphaned : ∀ (liveIds : List UInt32) (inUse : Text → Bool) (files : List StateFile)
    (file : StateFile),
    file.name ∈ checkSockets liveIds inUse (files.map (·.name)) ↔ file ∈ files ∧
      ((∃ id, (file = .artifact (.agent id) ∨ file = .artifact (.svc id)) ∧ id ∉ liveIds) ∨
        ∃ host id, file = .artifact (.forward host id) ∧ inUse file.name = false)

end Gritty
