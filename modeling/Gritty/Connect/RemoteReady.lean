import Gritty.Lib.CommandLine
import Gritty.Lib.Decimal
import Gritty.Lib.TextLines
import Gritty.Procscan.ProcNetUnix
import Mathlib.Data.List.DropRight

/-! What is asked of a remote host before a tunnel is aimed at it, and what its answer is read as. -/

namespace Gritty

/-! ### The answer -/

/-- What the programs on a remote host do when they are run one after the other. -/
structure RemoteHost where
  /-- The socket path it prints, if it succeeds. -/
  socketPath : Option Text
  /-- The protocol version it prints. It prints nothing when it does not know. -/
  protocolVersion : Text
  /-- The errors of listing the sessions there, if that fails. -/
  lsErr : Option Text
  /-- Whether a daemon can be started. -/
  serverStarts : Bool

def socketPathFailed : Text :=
  ("gritty socket-path failed on the remote (binary missing or broken? " ++
    "try gritty bootstrap)").toList

/-- What the remote command prints. -/
def RemoteHost.ensureOutput (remote : RemoteHost) : Text :=
  match remote.socketPath with
  | none => "ERR:".toList ++ socketPathFailed ++ ['\n']
  | some sock =>
    let answer := sock ++ '\n' :: remote.protocolVersion ++ ['\n']
    match remote.lsErr with
    | none => answer
    | some error =>
      if remote.serverStarts then answer else answer ++ "ERR:".toList ++ error ++ ['\n']

/-! ### Reading it -/

/-- Why a tunnel cannot be aimed. -/
inductive EnsureError where
  | ssh (message : Text)
  | unusable (reason : Text)
  | emptyPath
  | invalidPath (sockPath : Text)
  deriving DecidableEq

/-- What a line says went wrong, if it is about that. -/
def errReason (line : Text) : Option Text := ("ERR:".toList.isPrefixOf? (trim line)).map trim

def parseVersion (line : Text) : Option UInt16 := (parseBelow 65536 (trim line)).map UInt16.ofNat

/-- The socket path and the protocol version of an answer. -/
def parseEnsureRemoteOutput (output : Text) : Except EnsureError (Text × Option UInt16) :=
  -- An error counts wherever it stands.
  match (textLines output).findSome? errReason with
  | some reason => .error (.unusable reason)
  | none =>
    let sockPath := trim ((textLines output).headD [])
    if sockPath = [] then .error .emptyPath
    else if sockPath.head? ≠ some '/' then .error (.invalidPath sockPath)
    else .ok (sockPath, (textLines output)[1]?.bind parseVersion)

/-- What comes of asking, with what ssh got. -/
def ensureRemoteReady (got : Except Text Text) : Except EnsureError (Text × Option UInt16) :=
  match got with
  | .error message => .error (.ssh message)
  | .ok stdout => parseEnsureRemoteOutput (trim stdout)

/-- A path that a tunnel can be aimed at. -/
structure AimablePath (path : Text) : Prop where
  absolute : path.head? = some '/'
  oneLine : '\n' ∉ path
  trimmed : trim path = path

/-! ### Blanks at the end -/

section

variable {text front back : Text}

/-- A text without the blanks at its end. -/
def trimEnd (text : Text) : Text := (text.reverse.dropWhile isWhitespace).reverse

theorem trim_eq (text : Text) : trim text = trimEnd (text.dropWhile isWhitespace) := rfl

/-- What does not begin with a blank is only trimmed at its end. -/
theorem trim_of_head {first : Char} (visible : isWhitespace first = false) (rest : Text) :
    trim (first :: rest) = trimEnd (first :: rest) := by
  rw [trim_eq, List.dropWhile_cons_of_neg (by rw [visible]; exact Bool.false_ne_true)]

/-- The end of two texts is trimmed in the second one, and in the first only where that is all blank. -/
theorem trimEnd_append (front back : Text) :
    trimEnd (front ++ back) = if trimEnd back = [] then trimEnd front else front ++ trimEnd back := by
  unfold trimEnd
  rw [List.reverse_append, List.dropWhile_append]
  simp only [List.isEmpty_iff, List.reverse_eq_nil_iff]
  split
  · rfl
  · rw [List.reverse_append, List.reverse_reverse]

theorem trimEnd_blanks (blank : ∀ char ∈ text, isWhitespace char = true) : trimEnd text = [] := by
  unfold trimEnd
  rw [List.dropWhile_eq_nil_iff.mpr fun char among => blank char (List.mem_reverse.mp among),
    List.reverse_nil]

theorem trimEnd_append_blank (text : Text) {char : Char} (blank : isWhitespace char = true) :
    trimEnd (text ++ [char]) = trimEnd text := by
  rw [trimEnd_append, if_pos (trimEnd_blanks (by simpa using blank))]

/-- What is taken off the end is blank. -/
theorem exists_trimEnd (text : Text) :
    ∃ blanks, text = trimEnd text ++ blanks ∧ ∀ char ∈ blanks, isWhitespace char = true := by
  refine ⟨(text.reverse.takeWhile isWhitespace).reverse, ?_, fun char among => ?_⟩
  · unfold trimEnd
    rw [← List.reverse_append, List.takeWhile_append_dropWhile, List.reverse_reverse]
  · exact List.mem_takeWhile_imp (List.mem_reverse.mp among)

/-- Trimming the end first makes no difference. -/
theorem trim_trimEnd (text : Text) : trim (trimEnd text) = trim text := by
  obtain ⟨blanks, whole, blank⟩ := exists_trimEnd text
  conv => rhs; rw [whole]
  rw [trim_eq, trim_eq, List.dropWhile_append]
  split
  · next none_ =>
    rw [List.isEmpty_iff.mp none_, List.dropWhile_eq_nil_iff.mpr blank]
  · rw [trimEnd_append, if_pos (trimEnd_blanks blank)]

theorem trim_trim (text : Text) : trim (trim text) = trim text := by
  rw [trim_eq text, trim_trimEnd, trim_eq, List.dropWhile_idempotent]

/-- A trimmed text does not end in a carriage return. -/
theorem getLast_of_trimmed (trimmed : trimEnd text = text) : text.getLast? ≠ some '\r' := by
  intro ends
  obtain ⟨front, rfl⟩ := List.getLast?_eq_some_iff.mp ends
  rw [trimEnd_append_blank front (by decide)] at trimmed
  obtain ⟨blanks, whole, -⟩ := exists_trimEnd front
  have shorter := congrArg List.length trimmed
  have longer := congrArg List.length whole
  rw [List.length_append] at shorter longer
  rw [List.length_singleton] at shorter
  omega

/-- The first line of a text is what stands before its first line end, but for blanks. -/
theorem trim_firstLine (some_ : text ≠ []) :
    ∃ first rest, textLines text = first :: rest ∧ trim first = trim (text.takeWhile (· ≠ '\n')) := by
  have withoutReturn_trim : ∀ line : Text, trim (withoutReturn line) = trim line := by
    intro line
    unfold withoutReturn
    split
    · next ends =>
      obtain ⟨front, rfl⟩ := List.getLast?_eq_some_iff.mp ends
      rw [List.dropLast_concat, ← trim_trimEnd (front ++ ['\r']),
        trimEnd_append_blank front (by decide), trim_trimEnd]
    · rfl
  by_cases broken : '\n' ∈ text
  · obtain ⟨front, back, rfl, unbroken⟩ := List.eq_append_cons_of_mem broken
    have all : ∀ char ∈ front, decide (char ≠ '\n') = true := fun char among =>
      decide_eq_true (ne_of_mem_of_not_mem among unbroken)
    rw [textLines_append_cons, List.splitOn_eq_singleton unbroken,
      List.takeWhile_append_of_pos all, List.takeWhile_cons_of_neg (by decide), List.append_nil]
    exact ⟨withoutReturn front, textLines back, rfl, withoutReturn_trim front⟩
  · have all : ∀ char ∈ text, decide (char ≠ '\n') = true := fun char among =>
      decide_eq_true (ne_of_mem_of_not_mem among broken)
    rw [textLines_open broken, openLine, if_neg some_, List.takeWhile_eq_self_iff.mpr all]
    exact ⟨text, [], rfl, rfl⟩

/-- Of the first line, the same is left when the end of the text was trimmed before. -/
theorem trim_takeWhile_trimEnd (text : Text) :
    trim ((trimEnd text).takeWhile (· ≠ '\n')) = trim (text.takeWhile (· ≠ '\n')) := by
  obtain ⟨blanks, whole, blank⟩ := exists_trimEnd text
  conv => rhs; rw [whole]
  rw [List.takeWhile_append]
  split
  · next all =>
    -- The first line reaches into the blanks at the end.
    have sameText : (trimEnd text).takeWhile (· ≠ '\n') = trimEnd text :=
      (List.takeWhile_prefix _).eq_of_length all
    rw [sameText, ← trim_trimEnd (trimEnd text ++ _), trimEnd_append,
      if_pos (trimEnd_blanks fun char among => blank char (List.takeWhile_prefix _ |>.subset among)),
      trim_trimEnd, trim_trimEnd, trim_trimEnd]
  · rfl

end

/-! ### Reading what was answered -/

section

variable {output path version : Text} {read : Option UInt16}

/-- Whatever is read as a path is one that a tunnel can be aimed at, and nothing went wrong. -/
theorem parseEnsureRemoteOutput_sound (parsed : parseEnsureRemoteOutput output = .ok (path, read)) :
    AimablePath path ∧ (∀ line ∈ textLines output, errReason line = none) ∧
      ∃ rest first, textLines output = first :: rest ∧ trim first = path := by
  unfold parseEnsureRemoteOutput at parsed
  split at parsed
  · exact nomatch parsed
  · next clean =>
    simp only at parsed
    split at parsed
    · exact nomatch parsed
    · next some_ =>
      split at parsed
      · exact nomatch parsed
      · next absolute =>
        obtain ⟨rfl, -⟩ := Prod.mk.inj (Except.ok.inj parsed)
        have clean_ : ∀ line ∈ textLines output, errReason line = none := fun line among =>
          List.findSome?_eq_none_iff.mp clean line among
        cases shown : textLines output with
        | nil =>
          rw [shown] at some_
          exact absurd rfl some_
        | cons first rest =>
          rw [shown] at absolute some_ clean_
          refine ⟨⟨not_not.mp absolute, ?_, trim_trim _⟩, clean_, rest, first, rfl, rfl⟩
          -- A line holds no line end, and trimming adds none.
          have unbroken : '\n' ∉ first := notMem_textLines (shown ▸ List.mem_cons_self)
          intro broken
          have inside : (trim first).Sublist first := by
            unfold trim
            have right := (List.dropWhile_sublist isWhitespace
              (l := (first.dropWhile isWhitespace).reverse)).reverse
            rw [List.reverse_reverse] at right
            exact right.trans (List.dropWhile_sublist _)
          exact unbroken (inside.subset broken)

/-- A digit is no blank. -/
theorem isWhitespace_of_isDigit {char : Char} (digit : char.isDigit = true) :
    isWhitespace char = false := by
  have range : 48 ≤ char.toNat ∧ char.toNat ≤ 57 := by
    simp only [Char.isDigit, Bool.and_eq_true, decide_eq_true_eq] at digit
    exact ⟨digit.1, digit.2⟩
  simp only [isWhitespace, decide_eq_false_iff_not]
  omega

/-- A text without blanks stays whole. -/
theorem trimEnd_solid {text : Text} (solid : ∀ char ∈ text, isWhitespace char = false) :
    trimEnd text = text := by
  unfold trimEnd
  rw [List.dropWhile_eq_self_iff.mpr, List.reverse_reverse]
  intro some_ blank
  have among : text.reverse[0] ∈ text := List.mem_reverse.mp (List.getElem_mem some_)
  rw [solid _ among] at blank
  exact Bool.false_ne_true blank

theorem AimablePath.trim (aimable : AimablePath path) (back : Text) :
    Gritty.trim (path ++ back) = trimEnd (path ++ back) := by
  obtain ⟨rest, rfl⟩ := List.head?_eq_some_iff.mp aimable.absolute
  exact trim_of_head (by decide) _

theorem AimablePath.trimEnd (aimable : AimablePath path) : Gritty.trimEnd path = path := by
  have trims := aimable.trim []
  rw [List.append_nil, aimable.trimmed] at trims
  exact trims.symm

theorem AimablePath.ne_nil (aimable : AimablePath path) : path ≠ [] := by
  intro empty
  have absolute := aimable.absolute
  rw [empty] at absolute
  exact nomatch absolute

/-- A path is no report of an error. -/
theorem AimablePath.clean (aimable : AimablePath path) : errReason path = none := by
  unfold errReason
  rw [aimable.trimmed]
  obtain ⟨rest, rfl⟩ := List.head?_eq_some_iff.mp aimable.absolute
  rfl

/-- A version is not taken for the reason of a failure. -/
theorem errReason_digits (digits : ∀ char ∈ version, char.isDigit = true) : errReason version = none := by
  have solid : ∀ char ∈ version, isWhitespace char = false := fun char among =>
    isWhitespace_of_isDigit (digits char among)
  cases version with
  | nil => rfl
  | cons first rest =>
    unfold errReason
    rw [trim_of_head (solid first List.mem_cons_self), trimEnd_solid solid]
    have notTag : ('E' == first) = false := by
      rw [beq_eq_false_iff_ne]
      rintro rfl
      exact absurd (digits 'E' List.mem_cons_self) (by decide)
    have tag : "ERR:".toList = ['E', 'R', 'R', ':'] := by decide
    simp only [tag, List.isPrefixOf?, notTag, Bool.false_eq_true, if_false, Option.map_none]

/-- What the remote command prints of a path and a version, with more behind them or nothing. -/
theorem textLines_answer (aimable : AimablePath path)
    (digits : ∀ char ∈ version, char.isDigit = true) (back : Text) :
    textLines (path ++ '\n' :: (version ++ '\n' :: back)) = path :: version :: textLines back := by
  have solid : ∀ char ∈ version, isWhitespace char = false := fun char among =>
    isWhitespace_of_isDigit (digits char among)
  have oneLine : '\n' ∉ version := fun among => absurd (solid _ among) (by decide)
  rw [textLines_line aimable.oneLine (getLast_of_trimmed aimable.trimEnd),
    textLines_line oneLine (getLast_of_trimmed (trimEnd_solid solid))]

/-- An answer without an error is read as what was answered. -/
theorem parse_answer (aimable : AimablePath path) (digits : ∀ char ∈ version, char.isDigit = true) :
    parseEnsureRemoteOutput (trim (path ++ '\n' :: version ++ ['\n'])) =
      .ok (path, parseVersion version) := by
  have solid : ∀ char ∈ version, isWhitespace char = false := fun char among =>
    isWhitespace_of_isDigit (digits char among)
  have oneLine : '\n' ∉ version := fun among => absurd (solid _ among) (by decide)
  -- The line end goes, and the version's own line with it if the version is not known.
  have trimmed : trim (path ++ '\n' :: version ++ ['\n']) =
      if version = [] then path else path ++ '\n' :: version := by
    rw [List.append_assoc, aimable.trim, ← List.append_assoc, trimEnd_append_blank _ (by decide)]
    split
    · next none_ => rw [none_, trimEnd_append_blank _ (by decide), aimable.trimEnd]
    · next some_ =>
      have front : path ++ '\n' :: version = (path ++ ['\n']) ++ version := by
        rw [List.append_assoc, List.singleton_append]
      rw [front, trimEnd_append, trimEnd_solid solid, if_neg some_]
  have shown : textLines (trim (path ++ '\n' :: version ++ ['\n'])) =
      path :: if version = [] then [] else [version] := by
    rw [trimmed]
    split
    · rw [textLines_open aimable.oneLine, openLine, if_neg aimable.ne_nil]
    · next some_ =>
      rw [textLines_line aimable.oneLine (getLast_of_trimmed aimable.trimEnd),
        textLines_open oneLine, openLine, if_neg some_]
  have clean : (path :: if version = [] then [] else [version]).findSome? errReason = none := by
    by_cases none_ : version = []
    · simp only [none_, if_true, List.findSome?_cons, aimable.clean, List.findSome?_nil]
    · simp only [none_, if_false, List.findSome?_cons, aimable.clean, errReason_digits digits,
        List.findSome?_nil]
  unfold parseEnsureRemoteOutput
  rw [shown, clean]
  simp only [List.headD_cons, aimable.trimmed, aimable.ne_nil, if_false, aimable.absolute, ne_eq,
    not_true_eq_false]
  split
  · next none_ =>
    rw [none_]
    rfl
  · rfl

/-- The reason of a failure is read as the first line of it. -/
theorem errReason_tagged (reason : Text) {first : Text}
    (same : trim first = trim ("ERR:".toList ++ reason)) : errReason first = some (trim reason) := by
  have tag : "ERR:".toList ++ reason = 'E' :: 'R' :: 'R' :: ':' :: reason := rfl
  unfold errReason
  rw [same, tag, trim_of_head (by decide)]
  have cut : trimEnd ('E' :: 'R' :: 'R' :: ':' :: reason) = "ERR:".toList ++ trimEnd reason := by
    rw [← tag, trimEnd_append]
    split
    · next none_ =>
      rw [none_]
      rfl
    · rfl
  rw [cut, List.isPrefixOf?_eq_some_iff_append_eq.mpr rfl, Option.map_some, trim_trimEnd]

/-- A failure behind an answer is read as a failure, for the first line of its reason. -/
theorem parse_failure (aimable : AimablePath path) (digits : ∀ char ∈ version, char.isDigit = true)
    (reason : Text) :
    parseEnsureRemoteOutput (trim (path ++ '\n' :: version ++ ['\n'] ++ "ERR:".toList ++ reason ++
        ['\n'])) = .error (.unusable (trim (reason.takeWhile (· ≠ '\n')))) := by
  have tagged : trimEnd ("ERR:".toList ++ reason) = "ERR:".toList ++ trimEnd reason := by
    rw [trimEnd_append]
    split
    · next none_ =>
      rw [none_]
      rfl
    · rfl
  have some_ : "ERR:".toList ++ trimEnd reason ≠ [] := List.cons_ne_nil _ _
  have trimmed : trim (path ++ '\n' :: version ++ ['\n'] ++ "ERR:".toList ++ reason ++ ['\n']) =
      path ++ '\n' :: (version ++ '\n' :: ("ERR:".toList ++ trimEnd reason)) := by
    have front : path ++ '\n' :: version ++ ['\n'] ++ "ERR:".toList ++ reason ++ ['\n'] =
        path ++ ('\n' :: version ++ ['\n'] ++ ("ERR:".toList ++ reason) ++ ['\n']) := by
      simp only [List.append_assoc]
    rw [front, aimable.trim, ← List.append_assoc, trimEnd_append_blank _ (by decide),
      ← List.append_assoc, trimEnd_append, tagged, if_neg some_]
    simp only [List.append_assoc, List.cons_append, List.nil_append]
  obtain ⟨first, rest, lines, begins⟩ := trim_firstLine some_
  have firstLine : ("ERR:".toList ++ trimEnd reason).takeWhile (· ≠ '\n') =
      "ERR:".toList ++ (trimEnd reason).takeWhile (· ≠ '\n') := rfl
  rw [firstLine] at begins
  unfold parseEnsureRemoteOutput
  rw [trimmed, textLines_answer aimable digits, lines]
  simp only [List.findSome?_cons, aimable.clean, errReason_digits digits,
    errReason_tagged _ begins, trim_takeWhile_trimEnd]

end

/-- What asking a remote host comes to. -/
structure AsksRemote : Prop where
  /-- Only a path that a tunnel can be aimed at is ever taken from an answer, whatever is printed
  around it, and none from one that reports an error. -/
  sound : ∀ output path version, parseEnsureRemoteOutput output = .ok (path, version) →
    AimablePath path ∧ ∀ line ∈ textLines output, errReason line = none
  /-- A host that prints nothing else is read for what it is. -/
  read : ∀ remote : RemoteHost, (∀ char ∈ remote.protocolVersion, char.isDigit = true) →
    ∀ path, remote.socketPath = some path → AimablePath path →
      ensureRemoteReady (.ok remote.ensureOutput) =
        match remote.lsErr with
        | none => .ok (path, parseVersion remote.protocolVersion)
        | some error =>
          if remote.serverStarts then .ok (path, parseVersion remote.protocolVersion)
          else .error (.unusable (trim (error.takeWhile (· ≠ '\n'))))
  missing : ∀ remote : RemoteHost, remote.socketPath = none →
    ensureRemoteReady (.ok remote.ensureOutput) = .error (.unusable socketPathFailed)

/-- What the local end asks the remote, and what it reads of the answer, fit together. -/
theorem asksRemote : AsksRemote where
  sound output path version parsed := by
    obtain ⟨aimable, clean, -⟩ := parseEnsureRemoteOutput_sound parsed
    exact ⟨aimable, clean⟩
  read remote digits path named aimable := by
    unfold ensureRemoteReady RemoteHost.ensureOutput
    simp only [named]
    cases remote.lsErr with
    | none => exact parse_answer aimable digits
    | some error =>
      cases remote.serverStarts with
      | true => exact parse_answer aimable digits
      | false => exact parse_failure aimable digits error
  missing remote none_ := by
    unfold ensureRemoteReady RemoteHost.ensureOutput
    rw [none_]
    change parseEnsureRemoteOutput (trim ("ERR:".toList ++ socketPathFailed ++ ['\n'])) = _
    decide +kernel

end Gritty
