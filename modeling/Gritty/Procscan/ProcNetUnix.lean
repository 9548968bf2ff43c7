import Gritty.Lib.Decimal
import Gritty.Lib.TextLines
import Gritty.Transfer.WireNames

/-! The kernel's table of unix sockets, as it is printed and as it is read back. -/

namespace Gritty

/-- A path as far as comparing it with others goes. -/
abbrev PathBuf := List Component

/-- A character that separates words. -/
def isWhitespace (char : Char) : Bool :=
  let code := char.toNat
  0x9 ≤ code ∧ code ≤ 0xD ∨ code = 0x20 ∨ code = 0x85 ∨ code = 0xA0 ∨ code = 0x1680 ∨
    0x2000 ≤ code ∧ code ≤ 0x200A ∨ code = 0x2028 ∨ code = 0x2029 ∨ code = 0x202F ∨
    code = 0x205F ∨ code = 0x3000

/-- A text without the blanks at its two ends. -/
def trim (text : List Char) : List Char :=
  ((text.dropWhile isWhitespace).reverse.dropWhile isWhitespace).reverse

/-- What is read from a file: nothing when the file cannot be read as text. -/
def readToString (contents : Bytes) : List Char := ((fromUtf8 contents).map String.toList).getD []

/-- The socket and the path that one line of the table is read as. -/
def parseLine (line : List Char) : Option (Nat × PathBuf) :=
  match words isWhitespace line with
  | _ :: _ :: _ :: _ :: _ :: _ :: inode :: path :: _ =>
    match parseBelow (2 ^ 64) inode with
    | some inode =>
      if path.head? = some '/' then some (inode, components (utf8 (String.ofList path))) else none
    | none => none
  | _ => none

/-- The paths by socket. A later line replaces an earlier one about the same socket. -/
def parseProcNetUnix (text : List Char) : List (Nat × PathBuf) :=
  (((textLines text).drop 1).filterMap parseLine).reverse

/-! ### What the kernel prints -/

/-- The address a socket was bound to. -/
inductive SocketAddress where
  | unnamed
  | path (name : Bytes)
  | abstract (name : Bytes)
  deriving DecidableEq

/-- An address as the last column of the table, with the blank before it. -/
def SocketAddress.printed : SocketAddress → Bytes
  | unnamed => []
  | path name => 0x20 :: name
  | abstract name => 0x20 :: 0x40 :: name.map fun byte => if byte = 0 then 0x40 else byte

/-- One unix socket of the system. -/
structure KernelSocket where
  /-- The columns before the inode. -/
  columns : List String
  six : columns.length = 6
  plain : ∀ column ∈ columns, IsWord isWhitespace column.toList
  inode : Nat
  small : inode < 2 ^ 64
  address : SocketAddress
  /-- The directory that a relative address was taken from. -/
  workDir : PathBuf

namespace KernelSocket

/-- The columns of a socket up to its inode, which is padded to five places. -/
def front (socket : KernelSocket) : List Char :=
  (socket.columns.map String.toList).flatMap (· ++ [' ']) ++
    (List.replicate (5 - (Nat.toDigits 10 socket.inode).length) ' ' ++
      Nat.toDigits 10 socket.inode)

def line (socket : KernelSocket) : Bytes :=
  utf8 (String.ofList socket.front) ++ socket.address.printed

/-- The path a socket was bound to. -/
def boundPath (socket : KernelSocket) : Option PathBuf :=
  match socket.address with
  | .path name =>
    some (if isAbsolute name then components name else socket.workDir ++ components name)
  | _ => none

end KernelSocket

/-- The line above the columns. -/
def tableHeader : String := "Num       RefCount Protocol Flags    Type St Inode Path"

/-- The table as it is read from the kernel. -/
def procNetUnix (sockets : List KernelSocket) : Bytes :=
  (utf8 tableHeader :: sockets.map KernelSocket.line).flatMap (· ++ [0x0A])

/-! ### Tables without blanks in their addresses -/

/-- An address that is one word in the table. -/
def SocketAddress.Legible : SocketAddress → Prop
  | unnamed => True
  | address => ∃ word, IsWord isWhitespace word ∧
      address.printed = 0x20 :: utf8 (String.ofList word)

/-- The path of a socket whose address the reader takes for a path. -/
def KernelSocket.absolutePath (socket : KernelSocket) : Option PathBuf :=
  match socket.address with
  | .path name => if isAbsolute name then some (components name) else none
  | _ => none

/-! ### Reading a legible table -/

theorem utf8_ofList (chars : List Char) :
    utf8 (String.ofList chars) = chars.flatMap String.utf8EncodeChar := by
  rw [utf8_eq, String.toList_ofList]

theorem utf8_ofList_append (first second : List Char) :
    utf8 (String.ofList (first ++ second)) =
      utf8 (String.ofList first) ++ utf8 (String.ofList second) := by
  simp only [utf8_ofList, List.flatMap_append]

@[simp] theorem readToString_utf8 (chars : List Char) :
    readToString (utf8 (String.ofList chars)) = chars := by
  simp [readToString]

/-- A text begins with a separator when its bytes do. -/
theorem isAbsolute_utf8 (chars : List Char) :
    isAbsolute (utf8 (String.ofList chars)) = true ↔ chars.head? = some '/' := by
  rw [utf8_ofList]
  cases chars with
  | nil => decide
  | cons char rest =>
    rw [List.flatMap_cons, List.head?_cons, Option.some.injEq]
    rcases utf8EncodeChar_cases char with ⟨low, single⟩ | ⟨high, outside⟩
    · rw [single, List.singleton_append]
      have first : isAbsolute (UInt8.ofNat char.toNat :: rest.flatMap String.utf8EncodeChar) =
          true ↔ UInt8.ofNat char.toNat = slash := by simp [isAbsolute]
      rw [first]
      constructor
      · intro same
        have value := congrArg UInt8.toNat same
        rw [UInt8.toNat_ofNat', Nat.mod_eq_of_lt (by omega)] at value
        rw [← Char.ofNat_toNat char, value]
        decide
      · rintro rfl
        decide
    · -- A character outside ASCII begins with a byte that is no separator.
      constructor
      · intro absolute
        have first : (String.utf8EncodeChar char ++ rest.flatMap String.utf8EncodeChar).head? =
            some slash := by simpa [isAbsolute] using absolute
        obtain ⟨byte, bytes, encoded⟩ : ∃ byte bytes,
            String.utf8EncodeChar char = byte :: bytes :=
          List.exists_cons_of_ne_nil (by simp)
        rw [encoded, List.cons_append, List.head?_cons, Option.some.injEq] at first
        have above := outside byte (encoded ▸ List.mem_cons_self)
        rw [first] at above
        exact absurd above (by decide)
      · rintro rfl
        exact absurd high (by decide)

/-- The words of a legible address: one, or none at all. -/
theorem SocketAddress.Legible.printed_eq {address : SocketAddress} (legible : address.Legible) :
    ∃ last : Option (List Char), (∀ word ∈ last, IsWord isWhitespace word) ∧
      address.printed = utf8 (String.ofList (last.toList.flatMap (' ' :: ·))) := by
  have spaced (word : List Char) : 0x20 :: utf8 (String.ofList word) =
      utf8 (String.ofList ((some word).toList.flatMap (' ' :: ·))) := by
    simp only [Option.toList_some, List.flatMap_cons, List.flatMap_nil, List.append_nil,
      utf8_ofList]
    rfl
  cases address with
  | unnamed => exact ⟨none, by simp, rfl⟩
  | path name =>
    obtain ⟨word, isWord, printed⟩ := legible
    exact ⟨some word, by simpa using isWord, printed.trans (spaced word)⟩
  | abstract name =>
    obtain ⟨word, isWord, printed⟩ := legible
    exact ⟨some word, by simpa using isWord, printed.trans (spaced word)⟩

/-- The digits of a number are one word. -/
theorem isWord_toDigits (number : Nat) : IsWord isWhitespace (Nat.toDigits 10 number) where
  nonempty := Nat.toDigits_ne_nil
  solid digit among := by
    have isDigit : digit.isDigit = true :=
      Nat.isDigit_of_mem_toDigits (by decide) (by decide) among
    have range := Char.isDigit_iff_toNat.mp isDigit
    have lower : 48 ≤ digit.toNat := range.1
    have upper : digit.toNat ≤ 57 := range.2
    simp only [isWhitespace, decide_eq_false_iff_not]
    omega

namespace KernelSocket

variable {socket : KernelSocket}

/-- The front of a line has its columns as words, with the inode behind them. -/
theorem words_front (rest : List Char) (separated : rest = [] ∨ ∃ later, rest = ' ' :: later) :
    words isWhitespace (socket.front ++ rest) =
      socket.columns.map String.toList ++ Nat.toDigits 10 socket.inode ::
        words isWhitespace rest := by
  have blank : isWhitespace ' ' = true := by decide
  have areWords : ∀ word ∈ socket.columns.map String.toList, IsWord isWhitespace word := by
    intro word among
    obtain ⟨column, there, rfl⟩ := List.mem_map.mp among
    exact socket.plain column there
  have digits := isWord_toDigits socket.inode
  rw [front, List.append_assoc, words_flatMap_append blank areWords, List.append_assoc,
    words_replicate_append _ blank]
  congr 1
  rcases separated with rfl | ⟨later, rfl⟩
  · rw [List.append_nil, digits.words]
    rfl
  · rw [words_append_cons _ _ blank, digits.words]
    have skipped := words_append_cons [] later blank
    rw [List.nil_append, words_nil, List.nil_append] at skipped
    rw [skipped]
    rfl

/-- The characters of the line of a socket whose address is the given word, if it has one. -/
def shown (socket : KernelSocket) (last : Option (List Char)) : List Char :=
  socket.front ++ last.toList.flatMap (' ' :: ·)

/-- A line that is shown has its columns, the inode and the path as words. -/
theorem words_shown {last : Option (List Char)}
    (areWords : ∀ word ∈ last, IsWord isWhitespace word) :
    words isWhitespace (socket.shown last) =
      socket.columns.map String.toList ++ Nat.toDigits 10 socket.inode :: last.toList := by
  cases last with
  | none => exact words_front [] (Or.inl rfl)
  | some word =>
    have isWord := areWords word rfl
    have alone : words isWhitespace (' ' :: word) = [word] := by
      have skipped := words_append_cons [] word (show isWhitespace ' ' = true by decide)
      rw [List.nil_append, words_nil, List.nil_append] at skipped
      rw [skipped, isWord.words]
    have cut := @words_front socket (' ' :: word) (Or.inr ⟨word, rfl⟩)
    rw [alone] at cut
    simpa [shown] using cut

/-- Spaces are the only blanks in the line of a legible socket. -/
theorem shown_spaces {last : Option (List Char)}
    (areWords : ∀ word ∈ last, IsWord isWhitespace word) :
    ∀ char ∈ socket.shown last, char = ' ' ∨ isWhitespace char = false := by
  intro char among
  rcases List.mem_append.mp among with front | behind
  · rcases List.mem_append.mp front with column | padded
    · obtain ⟨text, listed, inside⟩ := List.mem_flatMap.mp column
      obtain ⟨column, there, rfl⟩ := List.mem_map.mp listed
      rcases List.mem_append.mp inside with letter | gap
      · exact Or.inr ((socket.plain column there).solid char letter)
      · exact Or.inl (List.mem_singleton.mp gap)
    · rcases List.mem_append.mp padded with gap | digit
      · exact Or.inl (List.eq_of_mem_replicate gap)
      · exact Or.inr ((isWord_toDigits socket.inode).solid char digit)
  · obtain ⟨word, isLast, inside⟩ := List.mem_flatMap.mp behind
    rcases List.mem_cons.mp inside with gap | letter
    · exact Or.inl gap
    · exact Or.inr ((areWords word (Option.mem_toList.mp isLast)).solid char letter)

theorem line_eq {last : Option (List Char)}
    (printed : socket.address.printed = utf8 (String.ofList (last.toList.flatMap (' ' :: ·)))) :
    socket.line = utf8 (String.ofList (socket.shown last)) := by
  rw [line, shown, printed, utf8_ofList_append]

/-- A word behind the inode is taken for a path when it is an absolute one. -/
theorem absolutePath_eq {word : List Char}
    (printed : socket.address.printed = 0x20 :: utf8 (String.ofList word)) :
    socket.absolutePath =
      if word.head? = some '/' then some (components (utf8 (String.ofList word))) else none := by
  have absolute := isAbsolute_utf8 word
  unfold absolutePath
  cases addressed : socket.address with
  | unnamed =>
    rw [addressed] at printed
    exact absurd printed (by simp [SocketAddress.printed])
  | path name =>
    rw [addressed] at printed
    obtain rfl : name = utf8 (String.ofList word) := (List.cons.inj printed).2
    simp only [absolute]
  | abstract name =>
    rw [addressed] at printed
    -- The sign of an abstract name is no separator.
    have signed : utf8 (String.ofList word) = 0x40 :: _ := ((List.cons.inj printed).2).symm
    have other : ¬ word.head? = some '/' := by
      rw [← absolute, signed]
      simp [isAbsolute, slash]
    rw [if_neg other]

/-- The reader gets the inode and the path of a legible socket from its line. -/
theorem parseLine_shown {last : Option (List Char)}
    (areWords : ∀ word ∈ last, IsWord isWhitespace word)
    (printed : socket.address.printed = utf8 (String.ofList (last.toList.flatMap (' ' :: ·)))) :
    parseLine (socket.shown last) = socket.absolutePath.map fun path => (socket.inode, path) := by
  have six : (socket.columns.map String.toList).length = 6 := by
    rw [List.length_map, socket.six]
  rw [parseLine, words_shown areWords]
  obtain ⟨num, refs, protocol, flags, kind, state, columns⟩ :
      ∃ a b c d e f, socket.columns.map String.toList = [a, b, c, d, e, f] := by
    match socket.columns.map String.toList, six with
    | [a, b, c, d, e, f], _ => exact ⟨a, b, c, d, e, f, rfl⟩
  rw [columns]
  cases last with
  | none =>
    have unnamed : socket.absolutePath = none := by
      unfold absolutePath
      cases addressed : socket.address with
      | path name =>
        rw [addressed] at printed
        have blank : utf8 (String.ofList []) = [] := rfl
        exact absurd (printed.trans blank) (List.cons_ne_nil _ _)
      | unnamed => rfl
      | abstract name => rfl
    rw [unnamed]
    rfl
  | some word =>
    have spaced : socket.address.printed = 0x20 :: utf8 (String.ofList word) := by
      rw [printed]
      simp only [Option.toList_some, List.flatMap_cons, List.flatMap_nil, List.append_nil,
        utf8_ofList]
      rfl
    rw [absolutePath_eq spaced]
    show (match parseBelow (2 ^ 64) (Nat.toDigits 10 socket.inode) with
      | some inode =>
        if word.head? = some '/' then some (inode, components (utf8 (String.ofList word)))
        else none
      | none => none) = _
    rw [parseBelow_toDigits socket.small]
    dsimp only
    split <;> rfl

end KernelSocket

/-- The text of a table is the lines of its sockets below the header. -/
theorem readToString_procNetUnix {sockets : List KernelSocket}
    {last : KernelSocket → Option (List Char)}
    (printed : ∀ socket ∈ sockets, socket.address.printed =
      utf8 (String.ofList ((last socket).toList.flatMap (' ' :: ·)))) :
    readToString (procNetUnix sockets) =
      (tableHeader.toList :: sockets.map fun socket => socket.shown (last socket)).flatMap
        (· ++ ['\n']) := by
  have each : ∀ line : List Char, utf8 (String.ofList line) ++ [0x0A] =
      utf8 (String.ofList (line ++ ['\n'])) := by
    intro line
    rw [utf8_ofList_append]
    rfl
  have bytes : procNetUnix sockets = utf8 (String.ofList
      ((tableHeader.toList :: sockets.map fun socket => socket.shown (last socket)).flatMap
        (· ++ ['\n']))) := by
    rw [procNetUnix, List.flatMap_cons, List.flatMap_cons, utf8_ofList_append, ← each,
      String.ofList_toList]
    congr 1
    induction sockets with
    | nil => rfl
    | cons socket others ih =>
      rw [List.map_cons, List.map_cons, List.flatMap_cons, List.flatMap_cons,
        utf8_ofList_append, ← each, KernelSocket.line_eq (printed socket List.mem_cons_self),
        ih fun other among => printed other (List.mem_cons_of_mem socket among)]
  rw [bytes, readToString_utf8]

/-- A table in which every address is legible is read as what the kernel knows. -/
theorem parseProcNetUnix_legible {sockets : List KernelSocket}
    (legible : ∀ socket ∈ sockets, socket.address.Legible) :
    parseProcNetUnix (readToString (procNetUnix sockets)) =
      (sockets.filterMap fun socket =>
        socket.absolutePath.map fun path => (socket.inode, path)).reverse := by
  have chosen : ∀ socket : KernelSocket, ∃ last : Option (List Char), socket ∈ sockets →
      (∀ word ∈ last, IsWord isWhitespace word) ∧
        socket.address.printed = utf8 (String.ofList (last.toList.flatMap (' ' :: ·))) := by
    intro socket
    by_cases among : socket ∈ sockets
    · obtain ⟨last, areWords, printed⟩ := (legible socket among).printed_eq
      exact ⟨last, fun _ => ⟨areWords, printed⟩⟩
    · exact ⟨none, fun there => absurd there among⟩
  choose last spelled using chosen
  have unbroken : ∀ line ∈ tableHeader.toList ::
      sockets.map (fun socket => socket.shown (last socket)),
      ∀ char, char = '\n' ∨ char = '\r' → char ∉ line := by
    intro line listed char stop inside
    rcases List.mem_cons.mp listed with rfl | row
    · have plain : '\n' ∉ tableHeader.toList ∧ '\r' ∉ tableHeader.toList := by decide
      rcases stop with rfl | rfl
      · exact plain.1 inside
      · exact plain.2 inside
    · obtain ⟨socket, among, rfl⟩ := List.mem_map.mp row
      rcases KernelSocket.shown_spaces (spelled socket among).1 char inside with space | solid
      · rcases stop with rfl | rfl <;> exact absurd space (by decide)
      · rcases stop with rfl | rfl <;> exact absurd solid (by decide)
  have solid : ∀ line ∈ tableHeader.toList ::
      sockets.map (fun socket => socket.shown (last socket)), line.getLast? ≠ some '\r' :=
    fun line listed returned =>
      unbroken line listed '\r' (Or.inr rfl) (List.mem_of_getLast? returned)
  -- Every line is closed, so the lines are what was printed.
  rw [parseProcNetUnix, readToString_procNetUnix fun socket among => (spelled socket among).2,
    textLines_flatMap (fun line listed => unbroken line listed '\n' (Or.inl rfl)) solid]
  rw [List.drop_succ_cons, List.drop_zero, List.filterMap_map]
  congr 1
  apply List.filterMap_congr
  intro socket among
  exact KernelSocket.parseLine_shown (spelled socket among).1 (spelled socket among).2

end Gritty
