import Gritty.Protocol.Frame

/-! Unix paths as their components, and the checks that the names of transferred files go through. -/

namespace Gritty

/-- The separator of path components. -/
def slash : UInt8 := 0x2F

/-- The byte that names the current directory. -/
def dot : UInt8 := 0x2E

/-- One component of a path. -/
inductive Component where
  | rootDir
  | curDir
  | parentDir
  | normal (name : Bytes)
  deriving DecidableEq

def Component.isNormal : Component → Bool
  | normal _ => true
  | _ => false

/-- The component between two separators. Empty pieces and inner dots are skipped. -/
def componentOf (piece : Bytes) : Option Component :=
  if piece = [] ∨ piece = [dot] then none
  else if piece = [dot, dot] then some .parentDir
  else some (.normal piece)

/--
What the front of a path adds to its components.

A leading separator, which leaves an empty first piece, is a component of its own, and so is the
dot that a relative path begins with.
-/
def leadingComponent : List Bytes → List Component
  | [] => []
  | first :: others =>
    if first = [] ∧ others ≠ [] then [.rootDir]
    else if first = [dot] then [.curDir]
    else []

/-- The components of a path that was cut at its separators. -/
def componentsOf (pieces : List Bytes) : List Component :=
  leadingComponent pieces ++ pieces.filterMap componentOf

/-- The components of a path. -/
def components (path : Bytes) : List Component := componentsOf (path.splitOn slash)

/-- The last component of a path, when it is a name. -/
def fileName (path : Bytes) : Option Bytes :=
  match (components path).getLast? with
  | some (.normal name) => some name
  | _ => none

/-- A path is absolute when it begins at the root. -/
def isAbsolute (path : Bytes) : Bool := path.head? = some slash

/-! ### The checks of the server and of the clients -/

/-- The server's check of a name in a sender's manifest. -/
def sanitizeFilename (name : String) : Option String :=
  if name = "" ∨ '\x00' ∈ name.toList ∨ '\\' ∈ name.toList then none
  else
    let parts := components (utf8 name)
    if parts.all Component.isNormal && parts.any Component.isNormal then some name else none

/-- What a receiver says to a component it refuses. -/
def refusedComponent (name : String) : Component → Option String
  | .parentDir => some s!"'..' not allowed in path: {name}"
  | .rootDir => some s!"absolute path not allowed: {name}"
  | _ => none

/-- The receiver's check of a name in a transfer. -/
def sanitizePath (name : String) : Except String String :=
  if isAbsolute (utf8 name) then .error s!"absolute path not allowed: {name}"
  else match (components (utf8 name)).findSome? (refusedComponent name) with
    | some message => .error message
    | none => if name = "" then .error "empty path" else .ok name

/-- The name a sender gives to a file that was named on the command line. -/
def sanitizeBasename (name : String) : Except String String :=
  let basename := ((fileName (utf8 name)).bind fromUtf8).getD name
  if basename = "" ∨ basename = ".." then .error s!"invalid filename: {name}" else .ok basename

/-- An accepted name is passed on unchanged, and all its components are names. -/
theorem sanitizeFilename_eq_some {name accepted : String} :
    sanitizeFilename name = some accepted ↔
      name = accepted ∧ name ≠ "" ∧ '\x00' ∉ name.toList ∧ '\\' ∉ name.toList ∧
        components (utf8 name) ≠ [] ∧ ∀ part ∈ components (utf8 name), part.isNormal = true := by
  have anyOfAll : ∀ parts : List Component, (∀ part ∈ parts, part.isNormal = true) →
      (parts.any Component.isNormal = true ↔ parts ≠ []) := by
    intro parts normal
    cases parts with
    | nil => simp
    | cons part rest => simp [normal part List.mem_cons_self]
  unfold sanitizeFilename
  by_cases refused : name = "" ∨ '\x00' ∈ name.toList ∨ '\\' ∈ name.toList
  · rw [if_pos refused]
    constructor
    · nofun
    · rintro ⟨-, nonempty, noNul, noBackslash, -⟩
      rcases refused with empty | nul | backslash
      · exact absurd empty nonempty
      · exact absurd nul noNul
      · exact absurd backslash noBackslash
  · rw [if_neg refused]
    push Not at refused
    simp only [Bool.and_eq_true, List.all_eq_true, Option.ite_none_right_eq_some,
      Option.some.injEq]
    constructor
    · rintro ⟨⟨normal, some_⟩, rfl⟩
      exact ⟨rfl, refused.1, refused.2.1, refused.2.2, (anyOfAll _ normal).mp some_, normal⟩
    · rintro ⟨rfl, -, -, -, nonempty, normal⟩
      exact ⟨⟨normal, (anyOfAll _ normal).mpr nonempty⟩, rfl⟩

/-- A path of names only does not begin at the root. -/
theorem not_isAbsolute_of_normal {path : Bytes}
    (normal : ∀ part ∈ components path, part.isNormal = true) : isAbsolute path = false := by
  by_contra absolute
  have rooted : path.head? = some slash := by simpa [isAbsolute] using absolute
  have root : Component.rootDir ∈ components path := by
    cases path with
    | nil => cases rooted
    | cons first rest =>
      cases rooted
      -- The separator leaves an empty piece in front of the others.
      rw [components, List.splitOn_cons_eq_if_modifyHead, if_pos (by decide)]
      obtain ⟨piece, later, pieces⟩ := List.exists_cons_of_ne_nil (List.splitOn_ne_nil slash rest)
      rw [pieces, componentsOf]
      exact List.mem_append_left _ List.mem_cons_self
  exact absurd (normal _ root) (by decide)

/-- Every name the server accepts is accepted by the receiver. -/
theorem sanitizePath_of_sanitizeFilename {name accepted : String}
    (allowed : sanitizeFilename name = some accepted) : sanitizePath name = .ok name := by
  obtain ⟨-, nonempty, -, -, -, normal⟩ := sanitizeFilename_eq_some.mp allowed
  -- A name component is never one the receiver refuses.
  have unrefused : (components (utf8 name)).findSome? (refusedComponent name) = none := by
    rw [List.findSome?_eq_none_iff]
    intro part among
    cases part with
    | normal => rfl
    | rootDir => exact absurd (normal _ among) (by decide)
    | curDir => exact absurd (normal _ among) (by decide)
    | parentDir => exact absurd (normal _ among) (by decide)
  unfold sanitizePath
  rw [not_isAbsolute_of_normal normal, unrefused]
  simp [nonempty]

/-! ### Taking paths apart and putting them together -/

/-- The components of a path before its last one. The root and the empty path have no parent. -/
def parentPath (path : Bytes) : Option (List Component) :=
  match (components path).getLast? with
  | some .rootDir => none
  | some _ => some (components path).dropLast
  | none => none

/-- A path below a directory. -/
def joinPath (dir name : Bytes) : Bytes :=
  if dir = [] then name
  else if dir.getLast? = some slash then dir ++ name
  else dir ++ slash :: name

/-- The components that are left when a path is taken relative to a base it lies under. -/
def stripPrefix (base path : List Component) : List Component :=
  if base.isPrefixOf path then path.drop base.length else path

/-- The name of one directory entry: not empty, without separator, and neither dot nor dots. -/
structure IsName (name : Bytes) : Prop where
  nonempty : name ≠ []
  noSlash : slash ∉ name
  notDot : name ≠ [dot]
  notDots : name ≠ [dot, dot]

theorem IsName.componentOf {name : Bytes} (isName : IsName name) :
    componentOf name = some (.normal name) := by
  unfold Gritty.componentOf
  rw [if_neg (by simp [isName.nonempty, isName.notDot]), if_neg isName.notDots]

/-- Pieces between separators hold no separator. -/
theorem noSlash_of_mem_splitOn {path piece : Bytes} (among : piece ∈ path.splitOn slash) :
    slash ∉ piece := by
  induction path generalizing piece with
  | nil =>
    have empty : piece = [] := List.mem_singleton.mp among
    rw [empty]
    exact List.not_mem_nil
  | cons first rest ih =>
    obtain ⟨front, others, pieces⟩ :=
      List.exists_cons_of_ne_nil (List.splitOn_ne_nil slash rest)
    rw [List.splitOn_cons_eq_if_modifyHead, pieces] at among
    rw [pieces] at ih
    split at among
    · rcases List.mem_cons.mp among with rfl | later
      · exact List.not_mem_nil
      · exact ih later
    · next other =>
      rcases List.mem_cons.mp among with rfl | later
      · -- The first piece grows by a byte that is no separator.
        intro found
        rcases List.mem_cons.mp found with same | inside
        · exact other (beq_iff_eq.mpr same.symm)
        · exact ih List.mem_cons_self inside
      · exact ih (List.mem_cons_of_mem front later)

/-- What is in a piece is in the joined pieces. -/
theorem mem_intercalate {α : Type} {separator element : α} {pieces : List (List α)}
    {piece : List α} (among : piece ∈ pieces) (inside : element ∈ piece) :
    element ∈ [separator].intercalate pieces := by
  induction pieces with
  | nil => exact absurd among List.not_mem_nil
  | cons first others ih =>
    cases others with
    | nil =>
      rw [List.mem_singleton.mp among] at inside
      rwa [List.intercalate_singleton]
    | cons second others =>
      rw [List.intercalate_cons_cons, List.mem_append, List.mem_append]
      rcases List.mem_cons.mp among with rfl | later
      · exact Or.inl (Or.inl inside)
      · exact Or.inr (ih later)

/-- A byte of a piece is a byte of the path. -/
theorem mem_of_mem_splitOn {path piece : Bytes} {byte : UInt8}
    (among : piece ∈ path.splitOn slash) (inside : byte ∈ piece) : byte ∈ path := by
  have joined : [slash].intercalate (path.splitOn slash) = path := List.intercalate_splitOn slash
  rw [← joined]
  exact mem_intercalate among inside

/-- A piece that counts as a name is one. -/
theorem isName_of_componentOf {piece name : Bytes} (noSlash : slash ∉ piece)
    (counted : componentOf piece = some (.normal name)) : piece = name ∧ IsName name := by
  unfold componentOf at counted
  split_ifs at counted with skipped dots
  · cases counted
  · obtain rfl := Component.normal.inj (Option.some.inj counted)
    push Not at skipped
    exact ⟨rfl, skipped.1, noSlash, skipped.2, dots⟩

/-- A name among the components of a path is one, and its bytes are bytes of the path. -/
theorem isName_of_mem_components {path name : Bytes} (among : .normal name ∈ components path) :
    IsName name ∧ ∀ byte ∈ name, byte ∈ path := by
  unfold components componentsOf at among
  rcases List.mem_append.mp among with leading | counted
  · -- The front of a path adds no name.
    exfalso
    cases pieces : path.splitOn slash with
    | nil => exact absurd pieces (List.splitOn_ne_nil slash path)
    | cons first others =>
      rw [pieces, leadingComponent] at leading
      split_ifs at leading <;> simp at leading
  · obtain ⟨piece, cut, same⟩ := List.mem_filterMap.mp counted
    obtain ⟨rfl, isName⟩ := isName_of_componentOf (noSlash_of_mem_splitOn cut) same
    exact ⟨isName, fun byte inside => mem_of_mem_splitOn cut inside⟩

/-- A further piece does not change the front of a path, unless the path is empty. -/
theorem leadingComponent_append {pieces : List Bytes} (some_ : pieces ≠ []) (nonempty : pieces ≠ [[]])
    (name : Bytes) : leadingComponent (pieces ++ [name]) = leadingComponent pieces := by
  cases pieces with
  | nil => exact absurd rfl some_
  | cons first others =>
    cases others with
    | cons second others => simp [leadingComponent]
    | nil =>
      have named : first ≠ [] := fun empty => nonempty (by rw [empty])
      simp [leadingComponent, named]

/-- A further piece that is a name is a further component. -/
theorem componentsOf_append {pieces : List Bytes} (some_ : pieces ≠ []) (nonempty : pieces ≠ [[]])
    {name : Bytes} (isName : IsName name) :
    componentsOf (pieces ++ [name]) = componentsOf pieces ++ [.normal name] := by
  unfold componentsOf
  rw [leadingComponent_append some_ nonempty, List.filterMap_append, List.append_assoc]
  congr 2
  simp [isName.componentOf]

theorem splitOn_ne_blank {path : Bytes} (nonempty : path ≠ []) : path.splitOn slash ≠ [[]] := by
  intro blank
  have joined : [slash].intercalate (path.splitOn slash) = path := List.intercalate_splitOn slash
  rw [blank] at joined
  exact nonempty joined.symm

/-- A path below a directory has one component more. -/
theorem components_joinPath (dir : Bytes) {name : Bytes} (isName : IsName name) :
    components (joinPath dir name) = components dir ++ [.normal name] := by
  have single : name.splitOn slash = [name] := List.splitOn_eq_singleton isName.noSlash
  unfold joinPath components
  split
  · next empty =>
    -- Below the empty path stands the name alone.
    rw [empty, single]
    show leadingComponent [name] ++ [name].filterMap componentOf = [.normal name]
    have noFront : leadingComponent [name] = [] := by
      simp [leadingComponent, isName.notDot]
    rw [noFront]
    simp [isName.componentOf]
  · next nonempty =>
    split
    · next closed =>
      -- The directory ends in a separator, behind which its last piece is empty.
      obtain ⟨front, rfl⟩ : ∃ front, dir = front ++ [slash] :=
        ⟨dir.dropLast, (List.dropLast_append_getLast? slash closed).symm⟩
      have cut : (front ++ [slash]).splitOn slash = front.splitOn slash ++ [[]] :=
        List.splitOn_append_cons_self front []
      have cutName : (front ++ [slash] ++ name).splitOn slash = front.splitOn slash ++ [name] := by
        rw [List.append_assoc, List.singleton_append, List.splitOn_append_cons_self, single]
      rw [cut, cutName]
      by_cases root : front = []
      · subst root
        show .rootDir :: [name].filterMap componentOf = [.rootDir] ++ [.normal name]
        rw [List.filterMap_cons_some isName.componentOf]
        rfl
      · have nonblank := splitOn_ne_blank root
        have some_ := List.splitOn_ne_nil slash front
        rw [componentsOf_append some_ nonblank isName]
        congr 1
        unfold componentsOf
        rw [leadingComponent_append some_ nonblank, List.filterMap_append]
        simp [componentOf]
    · rw [List.splitOn_append_cons_self, single]
      exact componentsOf_append (List.splitOn_ne_nil slash dir) (splitOn_ne_blank nonempty) isName

/-- Names joined by separators are the components of what they make up. -/
theorem components_intercalate {names : List Bytes} (some_ : names ≠ [])
    (areNames : ∀ name ∈ names, IsName name) :
    components ([slash].intercalate names) = names.map .normal := by
  unfold components
  rw [List.splitOn_intercalate slash (fun name among => (areNames name among).noSlash) some_]
  have noFront : leadingComponent names = [] := by
    cases names with
    | nil => rfl
    | cons first others =>
      have isName := areNames first List.mem_cons_self
      simp [leadingComponent, isName.nonempty, isName.notDot]
  rw [componentsOf, noFront, List.nil_append]
  clear noFront some_
  induction names with
  | nil => rfl
  | cons first others ih =>
    rw [List.filterMap_cons_some (areNames first List.mem_cons_self).componentOf, List.map_cons,
      ih fun name among => areNames name (List.mem_cons_of_mem first among)]

end Gritty
