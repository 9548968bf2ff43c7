import Gritty.Lib.CommandLine
import Gritty.Lib.Decimal

/-! Where a connection goes: the destination as it is typed, and as it is handed to ssh. -/

namespace Gritty

/-- A destination taken apart. -/
structure Destination where
  user : Option Text
  host : Text
  port : Option UInt16
  deriving DecidableEq

/-- A port number as it is typed. -/
def parsePort (digits : Text) : Option UInt16 := (parseBelow 65536 digits).map UInt16.ofNat

namespace Destination

/-- The host and the port of what follows the user. The text of the whole destination is for errors. -/
def parseHost (whole : String) : Text → Except String (Text × Option UInt16)
  | '[' :: inside =>
    match splitAtFirst ']' inside with
    | none => .error s!"unclosed bracket in destination: {whole}"
    | some (host, []) => .ok (host, none)
    | some (host, ':' :: digits) =>
      match parsePort digits with
      | some port => .ok (host, some port)
      | none => .error s!"invalid port in destination: {whole}"
    | some _ => .error s!"unexpected characters after bracketed host: {whole}"
  | remainder =>
    -- Several colons without brackets are an address.
    if 1 < remainder.count ':' then .ok (remainder, none)
    else
      match splitAtLast ':' remainder with
      | none => .ok (remainder, none)
      | some (host, digits) =>
        match parsePort digits with
        | some port => .ok (host, some port)
        | none => .ok (remainder, none)

/-- The user before the first `@`, and what follows. -/
def splitUser (whole : String) (text : Text) : Except String (Option Text × Text) :=
  match splitAtFirst '@' text with
  | some ([], _) => .error s!"empty user in destination: {whole}"
  | some (user, remainder) => .ok (some user, remainder)
  | none => .ok (none, text)

/-- A destination as it is typed. -/
def parse (text : Text) : Except String Destination :=
  let whole := String.ofList text
  if text = [] then .error "empty destination"
  -- A dash in front would make ssh take the destination for an option.
  else if text.head? = some '-' then .error s!"destination must not start with '-': {whole}"
  else
    match splitUser whole text with
    | .error reason => .error reason
    | .ok (user, remainder) =>
      match parseHost whole remainder with
      | .error reason => .error reason
      | .ok (host, port) =>
        if host = [] then .error s!"empty host in destination: {whole}"
        else .ok { user, host, port }

/-- The destination as an argument of ssh. -/
def sshDest (destination : Destination) : Text :=
  match destination.user with
  | some user => user ++ '@' :: destination.host
  | none => destination.host

/-- The port in arguments of ssh. -/
def portArgs (destination : Destination) : List Text :=
  match destination.port with
  | some port => ["-p".toList, Nat.toDigits 10 port.toNat]
  | none => []

end Destination

/-! ### What a destination says -/

/-- How a host is spelled, with a port or without. -/
inductive HostSpelling : Text → Text → Option UInt16 → Prop where
  | bracketed (host : Text) (inside : ']' ∉ host) :
    HostSpelling ('[' :: (host ++ [']'])) host none
  | bracketedPort (host digits : Text) (port : UInt16) (inside : ']' ∉ host)
    (number : parsePort digits = some port) :
    HostSpelling ('[' :: (host ++ ']' :: ':' :: digits)) host (some port)
  | port (host digits : Text) (port : UInt16) (bare : host.head? ≠ some '[') (single : ':' ∉ host)
    (number : parsePort digits = some port) :
    HostSpelling (host ++ ':' :: digits) host (some port)
  /-- No brackets, and nothing that is a port behind the only colon. -/
  | bare (host : Text) (bare : host.head? ≠ some '[')
    (noPort : ∀ name digits, ':' ∉ name → host = name ++ ':' :: digits →
      parsePort digits = none) :
    HostSpelling host host none

/-- How a user and a host are spelled. -/
inductive Spells : Text → Destination → Prop where
  | host (text host : Text) (port : Option UInt16) (noUser : '@' ∉ text)
    (spelling : HostSpelling text host port) : Spells text ⟨none, host, port⟩
  | userAtHost (user rest host : Text) (port : Option UInt16) (nonempty : user ≠ [])
    (first : '@' ∉ user) (spelling : HostSpelling rest host port) :
    Spells (user ++ '@' :: rest) ⟨some user, host, port⟩

/-- A port number has no colon in it. -/
theorem colon_notMem_of_parsePort {digits : Text} {port : UInt16}
    (number : parsePort digits = some port) : ':' ∉ digits := by
  obtain ⟨value, read, -⟩ := Option.map_eq_some_iff.mp number
  have digit := isDigit_of_parseBelow read
  intro among
  -- A colon is neither a digit nor the sign.
  unfold unsigned at digit
  split at digit
  · exact absurd (digit ':' ((List.mem_cons.mp among).resolve_left (by decide))) (by decide)
  · exact absurd (digit ':' among) (by decide)

namespace Destination

/-- The host that is taken apart is the one that is spelled. -/
theorem parseHost_spelling {whole : String} {remainder host : Text} {port : Option UInt16}
    (parsed : parseHost whole remainder = .ok (host, port)) :
    HostSpelling remainder host port := by
  unfold parseHost at parsed
  split at parsed
  · rename_i inside
    split at parsed
    · cases parsed
    · rename_i before found
      cases parsed
      obtain ⟨rfl, first⟩ := splitAtFirst_eq_some.mp found
      exact .bracketed host first
    · rename_i before digits found
      obtain ⟨rfl, first⟩ := splitAtFirst_eq_some.mp found
      split at parsed
      · rename_i number read
        cases parsed
        exact .bracketedPort host digits number first read
      · cases parsed
    · cases parsed
  · rename_i noBracket
    have bare : remainder.head? ≠ some '[' := by
      intro bracket
      obtain ⟨inside, rfl⟩ := List.head?_eq_some_iff.mp bracket
      exact noBracket inside rfl
    split_ifs at parsed with several
    · cases parsed
      refine .bare remainder bare fun name digits single shape => ?_
      -- The other colon is among the digits.
      cases number : parsePort digits with
      | none => rfl
      | some port =>
        have none_ := colon_notMem_of_parsePort number
        rw [shape, List.count_append, List.count_cons_self, List.count_eq_zero.mpr single,
          List.count_eq_zero.mpr none_] at several
        omega
    · split at parsed
      · rename_i found
        cases parsed
        refine .bare remainder bare fun name digits single shape => ?_
        refine absurd (splitAtLast_eq_none.mp found) (not_not.mpr ?_)
        rw [shape]
        exact List.mem_append_right _ List.mem_cons_self
      · rename_i before digits found
        obtain ⟨shape, last⟩ := splitAtLast_eq_some.mp found
        have single : ':' ∉ before := by
          rw [shape, List.count_append, List.count_cons_self] at several
          exact List.count_eq_zero.mp (by omega)
        split at parsed
        · rename_i number read
          cases parsed
          rw [shape]
          refine .port host digits number (fun bracket => bare ?_) single read
          rw [shape, List.head?_append, bracket]
          rfl
        · rename_i noNumber
          cases parsed
          refine .bare remainder bare fun name others first also => ?_
          -- There is one colon only, so it is the same one.
          rw [shape] at also
          have split := (splitAtFirst_eq_some.mpr ⟨also, first⟩).symm.trans
            (splitAtFirst_eq_some.mpr ⟨rfl, single⟩)
          rw [Option.some.injEq, Prod.mk.injEq] at split
          rw [split.2]
          exact noNumber

/-- What parsing a destination takes for granted, and what it gives. -/
structure Parsed (text : Text) (destination : Destination) : Prop where
  spells : Spells text destination
  noDash : text.head? ≠ some '-'
  host : destination.host ≠ []

/-- A destination that is accepted is parsed as the text says. -/
theorem parsed_of_parse {text : Text} {destination : Destination}
    (accepted : parse text = .ok destination) : Parsed text destination := by
  unfold parse at accepted
  dsimp only at accepted
  split_ifs at accepted with empty dash
  split at accepted
  · cases accepted
  rename_i user remainder split_
  split at accepted
  · cases accepted
  rename_i host port parsed
  split_ifs at accepted with noHost
  cases accepted
  have spelling := parseHost_spelling parsed
  refine ⟨?_, dash, noHost⟩
  unfold splitUser at split_
  split at split_
  · cases split_
  · rename_i before after nonempty found
    cases split_
    obtain ⟨shape, first⟩ := splitAtFirst_eq_some.mp found
    rw [shape]
    exact .userAtHost before remainder host port nonempty first spelling
  · rename_i found
    cases split_
    exact .host text host port (splitAtFirst_eq_none.mp found) spelling

end Destination

/-- Brackets around a host hide the dash that it begins with. -/
def DashInBrackets (text : Text) : Prop := '@' ∉ text ∧ ['[', '-'] <+: text

/-- A bracket with a dash behind it begins a text exactly if the host begins with the dash. -/
theorem dash_prefix_iff {host after : Text} (nonempty : host ≠ []) :
    ['[', '-'] <+: '[' :: (host ++ after) ↔ host.head? = some '-' := by
  cases host with
  | nil => exact absurd rfl nonempty
  | cons char host =>
    rw [List.prefix_cons_inj, List.cons_append, List.cons_prefix_cons, List.head?_cons,
      Option.some.injEq]
    exact ⟨fun both => both.1.symm, fun same => ⟨same.symm, List.nil_prefix⟩⟩

/-- A host without brackets begins the text, and so does its first character. -/
theorem operand_iff_of_bare {host after : Text} (nonempty : host ≠ [])
    (bare : host.head? ≠ some '[') (noDash : (host ++ after).head? ≠ some '-') :
    Operand host ↔ ¬ DashInBrackets (host ++ after) := by
  cases host with
  | nil => exact absurd rfl nonempty
  | cons char host =>
    refine iff_of_true noDash fun hidden => bare ?_
    obtain ⟨same, -⟩ := List.cons_prefix_cons.mp hidden.2
    rw [List.head?_cons, ← same]

/-- The argument is taken for an option exactly if the host begins with a dash in brackets. -/
theorem Destination.Parsed.operand_iff {text : Text} {destination : Destination}
    (parsed : Parsed text destination) :
    Operand destination.sshDest ↔ ¬ DashInBrackets text := by
  obtain ⟨spells, noDash, nonempty⟩ := parsed
  cases spells with
  | userAtHost user rest host port some_ first spelling =>
    refine iff_of_true ?_ fun hidden => hidden.1 (List.mem_append_right _ List.mem_cons_self)
    cases user with
    | nil => exact absurd rfl some_
    | cons char user => exact noDash
  | host text host port noUser spelling =>
    dsimp only at nonempty
    show Operand host ↔ _
    cases spelling with
    | bracketed host inside =>
      rw [DashInBrackets, dash_prefix_iff nonempty, Operand]
      exact not_congr ⟨fun dash => ⟨noUser, dash⟩, fun both => both.2⟩
    | bracketedPort host digits port inside number =>
      rw [DashInBrackets, dash_prefix_iff nonempty, Operand]
      exact not_congr ⟨fun dash => ⟨noUser, dash⟩, fun both => both.2⟩
    | port host digits port bare single number => exact operand_iff_of_bare nonempty bare noDash
    | bare _ bare noPort =>
      rw [← List.append_nil text] at noDash
      have same := operand_iff_of_bare nonempty bare noDash
      rwa [List.append_nil] at same

end Gritty
