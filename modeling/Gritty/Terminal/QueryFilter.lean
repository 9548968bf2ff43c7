import Gritty.Terminal.PrivateModes

/-! The filter that takes terminal queries out of replayed output. -/

namespace Gritty

/-- A longer control sequence is not a query. -/
def maxCsiBytes : Nat := 64

/-- A longer string is not a query. -/
def maxStringBytes : Nat := 4096

/-- The window operations that make the terminal reply. -/
def xtwinopsReports : List Bytes :=
  ["11", "13", "14", "15", "16", "18", "19", "20", "21"].map ascii

inductive FilterState where
  | ground
  | esc
  | csi
  /-- Inside a string, up to its terminator. -/
  | stringBody
  /-- After an escape byte inside a string. -/
  | stringEsc
  deriving DecidableEq

inductive StringKind where
  | osc
  | dcs
  | apc
  deriving DecidableEq

/-- The fields of a text between separators. There is always at least one. -/
def splitFields (separator : UInt8) : Bytes → List Bytes
  | [] => [[]]
  | byte :: later =>
    if byte = separator then [] :: splitFields separator later
    else
      match splitFields separator later with
      | first :: others => (byte :: first) :: others
      | [] => [[byte]]

/-- A text without the given ending, if it has it. -/
def stripSuffix? (text ending : Bytes) : Option Bytes :=
  if ending.isSuffixOf text then some (text.take (text.length - ending.length)) else none

/-- A text without the given beginning, if it has it. -/
def stripPrefix? (text beginning : Bytes) : Option Bytes :=
  if beginning.isPrefixOf text then some (text.drop beginning.length) else none

/-- A string without its terminator. -/
def stripTerminator (body : Bytes) : Bytes :=
  ((stripSuffix? body [escByte, 0x5c]).or (stripSuffix? body [0x07])).getD body

/-- Graphics control data that asks for an answer. -/
def kittyIsQuery (control : Bytes) : Bool :=
  (splitFields 0x2c control).any fun field => field == ascii "a=q"

/-- A byte between the parameters and the final byte of a control sequence. -/
def isIntermediate (byte : UInt8) : Bool := 0x20 ≤ byte && byte ≤ 0x2f

/-- A control sequence that makes the terminal reply, by the bytes inside it and its final byte. -/
def isCsiQuery (inner : Bytes) (finalByte : UInt8) : Bool :=
  let params := inner.takeWhile fun byte => !isIntermediate byte
  let intermediates := inner.dropWhile fun byte => !isIntermediate byte
  let fields := splitFields 0x3b
    ((((stripPrefix? params (ascii "?")).or (stripPrefix? params (ascii ">"))).or
      (stripPrefix? params (ascii "="))).getD params)
  let first := fields.headD []
  let second := fields.tail.headD []
  if intermediates = ascii "$" then finalByte = 0x70
  else if intermediates = [] then
    if finalByte = 0x63 then true
    else if finalByte = 0x6e then true
    else if finalByte = 0x71 then (ascii ">").isPrefixOf params
    else if finalByte = 0x75 then params = ascii "?"
    else if finalByte = 0x74 then xtwinopsReports.contains first
    else if finalByte = 0x53 then
      (ascii "?").isPrefixOf params && (second = ascii "1" || second = ascii "4")
    else false
  else false

/-- What the filter has read of the sequence it is deciding on. -/
structure QueryFilter where
  state : FilterState
  kind : Option StringKind
  /-- The bytes held back, the escape byte included. -/
  pending : Bytes
  deriving DecidableEq

namespace QueryFilter

/-- A filter between sequences. -/
def new : QueryFilter := { state := .ground, kind := none, pending := [] }

/-- A string that may still turn out to be a query. -/
def stringMayBeQuery (kind : Option StringKind) (body : Bytes) : Bool :=
  match kind with
  | some .dcs => body.length < 2 || (ascii "$q").isPrefixOf body || (ascii "+q").isPrefixOf body
  | some .apc =>
    match body with
    | [] => true
    | first :: control =>
      if first ≠ 0x47 then false
      else if control.contains 0x3b then kittyIsQuery (control.takeWhile (· ≠ 0x3b))
      else true
  | _ => true

/-- A complete string that is a query, by its body without the terminator. -/
def stringIsQuery (kind : Option StringKind) (body : Bytes) : Bool :=
  match kind with
  | some .osc => (splitFields 0x3b body).getLast? = some (ascii "?")
  | some .dcs => (ascii "$q").isPrefixOf body || (ascii "+q").isPrefixOf body
  | some .apc =>
    kittyIsQuery (((stripPrefix? body (ascii "G")).getD []).takeWhile (· ≠ 0x3b))
  | none => false

/-- Forget the sequence. -/
def drop : QueryFilter × Bytes := (new, [])

/-- Let the sequence through. -/
def flushRaw (pending : Bytes) : QueryFilter × Bytes := (new, pending)

/-- A complete string is forgotten or let through. -/
def endString (kind : Option StringKind) (pending : Bytes) : QueryFilter × Bytes :=
  if stringIsQuery kind (stripTerminator (pending.drop 2)) then drop else flushRaw pending

/-- A byte between sequences. -/
def stepGround (byte : UInt8) : QueryFilter × Bytes :=
  if byte = escByte then ({ state := .esc, kind := none, pending := [byte] }, [])
  else (new, [byte])

/-- Let the sequence through, and read the byte after it afresh. -/
def flushAndStep (pending : Bytes) (byte : UInt8) : QueryFilter × Bytes :=
  let (next, written) := stepGround byte
  (next, pending ++ written)

/-- A byte after an escape byte. -/
def stepEsc (pending : Bytes) (byte : UInt8) : QueryFilter × Bytes :=
  if byte = 0x5b then ({ state := .csi, kind := none, pending := pending ++ [byte] }, [])
  else if byte = 0x5d then
    ({ state := .stringBody, kind := some .osc, pending := pending ++ [byte] }, [])
  else if byte = 0x50 then
    ({ state := .stringBody, kind := some .dcs, pending := pending ++ [byte] }, [])
  else if byte = 0x5f then
    ({ state := .stringBody, kind := some .apc, pending := pending ++ [byte] }, [])
  else if byte = 0x5a then drop
  else flushAndStep pending byte

/-- A byte inside a control sequence. -/
def stepCsi (pending : Bytes) (byte : UInt8) : QueryFilter × Bytes :=
  if maxCsiBytes ≤ pending.length then flushAndStep pending byte
  else if 0x20 ≤ byte ∧ byte ≤ 0x3f then
    ({ state := .csi, kind := none, pending := pending ++ [byte] }, [])
  else if 0x40 ≤ byte ∧ byte ≤ 0x7e then
    if isCsiQuery (pending.drop 2) byte then drop else flushRaw (pending ++ [byte])
  else flushAndStep pending byte

/-- A byte inside a string. -/
def stepStringBody (kind : Option StringKind) (pending : Bytes) (byte : UInt8) :
    QueryFilter × Bytes :=
  let pending := pending ++ [byte]
  if byte = escByte then ({ state := .stringEsc, kind, pending }, [])
  else if byte = 0x07 then endString kind pending
  else if maxStringBytes < pending.length || !stringMayBeQuery kind (pending.drop 2) then
    flushRaw pending
  else ({ state := .stringBody, kind, pending }, [])

/-- A byte after an escape byte inside a string. Unless it ends the string, a new sequence has begun. -/
def stepStringEsc (kind : Option StringKind) (pending : Bytes) (byte : UInt8) :
    QueryFilter × Bytes :=
  if byte = 0x5c then endString kind (pending ++ [byte])
  else
    let (next, written) := stepEsc (pending.drop (pending.length - 1)) byte
    (next, pending.take (pending.length - 1) ++ written)

/-- One byte of replayed output, and what is let through. -/
def step (filter : QueryFilter) (byte : UInt8) : QueryFilter × Bytes :=
  match filter.state with
  | .ground => stepGround byte
  | .esc => stepEsc filter.pending byte
  | .csi => stepCsi filter.pending byte
  | .stringBody => stepStringBody filter.kind filter.pending byte
  | .stringEsc => stepStringEsc filter.kind filter.pending byte

/-- At the end of the stream, what is held back is let through. -/
def finish (filter : QueryFilter) : Bytes := filter.pending

end QueryFilter

/-- The filter over whole streams. -/
def queryFilter : Transducer QueryFilter UInt8 UInt8 where
  step := QueryFilter.step

/-- A complete text without its queries. -/
def stripQueries (bytes : Bytes) : Bytes :=
  let (filter, written) := queryFilter.run .new bytes
  written ++ filter.finish

/-- Between sequences, bytes other than the escape byte are let through as they are. -/
theorem queryFilter_plain {bytes : Bytes} (plain : escByte ∉ bytes) :
    queryFilter.run .new bytes = (.new, bytes) := by
  induction bytes with
  | nil => rfl
  | cons byte later ih =>
    obtain ⟨first, rest⟩ := not_or.mp (List.mem_cons.not.mp plain)
    have stepped : queryFilter.step .new byte = (.new, [byte]) := by
      simp only [queryFilter, QueryFilter.step, QueryFilter.new, QueryFilter.stepGround]
      rw [if_neg (Ne.symm first)]
    rw [Transducer.run_cons, stepped, ih rest]
    rfl

/-- A text without an escape byte has no queries. -/
theorem stripQueries_plain {bytes : Bytes} (plain : escByte ∉ bytes) :
    stripQueries bytes = bytes := by
  unfold stripQueries
  rw [queryFilter_plain plain]
  exact List.append_nil bytes

/-- The queries a text editor starts with are taken out of the text around them. -/
example : stripQueries (ascii "before " ++ escByte :: ascii "[>q" ++ escByte :: ascii "[?2026$p" ++
    escByte :: ascii "]11;?" ++ [escByte, 0x5c] ++ ascii " after") = ascii "before  after" := by
  decide

end Gritty
