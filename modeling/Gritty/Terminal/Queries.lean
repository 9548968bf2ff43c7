import Gritty.Lib.Erasure
import Gritty.Terminal.QueryFilter

/-! The query filter erases exactly the terminal queries of a text. -/

namespace Gritty

/-- The byte after the escape byte that starts a string of this kind. -/
def StringKind.introducer : StringKind → UInt8
  | .osc => 0x5d
  | .dcs => 0x50
  | .apc => 0x5f

/-- A byte between the introducer and the final byte of a control sequence. -/
def IsParameter (byte : UInt8) : Prop := 0x20 ≤ byte ∧ byte ≤ 0x3f

/-- A byte inside a string, where neither a terminator nor a new sequence starts. -/
def IsStringByte (byte : UInt8) : Prop := byte ≠ escByte ∧ byte ≠ 0x07

/-- A sequence that makes the terminal reply. -/
inductive TerminalQuery : Bytes → Prop where
  | identify : TerminalQuery [escByte, 0x5a]
  | control {inner : Bytes} {finalByte : UInt8} (parameters : ∀ byte ∈ inner, IsParameter byte)
      (short : inner.length + 2 < maxCsiBytes) (final : 0x40 ≤ finalByte ∧ finalByte ≤ 0x7e)
      (asks : isCsiQuery inner finalByte = true) :
      TerminalQuery (escByte :: 0x5b :: (inner ++ [finalByte]))
  | string {kind : StringKind} {body terminator : Bytes} (plain : ∀ byte ∈ body, IsStringByte byte)
      (short : body.length + 2 ≤ maxStringBytes)
      (ends : terminator = [0x07] ∨ terminator = [escByte, 0x5c])
      (asks : QueryFilter.stringIsQuery (some kind) body = true) :
      TerminalQuery (escByte :: kind.introducer :: (body ++ terminator))

/-- A byte from the space on is not the escape byte. -/
theorem ne_escByte_of_le {bound byte : UInt8} (least : bound ≤ byte) (above : escByte < bound) :
    byte ≠ escByte :=
  UInt8.ne_of_lt (UInt8.lt_of_lt_of_le above least) |>.symm

theorem IsParameter.ne_escByte {byte : UInt8} (parameter : IsParameter byte) : byte ≠ escByte :=
  ne_escByte_of_le parameter.1 (by decide)

/-- No query starts a text. -/
def NoQueryAhead (text : Bytes) : Prop := ∀ query, TerminalQuery query → ¬ query <+: text

namespace QueryFilter

/-- A filter that has read only an escape byte. -/
def afterEsc : QueryFilter := { state := .esc, kind := none, pending := [escByte] }

/-- Everything a filter lets through until the end of the stream. -/
def scrubbed (filter : QueryFilter) (bytes : Bytes) : Bytes :=
  (queryFilter.run filter bytes).2 ++ (queryFilter.run filter bytes).1.finish

theorem scrubbed_cons (filter : QueryFilter) (byte : UInt8) (later : Bytes) :
    filter.scrubbed (byte :: later) =
      (filter.step byte).2 ++ (filter.step byte).1.scrubbed later := by
  unfold scrubbed
  rw [Transducer.run_cons, List.append_assoc]
  rfl

/-- A sequence that is given up is let through, and the byte after it is read afresh. -/
theorem scrubbed_flushAndStep (pending : Bytes) (byte : UInt8) (later : Bytes) :
    (flushAndStep pending byte).2 ++ (flushAndStep pending byte).1.scrubbed later =
      pending ++ new.scrubbed (byte :: later) := by
  rw [scrubbed_cons]
  exact List.append_assoc _ _ _

/-- A byte that starts no sequence is let through. -/
theorem scrubbed_plain {byte : UInt8} (plain : byte ≠ escByte) (later : Bytes) :
    new.scrubbed (byte :: later) = byte :: new.scrubbed later := by
  have stepped : new.step byte = (new, [byte]) := if_neg plain
  rw [scrubbed_cons, stepped]
  rfl

theorem scrubbed_esc (later : Bytes) :
    new.scrubbed (escByte :: later) = afterEsc.scrubbed later := by
  rw [scrubbed_cons]
  rfl

end QueryFilter

/-- A string is read back from the bytes held back at its terminator. -/
theorem stripTerminator_append (body : Bytes) {terminator : Bytes}
    (ends : terminator = [0x07] ∨ terminator = [escByte, 0x5c]) :
    stripTerminator (body ++ terminator) = body := by
  have dropped (ending : Bytes) : stripSuffix? (body ++ ending) ending = some body := by
    have isEnd : ending.isSuffixOf (body ++ ending) = true :=
      List.isSuffixOf_iff_suffix.mpr (List.suffix_append body ending)
    unfold stripSuffix?
    rw [if_pos isEnd, List.length_append, Nat.add_sub_cancel, List.take_left]
  unfold stripTerminator
  rcases ends with rfl | rfl
  · -- The last byte of the other terminator is another one.
    have other : stripSuffix? (body ++ [0x07]) [escByte, 0x5c] = none := by
      apply if_neg
      rw [List.isSuffixOf_iff_suffix]
      rintro ⟨front, same⟩
      have last := congrArg List.getLast? same
      simp [List.getLast?_append] at last
    rw [other, dropped]
    rfl
  · rw [dropped]
    rfl

/-- The control data before the payload is the same in every beginning that reaches the payload. -/
private theorem takeWhile_append_reached {part : Bytes} (reached : 0x3b ∈ part) (later : Bytes) :
    (part ++ later).takeWhile (· ≠ 0x3b) = part.takeWhile (· ≠ 0x3b) := by
  induction part with
  | nil => exact absurd reached List.not_mem_nil
  | cons first part ih =>
    by_cases payload : first = 0x3b
    · subst payload
      rfl
    · have further : 0x3b ∈ part := (List.mem_cons.mp reached).resolve_left (Ne.symm payload)
      rw [List.cons_append, List.takeWhile_cons, List.takeWhile_cons, ih further]

/-- What a query starts with may be a query. -/
theorem stringMayBeQuery_of_prefix {kind : StringKind} {part body : Bytes}
    (asks : QueryFilter.stringIsQuery (some kind) body = true) (starts : part <+: body) :
    QueryFilter.stringMayBeQuery (some kind) part = true := by
  cases kind with
  | osc => rfl
  | dcs =>
    simp only [QueryFilter.stringIsQuery, QueryFilter.stringMayBeQuery, Bool.or_eq_true,
      decide_eq_true_eq, List.isPrefixOf_iff_prefix] at asks ⊢
    by_cases short : part.length < 2
    · exact Or.inl (Or.inl short)
    · -- From its second byte on, the beginning shows which request it is.
      rcases asks with status | capability
      · exact Or.inl (Or.inr (List.prefix_of_prefix_length_le status starts (Nat.le_of_not_lt short)))
      · exact Or.inr (List.prefix_of_prefix_length_le capability starts (Nat.le_of_not_lt short))
  | apc =>
    cases part with
    | nil => rfl
    | cons first control =>
      obtain ⟨later, rfl⟩ := starts
      by_cases graphics : first = 0x47
      · subst graphics
        have control_eq : stripPrefix? (0x47 :: control ++ later) (ascii "G") =
            some (control ++ later) := rfl
        simp only [QueryFilter.stringIsQuery, control_eq, Option.getD_some] at asks
        simp only [QueryFilter.stringMayBeQuery, ne_eq, not_true_eq_false, if_false]
        by_cases reached : 0x3b ∈ control
        · rw [takeWhile_append_reached reached] at asks
          simpa [reached] using asks
        · simp [reached]
      · -- Only graphics commands are queries here.
        have other : stripPrefix? (first :: control ++ later) (ascii "G") = none := by
          apply if_neg
          rw [List.isPrefixOf_iff_prefix]
          intro starts
          exact graphics (List.cons_prefix_cons.mp starts).1.symm
        simp only [QueryFilter.stringIsQuery, other, Option.getD_none] at asks
        exact absurd asks (by decide)

namespace QueryFilter

/-- A filter inside a control sequence. -/
def insideControl (inner : Bytes) : QueryFilter :=
  { state := .csi, kind := none, pending := escByte :: 0x5b :: inner }

/-- A filter inside a string. -/
def insideString (kind : StringKind) (body : Bytes) : QueryFilter :=
  { state := .stringBody, kind := some kind, pending := escByte :: kind.introducer :: body }

/-- A filter after an escape byte inside a string. -/
def insideStringEsc (kind : StringKind) (body : Bytes) : QueryFilter :=
  { state := .stringEsc, kind := some kind,
    pending := escByte :: kind.introducer :: (body ++ [escByte]) }

theorem scrubbed_control (later : Bytes) :
    afterEsc.scrubbed (0x5b :: later) = (insideControl []).scrubbed later := by
  rw [scrubbed_cons]
  rfl

theorem scrubbed_string (kind : StringKind) (later : Bytes) :
    afterEsc.scrubbed (kind.introducer :: later) = (insideString kind []).scrubbed later := by
  rw [scrubbed_cons]
  cases kind <;> rfl

/-- A byte that starts neither a control sequence nor a string ends what an escape byte began. -/
theorem step_afterEsc_other {byte : UInt8} (notControl : byte ≠ 0x5b)
    (notString : ∀ kind : StringKind, byte ≠ kind.introducer) (notIdentify : byte ≠ 0x5a) :
    afterEsc.step byte = flushAndStep [escByte] byte := by
  show stepEsc [escByte] byte = flushAndStep [escByte] byte
  have notOsc : byte ≠ 0x5d := notString .osc
  have notDcs : byte ≠ 0x50 := notString .dcs
  have notApc : byte ≠ 0x5f := notString .apc
  unfold stepEsc
  rw [if_neg notControl, if_neg notOsc, if_neg notDcs, if_neg notApc, if_neg notIdentify]

/-- A byte inside a control sequence is held back. -/
theorem step_parameter {inner : Bytes} {byte : UInt8} (parameter : IsParameter byte)
    (short : inner.length + 2 < maxCsiBytes) :
    (insideControl inner).step byte = (insideControl (inner ++ [byte]), []) := by
  show stepCsi (escByte :: 0x5b :: inner) byte = _
  unfold stepCsi
  have fits : ¬ maxCsiBytes ≤ (escByte :: 0x5b :: inner).length := Nat.not_le.mpr short
  unfold IsParameter at parameter
  rw [if_neg fits, if_pos parameter]
  rfl

/-- The final byte decides on a control sequence. -/
theorem step_final {inner : Bytes} {byte : UInt8} (final : 0x40 ≤ byte ∧ byte ≤ 0x7e)
    (short : inner.length + 2 < maxCsiBytes) :
    (insideControl inner).step byte =
      if isCsiQuery inner byte then drop
      else flushRaw (escByte :: 0x5b :: (inner ++ [byte])) := by
  show stepCsi (escByte :: 0x5b :: inner) byte = _
  unfold stepCsi
  have fits : ¬ maxCsiBytes ≤ (escByte :: 0x5b :: inner).length := Nat.not_le.mpr short
  have notParameter : ¬ (0x20 ≤ byte ∧ byte ≤ 0x3f) := by
    rintro ⟨-, below⟩
    exact absurd (UInt8.le_trans final.1 below) (by decide)
  rw [if_neg fits, if_neg notParameter, if_pos final]
  rfl

/-- Any other byte, or too many of them, ends a control sequence. -/
theorem step_control_other {inner : Bytes} {byte : UInt8}
    (other : maxCsiBytes ≤ inner.length + 2 ∨
      ¬ (0x20 ≤ byte ∧ byte ≤ 0x3f) ∧ ¬ (0x40 ≤ byte ∧ byte ≤ 0x7e)) :
    (insideControl inner).step byte = flushAndStep (escByte :: 0x5b :: inner) byte := by
  show stepCsi (escByte :: 0x5b :: inner) byte = _
  unfold stepCsi
  by_cases long : maxCsiBytes ≤ (escByte :: 0x5b :: inner).length
  · rw [if_pos long]
  · obtain ⟨notParameter, notFinal⟩ := other.resolve_left long
    rw [if_neg long, if_neg notParameter, if_neg notFinal]

/-- An escape byte inside a string may end it. -/
theorem step_string_esc (kind : StringKind) (body : Bytes) :
    (insideString kind body).step escByte = (insideStringEsc kind body, []) := rfl

/-- The terminator decides on a string. -/
theorem endString_eq (kind : StringKind) (body : Bytes) {terminator : Bytes}
    (ends : terminator = [0x07] ∨ terminator = [escByte, 0x5c]) :
    endString (some kind) (escByte :: kind.introducer :: (body ++ terminator)) =
      if stringIsQuery (some kind) body then drop
      else flushRaw (escByte :: kind.introducer :: (body ++ terminator)) := by
  unfold endString
  have inner : (escByte :: kind.introducer :: (body ++ terminator)).drop 2 = body ++ terminator :=
    rfl
  rw [inner, stripTerminator_append body ends]

/-- A byte inside a string is held back, unless the string can be no query. -/
theorem step_stringByte {kind : StringKind} {body : Bytes} {byte : UInt8}
    (plain : IsStringByte byte) :
    (insideString kind body).step byte =
      if body.length + 3 ≤ maxStringBytes ∧ stringMayBeQuery (some kind) (body ++ [byte]) = true then
        (insideString kind (body ++ [byte]), [])
      else flushRaw (escByte :: kind.introducer :: (body ++ [byte])) := by
  show stepStringBody (some kind) (escByte :: kind.introducer :: body) byte = _
  unfold stepStringBody
  have size : (escByte :: kind.introducer :: body ++ [byte]).length = body.length + 3 := by simp
  have inner : (escByte :: kind.introducer :: body ++ [byte]).drop 2 = body ++ [byte] := rfl
  simp only [size, inner, if_neg plain.1, if_neg plain.2]
  by_cases held : body.length + 3 ≤ maxStringBytes ∧
    stringMayBeQuery (some kind) (body ++ [byte]) = true
  · rw [if_pos held, if_neg]
    · rfl
    · simp [held.2, Nat.not_lt.mpr held.1]
  · rw [if_neg held, if_pos]
    · rfl
    · by_cases short : body.length + 3 ≤ maxStringBytes
      · have noQuery : stringMayBeQuery (some kind) (body ++ [byte]) = false :=
          Bool.eq_false_iff.mpr fun may => held ⟨short, may⟩
        simp [noQuery]
      · simp [Nat.lt_of_not_le short]

/-- The bell byte ends a string. -/
theorem step_string_bell (kind : StringKind) (body : Bytes) :
    (insideString kind body).step 0x07 =
      endString (some kind) (escByte :: kind.introducer :: (body ++ [0x07])) := rfl

/-- A backslash after an escape byte ends a string. -/
theorem step_stringEsc_end (kind : StringKind) (body : Bytes) :
    (insideStringEsc kind body).step 0x5c =
      endString (some kind) (escByte :: kind.introducer :: (body ++ [escByte, 0x5c])) := by
  show endString (some kind) (escByte :: kind.introducer :: (body ++ [escByte]) ++ [0x5c]) = _
  simp

/-- Any other byte after an escape byte gives the string up, and reads the escape byte afresh. -/
theorem step_stringEsc_other {kind : StringKind} {body : Bytes} {byte : UInt8}
    (notEnd : byte ≠ 0x5c) :
    (insideStringEsc kind body).step byte =
      ((afterEsc.step byte).1, escByte :: kind.introducer :: body ++ (afterEsc.step byte).2) := by
  show stepStringEsc _ (escByte :: kind.introducer :: (body ++ [escByte])) byte = _
  have size : (escByte :: kind.introducer :: (body ++ [escByte])).length - 1 =
      (escByte :: kind.introducer :: body).length := by simp
  have last : (escByte :: kind.introducer :: (body ++ [escByte])).drop
      (escByte :: kind.introducer :: body).length = [escByte] :=
    List.drop_left
  have front : (escByte :: kind.introducer :: (body ++ [escByte])).take
      (escByte :: kind.introducer :: body).length = escByte :: kind.introducer :: body :=
    List.take_left
  unfold stepStringEsc
  rw [if_neg notEnd, size, last, front]
  rfl

/-- The parameters of a control sequence are held back. -/
theorem scrubbed_parameters {inner more : Bytes} (parameters : ∀ byte ∈ more, IsParameter byte)
    (short : inner.length + more.length + 2 ≤ maxCsiBytes) (later : Bytes) :
    (insideControl inner).scrubbed (more ++ later) =
      (insideControl (inner ++ more)).scrubbed later := by
  induction more generalizing inner with
  | nil => simp
  | cons byte more ih =>
    obtain ⟨parameter, rest⟩ := List.forall_mem_cons.mp parameters
    rw [List.length_cons] at short
    have fits : inner.length + 2 < maxCsiBytes := by omega
    have fitsRest : (inner ++ [byte]).length + more.length + 2 ≤ maxCsiBytes := by
      rw [List.length_append, List.length_singleton]
      omega
    rw [List.cons_append, scrubbed_cons, step_parameter parameter fits, List.nil_append,
      ih rest fitsRest, List.append_assoc, List.singleton_append]

/-- The bytes of a string that may be a query are held back. -/
theorem scrubbed_stringBytes {kind : StringKind} {body more : Bytes}
    (plain : ∀ byte ∈ more, IsStringByte byte)
    (short : body.length + more.length + 2 ≤ maxStringBytes)
    (may : ∀ part, part <+: body ++ more → stringMayBeQuery (some kind) part = true)
    (later : Bytes) :
    (insideString kind body).scrubbed (more ++ later) =
      (insideString kind (body ++ more)).scrubbed later := by
  induction more generalizing body with
  | nil => simp
  | cons byte more ih =>
    obtain ⟨first, rest⟩ := List.forall_mem_cons.mp plain
    have split : body ++ byte :: more = body ++ [byte] ++ more := by simp
    rw [split] at may
    rw [List.length_cons] at short
    have fitsRest : (body ++ [byte]).length + more.length + 2 ≤ maxStringBytes := by
      rw [List.length_append, List.length_singleton]
      omega
    have held : body.length + 3 ≤ maxStringBytes ∧
        stringMayBeQuery (some kind) (body ++ [byte]) = true :=
      ⟨by omega, may _ (List.prefix_append _ _)⟩
    rw [List.cons_append, scrubbed_cons, step_stringByte first, if_pos held, List.nil_append,
      ih rest fitsRest may, split]

/-- A query is erased. -/
theorem scrubbed_query {query : Bytes} (isQuery : TerminalQuery query) (later : Bytes) :
    new.scrubbed (query ++ later) = new.scrubbed later := by
  cases isQuery with
  | identify =>
    show new.scrubbed (escByte :: 0x5a :: later) = new.scrubbed later
    rw [scrubbed_esc, scrubbed_cons]
    rfl
  | @control inner finalByte parameters short final asks =>
    show new.scrubbed (escByte :: 0x5b :: (inner ++ [finalByte] ++ later)) = new.scrubbed later
    have fits : ([] : Bytes).length + inner.length + 2 ≤ maxCsiBytes := by
      rw [List.length_nil, Nat.zero_add]
      exact Nat.le_of_lt short
    rw [scrubbed_esc, scrubbed_control, List.append_assoc, scrubbed_parameters parameters fits,
      List.nil_append, List.singleton_append, scrubbed_cons, step_final final short, if_pos asks]
    rfl
  | @string kind body terminator plain short ends asks =>
    show new.scrubbed (escByte :: kind.introducer :: (body ++ terminator ++ later)) = _
    have fits : ([] : Bytes).length + body.length + 2 ≤ maxStringBytes := by
      rw [List.length_nil, Nat.zero_add]
      exact short
    have may : ∀ part, part <+: [] ++ body → stringMayBeQuery (some kind) part = true :=
      fun part starts => stringMayBeQuery_of_prefix asks starts
    rw [scrubbed_esc, scrubbed_string, List.append_assoc, scrubbed_stringBytes plain fits may,
      List.nil_append]
    -- Both terminators reach the same decision.
    have decision := endString_eq kind body ends
    rw [if_pos asks] at decision
    rcases ends with rfl | rfl
    · rw [List.singleton_append, scrubbed_cons, step_string_bell, decision]
      rfl
    · rw [List.cons_append, scrubbed_cons, step_string_esc, List.nil_append, List.singleton_append,
        scrubbed_cons, step_stringEsc_end, decision]
      rfl

/-- What the filter may hold back while it has not read an escape byte inside a string. -/
inductive Undecided : QueryFilter → Prop where
  | esc : Undecided afterEsc
  | control {inner : Bytes} (parameters : ∀ byte ∈ inner, IsParameter byte) :
      Undecided (insideControl inner)
  | string {kind : StringKind} {body : Bytes} (plain : ∀ byte ∈ body, IsStringByte byte)
      (short : body.length + 2 ≤ maxStringBytes) : Undecided (insideString kind body)

end QueryFilter

section

open QueryFilter

/-- No query starts a text that a query-free beginning is taken from. -/
theorem NoQueryAhead.query {query later : Bytes} (none : NoQueryAhead (query ++ later)) :
    ¬ TerminalQuery query :=
  fun isQuery => none query isQuery (List.prefix_append _ _)

/-- A string that is no query is let through with its terminator. -/
theorem scrubbed_endString {kind : StringKind} {body terminator later : Bytes}
    (plain : ∀ byte ∈ body, IsStringByte byte) (short : body.length + 2 ≤ maxStringBytes)
    (ends : terminator = [0x07] ∨ terminator = [escByte, 0x5c])
    (none : NoQueryAhead (escByte :: kind.introducer :: (body ++ terminator) ++ later)) :
    endString (some kind) (escByte :: kind.introducer :: (body ++ terminator)) =
      (new, escByte :: kind.introducer :: (body ++ terminator)) := by
  have noQuery : ¬ stringIsQuery (some kind) body = true :=
    fun asks => none.query (TerminalQuery.string plain short ends asks)
  rw [endString_eq kind body ends, if_neg noQuery]
  rfl

/-- After an escape byte, a string that is no query is let through up to that byte. -/
theorem scrubbed_insideStringEsc {kind : StringKind} {body later : Bytes}
    (plain : ∀ byte ∈ body, IsStringByte byte) (short : body.length + 2 ≤ maxStringBytes)
    (none : NoQueryAhead (escByte :: kind.introducer :: (body ++ escByte :: later))) :
    (insideStringEsc kind body).scrubbed later =
      escByte :: kind.introducer :: body ++ afterEsc.scrubbed later := by
  cases later with
  | nil =>
    show escByte :: kind.introducer :: (body ++ [escByte]) = _
    rfl
  | cons byte later =>
    by_cases isEnd : byte = 0x5c
    · subst isEnd
      have split : escByte :: kind.introducer :: (body ++ escByte :: 0x5c :: later) =
          escByte :: kind.introducer :: (body ++ [escByte, 0x5c]) ++ later := by simp
      rw [split] at none
      have ended := scrubbed_endString plain short (Or.inr rfl) none
      -- On its own, the escape byte would have been let through as well.
      have alone : afterEsc.scrubbed (0x5c :: later) = escByte :: 0x5c :: new.scrubbed later := by
        rw [scrubbed_cons]
        rfl
      rw [scrubbed_cons, step_stringEsc_end, ended, alone]
      simp
    · rw [scrubbed_cons, step_stringEsc_other isEnd, scrubbed_cons]
      exact List.append_assoc _ _ _

/-- A sequence that turns out to be no query is let through, and what follows is read afresh. -/
theorem QueryFilter.Undecided.scrubbed_eq {filter : QueryFilter} (undecided : Undecided filter) {later : Bytes}
    (none : NoQueryAhead (filter.pending ++ later)) :
    filter.scrubbed later = filter.pending ++ new.scrubbed later := by
  induction later generalizing filter with
  | nil => exact (List.append_nil _).symm
  | cons byte later ih =>
    cases undecided with
    | esc =>
      by_cases control : byte = 0x5b
      · subst control
        have inside := ih (Undecided.control (List.forall_mem_nil IsParameter)) none
        rw [scrubbed_control, inside, scrubbed_plain (by decide)]
        rfl
      · by_cases string : ∃ kind : StringKind, byte = kind.introducer
        · obtain ⟨kind, rfl⟩ := string
          have plain : kind.introducer ≠ escByte := by cases kind <;> decide
          have inside := ih (Undecided.string (List.forall_mem_nil IsStringByte) (by decide)) none
          rw [scrubbed_string, inside, scrubbed_plain plain]
          rfl
        · have notIdentify : byte ≠ 0x5a := by
            rintro rfl
            exact none [escByte, 0x5a] TerminalQuery.identify (List.prefix_append _ later)
          rw [scrubbed_cons, step_afterEsc_other control (not_exists.mp string) notIdentify]
          exact scrubbed_flushAndStep _ _ _
    | @control inner parameters =>
      by_cases other : maxCsiBytes ≤ inner.length + 2 ∨
        ¬ (0x20 ≤ byte ∧ byte ≤ 0x3f) ∧ ¬ (0x40 ≤ byte ∧ byte ≤ 0x7e)
      · rw [scrubbed_cons, step_control_other other]
        exact scrubbed_flushAndStep _ _ _
      · obtain ⟨long, shape⟩ := not_or.mp other
        have short : inner.length + 2 < maxCsiBytes := Nat.lt_of_not_le long
        by_cases parameter : IsParameter byte
        · -- The sequence goes on.
          have more : ∀ other ∈ inner ++ [byte], IsParameter other := by
            simpa [or_imp, forall_and] using And.intro parameters parameter
          have inside := ih (Undecided.control more) (by simpa [insideControl] using none)
          rw [scrubbed_cons, step_parameter parameter short, inside,
            scrubbed_plain parameter.ne_escByte]
          simp [insideControl]
        · have final : 0x40 ≤ byte ∧ byte ≤ 0x7e :=
            Decidable.not_not.mp fun notFinal => shape ⟨parameter, notFinal⟩
          have noQuery : ¬ isCsiQuery inner byte = true := by
            intro asks
            apply none _ (TerminalQuery.control parameters short final asks)
            exact ⟨later, by simp [insideControl]⟩
          rw [scrubbed_cons, step_final final short, if_neg noQuery,
            scrubbed_plain (ne_escByte_of_le final.1 (by decide))]
          simp [insideControl, flushRaw]
    | @string kind body plain short =>
      by_cases escape : byte = escByte
      · subst escape
        rw [scrubbed_cons, step_string_esc, scrubbed_insideStringEsc plain short none, scrubbed_esc]
        rfl
      · by_cases bell : byte = 0x07
        · subst bell
          have split : (insideString kind body).pending ++ 0x07 :: later =
              escByte :: kind.introducer :: (body ++ [0x07]) ++ later := by simp [insideString]
          rw [split] at none
          have ended := scrubbed_endString plain short (Or.inl rfl) none
          rw [scrubbed_cons, step_string_bell, ended, scrubbed_plain (by decide)]
          simp [insideString]
        · have stringByte : IsStringByte byte := ⟨escape, bell⟩
          rw [scrubbed_cons, step_stringByte stringByte, scrubbed_plain escape]
          by_cases held : body.length + 3 ≤ maxStringBytes ∧
            stringMayBeQuery (some kind) (body ++ [byte]) = true
          · have more : ∀ other ∈ body ++ [byte], IsStringByte other := by
              simpa [or_imp, forall_and] using And.intro plain stringByte
            have fits : (body ++ [byte]).length + 2 ≤ maxStringBytes := by
              rw [List.length_append, List.length_singleton]
              omega
            have inside := ih (Undecided.string more fits) (by simpa [insideString] using none)
            rw [if_pos held, inside]
            simp [insideString]
          · rw [if_neg held]
            simp [insideString, flushRaw]

/-- The filter erases every query of a text and keeps everything else. -/
theorem stripQueries_erases : Erases TerminalQuery stripQueries where
  nil := rfl
  word := fun isQuery => scrubbed_query isQuery _
  symbol := by
    intro byte later none
    by_cases escape : byte = escByte
    · subst escape
      show new.scrubbed (escByte :: later) = escByte :: new.scrubbed later
      rw [scrubbed_esc, Undecided.esc.scrubbed_eq none]
      rfl
    · exact scrubbed_plain escape later

/-- A sequence that starts with an escape byte, and has another one only in its terminator. -/
def EscapeShape (sequence : Bytes) : Prop :=
  ∃ introducer body terminator, sequence = escByte :: introducer :: (body ++ terminator) ∧
    introducer ≠ escByte ∧ introducer ≠ 0x5c ∧ escByte ∉ body ∧
    (terminator = [] ∨ terminator = [escByte, 0x5c])

/-- A query has the shape of an escape sequence. -/
theorem TerminalQuery.shape {query : Bytes} (isQuery : TerminalQuery query) :
    EscapeShape query := by
  cases isQuery with
  | identify => exact ⟨0x5a, [], [], rfl, by decide, by decide, List.not_mem_nil, Or.inl rfl⟩
  | @control inner finalByte parameters short final asks =>
    have plain : escByte ∉ inner ++ [finalByte] := by
      intro member
      rcases List.mem_append.mp member with inside | last
      · exact (parameters _ inside).ne_escByte rfl
      · have notEsc : finalByte ≠ escByte := ne_escByte_of_le final.1 (by decide)
        exact notEsc (List.mem_singleton.mp last).symm
    exact ⟨0x5b, inner ++ [finalByte], [], by rw [List.append_nil], by decide, by decide, plain,
      Or.inl rfl⟩
  | @string kind body terminator plain short ends asks =>
    have notEsc : kind.introducer ≠ escByte := by cases kind <;> decide
    have notEnd : kind.introducer ≠ 0x5c := by cases kind <;> decide
    have bodyPlain : escByte ∉ body := fun member => (plain _ member).1 rfl
    rcases ends with rfl | rfl
    · have bellPlain : escByte ∉ body ++ [0x07] :=
        List.not_mem_append bodyPlain (by decide)
      exact ⟨kind.introducer, body ++ [0x07], [], by rw [List.append_nil], notEsc, notEnd,
        bellPlain, Or.inl rfl⟩
    · exact ⟨kind.introducer, body, [escByte, 0x5c], rfl, notEsc, notEnd, bodyPlain, Or.inr rfl⟩

theorem EscapeShape.nonempty {sequence : Bytes} (shape : EscapeShape sequence) : sequence ≠ [] := by
  obtain ⟨introducer, body, terminator, rfl, -⟩ := shape
  exact List.cons_ne_nil _ _

/-- The end of a sequence starts no other one, unless it is the terminator of a string. -/
theorem EscapeShape.back_cases {front back : Bytes} (shape : EscapeShape (front ++ back))
    (front_ne : front ≠ []) (back_ne : back ≠ []) :
    (∃ first later, back = first :: later ∧ first ≠ escByte) ∨ back = [escByte, 0x5c] := by
  obtain ⟨first, later, rfl⟩ := List.exists_cons_of_ne_nil back_ne
  by_cases escape : first = escByte
  · subst escape
    obtain ⟨introducer, body, terminator, same, notEsc, -, plain, ends⟩ := shape
    obtain ⟨start, front, rfl⟩ := List.exists_cons_of_ne_nil front_ne
    obtain ⟨-, afterStart⟩ := List.cons.inj same
    -- The end starts behind the introducer, which is no escape byte itself.
    cases front with
    | nil => exact absurd (List.cons.inj afterStart).1.symm notEsc
    | cons second front =>
      obtain ⟨-, afterIntroducer⟩ := List.cons.inj afterStart
      have member : escByte ∉ body := plain
      rcases List.append_eq_append_iff.mp afterIntroducer with
        ⟨middle, rfl, tail⟩ | ⟨middle, rfl, tail⟩
      · cases middle with
        | nil =>
          rcases ends with rfl | rfl
          · exact absurd tail (List.cons_ne_nil _ _)
          · exact Or.inr tail
        | cons other middle =>
          obtain ⟨rfl, -⟩ := List.cons.inj tail
          exact absurd (List.mem_append_right _ List.mem_cons_self) member
      · rcases ends with rfl | rfl
        · simp at tail
        · cases middle with
          | nil => exact Or.inr tail.symm
          | cons other middle =>
            obtain ⟨-, rest⟩ := List.cons.inj tail
            have inTail : escByte ∈ [(0x5c : UInt8)] := by
              rw [rest]
              exact List.mem_append_right _ List.mem_cons_self
            exact absurd inTail (by decide)
  · exact Or.inl ⟨first, later, rfl, escape⟩

/-- The end of a sequence is not the start of another one, nor the other way round. -/
theorem EscapeShape.endApart {front back other : Bytes} (shape : EscapeShape (front ++ back))
    (front_ne : front ≠ []) (back_ne : back ≠ []) (otherShape : EscapeShape other) :
    ¬ back <+: other ∧ ¬ other <+: back := by
  obtain ⟨introducer, body, terminator, rfl, -, notEnd, -⟩ := otherShape
  rcases shape.back_cases front_ne back_ne with ⟨first, rest, rfl, plain⟩ | rfl
  · constructor
    · intro inside
      exact plain (List.cons_prefix_cons.mp inside).1
    · intro around
      exact plain (List.cons_prefix_cons.mp around).1.symm
  · constructor
    · intro inside
      exact notEnd (List.cons_prefix_cons.mp (List.cons_prefix_cons.mp inside).2).1.symm
    · intro around
      exact notEnd (List.cons_prefix_cons.mp (List.cons_prefix_cons.mp around).2).1

/-- No query contains another one or starts inside another one. -/
theorem terminalQuery_apart : Apart TerminalQuery where
  nonempty := fun isQuery => isQuery.shape.nonempty rfl
  prefixFree := by
    intro query other isQuery isOther starts
    obtain ⟨later, rfl⟩ := starts
    by_cases empty : later = []
    · rw [empty, List.append_nil]
    · -- The filter erases the longer query, but would let its end through.
      exfalso
      have erased : new.scrubbed later = [] := by
        rw [← scrubbed_query isQuery, ← List.append_nil (query ++ later), scrubbed_query isOther]
        rfl
      rcases isOther.shape.back_cases isQuery.shape.nonempty empty with
        ⟨first, rest, rfl, plain⟩ | rfl
      · rw [scrubbed_plain plain] at erased
        exact List.cons_ne_nil _ _ erased
      · exact absurd erased (by decide)
  endApart := fun split front_ne back_ne isOther =>
    split.shape.endApart front_ne back_ne isOther.shape

end

/-- Removing queries again changes nothing, and no query is left. -/
def QueriesGone (text : Bytes) : Prop :=
  stripQueries (stripQueries text) = stripQueries text ∧
    ∀ query, TerminalQuery query → ¬ query <:+: stripQueries text

/-- The queries of a text are gone exactly when no query has whole queries put into its middle. -/
theorem queriesGone_iff (text : Bytes) : QueriesGone text ↔ ¬ HidesWord TerminalQuery text := by
  have again := stripQueries_erases.idempotent_iff terminalQuery_apart text
  have left := stripQueries_erases.noWord_iff terminalQuery_apart text
  constructor
  · intro gone
    exact again.mp gone.1
  · intro noHidden
    exact ⟨again.mpr noHidden, left.mpr noHidden⟩

/-- An escape byte before a query and the rest of a query behind it become a query. -/
theorem query_left_behind :
    stripQueries ([escByte] ++ escByte :: ascii "[c" ++ ascii "[c") = escByte :: ascii "[c" ∧
      ¬ ∀ text, stripQueries (stripQueries text) = stripQueries text := by
  constructor
  · decide
  · intro idempotent
    have again := idempotent ([escByte] ++ escByte :: ascii "[c" ++ ascii "[c")
    exact absurd again (by decide)

end Gritty
