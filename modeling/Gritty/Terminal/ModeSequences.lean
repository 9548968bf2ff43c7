import Gritty.Lib.Reading
import Gritty.Terminal.PrivateModes
import Gritty.Terminal.Queries

/-! The sequences that change modes, and what a terminal makes of a text with queries among them. -/

namespace Gritty

/-- A byte of the mode numbers in a sequence. -/
def IsModeByte (byte : UInt8) : Prop := 0x30 ≤ byte ∧ byte ≤ 0x39 ∨ byte = 0x3b

/-- The byte that sets modes, or the one that resets them. -/
def EndsModes (byte : UInt8) : Prop := byte = 0x68 ∨ byte = 0x6c

/-- A sequence that changes the modes of a terminal. -/
inductive ModeSequence : Bytes → Prop where
  | fullReset : ModeSequence [escByte, 0x63]
  | modes {body : Bytes} {last : UInt8} (numbers : ∀ byte ∈ body, IsModeByte byte)
      (ends : EndsModes last) : ModeSequence (escByte :: 0x5b :: 0x3f :: (body ++ [last]))

/-- The changes a terminal finds in a text. -/
def changesOf (text : Bytes) : List ModeEvent := (modeScanner.run .new text).2

theorem IsModeByte.isParameter {byte : UInt8} (number : IsModeByte byte) : IsParameter byte := by
  rcases number with ⟨least, most⟩ | rfl
  · exact ⟨UInt8.le_trans (by decide) least, UInt8.le_trans most (by decide)⟩
  · exact ⟨by decide, by decide⟩

theorem EndsModes.final {byte : UInt8} (ends : EndsModes byte) : 0x40 ≤ byte ∧ byte ≤ 0x7e := by
  rcases ends with rfl | rfl <;> decide

/-- No parameter is the final byte of a sequence. -/
theorem IsParameter.not_final {byte : UInt8} (parameter : IsParameter byte) :
    ¬ (0x40 ≤ byte ∧ byte ≤ 0x7e) := by
  rintro ⟨above, -⟩
  exact absurd (UInt8.le_trans above parameter.2) (by decide)

namespace PrivateModeScanner

/-- Scanners that read every text alike: what was kept of an earlier sequence does not matter. -/
def Alike (first second : PrivateModeScanner) : Prop :=
  first.state = second.state ∧ (first.state = .params → first = second)

theorem Alike.refl (scanner : PrivateModeScanner) : Alike scanner scanner := ⟨rfl, fun _ => rfl⟩

/-- Outside the mode numbers of a sequence, scanners in the same state are alike. -/
theorem alike_of_state {first second : PrivateModeScanner} (same : first.state = second.state)
    (outside : first.state ≠ .params) : Alike first second :=
  ⟨same, fun inside => absurd inside outside⟩

/-- An escape byte starts a sequence afresh. -/
theorem step_esc (scanner : PrivateModeScanner) :
    scanner.step escByte = ({ scanner with state := .esc }, []) := rfl

theorem step_ground {scanner : PrivateModeScanner} (ground : scanner.state = .ground)
    {byte : UInt8} (plain : byte ≠ escByte) : scanner.step byte = (scanner, []) := by
  simp only [step, ground]
  rw [if_neg plain]

/-- Scanners that are alike stay so, and report the same. -/
theorem Alike.step {first second : PrivateModeScanner} (alike : Alike first second)
    (byte : UInt8) :
    Alike (first.step byte).1 (second.step byte).1 ∧
      (first.step byte).2 = (second.step byte).2 := by
  obtain ⟨same, inside⟩ := alike
  by_cases params : first.state = .params
  · rw [inside params]
    exact ⟨Alike.refl _, rfl⟩
  · by_cases escape : byte = escByte
    · subst escape
      exact ⟨alike_of_state rfl (by simp [step_esc]), rfl⟩
    · unfold PrivateModeScanner.step
      rw [if_neg escape, if_neg escape, ← same]
      cases state : first.state with
      | ground => exact ⟨alike_of_state same params, rfl⟩
      | esc =>
        simp only
        split
        · exact ⟨alike_of_state rfl (by simp), rfl⟩
        · split <;> exact ⟨alike_of_state rfl (by simp), rfl⟩
      | csi =>
        simp only
        -- A question mark forgets what was kept of an earlier sequence.
        split
        · exact ⟨Alike.refl _, rfl⟩
        · exact ⟨alike_of_state rfl (by simp), rfl⟩
      | params => exact absurd state params

/-- Scanners that are alike report the same of every text. -/
theorem Alike.run {first second : PrivateModeScanner} (alike : Alike first second)
    (text : Bytes) : (modeScanner.run first text).2 = (modeScanner.run second text).2 := by
  induction text generalizing first second with
  | nil => rfl
  | cons byte text ih =>
    obtain ⟨next, written⟩ := alike.step byte
    rw [Transducer.run_cons, Transducer.run_cons]
    show (first.step byte).2 ++ (modeScanner.run (first.step byte).1 text).2 =
      (second.step byte).2 ++ (modeScanner.run (second.step byte).1 text).2
    rw [written, ih next]

/-- Between sequences a text is read as a terminal reads it from the start. -/
theorem changes_of_ground {scanner : PrivateModeScanner} (ground : scanner.state = .ground)
    (text : Bytes) : (modeScanner.run scanner text).2 = changesOf text :=
  Alike.run (alike_of_state ground (by simp [ground])) text

end PrivateModeScanner

namespace PrivateModeScanner

theorem pushDigit_state (scanner : PrivateModeScanner) (digit : UInt8) :
    (scanner.pushDigit digit).state = .params ∨ (scanner.pushDigit digit).state = .ground := by
  simp only [pushDigit]
  split
  · exact Or.inl rfl
  · exact Or.inr rfl

theorem endModeNumber_state (scanner : PrivateModeScanner) :
    scanner.endModeNumber.state = .params ∨ scanner.endModeNumber.state = .ground := by
  unfold endModeNumber
  split
  · exact Or.inl rfl
  · split
    · exact Or.inr rfl
    · exact Or.inl rfl

/-- Within the numbers a digit is pushed. -/
theorem step_digit {scanner : PrivateModeScanner} (inside : scanner.state = .params)
    {byte : UInt8} (digit : 0x30 ≤ byte ∧ byte ≤ 0x39) :
    scanner.step byte = (scanner.pushDigit (byte - 0x30), []) := by
  have plain : byte ≠ escByte := ne_escByte_of_le digit.1 (by decide)
  simp only [step, inside]
  rw [if_neg plain, if_pos digit]

theorem step_separator {scanner : PrivateModeScanner} (inside : scanner.state = .params) :
    scanner.step 0x3b = (scanner.endModeNumber, []) := by
  simp only [step, inside]
  rfl

/-- A byte of the mode numbers is read on, unless the sequence is dropped. -/
theorem step_number {scanner : PrivateModeScanner} (inside : scanner.state = .params)
    {byte : UInt8} (number : IsModeByte byte) :
    ((scanner.step byte).1.state = .params ∨ (scanner.step byte).1.state = .ground) ∧
      (scanner.step byte).2 = [] := by
  rcases number with digit | rfl
  · rw [step_digit inside digit]
    exact ⟨pushDigit_state _ _, rfl⟩
  · rw [step_separator inside]
    exact ⟨endModeNumber_state _, rfl⟩

/-- The byte that sets or resets modes ends the sequence. -/
theorem step_ends {scanner : PrivateModeScanner} (inside : scanner.state = .params)
    {byte : UInt8} (ends : EndsModes byte) : (scanner.step byte).1.state = .ground := by
  simp only [step, inside]
  rcases ends with rfl | rfl <;> rfl

/-- Any other byte drops the sequence. -/
theorem step_other {scanner : PrivateModeScanner} (inside : scanner.state = .params)
    {byte : UInt8} (plain : byte ≠ escByte) (notNumber : ¬ IsModeByte byte)
    (notEnd : ¬ EndsModes byte) : scanner.step byte = ({ scanner with state := .ground }, []) := by
  obtain ⟨notDigit, notSeparator⟩ := not_or.mp notNumber
  obtain ⟨notSet, notReset⟩ := not_or.mp notEnd
  simp only [step, inside]
  rw [if_neg plain, if_neg notDigit, if_neg notSeparator, if_neg notSet, if_neg notReset]

end PrivateModeScanner

section

open PrivateModeScanner

/-- An escape byte makes a terminal read on as it would from the start. -/
theorem changes_esc_cons (scanner : PrivateModeScanner) (later : Bytes) :
    (modeScanner.run scanner (escByte :: later)).2 = changesOf (escByte :: later) := by
  have alike : Alike { scanner with state := .esc }
      { PrivateModeScanner.new with state := .esc } := alike_of_state rfl (by simp)
  exact alike.run later

/-- A byte that starts no sequence changes nothing from the start. -/
theorem changesOf_plain {byte : UInt8} (plain : byte ≠ escByte) (later : Bytes) :
    changesOf (byte :: later) = changesOf later := by
  have ground : PrivateModeScanner.new.state = .ground := rfl
  have stepped : modeScanner.step .new byte = (.new, []) := step_ground ground plain
  unfold changesOf
  rw [Transducer.run_cons, stepped]
  rfl

/-- A byte that starts no sequence, and that a scanner reports nothing for. -/
theorem changes_plain_cons {scanner next : PrivateModeScanner} {byte : UInt8}
    (plain : byte ≠ escByte) (stepped : scanner.step byte = (next, [])) {later : Bytes}
    (rest : (modeScanner.run next later).2 = changesOf later) :
    (modeScanner.run scanner (byte :: later)).2 = changesOf (byte :: later) := by
  have step : modeScanner.step scanner byte = (next, []) := stepped
  rw [changesOf_plain plain, Transducer.run_cons, step, ← rest]
  rfl

/-- The mode numbers of a sequence change nothing yet. -/
theorem run_numbers {scanner : PrivateModeScanner}
    (inside : scanner.state = .params ∨ scanner.state = .ground) {body : Bytes}
    (numbers : ∀ byte ∈ body, IsModeByte byte) :
    ((modeScanner.run scanner body).1.state = .params ∨
        (modeScanner.run scanner body).1.state = .ground) ∧
      (modeScanner.run scanner body).2 = [] := by
  induction body generalizing scanner with
  | nil => exact ⟨inside, rfl⟩
  | cons byte body ih =>
    obtain ⟨number, rest⟩ := List.forall_mem_cons.mp numbers
    have stepped : ((scanner.step byte).1.state = .params ∨
        (scanner.step byte).1.state = .ground) ∧ (scanner.step byte).2 = [] := by
      rcases inside with params | ground
      · exact step_number params number
      · rw [step_ground ground number.isParameter.ne_escByte]
        exact ⟨Or.inr ground, rfl⟩
    obtain ⟨state, written⟩ := ih stepped.1 rest
    rw [Transducer.run_cons]
    refine ⟨state, ?_⟩
    show (scanner.step byte).2 ++ (modeScanner.run (scanner.step byte).1 body).2 = []
    rw [stepped.2, written, List.nil_append]

/-- A sequence is read the same way from any state, and ends between sequences. -/
theorem run_modeSequence_ground (scanner : PrivateModeScanner) {sequence : Bytes}
    (isSequence : ModeSequence sequence) :
    (modeScanner.run scanner sequence).1.state = .ground ∧
      (modeScanner.run scanner sequence).2 = changesOf sequence := by
  cases isSequence with
  | fullReset => exact ⟨rfl, changes_esc_cons scanner _⟩
  | @modes body last numbers ends =>
    refine ⟨?_, changes_esc_cons scanner _⟩
    have introduced : modeScanner.run scanner (escByte :: 0x5b :: 0x3f :: (body ++ [last])) =
        modeScanner.run { state := .params, modes := [], partialMode := none }
          (body ++ [last]) := rfl
    have inside : PrivateModeScanner.state { state := .params, modes := [], partialMode := none } =
        .params := rfl
    rw [introduced, Transducer.run_append, Transducer.run_singleton]
    rcases (run_numbers (Or.inl inside) numbers).1 with params | ground
    · exact step_ends params ends
    · -- The sequence was dropped before.
      have plain : last ≠ escByte := ne_escByte_of_le ends.final.1 (by decide)
      have stepped : modeScanner.step _ last = (_, []) := step_ground ground plain
      rw [stepped]
      exact ground

/-- Mode numbers that no end of the sequence follows change nothing. -/
theorem changes_params {scanner : PrivateModeScanner} (inside : scanner.state = .params)
    {text : Bytes} (unended : ∀ body last later, text = body ++ last :: later →
      (∀ byte ∈ body, IsModeByte byte) → ¬ EndsModes last) :
    (modeScanner.run scanner text).2 = changesOf text := by
  induction text generalizing scanner with
  | nil => rfl
  | cons byte text ih =>
    have notEnd : ¬ EndsModes byte := unended [] byte text rfl (List.forall_mem_nil IsModeByte)
    by_cases escape : byte = escByte
    · rw [escape]
      exact changes_esc_cons scanner text
    · by_cases number : IsModeByte byte
      · obtain ⟨state, written⟩ := step_number inside number
        apply changes_plain_cons escape (Prod.ext rfl written)
        rcases state with params | ground
        · apply ih params
          intro body last later split numbers
          apply unended (byte :: body) last later (by rw [split, List.cons_append])
          exact List.forall_mem_cons.mpr ⟨number, numbers⟩
        · exact changes_of_ground ground text
      · apply changes_plain_cons escape (step_other inside escape number notEnd)
        exact changes_of_ground rfl text

/-- The beginning of a sequence that no end follows changes nothing. -/
theorem changes_csi {scanner : PrivateModeScanner} (inside : scanner.state = .csi) {text : Bytes}
    (unended : ∀ body last later, text = 0x3f :: (body ++ last :: later) →
      (∀ byte ∈ body, IsModeByte byte) → ¬ EndsModes last) :
    (modeScanner.run scanner text).2 = changesOf text := by
  cases text with
  | nil => rfl
  | cons byte text =>
    by_cases escape : byte = escByte
    · rw [escape]
      exact changes_esc_cons scanner text
    · by_cases question : byte = 0x3f
      · subst question
        have stepped : scanner.step 0x3f =
            ({ state := .params, modes := [], partialMode := none }, []) := by
          simp only [step, inside]
          rfl
        apply changes_plain_cons escape stepped
        apply changes_params rfl
        intro body last later split
        exact unended body last later (by rw [split])
      · have stepped : scanner.step byte = ({ scanner with state := .ground }, []) := by
          simp only [step, inside]
          rw [if_neg escape, if_neg question]
        exact changes_plain_cons escape stepped (changes_of_ground rfl text)

/-- An escape byte that starts no sequence changes nothing. -/
theorem changes_esc {scanner : PrivateModeScanner} (inside : scanner.state = .esc) {text : Bytes}
    (none : ∀ sequence, ModeSequence sequence → ¬ sequence <+: escByte :: text) :
    (modeScanner.run scanner text).2 = changesOf text := by
  cases text with
  | nil => rfl
  | cons byte text =>
    have notReset : byte ≠ 0x63 := by
      rintro rfl
      exact none _ ModeSequence.fullReset ⟨text, rfl⟩
    by_cases escape : byte = escByte
    · rw [escape]
      exact changes_esc_cons scanner text
    · by_cases control : byte = 0x5b
      · subst control
        have stepped : scanner.step 0x5b = ({ scanner with state := .csi }, []) := by
          simp only [step, inside]
          rfl
        apply changes_plain_cons escape stepped
        apply changes_csi rfl
        intro body last later split numbers ends
        exact none _ (ModeSequence.modes numbers ends) ⟨later, by simp [split]⟩
      · have stepped : scanner.step byte = ({ scanner with state := .ground }, []) := by
          simp only [step, inside]
          rw [if_neg escape, if_neg control, if_neg notReset]
        exact changes_plain_cons escape stepped (changes_of_ground rfl text)

/-- The changes of a text are those of its sequences. -/
theorem changesOf_collects : Collects ModeSequence changesOf where
  nil := rfl
  sequence := by
    intro sequence later isSequence
    obtain ⟨ground, -⟩ := run_modeSequence_ground .new isSequence
    have rest := changes_of_ground ground later
    unfold changesOf at rest ⊢
    rw [Transducer.run_append, rest]
  symbol := by
    intro byte later none
    by_cases escape : byte = escByte
    · subst escape
      exact changes_esc rfl none
    · exact changesOf_plain escape later

end

/-- A control sequence that starts another one is that one. -/
theorem control_eq_of_starts {inner more : Bytes} {final last : UInt8}
    (parameters : ∀ byte ∈ inner, IsParameter byte) (isFinal : 0x40 ≤ final ∧ final ≤ 0x7e)
    (others : ∀ byte ∈ more, IsParameter byte) (isLast : 0x40 ≤ last ∧ last ≤ 0x7e)
    (starts : inner ++ [final] <+: more ++ [last]) : inner ++ [final] = more ++ [last] := by
  -- The first byte that is no parameter ends both.
  induction inner generalizing more with
  | nil =>
    cases more with
    | nil =>
      obtain ⟨rfl, -⟩ := List.cons_prefix_cons.mp starts
      rfl
    | cons first more =>
      obtain ⟨rfl, -⟩ := List.cons_prefix_cons.mp starts
      exact absurd isFinal (others final List.mem_cons_self).not_final
  | cons byte inner ih =>
    obtain ⟨parameter, rest⟩ := List.forall_mem_cons.mp parameters
    cases more with
    | nil =>
      obtain ⟨rfl, -⟩ := List.cons_prefix_cons.mp starts
      exact absurd isLast parameter.not_final
    | cons first more =>
      obtain ⟨rfl, later⟩ := List.cons_prefix_cons.mp starts
      rw [List.cons_append, ih rest (List.forall_mem_cons.mp others).2 later, List.cons_append]

/-- The forms that queries and mode changes take, by the byte after the escape byte. -/
inductive EscapeForm : Bytes → Prop where
  | reset : EscapeForm [escByte, 0x63]
  | control {inner : Bytes} {final : UInt8} (parameters : ∀ byte ∈ inner, IsParameter byte)
      (isFinal : 0x40 ≤ final ∧ final ≤ 0x7e) :
      EscapeForm (escByte :: 0x5b :: (inner ++ [final]))
  | other {introducer : UInt8} {later : Bytes} (notReset : introducer ≠ 0x63)
      (notControl : introducer ≠ 0x5b) : EscapeForm (escByte :: introducer :: later)

/-- A query has the form of an escape sequence. -/
theorem TerminalQuery.form {query : Bytes} (isQuery : TerminalQuery query) : EscapeForm query := by
  cases isQuery with
  | identify => exact EscapeForm.other (by decide) (by decide)
  | control parameters short final asks => exact EscapeForm.control parameters final
  | @string kind body terminator plain short ends asks =>
    apply EscapeForm.other <;> cases kind <;> decide

/-- The mode numbers behind their introducer are parameters. -/
theorem mode_parameters {body : Bytes} (numbers : ∀ byte ∈ body, IsModeByte byte) :
    ∀ byte ∈ (0x3f : UInt8) :: body, IsParameter byte := by
  intro byte member
  rcases List.mem_cons.mp member with rfl | inside
  · exact ⟨by decide, by decide⟩
  · exact (numbers byte inside).isParameter

/-- Of two sequences where one starts the other, the bytes after the escape byte are the same. -/
theorem introducer_eq {first second : UInt8} {front back : Bytes}
    (starts : escByte :: first :: front <+: escByte :: second :: back ∨
      escByte :: second :: back <+: escByte :: first :: front) :
    first = second ∧ (front <+: back ∨ back <+: front) := by
  rcases starts with inside | around
  · obtain ⟨same, rest⟩ := List.cons_prefix_cons.mp (List.cons_prefix_cons.mp inside).2
    exact ⟨same, Or.inl rest⟩
  · obtain ⟨same, rest⟩ := List.cons_prefix_cons.mp (List.cons_prefix_cons.mp around).2
    exact ⟨same.symm, Or.inr rest⟩

/-- A mode change that starts a query or a mode change, or that one starts, is the same sequence. -/
theorem ModeSequence.eq_of_starts {sequence other : Bytes} (isSequence : ModeSequence sequence)
    (form : EscapeForm other) (starts : sequence <+: other ∨ other <+: sequence) :
    sequence = other := by
  cases isSequence with
  | fullReset =>
    cases form with
    | reset => rfl
    | control parameters isFinal => exact absurd (introducer_eq starts).1 (by decide)
    | other notReset notControl => exact absurd (introducer_eq starts).1.symm notReset
  | @modes body last numbers ends =>
    cases form with
    | reset => exact absurd (introducer_eq starts).1 (by decide)
    | @control inner final parameters isFinal =>
      obtain ⟨-, tails⟩ := introducer_eq starts
      rw [← List.cons_append] at tails ⊢
      rcases tails with inside | around
      · rw [control_eq_of_starts (mode_parameters numbers) ends.final parameters isFinal inside]
      · rw [control_eq_of_starts parameters isFinal (mode_parameters numbers) ends.final around]
    | other notReset notControl => exact absurd (introducer_eq starts).1.symm notControl

theorem ModeSequence.form {sequence : Bytes} (isSequence : ModeSequence sequence) :
    EscapeForm sequence := by
  cases isSequence with
  | fullReset => exact EscapeForm.reset
  | modes numbers ends => exact EscapeForm.control (mode_parameters numbers) ends.final

/-- A change of modes has the shape of an escape sequence. -/
theorem ModeSequence.shape {sequence : Bytes} (isSequence : ModeSequence sequence) :
    EscapeShape sequence := by
  cases isSequence with
  | fullReset => exact ⟨0x63, [], [], rfl, by decide, by decide, List.not_mem_nil, Or.inl rfl⟩
  | @modes body last numbers ends =>
    have plain : escByte ∉ (0x3f : UInt8) :: (body ++ [last]) := by
      intro member
      rw [← List.cons_append] at member
      rcases List.mem_append.mp member with inside | final
      · exact (mode_parameters numbers _ inside).ne_escByte rfl
      · have notEsc : last ≠ escByte := ne_escByte_of_le ends.final.1 (by decide)
        exact notEsc (List.mem_singleton.mp final).symm
    exact ⟨0x5b, 0x3f :: (body ++ [last]), [], by rw [List.append_nil], by decide, by decide,
      plain, Or.inl rfl⟩

/-- No sequence that sets or resets modes asks for an answer. -/
theorem not_isCsiQuery {last : UInt8} (ends : EndsModes last) (inner : Bytes) :
    isCsiQuery inner last = false := by
  unfold isCsiQuery
  rcases ends with rfl | rfl <;> simp

/-- A mode change is no query. -/
theorem ModeSequence.not_query {sequence : Bytes} (isSequence : ModeSequence sequence) :
    ¬ TerminalQuery sequence := by
  intro isQuery
  cases isSequence with
  | fullReset =>
    generalize same : [escByte, 0x63] = query at isQuery
    cases isQuery with
    | identify => exact absurd same (by decide)
    | control parameters short final asks =>
      exact absurd (List.cons.inj (List.cons.inj same).2).1 (by decide)
    | @string kind body terminator plain short ends asks =>
      have introduced := (List.cons.inj (List.cons.inj same).2).1
      cases kind <;> exact absurd introduced (by decide)
  | @modes body last numbers ends =>
    generalize same : escByte :: 0x5b :: 0x3f :: (body ++ [last]) = query at isQuery
    cases isQuery with
    | identify => exact absurd (List.cons.inj (List.cons.inj same).2).1 (by decide)
    | @control inner final parameters short isFinal asks =>
      have tails := (List.cons.inj (List.cons.inj same).2).2
      rw [← List.cons_append] at tails
      obtain ⟨-, finals⟩ := List.append_inj' tails rfl
      rw [← List.singleton_inj.mp finals, not_isCsiQuery ends] at asks
      exact absurd asks (by decide)
    | @string kind body terminator plain short ends asks =>
      have introduced := (List.cons.inj (List.cons.inj same).2).1
      cases kind <;> exact absurd introduced (by decide)

/-- No query or mode change contains another one or starts inside another one. -/
theorem sequences_apart : Apart fun text => TerminalQuery text ∨ ModeSequence text where
  nonempty := by
    rintro (isQuery | isSequence)
    · exact isQuery.shape.nonempty rfl
    · exact isSequence.shape.nonempty rfl
  prefixFree := by
    rintro word other (isQuery | isSequence) (otherQuery | otherSequence) starts
    · exact terminalQuery_apart.prefixFree isQuery otherQuery starts
    · exact (otherSequence.eq_of_starts isQuery.form (Or.inr starts)).symm
    · exact isSequence.eq_of_starts otherQuery.form (Or.inl starts)
    · exact isSequence.eq_of_starts otherSequence.form (Or.inl starts)
  endApart := by
    intro front back other split front_ne back_ne isOther
    have shape : EscapeShape (front ++ back) :=
      split.elim TerminalQuery.shape ModeSequence.shape
    exact shape.endApart front_ne back_ne (isOther.elim TerminalQuery.shape ModeSequence.shape)

/-- The last change a text makes in this respect, queries passed over, leaves this state behind. -/
def LastChange (effect : ModeEvent → Option Bool) (text : Bytes) (state : Bool) : Prop :=
  LastEffect TerminalQuery ModeSequence changesOf effect text state

/-- What a text without its queries leaves behind is what its last change does. -/
theorem latest_stripQueries_iff {effect : ModeEvent → Option Bool} (text : Bytes) (state : Bool) :
    latest effect (changesOf (stripQueries text)) = some state ↔ LastChange effect text state :=
  latest_erased_iff changesOf_collects stripQueries_erases sequences_apart
    ModeSequence.not_query text state

end Gritty
