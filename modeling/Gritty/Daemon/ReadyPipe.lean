import Gritty.Lib.ShortReads
import Gritty.Procscan.ProcNetUnix
import Gritty.Transfer.WireNames

/-! The pipe on which a child that starts in the background reports how its start went. -/

namespace Gritty

/-! ### The child's side -/

def readyTag : UInt8 := 0x01

def warningTag : UInt8 := 0x03

/-- A number in a given number of bytes, least significant first. -/
def toLeBytes (width value : Nat) : Bytes := (beBytes width value).reverse

/-- The number that bytes spell, least significant first. -/
def fromLeBytes (bytes : Bytes) : Nat := beValue bytes.reverse

@[simp] theorem toLeBytes_length (width value : Nat) : (toLeBytes width value).length = width := by
  rw [toLeBytes, List.length_reverse, beBytes_length]

theorem fromLeBytes_toLeBytes {width value : Nat} (small : value < 256 ^ width) :
    fromLeBytes (toLeBytes width value) = value := by
  rw [fromLeBytes, toLeBytes, List.reverse_reverse, beValue_beBytes, Nat.mod_eq_of_lt small]

/-- What a child writes when it is up: `signal_ready`. -/
def readyRecord (pid : UInt32) : Bytes := readyTag :: toLeBytes 4 pid.toNat

/-- What a child writes for the user to see: `signal_warning`. A long message is cut. -/
def warningRecord (message : String) : Bytes :=
  let body := (utf8 message).take (min (utf8 message).length 65535)
  warningTag :: toLeBytes 2 body.length ++ body

/-! ### The parent's side -/

/-- What the parent concludes. -/
inductive ReadyOutcome where
  | ready (pid : UInt32)
  | failed (reason : String)
  | crashed
  deriving DecidableEq

/-- A text without the blanks around it. -/
def trimmed (text : String) : String := String.ofList (trim text.toList)

/-- What one record says: a warning, after which the pipe is read on, or the verdict. -/
inductive ReadyRecord where
  | warning (message : String) (pipe : Source UInt8)
  | verdict (outcome : ReadyOutcome)

section

variable (shares : Shares)

/-- One turn of the parent's loop. -/
def readRecord (pipe : Source UInt8) : ReadyRecord :=
  match pipe.read shares 1 with
  | ([tag], pipe) =>
    if tag = readyTag then
      match pipe.readExact shares 4 with
      | (some pid, _) => .verdict (.ready (UInt32.ofNat (fromLeBytes pid)))
      | (none, _) => .verdict .crashed
    else if tag = warningTag then
      match pipe.readExact shares 2 with
      | (none, _) => .verdict .crashed
      | (some len, pipe) =>
        match pipe.readExact shares (fromLeBytes len) with
        | (none, _) => .verdict .crashed
        | (some body, pipe) => .warning (trimmed (toStringLossy body)) pipe
    -- Anything else is the first byte of the reason, which goes on to the end.
    else .verdict (.failed (trimmed (toStringLossy (pipe.readToEnd shares [tag]))))
  | _ => .verdict .crashed

/-- A warning takes bytes off the pipe. -/
theorem readRecord_shrinks {pipe later : Source UInt8} {message : String}
    (warned : readRecord shares pipe = .warning message later) :
    later.left.length < pipe.left.length := by
  -- The tag alone is a byte fewer, and the reads behind it put nothing back.
  have whole := congrArg List.length (pipe.read_fst_append shares 1)
  unfold readRecord at warned
  split at warned
  · rename_i tag first taken
    rw [taken, List.length_append, List.length_singleton] at whole
    dsimp only at whole
    split_ifs at warned
    · split at warned <;> cases warned
    · split at warned
      · cases warned
      · rename_i len second sized
        have below := first.readExact_left_le shares 2
        rw [sized] at below
        split at warned
        · cases warned
        · rename_i body third filled
          have lowest := second.readExact_left_le shares (fromLeBytes len)
          rw [filled] at lowest
          cases warned
          dsimp only at below lowest
          omega
  · cases warned

/-- The warnings that the parent hands over, in order, and what it concludes. -/
def readReadyPipe (pipe : Source UInt8) : List String × ReadyOutcome :=
  match _read : readRecord shares pipe with
  | .verdict outcome => ([], outcome)
  | .warning message later =>
    let (messages, outcome) := readReadyPipe later
    (message :: messages, outcome)
termination_by pipe.left.length
decreasing_by exact readRecord_shrinks shares _read

/-! ### One record -/

/-- The first byte of a pipe that is not empty is read alone. -/
theorem read_one (pipe : Source UInt8) {tag : UInt8} {rest : Bytes} (left : pipe.left = tag :: rest) :
    pipe.read shares 1 = ([tag], { left := rest, calls := pipe.calls + 1 }) := by
  -- However short the read is, it is a byte at least, and no more was asked for.
  have single : min 1 (shares.most pipe.calls + 1) = 1 := by omega
  unfold Source.read
  rw [single, left]
  rfl

/-- A pipe that has ended tells of a crash. -/
theorem readRecord_empty {pipe : Source UInt8} (left : pipe.left = []) :
    readRecord shares pipe = .verdict .crashed := by
  have nothing : pipe.read shares 1 = ([], { left := [], calls := pipe.calls + 1 }) := by
    unfold Source.read
    rw [left]
    dsimp only
    rw [List.take_nil, List.drop_nil]
  rw [readRecord, nothing]

/-- An encoded text is read back without its blanks. -/
theorem trimmed_utf8 (text : String) : trimmed (toStringLossy (utf8 text)) = trimmed text := by
  -- The child sends what is valid UTF-8, and so nothing is replaced when it is read.
  rw [toStringLossy, utf8_eq, lossyChars_flatMap, String.ofList_toList]

/-- The body of a warning that was not cut, behind its tag and its length. -/
theorem warningRecord_eq {message : String} (fits : (utf8 message).length ≤ 65535) :
    warningRecord message = warningTag :: (toLeBytes 2 (utf8 message).length ++ utf8 message) := by
  rw [warningRecord, Nat.min_eq_left fits, List.take_length, List.cons_append]

/-- A whole warning is handed over, and the next record follows it. -/
theorem readRecord_warning {pipe : Source UInt8} {message : String} {rest : Bytes}
    (fits : (utf8 message).length ≤ 65535) (left : pipe.left = warningRecord message ++ rest) :
    ∃ later, readRecord shares pipe = .warning (trimmed message) later ∧ later.left = rest := by
  rw [warningRecord_eq fits, List.cons_append, List.append_assoc] at left
  rw [readRecord, read_one shares pipe left]
  dsimp only
  rw [if_neg (by decide), if_pos rfl]
  -- Two bytes spell the length of the body, and the body has that length.
  obtain ⟨second, sized, behind⟩ := Source.readExact_append shares
    ⟨_, pipe.calls + 1⟩ rfl (toLeBytes_length 2 (utf8 message).length)
  rw [sized]
  dsimp only
  rw [fromLeBytes_toLeBytes (by omega)]
  obtain ⟨third, filled, after⟩ := second.readExact_append shares behind rfl
  rw [filled]
  dsimp only
  rw [trimmed_utf8]
  exact ⟨third, rfl, after⟩

/-- A warning that is cut off is not handed over. -/
theorem readRecord_warning_cut {pipe : Source UInt8} {message : String} {missing : Bytes}
    (fits : (utf8 message).length ≤ 65535) (cut : missing ≠ [])
    (left : pipe.left ++ missing = warningRecord message) :
    readRecord shares pipe = .verdict .crashed := by
  rw [warningRecord_eq fits] at left
  cases present : pipe.left with
  | nil => exact readRecord_empty shares present
  | cons tag part =>
    rw [present, List.cons_append, List.cons.injEq] at left
    obtain ⟨rfl, body⟩ := left
    have lengths := congrArg List.length body
    rw [List.length_append, List.length_append, toLeBytes_length] at lengths
    -- Something is missing, so what is there is shorter than the record.
    have some_ : 0 < missing.length := List.length_pos_iff.mpr cut
    rw [readRecord, read_one shares pipe present]
    dsimp only
    rw [if_neg (by decide), if_pos rfl]
    by_cases length : part.length < 2
    · -- The cut is in the length of the body.
      obtain ⟨second, unfilled⟩ := Source.readExact_of_lt shares
        ⟨part, pipe.calls + 1⟩ length
      rw [unfilled]
    · -- The cut is in the body.
      obtain ⟨front, sameFront, rest⟩ : ∃ front, part = toLeBytes 2 (utf8 message).length ++ front ∧
          front.length < (utf8 message).length := by
        have shown := congrArg (List.take 2) body
        rw [List.take_append_of_le_length (by omega), List.take_left' (toLeBytes_length 2 _)] at shown
        refine ⟨part.drop 2, ?_, ?_⟩
        · rw [← shown, List.take_append_drop]
        · rw [List.length_drop]
          omega
      obtain ⟨second, sized, behind⟩ := Source.readExact_append shares
        ⟨part, pipe.calls + 1⟩ sameFront (toLeBytes_length 2 _)
      rw [sized]
      dsimp only
      rw [fromLeBytes_toLeBytes (by omega)]
      obtain ⟨third, unfilled⟩ := second.readExact_of_lt shares
        (behind ▸ rest)
      rw [unfilled]

/-- The child's identity arrives as it was written. -/
theorem readRecord_ready {pipe : Source UInt8} {pid : UInt32} {rest : Bytes}
    (left : pipe.left = readyRecord pid ++ rest) :
    readRecord shares pipe = .verdict (.ready pid) := by
  rw [readyRecord, List.cons_append] at left
  rw [readRecord, read_one shares pipe left]
  dsimp only
  rw [if_pos rfl]
  -- Four bytes spell the number, in whatever shares they come.
  obtain ⟨second, filled, -⟩ := Source.readExact_append shares
    ⟨_, pipe.calls + 1⟩ rfl (toLeBytes_length 4 pid.toNat)
  rw [filled]
  dsimp only
  rw [fromLeBytes_toLeBytes pid.toNat_lt, UInt32.ofNat_toNat]

/-- A verdict that is cut off is none. -/
theorem readRecord_ready_cut {pipe : Source UInt8} {pid : UInt32} {missing : Bytes}
    (cut : missing ≠ []) (left : pipe.left ++ missing = readyRecord pid) :
    readRecord shares pipe = .verdict .crashed := by
  cases present : pipe.left with
  | nil => exact readRecord_empty shares present
  | cons tag part =>
    rw [present, readyRecord, List.cons_append, List.cons.injEq] at left
    obtain ⟨rfl, number⟩ := left
    have lengths := congrArg List.length number
    rw [List.length_append, toLeBytes_length] at lengths
    have some_ : 0 < missing.length := List.length_pos_iff.mpr cut
    rw [readRecord, read_one shares pipe present]
    dsimp only
    rw [if_pos rfl]
    obtain ⟨second, unfilled⟩ := Source.readExact_of_lt shares
      -- One of the four bytes is missing, so the read of the number comes to the end.
      ⟨part, pipe.calls + 1⟩ (show part.length < 4 by omega)
    rw [unfilled]

/-- A text that can stand for the reason of a failure. -/
def Reason (text : String) : Prop :=
  ∃ first rest, utf8 text = first :: rest ∧ first ≠ readyTag ∧ first ≠ warningTag

/-- The reason of a failure is everything up to the end. -/
theorem readRecord_failed {pipe : Source UInt8} {text : String} (reason : Reason text)
    (left : pipe.left = utf8 text) :
    readRecord shares pipe = .verdict (.failed (trimmed text)) := by
  obtain ⟨first, rest, spelled, notReady, notWarning⟩ := reason
  -- The first byte is neither tag, and all that is left is read to the end.
  rw [readRecord, read_one shares pipe (left.trans spelled)]
  dsimp only
  rw [if_neg notReady, if_neg notWarning, Source.readToEnd_eq, List.singleton_append, ← spelled,
    trimmed_utf8]

/-! ### The whole pipe -/

/-- A record that is a verdict ends the reading. -/
theorem readReadyPipe_verdict {pipe : Source UInt8} {outcome : ReadyOutcome}
    (read : readRecord shares pipe = .verdict outcome) :
    readReadyPipe shares pipe = ([], outcome) := by
  -- The loop ends with the record, and hands nothing over.
  rw [readReadyPipe]
  split
  · rename_i other same
    rw [read] at same
    cases same
    rfl
  · rename_i message later same
    rw [read] at same
    cases same

/-- A record that is a warning is shown before what the rest says. -/
theorem readReadyPipe_warning {pipe later : Source UInt8} {message : String}
    (read : readRecord shares pipe = .warning message later) :
    readReadyPipe shares pipe =
      (message :: (readReadyPipe shares later).1, (readReadyPipe shares later).2) := by
  rw [readReadyPipe]
  split
  · rename_i outcome same
    rw [read] at same
    cases same
  · rename_i other behind same
    rw [read] at same
    cases same
    rfl

/-- Whole warnings are handed over one after the other, and then comes what follows them. -/
theorem readReadyPipe_warnings {warnings : List String} (pipe : Source UInt8) {rest : Bytes}
    (fit : ∀ message ∈ warnings, (utf8 message).length ≤ 65535)
    (left : pipe.left = warnings.flatMap warningRecord ++ rest) :
    ∃ later : Source UInt8, later.left = rest ∧ readReadyPipe shares pipe =
      (warnings.map trimmed ++ (readReadyPipe shares later).1, (readReadyPipe shares later).2) := by
  -- The induction is on the warnings; the pipe is left wherever the last record ended.
  induction warnings generalizing pipe with
  | nil => exact ⟨pipe, left, rfl⟩
  | cons message warnings ih =>
    rw [List.flatMap_cons, List.append_assoc] at left
    obtain ⟨next, read, behind⟩ :=
      readRecord_warning shares (fit message List.mem_cons_self) left
    obtain ⟨later, after, rest_⟩ :=
      ih next (fun other among => fit other (List.mem_cons_of_mem message among)) behind
    refine ⟨later, after, ?_⟩
    rw [readReadyPipe_warning shares read, rest_, List.map_cons, List.cons_append]

/-- How a child's report ends. -/
inductive Verdict where
  | ready (pid : UInt32)
  | failed (reason : String)

namespace Verdict

def written : Verdict → Bytes
  | ready pid => readyRecord pid
  | failed reason => utf8 reason

/-- What the parent is to make of it. -/
def outcome : Verdict → ReadyOutcome
  | ready pid => .ready pid
  | failed reason => .failed (trimmed reason)

/-- A reason cannot be taken for a record. -/
def Proper : Verdict → Prop
  | ready _ => True
  | failed reason => Reason reason

/-- A verdict that was written is the one that is read. -/
theorem readReadyPipe_written {verdict : Verdict} (proper : verdict.Proper) {pipe : Source UInt8}
    -- Each verdict is read off in one record.
    (left : pipe.left = verdict.written) : readReadyPipe shares pipe = ([], verdict.outcome) := by
  cases verdict with
  | ready pid =>
    exact readReadyPipe_verdict shares (readRecord_ready shares (left.trans (List.append_nil _).symm))
  | failed reason => exact readReadyPipe_verdict shares (readRecord_failed shares proper left)

end Verdict

/-- What a child writes until it is up, or until it gives up. -/
def report (warnings : List String) (verdict : Verdict) : Bytes :=
  warnings.flatMap warningRecord ++ verdict.written

/-- The first warnings of a list, as far as their records are whole, and nothing else was said. -/
structure CutOff (warnings : List String) (cut : Bytes) (whole : Nat) : Prop where
  within : whole ≤ warnings.length
  contained : ∀ count ≤ warnings.length,
    (warnings.take count).flatMap warningRecord <+: cut ↔ count ≤ whole

/-- A report that breaks off says what its whole warnings say. -/
theorem readReadyPipe_cut {warnings : List String} {pid : UInt32} (pipe : Source UInt8)
    {missing : Bytes} (fit : ∀ message ∈ warnings, (utf8 message).length ≤ 65535)
    (cut : missing ≠ []) (left : pipe.left ++ missing = report warnings (.ready pid)) :
    ∃ whole, CutOff warnings pipe.left whole ∧
      readReadyPipe shares pipe = ((warnings.take whole).map trimmed, .crashed) := by
  -- The induction is on the warnings, and asks of each whether the cut is behind it or inside of it.
  induction warnings generalizing pipe with
  | nil =>
    refine ⟨0, ⟨Nat.le_refl _, fun count within => ?_⟩, ?_⟩
    · rw [List.take_nil]
      exact ⟨fun _ => within, fun _ => List.nil_prefix⟩
    -- Without warnings, it is the verdict itself that is cut.
    · exact readReadyPipe_verdict shares (readRecord_ready_cut shares cut left)
  | cons message warnings ih =>
    have fits := fit message List.mem_cons_self
    rw [report, List.flatMap_cons, List.append_assoc] at left
    -- What arrived and the first record are beginnings of one report, so one of them begins the other.
    have written : pipe.left <+: warningRecord message ++ _ := ⟨missing, left⟩
    by_cases complete : (warningRecord message).length ≤ pipe.left.length
    · -- The first warning is handed over, and the cut is in the rest of the report.
      obtain ⟨behind, present⟩ :=
        List.prefix_of_prefix_length_le (List.prefix_append _ _) written complete
      rw [← present, List.append_assoc, List.append_cancel_left_eq] at left
      obtain ⟨next, read, after⟩ := readRecord_warning shares fits present.symm
      rw [← after] at left
      obtain ⟨whole, ⟨within, contained⟩, rest⟩ :=
        ih next (fun other among => fit other (List.mem_cons_of_mem message among)) left
      refine ⟨whole + 1, ⟨Nat.succ_le_succ within, fun count counted => ?_⟩, ?_⟩
      · cases count with
        | zero => exact ⟨fun _ => Nat.zero_le _, fun _ => List.nil_prefix⟩
        | succ count =>
          rw [List.take_succ_cons, List.flatMap_cons, ← present, List.prefix_append_right_inj,
            ← after, contained count (Nat.le_of_succ_le_succ counted), Nat.succ_le_succ_iff]
      · rw [readReadyPipe_warning shares read, rest, List.take_succ_cons, List.map_cons]
    · -- The cut is in the first warning.
      obtain ⟨gone, record⟩ :=
        List.prefix_of_prefix_length_le written (List.prefix_append _ _) (by omega)
      have some_ : gone ≠ [] := by
        rintro rfl
        rw [List.append_nil] at record
        exact complete (Nat.le_of_eq (congrArg List.length record.symm))
      refine ⟨0, ⟨Nat.zero_le _, fun count _ => ?_⟩, ?_⟩
      · cases count with
        | zero => exact ⟨fun _ => Nat.le_refl _, fun _ => List.nil_prefix⟩
        | succ count =>
          -- Not even the first record is whole, so none of the longer beginnings is.
          refine ⟨fun front => ?_, fun none_ => absurd none_ (Nat.not_succ_le_zero count)⟩
          rw [List.take_succ_cons, List.flatMap_cons] at front
          have longer := front.length_le
          rw [List.length_append] at longer
          omega
      · exact readReadyPipe_verdict shares (readRecord_warning_cut shares fits some_ record)

end

/-- The parent learns what the child said, and of a report that breaks off what was said whole. -/
theorem readReadyPipe_report (shares : Shares) (calls : Nat) (warnings : List String)
    (fit : ∀ message ∈ warnings, (utf8 message).length ≤ 65535) :
    (∀ verdict : Verdict, verdict.Proper →
        readReadyPipe shares ⟨report warnings verdict, calls⟩ =
          (warnings.map trimmed, verdict.outcome)) ∧
      ∀ (pid : UInt32) (cut missing : Bytes), missing ≠ [] →
        cut ++ missing = report warnings (.ready pid) →
          ∃ whole, CutOff warnings cut whole ∧
            readReadyPipe shares ⟨cut, calls⟩ = ((warnings.take whole).map trimmed, .crashed) := by
  constructor
  · intro verdict proper
    -- The warnings are read one by one, and what is left is the verdict.
    obtain ⟨later, behind, read⟩ := readReadyPipe_warnings shares
      ⟨report warnings verdict, calls⟩ fit rfl
    rw [read, verdict.readReadyPipe_written shares proper behind, List.append_nil]
  · intro pid cut missing some_ whole
    exact readReadyPipe_cut shares ⟨cut, calls⟩ fit some_ whole

/-- Two warnings, one of which looks like a verdict, and a start that failed, read byte by byte. -/
theorem readReadyPipe_report_twoWarnings :
    (readReadyPipe ⟨fun _ => 0, fun _ => 31⟩
        ⟨report ["\x01\x03up", " slow "] (.failed "no route\n"), 0⟩ =
        (["\x01\x03up", "slow"], .failed "no route")) ∧
      ∃ whole, CutOff ["slow"] ((warningRecord "slow") ++ [0x01, 7]) whole ∧
        readReadyPipe ⟨fun _ => 0, fun _ => 31⟩ ⟨(warningRecord "slow") ++ [0x01, 7], 0⟩ =
          ((["slow"].take whole).map trimmed, .crashed) := by
  constructor
  · rw [(readReadyPipe_report ⟨fun _ => 0, fun _ => 31⟩ 0 ["\x01\x03up", " slow "] (by decide)).1
      (.failed "no route\n") ⟨0x6E, _, rfl, by decide, by decide⟩]
    decide +kernel
  · exact (readReadyPipe_report ⟨fun _ => 0, fun _ => 31⟩ 0 ["slow"] (by decide)).2 7 _ [0, 0, 0]
      (by decide) (by decide)

end Gritty
