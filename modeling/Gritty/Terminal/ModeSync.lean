import Gritty.Lib.Decimal
import Gritty.Terminal.ModeSequences

/-! What a text does to each mode, and what the sync of all modes does to a terminal. -/

namespace Gritty

/-- What a change does to one tracked mode. -/
def modeEffect (tracked : TrackedMode) : ModeEvent → Option Bool
  | .fullReset => some tracked.isSetByDefault
  | .changed mode isModeSet => if mode = tracked.number then some isModeSet else none

/-- What a change does to the alternate screen. -/
def altScreenEffect : ModeEvent → Option Bool
  | .changed mode entering => if mode = 1049 ∨ mode = 1047 ∨ mode = 47 then some entering else none
  | .fullReset => none

/-- The last change of the alternate screen says which screen is shown. -/
theorem foldl_applyAltScreen (events : List ModeEvent) (inAlt : Bool) :
    events.foldl applyAltScreen inAlt = (latest altScreenEffect events).getD inAlt := by
  induction events generalizing inAlt with
  | nil => rfl
  | cons event events ih =>
    have stepped : applyAltScreen inAlt event = (altScreenEffect event).getD inAlt := by
      cases event with
      | fullReset => rfl
      | changed mode entering =>
        simp only [applyAltScreen, altScreenEffect]
        split <;> rfl
    rw [List.foldl_cons, ih, latest_cons, stepped]
    cases latest altScreenEffect events <;> rfl

theorem trackedModes_nodup : (trackedModes.map (·.number)).Nodup := by decide

/-- No two tracked modes have the same number. -/
theorem trackedModes_index {first second : Nat} {tracked other : TrackedMode}
    (found : trackedModes[first]? = some tracked) (also : trackedModes[second]? = some other)
    (same : tracked.number = other.number) : first = second := by
  have foundNumber : (trackedModes.map (·.number))[first]? = some tracked.number := by
    rw [List.getElem?_map, found]
    rfl
  have alsoNumber : (trackedModes.map (·.number))[second]? = some tracked.number := by
    rw [List.getElem?_map, also, same]
    rfl
  obtain ⟨firstWithin, firstIs⟩ := List.getElem?_eq_some_iff.mp foundNumber
  obtain ⟨secondWithin, secondIs⟩ := List.getElem?_eq_some_iff.mp alsoNumber
  exact (trackedModes_nodup.getElem_inj_iff).mp (firstIs.trans secondIs.symm)

/-- A change of a mode leaves how many are tracked. -/
theorem applyMode_length (isSet : ModeStates) (event : ModeEvent)
    (sized : isSet.length = trackedModes.length) :
    (applyMode isSet event).length = trackedModes.length := by
  cases event with
  | fullReset => rfl
  | changed mode isModeSet =>
    simp only [applyMode]
    split
    · rw [List.length_set, sized]
    · exact sized

/-- A change sets a tracked mode as its effect says, and leaves it alone if it has none. -/
theorem applyMode_getElem? {isSet : ModeStates} (sized : isSet.length = trackedModes.length)
    {index : Nat} {tracked : TrackedMode} (found : trackedModes[index]? = some tracked)
    (event : ModeEvent) :
    (applyMode isSet event)[index]? = (modeEffect tracked event).or isSet[index]? := by
  obtain ⟨within, is⟩ := List.getElem?_eq_some_iff.mp found
  cases event with
  | fullReset =>
    show (trackedModes.map (·.isSetByDefault))[index]? = _
    rw [List.getElem?_map, found]
    rfl
  | changed mode isModeSet =>
    simp only [applyMode, modeEffect]
    cases place : trackedModes.findIdx? fun tracked => tracked.number == mode with
    | some other =>
      obtain ⟨otherWithin, matched, -⟩ := List.findIdx?_eq_some_iff_getElem.mp place
      have numbered : trackedModes[other].number = mode := beq_iff_eq.mp matched
      by_cases same : mode = tracked.number
      · have here : other = index :=
          trackedModes_index (List.getElem?_eq_getElem otherWithin) found (numbered.trans same)
        subst here
        have fits : other < isSet.length := by omega
        simp [same, fits]
      · have elsewhere : other ≠ index := by
          rintro rfl
          exact same (by rw [← numbered, is])
        simp [same, elsewhere]
    | none =>
      have noMode := List.findIdx?_eq_none_iff.mp place tracked (List.mem_of_getElem? found)
      have other : mode ≠ tracked.number := fun same => by simp [same] at noMode
      simp [other]

/-- The last change of a tracked mode says how it is. -/
theorem foldl_applyMode (events : List ModeEvent) {isSet : ModeStates}
    (sized : isSet.length = trackedModes.length) {index : Nat} {tracked : TrackedMode}
    (found : trackedModes[index]? = some tracked) :
    (events.foldl applyMode isSet).length = trackedModes.length ∧
      (events.foldl applyMode isSet)[index]? =
        (latest (modeEffect tracked) events).or isSet[index]? := by
  induction events generalizing isSet with
  | nil => exact ⟨sized, rfl⟩
  | cons event events ih =>
    obtain ⟨length, state⟩ := ih (applyMode_length isSet event sized)
    rw [List.foldl_cons]
    refine ⟨length, ?_⟩
    rw [state, applyMode_getElem? sized found, latest_cons, Option.or_assoc]

theorem ascii_append (first second : String) : ascii (first ++ second) = ascii first ++ ascii second := by
  unfold ascii
  rw [String.toList_append, List.map_append]

section

open PrivateModeScanner

/-- The byte of a digit, and the number a scanner takes from it. -/
theorem digit_byte {digit : Char} (decimal : digit.isDigit = true) :
    (0x30 ≤ UInt8.ofNat digit.toNat ∧ UInt8.ofNat digit.toNat ≤ 0x39) ∧
      (UInt8.ofNat digit.toNat - 0x30).toNat = digit.toNat - '0'.toNat := by
  obtain ⟨least, most⟩ : 48 ≤ digit.toNat ∧ digit.toNat ≤ 57 := by
    simp only [Char.isDigit, Bool.and_eq_true, decide_eq_true_eq] at decimal
    exact decimal
  have byte : (UInt8.ofNat digit.toNat).toNat = digit.toNat := by
    rw [UInt8.toNat_ofNat']
    omega
  have above : (0x30 : UInt8) ≤ UInt8.ofNat digit.toNat := by
    rw [UInt8.le_iff_toNat_le, byte]
    exact least
  refine ⟨⟨above, ?_⟩, ?_⟩
  · rw [UInt8.le_iff_toNat_le, byte]
    exact most
  · rw [UInt8.toNat_sub_of_le _ _ above, byte]
    rfl

/-- One more digit of a number that stays within sixteen bits. -/
theorem step_decimal {scanner : PrivateModeScanner} (inside : scanner.state = .params)
    {digit : Char} (decimal : digit.isDigit = true) {value : Nat}
    (current : (scanner.partialMode.getD 0).toNat = value)
    (small : 10 * value + (digit.toNat - '0'.toNat) < 2 ^ 16) :
    modeScanner.step scanner (UInt8.ofNat digit.toNat) =
      ({ scanner with
          partialMode := some (UInt16.ofNat (10 * value + (digit.toNat - '0'.toNat))) }, []) := by
  obtain ⟨range, number⟩ := digit_byte decimal
  show scanner.step _ = _
  rw [step_digit inside range]
  simp only [PrivateModeScanner.pushDigit, number, current, Nat.mul_comm value 10, if_pos small,
    inside]

/-- The digits of a 16-bit number are read to that number. -/
theorem run_digits {scanner : PrivateModeScanner} (inside : scanner.state = .params)
    {digit : Char} {digits : List Char} (decimals : ∀ one ∈ digit :: digits, one.isDigit = true)
    {value : Nat} (current : (scanner.partialMode.getD 0).toNat = value)
    (small : Nat.ofDigitChars 10 (digit :: digits) value < 2 ^ 16) :
    modeScanner.run scanner ((digit :: digits).map fun letter => UInt8.ofNat letter.toNat) =
      ({ scanner with
          partialMode := some (UInt16.ofNat (Nat.ofDigitChars 10 (digit :: digits) value)) },
        []) := by
  -- The number only grows with each digit, so no digit makes the scanner drop the sequence.
  induction digits generalizing digit scanner value with
  | nil =>
    rw [Nat.ofDigitChars_cons, Nat.ofDigitChars_nil] at small ⊢
    rw [List.map_singleton, Transducer.run_singleton,
      step_decimal inside (decimals digit List.mem_cons_self) current small]
  | cons second digits ih =>
    rw [Nat.ofDigitChars_cons] at small ⊢
    have grows := le_ofDigitChars (second :: digits) (10 * value + (digit.toNat - '0'.toNat))
    have fits : 10 * value + (digit.toNat - '0'.toNat) < 2 ^ 16 := Nat.lt_of_le_of_lt grows small
    have stepped := step_decimal inside (decimals digit List.mem_cons_self) current fits
    have rest : ∀ one ∈ second :: digits, one.isDigit = true :=
      (List.forall_mem_cons.mp decimals).2
    have next : (UInt16.ofNat (10 * value + (digit.toNat - '0'.toNat))).toNat =
        10 * value + (digit.toNat - '0'.toNat) := by
      rw [UInt16.toNat_ofNat']
      exact Nat.mod_eq_of_lt fits
    let after : PrivateModeScanner :=
      { scanner with
        partialMode := some (UInt16.ofNat (10 * value + (digit.toNat - '0'.toNat))) }
    have insideAfter : after.state = .params := inside
    have read := ih insideAfter rest next small
    rw [List.map_cons, Transducer.run_cons, stepped, read]
    rfl

/-- A mode number is read to that number. -/
theorem run_number {modes : List UInt16} (number : UInt16) :
    modeScanner.run { state := .params, modes, partialMode := none }
        (ascii (toString number.toNat)) =
      ({ state := .params, modes, partialMode := some number }, []) := by
  have letters : (toString number.toNat).toList = Nat.toDigits 10 number.toNat := Nat.toList_repr
  have decimals : ∀ digit ∈ Nat.toDigits 10 number.toNat, digit.isDigit = true :=
    fun digit member => Nat.isDigit_of_mem_toDigits (by decide) (by decide) member
  obtain ⟨digit, digits, split⟩ :=
    List.exists_cons_of_ne_nil (Nat.toDigits_ne_nil : Nat.toDigits 10 number.toNat ≠ [])
  have whole : Nat.ofDigitChars 10 (digit :: digits) 0 = number.toNat := by
    rw [← split, Nat.ofDigitChars_ten_toDigits]
  let start : PrivateModeScanner := { state := .params, modes, partialMode := none }
  have inside : start.state = .params := rfl
  have current : (start.partialMode.getD 0).toNat = 0 := rfl
  have read := run_digits inside (split ▸ decimals) current (whole ▸ number.toNat_lt)
  rw [whole, UInt16.ofNat_toNat] at read
  unfold ascii
  rw [letters, split]
  exact read

end

section

open PrivateModeScanner

/-- Numbers between separators are all read, as long as there is room for them. -/
theorem run_joined (first : UInt16) (numbers modes : List UInt16)
    (room : modes.length + (numbers.length + 1) ≤ maxModesPerSequence) :
    ∃ scanner : PrivateModeScanner,
      modeScanner.run { state := .params, modes, partialMode := none }
          (ascii (";".intercalate ((first :: numbers).map fun number => toString number.toNat))) =
        (scanner, []) ∧
      scanner.state = .params ∧
      scanner.endModeNumber =
        { state := .params, modes := modes ++ first :: numbers, partialMode := none } := by
  -- There is room for the first number, which the byte after it puts among the others.
  have fits : modes.length ≠ maxModesPerSequence := by omega
  have ended : PrivateModeScanner.endModeNumber
      { state := .params, modes, partialMode := some first } =
        { state := .params, modes := modes ++ [first], partialMode := none } := by
    unfold endModeNumber
    exact if_neg fits
  induction numbers generalizing first modes with
  | nil =>
    refine ⟨_, ?_, rfl, ended⟩
    rw [List.map_singleton, String.intercalate_singleton]
    exact run_number first
  | cons second numbers ih =>
    have roomLeft : (modes ++ [first]).length + (numbers.length + 1) ≤ maxModesPerSequence := by
      rw [List.length_cons] at room
      rw [List.length_append, List.length_singleton]
      omega
    have fitsNext : (modes ++ [first]).length ≠ maxModesPerSequence := by omega
    obtain ⟨scanner, read, inside, last⟩ :=
      ih second (modes ++ [first]) roomLeft fitsNext (if_neg fitsNext)
    refine ⟨scanner, ?_, inside, ?_⟩
    · have separated : modeScanner.run
          { state := .params, modes, partialMode := some first } (ascii ";") =
          ({ state := .params, modes := modes ++ [first], partialMode := none }, []) := by
        rw [← ended]
        rfl
      rw [List.map_cons] at read
      rw [List.map_cons, List.map_cons, String.intercalate_cons_cons, ascii_append, ascii_append,
        Transducer.run_append, Transducer.run_append, run_number, separated]
      simp only [read, List.append_nil]
    · rw [last, List.append_assoc, List.singleton_append]

/-- The byte that sets or resets modes, as text. -/
def terminator (isSet : Bool) : String := if isSet then "h" else "l"

/-- At the end of a sequence its modes are reported. -/
theorem run_terminator {scanner : PrivateModeScanner} (inside : scanner.state = .params)
    (isSet : Bool) : modeScanner.run scanner (ascii (terminator isSet)) =
      scanner.endSequence isSet := by
  obtain ⟨state, modes, partialMode⟩ := scanner
  have params : state = .params := inside
  subst params
  cases isSet <;> exact Transducer.run_singleton _ _

/-- A sequence that is written for some modes changes exactly those, whatever was read before. -/
theorem run_modeSequence (scanner : PrivateModeScanner) {numbers : List UInt16}
    (few : numbers.length ≤ maxModesPerSequence) (isSet : Bool) :
    (modeScanner.run scanner (TermModeTracker.modeSequence numbers (terminator isSet))).2 =
        numbers.map (.changed · isSet) ∧
      (numbers ≠ [] ∨ scanner.state = .ground →
        (modeScanner.run scanner
          (TermModeTracker.modeSequence numbers (terminator isSet))).1.state = .ground) := by
  cases numbers with
  | nil => exact ⟨rfl, fun ground => ground.resolve_left fun more => more rfl⟩
  | cons first numbers =>
    have room : ([] : List UInt16).length + (numbers.length + 1) ≤ maxModesPerSequence := by
      simpa using few
    obtain ⟨last, read, inside, ended⟩ := run_joined first numbers [] room
    have whole : modeScanner.run scanner
        (TermModeTracker.modeSequence (first :: numbers) (terminator isSet)) =
          last.endSequence isSet := by
      have introduced : modeScanner.run scanner
          (TermModeTracker.modeSequence (first :: numbers) (terminator isSet)) =
            modeScanner.run { state := .params, modes := [], partialMode := none }
              (ascii (";".intercalate
                  ((first :: numbers).map fun number => toString number.toNat)) ++
                ascii (terminator isSet)) := rfl
      rw [introduced, Transducer.run_append, read, run_terminator inside]
      rfl
    rw [whole]
    unfold endSequence
    rw [ended]
    exact ⟨rfl, fun _ => rfl⟩

end

/-- Changes of some modes to one state put exactly these modes into it. -/
theorem latest_changed (tracked : TrackedMode) (numbers : List UInt16) (isSet : Bool) :
    latest (modeEffect tracked) (numbers.map (.changed · isSet)) =
      if tracked.number ∈ numbers then some isSet else none := by
  induction numbers with
  | nil => rfl
  | cons first numbers ih =>
    rw [List.map_cons, latest_cons, ih]
    by_cases later : tracked.number ∈ numbers
    · rw [if_pos later, if_pos (List.mem_cons_of_mem _ later), Option.some_or]
    · rw [if_neg later, Option.none_or]
      by_cases here : first = tracked.number
      · have among : tracked.number ∈ first :: numbers := here ▸ List.mem_cons_self
        rw [if_pos among]
        exact if_pos here
      · have apart : tracked.number ∉ first :: numbers := by
          simp [later, Ne.symm here]
        rw [if_neg apart]
        exact if_neg here

namespace TermModeTracker

/-- No output adds or removes a mode. -/
theorem scan_length {tracker : TermModeTracker}
    (sized : tracker.isSet.length = trackedModes.length) (data : Bytes) :
    (tracker.scan data).isSet.length = trackedModes.length :=
  (foldl_applyMode _ sized (rfl : trackedModes[0]? = some (offByDefault 1))).1

/-- A mode's number is among those in a state exactly if the mode is in that state. -/
theorem mem_numbersIn {tracker : TermModeTracker} {wanted : Bool} {number : UInt16} :
    number ∈ tracker.numbersIn wanted ↔
      ∃ (index : Nat) (tracked : TrackedMode), trackedModes[index]? = some tracked ∧
        tracker.isSet[index]? = some wanted ∧ tracked.number = number := by
  unfold numbersIn
  constructor
  · intro member
    obtain ⟨⟨tracked, state⟩, kept, rfl⟩ := List.mem_map.mp member
    obtain ⟨zipped, inState⟩ := List.mem_filter.mp kept
    obtain ⟨index, found⟩ := List.mem_iff_getElem?.mp zipped
    obtain ⟨isTracked, isState⟩ := List.getElem?_zip_eq_some.mp found
    have same : state = wanted := beq_iff_eq.mp inState
    exact ⟨index, tracked, isTracked, same ▸ isState, rfl⟩
  · rintro ⟨index, tracked, isTracked, isState, rfl⟩
    have zipped : (tracked, wanted) ∈ trackedModes.zip tracker.isSet :=
      List.mem_of_getElem? (List.getElem?_zip_eq_some.mpr ⟨isTracked, isState⟩)
    exact List.mem_map.mpr ⟨_, List.mem_filter.mpr ⟨zipped, beq_self_eq_true wanted⟩, rfl⟩

/-- No more modes are in a state than fit into one sequence. -/
theorem numbersIn_length (tracker : TermModeTracker) (wanted : Bool) :
    (tracker.numbersIn wanted).length ≤ maxModesPerSequence := by
  unfold numbersIn
  rw [List.length_map]
  have kept := List.length_filter_le (fun entry : TrackedMode × Bool => entry.2 == wanted)
    (trackedModes.zip tracker.isSet)
  have zipped : (trackedModes.zip tracker.isSet).length =
      min trackedModes.length tracker.isSet.length := List.length_zip
  have tracked : trackedModes.length = maxModesPerSequence := rfl
  omega

/-- The changes a sync makes: every tracked mode is reset or set. -/
def syncChanges (tracker : TermModeTracker) : List ModeEvent :=
  (tracker.numbersIn false).map (.changed · false) ++
    (tracker.numbersIn true).map (.changed · true)

/-- Whatever a terminal has read before, a sync makes exactly its changes, and no sequence is left open. -/
theorem run_syncSequence (scanner : PrivateModeScanner) {tracker : TermModeTracker}
    (sized : tracker.isSet.length = trackedModes.length) :
    (modeScanner.run scanner tracker.syncSequence).1.state = .ground ∧
      (modeScanner.run scanner tracker.syncSequence).2 = tracker.syncChanges := by
  obtain ⟨resets, resetsEnd⟩ := run_modeSequence scanner (tracker.numbersIn_length false) false
  have split : tracker.syncSequence =
      modeSequence (tracker.numbersIn false) (terminator false) ++
        modeSequence (tracker.numbersIn true) (terminator true) := rfl
  rw [split, Transducer.run_append]
  obtain ⟨sets, setsEnd⟩ := run_modeSequence
    (modeScanner.run scanner (modeSequence (tracker.numbersIn false) (terminator false))).1
    (tracker.numbersIn_length true) true
  refine ⟨?_, by rw [resets, sets]; rfl⟩
  apply setsEnd
  -- The first tracked mode is in one of the two states.
  have within : 0 < tracker.isSet.length := by
    rw [sized]
    decide
  have first : tracker.isSet[0]? = some tracker.isSet[0] := List.getElem?_eq_getElem within
  have member : 1 ∈ tracker.numbersIn tracker.isSet[0] :=
    mem_numbersIn.mpr ⟨0, offByDefault 1, rfl, first, rfl⟩
  cases state : tracker.isSet[0] with
  | true => exact Or.inl (List.ne_nil_of_mem (state ▸ member))
  | false => exact Or.inr (resetsEnd (Or.inl (List.ne_nil_of_mem (state ▸ member))))

/-- A sync puts every tracked mode into the state it has. -/
theorem latest_syncChanges {tracker : TermModeTracker} {index : Nat} {tracked : TrackedMode}
    {state : Bool} (found : trackedModes[index]? = some tracked)
    (isState : tracker.isSet[index]? = some state) :
    latest (modeEffect tracked) tracker.syncChanges = some state := by
  unfold syncChanges
  rw [latest_append, latest_changed, latest_changed]
  have among : tracked.number ∈ tracker.numbersIn state :=
    mem_numbersIn.mpr ⟨index, tracked, found, isState, rfl⟩
  cases state with
  | true => rw [if_pos among, Option.some_or]
  | false =>
    have notSet : tracked.number ∉ tracker.numbersIn true := by
      intro member
      obtain ⟨other, _, also, otherState, same⟩ := mem_numbersIn.mp member
      have here : other = index := trackedModes_index also found same
      rw [here, isState] at otherState
      exact absurd otherState (by decide)
    rw [if_neg notSet, Option.none_or, if_pos among]

/-- A sync leaves a terminal on the screen it shows. -/
theorem altScreen_syncChanges (tracker : TermModeTracker) :
    latest altScreenEffect tracker.syncChanges = none := by
  have screens : ∀ tracked ∈ trackedModes,
      ¬ (tracked.number = 1049 ∨ tracked.number = 1047 ∨ tracked.number = 47) := by decide
  have untouched (wanted : Bool) : ∀ event ∈ (tracker.numbersIn wanted).map (.changed · wanted),
      altScreenEffect event = none := by
    intro event member
    obtain ⟨number, inState, rfl⟩ := List.mem_map.mp member
    obtain ⟨index, tracked, found, -, rfl⟩ := mem_numbersIn.mp inState
    exact if_neg (screens tracked (List.mem_of_getElem? found))
  unfold syncChanges
  rw [latest_append, latest_none (untouched true), latest_none (untouched false)]
  rfl

end TermModeTracker

end Gritty
