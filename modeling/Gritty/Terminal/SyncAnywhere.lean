import Gritty.Terminal.ModeSync

/-! The sync of a terminal's modes, sent to a terminal in any state. -/

namespace Gritty

namespace TermModeTracker

/-- What returns every tracked mode to its default. -/
def defaultModeSequence : Bytes := new.syncSequence

/-- A sync brings a tracker into the states it was made of, wherever the tracker stood. -/
theorem scan_syncSequence {tracker source : TermModeTracker}
    (sized : tracker.isSet.length = trackedModes.length)
    (sizedSource : source.isSet.length = trackedModes.length) :
    (tracker.scan source.syncSequence).isSet = source.isSet ∧
      (tracker.scan source.syncSequence).scanner.state = .ground := by
  obtain ⟨ground, changes⟩ := source.run_syncSequence tracker.scanner sizedSource
  refine ⟨?_, ground⟩
  show (modeScanner.run tracker.scanner source.syncSequence).2.foldl applyMode tracker.isSet = _
  rw [changes]
  -- Place by place, the last change of a mode in the sync is to the state the source has.
  apply List.ext_getElem?
  intro index
  by_cases inside : index < trackedModes.length
  · have found : trackedModes[index]? = some trackedModes[index] := List.getElem?_eq_getElem inside
    have within : index < source.isSet.length := sizedSource ▸ inside
    have isState : source.isSet[index]? = some source.isSet[index] :=
      List.getElem?_eq_getElem within
    rw [(foldl_applyMode source.syncChanges sized found).2, latest_syncChanges found isState,
      Option.some_or, isState]
  · -- Outside of the tracked modes there is nothing on either side.
    have sizedAfter : (source.syncChanges.foldl applyMode tracker.isSet).length =
        trackedModes.length :=
      (foldl_applyMode _ sized (rfl : trackedModes[0]? = some (offByDefault 1))).1
    rw [List.getElem?_eq_none (by omega), List.getElem?_eq_none (by omega)]

/-- The sequence depends on the states of the modes alone. -/
theorem syncSequence_congr {tracker other : TermModeTracker} (same : tracker.isSet = other.isSet) :
    tracker.syncSequence = other.syncSequence := by
  unfold syncSequence numbersIn
  rw [same]

end TermModeTracker

/-- Syncs reach their goal from every state, and so does the sequence of the defaults. -/
structure SyncsFromAnywhere : Prop where
  states : ∀ before other : Bytes,
    ((TermModeTracker.new.scan before).scan (TermModeTracker.new.scan other).syncSequence).isSet =
      (TermModeTracker.new.scan other).isSet
  ground : ∀ before other : Bytes,
    ((TermModeTracker.new.scan before).scan
      (TermModeTracker.new.scan other).syncSequence).scanner.state = .ground
  again : ∀ before other : Bytes,
    ((TermModeTracker.new.scan before).scan
      (TermModeTracker.new.scan other).syncSequence).syncSequence =
        (TermModeTracker.new.scan other).syncSequence
  /-- No list of modes is longer than a scanner accepts. -/
  fits : ∀ (other : Bytes) (wanted : Bool),
    ((TermModeTracker.new.scan other).numbersIn wanted).length ≤ maxModesPerSequence
  defaults : ∀ before : Bytes,
    ((TermModeTracker.new.scan before).scan TermModeTracker.defaultModeSequence).isSet =
      defaultModeStates

/-- Whatever a terminal has read, and wherever it was cut off, a sync brings it into the wanted modes. -/
theorem syncsFromAnywhere : SyncsFromAnywhere := by
  have sized : ∀ output : Bytes, (TermModeTracker.new.scan output).isSet.length =
      trackedModes.length := fun output => TermModeTracker.scan_length rfl output
  have synced : ∀ before other : Bytes,
      ((TermModeTracker.new.scan before).scan (TermModeTracker.new.scan other).syncSequence).isSet =
        (TermModeTracker.new.scan other).isSet :=
    fun before other => (TermModeTracker.scan_syncSequence (sized before) (sized other)).1
  refine ⟨synced, ?_, ?_, ?_, ?_⟩
  · exact fun before other => (TermModeTracker.scan_syncSequence (sized before) (sized other)).2
  · exact fun before other => TermModeTracker.syncSequence_congr (synced before other)
  · exact fun other wanted => TermModeTracker.numbersIn_length _ wanted
  · -- The defaults are those of a terminal without any output.
    exact fun before => synced before []

end Gritty
