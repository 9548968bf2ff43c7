import Gritty.Session.Rendered
import Gritty.Terminal.ModeSync

/-! Whether a client that resumes cleanly has the screen and the modes of the session's stream. -/

namespace Gritty

/-- Everything that frames make a client write to its terminal. -/
def renderedBytes (frames : List SessionFrame) : Bytes :=
  (frames.map fun frame =>
    match frame with
    | .data bytes => bytes
    | .notice bytes _ => bytes
    | _ => []).flatten

/-- A terminal that was written to shows the screen and has the modes that a stream gives it. -/
structure TerminalAgrees (written stream : Bytes) : Prop where
  screen : (AltScreenTracker.new.scan written).inAlternateScreen =
    (AltScreenTracker.new.scan stream).inAlternateScreen
  modes : (TermModeTracker.new.scan written).isSet = (TermModeTracker.new.scan stream).isSet

/-- What a session knows after its output so far. -/
def SessionOutput.after (cap : Nat) (chunks : List Bytes) : SessionOutput :=
  chunks.foldl SessionOutput.capture (.new cap)

/-- What a client has written that rendered a stream up to its offset and then resumed. -/
def resumedBytes (chrome : Chrome) (output : SessionOutput) (stream : Bytes)
    (request : AttachRequest) (redraw : List Bytes) : Bytes :=
  stream.take request.renderedOffset ++
    renderedBytes (output.sendReconnectReplay chrome request redraw).2

/-- What is replayed from an offset on brings a terminal into the state that the stream ends in. -/
structure ReplayFits (stream : Bytes) (offset : Nat) : Prop where
  /-- The last change of each mode in the replay leaves it as it is. -/
  modes : ∀ entry ∈ trackedModes.zip (TermModeTracker.new.scan stream).isSet, ∀ state,
    LastChange (modeEffect entry.1) (stream.drop offset) state → state = entry.2
  /-- The last change of the screen in the replay leaves the alternate screen. -/
  leaves : ∀ state, LastChange altScreenEffect (stream.drop offset) state → state = false
  /-- Without such a change the client stood on the main screen. -/
  stays : (¬ ∃ state, LastChange altScreenEffect (stream.drop offset) state) →
    (AltScreenTracker.new.scan (stream.take offset)).inAlternateScreen = false

section

/-- A terminal finds in the bytes of a resume what it found before, the sync, and the replay. -/
theorem changes_resumed {tracker : TermModeTracker}
    (sized : tracker.isSet.length = trackedModes.length) (front replay : Bytes) :
    changesOf (front ++ (tracker.syncSequence ++ replay)) =
      changesOf front ++ (tracker.syncChanges ++ changesOf replay) := by
  obtain ⟨ground, synced⟩ :=
    tracker.run_syncSequence (modeScanner.run .new front).1 sized
  have replayed := PrivateModeScanner.changes_of_ground ground replay
  unfold changesOf at replayed ⊢
  rw [Transducer.run_append, Transducer.run_append, synced, replayed]

theorem termModes_eq (text : Bytes) :
    (TermModeTracker.new.scan text).isSet = (changesOf text).foldl applyMode defaultModeStates :=
  rfl

theorem altScreen_eq (text : Bytes) :
    (AltScreenTracker.new.scan text).inAlternateScreen =
      (changesOf text).foldl applyAltScreen false := rfl

/-- After a resume, each mode is as the replay left it, or as the sync said. -/
theorem resumed_mode {tracker : TermModeTracker}
    (sized : tracker.isSet.length = trackedModes.length) (front replay : Bytes) {index : Nat}
    {tracked : TrackedMode} {state : Bool} (found : trackedModes[index]? = some tracked)
    (isState : tracker.isSet[index]? = some state) :
    (TermModeTracker.new.scan (front ++ (tracker.syncSequence ++ replay))).isSet[index]? =
      some ((latest (modeEffect tracked) (changesOf replay)).getD state) := by
  have defaults : defaultModeStates.length = trackedModes.length := rfl
  rw [termModes_eq, (foldl_applyMode _ defaults found).2, changes_resumed sized, latest_append,
    latest_append, TermModeTracker.latest_syncChanges found isState]
  cases latest (modeEffect tracked) (changesOf replay) <;> rfl

/-- After a resume, the screen is the one the replay went to, or the one the client stood on. -/
theorem resumed_screen {tracker : TermModeTracker}
    (sized : tracker.isSet.length = trackedModes.length) (front replay : Bytes) :
    (AltScreenTracker.new.scan (front ++ (tracker.syncSequence ++ replay))).inAlternateScreen =
      (latest altScreenEffect (changesOf replay)).getD
        (AltScreenTracker.new.scan front).inAlternateScreen := by
  have stays := tracker.altScreen_syncChanges
  rw [altScreen_eq, altScreen_eq, changes_resumed sized, foldl_applyAltScreen,
    foldl_applyAltScreen, latest_append, latest_append, stays, Option.or_none]
  cases latest altScreenEffect (changesOf replay) <;> rfl

end

namespace SessionOutput

/-- What a session knows of the screen and the modes is what its stream says. -/
theorem after_trackers (cap : Nat) (chunks : List Bytes) :
    (after cap chunks).altScreen = AltScreenTracker.new.scan chunks.flatten ∧
      (after cap chunks).termModes = TermModeTracker.new.scan chunks.flatten := by
  have captured (output : SessionOutput) :
      (chunks.foldl capture output).altScreen = output.altScreen.scan chunks.flatten ∧
        (chunks.foldl capture output).termModes = output.termModes.scan chunks.flatten := by
    induction chunks generalizing output with
    | nil => exact ⟨rfl, rfl⟩
    | cons chunk later ih =>
      obtain ⟨screen, modes⟩ := ih (output.capture chunk)
      rw [List.flatten_cons, AltScreenTracker.scan_append, TermModeTracker.scan_append]
      exact ⟨screen, modes⟩
  exact captured (.new cap)

theorem after_retains (cap : Nat) (chunks : List Bytes) :
    (after cap chunks).history.Retains chunks.flatten := by
  have start : (SessionOutput.new cap).history.Retains [] := History.retains_new cap
  exact capture_retains start chunks

end SessionOutput

theorem renderedBytes_cons (frame : SessionFrame) (later : List SessionFrame) :
    renderedBytes (frame :: later) = renderedBytes [frame] ++ renderedBytes later := by
  unfold renderedBytes
  rw [← List.singleton_append, List.map_append, List.flatten_append]

/-- Of a replay without queries, everything is rendered. -/
theorem renderedBytes_sendScrubbed (chunks : List Bytes) :
    renderedBytes (SessionOutput.sendScrubbed chunks) = stripQueries chunks.flatten := by
  rw [← SessionOutput.shownBytes_sendScrubbed]
  unfold renderedBytes shownBytes SessionOutput.sendScrubbed
  rw [List.map_map, List.map_map]
  rfl

/-- A client that resumes cleanly writes the stream up to its offset, the sync, and the scrubbed rest. -/
theorem resumedBytes_clean (chrome : Chrome) (cap : Nat) (chunks redraw : List Bytes)
    {request : AttachRequest} (resumes : request.isFresh = false)
    (notDirty : request.lineDirty = false)
    (main : (AltScreenTracker.new.scan chunks.flatten).inAlternateScreen = false)
    (retained : (SessionOutput.after cap chunks).history.base ≤ request.renderedOffset)
    (within : request.renderedOffset ≤ chunks.flatten.length) :
    resumedBytes chrome (SessionOutput.after cap chunks) chunks.flatten request redraw =
      chunks.flatten.take request.renderedOffset ++
        ((TermModeTracker.new.scan chunks.flatten).syncSequence ++
          stripQueries (chunks.flatten.drop request.renderedOffset)) := by
  obtain ⟨screen, modes⟩ := SessionOutput.after_trackers cap chunks
  have retains := SessionOutput.after_retains cap chunks
  have onMain : (SessionOutput.after cap chunks).altScreen.inAlternateScreen = false := by
    rw [screen, main]
  have known : request.renderedOffset ≤ (SessionOutput.after cap chunks).history.total := by
    rw [retains.total]
    exact within
  have planned := planReplay_clean onMain retained known
  rw [← resumes] at planned
  unfold resumedBytes
  rw [SessionOutput.sendReconnectReplay_clean chrome redraw planned notDirty, renderedBytes_cons,
    renderedBytes_cons (.notice _ _), renderedBytes_sendScrubbed, retains.sliceFrom retained, modes]
  simp only [renderedBytes, List.map_cons, List.map_nil, List.flatten_cons, List.flatten_nil,
    List.append_nil, List.nil_append]

/-- Written up to an offset, synced and written on without queries, a terminal agrees with a
stream that ends on the main screen exactly when the replay fits. -/
theorem terminalAgrees_iff {stream : Bytes} {offset : Nat}
    (main : (AltScreenTracker.new.scan stream).inAlternateScreen = false) :
    TerminalAgrees (stream.take offset ++ ((TermModeTracker.new.scan stream).syncSequence ++
      stripQueries (stream.drop offset))) stream ↔ ReplayFits stream offset := by
  have defaults : TermModeTracker.new.isSet.length = trackedModes.length := rfl
  have sized := TermModeTracker.scan_length defaults stream
  have screen := resumed_screen sized (stream.take offset) (stripQueries (stream.drop offset))
  constructor
  · intro agrees
    rw [agrees.screen, main] at screen
    refine ⟨?_, ?_, ?_⟩
    · intro entry member state changed
      obtain ⟨index, found⟩ := List.mem_iff_getElem?.mp member
      obtain ⟨isTracked, isState⟩ := List.getElem?_zip_eq_some.mp found
      have mode := resumed_mode sized (stream.take offset) (stripQueries (stream.drop offset))
        isTracked isState
      rw [agrees.modes, isState, (latest_stripQueries_iff _ state).mpr changed] at mode
      exact (Option.some.inj mode).symm
    · intro state changed
      rw [(latest_stripQueries_iff _ state).mpr changed] at screen
      exact screen.symm
    · intro unchanged
      have none : latest altScreenEffect (changesOf (stripQueries (stream.drop offset))) = none :=
        Option.eq_none_iff_forall_ne_some.mpr fun state last =>
          unchanged ⟨state, (latest_stripQueries_iff _ state).mp last⟩
      rw [none] at screen
      exact screen.symm
  · intro fits
    constructor
    · rw [screen, main]
      cases last : latest altScreenEffect (changesOf (stripQueries (stream.drop offset))) with
      | some state => exact fits.leaves state ((latest_stripQueries_iff _ state).mp last)
      | none =>
        apply fits.stays
        rintro ⟨state, changed⟩
        rw [(latest_stripQueries_iff _ state).mpr changed] at last
        simp at last
    · apply List.ext_getElem?
      intro index
      by_cases within : index < trackedModes.length
      · have isTracked := List.getElem?_eq_getElem within
        have isState := List.getElem?_eq_getElem (sized.symm ▸ within)
        have mode := resumed_mode sized (stream.take offset) (stripQueries (stream.drop offset))
          isTracked isState
        rw [mode, isState]
        cases last : latest (modeEffect trackedModes[index])
            (changesOf (stripQueries (stream.drop offset))) with
        | none => rfl
        | some state =>
          -- The replay's last change of this mode is to the state it has.
          have member : (trackedModes[index], (TermModeTracker.new.scan stream).isSet[index]) ∈
              trackedModes.zip (TermModeTracker.new.scan stream).isSet :=
            List.mem_of_getElem? (List.getElem?_zip_eq_some.mpr ⟨isTracked, isState⟩)
          exact congrArg some
            (fits.modes _ member state ((latest_stripQueries_iff _ state).mp last))
      · have outside := TermModeTracker.scan_length defaults (stream.take offset ++
          ((TermModeTracker.new.scan stream).syncSequence ++ stripQueries (stream.drop offset)))
        rw [List.getElem?_eq_none (by omega), List.getElem?_eq_none (by omega)]

/-- A client that resumes cleanly agrees with the session about the screen and the modes exactly
when the replay fits. -/
theorem cleanResume_agrees_iff (chrome : Chrome) (cap : Nat) (chunks redraw : List Bytes)
    {request : AttachRequest} (resumes : request.isFresh = false)
    (notDirty : request.lineDirty = false)
    (main : (AltScreenTracker.new.scan chunks.flatten).inAlternateScreen = false)
    (retained : (SessionOutput.after cap chunks).history.base ≤ request.renderedOffset)
    (within : request.renderedOffset ≤ chunks.flatten.length) :
    TerminalAgrees (resumedBytes chrome (SessionOutput.after cap chunks) chunks.flatten request
      redraw) chunks.flatten ↔ ReplayFits chunks.flatten request.renderedOffset := by
  rw [resumedBytes_clean chrome cap chunks redraw resumes notDirty main retained within]
  exact terminalAgrees_iff main

/-- A program that enters the alternate screen and leaves it. -/
def fullScreenProgram : Bytes := escByte :: ascii "[?1049h" ++ escByte :: ascii "[?1049l"

/-- A client that comes back with an offset, and painted no status line. -/
def returningAt (offset : Nat) : AttachRequest :=
  { renderedOffset := offset, lineDirty := false, isFresh := false, cols := 80, rows := 24 }

/-- A client that has rendered all of it resumes, and agrees exactly when the replay fits. -/
theorem cleanResume_agrees_iff_whole :
    TerminalAgrees (resumedBytes shortChrome (SessionOutput.after 64 [fullScreenProgram])
      fullScreenProgram (returningAt 16) []) fullScreenProgram ↔
        ReplayFits fullScreenProgram 16 :=
  cleanResume_agrees_iff shortChrome 64 [fullScreenProgram] [] rfl rfl (by decide) (by decide)
    (by decide)

/-- Cut off in the middle of the sequence that leaves it, a client resumes on the alternate screen. -/
theorem leave_cut_in_two :
    ¬ ∀ (chrome : Chrome) (cap : Nat) (chunks redraw : List Bytes) (request : AttachRequest),
      request.isFresh = false → request.lineDirty = false →
      (AltScreenTracker.new.scan chunks.flatten).inAlternateScreen = false →
      (SessionOutput.after cap chunks).history.base ≤ request.renderedOffset →
      request.renderedOffset ≤ chunks.flatten.length →
      TerminalAgrees (resumedBytes chrome (SessionOutput.after cap chunks) chunks.flatten request
        redraw) chunks.flatten := by
  intro always
  have agrees := always shortChrome 64 [fullScreenProgram] [] (returningAt 12) rfl rfl
    (by decide) (by decide) (by decide)
  exact absurd agrees.screen (by decide)

end Gritty
