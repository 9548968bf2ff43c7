import Gritty.Lib.Transition
import Gritty.Commands.MarkPicker

/-! The pickers do not panic, and what they ask the server for is about the row that they show. -/

namespace Gritty

variable {ε : Type}

/-- The session that a request kills or renames. -/
def Frame.target : Frame → Option String
  | .killSession session => some session
  | .renameSession session _ => some session
  | _ => none

/-- The request is about the session whose row was highlighted when the mode was entered. -/
def PickerRequest.Meant (request : PickerRequest) : Prop :=
  ∀ session, request.frame.target = some session →
    ∃ row entry, request.entered = some row ∧ entry ∈ request.listed ∧ row.id = entry.id ∧
      row.name = sessionWireName entry ∧ session = row.name

/-- The cursor is on a row, or on the one for a new session, and each mode has what it needs. -/
structure Picker.InBounds (picker : Picker) : Prop where
  cursor : picker.cursor ≤ picker.rows.length
  confirmKill : picker.mode = .confirmKill → picker.cursor < picker.rows.length
  input : ∀ name, picker.mode = .input name →
    Utf8Text.Boundary name.buf name.cursorPos ∧ name.cursorPos ≤ Utf8Text.len name.buf

/-- A picker that is what it should be, for what was highlighted when its mode was entered. -/
structure Picker.Settled (picker : Picker) (listed : List SessionEntry) (entered : Option Row) :
    Prop where
  inBounds : picker.InBounds
  shown : Shows listed picker.rows
  killed : picker.mode = .confirmKill → entered = picker.rows[picker.cursor]?
  renamed : ∀ name, picker.mode = .input name → ∀ old, name.renameOf = some old →
    ∃ row ∈ picker.rows, entered = some row ∧ row.name = old

/-- What comes of an event is as it should be. -/
def PickerTurn.Sound (picker : Picker) (listed : List SessionEntry) (entered : Option Row)
    (reply : ServerReply) : PickerTurn → Prop
  | .goes next frames =>
    next.Settled (listedAfter listed frames reply)
        (if next.mode.same picker.mode then entered else picker.highlighted) ∧
      ∀ frame ∈ frames, PickerRequest.Meant { frame, entered, listed }
  | _ => True

/-! ### The screen -/

section

variable {picker : Picker} {listed : List SessionEntry} {entered : Option Row}

/-- The last line can be made without a fault. -/
theorem Picker.lastLine_safe (inBounds : picker.InBounds) (suggested : String) :
    Exec.Safe (picker.lastLine suggested : Exec ε String) fun _ => True := by
  unfold lastLine
  split
  · exact Exec.Safe.ok trivial
  · exact Exec.Safe.ok trivial
  · next name mode =>
    -- The text is split at the cursor, which is between two characters.
    refine (Utf8Text.splitAt_safe (inBounds.input name mode).1).bind fun parts split => ?_
    obtain ⟨before, after⟩ := parts
    have rest : Exec.Safe
        (if after = [] then .ok ([], [])
          else Utf8Text.splitAt after (after.head?.getD ' ').utf8Size : Exec ε _) fun _ => True := by
      refine Exec.Safe.ite (fun _ => Exec.Safe.ok trivial) fun some_ => ?_
      cases after with
      | nil => exact absurd rfl some_
      | cons first rest =>
        -- The character at the cursor is the first one behind it.
        have behind : Utf8Text.Boundary (first :: rest) first.utf8Size :=
          ⟨[first], rest, rfl, by rw [Utf8Text.len_cons, Utf8Text.len_nil, Nat.add_zero]⟩
        exact (Utf8Text.splitAt_safe behind).mono fun _ _ => trivial
    exact rest.bind fun _ _ => Exec.Safe.ok trivial

/-- The hints can be made without a fault. -/
theorem Picker.hints_safe (inBounds : picker.InBounds) :
    Exec.Safe (picker.hints : Exec ε String) fun _ => True := by
  unfold hints
  split
  · exact Exec.Safe.ok trivial
  · exact Exec.Safe.ok trivial
  · next mode =>
    -- The question names the row at the cursor, so there has to be one.
    refine (Exec.element_safe (inBounds.confirmKill mode)).bind fun _ _ => ?_
    exact Exec.Safe.ok trivial

/-- The pointer on the screen is in front of the row that is highlighted. -/
theorem Picker.render_safe (env : PickerEnv) (inBounds : picker.InBounds)
    (shown : Shows listed picker.rows) :
    Exec.Safe (picker.render env : Exec ε Screen) fun screen =>
      screen.highlighted = picker.highlighted := by
  -- The lines, the suggestion, the last line and the hints are computed in this order.
  refine (pickerLines_safe env.displayWidth picker.rows).bind fun lines count => ?_
  refine (suggestFrom_safe shown env.clientName).bind fun suggested _ => ?_
  refine (lastLine_safe inBounds _).bind fun last _ => ?_
  refine (hints_safe inBounds).bind fun hints _ => ?_
  refine Exec.Safe.ok ?_
  unfold Screen.highlighted Picker.highlighted
  dsimp only
  cases picking : picker.mode.picking with
  | false =>
    -- Nothing is highlighted while a name is edited.
    have none_ : ∀ line ∈ (picker.rows.zip lines.2).mapIdx fun position shown =>
        picker.line position shown.1 shown.2, ¬ line.pointed = true := by
      intro line member
      obtain ⟨position, inside, rfl⟩ := List.mem_mapIdx.mp member
      simp [Picker.line, picking]
    rw [List.find?_eq_none.mpr none_]
    rfl
  | true =>
    -- The pointer is where the cursor is, and nowhere else.
    have marks : ∀ position (shown : Row × String),
        (picker.line position shown.1 shown.2).pointed = decide (position = picker.cursor) := by
      intro position shown
      simp [Picker.line, picking]
    -- Every row has its line, so that none is cut off.
    have whole : (picker.rows.zip lines.2).map Prod.fst = picker.rows :=
      List.map_fst_zip (by rw [count])
    rw [find?_mapIdx_position _ _ picker.cursor _ marks, Option.map_map, if_pos rfl]
    calc (picker.rows.zip lines.2)[picker.cursor]?.map Prod.fst
      _ = ((picker.rows.zip lines.2).map Prod.fst)[picker.cursor]? := List.getElem?_map.symm
      _ = picker.rows[picker.cursor]? := by rw [whole]

/-! ### Events -/

/-- Where no list was asked for, the last one stands. -/
theorem listedAfter_of_not_mem {frames : List Frame} (unasked : .listSessions ∉ frames)
    (listed : List SessionEntry) (reply : ServerReply) :
    listedAfter listed frames reply = listed := by
  unfold listedAfter
  split
  -- A list that was not asked for is not read.
  · exact if_neg unasked
  · rfl

/-- In the list, nothing is asked of the picker but that its cursor be on it. -/
theorem Picker.Settled.of_pick (mode : picker.mode = .pick)
    (cursor : picker.cursor ≤ picker.rows.length) (shown : Shows listed picker.rows) :
    picker.Settled listed entered where
  inBounds := {
    cursor
    confirmKill other := nomatch mode.symm.trans other
    input _ other := nomatch mode.symm.trans other }
  shown
  killed other := nomatch mode.symm.trans other
  renamed _ other := nomatch mode.symm.trans other

/-- While a name is edited, the cursor is in it, and a session that is to be renamed was highlighted. -/
theorem Picker.Settled.of_input {name : NameInput} (mode : picker.mode = .input name)
    (cursor : picker.cursor ≤ picker.rows.length) (shown : Shows listed picker.rows)
    (sound : name.Sound)
    (renamed : ∀ old, name.renameOf = some old →
      ∃ row ∈ picker.rows, entered = some row ∧ row.name = old) :
    picker.Settled listed entered where
  -- The mode is the input's, so what the other modes need is not asked for.
  inBounds := {
    cursor
    confirmKill other := nomatch mode.symm.trans other
    input other same := by
      cases mode.symm.trans same
      exact ⟨sound, Utf8Text.Boundary.le sound⟩ }
  shown
  killed other := nomatch mode.symm.trans other
  renamed other same := by
    cases mode.symm.trans same
    exact renamed

/-- A mode is the same as itself. -/
theorem PickerMode.same_self (mode : PickerMode) : mode.same mode = true := by
  cases mode <;> rfl

/-- What the server said last is only shown. -/
theorem Picker.Settled.withStatus (settled : picker.Settled listed entered)
    (status : Option String) : { picker with status }.Settled listed entered where
  inBounds := {
    cursor := settled.inBounds.cursor
    confirmKill := settled.inBounds.confirmKill
    input := settled.inBounds.input }
  shown := settled.shown
  killed := settled.killed
  renamed := settled.renamed

/-- The picker goes on, and nothing was asked of the server. -/
theorem PickerTurn.Sound.unasked {next : Picker} {reply : ServerReply}
    (settled : next.Settled listed
      (if next.mode.same picker.mode then entered else picker.highlighted)) :
    (PickerTurn.goes next []).Sound picker listed entered reply := by
  refine ⟨?_, fun frame member => absurd member List.not_mem_nil⟩
  rw [listedAfter_of_not_mem List.not_mem_nil]
  exact settled

/-- The picker goes on in the list, and nothing was asked of the server. -/
theorem PickerTurn.Sound.quiet {next : Picker} {reply : ServerReply} (mode : next.mode = .pick)
    (cursor : next.cursor ≤ next.rows.length) (shown : Shows listed next.rows) :
    (PickerTurn.goes next []).Sound picker listed entered reply :=
  .unasked (.of_pick mode cursor shown)

/-- A request that is about no session in particular is about the right one. -/
theorem meant_of_target_none {frame : Frame} (none_ : frame.target = none) :
    PickerRequest.Meant { frame, entered, listed } := by
  intro session target
  exact nomatch none_.symm.trans target

/-- A request about a row of the list is about the session that the row is for. -/
theorem meant_of_row {frame : Frame} {row : Row} (shown : Shows listed picker.rows)
    (member : row ∈ picker.rows) (was : entered = some row) (target : frame.target = some row.name) :
    PickerRequest.Meant { frame, entered, listed } := by
  intro session about
  -- The row says which session it is for.
  obtain ⟨entry, isListed, id, name⟩ := shown.entry member
  exact ⟨row, entry, was, isListed, id.symm, name.symm,
    Option.some.inj (about.symm.trans target)⟩

/-- A list that is asked for is shown without a fault, with the cursor on a row. -/
theorem Picker.refresh_safe (env : PickerEnv) (input : PickerInput) {frames : List Frame}
    (asked : .listSessions ∈ frames) (cursor : picker.cursor ≤ picker.rows.length)
    (shown : Shows listed picker.rows) (status : Option String) :
    Exec.Safe ({ picker with status }.refresh env input : Exec ε Picker) fun refreshed =>
      refreshed.cursor ≤ refreshed.rows.length ∧
        Shows (listedAfter listed frames input.list) refreshed.rows := by
  unfold refresh listedAfter
  split
  · next fresh reply =>
    -- The new list is shown, and the cursor is taken back behind none of its rows.
    rw [if_pos asked]
    refine (buildRows_safe input.now env.clientName fresh).bind fun rows listed => ?_
    refine Exec.Safe.ok ⟨?_, listed⟩
    dsimp only
    omega
  · exact Exec.Safe.ok ⟨cursor, shown⟩

/-- The keys of the list. -/
theorem Picker.pick_safe (env : PickerEnv) (mode : picker.mode = .pick)
    (settled : picker.Settled listed entered) (key : PickKey) (reply : ServerReply) :
    Exec.Safe (picker.pick env key : Exec ε PickerTurn)
      (PickerTurn.Sound picker listed entered reply) := by
  have cursor := settled.inBounds.cursor
  have shown := settled.shown
  -- Keys that find no row leave everything as it is.
  have stays : (PickerTurn.goes picker []).Sound picker listed entered reply :=
    .quiet mode cursor shown
  have suggests : Exec.Safe (suggestFrom picker.rows env.clientName : Exec ε String) _ :=
    suggestFrom_safe shown env.clientName
  -- Where the list is shown, the row at the cursor is highlighted.
  have highlighted : picker.highlighted = picker.rows[picker.cursor]? := by
    unfold Picker.highlighted
    rw [mode]
    rfl
  cases key with
  | up => exact Exec.Safe.ok (.quiet mode ((Nat.sub_le _ _).trans cursor) shown)
  | down =>
    -- The row for a new session is one behind the last.
    refine Exec.Safe.ok ?_
    split_ifs with inside
    · exact .quiet mode inside shown
    · exact stays
  | enter =>
    -- On that row a name is suggested.
    refine Exec.Safe.ite (fun inside => ?_) fun _ => ?_
    · exact (Exec.element_safe inside).bind fun _ _ => Exec.Safe.ok trivial
    · exact suggests.bind fun _ _ => Exec.Safe.ok trivial
  | hotkey index =>
    -- A hotkey without a row is no harm.
    refine Exec.Safe.ite (fun inside => ?_) fun _ => Exec.Safe.ok stays
    exact (Exec.element_safe inside).bind fun _ _ => Exec.Safe.ok trivial
  | new => exact suggests.bind fun _ _ => Exec.Safe.ok trivial
  | create =>
    refine suggests.bind fun suggested _ => Exec.Safe.ok (.unasked ?_)
    -- The cursor goes behind what is suggested, and nothing is renamed.
    exact .of_input rfl le_rfl shown Utf8Text.Boundary.len fun old renames => nomatch renames
  | kill =>
    refine Exec.Safe.ok ?_
    split_ifs with inside
    · -- The mode is entered from the list, where the row at the cursor is the one that is highlighted.
      refine .unasked ⟨⟨cursor, fun _ => inside, fun _ other => nomatch other⟩, shown, fun _ => ?_,
        fun _ other => nomatch other⟩
      rw [mode]
      exact highlighted
    · exact stays
  | rename =>
    refine Exec.Safe.ite (fun inside => ?_) fun _ => Exec.Safe.ok stays
    refine (Exec.element_safe inside).bind fun row there => Exec.Safe.ok (.unasked ?_)
    refine .of_input rfl cursor shown Utf8Text.Boundary.len fun old renames => ?_
    -- The name that is kept is that of the row, which was highlighted a moment ago.
    rw [mode]
    exact ⟨row, List.mem_of_getElem? there, highlighted.trans there, Option.some.inj renames⟩
  | takeOver =>
    refine Exec.Safe.ite (fun inside => ?_) fun _ => Exec.Safe.ok stays
    exact (Exec.element_safe inside).bind fun _ _ => Exec.Safe.ok trivial
  | leave => exact Exec.Safe.ok trivial

/-- The question whether to kill a session. -/
theorem Picker.confirm_safe (env : PickerEnv) (mode : picker.mode = .confirmKill)
    (settled : picker.Settled listed entered) (yes : Bool) (input : PickerInput) :
    Exec.Safe (picker.confirm env yes input : Exec ε PickerTurn)
      (PickerTurn.Sound picker listed entered input.list) := by
  have cursor := settled.inBounds.cursor
  refine Exec.Safe.ite (fun _ => ?_) fun _ => Exec.Safe.ok (.quiet rfl cursor settled.shown)
  -- The cursor has been on a row since the mode was entered.
  refine (Exec.element_safe (settled.inBounds.confirmKill mode)).bind fun row there => ?_
  have asked : Frame.listSessions ∈ [.killSession row.name, .listSessions] := by simp
  refine (refresh_safe env input asked cursor settled.shown _).bind fun refreshed kept => ?_
  refine Exec.Safe.ok ⟨.of_pick rfl kept.1 kept.2, fun frame member => ?_⟩
  -- Two requests were sent: one for the row, and one for the list.
  rcases List.mem_pair.mp member with rfl | rfl
  · exact meant_of_row settled.shown (List.mem_of_getElem? there)
      ((settled.killed mode).trans there) rfl
  · exact meant_of_target_none rfl

/-- The end of editing. -/
theorem Picker.submit_safe (env : PickerEnv) {name : NameInput} (mode : picker.mode = .input name)
    (settled : picker.Settled listed entered) (input : PickerInput) :
    Exec.Safe (picker.submit env name input : Exec ε PickerTurn)
      (PickerTurn.Sound picker listed entered input.list) := by
  have cursor := settled.inBounds.cursor
  have shown := settled.shown
  unfold submit
  dsimp only
  split
  · next oldName renames =>
    -- The session that is renamed is the one whose row was highlighted.
    obtain ⟨row, member, was, rfl⟩ := settled.renamed name mode oldName renames
    have meant : ∀ newName : String, PickerRequest.Meant
        { frame := .renameSession row.name newName, entered, listed } :=
      fun newName => meant_of_row shown member was rfl
    -- A name that is refused may be edited further, for the same session.
    have refused : ∀ (status : Option String) (newName : String),
        (PickerTurn.goes { picker with status } [.renameSession row.name newName]).Sound picker
          listed entered input.list := by
      intro status newName
      refine ⟨?_, fun frame member => ?_⟩
      · rw [listedAfter_of_not_mem (by simp)]
        -- The same mode goes on, so that what was highlighted before counts.
        exact if_pos (PickerMode.same_self picker.mode) ▸ settled.withStatus status
      · rw [List.mem_singleton.mp member]
        exact meant newName
    refine Exec.Safe.ite (fun _ => Exec.Safe.ok (.quiet rfl cursor shown)) fun _ => ?_
    split
    · have asked : Frame.listSessions ∈ [.renameSession row.name
          (resolveSessionName (String.ofList (trim name.buf)) env.clientName), .listSessions] := by simp
      refine (refresh_safe env input asked cursor shown _).bind fun refreshed kept => ?_
      refine Exec.Safe.ok ⟨.of_pick rfl kept.1 kept.2, fun frame member => ?_⟩
      -- The list is asked for only after the name was changed.
      rcases List.mem_pair.mp member with rfl | rfl
      · exact meant _
      · exact meant_of_target_none rfl
    · exact Exec.Safe.ok (refused _ _)
    · exact Exec.Safe.ok (refused _ _)
  -- A new session is named: nothing is asked of the server from here.
  · refine Exec.Safe.ite (fun _ => Exec.Safe.ok (.quiet rfl le_rfl shown)) fun _ => ?_
    exact Exec.Safe.ok trivial

/-- A key at the name that is edited. -/
theorem Picker.edit_sound {name edited : NameInput} (mode : picker.mode = .input name)
    (settled : picker.Settled listed entered) (sound : edited.Sound)
    (renames : edited.renameOf = name.renameOf) (reply : ServerReply) :
    (PickerTurn.goes { picker with mode := .input edited } []).Sound picker listed entered reply := by
  -- The mode is not entered again by a key that edits.
  have same : ({ picker with mode := .input edited } : Picker).mode.same picker.mode = true := by
    rw [mode]
    rfl
  refine .unasked ?_
  rw [if_pos same]
  refine .of_input rfl settled.inBounds.cursor settled.shown sound fun old renamed => ?_
  exact settled.renamed name mode old (renames ▸ renamed)

/-- No event makes a picker panic, and what comes of it is as it should be. -/
theorem Picker.turn_safe (env : PickerEnv) (settled : picker.Settled listed entered)
    (input : PickerInput) :
    Exec.Safe (picker.turn env input : Exec ε PickerTurn)
      (PickerTurn.Sound picker listed entered input.list) := by
  unfold turn
  -- First whether there is an event, then the mode, then the key.
  cases input.event with
  | none => exact Exec.Safe.ok trivial
  | some event =>
    cases mode : picker.mode with
    | pick =>
      cases event with
      | other => exact Exec.Safe.ok trivial
      | key key =>
        dsimp only
        cases pickKey key with
        | none => exact Exec.Safe.ok trivial
        | some pressed => exact pick_safe env mode settled pressed input.list
    | confirmKill =>
      cases event with
      | other => exact confirm_safe env mode settled false input
      | key key => exact confirm_safe env mode settled _ input
    | input name =>
      cases event with
      | other => exact Exec.Safe.ok trivial
      | key key =>
        dsimp only
        cases nameKey key with
        | none => exact Exec.Safe.ok trivial
        | some pressed =>
          cases pressed with
          | submit => exact submit_safe env mode settled input
          | cancel =>
            refine Exec.Safe.ok (.quiet rfl ?_ settled.shown)
            -- The name of a new session was edited on the row behind the last.
            unfold cancel
            dsimp only
            split_ifs
            · exact le_rfl
            · exact settled.inBounds.cursor
          | edit pressed =>
            -- The cursor in the text was at a boundary, and is at one after every key.
            refine (NameInput.edit_safe (settled.inBounds.input name mode).1 pressed).bind
              fun edited kept => Exec.Safe.ok ?_
            exact edit_sound mode settled kept.1 kept.2 input.list

end

/-! ### Runs -/

namespace PickerRun

variable {env : PickerEnv} {run next : PickerRun}

/-- The picker has not panicked, it is in bounds, and all that was asked of the server was meant. -/
structure Proper (run : PickerRun) : Prop where
  calm : run.stage ≠ .panicked
  inBounds : ∀ picker screen, run.stage = .shown picker screen → picker.InBounds
  meant : ∀ request ∈ run.requests, request.Meant

/-- What holds of a picker from the moment that it is opened. -/
structure Inv (run : PickerRun) : Prop where
  calm : run.stage ≠ .panicked
  settled : ∀ picker screen, run.stage = .shown picker screen →
    picker.Settled run.listed run.entered ∧ screen.highlighted = picker.highlighted
  meant : ∀ request ∈ run.requests, request.Meant

/-- What holds of a run of the picker makes it proper. -/
theorem Inv.proper (inv : run.Inv) : run.Proper where
  calm := inv.calm
  inBounds picker screen stage := (inv.settled picker screen stage).1.inBounds
  meant := inv.meant

/-- A picker is opened without a fault, with the cursor where it is shown. -/
theorem opened_safe (env : PickerEnv) (sessions : List SessionEntry) (now : UInt64) :
    Exec.Safe (Picker.opened env sessions now : Exec ε (Picker × Screen)) fun opened =>
      opened.1.Settled sessions none ∧ opened.2.highlighted = opened.1.highlighted := by
  refine (buildRows_safe now env.clientName sessions).bind fun rows shown => ?_
  -- The cursor starts on the first row that can be attached, or behind the last.
  have settled : Picker.Settled
      { rows, cursor := initialCursor rows, mode := .pick, status := none } sessions none :=
    .of_pick rfl List.findIdx_le_length shown
  refine (Picker.render_safe env settled.inBounds settled.shown).bind fun screen highlighted => ?_
  exact Exec.Safe.ok ⟨settled, highlighted⟩

/-- A picker that is opened begins in order. -/
theorem Inv.new (env : PickerEnv) (sessions : List SessionEntry) (now : UInt64) :
    (PickerRun.new env sessions now).Inv := by
  obtain ⟨⟨picker, screen⟩, opens, settled⟩ := (opened_safe env sessions now).returns
  -- What was computed without a panic is what is shown.
  have stage : (PickerRun.new env sessions now).stage = .shown picker screen := by
    unfold PickerRun.new
    rw [opens]
  refine ⟨by rw [stage]; exact PickerStage.noConfusion, fun other others => ?_,
    fun request member => absurd member List.not_mem_nil⟩
  rw [stage]
  rintro ⟨⟩
  exact settled

/-- Every event, and every answer, leaves the picker in order. -/
theorem inv_step {input : PickerInput} (inv : run.Inv) (stepped : run.step env input = some next) :
    next.Inv := by
  unfold step at stepped
  cases stage : run.stage with
  | left result =>
    rw [stage] at stepped
    cases stepped
  | panicked => exact absurd stage inv.calm
  | shown picker screen =>
    rw [stage] at stepped
    dsimp only at stepped
    obtain ⟨settled, highlighted⟩ := inv.settled picker screen stage
    -- The turn returns, whatever the event was.
    obtain ⟨turn, turned, sound⟩ :=
      (picker.turn_safe env settled input : Exec.Safe _ _).returns
    rw [turned] at stepped
    cases turn with
    | ignored =>
      cases stepped
      exact inv
    | leaves result =>
      cases stepped
      exact ⟨PickerStage.noConfusion, fun _ _ => PickerStage.noConfusion, inv.meant⟩
    | goes later frames =>
      obtain ⟨after, meant⟩ := sound
      -- So does the rendering of what comes of it.
      obtain ⟨shown, rendered, pointed⟩ :=
        (Picker.render_safe env after.inBounds after.shown : Exec.Safe _ _).returns
      dsimp only at stepped
      rw [rendered] at stepped
      cases stepped
      refine ⟨PickerStage.noConfusion, ?_, fun request member => ?_⟩
      · rintro other others ⟨⟩
        -- The screen that was there when the mode was left pointed at the highlighted row.
        rw [highlighted]
        exact ⟨after, pointed⟩
      -- Requests from before stay meant, and the new ones are.
      · rcases List.mem_append.mp member with earlier | new
        · exact inv.meant request earlier
        · obtain ⟨frame, sent, rfl⟩ := List.mem_map.mp new
          exact meant frame sent

end PickerRun

/--
The pickers do not panic, and they act on what they show.

Along every run of the one, its cursor is on a row or on the one for a new session, each mode has what it needs, and what is killed or renamed is the session whose row was highlighted when the mode was entered.
Along every run of the other, its cursor is on a row, and what is confirmed is not empty and is what was shown as marked, in the order of the candidates.
-/
theorem pickers_proper (env : PickerEnv) :
    (∀ sessions now inputs, (pickerMachine env sessions now).Along PickerRun.Proper
        (.new env sessions now) inputs) ∧
      ∀ candidates now events, candidates ≠ [] →
        (markMachine env candidates now).Along (MarkStage.Proper candidates)
          (.new env candidates now) events := by
  -- Both pickers keep their invariant, event after event.
  constructor
  · intro sessions now inputs
    have preserved : ∀ run input next, PickerRun.Inv run → True →
        (pickerMachine env sessions now).step run input = some next → next.Inv :=
      fun run input next inv _ stepped => PickerRun.inv_step inv stepped
    exact Machine.along_of_meets (fun run inv => PickerRun.Inv.proper inv) preserved
      (PickerRun.Inv.new env sessions now) (Machine.meets_true _ inputs)
  · intro candidates now events some_
    have preserved : ∀ stage event next, MarkStage.Inv env candidates stage → True →
        (markMachine env candidates now).step stage event = some next →
          next.Inv env candidates :=
      fun stage event next inv _ stepped => MarkStage.inv_step inv stepped
    exact Machine.along_of_meets (fun stage inv => MarkStage.Inv.proper inv) preserved
      (MarkStage.Inv.new env some_ now) (Machine.meets_true _ events)

/-- A session that a client left, as a daemon lists it. -/
def detachedEntry (id : UInt32) (name : String) : SessionEntry :=
  { id, name, ptyPath := "/dev/pts/1", shellPid := 42, createdAt := 1000, attached := false,
    lastHeartbeat := 1000, foregroundCmd := "vim", cwd := "/home/u/src", clientName := "laptop",
    agentForwardingActive := false, isLastAttached := false, lastActivity := 1000, lingerSecs := 0 }

/-- Of two sessions the second one is killed from the one picker, and marked and confirmed in the other. -/
theorem pickers_proper_two :
    ∃ env sessions inputs events,
      ((pickerMachine env sessions 1060).run (.new env sessions 1060) inputs).any
        (fun last => decide (last.requests.map (·.frame) =
          [.killSession "laptop/work", .listSessions])) = true ∧
      (pickerMachine env sessions 1060).Along PickerRun.Proper (.new env sessions 1060) inputs ∧
      ((markMachine env sessions 1060).run (.new env sessions 1060) events).any
        (fun last => decide (last.chosen = some [detachedEntry 4 "laptop/work"])) = true ∧
      (markMachine env sessions 1060).Along (MarkStage.Proper sessions)
        (.new env sessions 1060) events := by
  let env : PickerEnv :=
    { host := "devbox", clientName := "laptop", displayWidth := String.length, debug := fun _ => "" }
  let play := detachedEntry 3 "laptop/play"
  let work := detachedEntry 4 "laptop/work"
  -- Both are one's own, so they are shown in the order of the list.
  have built : (buildRows 1060 env.clientName [play, work] : Exec Empty (List Row)) =
      [(play, 0), (work, 1)].mapM fun row => rowOf 1060 env.clientName row.2 row.1 := by
    unfold buildRows
    rw [List.mergeSort_of_pairwise (by decide +kernel)]
    rfl
  let pressed (code : KeyCode) : TermEvent := .key ⟨code, .none⟩
  let input (code : KeyCode) : PickerInput :=
    { event := some (pressed code), answer := .ok .ok, list := .ok (.sessionInfo [play]), now := 1060 }
  -- Down to the second row, which is killed after a question.
  let inputs := [input .down, input (.char 'x'), input (.char 'y')]
  -- Down to the second row, which is marked, and confirmed after another question.
  let events := [some (pressed .down), some (pressed (.char ' ')), some (pressed .enter),
    some (pressed (.char 'y'))]
  refine ⟨env, [play, work], inputs, events, ?_, (pickers_proper env).1 [play, work] 1060 inputs, ?_,
    (pickers_proper env).2 [play, work] 1060 events (List.cons_ne_nil play [work])⟩
  · unfold PickerRun.new Picker.opened
    rw [built]
    decide +kernel
  · unfold MarkStage.new MarkPicker.opened
    rw [built]
    decide +kernel

end Gritty
