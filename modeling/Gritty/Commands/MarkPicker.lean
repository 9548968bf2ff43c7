import Gritty.Commands.Picker
import Gritty.Lib.ListSearch

/-! The picker of `prune`: the user marks sessions, and has those that are marked killed. -/

namespace Gritty

inductive MarkKey where
  | up | down | mark | markAll
  | hotkey (index : Nat)
  | enter | leave
  deriving DecidableEq

/-- What a key does, if anything. -/
def markKey (key : KeyEvent) : Option MarkKey :=
  if key.isPlain .up || key.isPlain (.char 'k') then some .up
  else if key.isPlain .down || key.isPlain (.char 'j') then some .down
  else if key.isPlain (.char ' ') then some .mark
  else if key.isPlain (.char 'a') then some .markAll
  else
    match key.hotkey with
    | some index => some (.hotkey index)
    | none =>
      if key.code = .enter then some .enter
      else if key.isPlain .esc || key.isPlain (.char 'q') then some .leave
      else if key.isControl 'c' || key.isControl 'g' then some .leave
      else none

/-- How many there are of something, in words. -/
def Ui.count (number : Nat) (noun : String) : String :=
  if number = 1 then s!"1 {noun}" else s!"{number} {noun}s"

structure MarkPicker where
  rows : List Row
  header : String
  /-- What is shown of each row. -/
  lines : List String
  cursor : Nat
  /-- The ids of the sessions that are marked. -/
  marked : Finset UInt32
  /-- The user is asked whether to kill them. -/
  confirm : Bool
  status : Option String

/-- All the marks are cleared where all the ids are marked, and otherwise all of them are marked. -/
def toggleAllMarks (marked : Finset UInt32) (ids : List UInt32) : Finset UInt32 :=
  if ids.all (· ∈ marked) then marked \ ids.toFinset else marked ∪ ids.toFinset

def toggleMark (marked : Finset UInt32) (id : UInt32) : Finset UInt32 :=
  if id ∈ marked then marked.erase id else insert id marked

/-- A row on the screen, with its mark. -/
structure MarkLine where
  row : Row
  pointed : Bool
  marked : Bool
  text : String

structure MarkScreen where
  title : String
  header : String
  lines : List MarkLine
  hints : String
  status : Option String

/-- The row of the session shows a mark. -/
def MarkScreen.marks (screen : MarkScreen) (id : UInt32) : Bool :=
  screen.lines.any fun line => line.row.id = id && line.marked

/-- What comes of an event. -/
inductive MarkTurn where
  | ignored
  | goes (picker : MarkPicker)
  | leaves (result : Option (List SessionEntry))

namespace MarkPicker

variable {ε : Type}

/-- The cursor goes on to the next row, if there is one. -/
def advance (picker : MarkPicker) : Exec ε MarkPicker := do
  let last ← Exec.subUsize picker.rows.length 1
  return { picker with cursor := min (picker.cursor + 1) last }

/-- A key while nothing is asked. -/
def press (picker : MarkPicker) : MarkKey → Exec ε MarkTurn
  -- The first row is the end of the way up.
  | .up => .ok (.goes { picker with cursor := picker.cursor - 1 })
  | .down => do
    let picker ← picker.advance
    return .goes picker
  | .mark => do
    let row ← Exec.element picker.rows picker.cursor
    -- The mark is set or cleared, and the cursor goes on.
    let picker ← { picker with marked := toggleMark picker.marked row.id, status := none }.advance
    return .goes picker
  | .markAll =>
    .ok (.goes
      { picker with
        -- The marks are kept by the ids of the sessions, not by their rows.
        marked := toggleAllMarks picker.marked (picker.rows.map (·.id))
        status := none })
  | .hotkey index =>
    if index < picker.rows.length then do
      let row ← Exec.element picker.rows index
      return .goes { picker with marked := toggleMark picker.marked row.id, status := none }
    else .ok (.goes picker)
  | .enter =>
    .ok (.goes
      -- Nothing is killed where nothing is marked.
      (if picker.marked = ∅ then { picker with status := some "nothing marked -- space to mark" }
        else { picker with status := none, confirm := true }))
  | .leave => .ok (.leaves none)

/-- One turn of the loop. -/
def turn (candidates : List SessionEntry) (picker : MarkPicker) (event : Option TermEvent) :
    Exec ε MarkTurn :=
  match event with
  -- The terminal cannot be read any more.
  | none => .ok (.leaves none)
  | some event =>
    if picker.confirm then
      match event with
      -- Anything but a yes takes the question back.
      | .key key =>
        .ok (if key.code = .char 'y' then
            .leaves (some (candidates.filter fun entry => entry.id ∈ picker.marked))
          else .goes { picker with confirm := false })
      | .other => .ok (.goes { picker with confirm := false })
    else
      match event with
      | .key key =>
        match markKey key with
        | some key => picker.press key
        | none => .ok .ignored
      | .other => .ok .ignored

/-- A line of the list. -/
def line (picker : MarkPicker) (position : Nat) (row : Row) (body : String) : MarkLine :=
  -- The cursor is always on one of the rows.
  let pointed := position = picker.cursor
  let marked := row.id ∈ picker.marked
  let pointer := if pointed then pickerPointer else " "
  let mark := if marked then "\x1b[31;1m[x]\x1b[0m" else "[ ]"
  let styled := stylePickerLine body pointed row.attached
  { row, pointed, marked, text := s!"{pointer} {mark} \x1b[2m{hotkeyLabel row}\x1b[0m {styled}" }

/-- What the picker shows. -/
def render (host : String) (picker : MarkPicker) : MarkScreen where
  title := s!"\x1b[36;1mPrune sessions on {host} -- mark and kill:\x1b[0m"
  header := s!"         \x1b[2m{picker.header}\x1b[0m"
  lines := (picker.rows.zip picker.lines).mapIdx fun position shown =>
    picker.line position shown.1 shown.2
  hints :=
    -- How many are asked about is how many ids are marked.
    let sessions := Ui.count picker.marked.card "session"
    if picker.confirm then s!"\x1b[31;1m  kill {sessions}? y/n\x1b[0m"
    else
      "\x1b[2m  \u2191\u2193 move  space mark  a mark all  1-9 toggle  enter kill marked  q quit\x1b[0m"
  status := picker.status.map fun message => s!"\x1b[31m  {message}\x1b[0m"

/-- The picker before the first event. -/
def opened (clientName : String) (displayWidth : String → Nat) (candidates : List SessionEntry)
    (now : UInt64) : Exec ε MarkPicker := do
  -- The rows and the lines stay as they are from here on.
  let rows ← buildRows now clientName candidates
  let (header, lines) ← pickerLines displayWidth rows
  return { rows, header, lines, cursor := 0, marked := ∅, confirm := false, status := none }

end MarkPicker

/-! ### Runs -/

/-- What the user has in front of him, or had last. -/
inductive MarkStage where
  | shown (picker : MarkPicker) (screen : MarkScreen)
  | left (result : Option (List SessionEntry)) (last : MarkScreen)
  | panicked

namespace MarkStage

/-- The sessions that were confirmed, once they were. -/
def chosen : MarkStage → Option (List SessionEntry)
  | .shown .. | .panicked => none
  | .left result _ => result

/-- The picker is opened on some candidates. -/
def new (env : PickerEnv) (candidates : List SessionEntry) (now : UInt64) : MarkStage :=
  match (MarkPicker.opened env.clientName env.displayWidth candidates now : Exec Empty MarkPicker) with
  | .ok picker => .shown picker (picker.render env.host)
  | .error _ => .panicked

/-- One turn of the loop, and what is rendered after it. -/
def step (env : PickerEnv) (candidates : List SessionEntry) (stage : MarkStage)
    (event : Option TermEvent) : Option MarkStage :=
  match stage with
  | .shown picker screen =>
    match (picker.turn candidates event : Exec Empty MarkTurn) with
    | .error _ => some .panicked
    | .ok .ignored => some stage
    | .ok (.leaves result) => some (.left result screen)
    | .ok (.goes next) => some (.shown next (next.render env.host))
  | _ => none

end MarkStage

/-- A picker that is opened on some candidates. -/
def markMachine (env : PickerEnv) (candidates : List SessionEntry) (now : UInt64) :
    Machine MarkStage (Option TermEvent) where
  init := .new env candidates now
  step := MarkStage.step env candidates

/-! ### What holds along every run -/

/-- A picker whose cursor is on a row, and whose marks are on rows. -/
structure MarkPicker.Settled (picker : MarkPicker) (candidates : List SessionEntry) : Prop where
  shown : Shows candidates picker.rows
  lines : picker.lines.length = picker.rows.length
  cursor : picker.cursor < picker.rows.length
  marked : ∀ id ∈ picker.marked, ∃ row ∈ picker.rows, row.id = id
  confirm : picker.confirm = true → picker.marked ≠ ∅

namespace MarkPicker

variable {ε : Type} {picker : MarkPicker} {candidates : List SessionEntry}

/-- Toggling one mark gives at most that one new. -/
theorem mem_toggleMark {marked : Finset UInt32} {id other : UInt32}
    (member : other ∈ toggleMark marked id) : other ∈ marked ∨ other = id := by
  unfold toggleMark at member
  split_ifs at member
  -- A mark that goes leaves the others.
  · exact Or.inl (Finset.mem_of_mem_erase member)
  · exact (Finset.mem_insert.mp member).symm

/-- Toggling all marks gives at most those of the rows. -/
theorem mem_toggleAllMarks {marked : Finset UInt32} {ids : List UInt32} {id : UInt32}
    (member : id ∈ toggleAllMarks marked ids) : id ∈ marked ∨ id ∈ ids := by
  unfold toggleAllMarks at member
  split_ifs at member
  -- Clearing all leaves nothing that was not there before.
  · exact Or.inl (Finset.mem_sdiff.mp member).1
  · exact (Finset.mem_union.mp member).imp_right List.mem_toFinset.mp

/-- Other marks, on rows as well. -/
theorem Settled.mark (settled : picker.Settled candidates) (quiet : picker.confirm = false)
    {marked : Finset UInt32} (status : Option String)
    (onRows : ∀ id ∈ marked, ∃ row ∈ picker.rows, row.id = id) :
    { picker with marked, status }.Settled candidates where
  shown := settled.shown
  lines := settled.lines
  cursor := settled.cursor
  marked := onRows
  -- Nothing is asked while marks are set.
  confirm asked := nomatch quiet.symm.trans asked

/-- The cursor on another row. -/
theorem Settled.move (settled : picker.Settled candidates) {cursor : Nat}
    (inside : cursor < picker.rows.length) : { picker with cursor }.Settled candidates where
  shown := settled.shown
  lines := settled.lines
  cursor := inside
  marked := settled.marked
  confirm := settled.confirm

/-- The session of a row is marked, or is not any more. -/
theorem Settled.toggle (settled : picker.Settled candidates) (quiet : picker.confirm = false)
    {row : Row} (member : row ∈ picker.rows) (status : Option String) :
    { picker with marked := toggleMark picker.marked row.id, status }.Settled candidates := by
  refine settled.mark quiet status fun id isMarked => ?_
  rcases mem_toggleMark isMarked with before | rfl
  · exact settled.marked id before
  · exact ⟨row, member, rfl⟩

/-- Going to the next row leaves the picker settled. -/
theorem advance_safe (settled : picker.Settled candidates) :
    Exec.Safe (picker.advance : Exec ε MarkPicker) (·.Settled candidates) := by
  -- The last row is where the way down ends, and there is one.
  have some_ : 1 ≤ picker.rows.length := Nat.one_le_of_lt settled.cursor
  refine (Exec.subUsize_safe some_).bind fun last same => ?_
  refine Exec.Safe.ok (settled.move ?_)
  rw [same]
  omega

/-- A key leaves the picker settled, or leaves it. -/
theorem press_safe (settled : picker.Settled candidates) (quiet : picker.confirm = false)
    (key : MarkKey) :
    Exec.Safe (picker.press key : Exec ε MarkTurn) fun turn =>
      match turn with
      | .goes next => next.Settled candidates
      | .leaves result => result = none
      | .ignored => True := by
  cases key with
  -- Up and down move the cursor only.
  | up => exact Exec.Safe.ok (settled.move ((Nat.sub_le _ _).trans_lt settled.cursor))
  | down => exact (advance_safe settled).bind fun next kept => Exec.Safe.ok kept
  | mark =>
    refine (Exec.element_safe settled.cursor).bind fun row there => ?_
    -- The session at the cursor is that of a row.
    have toggled := settled.toggle quiet (List.mem_of_getElem? there) none
    exact (advance_safe toggled).bind fun next kept => Exec.Safe.ok kept
  | markAll =>
    refine Exec.Safe.ok (settled.mark quiet none fun id isMarked => ?_)
    rcases mem_toggleAllMarks isMarked with before | new
    -- Marking all marks the sessions of rows only.
    · exact settled.marked id before
    · exact List.mem_map.mp new
  | hotkey index =>
    refine Exec.Safe.ite (fun inside => ?_) fun _ => Exec.Safe.ok settled
    refine (Exec.element_safe inside).bind fun row there => ?_
    exact Exec.Safe.ok (settled.toggle quiet (List.mem_of_getElem? there) none)
  | enter =>
    refine Exec.Safe.ok ?_
    dsimp only
    split_ifs with none_
    -- Something is marked, or the user is told that nothing is.
    · exact settled.mark quiet _ settled.marked
    · exact ⟨settled.shown, settled.lines, settled.cursor, settled.marked, fun _ => none_⟩
  | leave => exact Exec.Safe.ok rfl

/-- What the candidates are that are killed after a confirmation, and that there are some. -/
theorem turn_safe (settled : picker.Settled candidates) (event : Option TermEvent) :
    Exec.Safe (picker.turn candidates event : Exec ε MarkTurn) fun turn =>
      match turn with
      | .goes next => next.Settled candidates
      | .leaves result => ∀ chosen ∈ result,
        chosen = candidates.filter (fun entry => entry.id ∈ picker.marked) ∧ picker.marked ≠ ∅
      | .ignored => True := by
  unfold turn
  cases event with
  | none => exact Exec.Safe.ok fun _ never => nomatch never
  | some event =>
    dsimp only
    split_ifs with asked
    · have back : { picker with confirm := false }.Settled candidates :=
        -- No answer but a yes changes anything but the question.
        ⟨settled.shown, settled.lines, settled.cursor, settled.marked, fun again => nomatch again⟩
      cases event with
      | other => exact Exec.Safe.ok back
      | key key =>
        refine Exec.Safe.ok ?_
        split_ifs
        · rintro chosen ⟨⟩
          -- The question was asked with something marked.
          exact ⟨rfl, settled.confirm asked⟩
        · exact back
    · cases event with
      | other => exact Exec.Safe.ok trivial
      | key key =>
        dsimp only
        cases markKey key with
        | none => exact Exec.Safe.ok trivial
        | some pressed =>
          refine (press_safe settled (Bool.eq_false_of_not_eq_true asked) pressed).mono ?_
          -- Without a question, nothing is confirmed.
          rintro (_ | next | result) kept
          · trivial
          · exact kept
          · rintro chosen member
            rw [show result = none from kept] at member
            cases member

/-- The marks on the screen are those of the sessions that are marked. -/
theorem marks_render (settled : picker.Settled candidates) (host : String) {entry : SessionEntry}
    (candidate : entry ∈ candidates) :
    (picker.render host).marks entry.id = decide (entry.id ∈ picker.marked) := by
  have seen : (picker.render host).lines.map (fun line => (line.row, line.marked)) =
      picker.rows.map fun row => (row, decide (row.id ∈ picker.marked)) := by
    -- Every row has its line, so that none is cut off.
    have whole : (picker.rows.zip picker.lines).map Prod.fst = picker.rows :=
      List.map_fst_zip settled.lines.ge
    calc (picker.render host).lines.map (fun line => (line.row, line.marked))
      _ = (picker.rows.zip picker.lines).map fun shown =>
          (shown.1, decide (shown.1.id ∈ picker.marked)) := map_mapIdx _ _ _ _ fun _ _ => rfl
      _ = ((picker.rows.zip picker.lines).map Prod.fst).map fun row =>
          (row, decide (row.id ∈ picker.marked)) := by
        rw [List.map_map]
        rfl
      _ = _ := by rw [whole]
  -- A mark is looked for among the rows with their marks.
  have marks : (picker.render host).marks entry.id =
      ((picker.render host).lines.map fun line => (line.row, line.marked)).any
        fun shown => shown.1.id = entry.id && shown.2 := by
    rw [List.any_map]
    rfl
  rw [marks, seen, List.any_map, Bool.eq_iff_iff, List.any_eq_true, decide_eq_true_iff]
  constructor
  · rintro ⟨row, -, same⟩
    -- A row that shows a mark is for a session that is marked.
    simp only [Function.comp_apply, Bool.and_eq_true, decide_eq_true_eq] at same
    exact same.1 ▸ same.2
  · intro isMarked
    -- The candidate has its row, and its row shows the mark.
    obtain ⟨row, member, id, -⟩ := settled.shown.row candidate
    refine ⟨row, member, ?_⟩
    simp [id, isMarked]

/-- A picker with candidates is opened without a fault. -/
theorem opened_safe (clientName : String) (displayWidth : String → Nat) (now : UInt64)
    (some_ : candidates ≠ []) :
    Exec.Safe (opened clientName displayWidth candidates now : Exec ε MarkPicker)
      (·.Settled candidates) := by
  refine (buildRows_safe now clientName candidates).bind fun rows shown => ?_
  refine (pickerLines_safe displayWidth rows).bind fun lines count => ?_
  refine Exec.Safe.ok ⟨shown, count, ?_, ?_, fun never => nomatch never⟩
  -- There are as many rows as candidates.
  · rw [show ({ rows, .. } : MarkPicker).rows.length = candidates.length from shown.length]
    exact List.length_pos_iff.mpr some_
  · exact fun id member => absurd member (Finset.notMem_empty id)

end MarkPicker

namespace MarkStage

variable {env : PickerEnv} {candidates : List SessionEntry} {stage next : MarkStage}

/-- The picker has not panicked, its cursor is on a row, and what is confirmed is what was shown as marked. -/
structure Proper (candidates : List SessionEntry) (stage : MarkStage) : Prop where
  calm : stage ≠ .panicked
  inBounds : ∀ picker screen, stage = .shown picker screen → picker.cursor < picker.rows.length
  confirmed : ∀ chosen last, stage = .left (some chosen) last →
    chosen = candidates.filter (fun entry => last.marks entry.id) ∧ chosen ≠ []

/-- What holds of a picker from the moment that it is opened. -/
structure Inv (env : PickerEnv) (candidates : List SessionEntry) (stage : MarkStage) : Prop where
  proper : stage.Proper candidates
  settled : ∀ picker screen, stage = .shown picker screen →
    picker.Settled candidates ∧ screen = picker.render env.host

/-- A screen that is right about a picker that is right. -/
theorem Inv.shown {picker : MarkPicker} (settled : picker.Settled candidates) :
    (MarkStage.shown picker (picker.render env.host)).Inv env candidates where
  proper := {
    calm := MarkStage.noConfusion
    inBounds := by
      -- The screen is the one that was just rendered.
      rintro other screen ⟨⟩
      exact settled.cursor
    confirmed _ _ left := nomatch left }
  settled := by
    rintro other screen ⟨⟩
    exact ⟨settled, rfl⟩

/-- A picker with candidates begins in order. -/
theorem Inv.new (env : PickerEnv) (some_ : candidates ≠ []) (now : UInt64) :
    (MarkStage.new env candidates now).Inv env candidates := by
  -- Opening it returns.
  obtain ⟨picker, opens, settled⟩ :=
    (MarkPicker.opened_safe env.clientName env.displayWidth now some_ : Exec.Safe _ _).returns
  unfold MarkStage.new
  rw [opens]
  exact .shown settled

/-- Every event leaves the picker in order. -/
theorem inv_step {event : Option TermEvent} (inv : stage.Inv env candidates)
    (stepped : stage.step env candidates event = some next) : next.Inv env candidates := by
  unfold step at stepped
  cases stage with
  | left result last => cases stepped
  | panicked => cases stepped
  | shown picker screen =>
    dsimp only at stepped
    -- The screen is that of the picker, so its marks are.
    obtain ⟨settled, rfl⟩ := inv.settled picker screen rfl
    obtain ⟨turn, turned, sound⟩ := (MarkPicker.turn_safe settled event : Exec.Safe _ _).returns
    rw [turned] at stepped
    cases turn with
    | ignored =>
      cases stepped
      exact inv
    | goes later =>
      cases stepped
      exact .shown sound
    | leaves result =>
      cases stepped
      refine ⟨⟨MarkStage.noConfusion, fun _ _ => MarkStage.noConfusion, ?_⟩,
        fun _ _ => MarkStage.noConfusion⟩
      rintro chosen last ⟨⟩
      obtain ⟨rfl, marked⟩ := sound chosen rfl
      constructor
      -- What is killed is what was marked, and that is what was shown.
      · refine List.filter_congr fun entry member => ?_
        exact (MarkPicker.marks_render settled env.host member).symm
      · -- What is marked is on a row, and the row is for a candidate.
        obtain ⟨id, isMarked⟩ := Finset.nonempty_iff_ne_empty.mpr marked
        obtain ⟨row, member, rfl⟩ := settled.marked id isMarked
        obtain ⟨entry, candidate, same, -⟩ := settled.shown.entry member
        refine List.ne_nil_of_mem (List.mem_filter.mpr ⟨candidate, ?_⟩)
        rw [same]
        exact decide_eq_true isMarked

end MarkStage

end Gritty
