import Gritty.Session.History
import Gritty.Session.Scrollback
import Gritty.Terminal.QueryFilter

/-! How a session brings an attaching client back in sync with its output. -/

namespace Gritty

/-- What an attaching client should receive. -/
inductive ReplayPlan where
  /-- On the alternate screen nothing is replayed: the program repaints. -/
  | altRedraw (offset : Nat)
  /-- A fresh viewer gets scrollback as context. -/
  | fresh (offset : Nat)
  /-- The rest of the stream from an offset on. -/
  | clean (offset : Nat)
  /-- The retained stream, when the client's position has fallen out of it. -/
  | truncated (offset dropped : Nat)
  deriving DecidableEq

/-- Decide how to bring a client back in sync. -/
def planReplay (renderedOffset : Nat) (isFresh inAltScreen : Bool)
    (historyBase historyTotal : Nat) : ReplayPlan :=
  if inAltScreen then .altRedraw historyTotal
  else if isFresh ∨ historyTotal < renderedOffset then .fresh historyTotal
  else if renderedOffset < historyBase then
    .truncated historyBase (historyBase - renderedOffset)
  else .clean renderedOffset

/-- What a plan says about the position it was made for. -/
def ReplayPlan.Fits (renderedOffset : Nat) (isFresh inAltScreen : Bool)
    (historyBase historyTotal : Nat) : ReplayPlan → Prop
  | .altRedraw offset => inAltScreen = true ∧ offset = historyTotal
  | .fresh offset =>
    inAltScreen = false ∧ (isFresh = true ∨ historyTotal < renderedOffset) ∧ offset = historyTotal
  | .clean offset =>
    inAltScreen = false ∧ isFresh = false ∧ historyBase ≤ renderedOffset ∧
      renderedOffset ≤ historyTotal ∧ offset = renderedOffset
  | .truncated offset dropped =>
    inAltScreen = false ∧ isFresh = false ∧ renderedOffset < historyBase ∧
      renderedOffset ≤ historyTotal ∧ offset = historyBase ∧ renderedOffset + dropped = historyBase

/-- Every plan fits its position. -/
theorem planReplay_fits (renderedOffset : Nat) (isFresh inAltScreen : Bool)
    (historyBase historyTotal : Nat) :
    (planReplay renderedOffset isFresh inAltScreen historyBase historyTotal).Fits renderedOffset
      isFresh inAltScreen historyBase historyTotal := by
  unfold planReplay
  split
  · next alt => exact ⟨alt, rfl⟩
  · next main =>
    have onMain : inAltScreen = false := by simpa using main
    split
    · next fresh => exact ⟨onMain, fresh, rfl⟩
    · next known =>
      obtain ⟨notFresh, within⟩ := not_or.mp known
      have resumes : isFresh = false := by simpa using notFresh
      split
      · next evicted => exact ⟨onMain, resumes, evicted, by omega, rfl, by omega⟩
      · next retained => exact ⟨onMain, resumes, by omega, by omega, rfl⟩

/-- On the main screen, a known client whose position is retained resumes from there. -/
theorem planReplay_clean {renderedOffset historyBase historyTotal : Nat} {inAltScreen : Bool}
    (main : inAltScreen = false) (retained : historyBase ≤ renderedOffset)
    (within : renderedOffset ≤ historyTotal) :
    planReplay renderedOffset false inAltScreen historyBase historyTotal =
      .clean renderedOffset := by
  unfold planReplay
  rw [main, if_neg (by decide), if_neg (by simpa using within), if_neg (by omega)]

/-- The frames a session sends about its output. -/
inductive SessionFrame where
  /-- Live output, which the client counts. -/
  | data (bytes : Bytes)
  /-- The client's new position in the stream. -/
  | resume (offset : Nat)
  /-- Bytes the client renders without counting them: replayed output, or the server's own. -/
  | notice (bytes : Bytes) (replayed : Bool)
  | detached
  deriving DecidableEq

/-- A frame that sets the client's position. -/
def SessionFrame.isResume : SessionFrame → Bool
  | .resume _ => true
  | _ => false

/-- The live output that frames carry. -/
def liveBytes (frames : List SessionFrame) : Bytes :=
  (frames.map fun frame =>
    match frame with
    | .data bytes => bytes
    | _ => []).flatten

/-- The session output that frames make a client render, live or replayed. -/
def shownBytes (frames : List SessionFrame) : Bytes :=
  (frames.map fun frame =>
    match frame with
    | .data bytes => bytes
    | .notice bytes replayed => if replayed then bytes else []
    | _ => []).flatten

/-- Terminal texts that replays carry, which come from other code. -/
structure Chrome where
  /-- The bytes that move the cursor back to where the stream left it at an offset. -/
  cursorRestore : History → Nat → Bytes
  /-- A number of bytes for a reader. -/
  formatSize : Nat → String

/-- A rule across the terminal, with an optional note, to mark off replayed context. -/
def replayDivider (cols : UInt16) (note : Option String) : Bytes :=
  let rule := Char.ofNat 0x2500
  let width := if 0 < cols then cols.toNat else 40
  let text :=
    match note with
    | some text =>
      let beginning := String.ofList [rule, rule] ++ " " ++ text ++ " "
      beginning ++ String.ofList (List.replicate (width - beginning.length) rule)
    | none => String.ofList (List.replicate width rule)
  [0x0d, escByte] ++ ascii "[2m" ++ utf8 text ++ [escByte] ++ ascii "[0m" ++ [0x0d, 0x0a]

/-- What a session knows about its output. -/
structure SessionOutput where
  history : History
  scrollback : ScrollbackBuffer
  altScreen : AltScreenTracker
  termModes : TermModeTracker
  deriving DecidableEq

/-- An attaching client, by its request. -/
structure AttachRequest where
  renderedOffset : Nat
  /-- The client has painted a status line over the stream's position. -/
  lineDirty : Bool
  isFresh : Bool
  cols : UInt16
  rows : UInt16
  deriving DecidableEq

/-- How a replay goes on once its planned frames are out. -/
inductive AfterSends where
  | done
  /-- The scrollback was shown and is forgotten. -/
  | clearScrollback
  /-- The program is made to repaint, and its output is relayed for a while. -/
  | redraw
  deriving DecidableEq

/-- The frames a replay sends first. -/
structure ReplaySends where
  frames : List SessionFrame
  after : AfterSends

namespace SessionOutput

/-- A session without output, and how much of it will be retained. -/
def new (cap : Nat) : SessionOutput where
  history := .new cap
  scrollback := .new
  altScreen := .new
  termModes := .new

/-- A chunk of output. Only the main screen goes to the scrollback. -/
def capture (output : SessionOutput) (chunk : Bytes) : SessionOutput :=
  let altScreen := output.altScreen.scan chunk
  { altScreen
    termModes := output.termModes.scan chunk
    scrollback :=
      if altScreen.inAlternateScreen then output.scrollback else output.scrollback.push chunk
    history := output.history.push chunk }

/-- Make the program repaint. What it writes meanwhile is captured and sent. -/
def forceTuiRedraw (output : SessionOutput) (chunks : List Bytes) :
    SessionOutput × List SessionFrame :=
  (chunks.foldl capture output, chunks.map .data)

/-- The client's new position, and the modes its terminal should have. -/
def sendResume (offset : Nat) (modeSync : Bytes) : List SessionFrame :=
  [.resume offset, .notice modeSync false]

/-- Replay chunks without their queries. -/
def sendScrubbed (chunks : List Bytes) : List SessionFrame :=
  let (filter, scrubbed) := queryFilter.runChunks .new chunks
  ((scrubbed ++ [filter.finish]).filter fun bytes => !bytes.isEmpty).map (.notice · true)

/-- What a replay sends to an attaching client. -/
def replaySends (chrome : Chrome) (output : SessionOutput) (request : AttachRequest) :
    ReplaySends :=
  let modeSync := output.termModes.syncSequence
  match planReplay request.renderedOffset request.isFresh output.altScreen.inAlternateScreen
      output.history.base output.history.total with
  | .altRedraw offset =>
    { frames := sendResume offset modeSync ++
        [.notice (escByte :: ascii "[?1049h" ++ escByte :: ascii "[H" ++ escByte :: ascii "[2J")
          false]
      -- A client of unknown size is not repainted for.
      after := if 0 < request.cols ∧ 0 < request.rows then .redraw else .done }
  | .fresh offset =>
    let divider := replayDivider request.cols none
    let divider := if request.lineDirty then 0x0d :: escByte :: ascii "[K" ++ divider else divider
    { frames := sendResume offset modeSync ++ .notice divider false ::
        sendScrubbed output.scrollback.linesAndPartial
      after := .clearScrollback }
  | .clean offset =>
    let restore :=
      if request.lineDirty then [.notice (chrome.cursorRestore output.history offset) false] else []
    { frames := sendResume output.history.total modeSync ++ restore ++
        sendScrubbed (output.history.sliceFrom offset)
      after := .done }
  | .truncated offset dropped =>
    let lead := if request.lineDirty then 0x0d :: escByte :: ascii "[K" else [0x0d, 0x0a]
    let marker := escByte :: ascii "[2m" ++ utf8 "\u25b8 " ++ utf8 (chrome.formatSize dropped) ++
      ascii " lost while disconnected" ++ escByte :: ascii "[0m" ++ [0x0d, 0x0a]
    { frames := sendResume output.history.total modeSync ++
        .notice (escByte :: ascii "[?1049l" ++ lead ++ marker) false ::
          sendScrubbed (output.history.sliceFrom offset)
      after := .done }

/-- Bring an attaching client back in sync. The chunks are what a repaint makes the program write. -/
def sendReconnectReplay (chrome : Chrome) (output : SessionOutput) (request : AttachRequest)
    (chunks : List Bytes) : SessionOutput × List SessionFrame :=
  let modeSync := output.termModes.syncSequence
  match planReplay request.renderedOffset request.isFresh output.altScreen.inAlternateScreen
      output.history.base output.history.total with
  | .altRedraw offset =>
    let primed := sendResume offset modeSync ++
      [.notice (escByte :: ascii "[?1049h" ++ escByte :: ascii "[H" ++ escByte :: ascii "[2J") false]
    if 0 < request.cols ∧ 0 < request.rows then
      let (output, redrawn) := output.forceTuiRedraw chunks
      (output, primed ++ redrawn)
    else (output, primed)
  | .fresh offset =>
    let divider := replayDivider request.cols none
    let divider := if request.lineDirty then 0x0d :: escByte :: ascii "[K" ++ divider else divider
    ({ output with scrollback := output.scrollback.clear },
      sendResume offset modeSync ++ .notice divider false ::
        sendScrubbed output.scrollback.linesAndPartial)
  | .clean offset =>
    let restore :=
      if request.lineDirty then [.notice (chrome.cursorRestore output.history offset) false] else []
    (output,
      sendResume output.history.total modeSync ++ restore ++
        sendScrubbed (output.history.sliceFrom offset))
  | .truncated offset dropped =>
    let lead := if request.lineDirty then 0x0d :: escByte :: ascii "[K" else [0x0d, 0x0a]
    let marker := escByte :: ascii "[2m" ++ utf8 "\u25b8 " ++ utf8 (chrome.formatSize dropped) ++
      ascii " lost while disconnected" ++ escByte :: ascii "[0m" ++ [0x0d, 0x0a]
    (output,
      sendResume output.history.total modeSync ++
        .notice (escByte :: ascii "[?1049l" ++ lead ++ marker) false ::
          sendScrubbed (output.history.sliceFrom offset))

/-- When every send succeeds, a replay sends its planned frames and then what a repaint writes. -/
theorem sendReconnectReplay_eq (chrome : Chrome) (output : SessionOutput)
    (request : AttachRequest) (chunks : List Bytes) :
    output.sendReconnectReplay chrome request chunks =
      match (output.replaySends chrome request).after with
      | .done => (output, (output.replaySends chrome request).frames)
      | .clearScrollback =>
        ({ output with scrollback := output.scrollback.clear },
          (output.replaySends chrome request).frames)
      | .redraw =>
        (chunks.foldl capture output,
          (output.replaySends chrome request).frames ++ chunks.map .data) := by
  -- Both sides follow the plan, and the repaint only where the size is known.
  unfold sendReconnectReplay replaySends
  cases planReplay request.renderedOffset request.isFresh output.altScreen.inAlternateScreen
      output.history.base output.history.total with
  | altRedraw offset =>
    by_cases sized : 0 < request.cols ∧ 0 < request.rows
    · simp only [if_pos sized]
      rfl
    · simp only [if_neg sized]
  | fresh offset => rfl
  | clean offset => rfl
  | truncated offset dropped => rfl

/-- Replayed output is sent only where there is some. -/
theorem sendScrubbed_nonempty {chunks : List Bytes} {bytes : Bytes} {replayed : Bool}
    (sent : .notice bytes replayed ∈ sendScrubbed chunks) : bytes ≠ [] := by
  obtain ⟨part, kept, same⟩ := List.mem_map.mp sent
  obtain ⟨rfl, -⟩ := SessionFrame.notice.inj same
  have some := (List.mem_filter.mp kept).2
  intro empty
  simp [empty] at some

/-- A clean replay, when no status line was painted. -/
theorem sendReconnectReplay_clean (chrome : Chrome) {output : SessionOutput}
    {request : AttachRequest} {offset : Nat} (redraw : List Bytes)
    (planned : planReplay request.renderedOffset request.isFresh
      output.altScreen.inAlternateScreen output.history.base output.history.total = .clean offset)
    (notDirty : request.lineDirty = false) :
    output.sendReconnectReplay chrome request redraw =
      (output, .resume output.history.total :: .notice output.termModes.syncSequence false ::
        sendScrubbed (output.history.sliceFrom offset)) := by
  -- The plan is carried out without a repaint.
  rw [sendReconnectReplay_eq]
  unfold replaySends
  rw [planned]
  simp only [notDirty]
  rfl

/-- A replay shows its chunks without the queries in them, however the chunks were cut. -/
theorem shownBytes_sendScrubbed (chunks : List Bytes) :
    shownBytes (sendScrubbed chunks) = stripQueries chunks.flatten := by
  obtain ⟨sameFilter, sameOutput⟩ := queryFilter.runChunks_flatten .new chunks
  have nonempty : ∀ parts : List Bytes,
      (parts.filter fun bytes => !bytes.isEmpty).flatten = parts.flatten := by
    intro parts
    induction parts with
    | nil => rfl
    | cons part parts ih => cases part <;> simp_all
  have shown : ∀ parts : List Bytes,
      shownBytes (parts.map (SessionFrame.notice · true)) = parts.flatten := by
    intro parts
    rw [shownBytes, List.map_map]
    exact congrArg List.flatten (List.map_id parts)
  unfold sendScrubbed stripQueries
  rw [shown, nonempty, List.flatten_append, List.flatten_singleton, sameOutput, sameFilter]

end SessionOutput

end Gritty
