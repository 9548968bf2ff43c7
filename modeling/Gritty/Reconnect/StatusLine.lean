import Gritty.Reconnect.Loop
import Gritty.Session.Rendered
import Gritty.Session.Service

/-! The status line of a reconnect, and what the client tells the server about its cursor. -/

namespace Gritty

/-- What the client remembers while it reconnects. -/
structure ReconnectEpisode where
  /-- No full-screen program owned the screen when the link was lost. -/
  showChrome : Bool
  /-- The status line is on the screen. -/
  chromeShown : Bool
  /-- The cursor was displaced when the link was lost, for the statements below. -/
  lostDisplaced : Bool
  deriving DecidableEq

/-- What the client is doing. -/
inductive ClientPhase where
  /-- It renders what arrives. So many frames further on, the cursor has been put back. -/
  | relaying (incoming : List SessionFrame) (restoredAfter : Option Nat)
  /-- It waits out its backoff. -/
  | waiting (episode : ReconnectEpisode)
  /-- It connects, with what its request will say. -/
  | attempting (episode : ReconnectEpisode) (lineDirty : Bool) (resumeOffset : Nat)
  /-- It has sent its request, and waits for the answer. -/
  | attaching (episode : ReconnectEpisode) (request : AttachRequest)
  | exited
  deriving DecidableEq

/-- What a request said about the cursor, and where the cursor was. -/
structure SentAttach where
  lineDirty : Bool
  displaced : Bool
  deriving DecidableEq

/-- The interactive client, from the end of its first attach on. -/
structure InteractiveClient where
  renderedOffset : Nat
  altScreen : AltScreenTracker
  phase : ClientPhase
  /-- A status line moved the cursor, and nothing has put it back, for the statements below. -/
  displaced : Bool
  /-- The requests of its reconnects, for the statements below. -/
  attaches : List SentAttach
  deriving DecidableEq

/-- What can happen next. -/
inductive ClientAction where
  /-- The session sends a frame. -/
  | serverSends (frame : SessionFrame)
  /-- The oldest frame on the connection arrives. -/
  | deliver
  /-- The link is lost, with everything on it. -/
  | linkLost
  /-- The spinner ticks, or a key asks for an attempt, so long into the outage. -/
  | paint (elapsed : Nat)
  | startAttempt
  /-- The spinner ticks during an attempt. -/
  | attemptTick (elapsed : Nat)
  /-- The connection is up, and the server is the expected one. -/
  | sendAttach (cols rows : UInt16)
  /-- The attempt fails at any point, or times out. -/
  | attemptFails
  /-- The session takes the client back, and replays from what it knows about its output. -/
  | attachAck (output : SessionOutput)
  | exit

/-- After so many frames of a replay the cursor has been put back, if the replay does that. -/
def framesUntilRestored (chrome : Chrome) (output : SessionOutput) (request : AttachRequest) :
    Option Nat :=
  match planReplay request.renderedOffset request.isFresh output.altScreen.inAlternateScreen
      output.history.base output.history.total with
  -- The position and the modes come before the notice that restores the cursor.
  | .clean _ => if request.lineDirty then some 3 else none
  | _ => some (output.replaySends chrome request).frames.length

namespace InteractiveClient

/-- A client that is attached and has rendered some output. -/
def new : InteractiveClient where
  renderedOffset := 0
  altScreen := .new
  phase := .relaying [] none
  displaced := false
  attaches := []

/-- The bytes of a frame go to the terminal. -/
def render (client : InteractiveClient) : SessionFrame → InteractiveClient
  | .data bytes =>
    { client with
      renderedOffset := client.renderedOffset + bytes.length
      altScreen := client.altScreen.scan bytes }
  | .resume offset => { client with renderedOffset := offset }
  -- The server's own bytes are not counted.
  | .notice bytes _ => { client with altScreen := client.altScreen.scan bytes }
  | .detached => { client with phase := .exited }

/-- One more frame has been rendered on the way to the cursor's restoration. -/
def countRestored (client : InteractiveClient) (later : List SessionFrame) :
    Option Nat → InteractiveClient
  | some (left + 1) =>
    if left = 0 then { client with phase := .relaying later none, displaced := false }
    else { client with phase := .relaying later (some left) }
  | _ => { client with phase := .relaying later none }

/-- Paint the status line once the outage drags. The first time this opens a line of its own. -/
def paintReconnectStatus (client : InteractiveClient) (episode : ReconnectEpisode) (elapsed : Nat)
    (firstPaintOk : Bool) : InteractiveClient × ReconnectEpisode :=
  if episode.showChrome ∧ reconnectChromeDelay ≤ elapsed ∧ !episode.chromeShown ∧ firstPaintOk then
    ({ client with displaced := true }, { episode with chromeShown := true })
  else (client, episode)

/-- One action, if it can be taken. -/
def step (chrome : Chrome) (client : InteractiveClient) : ClientAction → Option InteractiveClient
  | .serverSends frame =>
    match client.phase with
    | .relaying incoming restoredAfter =>
      some { client with phase := .relaying (incoming ++ [frame]) restoredAfter }
    | _ => none
  | .deliver =>
    match client.phase with
    | .relaying (frame :: later) restoredAfter =>
      some ((client.countRestored later restoredAfter).render frame)
    | _ => none
  | .linkLost =>
    match client.phase with
    | .relaying _ _ =>
      some { client with
        phase := .waiting
          { showChrome := !client.altScreen.inAlternateScreen
            -- Nothing is painted at first, whatever an earlier outage has left on the screen.
            chromeShown := false
            lostDisplaced := client.displaced } }
    | _ => none
  | .paint elapsed =>
    match client.phase with
    | .waiting episode =>
      let (painted, episode) := client.paintReconnectStatus episode elapsed true
      some { painted with phase := .waiting episode }
    | _ => none
  | .startAttempt =>
    match client.phase with
    | .waiting episode =>
      some { client with
        phase := .attempting episode episode.chromeShown client.renderedOffset }
    | _ => none
  | .attemptTick elapsed =>
    match client.phase with
    | .attempting episode lineDirty resumeOffset =>
      let (painted, episode) := client.paintReconnectStatus episode elapsed false
      some { painted with phase := .attempting episode lineDirty resumeOffset }
    | .attaching episode request =>
      let (painted, episode) := client.paintReconnectStatus episode elapsed false
      some { painted with phase := .attaching episode request }
    | _ => none
  | .sendAttach cols rows =>
    match client.phase with
    | .attempting episode lineDirty resumeOffset =>
      some { client with
        phase := .attaching episode
          { renderedOffset := resumeOffset, lineDirty, isFresh := false, cols, rows }
        attaches := client.attaches ++ [{ lineDirty, displaced := client.displaced }] }
    | _ => none
  | .attemptFails =>
    match client.phase with
    | .attempting episode _ _ => some { client with phase := .waiting episode }
    | .attaching episode _ => some { client with phase := .waiting episode }
    | _ => none
  | .attachAck output =>
    match client.phase with
    | .attaching _ request =>
      some { client with
        phase := .relaying (output.replaySends chrome request).frames
          (framesUntilRestored chrome output request) }
    | _ => none
  | .exit => some { client with phase := .exited }

end InteractiveClient

/-- The interactive client over its outages. -/
def interactiveClient (chrome : Chrome) : Machine InteractiveClient ClientAction where
  init := .new
  step := InteractiveClient.step chrome

/-- Every request said where the cursor was. -/
def InteractiveClient.Truthful (client : InteractiveClient) : Prop :=
  ∀ attach ∈ client.attaches, attach.lineDirty = attach.displaced

/-- A client that lost its link before its cursor was put back paints again before it asks to be
taken back. -/
def InteractiveClient.PaintsFirst (client : InteractiveClient) (action : ClientAction) : Prop :=
  match client.phase, action with
  | .attempting episode _ _, .sendAttach _ _ =>
    -- An outage shorter than the delay, or behind a full-screen program, paints nothing.
    episode.lostDisplaced = true → episode.chromeShown = true
  | _, _ => True

namespace InteractiveClient

/-- The cursor is displaced by this outage's status line, or since an earlier one's. -/
def EpisodeFits (displaced : Bool) (episode : ReconnectEpisode) : Prop :=
  displaced = (episode.lostDisplaced || episode.chromeShown)

/-- The client's memory fits its cursor. -/
def PhaseFits (displaced : Bool) : ClientPhase → Prop
  | .waiting episode => EpisodeFits displaced episode
  -- What the request says was read off before the attempt, and nothing is painted since.
  | .attempting episode lineDirty _ =>
    EpisodeFits displaced episode ∧ lineDirty = episode.chromeShown
  | .attaching episode _ => EpisodeFits displaced episode
  | _ => True

/-- The requests so far were truthful, and the memory fits the cursor. -/
structure Sound (client : InteractiveClient) : Prop where
  truthful : client.Truthful
  fits : PhaseFits client.displaced client.phase

@[simp] theorem render_attaches (client : InteractiveClient) (frame : SessionFrame) :
    (client.render frame).attaches = client.attaches := by
  cases frame <;> rfl

@[simp] theorem countRestored_attaches (client : InteractiveClient) (later : List SessionFrame)
    (restoredAfter : Option Nat) :
    (client.countRestored later restoredAfter).attaches = client.attaches := by
  unfold countRestored
  split
  · split <;> rfl
  · rfl

/-- A client that renders what arrives is still attached, or was told to leave. -/
theorem render_phase (client : InteractiveClient) (frame : SessionFrame) :
    (client.render frame).phase = client.phase ∨ (client.render frame).phase = .exited := by
  cases frame with
  | detached => exact Or.inr rfl
  | _ => exact Or.inl rfl

/-- While what is restored is counted, the client relays. -/
theorem countRestored_phase (client : InteractiveClient) (later : List SessionFrame)
    (restoredAfter : Option Nat) :
    ∃ left, (client.countRestored later restoredAfter).phase = .relaying later left := by
  unfold countRestored
  split
  · split
    · exact ⟨none, rfl⟩
    · exact ⟨_, rfl⟩
  · exact ⟨none, rfl⟩

/-- Painting keeps the memory fitting the cursor. -/
theorem paint_fits {client : InteractiveClient} {episode : ReconnectEpisode}
    (fits : EpisodeFits client.displaced episode) (elapsed : Nat) (firstPaintOk : Bool) :
    EpisodeFits (client.paintReconnectStatus episode elapsed firstPaintOk).1.displaced
      (client.paintReconnectStatus episode elapsed firstPaintOk).2 := by
  unfold paintReconnectStatus
  split
  · -- The line is now shown, and the cursor moved.
    simp [EpisodeFits]
  · exact fits

@[simp] theorem paint_attaches (client : InteractiveClient) (episode : ReconnectEpisode)
    (elapsed : Nat) (firstPaintOk : Bool) :
    (client.paintReconnectStatus episode elapsed firstPaintOk).1.attaches = client.attaches := by
  unfold paintReconnectStatus
  split <;> rfl

/-- During an attempt the line is only repainted, so the request stays true. -/
theorem paint_attempt (client : InteractiveClient) (episode : ReconnectEpisode) (elapsed : Nat) :
    client.paintReconnectStatus episode elapsed false = (client, episode) := by
  unfold paintReconnectStatus
  rw [if_neg (by simp)]

theorem sound_new : Sound .new := ⟨fun attach member => absurd member (by simp [new]), trivial⟩

section Steps

variable {chrome : Chrome} {client next : InteractiveClient} {action : ClientAction}

/-- A request in an outage that repaints first is truthful. -/
theorem sound_step (sound : Sound client) (met : client.PaintsFirst action)
    (stepped : client.step chrome action = some next) : Sound next := by
  have fits := sound.fits
  cases action with
  | serverSends frame =>
    simp only [step] at stepped
    split at stepped
    · cases stepped
      exact ⟨sound.truthful, trivial⟩
    · simp at stepped
  | deliver =>
    simp only [step] at stepped
    split at stepped
    · next frame later restoredAfter relaying =>
      cases stepped
      constructor
      · show ∀ attach ∈ ((client.countRestored later restoredAfter).render frame).attaches, _
        rw [render_attaches, countRestored_attaches]
        exact sound.truthful
      · -- The client relays on, or was told to leave.
        obtain ⟨left, relays⟩ := client.countRestored_phase later restoredAfter
        rcases (client.countRestored later restoredAfter).render_phase frame with same | left
        · rw [same, relays]
          trivial
        · rw [left]
          trivial
    · simp at stepped
  | linkLost =>
    simp only [step] at stepped
    split at stepped
    · cases stepped
      exact ⟨sound.truthful, (Bool.or_false _).symm⟩
    · simp at stepped
  | paint elapsed =>
    simp only [step] at stepped
    split at stepped
    · next episode waiting =>
      cases stepped
      rw [waiting] at fits
      constructor
      · show ∀ attach ∈ (client.paintReconnectStatus episode elapsed true).1.attaches, _
        rw [paint_attaches]
        exact sound.truthful
      · exact paint_fits fits elapsed true
    · simp at stepped
  | startAttempt =>
    simp only [step] at stepped
    split at stepped
    · next episode waiting =>
      cases stepped
      rw [waiting] at fits
      exact ⟨sound.truthful, fits, rfl⟩
    · simp at stepped
  | attemptTick elapsed =>
    simp only [step] at stepped
    split at stepped
    · next episode lineDirty resumeOffset attempting =>
      cases stepped
      rw [attempting] at fits
      rw [paint_attempt]
      exact ⟨sound.truthful, fits⟩
    · next episode request attaching =>
      cases stepped
      rw [attaching] at fits
      rw [paint_attempt]
      exact ⟨sound.truthful, fits⟩
    · simp at stepped
  | sendAttach cols rows =>
    simp only [step] at stepped
    split at stepped
    · next episode lineDirty resumeOffset attempting =>
      cases stepped
      rw [attempting] at fits
      obtain ⟨cursor, rfl⟩ := fits
      simp only [PaintsFirst, attempting] at met
      refine ⟨?_, cursor⟩
      intro attach member
      rcases List.mem_append.mp member with before | new
      · exact sound.truthful attach before
      · -- The cursor is displaced by this outage's own line, or not at all.
        obtain rfl := List.mem_singleton.mp new
        show episode.chromeShown = client.displaced
        rw [show client.displaced = (episode.lostDisplaced || episode.chromeShown) from cursor]
        cases lost : episode.lostDisplaced with
        | true => rw [met lost, Bool.or_true]
        | false => rw [Bool.false_or]
    · simp at stepped
  | attemptFails =>
    simp only [step] at stepped
    split at stepped
    · next episode lineDirty resumeOffset attempting =>
      cases stepped
      rw [attempting] at fits
      exact ⟨sound.truthful, fits.1⟩
    · next episode request attaching =>
      cases stepped
      rw [attaching] at fits
      exact ⟨sound.truthful, fits⟩
    · simp at stepped
  | attachAck output =>
    simp only [step] at stepped
    split at stepped
    · cases stepped
      exact ⟨sound.truthful, trivial⟩
    · simp at stepped
  | exit =>
    cases stepped
    exact ⟨sound.truthful, trivial⟩

/-- Without it the client says that its cursor is where it is not. -/
theorem untruthful_step (sound : Sound client) (unmet : ¬ client.PaintsFirst action) :
    ∃ next, client.step chrome action = some next ∧ ¬ next.Truthful := by
  have fits := sound.fits
  -- Only a request can be at fault.
  unfold PaintsFirst at unmet
  split at unmet
  · next episode lineDirty resumeOffset cols rows attempting =>
    rw [attempting] at fits
    obtain ⟨cursor, rfl⟩ := fits
    obtain ⟨lost, unpainted⟩ := Classical.not_imp.mp unmet
    have hidden : episode.chromeShown = false := by simpa using unpainted
    refine ⟨_, by simp only [step, attempting]; rfl, fun truthful => ?_⟩
    have said := truthful _ (List.mem_append_right _ (List.mem_singleton_self _))
    have displaced : client.displaced = true := by
      rw [show client.displaced = (episode.lostDisplaced || episode.chromeShown) from cursor, lost,
        Bool.true_or]
    exact absurd (hidden.symm.trans (said.trans displaced)) (by simp)
  · exact absurd trivial unmet

end Steps

end InteractiveClient

/-! ### The cursor is put back -/

/-- A replay to a client whose line is dirty puts the cursor back by its last frame. -/
theorem framesUntilRestored_dirty (chrome : Chrome) (output : SessionOutput)
    {request : AttachRequest} (dirty : request.lineDirty = true) :
    ∃ left, framesUntilRestored chrome output request = some (left + 1) ∧
      left + 1 ≤ (output.replaySends chrome request).frames.length := by
  unfold framesUntilRestored SessionOutput.replaySends
  cases planReplay request.renderedOffset request.isFresh output.altScreen.inAlternateScreen
      output.history.base output.history.total with
  | clean offset =>
    -- The position, the modes and the restored line come first.
    refine ⟨2, if_pos dirty, ?_⟩
    simp [dirty, SessionOutput.sendResume]
  | altRedraw offset => exact ⟨_, rfl, Nat.le_refl _⟩
  | fresh offset => exact ⟨_, rfl, Nat.le_refl _⟩
  | truncated offset dropped => exact ⟨_, rfl, Nat.le_refl _⟩

namespace InteractiveClient

@[simp] theorem render_displaced (client : InteractiveClient) (frame : SessionFrame) :
    (client.render frame).displaced = client.displaced := by
  cases frame <;> rfl

/-- Rendering keeps a client attached that is not told to leave. -/
theorem render_stays {client : InteractiveClient} {frame : SessionFrame}
    (stays : frame ≠ .detached) : (client.render frame).phase = client.phase := by
  cases frame with
  | detached => exact absurd rfl stays
  | _ => rfl

/-- Once enough of a replay has arrived, the cursor is back. -/
theorem delivered_restores (chrome : Chrome) {client : InteractiveClient}
    {frames : List SessionFrame} {left : Nat}
    (relaying : client.phase = .relaying frames (some (left + 1)))
    (enough : left + 1 ≤ frames.length) (stays : ∀ frame ∈ frames, frame ≠ .detached) :
    ∃ after, (interactiveClient chrome).run client (List.replicate (left + 1) .deliver) =
      some after ∧ after.displaced = false := by
  -- The induction follows the frames that are still missing; each of them is rendered.
  induction left generalizing client frames with
  | zero =>
    cases frames with
    | nil => simp at enough
    | cons frame later =>
      have stepped : (interactiveClient chrome).step client .deliver =
          some ((client.countRestored later (some 1)).render frame) := by
        simp only [interactiveClient, step, relaying]
      refine ⟨_, Machine.run_cons stepped, ?_⟩
      rw [render_displaced]
      rfl
  | succ left ih =>
    cases frames with
    | nil => simp at enough
    | cons frame later =>
      have stepped : (interactiveClient chrome).step client .deliver =
          some ((client.countRestored later (some (left + 2))).render frame) := by
        simp only [interactiveClient, step, relaying]
      have relays : ((client.countRestored later (some (left + 2))).render frame).phase =
          .relaying later (some (left + 1)) := by
        rw [render_stays (stays frame List.mem_cons_self)]
        rfl
      obtain ⟨after, ran, restored⟩ := ih relays (Nat.le_of_succ_le_succ enough)
        (fun other there => stays other (List.mem_cons_of_mem frame there))
      exact ⟨after, (Machine.run_cons stepped).trans ran, restored⟩

/-- No replay tells its client to leave. -/
theorem replaySends_stays (chrome : Chrome) (output : SessionOutput) (request : AttachRequest) :
    ∀ frame ∈ (output.replaySends chrome request).frames, frame ≠ .detached := by
  -- After the position everything is a notice.
  obtain ⟨notices, frames, all⟩ := output.replaySends_shape chrome request
  rw [frames]
  intro frame member
  rcases List.mem_cons.mp member with rfl | later
  · simp
  · obtain ⟨bytes, replayed, rfl⟩ := all frame later
    simp

/-- A client that said that its line is dirty has its cursor back once the replay has arrived. -/
theorem replay_restores (chrome : Chrome) {client : InteractiveClient} {episode : ReconnectEpisode}
    {request : AttachRequest} (attaching : client.phase = .attaching episode request)
    (dirty : request.lineDirty = true) (output : SessionOutput) :
    ∃ arrived after, (interactiveClient chrome).run client
        (.attachAck output :: List.replicate arrived .deliver) = some after ∧
      after.displaced = false := by
  obtain ⟨left, restored, enough⟩ := framesUntilRestored_dirty chrome output dirty
  have stepped : (interactiveClient chrome).step client (.attachAck output) =
      some { client with
        phase := .relaying (output.replaySends chrome request).frames (some (left + 1)) } := by
    simp only [interactiveClient, step, attaching, restored]
  obtain ⟨after, ran, back⟩ := @delivered_restores chrome
    { client with
      phase := .relaying (output.replaySends chrome request).frames (some (left + 1)) }
    _ left rfl enough (replaySends_stays chrome output request)
  exact ⟨left + 1, after, (Machine.run_cons stepped).trans ran, back⟩

end InteractiveClient

/-- The client tells the truth about its cursor exactly in the runs where each outage that begins
with a displaced cursor is long enough for its own status line. -/
theorem truthful_along_iff (chrome : Chrome) (actions : List ClientAction) :
    (interactiveClient chrome).Along InteractiveClient.Truthful (interactiveClient chrome).init
        actions ↔
      (interactiveClient chrome).Meets InteractiveClient.PaintsFirst
        (interactiveClient chrome).init actions := by
  have preserved : ∀ client action next, InteractiveClient.Sound client →
      client.PaintsFirst action → (interactiveClient chrome).step client action = some next →
        InteractiveClient.Sound next :=
    fun client action next sound met stepped => InteractiveClient.sound_step sound met stepped
  have broken : ∀ client action, InteractiveClient.Sound client → ¬ client.PaintsFirst action →
      ∃ next, (interactiveClient chrome).step client action = some next ∧ ¬ next.Truthful :=
    fun client action sound unmet => InteractiveClient.untruthful_step sound unmet
  exact Machine.along_iff_meets (fun client sound => sound.truthful) preserved broken
    InteractiveClient.sound_new actions

/-- A long outage, after which the link is lost again before the replay arrives, and a short one. -/
def lostRestore : List ClientAction :=
  [.linkLost, .paint reconnectChromeDelay, .startAttempt, .sendAttach 80 24,
    .attachAck (.new 16), .linkLost, .startAttempt, .sendAttach 80 24]

/-- The second request says that the cursor is in place, which is still below the status line. -/
theorem untruthful_after_lostRestore :
    ¬ ∀ (chrome : Chrome) (actions : List ClientAction),
      (interactiveClient chrome).Along InteractiveClient.Truthful (interactiveClient chrome).init
        actions := by
  intro always
  have along := always shortChrome lostRestore
  have last := along.last rfl
  exact absurd (last { lineDirty := false, displaced := true } (by decide)) (by decide)

end Gritty
