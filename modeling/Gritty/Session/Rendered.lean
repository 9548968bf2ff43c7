import Gritty.Session.Offsets

/-! What a client has rendered of a session's output, over cuts and automatic reconnects. -/

namespace Gritty

/-- A frame that carries replayed output. -/
def SessionFrame.isReplay : SessionFrame → Bool
  | .notice _ replayed => replayed
  | _ => false

namespace Session

/--
One client that always comes back, on the main screen.

Its reconnects paint no status line, and the stream from its position on is still retained.
-/
def PlainReconnects (session : Session) : SessionAction → Prop
  | .output chunk => escByte ∉ chunk
  | .reattach client lineDirty _ _ _ =>
    lineDirty = false ∧ ∀ returning, session.clients[client]? = some returning →
      session.output.history.base ≤ returning.renderedOffset
  | .connect _ _ _ => False
  | _ => True

/-- No cut loses replayed output and spares the frame that moved the client past it. -/
def SparesReplays (session : Session) : SessionAction → Prop
  | .cut client kept => ∀ victim, session.clients[client]? = some victim →
    (∃ frame ∈ victim.inFlight.drop kept, frame.isResume = true) ∨
      ∀ frame ∈ victim.inFlight.drop kept, frame.isReplay = false
  | _ => True

/-- Every frame sent to the attached client has been delivered. -/
def Drained (session : Session) : Prop :=
  ∃ index client, session.attached = some index ∧ session.clients[index]? = some client ∧
    client.linkUp = true ∧ client.inFlight = []

/-- When every frame has been delivered, the attached client has rendered the stream: no byte less, and none twice. -/
def ShowsStream (session : Session) : Prop :=
  ∀ (index : Nat) (client : SessionClient), session.attached = some index →
    session.clients[index]? = some client → client.linkUp = true → client.inFlight = [] →
      client.screen = session.stream

end Session

theorem shownBytes_append (first second : List SessionFrame) :
    shownBytes (first ++ second) = shownBytes first ++ shownBytes second := by
  rw [shownBytes, List.map_append, List.flatten_append]
  rfl

theorem shownBytes_cons (frame : SessionFrame) (later : List SessionFrame) :
    shownBytes (frame :: later) = shownBytes [frame] ++ shownBytes later :=
  shownBytes_append [frame] later

theorem liveBytes_cons (frame : SessionFrame) (later : List SessionFrame) :
    liveBytes (frame :: later) = liveBytes [frame] ++ liveBytes later :=
  SessionOutput.liveBytes_append [frame] later

/-- A frame without replayed output shows what it carries live. -/
theorem shownBytes_eq_liveBytes {frames : List SessionFrame}
    (noReplay : ∀ frame ∈ frames, frame.isReplay = false) :
    shownBytes frames = liveBytes frames := by
  induction frames with
  | nil => rfl
  | cons frame later ih =>
    rw [shownBytes_cons, liveBytes_cons,
      ih fun other there => noReplay other (List.mem_cons_of_mem frame there)]
    have first := noReplay frame List.mem_cons_self
    cases frame with
    | notice bytes replayed => cases replayed <;> simp_all [shownBytes, liveBytes,
        SessionFrame.isReplay]
    | _ => rfl

/-- Frames show at least what they carry live, and more if they carry replayed output. -/
theorem liveBytes_le_shownBytes (frames : List SessionFrame) :
    (liveBytes frames).length ≤ (shownBytes frames).length := by
  induction frames with
  | nil => exact Nat.le_refl 0
  | cons frame later ih =>
    rw [shownBytes_cons, liveBytes_cons, List.length_append, List.length_append]
    cases frame with
    | notice bytes replayed => exact Nat.add_le_add (Nat.zero_le _) ih
    | _ => exact Nat.add_le_add_left ih _

/-- A replayed notice shows bytes that are not live. -/
theorem liveBytes_lt_shownBytes {frames : List SessionFrame} {bytes : Bytes}
    (there : .notice bytes true ∈ frames) (nonempty : bytes ≠ []) :
    (liveBytes frames).length < (shownBytes frames).length := by
  obtain ⟨before, after, rfl⟩ := List.append_of_mem there
  rw [SessionOutput.liveBytes_append, shownBytes_append, liveBytes_cons, shownBytes_cons]
  have first := liveBytes_le_shownBytes before
  have last := liveBytes_le_shownBytes after
  have some := List.length_pos_iff.mpr nonempty
  simp only [List.length_append, liveBytes, shownBytes, List.map_cons, List.map_nil,
    List.flatten_cons, List.flatten_nil, List.append_nil, if_true, List.length_nil] at first last ⊢
  omega

/-- A frame that is handled shows its bytes on the screen. -/
theorem handleServerFrame_screen (client : SessionClient) (frame : SessionFrame) :
    (client.handleServerFrame frame).screen = client.screen ++ shownBytes [frame] := by
  cases frame with
  | data bytes => simp [SessionClient.handleServerFrame, shownBytes]
  | notice bytes replayed => cases replayed <;> simp [SessionClient.handleServerFrame, shownBytes]
  | _ => simp [SessionClient.handleServerFrame, shownBytes]

namespace Session

/-! ### What one action does to the client -/

/-- A session with one client, on the main screen. -/
structure Alone (session : Session) (client : SessionClient) : Prop where
  agreed : Agreed session
  only : session.clients = [client]
  main : session.output.altScreen = .new
  plain : escByte ∉ session.stream
  /-- A new position is the first frame of a connection. -/
  first : client.linkUp = true → ∀ frame ∈ client.inFlight.tail, frame.isResume = false
  replays : ∀ bytes, .notice bytes true ∈ client.inFlight → bytes ≠ []

/-- What an action does to the one client and to the stream. -/
inductive Change (session : Session) (client : SessionClient) :
    SessionAction → Session → SessionClient → Prop where
  /-- Output is sent to the client, which will be level with the stream before it. -/
  | sent {next : Session} {chunk : Bytes} (up : client.linkUp = true)
    (level : settle client.renderedOffset client.inFlight = session.stream.length)
    (stream : next.stream = session.stream ++ chunk) :
    Change session client (.output chunk) next
      { client with inFlight := client.inFlight ++ [.data chunk] }
  /-- Output is not sent. -/
  | missed {next : Session} {chunk : Bytes} (stream : next.stream = session.stream ++ chunk) :
    Change session client (.output chunk) next client
  | delivered {next : Session} {index : Nat} {frame : SessionFrame} {later : List SessionFrame}
    (queued : client.inFlight = frame :: later) (stream : next.stream = session.stream) :
    Change session client (.deliver index) next
      ({ client with inFlight := later }.handleServerFrame frame)
  | cut {next : Session} {kept : Nat} (up : client.linkUp = true)
    (stream : next.stream = session.stream) :
    Change session client (.cut 0 kept) next
      { client with inFlight := client.inFlight.take kept, linkUp := false }
  | closed {next : Session} (stream : next.stream = session.stream) :
    Change session client .clientGone next client.close
  /-- The client gets the end of the stream as its position, and the rest of the stream. -/
  | replayed {next : Session} {index : Nat} {lineDirty : Bool} {cols rows : UInt16}
    {redraw : List Bytes} {sync : Bytes} {frames : List SessionFrame}
    (empty : client.inFlight = []) (stream : next.stream = session.stream)
    (rest : shownBytes frames = session.stream.drop client.renderedOffset)
    (notices : SessionOutput.Notices frames) :
    Change session client (.reattach index lineDirty cols rows redraw) next
      { client with
        inFlight := .resume session.stream.length :: .notice sync false :: frames
        linkUp := true }

/-- What is left of a stream is replayed as it is when it has no escape byte. -/
theorem clean_replay {session : Session} {client : SessionClient} (alone : Alone session client)
    (chrome : Chrome) (cols rows : UInt16) (redraw : List Bytes)
    (retained : session.output.history.base ≤ client.renderedOffset) :
    session.output.sendReconnectReplay chrome (client.request false cols rows) redraw =
      (session.output,
        .resume session.stream.length :: .notice session.output.termModes.syncSequence false ::
          SessionOutput.sendScrubbed (session.output.history.sliceFrom client.renderedOffset)) := by
  have behind : client.renderedOffset ≤ session.output.history.total :=
    bounded_first (alone.agreed.bounded 0 client (by rw [alone.only]; rfl))
  have main : session.output.altScreen.inAlternateScreen = false := by
    rw [alone.main]
    rfl
  rw [SessionOutput.sendReconnectReplay_clean chrome redraw
    (planReplay_clean main retained behind) rfl, alone.agreed.retains.total]

section Steps

variable {session next : Session} {client : SessionClient}

/-- The only client is the first. -/
theorem Alone.found (alone : Alone session client) {index : Nat} {other : SessionClient}
    (found : session.clients[index]? = some other) : index = 0 ∧ other = client := by
  rw [alone.only] at found
  cases index with
  | zero => exact ⟨rfl, (Option.some.inj found).symm⟩
  | succ index => simp at found

theorem Alone.modifyClient (alone : Alone session client)
    (change : SessionClient → SessionClient) :
    (session.modifyClient 0 change).clients = [change client] := by
  rw [Session.modifyClient, alone.only]
  rfl

/-- Only the first client can be attached. -/
theorem Alone.attached (alone : Alone session client) {index : Nat}
    (attached : session.attached = some index) : index = 0 := by
  have known := alone.agreed.present index attached
  rw [alone.only] at known
  exact Nat.lt_one_iff.mp known

/-- The server may still be relaying to the client's last connection, which is down. -/
theorem Alone.displaced (alone : Alone session client) (down : client.linkUp = false) :
    (session.modifyAttached fun old => (old.send [.detached]).close).clients = [client] := by
  unfold modifyAttached
  split
  · next index attached =>
    obtain rfl := alone.attached attached
    rw [alone.modifyClient, SessionClient.send, down, if_neg (by decide), SessionClient.close,
      ← down]
  · exact alone.only

/-- Output goes to the client or not, and it stays plain. -/
theorem alone_output (alone : Alone session client) {chrome : Chrome} {chunk : Bytes}
    (plain : escByte ∉ chunk) (stepped : session.step chrome (.output chunk) = some next) :
    ∃ after, Alone next after ∧ Change session client (.output chunk) next after := by
  have agreed := agreed_step chrome session (.output chunk) next alone.agreed stepped
  simp only [step] at stepped
  split at stepped
  · simp at stepped
  cases stepped
  have main : (session.output.capture chunk).altScreen = .new := by
    show session.output.altScreen.scan chunk = .new
    rw [alone.main]
    exact AltScreenTracker.scan_plain rfl plain
  have stays : escByte ∉ session.stream ++ chunk := by
    intro there
    exact (List.mem_append.mp there).elim alone.plain plain
  by_cases sent : session.attached = some 0 ∧ client.linkUp = true
  · obtain ⟨attached, up⟩ := sent
    refine ⟨{ client with inFlight := client.inFlight ++ [.data chunk] },
      ⟨agreed, ?_, main, stays, ?_, ?_⟩, .sent up ?_ rfl⟩
    · show (session.modifyAttached _).clients = _
      rw [modifyAttached, attached, alone.modifyClient, SessionClient.send, if_pos up]
    · -- The chunk is no new position, and the first frame stays the first.
      intro _ frame there
      have inTail : frame ∈ client.inFlight.tail ∨ frame = .data chunk := by
        cases queued : client.inFlight with
        | nil => simp [queued] at there
        | cons first later => simpa [queued] using there
      rcases inTail with old | rfl
      · exact alone.first up frame old
      · rfl
    · intro bytes there
      rcases List.mem_append.mp there with old | new
      · exact alone.replays bytes old
      · exact absurd (List.mem_singleton.mp new) (by simp)
    · have level := alone.agreed.level 0 client attached (by rw [alone.only]; rfl) up
      rw [level]
      exact alone.agreed.retains.total
  · refine ⟨client, ⟨agreed, ?_, main, stays, alone.first, alone.replays⟩, .missed rfl⟩
    show (session.modifyAttached _).clients = _
    unfold modifyAttached
    split
    · next index attached =>
      obtain rfl := alone.attached attached
      have down : client.linkUp = false := by
        by_contra up
        exact sent ⟨attached, by simpa using up⟩
      rw [alone.modifyClient, SessionClient.send, down, if_neg (by decide)]
    · exact alone.only

/-- The client reads its oldest frame. -/
theorem alone_deliver (alone : Alone session client) {chrome : Chrome} {index : Nat}
    (stepped : session.step chrome (.deliver index) = some next) :
    ∃ after, Alone next after ∧ Change session client (.deliver index) next after := by
  have agreed := agreed_step chrome session (.deliver index) next alone.agreed stepped
  simp only [step] at stepped
  split at stepped
  · next receiver found =>
    obtain ⟨rfl, rfl⟩ := alone.found found
    split at stepped
    · next frame later queued =>
      split at stepped
      · simp at stepped
      · cases stepped
        refine ⟨_, ⟨agreed, alone.modifyClient _, alone.main, alone.plain, ?_, ?_⟩,
          .delivered queued rfl⟩
        · intro up other there
          rw [SessionClient.handleServerFrame_linkUp] at up
          rw [SessionClient.handleServerFrame_inFlight] at there
          apply alone.first up other
          rw [queued]
          exact List.mem_of_mem_tail there
        · intro bytes there
          rw [SessionClient.handleServerFrame_inFlight] at there
          apply alone.replays bytes
          rw [queued]
          exact List.mem_cons_of_mem frame there
    · simp at stepped
  · simp at stepped

/-- The link is cut, or the server lets go of it. -/
theorem alone_cut (alone : Alone session client) {chrome : Chrome} {index kept : Nat}
    (stepped : session.step chrome (.cut index kept) = some next) :
    ∃ after, Alone next after ∧ index = 0 ∧
      Change session client (.cut 0 kept) next after := by
  have agreed := agreed_step chrome session (.cut index kept) next alone.agreed stepped
  simp only [step] at stepped
  split at stepped
  · next victim found =>
    obtain ⟨rfl, rfl⟩ := alone.found found
    split at stepped
    · next up =>
      cases stepped
      refine ⟨_, ⟨agreed, alone.modifyClient _, alone.main, alone.plain, ?_, ?_⟩, rfl,
        .cut up rfl⟩
      · exact fun up => absurd up (by simp)
      · exact fun bytes there => alone.replays bytes (List.mem_of_mem_take there)
    · simp at stepped
  · simp at stepped

/-- A client that is found gone stays alone. -/
theorem alone_clientGone (alone : Alone session client) {chrome : Chrome}
    (stepped : session.step chrome .clientGone = some next) :
    ∃ after, Alone next after ∧ Change session client .clientGone next after := by
  have agreed := agreed_step chrome session .clientGone next alone.agreed stepped
  simp only [step] at stepped
  split at stepped
  · next index attached =>
    obtain rfl := alone.attached attached
    cases stepped
    refine ⟨client.close, ⟨agreed, alone.modifyClient _, alone.main, alone.plain, ?_,
      alone.replays⟩, .closed rfl⟩
    exact fun up => absurd up (by simp [SessionClient.close])
  · simp at stepped

/-- The client comes back and gets the rest of the stream. -/
theorem alone_reattach (alone : Alone session client) {chrome : Chrome} {index : Nat}
    {lineDirty : Bool} {cols rows : UInt16} {redraw : List Bytes}
    (plain : session.PlainReconnects (.reattach index lineDirty cols rows redraw))
    (stepped : session.step chrome (.reattach index lineDirty cols rows redraw) = some next) :
    ∃ after, Alone next after ∧
      Change session client (.reattach index lineDirty cols rows redraw) next after := by
  have agreed := agreed_step chrome session _ next alone.agreed stepped
  simp only [step] at stepped
  split at stepped
  · next returning found =>
    obtain ⟨rfl, rfl⟩ := alone.found found
    split at stepped
    · simp at stepped
    · next ready =>
      cases stepped
      obtain ⟨rfl, retained⟩ := plain
      have replay := clean_replay alone chrome cols rows redraw (retained returning found)
      simp only [Bool.not_eq_true, Bool.or_eq_false_iff, Bool.not_eq_false',
        List.isEmpty_iff] at ready
      obtain ⟨⟨⟨down, empty⟩, _⟩, _⟩ := ready
      have notices := SessionOutput.notices_sendScrubbed
        (session.output.history.sliceFrom returning.renderedOffset)
      have quiet : liveBytes (.resume session.stream.length ::
          .notice session.output.termModes.syncSequence false ::
            SessionOutput.sendScrubbed
              (session.output.history.sliceFrom returning.renderedOffset)) = [] := by
        show liveBytes (SessionOutput.sendScrubbed _) = []
        exact SessionOutput.liveBytes_notices notices
      have stream : (session.attach chrome 0 (returning.request false cols rows) redraw).stream =
          session.stream := by
        show session.stream ++ liveBytes
          (session.output.sendReconnectReplay chrome (returning.request false cols rows) redraw).2
            = session.stream
        rw [replay, quiet, List.append_nil]
      have rest : shownBytes (SessionOutput.sendScrubbed
          (session.output.history.sliceFrom returning.renderedOffset)) =
            session.stream.drop returning.renderedOffset := by
        rw [SessionOutput.shownBytes_sendScrubbed,
          alone.agreed.retains.sliceFrom (retained returning found)]
        exact stripQueries_plain fun there => alone.plain (List.mem_of_mem_drop there)
      have change : Change session returning (.reattach 0 false cols rows redraw)
          (session.attach chrome 0 (returning.request false cols rows) redraw)
          { returning with
            inFlight := .resume session.stream.length ::
              .notice session.output.termModes.syncSequence false ::
                SessionOutput.sendScrubbed
                  (session.output.history.sliceFrom returning.renderedOffset)
            linkUp := true } := .replayed empty stream rest notices
      refine ⟨_, ⟨agreed, ?_, ?_, ?_, ?_, ?_⟩, change⟩
      · show (Session.modifyClient (session.modifyAttached _) 0 _).clients = _
        rw [Session.modifyClient, alone.displaced down, replay]
        rfl
      · show (session.output.sendReconnectReplay chrome _ redraw).1.altScreen = .new
        rw [replay]
        exact alone.main
      · rw [stream]
        exact alone.plain
      · intro _ frame there
        rcases List.mem_cons.mp there with rfl | there
        · rfl
        · obtain ⟨_, _, rfl⟩ := notices frame there
          rfl
      · intro bytes there
        rcases List.mem_cons.mp there with same | there
        · simp at same
        · rcases List.mem_cons.mp there with same | there
          · simp at same
          · exact SessionOutput.sendScrubbed_nonempty there
  · simp at stepped

/-- Every action of a plain run changes the one client in one of these ways. -/
theorem alone_step (alone : Alone session client) {chrome : Chrome} {action : SessionAction}
    (plain : session.PlainReconnects action) (stepped : session.step chrome action = some next) :
    ∃ after, Alone next after ∧ Change session client action next after := by
  cases action with
  | output chunk => exact alone_output alone plain stepped
  | deliver index => exact alone_deliver alone stepped
  | cut index kept =>
    obtain ⟨after, stays, rfl, change⟩ := alone_cut alone stepped
    exact ⟨after, stays, change⟩
  | clientGone => exact alone_clientGone alone stepped
  | reattach index lineDirty cols rows redraw => exact alone_reattach alone plain stepped
  | connect cols rows redraw => exact absurd plain id

end Steps

/-! ### Whether replayed output was ever lost -/

/-- The client has rendered, or will have, exactly what its position says. -/
structure Complete (session : Session) (client : SessionClient) : Prop where
  settled : client.screen ++ shownBytes client.inFlight =
    session.stream.take (settle client.renderedOffset client.inFlight)
  /-- So it has even if it never gets its new position. -/
  fallback : client.linkUp = true → (∃ frame ∈ client.inFlight, frame.isResume = true) →
    client.screen = session.stream.take client.renderedOffset

/-- The client's position is past output that it has not rendered and will not. -/
structure Lossy (client : SessionClient) : Prop where
  settled : (client.screen ++ shownBytes client.inFlight).length <
    settle client.renderedOffset client.inFlight
  fallback : client.linkUp = true → (∃ frame ∈ client.inFlight, frame.isResume = true) →
    client.screen.length < client.renderedOffset

section Cuts

variable {session next : Session} {client after : SessionClient} {action : SessionAction}

/-- The beginning of a stream without its last part is a shorter beginning. -/
theorem take_of_append {stream first last : Bytes} {length : Nat}
    (whole : first ++ last = stream.take (length + last.length))
    (within : length + last.length ≤ stream.length) : first = stream.take length := by
  have lengths := congrArg List.length whole
  rw [List.length_append, List.length_take, Nat.min_eq_left within] at lengths
  have short : first.length = length := by omega
  calc first = (first ++ last).take length := by rw [← short, List.take_left]
    _ = stream.take length := by rw [whole, List.take_take, Nat.min_eq_left (by omega)]

/-- A cut that loses the new position loses everything on the link. -/
theorem take_of_resume_lost (alone : Alone session client) (up : client.linkUp = true) {kept : Nat}
    (lost : ∃ frame ∈ client.inFlight.drop kept, frame.isResume = true) :
    client.inFlight.take kept = [] := by
  obtain ⟨frame, there, resumes⟩ := lost
  cases kept with
  | zero => rfl
  | succ kept =>
    -- Only the first frame can be a new position, and it was kept.
    rw [← List.drop_tail] at there
    have old := alone.first up frame (List.mem_of_mem_drop there)
    rw [resumes] at old
    exact absurd old (by decide)

/-- What a cut loses counts for the client's position as live output. -/
theorem settle_of_kept {offset kept : Nat} {frames : List SessionFrame}
    (noResume : ¬ ∃ frame ∈ frames.drop kept, frame.isResume = true) :
    settle offset frames = settle offset (frames.take kept) +
      (liveBytes (frames.drop kept)).length := by
  have none : ∀ frame ∈ frames.drop kept, frame.isResume = false := by
    intro frame there
    by_contra resumes
    exact noResume ⟨frame, there, by simpa using resumes⟩
  rw [← settle_eq_of_noResume none, ← settle_append, List.take_append_drop]

theorem shownBytes_of_kept (kept : Nat) (frames : List SessionFrame) :
    shownBytes frames = shownBytes (frames.take kept) ++ shownBytes (frames.drop kept) := by
  rw [← shownBytes_append, List.take_append_drop]

/-- The client's position after everything in flight is within the stream. -/
theorem Alone.settle_le (alone : Alone session client) :
    settle client.renderedOffset client.inFlight ≤ session.stream.length := by
  rw [← alone.agreed.retains.total]
  exact bounded_settle (alone.agreed.bounded 0 client (by rw [alone.only]; rfl))

/-- Delivering a frame moves what it shows from the link to the screen. -/
theorem delivered_screen {frame : SessionFrame} {later : List SessionFrame}
    (queued : client.inFlight = frame :: later) :
    ({ client with inFlight := later }.handleServerFrame frame).screen ++
        shownBytes ({ client with inFlight := later }.handleServerFrame frame).inFlight =
      client.screen ++ shownBytes client.inFlight := by
  rw [handleServerFrame_screen, SessionClient.handleServerFrame_inFlight, queued,
    shownBytes_cons frame later, List.append_assoc]

/-- The delivery of the oldest frame leaves where the offset settles. -/
theorem delivered_settle {frame : SessionFrame} {later : List SessionFrame}
    (queued : client.inFlight = frame :: later) :
    settle ({ client with inFlight := later }.handleServerFrame frame).renderedOffset
        ({ client with inFlight := later }.handleServerFrame frame).inFlight =
      settle client.renderedOffset client.inFlight := by
  rw [SessionClient.handleServerFrame_renderedOffset, SessionClient.handleServerFrame_inFlight,
    queued]
  rfl

/-- After the first frame no new position is on its way. -/
theorem delivered_noResume (alone : Alone session client) {frame : SessionFrame}
    {later : List SessionFrame} (queued : client.inFlight = frame :: later)
    (up : ({ client with inFlight := later }.handleServerFrame frame).linkUp = true) :
    ¬ ∃ other ∈ ({ client with inFlight := later }.handleServerFrame frame).inFlight,
      other.isResume = true := by
  rintro ⟨other, there, resumes⟩
  rw [SessionClient.handleServerFrame_linkUp] at up
  rw [SessionClient.handleServerFrame_inFlight] at there
  have old := alone.first up other (by rw [queued]; exact there)
  rw [resumes] at old
  exact absurd old (by decide)

/-- A new position on a link to which output was added was there before. -/
theorem resume_of_sent {chunk : Bytes}
    (resumes : ∃ frame ∈ client.inFlight ++ [.data chunk], frame.isResume = true) :
    ∃ frame ∈ client.inFlight, frame.isResume = true := by
  obtain ⟨frame, there, isResume⟩ := resumes
  rcases List.mem_append.mp there with old | new
  · exact ⟨frame, old, isResume⟩
  · rw [List.mem_singleton.mp new] at isResume
    exact absurd isResume (by simp [SessionFrame.isResume])

/-- A client that gets a new position and notices ends up at that position. -/
theorem settle_resume {offset position : Nat} {sync : Bytes} {frames : List SessionFrame}
    (notices : SessionOutput.Notices frames) :
    settle offset (.resume position :: .notice sync false :: frames) = position := by
  show settle position frames = position
  exact SessionOutput.settle_notices notices

/-- An action that spares replays keeps the client complete. -/
theorem complete_change (alone : Alone session client) (complete : Complete session client)
    (met : session.SparesReplays action) (change : Change session client action next after) :
    Complete next after := by
  have within := alone.settle_le
  cases change with
  | @sent _ chunk up level stream =>
    refine ⟨?_, ?_⟩
    · -- The client is level with the stream, so it gets the next bytes of it.
      have all := complete.settled
      rw [level, List.take_length] at all
      rw [stream, settle_append, level, shownBytes_append, ← List.append_assoc, all]
      simp [settle, SessionFrame.move, shownBytes]
    · intro _ resumes
      have shown := complete.fallback up (resume_of_sent resumes)
      have behind := bounded_first
        (alone.agreed.bounded 0 client (by rw [alone.only]; rfl))
      rw [Session.total, alone.agreed.retains.total] at behind
      rw [stream, List.take_append_of_le_length behind]
      exact shown
  | @missed _ chunk stream =>
    have behind := bounded_first (alone.agreed.bounded 0 client (by rw [alone.only]; rfl))
    rw [Session.total, alone.agreed.retains.total] at behind
    refine ⟨?_, fun up resumes => ?_⟩
    · rw [stream, List.take_append_of_le_length within]
      exact complete.settled
    · rw [stream, List.take_append_of_le_length behind]
      exact complete.fallback up resumes
  | delivered queued stream =>
    refine ⟨?_, fun up resumes => absurd resumes (delivered_noResume alone queued up)⟩
    rw [delivered_screen queued, delivered_settle queued, stream]
    exact complete.settled
  | @cut _ kept up stream =>
    refine ⟨?_, fun up => absurd up (by simp)⟩
    rw [stream]
    by_cases resumeLost : ∃ frame ∈ client.inFlight.drop kept, frame.isResume = true
    · -- The client keeps its old position, and has rendered up to there.
      rw [take_of_resume_lost alone up resumeLost]
      obtain ⟨frame, there, resumes⟩ := resumeLost
      rw [show shownBytes [] = [] from rfl, List.append_nil]
      exact complete.fallback up ⟨frame, List.mem_of_mem_drop there, resumes⟩
    · -- What is lost is live output, for which the position does not move.
      have noReplay : ∀ frame ∈ client.inFlight.drop kept, frame.isReplay = false :=
        (met client (by rw [alone.only]; rfl)).resolve_left resumeLost
      have all := complete.settled
      rw [settle_of_kept resumeLost, shownBytes_of_kept kept, ← List.append_assoc,
        shownBytes_eq_liveBytes noReplay] at all
      rw [settle_of_kept resumeLost] at within
      exact take_of_append all within
  | closed stream =>
    refine ⟨?_, fun up => absurd up (by simp [SessionClient.close])⟩
    rw [stream]
    exact complete.settled
  | @replayed _ _ _ _ _ _ sync frames empty stream rest notices =>
    have all := complete.settled
    rw [empty, show shownBytes [] = [] from rfl, List.append_nil] at all
    have shown : client.screen = session.stream.take client.renderedOffset := all
    refine ⟨?_, fun _ _ => by rw [stream]; exact shown⟩
    have settled : settle client.renderedOffset
        (.resume session.stream.length :: .notice sync false :: frames) =
          session.stream.length :=
      settle_resume notices
    rw [settled, stream, List.take_length]
    show client.screen ++ shownBytes frames = session.stream
    rw [rest, shown, List.take_append_drop]

/-- An action that loses replayed output leaves the client with a gap. -/
theorem lossy_of_unspared (alone : Alone session client) (complete : Complete session client)
    (unmet : ¬ session.SparesReplays action) (change : Change session client action next after) :
    Lossy after := by
  cases change with
  | @cut _ kept up stream =>
    refine ⟨?_, fun up => absurd up (by simp)⟩
    simp only [SparesReplays, not_forall, not_or] at unmet
    obtain ⟨victim, found, resumeKept, frame, there, replayed⟩ := unmet
    obtain ⟨-, rfl⟩ := alone.found found
    -- The lost frames show more than they count for the position.
    have more : (liveBytes (victim.inFlight.drop kept)).length <
        (shownBytes (victim.inFlight.drop kept)).length := by
      cases frame with
      | notice bytes isReplay =>
        obtain rfl : isReplay = true := by simpa [SessionFrame.isReplay] using replayed
        exact liveBytes_lt_shownBytes there
          (alone.replays bytes (List.mem_of_mem_drop there))
      | _ => exact absurd rfl replayed
    have lengths := congrArg List.length complete.settled
    rw [List.length_take, Nat.min_eq_left alone.settle_le, settle_of_kept resumeKept,
      shownBytes_of_kept kept, ← List.append_assoc, List.length_append] at lengths
    show (victim.screen ++ shownBytes (victim.inFlight.take kept)).length <
      settle victim.renderedOffset (victim.inFlight.take kept)
    omega
  | _ => exact absurd trivial unmet

/-- A gap never closes. -/
theorem lossy_change (alone : Alone session client) (lossy : Lossy client)
    (change : Change session client action next after) : Lossy after := by
  have short := lossy.settled
  cases change with
  | @sent _ chunk up level stream =>
    refine ⟨?_, fun _ resumes => lossy.fallback up (resume_of_sent resumes)⟩
    rw [settle_append, shownBytes_append, ← List.append_assoc, List.length_append]
    have chunkOnly : shownBytes [.data chunk] = chunk := List.append_nil chunk
    rw [chunkOnly]
    exact Nat.add_lt_add_right short chunk.length
  | missed stream => exact lossy
  | delivered queued stream =>
    refine ⟨?_, fun up resumes => absurd resumes (delivered_noResume alone queued up)⟩
    rw [delivered_screen queued, delivered_settle queued]
    exact short
  | @cut _ kept up stream =>
    refine ⟨?_, fun up => absurd up (by simp)⟩
    by_cases resumeLost : ∃ frame ∈ client.inFlight.drop kept, frame.isResume = true
    · -- Even the old position is past what was rendered.
      rw [take_of_resume_lost alone up resumeLost]
      obtain ⟨frame, there, resumes⟩ := resumeLost
      rw [show shownBytes [] = [] from rfl, List.append_nil]
      exact lossy.fallback up ⟨frame, List.mem_of_mem_drop there, resumes⟩
    · have atLeast := liveBytes_le_shownBytes (client.inFlight.drop kept)
      rw [settle_of_kept resumeLost, shownBytes_of_kept kept, ← List.append_assoc,
        List.length_append] at short
      show (client.screen ++ shownBytes (client.inFlight.take kept)).length <
        settle client.renderedOffset (client.inFlight.take kept)
      omega
  | closed stream => exact ⟨short, fun up => absurd up (by simp [SessionClient.close])⟩
  | @replayed _ _ _ _ _ _ sync frames empty stream rest notices =>
    rw [empty, show shownBytes [] = [] from rfl, List.append_nil] at short
    have behind : client.screen.length < client.renderedOffset := short
    refine ⟨?_, fun _ _ => behind⟩
    have settled : settle client.renderedOffset
        (.resume session.stream.length :: .notice sync false :: frames) =
          session.stream.length :=
      settle_resume notices
    have within := alone.settle_le
    rw [empty] at within
    have known : client.renderedOffset ≤ session.stream.length := within
    rw [settled]
    show (client.screen ++ shownBytes frames).length < session.stream.length
    rw [rest, List.length_append, List.length_drop]
    omega

end Cuts

/-- A complete client that everything has reached shows the stream. -/
theorem shows_of_complete {session : Session} {client : SessionClient}
    (alone : Alone session client) (complete : Complete session client) :
    session.ShowsStream := by
  intro index other attached found up empty
  obtain ⟨rfl, rfl⟩ := alone.found found
  have level := alone.agreed.level 0 other attached found up
  have shown := complete.settled
  rw [level, Session.total, alone.agreed.retains.total, List.take_length, empty,
    show shownBytes [] = [] from rfl, List.append_nil] at shown
  exact shown

/-- A client with a gap does not. -/
theorem not_shows_of_drained {session : Session} {client : SessionClient}
    (alone : Alone session client) (lossy : Lossy client) (drained : session.Drained) :
    ¬ session.ShowsStream := by
  intro shows
  obtain ⟨index, other, attached, found, up, empty⟩ := drained
  obtain ⟨rfl, rfl⟩ := alone.found found
  have shown := shows 0 other attached found up empty
  have level := alone.agreed.level 0 other attached found up
  have short := lossy.settled
  rw [level, Session.total, alone.agreed.retains.total, empty,
    show shownBytes [] = [] from rfl, List.append_nil, shown] at short
  exact absurd short (Nat.lt_irrefl _)

theorem alone_new (cap : Nat) : Alone (.new cap) .new where
  agreed := agreed_new cap
  only := rfl
  main := rfl
  plain := fun there => absurd there (by simp [new])
  first := fun _ _ there => absurd there (by simp [SessionClient.new])
  replays := fun _ there => absurd there (by simp [SessionClient.new])

/-- The client has no gap. -/
def Whole (session : Session) : Prop := ∃ client, Alone session client ∧ Complete session client

/-- The client has a gap. -/
def Gapped (session : Session) : Prop := ∃ client, Alone session client ∧ Lossy client

theorem whole_new (cap : Nat) : Whole (.new cap) :=
  ⟨.new, alone_new cap, ⟨rfl, fun _ _ => rfl⟩⟩

end Session

/--
A client that comes back after every cut has rendered exactly the session's output, whenever everything sent to it has arrived, if and only if no cut lost replayed output and spared the client's new position.
-/
theorem showsStream_iff (chrome : Chrome) (cap : Nat) {actions : List SessionAction}
    {last : Session}
    (ran : (sessionMachine chrome cap).run (sessionMachine chrome cap).init actions = some last)
    (plain : (sessionMachine chrome cap).Meets Session.PlainReconnects
      (sessionMachine chrome cap).init actions)
    (drained : last.Drained) :
    last.ShowsStream ↔ (sessionMachine chrome cap).Meets Session.SparesReplays
      (sessionMachine chrome cap).init actions := by
  have ended : ((sessionMachine chrome cap).Meets Session.SparesReplays
        (sessionMachine chrome cap).init actions ∧ Session.Whole last) ∨
      (¬ (sessionMachine chrome cap).Meets Session.SparesReplays
        (sessionMachine chrome cap).init actions ∧ Session.Gapped last) := by
    refine Machine.run_dichotomy ?_ ?_ ?_ (Session.whole_new cap) plain ran
    · rintro session action next ⟨client, alone, complete⟩ inside met stepped
      obtain ⟨after, stays, change⟩ := Session.alone_step alone inside stepped
      exact ⟨after, stays, Session.complete_change alone complete met change⟩
    · rintro session action next ⟨client, alone, complete⟩ inside unmet stepped
      obtain ⟨after, stays, change⟩ := Session.alone_step alone inside stepped
      exact ⟨after, stays, Session.lossy_of_unspared alone complete unmet change⟩
    · rintro session action next ⟨client, alone, lossy⟩ inside stepped
      obtain ⟨after, stays, change⟩ := Session.alone_step alone inside stepped
      exact ⟨after, stays, Session.lossy_change alone lossy change⟩
  rcases ended with ⟨spared, client, alone, complete⟩ | ⟨unspared, client, alone, lossy⟩
  · exact ⟨fun _ => spared, fun _ => Session.shows_of_complete alone complete⟩
  · exact ⟨fun shows => absurd shows (Session.not_shows_of_drained alone lossy drained),
      fun spared => absurd spared unspared⟩

/-- Terminal texts for outputs that fit a line: nothing to restore, and sizes in bytes. -/
def shortChrome : Chrome :=
  { cursorRestore := fun _ _ => [], formatSize := fun size => toString size ++ " B" }

/-- Output arrives, the link is cut, and what is written meanwhile is replayed and arrives. -/
def arrivingReplay : List SessionAction :=
  [.output [0x61], .deliver 0, .cut 0 0, .output [0x62], .reattach 0 false 80 24 [],
    .deliver 0, .deliver 0, .deliver 0]

/-- A replay that still arrives after a cut is shown as the stream has it. -/
theorem showsStream_iff_arriving :
    ∃ last, (sessionMachine shortChrome 16).run (sessionMachine shortChrome 16).init
        arrivingReplay = some last ∧ last.stream = [0x61, 0x62] ∧
      (last.ShowsStream ↔ (sessionMachine shortChrome 16).Meets Session.SparesReplays
        (sessionMachine shortChrome 16).init arrivingReplay) := by
  refine ⟨_, rfl, rfl, showsStream_iff shortChrome 16 rfl ?_ ⟨0, _, rfl, rfl, rfl, rfl⟩⟩
  -- The outputs are plain, and the reconnect finds its position retained.
  refine Machine.meets_cons (show escByte ∉ _ by decide) rfl (Machine.meets_cons trivial rfl
    (Machine.meets_cons trivial rfl (Machine.meets_cons (show escByte ∉ _ by decide) rfl
      (Machine.meets_cons ⟨rfl, ?_⟩ rfl (Machine.meets_cons trivial rfl
        (Machine.meets_cons trivial rfl (Machine.meets_cons trivial rfl trivial)))))))
  intro returning found
  rw [← Option.some.inj found]
  decide

/-- The link is cut again after the new position has arrived and before the replayed output has. -/
def lostReplay : List SessionAction :=
  [.output [0x61], .cut 0 0, .reattach 0 false 80 24 [], .deliver 0, .cut 0 0,
    .reattach 0 false 80 24 [], .deliver 0, .deliver 0]

/-- After it everything sent has arrived, and the client has not rendered the byte. -/
theorem byte_lost_after_lostReplay :
    ¬ ∀ chrome cap actions last,
      (sessionMachine chrome cap).run (sessionMachine chrome cap).init actions = some last →
      (sessionMachine chrome cap).Meets Session.PlainReconnects (sessionMachine chrome cap).init
        actions → last.ShowsStream := by
  intro always
  have shows := always shortChrome 16 lostReplay _ rfl ?_ 0 _ rfl rfl rfl rfl
  · exact absurd shows (by decide)
  · refine Machine.meets_cons (show escByte ∉ _ by decide) rfl (Machine.meets_cons trivial rfl
      (Machine.meets_cons ⟨rfl, ?_⟩ rfl (Machine.meets_cons trivial rfl
        (Machine.meets_cons trivial rfl (Machine.meets_cons ⟨rfl, ?_⟩ rfl
          (Machine.meets_cons trivial rfl (Machine.meets_cons trivial rfl trivial)))))))
    all_goals
      intro returning found
      rw [← Option.some.inj found]
      decide

end Gritty
