import Gritty.Session.System

/-! The client's count of a session's output and the server's agree, over every reconnect. -/

namespace Gritty

/-- A client's position after a frame. -/
def SessionFrame.move (offset : Nat) : SessionFrame → Nat
  | .data bytes => offset + bytes.length
  | .resume position => position
  | .notice _ _ => offset
  | .detached => offset

/-- A client's position after every frame on its way to it. -/
def settle (offset : Nat) (frames : List SessionFrame) : Nat := frames.foldl SessionFrame.move offset

/-- A client's position never passes a limit, now or after any of the frames on its way. -/
def Bounded (limit offset : Nat) : List SessionFrame → Prop
  | [] => offset ≤ limit
  | frame :: later => offset ≤ limit ∧ Bounded limit (frame.move offset) later

theorem bounded_first {limit offset : Nat} {frames : List SessionFrame}
    (bounded : Bounded limit offset frames) : offset ≤ limit := by
  cases frames with
  | nil => exact bounded
  | cons frame later => exact bounded.1

theorem settle_append (offset : Nat) (first second : List SessionFrame) :
    settle offset (first ++ second) = settle (settle offset first) second :=
  List.foldl_append

/-- Frames stay within a limit when the first ones do, and the later ones from where these end. -/
theorem bounded_append {limit offset : Nat} {first second : List SessionFrame} :
    Bounded limit offset (first ++ second) ↔
      Bounded limit offset first ∧ Bounded limit (settle offset first) second := by
  induction first generalizing offset with
  | nil => exact ⟨fun bounded => ⟨bounded_first bounded, bounded⟩, And.right⟩
  | cons frame first ih =>
    simp only [List.cons_append, Bounded, settle, List.foldl_cons]
    rw [ih, and_assoc]
    rfl

/-- A limit may grow. -/
theorem bounded_mono {limit larger offset : Nat} {frames : List SessionFrame}
    (bounded : Bounded limit offset frames) (grows : limit ≤ larger) :
    Bounded larger offset frames := by
  induction frames generalizing offset with
  | nil => exact Nat.le_trans bounded grows
  | cons frame later ih => exact ⟨Nat.le_trans bounded.1 grows, ih bounded.2⟩

/-- Losing the newest frames keeps the limit. -/
theorem bounded_take {limit offset : Nat} {frames : List SessionFrame}
    (bounded : Bounded limit offset frames) (kept : Nat) :
    Bounded limit offset (frames.take kept) := by
  rw [← List.take_append_drop kept frames, bounded_append] at bounded
  exact bounded.1

/-- A limit for every position on the way is one for the last. -/
theorem bounded_settle {limit offset : Nat} {frames : List SessionFrame}
    (bounded : Bounded limit offset frames) : settle offset frames ≤ limit := by
  rw [← List.append_nil frames, bounded_append] at bounded
  exact bounded.2

/-- Frames that set no position move a client by the live output they carry. -/
theorem settle_eq_of_noResume {offset : Nat} {frames : List SessionFrame}
    (noResume : ∀ frame ∈ frames, frame.isResume = false) :
    settle offset frames = offset + (liveBytes frames).length := by
  induction frames generalizing offset with
  | nil => rfl
  | cons frame later ih =>
    have rest : settle (frame.move offset) later
        = frame.move offset + (liveBytes later).length :=
      ih fun other there => noResume other (List.mem_cons_of_mem frame there)
    rw [settle, List.foldl_cons]
    rw [settle] at rest
    rw [rest]
    have first := noResume frame List.mem_cons_self
    cases frame with
    | resume position => exact absurd first (by simp [SessionFrame.isResume])
    | data bytes => simp [SessionFrame.move, liveBytes, Nat.add_assoc]
    | notice bytes replayed => simp [SessionFrame.move, liveBytes]
    | detached => simp [SessionFrame.move, liveBytes]

/-- Frames that set no position stay below a limit that the last of them stays below. -/
theorem bounded_of_noResume {limit offset : Nat} {frames : List SessionFrame}
    (noResume : ∀ frame ∈ frames, frame.isResume = false)
    (within : offset + (liveBytes frames).length ≤ limit) : Bounded limit offset frames := by
  induction frames generalizing offset with
  | nil => exact within
  | cons frame later ih =>
    have first := noResume frame List.mem_cons_self
    refine ⟨by omega, ih (fun other there => noResume other (List.mem_cons_of_mem frame there)) ?_⟩
    cases frame with
    | resume position => exact absurd first (by simp [SessionFrame.isResume])
    | data bytes =>
      simp only [liveBytes, List.map_cons, List.flatten_cons, List.length_append] at within
      simp only [SessionFrame.move, liveBytes]
      omega
    | notice bytes replayed => simpa [SessionFrame.move, liveBytes] using within
    | detached => simpa [SessionFrame.move, liveBytes] using within

namespace SessionClient

@[simp] theorem handleServerFrame_renderedOffset (client : SessionClient) (frame : SessionFrame) :
    (client.handleServerFrame frame).renderedOffset = frame.move client.renderedOffset := by
  cases frame with
  | notice bytes replayed => cases replayed <;> rfl
  | _ => rfl

@[simp] theorem handleServerFrame_inFlight (client : SessionClient) (frame : SessionFrame) :
    (client.handleServerFrame frame).inFlight = client.inFlight := by
  cases frame with
  | notice bytes replayed => cases replayed <;> rfl
  | _ => rfl

@[simp] theorem handleServerFrame_linkUp (client : SessionClient) (frame : SessionFrame) :
    (client.handleServerFrame frame).linkUp = client.linkUp := by
  cases frame with
  | notice bytes replayed => cases replayed <;> rfl
  | _ => rfl

end SessionClient

/-! ### What a replay sends -/

namespace SessionOutput

theorem capture_history (output : SessionOutput) (chunk : Bytes) :
    (output.capture chunk).history = output.history.push chunk := rfl

/-- Captured output goes to the history. -/
theorem capture_retains {output : SessionOutput} {stream : Bytes}
    (retains : output.history.Retains stream) (chunks : List Bytes) :
    (chunks.foldl capture output).history.Retains (stream ++ chunks.flatten) := by
  induction chunks generalizing output stream with
  | nil => rwa [List.flatten_nil, List.append_nil]
  | cons chunk later ih =>
    rw [List.flatten_cons, ← List.append_assoc]
    exact ih (retains.push chunk)

/-- Frames that a client renders and does not count. -/
def Notices (frames : List SessionFrame) : Prop :=
  ∀ frame ∈ frames, ∃ bytes replayed, frame = .notice bytes replayed

theorem notices_append {first second : List SessionFrame} (before : Notices first)
    (after : Notices second) : Notices (first ++ second) := by
  intro frame there
  rcases List.mem_append.mp there with inFirst | inSecond
  · exact before frame inFirst
  · exact after frame inSecond

theorem notices_singleton (bytes : Bytes) (replayed : Bool) :
    Notices [.notice bytes replayed] := by
  intro frame there
  exact ⟨bytes, replayed, List.mem_singleton.mp there⟩

theorem notices_sendScrubbed (chunks : List Bytes) : Notices (sendScrubbed chunks) := by
  intro frame sent
  obtain ⟨bytes, _, rfl⟩ := List.mem_map.mp sent
  exact ⟨bytes, true, rfl⟩

/-- Notices carry no live output. -/
theorem liveBytes_notices {frames : List SessionFrame} (notices : Notices frames) :
    liveBytes frames = [] := by
  apply List.flatten_eq_nil_iff.mpr
  intro bytes listed
  obtain ⟨frame, there, rfl⟩ := List.mem_map.mp listed
  obtain ⟨_, _, rfl⟩ := notices frame there
  rfl

theorem noResume_notices {frames : List SessionFrame} (notices : Notices frames) :
    ∀ frame ∈ frames, frame.isResume = false := by
  intro frame there
  obtain ⟨_, _, rfl⟩ := notices frame there
  rfl

/-- Notices do not move a client. -/
theorem settle_notices {offset : Nat} {frames : List SessionFrame} (notices : Notices frames) :
    settle offset frames = offset := by
  rw [settle_eq_of_noResume (noResume_notices notices), liveBytes_notices notices,
    List.length_nil, Nat.add_zero]

theorem liveBytes_append (first second : List SessionFrame) :
    liveBytes (first ++ second) = liveBytes first ++ liveBytes second := by
  rw [liveBytes, List.map_append, List.flatten_append]
  rfl

theorem liveBytes_data (chunks : List Bytes) : liveBytes (chunks.map .data) = chunks.flatten := by
  rw [liveBytes, List.map_map]
  exact congrArg List.flatten (List.map_id chunks)

/-- A replay sets the client's position to the end of the stream first. After that come notices. -/
theorem replaySends_shape (chrome : Chrome) (output : SessionOutput) (request : AttachRequest) :
    ∃ notices : List SessionFrame, (output.replaySends chrome request).frames =
      .resume output.history.total :: notices ∧ Notices notices := by
  have fits := planReplay_fits request.renderedOffset request.isFresh
    output.altScreen.inAlternateScreen output.history.base output.history.total
  -- The modes are the first notice of every plan.
  have modes := notices_singleton output.termModes.syncSequence false
  unfold replaySends
  split
  · next offset planned =>
    rw [planned] at fits
    obtain ⟨_, rfl⟩ := fits
    exact ⟨_, rfl, notices_append modes (notices_singleton _ false)⟩
  · next offset planned =>
    rw [planned] at fits
    obtain ⟨_, _, rfl⟩ := fits
    exact ⟨_, rfl, notices_append modes
      (notices_append (notices_singleton _ false) (notices_sendScrubbed _))⟩
  · next offset planned =>
    have restored : Notices (if request.lineDirty then
        [.notice (chrome.cursorRestore output.history offset) false] else []) := by
      split
      · exact notices_singleton _ false
      · exact fun frame there => absurd there (by simp)
    exact ⟨_, rfl, notices_append (notices_append modes restored) (notices_sendScrubbed _)⟩
  · next offset dropped planned =>
    exact ⟨_, rfl, notices_append modes
      (notices_append (notices_singleton _ false) (notices_sendScrubbed _))⟩

/-- After the notices comes what the program wrote while it repainted, which the history has too. -/
theorem sendReconnectReplay_shape (chrome : Chrome) {output : SessionOutput} {stream : Bytes}
    (retains : output.history.Retains stream) (request : AttachRequest) (redraw : List Bytes) :
    ∃ (notices : List SessionFrame) (chunks : List Bytes),
      (output.sendReconnectReplay chrome request redraw).2 =
        .resume output.history.total :: (notices ++ chunks.map .data) ∧ Notices notices ∧
      (output.sendReconnectReplay chrome request redraw).1.history.Retains
        (stream ++ chunks.flatten) := by
  obtain ⟨notices, frames, only⟩ := replaySends_shape chrome output request
  have alone : SessionFrame.resume output.history.total :: notices =
      .resume output.history.total :: (notices ++ ([] : List Bytes).map .data) := by
    rw [List.map_nil, List.append_nil]
  have unchanged : output.history.Retains (stream ++ ([] : List Bytes).flatten) := by
    rwa [List.flatten_nil, List.append_nil]
  rw [sendReconnectReplay_eq, frames]
  -- Only a repaint adds output to the history.
  cases (output.replaySends chrome request).after with
  | done => exact ⟨notices, [], alone, only, unchanged⟩
  | clearScrollback => exact ⟨notices, [], alone, only, unchanged⟩
  | redraw => exact ⟨notices, redraw, rfl, only, capture_retains retains redraw⟩

/-- Notices with data behind them hold no resume. -/
theorem noResume_shape {notices : List SessionFrame} (only : Notices notices)
    (chunks : List Bytes) : ∀ frame ∈ notices ++ chunks.map .data, frame.isResume = false := by
  intro frame there
  rcases List.mem_append.mp there with notice | data
  · exact noResume_notices only frame notice
  · obtain ⟨_, _, rfl⟩ := List.mem_map.mp data
    rfl

end SessionOutput

/-! ### The invariant -/

namespace Session

/-- What the session has output so far. -/
def total (session : Session) : Nat := session.output.history.total

/-- No client is ahead of the stream, and the attached one will be level with it. -/
structure Agreed (session : Session) : Prop where
  retains : session.output.history.Retains session.stream
  present : ∀ (index : Nat), session.attached = some index → index < session.clients.length
  bounded : ∀ (index : Nat) (client : SessionClient), session.clients[index]? = some client →
    Bounded session.total client.renderedOffset client.inFlight
  level : ∀ (index : Nat) (client : SessionClient), session.attached = some index →
    session.clients[index]? = some client → client.linkUp = true →
      settle client.renderedOffset client.inFlight = session.total

/-- A client found after a change to one of them is that one, changed, or is as it was. -/
theorem modifyClient_found {session : Session} {changed index : Nat}
    {change : SessionClient → SessionClient} {client : SessionClient}
    (found : (session.modifyClient changed change).clients[index]? = some client) :
    ∃ before, session.clients[index]? = some before ∧
      (changed = index ∧ client = change before ∨ changed ≠ index ∧ client = before) := by
  rw [modifyClient, List.getElem?_modify] at found
  obtain ⟨before, there, same⟩ := Option.map_eq_some_iff.mp found
  refine ⟨before, there, ?_⟩
  by_cases here : changed = index
  · rw [if_pos here] at same
    exact Or.inl ⟨here, same.symm⟩
  · rw [if_neg here] at same
    exact Or.inr ⟨here, same.symm⟩

@[simp] theorem modifyClient_length (session : Session) (changed : Nat)
    (change : SessionClient → SessionClient) :
    (session.modifyClient changed change).clients.length = session.clients.length :=
  List.length_modify _ _ _

@[simp] theorem modifyAttached_length (session : Session)
    (change : SessionClient → SessionClient) :
    (session.modifyAttached change).clients.length = session.clients.length := by
  unfold modifyAttached
  split
  · exact modifyClient_length _ _ _
  · rfl

@[simp] theorem modifyAttached_attached (session : Session)
    (change : SessionClient → SessionClient) :
    (session.modifyAttached change).attached = session.attached := by
  unfold modifyAttached
  split <;> rfl

/-- A client after a change of the attached one is that one changed, or another as before. -/
theorem modifyAttached_found {session : Session} {index : Nat}
    {change : SessionClient → SessionClient} {client : SessionClient}
    (found : (session.modifyAttached change).clients[index]? = some client) :
    ∃ before, session.clients[index]? = some before ∧
      (session.attached = some index ∧ client = change before ∨
        session.attached ≠ some index ∧ client = before) := by
  unfold modifyAttached at found
  split at found
  · next attached here =>
    rw [here]
    obtain ⟨before, there, same | other⟩ := modifyClient_found found
    · exact ⟨before, there, Or.inl ⟨by rw [same.1], same.2⟩⟩
    · exact ⟨before, there, Or.inr ⟨fun equal => other.1 (Option.some.inj equal), other.2⟩⟩
  · next none =>
    rw [none]
    exact ⟨client, found, Or.inr ⟨by simp, rfl⟩⟩

section Steps

variable {session : Session}

/-- A new session agrees with its client. -/
theorem agreed_new (cap : Nat) : Agreed (.new cap) where
  retains := History.retains_new cap
  present := by
    intro index attached
    obtain rfl : 0 = index := Option.some.inj attached
    exact Nat.one_pos
  bounded := by
    intro index client found
    obtain ⟨_, rfl⟩ : index = 0 ∧ client = .new := by
      cases index with
      | zero => exact ⟨rfl, (Option.some.inj found).symm⟩
      | succ index => simp [new] at found
    exact Nat.le_refl 0
  level := by
    intro index client _ found _
    obtain ⟨_, rfl⟩ : index = 0 ∧ client = .new := by
      cases index with
      | zero => exact ⟨rfl, (Option.some.inj found).symm⟩
      | succ index => simp [new] at found
    rfl

/-- Output goes to the history, and to the attached client if its link is up. -/
theorem agreed_output (agreed : Agreed session) (chunk : Bytes) :
    Agreed { session.modifyAttached fun client => client.send [.data chunk] with
      output := session.output.capture chunk
      stream := session.stream ++ chunk } := by
  have grows : (session.output.capture chunk).history.total = session.total + chunk.length :=
    History.total_push session.output.history chunk
  refine ⟨agreed.retains.push chunk, ?_, ?_, ?_⟩
  · intro index attached
    rw [modifyAttached_attached] at attached
    rw [modifyAttached_length]
    exact agreed.present index attached
  · intro index client found
    change Bounded (session.output.capture chunk).history.total _ _
    rw [grows]
    obtain ⟨before, there, ⟨_, rfl⟩ | ⟨_, rfl⟩⟩ := modifyAttached_found found
    · have bounded := agreed.bounded index before there
      unfold SessionClient.send
      split
      · -- The chunk moves the client as far as it moves the stream.
        rw [bounded_append]
        refine ⟨bounded_mono bounded (Nat.le_add_right _ _), ?_⟩
        have settled := bounded_settle bounded
        simp only [Bounded, SessionFrame.move]
        omega
      · exact bounded_mono bounded (Nat.le_add_right _ _)
    · exact bounded_mono (agreed.bounded index client there) (Nat.le_add_right _ _)
  · intro index client attached found up
    have here : session.attached = some index := by
      rwa [modifyAttached_attached] at attached
    change settle _ _ = (session.output.capture chunk).history.total
    rw [grows]
    obtain ⟨before, there, ⟨_, rfl⟩ | ⟨apart, _⟩⟩ := modifyAttached_found found
    · unfold SessionClient.send at up ⊢
      split at up
      · next wasUp =>
        rw [if_pos wasUp, settle_append, agreed.level index before here there wasUp]
        rfl
      · next down => exact absurd up down
    · exact absurd here apart

/-- A client may lose or leave its link, and be told of things that do not move it. -/
theorem agreed_modify (agreed : Agreed session) {changed : Nat}
    {change : SessionClient → SessionClient}
    (bounded : ∀ client, Bounded session.total client.renderedOffset client.inFlight →
      Bounded session.total (change client).renderedOffset (change client).inFlight)
    (level : ∀ client, (change client).linkUp = true → client.linkUp = true ∧
      settle (change client).renderedOffset (change client).inFlight =
        settle client.renderedOffset client.inFlight) :
    Agreed (session.modifyClient changed change) where
  retains := agreed.retains
  present := by
    rw [modifyClient_length]
    exact agreed.present
  bounded := by
    intro index client found
    obtain ⟨before, there, ⟨_, rfl⟩ | ⟨_, rfl⟩⟩ := modifyClient_found found
    · exact bounded before (agreed.bounded index before there)
    · exact agreed.bounded index client there
  level := by
    intro index client attached found up
    obtain ⟨before, there, ⟨_, rfl⟩ | ⟨_, rfl⟩⟩ := modifyClient_found found
    · obtain ⟨wasUp, same⟩ := level before up
      rw [same]
      exact agreed.level index before attached there wasUp
    · exact agreed.level index client attached there up

/-- A client reads the oldest frame on its connection. -/
theorem agreed_deliver (agreed : Agreed session) {receiving : Nat} {receiver : SessionClient}
    {frame : SessionFrame} {later : List SessionFrame}
    (there : session.clients[receiving]? = some receiver)
    (queued : receiver.inFlight = frame :: later) :
    Agreed (session.modifyClient receiving fun receiver =>
      { receiver with inFlight := later }.handleServerFrame frame) where
  retains := agreed.retains
  present := by
    rw [modifyClient_length]
    exact agreed.present
  bounded := by
    intro index client found
    obtain ⟨before, earlier, ⟨rfl, rfl⟩ | ⟨_, rfl⟩⟩ := modifyClient_found found
    · obtain rfl := Option.some.inj (there.symm.trans earlier)
      have bounded := agreed.bounded receiving receiver there
      rw [queued] at bounded
      simp only [SessionClient.handleServerFrame_renderedOffset,
        SessionClient.handleServerFrame_inFlight]
      exact bounded.2
    · exact agreed.bounded index client earlier
  level := by
    intro index client attached found up
    obtain ⟨before, earlier, ⟨rfl, rfl⟩ | ⟨_, rfl⟩⟩ := modifyClient_found found
    · obtain rfl := Option.some.inj (there.symm.trans earlier)
      simp only [SessionClient.handleServerFrame_linkUp] at up
      have level := agreed.level receiving receiver attached there up
      rw [queued] at level
      simp only [SessionClient.handleServerFrame_renderedOffset,
        SessionClient.handleServerFrame_inFlight]
      exact level
    · exact agreed.level index client attached earlier up

/-- A client is brought in sync, and the one attached before it is told and let go. -/
theorem agreed_attach (agreed : Agreed session) (chrome : Chrome) {connecting : Nat}
    (known : connecting < session.clients.length) (request : AttachRequest)
    (redraw : List Bytes) :
    Agreed (session.attach chrome connecting request redraw) := by
  obtain ⟨notices, chunks, sent, only, retains⟩ :=
    SessionOutput.sendReconnectReplay_shape chrome agreed.retains request redraw
  have noResume := SessionOutput.noResume_shape only chunks
  have live : liveBytes (notices ++ chunks.map .data) = chunks.flatten := by
    rw [SessionOutput.liveBytes_append, SessionOutput.liveBytes_notices only,
      SessionOutput.liveBytes_data, List.nil_append]
  have grown : (session.attach chrome connecting request redraw).total =
      session.total + chunks.flatten.length := by
    have length := retains.total
    rw [List.length_append, ← agreed.retains.total] at length
    exact length
  -- Who is not connecting has what it had, and perhaps a goodbye.
  have others : ∀ (index : Nat) (client : SessionClient),
      (session.modifyAttached fun old => (old.send [.detached]).close).clients[index]? =
        some client → Bounded session.total client.renderedOffset client.inFlight := by
    intro index client found
    obtain ⟨before, there, ⟨_, rfl⟩ | ⟨_, rfl⟩⟩ := modifyAttached_found found
    · have bounded := agreed.bounded index before there
      unfold SessionClient.close SessionClient.send
      split
      · exact bounded_append.mpr ⟨bounded, bounded_settle bounded, bounded_settle bounded⟩
      · exact bounded
    · exact agreed.bounded index client there
  refine ⟨?_, ?_, ?_, ?_⟩
  rotate_left
  · intro index attached
    obtain rfl : connecting = index := Option.some.inj attached
    show connecting < ((session.modifyAttached _).modifyClient connecting _).clients.length
    rwa [modifyClient_length, modifyAttached_length]
  rotate_right
  · show (session.output.sendReconnectReplay chrome request redraw).1.history.Retains
      (session.stream ++ liveBytes (session.output.sendReconnectReplay chrome request redraw).2)
    rw [sent]
    have carried : liveBytes (.resume session.output.history.total ::
        (notices ++ chunks.map .data)) = chunks.flatten := live
    rw [carried]
    exact retains
  · intro index client found
    rw [grown]
    obtain ⟨before, there, ⟨_, rfl⟩ | ⟨_, rfl⟩⟩ := modifyClient_found found
    · have first := bounded_first (others index before there)
      show Bounded _ before.renderedOffset
        (session.output.sendReconnectReplay chrome request redraw).2
      rw [sent]
      refine ⟨by omega, bounded_of_noResume noResume ?_⟩
      rw [live]
      exact Nat.le_refl _
    · exact bounded_mono (others index client there) (Nat.le_add_right _ _)
  · intro index client attached found _
    obtain rfl : connecting = index := Option.some.inj attached
    rw [grown]
    obtain ⟨before, _, ⟨_, rfl⟩ | ⟨apart, _⟩⟩ := modifyClient_found found
    · show settle before.renderedOffset
        (session.output.sendReconnectReplay chrome request redraw).2 = _
      have settled : settle session.total (notices ++ chunks.map .data) =
          session.total + (liveBytes (notices ++ chunks.map .data)).length :=
        settle_eq_of_noResume noResume
      rw [sent, ← live]
      exact settled
    · exact absurd rfl apart

/-- A client that has rendered nothing is not ahead of the stream. -/
theorem agreed_newcomer (agreed : Agreed session) :
    Agreed { session with clients := session.clients ++ [SessionClient.new] } := by
  refine ⟨agreed.retains, ?_, ?_, ?_⟩
  · intro index attached
    have known := agreed.present index attached
    simp only [List.length_append, List.length_singleton]
    omega
  · intro index client found
    rw [List.getElem?_append] at found
    split at found
    · exact agreed.bounded index client found
    · -- The newcomer has nothing in flight.
      have fresh := List.mem_of_getElem? found
      rw [List.mem_singleton.mp fresh]
      exact Nat.zero_le _
  · intro index client attached found up
    rw [List.getElem?_append_left (agreed.present index attached)] at found
    exact agreed.level index client attached found up

/-- Every action keeps the clients' counts in agreement with the stream. -/
theorem agreed_step (chrome : Chrome) (session : Session) (action : SessionAction)
    (next : Session) (agreed : Agreed session) (stepped : session.step chrome action = some next) :
    Agreed next := by
  cases action with
  | output chunk =>
    simp only [step] at stepped
    split at stepped
    · simp at stepped
    · cases stepped
      exact agreed_output agreed chunk
  | deliver receiving =>
    simp only [step] at stepped
    split at stepped
    · next receiver there =>
      split at stepped
      · next frame later queued =>
        split at stepped
        · simp at stepped
        · cases stepped
          exact agreed_deliver agreed there queued
      · simp at stepped
    · simp at stepped
  | cut victim kept =>
    simp only [step] at stepped
    split at stepped
    · split at stepped
      · cases stepped
        apply agreed_modify agreed
        · exact fun client bounded => bounded_take bounded kept
        · exact fun client up => absurd up (by simp)
      · simp at stepped
    · simp at stepped
  | clientGone =>
    simp only [step] at stepped
    split at stepped
    · next gone attached =>
      cases stepped
      have closed : Agreed (session.modifyClient gone (·.close)) := by
        apply agreed_modify agreed
        · exact fun client bounded => bounded
        · exact fun client up => absurd up (by simp [SessionClient.close])
      exact ⟨closed.retains, fun _ none => absurd none (by simp), closed.bounded,
        fun _ _ none => absurd none (by simp)⟩
    · simp at stepped
  | reattach returning lineDirty cols rows redraw =>
    simp only [step] at stepped
    split at stepped
    · next client there =>
      split at stepped
      · simp at stepped
      · cases stepped
        exact agreed_attach agreed chrome (List.getElem?_eq_some_iff.mp there).1 _ redraw
    · simp at stepped
  | connect cols rows redraw =>
    simp only [step] at stepped
    split at stepped
    · simp at stepped
    · cases stepped
      refine agreed_attach ?_ chrome (by simp) _ redraw
      exact agreed_newcomer agreed

end Steps

/-- What the client's count and the server's have to do with each other. -/
structure OffsetsAgree (session : Session) : Prop where
  /-- The attached client is not ahead of the stream. -/
  behind : ∀ (index : Nat) (client : SessionClient), session.attached = some index →
    session.clients[index]? = some client → client.renderedOffset ≤ session.total
  /-- Without a new position on its way, it is behind by the live output on its way. -/
  level : ∀ (index : Nat) (client : SessionClient), session.attached = some index →
    session.clients[index]? = some client → client.linkUp = true →
      (∀ frame ∈ client.inFlight, frame.isResume = false) →
        client.renderedOffset + (liveBytes client.inFlight).length = session.total
  /-- No client that comes back is taken for a fresh one. -/
  known : ∀ (index : Nat) (client : SessionClient), session.clients[index]? = some client →
    ∀ offset, planReplay client.renderedOffset false session.output.altScreen.inAlternateScreen
      session.output.history.base session.output.history.total ≠ .fresh offset
  /-- What a client that comes back is told it lost is what lies before the retained stream. -/
  lost : ∀ (index : Nat) (client : SessionClient), session.clients[index]? = some client →
    ∀ offset dropped, planReplay client.renderedOffset false
        session.output.altScreen.inAlternateScreen session.output.history.base
        session.output.history.total = .truncated offset dropped →
      offset = session.output.history.base ∧
        dropped = ((session.stream.take offset).drop client.renderedOffset).length

/-- Offsets agree wherever the session's account does. -/
theorem Agreed.offsetsAgree {session : Session} (agreed : Agreed session) :
    OffsetsAgree session where
  behind := fun index client _ there => bounded_first (agreed.bounded index client there)
  level := by
    intro index client attached there up noResume
    rw [← settle_eq_of_noResume noResume]
    exact agreed.level index client attached there up
  known := by
    intro index client there offset planned
    have fits := planReplay_fits client.renderedOffset false
      session.output.altScreen.inAlternateScreen session.output.history.base
      session.output.history.total
    rw [planned] at fits
    -- A plan for a fresh viewer would need an offset ahead of the stream.
    have behind := bounded_first (agreed.bounded index client there)
    rcases fits.2.1 with fresh | ahead
    · exact absurd fresh (by decide)
    · exact absurd behind (Nat.not_le.mpr ahead)
  lost := by
    intro index client there offset dropped planned
    have fits := planReplay_fits client.renderedOffset false
      session.output.altScreen.inAlternateScreen session.output.history.base
      session.output.history.total
    rw [planned] at fits
    obtain ⟨_, _, _, _, rfl, count⟩ := fits
    refine ⟨rfl, ?_⟩
    have within := session.output.history.base_le_total
    rw [agreed.retains.total] at within
    rw [List.length_drop, List.length_take, Nat.min_eq_left within]
    omega

end Session

/-- In every state of every run the counts agree, over cuts, reconnects, takeovers and repaints. -/
theorem offsetsAgree_along (chrome : Chrome) (cap : Nat) (actions : List SessionAction) :
    (sessionMachine chrome cap).Along Session.OffsetsAgree (sessionMachine chrome cap).init
      actions := by
  have start : Session.Agreed (sessionMachine chrome cap).init := Session.agreed_new cap
  refine Machine.along_of_meets ?_ ?_ start (Machine.meets_true _ actions)
  · exact fun session agreed => agreed.offsetsAgree
  · intro session action next agreed _ stepped
    exact Session.agreed_step chrome session action next agreed stepped

end Gritty
