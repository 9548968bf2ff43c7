import Gritty.Transfer.Stages

/-! When a sender and a receiver that race over several sessions end up at the same one. -/

namespace Gritty

namespace Meeting

/-- The sender and the receiver are at one session, neither has failed, and once nothing more can happen the receiver has all files. -/
structure Agreed (offer : FanOut) (meeting : Meeting) : Prop where
  same : ∀ session other, meeting.senderPick = some session →
    meeting.receiverPick = some other → session = other
  senderRuns : meeting.senderFailed = false
  receiverRuns : meeting.receiverFailed = false
  completes : (∀ action, meeting.step offer action = none) →
    ∃ session, meeting.senderPick = some session ∧ meeting.receiverPick = some session ∧
      meeting.unsent = [] ∧ receivedTransfer meeting.got =
        some (UInt32.ofNat offer.files.length,
          offer.files.map fun file => (file.1.announced, file.2))

/-- A race ends with a session, and the other client has already picked another one. -/
def Crosses (meeting : Meeting) : MeetingAction → Prop
  | .senderPicks session => ∃ other, meeting.receiverPick = some other ∧ other ≠ session
  | .receiverPicks session => ∃ other, meeting.senderPick = some other ∧ other ≠ session
  | _ => False

/-- No race comes to such an end. -/
def NoCrossing (offer : FanOut) (meeting : Meeting) (action : MeetingAction) : Prop :=
  meeting.Crosses action → meeting.step offer action = none

/-- The relay of a session writes the answer that a client waits for. -/
def gives (leg : Leg) (event : LegEvent) (answered : Leg → Bool) : Bool :=
  !answered leg && (leg.step event).any answered

/--
The answers of the sessions do not overtake each other.

When a go byte gets to a sender that waits, no other session has written its file count. When a file count gets to a
receiver that waits, the sender is at that session, or it waits too and has no other session's go byte.
-/
def AnswersApart (offer : FanOut) (meeting : Meeting) : MeetingAction → Prop
  | .leg session event =>
    (gives (meeting.legs session) event signalled = true → meeting.senderPick = none →
      ∀ other < offer.sessions, other ≠ session → counted (meeting.legs other) = false) ∧
    (gives (meeting.legs session) event counted = true → meeting.receiverPick = none →
      match meeting.senderPick with
      | some pick => pick = session
      | none => ∀ other < offer.sessions, other ≠ session → signalled (meeting.legs other) = false)
  | _ => True

instance (offer : FanOut) (meeting : Meeting) (action : MeetingAction) :
    Decidable (meeting.AnswersApart offer action) :=
  match action with
  | .leg session event =>
    match picked : meeting.senderPick with
    | some pick =>
      decidable_of_iff
        ((gives (meeting.legs session) event signalled = true → meeting.senderPick = none →
          ∀ other < offer.sessions, other ≠ session → counted (meeting.legs other) = false) ∧
        (gives (meeting.legs session) event counted = true → meeting.receiverPick = none →
          pick = session)) (by rw [AnswersApart, picked])
    | none =>
      decidable_of_iff
        ((gives (meeting.legs session) event signalled = true → meeting.senderPick = none →
          ∀ other < offer.sessions, other ≠ session → counted (meeting.legs other) = false) ∧
        (gives (meeting.legs session) event counted = true → meeting.receiverPick = none →
          ∀ other < offer.sessions, other ≠ session → signalled (meeting.legs other) = false))
        (by rw [AnswersApart, picked])
  | .senderArrives _ | .receiverArrives _ | .senderPicks _ | .senderLoses | .senderDrops _
  | .senderStreams _ | .receiverPicks _ | .receiverLoses | .receiverDrops _ | .receiverReads _
  | .receiverEnds => isTrue trivial

/-- If the sender's race ends with it, the sender sends to a session; until then, to any. -/
def SendsTo (meeting : Meeting) (session : Nat) : Prop :=
  ∀ pick, meeting.senderPick = some pick → pick = session

/-- What keeps a meeting going. -/
structure Fair (offer : FanOut) (meeting : Meeting) : Prop where
  stage : ∀ session, (meeting.legs session).Stage offer (meeting.SendsTo session) meeting.unsent
  senderHolds : ∀ session, (meeting.legs session).senderHolds = false →
    ∃ pick, meeting.senderPick = some pick ∧ pick ≠ session
  receiverHolds : ∀ session, (meeting.legs session).receiverHolds = false →
    ∃ pick, meeting.receiverPick = some pick ∧ pick ≠ session
  unsent : meeting.senderPick = none → meeting.unsent = payload offer.files
  senderAt : ∀ session, meeting.senderPick = some session → session < offer.sessions ∧
    (meeting.legs session).toSender = [transferGoPaired]
  receiverAt : ∀ session, meeting.receiverPick = some session → session < offer.sessions ∧
    4 ≤ meeting.got.length ∧ meeting.got <+: (meeting.legs session).toReceiver
  same : ∀ session other, meeting.senderPick = some session →
    meeting.receiverPick = some other → session = other
  senderRuns : meeting.senderFailed = false
  receiverRuns : meeting.receiverFailed = false

variable {offer : FanOut} {meeting next : Meeting}

/-- Before anybody has come the meeting is fair. -/
theorem start_fair : (start offer).Fair offer where
  stage session := .waits rfl rfl rfl rfl rfl (fun _ _ => rfl) (by simp [start, Leg.new])
    (by simp [start, Leg.new]) (by simp [start, Leg.new])
  senderHolds session gone := by simp [start, Leg.new] at gone
  receiverHolds session gone := by simp [start, Leg.new] at gone
  unsent _ := rfl
  senderAt session pick := by simp [start] at pick
  receiverAt session pick := by simp [start] at pick
  same session other pick := by simp [start] at pick
  senderRuns := rfl
  receiverRuns := rfl

/-- What holds of one session as it is set, and of the others as they were, holds of all. -/
theorem forall_setLeg (holds : Nat → Leg → Prop) {session : Nat} {leg : Leg}
    (here : holds session leg)
    (others : ∀ other, other ≠ session → holds other (meeting.legs other)) (other : Nat) :
    holds other ((meeting.setLeg session leg).legs other) := by
  by_cases same : other = session
  · subst same
    simpa only [Meeting.setLeg, Function.update_self] using here
  · simpa only [Meeting.setLeg, Function.update_of_ne same] using others other same

/-- A session comes further, and the sender has so much left, while the clients' picks stay. -/
theorem Fair.advance (fair : meeting.Fair offer) {session : Nat} {leg : Leg} {rest : Bytes}
    (stage : leg.Stage offer (meeting.SendsTo session) rest)
    (others : ∀ other, other ≠ session →
      (meeting.legs other).Stage offer (meeting.SendsTo other) rest)
    (unsent : meeting.senderPick = none → rest = payload offer.files)
    (senderHolds : leg.senderHolds = false →
      ∃ pick, meeting.senderPick = some pick ∧ pick ≠ session)
    (receiverHolds : leg.receiverHolds = false →
      ∃ pick, meeting.receiverPick = some pick ∧ pick ≠ session)
    (toSender : (meeting.legs session).toSender = [transferGoPaired] →
      leg.toSender = [transferGoPaired])
    (toReceiver : (meeting.legs session).toReceiver <+: leg.toReceiver) :
    ({ meeting.setLeg session leg with unsent := rest } : Meeting).Fair offer := by
  have stages := forall_setLeg (fun other leg => leg.Stage offer (meeting.SendsTo other) rest)
    stage others
  have sender := forall_setLeg (fun other leg => leg.senderHolds = false →
    ∃ pick, meeting.senderPick = some pick ∧ pick ≠ other) senderHolds
    fun other _ => fair.senderHolds other
  have receiver := forall_setLeg (fun other leg => leg.receiverHolds = false →
    ∃ pick, meeting.receiverPick = some pick ∧ pick ≠ other) receiverHolds
    fun other _ => fair.receiverHolds other
  have signalled := forall_setLeg (fun other leg =>
    (meeting.legs other).toSender = [transferGoPaired] → leg.toSender = [transferGoPaired])
    toSender fun _ _ was => was
  have grows := forall_setLeg (fun other leg => (meeting.legs other).toReceiver <+: leg.toReceiver)
    toReceiver fun _ _ => List.prefix_refl _
  refine ⟨stages, sender, receiver, unsent, ?_, ?_, fair.same, fair.senderRuns, fair.receiverRuns⟩
  · intro other pick
    obtain ⟨there, was⟩ := fair.senderAt other pick
    exact ⟨there, signalled other was⟩
  · intro other pick
    obtain ⟨there, counted, read⟩ := fair.receiverAt other pick
    exact ⟨there, counted, read.trans (grows other)⟩

/-- A session comes further while the clients stay where they are. -/
theorem Fair.setLeg (fair : meeting.Fair offer) {session : Nat} {leg : Leg}
    (stage : leg.Stage offer (meeting.SendsTo session) meeting.unsent)
    (senderHolds : leg.senderHolds = false →
      ∃ pick, meeting.senderPick = some pick ∧ pick ≠ session)
    (receiverHolds : leg.receiverHolds = false →
      ∃ pick, meeting.receiverPick = some pick ∧ pick ≠ session)
    (toSender : (meeting.legs session).toSender = [transferGoPaired] →
      leg.toSender = [transferGoPaired])
    (toReceiver : (meeting.legs session).toReceiver <+: leg.toReceiver) :
    (meeting.setLeg session leg).Fair offer :=
  fair.advance stage (fun other _ => fair.stage other) fair.unsent senderHolds receiverHolds
    toSender toReceiver

/-- The clients hold on to a session as long as neither has picked another. -/
theorem Fair.held (fair : meeting.Fair offer) {session : Nat} (sends : meeting.SendsTo session)
    (receives : ∀ pick, meeting.receiverPick = some pick → pick = session) :
    (meeting.legs session).senderHolds = true ∧ (meeting.legs session).receiverHolds = true := by
  constructor
  · by_contra gone
    obtain ⟨pick, picked, other⟩ := fair.senderHolds session (by simpa using gone)
    exact other (sends pick picked)
  · by_contra gone
    obtain ⟨pick, picked, other⟩ := fair.receiverHolds session (by simpa using gone)
    exact other (receives pick picked)

/-- There is a session that either client picked if it picked any. -/
theorem Fair.common (fair : meeting.Fair offer) :
    ∃ session, session < offer.sessions ∧ meeting.SendsTo session ∧
      ∀ pick, meeting.receiverPick = some pick → pick = session := by
  cases sender : meeting.senderPick with
  | some session =>
    refine ⟨session, (fair.senderAt session sender).1, ?_, ?_⟩
    · intro pick picked
      exact Option.some.inj (picked.symm.trans sender)
    · exact fun pick picked => (fair.same session pick sender picked).symm
  | none =>
    cases receiver : meeting.receiverPick with
    | some session =>
      refine ⟨session, (fair.receiverAt session receiver).1, ?_, ?_⟩
      · intro pick picked
        exact absurd (picked.symm.trans sender) (by simp)
      · exact fun pick picked => (Option.some.inj picked).symm
    | none =>
      refine ⟨0, offer.some_, ?_, by simp⟩
      intro pick picked
      exact absurd (picked.symm.trans sender) (by simp)

/-- A stream of a whole transfer begins with its file count. -/
theorem four_le_transferStream (files : List (SendEntry × Bytes)) :
    4 ≤ (transferStream files).length := by
  rw [transferStream, List.length_append, putU32_length]
  omega

/-- What a receiver of the whole stream reads are all the files. -/
theorem receivedTransfer_stream (offer : FanOut) :
    receivedTransfer (transferStream offer.files) =
      some (UInt32.ofNat offer.files.length,
        offer.files.map fun file => (file.1.announced, file.2)) := by
  have read := reads_receiveEntries (fun _ => transferBuf) offer.named offer.sized []
  rw [List.append_nil] at read
  rw [receivedTransfer, read]

/-- A relay that has returned where the clients meet has passed everything on. -/
theorem Fair.closed (fair : meeting.Fair offer) {session : Nat} (sends : meeting.SendsTo session)
    (receives : ∀ pick, meeting.receiverPick = some pick → pick = session)
    (closed : meeting.closedAt session = true) :
    (meeting.legs session).toSender = [transferGoPaired] ∧
      (meeting.legs session).toReceiver = transferStream offer.files ∧ meeting.unsent = [] := by
  obtain ⟨senderHolds, receiverHolds⟩ := fair.held sends receives
  obtain ⟨signalled, whole⟩ := (fair.stage session).finished (by simpa [closedAt] using closed)
    senderHolds receiverHolds
  exact ⟨signalled, whole sends⟩

/-- No race is lost: where the clients can still meet, either has an answer before the end. -/
theorem Fair.not_allDead (fair : meeting.Fair offer) :
    meeting.allDead offer signalled = false ∧ meeting.allDead offer counted = false := by
  obtain ⟨session, there, sends, receives⟩ := fair.common
  have answered : meeting.closedAt session = true →
      signalled (meeting.legs session) = true ∧ counted (meeting.legs session) = true := by
    intro closed
    obtain ⟨given, whole, -⟩ := fair.closed sends receives closed
    have count := four_le_transferStream offer.files
    exact ⟨by simp [signalled, given], by simp [counted, whole, count]⟩
  constructor
  · by_contra dead
    rw [Bool.not_eq_false, allDead, List.all_eq_true] at dead
    have here := dead session (List.mem_range.mpr there)
    rw [Bool.and_eq_true] at here
    simp [(answered here.1).1] at here
  · by_contra dead
    rw [Bool.not_eq_false, allDead, List.all_eq_true] at dead
    have here := dead session (List.mem_range.mpr there)
    rw [Bool.and_eq_true] at here
    simp [(answered here.1).2] at here

/-- Every action that does not part the clients keeps the meeting going. -/
theorem Fair.step (fair : meeting.Fair offer) {action : MeetingAction}
    (met : meeting.NoCrossing offer action) (stepped : meeting.step offer action = some next) :
    next.Fair offer := by
  have apart : ¬ meeting.Crosses action := by
    intro crosses
    exact absurd ((met crosses).symm.trans stepped) (by simp)
  cases action with
  | senderArrives session =>
    obtain ⟨absent, rfl⟩ := of_guarded stepped
    exact fair.setLeg ((fair.stage session).senderArrives absent.2) (fair.senderHolds session)
      (fair.receiverHolds session) (fun was => was) (List.prefix_refl _)
  | receiverArrives session =>
    obtain ⟨absent, rfl⟩ := of_guarded stepped
    exact fair.setLeg ((fair.stage session).receiverArrives absent.2) (fair.senderHolds session)
      (fair.receiverHolds session) (fun was => was) (List.prefix_refl _)
  | leg session event =>
    simp only [Meeting.step] at stepped
    split at stepped
    case isFalse => simp at stepped
    obtain ⟨leg, went, rfl⟩ := Option.map_eq_some_iff.mp stepped
    -- Before the go byte, no client can have picked this session.
    have fresh : meeting.SendsTo session → (meeting.legs session).toSender = [] →
        meeting.unsent = payload offer.files := by
      intro sends none_
      apply fair.unsent
      by_contra some_
      obtain ⟨pick, picked⟩ := Option.ne_none_iff_exists'.mp some_
      obtain rfl := sends pick picked
      exact absurd (none_.symm.trans (fair.senderAt pick picked).2) (by simp)
    obtain ⟨stage, extends_⟩ := (fair.stage session).step fresh went
    refine fair.setLeg stage ?_ ?_ extends_.toSender extends_.toReceiver
    · rw [extends_.senderHolds]
      exact fair.senderHolds session
    · rw [extends_.receiverHolds]
      exact fair.receiverHolds session
  | senderPicks session =>
    obtain ⟨ready, rfl⟩ := of_guarded stepped
    obtain ⟨none_, -, there, signalled⟩ := ready
    -- Nobody had picked for the sender, so it may have sent to any session.
    have anywhere : ∀ other, meeting.SendsTo other := by
      intro other pick picked
      exact absurd (picked.symm.trans none_) (by simp)
    have given : (meeting.legs session).toSender = [transferGoPaired] := by
      rcases (fair.stage session).toSender_cases with empty | given
      · simp [Meeting.signalled, empty] at signalled
      · exact given
    refine ⟨fun other => (fair.stage other).imp fun _ => anywhere other, ?_, fair.receiverHolds,
      by simp, ?_, fair.receiverAt, ?_, fair.senderRuns, fair.receiverRuns⟩
    · intro other gone
      obtain ⟨pick, picked, -⟩ := fair.senderHolds other gone
      exact absurd (picked.symm.trans none_) (by simp)
    · intro other picked
      cases picked
      exact ⟨there, given⟩
    · intro other pick picked receives
      cases picked
      by_contra other
      exact apart ⟨pick, receives, Ne.symm other⟩
  | senderLoses =>
    simp only [Meeting.step] at stepped
    split at stepped
    · next lost => exact absurd (fair.not_allDead.1.symm.trans lost.2.2) (by simp)
    · simp at stepped
  | senderDrops session =>
    simp only [Meeting.step] at stepped
    split at stepped
    · next pick picked =>
      obtain ⟨held, rfl⟩ := of_guarded stepped
      exact fair.setLeg ((fair.stage session).drops (fun _ => rfl) (fun gone => gone))
        (fun _ => ⟨pick, picked, held.2.1⟩) (fair.receiverHolds session) (fun was => was)
        (List.prefix_refl _)
    · simp at stepped
  | senderStreams count =>
    simp only [Meeting.step] at stepped
    split at stepped
    · next pick picked =>
      split at stepped
      · next more =>
        obtain ⟨positive, enough, -⟩ := more
        have some_ : meeting.unsent ≠ [] := List.ne_nil_of_length_pos (by omega)
        have sends : meeting.SendsTo pick := fun other is => Option.some.inj (is.symm.trans picked)
        have given := (fair.senderAt pick picked).2
        split at stepped
        · -- The relay does not return before it has read everything.
          next closed =>
          have receives : ∀ other, meeting.receiverPick = some other → other = pick :=
            fun other is => (fair.same pick other picked is).symm
          exact absurd (fair.closed sends receives closed).2.2 some_
        · cases stepped
          refine fair.advance ((fair.stage pick).senderStreams given count sends some_) ?_ ?_
            (fair.senderHolds pick) (fair.receiverHolds pick) (fun was => was) (List.prefix_refl _)
          · exact fun other apart => (fair.stage other).foreign fun is => apart (is pick picked).symm
          · exact fun none_ => absurd (none_.symm.trans picked) (by simp)
      · simp at stepped
    · simp at stepped
  | receiverPicks session =>
    obtain ⟨ready, rfl⟩ := of_guarded stepped
    obtain ⟨none_, -, there, counted⟩ := ready
    have count : 4 ≤ (meeting.legs session).toReceiver.length := by
      simpa [Meeting.counted] using counted
    refine ⟨fair.stage, fair.senderHolds, ?_, fair.unsent, fair.senderAt, ?_, ?_, fair.senderRuns,
      fair.receiverRuns⟩
    · intro other gone
      obtain ⟨pick, picked, -⟩ := fair.receiverHolds other gone
      exact absurd (picked.symm.trans none_) (by simp)
    · intro other picked
      cases picked
      refine ⟨there, ?_, List.take_prefix ..⟩
      rw [List.length_take]
      omega
    · intro pick other sends picked
      cases picked
      by_contra other
      exact apart ⟨pick, sends, other⟩
  | receiverLoses =>
    simp only [Meeting.step] at stepped
    split at stepped
    · next lost => exact absurd (fair.not_allDead.2.symm.trans lost.2.2) (by simp)
    · simp at stepped
  | receiverDrops session =>
    simp only [Meeting.step] at stepped
    split at stepped
    · next pick picked =>
      obtain ⟨held, rfl⟩ := of_guarded stepped
      exact fair.setLeg ((fair.stage session).drops (fun gone => gone) (fun _ => rfl))
        (fair.senderHolds session) (fun _ => ⟨pick, picked, held.2.1⟩) (fun was => was)
        (List.prefix_refl _)
    · simp at stepped
  | receiverReads count =>
    simp only [Meeting.step] at stepped
    split at stepped
    · next pick picked =>
      obtain ⟨more, rfl⟩ := of_guarded stepped
      refine ⟨fair.stage, fair.senderHolds, fair.receiverHolds, fair.unsent, fair.senderAt, ?_,
        fair.same, fair.senderRuns, fair.receiverRuns⟩
      intro other is
      obtain ⟨there, counted, -⟩ := fair.receiverAt other is
      obtain rfl := Option.some.inj (is.symm.trans picked)
      refine ⟨there, ?_, List.take_prefix ..⟩
      rw [List.length_take]
      omega
    · simp at stepped
  | receiverEnds =>
    simp only [Meeting.step] at stepped
    split at stepped
    · next pick picked =>
      split at stepped
      · next ended =>
        have sends : meeting.SendsTo pick := fun other is => fair.same other pick is picked
        have receives : ∀ other, meeting.receiverPick = some other → other = pick :=
          fun other is => Option.some.inj (is.symm.trans picked)
        have whole := (fair.closed sends receives ended.1).2.1
        have read := receivedTransfer_stream offer
        rw [← whole, ← ended.2.1, ended.2.2.2] at read
        simp at read
      · simp at stepped
    · simp at stepped

/-- Where nothing more can happen, the clients met and the receiver has read everything. -/
theorem Fair.completes (fair : meeting.Fair offer)
    (still : ∀ action, meeting.step offer action = none) :
    ∃ session, meeting.senderPick = some session ∧ meeting.receiverPick = some session ∧
      meeting.unsent = [] ∧ meeting.got = transferStream offer.files := by
  obtain ⟨session, there, sends, receives⟩ := fair.common
  obtain ⟨senderHolds, receiverHolds⟩ := fair.held sends receives
  have senderCame : (meeting.legs session).senderCame = true := by
    by_contra absent
    simpa [Meeting.step, there, absent] using still (.senderArrives session)
  have receiverCame : (meeting.legs session).receiverCame = true := by
    by_contra absent
    simpa [Meeting.step, there, absent] using still (.receiverArrives session)
  have stuck : ∀ event, (meeting.legs session).step event = none := by
    intro event
    simpa [Meeting.step, there] using still (.leg session event)
  obtain ⟨signalled, where_⟩ := (fair.stage session).stuck stuck ⟨senderCame, receiverCame⟩
    senderHolds receiverHolds
  -- The go byte is there to be read, so the sender has read it.
  have senderPick : meeting.senderPick = some session := by
    cases picked : meeting.senderPick with
    | some pick => exact congrArg some (sends pick picked)
    | none =>
      simpa [Meeting.step, picked, fair.senderRuns, there, Meeting.signalled, signalled] using
        still (.senderPicks session)
  rcases where_ with ⟨finished, whole⟩ | ⟨offered, more⟩
  · obtain ⟨stream, unsent⟩ := whole sends
    have count := four_le_transferStream offer.files
    have receiverPick : meeting.receiverPick = some session := by
      cases picked : meeting.receiverPick with
      | some pick => exact congrArg some (receives pick picked)
      | none =>
        simpa [Meeting.step, picked, fair.receiverRuns, there, Meeting.counted, stream, count] using
          still (.receiverPicks session)
    obtain ⟨-, -, read⟩ := fair.receiverAt session receiverPick
    rw [stream] at read
    have all : (transferStream offer.files).length ≤ meeting.got.length := by
      by_contra fewer
      have room : meeting.got.length + 1 ≤ (transferStream offer.files).length := by omega
      simpa [Meeting.step, receiverPick, stream, room] using still (.receiverReads 1)
    exact ⟨session, senderPick, receiverPick, unsent, read.eq_of_length_le all⟩
  · -- The relay waits for data that the sender could send.
    have some_ : 1 ≤ meeting.unsent.length := List.length_pos_of_ne_nil (more sends)
    simpa [Meeting.step, senderPick, some_, fair.senderRuns, closedAt, offered] using
      still (.senderStreams 1)

/-- A fair meeting is one on which both ends agree. -/
theorem Fair.agreed (fair : meeting.Fair offer) : meeting.Agreed offer where
  same := fair.same
  senderRuns := fair.senderRuns
  receiverRuns := fair.receiverRuns
  completes still := by
    obtain ⟨session, senderPick, receiverPick, unsent, got⟩ := fair.completes still
    exact ⟨session, senderPick, receiverPick, unsent, got ▸ receivedTransfer_stream offer⟩

/-! ### Every run comes to an end -/

/-- The bytes at a session that the clients share are those of the transfer. -/
theorem Fair.toReceiver_length (fair : meeting.Fair offer) {session : Nat}
    (picked : meeting.receiverPick = some session) :
    (meeting.legs session).toReceiver.length ≤ (transferStream offer.files).length := by
  have sends : meeting.SendsTo session := fun pick is => fair.same pick session is picked
  have receives : ∀ pick, meeting.receiverPick = some pick → pick = session :=
    fun pick is => Option.some.inj (is.symm.trans picked)
  obtain ⟨senderHolds, receiverHolds⟩ := fair.held sends receives
  exact (fair.stage session).toReceiver_length sends senderHolds receiverHolds

/-- What the clients have still to pick, to send and to read. -/
def clientWeight (offer : FanOut) (meeting : Meeting) : Nat :=
  meeting.unsent.length + (if meeting.senderPick = none then 1 else 0) +
    (if meeting.receiverPick = none then (transferStream offer.files).length + 1
      else (transferStream offer.files).length - meeting.got.length)

/-- A bound on how much can still happen. -/
def weight (offer : FanOut) (meeting : Meeting) : Nat :=
  (Finset.range offer.sessions).sum (fun session => (meeting.legs session).weight offer) +
    meeting.clientWeight offer

/-- What takes something off a session takes it off the whole. -/
theorem weight_setLeg {session : Nat} (there : session < offer.sessions) {leg : Leg}
    (lighter : leg.weight offer < (meeting.legs session).weight offer) :
    (meeting.setLeg session leg).weight offer < meeting.weight offer := by
  have each := forall_setLeg (fun other leg =>
    leg.weight offer ≤ (meeting.legs other).weight offer) (Nat.le_of_lt lighter)
    fun _ _ => Nat.le_refl _
  have sums : (Finset.range offer.sessions).sum
      (fun other => ((meeting.setLeg session leg).legs other).weight offer) <
        (Finset.range offer.sessions).sum fun other => (meeting.legs other).weight offer := by
    refine Finset.sum_lt_sum (fun other _ => each other) ⟨session, Finset.mem_range.mpr there, ?_⟩
    simpa only [Meeting.setLeg, Function.update_self] using lighter
  have clients : (meeting.setLeg session leg).clientWeight offer = meeting.clientWeight offer := rfl
  rw [weight, weight, clients]
  exact Nat.add_lt_add_right sums _

/-- Every action takes something off. -/
theorem Fair.weight_step (fair : meeting.Fair offer) {action : MeetingAction}
    (met : meeting.NoCrossing offer action) (stepped : meeting.step offer action = some next) :
    next.weight offer < meeting.weight offer := by
  have after := fair.step met stepped
  -- The sessions stay as they are, and the clients have less to do.
  have clients (legs : next.legs = meeting.legs)
      (less : next.clientWeight offer < meeting.clientWeight offer) :
      next.weight offer < meeting.weight offer := by
    rw [weight, weight, legs]
    exact Nat.add_lt_add_left less _
  cases action with
  | senderArrives session =>
    obtain ⟨absent, rfl⟩ := of_guarded stepped
    refine weight_setLeg absent.1 ((fair.stage session).weight_arrive (Or.inl absent.2) _ ?_)
    simp only [Leg.clientWeight, absent.2, if_true, Bool.false_eq_true, if_false]
    omega
  | receiverArrives session =>
    obtain ⟨absent, rfl⟩ := of_guarded stepped
    refine weight_setLeg absent.1 ((fair.stage session).weight_arrive (Or.inr absent.2) _ ?_)
    simp only [Leg.clientWeight, absent.2, if_true, Bool.false_eq_true, if_false]
    omega
  | leg session event =>
    simp only [Meeting.step] at stepped
    split at stepped
    · next there =>
      obtain ⟨leg, went, rfl⟩ := Option.map_eq_some_iff.mp stepped
      exact weight_setLeg there ((fair.stage session).weight_step went)
    · simp at stepped
  | senderPicks session =>
    obtain ⟨ready, rfl⟩ := of_guarded stepped
    refine clients rfl ?_
    simp only [clientWeight, ready.1]
    simp
  | senderLoses =>
    simp only [Meeting.step] at stepped
    split at stepped
    · next lost => exact absurd (fair.not_allDead.1.symm.trans lost.2.2) (by simp)
    · simp at stepped
  | senderDrops session =>
    simp only [Meeting.step] at stepped
    split at stepped
    · next pick picked =>
      obtain ⟨held, rfl⟩ := of_guarded stepped
      refine weight_setLeg held.1 ?_
      have relay : Leg.relayWeight offer { meeting.legs session with senderHolds := false } =
          (meeting.legs session).relayWeight offer := rfl
      simp only [Leg.weight, relay, Leg.clientWeight, held.2.2, if_true, Bool.false_eq_true,
        if_false]
      omega
    · simp at stepped
  | senderStreams count =>
    simp only [Meeting.step] at stepped
    split at stepped
    · next pick picked =>
      split at stepped
      · next more =>
        split at stepped
        · -- The sender fails nowhere, so its session is not closed before the end.
          cases stepped
          exact absurd after.senderRuns (by simp)
        · cases stepped
          obtain ⟨positive, enough, -⟩ := more
          -- What is under way to a relay weighs nothing.
          have legs := forall_setLeg (fun other leg =>
            leg.weight offer = (meeting.legs other).weight offer)
            (rfl : Leg.weight offer { meeting.legs pick with
              fromSender := (meeting.legs pick).fromSender ++ meeting.unsent.take count } = _)
            fun _ _ => rfl
          have less : (meeting.unsent.drop count).length < meeting.unsent.length := by
            rw [List.length_drop]
            omega
          rw [weight, weight, Finset.sum_congr rfl fun other _ => legs other]
          refine Nat.add_lt_add_left ?_ _
          exact Nat.add_lt_add_right (Nat.add_lt_add_right less _) _
      · simp at stepped
    · simp at stepped
  | receiverPicks session =>
    obtain ⟨ready, rfl⟩ := of_guarded stepped
    refine clients rfl ?_
    simp only [clientWeight, ready.1, if_true, reduceCtorEq, if_false]
    omega
  | receiverLoses =>
    simp only [Meeting.step] at stepped
    split at stepped
    · next lost => exact absurd (fair.not_allDead.2.symm.trans lost.2.2) (by simp)
    · simp at stepped
  | receiverDrops session =>
    simp only [Meeting.step] at stepped
    split at stepped
    · next pick picked =>
      obtain ⟨held, rfl⟩ := of_guarded stepped
      refine weight_setLeg held.1 ?_
      have relay : Leg.relayWeight offer { meeting.legs session with receiverHolds := false } =
          (meeting.legs session).relayWeight offer := rfl
      simp only [Leg.weight, relay, Leg.clientWeight, held.2.2, if_true, Bool.false_eq_true,
        if_false]
      omega
    · simp at stepped
  | receiverReads count =>
    simp only [Meeting.step] at stepped
    split at stepped
    · next pick picked =>
      obtain ⟨more, rfl⟩ := of_guarded stepped
      refine clients rfl ?_
      have bound := fair.toReceiver_length picked
      have longer : ((meeting.legs pick).toReceiver.take (meeting.got.length + count)).length =
          meeting.got.length + count := by
        rw [List.length_take]
        omega
      simp only [clientWeight, picked, reduceCtorEq, if_false, longer]
      omega
    · simp at stepped
  | receiverEnds =>
    -- The receiver fails nowhere, so it does not find an early end.
    simp only [Meeting.step] at stepped
    split at stepped
    · split at stepped
      · cases stepped
        exact absurd after.receiverRuns (by simp)
      · simp at stepped
    · simp at stepped

/-! ### Answers that do not overtake each other -/

/-- Whatever answers have come, a client that waits finds the other one. -/
structure Paired (offer : FanOut) (meeting : Meeting) : Prop where
  waiting : meeting.senderPick = none → ∀ session < offer.sessions, ∀ other < offer.sessions,
    session ≠ other → counted (meeting.legs other) = true →
      signalled (meeting.legs session) = false
  chosen : ∀ session, meeting.senderPick = some session → meeting.receiverPick = none →
    ∀ other < offer.sessions, other ≠ session → counted (meeting.legs other) = false

/-- Before anything was written no client can go wrong. -/
theorem start_paired : (start offer).Paired offer where
  waiting _ session _ other _ _ given := by simp [start, Leg.new, counted] at given
  chosen session picked := by simp [start] at picked

/-- The session that the receiver picked has written its file count. -/
theorem Fair.counted_pick (fair : meeting.Fair offer) {session : Nat}
    (picked : meeting.receiverPick = some session) :
    counted (meeting.legs session) = true := by
  obtain ⟨-, enough, read⟩ := fair.receiverAt session picked
  exact decide_eq_true (enough.trans read.length_le)

/-- The session that the sender picked has written its go byte. -/
theorem Fair.signalled_pick (fair : meeting.Fair offer) {session : Nat}
    (picked : meeting.senderPick = some session) :
    signalled (meeting.legs session) = true := by
  rw [signalled, (fair.senderAt session picked).2]
  rfl

/-- A session that has written its file count wrote its go byte before. -/
theorem Fair.signalled_of_counted (fair : meeting.Fair offer) (session : Nat)
    (given : counted (meeting.legs session) = true) :
    signalled (meeting.legs session) = true := by
  have some_ : (meeting.legs session).toReceiver ≠ [] := by
    intro empty
    rw [counted, empty] at given
    exact absurd given (by decide)
  rw [signalled, (fair.stage session).signalled some_]
  rfl

/-- Where no answer can mislead, no race ends elsewhere. -/
theorem Paired.noCrossing (paired : meeting.Paired offer) (fair : meeting.Fair offer)
    (action : MeetingAction) : meeting.NoCrossing offer action := by
  intro crosses
  by_contra enabled
  obtain ⟨next, stepped⟩ := Option.ne_none_iff_exists'.mp enabled
  cases action with
  | senderPicks session =>
    obtain ⟨other, picked, apart⟩ := crosses
    simp only [Meeting.step] at stepped
    split at stepped
    · next ready =>
      obtain ⟨none_, -, there, given⟩ := ready
      have quiet := paired.waiting none_ session there other (fair.receiverAt other picked).1
        (Ne.symm apart) (fair.counted_pick picked)
      exact absurd (quiet.symm.trans given) (by simp)
    · simp at stepped
  | receiverPicks session =>
    obtain ⟨other, picked, apart⟩ := crosses
    simp only [Meeting.step] at stepped
    split at stepped
    · next ready =>
      obtain ⟨none_, -, there, given⟩ := ready
      have quiet := paired.chosen other picked none_ session there (Ne.symm apart)
      exact absurd (quiet.symm.trans given) (by simp)
    · simp at stepped
  | _ => exact crosses

/-- An action that writes no answer, and after which nobody waits who did not before, keeps the clients paired. -/
theorem Paired.quiet (paired : meeting.Paired offer)
    (answers : ∀ session, signalled (next.legs session) = signalled (meeting.legs session) ∧
      counted (next.legs session) = counted (meeting.legs session))
    (senderPick : next.senderPick = meeting.senderPick)
    (receiverPick : next.receiverPick = meeting.receiverPick) : next.Paired offer where
  waiting none_ session there other alsoThere apart given := by
    rw [senderPick] at none_
    rw [(answers other).2] at given
    rw [(answers session).1]
    exact paired.waiting none_ session there other alsoThere apart given
  chosen session picked none_ other there apart := by
    rw [senderPick] at picked
    rw [receiverPick] at none_
    rw [(answers other).2]
    exact paired.chosen session picked none_ other there apart

/-- A session that writes the same to both clients answers nobody. -/
theorem answers_setLeg (session : Nat) {leg : Leg}
    (toSender : leg.toSender = (meeting.legs session).toSender)
    (toReceiver : leg.toReceiver = (meeting.legs session).toReceiver) (other : Nat) :
    signalled ((meeting.setLeg session leg).legs other) = signalled (meeting.legs other) ∧
      counted ((meeting.setLeg session leg).legs other) = counted (meeting.legs other) :=
  forall_setLeg (fun other leg => signalled leg = signalled (meeting.legs other) ∧
    counted leg = counted (meeting.legs other))
    ⟨by rw [signalled, toSender, signalled], by rw [counted, toReceiver, counted]⟩
    (fun _ _ => ⟨rfl, rfl⟩) other

/-- An answer that was not there before was written just now. -/
theorem gives_of_step {leg after : Leg} {event : LegEvent} {answered : Leg → Bool}
    (went : leg.step event = some after) (before : answered leg = false)
    (now : answered after = true) : gives leg event answered = true := by
  rw [gives, before, went, Option.any_some, now]
  rfl

/-- A session that comes further answers nobody who could go wrong. -/
theorem Paired.leg (paired : meeting.Paired offer) (fair : meeting.Fair offer) {session : Nat}
    {event : LegEvent} {leg : Leg} (apart : meeting.AnswersApart offer (.leg session event))
    (there : session < offer.sessions) (went : (meeting.legs session).step event = some leg)
    (after : (meeting.setLeg session leg).Fair offer) :
    (meeting.setLeg session leg).Paired offer := by
  obtain ⟨goes, counts⟩ := apart
  have here : (meeting.setLeg session leg).legs session = leg := Function.update_self ..
  have elsewhere {other : Nat} (different : other ≠ session) :
      (meeting.setLeg session leg).legs other = meeting.legs other :=
    Function.update_of_ne different ..
  have clash {answered : Bool} (no : answered = false) (yes : answered = true) : False :=
    Bool.false_ne_true (no.symm.trans yes)
  -- A go byte that is written now finds no file count elsewhere, whether it is looked for now or later.
  have nowhere (none_ : meeting.senderPick = none) (given : signalled leg = true) {other : Nat}
      (alsoThere : other < offer.sessions) (different : other ≠ session)
      (counted_ : counted (meeting.legs other) = true) : False := by
    cases before : signalled (meeting.legs session) with
    | true =>
      exact clash (paired.waiting none_ session there other alsoThere (Ne.symm different) counted_)
        before
    | false =>
      have quiet := goes (gives_of_step went before given) none_ other alsoThere different
      exact clash quiet counted_
  refine ⟨?_, ?_⟩
  · intro none_ first firstThere second secondThere different counted_
    by_contra given
    rw [Bool.not_eq_false] at given
    by_cases firstHere : first = session
    · subst firstHere
      rw [here] at given
      rw [elsewhere (Ne.symm different)] at counted_
      exact nowhere none_ given secondThere (Ne.symm different) counted_
    by_cases secondHere : second = session
    · subst secondHere
      rw [elsewhere firstHere] at given
      cases before : counted (meeting.legs second) with
      | true =>
        exact clash (paired.waiting none_ first firstThere second secondThere different before) given
      | false =>
        rw [here] at counted_
        cases picked : meeting.receiverPick with
        | none =>
          have quiet := counts (gives_of_step went before counted_) picked
          rw [show meeting.senderPick = none from none_] at quiet
          exact clash (quiet first firstThere firstHere) given
        | some pick =>
          -- The receiver is at another session, whose file count was there before this go byte.
          have apart : pick ≠ second := by
            rintro rfl
            exact clash before (fair.counted_pick picked)
          have signalled_ := after.signalled_of_counted second (by rw [here, counted_])
          rw [here] at signalled_
          exact nowhere none_ signalled_ (fair.receiverAt pick picked).1 apart (fair.counted_pick picked)
    · rw [elsewhere firstHere] at given
      rw [elsewhere secondHere] at counted_
      exact clash (paired.waiting none_ first firstThere second secondThere different counted_) given
  · intro pick picked none_ other otherThere different
    by_cases otherHere : other = session
    · subst otherHere
      rw [here]
      by_contra counted_
      rw [Bool.not_eq_false] at counted_
      have quiet := paired.chosen pick picked none_ other otherThere different
      have same := counts (gives_of_step went quiet counted_) none_
      rw [show meeting.senderPick = some pick from picked] at same
      exact different same.symm
    · rw [elsewhere otherHere]
      exact paired.chosen pick picked none_ other otherThere different

/-- As long as answers do not overtake each other, no client can go wrong. -/
theorem Paired.step (paired : meeting.Paired offer) (fair : meeting.Fair offer)
    {action : MeetingAction} (apart : meeting.AnswersApart offer action)
    (stepped : meeting.step offer action = some next) : next.Paired offer := by
  have after := fair.step (paired.noCrossing fair action) stepped
  cases action with
  | senderArrives session =>
    obtain ⟨-, rfl⟩ := of_guarded stepped
    exact paired.quiet (answers_setLeg session rfl rfl) rfl rfl
  | receiverArrives session =>
    obtain ⟨-, rfl⟩ := of_guarded stepped
    exact paired.quiet (answers_setLeg session rfl rfl) rfl rfl
  | leg session event =>
    simp only [Meeting.step] at stepped
    split at stepped
    · next there =>
      obtain ⟨leg, went, rfl⟩ := Option.map_eq_some_iff.mp stepped
      exact paired.leg fair apart there went after
    · simp at stepped
  | senderPicks session =>
    obtain ⟨ready, rfl⟩ := of_guarded stepped
    obtain ⟨none_, -, there, given⟩ := ready
    refine ⟨fun picked => absurd picked (by simp), ?_⟩
    -- What the sender has picked has written its go byte, so no other session has a file count.
    intro pick picked _ other otherThere different
    cases picked
    by_contra counted_
    have quiet := paired.waiting none_ session there other otherThere (Ne.symm different)
      (by simpa using counted_)
    exact absurd (quiet.symm.trans given) (by simp)
  | senderLoses =>
    obtain ⟨-, rfl⟩ := of_guarded stepped
    exact paired.quiet (fun _ => ⟨rfl, rfl⟩) rfl rfl
  | senderDrops session =>
    simp only [Meeting.step] at stepped
    split at stepped
    · split at stepped
      · cases stepped
        exact paired.quiet (answers_setLeg session rfl rfl) rfl rfl
      · simp at stepped
    · simp at stepped
  | senderStreams count =>
    simp only [Meeting.step] at stepped
    split at stepped
    · split at stepped
      · split at stepped
        · cases stepped
          exact paired.quiet (fun _ => ⟨rfl, rfl⟩) rfl rfl
        · next pick _ _ _ =>
          cases stepped
          exact paired.quiet (answers_setLeg pick rfl rfl) rfl rfl
      · simp at stepped
    · simp at stepped
  | receiverPicks session =>
    obtain ⟨-, rfl⟩ := of_guarded stepped
    exact ⟨paired.waiting, fun _ _ none_ => absurd none_ (by simp)⟩
  | receiverLoses =>
    obtain ⟨-, rfl⟩ := of_guarded stepped
    exact paired.quiet (fun _ => ⟨rfl, rfl⟩) rfl rfl
  | receiverDrops session =>
    simp only [Meeting.step] at stepped
    split at stepped
    · split at stepped
      · cases stepped
        exact paired.quiet (answers_setLeg session rfl rfl) rfl rfl
      · simp at stepped
    · simp at stepped
  | receiverReads count =>
    simp only [Meeting.step] at stepped
    split at stepped
    · split at stepped
      · cases stepped
        exact paired.quiet (fun _ => ⟨rfl, rfl⟩) rfl rfl
      · simp at stepped
    · simp at stepped
  | receiverEnds =>
    simp only [Meeting.step] at stepped
    split at stepped
    · split at stepped
      · cases stepped
        exact paired.quiet (fun _ => ⟨rfl, rfl⟩) rfl rfl
      · simp at stepped
    · simp at stepped

/-- Two clients that wait for the answers of two sessions may go to either. -/
theorem may_part (runs : meeting.senderFailed = false ∧ meeting.receiverFailed = false)
    {session other : Nat} (there : session < offer.sessions) (alsoThere : other < offer.sessions)
    (different : session ≠ other) (given : signalled (meeting.legs session) = true)
    (counted_ : counted (meeting.legs other) = true)
    (sender : meeting.senderPick = none ∨ meeting.senderPick = some session)
    (receiver : meeting.receiverPick = none ∨ meeting.receiverPick = some other) :
    ∃ picks last, (meetingMachine offer).run meeting picks = some last ∧ ¬ last.Agreed offer := by
  have parted {last : Meeting} (sends : last.senderPick = some session)
      (receives : last.receiverPick = some other) : ¬ last.Agreed offer :=
    fun agreed => different (agreed.same session other sends receives)
  have senderPicks (meeting : Meeting) (runs : meeting.senderFailed = false)
      (given : signalled (meeting.legs session) = true) (none_ : meeting.senderPick = none) :
      meeting.step offer (.senderPicks session) =
        some { meeting with senderPick := some session } :=
    if_pos ⟨none_, runs, there, given⟩
  have receiverPicks (meeting : Meeting) (runs : meeting.receiverFailed = false)
      (given : counted (meeting.legs other) = true) (none_ : meeting.receiverPick = none) :
      meeting.step offer (.receiverPicks other) =
        some { meeting with
          receiverPick := some other, got := (meeting.legs other).toReceiver.take 4 } :=
    if_pos ⟨none_, runs, alsoThere, given⟩
  rcases sender with sends | sends <;> rcases receiver with receives | receives
  · have first := senderPicks meeting runs.1 given sends
    have second := receiverPicks { meeting with senderPick := some session } runs.2 counted_ receives
    exact ⟨[.senderPicks session, .receiverPicks other], _,
      (Machine.run_cons first).trans (Machine.run_cons second), parted rfl rfl⟩
  · have first := senderPicks meeting runs.1 given sends
    exact ⟨[.senderPicks session], _, Machine.run_cons first, parted rfl receives⟩
  · have second := receiverPicks meeting runs.2 counted_ receives
    exact ⟨[.receiverPicks other], _, Machine.run_cons second, parted sends rfl⟩
  · exact ⟨[], meeting, rfl, parted sends receives⟩

/-- An answer that overtakes another leaves the clients free to part. -/
theorem Fair.may_part (fair : meeting.Fair offer) {action : MeetingAction}
    (overtakes : ¬ meeting.AnswersApart offer action)
    (stepped : meeting.step offer action = some next) :
    ∃ picks last, (meetingMachine offer).run next picks = some last ∧ ¬ last.Agreed offer := by
  cases action with
  | leg session event =>
    simp only [Meeting.step] at stepped
    split at stepped
    case isFalse => simp at stepped
    next there =>
    obtain ⟨leg, went, rfl⟩ := Option.map_eq_some_iff.mp stepped
    have runs : (meeting.setLeg session leg).senderFailed = false ∧
        (meeting.setLeg session leg).receiverFailed = false := ⟨fair.senderRuns, fair.receiverRuns⟩
    have here : (meeting.setLeg session leg).legs session = leg := Function.update_self ..
    have elsewhere {other : Nat} (different : other ≠ session) :
        (meeting.setLeg session leg).legs other = meeting.legs other :=
      Function.update_of_ne different ..
    -- What is given was not there before.
    have given {answered : Leg → Bool} (gives_ : gives (meeting.legs session) event answered = true) :
        answered (meeting.legs session) = false ∧ answered leg = true := by
      rw [gives, went, Option.any_some, Bool.and_eq_true, Bool.not_eq_true'] at gives_
      exact gives_
    rw [AnswersApart, Classical.not_and_iff_not_or_not] at overtakes
    rcases overtakes with goes | counts
    · -- The sender may go here, and the receiver is elsewhere or may go there.
      obtain ⟨gives_, none_, goes⟩ : gives (meeting.legs session) event signalled = true ∧
          meeting.senderPick = none ∧ ¬ ∀ other < offer.sessions, other ≠ session →
            counted (meeting.legs other) = false := by
        simpa only [Classical.not_imp] using goes
      obtain ⟨other, otherThere, different, counted_, receives⟩ : ∃ other < offer.sessions,
          other ≠ session ∧ counted (meeting.legs other) = true ∧
            (meeting.receiverPick = none ∨ meeting.receiverPick = some other) := by
        cases picked : meeting.receiverPick with
        | none =>
          obtain ⟨other, otherThere, different, counted_⟩ : ∃ other < offer.sessions,
              other ≠ session ∧ counted (meeting.legs other) = true := by
            simpa using goes
          exact ⟨other, otherThere, different, counted_, Or.inl rfl⟩
        | some other =>
          refine ⟨other, (fair.receiverAt other picked).1, ?_, fair.counted_pick picked, Or.inr rfl⟩
          rintro rfl
          exact Bool.false_ne_true
            ((given gives_).1.symm.trans (fair.signalled_of_counted _ (fair.counted_pick picked)))
      refine Meeting.may_part runs there otherThere (Ne.symm different) ?_ ?_ (Or.inl none_) receives
      · rw [here]
        exact (given gives_).2
      · rw [elsewhere different]
        exact counted_
    · -- The receiver may go here, and the sender is elsewhere or may go there.
      obtain ⟨gives_, none_, counts⟩ : gives (meeting.legs session) event counted = true ∧
          meeting.receiverPick = none ∧ ¬ (match meeting.senderPick with
            | some pick => pick = session
            | none => ∀ other < offer.sessions, other ≠ session →
                signalled (meeting.legs other) = false) := by
        simpa only [Classical.not_imp] using counts
      obtain ⟨other, otherThere, different, signalled_, sends⟩ : ∃ other < offer.sessions,
          other ≠ session ∧ signalled (meeting.legs other) = true ∧
            (meeting.senderPick = none ∨ meeting.senderPick = some other) := by
        cases picked : meeting.senderPick with
        | none =>
          obtain ⟨other, otherThere, different, signalled_⟩ : ∃ other < offer.sessions,
              other ≠ session ∧ signalled (meeting.legs other) = true := by
            simpa [picked] using counts
          exact ⟨other, otherThere, different, signalled_, Or.inl rfl⟩
        | some pick =>
          have apart : pick ≠ session := by simpa [picked] using counts
          exact ⟨pick, (fair.senderAt pick picked).1, apart, fair.signalled_pick picked, Or.inr rfl⟩
      refine Meeting.may_part runs otherThere there different ?_ ?_ sends (Or.inl none_)
      · rw [elsewhere different]
        exact signalled_
      · rw [here]
        exact (given gives_).2
  | _ => exact absurd trivial overtakes

end Meeting

/--
A sender and a receiver that wait at the same sessions meet as long as the sessions' answers do not overtake each other.

They meet after so many steps at most, and get their transfer done. As soon as one answer overtakes another, the clients may part.
-/
theorem agreed_along (offer : FanOut) (actions : List MeetingAction)
    (apart : (meetingMachine offer).Meets (Meeting.AnswersApart offer) (meetingMachine offer).init
      actions) :
    (meetingMachine offer).Along (Meeting.Agreed offer) (meetingMachine offer).init actions ∧
      ∀ last, (meetingMachine offer).run (meetingMachine offer).init actions = some last →
        actions.length ≤ (Meeting.start offer).weight offer ∧
          ∀ action next, ¬ last.AnswersApart offer action → last.step offer action = some next →
            ∃ picks parted, (meetingMachine offer).run next picks = some parted ∧
              ¬ parted.Agreed offer := by
  have preserved : ∀ (meeting : Meeting) action next, meeting.Fair offer ∧ meeting.Paired offer →
      meeting.AnswersApart offer action → (meetingMachine offer).step meeting action = some next →
        next.Fair offer ∧ next.Paired offer :=
    fun meeting action next holds met stepped =>
      ⟨holds.1.step (holds.2.noCrossing holds.1 action) stepped, holds.2.step holds.1 met stepped⟩
  have begins : (meetingMachine offer).init.Fair offer ∧ (meetingMachine offer).init.Paired offer :=
    ⟨Meeting.start_fair, Meeting.start_paired⟩
  refine ⟨Machine.along_of_meets (fun meeting holds => holds.1.agreed) preserved begins apart,
    fun last ran => ⟨?_, fun action next overtakes stepped => ?_⟩⟩
  · exact Machine.length_le_of_decreases (Meeting.weight offer) preserved
      (fun meeting action next holds _ stepped =>
        holds.1.weight_step (holds.2.noCrossing holds.1 action) stepped) begins apart ran
  · have holds := Machine.run_induction preserved begins apart ran
    exact holds.1.may_part overtakes stepped

/-! ### Two sessions, two answers -/

/-- One file, offered in two sessions. -/
def twoSessions : FanOut where
  sessions := 2
  some_ := by decide
  files := [(⟨"a", 1, 0o644, []⟩, [7])]
  counted := by decide
  named := by
    intro file member
    obtain rfl := List.mem_singleton.mp member
    exact ⟨by decide, by decide⟩
  sized := by decide

/-- The relay of one session answers both clients before the other relay does, and they go there. -/
def firstAnswers : List MeetingAction :=
  [.senderArrives 0, .receiverArrives 0, .senderArrives 1, .receiverArrives 1,
    .leg 0 .starts, .leg 1 .starts, .leg 0 .calls, .senderPicks 0, .leg 1 .calls, .leg 0 .calls,
    .receiverPicks 0, .leg 1 .calls, .senderDrops 1, .receiverDrops 1, .senderStreams 1,
    .leg 0 .calls, .leg 0 .calls, .leg 0 .calls, .leg 0 .calls, .leg 0 .returns, .receiverReads 18]

/-- Where the first answers win on both ends, both pick the first session and all arrives. -/
theorem agreed_along_firstAnswers :
    ((meetingMachine twoSessions).run (meetingMachine twoSessions).init firstAnswers).map
        (fun last => (last.senderPick, last.receiverPick, last.got.length)) =
          some (some 0, some 0, (transferStream twoSessions.files).length) ∧
      (meetingMachine twoSessions).Along (Meeting.Agreed twoSessions)
        (meetingMachine twoSessions).init firstAnswers :=
  ⟨by decide, (agreed_along twoSessions firstAnswers (by decide)).1⟩

/-- The clients come to both sessions, and the relays of both give the go byte and the file count. -/
def bothAnswer : List MeetingAction :=
  [.senderArrives 0, .receiverArrives 0, .senderArrives 1, .receiverArrives 1,
    .leg 0 .starts, .leg 1 .starts, .leg 0 .calls, .leg 1 .calls, .leg 0 .calls, .leg 1 .calls]

/-- The sender then reads the one go byte first, and the receiver the other file count. -/
theorem parted_after_bothAnswer :
    ¬ ∀ (offer : FanOut) (actions : List MeetingAction),
      (meetingMachine offer).Along (Meeting.Agreed offer) (meetingMachine offer).init actions := by
  intro always
  let actions := bothAnswer ++ [.senderPicks 0, .receiverPicks 1]
  have picks : ((meetingMachine twoSessions).run (meetingMachine twoSessions).init actions).map
      (fun last => (last.senderPick, last.receiverPick)) = some (some 0, some 1) := by decide
  obtain ⟨last, ran, both⟩ := Option.map_eq_some_iff.mp picks
  obtain ⟨sender, receiver⟩ := Prod.mk.inj both
  have agreed := (always twoSessions actions).last ran
  exact absurd (agreed.same 0 1 sender receiver) (by decide)

end Gritty
