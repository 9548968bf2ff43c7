import Gritty.Transfer.FanOut

/-! How far a session comes with a sender and a receiver that wait at others too. -/

namespace Gritty

/-! ### What a relay does to the rendezvous of its session -/

namespace Rendezvous

variable {session next : Rendezvous} {relay : TransferRelay}

/-- The offer of the only relay is made while it is new. -/
theorem offer_single (only : session.relays = [relay]) (stepped : session.step (.offer 0) = some next) :
    relay.phase = .spawned ∧ next.relays = [{ relay with phase := .offered }] ∧
      next.notifications.length = session.notifications.length + 1 := by
  simp only [step, only, List.getElem?_cons_zero] at stepped
  obtain ⟨spawned, rfl⟩ := of_guarded stepped
  exact ⟨spawned, by simp [setPhase, notify, only], by simp [setPhase, notify]⟩

/-- The only relay is concluded after its offer. -/
theorem conclude_single {cancelled : Option String} (only : session.relays = [relay])
    (stepped : session.step (.conclude 0 cancelled) = some next) :
    relay.phase = .offered ∧ next.relays = [{ relay with phase := .concluded }] ∧
      next.notifications.length = session.notifications.length + 1 := by
  simp only [step, only, List.getElem?_cons_zero] at stepped
  obtain ⟨offered, rfl⟩ := of_guarded stepped
  exact ⟨offered, by simp [setPhase, notify, only], by simp [setPhase, notify]⟩

/-- The only relay is finished after it was concluded. -/
theorem finish_single (only : session.relays = [relay])
    (stepped : session.step (.finish 0) = some next) :
    relay.phase = .concluded ∧ next.relays = [{ relay with phase := .finished }] ∧
      next.notifications = session.notifications := by
  simp only [step, only, List.getElem?_cons_zero] at stepped
  obtain ⟨concluded, rfl⟩ := of_guarded stepped
  exact ⟨concluded, by simp [setPhase, only], rfl⟩

/-- Taking a notification leaves the relays alone. -/
theorem sendNotification_relays (stepped : session.step .sendNotification = some next) :
    next.relays = session.relays ∧
      next.notifications.length + 1 = session.notifications.length := by
  simp only [step] at stepped
  split at stepped
  · next frame later queued =>
    cases stepped
    rw [queued]
    unfold handleSendNotification
    split
    · split <;> exact ⟨rfl, rfl⟩
    · exact ⟨rfl, rfl⟩
  · simp at stepped

section Arrivals

variable {dead : StreamId → Bool} {first second : StreamId} {manifest : FileManifest}

/-- What an arrival does at a session where no relay was ever started. -/
theorem senderArrived_idle (idle : session.state = .idle) :
    session.handleSendEvent (.senderArrived second manifest) dead =
      { session with state := .waitingForReceiver second manifest } := by
  simp [handleSendEvent, relayRunning, idle]

theorem receiverArrived_idle (idle : session.state = .idle) :
    session.handleSendEvent (.receiverArrived second) dead =
      { session with state := .waitingForSender second } := by
  simp [handleSendEvent, relayRunning, idle]

/-- A sender that arrives is met by the waiting receiver, unless that one is gone. -/
theorem senderArrived_waiting (waiting : session.state = .waitingForSender first) :
    session.handleSendEvent (.senderArrived second manifest) dead =
      if dead first then { session with state := .waitingForReceiver second manifest }
      else session.spawnTransferRelay second first manifest := by
  simp [handleSendEvent, relayRunning, waiting]

/-- A receiver that arrives is met by the waiting sender, unless that one is gone. -/
theorem receiverArrived_waiting (waiting : session.state = .waitingForReceiver first manifest) :
    session.handleSendEvent (.receiverArrived second) dead =
      if dead first then { session with state := .waitingForSender second }
      else session.spawnTransferRelay first second manifest := by
  simp [handleSendEvent, relayRunning, waiting]

/-- An arrival starts at most one relay, and reports nothing. -/
theorem handleSendEvent_relays (none_ : session.relays = []) (event : SendEvent) :
    (session.handleSendEvent event dead).notifications = session.notifications ∧
      ((session.handleSendEvent event dead).relays = [] ∨
        ∃ relay, (session.handleSendEvent event dead).relays = [relay] ∧
          relay.phase = .spawned) := by
  have spawns (sender receiver : StreamId) (manifest : FileManifest) :
      (session.spawnTransferRelay sender receiver manifest).notifications = session.notifications ∧
        ((session.spawnTransferRelay sender receiver manifest).relays = [] ∨
          ∃ relay, (session.spawnTransferRelay sender receiver manifest).relays = [relay] ∧
            relay.phase = .spawned) :=
    ⟨rfl, Or.inr ⟨{ sender, receiver, manifest, phase := .spawned },
      by simp [spawnTransferRelay, none_], rfl⟩⟩
  unfold handleSendEvent
  split
  · cases event <;> exact ⟨rfl, Or.inl none_⟩
  · cases event with
    | senderArrived stream manifest =>
      simp only
      split
      · split
        · exact ⟨rfl, Or.inl none_⟩
        · exact spawns _ _ _
      · exact ⟨rfl, Or.inl none_⟩
      · exact ⟨rfl, Or.inl none_⟩
    | receiverArrived stream =>
      simp only
      split
      · split
        · exact ⟨rfl, Or.inl none_⟩
        · exact spawns _ _ _
      · exact ⟨rfl, Or.inl none_⟩

end Arrivals

end Rendezvous

/-! ### Where a session is -/

/-- The only relay that a session ever starts. -/
def FanOut.relay (offer : FanOut) (phase : RelayPhase) : TransferRelay where
  sender := senderStream
  receiver := receiverStream
  manifest := offer.manifest
  phase

namespace Leg

/-- What the relay will still write, from what the sender will still send, completes the transfer. -/
structure OnTrack (offer : FanOut) (unsent : Bytes) (leg : Leg) : Prop where
  stream : leg.toReceiver ++ written leg.calls (leg.fromSender ++ unsent) =
    transferStream offer.files
  demand : demand leg.calls = (leg.fromSender ++ unsent).length

/--
How far a session has come.

What its relay moves matters only while the sender may send there: it picked the session, or none.
-/
inductive Stage (offer : FanOut) (mine : Prop) (unsent : Bytes) (leg : Leg) : Prop where
  /-- An arrival is missing, or the first to arrive was gone when the other came. -/
  | waits (relays : leg.rendezvous.relays = []) (quiet : leg.rendezvous.notifications = [])
      (toSender : leg.toSender = []) (fromSender : leg.fromSender = [])
      (toReceiver : leg.toReceiver = [])
      (none_ : leg.senderCame = false → leg.receiverCame = false → leg.rendezvous.state = .idle)
      (sender : leg.senderCame = true → leg.receiverCame = false →
        leg.rendezvous.state = .waitingForReceiver senderStream offer.manifest)
      (receiver : leg.senderCame = false → leg.receiverCame = true →
        leg.rendezvous.state = .waitingForSender receiverStream)
      (missed : leg.senderCame = true → leg.receiverCame = true →
        leg.senderHolds = false ∨ leg.receiverHolds = false)
  | spawned (came : leg.senderCame = true ∧ leg.receiverCame = true)
      (relays : leg.rendezvous.relays = [offer.relay .spawned])
      (toSender : leg.toSender = []) (fromSender : leg.fromSender = [])
      (toReceiver : leg.toReceiver = [])
  | offered (came : leg.senderCame = true ∧ leg.receiverCame = true)
      (relays : leg.rendezvous.relays = [offer.relay .offered])
      (calls : leg.calls = relayCalls offer.manifest)
      (toSender : leg.toSender = []) (fromSender : leg.fromSender = [])
      (toReceiver : leg.toReceiver = [])
  | running (came : leg.senderCame = true ∧ leg.receiverCame = true)
      (relays : leg.rendezvous.relays = [offer.relay .offered])
      (calls : .signal ∉ leg.calls) (toSender : leg.toSender = [transferGoPaired])
      (track : mine → leg.OnTrack offer unsent)
  | done (came : leg.senderCame = true ∧ leg.receiverCame = true) (phase : RelayPhase)
      (ended : phase = .concluded ∨ phase = .finished)
      (relays : leg.rendezvous.relays = [offer.relay phase])
      (toSender : leg.toSender = [transferGoPaired])
      (whole : mine → leg.toReceiver = transferStream offer.files ∧ unsent = [])
  /-- A peer of the relay had let go of its end. -/
  | cancelled (came : leg.senderCame = true ∧ leg.receiverCame = true) (phase : RelayPhase)
      (ended : phase = .concluded ∨ phase = .finished)
      (relays : leg.rendezvous.relays = [offer.relay phase])
      (gone : leg.senderHolds = false ∨ leg.receiverHolds = false)
      (toSender : leg.toSender = [] ∨ leg.toSender = [transferGoPaired])
      (toReceiver : leg.toReceiver ≠ [] → leg.toSender = [transferGoPaired])

/-- What every event of a session leaves as it was. -/
structure Extends (leg next : Leg) : Prop where
  senderHolds : next.senderHolds = leg.senderHolds
  receiverHolds : next.receiverHolds = leg.receiverHolds
  toSender : leg.toSender = [transferGoPaired] → next.toSender = [transferGoPaired]
  toReceiver : leg.toReceiver <+: next.toReceiver

variable {offer : FanOut} {mine : Prop} {unsent : Bytes} {leg next : Leg}

/-- Where the sender does not send, it does not matter what it still has to send. -/
theorem Stage.recast {other : Prop} {rest : Bytes} (stage : leg.Stage offer mine unsent)
    (fewer : other → mine) (same : other → rest = unsent) : leg.Stage offer other rest := by
  cases stage with
  | waits relays quiet toSender fromSender toReceiver none_ sender receiver missed =>
    exact .waits relays quiet toSender fromSender toReceiver none_ sender receiver missed
  | spawned came relays toSender fromSender toReceiver =>
    exact .spawned came relays toSender fromSender toReceiver
  | offered came relays calls toSender fromSender toReceiver =>
    exact .offered came relays calls toSender fromSender toReceiver
  | running came relays calls toSender track =>
    exact .running came relays calls toSender fun is => same is ▸ track (fewer is)
  | done came phase ended relays toSender whole =>
    exact .done came phase ended relays toSender fun is => same is ▸ whole (fewer is)
  | cancelled came phase ended relays gone toSender toReceiver =>
    exact .cancelled came phase ended relays gone toSender toReceiver

/-- A session keeps its place when the sender turns out to send elsewhere. -/
theorem Stage.imp {other : Prop} (stage : leg.Stage offer mine unsent) (fewer : other → mine) :
    leg.Stage offer other unsent :=
  stage.recast fewer fun _ => rfl

theorem Stage.foreign {rest : Bytes} (stage : leg.Stage offer mine unsent) (other : ¬ mine) :
    leg.Stage offer mine rest :=
  stage.recast id fun is => absurd is other

/-- A relay that ends does so from its calls. -/
theorem conclude_cases {reason : Option String} (relays : leg.rendezvous.relays = [offer.relay .offered])
    (stepped : leg.conclude reason = some next) :
    ∃ rendezvous, next = { leg with rendezvous, calls := [] } ∧
      rendezvous.relays = [offer.relay .concluded] ∧
      rendezvous.notifications.length = leg.rendezvous.notifications.length + 1 := by
  obtain ⟨rendezvous, went, rfl⟩ := Option.map_eq_some_iff.mp stepped
  exact ⟨rendezvous, rfl, (Rendezvous.conclude_single relays went).2⟩

/-- A relay whose peer is gone is cancelled. -/
theorem Stage.conclude {reason : Option String}
    (came : leg.senderCame = true ∧ leg.receiverCame = true)
    (relays : leg.rendezvous.relays = [offer.relay .offered])
    (gone : leg.senderHolds = false ∨ leg.receiverHolds = false)
    (toSender : leg.toSender = [] ∨ leg.toSender = [transferGoPaired])
    (toReceiver : leg.toReceiver ≠ [] → leg.toSender = [transferGoPaired])
    (stepped : leg.conclude reason = some next) :
    next.Stage offer mine unsent ∧ leg.Extends next := by
  obtain ⟨rendezvous, rfl, after, -⟩ := conclude_cases relays stepped
  exact ⟨.cancelled came .concluded (Or.inl rfl) after gone toSender toReceiver,
    rfl, rfl, fun signalled => signalled, List.prefix_refl _⟩

/-- A relay that has given its go byte moves data as long as its peers stay, and is cancelled otherwise. -/
theorem Stage.call (came : leg.senderCame = true ∧ leg.receiverCame = true)
    (relays : leg.rendezvous.relays = [offer.relay .offered])
    (toSender : leg.toSender = [transferGoPaired]) (track : mine → leg.OnTrack offer unsent)
    {later : List RelayCall} {call : RelayCall} (calls : leg.calls = call :: later)
    (body : .signal ∉ leg.calls) (stepped : leg.call later call = some next) :
    next.Stage offer mine unsent ∧ leg.Extends next := by
  have ahead : .signal ∉ later := fun inside => body (calls ▸ List.mem_cons_of_mem _ inside)
  cases call with
  | signal => exact absurd (calls ▸ List.mem_cons_self) body
  | write bytes =>
    simp only [Leg.call] at stepped
    split at stepped
    · cases stepped
      refine ⟨.running came relays ahead toSender fun is => ?_, rfl, rfl, fun signalled => signalled,
        List.prefix_append ..⟩
      obtain ⟨stream, count⟩ := track is
      rw [calls] at stream count
      exact ⟨by rw [List.append_assoc]; exact stream, count⟩
    · next gone =>
      exact Stage.conclude came relays (Or.inr (by simpa using gone)) (Or.inr toSender)
        (fun _ => toSender) stepped
  | pull count =>
    simp only [Leg.call] at stepped
    split at stepped
    · next arrived =>
      split at stepped
      · cases stepped
        refine ⟨.running came relays ahead toSender fun is => ?_, rfl, rfl,
          fun signalled => signalled, List.prefix_append ..⟩
        obtain ⟨stream, counted⟩ := track is
        rw [calls, written, List.take_append_of_le_length arrived,
          List.drop_append_of_le_length arrived] at stream
        rw [calls, demand, List.length_append] at counted
        refine ⟨by rw [List.append_assoc]; exact stream, ?_⟩
        show demand later = (leg.fromSender.drop count ++ unsent).length
        rw [List.length_append, List.length_drop]
        omega
      · next gone =>
        -- The bytes that were read are lost, which changes nothing for a cancelled relay.
        let left : Leg := { leg with fromSender := leg.fromSender.drop count }
        have concluded : next.Stage offer mine unsent ∧ left.Extends next :=
          Stage.conclude came relays (Or.inr (by simpa using gone)) (Or.inr toSender)
            (fun _ => toSender) stepped
        obtain ⟨stage, extends_⟩ := concluded
        exact ⟨stage, extends_.senderHolds, extends_.receiverHolds, extends_.toSender,
          extends_.toReceiver⟩
    · split at stepped
      · simp at stepped
      · next gone =>
        exact Stage.conclude came relays (Or.inl (by simpa using gone)) (Or.inr toSender)
          (fun _ => toSender) stepped

/-- What can happen at a session with a relay. -/
theorem step_cases {phase : RelayPhase} (relays : leg.rendezvous.relays = [offer.relay phase])
    {event : LegEvent} (stepped : leg.step event = some next) :
    (phase = .spawned ∧ ∃ rendezvous, rendezvous.relays = [offer.relay .offered] ∧
      rendezvous.notifications.length = leg.rendezvous.notifications.length + 1 ∧
      next = { leg with rendezvous, calls := relayCalls offer.manifest }) ∨
    (phase = .offered ∧ ∃ call later, leg.calls = call :: later ∧
      leg.call later call = some next) ∨
    (phase = .offered ∧ leg.calls = [] ∧ leg.conclude none = some next) ∨
    (phase = .concluded ∧ ∃ rendezvous, rendezvous.relays = [offer.relay .finished] ∧
      rendezvous.notifications = leg.rendezvous.notifications ∧ next = { leg with rendezvous }) ∨
    ∃ rendezvous, rendezvous.relays = [offer.relay phase] ∧
      rendezvous.notifications.length + 1 = leg.rendezvous.notifications.length ∧
      next = { leg with rendezvous } := by
  cases event with
  | starts =>
    simp only [Leg.step, relays, List.getElem?_cons_zero] at stepped
    obtain ⟨rendezvous, went, rfl⟩ := Option.map_eq_some_iff.mp stepped
    obtain ⟨spawned, after, queued⟩ := Rendezvous.offer_single relays went
    exact Or.inl ⟨spawned, rendezvous, after, queued, rfl⟩
  | calls =>
    simp only [Leg.step, Leg.phase, relays, List.getElem?_cons_zero, Option.map_some,
      Option.some.injEq] at stepped
    split at stepped
    · next offered =>
      cases calls : leg.calls with
      | nil =>
        rw [calls] at stepped
        exact Or.inr (Or.inr (Or.inl ⟨offered, rfl, stepped⟩))
      | cons call later =>
        rw [calls] at stepped
        exact Or.inr (Or.inl ⟨offered, call, later, rfl, stepped⟩)
    · simp at stepped
  | returns =>
    obtain ⟨rendezvous, went, rfl⟩ := Option.map_eq_some_iff.mp stepped
    obtain ⟨concluded, after, queued⟩ := Rendezvous.finish_single relays went
    exact Or.inr (Or.inr (Or.inr (Or.inl ⟨concluded, rendezvous, after, queued, rfl⟩)))
  | notified =>
    obtain ⟨rendezvous, went, rfl⟩ := Option.map_eq_some_iff.mp stepped
    obtain ⟨same, queued⟩ := Rendezvous.sendNotification_relays went
    exact Or.inr (Or.inr (Or.inr (Or.inr ⟨rendezvous, same.trans relays, queued, rfl⟩)))

/-- At a session without a relay, nothing happens until an arrival. -/
theorem step_waiting (relays : leg.rendezvous.relays = [])
    (quiet : leg.rendezvous.notifications = []) (event : LegEvent) : leg.step event = none := by
  cases event <;> simp [Leg.step, Leg.phase, Rendezvous.step, relays, quiet]

/-- A session that goes on without a call leaves both streams as they were. -/
theorem extends_rendezvous (leg : Leg) (rendezvous : Rendezvous) (calls : List RelayCall) :
    leg.Extends { leg with rendezvous, calls } :=
  ⟨rfl, rfl, fun signalled => signalled, List.prefix_refl _⟩

/-- Whatever happens at a session, it comes further. -/
theorem Stage.step (stage : leg.Stage offer mine unsent)
    (fresh : mine → leg.toSender = [] → unsent = payload offer.files) {event : LegEvent}
    (stepped : leg.step event = some next) : next.Stage offer mine unsent ∧ leg.Extends next := by
  cases stage with
  | waits relays quiet => exact absurd (step_waiting relays quiet event) (by simp [stepped])
  | spawned came relays toSender fromSender toReceiver =>
    obtain ⟨-, rendezvous, after, -, rfl⟩ | ⟨other, -⟩ | ⟨other, -⟩ | ⟨other, -⟩ |
      ⟨rendezvous, after, -, rfl⟩ := step_cases relays stepped
    · exact ⟨.offered came after rfl toSender fromSender toReceiver, extends_rendezvous leg _ _⟩
    · simp at other
    · simp at other
    · simp at other
    · exact ⟨.spawned came after toSender fromSender toReceiver, extends_rendezvous leg _ _⟩
  | offered came relays calls toSender fromSender toReceiver =>
    obtain ⟨other, -⟩ | ⟨-, call, later, there, called⟩ | ⟨-, none_, -⟩ | ⟨other, -⟩ |
      ⟨rendezvous, after, -, rfl⟩ := step_cases relays stepped
    · simp at other
    · obtain ⟨rfl, rfl⟩ := List.cons.inj (calls.symm.trans there)
      simp only [Leg.call] at called
      split at called
      · -- The go byte is given, and from then on the relay follows what the sender will send.
        cases called
        have signalled : leg.toSender ++ [transferGoPaired] = [transferGoPaired] := by
          rw [toSender, List.nil_append]
        refine ⟨.running came relays (signal_not_mem_bodyCalls _) signalled fun is => ?_, rfl, rfl,
          fun _ => signalled, List.prefix_refl _⟩
        rw [fresh is toSender]
        refine ⟨?_, ?_⟩
        · simp only [toReceiver, fromSender, List.nil_append, offer.manifest_eq]
          exact written_bodyCalls offer.sized
        · simp only [fromSender, List.nil_append, offer.manifest_eq]
          exact demand_bodyCalls offer.sized
      · next gone =>
        exact Stage.conclude came relays (Or.inl (by simpa using gone)) (Or.inl toSender)
          (fun some_ => absurd toReceiver some_) called
    · rw [calls] at none_
      exact absurd none_ (by simp [relayCalls])
    · simp at other
    · exact ⟨.offered came after calls toSender fromSender toReceiver, extends_rendezvous leg _ _⟩
  | running came relays calls toSender track =>
    obtain ⟨other, -⟩ | ⟨-, call, later, there, called⟩ | ⟨-, none_, concluded⟩ | ⟨other, -⟩ |
      ⟨rendezvous, after, -, rfl⟩ := step_cases relays stepped
    · simp at other
    · exact Stage.call came relays toSender track there calls called
    · obtain ⟨rendezvous, rfl, after, -⟩ := conclude_cases relays concluded
      refine ⟨.done came .concluded (Or.inl rfl) after toSender fun is => ?_,
        extends_rendezvous leg _ _⟩
      obtain ⟨stream, counted⟩ := track is
      rw [none_, written, List.append_nil] at stream
      rw [none_, demand, List.length_append] at counted
      exact ⟨stream, List.eq_nil_of_length_eq_zero (by omega)⟩
    · simp at other
    · exact ⟨.running came after calls toSender fun is => ⟨(track is).stream, (track is).demand⟩,
        extends_rendezvous leg _ _⟩
  | done came phase ended relays toSender whole =>
    have over_ : phase ≠ .spawned ∧ phase ≠ .offered := by
      rcases ended with rfl | rfl <;> simp
    obtain ⟨other, -⟩ | ⟨other, -⟩ | ⟨other, -⟩ | ⟨-, rendezvous, after, -, rfl⟩ |
      ⟨rendezvous, after, -, rfl⟩ := step_cases relays stepped
    · exact absurd other over_.1
    · exact absurd other over_.2
    · exact absurd other over_.2
    · exact ⟨.done came .finished (Or.inr rfl) after toSender whole, extends_rendezvous leg _ _⟩
    · exact ⟨.done came phase ended after toSender whole, extends_rendezvous leg _ _⟩
  | cancelled came phase ended relays gone toSender toReceiver =>
    have over_ : phase ≠ .spawned ∧ phase ≠ .offered := by
      rcases ended with rfl | rfl <;> simp
    obtain ⟨other, -⟩ | ⟨other, -⟩ | ⟨other, -⟩ | ⟨-, rendezvous, after, -, rfl⟩ |
      ⟨rendezvous, after, -, rfl⟩ := step_cases relays stepped
    · exact absurd other over_.1
    · exact absurd other over_.2
    · exact absurd other over_.2
    · exact ⟨.cancelled came .finished (Or.inr rfl) after gone toSender toReceiver,
        extends_rendezvous leg _ _⟩
    · exact ⟨.cancelled came phase ended after gone toSender toReceiver,
        extends_rendezvous leg _ _⟩

/-- The first to arrive waits for the other, and is met unless it has let go of its end by then. -/
theorem Stage.senderArrives (stage : leg.Stage offer mine unsent) (absent : leg.senderCame = false) :
    ({ leg with senderCame := true }.arrive
      (.senderArrived senderStream offer.manifest)).Stage offer mine unsent := by
  cases stage with
  | waits relays quiet toSender fromSender toReceiver none_ sender receiver missed =>
    unfold Leg.arrive
    cases other : leg.receiverCame with
    | false =>
      rw [Rendezvous.senderArrived_idle (none_ absent other)]
      exact .waits relays quiet toSender fromSender toReceiver (by simp) (fun _ _ => rfl) (by simp)
        (by simp)
    | true =>
      rw [Rendezvous.senderArrived_waiting (receiver absent other)]
      split
      · next dead =>
        exact .waits relays quiet toSender fromSender toReceiver (by simp) (by simp) (by simp)
          fun _ _ => Or.inr (by simpa [streamIsDead, receiverStream, senderStream] using dead)
      · refine .spawned ⟨rfl, rfl⟩ ?_ toSender fromSender toReceiver
        simp [Rendezvous.spawnTransferRelay, relays, FanOut.relay]
  | spawned came => exact absurd (absent.symm.trans came.1) (by simp)
  | offered came => exact absurd (absent.symm.trans came.1) (by simp)
  | running came => exact absurd (absent.symm.trans came.1) (by simp)
  | done came => exact absurd (absent.symm.trans came.1) (by simp)
  | cancelled came => exact absurd (absent.symm.trans came.1) (by simp)

/-- The receiver's arrival leaves the leg at a stage. -/
theorem Stage.receiverArrives (stage : leg.Stage offer mine unsent)
    (absent : leg.receiverCame = false) :
    ({ leg with receiverCame := true }.arrive
      (.receiverArrived receiverStream)).Stage offer mine unsent := by
  cases stage with
  | waits relays quiet toSender fromSender toReceiver none_ sender receiver missed =>
    unfold Leg.arrive
    cases other : leg.senderCame with
    | false =>
      rw [Rendezvous.receiverArrived_idle (none_ other absent)]
      exact .waits relays quiet toSender fromSender toReceiver (by simp) (by simp) (fun _ _ => rfl)
        (by simp)
    | true =>
      rw [Rendezvous.receiverArrived_waiting (sender other absent)]
      split
      · next dead =>
        exact .waits relays quiet toSender fromSender toReceiver (by simp) (by simp) (by simp)
          fun _ _ => Or.inl (by simpa [streamIsDead] using dead)
      · refine .spawned ⟨rfl, rfl⟩ ?_ toSender fromSender toReceiver
        simp [Rendezvous.spawnTransferRelay, relays, FanOut.relay]
  | spawned came => exact absurd (absent.symm.trans came.2) (by simp)
  | offered came => exact absurd (absent.symm.trans came.2) (by simp)
  | running came => exact absurd (absent.symm.trans came.2) (by simp)
  | done came => exact absurd (absent.symm.trans came.2) (by simp)
  | cancelled came => exact absurd (absent.symm.trans came.2) (by simp)

/-- A client that lets go of its end leaves the session where it is. -/
theorem Stage.drops (stage : leg.Stage offer mine unsent) {senderHolds receiverHolds : Bool}
    (sender : leg.senderHolds = false → senderHolds = false)
    (receiver : leg.receiverHolds = false → receiverHolds = false) :
    ({ leg with senderHolds, receiverHolds } : Leg).Stage offer mine unsent := by
  have gone (was : leg.senderHolds = false ∨ leg.receiverHolds = false) :
      senderHolds = false ∨ receiverHolds = false := was.imp sender receiver
  cases stage with
  | waits relays quiet toSender fromSender toReceiver none_ first second missed =>
    exact .waits relays quiet toSender fromSender toReceiver none_ first second
      fun one other => gone (missed one other)
  | spawned came relays toSender fromSender toReceiver =>
    exact .spawned came relays toSender fromSender toReceiver
  | offered came relays calls toSender fromSender toReceiver =>
    exact .offered came relays calls toSender fromSender toReceiver
  | running came relays calls toSender track =>
    exact .running came relays calls toSender fun is => ⟨(track is).stream, (track is).demand⟩
  | done came phase ended relays toSender whole =>
    exact .done came phase ended relays toSender whole
  | cancelled came phase ended relays was toSender toReceiver =>
    exact .cancelled came phase ended relays (gone was) toSender toReceiver

/-- What the sender sends to its session is all taken from what it has still to send. -/
theorem Stage.senderStreams (stage : leg.Stage offer mine unsent)
    (signalled : leg.toSender = [transferGoPaired]) (count : Nat) (is : mine)
    (some_ : unsent ≠ []) :
    ({ leg with fromSender := leg.fromSender ++ unsent.take count } : Leg).Stage offer mine
      (unsent.drop count) := by
  cases stage with
  | waits relays quiet toSender => exact absurd (toSender.symm.trans signalled) (by simp)
  | spawned came relays toSender => exact absurd (toSender.symm.trans signalled) (by simp)
  | offered came relays calls toSender => exact absurd (toSender.symm.trans signalled) (by simp)
  | running came relays calls toSender track =>
    refine .running came relays calls toSender fun is => ⟨?_, ?_⟩
    · simp only [List.append_assoc, List.take_append_drop]
      exact (track is).stream
    · simp only [List.append_assoc, List.take_append_drop]
      exact (track is).demand
  | done came phase ended relays toSender whole => exact absurd (whole is).2 some_
  | cancelled came phase ended relays was toSender toReceiver =>
    exact .cancelled came phase ended relays was toSender toReceiver

/-- A session where nothing more happens, and whose ends are all held, gave its go byte: its relay is through, or waits for the sender. -/
theorem Stage.stuck (stage : leg.Stage offer mine unsent) (still : ∀ event, leg.step event = none)
    (came : leg.senderCame = true ∧ leg.receiverCame = true) (senderHolds : leg.senderHolds = true)
    (receiverHolds : leg.receiverHolds = true) :
    leg.toSender = [transferGoPaired] ∧
      ((leg.phase = some .finished ∧
          (mine → leg.toReceiver = transferStream offer.files ∧ unsent = [])) ∨
        (leg.phase = some .offered ∧ (mine → unsent ≠ []))) := by
  have held (gone : leg.senderHolds = false ∨ leg.receiverHolds = false) : False := by
    rcases gone with gone | gone
    · exact absurd (gone.symm.trans senderHolds) (by simp)
    · exact absurd (gone.symm.trans receiverHolds) (by simp)
  -- A relay that has started can make its next call, unless that call reads what is not there.
  have concludes (relays : leg.rendezvous.relays = [offer.relay .offered]) (reason : Option String) :
      leg.conclude reason ≠ none := by
    simp [Leg.conclude, Rendezvous.step, relays, FanOut.relay]
  cases stage with
  | waits relays quiet toSender fromSender toReceiver none_ sender receiver missed =>
    exact absurd (missed came.1 came.2) held
  | spawned came relays =>
    have starts := still .starts
    simp [Leg.step, Rendezvous.step, relays, FanOut.relay] at starts
  | offered came relays calls toSender =>
    have called := still .calls
    simp [Leg.step, Leg.phase, relays, FanOut.relay, calls, relayCalls, Leg.call, senderHolds] at called
  | running came relays calls toSender track =>
    refine ⟨toSender, Or.inr ⟨by simp [Leg.phase, relays, FanOut.relay], fun is empty => ?_⟩⟩
    have called := still .calls
    have phase : leg.phase = some .offered := by simp [Leg.phase, relays, FanOut.relay]
    simp only [Leg.step, phase, if_true] at called
    have counted := (track is).demand
    cases ahead : leg.calls with
    | nil =>
      rw [ahead] at called
      exact concludes relays none called
    | cons call later =>
      rw [ahead] at called counted
      cases call with
      | signal => exact calls (ahead ▸ List.mem_cons_self)
      | write bytes => simp [Leg.call, receiverHolds] at called
      | pull count =>
        rw [demand, empty, List.append_nil] at counted
        have arrived : count ≤ leg.fromSender.length := by omega
        simp [Leg.call, receiverHolds, arrived] at called
  | done came phase ended relays toSender whole =>
    refine ⟨toSender, Or.inl ⟨?_, whole⟩⟩
    rcases ended with rfl | rfl
    · have returns := still .returns
      simp [Leg.step, Rendezvous.step, relays, FanOut.relay] at returns
    · simp [Leg.phase, relays, FanOut.relay]
  | cancelled came phase ended relays gone => exact absurd gone held

/-- A sender is written the go byte, or nothing. -/
theorem Stage.toSender_cases (stage : leg.Stage offer mine unsent) :
    leg.toSender = [] ∨ leg.toSender = [transferGoPaired] := by
  cases stage with
  | waits relays quiet toSender => exact Or.inl toSender
  | spawned came relays toSender => exact Or.inl toSender
  | offered came relays calls toSender => exact Or.inl toSender
  | running came relays calls toSender => exact Or.inr toSender
  | done came phase ended relays toSender => exact Or.inr toSender
  | cancelled came phase ended relays gone toSender => exact toSender

/-- A relay that has returned between two peers that held on did all its work. -/
theorem Stage.finished (stage : leg.Stage offer mine unsent) (closed : leg.phase = some .finished)
    (senderHolds : leg.senderHolds = true) (receiverHolds : leg.receiverHolds = true) :
    leg.toSender = [transferGoPaired] ∧
      (mine → leg.toReceiver = transferStream offer.files ∧ unsent = []) := by
  cases stage with
  | waits relays => simp [Leg.phase, relays] at closed
  | spawned came relays => simp [Leg.phase, relays, FanOut.relay] at closed
  | offered came relays => simp [Leg.phase, relays, FanOut.relay] at closed
  | running came relays => simp [Leg.phase, relays, FanOut.relay] at closed
  | done came phase ended relays toSender whole => exact ⟨toSender, whole⟩
  | cancelled came phase ended relays gone => simp [senderHolds, receiverHolds] at gone

/-- The go byte comes before the file count. -/
theorem Stage.signalled (stage : leg.Stage offer mine unsent) (some_ : leg.toReceiver ≠ []) :
    leg.toSender = [transferGoPaired] := by
  cases stage with
  | waits relays quiet toSender fromSender toReceiver => exact absurd toReceiver some_
  | spawned came relays toSender fromSender toReceiver => exact absurd toReceiver some_
  | offered came relays calls toSender fromSender toReceiver => exact absurd toReceiver some_
  | running came relays calls toSender => exact toSender
  | done came phase ended relays toSender => exact toSender
  | cancelled came phase ended relays gone toSender toReceiver => exact toReceiver some_

/-- A relay between peers that hold on writes no more than the transfer. -/
theorem Stage.toReceiver_length (stage : leg.Stage offer mine unsent) (is : mine)
    (senderHolds : leg.senderHolds = true) (receiverHolds : leg.receiverHolds = true) :
    leg.toReceiver.length ≤ (transferStream offer.files).length := by
  cases stage with
  | waits relays quiet toSender fromSender toReceiver => simp [toReceiver]
  | spawned came relays toSender fromSender toReceiver => simp [toReceiver]
  | offered came relays calls toSender fromSender toReceiver => simp [toReceiver]
  | running came relays calls toSender track =>
    rw [← (track is).stream, List.length_append]
    omega
  | done came phase ended relays toSender whole => rw [(whole is).1]
  | cancelled came phase ended relays gone => simp [senderHolds, receiverHolds] at gone

/-! ### How much can still happen at a session -/

/-- What is left to do for a relay: so many calls of all, and a few events around them. -/
def phaseWeight (all left : Nat) : RelayPhase → Nat
  | .spawned => all + 8
  | .offered => left + 5
  | .concluded => 2
  | .finished => 1

def relayWeight (offer : FanOut) (leg : Leg) : Nat :=
  match leg.phase with
  | some phase => phaseWeight (relayCalls offer.manifest).length leg.calls.length phase
  | none => 0

/-- What the clients can still do to a session. An arrival may start a relay. -/
def clientWeight (offer : FanOut) (leg : Leg) : Nat :=
  (if leg.senderCame then 0 else (relayCalls offer.manifest).length + 9) +
    (if leg.receiverCame then 0 else (relayCalls offer.manifest).length + 9) +
    (if leg.senderHolds then 1 else 0) + (if leg.receiverHolds then 1 else 0)

/-- A bound on what can still happen at a session. -/
def weight (offer : FanOut) (leg : Leg) : Nat :=
  clientWeight offer leg + relayWeight offer leg + leg.rendezvous.notifications.length

/-- What is left to do of the only relay is counted by its phase. -/
theorem relayWeight_of_phase (leg : Leg) {phase : RelayPhase}
    (relays : leg.rendezvous.relays = [offer.relay phase]) :
    relayWeight offer leg =
      phaseWeight (relayCalls offer.manifest).length leg.calls.length phase := by
  simp only [relayWeight, Leg.phase, relays, List.getElem?_cons_zero, Option.map_some, FanOut.relay]

/-- A relay that ends gives up its calls for one notification. -/
theorem weight_conclude {reason : Option String}
    (relays : leg.rendezvous.relays = [offer.relay .offered])
    (stepped : leg.conclude reason = some next) : next.weight offer < leg.weight offer := by
  obtain ⟨rendezvous, rfl, after, queued⟩ := conclude_cases relays stepped
  have before := relayWeight_of_phase leg relays
  have ended : relayWeight offer { leg with rendezvous, calls := [] } = 2 := by
    rw [relayWeight_of_phase { leg with rendezvous, calls := [] } after]
    rfl
  have clients : clientWeight offer { leg with rendezvous, calls := [] } = clientWeight offer leg :=
    rfl
  simp only [phaseWeight] at before
  simp only [weight, ended, clients]
  omega

/-- Every call of a relay leaves fewer calls, or ends it. -/
theorem weight_call (relays : leg.rendezvous.relays = [offer.relay .offered])
    {later : List RelayCall} {call : RelayCall} (calls : leg.calls = call :: later)
    (stepped : leg.call later call = some next) : next.weight offer < leg.weight offer := by
  -- Whatever was moved, the relay is where it was, with one call less.
  have fewer {moved : Leg} (same : moved.rendezvous = leg.rendezvous) (left : moved.calls = later)
      (clients : clientWeight offer moved = clientWeight offer leg) :
      moved.weight offer < leg.weight offer := by
    have before := relayWeight_of_phase leg relays
    have after : relayWeight offer moved = moved.calls.length + 5 :=
      relayWeight_of_phase moved (same ▸ relays)
    simp only [phaseWeight, calls, List.length_cons] at before
    rw [weight, weight, same, after, clients, before, left]
    omega
  cases call with
  | signal =>
    simp only [Leg.call] at stepped
    split at stepped
    · cases stepped
      exact fewer rfl rfl rfl
    · exact weight_conclude relays stepped
  | write bytes =>
    simp only [Leg.call] at stepped
    split at stepped
    · cases stepped
      exact fewer rfl rfl rfl
    · exact weight_conclude relays stepped
  | pull count =>
    simp only [Leg.call] at stepped
    split at stepped
    · split at stepped
      · cases stepped
        exact fewer rfl rfl rfl
      · -- The bytes that were read weigh nothing.
        let left : Leg := { leg with fromSender := leg.fromSender.drop count }
        have concluded : next.weight offer < left.weight offer := weight_conclude relays stepped
        exact concluded
    · split at stepped
      · simp at stepped
      · exact weight_conclude relays stepped

/-- Everything that happens at a session takes something off. -/
theorem Stage.weight_step (stage : leg.Stage offer mine unsent) {event : LegEvent}
    (stepped : leg.step event = some next) : next.weight offer < leg.weight offer := by
  have single : leg.rendezvous.relays = [] ∧ leg.rendezvous.notifications = [] ∨
      ∃ phase, leg.rendezvous.relays = [offer.relay phase] := by
    cases stage with
    | waits relays quiet => exact Or.inl ⟨relays, quiet⟩
    | spawned came relays => exact Or.inr ⟨_, relays⟩
    | offered came relays => exact Or.inr ⟨_, relays⟩
    | running came relays => exact Or.inr ⟨_, relays⟩
    | done came phase ended relays => exact Or.inr ⟨phase, relays⟩
    | cancelled came phase ended relays => exact Or.inr ⟨phase, relays⟩
  rcases single with ⟨none_, quiet⟩ | ⟨phase, relays⟩
  · exact absurd (step_waiting none_ quiet event) (by simp [stepped])
  · have before := relayWeight_of_phase leg relays
    obtain ⟨rfl, rendezvous, after, queued, rfl⟩ | ⟨rfl, call, later, calls, called⟩ |
      ⟨rfl, -, concluded⟩ | ⟨rfl, rendezvous, after, queued, rfl⟩ |
      ⟨rendezvous, after, queued, rfl⟩ := step_cases relays stepped
    · have started : relayWeight offer { leg with rendezvous, calls := relayCalls offer.manifest } =
          (relayCalls offer.manifest).length + 5 := by
        rw [relayWeight_of_phase { leg with rendezvous, calls := relayCalls offer.manifest } after]
        rfl
      have clients : clientWeight offer { leg with rendezvous, calls := relayCalls offer.manifest } =
          clientWeight offer leg := rfl
      simp only [phaseWeight] at before
      simp only [weight, started, clients]
      omega
    · exact weight_call relays calls called
    · exact weight_conclude relays concluded
    · have ended : relayWeight offer { leg with rendezvous } = 1 := by
        rw [relayWeight_of_phase { leg with rendezvous } after]
        rfl
      have clients : clientWeight offer { leg with rendezvous } = clientWeight offer leg := rfl
      simp only [phaseWeight] at before
      simp only [weight, ended, clients, queued]
      omega
    · have same : relayWeight offer { leg with rendezvous } = relayWeight offer leg :=
        Eq.trans (relayWeight_of_phase _ after) before.symm
      have clients : clientWeight offer { leg with rendezvous } = clientWeight offer leg := rfl
      simp only [weight, same, clients]
      omega

/-- An arrival weighs more than the relay that it may start. -/
theorem Stage.weight_arrive (stage : leg.Stage offer mine unsent)
    (absent : leg.senderCame = false ∨ leg.receiverCame = false) (event : SendEvent)
    {senderCame receiverCame : Bool}
    (lighter : clientWeight offer { leg with senderCame, receiverCame } +
      (relayCalls offer.manifest).length + 9 ≤ clientWeight offer leg) :
    ({ leg with senderCame, receiverCame }.arrive event).weight offer < leg.weight offer := by
  have relays : leg.rendezvous.relays = [] := by
    cases stage with
    | waits relays => exact relays
    | spawned came => simp [came] at absent
    | offered came => simp [came] at absent
    | running came => simp [came] at absent
    | done came => simp [came] at absent
    | cancelled came => simp [came] at absent
  let came : Leg := { leg with senderCame, receiverCame }
  have arrived : (came.arrive event).rendezvous.notifications = leg.rendezvous.notifications ∧
      ((came.arrive event).rendezvous.relays = [] ∨
        ∃ relay, (came.arrive event).rendezvous.relays = [relay] ∧ relay.phase = .spawned) :=
    Rendezvous.handleSendEvent_relays relays event
  obtain ⟨queued, started⟩ := arrived
  have small : relayWeight offer (came.arrive event) ≤ (relayCalls offer.manifest).length + 8 := by
    rcases started with none_ | ⟨relay, single, spawned⟩
    · simp [relayWeight, Leg.phase, none_]
    · simp [relayWeight, Leg.phase, single, spawned, phaseWeight]
  have clients : clientWeight offer (came.arrive event) =
      clientWeight offer { leg with senderCame, receiverCame } := rfl
  have total : (came.arrive event).weight offer < leg.weight offer := by
    rw [weight, weight, queued, clients]
    omega
  exact total

end Leg

end Gritty
