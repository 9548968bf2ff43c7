import Gritty.Relay.ForwardSystem
import Gritty.Relay.ForwardTable

/-! What both ends of the port forwards know of each other, whatever is on the way between them. -/

namespace Gritty

namespace ForwardSystem

/-- The forwards that the server knows after one more frame. A listener of its own it may fail to bind. -/
def learns (known : UInt32 → Bool) (frame : Frame) (forwardId : UInt32) : Bool :=
  match frame with
  | .portForwardRequest id direction _ _ => known forwardId || (id == forwardId && direction != 0)
  | .portForwardStop id => known forwardId && id != forwardId
  | _ => known forwardId

/-- Every request to open a channel reaches a server that knows the forward. -/
def Reaches (known : UInt32 → Bool) : List Frame → Prop
  | [] => True
  | frame :: later =>
    (∀ forwardId channelId targetPort,
      frame = .portForwardOpen forwardId channelId targetPort → known forwardId = true) ∧
      Reaches (learns known frame) later

/-- Knowing more forwards before a frame is knowing more after it. -/
theorem learns_mono {known more : UInt32 → Bool} (frame : Frame)
    (grows : ∀ forwardId, known forwardId = true → more forwardId = true) :
    ∀ forwardId, learns known frame forwardId = true → learns more frame forwardId = true := by
  intro forwardId before
  -- Only a request adds a forward to what is known, and only a stop takes one away.
  cases frame with
  | portForwardRequest id direction listenPort targetPort =>
    simp only [learns, Bool.or_eq_true] at before ⊢
    exact before.imp_left (grows forwardId)
  | portForwardStop id =>
    simp only [learns, Bool.and_eq_true] at before ⊢
    exact ⟨grows forwardId before.1, before.2⟩
  | _ => exact grows forwardId before

/-- Frames that reach known forwards do so when more are known. -/
theorem Reaches.mono {known more : UInt32 → Bool} {frames : List Frame}
    (reaches : Reaches known frames)
    (grows : ∀ forwardId, known forwardId = true → more forwardId = true) :
    Reaches more frames := by
  induction frames generalizing known more with
  | nil => trivial
  | cons frame later ih =>
    obtain ⟨first, rest⟩ := reaches
    -- The forwards that are known at each frame only get more, so the induction has to allow for that.
    exact ⟨fun forwardId channelId targetPort opens =>
      grows forwardId (first forwardId channelId targetPort opens),
      ih rest (learns_mono frame grows)⟩

/-- Who knows more learns more from the same frames. -/
theorem foldl_learns_mono {known more : UInt32 → Bool} (frames : List Frame)
    (grows : ∀ forwardId, known forwardId = true → more forwardId = true) :
    ∀ forwardId, frames.foldl learns known forwardId = true →
      frames.foldl learns more forwardId = true := by
  induction frames generalizing known more with
  | nil => exact grows
  | cons frame later ih => exact ih (learns_mono frame grows)

/-- A frame sent last must not name a forward that the server will not know by then. -/
theorem reaches_append {known : UInt32 → Bool} {frames : List Frame} {frame : Frame}
    (reaches : Reaches known frames)
    (last : ∀ forwardId channelId targetPort,
      frame = .portForwardOpen forwardId channelId targetPort →
        frames.foldl learns known forwardId = true) : Reaches known (frames ++ [frame]) := by
  -- The induction goes along the link, and what is known by its end is what the last frame finds.
  induction frames generalizing known with
  | nil => exact ⟨last, trivial⟩
  | cons first later ih => exact ⟨reaches.1, ih reaches.2 last⟩

/-- Whether the server knows a forward. -/
def known (system : ForwardSystem) (forwardId : UInt32) : Bool :=
  (system.table.forwards.lookup forwardId).isSome

/-- What holds between the ends of the port forwards in every state. -/
structure Orderly (system : ForwardSystem) : Prop where
  /-- A connection accepted by the server has an odd number and its listener's forward. -/
  waits : ∀ forwardId channelId conn,
    .accepted forwardId channelId conn ∈ system.events →
      system.owners.lookup channelId = some forwardId ∧ channelId.toNat % 2 = 1
  /-- A connection accepted by the client has an even number and its listener's forward. -/
  clientWaits : ∀ forwardId channelId conn,
    .accepted forwardId channelId conn ∈ system.client.queue →
      system.owners.lookup channelId = some forwardId ∧ channelId.toNat % 2 = 0 ∧
        forwardId ∈ system.client.listeners
  opens : ∀ forwardId channelId targetPort,
    .portForwardOpen forwardId channelId targetPort ∈ system.toClient →
      system.owners.lookup channelId = some forwardId ∧ channelId.toNat % 2 = 1
  clientOpens : ∀ forwardId channelId targetPort,
    .portForwardOpen forwardId channelId targetPort ∈ system.client.sent →
      system.owners.lookup channelId = some forwardId ∧ channelId.toNat % 2 = 0
  holds : ∀ channelId forwardId conn,
    system.table.channels.lookup channelId = some (forwardId, conn) →
      system.owners.lookup channelId = some forwardId
  clientHolds : ∀ channelId forwardId conn,
    system.client.channels.lookup channelId = some (forwardId, conn) →
      system.owners.lookup channelId = some forwardId
  /-- The forward of a number has had a listener. -/
  listened : ∀ channelId forwardId, system.owners.lookup channelId = some forwardId →
    forwardId ∈ system.listeners ∨ forwardId ∈ system.client.listeners
  number : system.table.nextChannelId.toNat % 2 = 1
  clientNumber : system.client.nextChannelId.toNat % 2 = 0
  /-- A forward that the client listens for is known to the server by the time a channel of it is. -/
  serves : ∀ forwardId ∈ system.client.listeners,
    (system.client.forwards.lookup forwardId).isSome = true →
      system.client.sent.foldl learns system.known forwardId = true
  reaches : Reaches system.known system.client.sent
  /-- The client does not listen for a forward that waits for the server to listen. -/
  pending : ∀ forwardId, (system.client.pendingLf.lookup forwardId).isSome = true →
    forwardId ∉ system.client.listeners
  /-- A forward is asked for once, and is not there before. -/
  asked : ∀ forwardId direction listenPort targetPort,
    .portForwardRequest forwardId direction listenPort targetPort ∈ system.client.sent →
      system.known forwardId = false ∧ forwardId ∉ system.listeners ∧
        (direction = 0 → forwardId ∉ system.client.listeners)
  once : (system.client.sent.filterMap requested).Nodup
  /-- The server stops only a forward that it could not listen for. -/
  refused : ∀ forwardId, .portForwardStop forwardId ∈ system.toClient →
    forwardId ∉ system.listeners ∧ forwardId ∉ system.client.listeners ∧
      forwardId ∉ system.client.sent.filterMap requested
  /-- A forward that the client stopped may not be opened by the server any more. -/
  stopped : ∀ forwardId, .portForwardStop forwardId ∈ system.client.sent →
    system.client.clientInitiatedForwards.lookup forwardId = none
  /-- The server never asks the client to listen. -/
  unasked : ∀ forwardId listenPort targetPort,
    .portForwardListen forwardId listenPort targetPort ∉ system.toClient
  kept : system.table.Kept

/-! ### The server's side -/

section Server

variable {system : ForwardSystem}

/-- The server has taken a frame off the link: what it made of it fits what the ends know of each other. -/
theorem Orderly.taken (orderly : system.Orderly) {frame : Frame} {later frames : List Frame}
    {table : PortForwardTable} {listeners : List UInt32}
    (queued : system.client.sent = frame :: later)
    (learnt : ∀ forwardId, learns system.known frame forwardId = true →
      (table.forwards.lookup forwardId).isSome = true)
    (told : ∀ forwardId, (table.forwards.lookup forwardId).isSome = true →
      system.known forwardId = true ∨ requested frame = some forwardId)
    (listening : ∀ forwardId ∈ system.listeners, forwardId ∈ listeners)
    (bound : ∀ forwardId ∈ listeners,
      forwardId ∈ system.listeners ∨ requested frame = some forwardId ∧
        forwardId ∉ system.client.listeners)
    (holds : ∀ channelId forwardId conn,
      table.channels.lookup channelId = some (forwardId, conn) →
        system.owners.lookup channelId = some forwardId)
    (number : table.nextChannelId = system.table.nextChannelId)
    (unopened : ∀ forwardId channelId targetPort,
      .portForwardOpen forwardId channelId targetPort ∉ frames)
    (unasked : ∀ forwardId listenPort targetPort,
      .portForwardListen forwardId listenPort targetPort ∉ frames)
    (refused : ∀ forwardId, .portForwardStop forwardId ∈ frames →
      requested frame = some forwardId ∧ forwardId ∉ listeners ∧
        forwardId ∉ system.client.listeners)
    (kept : table.Kept) :
    Orderly { system with
      table, listeners
      client := { system.client with sent := later }
      toClient := system.toClient ++ frames } := by
  -- The frame has left the link, and everything behind it was there before.
  have behind : ∀ other ∈ later, other ∈ system.client.sent := fun other inside =>
    queued ▸ List.mem_cons_of_mem frame inside
  have once := orderly.once
  rw [queued] at once
  -- What the frame asks for is asked for by no later one.
  have apart : ∀ forwardId, requested frame = some forwardId →
      forwardId ∉ later.filterMap requested := by
    intro forwardId asks
    rw [List.filterMap_cons, asks] at once
    exact (List.nodup_cons.mp once).1
  have fewer : ∀ forwardId, forwardId ∈ later.filterMap requested →
      forwardId ∈ system.client.sent.filterMap requested := by
    intro forwardId inside
    obtain ⟨other, there, asks⟩ := List.mem_filterMap.mp inside
    exact List.mem_filterMap.mpr ⟨other, behind other there, asks⟩
  -- What is said of the client's tables and of the owners is not touched by a frame of the client.
  refine { orderly with
    clientOpens := fun forwardId channelId targetPort inside =>
      orderly.clientOpens forwardId channelId targetPort (behind _ inside)
    stopped := fun forwardId inside => orderly.stopped forwardId (behind _ inside)
    holds, kept
    number := number ▸ orderly.number
    opens := ?_, listened := ?_, serves := ?_, reaches := ?_, asked := ?_, once := ?_
    refused := ?_, unasked := ?_ }
  · intro forwardId channelId targetPort inside
    rcases List.mem_append.mp inside with before | new
    · exact orderly.opens forwardId channelId targetPort before
    · exact absurd new (unopened forwardId channelId targetPort)
  · intro channelId forwardId owned
    exact (orderly.listened channelId forwardId owned).imp_left (listening forwardId)
  · intro forwardId listens there
    -- The client's link is shorter by the frame, and the server knows what the frame has told it.
    have known := orderly.serves forwardId listens there
    rw [queued, List.foldl_cons] at known
    exact foldl_learns_mono later learnt forwardId known
  · have reaches := orderly.reaches
    rw [queued] at reaches
    exact reaches.2.mono learnt
  · intro forwardId direction listenPort targetPort inside
    obtain ⟨unknown, unlistened, elsewhere⟩ :=
      orderly.asked forwardId direction listenPort targetPort (behind _ inside)
    -- The frame that is asked for again would be a second request for one forward.
    have other : requested frame ≠ some forwardId := fun asks =>
      apart forwardId asks (List.mem_filterMap.mpr ⟨_, inside, rfl⟩)
    refine ⟨?_, fun listens => ?_, elsewhere⟩
    -- The server knows the forward only if it knew it before, or if this frame was the request.
    · rw [← Bool.not_eq_true]
      intro there
      rcases told forwardId there with before | asks
      · rw [unknown] at before
        exact absurd before (by decide)
      · exact other asks
    · rcases bound forwardId listens with before | ⟨asks, _⟩
      · exact unlistened before
      · exact other asks
  · rw [List.filterMap_cons] at once
    cases asks : requested frame with
    | none => simpa [asks] using once
    | some forwardId =>
      rw [asks] at once
      exact (List.nodup_cons.mp once).2
  · intro forwardId inside
    -- A stop on the way to the client was there before, or it refuses this very request.
    rcases List.mem_append.mp inside with before | new
    · obtain ⟨unlistened, elsewhere, unrequested⟩ := orderly.refused forwardId before
      refine ⟨fun listens => ?_, elsewhere, fun asks => unrequested (fewer forwardId asks)⟩
      rcases bound forwardId listens with there | ⟨asks, _⟩
      · exact unlistened there
      · apply unrequested
        rw [queued]
        exact List.mem_filterMap.mpr ⟨frame, List.mem_cons_self, asks⟩
    · obtain ⟨asks, unlistened, elsewhere⟩ := refused forwardId new
      exact ⟨unlistened, elsewhere, apart forwardId asks⟩
  · intro forwardId listenPort targetPort inside
    rcases List.mem_append.mp inside with before | new
    · exact orderly.unasked forwardId listenPort targetPort before
    · exact unasked forwardId listenPort targetPort new

/-- A frame that leaves the forwards as they are, and is answered with nothing or a close. -/
theorem Orderly.taken_quietly (orderly : system.Orderly) {frame : Frame}
    {later frames : List Frame} {table : PortForwardTable}
    (queued : system.client.sent = frame :: later)
    (unlearnt : learns system.known frame = system.known)
    (same : ∀ forwardId, (table.forwards.lookup forwardId).isSome = system.known forwardId)
    (holds : ∀ channelId forwardId conn,
      table.channels.lookup channelId = some (forwardId, conn) →
        system.owners.lookup channelId = some forwardId)
    (number : table.nextChannelId = system.table.nextChannelId)
    (closes : ∀ answer ∈ frames, ∃ channelId, answer = .portForwardClose channelId)
    (kept : table.Kept) :
    Orderly { system with
      table
      client := { system.client with sent := later }
      toClient := system.toClient ++ frames } := by
  refine orderly.taken queued ?_ ?_ (fun _ listens => listens) (fun _ listens => Or.inl listens)
    holds number ?_ ?_ ?_ kept
  -- The table knows the same forwards, so nothing has to be learnt.
  · intro forwardId known
    rw [same, ← unlearnt]
    exact known
  · intro forwardId there
    rw [same] at there
    exact Or.inl there
  · intro forwardId channelId targetPort inside
    -- Only closes are sent, and a close is none of the frames in question.
    obtain ⟨other, differs⟩ := closes _ inside
    cases differs
  · intro forwardId listenPort targetPort inside
    obtain ⟨other, differs⟩ := closes _ inside
    cases differs
  · intro forwardId inside
    obtain ⟨other, differs⟩ := closes _ inside
    cases differs

/-- Registering a channel keeps the numbering. -/
theorem register_number (table : PortForwardTable) (forwardId channelId : UInt32)
    (conn : ConnId) :
    (table.register forwardId channelId conn).nextChannelId = table.nextChannelId := by
  unfold PortForwardTable.register PortForwardTable.updateForward
  split <;> rfl

/-- Closing a channel keeps the numbering. -/
theorem close_number (table : PortForwardTable) (channelId : UInt32) :
    (table.close channelId).nextChannelId = table.nextChannelId := by
  unfold PortForwardTable.close PortForwardTable.updateForward
  split
  · split <;> rfl
  · rfl

/-- Stopping a forward keeps the numbering. -/
theorem portForwardStop_number (table : PortForwardTable) (forwardId : UInt32) :
    (table.portForwardStop forwardId).nextChannelId = table.nextChannelId := by
  unfold PortForwardTable.portForwardStop
  split <;> rfl

/-- A request keeps the numbering. -/
theorem portForwardRequest_number (table : PortForwardTable) (forwardId : UInt32)
    (direction : UInt8) (targetPort : UInt16) (bound : Option AcceptorId) :
    (table.portForwardRequest forwardId direction targetPort bound).1.nextChannelId =
      table.nextChannelId := by
  unfold PortForwardTable.portForwardRequest
  split
  · split <;> rfl
  · rfl

/-- The channels that a close leaves keep their forwards. -/
private theorem Orderly.close_holds (orderly : system.Orderly) (closed : UInt32) :
    ∀ channelId forwardId conn,
      (system.table.close closed).channels.lookup channelId = some (forwardId, conn) →
        system.owners.lookup channelId = some forwardId :=
  fun channelId forwardId conn found =>
    orderly.holds channelId forwardId conn (PortForwardTable.close_lookup found)

/-- The server knows the forward of a channel that it is asked to open. -/
theorem Orderly.knows (orderly : system.Orderly) {forwardId channelId : UInt32}
    {targetPort : UInt16} {later : List Frame}
    (queued : system.client.sent = .portForwardOpen forwardId channelId targetPort :: later) :
    system.known forwardId = true := by
  have reaches := orderly.reaches
  rw [queued] at reaches
  exact reaches.1 forwardId channelId targetPort rfl

/-- The server takes a frame of the client. -/
theorem Orderly.clientFrame (orderly : system.Orderly) {frame : Frame} {later : List Frame}
    (connected : Option ConnId) (bound : Option AcceptorId) (writerFull : Bool)
    (queued : system.client.sent = frame :: later)
    (fresh : ∀ forwardId channelId targetPort,
      frame = .portForwardOpen forwardId channelId targetPort →
        system.table.channels.lookup channelId = none) :
    ({ system with client := { system.client with sent := later } }.handleClientFrame frame
      connected bound writerFull).Orderly := by
  have noFrames : ∀ answer ∈ ([] : List Frame), ∃ channelId, answer = .portForwardClose channelId :=
    fun _ none => absurd none List.not_mem_nil
  have oneClose : ∀ closed, ∀ answer ∈ [Frame.portForwardClose closed],
      ∃ channelId, answer = .portForwardClose channelId :=
    fun closed answer there => ⟨closed, List.mem_singleton.mp there⟩
  have ignored (unlearnt : learns system.known frame = system.known) :
      Orderly { system with client := { system.client with sent := later } } := by
    simpa using orderly.taken_quietly queued unlearnt (fun _ => rfl) orderly.holds rfl
      noFrames orderly.kept
  cases frame with
  | portForwardOpen forwardId channelId targetPort =>
    have known : (system.table.forwards.lookup forwardId).isSome = true := orderly.knows queued
    have owned := (orderly.clientOpens forwardId channelId targetPort (by simp [queued])).1
    simp only [handleClientFrame, PortForwardTable.portForwardOpen]
    rw [if_pos known]
    cases connected with
    | none =>
      exact orderly.taken_quietly queued rfl (fun _ => rfl) orderly.holds rfl
        (oneClose channelId) orderly.kept
    | some conn =>
      refine orderly.taken_quietly queued rfl ?_ ?_ (register_number _ _ _ _) noFrames
        (orderly.kept.register conn known (fresh forwardId channelId targetPort rfl))
      · exact fun other => PortForwardTable.register_isSome _ _ _ _ _
      · intro other owner holder found
        rw [PortForwardTable.register_channels] at found
        by_cases same : other = channelId
        · rw [same, AList.lookup_insert, Option.some.injEq, Prod.mk.injEq] at found
          rw [same, owned, found.1]
        · rw [AList.lookup_insert_ne same] at found
          exact orderly.holds other owner holder found
  | portForwardData channelId bytes =>
    simp only [handleClientFrame, PortForwardTable.portForwardData]
    split
    · exact orderly.taken_quietly queued rfl
        (fun _ => PortForwardTable.close_isSome _ _ _) (orderly.close_holds channelId)
        (close_number _ _) (oneClose channelId) (orderly.kept.close channelId)
    · simpa using ignored rfl
  | portForwardClose channelId =>
    have closed := orderly.taken_quietly queued rfl
      (fun _ => PortForwardTable.close_isSome _ _ _) (orderly.close_holds channelId)
      (close_number _ _) noFrames (orderly.kept.close channelId)
    simpa [handleClientFrame] using closed
  | portForwardStop forwardId =>
    have stopped := orderly.taken queued ?_ ?_ (fun _ listens => listens)
      (fun _ listens => Or.inl listens) ?_ (portForwardStop_number system.table forwardId)
      (fun _ _ _ => List.not_mem_nil) (fun _ _ _ => List.not_mem_nil)
      (fun _ none => absurd none List.not_mem_nil) (orderly.kept.stop forwardId)
    · simpa [handleClientFrame] using stopped
    · intro other known
      simp only [learns, Bool.and_eq_true, bne_iff_ne, ne_eq] at known
      rw [PortForwardTable.portForwardStop_forwards, if_neg (Ne.symm known.2)]
      exact known.1
    · intro other there
      exact Or.inl (PortForwardTable.portForwardStop_isSome there)
    · intro channelId owner conn found
      exact orderly.holds channelId owner conn (PortForwardTable.portForwardStop_lookup found)
  | portForwardRequest forwardId direction listenPort targetPort =>
    obtain ⟨unknown, unlistened, elsewhere⟩ :=
      orderly.asked forwardId direction listenPort targetPort (by simp [queued])
    have absent : (system.table.forwards.lookup forwardId).isNone = true := by
      simpa [known] using unknown
    simp only [handleClientFrame]
    refine orderly.taken queued ?_ ?_ ?_ ?_ ?_ (portForwardRequest_number _ _ _ _ _) ?_ ?_ ?_
      (orderly.kept.request direction targetPort bound absent)
    · intro other known
      rw [PortForwardTable.portForwardRequest_lookup]
      simp only [learns, Bool.or_eq_true, Bool.and_eq_true, beq_iff_eq, bne_iff_ne] at known
      split
      · rfl
      · next unmet =>
        rcases known with before | ⟨same, remote⟩
        · exact before
        · exact absurd ⟨same.symm, Or.inl remote⟩ unmet
    · intro other there
      rcases PortForwardTable.portForwardRequest_isSome there with ⟨same, _⟩ | before
      · exact Or.inr (by rw [requested, same])
      · exact Or.inl before
    · intro other listens
      split
      · exact List.mem_append_left _ listens
      · exact listens
    · intro other listens
      split at listens
      · next local' =>
        rcases List.mem_append.mp listens with before | new
        · exact Or.inl before
        · rw [List.mem_singleton] at new
          have here : direction = 0 := by
            simpa using (Bool.and_eq_true_iff.mp local').1
          rw [new]
          exact Or.inr ⟨rfl, elsewhere here⟩
      · exact Or.inl listens
    · intro channelId owner conn found
      rw [PortForwardTable.portForwardRequest_channels] at found
      exact orderly.holds channelId owner conn found
    · intro other channelId port inside
      exact absurd inside (by
        unfold PortForwardTable.portForwardRequest; split <;> [split; skip] <;> simp)
    · intro other listen port inside
      exact absurd inside (by
        unfold PortForwardTable.portForwardRequest; split <;> [split; skip] <;> simp)
    · intro other inside
      -- A stop is sent only when the server could not listen.
      by_cases here : direction = 0
      · cases bound with
        | some acceptor => simp [PortForwardTable.portForwardRequest, here] at inside
        | none =>
          simp only [PortForwardTable.portForwardRequest, here, if_true, List.mem_singleton,
            Frame.portForwardStop.injEq] at inside
          subst inside
          refine ⟨rfl, ?_, elsewhere here⟩
          simpa [here] using unlistened
      · simp [PortForwardTable.portForwardRequest, here] at inside
  | _ => exact ignored rfl

/-- The server handles an event: at most an opening of its own channel is new to the client. -/
theorem Orderly.handled (orderly : system.Orderly) {event : PortForwardEvent}
    {later : List PortForwardEvent} {frames : List Frame} {table : PortForwardTable}
    (queued : system.events = event :: later)
    (same : ∀ forwardId, (table.forwards.lookup forwardId).isSome = system.known forwardId)
    (holds : ∀ channelId forwardId conn,
      table.channels.lookup channelId = some (forwardId, conn) →
        system.owners.lookup channelId = some forwardId)
    (number : table.nextChannelId = system.table.nextChannelId)
    (opens : ∀ forwardId channelId targetPort,
      .portForwardOpen forwardId channelId targetPort ∈ frames →
        system.owners.lookup channelId = some forwardId ∧ channelId.toNat % 2 = 1)
    (unasked : ∀ forwardId listenPort targetPort,
      .portForwardListen forwardId listenPort targetPort ∉ frames)
    (unstopped : ∀ forwardId, .portForwardStop forwardId ∉ frames)
    (kept : table.Kept) :
    Orderly { system with table, events := later, toClient := system.toClient ++ frames } := by
  have behind : ∀ other ∈ later, other ∈ system.events := fun other inside =>
    queued ▸ List.mem_cons_of_mem event inside
  have known : ForwardSystem.known { system with
      table, events := later, toClient := system.toClient ++ frames } = system.known :=
    funext same
  refine { orderly with
    waits := fun forwardId channelId conn inside =>
      orderly.waits forwardId channelId conn (behind _ inside)
    holds, kept
    number := number ▸ orderly.number
    opens := ?_, serves := ?_, reaches := ?_, asked := ?_, refused := ?_, unasked := ?_ }
  · intro forwardId channelId targetPort inside
    rcases List.mem_append.mp inside with before | new
    · exact orderly.opens forwardId channelId targetPort before
    · exact opens forwardId channelId targetPort new
  · intro forwardId listens there
    rw [known]
    exact orderly.serves forwardId listens there
  · rw [known]
    exact orderly.reaches
  · rw [known]
    exact orderly.asked
  · intro forwardId inside
    rcases List.mem_append.mp inside with before | new
    · exact orderly.refused forwardId before
    · exact absurd new (unstopped forwardId)
  · intro forwardId listenPort targetPort inside
    rcases List.mem_append.mp inside with before | new
    · exact orderly.unasked forwardId listenPort targetPort before
    · exact unasked forwardId listenPort targetPort new

/-- The server takes an event of its listeners or relay tasks. -/
theorem Orderly.pfEvent (orderly : system.Orderly) {event : PortForwardEvent}
    {later : List PortForwardEvent} (queued : system.events = event :: later)
    (fresh : ∀ forwardId channelId conn, event = .accepted forwardId channelId conn →
      system.table.channels.lookup channelId = none) :
    Orderly { system with
      table := (system.table.handlePfEvent event).1
      events := later
      toClient := system.toClient ++ (system.table.handlePfEvent event).2 } := by
  cases event with
  | accepted forwardId channelId conn =>
    have owned := orderly.waits forwardId channelId conn (by simp [queued])
    simp only [PortForwardTable.handlePfEvent]
    cases there : system.table.forwards.lookup forwardId with
    | none =>
      exact orderly.handled queued (fun _ => rfl) orderly.holds rfl (by simp) (by simp) (by simp)
        orderly.kept
    | some forward =>
      refine orderly.handled queued (fun other => PortForwardTable.register_isSome _ _ _ _ _) ?_
        (register_number _ _ _ _) ?_ (by simp) (by simp)
        (orderly.kept.register conn (by rw [there]; rfl) (fresh forwardId channelId conn rfl))
      · intro other owner holder found
        rw [PortForwardTable.register_channels] at found
        by_cases same : other = channelId
        · rw [same, AList.lookup_insert, Option.some.injEq, Prod.mk.injEq] at found
          rw [same, owned.1, found.1]
        · rw [AList.lookup_insert_ne same] at found
          exact orderly.holds other owner holder found
      · intro other number targetPort inside
        rw [List.mem_singleton, Frame.portForwardOpen.injEq] at inside
        obtain ⟨rfl, rfl, rfl⟩ := inside
        exact owned
  | data channelId bytes =>
    simp only [PortForwardTable.handlePfEvent]
    split <;> exact orderly.handled queued (fun _ => rfl) orderly.holds rfl (by simp) (by simp)
      (by simp) orderly.kept
  | closed channelId =>
    simp only [PortForwardTable.handlePfEvent]
    split
    · exact orderly.handled queued (fun _ => PortForwardTable.close_isSome _ _ _)
        (orderly.close_holds channelId) (close_number _ _) (by simp) (by simp) (by simp)
        (orderly.kept.close channelId)
    · exact orderly.handled queued (fun _ => rfl) orderly.holds rfl (by simp) (by simp) (by simp)
        orderly.kept

/-- The next number of a side keeps its parity. -/
theorem next_parity (number : UInt32) : (number + 2).toNat % 2 = number.toNat % 2 := by
  have two : (2 : UInt32).toNat = 2 := rfl
  rw [UInt32.toNat_add, two]
  omega

/-- A relay task of the server reports something that opens no channel. -/
theorem Orderly.reports (orderly : system.Orderly) {event : PortForwardEvent}
    (unopened : event.opening = none) :
    Orderly { system with events := system.events ++ [event] } := by
  refine { orderly with waits := fun forwardId channelId conn inside => ?_ }
  rcases List.mem_append.mp inside with before | new
  · exact orderly.waits forwardId channelId conn before
  · rw [← List.mem_singleton.mp new] at unopened
    simp at unopened

/-- A listener of the server accepts a connection under a number that nothing is left of. -/
theorem Orderly.accepts (orderly : system.Orderly) {forwardId : UInt32}
    (listens : forwardId ∈ system.listeners) (conn : ConnId)
    (unused : (system.serverChannel system.table.nextChannelId).Unused) :
    Orderly { system with
      table := { system.table with nextChannelId := system.table.nextChannelId + 2 }
      events := system.events ++ [.accepted forwardId system.table.nextChannelId conn]
      owners := system.owners.insert system.table.nextChannelId forwardId } := by
  obtain ⟨⟨waiting, opener, answerer, toAnswerer⟩, _⟩ := unused
  have odd := orderly.number
  -- Whatever is about another number keeps its forward.
  have other {channelId owner : UInt32} (owned : system.owners.lookup channelId = some owner)
      (differs : channelId ≠ system.table.nextChannelId) :
      (system.owners.insert system.table.nextChannelId forwardId).lookup channelId = some owner := by
    rw [AList.lookup_insert_ne differs, owned]
  refine { orderly with
    waits := ?_, clientWaits := ?_, opens := ?_, clientOpens := ?_, holds := ?_, clientHolds := ?_
    listened := ?_
    number := (next_parity _).trans odd
    kept := ⟨orderly.kept.held, orderly.kept.listed⟩ }
  · intro owner channelId holder inside
    rcases List.mem_append.mp inside with before | new
    · obtain ⟨owned, parity⟩ := orderly.waits owner channelId holder before
      refine ⟨other owned ?_, parity⟩
      rintro rfl
      rw [serverChannel, List.countP_eq_zero] at waiting
      exact waiting _ before (by simp)
    · rw [List.mem_singleton, PortForwardEvent.accepted.injEq] at new
      obtain ⟨rfl, rfl, rfl⟩ := new
      exact ⟨AList.lookup_insert _, odd⟩
  · intro owner channelId holder inside
    obtain ⟨owned, parity, listened⟩ := orderly.clientWaits owner channelId holder inside
    refine ⟨other owned ?_, parity, listened⟩
    rintro rfl
    omega
  · intro owner channelId targetPort inside
    obtain ⟨owned, parity⟩ := orderly.opens owner channelId targetPort inside
    refine ⟨other owned ?_, parity⟩
    rintro rfl
    exact toAnswerer (List.mem_filterMap.mpr ⟨_, inside, by simp [notice]⟩)
  · intro owner channelId targetPort inside
    obtain ⟨owned, parity⟩ := orderly.clientOpens owner channelId targetPort inside
    refine ⟨other owned ?_, parity⟩
    rintro rfl
    omega
  · intro channelId owner holder found
    refine other (orderly.holds channelId owner holder found) ?_
    rintro rfl
    rw [serverChannel, found] at opener
    simp at opener
  · intro channelId owner holder found
    refine other (orderly.clientHolds channelId owner holder found) ?_
    rintro rfl
    rw [serverChannel, found] at answerer
    simp at answerer
  · intro channelId owner owned
    by_cases same : channelId = system.table.nextChannelId
    · rw [same, AList.lookup_insert, Option.some.injEq] at owned
      exact Or.inl (owned ▸ listens)
    · rw [AList.lookup_insert_ne same] at owned
      exact orderly.listened channelId owner owned

end Server

/-! ### The client's side -/

section Client

variable {system : ForwardSystem}

/-- The client has handled something, and sent at most one frame, which asks for no forward. -/
theorem Orderly.answered (orderly : system.Orderly) {client : ClientForwards}
    {toClient : List Frame} {frame : Option Frame}
    (taken : ∀ other ∈ toClient, other ∈ system.toClient)
    (sent : client.sent = system.client.sent ++ frame.toList)
    (listeners : client.listeners = system.client.listeners)
    (number : client.nextChannelId = system.client.nextChannelId)
    (waits : ∀ forwardId channelId conn, .accepted forwardId channelId conn ∈ client.queue →
      .accepted forwardId channelId conn ∈ system.client.queue)
    (holds : ∀ channelId forwardId conn,
      client.channels.lookup channelId = some (forwardId, conn) →
        system.owners.lookup channelId = some forwardId)
    (forwards : ∀ forwardId, (client.forwards.lookup forwardId).isSome = true →
      (system.client.forwards.lookup forwardId).isSome = true ∨
        forwardId ∉ system.client.listeners)
    (pending : ∀ forwardId, (client.pendingLf.lookup forwardId).isSome = true →
      (system.client.pendingLf.lookup forwardId).isSome = true)
    (initiated : ∀ forwardId, system.client.clientInitiatedForwards.lookup forwardId = none →
      client.clientInitiatedForwards.lookup forwardId = none)
    (opens : ∀ forwardId channelId targetPort,
      frame = some (.portForwardOpen forwardId channelId targetPort) →
        system.owners.lookup channelId = some forwardId ∧ channelId.toNat % 2 = 0 ∧
          system.client.sent.foldl learns system.known forwardId = true)
    (unasking : frame.bind requested = none)
    (stops : ∀ forwardId, frame = some (.portForwardStop forwardId) →
      client.forwards.lookup forwardId = none ∧
        client.clientInitiatedForwards.lookup forwardId = none) :
    Orderly { system with client, toClient } := by
  have same : client.sent.filterMap requested = system.client.sent.filterMap requested := by
    rw [sent, List.filterMap_append]
    cases frame with
    | none => simp
    | some frame =>
      have quiet : requested frame = none := unasking
      simp [quiet]
  refine { orderly with
    clientHolds := holds
    clientWaits := ?_, opens := ?_, clientOpens := ?_, listened := ?_, clientNumber := ?_
    serves := ?_, reaches := ?_, pending := ?_, asked := ?_, once := ?_, refused := ?_
    stopped := ?_, unasked := ?_ }
  · intro forwardId channelId conn inside
    rw [listeners]
    exact orderly.clientWaits forwardId channelId conn (waits forwardId channelId conn inside)
  · exact fun forwardId channelId targetPort inside =>
      orderly.opens forwardId channelId targetPort (taken _ inside)
  · intro forwardId channelId targetPort inside
    rw [sent] at inside
    rcases List.mem_append.mp inside with before | new
    · exact orderly.clientOpens forwardId channelId targetPort before
    · obtain ⟨owned, parity, _⟩ := opens forwardId channelId targetPort (Option.mem_toList.mp new)
      exact ⟨owned, parity⟩
  · intro channelId forwardId owned
    rw [listeners]
    exact orderly.listened channelId forwardId owned
  · rw [number]
    exact orderly.clientNumber
  · intro forwardId listens there
    rw [listeners] at listens
    have known : system.client.sent.foldl learns system.known forwardId = true := by
      rcases forwards forwardId there with before | elsewhere
      · exact orderly.serves forwardId listens before
      · exact absurd listens elsewhere
    rw [sent, List.foldl_append]
    cases frame with
    | none => exact known
    | some frame =>
      cases frame with
      | portForwardStop stopped =>
        -- The forward that is stopped is not there any more.
        have other : stopped ≠ forwardId := by
          rintro rfl
          rw [(stops stopped rfl).1] at there
          simp at there
        simp only [Option.toList_some, List.foldl_cons, List.foldl_nil, learns,
          Bool.and_eq_true, bne_iff_ne]
        exact ⟨known, other⟩
      | portForwardRequest id direction listenPort targetPort => exact absurd unasking (by simp [requested])
      | _ => exact known
  · rw [sent]
    cases frame with
    | none =>
      rw [Option.toList_none, List.append_nil]
      exact orderly.reaches
    | some frame =>
      refine reaches_append orderly.reaches fun forwardId channelId targetPort last => ?_
      exact (opens forwardId channelId targetPort (by rw [last])).2.2
  · intro forwardId waiting
    rw [listeners]
    exact orderly.pending forwardId (pending forwardId waiting)
  · intro forwardId direction listenPort targetPort inside
    rw [listeners]
    have before : .portForwardRequest forwardId direction listenPort targetPort ∈
        system.client.sent := by
      rw [sent] at inside
      rcases List.mem_append.mp inside with before | new
      · exact before
      · rw [Option.mem_toList.mp new] at unasking
        exact absurd unasking (by simp [requested])
    exact orderly.asked forwardId direction listenPort targetPort before
  · rw [same]
    exact orderly.once
  · intro forwardId inside
    rw [listeners, same]
    exact orderly.refused forwardId (taken _ inside)
  · intro forwardId inside
    rw [sent] at inside
    rcases List.mem_append.mp inside with before | new
    · exact initiated forwardId (orderly.stopped forwardId before)
    · exact (stops forwardId (Option.mem_toList.mp new)).2
  · exact fun forwardId listenPort targetPort inside =>
      orderly.unasked forwardId listenPort targetPort (taken _ inside)

/-- The channels that are left without one of them, or without a forward's, keep their forwards. -/
private theorem Orderly.fewer_holds (orderly : system.Orderly)
    {channels : ChannelMap (UInt32 × ConnId)}
    (fewer : ∀ channelId entry, channels.lookup channelId = some entry →
      system.client.channels.lookup channelId = some entry) :
    ∀ channelId forwardId conn, channels.lookup channelId = some (forwardId, conn) →
      system.owners.lookup channelId = some forwardId :=
  fun channelId forwardId conn found =>
    orderly.clientHolds channelId forwardId conn (fewer channelId (forwardId, conn) found)

/-- An entry of a table without one key is an entry of the table. -/
theorem lookup_of_erase {Value : Type} {table : ChannelMap Value} {erased key : UInt32}
    {value : Value} (found : (table.erase erased).lookup key = some value) :
    table.lookup key = some value := by
  by_cases same : key = erased
  · rw [same, AList.lookup_erase] at found
    simp at found
  · rwa [AList.lookup_erase_ne same] at found

/-- An entry of a table without some is an entry of the table. -/
theorem lookup_of_withoutForward {table : ChannelMap (UInt32 × ConnId)} {forwardId key : UInt32}
    {entry : UInt32 × ConnId}
    (found : (ClientForwards.withoutForward table forwardId).lookup key = some entry) :
    table.lookup key = some entry := by
  rw [ClientForwards.withoutForward, lookup_removeWhere, Option.filter_eq_some_iff] at found
  exact found.1

/-- The client takes a frame of the server. -/
theorem Orderly.serverFrame (orderly : system.Orderly) {frame : Frame} {later : List Frame}
    (connected : Option ConnId) (writerFull : Bool) (queued : system.toClient = frame :: later) :
    Orderly { system with
      client := system.client.handleServerFrame connected writerFull frame
      toClient := later } := by
  have taken : ∀ other ∈ later, other ∈ system.toClient := fun other inside =>
    queued ▸ List.mem_cons_of_mem frame inside
  -- A frame that changes at most the table of channels and is answered with a close, if at all.
  have quietly {client : ClientForwards} (answer : Option UInt32)
      (sent : client.sent = system.client.sent ++ (answer.map Frame.portForwardClose).toList)
      (same : client.listeners = system.client.listeners ∧
        client.nextChannelId = system.client.nextChannelId ∧
        client.queue = system.client.queue ∧ client.forwards = system.client.forwards ∧
        client.pendingLf = system.client.pendingLf ∧
        client.clientInitiatedForwards = system.client.clientInitiatedForwards)
      (holds : ∀ channelId forwardId conn,
        client.channels.lookup channelId = some (forwardId, conn) →
          system.owners.lookup channelId = some forwardId) :
      Orderly { system with client, toClient := later } := by
    obtain ⟨listeners, number, queue, forwards, pending, initiated⟩ := same
    refine orderly.answered taken sent listeners number ?_ holds ?_ ?_ ?_ ?_ ?_ ?_
    · exact fun forwardId channelId conn inside => queue ▸ inside
    · exact fun forwardId there => Or.inl (forwards ▸ there)
    · exact fun forwardId waiting => pending ▸ waiting
    · exact fun forwardId none => initiated ▸ none
    · cases answer <;> simp
    · cases answer <;> rfl
    · cases answer <;> simp
  have ignored : Orderly { system with toClient := later } :=
    quietly none (by simp) ⟨rfl, rfl, rfl, rfl, rfl, rfl⟩ orderly.clientHolds
  cases frame with
  | portForwardListen forwardId listenPort targetPort =>
    exact absurd (by simp [queued]) (orderly.unasked forwardId listenPort targetPort)
  | portForwardOpen forwardId channelId targetPort =>
    have owned := (orderly.opens forwardId channelId targetPort (by simp [queued])).1
    simp only [ClientForwards.handleServerFrame, ClientForwards.portForwardOpen]
    cases system.client.clientInitiatedForwards.lookup forwardId with
    | none => exact quietly (some channelId) rfl ⟨rfl, rfl, rfl, rfl, rfl, rfl⟩ orderly.clientHolds
    | some expectedPort =>
      cases connected with
      | none => exact quietly (some channelId) rfl ⟨rfl, rfl, rfl, rfl, rfl, rfl⟩ orderly.clientHolds
      | some conn =>
        refine quietly none (List.append_nil _).symm ⟨rfl, rfl, rfl, rfl, rfl, rfl⟩ ?_
        intro other owner holder found
        simp only [ClientForwards.note] at found
        by_cases same : other = channelId
        · rw [same, AList.lookup_insert, Option.some.injEq, Prod.mk.injEq] at found
          rw [same, owned, found.1]
        · rw [AList.lookup_insert_ne same] at found
          exact orderly.clientHolds other owner holder found
  | portForwardData channelId bytes =>
    simp only [ClientForwards.handleServerFrame, ClientForwards.portForwardData]
    split
    · exact quietly (some channelId) rfl ⟨rfl, rfl, rfl, rfl, rfl, rfl⟩
        (orderly.fewer_holds fun _ _ => lookup_of_erase)
    · exact ignored
  | portForwardClose channelId =>
    exact quietly none (List.append_nil _).symm ⟨rfl, rfl, rfl, rfl, rfl, rfl⟩
      (orderly.fewer_holds fun _ _ => lookup_of_erase)
  | portForwardReady forwardId =>
    simp only [ClientForwards.handleServerFrame, ClientForwards.portForwardReady]
    cases waits : system.client.pendingLf.lookup forwardId with
    | none => exact ignored
    | some process =>
      have elsewhere := orderly.pending forwardId (by rw [waits]; rfl)
      have noFrame : ∀ frame : Frame, (none : Option Frame) ≠ some frame := by simp
      refine orderly.answered taken (by exact (List.append_nil _).symm) rfl rfl
        (fun _ _ _ inside => inside) orderly.clientHolds ?_ ?_ (fun _ none => none)
        (fun _ _ _ none => absurd none (noFrame _)) rfl (fun _ none => absurd none (noFrame _))
      · intro other there
        by_cases same : other = forwardId
        · exact Or.inr (same ▸ elsewhere)
        · left
          simpa [ClientForwards.startPfKeepalive, ClientForwards.answer,
            AList.lookup_insert_ne same] using there
      · intro other waiting
        simp only [ClientForwards.startPfKeepalive, ClientForwards.answer] at waiting
        obtain ⟨value, found⟩ := Option.isSome_iff_exists.mp waiting
        rw [lookup_of_erase found]
        rfl
  | portForwardStop forwardId =>
    have noFrame : ∀ frame : Frame, (none : Option Frame) ≠ some frame := by simp
    have stopped {client : ClientForwards}
        (same : client.sent = system.client.sent ∧ client.listeners = system.client.listeners ∧
          client.nextChannelId = system.client.nextChannelId ∧
          client.queue = system.client.queue ∧ client.forwards = system.client.forwards ∧
          client.channels = system.client.channels ∧
          client.clientInitiatedForwards = system.client.clientInitiatedForwards)
        (pending : ∀ other, (client.pendingLf.lookup other).isSome = true →
          (system.client.pendingLf.lookup other).isSome = true) :
        Orderly { system with client := client.stopForward forwardId, toClient := later } := by
      obtain ⟨sent, listeners, number, queue, forwards, channels, initiated⟩ := same
      refine orderly.answered taken ?_ listeners number ?_ ?_ ?_ pending ?_
        (fun _ _ _ none => absurd none (noFrame _)) rfl (fun _ none => absurd none (noFrame _))
      · simpa [ClientForwards.stopForward, ClientForwards.note] using sent
      · exact fun _ _ _ inside => queue ▸ inside
      · refine orderly.fewer_holds fun channelId entry found => ?_
        rw [← channels]
        exact lookup_of_withoutForward found
      · intro other there
        obtain ⟨value, found⟩ := Option.isSome_iff_exists.mp there
        rw [← forwards, lookup_of_erase found]
        exact Or.inl rfl
      · intro other none
        simp only [ClientForwards.stopForward, ClientForwards.note, initiated]
        by_cases same : other = forwardId
        · rw [same, AList.lookup_erase]
        · rw [AList.lookup_erase_ne same, none]
    simp only [ClientForwards.handleServerFrame, ClientForwards.portForwardStop]
    cases system.client.pendingLf.lookup forwardId with
    | none => exact stopped ⟨rfl, rfl, rfl, rfl, rfl, rfl, rfl⟩ fun _ waiting => waiting
    | some process =>
      refine stopped ⟨rfl, rfl, rfl, rfl, rfl, rfl, rfl⟩ fun other waiting => ?_
      obtain ⟨value, found⟩ := Option.isSome_iff_exists.mp waiting
      rw [lookup_of_erase found]
      rfl
  | _ => exact ignored

/-- The client takes an event of its listeners, relay tasks or keepalive tasks. -/
theorem Orderly.clientEvent (orderly : system.Orderly) {event : ClientPortForwardEvent}
    {later : List ClientPortForwardEvent} (sends : Bool)
    (queued : system.client.queue = event :: later) :
    Orderly { system with
      client := { system.client with queue := later }.handlePfEvent sends event } := by
  have behind : ∀ forwardId channelId conn,
      ClientPortForwardEvent.accepted forwardId channelId conn ∈ later →
        .accepted forwardId channelId conn ∈ system.client.queue :=
    fun _ _ _ inside => queued ▸ List.mem_cons_of_mem event inside
  have ignored : Orderly { system with client := { system.client with queue := later } } := by
    refine orderly.answered (fun _ inside => inside) ?_ rfl rfl behind orderly.clientHolds
      (fun _ there => Or.inl there) (fun _ waiting => waiting) (fun _ none => none)
      (fun _ _ _ none => absurd none (Option.some_ne_none _).symm) rfl
      (fun _ none => absurd none (Option.some_ne_none _).symm)
    exact (List.append_nil _).symm
  -- A frame about a channel, which asks for no forward and stops none.
  have tells {channels : ChannelMap (UInt32 × ConnId)} (frame : Frame)
      (holds : ∀ channelId forwardId conn,
        channels.lookup channelId = some (forwardId, conn) →
          system.owners.lookup channelId = some forwardId)
      (opens : ∀ forwardId channelId targetPort,
        frame = .portForwardOpen forwardId channelId targetPort →
          system.owners.lookup channelId = some forwardId ∧ channelId.toNat % 2 = 0 ∧
            system.client.sent.foldl learns system.known forwardId = true)
      (unasking : requested frame = none)
      (unstopping : ∀ forwardId, frame ≠ .portForwardStop forwardId) :
      Orderly { system with
        client := { system.client with queue := later, channels }.sendOrEnd sends frame } := by
    cases sends <;>
      exact orderly.answered (fun _ inside => inside) rfl rfl rfl behind holds
        (fun _ there => Or.inl there) (fun _ waiting => waiting) (fun _ none => none)
        (fun forwardId channelId targetPort same =>
          opens forwardId channelId targetPort (Option.some.inj same))
        unasking (fun forwardId same => absurd (Option.some.inj same) (unstopping forwardId))
  cases event with
  | accepted forwardId channelId conn =>
    obtain ⟨owned, parity, listens⟩ :=
      orderly.clientWaits forwardId channelId conn (by simp [queued])
    simp only [ClientForwards.handlePfEvent]
    cases there : system.client.forwards.lookup forwardId with
    | none => exact ignored
    | some forward =>
      refine tells _ ?_ ?_ rfl (by simp)
      · intro other owner holder found
        by_cases same : other = channelId
        · rw [same, AList.lookup_insert, Option.some.injEq, Prod.mk.injEq] at found
          rw [same, owned, found.1]
        · rw [AList.lookup_insert_ne same] at found
          exact orderly.clientHolds other owner holder found
      · intro owner number targetPort same
        rw [Frame.portForwardOpen.injEq] at same
        obtain ⟨rfl, rfl, rfl⟩ := same
        exact ⟨owned, parity, orderly.serves forwardId listens (by rw [there]; rfl)⟩
  | data channelId bytes =>
    simp only [ClientForwards.handlePfEvent]
    split
    · exact tells _ orderly.clientHolds (by simp) rfl (by simp)
    · exact ignored
  | closed channelId =>
    simp only [ClientForwards.handlePfEvent]
    split
    · exact tells _ (orderly.fewer_holds fun _ _ => lookup_of_erase) (by simp) rfl (by simp)
    · exact ignored
  | forwardStopped forwardId =>
    have gone : (system.client.forwards.erase forwardId).lookup forwardId = none :=
      AList.lookup_erase _ _
    have barred : (system.client.clientInitiatedForwards.erase forwardId).lookup forwardId = none :=
      AList.lookup_erase _ _
    have initiated : ∀ other, system.client.clientInitiatedForwards.lookup other = none →
        (system.client.clientInitiatedForwards.erase forwardId).lookup other = none := by
      intro other none
      by_cases same : other = forwardId
      · rw [same, barred]
      · rw [AList.lookup_erase_ne same, none]
    have forwards : ∀ other, ((system.client.forwards.erase forwardId).lookup other).isSome = true →
        (system.client.forwards.lookup other).isSome = true ∨ other ∉ system.client.listeners := by
      intro other there
      obtain ⟨value, found⟩ := Option.isSome_iff_exists.mp there
      rw [lookup_of_erase found]
      exact Or.inl rfl
    have stops : ∀ other, some (Frame.portForwardStop forwardId) = some (.portForwardStop other) →
        (system.client.forwards.erase forwardId).lookup other = none ∧
          (system.client.clientInitiatedForwards.erase forwardId).lookup other = none := by
      intro other same
      rw [Option.some.injEq, Frame.portForwardStop.injEq] at same
      subst same
      exact ⟨gone, barred⟩
    cases sends <;>
      exact orderly.answered (fun _ inside => inside) rfl rfl rfl behind
        (orderly.fewer_holds fun _ _ => lookup_of_withoutForward) forwards
        (fun _ waiting => waiting) initiated (by simp) rfl stops

/-- A task of the client reports something that opens no channel. -/
theorem Orderly.clientReports (orderly : system.Orderly) {event : ClientPortForwardEvent}
    (keepalives : List UInt32) (unopened : event.opening = none) :
    Orderly { system with
      client := { system.client with keepalives }.enqueue event } := by
  refine orderly.answered (fun _ inside => inside) ?_ rfl rfl ?_ orderly.clientHolds
    (fun _ there => Or.inl there) (fun _ waiting => waiting) (fun _ none => none)
    (fun _ _ _ none => absurd none (Option.some_ne_none _).symm) rfl
    (fun _ none => absurd none (Option.some_ne_none _).symm)
  · exact (List.append_nil _).symm
  · intro forwardId channelId conn inside
    rcases List.mem_append.mp inside with before | new
    · exact before
    · rw [← List.mem_singleton.mp new] at unopened
      simp at unopened

/-- A listener of the client accepts a connection under a number that nothing is left of. -/
theorem Orderly.clientAccepts (orderly : system.Orderly) {forwardId : UInt32}
    (listens : forwardId ∈ system.client.listeners) (conn : ConnId)
    (unused : (system.clientChannel system.client.nextChannelId).Unused) :
    Orderly { system with
      client := system.client.takeId.enqueue
        (.accepted forwardId system.client.nextChannelId conn)
      owners := system.owners.insert system.client.nextChannelId forwardId } := by
  obtain ⟨⟨waiting, opener, answerer, toAnswerer⟩, _⟩ := unused
  have even := orderly.clientNumber
  have other {channelId owner : UInt32} (owned : system.owners.lookup channelId = some owner)
      (differs : channelId ≠ system.client.nextChannelId) :
      (system.owners.insert system.client.nextChannelId forwardId).lookup channelId =
        some owner := by
    rw [AList.lookup_insert_ne differs, owned]
  refine { orderly with
    waits := ?_, clientWaits := ?_, opens := ?_, clientOpens := ?_, holds := ?_, clientHolds := ?_
    listened := ?_
    clientNumber := (next_parity _).trans even }
  · intro owner channelId holder inside
    obtain ⟨owned, parity⟩ := orderly.waits owner channelId holder inside
    refine ⟨other owned ?_, parity⟩
    rintro rfl
    omega
  · intro owner channelId holder inside
    rcases List.mem_append.mp inside with before | new
    · obtain ⟨owned, parity, listened⟩ := orderly.clientWaits owner channelId holder before
      refine ⟨other owned ?_, parity, listened⟩
      rintro rfl
      rw [clientChannel, List.countP_eq_zero] at waiting
      exact waiting _ before (by simp)
    · rw [List.mem_singleton, ClientPortForwardEvent.accepted.injEq] at new
      obtain ⟨rfl, rfl, rfl⟩ := new
      exact ⟨AList.lookup_insert _, even, listens⟩
  · intro owner channelId targetPort inside
    obtain ⟨owned, parity⟩ := orderly.opens owner channelId targetPort inside
    refine ⟨other owned ?_, parity⟩
    rintro rfl
    omega
  · intro owner channelId targetPort inside
    obtain ⟨owned, parity⟩ := orderly.clientOpens owner channelId targetPort inside
    refine ⟨other owned ?_, parity⟩
    rintro rfl
    exact toAnswerer (List.mem_filterMap.mpr ⟨_, inside, by simp [notice]⟩)
  · intro channelId owner holder found
    refine other (orderly.holds channelId owner holder found) ?_
    rintro rfl
    rw [clientChannel, found] at answerer
    simp at answerer
  · intro channelId owner holder found
    refine other (orderly.clientHolds channelId owner holder found) ?_
    rintro rfl
    have there : system.client.channels.lookup system.client.nextChannelId =
        some (owner, holder) := found
    rw [clientChannel, there] at opener
    simp at opener
  · intro channelId owner owned
    by_cases same : channelId = system.client.nextChannelId
    · rw [same, AList.lookup_insert, Option.some.injEq] at owned
      exact Or.inr (owned ▸ listens)
    · rw [AList.lookup_insert_ne same] at owned
      exact orderly.listened channelId owner owned

/-- The client has asked the server for a forward under a number that nothing is left of. -/
theorem Orderly.requests (orderly : system.Orderly) {client : ClientForwards} {direction : UInt8}
    {listenPort targetPort : UInt16} (unused : system.ForwardUnused system.client.nextChannelId)
    (sent : client.sent = system.client.sent ++
      [.portForwardRequest system.client.nextChannelId direction listenPort targetPort])
    (same : client.queue = system.client.queue ∧ client.channels = system.client.channels ∧
      client.nextChannelId = system.client.nextChannelId + 2)
    (listeners : client.listeners = system.client.listeners ++
      if direction = 1 then [system.client.nextChannelId] else [])
    (forwards : ∀ forwardId ≠ system.client.nextChannelId,
      client.forwards.lookup forwardId = system.client.forwards.lookup forwardId)
    (pending : ∀ forwardId, (client.pendingLf.lookup forwardId).isSome = true →
      forwardId = system.client.nextChannelId ∧ direction = 0 ∨
        (system.client.pendingLf.lookup forwardId).isSome = true)
    (initiated : ∀ forwardId ≠ system.client.nextChannelId,
      client.clientInitiatedForwards.lookup forwardId =
        system.client.clientInitiatedForwards.lookup forwardId) :
    Orderly { system with client } := by
  obtain ⟨unlistened, elsewhere, unpending, absent, unasked, unstopped, unrefused⟩ := unused
  obtain ⟨queue, channels, number⟩ := same
  have unknown : system.known system.client.nextChannelId = false := by simpa [known] using absent
  -- The client listens for the new forward only if its direction is one.
  have listens {forwardId : UInt32} (inside : forwardId ∈ client.listeners) :
      forwardId ∈ system.client.listeners ∨
        forwardId = system.client.nextChannelId ∧ direction = 1 := by
    rw [listeners] at inside
    rcases List.mem_append.mp inside with before | new
    · exact Or.inl before
    · split at new
      · next remote => exact Or.inr ⟨List.mem_singleton.mp new, remote⟩
      · exact absurd new List.not_mem_nil
  have apart : (0 : UInt8) ≠ 1 := by decide
  refine { orderly with
    clientWaits := ?_, clientOpens := ?_, clientHolds := ?_, listened := ?_, clientNumber := ?_
    serves := ?_, reaches := ?_, pending := ?_, asked := ?_, once := ?_, refused := ?_
    stopped := ?_ }
  · intro forwardId channelId conn inside
    rw [queue] at inside
    obtain ⟨owned, parity, listened⟩ := orderly.clientWaits forwardId channelId conn inside
    exact ⟨owned, parity, listeners ▸ List.mem_append_left _ listened⟩
  · intro forwardId channelId port inside
    rw [sent] at inside
    rcases List.mem_append.mp inside with before | new
    · exact orderly.clientOpens forwardId channelId port before
    · simp at new
  · rw [channels]
    exact orderly.clientHolds
  · intro channelId forwardId owned
    exact (orderly.listened channelId forwardId owned).imp_right fun before =>
      listeners ▸ List.mem_append_left _ before
  · rw [number, next_parity]
    exact orderly.clientNumber
  · intro forwardId inside there
    rw [sent, List.foldl_append, List.foldl_cons, List.foldl_nil]
    simp only [learns, Bool.or_eq_true, Bool.and_eq_true, beq_iff_eq, bne_iff_ne]
    rcases listens inside with before | ⟨rfl, rfl⟩
    · have other : forwardId ≠ system.client.nextChannelId := by
        rintro rfl
        exact elsewhere before
      rw [forwards forwardId other] at there
      exact Or.inl (orderly.serves forwardId before there)
    · exact Or.inr ⟨rfl, by decide⟩
  · rw [sent]
    exact reaches_append orderly.reaches (by simp)
  · intro forwardId waiting inside
    rcases pending forwardId waiting with ⟨rfl, here⟩ | before
    · rcases listens inside with there | ⟨_, remote⟩
      · exact elsewhere there
      · exact apart (here.symm.trans remote)
    · rcases listens inside with there | ⟨rfl, _⟩
      · exact orderly.pending forwardId before there
      · rw [unpending] at before
        simp at before
  · intro forwardId way listen port inside
    rw [sent] at inside
    rcases List.mem_append.mp inside with before | new
    · obtain ⟨unknown', unlistened', elsewhere'⟩ := orderly.asked forwardId way listen port before
      refine ⟨unknown', unlistened', fun here inside => ?_⟩
      rcases listens inside with there | ⟨rfl, _⟩
      · exact elsewhere' here there
      · exact unasked (List.mem_filterMap.mpr ⟨_, before, rfl⟩)
    · rw [List.mem_singleton, Frame.portForwardRequest.injEq] at new
      obtain ⟨rfl, rfl, _, _⟩ := new
      refine ⟨unknown, unlistened, fun here inside => ?_⟩
      rcases listens inside with there | ⟨_, remote⟩
      · exact elsewhere there
      · exact apart (here.symm.trans remote)
  · rw [sent, List.filterMap_append]
    refine List.Nodup.append orderly.once (by simp [requested]) ?_
    intro forwardId before new
    rw [List.filterMap_cons, requested, List.filterMap_nil, List.mem_singleton] at new
    exact unasked (new ▸ before)
  · intro forwardId inside
    obtain ⟨unlistened', elsewhere', unasked'⟩ := orderly.refused forwardId inside
    have other : forwardId ≠ system.client.nextChannelId := by
      rintro rfl
      exact unrefused inside
    refine ⟨unlistened', fun inside' => ?_, fun asks => ?_⟩
    · rcases listens inside' with there | ⟨same, _⟩
      · exact elsewhere' there
      · exact other same
    · rw [sent, List.filterMap_append] at asks
      rcases List.mem_append.mp asks with before | new
      · exact unasked' before
      · rw [List.filterMap_cons, requested, List.filterMap_nil, List.mem_singleton] at new
        exact other new
  · intro forwardId inside
    rw [sent] at inside
    rcases List.mem_append.mp inside with before | new
    · have other : forwardId ≠ system.client.nextChannelId := by
        rintro rfl
        exact unstopped before
      rw [initiated forwardId other]
      exact orderly.stopped forwardId before
    · simp at new

/-- A process asks the client for a forward. -/
theorem Orderly.fwdRequest (orderly : system.Orderly) (process : Nat) (direction : UInt8)
    (listenPort targetPort : UInt16) (binds sends : Bool)
    (unused : system.ForwardUnused system.client.nextChannelId) :
    Orderly { system with
      client := system.client.handleFwdRequest process direction listenPort targetPort binds
        sends } := by
  have apart : (0 : UInt8) ≠ 1 := by decide
  -- What is left of a table that differs under the new number only.
  have other {Value : Type} (table : ChannelMap Value) (value : Value) :
      ∀ forwardId ≠ system.client.nextChannelId,
        (table.insert system.client.nextChannelId value).lookup forwardId =
          table.lookup forwardId :=
    fun forwardId differs => AList.lookup_insert_ne differs
  have twice {Value : Type} (table : ChannelMap Value) (value again : Value) :
      ∀ forwardId ≠ system.client.nextChannelId,
        ((table.insert system.client.nextChannelId value).insert system.client.nextChannelId
          again).lookup forwardId = table.lookup forwardId :=
    fun forwardId differs => by
      rw [AList.lookup_insert_ne differs, AList.lookup_insert_ne differs]
  unfold ClientForwards.handleFwdRequest
  by_cases remote : direction = 1
  · subst remote
    cases binds with
    | false =>
      -- Without a listener nothing is asked for, and only the number is used up.
      exact { orderly with clientNumber := (next_parity _).trans orderly.clientNumber }
    | true =>
      have listeners : system.client.listeners ++ [system.client.nextChannelId] =
          system.client.listeners ++
            if (1 : UInt8) = 1 then [system.client.nextChannelId] else [] := by rw [if_pos rfl]
      cases sends with
      | false =>
        exact orderly.requests unused rfl ⟨rfl, rfl, rfl⟩ listeners (other _ _)
          (fun _ waiting => Or.inr waiting) (fun _ _ => rfl)
      | true =>
        exact orderly.requests unused rfl ⟨rfl, rfl, rfl⟩ listeners (twice _ _ _)
          (fun _ waiting => Or.inr waiting) (fun _ _ => rfl)
  · have listeners : system.client.listeners = system.client.listeners ++
        if direction = 1 then [system.client.nextChannelId] else [] := by
      rw [if_neg remote, List.append_nil]
    simp only [remote, decide_false, Bool.false_and, Bool.false_eq_true, if_false]
    by_cases here : direction = 0
    · subst here
      cases sends with
      | false =>
        exact orderly.requests unused rfl ⟨rfl, rfl, rfl⟩ listeners (fun _ _ => rfl)
          (fun _ waiting => Or.inr waiting) (other _ _)
      | true =>
        refine orderly.requests unused rfl ⟨rfl, rfl, rfl⟩ listeners (fun _ _ => rfl) ?_ (other _ _)
        intro forwardId waiting
        by_cases same : forwardId = system.client.nextChannelId
        · exact Or.inl ⟨same, rfl⟩
        · have inserted : ((system.client.pendingLf.insert system.client.nextChannelId
              process).lookup forwardId).isSome = true := waiting
          rw [AList.lookup_insert_ne same] at inserted
          exact Or.inr inserted
    · simp only [here, if_false]
      cases sends with
      | false =>
        exact orderly.requests unused rfl ⟨rfl, rfl, rfl⟩ listeners (fun _ _ => rfl)
          (fun _ waiting => Or.inr waiting) (fun _ _ => rfl)
      | true =>
        exact orderly.requests unused rfl ⟨rfl, rfl, rfl⟩ listeners (other _ _)
          (fun _ waiting => Or.inr waiting) (fun _ _ => rfl)

end Client

end ForwardSystem

end Gritty
