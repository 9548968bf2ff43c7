import Gritty.Transfer.Delivery
import Gritty.Transfer.Rendezvous

/-! One sender and one receiver that both wait at several sessions, and what each session relays. -/

namespace Gritty

/-! ### The calls of a relay -/

/-- One call of a relay task on its sockets. -/
inductive RelayCall where
  /-- The go byte is written to the sender. -/
  | signal
  | write (bytes : Bytes)
  /-- So many bytes are read from the sender and written to the receiver. -/
  | pull (count : Nat)
  deriving DecidableEq

/-- How much of a file each turn of the data loop moves: a full buffer, and at last what remains. -/
def dataCounts (size : Nat) : List Nat :=
  List.replicate (size / (64 * 1024)) (64 * 1024) ++
    if size % (64 * 1024) = 0 then [] else [size % (64 * 1024)]

/-- The calls that move the data of one file. -/
def dataCalls (size : Nat) : List RelayCall := (dataCounts size).map .pull

/-- The calls for one file: its header, and its data. -/
def fileCalls (file : String × UInt64 × UInt32) : List RelayCall :=
  .write (putFile file) :: dataCalls file.2.1.toNat

/-- The calls behind the go byte: the file count, the files, and the sentinel. -/
def bodyCalls (manifest : FileManifest) : List RelayCall :=
  .write (putU32 manifest.fileCount) :: (manifest.files.flatMap fileCalls ++ [.write [0, 0]])

/-- Every call of a relay between peers that stay. -/
def relayCalls (manifest : FileManifest) : List RelayCall := .signal :: bodyCalls manifest

/-- What the calls write to the receiver when the sender sends these data. -/
def written : List RelayCall → Bytes → Bytes
  | [], _ => []
  | .signal :: later, sent => written later sent
  | .write bytes :: later, sent => bytes ++ written later sent
  | .pull count :: later, sent => sent.take count ++ written later (sent.drop count)

/-- How many bytes the calls read from the sender. -/
def demand : List RelayCall → Nat
  | [] => 0
  | .signal :: later => demand later
  | .write _ :: later => demand later
  | .pull count :: later => count + demand later

/-- Calls after calls demand what the one and the other do. -/
@[simp] theorem demand_append (first second : List RelayCall) :
    demand (first ++ second) = demand first + demand second := by
  induction first with
  | nil => simp [demand]
  | cons call later ih =>
    cases call with
    | pull count => simp only [List.cons_append, demand, ih, Nat.add_assoc]
    | signal => simpa only [List.cons_append, demand] using ih
    | write bytes => simpa only [List.cons_append, demand] using ih

/-- Reads take what they count, whatever the counts are. -/
theorem demand_pulls (counts : List Nat) : demand (counts.map .pull) = counts.sum := by
  induction counts with
  | nil => rfl
  | cons count counts ih => simp only [List.map_cons, demand, ih, List.sum_cons]

/-- Reads that take just the contents pass them on. -/
theorem written_pulls {counts : List Nat} {contents : Bytes} (whole : contents.length = counts.sum)
    (later : List RelayCall) (rest : Bytes) :
    written (counts.map .pull ++ later) (contents ++ rest) = contents ++ written later rest := by
  induction counts generalizing contents with
  | nil =>
    have empty : contents = [] := List.eq_nil_of_length_eq_zero whole
    simp [empty]
  | cons count counts ih =>
    rw [List.sum_cons] at whole
    have front : count ≤ contents.length := by omega
    have back : (contents.drop count).length = counts.sum := by
      rw [List.length_drop]
      omega
    rw [List.map_cons, List.cons_append, written, List.take_append_of_le_length front,
      List.drop_append_of_le_length front, ih back, ← List.append_assoc, List.take_append_drop]

/-- The turns of the data loop move the whole file. -/
theorem sum_dataCounts (size : Nat) : (dataCounts size).sum = size := by
  have split := Nat.div_add_mod size (64 * 1024)
  unfold dataCounts
  rw [List.sum_append, List.sum_replicate, smul_eq_mul]
  split
  · simp only [List.sum_nil]
    omega
  · simp only [List.sum_cons, List.sum_nil]
    omega

/-- The body of a transfer does not signal its end. -/
theorem signal_not_mem_bodyCalls (manifest : FileManifest) : .signal ∉ bodyCalls manifest := by
  simp [bodyCalls, fileCalls, dataCalls]

section Body

variable {files : List (SendEntry × Bytes)}
  (sized : ∀ file ∈ files, file.2.length = file.1.size.toNat)

include sized

/-- A relay reads as much as the sender streams. -/
theorem demand_bodyCalls :
    demand (bodyCalls { files := files.map fun file => file.1.announced }) =
      (payload files).length := by
  have each : demand (files.flatMap fun file => fileCalls file.1.announced) =
      (payload files).length := by
    induction files with
    | nil => rfl
    | cons file files ih =>
      have first : demand (fileCalls file.1.announced) = file.2.length := by
        rw [fileCalls, demand, dataCalls, demand_pulls, sum_dataCounts,
          sized file List.mem_cons_self]
        rfl
      rw [List.flatMap_cons, demand_append, first, payload_cons, List.length_append,
        ih fun other among => sized other (List.mem_cons_of_mem file among)]
  simp only [bodyCalls, List.flatMap_map, demand, demand_append, each, Nat.add_zero]

/-- Altogether, a relay writes what a receiver of the files is to read. -/
theorem written_bodyCalls :
    written (bodyCalls { files := files.map fun file => file.1.announced }) (payload files) =
      transferStream files := by
  have each : ∀ later, written ((files.flatMap fun file => fileCalls file.1.announced) ++ later)
      (payload files) = (files.flatMap fun file => putDelivered (file.1.announced, file.2)) ++
        written later [] := by
    intro later
    induction files with
    | nil => rfl
    | cons file files ih =>
      have whole : file.2.length = (dataCounts file.1.announced.2.1.toNat).sum := by
        rw [sum_dataCounts]
        exact sized file List.mem_cons_self
      rw [List.flatMap_cons, List.append_assoc, payload_cons, fileCalls, List.cons_append, written,
        dataCalls, written_pulls whole, List.flatMap_cons, putDelivered,
        ih fun other among => sized other (List.mem_cons_of_mem file among)]
      simp only [List.append_assoc]
  have count : FileManifest.fileCount { files := files.map fun file => file.1.announced } =
      UInt32.ofNat files.length := by
    rw [FileManifest.fileCount, List.length_map]
  simp only [bodyCalls, List.flatMap_map, written, each, count, transferStream, List.append_nil]

end Body

/-! ### One session -/

/-- The streams of a session, by the side that connected them. -/
def senderStream : StreamId := 0

def receiverStream : StreamId := 1

/-- A session that the sender and the receiver both found, and its two sockets. -/
structure Leg where
  /-- Which arrivals the session took from its queue. -/
  senderCame : Bool
  receiverCame : Bool
  rendezvous : Rendezvous
  /-- The calls that the relay has still to make. -/
  calls : List RelayCall
  toSender : Bytes
  fromSender : Bytes
  toReceiver : Bytes
  /-- Which clients still hold their end of the socket. -/
  senderHolds : Bool
  receiverHolds : Bool

namespace Leg

def new : Leg where
  senderCame := false
  receiverCame := false
  rendezvous := .new
  calls := []
  toSender := []
  fromSender := []
  toReceiver := []
  senderHolds := true
  receiverHolds := true

/-- A client that let go of its end leaves a dead stream. -/
def streamIsDead (leg : Leg) (stream : StreamId) : Bool :=
  if stream = senderStream then !leg.senderHolds else !leg.receiverHolds

/-- The session takes an arrival. -/
def arrive (leg : Leg) (event : SendEvent) : Leg :=
  { leg with rendezvous := leg.rendezvous.handleSendEvent event leg.streamIsDead }

/-- How far the relay of the session has come. -/
def phase (leg : Leg) : Option RelayPhase := leg.rendezvous.relays[0]?.map (·.phase)

/-- The relay comes to its end, and reports it. -/
def conclude (leg : Leg) (cancelled : Option String) : Option Leg :=
  (leg.rendezvous.step (.conclude 0 cancelled)).map fun rendezvous =>
    { leg with rendezvous, calls := [] }

/-- One call of the relay. A read waits for its bytes as long as the sender holds its end. -/
def call (leg : Leg) (later : List RelayCall) : RelayCall → Option Leg
  | .signal =>
    if leg.senderHolds then
      some { leg with calls := later, toSender := leg.toSender ++ [transferGoPaired] }
    else leg.conclude (some "sender disconnected")
  | .write bytes =>
    if leg.receiverHolds then
      some { leg with calls := later, toReceiver := leg.toReceiver ++ bytes }
    else leg.conclude (some "receiver disconnected")
  | .pull count =>
    if count ≤ leg.fromSender.length then
      let left := { leg with fromSender := leg.fromSender.drop count }
      if leg.receiverHolds then
        some { left with
          calls := later, toReceiver := leg.toReceiver ++ leg.fromSender.take count }
      else left.conclude (some "receiver disconnected")
    else if leg.senderHolds then none
    else leg.conclude (some "sender disconnected")

end Leg

/-- What the relay of a session does next, and what the session does about it. -/
inductive LegEvent where
  /-- The relay starts, with its offer. -/
  | starts
  | calls
  /-- The relay returns, and the session's ends of both sockets are closed. -/
  | returns
  /-- The session takes a notification. -/
  | notified

/-- One event of a session. -/
def Leg.step (leg : Leg) : LegEvent → Option Leg
  | .starts =>
    match leg.rendezvous.relays[0]? with
    | some relay =>
      (leg.rendezvous.step (.offer 0)).map fun rendezvous =>
        { leg with rendezvous, calls := relayCalls relay.manifest }
    | none => none
  | .calls =>
    if leg.phase = some .offered then
      match leg.calls with
      | next :: later => leg.call later next
      | [] => leg.conclude none
    else none
  | .returns => (leg.rendezvous.step (.finish 0)).map fun rendezvous => { leg with rendezvous }
  | .notified =>
    (leg.rendezvous.step .sendNotification).map fun rendezvous => { leg with rendezvous }

/-! ### The two clients -/

/-- What a sender offers, and how many sessions it and a receiver both found. -/
structure FanOut where
  sessions : Nat
  some_ : 1 ≤ sessions
  files : List (SendEntry × Bytes)
  counted : 1 ≤ files.length ∧ files.length ≤ maxManifestFiles
  named : ∀ file ∈ files, Nameable file.1.name
  sized : ∀ file ∈ files, file.2.length = file.1.size.toNat

/-- The manifest that each session parses of what the sender writes. -/
def FanOut.manifest (offer : FanOut) : FileManifest :=
  (parseSenderManifest.valueOf
    (writeSendManifest (offer.files.map Prod.fst) ++ payload offer.files)).getD { files := [] }

/-- Every session parses the offer's manifest, and leaves the data on the stream. -/
theorem FanOut.parseSenderManifest_eq (offer : FanOut) :
    parseSenderManifest (writeSendManifest (offer.files.map Prod.fst) ++ payload offer.files) =
      .ok { files := offer.files.map fun file => file.1.announced } (payload offer.files) := by
  have some_ : offer.files.map Prod.fst ≠ [] := by
    have first := offer.counted.1
    exact fun empty => absurd (List.map_eq_nil_iff.mp empty) (List.ne_nil_of_length_pos first)
  have few : (offer.files.map Prod.fst).length ≤ maxManifestFiles := by
    rw [List.length_map]
    exact offer.counted.2
  have named : ∀ entry ∈ offer.files.map Prod.fst, Nameable entry.name := by
    intro entry member
    obtain ⟨file, offered, rfl⟩ := List.mem_map.mp member
    exact offer.named file offered
  have read := reads_parseSenderManifest some_ few named (payload offer.files)
  rwa [List.map_map] at read

/-- So each session knows the files by the names they are offered under. -/
theorem FanOut.manifest_eq (offer : FanOut) :
    offer.manifest = { files := offer.files.map fun file => file.1.announced } := by
  have read := ByteReader.valueOf_of_ok offer.parseSenderManifest_eq
  unfold FanOut.manifest
  rw [read, Option.getD_some]

/-- A sender and a receiver at the sessions that they found. -/
structure Meeting where
  legs : Nat → Leg
  /-- The session whose go byte the sender read first. -/
  senderPick : Option Nat
  unsent : Bytes
  senderFailed : Bool
  /-- The session whose file count the receiver read first. -/
  receiverPick : Option Nat
  /-- What the receiver read there, its file count included. -/
  got : Bytes
  receiverFailed : Bool

/-- What happens at one of the sessions or to one of the clients. -/
inductive MeetingAction where
  | senderArrives (session : Nat)
  | receiverArrives (session : Nat)
  | leg (session : Nat) (event : LegEvent)
  /-- The sender's race ends with a session, or with none. -/
  | senderPicks (session : Nat)
  | senderLoses
  /-- The sender drops its end at a session that it did not pick. -/
  | senderDrops (session : Nat)
  | senderStreams (count : Nat)
  | receiverPicks (session : Nat)
  | receiverLoses
  | receiverDrops (session : Nat)
  | receiverReads (count : Nat)
  /-- The receiver finds the end of its stream before the end of the transfer. -/
  | receiverEnds

/-- The transfer that a receiver read, if it is a whole one. -/
def receivedTransfer (got : Bytes) : Option (UInt32 × List ReceivedFile) :=
  match receiveTransfer (receiveEntries fun _ => transferBuf) got with
  | .ok transfer _ => some transfer
  | .error _ _ => none

namespace Meeting

/-- Both clients have connected to all sessions, and no session has taken an arrival. -/
def start (offer : FanOut) : Meeting where
  legs := fun _ => .new
  senderPick := none
  unsent := payload offer.files
  senderFailed := false
  receiverPick := none
  got := []
  receiverFailed := false

/-- One session goes on. -/
def setLeg (meeting : Meeting) (session : Nat) (leg : Leg) : Meeting :=
  { meeting with legs := Function.update meeting.legs session leg }

/-- A session whose relay has returned, and with it the session's end of both sockets. -/
def closedAt (meeting : Meeting) (session : Nat) : Bool :=
  (meeting.legs session).phase = some .finished

/-- No session is left that a race could still end with. -/
def allDead (offer : FanOut) (meeting : Meeting) (answered : Leg → Bool) : Bool :=
  (List.range offer.sessions).all fun session =>
    meeting.closedAt session && !answered (meeting.legs session)

/-- The go byte has come. -/
def signalled (leg : Leg) : Bool := leg.toSender.head? = some transferGoPaired

/-- The file count has come. -/
def counted (leg : Leg) : Bool := 4 ≤ leg.toReceiver.length

/-- What one action does. -/
def step (offer : FanOut) (meeting : Meeting) : MeetingAction → Option Meeting
  | .senderArrives session =>
    let leg := meeting.legs session
    if session < offer.sessions ∧ leg.senderCame = false then
      some (meeting.setLeg session
        ({ leg with senderCame := true }.arrive (.senderArrived senderStream offer.manifest)))
    else none
  | .receiverArrives session =>
    let leg := meeting.legs session
    if session < offer.sessions ∧ leg.receiverCame = false then
      some (meeting.setLeg session
        ({ leg with receiverCame := true }.arrive (.receiverArrived receiverStream)))
    else none
  | .leg session event =>
    if session < offer.sessions then
      ((meeting.legs session).step event).map (meeting.setLeg session)
    else none
  | .senderPicks session =>
    if meeting.senderPick = none ∧ meeting.senderFailed = false ∧ session < offer.sessions ∧
        signalled (meeting.legs session) then
      some { meeting with senderPick := some session }
    else none
  | .senderLoses =>
    if meeting.senderPick = none ∧ meeting.senderFailed = false ∧
        meeting.allDead offer signalled then
      some { meeting with senderFailed := true }
    else none
  | .senderDrops session =>
    let leg := meeting.legs session
    match meeting.senderPick with
    | some pick =>
      if session < offer.sessions ∧ pick ≠ session ∧ leg.senderHolds then
        some (meeting.setLeg session { leg with senderHolds := false })
      else none
    | none => none
  | .senderStreams count =>
    match meeting.senderPick with
    | some pick =>
      let leg := meeting.legs pick
      if 1 ≤ count ∧ count ≤ meeting.unsent.length ∧ meeting.senderFailed = false then
        if meeting.closedAt pick then some { meeting with senderFailed := true }
        else
          some { meeting.setLeg pick
              { leg with fromSender := leg.fromSender ++ meeting.unsent.take count } with
            unsent := meeting.unsent.drop count }
      else none
    | none => none
  | .receiverPicks session =>
    if meeting.receiverPick = none ∧ meeting.receiverFailed = false ∧ session < offer.sessions ∧
        counted (meeting.legs session) then
      some { meeting with
        receiverPick := some session
        got := (meeting.legs session).toReceiver.take 4 }
    else none
  | .receiverLoses =>
    if meeting.receiverPick = none ∧ meeting.receiverFailed = false ∧
        meeting.allDead offer counted then
      some { meeting with receiverFailed := true }
    else none
  | .receiverDrops session =>
    let leg := meeting.legs session
    match meeting.receiverPick with
    | some pick =>
      if session < offer.sessions ∧ pick ≠ session ∧ leg.receiverHolds then
        some (meeting.setLeg session { leg with receiverHolds := false })
      else none
    | none => none
  | .receiverReads count =>
    match meeting.receiverPick with
    | some pick =>
      let stream := (meeting.legs pick).toReceiver
      if 1 ≤ count ∧ meeting.got.length + count ≤ stream.length then
        some { meeting with got := stream.take (meeting.got.length + count) }
      else none
    | none => none
  | .receiverEnds =>
    match meeting.receiverPick with
    | some pick =>
      if meeting.closedAt pick ∧ meeting.got = (meeting.legs pick).toReceiver ∧
          meeting.receiverFailed = false ∧ receivedTransfer meeting.got = none then
        some { meeting with receiverFailed := true }
      else none
    | none => none

end Meeting

/-- A sender and a receiver from the start of their races. -/
def meetingMachine (offer : FanOut) : Machine Meeting MeetingAction where
  init := .start offer
  step := Meeting.step offer

end Gritty
