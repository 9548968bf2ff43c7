import Gritty.Transfer.Manifest

/-! The relay of a paired transfer, and the receiver at its other end. -/

namespace Gritty

open ByteReader

/-- File data goes through a buffer of 64 KiB. -/
def transferBuf : Chunking := Chunking.full (64 * 1024)

/-! ### The relay -/

/-- The two sockets of a relay and what it told the attached client. -/
structure RelayLink where
  /-- What the sender's socket still gives before it ends. -/
  fromSender : Bytes
  toSender : Bytes
  toReceiver : Bytes
  notified : List Frame
  deriving DecidableEq

/-- How long the ends of a relay stay up. -/
structure Peers where
  senderUp : Bool
  /-- Whether the receiver still takes a write, by all that would then be written to it. -/
  receiverUp : Bytes → Bool

/-- Peers that never hang up. -/
def Peers.up : Peers where
  senderUp := true
  receiverUp := fun _ => true

/-- A part of the relay task. It stops with the reason it reports. -/
abbrev RelayTask := EStateM String RelayLink Unit

def writeSender (peers : Peers) (bytes : Bytes) : RelayTask := fun link =>
  if peers.senderUp then .ok () { link with toSender := link.toSender ++ bytes }
  else .error "sender disconnected" link

def writeReceiver (peers : Peers) (bytes : Bytes) : RelayTask := fun link =>
  if peers.receiverUp (link.toReceiver ++ bytes) then
    .ok () { link with toReceiver := link.toReceiver ++ bytes }
  else .error "receiver disconnected" link

/-- Read one chunk from the sender and write it to the receiver. -/
def relayChunk (peers : Peers) (count : Nat) : RelayTask := fun link =>
  if count ≤ link.fromSender.length then
    writeReceiver peers (link.fromSender.take count)
      { link with fromSender := link.fromSender.drop count }
  else .error "sender disconnected" { link with fromSender := [] }

/-- The header of one file, and exactly as much data as it announces. -/
def relayFile (peers : Peers) (file : String × UInt64 × UInt32) : RelayTask := do
  writeReceiver peers (putFile file)
  inChunks transferBuf (relayChunk peers) file.2.1.toNat

def FileManifest.fileCount (manifest : FileManifest) : UInt32 :=
  UInt32.ofNat manifest.files.length

/-- The relay up to its last notification. -/
def relayFiles (peers : Peers) (manifest : FileManifest) : RelayTask := do
  writeSender peers [transferGoPaired]
  writeReceiver peers (putU32 manifest.fileCount)
  manifest.files.forM (relayFile peers)
  -- The sentinel: a name of no bytes.
  writeReceiver peers [0, 0]

/-- The last notification of a relay. -/
def concludeRelay : EStateM.Result String RelayLink Unit → RelayLink
  | .ok _ link => { link with notified := link.notified ++ [.sendDone] }
  | .error reason link => { link with notified := link.notified ++ [.sendCancel reason] }

/-- The relay task, from what the sender sends after its manifest. -/
def runTransferRelay (peers : Peers) (manifest : FileManifest) (fromSender : Bytes) : RelayLink :=
  let offer := Frame.sendOffer manifest.fileCount manifest.totalBytes
  let start : RelayLink := { fromSender, toSender := [], toReceiver := [], notified := [offer] }
  concludeRelay (relayFiles peers manifest start)

/-! ### The receiver -/

/-- The header of the next file, or nothing at the sentinel. -/
def readEntryHeader : TransferReader (Option (String × UInt64 × UInt32)) := do
  let nameLen := (← readU16).toNat
  if nameLen = 0 then return none
  else
    let name ← readText nameLen
    match sanitizePath name with
    | .error message => refuse (.badName message)
    | .ok name =>
      let size ← readU64
      let mode ← readU32
      return some (name, size, mode)

variable {σ : Type}

/--
One turn of the receiver's loop: a header, and the contents of its file.

How the contents arrive may depend on everything that came before.
-/
def receiveFile (arrival : σ → Chunking) (deliver : σ → String × UInt64 × UInt32 → Bytes → σ)
    (state : σ) : TransferReader (Option σ) := do
  match ← readEntryHeader with
  | none => return none
  | some file =>
    let contents ← readInChunks (arrival state) file.2.1.toNat
    return some (deliver state file contents)

/-! ### Every turn of the receiver takes something -/

theorem shrinks_readU16 : Shrinks readU16 := by
  apply (Shrinks.readExact (by decide)).bind
  intro bytes
  exact NeverGrows.pure _

theorem neverGrows_readU32 : NeverGrows readU32 := by
  apply (NeverGrows.readExact 4).bind
  intro bytes
  exact NeverGrows.pure _

theorem neverGrows_readU64 : NeverGrows readU64 := by
  apply (NeverGrows.readExact 8).bind
  intro bytes
  exact NeverGrows.pure _

theorem neverGrows_readText (length : Nat) : NeverGrows (readText length) := by
  apply (NeverGrows.readExact length).bind
  intro bytes
  cases fromUtf8 bytes with
  | none => exact NeverGrows.refuse _
  | some text => exact NeverGrows.pure text

/-- A header takes at least the length of its name, the sentinel included. -/
theorem shrinks_readEntryHeader : Shrinks readEntryHeader := by
  apply shrinks_readU16.bind
  intro nameLen
  dsimp only
  split
  · exact NeverGrows.pure none
  · apply (neverGrows_readText _).bind
    intro name
    cases sanitizePath name with
    | error message => exact NeverGrows.refuse _
    | ok name =>
      apply neverGrows_readU64.bind
      intro size
      apply neverGrows_readU32.bind
      intro mode
      exact NeverGrows.pure _

/-- Reading a file takes something where it goes on. -/
theorem consumes_receiveFile (arrival : σ → Chunking)
    (deliver : σ → String × UInt64 × UInt32 → Bytes → σ) (state : σ) :
    Consumes (receiveFile arrival deliver state) := by
  apply Shrinks.consumes
  apply shrinks_readEntryHeader.bind
  intro header
  cases header with
  | none => exact NeverGrows.pure none
  | some file =>
    apply (NeverGrows.readInChunks (arrival state) _).bind
    intro contents
    exact NeverGrows.pure _

/-- The receiver's loop over the files of a transfer, up to the sentinel. -/
def receiveFiles (arrival : σ → Chunking) (deliver : σ → String × UInt64 × UInt32 → Bytes → σ) :
    σ → TransferReader σ :=
  untilNone (receiveFile arrival deliver) (consumes_receiveFile arrival deliver)

/-- A file as it was received: its header and its contents. -/
abbrev ReceivedFile := (String × UInt64 × UInt32) × Bytes

/-- Every file of a transfer in the order of arrival, its data read as it comes. -/
def receiveEntries (arrival : List ReceivedFile → Chunking) :
    TransferReader (List ReceivedFile) :=
  receiveFiles arrival (fun received file contents => received ++ [(file, contents)]) []

/-- How many files came, and all their contents written to one output. -/
def receiveToWriter : TransferReader (UInt32 × Bytes) :=
  receiveFiles (fun _ => transferBuf)
    (fun (received, out) _ contents => (received + 1, out ++ contents)) (0, [])

/-- The file count a receiver waits for, and then the transfer. -/
def receiveTransfer {α : Type} (files : TransferReader α) : TransferReader (UInt32 × α) := do
  let fileCount ← readU32
  let received ← files
  return (fileCount, received)

/-! ### What the relay writes -/

/-- The contents of a list of files, as the sender streams them. -/
def payload (files : List (SendEntry × Bytes)) : Bytes := files.flatMap Prod.snd

theorem payload_cons (file : SendEntry × Bytes) (others : List (SendEntry × Bytes)) :
    payload (file :: others) = file.2 ++ payload others := rfl

/-- One file as it stands on the way to the receiver: its header and its contents. -/
def putDelivered (file : ReceivedFile) : Bytes :=
  putFile file.1 ++ file.2

/-- A step of the relay that succeeds hands over to the next one. -/
private theorem task_bind {task : RelayTask} {next : Unit → RelayTask} {link middle : RelayLink}
    (done : task link = .ok () middle) : (task >>= next) link = next () middle := by
  show EStateM.bind task next link = _
  simp only [EStateM.bind, done]

private theorem writeReceiver_up (bytes : Bytes) (link : RelayLink) :
    writeReceiver .up bytes link = .ok () { link with toReceiver := link.toReceiver ++ bytes } :=
  rfl

/-- The data loop moves exactly the announced bytes, however they fall into chunks. -/
theorem relayData_up {remaining : Nat} {contents : Bytes} (rest : Bytes) (link : RelayLink)
    (sized : contents.length = remaining) :
    inChunks transferBuf (relayChunk .up) remaining
        { link with fromSender := contents ++ rest } =
      .ok () { link with fromSender := rest, toReceiver := link.toReceiver ++ contents } := by
  -- What was moved and what remains always make up the contents.
  let Inv : Nat → RelayLink → Prop := fun left state =>
    ∃ moved waiting, contents = moved ++ waiting ∧ waiting.length = left ∧
      state = { link with fromSender := waiting ++ rest, toReceiver := link.toReceiver ++ moved }
  have chunk : ∀ left state, left ≠ 0 → Inv left state →
      ∃ next, relayChunk .up (transferBuf.next left) state = .ok () next ∧
        Inv (left - transferBuf.next left) next := by
    rintro left state - ⟨moved, waiting, whole, counted, rfl⟩
    have bounded : transferBuf.next left ≤ waiting.length := by
      rw [counted]
      exact transferBuf.within left
    have within : transferBuf.next left ≤ (waiting ++ rest).length := by
      rw [List.length_append]
      omega
    have front : (waiting ++ rest).take (transferBuf.next left) =
        waiting.take (transferBuf.next left) := List.take_append_of_le_length bounded
    have back : (waiting ++ rest).drop (transferBuf.next left) =
        waiting.drop (transferBuf.next left) ++ rest := List.drop_append_of_le_length bounded
    refine ⟨_, ?_, moved ++ waiting.take (transferBuf.next left),
      waiting.drop (transferBuf.next left), ?_, ?_, rfl⟩
    · unfold relayChunk
      rw [if_pos within, front, back, writeReceiver_up, List.append_assoc]
    · rw [List.append_assoc, List.take_append_drop, whole]
    · rw [List.length_drop, counted]
  obtain ⟨last, ran, moved, waiting, whole, none_, rfl⟩ :=
    inChunks_run chunk remaining { link with fromSender := contents ++ rest }
      ⟨[], contents, rfl, sized, by rw [List.append_nil]⟩
  have nothing : waiting = [] := List.eq_nil_of_length_eq_zero none_
  rw [ran, whole, nothing, List.append_nil, List.nil_append]

/-- The relay writes every header and all contents, in order. -/
theorem relayFiles_up (files : List (SendEntry × Bytes)) (link : RelayLink) (rest : Bytes)
    (sized : ∀ file ∈ files, file.2.length = file.1.size.toNat) :
    (files.map fun file => file.1.announced).forM (relayFile .up)
        { link with fromSender := payload files ++ rest } =
      .ok () { link with
        fromSender := rest
        toReceiver := link.toReceiver ++
          files.flatMap fun file => putDelivered (file.1.announced, file.2) } := by
  induction files generalizing link with
  | nil =>
    show EStateM.Result.ok () _ = _
    simp [payload]
  | cons file others ih =>
    have first : relayFile .up file.1.announced
        { link with fromSender := file.2 ++ (payload others ++ rest) } =
        .ok () { link with
          fromSender := payload others ++ rest
          toReceiver := link.toReceiver ++ putDelivered (file.1.announced, file.2) } := by
      unfold relayFile
      rw [task_bind (writeReceiver_up _ _)]
      have moved := relayData_up (payload others ++ rest)
        { link with toReceiver := link.toReceiver ++ putFile file.1.announced }
        (sized file List.mem_cons_self)
      rw [putDelivered, ← List.append_assoc link.toReceiver]
      exact moved
    have later := ih { link with
        toReceiver := link.toReceiver ++ putDelivered (file.1.announced, file.2) }
      (fun other among => sized other (List.mem_cons_of_mem file among))
    rw [List.map_cons, payload_cons, List.append_assoc, List.flatMap_cons,
      ← List.append_assoc link.toReceiver]
    show (relayFile .up file.1.announced >>= fun _ =>
      (others.map fun file => file.1.announced).forM (relayFile .up)) _ = _
    rw [task_bind first]
    exact later

/-- What the receiver is sent for a list of files: their count, the files, and the sentinel. -/
def transferStream (files : List (SendEntry × Bytes)) : Bytes :=
  putU32 (UInt32.ofNat files.length) ++
    ((files.flatMap fun file => putDelivered (file.1.announced, file.2)) ++ [0, 0])

/-- The whole run of a relay between peers that stay up. -/
theorem runTransferRelay_up {files : List (SendEntry × Bytes)} {manifest : FileManifest}
    (offered : manifest.files = files.map fun file => file.1.announced)
    (sized : ∀ file ∈ files, file.2.length = file.1.size.toNat) (rest : Bytes) :
    runTransferRelay .up manifest (payload files ++ rest) =
      { fromSender := rest
        toSender := [transferGoPaired]
        toReceiver := transferStream files
        notified := [.sendOffer manifest.fileCount manifest.totalBytes, .sendDone] } := by
  have counted : manifest.fileCount = UInt32.ofNat files.length := by
    rw [FileManifest.fileCount, offered, List.length_map]
  let start : RelayLink :=
    { fromSender := payload files ++ rest
      toSender := []
      toReceiver := []
      notified := [.sendOffer manifest.fileCount manifest.totalBytes] }
  have moved := relayFiles_up files
    { start with toSender := [transferGoPaired], toReceiver := putU32 manifest.fileCount } rest sized
  -- The go byte and the count come first, and the sentinel last.
  have done : relayFiles .up manifest start = .ok () { start with
      fromSender := rest
      toSender := [transferGoPaired]
      toReceiver := transferStream files } := by
    have going : writeSender .up [transferGoPaired] start =
        .ok () { start with toSender := [transferGoPaired] } := rfl
    unfold relayFiles
    rw [task_bind going, task_bind (writeReceiver_up _ _), offered]
    show (((files.map fun file => file.1.announced).forM (relayFile .up)) >>= fun _ =>
      writeReceiver .up [0, 0]) { start with
        toSender := [transferGoPaired]
        toReceiver := putU32 manifest.fileCount } = _
    rw [task_bind moved, writeReceiver_up, transferStream, ← counted]
    simp only [List.append_assoc]
  show concludeRelay (relayFiles .up manifest start) = _
  rw [done]
  rfl

/-! ### What the receiver reads -/

/-- A header of a file whose name the server took is read as it was written. -/
theorem reads_readEntryHeader {file : String × UInt64 × UInt32} (nameable : Nameable file.1) :
    Reads readEntryHeader (putFile file) (some file) := by
  obtain ⟨name, size, mode⟩ := file
  unfold readEntryHeader putFile
  apply (reads_readU16 _).bind
  rw [nameable.toNat_ofNat, if_neg nameable.positive]
  apply (reads_readText rfl).bind
  -- The receiver's check is no stricter than the server's.
  rw [sanitizePath_of_sanitizeFilename nameable.accepted]
  apply (reads_readU64 size).bind
  apply (reads_readU32 mode).bind_pure
  exact Reads.pure _

theorem reads_sentinel : Reads readEntryHeader [0, 0] none := by
  unfold readEntryHeader
  apply (reads_readU16 0).bind_pure
  exact Reads.pure none

/-- The receiver's loop goes through all files and stops at the sentinel. -/
theorem reads_receiveFiles (arrival : σ → Chunking)
    (deliver : σ → String × UInt64 × UInt32 → Bytes → σ) {files : List (SendEntry × Bytes)}
    (named : ∀ file ∈ files, Nameable file.1.name)
    (sized : ∀ file ∈ files, file.2.length = file.1.size.toNat) (state : σ) :
    Reads (receiveFiles arrival deliver state)
      ((files.flatMap fun file => putDelivered (file.1.announced, file.2)) ++ [0, 0])
      (files.foldl (fun state file => deliver state file.1.announced file.2) state) := by
  apply Reads.untilNone
  · intro file among state
    unfold receiveFile putDelivered
    have nameable : Nameable file.1.announced.1 := named file among
    apply (reads_readEntryHeader nameable).bind
    apply (Reads.readInChunks (sized file among)).bind_pure
    exact Reads.pure _
  · intro state
    unfold receiveFile
    apply reads_sentinel.bind_pure
    exact Reads.pure none

/-- Collecting the files in order gives the list of them. -/
private theorem foldl_collect {α β : Type} (entry : α → β) (values : List α) (collected : List β) :
    values.foldl (fun received value => received ++ [entry value]) collected =
      collected ++ values.map entry := by
  induction values generalizing collected with
  | nil => simp
  | cons value others ih => simp [ih]

/-- The receiver that stores files reads the whole stream of a transfer. -/
theorem reads_receiveEntries (arrival : List ReceivedFile → Chunking)
    {files : List (SendEntry × Bytes)} (named : ∀ file ∈ files, Nameable file.1.name)
    (sized : ∀ file ∈ files, file.2.length = file.1.size.toNat) :
    Reads (receiveTransfer (receiveEntries arrival)) (transferStream files)
      (UInt32.ofNat files.length, files.map fun file => (file.1.announced, file.2)) := by
  apply (reads_readU32 _).bind
  have all := reads_receiveFiles arrival
    (fun received file contents => received ++ [(file, contents)]) named sized []
  rw [foldl_collect, List.nil_append] at all
  apply all.bind_pure
  exact Reads.pure _

/-- The count of files and their joined contents, gathered one file at a time. -/
private theorem foldl_toWriter (files : List (SendEntry × Bytes)) (received : UInt32)
    (out : Bytes) :
    files.foldl (fun (state : UInt32 × Bytes) file => (state.1 + 1, state.2 ++ file.2))
        (received, out) =
      (received + UInt32.ofNat files.length, out ++ payload files) := by
  induction files generalizing received out with
  | nil => simp [payload]
  | cons file others ih =>
    rw [List.foldl_cons, ih, payload_cons, List.length_cons, List.append_assoc]
    congr 1
    rw [UInt32.ofNat_add, UInt32.add_comm (UInt32.ofNat others.length), ← UInt32.add_assoc]
    rfl

/-- The receiver that writes to one place reads the whole stream of a transfer. -/
theorem reads_receiveToWriter {files : List (SendEntry × Bytes)}
    (named : ∀ file ∈ files, Nameable file.1.name)
    (sized : ∀ file ∈ files, file.2.length = file.1.size.toNat) :
    Reads (receiveTransfer receiveToWriter) (transferStream files)
      (UInt32.ofNat files.length, UInt32.ofNat files.length, payload files) := by
  apply (reads_readU32 _).bind
  have all := reads_receiveFiles (fun _ => transferBuf)
    (fun (state : UInt32 × Bytes) _ contents => (state.1 + 1, state.2 ++ contents))
    named sized (0, [])
  rw [foldl_toWriter, List.nil_append, UInt32.zero_add] at all
  apply all.bind_pure
  exact Reads.pure _

/-! ### A whole transfer -/

/--
A transfer delivers exactly what was offered.

The server parses the manifest as it was written and leaves the data on the stream. The relay
passes all of it on and ends with the sentinel, and both kinds of receivers read the same files
back and nothing behind the sentinel, however the data arrives.
-/
theorem transfer_delivers (files : List (SendEntry × Bytes)) (some_ : 1 ≤ files.length)
    (few : files.length ≤ 10000)
    (named : ∀ file ∈ files, 1 ≤ (utf8 file.1.name).length ∧ (utf8 file.1.name).length ≤ 4096 ∧
      (sanitizeFilename file.1.name).isSome)
    (sized : ∀ file ∈ files, file.2.length = file.1.size.toNat) :
    (∀ name, (sanitizeFilename name).isSome → sanitizePath name = .ok name) ∧
    ∃ manifest : FileManifest,
      parseSenderManifest (writeSendManifest (files.map Prod.fst) ++ payload files) =
        .ok manifest (payload files) ∧
      manifest.files = files.map (fun file => file.1.announced) ∧
      ∃ link, runTransferRelay .up manifest (payload files) = link ∧
        link.fromSender = [] ∧ link.toSender = [transferGoPaired] ∧
        link.notified = [.sendOffer manifest.fileCount manifest.totalBytes, .sendDone] ∧
        (∃ body, link.toReceiver = body ++ [0, 0]) ∧
        (∀ arrival rest, receiveTransfer (receiveEntries arrival) (link.toReceiver ++ rest) =
          .ok (UInt32.ofNat files.length,
            files.map fun file => (file.1.announced, file.2)) rest) ∧
        ∀ rest, receiveTransfer receiveToWriter (link.toReceiver ++ rest) =
          .ok (UInt32.ofNat files.length, UInt32.ofNat files.length, payload files) rest := by
  have passes : ∀ name, (sanitizeFilename name).isSome → sanitizePath name = .ok name := by
    intro name allowed
    obtain ⟨accepted, same⟩ := Option.isSome_iff_exists.mp allowed
    exact sanitizePath_of_sanitizeFilename same
  have nameable : ∀ file ∈ files, Nameable file.1.name := by
    intro file among
    obtain ⟨-, short, allowed⟩ := named file among
    obtain ⟨accepted, same⟩ := Option.isSome_iff_exists.mp allowed
    obtain ⟨rfl, -⟩ := sanitizeFilename_eq_some.mp same
    exact ⟨short, same⟩
  have parsed : parseSenderManifest (writeSendManifest (files.map Prod.fst) ++ payload files) =
      .ok { files := (files.map Prod.fst).map SendEntry.announced } (payload files) := by
    apply reads_parseSenderManifest
    · intro empty
      rw [List.map_eq_nil_iff.mp empty] at some_
      exact absurd some_ (by decide)
    · rw [List.length_map]
      exact few
    · intro entry offered
      obtain ⟨file, among, rfl⟩ := List.mem_map.mp offered
      exact nameable file among
  have announced : (files.map Prod.fst).map SendEntry.announced =
      files.map fun file => file.1.announced := by
    rw [List.map_map]
    rfl
  let manifest : FileManifest := { files := (files.map Prod.fst).map SendEntry.announced }
  have offered : manifest.files = files.map fun file => file.1.announced := announced
  have relayed := runTransferRelay_up offered sized []
  rw [List.append_nil] at relayed
  refine ⟨passes, manifest, parsed, offered, _, relayed, rfl, rfl, rfl, ?_, ?_, ?_⟩
  · exact ⟨_, by rw [transferStream, ← List.append_assoc]⟩
  · exact fun arrival => reads_receiveEntries arrival nameable sized
  · exact reads_receiveToWriter nameable sized

/-- A nested file of two bytes and an empty one, from the sender's manifest to either receiver. -/
theorem transfer_delivers_two :
    ∃ manifest link, parseSenderManifest
        (writeSendManifest [⟨"d/a", 2, 0o644, []⟩, ⟨"b", 0, 0, []⟩] ++ [7, 9]) =
          .ok manifest [7, 9] ∧
      manifest.files = [("d/a", 2, 0o644), ("b", 0, 0)] ∧
      runTransferRelay .up manifest [7, 9] = link ∧ link.toSender = [transferGoPaired] ∧
      (∀ arrival, receiveTransfer (receiveEntries arrival) link.toReceiver =
        .ok (2, [(("d/a", 2, 0o644), [7, 9]), (("b", 0, 0), [])]) []) ∧
      receiveTransfer receiveToWriter link.toReceiver = .ok (2, 2, [7, 9]) [] := by
  obtain ⟨-, manifest, parsed, files, link, relayed, -, going, -, -, entries, writer⟩ :=
    transfer_delivers [(⟨"d/a", 2, 0o644, []⟩, [7, 9]), (⟨"b", 0, 0, []⟩, [])] (by decide)
      (by decide) (by decide) (by decide)
  refine ⟨manifest, link, parsed, files, relayed, going, fun arrival => ?_, ?_⟩
  · have read := entries arrival []
    rwa [List.append_nil] at read
  · have read := writer []
    rwa [List.append_nil] at read

end Gritty
