import Gritty.Lib.Simulation

/-! A link that carries frames as a stream of bytes, and the queue of frames it behaves as. -/

namespace Gritty

variable {Frame Byte Fault : Type}

/-- How frames are written to a stream of bytes, and taken off a buffer again. -/
structure StreamCodec (Frame Byte Fault : Type) where
  encode : Frame → List Byte
  /-- One call: a frame or none yet, and what is left of the buffer. -/
  decode : List Byte → Except Fault (Option Frame) × List Byte

namespace StreamCodec

/-- The bytes a list of frames is written as. -/
def written (codec : StreamCodec Frame Byte Fault) (frames : List Frame) : List Byte :=
  frames.flatMap codec.encode

/-- Some bytes at the front of a frame that are not all of it. -/
def Begun (codec : StreamCodec Frame Byte Fault) (frame : Frame) (part : List Byte) : Prop :=
  part <+: codec.encode frame ∧ part.length < (codec.encode frame).length

/-- What makes a codec fit for a stream: the frames it can carry come out whole, and only whole. -/
structure Lawful (codec : StreamCodec Frame Byte Fault) (carried : Frame → Prop) : Prop where
  decode_whole : ∀ {frame : Frame}, carried frame → ∀ tail,
    codec.decode (codec.encode frame ++ tail) = (.ok (some frame), tail)
  decode_begun : ∀ {frame : Frame}, carried frame → ∀ {part}, codec.Begun frame part →
    codec.decode part = (.ok none, part)
  decode_nil : codec.decode [] = (.ok none, [])

end StreamCodec

/-- What is observed at the two ends of a link. -/
inductive QueueEvent (Frame : Type) where
  | sent (frame : Frame)
  | delivered (frame : Frame)
  /-- The receiver finds the stream at its end, in the middle of a frame or not. -/
  | ended (torn : Bool)
  /-- The receiver finds bytes that it cannot decode. -/
  | faulted
  deriving DecidableEq

/-- The frames that were sent, in order. -/
def sentFrames : List (QueueEvent Frame) → List Frame
  | [] => []
  | .sent frame :: later => frame :: sentFrames later
  | _ :: later => sentFrames later

/-- The frames that were delivered, in order. -/
def deliveredFrames : List (QueueEvent Frame) → List Frame
  | [] => []
  | .delivered frame :: later => frame :: deliveredFrames later
  | _ :: later => deliveredFrames later

/-! ### A queue of frames -/

/-- A link that loses nothing but the newest frames, when it is cut. -/
structure FrameLink (Frame : Type) where
  inFlight : List Frame
  up : Bool
  /-- The cut went through the frame behind those in flight. -/
  torn : Bool

/-- What can happen to a link of frames. -/
inductive FrameLinkAction (Frame : Type) where
  /-- On a cut link the frame is lost. -/
  | send (frame : Frame)
  | deliver
  /-- All but the oldest frames are lost; the next one is lost in part, if the cut tears it. -/
  | cut (kept : Nat) (torn : Bool)
  | finish

namespace FrameLink

def new : FrameLink Frame := { inFlight := [], up := true, torn := false }

def step (link : FrameLink Frame) : FrameLinkAction Frame → Option (FrameLink Frame)
  | .send frame =>
    if link.up then some { link with inFlight := link.inFlight ++ [frame] } else some link
  | .deliver =>
    match link.inFlight with
    | _ :: later => some { link with inFlight := later }
    | [] => none
  | .cut kept torn =>
    if link.up && (!torn || decide (kept < link.inFlight.length)) then
      some { inFlight := link.inFlight.take kept, up := false, torn }
    else none
  | .finish => if !link.up && link.inFlight.isEmpty then some link else none

def events (link : FrameLink Frame) : FrameLinkAction Frame → List (QueueEvent Frame)
  | .send frame => [.sent frame]
  | .deliver => (link.inFlight.head?.map .delivered).toList
  | .cut _ _ => []
  | .finish => [.ended link.torn]

end FrameLink

/-- A link of frames from its beginning. -/
def frameLinkMachine (Frame : Type) : Machine (FrameLink Frame) (FrameLinkAction Frame) where
  init := .new
  step := FrameLink.step

@[simp] theorem sentFrames_append (first second : List (QueueEvent Frame)) :
    sentFrames (first ++ second) = sentFrames first ++ sentFrames second := by
  induction first with
  | nil => rfl
  | cons event later ih => cases event <;> simp [sentFrames, ih]

@[simp] theorem deliveredFrames_append (first second : List (QueueEvent Frame)) :
    deliveredFrames (first ++ second) = deliveredFrames first ++ deliveredFrames second := by
  induction first with
  | nil => rfl
  | cons event later ih => cases event <;> simp [deliveredFrames, ih]

/-- What a queue of frames still holds, against what was seen of it. -/
structure FrameLink.Account (link : FrameLink Frame) (seen : List (QueueEvent Frame)) : Prop where
  up : link.up = true → deliveredFrames seen ++ link.inFlight = sentFrames seen
  down : link.up = false → deliveredFrames seen ++ link.inFlight <+: sentFrames seen
  /-- A frame is torn only by a cut that loses it. -/
  torn : link.torn = true → link.up = false ∧
    (deliveredFrames seen ++ link.inFlight).length < (sentFrames seen).length
  reported : ∀ torn, .ended torn ∈ seen → link.up = false ∧ link.inFlight = [] ∧ link.torn = torn
  intact : .faulted ∉ seen

theorem FrameLink.account_new : (FrameLink.new : FrameLink Frame).Account [] where
  up _ := rfl
  down broken := absurd broken (by simp [FrameLink.new])
  torn broken := absurd broken (by simp [FrameLink.new])
  reported := by simp
  intact := by simp

/-- Every step keeps the account. -/
theorem FrameLink.Account.step {link next : FrameLink Frame} {seen : List (QueueEvent Frame)}
    (account : link.Account seen) {action : FrameLinkAction Frame}
    (stepped : link.step action = some next) : next.Account (seen ++ link.events action) := by
  cases action with
  | send frame =>
    have delivered : deliveredFrames (seen ++ link.events (.send frame)) = deliveredFrames seen := by
      simp [events, deliveredFrames]
    have sent : sentFrames (seen ++ link.events (.send frame)) = sentFrames seen ++ [frame] := by
      simp [events, sentFrames]
    have quiet : ∀ event : QueueEvent Frame, event ≠ .sent frame →
        event ∈ seen ++ link.events (.send frame) → event ∈ seen := by
      intro event other inside
      exact (List.mem_append.mp inside).resolve_right fun new => other (List.mem_singleton.mp new)
    simp only [FrameLink.step] at stepped
    split at stepped
    next up =>
      cases stepped
      refine ⟨fun _ => ?_, fun down => absurd (up.symm.trans down) (by decide), fun tears => ?_,
        fun torn inside => ?_, fun inside => account.intact (quiet _ (by simp) inside)⟩
      · rw [delivered, sent, ← List.append_assoc, account.up up]
      · exact absurd (up.symm.trans (account.torn tears).1) (by decide)
      · have ended := (account.reported torn (quiet _ (by simp) inside)).1
        exact absurd (up.symm.trans ended) (by decide)
    next down =>
      -- The frame is lost; what arrives stays the front of what was sent.
      cases stepped
      refine ⟨fun up => absurd up down, fun broken => ?_, fun tears => ?_,
        fun torn inside => account.reported torn (quiet _ (by simp) inside),
        fun inside => account.intact (quiet _ (by simp) inside)⟩
      · rw [delivered, sent]
        exact (account.down broken).trans (List.prefix_append ..)
      · obtain ⟨broken, fewer⟩ := account.torn tears
        refine ⟨broken, ?_⟩
        have longer : (sentFrames seen).length ≤ (sentFrames seen ++ [frame]).length :=
          (List.prefix_append ..).length_le
        rw [delivered, sent]
        exact Nat.lt_of_lt_of_le fewer longer
  | deliver =>
    simp only [FrameLink.step] at stepped
    split at stepped
    next frame later flight =>
      cases stepped
      have delivered : deliveredFrames (seen ++ link.events .deliver) ++ later =
          deliveredFrames seen ++ link.inFlight := by
        simp [events, flight, deliveredFrames]
      have sent : sentFrames (seen ++ link.events .deliver) = sentFrames seen := by
        simp [events, flight, sentFrames]
      refine ⟨?_, ?_, ?_, fun torn inside => ?_, ?_⟩
      · simpa only [delivered, sent] using account.up
      · simpa only [delivered, sent] using account.down
      · simpa only [delivered, sent] using account.torn
      · have reported := account.reported torn (by simpa [events, flight] using inside)
        rw [flight] at reported
        exact absurd reported.2.1 (by simp)
      · simpa [events, flight] using account.intact
    next => simp at stepped
  | cut kept torn =>
    obtain ⟨allowed, rfl⟩ := of_guarded stepped
    simp only [Bool.and_eq_true, Bool.or_eq_true, Bool.not_eq_true', decide_eq_true_eq]
      at allowed
    have whole := account.up allowed.1
    rw [events, List.append_nil]
    refine ⟨fun up => absurd up (by simp), fun _ => ?_, fun tears => ⟨rfl, ?_⟩,
      fun torn inside => ?_, account.intact⟩
    · rw [← whole, List.prefix_append_right_inj]
      exact List.take_prefix ..
    · -- A tear needs a frame that the cut did not keep.
      have some_ : kept < link.inFlight.length :=
        allowed.2.resolve_left fun untorn => absurd (untorn.symm.trans tears) (by decide)
      rw [← whole, List.length_append, List.length_append, List.length_take]
      omega
    · exact absurd (allowed.1.symm.trans (account.reported torn inside).1) (by decide)
  | finish =>
    obtain ⟨drained, rfl⟩ := of_guarded stepped
    have done : link.up = false ∧ link.inFlight = [] := by simpa [List.isEmpty_iff] using drained
    refine ⟨?_, ?_, ?_, fun torn inside => ?_, ?_⟩
    · simpa [events, deliveredFrames, sentFrames] using account.up
    · simpa [events, deliveredFrames, sentFrames] using account.down
    · simpa [events, deliveredFrames, sentFrames] using account.torn
    · refine ⟨done.1, done.2, ?_⟩
      rcases List.mem_append.mp inside with old | new
      · exact (account.reported torn old).2.2
      · simpa [events, eq_comm] using new
    · simpa [events] using account.intact

/-- A run keeps the account of all that was seen before it and along it. -/
theorem FrameLink.Account.run {link last : FrameLink Frame} {seen : List (QueueEvent Frame)}
    (account : link.Account seen) {actions : List (FrameLinkAction Frame)}
    (ran : (frameLinkMachine Frame).run link actions = some last) :
    last.Account (seen ++ (frameLinkMachine Frame).trace FrameLink.events link actions) := by
  induction actions generalizing link seen with
  | nil =>
    obtain rfl : link = last := Option.some.inj ran
    simpa [Machine.trace] using account
  | cons action later ih =>
    cases stepped : (frameLinkMachine Frame).step link action with
    | none => simp [Machine.run, stepped] at ran
    | some next =>
      rw [Machine.run_cons stepped] at ran
      rw [Machine.trace_cons stepped, ← List.append_assoc]
      exact ih (account.step stepped) ran

/-! ### A stream of bytes -/

/-- A link as its two ends have it: buffers, and bytes on the way. -/
structure ByteLink (Byte : Type) where
  /-- Written by the sender and not yet taken by the network. -/
  writeBuf : List Byte
  onWire : List Byte
  /-- Read by the receiver and not yet decoded. -/
  readBuf : List Byte
  up : Bool

/-- What can happen to a link of bytes. -/
inductive ByteLinkAction (Frame : Type) where
  /-- The sender writes a frame to its buffer. -/
  | send (frame : Frame)
  /-- The network takes some bytes of the write buffer. -/
  | flush (count : Nat)
  /-- The receiver reads some of the bytes that have arrived. -/
  | read (count : Nat)
  /-- The receiver asks for the next frame of its buffer. -/
  | next
  /-- The connection breaks; some of the bytes on the wire still arrive. -/
  | cut (kept : Nat)
  /-- The receiver finds the end of the stream. -/
  | eof

namespace ByteLink

def new : ByteLink Byte := { writeBuf := [], onWire := [], readBuf := [], up := true }

variable (codec : StreamCodec Frame Byte Fault)

def step (link : ByteLink Byte) : ByteLinkAction Frame → Option (ByteLink Byte)
  | .send frame =>
    if link.up then some { link with writeBuf := link.writeBuf ++ codec.encode frame }
    else some link
  | .flush count =>
    if link.up then
      some { link with
        writeBuf := link.writeBuf.drop count
        onWire := link.onWire ++ link.writeBuf.take count }
    else none
  | .read count =>
    some { link with
      onWire := link.onWire.drop count
      readBuf := link.readBuf ++ link.onWire.take count }
  | .next => some { link with readBuf := (codec.decode link.readBuf).2 }
  | .cut kept =>
    if link.up then
      some { link with writeBuf := [], onWire := link.onWire.take kept, up := false }
    else none
  | .eof =>
    -- The end is found only once nothing is left to read and no frame is left to decode.
    if !link.up && link.onWire.isEmpty then
      match (codec.decode link.readBuf).1 with
      | .ok none => some link
      | _ => none
    else none

def events (link : ByteLink Byte) : ByteLinkAction Frame → List (QueueEvent Frame)
  | .send frame => [.sent frame]
  | .next =>
    match (codec.decode link.readBuf).1 with
    | .ok (some frame) => [.delivered frame]
    | .ok none => []
    | .error _ => [.faulted]
  | .eof => [.ended (!link.readBuf.isEmpty)]
  | _ => []

end ByteLink

/-- A link of bytes from its beginning. -/
def byteLinkMachine (codec : StreamCodec Frame Byte Fault) :
    Machine (ByteLink Byte) (ByteLinkAction Frame) where
  init := .new
  step := ByteLink.step codec

/-- A frame that is sent is one the codec can carry. -/
def SendsCarried (carried : Frame → Prop) (_ : ByteLink Byte) : ByteLinkAction Frame → Prop
  | .send frame => carried frame
  | _ => True

/-! ### The stream behaves as the queue -/

section Refinement

variable {codec : StreamCodec Frame Byte Fault} {carried : Frame → Prop}

namespace StreamCodec

theorem written_append (front back : List Frame) :
    codec.written (front ++ back) = codec.written front ++ codec.written back :=
  List.flatMap_append

@[simp] theorem written_singleton (frame : Frame) : codec.written [frame] = codec.encode frame :=
  List.flatMap_singleton ..

/-- A cut leaves some whole frames and perhaps the front of the next one. -/
theorem cut_written {kept : List Byte} (frames : List Frame)
    (front : kept <+: codec.written frames) :
    ∃ count part, kept = codec.written (frames.take count) ++ part ∧
      (part = [] ∨ count < frames.length ∧ ∃ frame ∈ frames, codec.Begun frame part) := by
  induction frames generalizing kept with
  | nil =>
    obtain rfl : kept = [] := List.prefix_nil.mp front
    exact ⟨0, [], rfl, Or.inl rfl⟩
  | cons frame later ih =>
    by_cases whole : (codec.encode frame).length ≤ kept.length
    · -- The first frame got through; the cut is somewhere behind it.
      obtain ⟨rest, rfl⟩ : codec.encode frame <+: kept :=
        List.prefix_of_prefix_length_le (List.prefix_append ..) front whole
      have behind : rest <+: codec.written later := (List.prefix_append_right_inj _).mp front
      obtain ⟨count, part, split, torn⟩ := ih behind
      refine ⟨count + 1, part, ?_, ?_⟩
      · rw [split, List.take_succ_cons, written, written, List.flatMap_cons, List.append_assoc]
      · rcases torn with none_ | ⟨some_, other, inside, begun⟩
        · exact Or.inl none_
        · exact Or.inr ⟨Nat.succ_lt_succ some_, other, List.mem_cons_of_mem _ inside, begun⟩
    · have short := Nat.lt_of_not_le whole
      refine ⟨0, kept, rfl, Or.inr ⟨Nat.succ_pos _, frame, List.mem_cons_self, ?_, short⟩⟩
      exact List.prefix_of_prefix_length_le front (List.prefix_append ..) (Nat.le_of_lt short)

end StreamCodec

/-- The bytes between the two ends are the frames in flight, and perhaps the front of one that was cut. -/
structure Carries (codec : StreamCodec Frame Byte Fault) (carried : Frame → Prop)
    (bytes : ByteLink Byte) (frames : FrameLink Frame) : Prop where
  up : bytes.up = frames.up
  inFlight : ∀ frame ∈ frames.inFlight, carried frame
  /-- Behind the frames in flight comes the part of a frame that the cut went through. -/
  content : ∃ part, bytes.readBuf ++ bytes.onWire ++ bytes.writeBuf =
      codec.written frames.inFlight ++ part ∧ frames.torn = !part.isEmpty ∧
      (part = [] ∨ frames.up = false ∧ ∃ frame, carried frame ∧ codec.Begun frame part)
  lost : bytes.up = false → bytes.writeBuf = []

variable {bytes after : ByteLink Byte} {frames : FrameLink Frame}

theorem carries_new : Carries codec carried .new .new where
  up := rfl
  inFlight := by simp [FrameLink.new]
  content := ⟨[], rfl, rfl, Or.inl rfl⟩
  lost _ := rfl

/-- While the link is up every byte between the ends belongs to a frame in flight. -/
theorem Carries.whole (carries : Carries codec carried bytes frames) (up : bytes.up = true) :
    bytes.readBuf ++ bytes.onWire ++ bytes.writeBuf = codec.written frames.inFlight := by
  obtain ⟨part, content, _, none_ | ⟨down, _⟩⟩ := carries.content
  · rw [content, none_, List.append_nil]
  · rw [← carries.up, up] at down
    exact absurd down (by decide)

/-- Bytes that move on between the buffers are not a step of the queue. -/
theorem Carries.moved (carries : Carries codec carried bytes frames) (up : after.up = bytes.up)
    (same : after.readBuf ++ after.onWire ++ after.writeBuf =
      bytes.readBuf ++ bytes.onWire ++ bytes.writeBuf)
    (lost : after.up = false → after.writeBuf = []) : Carries codec carried after frames where
  up := up.trans carries.up
  inFlight := carries.inFlight
  content := by rw [same]; exact carries.content
  lost := lost

/-- What one call of the decoder does to the read buffer of a link. -/
theorem Carries.decode (lawful : codec.Lawful carried) (carries : Carries codec carried bytes frames) :
    (codec.decode bytes.readBuf = (.ok none, bytes.readBuf) ∧
      (bytes.onWire = [] → bytes.writeBuf = [] → frames.inFlight = [] ∧
        frames.torn = !bytes.readBuf.isEmpty)) ∨
    ∃ frame later rest, frames.inFlight = frame :: later ∧
      codec.decode bytes.readBuf = (.ok (some frame), rest) ∧
      bytes.readBuf = codec.encode frame ++ rest := by
  obtain ⟨part, content, torn, partly⟩ := carries.content
  cases flight : frames.inFlight with
  | nil =>
    -- All there is belongs to the frame the cut went through, which never completes.
    left
    rw [flight] at content
    have all : bytes.readBuf ++ (bytes.onWire ++ bytes.writeBuf) = part := by
      rw [← List.append_assoc, content]
      rfl
    refine ⟨?_, fun read sent => ⟨rfl, ?_⟩⟩
    · rcases partly with none_ | ⟨_, frame, fits, begun⟩
      · rw [(List.append_eq_nil_iff.mp (all.trans none_)).1]
        exact lawful.decode_nil
      · have front : bytes.readBuf <+: part := ⟨_, all⟩
        have size := front.length_le
        exact lawful.decode_begun fits ⟨front.trans begun.1, Nat.lt_of_le_of_lt size begun.2⟩
    · rw [read, sent, List.append_nil, List.append_nil] at all
      rw [torn, all]
  | cons frame later =>
    have fits := carries.inFlight frame (flight ▸ List.mem_cons_self)
    have split : bytes.readBuf ++ (bytes.onWire ++ bytes.writeBuf) =
        codec.encode frame ++ (codec.written later ++ part) := by
      rw [← List.append_assoc, content, flight, StreamCodec.written, List.flatMap_cons,
        List.append_assoc]
      rfl
    by_cases whole : (codec.encode frame).length ≤ bytes.readBuf.length
    · obtain ⟨rest, held⟩ : codec.encode frame <+: bytes.readBuf :=
        List.prefix_of_prefix_length_le ⟨_, split.symm⟩ (List.prefix_append ..) whole
      exact Or.inr ⟨frame, later, rest, rfl, by rw [← held]; exact lawful.decode_whole fits rest,
        held.symm⟩
    · -- The first frame has not been read in full, so bytes of it are still on the way.
      have short := Nat.lt_of_not_le whole
      have front : bytes.readBuf <+: codec.encode frame :=
        List.prefix_of_prefix_length_le ⟨_, split⟩ (List.prefix_append ..) (Nat.le_of_lt short)
      refine Or.inl ⟨lawful.decode_begun fits ⟨front, short⟩, fun read sent => ?_⟩
      rw [read, sent, List.append_nil, List.append_nil] at split
      have size := congrArg List.length split
      rw [List.length_append] at size
      omega

/-- A frame that is written is the newest in the queue. -/
theorem Carries.send (carries : Carries codec carried bytes frames) {frame : Frame}
    (fits : carried frame) (up : bytes.up = true) :
    Carries codec carried { bytes with writeBuf := bytes.writeBuf ++ codec.encode frame }
      { frames with inFlight := frames.inFlight ++ [frame] } where
  up := carries.up
  inFlight other inside := by
    rcases List.mem_append.mp inside with old | new
    · exact carries.inFlight other old
    · exact List.mem_singleton.mp new ▸ fits
  content := by
    obtain ⟨part, content, torn, partly⟩ := carries.content
    have none_ : part = [] := by
      rcases partly with none_ | ⟨down, _⟩
      · exact none_
      · rw [← carries.up, up] at down
        exact absurd down (by decide)
    subst none_
    refine ⟨[], ?_, torn, Or.inl rfl⟩
    rw [← List.append_assoc, carries.whole up, StreamCodec.written_append,
      StreamCodec.written_singleton, List.append_nil]
  lost down := by
    rw [up] at down
    exact absurd down (by decide)

/-- Cutting the bytes cuts the queue: behind some whole frames, and perhaps inside the next one. -/
theorem Carries.cut (carries : Carries codec carried bytes frames) (up : bytes.up = true)
    (kept : Nat) :
    ∃ count torn, (!torn || decide (count < frames.inFlight.length)) = true ∧
      Carries codec carried
        { bytes with writeBuf := [], onWire := bytes.onWire.take kept, up := false }
        { inFlight := frames.inFlight.take count, up := false, torn } := by
  have front : bytes.readBuf ++ bytes.onWire.take kept <+: codec.written frames.inFlight := by
    refine ⟨bytes.onWire.drop kept ++ bytes.writeBuf, ?_⟩
    rw [List.append_assoc, ← List.append_assoc (bytes.onWire.take kept), List.take_append_drop,
      ← List.append_assoc, carries.whole up]
  obtain ⟨count, part, split, partly⟩ := StreamCodec.cut_written frames.inFlight front
  refine ⟨count, !part.isEmpty, ?_, rfl, ?_, ⟨part, ?_, rfl, ?_⟩, fun _ => rfl⟩
  · rcases partly with rfl | ⟨some_, _⟩
    · rfl
    · simp [some_]
  · exact fun frame inside => carries.inFlight frame (List.mem_of_mem_take inside)
  · simpa using split
  · rcases partly with none_ | ⟨_, frame, inside, begun⟩
    · exact Or.inl none_
    · exact Or.inr ⟨rfl, frame, carries.inFlight frame inside, begun⟩

/-- Every step of the bytes is some steps of the queue that look the same. -/
theorem simulates_frameLink (lawful : codec.Lawful carried) :
    Machine.Simulates (byteLinkMachine codec) (frameLinkMachine Frame) (SendsCarried carried)
      (ByteLink.events codec) FrameLink.events (Carries codec carried) := by
  refine ⟨fun {bytes next frames action} carries meets stepped => ?_⟩
  cases action with
  | send frame =>
    simp only [byteLinkMachine, ByteLink.step] at stepped
    -- Both sides drop the frame when the link is down.
    by_cases up : bytes.up = true
    · rw [if_pos up] at stepped
      cases stepped
      refine ⟨[.send frame], _, ?_, carries.send meets up, ?_⟩
      · simp only [Machine.run, frameLinkMachine, FrameLink.step, ← carries.up, if_pos up]
      · simp only [Machine.trace, frameLinkMachine, FrameLink.step, ← carries.up, if_pos up,
          FrameLink.events, ByteLink.events, List.append_nil]
    · rw [if_neg up] at stepped
      cases stepped
      refine ⟨[.send frame], frames, ?_, carries, ?_⟩
      · simp only [Machine.run, frameLinkMachine, FrameLink.step, ← carries.up, if_neg up]
      · simp only [Machine.trace, frameLinkMachine, FrameLink.step, ← carries.up, if_neg up,
          FrameLink.events, ByteLink.events, List.append_nil]
  | flush count =>
    simp only [byteLinkMachine, ByteLink.step] at stepped
    by_cases up : bytes.up = true
    · rw [if_pos up] at stepped
      cases stepped
      refine ⟨[], frames, rfl, carries.moved rfl ?_ fun down => ?_, rfl⟩
      · simp only [List.append_assoc, List.take_append_drop]
      · exact absurd (up.symm.trans down) (by decide)
    · rw [if_neg up] at stepped
      simp at stepped
  | read count =>
    cases stepped
    refine ⟨[], frames, rfl, carries.moved rfl ?_ carries.lost, rfl⟩
    rw [List.append_assoc bytes.readBuf, List.take_append_drop]
  | next =>
    cases stepped
    rcases carries.decode lawful with ⟨waits, _⟩ | ⟨frame, later, rest, flight, decoded, held⟩
    · refine ⟨[], frames, rfl, ?_, ?_⟩
      · simpa only [waits] using carries
      · simp only [Machine.trace, ByteLink.events, waits]
    · refine ⟨[.deliver], { frames with inFlight := later }, ?_, ⟨carries.up, ?_, ?_, carries.lost⟩, ?_⟩
      · simp only [Machine.run, frameLinkMachine, FrameLink.step, flight]
      · exact fun other inside => carries.inFlight other (flight ▸ List.mem_cons_of_mem _ inside)
      · obtain ⟨part, content, torn, partly⟩ := carries.content
        refine ⟨part, ?_, torn, partly⟩
        rw [flight, held, StreamCodec.written, List.flatMap_cons] at content
        simp only [List.append_assoc, List.append_cancel_left_eq] at content
        simpa only [decoded, List.append_assoc, StreamCodec.written] using content
      · simp only [Machine.trace, frameLinkMachine, FrameLink.step, FrameLink.events, flight,
          List.head?_cons, Option.map_some, Option.toList_some, ByteLink.events, decoded,
          List.append_nil]
  | cut kept =>
    simp only [byteLinkMachine, ByteLink.step] at stepped
    by_cases up : bytes.up = true
    · rw [if_pos up] at stepped
      cases stepped
      obtain ⟨count, torn, allowed, cut⟩ := carries.cut up kept
      have enabled : (frames.up && (!torn || decide (count < frames.inFlight.length))) = true := by
        rw [← carries.up, up, allowed]
        rfl
      refine ⟨[.cut count torn], _, ?_, cut, ?_⟩
      · simp only [Machine.run, frameLinkMachine, FrameLink.step, if_pos enabled]
      · simp only [Machine.trace, frameLinkMachine, FrameLink.step, if_pos enabled,
          FrameLink.events, ByteLink.events, List.append_nil]
    · rw [if_neg up] at stepped
      simp at stepped
  | eof =>
    simp only [byteLinkMachine, ByteLink.step] at stepped
    split at stepped
    next ended =>
      obtain ⟨down, read⟩ : bytes.up = false ∧ bytes.onWire = [] := by
        simpa [List.isEmpty_iff] using ended
      rcases carries.decode lawful with ⟨waits, drained⟩ | ⟨frame, later, rest, _, decoded, _⟩
      · rw [waits] at stepped
        cases stepped
        obtain ⟨none_, torn⟩ := drained read (carries.lost down)
        have enabled : (!frames.up && frames.inFlight.isEmpty) = true := by
          rw [← carries.up, down, none_]
          rfl
        refine ⟨[.finish], frames, ?_, carries, ?_⟩
        · simp only [Machine.run, frameLinkMachine, FrameLink.step, if_pos enabled]
        · simp only [Machine.trace, frameLinkMachine, FrameLink.step, if_pos enabled,
            FrameLink.events, ByteLink.events, torn, List.append_nil]
      · rw [decoded] at stepped
        simp at stepped
    next => simp at stepped

/--
A stream of bytes behaves as a queue of frames.

Every run of it is matched by a run of the queue with the same frames sent and delivered in the same order, and the account of that queue tells what is still between the ends.
-/
theorem byteLink_refines (lawful : codec.Lawful carried) {actions : List (ByteLinkAction Frame)}
    {last : ByteLink Byte}
    (meets : (byteLinkMachine codec).Meets (SendsCarried carried) .new actions)
    (ran : (byteLinkMachine codec).run .new actions = some last) :
    ∃ steps queue, (frameLinkMachine Frame).run .new steps = some queue ∧
      (frameLinkMachine Frame).trace FrameLink.events .new steps =
        (byteLinkMachine codec).trace (ByteLink.events codec) .new actions ∧
      Carries codec carried last queue ∧
      queue.Account ((byteLinkMachine codec).trace (ByteLink.events codec) .new actions) := by
  obtain ⟨steps, queue, walked, carries, same⟩ :=
    (simulates_frameLink lawful).run carries_new meets ran
  have account := FrameLink.account_new.run walked
  rw [List.nil_append, same] at account
  exact ⟨steps, queue, walked, same, carries, account⟩

/-- Once nothing is left in the buffers and on the wire, the queue is empty too. -/
theorem Carries.drained (lawful : codec.Lawful carried) (carries : Carries codec carried bytes frames)
    (sent : bytes.writeBuf = []) (read : bytes.onWire = [])
    (decoded : (codec.decode bytes.readBuf).1 = .ok none) :
    frames.inFlight = [] ∧ frames.torn = !bytes.readBuf.isEmpty := by
  rcases carries.decode lawful with ⟨_, empty⟩ | ⟨frame, later, rest, _, some_, _⟩
  · exact empty read sent
  · rw [some_] at decoded
    simp at decoded

end Refinement

end Gritty
