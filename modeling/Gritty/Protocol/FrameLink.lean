import Gritty.Lib.ByteLink
import Gritty.Protocol.Fragmentation

/-! The socket between two ends carries the frames of the protocol as a queue does. -/

namespace Gritty

/-- The codec of both ends of a connection. -/
def frameCodec : StreamCodec Frame UInt8 (Fault DecodeError) where
  encode := encodeFrame
  decode := FrameCodec.decode

/-- Frames within the ranges of their fields come out of any stream whole, and only whole. -/
theorem frameCodec_lawful : frameCodec.Lawful Frame.InRange where
  decode_whole inRange tail := decode_encode inRange tail
  decode_begun {frame} inRange part begun := by
    have expected : ∀ other ∈ [frame], other.InRange := by simpa using inRange
    exact decode_of_incomplete expected (Or.inr ⟨frame, [], rfl, begun.1, begun.2⟩)
  decode_nil := by
    have short : ([] : Bytes).length < headerLen := by decide
    exact decode_short short

/-- One direction of a connection between a client and the daemon or a session. -/
def socketMachine : Machine (ByteLink UInt8) (ByteLinkAction Frame) := byteLinkMachine frameCodec

/-- What the two ends of a connection see of a run. -/
def socketTrace (actions : List (ByteLinkAction Frame)) : List (QueueEvent Frame) :=
  socketMachine.trace (ByteLink.events frameCodec) .new actions

/-- Every frame that is sent is within the ranges of its fields. -/
def SendsInRange (actions : List (ByteLinkAction Frame)) : Prop :=
  socketMachine.Meets (SendsCarried Frame.InRange) .new actions

/--
A connection carries frames as a queue does, however its bytes are cut.

Whatever the ends write and read at a time, and wherever the connection breaks, what they see is what the ends of a queue of frames see that loses its newest frames when it is cut.
The receiver never finds bytes it cannot decode.
It gets the frames that were sent, in order, up to some frame; it finds the end of the stream in the middle of a frame only if frames were lost.
Once everything has been read on a connection that never broke, it has got every frame.
-/
theorem socket_carries_frames {actions : List (ByteLinkAction Frame)} {last : ByteLink UInt8}
    (inRange : SendsInRange actions) (ran : socketMachine.run .new actions = some last) :
    (∃ steps queue, (frameLinkMachine Frame).run .new steps = some queue ∧
      (frameLinkMachine Frame).trace FrameLink.events .new steps = socketTrace actions) ∧
    .faulted ∉ socketTrace actions ∧
    deliveredFrames (socketTrace actions) <+: sentFrames (socketTrace actions) ∧
    (.ended true ∈ socketTrace actions → (deliveredFrames (socketTrace actions)).length <
      (sentFrames (socketTrace actions)).length) ∧
    (last.up = true → last.writeBuf = [] → last.onWire = [] →
      (FrameCodec.decode last.readBuf).1 = .ok none →
      deliveredFrames (socketTrace actions) = sentFrames (socketTrace actions) ∧
        last.readBuf = []) := by
  obtain ⟨steps, queue, walked, same, carries, account⟩ :=
    byteLink_refines frameCodec_lawful inRange ran
  rw [show (byteLinkMachine frameCodec).trace (ByteLink.events frameCodec) .new actions =
    socketTrace actions from rfl] at same account
  refine ⟨⟨steps, queue, walked, same⟩, account.intact, ?_, fun torn => ?_,
    fun up sent read decoded => ?_⟩
  · cases up : queue.up with
    | true => exact ⟨_, account.up up⟩
    | false => exact (List.prefix_append ..).trans (account.down up)
  · -- The end of the stream is found when the queue has nothing left, so what is missing is lost.
    obtain ⟨_, empty, cut⟩ := account.reported true torn
    have fewer := (account.torn cut).2
    rwa [empty, List.append_nil] at fewer
  · obtain ⟨empty, untorn⟩ := carries.drained frameCodec_lawful sent read decoded
    have alive : queue.up = true := carries.up ▸ up
    have all := account.up alive
    rw [empty, List.append_nil] at all
    refine ⟨all, ?_⟩
    have nothing := carries.whole up
    rw [sent, read, empty] at nothing
    simpa [StreamCodec.written] using nothing

/-- Two frames in three pieces, the second of which the cut goes through. -/
def brokenSocket : List (ByteLinkAction Frame) :=
  [.send .ping, .send (.resume 258), .flush 3, .read 2, .next, .flush 9, .read 5, .next, .next,
    .cut 4, .read 9, .next, .eof]

/-- A socket that is cut inside a frame is found torn, and has delivered a front of what was sent. -/
theorem socket_carries_frames_broken :
    SendsInRange brokenSocket ∧ .ended true ∈ socketTrace brokenSocket ∧
      deliveredFrames (socketTrace brokenSocket) <+: sentFrames (socketTrace brokenSocket) := by
  have ping : Frame.InRange .ping :=
    ⟨by simp [Frame.prefixedStrings], by decide, by simp⟩
  have resume : Frame.InRange (.resume 258) :=
    ⟨by simp [Frame.prefixedStrings], by decide, by simp⟩
  have inRange : SendsInRange brokenSocket := by
    refine ⟨ping, fun next stepped => ?_⟩
    refine ⟨resume, fun next _ => ?_⟩
    simp only [Machine.Meets, SendsCarried, implies_true, and_true]
  have ran : socketMachine.run .new brokenSocket =
      some { writeBuf := [], onWire := [], readBuf := [26, 0, 0, 0, 8, 0], up := false } := by
    rfl
  have carried := socket_carries_frames inRange ran
  exact ⟨inRange, by decide +kernel, carried.2.2.1⟩

end Gritty
