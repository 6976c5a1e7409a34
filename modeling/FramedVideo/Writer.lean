import FramedVideo.Frame
import FramedVideo.Transport.Sink
import FramedVideo.Log

/-!
# Writing frames

A writer puts the header and the payload of a frame into a sink and flushes it. A frame that has no
wire form is refused before anything is written, so the stream keeps its frames apart. After a
failure of the sink it does not.

## Main definitions

- `WriteFailure` — why a frame was not written
- `Writer` — a sink with the protocol of its frames
- `Writer.write` — writes one frame
-/

namespace FramedVideo

open Transport (Sink writeAll)

/-- Why a frame was not written. -/
inductive WriteFailure where
  /-- The frame has no wire form; nothing was written. -/
  | fault (fault : Fault)
  /-- The sink failed, perhaps after a part of the frame. -/
  | transport (failure : Transport.Failure)
  deriving DecidableEq, Repr

namespace WriteFailure

/-- The text of what lies behind a failure. -/
def cause : WriteFailure → String
  | fault found => found.message
  | transport failure => failure.message

/-- One line for a reader of logs. -/
def message : WriteFailure → String
  | fault found => "protocol error: " ++ found.message
  | transport failure => "transport error: " ++ failure.message

end WriteFailure

/-- The report of a frame that was written. -/
def Log.wroteFrame (frame : Frame) : Log.Line where
  level := .trace
  message := "wrote frame"
  fields := [
    ("source_id", toString frame.sourceId.toNat),
    ("frame_id", toString frame.frameId.toNat),
    ("payload_size", toString frame.payload.length)]

/-- A sink with the protocol of the frames that go into it. -/
structure Writer (ω : Type) where
  sink : ω
  protocol : Protocol := {}
  /-- Frames written, each flushed. -/
  written : Nat := 0

namespace Writer

variable {ω : Type} [Sink ω]

/-- Puts a header and a payload into a sink and flushes it. -/
def put (header payload : Bytes) (sink : ω) : Except Transport.Failure Unit × ω :=
  match writeAll header sink with
  | (.error failure, left) => (.error failure, left)
  | (.ok (), left) =>
    match writeAll payload left with
    | (.error failure, left) => (.error failure, left)
    | (.ok (), left) => Sink.flush left

/-- Writes one frame. -/
def write (frame : Frame) (writer : Writer ω) : Except WriteFailure Unit × Writer ω :=
  match frame.header writer.protocol with
  | .error fault => (.error (.fault fault), writer)
  | .ok header =>
    match put header.toBytes frame.payload writer.sink with
    | (.error failure, left) => (.error (.transport failure), { writer with sink := left })
    | (.ok (), left) => (.ok (), { writer with sink := left, written := writer.written + 1 })

/-- Tells the sink that no more frames will come. -/
def shutdown (writer : Writer ω) : Except Transport.Failure Unit × Writer ω :=
  match Sink.shutdown writer.sink with
  | (answer, left) => (answer, { writer with sink := left })

end Writer

end FramedVideo
