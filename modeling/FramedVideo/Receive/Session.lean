import FramedVideo.Decode.Await
import FramedVideo.Receive.Consumer
import FramedVideo.Receive.Failure
import FramedVideo.Receive.Stats

/-!
# Receiving

A receiver decodes the frames of one stream and hands them to a consumer, until the peer closes
between two frames, the consumer wants no more, or a shutdown comes. Any other failure to decode
ends the session with that failure.

A receiver can be run again, and then goes on where it stopped. Frames and payload bytes are counted
for each run; the count of skipped bytes belongs to the decoder and goes on.

How long a session took is not part of what it leaves: that is the time on a clock, which nothing else
in a session looks at. The periodic report has a rate only if it is given the time.

## Main definitions

- `Receiver` — a decoder, and how often to report
- `Receiver.run` — one session
- `Run` — what a session leaves
-/

namespace FramedVideo

open Transport (Source)

/-- Why a session ended well. -/
inductive StopReason where
  /-- The peer closed between two frames. -/
  | peerClosed
  /-- The consumer wanted no more. -/
  | consumerStopped
  /-- A shutdown came. -/
  | shutdown
  deriving DecidableEq, Repr

/-- Totals of a session that ended well, without the time that it took. -/
structure Summary where
  reason : StopReason
  frames : Nat
  payloadBytes : Nat
  /-- Bytes that the decoder has discarded so far. -/
  skippedBytes : Nat
  deriving DecidableEq, Repr

/-- A decoder, and how often to report. -/
structure Receiver (σ : Type) where
  decoder : Decoder σ
  logEvery : Nat

/-- The receiver of a stream with given settings. -/
def ReceiverConfig.receiver {σ : Type} (config : ReceiverConfig) (source : σ) : Receiver σ where
  decoder := { source := source, protocol := config.protocol, recovery := config.recovery }
  logEvery := config.logEvery

/-- What a session leaves. -/
structure Run (σ κ : Type) where
  result : Except ReceiverFailure Summary
  /-- The frames that the consumer was handed, in order. -/
  handed : List Frame
  log : List Log.Line
  receiver : Receiver σ
  consumer : κ

/-- The periodic report, at a moment. Without a clock the rate is left blank. -/
def Log.received (now? : Option Nat) (stats : Stats) : Log.Line where
  level := .info
  message := match now? with
    | some now => (stats.snapshot now).describe
    | none => stats.describe "_"

/-- The report of the end of a session. -/
def Log.sessionEnd : StopReason → Log.Line
  | .peerClosed => { level := .info, message := "peer closed the connection" }
  | .consumerStopped => { level := .info, message := "sink requested stop" }
  | .shutdown => { level := .info, message := "shutdown requested" }

namespace Receiver

variable {σ κ : Type}

/-- The end of a session for a reason. -/
def ending (reason : StopReason) (stats : Stats) (consumer : κ) (receiver : Receiver σ)
    (log : List Log.Line) : Run σ κ where
  result := .ok {
    reason := reason
    frames := stats.frames
    payloadBytes := stats.payloadBytes
    skippedBytes := receiver.decoder.skipped }
  handed := []
  log := log ++ [Log.sessionEnd reason]
  receiver := receiver
  consumer := consumer

/-- The end of a session by a failure to decode. -/
def failing (failure : DecodeFailure) (stats : Stats) (consumer : κ) (receiver : Receiver σ)
    (log : List Log.Line) : Run σ κ :=
  if failure.isCleanClose then
    ending .peerClosed stats consumer receiver log
  else
    { result := .error (.decode failure)
      handed := []
      log := log
      receiver := receiver
      consumer := consumer }

variable [Consumer κ]

/-- Counts a frame, reports when a report is due, and hands the frame to the consumer. -/
def attend (now? : Option Nat) (frame : Frame) (stats : Stats) (consumer : κ)
    (receiver : Receiver σ) : Stats × Handled κ :=
  let stats := stats.record frame
  let report := if Log.isDue receiver.logEvery stats.frames then [Log.received now? stats] else []
  let handled := Consumer.handle frame consumer
  (stats, { handled with log := report ++ handled.log })

variable [Source σ]

/-- Goes on with a session. A shutdown is looked at before every attempt to read. -/
def proceed (shutdown : Shutdown) (looks : Nat) (stats : Stats) (consumer : κ)
    (receiver : Receiver σ) : Run σ κ :=
  match _h : receiver.decoder.await shutdown looks .start with
  | ⟨none, left, _, log⟩ => ending .shutdown stats consumer { receiver with decoder := left } log
  | ⟨some (.error failure), left, _, log⟩ =>
    failing failure stats consumer { receiver with decoder := left } log
  | ⟨some (.ok frame), left, looks', log⟩ =>
    let later := match receiver.attend none frame stats consumer with
      | (stats', ⟨.stop, lines, consumer'⟩) =>
        ending .consumerStopped stats' consumer' { receiver with decoder := left } lines
      | (stats', ⟨.goOn, lines, consumer'⟩) =>
        let rest := { receiver with decoder := left }.proceed shutdown looks' stats' consumer'
        { rest with log := lines ++ rest.log }
    { later with handed := frame :: later.handed, log := log ++ later.log }
termination_by Source.extent receiver.decoder.source
decreasing_by
  have hlt := Decoder.extent_await_start_ok shutdown looks receiver.decoder frame (by rw [_h])
  rwa [_h] at hlt

/-- One session of a receiver. -/
def run (shutdown : Shutdown) (consumer : κ) (receiver : Receiver σ) : Run σ κ :=
  receiver.proceed shutdown 0 {} consumer

end Receiver

end FramedVideo
