import FramedVideo.Receive.Session
import FramedVideo.Send.Failure
import FramedVideo.Send.Timeline
import FramedVideo.Transport.Script

/-!
# A sender and a receiver, end to end

A sender serves one receiver over a stream that loses nothing. Each frame is offered to the sender
and awaited at the receiver before the next one; at the end the sender's side of the stream closes,
whether its mailbox was stopped or a shutdown came.

## Main definitions

- `Loopback` — what the two ends saw
- `Loopback.connect` — runs the two ends on a list of frames
-/

namespace FramedVideo

open Transport (Script)

/-- What the two ends of a stream saw. -/
structure Loopback where
  /-- For each frame that was offered, what became of it, and the frame that was received then. -/
  exchanges : List (Mailbox.Outcome × Option Frame)
  /-- How the session of the receiver ended. -/
  result : Except ReceiverFailure Summary
  /-- The mailbox of the sender is stopped. -/
  stopped : Bool

namespace Loopback

/-- Offers frames one after the other and lets the session write each; the answer is what became of
each frame and the bytes that the client got for it. -/
def writeEach : List Frame → Timeline → List (Mailbox.Outcome × Bytes) × Timeline
  | [], timeline => ([], timeline)
  | frame :: frames, timeline =>
    let (outcome, offered) := timeline.offer frame
    let sent := offered.advance none
    let piece := sent.client.bytes.drop timeline.client.taken
    let (pieces, last) := writeEach frames sent
    ((outcome, piece) :: pieces, last)

/-- Matches the frames that were offered with those that were received. An ignored frame is not
waited for; nothing is offered after a wait that was in vain. -/
def exchangesOf : List Mailbox.Outcome → List Frame → List (Mailbox.Outcome × Option Frame)
  | [], _ => []
  | .ignored :: outcomes, received => (.ignored, none) :: exchangesOf outcomes received
  | outcome :: _, [] => [(outcome, none)]
  | outcome :: outcomes, frame :: received =>
    (outcome, some frame) :: exchangesOf outcomes received

/-- Runs a sender and a receiver on a list of frames. The sender's settings are checked first. -/
def connect (sender : SenderConfig) (receiver : ReceiverConfig) (frames : List Frame) :
    Except SenderFailure Loopback :=
  match sender.check with
  | .error fault => .error (.config fault.message)
  | .ok () =>
    let (pieces, last) := writeEach frames (.start sender {})
    let outcomes := pieces.map (·.1)
    let stopped := last.finish.mailbox.stopped
    match receiver.check with
    | .error fault => .ok ⟨exchangesOf outcomes [], .error (.config fault.message), stopped⟩
    | .ok () =>
      let written := (pieces.map (·.2)).filter (!·.isEmpty)
      let stream : Script := { events := written.map .data }
      let run := (receiver.receiver stream).run none ({} : Channel)
      .ok ⟨exchangesOf outcomes run.handed, run.result, stopped⟩

end Loopback

end FramedVideo
