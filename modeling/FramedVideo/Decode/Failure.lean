import FramedVideo.Frame.Fault
import FramedVideo.Transport.ExactRead

/-!
# Failures to decode a frame

The stream ended within a frame, or the header was faulty, or the transport failed. The end of the
stream is clean when it comes where a header would start.

## Main definitions

- `Stage` — the part of a frame that was being read
- `DecodeFailure` — why there is no next frame
- `DecodeFailure.isCleanClose` — the stream ended between two frames
-/

namespace FramedVideo

open Transport (ReadFailure)

/-- The part of a frame that was being read. -/
inductive Stage where
  | header
  | payload
  /-- The search for another header after a faulty one. -/
  | resync
  deriving DecidableEq, Repr

/-- The name of a stage. -/
def Stage.name : Stage → String
  | header => "header"
  | payload => "payload"
  | resync => "resync"

/-- Why there is no next frame. -/
inductive DecodeFailure where
  /-- The peer closed after `received` of the `expected` bytes of one read. -/
  | closed (stage : Stage) (received expected : Nat)
  /-- The header was faulty. -/
  | fault (fault : Fault)
  /-- The transport failed. -/
  | transport (failure : Transport.Failure)
  deriving DecidableEq, Repr

/-- What the failure of an exact read means for the frame it belonged to. -/
def DecodeFailure.ofRead (stage : Stage) : ReadFailure → DecodeFailure
  | .closed received expected => .closed stage received expected
  | .transport failure => .transport failure

namespace DecodeFailure

/-- The stream ended between two frames. -/
def isCleanClose : DecodeFailure → Bool
  | closed .header 0 _ => true
  | _ => false

/-- The fault of the header, if that is what failed. -/
def fault? : DecodeFailure → Option Fault
  | fault found => some found
  | _ => none

/-- The text of what lies behind a failure. -/
def cause? : DecodeFailure → Option String
  | closed _ _ _ => none
  | fault found => some found.message
  | transport failure => some failure.message

/-- One line for a reader of logs. -/
def message : DecodeFailure → String
  | closed stage received expected =>
    "peer closed the connection during " ++ stage.name ++ " (" ++ toString received ++ " of " ++
      toString expected ++ " bytes)"
  | fault found => "protocol error: " ++ found.message
  | transport failure => "transport error: " ++ failure.message

end DecodeFailure

end FramedVideo
