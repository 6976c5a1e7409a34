import FramedVideo.Address
import FramedVideo.Decode.Failure
import FramedVideo.Receive.Config

/-!
# Failures of a receiver

## Main definitions

- `ReceiverFailure` — why a receiver did not start, or did not end well
- `ReceiverConfig.refusal?` — why a receiver fails before it connects
-/

namespace FramedVideo

/-- Why a receiver did not start, or did not end well. -/
inductive ReceiverFailure where
  /-- The time to connect was over. -/
  | connectTimeout (address : String) (timeout : Nat)
  /-- The connection failed. -/
  | connect (address : String) (failure : Transport.Failure)
  /-- A frame could not be decoded. -/
  | decode (failure : DecodeFailure)
  /-- A setting cannot work. -/
  | config (reason : String)
  deriving DecidableEq, Repr

namespace ReceiverFailure

/-- The text of what lies behind a failure. -/
def cause? : ReceiverFailure → Option String
  | connectTimeout _ _ => none
  | connect _ failure => some failure.message
  | decode failure => failure.cause?
  | config _ => none

/-- One line for a reader of logs. -/
def message : ReceiverFailure → String
  | connectTimeout address timeout =>
    "timed out connecting to " ++ address ++ " after " ++ Time.describe timeout
  | connect address failure => "failed to connect to " ++ address ++ ": " ++ failure.message
  | decode failure => failure.message
  | config reason => "invalid configuration: " ++ reason

end ReceiverFailure

/-- Why a receiver with these settings fails before it connects. -/
def ReceiverConfig.refusal? (config : ReceiverConfig) : Option ReceiverFailure :=
  match config.check with
  | .error fault => some (.config fault.message)
  | .ok () => (Address.refusal? config.address).map (.connect config.address)

end FramedVideo
