import FramedVideo.Address
import FramedVideo.Send.Config

/-!
# Failures of a sender

## Main definitions

- `SenderFailure` — why a sender did not start, or stopped
- `SenderConfig.refusal?` — why a sender fails before it listens
-/

namespace FramedVideo

/-- Why a sender did not start, or stopped. -/
inductive SenderFailure where
  /-- The address could not be listened on. -/
  | bind (address : String) (failure : Transport.Failure)
  /-- A client could not be accepted. -/
  | accept (failure : Transport.Failure)
  /-- A setting cannot work. -/
  | config (reason : String)
  deriving DecidableEq, Repr

namespace SenderFailure

/-- The text of what lies behind a failure. -/
def cause? : SenderFailure → Option String
  | bind _ failure => some failure.message
  | accept failure => some failure.message
  | config _ => none

/-- One line for a reader of logs. -/
def message : SenderFailure → String
  | bind address failure => "failed to bind " ++ address ++ ": " ++ failure.message
  | accept failure => "accept failed: " ++ failure.message
  | config reason => "invalid configuration: " ++ reason

end SenderFailure

/-- Why a sender with these settings fails before it listens. -/
def SenderConfig.refusal? (config : SenderConfig) : Option SenderFailure :=
  match config.check with
  | .error fault => some (.config fault.message)
  | .ok () => (Address.refusal? config.bind).map (.bind config.bind)

end FramedVideo
