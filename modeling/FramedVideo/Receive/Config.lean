import FramedVideo.Frame.Protocol
import FramedVideo.Decode.Window
import FramedVideo.Time

/-!
# Settings of a receiver

## Main definitions

- `ReceiverConfig` — where to connect and how to read
- `ReceiverConfig.check` — the first setting that cannot work
-/

namespace FramedVideo

/-- Where to connect and how to read. -/
structure ReceiverConfig where
  /-- Host and port of the sender. -/
  address : String := "127.0.0.1:9000"
  /-- The longest time to wait for a connection; reading may take any time. -/
  connectTimeout : Nat := 5 * Time.second
  /-- Report after every so many frames; zero for never. -/
  logEvery : Nat := 120
  protocol : Protocol := {}
  recovery : Recovery := .disabled
  deriving DecidableEq, Repr

/-- A setting of a receiver that cannot work. -/
inductive ReceiverConfig.Fault where
  | emptyAddress
  | zeroTimeout
  | zeroScan
  deriving DecidableEq, Repr

/-- What is wrong with the setting. -/
def ReceiverConfig.Fault.message : ReceiverConfig.Fault → String
  | emptyAddress => "address is empty"
  | zeroTimeout => "connect timeout must be positive"
  | zeroScan => "resync max skip must be positive"

/-- The first setting that cannot work. -/
def ReceiverConfig.check (config : ReceiverConfig) : Except ReceiverConfig.Fault Unit :=
  if config.address = "" then .error .emptyAddress
  else if config.connectTimeout = 0 then .error .zeroTimeout
  else if config.recovery = .scan 0 then .error .zeroScan
  else .ok ()

end FramedVideo
