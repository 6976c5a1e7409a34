import FramedVideo.Frame.Protocol
import FramedVideo.Text.Quoted
import FramedVideo.Time

/-!
# Settings of a sender

## Main definitions

- `SenderConfig` — where to listen, what to capture, and how fast to send
- `SenderConfig.sendInterval?`, `SenderConfig.captureInterval` — rates as spans of time
- `SenderConfig.check` — the first setting that cannot work
-/

namespace FramedVideo

/-- Where to listen, what to capture, and how fast to send. -/
structure SenderConfig where
  /-- Host and port to listen on. -/
  bind : String := "0.0.0.0:9000"
  /-- Sources have the numbers below this one. -/
  sourceCount : UInt16 := 1
  /-- The most frames to send in a second; zero for no limit. -/
  maxFps : UInt32 := 0
  /-- The frames that each source captures in a second. -/
  captureFps : UInt32 := 30
  /-- Report after every so many frames sent; zero for never. -/
  logEvery : Nat := 120
  /-- The size of synthetic payloads. -/
  payloadSize : Nat := 65536
  protocol : Protocol := {}
  deriving DecidableEq, Repr

/-- A setting of a sender that cannot work. -/
inductive SenderConfig.Fault where
  | emptyBind
  | noSource
  | noCapture
  | payloadTooLarge (size : Nat) (limit : UInt32)
  deriving DecidableEq, Repr

/-- What is wrong with the setting. -/
def SenderConfig.Fault.message : SenderConfig.Fault → String
  | emptyBind => "bind address is empty"
  | noSource => "at least one source is required"
  | noCapture => "capture rate must be positive"
  | payloadTooLarge size limit =>
    "payload size " ++ toString size ++ " exceeds the " ++ toString limit.toNat ++ " byte limit"

namespace SenderConfig

/-- The time between two frames that are sent, in whole nanoseconds, if there is a limit. -/
def sendInterval? (config : SenderConfig) : Option Nat :=
  if config.maxFps = 0 then none else some (Time.second / config.maxFps.toNat)

/-- The time between two frames of a source, in whole nanoseconds. -/
def captureInterval (config : SenderConfig) : Nat :=
  Time.second / max 1 config.captureFps.toNat

/-- The first setting that cannot work. -/
def check (config : SenderConfig) : Except SenderConfig.Fault Unit :=
  if config.bind = "" then .error .emptyBind
  else if config.sourceCount = 0 then .error .noSource
  else if config.captureFps = 0 then .error .noCapture
  else if config.protocol.maxPayload.toNat < config.payloadSize then
    .error (.payloadTooLarge config.payloadSize config.protocol.maxPayload)
  else .ok ()

/-- A sender with these settings in one line, by the settings that tell it from others. -/
def describe (config : SenderConfig) : String :=
  "Sender \x7b bind: " ++ Quoted.quote config.bind ++ ", source_count: " ++
    toString config.sourceCount.toNat ++ ", max_fps: " ++ toString config.maxFps.toNat ++ ", .. \x7d"

end SenderConfig

end FramedVideo
