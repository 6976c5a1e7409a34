import FramedVideo.CommandLine.Options
import FramedVideo.Number.Decimal
import FramedVideo.Receive.Config
import FramedVideo.Send.Config

/-!
# The command lines of the two ends

## Main definitions

- `StartFault` — why a command line gives no settings
- `ReceiverConfig.ofArguments`, `SenderConfig.ofArguments` — settings from a command line
-/

namespace FramedVideo

/-- Why a command line gives no settings. -/
inductive StartFault where
  /-- It is not made of options that are known. -/
  | misuse (misuse : Options.Misuse)
  /-- A value has no meaning. -/
  | message (text : String)
  deriving DecidableEq, Repr

/-- The options of a receiver. -/
def ReceiverConfig.options : Options.Known := [
  ("host", .text),
  ("port", .narrow 16),
  ("timeout", .fraction),
  ("log-every", .wide),
  ("max-payload-size", .narrow 32),
  ("resync-max-skip", .wide)]

/-- The options of a sender. -/
def SenderConfig.options : Options.Known := [
  ("bind", .text),
  ("port", .narrow 16),
  ("camera-count", .narrow 16),
  ("max-fps", .narrow 32),
  ("capture-fps", .narrow 32),
  ("log-every", .wide),
  ("payload-size", .wide)]

namespace Options

/-- The number of a narrow option, or the one it has when it is not given. -/
def Given.narrowD (given : Given) (name : String) (bits fallback : Nat) : Nat :=
  ((given.value? name).bind (narrow? bits)).getD fallback

/-- The number of a wide option, or the one it has when it is not given. -/
def Given.wideD (given : Given) (name : String) (fallback : Nat) : Nat :=
  ((given.value? name).bind wide?).getD fallback

/-- The host and port of two options, with a colon between them. -/
def Given.address (given : Given) (hostName host : String) : String :=
  (given.value? hostName).getD host ++ ":" ++ toString (given.narrowD "port" 16 9000)

end Options

/-- The settings of a receiver from its command line. -/
def ReceiverConfig.ofArguments (arguments : List String) : Except StartFault ReceiverConfig :=
  match Options.read ReceiverConfig.options arguments with
  | .error misuse => .error (.misuse misuse)
  | .ok given =>
    let standard : ReceiverConfig := {}
    let timeout := ((given.value? "timeout").bind Literal.double?).getD (.ofNat 5)
    match Time.ofSeconds timeout with
    | .error fault =>
      .error (.message ("invalid timeout " ++ timeout.toShortest ++ ": " ++ fault.message))
    | .ok connectTimeout =>
      .ok {
        address := given.address "host" "127.0.0.1"
        connectTimeout := connectTimeout
        logEvery := given.wideD "log-every" standard.logEvery
        protocol := {
          maxPayload :=
            .ofNat (given.narrowD "max-payload-size" 32 standard.protocol.maxPayload.toNat) }
        recovery :=
          ((given.value? "resync-max-skip").bind Options.wide?).elim .disabled .scan }

/-- The settings of a sender from its command line. -/
def SenderConfig.ofArguments (arguments : List String) : Except StartFault SenderConfig :=
  match Options.read SenderConfig.options arguments with
  | .error misuse => .error (.misuse misuse)
  | .ok given =>
    let standard : SenderConfig := {}
    .ok {
      bind := given.address "bind" "0.0.0.0"
      sourceCount := .ofNat (given.narrowD "camera-count" 16 standard.sourceCount.toNat)
      maxFps := .ofNat (given.narrowD "max-fps" 32 standard.maxFps.toNat)
      captureFps := .ofNat (given.narrowD "capture-fps" 32 standard.captureFps.toNat)
      logEvery := given.wideD "log-every" standard.logEvery
      payloadSize := given.wideD "payload-size" standard.payloadSize }

end FramedVideo
