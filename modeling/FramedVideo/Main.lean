import FramedVideo.CommandLine.Commands
import FramedVideo.Receive.Failure
import FramedVideo.Receive.Session
import FramedVideo.Send.Failure
import FramedVideo.Send.Roster
import FramedVideo.Send.Session
import FramedVideo.Transport.Gauge
import FramedVideo.Transport.Script
import Std.Async.DNS
import Std.Async.Signal
import Std.Async.TCP
import Std.Async.Timer

/-!
# The command

`send` listens for clients, one after the other, and sends them the frames of synthetic sources;
`receive` connects to a sender and reports the frames that it gets. Either ends when it is
interrupted.

Nothing is decided here. A loop asks the library for the next step of a session and does what that
step needs: it moves bytes between a socket and the session, lets time pass, and prints reports.

## Main definitions

- `Command.receive`, `Command.send` — the two ends
- `main` — picks one of them
-/

namespace FramedVideo.Command

open Std.Async (Async Selectable)
open Std.Async.TCP.Socket (Client Server)
open Std.Net (SocketAddress)
open Transport (Gauge Script)

-- ════════════════════════════════════════════════════════════════════════
-- The world outside
-- ════════════════════════════════════════════════════════════════════════

/-- Prints the reports that matter to most readers. -/
def report (lines : List Log.Line) : IO Unit := do
  for line in Log.upTo .info lines do
    IO.println line.describe
  (← IO.getStdout).flush

/-- Prints one report. -/
def say (level : Log.Level) (message : String) (fields : List (String × String)) : IO Unit :=
  report [{ level := level, message := message, fields := fields }]

/-- The time since the epoch in nanoseconds. -/
def clock : IO Nat := do
  let now ← Std.Time.Timestamp.now
  return now.toNanosecondsSinceUnixEpoch.toInt.toNat

/-- A failure of the system as a failure of a transport. -/
def failureOf : IO.Error → Transport.Failure
  | .interrupted _ _ text => ⟨.interrupted, some text⟩
  | .noFileOrDirectory _ _ text => ⟨.notFound, some text⟩
  | .permissionDenied _ _ text => ⟨.permissionDenied, some text⟩
  | .resourceVanished _ text => ⟨.connectionReset, some text⟩
  | .timeExpired _ text => ⟨.timedOut, some text⟩
  | .unexpectedEof => ⟨.unexpectedEof, none⟩
  | error => ⟨.other, some (toString error)⟩

/-- The address of a socket from its text. -/
def resolve (address : String) : IO SocketAddress := do
  let (host, portText) := (Address.split? address).getD (address, "")
  let port := (Address.port? portText).getD 0
  let found : Array Std.Net.IPAddr ← Async.block (Std.Async.DNS.getAddrInfo host portText)
  match found.toList.head? with
  | some (.v4 ip) => return .v4 ⟨ip, port⟩
  | some (.v6 ip) => return .v6 ⟨ip, port⟩
  | none => throw (.userError "no address")

/-- Waits for the user to interrupt the program. -/
abbrev Interruption := Std.Async.Signal.Waiter

/-- Begins to wait for the user to interrupt the program. -/
def interruption : IO Interruption := Std.Async.Signal.Waiter.mk .sigint false

-- ════════════════════════════════════════════════════════════════════════
-- Receiving
-- ════════════════════════════════════════════════════════════════════════

/-- What a receiver waits for. -/
inductive Arrival where
  /-- Bytes, or the end of the stream. -/
  | bytes (result : Except IO.Error (Option ByteArray))
  | interruption

/-- Connects within a time; the answer is empty when the time is over. -/
def connectWithin (timeout : Nat) (address : SocketAddress) : IO (Option Client) := do
  let client ← Client.mk
  let milliseconds := max 1 (timeout / Time.millisecond)
  let connected : Async Bool := do
    client.connect address
    return true
  let expired : Async Bool := do
    (← Std.Async.Sleep.mk (.ofNat milliseconds)).wait
    return false
  if ← Async.block (Async.race connected expired) then
    client.noDelay
    return some client
  else
    return none

/-- The next thing that happens to a receiver. -/
def nextArrival (interruption : Interruption) (client : Client) : IO Arrival := do
  try
    Async.block (Selectable.one #[
      .case interruption.selector fun () => return .interruption,
      .case (client.recvSelector 65536) fun received => return .bytes (.ok received)])
  catch error =>
    return .bytes (.error error)

/-- The events that an arrival adds to a stream: after bytes the stream is not ready. -/
def eventsOf : Except IO.Error (Option ByteArray) → List Script.Event
  | .ok (some bytes) => [.data bytes.toList, .notReady]
  | .ok none => []
  | .error error => [.fail (failureOf error)]

/-- Receives until the session ends. -/
partial def receiveOn (interruption : Interruption) (client : Client) (call : Call) (stats : Stats)
    (pictures : PictureLog) (receiver : Receiver Script) : IO (Run Script PictureLog) := do
  let polled := receiver.decoder.poll call
  report polled.log
  let receiver := { receiver with decoder := polled.decoder }
  match polled.ended with
  | none =>
    match ← nextArrival interruption client with
    | .interruption => return receiver.ending .shutdown stats pictures []
    | .bytes result =>
      let source := { receiver.decoder.source with events := eventsOf result }
      receiveOn interruption client polled.call stats pictures
        { receiver with decoder := { receiver.decoder with source := source } }
  | some (.error failure) => return receiver.failing failure stats pictures []
  | some (.ok frame) =>
    let (stats, handled) := receiver.attend (← clock) frame stats pictures
    report handled.log
    match handled.verdict with
    | .stop => return receiver.ending .consumerStopped stats handled.consumer []
    | .goOn => receiveOn interruption client .start stats handled.consumer receiver

/-- The name of a reason in a report. -/
def reasonName : StopReason → String
  | .peerClosed => "PeerClosed"
  | .consumerStopped => "SinkStopped"
  | .shutdown => "Shutdown"

/-- Prints why a receiver could not connect. -/
def refuse (failure : ReceiverFailure) : IO UInt32 := do
  say .error "connect failed" [("err", failure.message)]
  return 1

/-- Connects to a sender and receives from it. -/
def receive (config : ReceiverConfig) : IO UInt32 := do
  if let some failure := config.refusal? then
    return ← refuse failure
  try
    match ← connectWithin config.connectTimeout (← resolve config.address) with
    | none => refuse (.connectTimeout config.address config.connectTimeout)
    | some client =>
      say .info "connected" [("addr", config.address)]
      let started ← clock
      let run ← receiveOn (← interruption) client .start { started := started } {}
        (config.receiver { events := [.notReady] })
      report run.log
      match run.result with
      | .ok summary =>
        say .info "receiver stopped" [
          ("reason", reasonName summary.reason),
          ("frames", toString summary.frames),
          ("payload_bytes", toString summary.payloadBytes),
          ("skipped_bytes", toString summary.skippedBytes),
          ("rejected_payloads", toString run.consumer.rejected),
          ("elapsed", Time.describe ((← clock) - started))]
        return 0
      | .error failure =>
        say .error "receiver failed" [("err", failure.message)]
        return 1
  catch error =>
    refuse (.connect config.address (failureOf error))

-- ════════════════════════════════════════════════════════════════════════
-- Sending
-- ════════════════════════════════════════════════════════════════════════

/-- Makes a step of a session, and passes on to the client what the step wrote. If the client does
not take it, the step is made again with a sink that fails in the same way. -/
def stepOn (client : Client) (now : Nat) (mailbox : Mailbox) (session : SendSession Gauge) :
    IO (Stepped Gauge) := do
  let stepped := session.step now mailbox
  let written := stepped.session.writer.sink.bytes
  if written.isEmpty then
    return stepped
  try
    Async.block (client.send (ByteArray.mk written.toArray))
    let emptied := { stepped.session.writer with sink := {} }
    return { stepped with session := { stepped.session with writer := emptied } }
  catch error =>
    let broken : Gauge :=
      { settings := { limit := some 0, limitFailure := some (failureOf error) } }
    let failing := { session with writer := { session.writer with sink := broken } }
    return failing.step now mailbox

/-- Lets the sources capture and serves one client at a time, until the program is interrupted. The
answer is the mailbox. -/
partial def serve (interrupted : Std.Async.AsyncTask Int) (config : SenderConfig) (server : Server)
    (session? : Option (Client × SendSession Gauge)) (roster : Roster) : IO Mailbox := do
  if ← IO.hasFinished interrupted then
    return roster.mailbox.stop
  let now ← clock
  let captured := roster.advance now
  report captured.log
  let roster := { captured with log := [] }
  match session? with
  | none =>
    match ← server.tryAccept with
    | none =>
      IO.sleep 1
      serve interrupted config server none roster
    | some client =>
      say .info "client connected" []
      client.noDelay
      serve interrupted config server (some (client, config.session {})) roster
  | some (client, session) =>
    if session.canStep now roster.mailbox then
      let stepped ← stepOn client now roster.mailbox session
      report stepped.log
      let roster := { roster with mailbox := stepped.mailbox }
      match stepped.session.phase with
      | .ended _ => serve interrupted config server none roster
      | _ => serve interrupted config server (some (client, stepped.session)) roster
    else
      IO.sleep 1
      serve interrupted config server session? roster

/-- Listens on an address. -/
def listenOn (address : String) : IO Server := do
  let server ← Server.mk
  server.bind (← resolve address)
  server.listen 128
  return server

/-- Prints why a sender ended. -/
def giveUp (message : String) (failure : SenderFailure) : IO UInt32 := do
  say .error message [("err", failure.message)]
  return 1

/-- Listens for clients and sends to them. -/
def send (config : SenderConfig) : IO UInt32 := do
  if let some failure := config.refusal? then
    return ← giveUp "startup failed" failure
  match ← (listenOn config.bind).toBaseIO with
  | .error error => giveUp "startup failed" (.bind config.bind (failureOf error))
  | .ok server =>
    say .info "listening" [("addr", config.bind)]
    let started ← clock
    let roster := { Roster.start config with now := started, nextTick := started }
    say .info "sources started" [("sources", toString roster.running)]
    try
      let mailbox ← serve (← (← interruption).wait) config server none roster
      say .info "sender shutting down" []
      say .info "sender stopped" [
        ("captured", toString mailbox.pushed),
        ("overwritten", toString mailbox.dropped)]
      return 0
    catch error =>
      giveUp "sender failed" (.accept (failureOf error))

-- ════════════════════════════════════════════════════════════════════════
-- Starting
-- ════════════════════════════════════════════════════════════════════════

/-- Starts one end with its settings, or says why there are none. -/
def start {config : Type} (name : String) (options : Options.Known)
    (settings : Except StartFault config) (run : config → IO UInt32) : IO UInt32 := do
  match settings with
  | .ok config => run config
  | .error (.message text) =>
    say .error text []
    return 1
  | .error (.misuse misuse) =>
    let usage := "usage: " ++ name ++ " " ++ options.describe
    if misuse = .helpWanted then
      IO.println usage
      return 0
    else
      IO.eprintln ("error: " ++ misuse.name)
      IO.eprintln usage
      return 2

end FramedVideo.Command

open FramedVideo

/-- Runs one of the two ends; the first argument says which. -/
def main (arguments : List String) : IO UInt32 := do
  match arguments with
  | "receive" :: rest =>
    Command.start "receive" ReceiverConfig.options (ReceiverConfig.ofArguments rest) Command.receive
  | "send" :: rest =>
    Command.start "send" SenderConfig.options (SenderConfig.ofArguments rest) Command.send
  | _ =>
    IO.eprintln "usage: (send | receive) [OPTIONS]"
    return 2
