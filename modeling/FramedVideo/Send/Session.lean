import FramedVideo.Mailbox
import FramedVideo.Send.Config
import FramedVideo.Send.Pacer
import FramedVideo.Writer

/-!
# Sending to a client

A session takes frames from a mailbox and writes them to one client. A frame that is too large for
the wire is dropped as it is taken; any other waits for the pacer and is then written. The session
ends when the mailbox is stopped, and shuts the stream down then, or when writing fails.

A session goes step by step: it takes a frame, or it writes the one that it holds. Between two steps
sources may offer frames, and the mailbox may be stopped; a frame that was taken before is still
written.

## Main definitions

- `SendSession` — the state of a session
- `SendSession.step` — its next step at a given moment
- `SendSession.canStep` — whether a step would do anything
-/

namespace FramedVideo

open Transport (Sink)

/-- What a session did. -/
structure SendStats where
  /-- Frames written. -/
  sent : Nat := 0
  /-- Bytes of their payloads. -/
  payloadBytes : Nat := 0
  /-- Frames dropped because they were too large. -/
  oversize : Nat := 0
  deriving DecidableEq, Repr

/-- What a session does next. -/
inductive SendSession.Phase where
  /-- It takes a frame. -/
  | taking
  /-- It writes the frame that it holds. -/
  | holding (frame : Frame)
  /-- Nothing: writing failed, or the mailbox was stopped. -/
  | ended (disconnect : Option Transport.Failure)
  deriving DecidableEq, Repr

/-- The state of a session with one client. -/
structure SendSession (ω : Type) where
  writer : Writer ω
  pacer : Pacer
  logEvery : Nat
  stats : SendStats := {}
  phase : SendSession.Phase := .taking

/-- The session of a sender with a client. -/
def SenderConfig.session {ω : Type} (config : SenderConfig) (sink : ω) : SendSession ω where
  writer := { sink := sink, protocol := config.protocol }
  pacer := { interval := config.sendInterval? }
  logEvery := config.logEvery

/-- The report of a frame that is too large. -/
def Log.droppedFrame (frame : Frame) (fault : Fault) : Log.Line where
  level := .warn
  message := "dropping frame"
  fields := [
    ("source_id", toString frame.sourceId.toNat),
    ("frame_id", toString frame.frameId.toNat),
    ("err", fault.message)]

/-- The report of a client that went away. -/
def Log.disconnected (failure : Transport.Failure) (stats : SendStats) : Log.Line where
  level := .info
  message := "client disconnected"
  fields := [("err", failure.message), ("sent", toString stats.sent)]

/-- The periodic report. -/
def Log.sent (mailbox : Mailbox) (stats : SendStats) : Log.Line where
  level := .info
  message := "send stats"
  fields := [
    ("captured", toString mailbox.pushed),
    ("sent", toString stats.sent),
    ("overwritten", toString mailbox.dropped),
    ("oversize", toString stats.oversize)]

/-- The report of a stream that could not be shut down. -/
def Log.shutdownFailed (failure : Transport.Failure) : Log.Line where
  level := .error
  message := "failed to shut down client stream"
  fields := [("err", failure.message)]

/-- What a step leaves. -/
structure Stepped (ω : Type) where
  session : SendSession ω
  mailbox : Mailbox
  log : List Log.Line := []

namespace SendSession

variable {ω : Type} [Sink ω]

/-- Drops a frame that is too large. -/
def drop (frame : Frame) (fault : Fault) (session : SendSession ω) :
    SendSession ω × List Log.Line :=
  ({ session with
      stats := { session.stats with oversize := session.stats.oversize + 1 }
      phase := .taking },
    [Log.droppedFrame frame fault])

/-- Ends the session because there will be no more frames. -/
def close (session : SendSession ω) : SendSession ω × List Log.Line :=
  match session.writer.shutdown with
  | (.ok (), writer) => ({ session with writer := writer, phase := .ended none }, [])
  | (.error failure, writer) =>
    ({ session with writer := writer, phase := .ended none }, [Log.shutdownFailed failure])

/-- Writes a frame at a moment at which the pacer lets it go. -/
def send (now : Nat) (frame : Frame) (mailbox : Mailbox) (session : SendSession ω) :
    SendSession ω × List Log.Line :=
  let released := { session with pacer := session.pacer.release now }
  match released.writer.write frame with
  | (.ok (), writer) =>
    let stats := { session.stats with
      sent := session.stats.sent + 1
      payloadBytes := session.stats.payloadBytes + frame.payload.length }
    ({ released with writer := writer, stats := stats, phase := .taking },
      Log.wroteFrame frame ::
        if Log.isDue session.logEvery stats.sent then [Log.sent mailbox stats] else [])
  | (.error (.fault fault), writer) => drop frame fault { released with writer := writer }
  | (.error (.transport failure), writer) =>
    ({ released with writer := writer, phase := .ended (some failure) },
      [Log.disconnected failure session.stats])

/-- The next step of a session at a given moment. -/
def step (now : Nat) (mailbox : Mailbox) (session : SendSession ω) : Stepped ω :=
  match session.phase with
  | .taking =>
    match mailbox.take with
    | (.nothingYet, left) => { session := session, mailbox := left }
    | (.ended, left) =>
      let (closed, log) := session.close
      { session := closed, mailbox := left, log := log }
    | (.frame frame, left) =>
      match frame.header session.writer.protocol with
      | .error fault =>
        let (dropped, log) := session.drop frame fault
        { session := dropped, mailbox := left, log := log }
      | .ok _ => { session := { session with phase := .holding frame }, mailbox := left }
  | .holding frame =>
    if session.pacer.isOpen now then
      let (sent, log) := session.send now frame mailbox
      { session := sent, mailbox := mailbox, log := log }
    else
      { session := session, mailbox := mailbox }
  | .ended _ => { session := session, mailbox := mailbox }

/-- A step would do something at a given moment. -/
def canStep (now : Nat) (mailbox : Mailbox) (session : SendSession ω) : Bool :=
  match session.phase with
  | .taking => mailbox.stopped || !mailbox.pending.isEmpty
  | .holding _ => session.pacer.isOpen now
  | .ended _ => false

/-- The steps that are left before a session waits, if nobody else acts and time allows them. -/
def stepsLeft (mailbox : Mailbox) (session : SendSession ω) : Nat :=
  match session.phase with
  | .taking => 2 * mailbox.pending.length + 1
  | .holding _ => 2 * mailbox.pending.length + 2
  | .ended _ => 0

omit [Sink ω] in
@[simp]
theorem phase_drop (frame : Frame) (fault : Fault) (session : SendSession ω) :
    (session.drop frame fault).1.phase = .taking := rfl

@[simp]
theorem phase_close (session : SendSession ω) : session.close.1.phase = .ended none := by
  unfold close
  split <;> rfl

theorem phase_send (now : Nat) (frame : Frame) (mailbox : Mailbox) (session : SendSession ω) :
    (session.send now frame mailbox).1.phase = .taking ∨
      ∃ failure, (session.send now frame mailbox).1.phase = .ended (some failure) := by
  unfold send
  dsimp only
  split
  · exact .inl rfl
  · exact .inl rfl
  · exact .inr ⟨_, rfl⟩

/-- A step that does something leaves fewer of them. -/
theorem stepsLeft_step_lt (now : Nat) (mailbox : Mailbox) (session : SendSession ω)
    (h : session.canStep now mailbox = true) :
    (session.step now mailbox).session.stepsLeft (session.step now mailbox).mailbox <
      session.stepsLeft mailbox := by
  unfold step canStep at *
  cases hphase : session.phase with
  | ended disconnect => simp [hphase] at h
  | holding frame =>
    simp only [hphase] at h
    simp only [h, if_true, stepsLeft, hphase]
    obtain hnext | ⟨failure, hnext⟩ := phase_send now frame mailbox session <;> simp [hnext]
  | taking =>
    simp only [hphase] at h
    simp only [stepsLeft, hphase]
    cases htake : mailbox.take with
    | mk delivery left =>
      cases delivery with
      | ended => simp
      | nothingYet =>
        exfalso
        unfold Mailbox.take at htake
        split at htake
        · simp at htake
        · split at htake
          · simp_all
          · dsimp only at htake
            split at htake
            · simp at htake
            · split at htake <;> simp at htake
      | frame frame =>
        have hlt := Mailbox.length_pending_take htake
        cases hheader : frame.header session.writer.protocol with
        | error fault => simp only [hheader, phase_drop]; omega
        | ok header => simp only [hheader]; omega

end SendSession

end FramedVideo
