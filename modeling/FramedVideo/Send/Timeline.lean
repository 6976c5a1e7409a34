import FramedVideo.Send.Session
import FramedVideo.Transport.Gauge

/-!
# A session on a clock

A session with a client that keeps what it gets, on a clock that moves only when it is told to.
While time passes the session goes on whenever it can: it writes at once what it may, and it wakes
up when a slot of the pacer opens. A session that would wake up at the very end of a span does so in
the next one.

## Main definitions

- `Timeline` — a session with its mailbox and the time
- `Timeline.advance` — lets the session go on up to a moment
- `Timeline.sleep` — lets time pass
- `Timeline.finish` — stops the mailbox and waits for the session to end
-/

namespace FramedVideo

open Transport (Gauge)

/-- A session with its mailbox and the time. -/
structure Timeline where
  now : Nat := 0
  mailbox : Mailbox
  session : SendSession Gauge
  log : List Log.Line := []
  /-- For each frame that was written, when it was, and how many bytes the client had then. The
  last one is first. -/
  flushedBehind : List (Nat × Nat) := []

namespace Timeline

/-- The session of a sender with a client, at time zero. -/
def start (config : SenderConfig) (client : Gauge) : Timeline where
  mailbox := .empty config.sourceCount
  session := config.session client

/-- The client. -/
def client (timeline : Timeline) : Gauge := timeline.session.writer.sink

/-- The frames that were written, in order: when each was, and the bytes that the client had. -/
def flushed (timeline : Timeline) : List (Nat × Nat) := timeline.flushedBehind.reverse

/-- Offers a frame to the mailbox. -/
def offer (frame : Frame) (timeline : Timeline) : Mailbox.Outcome × Timeline :=
  match timeline.mailbox.offer frame with
  | (outcome, mailbox) => (outcome, { timeline with mailbox := mailbox })

/-- Stops the mailbox. -/
def stop (timeline : Timeline) : Timeline :=
  { timeline with mailbox := timeline.mailbox.stop }

/-- The session makes a step. -/
def step (timeline : Timeline) : Timeline :=
  match timeline.session.step timeline.now timeline.mailbox with
  | ⟨session, mailbox, log⟩ =>
    { timeline with
      session := session
      mailbox := mailbox
      log := timeline.log ++ log
      flushedBehind :=
        if timeline.session.stats.sent < session.stats.sent then
          (timeline.now, session.writer.sink.taken) :: timeline.flushedBehind
        else
          timeline.flushedBehind }

/-- The moment at which the session wakes up to go on, if there is one. -/
def wakesAt? (timeline : Timeline) : Option Nat :=
  if timeline.session.canStep timeline.now timeline.mailbox then
    some timeline.now
  else
    match timeline.session.phase with
    | .holding _ => timeline.session.pacer.opensAt?.map fun moment =>
        max timeline.now (Time.firesAt moment)
    | _ => none

/-- A session that wakes up can make a step then. -/
theorem canStep_of_wakesAt? {timeline : Timeline} {moment : Nat}
    (h : timeline.wakesAt? = some moment) :
    timeline.session.canStep moment timeline.mailbox = true := by
  unfold wakesAt? at h
  split at h
  · simp_all
  · split at h
    · rename_i frame hphase
      obtain ⟨opens, hopens, rfl⟩ := Option.map_eq_some_iff.1 h
      have hfires := Time.le_firesAt opens
      simp only [SendSession.canStep, hphase, Pacer.isOpen, hopens, decide_eq_true_eq]
      omega
    · simp at h

/-- Lets the session go on for as long as it wakes up before a moment; without one, until it waits
for a frame or has ended. -/
def advance (until? : Option Nat) (timeline : Timeline) : Timeline :=
  match _h : timeline.wakesAt? with
  | none => timeline
  | some moment =>
    if until?.elim true (moment < ·) then
      ({ timeline with now := moment }.step).advance until?
    else
      timeline
termination_by timeline.session.stepsLeft timeline.mailbox
decreasing_by
  exact SendSession.stepsLeft_step_lt moment timeline.mailbox timeline.session
    (canStep_of_wakesAt? _h)

/-- Lets a span of time pass. -/
def sleep (span : Nat) (timeline : Timeline) : Timeline :=
  let wake := timeline.now + span
  { timeline.advance (some wake) with now := wake }

/-- Stops the mailbox and waits for the session to end. -/
def finish (timeline : Timeline) : Timeline := timeline.stop.advance none

end Timeline

end FramedVideo
