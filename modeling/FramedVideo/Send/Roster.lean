import FramedVideo.Log
import FramedVideo.Mailbox
import FramedVideo.Send.Config
import FramedVideo.Send.Synthetic

/-!
# Running sources

Synthetic sources run side by side, on a clock that moves only when it is told to. Each offers a
frame at the start and then after every period, until it finds the mailbox stopped. Sources tick
one after the other, in the order in which they were started. A tick at the very end of a span
happens in the next one.

A period of zero cannot be waited for: sources with such a period end at once.

## Main definitions

- `Roster` — the sources, the mailbox, and the time
- `Roster.sleep` — lets time pass
- `Roster.finish` — stops the mailbox and waits for the sources to end
-/

namespace FramedVideo

/-- A source, and whether it still runs. -/
structure Roster.Entry where
  source : SyntheticSource
  running : Bool := true
  deriving DecidableEq, Repr

/-- The sources, the mailbox they offer to, and the time. -/
structure Roster where
  entries : List Roster.Entry
  period : Nat
  mailbox : Mailbox
  now : Nat := 0
  /-- The moment for which the next tick is set. -/
  nextTick : Nat := 0
  log : List Log.Line := []

/-- The report of a frame that was not taken before the next one came. -/
def Log.overwrote (frame : Frame) : Log.Line where
  level := .debug
  message := "overwrote unsent frame"
  fields := [
    ("source_id", toString frame.sourceId.toNat),
    ("frame_id", toString frame.frameId.toNat)]

/-- The report of a source that ended. -/
def Log.sourceStopped (sourceId : UInt16) : Log.Line where
  level := .debug
  message := "source stopped"
  fields := [("source_id", toString sourceId.toNat)]

namespace Roster

/-- The sources of a sender, at time zero. -/
def start (config : SenderConfig) : Roster where
  entries := (List.range config.sourceCount.toNat).map fun sourceId =>
    { source := { sourceId := .ofNat sourceId, payloadSize := config.payloadSize } }
  period := config.captureInterval
  mailbox := .empty config.sourceCount

/-- One source of its own period, at time zero, with the mailbox of a sender. -/
def single (config : SenderConfig) (sourceId : UInt16) (period : Nat) : Roster where
  entries := [{ source := { sourceId := sourceId, payloadSize := config.payloadSize } }]
  period := period
  mailbox := .empty config.sourceCount

/-- The sources that still run. -/
def running (roster : Roster) : Nat := (roster.entries.filter (·.running)).length

/-- One source ticks: it offers its next frame, or ends if the mailbox is stopped. -/
def tickEntry (moment : Nat) (mailbox : Mailbox) (entry : Entry) :
    Entry × Mailbox × List Log.Line :=
  if !entry.running then
    (entry, mailbox, [])
  else if mailbox.stopped then
    ({ entry with running := false }, mailbox, [Log.sourceStopped entry.source.sourceId])
  else
    let (frame, source) := entry.source.capture (.ofNat (moment / Time.microsecond))
    let (outcome, mailbox) := mailbox.offer frame
    ({ entry with source := source }, mailbox,
      if outcome = .replaced then [Log.overwrote frame] else [])

/-- Sources tick one after the other. -/
def tickEntries (moment : Nat) (mailbox : Mailbox) :
    List Entry → List Entry × Mailbox × List Log.Line
  | [] => ([], mailbox, [])
  | entry :: entries =>
    let (entry, mailbox, log) := tickEntry moment mailbox entry
    let (entries, mailbox, later) := tickEntries moment mailbox entries
    (entry :: entries, mailbox, log ++ later)

/-- All sources tick, and the next tick is set a period later. -/
def tick (roster : Roster) : Roster :=
  let moment := Time.firesAt roster.nextTick
  let (entries, mailbox, log) := tickEntries moment roster.mailbox roster.entries
  { roster with
    entries := entries
    mailbox := mailbox
    log := roster.log ++ log
    nextTick := roster.nextTick + roster.period }

@[simp]
theorem nextTick_tick (roster : Roster) :
    roster.tick.nextTick = roster.nextTick + roster.period := rfl

/-- Ends all sources without a word, because their period cannot be waited for. -/
def abort (roster : Roster) : Roster :=
  { roster with entries := roster.entries.map fun entry => { entry with running := false } }

/-- Lets the sources tick for as long as their ticks come before a moment. -/
def advance (wake : Nat) (roster : Roster) : Roster :=
  if _hbefore : Time.firesAt roster.nextTick < wake then
    if _hperiod : roster.period = 0 then roster.abort else roster.tick.advance wake
  else
    roster
termination_by wake - roster.nextTick
decreasing_by
  have hnow := Nat.lt_of_le_of_lt (Time.le_firesAt roster.nextTick) _hbefore
  clear _hbefore
  rw [nextTick_tick]
  omega

/-- Lets a span of time pass. -/
def sleep (span : Nat) (roster : Roster) : Roster :=
  let wake := roster.now + span
  { roster.advance wake with now := wake }

/-- Stops the mailbox. -/
def stop (roster : Roster) : Roster := { roster with mailbox := roster.mailbox.stop }

/-- Takes all the frames that wait, by ascending source. -/
def drain (roster : Roster) : List Frame × Roster :=
  let (frames, mailbox) := takeAll roster.mailbox.pending.length roster.mailbox
  (frames.mergeSort fun left right => left.sourceId ≤ right.sourceId,
    { roster with mailbox := mailbox })
where
  /-- Takes at most a number of frames. -/
  takeAll : Nat → Mailbox → List Frame × Mailbox
    | 0, mailbox => ([], mailbox)
    | count + 1, mailbox =>
      match mailbox.takeNow with
      | (none, left) => ([], left)
      | (some frame, left) =>
        let (frames, rest) := takeAll count left
        (frame :: frames, rest)

/-- Stops the mailbox and waits for the sources to end, which they do at their next tick. -/
def finish (roster : Roster) : Roster :=
  let stopped := roster.stop
  if stopped.period = 0 then stopped.abort else stopped.tick

end Roster

end FramedVideo
