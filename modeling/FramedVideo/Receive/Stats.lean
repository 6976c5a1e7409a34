import FramedVideo.Frame
import FramedVideo.Number.Decimal
import FramedVideo.Time

/-!
# What was received

Totals over the frames of one connection: how many, how many bytes, how many from each source, and
which was the last. Time comes from the caller.

## Main definitions

- `Tally` — a count for each source that occurred, by ascending source
- `Stats` — the totals
- `Stats.record` — counts a frame
- `Snapshot` — the totals at a moment, with the rate of frames
-/

namespace FramedVideo

/-- A count for each source that occurred, by ascending source. -/
abbrev Tally := List (UInt16 × Nat)

namespace Tally

/-- Counts one more for a source. -/
def bump (sourceId : UInt16) : Tally → Tally
  | [] => [(sourceId, 1)]
  | (other, count) :: rest =>
    if sourceId < other then (sourceId, 1) :: (other, count) :: rest
    else if sourceId = other then (other, count + 1) :: rest
    else (other, count) :: bump sourceId rest

/-- The count of a source. -/
def count (sourceId : UInt16) (tally : Tally) : Nat :=
  (tally.find? fun entry => entry.1 = sourceId).elim 0 (·.2)

end Tally

/-- Which frame came last. -/
structure LastSeen where
  sourceId : UInt16
  frameId : UInt32
  timestamp : UInt64
  deriving DecidableEq, Repr

/-- Totals over the frames of one connection. -/
structure Stats where
  /-- The moment from which the rate is measured. -/
  started : Nat := 0
  frames : Nat := 0
  payloadBytes : Nat := 0
  perSource : Tally := []
  last : Option LastSeen := none
  deriving DecidableEq, Repr

namespace Stats

/-- Counts a frame. -/
def record (frame : Frame) (stats : Stats) : Stats :=
  { stats with
    frames := stats.frames + 1
    payloadBytes := stats.payloadBytes + frame.payload.length
    perSource := stats.perSource.bump frame.sourceId
    last := some ⟨frame.sourceId, frame.frameId, frame.timestamp⟩ }

/-- Counts the frames of a list, one after the other. -/
def recordAll (frames : List Frame) (stats : Stats) : Stats :=
  frames.foldl (fun stats frame => stats.record frame) stats

/-- The frames of one source. -/
def framesFrom (sourceId : UInt16) (stats : Stats) : Nat := stats.perSource.count sourceId

/-- The sources that occurred, ascending. -/
def sources (stats : Stats) : List UInt16 := stats.perSource.map (·.1)

/-- The time since the start; a moment before the start counts as the start. -/
def elapsed (now : Nat) (stats : Stats) : Nat := now - stats.started

/-- Frames in a second on average. Less than a microsecond counts as a microsecond. -/
def rate (now : Nat) (stats : Stats) : Binary64 :=
  .quotient (.ofNat stats.frames)
    (.larger (Time.toSeconds (stats.elapsed now)) (.nearest false 1 1000000))

/-- The totals in one line, with a given text for the rate. -/
def describe (rate : String) (stats : Stats) : String :=
  let totals := "frames=" ++ toString stats.frames ++ " fps=" ++ rate
  match stats.last with
  | none => totals
  | some last =>
    totals ++ " last_source=" ++ toString last.sourceId.toNat ++ " last_frame_id=" ++
      toString last.frameId.toNat ++ " timestamp_us=" ++ toString last.timestamp.toNat

end Stats

/-- The totals at a moment, with the rate of frames. -/
structure Snapshot where
  stats : Stats
  rate : Binary64
  deriving DecidableEq, Repr

/-- The totals at a moment. -/
def Stats.snapshot (now : Nat) (stats : Stats) : Snapshot := ⟨stats, stats.rate now⟩

/-- A snapshot in one line. The rate has two decimal places. -/
def Snapshot.describe (snapshot : Snapshot) : String :=
  snapshot.stats.describe (snapshot.rate.toFixed 2)

end FramedVideo
