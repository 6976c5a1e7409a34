import FramedVideo.Transport.Sink

/-!
# Sinks that keep what they take

A gauge keeps every byte that it takes, and counts flushes and shutdowns. It can be told to take a
few bytes at a time, to take no more than a number of bytes in all, and to fail in three places.

## Main definitions

- `Gauge.Settings` — how a gauge behaves
- `Gauge` — what a gauge has taken
-/

namespace FramedVideo.Transport

/-- How a gauge behaves. -/
structure Gauge.Settings where
  /-- The most bytes to take at a time. -/
  chunk : Option Nat := none
  /-- The most bytes to take in all. -/
  limit : Option Nat := none
  /-- The failure of an offer at the limit; without one nothing is taken there. -/
  limitFailure : Option Failure := none
  /-- The flush that fails, counted from 1, and how. -/
  flushFailure : Option (Nat × Failure) := none
  /-- The failure of every shutdown. -/
  shutdownFailure : Option Failure := none
  deriving DecidableEq, Repr

/-- A sink that keeps what it takes. -/
structure Gauge where
  settings : Gauge.Settings := {}
  /-- The bytes taken, last first. -/
  behind : Bytes := []
  /-- How many bytes were taken. -/
  taken : Nat := 0
  flushes : Nat := 0
  shutdowns : Nat := 0
  deriving DecidableEq, Repr

namespace Gauge

/-- The bytes taken, in order. -/
def bytes (gauge : Gauge) : Bytes := gauge.behind.reverse

/-- The part of an offer that is taken. -/
def acceptable (offer : Bytes) (gauge : Gauge) : Bytes :=
  let piece := match gauge.settings.chunk with
    | some chunk => offer.take chunk
    | none => offer
  match gauge.settings.limit with
  | some limit => piece.take (limit - gauge.taken)
  | none => piece

/-- The failure that an offer meets here. -/
def failureHere? (gauge : Gauge) : Option Failure :=
  match gauge.settings.limit with
  | some limit => if limit ≤ gauge.taken then gauge.settings.limitFailure else none
  | none => none

/-- Takes a part of an offer. -/
def write (offer : Bytes) (gauge : Gauge) : Except Failure Nat × Gauge :=
  match gauge.failureHere? with
  | some failure => (.error failure, gauge)
  | none =>
    let piece := gauge.acceptable offer
    (.ok piece.length,
      { gauge with behind := piece.reverseAux gauge.behind, taken := gauge.taken + piece.length })

/-- Counts a flush. -/
def flush (gauge : Gauge) : Except Failure Unit × Gauge :=
  let flushed := { gauge with flushes := gauge.flushes + 1 }
  match gauge.settings.flushFailure with
  | some (number, failure) =>
    (if flushed.flushes = number then .error failure else .ok (), flushed)
  | none => (.ok (), flushed)

/-- Counts a shutdown. -/
def shutdown (gauge : Gauge) : Except Failure Unit × Gauge :=
  let closed := { gauge with shutdowns := gauge.shutdowns + 1 }
  match gauge.settings.shutdownFailure with
  | some failure => (.error failure, closed)
  | none => (.ok (), closed)

instance : Sink Gauge where
  write := write
  flush := flush
  shutdown := shutdown

end Gauge

end FramedVideo.Transport
