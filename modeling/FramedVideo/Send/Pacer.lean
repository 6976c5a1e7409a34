/-!
# Pacing

A pacer keeps frames at least an interval apart. The first one may go at once, and after each the
next slot opens an interval later, so that an idle time is never made up for by a burst.

## Main definitions

- `Pacer` — the interval, and when the next slot opens
- `Pacer.opensAt?` — the moment to wait for
- `Pacer.release` — lets a frame go
-/

namespace FramedVideo

/-- The interval, and when the next slot opens. Without an interval no frame waits. -/
structure Pacer where
  interval : Option Nat
  /-- When the next slot opens; none before the first frame. -/
  next : Option Nat := none
  deriving DecidableEq, Repr

namespace Pacer

/-- The moment to wait for before the next frame. -/
def opensAt? (pacer : Pacer) : Option Nat :=
  match pacer.interval with
  | some _ => pacer.next
  | none => none

/-- A frame may go at a moment. -/
def isOpen (now : Nat) (pacer : Pacer) : Bool :=
  match pacer.opensAt? with
  | some moment => moment ≤ now
  | none => true

/-- Lets a frame go; the next slot opens an interval later. -/
def release (now : Nat) (pacer : Pacer) : Pacer :=
  match pacer.interval with
  | some interval => { pacer with next := some (now + interval) }
  | none => pacer

end Pacer

end FramedVideo
