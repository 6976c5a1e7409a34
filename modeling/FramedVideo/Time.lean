import FramedVideo.Number.Binary64

/-!
# Spans of time

Spans and moments are whole numbers of nanoseconds. A span is shown in the largest unit in which its
whole part is not zero.

A timer fires on whole milliseconds: on the first one that is not before the moment it was set for.

## Main definitions

- `Time.describe` — a span as text
- `Time.ofSeconds` — a span from a double
- `Time.firesAt` — when a timer fires
-/

namespace FramedVideo.Time

/-- Nanoseconds in a microsecond. -/
def microsecond : Nat := 1000

/-- Nanoseconds in a millisecond. -/
def millisecond : Nat := 1000000

/-- Nanoseconds in a second. -/
def second : Nat := 1000000000

/-- The number of seconds that a span stays below. -/
def secondsLimit : Nat := UInt64.size

/-- The first whole millisecond that is not before a moment. -/
def firesAt (moment : Nat) : Nat :=
  (moment + (millisecond - 1)) / millisecond * millisecond

theorem le_firesAt (moment : Nat) : moment ≤ firesAt moment := by
  simp only [firesAt, millisecond]
  omega

theorem millisecond_dvd_firesAt (moment : Nat) : millisecond ∣ firesAt moment :=
  Nat.dvd_mul_left _ _

theorem firesAt_le_iff {moment whole : Nat} (hwhole : millisecond ∣ whole) :
    firesAt moment ≤ whole ↔ moment ≤ whole := by
  simp only [firesAt, millisecond] at *
  omega

theorem firesAt_mono {earlier later : Nat} (h : earlier ≤ later) :
    firesAt earlier ≤ firesAt later :=
  (firesAt_le_iff (millisecond_dvd_firesAt later)).2 (Nat.le_trans h (le_firesAt later))

/-- A span in a unit of `unit` nanoseconds: the whole part, and the fraction without the zeros at
its end. -/
def inUnit (span unit : Nat) (symbol : String) : String :=
  let places := (toString unit).length - 1
  let digits := (toString (span % unit)).toList
  let padded := List.replicate (places - digits.length) '0' ++ digits
  let fraction := (padded.reverse.dropWhile (· = '0')).reverse
  let point := if span % unit = 0 then "" else "." ++ String.ofList fraction
  toString (span / unit) ++ point ++ symbol

/-- A span as text, in the largest unit in which its whole part is not zero. -/
def describe (span : Nat) : String :=
  if second ≤ span then inUnit span second "s"
  else if millisecond ≤ span then inUnit span millisecond "ms"
  else if microsecond ≤ span then inUnit span microsecond "µs"
  else toString span ++ "ns"

/-- Why a double is not a span. -/
inductive SpanFault where
  | negative
  | tooBigOrNaN
  deriving DecidableEq, Repr

/-- One line for a reader of logs. -/
def SpanFault.message : SpanFault → String
  | negative => "cannot convert float seconds to Duration: value is negative"
  | tooBigOrNaN => "cannot convert float seconds to Duration: value is either too big or NaN"

/-- The span of a number of seconds, to the nearest nanosecond; halfway, the even number of them.
Minus zero is zero. -/
def ofSeconds : Binary64 → Except SpanFault Nat
  | .nan => .error .tooBigOrNaN
  | .infinite negative => .error (if negative then .negative else .tooBigOrNaN)
  | .finite negative mantissa exponent =>
    if negative ∧ mantissa ≠ 0 then
      .error .negative
    else
      let (num, den) := Binary64.ratio mantissa exponent
      let span := divNearest (num * second) den
      if secondsLimit * second ≤ span then .error .tooBigOrNaN else .ok span

/-- The seconds of a span as a double: the whole seconds and the fraction are rounded, and their sum
is rounded again. -/
def toSeconds (span : Nat) : Binary64 :=
  .sum (.ofNat (span / second)) (.nearest false (span % second) second)

end FramedVideo.Time
