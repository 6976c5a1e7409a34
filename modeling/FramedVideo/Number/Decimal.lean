import FramedVideo.Number.Binary64

/-!
# Doubles in decimal notation

A double is written with a given number of decimal places, from its exact value; or with as few
digits as let a reader find the same double again. Neither notation has an exponent.

## Main definitions

- `Decimal.places` — a quotient with a given number of decimal places
- `Decimal.shortest` — the fewest digits that read back
- `Binary64.toFixed`, `Binary64.toShortest` — the two notations
-/

namespace FramedVideo

namespace Decimal

/-- A power of ten. -/
def tenTo : Nat → Nat
  | 0 => 1
  | count + 1 => tenTo count * 10

/-- The decimal digits of `n`, at least `width` of them. -/
def padded (width n : Nat) : String :=
  let digits := toString n
  String.ofList (List.replicate (width - digits.length) '0') ++ digits

/-- The quotient `num / den` with `count` decimal places, the last one rounded to the nearest; a
half goes to the even digit. -/
def places (count num den : Nat) : String :=
  let scaled := divNearest (num * tenTo count) den
  if count = 0 then
    toString scaled
  else
    toString (scaled / tenTo count) ++ "." ++ padded count (scaled % tenTo count)

/-- The greatest power of ten, as an exponent, that is at most `num / den`, if it is at least
`least`. The search goes down from `least + steps`. -/
def floorLog10 (num den : Nat) (least : Int) : Nat → Int
  | 0 => least
  | steps + 1 =>
    let guess := least + steps + 1
    let reached : Bool := match guess with
      | .ofNat up => den * tenTo up ≤ num
      | .negSucc down => den ≤ num * tenTo (down + 1)
    if reached then guess else floorLog10 num den least steps

/-- The numbers that read back as a double: those between two bounds, over a common denominator. -/
structure Interval where
  low : Nat
  value : Nat
  high : Nat
  den : Nat
  /-- The bounds themselves read back too. -/
  closed : Bool

/-- The numbers that are nearest to a double, of a mantissa that is not zero. Below a power of two
the next double is nearer than above it. -/
def Interval.around (mantissa : Nat) (exponent : Int) : Interval :=
  let below := if mantissa = Binary64.fullMantissa ∧ Binary64.minExponent < exponent then 1 else 2
  let (unit, den) := Binary64.ratio 1 (exponent - 2)
  { low := (4 * mantissa - below) * unit
    value := 4 * mantissa * unit
    high := (4 * mantissa + 2) * unit
    den := den
    closed := mantissa % 2 = 0 }

/-- The digits `digits`, in units of `10 ^ unit`, read back. -/
def Interval.holds (interval : Interval) (digits : Nat) (unit : Int) : Bool :=
  let (num, low, high) := match unit with
    | .ofNat up => (digits * tenTo up * interval.den, interval.low, interval.high)
    | .negSucc down =>
      (digits * interval.den, interval.low * tenTo (down + 1), interval.high * tenTo (down + 1))
  if interval.closed then low ≤ num && num ≤ high else low < num && num < high

/-- The two neighbours of a number on the grid of `10 ^ unit`: the lower one, and whether the upper
one is as near. -/
def Interval.neighbours (interval : Interval) (unit : Int) : Nat × Bool :=
  let (num, den) := match unit with
    | .ofNat up => (interval.value, interval.den * tenTo up)
    | .negSucc down => (interval.value * tenTo (down + 1), interval.den)
  (num / den, den ≤ 2 * (num % den))

/-- The first grid, from the coarsest on, on which a neighbour of the number reads back; of two
neighbours that do, the nearer one. The answer is its digits and the unit of the grid. -/
def shortest (interval : Interval) (unit : Int) : Nat → Nat × Int
  | 0 => ((interval.neighbours unit).1, unit)
  | finer + 1 =>
    let (lower, upperIsNear) := interval.neighbours unit
    let lowerHolds := interval.holds lower unit
    let upperHolds := interval.holds (lower + 1) unit
    if upperHolds && (upperIsNear || !lowerHolds) then
      (lower + 1, unit)
    else if lowerHolds then
      (lower, unit)
    else
      shortest interval (unit - 1) finer

/-- `digits * 10 ^ unit` without an exponent. -/
def positional (digits : Nat) (unit : Int) : String :=
  match unit with
  | .ofNat up => toString (digits * tenTo up)
  | .negSucc down =>
    let whole := digits / tenTo (down + 1)
    let fraction := padded (down + 1) (digits % tenTo (down + 1))
    let trimmed := (fraction.toList.reverse.dropWhile (· = '0')).reverse
    if trimmed.isEmpty then toString whole else toString whole ++ "." ++ String.ofList trimmed

end Decimal

namespace Binary64

/-- A double with `count` decimal places. -/
def toFixed (count : Nat) : Binary64 → String
  | nan => "NaN"
  | infinite negative => if negative then "-inf" else "inf"
  | finite negative mantissa exponent =>
    let (num, den) := ratio mantissa exponent
    (if negative then "-" else "") ++ Decimal.places count num den

/-- The fewest digits that read back as a double, without an exponent. A double has at most 309
digits before the point, and 17 digits always suffice. -/
def toShortest : Binary64 → String
  | nan => "NaN"
  | infinite negative => if negative then "-inf" else "inf"
  | finite negative mantissa exponent =>
    let unsigned :=
      if mantissa = 0 then
        "0"
      else
        let (num, den) := ratio mantissa exponent
        let leading := Decimal.floorLog10 num den (-325) 635
        let (digits, unit) := Decimal.shortest (.around mantissa exponent) leading 17
        Decimal.positional digits unit
    (if negative then "-" else "") ++ unsigned

end Binary64

end FramedVideo
