import FramedVideo.Number.Rounding

/-!
# Doubles

A double is a whole number of at most 53 bits times a power of two, or an infinity, or not a number.
Arithmetic is exact arithmetic on quotients of natural numbers, rounded once: to the nearest double,
and halfway to the one whose whole number is even.

## Main definitions

- `Binary64` — the values of a double
- `Binary64.nearest` — the double nearest to a quotient
- `Binary64.toBits` — the pattern of 64 bits
- `Binary64.sum`, `Binary64.quotient`, `Binary64.larger` — arithmetic of values that are not negative
-/

namespace FramedVideo

/-- The values of a double. -/
inductive Binary64 where
  | nan
  | infinite (negative : Bool)
  /-- `mantissa * 2 ^ exponent`, with its sign. The mantissa has 53 bits, or the exponent is the
  least one. -/
  | finite (negative : Bool) (mantissa : Nat) (exponent : Int)
  deriving DecidableEq, Repr

namespace Binary64

/-- The least mantissa of 53 bits. -/
def fullMantissa : Nat := 1 <<< 52

/-- The exponent of the numbers nearest to zero. -/
def minExponent : Int := -1074

/-- The exponent of the largest numbers. -/
def maxExponent : Int := 971

/-- The quotient `num / den` in units of `2 ^ exponent`. -/
def inUnits (num den : Nat) (exponent : Int) : Nat × Nat :=
  match exponent with
  | .ofNat up => (num, den <<< up)
  | .negSucc down => (num <<< (down + 1), den)

/-- The greatest power of two, as an exponent, that is at most `num / den`. -/
def floorLog2 (num den : Nat) : Int :=
  let guess : Int := (Nat.log2 num : Int) - Nat.log2 den
  let (scaledNum, scaledDen) := inUnits num den guess
  if scaledNum < scaledDen then guess - 1 else guess

/-- The double nearest to `num / den`, with a sign. -/
def nearest (negative : Bool) (num den : Nat) : Binary64 :=
  if num = 0 then
    .finite negative 0 minExponent
  else
    let exponent := max (floorLog2 num den - 52) minExponent
    let (scaledNum, scaledDen) := inUnits num den exponent
    let mantissa := divNearest scaledNum scaledDen
    let (mantissa, exponent) :=
      if mantissa = 2 * fullMantissa then (fullMantissa, exponent + 1) else (mantissa, exponent)
    if maxExponent < exponent then .infinite negative else .finite negative mantissa exponent

/-- The double nearest to a natural number. -/
def ofNat (n : Nat) : Binary64 := nearest false n 1

/-- The sign is minus. -/
def isNegative : Binary64 → Bool
  | nan => false
  | infinite negative => negative
  | finite negative _ _ => negative

/-- The size of a finite double, without its sign, as a quotient. -/
def ratio (mantissa : Nat) (exponent : Int) : Nat × Nat :=
  match exponent with
  | .ofNat up => (mantissa <<< up, 1)
  | .negSucc down => (mantissa, 1 <<< (down + 1))

/-- The bits of the size of a double. -/
def magnitudeBits : Binary64 → Nat
  | nan => 0x7ff8000000000000
  | infinite _ => 0x7ff0000000000000
  | finite _ mantissa exponent =>
    if mantissa < fullMantissa then mantissa
    else (exponent - minExponent + 1).toNat * fullMantissa + (mantissa - fullMantissa)

/-- The pattern of 64 bits: sign, exponent, mantissa. -/
def toBits (value : Binary64) : UInt64 :=
  .ofNat (value.magnitudeBits + if value.isNegative then 1 <<< 63 else 0)

/-- Applies an operation on quotients to two finite doubles, neither of them negative. -/
def lift (op : Nat × Nat → Nat × Nat → Binary64) : Binary64 → Binary64 → Binary64
  | finite _ leftMantissa leftExponent, finite _ rightMantissa rightExponent =>
    op (ratio leftMantissa leftExponent) (ratio rightMantissa rightExponent)
  | _, _ => nan

/-- The rounded sum of two doubles that are not negative. -/
def sum : Binary64 → Binary64 → Binary64 :=
  lift fun left right => nearest false (left.1 * right.2 + right.1 * left.2) (left.2 * right.2)

/-- The rounded quotient of two doubles that are not negative, the second not zero. -/
def quotient : Binary64 → Binary64 → Binary64 :=
  lift fun left right => nearest false (left.1 * right.2) (left.2 * right.1)

/-- The larger of two doubles that are not negative. -/
def larger (left right : Binary64) : Binary64 :=
  if left.magnitudeBits ≤ right.magnitudeBits then right else left

end Binary64

end FramedVideo
