import FramedVideo.Number.Decimal

/-!
# Reading numbers

The numbers that are given as text: whole numbers with an optional sign, and decimal fractions with
an optional sign and exponent. A fraction is read as the double nearest to its exact value.

## Main definitions

- `Literal.natural?`, `Literal.integer?` — whole numbers
- `Literal.double?` — decimal fractions, infinities, and what is not a number
-/

namespace FramedVideo.Literal

/-- The number that a string of decimal digits spells; there has to be one digit. -/
def digits? (chars : List Char) : Option Nat :=
  if chars.isEmpty || !chars.all Char.isDigit then none
  else some (chars.foldl (fun value c => value * 10 + (c.toNat - '0'.toNat)) 0)

/-- A whole number, perhaps with a plus sign. -/
def natural? (text : String) : Option Nat :=
  match text.toList with
  | '+' :: rest => digits? rest
  | chars => digits? chars

/-- A whole number, perhaps with a sign. -/
def integer? (text : String) : Option Int :=
  match text.toList with
  | '+' :: rest => (digits? rest).map Int.ofNat
  | '-' :: rest => (digits? rest).map fun n => -Int.ofNat n
  | chars => (digits? chars).map Int.ofNat

/-- The double nearest to `digits * 10 ^ exponent`. Numbers that are far out of range are decided
without computing the power. -/
def scaled (negative : Bool) (digits : Nat) (exponent : Int) : Binary64 :=
  let magnitude : Int := (toString digits).length + exponent
  if digits = 0 ∨ magnitude < -330 then
    .finite negative 0 Binary64.minExponent
  else if 310 < magnitude then
    .infinite negative
  else
    match exponent with
    | .ofNat up => .nearest negative (digits * Decimal.tenTo up) 1
    | .negSucc down => .nearest negative digits (Decimal.tenTo (down + 1))

/-- An exponent, after its mark. -/
def exponent? (chars : List Char) : Option Int := integer? (String.ofList chars)

/-- A decimal fraction without a sign: digits, perhaps a point among them or at an end, and perhaps
an exponent. -/
def unsigned? (negative : Bool) (chars : List Char) : Option Binary64 :=
  let whole := chars.takeWhile Char.isDigit
  let afterWhole := chars.dropWhile Char.isDigit
  let (fraction, rest) := match afterWhole with
    | '.' :: tail => (tail.takeWhile Char.isDigit, tail.dropWhile Char.isDigit)
    | tail => ([], tail)
  match digits? (whole ++ fraction) with
  | none => none
  | some digits =>
    match rest with
    | [] => some (scaled negative digits (-fraction.length))
    | mark :: tail =>
      if mark = 'e' ∨ mark = 'E' then
        (exponent? tail).map fun exponent => scaled negative digits (exponent - fraction.length)
      else
        none

/-- The names of the values that are not fractions, in lower case. -/
def named? (negative : Bool) (chars : List Char) : Option Binary64 :=
  let name := String.ofList (chars.map Char.toLower)
  if name = "inf" ∨ name = "infinity" then some (.infinite negative)
  else if name = "nan" then some .nan
  else none

/-- A decimal fraction, an infinity, or what is not a number, perhaps with a sign. -/
def double? (text : String) : Option Binary64 :=
  let (negative, chars) := match text.toList with
    | '+' :: rest => (false, rest)
    | '-' :: rest => (true, rest)
    | chars => (false, chars)
  (named? negative chars).or (unsigned? negative chars)

end FramedVideo.Literal
