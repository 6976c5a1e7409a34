/-!
# Rounding quotients

Quotients of natural numbers are rounded to the nearest natural number; a quotient that lies halfway
goes to the even neighbour.

## Main definitions

- `divNearest` — the rounded quotient

Main statement: `dist_divNearest`, the rounded quotient is within half a unit.
-/

namespace FramedVideo

/-- The natural number nearest to `num / den`; halfway, the even one. -/
def divNearest (num den : Nat) : Nat :=
  let quotient := num / den
  let twice := 2 * (num % den)
  if twice > den ∨ (twice = den ∧ quotient % 2 = 1) then quotient + 1 else quotient

/-- The rounded quotient is within half a unit of the quotient. -/
theorem dist_divNearest (num den : Nat) (hden : 0 < den) :
    2 * num ≤ (2 * divNearest num den + 1) * den ∧
      2 * divNearest num den * den ≤ 2 * num + den := by
  have hdiv := Nat.div_add_mod num den
  have hmod := Nat.mod_lt num hden
  have hcomm : den * (num / den) = num / den * den := Nat.mul_comm ..
  simp only [divNearest]
  split <;> rename_i h
  · simp only [Nat.mul_add, Nat.add_mul, Nat.mul_assoc, Nat.one_mul]
    omega
  · simp only [Nat.add_mul, Nat.mul_assoc, Nat.one_mul]
    omega

end FramedVideo
