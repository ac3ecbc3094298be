import BoundSql.Binary64.Basic

namespace BoundSql

/-!
# Binary64 — the nearest floating-point number

Rounding a quotient of natural numbers to the nearest 64-bit number, a half going to the
even significand.  All arithmetic is exact; only the result is rounded.

* `Binary64.roundQuotient` — the nearest natural number to a quotient.
* `Binary64.ofRatio?` — the nearest number, or none where it would be infinite.
-/

namespace Binary64

/-- A quotient rounded to the nearest natural number, a half to the even one. -/
def roundQuotient (num den : Nat) : Nat :=
  let floor := num / den
  let rest := num % den
  if 2 * rest < den ∨ (2 * rest = den ∧ floor % 2 = 0) then floor else floor + 1

/-- The quotient `num / den` divided by `2 ^ shift`. -/
def shiftRatio (num den : Nat) (shift : Int) : Nat × Nat :=
  if 0 ≤ shift then (num, den * Nat.pow 2 shift.toNat)
  else (num * Nat.pow 2 (-shift).toNat, den)

/-- The scale at which the quotient has a significand of 53 bits, or the least scale there
    is.  The bit lengths give it up to one place; the quotient itself settles that one. -/
def scaleOf (num den : Nat) : Int :=
  let guess : Int := max ((num.log2 : Int) - den.log2 - 53) (-1074)
  let (num, den) := shiftRatio num den guess
  if Nat.pow 2 53 ≤ num / den then guess + 1 else guess

/-- The nearest number to `num / den`, or none where its magnitude is past the greatest
    finite one.  Significand and exponent are adjacent in the word, so that a significand
    rounded up to the next power of two carries into the exponent. -/
def ofRatio? (num den : Nat) : Option Binary64 :=
  if num = 0 then some ⟨0⟩
  else
    let scale := scaleOf num den
    let (num, den) := shiftRatio num den scale
    let word := (scale + 1074).toNat * Nat.pow 2 52 + roundQuotient num den
    if word < specialField * Nat.pow 2 52 then some ⟨UInt64.ofNat word⟩ else none

end Binary64

end BoundSql
