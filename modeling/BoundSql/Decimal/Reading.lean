import BoundSql.Binary64.Nearest
import BoundSql.Decimal.Numeral

namespace BoundSql

/-!
# Decimal — the floating-point number of a numeral

A numeral is read as the floating-point number nearest to it, however many digits it has.
The digits and the exponent make up one exact quotient, which is rounded once.  Exponents
have no bound, so the powers of ten that are past every finite number, and those below every
positive one, are settled before they are computed.

* `Decimal.nearest?` — the number nearest to `significand · 10 ^ exponent`.
* `Decimal.Numeral.binary64?` — the number read, or none where it overflows.
-/

namespace Decimal

/-- The greatest power of ten that is no more than the greatest finite number. -/
def greatestPower : Int := 308

/-- Ten to this power is less than half of the least positive number. -/
def vanishingPower : Int := -325

/-- The number nearest to `significand · 10 ^ exponent`, or none where that is past the
    greatest finite one.  The significand has at most `places` digits. -/
def nearest? (significand places : Nat) (exponent : Int) : Option Binary64 :=
  if significand = 0 then some ⟨0⟩
  else if exponent > greatestPower then none
  else if (places : Int) + exponent ≤ vanishingPower then some ⟨0⟩
  else Binary64.ofRatio? (significand * Nat.pow 10 exponent.toNat)
    (Nat.pow 10 (-exponent).toNat)

/-- All digits of a numeral, without the point. -/
def Numeral.allDigits (n : Numeral) : List Digit :=
  n.whole ++ n.fraction

/-- The power of ten that scales all digits of a numeral. -/
def Numeral.scaling (n : Numeral) : Int :=
  (n.exponent.map Exponent.value).getD 0 - n.fraction.length

/-- The number that a numeral stands for, or none where it overflows. -/
def Numeral.binary64? (n : Numeral) : Option Binary64 :=
  (nearest? (value n.allDigits) n.allDigits.length n.scaling).map fun magnitude =>
    if n.negative then magnitude.opposite else magnitude

end Decimal

end BoundSql
