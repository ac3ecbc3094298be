import BoundSql.Decimal.Digits

namespace BoundSql

/-!
# Decimal — numerals with fraction and exponent

A decimal number as it is written: sign, digits before the point, digits after it and an
exponent.  Keeping the digits, and not the number, lets each use read them with its own
precision.

* `Decimal.Numeral.text` — the characters of a numeral.
* `Decimal.Numeral.integer?` — the integer that a numeral without point and exponent
  spells.
-/

namespace Decimal

/-- The exponent of a numeral: its sign and its digits. -/
structure Exponent where
  negative : Bool
  digits : List Digit
  deriving DecidableEq

/-- A decimal number as it is written; no digits after the point means no point. -/
structure Numeral where
  negative : Bool
  whole : List Digit
  fraction : List Digit
  exponent : Option Exponent
  deriving DecidableEq

/-- The exponent's value. -/
def Exponent.value (e : Exponent) : Int :=
  if e.negative then -(Decimal.value e.digits : Int) else Decimal.value e.digits

namespace Numeral

/-- The characters of an exponent; its sign is always written. -/
def exponentText : Option Exponent → List Char
  | none => []
  | some e => 'e' :: (if e.negative then '-' else '+') :: e.digits.map digitChar

/-- The characters of the digits after the point, with the point. -/
def fractionText : List Digit → List Char
  | [] => []
  | digits => '.' :: digits.map digitChar

/-- The characters of a numeral. -/
def text (n : Numeral) : List Char :=
  (if n.negative then ['-'] else []) ++ n.whole.map digitChar ++ fractionText n.fraction
    ++ exponentText n.exponent

/-- The numeral of an integer. -/
def ofInt (n : Int) : Numeral :=
  ⟨decide (n < 0), digits n.natAbs, [], none⟩

/-- The integer that a numeral without point and exponent spells.  A zero with a minus
    sign is not one: integers have one zero. -/
def integer? (n : Numeral) : Option Int :=
  match n.fraction, n.exponent with
  | [], none =>
      let magnitude := value n.whole
      if n.negative then if magnitude = 0 then none else some (-(magnitude : Int))
      else some magnitude
  | _, _ => none

/-- The numeral of an integer spells it. -/
theorem integer?_ofInt (n : Int) : (ofInt n).integer? = some n := by
  simp only [ofInt, integer?, value_digits, decide_eq_true_eq]
  split
  · have : n.natAbs ≠ 0 := by omega
    simp only [this, if_false, Option.some.injEq]
    omega
  · simp only [Option.some.injEq]
    omega

end Numeral

end Decimal

end BoundSql
