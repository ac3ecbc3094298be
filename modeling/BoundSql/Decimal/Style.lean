import BoundSql.Decimal.Numeral
import BoundSql.Decimal.Shortest

namespace BoundSql

/-!
# Decimal — how a floating-point number is written

The shortest decimal of a number can be written positionally or with an exponent, and an
integer with or without a zero after the point.  `Decimal.Style` holds these choices;
`Decimal.Style.numeral` follows them.
-/

namespace Decimal

/-- The choices in writing a floating-point number. -/
structure Style where
  /-- The neighbour that is taken half way between two shortest decimals. -/
  tie : Tie
  /-- The least and the greatest exponent that are written positionally; without bounds
      every number is. -/
  positional : Option (Int × Int)
  /-- Is an integer written with a zero after the point? -/
  point : Bool

namespace Style

/-- The digits after the point of an integer. -/
def integerFraction (style : Style) : List Digit :=
  if style.point then [.zero] else []

/-- Is a decimal with this exponent written positionally? -/
def isPositional (style : Style) (exponent : Int) : Bool :=
  match style.positional with
  | none => true
  | some (least, greatest) => decide (least ≤ exponent ∧ exponent ≤ greatest)

/-- A decimal without exponent: zeros fill the places up to the point, on either side. -/
def positionalNumeral (style : Style) (negative : Bool) (s : Scientific) : Numeral :=
  if s.exponent < 0 then
    ⟨negative, [.zero], List.replicate ((-s.exponent).toNat - 1) .zero ++ s.digits, none⟩
  else
    let places := s.exponent.toNat + 1
    let whole := s.digits.take places
    let padding := List.replicate (places - s.digits.length) Digit.zero
    match s.digits.drop places with
    | [] => ⟨negative, whole ++ padding, style.integerFraction, none⟩
    | fraction => ⟨negative, whole, fraction, none⟩

/-- A decimal with one digit before the point and an exponent. -/
def exponentNumeral (negative : Bool) (s : Scientific) : Numeral :=
  ⟨negative, s.digits.take 1, s.digits.drop 1,
    some ⟨decide (s.exponent < 0), digits s.exponent.natAbs⟩⟩

/-- The numeral of a finite number; zero keeps its sign. -/
def numeral (style : Style) (x : Binary64) : Numeral :=
  if x.isZero then ⟨x.negative, [.zero], style.integerFraction, none⟩
  else
    let s := shortest style.tie x
    if style.isPositional s.exponent then style.positionalNumeral x.negative s
    else exponentNumeral x.negative s

end Style

end Decimal

end BoundSql
