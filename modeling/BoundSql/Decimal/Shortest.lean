import BoundSql.Binary64.Basic
import BoundSql.Decimal.Digits

namespace BoundSql

/-!
# Decimal — the fewest digits that read back

Every real number in a certain interval around a floating-point number rounds to it; its
ends belong to the interval where the significand is even.  The shortest decimal is looked
for on grids of one digit, two digits and so on: on each grid only the two neighbours of
the number can be in the interval, or no point of the grid is.  The first grid with a hit
gives the digits; of two hits the nearer one counts.  Seventeen digits always suffice.

* `Decimal.shortest` — digits and exponent of a finite number other than zero.
-/

namespace Decimal

/-- Which neighbour is taken where the number lies half way between both. -/
inductive Tie where
  | toEven
  | up
  deriving DecidableEq

/-- A decimal `d.ddd · 10 ^ exponent`. -/
structure Scientific where
  digits : List Digit
  exponent : Int
  deriving DecidableEq

/-- The numbers that round to a floating-point number, over one denominator. -/
structure Interval where
  low : Nat
  middle : Nat
  high : Nat
  denominator : Nat
  closed : Bool

/-- The interval of a finite number other than zero, in quarters of its last place.  Below
    a power of two the next number is only half as far away. -/
def Interval.around (x : Binary64) : Interval :=
  let middle := 4 * x.significand
  let below := if x.fractionField = 0 ∧ 1 < x.exponentField then 1 else 2
  let quarter := x.scale - 2
  let factor := Nat.pow 2 quarter.toNat
  ⟨(middle - below) * factor, middle * factor, (middle + 2) * factor, Nat.pow 2 (-quarter).toNat,
    x.significand % 2 == 0⟩

/-- Counts the interval in steps of `10 ^ unit`. -/
def Interval.inUnits (i : Interval) (unit : Int) : Interval :=
  let factor := Nat.pow 10 (-unit).toNat
  { i with
    low := i.low * factor
    middle := i.middle * factor
    high := i.high * factor
    denominator := i.denominator * Nat.pow 10 unit.toNat }

/-- Is the natural number in the interval? -/
def Interval.holds (i : Interval) (n : Nat) : Bool :=
  let point := n * i.denominator
  if i.closed then decide (i.low ≤ point ∧ point ≤ i.high)
  else decide (i.low < point ∧ point < i.high)

/-- The neighbour of the middle that is in the interval, the nearer one of two. -/
def Interval.neighbour? (i : Interval) (tie : Tie) : Option Nat :=
  let floor := i.middle / i.denominator
  let below := i.middle - floor * i.denominator
  let above := (floor + 1) * i.denominator - i.middle
  match i.holds floor, i.holds (floor + 1) with
  | true, true =>
      if below < above ∨ (below = above ∧ tie = .toEven ∧ floor % 2 = 0) then some floor
      else some (floor + 1)
  | true, false => some floor
  | false, true => some (floor + 1)
  | false, false => none

/-- The exponent of the leading digit of `num / den`, for a positive quotient. -/
def leadingExponent (num den : Nat) : Int :=
  if den ≤ num then (digits (num / den)).length - 1
  else
    -- the least power of ten that lifts the quotient to one or more
    let lift := (den + num - 1) / num
    if lift = 1 then 0 else -((digits (lift - 1)).length : Int)

/-- Looks through the grids from `unit` downwards, at most `count` of them. -/
def searchGrids (i : Interval) (tie : Tie) : (count : Nat) → (unit : Int) → Nat × Int
  | 0, unit => ((i.inUnits unit).middle / (i.inUnits unit).denominator, unit)
  | count + 1, unit =>
      match (i.inUnits unit).neighbour? tie with
      | some found => (found, unit)
      | none => searchGrids i tie count (unit - 1)

/-- The digits of a number without the zeros at their end. -/
def significantDigits (n : Nat) : List Digit :=
  ((digits n).reverse.dropWhile (· == 0)).reverse

/-- The shortest decimal that reads back as the magnitude of a finite number other than
    zero. -/
def shortest (tie : Tie) (x : Binary64) : Scientific :=
  let interval := Interval.around x
  let leading := leadingExponent interval.middle interval.denominator
  let (found, unit) := searchGrids interval tie 17 leading
  ⟨significantDigits found, unit + ((digits found).length - 1 : Nat)⟩

end Decimal

end BoundSql
