import BoundSql.Proofs.Sql.Grammar
import Mathlib.Data.List.Infix

namespace BoundSql

/-!
# Sql — what conditions mean

Truth with a third value for what is not known, and the truth of a condition in a row.  A
comparison with null is not known, a null test is always known, and `||` is read from left to
right.  How values are ordered, joined and matched is the database's to say; all that is
asked of it is that integers are ordered as integers.

* `Truth` — truth with a third value, and its connectives.
* `Engine` — what a database does with values.
* `Sql.Condition.truth` — the truth of a condition in a row.
-/

/-! ### Truth -/

/-- Truth where something may be unknown. -/
inductive Truth where
  | holds
  | fails
  | unknown
  deriving DecidableEq

namespace Truth

def ofBool (b : Bool) : Truth := if b then holds else fails

def not : Truth → Truth
  | holds => fails
  | fails => holds
  | unknown => unknown

/-- A conjunction fails if one side fails, even if the other one is unknown. -/
def and : Truth → Truth → Truth
  | holds, b => b
  | fails, _ => fails
  | unknown, fails => fails
  | unknown, _ => unknown

/-- A disjunction holds if one side holds, even if the other one is unknown. -/
def or : Truth → Truth → Truth
  | fails, b => b
  | holds, _ => holds
  | unknown, holds => holds
  | unknown, _ => unknown

/-- The negation, if asked for. -/
def notIf (negated : Bool) (t : Truth) : Truth := if negated then t.not else t

/-- The value of a connective. -/
def join : Connective → Truth → Truth → Truth
  | .and => and
  | .or => or

theorem not_not (t : Truth) : t.not.not = t := by cases t <;> rfl

theorem not_ofBool (b : Bool) : (ofBool b).not = ofBool (!b) := by cases b <;> rfl

theorem not_or (a b : Truth) : (a.or b).not = a.not.and b.not := by
  cases a <;> cases b <;> rfl

/-- A negation in front turns a negation behind it around. -/
theorem notIf_not (negated : Bool) (t : Truth) : t.not.notIf negated = t.notIf (!negated) := by
  cases negated with
  | false => rfl
  | true => exact t.not_not

end Truth

/-! ### Values -/

/-- Does the comparison hold between values in this order? -/
def Comparison.holds : Comparison → Ordering → Bool
  | .eq, o => o == .eq
  | .ne, o => o != .eq
  | .lt, o => o == .lt
  | .le, o => o != .gt
  | .gt, o => o == .gt
  | .ge, o => o != .lt

/-- The complement holds exactly where the comparison does not. -/
theorem Comparison.holds_complement (op : Comparison) (o : Ordering) :
    op.complement.holds o = !op.holds o := by
  cases op <;> cases o <;> rfl

/-- What a database does with values other than null. -/
structure Engine (α : Type) where
  /-- The value of a literal other than null. -/
  literal : Value → α
  compare : α → α → Ordering
  concat : α → α → α
  /-- Does the first value match the second one as a pattern? -/
  like : α → α → Bool
  /-- Integers are ordered as integers. -/
  compare_int : ∀ i j : Int64, compare (literal (.int i)) (literal (.int j)) = Ord.compare i j

/-- The values of a row; a missing one is null. -/
abbrev Row (α : Type) := Column → Option α

namespace Engine

variable {α : Type} (engine : Engine α)

/-- The value of a literal. -/
def value (v : Value) : Option α := if v.isNull then none else some (engine.literal v)

/-- The truth of a comparison, which is unknown with null. -/
def compared (op : Comparison) : Option α → Option α → Truth
  | some x, some y => .ofBool (op.holds (engine.compare x y))
  | _, _ => .unknown

/-- The truth of a match, which is unknown with null. -/
def matched : Option α → Option α → Truth
  | some x, some y => .ofBool (engine.like x y)
  | _, _ => .unknown

/-- Two values joined; nothing can be joined to null. -/
def joined : Option α → Option α → Option α
  | some x, some y => some (engine.concat x y)
  | _, _ => none

/-- Is the value one of the others: does one of the equalities hold? -/
def among (x : Option α) (ys : List (Option α)) : Truth :=
  ys.foldr (fun y rest => (engine.compared .eq x y).or rest) .fails

theorem not_compared (op : Comparison) (x y : Option α) :
    (engine.compared op x y).not = engine.compared op.complement x y := by
  rcases x with _ | x
  · rfl
  rcases y with _ | y
  · rfl
  show (Truth.ofBool _).not = .ofBool _
  rw [Truth.not_ofBool, Comparison.holds_complement]

theorem notIf_compared (negated : Bool) (op : Comparison) (x y : Option α) :
    (engine.compared op x y).notIf negated = engine.compared (op.flipIf negated) x y := by
  cases negated with
  | false => rfl
  | true => exact engine.not_compared op x y

end Engine

/-! ### A database that keeps literals as they are -/

/-- Does the text match the pattern, where `%` stands for any text and `_` for any character? -/
def wildcardMatch : (pattern text : List Char) → Bool
  | [], text => text.isEmpty
  | '%' :: pattern, text => text.tails.any fun rest => wildcardMatch pattern rest
  | '_' :: pattern, _ :: text => wildcardMatch pattern text
  | c :: pattern, d :: text => c == d && wildcardMatch pattern text
  | _ :: _, [] => false

namespace Value

/-- The text of a value where a text is needed. -/
def asText : Value → String
  | .string s => s
  | v => v.display

/-- The place of a floating-point number in their order; what is not a number is the largest. -/
def floatPlace (x : Binary64) : Int :=
  let magnitude : Nat := x.bits.toNat % Nat.pow 2 63
  if x.isNaN then Nat.pow 2 63 else if x.negative then -magnitude else magnitude

/-- The place of a kind of value in the order of the kinds. -/
def kindPlace : Value → Nat
  | .null => 0
  | .bool _ => 1
  | .int _ => 2
  | .float _ => 3
  | .string _ => 4

/-- Values of one kind in their order, and the kinds one after the other. -/
def order : Value → Value → Ordering
  | .bool a, .bool b => compare a b
  | .int i, .int j => compare i j
  | .float x, .float y => compare (floatPlace x) (floatPlace y)
  | .string s, .string t => compare s t
  | v, w => compare v.kindPlace w.kindPlace

end Value

/-- The literals themselves as values, with the wildcards of `LIKE`. -/
def Engine.plain : Engine Value where
  literal := id
  compare := Value.order
  concat v w := .string (v.asText ++ w.asText)
  like v w := wildcardMatch w.asText.toList v.asText.toList
  compare_int _ _ := rfl

/-! ### Conditions -/

namespace Sql

variable {α : Type} (engine : Engine α) (row : Row α)

/-- The value of an atom; `TRUE` and the numbers are literals like any other. -/
def Atom.value : Atom Value → Option α
  | .column c => row c
  | .given v => engine.value v
  | .null => none
  | .true => engine.value (.bool Bool.true)
  | .number n => engine.value (.int (.ofNat n))
  | .text s => engine.value (.string s)

/-- The value of an operand behind a value that it is joined to. -/
def Operand.valueBehind (before : Option α) : Operand Value → Option α
  | .atom a => engine.joined before (a.value engine row)
  | .concat first rest => rest.valueBehind (engine.joined before (first.value engine row))

/-- The value of an operand. -/
def Operand.value : Operand Value → Option α
  | .atom a => a.value engine row
  | .concat first rest => rest.valueBehind engine row (first.value engine row)

def Predicate.truth : Predicate Value → Truth
  | .compare op left right => engine.compared op (left.value engine row) (right.value engine row)
  | .nullTest isNull operand => .ofBool ((operand.value engine row).isNone == isNull)
  | .like negated operand pattern =>
      (engine.matched (operand.value engine row) (pattern.value engine row)).notIf negated
  | .within negated operand first rest =>
      (engine.among (operand.value engine row)
        ((first :: rest).map (Operand.value engine row))).notIf negated

/-- **The truth** of a condition in a row. -/
def Condition.truth : Condition Value → Truth
  | .predicate p => p.truth engine row
  | .not c => c.truth.not
  | .join op left right => .join op left.truth right.truth

end Sql

end BoundSql
