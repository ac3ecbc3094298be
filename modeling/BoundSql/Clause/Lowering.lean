import BoundSql.Clause.Basic
import BoundSql.Error
import BoundSql.Expr.Basic

namespace BoundSql

/-!
# Clause — lowering trees to conditions

Which trees are conditions, and which condition a tree is.  A negation is carried inwards
as a flag for the tree it stands in front of, and it ends at the first connective: the
parts of a connective are always lowered as they are, and the whole is negated.

A tree is read from left to right.  Where this fails, the values met so far are part of the
failure, because a binder has given them names by then.

* `Expr.lower` — the condition that a tree is.
* `Expr.term?` — the column or value that a tree is.
-/

/-- Why a tree is no condition, and the values that were met before this was seen. -/
structure Rejection where
  cause : LoweringError
  values : List Value
  deriving DecidableEq

/-- The value as something to bind; null is not. -/
def Value.toBind (v : Value) : List Value :=
  if v.isNull then [] else [v]

/-- The values to bind in a term. -/
def Term.values : Term → List Value
  | .column _ => []
  | .value v => v.toBind

namespace Rejection

/-- A failure that comes after other values were met; they are looked at only then. -/
@[macro_inline] def precededBy {α : Type} (met : List Value) :
    Except Rejection α → Except Rejection α
  | .ok a => .ok a
  | .error r => .error { r with values := met ++ r.values }

end Rejection

namespace Expr

/-- The tree in a message. -/
def describe : Expr → String
  | .column c => "column `" ++ c.text ++ "`"
  | .literal v => v.typeName ++ " literal"
  | .list _ => "list"
  | .binary _ op _ => "`" ++ op.sql ++ "` expression"
  | .unary op _ => "`" ++ op.text ++ "` expression"
  | .like _ _ _ _ => "pattern match"
  | .call name _ => "call to `" ++ name ++ "`"

def isNullLiteral : Expr → Bool
  | .literal .null => true
  | _ => false

/-- Fails before any value was met. -/
def reject {α : Type} (cause : LoweringError) : Except Rejection α :=
  .error ⟨cause, []⟩

/-! ### Values -/

/-- The column or value that a tree is. -/
def term? : Expr → Except Rejection Term
  | .column c => .ok (.column c)
  | .literal v => .ok (.value v)
  | .binary _ op _ => reject (.unsupportedOperator op.sql "value position")
  | .unary op _ => reject (.unsupportedOperator op.text "value position")
  | .call name _ => reject (.unsupportedFunction name)
  | e => reject (.unexpectedOperand "a column or literal" e.describe)

/-- The values of a list of literals. -/
def literalItems : List Expr → Except Rejection (List Value)
  | [] => .ok []
  | .literal v :: rest => do
      let values ← Rejection.precededBy v.toBind (literalItems rest)
      .ok (v :: values)
  | e :: _ => reject (.unexpectedOperand "a literal list element" e.describe)

/-- The pattern of a match: a string or a column. -/
def pattern? : Expr → Except Rejection Term
  | .literal (.string s) => .ok (.value (.string s))
  | .column c => .ok (.column c)
  | .literal v => reject (.invalidPattern v.typeName)
  | e => reject (.invalidPattern e.describe)

/-! ### Conditions -/

/-- The operand of the null test that an equality with null is: the other side, if exactly
    one side is null. -/
def nullTested? (op : Comparison) (left right : Expr) : Option Expr :=
  if op.isEquality then
    match left.isNullLiteral, right.isNullLiteral with
    | false, true => some left
    | true, false => some right
    | _, _ => none
  else none

/-- A comparison, or the null test that it is. -/
def lowerComparison (op : Comparison) (left right : Expr) : Except Rejection Clause :=
  match nullTested? op left right with
  | some operand => do
      let operand ← operand.term?
      -- The operator is the complemented one where the comparison is negated.
      .ok (.nullTest (op == .eq) operand)
  | none => do
      let left ← left.term?
      let right ← Rejection.precededBy left.values right.term?
      .ok (.compare op left right)

/-- Membership in a list of literals.  Nothing is in the empty list. -/
def lowerMembership (negated : Bool) (left right : Expr) : Except Rejection Clause :=
  match right with
  | .list [] =>
      match left with
      -- The operand leaves no trace in the text.
      | .column _ => .ok (.constant negated)
      | e => reject (.unexpectedOperand "a column before an empty IN list" e.describe)
  | .list items => do
      let operand ← left.term?
      let items ← Rejection.precededBy operand.values (literalItems items)
      .ok (.within negated operand items)
  | e => reject (.unexpectedOperand "a literal list after IN" e.describe)

def lowerNullTest (isNull : Bool) (operand : Expr) : Except Rejection Clause := do
  let operand ← operand.term?
  .ok (.nullTest isNull operand)

/-- The test for null or the empty string, of a column only: the text names it twice. -/
def lowerNullOrEmpty (negated : Bool) : Expr → Except Rejection Clause
  | .column c => .ok (.nullOrEmpty negated c)
  | e => reject (.unexpectedOperand "a column in a null-or-empty check" e.describe)

/-- A text match; the pattern is looked at before the operand. -/
def lowerMatch (negated : Bool) (operand : Expr) (place : MatchPlace) (pattern : Expr) :
    Except Rejection Clause := do
  let pattern ← pattern.pattern?
  let operand ← operand.term?
  .ok (.like negated operand place pattern)

/-- The function whose call is a test for null or the empty string. -/
def nullOrEmptyFunction : String := "IsNullOrEmpty"

/-- Equality of names up to the case of ASCII letters. -/
def sameName (a b : String) : Bool :=
  a.toList.map Char.toLower == b.toList.map Char.toLower

/-- The condition that a tree is, or the one that its negation is. -/
def lower : Expr → (negated : Bool) → Except Rejection Clause
  | .binary left (.logical op) right, negated => do
      -- The flag ends here, and the parts do not hear of it.
      let first ← left.lower false
      let second ← Rejection.precededBy (Template.values first.template) (right.lower false)
      .ok (.join negated op first second)
  | .binary left (.comparison op) right, negated =>
      lowerComparison (op.flipIf negated) left right
  | .binary left .within right, negated => lowerMembership negated left right
  | .binary _ (.arithmetic op) _, _ =>
      reject (.unsupportedOperator op.sql "predicate position")
  -- A negation leaves no text of its own in front of anything but a connective.
  | .unary .not operand, negated => operand.lower !negated
  | .unary .hasValue operand, negated => lowerNullTest negated operand
  | .unary .isNull operand, negated => lowerNullTest (!negated) operand
  | .unary .isNullOrEmpty operand, negated => lowerNullOrEmpty negated operand
  | .unary .neg _, _ =>
      reject (.unsupportedOperator UnaryOp.neg.text "predicate position")
  | .like operand place pattern _, negated => lowerMatch negated operand place pattern
  | .column c, negated => .ok (.truth negated c)
  | .call name [operand], negated =>
      if sameName name nullOrEmptyFunction then lowerNullOrEmpty negated operand
      else reject (.unsupportedFunction name)
  | .call name _, _ => reject (.unsupportedFunction name)
  | e, _ => reject (.unexpectedOperand "a predicate" e.describe)

end Expr

end BoundSql
