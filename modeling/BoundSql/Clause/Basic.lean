import BoundSql.Binder
import BoundSql.Expr.Column
import BoundSql.Expr.Operator

namespace BoundSql

/-!
# Clause — conditions in normal form

What a condition can be in a statement.  Negation stands only in front of a connective; in
every other place the leaf itself is the negated form, so that no reader has to push a
negation inwards.  A leaf compares terms, and a term is a column or a value.

* `Clause.template` — the text of a condition with its values still in place.
* `Clause.isCompound` — does the text need parentheses beside a connective?
-/

/-- A column or a value. -/
inductive Term where
  | column (c : Column)
  | value (v : Value)
  deriving DecidableEq

/-- A condition in normal form. -/
inductive Clause where
  /-- Two conditions joined, or the negation of that. -/
  | join (negated : Bool) (op : Connective) (left right : Clause)
  | compare (op : Comparison) (left right : Term)
  /-- Is the operand null, or is it not? -/
  | nullTest (isNull : Bool) (operand : Term)
  | within (negated : Bool) (operand : Term) (items : List Value)
  /-- A condition that holds of every row or of none. -/
  | constant (holds : Bool)
  /-- Is the column null or the empty string, or neither? -/
  | nullOrEmpty (negated : Bool) (c : Column)
  | like (negated : Bool) (operand : Term) (place : MatchPlace) (pattern : Term)
  /-- A column of truth values as a condition. -/
  | truth (negated : Bool) (c : Column)
  deriving DecidableEq

def Term.piece : Term → Piece
  | .column c => .text c.text
  | .value v => .value v

namespace Clause

/-- Is the root a connective without a negation in front? -/
def isCompound : Clause → Bool
  | .join false _ _ _ => true
  | _ => false

/-- Values with commas between them. -/
def itemsTemplate : List Value → Template
  | [] => []
  | [v] => [.value v]
  | v :: next :: rest => .value v :: .text ", " :: itemsTemplate (next :: rest)

/-- The pattern of a match, with a wildcard where anything may stand. -/
def patternTemplate (place : MatchPlace) (pattern : Term) : Template :=
  (if place.openBefore then [.text "'%' || "] else []) ++ [pattern.piece]
    ++ (if place.openAfter then [.text " || '%'"] else [])

/-- Parentheses around a template, where they are needed. -/
def parenthesizedIf (needed : Bool) (template : Template) : Template :=
  if needed then .text "(" :: template ++ [.text ")"] else template

/-- The text of a condition with its values still in place. -/
def template : Clause → Template
  | .join negated op left right =>
      let body := parenthesizedIf left.isCompound left.template
        ++ .text (" " ++ op.sql ++ " ")
        :: parenthesizedIf right.isCompound right.template
      if negated then .text "NOT (" :: body ++ [.text ")"] else body
  | .compare op left right => [left.piece, .text (" " ++ op.sql ++ " "), right.piece]
  | .nullTest isNull operand =>
      [operand.piece, .text (if isNull then " IS NULL" else " IS NOT NULL")]
  | .within negated operand items =>
      operand.piece :: .text (if negated then " NOT IN (" else " IN (")
        :: itemsTemplate items ++ [.text ")"]
  | .constant holds => [.text (if holds then "1 = 1" else "1 = 0")]
  | .nullOrEmpty negated c =>
      [.text (if negated then
          "(" ++ c.text ++ " IS NOT NULL AND " ++ c.text ++ " <> '')"
        else "(" ++ c.text ++ " IS NULL OR " ++ c.text ++ " = '')")]
  | .like negated operand place pattern =>
      operand.piece :: .text (if negated then " NOT LIKE " else " LIKE ")
        :: patternTemplate place pattern
  | .truth negated c => [.text (c.text ++ if negated then " <> TRUE" else " = TRUE")]

end Clause

end BoundSql
