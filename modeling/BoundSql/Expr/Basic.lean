import BoundSql.Expr.Column
import BoundSql.Expr.Operator
import BoundSql.Value

namespace BoundSql

/-!
# Expr — trees of predicates and values

One tree for predicates and for the values in them: columns are physical, literals are
plain values, and negation is an operator of its own.  A tree can say more than a condition
can express; which trees are conditions is settled by `Expr.lower`.

* `Expr.literals` — the values that lowering binds, from left to right.
* `Expr.agrees` — equality of trees, with values compared by their own arithmetic.
-/

/-- A predicate, or a value in one. -/
inductive Expr where
  | column (c : Column)
  | literal (v : Value)
  /-- A list, the right-hand side of a membership. -/
  | list (items : List Expr)
  | binary (left : Expr) (op : BinaryOp) (right : Expr)
  | unary (op : UnaryOp) (operand : Expr)
  /-- A text match.  The wish to ignore case is kept and has no effect on the condition:
      how text compares is the database's to say. -/
  | like (operand : Expr) (place : MatchPlace) (pattern : Expr) (ignoreCase : Bool)
  /-- A call of a function. -/
  | call (name : String) (args : List Expr)
  deriving Inhabited

namespace Expr

/-! ### Building trees -/

/-- A list of literals. -/
def values (items : List Value) : Expr :=
  .list (items.map .literal)

/-- Both predicates hold. -/
def and (left right : Expr) : Expr := .binary left (.logical .and) right

/-- One of the predicates holds. -/
def or (left right : Expr) : Expr := .binary left (.logical .or) right

/-- The predicate does not hold. -/
def not (operand : Expr) : Expr := .unary .not operand

/-- The operand is one of the values. -/
def isIn (operand : Expr) (items : List Value) : Expr :=
  .binary operand .within (values items)

/-- The operand matches the pattern, with the case of letters as the database has it. -/
def matching (operand : Expr) (place : MatchPlace) (pattern : Expr) : Expr :=
  .like operand place pattern false

/-- Asks a match to ignore case; every other tree stays as it is. -/
def ignoringCase : Expr → Expr
  | .like operand place pattern _ => .like operand place pattern true
  | e => e

/-! ### Looking at trees -/

/-- Is the root a connective, so that the tree needs parentheses inside another one? -/
def isCompound : Expr → Bool
  | .binary _ (.logical _) _ => true
  | _ => false

mutual

/-- The values in a tree other than null, from left to right. -/
def literals : Expr → List Value
  | .column _ => []
  | .literal v => if v.isNull then [] else [v]
  | .list items => literalsAll items
  | .binary left _ right => left.literals ++ right.literals
  | .unary _ operand => operand.literals
  | .like operand _ pattern _ => operand.literals ++ pattern.literals
  | .call _ args => literalsAll args

/-- The values in several trees, tree by tree. -/
def literalsAll : List Expr → List Value
  | [] => []
  | e :: rest => e.literals ++ literalsAll rest

end

/-- How many values lowering the tree binds. -/
def literalCount (e : Expr) : Nat := e.literals.length

mutual

/-- Equality of trees, with values compared by their own arithmetic. -/
def agrees : Expr → Expr → Bool
  | .column a, .column b => a == b
  | .literal a, .literal b => a.agrees b
  | .list a, .list b => agreesAll a b
  | .binary l op r, .binary l' op' r' => l.agrees l' && op == op' && r.agrees r'
  | .unary op e, .unary op' e' => op == op' && e.agrees e'
  | .like e place p ic, .like e' place' p' ic' =>
      e.agrees e' && place == place' && p.agrees p' && ic == ic'
  | .call name args, .call name' args' => name == name' && agreesAll args args'
  | _, _ => false

/-- Equality of lists of trees, place by place. -/
def agreesAll : List Expr → List Expr → Bool
  | [], [] => true
  | a :: as, b :: bs => a.agrees b && agreesAll as bs
  | _, _ => false

end

end Expr

end BoundSql
