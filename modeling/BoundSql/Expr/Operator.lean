namespace BoundSql

/-!
# Expr — operators

The operators of predicates, nested by what they do: connectives join predicates,
comparisons and set membership make them from values, arithmetic only makes values.  Each
has a spelling in SQL and a name of its own.

* `Comparison.complement` — the comparison that holds where this one fails.
* `BinaryOp.ofName?`, `UnaryOp.ofName?`, `MatchPlace.ofName?` — operators by their names.
-/

/-- What joins two predicates. -/
inductive Connective where
  | and
  | or
  deriving DecidableEq

/-- The six comparisons of two values. -/
inductive Comparison where
  | eq
  | ne
  | lt
  | le
  | gt
  | ge
  deriving DecidableEq

/-- What makes a value from two values. -/
inductive Arithmetic where
  | add
  | sub
  | mul
  | div
  | mod
  | concat
  deriving DecidableEq

/-- An operator between two operands. -/
inductive BinaryOp where
  | logical (c : Connective)
  | comparison (c : Comparison)
  /-- Membership in a list. -/
  | within
  | arithmetic (a : Arithmetic)
  deriving DecidableEq

/-- An operator in front of one operand. -/
inductive UnaryOp where
  /-- Logical negation. -/
  | not
  /-- Arithmetic negation. -/
  | neg
  /-- The operand has a value. -/
  | hasValue
  /-- The operand is null. -/
  | isNull
  /-- The operand is null or the empty string. -/
  | isNullOrEmpty
  deriving DecidableEq

/-- Where a pattern has to occur. -/
inductive MatchPlace where
  | anywhere
  | atStart
  | atEnd
  deriving DecidableEq

def Connective.sql : Connective → String
  | .and => "AND"
  | .or => "OR"

namespace Comparison

/-- The comparison that holds where this one fails. -/
def complement : Comparison → Comparison
  | .eq => .ne
  | .ne => .eq
  | .lt => .ge
  | .ge => .lt
  | .le => .gt
  | .gt => .le

/-- Is it one of the two that ask for equality? -/
def isEquality : Comparison → Bool
  | .eq | .ne => true
  | _ => false

/-- The complement, if asked for. -/
def flipIf (negated : Bool) (c : Comparison) : Comparison :=
  if negated then c.complement else c

def sql : Comparison → String
  | .eq => "="
  | .ne => "<>"
  | .lt => "<"
  | .le => "<="
  | .gt => ">"
  | .ge => ">="

@[simp] theorem complement_complement (c : Comparison) : c.complement.complement = c := by
  cases c <;> rfl

/-- Turning around twice is turning around for the difference. -/
theorem flipIf_complement (negated : Bool) (c : Comparison) :
    flipIf negated c.complement = flipIf (!negated) c := by
  cases negated <;> simp [flipIf]

end Comparison

def Arithmetic.sql : Arithmetic → String
  | .add => "+"
  | .sub => "-"
  | .mul => "*"
  | .div => "/"
  | .mod => "%"
  | .concat => "||"

namespace BinaryOp

/-- The spelling in SQL, which messages use too. -/
def sql : BinaryOp → String
  | .logical c => c.sql
  | .comparison c => c.sql
  | .within => "IN"
  | .arithmetic a => a.sql

def isLogical : BinaryOp → Bool
  | .logical _ => true
  | _ => false

def isComparison : BinaryOp → Bool
  | .comparison _ => true
  | _ => false

/-- The complement of a comparison; no other operator has one. -/
def complement? : BinaryOp → Option BinaryOp
  | .comparison c => some (.comparison c.complement)
  | _ => none

def all : List BinaryOp :=
  [.logical .and, .logical .or, .comparison .eq, .comparison .ne, .comparison .lt,
   .comparison .le, .comparison .gt, .comparison .ge, .within, .arithmetic .add,
   .arithmetic .sub, .arithmetic .mul, .arithmetic .div, .arithmetic .mod,
   .arithmetic .concat]

/-- The name in documents. -/
def name : BinaryOp → String
  | .logical .and => "And"
  | .logical .or => "Or"
  | .comparison .eq => "Eq"
  | .comparison .ne => "Ne"
  | .comparison .lt => "Lt"
  | .comparison .le => "Le"
  | .comparison .gt => "Gt"
  | .comparison .ge => "Ge"
  | .within => "In"
  | .arithmetic .add => "Add"
  | .arithmetic .sub => "Sub"
  | .arithmetic .mul => "Mul"
  | .arithmetic .div => "Div"
  | .arithmetic .mod => "Mod"
  | .arithmetic .concat => "Concat"

def ofName? (name : String) : Option BinaryOp :=
  all.find? (·.name == name)

theorem ofName?_name (op : BinaryOp) : ofName? op.name = some op := by
  rcases op with c | c | _ | a
  · cases c <;> decide
  · cases c <;> decide
  · decide
  · cases a <;> decide

end BinaryOp

namespace UnaryOp

/-- How messages write the operator. -/
def text : UnaryOp → String
  | .not => "NOT"
  | .neg => "-"
  | .hasValue => "HAS VALUE"
  | .isNull => "IS NULL"
  | .isNullOrEmpty => "IS NULL OR EMPTY"

def all : List UnaryOp :=
  [.not, .neg, .hasValue, .isNull, .isNullOrEmpty]

/-- The name in documents. -/
def name : UnaryOp → String
  | .not => "Not"
  | .neg => "Neg"
  | .hasValue => "HasValue"
  | .isNull => "IsNull"
  | .isNullOrEmpty => "IsNullOrEmpty"

def ofName? (name : String) : Option UnaryOp :=
  all.find? (·.name == name)

theorem ofName?_name (op : UnaryOp) : ofName? op.name = some op := by
  cases op <;> decide

end UnaryOp

namespace MatchPlace

/-- May anything stand in front of the pattern? -/
def openBefore : MatchPlace → Bool
  | .anywhere | .atEnd => true
  | .atStart => false

/-- May anything follow the pattern? -/
def openAfter : MatchPlace → Bool
  | .anywhere | .atStart => true
  | .atEnd => false

def all : List MatchPlace :=
  [.anywhere, .atStart, .atEnd]

/-- The name in documents. -/
def name : MatchPlace → String
  | .anywhere => "Contains"
  | .atStart => "StartsWith"
  | .atEnd => "EndsWith"

def ofName? (name : String) : Option MatchPlace :=
  all.find? (·.name == name)

theorem ofName?_name (place : MatchPlace) : ofName? place.name = some place := by
  cases place <;> decide

end MatchPlace

end BoundSql
