import BoundSql.Clause.Lowering

namespace BoundSql

/-!
# Clause — the text of a condition

Writing a tree under a binder: the tree is lowered first, and then the values of the
condition are named from left to right as its text is written.

* `Binder.compile` — text of the condition and binder afterwards.
* `ConditionText.nested` — the text as it stands beside a connective.
-/

/-- The text of a condition, without the word in front of it. -/
structure ConditionText where
  sql : String
  /-- Is the root a bare connective? -/
  compound : Bool
  deriving DecidableEq

/-- The text, in parentheses if its root is a bare connective. -/
def ConditionText.nested (written : ConditionText) : String :=
  if written.compound then "(" ++ written.sql ++ ")" else written.sql

/-- Writes a tree as a condition.  Where this fails, the values met before the failure keep
    the names that they have been given. -/
def Binder.compile (binder : Binder) (e : Expr) : Except LoweringError ConditionText × Binder :=
  match e.lower false with
  | .ok clause =>
      let (sql, binder) := binder.fill clause.template
      (.ok ⟨sql, clause.isCompound⟩, binder)
  | .error rejection => (.error rejection.cause, binder.bindAll rejection.values)

end BoundSql
