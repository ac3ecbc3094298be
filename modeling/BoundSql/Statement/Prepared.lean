import BoundSql.Binder
import BoundSql.Statement.Select

namespace BoundSql

/-!
# Statement — text and parameters

A statement that is ready for execution: its text and the values that its placeholders
stand for.
-/

/-- A text with placeholders, and their values in binding order. -/
structure Statement where
  sql : String
  parameters : Parameters

/-- The statement as a document. -/
def Statement.toJson (statement : Statement) : Json :=
  .record [("sql", .string statement.sql), ("parameters", statement.parameters.toJson)]

end BoundSql
