import BoundSql.Binary64.Basic
import BoundSql.Binary64.Nearest
import BoundSql.Binder
import BoundSql.Clause.Basic
import BoundSql.Clause.ConditionText
import BoundSql.Clause.Lowering
import BoundSql.Decimal.Digits
import BoundSql.Decimal.Numeral
import BoundSql.Decimal.Reading
import BoundSql.Decimal.Shortest
import BoundSql.Decimal.Style
import BoundSql.Entity.Catalogue
import BoundSql.Entity.Name
import BoundSql.Entity.Reflection
import BoundSql.Error
import BoundSql.Expr.Basic
import BoundSql.Expr.Column
import BoundSql.Expr.Json
import BoundSql.Expr.Operator
import BoundSql.Expr.Postfix
import BoundSql.Json.Basic
import BoundSql.Json.Decoding
import BoundSql.Json.Parser
import BoundSql.Json.Printer
import BoundSql.Keyed
import BoundSql.Query
import BoundSql.Query.Step
import BoundSql.Registry
import BoundSql.Registry.Calls
import BoundSql.Settings
import BoundSql.Settings.Json
import BoundSql.Statement.Prepared
import BoundSql.Statement.Select
import BoundSql.Table
import BoundSql.Table.Json
import BoundSql.Text.Alphabetic
import BoundSql.Text.Blank
import BoundSql.Text.CodeRange
import BoundSql.Text.GraphemeExtend
import BoundSql.Text.Hex
import BoundSql.Text.Numeric
import BoundSql.Text.Quoted
import BoundSql.Text.Unprintable
import BoundSql.Value
import BoundSql.Value.Json
import BoundSql.Workspace
import BoundSql.Proofs.Keyed
import BoundSql.Proofs.Sql.Grammar
import BoundSql.Proofs.Binder.Numbering
import BoundSql.Proofs.Sql.Spelling
import BoundSql.Proofs.Clause.Lowering
import BoundSql.Proofs.Clause.Reading
import BoundSql.Proofs.Clause.NormalForm
import BoundSql.Proofs.Clause.Meaning
import BoundSql.Proofs.Clause.Redaction
import BoundSql.Proofs.Clause.Language
import BoundSql.Proofs.Registry.WriteOnce
import BoundSql.Proofs.Registry.Aliases
import BoundSql.Proofs.Registry.LeastAlias
import BoundSql.Proofs.Query.Step
import BoundSql.Proofs.Query.Confinement
import BoundSql.Proofs.Query.Parameters
import BoundSql.Proofs.Query.Sharing
import BoundSql.Proofs.Query.Dialects
import BoundSql.Proofs.Query.Failures
import BoundSql.Proofs.Query.Outline
import BoundSql.Proofs.Query.Assembly
import BoundSql.Proofs.Query.Occurrences
import BoundSql.Proofs.Clause.Conjuncts
import BoundSql.Proofs.Binder.Uses
import BoundSql.Proofs.Json.Nesting
import BoundSql.Proofs.Json.RoundTrip
import BoundSql.Proofs.Expr.RoundTrip
import BoundSql.Proofs.Query.Conjunction
import BoundSql.Proofs.Clause.Matching
import BoundSql.Proofs.Clause.Respelling
import BoundSql.Proofs.Query.Strictness
import BoundSql.Proofs.Sql.Tidiness
import BoundSql.Proofs.Clause.Tidiness
import BoundSql.Proofs.Clause.NullEquality
import BoundSql.Proofs.Query.Reordering
import BoundSql.Proofs.Query.FieldSelection
import BoundSql.Proofs.Registry.Orders
import BoundSql.Proofs.Registry.Agreement
import BoundSql.Proofs.Query.RegistrationOrder
import BoundSql.Proofs.Table.RoundTrip
import BoundSql.Proofs.Binder.Transcript
