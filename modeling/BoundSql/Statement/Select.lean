import BoundSql.Decimal.Digits
import BoundSql.Expr.Column
import BoundSql.Table

namespace BoundSql

/-!
# Statement — the text of a SELECT

The parts of one SELECT and how a dialect puts them together.  The dialects write the same
list of columns and the same body; they differ in what stands between the columns and in
where the limit goes.

* `Dialect.write` — the text of a statement.
* `Join.text` — the text of one join.
-/

/-- How a statement is written. -/
inductive Dialect where
  /-- A comma between blanks after each column but the last, the limit at the end. -/
  | standard
  /-- A comma and a blank after each column but the last, the limit in front of them. -/
  | transactSql
  deriving DecidableEq, Inhabited

/-- One joined table, with the two columns that have to be equal. -/
structure Join where
  table : Table
  left : Column
  right : Column
  deriving DecidableEq

/-- The text of a join, with the blank in front of it. -/
def Join.text (join : Join) : String :=
  " JOIN " ++ join.table.introduction ++ " ON " ++ join.left.text ++ " = " ++ join.right.text

/-- The parts of a SELECT. -/
structure Select where
  distinct : Bool
  /-- How many rows at most; without a number all of them. -/
  limit : Option UInt64
  /-- The alias that qualifies the selected columns; none if it is empty. -/
  rowAlias : String
  columns : FieldMap
  source : Table
  /-- The text of the joins, each with a blank in front. -/
  joins : String
  condition : Option String
  order : Option String

namespace Select

/-- One selected column. -/
def columnText (rowAlias column : String) : String :=
  if rowAlias.isEmpty then column else rowAlias ++ "." ++ column

/-- The selected columns with `separator` between them; a blank ends them if there are
    any. -/
def columnList (s : Select) (separator : String) : String :=
  if s.columns.isEmpty then ""
  else separator.intercalate (s.columns.values.map (columnText s.rowAlias)) ++ " "

/-- Whether there are columns is seen from the columns themselves. -/
theorem columnList_eq (s : Select) (separator : String) :
    s.columnList separator = if s.columns.values.isEmpty then ""
      else separator.intercalate (s.columns.values.map (columnText s.rowAlias)) ++ " " := by
  have hnone : s.columns.values.isEmpty = s.columns.isEmpty := List.isEmpty_map
  rw [columnList, hnone]

/-- The word in front of the columns. -/
def head (s : Select) : String :=
  if s.distinct then "SELECT DISTINCT " else "SELECT "

/-- A part that may be missing, behind its keyword. -/
def clause (keyword : String) : Option String → String
  | none => ""
  | some content => keyword ++ content

/-- From the source to the order. -/
def body (s : Select) : String :=
  "FROM " ++ s.source.introduction ++ s.joins ++ clause " WHERE " s.condition
    ++ clause " ORDER BY " s.order

/-- The limit behind a keyword. -/
def limitText (keyword : String) (after : String) : Option UInt64 → String
  | none => ""
  | some n => keyword ++ "(" ++ Decimal.numeral n.toNat ++ ")" ++ after

end Select

namespace Dialect

/-- The name in messages to programmers. -/
def label : Dialect → String
  | .standard => "standard"
  | .transactSql => "transact-sql"

/-- What stands between two columns. -/
def separator : Dialect → String
  | .standard => " , "
  | .transactSql => ", "

/-- The limit in front of the columns. -/
def leadingLimit (d : Dialect) (limit : Option UInt64) : String :=
  match d with
  | .standard => ""
  | .transactSql => Select.limitText "TOP" " " limit

/-- The limit at the end. -/
def trailingLimit (d : Dialect) (limit : Option UInt64) : String :=
  match d with
  | .standard => Select.limitText " LIMIT" "" limit
  | .transactSql => ""

/-- The text of a statement. -/
def write (d : Dialect) (s : Select) : String :=
  s.head ++ d.leadingLimit s.limit ++ s.columnList d.separator ++ s.body
    ++ d.trailingLimit s.limit

def all : List Dialect := [.standard, .transactSql]

/-- The name in documents. -/
def name : Dialect → String
  | .standard => "Standard"
  | .transactSql => "TransactSql"

def ofName? (name : String) : Option Dialect :=
  all.find? (·.name == name)

theorem ofName?_name (d : Dialect) : ofName? d.name = some d := by
  cases d <;> decide

end Dialect

end BoundSql
