import BoundSql.Keyed

namespace BoundSql

/-!
# Table — where an entity is stored

The table of an entity type: schema, name, the alias of its rows in a statement, and the
physical column of each logical field.  The order of the fields is the order of the
`SELECT` list.

* `Table.ofDetails` — the table that a name and a list of details describe.
* `Table.sqlName` — the name as SQL.
* `Table.agrees` — equality that does not look at the order of the fields.
-/

/-- Physical columns by logical field, in order. -/
abbrev FieldMap := Keyed String

/-- The table of an entity type. -/
structure Table where
  rowAlias : String
  schema : Option String
  name : String
  columns : FieldMap
  deriving DecidableEq

/-- What is told of a table besides its name. -/
inductive Table.Detail where
  | rowAlias (rowAlias : String)
  | schema (schema : String)
  | column (field column : String)
  /-- Several fields with their columns, in order. -/
  | columns (columns : List (String × String))

namespace Table

/-- A table without alias, schema and columns. -/
def new (name : String) : Table := ⟨"", none, name, Keyed.empty⟩

/-- What stands for the table of an unknown entity. -/
def empty : Table := new ""

instance : Inhabited Table := ⟨empty⟩

/-- Adds a field, or gives a known one another column in the same place. -/
def addColumn (table : Table) (field column : String) : Table :=
  { table with columns := table.columns.insert field column }

/-- Adds fields in order. -/
def addColumns (table : Table) (columns : List (String × String)) : Table :=
  { table with columns := table.columns.insertAll columns }

/-- Adds a detail.  Alias and schema replace those that are there, also by an empty one. -/
def add (table : Table) : Detail → Table
  | .rowAlias rowAlias => { table with rowAlias }
  | .schema schema => { table with schema := some schema }
  | .column field column => table.addColumn field column
  | .columns columns => table.addColumns columns

/-- The table with a name and details, added in order. -/
def ofDetails (name : String) (details : List Detail) : Table :=
  details.foldl add (new name)

/-- The physical column of a field. -/
def column? (table : Table) (field : String) : Option String := table.columns.get? field

/-- Is nothing known about its columns? -/
def isEmpty (table : Table) : Bool := table.columns.isEmpty

/-- The name as SQL, behind the schema if there is one that is not empty. -/
def sqlName (table : Table) : String :=
  match table.schema with
  | none => table.name
  | some schema => if schema.isEmpty then table.name else schema ++ "." ++ table.name

/-- The name as it introduces rows in a statement: with the alias, if it is not empty. -/
def introduction (table : Table) : String :=
  if table.rowAlias.isEmpty then table.sqlName else table.sqlName ++ " " ++ table.rowAlias

/-- Equality that does not look at the order of the fields.  No schema and an empty one
    differ. -/
def agrees (a b : Table) : Bool :=
  a.rowAlias == b.rowAlias && a.schema == b.schema && a.name == b.name
    && a.columns.agrees (· == ·) b.columns

end Table

end BoundSql
