import BoundSql.Clause.ConditionText
import BoundSql.Registry
import BoundSql.Settings
import BoundSql.Statement.Prepared

namespace BoundSql

/-!
# Query — a statement under construction

A query is about one entity and collects what its statement is made of.  Conditions, joins
and sort keys are written down when they are added; the selected columns and the tables are
read from the registry when the statement is assembled, so that a selection by fields
follows a later change of the entity that is selected.

* `Query.filter`, `Query.selectFields` — the additions that can fail; a failure leaves the
  query as it was.
* `Query.sql` — the text of the statement.
-/

/-- What is selected. -/
inductive Projection where
  /-- Every column of the selected entity. -/
  | all
  /-- Fields of the selected entity, by their logical names. -/
  | fields (names : List String)
  /-- Physical columns as they are given. -/
  | columns (columns : FieldMap)
  deriving DecidableEq

/-- A column to sort by. -/
structure SortKey where
  column : Column
  descending : Bool
  deriving DecidableEq

def SortKey.text (key : SortKey) : String :=
  if key.descending then key.column.text ++ " DESC" else key.column.text

/-- A statement under construction. -/
structure Query where
  settings : Settings
  /-- The entity that the query is about. -/
  entity : EntityName
  binder : Binder
  /-- The conditions in the order in which they were added. -/
  filters : List ConditionText
  /-- The joins in the order in which they were added. -/
  joins : List Join
  /-- The sort keys, the latest one first. -/
  order : List SortKey
  /-- The entity that is selected instead of the query's own. -/
  selected : Option EntityName
  projection : Projection
  distinct : Bool
  limit : Option UInt64

namespace Query

/-- A query about an entity, without anything added. -/
def new (settings : Settings) (entity : EntityName) : Query :=
  { settings, entity
    binder := .new settings.naming
    filters := []
    joins := []
    order := []
    selected := none
    projection := .all
    distinct := false
    limit := none }

/-- The entity whose columns are selected. -/
def selectedEntity (q : Query) : EntityName := q.selected.getD q.entity

/-- The failure to find a field. -/
def unknownField (key : EntityName) (field : String) : Error :=
  .unknownField key.short field

/-! ### Looking up columns -/

/-- The column of a field of the query's entity. -/
def column (q : Query) (registry : Registry) (field : String) : Except Error Column :=
  match (registry.get q.entity).column? field with
  | some column => .ok (.bare column)
  | none => .error (unknownField q.entity field)

/-- The column of a field of an entity with this table, qualified by the table's alias. -/
def columnOf (key : EntityName) (table : Table) (field : String) : Except Error Column :=
  match table.column? field with
  | some column => .ok (.qualified table.rowAlias column)
  | none => .error (unknownField key field)

/-- The columns of fields, in the order of the fields; a repeated field counts once. -/
def columnsOfFields (key : EntityName) (table : Table) :
    List String → FieldMap → Except Error FieldMap
  | [], columns => .ok columns
  | field :: rest, columns =>
      match table.column? field with
      | some column => columnsOfFields key table rest (columns.insert field column)
      | none => .error (unknownField key field)

/-! ### Adding to the query -/

/-- Adds a condition.  The tree is written under a copy of the binder, which is kept only if
    this succeeds. -/
def filter (q : Query) (e : Expr) : Except Error Query :=
  match q.binder.compile e with
  | (.ok written, binder) => .ok { q with binder, filters := q.filters ++ [written] }
  | (.error cause, _) => .error (.lowering cause)

/-- Adds a sort key, which comes before those that are there. -/
def orderBy (q : Query) (column : Column) (descending : Bool) : Query :=
  { q with order := ⟨column, descending⟩ :: q.order }

/-- Joins a table. -/
def join (q : Query) (table : Table) (left right : Column) : Query :=
  { q with joins := q.joins ++ [⟨table, left, right⟩] }

/-- Selects the columns of another entity. -/
def selectEntity (q : Query) (key : EntityName) : Query :=
  { q with selected := some key }

/-- Selects fields; each one has to be a field of the entity that is selected now. -/
def selectFields (q : Query) (registry : Registry) (fields : List String) : Except Error Query :=
  match columnsOfFields q.selectedEntity (registry.get q.selectedEntity) fields Keyed.empty with
  -- The columns are looked up again when the statement is assembled.
  | .ok _ => .ok { q with projection := .fields fields }
  | .error e => .error e

/-- Selects physical columns. -/
def selectColumns (q : Query) (columns : FieldMap) : Query :=
  { q with projection := .columns columns }

/-- Asks for distinct rows. -/
def makeDistinct (q : Query) : Query := { q with distinct := true }

/-- Limits the number of rows; zero removes the limit. -/
def take (q : Query) (n : UInt64) : Query :=
  { q with limit := if n = 0 then none else some n }

/-- Limits the result to one row. -/
def first (q : Query) : Query := q.take 1

/-! ### Assembling the statement -/

/-- The condition of the statement: all conditions, each in parentheses if it needs them.  A
    single one stands as it is. -/
def condition (q : Query) : Option String :=
  match q.filters with
  | [] => none
  | [only] => some only.sql
  | many => some (" AND ".intercalate (many.map ConditionText.nested))

/-- The text of sort keys, the latest one first.  Keys without any text leave no trace when
    another one is put before them. -/
def orderText : List SortKey → String
  | [] => ""
  | key :: older =>
      let rest := orderText older
      if rest.isEmpty then key.text else key.text ++ ", " ++ rest

/-- The text of the sort keys, if there is any. -/
def orderClause (q : Query) : Option String :=
  let text := orderText q.order
  if text.isEmpty then none else some text

/-- The columns to select, given the table of the selected entity. -/
def selectedColumns (q : Query) (table : Table) : Except Error FieldMap :=
  match q.projection with
  | .all => .ok table.columns
  | .columns columns => .ok columns
  | .fields fields => columnsOfFields q.selectedEntity table fields Keyed.empty

/-- Refuses an entity without columns, if the settings are strict. -/
def requireColumns (q : Query) (key : EntityName) (columns : FieldMap) : Except Error Unit :=
  if columns.isEmpty && q.settings.strict then .error (.missingMetadata key.short) else .ok ()

/-- The parts of the statement.  Unknown fields are seen first, then the missing columns of
    the query's own entity, then those of the selection. -/
def select (q : Query) (registry : Registry) : Except Error Select := do
  let source := registry.get q.entity
  let selected := registry.get q.selectedEntity
  let columns ← q.selectedColumns selected
  -- The query's own entity is looked at even if another one is selected.
  q.requireColumns q.entity source.columns
  q.requireColumns q.selectedEntity columns
  return {
    distinct := q.distinct
    limit := q.limit
    rowAlias := selected.rowAlias
    columns
    source
    joins := String.join (q.joins.map Join.text)
    condition := q.condition
    order := q.orderClause }

/-- The text of the statement. -/
def sql (q : Query) (registry : Registry) : Except Error String :=
  (q.select registry).map q.settings.dialect.write

/-- The statement with its parameters. -/
def build (q : Query) (registry : Registry) : Except Error Statement :=
  (q.sql registry).map fun sql => ⟨sql, q.binder.parameters⟩

end Query

end BoundSql
