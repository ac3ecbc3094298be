import BoundSql.Json.Decoding
import BoundSql.Json.Parser
import BoundSql.Json.Printer
import BoundSql.Table

namespace BoundSql

/-!
# Table — documents

A table is a record of `identifier` (the alias), `schema` if there is one, `name` and
`columns`, an object whose members are the fields in order.

* `Table.toJson`, `Table.ofJson?` — writing and reading.
* `Table.compact`, `Table.parse` — the same for the text of a table.
-/

namespace FieldMap

def toJson (columns : FieldMap) : Json :=
  .record (columns.entries.map fun (field, column) => (field, .string column))

/-- Reads one field with its column. -/
def readEntry (entry : JsonText × Json) : Option (String × String) := do
  let field ← entry.1.string?
  let column ← entry.2.string?
  some (field, column)

/-- Reads columns that may enter `depth` nested objects.  A repeated field keeps its place
    and takes the later column. -/
def ofJson? (depth : Nat) : Json → Option FieldMap
  | .object members =>
      if depth = 0 then none else (members.mapM readEntry).map Keyed.ofList
  | _ => none

end FieldMap

namespace Table

def toJson (table : Table) : Json :=
  .record <|
    ("identifier", .string table.rowAlias) ::
    (match table.schema with
      | none => []
      | some schema => [("schema", .string schema)])
    ++ [("name", .string table.name), ("columns", FieldMap.toJson table.columns)]

/-- Reads a table that may enter `depth` nested arrays and objects. -/
def ofJson? (depth : Nat) (j : Json) : Option Table :=
  match depth with
  | 0 => none
  | depth + 1 =>
      match j.fields? ["identifier", "schema", "name", "columns"] with
      | some [some rowAlias, schema, some name, some columns] => do
          let rowAlias ← rowAlias.string?
          let schema ← Json.optional? Json.string? schema
          let name ← name.string?
          let columns ← FieldMap.ofJson? depth columns
          some ⟨rowAlias, schema, name, columns⟩
      | _ => none

/-- A table as a text. -/
def compact (table : Table) : String :=
  table.toJson.compact

/-- The table that a text holds, if it holds one. -/
def parse (text : String) : Option Table :=
  (Json.parse text).bind (ofJson? Json.depthLimit)

end Table

end BoundSql
