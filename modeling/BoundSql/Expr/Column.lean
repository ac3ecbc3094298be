import BoundSql.Json.Decoding
import BoundSql.Json.Printer

namespace BoundSql

/-!
# Expr — references to columns

A column by its physical name, qualified by the row alias of its table where a statement
reads several tables.

* `Column.text` — the reference as SQL.
* `Column.toJson`, `Column.ofJson?` — the reference as a document.
-/

/-- A physical column, with the alias of its table if there is one. -/
structure Column where
  name : String
  qualifier : Option String
  deriving DecidableEq, Inhabited

namespace Column

/-- A column without qualifier. -/
def bare (name : String) : Column := ⟨name, none⟩

/-- A column qualified with a row alias. -/
def qualified (rowAlias name : String) : Column := ⟨name, some rowAlias⟩

/-- The reference as SQL.  An empty qualifier is no qualifier. -/
def text (c : Column) : String :=
  match c.qualifier with
  | none => c.name
  | some q => if q.isEmpty then c.name else q ++ "." ++ c.name

def toJson (c : Column) : Json :=
  .record <| ("name", .string c.name) ::
    match c.qualifier with
    | none => []
    | some q => [("qualifier", .string q)]

/-- Reads a reference that may enter `depth` nested arrays and objects. -/
def ofJson? (depth : Nat) (j : Json) : Option Column :=
  if depth = 0 then none
  else
    match j.fields? ["name", "qualifier"] with
    | some [some name, qualifier] => do
        let name ← name.string?
        let qualifier ← Json.optional? Json.string? qualifier
        some ⟨name, qualifier⟩
    | _ => none

end Column

end BoundSql
