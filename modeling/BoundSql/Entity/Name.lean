namespace BoundSql

/-!
# Entity — names

An entity type is known by its full name.  Messages use the short one, without the path in
front and without type arguments.

* `EntityName.short` — what follows the last `::` of what precedes the first `<`.
-/

/-- An entity type by its full name. -/
structure EntityName where
  full : String
  deriving DecidableEq, Inhabited

namespace EntityName

/-- What follows the last `::`, if there is one. -/
def afterPath? : List Char → Option (List Char)
  | [] => none
  | c :: rest =>
      match afterPath? rest with
      | some found => some found
      | none =>
          match c, rest with
          | ':', ':' :: rest => some rest
          | _, _ => none

/-- The name without path and type arguments. -/
def short (name : EntityName) : String :=
  let base := name.full.toList.takeWhile (· ≠ '<')
  String.ofList ((afterPath? base).getD base)

/-- The name as it shows itself to a programmer. -/
def inspect (name : EntityName) : String :=
  "EntityKey(" ++ name.full ++ ")"

end EntityName

/-- A field by its logical name: one of the entity that a query is about, or one of a
    named entity. -/
inductive FieldName where
  | own (field : String)
  | of (entity : EntityName) (field : String)
  deriving DecidableEq

end BoundSql
