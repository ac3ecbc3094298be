import BoundSql.Binary64.Basic
import BoundSql.Decimal.Reading
import BoundSql.Json.Basic

namespace BoundSql

/-!
# Json — from documents to values

What the readers of the library's types share.  A choice is the name of the alternative,
or an object with this name as its one member; a record is an object, or, where that is
allowed, the array of its fields in order.  A reader may enter a limited number of nested
arrays and objects, and refuses what is deeper.

* `Json.choice?`, `Json.unitChoice?` — an alternative with or without content.
* `Json.fields?`, `Json.namedFields?` — the fields of a record, given the order of their
  names.
-/

namespace Json

/-- How many nested arrays and objects a reader enters. -/
def depthLimit : Nat := 127

def string? : Json → Option String
  | .text t => t.string?
  | _ => none

def bool? : Json → Option Bool
  | .bool b => some b
  | _ => none

def integer? : Json → Option Int
  | .number n => n.integer?
  | _ => none

def binary64? : Json → Option Binary64
  | .number n => n.binary64?
  | _ => none

/-- A text of exactly one character. -/
def char? (j : Json) : Option Char :=
  match (string? j).map String.toList with
  | some [c] => some c
  | _ => none

/-- An alternative with content: an object with one member. -/
def choice? : Json → Option (String × Json)
  | .object [(name, content)] => name.string?.map (·, content)
  | _ => none

/-- An alternative without content: its name, or an object that holds null under it. -/
def unitChoice? (depth : Nat) : Json → Option String
  | .text name => name.string?
  | .object [(name, .null)] => if depth = 0 then none else name.string?
  | _ => none

/-- Reads an alternative without content by its name. -/
def unitChoiceOf? {α : Type} (ofName? : String → Option α) (depth : Nat) (j : Json) :
    Option α :=
  (unitChoice? depth j).bind ofName?

/-! ### Records -/

/-- Enters a member into the fields found so far.  A repeated field is refused; a member
    that is no field is passed over. -/
def enterField (name : String) (value : Json) :
    List (String × Option Json) → Option (List (String × Option Json))
  | [] => some []
  | (field, found) :: rest =>
      if field = name then
        match found with
        | none => some ((field, some value) :: rest)
        | some _ => none
      else (enterField name value rest).map ((field, found) :: ·)

/-- Enters all members of an object; their names have to be strings. -/
def enterMembers :
    List (JsonText × Json) → List (String × Option Json) → Option (List (String × Option Json))
  | [], fields => some fields
  | (name, value) :: rest, fields => do
      let name ← name.string?
      let fields ← enterField name value fields
      enterMembers rest fields

/-- The items of an array as the first of `count` fields; there may not be more. -/
def padItems : List Json → (count : Nat) → Option (List (Option Json))
  | [], count => some (List.replicate count none)
  | _ :: _, 0 => none
  | item :: rest, count + 1 => (padItems rest count).map (some item :: ·)

/-- The fields of a record that is an object, in the order of `names`, each with its content
    if it is there. -/
def namedFields? (names : List String) : Json → Option (List (Option Json))
  | .object members =>
      (enterMembers members (names.map (·, none))).map (List.map Prod.snd)
  | _ => none

/-- The fields of a record that is an object or an array, likewise. -/
def fields? (names : List String) : Json → Option (List (Option Json))
  | .array items => padItems items names.length
  | j => j.namedFields? names

/-- An optional field: left out and null both mean that it is not there. -/
def optional? {α : Type} (read : Json → Option α) : Option Json → Option (Option α)
  | none => some none
  | some .null => some none
  | some j => (read j).map some

/-- A field with a default for when it is left out. -/
def orDefault? {α : Type} (default : α) (read : Json → Option α) : Option Json → Option α
  | none => some default
  | some j => read j

end Json

end BoundSql
