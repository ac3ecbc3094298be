import BoundSql.Decimal.Numeral

namespace BoundSql

/-!
# Json — documents

The syntax tree of a JSON document, with everything that a reader may still want to
reject: numbers keep their digits, objects keep repeated members in order, and a text keeps
the halves of surrogate pairs that an escape can leave alone and that no `String` can hold.
-/

/-- One position of a JSON text. -/
inductive JsonUnit where
  | scalar (c : Char)
  /-- Half of a surrogate pair, by its code point. -/
  | half (codePoint : Nat)
  deriving DecidableEq

/-- A text as JSON has it. -/
abbrev JsonText := List JsonUnit

namespace JsonText

def ofString (s : String) : JsonText :=
  s.toList.map .scalar

/-- The characters of a text, if none is half of a pair. -/
def scalars? : JsonText → Option (List Char)
  | [] => some []
  | .scalar c :: rest => (scalars? rest).map (c :: ·)
  | .half _ :: _ => none

/-- The text as a string, if none of its units is half of a pair. -/
def string? (text : JsonText) : Option String :=
  (scalars? text).map String.ofList

theorem scalars?_map_scalar (cs : List Char) : scalars? (cs.map .scalar) = some cs := by
  induction cs with
  | nil => rfl
  | cons c rest ih => simp [scalars?, ih]

/-- A string survives as a JSON text. -/
theorem string?_ofString (s : String) : (ofString s).string? = some s := by
  simp [ofString, string?, scalars?_map_scalar]

end JsonText

/-- A JSON document. -/
inductive Json where
  | null
  | bool (b : Bool)
  | number (n : Decimal.Numeral)
  | text (t : JsonText)
  | array (items : List Json)
  | object (members : List (JsonText × Json))

namespace Json

def string (s : String) : Json :=
  .text (JsonText.ofString s)

def int (n : Int) : Json :=
  .number (Decimal.Numeral.ofInt n)

/-- The object with the given members. -/
def record (members : List (String × Json)) : Json :=
  .object (members.map fun (name, value) => (JsonText.ofString name, value))

end Json

end BoundSql
