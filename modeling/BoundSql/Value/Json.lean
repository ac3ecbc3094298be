import BoundSql.Json.Decoding
import BoundSql.Json.Printer
import BoundSql.Value

namespace BoundSql

/-!
# Value — documents

A value is the choice of its kind: `"Null"`, or an object with `Bool`, `Int64`, `Float64`
or `String` as its one member.  An integer is a number without point and exponent that fits
64 bits; a floating-point number is any number that does not overflow.

* `Value.toJson`, `Value.ofJson?` — writing and reading.
-/

namespace Value

/-- In a document numbers between 10⁻⁵ and 10¹⁶ are positional, integers have a zero after
    the point, and a half goes to the even neighbour. -/
def jsonFloatStyle : Decimal.Style := ⟨.toEven, some (-5, 15), true⟩

/-- A floating-point number; there is no numeral for those that are not finite. -/
def floatToJson (x : Binary64) : Json :=
  if x.isFinite then .number (jsonFloatStyle.numeral x) else .null

def toJson : Value → Json
  | .null => .string "Null"
  | .bool b => .record [("Bool", .bool b)]
  | .int i => .record [("Int64", .int i.toInt)]
  | .float x => .record [("Float64", floatToJson x)]
  | .string s => .record [("String", .string s)]

/-- An integer of 64 bits. -/
def int64? (n : Int) : Option Int64 :=
  if Int64.minValue.toInt ≤ n ∧ n ≤ Int64.maxValue.toInt then some (Int64.ofInt n) else none

/-- Reads a value with content by the name of its kind. -/
def ofChoice? (kind : String) (content : Json) : Option Value :=
  if kind = "Bool" then content.bool?.map .bool
  else if kind = "Int64" then (content.integer?.bind int64?).map .int
  else if kind = "Float64" then content.binary64?.map .float
  else if kind = "String" then content.string?.map .string
  else if kind = "Null" then
    match content with
    | .null => some .null
    | _ => none
  else none

/-- Reads a value that may enter `depth` nested objects. -/
def ofJson? (depth : Nat) (j : Json) : Option Value :=
  match j with
  | .text name => if name.string? = some "Null" then some .null else none
  | j =>
      if depth = 0 then none
      else do
        let (kind, content) ← j.choice?
        ofChoice? kind content

end Value

end BoundSql
