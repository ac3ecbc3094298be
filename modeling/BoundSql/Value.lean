import BoundSql.Decimal.Style
import BoundSql.Text.Quoted

namespace BoundSql

/-!
# Value — literals

The values that a predicate compares with.  All but the null value reach a statement as
parameters; null is written into the text.

* `Value.display` — the value in a message.
* `Value.agrees` — equality as the values' own arithmetic has it.
-/

/-- A literal.  The empty string is a string like any other and not null. -/
inductive Value where
  | null
  | bool (b : Bool)
  | int (i : Int64)
  | float (x : Binary64)
  | string (s : String)
  deriving DecidableEq, Inhabited

namespace Value

def isNull : Value → Bool
  | .null => true
  | _ => false

def asString? : Value → Option String
  | .string s => some s
  | _ => none

def asBool? : Value → Option Bool
  | .bool b => some b
  | _ => none

/-- The name of the kind of value, for messages. -/
def typeName : Value → String
  | .null => "null"
  | .bool _ => "bool"
  | .int _ => "int64"
  | .float _ => "float64"
  | .string _ => "string"

/-- A value that may be missing; a missing one is null. -/
def ofOption {α : Type} (wrap : α → Value) : Option α → Value
  | none => .null
  | some a => wrap a

/-- Equality as arithmetic has it: kinds never mix, and floating-point numbers compare as
    numbers. -/
def agrees : Value → Value → Bool
  | .null, .null => true
  | .bool a, .bool b => a == b
  | .int a, .int b => a == b
  | .float a, .float b => a.agrees b
  | .string a, .string b => a == b
  | _, _ => false

/-- In a message numbers have no exponent, integers no point, and a half goes up. -/
def floatStyle : Decimal.Style := ⟨.up, none, false⟩

/-- A floating-point number in a message. -/
def displayFloat (x : Binary64) : String :=
  if x.isNaN then "NaN"
  else if x.isInfinite then if x.negative then "-inf" else "inf"
  else String.ofList (floatStyle.numeral x).text

/-- The value in a message; a string is quoted. -/
def display : Value → String
  | .null => "NULL"
  | .bool true => "true"
  | .bool false => "false"
  | .int i => String.ofList (Decimal.Numeral.ofInt i.toInt).text
  | .float x => displayFloat x
  | .string s => Quoted.text s

/-- A value agrees with itself unless it is not a number. -/
theorem agrees_self (v : Value) :
    v.agrees v = true ↔ ∀ x, v = .float x → x.isNaN = false := by
  cases v <;> simp [agrees, Binary64.agrees_self]

end Value

end BoundSql
