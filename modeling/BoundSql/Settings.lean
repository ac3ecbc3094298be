import BoundSql.Binder
import BoundSql.Error
import BoundSql.Statement.Select
import BoundSql.Text.Alphabetic
import BoundSql.Text.Blank
import BoundSql.Text.Numeric

namespace BoundSql

/-!
# Settings — how statements are written

The dialect of statements, the naming of parameters, and whether a statement about an
entity without columns is an error.

* `Settings.validate` — do the settings make placeholders that stand out in a text?
-/

/-- The settings under which statements are written. -/
structure Settings where
  dialect : Dialect
  naming : Naming
  /-- Is an entity without columns an error? -/
  strict : Bool
  deriving DecidableEq

namespace Settings

/-- The standard dialect and naming, strict. -/
def standard : Settings := ⟨.standard, Naming.standard, true⟩

/-- The standard settings with the other dialect. -/
def transactSql : Settings := { standard with dialect := .transactSql }

instance : Inhabited Settings := ⟨standard⟩

/-- May the character stand in the stem of parameter names? -/
def isStemCharacter (c : Char) : Bool := c.isAlphanum || c == '_'

/-- Is the character a symbol, which cannot be taken for a part of a name? -/
def isSymbol (c : Char) : Bool := !(isAlphabetic c || isNumeric c || isBlank c)

/-- Refuses a stem that is empty or holds anything but ASCII letters, digits and
    underscores, and a sigil that is no symbol. -/
def validate (settings : Settings) : Except Error Unit :=
  let stem := settings.naming.stem.toList
  if stem.isEmpty then .error (.settings "parameter prefix must not be empty")
  else
    match stem.find? (!isStemCharacter ·) with
    | some bad =>
        .error (.settings ("parameter prefix contains invalid character " ++ Quoted.character bad))
    | none =>
        if isSymbol settings.naming.sigil then .ok ()
        else .error (.settings
          ("placeholder sigil " ++ Quoted.character settings.naming.sigil ++ " is not a symbol"))

end Settings

end BoundSql
