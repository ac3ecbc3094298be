import BoundSql.Text.GraphemeExtend
import BoundSql.Text.Hex
import BoundSql.Text.Unprintable

namespace BoundSql

/-!
# Text — quoted text for messages

A text or a character between quotes, such that every character of it can be told from
the message around it.  NUL, tab, carriage return and line feed have short escapes, a
backslash and the quote in use are preceded by a backslash, and what a display cannot
show on its own — marks that are drawn onto the character before them and everything
without a visible form — is written as its code point.

* `Quoted.text` — a text between double quotes.
* `Quoted.character` — a character between single quotes.
-/

namespace Quoted

/-- The escape that gives the code point of a character in braces. -/
def codePoint (c : Char) : List Char :=
  ['\\', 'u', '\x7b'] ++ hexCodePoint c ++ ['\x7d']

/-- The two halfwidth sound marks of Katakana.  They have the property `Grapheme_Extend`, but
    a display gives each of them a place of its own. -/
def isHalfwidthSoundMark (c : Char) : Bool :=
  c == '\uff9e' || c == '\uff9f'

/-- Is the character drawn onto the one before it? -/
def isAttached (c : Char) : Bool :=
  isGraphemeExtend c && !isHalfwidthSoundMark c

/-- One character as it stands between two of the given quotes. -/
def escape (quote c : Char) : List Char :=
  if c = '\x00' then ['\\', '0']
  else if c = '\t' then ['\\', 't']
  else if c = '\r' then ['\\', 'r']
  else if c = '\n' then ['\\', 'n']
  else if c = '\\' ∨ c = quote then ['\\', c]
  else if isAttached c || isUnprintable c then codePoint c
  else [c]

/-- A text between double quotes; single quotes inside it stay bare. -/
def text (s : String) : String :=
  String.ofList ('"' :: s.toList.flatMap (escape '"') ++ ['"'])

/-- A character between single quotes; a double quote stays bare. -/
def character (c : Char) : String :=
  String.ofList ('\'' :: escape '\'' c ++ ['\''])

end Quoted

end BoundSql
