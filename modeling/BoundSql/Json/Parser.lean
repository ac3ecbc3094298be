import BoundSql.Json.Basic
import BoundSql.Text.Hex

namespace BoundSql

/-!
# Json — reading a document

A strict reader: four characters count as blank, nothing may follow the document, numbers
have no leading zeros, a text holds no bare controls.  Whether the halves of a surrogate
pair belong together, how large a number is and how deep a document nests is left to those
who use the tree.

* `Json.parse` — the document that a string holds, if it holds one.
-/

namespace Json

/-- The blanks that may stand between tokens. -/
def isBlankCharacter (c : Char) : Bool :=
  c == ' ' || c == '\t' || c == '\n' || c == '\r'

/-- Drops the blanks in front. -/
def skipBlank (cs : List Char) : List Char :=
  cs.dropWhile isBlankCharacter

/-! ### Texts -/

/-- The character that a short escape stands for. -/
def shortEscape? : Char → Option Char
  | '"' => some '"'
  | '\\' => some '\\'
  | '/' => some '/'
  | 'b' => some '\x08'
  | 'f' => some '\x0c'
  | 'n' => some '\n'
  | 'r' => some '\r'
  | 't' => some '\t'
  | _ => none

/-- The unit with a code point below 2 ^ 16. -/
def unitOfCodePoint (codePoint : Nat) : JsonUnit :=
  if 0xD800 ≤ codePoint ∧ codePoint < 0xE000 then .half codePoint
  else .scalar (Char.ofNat codePoint)

/-- Reads the units of a text up to the closing quote. -/
def readUnits : List Char → Option (JsonText × List Char)
  | [] => none
  | '"' :: rest => some ([], rest)
  -- One unit at a time: the halves of a pair are put together afterwards.
  | '\\' :: 'u' :: a :: b :: c :: d :: rest => do
      let codePoint ← hexNumber? [a, b, c, d]
      let (units, rest) ← readUnits rest
      some (unitOfCodePoint codePoint :: units, rest)
  | '\\' :: letter :: rest => do
      let c ← shortEscape? letter
      let (units, rest) ← readUnits rest
      some (.scalar c :: units, rest)
  | c :: rest =>
      if c = '\\' ∨ c < ' ' then none
      else do
        let (units, rest) ← readUnits rest
        some (.scalar c :: units, rest)

/-- The character of a surrogate pair, if the two halves are one. -/
def pairedScalar? (high low : Nat) : Option Char :=
  if 0xD800 ≤ high ∧ high < 0xDC00 ∧ 0xDC00 ≤ low ∧ low < 0xE000 then
    some (Char.ofNat (0x10000 + (high - 0xD800) * 0x400 + (low - 0xDC00)))
  else none

/-- Puts the halves of surrogate pairs together, from the front. -/
def joinHalves : JsonText → JsonText
  | .half high :: .half low :: rest =>
      match pairedScalar? high low with
      | some c => .scalar c :: joinHalves rest
      -- The second half may be the first one of a pair of its own.
      | none => .half high :: joinHalves (.half low :: rest)
  | unit :: rest => unit :: joinHalves rest
  | [] => []

/-- Reads a text after its opening quote. -/
def readText (cs : List Char) : Option (JsonText × List Char) :=
  (readUnits cs).map fun (units, rest) => (joinHalves units, rest)

/-! ### Numbers -/

/-- The digits in front and what follows them. -/
def spanDigits : List Char → List Digit × List Char
  | [] => ([], [])
  | c :: rest =>
      match Decimal.digit? c with
      | some d => let (digits, rest) := spanDigits rest; (d :: digits, rest)
      | none => ([], c :: rest)

/-- Reads the digits before the point: a zero alone or digits that begin with another. -/
def readWhole (cs : List Char) : Option (List Digit × List Char) :=
  match spanDigits cs with
  | ([], _) => none
  | ([d], rest) => some ([d], rest)
  | (d :: digits, rest) => if d = .zero then none else some (d :: digits, rest)

/-- Reads the point and at least one digit, or nothing where there is no point. -/
def readFraction : List Char → Option (List Digit × List Char)
  | '.' :: cs =>
      match spanDigits cs with
      | ([], _) => none
      | (digits, rest) => some (digits, rest)
  | cs => some ([], cs)

/-- The sign in front of an exponent: is it a minus? -/
def readExponentSign : List Char → Bool × List Char
  | '-' :: rest => (true, rest)
  | '+' :: rest => (false, rest)
  | rest => (false, rest)

/-- Reads the digits of an exponent after its letter. -/
def readExponentDigits (cs : List Char) : Option (Option Decimal.Exponent × List Char) :=
  let (negative, cs) := readExponentSign cs
  match spanDigits cs with
  | ([], _) => none
  | (digits, rest) => some (some ⟨negative, digits⟩, rest)

/-- Reads an exponent, or nothing where there is none. -/
def readExponent : List Char → Option (Option Decimal.Exponent × List Char)
  | 'e' :: cs => readExponentDigits cs
  | 'E' :: cs => readExponentDigits cs
  | cs => some (none, cs)

/-- Reads a number after its sign. -/
def readUnsigned (negative : Bool) (cs : List Char) : Option (Decimal.Numeral × List Char) := do
  let (whole, cs) ← readWhole cs
  let (fraction, cs) ← readFraction cs
  let (exponent, cs) ← readExponent cs
  some (⟨negative, whole, fraction, exponent⟩, cs)

/-- Reads a number. -/
def readNumber : List Char → Option (Decimal.Numeral × List Char)
  | '-' :: cs => readUnsigned true cs
  | cs => readUnsigned false cs

/-! ### Documents -/

mutual

/-- Reads a value after any blanks.  No more than `fuel` calls are nested. -/
def readValue : (fuel : Nat) → List Char → Option (Json × List Char)
  | 0, _ => none
  | fuel + 1, cs =>
      match skipBlank cs with
      | 'n' :: 'u' :: 'l' :: 'l' :: rest => some (.null, rest)
      | 't' :: 'r' :: 'u' :: 'e' :: rest => some (.bool true, rest)
      | 'f' :: 'a' :: 'l' :: 's' :: 'e' :: rest => some (.bool false, rest)
      | '"' :: rest => (readText rest).map fun (t, rest) => (.text t, rest)
      | '[' :: rest =>
          match skipBlank rest with
          -- Behind a comma there has to be an item, so that only here the bracket may come first.
          | ']' :: rest => some (.array [], rest)
          | _ => (readItems fuel rest).map fun (items, rest) => (.array items, rest)
      | '\x7b' :: rest =>
          match skipBlank rest with
          | '\x7d' :: rest => some (.object [], rest)
          | _ => (readMembers fuel rest).map fun (members, rest) => (.object members, rest)
      | cs => (readNumber cs).map fun (n, rest) => (.number n, rest)

/-- Reads the items of an array that has some, and the closing bracket. -/
def readItems : (fuel : Nat) → List Char → Option (List Json × List Char)
  | 0, _ => none
  | fuel + 1, cs => do
      let (item, cs) ← readValue fuel cs
      match skipBlank cs with
      | ',' :: cs =>
          let (items, rest) ← readItems fuel cs
          some (item :: items, rest)
      | ']' :: rest => some ([item], rest)
      | _ => none

/-- Reads the members of an object that has some, and the closing brace. -/
def readMembers : (fuel : Nat) → List Char → Option (List (JsonText × Json) × List Char)
  | 0, _ => none
  | fuel + 1, cs =>
      match skipBlank cs with
      | '"' :: cs => do
          let (name, cs) ← readText cs
          match skipBlank cs with
          | ':' :: cs =>
              let (value, cs) ← readValue fuel cs
              match skipBlank cs with
              | ',' :: cs =>
                  let (members, rest) ← readMembers fuel cs
                  some ((name, value) :: members, rest)
              | '\x7d' :: rest => some ([(name, value)], rest)
              | _ => none
          | _ => none
      | _ => none

end

/-- The document of a list of characters.  Two nested calls read at least one character,
    so the fuel suffices. -/
def parseChars (cs : List Char) : Option Json :=
  match readValue (2 * cs.length + 2) cs with
  | some (document, rest) => if skipBlank rest = [] then some document else none
  | none => none

/-- The document that a string holds, if it holds one. -/
def parse (s : String) : Option Json :=
  parseChars s.toList

end Json

end BoundSql
