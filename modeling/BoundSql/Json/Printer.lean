import BoundSql.Json.Basic
import BoundSql.Text.Hex

namespace BoundSql

/-!
# Json — compact text

Documents without any blanks, members in order.  In a text only what must be escaped is:
the quote, the backslash and the controls, which have short escapes where there are any;
everything else, `/`, U+007F and all of non-ASCII included, stands for itself.

* `Json.render` — the characters of a document.
* `Json.renderBefore_eq` — how a document is written does not depend on what follows it.
* `Json.compact` — the same as a string.
-/

/-- The escape of four hexadecimal digits. -/
def unicodeEscape (codePoint : Nat) : List Char :=
  ['\\', 'u'] ++ hexPadded 4 codePoint

/-- One unit of a text as it stands between quotes. -/
def JsonUnit.render : JsonUnit → List Char
  | .half codePoint => unicodeEscape codePoint
  | .scalar c =>
      if c = '"' then ['\\', '"']
      else if c = '\\' then ['\\', '\\']
      else if c = '\x08' then ['\\', 'b']
      else if c = '\x0c' then ['\\', 'f']
      else if c = '\n' then ['\\', 'n']
      else if c = '\r' then ['\\', 'r']
      else if c = '\t' then ['\\', 't']
      else if c < ' ' then unicodeEscape c.toNat
      else [c]

/-- A text between quotes. -/
def JsonText.render (text : JsonText) : List Char :=
  '"' :: text.flatMap JsonUnit.render ++ ['"']

namespace Json

mutual

/-- The characters of a document in front of `rest`.  What follows is at hand when a part is
    written, so that no part is copied, however deep it lies. -/
def renderBefore : Json → (rest : List Char) → List Char
  | .null, rest => 'n' :: 'u' :: 'l' :: 'l' :: rest
  | .bool true, rest => 't' :: 'r' :: 'u' :: 'e' :: rest
  | .bool false, rest => 'f' :: 'a' :: 'l' :: 's' :: 'e' :: rest
  | .number n, rest => n.text ++ rest
  | .text t, rest => t.render ++ rest
  | .array items, rest => '[' :: renderItems items (']' :: rest)
  | .object members, rest => '\x7b' :: renderMembers members ('\x7d' :: rest)

/-- The items of an array, with commas between them, in front of `rest`. -/
def renderItems : List Json → (rest : List Char) → List Char
  | [], rest => rest
  | [item], rest => item.renderBefore rest
  | item :: next :: more, rest => item.renderBefore (',' :: renderItems (next :: more) rest)

/-- The members of an object, with commas between them, in front of `rest`. -/
def renderMembers : List (JsonText × Json) → (rest : List Char) → List Char
  | [], rest => rest
  | [(name, value)], rest => name.render ++ ':' :: value.renderBefore rest
  | (name, value) :: next :: more, rest =>
      name.render ++ ':' :: value.renderBefore (',' :: renderMembers (next :: more) rest)

end

/-- The characters of a document. -/
def render (document : Json) : List Char :=
  document.renderBefore []

mutual

/-- What follows a document has no part in its characters. -/
theorem renderBefore_append (document : Json) (rest more : List Char) :
    document.renderBefore rest ++ more = document.renderBefore (rest ++ more) := by
  match document with
  | .null | .bool true | .bool false | .number _ | .text _ => simp [renderBefore]
  | .array items => simp [renderBefore, renderItems_append items]
  | .object members => simp [renderBefore, renderMembers_append members]

theorem renderItems_append (items : List Json) (rest more : List Char) :
    renderItems items rest ++ more = renderItems items (rest ++ more) := by
  match items with
  | [] => simp [renderItems]
  | [item] => simp [renderItems, renderBefore_append item]
  | item :: next :: others =>
      simp [renderItems, renderBefore_append item, renderItems_append (next :: others)]

theorem renderMembers_append (members : List (JsonText × Json)) (rest more : List Char) :
    renderMembers members rest ++ more = renderMembers members (rest ++ more) := by
  match members with
  | [] => simp [renderMembers]
  | [(name, value)] => simp [renderMembers, renderBefore_append value]
  | (name, value) :: next :: others =>
      simp [renderMembers, renderBefore_append value, renderMembers_append (next :: others)]

end

/-- Writing a document in front of others is writing it and then the others. -/
theorem renderBefore_eq (document : Json) (rest : List Char) :
    document.renderBefore rest = document.render ++ rest := by
  simp [render, renderBefore_append]

/-- A document as a string. -/
def compact (document : Json) : String :=
  String.ofList document.render

end Json

end BoundSql
