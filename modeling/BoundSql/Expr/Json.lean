import BoundSql.Expr.Basic
import BoundSql.Json.Parser
import BoundSql.Value.Json

namespace BoundSql

/-!
# Expr — documents

A tree is the choice of its kind: `Column`, `Literal` and `List` hold their content,
`Binary`, `Unary`, `Match` and `FunctionCall` a record.  In a text of its own a tree may have
arrays for these records; inside another document they have to be objects.

* `Expr.toJson`, `Expr.ofJson?` — writing and reading.
* `Expr.compact`, `Expr.parse` — the same for the text of a tree.
-/

namespace Expr

mutual

def toJson : Expr → Json
  | .column c => .record [("Column", c.toJson)]
  | .literal v => .record [("Literal", v.toJson)]
  | .list items => .record [("List", .array (toJsonAll items))]
  | .binary left op right =>
      .record [("Binary", .record
        [("left", left.toJson), ("op", .string op.name), ("right", right.toJson)])]
  | .unary op operand =>
      .record [("Unary", .record [("op", .string op.name), ("operand", operand.toJson)])]
  | .like operand place pattern ignoreCase =>
      .record [("Match", .record
        [("operand", operand.toJson), ("kind", .string place.name),
         ("pattern", pattern.toJson), ("ignore_case", .bool ignoreCase)])]
  | .call name args =>
      .record [("FunctionCall", .record
        [("name", .string name), ("args", .array (toJsonAll args))])]

def toJsonAll : List Expr → List Json
  | [] => []
  | e :: rest => e.toJson :: toJsonAll rest

end

/-- Reads each item of an array. -/
def readItems (read : Json → Option Expr) : Json → Option (List Expr)
  | .array items => items.mapM read
  | _ => none

/-- The fields of the record of a kind of tree, which may be an array if `positional`. -/
def recordFields? (positional : Bool) (names : List String) (content : Json) :
    Option (List (Option Json)) :=
  if positional then content.fields? names else content.namedFields? names

/-- Reads the record of a kind of tree, given how to read the trees in it (`tree`) and the
    lists of trees in it (`trees`).  Its names of operators may enter `depth` nested
    objects. -/
def ofRecord? (positional : Bool) (tree : Json → Option Expr)
    (trees : Json → Option (List Expr)) (depth : Nat) (kind : String) (content : Json) :
    Option Expr :=
  if kind = "Binary" then
    match recordFields? positional ["left", "op", "right"] content with
    | some [some left, some op, some right] => do
        let left ← tree left
        let op ← Json.unitChoiceOf? BinaryOp.ofName? depth op
        let right ← tree right
        some (.binary left op right)
    | _ => none
  else if kind = "Unary" then
    match recordFields? positional ["op", "operand"] content with
    | some [some op, some operand] => do
        let op ← Json.unitChoiceOf? UnaryOp.ofName? depth op
        let operand ← tree operand
        some (.unary op operand)
    | _ => none
  else if kind = "Match" then
    match recordFields? positional ["operand", "kind", "pattern", "ignore_case"] content with
    | some [some operand, some place, some pattern, ignoreCase] => do
        let operand ← tree operand
        let place ← Json.unitChoiceOf? MatchPlace.ofName? depth place
        let pattern ← tree pattern
        let ignoreCase ← Json.orDefault? false Json.bool? ignoreCase
        some (.like operand place pattern ignoreCase)
    | _ => none
  else if kind = "FunctionCall" then
    match recordFields? positional ["name", "args"] content with
    | some [some name, some args] => do
        let name ← name.string?
        let args ← trees args
        some (.call name args)
    | _ => none
  else none

/-- Reads a tree that may enter `depth` nested arrays and objects: one for the choice of its
    kind, one for a record or a list, one more for a list inside a record.  The records may be
    arrays if `positional`. -/
def ofJson? (positional : Bool) : (depth : Nat) → Json → Option Expr
  | 0, _ => none
  | 1, j => do
      let (kind, content) ← j.choice?
      if kind = "Literal" then (Value.ofJson? 0 content).map .literal else none
  | depth + 2, j => do
      let (kind, content) ← j.choice?
      if kind = "Column" then (Column.ofJson? (depth + 1) content).map .column
      else if kind = "Literal" then (Value.ofJson? (depth + 1) content).map .literal
      else if kind = "List" then (readItems (ofJson? positional depth) content).map .list
      else
        let trees := match depth with
          | 0 => fun _ => none
          | depth + 1 => readItems (ofJson? positional depth)
        ofRecord? positional (ofJson? positional depth) trees depth kind content

/-- A tree as a text. -/
def compact (e : Expr) : String :=
  e.toJson.compact

/-- The tree that a text holds, if it holds one. -/
def parse (text : String) : Option Expr :=
  (Json.parse text).bind (ofJson? true Json.depthLimit)

end Expr

end BoundSql
