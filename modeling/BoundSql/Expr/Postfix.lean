import BoundSql.Entity.Name
import BoundSql.Error
import BoundSql.Expr.Basic

namespace BoundSql

/-!
# Expr — programs in postfix order

A tree can be given as the program that builds it on a stack: each instruction takes its
operands from the top and puts the result back.  Columns may be named by fields; looking
them up needs a state, which a lookup may change, and can fail.

* `Postfix.build` — the tree that a program leaves on the stack, and the state afterwards.
-/

namespace Postfix

/-- One instruction. -/
inductive Instruction where
  | push (e : Expr)
  /-- Pushes the column of a field. -/
  | field (f : FieldName)
  /-- Makes a list of that many trees, the lowest one first. -/
  | listOf (count : Nat)
  /-- Makes a call with that many arguments, the lowest one first. -/
  | call (name : String) (count : Nat)
  | unary (op : UnaryOp)
  | binary (op : BinaryOp)
  | matching (place : MatchPlace)
  | ignoringCase
  | isIn (items : List Value)
  /-- Pushes the top once more. -/
  | dup
  /-- Exchanges the two topmost trees. -/
  | swap
  /-- Runs a program several times. -/
  | repeated (times : Nat) (body : List Instruction)
  /-- An instruction that could not be read; nothing is known to be wrong before it is
      reached. -/
  | unreadable
  deriving Inhabited

/-- Why a program builds no tree. -/
inductive Failure where
  /-- A field could not be looked up. -/
  | lookup (cause : Error)
  /-- An instruction could not be read, or its operands are missing. -/
  | unreadable
  deriving DecidableEq

/-- The trees built so far, the last one first. -/
abbrev Stack := List Expr

/-- What runs on a stack: a change of the state `σ` that may fail. -/
abbrev Run (σ : Type) := ExceptT Failure (StateM σ)

/-- How the column of a field is found. -/
abbrev Lookup (σ : Type) := FieldName → σ → Except Error Column × σ

/-- Takes the topmost trees, the lowest one first. -/
def take? (count : Nat) (stack : Stack) : Option (List Expr × Stack) :=
  if count ≤ stack.length then some ((stack.take count).reverse, stack.drop count) else none

/-- What an instruction does to the stack alone. -/
def stackEffect? : Instruction → Stack → Option Stack
  | .push e, stack => some (e :: stack)
  | .listOf count, stack => (take? count stack).map fun (items, stack) => .list items :: stack
  | .call name count, stack =>
      (take? count stack).map fun (args, stack) => .call name args :: stack
  | .unary op, e :: stack => some (.unary op e :: stack)
  -- The right operand was built last, so that it lies on top.
  | .binary op, right :: left :: stack => some (.binary left op right :: stack)
  | .matching place, pattern :: operand :: stack => some (operand.matching place pattern :: stack)
  | .ignoringCase, e :: stack => some (e.ignoringCase :: stack)
  | .isIn items, e :: stack => some (e.isIn items :: stack)
  | .dup, e :: stack => some (e :: e :: stack)
  | .swap, a :: b :: stack => some (b :: a :: stack)
  | _, _ => none

/-- Runs a step several times. -/
def times {σ : Type} (step : Stack → Run σ Stack) : Nat → Stack → Run σ Stack
  | 0, stack => pure stack
  | count + 1, stack => do times step count (← step stack)

/-- Pushes the column of a field. -/
def pushField {σ : Type} (lookup : Lookup σ) (f : FieldName) (stack : Stack) : Run σ Stack := do
  match ← (modifyGet (lookup f) : StateM σ (Except Error Column)) with
  | .ok c => pure (.column c :: stack)
  | .error cause => throw (.lookup cause)

mutual

/-- Runs one instruction. -/
def runOne {σ : Type} (lookup : Lookup σ) : Instruction → Stack → Run σ Stack
  | .field f, stack => pushField lookup f stack
  | .repeated count body, stack => times (runAll lookup body) count stack
  | instruction, stack =>
      match stackEffect? instruction stack with
      | some stack => pure stack
      | none => throw .unreadable

/-- Runs instructions in order. -/
def runAll {σ : Type} (lookup : Lookup σ) : List Instruction → Stack → Run σ Stack
  | [], stack => pure stack
  | instruction :: rest, stack => do runAll lookup rest (← runOne lookup instruction stack)

end

/-- The tree that a program builds from an empty stack, and the state afterwards. -/
def build {σ : Type} (lookup : Lookup σ) (program : List Instruction) (state : σ) :
    Except Failure Expr × σ :=
  match (runAll lookup program []).run state with
  | (.ok [e], state) => (.ok e, state)
  -- No tree is left, or more than one.
  | (.ok _, state) => (.error .unreadable, state)
  | (.error failure, state) => (.error failure, state)

end Postfix

end BoundSql
