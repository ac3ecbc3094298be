import BoundSql.Registry.Calls
import BoundSql.Query

namespace BoundSql

/-!
# Query — calls on a query

A query in use is a query beside the registry that it reads and registers entities in.  Each
call on it is a step from one such pair to the next, with an answer.  Steps that name an
entity resolve it first, so that they can change the registry even where they fail.

* `QueryStep.run`, `QueryStep.runAll` — answer and state after a step, after several.
-/

/-- A call on a query. -/
inductive QueryStep where
  /-- Asks for the column of a field. -/
  | column (field : String)
  /-- Asks for the column of a field of an entity. -/
  | columnOf (e : Entity) (field : String)
  | filter (e : Expr)
  | orderBy (column : Column) (descending : Bool)
  | join (e : Entity) (left right : Column)
  | selectEntity (e : Entity)
  | selectFields (fields : List String)
  | selectColumns (columns : FieldMap)
  | distinct
  | take (n : UInt64)
  | first
  /-- Asks for the text of the statement. -/
  | sql
  /-- Asks for the statement. -/
  | build

/-- What a step answers. -/
inductive Answer where
  /-- The query has changed. -/
  | done
  | column (c : Column)
  | text (sql : String)
  | statement (s : Statement)
  | failed (e : Error)

/-- A query beside the registry that it uses. -/
structure QueryState where
  registry : Registry
  query : Query

namespace Answer

/-- An answer, or the failure to give one. -/
def ofExcept {α : Type} (wrap : α → Answer) : Except Error α → Answer
  | .ok a => wrap a
  | .error e => .failed e

end Answer

namespace QueryState

/-- A query about an entity, which is registered if need be. -/
def start (registry : Registry) (settings : Settings) (e : Entity) : QueryState :=
  ⟨(registry.resolve e).1, .new settings e.key⟩

/-- The state after a change that can fail; a failure changes nothing. -/
def change (s : QueryState) : Except Error Query → Answer × QueryState
  | .ok query => (.done, { s with query })
  | .error e => (.failed e, s)

end QueryState

namespace QueryStep

/-- The entity that a step resolves. -/
def entity? : QueryStep → Option Entity
  | .columnOf e _ | .join e _ _ | .selectEntity e => some e
  | _ => none

/-- The answer of a step and the state after it. -/
def run (s : QueryState) : QueryStep → Answer × QueryState
  | .column field => (.ofExcept .column (s.query.column s.registry field), s)
  | .columnOf e field =>
      let (registry, table) := s.registry.resolve e
      (.ofExcept .column (Query.columnOf e.key table field), { s with registry })
  | .filter e => s.change (s.query.filter e)
  | .orderBy c descending => s.change (.ok (s.query.orderBy c descending))
  | .join e left right =>
      let (registry, table) := s.registry.resolve e
      (.done, ⟨registry, s.query.join table left right⟩)
  | .selectEntity e => (.done, ⟨(s.registry.resolve e).1, s.query.selectEntity e.key⟩)
  | .selectFields fields => s.change (s.query.selectFields s.registry fields)
  | .selectColumns columns => s.change (.ok (s.query.selectColumns columns))
  | .distinct => s.change (.ok s.query.makeDistinct)
  | .take n => s.change (.ok (s.query.take n))
  | .first => s.change (.ok s.query.first)
  | .sql => (.ofExcept .text (s.query.sql s.registry), s)
  | .build => (.ofExcept .statement (s.query.build s.registry), s)

/-- The answers of steps in order, and the state after the last one. -/
def runAll (s : QueryState) : List QueryStep → List Answer × QueryState
  | [] => ([], s)
  | step :: rest =>
      let (answer, s) := run s step
      let (answers, s) := runAll s rest
      (answer :: answers, s)

/-- The entities that a step reflects. -/
def reflected (s : QueryState) (step : QueryStep) : List EntityName :=
  match step.entity? with
  | some e => s.registry.reflected e.resolution
  | none => []

end QueryStep

end BoundSql
