import BoundSql.Entity.Name
import BoundSql.Table

namespace BoundSql

/-!
# Entity — entities and what reflecting them does

An entity type supplies its table when it is asked for it.  Being asked is a chance to call
the very registry that asks: to register other entities, or the same one, before the table
is handed out.  An entity is therefore its key, the calls that it makes, and its table; the
calls may again reflect entities, so they form a tree.
-/

/-- A call that changes a registry. -/
inductive Call where
  /-- Registers a table under a key, unless there is one. -/
  | insertNew (key : EntityName) (table : Table)
  /-- Makes sure that an entity is registered.  Where it is not, it is reflected: it makes
      its calls and then supplies its table. -/
  | resolve (key : EntityName) (during : List Call) (table : Table)
  deriving Inhabited

/-- An entity type: its key, and what reflecting it does. -/
structure Entity where
  key : EntityName
  /-- The calls that it makes on the registry that asks for its table. -/
  during : List Call
  /-- The table that it supplies afterwards. -/
  table : Table
  deriving Inhabited

/-- The call that resolves an entity. -/
def Entity.resolution (e : Entity) : Call := .resolve e.key e.during e.table

/-- An entity that supplies its table and does nothing else. -/
def Entity.plain (key : EntityName) (table : Table) : Entity := ⟨key, [], table⟩

end BoundSql
