import BoundSql.Entity.Catalogue
import BoundSql.Expr.Postfix
import BoundSql.Query.Step

namespace BoundSql

/-!
# Workspace — contexts and queries over shared registries

Several contexts and queries at work: each has a name, and each uses one of the registries,
which contexts may share.  A context hands out queries under its settings, which have been
validated.  The entities come from one catalogue, and the workspace remembers which of them
have been reflected.

* `Workspace.openContext` — a new context, with a registry of its own or a shared one.
* `Workspace.resolve` — an entity of the catalogue in one of the registries.
* `Workspace.perform` — a call on a query.
-/

/-- Settings, and the registry that is used under them. -/
structure Context where
  /-- The position of the registry in the workspace. -/
  registry : Nat
  settings : Settings
  deriving DecidableEq

/-- A query, and the registry that it uses. -/
structure OpenQuery where
  /-- The position of the registry in the workspace. -/
  registry : Nat
  query : Query

/-- Contexts and queries by name over shared registries. -/
structure Workspace where
  catalogue : Catalogue
  /-- The entities in the order in which they were reflected, with repetitions. -/
  reflections : List EntityName
  registries : List Registry
  contexts : List (String × Context)
  queries : List (String × OpenQuery)

namespace Workspace

/-- A workspace without contexts. -/
def new (catalogue : Catalogue) : Workspace := ⟨catalogue, [], [], [], []⟩

def context? (w : Workspace) (name : String) : Option Context :=
  Keyed.find? name w.contexts

def query? (w : Workspace) (name : String) : Option OpenQuery :=
  Keyed.find? name w.queries

/-- The registry at a position. -/
def registryAt (w : Workspace) (position : Nat) : Registry :=
  (w.registries[position]?).getD Registry.empty

/-- How often an entity was reflected. -/
def reflectionCount (w : Workspace) (key : EntityName) : Nat :=
  w.reflections.count key

/-- The entity of the catalogue under a key, as it is to be resolved next in a registry. -/
def entity (w : Workspace) (position : Nat) (key : EntityName) : Entity :=
  w.catalogue.entity ⟨w.reflections, (w.registryAt position).keys⟩ key

/-- Puts a registry in its place and notes what was reflected. -/
def settle (w : Workspace) (position : Nat) (registry : Registry) (reflected : List EntityName) :
    Workspace :=
  { w with
    registries := w.registries.set position registry
    reflections := w.reflections ++ reflected }

/-! ### Contexts -/

/-- Names a context. -/
def putContext (w : Workspace) (name : String) (context : Context) : Workspace :=
  { w with contexts := Keyed.insertEntry name context w.contexts }

/-- Names a context with a new registry, without looking at the settings. -/
def putFreshContext (w : Workspace) (name : String) (settings : Settings) : Workspace :=
  { w with registries := w.registries ++ [Registry.empty] }.putContext name
    ⟨w.registries.length, settings⟩

/-- A context with a registry of its own, if the settings are valid. -/
def openContext (w : Workspace) (name : String) (settings : Settings) : Except Error Workspace :=
  match settings.validate with
  | .ok _ => .ok (w.putFreshContext name settings)
  | .error e => .error e

/-- A context over the registry of another one, if the settings are valid. -/
def shareContext (w : Workspace) (name : String) (settings : Settings) (other : Context) :
    Except Error Workspace :=
  match settings.validate with
  | .ok _ => .ok (w.putContext name ⟨other.registry, settings⟩)
  | .error e => .error e

/-! ### Registries -/

/-- Resolves an entity of the catalogue in a registry. -/
def resolve (w : Workspace) (position : Nat) (key : EntityName) : Workspace × Table :=
  let e := w.entity position key
  let registry := w.registryAt position
  let (after, table) := registry.resolve e
  (w.settle position after (registry.reflected e.resolution), table)

/-- Registers a table in a registry, unless there is one under the key. -/
def insertNew (w : Workspace) (position : Nat) (key : EntityName) (table : Table) :
    Workspace × Bool :=
  let (after, inserted) := (w.registryAt position).insertNew key table
  (w.settle position after [], inserted)

/-! ### Queries -/

/-- Starts a query in a context. -/
def openQuery (w : Workspace) (name : String) (context : Context) (key : EntityName) :
    Workspace :=
  let e := w.entity context.registry key
  let registry := w.registryAt context.registry
  -- What is reflected is told from the registry as it was before.
  let state := QueryState.start registry context.settings e
  let w := w.settle context.registry state.registry (registry.reflected e.resolution)
  { w with queries := Keyed.insertEntry name ⟨context.registry, state.query⟩ w.queries }

/-- A query beside its registry. -/
def state (w : Workspace) (q : OpenQuery) : QueryState :=
  ⟨w.registryAt q.registry, q.query⟩

/-- A call on the query with a name; nothing happens if there is none. -/
def perform (w : Workspace) (name : String) (step : QueryStep) : Option (Answer × Workspace) :=
  match w.query? name with
  | none => none
  | some q =>
      let before := w.state q
      let (answer, after) := step.run before
      -- The registry is put back even if the call has failed: entities may have been resolved.
      let w := w.settle q.registry after.registry (step.reflected before)
      some (answer, { w with
        queries := Keyed.insertEntry name ⟨q.registry, after.query⟩ w.queries })

/-- The step that asks a query for the column of a field. -/
def fieldStep (w : Workspace) (q : OpenQuery) : FieldName → QueryStep
  | .own field => .column field
  | .of key field => .columnOf (w.entity q.registry key) field

/-- Finds the column of a field on the query with a name. -/
def findField (name : String) : Postfix.Lookup Workspace := fun f w =>
  match w.query? name with
  | none => (.error (.internal "no such query"), w)
  | some q =>
      match w.perform name (w.fieldStep q f) with
      | some (.column c, w) => (.ok c, w)
      | some (.failed e, w) => (.error e, w)
      | _ => (.error (.internal "no such query"), w)

end Workspace

end BoundSql
