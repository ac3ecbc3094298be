import BoundSql.Proofs.Query.Step
import BoundSql.Proofs.Registry.Aliases

namespace BoundSql

/-!
# Query — many queries over one registry

Queries, contexts and anyone else who holds a registry register entities in it at any time.  A
query reads the tables of two entities from it whenever its statement is assembled, and writes
down the tables of others when they are joined or when a column of theirs is asked for.  The two
entities are registered from the beginning on, and entries stand, so that nobody can change what
a statement says; and an entity has one name and one alias in everything that is ever written.

* `Shared`, `SharedStep` — queries over one registry, and what happens to them.
* `Query.Registered` — the entities that the query reads are registered.
* `QueryStep.Names` — what a call writes names entities as their tables do.
* `Shared.runAll_unaffected` — others do not change a statement.
-/

/-! ### The entities of a query -/

namespace Query

/-- The query's own entity and the one that it selects are registered. -/
structure Registered (q : Query) (registry : Registry) : Prop where
  entity : (registry.lookup q.entity).isSome = true
  selected : (registry.lookup q.selectedEntity).isSome = true

namespace Registered

variable {q : Query} {registry later : Registry}

theorem within (h : q.Registered registry) (hwithin : registry.Within later) :
    q.Registered later :=
  ⟨hwithin.isSome h.entity, hwithin.isSome h.selected⟩

theorem start (registry : Registry) (settings : Settings) (e : Entity) :
    (QueryState.start registry settings e).query.Registered
      (QueryState.start registry settings e).registry := by
  have hlookup : ((registry.resolve e).1.lookup e.key).isSome = true := by
    rw [Registry.lookup_resolve]
    rfl
  exact ⟨hlookup, hlookup⟩

/-- **One call.**  A query stays registered, because an entity is registered before it is
    selected. -/
theorem run {s : QueryState} (h : s.query.Registered s.registry) (step : QueryStep) :
    (QueryStep.run s step).2.query.Registered (QueryStep.run s step).2.registry := by
  have hwithin : s.registry.Within (QueryStep.run s step).2.registry := by
    rw [QueryStep.registry_run]
    exact s.registry.within_performAll step.calls
  have hold := h.within hwithin
  by_cases hselect : ∃ e, step = .selectEntity e
  · obtain ⟨e, rfl⟩ := hselect
    refine ⟨hold.entity, ?_⟩
    show ((s.registry.resolve e).1.lookup e.key).isSome = true
    rw [Registry.lookup_resolve]
    rfl
  · rw [not_exists] at hselect
    constructor
    · rw [QueryStep.entity_run]
      exact hold.entity
    · rw [selectedEntity, QueryStep.selected_run s hselect, QueryStep.entity_run]
      exact hold.selected

/-- A statement is assembled from the tables of these two entities. -/
theorem sql (h : q.Registered registry) (hwithin : registry.Within later) :
    q.sql later = q.sql registry := by
  unfold Query.sql select
  rw [hwithin.get h.entity, hwithin.get h.selected]

theorem build (h : q.Registered registry) (hwithin : registry.Within later) :
    q.build later = q.build registry := by
  unfold Query.build
  rw [h.sql hwithin]

end Registered

end Query

/-! ### What is written -/

namespace QueryStep

/-- What a call on a query writes names every entity as its table does: a column that is asked
    for stands behind the alias of its entity, a join is written with the name and the alias of
    the joined one, and a statement names its two entities. -/
structure Names (step : QueryStep) (tables : EntityName → Table) (s : QueryState) : Prop where
  columnOf : ∀ e field c, step = .columnOf e field → (step.run s).1 = .column c →
    c.qualifier = some (tables e.key).rowAlias
  join : ∀ e left right, step = .join e left right →
    String.join ((step.run s).2.query.joins.map Join.text) =
      String.join (s.query.joins.map Join.text)
        ++ (" JOIN " ++ (tables e.key).sqlName ++ " " ++ (tables e.key).rowAlias
          ++ " ON " ++ left.text ++ " = " ++ right.text)
  sql : ∀ text, step = .sql → (step.run s).1 = .text text → s.query.Names tables text
  build : ∀ statement, step = .build → (step.run s).1 = .statement statement →
    s.query.Names tables statement.sql

/-- A column of an entity that is found stands behind the alias of the entity. -/
theorem qualifier_columnOf {key : EntityName} {table : Table} {field : String} {c : Column}
    (h : Query.columnOf key table field = .ok c) : c.qualifier = some table.rowAlias := by
  unfold Query.columnOf at h
  split at h
  · cases h
    rfl
  · exact absurd h (by simp)

/-- What is resolved now is what is found at any time later. -/
theorem get_of_resolve {registry later : Registry} (e : Entity)
    (hwithin : (registry.resolve e).1.Within later) :
    (later.lookup e.key).isSome = true ∧ later.get e.key = (registry.resolve e).2 := by
  have hlookup := hwithin e.key _ (registry.lookup_resolve e)
  rw [Registry.get, hlookup]
  exact ⟨rfl, rfl⟩

/-- **One call** names entities as any later registry does. -/
theorem names_of_within {s : QueryState} {later : Registry} (step : QueryStep)
    (h : s.query.Registered s.registry) (hwithin : (run s step).2.registry.Within later)
    (hnamed : ∀ key, (later.lookup key).isSome = true → (later.get key).rowAlias ≠ "") :
    step.Names later.get s := by
  have hbefore : s.registry.Within later := by
    refine Registry.Within.trans ?_ hwithin
    rw [registry_run]
    exact s.registry.within_performAll step.calls
  have hlater := h.within hbefore
  have hstatement : ∀ text, s.query.sql s.registry = .ok text →
      s.query.Names later.get text := by
    intro text htext
    rw [← h.sql hbefore] at htext
    exact Query.names_of_sql (hnamed _ hlater.entity) (hnamed _ hlater.selected) htext
  constructor
  · rintro e field c rfl hanswer
    obtain ⟨-, hget⟩ := get_of_resolve e hwithin
    obtain ⟨column, hcolumn, heq⟩ := Answer.exists_of_ofExcept hanswer (by simp)
    rw [hget, ← Answer.column.inj heq]
    exact qualifier_columnOf hcolumn
  · rintro e left right rfl
    obtain ⟨hsome, hget⟩ := get_of_resolve e hwithin
    have hintroduction := Table.introduction_of_named (hnamed e.key hsome)
    have hjoins : (run s (.join e left right)).2.query.joins
        = s.query.joins ++ [{ table := (s.registry.resolve e).2, left, right }] := rfl
    rw [hget] at hintroduction ⊢
    rw [hjoins, List.map_append, String.join_append, List.map_singleton, Join.text, hintroduction]
    simp [String.append_assoc]
  · rintro text rfl hanswer
    obtain ⟨sql, hsql, heq⟩ := Answer.exists_of_ofExcept hanswer (by simp)
    rw [← Answer.text.inj heq]
    exact hstatement sql hsql
  · rintro statement rfl hanswer
    obtain ⟨built, hbuilt, heq⟩ := Answer.exists_of_ofExcept hanswer (by simp)
    rw [← Answer.statement.inj heq]
    exact hstatement built.sql (Query.sql_of_build hbuilt)

end QueryStep

/-! ### Many queries -/

/-- Queries over one registry, known by their places. -/
structure Shared where
  registry : Registry
  queries : List Query

/-- What happens to queries over one registry. -/
inductive SharedStep where
  /-- A call on the registry itself, by a context or by anyone else who holds it. -/
  | call (c : Call)
  /-- A new query behind the others, under the settings of any context. -/
  | start (settings : Settings) (e : Entity)
  /-- A call on the query at a place. -/
  | use (place : Nat) (step : QueryStep)

namespace SharedStep

/-- Is it a call on the query at the place? -/
def Uses (place : Nat) : SharedStep → Prop
  | .use other _ => other = place
  | _ => False

end SharedStep

namespace Shared

/-- A new registry, over which there is no query yet. -/
def new : Shared := ⟨.empty, []⟩

/-- The query at a place beside the registry, once it was called. -/
def run (s : Shared) : SharedStep → Shared
  | .call c => { s with registry := s.registry.perform c }
  | .start settings e =>
      let state := QueryState.start s.registry settings e
      ⟨state.registry, s.queries ++ [state.query]⟩
  | .use place step =>
      match s.queries[place]? with
      | none => s
      | some q =>
          let state := (step.run ⟨s.registry, q⟩).2
          ⟨state.registry, s.queries.set place state.query⟩

theorem run_use_of_none {s : Shared} {place : Nat} (h : s.queries[place]? = none)
    (step : QueryStep) : s.run (.use place step) = s := by
  rw [run, h]

theorem run_use_of_some {s : Shared} {place : Nat} {q : Query} (h : s.queries[place]? = some q)
    (step : QueryStep) :
    s.run (.use place step) = ⟨(step.run ⟨s.registry, q⟩).2.registry,
      s.queries.set place (step.run ⟨s.registry, q⟩).2.query⟩ := by
  rw [run, h]

/-- After all of it, in order. -/
def runAll (s : Shared) (steps : List SharedStep) : Shared := steps.foldl run s

theorem runAll_append (s : Shared) (a b : List SharedStep) :
    s.runAll (a ++ b) = (s.runAll a).runAll b := List.foldl_append

/-! ### The registry -/

theorem exists_calls_run (s : Shared) (step : SharedStep) :
    ∃ calls, (s.run step).registry = s.registry.performAll calls := by
  cases step with
  | call c => exact ⟨[c], rfl⟩
  | start settings e =>
    refine ⟨[e.resolution], ?_⟩
    show (s.registry.resolve e).1 = s.registry.perform e.resolution
    rw [Registry.perform_resolution]
  | use place step =>
    cases hplace : s.queries[place]? with
    | none => exact ⟨[], by rw [run_use_of_none hplace]; rfl⟩
    | some q =>
      refine ⟨step.calls, ?_⟩
      rw [run_use_of_some hplace]
      exact QueryStep.registry_run ⟨s.registry, q⟩ step

/-- Whatever happens, the registry has had calls and nothing else. -/
theorem exists_calls_runAll (s : Shared) (steps : List SharedStep) :
    ∃ calls, (s.runAll steps).registry = s.registry.performAll calls := by
  induction steps generalizing s with
  | nil => exact ⟨[], rfl⟩
  | cons step rest ih =>
    obtain ⟨first, hfirst⟩ := s.exists_calls_run step
    obtain ⟨others, hothers⟩ := ih (s.run step)
    refine ⟨first ++ others, ?_⟩
    rw [Registry.performAll_append, ← hfirst, ← hothers]
    rfl

theorem within_runAll (s : Shared) (steps : List SharedStep) :
    s.registry.Within (s.runAll steps).registry := by
  obtain ⟨calls, hcalls⟩ := s.exists_calls_runAll steps
  rw [hcalls]
  exact s.registry.within_performAll calls

/-- No registered entity is without an alias. -/
theorem rowAlias_ne_empty (steps : List SharedStep) {key : EntityName}
    (h : ((new.runAll steps).registry.lookup key).isSome = true) :
    ((new.runAll steps).registry.get key).rowAlias ≠ "" := by
  obtain ⟨calls, hcalls⟩ := new.exists_calls_runAll steps
  rw [hcalls] at h ⊢
  exact Registry.rowAlias_ne_empty_performAll h

/-! ### The queries -/

/-- All queries are registered. -/
def Registered (s : Shared) : Prop := ∀ q ∈ s.queries, q.Registered s.registry

/-- **One step** keeps every query registered: the one that is called, the one that is new, and
    those that have no part in it. -/
theorem Registered.run {s : Shared} (h : s.Registered) (step : SharedStep) :
    (s.run step).Registered := by
  have hwithin : s.registry.Within (s.run step).registry := s.within_runAll [step]
  intro q hq
  cases step with
  | call c => exact (h q hq).within hwithin
  | start settings e =>
    rcases List.mem_append.mp hq with hold | hnew
    · exact (h q hold).within hwithin
    · rw [List.mem_singleton] at hnew
      rw [hnew]
      exact Query.Registered.start s.registry settings e
  | use place step =>
    cases hplace : s.queries[place]? with
    | none =>
      rw [run_use_of_none hplace] at hq ⊢
      exact h q hq
    | some called =>
      rw [run_use_of_some hplace] at hq hwithin ⊢
      rcases List.mem_or_eq_of_mem_set hq with hold | rfl
      · exact (h q hold).within hwithin
      · exact Query.Registered.run (h called (List.mem_of_getElem? hplace)) step

theorem Registered.runAll {s : Shared} (h : s.Registered) (steps : List SharedStep) :
    (s.runAll steps).Registered := by
  induction steps generalizing s with
  | nil => exact h
  | cons step rest ih => exact ih (h.run step)

theorem registered_new : new.Registered := by
  intro q hq
  exact absurd hq List.not_mem_nil

/-- What is no call on a query leaves it in its place. -/
theorem getElem?_run {s : Shared} {place : Nat} {q : Query} (h : s.queries[place]? = some q)
    {step : SharedStep} (hother : ¬ step.Uses place) : (s.run step).queries[place]? = some q := by
  cases step with
  | call c => exact h
  | start settings e =>
    show (s.queries ++ _)[place]? = some q
    rw [List.getElem?_append_left (List.getElem?_eq_some_iff.mp h).1, h]
  | use other step =>
    cases hplace : s.queries[other]? with
    | none => rw [run_use_of_none hplace, h]
    | some called =>
      rw [run_use_of_some hplace]
      show (s.queries.set other _)[place]? = some q
      rw [List.getElem?_set_ne hother, h]

theorem getElem?_runAll {s : Shared} {place : Nat} {q : Query} (h : s.queries[place]? = some q)
    {steps : List SharedStep} (hothers : ∀ step ∈ steps, ¬ step.Uses place) :
    (s.runAll steps).queries[place]? = some q := by
  induction steps generalizing s with
  | nil => exact h
  | cons step rest ih =>
    exact ih (getElem?_run h (hothers step List.mem_cons_self))
      fun later hlater => hothers later (List.mem_cons_of_mem step hlater)

/-! ### Statements and names -/

/-- **Others do not matter.**  Let anything happen over a new registry: calls on the registry by
    anyone, with any tables and nested in reflections in any way, queries that are begun under any
    settings, and calls on them.  A query that is there then has the same text, the same
    parameters and the same failures after anything that happens but calls on itself.  And
    everything that was written on the way, by whatever query and whenever, names an entity as the
    one table does that is found under its key in the end. -/
theorem runAll_unaffected (past : List SharedStep) :
    let s := new.runAll past
    (∀ place q, s.queries[place]? = some q →
        ∀ others : List SharedStep, (∀ step ∈ others, ¬ step.Uses place) →
          (s.runAll others).queries[place]? = some q ∧
            q.sql (s.runAll others).registry = q.sql s.registry ∧
            q.build (s.runAll others).registry = q.build s.registry) ∧
      ∀ before place step after q, past = before ++ .use place step :: after →
        (new.runAll before).queries[place]? = some q →
        step.Names s.registry.get ⟨(new.runAll before).registry, q⟩ := by
  intro s
  constructor
  · intro place q hplace others hothers
    have hregistered := registered_new.runAll past q (List.mem_of_getElem? hplace)
    have hwithin := s.within_runAll others
    exact ⟨getElem?_runAll hplace hothers, hregistered.sql hwithin, hregistered.build hwithin⟩
  · rintro before place step after q rfl hplace
    have hregistered := registered_new.runAll before q (List.mem_of_getElem? hplace)
    refine QueryStep.names_of_within step hregistered ?_ fun key => rowAlias_ne_empty _
    -- What follows the call happens to the registry that the call leaves.
    have hafter : s = ((new.runAll before).run (.use place step)).runAll after :=
      runAll_append new before (.use place step :: after)
    have hwithin := ((new.runAll before).run (.use place step)).within_runAll after
    rw [run_use_of_some hplace] at hwithin hafter
    rw [hafter]
    exact hwithin

end Shared

end BoundSql
