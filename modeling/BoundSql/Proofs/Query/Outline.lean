import BoundSql.Proofs.Query.Parameters
import BoundSql.Proofs.Query.Sharing

namespace BoundSql

/-!
# Query — what a run asks for

A query overwrites some of what it is told, adds to some of it at the end and to some at the front.
What it comes to can be told from the calls and their answers alone: the last call of a kind is
found by searching them backwards, and calls that add up are picked out in their order.

* `Outline` — what calls ask for; `Outline.ofCalls` reads it off.
* `Outline.ofCalls_append` — one call more.
* `Query.Follows` — the query is as an outline says.
* `QueryStep.runAll_follows` — so is every query after its calls.
-/

/-! ### Outlines -/

/-- An entity that is joined, with the two columns that have to be equal. -/
structure JoinedEntity where
  key : EntityName
  left : Column
  right : Column
  deriving DecidableEq

/-- The join of the entity's table. -/
def JoinedEntity.join (tables : EntityName → Table) (j : JoinedEntity) : Join :=
  ⟨tables j.key, j.left, j.right⟩

/-- What calls on a query ask for, all in all. -/
structure Outline where
  distinct : Bool
  limit : Option UInt64
  projection : Projection
  /-- The entity that is selected instead of the query's own. -/
  selected : Option EntityName
  /-- The joins in the order of the calls. -/
  joins : List JoinedEntity
  /-- The sort keys, the one of the last call first. -/
  order : List SortKey
  /-- The conditions that were added, in the order of the calls. -/
  conditions : List Expr

namespace QueryStep

@[simp] def isDistinct : QueryStep → Bool
  | .distinct => true
  | _ => false

/-- The number of rows that a call limits the result to. -/
@[simp] def limit? : QueryStep → Option UInt64
  | .take n => some n
  | .first => some 1
  | _ => none

/-- What a call selects, unless it was refused. -/
@[simp] def projection? : QueryStep → Answer → Option Projection
  | .selectFields fields, .done => some (.fields fields)
  | .selectColumns columns, _ => some (.columns columns)
  | _, _ => none

@[simp] def selected? : QueryStep → Option EntityName
  | .selectEntity e => some e.key
  | _ => none

@[simp] def joined? : QueryStep → Option JoinedEntity
  | .join e left right => some ⟨e.key, left, right⟩
  | _ => none

@[simp] def sortKey? : QueryStep → Option SortKey
  | .orderBy c descending => some ⟨c, descending⟩
  | _ => none

end QueryStep

namespace Outline

/-- What calls tell of something: what the last one tells that tells anything of it. -/
def lastOf {α : Type} (told : QueryStep → Answer → Option α) (calls : List (QueryStep × Answer)) :
    Option α :=
  calls.reverse.findSome? fun call => told call.1 call.2

/-- **Reading off.**  What calls with these answers ask for. -/
def ofCalls (calls : List (QueryStep × Answer)) : Outline where
  distinct := calls.any fun call => call.1.isDistinct
  -- A limit of zero rows is none.
  limit := (lastOf (fun step _ => step.limit?) calls).filter (· ≠ 0)
  projection := (lastOf QueryStep.projection? calls).getD .all
  selected := lastOf (fun step _ => step.selected?) calls
  joins := calls.filterMap fun call => call.1.joined?
  order := (calls.filterMap fun call => call.1.sortKey?).reverse
  conditions := calls.flatMap fun call => call.1.added call.2

/-- One call more. -/
def after (o : Outline) : QueryStep → Answer → Outline
  | .filter e, .done => { o with conditions := o.conditions ++ [e] }
  | .orderBy column descending, _ => { o with order := ⟨column, descending⟩ :: o.order }
  | .join e left right, _ => { o with joins := o.joins ++ [⟨e.key, left, right⟩] }
  | .selectEntity e, _ => { o with selected := some e.key }
  | .selectFields fields, .done => { o with projection := .fields fields }
  | .selectColumns columns, _ => { o with projection := .columns columns }
  | .distinct, _ => { o with distinct := true }
  | .take n, _ => { o with limit := if n = 0 then none else some n }
  | .first, _ => { o with limit := some 1 }
  | _, _ => o

theorem lastOf_append {α : Type} (told : QueryStep → Answer → Option α)
    (calls : List (QueryStep × Answer)) (step : QueryStep) (answer : Answer) :
    lastOf told (calls ++ [(step, answer)]) = (told step answer).or (lastOf told calls) := by
  rw [lastOf, List.reverse_append, List.findSome?_append]
  cases h : told step answer <;> simp [h, lastOf]

/-- **One call more** is read off as what was read off before it, with what it asks for itself. -/
theorem ofCalls_append (calls : List (QueryStep × Answer)) (step : QueryStep) (answer : Answer) :
    ofCalls (calls ++ [(step, answer)]) = (ofCalls calls).after step answer := by
  have hone : ∀ {α : Type} (f : QueryStep × Answer → Option α),
      [(step, answer)].filterMap f = (f (step, answer)).toList := by
    intro α f
    cases h : f (step, answer) with
    | none => rw [List.filterMap_cons_none h]; rfl
    | some a => rw [List.filterMap_cons_some h]; rfl
  simp only [ofCalls, lastOf_append, List.any_append, List.filterMap_append, List.flatMap_append,
    List.any_cons, List.any_nil, List.flatMap_singleton, hone, List.reverse_append]
  -- What was read off before is only passed on.
  generalize (calls.any fun call => call.1.isDistinct) = distinct
  generalize calls.filterMap (fun call => call.1.joined?) = joins
  generalize (calls.filterMap fun call => call.1.sortKey?).reverse = keys
  generalize (calls.flatMap fun call => call.1.added call.2) = conditions
  generalize lastOf (fun step _ => step.limit?) calls = limit
  generalize lastOf (fun step _ => step.selected?) calls = selected
  generalize lastOf QueryStep.projection? calls = projection
  cases step with
  -- Whether these two ask for anything hangs on the answer.
  | filter e | selectFields fields => cases answer <;> simp [after, QueryStep.added]
  | take n => by_cases hn : n = 0 <;> simp [after, QueryStep.added, hn]
  | _ => simp [after, QueryStep.added]

end Outline

/-! ### Conditions under one binder -/

/-- The texts are those of the trees, written one after the other under a binder, and the binder
    that is left. -/
inductive Binder.Writes (binder : Binder) : List Expr → List ConditionText → Binder → Prop where
  | nil : Writes binder [] [] binder
  | snoc {trees : List Expr} {texts : List ConditionText} {before after : Binder} {e : Expr}
      {written : ConditionText} (h : Writes binder trees texts before)
      (hcompile : before.compile e = (.ok written, after)) :
      Writes binder (trees ++ [e]) (texts ++ [written]) after

/-! ### Queries that follow an outline -/

/-- The query is as the outline says: about an entity, under settings, and with the tables that
    the registry has. -/
structure Query.Follows (q : Query) (registry : Registry) (settings : Settings)
    (entity : EntityName) (o : Outline) : Prop where
  under : q.settings = settings
  about : q.entity = entity
  distinct : q.distinct = o.distinct
  limit : q.limit = o.limit
  projection : q.projection = o.projection
  selected : q.selected = o.selected
  joins : q.joins = o.joins.map (JoinedEntity.join registry.get)
  joined : ∀ j ∈ o.joins, (registry.lookup j.key).isSome = true
  order : q.order = o.order
  conditions : (Binder.new settings.naming).Writes o.conditions q.filters q.binder

namespace Query.Follows

variable {q : Query} {registry later : Registry} {settings : Settings} {entity : EntityName}
  {o : Outline}

/-- The tables of joined entities are registered, so that they do not change any more. -/
theorem within (h : q.Follows registry settings entity o) (hwithin : registry.Within later) :
    q.Follows later settings entity o := by
  have hjoins : o.joins.map (JoinedEntity.join registry.get)
      = o.joins.map (JoinedEntity.join later.get) := by
    refine List.map_congr_left fun j hj => ?_
    rw [JoinedEntity.join, JoinedEntity.join, hwithin.get (h.joined j hj)]
  have hjoined : ∀ j ∈ o.joins, (later.lookup j.key).isSome = true :=
    fun j hj => hwithin.isSome (h.joined j hj)
  exact { h with joins := by rw [h.joins, hjoins], joined := hjoined }

/-- The entities that are read are registered. -/
theorem isSome_lookup (h : q.Follows registry settings entity o)
    (hregistered : q.Registered registry) {key : EntityName}
    (hkey : key ∈ entity :: o.joins.map JoinedEntity.key) :
    (registry.lookup key).isSome = true := by
  rcases List.mem_cons.mp hkey with rfl | hkey
  · rw [← h.about]
    exact hregistered.entity
  · obtain ⟨j, hj, rfl⟩ := List.mem_map.mp hkey
    exact h.joined j hj

theorem start (registry : Registry) (settings : Settings) (key : EntityName) :
    (Query.new settings key).Follows registry settings key (Outline.ofCalls []) where
  under := rfl
  about := rfl
  distinct := rfl
  limit := rfl
  projection := rfl
  selected := rfl
  joins := rfl
  joined _ hj := absurd hj List.not_mem_nil
  order := rfl
  conditions := .nil

theorem filter {after : Query} (h : q.Follows registry settings entity o) {e : Expr}
    (hfilter : q.filter e = .ok after) :
    after.Follows registry settings entity { o with conditions := o.conditions ++ [e] } := by
  unfold Query.filter at hfilter
  split at hfilter
  · rename_i written binder hcompile
    cases hfilter
    exact { h with conditions := h.conditions.snoc hcompile }
  · exact absurd hfilter (by simp)

theorem selectFields {after : Query} (h : q.Follows registry settings entity o)
    {fields : List String} (hselect : q.selectFields registry fields = .ok after) :
    after.Follows registry settings entity { o with projection := .fields fields } := by
  unfold Query.selectFields at hselect
  split at hselect
  · cases hselect
    exact { h with projection := rfl }
  · exact absurd hselect (by simp)

/-- A join writes down the table that is found for the entity from then on. -/
theorem join (h : q.Follows registry settings entity o) (e : Entity) (left right : Column) :
    (q.join (registry.resolve e).2 left right).Follows (registry.resolve e).1 settings entity
      { o with joins := o.joins ++ [⟨e.key, left, right⟩] } := by
  have hwithin : registry.Within (registry.resolve e).1 := by
    rw [QueryStep.registry_resolve]
    exact registry.within_performAll [e.resolution]
  have hlater := h.within hwithin
  obtain ⟨hsome, hget⟩ := QueryStep.get_of_resolve e (Registry.Within.refl _)
  have hjoins : (q.join (registry.resolve e).2 left right).joins
      = (o.joins ++ [(⟨e.key, left, right⟩ : JoinedEntity)]).map
          (JoinedEntity.join (registry.resolve e).1.get) := by
    show q.joins ++ [⟨(registry.resolve e).2, left, right⟩] = _
    rw [List.map_append, hlater.joins, ← hget]
    rfl
  have hjoined : ∀ j ∈ o.joins ++ [(⟨e.key, left, right⟩ : JoinedEntity)],
      ((registry.resolve e).1.lookup j.key).isSome = true := by
    intro j hj
    rcases List.mem_append.mp hj with hold | hnew
    · exact hlater.joined j hold
    · rw [List.mem_singleton.mp hnew]
      exact hsome
  exact { hlater with joins := hjoins, joined := hjoined }

end Query.Follows

namespace QueryStep

variable {s : QueryState} {settings : Settings} {entity : EntityName} {o : Outline}

/-- **One call.**  The query follows its outline with what the call asks for. -/
theorem run_follows (h : s.query.Follows s.registry settings entity o) (step : QueryStep) :
    (run s step).2.query.Follows (run s step).2.registry settings entity
      (o.after step (run s step).1) := by
  have hwithin : s.registry.Within (run s step).2.registry := by
    rw [registry_run]
    exact s.registry.within_performAll step.calls
  cases step with
  | column field | sql | build => exact h
  | columnOf e field => exact h.within hwithin
  | filter e =>
    rw [run]
    cases hfilter : s.query.filter e with
    | ok after => exact h.filter hfilter
    | error error => exact h
  | orderBy c descending =>
    have horder : (s.query.orderBy c descending).order = ⟨c, descending⟩ :: o.order := by
      rw [← h.order]
      rfl
    exact { h with order := horder }
  | join e left right => exact h.join e left right
  | selectEntity e => exact { h.within hwithin with selected := rfl }
  | selectFields fields =>
    rw [run]
    cases hselect : s.query.selectFields s.registry fields with
    | ok after => exact h.selectFields hselect
    | error error => exact h
  | selectColumns columns => exact { h with projection := rfl }
  | distinct => exact { h with distinct := rfl }
  | take n => exact { h with limit := rfl }
  | first => exact { h with limit := rfl }

/-- All calls: the induction is on the calls, and what carries it is the outline of those that
    came before. -/
theorem runAll_follows {past : List (QueryStep × Answer)}
    (h : s.query.Follows s.registry settings entity (.ofCalls past)) (steps : List QueryStep) :
    (runAll s steps).2.query.Follows (runAll s steps).2.registry settings entity
      (.ofCalls (past ++ steps.zip (runAll s steps).1)) := by
  induction steps generalizing s past with
  | nil =>
    rw [List.zip_nil_left, List.append_nil]
    exact h
  | cons step rest ih =>
    have hstep := run_follows h step
    rw [← Outline.ofCalls_append] at hstep
    have hrest := ih hstep
    rw [List.append_assoc] at hrest
    exact hrest

/-- **A run** leaves the query as its calls and their answers ask for. -/
theorem runAll_start_follows (registry : Registry) (settings : Settings) (entity : Entity)
    (steps : List QueryStep) :
    let start := QueryState.start registry settings entity
    (runAll start steps).2.query.Follows (runAll start steps).2.registry settings entity.key
      (.ofCalls (steps.zip (runAll start steps).1)) := by
  intro start
  have hstart : start.query.Follows start.registry settings entity.key (.ofCalls []) :=
    Query.Follows.start _ settings entity.key
  exact runAll_follows hstart steps

/-! ### The registry of a run -/

/-- Calls one after the other. -/
theorem state_runAll_append (s : QueryState) (a b : List QueryStep) :
    (runAll s (a ++ b)).2 = (runAll (runAll s a).2 b).2 := by
  induction a generalizing s with
  | nil => rfl
  | cons step rest ih => exact ih (run s step).2

theorem length_runAll (s : QueryState) (steps : List QueryStep) :
    (runAll s steps).1.length = steps.length := by
  induction steps generalizing s with
  | nil => rfl
  | cons step rest ih => exact congrArg Nat.succ (ih (run s step).2)

/-- The joins of a run can be told without the answers. -/
theorem joins_ofCalls_runAll (s : QueryState) (steps : List QueryStep) :
    (Outline.ofCalls (steps.zip (runAll s steps).1)).joins = steps.filterMap joined? := by
  show (steps.zip (runAll s steps).1).filterMap (joined? ∘ Prod.fst) = _
  rw [← List.filterMap_map, List.map_fst_zip (length_runAll s steps).ge]

/-- After a run the registry has had the calls that its calls make, and no others. -/
theorem registry_runAll (s : QueryState) (steps : List QueryStep) :
    (runAll s steps).2.registry = s.registry.performAll (steps.flatMap calls) := by
  induction steps generalizing s with
  | nil => rfl
  | cons step rest ih =>
    have hrest := ih (run s step).2
    rw [registry_run] at hrest
    rw [List.flatMap_cons, Registry.performAll_append]
    exact hrest

theorem within_runAll (s : QueryState) (steps : List QueryStep) :
    s.registry.Within (runAll s steps).2.registry := by
  rw [registry_runAll]
  exact s.registry.within_performAll _

/-- The registry of a new query has had the calls before it, then the one for its own entity, and
    then those of the run. -/
theorem registry_runAll_start (past : List Call) (settings : Settings) (entity : Entity)
    (steps : List QueryStep) :
    (runAll (.start (Registry.empty.performAll past) settings entity) steps).2.registry
      = Registry.empty.performAll (past ++ entity.resolution :: steps.flatMap calls) := by
  rw [registry_runAll, Registry.performAll_append]
  show ((Registry.empty.performAll past).resolve entity).1.performAll _ = _
  rw [registry_resolve, ← Registry.performAll_append]
  rfl

/-- No registered entity is without an alias in the end. -/
theorem rowAlias_ne_empty_runAll_start (past : List Call) (settings : Settings) (entity : Entity)
    (steps : List QueryStep) {key : EntityName}
    (h : ((runAll (.start (Registry.empty.performAll past) settings entity) steps).2.registry.lookup
      key).isSome = true) :
    ((runAll (.start (Registry.empty.performAll past) settings entity) steps).2.registry.get
      key).rowAlias ≠ "" := by
  rw [registry_runAll_start] at h ⊢
  exact Registry.rowAlias_ne_empty_performAll h

theorem registered_runAll (h : s.query.Registered s.registry) (steps : List QueryStep) :
    (runAll s steps).2.query.Registered (runAll s steps).2.registry := by
  induction steps generalizing s with
  | nil => exact h
  | cons step rest ih => exact ih (h.run step)

end QueryStep

end BoundSql
