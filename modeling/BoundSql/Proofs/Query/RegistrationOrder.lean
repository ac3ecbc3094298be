import BoundSql.Proofs.Query.Step
import BoundSql.Proofs.Registry.Agreement
import BoundSql.Proofs.Registry.Orders

namespace BoundSql

/-!
# Query — over registries that cannot be told apart

A query reads tables and resolves entities, and never looks at a registry otherwise.  So over
registries that differ in the order of their entries only, the same calls have the same answers;
and registrations whose aliases do not clash can change places, as long as those without an alias
keep their order.

* `Query.sql_congr` — a statement is assembled from the tables that are found.
* `QueryStep.run_agrees`, `QueryStep.runAll_agrees` — calls over registries that agree.
* `QueryStep.runAll_registrationOrder` — registrations in another order.
-/

namespace Query

variable {a b : Registry}

theorem selectFields_congr (h : a.Agrees b) (q : Query) (fields : List String) :
    q.selectFields a fields = q.selectFields b fields := by
  rw [selectFields, selectFields, h.get]

theorem column_congr (h : a.Agrees b) (q : Query) (field : String) :
    q.column a field = q.column b field := by
  rw [column, column, h.get]

theorem sql_congr (h : a.Agrees b) (q : Query) : q.sql a = q.sql b := by
  rw [sql, sql, select, select, h.get, h.get]

theorem build_congr (h : a.Agrees b) (q : Query) : q.build a = q.build b := by
  rw [build, build, sql_congr h]

end Query

/-- The query is the same, and the registries cannot be told apart. -/
structure QueryState.Agrees (s t : QueryState) : Prop where
  registry : s.registry.Agrees t.registry
  query : s.query = t.query

namespace QueryState.Agrees

theorem change {s t : QueryState} (h : s.Agrees t) (x : Except Error Query) :
    (s.change x).1 = (t.change x).1 ∧ (s.change x).2.Agrees (t.change x).2 := by
  cases x with
  | ok query => exact ⟨rfl, h.registry, rfl⟩
  | error e => exact ⟨rfl, h⟩

theorem start {a b : Registry} (h : a.Agrees b) (settings : Settings) (e : Entity) :
    (QueryState.start a settings e).Agrees (.start b settings e) :=
  ⟨(h.resolve e).1, rfl⟩

end QueryState.Agrees

namespace QueryStep

open Registry

variable {s t : QueryState}

/-- **One call** has the same answer, and the states agree afterwards. -/
theorem run_agrees (h : s.Agrees t) (step : QueryStep) :
    (run s step).1 = (run t step).1 ∧ (run s step).2.Agrees (run t step).2 := by
  obtain ⟨a, q⟩ := s
  obtain ⟨b, q'⟩ := t
  obtain ⟨hregistry, hquery⟩ := h
  have hsame : q = q' := hquery
  subst hsame
  have hstate : QueryState.Agrees ⟨a, q⟩ ⟨b, q⟩ := ⟨hregistry, rfl⟩
  cases step with
  | column field =>
    have hcolumn := Query.column_congr hregistry q field
    exact ⟨congrArg (Answer.ofExcept .column) hcolumn, hstate⟩
  | columnOf e field =>
    obtain ⟨hresolved, htable⟩ := hregistry.resolve e
    refine ⟨?_, hresolved, rfl⟩
    show Answer.ofExcept .column (Query.columnOf e.key (a.resolve e).2 field) = _
    rw [htable]
    rfl
  | join e left right =>
    obtain ⟨hresolved, htable⟩ := hregistry.resolve e
    refine ⟨rfl, hresolved, ?_⟩
    show q.join (a.resolve e).2 left right = _
    rw [htable]
    rfl
  | selectEntity e => exact ⟨rfl, (hregistry.resolve e).1, rfl⟩
  | selectFields fields =>
    rw [run, run, Query.selectFields_congr hregistry]
    exact hstate.change _
  | sql => exact ⟨congrArg (Answer.ofExcept .text) (Query.sql_congr hregistry q), hstate⟩
  | build =>
    have hbuild := Query.build_congr hregistry q
    exact ⟨congrArg (Answer.ofExcept .statement) hbuild, hstate⟩
  | _ => exact hstate.change _

/-- **All calls** have the same answers, and the states agree afterwards. -/
theorem runAll_agrees (h : s.Agrees t) (steps : List QueryStep) :
    (runAll s steps).1 = (runAll t steps).1 ∧ (runAll s steps).2.Agrees (runAll t steps).2 := by
  induction steps generalizing s t with
  | nil => exact ⟨rfl, h⟩
  | cons step rest ih =>
    obtain ⟨hanswer, hstep⟩ := run_agrees h step
    obtain ⟨hanswers, hrest⟩ := ih hstep
    refine ⟨?_, hrest⟩
    show (run s step).1 :: (runAll (run s step).2 rest).1 = _
    rw [hanswer, hanswers]
    rfl

/-- **Registrations in another order.**  Let calls register entities in a new registry, in any way
    and more than once, and look at the first registration of each of them.  Let the aliases that
    these declare be different from each other, and none of them of the form in which aliases are
    generated; and let there be fewer than `UInt32.size` without an alias.  Then an entity that
    declares an alias is registered with the table that it supplies, and the others with theirs and
    with the aliases `t1`, `t2` and so on, in their order; nothing else is registered.  Let other
    calls come to the same first registrations in another order, but with those without an alias in
    the same one.  Then the same is found under every key, and a new query has the same answers over
    either registry, and the same statement in the end, whatever calls are made on it. -/
theorem runAll_registrationOrder {calls : List Call} (hunclashing : Unclashing (firstsOf calls))
    (hroom : ((firstsOf calls).filter Registration.isBare).length < UInt32.size) :
    let registry := empty.performAll calls
    (∀ r ∈ firstsOf calls, r.isBare = false → registry.lookup r.key = some r.table) ∧
      (∀ (k : Nat) (r : Registration), ((firstsOf calls).filter Registration.isBare)[k]? = some r →
        registry.lookup r.key
          = some { r.table with rowAlias := "t" ++ Decimal.numeral (k + 1) }) ∧
      (∀ key ∉ (firstsOf calls).map Registration.key, registry.lookup key = none) ∧
      ∀ other, (firstsOf other).Perm (firstsOf calls) →
        (firstsOf other).filter Registration.isBare
          = (firstsOf calls).filter Registration.isBare →
        (∀ key, (empty.performAll other).lookup key = registry.lookup key) ∧
          ∀ settings entity steps,
            let done := runAll (.start registry settings entity) steps
            let done' := runAll (.start (empty.performAll other) settings entity) steps
            done'.1 = done.1 ∧
              done'.2.query.build done'.2.registry = done.2.query.build done.2.registry := by
  intro registry
  obtain ⟨hdeclared, hnumbered, -⟩ := (ready_empty hunclashing hroom).registerAll
  rw [← performAll_firstsOf] at hdeclared hnumbered
  refine ⟨hdeclared, ?_, fun key => lookup_of_not_mem_firstsOf, fun other hsame hbare => ?_⟩
  · intro k r hk
    rw [hnumbered k r hk, Nat.zero_add]
  · obtain ⟨hlookup, hcounter⟩ := lookup_eq_of_perm hunclashing hroom hsame hbare
    refine ⟨hlookup, fun settings entity steps => ?_⟩
    have hagrees : (empty.performAll other).Agrees registry := agrees_performAll hlookup hcounter
    obtain ⟨hanswers, hdone⟩ :=
      runAll_agrees (QueryState.Agrees.start hagrees settings entity) steps
    refine ⟨hanswers, ?_⟩
    rw [hdone.query, Query.build_congr hdone.registry]

/-- Two entities declare aliases and two do not; some are registered again, one of them with another
    table. -/
theorem runAll_registrationOrder_mixed :
    let user := Entity.plain ⟨"User"⟩ ⟨"u", none, "users", Keyed.ofList [("Id", "id")]⟩
    let item := Entity.plain ⟨"Item"⟩ ⟨"i", none, "items", Keyed.ofList [("Id", "id")]⟩
    let note := Entity.plain ⟨"Note"⟩ ((Table.new "notes").addColumns [("Text", "text")])
    let tag := Entity.plain ⟨"Tag"⟩ ((Table.new "tags").addColumns [("Name", "name")])
    let calls : List Call := [user.resolution, .insertNew note.key note.table, user.resolution,
      .insertNew tag.key tag.table, item.resolution]
    let other : List Call := [.insertNew item.key item.table, note.resolution,
      .insertNew note.key (.new "late"), tag.resolution, .insertNew user.key user.table]
    let steps : List QueryStep := [.join item (.bare "id") (.qualified "i" "id"),
      .selectEntity tag, .sql]
    (empty.performAll calls).entries ≠ (empty.performAll other).entries ∧
      (empty.performAll other).lookup tag.key = some { tag.table with rowAlias := "t2" } ∧
      (runAll (.start (empty.performAll other) .standard note) steps).1
        = (runAll (.start (empty.performAll calls) .standard note) steps).1 := by
  intro user item note tag calls other steps
  have hunclashing : Unclashing (firstsOf calls) := by
    refine ⟨by decide, fun r hr n hn heq => ?_⟩
    have hstart : ∀ r ∈ firstsOf calls, r.table.rowAlias.toList.head? ≠ some 't' := by decide
    refine hstart r hr ?_
    rw [heq, String.toList_append]
    rfl
  have hsame : (firstsOf other).Perm (firstsOf calls) := by decide
  obtain ⟨-, hnumbered, -, horders⟩ := runAll_registrationOrder hunclashing (by decide)
  obtain ⟨hlookup, hruns⟩ := horders other hsame (by decide)
  have htag : (empty.performAll calls).lookup tag.key = some { tag.table with rowAlias := "t2" } :=
    hnumbered 1 ⟨tag.key, tag.table⟩ (by decide)
  exact ⟨by decide, (hlookup tag.key).trans htag, (hruns .standard note steps).1⟩

end QueryStep

end BoundSql
