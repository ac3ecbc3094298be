import BoundSql.Proofs.Query.Step

namespace BoundSql

/-!
# Query — one run in two dialects

The dialect is a setting that no call looks at; it is asked for when the text of a statement is
written, and then only for what stands between two columns and for the place of the limit.  So
two runs of the same calls under settings that differ in the dialect go through states that differ
in the dialect, and their texts are put together from the same parts.

* `Query.InDialects` — two texts that are one statement in the two dialects.
* `QueryStep.runAll_inDialect` — the states of a run in another dialect.
* `QueryStep.runAll_dialects` — the answers of two runs.
-/

namespace Query

/-- The query with its statement in another dialect. -/
def inDialect (q : Query) (dialect : Dialect) : Query :=
  { q with settings := { q.settings with dialect } }

/-- The texts are one statement of the query in the two dialects.  In both of them `SELECT` stands
    in front, behind it the columns, and behind these the source, the joins, the condition and
    the order.  The columns are joined by `" , "` in the one and by `", "` in the other, and a
    blank ends them if there are any; the limit, if there is one, stands at the end of the one as
    `LIMIT` and in front of the columns of the other as `TOP`. -/
def InDialects (q : Query) (registry : Registry) (standard transactSql : String) : Prop :=
  ∃ columns, q.selectedColumns (registry.get q.selectedEntity) = .ok columns ∧
    let head := if q.distinct then "SELECT DISTINCT " else "SELECT "
    let names := columns.values.map (Select.columnText (registry.get q.selectedEntity).rowAlias)
    let joined := fun (separator : String) =>
      if names = [] then "" else separator.intercalate names ++ " "
    let body := "FROM " ++ (registry.get q.entity).introduction
      ++ String.join (q.joins.map Join.text) ++ Select.clause " WHERE " q.condition
      ++ Select.clause " ORDER BY " q.orderClause
    match q.limit with
    | none =>
        standard = head ++ joined " , " ++ body ∧ transactSql = head ++ joined ", " ++ body
    | some n =>
        standard = head ++ joined " , " ++ body
            ++ (" LIMIT(" ++ Decimal.numeral n.toNat ++ ")") ∧
          transactSql = head ++ ("TOP(" ++ Decimal.numeral n.toNat ++ ") ") ++ joined ", " ++ body

variable {q : Query} {registry : Registry}

/-- The parts of a statement do not depend on the dialect that they are written in. -/
theorem sql_inDialect (q : Query) (registry : Registry) (dialect : Dialect) :
    (q.inDialect dialect).sql registry = (q.select registry).map dialect.write := rfl

theorem columnList_parts (q : Query) (registry : Registry) (columns : FieldMap)
    (separator : String) :
    (q.parts registry columns).columnList separator =
      if columns.values.map (Select.columnText (registry.get q.selectedEntity).rowAlias) = [] then ""
      else separator.intercalate
        (columns.values.map (Select.columnText (registry.get q.selectedEntity).rowAlias)) ++ " " := by
  have hempty : columns.values.isEmpty = true ↔ columns.values.map
      (Select.columnText (registry.get q.selectedEntity).rowAlias) = [] := by
    rw [List.isEmpty_iff, List.map_eq_nil_iff]
  rw [Select.columnList_eq]
  exact if_congr hempty rfl rfl

/-- The parts of a statement, written in the two dialects. -/
theorem inDialects_of_select {select : Select} (h : q.select registry = .ok select) :
    q.InDialects registry (Dialect.standard.write select) (Dialect.transactSql.write select) := by
  obtain ⟨columns, hcolumns, rfl⟩ := exists_columns_of_select h
  refine ⟨columns, hcolumns, ?_⟩
  have hlimit : (q.parts registry columns).limit = q.limit := rfl
  have hbody : (q.parts registry columns).body = "FROM " ++ (registry.get q.entity).introduction
      ++ String.join (q.joins.map Join.text) ++ Select.clause " WHERE " q.condition
      ++ Select.clause " ORDER BY " q.orderClause := rfl
  simp only [Dialect.write, columnList_parts, Dialect.separator, Dialect.leadingLimit,
    Dialect.trailingLimit, hlimit, hbody]
  cases q.limit with
  | none =>
    simp only [Select.limitText, String.append_empty]
    exact ⟨rfl, rfl⟩
  | some n =>
    -- The blank behind the limit in front of the columns belongs to its closing parenthesis.
    have htop : "TOP" ++ "(" ++ Decimal.numeral n.toNat ++ ")" ++ " "
        = "TOP(" ++ Decimal.numeral n.toNat ++ ") " := by
      rw [String.append_assoc]
      rfl
    simp only [Select.limitText, String.append_empty, htop]
    exact ⟨rfl, rfl⟩

end Query

/-- The answers are equal, or one statement of the query in the two dialects, with the same
    parameters. -/
def Answer.InDialects (q : Query) (registry : Registry) : Answer → Answer → Prop
  | .text a, .text b => q.InDialects registry a b
  | .statement a, .statement b => a.parameters = b.parameters ∧ q.InDialects registry a.sql b.sql
  | a, b => a = b

namespace Answer

variable (q : Query) (registry : Registry)

theorem inDialects_column (x : Except Error Column) :
    InDialects q registry (.ofExcept .column x) (.ofExcept .column x) := by
  cases x <;> exact rfl

theorem inDialects_change (s : QueryState) (x : Except Error Query) :
    InDialects q registry (s.change x).1 (s.change x).1 := by
  cases x <;> exact rfl

end Answer

namespace Query

/-- The text of a query in the two dialects, or the failure to write it. -/
theorem inDialects_sql (q : Query) (registry : Registry) :
    Answer.InDialects q registry (.ofExcept .text ((q.inDialect .standard).sql registry))
      (.ofExcept .text ((q.inDialect .transactSql).sql registry)) := by
  rw [sql_inDialect, sql_inDialect]
  cases hselect : q.select registry with
  | ok select => exact inDialects_of_select hselect
  -- Without the failure given, the two ways to write the text would be compared.
  | error e => exact (rfl : Answer.failed e = .failed e)

theorem inDialects_build (q : Query) (registry : Registry) :
    Answer.InDialects q registry (.ofExcept .statement ((q.inDialect .standard).build registry))
      (.ofExcept .statement ((q.inDialect .transactSql).build registry)) := by
  rw [build, build, sql_inDialect, sql_inDialect]
  cases hselect : q.select registry with
  | ok select => exact ⟨rfl, inDialects_of_select hselect⟩
  | error e => exact (rfl : Answer.failed e = .failed e)

theorem filter_inDialect (q : Query) (dialect : Dialect) (e : Expr) :
    (q.inDialect dialect).filter e = (q.filter e).map (inDialect · dialect) := by
  have hbinder : (q.inDialect dialect).binder = q.binder := rfl
  rw [filter, filter, hbinder]
  cases q.binder.compile e with
  | mk result binder => cases result <;> rfl

theorem selectFields_inDialect (q : Query) (registry : Registry) (dialect : Dialect)
    (fields : List String) :
    (q.inDialect dialect).selectFields registry fields
      = (q.selectFields registry fields).map (inDialect · dialect) := by
  have hselected : (q.inDialect dialect).selectedEntity = q.selectedEntity := rfl
  rw [selectFields, selectFields, hselected]
  cases columnsOfFields q.selectedEntity (registry.get q.selectedEntity) fields Keyed.empty <;> rfl

end Query

/-! ### One call -/

namespace QueryState

/-- The state with the query in another dialect. -/
def inDialect (s : QueryState) (dialect : Dialect) : QueryState :=
  { s with query := s.query.inDialect dialect }

/-- Two changes that fail for the same reason, or succeed with one query in two dialects. -/
theorem change_inDialect (s : QueryState) (dialect : Dialect) (x : Except Error Query) :
    (s.inDialect dialect).change (x.map (Query.inDialect · dialect))
      = ((s.change x).1, (s.change x).2.inDialect dialect) := by
  cases x <;> rfl

end QueryState

namespace QueryStep

/-- **One call** does and answers the same in every dialect, unless it asks for the statement. -/
theorem run_inDialect (s : QueryState) (dialect : Dialect) {step : QueryStep} (hsql : step ≠ .sql)
    (hbuild : step ≠ .build) :
    run (s.inDialect dialect) step = ((run s step).1, (run s step).2.inDialect dialect) := by
  cases step with
  | sql => exact absurd rfl hsql
  | build => exact absurd rfl hbuild
  | filter e =>
    show (s.inDialect dialect).change ((s.query.inDialect dialect).filter e) = _
    rw [Query.filter_inDialect, QueryState.change_inDialect]
    rfl
  | selectFields fields =>
    show (s.inDialect dialect).change
      ((s.query.inDialect dialect).selectFields s.registry fields) = _
    rw [Query.selectFields_inDialect, QueryState.change_inDialect]
    rfl
  | _ => rfl

theorem state_run_inDialect (s : QueryState) (dialect : Dialect) (step : QueryStep) :
    (run (s.inDialect dialect) step).2 = (run s step).2.inDialect dialect := by
  by_cases hsql : step = .sql
  · rw [hsql]
    rfl
  by_cases hbuild : step = .build
  · rw [hbuild]
    rfl
  rw [run_inDialect s dialect hsql hbuild]

/-- What a call answers in the two dialects. -/
theorem inDialects_run (s : QueryState) (step : QueryStep) :
    Answer.InDialects s.query s.registry (run (s.inDialect .standard) step).1
      (run (s.inDialect .transactSql) step).1 := by
  by_cases hsql : step = .sql
  · rw [hsql]
    exact s.query.inDialects_sql s.registry
  by_cases hbuild : step = .build
  · rw [hbuild]
    exact s.query.inDialects_build s.registry
  -- Every other call answers in both dialects as it does in the query's own one.
  rw [run_inDialect s .standard hsql hbuild, run_inDialect s .transactSql hsql hbuild]
  cases step with
  | sql => exact absurd rfl hsql
  | build => exact absurd rfl hbuild
  | column field => exact Answer.inDialects_column _ _ _
  | columnOf e field => exact Answer.inDialects_column _ _ _
  | filter e => exact Answer.inDialects_change _ _ s _
  | selectFields fields => exact Answer.inDialects_change _ _ s _
  | _ => exact rfl

/-! ### All calls -/

/-- The states of a run in another dialect are its states in that dialect. -/
theorem runAll_inDialect (s : QueryState) (dialect : Dialect) (steps : List QueryStep) :
    (runAll (s.inDialect dialect) steps).2 = (runAll s steps).2.inDialect dialect := by
  induction steps generalizing s with
  | nil => rfl
  | cons step rest ih =>
    have hrest := ih (run s step).2
    rw [← state_run_inDialect] at hrest
    exact hrest

/-- **Dialects.**  Two new queries about one entity, over one registry and under settings that
    differ in the dialect only, are used by the same calls.  Wherever in the run a call stands, it
    answers the same in both, or the same statement in the two dialects.  In the end the
    registries and the parameters are the same, and the text of the statement is one statement
    in the two dialects, or both queries fail to write it for the same reason. -/
theorem runAll_dialects (registry : Registry) (settings : Settings) (entity : Entity)
    (steps : List QueryStep) :
    let after := fun (dialect : Dialect) (steps : List QueryStep) =>
      (runAll (.start registry { settings with dialect } entity) steps).2
    let s := after .standard steps
    let t := after .transactSql steps
    (∀ before step rest, steps = before ++ step :: rest →
        let s := after .standard before
        let t := after .transactSql before
        Answer.InDialects s.query s.registry (run s step).1 (run t step).1) ∧
      s.registry = t.registry ∧
      s.query.binder.parameters = t.query.binder.parameters ∧
      Answer.InDialects s.query s.registry (.ofExcept .text (s.query.sql s.registry))
        (.ofExcept .text (t.query.sql t.registry)) := by
  intro after s t
  -- Every state of either run is the state of one common run in that dialect.
  let common := fun steps => (runAll (.start registry settings entity) steps).2
  have hafter : ∀ dialect steps, after dialect steps = (common steps).inDialect dialect :=
    fun dialect steps => runAll_inDialect (.start registry settings entity) dialect steps
  have hs : s = (common steps).inDialect .standard := hafter .standard steps
  have ht : t = (common steps).inDialect .transactSql := hafter .transactSql steps
  refine ⟨?_, ?_, ?_, ?_⟩
  · intro before step rest _
    show Answer.InDialects (after .standard before).query (after .standard before).registry
      (run (after .standard before) step).1 (run (after .transactSql before) step).1
    rw [hafter, hafter]
    exact inDialects_run (common before) step
  · rw [hs, ht]
    rfl
  · rw [hs, ht]
    rfl
  · rw [hs, ht]
    exact (common steps).query.inDialects_sql (common steps).registry

end QueryStep

end BoundSql
