import BoundSql.Proofs.Clause.Lowering
import BoundSql.Proofs.Registry.WriteOnce
import BoundSql.Query.Step

namespace BoundSql

/-!
# Query — what a call changes, and what a statement says

A call changes few things about a query, and of the registry it changes what resolving one
entity changes.  The text of a statement is put together from parts, of which only the tables
and the columns are read from the registry.

* `QueryStep.registry_run` — a call on a query as calls on the registry.
* `Query.exists_columns_of_sql` — a text and its parts.
* `Query.names_of_sql` — a text names the entities that it reads.
-/

/-! ### Answers -/

/-- An answer that is not a failure is made of a result. -/
theorem Answer.exists_of_ofExcept {α : Type} {wrap : α → Answer} {x : Except Error α}
    {answer : Answer} (h : ofExcept wrap x = answer) (hanswer : ∀ e, answer ≠ .failed e) :
    ∃ a, x = .ok a ∧ wrap a = answer := by
  cases x with
  | ok a => exact ⟨a, rfl, h⟩
  | error e => exact absurd h.symm (hanswer e)

/-- The text of a statement is the text of the query. -/
theorem Query.sql_of_build {q : Query} {registry : Registry} {statement : Statement}
    (h : q.build registry = .ok statement) : q.sql registry = .ok statement.sql := by
  unfold build at h
  cases hsql : q.sql registry with
  | ok text =>
    rw [hsql] at h
    rw [← Except.ok.inj h]
  | error e =>
    rw [hsql] at h
    exact absurd h (by simp [Except.map])

/-! ### What a call changes -/

namespace QueryStep

/-- Adding a condition fails, or changes the binder and the conditions. -/
theorem query_filter (s : QueryState) (e : Expr) :
    (run s (.filter e)).2.query = s.query ∨
      ∃ binder filters, (run s (.filter e)).2.query = { s.query with binder, filters } := by
  rw [run, Query.filter]
  split
  · exact .inr ⟨_, _, rfl⟩
  · exact .inl rfl

/-- Selecting fields fails, or changes what is selected. -/
theorem query_selectFields (s : QueryState) (fields : List String) :
    (run s (.selectFields fields)).2.query = s.query ∨
      (run s (.selectFields fields)).2.query = { s.query with projection := .fields fields } := by
  rw [run, Query.selectFields]
  split
  · exact .inr rfl
  · exact .inl rfl

/-- A call other than a condition changes neither the parameters nor the conditions. -/
theorem run_frame (s : QueryState) {step : QueryStep} (hstep : ∀ e, step ≠ .filter e) :
    (run s step).2.query.binder = s.query.binder ∧
      (run s step).2.query.filters = s.query.filters := by
  cases step with
  | filter e => exact absurd rfl (hstep e)
  | selectFields fields => rcases query_selectFields s fields with h | h <;> simp [h]
  | _ => exact ⟨rfl, rfl⟩

/-- A query is about one entity for good. -/
theorem entity_run (s : QueryState) (step : QueryStep) :
    (run s step).2.query.entity = s.query.entity := by
  cases step with
  | filter e => rcases query_filter s e with h | ⟨_, _, h⟩ <;> simp [h]
  | selectFields fields => rcases query_selectFields s fields with h | h <;> simp [h]
  | _ => rfl

theorem selected_run (s : QueryState) {step : QueryStep} (hstep : ∀ e, step ≠ .selectEntity e) :
    (run s step).2.query.selected = s.query.selected := by
  cases step with
  | selectEntity e => exact absurd rfl (hstep e)
  | filter e => rcases query_filter s e with h | ⟨_, _, h⟩ <;> simp [h]
  | selectFields fields => rcases query_selectFields s fields with h | h <;> simp [h]
  | _ => rfl

/-- The calls that a call on a query makes on the registry. -/
def calls (step : QueryStep) : List Call := (step.entity?.map Entity.resolution).toList

theorem registry_resolve (registry : Registry) (e : Entity) :
    (registry.resolve e).1 = registry.performAll [e.resolution] := by
  rw [← Registry.perform_resolution]
  rfl

/-- **The registry** after a call on a query: the entity that the call names is resolved, if it
    names one, and whether the call fails or not. -/
theorem registry_run (s : QueryState) (step : QueryStep) :
    (run s step).2.registry = s.registry.performAll step.calls := by
  cases step with
  | columnOf e field => exact registry_resolve s.registry e
  | join e left right => exact registry_resolve s.registry e
  | selectEntity e => exact registry_resolve s.registry e
  | filter e =>
    rw [run]
    cases s.query.filter e <;> rfl
  | selectFields fields =>
    rw [run]
    cases s.query.selectFields s.registry fields <;> rfl
  | _ => rfl

end QueryStep

/-! ### What a statement says -/

theorem Table.introduction_of_named {table : Table} (h : table.rowAlias ≠ "") :
    table.introduction = table.sqlName ++ " " ++ table.rowAlias := by
  rw [introduction, if_neg (by simpa using h)]

theorem Select.columnText_of_named {rowAlias : String} (h : rowAlias ≠ "") :
    columnText rowAlias = fun column => rowAlias ++ "." ++ column := by
  funext column
  rw [columnText, if_neg (by simpa using h)]

namespace Query

variable {q : Query} {registry : Registry} {text : String}

/-- The parts of the statement with these columns. -/
def parts (q : Query) (registry : Registry) (columns : FieldMap) : Select where
  distinct := q.distinct
  limit := q.limit
  rowAlias := (registry.get q.selectedEntity).rowAlias
  columns := columns
  source := registry.get q.entity
  joins := String.join (q.joins.map Join.text)
  condition := q.condition
  order := q.orderClause

/-- The parts of a statement are those with the columns that are selected. -/
theorem exists_columns_of_select {select : Select} (h : q.select registry = .ok select) :
    ∃ columns, q.selectedColumns (registry.get q.selectedEntity) = .ok columns ∧
      select = q.parts registry columns := by
  obtain ⟨columns, hcolumns, hsource⟩ := exists_of_bind_eq_ok h
  obtain ⟨_, -, hselected⟩ := exists_of_bind_eq_ok hsource
  obtain ⟨_, -, hparts⟩ := exists_of_bind_eq_ok hselected
  exact ⟨columns, hcolumns, (Except.ok.inj hparts).symm⟩

/-- A text is written from the parts with the columns that are selected. -/
theorem exists_columns_of_sql (h : q.sql registry = .ok text) :
    ∃ columns, q.selectedColumns (registry.get q.selectedEntity) = .ok columns ∧
      q.settings.dialect.write (q.parts registry columns) = text := by
  unfold sql at h
  cases hselect : q.select registry with
  | error e =>
    rw [hselect] at h
    exact absurd h (by simp [Except.map])
  | ok select =>
    rw [hselect] at h
    obtain ⟨columns, hcolumns, rfl⟩ := exists_columns_of_select hselect
    exact ⟨columns, hcolumns, Except.ok.inj h⟩

/-- The condition stands in the text of a statement behind its keyword. -/
theorem exists_condition_of_sql (h : q.sql registry = .ok text) :
    ∃ before after, text = before ++ Select.clause " WHERE " q.condition ++ after := by
  obtain ⟨columns, -, htext⟩ := exists_columns_of_sql h
  let parts := q.parts registry columns
  refine ⟨parts.head ++ q.settings.dialect.leadingLimit parts.limit
      ++ parts.columnList q.settings.dialect.separator
      ++ ("FROM " ++ parts.source.introduction ++ parts.joins),
    Select.clause " ORDER BY " parts.order ++ q.settings.dialect.trailingLimit parts.limit, ?_⟩
  rw [← htext]
  simp only [Dialect.write, Select.body, String.append_assoc]
  rfl

/-- The text is a statement of the query that names its own entity and the selected one as their
    tables do: every selected column stands behind the alias of the selected one, and behind
    `FROM` stand the name and the alias of its own one. -/
def Names (q : Query) (tables : EntityName → Table) (text : String) : Prop :=
  ∃ columns rest, q.selectedColumns (tables q.selectedEntity) = .ok columns ∧
    text = (if q.distinct then "SELECT DISTINCT " else "SELECT ")
      ++ q.settings.dialect.leadingLimit q.limit
      ++ (if columns.isEmpty then ""
          else q.settings.dialect.separator.intercalate (columns.values.map fun column =>
            (tables q.selectedEntity).rowAlias ++ "." ++ column) ++ " ")
      ++ "FROM " ++ (tables q.entity).sqlName ++ " " ++ (tables q.entity).rowAlias
      ++ String.join (q.joins.map Join.text) ++ rest

/-- A statement names entities as the registry does, where the aliases are not empty. -/
theorem names_of_sql (hentity : (registry.get q.entity).rowAlias ≠ "")
    (hselected : (registry.get q.selectedEntity).rowAlias ≠ "")
    (h : q.sql registry = .ok text) : q.Names registry.get text := by
  obtain ⟨columns, hcolumns, htext⟩ := exists_columns_of_sql h
  refine ⟨columns, Select.clause " WHERE " q.condition ++ Select.clause " ORDER BY " q.orderClause
    ++ q.settings.dialect.trailingLimit q.limit, hcolumns, ?_⟩
  rw [← htext]
  simp only [Dialect.write, parts, Select.head, Select.columnList, Select.body,
    Table.introduction_of_named hentity, Select.columnText_of_named hselected,
    String.append_assoc]
  rfl

end Query

end BoundSql
