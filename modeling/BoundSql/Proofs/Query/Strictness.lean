import BoundSql.Proofs.Query.Assembly

namespace BoundSql

/-!
# Query — missing columns under strict settings

Strict settings refuse a statement that would have no columns to name.  Of the query's own entity
the table is asked for its columns; of the entity that is selected it is the selection that is
asked, and a selection need not say what the table says: columns that are given as they are need no
table, and a selection of no fields is empty whatever the table holds.

* `Projection.isBlank` — is nothing selected?
* `Query.sql_of_known` — what a statement comes to where all fields are known.
* `Query.sql_missingMetadata` — which failures there are, and when they tell of the tables.
-/

/-! ### Selections -/

namespace Projection

/-- Is nothing selected of an entity with this table? -/
def isBlank (table : Table) : Projection → Bool
  | .all => table.isEmpty
  | .fields names => names.isEmpty
  | .columns given => given.isEmpty

/-- All fields that are selected are fields of the table. -/
def Known (table : Table) : Projection → Prop
  | .fields names => ∀ name ∈ names, (table.column? name).isSome = true
  | _ => True

end Projection

namespace Query

/-- Fields that are known are all found. -/
theorem exists_columnsOfFields (key : EntityName) {table : Table} {fields : List String}
    (hknown : ∀ name ∈ fields, (table.column? name).isSome = true) (columns : FieldMap) :
    ∃ all, columnsOfFields key table fields columns = .ok all := by
  induction fields generalizing columns with
  | nil => exact ⟨columns, rfl⟩
  | cons field rest ih =>
    obtain ⟨column, hcolumn⟩ := Option.isSome_iff_exists.mp (hknown field List.mem_cons_self)
    rw [columnsOfFields, hcolumn]
    exact ih (fun name hname => hknown name (List.mem_cons_of_mem field hname)) _

/-- A selection whose fields are known gives columns, and none only if nothing is selected. -/
theorem exists_selectedColumns {q : Query} {table : Table} (hknown : q.projection.Known table) :
    ∃ columns, q.selectedColumns table = .ok columns ∧
      columns.isEmpty = q.projection.isBlank table := by
  unfold selectedColumns
  cases hprojection : q.projection with
  | all => exact ⟨table.columns, rfl, rfl⟩
  | columns given => exact ⟨given, rfl, rfl⟩
  | fields names =>
    rw [hprojection] at hknown
    obtain ⟨columns, hcolumns⟩ := exists_columnsOfFields q.selectedEntity hknown Keyed.empty
    refine ⟨columns, hcolumns, ?_⟩
    -- Repeated fields count once, which leaves none of them only where there were none.
    have hnone : (Keyed.empty : FieldMap).keys = ([] : List String).eraseDups := rfl
    obtain ⟨hkeys, -⟩ := keys_columnsOfFields hcolumns hnone fun name hname =>
      absurd hname List.not_mem_nil
    rw [Keyed.isEmpty_eq_isEmpty_keys, hkeys, List.nil_append, Projection.isBlank]
    cases names with
    | nil => rfl
    | cons name rest => rw [List.eraseDups_cons, List.isEmpty_cons, List.isEmpty_cons]

/-! ### Statements -/

variable {q : Query} {registry : Registry}

theorem requireColumns_of_strict (hstrict : q.settings.strict = true) (key : EntityName)
    (columns : FieldMap) : q.requireColumns key columns
      = if columns.isEmpty then .error (.missingMetadata key.short) else .ok () := by
  rw [requireColumns, hstrict, Bool.and_true]

/-- **What a statement comes to** under strict settings, where all fields are known: the query's
    own entity is looked at first, and there are no other failures. -/
theorem sql_of_known (hstrict : q.settings.strict = true)
    (hknown : q.projection.Known (registry.get q.selectedEntity)) :
    ∃ text, q.sql registry =
      if (registry.get q.entity).isEmpty then .error (.missingMetadata q.entity.short)
      else if q.projection.isBlank (registry.get q.selectedEntity) then
        .error (.missingMetadata q.selectedEntity.short)
      else .ok text := by
  obtain ⟨columns, hcolumns, hblank⟩ := exists_selectedColumns hknown
  refine ⟨q.settings.dialect.write (q.parts registry columns), ?_⟩
  have hown : q.requireColumns q.entity (registry.get q.entity).columns
      = if (registry.get q.entity).isEmpty then .error (.missingMetadata q.entity.short)
        else .ok () := requireColumns_of_strict hstrict _ _
  have hselected := requireColumns_of_strict hstrict q.selectedEntity columns
  rw [sql, select, hcolumns, hown]
  cases (registry.get q.entity).isEmpty with
  | true => rfl
  | false =>
    show Except.map q.settings.dialect.write
      (q.requireColumns q.selectedEntity columns >>= fun _ => .ok (q.parts registry columns)) = _
    rw [hselected, hblank]
    cases q.projection.isBlank (registry.get q.selectedEntity) <;> rfl

/-- The failure that is reported names the query's own entity if its table has no columns, and
    otherwise the selected one if nothing is selected. -/
theorem sql_eq_missingMetadata_iff (hstrict : q.settings.strict = true)
    (hknown : q.projection.Known (registry.get q.selectedEntity)) (name : String) :
    q.sql registry = .error (.missingMetadata name) ↔
      (registry.get q.entity).isEmpty = true ∧ name = q.entity.short ∨
        (registry.get q.entity).isEmpty = false ∧
          q.projection.isBlank (registry.get q.selectedEntity) = true ∧
            name = q.selectedEntity.short := by
  obtain ⟨text, htext⟩ := sql_of_known hstrict hknown
  rw [htext]
  cases (registry.get q.entity).isEmpty <;>
    cases q.projection.isBlank (registry.get q.selectedEntity) <;> simp [eq_comm]

/-- **Strictness.**  Let the settings be strict, and let all fields that are selected be fields of
    the selected entity.  Then columns are reported as missing of the query's own entity, if its
    table has none, and otherwise of the selected one, if nothing is selected.  This tells exactly
    whether one of the two tables has no columns, and names an entity whose table has none, if and
    only if the query's own table has none or the selection is empty just where the selected
    table is: so it does for all columns and for fields of which there is at least one. -/
theorem sql_missingMetadata (hstrict : q.settings.strict = true)
    (hknown : q.projection.Known (registry.get q.selectedEntity)) :
    let own := registry.get q.entity
    let selected := registry.get q.selectedEntity
    (∀ name, q.sql registry = .error (.missingMetadata name) ↔
        own.isEmpty = true ∧ name = q.entity.short ∨
          own.isEmpty = false ∧ q.projection.isBlank selected = true ∧
            name = q.selectedEntity.short) ∧
      (((∃ name, q.sql registry = .error (.missingMetadata name)) ↔
            own.isEmpty = true ∨ selected.isEmpty = true) ∧
          (∀ name, q.sql registry = .error (.missingMetadata name) →
            ∃ key ∈ [q.entity, q.selectedEntity],
              name = key.short ∧ (registry.get key).isEmpty = true) ↔
        own.isEmpty = true ∨
          (q.projection.isBlank selected = true ↔ selected.isEmpty = true)) := by
  intro own selected
  have hmissing := sql_eq_missingMetadata_iff hstrict hknown
  refine ⟨hmissing, ?_⟩
  cases hown : own.isEmpty with
  | true =>
    -- The own table has no columns, which is seen first.
    have hname : ∀ name, q.sql registry = .error (.missingMetadata name) ↔
        name = q.entity.short := by
      intro name
      rw [hmissing, show (registry.get q.entity).isEmpty = true from hown]
      simp
    refine iff_of_true ⟨iff_of_true ⟨_, (hname _).mpr rfl⟩ (.inl rfl), ?_⟩ (.inl rfl)
    intro name hsql
    exact ⟨q.entity, List.mem_cons_self, (hname name).mp hsql, hown⟩
  | false =>
    have hname : ∀ name, q.sql registry = .error (.missingMetadata name) ↔
        q.projection.isBlank selected = true ∧ name = q.selectedEntity.short := by
      intro name
      rw [hmissing, show (registry.get q.entity).isEmpty = false from hown]
      simp [selected]
    have hsome : (∃ name, q.sql registry = .error (.missingMetadata name)) ↔
        q.projection.isBlank selected = true := by
      simp [hname]
    simp only [hsome, Bool.false_eq_true, false_or]
    constructor
    · exact fun htables => htables.1
    · intro htables
      refine ⟨htables, fun name hsql => ?_⟩
      obtain ⟨hblank, hentity⟩ := (hname name).mp hsql
      exact ⟨q.selectedEntity, by simp, hentity, htables.mp hblank⟩

/-- All columns are selected of an entity whose table has none. -/
theorem sql_missingMetadata_selected :
    let user := Entity.plain ⟨"User"⟩ ⟨"u", none, "users", Keyed.ofList [("Id", "id")]⟩
    let blank := Entity.plain ⟨"Blank"⟩ (.new "blank")
    let s := (QueryStep.runAll (.start .empty .standard user) [.selectEntity blank]).2
    s.query.settings.strict = true ∧
      s.query.projection.Known (s.registry.get s.query.selectedEntity) ∧
      s.query.sql s.registry = .error (.missingMetadata "Blank") ∧
      ∃ key ∈ [user.key, blank.key], "Blank" = key.short ∧ (s.registry.get key).isEmpty = true := by
  intro user blank s
  have hstrict : s.query.settings.strict = true := rfl
  have hknown : s.query.projection.Known (s.registry.get s.query.selectedEntity) := trivial
  obtain ⟨hmissing, htells⟩ := sql_missingMetadata hstrict hknown
  have hsql : s.query.sql s.registry = .error (.missingMetadata "Blank") :=
    (hmissing "Blank").mpr (.inr ⟨by rfl, by rfl, by decide⟩)
  exact ⟨hstrict, hknown, hsql, (htells.mpr (.inr .rfl)).2 "Blank" hsql⟩

/-- Columns that are given as they are are selected of an entity whose table has none, and nothing
    is reported; no fields are selected of one whose table has columns, and these are reported as
    missing. -/
theorem sql_given_columns_and_no_fields :
    let user := Entity.plain ⟨"User"⟩ ⟨"u", none, "users", Keyed.ofList [("Id", "id")]⟩
    let blank := Entity.plain ⟨"Blank"⟩ (.new "blank")
    let start := QueryState.start .empty .standard user
    let given := (QueryStep.runAll start
      [.selectEntity blank, .selectColumns (Keyed.ofList [("X", "x")])]).2
    let none := (QueryStep.runAll start [.selectFields []]).2
    given.query.settings.strict = true ∧ none.query.settings.strict = true ∧
      given.query.selectedEntity = blank.key ∧ (given.registry.get blank.key).isEmpty = true ∧
      given.query.sql given.registry = .ok "SELECT t1.x FROM users u" ∧
      none.query.selectedEntity = user.key ∧ (none.registry.get user.key).isEmpty = false ∧
      none.query.sql none.registry = .error (.missingMetadata "User") := by
  decide +kernel

end Query

end BoundSql
