import BoundSql.Proofs.Json.Records
import BoundSql.Proofs.Json.RoundTrip
import BoundSql.Proofs.Keyed
import BoundSql.Statement.Select
import BoundSql.Table.Json

namespace BoundSql

/-!
# Table — tables survive their text

The columns of a table are an object in its text, and reading enters the members of this object
into a map in the order in which they stand.  They are the entries of a map, so that this gives
the map again, with its order: a table that is read back is the same table, and not only one that
agrees with it.

* `Table.parse_compact` — a table is read back from its text.
* `Table.ofDetails_eq` — what details leave.
* `Table.parse_ofDetails` — what is read back of a table that was described by details.
-/

/-! ### Documents -/

namespace FieldMap

theorem plain_toJson (columns : FieldMap) : (toJson columns).Plain := by
  refine Json.plain_record fun member hmember => ?_
  obtain ⟨entry, -, rfl⟩ := List.mem_map.mp hmember
  exact .string entry.2

/-- The members of an object are read one by one. -/
theorem mapM_readEntry (entries : List (String × String)) :
    (entries.map fun (field, column) => (JsonText.ofString field, Json.string column)).mapM readEntry
      = some entries := by
  induction entries with
  | nil => rfl
  | cons entry rest ih =>
    have hentry : readEntry (JsonText.ofString entry.1, Json.string entry.2) = some entry := by
      simp [readEntry, JsonText.string?_ofString, Json.string?_string]
    rw [List.map_cons, List.mapM_cons, ih, hentry]
    rfl

/-- Columns are read back in their order, if their object may be entered. -/
theorem ofJson?_toJson (columns : FieldMap) (depth : Nat) :
    ofJson? (depth + 1) columns.toJson = some columns := by
  rw [toJson, Json.record, ofJson?, if_neg (Nat.succ_ne_zero depth), List.map_map]
  refine (congrArg (Option.map Keyed.ofList) (mapM_readEntry columns.entries)).trans ?_
  rw [Option.map_some, Keyed.ofList_entries]

end FieldMap

namespace Table

theorem plain_toJson (table : Table) : table.toJson.Plain := by
  obtain ⟨rowAlias, schema, name, columns⟩ := table
  cases schema <;>
    exact Json.plain_record (by simp [Json.Plain.string, FieldMap.plain_toJson])

/-- A table is read back, its schema as it was, if its record and its columns may be entered. -/
theorem ofJson?_toJson (table : Table) (depth : Nat) :
    ofJson? (depth + 2) table.toJson = some table := by
  obtain ⟨rowAlias, schema, name, columns⟩ := table
  have hcolumns := FieldMap.ofJson?_toJson columns depth
  rw [ofJson?, toJson, Json.fields?_record (by decide) (by cases schema <;> simp)]
  cases schema with
  | none => simp [List.lookup_cons, Json.string?_string, Json.optional?_none, hcolumns]
  | some s => simp [List.lookup_cons, Json.string?_string, Json.optional?_string, hcolumns]

/-- **Round trip.**  The text of a table holds this table. -/
theorem parse_compact (table : Table) : parse table.compact = some table := by
  rw [parse, compact, Json.parse_compact table.plain_toJson, Option.bind_some]
  exact ofJson?_toJson table 125

/-! ### Details -/

namespace Detail

/-- The alias that a detail gives. -/
def rowAlias? : Detail → Option String
  | .rowAlias given => some given
  | _ => none

/-- The schema that a detail gives. -/
def schema? : Detail → Option String
  | .schema given => some given
  | _ => none

/-- The fields that a detail tells of, with their columns. -/
def entries : Detail → List (String × String)
  | .column field physical => [(field, physical)]
  | .columns given => given
  | _ => []

end Detail

/-- **Details in order.**  The last alias and the last schema stay, and the columns are inserted one
    after the other.  The induction is on the details, with one case for each kind of them. -/
theorem foldl_add (table : Table) (details : List Detail) :
    details.foldl add table =
      ⟨(details.reverse.findSome? Detail.rowAlias?).getD table.rowAlias,
        (details.reverse.findSome? Detail.schema?).or table.schema, table.name,
        table.columns.insertAll (details.flatMap Detail.entries)⟩ := by
  induction details generalizing table with
  | nil => rfl
  | cons detail rest ih =>
    rw [List.foldl_cons, ih, List.reverse_cons, List.findSome?_append, List.findSome?_append,
      Option.or_assoc]
    cases detail with
    | rowAlias given =>
      simp [add, Detail.rowAlias?, Detail.schema?, Detail.entries]
    | schema given =>
      simp [add, Detail.rowAlias?, Detail.schema?, Detail.entries]
    | column field physical =>
      simp [add, Detail.rowAlias?, Detail.schema?, Detail.entries, addColumn]
    | columns given =>
      simp [add, Detail.rowAlias?, Detail.schema?, Detail.entries, addColumns]

theorem ofDetails_eq (name : String) (details : List Detail) :
    ofDetails name details =
      ⟨(details.reverse.findSome? Detail.rowAlias?).getD "",
        details.reverse.findSome? Detail.schema?, name,
        Keyed.ofList (details.flatMap Detail.entries)⟩ := by
  rw [ofDetails, foldl_add]
  simp [new, Keyed.ofList]

/-! ### Texts of tables -/

/-- **Texts of tables.**  A table with any name and any details, in any order and any number, is
    read back from its text as the same table.  What is read has the alias that was given last, and
    an empty one if none was given; the schema that was given last, where an empty one is not the
    same as none; its name; and each field once, in the order in which the fields were told of
    first, with the column that was told of last.  In this order the columns are listed when they
    are selected. -/
theorem parse_ofDetails (name : String) (details : List Detail) :
    let table := ofDetails name details
    let given := details.flatMap Detail.entries
    let fields := (given.map Prod.fst).eraseDups
    ∃ read columns, parse table.compact = some read ∧ read = table ∧
      read.rowAlias = (details.reverse.findSome? Detail.rowAlias?).getD "" ∧
      read.schema = details.reverse.findSome? Detail.schema? ∧
      read.name = name ∧
      fields.mapM (fun field => given.reverse.lookup field) = some columns ∧
      read.columns.entries = fields.zip columns ∧
      ∀ (select : Select) (dialect : Dialect),
        { select with rowAlias := read.rowAlias, columns := read.columns }.columnList
            dialect.separator
          = if columns.isEmpty then ""
            else dialect.separator.intercalate (columns.map (Select.columnText read.rowAlias))
              ++ " " := by
  intro table given fields
  have htable : table = ⟨_, _, _, Keyed.ofList given⟩ := ofDetails_eq name details
  have hkeys : table.columns.keys = fields := by
    rw [htable]
    exact Keyed.keys_ofList given
  have hvalues : fields.mapM (fun field => given.reverse.lookup field)
      = some table.columns.values := by
    rw [← hkeys]
    refine Keyed.mapM_keys fun field _ => ?_
    rw [htable]
    exact Keyed.get?_ofList given field
  have hentries : table.columns.entries = fields.zip table.columns.values := by
    rw [← hkeys]
    exact List.zip_of_prod rfl rfl
  refine ⟨table, table.columns.values, parse_compact table, rfl, ?_, ?_, ?_, hvalues, hentries, ?_⟩
  · rw [htable]
  · rw [htable]
  · rw [htable]
  · intro select dialect
    exact Select.columnList_eq _ _

/-- A field that is told of again keeps its place, and an empty schema is written. -/
example : (ofDetails "users" [.column "Id" "id", .columns [("Name", "na\"me"), ("Id", "key")],
    .schema ""]).compact = "\x7b\"identifier\":\"\",\"schema\":\"\",\"name\":\"users\","
      ++ "\"columns\":\x7b\"Id\":\"key\",\"Name\":\"na\\\"me\"\x7d\x7d" := by
  decide +kernel

end Table

end BoundSql
