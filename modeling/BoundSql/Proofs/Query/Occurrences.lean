import BoundSql.Proofs.Query.Assembly

namespace BoundSql

/-!
# Query — occurrences of tables

A statement reads rows of its own entity and, with each join, rows of one more table.  An alias
belongs to an entity and not to an occurrence of its table: the aliases in a statement are as
distinct as the entities that it reads, and an entity that is joined with itself or joined twice
introduces its alias again.

* `Registry.rowAlias_injective` — entities with one alias are one.
* `QueryStep.readEntities` — the entities that are read, one for each occurrence.
* `QueryStep.runAll_occurrences` — the aliases that a statement introduces.
-/

/-! ### Aliases of entities -/

/-- Registered entities with one alias are one. -/
theorem Registry.rowAlias_injective {calls : List Call} (hreturns : empty.Returns calls)
    {key other : EntityName} (hkey : ((empty.performAll calls).lookup key).isSome = true)
    (hother : ((empty.performAll calls).lookup other).isSome = true)
    (heq : ((empty.performAll calls).get key).rowAlias
      = ((empty.performAll calls).get other).rowAlias) : key = other := by
  obtain ⟨table, htable⟩ := Option.isSome_iff_exists.mp hkey
  obtain ⟨found, hfound⟩ := Option.isSome_iff_exists.mp hother
  rw [get, get, htable, hfound, Option.getD_some, Option.getD_some] at heq
  exact eq_of_rowAlias_eq (nodup_aliases_performAll hreturns) (tallies_performAll calls) htable
    hfound heq

/-- What only one member is mapped to occurs among the images as often as that member does. -/
theorem count_map_of_injective_at {α β : Type} [DecidableEq α] [DecidableEq β] {f : α → β} {a : α}
    {as : List α} (h : ∀ b ∈ as, f b = f a → b = a) : (as.map f).count (f a) = as.count a := by
  rw [List.count, List.countP_map, List.count]
  refine List.countP_congr fun b hb => ?_
  have himage := h b hb
  simp only [Function.comp_apply, beq_iff_eq]
  constructor
  · exact himage
  · intro heq
    rw [heq]

namespace QueryStep

/-- The entities whose tables a query about an entity reads rows of after these calls, one for each
    occurrence. -/
def readEntities (entity : EntityName) (steps : List QueryStep) : List EntityName :=
  entity :: (steps.filterMap joined?).map JoinedEntity.key

/-- The entities that are read are registered after the calls. -/
theorem isSome_lookup_of_mem_readEntities (registry : Registry) (settings : Settings)
    (entity : Entity) (steps : List QueryStep) {key : EntityName}
    (hkey : key ∈ readEntities entity.key steps) :
    ((runAll (.start registry settings entity) steps).2.registry.lookup key).isSome = true := by
  have hfollows := runAll_start_follows registry settings entity steps
  rw [readEntities, ← joins_ofCalls_runAll (.start registry settings entity) steps] at hkey
  exact hfollows.isSome_lookup
    (registered_runAll (Query.Registered.start registry settings entity) steps) hkey

/-- After the calls, registered entities with one alias are one. -/
theorem rowAlias_injective_runAll_start {past : List Call} {settings : Settings} {entity : Entity}
    {steps : List QueryStep}
    (hreturns : Registry.empty.Returns (past ++ entity.resolution :: steps.flatMap calls))
    {key other : EntityName} :
    let registry :=
      (runAll (.start (Registry.empty.performAll past) settings entity) steps).2.registry
    (registry.lookup key).isSome = true → (registry.lookup other).isSome = true →
      (registry.get key).rowAlias = (registry.get other).rowAlias → key = other := by
  intro registry
  have hregistry : registry = Registry.empty.performAll _ :=
    registry_runAll_start past settings entity steps
  rw [hregistry]
  exact Registry.rowAlias_injective hreturns

/-- A call in the midst of a run has only registered what is registered in the end. -/
theorem within_runAll_of_append (s : QueryState) (before : List QueryStep) (step : QueryStep)
    (after : List QueryStep) :
    (run (runAll s before).2 step).2.registry.Within
      (runAll s (before ++ step :: after)).2.registry := by
  rw [state_runAll_append]
  exact within_runAll (run (runAll s before).2 step).2 after

/-- **Occurrences.**  A new query is used by any calls, over a registry whose calls all return.
    Behind `FROM` and `JOIN` its statement introduces the aliases of the entities that are read,
    one after the other.  They are pairwise distinct if and only if no entity is read twice.  A
    column that a call has asked for is qualified with the alias of its entity, and this alias is
    introduced as often as the entity is read. -/
theorem runAll_occurrences (past : List Call) (settings : Settings) (entity : Entity)
    (steps : List QueryStep)
    (hreturns : Registry.empty.Returns (past ++ entity.resolution :: steps.flatMap calls)) :
    let start := QueryState.start (Registry.empty.performAll past) settings entity
    let s := (runAll start steps).2
    let tables := s.registry.get
    let read := readEntities entity.key steps
    let aliases := read.map fun key => (tables key).rowAlias
    (∀ text, s.query.sql s.registry = .ok text →
        ∃ before after, text = before ++ "FROM " ++ Outline.tableText (tables entity.key)
          ++ String.join ((steps.filterMap joined?).map (Outline.joinText tables)) ++ after) ∧
      (aliases.Nodup ↔ read.Nodup) ∧
      ∀ before e field after c, steps = before ++ .columnOf e field :: after →
        (run (runAll start before).2 (.columnOf e field)).1 = .column c →
        ∃ rowAlias, c.qualifier = some rowAlias ∧ aliases.count rowAlias = read.count e.key := by
  intro start s tables read aliases
  have hfollows : s.query.Follows s.registry settings entity.key _ :=
    runAll_start_follows _ settings entity steps
  have hregistered : s.query.Registered s.registry :=
    registered_runAll (Query.Registered.start _ settings entity) steps
  have hjoins := joins_ofCalls_runAll start steps
  have hnamed : ∀ key, (s.registry.lookup key).isSome = true → (tables key).rowAlias ≠ "" :=
    fun key => rowAlias_ne_empty_runAll_start past settings entity steps
  have hread : ∀ key ∈ read, (s.registry.lookup key).isSome = true :=
    fun key => isSome_lookup_of_mem_readEntities _ settings entity steps
  refine ⟨?_, ?_, ?_⟩
  · intro text hsql
    obtain ⟨columns, rest, -, htext⟩ :=
      Query.names_of_sql (hnamed _ hregistered.entity) (hnamed _ hregistered.selected) hsql
    have htables : String.join (s.query.joins.map Join.text)
        = String.join ((steps.filterMap joined?).map (Outline.joinText tables)) := by
      rw [hfollows.text_joins hnamed, hjoins]
    rw [htables, hfollows.about] at htext
    have hsource : ∀ head joins : String,
        head ++ "FROM " ++ (tables entity.key).sqlName ++ " " ++ (tables entity.key).rowAlias
            ++ joins ++ rest
          = head ++ "FROM " ++ Outline.tableText (tables entity.key) ++ joins ++ rest := by
      intro head joins
      simp only [Outline.tableText, String.append_assoc]
    exact ⟨_, rest, htext.trans (hsource _ _)⟩
  · constructor
    · exact List.Nodup.of_map _
    · intro hnodup
      exact hnodup.map_on fun key hkey other hother =>
        rowAlias_injective_runAll_start hreturns (hread key hkey) (hread other hother)
  · rintro before e field after c hsteps hanswer
    let now := (runAll start before).2
    have hwithin : (run now (.columnOf e field)).2.registry.Within s.registry := by
      have hend : s = (runAll start (before ++ .columnOf e field :: after)).2 := by rw [← hsteps]
      rw [hend]
      exact within_runAll_of_append start before (.columnOf e field) after
    have hnow : now.query.Registered now.registry :=
      registered_runAll (Query.Registered.start _ settings entity) before
    have hnames := names_of_within (.columnOf e field) hnow hwithin hnamed
    obtain ⟨hsome, -⟩ := get_of_resolve e hwithin
    refine ⟨(tables e.key).rowAlias, hnames.columnOf e field c rfl hanswer, ?_⟩
    refine count_map_of_injective_at (f := fun key => (tables key).rowAlias) fun key hkey heq => ?_
    exact rowAlias_injective_runAll_start hreturns (hread key hkey) hsome heq

/-- An entity is joined that was registered before the query began. -/
theorem runAll_occurrences_apart :
    let note := Entity.plain ⟨"Note"⟩ ⟨"n", none, "note", Keyed.ofList [("Id", "id")]⟩
    let tag := Entity.plain ⟨"Tag"⟩ ⟨"g", none, "tag", Keyed.ofList [("NoteId", "note_id")]⟩
    let past : List Call := [tag.resolution]
    let steps : List QueryStep :=
      [.columnOf tag "NoteId", .join tag (.qualified "n" "id") (.qualified "g" "note_id")]
    let start := QueryState.start (Registry.empty.performAll past) .standard note
    let s := (runAll start steps).2
    let aliases := (readEntities note.key steps).map fun key => (s.registry.get key).rowAlias
    Registry.empty.Returns (past ++ note.resolution :: steps.flatMap calls) ∧ aliases.Nodup ∧
      aliases.count "g" = 1 := by
  intro note tag past steps start s aliases
  have hreturns : Registry.empty.Returns (past ++ note.resolution :: steps.flatMap calls) :=
    Registry.returns_of_size (by decide)
  obtain ⟨-, hnodup, hcount⟩ := runAll_occurrences past .standard note steps hreturns
  have hanswer : (run (runAll start []).2 (.columnOf tag "NoteId")).1
      = .column (.qualified "g" "note_id") := by rfl
  obtain ⟨rowAlias, hqualifier, honce⟩ := hcount [] tag "NoteId" _ _ rfl hanswer
  obtain rfl : "g" = rowAlias := Option.some.inj hqualifier
  have hread : (readEntities note.key steps).Nodup := by decide
  have htag : (readEntities note.key steps).count tag.key = 1 := by decide
  exact ⟨hreturns, hnodup.mpr hread, honce.trans htag⟩

/-- An entity that is joined with itself is introduced twice under one alias, so that a column of
    it belongs to two occurrences of its table. -/
theorem runAll_occurrences_self_join :
    let user := Entity.plain ⟨"User"⟩
      ⟨"u", none, "users", Keyed.ofList [("Id", "id"), ("Boss", "boss_id")]⟩
    let steps : List QueryStep :=
      [.join user (.qualified "u" "boss_id") (.qualified "u" "id"), .columnOf user "Id"]
    let start := QueryState.start .empty .standard user
    let s := (runAll start steps).2
    let aliases := (readEntities user.key steps).map fun key => (s.registry.get key).rowAlias
    s.query.sql s.registry
        = .ok "SELECT u.id , u.boss_id FROM users u JOIN users u ON u.boss_id = u.id" ∧
      aliases = ["u", "u"] ∧ ¬ aliases.Nodup ∧
      ∃ c, (runAll start steps).1[1]? = some (.column c) ∧ c.qualifier = some "u" := by
  intro user steps start s aliases
  have hsql : s.query.sql s.registry
      = .ok "SELECT u.id , u.boss_id FROM users u JOIN users u ON u.boss_id = u.id" := by
    decide +kernel
  exact ⟨hsql, by decide, by decide, .qualified "u" "id", by rfl, rfl⟩

end QueryStep

end BoundSql
