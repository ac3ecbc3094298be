import BoundSql.Proofs.Query.Failures
import BoundSql.Proofs.Query.Outline

namespace BoundSql

/-!
# Query — calls in another order

A call that is not refused changes one part of a query at most, and what it makes of that part
hangs on the part alone and not on what the calls of other kinds have done: not even a selection of
fields, which is looked up in whatever entity is selected in the end, and not the numbers of
parameters, which only conditions move on.  So calls of different kinds can change places, as long
as no entity is registered on the way.

* `QueryPart`, `QueryStep.part?` — the parts of a query, and which one a call changes.
* `QueryStep.part_run`, `QueryStep.part_runAll` — a part after a call, after several.
* `QueryStep.runAll_reordered` — calls in another order.
-/

/-! ### Parts -/

/-- The parts of a query that calls change. -/
inductive QueryPart where
  /-- The conditions, with the parameters in them. -/
  | conditions
  | joins
  | order
  | selected
  | projection
  | distinct
  | limit
  deriving DecidableEq

/-- What a query has in a part. -/
abbrev QueryPart.Content : QueryPart → Type
  | .conditions => Binder × List ConditionText
  | .joins => List Join
  | .order => List SortKey
  | .selected => Option EntityName
  | .projection => Projection
  | .distinct => Bool
  | .limit => Option UInt64

def Query.part (q : Query) : (part : QueryPart) → part.Content
  | .conditions => (q.binder, q.filters)
  | .joins => q.joins
  | .order => q.order
  | .selected => q.selected
  | .projection => q.projection
  | .distinct => q.distinct
  | .limit => q.limit

/-- A query about an entity, under settings, is made of its parts. -/
theorem Query.eq_of_part {q q' : Query} (hsettings : q.settings = q'.settings)
    (hentity : q.entity = q'.entity) (hparts : ∀ part, q.part part = q'.part part) : q = q' := by
  have hconditions := Prod.mk.inj (hparts .conditions)
  have hjoins : q.joins = q'.joins := hparts .joins
  have horder : q.order = q'.order := hparts .order
  have hselected : q.selected = q'.selected := hparts .selected
  have hprojection : q.projection = q'.projection := hparts .projection
  have hdistinct : q.distinct = q'.distinct := hparts .distinct
  have hlimit : q.limit = q'.limit := hparts .limit
  cases q
  cases q'
  simp_all

namespace QueryStep

/-- The part that a call changes, if it changes any. -/
def part? : QueryStep → Option QueryPart
  | .filter _ => some .conditions
  | .join _ _ _ => some .joins
  | .orderBy _ _ => some .order
  | .selectEntity _ => some .selected
  | .selectFields _ | .selectColumns _ => some .projection
  | .distinct => some .distinct
  | .take _ | .first => some .limit
  | .column _ | .columnOf _ _ | .sql | .build => none

/-- What a call makes of a part, where its entity is registered and unless it is refused. -/
def change (registry : Registry) :
    QueryStep → (part : QueryPart) → part.Content → part.Content
  | .filter e, .conditions, (binder, filters) =>
      match binder.compile e with
      | (.ok written, binder) => (binder, filters ++ [written])
      | (.error _, _) => (binder, filters)
  | .join e left right, .joins, joins => joins ++ [⟨registry.get e.key, left, right⟩]
  | .orderBy c descending, .order, order => ⟨c, descending⟩ :: order
  | .selectEntity e, .selected, _ => some e.key
  | .selectFields fields, .projection, _ => .fields fields
  | .selectColumns columns, .projection, _ => .columns columns
  | .distinct, .distinct, _ => true
  | .take n, .limit, _ => if n = 0 then none else some n
  | .first, .limit, _ => some 1
  | _, _, content => content

/-- A call leaves the parts of other kinds alone. -/
theorem change_of_ne (registry : Registry) {step : QueryStep} {part : QueryPart}
    (h : step.part? ≠ some part) (content : part.Content) :
    step.change registry part content = content := by
  cases step <;> cases part <;> first | rfl | exact absurd rfl h

end QueryStep

/-! ### Calls about registered entities -/

theorem Registry.resolve_of_isSome {registry : Registry} {e : Entity}
    (h : (registry.lookup e.key).isSome = true) :
    registry.resolve e = (registry, registry.get e.key) := by
  obtain ⟨table, htable⟩ := Option.isSome_iff_exists.mp h
  rw [resolve_of_some htable, get, htable]
  rfl

namespace QueryStep

/-- The entity that a call names, if it names one, is registered. -/
def Finds (registry : Registry) (step : QueryStep) : Prop :=
  ∀ e ∈ step.entity?, (registry.lookup e.key).isSome = true

instance (registry : Registry) (step : QueryStep) : Decidable (Finds registry step) :=
  inferInstanceAs (Decidable (∀ e ∈ step.entity?, _))

variable {s : QueryState}

theorem registry_run_of_finds {step : QueryStep} (h : Finds s.registry step) :
    (run s step).2.registry = s.registry := by
  rw [registry_run, calls]
  cases he : step.entity? with
  | none => rfl
  | some e =>
    show s.registry.performAll [e.resolution] = s.registry
    rw [← registry_resolve, Registry.resolve_of_isSome (h e he)]

theorem settings_run (s : QueryState) (step : QueryStep) :
    (run s step).2.query.settings = s.query.settings := by
  cases step with
  | filter e => rcases query_filter s e with h | ⟨_, _, h⟩ <;> rw [h]
  | selectFields fields => rcases query_selectFields s fields with h | h <;> rw [h]
  | _ => rfl

/-- **One call.**  Every part is what the call makes of it. -/
theorem part_run {step : QueryStep} (hfinds : Finds s.registry step)
    (haccepted : step.isRefused (run s step).1 = false) (part : QueryPart) :
    (run s step).2.query.part part = step.change s.registry part (s.query.part part) := by
  cases step with
  | filter e =>
    have hchange : (run s (.filter e)).2.query.part .conditions
        = change s.registry (.filter e) .conditions (s.query.binder, s.query.filters) := by
      rw [run, Query.filter, change]
      rcases s.query.binder.compile e with ⟨cause | written, binder⟩
      · rfl
      · rfl
    cases part with
    | conditions => exact hchange
    | _ => rcases query_filter s e with h | ⟨_, _, h⟩ <;> rw [h] <;> rfl
  | selectFields fields =>
    -- Fields that are refused would leave the projection as it was.
    have hquery : (run s (.selectFields fields)).2.query
        = { s.query with projection := .fields fields } := by
      rw [run] at haccepted ⊢
      unfold Query.selectFields at haccepted ⊢
      split at haccepted
      · rfl
      · exact absurd haccepted (by simp [QueryState.change, isRefused, Answer.isFailure])
    rw [hquery]
    cases part <;> rfl
  | join e left right =>
    rw [run, Registry.resolve_of_isSome (hfinds e rfl)]
    cases part <;> rfl
  | _ => cases part <;> rfl

/-- **All calls.**  The registry stays as it is, and every part is what the calls that change it
    make of it, one after the other. -/
theorem part_runAll {steps : List QueryStep} (hfinds : ∀ step ∈ steps, Finds s.registry step)
    (haccepted : ∀ call ∈ steps.zip (runAll s steps).1, call.1.isRefused call.2 = false) :
    (runAll s steps).2.registry = s.registry ∧
      ∀ part, (runAll s steps).2.query.part part
        = (steps.filter fun step => step.part? = some part).foldl
            (fun content step => step.change s.registry part content) (s.query.part part) := by
  induction steps generalizing s with
  | nil => exact ⟨rfl, fun part => rfl⟩
  | cons step rest ih =>
    have hstep : Finds s.registry step := hfinds step List.mem_cons_self
    have hregistry : (run s step).2.registry = s.registry := registry_run_of_finds hstep
    have hrest : ∀ later ∈ rest, Finds (run s step).2.registry later := by
      intro later hlater
      rw [hregistry]
      exact hfinds later (List.mem_cons_of_mem step hlater)
    obtain ⟨hlater, hparts⟩ :=
      ih hrest fun call hcall => haccepted call (List.mem_cons_of_mem _ hcall)
    rw [hregistry] at hlater hparts
    refine ⟨hlater, fun part => ?_⟩
    have hpart := part_run hstep (haccepted _ List.mem_cons_self) part
    show (runAll (run s step).2 rest).2.query.part part = _
    rw [hparts part, hpart]
    by_cases hkind : step.part? = some part
    · rw [List.filter_cons_of_pos (by simpa using hkind), List.foldl_cons]
    · rw [List.filter_cons_of_neg (by simpa using hkind), change_of_ne s.registry hkind]

theorem settings_runAll (s : QueryState) (steps : List QueryStep) :
    (runAll s steps).2.query.settings = s.query.settings := by
  induction steps generalizing s with
  | nil => rfl
  | cons step rest ih => exact (ih (run s step).2).trans (settings_run s step)

theorem entity_runAll (s : QueryState) (steps : List QueryStep) :
    (runAll s steps).2.query.entity = s.query.entity := by
  induction steps generalizing s with
  | nil => rfl
  | cons step rest ih => exact (ih (run s step).2).trans (entity_run s step)

/-! ### Another order -/

/-- Calls for distinct rows are all the same, so that their order is not to be told. -/
theorem filter_distinct_of_perm {steps other : List QueryStep} (h : other.Perm steps) :
    other.filter (fun step => step.part? = some .distinct)
      = steps.filter fun step => step.part? = some .distinct := by
  have hsame : ∀ calls : List QueryStep,
      ∀ step ∈ calls.filter (fun step => step.part? = some .distinct), step = .distinct := by
    intro calls step hstep
    have hpart := of_decide_eq_true (List.mem_filter.mp hstep).2
    cases step <;> first | rfl | exact absurd hpart (by simp [part?])
  rw [List.eq_replicate_of_mem (hsame other), List.eq_replicate_of_mem (hsame steps),
    (h.filter _).length_eq]

/-- **Another order.**  Take calls on a query in any state that name registered entities only, and
    the same calls in another order, which leaves the conditions in their order, and so the joins,
    the sort keys, the selections of fields and columns, the selections of entities and the limits.
    If no condition and no selection of fields is refused in either order, the statement has the
    same text in the end, or fails to have one in the same way, and the same parameters; and query
    and registry are the same altogether. -/
theorem runAll_reordered (s : QueryState) {steps other : List QueryStep} (hsame : other.Perm steps)
    (horder : ∀ part ≠ .distinct, other.filter (fun step => step.part? = some part)
      = steps.filter fun step => step.part? = some part)
    (hfinds : ∀ step ∈ steps, Finds s.registry step)
    (haccepted : ∀ call ∈ steps.zip (runAll s steps).1, call.1.isRefused call.2 = false)
    (hother : ∀ call ∈ other.zip (runAll s other).1, call.1.isRefused call.2 = false) :
    let done := (runAll s steps).2
    let done' := (runAll s other).2
    done'.query.sql done'.registry = done.query.sql done.registry ∧
      done'.query.binder.parameters = done.query.binder.parameters ∧ done' = done := by
  intro done done'
  obtain ⟨hregistry, hparts⟩ := part_runAll hfinds haccepted
  obtain ⟨hregistry', hparts'⟩ :=
    part_runAll (fun step hstep => hfinds step (hsame.subset hstep)) hother
  have hquery : done'.query = done.query := by
    refine Query.eq_of_part ?_ ?_ fun part => ?_
    · rw [settings_runAll, settings_runAll]
    · rw [entity_runAll, entity_runAll]
    · rw [hparts part, hparts' part]
      by_cases hpart : part = .distinct
      · subst hpart
        rw [filter_distinct_of_perm hsame]
      · rw [horder part hpart]
  have hdone : done' = done := by
    have hregistries : done'.registry = done.registry := hregistry'.trans hregistry.symm
    show QueryState.mk done'.registry done'.query = ⟨done.registry, done.query⟩
    rw [hregistries, hquery]
  exact ⟨by rw [hdone], by rw [hdone], hdone⟩

/-- A selection of fields, a join and a sort key change places with two conditions, the selection
    of another entity, and a limit.  The field is selected from one entity or the other. -/
theorem runAll_reordered_behind :
    let note := Entity.plain ⟨"Note"⟩ ⟨"n", none, "note", Keyed.ofList [("Title", "title")]⟩
    let tag := Entity.plain ⟨"Tag"⟩
      ⟨"g", none, "tag", Keyed.ofList [("Id", "id"), ("Title", "label")]⟩
    let s := QueryState.start (Registry.empty.performAll [tag.resolution]) .standard note
    let recent := Expr.binary (.column (.bare "age")) (.comparison .lt) (.literal (.int 7))
    let short := Expr.binary (.column (.bare "length")) (.comparison .lt) (.literal (.int 80))
    let early : List QueryStep := [.selectFields ["Title"],
      .join tag (.qualified "n" "tag_id") (.qualified "g" "id"), .orderBy (.bare "age") true]
    let late : List QueryStep :=
      [.filter recent, .selectEntity tag, .distinct, .filter short, .take 5]
    let done := (runAll s (early ++ late)).2
    let done' := (runAll s (late ++ early)).2
    done' = done ∧ done.query.sql done.registry
      = .ok ("SELECT DISTINCT g.label FROM note n JOIN tag g ON n.tag_id = g.id "
        ++ "WHERE age < @ld__1 AND length < @ld__2 ORDER BY age DESC LIMIT(5)") := by
  intro note tag s recent short early late done done'
  have horder : ∀ part ≠ .distinct,
      (late ++ early).filter (fun step => step.part? = some part)
        = (early ++ late).filter fun step => step.part? = some part := by
    intro part hpart
    cases part with
    | distinct => exact absurd rfl hpart
    | _ => rfl
  obtain ⟨-, -, hdone⟩ := runAll_reordered s List.perm_append_comm horder (by decide +kernel)
    (by decide +kernel) (by decide +kernel)
  exact ⟨hdone, by decide +kernel⟩

end QueryStep

end BoundSql
