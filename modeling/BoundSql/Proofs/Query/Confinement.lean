import BoundSql.Proofs.Clause.Redaction
import BoundSql.Query.Step

namespace BoundSql

/-!
# Query — values stay out of the text

Two runs of the same calls whose conditions differ in their values only cannot be told apart
by what they answer, but for the values of parameters.  The two queries agree in everything
but those values after every call, whether it succeeds or fails.

* `Binder.Alike`, `Query.Alike`, `QueryState.Alike` — equal but for the values.
* `QueryStep.run_alike` — what one call keeps.
* `QueryStep.runAll_confined` — what all calls answer.
-/

/-! ### Binders -/

/-- The binders have given the same names, perhaps to other values. -/
structure Binder.Alike (a b : Binder) : Prop where
  naming : a.naming = b.naming
  counter : a.counter = b.counter
  keys : a.parameters.keys = b.parameters.keys

namespace Binder.Alike

variable {a b : Binder}

theorem refl (a : Binder) : a.Alike a := ⟨rfl, rfl, rfl⟩

theorem bind (h : a.Alike b) {v w : Value} (hv : v.isNull = false) (hw : w.isNull = false) :
    (a.bind v).2.Alike (b.bind w).2 := by
  rw [bind_of_not_null a hv, bind_of_not_null b hw]
  refine ⟨h.naming, by simp only [h.counter], ?_⟩
  show (a.parameters.insert _ v).keys = (b.parameters.insert _ w).keys
  rw [Keyed.keys_insert, Keyed.keys_insert, h.naming, h.counter, h.keys]

/-- As many values get the same names. -/
theorem bindAll (h : a.Alike b) {vs ws : List Value} (hlength : vs.length = ws.length)
    (hvs : ∀ v ∈ vs, v.isNull = false) (hws : ∀ w ∈ ws, w.isNull = false) :
    (a.bindAll vs).Alike (b.bindAll ws) := by
  induction vs generalizing a b ws with
  | nil =>
    obtain rfl := List.length_eq_zero_iff.mp hlength.symm
    exact h
  | cons v vs ih =>
    cases ws with
    | nil => exact absurd hlength (by simp)
    | cons w ws =>
      -- The first values get the same name, and the binders stay alike.
      have hfirst := h.bind (hvs v List.mem_cons_self) (hws w List.mem_cons_self)
      exact ih hfirst (Nat.succ.inj hlength) (fun x hx => hvs x (List.mem_cons_of_mem v hx))
        (fun x hx => hws x (List.mem_cons_of_mem w hx))

/-- Templates that differ in their values are filled to the same text, with the same names. -/
theorem fill (h : a.Alike b) {s t : Template}
    (hst : s.redact Value.sample = t.redact Value.sample) :
    (a.fill s).1 = (b.fill t).1 ∧ (a.fill s).2.Alike (b.fill t).2 := by
  have hsample := Value.keepsKinds_sample.redaction
  constructor
  · -- The text hangs on the counter and on where null stands, and both are the same.
    have hleft : a.counter = UInt32.ofNat a.counter.toNat := by simp
    have hright : b.counter = UInt32.ofNat a.counter.toNat := by rw [h.counter]; simp
    rw [fst_fill hleft, fst_fill hright, h.naming, ← Template.write_redact hsample, hst,
      Template.write_redact hsample]
  · rw [snd_fill, snd_fill]
    -- Templates that become the same have as many values.
    have hlength : (Template.values s).length = (Template.values t).length := by
      rw [← List.length_map Value.sample, ← Template.values_redact hsample, hst,
        Template.values_redact hsample, List.length_map]
    exact h.bindAll hlength (fun _ => Template.not_null_of_mem_values)
      (fun _ => Template.not_null_of_mem_values)

end Binder.Alike

/-- Alike trees are written alike: with the same text, or with the same failure. -/
theorem Binder.Alike.compile {a b : Binder} (h : a.Alike b) {e e' : Expr} (he : e.Alike e') :
    (∃ written c d, a.compile e = (.ok written, c) ∧ b.compile e' = (.ok written, d) ∧
        c.Alike d) ∨
      ∃ cause c d, a.compile e = (.error cause, c) ∧ b.compile e' = (.error cause, d) := by
  rcases he.lower false with ⟨c, d, hc, hd, hcd⟩ | ⟨r, s, hr, hs, hcause⟩
  · left
    have htemplates : Template.redact Value.sample c.template
        = Template.redact Value.sample d.template := by
      rw [← Clause.template_redact, hcd, Clause.template_redact]
    have hcompound : c.isCompound = d.isCompound := by
      rw [← Clause.isCompound_redact Value.sample, hcd, Clause.isCompound_redact]
    obtain ⟨htext, hafter⟩ := h.fill htemplates
    refine ⟨⟨(b.fill d.template).1, d.isCompound⟩, _, _, ?_, ?_, hafter⟩
    · rw [Binder.compile, hc.lower]
      simp only [htext, hcompound]
    · rw [Binder.compile, hd.lower]
  · right
    refine ⟨r.cause, a.bindAll r.values, b.bindAll s.values, ?_, ?_⟩
    · rw [Binder.compile, hr]
    · rw [Binder.compile, hs, hcause]

/-! ### Queries -/

/-- The queries are equal but for the values of their parameters. -/
def Query.Alike (q r : Query) : Prop := ∃ binder, q.binder.Alike binder ∧ r = { q with binder }

/-- The registries are equal, and the queries but for the values of their parameters. -/
structure QueryState.Alike (s t : QueryState) : Prop where
  registry : s.registry = t.registry
  query : s.query.Alike t.query

/-- The answers are equal but for the values of parameters. -/
def Answer.Alike : Answer → Answer → Prop
  | .statement s, .statement t => s.sql = t.sql ∧ s.parameters.keys = t.parameters.keys
  | a, b => a = b

/-- The calls are equal but for the values in a condition and its wishes about case. -/
inductive QueryStep.Alike : QueryStep → QueryStep → Prop where
  | filter {e e' : Expr} (h : e.Alike e') : Alike (.filter e) (.filter e')
  | same (step : QueryStep) : Alike step step

theorem Answer.Alike.refl (a : Answer) : a.Alike a := by
  cases a with
  | statement s => exact ⟨rfl, rfl⟩
  | _ => rfl

namespace Query.Alike

variable {q r : Query}

theorem refl (q : Query) : q.Alike q := ⟨q.binder, .refl q.binder, rfl⟩

theorem keys (h : q.Alike r) : q.binder.parameters.keys = r.binder.parameters.keys := by
  obtain ⟨binder, hbinder, rfl⟩ := h
  exact hbinder.keys

/-- The text of a statement is assembled without the binder. -/
theorem sql (h : q.Alike r) (registry : Registry) : q.sql registry = r.sql registry := by
  obtain ⟨binder, -, rfl⟩ := h
  rfl

theorem column (h : q.Alike r) (registry : Registry) (field : String) :
    q.column registry field = r.column registry field := by
  obtain ⟨binder, -, rfl⟩ := h
  rfl

theorem build (h : q.Alike r) (registry : Registry) :
    (Answer.ofExcept .statement (q.build registry)).Alike
      (.ofExcept .statement (r.build registry)) := by
  unfold Query.build
  rw [h.sql registry]
  cases r.sql registry with
  | ok text => exact ⟨rfl, h.keys⟩
  | error e => rfl

/-- A change that has nothing to do with the binder keeps queries alike. -/
theorem change (h : q.Alike r) (f : Query → Query)
    (hbinder : ∀ q : Query, (f q).binder = q.binder)
    (hf : ∀ (q : Query) (binder : Binder), f { q with binder } = { f q with binder }) :
    (f q).Alike (f r) := by
  obtain ⟨binder, hnames, rfl⟩ := h
  refine ⟨binder, ?_, hf q binder⟩
  rw [hbinder]
  exact hnames

/-- Alike conditions are both added, or both refused for the same reason. -/
theorem filter (h : q.Alike r) {e e' : Expr} (he : e.Alike e') :
    (∃ q' r', q.filter e = .ok q' ∧ r.filter e' = .ok r' ∧ q'.Alike r') ∨
      ∃ error, q.filter e = .error error ∧ r.filter e' = .error error := by
  obtain ⟨binder, hnames, rfl⟩ := h
  rcases hnames.compile he with ⟨written, c, d, hc, hd, hcd⟩ | ⟨cause, c, d, hc, hd⟩
  · -- Both queries keep their binders, and the same text is added to both.
    left
    refine ⟨{ q with binder := c, filters := q.filters ++ [written] },
      { q with binder := d, filters := q.filters ++ [written] }, ?_, ?_, d, hcd, rfl⟩
    · rw [Query.filter, hc]
    · rw [Query.filter, hd]
  · right
    refine ⟨.lowering cause, ?_, ?_⟩
    · rw [Query.filter, hc]
    · rw [Query.filter, hd]

/-- Fields are selected, or refused, by the selected entity and the registry alone. -/
theorem selectFields (h : q.Alike r) (registry : Registry) (fields : List String) :
    (∃ q' r', q.selectFields registry fields = .ok q' ∧ r.selectFields registry fields = .ok r' ∧
        q'.Alike r') ∨
      ∃ error, q.selectFields registry fields = .error error ∧
        r.selectFields registry fields = .error error := by
  obtain ⟨binder, hnames, rfl⟩ := h
  -- The entity that is selected does not depend on the binder.
  have hselected : ({ q with binder } : Query).selectedEntity = q.selectedEntity := rfl
  cases hcolumns : Query.columnsOfFields q.selectedEntity (registry.get q.selectedEntity) fields
      Keyed.empty with
  | ok columns =>
    left
    refine ⟨{ q with projection := .fields fields },
      { q with binder, projection := .fields fields }, ?_, ?_, binder, hnames, rfl⟩
    · rw [Query.selectFields, hcolumns]
    · rw [Query.selectFields, hselected, hcolumns]
  | error e =>
    right
    refine ⟨e, ?_, ?_⟩
    · rw [Query.selectFields, hcolumns]
    · rw [Query.selectFields, hselected, hcolumns]

end Query.Alike

/-! ### Calls -/

namespace QueryState.Alike

variable {s t : QueryState}

/-- Changes that both succeed with alike queries, or both fail for the same reason. -/
theorem change (h : s.Alike t) {x y : Except Error Query}
    (hxy : (∃ q r, x = .ok q ∧ y = .ok r ∧ q.Alike r) ∨
      ∃ error, x = .error error ∧ y = .error error) :
    (s.change x).1.Alike (t.change y).1 ∧ (s.change x).2.Alike (t.change y).2 := by
  rcases hxy with ⟨q, r, rfl, rfl, hqr⟩ | ⟨error, rfl, rfl⟩
  · exact ⟨rfl, h.registry, hqr⟩
  · exact ⟨rfl, h⟩

/-- A change that cannot fail and has nothing to do with the binder. -/
theorem update (h : s.Alike t) (f : Query → Query)
    (hbinder : ∀ q : Query, (f q).binder = q.binder)
    (hf : ∀ (q : Query) (binder : Binder), f { q with binder } = { f q with binder }) :
    (s.change (.ok (f s.query))).1.Alike (t.change (.ok (f t.query))).1 ∧
      (s.change (.ok (f s.query))).2.Alike (t.change (.ok (f t.query))).2 :=
  h.change (.inl ⟨_, _, rfl, rfl, h.query.change f hbinder hf⟩)

end QueryState.Alike

namespace QueryStep

variable {s t : QueryState}

/-- One and the same call on alike states. -/
theorem run_same_alike (h : s.Alike t) (step : QueryStep) :
    (run s step).1.Alike (run t step).1 ∧ (run s step).2.Alike (run t step).2 := by
  cases step with
  | filter e => exact h.change (h.query.filter rfl)
  | selectFields fields =>
    rw [run, run, ← h.registry]
    exact h.change (h.query.selectFields s.registry fields)
  | orderBy c descending =>
    exact h.update (fun q => q.orderBy c descending) (fun _ => rfl) (fun _ _ => rfl)
  | selectColumns columns =>
    exact h.update (fun q => q.selectColumns columns) (fun _ => rfl) (fun _ _ => rfl)
  | distinct => exact h.update Query.makeDistinct (fun _ => rfl) (fun _ _ => rfl)
  | take n => exact h.update (fun q => q.take n) (fun _ => rfl) (fun _ _ => rfl)
  | first => exact h.update Query.first (fun _ => rfl) (fun _ _ => rfl)
  | column field =>
    refine ⟨?_, h⟩
    rw [run, run, ← h.registry, h.query.column]
    exact .refl _
  | sql =>
    refine ⟨?_, h⟩
    rw [run, run, ← h.registry, h.query.sql]
    exact .refl _
  | build =>
    refine ⟨?_, h⟩
    rw [run, run, ← h.registry]
    exact h.query.build s.registry
  | columnOf e field =>
    rw [run, run, ← h.registry]
    exact ⟨.refl _, rfl, h.query⟩
  | join e left right =>
    rw [run, run, ← h.registry]
    exact ⟨.refl _, rfl, h.query.change (fun q => q.join _ left right) (fun _ => rfl)
      (fun _ _ => rfl)⟩
  | selectEntity e =>
    rw [run, run, ← h.registry]
    exact ⟨.refl _, rfl, h.query.change (fun q => q.selectEntity e.key) (fun _ => rfl)
      (fun _ _ => rfl)⟩

/-- **One call.**  Alike calls on alike states answer alike and leave alike states. -/
theorem run_alike (h : s.Alike t) {step step' : QueryStep} (hstep : step.Alike step') :
    (run s step).1.Alike (run t step').1 ∧ (run s step).2.Alike (run t step').2 := by
  cases hstep with
  | filter he => exact h.change (h.query.filter he)
  | same => exact run_same_alike h step

/-- All calls: the induction is on the calls, and what carries it is that the states stay
    alike. -/
theorem runAll_alike (h : s.Alike t) {steps steps' : List QueryStep}
    (hsteps : List.Forall₂ QueryStep.Alike steps steps') :
    List.Forall₂ Answer.Alike (runAll s steps).1 (runAll t steps').1 ∧
      (runAll s steps).2.Alike (runAll t steps').2 := by
  induction hsteps generalizing s t with
  | nil => exact ⟨.nil, h⟩
  | cons hstep hsteps ih =>
    obtain ⟨hanswer, hstate⟩ := run_alike h hstep
    obtain ⟨hanswers, hend⟩ := ih hstate
    exact ⟨.cons hanswer hanswers, hend⟩

/-- **Confinement.**  Two new queries about one entity, over one registry and under the same
    settings, are used by the same calls, where conditions may differ in their values, each one
    replaced by another one of its kind, and in their wishes to ignore case.  Call by call they
    answer the same but for the values of parameters, failures included; and at the end they
    have the same text and the same names of parameters. -/
theorem runAll_confined (registry : Registry) (settings : Settings) (entity : Entity)
    {steps steps' : List QueryStep} (hsteps : List.Forall₂ QueryStep.Alike steps steps') :
    let start := QueryState.start registry settings entity
    let s := (runAll start steps).2
    let t := (runAll start steps').2
    List.Forall₂ Answer.Alike (runAll start steps).1 (runAll start steps').1 ∧
      s.query.sql s.registry = t.query.sql t.registry ∧
      s.query.binder.parameters.keys = t.query.binder.parameters.keys := by
  intro start s t
  -- Both runs begin in one and the same state.
  have hstart : start.Alike start := ⟨rfl, .refl start.query⟩
  obtain ⟨hanswers, hend⟩ := runAll_alike hstart hsteps
  refine ⟨hanswers, ?_, hend.query.keys⟩
  rw [hend.query.sql s.registry, hend.registry]

/-- A text that looks like a condition shows no more than an empty one, and neither does a
    pattern that is refused. -/
theorem runAll_confined_injection :
    let start := QueryState.start .empty .standard (.plain ⟨"User"⟩ (.new "users"))
    let column := Expr.column (.bare "name")
    let steps : List QueryStep :=
      [.filter (.binary column (.comparison .eq) (.literal (.string "x' OR '1' = '1"))),
        .filter (column.matching .atStart (.literal (.int 7))), .sql]
    let steps' : List QueryStep :=
      [.filter (.binary column (.comparison .eq) (.literal (.string ""))),
        .filter (column.matching .atStart (.literal (.int 0))).ignoringCase, .sql]
    let s := (runAll start steps).2
    let t := (runAll start steps').2
    List.Forall₂ Answer.Alike (runAll start steps).1 (runAll start steps').1 ∧
      s.query.sql s.registry = t.query.sql t.registry ∧
      s.query.binder.parameters.keys = t.query.binder.parameters.keys :=
  runAll_confined .empty .standard (.plain ⟨"User"⟩ (.new "users"))
    (.cons (.filter rfl) (.cons (.filter rfl) (.cons (.same .sql) .nil)))

end QueryStep

end BoundSql
