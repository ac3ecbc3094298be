import BoundSql.Proofs.Clause.Conjuncts
import BoundSql.Proofs.Query.Outline

namespace BoundSql

/-!
# Query — several conditions are their conjunction

A single condition stands in a statement as it is, and several ones are put in parentheses where
they need them: another way to write a conjunction than that of a tree with `AND` at its root.
Both come to the same.  Several conditions are read as a conjunction of as many, each of them as it
is read alone, and two conditions make the same statement as the one tree that joins them.

* `Query.ReadsAlone` — a conjunct is read as the condition of a query that has no other.
* `Query.Records.exists_conjuncts` — how the condition of a query is read.
* `QueryStep.runAll_withConditions` — the other calls do not notice the conditions.
* `QueryStep.runAll_conjunction` — the conditions that calls have added.
-/

open Sql

/-! ### One condition alone -/

namespace Query

/-- A conjunct of the condition of a query, in which values are bound, is read as the tree is that
    is the only condition of a new query.  The new query accepts the tree, and its text is read in
    one way; the two readings differ in the names of placeholders only; and these names stand for
    the same values, as long as the numbers suffice. -/
def ReadsAlone (q : Query) (count : Nat) (e : Expr) (read : Condition String) : Prop :=
  ∃ alone text single, (Query.new q.settings q.entity).filter e = .ok alone ∧
    alone.condition = some text ∧
    (∀ c, Parses q.settings.naming.sigil text c ↔ c = single) ∧
    (∃ shape, read.unnumbered = some shape ∧ single.unnumbered = some shape) ∧
    (count < UInt32.size → ∃ meaning, read.resolve q.binder.parameters.get? = some meaning ∧
      single.resolve alone.binder.parameters.get? = some meaning)

/-- A tree that is lowered is accepted by any query. -/
theorem exists_filter (q : Query) {e : Expr} {clause : Clause} (h : e.Lowers false clause) :
    ∃ after, q.filter e = .ok after := by
  rw [filter, Binder.compile, h.lower]
  exact ⟨_, rfl⟩

namespace Records

variable {q : Query} {naming : Naming} {trees : List Expr} {clauses : List Clause}

/-- The values of the trees are found under the names of their places. -/
theorem finds (h : q.Records naming trees clauses)
    (hroom : (trees.flatMap Expr.literals).length < UInt32.size) :
    naming.Finds q.binder.parameters.get? 0 (trees.flatMap Expr.literals) := by
  intro i v hv
  have hget := (h.names hroom).get? hv
  rw [h.naming_eq] at hget
  rw [Nat.zero_add]
  exact hget

/-- **One condition.**  A new query with one condition is read in one way. -/
theorem exists_single {e : Expr} {clause : Clause} (h : q.Records naming [e] [clause])
    (hlegible : naming.Legible) (hnames : ∀ c ∈ e.columns, c.isNamed = true) :
    ∃ text single, q.condition = some text ∧ (∀ c, Parses naming.sigil text c ↔ c = single) ∧
      single.unnumbered = some (clause.redact Value.blank).condition ∧
      (e.literalCount < UInt32.size →
        single.resolve q.binder.parameters.get? = some clause.condition) := by
  obtain ⟨hlowers, -⟩ := List.forall₂_cons.mp h.lowers
  obtain ⟨tokens, single, hreads, hderives, hread⟩ :=
    Clause.exists_reading hlegible hlowers hnames 0
  refine ⟨clause.template.write naming.placeholderAt 0, single, ?_, ?_, hread.unnumbered, ?_⟩
  · exact h.condition_eq_write (by simp)
  · exact parses_iff hreads (Clause.derives_chain hderives)
  · intro hroom
    have hfinds := h.finds (by simpa [Expr.literalCount] using hroom)
    apply hread.resolve
    rw [hlowers.literals]
    simpa using hfinds

end Records

/-- A reading in a query, beside that of the tree alone. -/
theorem exists_alone {q : Query} {count : Nat} {e : Expr} {read : Condition String}
    (hlegible : q.settings.naming.Legible) (hnames : ∀ c ∈ e.columns, c.isNamed = true)
    (hcount : e.literalCount ≤ count)
    (hshape : ∃ clause, e.Lowers false clause ∧
      read.unnumbered = some (clause.redact Value.blank).condition)
    (hmeaning : count < UInt32.size → ∃ clause, e.Lowers false clause ∧
      read.resolve q.binder.parameters.get? = some clause.condition) :
    q.ReadsAlone count e read := by
  obtain ⟨clause, hlowers, hread⟩ := hshape
  obtain ⟨alone, halone⟩ := (Query.new q.settings q.entity).exists_filter hlowers
  obtain ⟨other, hrecords⟩ := (Records.start q.settings q.entity).filter halone
  obtain ⟨hother, -⟩ := List.forall₂_cons.mp hrecords.lowers
  obtain rfl := hother.unique hlowers
  obtain ⟨text, single, htext, hparses, hshape, hvalue⟩ := hrecords.exists_single hlegible hnames
  refine ⟨alone, text, single, halone, htext, hparses, ⟨_, hread, hshape⟩, fun hroom => ?_⟩
  obtain ⟨found, hfound, hresolve⟩ := hmeaning hroom
  obtain rfl := hfound.unique hlowers
  exact ⟨_, hresolve, hvalue (by omega)⟩

/-- Several conditions have as many texts, and all of these are joined. -/
theorem condition_of_two_le {q : Query} (h : 2 ≤ q.filters.length) :
    q.condition = some (" AND ".intercalate (q.filters.map ConditionText.nested)) := by
  unfold condition
  split
  · rename_i hnone
    rw [hnone] at h
    exact absurd h (by simp)
  · rename_i only hone
    rw [hone] at h
    exact absurd h (by simp)
  · rfl

/-- **Several conditions.**  The condition of a query to which two or more were added is read as
    the conjunction of as many parts, and each part is read as its tree is alone. -/
theorem Records.exists_conjuncts {q : Query} {trees : List Expr} {clauses : List Clause}
    (h : q.Records q.settings.naming trees clauses) (hlegible : q.settings.naming.Legible)
    (hnames : ∀ e ∈ trees, ∀ c ∈ e.columns, c.isNamed = true) (htwo : 2 ≤ trees.length) :
    ∃ text parts first rest, q.condition = some text ∧
      scan q.settings.naming.sigil text.toList
        = some ([Token.keyword (.logical .and)].intercalate parts) ∧
      List.Forall₂ (Derives .negation) parts (first :: rest) ∧
      (∀ c, Parses q.settings.naming.sigil text c ↔ c = first.conjoin rest) ∧
      List.Forall₂ (q.ReadsAlone (trees.flatMap Expr.literals).length) trees (first :: rest) := by
  obtain ⟨parts, reads, hparts, hderives, hshapes, hvalues⟩ :=
    Clause.exists_readings hlegible h.lowers hnames 0
  have hlength : trees.length = reads.length := hshapes.length_eq
  obtain ⟨first, rest, rfl⟩ : ∃ first rest, reads = first :: rest := by
    apply List.exists_cons_of_length_pos
    omega
  have hfilters : 2 ≤ q.filters.length := by
    have hclauses : trees.length = clauses.length := h.lowers.length_eq
    rw [h.filters, Clause.length_writeAll]
    omega
  rw [← h.filters] at hparts
  -- The names stand for the values if the numbers suffice, and the readings agree in any case.
  have hboth : List.Forall₂ (fun e read => (∃ clause, e.Lowers false clause ∧
        read.unnumbered = some (clause.redact Value.blank).condition) ∧
      ((trees.flatMap Expr.literals).length < UInt32.size → ∃ clause, e.Lowers false clause ∧
        read.resolve q.binder.parameters.get? = some clause.condition)) trees (first :: rest) := by
    rw [List.forall₂_iff_zip] at hshapes ⊢
    refine ⟨hshapes.1, fun hmem => ⟨hshapes.2 hmem, fun hroom => ?_⟩⟩
    have hfound := hvalues _ (h.finds hroom)
    exact (List.forall₂_iff_zip.mp hfound).2 hmem
  have hmembers : ∀ e ∈ trees, (∀ c ∈ e.columns, c.isNamed = true) ∧
      e.literalCount ≤ (trees.flatMap Expr.literals).length := by
    intro e he
    have hsublist := List.sublist_flatten_of_mem (List.mem_map_of_mem (f := Expr.literals) he)
    exact ⟨hnames e he, hsublist.length_le⟩
  refine ⟨_, parts, first, rest, condition_of_two_le hfilters,
    (reads_intercalate hlegible.sigil hparts).scan_eq, hderives,
    parses_intercalate hlegible.sigil hparts hderives, ?_⟩
  refine ((List.forall₂_and_left _ _).mpr ⟨hmembers, hboth⟩).imp ?_
  rintro e read ⟨⟨hcolumns, hcount⟩, hshape, hmeaning⟩
  exact exists_alone hlegible hcolumns hcount hshape hmeaning

end Query

/-! ### Two conditions and one -/

/-- Two conditions are written as the one that joins them. -/
theorem Clause.conjoin_pair (a b : Clause) : conjoin [.join false .and a b] = conjoin [a, b] := by
  simp [conjoin, template, nested, Connective.sql]

namespace Query.Records

variable {q r : Query} {naming : Naming} {clauses more : List Clause} {a b : Expr}

/-- The tree that joins two recorded ones is lowered to what joins their conditions. -/
theorem lowers_and (h : q.Records naming [a, b] clauses) :
    ∃ first second, clauses = [first, second] ∧
      (a.and b).Lowers false (.join false .and first second) := by
  obtain ⟨first, others, ha, hothers, rfl⟩ := List.forall₂_cons_left_iff.mp h.lowers
  obtain ⟨second, none, hb, hnone, rfl⟩ := List.forall₂_cons_left_iff.mp hothers
  obtain rfl := List.forall₂_nil_left_iff.mp hnone
  exact ⟨first, second, rfl, .logical .and false ha hb⟩

/-- Two conditions have the text and the parameters of the one that joins them. -/
theorem condition_and (hq : q.Records naming [a, b] clauses)
    (hr : r.Records naming [a.and b] more) :
    r.condition = q.condition ∧ r.binder.parameters = q.binder.parameters := by
  obtain ⟨first, second, rfl, hand⟩ := hq.lowers_and
  have hunique : Relator.RightUnique fun (e : Expr) clause => e.Lowers false clause :=
    fun _ _ _ h hother => h.unique hother
  obtain rfl := List.right_unique_forall₂' hunique hr.lowers (.cons hand .nil)
  constructor
  · rw [hr.condition_eq_write (by simp), hq.condition_eq_write (by simp), Clause.conjoin_pair]
  · rw [hr.binder, hq.binder]
    simp [Expr.and, Expr.literals]

end Query.Records

/-! ### Calls and conditions -/

namespace QueryState

/-- The state with other conditions of the query, written under another binder. -/
def withConditions (s : QueryState) (binder : Binder) (filters : List ConditionText) :
    QueryState :=
  { s with query := { s.query with binder, filters } }

/-- What a statement has of the conditions is their text and the parameters: states that differ in
    the conditions only build the same if these two are the same. -/
theorem build_eq_of_withConditions {s t : QueryState}
    (hsame : s.withConditions t.query.binder t.query.filters = t)
    (hcondition : t.query.condition = s.query.condition)
    (hparameters : t.query.binder.parameters = s.query.binder.parameters) :
    t.query.build t.registry = s.query.build s.registry := by
  have hsql : t.query.sql t.registry = s.query.sql s.registry := by
    unfold Query.sql Query.select
    rw [hcondition, ← hsame]
    rfl
  rw [Query.build, Query.build, hsql, hparameters]

end QueryState

namespace QueryStep

/-- Does the call add a condition? -/
def isFilter : QueryStep → Bool
  | .filter _ => true
  | _ => false

/-- The calls that do not add conditions. -/
def others (steps : List QueryStep) : List QueryStep := steps.filter (!·.isFilter)

/-- A call that does not add a condition does not notice those that are there. -/
theorem run_withConditions (s : QueryState) {step : QueryStep} (h : step.isFilter = false)
    (binder : Binder) (filters : List ConditionText) :
    (run (s.withConditions binder filters) step).2
      = (run s step).2.withConditions binder filters := by
  cases step with
  | filter e => exact absurd h (by simp [isFilter])
  | selectFields fields =>
    have hselected : (s.withConditions binder filters).query.selectedEntity
        = s.query.selectedEntity := rfl
    have hregistry : (s.withConditions binder filters).registry = s.registry := rfl
    rw [run, run, Query.selectFields, Query.selectFields, hselected, hregistry]
    cases Query.columnsOfFields s.query.selectedEntity (s.registry.get s.query.selectedEntity)
      fields Keyed.empty <;> rfl
  | _ => rfl

/-- A call that adds a condition, or fails to, changes nothing else. -/
theorem run_filter_withConditions (s : QueryState) (e : Expr) (binder : Binder)
    (filters : List ConditionText) :
    (run s (.filter e)).2.withConditions binder filters = s.withConditions binder filters := by
  rw [run]
  unfold Query.filter
  split <;> rfl

/-- **The other calls.**  But for the conditions, a run leaves what its other calls leave.  The
    induction is on the calls; the conditions are taken away before each of them. -/
theorem runAll_withConditions (s : QueryState) (steps : List QueryStep) (binder : Binder)
    (filters : List ConditionText) :
    (runAll s steps).2.withConditions binder filters
      = (runAll (s.withConditions binder filters) (others steps)).2 := by
  induction steps generalizing s with
  | nil => rfl
  | cons step rest ih =>
    have hrest := ih (run s step).2
    by_cases hfilter : step.isFilter = true
    · obtain ⟨e, rfl⟩ : ∃ e, step = .filter e := by
        cases step with
        | filter e => exact ⟨e, rfl⟩
        | _ => exact absurd hfilter (by simp [isFilter])
      rw [run_filter_withConditions] at hrest
      exact hrest
    · rw [Bool.not_eq_true] at hfilter
      have hothers : others (step :: rest) = step :: others rest := by simp [others, hfilter]
      rw [← run_withConditions s hfilter] at hrest
      rw [hothers]
      exact hrest

/-- Calls that add no conditions leave recorded what was recorded. -/
theorem runAll_records_others {s : QueryState} {naming : Naming} {trees : List Expr}
    {clauses : List Clause} (h : s.query.Records naming trees clauses) {steps : List QueryStep}
    (hsteps : ∀ step ∈ steps, step.isFilter = false) :
    (runAll s steps).2.query.Records naming trees clauses := by
  induction steps generalizing s with
  | nil => exact h
  | cons step rest ih =>
    have hstep : ∀ e, step ≠ .filter e := by
      rintro e rfl
      exact absurd (hsteps _ List.mem_cons_self) (by simp [isFilter])
    refine ih (run_records_other h hstep) fun later hlater => ?_
    exact hsteps later (List.mem_cons_of_mem step hlater)

/-- The only condition among other calls is accepted, if its tree is lowered, and is recorded as the
    only one. -/
theorem runAll_records_only {s : QueryState} {naming : Naming} {e : Expr} {clause : Clause}
    (h : s.query.Records naming [] []) (he : e.Lowers false clause) {x y : List QueryStep}
    (hothers : ∀ step ∈ x ++ y, step.isFilter = false) :
    (run (runAll s x).2 (.filter e)).1 = .done ∧
      ∃ more, (runAll s (x ++ .filter e :: y)).2.query.Records naming [e] more := by
  have hx : (runAll s x).2.query.Records naming [] [] :=
    runAll_records_others h fun step hstep => hothers step (List.mem_append_left y hstep)
  obtain ⟨after, hafter⟩ := (runAll s x).2.query.exists_filter he
  have hrun : run (runAll s x).2 (.filter e)
      = (.done, { (runAll s x).2 with query := after }) := by
    rw [run, hafter]
    rfl
  obtain ⟨found, hrecords⟩ := hx.filter hafter
  have hnext : (run (runAll s x).2 (.filter e)).2.query.Records naming [e] [found] := by
    rw [hrun]
    exact hrecords
  refine ⟨by rw [hrun], [found], ?_⟩
  rw [state_runAll_append]
  exact runAll_records_others hnext fun step hstep =>
    hothers step (List.mem_append_right x hstep)

/-- Where a condition is added among other calls makes no difference to these. -/
theorem others_insert {steps x y : List QueryStep} (hothers : x ++ y = others steps) (e : Expr) :
    others (x ++ .filter e :: y) = others steps := by
  have hself : others (others steps) = others steps := by simp [others]
  rw [← hself, ← hothers, others, others, List.filter_append, List.filter_append,
    List.filter_cons_of_neg (by simp [isFilter])]

/-- **Two conditions** make the statement that one call with the tree makes that joins them, between
    whatever other calls it comes. -/
theorem build_conjunction (registry : Registry) (settings : Settings) (entity : Entity)
    {steps x y : List QueryStep} {a b : Expr}
    (htwo : accepted steps (runAll (.start registry settings entity) steps).1 = [a, b])
    (hothers : x ++ y = others steps) :
    let start := QueryState.start registry settings entity
    let s := (runAll start steps).2
    let t := (runAll start (x ++ .filter (a.and b) :: y)).2
    (run (runAll start x).2 (.filter (a.and b))).1 = .done ∧
      t.query.build t.registry = s.query.build s.registry := by
  intro start s t
  have hstart : start.query.Records settings.naming [] [] := Query.Records.start settings entity.key
  obtain ⟨clauses, hs⟩ := runAll_records hstart steps
  rw [htwo, List.nil_append] at hs
  obtain ⟨first, second, -, hand⟩ := hs.lowers_and
  have hplain : ∀ step ∈ x ++ y, step.isFilter = false := by
    rw [hothers]
    intro step hstep
    simpa using (List.mem_filter.mp hstep).2
  obtain ⟨hdone, more, ht⟩ := runAll_records_only hstart hand hplain
  -- But for the conditions, the two runs leave the same.
  have hsame : s.withConditions t.query.binder t.query.filters = t := by
    have hs := runAll_withConditions start steps t.query.binder t.query.filters
    have ht := runAll_withConditions start (x ++ .filter (a.and b) :: y) t.query.binder
      t.query.filters
    rw [others_insert hothers] at ht
    exact hs.trans ht.symm
  obtain ⟨hcondition, hparameters⟩ := hs.condition_and ht
  exact ⟨hdone, QueryState.build_eq_of_withConditions hsame hcondition hparameters⟩

/-- **Several conditions.**  A new query is used by any calls, and of the conditions that they add
    two or more are accepted.  The naming is one that validation accepts, its sign is none of the
    syntax, and the names of the columns are identifiers.  The text behind `WHERE` is as many
    parts with `AND` between them, none of which has a connective at its root outside of
    parentheses.  It is read in one way, as the conjunction of the parts, and each part is read as
    its tree is alone.  Where the conditions are two, the one call with the tree that joins them
    makes the same statement with the same parameters, wherever it stands among the other calls. -/
theorem runAll_conjunction (registry : Registry) (settings : Settings) (entity : Entity)
    (steps : List QueryStep) (hvalid : settings.validate = .ok ())
    (hapart : settings.naming.sigil ∉ syntaxCharacters)
    (htwo : 2 ≤ (accepted steps (runAll (.start registry settings entity) steps).1).length)
    (hnames : ∀ e ∈ accepted steps (runAll (.start registry settings entity) steps).1,
      ∀ c ∈ e.columns, c.isNamed = true) :
    let start := QueryState.start registry settings entity
    let s := (runAll start steps).2
    let trees := accepted steps (runAll start steps).1
    (∃ text parts first rest,
      (∀ (registry : Registry) (sql : String), s.query.sql registry = .ok sql →
        ∃ before after, sql = before ++ " WHERE " ++ text ++ after) ∧
      s.query.condition = some text ∧
      scan settings.naming.sigil text.toList
        = some ([Token.keyword (.logical .and)].intercalate parts) ∧
      List.Forall₂ (Derives .negation) parts (first :: rest) ∧
      (∀ c, Parses settings.naming.sigil text c ↔ c = first.conjoin rest) ∧
      List.Forall₂ (s.query.ReadsAlone (literalCountAll trees)) trees (first :: rest)) ∧
    ∀ a b, trees = [a, b] → ∀ x y, x ++ y = others steps →
      let t := (runAll start (x ++ .filter (a.and b) :: y)).2
      (run (runAll start x).2 (.filter (a.and b))).1 = .done ∧
        t.query.build t.registry = s.query.build s.registry := by
  intro start s trees
  have hstart : start.query.Records settings.naming [] [] := Query.Records.start settings entity.key
  have hsettings : s.query.settings = settings :=
    (runAll_start_follows registry settings entity steps).under
  constructor
  · obtain ⟨clauses, hrecords⟩ := runAll_records hstart steps
    rw [List.nil_append, ← hsettings] at hrecords
    have hlegible : s.query.settings.naming.Legible := by
      rw [hsettings]
      exact Settings.legible hvalid hapart
    obtain ⟨text, parts, first, rest, htext, hscan, hderives, hparses, hreads⟩ :=
      hrecords.exists_conjuncts hlegible hnames htwo
    rw [hsettings] at hscan hparses
    rw [← literalCountAll_eq] at hreads
    refine ⟨text, parts, first, rest, ?_, htext, hscan, hderives, hparses, hreads⟩
    intro registry sql hsql
    obtain ⟨before, after, rfl⟩ := Query.exists_condition_of_sql hsql
    refine ⟨before, after, ?_⟩
    rw [htext, Select.clause, ← String.append_assoc]
  · intro a b hpair x y hothers
    exact build_conjunction registry settings entity hpair hothers

/-- A disjunction and a negated conjunction, with another call between them. -/
theorem runAll_conjunction_mixed :
    let minor : Expr := .binary (.column (.bare "age")) (.comparison .lt) (.literal (.int 18))
    let senior : Expr := .binary (.column (.bare "age")) (.comparison .gt) (.literal (.int 65))
    let guest : Expr := .binary (.column (.bare "name")) (.comparison .eq) (.literal (.string "A"))
    let start := QueryState.start .empty .standard (.plain ⟨"User"⟩ (.new "users"))
    let s := (runAll start [.filter (minor.or senior), .distinct, .filter (guest.and minor).not]).2
    let t := (runAll start [.filter ((minor.or senior).and (guest.and minor).not), .distinct]).2
    s.query.condition = some
        "(age < @ld__1 OR age > @ld__2) AND NOT (name = @ld__3 AND age < @ld__4)" ∧
      (∃ first second, ∀ c, Parses '@'
        "(age < @ld__1 OR age > @ld__2) AND NOT (name = @ld__3 AND age < @ld__4)" c
          ↔ c = .join .and first second) ∧
      t.query.build t.registry = s.query.build s.registry := by
  intro minor senior guest start s t
  have hcondition : s.query.condition = some
      "(age < @ld__1 OR age > @ld__2) AND NOT (name = @ld__3 AND age < @ld__4)" := by
    decide +kernel
  obtain ⟨⟨text, parts, first, rest, -, htext, -, -, hparses, hreads⟩, hpair⟩ :=
    runAll_conjunction .empty .standard (.plain ⟨"User"⟩ (.new "users"))
      [.filter (minor.or senior), .distinct, .filter (guest.and minor).not]
      rfl (by decide) (by decide) (by decide)
  refine ⟨hcondition, ?_, ?_⟩
  · -- Two trees have two readings.
    obtain ⟨second, rfl⟩ : ∃ second, rest = [second] :=
      List.length_eq_one_iff.mp (Nat.succ.inj hreads.length_eq.symm)
    rw [hcondition] at htext
    cases htext
    exact ⟨first, second, hparses⟩
  · exact (hpair (minor.or senior) (guest.and minor).not rfl [] [.distinct] rfl).2

end QueryStep

end BoundSql
