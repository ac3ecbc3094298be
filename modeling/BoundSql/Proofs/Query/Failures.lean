import BoundSql.Proofs.Query.Step

namespace BoundSql

/-!
# Query — failures leave no trace

A condition that is refused may have given names to many values before its failure was seen, and a
selection of fields is checked field by field; both leave the query as it was.  So a run can be
told from the calls in it that were not refused.  The other calls that can fail only ask, and of
them only asking for a column of an entity has an effect, on the registry alone.

* `QueryStep.state_run_of_failed` — what a call leaves behind that has failed.
* `QueryStep.retained` — the calls of a run without what was refused.
* `QueryStep.runAll_failures` — a run and the calls that are retained.
-/

namespace Answer

/-- Is it the failure to give an answer? -/
def isFailure : Answer → Bool
  | .failed _ => true
  | _ => false

end Answer

namespace QueryState

variable {s : QueryState}

/-- A change that fails leaves the state as it was. -/
theorem change_of_failed {x : Except Error Query} (h : (s.change x).1.isFailure = true) :
    (s.change x).2 = s := by
  cases x with
  | ok query => exact absurd h (by simp [change, Answer.isFailure])
  | error e => rfl

end QueryState

namespace QueryStep

variable {s : QueryState}

/-! ### One call -/

/-- **A call that fails** leaves everything as it was, unless it asks for a column of an
    entity. -/
theorem state_run_of_failed {step : QueryStep} (h : (run s step).1.isFailure = true)
    (hcolumn : ∀ e field, step ≠ .columnOf e field) : (run s step).2 = s := by
  cases step with
  | columnOf e field => exact absurd rfl (hcolumn e field)
  | column | sql | build => rfl
  | join | selectEntity => exact absurd h (by simp [run, Answer.isFailure])
  -- All other calls are changes, most of them such as cannot fail.
  | _ => exact QueryState.change_of_failed h

/-- What asking for a column of an entity leaves behind, whether there is such a column or not:
    an entity that is registered is only looked up, and any other one is registered after its
    reflection has made its own calls. -/
theorem state_run_columnOf (s : QueryState) (e : Entity) (field : String) :
    (run s (.columnOf e field)).2 = { s with registry := (s.registry.resolve e).1 } ∧
      (s.registry.resolve e).1.contains e.key = true ∧
      (s.registry.contains e.key = true → (s.registry.resolve e).1 = s.registry) ∧
      (s.registry.contains e.key = false → (s.registry.resolve e).1
        = ((s.registry.performAll e.during).register e.key e.table).1) := by
  refine ⟨rfl, ?_, ?_, ?_⟩
  · have hlookup := s.registry.lookup_resolve e
    rw [Registry.contains, hlookup]
    rfl
  · intro h
    obtain ⟨table, htable⟩ := Option.isSome_iff_exists.mp h
    simp only [Registry.resolve, htable]
  · intro h
    have hnone : s.registry.lookup e.key = none := Option.not_isSome_iff_eq_none.mp (by
      rw [Registry.contains] at h
      simp [h])
    simp only [Registry.resolve, hnone]

/-! ### All calls -/

/-- Was it a condition or a selection of fields, and was it refused? -/
def isRefused : QueryStep → Answer → Bool
  | .filter _, answer | .selectFields _, answer => answer.isFailure
  | _, _ => false

/-- The calls with their answers, without the conditions and the selections of fields that were
    refused. -/
def retained (steps : List QueryStep) (answers : List Answer) : List (QueryStep × Answer) :=
  (steps.zip answers).filter fun call => !call.1.isRefused call.2

theorem retained_cons (step : QueryStep) (answer : Answer) (steps : List QueryStep)
    (answers : List Answer) :
    retained (step :: steps) (answer :: answers) =
      if step.isRefused answer then retained steps answers
      else (step, answer) :: retained steps answers := by
  cases h : step.isRefused answer <;> simp [retained, h]

/-- A call that is refused leaves everything as it was. -/
theorem state_run_of_refused {step : QueryStep} (h : step.isRefused (run s step).1 = true) :
    (run s step).2 = s := by
  cases step with
  | filter e => exact state_run_of_failed h (by simp)
  | selectFields fields => exact state_run_of_failed h (by simp)
  | _ => exact absurd h (by simp [isRefused])

/-- The calls that are retained have the same answers on their own, and leave the same state.  The
    induction is on the calls: one that is refused leaves the others with the state that they
    have without it. -/
theorem runAll_retained (s : QueryState) (steps : List QueryStep) :
    runAll s ((retained steps (runAll s steps).1).map Prod.fst)
      = ((retained steps (runAll s steps).1).map Prod.snd, (runAll s steps).2) := by
  induction steps generalizing s with
  | nil => rfl
  | cons step rest ih =>
    have hrest := ih (run s step).2
    simp only [runAll, retained_cons]
    by_cases hrefused : step.isRefused (run s step).1 = true
    · have hstate : (run s step).2 = s := state_run_of_refused hrefused
      rw [hstate] at hrest ⊢
      rw [if_pos hrefused, hrest]
    · rw [if_neg hrefused]
      simp only [List.map_cons, runAll, hrest]

/-- **Failures leave no trace.**  Take any calls on a query in any state, and take away all
    conditions and all selections of fields that were refused: the other calls get the same
    answers, and query and registry are the same in the end.  Moreover, wherever in the run a call
    fails, it leaves query and registry as they were, unless it asks for a column of an entity.
    Such a call leaves the query as it was, and the entity registered: where it was not yet, the
    registry is as the calls of its reflection and its own registration leave it. -/
theorem runAll_failures (s : QueryState) (steps : List QueryStep) :
    let kept := retained steps (runAll s steps).1
    runAll s (kept.map Prod.fst) = (kept.map Prod.snd, (runAll s steps).2) ∧
      ∀ before step after, steps = before ++ step :: after →
        let now := (runAll s before).2
        let next := (run now step).2
        (run now step).1.isFailure = true →
          ((∀ e field, step ≠ .columnOf e field) → next = now) ∧
          ∀ e field, step = .columnOf e field →
            next.query = now.query ∧
              next.registry.contains e.key = true ∧
              (now.registry.contains e.key = true → next.registry = now.registry) ∧
              (now.registry.contains e.key = false → next.registry
                = ((now.registry.performAll e.during).register e.key e.table).1) := by
  intro kept
  refine ⟨runAll_retained s steps, ?_⟩
  intro before step after hsteps now next hfailed
  constructor
  · intro hcolumn
    exact state_run_of_failed hfailed hcolumn
  · rintro e field rfl
    obtain ⟨hstate, hregistered⟩ := state_run_columnOf now e field
    have hnext : next = { now with registry := (now.registry.resolve e).1 } := hstate
    rw [hnext]
    exact ⟨rfl, hregistered⟩

/-- A condition is refused after two values of it were met, and a column of an entity is asked for
    that has no columns: the first parameter is that of the condition that is added. -/
theorem runAll_failures_deep :
    let start := QueryState.start .empty .standard (.plain ⟨"User"⟩ (.new "users"))
    let account := Entity.plain ⟨"Account"⟩ (.new "accounts")
    let age := Expr.column (.bare "age")
    let between := (Expr.binary age (.comparison .ge) (.literal (.int 18))).and
      (.binary age (.comparison .lt) (.literal (.int 65)))
    let steps : List QueryStep :=
      [.filter (between.and (.list [])), .selectFields ["Id"], .columnOf account "Id",
        .filter between]
    let now := (runAll start [.filter (between.and (.list [])), .selectFields ["Id"]]).2
    (runAll start [.columnOf account "Id", .filter between]).2 = (runAll start steps).2 ∧
      (run now (.columnOf account "Id")).1.isFailure = true ∧
      (run now (.columnOf account "Id")).2.registry
        = (now.registry.register account.key account.table).1 := by
  intro start account age between steps now
  obtain ⟨hkept, hfailed⟩ := runAll_failures start steps
  have hsteps : (retained steps (runAll start steps).1).map Prod.fst
      = [.columnOf account "Id", .filter between] := by rfl
  have hstate := congrArg Prod.snd hkept
  rw [hsteps] at hstate
  have hfailure : (run now (.columnOf account "Id")).1.isFailure = true := by rfl
  have habsent : now.registry.contains account.key = false := by rfl
  have hcolumn := (hfailed [.filter (between.and (.list [])), .selectFields ["Id"]]
    (.columnOf account "Id") [.filter between] rfl hfailure).2 account "Id" rfl
  exact ⟨hstate, hfailure, hcolumn.2.2.2 habsent⟩

end QueryStep

end BoundSql
