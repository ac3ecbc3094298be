import BoundSql.Proofs.Clause.Reading
import BoundSql.Proofs.Sql.Meaning

namespace BoundSql

/-!
# Clause — the meaning of a tree is kept

What a tree says of a row, by the tree alone: connectives and negation are those of
three-valued logic, wherever in the tree they stand.  The text of a tree, read and evaluated
with the parameters in place, says the same of every row.

* `Expr.truth?` — the truth of a tree in a row.
* `Binder.compile_means` — the text has the truth of the tree.
-/

open Sql

section Trees

variable {α : Type} (engine : Engine α) (row : Row α)

/-! ### Truth of trees -/

namespace Expr

/-- The value of a column or a literal. -/
def value? : Expr → Option (Option α)
  | .column c => some (row c.reference)
  | .literal v => some (engine.value v)
  | _ => none

/-- The truth of a comparison of two values.  Equality with the null literal, where only one
    side is that, asks whether the other side is null. -/
def comparisonTruth (op : Comparison) (leftNull rightNull : Bool) (x y : Option α) : Truth :=
  match op, leftNull, rightNull with
  | .eq, false, true => .ofBool x.isNone
  | .eq, true, false => .ofBool y.isNone
  | .ne, false, true => .ofBool x.isSome
  | .ne, true, false => .ofBool y.isSome
  | op, _, _ => engine.compared op x y

/-- Is the value null or the empty string? -/
def nullOrEmptyTruth (x : Option α) : Truth :=
  (Truth.ofBool x.isNone).or (engine.compared .eq x (engine.value (.string "")))

/-- The value of a pattern, with a wildcard on each side where anything may stand. -/
def patternValue (place : MatchPlace) (x : Option α) : Option α :=
  let wildcard := engine.value (.string "%")
  match place with
  | .anywhere => engine.joined (engine.joined wildcard x) wildcard
  | .atStart => engine.joined x wildcard
  | .atEnd => engine.joined wildcard x

/-- **The truth of a tree** in a row, if the tree is a predicate. -/
def truth? : Expr → Option Truth
  | .binary left (.logical op) right => do
      let left ← left.truth?
      let right ← right.truth?
      some (.join op left right)
  | .binary left (.comparison op) right => do
      let x ← left.value? engine row
      let y ← right.value? engine row
      some (comparisonTruth engine op left.isNullLiteral right.isNullLiteral x y)
  | .binary left .within (.list items) => do
      let x ← left.value? engine row
      let ys ← items.mapM (value? engine row)
      some (engine.among x ys)
  | .unary .not operand => operand.truth?.map Truth.not
  | .unary .hasValue operand => (operand.value? engine row).map fun x => .ofBool x.isSome
  | .unary .isNull operand => (operand.value? engine row).map fun x => .ofBool x.isNone
  | .unary .isNullOrEmpty operand => (operand.value? engine row).map (nullOrEmptyTruth engine)
  | .call name [operand] =>
      if sameName name nullOrEmptyFunction then
        (operand.value? engine row).map (nullOrEmptyTruth engine)
      else none
  | .like operand place pattern _ => do
      let x ← operand.value? engine row
      let y ← pattern.value? engine row
      some (engine.matched x (patternValue engine place y))
  | .column c => some (engine.compared .eq (row c.reference) (engine.value (.bool true)))
  | _ => none

end Expr

/-! ### Truth of comparisons -/

variable {engine} in
/-- Where none or both of the sides are the null literal, the values are compared. -/
theorem Expr.comparisonTruth_eq_compared {op : Comparison} {leftNull rightNull : Bool}
    (h : op.isEquality = true → leftNull = rightNull) (x y : Option α) :
    comparisonTruth engine op leftNull rightNull x y = engine.compared op x y := by
  cases op with
  | eq | ne =>
    obtain rfl := h rfl
    cases leftNull <;> rfl
  | _ => rfl

variable {engine} in
/-- Equality with the null literal on the right is a null test of the left side. -/
theorem Expr.notIf_comparisonTruth_right {op : Comparison} (hop : op.isEquality = true)
    (negated : Bool) (x y : Option α) :
    (comparisonTruth engine op false true x y).notIf negated
      = .ofBool (x.isNone == (op.flipIf negated == .eq)) := by
  cases op with
  | eq | ne => cases negated <;> cases x <;> rfl
  | _ => exact Bool.noConfusion hop

variable {engine} in
/-- Equality with the null literal on the left is a null test of the right side. -/
theorem Expr.notIf_comparisonTruth_left {op : Comparison} (hop : op.isEquality = true)
    (negated : Bool) (x y : Option α) :
    (comparisonTruth engine op true false x y).notIf negated
      = .ofBool (y.isNone == (op.flipIf negated == .eq)) := by
  cases op with
  | eq | ne => cases negated <;> cases y <;> rfl
  | _ => exact Bool.noConfusion hop

/-! ### Truth of conditions -/

/-- The value of a term in a row. -/
def Term.valueIn (t : Term) : Option α := t.atom.value engine row

theorem Term.value?_expr (t : Term) : t.expr.value? engine row = some (t.valueIn engine row) := by
  rcases t with c | v
  · rfl
  · by_cases hv : v.isNull = true <;>
      simp [Term.expr, Expr.value?, Term.valueIn, Term.atom, Atom.value, Engine.value, hv]

theorem Term.value?_literal (v : Value) :
    (Expr.literal v).value? engine row = some ((Term.value v).valueIn engine row) :=
  Term.value?_expr engine row (.value v)

theorem Term.mapM_value? (items : List Value) :
    items.mapM (Expr.value? engine row ∘ .literal)
      = some (items.map fun v => (Term.value v).valueIn engine row) := by
  have hitem : Expr.value? engine row ∘ .literal
      = fun v => some ((Term.value v).valueIn engine row) := funext (Term.value?_literal engine row)
  rw [hitem]
  exact List.mapM_pure

namespace Clause

variable {engine row}

/-- The pattern in a text is joined from left to right. -/
theorem value_patternOperand (place : MatchPlace) (pattern : Term) :
    (patternOperand place pattern).value engine row
      = Expr.patternValue engine place (pattern.valueIn engine row) := by
  cases place <;> rfl

theorem truth_constant (holds : Bool) :
    (condition.constant holds).truth engine row = .ofBool holds := by
  -- This is the one place where the order of a database is asked for.
  have hself : engine.compare (engine.literal (.int 1)) (engine.literal (.int 1)) = .eq := by
    rw [engine.compare_int]
    decide
  have hother : engine.compare (engine.literal (.int 1)) (engine.literal (.int 0)) = .gt := by
    rw [engine.compare_int]
    decide
  cases holds with
  | true =>
    show Truth.ofBool (Comparison.eq.holds
      (engine.compare (engine.literal (.int 1)) (engine.literal (.int 1)))) = _
    rw [hself]
    rfl
  | false =>
    show Truth.ofBool (Comparison.eq.holds
      (engine.compare (engine.literal (.int 1)) (engine.literal (.int 0)))) = _
    rw [hother]
    rfl

/-- The two forms of the test for null or the empty string are each other's negation. -/
theorem truth_nullOrEmpty (negated : Bool) (c : Column) :
    (nullOrEmpty negated c).condition.truth engine row
      = (Expr.nullOrEmptyTruth engine (row c.reference)).notIf negated := by
  cases negated with
  | false =>
    show (Truth.ofBool ((row c.reference).isNone == true)).or _ = (Truth.ofBool _).or _
    rw [beq_true]
    rfl
  | true =>
    show (Truth.ofBool ((row c.reference).isNone == false)).and _ = ((Truth.ofBool _).or _).not
    rw [Truth.not_or, Truth.not_ofBool, engine.not_compared, beq_false]
    rfl

end Clause

namespace Expr.Lowers

/-- **Truth.**  The condition of a lowered tree has the truth of the tree, turned around if the
    tree is lowered negated. -/
theorem exists_truth {e : Expr} {negated : Bool} {clause : Clause} (h : Lowers e negated clause) :
    ∃ t, e.truth? engine row = some t ∧
      clause.condition.truth engine row = t.notIf negated := by
  -- The flag for negation is what the induction carries: each leaf takes it in by its own dual,
  -- and a connective hands down none.
  induction h with
  | logical op negated hl hr ihl ihr =>
    obtain ⟨a, ha, hta⟩ := ihl
    obtain ⟨b, hb, htb⟩ := ihr
    refine ⟨.join op a b, by simp [truth?, ha, hb], ?_⟩
    cases negated with
    | false => simp [Clause.condition, Condition.truth, hta, htb, Truth.notIf]
    | true => simp [Clause.condition, Condition.truth, hta, htb, Truth.notIf]
  | compare op negated a b h =>
    refine ⟨engine.compared op (a.valueIn engine row) (b.valueIn engine row), ?_, ?_⟩
    · have hcompared : comparisonTruth engine op a.isNull b.isNull (a.valueIn engine row)
          (b.valueIn engine row) = _ := comparisonTruth_eq_compared h _ _
      simp [truth?, Term.value?_expr, Term.isNullLiteral_expr, hcompared]
    · rw [engine.notIf_compared]
      rfl
  | nullRight op negated a hop ha =>
    refine ⟨comparisonTruth engine op false true (a.valueIn engine row) none, ?_, ?_⟩
    · have hvalue : (Expr.literal .null).value? engine row = some none := rfl
      have hnull : (Expr.literal .null).isNullLiteral = true := rfl
      simp [truth?, Term.value?_expr, Term.isNullLiteral_expr, ha, hvalue, hnull]
    · rw [notIf_comparisonTruth_right hop]
      rfl
  | nullLeft op negated b hop hb =>
    refine ⟨comparisonTruth engine op true false none (b.valueIn engine row), ?_, ?_⟩
    · have hvalue : (Expr.literal .null).value? engine row = some none := rfl
      have hnull : (Expr.literal .null).isNullLiteral = true := rfl
      simp [truth?, Term.value?_expr, Term.isNullLiteral_expr, hb, hvalue, hnull]
    · rw [notIf_comparisonTruth_left hop]
      rfl
  | nothing negated c =>
    -- No value is among none, even where the column is null.
    refine ⟨.fails, by simp [truth?, value?]; rfl, ?_⟩
    show (Clause.condition.constant negated).truth engine row = _
    rw [Clause.truth_constant]
    cases negated <;> rfl
  | within negated a first rest =>
    refine ⟨engine.among (a.valueIn engine row)
      ((first :: rest).map fun v => (Term.value v).valueIn engine row), ?_, ?_⟩
    · simp [isIn, values, truth?, Term.value?_expr, Term.value?_literal, Term.mapM_value?]
    · simp only [Clause.condition, Condition.truth, Predicate.truth, List.map_cons, List.map_map]
      rfl
  | not negated h ih =>
    obtain ⟨t, ht, hclause⟩ := ih
    refine ⟨t.not, by simp [Expr.not, truth?, ht], ?_⟩
    rw [hclause, Truth.notIf_not]
  | hasValue negated a =>
    refine ⟨.ofBool (a.valueIn engine row).isSome, by simp [truth?, Term.value?_expr], ?_⟩
    show Truth.ofBool ((a.valueIn engine row).isNone == negated) = _
    cases negated <;> cases a.valueIn engine row <;> rfl
  | isNull negated a =>
    refine ⟨.ofBool (a.valueIn engine row).isNone, by simp [truth?, Term.value?_expr], ?_⟩
    show Truth.ofBool ((a.valueIn engine row).isNone == !negated) = _
    cases negated <;> cases a.valueIn engine row <;> rfl
  | nullOrEmpty negated c =>
    exact ⟨_, rfl, Clause.truth_nullOrEmpty negated c⟩
  | call negated c hname =>
    exact ⟨_, by rw [truth?, if_pos hname]; rfl, Clause.truth_nullOrEmpty negated c⟩
  | like negated a place pattern ignoreCase hpattern =>
    refine ⟨engine.matched (a.valueIn engine row)
      (patternValue engine place (pattern.valueIn engine row)), ?_, ?_⟩
    · simp [truth?, Term.value?_expr]
    · rw [← Clause.value_patternOperand]
      rfl
  | truth negated c =>
    refine ⟨_, rfl, ?_⟩
    rw [engine.notIf_compared]
    cases negated <;> rfl

end Expr.Lowers

end Trees

/-! ### Meaning -/

/-- **Meaning.**  Let a tree over columns whose names are identifiers be written under a binder
    that may have named other values before, with a naming that validation accepts and a sign
    that is none of the syntax.  The text is read in exactly one way, and with the parameters
    in the place of their names its truth is that of the tree: in every row, and whatever the
    database does with values.  The counter holds numbers below `UInt32.size`. -/
theorem Binder.compile_means {settings : Settings} {earlier : List Value} {e : Expr}
    {written : ConditionText} {after : Binder} (hvalid : settings.validate = .ok ())
    (hapart : settings.naming.sigil ∉ syntaxCharacters)
    (hnames : ∀ c ∈ e.columns, c.isNamed = true)
    (hroom : earlier.length + e.literalCount < UInt32.size)
    (h : ((new settings.naming).bindAll earlier).compile e = (.ok written, after))
    {α : Type} (engine : Engine α) (row : Row α) :
    ∃ read given, (∀ c, Parses settings.naming.sigil written.sql c ↔ c = read) ∧
      read.resolve after.parameters.get? = some given ∧
      e.truth? engine row = some (given.truth engine row) := by
  obtain ⟨clause, hlowers, read, hunique, hresolve⟩ :=
    compile_reads (Settings.legible hvalid hapart) hnames hroom h
  obtain ⟨t, htree, hclause⟩ := hlowers.exists_truth engine row
  refine ⟨read, clause.condition, hunique, hresolve, ?_⟩
  rw [htree, hclause]
  rfl

/-- A negated disjunction in a row where one side is unknown. -/
theorem Binder.compile_means_not_or :
    ∃ read given,
      (∀ c, Parses '@' "NOT (age < @ld__2 OR name LIKE @ld__3 || '%')" c ↔ c = read) ∧
        read.resolve ((new Naming.standard).bindAll
          [.bool true, .int 18, .string "A"]).parameters.get? = some given ∧
        (Expr.not (.or (.binary (.column (.bare "age")) (.comparison .lt) (.literal (.int 18)))
          (.matching (.column (.bare "name")) .atStart (.literal (.string "A"))))).truth?
            Engine.plain (fun c => if c.name = "age" then some (.int 20) else none)
          = some (given.truth Engine.plain
              (fun c => if c.name = "age" then some (.int 20) else none)) := by
  refine @compile_means Settings.standard [.bool true] _
    ⟨"NOT (age < @ld__2 OR name LIKE @ld__3 || '%')", false⟩ _ rfl ?_ ?_ ?_ ?_ _ _ _
  · decide
  · decide
  · decide
  · rfl

end BoundSql
