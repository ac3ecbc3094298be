import BoundSql.Proofs.Clause.Reading

namespace BoundSql

/-!
# Clause — decoding the text of a tree

The normal form of a tree, defined on the tree alone: connectives stay where they are, a
negated connective keeps its negation, and every other negation is taken in by the leaf that
it reaches.  The text of a tree and the parameters that it is given decode to exactly that.

* `Expr.normalForm?` — the normal form of a tree, or of its negation.
* `Binder.compile_decodes` — text and parameters decode to the normal form.
-/

open Sql

namespace Expr

/-- What is compared: a column or a value.  An empty qualifier is none. -/
def atom? : Expr → Option (Atom Value)
  | .column c => some (.column c.reference)
  | .literal .null => some .null
  | .literal v => some (.given v)
  | _ => none

/-- The predicate that a comparison is.  Equality with null, where only one side is null, asks
    whether the other one is. -/
def comparisonForm (op : Comparison) (a b : Atom Value) : Predicate Value :=
  if op.isEquality ∧ a ≠ .null ∧ b = .null then .nullTest (op == .eq) (.atom a)
  else if op.isEquality ∧ a = .null ∧ b ≠ .null then .nullTest (op == .eq) (.atom b)
  else .compare op (.atom a) (.atom b)

/-- The operand that a pattern is, with a wildcard on each side where anything may stand. -/
def patternForm (place : MatchPlace) (pattern : Atom Value) : Operand Value :=
  match place with
  | .anywhere => .concat (.text "%") (.concat pattern (.atom (.text "%")))
  | .atStart => .concat pattern (.atom (.text "%"))
  | .atEnd => .concat (.text "%") (.atom pattern)

/-- The test for null or the empty string, or its dual. -/
def nullOrEmptyForm (negated : Bool) (a : Atom Value) : Condition Value :=
  if negated then
    .join .and (.predicate (.nullTest false (.atom a)))
      (.predicate (.compare .ne (.atom a) (.atom (.text ""))))
  else
    .join .or (.predicate (.nullTest true (.atom a)))
      (.predicate (.compare .eq (.atom a) (.atom (.text ""))))

/-- **The normal form** of a tree, or of its negation if that is asked for. -/
def normalForm? : Expr → (negated : Bool) → Option (Condition Value)
  | .binary left (.logical op) right, negated => do
      let left ← left.normalForm? false
      let right ← right.normalForm? false
      some (if negated then .not (.join op left right) else .join op left right)
  | .binary left (.comparison op) right, negated => do
      let left ← left.atom?
      let right ← right.atom?
      some (.predicate (comparisonForm (if negated then op.complement else op) left right))
  | .binary _ .within (.list []), negated =>
      some (.predicate (.compare .eq (.atom (.number 1)) (.atom (.number negated.toNat))))
  | .binary left .within (.list (first :: rest)), negated => do
      let left ← left.atom?
      let first ← first.atom?
      let rest ← rest.mapM atom?
      some (.predicate (.within negated (.atom left) (.atom first) (rest.map .atom)))
  | .unary .not operand, negated => operand.normalForm? !negated
  | .unary .hasValue operand, negated =>
      operand.atom?.map fun a => .predicate (.nullTest negated (.atom a))
  | .unary .isNull operand, negated =>
      operand.atom?.map fun a => .predicate (.nullTest (!negated) (.atom a))
  | .unary .isNullOrEmpty operand, negated => operand.atom?.map (nullOrEmptyForm negated)
  | .call name [operand], negated =>
      if sameName name nullOrEmptyFunction then operand.atom?.map (nullOrEmptyForm negated)
      else none
  | .like operand place pattern _, negated => do
      let operand ← operand.atom?
      let pattern ← pattern.atom?
      some (.predicate (.like negated (.atom operand) (patternForm place pattern)))
  | .column c, negated =>
      some (.predicate (.compare (if negated then .ne else .eq)
        (.atom (.column c.reference)) (.atom .true)))
  | _, _ => none

/-! ### Normal forms of lowered trees -/

theorem atom?_expr (t : Term) : t.expr.atom? = some t.atom := by
  rcases t with c | v
  · rfl
  · cases v <;> rfl

theorem atom_eq_null {t : Term} : t.atom = .null ↔ t.isNull = true := by
  rcases t with c | v
  · simp [Term.atom, Term.isNull]
  · by_cases hv : v.isNull = true <;> simp [Term.atom, Term.isNull, hv]

theorem atom?_literal (v : Value) : (Expr.literal v).atom? = some (Term.value v).atom :=
  atom?_expr (.value v)

theorem mapM_atom? (items : List Value) :
    items.mapM (atom? ∘ literal) = some (items.map fun v => (Term.value v).atom) := by
  have hitem : atom? ∘ literal = fun v => some (Term.value v).atom := funext atom?_literal
  rw [hitem]
  exact List.mapM_pure

/-- Where none or both of the sides are null, a comparison stays one. -/
theorem comparisonForm_eq_compare {op : Comparison} {a b : Term}
    (h : op.isEquality = true → a.isNull = b.isNull) :
    comparisonForm op a.atom b.atom = .compare op a.operand b.operand := by
  rw [comparisonForm, if_neg, if_neg]
  · rfl
  · rintro ⟨hop, ha, hb⟩
    rw [atom_eq_null, h hop] at ha
    exact hb (atom_eq_null.mpr ha)
  · rintro ⟨hop, ha, hb⟩
    rw [atom_eq_null, ← h hop] at hb
    exact ha (atom_eq_null.mpr hb)

theorem comparisonForm_null_right {op : Comparison} {a : Term} (hop : op.isEquality = true)
    (ha : a.isNull = false) :
    comparisonForm op a.atom .null = .nullTest (op == .eq) a.operand := by
  have hne : a.atom ≠ .null := by simp [atom_eq_null, ha]
  rw [comparisonForm, if_pos ⟨hop, hne, rfl⟩]
  rfl

theorem comparisonForm_null_left {op : Comparison} {b : Term} (hop : op.isEquality = true)
    (hb : b.isNull = false) :
    comparisonForm op .null b.atom = .nullTest (op == .eq) b.operand := by
  have hne : b.atom ≠ .null := by simp [atom_eq_null, hb]
  rw [comparisonForm, if_neg (fun h => h.2.1 rfl), if_pos ⟨hop, rfl, hne⟩]
  rfl

/-- **Normal forms.**  A lowered tree has a normal form, which its text is read as. -/
theorem Lowers.normalForm {e : Expr} {negated : Bool} {clause : Clause}
    (h : Lowers e negated clause) : e.normalForm? negated = some clause.condition := by
  -- Only comparisons can become another kind of leaf, and which one hangs on the null literal.
  induction h with
  | logical op negated hl hr ihl ihr => simp [normalForm?, ihl, ihr, Clause.condition]
  | compare op negated a b h =>
    have hform : comparisonForm (op.flipIf negated) a.atom b.atom = _ :=
      comparisonForm_eq_compare (by rwa [isEquality_flipIf])
    rw [Comparison.flipIf] at hform
    simp [normalForm?, atom?_expr, hform, Clause.condition, Comparison.flipIf]
  | nullRight op negated a hop ha =>
    have hform : comparisonForm (op.flipIf negated) a.atom .null = _ :=
      comparisonForm_null_right (by rwa [isEquality_flipIf]) ha
    rw [Comparison.flipIf] at hform
    have hnull : (Expr.literal .null).atom? = some .null := rfl
    simp [normalForm?, atom?_expr, hnull, hform, Clause.condition, Comparison.flipIf]
  | nullLeft op negated b hop hb =>
    have hform : comparisonForm (op.flipIf negated) .null b.atom = _ :=
      comparisonForm_null_left (by rwa [isEquality_flipIf]) hb
    rw [Comparison.flipIf] at hform
    have hnull : (Expr.literal .null).atom? = some .null := rfl
    simp [normalForm?, atom?_expr, hnull, hform, Clause.condition, Comparison.flipIf]
  | nothing negated c => cases negated <;> rfl
  | within negated a first rest =>
    simp [isIn, values, normalForm?, atom?_expr, atom?_literal, mapM_atom?, Clause.condition,
      Term.operand]
  | not negated h ih => exact ih
  | hasValue negated a | isNull negated a =>
    simp [normalForm?, atom?_expr, Clause.condition, Term.operand]
  | nullOrEmpty negated c => cases negated <;> rfl
  | call negated c hname =>
    rw [normalForm?, if_pos hname]
    cases negated <;> rfl
  | like negated a place pattern ignoreCase hpattern =>
    have hform : patternForm place pattern.atom = Clause.patternOperand place pattern := by
      cases place <;> rfl
    simp [normalForm?, atom?_expr, hform, Clause.condition, Term.operand]
  | truth negated c => rfl

end Expr

/-! ### Decoding -/

/-- **Decoding.**  Let a tree over columns whose names are identifiers be written under a new
    binder, with a naming that validation accepts and a sign that is none of the syntax.  The
    text is read in exactly one way, and that reading, with every placeholder looked up in the
    parameters, is the normal form of the tree.  The counter holds numbers below `UInt32.size`. -/
theorem Binder.compile_decodes {settings : Settings} {e : Expr} {written : ConditionText}
    {after : Binder} (hvalid : settings.validate = .ok ())
    (hapart : settings.naming.sigil ∉ syntaxCharacters)
    (hnames : ∀ c ∈ e.columns, c.isNamed = true) (hroom : e.literalCount < UInt32.size)
    (h : (new settings.naming).compile e = (.ok written, after)) :
    ∃ read normal, (∀ c, Parses settings.naming.sigil written.sql c ↔ c = read) ∧
      e.normalForm? false = some normal ∧
      read.resolve after.parameters.get? = some normal := by
  -- A new binder is one that has named no values yet.
  have hempty : ([] : List Value).length + e.literalCount < UInt32.size := by
    rw [List.length_nil]
    omega
  obtain ⟨clause, hlowers, read, hunique, hresolve⟩ :=
    compile_reads (Settings.legible hvalid hapart) hnames hempty h
  exact ⟨read, clause.condition, hunique, hlowers.normalForm, hresolve⟩

/-- A negated disjunction of a negated comparison and a comparison with null. -/
theorem Binder.compile_decodes_not_or :
    ∃ read normal,
      (∀ c, Parses '@' "NOT (t0.age >= @ld__1 OR name IS NULL)" c ↔ c = read) ∧
        (Expr.not ((Expr.not (.binary (.column (.qualified "t0" "age")) (.comparison .lt)
          (.literal (.int 18)))).or (.binary (.literal .null) (.comparison .eq)
            (.column (.bare "name"))))).normalForm? false = some normal ∧
        read.resolve ((new Naming.standard).bindAll [.int 18]).parameters.get? = some normal := by
  refine @compile_decodes Settings.standard _
    ⟨"NOT (t0.age >= @ld__1 OR name IS NULL)", false⟩ _ rfl ?_ ?_ ?_ ?_
  · decide
  · decide
  · decide
  · rfl

end BoundSql
