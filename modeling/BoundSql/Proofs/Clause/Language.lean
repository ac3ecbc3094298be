import BoundSql.Proofs.Clause.Lowering

namespace BoundSql

/-!
# Clause — the language of predicates

Which trees are conditions, by a grammar that has no negation flag, no null tests and no
failures in it.  Exactly these trees are accepted, whatever has been bound before, and a
negation never decides about that: a tree and its negation are accepted together, or they
are refused for the same reason.

* `Expr.IsPredicate` — the grammar.
* `Expr.isPredicate_iff` — the trees of the grammar are those that follow the rules.
* `Expr.failure?_lower_not` — a tree and its negation fail alike.
* `Binder.compile_accepts` — acceptance and refusal.
-/

namespace Expr

/-! ### The grammar -/

/-- A side of a comparison: a column or a literal. -/
inductive IsOperand : Expr → Prop where
  | column (c : Column) : IsOperand (.column c)
  | literal (v : Value) : IsOperand (.literal v)

/-- What text can be matched with: a column or a string. -/
inductive IsPattern : Expr → Prop where
  | column (c : Column) : IsPattern (.column c)
  | string (s : String) : IsPattern (.literal (.string s))

/-- A predicate. -/
inductive IsPredicate : Expr → Prop where
  | and {l r : Expr} (hl : IsPredicate l) (hr : IsPredicate r) : IsPredicate (l.and r)
  | or {l r : Expr} (hl : IsPredicate l) (hr : IsPredicate r) : IsPredicate (l.or r)
  | not {e : Expr} (h : IsPredicate e) : IsPredicate e.not
  | compare (op : Comparison) {l r : Expr} (hl : IsOperand l) (hr : IsOperand r) :
      IsPredicate (.binary l (.comparison op) r)
  /-- A list has one literal or more. -/
  | within {l : Expr} (hl : IsOperand l) (first : Value) (rest : List Value) :
      IsPredicate (l.isIn (first :: rest))
  /-- Only a column can be looked for in the empty list. -/
  | nothing (c : Column) : IsPredicate ((Expr.column c).isIn [])
  | hasValue {e : Expr} (h : IsOperand e) : IsPredicate (.unary .hasValue e)
  | isNull {e : Expr} (h : IsOperand e) : IsPredicate (.unary .isNull e)
  | nullOrEmpty (c : Column) : IsPredicate (.unary .isNullOrEmpty (.column c))
  /-- The name counts up to the case of ASCII letters. -/
  | call {name : String} (hname : name.toLower = "isnullorempty") (c : Column) :
      IsPredicate (.call name [.column c])
  | like {l p : Expr} (hl : IsOperand l) (place : MatchPlace) (hp : IsPattern p)
      (ignoreCase : Bool) : IsPredicate (.like l place p ignoreCase)
  /-- A column of truth values. -/
  | column (c : Column) : IsPredicate (.column c)

/-! ### Grammar and rules -/

theorem isOperand_expr (t : Term) : t.expr.IsOperand := by
  cases t with
  | column c => exact .column c
  | value v => exact .literal v

theorem IsOperand.exists_term {e : Expr} (h : e.IsOperand) : ∃ t : Term, e = t.expr := by
  cases h with
  | column c => exact ⟨.column c, rfl⟩
  | literal v => exact ⟨.value v, rfl⟩

theorem sameName_nullOrEmptyFunction (name : String) :
    sameName name nullOrEmptyFunction = true ↔ name.toLower = "isnullorempty" := by
  have hlower : name.toLower = name.map Char.toLower := rfl
  rw [sameName, beq_iff_eq, ← String.toList_inj, hlower, String.toList_map]
  rfl

/-- The rules lead to no tree outside the grammar. -/
theorem Lowers.isPredicate {e : Expr} {negated : Bool} {clause : Clause}
    (h : Lowers e negated clause) : e.IsPredicate := by
  induction h with
  | logical op negated hl hr ihl ihr =>
    cases op with
    | and => exact .and ihl ihr
    | or => exact .or ihl ihr
  | compare op negated a b h => exact .compare op (isOperand_expr a) (isOperand_expr b)
  | nullRight op negated a hop ha => exact .compare op (isOperand_expr a) (.literal .null)
  | nullLeft op negated b hop hb => exact .compare op (.literal .null) (isOperand_expr b)
  | nothing negated c => exact .nothing c
  | within negated a first rest => exact .within (isOperand_expr a) first rest
  | not negated h ih => exact .not ih
  | hasValue negated a => exact .hasValue (isOperand_expr a)
  | isNull negated a => exact .isNull (isOperand_expr a)
  | nullOrEmpty negated c => exact .nullOrEmpty c
  | call negated c hname => exact .call ((sameName_nullOrEmptyFunction _).mp hname) c
  | like negated a place pattern ignoreCase hpattern =>
    have hp : pattern.expr.IsPattern := by
      rcases hpattern with ⟨c, rfl⟩ | ⟨s, rfl⟩
      · exact .column c
      · exact .string s
    exact .like (isOperand_expr a) place hp ignoreCase
  | truth negated c => exact .column c

/-- A comparison of any two terms follows one of the rules: which one hangs on how many of
    them are null. -/
theorem exists_lowers_comparison (op : Comparison) (negated : Bool) (a b : Term) :
    ∃ clause, Lowers (.binary a.expr (.comparison op) b.expr) negated clause := by
  by_cases htested : op.isEquality = true ∧ a.isNull ≠ b.isNull
  · obtain ⟨hop, hne⟩ := htested
    -- Exactly one of the terms is null, and the other one is tested.
    cases ha : a.isNull with
    | false =>
      have hb : b.expr = .literal .null := by
        apply eq_null_of_isNullLiteral
        rw [Term.isNullLiteral_expr]
        simpa [ha] using hne
      rw [hb]
      exact ⟨_, .nullRight op negated a hop ha⟩
    | true =>
      have ha' : a.expr = .literal .null := by
        apply eq_null_of_isNullLiteral
        rw [Term.isNullLiteral_expr, ha]
      rw [ha']
      exact ⟨_, .nullLeft op negated b hop (by simpa [ha] using hne.symm)⟩
  · refine ⟨_, .compare op negated a b fun hop => ?_⟩
    by_contra hne
    exact htested ⟨hop, hne⟩

/-- Every tree of the grammar follows the rules, negated or not. -/
theorem IsPredicate.exists_lowers {e : Expr} (h : e.IsPredicate) (negated : Bool) :
    ∃ clause, Lowers e negated clause := by
  induction h generalizing negated with
  | and hl hr ihl ihr =>
    obtain ⟨a, ha⟩ := ihl false
    obtain ⟨b, hb⟩ := ihr false
    exact ⟨_, .logical .and negated ha hb⟩
  | or hl hr ihl ihr =>
    obtain ⟨a, ha⟩ := ihl false
    obtain ⟨b, hb⟩ := ihr false
    exact ⟨_, .logical .or negated ha hb⟩
  | not h ih =>
    obtain ⟨a, ha⟩ := ih (!negated)
    exact ⟨_, .not negated ha⟩
  | compare op hl hr =>
    obtain ⟨a, rfl⟩ := hl.exists_term
    obtain ⟨b, rfl⟩ := hr.exists_term
    exact exists_lowers_comparison op negated a b
  | within hl first rest =>
    obtain ⟨a, rfl⟩ := hl.exists_term
    exact ⟨_, .within negated a first rest⟩
  | nothing c => exact ⟨_, .nothing negated c⟩
  | hasValue h =>
    obtain ⟨a, rfl⟩ := h.exists_term
    exact ⟨_, .hasValue negated a⟩
  | isNull h =>
    obtain ⟨a, rfl⟩ := h.exists_term
    exact ⟨_, .isNull negated a⟩
  | nullOrEmpty c => exact ⟨_, .nullOrEmpty negated c⟩
  | call hname c => exact ⟨_, .call negated c ((sameName_nullOrEmptyFunction _).mpr hname)⟩
  | like hl place hp ignoreCase =>
    obtain ⟨a, rfl⟩ := hl.exists_term
    cases hp with
    | column c => exact ⟨_, .like negated a place (.column c) ignoreCase (.inl ⟨c, rfl⟩)⟩
    | string s =>
      exact ⟨_, .like negated a place (.value (.string s)) ignoreCase (.inr ⟨s, rfl⟩)⟩
  | column c => exact ⟨_, .truth negated c⟩

/-- **The language.**  The trees of the grammar are those that are lowered. -/
theorem isPredicate_iff (e : Expr) (negated : Bool) :
    e.IsPredicate ↔ ∃ clause, e.lower negated = .ok clause := by
  constructor
  · intro h
    obtain ⟨clause, hclause⟩ := h.exists_lowers negated
    exact ⟨clause, hclause.lower⟩
  · rintro ⟨clause, hclause⟩
    exact (lowers_of_lower hclause).isPredicate

end Expr

/-! ### Failures -/

/-- The failure, if there is no result. -/
def Rejection.failure? {α : Type} : Except Rejection α → Option Rejection
  | .ok _ => none
  | .error r => some r

theorem Rejection.failure?_eq_some {α : Type} {x : Except Rejection α} {r : Rejection} :
    failure? x = some r ↔ x = .error r := by
  cases x <;> simp [failure?]

/-- Runs that begin alike and fail alike afterwards fail alike. -/
theorem Rejection.failure?_bind {α β γ : Type} (x : Except Rejection α)
    {f : α → Except Rejection β} {g : α → Except Rejection γ}
    (h : ∀ a, failure? (f a) = failure? (g a)) : failure? (x >>= f) = failure? (x >>= g) := by
  cases x with
  | ok a => exact h a
  | error r => rfl

namespace Expr

open Rejection

theorem nullTested?_flipIf (op : Comparison) (negated : Bool) (l r : Expr) :
    nullTested? (op.flipIf negated) l r = nullTested? op l r := by
  unfold nullTested?
  rw [isEquality_flipIf]

/-- How a comparison fails does not hang on which one it is, as long as it asks for equality
    or does not. -/
theorem failure?_lowerComparison (op : Comparison) (negated : Bool) (l r : Expr) :
    failure? (lowerComparison (op.flipIf negated) l r) = failure? (lowerComparison op l r) := by
  unfold lowerComparison
  rw [nullTested?_flipIf]
  cases nullTested? op l r with
  | none => exact failure?_bind _ fun _ => failure?_bind _ fun _ => rfl
  | some operand => exact failure?_bind _ fun _ => rfl

theorem failure?_lowerMembership (negated : Bool) (l r : Expr) :
    failure? (lowerMembership (!negated) l r) = failure? (lowerMembership negated l r) := by
  unfold lowerMembership
  split
  · split <;> rfl
  · exact failure?_bind _ fun _ => failure?_bind _ fun _ => rfl
  · rfl

theorem failure?_lowerNullOrEmpty (negated : Bool) (e : Expr) :
    failure? (lowerNullOrEmpty (!negated) e) = failure? (lowerNullOrEmpty negated e) := by
  cases e <;> rfl

theorem failure?_lowerMatch (negated : Bool) (operand : Expr) (place : MatchPlace)
    (pattern : Expr) :
    failure? (lowerMatch (!negated) operand place pattern)
      = failure? (lowerMatch negated operand place pattern) :=
  failure?_bind _ fun _ => failure?_bind _ fun _ => rfl

/-- **Negation and failure.**  A tree and its negation fail alike: for the same reason, and
    with the same values met before. -/
theorem failure?_lower_not (e : Expr) (negated : Bool) :
    failure? (e.lower !negated) = failure? (e.lower negated) := by
  -- The flag reaches only what is made of parts that have been read, never how they are read.
  fun_induction lower e negated with
  | case1 left op right negated ihl ihr =>
    rw [lower]
    exact failure?_bind _ fun _ => failure?_bind _ fun _ => rfl
  | case2 left op right negated =>
    rw [lower, failure?_lowerComparison, failure?_lowerComparison]
  | case3 left right negated => exact failure?_lowerMembership negated left right
  | case5 operand negated ih => exact ih
  | case6 operand negated | case7 operand negated => exact failure?_bind _ fun _ => rfl
  | case8 operand negated => exact failure?_lowerNullOrEmpty negated operand
  | case10 operand place pattern ignoreCase negated =>
    exact failure?_lowerMatch negated operand place pattern
  | case11 c negated => rfl
  | case12 name operand negated hname =>
    rw [lower, if_pos hname]
    exact failure?_lowerNullOrEmpty negated operand
  | case13 name operand negated hname => rw [lower, if_neg hname]
  | case4 | case9 => rfl
  | case14 negated name args hargs =>
    rw [lower]
    exact hargs
  | case15 negated e =>
    -- A literal or a list.
    rw [lower] <;> assumption

end Expr

/-! ### Acceptance -/

namespace Binder

/-- A predicate is written whole: all of its values are bound. -/
theorem compile_of_isPredicate (binder : Binder) {e : Expr} (h : e.IsPredicate) :
    ∃ written, binder.compile e = (.ok written, binder.bindAll e.literals) := by
  obtain ⟨clause, hclause⟩ := h.exists_lowers false
  refine ⟨⟨(binder.fill clause.template).1, clause.isCompound⟩, ?_⟩
  rw [compile, hclause.lower, ← hclause.literals, ← snd_fill]

theorem compile_of_lower_eq_error (binder : Binder) {e : Expr} {r : Rejection}
    (h : e.lower false = .error r) :
    binder.compile e = (.error r.cause, binder.bindAll r.values) := by
  rw [compile, h]

/-- **Acceptance.**  Whatever has been bound before, and under any naming, a tree is written as
    a condition exactly if it is a predicate, and any other tree is refused.  The tree and its
    negation are accepted together, and then all of its values are bound; or they are refused
    together, for the same reason. -/
theorem compile_accepts (binder : Binder) (e : Expr) :
    ((∃ written after, binder.compile e = (.ok written, after)) ↔ e.IsPredicate) ∧
      ((∃ cause after, binder.compile e = (.error cause, after)) ↔ ¬ e.IsPredicate) ∧
      ((∃ written written',
          binder.compile e = (.ok written, binder.bindAll e.literals) ∧
            binder.compile e.not = (.ok written', binder.bindAll e.literals)) ∨
        ∃ cause after, binder.compile e = (.error cause, after) ∧
          binder.compile e.not = (.error cause, after)) := by
  by_cases hpredicate : e.IsPredicate
  · obtain ⟨written, hwritten⟩ := binder.compile_of_isPredicate hpredicate
    obtain ⟨written', hwritten'⟩ := binder.compile_of_isPredicate hpredicate.not
    refine ⟨?_, ?_, .inl ⟨written, written', hwritten, hwritten'⟩⟩
    · exact iff_of_true ⟨written, _, hwritten⟩ hpredicate
    · refine iff_of_false ?_ (not_not_intro hpredicate)
      rintro ⟨cause, after, hrefused⟩
      rw [hwritten] at hrefused
      exact absurd (congrArg Prod.fst hrefused) (by simp)
  · cases hlower : e.lower false with
    | ok clause =>
      exact absurd ((Expr.isPredicate_iff e false).mpr ⟨clause, hlower⟩) hpredicate
    | error r =>
      have hrefused := binder.compile_of_lower_eq_error hlower
      -- Lowering the negation is lowering the tree with the flag turned.
      have hnot : e.not.lower false = .error r := by
        show e.lower true = .error r
        rw [← Rejection.failure?_eq_some, ← Rejection.failure?_eq_some.mpr hlower]
        exact Expr.failure?_lower_not e false
      refine ⟨?_, ?_, .inr ⟨_, _, hrefused, binder.compile_of_lower_eq_error hnot⟩⟩
      · refine iff_of_false ?_ hpredicate
        rintro ⟨written, after, hwritten⟩
        rw [hrefused] at hwritten
        exact absurd (congrArg Prod.fst hwritten) (by simp)
      · exact iff_of_true ⟨_, _, hrefused⟩ hpredicate

end Binder

end BoundSql
