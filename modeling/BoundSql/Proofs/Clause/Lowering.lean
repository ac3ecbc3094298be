import BoundSql.Clause.ConditionText
import BoundSql.Proofs.Binder.Numbering

namespace BoundSql

/-!
# Clause — which trees are which conditions

Lowering as a relation with one rule for every kind of condition.  What holds of all lowered
trees is proved over its rules, and no proof has to look at the failures again.

* `Expr.Lowers` — the tree, negated or not, is the condition.
* `Expr.lowers_of_lower` — what lowering finds follows the rules.
* `Expr.Lowers.literals` — no value is lost, added, or moved.
-/

/-! ### Terms -/

namespace Term

/-- The tree of a column or a value. -/
def expr : Term → Expr
  | .column c => .column c
  | .value v => .literal v

/-- Is the term the null value itself? -/
def isNull : Term → Bool
  | .column _ => false
  | .value v => v.isNull

theorem isNullLiteral_expr (t : Term) : t.expr.isNullLiteral = t.isNull := by
  rcases t with c | v
  · rfl
  · cases v <;> rfl

end Term

/-! ### Success -/

/-- Where two steps succeed together, each of them does. -/
theorem exists_of_bind_eq_ok {ε α β : Type} {x : Except ε α} {f : α → Except ε β} {b : β}
    (h : (x >>= f) = .ok b) : ∃ a, x = .ok a ∧ f a = .ok b := by
  cases x with
  | ok a => exact ⟨a, rfl, h⟩
  | error r => exact absurd h (by simp [bind, Except.bind])

theorem Rejection.precededBy_eq_ok {α : Type} {met : List Value} {x : Except Rejection α} {a : α}
    (h : precededBy met x = .ok a) : x = .ok a := by
  cases x with
  | ok b => exact h
  | error r => exact absurd h (by simp [precededBy])

namespace Expr

theorem eq_expr_of_term? {e : Expr} {t : Term} (h : e.term? = .ok t) : e = t.expr := by
  cases e <;> simp only [term?, reject, Except.ok.injEq, reduceCtorEq] at h <;> subst h <;> rfl

theorem eq_null_of_isNullLiteral {e : Expr} (h : e.isNullLiteral = true) : e = .literal .null := by
  unfold isNullLiteral at h
  split at h
  · rfl
  · exact Bool.noConfusion h

/-- What a pattern can be. -/
theorem eq_expr_of_pattern? {e : Expr} {t : Term} (h : e.pattern? = .ok t) :
    e = t.expr ∧ ((∃ c, t = .column c) ∨ ∃ s, t = .value (.string s)) := by
  unfold pattern? at h
  split at h <;> simp only [reject, Except.ok.injEq, reduceCtorEq] at h
  · exact ⟨by rw [← h]; rfl, .inr ⟨_, h.symm⟩⟩
  · exact ⟨by rw [← h]; rfl, .inl ⟨_, h.symm⟩⟩

/-- A list of literals is read item by item. -/
theorem eq_literals_of_literalItems {items : List Expr} {values : List Value}
    (h : literalItems items = .ok values) : items = values.map .literal := by
  induction items generalizing values with
  | nil =>
    rw [literalItems, Except.ok.injEq] at h
    subst h
    rfl
  | cons e rest ih =>
    cases e with
    | literal v =>
      rw [literalItems] at h
      cases hrest : literalItems rest with
      | ok more =>
        rw [hrest] at h
        cases h
        rw [ih hrest, List.map_cons]
      | error r =>
        rw [hrest] at h
        exact absurd h (by simp [Rejection.precededBy, bind, Except.bind])
    | _ => simp [literalItems, reject] at h

/-! ### Rules -/

/-- The tree, or its negation if that is asked for, is the condition. -/
inductive Lowers : Expr → (negated : Bool) → Clause → Prop where
  /-- A connective is negated as a whole. -/
  | logical {l r : Expr} {a b : Clause} (op : Connective) (negated : Bool)
      (hl : Lowers l false a) (hr : Lowers r false b) :
      Lowers (.binary l (.logical op) r) negated (.join negated op a b)
  | compare (op : Comparison) (negated : Bool) (a b : Term)
      (h : op.isEquality = true → a.isNull = b.isNull) :
      Lowers (.binary a.expr (.comparison op) b.expr) negated (.compare (op.flipIf negated) a b)
  /-- Equality with null is a null test. -/
  | nullRight (op : Comparison) (negated : Bool) (a : Term) (hop : op.isEquality = true)
      (ha : a.isNull = false) :
      Lowers (.binary a.expr (.comparison op) (.literal .null)) negated
        (.nullTest (op.flipIf negated == .eq) a)
  | nullLeft (op : Comparison) (negated : Bool) (b : Term) (hop : op.isEquality = true)
      (hb : b.isNull = false) :
      Lowers (.binary (.literal .null) (.comparison op) b.expr) negated
        (.nullTest (op.flipIf negated == .eq) b)
  | nothing (negated : Bool) (c : Column) :
      Lowers (.binary (.column c) .within (.list [])) negated (.constant negated)
  | within (negated : Bool) (a : Term) (first : Value) (rest : List Value) :
      Lowers (a.expr.isIn (first :: rest)) negated (.within negated a (first :: rest))
  | not {e : Expr} {a : Clause} (negated : Bool) (h : Lowers e (!negated) a) :
      Lowers e.not negated a
  | hasValue (negated : Bool) (a : Term) :
      Lowers (.unary .hasValue a.expr) negated (.nullTest negated a)
  | isNull (negated : Bool) (a : Term) :
      Lowers (.unary .isNull a.expr) negated (.nullTest (!negated) a)
  | nullOrEmpty (negated : Bool) (c : Column) :
      Lowers (.unary .isNullOrEmpty (.column c)) negated (.nullOrEmpty negated c)
  | call (negated : Bool) (c : Column) {name : String}
      (hname : sameName name nullOrEmptyFunction = true) :
      Lowers (.call name [.column c]) negated (.nullOrEmpty negated c)
  /-- A pattern is a string or a column. -/
  | like (negated : Bool) (a : Term) (place : MatchPlace) (pattern : Term) (ignoreCase : Bool)
      (hpattern : (∃ c, pattern = .column c) ∨ ∃ s, pattern = .value (.string s)) :
      Lowers (.like a.expr place pattern.expr ignoreCase) negated
        (.like negated a place pattern)
  | truth (negated : Bool) (c : Column) : Lowers (.column c) negated (.truth negated c)

/-! ### What lowering finds -/

theorem isEquality_flipIf (negated : Bool) (op : Comparison) :
    (op.flipIf negated).isEquality = op.isEquality := by
  cases negated <;> cases op <;> rfl

theorem lowers_of_lowerComparison {op : Comparison} {negated : Bool} {l r : Expr} {clause : Clause}
    (h : lowerComparison (op.flipIf negated) l r = .ok clause) :
    Lowers (.binary l (.comparison op) r) negated clause := by
  unfold lowerComparison at h
  split at h
  · -- A null test: one of the sides is the null literal, and the other one is tested.
    rename_i operand htested
    obtain ⟨t, hterm, hclause⟩ := exists_of_bind_eq_ok h
    cases hclause
    have hoperand : operand = t.expr := eq_expr_of_term? hterm
    unfold nullTested? at htested
    rw [isEquality_flipIf] at htested
    split at htested
    · rename_i hop
      split at htested
      · rename_i hleft hright
        cases htested
        rw [hoperand, Term.isNullLiteral_expr] at hleft
        rw [hoperand, eq_null_of_isNullLiteral hright]
        exact .nullRight op negated t hop hleft
      · rename_i hleft hright
        cases htested
        rw [hoperand, Term.isNullLiteral_expr] at hright
        rw [hoperand, eq_null_of_isNullLiteral hleft]
        exact .nullLeft op negated t hop hright
      · exact absurd htested (by simp)
    · exact absurd htested (by simp)
  · -- No null test: the two sides are compared, and none or both of them are null.
    rename_i htested
    obtain ⟨a, hleft, hmore⟩ := exists_of_bind_eq_ok h
    obtain ⟨b, hright, hclause⟩ := exists_of_bind_eq_ok hmore
    cases hclause
    have hb : r = b.expr := eq_expr_of_term? (Rejection.precededBy_eq_ok hright)
    have ha : l = a.expr := eq_expr_of_term? hleft
    subst ha hb
    refine .compare op negated a b fun hop => ?_
    unfold nullTested? at htested
    rw [isEquality_flipIf, if_pos hop, Term.isNullLiteral_expr, Term.isNullLiteral_expr] at htested
    -- With exactly one null side there would have been a null test.
    cases ha : a.isNull <;> cases hb : b.isNull <;> simp [ha, hb] at htested ⊢

theorem lowers_of_lowerMembership {negated : Bool} {l r : Expr} {clause : Clause}
    (h : lowerMembership negated l r = .ok clause) :
    Lowers (.binary l .within r) negated clause := by
  unfold lowerMembership at h
  split at h
  · split at h
    · cases h
      exact .nothing negated _
    · exact absurd h (by simp [reject])
  · rename_i items hne
    obtain ⟨a, hleft, hmore⟩ := exists_of_bind_eq_ok h
    obtain ⟨values, hitems, hclause⟩ := exists_of_bind_eq_ok hmore
    cases hclause
    have hvalues : items = values.map .literal :=
      eq_literals_of_literalItems (Rejection.precededBy_eq_ok hitems)
    -- The empty list was told apart before.
    cases values with
    | nil => exact absurd hvalues (by simpa using hne)
    | cons first rest =>
      rw [eq_expr_of_term? hleft, hvalues]
      exact .within negated a first rest
  · exact absurd h (by simp [reject])

theorem exists_term_of_lowerNullTest {isNull : Bool} {operand : Expr} {clause : Clause}
    (h : lowerNullTest isNull operand = .ok clause) :
    ∃ t : Term, operand = t.expr ∧ clause = .nullTest isNull t := by
  obtain ⟨t, hterm, hclause⟩ := exists_of_bind_eq_ok h
  cases hclause
  exact ⟨t, eq_expr_of_term? hterm, rfl⟩

theorem exists_column_of_lowerNullOrEmpty {negated : Bool} {operand : Expr} {clause : Clause}
    (h : lowerNullOrEmpty negated operand = .ok clause) :
    ∃ c, operand = .column c ∧ clause = .nullOrEmpty negated c := by
  cases operand with
  | column c => exact ⟨c, rfl, (Except.ok.inj h).symm⟩
  | _ => exact absurd h (by simp [lowerNullOrEmpty, reject])

theorem lowers_of_lowerMatch {negated : Bool} {operand pattern : Expr} {place : MatchPlace}
    {clause : Clause} (ignoreCase : Bool)
    (h : lowerMatch negated operand place pattern = .ok clause) :
    Lowers (.like operand place pattern ignoreCase) negated clause := by
  obtain ⟨p, hpattern, hmore⟩ := exists_of_bind_eq_ok h
  obtain ⟨a, hoperand, hclause⟩ := exists_of_bind_eq_ok hmore
  cases hclause
  obtain ⟨rfl, hkind⟩ := eq_expr_of_pattern? hpattern
  rw [eq_expr_of_term? hoperand]
  exact .like negated a place p ignoreCase hkind

/-- **What lowering finds.**  A tree that is lowered to a condition follows the rules. -/
theorem lowers_of_lower {e : Expr} {negated : Bool} {clause : Clause}
    (h : e.lower negated = .ok clause) : Lowers e negated clause := by
  -- One case for each branch of the function; those left over at the end refuse the tree.
  fun_induction lower e negated generalizing clause with
  | case1 left op right negated ihl ihr =>
    obtain ⟨a, hleft, hmore⟩ := exists_of_bind_eq_ok h
    obtain ⟨b, hright, hclause⟩ := exists_of_bind_eq_ok hmore
    cases hclause
    exact .logical op negated (ihl hleft) (ihr (Rejection.precededBy_eq_ok hright))
  | case2 => exact lowers_of_lowerComparison h
  | case3 => exact lowers_of_lowerMembership h
  | case5 operand negated ih => exact .not negated (ih h)
  | case6 operand negated =>
    obtain ⟨t, rfl, rfl⟩ := exists_term_of_lowerNullTest h
    exact .hasValue negated t
  | case7 operand negated =>
    obtain ⟨t, rfl, rfl⟩ := exists_term_of_lowerNullTest h
    exact .isNull negated t
  | case8 operand negated =>
    obtain ⟨c, rfl, rfl⟩ := exists_column_of_lowerNullOrEmpty h
    exact .nullOrEmpty negated c
  | case10 operand place pattern ignoreCase => exact lowers_of_lowerMatch ignoreCase h
  | case11 c negated =>
    cases h
    exact .truth negated c
  | case12 name operand negated hname =>
    obtain ⟨c, rfl, rfl⟩ := exists_column_of_lowerNullOrEmpty h
    exact .call negated c hname
  | _ => exact absurd h (by simp [reject])

/-! ### What the rules give -/

theorem term?_expr (t : Term) : t.expr.term? = .ok t := by
  cases t <;> rfl

theorem literalItems_literals (values : List Value) :
    literalItems (values.map .literal) = .ok values := by
  induction values with
  | nil => rfl
  | cons v rest ih =>
    rw [List.map_cons, literalItems, ih]
    rfl

theorem pattern?_expr {t : Term} (h : (∃ c, t = .column c) ∨ ∃ s, t = .value (.string s)) :
    t.expr.pattern? = .ok t := by
  rcases h with ⟨c, rfl⟩ | ⟨s, rfl⟩
  · rfl
  · rfl

theorem nullTested?_eq_none {op : Comparison} {a b : Term}
    (h : op.isEquality = true → a.isNull = b.isNull) : nullTested? op a.expr b.expr = none := by
  unfold nullTested?
  rw [Term.isNullLiteral_expr, Term.isNullLiteral_expr]
  by_cases hop : op.isEquality = true
  · rw [if_pos hop, h hop]
    cases b.isNull <;> rfl
  · rw [if_neg hop]

/-- **What the rules give.**  The condition of a tree by the rules is what lowering finds. -/
theorem Lowers.lower {e : Expr} {negated : Bool} {clause : Clause} (h : Lowers e negated clause) :
    e.lower negated = .ok clause := by
  induction h with
  | logical op negated hl hr ihl ihr =>
    rw [Expr.lower, ihl, ihr]
    rfl
  | compare op negated a b h =>
    have htested : nullTested? (op.flipIf negated) a.expr b.expr = none :=
      nullTested?_eq_none (by rwa [isEquality_flipIf])
    rw [Expr.lower, lowerComparison, htested]
    simp only [term?_expr]
    rfl
  | nullRight op negated a hop ha =>
    have htested : nullTested? (op.flipIf negated) a.expr (.literal .null) = some a.expr := by
      rw [nullTested?, isEquality_flipIf, if_pos hop, Term.isNullLiteral_expr, ha]
      rfl
    rw [Expr.lower, lowerComparison, htested]
    simp only [term?_expr]
    rfl
  | nullLeft op negated b hop hb =>
    have htested : nullTested? (op.flipIf negated) (.literal .null) b.expr = some b.expr := by
      rw [nullTested?, isEquality_flipIf, if_pos hop, Term.isNullLiteral_expr, hb]
      rfl
    rw [Expr.lower, lowerComparison, htested]
    simp only [term?_expr]
    rfl
  | nothing negated c => rfl
  | within negated a first rest =>
    have hitems : literalItems (.literal first :: rest.map .literal) = .ok (first :: rest) :=
      literalItems_literals (first :: rest)
    rw [isIn, values, List.map_cons, Expr.lower, lowerMembership]
    · simp only [term?_expr, hitems]
      rfl
    · simp
  | not negated h ih => exact ih
  | hasValue negated a | isNull negated a =>
    rw [Expr.lower, lowerNullTest, term?_expr]
    rfl
  | nullOrEmpty negated c => rfl
  | call negated c hname =>
    rw [Expr.lower, if_pos hname]
    rfl
  | like negated a place pattern ignoreCase hpattern =>
    rw [Expr.lower, lowerMatch, pattern?_expr hpattern, term?_expr]
    rfl
  | truth negated c => rfl

/-- The rules give one condition at most. -/
theorem Lowers.unique {e : Expr} {negated : Bool} {clause other : Clause}
    (h : Lowers e negated clause) (hother : Lowers e negated other) : clause = other :=
  Except.ok.inj (h.lower.symm.trans hother.lower)

end Expr

/-! ### Values -/

namespace Clause

theorem values_piece (t : Term) (rest : Template) :
    Template.values (t.piece :: rest) = t.expr.literals ++ Template.values rest := by
  rcases t with c | v
  · rfl
  · by_cases hv : v.isNull = true <;> simp [Term.piece, Term.expr, Template.values,
      Expr.literals, hv]

theorem values_text (s : String) (rest : Template) :
    Template.values (.text s :: rest) = Template.values rest := rfl

theorem values_parenthesizedIf (needed : Bool) (template : Template) :
    Template.values (parenthesizedIf needed template) = Template.values template := by
  cases needed with
  | false => rfl
  | true =>
    show Template.values ([.text "("] ++ template ++ [.text ")"]) = _
    rw [Template.values_append, Template.values_append]
    simp [Template.values]

theorem values_itemsTemplate (items : List Value) :
    Template.values (itemsTemplate items) = (Expr.values items).literals := by
  show _ = Expr.literalsAll (items.map .literal)
  induction items with
  | nil => rfl
  | cons v rest ih =>
    cases rest with
    | nil => exact values_piece (.value v) []
    | cons next rest =>
      show Template.values ((Term.value v).piece :: .text ", " :: itemsTemplate (next :: rest)) = _
      rw [values_piece, values_text, ih]
      rfl

/-- The wildcards of a pattern hold no values. -/
theorem values_patternTemplate (place : MatchPlace) (pattern : Term) :
    Template.values (patternTemplate place pattern) = pattern.expr.literals := by
  cases place <;>
    simp [patternTemplate, MatchPlace.openBefore, MatchPlace.openAfter, values_text, values_piece,
      Template.values]

end Clause

namespace Expr.Lowers

open Clause

/-- **Values.**  The condition has the values of the tree, in their order. -/
theorem literals {e : Expr} {negated : Bool} {clause : Clause} (h : Lowers e negated clause) :
    clause.template.values = e.literals := by
  induction h with
  | @logical l r a b op negated hl hr ihl ihr =>
    -- Parentheses and the connective between the parts hold no values.
    have hbody : Template.values (parenthesizedIf a.isCompound a.template
        ++ .text (" " ++ op.sql ++ " ") :: parenthesizedIf b.isCompound b.template)
        = l.literals ++ r.literals := by
      rw [Template.values_append, values_text, values_parenthesizedIf, values_parenthesizedIf,
        ihl, ihr]
    cases negated with
    | false => exact hbody
    | true =>
      rw [template, if_pos rfl, List.cons_append, values_text, Template.values_append, hbody]
      simp [Template.values, Expr.literals]
  | compare op negated a b h =>
    simp [template, values_piece, Expr.literals, Template.values]
  | nullRight op negated a hop ha | nullLeft op negated b hop hb =>
    simp [template, values_piece, Expr.literals, Template.values, Value.isNull]
  | nothing negated c => cases negated <;> rfl
  | within negated a first rest =>
    rw [template, List.cons_append, List.cons_append, values_piece, values_text,
      Template.values_append, values_itemsTemplate]
    simp [Expr.isIn, Expr.literals, Template.values]
  | not negated h ih => exact ih
  | hasValue negated a | isNull negated a =>
    simp [template, values_piece, Expr.literals, Template.values]
  | nullOrEmpty negated c | call negated c hname =>
    cases negated <;> simp [template, Expr.literals, Expr.literalsAll, Template.values]
  | like negated a place pattern ignoreCase hpattern =>
    rw [template, values_piece, values_text, values_patternTemplate]
    rfl
  | truth negated c => cases negated <;> rfl

/-- No value of a lowered tree is null. -/
theorem not_null_of_mem_literals {e : Expr} {negated : Bool} {clause : Clause}
    (h : Lowers e negated clause) {v : Value} (hv : v ∈ e.literals) : v.isNull = false := by
  -- They are the values of a template, which are never null.
  rw [← h.literals] at hv
  exact Template.not_null_of_mem_values hv

end Expr.Lowers

/-- A tree that is written is lowered to a condition, whose template is filled. -/
theorem Binder.lowers_of_compile {binder after : Binder} {e : Expr} {written : ConditionText}
    (h : binder.compile e = (.ok written, after)) :
    ∃ clause, e.Lowers false clause ∧
      written = ⟨(binder.fill clause.template).1, clause.isCompound⟩ ∧
      after = binder.bindAll e.literals := by
  unfold compile at h
  split at h
  · rename_i clause hlower
    have hlowers := Expr.lowers_of_lower hlower
    cases h
    refine ⟨clause, hlowers, rfl, ?_⟩
    rw [← hlowers.literals]
    exact snd_fill binder clause.template
  · exact absurd h (by simp)

end BoundSql
