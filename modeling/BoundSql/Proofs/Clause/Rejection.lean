import BoundSql.Proofs.Clause.Lowering

namespace BoundSql

/-!
# Clause — how far a tree was read

Lowering reads a tree from left to right and stops at the first part that has no place in a
condition.  The values that it has met by then are the first ones of the tree: none is passed
over, not even by the tests that are made ahead of their turn, because these fail before
anything is read.

* `Rejection.Meets` — a failure has met the first of some values.
* `Expr.meets_lower` — what was met when lowering fails.
-/

namespace Expr

mutual

/-- Null is no literal that is bound. -/
theorem not_null_of_mem_literals {e : Expr} {v : Value} (h : v ∈ e.literals) :
    v.isNull = false := by
  match e with
  | .column _ => exact absurd h List.not_mem_nil
  | .literal w =>
    rw [literals] at h
    split at h
    · exact absurd h List.not_mem_nil
    · rename_i hw
      rw [List.mem_singleton.mp h]
      simpa using hw
  | .list items => exact not_null_of_mem_literalsAll h
  | .binary left op right =>
    rcases List.mem_append.mp h with hleft | hright
    · exact not_null_of_mem_literals hleft
    · exact not_null_of_mem_literals hright
  | .unary op operand =>
    have hoperand : v ∈ operand.literals := h
    exact not_null_of_mem_literals hoperand
  | .like operand place pattern ignoreCase =>
    rcases List.mem_append.mp h with hoperand | hpattern
    · exact not_null_of_mem_literals hoperand
    · exact not_null_of_mem_literals hpattern
  | .call name args => exact not_null_of_mem_literalsAll h

theorem not_null_of_mem_literalsAll {items : List Expr} {v : Value} (h : v ∈ literalsAll items) :
    v.isNull = false := by
  match items with
  | [] => exact absurd h List.not_mem_nil
  | e :: rest =>
    rcases List.mem_append.mp h with hfirst | hrest
    · exact not_null_of_mem_literals hfirst
    · exact not_null_of_mem_literalsAll hrest

end

end Expr

namespace Rejection

variable {α β : Type} {x : Except Rejection α} {values : List Value}

/-- If there is a failure, the values met before it are the first ones of the given values. -/
def Meets (x : Except Rejection α) (values : List Value) : Prop :=
  ∀ r, x = .error r → r.values <+: values

theorem meets_ok (a : α) (values : List Value) : Meets (.ok a) values := by
  intro r h
  exact absurd h (by simp)

/-- What fails at once has met nothing. -/
theorem meets_reject (cause : LoweringError) (values : List Value) :
    Meets (Expr.reject (α := α) cause) values := by
  intro r h
  cases h
  exact List.nil_prefix

theorem Meets.bind (hx : Meets x values) {f : α → Except Rejection β}
    (hf : ∀ a, x = .ok a → Meets (f a) values) : Meets (x >>= f) values := by
  cases x with
  | ok a => exact hf a rfl
  | error r =>
    intro s hs
    cases hs
    exact hx r rfl

/-- What fails later has met the values before it as well. -/
theorem Meets.precededBy (hx : Meets x values) (met : List Value) :
    Meets (precededBy met x) (met ++ values) := by
  cases x with
  | ok a => exact meets_ok a _
  | error r =>
    intro s hs
    cases hs
    exact (List.prefix_append_right_inj met).mpr (hx r rfl)

/-- More values may follow. -/
theorem Meets.append (hx : Meets x values) (more : List Value) : Meets x (values ++ more) := by
  intro r hr
  exact (hx r hr).trans (List.prefix_append values more)

end Rejection

namespace Expr

open Rejection

/-- The values of a term are those of its tree. -/
theorem values_of_term? {e : Expr} {t : Term} (h : e.term? = .ok t) : t.values = e.literals := by
  rw [eq_expr_of_term? h]
  cases t <;> rfl

/-- What is no term holds no value that was met. -/
theorem meets_term? (e : Expr) (values : List Value) : Meets e.term? values := by
  cases e with
  | column c => exact meets_ok _ _
  | literal v => exact meets_ok _ _
  | _ => exact meets_reject _ _

theorem meets_pattern? (e : Expr) (values : List Value) : Meets e.pattern? values := by
  unfold pattern?
  split
  · exact meets_ok _ _
  · exact meets_ok _ _
  · exact meets_reject _ _
  · exact meets_reject _ _

theorem meets_literalItems (items : List Expr) :
    Meets (literalItems items) (literalsAll items) := by
  induction items with
  | nil => exact meets_ok _ _
  | cons e rest ih =>
    cases e with
    | literal v => exact (ih.precededBy v.toBind).bind fun values _ => meets_ok _ _
    | _ => exact meets_reject _ _

theorem meets_lowerComparison (op : Comparison) (left right : Expr) :
    Meets (lowerComparison op left right) (left.literals ++ right.literals) := by
  unfold lowerComparison
  split
  · exact (meets_term? _ _).bind fun _ _ => meets_ok _ _
  · refine (meets_term? left _).bind fun a ha => ?_
    -- The left side was read whole before the right one was looked at.
    rw [← values_of_term? ha]
    exact ((meets_term? right _).precededBy a.values).bind fun _ _ => meets_ok _ _

theorem meets_lowerMembership (negated : Bool) (left right : Expr) :
    Meets (lowerMembership negated left right) (left.literals ++ right.literals) := by
  unfold lowerMembership
  split
  · split
    · exact meets_ok _ _
    · exact meets_reject _ _
  · rename_i items _
    refine (meets_term? left _).bind fun a ha => ?_
    rw [← values_of_term? ha]
    exact ((meets_literalItems items).precededBy a.values).bind fun _ _ => meets_ok _ _
  · exact meets_reject _ _

theorem meets_lowerNullTest (isNull : Bool) (operand : Expr) (values : List Value) :
    Meets (lowerNullTest isNull operand) values :=
  (meets_term? operand values).bind fun _ _ => meets_ok _ _

theorem meets_lowerNullOrEmpty (negated : Bool) (operand : Expr) (values : List Value) :
    Meets (lowerNullOrEmpty negated operand) values := by
  cases operand with
  | column c => exact meets_ok _ _
  | _ => exact meets_reject _ _

theorem meets_lowerMatch (negated : Bool) (operand : Expr) (place : MatchPlace) (pattern : Expr)
    (values : List Value) : Meets (lowerMatch negated operand place pattern) values :=
  (meets_pattern? pattern values).bind fun _ _ =>
    (meets_term? operand values).bind fun _ _ => meets_ok _ _

/-- **What was met.**  Where lowering a tree fails, the values met before are the first ones of
    the tree, from left to right. -/
theorem meets_lower (e : Expr) (negated : Bool) : Meets (e.lower negated) e.literals := by
  fun_induction lower e negated with
  | case1 left op right negated ihl ihr =>
    show Meets _ (left.literals ++ right.literals)
    refine (ihl.append right.literals).bind fun a ha => ?_
    -- The first part was lowered, so that all of its values come before those of the second.
    rw [← (lowers_of_lower ha).literals]
    exact (ihr.precededBy _).bind fun _ _ => meets_ok _ _
  | case2 left op right negated => exact meets_lowerComparison _ left right
  | case3 left right negated => exact meets_lowerMembership negated left right
  | case5 operand negated ih => exact ih
  | case6 operand negated => exact meets_lowerNullTest negated operand _
  | case7 operand negated => exact meets_lowerNullTest (!negated) operand _
  | case8 operand negated => exact meets_lowerNullOrEmpty negated operand _
  | case10 operand place pattern ignoreCase negated =>
    exact meets_lowerMatch negated operand place pattern _
  | case11 c negated => exact meets_ok _ _
  | case12 name operand negated hname => exact meets_lowerNullOrEmpty negated operand _
  | _ => exact meets_reject _ _

end Expr

end BoundSql
