import BoundSql.Proofs.Clause.Lowering

namespace BoundSql

/-!
# Clause — trees with other values

A tree with its values replaced by others is lowered to the same condition with the values
replaced.  Null has to stay null, because it is written out, and a string has to stay a
string, because it can be a pattern.  Where lowering fails, the failure stays as it is if the
kinds of the values stay.

* `Expr.redact` — the tree with its values replaced.
* `Expr.Alike` — trees that differ in their values and wishes about case only.
* `Expr.Alike.lower` — such trees are lowered alike.
-/

/-! ### Replacing values -/

namespace Expr

mutual

/-- The tree with its values replaced; the wishes to ignore case are dropped. -/
def redact (f : Value → Value) : Expr → Expr
  | .column c => .column c
  | .literal v => .literal (f v)
  | .list items => .list (redactAll f items)
  | .binary left op right => .binary (left.redact f) op (right.redact f)
  | .unary op operand => .unary op (operand.redact f)
  | .like operand place pattern _ => .like (operand.redact f) place (pattern.redact f) false
  | .call name args => .call name (redactAll f args)

def redactAll (f : Value → Value) : List Expr → List Expr
  | [] => []
  | e :: rest => e.redact f :: redactAll f rest

end

end Expr

def Term.redact (f : Value → Value) : Term → Term
  | .column c => .column c
  | .value v => .value (f v)

/-- The condition with its values replaced. -/
def Clause.redact (f : Value → Value) : Clause → Clause
  | .join negated op left right => .join negated op (left.redact f) (right.redact f)
  | .compare op left right => .compare op (left.redact f) (right.redact f)
  | .nullTest isNull t => .nullTest isNull (t.redact f)
  | .within negated t items => .within negated (t.redact f) (items.map f)
  | .constant holds => .constant holds
  | .nullOrEmpty negated c => .nullOrEmpty negated c
  | .like negated t place pattern => .like negated (t.redact f) place (pattern.redact f)
  | .truth negated c => .truth negated c

def Piece.redact (f : Value → Value) : Piece → Piece
  | .text s => .text s
  | .value v => .value (f v)

/-- What a replacement of values may not change: null is written out, and a pattern is a
    string. -/
structure Redaction (f : Value → Value) : Prop where
  isNull : ∀ v, (f v).isNull = v.isNull
  string : ∀ s, ∃ t, f (.string s) = .string t

/-! ### Conditions with other values -/

section Redact

variable {f : Value → Value}

theorem Term.expr_redact (t : Term) : (t.redact f).expr = t.expr.redact f := by
  cases t <;> rfl

theorem Term.isNull_redact (hf : Redaction f) (t : Term) : (t.redact f).isNull = t.isNull := by
  rcases t with c | v
  · rfl
  · exact hf.isNull v

theorem Expr.redactAll_literals (items : List Value) :
    redactAll f (items.map .literal) = (items.map f).map .literal := by
  induction items with
  | nil => rfl
  | cons v rest ih => rw [List.map_cons, redactAll, ih]; rfl

/-- **Conditions.**  A tree with its values replaced is the condition with its values
    replaced. -/
theorem Expr.Lowers.redact (hf : Redaction f) {e : Expr} {negated : Bool} {clause : Clause}
    (h : Lowers e negated clause) : Lowers (e.redact f) negated (clause.redact f) := by
  -- The null literal makes a comparison a null test, so it has to stay.
  have hnull : Expr.redact f (.literal .null) = .literal .null := by
    have hsame : (f .null).isNull = true := hf.isNull .null
    cases hvalue : f .null <;> simp_all [Expr.redact, Value.isNull]
  induction h with
  | logical op negated hl hr ihl ihr => exact .logical op negated ihl ihr
  | compare op negated a b h =>
    rw [Expr.redact, ← Term.expr_redact, ← Term.expr_redact]
    refine .compare op negated _ _ fun hop => ?_
    rw [Term.isNull_redact hf, Term.isNull_redact hf, h hop]
  | nullRight op negated a hop ha =>
    rw [Expr.redact, ← Term.expr_redact, hnull]
    exact .nullRight op negated _ hop (by rw [Term.isNull_redact hf, ha])
  | nullLeft op negated b hop hb =>
    rw [Expr.redact, ← Term.expr_redact, hnull]
    exact .nullLeft op negated _ hop (by rw [Term.isNull_redact hf, hb])
  | nothing negated c => exact .nothing negated c
  | within negated a first rest =>
    rw [isIn, Expr.redact, ← Term.expr_redact, values, Expr.redact, redactAll_literals]
    exact .within negated _ (f first) (rest.map f)
  | not negated h ih => exact .not negated ih
  | hasValue negated a =>
    rw [Expr.redact, ← Term.expr_redact]
    exact .hasValue negated _
  | isNull negated a =>
    rw [Expr.redact, ← Term.expr_redact]
    exact .isNull negated _
  | nullOrEmpty negated c => exact .nullOrEmpty negated c
  | call negated c hname => exact .call negated c hname
  | like negated a place pattern ignoreCase hpattern =>
    rw [Expr.redact, ← Term.expr_redact, ← Term.expr_redact]
    -- The pattern has to stay a column or a string.
    refine .like negated _ place _ false ?_
    rcases hpattern with ⟨c, rfl⟩ | ⟨s, rfl⟩
    · exact .inl ⟨c, rfl⟩
    · obtain ⟨t, ht⟩ := hf.string s
      exact .inr ⟨t, by rw [Term.redact, ht]⟩
  | truth negated c => exact .truth negated c

end Redact

/-! ### Failures -/

/-- Why there is no result, if there is none. -/
def Rejection.cause? {α : Type} : Except Rejection α → Option LoweringError
  | .ok _ => none
  | .error r => some r.cause

namespace Rejection

variable {α β γ δ : Type}

theorem cause?_precededBy (met : List Value) (x : Except Rejection α) :
    cause? (precededBy met x) = cause? x := by
  cases x <;> rfl

/-- Two runs fail alike if their first parts do, and the second parts behind them. -/
theorem cause?_bind {x : Except Rejection α} {y : Except Rejection β}
    {f : α → Except Rejection γ} {g : β → Except Rejection δ} (hxy : cause? x = cause? y)
    (hfg : ∀ a b, cause? (f a) = cause? (g b)) : cause? (x >>= f) = cause? (y >>= g) := by
  cases x with
  | ok a =>
    cases y with
    | ok b => exact hfg a b
    | error r => exact absurd hxy (by simp [cause?])
  | error r =>
    cases y with
    | ok b => exact absurd hxy (by simp [cause?])
    | error r' => exact hxy

end Rejection

namespace Expr

open Rejection

/-- Values are replaced by values of their kinds. -/
def KeepsKinds (f : Value → Value) : Prop := ∀ v, (f v).typeName = v.typeName

theorem KeepsKinds.redaction {f : Value → Value} (hf : KeepsKinds f) : Redaction f where
  isNull v := by
    have hkind := hf v
    cases hv : f v <;> cases v <;> simp_all [Value.typeName, Value.isNull]
  string s := by
    have hkind := hf (.string s)
    cases hv : f (.string s) <;> simp_all [Value.typeName]

section Kinds

variable {f : Value → Value}

theorem cause?_term? (e : Expr) : cause? (e.redact f).term? = cause? e.term? := by
  cases e <;> rfl

theorem cause?_literalItems (items : List Expr) :
    cause? (literalItems (redactAll f items)) = cause? (literalItems items) := by
  induction items with
  | nil => rfl
  | cons e rest ih =>
    cases e with
    | literal v =>
      refine cause?_bind ?_ fun _ _ => rfl
      rw [cause?_precededBy, cause?_precededBy, ih]
    | _ => rfl

variable (hf : KeepsKinds f)

include hf

theorem describe_redact (e : Expr) : (e.redact f).describe = e.describe := by
  cases e with
  | literal v =>
    show (f v).typeName ++ " literal" = _
    rw [hf v]
    rfl
  | _ => rfl

theorem isNullLiteral_redact (e : Expr) : (e.redact f).isNullLiteral = e.isNullLiteral := by
  cases e with
  | literal v =>
    have hv := hf.redaction.isNull v
    rw [redact]
    cases v <;> cases hfv : f _ <;> simp_all [isNullLiteral, Value.isNull]
  | _ => rfl

theorem cause?_pattern? (e : Expr) : cause? (e.redact f).pattern? = cause? e.pattern? := by
  cases e with
  | literal v =>
    have hv := hf v
    rw [redact]
    cases v <;> cases hfv : f _ <;> simp_all [pattern?, Value.typeName, cause?, reject]
  | _ => rfl

theorem cause?_lowerComparison (op : Comparison) (l r : Expr) :
    cause? (lowerComparison op (l.redact f) (r.redact f)) = cause? (lowerComparison op l r) := by
  -- The same side is the null literal as before, if one is.
  have htested : nullTested? op (l.redact f) (r.redact f)
      = (nullTested? op l r).map (redact f) := by
    unfold nullTested?
    rw [isNullLiteral_redact hf, isNullLiteral_redact hf]
    split
    · cases l.isNullLiteral <;> cases r.isNullLiteral <;> rfl
    · rfl
  rw [lowerComparison, lowerComparison, htested]
  cases nullTested? op l r with
  | none =>
    refine cause?_bind (cause?_term? l) fun _ _ => cause?_bind ?_ fun _ _ => rfl
    rw [cause?_precededBy, cause?_precededBy, cause?_term?]
  | some operand => exact cause?_bind (cause?_term? operand) fun _ _ => rfl

theorem cause?_lowerMembership (negated : Bool) (l r : Expr) :
    cause? (lowerMembership negated (l.redact f) (r.redact f))
      = cause? (lowerMembership negated l r) := by
  cases r with
  | list items =>
    cases items with
    | nil =>
      cases l with
      | literal v =>
        have hdescribe := describe_redact hf (.literal v)
        simp only [redact, redactAll, lowerMembership, reject, cause?] at hdescribe ⊢
        rw [hdescribe]
      | _ => rfl
    | cons first rest =>
      refine cause?_bind (cause?_term? l) fun _ _ => cause?_bind ?_ fun _ _ => rfl
      rw [cause?_precededBy, cause?_precededBy]
      exact cause?_literalItems (first :: rest)
  | literal v =>
    have hdescribe := describe_redact hf (.literal v)
    simp only [redact, lowerMembership, reject, cause?] at hdescribe ⊢
    rw [hdescribe]
  | _ => rfl

theorem cause?_lowerNullOrEmpty (negated : Bool) (e : Expr) :
    cause? (lowerNullOrEmpty negated (e.redact f)) = cause? (lowerNullOrEmpty negated e) := by
  cases e with
  | literal v =>
    have hdescribe := describe_redact hf (.literal v)
    simp only [redact, lowerNullOrEmpty, reject, cause?] at hdescribe ⊢
    rw [hdescribe]
  | _ => rfl

/-- **Failures.**  Lowering fails for the same reason, whatever the values are. -/
theorem cause?_lower (e : Expr) (negated : Bool) :
    cause? ((e.redact f).lower negated) = cause? (e.lower negated) := by
  fun_induction lower e negated with
  | case1 left op right negated ihl ihr =>
    refine cause?_bind ihl fun _ _ => cause?_bind ?_ fun _ _ => rfl
    rw [cause?_precededBy, cause?_precededBy, ihr]
  | case2 left op right negated => exact cause?_lowerComparison hf _ left right
  | case3 left right negated => exact cause?_lowerMembership hf negated left right
  | case5 operand negated ih => exact ih
  | case6 operand negated => exact cause?_bind (cause?_term? operand) fun _ _ => rfl
  | case7 operand negated => exact cause?_bind (cause?_term? operand) fun _ _ => rfl
  | case8 operand negated => exact cause?_lowerNullOrEmpty hf negated operand
  | case10 operand place pattern ignoreCase negated =>
    exact cause?_bind (cause?_pattern? hf pattern) fun _ _ =>
      cause?_bind (cause?_term? operand) fun _ _ => rfl
  | case12 name operand negated hname =>
    simp only [redact, redactAll, lower, hname, if_true]
    exact cause?_lowerNullOrEmpty hf negated operand
  | case4 | case9 | case11 => rfl
  | case13 name operand negated hname => simp [redact, redactAll, lower, hname, cause?, reject]
  -- A call with another number of arguments keeps that number.
  | case14 negated name args hargs =>
    rcases args with _ | ⟨first, _ | ⟨second, rest⟩⟩
    · rfl
    · exact absurd rfl (hargs first)
    · rfl
  | case15 negated e hlogical hcomparison hwithin harithmetic hnot hhasValue hisNull hnullOrEmpty
      hneg hlike hcolumn hone hcall =>
    -- Only literals and lists are left, and neither is a predicate.
    cases e with
    | literal v =>
      show some (LoweringError.unexpectedOperand "a predicate" ((Expr.literal v).redact f).describe)
        = _
      rw [describe_redact hf]
      rfl
    | list items => rfl
    | column c => exact absurd rfl (hcolumn c)
    | binary left op right =>
      cases op with
      | logical op => exact absurd rfl (hlogical left op right)
      | comparison op => exact absurd rfl (hcomparison left op right)
      | within => exact absurd rfl (hwithin left right)
      | arithmetic op => exact absurd rfl (harithmetic left op right)
    | unary op operand =>
      cases op with
      | not => exact absurd rfl (hnot operand)
      | neg => exact absurd rfl (hneg operand)
      | hasValue => exact absurd rfl (hhasValue operand)
      | isNull => exact absurd rfl (hisNull operand)
      | isNullOrEmpty => exact absurd rfl (hnullOrEmpty operand)
    | like operand place pattern ignoreCase =>
      exact absurd rfl (hlike operand place pattern ignoreCase)
    | call name args => exact absurd rfl (hcall name args)

end Kinds

end Expr

/-! ### Templates with other values -/

namespace Template

/-- The template with its values replaced. -/
def redact (f : Value → Value) (template : Template) : Template := template.map (Piece.redact f)

variable {f : Value → Value} (hf : Redaction f)

include hf

/-- The text of a template does not depend on what its values are. -/
theorem write_redact (placeholder : Nat → String) (place : Nat) (template : Template) :
    write placeholder place (template.redact f) = write placeholder place template := by
  induction template generalizing place with
  | nil => rfl
  | cons piece rest ih =>
    cases piece with
    | text s =>
      show s ++ write placeholder place (redact f rest) = s ++ write placeholder place rest
      rw [ih]
    | value v =>
      show write placeholder place (.value (f v) :: redact f rest) = _
      rw [write, write, hf.isNull v, ih, ih]

theorem values_redact (template : Template) :
    values (template.redact f) = (values template).map f := by
  induction template with
  | nil => rfl
  | cons piece rest ih =>
    cases piece with
    | text s => exact ih
    | value v =>
      show values (.value (f v) :: redact f rest) = _
      rw [values, values, hf.isNull v, ih]
      cases v.isNull <;> rfl

end Template

namespace Clause

theorem isCompound_redact (f : Value → Value) (clause : Clause) :
    (clause.redact f).isCompound = clause.isCompound := by
  cases clause with
  | join negated op left right => cases negated <;> rfl
  | _ => rfl

theorem parenthesizedIf_redact (f : Value → Value) (needed : Bool) (template : Template) :
    parenthesizedIf needed (template.redact f) = (parenthesizedIf needed template).redact f := by
  cases needed with
  | false => rfl
  | true => simp [parenthesizedIf, Template.redact, Piece.redact]

theorem itemsTemplate_redact (f : Value → Value) (items : List Value) :
    itemsTemplate (items.map f) = Template.redact f (itemsTemplate items) := by
  induction items with
  | nil => rfl
  | cons v rest ih =>
    cases rest with
    | nil => rfl
    | cons next rest =>
      show Piece.value (f v) :: .text ", " :: itemsTemplate ((next :: rest).map f) = _
      rw [ih]
      rfl

theorem piece_redact (f : Value → Value) (t : Term) : (t.redact f).piece = t.piece.redact f := by
  cases t <;> rfl

/-- The template of a condition with its values replaced. -/
theorem template_redact (f : Value → Value) (clause : Clause) :
    (clause.redact f).template = Template.redact f clause.template := by
  induction clause with
  | join negated op left right ihl ihr =>
    rw [redact, template, template, isCompound_redact, isCompound_redact, ihl, ihr,
      parenthesizedIf_redact, parenthesizedIf_redact]
    cases negated <;> simp [Template.redact, Piece.redact]
  | compare op a b => simp [redact, template, Template.redact, piece_redact, Piece.redact]
  | nullTest isNull t => simp [redact, template, Template.redact, piece_redact, Piece.redact]
  | within negated t items =>
    simp [redact, template, Template.redact, piece_redact, Piece.redact, itemsTemplate_redact]
  | constant holds => rfl
  | nullOrEmpty negated c => rfl
  | like negated t place pattern =>
    cases place <;> simp [redact, template, Template.redact, piece_redact, Piece.redact,
      patternTemplate, MatchPlace.openBefore, MatchPlace.openAfter]
  | truth negated c => rfl

end Clause

/-! ### Trees that differ in their values -/

/-- A value that stands for all values of its kind. -/
def Value.sample : Value → Value
  | .null => .null
  | .bool _ => .bool false
  | .int _ => .int 0
  | .float _ => .float ⟨0⟩
  | .string _ => .string ""

theorem Value.keepsKinds_sample : Expr.KeepsKinds Value.sample := by
  intro v
  cases v <;> rfl

namespace Expr

/-- The trees differ in the values and in the wishes to ignore case at most: where one has a
    value, the other one has a value of the same kind. -/
def Alike (a b : Expr) : Prop := a.redact Value.sample = b.redact Value.sample

/-- **Alike trees** are both conditions, which differ in their values at most, or both fail for
    the same reason. -/
theorem Alike.lower {a b : Expr} (h : a.Alike b) (negated : Bool) :
    (∃ c d, a.Lowers negated c ∧ b.Lowers negated d ∧
        c.redact Value.sample = d.redact Value.sample) ∨
      ∃ r s, a.lower negated = .error r ∧ b.lower negated = .error s ∧ r.cause = s.cause := by
  -- Both trees fail or succeed as the one tree does in which samples stand for their values.
  have hcause : Rejection.cause? (a.lower negated) = Rejection.cause? (b.lower negated) := by
    rw [← cause?_lower Value.keepsKinds_sample a, ← cause?_lower Value.keepsKinds_sample b, h]
  cases ha : a.lower negated with
  | ok c =>
    cases hb : b.lower negated with
    | ok d =>
      have hleft := lowers_of_lower ha
      have hright := lowers_of_lower hb
      refine .inl ⟨c, d, hleft, hright, ?_⟩
      -- The two conditions become the one that the common tree is.
      have hredacted := hleft.redact Value.keepsKinds_sample.redaction
      rw [h] at hredacted
      exact hredacted.unique (hright.redact Value.keepsKinds_sample.redaction)
    | error s =>
      rw [ha, hb] at hcause
      exact absurd hcause (by simp [Rejection.cause?])
  | error r =>
    cases hb : b.lower negated with
    | ok d =>
      rw [ha, hb] at hcause
      exact absurd hcause (by simp [Rejection.cause?])
    | error s =>
      rw [ha, hb] at hcause
      exact .inr ⟨r, s, rfl, rfl, Option.some.inj hcause⟩

end Expr

end BoundSql
