import BoundSql.Proofs.Clause.Language

namespace BoundSql

/-!
# Clause — one condition, several spellings

A tree can say the same thing in several ways: twice negated, by a test and by the negation of
its opposite, by a comparison and by the negation of its complement, by an operator and by a call.
Which of these a tree uses, and in how many of its places, leaves no trace in the condition, in the
parameters or in a failure.

* `Expr.Respells` — one spelling for another, at the root of a tree.
* `Expr.Respelled` — other spellings in any places of a tree that negations and connectives lead to.
* `Binder.compile_respelled` — trees that differ in their spelling only are written alike.
-/

namespace Expr

/-- One spelling stands for another at the root of a tree.  The operands may be any trees. -/
inductive Respells : Expr → Expr → Prop where
  | notNot (p : Expr) : Respells p.not.not p
  | hasValue (x : Expr) : Respells (.unary .hasValue x) (Expr.not (.unary .isNull x))
  | complement (a : Expr) (op : Comparison) (b : Expr) :
      Respells (.binary a (.comparison op) b)
        (Expr.not (.binary a (.comparison op.complement) b))
  /-- The name of the function counts up to the case of ASCII letters. -/
  | call {name : String} (hname : name.toLower = "isnullorempty") (x : Expr) :
      Respells (.unary .isNullOrEmpty x) (.call name [x])

/-- **Respelling.**  The trees differ by other spellings, in either direction, in places that are
    reached from the root through connectives and negations. -/
inductive Respelled : Expr → Expr → Prop where
  | refl (e : Expr) : Respelled e e
  | symm {e e' : Expr} (h : Respelled e e') : Respelled e' e
  | trans {e e' e'' : Expr} (h : Respelled e e') (h' : Respelled e' e'') : Respelled e e''
  | here {e e' : Expr} (h : Respells e e') : Respelled e e'
  | logical (op : Connective) {l l' r r' : Expr} (hl : Respelled l l') (hr : Respelled r r') :
      Respelled (.binary l (.logical op) r) (.binary l' (.logical op) r')
  | not {e e' : Expr} (h : Respelled e e') : Respelled e.not e'.not

/-- A negation turns the flag around and has no other effect. -/
theorem lower_not (e : Expr) (negated : Bool) : e.not.lower negated = e.lower !negated := rfl

/-- At the root the spelling does not matter, negated or not: each rule leads to the same test with
    the same flag. -/
theorem Respells.lower_eq {e e' : Expr} (h : Respells e e') (negated : Bool) :
    e.lower negated = e'.lower negated := by
  cases h with
  | notNot p => rw [lower_not, lower_not, Bool.not_not]
  | hasValue x =>
    rw [lower_not, lower, lower, Bool.not_not]
  | complement a op b =>
    rw [lower_not, lower, lower, Comparison.flipIf_complement, Bool.not_not]
  | call hname x =>
    rw [lower, lower, if_pos ((sameName_nullOrEmptyFunction _).mpr hname)]

/-- **Lowering.**  Trees that differ in their spelling only are lowered alike, to the same condition
    or with the same failure. -/
theorem Respelled.lower_eq {e e' : Expr} (h : Respelled e e') (negated : Bool) :
    e.lower negated = e'.lower negated := by
  -- The flag is arbitrary in the induction, because a negation turns it around.
  induction h generalizing negated with
  | refl e => rfl
  | symm h ih => exact (ih negated).symm
  | trans h h' ih ih' => exact (ih negated).trans (ih' negated)
  | here h => exact h.lower_eq negated
  | logical op hl hr ihl ihr => rw [lower, lower, ihl false, ihr false]
  | not h ih => exact ih !negated

end Expr

namespace Binder

/-- **Spelling.**  Under any binder trees that differ in their spelling only are written alike: as
    the same text, with or without a bare connective at its root, and with the same parameters; or
    they are refused for the same reason, with the same values bound by then. -/
theorem compile_respelled (binder : Binder) {e e' : Expr} (h : e.Respelled e') :
    binder.compile e = binder.compile e' := by
  rw [compile, compile, h.lower_eq false]

/-- A negated disjunction, respelled in five places: the disjunction is negated twice more, a
    comparison becomes the negation of its complement, a test for a value the negation of its
    opposite, an operator a call, and a column that is negated twice stands alone. -/
theorem compile_respelled_negated_or :
    let age := Expr.column (.bare "age")
    let name := Expr.column (.bare "name")
    let minor := Expr.binary age (.comparison .lt) (.literal (.int 18))
    let adult := Expr.binary age (.comparison .ge) (.literal (.int 18))
    let active := Expr.column (.bare "active")
    let e := Expr.not (.or minor
      (.and (.and (.unary .hasValue name) (.unary .isNullOrEmpty name)) active.not.not))
    let e' := Expr.not (Expr.not (.not (.or adult.not
      (.and (.and (Expr.not (.unary .isNull name)) (.call "isNULLorEmpty" [name])) active))))
    e.Respelled e' ∧ (new .standard).compile e = (new .standard).compile e' ∧
      ((new .standard).compile e').1 = .ok ⟨"NOT (age < @ld__1 OR ((name IS NOT NULL AND "
        ++ "(name IS NULL OR name = '')) AND active = TRUE))", false⟩ := by
  intro age name minor adult active e e'
  have hcall : "isNULLorEmpty".toLower = "isnullorempty" :=
    (Expr.sameName_nullOrEmptyFunction _).mp (by decide)
  have hminor : minor.Respelled adult.not := .here (.complement age .lt (.literal (.int 18)))
  have htests : (Expr.and (.unary .hasValue name) (.unary .isNullOrEmpty name)).Respelled
      (.and (Expr.not (.unary .isNull name)) (.call "isNULLorEmpty" [name])) :=
    .logical .and (.here (.hasValue name)) (.here (.call hcall name))
  have hactive : active.not.not.Respelled active := .here (.notNot active)
  have h : e.Respelled e' :=
    .trans (.not (.logical .or hminor (.logical .and htests hactive)))
      (.not (.symm (.here (.notNot _))))
  have hsame := compile_respelled (new .standard) h
  refine ⟨h, hsame, ?_⟩
  rw [← hsame]
  rfl

end Binder

end BoundSql
