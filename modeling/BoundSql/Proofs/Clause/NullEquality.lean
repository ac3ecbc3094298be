import BoundSql.Proofs.Clause.Conjuncts
import BoundSql.Proofs.Clause.Language
import BoundSql.Proofs.Clause.NormalForm

namespace BoundSql

/-!
# Clause — equality with null

The text of a tree is made of the texts of its leaves, in their order, with nothing but
connectives, negations and parentheses between them.  A leaf that asks for equality with null is
written as a null test of its other side, whichever side that is, wherever the leaf stands and
whatever negations reach it.  This fails in one case only: where both sides are null, they are
compared, and what is never true is asked for.

* `Expr.leaves` — the leaves of a tree, with the negations that reach them.
* `Clause.layout` — the text of a condition, chunk by chunk.
* `Expr.Lowers.forall₂_leaves` — the leaves of a tree and those of its condition.
* `Binder.compile_nullEquality` — which equalities with null are null tests.
-/

open Sql

/-! ### Leaves -/

namespace Expr

/-- A part of a tree that is neither a connective nor a negation.  It is negated if an odd number of
    negations reaches it: those between it and the connective that it is a part of. -/
structure Leaf where
  node : Expr
  negated : Bool

/-- The leaves of a tree, or of its negation, from left to right. -/
def leaves : Expr → (negated : Bool) → List Leaf
  | .binary left (.logical _) right, _ => left.leaves false ++ right.leaves false
  | .unary .not operand, negated => operand.leaves !negated
  | e, negated => [⟨e, negated⟩]

def isComparison : Expr → Bool
  | .binary _ (.comparison _) _ => true
  | _ => false

mutual

/-- The comparisons in a tree, wherever they stand. -/
def comparisons : Expr → List Expr
  | .column _ | .literal _ => []
  | .list items => comparisonsAll items
  | .binary left op right =>
      [Expr.binary left op right].filter isComparison ++ (left.comparisons ++ right.comparisons)
  | .unary _ operand => operand.comparisons
  | .like operand _ pattern _ => operand.comparisons ++ pattern.comparisons
  | .call _ args => comparisonsAll args

/-- The comparisons in several trees, tree by tree. -/
def comparisonsAll : List Expr → List Expr
  | [] => []
  | e :: rest => e.comparisons ++ comparisonsAll rest

end

theorem comparisons_expr (t : Term) : t.expr.comparisons = [] := by
  cases t <;> rfl

theorem comparisonsAll_literals (items : List Value) :
    comparisonsAll (items.map .literal) = [] := by
  induction items with
  | nil => rfl
  | cons v rest ih => exact ih

/-- **Comparisons.**  In a tree that is a condition all comparisons are leaves. -/
theorem Lowers.comparisons {e : Expr} {negated : Bool} {clause : Clause}
    (h : Lowers e negated clause) :
    e.comparisons = ((e.leaves negated).map Leaf.node).filter isComparison := by
  induction h with
  | @logical l r a b op negated hl hr ihl ihr =>
    have hroot : [Expr.binary l (.logical op) r].filter isComparison = [] := rfl
    rw [Expr.comparisons, hroot, ihl, ihr, leaves, List.map_append, List.filter_append,
      List.nil_append]
  | compare op negated a b h =>
    rw [Expr.comparisons, comparisons_expr, comparisons_expr]
    rfl
  | nullRight op negated a hop ha =>
    rw [Expr.comparisons, comparisons_expr]
    rfl
  | nullLeft op negated b hop hb =>
    rw [Expr.comparisons, comparisons_expr]
    rfl
  | nothing negated c => rfl
  | within negated a first rest =>
    rw [isIn, values, Expr.comparisons, comparisons_expr, Expr.comparisons,
      comparisonsAll_literals]
    rfl
  | not negated h ih => exact ih
  | hasValue negated a | isNull negated a => exact comparisons_expr a
  | nullOrEmpty negated c | call negated c hname | truth negated c => rfl
  | like negated a place pattern ignoreCase hpattern =>
    rw [Expr.comparisons, comparisons_expr, comparisons_expr]
    rfl

end Expr

/-! ### Chunks of a text -/

/-- What the text of a condition is made of: words between leaves, and leaves. -/
inductive Chunk where
  | word (s : String)
  | leaf (clause : Clause)

namespace Chunk

def template : Chunk → Template
  | .word s => [.text s]
  | .leaf clause => clause.template

def leaf? : Chunk → Option Clause
  | .word _ => none
  | .leaf clause => some clause

/-- The words between leaves. -/
def words : List String := ["(", ")", "NOT (", " AND ", " OR "]

/-- A closing parenthesis behind chunks and an opening one, or a negation, in front of them, where
    that is needed. -/
def enclosedIf (needed : Bool) (opening : String) (chunks : List Chunk) : List Chunk :=
  if needed then .word opening :: chunks ++ [.word ")"] else chunks

variable (needed : Bool) {opening : String} {chunks : List Chunk}

theorem flatMap_enclosedIf :
    (enclosedIf needed opening chunks).flatMap template
      = if needed then .text opening :: chunks.flatMap template ++ [.text ")"]
        else chunks.flatMap template := by
  cases needed <;> simp [enclosedIf, template]

theorem filterMap_word (s : String) (rest : List Chunk) :
    (Chunk.word s :: rest).filterMap leaf? = rest.filterMap leaf? :=
  List.filterMap_cons_none rfl

theorem filterMap_enclosedIf :
    (enclosedIf needed opening chunks).filterMap leaf? = chunks.filterMap leaf? := by
  cases needed with
  | false => rfl
  | true =>
    rw [enclosedIf, if_pos rfl, List.cons_append, filterMap_word, List.filterMap_append,
      filterMap_word, List.filterMap_nil, List.append_nil]

theorem mem_words_enclosedIf (hopening : opening ∈ words)
    (h : ∀ s, .word s ∈ chunks → s ∈ words) :
    ∀ s, .word s ∈ enclosedIf needed opening chunks → s ∈ words := by
  intro s hs
  cases needed with
  | false => exact h s hs
  | true =>
    rw [enclosedIf, if_pos rfl, List.cons_append, List.mem_cons, List.mem_append,
      List.mem_singleton] at hs
    rcases hs with heq | hs | heq
    · rwa [word.inj heq]
    · exact h s hs
    · rw [word.inj heq]
      decide

end Chunk

namespace Clause

/-- The chunks of the text of a condition. -/
def layout : Clause → List Chunk
  | .join negated op left right =>
      Chunk.enclosedIf negated "NOT (" (Chunk.enclosedIf left.isCompound "(" left.layout
        ++ .word (" " ++ op.sql ++ " ") :: Chunk.enclosedIf right.isCompound "(" right.layout)
  | clause => [.leaf clause]

/-- The parts of a condition that are no connectives. -/
def leaves (clause : Clause) : List Clause := clause.layout.filterMap Chunk.leaf?

/-- The chunks make the text. -/
theorem flatMap_layout (clause : Clause) :
    clause.layout.flatMap Chunk.template = clause.template := by
  induction clause with
  | join negated op left right ihl ihr =>
    have hword : Chunk.template (.word (" " ++ op.sql ++ " ")) = [.text (" " ++ op.sql ++ " ")] :=
      rfl
    rw [layout, Chunk.flatMap_enclosedIf, List.flatMap_append, List.flatMap_cons, hword,
      Chunk.flatMap_enclosedIf, Chunk.flatMap_enclosedIf, ihl, ihr]
    rfl
  | _ => exact List.flatMap_singleton _ _

theorem leaves_join (negated : Bool) (op : Connective) (left right : Clause) :
    (join negated op left right).leaves = left.leaves ++ right.leaves := by
  rw [leaves, layout, Chunk.filterMap_enclosedIf, List.filterMap_append, Chunk.filterMap_word,
    Chunk.filterMap_enclosedIf, Chunk.filterMap_enclosedIf, leaves, leaves]

/-- Between the leaves there are connectives, negations and parentheses only. -/
theorem mem_words_of_mem_layout (clause : Clause) :
    ∀ s, .word s ∈ clause.layout → s ∈ Chunk.words := by
  induction clause with
  | join negated op left right ihl ihr =>
    refine Chunk.mem_words_enclosedIf negated (by decide) fun s hs => ?_
    rcases List.mem_append.mp hs with hs | hs
    · exact Chunk.mem_words_enclosedIf _ (by decide) ihl s hs
    · rcases List.mem_cons.mp hs with heq | hs
      · rw [Chunk.word.inj heq]
        cases op <;> decide
      · exact Chunk.mem_words_enclosedIf _ (by decide) ihr s hs
  | _ =>
    intro s hs
    exact absurd (List.mem_singleton.mp hs) Chunk.noConfusion

end Clause

/-- **Leaves.**  The leaves of a tree are the leaves of its condition, one by one and in their
    order. -/
theorem Expr.Lowers.forall₂_leaves {e : Expr} {negated : Bool} {clause : Clause}
    (h : Lowers e negated clause) :
    List.Forall₂ (fun leaf part => leaf.node.Lowers leaf.negated part) (e.leaves negated)
      clause.leaves := by
  induction h with
  | logical op negated hl hr ihl ihr =>
    rw [Clause.leaves_join, leaves]
    exact List.rel_append ihl ihr
  | not negated h ih => exact ih
  | compare op negated a b h => exact .cons (.compare op negated a b h) .nil
  | nullRight op negated a hop ha => exact .cons (.nullRight op negated a hop ha) .nil
  | nullLeft op negated b hop hb => exact .cons (.nullLeft op negated b hop hb) .nil
  | nothing negated c => exact .cons (.nothing negated c) .nil
  | within negated a first rest => exact .cons (.within negated a first rest) .nil
  | hasValue negated a => exact .cons (.hasValue negated a) .nil
  | isNull negated a => exact .cons (.isNull negated a) .nil
  | nullOrEmpty negated c => exact .cons (.nullOrEmpty negated c) .nil
  | call negated c hname => exact .cons (.call negated c hname) .nil
  | like negated a place pattern ignoreCase hpattern =>
    exact .cons (.like negated a place pattern ignoreCase hpattern) .nil
  | truth negated c => exact .cons (.truth negated c) .nil

/-! ### Null tests -/

/-- The template is the null test of an operand, in the polarity that is asked for. -/
def Template.TestsNull (template : Template) (isNull : Bool) (operand : Expr) : Prop :=
  ∃ t : Term, operand = t.expr ∧
    template = [t.piece, .text (if isNull then " IS NULL" else " IS NOT NULL")]

namespace Expr

theorem isNull_eq_false {t : Term} (h : t.expr ≠ .literal .null) : t.isNull = false := by
  rw [← Bool.not_eq_true]
  intro hnull
  exact h (eq_null_of_isNullLiteral (by rw [Term.isNullLiteral_expr, hnull]))

/-- The sides of a comparison that is lowered are terms. -/
theorem Lowers.exists_terms {l r : Expr} {op : Comparison} {negated : Bool} {part : Clause}
    (h : Lowers (.binary l (.comparison op) r) negated part) :
    (∃ a : Term, l = a.expr) ∧ ∃ b : Term, r = b.expr := by
  cases h.isPredicate with
  | compare op hl hr => exact ⟨hl.exists_term, hr.exists_term⟩

/-- **Null tests.**  A leaf asks for equality of two sides, of which one is null.  The null test of
    the other side is written exactly if that one is not null, too. -/
theorem Lowers.testsNull_iff {leaf : Expr} {negated : Bool} {part : Clause} {op : Comparison}
    {other : Expr} (h : leaf.Lowers negated part) (hop : op.isEquality = true)
    (hleaf : leaf = .binary other (.comparison op) (.literal .null) ∨
      leaf = .binary (.literal .null) (.comparison op) other) :
    part.template.TestsNull (op.flipIf negated == .eq) other ↔ other ≠ .literal .null := by
  constructor
  · rintro ⟨t, -, htemplate⟩ rfl
    -- With null on both sides there are three pieces, and a null test has two.
    rw [or_self_iff] at hleaf
    subst hleaf
    have hcompare : part = .compare (op.flipIf negated) (.value .null) (.value .null) :=
      h.unique (.compare op negated (.value .null) (.value .null) fun _ => rfl)
    rw [hcompare] at htemplate
    exact absurd (congrArg List.length htemplate) (by simp [Clause.template])
  · intro hother
    rcases hleaf with rfl | rfl
    · obtain ⟨⟨t, rfl⟩, -⟩ := h.exists_terms
      rw [h.unique (.nullRight op negated t hop (isNull_eq_false hother))]
      exact ⟨t, rfl, rfl⟩
    · obtain ⟨-, t, rfl⟩ := h.exists_terms
      rw [h.unique (.nullLeft op negated t hop (isNull_eq_false hother))]
      exact ⟨t, rfl, rfl⟩

end Expr

/-! ### Comparisons with null -/

namespace Sql

variable {β : Type}

def Operand.isNull : Operand β → Bool
  | .atom .null => true
  | _ => false

/-- Does a predicate ask for equality with null by a comparison? -/
def Predicate.comparesNull : Predicate β → Bool
  | .compare op left right => op.isEquality && (left.isNull || right.isNull)
  | _ => false

/-- Does a condition ask for equality with null by a comparison, wherever it stands? -/
def Condition.comparesNull : Condition β → Bool
  | .predicate p => p.comparesNull
  | .not c => c.comparesNull
  | .join _ left right => left.comparesNull || right.comparesNull

variable {lookup : String → Option β}

theorem Operand.isNull_of_resolve {read : Operand String} {operand : Operand β}
    (h : read.resolve lookup = some operand) : operand.isNull = read.isNull := by
  cases read with
  | atom a =>
    obtain ⟨b, hb, rfl⟩ := Option.map_eq_some_iff.mp h
    cases a with
    | given name =>
      obtain ⟨x, -, rfl⟩ := Option.map_eq_some_iff.mp hb
      rfl
    | _ =>
      cases hb
      rfl
  | concat first rest =>
    obtain ⟨a, -, hmore⟩ := Option.bind_eq_some_iff.mp h
    obtain ⟨b, -, hoperand⟩ := Option.bind_eq_some_iff.mp hmore
    cases hoperand
    rfl

theorem Predicate.comparesNull_of_resolve {read : Predicate String} {p : Predicate β}
    (h : read.resolve lookup = some p) : p.comparesNull = read.comparesNull := by
  cases read with
  | compare op l r =>
    obtain ⟨a, hl, hmore⟩ := Option.bind_eq_some_iff.mp h
    obtain ⟨b, hr, hp⟩ := Option.bind_eq_some_iff.mp hmore
    cases hp
    rw [comparesNull, Operand.isNull_of_resolve hl, Operand.isNull_of_resolve hr, comparesNull]
  | nullTest isNull operand =>
    obtain ⟨a, -, rfl⟩ := Option.map_eq_some_iff.mp h
    rfl
  | like negated operand pattern =>
    obtain ⟨a, -, hmore⟩ := Option.bind_eq_some_iff.mp h
    obtain ⟨b, -, hp⟩ := Option.bind_eq_some_iff.mp hmore
    cases hp
    rfl
  | within negated operand first rest =>
    obtain ⟨a, -, hmore⟩ := Option.bind_eq_some_iff.mp h
    obtain ⟨b, -, hmore⟩ := Option.bind_eq_some_iff.mp hmore
    obtain ⟨c, -, hp⟩ := Option.bind_eq_some_iff.mp hmore
    cases hp
    rfl

/-- What the names stand for is never null itself. -/
theorem Condition.comparesNull_of_resolve {read : Condition String} {c : Condition β}
    (h : read.resolve lookup = some c) : c.comparesNull = read.comparesNull := by
  induction read generalizing c with
  | predicate p =>
    obtain ⟨q, hq, rfl⟩ := Option.map_eq_some_iff.mp h
    exact Predicate.comparesNull_of_resolve hq
  | not read ih =>
    obtain ⟨d, hd, rfl⟩ := Option.map_eq_some_iff.mp h
    show d.comparesNull = read.comparesNull
    exact ih hd
  | join op left right ihl ihr =>
    obtain ⟨a, hleft, hmore⟩ := Option.bind_eq_some_iff.mp h
    obtain ⟨b, hright, hc⟩ := Option.bind_eq_some_iff.mp hmore
    cases hc
    rw [comparesNull, ihl hleft, ihr hright, comparesNull]

end Sql

theorem Term.isNull_operand (t : Term) : t.operand.isNull = t.isNull := by
  rcases t with c | v
  · rfl
  · by_cases hv : v.isNull = true <;> simp [operand, atom, isNull, Operand.isNull, hv]

namespace Clause

theorem comparesNull_join (negated : Bool) (op : Connective) (left right : Clause) :
    (join negated op left right).condition.comparesNull
      = (left.condition.comparesNull || right.condition.comparesNull) := by
  cases negated <;> rfl

theorem comparesNull_compare (op : Comparison) (a b : Term) :
    (compare op a b).condition.comparesNull = (op.isEquality && (a.isNull || b.isNull)) := by
  rw [condition, Condition.comparesNull, Predicate.comparesNull, Term.isNull_operand,
    Term.isNull_operand]

/-- Other values leave null where it is. -/
theorem comparesNull_redact {f : Value → Value} (hf : Redaction f) (clause : Clause) :
    (clause.redact f).condition.comparesNull = clause.condition.comparesNull := by
  induction clause with
  | join negated op left right ihl ihr =>
    rw [redact, comparesNull_join, ihl, ihr, comparesNull_join]
  | compare op a b =>
    rw [redact, comparesNull_compare, Term.isNull_redact hf, Term.isNull_redact hf,
      comparesNull_compare]
  | within negated t items => cases items <;> rfl
  | _ => rfl

end Clause

namespace Expr

/-- An equality of null with null. -/
def EquatesNulls (e : Expr) : Prop :=
  ∃ op : Comparison, op.isEquality = true ∧
    e = .binary (.literal .null) (.comparison op) (.literal .null)

/-- A comparison equates null with null, and no other comparison is in it. -/
theorem exists_equatesNulls_iff {op : Comparison} {a b : Term} :
    (∃ c ∈ (Expr.binary a.expr (.comparison op) b.expr).comparisons, c.EquatesNulls) ↔
      op.isEquality = true ∧ a.isNull = true ∧ b.isNull = true := by
  have hcomparisons : (Expr.binary a.expr (.comparison op) b.expr).comparisons
      = [.binary a.expr (.comparison op) b.expr] := by
    rw [comparisons, comparisons_expr, comparisons_expr]
    rfl
  rw [hcomparisons]
  simp only [List.mem_singleton, exists_eq_left, ← Term.isNullLiteral_expr]
  constructor
  · rintro ⟨op, hop, heq⟩
    injection heq with hl hcomparison hr
    injection hcomparison with hcomparison
    rw [hl, hcomparison, hr]
    exact ⟨hop, rfl, rfl⟩
  · rintro ⟨hop, hl, hr⟩
    rw [eq_null_of_isNullLiteral hl, eq_null_of_isNullLiteral hr]
    exact ⟨op, hop, rfl⟩

theorem not_exists_equatesNulls {e : Expr} (h : e.comparisons = []) :
    ¬ ∃ c ∈ e.comparisons, c.EquatesNulls := by
  rintro ⟨c, hc, -⟩
  rw [h] at hc
  exact List.not_mem_nil hc

/-- **Comparisons with null.**  A condition compares with null exactly where its tree equates null
    with null. -/
theorem Lowers.comparesNull_iff {e : Expr} {negated : Bool} {clause : Clause}
    (h : Lowers e negated clause) :
    clause.condition.comparesNull = true ↔ ∃ c ∈ e.comparisons, c.EquatesNulls := by
  induction h with
  | @logical l r a b op negated hl hr ihl ihr =>
    have hcomparisons : (Expr.binary l (.logical op) r).comparisons
        = l.comparisons ++ r.comparisons := rfl
    rw [Clause.comparesNull_join, Bool.or_eq_true, ihl, ihr, hcomparisons]
    simp only [List.mem_append, or_and_right, exists_or]
  | compare op negated a b hsides =>
    rw [Clause.comparesNull_compare, isEquality_flipIf, exists_equatesNulls_iff, Bool.and_eq_true,
      Bool.or_eq_true]
    refine and_congr_right fun hop => ?_
    rw [hsides hop, or_self_iff, and_self_iff]
  | nullRight op negated a hop ha =>
    refine iff_of_false Bool.false_ne_true fun hnulls => ?_
    obtain ⟨-, hnull, -⟩ := (exists_equatesNulls_iff (b := .value .null)).mp hnulls
    exact Bool.false_ne_true (ha.symm.trans hnull)
  | nullLeft op negated b hop hb =>
    refine iff_of_false Bool.false_ne_true fun hnulls => ?_
    obtain ⟨-, -, hnull⟩ := (exists_equatesNulls_iff (a := .value .null)).mp hnulls
    exact Bool.false_ne_true (hb.symm.trans hnull)
  | not negated h ih => exact ih
  -- None of the others is a comparison, and all comparisons would be leaves.
  | within negated a first rest =>
    have hnone := (Lowers.within negated a first rest).comparisons
    exact iff_of_false Bool.false_ne_true (not_exists_equatesNulls hnone)
  | hasValue negated a | isNull negated a =>
    exact iff_of_false Bool.false_ne_true (not_exists_equatesNulls (comparisons_expr a))
  | like negated a place pattern ignoreCase hpattern =>
    have hnone := (Lowers.like negated a place pattern ignoreCase hpattern).comparisons
    exact iff_of_false Bool.false_ne_true (not_exists_equatesNulls hnone)
  | nothing negated c | nullOrEmpty negated c | call negated c hname | truth negated c =>
    -- These compare a number, a column with a text, or a column with a truth value.
    refine iff_of_false ?_ (not_exists_equatesNulls rfl)
    cases negated <;> exact Bool.false_ne_true

end Expr

/-! ### Equality with null in a text -/

namespace Binder

/-- As far as its names are legible the text of a tree is read in one way, and what is read compares
    with null exactly if the tree equates null with null. -/
theorem exists_read_comparesNull {binder after : Binder} {e : Expr} {written : ConditionText}
    (h : binder.compile e = (.ok written, after)) (hlegible : binder.naming.Legible)
    (hnames : ∀ c ∈ e.columns, c.isNamed = true) :
    ∃ read, (∀ c, Parses binder.naming.sigil written.sql c ↔ c = read) ∧
      (read.comparesNull = true ↔ ∃ c ∈ e.comparisons, c.EquatesNulls) := by
  obtain ⟨clause, hlowers, rfl, -⟩ := lowers_of_compile h
  obtain ⟨tokens, read, hreads, hderives, hread⟩ :=
    Clause.exists_reading hlegible hlowers hnames binder.counter.toNat
  refine ⟨read, ?_, ?_⟩
  · rw [fst_fill UInt32.ofNat_toNat.symm]
    exact parses_iff hreads (Clause.derives_chain hderives)
  · rw [← Condition.comparesNull_of_resolve hread.unnumbered,
      Clause.comparesNull_redact Value.redaction_blank, hlowers.comparesNull_iff]

/-- **Equality with null.**  The text of a tree is the texts of its leaves, one by one and in their
    order, with only connectives, negations and parentheses between them; all comparisons of the
    tree are among the leaves.  A leaf that asks for equality with null is written as the null
    test of its other side, by the operator that its negations leave it, exactly if the other side
    is not null, too.  As far as its names are legible the text is read in one way, and what is
    read compares with null exactly if the tree equates null with null. -/
theorem compile_nullEquality {binder after : Binder} {e : Expr} {written : ConditionText}
    (h : binder.compile e = (.ok written, after)) :
    (∃ layout : List Chunk,
      written.sql = (binder.fill (layout.flatMap Chunk.template)).1 ∧
      (∀ s, .word s ∈ layout → s ∈ Chunk.words) ∧
      List.Forall₂ (fun leaf part => leaf.node.lower leaf.negated = .ok part ∧
          ∀ (op : Comparison) (other : Expr), op.isEquality = true →
            leaf.node = .binary other (.comparison op) (.literal .null) ∨
              leaf.node = .binary (.literal .null) (.comparison op) other →
            (part.template.TestsNull (op.flipIf leaf.negated == .eq) other ↔
              other ≠ .literal .null))
        (e.leaves false) (layout.filterMap Chunk.leaf?)) ∧
    e.comparisons = ((e.leaves false).map Expr.Leaf.node).filter Expr.isComparison ∧
    (binder.naming.Legible → (∀ c ∈ e.columns, c.isNamed = true) →
      ∃ read, (∀ c, Parses binder.naming.sigil written.sql c ↔ c = read) ∧
        (read.comparesNull = true ↔ ∃ c ∈ e.comparisons, c.EquatesNulls)) := by
  obtain ⟨clause, hlowers, hwritten, -⟩ := lowers_of_compile h
  refine ⟨⟨clause.layout, ?_, clause.mem_words_of_mem_layout, ?_⟩, hlowers.comparisons,
    exists_read_comparesNull h⟩
  · rw [clause.flatMap_layout, hwritten]
  · refine hlowers.forall₂_leaves.imp fun leaf part hpart => ⟨hpart.lower, ?_⟩
    intro op other hop hleaf
    exact hpart.testsNull_iff hop hleaf

theorem compile_nullEquality_nested :
    let name := Expr.column (.bare "name")
    let unnamed := Expr.binary name (.comparison .eq) (.literal .null)
    let named := Expr.binary (.literal .null) (.comparison .ne) name
    let minor := Expr.binary (.column (.bare "age")) (.comparison .lt) (.literal (.int 18))
    let text := "name IS NOT NULL AND NOT (name IS NOT NULL OR age < @ld__1)"
    ((new .standard).compile (.and unnamed.not (.not (.or named minor)))).1
        = .ok ⟨text, true⟩ ∧
      ∃ read, (∀ c, Parses '@' text c ↔ c = read) ∧ read.comparesNull = false := by
  intro name unnamed named minor text
  have hcompile : (new .standard).compile (.and unnamed.not (.not (.or named minor)))
      = (.ok ⟨text, true⟩, ((new .standard).bind (.int 18)).2) := rfl
  obtain ⟨-, -, hreads⟩ := compile_nullEquality hcompile
  have hlegible : Settings.standard.naming.Legible := Settings.legible rfl (by decide)
  obtain ⟨read, hunique, hnulls⟩ := hreads hlegible (by decide)
  refine ⟨congrArg Prod.fst hcompile, read, hunique, ?_⟩
  rw [← Bool.not_eq_true, hnulls]
  rintro ⟨c, hc, op, -, rfl⟩
  -- None of the three comparisons has null on both sides.
  have hcomparisons : (Expr.and unnamed.not (.not (.or named minor))).comparisons
      = [unnamed, named, minor] := rfl
  rw [hcomparisons] at hc
  simp [unnamed, named, minor, name] at hc

/-- Null equated with null, or its negation, is no null test but a comparison, which is never
    true. -/
theorem compile_nullEquality_nulls :
    let e := Expr.binary (.literal .null) (.comparison .eq) (.literal .null)
    (new .standard).compile e = (.ok ⟨"NULL = NULL", false⟩, new .standard) ∧
      (new .standard).compile e.not = (.ok ⟨"NULL <> NULL", false⟩, new .standard) ∧
      ∃ read, (∀ c, Parses '@' "NULL = NULL" c ↔ c = read) ∧ read.comparesNull = true := by
  intro e
  have hcompile : (new .standard).compile e = (.ok ⟨"NULL = NULL", false⟩, new .standard) := rfl
  have hlegible : Settings.standard.naming.Legible := Settings.legible rfl (by decide)
  obtain ⟨read, hunique, hnulls⟩ := exists_read_comparesNull hcompile hlegible (by decide)
  exact ⟨hcompile, rfl, read, hunique, hnulls.mpr ⟨e, List.mem_cons_self, .eq, rfl, rfl⟩⟩

end Binder

end BoundSql
