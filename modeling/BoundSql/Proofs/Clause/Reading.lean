import BoundSql.Proofs.Clause.Lowering
import BoundSql.Proofs.Sql.Spelling

namespace BoundSql

/-!
# Clause — the text of a condition, read

A lowered tree whose columns are names is written to a text that is read in one way only, and
the names of parameters in that reading stand for the values of the tree, each one at its own
place.  The invariant of the induction is that a text without a connective at its root can be
negated and joined as it stands.

* `Clause.condition` — what the text of a condition is read as.
* `Naming.Legible` — placeholders can be told from everything else.
* `Binder.compile_reads` — the text that is written, read.
-/

open Sql

/-! ### Columns -/

namespace Column

/-- The reference that a text makes; an empty qualifier leaves no trace. -/
def reference (c : Column) : Column :=
  match c.qualifier with
  | none => c
  | some q => if q.isEmpty then .bare c.name else c

/-- Can the reference be read: are the name and the qualifier, if there is one, identifiers? -/
def isNamed (c : Column) : Bool :=
  isIdentifier c.name &&
    match c.qualifier with
    | none => true
    | some q => q.isEmpty || isIdentifier q

end Column

namespace Expr

mutual

/-- The columns in a tree, from left to right. -/
def columns : Expr → List Column
  | .column c => [c]
  | .literal _ => []
  | .list items => columnsAll items
  | .binary left _ right => left.columns ++ right.columns
  | .unary _ operand => operand.columns
  | .like operand _ pattern _ => operand.columns ++ pattern.columns
  | .call _ args => columnsAll args

/-- The columns in several trees, tree by tree. -/
def columnsAll : List Expr → List Column
  | [] => []
  | e :: rest => e.columns ++ columnsAll rest

end

end Expr

/-! ### Conditions -/

/-- What the text of a term is read as. -/
def Term.atom : Term → Atom Value
  | .column c => .column c.reference
  | .value v => if v.isNull then .null else .given v

def Term.operand (t : Term) : Operand Value := .atom t.atom

namespace Clause

/-- The pattern of a match, with a wildcard where anything may stand. -/
def patternOperand (place : MatchPlace) (pattern : Term) : Operand Value :=
  let after : Operand Value :=
    if place.openAfter then .concat pattern.atom (.atom (.text "%")) else pattern.operand
  if place.openBefore then .concat (.text "%") after else after

/-- What the text of a condition is read as.  Nothing is in a list without members, which has
    no text. -/
def condition : Clause → Condition Value
  | .join negated op left right =>
      let body := .join op left.condition right.condition
      if negated then .not body else body
  | .compare op left right => .predicate (.compare op left.operand right.operand)
  | .nullTest isNull t => .predicate (.nullTest isNull t.operand)
  | .within negated _ [] => constant negated
  | .within negated t (first :: rest) =>
      .predicate (.within negated t.operand (Term.value first).operand
        (rest.map fun v => (Term.value v).operand))
  | .constant holds => constant holds
  | .nullOrEmpty negated c =>
      let t : Term := .column c
      .join (if negated then .and else .or)
        (.predicate (.nullTest (!negated) t.operand))
        (.predicate (.compare (if negated then .ne else .eq) t.operand (.atom (.text ""))))
  | .like negated t place pattern =>
      .predicate (.like negated t.operand (patternOperand place pattern))
  | .truth negated c =>
      .predicate (.compare (if negated then .ne else .eq) (Term.column c).operand (.atom .true))
where
  /-- A comparison of numbers that always holds or never does. -/
  constant (holds : Bool) : Condition Value :=
    .predicate (.compare .eq (.atom (.number 1)) (.atom (.number (if holds then 1 else 0))))

theorem condition_join_true (op : Connective) (left right : Clause) :
    (join true op left right).condition = .not (.join op left.condition right.condition) := by
  rw [condition, if_pos rfl]

end Clause

/-! ### Legible names -/

/-- Placeholders can be told from everything else in a text. -/
structure Naming.Legible (naming : Naming) : Prop where
  sigil : IsSigil naming.sigil
  stem : naming.stem.toList ≠ []
  words : ∀ c ∈ naming.stem.toList, isWordCharacter c = true

theorem isWordCharacter_of_isStemCharacter {c : Char} (h : Settings.isStemCharacter c = true) :
    isWordCharacter c = true := by
  -- The property is looked up in tables, so that the ASCII characters are gone through.
  have hascii : ∀ n : Fin 128, Settings.isStemCharacter (Char.ofNat n) = true →
      isWordCharacter (Char.ofNat n) = true := by decide
  have hsmall : c.toNat < 128 := by
    delta Settings.isStemCharacter Char.isAlphanum Char.isAlpha Char.isUpper Char.isLower
      Char.isDigit at h
    simp only [Bool.or_eq_true, Bool.and_eq_true, decide_eq_true_eq, beq_iff_eq,
      UInt32.le_iff_toNat_le, ge_iff_le] at h
    change (((65 ≤ c.toNat ∧ c.toNat ≤ 90) ∨ (97 ≤ c.toNat ∧ c.toNat ≤ 122)) ∨
      (48 ≤ c.toNat ∧ c.toNat ≤ 57)) ∨ c = '_' at h
    rcases h with h | rfl
    · omega
    · decide
  have hself : Char.ofNat c.toNat = c := Char.ofNat_toNat c
  have hc := hascii ⟨c.toNat, hsmall⟩
  rw [hself] at hc
  exact hc h

theorem isWordCharacter_digitChar (d : Digit) : isWordCharacter (Decimal.digitChar d) = true := by
  revert d
  decide

/-- What is accepted: a stem that is not empty and has no other characters than it may have, and
    a sign that is a symbol. -/
theorem Settings.validate_eq_ok {settings : Settings} (h : settings.validate = .ok ()) :
    settings.naming.stem.toList ≠ [] ∧
      (∀ c ∈ settings.naming.stem.toList, isStemCharacter c = true) ∧
      isSymbol settings.naming.sigil = true := by
  unfold validate at h
  simp only at h
  split at h
  · exact absurd h (by simp)
  · rename_i hne
    split at h
    · exact absurd h (by simp)
    · rename_i hstem
      split at h
      · rename_i hsymbol
        rw [List.find?_eq_none] at hstem
        exact ⟨by simpa using hne, fun c hc => by simpa using hstem c hc, hsymbol⟩
      · exact absurd h (by simp)

/-- Settings that are accepted give legible names, if the sign is not one of the syntax. -/
theorem Settings.legible {settings : Settings} (h : settings.validate = .ok ())
    (hapart : settings.naming.sigil ∉ syntaxCharacters) : settings.naming.Legible := by
  obtain ⟨hne, hstem, hsymbol⟩ := validate_eq_ok h
  exact ⟨⟨hsymbol, hapart⟩, hne, fun c hc => isWordCharacter_of_isStemCharacter (hstem c hc)⟩

namespace Naming

variable {naming : Naming} (place : Nat)

theorem toList_placeholderAt :
    (naming.placeholderAt place).toList = naming.sigil :: (naming.nameAt place).toList := by
  simp [placeholderAt, placeholder, nameAt]

theorem toList_nameAt :
    (naming.nameAt place).toList = naming.stem.toList
      ++ (Decimal.digits (UInt32.ofNat (place + 1)).toNat).map Decimal.digitChar := by
  simp [nameAt, name, Decimal.numeral]

/-- The characters of a name are those of a word if the stem's are. -/
theorem isWordCharacter_of_mem_nameAt
    (hwords : ∀ c ∈ naming.stem.toList, isWordCharacter c = true) {c : Char}
    (hc : c ∈ (naming.nameAt place).toList) : isWordCharacter c = true := by
  rw [toList_nameAt] at hc
  rcases List.mem_append.mp hc with hc | hc
  · exact hwords c hc
  · obtain ⟨d, -, rfl⟩ := List.mem_map.mp hc
    exact isWordCharacter_digitChar d

/-- A placeholder is read as its name. -/
theorem Legible.reads (h : naming.Legible) :
    Reads naming.sigil (naming.placeholderAt place).toList
      [.placeholder (naming.nameAt place)] := by
  rw [toList_placeholderAt]
  refine reads_placeholder ?_ fun c hc => isWordCharacter_of_mem_nameAt place h.words hc
  rw [toList_nameAt]
  simp [h.stem]

end Naming

/-! ### Values at their places -/

/-- The values are found under the names from a place on. -/
def Naming.Finds (naming : Naming) (lookup : String → Option Value) (place : Nat)
    (values : List Value) : Prop :=
  ∀ i v, values[i]? = some v → lookup (naming.nameAt (place + i)) = some v

namespace Naming.Finds

variable {naming : Naming} {lookup : String → Option Value} {place : Nat} {a b : List Value}

theorem left (h : naming.Finds lookup place (a ++ b)) : naming.Finds lookup place a := by
  intro i v hv
  have hlt : i < a.length := (List.getElem?_eq_some_iff.mp hv).1
  exact h i v (by rw [List.getElem?_append_left hlt, hv])

theorem right (h : naming.Finds lookup place (a ++ b)) :
    naming.Finds lookup (place + a.length) b := by
  intro i v hv
  rw [Nat.add_assoc]
  exact h (a.length + i) v (by
    rw [List.getElem?_append_right (Nat.le_add_right _ _), Nat.add_sub_cancel_left, hv])

end Naming.Finds

/-! ### Texts of terms -/

/-- The text of a term whose value, if it needs a name, is at a place. -/
def Term.write (placeholder : Nat → String) (place : Nat) : Term → String
  | .column c => c.text
  | .value v => if v.isNull then "NULL" else placeholder place

theorem Clause.write_piece (placeholder : Nat → String) (place : Nat) (t : Term)
    (rest : Template) :
    Template.write placeholder place (t.piece :: rest) = t.write placeholder place
      ++ Template.write placeholder (place + t.expr.literals.length) rest := by
  rcases t with c | v
  · rfl
  · by_cases hv : v.isNull = true <;>
      simp [Term.piece, Template.write, Term.write, Term.expr, Expr.literals, hv]

theorem Clause.write_text (placeholder : Nat → String) (place : Nat) (s : String)
    (rest : Template) :
    Template.write placeholder place (.text s :: rest)
      = s ++ Template.write placeholder place rest := rfl

section Spelled

variable {naming : Naming} (hlegible : naming.Legible) {lookup : String → Option Value}

include hlegible

theorem Column.spelled {c : Column} (hc : c.isNamed = true) :
    Atom.SpelledBy lookup naming.sigil c.text.toList (.column c.reference) := by
  obtain ⟨name, qualifier⟩ := c
  simp only [isNamed, Bool.and_eq_true] at hc
  have hname := reads_name hlegible.sigil hc.1
  refine ⟨.column (Column.reference ⟨name, qualifier⟩), ?_, rfl⟩
  -- A qualifier is read as a name of its own with a dot behind it, unless it is empty.
  rcases qualifier with _ | q
  · exact hname
  · by_cases hq : q.isEmpty = true
    · simpa [Column.text, reference, hq, Atom.tokens, Column.bare] using hname
    · have hqualifier : isIdentifier q = true := by simpa [hq] using hc.2
      have hreads := (reads_name hlegible.sigil hqualifier).append (hname.dot hlegible.sigil)
        fun rest _ => by simp [boundaryCharacters]
      simpa [Column.text, reference, hq, Atom.tokens] using hreads

/-- A term whose columns are names is read as itself. -/
theorem Term.spelled {t : Term} {place : Nat} (hnames : ∀ c ∈ t.expr.columns, c.isNamed = true)
    (hfinds : naming.Finds lookup place t.expr.literals) :
    t.atom.SpelledBy lookup naming.sigil (t.write naming.placeholderAt place).toList := by
  rcases t with c | v
  · exact Column.spelled hlegible (hnames c (by simp [Term.expr, Expr.columns]))
  · by_cases hv : v.isNull = true
    · have hwrite : Term.write naming.placeholderAt place (.value v) = Keyword.null.spelling := by
        simp [Term.write, hv, Keyword.spelling]
      rw [hwrite]
      exact ⟨.null, reads_keyword hlegible.sigil .null, by simp [Term.atom, hv, Atom.resolve]⟩
    · have hfound : lookup (naming.nameAt place) = some v :=
        hfinds 0 v (by simp [Term.expr, Expr.literals, hv])
      have hwrite :
          Term.write naming.placeholderAt place (.value v) = naming.placeholderAt place := by
        simp [Term.write, hv]
      rw [hwrite]
      exact ⟨.given (naming.nameAt place), hlegible.reads place, by
        simp [Term.atom, hv, Atom.resolve, hfound]⟩

/-- The text of a list is its first member and, each behind a comma, the others. -/
theorem Clause.spelled_items {first : Value} {rest : List Value} {place : Nat}
    (hfinds : naming.Finds lookup place (Expr.values (first :: rest)).literals) :
    ∃ others : List Char,
      (Template.write naming.placeholderAt place (itemsTemplate (first :: rest))).toList
        = ((Term.value first).write naming.placeholderAt place).toList ++ others ∧
      (Term.value first).operand.SpelledBy lookup naming.sigil
        ((Term.value first).write naming.placeholderAt place).toList ∧
      ListSpelledBy lookup naming.sigil others (rest.map fun v => (Term.value v).operand) := by
  induction rest generalizing first place with
  | nil =>
    have hfirst := Term.spelled hlegible (t := .value first) (by simp [Term.expr, Expr.columns])
      (Naming.Finds.left hfinds)
    refine ⟨[], ?_, hfirst.atom, .nil⟩
    show (Template.write _ place [(Term.value first).piece]).toList = _
    rw [write_piece]
    simp [Template.write]
  | cons next rest ih =>
    have hfirst := Term.spelled hlegible (t := .value first) (by simp [Term.expr, Expr.columns])
      (Naming.Finds.left hfinds)
    have hmore : naming.Finds lookup (place + (Term.value first).expr.literals.length)
        (Expr.values (next :: rest)).literals := Naming.Finds.right hfinds
    obtain ⟨others, htext, hnext, hothers⟩ := ih hmore
    refine ⟨_, ?_, hfirst.atom, .cons hlegible.sigil hnext hothers⟩
    show (Template.write _ place
      ((Term.value first).piece :: .text ", " :: itemsTemplate (next :: rest))).toList = _
    rw [write_piece, write_text, String.toList_append, String.toList_append, htext]
    rfl

/-- The wildcards of a pattern are texts of their own. -/
theorem Clause.spelled_pattern (matchPlace : MatchPlace) {pattern : Term} {place : Nat}
    (hnames : ∀ c ∈ pattern.expr.columns, c.isNamed = true)
    (hfinds : naming.Finds lookup place pattern.expr.literals) :
    (patternOperand matchPlace pattern).SpelledBy lookup naming.sigil
      (Template.write naming.placeholderAt place (patternTemplate matchPlace pattern)).toList := by
  have hpattern := Term.spelled hlegible hnames hfinds
  have hwildcard : Atom.SpelledBy lookup naming.sigil ['\'', '%', '\''] (.text "%" : Atom Value) :=
    ⟨.text "%", reads_text hlegible.sigil (s := "%") (by decide), rfl⟩
  have hafter := hpattern.concat hlegible.sigil hwildcard.atom
  cases matchPlace with
  | anywhere =>
    have hboth := hwildcard.concat hlegible.sigil hafter
    simpa [patternTemplate, patternOperand, MatchPlace.openBefore, MatchPlace.openAfter, write_text,
      write_piece, Template.write] using hboth
  | atStart =>
    simpa [patternTemplate, patternOperand, MatchPlace.openBefore, MatchPlace.openAfter, write_text,
      write_piece, Template.write] using hafter
  | atEnd =>
    have hbefore := hwildcard.concat hlegible.sigil hpattern.atom
    simpa [patternTemplate, patternOperand, Term.operand, MatchPlace.openBefore,
      MatchPlace.openAfter, write_text, write_piece, Template.write] using hbefore

/-! ### Texts of conditions -/

/-- How tightly the text of a condition binds. -/
def Clause.level (clause : Clause) : Level :=
  if clause.isCompound then .chain .or else .negation

/-- Beside a connective every condition binds as tightly as a negation. -/
theorem Clause.spelled_nested {clause : Clause} {x : Condition Value} {place : Nat}
    (h : x.SpelledBy lookup naming.sigil clause.level
      (clause.template.write naming.placeholderAt place).toList) :
    x.SpelledBy lookup naming.sigil .negation
      (Template.write naming.placeholderAt place
        (parenthesizedIf clause.isCompound clause.template)).toList := by
  cases hcompound : clause.isCompound with
  | false =>
    rw [level, hcompound] at h
    exact h
  | true =>
    rw [level, hcompound] at h
    have hgrouped := Condition.SpelledBy.grouped hlegible.sigil h
    have htext : (Template.write naming.placeholderAt place
        (parenthesizedIf true clause.template)).toList
        = '(' :: ((clause.template.write naming.placeholderAt place).toList ++ [')']) := by
      rw [parenthesizedIf, if_pos rfl, List.cons_append, write_text, Template.write_append]
      simp [Template.write]
    rw [htext]
    exact hgrouped

/-- A negated connective has its own parentheses; any other one gets them where it is joined. -/
theorem Clause.spelled_join (negated : Bool) (op : Connective) {a b : Clause} {place : Nat}
    (ha : a.condition.SpelledBy lookup naming.sigil a.level
      (a.template.write naming.placeholderAt place).toList)
    (hb : b.condition.SpelledBy lookup naming.sigil b.level
      (b.template.write naming.placeholderAt
        (place + (Template.values a.template).length)).toList) :
    (join negated op a b).condition.SpelledBy lookup naming.sigil (join negated op a b).level
      ((join negated op a b).template.write naming.placeholderAt place).toList := by
  let body : Template := parenthesizedIf a.isCompound a.template
    ++ .text (" " ++ op.sql ++ " ") :: parenthesizedIf b.isCompound b.template
  have hbody : (Condition.join op a.condition b.condition).SpelledBy lookup naming.sigil
      (.chain .or) (Template.write naming.placeholderAt place body).toList := by
    have hjoin := Condition.SpelledBy.join hlegible.sigil op (spelled_nested hlegible ha)
      (spelled_nested hlegible hb)
    rw [Template.write_append, write_text, values_parenthesizedIf]
    simpa using hjoin
  cases negated with
  | false => exact hbody
  | true =>
    -- The negation stands in front of parentheses of its own.
    have hnot := Condition.SpelledBy.not hlegible.sigil
      (Condition.SpelledBy.grouped hlegible.sigil hbody)
    have htemplate : (join true op a b).template = .text "NOT (" :: (body ++ [.text ")"]) := by
      rw [template, if_pos rfl, List.cons_append]
    have hlevel : (join true op a b).level = .negation := rfl
    rw [htemplate, hlevel, write_text, Template.write_append]
    simpa [Template.write, condition_join_true] using hnot

theorem Clause.spelled_compare (op : Comparison) {a b : Term} {place : Nat}
    (hnames : ∀ c ∈ a.expr.columns ++ b.expr.columns, c.isNamed = true)
    (hfinds : naming.Finds lookup place (a.expr.literals ++ b.expr.literals)) :
    (compare op a b).condition.SpelledBy lookup naming.sigil .negation
      ((compare op a b).template.write naming.placeholderAt place).toList := by
  have ha := Term.spelled hlegible (fun c hc => hnames c (List.mem_append_left _ hc)) hfinds.left
  have hb := Term.spelled hlegible (fun c hc => hnames c (List.mem_append_right _ hc)) hfinds.right
  have hcompare := Condition.SpelledBy.predicate (ha.atom.compare hlegible.sigil op hb.atom)
  rw [template, write_piece, write_text, write_piece]
  simpa [Template.write, condition, Term.operand] using hcompare

theorem Clause.spelled_nullTest (isNull : Bool) {t : Term} {place : Nat}
    (hnames : ∀ c ∈ t.expr.columns, c.isNamed = true)
    (hfinds : naming.Finds lookup place t.expr.literals) :
    (nullTest isNull t).condition.SpelledBy lookup naming.sigil .negation
      ((nullTest isNull t).template.write naming.placeholderAt place).toList := by
  have hterm := Term.spelled hlegible hnames hfinds
  have htest := Condition.SpelledBy.predicate (hterm.atom.nullTest hlegible.sigil isNull)
  rw [template, write_piece, write_text]
  simpa [Template.write, condition, Term.operand] using htest

theorem Clause.spelled_within (negated : Bool) {t : Term} {first : Value} {rest : List Value}
    {place : Nat} (hnames : ∀ c ∈ t.expr.columns, c.isNamed = true)
    (hfinds : naming.Finds lookup place
      (t.expr.literals ++ (Expr.values (first :: rest)).literals)) :
    (within negated t (first :: rest)).condition.SpelledBy lookup naming.sigil .negation
      ((within negated t (first :: rest)).template.write naming.placeholderAt place).toList := by
  have hterm := Term.spelled hlegible hnames hfinds.left
  obtain ⟨others, htext, hfirst, hothers⟩ := spelled_items hlegible hfinds.right
  have hwithin := Condition.SpelledBy.predicate
    (hterm.atom.within hlegible.sigil negated hfirst hothers)
  rw [template, List.cons_append, List.cons_append, write_piece, write_text,
    Template.write_append]
  simpa [Template.write, htext, condition, Term.operand] using hwithin

/-- The constant conditions compare numbers. -/
theorem Clause.spelled_constant (holds : Bool) {place : Nat} :
    (constant holds).condition.SpelledBy lookup naming.sigil .negation
      ((constant holds).template.write naming.placeholderAt place).toList := by
  have hnumber : ∀ holds : Bool, Atom.SpelledBy lookup naming.sigil
      (if holds then ['1'] else ['0']) (.number (if holds then 1 else 0) : Atom Value) := by
    intro holds
    refine ⟨.number (if holds then 1 else 0), ?_, rfl⟩
    cases holds
    · exact reads_word hlegible.sigil (List.all_eq_true.mp (by decide)) (by decide) (by decide)
    · exact reads_word hlegible.sigil (List.all_eq_true.mp (by decide)) (by decide) (by decide)
  have hcompare := Condition.SpelledBy.predicate
    ((hnumber true).atom.compare hlegible.sigil .eq (hnumber holds).atom)
  cases holds with
  | true => simpa [template, Template.write, Comparison.sql, condition, condition.constant]
      using hcompare
  | false => simpa [template, Template.write, Comparison.sql, condition, condition.constant]
      using hcompare

/-- The test for null or the empty string brings its own parentheses. -/
theorem Clause.spelled_nullOrEmpty (negated : Bool) {c : Column} (hc : c.isNamed = true)
    {place : Nat} :
    (nullOrEmpty negated c).condition.SpelledBy lookup naming.sigil .negation
      ((nullOrEmpty negated c).template.write naming.placeholderAt place).toList := by
  have hcolumn : (Term.column c).operand.SpelledBy lookup naming.sigil c.text.toList :=
    (Column.spelled hlegible hc).atom
  have hempty : Atom.SpelledBy lookup naming.sigil ['\'', '\''] (.text "" : Atom Value) :=
    ⟨.text "", reads_text hlegible.sigil (s := "") (by decide), rfl⟩
  have htest := Condition.SpelledBy.predicate (hcolumn.nullTest hlegible.sigil (!negated))
  have hcompare := Condition.SpelledBy.predicate
    (hcolumn.compare hlegible.sigil (if negated then .ne else .eq) hempty.atom)
  -- The connective inside is hidden by the parentheses.
  have hgrouped := Condition.SpelledBy.grouped hlegible.sigil
    (htest.join hlegible.sigil (if negated then .and else .or) hcompare)
  cases negated with
  | true =>
    simpa [template, Template.write, Connective.sql, Comparison.sql, condition, Term.operand,
      Term.atom] using hgrouped
  | false =>
    simpa [template, Template.write, Connective.sql, Comparison.sql, condition, Term.operand,
      Term.atom] using hgrouped

theorem Clause.spelled_like (negated : Bool) (matchPlace : MatchPlace) {t pattern : Term}
    {place : Nat} (hnames : ∀ c ∈ t.expr.columns ++ pattern.expr.columns, c.isNamed = true)
    (hfinds : naming.Finds lookup place (t.expr.literals ++ pattern.expr.literals)) :
    (like negated t matchPlace pattern).condition.SpelledBy lookup naming.sigil .negation
      ((like negated t matchPlace pattern).template.write naming.placeholderAt place).toList := by
  have hterm := Term.spelled hlegible (fun c hc => hnames c (List.mem_append_left _ hc))
    hfinds.left
  have hpattern := spelled_pattern hlegible matchPlace
    (fun c hc => hnames c (List.mem_append_right _ hc)) hfinds.right
  have hlike := Condition.SpelledBy.predicate (hterm.atom.like hlegible.sigil negated hpattern)
  rw [template, write_piece, write_text]
  simpa [condition, Term.operand] using hlike

theorem Clause.spelled_truth (negated : Bool) {c : Column} (hc : c.isNamed = true)
    {place : Nat} :
    (truth negated c).condition.SpelledBy lookup naming.sigil .negation
      ((truth negated c).template.write naming.placeholderAt place).toList := by
  have hcolumn : (Term.column c).operand.SpelledBy lookup naming.sigil c.text.toList :=
    (Column.spelled hlegible hc).atom
  have htrue : Atom.SpelledBy lookup naming.sigil Keyword.true.spelling.toList
      (.true : Atom Value) := ⟨.true, reads_keyword hlegible.sigil .true, rfl⟩
  have hcompare := Condition.SpelledBy.predicate
    (hcolumn.compare hlegible.sigil (if negated then .ne else .eq) htrue.atom)
  cases negated with
  | true => simpa [template, Template.write, Comparison.sql, Keyword.spelling, condition,
      Term.operand, Term.atom] using hcompare
  | false => simpa [template, Template.write, Comparison.sql, Keyword.spelling, condition,
      Term.operand, Term.atom] using hcompare

/-- **The text.**  The text of a lowered tree spells its condition. -/
theorem Expr.Lowers.spelled {e : Expr} {negated : Bool} {clause : Clause} {place : Nat}
    (h : Lowers e negated clause) (hnames : ∀ c ∈ e.columns, c.isNamed = true)
    (hfinds : naming.Finds lookup place e.literals) :
    clause.condition.SpelledBy lookup naming.sigil clause.level
      (clause.template.write naming.placeholderAt place).toList := by
  -- The places of the right side of a connective begin where those of the left side end.
  induction h generalizing place with
  | @logical l r a b op negated hl hr ihl ihr =>
    have hright : naming.Finds lookup (place + (Template.values a.template).length) r.literals := by
      rw [hl.literals]
      exact hfinds.right
    exact Clause.spelled_join hlegible negated op
      (ihl (fun c hc => hnames c (List.mem_append_left _ hc)) hfinds.left)
      (ihr (fun c hc => hnames c (List.mem_append_right _ hc)) hright)
  | compare op negated a b h => exact Clause.spelled_compare hlegible _ hnames hfinds
  | nullRight op negated a hop ha =>
    exact Clause.spelled_nullTest hlegible _ (fun c hc => hnames c (List.mem_append_left _ hc))
      hfinds.left
  | nullLeft op negated b hop hb => exact Clause.spelled_nullTest hlegible _ hnames hfinds
  | nothing negated c => exact Clause.spelled_constant hlegible negated
  | within negated a first rest =>
    exact Clause.spelled_within hlegible negated
      (fun c hc => hnames c (List.mem_append_left _ hc)) hfinds
  | not negated h ih => exact ih hnames hfinds
  | hasValue negated a => exact Clause.spelled_nullTest hlegible _ hnames hfinds
  | isNull negated a => exact Clause.spelled_nullTest hlegible _ hnames hfinds
  | nullOrEmpty negated c | call negated c hname =>
    exact Clause.spelled_nullOrEmpty hlegible negated (hnames c List.mem_cons_self)
  | like negated a matchPlace pattern ignoreCase hpattern =>
    exact Clause.spelled_like hlegible negated matchPlace hnames hfinds
  | truth negated c =>
    exact Clause.spelled_truth hlegible negated (hnames c List.mem_cons_self)

end Spelled

theorem Clause.spelled_chain {lookup : String → Option Value} {sigil : Char} {clause : Clause}
    {x : Condition Value} {text : List Char}
    (h : x.SpelledBy lookup sigil clause.level text) :
    x.SpelledBy lookup sigil (.chain .or) text := by
  unfold level at h
  split at h
  · exact h
  · exact h.chain

/-! ### The text under a binder -/

namespace Binder

/-- **The text, read.**  What is written under a legible naming is read in one way only, and
    its names stand for the values of the tree, as long as the numbers suffice. -/
theorem compile_reads {naming : Naming} (hlegible : naming.Legible) {earlier : List Value}
    {e : Expr} {written : ConditionText} {after : Binder}
    (hnames : ∀ c ∈ e.columns, c.isNamed = true)
    (hroom : earlier.length + e.literalCount < UInt32.size)
    (h : ((new naming).bindAll earlier).compile e = (.ok written, after)) :
    ∃ clause, e.Lowers false clause ∧
      ∃ read, (∀ c, Parses naming.sigil written.sql c ↔ c = read) ∧
        read.resolve after.parameters.get? = some clause.condition := by
  obtain ⟨clause, hlowers, rfl, rfl⟩ := lowers_of_compile h
  refine ⟨clause, hlowers, ?_⟩
  -- The binder has named the earlier values other than null, and names those of the tree next.
  let named : List Value := earlier.filter (!·.isNull)
  have hnamed : named.length ≤ earlier.length := List.length_filter_le _ _
  have hbefore : ((new naming).bindAll earlier).Names named :=
    Names.bindAll_new naming (Nat.lt_of_le_of_lt hnamed (by omega))
  have hafter : (((new naming).bindAll earlier).bindAll e.literals).Names
      (named ++ e.literals) := by
    refine hbefore.bindAll (fun v hv => hlowers.not_null_of_mem_literals hv) ?_
    show named.length + e.literalCount < UInt32.size
    omega
  -- So the values of the tree are found from the place on where the earlier ones end.
  have hfinds : naming.Finds (((new naming).bindAll earlier).bindAll e.literals).parameters.get?
      named.length e.literals := by
    intro i v hv
    have hplace : (named ++ e.literals)[named.length + i]? = some v := by
      rw [List.getElem?_append_right (Nat.le_add_right _ _), Nat.add_sub_cancel_left, hv]
    have hget := hafter.get? hplace
    rw [naming_bindAll, naming_bindAll] at hget
    exact hget
  have htext : (((new naming).bindAll earlier).fill clause.template).1
      = clause.template.write naming.placeholderAt named.length := by
    rw [fst_fill hbefore.counter, naming_bindAll]
    rfl
  rw [htext]
  exact (Clause.spelled_chain (hlowers.spelled hlegible hnames hfinds)).parses

end Binder

end BoundSql
