import BoundSql.Proofs.Clause.Reading
import BoundSql.Proofs.Query.Parameters

namespace BoundSql

/-!
# Clause — conditions side by side

Texts of conditions with `AND` between them are read as a conjunction of as many conditions,
because each of them binds as tightly as a negation: those with a connective at their roots stand
in parentheses.  How a single one is read does not depend on its values and, but for the names of
its placeholders, not on where it stands.

* `Condition.conjoin`, `Sql.parses_intercalate` — the conjunction, and the text that is read as it.
* `Clause.ReadAs` — a reading of a condition, for whatever values.
* `Clause.exists_readings` — how conditions side by side are read.
-/

open Sql

/-! ### Conjunctions -/

namespace Sql

/-- The conjunction of a condition and others behind it. -/
def Condition.conjoin {β : Type} (first : Condition β) : List (Condition β) → Condition β
  | [] => first
  | next :: rest => .join .and first (next.conjoin rest)

variable {sigil : Char}

/-- A text is read as these tokens and no others. -/
theorem Reads.scan_eq {text : List Char} {tokens : List Token} (h : Reads sigil text tokens) :
    scan sigil text = some tokens := by
  -- Nothing follows the whole text.
  have hend := h [] boundary_nil
  have hnil : scan sigil [] = some [] := rfl
  rwa [List.append_nil, hnil, Option.map_some, List.append_nil] at hend

/-- Texts with `AND` between them are read one after the other. -/
theorem reads_intercalate (hsigil : IsSigil sigil) {texts : List String}
    {parts : List (List Token)}
    (h : List.Forall₂ (fun text part => Reads sigil text.toList part) texts parts) :
    Reads sigil (" AND ".intercalate texts).toList
      ([Token.keyword (.logical .and)].intercalate parts) := by
  induction h with
  | nil => exact reads_nil
  | cons hfirst hrest ih =>
    cases hrest with
    | nil => simpa using hfirst
    | cons hnext hmore =>
      have hword := reads_keyword hsigil (.logical .and)
      have hall := hfirst.then hsigil (hword.then hsigil ih)
      rw [String.intercalate_cons_cons, List.intercalate_cons_cons]
      simpa [Keyword.spelling, Connective.sql] using hall

/-- What binds as tightly as a negation can be joined without parentheses. -/
theorem derives_conjoin {part : List Token} {first : Condition String}
    {parts : List (List Token)} {rest : List (Condition String)}
    (hfirst : Derives .negation part first) (hrest : List.Forall₂ (Derives .negation) parts rest) :
    Derives (.chain .and) ([Token.keyword (.logical .and)].intercalate (part :: parts))
      (first.conjoin rest) := by
  induction hrest generalizing part first with
  | nil =>
    rw [List.intercalate_singleton]
    exact .single hfirst
  | cons hnext hmore ih =>
    have hjoined : Derives (.chain .and) _ (.join .and first _) := .joined hfirst (ih hnext)
    rw [List.intercalate_cons_cons, List.append_assoc]
    exact hjoined

/-- A text that is read as a condition is read as no other one. -/
theorem parses_iff {text : String} {tokens : List Token} {read : Condition String}
    (hreads : Reads sigil text.toList tokens) (hderives : Derives (.chain .or) tokens read)
    (c : Condition String) : Parses sigil text c ↔ c = read := by
  have hparses : Parses sigil text read := ⟨tokens, hreads.scan_eq, hderives⟩
  constructor
  · intro hc
    exact hc.unique hparses
  · rintro rfl
    exact hparses

/-- **A conjunction** is read as one and in no other way. -/
theorem parses_intercalate (hsigil : IsSigil sigil) {texts : List String}
    {parts : List (List Token)} {first : Condition String} {rest : List (Condition String)}
    (hreads : List.Forall₂ (fun text part => Reads sigil text.toList part) texts parts)
    (hderives : List.Forall₂ (Derives .negation) parts (first :: rest)) (c : Condition String) :
    Parses sigil (" AND ".intercalate texts) c ↔ c = first.conjoin rest := by
  obtain ⟨part, others, hfirst, hrest, rfl⟩ := List.forall₂_cons_right_iff.mp hderives
  exact parses_iff (reads_intercalate hsigil hreads) (.single (derives_conjoin hfirst hrest)) c

end Sql

/-! ### Readings for whatever values -/

namespace Expr

mutual

/-- Other values leave the columns alone. -/
theorem columns_redact (f : Value → Value) : ∀ e : Expr, (e.redact f).columns = e.columns
  | .column _ => rfl
  | .literal _ => rfl
  | .list items => columnsAll_redact f items
  | .binary left op right => by
    rw [redact, columns, columns, columns_redact f left, columns_redact f right]
  | .unary _ operand => columns_redact f operand
  | .like operand place pattern _ => by
    rw [redact, columns, columns, columns_redact f operand, columns_redact f pattern]
  | .call _ args => columnsAll_redact f args

theorem columnsAll_redact (f : Value → Value) :
    ∀ items : List Expr, columnsAll (redactAll f items) = columnsAll items
  | [] => rfl
  | e :: rest => by
    rw [redactAll, columnsAll, columnsAll, columns_redact f e, columnsAll_redact f rest]

end

end Expr

/-- The condition with one and the same text in place of every placeholder. -/
def Sql.Condition.unnumbered (c : Condition String) : Option (Condition Value) :=
  c.resolve fun _ => some (.string "")

namespace Clause

/-- A reading of a condition whose values have names from a place on: but for the names it does not
    depend on the values, and the names stand for them. -/
structure ReadAs (clause : Clause) (naming : Naming) (place : Nat) (read : Condition String) :
    Prop where
  unnumbered : read.unnumbered = some (clause.redact Value.blank).condition
  resolve : ∀ lookup, naming.Finds lookup place (Template.values clause.template) →
    read.resolve lookup = some clause.condition

variable {naming : Naming}

/-- **One reading.**  The text of a lowered tree is read in one way, whatever its values are and
    even if names are given twice. -/
theorem exists_reading (hlegible : naming.Legible) {e : Expr} {clause : Clause}
    (h : e.Lowers false clause) (hnames : ∀ c ∈ e.columns, c.isNamed = true) (place : Nat) :
    ∃ tokens read, Reads naming.sigil (clause.template.write naming.placeholderAt place).toList
        tokens ∧ Derives clause.level tokens read ∧ clause.ReadAs naming place read := by
  -- With one value in place of all others, every name stands for it.
  have hsame : ∀ v ∈ (e.redact Value.blank).literals, v = .string "" := by
    intro v hv
    rw [← (h.redact Value.redaction_blank).literals, template_redact,
      Template.values_redact Value.redaction_blank] at hv
    obtain ⟨w, hw, rfl⟩ := List.mem_map.mp hv
    rw [Value.blank, Template.not_null_of_mem_values hw]
    rfl
  have hfinds : naming.Finds (fun _ => some (.string "")) place
      (e.redact Value.blank).literals := by
    intro i v hv
    rw [hsame v (List.mem_of_getElem? hv)]
  have hcolumns : ∀ c ∈ (e.redact Value.blank).columns, c.isNamed = true := by
    rw [Expr.columns_redact]
    exact hnames
  obtain ⟨tokens, read, hreads, hderives, hresolve⟩ :=
    (h.redact Value.redaction_blank).spelled hlegible hcolumns hfinds
  rw [template_redact, Template.write_redact Value.redaction_blank] at hreads
  rw [level, isCompound_redact, ← level] at hderives
  refine ⟨tokens, read, hreads, hderives, hresolve, fun lookup hlookup => ?_⟩
  rw [h.literals] at hlookup
  obtain ⟨others, other, hothers, hother, hvalues⟩ := h.spelled hlegible hnames hlookup
  have htokens : tokens = others := Option.some.inj (hreads.scan_eq.symm.trans hothers.scan_eq)
  subst htokens
  rw [hderives.unique hother, hvalues]

theorem derives_chain {clause : Clause} {tokens : List Token} {read : Condition String}
    (h : Derives clause.level tokens read) : Derives (.chain .or) tokens read := by
  unfold level at h
  split at h
  · exact h
  · exact h.chain .or

/-- Beside others a condition is read as alone, as one that can be negated. -/
theorem reads_nested (hsigil : IsSigil naming.sigil) {clause : Clause} {place : Nat}
    {tokens : List Token} {read : Condition String}
    (hreads : Reads naming.sigil (clause.template.write naming.placeholderAt place).toList tokens)
    (hderives : Derives clause.level tokens read) :
    ∃ part, Reads naming.sigil (ConditionText.nested
        ⟨clause.template.write naming.placeholderAt place, clause.isCompound⟩).toList part ∧
      Derives .negation part read := by
  cases hcompound : clause.isCompound with
  | false =>
    rw [level, hcompound] at hderives
    exact ⟨tokens, hreads, hderives⟩
  | true =>
    rw [level, hcompound] at hderives
    refine ⟨.opening :: (tokens ++ [.closing]), ?_, .grouped hderives⟩
    simpa [ConditionText.nested] using (hreads.closed hsigil).opening hsigil

/-- **Side by side.**  Conditions whose values are numbered one after the other are read one after
    the other, each of them in one way. -/
theorem exists_readings (hlegible : naming.Legible) {trees : List Expr} {clauses : List Clause}
    (h : List.Forall₂ (fun e clause => e.Lowers false clause) trees clauses)
    (hnames : ∀ e ∈ trees, ∀ c ∈ e.columns, c.isNamed = true) (place : Nat) :
    ∃ parts reads,
      List.Forall₂ (fun text part => Reads naming.sigil text.toList part)
          ((writeAll naming.placeholderAt place clauses).map ConditionText.nested) parts ∧
        List.Forall₂ (Derives .negation) parts reads ∧
        List.Forall₂ (fun e read => ∃ clause, e.Lowers false clause ∧
          read.unnumbered = some (clause.redact Value.blank).condition) trees reads ∧
        ∀ lookup, naming.Finds lookup place (trees.flatMap Expr.literals) →
          List.Forall₂ (fun e read => ∃ clause, e.Lowers false clause ∧
            read.resolve lookup = some clause.condition) trees reads := by
  induction h generalizing place with
  | nil => exact ⟨[], [], .nil, .nil, .nil, fun _ _ => .nil⟩
  | @cons e clause others more hfirst hothers ih =>
    obtain ⟨tokens, read, htokens, hread, hreadAs⟩ :=
      exists_reading hlegible hfirst (hnames e List.mem_cons_self) place
    obtain ⟨part, hpart, hnested⟩ := reads_nested hlegible.sigil htokens hread
    -- The others begin where the values of the first condition end.
    obtain ⟨parts, reads, hparts, hderives, hshapes, hvalues⟩ :=
      ih (fun tree htree => hnames tree (List.mem_cons_of_mem e htree))
        (place + (Template.values clause.template).length)
    refine ⟨part :: parts, read :: reads, .cons hpart hparts, .cons hnested hderives,
      .cons ⟨clause, hfirst, hreadAs.unnumbered⟩ hshapes, fun lookup hlookup => ?_⟩
    rw [List.flatMap_cons, ← hfirst.literals] at hlookup
    have hmeaning := hreadAs.resolve lookup hlookup.left
    exact .cons ⟨clause, hfirst, hmeaning⟩ (hvalues lookup hlookup.right)

end Clause

end BoundSql
