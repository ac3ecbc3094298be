import BoundSql.Proofs.Binder.Uses
import BoundSql.Proofs.Clause.Reading
import BoundSql.Proofs.Sql.Tidiness

namespace BoundSql

/-!
# Clause — placeholders that stand out

Under settings that are accepted the parentheses and quotes in the text of a tree come in pairs,
and every placeholder is a piece of its own, as long as the sign in front of placeholders has no
meaning of its own there.  A sign that is a quote, a parenthesis or a comma, or that may begin a
name, is accepted as well; with each of these some tree over named columns is written to a
text of which that is not true.

* `Naming.StandsOut` — a placeholder cannot be taken for anything else in a text.
* `Template.Tidy` — a template whose texts are tidy, with the placeholders of its values.
* `Expr.Lowers.tidy` — the template of a lowered tree is tidy.
* `Settings.sigil_tidy` — the signs for which every text is tidy.
-/

open Sql

/-! ### Names -/

/-- Is the string a word that begins like a name?  It may be a keyword. -/
def Sql.isWord (s : String) : Bool :=
  match s.toList with
  | [] => false
  | c :: rest => isNameStart c && rest.all isWordCharacter

/-- Are the name of the column and its qualifier, if there is one, words? -/
def Column.isSpelled (c : Column) : Bool :=
  isWord c.name &&
    match c.qualifier with
    | none => true
    | some q => q.isEmpty || isWord q

theorem Sql.isWordCharacter_of_isNameStart {c : Char} (h : isNameStart c = true) :
    isWordCharacter c = true := by
  rw [isNameStart, Bool.or_eq_true] at h
  rw [isWordCharacter, Bool.or_eq_true, Bool.or_eq_true]
  exact h.imp_left .inl

theorem Sql.isCut_of_isWordCharacter {c : Char} (h : isWordCharacter c = true) :
    isCut c = false := by
  rw [← Bool.not_eq_true]
  intro hcut
  simp only [isCut, Bool.or_eq_true, beq_iff_eq] at hcut
  rcases hcut with ((rfl | rfl) | rfl) | rfl <;> exact absurd h (by decide)

/-- A word is not empty, and all of its characters are those of words. -/
theorem Sql.exists_cons_of_isWord {s : String} (h : isWord s = true) :
    ∃ c rest, s.toList = c :: rest ∧ ∀ d ∈ c :: rest, isWordCharacter d = true := by
  unfold isWord at h
  split at h
  · exact Bool.noConfusion h
  · rename_i c rest hs
    rw [Bool.and_eq_true] at h
    refine ⟨c, rest, hs, fun d hd => ?_⟩
    rcases List.mem_cons.mp hd with rfl | hd
    · exact isWordCharacter_of_isNameStart h.1
    · exact List.all_eq_true.mp h.2 d hd

/-- The reference to a column begins with a character of words, and it has no others than these
    and dots. -/
theorem Column.exists_cons_of_isSpelled {c : Column} (h : c.isSpelled = true) :
    ∃ d rest, c.text.toList = d :: rest ∧ isWordCharacter d = true ∧
      ∀ x ∈ d :: rest, isWordCharacter x = true ∨ x = '.' := by
  obtain ⟨name, qualifier⟩ := c
  rw [isSpelled, Bool.and_eq_true] at h
  obtain ⟨d, rest, hname, hwords⟩ := exists_cons_of_isWord h.1
  have hbare : ∃ d rest, name.toList = d :: rest ∧ isWordCharacter d = true ∧
      ∀ x ∈ d :: rest, isWordCharacter x = true ∨ x = '.' :=
    ⟨d, rest, hname, hwords d List.mem_cons_self, fun x hx => .inl (hwords x hx)⟩
  cases qualifier with
  | none => exact hbare
  | some q =>
    have htext : (Column.text ⟨name, some q⟩) = if q.isEmpty then name else q ++ "." ++ name := rfl
    by_cases hq : q.isEmpty = true
    · rw [htext, if_pos hq]
      exact hbare
    · obtain ⟨d', rest', hq', hwords'⟩ := exists_cons_of_isWord (by simpa [hq] using h.2)
      refine ⟨d', rest' ++ '.' :: (d :: rest), ?_, hwords' d' List.mem_cons_self, fun x hx => ?_⟩
      · rw [htext, if_neg hq]
        simp [hq', hname]
      · rw [← List.cons_append] at hx
        rcases List.mem_append.mp hx with hx | hx
        · exact .inl (hwords' x hx)
        · rcases List.mem_cons.mp hx with rfl | hx
          · exact .inr rfl
          · exact .inl (hwords x hx)

/-! ### Placeholders -/

/-- Placeholders stand out in a text: the sign belongs neither to a word nor to what words are
    put between, and the names are words. -/
structure Naming.StandsOut (naming : Naming) : Prop where
  sigil : isWordCharacter naming.sigil = false
  uncut : isCut naming.sigil = false
  unquoted : naming.sigil ≠ '\''
  stem : naming.stem.toList ≠ []
  words : ∀ c ∈ naming.stem.toList, isWordCharacter c = true

/-- The placeholders of values from a place on. -/
def Naming.placeholders (naming : Naming) (place n : Nat) : List (List Char) :=
  (List.range' place n).map fun i => (naming.placeholderAt i).toList

namespace Naming

variable {naming : Naming}

theorem placeholders_add (place m n : Nat) :
    naming.placeholders place (m + n)
      = naming.placeholders place m ++ naming.placeholders (place + m) n := by
  rw [placeholders, ← List.range'_append_1, List.map_append]
  rfl

/-- The placeholders of values whose numbers have not run over all differ. -/
theorem count_placeholders {place n i : Nat} (hroom : place + n < UInt32.size)
    (hi : i + 1 < UInt32.size) :
    (naming.placeholders place n).count (naming.placeholderAt i).toList
      = if place ≤ i ∧ i < place + n then 1 else 0 := by
  have hinjective : ∀ j, j + 1 < UInt32.size →
      (naming.placeholderAt i).toList = (naming.placeholderAt j).toList → i = j := by
    intro j hj heq
    rw [toList_placeholderAt, toList_placeholderAt, List.cons.injEq, String.toList_inj] at heq
    exact naming.nameAt_injective hi hj heq.2
  have hcount : (naming.placeholders place n).count (naming.placeholderAt i).toList
      = (List.range' place n).count i := by
    rw [placeholders, List.count_eq_countP, List.countP_map, List.count_eq_countP]
    refine List.countP_congr fun j hj => ?_
    rw [List.mem_range'_1] at hj
    simp only [Function.comp_apply, beq_iff_eq]
    constructor
    · exact fun heq => (hinjective j (by omega) heq.symm).symm
    · rintro rfl
      rfl
  rw [hcount, List.Nodup.count List.nodup_range']
  simp only [List.mem_range'_1]

namespace StandsOut

variable (h : naming.StandsOut) (place : Nat)
include h

theorem isPlaceholder : isPlaceholder naming.sigil (naming.placeholderAt place).toList = true := by
  rw [toList_placeholderAt]
  obtain ⟨c, rest, hstem⟩ := List.exists_cons_of_ne_nil h.stem
  rw [toList_nameAt, hstem, List.cons_append, Sql.isPlaceholder, beq_self_eq_true, Bool.true_and]
  exact h.words c (by rw [hstem]; exact List.mem_cons_self)

/-- A placeholder is a text with one placeholder. -/
theorem tidy : Sql.Tidy naming.sigil (naming.placeholderAt place).toList
    [(naming.placeholderAt place).toList] := by
  have hchars : ∀ c ∈ (naming.placeholderAt place).toList, isCut c = false ∧ c ≠ '\'' := by
    intro c hc
    rw [toList_placeholderAt] at hc
    rcases List.mem_cons.mp hc with rfl | hc
    · exact ⟨h.uncut, h.unquoted⟩
    · have hword := isWordCharacter_of_mem_nameAt place h.words hc
      refine ⟨isCut_of_isWordCharacter hword, ?_⟩
      rintro rfl
      exact absurd hword (by decide)
  have hsingle : Sql.Tidy naming.sigil (naming.placeholderAt place).toList _ :=
    .single (fun c hc => (hchars c hc).1) fun hmem => (hchars _ hmem).2 rfl
  rwa [List.filter_cons_of_pos (h.isPlaceholder place)] at hsingle

omit place in
/-- In a tidy text each of its placeholders is one piece, and that of any other value is none. -/
theorem count_placeholderAt {text : List Char} {start n i : Nat}
    (htidy : Sql.Tidy naming.sigil text (naming.placeholders start n))
    (hroom : start + n < UInt32.size) (hi : i + 1 < UInt32.size) :
    (pieces text).count (naming.placeholderAt i).toList
      = if start ≤ i ∧ i < start + n then 1 else 0 := by
  rw [← count_placeholders hroom hi, ← htidy.placeholders, List.count_filter (h.isPlaceholder i)]

end StandsOut

end Naming

/-- The reference to a column is a text without placeholders. -/
theorem Column.tidy {sigil : Char} (hsigil : isWordCharacter sigil = false) {c : Column}
    (hc : c.isSpelled = true) : Sql.Tidy sigil c.text.toList [] := by
  obtain ⟨d, rest, htext, hd, hchars⟩ := exists_cons_of_isSpelled hc
  have hapart : isPlaceholder sigil (d :: rest) = false := by
    refine isPlaceholder_of_isApart hsigil ?_
    cases rest with
    | nil => rfl
    | cons x rest => rw [isApart, hd, Bool.true_or]
  have hsingle : Sql.Tidy sigil (d :: rest) ([d :: rest].filter (isPlaceholder sigil)) := by
    refine .single (fun x hx => ?_) fun hmem => ?_
    · rcases hchars x hx with hword | rfl
      · exact isCut_of_isWordCharacter hword
      · decide
    · rcases hchars _ hmem with hword | heq
      · exact absurd hword (by decide)
      · exact absurd heq (by decide)
  rw [List.filter_cons_of_neg (by rw [hapart]; exact Bool.false_ne_true)] at hsingle
  rwa [htext]

/-! ### Templates -/

/-- Wherever the values of the template are counted from, its text is tidy, and the placeholders
    in the text are those of its values, in order. -/
def Template.Tidy (naming : Naming) (template : Template) : Prop :=
  ∀ place, Sql.Tidy naming.sigil (template.write naming.placeholderAt place).toList
    (naming.placeholders place template.values.length)

namespace Template

variable {naming : Naming} {a b : Template} {s s' : String}

theorem tidy_nil : Tidy naming [] := fun _ =>
  ⟨.of_not_mem List.not_mem_nil List.not_mem_nil, Even.zero, rfl⟩

theorem tidy_text (hs : Sql.Tidy naming.sigil s.toList []) : Tidy naming [.text s] := by
  intro place
  rw [Clause.write_text]
  simpa [write, values, Naming.placeholders] using hs

/-- Two texts side by side are one. -/
theorem Tidy.merged (h : Tidy naming (a ++ .text s :: .text s' :: b)) :
    Tidy naming (a ++ .text (s ++ s') :: b) := by
  intro place
  have htidy := h place
  rw [write_append, Clause.write_text, Clause.write_text, values_append, Clause.values_text,
    Clause.values_text] at htidy
  rw [write_append, Clause.write_text, values_append, Clause.values_text, String.append_assoc]
  exact htidy

/-- Two templates with a blank or a comma between them. -/
theorem Tidy.cut (ha : Tidy naming a) (hb : Tidy naming b) {c : Char} (hc : c = ' ' ∨ c = ',') :
    Tidy naming (a ++ .text (String.singleton c) :: b) := by
  intro place
  have hboth := (ha place).cut (hb (place + (values a).length)) hc
  rw [write_append, Clause.write_text, values_append, Clause.values_text, List.length_append,
    Naming.placeholders_add]
  simpa using hboth

/-- A template in parentheses. -/
theorem Tidy.grouped (ha : Tidy naming a) : Tidy naming (.text "(" :: (a ++ [.text ")"])) := by
  intro place
  have hgrouped := (ha place).grouped
  have hvalues : values (.text "(" :: (a ++ [.text ")"])) = values a := by
    rw [Clause.values_text, values_append]
    exact List.append_nil _
  rw [Clause.write_text, write_append, hvalues]
  simpa [write] using hgrouped

/-- A text that goes on behind a blank. -/
theorem Tidy.followed (ha : Tidy naming a) (hb : Tidy naming (.text s :: b)) :
    Tidy naming (a ++ .text (" " ++ s) :: b) :=
  (ha.cut hb (.inl rfl)).merged

/-- A text that ends in a blank. -/
theorem Tidy.preceded (hs : Sql.Tidy naming.sigil s.toList []) (hb : Tidy naming b) :
    Tidy naming (.text (s ++ " ") :: b) :=
  ((tidy_text hs).cut hb (.inl rfl)).merged (a := [])

end Template

/-! ### Conditions -/

section Clauses

variable {naming : Naming} (h : naming.StandsOut)
include h

theorem Naming.StandsOut.plain {s : String} (hs : IsPlain s.toList) :
    Sql.Tidy naming.sigil s.toList [] :=
  .plain h.sigil hs

/-- A term is a column, a placeholder, or null. -/
theorem Term.tidy {t : Term} (hnames : ∀ c ∈ t.expr.columns, c.isSpelled = true) :
    Template.Tidy naming [t.piece] := by
  cases t with
  | column c => exact Template.tidy_text (Column.tidy h.sigil (hnames c List.mem_cons_self))
  | value v =>
    intro place
    by_cases hv : v.isNull = true
    · simpa [Term.piece, Template.write, Template.values, hv, Naming.placeholders]
        using h.plain (s := "NULL") (by decide)
    · simpa [Term.piece, Template.write, Template.values, hv, Naming.placeholders]
        using h.tidy place

namespace Clause

theorem tidy_value (v : Value) : Template.Tidy naming [.value v] :=
  Term.tidy h (t := .value v) (by simp [Term.expr, Expr.columns])

omit h in
theorem tidy_parenthesizedIf (needed : Bool) {template : Template}
    (ht : template.Tidy naming) : (parenthesizedIf needed template).Tidy naming := by
  cases needed with
  | false => exact ht
  | true => exact ht.grouped

theorem tidy_join (negated : Bool) (op : Connective) {a b : Clause}
    (ha : a.template.Tidy naming) (hb : b.template.Tidy naming) :
    (join negated op a b).template.Tidy naming := by
  have hop : Sql.Tidy naming.sigil op.sql.toList [] := h.plain (by cases op <;> decide)
  have hbody := (tidy_parenthesizedIf a.isCompound ha).followed
    (.preceded hop (tidy_parenthesizedIf b.isCompound hb))
  rw [← String.append_assoc] at hbody
  cases negated with
  | false => exact hbody
  | true =>
    have hnot : Sql.Tidy naming.sigil "NOT".toList [] := h.plain (by decide)
    exact (Template.Tidy.preceded hnot hbody.grouped).merged (a := [])

theorem tidy_compare (op : Comparison) {a b : Term}
    (hnames : ∀ c ∈ a.expr.columns ++ b.expr.columns, c.isSpelled = true) :
    (compare op a b).template.Tidy naming := by
  have hop : Sql.Tidy naming.sigil op.sql.toList [] := h.plain (by cases op <;> decide)
  have hboth := (Term.tidy h fun c hc => hnames c (List.mem_append_left _ hc)).followed
    (.preceded hop (Term.tidy h fun c hc => hnames c (List.mem_append_right _ hc)))
  rw [← String.append_assoc] at hboth
  exact hboth

theorem tidy_nullTest (isNull : Bool) {t : Term}
    (hnames : ∀ c ∈ t.expr.columns, c.isSpelled = true) :
    (nullTest isNull t).template.Tidy naming := by
  have hterm := Term.tidy h hnames
  cases isNull with
  | true =>
    have htest := hterm.followed (Template.tidy_text (h.plain (s := "IS NULL") (by decide)))
    exact htest
  | false =>
    have htest := hterm.followed (Template.tidy_text (h.plain (s := "IS NOT NULL") (by decide)))
    exact htest

/-- Values with commas between them. -/
theorem tidy_itemsTemplate (items : List Value) : (itemsTemplate items).Tidy naming := by
  induction items with
  | nil => exact Template.tidy_nil
  | cons v rest ih =>
    cases rest with
    | nil => exact tidy_value h v
    | cons next rest =>
      -- Behind the comma comes a blank, with nothing in between.
      have hblank := Template.Tidy.preceded (h.plain (s := "") (by decide)) ih
      exact ((tidy_value h v).cut hblank (.inr rfl)).merged

theorem tidy_within (negated : Bool) {t : Term} (items : List Value)
    (hnames : ∀ c ∈ t.expr.columns, c.isSpelled = true) :
    (within negated t items).template.Tidy naming := by
  have hterm := Term.tidy h hnames
  have hlist := (tidy_itemsTemplate h items).grouped
  cases negated with
  | true =>
    have hword := Template.Tidy.preceded (h.plain (s := "NOT IN") (by decide)) hlist
    exact (hterm.followed hword).merged
  | false =>
    have hword := Template.Tidy.preceded (h.plain (s := "IN") (by decide)) hlist
    exact (hterm.followed hword).merged

theorem tidy_constant (holds : Bool) : (constant holds).template.Tidy naming := by
  cases holds <;> exact Template.tidy_text (h.plain (by decide))

theorem tidy_nullOrEmpty (negated : Bool) {c : Column} (hc : c.isSpelled = true) :
    (nullOrEmpty negated c).template.Tidy naming := by
  have hcolumn := Column.tidy h.sigil hc
  refine Template.tidy_text ?_
  cases negated with
  | true =>
    have htidy := (hcolumn.then ((h.plain (s := "IS NOT NULL AND") (by decide)).then
      (hcolumn.then (h.plain (s := "<> ''") (by decide))))).grouped
    simpa using htidy
  | false =>
    have htidy := (hcolumn.then ((h.plain (s := "IS NULL OR") (by decide)).then
      (hcolumn.then (h.plain (s := "= ''") (by decide))))).grouped
    simpa using htidy

theorem tidy_patternTemplate (place : MatchPlace) {pattern : Term}
    (hnames : ∀ c ∈ pattern.expr.columns, c.isSpelled = true) :
    (patternTemplate place pattern).Tidy naming := by
  have hpattern := Term.tidy h hnames
  have hafter := hpattern.followed
    (Template.tidy_text (h.plain (s := "|| '%'") (by decide)))
  have hwildcard : Sql.Tidy naming.sigil "'%' ||".toList [] := h.plain (by decide)
  have hboth := Template.Tidy.preceded hwildcard hafter
  have hbefore := Template.Tidy.preceded hwildcard hpattern
  cases place with
  | anywhere => exact hboth
  | atStart => exact hafter
  | atEnd => exact hbefore

theorem tidy_like (negated : Bool) (place : MatchPlace) {t pattern : Term}
    (hnames : ∀ c ∈ t.expr.columns ++ pattern.expr.columns, c.isSpelled = true) :
    (like negated t place pattern).template.Tidy naming := by
  have hterm := Term.tidy h fun c hc => hnames c (List.mem_append_left _ hc)
  have hpattern := tidy_patternTemplate h place fun c hc => hnames c (List.mem_append_right _ hc)
  cases negated with
  | true =>
    have hword := Template.Tidy.preceded (h.plain (s := "NOT LIKE") (by decide)) hpattern
    have hlike := hterm.followed hword
    exact hlike
  | false =>
    have hword := Template.Tidy.preceded (h.plain (s := "LIKE") (by decide)) hpattern
    have hlike := hterm.followed hword
    exact hlike

theorem tidy_truth (negated : Bool) {c : Column} (hc : c.isSpelled = true) :
    (truth negated c).template.Tidy naming := by
  have hcolumn := Column.tidy h.sigil hc
  refine Template.tidy_text ?_
  cases negated with
  | true => simpa using hcolumn.then (h.plain (s := "<> TRUE") (by decide))
  | false => simpa using hcolumn.then (h.plain (s := "= TRUE") (by decide))

end Clause

/-- **Tidiness.**  The text of a lowered tree over words is tidy. -/
theorem Expr.Lowers.tidy {e : Expr} {negated : Bool} {clause : Clause}
    (hlowers : Lowers e negated clause) (hnames : ∀ c ∈ e.columns, c.isSpelled = true) :
    clause.template.Tidy naming := by
  induction hlowers with
  | logical op negated hl hr ihl ihr =>
    exact Clause.tidy_join h negated op (ihl fun c hc => hnames c (List.mem_append_left _ hc))
      (ihr fun c hc => hnames c (List.mem_append_right _ hc))
  | compare op negated a b => exact Clause.tidy_compare h _ hnames
  | nullRight op negated a =>
    exact Clause.tidy_nullTest h _ fun c hc => hnames c (List.mem_append_left _ hc)
  | nullLeft op negated b => exact Clause.tidy_nullTest h _ hnames
  | nothing negated c => exact Clause.tidy_constant h negated
  | within negated a first rest =>
    exact Clause.tidy_within h negated _ fun c hc => hnames c (List.mem_append_left _ hc)
  | not negated hlowers ih => exact ih hnames
  | hasValue negated a | isNull negated a => exact Clause.tidy_nullTest h _ hnames
  | nullOrEmpty negated c | call negated c hname =>
    exact Clause.tidy_nullOrEmpty h negated (hnames c List.mem_cons_self)
  | like negated a place pattern ignoreCase hpattern =>
    exact Clause.tidy_like h negated place hnames
  | truth negated c => exact Clause.tidy_truth h negated (hnames c List.mem_cons_self)

end Clauses

/-! ### Signs -/

/-- The signs that are accepted in front of placeholders although they may mean something else
    in the text of a condition. -/
def Settings.ambiguousSigils : List Char := ['\'', '(', ')', ',', '_']

/-- Settings that are accepted let placeholders stand out, if their sign is none of those. -/
theorem Settings.standsOut {settings : Settings} (hvalid : settings.validate = .ok ())
    (hsigil : settings.naming.sigil ∉ ambiguousSigils) : settings.naming.StandsOut := by
  obtain ⟨hne, hstem, hsymbol⟩ := validate_eq_ok hvalid
  simp only [ambiguousSigils, List.mem_cons, List.not_mem_nil, or_false, not_or] at hsigil
  obtain ⟨hquote, hopening, hclosing, hcomma, hunderscore⟩ := hsigil
  have hblank : settings.naming.sigil ≠ ' ' := by
    intro heq
    rw [heq] at hsymbol
    exact absurd hsymbol (by decide)
  refine ⟨?_, ?_, hquote, hne, fun c hc => isWordCharacter_of_isStemCharacter (hstem c hc)⟩
  · simp only [isSymbol, Bool.not_eq_true', Bool.or_eq_false_iff] at hsymbol
    simp [isWordCharacter, hsymbol.1.1, hsymbol.1.2, hunderscore]
  · simp [isCut, hblank, hcomma, hopening, hclosing]

namespace Binder

variable {naming : Naming}

/-- The place of the next value is the number of values that have a name. -/
theorem counter_new_bindAll (naming : Naming) (earlier : List Value) :
    ((new naming).bindAll earlier).counter
      = UInt32.ofNat (earlier.filter (!·.isNull)).length := by
  have hvalues : ∀ v ∈ earlier.filter (!·.isNull), v.isNull = false :=
    fun v hv => by simpa using (List.mem_filter.mp hv).2
  have hzero : (new naming).counter = UInt32.ofNat 0 := rfl
  have hcounter := counter_bindAll hzero hvalues
  rwa [bindAll_filter, Nat.zero_add] at hcounter

theorem Names.mem_keys {binder : Binder} {values : List Value} (h : binder.Names values)
    {name : String} :
    name ∈ binder.parameters.keys ↔ ∃ i < values.length, binder.naming.nameAt i = name := by
  rw [Keyed.keys, h.entries, Naming.map_fst_numbered, List.mem_map]
  simp only [List.mem_range]

/-- Where placeholders stand out the text of a tree over words is tidy, and its placeholders are
    those of its values. -/
theorem compile_tidy (h : naming.StandsOut) {earlier : List Value} {e : Expr}
    {written : ConditionText} {after : Binder} (hnames : ∀ c ∈ e.columns, c.isSpelled = true)
    (hcompile : ((new naming).bindAll earlier).compile e = (.ok written, after)) :
    Sql.Tidy naming.sigil written.sql.toList
      (naming.placeholders (earlier.filter (!·.isNull)).length e.literals.length) := by
  obtain ⟨clause, hlowers, rfl, -⟩ := lowers_of_compile hcompile
  have htidy := hlowers.tidy h hnames (earlier.filter (!·.isNull)).length
  rw [hlowers.literals] at htidy
  have htext := fst_fill (counter_new_bindAll naming earlier) clause.template
  rw [naming_bindAll] at htext
  rw [htext]
  exact htidy

/-- The placeholder of each value of a tree is a piece of the text, once, and those of earlier
    values are none. -/
theorem count_pieces {earlier : List Value} {e : Expr} {written : ConditionText} {after : Binder}
    (h : naming.StandsOut) (hnames : ∀ c ∈ e.columns, c.isSpelled = true)
    (hcompile : ((new naming).bindAll earlier).compile e = (.ok written, after))
    (hroom : earlier.length + e.literalCount < UInt32.size) {name : String}
    (hname : name ∈ after.parameters.keys) :
    (pieces written.sql.toList).count (naming.sigil :: name.toList)
      = if name ∈ ((new naming).bindAll earlier).parameters.keys then 0 else 1 := by
  have htidy := compile_tidy h hnames hcompile
  obtain ⟨clause, hlowers, -, rfl⟩ := lowers_of_compile hcompile
  generalize hnamed : earlier.filter (!·.isNull) = named at htidy
  have hlength : named.length + e.literals.length < UInt32.size := by
    have hshorter : (earlier.filter (!·.isNull)).length ≤ earlier.length :=
      List.length_filter_le _ _
    rw [hnamed] at hshorter
    exact Nat.lt_of_le_of_lt (Nat.add_le_add_right hshorter _) hroom
  have hbefore : ((new naming).bindAll earlier).Names named :=
    hnamed ▸ Names.bindAll_new naming (by rw [hnamed]; omega)
  have hafter := hbefore.bindAll (fun v hv => hlowers.not_null_of_mem_literals hv) hlength
  obtain ⟨i, hi, heq⟩ := hafter.mem_keys.mp hname
  rw [List.length_append] at hi
  rw [naming_bindAll, naming_bindAll] at heq
  obtain rfl : naming.nameAt i = name := heq
  -- The name was there before exactly if its number is one of the earlier values'.
  have hknown : naming.nameAt i ∈ ((new naming).bindAll earlier).parameters.keys
      ↔ i < named.length := by
    rw [hbefore.mem_keys, naming_bindAll]
    constructor
    · rintro ⟨j, hj, heq⟩
      rwa [← naming.nameAt_injective (by omega) (by omega) heq]
    · exact fun hi => ⟨i, hi, rfl⟩
  rw [← Naming.toList_placeholderAt, h.count_placeholderAt htidy hlength (by omega)]
  simp only [hknown]
  by_cases hearlier : i < named.length
  · rw [if_neg (by omega), if_pos hearlier]
  · rw [if_pos (by omega), if_neg hearlier]

end Binder

/-- A comparison of the column that is called like the first placeholder under the sign `_`. -/
def Naming.lookalike (naming : Naming) : Expr :=
  .binary (.column (.bare ("_" ++ naming.nameAt 0))) (.comparison .eq) (.literal (.int 1))

namespace Naming

/-- The text of the comparison. -/
theorem compile_lookalike (naming : Naming) :
    ∃ written after, (Binder.new naming).compile naming.lookalike = (.ok written, after) ∧
      written.sql.toList = ('_' :: (naming.nameAt 0).toList)
        ++ ' ' :: (['='] ++ ' ' :: (naming.sigil :: (naming.nameAt 0).toList)) ∧
      after.parameters.keys = [naming.nameAt 0] := by
  have hlowers : naming.lookalike.Lowers false _ :=
    .compare .eq false (.column (.bare ("_" ++ naming.nameAt 0))) (.value (.int 1)) fun _ => rfl
  have hlower : naming.lookalike.lower false = _ := hlowers.lower
  have hzero : (Binder.new naming).counter = UInt32.ofNat 0 := rfl
  refine ⟨_, _, by rw [Binder.compile, hlower], ?_, rfl⟩
  rw [Binder.fst_fill hzero, ← toList_placeholderAt]
  simp [Clause.template, Term.piece, Template.write, Column.text, Column.bare, Value.isNull,
    Comparison.sql, Comparison.flipIf, Binder.new]

end Naming

namespace Settings

variable {settings : Settings} (hvalid : settings.validate = .ok ())
include hvalid

theorem isWordCharacter_of_mem_nameAt (place : Nat) :
    ∀ c ∈ (settings.naming.nameAt place).toList, isWordCharacter c = true := fun _ =>
  Naming.isWordCharacter_of_mem_nameAt place fun _ hc =>
    isWordCharacter_of_isStemCharacter ((validate_eq_ok hvalid).2.1 _ hc)

theorem isSpelled_lookalike : ∀ c ∈ settings.naming.lookalike.columns, c.isSpelled = true := by
  intro c hc
  obtain rfl := List.mem_singleton.mp hc
  have hword : isWord ("_" ++ settings.naming.nameAt 0) = true := by
    have hchars : ("_" ++ settings.naming.nameAt 0).toList
        = '_' :: (settings.naming.nameAt 0).toList := by simp
    have hstart : isNameStart '_' = true := by decide
    rw [isWord, hchars]
    simp only [hstart, Bool.true_and, List.all_eq_true]
    exact isWordCharacter_of_mem_nameAt hvalid 0
  rw [Column.isSpelled, Bool.and_eq_true]
  exact ⟨hword, rfl⟩

/-- Under an ambiguous sign the quotes of the comparison do not come in pairs, or its placeholder
    is no piece, or it is two of them. -/
theorem untidy_lookalike (hsigil : settings.naming.sigil ∈ ambiguousSigils) :
    let name := (settings.naming.nameAt 0).toList
    let text := ('_' :: name) ++ ' ' :: (['='] ++ ' ' :: (settings.naming.sigil :: name))
    ¬ (Even (text.count '\'') ∧ (pieces text).count (settings.naming.sigil :: name) = 1) := by
  intro name text
  have hwords : ∀ c ∈ name, isWordCharacter c = true := isWordCharacter_of_mem_nameAt hvalid 0
  have hcut : isCut settings.naming.sigil = true → (settings.naming.sigil :: name) ∉ pieces text :=
    fun hcut hmem =>
      Bool.false_ne_true ((isCut_of_mem_pieces hmem List.mem_cons_self).symm.trans hcut)
  rintro ⟨hpaired, hone⟩
  have hmem : (settings.naming.sigil :: name) ∈ pieces text :=
    List.count_pos_iff.mp (by omega)
  simp only [ambiguousSigils, List.mem_cons, List.not_mem_nil, or_false] at hsigil
  rcases hsigil with hquote | hopening | hclosing | hcomma | hunderscore
  · -- The sign is the only quote in the text.
    have hnone : name.count '\'' = 0 :=
      List.count_eq_zero.mpr fun hc => absurd (hwords _ hc) (by decide)
    have hcount : text.count '\'' = 1 := by simp [text, hquote, hnone]
    rw [hcount] at hpaired
    exact absurd hpaired (by decide)
  · exact hcut (by rw [hopening]; rfl) hmem
  · exact hcut (by rw [hclosing]; rfl) hmem
  · exact hcut (by rw [hcomma]; rfl) hmem
  · -- The column and the placeholder are the same word.
    have huncut : ∀ c ∈ '_' :: name, isCut c = false := by
      intro c hc
      rcases List.mem_cons.mp hc with rfl | hc
      · decide
      · exact isCut_of_isWordCharacter (hwords c hc)
    have hpieces : pieces text = [('_' :: name), ['='], ('_' :: name)] := by
      simp only [text, hunderscore]
      rw [pieces_append (by decide), pieces_append (by decide), pieces_eq_singleton huncut]
      rfl
    rw [hpieces, hunderscore] at hone
    simp at hone

end Settings

/-- **Signs.**  Let settings be accepted.  Their sign is none of the ambiguous ones exactly if this
    is true of every tree over columns whose names are words, written under a binder that may
    have named other values before: the parentheses of the text come in pairs, and so do its
    quotes; and of the pieces of the text exactly one is the placeholder of each value that the
    tree has bound, and none is that of an earlier one.  The counter holds numbers below
    `UInt32.size`. -/
theorem Settings.sigil_tidy {settings : Settings} (hvalid : settings.validate = .ok ()) :
    settings.naming.sigil ∉ ambiguousSigils ↔
      ∀ (earlier : List Value) (e : Expr) (written : ConditionText) (after : Binder),
        (∀ c ∈ e.columns, c.isSpelled = true) →
        ((Binder.new settings.naming).bindAll earlier).compile e = (.ok written, after) →
        Balanced written.sql.toList ∧ Even (written.sql.toList.count '\'') ∧
          (earlier.length + e.literalCount < UInt32.size →
            ∀ name ∈ after.parameters.keys,
              (pieces written.sql.toList).count (settings.naming.sigil :: name.toList)
                = if name ∈ ((Binder.new settings.naming).bindAll earlier).parameters.keys then 0
                  else 1) := by
  constructor
  · intro hsigil earlier e written after hnames hcompile
    have hstandsOut := standsOut hvalid hsigil
    have htidy := Binder.compile_tidy hstandsOut hnames hcompile
    exact ⟨htidy.balanced, htidy.paired, fun hroom name hname =>
      Binder.count_pieces hstandsOut hnames hcompile hroom hname⟩
  · intro htidy hsigil
    obtain ⟨written, after, hcompile, htext, hkeys⟩ :=
      settings.naming.compile_lookalike
    obtain ⟨-, hpaired, hpieces⟩ := htidy [] settings.naming.lookalike written after
      (isSpelled_lookalike hvalid) hcompile
    have hroom : 1 < UInt32.size := by decide
    have hone := hpieces hroom (settings.naming.nameAt 0) (by rw [hkeys]; simp)
    have hnew : settings.naming.nameAt 0
        ∉ ((Binder.new settings.naming).bindAll []).parameters.keys := List.not_mem_nil
    rw [if_neg hnew] at hone
    rw [htext] at hpaired hone
    exact untidy_lookalike hvalid hsigil ⟨hpaired, hone⟩

/-- A negated disjunction with a list, behind another value. -/
theorem Settings.sigil_tidy_standard :
    standard.validate = .ok () ∧ standard.naming.sigil ∉ ambiguousSigils ∧
      Balanced "NOT (age < @ld__2 OR name IN (@ld__3, @ld__4))".toList ∧
      (pieces "NOT (age < @ld__2 OR name IN (@ld__3, @ld__4))".toList).count "@ld__3".toList = 1 ∧
      (pieces "NOT (age < @ld__2 OR name IN (@ld__3, @ld__4))".toList).count "@ld__1".toList
        = 0 := by
  have hvalid : standard.validate = .ok () := rfl
  have hsigil : standard.naming.sigil ∉ ambiguousSigils := by decide
  obtain ⟨hbalanced, -, hpieces⟩ := (sigil_tidy hvalid).mp hsigil [.bool true]
    (Expr.not (.or (.binary (.column (.bare "age")) (.comparison .lt) (.literal (.int 18)))
      ((Expr.column (.bare "name")).isIn [.string "A", .string "B"])))
    ⟨"NOT (age < @ld__2 OR name IN (@ld__3, @ld__4))", false⟩ _ (by decide) rfl
  exact ⟨hvalid, hsigil, hbalanced, hpieces (by decide) "ld__3" (by decide),
    hpieces (by decide) "ld__1" (by decide)⟩

/-- Under the sign `(` every placeholder opens a parenthesis, and nothing closes it. -/
theorem Settings.sigil_tidy_opening :
    let settings : Settings := { standard with naming := ⟨"ld__", '('⟩ }
    let e : Expr := .binary (.column (.bare "name")) (.comparison .eq) (.literal (.string "x"))
    settings.validate = .ok () ∧ (∀ c ∈ e.columns, c.isSpelled = true) ∧
      (Binder.new settings.naming).compile e
        = (.ok ⟨"name = (ld__1", false⟩, ((Binder.new settings.naming).bind (.string "x")).2) ∧
      ¬ Balanced "name = (ld__1".toList := by
  refine ⟨by decide, by decide, rfl, fun h => ?_⟩
  exact absurd h.closed (by decide)

end BoundSql
