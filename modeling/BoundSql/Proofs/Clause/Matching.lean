import BoundSql.Proofs.Clause.Language
import BoundSql.Proofs.Clause.Meaning
import BoundSql.Proofs.Sql.Wildcards

namespace BoundSql

/-!
# Clause — matches with a text

A match with a text is written with the text as a parameter, as it is, and with `%` on the
sides where anything may stand.  A database reads the wildcards in the text as well: a match
finds whatever matches the text as a pattern, so that it finds the text itself, and nothing else
if there are no wildcards in it.

* `Truth.Says` — a truth that tells whether a statement holds.
* `Binder.finds_bindAll` — under any binder the values that are bound are found afterwards.
* `Binder.compile_like` — the text of a match, and what it says.
-/

open Sql

/-! ### Known truths -/

namespace Truth

/-- The truth is known, and it is that of the statement. -/
def Says (t : Truth) (p : Prop) : Prop := (t = holds ↔ p) ∧ (t = fails ↔ ¬ p)

theorem says_ofBool {b : Bool} {p : Prop} (h : b = true ↔ p) : (ofBool b).Says p := by
  cases b with
  | false =>
    have hnot : ¬ p := fun hp => Bool.false_ne_true (h.mpr hp)
    exact ⟨iff_of_false nofun hnot, iff_of_true rfl hnot⟩
  | true =>
    have hp : p := h.mp rfl
    exact ⟨iff_of_true rfl hp, iff_of_false nofun (not_not_intro hp)⟩

theorem Says.notIf {t : Truth} {p : Prop} (h : t.Says p) (negated : Bool) :
    (t.notIf negated).Says (if negated then ¬ p else p) := by
  cases negated with
  | false => exact h
  | true =>
    have hnot : (t.not = holds ↔ t = fails) ∧ (t.not = fails ↔ t = holds) := by
      cases t <;> simp [Truth.not]
    show (t.not = holds ↔ ¬ p) ∧ (t.not = fails ↔ ¬¬ p)
    rw [hnot.1, hnot.2, Classical.not_not]
    exact h.symm

end Truth

/-! ### Values that are found -/

/-- **What is found.**  Whatever a binder has bound before, the values that it binds next are
    found afterwards, as long as there are not more of them than numbers. -/
theorem Binder.finds_bindAll {binder : Binder} {place : Nat}
    (hcounter : binder.counter = UInt32.ofNat place) {values : List Value}
    (hvalues : ∀ v ∈ values, v.isNull = false) (hroom : values.length ≤ UInt32.size) :
    binder.naming.Finds (binder.bindAll values).parameters.get? place values := by
  induction values using List.reverseRecOn with
  | nil => nofun
  | append_singleton earlier v ih =>
    rw [List.length_append, List.length_singleton] at hroom
    have hearlier : ∀ w ∈ earlier, w.isNull = false :=
      fun w hw => hvalues w (List.mem_append_left _ hw)
    have hbound : (binder.bindAll (earlier ++ [v])).parameters
        = (binder.bindAll earlier).parameters.insert
            (binder.naming.nameAt (place + earlier.length)) v := by
      rw [bindAll_append]
      show ((binder.bindAll earlier).bind v).2.parameters = _
      rw [bind_of_counter (counter_bindAll hcounter hearlier) (hvalues v (by simp)),
        naming_bindAll]
    intro i w hw
    rw [hbound, Keyed.get?_insert]
    rcases Nat.lt_or_ge i earlier.length with hi | hi
    · -- The number of an earlier value does not come again so soon.
      rw [List.getElem?_append_left hi] at hw
      have hne : binder.naming.nameAt (place + i)
          ≠ binder.naming.nameAt (place + earlier.length) := by
        intro heq
        have hnumber := congrArg UInt32.toNat (binder.naming.name_injective heq)
        simp only [UInt32.toNat_ofNat'] at hnumber
        have hsize : UInt32.size = 2 ^ 32 := rfl
        omega
      rw [if_neg hne]
      exact ih hearlier (by omega) i w hw
    · have hlt : i < (earlier ++ [v]).length := (List.getElem?_eq_some_iff.mp hw).1
      obtain rfl : i = earlier.length := by
        rw [List.length_append, List.length_singleton] at hlt
        omega
      rw [if_pos rfl]
      simpa using hw

/-! ### Matches -/

/-- The tree, or its negation. -/
def Expr.notIf (negated : Bool) (e : Expr) : Expr := if negated then e.not else e

/-- A match with a text. -/
def Expr.matchText (operand : Expr) (place : MatchPlace) (pattern : String) (ignoreCase : Bool) :
    Expr :=
  .like operand place (.literal (.string pattern)) ignoreCase

section

variable (t : Term) (place : MatchPlace) (pattern : String) (ignoreCase negated : Bool)

theorem Expr.lowers_matchText :
    Lowers (.notIf negated (.matchText t.expr place pattern ignoreCase)) false
      (.like negated t place (.value (.string pattern))) := by
  have h (negated : Bool) := Lowers.like negated t place (.value (.string pattern)) ignoreCase
    (.inr ⟨pattern, rfl⟩)
  cases negated with
  | false => exact h false
  | true => exact .not false (h true)

theorem Clause.values_like :
    (like negated t place (.value (.string pattern))).template.values
      = t.expr.literals ++ [.string pattern] := by
  rw [template, values_piece, values_text, values_patternTemplate]
  rfl

/-- The text of a match: the pattern is the placeholder with `%` around it. -/
theorem Clause.write_like (placeholder : Nat → String) (start : Nat) :
    (like negated t place (.value (.string pattern))).template.write placeholder start
      = t.write placeholder start ++ (if negated then " NOT LIKE " else " LIKE ")
        ++ place.around "'%' || " (placeholder (start + t.expr.literals.length)) " || '%'" := by
  rw [template, write_piece, write_text]
  cases place <;>
    simp [patternTemplate, Term.piece, Template.write, Value.isNull, MatchPlace.around,
      MatchPlace.openBefore, MatchPlace.openAfter, String.append_assoc]

/-- The value of a pattern is the text with its wildcards around it. -/
theorem Engine.MatchesTexts.patternValue {α : Type} {engine : Engine α}
    (h : engine.MatchesTexts) :
    Expr.patternValue engine place (some (engine.literal (.string pattern)))
      = some (engine.literal (.string (place.around "%" pattern "%"))) := by
  have hwildcard : engine.value (.string "%") = some (engine.literal (.string "%")) := rfl
  cases place <;>
    simp [Expr.patternValue, hwildcard, Engine.joined, h.concat, MatchPlace.around,
      MatchPlace.openBefore, MatchPlace.openAfter]

/-- A match says of a text whether the pattern occurs in its place. -/
theorem Clause.says_like {α : Type} {engine : Engine α} (hengine : engine.MatchesTexts)
    {row : Row α} {s : String}
    (hsubject : t.valueIn engine row = some (engine.literal (.string s))) :
    ((like negated t place (.value (.string pattern))).condition.truth engine row).Says
      (if negated then ¬ place.Occurs pattern.toList s.toList
        else place.Occurs pattern.toList s.toList) := by
  have hpattern : (patternOperand place (.value (.string pattern))).value engine row
      = some (engine.literal (.string (place.around "%" pattern "%"))) := by
    rw [value_patternOperand]
    exact hengine.patternValue place pattern
  have hmatched : engine.matched (t.valueIn engine row)
      ((patternOperand place (.value (.string pattern))).value engine row)
      = .ofBool (engine.like (engine.literal (.string s))
          (engine.literal (.string (place.around "%" pattern "%")))) := by
    rw [hsubject, hpattern]
    rfl
  show ((engine.matched (t.valueIn engine row) _).notIf negated).Says _
  rw [hmatched]
  have hmatches := (hengine.like s (place.around "%" pattern "%")).trans
    (place.matches_around pattern s.toList)
  exact (Truth.says_ofBool hmatches).notIf negated

namespace Binder

/-- A match is written under any binder, and its values are bound. -/
theorem compile_matchText (binder : Binder) :
    binder.compile (.notIf negated (.matchText t.expr place pattern ignoreCase))
      = (.ok ⟨(Clause.like negated t place (.value (.string pattern))).template.write
          binder.naming.placeholderAt binder.counter.toNat, false⟩,
        binder.bindAll (t.expr.literals ++ [.string pattern])) := by
  have hcounter : binder.counter = UInt32.ofNat binder.counter.toNat :=
    UInt32.ofNat_toNat.symm
  rw [compile, (Expr.lowers_matchText t place pattern ignoreCase negated).lower,
    ← Clause.values_like t place pattern negated, ← snd_fill, ← fst_fill hcounter]
  rfl

/-- The values of a match are found. -/
theorem finds_matchText (binder : Binder) :
    binder.naming.Finds (binder.bindAll (t.expr.literals ++ [.string pattern])).parameters.get?
      binder.counter.toNat (t.expr.literals ++ [.string pattern]) := by
  refine finds_bindAll UInt32.ofNat_toNat.symm (fun v hv => ?_) ?_
  · rw [← Clause.values_like t .anywhere pattern false] at hv
    exact Template.not_null_of_mem_values hv
  · have hone : t.expr.literals.length ≤ 1 := by
      rcases t with c | v
      · exact Nat.zero_le 1
      · rw [Term.expr, Expr.literals]
        split <;> simp
    have hsize : UInt32.size = 2 ^ 32 := rfl
    rw [List.length_append, List.length_singleton]
    omega

/-- Under a legible naming the text of a match is read as the match, with the text that is
    bound as its pattern. -/
theorem reads_matchText {binder : Binder} (hlegible : binder.naming.Legible)
    (hnames : ∀ c ∈ t.expr.columns, c.isNamed = true) :
    ∃ read, (∀ c, Parses binder.naming.sigil
        ((Clause.like negated t place (.value (.string pattern))).template.write
          binder.naming.placeholderAt binder.counter.toNat) c ↔ c = read) ∧
      read.resolve (binder.bindAll (t.expr.literals ++ [.string pattern])).parameters.get?
        = some (Clause.like negated t place (.value (.string pattern))).condition := by
  have hcolumns : ∀ c ∈ t.expr.columns ++ (Term.value (.string pattern)).expr.columns,
      c.isNamed = true := by
    simpa [Term.expr, Expr.columns] using hnames
  have hspelled := Clause.spelled_like hlegible negated place hcolumns
    (finds_matchText t pattern binder)
  exact hspelled.chain.parses

end Binder

end

namespace Binder

/-- **Matches.**  Under any binder a match of an operand with a text is written as `LIKE` with a
    placeholder, `%` on the sides where anything may stand, and the text is bound as it is.
    Where the operand is a text, the condition says whether something that matches the bound
    text as a pattern occurs in it, in the place of the match, and a negated one whether not.
    So a text that is found as it stands always counts; and it is all that counts if there are
    no wildcards in it.  Under a legible naming this condition is the one reading of what is
    written, with the bound values in the place of their names. -/
theorem compile_like (binder : Binder) {operand : Expr} (hoperand : operand.IsOperand)
    (place : MatchPlace) (pattern : String) (ignoreCase negated : Bool) :
    ∃ written after subject name clause,
      binder.compile (.notIf negated (operand.matchText place pattern ignoreCase))
        = (.ok written, after) ∧
      written.sql = subject ++ (if negated then " NOT LIKE " else " LIKE ")
        ++ place.around "'%' || " (String.singleton binder.naming.sigil ++ name) " || '%'" ∧
      after.parameters.get? name = some (.string pattern) ∧
      (Expr.notIf negated (operand.matchText place pattern ignoreCase)).lower false
        = .ok clause ∧
      (∀ {α : Type} {engine : Engine α} (row : Row α) (s : String), engine.MatchesTexts →
        operand.value? engine row = some (some (engine.literal (.string s))) →
        (clause.condition.truth engine row).Says
            (if negated then ¬ place.Occurs pattern.toList s.toList
              else place.Occurs pattern.toList s.toList) ∧
          (place.Finds pattern.toList s.toList → place.Occurs pattern.toList s.toList) ∧
          ('%' ∉ pattern.toList → '_' ∉ pattern.toList →
            (clause.condition.truth engine row).Says
              (if negated then ¬ place.Finds pattern.toList s.toList
                else place.Finds pattern.toList s.toList))) ∧
      (binder.naming.Legible → (∀ c ∈ operand.columns, c.isNamed = true) →
        ∃ read, (∀ c, Parses binder.naming.sigil written.sql c ↔ c = read) ∧
          read.resolve after.parameters.get? = some clause.condition) := by
  obtain ⟨t, rfl⟩ := hoperand.exists_term
  let start : Nat := binder.counter.toNat
  refine ⟨_, _, t.write binder.naming.placeholderAt start,
    binder.naming.nameAt (start + t.expr.literals.length), _,
    compile_matchText t place pattern ignoreCase negated binder,
    Clause.write_like t place pattern negated _ _, ?_,
    (Expr.lowers_matchText t place pattern ignoreCase negated).lower,
    fun {α engine} row s hengine hvalue => ?_, reads_matchText t place pattern negated⟩
  · exact (finds_matchText t pattern binder).right 0 _ rfl
  · have hsubject : t.valueIn engine row = some (engine.literal (.string s)) := by
      rwa [Term.value?_expr, Option.some.injEq] at hvalue
    have htruth := Clause.says_like t place pattern negated hengine hsubject
    refine ⟨htruth, MatchPlace.occurs_of_finds, fun hany hone => ?_⟩
    simpa only [MatchPlace.occurs_iff_finds hany hone] using htruth

/-- A negated search for a text without wildcards. -/
theorem compile_like_not_anywhere :
    ∃ read given,
      (∀ c, Parses '@' "name NOT LIKE '%' || @ld__1 || '%'" c ↔ c = read) ∧
        read.resolve ((new .standard).bind (.string "ell")).2.parameters.get? = some given ∧
        given.truth Engine.plain (fun _ => some (.string "hello")) = .fails ∧
        given.truth Engine.plain (fun _ => some (.string "hall")) = .holds := by
  obtain ⟨written, after, -, -, clause, hcompile, -, -, -, htruth, hreads⟩ :=
    compile_like (new .standard) (.column (.bare "name")) .anywhere "ell" false true
  have hwritten : (new .standard).compile
      (.notIf true ((Expr.column (.bare "name")).matchText .anywhere "ell" false))
      = (.ok ⟨"name NOT LIKE '%' || @ld__1 || '%'", false⟩,
        ((new .standard).bind (.string "ell")).2) := rfl
  rw [hwritten] at hcompile
  cases hcompile
  have hlegible : Settings.standard.naming.Legible := Settings.legible rfl (by decide)
  obtain ⟨read, hunique, hresolve⟩ := hreads hlegible (by decide)
  refine ⟨read, clause.condition, hunique, hresolve, ?_, ?_⟩
  · obtain ⟨-, -, hfinds⟩ := htruth (fun _ => some (.string "hello")) "hello"
      Engine.plain_matchesTexts rfl
    exact (hfinds (by decide) (by decide)).2.mpr (not_not_intro (by decide : _ <:+: _))
  · obtain ⟨-, -, hfinds⟩ := htruth (fun _ => some (.string "hall")) "hall"
      Engine.plain_matchesTexts rfl
    exact (hfinds (by decide) (by decide)).1.mpr (by decide : ¬ _ <:+: _)

/-- The wildcard in `100%` is one for the database too: what begins with `100` matches. -/
theorem compile_like_hundred_percent :
    (new .standard).compile ((Expr.column (.bare "name")).matchText .atStart "100%" false)
        = (.ok ⟨"name LIKE @ld__1 || '%'", false⟩,
          ((new .standard).bind (.string "100%")).2) ∧
      (∃ read given, (∀ c, Parses '@' "name LIKE @ld__1 || '%'" c ↔ c = read) ∧
        read.resolve ((new .standard).bind (.string "100%")).2.parameters.get? = some given ∧
        given.truth Engine.plain (fun _ => some (.string "1000 coins")) = .holds) ∧
      ¬ "100%".toList <+: "1000 coins".toList := by
  refine ⟨rfl, ?_, by decide⟩
  have hlegible : Settings.standard.naming.Legible := Settings.legible rfl (by decide)
  let row : Row Value := fun _ => some (.string "1000 coins")
  have hsubject : (Term.column (.bare "name")).valueIn Engine.plain row
      = some (Engine.plain.literal (.string "1000 coins")) := rfl
  obtain ⟨read, hunique, hresolve⟩ := @reads_matchText (.column (.bare "name")) .atStart "100%"
    false (new .standard) hlegible (by decide)
  have htruth := Clause.says_like _ .atStart "100%" false Engine.plain_matchesTexts hsubject
  -- `100%` matches `1000`, with which the value begins.
  have hoccurs : MatchPlace.Occurs .atStart "100%".toList "1000 coins".toList :=
    ⟨"1000".toList, (by decide : _ <+: _), (wildcardMatch_iff _ _).mp (by decide)⟩
  exact ⟨read, _, hunique, hresolve, htruth.1.mpr hoccurs⟩

end Binder

end BoundSql
