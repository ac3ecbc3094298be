import BoundSql.Proofs.Sql.Grammar
import Mathlib.Algebra.Group.Nat.Even
import Mathlib.Data.List.Basic

namespace BoundSql.Sql

/-!
# Sql — parentheses, quotes and pieces

What can be seen of a text without reading it: that its parentheses and quotes come in pairs, and
which of the pieces between its blanks, commas and parentheses are placeholders.  All of this is
known of a text that is put together from texts of which it is known.

* `Balanced` — the parentheses come in pairs.
* `pieces` — the pieces of a text.
* `Tidy` — parentheses and quotes come in pairs, and the placeholders are known.
* `Tidy.cut`, `Tidy.grouped` — texts that are put together.
-/

/-! ### Parentheses -/

/-- No beginning of the text closes more parentheses than it opens, and the whole text closes
    as many. -/
structure Balanced (text : List Char) : Prop where
  opened : ∀ front, front <+: text → front.count ')' ≤ front.count '('
  closed : text.count ')' = text.count '('

namespace Balanced

variable {a b : List Char}

theorem take (ha : Balanced a) (n : Nat) : (a.take n).count ')' ≤ (a.take n).count '(' :=
  ha.opened _ (List.take_prefix n a)

/-- A text without parentheses. -/
theorem of_not_mem (hopening : '(' ∉ a) (hclosing : ')' ∉ a) : Balanced a := by
  constructor
  · intro front h
    rw [List.count_eq_zero.mpr fun hmem => hclosing (h.subset hmem)]
    exact Nat.zero_le _
  · rw [List.count_eq_zero.mpr hopening, List.count_eq_zero.mpr hclosing]

theorem append (ha : Balanced a) (hb : Balanced b) : Balanced (a ++ b) := by
  constructor
  · intro front h
    rw [List.prefix_iff_eq_take.mp h, List.take_append, List.count_append, List.count_append]
    exact Nat.add_le_add (ha.take _) (hb.take _)
  · rw [List.count_append, List.count_append, ha.closed, hb.closed]

/-- A text in parentheses. -/
theorem grouped (ha : Balanced a) : Balanced ('(' :: (a ++ [')'])) := by
  constructor
  · intro front h
    rw [List.prefix_iff_eq_take.mp h]
    cases front.length with
    | zero => simp
    | succ n =>
      -- The last parenthesis closes the first one.
      have hlast : ([')'].take (n - a.length)).count ')' ≤ 1 :=
        (List.take_sublist _ _).count_le ')'
      have hinner := ha.take n
      rw [List.take_succ_cons, List.take_append, List.count_cons, List.count_cons,
        List.count_append, List.count_append, if_neg (by decide), if_pos (by decide)]
      omega
  · simp [ha.closed]

end Balanced

/-! ### Pieces -/

/-- Is a text cut at the character? -/
def isCut (c : Char) : Bool := c == ' ' || c == ',' || c == '(' || c == ')'

/-- The pieces of a text between its blanks, commas and parentheses. -/
def pieces (text : List Char) : List (List Char) := text.splitOnP isCut

theorem pieces_append {cut : Char} (h : isCut cut = true) (a b : List Char) :
    pieces (a ++ cut :: b) = pieces a ++ pieces b :=
  List.splitOnP_append_cons a b h

/-- A text that is not cut is one piece. -/
theorem pieces_eq_singleton {text : List Char} (h : ∀ c ∈ text, isCut c = false) :
    pieces text = [text] :=
  List.splitOnP_eq_singleton h

/-- No piece is cut. -/
theorem isCut_of_mem_pieces {text piece : List Char} (h : piece ∈ pieces text) {c : Char}
    (hc : c ∈ piece) : isCut c = false := by
  induction text generalizing piece with
  | nil =>
    obtain rfl := List.mem_singleton.mp h
    exact absurd hc List.not_mem_nil
  | cons d rest ih =>
    rw [pieces, List.splitOnP_cons_eq_if_modifyHead] at h
    split at h
    · rcases List.mem_cons.mp h with rfl | hrest
      · exact absurd hc List.not_mem_nil
      · exact ih hrest hc
    · rename_i hd
      -- The first piece of the rest is longer by one character.
      obtain ⟨first, more, hpieces⟩ := List.exists_cons_of_ne_nil
        (List.splitOnP_ne_nil isCut rest)
      rw [hpieces, List.modifyHead_cons] at h
      have hmem : ∀ other ∈ first :: more, c ∈ other → isCut c = false :=
        fun other hother => ih (by rwa [pieces, hpieces])
      rcases List.mem_cons.mp h with rfl | hmore
      · rcases List.mem_cons.mp hc with rfl | hc
        · exact Bool.eq_false_iff.mpr hd
        · exact hmem first List.mem_cons_self hc
      · exact hmem piece (List.mem_cons_of_mem _ hmore) hc

/-- Is the piece a placeholder: the sign, and a name behind it? -/
def isPlaceholder (sigil : Char) : List Char → Bool
  | c :: d :: _ => c == sigil && isWordCharacter d
  | _ => false

/-! ### Tidy texts -/

/-- Parentheses and quotes of the text come in pairs, and the given pieces are its placeholders,
    from left to right. -/
structure Tidy (sigil : Char) (text : List Char) (placeholders : List (List Char)) : Prop where
  balanced : Balanced text
  paired : Even (text.count '\'')
  placeholders : (pieces text).filter (isPlaceholder sigil) = placeholders

/-- Can the piece not be a placeholder, whatever the sign is? -/
def isApart : List Char → Bool
  | c :: d :: _ => isWordCharacter c || !isWordCharacter d
  | _ => true

theorem isPlaceholder_of_isApart {sigil : Char} (hsigil : isWordCharacter sigil = false)
    {piece : List Char} (h : isApart piece = true) : isPlaceholder sigil piece = false := by
  rcases piece with _ | ⟨c, _ | ⟨d, rest⟩⟩
  · rfl
  · rfl
  · rw [isApart, Bool.or_eq_true, Bool.not_eq_true'] at h
    rw [isPlaceholder, Bool.and_eq_false_iff]
    rcases h with hc | hd
    · left
      rw [beq_eq_false_iff_ne]
      rintro rfl
      rw [hsigil] at hc
      exact Bool.noConfusion hc
    · exact .inr hd

/-- No parentheses, quotes in pairs, and no piece that can be a placeholder. -/
def IsPlain (text : List Char) : Prop :=
  '(' ∉ text ∧ ')' ∉ text ∧ Even (text.count '\'') ∧ ∀ piece ∈ pieces text, isApart piece = true

instance (text : List Char) : Decidable (IsPlain text) :=
  inferInstanceAs (Decidable (_ ∧ _ ∧ _ ∧ _))

namespace Tidy

variable {sigil : Char} {a b : List Char} {as bs : List (List Char)}

theorem plain (hsigil : isWordCharacter sigil = false) (h : IsPlain a) : Tidy sigil a [] := by
  obtain ⟨hopening, hclosing, hpaired, hpieces⟩ := h
  refine ⟨.of_not_mem hopening hclosing, hpaired, ?_⟩
  rw [List.filter_eq_nil_iff]
  intro piece hmem
  rw [isPlaceholder_of_isApart hsigil (hpieces piece hmem)]
  exact Bool.false_ne_true

/-- A text that is one piece and has no quotes. -/
theorem single (hcut : ∀ c ∈ a, isCut c = false) (hquote : '\'' ∉ a) :
    Tidy sigil a ([a].filter (isPlaceholder sigil)) := by
  refine ⟨.of_not_mem ?_ ?_, ?_, ?_⟩
  · exact fun h => absurd (hcut _ h) (by decide)
  · exact fun h => absurd (hcut _ h) (by decide)
  · rw [List.count_eq_zero.mpr hquote]
    exact Even.zero
  · rw [pieces_eq_singleton hcut]

/-- Two texts with a blank or a comma between them. -/
theorem cut (ha : Tidy sigil a as) (hb : Tidy sigil b bs) {c : Char} (hc : c = ' ' ∨ c = ',') :
    Tidy sigil (a ++ c :: b) (as ++ bs) := by
  have hcut : isCut c = true ∧ c ≠ '(' ∧ c ≠ ')' ∧ c ≠ '\'' := by
    rcases hc with rfl | rfl <;> decide
  obtain ⟨hcut, hopening, hclosing, hquote⟩ := hcut
  refine ⟨?_, ?_, ?_⟩
  · have hone : Balanced [c] := .of_not_mem (by simpa using hopening.symm)
      (by simpa using hclosing.symm)
    exact ha.balanced.append (hone.append hb.balanced)
  · rw [List.count_append, List.count_cons_of_ne hquote]
    exact ha.paired.add hb.paired
  · rw [pieces_append hcut, List.filter_append, ha.placeholders, hb.placeholders]

/-- A text in parentheses. -/
theorem grouped (ha : Tidy sigil a as) : Tidy sigil ('(' :: (a ++ [')'])) as := by
  refine ⟨ha.balanced.grouped, ?_, ?_⟩
  · simpa using ha.paired
  · have hpieces : pieces ('(' :: (a ++ [')'])) = [] :: (pieces a ++ [[]]) := by
      rw [← List.nil_append ('(' :: _), pieces_append (by decide), pieces_append (by decide)]
      rfl
    rw [hpieces, List.filter_cons_of_neg (by simp [isPlaceholder]), List.filter_append,
      ha.placeholders]
    simp [isPlaceholder]

end Tidy

/-- Two texts with a blank between them. -/
theorem Tidy.then {sigil : Char} {a b : List Char} {as bs : List (List Char)}
    (ha : Tidy sigil a as) (hb : Tidy sigil b bs) : Tidy sigil (a ++ ' ' :: b) (as ++ bs) :=
  ha.cut hb (.inl rfl)

end BoundSql.Sql
