import BoundSql.Proofs.Binder.Numbering

namespace BoundSql

/-!
# Binder — pieces of a text

The text of a template is what stands between its values, with one placeholder after the other in
the gaps.  The pieces do not depend on the numbers of the values, so that one template that is
filled by two binders gives texts that differ in these numbers only.

* `weave` — pieces of a text, with the placeholders between them.
* `Template.write_eq_weave` — the pieces of a text and its placeholders.
-/

/-- Pieces of a text, with the placeholders between them. -/
def weave : (pieces placeholders : List String) → String
  | [], _ => ""
  | piece :: _, [] => piece
  | piece :: pieces, placeholder :: rest => piece ++ placeholder ++ weave pieces rest

/-- A text in front of the first of several pieces. -/
def inFront (s : String) : List String → List String
  | [] => [s]
  | piece :: pieces => (s ++ piece) :: pieces

namespace Template

/-- The pieces of text between the values of a template; null is a text. -/
def segments : Template → List String
  | [] => [""]
  | .text s :: rest => inFront s (segments rest)
  | .value v :: rest =>
      if v.isNull then inFront "NULL" (segments rest) else "" :: segments rest

theorem segments_ne_nil (template : Template) : template.segments ≠ [] := by
  induction template with
  | nil => simp [segments]
  | cons piece rest ih =>
    obtain ⟨first, more, hrest⟩ := List.exists_cons_of_ne_nil ih
    cases piece with
    | text s => simp [segments, hrest, inFront]
    | value v => by_cases hv : v.isNull = true <;> simp [segments, hrest, inFront, hv]

theorem weave_inFront (s : String) {pieces : List String} (h : pieces ≠ [])
    (placeholders : List String) :
    weave (inFront s pieces) placeholders = s ++ weave pieces placeholders := by
  obtain ⟨piece, rest, rfl⟩ := List.exists_cons_of_ne_nil h
  cases placeholders with
  | nil => rfl
  | cons placeholder others => simp [inFront, weave, String.append_assoc]

theorem length_inFront (s : String) {pieces : List String} (h : pieces ≠ []) :
    (inFront s pieces).length = pieces.length := by
  obtain ⟨piece, rest, rfl⟩ := List.exists_cons_of_ne_nil h
  rfl

/-- There is one piece more than there are values. -/
theorem length_segments (template : Template) :
    template.segments.length = (values template).length + 1 := by
  induction template with
  | nil => rfl
  | cons piece rest ih =>
    cases piece with
    | text s => rw [segments, length_inFront s (segments_ne_nil rest), ih, values]
    | value v =>
      rw [segments, values]
      split
      · rw [length_inFront _ (segments_ne_nil rest), ih]
      · rw [List.length_cons, List.length_cons, ih]

/-- **Pieces.**  A text is its pieces with the placeholders between them, from the first place
    on. -/
theorem write_eq_weave (placeholder : Nat → String) (place : Nat) (template : Template) :
    write placeholder place template
      = weave template.segments
          ((List.range (values template).length).map fun i => placeholder (place + i)) := by
  induction template generalizing place with
  | nil => rfl
  | cons piece rest ih =>
    cases piece with
    | text s => rw [write, segments, values, weave_inFront s (segments_ne_nil rest), ih]
    | value v =>
      rw [write, segments, values]
      by_cases hv : v.isNull = true
      · rw [if_pos hv, if_pos hv, if_pos hv, weave_inFront _ (segments_ne_nil rest), ih]
      -- A value ends its piece, and the places of the others are shifted by one.
      · rw [if_neg hv, if_neg hv, if_neg hv, List.length_cons, List.range_succ_eq_map, ih]
        simp [weave, Nat.add_assoc, Nat.add_comm 1, Function.comp_def]

end Template

end BoundSql
