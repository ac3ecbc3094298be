import BoundSql.Proofs.Json.Strings

namespace BoundSql

/-!
# Json — how deep a text nests

A text shows how deep its arrays and objects nest: it is the greatest number of brackets and
braces that are open at once, where those between quotes do not count.  This number is read off
the characters alone.  In the text of a document it is the depth of the document, because quotes
and backslashes in a string are escaped.

* `Json.nesting` — how deep a text nests.
* `Json.depth` — how deep a document nests.
* `Json.nesting_compact` — the two agree.
-/

namespace Json

/-! ### Texts -/

/-- Where a character of a text stands. -/
inductive Position where
  | outside
  /-- Between quotes. -/
  | quoted
  /-- Between quotes and behind a backslash. -/
  | escaped

/-- The greatest number of brackets and braces that are open at once, if `level` of them are open
    in front of the text. -/
def nestingFrom : Position → (level : Nat) → List Char → Nat
  | _, level, [] => level
  | .escaped, level, _ :: rest => nestingFrom .quoted level rest
  | .quoted, level, c :: rest =>
      if c = '\\' then nestingFrom .escaped level rest
      else if c = '"' then nestingFrom .outside level rest
      else nestingFrom .quoted level rest
  | .outside, level, c :: rest =>
      if c = '"' then nestingFrom .quoted level rest
      else if c = '[' ∨ c = '\x7b' then nestingFrom .outside (level + 1) rest
      -- What is open now counts, even if nothing is opened any more.
      else if c = ']' ∨ c = '\x7d' then max level (nestingFrom .outside (level - 1) rest)
      else nestingFrom .outside level rest

/-- How deep the brackets and braces of a text nest; those between quotes do not count. -/
def nesting (text : String) : Nat := nestingFrom .outside 0 text.toList

/-- What is open in front counts. -/
theorem le_nestingFrom (position : Position) (level : Nat) (cs : List Char) :
    level ≤ nestingFrom position level cs := by
  fun_induction nestingFrom position level cs with
  | case1 => exact Nat.le_refl _
  | case7 level c rest hquote hopen ih => omega
  | case8 level c rest hquote hopen hclose ih => exact Nat.le_max_left _ _
  | _ => assumption

/-! ### Characters that do not nest -/

/-- Characters between quotes that neither end the string nor escape. -/
theorem nestingFrom_quoted {cs : List Char} (h : ∀ c ∈ cs, c ≠ '\\' ∧ c ≠ '"') (level : Nat)
    (rest : List Char) : nestingFrom .quoted level (cs ++ rest) = nestingFrom .quoted level rest := by
  induction cs with
  | nil => rfl
  | cons c more ih =>
    obtain ⟨hbackslash, hquote⟩ := h c List.mem_cons_self
    rw [List.cons_append, nestingFrom, if_neg hbackslash, if_neg hquote]
    exact ih fun d hd => h d (List.mem_cons_of_mem c hd)

/-- Is the character none that opens, closes or quotes? -/
def isFlat (c : Char) : Bool :=
  c != '"' && c != '[' && c != '\x7b' && c != ']' && c != '\x7d'

theorem nestingFrom_flat {cs : List Char} (h : ∀ c ∈ cs, isFlat c = true) (level : Nat)
    (rest : List Char) :
    nestingFrom .outside level (cs ++ rest) = nestingFrom .outside level rest := by
  induction cs with
  | nil => rfl
  | cons c more ih =>
    have hc := h c List.mem_cons_self
    simp only [isFlat, Bool.and_eq_true, bne_iff_ne, ne_eq] at hc
    obtain ⟨⟨⟨⟨hquote, hbracket⟩, hbrace⟩, hbracket'⟩, hbrace'⟩ := hc
    rw [List.cons_append, nestingFrom, if_neg hquote, if_neg (not_or.mpr ⟨hbracket, hbrace⟩),
      if_neg (not_or.mpr ⟨hbracket', hbrace'⟩)]
    exact ih fun d hd => h d (List.mem_cons_of_mem c hd)

/-! ### Strings -/

theorem ne_syntax_of_hexDigit {value : Nat} (h : value < 16) :
    hexDigit value ≠ '\\' ∧ hexDigit value ≠ '"' := by
  have hall : ∀ v, v < 16 → hexDigit v ≠ '\\' ∧ hexDigit v ≠ '"' := by decide
  exact hall value h

theorem nestingFrom_unicodeEscape (codePoint level : Nat) (rest : List Char) :
    nestingFrom .quoted level (unicodeEscape codePoint ++ rest)
      = nestingFrom .quoted level rest := by
  show nestingFrom .quoted level (hexPadded 4 codePoint ++ rest) = _
  apply nestingFrom_quoted
  intro c hc
  obtain ⟨value, hvalue, rfl⟩ := exists_of_mem_hexPadded hc
  exact ne_syntax_of_hexDigit hvalue

/-- Whatever is written between quotes stays there. -/
theorem nestingFrom_unit (unit : JsonUnit) (level : Nat) (rest : List Char) :
    nestingFrom .quoted level (unit.render ++ rest) = nestingFrom .quoted level rest := by
  cases unit with
  | half codePoint => exact nestingFrom_unicodeEscape codePoint level rest
  | scalar c =>
    have hwritten := escaping_render c
    generalize (JsonUnit.scalar c).render = written at hwritten ⊢
    cases hwritten with
    | short h => rfl
    | unicode h => exact nestingFrom_unicodeEscape _ level rest
    | raw hquote hbackslash hcontrol =>
      exact nestingFrom_quoted (by simp [hquote, hbackslash]) level rest

theorem nestingFrom_units (units : JsonText) (level : Nat) (rest : List Char) :
    nestingFrom .quoted level (units.flatMap JsonUnit.render ++ '"' :: rest)
      = nestingFrom .outside level rest := by
  induction units with
  | nil => rfl
  | cons unit more ih => rw [List.flatMap_cons, List.append_assoc, nestingFrom_unit, ih]

theorem nestingFrom_text (t : JsonText) (level : Nat) (rest : List Char) :
    nestingFrom .outside level (t.render ++ rest) = nestingFrom .outside level rest := by
  rw [render_append]
  exact nestingFrom_units t level rest

/-! ### Numbers -/

theorem isFlat_digitChar (d : Digit) : isFlat (Decimal.digitChar d) = true := by
  revert d
  decide

theorem isFlat_digits {digits : List Digit} {c : Char}
    (h : c ∈ digits.map Decimal.digitChar) : isFlat c = true := by
  obtain ⟨d, -, rfl⟩ := List.mem_map.mp h
  exact isFlat_digitChar d

/-- A numeral neither opens nor closes anything. -/
theorem isFlat_of_mem_text {n : Decimal.Numeral} {c : Char} (h : c ∈ n.text) :
    isFlat c = true := by
  obtain ⟨negative, whole, fraction, exponent⟩ := n
  simp only [Decimal.Numeral.text, List.mem_append] at h
  rcases h with ((hsign | hwhole) | hfraction) | hexponent
  · cases negative with
    | false => exact absurd hsign List.not_mem_nil
    | true =>
      rw [List.mem_singleton.mp hsign]
      decide
  · exact isFlat_digits hwhole
  · cases fraction with
    | nil => exact absurd hfraction List.not_mem_nil
    | cons d rest =>
      rcases List.mem_cons.mp hfraction with rfl | hdigits
      · decide
      · exact isFlat_digits hdigits
  · cases exponent with
    | none => exact absurd hexponent List.not_mem_nil
    | some e =>
      rcases List.mem_cons.mp hexponent with rfl | hsigned
      · decide
      · rcases List.mem_cons.mp hsigned with rfl | hdigits
        · cases e.negative <;> decide
        · exact isFlat_digits hdigits

/-! ### Documents -/

mutual

/-- How deep the arrays and objects of a document nest. -/
def depth : Json → Nat
  | .array items => depthOfItems items + 1
  | .object members => depthOfMembers members + 1
  | .null | .bool _ | .number _ | .text _ => 0

/-- How deep the deepest of several documents nests. -/
def depthOfItems : List Json → Nat
  | [] => 0
  | item :: rest => max item.depth (depthOfItems rest)

/-- How deep the deepest of several members nests. -/
def depthOfMembers : List (JsonText × Json) → Nat
  | [] => 0
  | (_, value) :: rest => max value.depth (depthOfMembers rest)

end

theorem nestingFrom_opening (c : Char) (h : c = '[' ∨ c = '\x7b') (level : Nat)
    (rest : List Char) :
    nestingFrom .outside level (c :: rest) = nestingFrom .outside (level + 1) rest := by
  rcases h with rfl | rfl <;> rfl

theorem nestingFrom_closing (c : Char) (h : c = ']' ∨ c = '\x7d') (level : Nat)
    (rest : List Char) :
    nestingFrom .outside (level + 1) (c :: rest)
      = max (level + 1) (nestingFrom .outside level rest) := by
  rcases h with rfl | rfl <;> rfl

theorem nestingFrom_separator (c : Char) (h : c = ',' ∨ c = ':') (level : Nat)
    (rest : List Char) :
    nestingFrom .outside level (c :: rest) = nestingFrom .outside level rest := by
  rcases h with rfl | rfl <;> rfl

mutual

/-- **One document** is as deep in its text as it is itself, whatever follows it. -/
theorem nestingFrom_renderBefore (j : Json) (level : Nat) (rest : List Char) :
    nestingFrom .outside level (j.renderBefore rest)
      = max (level + j.depth) (nestingFrom .outside level rest) := by
  have hlevel := le_nestingFrom .outside level rest
  match j with
  | .null =>
    rw [depth, Nat.add_zero, Nat.max_eq_right hlevel]
    rfl
  | .bool true | .bool false =>
    rw [depth, Nat.add_zero, Nat.max_eq_right hlevel]
    rfl
  | .number n =>
    rw [renderBefore, nestingFrom_flat fun c hc => isFlat_of_mem_text hc, depth, Nat.add_zero,
      Nat.max_eq_right hlevel]
  | .text t =>
    rw [renderBefore, nestingFrom_text, depth, Nat.add_zero, Nat.max_eq_right hlevel]
  | .array items =>
    rw [renderBefore, nestingFrom_opening '[' (.inl rfl), nestingFrom_renderItems items,
      nestingFrom_closing ']' (.inl rfl), depth]
    omega
  | .object members =>
    rw [renderBefore, nestingFrom_opening '\x7b' (.inr rfl), nestingFrom_renderMembers members,
      nestingFrom_closing '\x7d' (.inr rfl), depth]
    omega

theorem nestingFrom_renderItems (items : List Json) (level : Nat) (rest : List Char) :
    nestingFrom .outside level (renderItems items rest)
      = max (level + depthOfItems items) (nestingFrom .outside level rest) := by
  have hlevel := le_nestingFrom .outside level rest
  match items with
  | [] => rw [renderItems, depthOfItems, Nat.add_zero, Nat.max_eq_right hlevel]
  | [item] =>
    rw [renderItems, nestingFrom_renderBefore item, depthOfItems, depthOfItems, Nat.max_zero]
  | item :: next :: more =>
    rw [renderItems, nestingFrom_renderBefore item, nestingFrom_separator ',' (.inl rfl),
      nestingFrom_renderItems (next :: more), depthOfItems.eq_def (item :: _)]
    simp only
    omega

theorem nestingFrom_renderMembers (members : List (JsonText × Json)) (level : Nat)
    (rest : List Char) :
    nestingFrom .outside level (renderMembers members rest)
      = max (level + depthOfMembers members) (nestingFrom .outside level rest) := by
  have hlevel := le_nestingFrom .outside level rest
  match members with
  | [] => rw [renderMembers, depthOfMembers, Nat.add_zero, Nat.max_eq_right hlevel]
  | [(name, value)] =>
    rw [renderMembers, nestingFrom_text, nestingFrom_separator ':' (.inr rfl),
      nestingFrom_renderBefore value, depthOfMembers, depthOfMembers, Nat.max_zero]
  | (name, value) :: next :: more =>
    rw [renderMembers, nestingFrom_text, nestingFrom_separator ':' (.inr rfl),
      nestingFrom_renderBefore value, nestingFrom_separator ',' (.inl rfl),
      nestingFrom_renderMembers (next :: more), depthOfMembers.eq_def ((name, value) :: _)]
    simp only
    omega

end

/-- **Depth.**  The text of a document nests as deep as the document. -/
theorem nesting_compact (j : Json) : nesting j.compact = j.depth := by
  rw [nesting, compact, String.toList_ofList, render, nestingFrom_renderBefore]
  show max (0 + j.depth) 0 = j.depth
  omega

end Json

end BoundSql
