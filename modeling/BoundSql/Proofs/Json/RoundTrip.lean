import BoundSql.Proofs.Json.Strings

namespace BoundSql

/-!
# Json — documents are read back

A value is read up to the first character that is not part of it.  Only a number needs to know
what follows, and what follows a value in the text of a document is a comma, a bracket, a brace
or the end.  The fuel of the reader is measured by the text: a value takes at most two calls for
each of its characters.

* `Json.Plain` — documents whose texts are strings and whose numbers are integers.
* `Json.Follows` — what may follow a value.
* `Json.readsBack_of_plain` — a plain document is read back, whatever may follow it.
* `Json.parse_compact` — the text of a plain document holds this document.
-/

/-! ### Digits -/

namespace Decimal

/-- No zero leads the digits prepended, unless there is only this one. -/
theorem exists_prependDigits {fuel n : Nat} (h : n < fuel) (rest : List Digit) :
    ∃ first more, prependDigits fuel n rest = first :: more
      ∧ (first = .zero → n = 0 ∧ more = rest) := by
  induction fuel generalizing n rest with
  | zero => omega
  | succ fuel ih =>
    rw [prependDigits]
    split
    · refine ⟨_, rest, rfl, fun hzero => ⟨?_, rfl⟩⟩
      have hlast := congrArg Fin.val hzero
      simp only [Digit.zero] at hlast
      omega
    · obtain ⟨first, more, hdigits, hzero⟩ :=
        ih (n := n / 10) (by omega) (⟨n % 10, Nat.mod_lt _ (by decide)⟩ :: rest)
      exact ⟨first, more, hdigits, fun hfirst => absurd (hzero hfirst).1 (by omega)⟩

/-- The digits of a number are one digit or begin with another one than zero. -/
theorem exists_digits (n : Nat) :
    ∃ first more, digits n = first :: more ∧ (first = .zero → more = []) := by
  obtain ⟨first, more, hdigits, hzero⟩ := exists_prependDigits (Nat.lt_succ_self n) []
  exact ⟨first, more, hdigits, fun hfirst => (hzero hfirst).2⟩

end Decimal

namespace Json

/-! ### What follows a value -/

/-- What may follow a value in a text. -/
inductive Follows : List Char → Prop where
  | nothing : Follows []
  | comma (rest : List Char) : Follows (',' :: rest)
  | bracket (rest : List Char) : Follows (']' :: rest)
  | brace (rest : List Char) : Follows ('\x7d' :: rest)

/-! ### Numbers -/

/-- The digits of a run are read up to what follows. -/
theorem spanDigits_map (digits : List Digit) {rest : List Char} (h : Follows rest) :
    spanDigits (digits.map Decimal.digitChar ++ rest) = (digits, rest) := by
  induction digits with
  | nil => cases h <;> rfl
  | cons d more ih =>
    rw [List.map_cons, List.cons_append, spanDigits, Decimal.digit?_digitChar]
    simp only [ih]

theorem readWhole_digits (n : Nat) {rest : List Char} (h : Follows rest) :
    readWhole ((Decimal.digits n).map Decimal.digitChar ++ rest)
      = some (Decimal.digits n, rest) := by
  rw [readWhole, spanDigits_map _ h]
  obtain ⟨first, more, hdigits, hzero⟩ := Decimal.exists_digits n
  rw [hdigits]
  cases more with
  | nil => rfl
  | cons second others =>
    have hfirst : first ≠ .zero := fun hfirst => List.cons_ne_nil _ _ (hzero hfirst)
    simp only [hfirst, if_false]

/-- A number without point and exponent is read after its sign. -/
theorem readUnsigned_digits (negative : Bool) (n : Nat) {rest : List Char} (h : Follows rest) :
    readUnsigned negative ((Decimal.digits n).map Decimal.digitChar ++ rest)
      = some (⟨negative, Decimal.digits n, [], none⟩, rest) := by
  have hfraction : readFraction rest = some ([], rest) := by cases h <;> rfl
  have hexponent : readExponent rest = some (none, rest) := by cases h <;> rfl
  rw [readUnsigned, readWhole_digits n h]
  simp only [Option.bind_eq_bind, Option.bind_some, hfraction, hexponent]

/-- The characters that an integer begins with. -/
inductive BeginsNumber : Char → Prop where
  | minus : BeginsNumber '-'
  | digit (d : Digit) : BeginsNumber (Decimal.digitChar d)

/-- The numeral of an integer, by its sign and the digits of its magnitude. -/
theorem text_integer (negative : Bool) (digits : List Digit) :
    (⟨negative, digits, [], none⟩ : Decimal.Numeral).text
      = (if negative then ['-'] else []) ++ digits.map Decimal.digitChar := by
  simp only [Decimal.Numeral.text, Decimal.Numeral.fractionText, Decimal.Numeral.exponentText,
    List.append_nil]

/-- An integer begins with a minus sign or a digit. -/
theorem exists_text_ofInt (n : Int) :
    ∃ c more, (Decimal.Numeral.ofInt n).text = c :: more ∧ BeginsNumber c := by
  obtain ⟨first, more, hdigits, -⟩ := Decimal.exists_digits n.natAbs
  rw [Decimal.Numeral.ofInt, text_integer, hdigits]
  split
  · exact ⟨_, _, rfl, .minus⟩
  · exact ⟨_, _, rfl, .digit first⟩

theorem digitChar_ne_blank (d : Digit) :
    isBlankCharacter (Decimal.digitChar d) = false ∧ Decimal.digitChar d ≠ ']' := by
  revert d
  decide

theorem digitChar_ne_minus (d : Digit) : Decimal.digitChar d ≠ '-' := by
  revert d
  decide

/-- An integer is read back. -/
theorem readNumber_text (n : Int) {rest : List Char} (h : Follows rest) :
    readNumber ((Decimal.Numeral.ofInt n).text ++ rest)
      = some (Decimal.Numeral.ofInt n, rest) := by
  have hread := fun negative => readUnsigned_digits negative n.natAbs h
  rw [Decimal.Numeral.ofInt, text_integer]
  cases hsign : decide (n < 0) with
  | true => exact hread true
  | false =>
    have hunsigned := hread false
    obtain ⟨first, more, hdigits, -⟩ := Decimal.exists_digits n.natAbs
    rw [hdigits] at hunsigned ⊢
    show readNumber (Decimal.digitChar first :: (more.map Decimal.digitChar ++ rest)) = _
    rw [readNumber]
    · exact hunsigned
    · intro cs hcs
      exact digitChar_ne_minus first (List.cons.inj hcs).1

/-! ### Values -/

/-- A document whose texts are strings and whose numbers are integers. -/
inductive Plain : Json → Prop where
  | null : Plain .null
  | bool (b : Bool) : Plain (.bool b)
  | int (n : Int) : Plain (.int n)
  | string (s : String) : Plain (.string s)
  | array {items : List Json} (h : ∀ item ∈ items, Plain item) : Plain (.array items)
  | object {members : List (JsonText × Json)}
      (hnames : ∀ m ∈ members, ∃ s, m.1 = JsonText.ofString s)
      (hvalues : ∀ m ∈ members, Plain m.2) : Plain (.object members)

/-- The names of a record are strings. -/
theorem plain_record {members : List (String × Json)} (h : ∀ m ∈ members, Plain m.2) :
    Plain (.record members) := by
  refine .object ?_ ?_
  all_goals
    intro m hm
    obtain ⟨member, hmember, rfl⟩ := List.mem_map.mp hm
  · exact ⟨member.1, rfl⟩
  · exact h member hmember

theorem plain_choice {name : String} {content : Json} (h : Plain content) :
    Plain (.record [(name, content)]) :=
  plain_record (List.forall_mem_singleton.mpr h)

/-- The document is read back from its characters, whatever may follow them.  Two calls for each
    character are enough. -/
def ReadsBack (j : Json) : Prop :=
  ∀ fuel rest, 2 * j.render.length ≤ fuel → Follows rest →
    readValue fuel (j.renderBefore rest) = some (j, rest)

/-- What a value begins with is no blank, and does not close an array. -/
theorem exists_renderBefore {j : Json} (h : Plain j) (rest : List Char) :
    ∃ c more, j.renderBefore rest = c :: more ∧ isBlankCharacter c = false ∧ c ≠ ']' := by
  cases h with
  | null => exact ⟨_, _, rfl, by decide, by decide⟩
  | bool b => cases b <;> exact ⟨_, _, rfl, by decide, by decide⟩
  | int n =>
    obtain ⟨c, more, htext, hbegins⟩ := exists_text_ofInt n
    refine ⟨c, more ++ rest, by rw [Json.int, renderBefore, htext, List.cons_append], ?_⟩
    cases hbegins with
    | minus => exact ⟨by decide, by decide⟩
    | digit d => exact digitChar_ne_blank d
  | string s => exact ⟨_, _, rfl, by decide, by decide⟩
  | array => exact ⟨_, _, rfl, by decide, by decide⟩
  | object => exact ⟨_, _, rfl, by decide, by decide⟩

theorem skipBlank_cons {c : Char} (h : isBlankCharacter c = false) (cs : List Char) :
    skipBlank (c :: cs) = c :: cs := by
  rw [skipBlank, List.dropWhile_cons_of_neg (by rw [h]; decide)]

/-- What begins as a number is read as one. -/
theorem readValue_number {c : Char} (h : BeginsNumber c) (fuel : Nat) (cs : List Char) :
    readValue (fuel + 1) (c :: cs)
      = (readNumber (c :: cs)).map fun (n, rest) => (.number n, rest) := by
  cases h with
  | minus => rfl
  -- The reader looks at the character itself, so that each digit is a case.
  | digit d => match d with
    | 0 | 1 | 2 | 3 | 4 | 5 | 6 | 7 | 8 | 9 => rfl

/-- A value whose characters are read with any fuel at all is read back. -/
theorem readsBack_of_succ {j : Json} (hlength : 0 < j.render.length)
    (h : ∀ fuel rest, Follows rest →
      readValue (fuel + 1) (j.renderBefore rest) = some (j, rest)) : ReadsBack j := by
  intro fuel rest hfuel hfollows
  obtain ⟨fuel, rfl⟩ : ∃ f, fuel = f + 1 := ⟨fuel - 1, by omega⟩
  exact h fuel rest hfollows

theorem readsBack_null : ReadsBack .null :=
  readsBack_of_succ (by decide) fun _ _ _ => rfl

theorem readsBack_bool (b : Bool) : ReadsBack (.bool b) := by
  cases b
  all_goals exact readsBack_of_succ (by decide) fun _ _ _ => rfl

theorem readsBack_string (s : String) : ReadsBack (.string s) := by
  refine readsBack_of_succ (Nat.succ_pos _) fun fuel rest _ => ?_
  rw [Json.string, renderBefore, render_append, readValue, skipBlank_cons (by decide)]
  simp only [readText_render, Option.map_some]

theorem readsBack_int (n : Int) : ReadsBack (.int n) := by
  obtain ⟨c, more, htext, hbegins⟩ := exists_text_ofInt n
  have hrender : ∀ rest, (Json.int n).renderBefore rest = c :: (more ++ rest) := fun rest => by
    rw [Json.int, renderBefore, htext, List.cons_append]
  refine readsBack_of_succ (by rw [render, hrender]; exact Nat.succ_pos _) fun fuel rest h => ?_
  have hread := readNumber_text n h
  rw [htext, List.cons_append] at hread
  rw [hrender, readValue_number hbegins, hread, Option.map_some, Json.int]

/-! ### Arrays and objects -/

theorem length_renderItems (item next : Json) (more : List Json) :
    (renderItems (item :: next :: more) []).length
      = item.render.length + (renderItems (next :: more) []).length + 1 := by
  rw [renderItems, renderBefore_eq, List.length_append, List.length_cons]
  omega

/-- The items of an array are read back one by one. -/
theorem readItems_renderItems {items : List Json} (hitems : items ≠ [])
    (h : ∀ item ∈ items, ReadsBack item) (fuel : Nat) (rest : List Char)
    (hfuel : 2 * (renderItems items []).length + 1 ≤ fuel) :
    readItems fuel (renderItems items (']' :: rest)) = some (items, rest) := by
  induction items generalizing fuel with
  | nil => exact absurd rfl hitems
  | cons item others ih =>
    obtain ⟨hitem, hothers⟩ := List.forall_mem_cons.mp h
    obtain ⟨fuel, rfl⟩ : ∃ f, fuel = f + 1 := ⟨fuel - 1, by omega⟩
    cases others with
    | nil =>
      rw [renderItems, ← render] at hfuel
      rw [renderItems, readItems, hitem fuel _ (by omega) (.bracket rest)]
      rfl
    | cons next more =>
      rw [length_renderItems] at hfuel
      have hrest := ih (List.cons_ne_nil next more) hothers fuel (by omega)
      rw [renderItems, readItems, hitem fuel _ (by omega) (.comma _)]
      simp only [Option.bind_eq_bind, Option.bind_some, skipBlank_cons (c := ',') (by decide),
        hrest]

/-- An array whose next token does not close it is read item by item. -/
theorem readValue_bracket {c : Char} (hblank : isBlankCharacter c = false) (hbracket : c ≠ ']')
    (fuel : Nat) (cs : List Char) :
    readValue (fuel + 1) ('[' :: c :: cs)
      = (readItems fuel (c :: cs)).map fun (items, rest) => (.array items, rest) := by
  rw [readValue, skipBlank_cons (by decide)]
  simp only [skipBlank_cons hblank]
  split
  · next hclosed => exact absurd (List.cons.inj hclosed).1 hbracket
  · rfl

/-- An array is read back if its items are. -/
theorem readsBack_array {items : List Json} (hplain : ∀ item ∈ items, Plain item)
    (h : ∀ item ∈ items, ReadsBack item) : ReadsBack (.array items) := by
  intro fuel rest hfuel hfollows
  have hlength : (Json.array items).render.length = (renderItems items []).length + 2 := by
    rw [render, renderBefore, List.length_cons, ← List.nil_append (']' :: []),
      ← renderItems_append, List.length_append, List.length_singleton]
  obtain ⟨fuel, rfl⟩ : ∃ f, fuel = f + 1 := ⟨fuel - 1, by omega⟩
  cases items with
  | nil => rfl
  | cons item others =>
    have hitems := readItems_renderItems (List.cons_ne_nil item others) h fuel rest (by omega)
    obtain ⟨c, more, htext, hblank, hbracket⟩ :
        ∃ c more, renderItems (item :: others) (']' :: rest) = c :: more
          ∧ isBlankCharacter c = false ∧ c ≠ ']' := by
      have hitem := hplain item List.mem_cons_self
      cases others <;> exact exists_renderBefore hitem _
    rw [htext] at hitems
    rw [renderBefore, htext, readValue_bracket hblank hbracket, hitems, Option.map_some]

theorem length_renderMembers (name : JsonText) (value : Json) (next : JsonText × Json)
    (more : List (JsonText × Json)) :
    (renderMembers ((name, value) :: next :: more) []).length
      = (renderMembers [(name, value)] []).length + (renderMembers (next :: more) []).length + 1 := by
  rw [renderMembers, renderMembers, renderBefore_eq, ← render]
  simp only [List.length_append, List.length_cons]
  omega

theorem length_renderMembers_singleton (name : JsonText) (value : Json) :
    value.render.length < (renderMembers [(name, value)] []).length := by
  rw [renderMembers, ← render, List.length_append, List.length_cons]
  omega

/-- The members of an object are read back one by one. -/
theorem readMembers_renderMembers {members : List (JsonText × Json)} (hmembers : members ≠ [])
    (hnames : ∀ m ∈ members, ∃ s, m.1 = JsonText.ofString s)
    (h : ∀ m ∈ members, ReadsBack m.2) (fuel : Nat) (rest : List Char)
    (hfuel : 2 * (renderMembers members []).length + 1 ≤ fuel) :
    readMembers fuel (renderMembers members ('\x7d' :: rest)) = some (members, rest) := by
  induction members generalizing fuel with
  | nil => exact absurd rfl hmembers
  | cons member others ih =>
    obtain ⟨name, value⟩ := member
    obtain ⟨⟨s, hname⟩, hothernames⟩ := List.forall_mem_cons.mp hnames
    simp only at hname
    subst hname
    obtain ⟨hvalue, hothers⟩ := List.forall_mem_cons.mp h
    simp only at hvalue
    obtain ⟨fuel, rfl⟩ : ∃ f, fuel = f + 1 := ⟨fuel - 1, by omega⟩
    have hlength := length_renderMembers_singleton (JsonText.ofString s) value
    cases others with
    | nil =>
      have hread := hvalue fuel _ (by omega) (.brace rest)
      rw [renderMembers, render_append, readMembers, skipBlank_cons (by decide)]
      simp only [Option.bind_eq_bind, Option.bind_some, readText_render,
        skipBlank_cons (c := ':') (by decide), hread, skipBlank_cons (c := '\x7d') (by decide)]
    | cons next more =>
      rw [length_renderMembers] at hfuel
      have hrest := ih (List.cons_ne_nil next more) hothernames hothers fuel (by omega)
      have hread := hvalue fuel _ (by omega)
        (.comma (renderMembers (next :: more) ('\x7d' :: rest)))
      rw [renderMembers, render_append, readMembers, skipBlank_cons (by decide)]
      simp only [Option.bind_eq_bind, Option.bind_some, readText_render,
        skipBlank_cons (c := ':') (by decide), hread, skipBlank_cons (c := ',') (by decide), hrest]

/-- An object that has a member is read member by member. -/
theorem readValue_brace (fuel : Nat) (cs : List Char) :
    readValue (fuel + 1) ('\x7b' :: '"' :: cs)
      = (readMembers fuel ('"' :: cs)).map fun (members, rest) => (.object members, rest) := rfl

/-- An object is read back if its members are. -/
theorem readsBack_object {members : List (JsonText × Json)}
    (hnames : ∀ m ∈ members, ∃ s, m.1 = JsonText.ofString s)
    (h : ∀ m ∈ members, ReadsBack m.2) : ReadsBack (.object members) := by
  intro fuel rest hfuel hfollows
  have hlength : (Json.object members).render.length = (renderMembers members []).length + 2 := by
    rw [render, renderBefore, List.length_cons, ← List.nil_append ('\x7d' :: []),
      ← renderMembers_append, List.length_append, List.length_singleton]
  obtain ⟨fuel, rfl⟩ : ∃ f, fuel = f + 1 := ⟨fuel - 1, by omega⟩
  cases members with
  | nil => rfl
  | cons member others =>
    have hmembers :=
      readMembers_renderMembers (List.cons_ne_nil member others) hnames h fuel rest (by omega)
    obtain ⟨more, htext⟩ :
        ∃ more, renderMembers (member :: others) ('\x7d' :: rest) = '"' :: more := by
      cases others <;> exact ⟨_, rfl⟩
    rw [htext] at hmembers
    rw [renderBefore, htext, readValue_brace, hmembers, Option.map_some]

/-! ### Documents -/

/-- **Values.**  A plain document is read back from its characters, whatever may follow them. -/
theorem readsBack_of_plain {j : Json} (h : Plain j) : ReadsBack j := by
  induction h with
  | null => exact readsBack_null
  | bool b => exact readsBack_bool b
  | int n => exact readsBack_int n
  | string s => exact readsBack_string s
  | array hitems ih => exact readsBack_array hitems ih
  | object hnames _ ih => exact readsBack_object hnames ih

/-- **Round trip.**  The text of a plain document holds this document. -/
theorem parse_compact {j : Json} (h : Plain j) : parse j.compact = some j := by
  have hread := readsBack_of_plain h (2 * j.render.length + 2) [] (by omega) .nothing
  rw [← render] at hread
  rw [parse, compact, String.toList_ofList, parseChars, hread]
  rfl

end Json

end BoundSql
