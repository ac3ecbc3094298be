import BoundSql.Proofs.Sql.Grammar

namespace BoundSql.Sql

/-!
# Sql — texts of conditions over values

A condition is read with names in it, and the names stand for values.  A text spells a
condition over values if it is read as one whose names stand for them; the texts of larger
conditions are put together from those of their parts.

* `Condition.resolve` — a condition with its names replaced by what they stand for.
* `Condition.SpelledBy` — the text of a condition.
* `Condition.SpelledBy.join`, `Condition.SpelledBy.grouped` — texts of larger conditions.
-/

/-! ### Names replaced -/

variable {β : Type} (lookup : String → Option β)

def Atom.resolve : Atom String → Option (Atom β)
  | .column c => some (.column c)
  | .given name => (lookup name).map .given
  | .null => some .null
  | .true => some .true
  | .number n => some (.number n)
  | .text s => some (.text s)

def Operand.resolve : Operand String → Option (Operand β)
  | .atom a => (a.resolve lookup).map .atom
  | .concat first rest => do
      let first ← first.resolve lookup
      let rest ← rest.resolve
      some (.concat first rest)

def Predicate.resolve : Predicate String → Option (Predicate β)
  | .compare op left right => do
      let left ← left.resolve lookup
      let right ← right.resolve lookup
      some (.compare op left right)
  | .nullTest isNull operand => (operand.resolve lookup).map (.nullTest isNull)
  | .like negated operand pattern => do
      let operand ← operand.resolve lookup
      let pattern ← pattern.resolve lookup
      some (.like negated operand pattern)
  | .within negated operand first rest => do
      let operand ← operand.resolve lookup
      let first ← first.resolve lookup
      let rest ← rest.mapM (Operand.resolve lookup)
      some (.within negated operand first rest)

/-- The condition with each name replaced by what it stands for, if all of them stand for
    something. -/
def Condition.resolve : Condition String → Option (Condition β)
  | .predicate p => (p.resolve lookup).map .predicate
  | .not c => c.resolve.map .not
  | .join op left right => do
      let left ← left.resolve
      let right ← right.resolve
      some (.join op left right)

/-! ### Spelled texts -/

variable (sigil : Char)

def Atom.SpelledBy (text : List Char) (a : Atom β) : Prop :=
  ∃ read : Atom String, Reads sigil text read.tokens ∧ read.resolve lookup = some a

def Operand.SpelledBy (text : List Char) (operand : Operand β) : Prop :=
  ∃ read : Operand String,
    Reads sigil text read.tokens ∧ read.resolve lookup = some operand

def Predicate.SpelledBy (text : List Char) (p : Predicate β) : Prop :=
  ∃ read : Predicate String, Reads sigil text read.tokens ∧ read.resolve lookup = some p

/-- The text is read as the condition at a level, once its names are replaced. -/
def Condition.SpelledBy (level : Level) (text : List Char) (c : Condition β) : Prop :=
  ∃ tokens read, Reads sigil text tokens ∧ Derives level tokens read ∧
    read.resolve lookup = some c

variable {lookup sigil}

theorem boundary_blank (text : List Char) (rest : List Char) :
    Boundary rest → Boundary ((' ' :: text) ++ rest) := by
  intro _
  simp [boundaryCharacters]

/-- Texts with a blank between them are read one after the other. -/
theorem Reads.then {a b : List Char} {ta tb : List Token} (hsigil : IsSigil sigil)
    (ha : Reads sigil a ta) (hb : Reads sigil b tb) :
    Reads sigil (a ++ ' ' :: b) (ta ++ tb) :=
  ha.append (hb.blank hsigil) (boundary_blank b)

/-- A closing parenthesis ends what stands in front of it. -/
theorem Reads.closed {a : List Char} {ta : List Token} (hsigil : IsSigil sigil)
    (ha : Reads sigil a ta) : Reads sigil (a ++ [')']) (ta ++ [.closing]) :=
  ha.append (reads_nil.closing hsigil) fun rest _ => by simp [boundaryCharacters]

theorem Atom.SpelledBy.atom {a : List Char} {x : Atom β} (h : x.SpelledBy lookup sigil a) :
    Operand.SpelledBy lookup sigil a (.atom x) := by
  obtain ⟨read, hreads, hresolve⟩ := h
  exact ⟨.atom read, hreads, by simp [Operand.resolve, hresolve]⟩

/-- An atom with `||` in front of an operand. -/
theorem Atom.SpelledBy.concat {a b : List Char} {x : Atom β} {y : Operand β}
    (hsigil : IsSigil sigil) (hx : x.SpelledBy lookup sigil a)
    (hy : y.SpelledBy lookup sigil b) :
    Operand.SpelledBy lookup sigil (a ++ ' ' :: (['|', '|'] ++ ' ' :: b)) (.concat x y) := by
  obtain ⟨first, hfirst, hresolve⟩ := hx
  obtain ⟨rest, hrest, hrestResolve⟩ := hy
  refine ⟨.concat first rest, ?_, by simp [Operand.resolve, hresolve, hrestResolve]⟩
  exact hfirst.then hsigil ((reads_concat hsigil).then hsigil hrest)

/-- Operands behind the first one of a list, each with a comma in front of it. -/
def ListSpelledBy (lookup : String → Option β) (sigil : Char) (text : List Char)
    (operands : List (Operand β)) : Prop :=
  ∃ read : List (Operand String), Reads sigil text (listTokens read) ∧
    read.mapM (Operand.resolve lookup) = some operands ∧
    ∀ rest, Boundary rest → Boundary (text ++ rest)

theorem ListSpelledBy.nil : ListSpelledBy lookup sigil [] ([] : List (Operand β)) :=
  ⟨[], reads_nil, rfl, fun _ h => h⟩

theorem ListSpelledBy.cons {a b : List Char} {x : Operand β} {xs : List (Operand β)}
    (hsigil : IsSigil sigil) (hx : x.SpelledBy lookup sigil a)
    (hxs : ListSpelledBy lookup sigil b xs) :
    ListSpelledBy lookup sigil (',' :: ' ' :: (a ++ b)) (x :: xs) := by
  obtain ⟨operand, hoperand, hresolve⟩ := hx
  obtain ⟨rest, hrest, hrestResolve, hapart⟩ := hxs
  refine ⟨operand :: rest, ?_, ?_, fun _ _ => by simp [boundaryCharacters]⟩
  · exact ((hoperand.append hrest hapart).blank hsigil).comma hsigil
  · simp [hresolve, hrestResolve]

namespace Operand.SpelledBy

variable {a b : List Char} {x y : Operand β}

theorem compare (hsigil : IsSigil sigil) (op : Comparison) (hx : SpelledBy lookup sigil a x)
    (hy : SpelledBy lookup sigil b y) :
    Predicate.SpelledBy lookup sigil (a ++ ' ' :: (op.sql.toList ++ ' ' :: b))
      (.compare op x y) := by
  obtain ⟨left, hleft, hleftResolve⟩ := hx
  obtain ⟨right, hright, hrightResolve⟩ := hy
  refine ⟨.compare op left right, ?_, by simp [Predicate.resolve, hleftResolve, hrightResolve]⟩
  exact hleft.then hsigil ((reads_comparison hsigil op).then hsigil hright)

/-- A text of words in front of a predicate's own word: nothing, or the negation. -/
theorem reads_negated (hsigil : IsSigil sigil) (negated : Bool) {ts : List Token}
    (hb : Reads sigil b ts) :
    Reads sigil ((if negated then "NOT ".toList else []) ++ b) (negation negated ++ ts) := by
  cases negated with
  | false => exact hb
  | true => exact (reads_keyword hsigil .not).then hsigil hb

theorem nullTest (hsigil : IsSigil sigil) (isNull : Bool) (hx : SpelledBy lookup sigil a x) :
    Predicate.SpelledBy lookup sigil
      (a ++ (if isNull then " IS NULL" else " IS NOT NULL").toList) (.nullTest isNull x) := by
  obtain ⟨operand, hoperand, hresolve⟩ := hx
  refine ⟨.nullTest isNull operand, ?_, by simp [Predicate.resolve, hresolve]⟩
  -- Behind the operand: `IS`, perhaps a negation, and `NULL`.
  have hword := reads_negated hsigil (!isNull) (reads_keyword hsigil .null)
  have htail := hoperand.then hsigil ((reads_keyword hsigil .is).then hsigil hword)
  cases isNull with
  | true => exact htail
  | false => exact htail

theorem like (hsigil : IsSigil sigil) (negated : Bool) (hx : SpelledBy lookup sigil a x)
    (hy : SpelledBy lookup sigil b y) :
    Predicate.SpelledBy lookup sigil
      (a ++ ((if negated then " NOT LIKE " else " LIKE ").toList ++ b)) (.like negated x y) := by
  obtain ⟨operand, hoperand, hresolve⟩ := hx
  obtain ⟨pattern, hpattern, hpatternResolve⟩ := hy
  refine ⟨.like negated operand pattern, ?_, by
    simp [Predicate.resolve, hresolve, hpatternResolve]⟩
  have hword := reads_negated hsigil negated ((reads_keyword hsigil .like).then hsigil hpattern)
  have htail := hoperand.then hsigil hword
  cases negated with
  | true => exact htail
  | false => exact htail

theorem within (hsigil : IsSigil sigil) (negated : Bool) {c : List Char} {ys : List (Operand β)}
    (hx : SpelledBy lookup sigil a x) (hy : SpelledBy lookup sigil b y)
    (hys : ListSpelledBy lookup sigil c ys) :
    Predicate.SpelledBy lookup sigil
      (a ++ ((if negated then " NOT IN (" else " IN (").toList ++ (b ++ c ++ [')'])))
      (.within negated x y ys) := by
  obtain ⟨operand, hoperand, hresolve⟩ := hx
  obtain ⟨first, hfirst, hfirstResolve⟩ := hy
  obtain ⟨rest, hrest, hrestResolve, hapart⟩ := hys
  refine ⟨.within negated operand first rest, ?_, by
    simp [Predicate.resolve, hresolve, hfirstResolve, hrestResolve]⟩
  -- The list is closed by its parenthesis, so that what follows it does not matter.
  have hlist := ((hfirst.append hrest hapart).closed hsigil).opening hsigil
  rw [List.append_assoc first.tokens] at hlist
  have hword := reads_negated hsigil negated ((reads_keyword hsigil .within).then hsigil hlist)
  have htail := hoperand.then hsigil hword
  cases negated with
  | true => exact htail
  | false => exact htail

end Operand.SpelledBy

namespace Condition.SpelledBy

variable {a b : List Char} {x y : Condition β}

theorem predicate {p : Predicate β} (h : p.SpelledBy lookup sigil a) :
    SpelledBy lookup sigil .negation a (.predicate p) := by
  obtain ⟨read, hreads, hresolve⟩ := h
  exact ⟨read.tokens, .predicate read, hreads, .predicate read, by
    simp [Condition.resolve, hresolve]⟩

/-- What can be negated is a condition. -/
theorem chain (h : SpelledBy lookup sigil .negation a x) :
    SpelledBy lookup sigil (.chain .or) a x := by
  obtain ⟨tokens, read, hreads, hderives, hresolve⟩ := h
  exact ⟨tokens, read, hreads, hderives.chain .or, hresolve⟩

/-- A condition in parentheses can be negated. -/
theorem grouped (hsigil : IsSigil sigil) (h : SpelledBy lookup sigil (.chain .or) a x) :
    SpelledBy lookup sigil .negation ('(' :: (a ++ [')'])) x := by
  obtain ⟨tokens, read, hreads, hderives, hresolve⟩ := h
  exact ⟨_, read, (hreads.closed hsigil).opening hsigil, .grouped hderives, hresolve⟩

theorem not (hsigil : IsSigil sigil) (h : SpelledBy lookup sigil .negation a x) :
    SpelledBy lookup sigil .negation ("NOT".toList ++ ' ' :: a) (.not x) := by
  obtain ⟨tokens, read, hreads, hderives, hresolve⟩ := h
  exact ⟨_, .not read, (reads_keyword hsigil .not).then hsigil hreads, .not hderives, by
    simp [Condition.resolve, hresolve]⟩

theorem join (hsigil : IsSigil sigil) (op : Connective)
    (hx : SpelledBy lookup sigil .negation a x) (hy : SpelledBy lookup sigil .negation b y) :
    SpelledBy lookup sigil (.chain .or) (a ++ ' ' :: (op.sql.toList ++ ' ' :: b))
      (.join op x y) := by
  obtain ⟨ls, l, hleft, hderivesLeft, hresolveLeft⟩ := hx
  obtain ⟨rs, r, hright, hderivesRight, hresolveRight⟩ := hy
  have hreads := hleft.then hsigil ((reads_keyword hsigil (.logical op)).then hsigil hright)
  exact ⟨_, .join op l r, hreads, hderivesLeft.join hderivesRight, by
    simp [Condition.resolve, hresolveLeft, hresolveRight]⟩

/-- **One reading.**  A text that spells a condition is read as one condition, and the names in
    that one stand for the values. -/
theorem parses {text : String} (h : SpelledBy lookup sigil (.chain .or) text.toList x) :
    ∃ read, (∀ c, Parses sigil text c ↔ c = read) ∧ read.resolve lookup = some x := by
  obtain ⟨tokens, read, hreads, hderives, hresolve⟩ := h
  have hscan : scan sigil text.toList = some tokens := by
    -- Nothing follows the whole text.
    have hend := hreads [] boundary_nil
    have hnil : scan sigil [] = some [] := rfl
    rwa [List.append_nil, hnil, Option.map_some, List.append_nil] at hend
  have hparses : Parses sigil text read := ⟨tokens, hscan, hderives⟩
  refine ⟨read, fun c => ⟨fun hc => hc.unique hparses, ?_⟩, hresolve⟩
  rintro rfl
  exact hparses

end Condition.SpelledBy

end BoundSql.Sql
