import BoundSql.Proofs.Sql.Scanner

namespace BoundSql.Sql

/-!
# Sql — the grammar of conditions

Which trees a run of tokens can be read as.  What compares terms binds tighter than a
negation, a negation tighter than `AND`, and `AND` tighter than `OR`; parentheses make a
condition of any kind one that can be negated.

* `Atom`, `Operand`, `Predicate`, `Condition` — the trees, over what stands in the place of
  placeholders.
* `Derives` — the grammar.
* `Derives.unique` — a run of tokens is read in at most one way.
-/

/-! ### Trees -/

/-- What a condition compares; `β` is what stands for a placeholder. -/
inductive Atom (β : Type) where
  | column (c : Column)
  | given (b : β)
  | null
  | true
  | number (n : Nat)
  | text (s : String)
  deriving DecidableEq

/-- Atoms with `||` between them. -/
inductive Operand (β : Type) where
  | atom (a : Atom β)
  | concat (first : Atom β) (rest : Operand β)
  deriving DecidableEq

/-- A condition without connectives and negations. -/
inductive Predicate (β : Type) where
  | compare (op : Comparison) (left right : Operand β)
  | nullTest (isNull : Bool) (operand : Operand β)
  | like (negated : Bool) (operand pattern : Operand β)
  /-- Membership in a list, which has a first member. -/
  | within (negated : Bool) (operand first : Operand β) (rest : List (Operand β))
  deriving DecidableEq

/-- A condition as it is read. -/
inductive Condition (β : Type) where
  | predicate (p : Predicate β)
  | not (c : Condition β)
  | join (op : Connective) (left right : Condition β)
  deriving DecidableEq

/-! ### Spellings of predicates -/

def Atom.tokens : Atom String → List Token
  | .column ⟨name, none⟩ => [.name name]
  | .column ⟨name, some qualifier⟩ => [.name qualifier, .dot, .name name]
  | .given name => [.placeholder name]
  | .null => [.keyword .null]
  | .true => [.keyword .true]
  | .number n => [.number n]
  | .text s => [.text s]

def Operand.tokens : Operand String → List Token
  | .atom a => a.tokens
  | .concat first rest => first.tokens ++ .concat :: rest.tokens

/-- The word in front of a negated predicate's own word. -/
def negation (negated : Bool) : List Token :=
  if negated then [.keyword .not] else []

/-- The members of a list behind its first one. -/
def listTokens : List (Operand String) → List Token
  | [] => []
  | operand :: rest => .comma :: (operand.tokens ++ listTokens rest)

namespace Predicate

/-- The tokens of a predicate behind its operand. -/
def tailTokens : Predicate String → List Token
  | .compare op _ right => .comparison op :: right.tokens
  | .nullTest isNull _ => .keyword .is :: (negation (!isNull) ++ [.keyword .null])
  | .like negated _ pattern => negation negated ++ .keyword .like :: pattern.tokens
  | .within negated _ first rest =>
      negation negated ++ .keyword .within :: .opening
        :: (first.tokens ++ (listTokens rest ++ [.closing]))

/-- The operand that a predicate begins with. -/
def operand : Predicate String → Operand String
  | .compare _ operand _ | .nullTest _ operand | .like _ operand _ | .within _ operand _ _ =>
    operand

def tokens (p : Predicate String) : List Token := p.operand.tokens ++ p.tailTokens

end Predicate

/-! ### Derivations -/

/-- How tightly a condition binds. -/
inductive Level where
  /-- Conditions joined by one connective. -/
  | chain (op : Connective)
  /-- What can be negated. -/
  | negation

/-- The level of what a connective joins. -/
def Level.part : Connective → Level
  | .or => .chain .and
  | .and => .negation

/-- The tokens can be read as the condition, at a level. -/
inductive Derives : Level → List Token → Condition String → Prop where
  | predicate (p : Predicate String) : Derives .negation p.tokens (.predicate p)
  | grouped {ts : List Token} {c : Condition String} (h : Derives (.chain .or) ts c) :
      Derives .negation (.opening :: (ts ++ [.closing])) c
  | not {ts : List Token} {c : Condition String} (h : Derives .negation ts c) :
      Derives .negation (.keyword .not :: ts) (.not c)
  | single {op : Connective} {ts : List Token} {c : Condition String}
      (h : Derives (Level.part op) ts c) : Derives (.chain op) ts c
  | joined {op : Connective} {ls rs : List Token} {l r : Condition String}
      (hl : Derives (Level.part op) ls l) (hr : Derives (.chain op) rs r) :
      Derives (.chain op) (ls ++ .keyword (.logical op) :: rs) (.join op l r)

/-- What can be negated is a condition at every level. -/
theorem Derives.chain {ts : List Token} {c : Condition String} (h : Derives .negation ts c)
    (op : Connective) : Derives (.chain op) ts c := by
  have hand : Derives (.chain .and) ts c := .single h
  cases op with
  | and => exact hand
  | or => exact .single hand

/-- Conditions with a connective between them are a condition. -/
theorem Derives.join {op : Connective} {ls rs : List Token} {l r : Condition String}
    (hl : Derives .negation ls l) (hr : Derives .negation rs r) :
    Derives (.chain .or) (ls ++ .keyword (.logical op) :: rs) (.join op l r) := by
  cases op with
  | or => exact .joined (hl.chain .and) (hr.chain .or)
  | and =>
    have hand : Derives (.chain .and) (ls ++ .keyword (.logical .and) :: rs) (.join .and l r) :=
      .joined hl (hr.chain .and)
    exact .single hand

/-! ### Unambiguity

Every tree is read up to a token that does not go on with it.  So two readings of one run of
tokens that end before such tokens end at the same place, with the same tree. -/

/-- What follows goes on neither with a name nor with an operand. -/
def EndsOperand (rest : List Token) : Prop :=
  rest.head? ≠ some .dot ∧ rest.head? ≠ some .concat

theorem Atom.tokens_unique {a b : Atom String} {rest rest' : List Token}
    (h : a.tokens ++ rest = b.tokens ++ rest') (hrest : rest.head? ≠ some .dot)
    (hrest' : rest'.head? ≠ some .dot) : a = b ∧ rest = rest' := by
  rcases a with ⟨n, _ | q⟩ | n | _ | _ | n | s <;>
    rcases b with ⟨n', _ | q'⟩ | n' | _ | _ | n' | s' <;>
    simp only [Atom.tokens, List.cons_append, List.nil_append, List.cons.injEq, Token.name.injEq,
      Token.placeholder.injEq, Token.number.injEq, Token.text.injEq, reduceCtorEq, false_and,
      true_and] at h
  case column.none.column.none => simp [h]
  case column.none.column.some =>
    -- The first name would be followed by the dot of the second.
    rw [h.2] at hrest
    exact absurd rfl hrest
  case column.some.column.none =>
    rw [← h.2] at hrest'
    exact absurd rfl hrest'
  all_goals simp_all

theorem Operand.tokens_unique {a b : Operand String} {rest rest' : List Token}
    (h : a.tokens ++ rest = b.tokens ++ rest') (hrest : EndsOperand rest)
    (hrest' : EndsOperand rest') : a = b ∧ rest = rest' := by
  induction a generalizing b with
  | atom x =>
    cases b with
    | atom y =>
      obtain ⟨rfl, hrests⟩ := Atom.tokens_unique h hrest.1 hrest'.1
      exact ⟨rfl, hrests⟩
    | concat y s =>
      -- What follows the atom would begin with `||`.
      simp only [Operand.tokens, List.append_assoc, List.cons_append] at h
      obtain ⟨-, rfl⟩ := Atom.tokens_unique h hrest.1 (by simp)
      exact absurd rfl hrest.2
  | concat x r ih =>
    cases b with
    | atom y =>
      simp only [Operand.tokens, List.append_assoc, List.cons_append] at h
      obtain ⟨-, rfl⟩ := Atom.tokens_unique h (by simp) hrest'.1
      exact absurd rfl hrest'.2
    | concat y s =>
      simp only [Operand.tokens, List.append_assoc, List.cons_append] at h
      obtain ⟨rfl, hrests⟩ := Atom.tokens_unique h (by simp) (by simp)
      obtain ⟨rfl, hend⟩ := ih (List.cons.inj hrests).2
      exact ⟨rfl, hend⟩

/-- A list is read up to the parenthesis that closes it. -/
theorem endsOperand_listTokens (operands : List (Operand String)) (rest : List Token) :
    EndsOperand (listTokens operands ++ .closing :: rest) := by
  cases operands <;> simp [listTokens, EndsOperand]

theorem listTokens_unique {as bs : List (Operand String)} {rest rest' : List Token}
    (h : listTokens as ++ .closing :: rest = listTokens bs ++ .closing :: rest') :
    as = bs ∧ rest = rest' := by
  induction as generalizing bs with
  | nil =>
    cases bs with
    | nil => simpa [listTokens] using h
    | cons b bs => simp [listTokens] at h
  | cons a as ih =>
    cases bs with
    | nil => simp [listTokens] at h
    | cons b bs =>
      simp only [listTokens, List.cons_append, List.append_assoc, List.cons.injEq, true_and] at h
      -- A member ends before the next comma or the closing parenthesis.
      obtain ⟨rfl, hmore⟩ := Operand.tokens_unique h (endsOperand_listTokens as rest)
        (endsOperand_listTokens bs rest')
      obtain ⟨rfl, hrests⟩ := ih hmore
      exact ⟨rfl, hrests⟩

namespace Predicate

theorem endsOperand_tail (p : Predicate String) (rest : List Token) :
    EndsOperand (p.tailTokens ++ rest) := by
  rcases p with _ | ⟨_ | _, _⟩ | ⟨_ | _, _, _⟩ | ⟨_ | _, _, _, _⟩ <;>
    simp [tailTokens, negation, EndsOperand]

/-- Behind its operand a predicate begins with its own word, which tells its kind. -/
theorem tail_unique {p q : Predicate String} {rest rest' : List Token}
    (hoperand : p.operand = q.operand) (h : p.tailTokens ++ rest = q.tailTokens ++ rest')
    (hrest : EndsOperand rest) (hrest' : EndsOperand rest') : p = q ∧ rest = rest' := by
  rcases p with ⟨op, a, b⟩ | ⟨_ | _, a⟩ | ⟨_ | _, a, b⟩ | ⟨_ | _, a, b, bs⟩ <;>
    rcases q with ⟨op', a', b'⟩ | ⟨_ | _, a'⟩ | ⟨_ | _, a', b'⟩ | ⟨_ | _, a', b', bs'⟩ <;>
    simp only [tailTokens, negation, operand, Bool.not_true, Bool.not_false, if_true,
      Bool.false_eq_true, if_false, List.nil_append, List.cons_append, List.append_assoc,
      List.cons.injEq, Token.comparison.injEq, Token.keyword.injEq, reduceCtorEq, false_and,
      and_false, true_and] at h hoperand
  case compare.compare =>
    obtain ⟨rfl, hright⟩ := h
    obtain ⟨rfl, hrests⟩ := Operand.tokens_unique hright hrest hrest'
    exact ⟨by rw [hoperand], hrests⟩
  case nullTest.false.nullTest.false | nullTest.true.nullTest.true =>
    exact ⟨by rw [hoperand], h⟩
  case like.false.like.false | like.true.like.true =>
    obtain ⟨rfl, hrests⟩ := Operand.tokens_unique h hrest hrest'
    exact ⟨by rw [hoperand], hrests⟩
  case within.false.within.false | within.true.within.true =>
    obtain ⟨rfl, hmore⟩ := Operand.tokens_unique h (endsOperand_listTokens bs rest)
      (endsOperand_listTokens bs' rest')
    obtain ⟨rfl, hrests⟩ := listTokens_unique hmore
    exact ⟨by rw [hoperand], hrests⟩

theorem tokens_unique {p q : Predicate String} {rest rest' : List Token}
    (h : p.tokens ++ rest = q.tokens ++ rest') (hrest : EndsOperand rest)
    (hrest' : EndsOperand rest') : p = q ∧ rest = rest' := by
  simp only [tokens, List.append_assoc] at h
  obtain ⟨hoperand, htail⟩ := Operand.tokens_unique h (endsOperand_tail p rest)
    (endsOperand_tail q rest')
  exact tail_unique hoperand htail hrest hrest'

/-- A predicate begins neither with a parenthesis nor with a negation. -/
theorem head?_tokens (p : Predicate String) (rest : List Token) :
    (p.tokens ++ rest).head? ≠ some .opening ∧
      (p.tokens ++ rest).head? ≠ some (.keyword .not) := by
  rw [tokens]
  rcases p.operand with ⟨⟨_, _ | _⟩ | _ | _ | _ | _ | _⟩ |
    ⟨⟨_, _ | _⟩ | _ | _ | _ | _ | _, _⟩ <;> simp [Operand.tokens, Atom.tokens]

end Predicate

namespace Level

/-- The tokens that can stand behind a condition and do not go on with it. -/
def follow : Level → List Token
  | .negation => [.closing, .keyword (.logical .or), .keyword (.logical .and)]
  | .chain .and => [.closing, .keyword (.logical .or)]
  | .chain .or => [.closing]

/-- What follows does not go on with a condition. -/
def Ends (level : Level) (rest : List Token) : Prop :=
  ∀ t ∈ rest.head?, t ∈ level.follow

theorem ends_nil (level : Level) : level.Ends [] := by simp [Ends]

theorem Ends.part {op : Connective} {rest : List Token} (h : (chain op).Ends rest) :
    (part op).Ends rest := by
  intro t ht
  have hmem := h t ht
  cases op with
  | or => exact List.mem_append_left [.keyword (.logical .or)] hmem
  | and => exact List.mem_append_left [.keyword (.logical .and)] hmem

theorem ends_connective (op : Connective) (rest : List Token) :
    (part op).Ends (.keyword (.logical op) :: rest) := by
  cases op <;> simp [Ends, Level.part, follow]

theorem not_ends_connective {op : Connective} {rest : List Token} :
    ¬ (chain op).Ends (.keyword (.logical op) :: rest) := by
  cases op <;> simp [Ends, follow]

theorem Ends.operand {rest : List Token} (h : negation.Ends rest) : EndsOperand rest := by
  constructor <;>
  · intro hhead
    have hmem := h _ hhead
    simp [follow] at hmem

end Level

/-- **Unambiguity, in front of what follows.**  Where two readings of the same tokens end, no
    token goes on with them; then they end at the same place and read the same condition. -/
theorem Derives.prefix_unique {level : Level} {ts : List Token} {c : Condition String}
    (h : Derives level ts c) {ts' rest rest' : List Token} {c' : Condition String}
    (h' : Derives level ts' c') (heq : ts ++ rest = ts' ++ rest') (hrest : level.Ends rest)
    (hrest' : level.Ends rest') : c = c' ∧ rest = rest' := by
  -- The first token tells the rules for what can be negated apart; a chain goes on exactly as
  -- long as its connective follows.
  induction h generalizing ts' rest rest' c' with
  | predicate p =>
    cases h' with
    | predicate q =>
      obtain ⟨rfl, hrests⟩ := Predicate.tokens_unique heq hrest.operand hrest'.operand
      exact ⟨rfl, hrests⟩
    | grouped h' => exact absurd (by rw [heq]; rfl) (p.head?_tokens rest).1
    | not h' => exact absurd (by rw [heq]; rfl) (p.head?_tokens rest).2
  | grouped h ih =>
    cases h' with
    | predicate q => exact absurd (by rw [← heq]; rfl) (q.head?_tokens rest').1
    | grouped h' =>
      simp only [List.cons_append, List.append_assoc, List.cons.injEq, true_and,
        List.nil_append] at heq
      obtain ⟨rfl, hclosing⟩ := ih h' heq (by simp [Level.Ends, Level.follow])
        (by simp [Level.Ends, Level.follow])
      exact ⟨rfl, (List.cons.inj hclosing).2⟩
    | not h' => simp at heq
  | not h ih =>
    cases h' with
    | predicate q => exact absurd (by rw [← heq]; rfl) (q.head?_tokens rest').2
    | grouped h' => simp at heq
    | not h' =>
      obtain ⟨rfl, hrests⟩ := ih h' (List.cons.inj heq).2 hrest hrest'
      exact ⟨rfl, hrests⟩
  | single h ih =>
    cases h' with
    | single h' => exact ih h' heq hrest.part hrest'.part
    | joined hl hr =>
      -- The one part would be followed by the connective, which goes on with the chain.
      rw [List.append_assoc, List.cons_append] at heq
      obtain ⟨-, rfl⟩ := ih hl heq hrest.part (Level.ends_connective _ _)
      exact absurd hrest Level.not_ends_connective
  | joined hl hr ihl ihr =>
    rw [List.append_assoc, List.cons_append] at heq
    cases h' with
    | single h' =>
      obtain ⟨-, rfl⟩ := ihl h' heq (Level.ends_connective _ _) hrest'.part
      exact absurd hrest' Level.not_ends_connective
    | joined hl' hr' =>
      rw [List.append_assoc, List.cons_append] at heq
      obtain ⟨rfl, hmore⟩ := ihl hl' heq (Level.ends_connective _ _) (Level.ends_connective _ _)
      obtain ⟨rfl, hrests⟩ := ihr hr' (List.cons.inj hmore).2 hrest hrest'
      exact ⟨rfl, hrests⟩

/-- **Unambiguity.**  A run of tokens is read as one condition at most. -/
theorem Derives.unique {level : Level} {ts : List Token} {c c' : Condition String}
    (h : Derives level ts c) (h' : Derives level ts c') : c = c' :=
  (h.prefix_unique h' rfl level.ends_nil level.ends_nil).1

/-- The text is read as the condition, for a sign in front of placeholders. -/
def Parses (sigil : Char) (text : String) (c : Condition String) : Prop :=
  ∃ tokens, scan sigil text.toList = some tokens ∧ Derives (.chain .or) tokens c

theorem Parses.unique {sigil : Char} {text : String} {c c' : Condition String}
    (h : Parses sigil text c) (h' : Parses sigil text c') : c = c' := by
  obtain ⟨ts, hscan, hderives⟩ := h
  obtain ⟨ts', hscan', hderives'⟩ := h'
  rw [hscan, Option.some.injEq] at hscan'
  subst hscan'
  exact hderives.unique hderives'

end BoundSql.Sql
