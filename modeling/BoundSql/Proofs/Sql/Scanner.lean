import BoundSql.Clause.Lowering
import BoundSql.Settings

namespace BoundSql.Sql

/-!
# Sql — the tokens of a condition

The text of a condition as a database reads it: a run of tokens, each of them as long as it
can be, with blanks between them where they would run together.  The only thing a reader has
to be told is the sign in front of placeholders.

* `scan` — the tokens of a text, if it has any.
* `Reads` — a text is read as given tokens, whatever comes after it.
* `reads_word`, `reads_placeholder`, `reads_keyword` — the tokens that have to be kept apart.
-/

/-! ### Tokens -/

/-- A word with a meaning of its own, in whatever case its letters are. -/
inductive Keyword where
  | logical (op : Connective)
  | not
  | is
  | null
  | like
  | within
  | true
  deriving DecidableEq

namespace Keyword

def spelling : Keyword → String
  | .logical op => op.sql
  | .not => "NOT"
  | .is => "IS"
  | .null => "NULL"
  | .like => "LIKE"
  | .within => "IN"
  | .true => "TRUE"

def all : List Keyword :=
  [.logical .and, .logical .or, .not, .is, .null, .like, .within, .true]

/-- The keyword that a word is. -/
def ofWord? (word : String) : Option Keyword :=
  all.find? (Expr.sameName word ·.spelling)

theorem ofWord?_spelling (k : Keyword) : ofWord? k.spelling = some k := by
  rcases k with op | _ | _ | _ | _ | _ | _
  · cases op <;> decide
  all_goals decide

end Keyword

/-- What a condition is written in. -/
inductive Token where
  /-- A name that is no keyword. -/
  | name (s : String)
  | keyword (k : Keyword)
  | number (n : Nat)
  /-- The name of a parameter, without the sign in front of it. -/
  | placeholder (name : String)
  /-- What stands between quotes. -/
  | text (s : String)
  | comparison (op : Comparison)
  | concat
  | dot
  | comma
  | opening
  | closing
  deriving DecidableEq

/-- May the character stand in a name? -/
def isWordCharacter (c : Char) : Bool := isAlphabetic c || isNumeric c || c == '_'

/-- May a name begin with the character? -/
def isNameStart (c : Char) : Bool := isAlphabetic c || c == '_'

/-- What a run of word characters is: a keyword, a name, or a number. -/
def wordToken? (word : List Char) : Option Token :=
  match Keyword.ofWord? (String.ofList word), word with
  | some k, _ => some (.keyword k)
  | none, [] => none
  | none, c :: _ =>
      if isNameStart c then some (.name (String.ofList word))
      else (word.mapM Decimal.digit?).map fun digits => .number (Decimal.value digits)

/-- Is the string a name as it stands: a word that begins like one and is no keyword? -/
def isIdentifier (s : String) : Bool :=
  match s.toList with
  | [] => false
  | c :: rest => isNameStart c && rest.all isWordCharacter && (Keyword.ofWord? s).isNone

/-! ### Scanning -/

/-- The token that is being read. -/
inductive Pending where
  | nothing
  | word (read : List Char)
  | placeholder (read : List Char)
  | quoted (read : List Char)
  /-- A quote has been met: the end of the text, or the first half of a quote in it. -/
  | unquoted (read : List Char)
  | bar
  | symbol (t : Token)

namespace Pending

/-- The pending token with one more character, if that goes on with it. -/
def extend? : Pending → Char → Option Pending
  | .word read, c => if isWordCharacter c then some (.word (read ++ [c])) else none
  | .placeholder read, c =>
      if isWordCharacter c then some (.placeholder (read ++ [c])) else none
  | .quoted read, c => some (if c = '\'' then .unquoted read else .quoted (read ++ [c]))
  | .unquoted read, c => if c = '\'' then some (.quoted (read ++ [c])) else none
  | .bar, c => if c = '|' then some (.symbol .concat) else none
  | .symbol (.comparison .lt), c =>
      if c = '=' then some (.symbol (.comparison .le))
      else if c = '>' then some (.symbol (.comparison .ne))
      else none
  | .symbol (.comparison .gt), c =>
      if c = '=' then some (.symbol (.comparison .ge)) else none
  | _, _ => none

theorem extend?_word (read : List Char) (c : Char) :
    (word read).extend? c = if isWordCharacter c then some (.word (read ++ [c])) else none := rfl

theorem extend?_placeholder (read : List Char) (c : Char) :
    (placeholder read).extend? c
      = if isWordCharacter c then some (.placeholder (read ++ [c])) else none := rfl

/-- What begins with a character, for a sign in front of placeholders. -/
def begin? (sigil c : Char) : Option Pending :=
  if c = sigil then some (.placeholder [])
  else if isWordCharacter c then some (.word [c])
  else if isBlank c then some .nothing
  else
    match c with
    | '\'' => some (.quoted [])
    | '|' => some .bar
    | '.' => some (.symbol .dot)
    | ',' => some (.symbol .comma)
    | '(' => some (.symbol .opening)
    | ')' => some (.symbol .closing)
    | '=' => some (.symbol (.comparison .eq))
    | '<' => some (.symbol (.comparison .lt))
    | '>' => some (.symbol (.comparison .gt))
    | _ => none

theorem begin?_sigil (sigil : Char) : begin? sigil sigil = some (.placeholder []) := if_pos rfl

theorem begin?_word {sigil c : Char} (hne : c ≠ sigil) (hc : isWordCharacter c = true) :
    begin? sigil c = some (.word [c]) := (if_neg hne).trans (if_pos hc)

theorem begin?_blank {sigil : Char} (hne : ' ' ≠ sigil) : begin? sigil ' ' = some .nothing :=
  if_neg hne

/-- The pending token as it is, if it is complete. -/
def finish? : Pending → Option (List Token)
  | .nothing => some []
  | .word read => (wordToken? read).map ([·])
  | .placeholder read => if read.isEmpty then none else some [.placeholder (String.ofList read)]
  | .unquoted read => some [.text (String.ofList read)]
  | .symbol t => some [t]
  | .quoted _ | .bar => none

end Pending

/-- The tokens of a text behind a pending one.  A character that does not go on with the
    pending token ends it and begins the next. -/
def scanFrom (sigil : Char) : Pending → List Char → Option (List Token)
  | pending, [] => pending.finish?
  | pending, c :: rest =>
      match pending.extend? c with
      | some longer => scanFrom sigil longer rest
      | none => do
          let read ← pending.finish?
          let next ← Pending.begin? sigil c
          let tokens ← scanFrom sigil next rest
          some (read ++ tokens)

/-- The tokens of a text. -/
def scan (sigil : Char) (text : List Char) : Option (List Token) :=
  scanFrom sigil .nothing text

/-! ### Signs for placeholders -/

/-- The characters of a condition that are neither letters nor digits nor blank. -/
def syntaxCharacters : List Char :=
  ['_', '.', '\'', '(', ')', ',', '=', '<', '>', '|', '%']

/-- A sign that cannot be taken for anything else in a condition. -/
structure IsSigil (sigil : Char) : Prop where
  symbol : Settings.isSymbol sigil = true
  apart : sigil ∉ syntaxCharacters

namespace IsSigil

variable {sigil : Char}

theorem not_word (h : IsSigil sigil) : isWordCharacter sigil = false := by
  have hsymbol := h.symbol
  have hline : sigil ≠ '_' := by
    intro hline
    exact h.apart (by simp [hline, syntaxCharacters])
  simp only [Settings.isSymbol, Bool.not_eq_true', Bool.or_eq_false_iff] at hsymbol
  simp [isWordCharacter, hsymbol.1.1, hsymbol.1.2, hline]

theorem ne_of_word (h : IsSigil sigil) {c : Char} (hc : isWordCharacter c = true) : c ≠ sigil := by
  rintro rfl
  rw [h.not_word] at hc
  exact Bool.noConfusion hc

theorem ne_blank (h : IsSigil sigil) : ' ' ≠ sigil := by
  rintro rfl
  exact absurd h.symbol (by decide)

theorem ne_syntax (h : IsSigil sigil) {c : Char} (hc : c ∈ syntaxCharacters) : c ≠ sigil := by
  rintro rfl
  exact h.apart hc

end IsSigil

/-! ### Reading on -/

/-- The characters that end every token but a text. -/
def boundaryCharacters : List Char := [' ', ',', '.', ')']

/-- A text that does not go on with a token in front of it. -/
def Boundary (text : List Char) : Prop :=
  ∀ c ∈ text.head?, c ∈ boundaryCharacters

@[simp] theorem boundary_nil : Boundary [] := by simp [Boundary]

@[simp] theorem boundary_cons {c : Char} {rest : List Char} :
    Boundary (c :: rest) ↔ c ∈ boundaryCharacters := by simp [Boundary]

/-- The text is read as the tokens, whatever it is followed by, as long as the last token does
    not go on. -/
def Reads (sigil : Char) (text : List Char) (tokens : List Token) : Prop :=
  ∀ rest, Boundary rest → scan sigil (text ++ rest) = (scan sigil rest).map (tokens ++ ·)

/-- A pending token that can take no boundary character. -/
def Pending.Closed (pending : Pending) : Prop :=
  ∀ c ∈ boundaryCharacters, pending.extend? c = none

variable {sigil : Char}

/-- Between tokens the next character begins one. -/
theorem scan_cons (c : Char) (rest : List Char) :
    scan sigil (c :: rest) =
      (Pending.begin? sigil c).bind fun first => scanFrom sigil first rest := by
  show ((Pending.begin? sigil c).bind fun first => (scanFrom sigil first rest).bind some) = _
  simp

/-- A complete token that does not go on stands in front of what is read after it. -/
theorem scanFrom_finished {pending : Pending} {tokens : List Token} {rest : List Char}
    (hfinish : pending.finish? = some tokens)
    (hends : ∀ c ∈ rest.head?, pending.extend? c = none) :
    scanFrom sigil pending rest = (scan sigil rest).map (tokens ++ ·) := by
  cases rest with
  | nil =>
    show pending.finish? = (some []).map (tokens ++ ·)
    simp [hfinish]
  | cons c rest =>
    -- The next character begins a token on both sides.
    have hnone : pending.extend? c = none := hends c (by simp)
    rw [scan_cons]
    simp only [scanFrom, hnone, hfinish]
    cases Pending.begin? sigil c with
    | none => rfl
    | some next => cases hnext : scanFrom sigil next rest <;> simp [hnext]

/-- A text is read as one token if its first character begins a token that the others
    complete. -/
theorem reads_of_pending {c : Char} (text : List Char) {first : Pending} (last : Pending)
    {tokens : List Token} (hbegin : Pending.begin? sigil c = some first)
    (hmore : ∀ rest, scanFrom sigil first (text ++ rest) = scanFrom sigil last rest)
    (hclosed : last.Closed) (hfinish : last.finish? = some tokens) :
    Reads sigil (c :: text) tokens := by
  intro rest hrest
  -- What follows begins with a boundary, which does not go on with the last state.
  have hends : ∀ d ∈ rest.head?, last.extend? d = none := fun d hd => hclosed d (hrest d hd)
  rw [← scanFrom_finished hfinish hends, ← hmore rest, List.cons_append, scan_cons, hbegin]
  rfl

theorem Reads.append {a b : List Char} {ta tb : List Token} (ha : Reads sigil a ta)
    (hb : Reads sigil b tb) (hapart : ∀ rest, Boundary rest → Boundary (b ++ rest)) :
    Reads sigil (a ++ b) (ta ++ tb) := by
  intro rest hrest
  -- To the first text the second one is a part of what follows.
  rw [List.append_assoc, ha _ (hapart rest hrest), hb rest hrest, Option.map_map]
  congr 1
  funext tokens
  exact (List.append_assoc ta tb tokens).symm

/-! ### Words -/

/-- Characters that all go on with a pending token are read into it. -/
theorem scanFrom_run {wrap : List Char → Pending} {text : List Char}
    (hextend : ∀ read, ∀ c ∈ text, (wrap read).extend? c = some (wrap (read ++ [c])))
    (read rest : List Char) :
    scanFrom sigil (wrap read) (text ++ rest) = scanFrom sigil (wrap (read ++ text)) rest := by
  induction text generalizing read with
  | nil => simp
  | cons c text ih =>
    have hc := hextend read c List.mem_cons_self
    have hmore := ih (fun read d hd => hextend read d (List.mem_cons_of_mem c hd)) (read ++ [c])
    rw [List.cons_append, scanFrom, hc]
    show scanFrom sigil (wrap (read ++ [c])) (text ++ rest) = _
    rw [hmore, List.append_assoc, List.singleton_append]

/-- Word characters go on with a word. -/
theorem scanFrom_word (read : List Char) {word : List Char}
    (hword : ∀ c ∈ word, isWordCharacter c = true) (rest : List Char) :
    scanFrom sigil (.word read) (word ++ rest) = scanFrom sigil (.word (read ++ word)) rest := by
  refine scanFrom_run (fun read c hc => ?_) read rest
  simp [Pending.extend?_word, hword c hc]

/-- Word characters go on with the name of a parameter. -/
theorem scanFrom_placeholder (read : List Char) {word : List Char}
    (hword : ∀ c ∈ word, isWordCharacter c = true) (rest : List Char) :
    scanFrom sigil (.placeholder read) (word ++ rest)
      = scanFrom sigil (.placeholder (read ++ word)) rest := by
  refine scanFrom_run (fun read c hc => ?_) read rest
  simp [Pending.extend?_placeholder, hword c hc]

/-- No boundary character belongs to a word. -/
theorem not_word_of_boundary {c : Char} (hc : c ∈ boundaryCharacters) :
    isWordCharacter c = false := by
  have hall : boundaryCharacters.all (!isWordCharacter ·) = true := by decide
  simpa using List.all_eq_true.mp hall c hc

theorem closed_word (read : List Char) : (Pending.word read).Closed := by
  intro c hc
  simp [Pending.extend?_word, not_word_of_boundary hc]

theorem closed_placeholder (read : List Char) : (Pending.placeholder read).Closed := by
  intro c hc
  simp [Pending.extend?_placeholder, not_word_of_boundary hc]

/-- A word is read as the token that it is. -/
theorem reads_word (hsigil : IsSigil sigil) {word : List Char} {token : Token}
    (hword : ∀ c ∈ word, isWordCharacter c = true) (htoken : wordToken? word = some token)
    (hne : word ≠ []) : Reads sigil word [token] := by
  cases word with
  | nil => exact absurd rfl hne
  | cons c rest =>
    have hc : isWordCharacter c = true := hword c List.mem_cons_self
    have hrest : ∀ d ∈ rest, isWordCharacter d = true :=
      fun d hd => hword d (List.mem_cons_of_mem c hd)
    have hbegin := Pending.begin?_word (hsigil.ne_of_word hc) hc
    refine reads_of_pending rest _ hbegin (scanFrom_word [c] hrest) (closed_word _) ?_
    simp [Pending.finish?, htoken]

theorem reads_keyword (hsigil : IsSigil sigil) (k : Keyword) :
    Reads sigil k.spelling.toList [.keyword k] := by
  refine reads_word hsigil (List.all_eq_true.mp ?_) ?_ ?_
  · rcases k with op | _ | _ | _ | _ | _ | _
    · cases op <;> decide
    all_goals decide
  · simp [wordToken?, Keyword.ofWord?_spelling]
  · rcases k with op | _ | _ | _ | _ | _ | _
    · cases op <;> decide
    all_goals decide

theorem reads_name (hsigil : IsSigil sigil) {s : String} (hs : isIdentifier s = true) :
    Reads sigil s.toList [.name s] := by
  unfold isIdentifier at hs
  split at hs
  · exact Bool.noConfusion hs
  · rename_i c rest hlist
    simp only [Bool.and_eq_true, Option.isNone_iff_eq_none, List.all_eq_true] at hs
    obtain ⟨⟨hstart, hrest⟩, hkeyword⟩ := hs
    have hc : isWordCharacter c = true := by
      simp only [isNameStart, Bool.or_eq_true] at hstart
      rcases hstart with h | h <;> simp [isWordCharacter, h]
    -- It is a run of word characters, and as it is no keyword it is a name.
    refine reads_word hsigil ?_ ?_ (by simp [hlist])
    · rw [hlist]
      simpa [hc] using hrest
    · have hself : String.ofList (c :: rest) = s := by rw [← hlist, String.ofList_toList]
      simp [hlist, wordToken?, hself, hkeyword, hstart]

/-- A placeholder is read as the name behind the sign. -/
theorem reads_placeholder {name : String} (hne : name.toList ≠ [])
    (hname : ∀ c ∈ name.toList, isWordCharacter c = true) :
    Reads sigil (sigil :: name.toList) [.placeholder name] := by
  refine reads_of_pending _ _ (Pending.begin?_sigil sigil) (scanFrom_placeholder [] hname)
    (closed_placeholder _) ?_
  simp [Pending.finish?, hne]

/-! ### Blanks, symbols and texts -/

/-- A blank in front of a text changes nothing. -/
theorem Reads.blank (hsigil : IsSigil sigil) {text : List Char} {tokens : List Token}
    (h : Reads sigil text tokens) : Reads sigil (' ' :: text) tokens := by
  intro rest hrest
  rw [← h rest hrest, List.cons_append, scan_cons, Pending.begin?_blank hsigil.ne_blank]
  rfl

/-- A character of the syntax begins what it begins for any other sign. -/
theorem begin?_of_mem (hsigil : IsSigil sigil) {c : Char} (hc : c ∈ syntaxCharacters) :
    Pending.begin? sigil c = Pending.begin? '@' c := by
  have hother : c ≠ '@' := by
    rintro rfl
    exact absurd hc (by decide)
  simp only [Pending.begin?, hsigil.ne_syntax hc, hother, if_false]

theorem reads_nil : Reads sigil [] [] := by
  intro rest _
  simp

/-- A character that is a token by itself can stand in front of anything. -/
theorem Reads.symbol {c : Char} {t : Token} {text : List Char} {tokens : List Token}
    (hbegin : Pending.begin? sigil c = some (.symbol t))
    (halone : ∀ d, (Pending.symbol t).extend? d = none) (h : Reads sigil text tokens) :
    Reads sigil (c :: text) (t :: tokens) := by
  intro rest hrest
  have hfinish : (Pending.symbol t).finish? = some [t] := rfl
  rw [List.cons_append, scan_cons, hbegin, Option.bind_some,
    scanFrom_finished hfinish fun d _ => halone d, h rest hrest, Option.map_map]
  rfl

theorem Reads.opening (hsigil : IsSigil sigil) {text : List Char} {tokens : List Token}
    (h : Reads sigil text tokens) : Reads sigil ('(' :: text) (.opening :: tokens) :=
  h.symbol (begin?_of_mem hsigil (by decide)) fun _ => rfl

theorem Reads.closing (hsigil : IsSigil sigil) {text : List Char} {tokens : List Token}
    (h : Reads sigil text tokens) : Reads sigil (')' :: text) (.closing :: tokens) :=
  h.symbol (begin?_of_mem hsigil (by decide)) fun _ => rfl

theorem Reads.comma (hsigil : IsSigil sigil) {text : List Char} {tokens : List Token}
    (h : Reads sigil text tokens) : Reads sigil (',' :: text) (.comma :: tokens) :=
  h.symbol (begin?_of_mem hsigil (by decide)) fun _ => rfl

theorem Reads.dot (hsigil : IsSigil sigil) {text : List Char} {tokens : List Token}
    (h : Reads sigil text tokens) : Reads sigil ('.' :: text) (.dot :: tokens) :=
  h.symbol (begin?_of_mem hsigil (by decide)) fun _ => rfl

theorem reads_comparison (hsigil : IsSigil sigil) (op : Comparison) :
    Reads sigil op.sql.toList [.comparison op] := by
  have hclosed : (Pending.symbol (.comparison op)).Closed := by
    have hall : boundaryCharacters.all
        (fun c => ((Pending.symbol (.comparison op)).extend? c).isNone) = true := by
      cases op <;> decide
    intro c hc
    simpa using List.all_eq_true.mp hall c hc
  -- Each spelling is a first character, which begins a comparison, and at most one more.
  cases op with
  | eq | lt | gt =>
    exact reads_of_pending [] _ (begin?_of_mem hsigil (by decide)) (fun _ => rfl) hclosed rfl
  | ne =>
    exact reads_of_pending ['>'] _ (begin?_of_mem hsigil (by decide)) (fun _ => rfl) hclosed rfl
  | le | ge =>
    exact reads_of_pending ['='] _ (begin?_of_mem hsigil (by decide)) (fun _ => rfl) hclosed rfl

theorem reads_concat (hsigil : IsSigil sigil) : Reads sigil ['|', '|'] [.concat] := by
  refine reads_of_pending ['|'] (.symbol .concat) (begin?_of_mem hsigil (by decide))
    (fun _ => rfl) ?_ rfl
  intro c _
  rfl

/-- Between quotes all but a quote belongs to the text. -/
theorem scanFrom_quoted (read : List Char) {text : List Char} (hquote : '\'' ∉ text)
    (rest : List Char) :
    scanFrom sigil (.quoted read) (text ++ rest) = scanFrom sigil (.quoted (read ++ text)) rest := by
  refine scanFrom_run (fun read c hc => ?_) read rest
  have hc : c ≠ '\'' := by
    rintro rfl
    exact hquote hc
  simp [Pending.extend?, hc]

theorem reads_text (hsigil : IsSigil sigil) {s : String} (hquote : '\'' ∉ s.toList) :
    Reads sigil ('\'' :: (s.toList ++ ['\''])) [.text s] := by
  refine reads_of_pending _ (.unquoted s.toList) (begin?_of_mem hsigil (by decide)) ?_ ?_ ?_
  · intro rest
    rw [List.append_assoc, scanFrom_quoted [] hquote]
    rfl
  · intro c hc
    revert c
    simp [boundaryCharacters, Pending.extend?]
  · simp [Pending.finish?]

end BoundSql.Sql
