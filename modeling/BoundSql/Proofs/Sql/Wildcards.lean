import BoundSql.Proofs.Sql.Meaning

namespace BoundSql

/-!
# Sql — patterns

What a pattern matches, one rule for each way to go on with it.  A text that is surrounded by `%`
matches wherever it occurs; the text itself may hold wildcards too, and there is no character that
would take their meaning away.

* `Matches` — the text matches the pattern.
* `matches_append` — patterns one behind the other.
* `MatchPlace.Occurs` — a part of the text, in its place, matches the pattern.
* `Engine.MatchesTexts` — databases that join and match texts in this way.
-/

/-! ### Matching -/

/-- The text matches the pattern: `%` stands for any text, `_` for any one character, and every
    other character for itself. -/
inductive Matches : (pattern text : List Char) → Prop where
  | nil : Matches [] []
  | anything (skipped : List Char) {pattern text : List Char} (h : Matches pattern text) :
      Matches ('%' :: pattern) (skipped ++ text)
  | oneCharacter (c : Char) {pattern text : List Char} (h : Matches pattern text) :
      Matches ('_' :: pattern) (c :: text)
  | itself {c : Char} (hany : c ≠ '%') (hone : c ≠ '_') {pattern text : List Char}
      (h : Matches pattern text) : Matches (c :: pattern) (c :: text)

theorem matches_nil {text : List Char} : Matches [] text ↔ text = [] := by
  constructor
  · intro h
    cases h
    rfl
  · rintro rfl
    exact .nil

theorem matches_anything {pattern text : List Char} :
    Matches ('%' :: pattern) text ↔
      ∃ skipped rest, text = skipped ++ rest ∧ Matches pattern rest := by
  constructor
  · intro h
    cases h with
    | anything skipped h => exact ⟨skipped, _, rfl, h⟩
    | itself hany => exact absurd rfl hany
  · rintro ⟨skipped, rest, rfl, h⟩
    exact .anything skipped h

theorem matches_oneCharacter {pattern text : List Char} :
    Matches ('_' :: pattern) text ↔ ∃ c rest, text = c :: rest ∧ Matches pattern rest := by
  constructor
  · intro h
    cases h with
    | oneCharacter c h => exact ⟨c, _, rfl, h⟩
    | itself _ hone => exact absurd rfl hone
  · rintro ⟨c, rest, rfl, h⟩
    exact .oneCharacter c h

theorem matches_itself {c : Char} (hany : c ≠ '%') (hone : c ≠ '_') {pattern text : List Char} :
    Matches (c :: pattern) text ↔ ∃ rest, text = c :: rest ∧ Matches pattern rest := by
  constructor
  · intro h
    cases h with
    | anything => exact absurd rfl hany
    | oneCharacter => exact absurd rfl hone
    | itself _ _ h => exact ⟨_, rfl, h⟩
  · rintro ⟨rest, rfl, h⟩
    exact .itself hany hone h

/-- The matcher finds out what matches. -/
theorem wildcardMatch_iff (pattern text : List Char) :
    wildcardMatch pattern text = true ↔ Matches pattern text := by
  fun_induction wildcardMatch pattern text with
  | case1 text => rw [List.isEmpty_iff, matches_nil]
  | case2 pattern text ih =>
    rw [matches_anything, List.any_eq_true]
    constructor
    · rintro ⟨rest, hrest, h⟩
      obtain ⟨skipped, rfl⟩ := (List.mem_tails rest text).mp hrest
      exact ⟨skipped, rest, rfl, (ih rest).mp h⟩
    · rintro ⟨skipped, rest, rfl, h⟩
      exact ⟨rest, (List.mem_tails rest _).mpr ⟨skipped, rfl⟩, (ih rest).mpr h⟩
  | case3 pattern c text ih =>
    rw [ih, matches_oneCharacter]
    simp
  | case4 c pattern d text hany hone ih =>
    rw [Bool.and_eq_true, beq_iff_eq, ih, matches_itself (fun h => hany h) fun h => hone h]
    simp [eq_comm]
  | case5 c pattern hany =>
    refine iff_of_false Bool.false_ne_true fun h => ?_
    by_cases hone : c = '_'
    · subst hone
      simp [matches_oneCharacter] at h
    · simp [matches_itself hany hone] at h

/-- Patterns one behind the other match texts one behind the other. -/
theorem matches_append {first second text : List Char} :
    Matches (first ++ second) text ↔
      ∃ a b, text = a ++ b ∧ Matches first a ∧ Matches second b := by
  induction first generalizing text with
  | nil => simp [matches_nil]
  | cons c first ih =>
    rw [List.cons_append]
    by_cases hany : c = '%'
    · subst hany
      simp only [matches_anything, ih]
      constructor
      · rintro ⟨skipped, _, rfl, a, b, rfl, ha, hb⟩
        exact ⟨skipped ++ a, b, by rw [List.append_assoc], ⟨skipped, a, rfl, ha⟩, hb⟩
      · rintro ⟨_, b, rfl, ⟨skipped, a, rfl, ha⟩, hb⟩
        exact ⟨skipped, a ++ b, by rw [List.append_assoc], a, b, rfl, ha, hb⟩
    · by_cases hone : c = '_'
      · subst hone
        simp only [matches_oneCharacter, ih]
        constructor
        · rintro ⟨d, _, rfl, a, b, rfl, ha, hb⟩
          exact ⟨d :: a, b, rfl, ⟨d, a, rfl, ha⟩, hb⟩
        · rintro ⟨_, b, rfl, ⟨d, a, rfl, ha⟩, hb⟩
          exact ⟨d, a ++ b, rfl, a, b, rfl, ha, hb⟩
      · simp only [matches_itself hany hone, ih]
        constructor
        · rintro ⟨_, rfl, a, b, rfl, ha, hb⟩
          exact ⟨c :: a, b, rfl, ⟨a, rfl, ha⟩, hb⟩
        · rintro ⟨_, b, rfl, ⟨a, rfl, ha⟩, hb⟩
          exact ⟨a ++ b, rfl, a, b, rfl, ha, hb⟩

/-- Any text matches `%`. -/
theorem matches_percent (text : List Char) : Matches ['%'] text := by
  rw [matches_anything]
  exact ⟨text, [], by rw [List.append_nil], .nil⟩

/-- A text matches itself, whatever wildcards it holds. -/
theorem matches_self (text : List Char) : Matches text text := by
  induction text with
  | nil => exact .nil
  | cons c rest ih =>
    by_cases hany : c = '%'
    · subst hany
      exact .anything ['%'] ih
    · by_cases hone : c = '_'
      · subst hone
        exact .oneCharacter '_' ih
      · exact .itself hany hone ih

/-- Only the text itself matches a pattern without wildcards. -/
theorem matches_iff_eq {pattern : List Char} (hany : '%' ∉ pattern) (hone : '_' ∉ pattern)
    {text : List Char} : Matches pattern text ↔ text = pattern := by
  induction pattern generalizing text with
  | nil => exact matches_nil
  | cons c rest ih =>
    rw [List.mem_cons, not_or] at hany hone
    rw [matches_itself (Ne.symm hany.1) (Ne.symm hone.1)]
    simp [ih hany.2 hone.2]

/-! ### Places -/

namespace MatchPlace

/-- The text holds another one in the place. -/
def Finds : MatchPlace → (found text : List Char) → Prop
  | .anywhere, found, text => found <:+: text
  | .atStart, found, text => found <+: text
  | .atEnd, found, text => found <:+ text

/-- The text holds in the place something that matches the pattern. -/
def Occurs (place : MatchPlace) (pattern text : List Char) : Prop :=
  ∃ found, place.Finds found text ∧ Matches pattern found

/-- A text with others on the sides where anything may stand. -/
def around (place : MatchPlace) (before middle after : String) : String :=
  (if place.openBefore then before else "") ++ middle ++ (if place.openAfter then after else "")

theorem occurs_of_finds {place : MatchPlace} {pattern text : List Char}
    (h : place.Finds pattern text) : place.Occurs pattern text :=
  ⟨pattern, h, matches_self pattern⟩

/-- A pattern without wildcards occurs where it is found as it is. -/
theorem occurs_iff_finds {place : MatchPlace} {pattern text : List Char} (hany : '%' ∉ pattern)
    (hone : '_' ∉ pattern) : place.Occurs pattern text ↔ place.Finds pattern text := by
  constructor
  · rintro ⟨found, hfound, h⟩
    rwa [(matches_iff_eq hany hone).mp h] at hfound
  · exact occurs_of_finds

/-- **Surrounded patterns.**  With `%` on the sides where anything may stand, a text matches
    exactly if the pattern occurs in its place. -/
theorem matches_around (place : MatchPlace) (pattern : String) (text : List Char) :
    Matches (place.around "%" pattern "%").toList text ↔ place.Occurs pattern.toList text := by
  cases place with
  | anywhere =>
    have hpattern : (around .anywhere "%" pattern "%").toList
        = ['%'] ++ (pattern.toList ++ ['%']) := by
      simp [around, openBefore, openAfter]
    rw [hpattern, matches_append]
    constructor
    · rintro ⟨before, rest, rfl, -, h⟩
      obtain ⟨found, after, rfl, hfound, -⟩ := matches_append.mp h
      exact ⟨found, ⟨before, after, by rw [List.append_assoc]⟩, hfound⟩
    · rintro ⟨found, ⟨before, after, rfl⟩, hfound⟩
      exact ⟨before, found ++ after, by rw [List.append_assoc], matches_percent before,
        matches_append.mpr ⟨found, after, rfl, hfound, matches_percent after⟩⟩
  | atStart =>
    have hpattern : (around .atStart "%" pattern "%").toList = pattern.toList ++ ['%'] := by
      simp [around, openBefore, openAfter]
    rw [hpattern, matches_append]
    constructor
    · rintro ⟨found, after, rfl, hfound, -⟩
      exact ⟨found, ⟨after, rfl⟩, hfound⟩
    · rintro ⟨found, ⟨after, rfl⟩, hfound⟩
      exact ⟨found, after, rfl, hfound, matches_percent after⟩
  | atEnd =>
    have hpattern : (around .atEnd "%" pattern "%").toList = ['%'] ++ pattern.toList := by
      simp [around, openBefore, openAfter]
    rw [hpattern, matches_append]
    constructor
    · rintro ⟨before, found, rfl, -, hfound⟩
      exact ⟨found, ⟨before, rfl⟩, hfound⟩
    · rintro ⟨found, ⟨before, rfl⟩, hfound⟩
      exact ⟨before, found, rfl, matches_percent before, hfound⟩

end MatchPlace

/-! ### Databases -/

/-- A database that joins texts as texts and matches them with wildcards. -/
structure Engine.MatchesTexts {α : Type} (engine : Engine α) : Prop where
  concat (s t : String) : engine.concat (engine.literal (.string s)) (engine.literal (.string t))
    = engine.literal (.string (s ++ t))
  like (s pattern : String) :
    engine.like (engine.literal (.string s)) (engine.literal (.string pattern)) = true
      ↔ Matches pattern.toList s.toList

theorem Engine.plain_matchesTexts : Engine.plain.MatchesTexts where
  concat _ _ := rfl
  like s pattern := wildcardMatch_iff pattern.toList s.toList

end BoundSql
