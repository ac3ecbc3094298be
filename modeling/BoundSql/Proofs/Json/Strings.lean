import BoundSql.Json.Parser
import BoundSql.Json.Printer
import Mathlib.Data.List.Basic

namespace BoundSql

/-!
# Json — strings between quotes

A character between quotes is written in one of three ways: with a short escape, with an escape of
four digits, or as it is.  All three are read back as the character, so that every string is read
back as it was, whatever follows its closing quote.

* `Json.Escaping` — the three ways to write a character.
* `Json.readText_render` — a string is read back.
-/

/-! ### Hexadecimal digits -/

/-- The digits of a padded number are digits. -/
theorem exists_of_mem_hexPadded {width n : Nat} {c : Char} (h : c ∈ hexPadded width n) :
    ∃ value, value < 16 ∧ c = hexDigit value := by
  induction width generalizing n with
  | zero => exact absurd h List.not_mem_nil
  | succ width ih =>
    rcases List.mem_append.mp h with hfirst | hlast
    · exact ih hfirst
    · exact ⟨n % 16, Nat.mod_lt _ (by omega), List.mem_singleton.mp hlast⟩

/-- Four digits of a number that has no more are read back. -/
theorem hexNumber?_hexPadded {n : Nat} (h : n < 65536) : hexNumber? (hexPadded 4 n) = some n := by
  have hdigit : ∀ m, hexValue? (hexDigit (m % 16)) = some (m % 16) := fun m =>
    hexValue?_hexDigit (Nat.mod_lt m (by omega))
  simp only [hexPadded, List.nil_append, List.cons_append, hexNumber?, List.foldlM_cons,
    List.foldlM_nil, hdigit, Option.map_some, Option.bind_eq_bind, Option.bind_some]
  show some _ = some n
  rw [Option.some_inj]
  omega

namespace Json

/-! ### Characters -/

/-- How a character is written between quotes. -/
inductive Escaping (c : Char) : List Char → Prop where
  | short {letter : Char} (h : shortEscape? letter = some c) : Escaping c ['\\', letter]
  | unicode (h : c < ' ') : Escaping c (unicodeEscape c.toNat)
  | raw (hquote : c ≠ '"') (hbackslash : c ≠ '\\') (hcontrol : ¬ c < ' ') : Escaping c [c]

/-- Every character is written in one of these ways. -/
theorem escaping_render (c : Char) : Escaping c (JsonUnit.scalar c).render := by
  rw [JsonUnit.render]
  split_ifs with hquote hbackslash hbackspace hformFeed hlineFeed hreturn htab hcontrol
  · exact .short (by rw [hquote]; rfl)
  · exact .short (by rw [hbackslash]; rfl)
  · exact .short (by rw [hbackspace]; rfl)
  · exact .short (by rw [hformFeed]; rfl)
  · exact .short (by rw [hlineFeed]; rfl)
  · exact .short (by rw [hreturn]; rfl)
  · exact .short (by rw [htab]; rfl)
  · exact .unicode hcontrol
  · exact .raw hquote hbackslash hcontrol

/-- A control is written by its code point and read back from it. -/
theorem unitOfCodePoint_toNat {c : Char} (h : c < ' ') :
    c.toNat < 65536 ∧ unitOfCodePoint c.toNat = .scalar c := by
  have hsmall : c.toNat < 32 := by
    rw [Char.lt_def, UInt32.lt_iff_toNat_lt] at h
    exact h
  refine ⟨by omega, ?_⟩
  rw [unitOfCodePoint, if_neg (by omega), Char.ofNat_toNat]

/-- **One character** is read back, and what follows it is read afterwards. -/
theorem readUnits_render (c : Char) (rest : List Char) :
    readUnits ((JsonUnit.scalar c).render ++ rest)
      = (readUnits rest).map fun (units, rest) => (.scalar c :: units, rest) := by
  have hwritten := escaping_render c
  generalize (JsonUnit.scalar c).render = written at hwritten ⊢
  cases hwritten with
  | @short letter h =>
    have hletter : letter ≠ 'u' := by
      rintro rfl
      simp [shortEscape?] at h
    show readUnits ('\\' :: letter :: rest) = _
    rw [readUnits, h]
    · cases readUnits rest <;> rfl
    · intro _ _ _ _ _ hu
      exact absurd hu hletter
  | unicode h =>
    obtain ⟨hbound, hunit⟩ := unitOfCodePoint_toNat h
    have hnumber := hexNumber?_hexPadded hbound
    obtain ⟨d₁, d₂, d₃, d₄, hdigits⟩ :
        ∃ d₁ d₂ d₃ d₄, hexPadded 4 c.toNat = [d₁, d₂, d₃, d₄] := ⟨_, _, _, _, rfl⟩
    rw [hdigits] at hnumber
    rw [unicodeEscape, hdigits]
    show readUnits ('\\' :: 'u' :: d₁ :: d₂ :: d₃ :: d₄ :: rest) = _
    rw [readUnits, hnumber, ← hunit]
    cases readUnits rest <;> rfl
  | raw hquote hbackslash hcontrol =>
    show readUnits (c :: rest) = _
    rw [readUnits, if_neg (not_or.mpr ⟨hbackslash, hcontrol⟩)]
    · cases readUnits rest <;> rfl
    · exact hquote
    · intro _ _ _ _ _ hc
      exact absurd hc hbackslash
    · intro _ _ hc
      exact absurd hc hbackslash

/-! ### Strings -/

theorem render_append (t : JsonText) (rest : List Char) :
    t.render ++ rest = '"' :: (t.flatMap JsonUnit.render ++ '"' :: rest) := by
  simp [JsonText.render]

theorem readUnits_characters (cs rest : List Char) :
    readUnits ((cs.map JsonUnit.scalar).flatMap JsonUnit.render ++ '"' :: rest)
      = some (cs.map .scalar, rest) := by
  induction cs with
  | nil => rw [List.map_nil, List.flatMap_nil, List.nil_append, readUnits]
  | cons c more ih =>
    rw [List.map_cons, List.flatMap_cons, List.append_assoc, readUnits_render, ih]
    rfl

/-- Among characters there are no halves to put together. -/
theorem joinHalves_characters (cs : List Char) :
    joinHalves (cs.map .scalar) = cs.map .scalar := by
  induction cs with
  | nil => rfl
  | cons c more ih =>
    rw [List.map_cons, joinHalves, ih]
    intro high low rest hunit
    exact absurd hunit (by simp)

/-- **Strings.**  A string is read back up to its closing quote. -/
theorem readText_render (s : String) (rest : List Char) :
    readText ((JsonText.ofString s).flatMap JsonUnit.render ++ '"' :: rest)
      = some (JsonText.ofString s, rest) := by
  rw [readText, JsonText.ofString, readUnits_characters]
  show some (joinHalves (s.toList.map JsonUnit.scalar), rest) = _
  rw [joinHalves_characters]

end Json

end BoundSql
