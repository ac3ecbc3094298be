namespace BoundSql

/-!
# Decimal — numerals

Natural numbers written to base ten, first digit first and without leading zeros.

* `Decimal.value_digits` — the digits of a number spell it.
* `Decimal.digits_injective` — so two numbers with the same digits are equal.
-/

/-- A decimal digit by its value. -/
abbrev Digit := Fin 10

def Digit.zero : Digit := ⟨0, by decide⟩

namespace Decimal

/-- The character of a digit. -/
def digitChar (d : Digit) : Char :=
  Char.ofNat ('0'.toNat + d.val)

/-- The digit of a character. -/
def digit? (c : Char) : Option Digit :=
  if h : '0' ≤ c ∧ c ≤ '9' then
    some ⟨c.toNat - '0'.toNat, by
      have := h.2
      simp only [Char.le_def, UInt32.le_iff_toNat_le] at this
      change c.val.toNat ≤ 57 at this
      change c.val.toNat - 48 < 10
      omega⟩
  else none

/-- Prepends the digits of `n` to `rest`; `fuel` bounds how many there are. -/
def prependDigits : (fuel n : Nat) → (rest : List Digit) → List Digit
  | 0, _, rest => rest
  | fuel + 1, n, rest =>
      let last : Digit := ⟨n % 10, Nat.mod_lt _ (by decide)⟩
      if n < 10 then last :: rest else prependDigits fuel (n / 10) (last :: rest)

/-- The digits of a number, first digit first; zero has the one digit `0`. -/
def digits (n : Nat) : List Digit :=
  prependDigits (n + 1) n []

/-- The number that a run of digits spells. -/
def value (ds : List Digit) : Nat :=
  ds.foldl (fun n d => n * 10 + d.val) 0

/-- The numeral of a number. -/
def numeral (n : Nat) : String :=
  String.ofList ((digits n).map digitChar)

/-- Reading on from `n` shifts it by as many places as there are digits. -/
theorem foldl_digit (n : Nat) (ds : List Digit) :
    ds.foldl (fun n d => n * 10 + d.val) n = n * Nat.pow 10 ds.length + value ds := by
  unfold value
  induction ds generalizing n with
  | nil => simp
  | cons d rest ih =>
    simp only [List.foldl_cons, List.length_cons]
    have hweight : Nat.pow 10 (rest.length + 1) = 10 * Nat.pow 10 rest.length := Nat.pow_succ'
    rw [ih (n * 10 + d.val), ih (0 * 10 + d.val), hweight, Nat.add_mul, Nat.mul_assoc,
      Nat.zero_mul, Nat.zero_add, Nat.add_assoc]

/-- A digit in front counts for as many places as digits follow it. -/
theorem value_cons (d : Digit) (ds : List Digit) :
    value (d :: ds) = d.val * Nat.pow 10 ds.length + value ds := by
  have h := foldl_digit (0 * 10 + d.val) ds
  simpa [value] using h

/-- Prepending the digits of `n` prepends its value. -/
theorem value_prependDigits (fuel n : Nat) (rest : List Digit) (h : n < fuel) :
    value (prependDigits fuel n rest) = n * Nat.pow 10 rest.length + value rest := by
  induction fuel generalizing n rest with
  | zero => omega
  | succ fuel ih =>
    unfold prependDigits
    simp only
    split
    · rw [value_cons]
      have : n % 10 = n := Nat.mod_eq_of_lt (by assumption)
      simp [this]
    -- The last digit goes in front of the others, and the number without it is next.
    · rw [ih (n / 10) _ (by omega), value_cons]
      simp only [List.length_cons]
      have split10 : n = n / 10 * 10 + n % 10 := by omega
      have hweight : Nat.pow 10 (rest.length + 1) = 10 * Nat.pow 10 rest.length := Nat.pow_succ'
      rw [hweight, ← Nat.mul_assoc, ← Nat.add_assoc, ← Nat.add_mul, ← split10]

/-- The digits of a number spell it. -/
theorem value_digits (n : Nat) : value (digits n) = n := by
  have h := value_prependDigits (n + 1) n [] (Nat.lt_succ_self n)
  simpa [digits, value] using h

/-- Two numbers with the same digits are equal. -/
theorem digits_injective {m n : Nat} (h : digits m = digits n) : m = n := by
  rw [← value_digits m, ← value_digits n, h]

/-- Reading the character of a digit gives the digit. -/
theorem digit?_digitChar (d : Digit) : digit? (digitChar d) = some d := by
  revert d
  decide

end Decimal

end BoundSql
