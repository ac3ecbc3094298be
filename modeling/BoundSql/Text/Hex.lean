namespace BoundSql

/-!
# Text — hexadecimal digits

Numbers to base sixteen in lowercase digits, of a fixed width or as short as possible,
and the value of a digit in either case.

* `hexValue?_hexDigit` — reading a written digit gives its value.
* `length_hexPadded` — the padded form has the width that was asked for.
-/

/-- The lowercase digit of a value below sixteen. -/
def hexDigit (value : Nat) : Char :=
  if value < 10 then Char.ofNat ('0'.toNat + value) else Char.ofNat ('a'.toNat + (value - 10))

/-- The value of a digit, in either case. -/
def hexValue? (c : Char) : Option Nat :=
  if '0' ≤ c ∧ c ≤ '9' then some (c.toNat - '0'.toNat)
  else if 'a' ≤ c ∧ c ≤ 'f' then some (c.toNat - 'a'.toNat + 10)
  else if 'A' ≤ c ∧ c ≤ 'F' then some (c.toNat - 'A'.toNat + 10)
  else none

/-- The lowest `width` digits of a number. -/
def hexPadded : (width : Nat) → Nat → List Char
  | 0, _ => []
  | width + 1, n => hexPadded width (n / 16) ++ [hexDigit (n % 16)]

/-- A code point without leading zeros; no code point needs more than six digits. -/
def hexCodePoint (c : Char) : List Char :=
  match (hexPadded 6 c.toNat).dropWhile (· == '0') with
  | [] => ['0']
  | digits => digits

/-- The number that a run of digits spells, if all of them are digits. -/
def hexNumber? (digits : List Char) : Option Nat :=
  digits.foldlM (fun n c => (hexValue? c).map (n * 16 + ·)) 0

/-- Reading a written digit gives its value. -/
theorem hexValue?_hexDigit {value : Nat} (h : value < 16) :
    hexValue? (hexDigit value) = some value := by
  have all : ∀ v, v < 16 → hexValue? (hexDigit v) = some v := by decide
  exact all value h

/-- The padded form has the width that was asked for. -/
theorem length_hexPadded (width n : Nat) : (hexPadded width n).length = width := by
  induction width generalizing n with
  | zero => rfl
  | succ width ih => simp [hexPadded, ih]

end BoundSql
