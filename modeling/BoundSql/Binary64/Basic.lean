namespace BoundSql

/-!
# Binary64 — floating-point numbers as words

A 64-bit binary floating-point number is kept as its word, so that equality of values is
equality of words and every rule about it is stated on natural numbers.  A finite number
with significand `m` and scale `q` stands for `m · 2^q`.

* `Binary64.significand`, `Binary64.scale` — the two parts of a finite magnitude.
* `Binary64.agrees` — equality as floating-point arithmetic has it.
-/

/-- A 64-bit binary floating-point number by its word. -/
structure Binary64 where
  bits : UInt64
  deriving DecidableEq, Inhabited

namespace Binary64

/-- Is the sign bit set? -/
def negative (x : Binary64) : Bool :=
  decide (Nat.pow 2 63 ≤ x.bits.toNat)

/-- The eleven bits of the exponent. -/
def exponentField (x : Binary64) : Nat :=
  x.bits.toNat / Nat.pow 2 52 % Nat.pow 2 11

/-- The lowest 52 bits. -/
def fractionField (x : Binary64) : Nat :=
  x.bits.toNat % Nat.pow 2 52

/-- The exponent field of infinities and of what is not a number. -/
def specialField : Nat := 2047

def isNaN (x : Binary64) : Bool :=
  x.exponentField == specialField && x.fractionField != 0

def isInfinite (x : Binary64) : Bool :=
  x.exponentField == specialField && x.fractionField == 0

def isFinite (x : Binary64) : Bool :=
  x.exponentField != specialField

/-- Is it zero, of either sign? -/
def isZero (x : Binary64) : Bool :=
  x.exponentField == 0 && x.fractionField == 0

/-- The magnitude of a finite number counts in steps of `2 ^ scale`; this is the count.
    Below the least normal number the leading bit is not implied. -/
def significand (x : Binary64) : Nat :=
  if x.exponentField = 0 then x.fractionField else Nat.pow 2 52 + x.fractionField

/-- The power of two of a finite number's last place. -/
def scale (x : Binary64) : Int :=
  (max 1 x.exponentField : Nat) - 1075

/-- The magnitude of a finite number as a quotient. -/
def ratio (x : Binary64) : Nat × Nat :=
  if 0 ≤ x.scale then (x.significand * Nat.pow 2 x.scale.toNat, 1)
  else (x.significand, Nat.pow 2 (-x.scale).toNat)

/-- The number with the other sign. -/
def opposite (x : Binary64) : Binary64 :=
  ⟨x.bits ^^^ 0x8000000000000000⟩

/-- Equality as floating-point arithmetic has it: what is not a number differs from
    everything, itself included, and the two zeros are equal. -/
def agrees (x y : Binary64) : Bool :=
  !x.isNaN && !y.isNaN && (x == y || (x.isZero && y.isZero))

/-- Equality in arithmetic is reflexive exactly on numbers. -/
theorem agrees_self (x : Binary64) : x.agrees x = !x.isNaN := by
  cases h : x.isNaN <;> simp [agrees, h]

end Binary64

end BoundSql
