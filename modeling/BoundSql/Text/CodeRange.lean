namespace BoundSql

/-!
# Text — ascending tables of code point ranges

A property of characters is given by the ranges of code points that have it, in
ascending order.  `CodeRange.covers` walks such a table and stops at the first range
that begins past the character, so that the common characters, which come early,
are settled early.

* `CodeRange.covers` — is the character in one of the ranges?
* `CodeRange.exists_mem_of_covers` — a covered character lies in a range of the table.
-/

/-- The code points from `first` to `last`, both included. -/
structure CodeRange where
  first : Nat
  last : Nat

namespace CodeRange

/-- Does a range of the table hold the character?  The ranges are in ascending order and
    apart, so the first one that begins past it ends the search. -/
def covers (c : Char) : List CodeRange → Bool
  | [] => false
  | range :: rest =>
      if c.toNat < range.first then false
      else if c.toNat ≤ range.last then true
      else covers c rest

/-- A covered character lies in one of the ranges, whatever the order of the table. -/
theorem exists_mem_of_covers {c : Char} {table : List CodeRange} (h : covers c table = true) :
    ∃ range ∈ table, range.first ≤ c.toNat ∧ c.toNat ≤ range.last := by
  induction table with
  | nil => simp [covers] at h
  | cons range rest ih =>
    unfold covers at h
    split at h
    · simp at h
    · split at h
      · exact ⟨range, by simp, by omega, by omega⟩
      · obtain ⟨found, hmem, hin⟩ := ih h
        exact ⟨found, by simp [hmem], hin⟩

end CodeRange

end BoundSql
