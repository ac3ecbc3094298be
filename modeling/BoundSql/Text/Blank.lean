import BoundSql.Text.CodeRange

namespace BoundSql

/-!
# Text — blank characters

The Unicode property `White_Space`: the characters that separate words or lines.
-/

/-- The ranges of `White_Space`. -/
def blankRanges : List CodeRange :=
  [⟨0x9, 0xD⟩, ⟨0x20, 0x20⟩, ⟨0x85, 0x85⟩, ⟨0xA0, 0xA0⟩, ⟨0x1680, 0x1680⟩, ⟨0x2000, 0x200A⟩,
   ⟨0x2028, 0x2029⟩, ⟨0x202F, 0x202F⟩, ⟨0x205F, 0x205F⟩, ⟨0x3000, 0x3000⟩]

/-- Does the character have the property `White_Space`? -/
def isBlank (c : Char) : Bool :=
  CodeRange.covers c blankRanges

end BoundSql
