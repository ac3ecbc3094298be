import BoundSql.Json.Decoding
import BoundSql.Json.Printer
import BoundSql.Settings

namespace BoundSql

/-!
# Settings — documents

Settings are a record of `dialect`, `parameter_prefix`, `placeholder_sigil` and
`strict_metadata`; what is left out is as in the standard settings.

* `Settings.toJson`, `Settings.ofJson?` — writing and reading.
-/

namespace Settings

def toJson (settings : Settings) : Json :=
  .record
    [("dialect", .string settings.dialect.name),
     ("parameter_prefix", .string settings.naming.stem),
     ("placeholder_sigil", .string (String.singleton settings.naming.sigil)),
     ("strict_metadata", .bool settings.strict)]

/-- The names of the fields, in order. -/
def fieldNames : List String :=
  ["dialect", "parameter_prefix", "placeholder_sigil", "strict_metadata"]

/-- Reads settings that may enter `depth` nested arrays and objects. -/
def ofJson? (depth : Nat) (j : Json) : Option Settings :=
  match depth with
  | 0 => none
  | depth + 1 =>
      match j.fields? fieldNames with
      | some [dialect, stem, sigil, strict] => do
          let dialect ←
            Json.orDefault? .standard (Json.unitChoiceOf? Dialect.ofName? depth) dialect
          let stem ← Json.orDefault? Naming.standard.stem Json.string? stem
          let sigil ← Json.orDefault? Naming.standard.sigil Json.char? sigil
          let strict ← Json.orDefault? true Json.bool? strict
          some ⟨dialect, ⟨stem, sigil⟩, strict⟩
      | _ => none

end Settings

end BoundSql
