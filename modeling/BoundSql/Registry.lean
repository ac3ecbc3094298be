import BoundSql.Decimal.Digits
import BoundSql.Entity.Name
import BoundSql.Table

namespace BoundSql

/-!
# Registry — tables by entity, written once

A registry keeps the table of each entity under its key.  The first registration of a key
stands for good.  Within one registry every table has a row alias of its own: a table that
declares none, or one that is in use, gets the next free alias of the form `tN`.

* `Registry.register` — the table that stands under a key after a registration.
* `Registry.insertNew` — was this registration the first one?
* `Registry.nextAlias` — the search for a free alias.
-/

/-- The registered tables, the row aliases in use, and the number of the last generated
    alias. -/
structure Registry where
  /-- Tables by entity, the latest registration first. -/
  entries : List (EntityName × Table)
  /-- Every row alias in use, declared or generated. -/
  aliases : List String
  counter : UInt32
  deriving DecidableEq

namespace Registry

def empty : Registry := ⟨[], [], 0⟩

instance : Inhabited Registry := ⟨empty⟩

/-! ### Reading -/

/-- The table of an entity, if it is registered. -/
def lookup (registry : Registry) (key : EntityName) : Option Table :=
  Keyed.find? key registry.entries

/-- The table of an entity; for one that is not registered, the empty table. -/
def get (registry : Registry) (key : EntityName) : Table :=
  (registry.lookup key).getD Table.empty

def contains (registry : Registry) (key : EntityName) : Bool := (registry.lookup key).isSome

/-- The registered entities, the latest one first. -/
def keys (registry : Registry) : List EntityName := registry.entries.map Prod.fst

def size (registry : Registry) : Nat := registry.entries.length

def isEmpty (registry : Registry) : Bool := registry.entries.isEmpty

/-- The registry as it shows itself to a programmer. -/
def inspect (registry : Registry) : String :=
  "MetadataCache \x7b entries: " ++ Decimal.numeral registry.size ++ " \x7d"

/-! ### Registering -/

/-- The generated alias with a number. -/
def generatedAlias (number : UInt32) : String :=
  "t" ++ Decimal.numeral number.toNat

/-- The number of the next generated alias that is not taken.  Each taken alias can stop the
    search once, so that their number bounds it. -/
def nextAlias (taken : List String) : (tries : Nat) → (last : UInt32) → UInt32
  -- Every taken alias has been met by now.
  | 0, last => last + 1
  | tries + 1, last =>
      if generatedAlias (last + 1) ∈ taken then nextAlias taken tries (last + 1) else last + 1

/-- Does a table with this alias need a generated one? -/
def needsAlias (registry : Registry) (declared : String) : Bool :=
  declared.isEmpty || registry.aliases.contains declared

/-- Adds a table under a new key, with an alias that no other table has. -/
def add (registry : Registry) (key : EntityName) (table : Table) : Registry × Table :=
  if registry.needsAlias table.rowAlias then
    let number := nextAlias registry.aliases registry.aliases.length registry.counter
    let table := { table with rowAlias := generatedAlias number }
    (⟨(key, table) :: registry.entries, table.rowAlias :: registry.aliases, number⟩, table)
  else
    (⟨(key, table) :: registry.entries, table.rowAlias :: registry.aliases, registry.counter⟩,
      table)

/-- Registers a table, unless there is one under the key, and gives the one that stands. -/
def register (registry : Registry) (key : EntityName) (table : Table) : Registry × Table :=
  match registry.lookup key with
  | some existing => (registry, existing)
  | none => registry.add key table

/-- Registers a table, and tells whether it was the first one under the key. -/
def insertNew (registry : Registry) (key : EntityName) (table : Table) : Registry × Bool :=
  match registry.lookup key with
  | some _ => (registry, false)
  | none => ((registry.add key table).1, true)

/-- What a registration gives is what stands under the key afterwards. -/
theorem lookup_register (registry : Registry) (key : EntityName) (table : Table) :
    (registry.register key table).1.lookup key = some (registry.register key table).2 := by
  unfold register
  split
  · assumption
  · unfold add
    split <;> simp [lookup, Keyed.find?]

end Registry

end BoundSql
