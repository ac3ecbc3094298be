namespace BoundSql

/-!
# Keyed — insertion-ordered maps from names

A list of entries in which no name occurs twice.  An entry keeps the place of its first
insertion; inserting under its name again replaces the value there.  Both the columns of a
table and the parameters of a statement are such maps, and their order is the order of the
`SELECT` list and of positional binding.

* `Keyed.keys_insert` — where a name goes.
* `Keyed.get?_insert` — what is found afterwards.
* `Keyed.agrees` — equality that does not look at the order.
-/

variable {κ α : Type} [DecidableEq κ]

/-- Entries by name, each name once, in the order of their first insertion. -/
structure Keyed (α : Type) where
  entries : List (String × α)
  nodup : (entries.map Prod.fst).Nodup

namespace Keyed

/-- Replaces the value of an entry, or adds the entry at the end. -/
def insertEntry (key : κ) (value : α) : List (κ × α) → List (κ × α)
  | [] => [(key, value)]
  | (k, v) :: rest => if k = key then (k, value) :: rest else (k, v) :: insertEntry key value rest

/-- The names after an insertion: a new one goes to the end, a known one stays. -/
theorem map_fst_insertEntry (key : κ) (value : α) (entries : List (κ × α)) :
    (insertEntry key value entries).map Prod.fst =
      if key ∈ entries.map Prod.fst then entries.map Prod.fst
      else entries.map Prod.fst ++ [key] := by
  induction entries with
  | nil => simp [insertEntry]
  | cons entry rest ih =>
    obtain ⟨k, v⟩ := entry
    by_cases h : k = key
    · simp [insertEntry, h]
    · have h' : ¬ key = k := fun e => h e.symm
      simp only [insertEntry, h, if_false, List.map_cons, ih, List.mem_cons, h', false_or]
      split <;> simp

/-- The value of the entry with a name. -/
def find? (key : κ) : List (κ × α) → Option α
  | [] => none
  | (k, v) :: rest => if k = key then some v else find? key rest

/-- After an insertion the name has the new value and all others keep theirs. -/
theorem find?_insertEntry (key : κ) (value : α) (name : κ) (entries : List (κ × α)) :
    find? name (insertEntry key value entries) =
      if name = key then some value else find? name entries := by
  induction entries with
  | nil =>
    by_cases h : key = name
    · simp [insertEntry, find?, h]
    · simp [insertEntry, find?, h, Ne.symm h]
  | cons entry rest ih =>
    obtain ⟨k, v⟩ := entry
    by_cases hk : k = key
    -- The entry is replaced here, or it keeps its value and the name lies further back.
    · subst hk
      by_cases hn : k = name
      · simp [insertEntry, find?, hn]
      · simp [insertEntry, find?, hn, Ne.symm hn]
    · by_cases hn : k = name
      · subst hn
        simp [insertEntry, find?, hk]
      · simp [insertEntry, find?, hk, hn, ih]

def empty : Keyed α := ⟨[], by simp⟩

instance : Inhabited (Keyed α) := ⟨empty⟩

/-- Inserts a value under a name. -/
def insert (map : Keyed α) (key : String) (value : α) : Keyed α :=
  ⟨insertEntry key value map.entries, by
    rw [map_fst_insertEntry]
    split
    · exact map.nodup
    · rename_i h
      -- A new name is none of those that are there.
      rw [List.nodup_append]
      refine ⟨map.nodup, by simp, ?_⟩
      intro a ha b hb heq
      simp only [List.mem_singleton] at hb
      exact h (hb ▸ heq ▸ ha)⟩

/-- Inserts entries in order. -/
def insertAll (map : Keyed α) (entries : List (String × α)) : Keyed α :=
  entries.foldl (fun map entry => map.insert entry.1 entry.2) map

/-- The map of a list of entries, inserted in order. -/
def ofList (entries : List (String × α)) : Keyed α :=
  empty.insertAll entries

def size (map : Keyed α) : Nat := map.entries.length

def isEmpty (map : Keyed α) : Bool := map.entries.isEmpty

/-- The names in order. -/
def keys (map : Keyed α) : List String := map.entries.map Prod.fst

/-- The values in order. -/
def values (map : Keyed α) : List α := map.entries.map Prod.snd

/-- The value under a name. -/
def get? (map : Keyed α) (key : String) : Option α :=
  find? key map.entries

/-- Equality that does not look at the order: as many entries, and each one is found with
    an equal value. -/
def agrees (equal : α → α → Bool) (a b : Keyed α) : Bool :=
  a.size == b.size && a.entries.all fun entry =>
    match b.get? entry.1 with
    | some value => equal entry.2 value
    | none => false

@[ext] theorem ext {a b : Keyed α} (h : a.entries = b.entries) : a = b := by
  cases a; cases b; cases h; rfl

instance [DecidableEq α] : DecidableEq (Keyed α) := fun a b =>
  decidable_of_iff (a.entries = b.entries) ⟨ext, fun h => h ▸ rfl⟩

/-- The names after an insertion: a new one goes to the end, a known one stays. -/
theorem keys_insert (map : Keyed α) (key : String) (value : α) :
    (map.insert key value).keys = if key ∈ map.keys then map.keys else map.keys ++ [key] :=
  map_fst_insertEntry key value map.entries

/-- After an insertion the name has the new value and all others keep theirs. -/
theorem get?_insert (map : Keyed α) (key : String) (value : α) (name : String) :
    (map.insert key value).get? name = if name = key then some value else map.get? name :=
  find?_insertEntry key value name map.entries

end Keyed

end BoundSql
