import BoundSql.Keyed
import Mathlib.Data.List.Basic

namespace BoundSql

/-!
# Keyed — what insertions leave

A map that is filled entry by entry has its names in the order in which they came first, and
under each of them the value that came last.  The entries of a map, inserted in order, give the
map again.

* `Keyed.find?_of_mem`, `Keyed.mem_of_find?` — finding is membership, where keys do not repeat.
* `Keyed.keys_ofList`, `Keyed.get?_ofList` — names and values of a map that was filled in order.
* `Keyed.ofList_entries` — a map from its own entries.
-/

/-! ### Names once each -/

/-- One name more. -/
theorem eraseDups_concat (names : List String) (name : String) :
    (names ++ [name]).eraseDups
      = if name ∈ names then names.eraseDups else names.eraseDups ++ [name] := by
  rw [List.eraseDups_append, List.cons_removeAll, List.nil_removeAll]
  by_cases h : name ∈ names
  · simp [h]
  · simp [h, List.eraseDups_cons]

namespace Keyed

/-! ### Entries by key -/

section Entries

variable {κ α : Type} [DecidableEq κ] {key : κ} {value : α} {entries : List (κ × α)}

theorem insertEntry_of_not_mem (value : α) (h : key ∉ entries.map Prod.fst) :
    insertEntry key value entries = entries ++ [(key, value)] := by
  induction entries with
  | nil => rfl
  | cons entry rest ih =>
    rw [List.map_cons, List.mem_cons, not_or] at h
    rw [insertEntry, if_neg (Ne.symm h.1), ih h.2, List.cons_append]

/-- Where no key occurs twice, every entry is found. -/
theorem find?_of_mem (hnodup : (entries.map Prod.fst).Nodup) (h : (key, value) ∈ entries) :
    find? key entries = some value := by
  induction entries with
  | nil => simp at h
  | cons entry rest ih =>
    obtain ⟨k, w⟩ := entry
    rw [List.map_cons, List.nodup_cons] at hnodup
    rcases List.mem_cons.mp h with hhead | hmem
    · cases hhead
      simp [find?]
    · -- The entry lies further back, so that the first one has another key.
      have hne : k ≠ key := by
        rintro rfl
        exact hnodup.1 (List.mem_map.mpr ⟨(k, value), hmem, rfl⟩)
      rw [find?, if_neg hne]
      exact ih hnodup.2 hmem

theorem mem_of_find? (h : find? key entries = some value) : (key, value) ∈ entries := by
  induction entries with
  | nil => exact absurd h (by simp [find?])
  | cons entry rest ih =>
    obtain ⟨k, v⟩ := entry
    rw [find?] at h
    split at h
    · rename_i hk
      cases h
      rw [hk]
      exact List.mem_cons_self
    · exact List.mem_cons_of_mem _ (ih h)

theorem find?_eq_none : find? key entries = none ↔ key ∉ entries.map Prod.fst := by
  induction entries with
  | nil => simp [find?]
  | cons entry rest ih =>
    obtain ⟨k, v⟩ := entry
    rw [find?, List.map_cons, List.mem_cons, not_or]
    by_cases hk : k = key
    · simp [hk]
    · rw [if_neg hk, ih]
      exact ⟨fun h => ⟨Ne.symm hk, h⟩, fun h => h.2⟩

end Entries

/-! ### Maps -/

variable {α : Type} {map : Keyed α}

theorem isEmpty_eq_isEmpty_keys (map : Keyed α) : map.isEmpty = map.keys.isEmpty := by
  rw [isEmpty, keys, List.isEmpty_map]

/-- The values of a map are found name by name, wherever its names are looked up. -/
theorem mapM_keys {find : String → Option α}
    (h : ∀ name ∈ map.keys, map.get? name = find name) : map.keys.mapM find = some map.values := by
  have hentries : ∀ entry ∈ map.entries, find entry.1 = some entry.2 := by
    intro entry hentry
    rw [← h entry.1 (List.mem_map_of_mem hentry)]
    exact find?_of_mem map.nodup hentry
  have hmap : ∀ entries : List (String × α), (∀ entry ∈ entries, find entry.1 = some entry.2) →
      (entries.map Prod.fst).mapM find = some (entries.map Prod.snd) := by
    intro entries hfound
    induction entries with
    | nil => rfl
    | cons entry rest ih =>
      have hrest := ih fun later hlater => hfound later (List.mem_cons_of_mem entry hlater)
      rw [List.map_cons, List.mapM_cons, hrest, hfound entry List.mem_cons_self]
      rfl
  exact hmap map.entries hentries

/-! ### Insertions in order -/

@[simp] theorem insertAll_cons (map : Keyed α) (entry : String × α) (rest : List (String × α)) :
    map.insertAll (entry :: rest) = (map.insert entry.1 entry.2).insertAll rest := rfl

@[simp] theorem insertAll_append (map : Keyed α) (entries more : List (String × α)) :
    map.insertAll (entries ++ more) = (map.insertAll entries).insertAll more :=
  List.foldl_append

/-- One insertion more. -/
theorem keys_insert_eraseDups {done : List String} (h : map.keys = done.eraseDups) (key : String)
    (value : α) : (map.insert key value).keys = (done ++ [key]).eraseDups := by
  rw [keys_insert, eraseDups_concat, h]
  simp only [List.mem_eraseDups]

/-- The names of entries that are inserted follow those that are there, each name once.  The
    induction is on the entries, and what carries it is where the names have come from so far. -/
theorem keys_insertAll (map : Keyed α) {done : List String} (h : map.keys = done.eraseDups)
    (entries : List (String × α)) :
    (map.insertAll entries).keys = (done ++ entries.map Prod.fst).eraseDups := by
  induction entries generalizing map done with
  | nil => rwa [List.map_nil, List.append_nil]
  | cons entry rest ih =>
    rw [insertAll_cons, ih (map.insert entry.1 entry.2) (keys_insert_eraseDups h entry.1 entry.2),
      List.append_assoc]
    rfl

/-- Of the values that are inserted under a name the last one stays. -/
theorem get?_insertAll (map : Keyed α) (entries : List (String × α)) (name : String) :
    (map.insertAll entries).get? name = (entries.reverse.lookup name).or (map.get? name) := by
  induction entries generalizing map with
  | nil => rfl
  | cons entry rest ih =>
    obtain ⟨key, value⟩ := entry
    rw [insertAll_cons, ih, get?_insert, List.reverse_cons, List.lookup_append, Option.or_assoc]
    by_cases hname : name = key
    · simp [hname]
    · simp [hname, List.lookup_cons, beq_false_of_ne hname]

/-- **Names.**  A map that is filled in order has its names in the order in which they came
    first. -/
theorem keys_ofList (entries : List (String × α)) :
    (ofList entries).keys = (entries.map Prod.fst).eraseDups := by
  have hnone : (empty : Keyed α).keys = ([] : List String).eraseDups := rfl
  exact keys_insertAll empty hnone entries

/-- **Values.**  Under each name it has the value that came last. -/
theorem get?_ofList (entries : List (String × α)) (name : String) :
    (ofList entries).get? name = entries.reverse.lookup name := by
  rw [ofList, get?_insertAll]
  exact Option.or_none

/-- Entries with new names follow those that are there. -/
theorem entries_insertAll (map : Keyed α) {entries : List (String × α)}
    (h : ((map.entries ++ entries).map Prod.fst).Nodup) :
    (map.insertAll entries).entries = map.entries ++ entries := by
  induction entries generalizing map with
  | nil => exact (List.append_nil _).symm
  | cons entry rest ih =>
    have hnew : entry.1 ∉ map.entries.map Prod.fst := by
      rw [List.map_append, List.nodup_append] at h
      exact fun hmem => h.2.2 _ hmem _ List.mem_cons_self rfl
    have hinsert : (map.insert entry.1 entry.2).entries = map.entries ++ [entry] :=
      insertEntry_of_not_mem entry.2 hnew
    rw [insertAll_cons, ih (map.insert entry.1 entry.2) (by rwa [hinsert, List.append_assoc]),
      hinsert, List.append_assoc]
    rfl

/-- **Entries.**  The entries of a map, inserted in order, give the map again. -/
theorem ofList_entries (map : Keyed α) : ofList map.entries = map := by
  apply Keyed.ext
  exact entries_insertAll empty map.nodup

end Keyed

end BoundSql
