import BoundSql.Proofs.Binder.Numbering
import BoundSql.Proofs.Registry.WriteOnce

namespace BoundSql

/-!
# Registry — every table has an alias of its own

Declared and generated aliases share one set of names.  Whoever comes first keeps an alias, and
the search for a generated one passes over everything in use, so that no two tables of a
registry have the same alias and none is without.

The search ends where any generated alias is left, and there are as many as numbers in the
counter.  So a registration can only fail to end with all of them in use.

* `Registry.nextAlias_not_mem` — what the search finds is not in use.
* `Registry.Returns` — every search that calls make comes to an end.
* `Registry.returns_of_size` — so it does as long as there are at most `UInt32.size` entries.
* `Registry.performAll_aliases` — aliases in every registry that calls lead to.
-/

namespace Registry

variable {registry : Registry} {key : EntityName} {table : Table}

/-! ### The search -/

theorem generatedAlias_injective {a b : UInt32} (h : generatedAlias a = generatedAlias b) :
    a = b := by
  have hnumeral := (String.append_right_inj "t").mp h
  exact UInt32.toNat_inj.mp (Decimal.numeral_injective hnumeral)

theorem generatedAlias_ne_empty (number : UInt32) : generatedAlias number ≠ "" := by
  intro h
  have hlength := congrArg String.length h
  rw [generatedAlias, String.length_append] at hlength
  simp at hlength

/-- The number that a search comes to at a place, counted from zero. -/
def candidate (last : UInt32) (place : Nat) : UInt32 := last + UInt32.ofNat (place + 1)

theorem candidate_zero (last : UInt32) : candidate last 0 = last + 1 := rfl

theorem candidate_succ (last : UInt32) (place : Nat) :
    candidate last (place + 1) = candidate (last + 1) place := by
  rw [candidate, candidate, UInt32.ofNat_add (place + 1) 1, UInt32.add_comm (UInt32.ofNat _),
    ← UInt32.add_assoc]
  rfl

/-- A search does not come to a number twice before the counter has run over. -/
theorem candidate_injective {last : UInt32} {i j : Nat} (hi : i < UInt32.size)
    (hj : j < UInt32.size) (h : candidate last i = candidate last j) : i = j := by
  have hnumber := congrArg UInt32.toNat h
  simp only [candidate, UInt32.toNat_add, UInt32.toNat_ofNat'] at hnumber
  unfold UInt32.size at hi hj
  omega

/-- Until the counter has run over once, a search comes to every number. -/
theorem exists_candidate (last number : UInt32) :
    ∃ place < UInt32.size, candidate last place = number := by
  refine ⟨(number - last - 1).toNat, UInt32.toNat_lt_size _, ?_⟩
  have hone : UInt32.ofNat 1 = 1 := rfl
  rw [candidate, UInt32.ofNat_add, UInt32.ofNat_toNat, hone, UInt32.sub_add_cancel,
    UInt32.add_comm, UInt32.sub_add_cancel]

/-- The search finds an alias that is not in use if it comes to one. -/
theorem nextAlias_not_mem_of_candidate {taken : List String} {tries place : Nat} {last : UInt32}
    (hplace : place ≤ tries) (hfree : generatedAlias (candidate last place) ∉ taken) :
    generatedAlias (nextAlias taken tries last) ∉ taken := by
  induction tries generalizing last place with
  | zero =>
    rw [Nat.le_zero.mp hplace, candidate_zero] at hfree
    exact hfree
  | succ tries ih =>
    rw [nextAlias]
    split
    · rename_i htaken
      -- The first number is in use, so that the free one lies further on.
      cases place with
      | zero => exact absurd htaken hfree
      | succ place =>
        rw [candidate_succ] at hfree
        exact ih (Nat.le_of_succ_le_succ hplace) hfree
    · assumption

/-- Fewer aliases than there are numbers cannot be in use at every place up to their number. -/
theorem exists_candidate_not_mem {taken : List String} (h : taken.length < UInt32.size)
    (last : UInt32) : ∃ place ≤ taken.length, generatedAlias (candidate last place) ∉ taken := by
  by_contra hnone
  have hall : ∀ place ≤ taken.length, generatedAlias (candidate last place) ∈ taken := by
    intro place hplace
    by_contra hfree
    exact hnone ⟨place, hplace, hfree⟩
  -- All of them differ, and there is one more than aliases in use.
  let met : Finset String :=
    (Finset.range (taken.length + 1)).image fun place => generatedAlias (candidate last place)
  have hsubset : met ⊆ taken.toFinset := by
    intro name hname
    obtain ⟨place, hplace, rfl⟩ := Finset.mem_image.mp hname
    have hlt := Finset.mem_range.mp hplace
    exact List.mem_toFinset.mpr (hall place (by omega))
  have hcard : met.card = taken.length + 1 := by
    have hinj : Set.InjOn (fun place => generatedAlias (candidate last place))
        (Finset.range (taken.length + 1)) := by
      intro i hi j hj hij
      have hi' := Finset.mem_range.mp (Finset.mem_coe.mp hi)
      have hj' := Finset.mem_range.mp (Finset.mem_coe.mp hj)
      exact candidate_injective (by omega) (by omega) (generatedAlias_injective hij)
    rw [Finset.card_image_of_injOn hinj, Finset.card_range]
  have hle := Finset.card_le_card hsubset
  have hlength := taken.toFinset_card_le
  omega

/-- **The search.**  If any generated alias is not in use, what the search finds is not. -/
theorem nextAlias_not_mem {taken : List String} (last : UInt32)
    (hfree : ∃ number, generatedAlias number ∉ taken) :
    generatedAlias (nextAlias taken taken.length last) ∉ taken := by
  by_cases hroom : taken.length < UInt32.size
  · obtain ⟨place, hplace, hnot⟩ := exists_candidate_not_mem hroom last
    exact nextAlias_not_mem_of_candidate hplace hnot
  · -- With so many aliases in use the search comes to every number.
    obtain ⟨number, hnot⟩ := hfree
    obtain ⟨place, hplace, rfl⟩ := exists_candidate last number
    exact nextAlias_not_mem_of_candidate (by omega) hnot

/-! ### Returning -/

/-- Does a registration come to an end?  It does not where it needs a generated alias and every
    one of them is in use: then there is nothing for the search to stop at. -/
def Ends (registry : Registry) (r : Registration) : Prop :=
  registry.lookup r.key = none → registry.needsAlias r.table.rowAlias = true →
    ∃ number, generatedAlias number ∉ registry.aliases

/-- Do registrations come to an end, one after the other? -/
def AllEnd (registry : Registry) : List Registration → Prop
  | [] => True
  | r :: rest => registry.Ends r ∧ (registry.register r.key r.table).1.AllEnd rest

/-- Does every call return?  A call that does not return leads to no registry. -/
def Returns (registry : Registry) (calls : List Call) : Prop :=
  registry.AllEnd (registry.registrationsAll calls)

/-! ### Aliases and entries -/

/-- The aliases in use are those of the entries, and none of them is empty. -/
structure Tallies (registry : Registry) : Prop where
  aliases : registry.aliases = registry.entries.map fun entry => entry.2.rowAlias
  named : "" ∉ registry.aliases

theorem rowAlias_add (registry : Registry) (key : EntityName) (table : Table) :
    (registry.add key table).2.rowAlias =
      if registry.needsAlias table.rowAlias then
        generatedAlias (nextAlias registry.aliases registry.aliases.length registry.counter)
      else table.rowAlias := by
  unfold add
  split <;> rfl

theorem aliases_add (registry : Registry) (key : EntityName) (table : Table) :
    (registry.add key table).1.aliases
      = (registry.add key table).2.rowAlias :: registry.aliases := by
  obtain ⟨rowAlias, counter, hadd⟩ := registry.exists_add key table
  rw [hadd]

theorem needsAlias_eq_false {declared : String} :
    registry.needsAlias declared = false ↔ declared ≠ "" ∧ declared ∉ registry.aliases := by
  simp [needsAlias]

theorem Tallies.add (h : registry.Tallies) (key : EntityName) (table : Table) :
    (registry.add key table).1.Tallies := by
  constructor
  · rw [aliases_add, entries_add, List.map_cons, h.aliases]
  · rw [aliases_add, List.mem_cons, not_or]
    refine ⟨?_, h.named⟩
    rw [rowAlias_add]
    split
    · exact (generatedAlias_ne_empty _).symm
    · rename_i hneeds
      -- A declared alias that is kept is not empty.
      exact (needsAlias_eq_false.mp (Bool.eq_false_iff.mpr hneeds)).1.symm

theorem tallies_empty : empty.Tallies := ⟨rfl, List.not_mem_nil⟩

theorem tallies_registerAll (rs : List Registration) : (empty.registerAll rs).Tallies :=
  registerAll_invariant (P := Tallies) (fun _ key table h _ => h.add key table) tallies_empty rs

theorem tallies_performAll (calls : List Call) : (empty.performAll calls).Tallies := by
  rw [performAll_eq]
  exact tallies_registerAll _

/-- The aliases in use are those that are found. -/
theorem mem_aliases_performAll {calls : List Call} {rowAlias : String} :
    rowAlias ∈ (empty.performAll calls).aliases ↔
      ∃ key table, (empty.performAll calls).lookup key = some table ∧
        table.rowAlias = rowAlias := by
  rw [(tallies_performAll calls).aliases, List.mem_map]
  constructor
  · rintro ⟨⟨key, table⟩, hmem, rfl⟩
    exact ⟨key, table, Keyed.find?_of_mem (nodup_keys_performAll calls) hmem, rfl⟩
  · rintro ⟨key, table, hlookup, rfl⟩
    exact ⟨(key, table), Keyed.mem_of_find? hlookup, rfl⟩

/-- No registered entity is without an alias. -/
theorem rowAlias_ne_empty_performAll {calls : List Call} {key : EntityName}
    (h : ((empty.performAll calls).lookup key).isSome = true) :
    ((empty.performAll calls).get key).rowAlias ≠ "" := by
  obtain ⟨table, htable⟩ := Option.isSome_iff_exists.mp h
  intro hempty
  rw [get, htable, Option.getD_some] at hempty
  exact (tallies_performAll calls).named (mem_aliases_performAll.mpr ⟨key, table, htable, hempty⟩)

/-! ### No alias twice -/

/-- A table that is added gets an alias that is not in use. -/
theorem nodup_aliases_add (h : registry.aliases.Nodup)
    (hends : registry.needsAlias table.rowAlias = true →
      ∃ number, generatedAlias number ∉ registry.aliases) :
    (registry.add key table).1.aliases.Nodup := by
  rw [aliases_add, List.nodup_cons, rowAlias_add]
  refine ⟨?_, h⟩
  split
  · rename_i hneeds
    exact nextAlias_not_mem registry.counter (hends hneeds)
  · rename_i hneeds
    exact (needsAlias_eq_false.mp (Bool.eq_false_iff.mpr hneeds)).2

/-- The induction is on the registrations; what carries it is that no alias occurs twice up to
    each of them. -/
theorem nodup_aliases_registerAll {rs : List Registration} (h : registry.aliases.Nodup)
    (hends : registry.AllEnd rs) : (registry.registerAll rs).aliases.Nodup := by
  induction rs generalizing registry with
  | nil => exact h
  | cons r rest ih =>
    obtain ⟨hfirst, hrest⟩ := hends
    rw [registerAll_cons]
    refine ih ?_ hrest
    cases hlookup : registry.lookup r.key with
    | some existing => rwa [register_of_some hlookup]
    | none =>
      rw [register_of_none hlookup]
      exact nodup_aliases_add h (hfirst hlookup)

theorem nodup_aliases_performAll {calls : List Call} (h : empty.Returns calls) :
    (empty.performAll calls).aliases.Nodup := by
  rw [performAll_eq]
  exact nodup_aliases_registerAll List.nodup_nil h

/-- Two tables with one alias are one. -/
theorem eq_of_rowAlias_eq (hnodup : registry.aliases.Nodup) (h : registry.Tallies)
    {other : EntityName} {found : Table} (hkey : registry.lookup key = some table)
    (hother : registry.lookup other = some found) (heq : table.rowAlias = found.rowAlias) :
    key = other := by
  rw [h.aliases] at hnodup
  have hentry := List.inj_on_of_nodup_map hnodup (Keyed.mem_of_find? hkey)
    (Keyed.mem_of_find? hother) heq
  exact congrArg Prod.fst hentry

/-! ### Room for aliases -/

theorem size_add (registry : Registry) (key : EntityName) (table : Table) :
    (registry.add key table).1.size = registry.size + 1 := by
  rw [size, entries_add, List.length_cons]
  rfl

theorem size_le_registerAll (registry : Registry) (rs : List Registration) :
    registry.size ≤ (registry.registerAll rs).size := by
  refine registerAll_invariant (P := fun later => registry.size ≤ later.size) ?_ le_rfl rs
  intro later key table hle hnone
  rw [size_add]
  exact Nat.le_succ_of_le hle

theorem allEnd_of_size {rs : List Registration} (h : registry.Tallies)
    (hsize : (registry.registerAll rs).size ≤ UInt32.size) : registry.AllEnd rs := by
  induction rs generalizing registry with
  | nil => exact trivial
  | cons r rest ih =>
    rw [registerAll_cons] at hsize
    cases hlookup : registry.lookup r.key with
    | some existing =>
      rw [register_of_some hlookup] at hsize
      refine ⟨?_, ?_⟩
      · intro hnone
        rw [hlookup] at hnone
        exact absurd hnone (by simp)
      · rw [register_of_some hlookup]
        exact ih h hsize
    | none =>
      rw [register_of_none hlookup] at hsize
      refine ⟨?_, ?_⟩
      · intro _ _
        -- The new entry still has to find room, so that there was some before it.
        have hle := (registry.add r.key r.table).1.size_le_registerAll rest
        rw [size_add] at hle
        have hlength : registry.aliases.length = registry.size := by
          rw [h.aliases, List.length_map]
          rfl
        have hroom : registry.aliases.length < UInt32.size := by omega
        obtain ⟨place, -, hfree⟩ := exists_candidate_not_mem hroom 0
        exact ⟨candidate 0 place, hfree⟩
      · rw [register_of_none hlookup]
        exact ih (h.add r.key r.table) hsize

/-- **Room.**  Calls return as long as there are at most as many entries as numbers in the
    counter. -/
theorem returns_of_size {calls : List Call}
    (hsize : (empty.performAll calls).size ≤ UInt32.size) : empty.Returns calls := by
  rw [performAll_eq] at hsize
  exact allEnd_of_size tallies_empty hsize

/-! ### The registration that stands -/

/-- What is found under a new key was handed in first under it. -/
theorem exists_first_registration {rs : List Registration} (hnone : registry.lookup key = none)
    (h : (registry.registerAll rs).lookup key = some table) :
    ∃ before supplied after, rs = before ++ ⟨key, supplied⟩ :: after ∧
      key ∉ before.map Registration.key ∧
      table = ((registry.registerAll before).add key supplied).2 := by
  induction rs generalizing registry with
  | nil =>
    rw [registerAll, List.map_nil, performAll, hnone] at h
    exact absurd h (by simp)
  | cons r rest ih =>
    obtain ⟨name, handed⟩ := r
    rw [registerAll_cons] at h
    by_cases hname : name = key
    · -- This is the first one, and it stands.
      subst hname
      refine ⟨[], handed, rest, rfl, List.not_mem_nil, ?_⟩
      have hfound := (registry.register name handed).1.within_performAll
        (rest.map Registration.call) name _ (lookup_register registry name handed)
      rw [← registerAll, h] at hfound
      rw [Option.some.inj hfound, register_of_none hnone]
      rfl
    · have hstill : (registry.register name handed).1.lookup key = none := by
        rw [lookup_eq_none] at hnone ⊢
        rw [mem_keys_register registry ⟨name, handed⟩, not_or]
        exact ⟨Ne.symm hname, hnone⟩
      obtain ⟨before, supplied, after, hrest, hfirst, htable⟩ := ih hstill h
      refine ⟨⟨name, handed⟩ :: before, supplied, after, ?_, ?_, ?_⟩
      · rw [hrest, List.cons_append]
      · rw [List.map_cons, List.mem_cons, not_or]
        exact ⟨Ne.symm hname, hfirst⟩
      · rw [registerAll_cons]
        exact htable

/-! ### Aliases after calls -/

/-- **Aliases.**  Let any calls be made on a new registry, nested in reflections in any way, and
    let them return; they do as long as there are at most `UInt32.size` entries.  No table that is
    found has an empty alias, no two of them have the same one, and the aliases in use are exactly
    theirs.  Each of them has the schema, the name and the columns of the table that was handed in
    first under its key; and it has the alias of that one too, if this is not empty and was not
    the alias of another table when it was handed in. -/
theorem performAll_aliases {calls : List Call} (hreturns : empty.Returns calls) :
    let registry := empty.performAll calls
    (∀ key table, registry.lookup key = some table → table.rowAlias ≠ "") ∧
      (∀ key other table found, registry.lookup key = some table →
        registry.lookup other = some found → table.rowAlias = found.rowAlias → key = other) ∧
      (∀ rowAlias, rowAlias ∈ registry.aliases ↔
        ∃ key table, registry.lookup key = some table ∧ table.rowAlias = rowAlias) ∧
      ∀ key table, registry.lookup key = some table →
        ∃ before supplied after,
          empty.registrationsAll calls = before ++ ⟨key, supplied⟩ :: after ∧
            key ∉ before.map Registration.key ∧
            table.schema = supplied.schema ∧ table.name = supplied.name ∧
            table.columns = supplied.columns ∧
            (supplied.rowAlias ≠ "" →
              (∀ other found, (empty.registerAll before).lookup other = some found →
                found.rowAlias ≠ supplied.rowAlias) →
              table.rowAlias = supplied.rowAlias) := by
  intro registry
  refine ⟨?_, ?_, fun rowAlias => mem_aliases_performAll, ?_⟩
  · intro key table htable hempty
    have hmem := mem_aliases_performAll.mpr ⟨key, table, htable, hempty⟩
    exact (tallies_performAll calls).named hmem
  · intro key other table found hkey hother
    exact eq_of_rowAlias_eq (nodup_aliases_performAll hreturns) (tallies_performAll calls) hkey
      hother
  · intro key table htable
    have hfound : (empty.registerAll (empty.registrationsAll calls)).lookup key = some table := by
      rw [← performAll_eq]
      exact htable
    obtain ⟨before, supplied, after, hsplit, hfirst, rfl⟩ := exists_first_registration rfl hfound
    obtain ⟨rowAlias, counter, hadd⟩ := (empty.registerAll before).exists_add key supplied
    refine ⟨before, supplied, after, hsplit, hfirst, ?_, ?_, ?_, ?_⟩
    · rw [hadd]
    · rw [hadd]
    · rw [hadd]
    · intro hnamed hfree
      have hnot : supplied.rowAlias ∉ (empty.registerAll before).aliases := by
        intro hmem
        obtain ⟨other, found, hother, heq⟩ := mem_aliases_performAll.mp hmem
        exact hfree other found hother heq
      rw [rowAlias_add, needsAlias_eq_false.mpr ⟨hnamed, hnot⟩]
      rfl

/-- An entity that registers itself while it is reflected, one that declares a generated alias,
    one that declares an alias in use, and one that declares none. -/
theorem performAll_aliases_reentrant :
    let user : EntityName := ⟨"User"⟩
    let order : EntityName := ⟨"Order"⟩
    let calls : List Call :=
      [.resolve user
        [.insertNew ⟨"Item"⟩ ⟨"t1", none, "items", Keyed.empty⟩,
          .resolve user [.insertNew order ⟨"u", none, "orders", Keyed.empty⟩]
            ⟨"u", some "app", "users", Keyed.empty⟩]
        (.new "late"),
      .resolve ⟨"Note"⟩ [] (.new "notes")]
    let registry := empty.performAll calls
    empty.Returns calls ∧ registry.aliases = ["t3", "t2", "u", "t1"] ∧
      ∀ key other table found, registry.lookup key = some table →
        registry.lookup other = some found → table.rowAlias = found.rowAlias → key = other := by
  intro user order calls registry
  have hreturns : empty.Returns calls := returns_of_size (by decide)
  exact ⟨hreturns, by decide, (performAll_aliases hreturns).2.1⟩

end Registry

end BoundSql
