import BoundSql.Proofs.Keyed
import BoundSql.Registry.Calls
import Mathlib.Data.Finset.Card

namespace BoundSql

/-!
# Registry — the first registration stands

However calls are nested in each other's reflections, what they do to a registry is a plain
sequence of registrations, and each of these either finds its key registered and does nothing,
or adds an entry in front of the others.  So an entry is never changed or lost, and a call
answers what is found under its key afterwards.

* `Registry.registrationsAll` — the registrations that calls come to.
* `Registry.performAll_eq` — calls do what their registrations do.
* `Registry.Within` — every entry of the one registry is found in the other one.
* `Registry.performAll_writeOnce` — what calls can do after any other calls.
-/

namespace Registry

variable {registry : Registry} {key : EntityName} {table : Table}

/-! ### One registration -/

/-- Adding a table puts one entry and one alias in front, and only the alias of the table is
    ever changed. -/
theorem exists_add (registry : Registry) (key : EntityName) (table : Table) :
    ∃ rowAlias counter, registry.add key table =
      (⟨(key, { table with rowAlias }) :: registry.entries, rowAlias :: registry.aliases, counter⟩,
        { table with rowAlias }) := by
  unfold add
  split
  · exact ⟨_, _, rfl⟩
  · exact ⟨table.rowAlias, registry.counter, rfl⟩

theorem entries_add (registry : Registry) (key : EntityName) (table : Table) :
    (registry.add key table).1.entries = (key, (registry.add key table).2) :: registry.entries := by
  obtain ⟨rowAlias, counter, hadd⟩ := registry.exists_add key table
  rw [hadd]

theorem lookup_add (registry : Registry) (key : EntityName) (table : Table) (name : EntityName) :
    (registry.add key table).1.lookup name =
      if key = name then some (registry.add key table).2 else registry.lookup name := by
  rw [lookup, entries_add]
  rfl

theorem register_of_some {existing : Table} (h : registry.lookup key = some existing) :
    registry.register key table = (registry, existing) := by
  rw [register, h]

theorem register_of_none (h : registry.lookup key = none) :
    registry.register key table = registry.add key table := by
  rw [register, h]

theorem fst_insertNew (registry : Registry) (key : EntityName) (table : Table) :
    (registry.insertNew key table).1 = (registry.register key table).1 := by
  unfold insertNew register
  split <;> rfl

theorem snd_insertNew (registry : Registry) (key : EntityName) (table : Table) :
    (registry.insertNew key table).2 = true ↔ registry.lookup key = none := by
  unfold insertNew
  split
  · rename_i existing h
    simp [h]
  · rename_i h
    simp [h]

end Registry

/-! ### Calls as registrations -/

/-- A table that is handed to a registry under a key. -/
structure Registration where
  key : EntityName
  table : Table
  deriving DecidableEq

/-- The call that does no more than this. -/
def Registration.call (r : Registration) : Call := .insertNew r.key r.table

namespace Registry

variable {registry : Registry} {key : EntityName} {table : Table}

mutual

/-- The registrations that a call comes to, in their order.  An entity that is registered
    already comes to none; any other one registers what it does while it is reflected, and its
    own table after that. -/
def registrations (registry : Registry) : Call → List Registration
  | .insertNew key table => [⟨key, table⟩]
  | .resolve key during table =>
      match registry.lookup key with
      | some _ => []
      | none => registry.registrationsAll during ++ [⟨key, table⟩]

/-- The registrations that calls in order come to. -/
def registrationsAll (registry : Registry) : List Call → List Registration
  | [] => []
  | call :: rest => registry.registrations call ++ (registry.perform call).registrationsAll rest

end

/-- The registry after registrations in order, none of which is nested in another one. -/
def registerAll (registry : Registry) (rs : List Registration) : Registry :=
  registry.performAll (rs.map Registration.call)

theorem performAll_append (registry : Registry) (a b : List Call) :
    registry.performAll (a ++ b) = (registry.performAll a).performAll b := by
  induction a generalizing registry with
  | nil => rfl
  | cons call rest ih => exact ih (registry.perform call)

theorem registerAll_append (registry : Registry) (a b : List Registration) :
    registry.registerAll (a ++ b) = (registry.registerAll a).registerAll b := by
  rw [registerAll, List.map_append, performAll_append]
  rfl

theorem registerAll_cons (registry : Registry) (r : Registration) (rest : List Registration) :
    registry.registerAll (r :: rest) = (registry.register r.key r.table).1.registerAll rest := by
  rw [← fst_insertNew]
  rfl

mutual

theorem perform_eq (registry : Registry) :
    (call : Call) → registry.perform call = registry.registerAll (registry.registrations call)
  | .insertNew key table => rfl
  | .resolve key during table => by
      rw [perform, registrations]
      cases registry.lookup key with
      | some existing => rfl
      | none =>
        -- The table is handed in after the calls, to the registry that they leave.
        show ((registry.performAll during).register key table).1 = _
        rw [registerAll_append, ← performAll_eq registry during, registerAll_cons]
        rfl

/-- **Calls.**  What calls do is what their registrations do, one after the other. -/
theorem performAll_eq (registry : Registry) :
    (calls : List Call) →
      registry.performAll calls = registry.registerAll (registry.registrationsAll calls)
  | [] => rfl
  | call :: rest => by
      rw [performAll, registrationsAll, registerAll_append, ← perform_eq registry call]
      exact performAll_eq (registry.perform call) rest

end

/-- What adding an entry under a new key keeps, registrations keep. -/
theorem registerAll_invariant {P : Registry → Prop}
    (hadd : ∀ registry key table, P registry → registry.lookup key = none →
      P (registry.add key table).1)
    {registry : Registry} (h : P registry) (rs : List Registration) :
    P (registry.registerAll rs) := by
  induction rs generalizing registry with
  | nil => exact h
  | cons r rest ih =>
    rw [registerAll_cons]
    refine ih ?_
    cases hlookup : registry.lookup r.key with
    | some existing => rwa [register_of_some hlookup]
    | none =>
      rw [register_of_none hlookup]
      exact hadd registry r.key r.table h hlookup

theorem performAll_invariant {P : Registry → Prop}
    (hadd : ∀ registry key table, P registry → registry.lookup key = none →
      P (registry.add key table).1)
    {registry : Registry} (h : P registry) (calls : List Call) :
    P (registry.performAll calls) := by
  rw [performAll_eq]
  exact registerAll_invariant hadd h _

/-! ### Entries stand -/

/-- Whatever is found in the first registry is found in the second one. -/
def Within (registry later : Registry) : Prop :=
  ∀ key table, registry.lookup key = some table → later.lookup key = some table

theorem Within.refl (registry : Registry) : registry.Within registry := fun _ _ h => h

theorem Within.trans {a b c : Registry} (hab : a.Within b) (hbc : b.Within c) : a.Within c :=
  fun key table h => hbc key table (hab key table h)

/-- What is found does not change, so that the empty table does not stand in for it either. -/
theorem Within.get {later : Registry} (h : registry.Within later)
    (hkey : (registry.lookup key).isSome = true) : later.get key = registry.get key := by
  obtain ⟨table, htable⟩ := Option.isSome_iff_exists.mp hkey
  rw [Registry.get, Registry.get, htable, h key table htable]

theorem Within.isSome {later : Registry} (h : registry.Within later)
    (hkey : (registry.lookup key).isSome = true) : (later.lookup key).isSome = true := by
  obtain ⟨table, htable⟩ := Option.isSome_iff_exists.mp hkey
  rw [h key table htable]
  rfl

theorem within_add (table : Table) (h : registry.lookup key = none) :
    registry.Within (registry.add key table).1 := by
  intro name found hfound
  -- The new entry cannot hide this one, because its key was not there.
  have hne : key ≠ name := by
    rintro rfl
    rw [h] at hfound
    exact absurd hfound (by simp)
  rw [lookup_add, if_neg hne, hfound]

/-- **Entries stand** through all calls. -/
theorem within_performAll (registry : Registry) (calls : List Call) :
    registry.Within (registry.performAll calls) :=
  performAll_invariant (P := registry.Within)
    (fun _ _ table hwithin hnone => hwithin.trans (within_add table hnone)) (.refl registry) calls

/-! ### Keys -/

theorem keys_add (registry : Registry) (key : EntityName) (table : Table) :
    (registry.add key table).1.keys = key :: registry.keys := by
  rw [keys, entries_add]
  rfl

theorem lookup_eq_none : registry.lookup key = none ↔ key ∉ registry.keys := Keyed.find?_eq_none

/-- No key occurs twice. -/
theorem nodup_keys_performAll (calls : List Call) : (empty.performAll calls).keys.Nodup := by
  have hempty : empty.keys.Nodup := List.nodup_nil
  refine performAll_invariant (P := fun registry => registry.keys.Nodup) ?_ hempty calls
  intro registry key table hnodup hnone
  rw [keys_add, List.nodup_cons]
  exact ⟨lookup_eq_none.mp hnone, hnodup⟩

theorem mem_keys_register (registry : Registry) (r : Registration) (name : EntityName) :
    name ∈ (registry.register r.key r.table).1.keys ↔ name = r.key ∨ name ∈ registry.keys := by
  cases hlookup : registry.lookup r.key with
  | some existing =>
    rw [register_of_some hlookup]
    have hmem : r.key ∈ registry.keys := by
      by_contra hkey
      rw [lookup_eq_none.mpr hkey] at hlookup
      exact absurd hlookup (by simp)
    exact ⟨.inr, fun h => h.elim (fun heq => heq ▸ hmem) id⟩
  | none => rw [register_of_none hlookup, keys_add, List.mem_cons]

/-- The keys are those under which a table was handed in. -/
theorem mem_keys_registerAll (registry : Registry) (rs : List Registration) (name : EntityName) :
    name ∈ (registry.registerAll rs).keys ↔
      name ∈ rs.map Registration.key ∨ name ∈ registry.keys := by
  induction rs generalizing registry with
  | nil => simp [registerAll, performAll]
  | cons r rest ih =>
    rw [registerAll_cons, ih, mem_keys_register, List.map_cons, List.mem_cons, or_assoc,
      or_left_comm]

/-- There are as many entries as keys under which a table was handed in. -/
theorem size_performAll (calls : List Call) :
    (empty.performAll calls).size =
      ((empty.registrationsAll calls).map Registration.key).toFinset.card := by
  have hkeys : (empty.performAll calls).keys.toFinset
      = ((empty.registrationsAll calls).map Registration.key).toFinset := by
    ext name
    rw [List.mem_toFinset, List.mem_toFinset, performAll_eq, mem_keys_registerAll]
    simp [keys, empty]
  rw [← hkeys, List.toFinset_card_of_nodup (nodup_keys_performAll calls), keys, List.length_map]
  rfl

/-! ### Resolving -/

theorem lookup_resolve (registry : Registry) (e : Entity) :
    (registry.resolve e).1.lookup e.key = some (registry.resolve e).2 := by
  unfold resolve
  split
  · assumption
  · exact lookup_register _ e.key e.table

theorem resolve_of_some {e : Entity} (h : registry.lookup e.key = some table) :
    registry.resolve e = (registry, table) := by
  rw [resolve, h]

/-- An entity that was registered while it was reflected is not registered again. -/
theorem resolve_of_some_performAll {e : Entity} (h : registry.lookup e.key = none)
    (hduring : (registry.performAll e.during).lookup e.key = some table) :
    registry.resolve e = (registry.performAll e.during, table) := by
  rw [resolve, h]
  exact register_of_some hduring

/-! ### Inserting -/

theorem insertNew_of_some {existing : Table} (h : registry.lookup key = some existing) :
    registry.insertNew key table = (registry, false) := by
  rw [insertNew, h]

/-- A table that is taken is found under its key, perhaps with another alias, and nothing else
    has changed. -/
theorem lookup_insertNew_of_none (table : Table) (h : registry.lookup key = none) :
    ∃ rowAlias, ∀ name, (registry.insertNew key table).1.lookup name =
      if key = name then some { table with rowAlias } else registry.lookup name := by
  obtain ⟨rowAlias, counter, hadd⟩ := registry.exists_add key table
  refine ⟨rowAlias, fun name => ?_⟩
  rw [fst_insertNew, register_of_none h, lookup_add, hadd]

/-- **The first registration stands.**  Let any calls be made on a new registry, nested in
    reflections in any way.  What is found under a key is found there for good, through all
    further calls.  A table is taken exactly if there is none under its key, and then only this
    key is added; where it is not taken, the registry stays as it is.  It also stays as it is
    where an entity is resolved that is registered; and where an entity is registered while it
    is reflected, nothing is added to what its own calls have done.  Resolving gives what is
    found under the key right after it.  There are as many entries as keys under which a table
    was ever handed in. -/
theorem performAll_writeOnce (past : List Call) :
    let registry := empty.performAll past
    (∀ further key table, registry.lookup key = some table →
        (registry.performAll further).lookup key = some table) ∧
      (∀ key table,
        ((registry.insertNew key table).2 = true ↔ registry.lookup key = none) ∧
          ((registry.insertNew key table).2 = true →
            ∃ rowAlias, ∀ name, (registry.insertNew key table).1.lookup name =
              if key = name then some { table with rowAlias } else registry.lookup name) ∧
          ((registry.insertNew key table).2 = false → (registry.insertNew key table).1 = registry)) ∧
      (∀ e : Entity,
        (registry.resolve e).1.lookup e.key = some (registry.resolve e).2 ∧
          (registry.lookup e.key ≠ none → (registry.resolve e).1 = registry) ∧
          (registry.lookup e.key = none → (registry.performAll e.during).lookup e.key ≠ none →
            (registry.resolve e).1 = registry.performAll e.during)) ∧
      registry.size = ((empty.registrationsAll past).map Registration.key).toFinset.card := by
  intro registry
  refine ⟨fun further => registry.within_performAll further, ?_, ?_, size_performAll past⟩
  · intro key table
    refine ⟨registry.snd_insertNew key table, ?_, ?_⟩
    · intro htaken
      exact lookup_insertNew_of_none table ((registry.snd_insertNew key table).mp htaken)
    · intro hrefused
      cases hlookup : registry.lookup key with
      | some existing => rw [insertNew_of_some hlookup]
      | none =>
        rw [(registry.snd_insertNew key table).mpr hlookup] at hrefused
        exact absurd hrefused (by simp)
  · intro e
    refine ⟨registry.lookup_resolve e, ?_, ?_⟩
    · intro hsome
      obtain ⟨table, htable⟩ := Option.ne_none_iff_exists'.mp hsome
      rw [resolve_of_some htable]
    · intro hnone hduring
      obtain ⟨table, htable⟩ := Option.ne_none_iff_exists'.mp hduring
      rw [resolve_of_some_performAll hnone htable]

end Registry

end BoundSql
