import BoundSql.Proofs.Registry.LeastAlias

namespace BoundSql

/-!
# Registry — registries that cannot be told apart

Two registries in which the same is found under every key, in which the same aliases are in use, and
whose next search for an alias begins at the same number, differ at most in the order of their
entries.  No call looks at this order, so that they agree through all calls, and whoever
resolves an entity in both of them is given the same table.

* `Registry.Agrees` — registries that cannot be told apart.
* `Registry.Agrees.register`, `Registry.Agrees.performAll`, `Registry.Agrees.resolve` — they go on agreeing.
* `Registry.agrees_performAll` — when registries agree that calls lead to.
-/

namespace Registry

/-- The registries differ at most in the order of their entries. -/
structure Agrees (a b : Registry) : Prop where
  lookup : ∀ key, a.lookup key = b.lookup key
  aliases : a.aliases.Perm b.aliases
  counter : a.counter = b.counter

/-- A search asks of an alias only whether it is in use. -/
theorem nextAlias_congr {taken other : List String} (h : ∀ name, name ∈ taken ↔ name ∈ other)
    (tries : Nat) (last : UInt32) : nextAlias taken tries last = nextAlias other tries last := by
  induction tries generalizing last with
  | zero => rfl
  | succ tries ih =>
    rw [nextAlias, nextAlias, ih]
    simp only [h]

namespace Agrees

variable {a b : Registry}

theorem get (h : a.Agrees b) (key : EntityName) : a.get key = b.get key := by
  rw [Registry.get, Registry.get, h.lookup]

theorem nextAlias_eq (h : a.Agrees b) :
    nextAlias a.aliases a.aliases.length a.counter
      = nextAlias b.aliases b.aliases.length b.counter := by
  rw [h.aliases.length_eq, h.counter]
  exact nextAlias_congr (fun name => h.aliases.mem_iff) _ _

theorem needsAlias_eq (h : a.Agrees b) (declared : String) :
    a.needsAlias declared = b.needsAlias declared := by
  rw [needsAlias, needsAlias, Bool.eq_iff_iff]
  simp only [Bool.or_eq_true, List.contains_iff_mem, h.aliases.mem_iff]

theorem snd_add (h : a.Agrees b) (key : EntityName) (table : Table) :
    (a.add key table).2 = (b.add key table).2 := by
  rw [add, add, h.needsAlias_eq, h.nextAlias_eq]
  split <;> rfl

/-- **One registration** gives the same table, and the registries agree afterwards. -/
theorem add (h : a.Agrees b) (key : EntityName) (table : Table) :
    (a.add key table).1.Agrees (b.add key table).1 where
  lookup name := by rw [lookup_add, lookup_add, h.snd_add, h.lookup]
  aliases := by
    rw [aliases_add, aliases_add, h.snd_add]
    exact h.aliases.cons _
  counter := by rw [counter_add, counter_add, h.needsAlias_eq, h.nextAlias_eq, h.counter]

theorem register (h : a.Agrees b) (key : EntityName) (table : Table) :
    (a.register key table).1.Agrees (b.register key table).1 ∧
      (a.register key table).2 = (b.register key table).2 := by
  rw [Registry.register, Registry.register, ← h.lookup]
  cases a.lookup key with
  | some existing => exact ⟨h, rfl⟩
  | none => exact ⟨h.add key table, h.snd_add key table⟩

mutual

theorem perform {a b : Registry} (h : a.Agrees b) :
    (call : Call) → (a.perform call).Agrees (b.perform call)
  | .insertNew key table => by
    rw [Registry.perform, Registry.perform, fst_insertNew, fst_insertNew]
    exact (h.register key table).1
  | .resolve key during table => by
    rw [Registry.perform, Registry.perform, ← h.lookup]
    cases a.lookup key with
    | some existing => exact h
    | none => exact ((performAll h during).register key table).1

/-- **Calls** on registries that agree lead to registries that agree. -/
theorem performAll {a b : Registry} (h : a.Agrees b) :
    (calls : List Call) → (a.performAll calls).Agrees (b.performAll calls)
  | [] => h
  | call :: rest => performAll (perform h call) rest

end

/-- **Resolving** an entity gives the same table, and the registries agree afterwards. -/
theorem resolve (h : a.Agrees b) (e : Entity) :
    (a.resolve e).1.Agrees (b.resolve e).1 ∧ (a.resolve e).2 = (b.resolve e).2 := by
  rw [Registry.resolve, Registry.resolve, ← h.lookup]
  cases a.lookup e.key with
  | some hit => exact ⟨h, rfl⟩
  | none => exact (h.performAll e.during).register e.key e.table

end Agrees

/-! ### Calls on new registries -/

/-- Registries that calls lead to agree if the same is found in them under every key and their
    counters are at the same number. -/
theorem agrees_performAll {calls other : List Call}
    (hlookup : ∀ key, (empty.performAll calls).lookup key = (empty.performAll other).lookup key)
    (hcounter : (empty.performAll calls).counter = (empty.performAll other).counter) :
    (empty.performAll calls).Agrees (empty.performAll other) where
  lookup := hlookup
  counter := hcounter
  aliases := by
    -- No key occurs twice, so that the entries are those that are found.
    have hentry : ∀ (calls : List Call) (entry : EntityName × Table),
        entry ∈ (empty.performAll calls).entries ↔
          (empty.performAll calls).lookup entry.1 = some entry.2 := by
      intro calls entry
      exact ⟨Keyed.find?_of_mem (nodup_keys_performAll calls), Keyed.mem_of_find?⟩
    have hnodup : ∀ calls : List Call, (empty.performAll calls).entries.Nodup :=
      fun calls => (nodup_keys_performAll calls).of_map _
    have hentries : (empty.performAll calls).entries.Perm (empty.performAll other).entries := by
      refine (List.perm_ext_iff_of_nodup (hnodup calls) (hnodup other)).mpr fun entry => ?_
      rw [hentry, hentry, hlookup]
    rw [(tallies_performAll calls).aliases, (tallies_performAll other).aliases]
    exact hentries.map _

end Registry

end BoundSql
