import BoundSql.Proofs.Registry.Aliases
import Mathlib.Data.List.Perm.Subperm

namespace BoundSql

/-!
# Registry — generated aliases are the least free ones

A search for an alias goes on from the number that was generated last, and does not begin anew.
All the same it finds the least alias that is free, because no alias with a number up to the
counter is ever free: the counter has passed over it while it was in use, or has stopped at it,
and entries stand.  So the counter never gets ahead of the entries, whatever aliases they
declare, and a search is over after one step more than there are entries.

* `Registry.Search` — a search, one step after the other.
* `Registry.Filled` — every alias with a number up to the counter is in use.
* `Registry.counter_le_size` — the counter and the entries.
* `Registry.performAll_leastAlias` — the alias that a registration generates.
-/

namespace Registry

variable {registry : Registry} {taken : List String}

/-! ### Searching step by step -/

/-- A search stops some steps behind a number.  Each step goes on by one and looks whether that
    alias is in use; the search goes on as long as it is. -/
inductive Search (taken : List String) : (last : UInt32) → (steps : Nat) → (found : UInt32) → Prop
    where
  | stop {last : UInt32} (hfree : generatedAlias (last + 1) ∉ taken) :
      Search taken last 1 (last + 1)
  | next {last found : UInt32} {steps : Nat} (htaken : generatedAlias (last + 1) ∈ taken)
      (h : Search taken (last + 1) steps found) : Search taken last (steps + 1) found

/-- A search that comes to a free alias stops there at the latest. -/
theorem exists_search {tries place : Nat} {last : UInt32} (hplace : place ≤ tries)
    (hfree : generatedAlias (candidate last place) ∉ taken) :
    ∃ steps ≤ place + 1, Search taken last steps (nextAlias taken tries last) := by
  induction tries generalizing last place with
  | zero =>
    rw [Nat.le_zero.mp hplace, candidate_zero] at hfree
    exact ⟨1, Nat.le_add_left 1 place, .stop hfree⟩
  | succ tries ih =>
    rw [nextAlias]
    split
    · rename_i htaken
      -- The free alias is not the first one, so that the rest of the search comes to it.
      cases place with
      | zero => exact absurd htaken hfree
      | succ place =>
        rw [candidate_succ] at hfree
        obtain ⟨steps, hsteps, hsearch⟩ := ih (Nat.le_of_succ_le_succ hplace) hfree
        exact ⟨steps + 1, Nat.succ_le_succ hsteps, .next htaken hsearch⟩
    · rename_i hstop
      exact ⟨1, Nat.le_add_left 1 place, .stop hstop⟩

namespace Search

variable {last found : UInt32} {steps : Nat}

theorem not_mem (h : Search taken last steps found) : generatedAlias found ∉ taken := by
  induction h with
  | stop hfree => exact hfree
  | next _ _ ih => exact ih

theorem pos (h : Search taken last steps found) : 0 < steps := by
  cases h <;> exact Nat.succ_pos _

/-- Every step goes on by one. -/
theorem found_eq (h : Search taken last steps found) : found = last + UInt32.ofNat steps := by
  induction h with
  | stop _ => rfl
  | @next last found steps _ _ ih =>
    have hone : UInt32.ofNat 1 = 1 := rfl
    rw [ih, UInt32.ofNat_add, hone, UInt32.add_assoc, UInt32.add_comm 1]

/-- What a search has passed over is in use. -/
theorem mem (h : Search taken last steps found) {place : Nat} (hplace : place + 1 < steps) :
    generatedAlias (candidate last place) ∈ taken := by
  induction h generalizing place with
  | stop _ => omega
  | next htaken _ ih =>
    cases place with
    | zero => exact htaken
    | succ place =>
      rw [candidate_succ]
      exact ih (by omega)

end Search

/-! ### Numbers in use -/

/-- The aliases with numbers from one up to a number are in use. -/
def UpTo (taken : List String) (number : Nat) : Prop :=
  ∀ n, 1 ≤ n → n ≤ number → "t" ++ Decimal.numeral n ∈ taken

/-- So many aliases are in use then. -/
theorem UpTo.le_length {number : Nat} (h : UpTo taken number) : number ≤ taken.length := by
  let names := (List.range number).map fun i => "t" ++ Decimal.numeral (i + 1)
  have hnodup : names.Nodup := by
    refine List.Nodup.map ?_ List.nodup_range
    intro i j hij
    have hnumeral := (String.append_right_inj "t").mp hij
    exact Nat.succ.inj (Decimal.numeral_injective hnumeral)
  have hsubset : names ⊆ taken := by
    intro name hname
    obtain ⟨i, hi, rfl⟩ := List.mem_map.mp hname
    have hlt := List.mem_range.mp hi
    exact h (i + 1) (by omega) (by omega)
  have hlength : names.length = number := by
    rw [List.length_map, List.length_range]
  have hle := (List.subperm_of_subset hnodup hsubset).length_le
  omega

/-- A search that does not run over passes over everything between where it begins and where it
    stops. -/
theorem mem_of_lt_nextAlias {tries n : Nat} {last : UInt32} (hlast : last.toNat < n)
    (hn : n < (nextAlias taken tries last).toNat) : "t" ++ Decimal.numeral n ∈ taken := by
  have hnext : (last + 1).toNat ≤ last.toNat + 1 := by
    rw [UInt32.toNat_add]
    exact Nat.mod_le _ _
  induction tries generalizing last with
  | zero =>
    rw [nextAlias] at hn
    omega
  | succ tries ih =>
    rw [nextAlias] at hn
    split at hn
    · rename_i htaken
      by_cases hfirst : n = last.toNat + 1
      · -- The first number has not run over, because there are numbers behind it.
        have hlt := UInt32.toNat_lt_size (nextAlias taken tries (last + 1))
        have hnumber : (last + 1).toNat = n := by
          rw [UInt32.toNat_add, UInt32.toNat_one]
          unfold UInt32.size at hlt
          omega
        rw [← hnumber]
        exact htaken
      · refine ih (by omega) hn ?_
        rw [UInt32.toNat_add]
        exact Nat.mod_le _ _
    · omega

/-- Every alias with a number up to the counter is in use. -/
def Filled (registry : Registry) : Prop := UpTo registry.aliases registry.counter.toNat

theorem counter_add (registry : Registry) (key : EntityName) (table : Table) :
    (registry.add key table).1.counter =
      if registry.needsAlias table.rowAlias then
        nextAlias registry.aliases registry.aliases.length registry.counter
      else registry.counter := by
  unfold add
  split <;> rfl

/-- **One registration** keeps the numbers filled: the counter stays where it is, or goes to the
    number of the new alias and passes over nothing that is free. -/
theorem Filled.add (h : registry.Filled) (key : EntityName) (table : Table) :
    (registry.add key table).1.Filled := by
  intro n hpos hle
  rw [aliases_add]
  by_cases hold : n ≤ registry.counter.toNat
  · exact List.mem_cons_of_mem _ (h n hpos hold)
  rw [Nat.not_le] at hold
  rw [counter_add] at hle
  rw [rowAlias_add]
  split at hle
  · rename_i hneeds
    rw [if_pos hneeds]
    by_cases hlast : n = (nextAlias registry.aliases registry.aliases.length registry.counter).toNat
    · rw [hlast]
      exact List.mem_cons_self
    · have hlt : n < (nextAlias registry.aliases registry.aliases.length
          registry.counter).toNat := by omega
      exact List.mem_cons_of_mem _ (mem_of_lt_nextAlias hold hlt)
  · omega

theorem filled_performAll (calls : List Call) : (empty.performAll calls).Filled := by
  have hempty : empty.Filled := by
    intro n hpos hle
    exact absurd (Nat.le_trans hpos hle) (by decide)
  exact performAll_invariant (P := Filled) (fun _ key table h _ => h.add key table) hempty calls

theorem Tallies.length_aliases (h : registry.Tallies) :
    registry.aliases.length = registry.size := by
  rw [h.aliases, List.length_map]
  rfl

/-- **The counter** is never ahead of the entries. -/
theorem counter_le_size (calls : List Call) :
    (empty.performAll calls).counter.toNat ≤ (empty.performAll calls).size := by
  rw [← (tallies_performAll calls).length_aliases]
  exact (filled_performAll calls).le_length

namespace Search

variable {last found : UInt32} {steps : Nat}

/-- The numbers that a search has passed over, up to where the counter runs over. -/
theorem mem_of_lt (h : Search taken last steps found) {n : Nat} (hlast : last.toNat < n)
    (hn : n < last.toNat + steps) (hsize : n < UInt32.size) :
    "t" ++ Decimal.numeral n ∈ taken := by
  have hnumber : (candidate last (n - last.toNat - 1)).toNat = n := by
    rw [candidate, UInt32.toNat_add, UInt32.toNat_ofNat']
    unfold UInt32.size at hsize
    omega
  have hplace : n - last.toNat - 1 + 1 < steps := by omega
  rw [← hnumber]
  exact h.mem hplace

/-- With room for one more entry a search does not run over: else everything behind the counter
    would be in use, as everything in front of it is. -/
theorem toNat_found (h : Search registry.aliases registry.counter steps found)
    (hfilled : registry.Filled) (hroom : registry.aliases.length + 1 < UInt32.size) :
    found.toNat = registry.counter.toNat + steps := by
  have hlt : registry.counter.toNat + steps < UInt32.size := by
    by_contra hover
    have hall : UpTo registry.aliases (UInt32.size - 1) := by
      intro n hpos hle
      by_cases hold : n ≤ registry.counter.toNat
      · exact hfilled n hpos hold
      · exact h.mem_of_lt (by omega) (by omega) (by omega)
    have hle := hall.le_length
    omega
  rw [h.found_eq, UInt32.toNat_add, UInt32.toNat_ofNat']
  unfold UInt32.size at hlt
  omega

/-- Everything below the number that it has found is in use. -/
theorem upTo (h : Search registry.aliases registry.counter steps found)
    (hfilled : registry.Filled) (hfound : found.toNat = registry.counter.toNat + steps) :
    UpTo registry.aliases (found.toNat - 1) := by
  intro n hpos hle
  have hsize := UInt32.toNat_lt_size found
  by_cases hold : n ≤ registry.counter.toNat
  · exact hfilled n hpos hold
  · exact h.mem_of_lt (by omega) (by omega) (by omega)

end Search

/-! ### Generated aliases -/

/-- **Generated aliases.**  Let any calls be made on a new registry, nested in reflections in any
    way.  The counter is not ahead of the entries then.  Let a table be registered under a new key,
    without an alias or with the alias of another table, and let there be fewer than `UInt32.size`
    entries with it.  The search for an alias stops, after at most one step more than there are
    entries, and the counter does not run over.  The alias has the least number from one on with
    which it is not the alias of any table. -/
theorem performAll_leastAlias (past : List Call) :
    let registry := empty.performAll past
    registry.counter.toNat ≤ registry.size ∧
      ∀ key table, registry.lookup key = none →
        (table.rowAlias = "" ∨ ∃ other found, registry.lookup other = some found ∧
          found.rowAlias = table.rowAlias) →
        registry.size + 1 < UInt32.size →
        ∃ steps number, Search registry.aliases registry.counter steps number ∧
          steps ≤ registry.size + 1 ∧
          number.toNat = registry.counter.toNat + steps ∧
          (registry.register key table).1.counter = number ∧
          (registry.register key table).2.rowAlias = "t" ++ Decimal.numeral number.toNat ∧
          1 ≤ number.toNat ∧
          (∀ other found, registry.lookup other = some found →
            found.rowAlias ≠ "t" ++ Decimal.numeral number.toNat) ∧
          ∀ n, 1 ≤ n → n < number.toNat → ∃ other found, registry.lookup other = some found ∧
            found.rowAlias = "t" ++ Decimal.numeral n := by
  intro registry
  refine ⟨counter_le_size past, ?_⟩
  intro key table hnew hclash hroom
  have hfilled : registry.Filled := filled_performAll past
  have hlength : registry.aliases.length = registry.size := (tallies_performAll past).length_aliases
  have hneeds : registry.needsAlias table.rowAlias = true := by
    by_contra hkeeps
    obtain ⟨hnamed, hfree⟩ := needsAlias_eq_false.mp (Bool.eq_false_iff.mpr hkeeps)
    rcases hclash with hempty | hused
    · exact hnamed hempty
    · exact hfree (mem_aliases_performAll.mpr hused)
  -- Among the first numbers behind the counter, one more than there are entries, one is free.
  have hlt : registry.aliases.length < UInt32.size := by omega
  obtain ⟨place, hplace, hfree⟩ := exists_candidate_not_mem hlt registry.counter
  obtain ⟨steps, hsteps, hsearch⟩ := exists_search hplace hfree
  have hnumber := hsearch.toNat_found hfilled (by omega)
  refine ⟨steps, _, hsearch, by omega, hnumber, ?_, ?_, ?_, ?_, ?_⟩
  · rw [register_of_none hnew, counter_add, if_pos hneeds]
  · rw [register_of_none hnew, rowAlias_add, if_pos hneeds]
    rfl
  · have hpos := hsearch.pos
    omega
  · intro other found hfound heq
    exact hsearch.not_mem (mem_aliases_performAll.mpr ⟨other, found, hfound, heq⟩)
  · intro n hpos hn
    exact mem_aliases_performAll.mp (hsearch.upTo hfilled hnumber n hpos (by omega))

/-- An alias of the generated form is declared before the first one is generated, and another table
    declares it again: the search goes on from one and passes over it. -/
theorem performAll_leastAlias_declared :
    let calls : List Call :=
      [.insertNew ⟨"Tag"⟩ ⟨"t2", none, "tags", Keyed.empty⟩, .resolve ⟨"Note"⟩ [] (.new "notes")]
    let item : Table := ⟨"t2", none, "items", Keyed.empty⟩
    let registry := empty.performAll calls
    registry.aliases = ["t1", "t2"] ∧ registry.counter = 1 ∧
      registry.counter.toNat ≤ registry.size ∧
      ∃ steps number, Search registry.aliases registry.counter steps number ∧ steps ≤ 3 ∧
        number.toNat = registry.counter.toNat + steps ∧
        (registry.register ⟨"Item"⟩ item).2.rowAlias = "t" ++ Decimal.numeral number.toNat ∧
        ∀ n, 1 ≤ n → n < number.toNat → ∃ other found, registry.lookup other = some found ∧
          found.rowAlias = "t" ++ Decimal.numeral n := by
  intro calls item registry
  obtain ⟨hcounter, hleast⟩ := performAll_leastAlias calls
  have hclash : ∃ other found, registry.lookup other = some found ∧
      found.rowAlias = item.rowAlias := ⟨⟨"Tag"⟩, ⟨"t2", none, "tags", Keyed.empty⟩, by decide, rfl⟩
  obtain ⟨steps, number, hsearch, hsteps, hnumber, -, halias, -, -, hused⟩ :=
    hleast ⟨"Item"⟩ item (by decide) (.inr hclash) (by decide)
  exact ⟨by decide, by decide, hcounter, steps, number, hsearch, hsteps, hnumber, halias, hused⟩

end Registry

end BoundSql
