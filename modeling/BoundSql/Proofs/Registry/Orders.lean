import BoundSql.Proofs.Registry.LeastAlias

namespace BoundSql

/-!
# Registry — registrations in another order

Where declared aliases clash neither with each other nor with generated ones, a table that declares
an alias is registered as it is, and the others are numbered in their order, because no search ever
passes over anything.  So the registry can be told from the first registrations of its keys, and
how those that declare an alias stand among the others makes no difference to it.

* `Registry.firsts`, `Registry.registerAll_firsts` — the first registration of each key.
* `Registry.Unclashing` — aliases that do not clash.
* `Registry.Ready`, `Registry.Ready.register` — what carries over from one registration to the
  next.
* `Registry.Ready.registerAll` — what stands under each key.
* `Registry.lookup_eq_of_perm` — registrations in another order.
-/

/-- Does the table declare no alias? -/
def Registration.isBare (r : Registration) : Bool := r.table.rowAlias.isEmpty

namespace Registry

variable {registry : Registry}

/-! ### First registrations -/

/-- The first registration of each key. -/
def firsts : List Registration → List Registration
  | [] => []
  | r :: rest => r :: (firsts rest).filter fun other => other.key ≠ r.key

theorem nodup_firsts (rs : List Registration) : ((firsts rs).map Registration.key).Nodup := by
  induction rs with
  | nil => exact List.nodup_nil
  | cons r rest ih =>
    rw [firsts, List.map_cons, List.nodup_cons]
    constructor
    · intro hmem
      obtain ⟨other, hother, hkey⟩ := List.mem_map.mp hmem
      exact absurd hkey (of_decide_eq_true (List.mem_filter.mp hother).2)
    · exact ih.sublist (List.filter_sublist.map _)

theorem within_register (registry : Registry) (r : Registration) :
    registry.Within (registry.register r.key r.table).1 := by
  rw [← fst_insertNew]
  exact registry.within_performAll [r.call]

/-- Further registrations of a registered key change nothing. -/
theorem registerAll_filter {key : EntityName} (h : (registry.lookup key).isSome = true)
    (rs : List Registration) :
    registry.registerAll (rs.filter fun other => other.key ≠ key) = registry.registerAll rs := by
  induction rs generalizing registry with
  | nil => rfl
  | cons r rest ih =>
    rw [registerAll_cons]
    have hlater : ((registry.register r.key r.table).1.lookup key).isSome = true :=
      (registry.within_register r).isSome h
    by_cases hkey : r.key = key
    · rw [List.filter_cons_of_neg (by simpa using hkey)]
      obtain ⟨table, htable⟩ := Option.isSome_iff_exists.mp h
      rw [ih h, hkey, register_of_some htable]
    · rw [List.filter_cons_of_pos (by simpa using hkey), registerAll_cons, ih hlater]

theorem registerAll_firsts (registry : Registry) (rs : List Registration) :
    registry.registerAll (firsts rs) = registry.registerAll rs := by
  induction rs generalizing registry with
  | nil => rfl
  | cons r rest ih =>
    have hregistered : ((registry.register r.key r.table).1.lookup r.key).isSome = true := by
      rw [lookup_register]
      rfl
    rw [firsts, registerAll_cons, registerAll_cons, registerAll_filter hregistered, ih]

/-! ### Aliases that do not clash -/

/-- Declared aliases are not declared twice, and none of them can be generated. -/
structure Unclashing (order : List Registration) : Prop where
  nodup : ((order.filter fun r => !r.isBare).map fun r => r.table.rowAlias).Nodup
  declared : ∀ r ∈ order, ∀ n ≥ 1, r.table.rowAlias ≠ "t" ++ Decimal.numeral n

theorem Unclashing.tail {r : Registration} {rest : List Registration}
    (h : Unclashing (r :: rest)) : Unclashing rest where
  nodup := h.nodup.sublist (((List.sublist_cons_self r rest).filter _).map _)
  declared other hother := h.declared other (List.mem_cons_of_mem r hother)

theorem Unclashing.perm {order other : List Registration} (h : Unclashing order)
    (hsame : other.Perm order) : Unclashing other where
  nodup := ((hsame.filter _).map _).nodup_iff.mpr h.nodup
  declared r hr := h.declared r (hsame.subset hr)

/-- The registry is ready for registrations under new keys, where as many tables as counted have
    been numbered: their aliases are free, and so are all those with greater numbers. -/
structure Ready (registry : Registry) (count : Nat) (order : List Registration) : Prop where
  counter : registry.counter.toNat = count
  free : ∀ n > count, "t" ++ Decimal.numeral n ∉ registry.aliases
  absent : ∀ r ∈ order, registry.lookup r.key = none
  nodup : (order.map Registration.key).Nodup
  unclashing : Unclashing order
  apart : ∀ r ∈ order, r.isBare = false → r.table.rowAlias ∉ registry.aliases
  room : count + (order.filter Registration.isBare).length < UInt32.size

theorem nextAlias_of_not_mem {taken : List String} {last : UInt32}
    (h : generatedAlias (last + 1) ∉ taken) (tries : Nat) :
    nextAlias taken tries last = last + 1 := by
  cases tries with
  | zero => rfl
  | succ tries => rw [nextAlias, if_neg h]

namespace Ready

variable {count : Nat} {r : Registration} {rest : List Registration}

/-- The next registration leaves the registry ready for the others, if its alias is neither theirs
    nor one of those that have to stay free. -/
theorem next (h : registry.Ready count (r :: rest)) {after : Nat}
    (hcounter : (registry.add r.key r.table).1.counter.toNat = after) (hle : count ≤ after)
    (hfree : ∀ n > after, (registry.add r.key r.table).2.rowAlias ≠ "t" ++ Decimal.numeral n)
    (hapart : ∀ other ∈ rest, other.isBare = false →
      other.table.rowAlias ≠ (registry.add r.key r.table).2.rowAlias)
    (hroom : after + (rest.filter Registration.isBare).length < UInt32.size) :
    (registry.add r.key r.table).1.Ready after rest where
  counter := hcounter
  free n hn := by
    rw [aliases_add, List.mem_cons, not_or]
    exact ⟨(hfree n hn).symm, h.free n (by omega)⟩
  absent other hother := by
    have hne : r.key ≠ other.key := by
      intro hkey
      have hnodup := h.nodup
      rw [List.map_cons, List.nodup_cons, hkey] at hnodup
      exact hnodup.1 (List.mem_map_of_mem hother)
    rw [lookup_add, if_neg hne]
    exact h.absent other (List.mem_cons_of_mem r hother)
  nodup := (List.nodup_cons.mp h.nodup).2
  unclashing := h.unclashing.tail
  apart other hother hdeclares := by
    rw [aliases_add, List.mem_cons, not_or]
    exact ⟨hapart other hother hdeclares, h.apart other (List.mem_cons_of_mem r hother) hdeclares⟩
  room := hroom

/-- A table without an alias gets the next number at once, and the numbers go on behind it. -/
theorem add_bare (h : registry.Ready count (r :: rest)) (hbare : r.isBare = true) :
    (registry.add r.key r.table).2
        = { r.table with rowAlias := "t" ++ Decimal.numeral (count + 1) } ∧
      (registry.add r.key r.table).1.Ready (count + 1) rest := by
  have hroom := h.room
  rw [List.filter_cons_of_pos hbare, List.length_cons] at hroom
  have hnumber : (registry.counter + 1).toNat = count + 1 := by
    rw [UInt32.toNat_add, h.counter, UInt32.toNat_one]
    unfold UInt32.size at hroom
    omega
  have hfree : generatedAlias (registry.counter + 1) ∉ registry.aliases := by
    rw [generatedAlias, hnumber]
    exact h.free _ (Nat.lt_succ_self count)
  have hneeds : registry.needsAlias r.table.rowAlias = true := by
    have hempty : r.table.rowAlias.isEmpty = true := hbare
    rw [needsAlias, hempty, Bool.true_or]
  have hadd : (registry.add r.key r.table).2
      = { r.table with rowAlias := "t" ++ Decimal.numeral (count + 1) } := by
    have hname : generatedAlias (registry.counter + 1) = "t" ++ Decimal.numeral (count + 1) := by
      rw [generatedAlias, hnumber]
    rw [add, if_pos hneeds, nextAlias_of_not_mem hfree, ← hname]
  have hcounter : (registry.add r.key r.table).1.counter.toNat = count + 1 := by
    rw [counter_add, if_pos hneeds, nextAlias_of_not_mem hfree, hnumber]
  refine ⟨hadd, h.next hcounter (Nat.le_succ count) (fun n hn => ?_) (fun other hother _ => ?_)
    (by omega)⟩
  · rw [hadd]
    intro heq
    have hnumeral := Decimal.numeral_injective ((String.append_right_inj "t").mp heq)
    omega
  · rw [hadd]
    exact h.unclashing.declared other (List.mem_cons_of_mem r hother) _ (Nat.succ_pos count)

/-- A table that declares an alias is registered as it is. -/
theorem add_declaring (h : registry.Ready count (r :: rest)) (hdeclares : r.isBare = false) :
    (registry.add r.key r.table).2 = r.table ∧ (registry.add r.key r.table).1.Ready count rest := by
  have hroom := h.room
  rw [List.filter_cons_of_neg (by rw [hdeclares]; exact Bool.false_ne_true)] at hroom
  have hnamed : r.table.rowAlias ≠ "" := by
    intro hempty
    rw [Registration.isBare, hempty] at hdeclares
    exact absurd hdeclares (by decide)
  have hkeeps : registry.needsAlias r.table.rowAlias = false :=
    needsAlias_eq_false.mpr ⟨hnamed, h.apart r List.mem_cons_self hdeclares⟩
  have hadd : (registry.add r.key r.table).2 = r.table := by
    rw [add, hkeeps]
    rfl
  have hcounter : (registry.add r.key r.table).1.counter.toNat = count := by
    rw [counter_add, hkeeps]
    exact h.counter
  refine ⟨hadd, h.next hcounter le_rfl (fun n hn => ?_) (fun other hother hother' => ?_) hroom⟩
  · rw [hadd]
    exact h.unclashing.declared r List.mem_cons_self n (by omega)
  · rw [hadd]
    intro heq
    have hnodup := h.unclashing.nodup
    rw [List.filter_cons_of_pos (by rw [hdeclares]; rfl), List.map_cons, List.nodup_cons, ← heq]
      at hnodup
    refine hnodup.1 (List.mem_map_of_mem (List.mem_filter.mpr ⟨hother, ?_⟩))
    rw [hother', Bool.not_false]

/-- **All registrations.**  The induction is on the registrations, and what carries it is that the
    registry is ready for those to come; what has been registered stands. -/
theorem registerAll {order : List Registration} (h : registry.Ready count order) :
    (∀ r ∈ order, r.isBare = false →
        (registry.registerAll order).lookup r.key = some r.table) ∧
      (∀ (k : Nat) (r : Registration), (order.filter Registration.isBare)[k]? = some r →
        (registry.registerAll order).lookup r.key
          = some { r.table with rowAlias := "t" ++ Decimal.numeral (count + k + 1) }) ∧
      (registry.registerAll order).counter.toNat
        = count + (order.filter Registration.isBare).length := by
  induction order generalizing registry count with
  | nil =>
    refine ⟨fun r hr => absurd hr List.not_mem_nil, fun k r hk => absurd hk (by simp), h.counter⟩
  | cons r rest ih =>
    have hregister : registry.registerAll (r :: rest)
        = (registry.add r.key r.table).1.registerAll rest := by
      rw [registerAll_cons, register_of_none (h.absent r List.mem_cons_self)]
    have hstands : ((registry.add r.key r.table).1.registerAll rest).lookup r.key
        = some (registry.add r.key r.table).2 := by
      refine within_performAll _ (rest.map Registration.call) _ _ ?_
      rw [lookup_add, if_pos rfl]
    rw [hregister]
    cases hbare : r.isBare with
    | true =>
      obtain ⟨hadd, hready⟩ := h.add_bare hbare
      obtain ⟨hdeclared, hnumbered, hcounter⟩ := ih hready
      rw [hadd] at hstands
      rw [List.filter_cons_of_pos hbare]
      refine ⟨?_, ?_, ?_⟩
      · intro other hother hdeclares
        rcases List.mem_cons.mp hother with rfl | hother
        · exact absurd (hbare.symm.trans hdeclares) (by decide)
        · exact hdeclared other hother hdeclares
      · intro k other hk
        cases k with
        | zero =>
          obtain rfl : r = other := Option.some.inj hk
          exact hstands
        | succ k =>
          rw [hnumbered k other hk, Nat.add_right_comm count 1 k]
          rfl
      · rw [hcounter, List.length_cons]
        omega
    | false =>
      obtain ⟨hadd, hready⟩ := h.add_declaring hbare
      obtain ⟨hdeclared, hnumbered, hcounter⟩ := ih hready
      rw [hadd] at hstands
      rw [List.filter_cons_of_neg (by rw [hbare]; exact Bool.false_ne_true)]
      refine ⟨?_, hnumbered, hcounter⟩
      intro other hother hdeclares
      rcases List.mem_cons.mp hother with rfl | hother
      · exact hstands
      · exact hdeclared other hother hdeclares

end Ready

/-! ### Calls on a new registry -/

/-- The first registrations that calls on a new registry come to, in their order. -/
def firstsOf (calls : List Call) : List Registration := firsts (empty.registrationsAll calls)

theorem performAll_firstsOf (calls : List Call) :
    empty.performAll calls = empty.registerAll (firstsOf calls) := by
  rw [firstsOf, registerAll_firsts, performAll_eq]

theorem ready_empty {calls : List Call} (hunclashing : Unclashing (firstsOf calls))
    (hroom : ((firstsOf calls).filter Registration.isBare).length < UInt32.size) :
    empty.Ready 0 (firstsOf calls) where
  counter := rfl
  free _ _ := List.not_mem_nil
  absent _ _ := rfl
  nodup := nodup_firsts _
  unclashing := hunclashing
  apart _ _ _ := List.not_mem_nil
  room := by rwa [Nat.zero_add]

variable {calls other : List Call}

/-- What is found under other keys than those that were registered. -/
theorem lookup_of_not_mem_firstsOf {key : EntityName}
    (h : key ∉ (firstsOf calls).map Registration.key) :
    (empty.performAll calls).lookup key = none := by
  rw [performAll_firstsOf, lookup_eq_none, mem_keys_registerAll, not_or]
  exact ⟨h, List.not_mem_nil⟩

/-- **Another order** of first registrations, in which those without an alias keep theirs: the same
    is found under every key, and the counters are at the same number. -/
theorem lookup_eq_of_perm (hunclashing : Unclashing (firstsOf calls))
    (hroom : ((firstsOf calls).filter Registration.isBare).length < UInt32.size)
    (hsame : (firstsOf other).Perm (firstsOf calls))
    (hbare : (firstsOf other).filter Registration.isBare
      = (firstsOf calls).filter Registration.isBare) :
    (∀ key, (empty.performAll other).lookup key = (empty.performAll calls).lookup key) ∧
      (empty.performAll other).counter = (empty.performAll calls).counter := by
  obtain ⟨hdeclared, hnumbered, hcounter⟩ := (ready_empty hunclashing hroom).registerAll
  obtain ⟨hdeclared', hnumbered', hcounter'⟩ :=
    (ready_empty (hunclashing.perm hsame) (by rwa [hbare])).registerAll
  rw [← performAll_firstsOf] at hdeclared hnumbered hcounter hdeclared' hnumbered' hcounter'
  constructor
  · intro key
    by_cases hkey : key ∈ (firstsOf calls).map Registration.key
    · obtain ⟨r, hr, rfl⟩ := List.mem_map.mp hkey
      cases hdeclares : r.isBare with
      | false =>
        rw [hdeclared r hr hdeclares, hdeclared' r (hsame.symm.subset hr) hdeclares]
      | true =>
        -- It has the same place among those without an alias.
        obtain ⟨k, hk⟩ := List.mem_iff_getElem?.mp (List.mem_filter.mpr ⟨hr, hdeclares⟩)
        rw [hnumbered k r hk, hnumbered' k r (by rw [hbare, hk])]
    · have hkey' : key ∉ (firstsOf other).map Registration.key := by
        rwa [(hsame.map _).mem_iff]
      rw [lookup_of_not_mem_firstsOf hkey, lookup_of_not_mem_firstsOf hkey']
  · rw [← UInt32.toNat_inj, hcounter, hcounter', hbare]

end Registry

end BoundSql
