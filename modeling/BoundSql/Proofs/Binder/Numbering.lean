import BoundSql.Binder
import BoundSql.Proofs.Keyed

namespace BoundSql

/-!
# Binder — numbers of values

A new binder names the values that it is given by their places: the first one is number one.
As long as the counter does not run over, all names differ, so that every value is found
under its name.  The text of a template depends on the numbers alone.

* `Template.write` — the text of a template, for placeholders by place.
* `Binder.Names` — the binder has named the given values, and nothing else.
* `Binder.Names.bindAll`, `Binder.Names.get?` — what is named, and what is found.
-/

/-! ### Names -/

theorem Decimal.numeral_injective {m n : Nat} (h : numeral m = numeral n) : m = n := by
  have hchars : (digits m).map digitChar = (digits n).map digitChar := String.ofList_injective h
  -- Reading digits back undoes writing them.
  have hinj : Function.Injective digitChar := by
    intro a b hab
    rw [← Option.some_inj, ← digit?_digitChar a, ← digit?_digitChar b, hab]
  exact digits_injective (List.map_injective_iff.mpr hinj hchars)

namespace Naming

/-- A stem does not hide the number behind it, even if it ends in digits. -/
theorem name_injective (naming : Naming) {a b : UInt32} (h : naming.name a = naming.name b) :
    a = b := by
  have hnumeral := (String.append_right_inj naming.stem).mp h
  exact UInt32.toNat_inj.mp (Decimal.numeral_injective hnumeral)

/-- The name of the value at a place. -/
def nameAt (naming : Naming) (place : Nat) : String := naming.name (UInt32.ofNat (place + 1))

/-- The placeholder of the value at a place. -/
def placeholderAt (naming : Naming) (place : Nat) : String :=
  naming.placeholder (UInt32.ofNat (place + 1))

theorem nameAt_injective (naming : Naming) {i j : Nat} (hi : i + 1 < UInt32.size)
    (hj : j + 1 < UInt32.size) (h : naming.nameAt i = naming.nameAt j) : i = j := by
  have hnumber := congrArg UInt32.toNat (naming.name_injective h)
  rw [UInt32.toNat_ofNat_of_lt' hi, UInt32.toNat_ofNat_of_lt' hj] at hnumber
  exact Nat.succ.inj hnumber

/-- Below the last number a name ends in the numeral of its place, counted from one. -/
theorem nameAt_of_lt (naming : Naming) {place : Nat} (h : place + 1 < UInt32.size) :
    naming.nameAt place = naming.stem ++ Decimal.numeral (place + 1) := by
  rw [nameAt, name, UInt32.toNat_ofNat_of_lt' h]

/-- Values under their names. -/
def numbered (naming : Naming) (values : List Value) : List (String × Value) :=
  values.zipIdx.map fun (v, place) => (naming.nameAt place, v)

theorem map_fst_numbered (naming : Naming) (values : List Value) :
    (naming.numbered values).map Prod.fst = (List.range values.length).map naming.nameAt := by
  rw [numbered, List.map_map, List.range_eq_range', ← List.zipIdx_map_snd 0 values, List.map_map]
  rfl

theorem map_snd_numbered (naming : Naming) (values : List Value) :
    (naming.numbered values).map Prod.snd = values := by
  rw [numbered, List.map_map]
  exact List.zipIdx_map_fst 0 values

end Naming

/-! ### Texts of templates -/

namespace Template

/-- The text of a template, given the placeholder for the value at each place. -/
def write (placeholder : Nat → String) : (place : Nat) → Template → String
  | _, [] => ""
  | place, .text s :: rest => s ++ write placeholder place rest
  | place, .value v :: rest =>
      if v.isNull then "NULL" ++ write placeholder place rest
      else placeholder place ++ write placeholder (place + 1) rest

theorem values_append (a b : Template) : values (a ++ b) = values a ++ values b := by
  induction a with
  | nil => rfl
  | cons piece rest ih =>
    cases piece with
    | text s => exact ih
    | value v =>
      by_cases hv : v.isNull = true <;> simp [values, hv, ih]

theorem write_append (placeholder : Nat → String) (place : Nat) (a b : Template) :
    write placeholder place (a ++ b)
      = write placeholder place a ++ write placeholder (place + (values a).length) b := by
  induction a generalizing place with
  | nil => simp [write, values]
  | cons piece rest ih =>
    cases piece with
    | text s => simp [write, values, ih, String.append_assoc]
    | value v =>
      by_cases hv : v.isNull = true
      · simp [write, values, hv, ih, String.append_assoc]
      · simp [write, values, hv, ih, String.append_assoc, Nat.add_assoc, Nat.add_comm 1]

theorem not_null_of_mem_values {template : Template} {v : Value} (h : v ∈ values template) :
    v.isNull = false := by
  induction template with
  | nil => simp [values] at h
  | cons piece rest ih =>
    cases piece with
    | text s => exact ih h
    | value w =>
      by_cases hw : w.isNull = true
      · rw [values, if_pos hw] at h
        exact ih h
      · rw [values, if_neg hw, List.mem_cons] at h
        rcases h with rfl | h
        · exact Bool.not_eq_true _ ▸ hw
        · exact ih h

end Template

namespace Binder

/-! ### Binding -/

theorem bind_of_not_null (binder : Binder) {v : Value} (hv : v.isNull = false) :
    binder.bind v = (binder.naming.placeholder (binder.counter + 1),
      { binder with
        counter := binder.counter + 1
        parameters :=
          binder.parameters.insert (binder.naming.name (binder.counter + 1)) v }) := by
  simp [bind, hv]

/-- A binder that has counted up to a place gives a value the name of this place. -/
theorem bind_of_counter {binder : Binder} {place : Nat}
    (hcounter : binder.counter = UInt32.ofNat place) {v : Value} (hv : v.isNull = false) :
    binder.bind v = (binder.naming.placeholderAt place,
      { binder with
        counter := UInt32.ofNat (place + 1)
        parameters := binder.parameters.insert (binder.naming.nameAt place) v }) := by
  have hnext : binder.counter + 1 = UInt32.ofNat (place + 1) := by
    rw [hcounter, UInt32.ofNat_add]
    rfl
  rw [bind_of_not_null binder hv, hnext]
  rfl

@[simp] theorem naming_bind (binder : Binder) (v : Value) :
    (binder.bind v).2.naming = binder.naming := by
  unfold bind
  split <;> rfl

@[simp] theorem naming_bindAll (binder : Binder) (values : List Value) :
    (binder.bindAll values).naming = binder.naming := by
  induction values generalizing binder with
  | nil => rfl
  | cons v rest ih =>
    show ((binder.bind v).2.bindAll rest).naming = binder.naming
    rw [ih, naming_bind]

/-- The counter goes on by one for every value. -/
theorem counter_bindAll {binder : Binder} {place : Nat}
    (hcounter : binder.counter = UInt32.ofNat place) {values : List Value}
    (hvalues : ∀ v ∈ values, v.isNull = false) :
    (binder.bindAll values).counter = UInt32.ofNat (place + values.length) := by
  induction values generalizing binder place with
  | nil => exact hcounter
  | cons v rest ih =>
    have hnext : (binder.bind v).2.counter = UInt32.ofNat (place + 1) := by
      rw [bind_of_counter hcounter (hvalues v List.mem_cons_self)]
    -- The others are counted from the next place on.
    have hrest := ih hnext fun w hw => hvalues w (List.mem_cons_of_mem v hw)
    rwa [Nat.add_assoc, Nat.add_comm 1] at hrest

theorem bindAll_append (binder : Binder) (a b : List Value) :
    binder.bindAll (a ++ b) = (binder.bindAll a).bindAll b :=
  List.foldl_append

/-- Null is passed over. -/
theorem bindAll_filter (binder : Binder) (values : List Value) :
    binder.bindAll (values.filter (!·.isNull)) = binder.bindAll values := by
  induction values generalizing binder with
  | nil => rfl
  | cons v rest ih =>
    by_cases hv : v.isNull = true
    · rw [List.filter_cons_of_neg (by simp [hv]), ih]
      show binder.bindAll rest = (binder.bind v).2.bindAll rest
      simp [bind, hv]
    · rw [List.filter_cons_of_pos (by simp [hv])]
      exact ih (binder.bind v).2

/-- The text of a template under a binder that has counted up to a place. -/
theorem fst_fill {binder : Binder} {place : Nat}
    (hcounter : binder.counter = UInt32.ofNat place) (template : Template) :
    (binder.fill template).1 = template.write binder.naming.placeholderAt place := by
  induction template generalizing binder place with
  | nil => rfl
  | cons piece rest ih =>
    cases piece with
    | text s => rw [fill_text, Template.write, ih hcounter]
    | value v =>
      rw [fill_value, Template.write]
      by_cases hv : v.isNull = true
      -- Null is written out and leaves the counter alone; any other value moves both on.
      · simp only [bind, hv, if_true]
        rw [ih hcounter]
      · rw [Bool.not_eq_true] at hv
        rw [bind_of_counter hcounter hv, if_neg (by simp [hv])]
        simp only
        rw [ih rfl]

/-! ### What a binder knows -/

/-- The binder has named the values in order, and nothing else. -/
structure Names (binder : Binder) (values : List Value) : Prop where
  counter : binder.counter = UInt32.ofNat values.length
  entries : binder.parameters.entries = binder.naming.numbered values

theorem names_new (naming : Naming) : (new naming).Names [] := ⟨rfl, rfl⟩

namespace Names

variable {binder : Binder} {values : List Value}

theorem bind (h : binder.Names values) {v : Value} (hv : v.isNull = false)
    (hroom : values.length + 1 < UInt32.size) : (binder.bind v).2.Names (values ++ [v]) := by
  -- The name is new: the earlier ones have smaller numbers, and none of them has run over.
  have hfresh : binder.naming.nameAt values.length ∉ binder.parameters.entries.map Prod.fst := by
    rw [h.entries]
    simp only [Naming.numbered, List.map_map, List.mem_map, not_exists, not_and]
    rintro ⟨w, place⟩ hmem heq
    have hplace : place < values.length := by
      have hindex := List.mem_zipIdx hmem
      omega
    have hsame := binder.naming.nameAt_injective (by omega) hroom heq
    omega
  rw [bind_of_counter h.counter hv]
  refine ⟨by simp, ?_⟩
  show Keyed.insertEntry (binder.naming.nameAt values.length) v binder.parameters.entries = _
  rw [Keyed.insertEntry_of_not_mem v hfresh, h.entries]
  simp [Naming.numbered, List.zipIdx_append]

/-- **What is named.**  As long as the counter does not run over, the values follow those that
    are there. -/
theorem bindAll (h : binder.Names values) {more : List Value}
    (hmore : ∀ v ∈ more, v.isNull = false) (hroom : values.length + more.length < UInt32.size) :
    (binder.bindAll more).Names (values ++ more) := by
  induction more generalizing binder values with
  | nil => simpa [Binder.bindAll] using h
  | cons v rest ih =>
    rw [List.length_cons] at hroom
    have hfirst := h.bind (hmore v List.mem_cons_self) (by omega)
    have hrest := ih hfirst (fun w hw => hmore w (List.mem_cons_of_mem v hw)) (by simp; omega)
    rwa [List.append_assoc, List.singleton_append] at hrest

/-- A new binder names the values that are not null. -/
theorem bindAll_new (naming : Naming) {values : List Value}
    (hroom : (values.filter (!·.isNull)).length < UInt32.size) :
    ((new naming).bindAll values).Names (values.filter (!·.isNull)) := by
  have hmore : ∀ v ∈ values.filter (!·.isNull), v.isNull = false := by
    intro v hv
    simpa using (List.mem_filter.mp hv).2
  have hnamed := (names_new naming).bindAll hmore (by simp only [List.length_nil]; omega)
  rwa [bindAll_filter, List.nil_append] at hnamed

/-- **What is found.**  Every value is found under the name of its place. -/
theorem get? (h : binder.Names values) {place : Nat} {v : Value}
    (hv : values[place]? = some v) :
    binder.parameters.get? (binder.naming.nameAt place) = some v := by
  refine Keyed.find?_of_mem binder.parameters.nodup ?_
  rw [h.entries, Naming.numbered, List.mem_map]
  exact ⟨(v, place), List.mem_zipIdx_iff_getElem?.mpr hv, rfl⟩

end Names

end Binder

end BoundSql
