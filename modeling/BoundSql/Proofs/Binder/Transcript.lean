import BoundSql.Proofs.Binder.Numbering

namespace BoundSql

/-!
# Binder — every name is given once

The transcript of a binder has each value that it was given, with the text for it.  A name is read
off a text as what follows the sigil.  The counter has moved on whenever a name is given, and a
name determines its number whatever the stem is, so that no name is given twice and no parameter
is ever replaced.

* `Binder.transcript` — values with the texts for them.
* `Naming.nameIn` — the name in a text.
* `Binder.transcript_names` — names, parameters and texts of a new binder.
-/

/-- An entry that passes a test stands behind those before it that pass. -/
theorem getElem?_filter_of_getElem? {α : Type} {test : α → Bool} {entries : List α} {i : Nat} {a : α}
    (h : entries[i]? = some a) (ha : test a = true) :
    (entries.filter test)[((entries.take i).filter test).length]? = some a := by
  obtain ⟨hi, rfl⟩ := List.getElem?_eq_some_iff.mp h
  have hsplit : entries = entries.take i ++ entries[i] :: entries.drop (i + 1) := by
    rw [← List.drop_eq_getElem_cons hi, List.take_append_drop]
  have hfilter := congrArg (List.filter test) hsplit
  rw [List.filter_append, List.filter_cons_of_pos ha] at hfilter
  rw [hfilter, List.getElem?_append_right (Nat.le_refl _), Nat.sub_self, List.getElem?_cons_zero]

namespace Naming

/-- The name in the text for a value: what follows the sigil. -/
def nameIn (placeholder : String) : String := String.ofList placeholder.toList.tail

theorem nameIn_placeholderAt (naming : Naming) (place : Nat) :
    nameIn (naming.placeholderAt place) = naming.nameAt place := by
  simp [nameIn, placeholderAt, placeholder, nameAt]

end Naming

namespace Binder

/-- Values that are bound in order, each with the text for it. -/
def transcript (binder : Binder) : List Value → List (Value × String)
  | [] => []
  | v :: rest => (v, (binder.bind v).1) :: (binder.bind v).2.transcript rest

/-- What is bound after other values is bound by the binder that they leave. -/
theorem getElem?_transcript (binder : Binder) (values : List Value) (i : Nat) :
    (binder.transcript values)[i]?
      = values[i]?.map fun v => (v, ((binder.bindAll (values.take i)).bind v).1) := by
  induction values generalizing binder i with
  | nil => rfl
  | cons v rest ih =>
    cases i with
    | zero => rfl
    | succ i => exact ih (binder.bind v).2 i

/-- A text of a transcript is the one that its value gets in its place. -/
theorem of_getElem?_transcript {binder : Binder} {values : List Value} {i : Nat} {v : Value}
    {text : String} (h : (binder.transcript values)[i]? = some (v, text)) :
    values[i]? = some v ∧ text = ((binder.bindAll (values.take i)).bind v).1 := by
  rw [getElem?_transcript] at h
  obtain ⟨w, hvalue, hcall⟩ := Option.map_eq_some_iff.mp h
  obtain ⟨rfl, rfl⟩ := Prod.mk.inj hcall
  exact ⟨hvalue, rfl⟩

theorem map_fst_transcript (binder : Binder) (values : List Value) :
    (binder.transcript values).map Prod.fst = values := by
  induction values generalizing binder with
  | nil => rfl
  | cons v rest ih => rw [transcript, List.map_cons, ih]

/-- The names in the texts of a binder that has counted up to a place. -/
theorem names_transcript {binder : Binder} {place : Nat}
    (hcounter : binder.counter = UInt32.ofNat place) (values : List Value) :
    ((binder.transcript values).filter (!·.1.isNull)).map (fun call => Naming.nameIn call.2)
      = (List.range' place (values.filter (!·.isNull)).length).map binder.naming.nameAt := by
  induction values generalizing binder place with
  | nil => rfl
  | cons v rest ih =>
    rw [transcript]
    by_cases hv : v.isNull = true
    -- Null is passed over; any other value gets the next name.
    · have hbinder : (binder.bind v).2 = binder := by simp [bind, hv]
      rw [List.filter_cons_of_neg (by simp [hv]), List.filter_cons_of_neg (by simp [hv]), hbinder,
        ih hcounter]
    · rw [Bool.not_eq_true] at hv
      rw [List.filter_cons_of_pos (by simp [hv]), List.filter_cons_of_pos (by simp [hv]),
        bind_of_counter hcounter hv, List.map_cons, Naming.nameIn_placeholderAt, ih rfl,
        List.length_cons, List.range'_succ, List.map_cons]

/-- The text for a value that is not null, at its place among all values, and what is found under
    the name in it from then on. -/
theorem get?_nameIn (naming : Naming) {values : List Value}
    (hroom : (values.filter (!·.isNull)).length < UInt32.size) {i : Nat} {v : Value}
    (hvalue : values[i]? = some v) (hv : v.isNull = false) :
    let text := (((new naming).bindAll (values.take i)).bind v).1
    text = String.singleton naming.sigil ++ Naming.nameIn text ∧
      ((new naming).bindAll values).parameters.get? (Naming.nameIn text) = some v := by
  intro text
  have hplace : (values.filter (!·.isNull))[((values.take i).filter (!·.isNull)).length]? = some v :=
    getElem?_filter_of_getElem? hvalue (by simp [hv])
  generalize hearlier : (values.take i).filter (!·.isNull) = earlier at hplace
  have hlength : earlier.length < UInt32.size := by
    have hlt := (List.getElem?_eq_some_iff.mp hplace).1
    omega
  have hbefore : ((new naming).bindAll (values.take i)).Names earlier :=
    hearlier ▸ Names.bindAll_new naming (by rwa [hearlier])
  have hafter := (Names.bindAll_new naming hroom).get? hplace
  rw [naming_bindAll] at hafter
  have htext : text = naming.placeholderAt earlier.length := by
    show (((new naming).bindAll (values.take i)).bind v).1 = _
    rw [bind_of_counter hbefore.counter hv, naming_bindAll]
    rfl
  have hname : Naming.nameIn text = naming.nameAt earlier.length := by
    rw [htext]
    exact naming.nameIn_placeholderAt earlier.length
  rw [hname]
  exact ⟨htext, hafter⟩

/-- **Every name once.**  A new binder under any naming, whatever its stem and its sigil are, is
    given values, of which fewer than `UInt32.size` are not null.  Each of them is answered.  The
    names in the texts for values that are not null are all different, and the parameters in the
    end are these values in order, each under its name.  The text for such a value is its name
    behind the sigil, and from then on the value is found under this name, however many values have
    followed.  The text for null is `NULL`, and the binder is the same as before. -/
theorem transcript_names (naming : Naming) (values : List Value)
    (hroom : (values.filter (!·.isNull)).length < UInt32.size) :
    let start := new naming
    let calls := start.transcript values
    let after := fun count => start.bindAll (values.take count)
    let final := start.bindAll values
    let names := (calls.filter (!·.1.isNull)).map fun call => Naming.nameIn call.2
    let bound := values.filter (!·.isNull)
    calls.map Prod.fst = values ∧ names.Nodup ∧
      final.parameters.entries = names.zip bound ∧ final.parameters.values = bound ∧
      final.parameters.size = bound.length ∧
      (∀ i v text, calls[i]? = some (v, text) → v.isNull = false →
        text = String.singleton naming.sigil ++ Naming.nameIn text ∧
          ∀ count, i < count → (after count).parameters.get? (Naming.nameIn text) = some v) ∧
      ∀ i text, calls[i]? = some (.null, text) → text = "NULL" ∧ after (i + 1) = after i := by
  intro start calls after final names bound
  have hentries : final.parameters.entries = naming.numbered bound := by
    have hknown := (Names.bindAll_new naming hroom).entries
    rwa [naming_bindAll] at hknown
  have hnames : names = (naming.numbered bound).map Prod.fst := by
    have hzero : start.counter = UInt32.ofNat 0 := rfl
    rw [Naming.map_fst_numbered, List.range_eq_range']
    exact names_transcript hzero values
  have hvalues : final.parameters.values = bound := by
    rw [Keyed.values, hentries, naming.map_snd_numbered]
  refine ⟨map_fst_transcript start values, ?_, ?_, hvalues, ?_, ?_, ?_⟩
  · rw [hnames, ← hentries]
    exact final.parameters.nodup
  · rw [hentries, hnames]
    exact List.zip_of_prod rfl (naming.map_snd_numbered bound)
  · rw [← hvalues, Keyed.values, List.length_map, Keyed.size]
  · intro i v text hcall hv
    obtain ⟨hvalue, rfl⟩ := of_getElem?_transcript hcall
    refine ⟨(get?_nameIn naming hroom hvalue hv).1, fun count hcount => ?_⟩
    -- At that time the binder had been given a beginning of the values.
    have hthen : (values.take count)[i]? = some v := by
      rw [List.getElem?_take_of_lt hcount, hvalue]
    have hfewer : ((values.take count).filter (!·.isNull)).length ≤ bound.length :=
      ((List.take_sublist count values).filter _).length_le
    have hfound := (get?_nameIn naming (Nat.lt_of_le_of_lt hfewer hroom) hthen hv).2
    rwa [List.take_take, Nat.min_eq_left (Nat.le_of_lt hcount)] at hfound
  · intro i text hcall
    obtain ⟨hvalue, rfl⟩ := of_getElem?_transcript hcall
    refine ⟨rfl, ?_⟩
    show start.bindAll (values.take (i + 1)) = start.bindAll (values.take i)
    rw [List.take_add_one, hvalue, bindAll_append]
    rfl

/-- The stem is a digit and so is the sigil, and null stands among eleven other values: the texts for
    the first and the last of these differ in their length only, and both are found in the end. -/
theorem transcript_names_digits :
    let start := new ⟨"1", '1'⟩
    let values := .string "a" :: .null :: (List.range 10).map fun n => Value.int (.ofNat n)
    let final := start.bindAll values
    (values.filter (!·.isNull)).length < UInt32.size ∧
      (start.transcript values)[0]? = some (.string "a", "111") ∧
      (start.transcript values)[1]? = some (.null, "NULL") ∧
      (start.transcript values)[11]? = some (.int 9, "1111") ∧
      final.parameters.get? "11" = some (.string "a") ∧
      final.parameters.get? "111" = some (.int 9) ∧
      final.parameters.size = 11 ∧
      start.bindAll (values.take 2) = start.bindAll (values.take 1) := by
  intro start values final
  have hroom : (values.filter (!·.isNull)).length < UInt32.size := by decide
  obtain ⟨-, -, -, -, hsize, hfound, hnull⟩ := transcript_names ⟨"1", '1'⟩ values hroom
  have hfirst : (start.transcript values)[0]? = some (.string "a", "111") := by decide +kernel
  have hsecond : (start.transcript values)[1]? = some (.null, "NULL") := by decide +kernel
  have hlast : (start.transcript values)[11]? = some (.int 9, "1111") := by decide +kernel
  exact ⟨hroom, hfirst, hsecond, hlast, (hfound 0 _ _ hfirst rfl).2 12 (by decide),
    (hfound 11 _ _ hlast rfl).2 12 (by decide), hsize, (hnull 1 _ hsecond).2⟩

end Binder

end BoundSql
