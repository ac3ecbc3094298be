import BoundSql.Proofs.Binder.Pieces
import BoundSql.Proofs.Clause.Language
import BoundSql.Proofs.Clause.Rejection

namespace BoundSql

/-!
# Binder — one binder for many conditions

A binder may be used again and again, to bind single values and to write trees, whether these are
conditions or not.  Each use goes on where the one before it has stopped: names are given once,
and a condition refers to the values of its own tree by the names that follow those that are
there.  Under a new binder the same tree is written with the same pieces, and its placeholders
are numbered from one on.

* `Binder.Use`, `Binder.useAll` — uses of a binder, and the binder afterwards.
* `Binder.Names.useAll` — what a binder knows after any uses.
* `Binder.useAll_compile` — one tree between any other uses.
-/

/-! ### More values -/

namespace Naming

/-- The names of more values go on with the numbers. -/
theorem numbered_append (naming : Naming) {values more : List Value}
    (hroom : values.length + more.length < UInt32.size) :
    naming.numbered (values ++ more) = naming.numbered values ++ more.zipIdx.map fun (v, i) =>
      (naming.stem ++ Decimal.numeral (values.length + i + 1), v) := by
  rw [numbered, List.zipIdx_append, List.map_append, Nat.zero_add, ← numbered,
    List.zipIdx_eq_map_add, List.map_map]
  refine congrArg _ (List.map_congr_left fun entry hmem => ?_)
  obtain ⟨v, i⟩ := entry
  have hlt := List.mem_zipIdx hmem
  show (naming.nameAt (values.length + i), v) = _
  rw [naming.nameAt_of_lt (by omega)]

/-- Below the last number a placeholder ends in the numeral of its place, counted from one. -/
theorem placeholderAt_of_lt (naming : Naming) {place : Nat} (h : place + 1 < UInt32.size) :
    naming.placeholderAt place =
      String.singleton naming.sigil ++ (naming.stem ++ Decimal.numeral (place + 1)) := by
  rw [← naming.nameAt_of_lt h]
  rfl

end Naming

namespace Binder.Names

variable {binder : Binder} {values : List Value}

/-- The counter is the number of values, as long as it does not run over. -/
theorem toNat_counter (h : binder.Names values) (hroom : values.length < UInt32.size) :
    binder.counter.toNat = values.length := by
  rw [h.counter, UInt32.toNat_ofNat_of_lt' hroom]

theorem keys (h : binder.Names values) (hroom : values.length < UInt32.size) :
    binder.parameters.keys =
      (List.range values.length).map fun i => binder.naming.stem ++ Decimal.numeral (i + 1) := by
  rw [Keyed.keys, h.entries, Naming.map_fst_numbered]
  refine List.map_congr_left fun i hi => binder.naming.nameAt_of_lt ?_
  have hlt := List.mem_range.mp hi
  omega

theorem values_eq (h : binder.Names values) : binder.parameters.values = values := by
  rw [Keyed.values, h.entries, Naming.map_snd_numbered]

end Binder.Names

namespace Binder

/-! ### Uses -/

/-- What a binder is used for. -/
inductive Use where
  | bind (v : Value)
  /-- Writes a tree as a condition, or fails. -/
  | compile (e : Expr)

/-- The values that a use gives names to.  A tree that is no condition is read up to the part that
    has no place in one. -/
def Use.bound : Use → List Value
  | .bind v => v.toBind
  | .compile e =>
      match e.lower false with
      | .ok clause => clause.template.values
      | .error r => r.values

/-- The binder after a use. -/
def use (binder : Binder) : Use → Binder
  | .bind v => (binder.bind v).2
  | .compile e => (binder.compile e).2

/-- The binder after uses in order. -/
def useAll (binder : Binder) (uses : List Use) : Binder := uses.foldl use binder

/-- The values that uses give names to, in order. -/
def boundAll (uses : List Use) : List Value := uses.flatMap Use.bound

/-- The values of a tree that is read to its end are all of its values. -/
theorem bound_compile_of_ok {binder : Binder} {e : Expr} {written : ConditionText}
    (h : (binder.compile e).1 = .ok written) : (Use.compile e).bound = e.literals := by
  obtain ⟨clause, hlowers, -⟩ := lowers_of_compile (Prod.ext h rfl : binder.compile e = (_, _))
  rw [Use.bound, hlowers.lower]
  exact hlowers.literals

/-- The values that a tree gives names to are the first ones of the tree. -/
theorem bound_compile (e : Expr) : (Use.compile e).bound <+: e.literals := by
  rw [Use.bound]
  cases hlower : e.lower false with
  | ok clause =>
    have hliterals := (Expr.lowers_of_lower hlower).literals
    exact hliterals ▸ List.prefix_refl _
  | error r => exact Expr.meets_lower e false r hlower

theorem not_null_of_mem_bound {use : Use} {v : Value} (h : v ∈ use.bound) : v.isNull = false := by
  cases use with
  | bind w =>
    rw [Use.bound, Value.toBind] at h
    split at h
    · exact absurd h List.not_mem_nil
    · rename_i hw
      rw [List.mem_singleton.mp h]
      simpa using hw
  | compile e => exact Expr.not_null_of_mem_literals ((bound_compile e).subset h)

/-- **One use** binds its values, and has no other effect. -/
theorem use_eq (binder : Binder) (use : Use) : binder.use use = binder.bindAll use.bound := by
  cases use with
  | bind v =>
    cases hv : v.isNull <;> simp [Binder.use, Use.bound, Value.toBind, hv, bindAll, bind]
  | compile e =>
    rw [Binder.use, Use.bound, compile]
    cases e.lower false with
    | ok clause => exact snd_fill binder clause.template
    | error r => rfl

@[simp] theorem naming_use (binder : Binder) (use : Use) :
    (binder.use use).naming = binder.naming := by
  rw [use_eq, naming_bindAll]

@[simp] theorem naming_useAll (binder : Binder) (uses : List Use) :
    (binder.useAll uses).naming = binder.naming := by
  induction uses generalizing binder with
  | nil => rfl
  | cons use rest ih =>
    show ((binder.use use).useAll rest).naming = binder.naming
    rw [ih, naming_use]

/-- The text of a condition is its pieces with one placeholder after the other between them, and
    the first number is the next one of the binder. -/
theorem compile_eq_weave {binder : Binder} {place : Nat}
    (hcounter : binder.counter = UInt32.ofNat place) {e : Expr} {clause : Clause}
    (h : e.Lowers false clause) (hroom : place + e.literalCount < UInt32.size) :
    (binder.compile e).1 = .ok ⟨weave clause.template.segments
      ((List.range e.literalCount).map fun i => String.singleton binder.naming.sigil
        ++ (binder.naming.stem ++ Decimal.numeral (place + i + 1))), clause.isCompound⟩ := by
  have hplaceholders : (List.range e.literalCount).map (fun i =>
        binder.naming.placeholderAt (place + i))
      = (List.range e.literalCount).map fun i => String.singleton binder.naming.sigil
        ++ (binder.naming.stem ++ Decimal.numeral (place + i + 1)) := by
    refine List.map_congr_left fun i hi => binder.naming.placeholderAt_of_lt ?_
    have hlt := List.mem_range.mp hi
    omega
  rw [compile, h.lower, ← hplaceholders]
  simp only [fst_fill hcounter, Template.write_eq_weave, h.literals]
  rfl

/-! ### What is known -/

namespace Names

variable {binder : Binder} {values : List Value} {e : Expr} {written : ConditionText}

theorem use (h : binder.Names values) (use : Use)
    (hroom : values.length + use.bound.length < UInt32.size) :
    (binder.use use).Names (values ++ use.bound) := by
  rw [use_eq]
  exact h.bindAll (fun v hv => not_null_of_mem_bound hv) hroom

/-- **What is known.**  As long as the counter does not run over, the values of the uses follow
    those that are there.  The induction is on the uses, and what carries it is which values have
    names so far. -/
theorem useAll (h : binder.Names values) (uses : List Use)
    (hroom : values.length + (boundAll uses).length < UInt32.size) :
    (binder.useAll uses).Names (values ++ boundAll uses) := by
  induction uses generalizing binder values with
  | nil =>
    show binder.Names (values ++ [])
    rwa [List.append_nil]
  | cons use rest ih =>
    have hsplit : boundAll (use :: rest) = use.bound ++ boundAll rest := rfl
    rw [hsplit, List.length_append] at hroom
    have hfirst := h.use use (by omega)
    have hrest := ih hfirst (by rw [List.length_append]; omega)
    rwa [List.append_assoc, ← hsplit] at hrest

/-- Writing a tree leaves the parameters that are there, and the values that it has met follow
    under the next numbers. -/
theorem entries_compile (h : binder.Names values)
    (hroom : values.length + (Use.compile e).bound.length < UInt32.size) :
    (binder.compile e).2.parameters.entries = binder.parameters.entries
      ++ (Use.compile e).bound.zipIdx.map fun (v, i) =>
        (binder.naming.stem ++ Decimal.numeral (values.length + i + 1), v) := by
  have hafter := (h.use (.compile e) hroom).entries
  rw [naming_use, Naming.numbered_append _ hroom, ← h.entries] at hafter
  exact hafter

/-- The text of a condition has the pieces that it has under a new binder, and its placeholders
    have the numbers that follow those that are there. -/
theorem exists_pieces_of_compile (h : binder.Names values)
    (hwritten : (binder.compile e).1 = .ok written)
    (hroom : values.length + e.literalCount < UInt32.size) :
    ∃ fresh pieces, ((new binder.naming).compile e).1 = .ok fresh ∧
      fresh.compound = written.compound ∧
      pieces.length = e.literalCount + 1 ∧
      fresh.sql = weave pieces ((List.range e.literalCount).map fun i =>
        String.singleton binder.naming.sigil
          ++ (binder.naming.stem ++ Decimal.numeral (0 + i + 1))) ∧
      written.sql = weave pieces ((List.range e.literalCount).map fun i =>
        String.singleton binder.naming.sigil
          ++ (binder.naming.stem ++ Decimal.numeral (values.length + i + 1))) := by
  obtain ⟨clause, hlowers, -⟩ := lowers_of_compile (Prod.ext hwritten rfl)
  have hzero : (new binder.naming).counter = UInt32.ofNat 0 := rfl
  have hfresh := compile_eq_weave hzero hlowers (by omega)
  have hsame := Except.ok.inj (hwritten.symm.trans (compile_eq_weave h.counter hlowers hroom))
  refine ⟨_, clause.template.segments, hfresh, ?_, ?_, rfl, ?_⟩
  · rw [hsame]
  · rw [Template.length_segments, hlowers.literals]
    rfl
  · rw [hsame]

/-- A value is found under the number of its place, behind those that came before it. -/
theorem get?_append {more : List Value} (h : binder.Names (values ++ (e.literals ++ more)))
    (hroom : values.length + e.literalCount < UInt32.size) {i : Nat} {v : Value}
    (hv : e.literals[i]? = some v) :
    binder.parameters.get? (binder.naming.stem ++ Decimal.numeral (values.length + i + 1))
      = some v := by
  have hi : i < e.literals.length := (List.getElem?_eq_some_iff.mp hv).1
  have hplace : (values ++ (e.literals ++ more))[values.length + i]? = some v := by
    rw [List.getElem?_append_right (Nat.le_add_right _ _), Nat.add_sub_cancel_left,
      List.getElem?_append_left hi, hv]
  have hcount : e.literalCount = e.literals.length := rfl
  rw [← binder.naming.nameAt_of_lt (by omega)]
  exact h.get? hplace

end Names

/-- **One binder for many conditions.**  A new binder under any naming is used in any way, then to
    write a tree, and then in any way again, and fewer than `UInt32.size` values get names in all.
    Before the tree is written the binder has as many parameters as it has counted.  Writing the
    tree leaves them in front, and behind them come the first values of the tree, from left to
    right, under the numbers that follow; they are all of its values if the tree is a condition.
    Then its text has the pieces that it has under a new binder, where the placeholders are
    numbered from one on; here they are numbered from the next number on, and in the end each of
    the names stands for the value of the tree in its place.  In the end the names are those with
    the numbers from one on, and the values are all that got one, in order. -/
theorem useAll_compile (naming : Naming) (past : List Use) (e : Expr) (more : List Use)
    (hroom : (boundAll (past ++ .compile e :: more)).length < UInt32.size) :
    let before := (new naming).useAll past
    let result := (before.compile e).1
    let after := (before.compile e).2
    let final := after.useAll more
    let count := before.counter.toNat
    let name := fun number => naming.stem ++ Decimal.numeral number
    let placeholders := fun first => (List.range e.literalCount).map fun i =>
      String.singleton naming.sigil ++ name (first + i + 1)
    before.parameters.size = count ∧
      (∃ values, values <+: e.literals ∧
        after.parameters.entries = before.parameters.entries
          ++ values.zipIdx.map (fun (v, i) => (name (count + i + 1), v)) ∧
        after.counter.toNat = count + values.length ∧
        ∀ written, result = .ok written →
          values = e.literals ∧ values.length = e.literalCount) ∧
      (∀ written, result = .ok written →
        ∃ fresh pieces, ((new naming).compile e).1 = .ok fresh ∧
          fresh.compound = written.compound ∧
          pieces.length = e.literalCount + 1 ∧
          fresh.sql = weave pieces (placeholders 0) ∧
          written.sql = weave pieces (placeholders count) ∧
          ∀ i v, e.literals[i]? = some v →
            final.parameters.get? (name (count + i + 1)) = some v) ∧
      final.parameters.keys
        = (List.range (boundAll (past ++ .compile e :: more)).length).map (fun i => name (i + 1)) ∧
      final.parameters.values = boundAll (past ++ .compile e :: more) := by
  intro before result after final count name placeholders
  have hall : boundAll (past ++ .compile e :: more)
      = boundAll past ++ ((Use.compile e).bound ++ boundAll more) := by
    simp [boundAll]
  have hlength := congrArg List.length hall
  simp only [List.length_append] at hlength
  -- What is known before the tree is written, after it, and in the end.
  have hbefore : before.Names (boundAll past) :=
    (names_new naming).useAll past (by rw [List.length_nil]; omega)
  have hafter : after.Names (boundAll past ++ (Use.compile e).bound) :=
    hbefore.use (.compile e) (by omega)
  have hfinal : final.Names (boundAll past ++ ((Use.compile e).bound ++ boundAll more)) := by
    rw [← List.append_assoc]
    exact hafter.useAll more (by rw [List.length_append]; omega)
  have hbeforeNaming : before.naming = naming := naming_useAll (new naming) past
  have hfinalNaming : final.naming = naming := by
    rw [naming_useAll]
    exact (naming_use before (.compile e)).trans hbeforeNaming
  have hcount : count = (boundAll past).length := hbefore.toNat_counter (by omega)
  -- The size, the values of the tree with the counter, the condition, and all names and values.
  refine ⟨?_, ⟨(Use.compile e).bound, bound_compile e, ?_, ?_, ?_⟩, ?_, ?_, ?_⟩
  · rw [hcount, Keyed.size, hbefore.entries]
    simp [Naming.numbered]
  · have hentries := hbefore.entries_compile (e := e) (by omega)
    rw [hbeforeNaming, ← hcount] at hentries
    exact hentries
  · rw [hafter.toNat_counter (by rw [List.length_append]; omega), List.length_append, hcount]
  · intro written hwritten
    have hbound := bound_compile_of_ok hwritten
    exact ⟨hbound, congrArg List.length hbound⟩
  · intro written hwritten
    have hbound := bound_compile_of_ok hwritten
    have hnumber : (boundAll past).length + e.literalCount < UInt32.size := by
      rw [Expr.literalCount, ← hbound]
      omega
    obtain ⟨fresh, pieces, hfresh, hcompound, hpieces, hone, hnext⟩ :=
      hbefore.exists_pieces_of_compile hwritten hnumber
    rw [hbeforeNaming] at hfresh hone hnext
    rw [← hcount] at hnext
    refine ⟨fresh, pieces, hfresh, hcompound, hpieces, hone, hnext, ?_⟩
    intro i v hv
    rw [hbound] at hfinal
    have hfound := hfinal.get?_append hnumber hv
    rwa [hfinalNaming, ← hcount] at hfound
  · have hkeys := hfinal.keys (by rw [← hall]; exact hroom)
    rwa [hfinalNaming, ← hall] at hkeys
  · rw [hfinal.values_eq, hall]

/-- A value is bound, and a tree is refused after one of its values was met: the condition that is
    written next begins with the third name. -/
theorem useAll_compile_refused :
    let age := Expr.column (.bare "age")
    let past : List Use := [.bind (.int 7),
      .compile ((Expr.binary age (.comparison .ge) (.literal (.int 18))).and (.list []))]
    let e := (Expr.binary age (.comparison .lt) (.literal (.int 65))).or
      (.binary age (.comparison .eq) (.literal .null))
    let final := (((new .standard).useAll past).compile e).2
    (boundAll (past ++ [.compile e])).length < UInt32.size ∧
      final.parameters.keys = ["ld__1", "ld__2", "ld__3"] ∧
      final.parameters.values = [.int 7, .int 18, .int 65] ∧
      (∃ fresh pieces, ((new .standard).compile e).1 = .ok fresh ∧ pieces.length = 2 ∧
        fresh.sql = weave pieces ["@ld__1"] ∧
        "age < @ld__3 OR age IS NULL" = weave pieces ["@ld__3"]) := by
  intro age past e final
  have hroom : (boundAll (past ++ [.compile e])).length < UInt32.size := by decide
  obtain ⟨-, -, hcondition, hkeys, hvalues⟩ := useAll_compile .standard past e [] hroom
  have hwritten : (((new .standard).useAll past).compile e).1
      = .ok ⟨"age < @ld__3 OR age IS NULL", true⟩ := by rfl
  obtain ⟨fresh, pieces, hfresh, -, hpieces, hone, hnext, -⟩ := hcondition _ hwritten
  have hnames : final.parameters.keys = ["ld__1", "ld__2", "ld__3"] :=
    hkeys.trans (by decide +kernel)
  exact ⟨hroom, hnames, hvalues, fresh, pieces, hfresh, hpieces, hone, hnext⟩

end Binder

end BoundSql
