import BoundSql.Expr.Json
import BoundSql.Proofs.Json.Records

namespace BoundSql

/-!
# Expr — documents of trees

The document of a tree is read back as this tree if the reader may enter as many nested arrays
and objects as the document has, and is refused otherwise.  In the other direction a tree that
was read from any document, however it is spelled, has a document of its own that is no deeper
than its reader may go.

* `Expr.ofJson?_toJson` — a tree is read back within its depth and refused beyond it.
* `Expr.depth_le_of_ofJson?` — a tree that was read is within the depth of its reader.
-/

/-! ### Values -/

namespace Value

theorem int64?_toInt (i : Int64) : int64? i.toInt = some i := by
  rw [int64?, if_pos ⟨Int64.minValue_le_toInt i, Int64.toInt_le i⟩, Int64.ofInt_toInt]

/-- An alternative with content takes one level. -/
theorem ofJson?_record (kind : String) (content : Json) (depth : Nat) :
    ofJson? depth (.record [(kind, content)])
      = if depth = 0 then none else ofChoice? kind content := by
  rw [ofJson?]
  · rw [Json.choice?_record]
    rfl
  · intro name hname
    cases hname

/-- A value takes one level at most. -/
theorem depth_toJson_le (v : Value) : v.toJson.depth ≤ 1 := by
  cases v with
  | float x =>
    rw [toJson, floatToJson]
    split <;> exact Nat.le_refl 1
  | null => exact Nat.zero_le 1
  | bool b => exact Nat.le_refl 1
  | int i => exact Nat.le_refl 1
  | string s => exact Nat.le_refl 1

/-- A value that is no floating-point number is read back if its level may be entered. -/
theorem ofJson?_toJson {v : Value} (h : ∀ x, v ≠ .float x) (depth : Nat) :
    ofJson? depth v.toJson = Json.upTo depth v.toJson.depth v := by
  cases v with
  | null => rfl
  | float x => exact absurd rfl (h x)
  | bool b =>
    rw [toJson, ofJson?_record]
    cases depth <;> rfl
  | int i =>
    have hread : ofChoice? "Int64" (.int i.toInt) = some (.int i) := by
      show ((Decimal.Numeral.ofInt i.toInt).integer?.bind int64?).map Value.int = _
      rw [Decimal.Numeral.integer?_ofInt, Option.bind_some, int64?_toInt, Option.map_some]
    rw [toJson, ofJson?_record, hread]
    cases depth <;> rfl
  | string s =>
    have hread : ofChoice? "String" (.string s) = some (.string s) := by
      show (Json.string s).string?.map Value.string = _
      rw [Json.string?_string, Option.map_some]
    rw [toJson, ofJson?_record, hread]
    cases depth <;> rfl

/-- A value that was read without entering anything is null. -/
theorem depth_le_of_ofJson? {depth : Nat} {j : Json} {v : Value} (h : ofJson? depth j = some v) :
    v.toJson.depth ≤ depth := by
  match depth with
  | depth + 1 => exact Nat.le_trans (depth_toJson_le v) (by omega)
  | 0 =>
    rw [ofJson?.eq_def] at h
    split at h
    · split at h
      · cases h
        decide
      · cases h
    · cases h

end Value

/-! ### Columns -/

namespace Column

theorem depth_toJson (c : Column) : c.toJson.depth = 1 := by
  obtain ⟨name, qualifier⟩ := c
  cases qualifier <;> rfl

/-- A column is read back, its qualifier as it was, if its record may be entered. -/
theorem ofJson?_toJson (c : Column) (depth : Nat) :
    ofJson? depth c.toJson = Json.upTo depth c.toJson.depth c := by
  rw [depth_toJson]
  match depth with
  | 0 => rfl
  | depth + 1 =>
    obtain ⟨name, qualifier⟩ := c
    rw [ofJson?, if_neg (Nat.succ_ne_zero depth), toJson,
      Json.fields?_record (by decide) (by cases qualifier <;> simp)]
    cases qualifier with
    | none => simp [List.lookup_cons, Json.string?_string, Json.optional?_none]
    | some q => simp [List.lookup_cons, Json.string?_string, Json.optional?_string]

/-- A column that was read is within the limit of its reader. -/
theorem depth_le_of_ofJson? {depth : Nat} {j : Json} {c : Column}
    (h : ofJson? depth j = some c) : c.toJson.depth ≤ depth := by
  rw [depth_toJson]
  match depth with
  | 0 => cases h
  | depth + 1 => exact Nat.succ_le_succ (Nat.zero_le depth)

end Column

namespace Expr

/-! ### The content of a choice -/

/-- Reads the arguments of a call, a list of trees that takes one level. -/
def ofArgs? (positional : Bool) : (depth : Nat) → Json → Option (List Expr)
  | 0 => fun _ => none
  | depth + 1 => readItems (ofJson? positional depth)

/-- Reads the content of a choice that may enter `depth` nested arrays and objects. -/
def ofContent? (positional : Bool) (depth : Nat) (kind : String) (content : Json) : Option Expr :=
  if kind = "Column" then (Column.ofJson? depth content).map .column
  else if kind = "Literal" then (Value.ofJson? depth content).map .literal
  else
    match depth with
    | 0 => none
    | depth + 1 =>
        if kind = "List" then (readItems (ofJson? positional depth) content).map .list
        else
          ofRecord? positional (ofJson? positional depth) (ofArgs? positional depth) depth kind
            content

/-- A tree is a choice and its content, whatever the limit is. -/
theorem ofJson?_succ (positional : Bool) (depth : Nat) (j : Json) :
    ofJson? positional (depth + 1) j
      = j.choice?.bind fun choice => ofContent? positional depth choice.1 choice.2 := by
  match depth with
  | 0 =>
    rw [ofJson?]
    cases hchoice : j.choice? with
    | none => rfl
    | some choice =>
      obtain ⟨kind, content⟩ := choice
      simp only [Option.bind_eq_bind, Option.bind_some, ofContent?]
      by_cases hcolumn : kind = "Column"
      · subst hcolumn
        rfl
      · rw [if_neg hcolumn]
  | 1 => rfl
  | depth + 2 => rfl

theorem ofJson?_record (positional : Bool) (depth : Nat) (kind : String) (content : Json) :
    ofJson? positional (depth + 1) (.record [(kind, content)])
      = ofContent? positional depth kind content := by
  rw [ofJson?_succ, Json.choice?_record, Option.bind_some]

section Content

variable (positional : Bool) (depth : Nat) (content : Json)

theorem ofContent?_column :
    ofContent? positional depth "Column" content
      = (Column.ofJson? depth content).map .column := by
  unfold ofContent?
  rw [if_pos rfl]

theorem ofContent?_literal :
    ofContent? positional depth "Literal" content
      = (Value.ofJson? depth content).map .literal := by
  unfold ofContent?
  rw [if_neg (by decide), if_pos rfl]

theorem ofContent?_list :
    ofContent? positional (depth + 1) "List" content
      = (readItems (ofJson? positional depth) content).map .list := by
  unfold ofContent?
  rw [if_neg (by decide), if_neg (by decide)]
  rfl

/-- The kinds that are left have records. -/
theorem ofContent?_record {kind : String} (h : kind ∉ ["Column", "Literal", "List"]) :
    ofContent? positional (depth + 1) kind content
      = ofRecord? positional (ofJson? positional depth) (ofArgs? positional depth) depth kind
          content := by
  simp only [List.mem_cons, List.not_mem_nil, or_false, not_or] at h
  obtain ⟨hcolumn, hliteral, hlist⟩ := h
  unfold ofContent?
  rw [if_neg hcolumn, if_neg hliteral]
  simp only [if_neg hlist]

/-- Nothing but a literal needs no further level. -/
theorem ofContent?_zero {kind : String} (h : kind ≠ "Literal") :
    ofContent? positional 0 kind content = none := by
  unfold ofContent?
  rw [if_neg h]
  by_cases hcolumn : kind = "Column"
  · rw [if_pos hcolumn]
    rfl
  · rw [if_neg hcolumn]

end Content

/-! ### Records of trees -/

/-- A record is read by the names of its members, whether or not it might be an array. -/
theorem recordFields?_record (positional : Bool) {names : List String} (hnames : names.Nodup)
    {members : List (String × Json)} (hmembers : (members.map Prod.fst).Nodup) :
    recordFields? positional names (.record members)
      = some (names.map fun n => members.lookup n) := by
  cases positional
  · exact Json.namedFields?_record hnames hmembers
  · exact Json.fields?_record hnames hmembers

section Records

variable (positional : Bool) (tree : Json → Option Expr) (trees : Json → Option (List Expr))
  (depth : Nat)

theorem ofRecord?_binary (left : Json) (op : BinaryOp) (right : Json) :
    ofRecord? positional tree trees depth "Binary"
        (.record [("left", left), ("op", .string op.name), ("right", right)])
      = (tree left).bind fun l => (tree right).bind fun r => some (.binary l op r) := by
  rw [ofRecord?, if_pos rfl, recordFields?_record positional (by decide) (by simp)]
  simp [List.lookup_cons, Json.unitChoiceOf?_string, BinaryOp.ofName?_name]

theorem ofRecord?_unary (op : UnaryOp) (operand : Json) :
    ofRecord? positional tree trees depth "Unary"
        (.record [("op", .string op.name), ("operand", operand)])
      = (tree operand).map (.unary op) := by
  rw [ofRecord?, if_neg (by decide), if_pos rfl,
    recordFields?_record positional (by decide) (by simp)]
  simp [List.lookup_cons, Json.unitChoiceOf?_string, UnaryOp.ofName?_name, Option.map_eq_bind,
    Function.comp_def]

theorem ofRecord?_match (operand : Json) (place : MatchPlace) (pattern : Json)
    (ignoreCase : Bool) :
    ofRecord? positional tree trees depth "Match"
        (.record [("operand", operand), ("kind", .string place.name), ("pattern", pattern),
          ("ignore_case", .bool ignoreCase)])
      = (tree operand).bind fun e =>
          (tree pattern).bind fun p => some (.like e place p ignoreCase) := by
  rw [ofRecord?, if_neg (by decide), if_neg (by decide), if_pos rfl,
    recordFields?_record positional (by decide) (by simp)]
  simp [List.lookup_cons, Json.unitChoiceOf?_string, MatchPlace.ofName?_name, Json.orDefault?,
    Json.bool?]

theorem ofRecord?_call (name : String) (args : Json) :
    ofRecord? positional tree trees depth "FunctionCall"
        (.record [("name", .string name), ("args", args)])
      = (trees args).map (.call name) := by
  rw [ofRecord?, if_neg (by decide), if_neg (by decide), if_neg (by decide), if_pos rfl,
    recordFields?_record positional (by decide) (by simp)]
  simp [List.lookup_cons, Json.string?_string, Option.map_eq_bind, Function.comp_def]

end Records

/-! ### Trees without floating-point numbers -/

/-- No literal of the tree is a floating-point number. -/
def FloatFree (e : Expr) : Prop := ∀ x, Value.float x ∉ e.literals

theorem mem_literalsAll {items : List Expr} {e : Expr} (he : e ∈ items) {v : Value}
    (hv : v ∈ e.literals) : v ∈ literalsAll items := by
  induction items with
  | nil => exact absurd he List.not_mem_nil
  | cons item rest ih =>
    rw [literalsAll, List.mem_append]
    rcases List.mem_cons.mp he with rfl | hrest
    · exact .inl hv
    · exact .inr (ih hrest)

theorem FloatFree.item {items : List Expr} (h : ∀ x, Value.float x ∉ literalsAll items)
    {e : Expr} (he : e ∈ items) : e.FloatFree :=
  fun x hx => h x (mem_literalsAll he hx)

theorem FloatFree.of_append_left {vs ws : List Value} (h : ∀ x, Value.float x ∉ vs ++ ws) :
    ∀ x, Value.float x ∉ vs :=
  fun x hx => h x (List.mem_append_left ws hx)

theorem FloatFree.of_append_right {vs ws : List Value} (h : ∀ x, Value.float x ∉ vs ++ ws) :
    ∀ x, Value.float x ∉ ws :=
  fun x hx => h x (List.mem_append_right vs hx)

theorem FloatFree.value {v : Value} (h : (Expr.literal v).FloatFree) (x : Binary64) :
    v ≠ .float x := by
  rintro rfl
  exact h x (List.mem_singleton_self _)

/-! ### Depth of a tree -/

@[simp] theorem depth_toJson_column (c : Column) : (Expr.column c).toJson.depth = 2 := by
  show (Json.record [("Column", c.toJson)]).depth = _
  simp [Column.depth_toJson]

@[simp] theorem depth_toJson_literal (v : Value) :
    (Expr.literal v).toJson.depth = v.toJson.depth + 1 := by
  show (Json.record [("Literal", v.toJson)]).depth = _
  simp

@[simp] theorem depth_toJson_list (items : List Expr) :
    (Expr.list items).toJson.depth = Json.depthOfItems (toJsonAll items) + 2 := by
  show (Json.record [("List", .array (toJsonAll items))]).depth = _
  simp

@[simp] theorem depth_toJson_binary (left : Expr) (op : BinaryOp) (right : Expr) :
    (Expr.binary left op right).toJson.depth = max left.toJson.depth right.toJson.depth + 2 := by
  show (Json.record [("Binary", .record
    [("left", left.toJson), ("op", .string op.name), ("right", right.toJson)])]).depth = _
  simp

@[simp] theorem depth_toJson_unary (op : UnaryOp) (operand : Expr) :
    (Expr.unary op operand).toJson.depth = operand.toJson.depth + 2 := by
  show (Json.record [("Unary", .record
    [("op", .string op.name), ("operand", operand.toJson)])]).depth = _
  simp

@[simp] theorem depth_toJson_like (operand : Expr) (place : MatchPlace) (pattern : Expr)
    (ignoreCase : Bool) :
    (Expr.like operand place pattern ignoreCase).toJson.depth
      = max operand.toJson.depth pattern.toJson.depth + 2 := by
  show (Json.record [("Match", .record
    [("operand", operand.toJson), ("kind", .string place.name),
      ("pattern", pattern.toJson), ("ignore_case", .bool ignoreCase)])]).depth = _
  simp

@[simp] theorem depth_toJson_call (name : String) (args : List Expr) :
    (Expr.call name args).toJson.depth = Json.depthOfItems (toJsonAll args) + 3 := by
  show (Json.record [("FunctionCall", .record
    [("name", .string name), ("args", .array (toJsonAll args))])]).depth = _
  simp

/-! ### Reading a tree back -/

/-- A list is as deep as the deepest of its items, and read if all of them are. -/
theorem readItems_toJsonAll {read : Json → Option Expr} {limit : Nat} {items : List Expr}
    (h : ∀ e ∈ items, read e.toJson = Json.upTo limit e.toJson.depth e) :
    readItems read (.array (toJsonAll items))
      = Json.upTo limit (Json.depthOfItems (toJsonAll items)) items := by
  show (toJsonAll items).mapM read = _
  induction items with
  | nil => rfl
  | cons e rest ih =>
    obtain ⟨he, hrest⟩ := List.forall_mem_cons.mp h
    rw [toJsonAll, List.mapM_cons, he, ih hrest, Json.depthOfItems]
    exact Json.bind_upTo ..

/-- **Within its depth.**  A tree is read back from its own document, if the reader may enter
    as many arrays and objects as it has nested, and is refused otherwise. -/
theorem ofJson?_toJson (positional : Bool) {e : Expr} (h : e.FloatFree) (depth : Nat) :
    ofJson? positional depth e.toJson = Json.upTo depth e.toJson.depth e := by
  -- The arguments of a call are three levels below it, so that all smaller limits are needed.
  induction depth using Nat.strongRecOn generalizing e with
  | _ depth ih =>
  cases e with
  | column c =>
    match depth with
    | 0 => simp [ofJson?]
    | depth + 1 =>
      rw [toJson, ofJson?_record, ofContent?_column, Column.ofJson?_toJson, Json.map_upTo]
      simp [Column.depth_toJson]
  | literal v =>
    match depth with
    | 0 => simp [ofJson?]
    | depth + 1 =>
      rw [toJson, ofJson?_record, ofContent?_literal, Value.ofJson?_toJson h.value, Json.map_upTo]
      simp
  | list items =>
    match depth with
    | 0 => simp [ofJson?]
    | 1 => simp [toJson, ofJson?_record, ofContent?_zero]
    | depth + 2 =>
      have hitems : ∀ e ∈ items, ofJson? positional depth e.toJson
          = Json.upTo depth e.toJson.depth e :=
        fun e he => ih depth (by omega) (FloatFree.item h he)
      rw [toJson, ofJson?_record, ofContent?_list, readItems_toJsonAll hitems, Json.map_upTo]
      simp
  | binary left op right =>
    match depth with
    | 0 => simp [ofJson?]
    | 1 => simp [toJson, ofJson?_record, ofContent?_zero]
    | depth + 2 =>
      rw [toJson, ofJson?_record, ofContent?_record _ _ _ (by decide), ofRecord?_binary,
        ih depth (by omega) (FloatFree.of_append_left h), ih depth (by omega) (FloatFree.of_append_right h),
        Json.bind_upTo]
      simp
  | unary op operand =>
    match depth with
    | 0 => simp [ofJson?]
    | 1 => simp [toJson, ofJson?_record, ofContent?_zero]
    | depth + 2 =>
      have hoperand : operand.FloatFree := h
      rw [toJson, ofJson?_record, ofContent?_record _ _ _ (by decide), ofRecord?_unary,
        ih depth (by omega) hoperand, Json.map_upTo]
      simp
  | like operand place pattern ignoreCase =>
    match depth with
    | 0 => simp [ofJson?]
    | 1 => simp [toJson, ofJson?_record, ofContent?_zero]
    | depth + 2 =>
      rw [toJson, ofJson?_record, ofContent?_record _ _ _ (by decide), ofRecord?_match,
        ih depth (by omega) (FloatFree.of_append_left h), ih depth (by omega) (FloatFree.of_append_right h),
        Json.bind_upTo]
      simp
  | call name args =>
    match depth with
    | 0 => simp [ofJson?]
    | 1 => simp [toJson, ofJson?_record, ofContent?_zero]
    | 2 =>
      rw [toJson, ofJson?_record, ofContent?_record _ _ _ (by decide), ofRecord?_call, ofArgs?]
      simp
    | depth + 3 =>
      have hargs : ∀ e ∈ args, ofJson? positional depth e.toJson
          = Json.upTo depth e.toJson.depth e :=
        fun e he => ih depth (by omega) (FloatFree.item h he)
      rw [toJson, ofJson?_record, ofContent?_record _ _ _ (by decide), ofRecord?_call, ofArgs?,
        readItems_toJsonAll hargs, Json.map_upTo]
      simp

/-! ### Reading any document -/

section Reading

variable {tree : Json → Option Expr} {trees : Json → Option (List Expr)} {limit : Nat}

/-- A list whose items were read within a limit is within this limit. -/
theorem depth_le_of_readItems (htree : ∀ j e, tree j = some e → e.toJson.depth ≤ limit)
    {j : Json} {items : List Expr} (h : readItems tree j = some items) :
    Json.depthOfItems (toJsonAll items) ≤ limit := by
  match j with
  | .array js =>
    change js.mapM tree = some items at h
    induction js generalizing items with
    | nil =>
      cases h
      exact Nat.zero_le limit
    | cons j rest ih =>
      rw [List.mapM_cons] at h
      simp only [Option.bind_eq_bind, Option.bind_eq_some_iff] at h
      obtain ⟨e, he, others, hothers, h⟩ := h
      cases h
      exact Nat.max_le.mpr ⟨htree j e he, ih hothers⟩

/-- A record takes two levels more than the trees in it. -/
theorem depth_le_of_ofRecord? (htree : ∀ j e, tree j = some e → e.toJson.depth ≤ limit)
    (htrees : ∀ j items, trees j = some items →
      Json.depthOfItems (toJsonAll items) + 1 ≤ limit)
    {positional : Bool} {depth : Nat} {kind : String} {content : Json} {e : Expr}
    (h : ofRecord? positional tree trees depth kind content = some e) :
    e.toJson.depth ≤ limit + 2 := by
  unfold ofRecord? at h
  split at h
  case isTrue =>
    split at h
    · simp only [Option.bind_eq_bind, Option.bind_eq_some_iff] at h
      obtain ⟨left, hleft, op, -, right, hright, h⟩ := h
      cases h
      have hleft := htree _ _ hleft
      have hright := htree _ _ hright
      rw [depth_toJson_binary]
      omega
    · cases h
  case isFalse =>
  split at h
  case isTrue =>
    split at h
    · simp only [Option.bind_eq_bind, Option.bind_eq_some_iff] at h
      obtain ⟨op, -, operand, hoperand, h⟩ := h
      cases h
      have hoperand := htree _ _ hoperand
      rw [depth_toJson_unary]
      omega
    · cases h
  case isFalse =>
  split at h
  case isTrue =>
    split at h
    · simp only [Option.bind_eq_bind, Option.bind_eq_some_iff] at h
      obtain ⟨operand, hoperand, place, -, pattern, hpattern, ignoreCase, -, h⟩ := h
      cases h
      have hoperand := htree _ _ hoperand
      have hpattern := htree _ _ hpattern
      rw [depth_toJson_like]
      omega
    · cases h
  case isFalse =>
  split at h
  case isTrue =>
    split at h
    · simp only [Option.bind_eq_bind, Option.bind_eq_some_iff] at h
      obtain ⟨name, -, args, hargs, h⟩ := h
      cases h
      have hargs := htrees _ _ hargs
      rw [depth_toJson_call]
      omega
    · cases h
  case isFalse => cases h

end Reading

/-- **Within the limit.**  A tree that was read, whatever the document, has a document of its own
    that is no deeper than its reader may go. -/
theorem depth_le_of_ofJson? {positional : Bool} {depth : Nat} {j : Json} {e : Expr}
    (h : ofJson? positional depth j = some e) : e.toJson.depth ≤ depth := by
  induction depth using Nat.strongRecOn generalizing j e with
  | _ depth ih =>
  match depth with
  | 0 => cases h
  | depth + 1 =>
    rw [ofJson?_succ] at h
    obtain ⟨⟨kind, content⟩, -, h⟩ := Option.bind_eq_some_iff.mp h
    simp only at h
    by_cases hcolumn : kind = "Column"
    · rw [hcolumn, ofContent?_column, Option.map_eq_some_iff] at h
      obtain ⟨c, hc, rfl⟩ := h
      have hc := Column.depth_le_of_ofJson? hc
      rw [Column.depth_toJson] at hc
      rw [depth_toJson_column]
      omega
    by_cases hliteral : kind = "Literal"
    · rw [hliteral, ofContent?_literal, Option.map_eq_some_iff] at h
      obtain ⟨v, hv, rfl⟩ := h
      have hv := Value.depth_le_of_ofJson? hv
      rw [depth_toJson_literal]
      omega
    match depth with
    | 0 =>
      rw [ofContent?_zero _ _ hliteral] at h
      cases h
    | depth + 1 =>
      have htree : ∀ j e, ofJson? positional depth j = some e → e.toJson.depth ≤ depth :=
        fun j e => ih depth (by omega)
      by_cases hlist : kind = "List"
      · rw [hlist, ofContent?_list, Option.map_eq_some_iff] at h
        obtain ⟨items, hitems, rfl⟩ := h
        have hitems := depth_le_of_readItems htree hitems
        rw [depth_toJson_list]
        omega
      · rw [ofContent?_record _ _ _ (by simp [hcolumn, hliteral, hlist])] at h
        refine depth_le_of_ofRecord? htree (fun j args hargs => ?_) h
        match depth with
        | 0 => cases hargs
        | depth + 1 =>
          exact Nat.succ_le_succ (depth_le_of_readItems (fun j e => ih depth (by omega)) hargs)

end Expr

end BoundSql
