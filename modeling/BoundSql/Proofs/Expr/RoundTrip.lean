import BoundSql.Proofs.Expr.Documents
import BoundSql.Proofs.Json.RoundTrip

namespace BoundSql

/-!
# Expr — trees survive their text

The documents of trees are plain, unless there are floating-point numbers in them, so that the
text of a tree holds the document of the tree.  How deep this document nests is seen from the
text, and decides whether the tree is read back.

* `Expr.parse_compact_eq` — what the text of a tree holds.
* `Expr.parse_roundTrip` — which trees survive their text.
-/

namespace Value

/-- The document of a value that is no floating-point number is plain. -/
theorem plain_toJson {v : Value} (h : ∀ x, v ≠ .float x) : v.toJson.Plain := by
  cases v with
  | null => exact .string "Null"
  | float x => exact absurd rfl (h x)
  | bool b => exact Json.plain_choice (.bool b)
  | int i => exact Json.plain_choice (.int i.toInt)
  | string s => exact Json.plain_choice (.string s)

end Value

namespace Column

theorem plain_toJson (c : Column) : c.toJson.Plain := by
  obtain ⟨name, qualifier⟩ := c
  cases qualifier <;> exact Json.plain_record (by simp [Json.Plain.string])

end Column

namespace Expr

/-! ### Plain documents -/

mutual

/-- The document of a tree without floating-point numbers is plain. -/
theorem plain_toJson {e : Expr} (h : e.FloatFree) : e.toJson.Plain := by
  match e with
  | .column c => exact Json.plain_choice c.plain_toJson
  | .literal v => exact Json.plain_choice (Value.plain_toJson h.value)
  | .list items => exact Json.plain_choice (.array (plain_toJsonAll h))
  | .binary left op right =>
    have hleft := plain_toJson (FloatFree.of_append_left h)
    have hright := plain_toJson (FloatFree.of_append_right h)
    exact Json.plain_choice (Json.plain_record (by simp [hleft, hright, Json.Plain.string]))
  | .unary op operand =>
    have hoperand : operand.toJson.Plain := plain_toJson (e := operand) h
    exact Json.plain_choice (Json.plain_record (by simp [hoperand, Json.Plain.string]))
  | .like operand place pattern ignoreCase =>
    have hoperand := plain_toJson (FloatFree.of_append_left h)
    have hpattern := plain_toJson (FloatFree.of_append_right h)
    exact Json.plain_choice (Json.plain_record
      (by simp [hoperand, hpattern, Json.Plain.string, Json.Plain.bool]))
  | .call name args =>
    have hargs : (Json.array (toJsonAll args)).Plain := .array (plain_toJsonAll h)
    exact Json.plain_choice (Json.plain_record (by simp [hargs, Json.Plain.string]))

theorem plain_toJsonAll {items : List Expr} (h : ∀ x, Value.float x ∉ literalsAll items) :
    ∀ j ∈ toJsonAll items, j.Plain := by
  match items with
  | [] => exact fun j hj => absurd hj List.not_mem_nil
  | e :: rest =>
    intro j hj
    rcases List.mem_cons.mp hj with rfl | hrest
    · exact plain_toJson (FloatFree.of_append_left h)
    · exact plain_toJsonAll (FloatFree.of_append_right h) j hrest

end

/-! ### Texts -/

/-- The text of a tree holds this tree if no more arrays and objects are nested in it than may be
    entered, and none otherwise. -/
theorem parse_compact_eq {e : Expr} (h : e.FloatFree) :
    parse e.compact = Json.upTo Json.depthLimit (Json.nesting e.compact) e := by
  rw [parse, compact, Json.parse_compact (plain_toJson h), Option.bind_some, ofJson?_toJson true h,
    Json.nesting_compact]

/-- **Texts of trees.**  The text of a tree without floating-point numbers is read back as this
    tree if it nests at most 127 arrays and objects, and refused if it nests more.  If any text at
    all holds such a tree, then the text of the tree itself is read back as this tree. -/
theorem parse_roundTrip :
    (∀ e : Expr, e.FloatFree →
      (Json.nesting e.compact ≤ 127 → parse e.compact = some e)
      ∧ (127 < Json.nesting e.compact → parse e.compact = none))
    ∧ ∀ (text : String) (e : Expr), parse text = some e → e.FloatFree →
        parse e.compact = some e := by
  have hwithin : ∀ e : Expr, e.FloatFree → Json.nesting e.compact ≤ 127 →
      parse e.compact = some e := by
    intro e hfree hnesting
    rw [parse_compact_eq hfree]
    exact if_pos hnesting
  refine ⟨fun e hfree => ⟨hwithin e hfree, fun hnesting => ?_⟩, fun text e htext hfree => ?_⟩
  · rw [parse_compact_eq hfree]
    exact if_neg (Nat.not_le.mpr hnesting)
  · obtain ⟨j, -, hj⟩ := Option.bind_eq_some_iff.mp htext
    refine hwithin e hfree ?_
    rw [compact, Json.nesting_compact]
    exact depth_le_of_ofJson? hj

/-- A document with arrays in place of records, alternatives without content as choices, members
    in another order, and one that is no field. -/
def spelledDocument : Json :=
  .record [("Binary", .record
    [("op", .record [("And", .null)]), ("x", .array [.int 1]),
     ("left", .record [("Unary", .array [.string "Not", .record [("List", .array [])]])]),
     ("right", .record [("Match", .array
       [.record [("Column", .array [.string "name", .string ""])], .string "StartsWith",
        .record [("Literal", .record [("Null", .null)])]])])])]

theorem plain_spelledDocument : spelledDocument.Plain := by
  refine Json.plain_choice (Json.plain_record ?_)
  simp only [List.forall_mem_cons]
  refine ⟨Json.plain_choice .null, .array ?_, Json.plain_choice (.array ?_),
    Json.plain_choice (.array ?_), by simp⟩
  · simp [Json.Plain.int]
  · have hlist : (Json.array []).Plain := .array (by simp)
    simp [Json.Plain.string, Json.plain_choice hlist]
  · have hcolumn : (Json.array [.string "name", .string ""]).Plain :=
      .array (by simp [Json.Plain.string])
    simp [Json.Plain.string, Json.plain_choice hcolumn, Json.plain_choice,
      Json.Plain.null]

/-- The document as a text. -/
def spelledText : String :=
  "\x7b\"Binary\":\x7b\"op\":\x7b\"And\":null\x7d,\"x\":[1],\"left\":\x7b\"Unary\":[\"Not\","
    ++ "\x7b\"List\":[]\x7d]\x7d,\"right\":\x7b\"Match\":[\x7b\"Column\":[\"name\",\"\"]\x7d,"
    ++ "\"StartsWith\",\x7b\"Literal\":\x7b\"Null\":null\x7d\x7d]\x7d\x7d\x7d"

/-- The tree that the document stands for. -/
def spelled : Expr :=
  .and (.not (.list [])) (.like (.column ⟨"name", some ""⟩) .atStart (.literal .null) false)

/-- A tree that nests one more array or object than may be entered. -/
def tooDeep : Expr :=
  Nat.repeat not 63 (.column (.bare "a"))

theorem parse_roundTrip_spelled :
    (parse spelledText = some spelled ∧ spelled.FloatFree ∧ Json.nesting spelled.compact ≤ 127
      ∧ parse spelled.compact = some spelled)
    ∧ (tooDeep.FloatFree ∧ 127 < Json.nesting tooDeep.compact ∧ parse tooDeep.compact = none) := by
  have hdocument : spelledText = spelledDocument.compact := by decide +kernel
  have htext : parse spelledText = some spelled := by
    rw [parse, hdocument, Json.parse_compact plain_spelledDocument]
    rfl
  have hspelled : spelled.FloatFree := fun x => by
    simp [spelled, and, not, literals, literalsAll, Value.isNull]
  have hnesting : Json.nesting spelled.compact ≤ 127 := by
    rw [compact, Json.nesting_compact]
    decide
  have hdeep : tooDeep.FloatFree := fun x h => by
    have hnone : tooDeep.literals = [] := by decide +kernel
    simp [hnone] at h
  have hdeepNesting : 127 < Json.nesting tooDeep.compact := by
    rw [compact, Json.nesting_compact]
    decide +kernel
  exact ⟨⟨htext, hspelled, hnesting, parse_roundTrip.2 spelledText spelled htext hspelled⟩,
    hdeep, hdeepNesting, (parse_roundTrip.1 tooDeep hdeep).2 hdeepNesting⟩

end Expr

end BoundSql
