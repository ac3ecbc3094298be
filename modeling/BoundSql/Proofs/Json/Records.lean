import BoundSql.Json.Decoding
import BoundSql.Proofs.Json.Nesting
import Mathlib.Data.List.Nodup

namespace BoundSql

/-!
# Json — records are read by their names

The members of a record are found by their names, wherever they stand: the fields read off it are
what its members hold under the names of the fields, and a member with another name is passed
over.

* `Json.namedFields?_record` — the fields of a record.
* `Json.choice?_record` — the content of a choice.
-/

namespace Json

variable {names : List String}

/-- A member is entered into the field with its name. -/
theorem enterField_map (hnames : names.Nodup) (found : String → Option Json) {name : String}
    (value : Json) (hnew : found name = none) :
    enterField name value (names.map fun n => (n, found n))
      = some (names.map fun n => (n, if n = name then some value else found n)) := by
  induction names with
  | nil => rfl
  | cons field others ih =>
    obtain ⟨hfield, hothers⟩ := List.nodup_cons.mp hnames
    rw [List.map_cons, List.map_cons, enterField.eq_def]
    simp only
    split
    · next hname =>
      subst hname
      have hsame : ∀ n ∈ others, (n, found n) = (n, if n = field then some value else found n) :=
        fun n hn => by rw [if_neg (ne_of_mem_of_not_mem hn hfield)]
      simp only [hnew, List.map_congr_left hsame]
    · rw [ih hothers, Option.map_some]

/-- Members with different names are entered one by one. -/
theorem enterMembers_map (hnames : names.Nodup) (found : String → Option Json)
    {members : List (String × Json)} (hmembers : (members.map Prod.fst).Nodup)
    (hnew : ∀ m ∈ members, found m.1 = none) :
    enterMembers (members.map fun (name, value) => (JsonText.ofString name, value))
        (names.map fun n => (n, found n))
      = some (names.map fun n => (n, (members.lookup n).or (found n))) := by
  induction members generalizing found with
  | nil => rfl
  | cons member others ih =>
    obtain ⟨name, value⟩ := member
    obtain ⟨hname, hothers⟩ := List.nodup_cons.mp hmembers
    obtain ⟨hfirst, hrest⟩ := List.forall_mem_cons.mp hnew
    have hnext : ∀ m ∈ others, (if m.1 = name then some value else found m.1) = none := by
      intro m hm
      rw [if_neg (ne_of_mem_of_not_mem (List.mem_map_of_mem hm) hname), hrest m hm]
    rw [List.map_cons, enterMembers, JsonText.string?_ofString]
    simp only [Option.bind_eq_bind, Option.bind_some, enterField_map hnames found value hfirst,
      ih (fun n => if n = name then some value else found n) hothers hnext]
    refine congrArg some (List.map_congr_left fun n _ => ?_)
    by_cases hn : n = name
    · have hnone : others.lookup name = none :=
        List.lookup_eq_none_iff.mpr fun m hm => by
          simpa using (ne_of_mem_of_not_mem (List.mem_map_of_mem hm) hname).symm
      simp [hn, hnone]
    · rw [if_neg hn, List.lookup_cons, beq_false_of_ne hn]

/-- **Records.**  The fields of a record are what its members hold under their names. -/
theorem namedFields?_record (hnames : names.Nodup) {members : List (String × Json)}
    (hmembers : (members.map Prod.fst).Nodup) :
    (record members).namedFields? names = some (names.map fun n => members.lookup n) := by
  have hread := enterMembers_map hnames (fun _ => none) hmembers fun _ _ => rfl
  rw [record, namedFields?, hread, Option.map_some, List.map_map]
  simp [Function.comp_def]

/-- A record that could be an array is read in the same way. -/
theorem fields?_record (hnames : names.Nodup) {members : List (String × Json)}
    (hmembers : (members.map Prod.fst).Nodup) :
    (record members).fields? names = some (names.map fun n => members.lookup n) :=
  namedFields?_record hnames hmembers

/-- **Choices.**  The content of a choice, with its name. -/
theorem choice?_record (name : String) (content : Json) :
    (record [(name, content)]).choice? = some (name, content) := by
  show ((JsonText.ofString name).string?).map (·, content) = _
  rw [JsonText.string?_ofString, Option.map_some]

/-- A choice without content is read by its name, without entering anything. -/
theorem unitChoiceOf?_string {α : Type} (ofName? : String → Option α) (depth : Nat)
    (name : String) : unitChoiceOf? ofName? depth (.string name) = ofName? name := by
  rw [unitChoiceOf?, Json.string, unitChoice?, JsonText.string?_ofString, Option.bind_some]

theorem string?_string (s : String) : (Json.string s).string? = some s :=
  JsonText.string?_ofString s

theorem optional?_none {α : Type} (read : Json → Option α) :
    optional? read none = some none := rfl

theorem optional?_string (s : String) :
    optional? string? (some (.string s)) = some (some s) :=
  congrArg (Option.map some) (string?_string s)

/-! ### Depth -/

@[simp] theorem depth_string (s : String) : (Json.string s).depth = 0 := rfl

@[simp] theorem depth_bool (b : Bool) : (Json.bool b).depth = 0 := rfl

@[simp] theorem depth_array (items : List Json) :
    (Json.array items).depth = depthOfItems items + 1 := rfl

@[simp] theorem depth_record_nil : (record []).depth = 1 := rfl

@[simp] theorem depth_record_cons (name : String) (value : Json) (members : List (String × Json)) :
    (record ((name, value) :: members)).depth = max (value.depth + 1) (record members).depth := by
  show max value.depth _ + 1 = max (value.depth + 1) (_ + 1)
  rw [Nat.add_max_add_right]

/-! ### Readers with a limit -/

section UpTo

variable {α β γ : Type}

/-- What a reader that may enter `limit` arrays and objects makes of a document that stands for
    `a` and nests `depth` of them. -/
def upTo (limit depth : Nat) (a : α) : Option α :=
  if depth ≤ limit then some a else none

@[simp] theorem upTo_zero (limit : Nat) (a : α) : upTo limit 0 a = some a :=
  if_pos (Nat.zero_le limit)

@[simp] theorem upTo_succ (limit depth : Nat) (a : α) :
    upTo (limit + 1) (depth + 1) a = upTo limit depth a := by
  simp only [upTo, Nat.add_le_add_iff_right]

@[simp] theorem zero_upTo_succ (depth : Nat) (a : α) : upTo 0 (depth + 1) a = none :=
  if_neg (Nat.not_succ_le_zero depth)

theorem map_upTo (limit depth : Nat) (a : α) (f : α → β) :
    (upTo limit depth a).map f = upTo limit depth (f a) := by
  rw [upTo, upTo]
  split <;> rfl

/-- Of two documents the deeper one decides. -/
theorem bind_upTo (limit m n : Nat) (a : α) (b : β) (f : α → β → γ) :
    ((upTo limit m a).bind fun a => (upTo limit n b).bind fun b => some (f a b))
      = upTo limit (max m n) (f a b) := by
  rw [upTo, upTo, upTo]
  by_cases hm : m ≤ limit
  · by_cases hn : n ≤ limit
    · rw [if_pos hm, if_pos hn, if_pos (Nat.max_le.mpr ⟨hm, hn⟩)]
      rfl
    · rw [if_pos hm, if_neg hn, if_neg fun h => hn (Nat.max_le.mp h).2]
      rfl
  · rw [if_neg hm, if_neg fun h => hm (Nat.max_le.mp h).1]
    rfl

end UpTo

end Json

end BoundSql
