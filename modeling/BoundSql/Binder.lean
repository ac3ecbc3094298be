import BoundSql.Keyed
import BoundSql.Value.Json

namespace BoundSql

/-!
# Binder — parameters and their names

A binder gives the values of one statement fresh names — a stem and a running number — and
keeps them in the order in which they were bound.  In the text a value is represented by
its placeholder, the name behind a sigil; null needs no name and is written out.

* `Binder.bind` — the text for a value, and the binder that knows it.
* `Binder.fill` — the text of a template, with all its values bound in order.
-/

/-- How parameters are called: the stem of their names and the sign in front of them in a
    text. -/
structure Naming where
  stem : String
  sigil : Char
  deriving DecidableEq

/-- Names like `ld__1`, written `@ld__1`. -/
def Naming.standard : Naming := ⟨"ld__", '@'⟩

/-- Bound values by name, in binding order. -/
abbrev Parameters := Keyed Value

/-- The parameters as a document. -/
def Parameters.toJson (parameters : Parameters) : Json :=
  .record (parameters.entries.map fun (name, value) => (name, value.toJson))

/-- The parameters of a statement so far, and how many names were given. -/
structure Binder where
  naming : Naming
  counter : UInt32
  parameters : Parameters

/-- A text with the values that belong into it still in place. -/
inductive Piece where
  | text (s : String)
  | value (v : Value)
  deriving DecidableEq

/-- A text in pieces, from left to right. -/
abbrev Template := List Piece

namespace Naming

/-- The name of the parameter with a number. -/
def name (naming : Naming) (number : UInt32) : String :=
  naming.stem ++ Decimal.numeral number.toNat

/-- How a text refers to the parameter with a number. -/
def placeholder (naming : Naming) (number : UInt32) : String :=
  String.singleton naming.sigil ++ naming.name number

end Naming

namespace Binder

/-- A binder without parameters. -/
def new (naming : Naming) : Binder :=
  ⟨naming, 0, Keyed.empty⟩

/-- The text for a value.  Null is not bound; any other value gets the next name. -/
def bind (binder : Binder) (v : Value) : String × Binder :=
  if v.isNull then ("NULL", binder)
  else
    let number := binder.counter + 1
    (binder.naming.placeholder number,
      { binder with
        counter := number
        parameters := binder.parameters.insert (binder.naming.name number) v })

/-- Binds values in order. -/
def bindAll (binder : Binder) (values : List Value) : Binder :=
  values.foldl (fun binder v => (binder.bind v).2) binder

/-- Writes a template behind a text, with its values bound from left to right. -/
def fillBehind (binder : Binder) (written : String) : Template → String × Binder
  | [] => (written, binder)
  | .text s :: rest => binder.fillBehind (written ++ s) rest
  | .value v :: rest =>
      let (placeholder, binder) := binder.bind v
      binder.fillBehind (written ++ placeholder) rest

/-- The text of a template, with its values bound from left to right. -/
def fill (binder : Binder) (template : Template) : String × Binder :=
  binder.fillBehind "" template

end Binder

/-- The values in a template other than null, from left to right. -/
def Template.values : Template → List Value
  | [] => []
  | .text _ :: rest => Template.values rest
  | .value v :: rest => if v.isNull then Template.values rest else v :: Template.values rest

/-- Binding null changes nothing. -/
@[simp] theorem Binder.bind_null (binder : Binder) : binder.bind .null = ("NULL", binder) := rfl

namespace Binder

/-- What is written already stays in front, and the binder does not depend on it. -/
theorem fillBehind_eq (binder : Binder) (written : String) (template : Template) :
    binder.fillBehind written template =
      (written ++ (binder.fill template).1, (binder.fill template).2) := by
  unfold fill
  induction template generalizing binder written with
  | nil => simp [fillBehind]
  | cons piece rest ih =>
    cases piece with
    | text s =>
      simp only [fillBehind]
      rw [ih binder (written ++ s), ih binder ("" ++ s)]
      simp [String.append_assoc]
    | value v =>
      simp only [fillBehind]
      rw [ih (binder.bind v).2 (written ++ (binder.bind v).1),
        ih (binder.bind v).2 ("" ++ (binder.bind v).1)]
      simp [String.append_assoc]

@[simp] theorem fill_nil (binder : Binder) : binder.fill [] = ("", binder) := rfl

@[simp] theorem fill_text (binder : Binder) (s : String) (rest : Template) :
    binder.fill (.text s :: rest) = (s ++ (binder.fill rest).1, (binder.fill rest).2) := by
  rw [fill, fillBehind, fillBehind_eq]
  simp

@[simp] theorem fill_value (binder : Binder) (v : Value) (rest : Template) :
    binder.fill (.value v :: rest) =
      ((binder.bind v).1 ++ ((binder.bind v).2.fill rest).1, ((binder.bind v).2.fill rest).2) := by
  simp only [fill, fillBehind]
  rw [fillBehind_eq]
  simp [fill]

/-- Filling a template binds exactly its values, in order. -/
theorem snd_fill (binder : Binder) (template : Template) :
    (binder.fill template).2 = binder.bindAll template.values := by
  induction template generalizing binder with
  | nil => rfl
  | cons piece rest ih =>
    cases piece with
    | text s => simpa [Template.values] using ih binder
    | value v =>
      by_cases h : v.isNull = true
      · simp [Template.values, h, bind, ih]
      · simp [Template.values, h, ih, bindAll]

end Binder

end BoundSql
