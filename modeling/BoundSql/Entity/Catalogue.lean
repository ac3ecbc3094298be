import BoundSql.Entity.Reflection
import BoundSql.Keyed

namespace BoundSql

/-!
# Entity — catalogues

A catalogue describes entities by their keys: the table that each one supplies, and the
calls that it makes when it is reflected for the first time.  Later reflections make no
calls.

The calls of an entity are laid out beforehand, in the order in which they will be made, and
with the knowledge of what has happened up to each one: a call that finds its entity
registered reflects nothing, and an entity that has been reflected makes no calls again.  So
each entity makes its calls at most once, and what is laid out is no longer than the
catalogue, however densely its entities refer to each other.

* `Catalogue.Progress` — what has happened up to a call.
* `Catalogue.entity` — the entity under a key, with its calls laid out.
-/

/-- A call in a catalogue, with entities by their keys. -/
inductive PlannedCall where
  | insertNew (key : EntityName) (table : Table)
  | resolve (key : EntityName)
  deriving Inhabited

/-- What a catalogue says about an entity. -/
structure Description where
  table : Table
  /-- The calls of its first reflection. -/
  during : List PlannedCall
  deriving Inhabited

/-- Descriptions of entities by their keys. -/
abbrev Catalogue := List (EntityName × Description)

namespace Catalogue

/-- The description of an entity; one that is not described has an empty table. -/
def describe (catalogue : Catalogue) (key : EntityName) : Description :=
  (Keyed.find? key catalogue).getD default

/-- What has happened up to a call on a registry. -/
structure Progress where
  /-- The entities that have been reflected, be it for this registry or for another one. -/
  reflected : List EntityName
  /-- The entities whose tables are in this registry. -/
  registered : List EntityName

namespace Progress

/-- A reflection begins. -/
def reflect (progress : Progress) (key : EntityName) : Progress :=
  { progress with reflected := key :: progress.reflected }

/-- A key is registered, if it was not. -/
def register (progress : Progress) (key : EntityName) : Progress :=
  { progress with registered := key :: progress.registered }

end Progress

/-- Calls in order, with entities laid out by `layOut`, and the progress after them. -/
def layOutCalls (layOut : Progress → EntityName → Entity × Progress) :
    Progress → List PlannedCall → List Call × Progress
  | progress, [] => ([], progress)
  | progress, .insertNew key table :: rest =>
      let (calls, progress) := layOutCalls layOut (progress.register key) rest
      (.insertNew key table :: calls, progress)
  | progress, .resolve key :: rest =>
      let (e, progress) := layOut progress key
      let (calls, progress) := layOutCalls layOut progress rest
      (e.resolution :: calls, progress)

/-- The entity under a key, with calls nested at most `depth` times, and the progress after
    it was resolved. -/
def layOut (catalogue : Catalogue) :
    (depth : Nat) → Progress → EntityName → Entity × Progress
  | 0, progress, key =>
      (.plain key (catalogue.describe key).table, progress.register key)
  | depth + 1, progress, key =>
      let description := catalogue.describe key
      -- A registered entity is not reflected, and one that was reflected before makes no calls.
      if progress.registered.contains key then (.plain key description.table, progress)
      else if progress.reflected.contains key then
        (.plain key description.table, progress.register key)
      else
        let (calls, progress) :=
          layOutCalls (catalogue.layOut depth) (progress.reflect key) description.during
        (⟨key, calls, description.table⟩, progress.register key)

/-- The entity under a key, as it is to be resolved after some progress.  Around a call there
    are only different entities that have a description, so that calls nest at most once for
    each of them. -/
def entity (catalogue : Catalogue) (progress : Progress) (key : EntityName) : Entity :=
  (catalogue.layOut (catalogue.length + 1) progress key).1

end Catalogue

end BoundSql
