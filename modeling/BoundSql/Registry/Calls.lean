import BoundSql.Entity.Reflection
import BoundSql.Registry

namespace BoundSql

/-!
# Registry — calls and reflection

Resolving an entity looks it up, reflects it where it is absent, and looks again before its
table is registered: while it was reflected, the entity may have been registered already,
and the first registration stands.

* `Registry.resolve` — the table of an entity, registered if need be.
* `Registry.perform`, `Registry.performAll` — the registry after calls.
* `Registry.reflected` — the entities that a call reflects.
-/

namespace Registry

mutual

/-- The registry after a call. -/
def perform (registry : Registry) : Call → Registry
  | .insertNew key table => (registry.insertNew key table).1
  | .resolve key during table =>
      match registry.lookup key with
      | some _ => registry
      -- Registering looks again: one of the calls may have been about this very key.
      | none => ((registry.performAll during).register key table).1

/-- The registry after calls in order. -/
def performAll (registry : Registry) : List Call → Registry
  | [] => registry
  | call :: rest => (registry.perform call).performAll rest

end

/-- The table of an entity, and the registry in which it is registered. -/
def resolve (registry : Registry) (e : Entity) : Registry × Table :=
  match registry.lookup e.key with
  | some hit => (registry, hit)
  | none => (registry.performAll e.during).register e.key e.table

/-- Resolving an entity is the call that does so. -/
theorem perform_resolution (registry : Registry) (e : Entity) :
    registry.perform e.resolution = (registry.resolve e).1 := by
  unfold Entity.resolution resolve
  rw [perform]
  split <;> rfl

mutual

/-- The entities that a call reflects, with repetitions. -/
def reflected (registry : Registry) : Call → List EntityName
  | .insertNew _ _ => []
  | .resolve key during _ =>
      match registry.lookup key with
      | some _ => []
      | none => key :: registry.reflectedAll during

/-- The entities that calls in order reflect, with repetitions. -/
def reflectedAll (registry : Registry) : List Call → List EntityName
  | [] => []
  | call :: rest => registry.reflected call ++ (registry.perform call).reflectedAll rest

end

end Registry

end BoundSql
