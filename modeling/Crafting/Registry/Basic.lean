import Crafting.Entity

/-!
# Registries

The entities of a game, one table for each kind. A table keeps the order in which its entities were first declared, and
a later declaration of an entity takes the place of the earlier one.
-/

namespace Crafting

structure Registry where
  items : List Entity := []
  weapons : List Entity := []
  armor : List Entity := []
  states : List Entity := []

/-- What stands in for the name of an entity that is not registered. -/
def unknownName : String := "Unknown Item"

namespace Registry

def table (registry : Registry) : Kind → List Entity
  | .item => registry.items
  | .weapon => registry.weapons
  | .armor => registry.armor
  | .state => registry.states

def setTable (registry : Registry) (kind : Kind) (entities : List Entity) : Registry :=
  match kind with
  | .item => { registry with items := entities }
  | .weapon => { registry with weapons := entities }
  | .armor => { registry with armor := entities }
  | .state => { registry with states := entities }

@[simp] theorem table_setTable_self (registry : Registry) (kind : Kind) (entities : List Entity) :
    (registry.setTable kind entities).table kind = entities := by
  cases kind <;> rfl

theorem table_setTable_of_ne (registry : Registry) {kind other : Kind} (entities : List Entity) (h : other ≠ kind) :
    (registry.setTable kind entities).table other = registry.table other := by
  cases kind <;> cases other <;> first | rfl | exact absurd rfl h

/-! ## Looking up -/

/-- The entity of that kind and number. -/
def lookup (registry : Registry) (kind : Kind) (id : Int) : Option Entity :=
  (registry.table kind).find? fun entity => entity.ref.id == id

def get? (registry : Registry) (ref : EntityRef) : Option Entity :=
  registry.lookup ref.kind ref.id

def resolves (registry : Registry) (ref : EntityRef) : Bool :=
  (registry.get? ref).isSome

def nameOf (registry : Registry) (ref : EntityRef) : Json :=
  match registry.get? ref with
  | some entity => entity.name
  | none => .string unknownName

/-- The entities whose notes may hold recipes: items, weapons, then armor. -/
def craftable (registry : Registry) : List Entity :=
  Kind.craftable.flatMap registry.table

def size (registry : Registry) : Nat :=
  Kind.all.foldl (fun size kind => size + (registry.table kind).length) 0

/-! ## Registering -/

/-- The table with one more entity, in the place of the one with its number if there is one. -/
def place (entity : Entity) : List Entity → List Entity
  | [] => [entity]
  | other :: rest => if other.ref.id = entity.ref.id then entity :: rest else other :: place entity rest

def register (registry : Registry) (entity : Entity) : Registry :=
  registry.setTable entity.kind (place entity (registry.table entity.kind))

/-- The registry with another note for an entity. -/
def setNote (registry : Registry) (ref : EntityRef) (note : Json) : Registry :=
  registry.setTable ref.kind ((registry.table ref.kind).map fun entity =>
    if entity.ref = ref then { entity with note } else entity)

end Registry

end Crafting
