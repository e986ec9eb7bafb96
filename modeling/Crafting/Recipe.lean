import Crafting.Assoc
import Crafting.Failure

/-!
# Recipes

A recipe consumes materials and currency and yields one result. A requirement must be owned and is not consumed. The
source, the entity whose note declares the recipe, plays no part in comparing recipes.
-/

namespace Crafting

structure Material where
  ref : EntityRef
  quantity : Nat
  quantity_pos : 0 < quantity

theorem Material.eq_iff {a b : Material} : (a.ref = b.ref ∧ a.quantity = b.quantity) ↔ a = b := by
  obtain ⟨ref, quantity, _⟩ := a
  obtain ⟨other, number, _⟩ := b
  rw [Material.mk.injEq]

instance : DecidableEq Material :=
  fun _ _ => decidable_of_decidable_of_iff Material.eq_iff

def Material.make (ref : EntityRef) (quantity : Int) : Except Failure Material :=
  if h : 1 ≤ quantity then .ok ⟨ref, quantity.toNat, toNat_pos h⟩ else .error (.materialQuantity quantity)

/-- How much of one entity materials need in all. -/
def neededOf (materials : List Material) (ref : EntityRef) : Nat :=
  match materials with
  | [] => 0
  | material :: rest => (if material.ref = ref then material.quantity else 0) + neededOf rest ref

structure Recipe where
  result : EntityRef
  materials : List Material
  description : String := ""
  requirement : Option EntityRef := none
  cost : Nat := 0
  source : Option EntityRef := none
  deriving DecidableEq

namespace Recipe

/-- A recipe with at least one material and a cost that is not negative. -/
def make (result : EntityRef) (materials : List Material) (description : String) (requirement : Option EntityRef)
    (cost : Int) (source : Option EntityRef) : Except Failure Recipe :=
  if materials.isEmpty then .error .noMaterials
  else if cost < 0 then .error (.negativeCost cost)
  else .ok { result, materials, description, requirement, cost := cost.toNat, source }

/-- A result without materials: nothing that can be crafted. -/
def hollow (result : EntityRef) : Recipe :=
  { result, materials := [] }

/-- Equality up to the source. -/
def same (a b : Recipe) : Bool :=
  { a with source := none } == { b with source := none }

/-- Every entity that the recipe mentions: the result, the materials, then the requirement. -/
def entityRefs (recipe : Recipe) : List EntityRef :=
  recipe.result :: recipe.materials.map (·.ref) ++ recipe.requirement.toList

/-- How much of one entity the recipe needs in all. -/
def need (recipe : Recipe) (ref : EntityRef) : Nat :=
  neededOf recipe.materials ref

end Recipe

/-- The totals with one more quantity; a new entity goes to the end. -/
def addTotal (totals : List (EntityRef × Nat)) (ref : EntityRef) (quantity : Nat) : List (EntityRef × Nat) :=
  Assoc.put ref ((Assoc.get? ref totals).getD 0 + quantity) totals

/-- What the materials need of each entity, in order of first mention. -/
def Recipe.totals (recipe : Recipe) : List (EntityRef × Nat) :=
  recipe.materials.foldl (fun totals m => addTotal totals m.ref m.quantity) []

end Crafting
