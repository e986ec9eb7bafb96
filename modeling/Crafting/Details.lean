import Crafting.Recipe
import Crafting.Registry.Basic

/-!
# Details of a recipe

The lines that describe a recipe: its description, the combat stats of gear, the cost, the materials and the
requirement.
-/

namespace Crafting.Details

/-- The stats as they are laid out, three on a line. -/
def statRows : List (List Stat) :=
  [[.attack, .defense, .agility], [.magicAttack, .magicDefense, .luck]]

def statText (entity : Entity) (stat : Stat) : Except Failure String := do
  return stat.label ++ ": " ++ (← (entity.stat stat).display)

def statLines (entity : Entity) : Except Failure (List String) :=
  if entity.hasStats then statRows.mapM fun row => do return "   ".intercalate (← row.mapM (statText entity))
  else .ok []

def materialLines (registry : Registry) (number : Nat) : List Material → Except Failure (List String)
  | [] => .ok []
  | material :: rest => do
      let name ← (registry.nameOf material.ref).display
      let quantity ← writeNumber material.quantity
      let others ← materialLines registry (number + 1) rest
      return ("  Material " ++ toString number ++ ": " ++ name ++ " x" ++ quantity) :: others

def costLines (currencyName : String) (cost : Nat) : Except Failure (List String) :=
  if cost = 0 then .ok [] else do return ["Cost: " ++ (← writeNumber cost) ++ " " ++ currencyName]

def requirementLines (registry : Registry) : Option EntityRef → Except Failure (List String)
  | none => .ok []
  | some ref => do return ["Requires: " ++ (← (registry.nameOf ref).display)]

/-- The lines of a recipe, none if there is no recipe. -/
def lines (registry : Registry) (currencyName : String) : Option Recipe → Except Failure (List String)
  | none => .ok []
  | some recipe => do
      let stats ← ((registry.get? recipe.result).map statLines).getD (.ok [])
      let cost ← costLines currencyName recipe.cost
      let materials ← materialLines registry 1 recipe.materials
      let requirement ← requirementLines registry recipe.requirement
      return ["Description:", recipe.description] ++ stats ++ cost ++ ["Materials:"] ++ materials ++ requirement

end Crafting.Details
