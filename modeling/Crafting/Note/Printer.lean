import Crafting.Recipe

/-!
# Writing recipes

The block of a recipe in the layout in which blocks are read: one field a line, and no line for what is absent. A number
of more digits than a numeral may have cannot be written.
-/

namespace Crafting.Note

/-- The lines of the materials, numbered from `number` on. -/
def materialLines (number : Nat) : List Material → Except Failure (List String)
  | [] => .ok []
  | material :: rest => do
      let ref ← material.ref.text
      let quantity ← writeNumber material.quantity
      let lines ← materialLines (number + 1) rest
      return ("Material" ++ toString number ++ ": " ++ ref ++ ", " ++ quantity) :: lines

/-- The line of the requirement, if there is one. -/
def requirementLines : Option EntityRef → Except Failure (List String)
  | none => .ok []
  | some ref => do return ["Requirement: " ++ (← ref.text)]

/-- The line of the cost, if there is any. -/
def costLines (cost : Nat) : Except Failure (List String) :=
  if cost = 0 then .ok [] else do return ["Cost: " ++ (← writeNumber cost)]

/-- The lines of a recipe's block. -/
def blockLines (recipe : Recipe) : Except Failure (List String) := do
  let result ← recipe.result.text
  let materials ← materialLines 1 recipe.materials
  let requirement ← requirementLines recipe.requirement
  let cost ← costLines recipe.cost
  return ["<recipe>", "Result: " ++ result] ++ materials ++
    (if recipe.description.isEmpty then [] else ["Description: " ++ recipe.description]) ++ requirement ++ cost ++
    ["</recipe>"]

/-- The block of a recipe. -/
def render (recipe : Recipe) : Except Failure String := do
  return "\n".intercalate (← blockLines recipe)

end Crafting.Note
