import Crafting.Inventory.Basic
import Crafting.Recipe
import Crafting.Registry.Basic

/-!
# Verdicts

Whether a recipe can be crafted now. The checks come in a fixed order (the recipe itself, each material as declared, the
requirement, the currency), and the first one that fails gives the reason. A call that fails ends the checks too, as does
a name that cannot be shown.
-/

namespace Crafting

inductive Verdict where
  | ready
  | invalid
  /-- Of the material of that name too few are held. -/
  | notEnough (name : String)
  /-- The requirement of that name is not owned. -/
  | requires (name : String)
  | notEnoughCurrency
  /-- A call of the inventory failed, or a name could not be shown. -/
  | undecided
  deriving DecidableEq

/-- The reason given where no check names one. -/
def cannotCraft : String := "Cannot craft this item."

/-- The name of an entity as it is shown. -/
def shownName (registry : Option Registry) (ref : EntityRef) : Except Failure String :=
  match registry with
  | some registry => (registry.nameOf ref).display
  | none => .ok unknownName

namespace Verdict

def isReady (verdict : Verdict) : Bool :=
  verdict == ready

/-- The verdict in words. -/
def reason (currencyName : String) : Verdict → String
  | ready => "Ready to craft."
  | invalid => "Invalid recipe."
  | notEnough name => "Not enough " ++ name ++ "."
  | requires name => "Requires " ++ name ++ "."
  | notEnoughCurrency => "Not enough " ++ currencyName ++ "."
  | undecided => cannotCraft

/-! ## The checks -/

variable {σ : Type} [Inventory σ]

/-- The first material of which too few are held. -/
def shortage : List Material → Act σ (Option EntityRef)
  | [] => pure none
  | material :: rest => do
      if (← Inventory.quantityOf material.ref) < material.quantity then return some material.ref
      shortage rest

/-- The requirement, if it is not owned. -/
def lacking : Option EntityRef → Act σ (Option EntityRef)
  | none => pure none
  | some ref => do
      if ← Inventory.has ref then return none
      return some ref

/-- Whether there is enough currency. What costs nothing asks for none. -/
def affords (recipe : Recipe) : Act σ Bool := do
  if recipe.cost = 0 then return true
  return decide ((recipe.cost : Int) ≤ (← Inventory.currency))

/-- The checks in their order. -/
def check (registry : Option Registry) (recipe : Option Recipe) : Act σ Verdict := do
  let some recipe := recipe | return invalid
  if recipe.materials.isEmpty then return invalid
  if let some ref ← shortage recipe.materials then return notEnough (← .ofExcept (shownName registry ref))
  if let some ref ← lacking recipe.requirement then return requires (← .ofExcept (shownName registry ref))
  if !(← affords recipe) then return notEnoughCurrency
  return ready

def logSource : String := "CraftEvaluator"

/-- What a recipe is called in a report. -/
def subject : Option Recipe → Except Failure String
  | some recipe => recipe.result.text
  | none => .ok "None"

/-- The report on a check that failed, if it can be told. -/
def failedText (recipe : Option Recipe) (failure : Failure) : Except Failure String :=
  failure.toldAfter (do return "Inventory check failed for " ++ (← subject recipe) ++ ": ")

/-- Judges a recipe. A failing check decides too, if it can be reported. -/
def judge (registry : Option Registry) (recipe : Option Recipe) : Act σ Verdict := do
  match ← Act.attempt (check registry recipe) with
  | .ok verdict => return verdict
  | .error failure =>
      .report (Log.error logSource) (failedText recipe failure)
      return undecided

end Verdict

end Crafting
