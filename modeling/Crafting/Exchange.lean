import Crafting.Inventory.Basic
import Crafting.Recipe

/-!
# Exchanges

Crafting as an exchange: the materials are consumed, the result is added, the cost is spent. Each step can be undone, and
if one fails, those before it are undone, the last one first. A failing undo is logged and does not stop the others.
-/

namespace Crafting.Exchange

/-! ## Steps -/

inductive Step where
  | consume (ref : EntityRef) (quantity : Nat)
  | add (ref : EntityRef) (quantity : Nat)
  | spend (amount : Nat)
  | gain (amount : Nat)
  deriving DecidableEq

/-- The step that takes a step back. -/
def Step.undo : Step → Step
  | consume ref quantity => add ref quantity
  | add ref quantity => consume ref quantity
  | spend amount => gain amount
  | gain amount => spend amount

/-- The steps of a recipe, in order. -/
def stepsOf (recipe : Recipe) : List Step :=
  recipe.materials.map (fun m => .consume m.ref m.quantity) ++ [.add recipe.result 1] ++
    (if recipe.cost = 0 then [] else [.spend recipe.cost])

@[simp] theorem Step.undo_undo (step : Step) : step.undo.undo = step := by
  cases step <;> rfl

variable {σ : Type} [Inventory σ]

def Step.run : Step → Act σ Unit
  | consume ref quantity => Inventory.consume ref quantity
  | add ref quantity => Inventory.add ref quantity
  | spend amount => Inventory.spend amount
  | gain amount => Inventory.gain amount

/-! ## Runs of steps -/

/-- How an exchange ended. -/
inductive Ending where
  /-- Nothing was tried: the recipe is void. -/
  | invalid
  /-- Nothing was tried: too little is left. -/
  | unavailable
  | applied
  /-- A step failed. These steps before it could not be undone. -/
  | rolledBack (standing : List Step)
  deriving DecidableEq

def logSource : String := "CraftExecutor"

/-- Applies steps, up to one that fails: then answers the failure and the steps applied, last first. -/
def applyFrom (done : List Step) : List Step → Act σ (Option (Failure × List Step))
  | [] => pure none
  | step :: rest => do
      match ← Act.attempt step.run with
      | .ok () => applyFrom (step :: done) rest
      | .error failure => return some (failure, done)

/-- The report that a step could not be undone, if it can be told why. -/
def undoFailedText (failure : Failure) : Except Failure String :=
  failure.toldAfter (.ok "Rollback step failed, inventory may be inconsistent: ")

/-- Undoes steps in the order given; answers those that could not be undone. -/
def rollBack : List Step → Act σ (List Step)
  | [] => pure []
  | step :: rest => do
      match ← Act.attempt step.undo.run with
      | .ok () => rollBack rest
      | .error failure =>
          .report (Log.critical logSource) (undoFailedText failure)
          return step :: (← rollBack rest)

/-- Whether there is enough of everything. -/
def allHeld : List (EntityRef × Nat) → Act σ Bool
  | [] => pure true
  | (ref, quantity) :: rest => do
      if (← Inventory.quantityOf ref) < quantity then return false
      allHeld rest

/-- Whether everything is available, materials that name one entity taken together. -/
def isAvailable (recipe : Recipe) : Act σ Bool := do
  if !(← allHeld recipe.totals) then return false
  if recipe.cost = 0 then return true
  return decide ((recipe.cost : Int) ≤ (← Inventory.currency))

/-! ## Reports -/

def unavailableText (recipe : Recipe) : Except Failure String := do
  return "Resources for " ++ (← recipe.result.text) ++ " changed before crafting; nothing applied."

def appliedText (recipe : Recipe) : Except Failure String := do
  let result ← recipe.result.text
  return "Crafted " ++ result ++ " (cost " ++ (← writeNumber recipe.cost) ++ ")."

def failedText (recipe : Recipe) (failure : Failure) : Except Failure String :=
  failure.toldAfter (do return "Crafting " ++ (← recipe.result.text) ++ " failed part way, rolling back: ")

/-! ## Exchanges -/

/-- Crafts a recipe: every step is applied, or those applied are undone. A failure while looking is let through, and so
is one that cannot be reported: what was done until then stays done. -/
def run (recipe : Option Recipe) : Act σ Ending := do
  let some recipe := recipe | invalid
  if recipe.materials.isEmpty then invalid
  else if !(← isAvailable recipe) then
    .report (Log.warning logSource) (unavailableText recipe)
    return .unavailable
  else
    match ← applyFrom [] (stepsOf recipe) with
    | none =>
        .report (Log.info logSource) (appliedText recipe)
        return .applied
    | some (failure, done) =>
        .report (Log.error logSource) (failedText recipe failure)
        return .rolledBack (← rollBack done)
where
  invalid : Act σ Ending := do
    .log (Log.error logSource "Invalid recipe or missing materials.")
    return .invalid

end Crafting.Exchange
