import Crafting.Catalog
import Crafting.EventBus
import Crafting.Exchange
import Crafting.Verdict

/-!
# Workshops

One inventory, the recipes on offer to it, and the bus on which its crafts are announced. A craft judges the recipe,
exchanges, announces how it went, and rebuilds the catalog after a success.
-/

namespace Crafting

/-- How a craft went. -/
structure Outcome where
  success : Bool
  message : String
  recipe : Option Recipe
  deriving DecidableEq

/-! ## Announcements -/

/-- What a workshop and its menu announce. -/
inductive Notice where
  | refreshed (recipes : List Recipe)
  | selected (recipe : Option Recipe)
  | succeeded (outcome : Outcome)
  | blocked (outcome : Outcome)
  | cue (sound : String)
  deriving DecidableEq

namespace Topic

def catalogRefreshed : String := "catalog_refreshed"
def recipeSelected : String := "recipe_selected"
def craftSucceeded : String := "craft_succeeded"
def craftBlocked : String := "craft_blocked"
def soundCue : String := "sound_cue"

end Topic

def Notice.topic : Notice → String
  | refreshed _ => Topic.catalogRefreshed
  | selected _ => Topic.recipeSelected
  | succeeded _ => Topic.craftSucceeded
  | blocked _ => Topic.craftBlocked
  | cue _ => Topic.soundCue

/-- The notice of how a craft went. -/
def Outcome.notice (outcome : Outcome) : Notice :=
  if outcome.success then .succeeded outcome else .blocked outcome

/-- The sound that goes with it. -/
def Outcome.sound (outcome : Outcome) : String :=
  if outcome.success then "shop" else "buzzer"

/-- The message of a success. -/
def craftedMessage : String := "Crafted successfully!"

/-! ## Workshops -/

structure Workshop (σ ι ω : Type) where
  registry : Registry
  inventory : σ
  bus : EventBus ι Notice ω
  currencyName : String := "gold"
  visibility : Visibility := .requirement
  mode : Note.Mode := .every
  /-- The recipes on offer. -/
  recipes : List Recipe := []

namespace Workshop

variable {σ ι ω α : Type}

def logSource : String := "CraftingManager"

/-- Works on the inventory. -/
def onInventory (act : Act σ α) : Act (Workshop σ ι ω) α :=
  .zoom (·.inventory) (fun inventory w => { w with inventory }) act

/-- Works on the bus. -/
def onBus (act : Act (EventBus ι Notice ω) α) : Act (Workshop σ ι ω) α :=
  .zoom (·.bus) (fun bus w => { w with bus }) act

/-- The name of an entity as it is shown. -/
def nameOf (w : Workshop σ ι ω) (ref : EntityRef) : Except Failure String :=
  shownName (some w.registry) ref

/-- A verdict in words. -/
def reason (w : Workshop σ ι ω) (verdict : Verdict) : String :=
  verdict.reason w.currencyName

/-- The currency at hand under its name. -/
def purseText [Inventory σ] : Act (Workshop σ ι ω) String := do
  let w ← Act.get
  let amount ← onInventory Inventory.currency
  return w.currencyName.titled ++ ": " ++ (← .ofExcept (writeInt amount))

section

variable [DecidableEq ι] [Audience ι Notice ω]

def announce (notice : Notice) : Act (Workshop σ ι ω) Unit :=
  onBus (EventBus.publish notice.topic notice)

variable [Inventory σ]

/-- Rebuilds the catalog from scratch and announces it. -/
def refresh : Act (Workshop σ ι ω) (List Recipe) := do
  let w ← Act.get
  let recipes ← onInventory (Catalog.rebuild w.registry w.visibility.sees w.mode)
  .modify fun w => { w with recipes }
  announce (.refreshed recipes)
  return recipes

def judge (recipe : Option Recipe) : Act (Workshop σ ι ω) Verdict := do
  let w ← Act.get
  onInventory (Verdict.judge (some w.registry) recipe)

/-- The report on how a craft went. -/
def outcomeText (w : Workshop σ ι ω) (outcome : Outcome) : Except Failure String :=
  if outcome.success then do
    let recipe ← outcome.recipe.elim (.error .missingField) .ok
    return "Crafted " ++ (← w.nameOf recipe.result) ++ "."
  else .ok ("Craft blocked: " ++ outcome.message)

/-- Announces how a craft went. -/
def announceOutcome (outcome : Outcome) : Act (Workshop σ ι ω) Unit := do
  let w ← Act.get
  .report (Log.debug logSource) (w.outcomeText outcome)
  announce outcome.notice
  announce (.cue outcome.sound)

/-- Judges the recipe and, if it is ready, exchanges. -/
def attemptCraft (recipe : Option Recipe) : Act (Workshop σ ι ω) Outcome := do
  let verdict ← judge recipe
  if !verdict.isReady then return ⟨false, (← Act.get).reason verdict, recipe⟩
  if (← onInventory (Exchange.run recipe)) = .applied then return ⟨true, craftedMessage, recipe⟩
  return ⟨false, cannotCraft, recipe⟩

/-- Crafts a recipe. -/
def craft (recipe : Option Recipe) : Act (Workshop σ ι ω) Outcome := do
  let outcome ← attemptCraft recipe
  announceOutcome outcome
  if outcome.success then
    let _ ← refresh
  return outcome

end

end Workshop

end Crafting
