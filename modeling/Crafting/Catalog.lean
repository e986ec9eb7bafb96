import Crafting.Inventory.Basic
import Crafting.Note.Scan
import Crafting.Registry.Basic
import Crafting.Text.Holds

/-!
# Catalogs

The recipes on offer: those in the notes of items, weapons and armor, in the order of their declaration, that mention
registered entities only and are visible. By default a recipe is visible while its requirement is owned.
-/

namespace Crafting

/-- Which recipes are shown. -/
inductive Visibility where
  /-- Those whose requirement, if any, is owned. -/
  | requirement
  | only (accepts : Recipe → Bool)

/-- Where nothing is owned, only what requires nothing is shown. -/
def Visibility.nothingOwned : Visibility :=
  .only fun recipe => recipe.requirement.isNone

/-- Whether a recipe is shown. -/
def Visibility.sees {σ : Type} [Inventory σ] : Visibility → Recipe → Act σ Bool
  | .requirement, recipe =>
      match recipe.requirement with
      | none => pure true
      | some ref => Inventory.has ref
  | .only accepts, recipe => pure (accepts recipe)

namespace Catalog

/-! ## Building -/

def logSource : String := "RecipeCatalog"

/-- The entities that a recipe mentions and the registry does not know. -/
def unresolved (registry : Registry) (recipe : Recipe) : List EntityRef :=
  recipe.entityRefs.filter fun ref => !registry.resolves ref

variable {σ : Type}

/-- The recipes in an entity's note. A note that is no text cannot be read, unless it is void. -/
def declared (mode : Note.Mode) (entity : Entity) : Act σ (List Recipe) :=
  if !entity.note.isTruthy then pure []
  else
    match entity.note.text? with
    | some note => Note.recipesIn mode note (some entity.ref)
    | none => .fail .wrongType

/-- The warning that a recipe is dropped. A torn name can be written in it, but then it cannot be printed. -/
def droppedText (entity : Entity) (unknown : List EntityRef) : Except Failure String := do
  let ref ← entity.ref.text
  let name ← entity.name.display
  let refs ← unknown.mapM EntityRef.text
  if entity.name.isTorn then .error .unencodable
  return "Dropping recipe on " ++ ref ++ " (" ++ name ++ "): unknown " ++ ", ".intercalate refs ++ "."

/-- Of an entity's recipes, those to be listed. -/
def listed (registry : Registry) (sees : Recipe → Act σ Bool) (entity : Entity) : List Recipe → Act σ (List Recipe)
  | [] => pure []
  | recipe :: rest =>
      match unresolved registry recipe with
      | [] => do
          let seen ← sees recipe
          let others ← listed registry sees entity rest
          return if seen then recipe :: others else others
      | unknown => do
          .report (Log.warning logSource) (droppedText entity unknown)
          listed registry sees entity rest

/-- The recipes of entities, in order. -/
def scan (registry : Registry) (sees : Recipe → Act σ Bool) (mode : Note.Mode) : List Entity → Act σ (List Recipe)
  | [] => pure []
  | entity :: rest => do
      let recipes ← listed registry sees entity (← declared mode entity)
      return recipes ++ (← scan registry sees mode rest)

/-- Builds the catalog of a registry. -/
def build (registry : Registry) (sees : Recipe → Act σ Bool) (mode : Note.Mode) : Act σ (List Recipe) :=
  scan registry sees mode registry.craftable

/-- Builds the catalog and reports its size. -/
def rebuild (registry : Registry) (sees : Recipe → Act σ Bool) (mode : Note.Mode) : Act σ (List Recipe) := do
  let recipes ← build registry sees mode
  .log (Log.debug logSource ("Catalog rebuilt with " ++ toString recipes.length ++ " recipe(s)."))
  return recipes

/-! ## Looking up -/

/-- The recipe at a place counted from zero. -/
def get? (recipes : List Recipe) (index : Option Int) : Option Recipe :=
  match index with
  | some index => if 0 ≤ index then recipes[index.toNat]? else none
  | none => none

/-- The recipe at a place counted from zero, or from the end if negative. -/
def at? (recipes : List Recipe) (index : Int) : Except Failure Recipe :=
  let place := if index < 0 then index + recipes.length else index
  (get? recipes (some place)).elim (.error .outOfRange) .ok

/-- The place of the first recipe that equals the given one up to its source. -/
def indexOf? (recipes : List Recipe) (recipe : Recipe) : Option Nat :=
  recipes.findIdx? fun other => other.same recipe

/-- The place, from `index` on, of the first recipe whose result has the needle in its name. Half a character is in no
needle, and the letters on its two sides are lowered apart. -/
def findFrom (registry : Registry) (needle : List Char) (index : Nat) : List Recipe → Except Failure (Option Nat)
  | [] => .ok none
  | recipe :: rest =>
      match (registry.nameOf recipe.result).parts? with
      | some parts =>
          if parts.any fun part => Text.holds needle part.lowered.toList then .ok (some index)
          else findFrom registry needle (index + 1) rest
      | none => .error .missingField

/-- The place of the first recipe whose result's name holds the text, in any letter case. A blank text is in no name. -/
def find? (registry : Registry) (recipes : List Recipe) (text : String) : Except Failure (Option Nat) :=
  let needle := text.trimBlanks.lowered
  if needle.isEmpty then .ok none else findFrom registry needle.toList 0 recipes

end Catalog

end Crafting
