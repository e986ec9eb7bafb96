import Crafting.Console.Help
import Crafting.Details
import Crafting.Workshop

/-!
# The console of a workshop

The commands that list, describe and craft recipes, check the notes and give help. A recipe is named by its number in the
list or by a piece of its result's name.
-/

namespace Crafting.Console

open FormatCode

/-! ## The commands -/

/-- What a command does; `extra` is for commands of others. -/
inductive Deed (α : Type) where
  | recipes
  | recipe
  | craft
  | checkNotes
  | help
  | extra (deed : α)

/-- The commands that every workshop has. -/
def builtIn {α : Type} : Table (Deed α) :=
  let commands : List (Command (Deed α)) := [
    { name := "recipes", aliases := ["craftlist"], category := "crafting", deed := .recipes
      help := "List the recipes you can see.\nUsage: recipes" },
    { name := "recipe", aliases := ["inspect"], category := "crafting", deed := .recipe
      help := "Show the details of one recipe.\nUsage: recipe <number|name>" },
    { name := "craft", aliases := ["make"], category := "crafting", deed := .craft
      help := "Craft an item.\nUsage: craft <number|name>" },
    { name := "checknotes", aliases := ["lint"], category := "crafting", deed := .checkNotes
      help := "Report recipe annotations that fail to parse.\nUsage: checknotes" },
    { name := "help", aliases := ["?"], category := "system", deed := .help
      help := "Show available commands.\nUsage: help [command]" }]
  commands.foldl (fun table command => table.register command) { groups := [("crafting", []), ("system", [])] }

/-! ## Naming a recipe -/

/-- Whether a text is a number: digits only, decimal or not. -/
def isNumber (text : String) : Bool :=
  !text.isEmpty && text.toList.all Text.isDigit

/-- The place of the recipe that a text names: a number counts from one, any other text is searched in the names. -/
def resolve {σ ι ω : Type} (w : Workshop σ ι ω) (text : String) : Except Failure (Option Int) :=
  if isNumber text then do
    let index := (← (Text.Numeral.read text.toList).mapError .ofNumeral) - 1
    return if 0 ≤ index && index < w.recipes.length then some index else none
  else do
    return (← Catalog.find? w.registry w.recipes text).map fun index => (index : Int)

/-! ## What they answer -/

variable {σ ι ω : Type} [Inventory σ] [DecidableEq ι] [Audience ι Notice ω]

/-- A number at the right of at least three columns. -/
def padNumber (n : Nat) : String :=
  let text := toString n
  String.ofList (List.replicate (3 - text.length) ' ') ++ text

/-- The lines of the listed recipes, numbered from `number` on, each judged. -/
def recipeLines (number : Nat) : List Recipe → Act (Workshop σ ι ω) (List String)
  | [] => pure []
  | recipe :: rest => do
      let verdict ← Workshop.judge (some recipe)
      let w ← Act.get
      let mark := if verdict.isReady then paint .green "[Ready]" else paint .red "[Locked]"
      let line := padNumber number ++ ". " ++ mark ++ " " ++ paint .green (← .ofExcept (w.nameOf recipe.result))
      let line := if verdict.isReady then line else line ++ " (" ++ w.reason verdict ++ ")"
      return line :: (← recipeLines (number + 1) rest)

/-- Rebuilds the catalog and lists it. -/
def listRecipes : Act (Workshop σ ι ω) String := do
  let recipes ← Workshop.refresh
  let head := [paint .yellow "CRAFTING", ← Workshop.purseText, String.ofList (List.replicate 20 '-')]
  if recipes.isEmpty then return "\n".intercalate (head ++ ["No recipes available."])
  let lines ← recipeLines 1 recipes
  return "\n".intercalate
    (head ++ lines ++ ["(Type 'recipe <number>' for details, 'craft <number>' to craft)"])

/-- The recipe that arguments name. -/
def namedRecipe (args : List String) : Act (Workshop σ ι ω) (Option Recipe) := do
  let w ← Act.get
  let index ← .ofExcept (resolve w (" ".intercalate args))
  return Catalog.get? w.recipes index

def unknownRecipe (args : List String) : String :=
  paint .red ("Unknown recipe '" ++ " ".intercalate args ++ "'.")

/-- Describes a recipe and says whether it can be crafted. -/
def showRecipe (args : List String) : Act (Workshop σ ι ω) String := do
  if args.isEmpty then return paint .red "Which recipe? Usage: recipe <number|name>"
  let some recipe ← namedRecipe args | return unknownRecipe args
  let w ← Act.get
  let name ← .ofExcept (w.nameOf recipe.result)
  let details ← .ofExcept (Details.lines w.registry w.currencyName (some recipe))
  let verdict ← Workshop.judge (some recipe)
  let color := if verdict.isReady then Code.green else .red
  return "\n".intercalate ([paint .yellow name] ++ details ++ [paint color (w.reason verdict)])

/-- Crafts a recipe. -/
def craftRecipe (args : List String) : Act (Workshop σ ι ω) String := do
  if args.isEmpty then
    return paint .red "Craft what? Usage: craft <number|name> (Use 'recipes' to see list)"
  let some recipe ← namedRecipe args | return unknownRecipe args
  let outcome ← Workshop.craft (some recipe)
  if outcome.success then
    let w ← Act.get
    return paint .green outcome.message ++ " You made " ++ paint .green (← .ofExcept (w.nameOf recipe.result)) ++ "."
  return paint .red outcome.message

/-- A problem under the entity in whose note it is. -/
def problemLine (entity : Entity) (problem : String) : Except Failure String := do
  let ref ← entity.ref.text
  return paint .cyan (ref ++ " (" ++ (← entity.name.display) ++ ")") ++ ": " ++ problem

/-- What an entity's author has to mend. -/
def noteProblems (entity : Entity) : Except Failure (List String) :=
  if !entity.note.isTruthy then .ok []
  else
    match entity.note.text? with
    | some note => do (← Note.problems note).mapM (problemLine entity)
    | none => .error .wrongType

/-- Reports the recipe blocks that cannot be read. -/
def checkNotes : Act (Workshop σ ι ω) String := do
  let w ← Act.get
  let problems ← .ofExcept (w.registry.craftable.mapM noteProblems)
  let problems := problems.flatten
  let last := if problems.isEmpty then paint .green "All recipe notes parse."
    else paint .red (toString problems.length ++ " problem(s) found.")
  return "\n".intercalate ([paint .yellow "RECIPE NOTES"] ++ problems ++ [last])

/-! ## Lines -/

/-- What a line came to: the answer, and the name of the command that gave it. -/
structure Reply where
  text : String
  command : Option String := none
  deriving DecidableEq

/-- Does what a command does. -/
def perform {α : Type} (table : Table (Deed α)) (extra : α → List String → Act (Workshop σ ι ω) String)
    (args : List String) : Deed α → Act (Workshop σ ι ω) String
  | .recipes => listRecipes
  | .recipe => showRecipe args
  | .craft => craftRecipe args
  | .checkNotes => checkNotes
  | .help => pure (table.help args.head?)
  | .extra deed => extra deed args

/-- Answers words by `act`, or by an error that names the first one. -/
def answerWords {α τ : Type} (table : Table α) (words : List String) (act : α → List String → Act τ String) :
    Act τ Reply :=
  match table.dispatch words, words with
  | some (command, args), _ => do return { text := ← act command.deed args, command := some command.name }
  | none, word :: _ => pure { text := paint .red ("Unknown command: " ++ word) }
  | none, [] => pure { text := "" }

/-- Answers a line. -/
def answer {α : Type} (table : Table (Deed α)) (extra : α → List String → Act (Workshop σ ι ω) String)
    (line : String) : Act (Workshop σ ι ω) Reply :=
  answerWords table line.blankWords fun deed args => perform table extra args deed

/-- Answers a line where there is no workshop: the commands that need one fail. -/
def answerAlone {α : Type} (table : Table (Deed α)) (extra : α → List String → String) (line : String) :
    Except Failure Reply :=
  ((answerWords table line.blankWords fun deed args =>
    match deed with
    | .extra deed => pure (extra deed args)
    | .help => .fail .missingField
    | .recipes | .recipe | .craft | .checkNotes => .fail .wrongType : Act Unit Reply) ()).value

end Crafting.Console
