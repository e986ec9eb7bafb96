import Crafting.Act
import Crafting.Note.Block
import Crafting.Note.Tag

/-!
# Scanning notes

The recipes of a note are those of its blocks. A malformed block is passed over with a word in the log. Either every
block counts, or only the first that can be read.
-/

namespace Crafting.Note

/-- Which blocks of a note count. -/
inductive Mode where
  | every
  | first
  deriving DecidableEq

def logSource : String := "RecipeParser"

/-- What a note is called in the log. -/
def owner : Option EntityRef → Except Failure String
  | none => .ok "note"
  | some source => source.text

/-- The report that a block is passed over; `which` tells it by its number, where it has one. -/
def skippedText (which : String) (source : Option EntityRef) (fault : Fault) : Except Failure String := do
  return "Skipping recipe block " ++ which ++ "of " ++ (← owner source) ++ ": " ++ fault.message

/-- The numbered blocks of a note, each with the recipe it declares or what refuses it. -/
def readings (note : String) (source : Option EntityRef) : List (Nat × Except Refusal Recipe) :=
  (blocks note.toList).zipIdx 1 |>.map fun (body, number) => (number, readBlock body source)

variable {σ : Type}

def keepRecipes (source : Option EntityRef) : List (Nat × Except Refusal Recipe) → Act σ (List Recipe)
  | [] => pure []
  | (_, .ok recipe) :: rest => do return recipe :: (← keepRecipes source rest)
  | (number, .error (.malformed fault)) :: rest => do
      .report (Log.debug logSource) (skippedText (toString number ++ " ") source fault)
      keepRecipes source rest
  | (_, .error (.costTooLong digits)) :: _ => .fail (.tooManyDigits digits)

/-- The recipes of a note, in order. -/
def recipes (note : String) (source : Option EntityRef) : Act σ (List Recipe) :=
  keepRecipes source (readings note source)

def keepFirst (source : Option EntityRef) : List (Nat × Except Refusal Recipe) → Act σ (Option Recipe)
  | [] => pure none
  | (_, .ok recipe) :: _ => pure (some recipe)
  | (_, .error (.malformed fault)) :: rest => do
      .report (Log.debug logSource) (skippedText "" source fault)
      keepFirst source rest
  | (_, .error (.costTooLong digits)) :: _ => .fail (.tooManyDigits digits)

/-- The first recipe of a note. -/
def firstRecipe (note : String) (source : Option EntityRef) : Act σ (Option Recipe) :=
  keepFirst source (readings note source)

/-- The recipes of a note that count. -/
def recipesIn (mode : Mode) (note : String) (source : Option EntityRef) : Act σ (List Recipe) :=
  match mode with
  | .every => recipes note source
  | .first => do return (← firstRecipe note source).toList

def keepProblems : List (Nat × Except Refusal Recipe) → Except Failure (List String)
  | [] => .ok []
  | (_, .ok _) :: rest => keepProblems rest
  | (number, .error (.malformed fault)) :: rest =>
      (keepProblems rest).map (("recipe block " ++ toString number ++ ": " ++ fault.message) :: ·)
  | (_, .error (.costTooLong digits)) :: _ => .error (.tooManyDigits digits)

/-- What the author has to mend: one message for each malformed block. -/
def problems (note : String) : Except Failure (List String) :=
  keepProblems (readings note none)

end Crafting.Note
