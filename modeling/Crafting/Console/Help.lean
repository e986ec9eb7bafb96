import Crafting.Console.Table
import Crafting.FormatCode

/-!
# Help

What the commands are: all of them by category, or one in detail.
-/

namespace Crafting.Console

open FormatCode

/-- The lines of a text, cut at line feeds only. -/
def textLines (text : String) : List String :=
  (Text.pieces (· == '\n') text.toList).map String.ofList

namespace Table

variable {α : Type}

/-- One command in detail. -/
def details (command : Command α) : String :=
  paint .yellow ("Command: " ++ command.name.uppered) ++ "\n" ++
    (if command.aliases.isEmpty then ""
      else paint .cyan "Aliases:" ++ " " ++ ", ".intercalate command.aliases ++ "\n") ++
    String.join ((textLines command.help).map fun line => "  " ++ line ++ "\n")

/-- The line of a command in the overview: its name and the first line of its help. -/
def overviewLine (command : Command α) : String :=
  "  " ++ paint .green command.name ++ " - " ++ (textLines command.help).headD ""

/-- Sorts by a text, by code points; entries with one text keep their order. -/
def sortedBy {β : Type} (key : β → String) (entries : List β) : List β :=
  entries.mergeSort fun a b => !decide (key b < key a)

/-- All commands by category. Categories without commands are left out. -/
def overview (table : Table α) : String :=
  let groups := sortedBy (·.1) (table.groups.filter fun group => !group.2.isEmpty)
  "\n".intercalate (paint .yellow "Commands" :: groups.flatMap fun (category, commands) =>
    paint .cyan category.capitalized :: (sortedBy (·.name) commands).map overviewLine)

/-- The help on a command, or on all of them if none is named. -/
def help (table : Table α) (name : Option String) : String :=
  match name with
  | none | some "" => table.overview
  | some name =>
      match table.find? name.lowered with
      | some command => details command
      | none => paint .red ("No help found for '" ++ name ++ "'.")

end Table

end Crafting.Console
