import Crafting.Assoc
import Crafting.Text.Blank
import Crafting.Text.Case

/-!
# Command tables

Commands under their names and aliases. A line is split into words; the longest run of words at its beginning that names
a command calls it, and the words after it are the arguments. Names may have several words.
-/

namespace Crafting.Console

/-- A command, with what it does as a value of `α`. -/
structure Command (α : Type) where
  name : String
  aliases : List String := []
  category : String := "system"
  help : String := "No help available."
  deed : α

structure Table (α : Type) where
  /-- The command under every name and alias. -/
  entries : List (String × Command α) := []
  /-- The commands of every category, in order of registration. -/
  groups : List (String × List (Command α)) := []

namespace Table

variable {α : Type}

/-- Registers a command. A name that is taken goes over to it. -/
def register (command : Command α) (table : Table α) : Table α :=
  { entries := (command.name :: command.aliases).foldl (fun entries key => Assoc.put key command entries) table.entries
    groups := Assoc.put command.category (((Assoc.get? command.category table.groups).getD []) ++ [command])
      table.groups }

def find? (table : Table α) (key : String) : Option (Command α) :=
  Assoc.get? key table.entries

/-- The key of some words: they stand in lower case with single spaces between them. -/
def keyOf (words : List String) : String :=
  (" ".intercalate words).lowered

/-- The command that the first `count` words name, or else fewer of them, and the words that are left. -/
def dispatchUpTo (table : Table α) (words : List String) : (count : Nat) → Option (Command α × List String)
  | 0 => none
  | count + 1 =>
      match table.find? (keyOf (words.take (count + 1))) with
      | some command => some (command, words.drop (count + 1))
      | none => dispatchUpTo table words count

/-- The command that a line calls, and its arguments. -/
def dispatch (table : Table α) (words : List String) : Option (Command α × List String) :=
  dispatchUpTo table words words.length

end Table

end Crafting.Console
