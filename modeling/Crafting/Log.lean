/-!
# Log entries

What the parts of the library report: a level, the reporting part and a text. Entries are kept in order; a gate decides
which of them are written.
-/

namespace Crafting.Log

structure Entry where
  level : Int
  source : String
  text : String
  deriving DecidableEq

def debug (source text : String) : Entry := ⟨0, source, text⟩
def info (source text : String) : Entry := ⟨1, source, text⟩
def warning (source text : String) : Entry := ⟨2, source, text⟩
def error (source text : String) : Entry := ⟨3, source, text⟩
def critical (source text : String) : Entry := ⟨4, source, text⟩

/-- The name of a level, five characters wide. -/
def label : Int → String
  | 0 => "DEBUG"
  | 1 => "INFO "
  | 2 => "WARN "
  | 3 => "ERROR"
  | 4 => "CRIT "
  | _ => "LOG  "

def Entry.line (entry : Entry) : String :=
  "[" ++ label entry.level ++ "] [" ++ entry.source ++ "] " ++ entry.text

/-- Lets entries of at least its level through. -/
structure Gate where
  level : Int := 0

def Gate.admits (gate : Gate) (level : Int) : Bool :=
  gate.level ≤ level

/-- The lines that the gate lets through. -/
def Gate.lines (gate : Gate) (entries : List Entry) : List String :=
  (entries.filter fun entry => gate.admits entry.level).map Entry.line

theorem Gate.lines_append (gate : Gate) (a b : List Entry) :
    gate.lines (a ++ b) = gate.lines a ++ gate.lines b := by
  simp [lines]

end Crafting.Log
