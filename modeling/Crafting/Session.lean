import Crafting.Console.Basic

/-!
# Text sessions

A prompt in a plain terminal: the recipes are listed, then each line is answered until the player quits or the input
ends. What is printed is kept as one text, so that it is there also if a command fails.
-/

namespace Crafting

structure Session (σ ι ω : Type) where
  workshop : Workshop σ ι ω
  printed : String := ""

namespace Session

variable {σ ι ω : Type} [Inventory σ] [DecidableEq ι] [Audience ι Notice ω]

/-- A session has no commands but the workshop's own. -/
def table : Console.Table (Console.Deed Empty) := Console.builtIn

def print (text : String) : Act (Session σ ι ω) Unit :=
  .modify fun s => { s with printed := s.printed ++ text }

/-- Answers a line with the workshop's commands. -/
def answer (line : String) : Act (Session σ ι ω) String := do
  let reply ← Act.zoom (·.workshop) (fun workshop s => { s with workshop })
    (Console.answer table (fun deed _ => nomatch deed) line)
  return reply.text

/-- Prints a text without its colour codes on a line of its own. -/
def printLine (text : String) : Act (Session σ ι ω) Unit :=
  print (text.withoutCodes ++ "\n")

/-- Whether a line ends the session. -/
def isQuit (line : String) : Bool :=
  let word := line.trimBlanks.lowered
  word == "quit" || word == "exit"

/-- The list with which a session begins. -/
def start : Act (Session σ ι ω) Unit := do
  printLine (← answer "recipes")

/-- Answers a line, if there is an answer; `false` ends the session. -/
def respond (line : String) : Act (Session σ ι ω) Bool := do
  if isQuit line then return false
  let output ← answer line
  if !output.isEmpty then printLine output
  return true

/-- The lines of an input, cut at line feeds. Behind the last line feed there is a line only if there is a text. -/
def inputLines (text : String) : List String :=
  let lines := Console.textLines text
  if lines.getLast? = some "" then lines.dropLast else lines

/-- What stands before a line of the player's. -/
def promptText : String := "> "

/-- Prompts for lines until one ends the session or none is left. -/
def prompt : List String → Act (Session σ ι ω) Unit
  | [] => print promptText
  | line :: rest => do
      print promptText
      if ← respond line then prompt rest

/-- A whole session. -/
def run (lines : List String) : Act (Session σ ι ω) Unit := do
  start
  prompt lines

end Session

end Crafting
